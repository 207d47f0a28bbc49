import FlareCore.Server.Negotiation

/-!
# The client's side of the handshake

A client asks for a preferred format and compression, or forces them.  A client that forces
starts out with a parser for what it forces, sends CONNECT with it, and keeps it whatever the
acknowledgement says; any other client starts out with the parser before negotiation and
switches to the profile that the acknowledgement announces.

The metadata of CONNECT is assembled from the profile, the device, the user and the token; the
configured extra metadata comes last and replaces what it repeats.
-/

namespace FlareCore.Client

open FlareCore.Common FlareCore.Server

set_option autoImplicit false

/-- The part of the configuration that the handshake reads. -/
structure ClientConfig where
  serializationFormat : SerializationFormat
  compression : CompressionAlgorithm
  forceSerializationFormat : Option SerializationFormat
  forceCompression : Option CompressionAlgorithm
  deviceInfo : Option DeviceInfo
  userId : Option String
  token : Option String
  metadata : StringMap String

namespace ClientConfig

variable (config : ClientConfig)

def isForceFormat : Bool :=
  config.forceSerializationFormat.isSome || config.forceCompression.isSome

def getSerializationFormat : SerializationFormat :=
  config.forceSerializationFormat.getD config.serializationFormat

def getCompression : CompressionAlgorithm :=
  config.forceCompression.getD config.compression

/-- `determine_initial_format`, as the parser a client starts out with. -/
def initialParser : MessageParser :=
  if config.isForceFormat then .new config.getSerializationFormat config.getCompression .none
  else .preNegotiation

/-! ## CONNECT -/

/-- `determine_connect_format`: the format, the compression, and whether to send the format. -/
def determineConnectFormat : SerializationFormat × CompressionAlgorithm × Bool :=
  if config.isForceFormat then (config.getSerializationFormat, config.getCompression, true)
  else (config.serializationFormat, config.compression, config.serializationFormat ≠ .json)

/-- `accepted_compressions`: the built-in algorithms that are registered. -/
def acceptedCompressions (registries : Registries) : List String :=
  ([CompressionAlgorithm.gzip, .zstd].map CompressionAlgorithm.asStr).filter
    registries.compressorRegistered

/-- Writes entries that are strings, later ones replacing earlier ones. -/
def insertStrings (metadata : StringMap Bytes) (entries : List (String × String)) :
    StringMap Bytes :=
  entries.foldl (fun metadata entry => metadata.insert entry.1 (utf8 entry.2)) metadata

/-- The entries of a map with string values. -/
def stringEntries (map : StringMap String) : List (String × String) :=
  map.entries.map fun entry => (entry.1, entry.2)

/-- An entry that is written only when there is a value. -/
def optionalEntry (key : String) (value : Option String) : List (String × String) :=
  value.toList.map fun value => (key, value)

/-- The format names of CONNECT. -/
def formatName : SerializationFormat → String
  | .protobuf => "protobuf"
  | .json => "json"

/-- `add_device_metadata`. -/
def deviceEntries : List (String × String) :=
  match config.deviceInfo with
  | none => []
  | some device =>
      [("device_id", device.deviceId), ("platform", device.platform.asStr)] ++
        optionalEntry "model" device.model ++ optionalEntry "app_version" device.appVersion ++
        optionalEntry "system_version" device.systemVersion ++ stringEntries device.metadata

/-- `build_connect_metadata`. -/
def buildConnectMetadata (registries : Registries) : StringMap Bytes :=
  let (format, compression, shouldSendFormat) := config.determineConnectFormat
  let accepted := acceptedCompressions registries
  insertStrings ∅
    ((if shouldSendFormat then [("format", formatName format)] else []) ++
      (if compression ≠ .none then [("compression", compression.asStr)] else []) ++
      (if accepted ≠ [] then [("accept_compression", ",".intercalate accepted)] else []) ++
      (if config.isForceFormat then [("force_format", "true")] else []) ++
      config.deviceEntries ++ optionalEntry "user_id" config.userId ++
      optionalEntry "token" config.token ++ stringEntries config.metadata)

/-- The frame of `send_connect_message`. -/
def connectFrame (registries : Registries) (stamp : Stamp) : Frame :=
  .withSystemCommand stamp (.connect .json (config.buildConnectMetadata registries)) .atLeastOnce

end ClientConfig

/-! ## CONNECT_ACK -/

section Acknowledgement

variable [RustText]

/-- `handle_connect_ack`: the profile that an acknowledgement announces. -/
def handleConnectAck (frame : Frame) : Result Profile :=
  match systemCommand frame with
  | none => .error (.protocolError "Not a CONNECT_ACK message")
  | some command =>
      match SystemType.ofInt32 command.type with
      | none => .error (.protocolError "Invalid system command type")
      | some kind =>
          if kind ≠ .connectAck then .error (.protocolError "Not a CONNECT_ACK message")
          else .ok {
            format := (SerializationFormat.ofInt32 command.format).getD .json
            compression := .fromStr command.compression
            encryption := .fromStr command.encryption }

/-- The parser of a client after `handle_connect_ack_command`; a failure to read the
acknowledgement ends the negotiation and leaves the parser as it is. -/
def ClientConfig.parserAfterAck (config : ClientConfig) (parser : MessageParser) (ack : Frame) :
    MessageParser :=
  match handleConnectAck ack with
  | .error _ => parser
  | .ok profile => if config.isForceFormat then parser else profile.parser

/-- What the server's acknowledgement announces. -/
theorem handleConnectAck_createConnectAck (registries : Registries) (stamp : Stamp)
    (format : SerializationFormat) (compression : CompressionAlgorithm)
    (encryption : EncryptionAlgorithm) (metadata : StringMap Bytes) (reliability : Reliability) :
    handleConnectAck (.withSystemCommand stamp
        (createConnectAck registries format compression encryption metadata) reliability) =
      .ok ⟨format, .fromStr (announcedCompression registries compression),
        .fromStr (announcedEncryption registries encryption)⟩ := by
  simp only [handleConnectAck, systemCommand, Frame.withSystemCommand, Frame.withCommand,
    Frame.commandType, Option.bind_some, createConnectAck, SystemCommand.connectAck,
    SystemCommand.withMessage, SystemType.ofInt32_toInt32, ne_eq, not_true, if_false,
    SerializationFormat.ofInt32_toInt32, Option.getD_some]

end Acknowledgement

end FlareCore.Client

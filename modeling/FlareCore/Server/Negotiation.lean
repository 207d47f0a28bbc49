import FlareCore.Common.Formats
import FlareCore.Server.Connection.Operations

/-!
# The messages of the handshake

A client opens with CONNECT, whose metadata says which format, compression and encryption it
asks for, which compressions it can undo, and which device and user it is.  Every value is a
byte string, and one that is not UTF-8 counts as absent.  The server answers with CONNECT_ACK,
which carries the profile it settled on: a number for the format and two names.

`create_connect_ack` checks the two names against the registries once more and announces
`none` for an algorithm that is not registered.
-/

namespace FlareCore.Server

open FlareCore.Common

set_option autoImplicit false

/-! ## Text -/

/-- `str::trim`. -/
def trim (text : String) : String :=
  String.ofList (((text.toList.dropWhile isWhitespace).reverse.dropWhile isWhitespace).reverse)

/-- `str::split` at commas. -/
def splitCommas (text : String) : List String :=
  (text.toList.splitOn ',').map String.ofList

/-- `serde_json::to_string` of a list of strings. -/
def jsonStrings (texts : List String) : String :=
  jsonList (texts.map jsonString)

/-! ## CONNECT -/

/-- `metadata_string`. -/
def metadataString (metadata : StringMap Bytes) (key : String) : Option String :=
  (metadata.lookup key).bind fromUtf8

/-- `DEVICE_RESERVED_METADATA_KEYS`. -/
def deviceReservedMetadataKeys : List String :=
  ["compression", "accept_compression", "format", "encryption", "device_id", "platform", "model",
    "app_version", "system_version", "user_id", "tenant_id", "force_format"]

/-- What a client asks for. -/
structure NegotiationResult where
  serializationFormat : SerializationFormat
  serializationFormatSpecified : Bool
  compression : CompressionAlgorithm
  acceptedCompressions : List CompressionAlgorithm
  encryption : EncryptionAlgorithm
  isForced : Bool
  deviceInfo : Option DeviceInfo
  userId : Option String
  tenantId : Option String

def NegotiationResult.default : NegotiationResult where
  serializationFormat := .json
  serializationFormatSpecified := false
  compression := .none
  acceptedCompressions := []
  encryption := .none
  isForced := false
  deviceInfo := none
  userId := none
  tenantId := none

/-- `connect_system_command`, and every other place that looks for a system command. -/
def systemCommand (frame : Frame) : Option SystemCommand :=
  match frame.commandType with
  | some (.system command) => some command
  | _ => none

/-- `parse_serialization_format`: an unknown name is JSON, but specified. -/
def parseSerializationFormat (metadata : StringMap Bytes) : SerializationFormat × Bool :=
  match metadataString metadata "format" with
  | none => (.json, false)
  | some value =>
      if eqIgnoreAsciiCase value "protobuf" || eqIgnoreAsciiCase value "proto" then
        (.protobuf, true)
      else (.json, true)

section Names

variable [RustText]

def parseCompression (metadata : StringMap Bytes) : CompressionAlgorithm :=
  ((metadataString metadata "compression").map .fromStr).getD .none

/-- `parse_accepted_compressions`: a comma list, without `none` and repetitions. -/
def parseAcceptedCompressions (metadata : StringMap Bytes) : List CompressionAlgorithm :=
  match metadataString metadata "accept_compression" with
  | none => []
  | some value =>
      let names := ((splitCommas value).map trim).filter fun name => name ≠ ""
      (names.map CompressionAlgorithm.fromStr).foldl (fun accepted algorithm =>
        if algorithm ≠ .none ∧ algorithm ∉ accepted then accepted ++ [algorithm] else accepted) []

def parseEncryption (metadata : StringMap Bytes) : EncryptionAlgorithm :=
  ((metadataString metadata "encryption").map .fromStr).getD .none

/-- The metadata of a device: every readable entry that is not a reserved key. -/
def deviceMetadata (metadata : StringMap Bytes) : StringMap String :=
  (metadata.entries.filter fun entry => entry.1 ∉ deviceReservedMetadataKeys).foldl
    (fun device entry =>
      match fromUtf8 entry.2 with
      | some value => device.insert entry.1 value
      | none => device) ∅

def parseDeviceInfo (metadata : StringMap Bytes) : Option DeviceInfo :=
  (metadataString metadata "device_id").map fun deviceId =>
    { deviceId := deviceId
      platform := ((metadataString metadata "platform").map .fromStr).getD (.other "unknown")
      model := metadataString metadata "model"
      appVersion := metadataString metadata "app_version"
      systemVersion := metadataString metadata "system_version"
      metadata := deviceMetadata metadata }

/-- `parse_connect_message`; it never fails. -/
def parseConnectMessage (frame : Frame) : NegotiationResult :=
  match systemCommand frame with
  | none => .default
  | some command =>
      if command.type ≠ SystemType.connect.toInt32 then .default
      else
        let metadata := command.metadata
        { serializationFormat := (parseSerializationFormat metadata).1
          serializationFormatSpecified := (parseSerializationFormat metadata).2
          compression := parseCompression metadata
          acceptedCompressions := parseAcceptedCompressions metadata
          encryption := parseEncryption metadata
          isForced := metadataString metadata "force_format" = some "true"
          deviceInfo := parseDeviceInfo metadata
          userId := metadataString metadata "user_id"
          tenantId := metadataString metadata "tenant_id" }

/-- Parsing a CONNECT reads each field off the metadata. -/
theorem parseConnectMessage_of_connect {frame : Frame} {command : SystemCommand}
    (isSystem : systemCommand frame = some command)
    (isConnect : command.type = SystemType.connect.toInt32) :
    parseConnectMessage frame =
      { serializationFormat := (parseSerializationFormat command.metadata).1
        serializationFormatSpecified := (parseSerializationFormat command.metadata).2
        compression := parseCompression command.metadata
        acceptedCompressions := parseAcceptedCompressions command.metadata
        encryption := parseEncryption command.metadata
        isForced := metadataString command.metadata "force_format" = some "true"
        deviceInfo := parseDeviceInfo command.metadata
        userId := metadataString command.metadata "user_id"
        tenantId := metadataString command.metadata "tenant_id" } := by
  rw [parseConnectMessage, isSystem]
  exact if_neg (not_not.mpr isConnect)

end Names

/-! ## CONNECT_ACK -/

/-- The compression name `create_connect_ack` announces. -/
def announcedCompression (registries : Registries) (compression : CompressionAlgorithm) : String :=
  if registries.compressorRegistered compression.asStr then compression.asStr else "none"

/-- The encryption name `create_connect_ack` announces. -/
def announcedEncryption (registries : Registries) (encryption : EncryptionAlgorithm) : String :=
  if encryption ≠ .none ∧ ¬registries.encryptorRegistered encryption.asStr then "none"
  else encryption.asStr

/-- `create_connect_ack`. -/
def createConnectAck (registries : Registries) (format : SerializationFormat)
    (compression : CompressionAlgorithm) (encryption : EncryptionAlgorithm)
    (additionalMetadata : StringMap Bytes) : SystemCommand :=
  .connectAck format (some (announcedCompression registries compression))
    (some (announcedEncryption registries encryption)) additionalMetadata

section Announced

variable [RustText] (registries : Registries)

/-- An algorithm that the acknowledgement announces under its own name, and whose name reads
back as itself. -/
def CompressionAnnounceable (compression : CompressionAlgorithm) : Prop :=
  compression = .none ∨
    registries.compressorRegistered compression.asStr = true ∧
      CompressionAlgorithm.fromStr compression.asStr = compression

/-- An algorithm that the acknowledgement announces under its own name, and whose name reads
back as itself. -/
def EncryptionAnnounceable (encryption : EncryptionAlgorithm) : Prop :=
  encryption = .none ∨
    registries.encryptorRegistered encryption.asStr = true ∧
      EncryptionAlgorithm.fromStr encryption.asStr = encryption

instance (compression : CompressionAlgorithm) :
    Decidable (CompressionAnnounceable registries compression) :=
  inferInstanceAs (Decidable (_ ∨ _))

instance (encryption : EncryptionAlgorithm) :
    Decidable (EncryptionAnnounceable registries encryption) :=
  inferInstanceAs (Decidable (_ ∨ _))

/-- The announced name reads back as the algorithm exactly if it is announceable. -/
theorem fromStr_announcedCompression (compression : CompressionAlgorithm) :
    CompressionAlgorithm.fromStr (announcedCompression registries compression) = compression ↔
      CompressionAnnounceable registries compression := by
  unfold announcedCompression CompressionAnnounceable
  split_ifs with registered
  · constructor
    · intro readBack
      exact Or.inr ⟨registered, readBack⟩
    · rintro (rfl | ⟨-, readBack⟩)
      · exact CompressionAlgorithm.fromStr_none
      · exact readBack
  · rw [CompressionAlgorithm.fromStr_none]
    constructor
    · intro same
      exact Or.inl same.symm
    · rintro (rfl | ⟨isRegistered, -⟩)
      · rfl
      · exact absurd isRegistered registered

/-- The announced name reads back as the algorithm exactly if it is announceable. -/
theorem fromStr_announcedEncryption (encryption : EncryptionAlgorithm) :
    EncryptionAlgorithm.fromStr (announcedEncryption registries encryption) = encryption ↔
      EncryptionAnnounceable registries encryption := by
  unfold announcedEncryption EncryptionAnnounceable
  split_ifs with missing
  · obtain ⟨notNone, unregistered⟩ := missing
    rw [EncryptionAlgorithm.fromStr_none]
    constructor
    · intro same
      exact absurd same.symm notNone
    · rintro (same | ⟨isRegistered, -⟩)
      · exact absurd same notNone
      · exact absurd isRegistered unregistered
  · constructor
    · intro readBack
      by_cases none : encryption = .none
      · exact Or.inl none
      · refine Or.inr ⟨?_, readBack⟩
        by_contra unregistered
        exact missing ⟨none, unregistered⟩
    · rintro (rfl | ⟨-, readBack⟩)
      · exact EncryptionAlgorithm.fromStr_none
      · exact readBack

end Announced

end FlareCore.Server

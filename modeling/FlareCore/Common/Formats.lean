import FlareCore.Common.Codec

/-!
# The built-in formats

`JsonSerializer` writes frames with the derived `serde` instances, `ProtobufSerializer` with
`prost`.  Both encoders are written out here after the generated types: in JSON every field
appears under its own name and bytes are lists of numbers, in protobuf a field with its default
value is left out.

The decoders of the libraries are not written out.  A decoder below is given the frames that it
may meet and looks for the one with the encoding at hand, which is enough for a concrete run.
-/

namespace FlareCore.Common

set_option autoImplicit false

/-! ## JSON -/

/-- The escape sequence of a character in a JSON string, as `serde_json` writes it. -/
def jsonEscape (c : Char) : String :=
  if c.toNat = 0x22 then "\\\""
  else if c.toNat = 0x5C then "\\\\"
  else if c.toNat = 0x08 then "\\b"
  else if c.toNat = 0x09 then "\\t"
  else if c.toNat = 0x0A then "\\n"
  else if c.toNat = 0x0C then "\\f"
  else if c.toNat = 0x0D then "\\r"
  else if c.toNat < 0x10 then "\\u000" ++ String.ofList (Nat.toDigits 16 c.toNat)
  else if c.toNat < 0x20 then "\\u00" ++ String.ofList (Nat.toDigits 16 c.toNat)
  else c.toString

def jsonString (text : String) : String :=
  "\"" ++ String.join (text.toList.map jsonEscape) ++ "\""

def jsonList (elements : List String) : String :=
  "[" ++ ",".intercalate elements ++ "]"

/-- An object, from its keys and encoded values. -/
def jsonObject (fields : List (String × String)) : String :=
  "\x7b" ++ ",".intercalate (fields.map fun field => jsonString field.1 ++ ":" ++ field.2) ++ "\x7d"

def jsonBytes (bytes : Bytes) : String :=
  jsonList (bytes.map fun byte => toString byte.toNat)

def jsonMetadata (metadata : StringMap Bytes) : String :=
  jsonObject (metadata.entries.map fun entry => (entry.1, jsonBytes entry.2))

def jsonInt32 (value : Int32) : String :=
  toString value.toInt

def SystemCommand.json (command : SystemCommand) : String :=
  jsonObject [("type", jsonInt32 command.type), ("format", jsonInt32 command.format),
    ("message", jsonString command.message), ("metadata", jsonMetadata command.metadata),
    ("data", jsonBytes command.data), ("compression", jsonString command.compression),
    ("encryption", jsonString command.encryption)]

def PayloadCommand.json (command : PayloadCommand) : String :=
  jsonObject [("type", jsonInt32 command.type), ("message_id", jsonString command.messageId),
    ("payload", jsonBytes command.payload), ("metadata", jsonMetadata command.metadata),
    ("seq", toString command.seq.toNat)]

def NotificationCommand.json (command : NotificationCommand) : String :=
  jsonObject [("type", jsonInt32 command.type), ("title", jsonString command.title),
    ("content", jsonBytes command.content), ("metadata", jsonMetadata command.metadata)]

def CustomCommand.json (command : CustomCommand) : String :=
  jsonObject [("name", jsonString command.name), ("data", jsonBytes command.data),
    ("metadata", jsonMetadata command.metadata)]

def CommandType.json : CommandType → String
  | .system command => jsonObject [("system", command.json)]
  | .payload command => jsonObject [("payload", command.json)]
  | .notification command => jsonObject [("notification", command.json)]
  | .custom command => jsonObject [("custom", command.json)]

def Command.json (command : Command) : String :=
  jsonObject [("type", command.type.elim "null" CommandType.json)]

/-- `serde_json::to_string` of a frame. -/
def Frame.json (frame : Frame) : String :=
  jsonObject [("command", frame.command.elim "null" Command.json),
    ("message_id", jsonString frame.messageId), ("reliability", jsonInt32 frame.reliability),
    ("timestamp", toString frame.timestamp.toNat), ("metadata", jsonMetadata frame.metadata)]

theorem utf8_append (first second : String) : utf8 (first ++ second) = utf8 first ++ utf8 second := by
  simp [utf8, String.toByteArray_append, ByteArray.data_append]

/-- The JSON of a frame is an object. -/
theorem head_utf8_json (frame : Frame) : (utf8 frame.json).head? = some 0x7B := by
  rw [Frame.json, jsonObject, String.append_assoc, utf8_append]
  rfl

/-! ## Protobuf -/

/-- A variable-length integer of at most `fuel` bytes. -/
def varintWithin : Nat → Nat → Bytes
  | 0, _ => []
  | fuel + 1, value =>
      if value < 128 then [UInt8.ofNat value]
      else UInt8.ofNat (value % 128 + 128) :: varintWithin fuel (value / 128)

/-- `encode_varint`, for 64-bit values. -/
def varint (value : Nat) : Bytes :=
  varintWithin 10 value

/-- A length-delimited field. -/
def protobufDelimited (tag : Nat) (bytes : Bytes) : Bytes :=
  varint (8 * tag + 2) ++ varint bytes.length ++ bytes

/-- A field with bytes or text. -/
def protobufBytes (tag : Nat) (bytes : Bytes) : Bytes :=
  if bytes = [] then [] else protobufDelimited tag bytes

def protobufString (tag : Nat) (text : String) : Bytes :=
  protobufBytes tag (utf8 text)

def protobufVarint (tag value : Nat) : Bytes :=
  if value = 0 then [] else varint (8 * tag) ++ varint value

/-- An enumeration; a negative number is extended to 64 bits. -/
def protobufInt32 (tag : Nat) (value : Int32) : Bytes :=
  protobufVarint tag value.toInt64.toUInt64.toNat

def protobufMetadata (tag : Nat) (metadata : StringMap Bytes) : Bytes :=
  metadata.entries.flatMap fun entry =>
    protobufDelimited tag (protobufString 1 entry.1 ++ protobufBytes 2 entry.2)

def SystemCommand.protobuf (command : SystemCommand) : Bytes :=
  protobufInt32 1 command.type ++ protobufInt32 2 command.format ++
    protobufString 3 command.message ++ protobufMetadata 4 command.metadata ++
    protobufBytes 5 command.data ++ protobufString 6 command.compression ++
    protobufString 7 command.encryption

def PayloadCommand.protobuf (command : PayloadCommand) : Bytes :=
  protobufInt32 1 command.type ++ protobufString 2 command.messageId ++
    protobufBytes 3 command.payload ++ protobufMetadata 4 command.metadata ++
    protobufVarint 5 command.seq.toNat

def NotificationCommand.protobuf (command : NotificationCommand) : Bytes :=
  protobufInt32 1 command.type ++ protobufString 2 command.title ++
    protobufBytes 3 command.content ++ protobufMetadata 4 command.metadata

def CustomCommand.protobuf (command : CustomCommand) : Bytes :=
  protobufString 1 command.name ++ protobufBytes 2 command.data ++
    protobufMetadata 3 command.metadata

def CommandType.protobuf : CommandType → Bytes
  | .system command => protobufDelimited 1 command.protobuf
  | .payload command => protobufDelimited 2 command.protobuf
  | .notification command => protobufDelimited 3 command.protobuf
  | .custom command => protobufDelimited 4 command.protobuf

def Command.protobuf (command : Command) : Bytes :=
  command.type.elim [] CommandType.protobuf

/-- `prost::Message::encode` of a frame. -/
def Frame.protobuf (frame : Frame) : Bytes :=
  frame.command.elim [] (fun command => protobufDelimited 1 command.protobuf) ++
    protobufString 2 frame.messageId ++ protobufInt32 3 frame.reliability ++
    protobufVarint 4 frame.timestamp.toNat ++ protobufMetadata 5 frame.metadata

/-! ## Serializers -/

/-- Finds the frame behind an encoding among the frames that may be met. -/
def decodeAmong (encode : Frame → Bytes) (known : List Frame) (message : String) (data : Bytes) :
    Result Frame :=
  match known.find? fun frame => encode frame = data with
  | some frame => .ok frame
  | none => .error (.deserializationError message)

/-- `JsonSerializer`. -/
def jsonSerializer (known : List Frame) : Serializer where
  serialize frame := .ok (utf8 frame.json)
  deserialize := decodeAmong (fun frame => utf8 frame.json) known "JSON decode error"
  canDetect data := data.head? = some 0x7B || data.head? = some 0x5B

/-- `ProtobufSerializer`. -/
def protobufSerializer (known : List Frame) : Serializer where
  serialize frame := .ok frame.protobuf
  deserialize := decodeAmong Frame.protobuf known "Protobuf decode error"
  canDetect data := !data.isEmpty

/-- `NoEncryptor`. -/
def Encryptor.passThrough : Encryptor where
  encrypt data := .ok fun _ => data
  decrypt := .ok

/-- The registries of a process that has registered nothing of its own and was built without
compression. -/
def builtinRegistries (known : List Frame) : Registries where
  serializers := ((∅ : StringMap Serializer).insert "protobuf" (protobufSerializer known)).insert
    "json" (jsonSerializer known)
  compressors := (∅ : StringMap Compressor).insert "none" .passThrough
  encryptors := (∅ : StringMap Encryptor).insert "none" .passThrough

end FlareCore.Common

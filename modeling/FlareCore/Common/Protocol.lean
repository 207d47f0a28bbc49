import Mathlib.Data.List.AList

/-!
# Errors, frames and commands

The data every other module passes around: the error type of the crate and the
protocol messages generated from its protobuf schema.  A `Frame` carries at most
one command; commands are system commands (CONNECT, PING, KICKED, ...), payloads,
notifications and custom commands.  Enumerated fields are `i32` on the wire, so a
command holds the number and the enumeration is recovered by `ofInt32`, which
fails on numbers the schema does not know.
-/

namespace FlareCore.Common

set_option autoImplicit false

/-- Byte strings, `Vec<u8>` in the source. -/
abbrev Bytes := List UInt8

/-- Hash maps with string keys. -/
abbrev StringMap (V : Type) := AList (fun _ : String => V)

/-- The bytes of a string. -/
def utf8 (text : String) : Bytes :=
  text.toUTF8.data.toList

/-- `str::from_utf8(..).ok()`. -/
def fromUtf8 (bytes : Bytes) : Option String :=
  String.fromUTF8? ⟨bytes.toArray⟩

theorem fromUtf8_utf8 (text : String) : fromUtf8 (utf8 text) = some text := by
  have valid : (⟨(utf8 text).toArray⟩ : ByteArray).IsValidUTF8 := text.isValidUTF8
  rw [fromUtf8, String.fromUTF8?, dif_pos valid]
  rfl

/-! ## Errors -/

/-- The error codes of the crate. -/
inductive ErrorCode where
  | connectionFailed | connectionTimeout | connectionClosed | connectionRefused
  | connectionLimitExceeded | notConnected | connectionReconnecting
  | authenticationFailed | authenticationExpired | authenticationInvalid
  | authenticationRequired | permissionDenied | tokenInvalid | tokenExpired
  | protocolError | protocolVersionMismatch | protocolNotSupported
  | messageFormatError | messageTooLarge | invalidCommand
  | messageSendFailed | messageDeliveryFailed | messageNotFound | messageExpired
  | messageRateLimitExceeded | messageDecodeFailed
  | userNotFound | userOffline | userBlocked | userQuotaExceeded
  | userSessionLimitExceeded
  | internalError | serviceUnavailable | resourceExhausted | configurationError
  | databaseError
  | networkError | networkTimeout | networkUnreachable | networkConnectionLost
  | serializationError | deserializationError | encodingError
  | generalError | invalidParameter | operationNotSupported | operationFailed
  | operationTimeout | unknownError
  deriving DecidableEq, Repr

/-- The name of a code. -/
def ErrorCode.asStr : ErrorCode → String
  | connectionFailed => "CONNECTION_FAILED"
  | connectionTimeout => "CONNECTION_TIMEOUT"
  | connectionClosed => "CONNECTION_CLOSED"
  | connectionRefused => "CONNECTION_REFUSED"
  | connectionLimitExceeded => "CONNECTION_LIMIT_EXCEEDED"
  | notConnected => "NOT_CONNECTED"
  | connectionReconnecting => "CONNECTION_RECONNECTING"
  | authenticationFailed => "AUTHENTICATION_FAILED"
  | authenticationExpired => "AUTHENTICATION_EXPIRED"
  | authenticationInvalid => "AUTHENTICATION_INVALID"
  | authenticationRequired => "AUTHENTICATION_REQUIRED"
  | permissionDenied => "PERMISSION_DENIED"
  | tokenInvalid => "TOKEN_INVALID"
  | tokenExpired => "TOKEN_EXPIRED"
  | protocolError => "PROTOCOL_ERROR"
  | protocolVersionMismatch => "PROTOCOL_VERSION_MISMATCH"
  | protocolNotSupported => "PROTOCOL_NOT_SUPPORTED"
  | messageFormatError => "MESSAGE_FORMAT_ERROR"
  | messageTooLarge => "MESSAGE_TOO_LARGE"
  | invalidCommand => "INVALID_COMMAND"
  | messageSendFailed => "MESSAGE_SEND_FAILED"
  | messageDeliveryFailed => "MESSAGE_DELIVERY_FAILED"
  | messageNotFound => "MESSAGE_NOT_FOUND"
  | messageExpired => "MESSAGE_EXPIRED"
  | messageRateLimitExceeded => "MESSAGE_RATE_LIMIT_EXCEEDED"
  | messageDecodeFailed => "MESSAGE_DECODE_FAILED"
  | userNotFound => "USER_NOT_FOUND"
  | userOffline => "USER_OFFLINE"
  | userBlocked => "USER_BLOCKED"
  | userQuotaExceeded => "USER_QUOTA_EXCEEDED"
  | userSessionLimitExceeded => "USER_SESSION_LIMIT_EXCEEDED"
  | internalError => "INTERNAL_ERROR"
  | serviceUnavailable => "SERVICE_UNAVAILABLE"
  | resourceExhausted => "RESOURCE_EXHAUSTED"
  | configurationError => "CONFIGURATION_ERROR"
  | databaseError => "DATABASE_ERROR"
  | networkError => "NETWORK_ERROR"
  | networkTimeout => "NETWORK_TIMEOUT"
  | networkUnreachable => "NETWORK_UNREACHABLE"
  | networkConnectionLost => "NETWORK_CONNECTION_LOST"
  | serializationError => "SERIALIZATION_ERROR"
  | deserializationError => "DESERIALIZATION_ERROR"
  | encodingError => "ENCODING_ERROR"
  | generalError => "GENERAL_ERROR"
  | invalidParameter => "INVALID_PARAMETER"
  | operationNotSupported => "OPERATION_NOT_SUPPORTED"
  | operationFailed => "OPERATION_FAILED"
  | operationTimeout => "OPERATION_TIMEOUT"
  | unknownError => "UNKNOWN_ERROR"

/-- The error type of the crate; details, parameters and time are not modelled. -/
inductive FlareError where
  | localized (code : ErrorCode) (reason : String)
  | system (message : String)
  | io (message : String)
  deriving DecidableEq, Repr

namespace FlareError

def connectionFailed (reason : String) : FlareError := .localized .connectionFailed reason
def connectionTimeout (reason : String) : FlareError := .localized .connectionTimeout reason
def connectionClosed (reason : String) : FlareError := .localized .connectionClosed reason
def authenticationFailed (reason : String) : FlareError :=
  .localized .authenticationFailed reason
def protocolError (reason : String) : FlareError := .localized .protocolError reason
def encodingError (reason : String) : FlareError := .localized .encodingError reason
def deserializationError (reason : String) : FlareError :=
  .localized .deserializationError reason

def code : FlareError → Option ErrorCode
  | .localized code _ => some code
  | .system _ | .io _ => none

def reason : FlareError → String
  | .localized _ reason => reason
  | .system message | .io message => message

/-- The `Display` text. -/
def text : FlareError → String
  | .localized code reason => "错误 [" ++ code.asStr ++ "] " ++ reason
  | .system message => "系统错误: " ++ message
  | .io message => "IO 错误: " ++ message

end FlareError

/-- Fallible computations of the crate. -/
abbrev Result (α : Type) := Except FlareError α

/-! ## Wire enumerations -/

/-- Serialization formats. -/
inductive SerializationFormat where
  | protobuf
  | json
  deriving DecidableEq, Repr

namespace SerializationFormat

def toInt32 : SerializationFormat → Int32
  | protobuf => 0
  | json => 1

/-- `SerializationFormat::try_from`. -/
def ofInt32 (value : Int32) : Option SerializationFormat :=
  if value = 0 then some protobuf else if value = 1 then some json else none

@[simp]
theorem ofInt32_toInt32 (format : SerializationFormat) : ofInt32 format.toInt32 = some format := by
  cases format <;> decide

end SerializationFormat

/-- Delivery guarantees a frame asks for. -/
inductive Reliability where
  | bestEffort
  | atLeastOnce
  | exactlyOnce
  | ordered
  deriving DecidableEq, Repr

def Reliability.toInt32 : Reliability → Int32
  | bestEffort => 0
  | atLeastOnce => 1
  | exactlyOnce => 2
  | ordered => 3

/-- `system_command::Type`. -/
inductive SystemType where
  | unspecified | connect | connectAck | close | ping | pong | error | event
  | auth | authAck | kicked | negotiationReady
  deriving DecidableEq, Repr

namespace SystemType

def toInt32 : SystemType → Int32
  | unspecified => 0
  | connect => 1
  | connectAck => 2
  | close => 3
  | ping => 4
  | pong => 5
  | error => 6
  | event => 7
  | auth => 8
  | authAck => 9
  | kicked => 10
  | negotiationReady => 11

/-- Every kind of system command. -/
def all : List SystemType :=
  [unspecified, connect, connectAck, close, ping, pong, error, event, auth, authAck, kicked,
    negotiationReady]

/-- `SystemType::try_from`. -/
def ofInt32 (value : Int32) : Option SystemType :=
  all.find? fun kind => kind.toInt32 = value

@[simp]
theorem ofInt32_toInt32 (kind : SystemType) : ofInt32 kind.toInt32 = some kind := by
  cases kind <;> decide

end SystemType

/-- `payload_command::Type`. -/
inductive PayloadType where
  | unspecified | message | event | ack | data
  deriving DecidableEq, Repr

namespace PayloadType

def toInt32 : PayloadType → Int32
  | unspecified => 0
  | message => 1
  | event => 2
  | ack => 3
  | data => 4

/-- Every kind of payload. -/
def all : List PayloadType :=
  [unspecified, message, event, ack, data]

/-- `PayloadType::try_from`. -/
def ofInt32 (value : Int32) : Option PayloadType :=
  all.find? fun kind => kind.toInt32 = value

end PayloadType

/-! ## Commands and frames -/

structure SystemCommand where
  type : Int32
  format : Int32
  message : String
  metadata : StringMap Bytes
  data : Bytes
  compression : String
  encryption : String
  deriving DecidableEq

structure PayloadCommand where
  type : Int32
  messageId : String
  payload : Bytes
  metadata : StringMap Bytes
  seq : UInt64
  deriving DecidableEq

structure NotificationCommand where
  type : Int32
  title : String
  content : Bytes
  metadata : StringMap Bytes
  deriving DecidableEq

structure CustomCommand where
  name : String
  data : Bytes
  metadata : StringMap Bytes
  deriving DecidableEq

/-- `command::Type`. -/
inductive CommandType where
  | system (command : SystemCommand)
  | payload (command : PayloadCommand)
  | notification (command : NotificationCommand)
  | custom (command : CustomCommand)
  deriving DecidableEq

structure Command where
  type : Option CommandType
  deriving DecidableEq

structure Frame where
  command : Option Command
  messageId : String
  reliability : Int32
  timestamp : UInt64
  metadata : StringMap Bytes
  deriving DecidableEq

/-- The command of a frame, if both optional layers are present. -/
def Frame.commandType (frame : Frame) : Option CommandType :=
  frame.command.bind Command.type

/-! ## Builders -/

namespace SystemCommand

/-- `create_system_command_with_message`. -/
def withMessage (kind : SystemType) (format : SerializationFormat) (message : String)
    (metadata : StringMap Bytes) : SystemCommand where
  type := kind.toInt32
  format := format.toInt32
  message := message
  metadata := metadata
  data := []
  compression := ""
  encryption := ""

/-- `create_base_system_command`. -/
def base (kind : SystemType) (format : SerializationFormat) : SystemCommand :=
  withMessage kind format "" ∅

def ping : SystemCommand := base .ping .protobuf
def pong : SystemCommand := base .pong .protobuf

def connect (format : SerializationFormat) (metadata : StringMap Bytes) : SystemCommand :=
  withMessage .connect format "" metadata

def connectAck (format : SerializationFormat) (compression encryption : Option String)
    (metadata : StringMap Bytes) : SystemCommand :=
  { withMessage .connectAck format "" metadata with
    compression := compression.getD "none"
    encryption := encryption.getD "none" }

def close (message : Option String) (metadata : StringMap Bytes) : SystemCommand :=
  withMessage .close .protobuf (message.getD "") metadata

def error (message : String) (metadata : StringMap Bytes) : SystemCommand :=
  withMessage .error .protobuf message metadata

def kicked (reason : String) (metadata : StringMap Bytes) : SystemCommand :=
  withMessage .kicked .protobuf reason metadata

end SystemCommand

/-- Where and when a frame is built: the identifier `generate_message_id` hands
out next, and the wall clock. -/
structure Stamp where
  messageId : String
  timestamp : UInt64
  deriving DecidableEq

/-- `create_frame_with_command`. -/
def Frame.withCommand (stamp : Stamp) (command : CommandType) (reliability : Reliability) :
    Frame where
  command := some ⟨some command⟩
  messageId := stamp.messageId
  reliability := reliability.toInt32
  timestamp := stamp.timestamp
  metadata := ∅

/-- `frame_with_system_command`. -/
def Frame.withSystemCommand (stamp : Stamp) (command : SystemCommand)
    (reliability : Reliability) : Frame :=
  .withCommand stamp (.system command) reliability

/-- `ack_message`. -/
def PayloadCommand.ackMessage (messageId : String) (metadata : StringMap Bytes) :
    PayloadCommand where
  type := PayloadType.ack.toInt32
  messageId := messageId
  payload := []
  metadata := metadata
  seq := 0

/-- `frame_with_payload_command`: command and frame share the message id, which is generated
only if the command has none. -/
def Frame.withPayloadCommand (stamp : Stamp) (command : PayloadCommand)
    (reliability : Reliability) : Frame :=
  let messageId := if command.messageId = "" then stamp.messageId else command.messageId
  { Frame.withCommand stamp (.payload { command with messageId := messageId }) reliability with
    messageId := messageId }

/-- `server_shutdown_close`. -/
def SystemCommand.serverShutdownClose : SystemCommand :=
  .close (some "SERVER_SHUTDOWN")
    (((∅ : StringMap Bytes).insert "reason" (utf8 "SERVER_SHUTDOWN")).insert "code"
      (utf8 "SERVICE_UNAVAILABLE"))

end FlareCore.Common

import FlareCore.Client.Negotiation

/-!
# The core of a transport client

The core is what the WebSocket, TCP and QUIC clients share: the connection state, the parser,
and the flags that say how the current connection stands.  It is changed by the tasks that
handle inbound frames, by the events of the transport, and by the calls of the application, so
the places where another task may run are between the definitions here.  Most of them are one
critical section of the source; `handleConnected`, `lose` and `recordKick` take several locks and
atomics one after the other, and are taken as one step all the same.

A connection that the server ends has a reason, as a KICKED, as a CLOSE, or as the rejection of
CONNECT; the first part is how the reasons are read off the commands.
-/

namespace FlareCore.Client

open FlareCore.Common FlareCore.Server

set_option autoImplicit false

/-! ## Reasons -/

/-- `str::trim`. -/
def trim (text : String) : String :=
  String.ofList ((text.toList.dropWhile isWhitespace).reverse.dropWhile isWhitespace).reverse

def tenantUnavailableReason : String := "TENANT_UNAVAILABLE"
def serverShutdownReason : String := "SERVER_SHUTDOWN"

/-- A reason that is the token itself, or the token followed by a colon. -/
def hasReasonToken (reason token : String) : Bool :=
  let text := (trim reason).toList
  token.toList.isPrefixOf text && (text.drop token.toList.length).head?.all (· = ':')

/-- `ends_session`: the client does not connect again by itself. -/
def endsSession (reason : String) : Bool :=
  hasReasonToken reason deviceConflictReason || hasReasonToken reason tenantUnavailableReason

def isDeviceConflictReason (reason : String) : Bool :=
  hasReasonToken reason deviceConflictReason

/-- `is_device_conflict_kick`; older servers wrote the reason in lower case. -/
def isDeviceConflictKick (command : SystemCommand) : Bool :=
  command.type = SystemType.kicked.toInt32 &&
    (isDeviceConflictReason command.message ||
      (metadataString command.metadata "reason").any fun reason =>
        eqIgnoreAsciiCase (trim reason) "device_conflict")

/-- The message of a command, else the reason in its metadata, else the given text. -/
def statedReason (command : SystemCommand) (unspecified : String) : String :=
  let message := trim command.message
  if message ≠ "" then message
  else (((metadataString command.metadata "reason").map trim).filter (· ≠ "")).getD unspecified

def kickReason (command : SystemCommand) : String :=
  if isDeviceConflictKick command then deviceConflictReason else statedReason command "KICKED"

def closeReason (command : SystemCommand) : String :=
  statedReason command "CLOSE"

/-- `is_server_shutdown_close`; the reason in the metadata is compared as it is. -/
def isServerShutdownClose (command : SystemCommand) : Bool :=
  command.type = SystemType.close.toInt32 &&
    (trim command.message = serverShutdownReason ||
      (command.metadata.lookup "reason").any fun reason => reason = utf8 serverShutdownReason)

def isServerShutdownReason (reason : String) : Bool :=
  hasReasonToken reason serverShutdownReason

/-! ## Rejections -/

/-- The error codes, in the order of the source. -/
def errorCodes : List ErrorCode :=
  [.connectionFailed, .connectionTimeout, .connectionClosed, .connectionRefused,
    .connectionLimitExceeded, .notConnected, .connectionReconnecting, .authenticationFailed,
    .authenticationExpired, .authenticationInvalid, .authenticationRequired, .permissionDenied,
    .tokenInvalid, .tokenExpired, .protocolError, .protocolVersionMismatch,
    .protocolNotSupported, .messageFormatError, .messageTooLarge, .invalidCommand,
    .messageSendFailed, .messageDeliveryFailed, .messageNotFound, .messageExpired,
    .messageRateLimitExceeded, .messageDecodeFailed, .userNotFound, .userOffline, .userBlocked,
    .userQuotaExceeded, .userSessionLimitExceeded, .internalError, .serviceUnavailable,
    .resourceExhausted, .configurationError, .databaseError, .networkError, .networkTimeout,
    .networkUnreachable, .networkConnectionLost, .serializationError, .deserializationError,
    .encodingError, .generalError, .invalidParameter, .operationNotSupported, .operationFailed,
    .operationTimeout, .unknownError]

/-- `parse_error_code`: a code by its name. -/
def parseErrorCode (value : String) : Option ErrorCode :=
  errorCodes.find? fun code => code.asStr = value

/-- `connect_rejection_error`. -/
def connectRejectionError (reason : String) (code : Option String) : FlareError :=
  let reason := trim reason
  let code := (code.map trim).filter (· ≠ "")
  let errorCode :=
    if reason = tenantUnavailableReason then .permissionDenied
    else ((parseErrorCode reason).or (code.bind parseErrorCode)).getD .connectionRefused
  let label := if reason = "" then code.getD errorCode.asStr else reason
  .localized errorCode (label ++ ": server rejected CONNECT")

/-- The error that an ERROR or CLOSE before CONNECT_ACK stands for. -/
def rejectionError (command : SystemCommand) : FlareError :=
  connectRejectionError command.message (metadataString command.metadata "code")

/-- `closed_before_connect_ack_error`. -/
def closedBeforeConnectAckError (detail : String) : FlareError :=
  .connectionFailed ("server closed the connection before CONNECT_ACK without a reason (" ++
    detail ++ ")")

/-! ## States and events -/

inductive ConnectionState where
  | disconnected
  | connecting
  | connected
  | disconnecting
  | failed
  | reconnecting
  deriving DecidableEq, Repr

namespace ConnectionState

def canSend : ConnectionState → Bool
  | connected => true
  | disconnected | connecting | disconnecting | failed | reconnecting => false

def canConnect : ConnectionState → Bool
  | disconnected | failed => true
  | connecting | connected | disconnecting | reconnecting => false

end ConnectionState

/-- What a transport, and the core, report to their observers. -/
inductive ConnectionEvent where
  | connected
  | disconnected (reason : String)
  | message (data : Bytes)
  | error (error : FlareError)
  deriving DecidableEq

/-- After an error the transport reports nothing more, as after a disconnection. -/
def ConnectionEvent.isTerminal : ConnectionEvent → Bool
  | disconnected _ | error _ => true
  | connected | message _ => false

/-! ## The core -/

/-- The state that a client, the observers of its connections and the tasks of its frames
share.  Connections, heartbeat loops and the requests that wait for a response are numbered. -/
structure ClientCore where
  state : ConnectionState
  parser : MessageParser
  negotiationCompleted : Bool
  negotiationFailure : Option FlareError
  disconnectRequested : Bool
  serverShutdown : Bool
  sessionEndedByServer : Option String
  pendingKick : Option String
  kickReported : Bool
  clientConnection : Option Nat
  heartbeat : Option Nat
  pending : StringMap Nat

/-- What is reported when a connection is lost. -/
inductive CloseReport where
  | asIs
  | kick (reason : String)
  | alreadyKicked
  deriving DecidableEq

def CloseReport.events (event : ConnectionEvent) : CloseReport → List ConnectionEvent
  | asIs => [event]
  | kick reason => [.disconnected reason]
  | alreadyKicked => []

namespace ClientCore

def new (config : ClientConfig) : ClientCore where
  state := .disconnected
  parser := config.initialParser
  negotiationCompleted := false
  negotiationFailure := none
  disconnectRequested := false
  serverShutdown := false
  sessionEndedByServer := none
  pendingKick := none
  kickReported := false
  clientConnection := none
  heartbeat := none
  pending := ∅

variable (core : ClientCore)

/-- `close_report`: what to report, and the kick counts as reported. -/
def closeReport : ClientCore × CloseReport :=
  match core.pendingKick with
  | some reason => ({ core with pendingKick := none, kickReported := true }, .kick reason)
  | none =>
      (core, if core.kickReported && !core.disconnectRequested then .alreadyKicked else .asIs)

/-- `take_unreported_kick`. -/
def takeUnreportedKick : ClientCore × Option String :=
  match core.pendingKick with
  | some reason => ({ core with pendingKick := none, kickReported := true }, some reason)
  | none => (core, none)

/-- `record_connect_rejection`: the first reason stays. -/
def recordConnectRejection (command : SystemCommand) : ClientCore :=
  { core with
    negotiationFailure := some (core.negotiationFailure.getD (rejectionError command)) }

/-- What a KICKED records, lock by lock in the source; `notified` says whether the observers are to
hear of it. -/
def recordKick (reason : String) (notified : Bool) : ClientCore :=
  if notified then
    { core with
      state := .disconnected
      sessionEndedByServer :=
        if endsSession reason then some reason else core.sessionEndedByServer
      pendingKick := some reason }
  else { core with state := .disconnected }

/-- `closed_during_negotiation`. -/
def closedDuringNegotiation : Bool :=
  core.state = .connected && !core.negotiationCompleted && !core.disconnectRequested

/-- `fail_negotiation_on_close`. -/
def failNegotiationOnClose (detail : String) : ClientCore :=
  { core with
    negotiationFailure :=
      some (core.negotiationFailure.getD (closedBeforeConnectAckError detail)) }

/-- The part that a disconnection and an error have in common: the connection is over, and its
heartbeat with it. -/
def lose (state : ConnectionState) (detail : String) : ClientCore × CloseReport :=
  let (reported, report) := core.closeReport
  let lost := { reported with state := state, negotiationCompleted := false, heartbeat := none }
  (if core.closedDuringNegotiation then lost.failNegotiationOnClose detail else lost, report)

/-- `handle_connection_event` for an event that ends a connection, with what is reported. -/
def handleTerminalEvent : ConnectionEvent → ClientCore × List ConnectionEvent
  | .disconnected reason =>
      let (lost, report) :=
        { core with
          serverShutdown := core.serverShutdown || isServerShutdownReason reason }.lose
            .disconnected reason
      (lost, report.events (.disconnected reason))
  | .error error =>
      let (lost, report) := core.lose .failed error.text
      (lost, report.events (.error error))
  | .connected => (core, [.connected])
  | .message data => (core, [.message data])

/-- The rest of `handle_connection_event` for `Connected`, after the look at the state: only a
client that was not connected starts over, one field after the other in the source. -/
def handleConnected (alreadyConnected : Bool) : ClientCore :=
  if alreadyConnected then { core with state := .connected }
  else
    { core with
      state := .connected
      negotiationCompleted := false
      negotiationFailure := none
      serverShutdown := false
      sessionEndedByServer := none
      pendingKick := none
      kickReported := false }

/-- What `wait_for_negotiation` returns, if it need not wait. -/
def waitForNegotiation : Option (Result Unit) :=
  if core.negotiationCompleted then some (.ok ()) else core.negotiationFailure.map .error

/-- What `handle_connect_ack_command` does once the acknowledgement is read: a client that
forces its profile keeps its parser. -/
def completeNegotiation (config : ClientConfig) (profile : Profile) : ClientCore :=
  { core with
    parser := if config.isForceFormat then core.parser else profile.parser
    negotiationCompleted := true }

/-- `reconnect_delay`, as far as the core goes: the pause after a shutdown is taken once. -/
def takeReconnectDelay : ClientCore :=
  { core with serverShutdown := false }

end ClientCore

end FlareCore.Client

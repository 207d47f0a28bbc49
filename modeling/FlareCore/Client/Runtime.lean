import FlareCore.Client.Frames
import FlareCore.Common.Formats
import FlareCore.Foundations.Transition

/-!
# The client runtime

The calls of the application, `connect`, `disconnect` and the sending of a frame, each step by
step; the senders of the wrapper, which make the client ready before they send; and the client
as a transition system.

`connect` and the reconnection before a send share `internal_connect`: a connection is dialed
or was prepared, the observer is attached to it, CONNECT is sent, and at the end `Connected` is
reported once more.
-/

namespace FlareCore.Client

open FlareCore.Common FlareCore.Server FlareCore.Foundations

set_option autoImplicit false

/-! ## The calls -/

section Calls

variable [RustText] (setting : ClientSetting)

namespace ClientState

variable (state : ClientState)

def isConnected : Bool :=
  state.core.state = .connected && state.connection.isSome &&
    (setting.protocol = .quic || state.core.negotiationCompleted)

/-- `should_reconnect_before_send`. -/
def shouldReconnectBeforeSend : Bool :=
  !state.isConnected setting && setting.reconnectOnSend && !state.core.disconnectRequested &&
    state.core.sessionEndedByServer.isNone && setting.canReconnect

@[simps]
def proceed (operation : Operation) (stage : Stage) : ClientState :=
  { state with operation := some { operation with stage := stage } }

/-- A sender goes on to a stage. -/
@[simps]
def sender (index : Nat) (stage : SenderStage) : ClientState :=
  { state with senders := state.senders.modify index fun sender =>
      { sender with stage := stage } }

/-- The single-flight gate is released with the sender's attempt to get ready. -/
@[simps]
def leaveGate (index : Nat) (stage : SenderStage) : ClientState :=
  { state.sender index stage with gate := none }

/-- A call returns; a sender that made it for its own sake goes on. -/
def finish (operation : Operation) (result : Result Unit) : ClientState :=
  let finished := { state with operation := none, returned := some (operation.call, result) }
  match operation.call, result with
  | .renew index, .ok _ => finished.sender index .awaiting
  | .renew index, .error error => finished.leaveGate index (.failed error)
  | .connect, _ | .disconnect, _ | .send _, _ | .sendAndWait _, _ => finished

/-- `try_reconnect`, up to its pause. -/
def tryReconnect (operation : Operation) : ClientState :=
  match setting.maxReconnectAttempts.filter (· ≤ state.reconnectAttempts) with
  | some attempts =>
      (state.withCore { state.core with state := .failed }).finish operation
        (.error (.connectionFailed
          ("Max reconnect attempts (" ++ toString attempts ++ ") exceeded")))
  | none =>
      { state with
        core := { state.core with state := .connecting }.takeReconnectDelay
        reconnectAttempts := state.reconnectAttempts + 1
        }.proceed { operation with retries := false } .pausing

/-- A failure to connect: `connect` reconnects once if that is allowed. -/
def failConnect (operation : Operation) (error : FlareError) : ClientState :=
  let failed := state.withCore { state.core with state := .failed }
  if operation.retries then failed.tryReconnect setting operation
  else failed.finish operation (.error error)

/-- `connect`. -/
def startConnect (call : Call) : ClientState :=
  let operation : Operation := ⟨call, none, setting.canReconnect, .establishing⟩
  if state.core.state.canConnect then
    (state.withCore { state.core with state := .connecting }).proceed operation .establishing
  else state.finish operation (.error (.protocolError setting.protocol.unavailable))

/-- `disconnect`, up to the closing of the connection. -/
def startDisconnect : ClientState :=
  let operation : Operation := ⟨.disconnect, none, false, .leaving⟩
  { state with
    connection := none
    connectionPrepared := false
    core := { state.core with
      state := .disconnecting
      disconnectRequested := true
      heartbeat := none
      clientConnection := none }
    }.proceed operation (state.connection.elim .leaving .disconnecting)

/-- `send_frame`, up to the reconnection or the sending. -/
def startSend (operation : Operation) : ClientState :=
  if state.shouldReconnectBeforeSend setting then state.tryReconnect setting operation
  else state.proceed operation .sending

/-- A call begins; nothing else has the client. -/
def start : Call → ClientState
  | .connect => state.startConnect setting .connect
  | .renew index => state.startConnect setting (.renew index)
  | .disconnect => state.startDisconnect
  | .send frame => state.startSend setting ⟨.send frame, none, false, .sending⟩
  | .sendAndWait frame =>
      let operation : Operation := ⟨.sendAndWait frame, none, false, .registering⟩
      if frame.messageId = "" then
        state.finish operation (.error (.protocolError "message_id is empty"))
      else state.proceed operation .registering

/-- The beginning of `internal_connect`: a connection that was prepared is used.  Otherwise TCP
and QUIC close the connection they have before they dial, and WebSocket dials. -/
def establish (operation : Operation) : ClientState :=
  match setting.protocol, state.connection, state.connectionPrepared with
  | .webSocket, some line, true =>
      { state with connectionPrepared := false }.proceed operation (.settingUp line)
  | .webSocket, _, _ => state.proceed operation .dialing
  | .tcp, some line, true | .quic, some line, true =>
      { state with connection := none, connectionPrepared := false }.proceed operation
        (.settingUp line)
  | .tcp, some line, false | .quic, some line, false =>
      { state with connection := none, connectionPrepared := false }.proceed operation
        (.replacing line)
  | .tcp, none, _ | .quic, none, _ =>
      { state with connectionPrepared := false }.proceed operation .dialing

/-- A connection is dialed; a WebSocket client keeps it at once, in place of the one it had. -/
def dial (operation : Operation) (answer : Answer) : ClientState :=
  if answer.succeeds then
    let dialed : ClientState := { state with
      lines := state.lines ++ [⟨true, false, none⟩]
      connection :=
        if setting.protocol = .webSocket then some state.lines.length else state.connection
      connectionPrepared := false }
    dialed.proceed operation (.settingUp state.lines.length)
  else state.failConnect setting operation answer.error

/-- `attach_observer` up to the look at the state of the core. -/
def attach (operation : Operation) (line : Nat) : ClientState :=
  if state.isLive line then
    state.proceed operation (.connecting line (state.core.state = .connected))
  else
    (state.proceed operation (.greeting line)).onTerminalEvent setting
      (.disconnected setting.protocol.closedReason)

/-- The end of `attach_observer`: the observer is put on the line, if the line is still open. -/
def watch (operation : Operation) (line : Nat) : ClientState :=
  if state.isLive line then
    { state with
      lines := state.lines.modify line fun line => { line with attached := true }
      }.proceed operation (.greeting line)
  else
    (state.proceed operation (.greeting line)).onTerminalEvent setting
      (.disconnected setting.protocol.closedReason)

/-- `serialize_connect_frame`. -/
def connectData : Result Wire :=
  (if setting.config.isForceFormat then state.core.parser else .preNegotiation).serialize
    setting.registries (setting.config.connectFrame setting.registries
      (setting.stamps state.frames))

/-- Something is sent on a line. -/
def transmit (line : Nat) (encoded : Result Wire) (answer : Answer) : Result Wire :=
  match encoded with
  | .error error => .error error
  | .ok data =>
      if state.isLive line then if answer.succeeds then .ok data else .error answer.error
      else .error (.connectionClosed setting.protocol.closedReason)

/-- `send_connect_message`; a connection that carries CONNECT is the client's. -/
def greet (operation : Operation) (line : Nat) (answer : Answer) : ClientState :=
  let stamped := { state with frames := state.frames + 1 }
  match state.transmit setting line (state.connectData setting) answer with
  | .ok data =>
      ({ stamped with connection := some line }.writes line data).proceed operation
        (.confirming line)
  | .error error => stamped.failConnect setting operation error

/-- The last step of `internal_connect`, and what the call goes on with. -/
def connectDone (operation : Operation) (alreadyConnected : Bool) : ClientState :=
  let connected := { state.handleConnected setting alreadyConnected with reconnectAttempts := 0 }
  match operation.call with
  | .send _ | .sendAndWait _ => connected.proceed operation .sending
  | .connect | .renew _ | .disconnect => connected.finish operation (.ok ())

/-- `send_frame_internal`. -/
def sendInternal (frame : Frame) (answer : Answer) : Result (Nat × Wire) :=
  if !state.core.state.canSend then
    .error (.connectionFailed "Cannot send: connection state is not ready")
  else
    match state.core.parser.serialize setting.registries frame, state.connection with
    | .error error, _ => .error error
    | .ok _, none => .error (.connectionFailed "Not connected")
    | .ok data, some line =>
        (state.transmit setting line (.ok data) answer).map fun data => (line, data)

/-- The sending of a call's frame; a call that waits for a response goes on to wait. -/
def sendFrame (operation : Operation) (frame : Frame) (answer : Answer) : ClientState :=
  match state.sendInternal setting frame answer, operation.request with
  | .ok (line, data), none => (state.writes line data).finish operation (.ok ())
  | .ok (line, data), some request =>
      (state.writes line data).proceed operation (.waiting request)
  | .error error, _ => state.finish operation (.error error)

/-- `register_pending_response`: what was registered under the id before is gone. -/
def register (operation : Operation) (frame : Frame) : ClientState :=
  let registered := { state with
    requests := state.requests + 1
    core := { state.core with
      pending := state.core.pending.insert frame.messageId state.requests } }
  registered.startSend setting { operation with request := some state.requests }

/-- The wait for a response. -/
def await (operation : Operation) (frame : Frame) (request : Nat) (answer : Answer) :
    Option ClientState :=
  let cancelled := state.withCore
    { state.core with pending := state.core.pending.erase frame.messageId }
  if state.answered.any fun response => response.1 = request then
    some (state.finish operation (.ok ()))
  else if state.core.pending.lookup frame.messageId ≠ some request then
    some (cancelled.finish operation (.error (.protocolError "Response channel closed")))
  else if answer.timedOut then
    some (cancelled.finish operation (.error (.protocolError
      ("Response timeout for message_id " ++ frame.messageId))))
  else none

/-- One step of the call that has the client. -/
def operate (operation : Operation) (answer : Answer) : Option ClientState :=
  match operation.stage with
  | .pausing =>
      some ({ state with connection := none, connectionPrepared := false }.proceed operation
        (state.connection.elim .establishing .retiring))
  | .retiring line => some ((state.shut line).proceed operation (.retired line))
  | .retired line =>
      some ((state.proceed operation .establishing).announce setting line
        (.disconnected setting.protocol.closeReason))
  | .establishing => some (state.establish setting operation)
  | .replacing line => some ((state.shut line).proceed operation (.replaced line))
  | .replaced line =>
      some ((state.proceed operation .dialing).announce setting line
        (.disconnected setting.protocol.closeReason))
  | .dialing => some (state.dial setting operation answer)
  | .settingUp line =>
      some ((state.withCore { state.core with clientConnection := some line }).proceed operation
        (.attaching line))
  | .attaching line => some (state.attach setting operation line)
  | .connecting line alreadyConnected =>
      some ((state.handleConnected setting alreadyConnected).proceed operation (.watching line))
  | .watching line => some (state.watch setting operation line)
  | .greeting line => some (state.greet setting operation line answer)
  | .confirming line =>
      some (state.proceed operation (.announcing line (state.core.state = .connected)))
  | .announcing _ alreadyConnected =>
      some (state.connectDone setting operation alreadyConnected)
  | .registering => operation.call.frame.map (state.register setting operation)
  | .sending =>
      operation.call.frame.map fun frame => state.sendFrame setting operation frame answer
  | .waiting request =>
      operation.call.frame.bind fun frame => state.await operation frame request answer
  | .disconnecting line => some ((state.shut line).proceed operation (.disconnected line))
  | .disconnected line =>
      some ((state.proceed operation .leaving).announce setting line
        (.disconnected setting.protocol.closeReason))
  | .leaving =>
      some (((state.withCore { state.core with pending := ∅ }).handleTerminalEvent setting
        (.disconnected "Client disconnected")).finish operation
          (if answer.succeeds then .ok () else .error answer.error))

end ClientState

end Calls

/-! ## Senders of the wrapper -/

section Senders

variable (setting : ClientSetting)

/-- `not_connected_reconnect_left_to_caller`. -/
def notConnectedReconnectLeftToCaller : FlareError :=
  .localized .notConnected
    "not connected; reconnect_on_send is off, reconnecting is left to the caller"

/-- `session_ended_by_server_error`. -/
def sessionEndedByServerError (reason : String) : FlareError :=
  .localized .notConnected (reason ++ ": the server ended this session; not reconnecting")

/-- `negotiation_timeout_error` after the ten seconds that a sender waits. -/
def negotiationTimeoutError : FlareError :=
  .connectionTimeout ("Negotiation timeout after 10s (CONNECT_ACK not received). " ++
    "Ensure `flare_chat_server` is running, not `simple_server`.")

namespace ClientState

variable (state : ClientState)

def isSendReady : Bool :=
  state.isConnected setting && state.core.state.canSend && state.core.negotiationCompleted

/-- What keeps a sender from reconnecting, in the order of its checks under the client's lock. -/
def renewalRefusal : Option FlareError :=
  if !setting.reconnectOnSend then some notConnectedReconnectLeftToCaller
  else
    match state.core.sessionEndedByServer with
    | some reason => some (sessionEndedByServerError reason)
    | none =>
        if state.core.disconnectRequested then
          some (.connectionFailed "client was disconnected on request; not reconnecting")
        else none

/-- The checks before the single-flight gate. -/
def earlyRefusal : Option FlareError :=
  if state.isConnected setting then none
  else
    match state.core.sessionEndedByServer with
    | some reason => some (sessionEndedByServerError reason)
    | none => if setting.reconnectOnSend then none else some notConnectedReconnectLeftToCaller

/-- One step of a sender.  All but the gate and the wait for the negotiation happen under the
client's lock, and so only while no call has the client. -/
def sendStep (index : Nat) (sender : Sender) (answer : Answer) : Option ClientState :=
  match sender.stage, state.operation with
  | .arriving, none =>
      some (state.sender index (if state.isSendReady setting then .ready else .checking))
  | .checking, none =>
      some (state.sender index ((state.earlyRefusal setting).elim .gating .failed))
  | .gating, _ =>
      if state.gate.isSome then none
      else some { state.sender index .entered with gate := some index }
  | .entered, none =>
      some (if state.isSendReady setting then state.leaveGate index .ready
        else state.sender index .pausing)
  | .pausing, none =>
      some ((if state.isConnected setting then state
        else state.withCore state.core.takeReconnectDelay).sender index .renewing)
  | .renewing, none =>
      some (if state.isConnected setting then state.sender index .awaiting
        else
          match state.renewalRefusal setting with
          | some error => state.leaveGate index (.failed error)
          | none => (state.sender index .connecting).start setting (.renew index))
  | .awaiting, _ =>
      match state.core.waitForNegotiation with
      | some (.ok _) => some (state.leaveGate index .ready)
      | some (.error error) => some (state.leaveGate index (.failed error))
      | none =>
          if answer.timedOut then some (state.leaveGate index (.failed negotiationTimeoutError))
          else none
  | .ready, none =>
      some ((state.sender index .handedOver).start setting
        (if sender.waits then .sendAndWait sender.frame else .send sender.frame))
  | _, _ => none

end ClientState

end Senders

/-! ## Steps -/

inductive Move where
  | call (call : Call)
  | submit (frame : Frame) (waits : Bool)
  | send (index : Nat) (answer : Answer)
  | operate (answer : Answer)
  | read (line : Nat) (event : ConnectionEvent)
  | handOver (line : Nat)
  | work (index : Nat) (answer : Answer)

/-- What the application may call on a client directly. -/
def Call.isDirect : Call → Bool
  | connect | disconnect | send _ | sendAndWait _ => true
  | renew _ => false

section Steps

variable [RustText] (setting : ClientSetting)

namespace ClientState

variable (state : ClientState)

/-- A reader takes up an event; what ends the connection closes the line first. -/
def read (line : Nat) (event : ConnectionEvent) : Option ClientState :=
  if (state.lines[line]?.any fun line => line.live && line.attached && line.reading.isNone) ∧
      event ≠ .connected then
    some { state with
      lines := state.lines.modify line fun line =>
        { line with live := line.live && !event.isTerminal, reading := some event } }
  else none

/-- The reader of a line has handed over what it took up. -/
@[simps]
def clearReading (line : Nat) : ClientState :=
  { state with lines := state.lines.modify line fun line => { line with reading := none } }

/-- `on_event` of the observer: the observers were looked up before a frame is handed over, and
are taken off the line with an event that ends the connection. -/
def deliver (line : Nat) : ConnectionEvent → ClientState
  | .message data => state.receive setting line data
  | .disconnected reason => state.announce setting line (.disconnected reason)
  | .error error => state.announce setting line (.error error)
  | .connected => state

/-- A reader hands an event over. -/
def handOver (line : Nat) : Option ClientState :=
  (state.lines[line]?.bind Line.reading).map fun event =>
    (state.clearReading line).deliver setting line event

/-- One step of the client, before what nothing refers to is dropped. -/
def perform : Move → Option ClientState
  | .call call =>
      if state.operation.isNone ∧ call.isDirect then some (state.start setting call) else none
  | .submit frame waits =>
      some { state with senders := state.senders ++ [⟨frame, waits, .arriving⟩] }
  | .send index answer =>
      state.senders[index]?.bind fun sender => state.sendStep setting index sender answer
  | .operate answer => state.operation.bind fun operation =>
      state.operate setting operation answer
  | .read line event => state.read line event
  | .handOver line => state.handOver setting line
  | .work index answer =>
      (state.tasks[index]?.filter (· ≠ .done)).map fun task =>
        state.work setting index answer task

def step (move : Move) : Option ClientState :=
  (state.perform setting move).map settle

/-- A client that has just been created. -/
def new (config : ClientConfig) : ClientState where
  core := .new config
  connection := none
  connectionPrepared := false
  reconnectAttempts := 0
  lines := []
  tasks := []
  operation := none
  senders := []
  gate := none
  requests := 0
  answered := []
  frames := 0
  written := []
  notified := []
  callbacks := []
  returned := none

/-- A client whose network connection a race of the protocols has prepared. -/
def prepared (config : ClientConfig) : ClientState :=
  { new config with
    connection := some 0
    connectionPrepared := true
    lines := [⟨true, false, none⟩] }

/-- A client at its beginning. -/
def IsInitial (config : ClientConfig) (state : ClientState) : Prop :=
  state = new config ∨ state = prepared config

end ClientState

/-- The client as a transition system. -/
def clientSystem : System ClientState Move where
  step := ClientState.step setting

end Steps

/-! ## A client for concrete runs -/

/-- A client with the default configuration and the formats that come with the crate; `known`
are the frames it may meet. -/
def ClientSetting.builtin (protocol : TransportProtocol) (known : List Frame) : ClientSetting where
  registries := builtinRegistries known
  config :=
    { serializationFormat := .json
      compression := .none
      forceSerializationFormat := none
      forceCompression := none
      deviceInfo := none
      userId := some "alice"
      token := none
      metadata := ∅ }
  protocol := protocol
  reconnectOnSend := true
  maxReconnectAttempts := some 5
  hasHandler := true
  heartbeatEnabled := true
  stamps := fun _ => ⟨"client", 0⟩

/-- Everything goes well. -/
def granted : Answer := ⟨true, false, .system ""⟩

/-- The steps of a call, if everything goes well. -/
def operates (steps : Nat) : List Move :=
  List.replicate steps (.operate granted)

/-- The steps of a task. -/
def works (task steps : Nat) : List Move :=
  List.replicate steps (.work task granted)

/-- A frame is read on a line, as JSON, and handed over. -/
def arrives (line : Nat) (frame : Frame) : List Move :=
  [.read line (.message (utf8 frame.json)), .handOver line]

/-- The peer closes a line. -/
def ends (line : Nat) : List Move :=
  [.read line (.disconnected "Connection closed by peer"), .handOver line]

/-- The acknowledgement of a server that keeps to JSON. -/
def plainAck : Frame :=
  .withSystemCommand ⟨"ack", 0⟩ (.connectAck .json none none ∅) .atLeastOnce

/-- A KICKED that ends the session. -/
def conflictKick : Frame :=
  .withSystemCommand ⟨"kick", 0⟩ (.kicked deviceConflictReason ∅) .atLeastOnce

/-- A client connects for the first time, and its acknowledgement is handled: the tasks before
the second one are those that inform the event handler. -/
def connectsAndNegotiates : List Move :=
  .call .connect :: operates 9 ++ arrives 0 plainAck ++ works 2 6

end FlareCore.Client

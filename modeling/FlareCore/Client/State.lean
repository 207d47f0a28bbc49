import FlareCore.Client.Core

/-!
# Clients as states

A transport client: the core, the connections it has had, and what is going on.  One call at a
time has the client to itself, while the reader of each connection, a task for each frame read,
the heartbeat loops and the senders of the wrapper run on their own.  A connection is a `Line`;
it carries the observer of the client from the moment the observer is attached until the line
reports its end, and it is dropped, which closes it, when nothing refers to it any more.

The stages of tasks and calls are the points where another task may run.  Closing a line is two
steps, since the flag is set before the end is reported; reading is two steps, since a reader
looks at the flag before it calls the observers; and `Connected` is two steps, the look at the
state and the change.  The lock of a line is not modelled, so the steps of two tasks on one
line may alternate.
-/

namespace FlareCore.Client

open FlareCore.Common FlareCore.Server

set_option autoImplicit false

inductive TransportProtocol where
  | webSocket
  | tcp
  | quic
  deriving DecidableEq, Repr

namespace TransportProtocol

/-- The reason with which `close` ends a connection. -/
def closeReason : TransportProtocol → String
  | webSocket | quic => "Closed by client"
  | tcp => "Closed by local endpoint"

/-- What a connection that is closed answers. -/
def closedReason : TransportProtocol → String
  | webSocket => "WebSocket connection is closed"
  | tcp => "TCP connection is closed"
  | quic => "QUIC stream is closed"

/-- What `connect` says when the client is busy. -/
def unavailable : TransportProtocol → String
  | webSocket | tcp => "Cannot connect: state is unavailable"
  | quic => "Cannot connect: connection state is not ready"

end TransportProtocol

/-- What a client is set up with. -/
structure ClientSetting where
  registries : Registries
  config : ClientConfig
  protocol : TransportProtocol
  reconnectOnSend : Bool
  maxReconnectAttempts : Option Nat
  hasHandler : Bool
  heartbeatEnabled : Bool
  stamps : Nat → Stamp

/-- `can_reconnect`. -/
def ClientSetting.canReconnect (setting : ClientSetting) : Bool :=
  setting.maxReconnectAttempts.all fun attempts => 0 < attempts

/-! ## Lines and tasks -/

/-- A transport connection: whether it is open, whether it carries the observer of the client,
and the event that its reader has taken up and not yet handed over. -/
structure Line where
  live : Bool
  attached : Bool
  reading : Option ConnectionEvent
  deriving DecidableEq

/-- How far a frame is handled. -/
inductive Handling where
  | received
  | reparsing
  | matching (frame : Frame)
  | responding (frame : Frame)
  | dispatching (frame : Frame)
  | acknowledging (frame : Frame)
  | negotiationFailed (frame : Frame) (error : FlareError)
  | readying (frame : Frame)
  | kicked (frame : Frame) (command : SystemCommand)
  | kickShutting (frame : Frame) (reason : Option String) (line : Nat)
  | kickAnnouncing (frame : Frame) (reason : Option String) (line : Nat)
  | kickReporting (frame : Frame) (reason : Option String)
  | closing (frame : Frame) (command : SystemCommand)
  | closeShutting (frame : Frame) (detail : String) (line : Nat)
  | closeAnnouncing (frame : Frame) (detail : String) (line : Nat)
  | delivering (frame : Frame) (system : Bool)
  | handlingBusiness (frame : Frame)
  | finished (frame : Frame)
  | dropped
  deriving DecidableEq

namespace Handling

/-- The line that a handler holds on to. -/
def line : Handling → Option Nat
  | kickShutting _ _ line | kickAnnouncing _ _ line | closeShutting _ _ line
  | closeAnnouncing _ _ line => some line
  | received | reparsing | matching _ | responding _ | dispatching _ | acknowledging _
  | negotiationFailed _ _ | readying _ | kicked _ _ | kickReporting _ _ | closing _ _
  | delivering _ _ | handlingBusiness _ | finished _ | dropped => none

def inFlight : Handling → Bool
  | finished _ | dropped => false
  | received | reparsing | matching _ | responding _ | dispatching _ | acknowledging _
  | negotiationFailed _ _ | readying _ | kicked _ _ | kickShutting _ _ _ | kickAnnouncing _ _ _
  | kickReporting _ _ | closing _ _ | closeShutting _ _ _ | closeAnnouncing _ _ _
  | delivering _ _ | handlingBusiness _ => true

end Handling

/-- A frame: the line it was read on, its bytes, and whether the negotiation was complete when
it was read. -/
structure FrameTask where
  line : Nat
  data : Bytes
  negotiated : Bool
  stage : Handling
  deriving DecidableEq

/-- Where a heartbeat loop stands. -/
inductive Beat where
  | beating
  | shutting (reason : String)
  | announcing (reason : String)
  deriving DecidableEq

/-- What runs on its own. -/
inductive Task where
  | frame (task : FrameTask)
  | deferred (event : ConnectionEvent)
  | clearing
  | informing (event : ConnectionEvent)
  | heartbeat (line : Nat) (beat : Beat)
  | done
  deriving DecidableEq

namespace Task

/-- The line that a task holds on to. -/
def line : Task → Option Nat
  | frame task => task.stage.line
  | heartbeat line _ => some line
  | deferred _ | clearing | informing _ | done => none

def inFlight : Task → Bool
  | frame task => task.stage.inFlight
  | deferred _ | clearing | informing _ | heartbeat _ _ | done => false

end Task

/-! ## Calls -/

inductive Call where
  | connect
  | disconnect
  | send (frame : Frame)
  | sendAndWait (frame : Frame)
  | renew (sender : Nat)
  deriving DecidableEq

/-- The frame that a call is to send. -/
def Call.frame : Call → Option Frame
  | send frame | sendAndWait frame => some frame
  | connect | disconnect | renew _ => none

/-- Where a call stands. -/
inductive Stage where
  | pausing
  | retiring (line : Nat)
  | retired (line : Nat)
  | establishing
  | replacing (line : Nat)
  | replaced (line : Nat)
  | dialing
  | settingUp (line : Nat)
  | attaching (line : Nat)
  | connecting (line : Nat) (alreadyConnected : Bool)
  | watching (line : Nat)
  | greeting (line : Nat)
  | confirming (line : Nat)
  | announcing (line : Nat) (alreadyConnected : Bool)
  | registering
  | sending
  | waiting (request : Nat)
  | disconnecting (line : Nat)
  | disconnected (line : Nat)
  | leaving
  deriving DecidableEq

/-- The line that a call holds on to. -/
def Stage.line : Stage → Option Nat
  | retiring line | retired line | replacing line | replaced line | settingUp line
  | attaching line | connecting line _ | watching line | greeting line | confirming line
  | announcing line _ | disconnecting line | disconnected line => some line
  | pausing | establishing | dialing | registering | sending | waiting _ | leaving => none

/-- The call that has the client; `retries` says whether a failure to connect leads to a
reconnection. -/
structure Operation where
  call : Call
  request : Option Nat
  retries : Bool
  stage : Stage
  deriving DecidableEq

/-- Where a sender of the wrapper stands. -/
inductive SenderStage where
  | arriving
  | checking
  | gating
  | entered
  | pausing
  | renewing
  | connecting
  | awaiting
  | ready
  | handedOver
  | failed (error : FlareError)
  deriving DecidableEq

structure Sender where
  frame : Frame
  waits : Bool
  stage : SenderStage
  deriving DecidableEq

/-! ## States -/

/-- A frame that was read: its line, and its task. -/
structure Origin where
  line : Nat
  task : Nat
  deriving DecidableEq

def FrameTask.origin (task : FrameTask) (index : Nat) : Origin :=
  ⟨task.line, index⟩

/-- An event that the observers of the client heard, and the frame it is about. -/
structure Notice where
  origin : Option Origin
  event : ConnectionEvent
  deriving DecidableEq

inductive HandlerCall where
  | connectionEvent (event : ConnectionEvent)
  | systemCommand (kind : SystemType) (frame : Frame)
  | messageCommand (kind : PayloadType) (frame : Frame)
  | notificationCommand (kind : Int32) (frame : Frame)
  deriving DecidableEq

/-- A call of the event handler, and the frame it is about. -/
structure Callback where
  origin : Option Origin
  call : HandlerCall
  deriving DecidableEq

/-- A client.  Lines and tasks are numbered in the order in which they came into being; the
logs say what the observers and the event handler heard, and what was written. -/
structure ClientState where
  core : ClientCore
  connection : Option Nat
  connectionPrepared : Bool
  reconnectAttempts : Nat
  lines : List Line
  tasks : List Task
  operation : Option Operation
  senders : List Sender
  gate : Option Nat
  requests : Nat
  answered : List (Nat × Frame)
  frames : Nat
  written : List (Nat × Wire)
  notified : List Notice
  callbacks : List Callback
  returned : Option (Call × Result Unit)

/-- What the surroundings decide in a step. -/
structure Answer where
  succeeds : Bool
  timedOut : Bool
  error : FlareError

/-- A frame that the event handler is called for, besides system commands. -/
def businessCall (frame : Frame) : Option HandlerCall :=
  match frame.commandType with
  | some (.payload command) =>
      (PayloadType.ofInt32 command.type).map fun kind => .messageCommand kind frame
  | some (.notification command) =>
      if 0 ≤ command.type ∧ command.type ≤ 4 then some (.notificationCommand command.type frame)
      else none
  | some (.system _) | some (.custom _) | none => none

namespace ClientState

variable (setting : ClientSetting) (state : ClientState)

@[simps]
def withCore (core : ClientCore) : ClientState :=
  { state with core := core }

@[simps]
def spawn (task : Task) : ClientState :=
  { state with tasks := state.tasks ++ [task] }

@[simps]
def notify (origin : Origin) (event : ConnectionEvent) : ClientState :=
  { state with notified := state.notified ++ [⟨some origin, event⟩] }

@[simps]
def notifyAll (events : List ConnectionEvent) : ClientState :=
  { state with notified := state.notified ++ events.map fun event => ⟨none, event⟩ }

@[simps]
def calls (origin : Option Origin) (call : HandlerCall) : ClientState :=
  { state with callbacks := state.callbacks ++ [⟨origin, call⟩] }

/-- A call of the event handler, if there is one. -/
def callsHandler (origin : Origin) (call : HandlerCall) : ClientState :=
  if setting.hasHandler then state.calls (some origin) call else state

@[simps]
def writes (line : Nat) (data : Wire) : ClientState :=
  { state with written := state.written ++ [(line, data)] }

def isLive (line : Nat) : Bool :=
  state.lines[line]?.any Line.live

def isAttached (line : Nat) : Bool :=
  state.lines[line]?.any Line.attached

/-- The first half of closing a line. -/
@[simps]
def shut (line : Nat) : ClientState :=
  { state with lines := state.lines.modify line fun line => { line with live := false } }

/-! ## Events -/

/-- The event handler hears of an event in a task of its own. -/
def inform (event : ConnectionEvent) : ClientState :=
  if setting.hasHandler then state.spawn (.informing event) else state

/-- `handle_connection_event` for an event that ends a connection. -/
def handleTerminalEvent (event : ConnectionEvent) : ClientState :=
  let (core, events) := state.core.handleTerminalEvent event
  ((((state.inform setting event).withCore core).spawn .clearing).notifyAll events)

/-- `handle_connection_event` for `Connected`, after the look at the state. -/
def handleConnected (alreadyConnected : Bool) : ClientState :=
  ((state.inform setting .connected).withCore
    (state.core.handleConnected alreadyConnected)).notifyAll [.connected]

/-- `should_defer_close_until_inbound_drained`. -/
def shouldDefer : Bool :=
  state.core.state = .connected && state.core.negotiationCompleted &&
    !state.core.disconnectRequested && state.tasks.any Task.inFlight

/-- `ClientMessageObserver::on_event` for an event that ends a connection. -/
def onTerminalEvent (event : ConnectionEvent) : ClientState :=
  if state.shouldDefer then state.spawn (.deferred event)
  else state.handleTerminalEvent setting event

/-- The second half of closing a line: the observer, if it is still there, is taken off and
told. -/
def announce (line : Nat) (event : ConnectionEvent) : ClientState :=
  if state.isAttached line then
    { state with
      lines := state.lines.modify line fun line => { line with attached := false }
      }.onTerminalEvent setting event
  else state

/-- `try_start_heartbeat`. -/
def tryStartHeartbeat : ClientState :=
  match state.core.clientConnection with
  | none => state
  | some line =>
      if setting.heartbeatEnabled ∧ state.core.negotiationCompleted ∧
          state.core.heartbeat.isNone then
        ({ state with core := { state.core with heartbeat := some state.tasks.length } }).spawn
          (.heartbeat line .beating)
      else state

/-- A line that something refers to. -/
def isHeld (line : Nat) : Bool :=
  state.connection = some line || state.core.clientConnection = some line ||
    state.operation.any (fun operation => operation.stage.line = some line) ||
    state.tasks.any fun task => task.line = some line

/-- What nothing refers to is dropped, and dropping a transport closes it. -/
@[simps]
def settle : ClientState :=
  { state with
    lines := state.lines.mapIdx fun index line =>
      if state.isHeld index then line else { line with live := false } }

end ClientState

end FlareCore.Client

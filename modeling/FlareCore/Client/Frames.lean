import FlareCore.Client.State

/-!
# What the tasks of a client do

The task of a frame parses it, hands it to the call that waits for it as a response, or handles
it: system commands first, then the observers, then the event handler.  The other tasks are the
heartbeat loops, the ends of connections that wait for the frames before them, the clearing of
the requests in flight, and the calls of the event handler for events.
-/

namespace FlareCore.Client

open FlareCore.Common FlareCore.Server

set_option autoImplicit false

/-! ## Frames -/

section Frames

variable [RustText] (setting : ClientSetting)

/-- `PRE_NEGOTIATION_PARSER.parse`. -/
def ClientSetting.parsePreNegotiation (data : Bytes) : Result Frame :=
  MessageParser.preNegotiation.parse setting.registries data

/-- `record_pre_negotiation_rejection`: the command of an ERROR or CLOSE. -/
def ClientSetting.rejection (data : Bytes) : Option SystemCommand :=
  ((setting.parsePreNegotiation data).toOption.bind systemCommand).filter fun command =>
    command.type = SystemType.error.toInt32 || command.type = SystemType.close.toInt32

namespace ClientState

variable (state : ClientState)

/-- `ClientMessageObserver::on_event` for a frame. -/
def receive (line : Nat) (data : Bytes) : ClientState :=
  let negotiated := state.core.negotiationCompleted
  let core :=
    if negotiated then state.core
    else (setting.rejection data).elim state.core state.core.recordConnectRejection
  (state.withCore core).spawn (.frame ⟨line, data, negotiated, .received⟩)

/-- The task of a frame goes on to a stage. -/
@[simps]
def advance (index : Nat) (task : FrameTask) (stage : Handling) : ClientState :=
  { state with tasks := state.tasks.set index (.frame { task with stage := stage }) }

/-- `parse_message`, with the parser of the core. -/
def parseMessage (data : Bytes) : Handling :=
  match state.core.parser.parse setting.registries data with
  | .ok frame => .matching frame
  | .error _ => .dropped

/-- Which parser reads a frame depends on whether the negotiation was complete when it was
read; a frame that the parser before negotiation does not know is tried again if the
negotiation is complete by now. -/
def parse (task : FrameTask) : Handling :=
  if task.negotiated then state.parseMessage setting task.data
  else
    match setting.parsePreNegotiation task.data with
    | .ok frame => .matching frame
    | .error _ => if state.core.negotiationCompleted then .reparsing else .dropped

/-- The receiver of a response is there as long as its call is. -/
def isAwaited (request : Nat) : Bool :=
  state.operation.any fun operation => operation.request = some request

/-- The response that a call waits for goes to the call, if it is still there. -/
def matchResponse (index : Nat) (task : FrameTask) (frame : Frame) : ClientState :=
  match state.core.pending.lookup frame.messageId with
  | none => state.advance index task (.dispatching frame)
  | some request =>
      let taken := state.withCore
        { state.core with pending := state.core.pending.erase frame.messageId }
      if state.isAwaited request then
        { taken.advance index task (.responding frame) with
          answered := state.answered ++ [(request, frame)] }
      else taken.advance index task (.dispatching frame)

/-- `handle_system_commands` up to the call of the event handler. -/
def dispatch (index : Nat) (task : FrameTask) (frame : Frame) : ClientState :=
  match systemCommand frame with
  | none => state.advance index task (.delivering frame false)
  | some command =>
      match SystemType.ofInt32 command.type with
      | some .connectAck =>
          (state.advance index task (.acknowledging frame)).callsHandler setting
            (task.origin index) (.systemCommand .connectAck frame)
      | some .pong =>
          (state.advance index task (.delivering frame true)).callsHandler setting
            (task.origin index) (.systemCommand .pong frame)
      | some .kicked =>
          (state.advance index task (.kicked frame command)).callsHandler setting
            (task.origin index) (.systemCommand .kicked frame)
      | some .close =>
          (state.advance index task (.closing frame command)).callsHandler setting
            (task.origin index) (.systemCommand .close frame)
      | some .error =>
          if task.negotiated then state.advance index task (.delivering frame false)
          else
            (state.withCore (state.core.recordConnectRejection command)).advance index task
              (.delivering frame true)
      | some .unspecified | some .connect | some .ping | some .event | some .auth
      | some .authAck | some .negotiationReady | none =>
          state.advance index task (.delivering frame false)

/-- The rest of `handle_connect_ack_command`, up to NEGOTIATION_READY. -/
def acknowledge (index : Nat) (task : FrameTask) (frame : Frame) : ClientState :=
  match handleConnectAck frame with
  | .ok profile =>
      let completed := (state.withCore (state.core.completeNegotiation setting.config profile)
        ).advance index task (.readying frame)
      if setting.config.isForceFormat then completed else completed.tryStartHeartbeat setting
  | .error error =>
      let failure := FlareError.protocolError error.text
      (state.withCore { state.core with negotiationFailure := some failure, heartbeat := none }
        ).advance index task (.negotiationFailed frame failure)

/-- The frame of `send_negotiation_ready`. -/
def negotiationReadyFrame (stamp : Stamp) : Frame :=
  .withSystemCommand stamp (.base .negotiationReady .protobuf) .atLeastOnce

/-- `send_negotiation_ready`; a failure is only logged. -/
def sendNegotiationReady (answer : Answer) : ClientState :=
  let stamped := { state with frames := state.frames + 1 }
  match state.core.clientConnection,
      MessageParser.preNegotiation.serialize setting.registries
        (negotiationReadyFrame (setting.stamps state.frames)) with
  | some line, .ok data =>
      if state.isLive line ∧ answer.succeeds then stamped.writes line data else stamped
  | _, _ => stamped

/-- `handle_kicked_command` after the event handler: what is recorded, and the line that is
taken out of its slot. -/
def kick (index : Nat) (task : FrameTask) (frame : Frame) (command : SystemCommand) :
    ClientState :=
  let reason := kickReason command
  let notified := task.negotiated && !state.core.disconnectRequested
  let recorded := state.withCore
    { state.core.recordKick reason notified with clientConnection := none }
  match state.core.clientConnection with
  | some line =>
      recorded.advance index task
        (.kickShutting frame (if notified then some reason else none) line)
  | none =>
      recorded.advance index task (.kickReporting frame (if notified then some reason else none))

/-- The end of `handle_kicked_command`: nobody waits for a response any more, and a kick that no
event has reported is reported. -/
def reportKick (index : Nat) (task : FrameTask) (frame : Frame) (reason : Option String) :
    ClientState :=
  let cleared := (state.withCore { state.core with pending := ∅ }).advance index task
    (.delivering frame true)
  match reason with
  | none => cleared
  | some _ =>
      let (core, unreported) := cleared.core.takeUnreportedKick
      (cleared.withCore core).notifyAll (unreported.toList.map .disconnected)

/-- `handle_close_command` after the event handler. -/
def handleClose (index : Nat) (task : FrameTask) (frame : Frame) (command : SystemCommand) :
    ClientState :=
  let marked := { state.core with
    serverShutdown := state.core.serverShutdown || isServerShutdownClose command }
  if task.negotiated then
    match state.core.clientConnection with
    | some line =>
        (state.withCore { marked with clientConnection := none }).advance index task
          (.closeShutting frame (FlareCore.Client.closeReason command ++
            ": server closed the connection") line)
    | none => (state.withCore marked).advance index task (.delivering frame true)
  else
    (state.withCore (marked.recordConnectRejection command)).advance index task
      (.delivering frame true)

/-- `handle_business_commands`. -/
def handleBusiness (index : Nat) (task : FrameTask) (frame : Frame) : ClientState :=
  let finished := state.advance index task (.finished frame)
  (businessCall frame).elim finished fun call =>
    finished.callsHandler setting (task.origin index) call

/-- One step of the task of a frame. -/
def handleFrame (index : Nat) (task : FrameTask) (answer : Answer) : Handling → ClientState
  | .received => state.advance index task (state.parse setting task)
  | .reparsing => state.advance index task (state.parseMessage setting task.data)
  | .matching frame => state.matchResponse index task frame
  | .responding frame =>
      (state.advance index task (.finished frame)).notify (task.origin index)
        (.message task.data)
  | .dispatching frame => state.dispatch setting index task frame
  | .acknowledging frame => state.acknowledge setting index task frame
  | .negotiationFailed frame error =>
      ((state.withCore { state.core with pending := ∅ }).advance index task
        (.delivering frame true)).handleTerminalEvent setting (.error error)
  | .readying frame =>
      ((state.advance index task (.delivering frame true)).sendNegotiationReady setting
        answer).tryStartHeartbeat setting
  | .kicked frame command => state.kick index task frame command
  | .kickShutting frame reason line =>
      (state.shut line).advance index task (.kickAnnouncing frame reason line)
  | .kickAnnouncing frame reason line =>
      (state.advance index task (.kickReporting frame reason)).announce setting line
        (.disconnected (reason.getD setting.protocol.closeReason))
  | .kickReporting frame reason => state.reportKick index task frame reason
  | .closing frame command => state.handleClose index task frame command
  | .closeShutting frame detail line =>
      (state.shut line).advance index task (.closeAnnouncing frame detail line)
  | .closeAnnouncing frame detail line =>
      (state.advance index task (.delivering frame true)).announce setting line
        (.disconnected detail)
  | .delivering frame system =>
      (state.advance index task (if system then .finished frame else .handlingBusiness frame)
        ).notify (task.origin index)
        (.message task.data)
  | .handlingBusiness frame => state.handleBusiness setting index task frame
  | .finished _ | .dropped => state

end ClientState

end Frames

/-! ## Heartbeats and other tasks -/

section Tasks

variable [RustText] (setting : ClientSetting)

namespace ClientState

variable (state : ClientState)

@[simps]
def put (index : Nat) (task : Task) : ClientState :=
  { state with tasks := state.tasks.set index task }

/-- One step of a heartbeat loop: a loop that is no longer the one of the core has been told to
stop; otherwise it goes on, or finds the connection dead. -/
def beat (index line : Nat) (answer : Answer) : Beat → ClientState
  | .beating =>
      if answer.succeeds then
        if state.core.heartbeat = some index then state else state.put index .done
      else
        state.put index (.heartbeat line (.shutting
          (if answer.timedOut then "heartbeat timeout: no PONG" else "heartbeat send failed")))
  | .shutting reason => (state.shut line).put index (.heartbeat line (.announcing reason))
  | .announcing reason => (state.put index .done).announce setting line (.disconnected reason)

/-- One step of a task. -/
def work (index : Nat) (answer : Answer) : Task → ClientState
  | .frame task => state.handleFrame setting index task answer task.stage
  | .deferred event => (state.put index .done).handleTerminalEvent setting event
  | .clearing => (state.withCore { state.core with pending := ∅ }).put index .done
  | .informing event => (state.put index .done).calls none (.connectionEvent event)
  | .heartbeat line beat => state.beat setting index line answer beat
  | .done => state

end ClientState

end Tasks

end FlareCore.Client

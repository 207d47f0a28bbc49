import FlareCore.Client.Acknowledgement
import FlareCore.Client.Delivery

/-!
# Frames behind the acknowledgement

What the server writes behind CONNECT_ACK is encoded in the profile that the acknowledgement
announces.  The client notes, when it reads a frame, whether the negotiation is complete, and
the task of the frame goes by that: it picks the parser, and a KICKED is reported only if it
came after the negotiation.  But it is the task of the acknowledgement that completes the
negotiation, and the next frame may be read before that task has run.

A frame behind the acknowledgement is received as it should be if it is read after that task, and
before the end of a connection is handled or the client starts over; if no other acknowledgement is
handled before it is parsed; and, for a KICKED, if nothing else disposes of its reason before it is
reported.
-/

namespace FlareCore.Client

open FlareCore.Common FlareCore.Server FlareCore.Foundations

set_option autoImplicit false

/-! ## What is behind an acknowledgement -/

/-- The command of a KICKED. -/
def kickCommand (frame : Frame) : Option SystemCommand :=
  (systemCommand frame).filter fun command => SystemType.ofInt32 command.type = some .kicked

/-- The event tells of a disconnection for a given reason. -/
def ConnectionEvent.tells (reason : String) : ConnectionEvent → Bool
  | disconnected told => told = reason
  | connected | message _ | error _ => false

/-- An acknowledgement that was read: its line, its task, and the parser that it stands for. -/
structure Acknowledged where
  line : Nat
  task : Nat
  parser : MessageParser

/-- A frame that was read behind an acknowledgement: its bytes, its task, and how much the observers
had heard by then. -/
structure Behind where
  data : Bytes
  task : Nat
  since : Nat
  ack : Acknowledged

/-- The first acknowledgement of each line, the frames that were read behind one, and the
acknowledgement that was handled last. -/
structure Receipts where
  acknowledged : List Acknowledged
  behind : List Behind
  latest : Acknowledgement

namespace ClientState

variable (state : ClientState)

/-- The observers have been told of a disconnection for a given reason, after what they had heard
before. -/
def told (since : Nat) (reason : String) : Bool :=
  (state.notified.drop since).any fun notice => notice.event.tells reason

/-- The frame that a step hands over, with its line. -/
def incoming : Move → Option (Nat × Bytes)
  | .handOver line =>
      match state.lines[line]?.bind Line.reading with
      | some (.message data) => some (line, data)
      | some .connected | some (.disconnected _) | some (.error _) | none => none
  | .call _ | .submit _ _ | .send _ _ | .operate _ | .read _ _ | .work _ _ => none

end ClientState

section Receipts

variable [RustText] (setting : ClientSetting)

/-- The parser that an acknowledgement stands for, if the data is one. -/
def ClientSetting.acknowledgedParser (data : Bytes) : Option MessageParser :=
  (setting.parsePreNegotiation data).toOption.bind fun frame =>
    (handleConnectAck frame).toOption.map fun _ =>
      setting.config.parserAfterAck setting.config.initialParser frame

namespace Receipts

def initial : Receipts := ⟨[], [], .initial⟩

/-- The acknowledgement of a line. -/
def ackOf (history : Receipts) (line : Nat) : Option Acknowledged :=
  history.acknowledged.find? fun ack => ack.line = line

/-- The entries of a task. -/
def behindOf (history : Receipts) (index : Nat) : List Behind :=
  history.behind.filter fun entry => entry.task = index

/-- The acknowledgement was handled, and no other one since. -/
def isLatest (history : Receipts) (ack : Acknowledged) : Bool :=
  history.latest.handled.any fun handled => handled.1 = ack.task

/-- What is read on a line is behind its acknowledgement, or is the acknowledgement. -/
def receive (state : ClientState) (line : Nat) (data : Bytes) (history : Receipts) : Receipts :=
  match history.ackOf line with
  | some ack =>
      { history with
        behind := history.behind ++ [⟨data, state.tasks.length, state.notified.length, ack⟩] }
  | none =>
      match setting.acknowledgedParser data with
      | some parser =>
          { history with
            acknowledged := history.acknowledged ++ [⟨line, state.tasks.length, parser⟩] }
      | none => history

def record (state : ClientState) (move : Move) (next : ClientState) (history : Receipts) :
    Receipts :=
  let followed := { history with latest := history.latest.record state move next }
  (state.incoming move).elim followed fun (line, data) => followed.receive setting state line data

end Receipts

/-- The client with this history. -/
def receiptClient : System (ClientState × Receipts) Move :=
  (clientSystem setting).recording (Receipts.record setting)

end Receipts

/-! ## In time -/

namespace ClientState

variable (state : ClientState)

/-- What a task of a frame behind an acknowledgement needs to find: no other acknowledgement was
handled since when it is to be parsed, no request waits for a response with the id of a KICKED, and
no disconnection was requested; and no other KICKED is still to be reported. -/
def isTaskTimely (history : Receipts) (entries : List Behind) (task : FrameTask) : Bool :=
  match task.stage with
  | .received => entries.all fun entry => history.isLatest entry.ack
  | .matching frame =>
      entries.isEmpty || (kickCommand frame).isNone ||
        (state.core.pending.lookup frame.messageId).isNone
  | .kicked _ command =>
      (entries.isEmpty || !state.core.disconnectRequested) &&
        (!task.negotiated || state.core.disconnectRequested ||
          state.core.pendingKick.all fun reason => reason = kickReason command)
  | _ => true

/-- An acknowledgement is read while no negotiation is completed; a frame behind it is read once its
task has handled it, before another one is handled, the end of a connection is handled or the client
starts over; the task of the frame finds what it needs; and no new connection makes the client
forget a KICKED. -/
def isTimely [RustText] (setting : ClientSetting) (history : Receipts) : Move → Bool
  | .handOver line =>
      (state.incoming (.handOver line)).all fun (line, data) =>
        match history.ackOf line with
        | some ack => history.isLatest ack && history.latest.standing
        | none =>
            (setting.acknowledgedParser data).isNone || !state.core.negotiationCompleted
  | .operate _ =>
      state.core.pendingKick.isNone ||
        state.operation.all fun operation => !operation.stage.startsOver
  | .work index _ =>
      state.tasks[index]?.all fun
        | .frame task => state.isTaskTimely history (history.behindOf index) task
        | .deferred _ | .clearing | .informing _ | .heartbeat _ _ | .done => true
  | .call _ | .submit _ _ | .send _ _ | .read _ _ => true

end ClientState

def Timely [RustText] (setting : ClientSetting) (state : ClientState × Receipts) (move : Move) :
    Prop :=
  state.1.isTimely setting state.2 move = true

instance [RustText] (setting : ClientSetting) (state : ClientState × Receipts) (move : Move) :
    Decidable (Timely setting state move) :=
  inferInstanceAs (Decidable (_ = _))

/-! ## A KICKED is kept until it is reported -/

/-- The observers are told more and more, and a KICKED that is to be reported is so still, or is
among what they are told. -/
structure Tells (before after : ClientState) : Prop where
  heard : ∃ new : List Notice, after.notified = before.notified ++ new ∧
    ∀ reason, before.core.pendingKick = some reason → after.core.pendingKick = some reason ∨
      new.any (fun notice => notice.event.tells reason) = true

namespace Tells

variable {first second third : ClientState}

theorem of_append {new : List Notice} (notified : second.notified = first.notified ++ new)
    (kept : ∀ reason, first.core.pendingKick = some reason →
      second.core.pendingKick = some reason ∨
        new.any (fun notice => notice.event.tells reason) = true) : Tells first second :=
  ⟨new, notified, kept⟩

theorem of_kept (notified : second.notified = first.notified)
    (kept : ∀ reason, first.core.pendingKick = some reason →
      second.core.pendingKick = some reason) : Tells first second :=
  of_append (notified.trans (List.append_nil _).symm) fun reason pending =>
    .inl (kept reason pending)

theorem of_eq (notified : second.notified = first.notified)
    (pendingKick : second.core.pendingKick = first.core.pendingKick) : Tells first second :=
  of_kept notified fun _ pending => pendingKick.trans pending

theorem refl (state : ClientState) : Tells state state :=
  of_eq rfl rfl

theorem after (right : Tells second third) (left : Tells first second) : Tells first third := by
  obtain ⟨new, notified, kept⟩ := left
  obtain ⟨more, notifiedLater, keptLater⟩ := right
  have both : third.notified = first.notified ++ (new ++ more) := by
    rw [notifiedLater, notified, List.append_assoc]
  refine of_append both ?_
  intro reason pending
  rw [List.any_append, Bool.or_eq_true]
  obtain still | told := kept reason pending
  · exact (keptLater reason still).imp_right .inr
  · exact .inr (.inl told)

/-- What follows changes neither what was told nor what is to be reported. -/
theorem followed (left : Tells first second) (notified : third.notified = second.notified)
    (pendingKick : third.core.pendingKick = second.core.pendingKick) : Tells first third :=
  (of_eq notified pendingKick).after left

theorem length (tells : Tells first second) : first.notified.length ≤ second.notified.length := by
  obtain ⟨new, notified, -⟩ := tells
  rw [notified, List.length_append]
  exact Nat.le_add_right _ _

/-- What was told stays told. -/
theorem told (tells : Tells first second) {since : Nat} {reason : String}
    (wasTold : first.told since reason = true) : second.told since reason = true := by
  obtain ⟨new, notified, -⟩ := tells
  rw [ClientState.told, notified, List.drop_append, List.any_append, Bool.or_eq_true]
  exact .inl wasTold

/-- What is to be reported is so still, or was reported since. -/
theorem kept (tells : Tells first second) {since : Nat} (heard : since ≤ first.notified.length)
    {reason : String} (pending : first.core.pendingKick = some reason) :
    second.core.pendingKick = some reason ∨ second.told since reason = true := by
  obtain ⟨new, notified, kept⟩ := tells
  refine (kept reason pending).imp_right fun told => ?_
  rw [ClientState.told, notified, List.drop_append_of_le_length heard, List.any_append,
    Bool.or_eq_true]
  exact .inr told

end Tells

namespace ClientState

variable (setting : ClientSetting) (state : ClientState)

theorem inform_notified (event : ConnectionEvent) :
    (state.inform setting event).notified = state.notified := by
  unfold inform
  split <;> rfl

/-- The end of a connection reports a KICKED that is still to be reported. -/
theorem handleTerminalEvent_tells (event : ConnectionEvent) :
    Tells state (state.handleTerminalEvent setting event) := by
  have notified : (state.handleTerminalEvent setting event).notified = state.notified ++
      (state.core.handleTerminalEvent event).2.map fun event => ⟨none, event⟩ :=
    congrArg (· ++ _) (state.inform_notified setting event)
  refine .of_append notified ?_
  intro reason pending
  cases event with
  | connected | message data => exact .inl pending
  | disconnected detail =>
      right
      simp [ClientCore.handleTerminalEvent, ClientCore.lose, ClientCore.closeReport, pending,
        CloseReport.events, ConnectionEvent.tells]
  | error error =>
      right
      simp [ClientCore.handleTerminalEvent, ClientCore.lose, ClientCore.closeReport, pending,
        CloseReport.events, ConnectionEvent.tells]

/-- `Connected` forgets a KICKED only if the client starts over. -/
theorem handleConnected_tells {alreadyConnected : Bool}
    (kept : alreadyConnected = true ∨ state.core.pendingKick = none) :
    Tells state (state.handleConnected setting alreadyConnected) := by
  refine .of_append (congrArg (· ++ _) (state.inform_notified setting .connected)) ?_
  intro reason pending
  obtain rfl | none := kept
  · exact .inl pending
  · cases none.symm.trans pending

theorem onTerminalEvent_tells (event : ConnectionEvent) :
    Tells state (state.onTerminalEvent setting event) := by
  unfold onTerminalEvent
  split
  · exact .of_eq rfl rfl
  · exact state.handleTerminalEvent_tells setting event

theorem announce_tells (line : Nat) (event : ConnectionEvent) :
    Tells state (state.announce setting line event) := by
  unfold announce
  split
  · exact (onTerminalEvent_tells setting _ event).after (.of_eq rfl rfl)
  · exact .refl state

theorem tryStartHeartbeat_tells : Tells state (state.tryStartHeartbeat setting) := by
  unfold tryStartHeartbeat
  split
  · exact .refl state
  · split <;> exact .of_eq rfl rfl

theorem callsHandler_tells (origin : Origin) (call : HandlerCall) :
    Tells state (state.callsHandler setting origin call) := by
  unfold callsHandler
  split <;> exact .of_eq rfl rfl

theorem tells_of_sameRecords {before after : ClientState} (same : SameRecords before after) :
    Tells before after :=
  .of_eq same.notified same.pendingKick

/-- A step of a call forgets a KICKED only if the client starts over. -/
theorem tells_of_callEffect {stage : Stage} {before after : ClientState}
    (kept : stage.startsOver = false) (effect : CallEffect setting stage before after) :
    Tells before after := by
  induction effect with
  | keeps same => exact tells_of_sameRecords same
  | spawns before task => exact .of_eq rfl rfl
  | ends before event => exact before.handleTerminalEvent_tells setting event
  | @connects before line already reached =>
      refine before.handleConnected_tells setting (.inl ?_)
      obtain rfl | rfl := reached <;> simpa [Stage.startsOver] using kept
  | followed left right before after => exact after.after before

/-- What was told stays told in any case. -/
theorem notified_of_callEffect {stage : Stage} {before after : ClientState}
    (effect : CallEffect setting stage before after) :
    ∃ new, after.notified = before.notified ++ new := by
  induction effect with
  | keeps same => exact ⟨[], same.notified.trans (List.append_nil _).symm⟩
  | spawns before task => exact ⟨[], (List.append_nil _).symm⟩
  | ends before event =>
      obtain ⟨new, notified, -⟩ := before.handleTerminalEvent_tells setting event
      exact ⟨new, notified⟩
  | connects before reached =>
      exact ⟨_, congrArg (· ++ _) (before.inform_notified setting .connected)⟩
  | followed left right before after =>
      obtain ⟨new, notified⟩ := before
      obtain ⟨more, later⟩ := after
      exact ⟨new ++ more, by rw [later, notified, List.append_assoc]⟩

theorem start_tells (call : Call) : Tells state (state.start setting call) :=
  tells_of_sameRecords (state.start_sameRecords setting call)

variable [RustText]

theorem deliver_tells (line : Nat) (event : ConnectionEvent) :
    Tells state (state.deliver setting line event) := by
  cases event with
  | message data =>
      refine .of_eq rfl ?_
      simp only [deliver, receive, spawn_core, withCore_core]
      split
      · rfl
      · cases setting.rejection data <;> rfl
  | connected => exact .refl state
  | disconnected reason => exact state.announce_tells setting line (.disconnected reason)
  | error error => exact state.announce_tells setting line (.error error)

theorem operate_tells {state after : ClientState} {operation : Operation} {answer : Answer}
    (kept : operation.stage.startsOver = false ∨ state.core.pendingKick = none)
    (operated : state.operate setting operation answer = some after) : Tells state after := by
  have effect := operate_callEffect setting operated
  obtain kept | none := kept
  · exact tells_of_callEffect setting kept effect
  · obtain ⟨new, notified⟩ := notified_of_callEffect setting effect
    refine .of_append notified fun reason pending => ?_
    cases none.symm.trans pending

omit [RustText] in
theorem reportKick_tells (index : Nat) (task : FrameTask) (frame : Frame)
    (reason : Option String) : Tells state (state.reportKick index task frame reason) := by
  unfold reportKick
  cases reason with
  | none => exact .of_eq rfl rfl
  | some _ =>
      refine .of_append rfl ?_
      intro reason pending
      right
      simp [pending, ConnectionEvent.tells]

/-- A frame that is handled leaves alone the KICKED that are to be reported, unless it is another
KICKED with a reason of its own. -/
theorem handleFrame_tells (index : Nat) (task : FrameTask) (answer : Answer) (stage : Handling)
    (kept : ∀ frame command, stage = .kicked frame command → task.negotiated = true →
      state.core.disconnectRequested = false →
      ∀ reason ∈ state.core.pendingKick, reason = kickReason command) :
    Tells state (state.handleFrame setting index task answer stage) := by
  cases stage with
  | matching frame =>
      simp only [handleFrame, matchResponse]
      split
      · exact .of_eq rfl rfl
      · split <;> exact .of_eq rfl rfl
  | dispatching frame =>
      simp only [handleFrame, dispatch]
      split
      · exact .of_eq rfl rfl
      · split
        all_goals first
          | exact (callsHandler_tells setting _ _ _).after (.of_eq rfl rfl)
          | exact .of_eq rfl rfl
          | (split <;> exact .of_eq rfl rfl)
  | acknowledging frame =>
      simp only [handleFrame, acknowledge]
      split
      · split
        · exact .of_eq rfl rfl
        · exact (tryStartHeartbeat_tells setting _).after (.of_eq rfl rfl)
      · exact .of_eq rfl rfl
  | negotiationFailed frame error =>
      exact (handleTerminalEvent_tells setting _ _).after (.of_eq rfl rfl)
  | readying frame =>
      refine (tryStartHeartbeat_tells setting _).after ?_
      simp only [sendNegotiationReady]
      split
      · split <;> exact .of_eq rfl rfl
      · exact .of_eq rfl rfl
  | kicked frame command =>
      refine .of_kept ?_ ?_
      · simp only [handleFrame, kick]
        split <;> rfl
      · intro reason pending
        have agrees := state.kick_agrees index task frame command
        rw [handleFrame, agrees.pendingKick, ClientCore.recordKick]
        split
        next notified =>
          obtain ⟨negotiated, unrequested⟩ := Bool.and_eq_true_iff.mp notified
          have requested : state.core.disconnectRequested = false := by simpa using unrequested
          rw [kept frame command rfl negotiated requested reason pending]
        next => exact pending
  | kickAnnouncing frame reason line =>
      exact (announce_tells setting _ _ _).after (.of_eq rfl rfl)
  | kickReporting frame reason => exact state.reportKick_tells index task frame reason
  | closing frame command =>
      simp only [handleFrame, handleClose]
      split
      · split <;> exact .of_eq rfl rfl
      · exact .of_eq rfl rfl
  | closeAnnouncing frame detail line =>
      exact (announce_tells setting _ _ _).after (.of_eq rfl rfl)
  | responding frame | delivering frame system =>
      refine .of_append rfl ?_
      intro reason pending
      exact .inl pending
  | handlingBusiness frame =>
      simp only [handleFrame, handleBusiness]
      cases businessCall frame with
      | none => exact .of_eq rfl rfl
      | some call => exact (callsHandler_tells setting _ _ _).after (.of_eq rfl rfl)
  | received | reparsing | kickShutting frame reason line | closeShutting frame detail line
  | finished frame | dropped => exact .of_eq rfl rfl

theorem work_tells (index : Nat) (answer : Answer) (task : Task)
    (kept : ∀ frameTask frame command, task = .frame frameTask →
      frameTask.stage = .kicked frame command → frameTask.negotiated = true →
      state.core.disconnectRequested = false →
      ∀ reason ∈ state.core.pendingKick, reason = kickReason command) :
    Tells state (state.work setting index answer task) := by
  cases task with
  | frame task =>
      exact state.handleFrame_tells setting index task answer task.stage
        fun frame command => kept task frame command rfl
  | deferred event => exact (handleTerminalEvent_tells setting _ event).after (.of_eq rfl rfl)
  | heartbeat line beat =>
      cases beat with
      | beating =>
          simp only [work, ClientState.beat]
          split
          · split <;> exact .of_eq rfl rfl
          · exact .of_eq rfl rfl
      | shutting reason => exact .of_eq rfl rfl
      | announcing reason => exact (announce_tells setting _ _ _).after (.of_eq rfl rfl)
  | clearing | informing event | done => exact .of_eq rfl rfl

end ClientState

/-- In time, no step loses a KICKED. -/
theorem Timely.tells [RustText] {setting : ClientSetting} {state after : ClientState}
    {history : Receipts} {move : Move} (timely : Timely setting (state, history) move)
    (performed : state.perform setting move = some after) : Tells state after := by
  cases move with
  | call call =>
      simp only [ClientState.perform, Option.ite_none_right_eq_some] at performed
      obtain ⟨-, started⟩ := performed
      exact Option.some.inj started ▸ state.start_tells setting call
  | submit frame waits => exact Option.some.inj performed ▸ .of_eq rfl rfl
  | send index answer =>
      obtain ⟨sender, -, sent⟩ := Option.bind_eq_some_iff.mp performed
      obtain only | ⟨-, stage, call, -, rfl⟩ := ClientState.sendStep_eq_some sent
      · exact .of_eq only.notified only.agrees.pendingKick
      · exact (ClientState.start_tells setting _ call).after (.of_eq rfl rfl)
  | operate answer =>
      obtain ⟨operation, current, operated⟩ := Option.bind_eq_some_iff.mp performed
      refine ClientState.operate_tells setting ?_ operated
      simp only [Timely, ClientState.isTimely, current, Option.all_some, Bool.or_eq_true,
        Option.isNone_iff_eq_none] at timely
      exact timely.symm.imp_left (by simp)
  | read line event =>
      simp only [ClientState.perform, ClientState.read, Option.ite_none_right_eq_some]
        at performed
      obtain ⟨-, taken⟩ := performed
      exact Option.some.inj taken ▸ .of_eq rfl rfl
  | handOver line =>
      obtain ⟨event, -, rfl⟩ := Option.map_eq_some_iff.mp performed
      exact (ClientState.deliver_tells setting _ line event).after (.of_eq rfl rfl)
  | work index answer =>
      obtain ⟨task, found, rfl⟩ := Option.map_eq_some_iff.mp performed
      have isTask := (Option.filter_eq_some_iff.mp found).1
      refine state.work_tells setting index answer task ?_
      rintro frameTask frame command rfl stage negotiated unrequested reason pending
      simp only [Timely, ClientState.isTimely, isTask, Option.all_some, ClientState.isTaskTimely,
        stage, Bool.and_eq_true, negotiated, unrequested] at timely
      have kept := timely.2
      rw [Option.mem_def.mp pending] at kept
      simpa using kept

/-! ## The frames that were received -/

namespace ClientState

/-- Where the handling of a KICKED stands: from its record on the reason is kept for the report,
and past the report the observers have been told, after what they had heard when it was read. -/
def KickHandled (state : ClientState) (since : Nat) (command : SystemCommand) : Handling → Prop
  | .received | .matching _ | .dispatching _ => True
  | .kicked _ received => received = command
  | .kickShutting _ reason _ | .kickAnnouncing _ reason _ | .kickReporting _ reason =>
      reason = some (kickReason command) ∧
        (state.core.pendingKick = some (kickReason command) ∨
          state.told since (kickReason command) = true)
  | .delivering _ _ | .handlingBusiness _ | .finished _ =>
      state.told since (kickReason command) = true
  | .reparsing | .responding _ | .acknowledging _ | .negotiationFailed _ _ | .readying _
  | .closing _ _ | .closeShutting _ _ _ | .closeAnnouncing _ _ _ | .dropped => False

/-- A task handles the frame it is to handle. -/
def Handles (state : ClientState) (since : Nat) (frame : Frame) (stage : Handling) : Prop :=
  stage = .received ∨ (stage.frame = some frame ∧
    ∀ command ∈ kickCommand frame, state.KickHandled since command stage)

/-- A frame behind an acknowledgement was read after the negotiation, and is handled as what the
parser of the acknowledgement makes of it. -/
structure Receives [RustText] (setting : ClientSetting) (state : ClientState) (entry : Behind) :
    Prop where
  heard : entry.since ≤ state.notified.length
  task : ∃ task : FrameTask, state.tasks[entry.task]? = some (.frame task) ∧
    task.data = entry.data ∧ task.negotiated = true ∧
      ∀ frame, entry.ack.parser.parse setting.registries entry.data = .ok frame →
        state.Handles entry.since frame task.stage

/-- An acknowledgement was read before the negotiation, and is handled as what it is. -/
def Acknowledges [RustText] (setting : ClientSetting) (state : ClientState) (ack : Acknowledged) :
    Prop :=
  ∃ task : FrameTask, state.tasks[ack.task]? = some (.frame task) ∧ task.negotiated = false ∧
    ∃ frame, setting.parsePreNegotiation task.data = .ok frame ∧
      ack.parser = setting.config.parserAfterAck setting.config.initialParser frame ∧
        (task.stage = .received ∨ task.stage.frame = some frame)

end ClientState

namespace ClientState

variable {setting : ClientSetting} {state after : ClientState} {index : Nat}

theorem KickHandled.tells {since : Nat} {command : SystemCommand} {stage : Handling}
    (handled : state.KickHandled since command stage) (heard : since ≤ state.notified.length)
    (tells : Tells state after) : after.KickHandled since command stage := by
  cases stage with
  | kickShutting frame reason line | kickAnnouncing frame reason line
  | kickReporting frame reason =>
      exact ⟨handled.1, handled.2.elim (tells.kept heard) fun told => .inr (tells.told told)⟩
  | delivering frame system | handlingBusiness frame | finished frame =>
      exact tells.told handled
  | received | matching frame | dispatching frame | kicked frame received | reparsing
  | responding frame | acknowledging frame | negotiationFailed frame error | readying frame
  | closing frame received | closeShutting frame detail line | closeAnnouncing frame detail line
  | dropped => exact handled

theorem Handles.tells {since : Nat} {frame : Frame} {stage : Handling}
    (handles : state.Handles since frame stage) (heard : since ≤ state.notified.length)
    (tells : Tells state after) : after.Handles since frame stage :=
  handles.imp_right fun carries =>
    ⟨carries.1, fun command isKick => (carries.2 command isKick).tells heard tells⟩

theorem task_of_append {task : Task} {new : List Task} (isTask : state.tasks[index]? = some task)
    (added : after.tasks = state.tasks ++ new) : after.tasks[index]? = some task := by
  rw [added, List.getElem?_append_left (List.getElem?_eq_some_iff.mp isTask).1]
  exact isTask

theorem task_of_quiet {task : Task} (isTask : state.tasks[index]? = some task)
    (quiet : Quiet state after) : after.tasks[index]? = some task := by
  obtain ⟨new, added⟩ := quiet.tasks
  exact task_of_append isTask added

theorem advance_task {old : Task} (isTask : state.tasks[index]? = some old) (task : FrameTask)
    (stage : Handling) :
    (state.advance index task stage).tasks[index]? = some (.frame { task with stage := stage }) :=
  List.getElem?_set_self (List.getElem?_eq_some_iff.mp isTask).1

variable [RustText]

/-- The step of another task. -/
theorem Receives.of_same {entry : Behind} (receives : state.Receives setting entry)
    (same : after.tasks[entry.task]? = state.tasks[entry.task]?) (tells : Tells state after) :
    after.Receives setting entry := by
  obtain ⟨heard, task, isTask, isData, negotiated, handles⟩ := receives
  exact ⟨heard.trans tells.length, task, same.trans isTask, isData, negotiated,
    fun frame parsed => (handles frame parsed).tells heard tells⟩

theorem work_other {other : Nat} {answer : Answer} {task : Task} {mine : Task}
    (different : other ≠ index) (isMine : state.tasks[index]? = some mine) :
    (state.work setting other answer task).tasks[index]? = some mine := by
  have put : ∀ new, (state.put other new).tasks[index]? = some mine := by
    intro new
    rw [put_tasks, List.getElem?_set_ne different]
    exact isMine
  cases source : task.source with
  | none =>
      obtain quiet | ⟨new, -, quiet⟩ := state.work_quiet setting other answer source
      · exact task_of_quiet isMine quiet
      · exact task_of_quiet (put new) quiet
  | some line =>
      cases task with
      | frame task =>
          cases inFlight : task.stage.inFlight with
          | true =>
              obtain ⟨stage, new, -, isAfter⟩ :=
                (state.handleFrame_frameStep setting other task answer inFlight).tasks
              exact task_of_append (put (.frame { task with stage := stage })) isAfter
          | false =>
              rw [work, handleFrame_of_idle setting state inFlight]
              exact isMine
      | deferred event | clearing | informing event | heartbeat line beat | done => cases source

/-- The task itself goes on with its frame. -/
theorem work_self (setting : ClientSetting) (answer : Answer) {task : FrameTask}
    (isTask : state.tasks[index]? = some (.frame task)) (inFlight : task.stage.inFlight = true) :
    ∃ stage, task.stage.Leads stage ∧
      (state.work setting index answer (.frame task)).tasks[index]? =
        some (.frame { task with stage := stage }) := by
  obtain ⟨stage, new, leads, isAfter⟩ :=
    (state.handleFrame_frameStep setting index task answer inFlight).tasks
  exact ⟨stage, leads, task_of_append (advance_task isTask task stage) isAfter⟩

omit [RustText] in
theorem kickCommand_eq_some {frame : Frame} {command : SystemCommand}
    (isKick : kickCommand frame = some command) :
    systemCommand frame = some command ∧ SystemType.ofInt32 command.type = some .kicked := by
  obtain ⟨isCommand, kicked⟩ := Option.filter_eq_some_iff.mp isKick
  exact ⟨isCommand, of_decide_eq_true kicked⟩

omit [RustText] in
/-- A KICKED that the observers are to hear of is recorded. -/
theorem kick_handled {task : FrameTask} {command : SystemCommand}
    (isTask : state.tasks[index]? = some (.frame task)) (since : Nat) (frame : Frame)
    (notified : (task.negotiated && !state.core.disconnectRequested) = true) :
    ∃ stage, (state.kick index task frame command).tasks[index]? =
        some (.frame { task with stage := stage }) ∧
      (state.kick index task frame command).KickHandled since command stage := by
  unfold kick
  simp only [notified, if_true]
  split
  next line _ => exact ⟨.kickShutting frame _ line, advance_task isTask task _, rfl, .inl rfl⟩
  next => exact ⟨.kickReporting frame _, advance_task isTask task _, rfl, .inl rfl⟩

omit [RustText] in
/-- What is still to be reported is reported at the end. -/
theorem reportKick_told {task : FrameTask} {frame : Frame} {since : Nat} {reason : String}
    (heard : since ≤ state.notified.length)
    (handled : state.core.pendingKick = some reason ∨ state.told since reason = true) :
    (state.reportKick index task frame (some reason)).told since reason = true := by
  have tells := state.reportKick_tells index task frame (some reason)
  obtain pending | told := handled
  · refine (tells.kept heard pending).resolve_left ?_
    simp [reportKick, ClientCore.takeUnreportedKick, pending]
  · exact tells.told told

/-- One step of the task of a KICKED. -/
theorem KickHandled.work {since : Nat} {command : SystemCommand} {frame : Frame}
    {answer : Answer} {task : FrameTask} {history : Receipts} {entries : List Behind}
    (isTask : state.tasks[index]? = some (.frame task)) (heard : since ≤ state.notified.length)
    (negotiated : task.negotiated = true) (carries : task.stage.frame = some frame)
    (isKick : kickCommand frame = some command)
    (handled : state.KickHandled since command task.stage) (nonempty : entries.isEmpty = false)
    (timely : state.isTaskTimely history entries task = true)
    (tells : Tells state (state.work setting index answer (.frame task))) :
    ∃ stage, (state.work setting index answer (.frame task)).tasks[index]? =
        some (.frame { task with stage := stage }) ∧
      (state.work setting index answer (.frame task)).KickHandled since command stage := by
  have advanced := fun stage => advance_task isTask task stage
  simp only [ClientState.work] at tells ⊢
  cases stage : task.stage with
  | matching received =>
      rw [stage] at carries
      obtain rfl := Option.some.inj carries
      have unawaited : state.core.pending.lookup received.messageId = none := by
        simpa [isTaskTimely, stage, nonempty, isKick] using timely
      refine ⟨.dispatching received, ?_, trivial⟩
      simp only [handleFrame, matchResponse, unawaited]
      exact advanced _
  | dispatching received =>
      rw [stage] at carries
      obtain rfl := Option.some.inj carries
      obtain ⟨isCommand, kicked⟩ := kickCommand_eq_some isKick
      refine ⟨.kicked received command, ?_, rfl⟩
      simp only [handleFrame, dispatch, isCommand, kicked]
      exact task_of_quiet (advanced _) (callsHandler_systemCommand_quiet setting _ _ _ _)
  | kicked received recorded =>
      rw [stage] at handled
      obtain rfl : recorded = command := handled
      have unrequested : state.core.disconnectRequested = false := by
        simp only [isTaskTimely, stage, nonempty, Bool.false_or, Bool.and_eq_true] at timely
        simpa using timely.1
      exact kick_handled isTask since received (by rw [negotiated, unrequested]; rfl)
  | kickShutting received reason line =>
      rw [stage] at handled
      exact ⟨.kickAnnouncing received reason line, advanced _, handled⟩
  | kickAnnouncing received reason line =>
      rw [stage] at handled tells
      refine ⟨.kickReporting received reason,
        task_of_quiet (advanced _) (announce_quiet setting _ _ _), ?_⟩
      exact handled.tells heard tells
  | kickReporting received reason =>
      rw [stage] at handled
      obtain ⟨rfl, kept⟩ := handled
      exact ⟨.delivering received true, advanced _, reportKick_told heard kept⟩
  | delivering received system =>
      rw [stage] at handled tells
      have told := tells.told handled
      cases system with
      | true => exact ⟨.finished received, advanced _, told⟩
      | false => exact ⟨.handlingBusiness received, advanced _, told⟩
  | handlingBusiness received =>
      rw [stage] at handled tells
      refine ⟨.finished received, ?_, tells.told handled⟩
      simp only [handleFrame, handleBusiness]
      cases businessCall received with
      | none => exact advanced _
      | some call =>
          simp only [Option.elim_some, callsHandler]
          split <;> exact advanced _
  | finished received =>
      rw [stage] at handled
      exact ⟨.finished received, by rw [handleFrame, isTask, stage.symm], handled⟩
  | received | reparsing | dropped =>
      rw [stage] at carries
      cases carries
  | responding received | acknowledging received | negotiationFailed received error
  | readying received | closing received recorded | closeShutting received detail line
  | closeAnnouncing received detail line =>
      rw [stage] at handled
      exact handled.elim

omit [RustText] in
theorem stage_inj {task : FrameTask} {first second : Handling}
    (same : some (Task.frame { task with stage := first }) =
      some (.frame { task with stage := second })) : first = second :=
  congrArg FrameTask.stage (Task.frame.inj (Option.some.inj same))

/-- One step of the task of a frame behind an acknowledgement. -/
theorem Receives.work {entry : Behind} {history : Receipts} {answer : Answer} {task : FrameTask}
    (receives : state.Receives setting entry)
    (isTask : state.tasks[entry.task]? = some (.frame task)) (isBehind : entry ∈ history.behind)
    (timely : state.isTaskTimely history (history.behindOf entry.task) task = true)
    (inForce : history.isLatest entry.ack = true → state.core.parser = entry.ack.parser)
    (tells : Tells state (state.work setting entry.task answer (.frame task))) :
    (state.work setting entry.task answer (.frame task)).Receives setting entry := by
  obtain ⟨heard, same, isSame, isData, negotiated, handles⟩ := receives
  obtain rfl : same = task := Task.frame.inj (Option.some.inj (isSame.symm.trans isTask))
  refine ⟨heard.trans tells.length, ?_⟩
  have isEntry : entry ∈ history.behindOf entry.task :=
    List.mem_filter.mpr ⟨isBehind, decide_eq_true rfl⟩
  cases inFlight : same.stage.inFlight with
  | false =>
      rw [ClientState.work, handleFrame_of_idle setting state inFlight]
      exact ⟨same, isTask, isData, negotiated, handles⟩
  | true =>
      obtain ⟨stage, leads, isNext⟩ := work_self setting answer isTask inFlight
      refine ⟨{ same with stage := stage }, isNext, isData, negotiated,
        fun frame parsed => .inr ?_⟩
      obtain received | ⟨carries, kicks⟩ := handles frame parsed
      · have latest : history.isLatest entry.ack = true := by
          simp only [isTaskTimely, received, List.all_eq_true] at timely
          exact timely entry isEntry
        have matched : state.parse setting same = .matching frame := by
          rw [← inForce latest, ← isData] at parsed
          simp only [parse, negotiated, if_true, parseMessage, parsed]
        rw [ClientState.work, received, handleFrame, matched, advance_task isTask] at isNext
        obtain rfl : .matching frame = stage := stage_inj isNext
        exact ⟨rfl, fun _ _ => trivial⟩
      · refine ⟨leads.carries frame carries, fun command isKick => ?_⟩
        obtain ⟨other, isOther, handled⟩ := (kicks command isKick).work isTask heard negotiated
          carries isKick (List.isEmpty_eq_false_iff_exists_mem.mpr ⟨entry, isEntry⟩) timely tells
        obtain rfl : stage = other := stage_inj (isNext.symm.trans isOther)
        exact handled

omit [RustText] in
theorem frame_of_received {task : FrameTask} {frame : Frame}
    (either : task.stage = .received ∨ task.stage.frame = some frame) {received : Frame}
    (carries : task.stage.frame = some received) : received = frame := by
  obtain unparsed | carriesFrame := either
  · rw [unparsed] at carries
    cases carries
  · exact Option.some.inj (carries.symm.trans carriesFrame)

/-- One step of the task of an acknowledgement. -/
theorem Acknowledges.work {ack : Acknowledged} {answer : Answer} {task : FrameTask}
    (acknowledges : state.Acknowledges setting ack)
    (isTask : state.tasks[ack.task]? = some (.frame task)) :
    (state.work setting ack.task answer (.frame task)).Acknowledges setting ack := by
  obtain ⟨same, isSame, unnegotiated, frame, parsed, parser, stands⟩ := acknowledges
  obtain rfl : same = task := Task.frame.inj (Option.some.inj (isSame.symm.trans isTask))
  cases inFlight : same.stage.inFlight with
  | false =>
      rw [ClientState.work, handleFrame_of_idle setting state inFlight]
      exact ⟨same, isTask, unnegotiated, frame, parsed, parser, stands⟩
  | true =>
      obtain ⟨stage, leads, isNext⟩ := work_self setting answer isTask inFlight
      refine ⟨{ same with stage := stage }, isNext, unnegotiated, frame, parsed, parser, .inr ?_⟩
      obtain received | carries := stands
      · have matched : state.parse setting same = .matching frame := by
          simp [parse, unnegotiated, parsed]
        rw [ClientState.work, received, handleFrame, matched, advance_task isTask] at isNext
        obtain rfl : .matching frame = stage := stage_inj isNext
        rfl
      · exact leads.carries frame carries

end ClientState

/-! ## Runs -/

section Runs

variable [RustText] {setting : ClientSetting} {state after : ClientState} {history : Receipts}

omit [RustText] in
theorem ClientState.incoming_eq_some {move : Move} {line : Nat} {data : Bytes}
    (incoming : state.incoming move = some (line, data)) :
    move = .handOver line ∧ state.lines[line]?.bind Line.reading = some (.message data) := by
  cases move with
  | handOver other =>
      simp only [ClientState.incoming] at incoming
      split at incoming
      next reading =>
        cases incoming
        exact ⟨rfl, reading⟩
      all_goals cases incoming
  | call call | submit frame waits | send index answer | operate answer | read line event
  | work index answer => cases incoming

/-- What a step adds to the history: what was read on the line is behind its acknowledgement. -/
theorem Receipts.mem_behind_record {move : Move} {entry : Behind}
    (isBehind : entry ∈ (record setting state move after history).behind) :
    entry ∈ history.behind ∨ ∃ line data, state.incoming move = some (line, data) ∧
      history.ackOf line = some entry.ack ∧ entry.data = data ∧
        entry.task = state.tasks.length ∧ entry.since = state.notified.length := by
  unfold record at isBehind
  cases incoming : state.incoming move with
  | none =>
      rw [incoming] at isBehind
      exact .inl isBehind
  | some arrival =>
      obtain ⟨line, data⟩ := arrival
      rw [incoming] at isBehind
      simp only [Option.elim_some, receive] at isBehind
      split at isBehind
      next ack found =>
        obtain earlier | new := List.mem_append.mp isBehind
        · exact .inl earlier
        · obtain rfl := List.mem_singleton.mp new
          exact .inr ⟨line, data, rfl, found, rfl, rfl, rfl⟩
      next => split at isBehind <;> exact .inl isBehind

/-- What a step adds to the history: the acknowledgement of a line. -/
theorem Receipts.mem_acknowledged_record {move : Move} {ack : Acknowledged}
    (isAck : ack ∈ (record setting state move after history).acknowledged) :
    ack ∈ history.acknowledged ∨ ∃ line data, state.incoming move = some (line, data) ∧
      history.ackOf line = none ∧ setting.acknowledgedParser data = some ack.parser ∧
        ack.task = state.tasks.length := by
  unfold record at isAck
  cases incoming : state.incoming move with
  | none =>
      rw [incoming] at isAck
      exact .inl isAck
  | some arrival =>
      obtain ⟨line, data⟩ := arrival
      rw [incoming] at isAck
      simp only [Option.elim_some, receive] at isAck
      split at isAck
      next => exact .inl isAck
      next unacknowledged =>
        split at isAck
        next parser stands =>
          obtain earlier | new := List.mem_append.mp isAck
          · exact .inl earlier
          · obtain rfl := List.mem_singleton.mp new
            exact .inr ⟨line, data, rfl, unacknowledged, stands, rfl⟩
        next => exact .inl isAck

theorem Receipts.acknowledged_record {move : Move} {ack : Acknowledged}
    (isAck : ack ∈ history.acknowledged) :
    ack ∈ (record setting state move after history).acknowledged := by
  unfold record
  cases state.incoming move with
  | none => exact isAck
  | some arrival =>
      simp only [Option.elim_some, receive]
      split
      · exact isAck
      · split
        · exact List.mem_append_left _ isAck
        · exact isAck

theorem Receipts.latest_record {move : Move} :
    (record setting state move after history).latest = history.latest.record state move after := by
  unfold record
  cases state.incoming move with
  | none => rfl
  | some arrival =>
      simp only [Option.elim_some, receive]
      split
      · rfl
      · split <;> rfl

omit [RustText] in
theorem Receipts.mem_of_ackOf {line : Nat} {ack : Acknowledged}
    (found : history.ackOf line = some ack) : ack ∈ history.acknowledged :=
  List.mem_of_find?_eq_some found

/-- A frame that is handed over has a task of its own. -/
theorem ClientState.task_of_incoming {line : Nat} {data : Bytes} {move : Move}
    (incoming : state.incoming move = some (line, data))
    (performed : state.perform setting move = some after) :
    move = .handOver line ∧ after.notified = state.notified ∧
      after.tasks[state.tasks.length]? =
        some (.frame ⟨line, data, state.core.negotiationCompleted, .received⟩) := by
  obtain ⟨rfl, reading⟩ := ClientState.incoming_eq_some incoming
  simp only [ClientState.perform, ClientState.handOver, reading, Option.map_some,
    Option.some.injEq] at performed
  subst performed
  refine ⟨rfl, rfl, ?_⟩
  simp [ClientState.deliver, ClientState.receive]

/-- The step of another task, or of none, leaves a task alone. -/
theorem ClientState.task_kept {move : Move} {index : Nat} {task : Task}
    (isTask : state.tasks[index]? = some task) (elsewhere : ∀ answer, move ≠ .work index answer)
    (performed : state.perform setting move = some after) :
    after.tasks[index]? = some task := by
  cases move with
  | work other answer =>
      obtain ⟨current, -, rfl⟩ := Option.map_eq_some_iff.mp performed
      exact work_other (fun same => elsewhere answer (congrArg (Move.work · answer) same)) isTask
  | call call | submit frame waits | send index answer | operate answer | read line event
  | handOver line =>
      exact task_of_quiet isTask (perform_quiet setting performed fun _ _ => Move.noConfusion)

/-- Tasks are not taken away. -/
theorem ClientState.length_tasks {move : Move}
    (performed : state.perform setting move = some after) :
    state.tasks.length ≤ after.tasks.length := by
  have appended : ∀ {before : ClientState}, Quiet before after →
      before.tasks.length = state.tasks.length → state.tasks.length ≤ after.tasks.length := by
    intro before quiet same
    obtain ⟨new, added⟩ := quiet.tasks
    rw [added, List.length_append, same]
    exact Nat.le_add_right _ _
  cases move with
  | work index answer =>
      obtain ⟨task, -, rfl⟩ := Option.map_eq_some_iff.mp performed
      cases source : task.source with
      | none =>
          obtain quiet | ⟨new, -, quiet⟩ := state.work_quiet setting index answer source
          · exact appended quiet rfl
          · exact appended quiet List.length_set
      | some line =>
          cases task with
          | frame task =>
              cases inFlight : task.stage.inFlight with
              | true =>
                  obtain ⟨stage, new, -, isAfter⟩ :=
                    (state.handleFrame_frameStep setting index task answer inFlight).tasks
                  rw [ClientState.work, isAfter, List.length_append, List.length_set]
                  exact Nat.le_add_right _ _
              | false =>
                  rw [ClientState.work, handleFrame_of_idle setting state inFlight]
          | deferred event | clearing | informing event | heartbeat line beat | done => cases source
  | call call | submit frame waits | send index answer | operate answer | read line event
  | handOver line =>
      exact appended (perform_quiet setting performed fun _ _ => Move.noConfusion) rfl

/-- An acknowledgement that is read in time. -/
theorem Timely.acknowledges {line : Nat} {data : Bytes} {move : Move} {ack : Acknowledged}
    (timely : Timely setting (state, history) move)
    (incoming : state.incoming move = some (line, data))
    (unacknowledged : history.ackOf line = none)
    (stands : setting.acknowledgedParser data = some ack.parser)
    (task : ack.task = state.tasks.length)
    (performed : state.perform setting move = some after) : after.Acknowledges setting ack := by
  obtain ⟨rfl, -, isTask⟩ := ClientState.task_of_incoming incoming performed
  have unnegotiated : state.core.negotiationCompleted = false := by
    simpa [Timely, ClientState.isTimely, incoming, unacknowledged, stands] using timely
  obtain ⟨frame, parsed, reads⟩ := Option.bind_eq_some_iff.mp stands
  obtain ⟨profile, -, parser⟩ := Option.map_eq_some_iff.mp reads
  refine ⟨_, task ▸ isTask, unnegotiated, frame, ?_, parser.symm, .inl rfl⟩
  cases result : setting.parsePreNegotiation data with
  | error error =>
      rw [result] at parsed
      cases parsed
  | ok other =>
      rw [result] at parsed
      exact congrArg Except.ok (Option.some.inj parsed)

/-- Every acknowledgement is handled as what it is, every frame behind one is received, and the
core goes by the acknowledgement that was handled last. -/
structure Receipts.Sound (setting : ClientSetting) (state : ClientState) (history : Receipts) :
    Prop where
  acknowledged : ∀ ack ∈ history.acknowledged, state.Acknowledges setting ack
  behind : ∀ entry ∈ history.behind, entry.ack ∈ history.acknowledged
  received : ∀ entry ∈ history.behind, state.Receives setting entry
  inForce : history.latest.InForce setting state.core
  bounded : ∀ index frame, history.latest.handled = some (index, frame) →
    index < state.tasks.length
  stands : ∀ ack ∈ history.acknowledged, ∀ frame,
    history.latest.handled = some (ack.task, frame) →
      setting.config.parserAfterAck setting.config.initialParser frame = ack.parser

namespace Receipts.Sound

variable (sound : history.Sound setting state)

include sound

/-- While an acknowledgement is the one that was handled last, its parser is in force. -/
theorem parser {ack : Acknowledged} (isAck : ack ∈ history.acknowledged)
    (latest : history.isLatest ack = true) : state.core.parser = ack.parser := by
  obtain ⟨⟨index, frame⟩, handled, same⟩ := (Option.any_eq_true _ _).mp latest
  obtain rfl : index = ack.task := of_decide_eq_true same
  rw [sound.inForce.parser, Acknowledgement.parser, handled]
  exact sound.stands ack isAck frame handled

/-- A frame that is read in time. -/
theorem receives {line : Nat} {data : Bytes} {move : Move} {entry : Behind}
    (timely : Timely setting (state, history) move)
    (incoming : state.incoming move = some (line, data))
    (acknowledged : history.ackOf line = some entry.ack) (isData : entry.data = data)
    (task : entry.task = state.tasks.length) (since : entry.since = state.notified.length)
    (performed : state.perform setting move = some after) : after.Receives setting entry := by
  obtain ⟨rfl, notified, isTask⟩ := ClientState.task_of_incoming incoming performed
  have standing : history.latest.standing = true := by
    simp only [Timely, ClientState.isTimely, incoming, Option.all_some, acknowledged,
      Bool.and_eq_true] at timely
    exact timely.2
  exact ⟨by rw [since, notified], _, task ▸ isTask, isData.symm,
    sound.inForce.completed standing, fun _ _ => .inl rfl⟩

/-- A frame that was read before. -/
theorem receives_later {move : Move} {entry : Behind} (isBehind : entry ∈ history.behind)
    (timely : Timely setting (state, history) move)
    (performed : state.perform setting move = some after) : after.Receives setting entry := by
  have tells := timely.tells performed
  have receives := sound.received entry isBehind
  obtain ⟨task, isTask, -⟩ := receives.task
  by_cases own : ∃ answer, move = .work entry.task answer
  · obtain ⟨answer, rfl⟩ := own
    obtain ⟨current, found, rfl⟩ := Option.map_eq_some_iff.mp performed
    obtain rfl := Option.some.inj (isTask.symm.trans (Option.filter_eq_some_iff.mp found).1)
    refine receives.work isTask isBehind ?_ (sound.parser (sound.behind entry isBehind)) tells
    simpa [Timely, ClientState.isTimely, isTask] using timely
  · refine receives.of_same ?_ tells
    rw [isTask]
    exact ClientState.task_kept isTask (fun answer same => own ⟨answer, same⟩) performed

/-- An acknowledgement that was read before. -/
theorem acknowledges_later {move : Move} {ack : Acknowledged} (isAck : ack ∈ history.acknowledged)
    (performed : state.perform setting move = some after) : after.Acknowledges setting ack := by
  have acknowledges := sound.acknowledged ack isAck
  obtain ⟨task, isTask, rest⟩ := id acknowledges
  by_cases own : ∃ answer, move = .work ack.task answer
  · obtain ⟨answer, rfl⟩ := own
    obtain ⟨current, found, rfl⟩ := Option.map_eq_some_iff.mp performed
    obtain rfl := Option.some.inj (isTask.symm.trans (Option.filter_eq_some_iff.mp found).1)
    exact acknowledges.work isTask
  · exact ⟨task, ClientState.task_kept isTask (fun answer same => own ⟨answer, same⟩) performed,
      rest⟩

/-- The acknowledgement that a step handles stands for the parser that was expected of it. -/
theorem stands_handled {move : Move} {ack : Acknowledged} {frame : Frame}
    (isAck : ack ∈ history.acknowledged)
    (handled : state.handledAck move = some (ack.task, frame)) :
    setting.config.parserAfterAck setting.config.initialParser frame = ack.parser := by
  obtain ⟨answer, task, profile, rfl, isTask, stage, -⟩ :=
    Acknowledgement.handledAck_eq_some handled
  obtain ⟨same, isSame, -, expected, -, parser, either⟩ := sound.acknowledged ack isAck
  obtain rfl := Task.frame.inj (Option.some.inj (isSame.symm.trans isTask))
  have carries : same.stage.frame = some frame := by rw [stage]; rfl
  rw [ClientState.frame_of_received either carries, parser]

/-- **In time, every step keeps what is known of the frames.** -/
theorem step {next : ClientState} {move : Move} (timely : Timely setting (state, history) move)
    (stepped : state.step setting move = some next) :
    (Receipts.record setting state move next history).Sound setting next := by
  obtain ⟨after, performed, rfl⟩ := Option.map_eq_some_iff.mp stepped
  have latest : (Receipts.record setting state move after.settle history).latest =
      history.latest.record state move after.settle := Receipts.latest_record
  have fresh : ∀ index frame, state.handledAck move = some (index, frame) →
      index < state.tasks.length := by
    intro index frame handled
    obtain ⟨answer, task, profile, -, isTask, -⟩ := Acknowledgement.handledAck_eq_some handled
    exact (List.getElem?_eq_some_iff.mp isTask).1
  have handled : ∀ index frame,
      (history.latest.record state move after.settle).handled = some (index, frame) →
        state.handledAck move = some (index, frame) ∨
          history.latest.handled = some (index, frame) := by
    intro index frame isHandled
    unfold Acknowledgement.record at isHandled
    split at isHandled
    next entry found => exact .inl (found.trans isHandled)
    next => exact .inr isHandled
  constructor
  · intro ack isAck
    suffices after.Acknowledges setting ack by exact this
    obtain earlier | ⟨line, data, incoming, unacknowledged, stands, task⟩ :=
      Receipts.mem_acknowledged_record isAck
    · exact sound.acknowledges_later earlier performed
    · exact timely.acknowledges incoming unacknowledged stands task performed
  · intro entry isBehind
    apply Receipts.acknowledged_record
    obtain earlier | ⟨line, data, -, acknowledged, -⟩ := Receipts.mem_behind_record isBehind
    · exact sound.behind entry earlier
    · exact Receipts.mem_of_ackOf acknowledged
  · intro entry isBehind
    suffices after.Receives setting entry by exact ⟨this.heard, this.task⟩
    obtain earlier | ⟨line, data, incoming, acknowledged, isData, task, since⟩ :=
      Receipts.mem_behind_record isBehind
    · exact sound.receives_later earlier timely performed
    · exact sound.receives timely incoming acknowledged isData task since performed
  · rw [latest]
    exact sound.inForce.step stepped
  · intro index frame isHandled
    rw [latest] at isHandled
    have below : index < state.tasks.length :=
      (handled index frame isHandled).elim (fresh index frame) (sound.bounded index frame)
    suffices index < after.tasks.length by exact this
    exact Nat.lt_of_lt_of_le below (ClientState.length_tasks performed)
  · intro ack isAck frame isHandled
    rw [latest] at isHandled
    obtain earlier | ⟨line, data, -, -, -, task⟩ := Receipts.mem_acknowledged_record isAck
    · exact (handled _ frame isHandled).elim (sound.stands_handled earlier)
        (sound.stands ack earlier frame)
    · have below := (handled _ frame isHandled).elim (fresh _ frame) (sound.bounded _ frame)
      rw [task] at below
      exact absurd below (Nat.lt_irrefl _)

end Receipts.Sound

/-- A client at its beginning goes by the parser it is set up with. -/
theorem Receipts.sound_initial {start : ClientState} (initial : start.IsInitial setting.config) :
    Receipts.initial.Sound setting start := by
  constructor
  · intro ack isAck
    cases isAck
  · intro entry isBehind
    cases isBehind
  · intro entry isBehind
    cases isBehind
  · obtain rfl | rfl := initial <;> exact ⟨rfl, Bool.noConfusion⟩
  · intro index frame handled
    cases handled
  · intro ack isAck
    cases isAck

omit [RustText] in
theorem Handling.inFlight_of_frame {stage : Handling} {frame : Frame}
    (carries : stage.frame = some frame) (unfinished : stage ≠ .finished frame) :
    stage.inFlight = true := by
  cases stage with
  | finished other =>
      obtain rfl := Option.some.inj carries
      exact absurd rfl unfinished
  | received | reparsing | dropped => cases carries
  | _ => rfl

/-- The task of a frame always goes on, until the frame is handled. -/
theorem ClientState.goesOn {index : Nat} {task : FrameTask}
    (isTask : state.tasks[index]? = some (.frame task)) (inFlight : task.stage.inFlight = true)
    (answer : Answer) :
    ∃ next later, state.step setting (.work index answer) = some next ∧
      next.tasks[index]? = some (.frame later) ∧ later.stage.rank < task.stage.rank := by
  obtain ⟨stage, leads, isNext⟩ := work_self setting answer isTask inFlight
  refine ⟨(state.work setting index answer (.frame task)).settle, { task with stage := stage }, ?_,
    isNext, leads.nearer⟩
  simp [step, perform, isTask]

end Runs

/-! ## Concrete runs -/

section Examples

open scoped AsciiText

/-- The client of the runs below, which may meet an acknowledgement and a KICKED. -/
def acknowledgeable : ClientSetting :=
  .builtin .webSocket [plainAck, conflictKick]

/-- The task is the one of a KICKED for a device conflict behind an acknowledgement, and has handled
it. -/
def hasHandledKick (index : Nat) (state : ClientState × Receipts) : Bool :=
  state.2.behind.any fun entry => entry.task = index && state.1.tasks[index]?.any fun
    | .frame ⟨_, _, _, .finished _⟩ =>
        (entry.ack.parser.parse acknowledgeable.registries entry.data).toOption.any fun frame =>
          (kickCommand frame).any fun command => kickReason command = deviceConflictReason
    | _ => false

theorem hasHandledKick_eq_true {index : Nat} {state : ClientState} {history : Receipts}
    (handled : hasHandledKick index (state, history) = true) :
    ∃ entry task received frame command, entry ∈ history.behind ∧ entry.task = index ∧
      state.tasks[index]? = some (.frame task) ∧ task.stage = .finished received ∧
      entry.ack.parser.parse acknowledgeable.registries entry.data = .ok frame ∧
      kickCommand frame = some command ∧ kickReason command = deviceConflictReason := by
  simp only [hasHandledKick, List.any_eq_true, Bool.and_eq_true, decide_eq_true_eq] at handled
  obtain ⟨entry, isBehind, rfl, found⟩ := handled
  obtain ⟨task, isTask, test⟩ := (Option.any_eq_true _ _).mp found
  split at test
  next line data negotiated received =>
    obtain ⟨frame, parsed, kick⟩ := (Option.any_eq_true _ _).mp test
    obtain ⟨command, isKick, reason⟩ := (Option.any_eq_true _ _).mp kick
    refine ⟨entry, _, received, frame, command, isBehind, rfl, isTask, rfl, ?_, isKick,
      of_decide_eq_true reason⟩
    cases result : entry.ack.parser.parse acknowledgeable.registries entry.data with
    | error error =>
        rw [result] at parsed
        cases parsed
    | ok other =>
        rw [result] at parsed
        cases parsed
        rfl
  next => cases test

/-- The frame does not count as read after the negotiation. -/
def Task.isUnnegotiated : Task → Bool
  | .frame task => !task.negotiated
  | .deferred _ | .clearing | .informing _ | .heartbeat _ _ | .done => false

end Examples

end FlareCore.Client

import FlareCore.Client.Evolution
import FlareCore.Foundations.OrderedLog

/-!
# The order in which frames are delivered

Each frame that is read is handled by a task of its own, so nothing but the scheduler decides
which of two frames reaches the observers first.  Tasks are numbered in the order in which
their frames were read, and the logs of what the observers and the event handler heard name the
task; in order means that the numbers of each line increase.

The runs in which they do are those in which no task delivers its frame, or calls the event
handler with it, while the task of an earlier frame of the line may still do so.
-/

namespace FlareCore.Client

open FlareCore.Common FlareCore.Server FlareCore.Foundations

set_option autoImplicit false

/-! ## What a task may still do -/

namespace Handling

/-- The observers have yet to hear of the frame. -/
def mayNotify : Handling → Bool
  | handlingBusiness _ | finished _ | dropped => false
  | received | reparsing | matching _ | responding _ | dispatching _ | acknowledging _
  | negotiationFailed _ _ | readying _ | kicked _ _ | kickShutting _ _ _ | kickAnnouncing _ _ _
  | kickReporting _ _ | closing _ _ | closeShutting _ _ _ | closeAnnouncing _ _ _
  | delivering _ _ => true

/-- The event handler has yet to be called with the frame, if it is for the event handler. -/
def mayCall : Handling → Bool
  | received | reparsing => true
  | matching frame | dispatching frame | delivering frame false | handlingBusiness frame =>
      (businessCall frame).isSome
  | responding _ | acknowledging _ | negotiationFailed _ _ | readying _ | kicked _ _
  | kickShutting _ _ _ | kickAnnouncing _ _ _ | kickReporting _ _ | closing _ _
  | closeShutting _ _ _ | closeAnnouncing _ _ _ | delivering _ true | finished _ | dropped => false

/-- The next step tells the observers. -/
def notifies : Handling → Bool
  | responding _ | delivering _ _ => true
  | received | reparsing | matching _ | dispatching _ | acknowledging _ | negotiationFailed _ _
  | readying _ | kicked _ _ | kickShutting _ _ _ | kickAnnouncing _ _ _ | kickReporting _ _
  | closing _ _ | closeShutting _ _ _ | closeAnnouncing _ _ _ | handlingBusiness _ | finished _
  | dropped => false

/-- The next step calls the event handler, if there is one. -/
def calls : Handling → Bool
  | handlingBusiness frame => (businessCall frame).isSome
  | received | reparsing | matching _ | responding _ | dispatching _ | acknowledging _
  | negotiationFailed _ _ | readying _ | kicked _ _ | kickShutting _ _ _ | kickAnnouncing _ _ _
  | kickReporting _ _ | closing _ _ | closeShutting _ _ _ | closeAnnouncing _ _ _
  | delivering _ _ | finished _ | dropped => false

/-- The frame that was parsed. -/
def frame : Handling → Option Frame
  | received | reparsing | dropped => none
  | matching frame | responding frame | dispatching frame | acknowledging frame
  | negotiationFailed frame _ | readying frame | kicked frame _ | kickShutting frame _ _
  | kickAnnouncing frame _ _ | kickReporting frame _ | closing frame _ | closeShutting frame _ _
  | closeAnnouncing frame _ _ | delivering frame _ | handlingBusiness frame | finished frame =>
      some frame

/-- How many steps are left at most. -/
def rank : Handling → Nat
  | received => 9
  | reparsing => 8
  | matching _ => 7
  | dispatching _ => 6
  | kicked _ _ => 5
  | kickShutting _ _ _ | acknowledging _ | closing _ _ => 4
  | kickAnnouncing _ _ _ | readying _ | negotiationFailed _ _ | closeShutting _ _ _ => 3
  | kickReporting _ _ | closeAnnouncing _ _ _ => 2
  | delivering _ true | responding _ | handlingBusiness _ => 1
  | delivering _ false => 2
  | finished _ | dropped => 0

end Handling

namespace Task

/-- The line whose frame a task handles. -/
def source : Task → Option Nat
  | frame task => some task.line
  | deferred _ | clearing | informing _ | heartbeat _ _ | done => none

def mayNotify : Task → Bool
  | frame task => task.stage.mayNotify
  | deferred _ | clearing | informing _ | heartbeat _ _ | done => false

def mayCall : Task → Bool
  | frame task => task.stage.mayCall
  | deferred _ | clearing | informing _ | heartbeat _ _ | done => false

end Task

/-! ## The logs -/

/-- A frame that the observers heard of: its line and its task. -/
def Notice.entry : Notice → Option (Nat × Nat)
  | ⟨some origin, .message _⟩ => some (origin.line, origin.task)
  | _ => none

/-- A frame that the event handler was called with: its line and its task. -/
def Callback.entry : Callback → Option (Nat × Nat)
  | ⟨some origin, .messageCommand _ _⟩ | ⟨some origin, .notificationCommand _ _⟩ =>
      some (origin.line, origin.task)
  | _ => none

namespace ClientState

variable (state : ClientState)

def messageLog : List (Nat × Nat) :=
  state.notified.filterMap Notice.entry

def callLog : List (Nat × Nat) :=
  state.callbacks.filterMap Callback.entry

/-- The frames of a line that the observers heard of, in the order in which they did. -/
def delivered (line : Nat) : List Nat :=
  entriesOf state.messageLog line

/-- The frames of a line that the event handler was called with, in the order of the calls. -/
def handled (line : Nat) : List Nat :=
  entriesOf state.callLog line

/-- No task before a given one may still do something with a frame of a line. -/
def isFirst (may : Task → Bool) (line index : Nat) : Bool :=
  (state.tasks.take index).all fun earlier => earlier.source ≠ some line || !may earlier

/-- It is a task's turn to tell the observers, or to call the event handler. -/
def inTurn (setting : ClientSetting) (index : Nat) : Task → Bool
  | .frame task =>
      (!task.stage.notifies || state.isFirst Task.mayNotify task.line index) &&
        (!(setting.hasHandler && task.stage.calls) || state.isFirst Task.mayCall task.line index)
  | .deferred _ | .clearing | .informing _ | .heartbeat _ _ | .done => true

end ClientState

/-- A task delivers its frame, and calls the event handler with it, only when it is its turn. -/
def InTurn (setting : ClientSetting) (state : ClientState) : Move → Prop
  | .work index _ => state.tasks[index]?.all (state.inTurn setting index) = true
  | .call _ | .submit _ _ | .send _ _ | .operate _ | .read _ _ | .handOver _ => True

instance (setting : ClientSetting) (state : ClientState) :
    ∀ move, Decidable (InTurn setting state move)
  | .work index _ =>
      inferInstanceAs (Decidable (state.tasks[index]?.all (state.inTurn setting index) = true))
  | .call _ | .submit _ _ | .send _ _ | .operate _ | .read _ _ | .handOver _ => isTrue trivial

/-! ## Steps that deliver nothing -/

/-- Tasks may be added, and no frame is delivered. -/
structure Quiet (before after : ClientState) : Prop where
  tasks : ∃ new, after.tasks = before.tasks ++ new
  messages : after.messageLog = before.messageLog
  calls : after.callLog = before.callLog

namespace Quiet

variable {first second third : ClientState}

theorem of_eq (tasks : second.tasks = first.tasks) (notified : second.notified = first.notified)
    (callbacks : second.callbacks = first.callbacks) : Quiet first second where
  tasks := ⟨[], by simp [tasks]⟩
  messages := by simp only [ClientState.messageLog, notified]
  calls := by simp only [ClientState.callLog, callbacks]

theorem refl (state : ClientState) : Quiet state state :=
  of_eq rfl rfl rfl

theorem after (right : Quiet second third) (left : Quiet first second) : Quiet first third where
  tasks := by
    obtain ⟨added, isAdded⟩ := left.tasks
    obtain ⟨more, isMore⟩ := right.tasks
    exact ⟨added ++ more, by rw [isMore, isAdded, List.append_assoc]⟩
  messages := right.messages.trans left.messages
  calls := right.calls.trans left.calls

/-- What follows changes neither the tasks nor the logs. -/
theorem followed (left : Quiet first second) (tasks : third.tasks = second.tasks)
    (notified : third.notified = second.notified)
    (callbacks : third.callbacks = second.callbacks) : Quiet first third :=
  (of_eq tasks notified callbacks).after left

end Quiet

namespace ClientState

variable (setting : ClientSetting) (state : ClientState)

theorem spawn_quiet (task : Task) : Quiet state (state.spawn task) :=
  ⟨⟨[task], rfl⟩, rfl, rfl⟩

theorem notifyAll_quiet (events : List ConnectionEvent) : Quiet state (state.notifyAll events) where
  tasks := ⟨[], by simp⟩
  messages := by
    simp only [messageLog, notifyAll_notified, List.filterMap_append, List.filterMap_map]
    have unnamed : events.filterMap (Notice.entry ∘ fun event => ⟨none, event⟩) = [] := by
      rw [List.filterMap_eq_nil_iff]
      intro event _
      rfl
    rw [unnamed, List.append_nil]
  calls := rfl

theorem inform_quiet (event : ConnectionEvent) : Quiet state (state.inform setting event) := by
  unfold inform
  split
  · exact state.spawn_quiet (.informing event)
  · exact .refl state

theorem handleTerminalEvent_quiet (event : ConnectionEvent) :
    Quiet state (state.handleTerminalEvent setting event) := by
  refine (notifyAll_quiet _ _).after ((spawn_quiet _ .clearing).after ?_)
  exact (state.inform_quiet setting event).followed rfl rfl rfl

theorem handleConnected_quiet (alreadyConnected : Bool) :
    Quiet state (state.handleConnected setting alreadyConnected) := by
  refine (notifyAll_quiet _ _).after ?_
  exact (state.inform_quiet setting .connected).followed rfl rfl rfl

theorem onTerminalEvent_quiet (event : ConnectionEvent) :
    Quiet state (state.onTerminalEvent setting event) := by
  unfold onTerminalEvent
  split
  · exact state.spawn_quiet (.deferred event)
  · exact state.handleTerminalEvent_quiet setting event

theorem announce_quiet (line : Nat) (event : ConnectionEvent) :
    Quiet state (state.announce setting line event) := by
  unfold announce
  split
  · exact (onTerminalEvent_quiet setting _ event).after (.of_eq rfl rfl rfl)
  · exact .refl state

theorem tryStartHeartbeat_quiet : Quiet state (state.tryStartHeartbeat setting) := by
  unfold tryStartHeartbeat
  split
  · exact .refl state
  · split
    · exact (spawn_quiet _ _).after (.of_eq rfl rfl rfl)
    · exact .refl state

/-- The event handler may be called with a system command at any time. -/
theorem callsHandler_systemCommand_quiet (origin : Origin) (kind : SystemType) (frame : Frame) :
    Quiet state (state.callsHandler setting origin (.systemCommand kind frame)) := by
  unfold callsHandler
  split
  · exact ⟨⟨[], by simp⟩, rfl, by simp [callLog, Callback.entry]⟩
  · exact .refl state

theorem quiet_of_sameRecords {before after : ClientState} (same : SameRecords before after) :
    Quiet before after :=
  .of_eq same.tasks same.notified same.callbacks

/-- No step of a call delivers anything. -/
theorem quiet_of_callEffect {stage : Stage} {before after : ClientState}
    (effect : CallEffect setting stage before after) : Quiet before after := by
  induction effect with
  | keeps same => exact quiet_of_sameRecords same
  | spawns before task => exact before.spawn_quiet task
  | ends before event => exact before.handleTerminalEvent_quiet setting event
  | connects before reached => exact before.handleConnected_quiet setting _
  | followed left right before after => exact after.after before

theorem start_quiet (call : Call) : Quiet state (state.start setting call) :=
  quiet_of_sameRecords (state.start_sameRecords setting call)

variable [RustText]

theorem deliver_quiet (line : Nat) (event : ConnectionEvent) :
    Quiet state (state.deliver setting line event) := by
  cases event with
  | message data => exact (spawn_quiet _ _).after (.of_eq rfl rfl rfl)
  | connected => exact .refl state
  | disconnected reason => exact state.announce_quiet setting line (.disconnected reason)
  | error error => exact state.announce_quiet setting line (.error error)

theorem operate_quiet {state after : ClientState} {operation : Operation} {answer : Answer}
    (operated : state.operate setting operation answer = some after) : Quiet state after :=
  quiet_of_callEffect setting (operate_callEffect setting operated)

/-- Only tasks deliver. -/
theorem perform_quiet {state after : ClientState} {move : Move}
    (performed : state.perform setting move = some after)
    (background : ∀ index answer, move ≠ .work index answer) : Quiet state after := by
  cases move with
  | call call =>
      simp only [perform, Option.ite_none_right_eq_some] at performed
      obtain ⟨-, started⟩ := performed
      exact Option.some.inj started ▸ state.start_quiet setting call
  | submit frame waits => exact Option.some.inj performed ▸ .of_eq rfl rfl rfl
  | send index answer =>
      obtain ⟨sender, -, sent⟩ := Option.bind_eq_some_iff.mp performed
      obtain only | ⟨-, stage, call, -, rfl⟩ := sendStep_eq_some sent
      · exact .of_eq only.tasks only.notified only.callbacks
      · exact (start_quiet setting _ call).after (.of_eq rfl rfl rfl)
  | operate answer =>
      obtain ⟨operation, -, operated⟩ := Option.bind_eq_some_iff.mp performed
      exact operate_quiet setting operated
  | read line event =>
      simp only [perform, read, Option.ite_none_right_eq_some] at performed
      obtain ⟨-, taken⟩ := performed
      exact Option.some.inj taken ▸ .of_eq rfl rfl rfl
  | handOver line =>
      obtain ⟨event, -, rfl⟩ := Option.map_eq_some_iff.mp performed
      exact (deliver_quiet setting _ line event).after (.of_eq rfl rfl rfl)
  | work index answer => exact absurd rfl (background index answer)

end ClientState

/-! ## The steps of a frame -/

/-- A frame that may be delivered later may be delivered now, and what is done is done.  The
frame stays the same, and its handling comes to an end. -/
structure Handling.Leads (old new : Handling) : Prop where
  carries : ∀ frame, old.frame = some frame → new.frame = some frame
  nearer : new.rank < old.rank
  mayNotify : new.mayNotify = true → old.mayNotify = true
  mayCall : new.mayCall = true → old.mayCall = true
  notified : old.notifies = true → new.mayNotify = false
  called : old.calls = true → new.mayCall = false

/-- A stage in which nothing is delivered leads anywhere, as far as the observers go. -/
theorem Handling.Leads.of_silent {old new : Handling}
    (carries : ∀ frame, old.frame = some frame → new.frame = some frame)
    (nearer : Nat.blt new.rank old.rank = true) (waiting : old.mayNotify = true)
    (mayCall : new.mayCall = true → old.mayCall = true) (silent : old.notifies = false)
    (uncalled : old.calls = false) : old.Leads new where
  carries := carries
  nearer := Nat.blt_eq.mp nearer
  mayNotify _ := waiting
  mayCall := mayCall
  notified notifies := by
    rw [silent] at notifies
    exact Bool.noConfusion notifies
  called calls := by
    rw [uncalled] at calls
    exact Bool.noConfusion calls

/-- What a step of a frame's task does to the tasks and to the logs. -/
structure FrameStep (setting : ClientSetting) (before after : ClientState) (index : Nat)
    (task : FrameTask) : Prop where
  tasks : ∃ stage new, task.stage.Leads stage ∧
    after.tasks = before.tasks.set index (.frame { task with stage := stage }) ++ new
  messages : after.messageLog =
    before.messageLog ++ if task.stage.notifies then [(task.line, index)] else []
  calls : after.callLog =
    before.callLog ++ if setting.hasHandler && task.stage.calls then [(task.line, index)] else []

namespace FrameStep

variable {setting : ClientSetting} {before after : ClientState} {index : Nat} {task : FrameTask}

/-- A step that only takes the frame further. -/
theorem of_quiet {old : Handling} (new : Handling) (stage : task.stage = old)
    (carries : ∀ frame, old.frame = some frame → new.frame = some frame)
    (nearer : Nat.blt new.rank old.rank = true) (waiting : old.mayNotify = true)
    (mayCall : new.mayCall = true → old.mayCall = true) (silent : old.notifies = false)
    (uncalled : old.calls = false) (quiet : Quiet (before.advance index task new) after) :
    FrameStep setting before after index task where
  tasks := by
    obtain ⟨added, isAdded⟩ := quiet.tasks
    exact ⟨new, added, stage ▸ .of_silent carries nearer waiting mayCall silent uncalled, isAdded⟩
  messages := by
    rw [quiet.messages, stage, silent]
    exact (List.append_nil _).symm
  calls := by
    rw [quiet.calls, stage, uncalled, Bool.and_false]
    exact (List.append_nil _).symm

/-- The event handler is not called for a frame that goes on so. -/
def goesOnTo (old new : Handling) : Bool :=
  Nat.blt new.rank old.rank && old.mayNotify && !new.mayCall && !old.notifies && !old.calls

/-- A step that takes a frame further that is not for the event handler, apart from system
commands. -/
theorem of_command {old : Handling} (new : Handling) (stage : task.stage = old)
    (carries : ∀ frame, old.frame = some frame → new.frame = some frame)
    (goesOn : goesOnTo old new = true) (quiet : Quiet (before.advance index task new) after) :
    FrameStep setting before after index task := by
  simp only [goesOnTo, Bool.and_eq_true, Bool.not_eq_true'] at goesOn
  obtain ⟨⟨⟨⟨nearer, waiting⟩, uncallable⟩, silent⟩, uncalled⟩ := goesOn
  refine .of_quiet new stage carries nearer waiting ?_ silent uncalled quiet
  intro callable
  rw [uncallable] at callable
  cases callable

end FrameStep

namespace ClientState

variable [RustText] (setting : ClientSetting) (state : ClientState)

omit [RustText] in
theorem matchResponse_frameStep (index : Nat) (task : FrameTask) (frame : Frame)
    (stage : task.stage = .matching frame) :
    FrameStep setting state (state.matchResponse index task frame) index task := by
  unfold matchResponse
  split
  · exact .of_quiet (.dispatching frame) stage (fun _ => id) rfl rfl id rfl rfl (.refl _)
  · simp only
    split
    · exact .of_command (.responding frame) stage (fun _ => id) rfl (.of_eq rfl rfl rfl)
    · exact .of_quiet (.dispatching frame) stage (fun _ => id) rfl rfl id rfl rfl
        (.of_eq rfl rfl rfl)

omit [RustText] in
theorem dispatch_frameStep (index : Nat) (task : FrameTask) (frame : Frame)
    (stage : task.stage = .dispatching frame) :
    FrameStep setting state (state.dispatch setting index task frame) index task := by
  unfold dispatch
  split
  · exact .of_quiet (.delivering frame false) stage (fun _ => id) rfl rfl id rfl rfl (.refl _)
  next command _ =>
    split
    · exact .of_command (.acknowledging frame) stage (fun _ => id) rfl
        (callsHandler_systemCommand_quiet setting _ _ _ _)
    · exact .of_command (.delivering frame true) stage (fun _ => id) rfl
        (callsHandler_systemCommand_quiet setting _ _ _ _)
    · exact .of_command (.kicked frame command) stage (fun _ => id) rfl
        (callsHandler_systemCommand_quiet setting _ _ _ _)
    · exact .of_command (.closing frame command) stage (fun _ => id) rfl
        (callsHandler_systemCommand_quiet setting _ _ _ _)
    · split
      · exact .of_quiet (.delivering frame false) stage (fun _ => id) rfl rfl id rfl rfl (.refl _)
      · exact .of_command (.delivering frame true) stage (fun _ => id) rfl
          (.of_eq rfl rfl rfl)
    all_goals
      exact .of_quiet (.delivering frame false) stage (fun _ => id) rfl rfl id rfl rfl (.refl _)

omit [RustText] in
/-- The observers are told of a frame. -/
theorem notify_frameStep (index : Nat) (task : FrameTask) (new : Handling)
    (leads : task.stage.Leads new) (notifies : task.stage.notifies = true)
    (uncalled : task.stage.calls = false) :
    FrameStep setting state
      ((state.advance index task new).notify (task.origin index) (.message task.data)) index
        task where
  tasks := ⟨new, [], leads, by simp⟩
  messages := by
    rw [notifies]
    simp [messageLog, Notice.entry, FrameTask.origin]
  calls := by
    rw [uncalled, Bool.and_false]
    exact (List.append_nil _).symm

omit [RustText] in
/-- The event handler is called with a frame that is for it. -/
theorem handleBusiness_frameStep (index : Nat) (task : FrameTask) (frame : Frame)
    (stage : task.stage = .handlingBusiness frame) :
    FrameStep setting state (state.handleBusiness setting index task frame) index task := by
  have leads : task.stage.Leads (.finished frame) := by
    rw [stage]
    exact ⟨fun _ => id, Nat.one_pos, Bool.noConfusion, Bool.noConfusion, Bool.noConfusion,
      fun _ => rfl⟩
  have silent : task.stage.notifies = false := by rw [stage]; rfl
  have calls : task.stage.calls = (businessCall frame).isSome := by rw [stage]; rfl
  unfold handleBusiness
  cases call : businessCall frame with
  | none =>
      refine ⟨⟨.finished frame, [], leads, (List.append_nil _).symm⟩, ?_, ?_⟩
      · rw [silent]
        exact (List.append_nil _).symm
      · rw [calls, call, Option.isSome_none, Bool.and_false]
        exact (List.append_nil _).symm
  | some call' =>
      rw [call] at calls
      simp only [Option.elim_some, callsHandler]
      cases handler : setting.hasHandler with
      | false =>
          refine ⟨⟨.finished frame, [], leads, (List.append_nil _).symm⟩, ?_, ?_⟩
          · rw [silent]
            exact (List.append_nil _).symm
          · rw [handler, Bool.false_and]
            exact (List.append_nil _).symm
      | true =>
          refine ⟨⟨.finished frame, [], leads, (List.append_nil _).symm⟩, ?_, ?_⟩
          · rw [silent]
            exact (List.append_nil _).symm
          · rw [handler, calls]
            have entry : Callback.entry ⟨some (task.origin index), call'⟩ =
                some (task.line, index) := by
              unfold businessCall at call
              split at call
              · obtain ⟨kind, -, rfl⟩ := Option.map_eq_some_iff.mp call
                rfl
              · split at call
                · obtain rfl := Option.some.inj call
                  rfl
                · cases call
              all_goals cases call
            simp [callLog, entry]

theorem parse_nearer (task : FrameTask) :
    Nat.blt (state.parse setting task).rank Handling.received.rank = true := by
  unfold parse parseMessage
  split
  · split <;> rfl
  · split
    · rfl
    · split <;> rfl

theorem handleFrame_frameStep (index : Nat) (task : FrameTask) (answer : Answer)
    (inFlight : task.stage.inFlight = true) :
    FrameStep setting state (state.handleFrame setting index task answer task.stage) index task := by
  cases stage : task.stage with
  | received =>
      refine .of_quiet (state.parse setting task) stage ?_ ?_ rfl (fun _ => rfl) rfl rfl (.refl _)
      · intro frame found
        cases found
      · exact state.parse_nearer setting task
  | reparsing =>
      refine .of_quiet (state.parseMessage setting task.data) stage ?_ ?_ rfl (fun _ => rfl) rfl rfl
        (.refl _)
      · intro frame found
        cases found
      · unfold parseMessage
        split <;> rfl
  | matching frame => exact state.matchResponse_frameStep setting index task frame stage
  | responding frame =>
      refine state.notify_frameStep setting index task (.finished frame) ?_ ?_ ?_
      · rw [stage]
        exact ⟨fun _ => id, Nat.one_pos, Bool.noConfusion, Bool.noConfusion, fun _ => rfl,
          Bool.noConfusion⟩
      · rw [stage]
        rfl
      · rw [stage]
        rfl
  | dispatching frame => exact state.dispatch_frameStep setting index task frame stage
  | acknowledging frame =>
      simp only [handleFrame, acknowledge]
      split
      · split
        · exact .of_command (.readying frame) stage (fun _ => id) rfl (.of_eq rfl rfl rfl)
        · exact .of_command (.readying frame) stage (fun _ => id) rfl
            ((tryStartHeartbeat_quiet setting _).after (.of_eq rfl rfl rfl))
      · exact .of_command (.negotiationFailed frame _) stage (fun _ => id) rfl
          (.of_eq rfl rfl rfl)
  | negotiationFailed frame error =>
      exact .of_command (.delivering frame true) stage (fun _ => id) rfl
        ((handleTerminalEvent_quiet setting _ _).after (.of_eq rfl rfl rfl))
  | readying frame =>
      refine .of_command (.delivering frame true) stage (fun _ => id) rfl
        ((tryStartHeartbeat_quiet setting _).after ?_)
      simp only [sendNegotiationReady]
      split
      · split <;> exact .of_eq rfl rfl rfl
      · exact .of_eq rfl rfl rfl
  | kicked frame command =>
      simp only [handleFrame, kick]
      split
      · exact .of_command (.kickShutting frame _ _) stage (fun _ => id) rfl
          (.of_eq rfl rfl rfl)
      · exact .of_command (.kickReporting frame _) stage (fun _ => id) rfl
          (.of_eq rfl rfl rfl)
  | kickShutting frame reason line =>
      exact .of_command (.kickAnnouncing frame reason line) stage (fun _ => id) rfl
        (.of_eq rfl rfl rfl)
  | kickAnnouncing frame reason line =>
      exact .of_command (.kickReporting frame reason) stage (fun _ => id) rfl
        (announce_quiet setting _ _ _)
  | kickReporting frame reason =>
      simp only [handleFrame, reportKick]
      split
      · exact .of_command (.delivering frame true) stage (fun _ => id) rfl
          (.of_eq rfl rfl rfl)
      · exact .of_command (.delivering frame true) stage (fun _ => id) rfl
          ((notifyAll_quiet _ _).after (.of_eq rfl rfl rfl))
  | closing frame command =>
      simp only [handleFrame, handleClose]
      split
      · split
        · exact .of_command (.closeShutting frame _ _) stage (fun _ => id) rfl
            (.of_eq rfl rfl rfl)
        · exact .of_command (.delivering frame true) stage (fun _ => id) rfl
            (.of_eq rfl rfl rfl)
      · exact .of_command (.delivering frame true) stage (fun _ => id) rfl
          (.of_eq rfl rfl rfl)
  | closeShutting frame detail line =>
      exact .of_command (.closeAnnouncing frame detail line) stage (fun _ => id) rfl
        (.of_eq rfl rfl rfl)
  | closeAnnouncing frame detail line =>
      exact .of_command (.delivering frame true) stage (fun _ => id) rfl
        (announce_quiet setting _ _ _)
  | delivering frame system =>
      refine state.notify_frameStep setting index task _ ?_ ?_ ?_
      · rw [stage]
        cases system with
        | false =>
            exact ⟨fun _ => id, Nat.one_lt_two, Bool.noConfusion, id, fun _ => rfl,
              Bool.noConfusion⟩
        | true =>
            exact ⟨fun _ => id, Nat.one_pos, Bool.noConfusion, Bool.noConfusion, fun _ => rfl,
              Bool.noConfusion⟩
      · rw [stage]
        rfl
      · rw [stage]
        rfl
  | handlingBusiness frame => exact state.handleBusiness_frameStep setting index task frame stage
  | finished frame | dropped =>
      rw [stage] at inFlight
      exact Bool.noConfusion inFlight

/-- A frame that has been handled, or dropped, is left alone. -/
theorem handleFrame_of_idle {index : Nat} {task : FrameTask} {answer : Answer}
    (idle : task.stage.inFlight = false) :
    state.handleFrame setting index task answer task.stage = state := by
  cases stage : task.stage with
  | finished frame | dropped => rfl
  | _ =>
      rw [stage] at idle
      cases idle

/-- The other tasks deliver nothing and become nothing that does. -/
theorem work_quiet (index : Nat) (answer : Answer) {task : Task} (other : task.source = none) :
    Quiet state (state.work setting index answer task) ∨
      ∃ new, new.source = none ∧
        Quiet (state.put index new) (state.work setting index answer task) := by
  cases task with
  | frame task => cases other
  | deferred event =>
      exact .inr ⟨.done, rfl, (state.put index .done).handleTerminalEvent_quiet setting event⟩
  | clearing => exact .inr ⟨.done, rfl, .of_eq rfl rfl rfl⟩
  | informing event =>
      refine .inr ⟨.done, rfl, ⟨[], by simp [work]⟩, rfl, ?_⟩
      simp [work, callLog, Callback.entry]
  | heartbeat line beat =>
      cases beat with
      | beating =>
          simp only [work, ClientState.beat]
          split
          · split
            · exact .inl (.refl state)
            · exact .inr ⟨.done, rfl, .refl _⟩
          · exact .inr ⟨.heartbeat line (.shutting _), rfl, .refl _⟩
      | shutting reason => exact .inr ⟨.heartbeat line (.announcing reason), rfl, .of_eq rfl rfl rfl⟩
      | announcing reason =>
          exact .inr ⟨.done, rfl, (state.put index .done).announce_quiet setting line _⟩
  | done => exact .inl (.refl state)

end ClientState

/-! ## Runs -/

/-- Both logs are in order. -/
structure ClientState.InOrder (state : ClientState) : Prop where
  messages : OrderedLog Task.source Task.mayNotify state.tasks state.messageLog
  calls : OrderedLog Task.source Task.mayCall state.tasks state.callLog

namespace ClientState.InOrder

variable {setting : ClientSetting} {state after : ClientState}

theorem of_quiet (inOrder : state.InOrder) (quiet : Quiet state after) : after.InOrder := by
  obtain ⟨new, added⟩ := quiet.tasks
  constructor
  · rw [added, quiet.messages]
    exact inOrder.messages.evolve (.append state.tasks new)
  · rw [added, quiet.calls]
    exact inOrder.calls.evolve (.append state.tasks new)

/-- What becomes of a task that handles no frame does not matter. -/
theorem of_put {index : Nat} {old new : Task} (inOrder : state.InOrder)
    (isOld : state.tasks[index]? = some old) (oldOther : old.source = none)
    (newOther : new.source = none) : (state.put index new).InOrder := by
  have idle : new.mayNotify = false ∧ new.mayCall = false := by
    cases new with
    | frame task => cases newOther
    | deferred event | clearing | informing event | heartbeat line beat | done => exact ⟨rfl, rfl⟩
  have same : new.source = old.source := newOther.trans oldOther.symm
  constructor
  · refine inOrder.messages.evolve (.set isOld same ?_)
    rw [idle.1]
    exact Bool.noConfusion
  · refine inOrder.calls.evolve (.set isOld same ?_)
    rw [idle.2]
    exact Bool.noConfusion

theorem first_of_isFirst {may : Task → Bool} {line index : Nat}
    (isFirst : state.isFirst may line index = true) :
    ∀ earlier < index, ∀ task, state.tasks[earlier]? = some task → task.source = some line →
      may task = false := by
  intro earlier before task found grouped
  have taken : task ∈ state.tasks.take index := by
    rw [List.mem_iff_getElem?]
    exact ⟨earlier, by rw [List.getElem?_take_of_lt before]; exact found⟩
  have checked := List.all_eq_true.mp isFirst task taken
  simpa [grouped] using checked

/-- A frame that is delivered in its turn. -/
theorem of_frameStep {index : Nat} {task : FrameTask} (inOrder : state.InOrder)
    (isTask : state.tasks[index]? = some (.frame task))
    (turn : state.inTurn setting index (.frame task) = true)
    (step : FrameStep setting state after index task) : after.InOrder := by
  obtain ⟨stage, new, leads, isAfter⟩ := step.tasks
  have bound := (List.getElem?_eq_some_iff.mp isTask).1
  have isNew : after.tasks[index]? = some (.frame { task with stage := stage }) := by
    rw [isAfter, List.getElem?_append_left (by simpa using bound), List.getElem?_set_self bound]
  have messagesEvolve : Evolves Task.source Task.mayNotify state.tasks after.tasks := by
    rw [isAfter]
    refine Evolves.trans ?_ (.append _ new)
    exact .set isTask rfl leads.mayNotify
  have callsEvolve : Evolves Task.source Task.mayCall state.tasks after.tasks := by
    rw [isAfter]
    refine Evolves.trans ?_ (.append _ new)
    exact .set isTask rfl leads.mayCall
  simp only [inTurn, Bool.and_eq_true, Bool.or_eq_true, Bool.not_eq_true'] at turn
  constructor
  · rw [step.messages]
    cases notifies : task.stage.notifies with
    | false =>
        rw [if_neg Bool.false_ne_true, List.append_nil]
        exact inOrder.messages.evolve messagesEvolve
    | true =>
        have waiting : task.stage.mayNotify = true := by
          cases stage : task.stage <;> rw [stage] at notifies <;> first | rfl | cases notifies
        refine inOrder.messages.write messagesEvolve isTask rfl waiting isNew
          (leads.notified notifies) (first_of_isFirst ?_)
        exact turn.1.resolve_left (by rw [notifies]; exact Bool.noConfusion)
  · rw [step.calls]
    cases calls : setting.hasHandler && task.stage.calls with
    | false =>
        rw [if_neg Bool.false_ne_true, List.append_nil]
        exact inOrder.calls.evolve callsEvolve
    | true =>
        obtain ⟨-, calling⟩ := Bool.and_eq_true_iff.mp calls
        have waiting : task.stage.mayCall = true := by
          cases stage : task.stage with
          | handlingBusiness frame =>
              rw [stage] at calling
              exact calling
          | _ =>
              rw [stage] at calling
              cases calling
        refine inOrder.calls.write callsEvolve isTask rfl waiting isNew
          (leads.called calling) (first_of_isFirst ?_)
        exact turn.2.resolve_left (by rw [calls]; exact Bool.noConfusion)

variable [RustText]

theorem work {index : Nat} {answer : Answer} {task : Task} (inOrder : state.InOrder)
    (isTask : state.tasks[index]? = some task) (turn : state.inTurn setting index task = true) :
    (state.work setting index answer task).InOrder := by
  cases source : task.source with
  | none =>
      obtain quiet | ⟨new, newOther, quiet⟩ := state.work_quiet setting index answer source
      · exact inOrder.of_quiet quiet
      · exact (inOrder.of_put isTask source newOther).of_quiet quiet
  | some line =>
      cases task with
      | frame task =>
          cases inFlight : task.stage.inFlight with
          | true =>
              exact inOrder.of_frameStep isTask turn
                (state.handleFrame_frameStep setting index task answer inFlight)
          | false =>
              rw [ClientState.work, handleFrame_of_idle setting state inFlight]
              exact inOrder
      | deferred event | clearing | informing event | heartbeat line beat | done => cases source

theorem step {next : ClientState} {move : Move} (inOrder : state.InOrder)
    (turn : InTurn setting state move) (stepped : state.step setting move = some next) :
    next.InOrder := by
  obtain ⟨after, performed, rfl⟩ := Option.map_eq_some_iff.mp stepped
  suffices after.InOrder by exact ⟨this.messages, this.calls⟩
  cases move with
  | work index answer =>
      obtain ⟨task, found, rfl⟩ := Option.map_eq_some_iff.mp performed
      have isTask := (Option.filter_eq_some_iff.mp found).1
      refine inOrder.work isTask ?_
      simpa [InTurn, isTask] using turn
  | call call | submit frame waits | send index answer | operate answer | read line event
  | handOver line =>
      exact inOrder.of_quiet (perform_quiet setting performed (fun _ _ => Move.noConfusion))

end ClientState.InOrder

section Runs

variable [RustText]

/-- **The observers, and the event handler, hear of the frames of a line in the order in which
they were read**, in every run in which no task delivers its frame while the task of an earlier
frame of the line may still deliver. -/
theorem frames_delivered_in_order_of_reading (setting : ClientSetting) {start state : ClientState}
    (initial : start.IsInitial setting.config)
    (reached : (clientSystem setting).Reaches (InTurn setting) start state) (line : Nat) :
    (state.delivered line).Pairwise (· < ·) ∧ (state.handled line).Pairwise (· < ·) := by
  have inOrder : state.InOrder := by
    refine reached.invariant ?_ ?_
    · obtain rfl | rfl := initial <;> exact ⟨.nil _, .nil _⟩
    · rintro before after ⟨move, turn, stepped⟩ inOrder
      exact inOrder.step turn stepped
  exact ⟨inOrder.messages.increasing line, inOrder.calls.increasing line⟩

end Runs

/-! ## Concrete runs -/

section Examples

open scoped AsciiText

/-- A message with a given id. -/
def note (id : String) : Frame :=
  .withPayloadCommand ⟨id, 0⟩ ⟨PayloadType.message.toInt32, id, [], ∅, 0⟩ .atLeastOnce

/-- The client of the runs below, which may meet two messages. -/
def reading : ClientSetting :=
  .builtin .webSocket [plainAck, note "a", note "b"]

/-- The client is negotiated and has read both messages. -/
def readsBoth : List Move :=
  connectsAndNegotiates ++ arrives 0 (note "a") ++ arrives 0 (note "b")

/-- The first message is handled first: the theorem applies. -/
theorem frames_delivered_in_order_of_reading_one_by_one :
    ∃ state, (clientSystem reading).Reaches (InTurn reading) (.new reading.config) state ∧
      state.delivered 0 = [2, 4, 5] ∧
      (state.delivered 0).Pairwise (· < ·) ∧ (state.handled 0).Pairwise (· < ·) := by
  have run : ((clientSystem reading).run (.new reading.config)
      (readsBoth ++ works 4 5 ++ works 5 5)).any
        (fun state => decide (state.delivered 0 = [2, 4, 5])) = true := by
    decide +kernel
  have permitted : (clientSystem reading).Permits (InTurn reading) (.new reading.config)
      (readsBoth ++ works 4 5 ++ works 5 5) := by
    decide +kernel
  obtain ⟨state, reached, holds⟩ := System.exists_reaches_of_run run permitted
  exact ⟨state, reached, of_decide_eq_true holds,
    frames_delivered_in_order_of_reading reading (.inl rfl) reached 0⟩

/-- **The second message overtakes the first**, on a connection that is negotiated. -/
theorem later_frame_delivered_first :
    ∃ state, (clientSystem reading).Reaches System.always (.new reading.config) state ∧
      state.delivered 0 = [2, 5, 4] ∧ state.handled 0 = [5, 4] ∧
      ¬((state.delivered 0).Pairwise (· < ·) ∧ (state.handled 0).Pairwise (· < ·)) := by
  have run : ((clientSystem reading).run (.new reading.config)
      (readsBoth ++ works 5 5 ++ works 4 5)).any
        (fun state => decide (state.delivered 0 = [2, 5, 4] ∧ state.handled 0 = [5, 4])) =
          true := by
    decide +kernel
  obtain ⟨state, reached, holds⟩ :=
    System.exists_reaches_of_run run (System.permits_always _ _)
  obtain ⟨delivered, handled⟩ := of_decide_eq_true holds
  refine ⟨state, reached, delivered, handled, ?_⟩
  rintro ⟨ordered, -⟩
  rw [delivered] at ordered
  revert ordered
  decide

end Examples

end FlareCore.Client

import FlareCore.Client.Outcome

/-!
# The acknowledgement in force

The task of a CONNECT_ACK installs the parser of the profile that the acknowledgement announces,
and marks the negotiation as completed.  The parser stays until another acknowledgement is handled.
The mark is taken back when the end of a connection is handled, and when `Connected` makes the
client start over.

`Acknowledgement` says which frame was handled last and whether it still stands, by looking at the
steps alone: which task moved, and what it left behind.  In every run the parser of the core is the
one that this frame stands for, and while it stands, the negotiation is completed.
-/

namespace FlareCore.Client

open FlareCore.Common FlareCore.Server FlareCore.Foundations

set_option autoImplicit false

/-! ## The parser -/

namespace ClientCore

variable (core : ClientCore)

theorem parser_lose (state : ConnectionState) (detail : String) :
    (core.lose state detail).1.parser = core.parser := by
  simp only [lose, closeReport]
  split <;> cases core.pendingKick <;> rfl

theorem parser_handleTerminalEvent (event : ConnectionEvent) :
    (core.handleTerminalEvent event).1.parser = core.parser := by
  cases event with
  | connected | message data => rfl
  | disconnected reason => simp [handleTerminalEvent, parser_lose]
  | error error => simp [handleTerminalEvent, parser_lose]

end ClientCore

/-- Of the tasks, only that of an acknowledgement changes the parser. -/
theorem TaskEffect.parser_cases [RustText] {setting : ClientSetting} {core after : ClientCore}
    {doer : Option Task} (effect : TaskEffect setting core after doer) :
    after.parser = core.parser ∨ ∃ task frame profile, doer = some (.frame task) ∧
      task.stage = .acknowledging frame ∧ handleConnectAck frame = .ok profile ∧
        setting.config.isForceFormat = false ∧ after.parser = profile.parser := by
  cases effect with
  | keeps agrees | rejects command agrees | fails error agrees => exact .inl agrees.parser
  | loses event agrees => exact .inl (agrees.parser.trans (core.parser_handleTerminalEvent event))
  | reports agrees =>
      refine .inl (agrees.parser.trans ?_)
      simp only [ClientCore.takeUnreportedKick]
      split <;> rfl
  | kicks stage agrees =>
      refine .inl (agrees.parser.trans ?_)
      simp only [ClientCore.recordKick]
      split <;> rfl
  | @acknowledges task frame profile stage read agrees =>
      have parser := agrees.parser
      simp only [ClientCore.completeNegotiation] at parser
      cases forced : setting.config.isForceFormat with
      | true => exact .inl (by rw [parser, if_pos forced])
      | false =>
          refine .inr ⟨task, frame, profile, rfl, stage, read, rfl, ?_⟩
          rw [parser, if_neg (by rw [forced]; exact Bool.noConfusion)]

namespace ClientState

variable (setting : ClientSetting) (state : ClientState)

theorem parser_handleConnected (alreadyConnected : Bool) :
    (state.handleConnected setting alreadyConnected).core.parser = state.core.parser := by
  rw [handleConnected_core, ClientCore.handleConnected]
  split <;> rfl

theorem parser_of_callEffect {stage : Stage} {before after : ClientState}
    (effect : CallEffect setting stage before after) :
    after.core.parser = before.core.parser := by
  induction effect with
  | keeps same => exact same.parser
  | spawns before task => rfl
  | ends before event => exact before.core.parser_handleTerminalEvent event
  | connects before reached => exact before.parser_handleConnected setting _
  | followed left right before after => exact after.trans before

theorem parser_start (call : Call) :
    (state.start setting call).core.parser = state.core.parser :=
  (state.start_sameRecords setting call).parser

variable [RustText]

/-- No call changes the parser. -/
theorem parser_operate {state after : ClientState} {operation : Operation} {answer : Answer}
    (operated : state.operate setting operation answer = some after) :
    after.core.parser = state.core.parser :=
  parser_of_callEffect setting (operate_callEffect setting operated)

theorem acknowledge_agrees {index : Nat} {task : FrameTask} {frame : Frame} {profile : Profile}
    (read : handleConnectAck frame = .ok profile) :
    (state.core.completeNegotiation setting.config profile).Agrees
      (state.acknowledge setting index task frame).core := by
  simp only [acknowledge, read]
  split
  · exact .refl _
  · exact tryStartHeartbeat_agrees setting
      ((state.withCore (state.core.completeNegotiation setting.config profile)).advance index task
        (.readying frame))

/-- **Only the task of an acknowledgement changes the parser.** -/
theorem parser_of_step {state next : ClientState} {move : Move}
    (stepped : state.step setting move = some next) :
    next.core.parser = state.core.parser ∨ ∃ index answer task frame profile,
      move = .work index answer ∧ state.tasks[index]? = some (.frame task) ∧
        task.stage = .acknowledging frame ∧ handleConnectAck frame = .ok profile ∧
          setting.config.isForceFormat = false ∧ next.core.parser = profile.parser := by
  obtain ⟨after, performed, rfl⟩ := Option.map_eq_some_iff.mp stepped
  rw [settle_core]
  cases move with
  | call call =>
      obtain ⟨-, started⟩ := Option.ite_none_right_eq_some.mp performed
      obtain rfl := Option.some.inj started
      exact .inl (state.parser_start setting call)
  | submit frame waits =>
      obtain rfl := Option.some.inj performed
      exact .inl rfl
  | send index answer =>
      obtain ⟨sender, -, sent⟩ := Option.bind_eq_some_iff.mp performed
      obtain only | ⟨-, stage, call, -, rfl⟩ := sendStep_eq_some sent
      · exact .inl only.agrees.parser
      · exact .inl (parser_start setting (state.sender index stage) call)
  | operate answer =>
      obtain ⟨operation, -, operated⟩ := Option.bind_eq_some_iff.mp performed
      exact .inl (parser_operate setting operated)
  | read line event =>
      simp only [perform, read, Option.ite_none_right_eq_some] at performed
      obtain ⟨-, taken⟩ := performed
      obtain rfl := Option.some.inj taken
      exact .inl rfl
  | handOver line =>
      obtain ⟨event, -, rfl⟩ := Option.map_eq_some_iff.mp performed
      have effect := deliver_effect setting (state.clearReading line) line event
      obtain same | ⟨task, -, -, isTask, -⟩ := effect.parser_cases
      · exact .inl same
      · cases isTask
  | work index answer =>
      obtain ⟨task, isTask, rfl⟩ := Option.map_eq_some_iff.mp performed
      obtain ⟨isTask, -⟩ := Option.filter_eq_some_iff.mp isTask
      have effect := state.work_effect setting index answer task
      obtain same | ⟨handled, frame, profile, isHandled, stage, read, unforced, parser⟩ :=
        effect.parser_cases
      · exact .inl same
      · obtain rfl := Option.some.inj isHandled
        exact .inr ⟨index, answer, handled, frame, profile, rfl, isTask, stage, read, unforced,
          parser⟩

end ClientState

/-! ## The end of a connection -/

/-- The last look at the state did not find the client connected, so that it starts over. -/
def Stage.startsOver : Stage → Bool
  | connecting _ alreadyConnected | announcing _ alreadyConnected => !alreadyConnected
  | pausing | retiring _ | retired _ | establishing | replacing _ | replaced _ | dialing
  | settingUp _ | attaching _ | watching _ | greeting _ | confirming _ | registering | sending
  | waiting _ | disconnecting _ | disconnected _ | leaving => false

namespace ClientState

/-- The step has handled the end of a connection: it leaves the clearing of the requests in flight
to a task, which nothing else does. -/
def ended (state next : ClientState) : Bool :=
  (next.tasks.drop state.tasks.length).any fun task => task = .clearing

end ClientState

/-- The negotiation stays completed, or the end of a connection is handled; other tasks are only
added. -/
structure Stands (before after : ClientState) : Prop where
  tasks : ∃ new, after.tasks = before.tasks ++ new ∧
    (before.core.negotiationCompleted = true →
      after.core.negotiationCompleted = true ∨ Task.clearing ∈ new)

namespace Stands

variable {first second third : ClientState}

theorem of_append {new : List Task} (tasks : second.tasks = first.tasks ++ new)
    (same : second.core.negotiationCompleted = first.core.negotiationCompleted) :
    Stands first second :=
  ⟨new, tasks, fun completed => .inl (same.trans completed)⟩

theorem of_eq (tasks : second.tasks = first.tasks)
    (same : second.core.negotiationCompleted = first.core.negotiationCompleted) :
    Stands first second :=
  of_append (tasks.trans (List.append_nil _).symm) same

theorem refl (state : ClientState) : Stands state state :=
  of_eq rfl rfl

theorem after (right : Stands second third) (left : Stands first second) : Stands first third := by
  obtain ⟨new, added, kept⟩ := left
  obtain ⟨more, addedLater, keptLater⟩ := right
  refine ⟨new ++ more, by rw [addedLater, added, List.append_assoc], fun completed => ?_⟩
  obtain still | ended := kept completed
  · exact (keptLater still).imp_right fun ended => List.mem_append_right _ ended
  · exact .inr (List.mem_append_left _ ended)

/-- What a step leaves behind shows whether it has handled the end of a connection. -/
theorem completed {changed : ClientState} (stands : Stands changed second)
    (length : changed.tasks.length = first.tasks.length)
    (completed : changed.core.negotiationCompleted = true)
    (going : first.ended second = false) : second.core.negotiationCompleted = true := by
  obtain ⟨new, added, kept⟩ := stands
  refine (kept completed).resolve_right fun ended => ?_
  have shown : first.ended second = true := by
    rw [ClientState.ended, added, ← length, List.drop_left, List.any_eq_true]
    exact ⟨.clearing, ended, decide_eq_true rfl⟩
  rw [going] at shown
  cases shown

end Stands

namespace ClientState

variable (setting : ClientSetting) (state : ClientState)

theorem inform_stands (event : ConnectionEvent) : Stands state (state.inform setting event) := by
  unfold inform
  split
  · exact .of_append rfl rfl
  · exact .refl state

theorem handleTerminalEvent_stands (event : ConnectionEvent) :
    Stands state (state.handleTerminalEvent setting event) := by
  obtain ⟨new, added, -⟩ := state.inform_stands setting event
  refine ⟨new ++ [.clearing], ?_, fun _ => .inr ?_⟩
  swap
  · exact List.mem_append_right new (List.mem_singleton_self _)
  rw [← List.append_assoc, ← added]
  rfl

theorem handleConnected_stands :
    Stands state (state.handleConnected setting true) := by
  obtain ⟨new, added, -⟩ := state.inform_stands setting .connected
  exact .of_append added rfl

theorem onTerminalEvent_stands (event : ConnectionEvent) :
    Stands state (state.onTerminalEvent setting event) := by
  unfold onTerminalEvent
  split
  · exact .of_append rfl rfl
  · exact state.handleTerminalEvent_stands setting event

theorem announce_stands (line : Nat) (event : ConnectionEvent) :
    Stands state (state.announce setting line event) := by
  unfold announce
  split
  · exact (onTerminalEvent_stands setting _ event).after (.of_eq rfl rfl)
  · exact .refl state

theorem stands_of_sameRecords {before after : ClientState} (same : SameRecords before after) :
    Stands before after :=
  .of_eq same.tasks same.negotiationCompleted

/-- A step of a call, unless the client starts over. -/
theorem stands_of_callEffect {stage : Stage} {before after : ClientState}
    (kept : stage.startsOver = false) (effect : CallEffect setting stage before after) :
    Stands before after := by
  induction effect with
  | keeps same => exact stands_of_sameRecords same
  | spawns before task => exact .of_append rfl rfl
  | ends before event => exact before.handleTerminalEvent_stands setting event
  | @connects before line already reached =>
      have connected : already = true := by
        obtain rfl | rfl := reached <;> simpa [Stage.startsOver] using kept
      exact connected ▸ before.handleConnected_stands setting
  | followed left right before after => exact after.after before

variable [RustText]

theorem deliver_stands (line : Nat) (event : ConnectionEvent) :
    Stands state (state.deliver setting line event) := by
  cases event with
  | message data =>
      refine .of_append rfl ?_
      simp only [deliver, receive, spawn_core, withCore_core]
      split
      · rfl
      · cases setting.rejection data <;> rfl
  | connected => exact .refl state
  | disconnected reason => exact state.announce_stands setting line (.disconnected reason)
  | error error => exact state.announce_stands setting line (.error error)

/-- The handling of a frame that is no acknowledgement leaves the negotiation completed, unless it
comes to the end of a connection. -/
theorem handleFrame_completed {index : Nat} {task : FrameTask} {answer : Answer}
    {stage : Handling} (unread : ∀ frame profile, stage = .acknowledging frame →
      handleConnectAck frame ≠ .ok profile)
    (completed : state.core.negotiationCompleted = true)
    (going : state.ended (state.handleFrame setting index task answer stage) = false) :
    (state.handleFrame setting index task answer stage).core.negotiationCompleted = true := by
  have advanced : ∀ next, (state.advance index task next).tasks.length = state.tasks.length :=
    fun _ => List.length_set
  cases stage with
  | matching frame =>
      simp only [handleFrame, matchResponse]
      split
      · exact completed
      · split <;> exact completed
  | dispatching frame =>
      simp only [handleFrame, dispatch]
      split
      · exact completed
      · split
        all_goals try simp only [callsHandler_core]
        all_goals try exact completed
        split <;> exact completed
  | acknowledging frame =>
      simp only [handleFrame, acknowledge]
      split
      next profile read => exact absurd read (unread frame profile rfl)
      next => exact completed
  | negotiationFailed frame error =>
      exact (handleTerminalEvent_stands setting _ _).completed
        (advanced (.delivering frame true)) completed going
  | readying frame =>
      have sent : ((state.advance index task (.delivering frame true)).sendNegotiationReady setting
          answer).core = state.core := by
        simp only [sendNegotiationReady]
        split
        · split <;> rfl
        · rfl
      have agrees := tryStartHeartbeat_agrees setting
        ((state.advance index task (.delivering frame true)).sendNegotiationReady setting answer)
      rw [handleFrame, agrees.negotiationCompleted, sent]
      exact completed
  | kicked frame command =>
      rw [handleFrame, (state.kick_agrees index task frame command).negotiationCompleted,
        ClientCore.recordKick]
      split <;> exact completed
  | kickAnnouncing frame reason line =>
      exact (announce_stands setting _ _ _).completed (advanced (.kickReporting frame reason))
        completed going
  | kickReporting frame reason =>
      simp only [handleFrame, reportKick]
      split
      · exact completed
      · simp only [ClientCore.takeUnreportedKick]
        split <;> exact completed
  | closing frame command =>
      simp only [handleFrame, handleClose]
      split
      · split <;> exact completed
      · exact completed
  | closeAnnouncing frame detail line =>
      exact (announce_stands setting _ _ _).completed (advanced (.delivering frame true))
        completed going
  | handlingBusiness frame =>
      simp only [handleFrame, handleBusiness]
      cases businessCall frame with
      | none => exact completed
      | some call => simpa using completed
  | received | reparsing | responding frame | kickShutting frame reason line
  | closeShutting frame detail line | delivering frame system | finished frame | dropped =>
      exact completed

theorem work_completed {index : Nat} {answer : Answer} {task : Task}
    (unread : task.acknowledges = false) (completed : state.core.negotiationCompleted = true)
    (going : state.ended (state.work setting index answer task) = false) :
    (state.work setting index answer task).core.negotiationCompleted = true := by
  have done : ∀ task, (state.put index task).tasks.length = state.tasks.length :=
    fun _ => List.length_set
  cases task with
  | frame task =>
      refine state.handleFrame_completed setting ?_ completed going
      obtain ⟨line, data, negotiated, stage⟩ := task
      rintro frame profile rfl read
      simp [Task.acknowledges, read, Except.toOption] at unread
  | deferred event =>
      exact (handleTerminalEvent_stands setting _ event).completed (done .done) completed going
  | heartbeat line beat =>
      cases beat with
      | beating =>
          simp only [work, ClientState.beat]
          split
          · split <;> exact completed
          · exact completed
      | shutting reason => exact completed
      | announcing reason =>
          exact (announce_stands setting _ _ _).completed (done .done) completed going
  | clearing | informing event | done => exact completed

/-- **The negotiation stays completed** in every step but those that handle the end of a connection
or make the client start over. -/
theorem step_completed {state next : ClientState} {move : Move}
    (stepped : state.step setting move = some next)
    (completed : state.core.negotiationCompleted = true)
    (going : state.ended next = false)
    (goesOn : (state.stageOf move).any Stage.startsOver = false) :
    next.core.negotiationCompleted = true := by
  obtain ⟨after, performed, rfl⟩ := Option.map_eq_some_iff.mp stepped
  rw [settle_core]
  have stays : Stands state after → after.core.negotiationCompleted = true :=
    fun stands => stands.completed rfl completed going
  cases move with
  | call call =>
      obtain ⟨-, started⟩ := Option.ite_none_right_eq_some.mp performed
      obtain rfl := Option.some.inj started
      exact stays (stands_of_sameRecords (state.start_sameRecords setting call))
  | submit frame waits =>
      obtain rfl := Option.some.inj performed
      exact completed
  | send index answer =>
      obtain ⟨sender, -, sent⟩ := Option.bind_eq_some_iff.mp performed
      obtain only | ⟨-, stage, call, -, rfl⟩ := sendStep_eq_some sent
      · exact only.agrees.negotiationCompleted.trans completed
      · exact stays ((stands_of_sameRecords (start_sameRecords setting _ call)).after
          (.of_eq rfl rfl))
  | operate answer =>
      obtain ⟨operation, current, operated⟩ := Option.bind_eq_some_iff.mp performed
      refine stays (stands_of_callEffect setting ?_ (operate_callEffect setting operated))
      simpa [stageOf, current] using goesOn
  | read line event =>
      simp only [perform, read, Option.ite_none_right_eq_some] at performed
      obtain ⟨-, taken⟩ := performed
      obtain rfl := Option.some.inj taken
      exact completed
  | handOver line =>
      obtain ⟨event, -, rfl⟩ := Option.map_eq_some_iff.mp performed
      exact stays ((deliver_stands setting _ line event).after (.of_eq rfl rfl))
  | work index answer =>
      obtain ⟨task, isTask, rfl⟩ := Option.map_eq_some_iff.mp performed
      cases acknowledges : task.acknowledges with
      | true => exact (Records.of_acknowledges acknowledges).acknowledged rfl
      | false => exact state.work_completed setting acknowledges completed going

end ClientState

/-! ## The history -/

/-- The acknowledgement that was handled last, with its task, and whether neither the end of a
connection was handled nor the client started over since. -/
structure Acknowledgement where
  handled : Option (Nat × Frame)
  standing : Bool

namespace ClientState

/-- The acknowledgement that a step handles, with its task. -/
def handledAck [RustText] (state : ClientState) : Move → Option (Nat × Frame)
  | .work index _ =>
      match state.tasks[index]? with
      | some (.frame ⟨_, _, _, .acknowledging frame⟩) =>
          (handleConnectAck frame).toOption.map fun _ => (index, frame)
      | _ => none
  | .call _ | .submit _ _ | .send _ _ | .operate _ | .read _ _ | .handOver _ => none

end ClientState

namespace Acknowledgement

variable [RustText] {setting : ClientSetting} {state next : ClientState} {move : Move}
  {acknowledgement : Acknowledgement}

def initial : Acknowledgement := ⟨none, false⟩

def record (state : ClientState) (move : Move) (next : ClientState)
    (acknowledgement : Acknowledgement) : Acknowledgement :=
  match state.handledAck move with
  | some handled => ⟨some handled, true⟩
  | none =>
      { acknowledgement with
        standing := acknowledgement.standing && !state.ended next &&
          !(state.stageOf move).any Stage.startsOver }

/-- The parser that the acknowledgement stands for. -/
def parser (setting : ClientSetting) (acknowledgement : Acknowledgement) : MessageParser :=
  acknowledgement.handled.elim setting.config.initialParser fun handled =>
    setting.config.parserAfterAck setting.config.initialParser handled.2

/-- The core goes by the acknowledgement. -/
structure InForce (setting : ClientSetting) (acknowledgement : Acknowledgement)
    (core : ClientCore) : Prop where
  parser : core.parser = acknowledgement.parser setting
  completed : acknowledgement.standing = true → core.negotiationCompleted = true

theorem handledAck_eq_some {index : Nat} {frame : Frame}
    (handled : state.handledAck move = some (index, frame)) :
    ∃ answer task profile, move = .work index answer ∧ state.tasks[index]? = some (.frame task) ∧
      task.stage = .acknowledging frame ∧ handleConnectAck frame = .ok profile := by
  cases move with
  | work other answer =>
      simp only [ClientState.handledAck] at handled
      split at handled
      next line data negotiated received isTask =>
        cases read : handleConnectAck received with
        | error error =>
            rw [read] at handled
            cases handled
        | ok profile =>
            rw [read] at handled
            obtain ⟨rfl, rfl⟩ := Prod.mk.inj (Option.some.inj handled)
            exact ⟨answer, _, profile, rfl, isTask, rfl, read⟩
      next => cases handled
  | call call | submit frame waits | send index answer | operate answer | read line event
  | handOver line => cases handled

theorem handledAck_of_stage {index : Nat} {answer : Answer} {task : FrameTask} {frame : Frame}
    {profile : Profile} (isTask : state.tasks[index]? = some (.frame task))
    (stage : task.stage = .acknowledging frame) (read : handleConnectAck frame = .ok profile) :
    state.handledAck (.work index answer) = some (index, frame) := by
  obtain ⟨line, data, negotiated, current⟩ := task
  obtain rfl : current = .acknowledging frame := stage
  simp [ClientState.handledAck, isTask, read, Except.toOption]

/-- A client that forces its profile keeps the parser it began with. -/
theorem parser_of_forced (forced : setting.config.isForceFormat = true) :
    acknowledgement.parser setting = setting.config.initialParser := by
  unfold parser
  cases acknowledgement.handled with
  | none => rfl
  | some handled =>
      simp only [Option.elim_some, ClientConfig.parserAfterAck, forced, if_true]
      split <;> rfl

theorem InForce.step (inForce : acknowledgement.InForce setting state.core)
    (stepped : state.step setting move = some next) :
    (acknowledgement.record state move next).InForce setting next.core := by
  cases handled : state.handledAck move with
  | none =>
      have record : acknowledgement.record state move next =
          { acknowledgement with
            standing := acknowledgement.standing && !state.ended next &&
              !(state.stageOf move).any Stage.startsOver } := by
        rw [Acknowledgement.record, handled]
      rw [record]
      refine ⟨?_, fun standing => ?_⟩
      · obtain same | ⟨index, answer, task, frame, profile, rfl, isTask, stage, read, -⟩ :=
          ClientState.parser_of_step setting stepped
        · exact same.trans inForce.parser
        · cases handled.symm.trans (handledAck_of_stage isTask stage read)
      · simp only [Bool.and_eq_true, Bool.not_eq_true'] at standing
        obtain ⟨⟨stood, going⟩, goesOn⟩ := standing
        exact ClientState.step_completed setting stepped (inForce.completed stood) going goesOn
  | some entry =>
      obtain ⟨index, frame⟩ := entry
      have record : acknowledgement.record state move next = ⟨some (index, frame), true⟩ := by
        rw [Acknowledgement.record, handled]
      rw [record]
      obtain ⟨answer, task, profile, rfl, isTask, stage, read⟩ := handledAck_eq_some handled
      obtain ⟨after, performed, rfl⟩ := Option.map_eq_some_iff.mp stepped
      obtain ⟨current, found, rfl⟩ := Option.map_eq_some_iff.mp performed
      obtain rfl := Option.some.inj (isTask.symm.trans (Option.filter_eq_some_iff.mp found).1)
      have agrees := @ClientState.acknowledge_agrees setting state _ index task frame profile read
      have worked : state.work setting index answer (.frame task) =
          state.acknowledge setting index task frame := by
        rw [ClientState.work, stage, ClientState.handleFrame]
      rw [ClientState.settle_core, worked]
      refine ⟨?_, fun _ => agrees.negotiationCompleted⟩
      have stands : Acknowledgement.parser setting ⟨some (index, frame), true⟩ =
          if setting.config.isForceFormat then setting.config.initialParser
          else profile.parser := by
        simp only [Acknowledgement.parser, Option.elim_some, ClientConfig.parserAfterAck, read]
      rw [agrees.parser, stands]
      simp only [ClientCore.completeNegotiation]
      cases forced : setting.config.isForceFormat with
      | true => rw [if_pos rfl, if_pos rfl, inForce.parser, parser_of_forced forced]
      | false => rfl

end Acknowledgement

end FlareCore.Client

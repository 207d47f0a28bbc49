import FlareCore.Client.Renewal

/-!
# What `connect` leaves in force

Between the `Connected` that comes with the observer and the one that ends `connect`, the
server may have answered: with an acknowledgement, a rejection, a KICKED, or by closing the
connection.  The last `Connected` is not to take that back, and so it looks at the state first
and leaves a client alone that is connected already.

`Outcome` is what has been recorded in between, kept beside the run and never looked at.  No
task takes any of it back (`Outcome.Sound.records`).  The last `Connected` does, whenever the
core has left `Connected` by then: it makes the client connected again, and if it had looked
after the change, it also erases what was recorded.
-/

namespace FlareCore.Client

open FlareCore.Common FlareCore.Server FlareCore.Foundations

set_option autoImplicit false

/-! ## What has been recorded -/

/-- The stages between the two `Connected`. -/
def Stage.isAttached : Stage → Bool
  | watching _ | greeting _ | confirming _ | announcing _ _ => true
  | pausing | retiring _ | retired _ | establishing | replacing _ | replaced _ | dialing
  | settingUp _ | attaching _ | connecting _ _ | registering | sending | waiting _
  | disconnecting _ | disconnected _ | leaving => false

/-- The task at hand processes an acknowledgement. -/
def Task.acknowledges [RustText] : Task → Bool
  | frame ⟨_, _, _, .acknowledging received⟩ => (handleConnectAck received).toOption.isSome
  | _ => false

namespace ClientState

variable (state : ClientState)

/-- The stage at which a step finds the call that has the client. -/
def stageOf : Move → Option Stage
  | .operate _ => state.operation.map Operation.stage
  | .call _ | .submit _ _ | .send _ _ | .read _ _ | .handOver _ | .work _ _ => none

/-- The step processes an acknowledgement. -/
def processesAck [RustText] : Move → Bool
  | .work index _ => state.tasks[index]?.any Task.acknowledges
  | .call _ | .submit _ _ | .send _ _ | .operate _ | .read _ _ | .handOver _ => false

/-- The step is the last one of `connect`. -/
def confirms (move : Move) : Bool :=
  (state.stageOf move).any fun
    | .announcing _ _ => true
    | _ => false

end ClientState

/-- What has been recorded since the observer was attached: whether an acknowledgement was
processed, the failure of the negotiation, the KICKED that ended the session, and whether the
connection has ended. -/
structure Outcome where
  acknowledged : Bool
  failure : Option FlareError
  kick : Option String
  ended : Bool
  deriving DecidableEq

namespace Outcome

def blank : Outcome := ⟨false, none, none, false⟩

/-- What a step adds, by the core it leaves. -/
def add (outcome : Outcome) (after : ClientCore) (acknowledges : Bool) : Outcome where
  acknowledged := outcome.acknowledged || acknowledges
  failure := after.negotiationFailure.or outcome.failure
  kick := after.sessionEndedByServer.or outcome.kick
  ended := outcome.ended || after.state ≠ .connected

/-- There is an outcome from the first `Connected` of a connection on. -/
def record [RustText] (state : ClientState) (move : Move) (next : ClientState)
    (history : Option Outcome) : Option Outcome :=
  match state.stageOf move with
  | some (.attaching _) => none
  | some (.connecting _ _) => some blank
  | _ => history.map fun outcome => outcome.add next.core (state.processesAck move)

/-- What has been recorded still holds. -/
structure InForce (outcome : Outcome) (core : ClientCore) : Prop where
  negotiated : outcome.acknowledged = true → outcome.ended = false →
    core.negotiationCompleted = true
  rejected : ∀ error ∈ outcome.failure, outcome.acknowledged = false →
    core.waitForNegotiation = some (.error error)
  kicked : ∀ reason ∈ outcome.kick, core.sessionEndedByServer = some reason
  ended : outcome.ended = true → core.state ≠ .connected

end Outcome

/-- The client with this history. -/
def outcomeClient [RustText] (setting : ClientSetting) :
    System (ClientState × Option Outcome) Move :=
  (clientSystem setting).recording Outcome.record

/-! ## Nothing is taken back -/

/-- A change of the core that takes nothing back. -/
structure Records (core after : ClientCore) (acknowledges : Bool) : Prop where
  state : core.state ≠ .connected → after.state ≠ .connected
  failure : core.negotiationFailure.isSome = true → after.negotiationFailure.isSome = true
  kick : core.sessionEndedByServer.isSome = true → after.sessionEndedByServer.isSome = true
  negotiated : after.state = .connected → core.negotiationCompleted = true →
    after.negotiationCompleted = true
  acknowledged : acknowledges = true → after.negotiationCompleted = true
  unacknowledged : after.negotiationCompleted = true →
    core.negotiationCompleted = true ∨ acknowledges = true

namespace Records

variable {core after final : ClientCore}

theorem of_agrees {acknowledges : Bool} (records : Records core after acknowledges)
    (agrees : after.Agrees final) : Records core final acknowledges where
  state unconnected := agrees.state ▸ records.state unconnected
  failure recorded := agrees.negotiationFailure ▸ records.failure recorded
  kick recorded := agrees.sessionEndedByServer ▸ records.kick recorded
  negotiated connected completed :=
    agrees.negotiationCompleted ▸ records.negotiated (agrees.state ▸ connected) completed
  acknowledged acknowledges := agrees.negotiationCompleted ▸ records.acknowledged acknowledges
  unacknowledged completed :=
    records.unacknowledged (agrees.negotiationCompleted ▸ completed)

theorem refl (core : ClientCore) : Records core core false where
  state := id
  failure := id
  kick := id
  negotiated _ := id
  acknowledged := Bool.noConfusion
  unacknowledged := .inl

/-- A client that is not connected, with everything else as it was. -/
theorem unconnects {state : ConnectionState} (unconnected : state ≠ .connected) :
    Records core { core with state := state } false where
  state _ := unconnected
  failure := id
  kick := id
  negotiated connected := absurd connected unconnected
  acknowledged := Bool.noConfusion
  unacknowledged := .inl

theorem lose (core : ClientCore) (state : ConnectionState) (unconnected : state ≠ .connected)
    (detail : String) : Records core (core.lose state detail).1 false where
  state _ := by
    rw [core.lose_state]
    exact unconnected
  failure recorded := by
    simp only [ClientCore.lose, ClientCore.closeReport]
    split <;> cases core.pendingKick <;> first | rfl | exact recorded
  kick recorded := by
    rw [core.lose_sessionEndedByServer]
    exact recorded
  negotiated connected := by
    rw [core.lose_state] at connected
    exact absurd connected unconnected
  acknowledged := Bool.noConfusion
  unacknowledged completed := by
    simp only [ClientCore.lose, ClientCore.closeReport] at completed
    split at completed <;> cases kick : core.pendingKick <;> rw [kick] at completed <;>
      cases completed

theorem handleTerminalEvent (event : ConnectionEvent) :
    Records core (core.handleTerminalEvent event).1 false := by
  cases event with
  | connected | message data => exact refl core
  | disconnected reason =>
      have records := lose
        { core with serverShutdown := core.serverShutdown || isServerShutdownReason reason }
        .disconnected ConnectionState.noConfusion reason
      exact ⟨records.state, records.failure, records.kick, records.negotiated,
        records.acknowledged, records.unacknowledged⟩
  | error error => exact lose core .failed ConnectionState.noConfusion error.text

variable [RustText] {setting : ClientSetting} {doer : Option Task}

/-- No task takes anything back. -/
theorem of_effect (effect : TaskEffect setting core after doer)
    (unacknowledging : doer.any Task.acknowledges = false) : Records core after false := by
  cases effect with
  | keeps agrees => exact (refl core).of_agrees agrees
  | rejects command agrees =>
      have records : Records core (core.recordConnectRejection command) false :=
        { refl core with failure := fun _ => rfl }
      exact records.of_agrees agrees
  | loses event agrees => exact (handleTerminalEvent event).of_agrees agrees
  | reports agrees =>
      refine of_agrees ?_ agrees
      unfold ClientCore.takeUnreportedKick
      split <;> exact { refl core with }
  | fails error agrees =>
      have records : Records core { core with negotiationFailure := some error } false :=
        { refl core with failure := fun _ => rfl }
      exact records.of_agrees agrees
  | @acknowledges task frame profile stage read agrees =>
      obtain ⟨line, data, negotiated, handling⟩ := task
      obtain rfl : handling = .acknowledging frame := stage
      simp [Task.acknowledges, read, Except.toOption] at unacknowledging
  | kicks stage agrees =>
      refine of_agrees ?_ agrees
      have unconnected : ConnectionState.disconnected ≠ .connected := ConnectionState.noConfusion
      unfold ClientCore.recordKick
      split
      · refine ⟨fun _ => unconnected, id, ?_, fun connected => absurd connected unconnected,
          Bool.noConfusion, .inl⟩
        intro recorded
        simp only
        split
        · rfl
        · exact recorded
      · exact unconnects unconnected

theorem of_acknowledges {state : ClientState} {index : Nat} {answer : Answer} {task : Task}
    (acknowledges : task.acknowledges = true) :
    Records state.core (state.work setting index answer task).core true := by
  unfold Task.acknowledges at acknowledges
  split at acknowledges
  next line data negotiated frame =>
    have completes : ∀ profile, Records state.core
        (state.core.completeNegotiation setting.config profile) true :=
      fun _ => { refl state.core with
        negotiated := fun _ _ => rfl
        acknowledged := fun _ => rfl
        unacknowledged := fun _ => .inr rfl }
    simp only [ClientState.work, ClientState.handleFrame, ClientState.acknowledge]
    split
    next profile _ =>
      split
      · exact completes profile
      · exact (completes profile).of_agrees (ClientState.tryStartHeartbeat_agrees setting
          ((state.withCore (state.core.completeNegotiation setting.config profile)).advance index
            ⟨line, data, negotiated, .acknowledging frame⟩ (.readying frame)))
    next error failed =>
      rw [failed] at acknowledges
      cases acknowledges
  next => cases acknowledges

theorem work (state : ClientState) (index : Nat) (answer : Answer) (task : Task) :
    Records state.core (state.work setting index answer task).core task.acknowledges := by
  cases acknowledges : task.acknowledges with
  | true => exact of_acknowledges acknowledges
  | false => exact of_effect (state.work_effect setting index answer task) acknowledges

end Records

/-- The outcome says what the core has recorded. -/
structure Outcome.Sound (outcome : Outcome) (core : ClientCore) : Prop where
  ended : outcome.ended = true ↔ core.state ≠ .connected
  failure : core.negotiationFailure = outcome.failure
  kick : core.sessionEndedByServer = outcome.kick
  negotiated : outcome.acknowledged = true → outcome.ended = false →
    core.negotiationCompleted = true
  acknowledged : core.negotiationCompleted = true → outcome.acknowledged = true

namespace Outcome

variable {outcome : Outcome} {core after : ClientCore}

theorem Sound.inForce (sound : outcome.Sound core) : outcome.InForce core where
  negotiated := sound.negotiated
  rejected error recorded unacknowledged := by
    have incomplete : core.negotiationCompleted = false := by
      refine Bool.eq_false_iff.mpr fun completed => ?_
      rw [sound.acknowledged completed] at unacknowledged
      cases unacknowledged
    simp [ClientCore.waitForNegotiation, incomplete, sound.failure, Option.mem_def.mp recorded]
  kicked reason recorded := sound.kick.trans recorded
  ended := sound.ended.mp

theorem sound_blank (core : ClientCore) : blank.Sound (core.handleConnected false) where
  ended := by simp [blank, ClientCore.handleConnected]
  failure := rfl
  kick := rfl
  negotiated := Bool.noConfusion
  acknowledged := Bool.noConfusion

/-- What was recorded before adds nothing to what is recorded still. -/
theorem eq_or_of_isSome_imp {α : Type} {first second : Option α}
    (implies : second.isSome = true → first.isSome = true) : first = first.or second := by
  cases second with
  | none => rw [Option.or_none]
  | some value => rw [Option.or_of_isSome (implies rfl)]

/-- What takes nothing back is added to the outcome. -/
theorem Sound.records {acknowledges : Bool} (sound : outcome.Sound core)
    (records : Records core after acknowledges) :
    (outcome.add after acknowledges).Sound after where
  ended := by
    simp only [add, Bool.or_eq_true, decide_eq_true_eq, sound.ended]
    exact ⟨fun either => either.elim records.state id, .inr⟩
  failure := eq_or_of_isSome_imp (sound.failure ▸ records.failure)
  kick := eq_or_of_isSome_imp (sound.kick ▸ records.kick)
  negotiated acknowledged continuing := by
    simp only [add, Bool.or_eq_true, Bool.or_eq_false_iff, decide_eq_false_iff_not, not_not]
      at acknowledged continuing
    obtain before | now := acknowledged
    · exact records.negotiated continuing.2 (sound.negotiated before continuing.1)
    · exact records.acknowledged now
  acknowledged completed := by
    simp only [add, Bool.or_eq_true]
    exact (records.unacknowledged completed).imp_left sound.acknowledged

end Outcome

/-! ## Steps -/

/-- Where a client gives up connecting. -/
theorem Records.failConnect (setting : ClientSetting) (state : ClientState)
    (operation : Operation) (error : FlareError) :
    Records state.core (state.failConnect setting operation error).core false := by
  have failed : ConnectionState.failed ≠ .connected := ConnectionState.noConfusion
  have connecting : ConnectionState.connecting ≠ .connected := ConnectionState.noConfusion
  simp only [ClientState.failConnect, ClientState.tryReconnect]
  split
  · split
    · rw [ClientState.finish_core]
      exact unconnects failed
    · exact ⟨fun _ => connecting, id, id, fun connected => absurd connected connecting,
        Bool.noConfusion, .inl⟩
  · rw [ClientState.finish_core]
    exact unconnects failed

theorem Stage.isAttached_of_isUnbound {stage : Stage} (unbound : stage.isUnbound = true) :
    stage.isAttached = false := by
  cases stage <;> trivial

namespace ClientState

variable {setting : ClientSetting} {state after : ClientState} {operation next : Operation}

theorem isAttached_of_unbinds (unbinds : Unbinds state operation after)
    (isNext : after.operation = some next) : next.stage.isAttached = false := by
  obtain ⟨free, -⟩ | ⟨current, proceeds, -, unbound⟩ := unbinds.outcome
  · cases free.symm.trans isNext
  · obtain rfl := Option.some.inj (proceeds.symm.trans isNext)
    exact Stage.isAttached_of_isUnbound unbound

theorem isAttached_of_start {call : Call}
    (isNext : (state.start setting call).operation = some next) :
    next.stage.isAttached = false := by
  by_cases disconnects : call = .disconnect
  · subst disconnects
    obtain rfl := Option.some.inj isNext
    cases state.connection <;> rfl
  · obtain ⟨operation, -, unbinds⟩ := state.start_unbinds setting disconnects
    exact isAttached_of_unbinds unbinds isNext

variable [RustText]

/-- How a call comes to stand, or stays, between the two `Connected`. -/
theorem operate_attached {answer : Answer}
    (operated : state.operate setting operation answer = some after)
    (isNext : after.operation = some next) (attached : next.stage.isAttached = true) :
    (∃ line, operation.stage = .attaching line) ∨
      (∃ line already, operation.stage = .connecting line already ∧
        after.core = state.core.handleConnected already ∧ next.stage = .watching line) ∨
      (operation.stage.isAttached = true ∧
        (∀ line already, operation.stage ≠ .announcing line already) ∧
        ∀ line, next.stage = .announcing line false → state.core.state ≠ .connected) := by
  have absent : next.stage.isAttached ≠ false := fun unattached =>
    Bool.noConfusion (unattached.symm.trans attached)
  cases stage : operation.stage <;>
    simp only [operate, stage, Option.some.injEq, Option.map_eq_some_iff,
      Option.bind_eq_some_iff] at operated
  case attaching line => exact .inl ⟨line, rfl⟩
  case connecting line already =>
    subst operated
    obtain rfl := Option.some.inj isNext
    exact .inr (.inl ⟨line, already, rfl, rfl, rfl⟩)
  case watching line =>
    subst operated
    refine .inr (.inr ⟨rfl, fun _ _ => Stage.noConfusion, fun other looks => ?_⟩)
    have greets : next.stage = .greeting line := by
      unfold watch at isNext
      split at isNext
      · exact congrArg Operation.stage (Option.some.inj isNext).symm
      · rw [(onTerminalEvent_undisturbed setting _ _).operation] at isNext
        exact congrArg Operation.stage (Option.some.inj isNext).symm
    cases greets.symm.trans looks
  case greeting line =>
    subst operated
    refine .inr (.inr ⟨rfl, fun _ _ => Stage.noConfusion, fun other looks => ?_⟩)
    simp only [greet] at isNext
    split at isNext
    · have confirms : next.stage = .confirming line :=
        congrArg Operation.stage (Option.some.inj isNext).symm
      cases confirms.symm.trans looks
    · exact absurd (isAttached_of_unbinds (failConnect_unbinds setting _ operation _) isNext) absent
  case confirming line =>
    subst operated
    refine .inr (.inr ⟨rfl, fun _ _ => Stage.noConfusion, fun other looks => ?_⟩)
    obtain rfl := Option.some.inj isNext
    injection looks with _ unfound
    exact of_decide_eq_false unfound
  case announcing line already =>
    subst operated
    exact absurd (isAttached_of_unbinds (state.connectDone_unbinds setting operation already)
      isNext) absent
  case registering =>
    obtain ⟨frame, -, rfl⟩ := operated
    exact absurd (isAttached_of_unbinds (startSend_unbinds setting _ _) isNext) absent
  case sending =>
    obtain ⟨frame, -, rfl⟩ := operated
    exact absurd (isAttached_of_unbinds (state.sendFrame_unbinds setting operation frame answer)
      isNext) absent
  case waiting request =>
    obtain ⟨frame, -, awaited⟩ := operated
    obtain ⟨core, result, -, -, rfl⟩ := await_eq_some awaited
    exact absurd (isAttached_of_unbinds (finish_unbinds _ operation result) isNext) absent
  case dialing =>
    subst operated
    unfold dial at isNext
    split at isNext
    · obtain rfl := Option.some.inj isNext
      cases attached
    · exact absurd (isAttached_of_unbinds (state.failConnect_unbinds setting operation _) isNext)
        absent
  case establishing =>
    subst operated
    unfold establish at isNext
    split at isNext <;> obtain rfl := Option.some.inj isNext <;> cases attached
  case pausing =>
    subst operated
    obtain rfl := Option.some.inj isNext
    cases connection : state.connection <;> rw [connection] at attached <;> cases attached
  case leaving =>
    subst operated
    exact absurd (isAttached_of_unbinds (finish_unbinds _ operation _) isNext) absent
  case retired line | replaced line | disconnected line =>
    subst operated
    rw [(announce_undisturbed setting _ _ _).operation] at isNext
    obtain rfl := Option.some.inj isNext
    cases attached
  case retiring line | replacing line | settingUp line | disconnecting line =>
    subst operated
    obtain rfl := Option.some.inj isNext
    cases attached

/-- A call that stands between the two `Connected` takes nothing back before its last step. -/
theorem operate_records {answer : Answer} (attached : operation.stage.isAttached = true)
    (unconfirmed : ∀ line already, operation.stage ≠ .announcing line already)
    (operated : state.operate setting operation answer = some after) :
    Records state.core after.core false := by
  cases stage : operation.stage with
  | watching line =>
      simp only [operate, stage, Option.some.injEq] at operated
      subst operated
      unfold watch
      split
      · exact .refl state.core
      · obtain kept | lost := (state.proceed operation (.greeting line)).onTerminalEvent_core
          setting (.disconnected setting.protocol.closedReason)
        · rw [kept]
          exact .refl state.core
        · rw [lost]
          exact .handleTerminalEvent _
  | greeting line =>
      simp only [operate, stage, Option.some.injEq] at operated
      subst operated
      simp only [greet]
      split
      · exact .refl state.core
      · exact .failConnect setting { state with frames := state.frames + 1 } operation _
  | confirming line =>
      simp only [operate, stage, Option.some.injEq] at operated
      subst operated
      exact .refl state.core
  | announcing line already => exact absurd stage (unconfirmed line already)
  | pausing | retiring line | retired line | establishing | replacing line | replaced line
  | dialing | settingUp line | attaching line | connecting line already | registering | sending
  | waiting request | disconnecting line | disconnected line | leaving =>
      rw [stage] at attached
      cases attached

omit [RustText] in
theorem stageOf_eq_some {move : Move} {stage : Stage} (found : state.stageOf move = some stage) :
    ∃ answer operation, move = .operate answer ∧ state.operation = some operation ∧
      operation.stage = stage := by
  cases move with
  | operate answer =>
      obtain ⟨operation, current, rfl⟩ := Option.map_eq_some_iff.mp found
      exact ⟨answer, operation, rfl, current, rfl⟩
  | call call | submit frame waits | send index answer | read line event | handOver line
  | work index answer => cases found

omit [RustText] in
theorem confirms_eq_true {move : Move} (confirms : state.confirms move = true) :
    ∃ answer operation line already, move = .operate answer ∧
      state.operation = some operation ∧ operation.stage = .announcing line already := by
  obtain ⟨stage, found, isLast⟩ := (Option.any_eq_true _ _).mp confirms
  obtain ⟨answer, operation, rfl, current, rfl⟩ := stageOf_eq_some found
  cases stage : operation.stage with
  | announcing line already => exact ⟨answer, operation, line, already, rfl, current, stage⟩
  | _ =>
      rw [stage] at isLast
      cases isLast

omit [RustText] in
theorem connectDone_core (operation : Operation) (already : Bool) :
    (state.connectDone setting operation already).core = state.core.handleConnected already := by
  unfold connectDone
  split <;> simp

omit [RustText] in
theorem confirms_operate_eq_false {answer : Answer} (current : state.operation = some operation) :
    state.confirms (.operate answer) = false ↔
      ∀ line already, operation.stage ≠ .announcing line already := by
  simp only [confirms, stageOf, current, Option.map_some, Option.any_some]
  cases operation.stage <;> simp

/-- While a call stands between the two `Connected`, only its last step takes anything back. -/
theorem step_records {move : Move} {later : ClientState}
    (current : state.operation = some operation) (attached : operation.stage.isAttached = true)
    (unconfirmed : state.confirms move = false)
    (stepped : state.step setting move = some later) :
    Records state.core later.core (state.processesAck move) := by
  obtain ⟨after, performed, rfl⟩ := Option.map_eq_some_iff.mp stepped
  rw [settle_core]
  cases move with
  | call call =>
      simp [perform, current] at performed
  | submit frame waits =>
      obtain rfl := Option.some.inj performed
      exact .refl state.core
  | send index answer =>
      obtain ⟨sender, -, sent⟩ := Option.bind_eq_some_iff.mp performed
      obtain only | ⟨free, -⟩ := sendStep_eq_some sent
      · exact (Records.refl state.core).of_agrees only.agrees
      · cases free.symm.trans current
  | operate answer =>
      simp only [perform, current, Option.bind_some] at performed
      exact operate_records attached ((confirms_operate_eq_false current).mp unconfirmed) performed
  | read line event =>
      simp only [perform, read, Option.ite_none_right_eq_some] at performed
      obtain ⟨-, taken⟩ := performed
      obtain rfl := Option.some.inj taken
      exact .refl state.core
  | handOver line =>
      obtain ⟨event, -, rfl⟩ := Option.map_eq_some_iff.mp performed
      exact .of_effect (deliver_effect setting (state.clearReading line) line event) rfl
  | work index answer =>
      obtain ⟨task, found, rfl⟩ := Option.map_eq_some_iff.mp performed
      have isTask := (Option.filter_eq_some_iff.mp found).1
      simp only [processesAck, isTask, Option.any_some]
      exact .work state index answer task

/-- How a call comes to stand between the two `Connected`, for every step. -/
theorem step_attached {move : Move} {later : ClientState}
    (stepped : state.step setting move = some later) (isNext : later.operation = some next)
    (attached : next.stage.isAttached = true) :
    (∃ line, state.stageOf move = some (.attaching line)) ∨
      (∃ line already, state.stageOf move = some (.connecting line already) ∧
        later.core = state.core.handleConnected already ∧ next.stage = .watching line) ∨
      ∃ operation, state.operation = some operation ∧ operation.stage.isAttached = true ∧
        state.confirms move = false ∧ ∀ line, next.stage = .announcing line false →
          operation.stage = .announcing line false ∨ state.core.state ≠ .connected := by
  obtain ⟨after, performed, rfl⟩ := Option.map_eq_some_iff.mp stepped
  have absent : next.stage.isAttached ≠ false := fun unattached =>
    Bool.noConfusion (unattached.symm.trans attached)
  have stays : state.stageOf move = none → after.operation = state.operation →
      ∃ operation, state.operation = some operation ∧ operation.stage.isAttached = true ∧
        state.confirms move = false ∧ ∀ line, next.stage = .announcing line false →
          operation.stage = .announcing line false ∨ state.core.state ≠ .connected := by
    intro elsewhere same
    refine ⟨next, same.symm.trans isNext, attached, ?_, fun line looks => .inl looks⟩
    rw [confirms, elsewhere]
    rfl
  cases move with
  | call call =>
      simp only [perform, Option.ite_none_right_eq_some] at performed
      obtain ⟨-, started⟩ := performed
      obtain rfl := Option.some.inj started
      exact absurd (isAttached_of_start isNext) absent
  | submit frame waits =>
      obtain rfl := Option.some.inj performed
      exact .inr (.inr (stays rfl rfl))
  | send index answer =>
      obtain ⟨sender, -, sent⟩ := Option.bind_eq_some_iff.mp performed
      obtain only | ⟨-, stage, call, -, rfl⟩ := sendStep_eq_some sent
      · exact .inr (.inr (stays rfl only.operation))
      · exact absurd (isAttached_of_start isNext) absent
  | operate answer =>
      obtain ⟨operation, current, operated⟩ := Option.bind_eq_some_iff.mp performed
      have stageOf : state.stageOf (.operate answer) = some operation.stage := by
        simp [ClientState.stageOf, current]
      rw [stageOf]
      obtain ⟨line, stage⟩ | ⟨line, already, stage, core, watches⟩ |
          ⟨before, unconfirmed, looked⟩ := operate_attached operated isNext attached
      · exact .inl ⟨line, congrArg some stage⟩
      · exact .inr (.inl ⟨line, already, congrArg some stage, core, watches⟩)
      · exact .inr (.inr ⟨operation, current, before,
          (confirms_operate_eq_false current).mpr unconfirmed,
          fun line looks => .inr (looked line looks)⟩)
  | read line event =>
      simp only [perform, read, Option.ite_none_right_eq_some] at performed
      obtain ⟨-, taken⟩ := performed
      obtain rfl := Option.some.inj taken
      exact .inr (.inr (stays rfl rfl))
  | handOver line =>
      obtain ⟨event, -, rfl⟩ := Option.map_eq_some_iff.mp performed
      exact .inr (.inr (stays rfl (deliver_undisturbed setting _ line event).operation))
  | work index answer =>
      obtain ⟨task, -, rfl⟩ := Option.map_eq_some_iff.mp performed
      exact .inr (.inr (stays rfl (state.work_undisturbed setting index answer task).operation))

end ClientState

/-! ## Runs -/

/-- What holds while a call stands between the two `Connected`: the outcome is sound, and a look
that did not find the client connected came after the end. -/
structure Outcome.Follows (outcome : Outcome) (core : ClientCore) (stage : Stage) : Prop where
  sound : outcome.Sound core
  looked : ∀ line, stage = .announcing line false → outcome.ended = true

def ClientState.Followed (state : ClientState) (history : Option Outcome) : Prop :=
  ∀ operation ∈ state.operation, operation.stage.isAttached = true →
    ∀ outcome ∈ history, outcome.Follows state.core operation.stage

section Runs

variable [RustText] {setting : ClientSetting} {state next : ClientState}

theorem Outcome.record_of_attached {operation : Operation} {move : Move}
    {history : Option Outcome} (current : state.operation = some operation)
    (attached : operation.stage.isAttached = true) :
    record state move next history =
      history.map fun outcome => outcome.add next.core (state.processesAck move) := by
  cases move with
  | operate answer =>
      simp only [record, ClientState.stageOf, current, Option.map_some]
      cases stage : operation.stage <;> rw [stage] at attached <;> first | rfl | cases attached
  | call call | submit frame waits | send index answer | read line event | handOver line
  | work index answer => rfl

theorem ClientState.Followed.step {history : Option Outcome} {move : Move}
    (followed : state.Followed history) (approaching : state.Approaching)
    (stepped : state.step setting move = some next) :
    next.Followed (Outcome.record state move next history) := by
  intro operation isNext attached outcome recorded
  obtain ⟨line, stage⟩ | ⟨line, already, stage, core, watches⟩ |
      ⟨earlier, current, before, unconfirmed, looked⟩ := step_attached stepped isNext attached
  · simp only [Outcome.record, stage] at recorded
    cases recorded
  · simp only [Outcome.record, stage, Option.mem_some_iff] at recorded
    subst recorded
    obtain ⟨-, connecting, -, current, isStage⟩ := stageOf_eq_some stage
    have looked := approaching connecting current
    rw [isStage] at looked
    obtain rfl : already = false := (looked rfl).2
    refine ⟨core ▸ Outcome.sound_blank state.core, ?_⟩
    intro other looks
    cases watches.symm.trans looks
  · rw [Outcome.record_of_attached current before] at recorded
    obtain ⟨outcome, isOutcome, rfl⟩ := Option.map_eq_some_iff.mp recorded
    have follows := followed earlier current before outcome isOutcome
    refine ⟨follows.sound.records (step_records current before unconfirmed stepped), ?_⟩
    intro line looks
    have ended : outcome.ended = true :=
      (looked line looks).elim (follows.looked line) follows.sound.ended.mpr
    simp [Outcome.add, ended]

/-- Along every run. -/
theorem ClientState.reaches_followed {start : ClientState} {history : Option Outcome}
    (initial : start.IsInitial setting.config)
    (reached : (outcomeClient setting).Reaches System.always (start, none) (state, history)) :
    state.Followed history := by
  have both : state.Approaching ∧ state.Followed history := by
    refine System.Reaches.invariant
      (I := fun state : ClientState × Option Outcome =>
        state.1.Approaching ∧ state.1.Followed state.2) reached ⟨?_, ?_⟩ ?_
    · obtain rfl | rfl := initial
      · exact approaching_of_free rfl
      · exact approaching_of_free rfl
    · intro operation _ _ outcome recorded
      cases recorded
    · rintro before after ⟨move, -, stepped⟩ ⟨approaching, followed⟩
      obtain ⟨taken, recorded⟩ := System.recording_step_eq_some stepped
      rw [recorded]
      exact ⟨step_approaching setting taken approaching, followed.step approaching taken⟩
  exact both.2

omit [RustText] in
/-- The last step of `connect` leaves the outcome in force exactly if the core has not left
`Connected` before it. -/
theorem Outcome.Follows.confirms {outcome : Outcome} {core : ClientCore} {line : Nat}
    {already : Bool} (follows : outcome.Follows core (.announcing line already)) :
    (outcome.add (core.handleConnected already) false).InForce (core.handleConnected already) ↔
      core.state = .connected := by
  have connected : (core.handleConnected already).state = .connected := by
    cases already <;> rfl
  constructor
  · intro inForce
    by_contra unconnected
    refine inForce.ended ?_ connected
    simp [add, follows.sound.ended.mpr unconnected]
  · intro still
    have continuing : outcome.ended = false :=
      Bool.eq_false_iff.mpr fun ended => follows.sound.ended.mp ended still
    obtain rfl : already = true := by
      cases already with
      | true => rfl
      | false => cases continuing.symm.trans (follows.looked line rfl)
    have same : core.handleConnected true = core := by
      cases core
      simp_all [ClientCore.handleConnected]
    rw [same]
    exact (follows.sound.records (.refl core)).inForce

/-- **What has been recorded between the two `Connected` of a connection is in force after every
step up to the return of `connect`**, exactly if the core is still `Connected` before the last
one. -/
theorem recorded_outcome_in_force_iff (setting : ClientSetting) {start state next : ClientState}
    {outcome later : Outcome} {operation : Operation} {move : Move}
    (initial : start.IsInitial setting.config)
    (reached : (outcomeClient setting).Reaches System.always (start, none) (state, some outcome))
    (current : state.operation = some operation) (attached : operation.stage.isAttached = true)
    (stepped : (outcomeClient setting).step (state, some outcome) move = some (next, some later)) :
    later.InForce next.core ↔
      (state.confirms move = true → state.core.state = .connected) := by
  have follows :=
    ClientState.reaches_followed initial reached operation current attached outcome rfl
  obtain ⟨taken, recorded⟩ := System.recording_step_eq_some stepped
  simp only [Outcome.record_of_attached current attached, Option.map_some,
    Option.some.injEq] at recorded
  subst recorded
  cases confirms : state.confirms move with
  | false =>
      have sound := follows.sound.records (ClientState.step_records current attached confirms taken)
      exact ⟨fun _ => Bool.noConfusion, fun _ => sound.inForce⟩
  | true =>
      obtain ⟨answer, last, line, already, rfl, isLast, stage⟩ :=
        ClientState.confirms_eq_true confirms
      obtain rfl := Option.some.inj (current.symm.trans isLast)
      have core : next.core = state.core.handleConnected already := by
        obtain ⟨after, performed, rfl⟩ := Option.map_eq_some_iff.mp taken
        simp only [ClientState.perform, current, Option.bind_some, ClientState.operate, stage,
          Option.some.injEq] at performed
        rw [ClientState.settle_core, ← performed, ClientState.connectDone_core]
      rw [stage] at follows
      rw [core, ClientState.processesAck, follows.confirms]
      exact ⟨fun still _ => still, fun still => still rfl⟩

end Runs

/-! ## Concrete runs -/

section Examples

open scoped AsciiText

/-- The ERROR of a server that turns a client away. -/
def turnedAway : Frame :=
  .withSystemCommand ⟨"error", 0⟩ (.error "tenant unavailable" ∅) .atLeastOnce

/-- The client of the runs below. -/
def answerable : ClientSetting :=
  .builtin .webSocket [plainAck, turnedAway]

/-- An acknowledgement that is processed before the last step of `connect`: the theorem
applies. -/
theorem recorded_outcome_in_force_iff_acknowledged :
    ∃ state next outcome later, (outcomeClient answerable).Reaches System.always
        (.new answerable.config, none) (state, some outcome) ∧
      (outcomeClient answerable).step (state, some outcome) (.operate granted) =
        some (next, some later) ∧
      outcome.acknowledged = true ∧ later.InForce next.core := by
  have run : ((outcomeClient answerable).run (.new answerable.config, none)
      (.call .connect :: operates 6 ++ arrives 0 plainAck ++ works 1 6 ++ operates 2)).any
        (fun state => decide (
          state.1.operation = some ⟨.connect, none, true, .announcing 0 true⟩ ∧
          state.1.core.state = .connected ∧ (state.2.any Outcome.acknowledged) = true ∧
          (((outcomeClient answerable).step state (.operate granted)).any
            fun next => next.2.isSome) = true)) = true := by
    decide +kernel
  obtain ⟨⟨state, history⟩, reached, holds⟩ :=
    System.exists_reaches_of_run run (System.permits_always _ _)
  obtain ⟨current, connected, acknowledged, stepped⟩ := of_decide_eq_true holds
  obtain ⟨outcome, rfl, acknowledged⟩ := (Option.any_eq_true _ _).mp acknowledged
  obtain ⟨⟨next, followed⟩, stepped, isSome⟩ := (Option.any_eq_true _ _).mp stepped
  obtain ⟨later, rfl⟩ := Option.isSome_iff_exists.mp isSome
  exact ⟨state, next, outcome, later, reached, stepped, acknowledged,
    (recorded_outcome_in_force_iff answerable (.inl rfl) reached current rfl stepped).mpr
      fun _ => connected⟩

/-- **The rejection that the server gave is gone when `connect` returns**, and the client counts as
connected although its connection has ended: both the ERROR and the end of the connection came
between CONNECT and the last step. -/
theorem recorded_rejection_erased :
    ∃ state outcome, (outcomeClient answerable).Reaches System.always
        (.new answerable.config, none) (state, some outcome) ∧
      state.operation = none ∧ outcome.failure.isSome = true ∧ outcome.ended = true ∧
      state.core.waitForNegotiation = none ∧ ¬outcome.InForce state.core := by
  have run : ((outcomeClient answerable).run (.new answerable.config, none)
      (.call .connect :: operates 7 ++ arrives 0 turnedAway ++ ends 0 ++ operates 2)).any
        (fun state => decide (state.1.operation.isNone = true ∧
          (state.2.any fun outcome => outcome.failure.isSome && outcome.ended) = true ∧
          state.1.core.waitForNegotiation.isNone = true ∧
          state.1.core.state = .connected)) = true := by
    decide +kernel
  obtain ⟨⟨state, history⟩, reached, holds⟩ :=
    System.exists_reaches_of_run run (System.permits_always _ _)
  obtain ⟨free, recorded, waits, connected⟩ := of_decide_eq_true holds
  obtain ⟨outcome, rfl, recorded⟩ := (Option.any_eq_true _ _).mp recorded
  obtain ⟨failed, ended⟩ := Bool.and_eq_true_iff.mp recorded
  exact ⟨state, outcome, reached, Option.isNone_iff_eq_none.mp free, failed, ended,
    Option.isNone_iff_eq_none.mp waits, fun inForce => inForce.ended ended connected⟩

end Examples

end FlareCore.Client

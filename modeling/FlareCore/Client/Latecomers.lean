import FlareCore.Client.Lines
import FlareCore.Client.Delivery
import FlareCore.Client.Session

/-!
# Work of an earlier connection

The core of a client has one state for all connections that follow each other, and nothing in it
says which connection it is about.  A frame or an event of an earlier connection that is handled
after a newer one is established therefore acts on the newer one: a KICKED marks it as disconnected
and closes it, a CLOSE closes it, a CONNECT_ACK negotiates for it, and the end of the earlier
connection ends it, with its heartbeat and with the calls that wait for a response
(`late_kick_closes_new_connection`).

`ClientState.intrudes` lists these steps.  In a run without them nothing that is left of an earlier
connection touches the newest one (`late_work_spares_new_connection`).
-/

namespace FlareCore.Client

open FlareCore.Common FlareCore.Server FlareCore.Foundations

set_option autoImplicit false

/-! ## Work that is late -/

/-- For each task, the connection whose event it is about. -/
abbrev Sources := List (Option Nat)

namespace ClientState

variable (setting : ClientSetting) (state : ClientState)

/-- The connection whose frame or event a step handles. -/
def subject (sources : Sources) : Move → Option Nat
  | .handOver line => some line
  | .work index _ =>
      match state.tasks[index]? with
      | some (.frame task) => some task.line
      | some (.heartbeat line _) => some line
      | some (.deferred _) | some .clearing | some (.informing _) => sources[index]?.join
      | some .done | none => none
  | .call _ | .submit _ _ | .send _ _ | .operate _ | .read _ _ => none

/-- The connection whose end a step may leave to a task; a call that has no connection any more
speaks of the last one. -/
def announced (sources : Sources) : Move → Option Nat
  | .operate _ => some (state.callLine.getD (state.lines.length - 1))
  | .work index answer =>
      match state.tasks[index]? with
      | some (.frame task) => some (task.stage.line.getD task.line)
      | some (.heartbeat _ _) | some (.deferred _) | some .clearing | some (.informing _)
      | some .done | none => state.subject sources (.work index answer)
  | .handOver line => some line
  | .call _ | .submit _ _ | .send _ _ | .read _ _ => none

/-- The tasks that a step adds are about the connection whose event they come from. -/
def trace (move : Move) (next : ClientState) (sources : Sources) : Sources :=
  sources ++ List.replicate (next.tasks.length - sources.length) (state.announced sources move)

/-- A step handles what is left of a connection that a newer one has followed. -/
def isLate (sources : Sources) (move : Move) : Bool :=
  (state.subject sources move).any fun line => line + 1 < state.lines.length

/-- The newest connection is in the slot of the core. -/
def holdsNewest : Bool :=
  state.core.clientConnection.any fun line => line + 1 = state.lines.length

/-- A call waits for a response. -/
def hasAwaited : Bool :=
  state.core.pending.entries.any fun entry => state.isAwaited entry.2

/-- The end of a connection would be handled at once. -/
def endsAt (line : Nat) : Bool :=
  state.isAttached line && !state.shouldDefer

/-- A handler takes the newest connection out of its slot. -/
def takesNewest : Move → Bool
  | .work index _ => state.tasks[index]?.any Task.takesConnection && state.holdsNewest
  | .call _ | .submit _ _ | .send _ _ | .operate _ | .read _ _ | .handOver _ => false

variable [RustText]

/-- The stages of a frame that act on the connection that is established. -/
def stageIntrudes : Handling → Bool
  | .kicked _ _ | .negotiationFailed _ _ => true
  | .kickAnnouncing _ _ line | .closeAnnouncing _ _ line => state.endsAt line
  | .kickReporting _ _ => state.hasAwaited
  | .acknowledging frame =>
      match handleConnectAck frame with
      | .ok profile =>
          !state.core.negotiationCompleted ||
            (!setting.config.isForceFormat && state.core.parser ≠ profile.parser)
      | .error _ => state.core.heartbeat.isSome
  | .received | .reparsing | .matching _ | .responding _ | .dispatching _ | .readying _
  | .kickShutting _ _ _ | .closing _ _ | .closeShutting _ _ _ | .delivering _ _
  | .handlingBusiness _ | .finished _ | .dropped => false

/-- The steps that act on the connection that is established, whatever connection they are
about. -/
def intrudes : Move → Bool
  | .handOver line =>
      (state.lines[line]?.bind Line.reading).any ConnectionEvent.isTerminal && state.endsAt line
  | .work index _ =>
      match state.tasks[index]? with
      | some (.frame task) => state.stageIntrudes setting task.stage
      | some (.heartbeat line (.announcing _)) => state.endsAt line
      | some (.deferred _) => true
      | some .clearing => state.hasAwaited
      | some (.heartbeat _ .beating) | some (.heartbeat _ (.shutting _)) | some (.informing _)
      | some .done | none => false
  | .call _ | .submit _ _ | .send _ _ | .operate _ | .read _ _ => false

/-- The newest connection is established. -/
def isEstablished : Bool :=
  state.core.state = .connected

end ClientState

/-- What is left of an earlier connection does not take the newest one, and does not act on it once
it is established. -/
def Contained [RustText] (setting : ClientSetting) (state : ClientState × Sources) (move : Move) :
    Prop :=
  state.1.isLate state.2 move = true → state.1.takesNewest move = false ∧
    (state.1.isEstablished = true → state.1.intrudes setting move = false)

instance [RustText] (setting : ClientSetting) (state : ClientState × Sources) (move : Move) :
    Decidable (Contained setting state move) :=
  inferInstanceAs (Decidable (_ → _))

/-- Nothing happens to a connection: it is not closed, neither its state nor its negotiation nor its
parser changes, its heartbeat goes on, and each call that waits for a response still waits, or has
its response. -/
structure Spared (line : Nat) (before after : ClientState) : Prop where
  live : before.isLive line = true → after.isLive line = true
  state : after.core.state = before.core.state
  negotiation : after.core.negotiationCompleted = before.core.negotiationCompleted
  parser : after.core.parser = before.core.parser
  heartbeat : ∀ beat, before.core.heartbeat = some beat → after.core.heartbeat = some beat
  pending : ∀ id request, before.core.pending.lookup id = some request →
    before.isAwaited request = true → after.core.pending.lookup id = some request ∨
      ∃ frame, (request, frame) ∈ after.answered

/-- The client, with the connections that its tasks are about. -/
def tracedClient [RustText] (setting : ClientSetting) : System (ClientState × Sources) Move :=
  (clientSystem setting).recording ClientState.trace

/-! ## References to lines -/

/-- The line of a frame, and the line that its handler is closing. -/
def Task.grip : Task → Option (Nat × Nat)
  | frame task => task.stage.line.map fun target => (task.line, target)
  | deferred _ | clearing | informing _ | heartbeat _ _ | done => none

/-- The handler of a frame of one line is closing another, or its own. -/
def ClientState.Grips (state : ClientState) (grip : Nat × Nat) : Prop :=
  ∃ task ∈ state.tasks, task.grip = some grip

/-- Lines are added only, every line that the client refers to exists, and no handler takes hold of
one. -/
structure Narrows (before after : ClientState) : Prop where
  lines : before.lines.length ≤ after.lines.length
  owned : ∀ line, after.Owned line → before.Owned line ∨ line < after.lines.length
  grips : ∀ grip, after.Grips grip → before.Grips grip

namespace Narrows

variable {first second third : ClientState}

theorem after (right : Narrows second third) (left : Narrows first second) :
    Narrows first third where
  lines := Nat.le_trans left.lines right.lines
  owned line owned := by
    obtain owned | exists_ := right.owned line owned
    · obtain owned | exists_ := left.owned line owned
      · exact .inl owned
      · exact .inr (Nat.lt_of_lt_of_le exists_ right.lines)
    · exact .inr exists_
  grips grip gripped := left.grips grip (right.grips grip gripped)

theorem of_owned (lines : second.lines.length = first.lines.length)
    (owned : ∀ line, second.Owned line → first.Owned line) (tasks : second.tasks = first.tasks) :
    Narrows first second where
  lines := Nat.le_of_eq lines.symm
  owned line isOwned := .inl (owned line isOwned)
  grips _ gripped := by
    unfold ClientState.Grips at gripped ⊢
    rwa [tasks] at gripped

theorem of_eq (lines : second.lines.length = first.lines.length)
    (connection : second.connection = first.connection)
    (slot : second.core.clientConnection = first.core.clientConnection)
    (operation : second.operation = first.operation) (tasks : second.tasks = first.tasks) :
    Narrows first second := by
  refine of_owned lines (fun line owned => ?_) tasks
  unfold ClientState.Owned ClientState.callLine at owned ⊢
  rwa [connection, slot, operation] at owned

theorem refl (state : ClientState) : Narrows state state :=
  of_eq rfl rfl rfl rfl rfl

/-- A task is added that holds nothing. -/
theorem spawn (state : ClientState) {task : Task} (free : task.grip = none) :
    Narrows state (state.spawn task) where
  lines := Nat.le_refl _
  owned line owned := .inl owned
  grips grip gripped := by
    obtain ⟨other, member, isGrip⟩ := gripped
    obtain old | new := List.mem_append.mp member
    · exact ⟨other, old, isGrip⟩
    · rw [List.mem_singleton.mp new, free] at isGrip
      cases isGrip

end Narrows

namespace ClientState

variable (setting : ClientSetting) (state : ClientState)

theorem inform_narrows (event : ConnectionEvent) : Narrows state (state.inform setting event) := by
  unfold inform
  split
  · exact .spawn state rfl
  · exact .refl state

theorem handleTerminalEvent_narrows (event : ConnectionEvent) :
    Narrows state (state.handleTerminalEvent setting event) := by
  have informed := state.inform_narrows setting event
  have slot := ClientCore.handleTerminalEvent_clientConnection state.core event
  refine Narrows.after ?_ informed
  refine Narrows.after ?_ (.spawn _ (show Task.grip .clearing = none from rfl))
  refine .of_eq rfl rfl ?_ rfl rfl
  exact slot.trans (congrArg ClientCore.clientConnection (state.inform_core setting event)).symm

theorem handleConnected_narrows (alreadyConnected : Bool) :
    Narrows state (state.handleConnected setting alreadyConnected) := by
  refine Narrows.after ?_ (state.inform_narrows setting .connected)
  refine .of_eq rfl rfl ?_ rfl rfl
  exact (state.handleConnected_slot setting alreadyConnected).trans
    (congrArg ClientCore.clientConnection (state.inform_core setting .connected)).symm

theorem onTerminalEvent_narrows (event : ConnectionEvent) :
    Narrows state (state.onTerminalEvent setting event) := by
  unfold onTerminalEvent
  split
  · exact .spawn state rfl
  · exact state.handleTerminalEvent_narrows setting event

theorem announce_narrows (line : Nat) (event : ConnectionEvent) :
    Narrows state (state.announce setting line event) := by
  unfold announce
  split
  · refine (onTerminalEvent_narrows setting _ event).after ?_
    exact .of_eq (List.length_modify ..) rfl rfl rfl rfl
  · exact .refl state

theorem tryStartHeartbeat_narrows : Narrows state (state.tryStartHeartbeat setting) := by
  unfold tryStartHeartbeat
  split
  · exact .refl state
  · split
    · exact (Narrows.spawn _ (show Task.grip (.heartbeat _ _) = none from rfl)).after
        (.of_eq rfl rfl rfl rfl rfl)
    · exact .refl state

theorem settle_narrows : Narrows state state.settle :=
  .of_eq (by rw [settle_lines, List.length_mapIdx]) rfl rfl rfl rfl

end ClientState

/-! ## The steps of a call -/

namespace ClientState

variable {setting : ClientSetting} {state after : ClientState} {operation : Operation}

/-- A call goes on; each line that it refers to was referred to before. -/
theorem narrows_of_call {next : Operation} (lines : after.lines.length = state.lines.length)
    (connection : ∀ line ∈ after.connection, state.Owned line)
    (slot : ∀ line ∈ after.core.clientConnection, state.Owned line)
    (goesOn : after.operation = some next) (called : ∀ line ∈ next.stage.line, state.Owned line)
    (tasks : after.tasks = state.tasks) : Narrows state after := by
  refine .of_owned lines (fun line owned => ?_) tasks
  obtain isConnection | isSlot | isCalled := owned
  · exact connection line isConnection
  · exact slot line isSlot
  · refine called line ?_
    rw [callLine, goesOn] at isCalled
    exact isCalled

/-- A call that goes on without a line, or returns, takes none with it. -/
theorem Unbinds.narrows (unbinds : Unbinds state operation after)
    (grips : ∀ grip, after.Grips grip → state.Grips grip) : Narrows state after := by
  refine ⟨Nat.le_of_eq (congrArg List.length unbinds.lines).symm, fun line owned => .inl ?_, grips⟩
  obtain isConnection | isSlot | isCalled := owned
  · exact .inl (unbinds.connection ▸ isConnection)
  · exact .inr (.inl (unbinds.slot ▸ isSlot))
  · unfold callLine at isCalled
    obtain ⟨ended, -⟩ | ⟨next, goesOn, -, unbound⟩ := unbinds.outcome
    · rw [ended] at isCalled
      cases isCalled
    · rw [goesOn] at isCalled
      exact absurd (isCalled.symm.trans (Stage.line_of_isUnbound unbound)) (by simp)

theorem grips_of_tasks (tasks : after.tasks = state.tasks) (grip : Nat × Nat)
    (gripped : after.Grips grip) : state.Grips grip := by
  unfold Grips at gripped ⊢
  rwa [tasks] at gripped

theorem owned_of_stage (current : state.operation = some operation) {line : Nat}
    (isLine : operation.stage.line = some line) : state.Owned line :=
  .inr (.inr ((callLine_of_operation current).trans isLine))

theorem proceed_narrows (next : Operation) (stage : Stage)
    (called : ∀ line ∈ stage.line, state.Owned line) :
    Narrows state (state.proceed next stage) :=
  narrows_of_call rfl (fun _ => .inl) (fun _ => .inr ∘ .inl) rfl called rfl

theorem establish_narrows : Narrows state (state.establish setting operation) := by
  have connection : ∀ line ∈ state.connection, state.Owned line := fun _ => .inl
  have slot : ∀ line ∈ state.core.clientConnection, state.Owned line := fun _ => .inr ∘ .inl
  have nobody : ∀ line ∈ (none : Option Nat), state.Owned line := fun _ none => by cases none
  have taken : ∀ {line : Nat}, state.connection = some line →
      ∀ other ∈ some line, state.Owned other := fun isConnection other isOther =>
    .inl (isConnection.trans isOther)
  unfold establish
  split
  next isConnection _ => exact narrows_of_call rfl connection slot rfl (taken isConnection) rfl
  next => exact proceed_narrows operation .dialing nobody
  next isConnection _ => exact narrows_of_call rfl nobody slot rfl (taken isConnection) rfl
  next isConnection _ => exact narrows_of_call rfl nobody slot rfl (taken isConnection) rfl
  next isConnection _ => exact narrows_of_call rfl nobody slot rfl (taken isConnection) rfl
  next isConnection _ => exact narrows_of_call rfl nobody slot rfl (taken isConnection) rfl
  next => exact narrows_of_call rfl connection slot rfl nobody rfl
  next => exact narrows_of_call rfl connection slot rfl nobody rfl

theorem failConnect_narrows (next : Operation) (error : FlareError) :
    Narrows state (state.failConnect setting next error) :=
  Unbinds.narrows (failConnect_unbinds setting state next error)
    (grips_of_tasks (failConnect_tasks setting state next error))

/-- The new line is the only one that is not referred to before. -/
theorem dial_narrows (answer : Answer) : Narrows state (state.dial setting operation answer) := by
  unfold dial
  split
  · refine ⟨?_, fun line owned => ?_, fun grip gripped => gripped⟩
    · exact Nat.le_of_lt (by simp)
    · have new : state.lines.length < (state.lines ++ [(⟨true, false, none⟩ : Line)]).length := by
        simp
      obtain isConnection | isSlot | isCalled := owned
      · dsimp only [proceed] at isConnection
        split at isConnection
        · exact .inr (Option.some.inj isConnection ▸ new)
        · exact .inl (.inl isConnection)
      · exact .inl (.inr (.inl isSlot))
      · exact .inr (Option.some.inj isCalled ▸ new)
  · exact failConnect_narrows operation answer.error

theorem attach_narrows (current : state.operation = some operation) {line : Nat}
    (isLine : operation.stage.line = some line) :
    Narrows state (state.attach setting operation line) := by
  have called : ∀ other ∈ some line, state.Owned other := fun _ isOther =>
    owned_of_stage current (isLine.trans isOther)
  unfold attach
  split
  · exact proceed_narrows operation _ called
  · exact (onTerminalEvent_narrows setting _ _).after (proceed_narrows operation _ called)

theorem watch_narrows (current : state.operation = some operation) {line : Nat}
    (isLine : operation.stage.line = some line) :
    Narrows state (state.watch setting operation line) := by
  have called : ∀ other ∈ some line, state.Owned other := fun _ isOther =>
    owned_of_stage current (isLine.trans isOther)
  unfold watch
  split
  · exact narrows_of_call (List.length_modify ..) (fun _ => .inl) (fun _ => .inr ∘ .inl) rfl called
      rfl
  · exact (onTerminalEvent_narrows setting _ _).after (proceed_narrows operation _ called)

variable [RustText]

theorem greet_narrows (current : state.operation = some operation) {line : Nat} (answer : Answer)
    (isLine : operation.stage.line = some line) :
    Narrows state (state.greet setting operation line answer) := by
  have called : ∀ other ∈ some line, state.Owned other := fun _ isOther =>
    owned_of_stage current (isLine.trans isOther)
  unfold greet
  dsimp only
  split
  · exact narrows_of_call rfl called (fun _ => .inr ∘ .inl) rfl called rfl
  · exact (failConnect_narrows operation _).after (.of_eq rfl rfl rfl rfl rfl)

/-- No step of a call refers to a line that is not there. -/
theorem operate_narrows {answer : Answer} (current : state.operation = some operation)
    (operated : state.operate setting operation answer = some after) : Narrows state after := by
  have nobody : ∀ line ∈ (none : Option Nat), state.Owned line := fun _ none => by cases none
  have own : ∀ line ∈ operation.stage.line, state.Owned line := fun _ => owned_of_stage current
  cases stage : operation.stage <;>
    simp only [ClientState.operate, stage, Option.some.injEq, Option.map_eq_some_iff,
      Option.bind_eq_some_iff] at operated <;>
    rw [stage] at own
  case pausing =>
    subst operated
    refine narrows_of_call rfl nobody (fun _ => .inr ∘ .inl) rfl ?_ rfl
    cases isConnection : state.connection with
    | none => exact nobody
    | some line => exact fun other isOther => .inl (isConnection.trans isOther)
  case retiring line =>
    subst operated
    exact narrows_of_call (List.length_modify ..) (fun _ => .inl) (fun _ => .inr ∘ .inl) rfl own rfl
  case retired line =>
    subst operated
    exact (announce_narrows setting _ line _).after (proceed_narrows operation _ nobody)
  case establishing =>
    subst operated
    exact establish_narrows
  case replacing line =>
    subst operated
    exact narrows_of_call (List.length_modify ..) (fun _ => .inl) (fun _ => .inr ∘ .inl) rfl own rfl
  case replaced line =>
    subst operated
    exact (announce_narrows setting _ line _).after (proceed_narrows operation _ nobody)
  case dialing =>
    subst operated
    exact dial_narrows answer
  case settingUp line =>
    subst operated
    exact narrows_of_call rfl (fun _ => .inl) own rfl own rfl
  case attaching line =>
    subst operated
    exact attach_narrows current (by rw [stage]; rfl)
  case connecting line already =>
    subst operated
    refine Narrows.after (proceed_narrows operation _ ?_)
      (handleConnected_narrows setting state already)
    intro other isOther
    refine .inr (.inr ?_)
    unfold callLine
    rw [(state.handleConnected_undisturbed setting already).operation]
    exact (callLine_of_operation current).trans (stage ▸ isOther)
  case watching line =>
    subst operated
    exact watch_narrows current (by rw [stage]; rfl)
  case greeting line =>
    subst operated
    exact greet_narrows current answer (by rw [stage]; rfl)
  case confirming line =>
    subst operated
    exact proceed_narrows operation _ own
  case announcing line already =>
    subst operated
    refine Unbinds.narrows (state.connectDone_unbinds setting operation already) ?_
    have tasks : (state.connectDone setting operation already).tasks =
        (state.handleConnected setting already).tasks := by
      unfold connectDone
      split <;> simp only [proceed_tasks, finish_tasks]
    exact fun grip gripped => (handleConnected_narrows setting state already).grips grip
      (grips_of_tasks tasks grip gripped)
  case registering =>
    obtain ⟨frame, -, rfl⟩ := operated
    have unbinds := startSend_unbinds setting { state with
      requests := state.requests + 1
      core := { state.core with
        pending := state.core.pending.insert frame.messageId state.requests } }
      { operation with request := some state.requests }
    have tasks : (state.register setting operation frame).tasks = state.tasks :=
      (startSend_sameRecords setting _ _).tasks
    exact Unbinds.narrows (unbinds.of_eq rfl rfl rfl) (grips_of_tasks tasks)
  case sending =>
    obtain ⟨frame, -, rfl⟩ := operated
    refine Unbinds.narrows (state.sendFrame_unbinds setting operation frame answer)
      (grips_of_tasks ?_)
    unfold sendFrame
    split <;> simp only [proceed_tasks, finish_tasks, writes_tasks]
  case waiting request =>
    obtain ⟨frame, -, awaited⟩ := operated
    obtain ⟨core, result, -, slot, rfl⟩ := await_eq_some awaited
    exact (Unbinds.narrows ((finish_unbinds (state.withCore core) operation result).of_eq rfl rfl
      slot) (grips_of_tasks (finish_tasks (state.withCore core) operation result)))
  case disconnecting line =>
    subst operated
    exact narrows_of_call (List.length_modify ..) (fun _ => .inl) (fun _ => .inr ∘ .inl) rfl own rfl
  case disconnected line =>
    subst operated
    exact (announce_narrows setting _ line _).after (proceed_narrows operation _ nobody)
  case leaving =>
    subst operated
    refine Narrows.after (Unbinds.narrows (finish_unbinds _ operation _)
      (grips_of_tasks (finish_tasks _ operation _))) ?_
    exact (handleTerminalEvent_narrows setting _ _).after (.of_eq rfl rfl rfl rfl rfl)

omit [RustText] in
theorem start_narrows (call : Call) : Narrows state (state.start setting call) := by
  have tasks := (state.start_sameRecords setting call).tasks
  by_cases disconnects : call = .disconnect
  · subst disconnects
    refine narrows_of_call rfl (fun _ none => by cases none) (fun _ none => by cases none) rfl ?_
      rfl
    cases isConnection : state.connection with
    | none => exact fun _ none => by cases none
    | some line => exact fun other isOther => .inl (isConnection.trans isOther)
  · obtain ⟨operation, -, unbinds⟩ := start_unbinds setting state disconnects
    exact Unbinds.narrows unbinds (grips_of_tasks tasks)

theorem deliver_narrows (line : Nat) (event : ConnectionEvent) :
    Narrows state (state.deliver setting line event) := by
  cases event with
  | message data =>
      refine Narrows.after (.spawn _ (show Task.grip (.frame ⟨_, _, _, .received⟩) = none from rfl))
        (.of_eq rfl rfl ?_ rfl rfl)
      have slot := deliver_slot setting state line (.message data)
      exact slot
  | connected => exact .refl state
  | disconnected reason => exact announce_narrows setting state line (.disconnected reason)
  | error error => exact announce_narrows setting state line (.error error)

/-- Only tasks take hold of lines. -/
theorem perform_narrows {move : Move} (performed : state.perform setting move = some after)
    (background : ∀ index answer, move ≠ .work index answer) : Narrows state after := by
  cases move with
  | call call =>
      simp only [perform, Option.ite_none_right_eq_some] at performed
      obtain ⟨-, started⟩ := performed
      exact Option.some.inj started ▸ start_narrows call
  | submit frame waits => exact Option.some.inj performed ▸ .of_eq rfl rfl rfl rfl rfl
  | send index answer =>
      obtain ⟨sender, -, sent⟩ := Option.bind_eq_some_iff.mp performed
      obtain only | ⟨-, stage, call, -, rfl⟩ := sendStep_eq_some sent
      · exact .of_eq (congrArg List.length only.lines) only.connection only.clientConnection
          only.operation only.tasks
      · exact (start_narrows call).after (.of_eq rfl rfl rfl rfl rfl)
  | operate answer =>
      obtain ⟨operation, current, operated⟩ := Option.bind_eq_some_iff.mp performed
      exact operate_narrows current operated
  | read line event =>
      simp only [perform, read, Option.ite_none_right_eq_some] at performed
      obtain ⟨-, taken⟩ := performed
      exact Option.some.inj taken ▸ .of_eq (List.length_modify ..) rfl rfl rfl rfl
  | handOver line =>
      obtain ⟨event, -, rfl⟩ := Option.map_eq_some_iff.mp performed
      exact (deliver_narrows line event).after (.of_eq (List.length_modify ..) rfl rfl rfl rfl)
  | work index answer => exact absurd rfl (background index answer)

/-! ## The tasks -/

omit [RustText] in
/-- A task goes on, holding no other line than before. -/
theorem put_narrows {index : Nat} {new : Task}
    (held : ∀ grip, new.grip = some grip → state.Grips grip) :
    Narrows state (state.put index new) := by
  refine ⟨Nat.le_refl _, fun line owned => .inl owned, fun grip gripped => ?_⟩
  obtain ⟨task, member, isGrip⟩ := gripped
  obtain old | rfl := List.mem_or_eq_of_mem_set member
  · exact ⟨task, old, isGrip⟩
  · exact held grip isGrip

theorem work_narrows_of_source {index : Nat} {answer : Answer} {task : Task}
    (other : task.source = none) : Narrows state (state.work setting index answer task) := by
  have done : Narrows state (state.put index .done) := put_narrows fun _ none => by cases none
  cases task with
  | frame task => cases other
  | deferred event => exact (handleTerminalEvent_narrows setting _ event).after done
  | clearing => exact ⟨done.lines, done.owned, done.grips⟩
  | informing event => exact ⟨done.lines, done.owned, done.grips⟩
  | heartbeat line beat =>
      cases beat with
      | beating =>
          simp only [work, ClientState.beat]
          split
          · split
            · exact .refl state
            · exact done
          · exact put_narrows fun _ none => by cases none
      | shutting reason =>
          exact (put_narrows fun _ none => by cases none).after
            (.of_eq (List.length_modify ..) rfl rfl rfl rfl)
      | announcing reason => exact (announce_narrows setting _ line _).after done
  | done => exact .refl state

omit [RustText] in
/-- A frame is handled further; its handler holds what it held, or nothing. -/
theorem advance_narrows {index : Nat} {task : FrameTask}
    (isTask : state.tasks[index]? = some (.frame task)) {stage : Handling}
    (held : ∀ target ∈ stage.line, task.stage.line = some target) :
    Narrows state (state.advance index task stage) := by
  refine put_narrows fun grip isGrip => ⟨_, List.mem_of_getElem? isTask, ?_⟩
  obtain ⟨target, isTarget, rfl⟩ := Option.map_eq_some_iff.mp isGrip
  exact congrArg (Option.map _) (held target isTarget)

omit [RustText] in
theorem callsHandler_narrows (origin : Origin) (call : HandlerCall) :
    Narrows state (state.callsHandler setting origin call) := by
  unfold callsHandler
  split
  · exact .of_eq rfl rfl rfl rfl rfl
  · exact .refl state

omit [RustText] in
/-- A frame is handled further, and what else happens concerns no line. -/
theorem narrows_of_advance {index : Nat} {task : FrameTask}
    (isTask : state.tasks[index]? = some (.frame task)) (stage : Handling)
    (held : ∀ target ∈ stage.line, task.stage.line = some target)
    (tasks : after.tasks = (state.advance index task stage).tasks)
    (lines : after.lines.length = state.lines.length)
    (connection : after.connection = state.connection)
    (slot : after.core.clientConnection = state.core.clientConnection)
    (operation : after.operation = state.operation) : Narrows state after := by
  have rest : Narrows (state.advance index task stage) after :=
    .of_eq lines connection slot operation tasks
  exact rest.after (advance_narrows isTask held)

theorem parseMessage_line (data : Bytes) : (state.parseMessage setting data).line = none := by
  unfold parseMessage
  split <;> rfl

theorem parse_line (task : FrameTask) : (state.parse setting task).line = none := by
  unfold parse
  split
  · exact parseMessage_line task.data
  · split
    · rfl
    · split <;> rfl

omit [RustText] in
theorem dispatch_narrows {index : Nat} {task : FrameTask} {frame : Frame}
    (isTask : state.tasks[index]? = some (.frame task)) :
    Narrows state (state.dispatch setting index task frame) := by
  have goesOn : ∀ {stage : Handling}, stage.line = none →
      Narrows state (state.advance index task stage) := fun free =>
    advance_narrows isTask fun target held => by cases free.symm.trans held
  unfold dispatch
  split
  · exact goesOn rfl
  · split
    all_goals first
      | exact (callsHandler_narrows _ _).after (goesOn rfl)
      | exact goesOn rfl
      | skip
    split
    · exact goesOn rfl
    · exact narrows_of_advance isTask (.delivering frame true) (fun _ none => by cases none) rfl rfl
        rfl rfl rfl

theorem acknowledge_narrows {index : Nat} {task : FrameTask} {frame : Frame}
    (isTask : state.tasks[index]? = some (.frame task)) :
    Narrows state (state.acknowledge setting index task frame) := by
  have completed : ∀ core : ClientCore, core.clientConnection = state.core.clientConnection →
      Narrows state ((state.withCore core).advance index task (.readying frame)) := fun core slot =>
    narrows_of_advance isTask (.readying frame) (fun _ none => by cases none) rfl rfl rfl slot rfl
  simp only [acknowledge]
  split
  · split
    · exact completed _ rfl
    · exact (tryStartHeartbeat_narrows setting _).after (completed _ rfl)
  · exact narrows_of_advance isTask (.negotiationFailed frame _) (fun _ none => by cases none) rfl
      rfl rfl rfl rfl

theorem sendNegotiationReady_narrows (answer : Answer) :
    Narrows state (state.sendNegotiationReady setting answer) := by
  simp only [sendNegotiationReady]
  split
  · split
    · exact .of_eq rfl rfl rfl rfl rfl
    · exact .of_eq rfl rfl rfl rfl rfl
  · exact .of_eq rfl rfl rfl rfl rfl

/-- A frame that does not take the connection out of its slot takes hold of no line. -/
theorem handleFrame_narrows {index : Nat} {task : FrameTask} (answer : Answer)
    (isTask : state.tasks[index]? = some (.frame task))
    (keeps : (Task.frame task).takesConnection = false) :
    Narrows state (state.handleFrame setting index task answer task.stage) := by
  have free : ∀ {held : Option Nat}, ∀ target ∈ (none : Option Nat), held = some target :=
    fun _ none => by cases none
  obtain ⟨line, data, negotiated, stage⟩ := task
  cases stage with
  | received => exact advance_narrows isTask (by rw [parse_line]; exact free)
  | reparsing => exact advance_narrows isTask (by rw [parseMessage_line]; exact free)
  | matching frame =>
      simp only [handleFrame, matchResponse]
      split
      · exact advance_narrows isTask free
      · split
        · exact narrows_of_advance isTask (.responding frame) free rfl rfl rfl rfl rfl
        · exact narrows_of_advance isTask (.dispatching frame) free rfl rfl rfl rfl rfl
  | responding frame => exact narrows_of_advance isTask (.finished frame) free rfl rfl rfl rfl rfl
  | dispatching frame => exact dispatch_narrows isTask
  | acknowledging frame => exact acknowledge_narrows isTask
  | negotiationFailed frame error =>
      exact (handleTerminalEvent_narrows setting _ _).after
        (narrows_of_advance isTask (.delivering frame true) free rfl rfl rfl rfl rfl)
  | readying frame =>
      exact (tryStartHeartbeat_narrows setting _).after
        ((sendNegotiationReady_narrows answer).after (advance_narrows isTask free))
  | kicked frame command => cases keeps
  | kickShutting frame reason target =>
      exact narrows_of_advance isTask (.kickAnnouncing frame reason target) (fun _ held => held) rfl
        (List.length_modify ..) rfl rfl rfl
  | kickAnnouncing frame reason target =>
      exact (announce_narrows setting _ target _).after (advance_narrows isTask free)
  | kickReporting frame reason =>
      simp only [handleFrame, reportKick]
      split
      · exact narrows_of_advance isTask (.delivering frame true) free rfl rfl rfl rfl rfl
      · refine narrows_of_advance isTask (.delivering frame true) free rfl rfl rfl ?_ rfl
        simp only [notifyAll_core, withCore_core, advance_core, ClientCore.takeUnreportedKick]
        split <;> rfl
  | closing frame command =>
      obtain rfl : negotiated = false := keeps
      exact narrows_of_advance isTask (.delivering frame true) free rfl rfl rfl rfl rfl
  | closeShutting frame detail target =>
      exact narrows_of_advance isTask (.closeAnnouncing frame detail target) (fun _ held => held)
        rfl (List.length_modify ..) rfl rfl rfl
  | closeAnnouncing frame detail target =>
      exact (announce_narrows setting _ target _).after (advance_narrows isTask free)
  | delivering frame system =>
      cases system with
      | true => exact narrows_of_advance isTask (.finished frame) free rfl rfl rfl rfl rfl
      | false => exact narrows_of_advance isTask (.handlingBusiness frame) free rfl rfl rfl rfl rfl
  | handlingBusiness frame =>
      simp only [handleFrame, handleBusiness]
      cases businessCall frame with
      | none => exact advance_narrows isTask free
      | some call => exact (callsHandler_narrows _ _).after (advance_narrows isTask free)
  | finished frame | dropped => exact .refl state

theorem handleFrame_takes_lines {index : Nat} {task : FrameTask} (answer : Answer)
    (takes : (Task.frame task).takesConnection = true) :
    (state.handleFrame setting index task answer task.stage).lines = state.lines := by
  obtain ⟨own, data, negotiated, stage⟩ := task
  cases stage with
  | kicked frame command =>
      simp only [handleFrame, kick]
      split <;> rfl
  | closing frame command =>
      obtain rfl : negotiated = true := takes
      simp only [handleFrame, handleClose, if_true]
      split <;> rfl
  | _ => cases takes

/-- A frame that takes the connection out of its slot: its handler takes hold of that line and of
no other. -/
theorem handleFrame_takes {index : Nat} {task : FrameTask} (answer : Answer)
    (isTask : state.tasks[index]? = some (.frame task))
    (takes : (Task.frame task).takesConnection = true) {line : Nat}
    (slot : state.core.clientConnection = some line) (grip : Nat × Nat)
    (gripped : (state.handleFrame setting index task answer task.stage).Grips grip) :
    state.Grips grip ∨ grip = (task.line, line) := by
  have held : ∀ {stage : Handling}, stage.line = some line →
      (state.advance index task stage).Grips grip →
      state.Grips grip ∨ grip = (task.line, line) := by
    rintro stage isLine ⟨other, member, isGrip⟩
    obtain old | rfl := List.mem_or_eq_of_mem_set member
    · exact .inl ⟨other, old, isGrip⟩
    · refine .inr (Option.some.inj (isGrip.symm.trans ?_))
      exact congrArg (Option.map _) isLine
  obtain ⟨own, data, negotiated, stage⟩ := task
  cases stage with
  | kicked frame command =>
      simp only [handleFrame, kick, slot] at gripped
      exact held rfl gripped
  | closing frame command =>
      obtain rfl : negotiated = true := takes
      simp only [handleFrame, handleClose, slot] at gripped
      exact held rfl gripped
  | _ => cases takes

theorem handleFrame_takes_none {index : Nat} {task : FrameTask} (answer : Answer)
    (isTask : state.tasks[index]? = some (.frame task))
    (takes : (Task.frame task).takesConnection = true)
    (slot : state.core.clientConnection = none) :
    Narrows state (state.handleFrame setting index task answer task.stage) := by
  obtain ⟨own, data, negotiated, stage⟩ := task
  cases stage with
  | kicked frame command =>
      simp only [handleFrame, kick, slot]
      exact narrows_of_advance isTask (.kickReporting frame _) (fun _ none => by cases none) rfl rfl
        rfl slot.symm rfl
  | closing frame command =>
      obtain rfl : negotiated = true := takes
      simp only [handleFrame, handleClose, slot]
      exact narrows_of_advance isTask (.delivering frame true) (fun _ none => by cases none) rfl rfl
        rfl slot.symm rfl
  | _ => cases takes

end ClientState

/-! ## The newest line -/

/-- Every reference is to a line that exists, and only a frame that was read on the newest line has
its handler close that line. -/
structure ClientState.Apart (state : ClientState) : Prop where
  owned : ∀ line, state.Owned line → line < state.lines.length
  gripped : ∀ own target, state.Grips (own, target) → target < state.lines.length
  newest : ∀ own target, state.Grips (own, target) → target + 1 = state.lines.length →
    state.lines.length ≤ own + 1

/-- A line that is open is referred to. -/
def ClientState.NothingDangles (state : ClientState) : Prop :=
  ∀ line, state.isLive line = true → state.isHeld line = true

namespace ClientState

variable {setting : ClientSetting} {state after : ClientState}

theorem settle_nothingDangles : state.settle.NothingDangles := by
  intro line live
  simp only [isLive, settle_lines, List.getElem?_mapIdx, Option.any_map, Option.any_eq_true] at live
  obtain ⟨current, -, isLive⟩ := live
  split at isLive
  · assumption
  · cases isLive

theorem Apart.narrows (apart : state.Apart) (narrows : Narrows state after) : after.Apart where
  owned line owned := by
    obtain owned | exists_ := narrows.owned line owned
    · exact Nat.lt_of_lt_of_le (apart.owned line owned) narrows.lines
    · exact exists_
  gripped own target gripped :=
    Nat.lt_of_lt_of_le (apart.gripped own target (narrows.grips _ gripped)) narrows.lines
  newest own target gripped isNewest := by
    -- a line that a handler closes is the newest only if no line has come since
    have earlier := narrows.grips _ gripped
    have exists_ := apart.gripped own target earlier
    have lines := narrows.lines
    have old := apart.newest own target earlier (by omega)
    omega

variable [RustText]

/-- A frame of an earlier line does not take the newest one. -/
theorem Apart.takes {index : Nat} {task : FrameTask} {answer : Answer} (apart : state.Apart)
    (isTask : state.tasks[index]? = some (.frame task))
    (takes : (Task.frame task).takesConnection = true)
    (contained : task.line + 1 < state.lines.length → state.holdsNewest = false) :
    (state.handleFrame setting index task answer task.stage).Apart := by
  cases slot : state.core.clientConnection with
  | none => exact apart.narrows (handleFrame_takes_none answer isTask takes slot)
  | some line =>
      have beside : Beside state (state.handleFrame setting index task answer task.stage) :=
        work_beside index answer (.frame task)
      have lines : (state.handleFrame setting index task answer task.stage).lines = state.lines :=
        handleFrame_takes_lines answer takes
      have grips : ∀ grip, (state.handleFrame setting index task answer task.stage).Grips grip →
          state.Grips grip ∨ grip = (task.line, line) :=
        handleFrame_takes answer isTask takes slot
      have inSlot : line < state.lines.length := apart.owned line (.inr (.inl slot))
      refine ⟨fun other owned => ?_, fun own target gripped => ?_, fun own target gripped => ?_⟩
      · rw [lines]
        refine apart.owned other ?_
        obtain isConnection | isSlot | isCalled := owned
        · exact .inl (beside.connection ▸ isConnection)
        · exact .inr (.inl (beside.slot other isSlot))
        · exact .inr (.inr (callLine_of_beside beside ▸ isCalled))
      · rw [lines]
        obtain earlier | new := grips _ gripped
        · exact apart.gripped own target earlier
        · cases new
          exact inSlot
      · rw [lines]
        obtain earlier | new := grips _ gripped
        · exact apart.newest own target earlier
        · cases new
          intro isNewest
          by_contra late
          have free := contained (by omega)
          simp [holdsNewest, slot, isNewest] at free

/-- Without the steps that take the newest line, the lines stay apart. -/
theorem Apart.perform {move : Move} {sources : Sources} (apart : state.Apart)
    (contained : Contained setting (state, sources) move)
    (performed : state.perform setting move = some after) : after.Apart := by
  by_cases background : ∃ index answer, move = .work index answer
  · obtain ⟨index, answer, rfl⟩ := background
    obtain ⟨task, isTask, rfl⟩ := Option.map_eq_some_iff.mp performed
    obtain ⟨isTask, -⟩ := Option.filter_eq_some_iff.mp isTask
    cases task with
    | frame task =>
        cases takes : (Task.frame task).takesConnection with
        | false => exact apart.narrows (handleFrame_narrows answer isTask takes)
        | true =>
            refine apart.takes isTask takes fun late => ?_
            have isLate : state.isLate sources (.work index answer) = true := by
              simp [isLate, subject, isTask, late]
            have kept := (contained isLate).1
            simpa [takesNewest, isTask, takes] using kept
    | deferred event | clearing | informing event | heartbeat line beat | done =>
        exact apart.narrows (work_narrows_of_source rfl)
  · exact apart.narrows (perform_narrows performed fun index answer isWork =>
      background ⟨index, answer, isWork⟩)

end ClientState

/-! ## A late step -/

namespace Spared

variable {line : Nat} {before after : ClientState}

/-- Nothing that concerns a connection changes in the core. -/
theorem of_eq (live : before.isLive line = true → after.isLive line = true)
    (state : after.core.state = before.core.state)
    (negotiation : after.core.negotiationCompleted = before.core.negotiationCompleted)
    (parser : after.core.parser = before.core.parser)
    (heartbeat : after.core.heartbeat = before.core.heartbeat)
    (pending : after.core.pending = before.core.pending) : Spared line before after where
  live := live
  state := state
  negotiation := negotiation
  parser := parser
  heartbeat beat isBeat := heartbeat.trans isBeat
  pending id request registered _ := .inl (by rw [pending]; exact registered)

theorem of_core (live : before.isLive line = true → after.isLive line = true)
    (core : after.core = before.core) : Spared line before after :=
  of_eq live (congrArg _ core) (congrArg _ core) (congrArg _ core) (congrArg _ core)
    (congrArg _ core)

/-- Nothing changes for a connection, apart from its requests, which nobody waits for. -/
theorem of_unawaited (live : before.isLive line = true → after.isLive line = true)
    (state : after.core.state = before.core.state)
    (negotiation : after.core.negotiationCompleted = before.core.negotiationCompleted)
    (parser : after.core.parser = before.core.parser)
    (heartbeat : after.core.heartbeat = before.core.heartbeat)
    (unawaited : before.hasAwaited = false) : Spared line before after where
  live := live
  state := state
  negotiation := negotiation
  parser := parser
  heartbeat beat isBeat := heartbeat.trans isBeat
  pending id request registered awaited := by
    have member := AList.mem_lookup_iff.mp registered
    have nobody := List.any_eq_false.mp unawaited _ member
    exact absurd awaited nobody

/-- What happens first concerns neither the core nor a line. -/
theorem after_same {middle : ClientState} (spared : Spared line middle after)
    (core : middle.core = before.core) (lines : middle.lines = before.lines)
    (operation : middle.operation = before.operation) : Spared line before after where
  live live := spared.live (by unfold ClientState.isLive at live ⊢; rwa [lines])
  state := spared.state.trans (congrArg _ core)
  negotiation := spared.negotiation.trans (congrArg _ core)
  parser := spared.parser.trans (congrArg _ core)
  heartbeat beat isBeat := spared.heartbeat beat (core ▸ isBeat)
  pending id request registered awaited := by
    refine spared.pending id request (core ▸ registered) ?_
    unfold ClientState.isAwaited at awaited ⊢
    rwa [operation]

end Spared

namespace ClientState

variable {setting : ClientSetting} {state after : ClientState}

theorem isLive_of_lines (lines : after.lines = state.lines) {line : Nat}
    (live : state.isLive line = true) : after.isLive line = true := by
  unfold isLive at live ⊢
  rwa [lines]

/-- A line that is changed, and not closed, and all other lines stay open. -/
theorem isLive_of_modify {target line : Nat} {change : Line → Line}
    (lines : after.lines = state.lines.modify target change)
    (keeps : target = line → ∀ line, (change line).live = line.live)
    (live : state.isLive line = true) : after.isLive line = true := by
  simp only [isLive, lines, List.getElem?_modify, Option.any_eq_true] at live ⊢
  obtain ⟨current, isCurrent, isLive⟩ := live
  refine ⟨_, Option.map_eq_some_iff.mpr ⟨current, isCurrent, rfl⟩, ?_⟩
  split
  next isTarget => exact (keeps isTarget current).trans isLive
  next => exact isLive

theorem shut_isLive {target line : Nat} (other : target ≠ line) (live : state.isLive line = true) :
    (state.shut target).isLive line = true :=
  isLive_of_modify rfl (fun same => absurd same other) live

/-- The end of a connection is left to a task, or nobody hears of it. -/
theorem announce_of_endsAt {target : Nat} (event : ConnectionEvent)
    (left : state.endsAt target = false) :
    (state.announce setting target event).core = state.core ∧
      ∀ line, state.isLive line = true →
        (state.announce setting target event).isLive line = true := by
  unfold announce
  split
  next attached =>
    have defers : state.shouldDefer = true := by
      simpa [endsAt, attached] using left
    have deferred : ({ state with
        lines := state.lines.modify target fun line => { line with attached := false }
        } : ClientState).shouldDefer = true := defers
    unfold onTerminalEvent
    rw [if_pos deferred]
    exact ⟨rfl, fun line live => isLive_of_modify rfl (fun _ _ => rfl) live⟩
  next => exact ⟨rfl, fun _ live => live⟩

/-- A task that goes on leaves the ends of connections waiting if it was waited for, and still
is. -/
theorem shouldDefer_put {index : Nat} {old new : Task} (isTask : state.tasks[index]? = some old)
    (stays : old.inFlight = true → new.inFlight = true) (defers : state.shouldDefer = true) :
    (state.put index new).shouldDefer = true := by
  simp only [shouldDefer, put_core, put_tasks, Bool.and_eq_true] at defers ⊢
  refine ⟨defers.1, ?_⟩
  obtain ⟨task, member, inFlight⟩ := List.any_eq_true.mp defers.2
  obtain ⟨other, isOther⟩ := List.mem_iff_getElem?.mp member
  refine List.any_eq_true.mpr ?_
  by_cases same : index = other
  · subst same
    obtain rfl := Option.some.inj (isOther.symm.trans isTask)
    have inside : index < state.tasks.length := (List.getElem?_eq_some_iff.mp isTask).1
    exact ⟨new, List.mem_iff_getElem?.mpr ⟨index, List.getElem?_set_self inside⟩, stays inFlight⟩
  · refine ⟨task, List.mem_iff_getElem?.mpr ⟨other, ?_⟩, inFlight⟩
    rw [List.getElem?_set_ne same]
    exact isOther

/-- The end of a connection is left to a task after the task that reports it has gone on. -/
theorem endsAt_put {index target : Nat} {old new : Task} (isTask : state.tasks[index]? = some old)
    (stays : old.inFlight = true → new.inFlight = true) (left : state.endsAt target = false) :
    (state.put index new).endsAt target = false := by
  simp only [endsAt, Bool.and_eq_false_iff, Bool.not_eq_false'] at left ⊢
  obtain unattached | defers := left
  · exact .inl unattached
  · exact .inr (shouldDefer_put isTask stays defers)

/-- Another task, or none, is the heartbeat of the core; a heartbeat that runs is kept. -/
theorem tryStartHeartbeat_spares (line : Nat) :
    Spared line state (state.tryStartHeartbeat setting) := by
  unfold tryStartHeartbeat
  split
  · exact .of_core id rfl
  · split
    next stopped =>
      refine ⟨id, rfl, rfl, rfl, fun beat isBeat => ?_, fun _ _ registered _ => .inl registered⟩
      rw [isBeat] at stopped
      exact absurd stopped.2.2 (by simp)
    next => exact .of_core id rfl

/-- A response goes to the call that waits for it. -/
theorem matchResponse_spares {index : Nat} {task : FrameTask} {frame : Frame} (line : Nat) :
    Spared line state (state.matchResponse index task frame) := by
  unfold matchResponse
  split
  · exact .of_core id rfl
  next request registered =>
    have erased : ∀ (id : String) (other : Nat), state.core.pending.lookup id = some other →
        id ≠ frame.messageId →
        (state.core.pending.erase frame.messageId).lookup id = some other := by
      intro id other found ne
      exact (AList.lookup_erase_ne ne).trans found
    split
    · refine ⟨id, rfl, rfl, rfl, fun _ isBeat => isBeat, fun id other found _ => ?_⟩
      by_cases same : id = frame.messageId
      · subst same
        obtain rfl := Option.some.inj (registered.symm.trans found)
        exact .inr ⟨frame, List.mem_append_right _ (List.mem_singleton.mpr rfl)⟩
      · exact .inl (erased id other found same)
    next unawaited =>
      refine ⟨id, rfl, rfl, rfl, fun _ isBeat => isBeat, fun id other found awaited => ?_⟩
      by_cases same : id = frame.messageId
      · subst same
        obtain rfl := Option.some.inj (registered.symm.trans found)
        exact absurd awaited unawaited
      · exact .inl (erased id other found same)

theorem dispatch_spares {index : Nat} {task : FrameTask} {frame : Frame} (line : Nat) :
    Spared line state (state.dispatch setting index task frame) := by
  have calls : ∀ {stage : Handling} {call : HandlerCall}, Spared line state
      ((state.advance index task stage).callsHandler setting (task.origin index) call) := by
    intro stage call
    refine .of_core (fun live => ?_) (callsHandler_core setting _ _ _)
    exact isLive_of_lines (callsHandler_lines setting (state.advance index task stage) _ _) live
  unfold dispatch
  split
  · exact .of_core id rfl
  · split
    all_goals first
      | exact calls
      | exact .of_core id rfl
      | skip
    split
    · exact .of_core id rfl
    · exact .of_eq id rfl rfl rfl rfl rfl

variable [RustText]

/-- The acknowledgement tells the client nothing new, or cannot be read while no heartbeat runs. -/
theorem acknowledge_spares {index : Nat} {task : FrameTask} {frame : Frame} (line : Nat)
    (quiet : state.stageIntrudes setting (.acknowledging frame) = false) :
    Spared line state (state.acknowledge setting index task frame) := by
  cases acked : handleConnectAck frame with
  | ok profile =>
      simp only [stageIntrudes, acked, Bool.or_eq_false_iff, Bool.not_eq_false',
        Bool.and_eq_false_iff, decide_eq_false_iff_not, not_not] at quiet
      obtain ⟨negotiated, parser⟩ := quiet
      have same : state.core.completeNegotiation setting.config profile = state.core := by
        have kept : (if setting.config.isForceFormat then state.core.parser else profile.parser) =
            state.core.parser := by
          split
          · rfl
          next chosen => exact (parser.resolve_left chosen).symm
        unfold ClientCore.completeNegotiation
        rw [kept, ← negotiated]
      simp only [acknowledge, acked, same]
      split
      · exact .of_core id rfl
      · exact (tryStartHeartbeat_spares line).after_same rfl rfl rfl
  | error error =>
      have stopped : state.core.heartbeat = none := by
        simpa [stageIntrudes, acked] using quiet
      simp only [acknowledge, acked]
      exact .of_eq id rfl rfl rfl stopped.symm rfl

/-- A frame of an earlier connection, in a stage that does not act on the newest one. -/
theorem handleFrame_spares {index line : Nat} {task : FrameTask} (answer : Answer)
    (isTask : state.tasks[index]? = some (.frame task)) (elsewhere : task.stage.line ≠ some line)
    (quiet : state.stageIntrudes setting task.stage = false) :
    Spared line state (state.handleFrame setting index task answer task.stage) := by
  have announces : ∀ {target : Nat} {stage : Handling} (event : ConnectionEvent),
      task.stage.inFlight = true → stage.inFlight = true → state.endsAt target = false →
      Spared line state ((state.advance index task stage).announce setting target event) := by
    intro target stage event _ inFlight left
    have still : (state.advance index task stage).endsAt target = false :=
      endsAt_put isTask (fun _ => inFlight) left
    exact .of_core ((announce_of_endsAt event still).2 line) (announce_of_endsAt event still).1
  cases stage : task.stage with
  | received | reparsing | responding frame | delivering frame system | finished frame | dropped =>
      exact .of_core id rfl
  | matching frame => exact matchResponse_spares line
  | dispatching frame => exact dispatch_spares line
  | acknowledging frame => exact acknowledge_spares line (stage ▸ quiet)
  | negotiationFailed frame error | kicked frame command =>
      rw [stage] at quiet
      cases quiet
  | readying frame =>
      have sent : ∀ middle : ClientState, Spared line (middle.sendNegotiationReady setting answer)
          ((middle.sendNegotiationReady setting answer).tryStartHeartbeat setting) :=
        fun middle => tryStartHeartbeat_spares line
      refine (sent (state.advance index task (.delivering frame true))).after_same ?_ ?_ ?_ <;>
      · simp only [sendNegotiationReady]
        split
        · split <;> rfl
        · rfl
  | kickShutting frame reason target | closeShutting frame detail target =>
      have other : target ≠ line := fun same => elsewhere (by rw [stage, same]; rfl)
      exact .of_core (shut_isLive other) rfl
  | kickAnnouncing frame reason target | closeAnnouncing frame detail target =>
      rw [stage] at quiet
      exact announces _ (by rw [stage]; rfl) rfl quiet
  | kickReporting frame reason =>
      rw [stage] at quiet
      simp only [handleFrame, reportKick]
      split
      · exact .of_unawaited id rfl rfl rfl rfl quiet
      · simp only [ClientCore.takeUnreportedKick]
        split <;> exact .of_unawaited id rfl rfl rfl rfl quiet
  | closing frame command =>
      simp only [handleFrame, handleClose]
      split
      · split <;> exact .of_eq id rfl rfl rfl rfl rfl
      · exact .of_eq id rfl rfl rfl rfl rfl
  | handlingBusiness frame =>
      simp only [handleFrame, handleBusiness]
      cases businessCall frame with
      | none => exact .of_core id rfl
      | some call =>
          refine .of_core (fun live => ?_) (callsHandler_core setting _ _ _)
          exact isLive_of_lines (callsHandler_lines setting (state.advance index task _) _ _) live

omit [RustText] in
theorem isRetained_of_append {new : List Task} {line : Nat}
    (tasks : after.tasks = state.tasks ++ new) (retained : state.isRetained line = true) :
    after.isRetained line = true := by
  unfold isRetained at retained ⊢
  rw [tasks, List.any_append, retained]
  rfl

omit [RustText] in
/-- A task that goes on does not hold the line, and the others hold what they held. -/
theorem isRetained_put {index line : Nat} {old new : Task}
    (isTask : state.tasks[index]? = some old) (elsewhere : old.line ≠ some line)
    (retained : state.isRetained line = true) : (state.put index new).isRetained line = true := by
  obtain ⟨task, member, isLine⟩ := List.any_eq_true.mp retained
  obtain ⟨other, isOther⟩ := List.mem_iff_getElem?.mp member
  have different : index ≠ other := by
    rintro rfl
    obtain rfl := Option.some.inj (isOther.symm.trans isTask)
    exact elsewhere (of_decide_eq_true isLine)
  refine List.any_eq_true.mpr ⟨task, List.mem_iff_getElem?.mpr ⟨other, ?_⟩, isLine⟩
  exact (List.getElem?_set_ne different).trans isOther

/-- A step of a task that does not hold a line leaves it to those that do. -/
theorem work_isRetained {index line : Nat} {answer : Answer} {task : Task}
    (isTask : state.tasks[index]? = some task) (elsewhere : task.line ≠ some line)
    (retained : state.isRetained line = true) :
    (state.work setting index answer task).isRetained line = true := by
  have goesOn : ∀ {new : Task}, (state.put index new).isRetained line = true :=
    isRetained_put isTask elsewhere retained
  have beside : task.source = none →
      (state.work setting index answer task).isRetained line = true := by
    intro other
    obtain quiet | ⟨new, -, quiet⟩ := state.work_quiet setting index answer other
    · obtain ⟨added, tasks⟩ := quiet.tasks
      exact isRetained_of_append tasks retained
    · obtain ⟨added, tasks⟩ := quiet.tasks
      exact isRetained_of_append tasks goesOn
  cases task with
  | frame task =>
      cases inFlight : task.stage.inFlight with
      | false =>
          have idle : state.work setting index answer (.frame task) = state :=
            handleFrame_of_idle setting state inFlight
          rw [idle]
          exact retained
      | true =>
          obtain ⟨stage, new, -, tasks⟩ :=
            (state.handleFrame_frameStep setting index task answer inFlight).tasks
          have advanced : (state.put index (.frame { task with stage := stage })).isRetained line =
            true := goesOn
          have added : (state.work setting index answer (.frame task)).tasks =
            (state.put index (.frame { task with stage := stage })).tasks ++ new := tasks
          exact isRetained_of_append added advanced
  | deferred event | clearing | informing event | heartbeat target beat | done => exact beside rfl

omit [RustText] in
/-- A task of an earlier line does not hold the newest one. -/
theorem Apart.line_ne {index line : Nat} {answer : Answer} {task : Task} {sources : Sources}
    (apart : state.Apart) (isTask : state.tasks[index]? = some task)
    (late : state.isLate sources (.work index answer) = true)
    (isNewest : line + 1 = state.lines.length) : task.line ≠ some line := by
  intro isLine
  cases task with
  | frame task =>
      have gripped : state.Grips (task.line, line) := by
        refine ⟨_, List.mem_of_getElem? isTask, ?_⟩
        exact congrArg (Option.map _) (show task.stage.line = some line from isLine)
      have own := apart.newest task.line line gripped isNewest
      simp only [isLate, subject, isTask, Option.any_some, decide_eq_true_eq] at late
      omega
  | heartbeat target beat =>
      obtain rfl := Option.some.inj isLine
      simp only [isLate, subject, isTask, Option.any_some, decide_eq_true_eq] at late
      omega
  | deferred event | clearing | informing event | done => cases isLine

/-- What is left of an earlier connection and does not act on the newest one. -/
theorem work_spares {index line : Nat} {answer : Answer} {task : Task}
    (isTask : state.tasks[index]? = some task) (elsewhere : task.line ≠ some line)
    (quiet : state.intrudes setting (.work index answer) = false) :
    Spared line state (state.work setting index answer task) := by
  simp only [intrudes, isTask] at quiet
  cases task with
  | frame task => exact handleFrame_spares answer isTask elsewhere quiet
  | deferred event => cases quiet
  | clearing => exact .of_unawaited id rfl rfl rfl rfl quiet
  | informing event | done => exact .of_core id rfl
  | heartbeat target beat =>
      cases beat with
      | beating =>
          simp only [work, ClientState.beat]
          split
          · split <;> exact .of_core id rfl
          · exact .of_core id rfl
      | shutting reason =>
          have other : target ≠ line := fun same => elsewhere (congrArg some same)
          exact .of_core (shut_isLive other) rfl
      | announcing reason =>
          have left : (state.put index .done).endsAt target = false :=
            endsAt_put isTask (fun inFlight => inFlight) quiet
          obtain ⟨core, lines⟩ := announce_of_endsAt (.disconnected reason) left
          exact .of_core (lines line) core

/-- An event of an earlier connection whose end is left to a task. -/
theorem handOver_spares {source line : Nat} (handed : state.handOver setting source = some after)
    (quiet : state.intrudes setting (.handOver source) = false) : Spared line state after := by
  obtain ⟨event, isEvent, rfl⟩ := Option.map_eq_some_iff.mp handed
  have cleared : ∀ {other : Nat}, state.isLive other = true →
      (state.clearReading source).isLive other = true :=
    isLive_of_modify rfl fun _ _ => rfl
  have announces : event.isTerminal = true → Spared line state
      ((state.clearReading source).announce setting source event) := by
    intro terminal
    have left : (state.clearReading source).endsAt source = false := by
      simp only [intrudes, isEvent, Option.any_some, terminal, Bool.true_and] at quiet
      rw [← quiet]
      simp only [endsAt, isAttached, clearReading_lines, List.getElem?_modify, if_true]
      cases state.lines[source]? <;> rfl
    obtain ⟨core, lines⟩ := announce_of_endsAt event left
    exact .of_core (fun live => lines line (cleared live)) core
  cases event with
  | connected => exact .of_core cleared rfl
  | disconnected reason => exact announces rfl
  | error error => exact announces rfl
  | message data =>
      simp only [deliver, receive]
      split
      · exact .of_core cleared rfl
      · cases setting.rejection data with
        | none => exact .of_core cleared rfl
        | some command => exact .of_eq cleared rfl rfl rfl rfl rfl

/-- Nothing that is left of an earlier connection drops the newest one. -/
theorem isHeld_of_late {move : Move} {sources : Sources} {line : Nat} (apart : state.Apart)
    (late : state.isLate sources move = true) (kept : state.takesNewest move = false)
    (isNewest : line + 1 = state.lines.length)
    (performed : state.perform setting move = some after) (held : state.isHeld line = true) :
    after.isHeld line = true := by
  have places : ∀ {later : ClientState}, Beside state later →
      (state.core.clientConnection = some line → later.core.clientConnection = some line) →
      (state.isRetained line = true → later.isRetained line = true) →
      later.isHeld line = true := by
    intro later beside slot retained
    refine isHeld_iff.mpr ?_
    obtain (isConnection | isSlot | isCalled) | isRetained := isHeld_iff.mp held
    · exact .inl (.inl (beside.connection.trans isConnection))
    · exact .inl (.inr (.inl (slot isSlot)))
    · exact .inl (.inr (.inr ((callLine_of_beside beside).trans isCalled)))
    · exact .inr (retained isRetained)
  cases move with
  | handOver source =>
      obtain ⟨beside, slot⟩ := handOver_beside performed
      have quiet : Quiet state after := perform_quiet setting performed fun _ _ isWork => by
        cases isWork
      obtain ⟨new, tasks⟩ := quiet.tasks
      exact places beside slot.trans (isRetained_of_append tasks)
  | work index answer =>
      obtain ⟨task, isTask, rfl⟩ := Option.map_eq_some_iff.mp performed
      obtain ⟨isTask, -⟩ := Option.filter_eq_some_iff.mp isTask
      refine places (work_beside index answer task) (fun isSlot => ?_)
        (work_isRetained isTask (apart.line_ne isTask late isNewest))
      have stays : task.takesConnection = false := by
        simpa [takesNewest, isTask, holdsNewest, isSlot, isNewest] using kept
      rw [work_slot, stays]
      exact isSlot
  | call call | submit frame waits | send index answer | operate answer | read source event =>
      cases late

omit [RustText] in
/-- A line that is referred to is not dropped. -/
theorem settle_isLive {line : Nat} (live : state.isLive line = true)
    (held : state.isHeld line = true) : state.settle.isLive line = true := by
  unfold isLive at live ⊢
  rw [settle_lines, List.getElem?_mapIdx, Option.any_map]
  simp only [held]
  exact live

/-- A late step that does not act on the newest connection spares it. -/
theorem step_spares {move : Move} {sources : Sources} {line : Nat} (apart : state.Apart)
    (settled : state.NothingDangles) (late : state.isLate sources move = true)
    (kept : state.takesNewest move = false) (quiet : state.intrudes setting move = false)
    (isNewest : line + 1 = state.lines.length) (stepped : state.step setting move = some after) :
    Spared line state after := by
  obtain ⟨performed, isPerformed, rfl⟩ := Option.map_eq_some_iff.mp stepped
  have spared : Spared line state performed := by
    cases move with
    | handOver source => exact handOver_spares isPerformed quiet
    | work index answer =>
        obtain ⟨task, isTask, rfl⟩ := Option.map_eq_some_iff.mp isPerformed
        obtain ⟨isTask, -⟩ := Option.filter_eq_some_iff.mp isTask
        exact work_spares isTask (apart.line_ne isTask late isNewest) quiet
    | call call | submit frame waits | send index answer | operate answer | read source event =>
        cases late
  refine ⟨fun live => ?_, spared.state, spared.negotiation, spared.parser, spared.heartbeat,
    spared.pending⟩
  exact settle_isLive (spared.live live)
    (isHeld_of_late apart late kept isNewest isPerformed (settled line live))

omit [RustText] in
theorem apart_of_isInitial {start : ClientState} (initial : start.IsInitial setting.config) :
    start.Apart ∧ start.NothingDangles := by
  have idle : ∀ {state : ClientState}, state.tasks = [] → ∀ grip, ¬ state.Grips grip := by
    rintro state tasks grip ⟨task, member, -⟩
    rw [tasks] at member
    cases member
  obtain rfl | rfl := initial
  · refine ⟨⟨fun line owned => ?_, fun own target gripped => (idle rfl _ gripped).elim,
      fun own target gripped => (idle rfl _ gripped).elim⟩, fun line live => ?_⟩
    · obtain isConnection | isSlot | isCalled := owned
      · cases isConnection
      · cases isSlot
      · cases isCalled
    · cases live
  · refine ⟨⟨fun line owned => ?_, fun own target gripped => (idle rfl _ gripped).elim,
      fun own target gripped => (idle rfl _ gripped).elim⟩, fun line live => ?_⟩
    · obtain isConnection | isSlot | isCalled := owned
      · cases isConnection
        exact Nat.zero_lt_one
      · cases isSlot
      · cases isCalled
    · cases line with
      | zero => rfl
      | succ line => cases live

end ClientState

section Runs

variable [RustText]

/-- **What is left of an earlier connection never acts on a newer one that is established**: in
every run in which nothing of an earlier connection takes the newest one out of its slot, or acts
on it once it is established, a step that handles a frame or an event of an earlier connection
neither closes the newest one nor marks it as negotiated or disconnected, and its parser, its
heartbeat and the requests that wait on it stay. -/
theorem late_work_spares_new_connection (setting : ClientSetting) {start : ClientState}
    {state next : ClientState × Sources} (initial : start.IsInitial setting.config)
    (reached : (tracedClient setting).Reaches (Contained setting) (start, []) state) {move : Move}
    (contained : Contained setting state move) (established : state.1.isEstablished = true)
    (late : state.1.isLate state.2 move = true)
    (stepped : (tracedClient setting).step state move = some next) :
    Spared (state.1.lines.length - 1) state.1 next.1 := by
  have invariant : state.1.Apart ∧ state.1.NothingDangles := by
    refine System.Reaches.invariant
      (I := fun state : ClientState × Sources => state.1.Apart ∧ state.1.NothingDangles) reached
      (ClientState.apart_of_isInitial initial) ?_
    rintro before after ⟨move, contained, stepped⟩ ⟨apart, -⟩
    obtain ⟨taken, -⟩ := System.recording_step_eq_some stepped
    obtain ⟨performed, isPerformed, settled⟩ := Option.map_eq_some_iff.mp taken
    rw [← settled]
    exact ⟨(apart.perform contained isPerformed).narrows performed.settle_narrows,
      ClientState.settle_nothingDangles⟩
  obtain ⟨kept, quiet⟩ := contained late
  obtain ⟨taken, -⟩ := System.recording_step_eq_some stepped
  obtain ⟨line, -, followed⟩ := (Option.any_eq_true _ _).mp late
  have isNewest : state.1.lines.length - 1 + 1 = state.1.lines.length := by
    have exists_ := of_decide_eq_true followed
    omega
  exact ClientState.step_spares invariant.1 invariant.2 late kept (quiet established) isNewest taken

end Runs

/-! ## Concrete runs -/

section Examples

open scoped AsciiText

/-- A frame is read, and its task has not run when the application disconnects and connects
again. -/
def connectsBehind (frame : Frame) : List Move :=
  connectsAndNegotiates ++ arrives 0 frame ++ .call .disconnect :: operates 3 ++
    .call .connect :: operates 9

/-- The first step of a late acknowledgement: the theorem applies. -/
theorem late_work_spares_new_connection_parsing :
    ∃ state next, (tracedClient kickable).Reaches (Contained kickable) (.new kickable.config, [])
        state ∧ (tracedClient kickable).step state (.work 4 granted) = some next ∧
      state.1.isLate state.2 (.work 4 granted) = true ∧ state.1.isEstablished = true ∧
      state.1.isLive 1 = true ∧ Spared 1 state.1 next.1 := by
  have run : ((tracedClient kickable).run (.new kickable.config, []) (connectsBehind plainAck)).any
      (fun state => decide (((tracedClient kickable).step state (.work 4 granted)).isSome = true ∧
        state.1.isLate state.2 (.work 4 granted) = true ∧ state.1.isEstablished = true ∧
        state.1.isLive 1 = true ∧ state.1.lines.length = 2 ∧
        Contained kickable state (.work 4 granted))) = true := by
    decide +kernel
  have permitted : (tracedClient kickable).Permits (Contained kickable) (.new kickable.config, [])
      (connectsBehind plainAck) := by
    decide +kernel
  obtain ⟨state, reached, holds⟩ := System.exists_reaches_of_run run permitted
  obtain ⟨possible, late, established, live, two, contained⟩ := of_decide_eq_true holds
  obtain ⟨next, stepped⟩ := Option.isSome_iff_exists.mp possible
  have spared := late_work_spares_new_connection kickable (.inl rfl) reached contained established
    late stepped
  rw [two] at spared
  exact ⟨state, next, reached, stepped, late, established, live, spared⟩

/-- **A late KICKED ends the new connection.**  The KICKED is read before the application
disconnects and connects again; its task then marks the new connection as disconnected, takes it out
of its slot and closes it. -/
theorem late_kick_closes_new_connection :
    ∃ state later, (tracedClient kickable).Reaches System.always (.new kickable.config, []) state ∧
      (tracedClient kickable).run state (works 4 2) = some later ∧
      state.1.isLate state.2 (.work 4 granted) = true ∧ state.1.isEstablished = true ∧
      state.1.isLive 1 = true ∧ later.1.isLive 1 = false ∧ later.1.core.state = .disconnected := by
  have run : ((tracedClient kickable).run (.new kickable.config, [])
      (connectsBehind conflictKick ++ works 4 3)).any (fun state =>
        ((tracedClient kickable).run state (works 4 2)).any fun later =>
          decide (state.1.isLate state.2 (.work 4 granted) = true ∧
            state.1.isEstablished = true ∧ state.1.isLive 1 = true ∧ later.1.isLive 1 = false ∧
            later.1.core.state = .disconnected)) = true := by
    decide +kernel
  obtain ⟨state, reached, holds⟩ :=
    System.exists_reaches_of_run run (System.permits_always _ _)
  obtain ⟨later, finished, ended⟩ := (Option.any_eq_true _ _).mp holds
  obtain ⟨late, established, live, closed, disconnected⟩ := of_decide_eq_true ended
  exact ⟨state, later, reached, finished, late, established, live, closed, disconnected⟩

end Examples

end FlareCore.Client

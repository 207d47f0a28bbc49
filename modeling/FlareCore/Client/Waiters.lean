import FlareCore.Client.Receipt

/-!
# Who waits for a response

A call that waits for a response enters itself under the id of its frame before it sends, and an
inbound frame with that id takes the entry out and completes the call.  An entry that is not
completed is taken out by the call when it stops waiting, or with all others when the connection
is lost.

`Waiters` is kept beside the run: what was registered, which frame completed which request, and
whose entries the calls themselves have taken out.  A call that fails before it waits is the one
way out that leaves its entry behind, so the results are about runs in which no frame of such a
call fails to be sent (`sendsThrough`).
-/

namespace FlareCore.Client

open FlareCore.Common FlareCore.Server FlareCore.Foundations

set_option autoImplicit false

/-! ## The history -/

/-- An inbound frame, by its task, has completed a request; `latest` is the request that had been
registered last under the id of the frame. -/
structure Completion where
  task : Option Nat
  request : Nat
  latest : Option Nat
  deriving DecidableEq

/-- A call, by its request, has taken an entry out. -/
structure Removal where
  remover : Option Nat
  entry : Nat
  deriving DecidableEq

structure Waiters where
  registered : List (String × Nat)
  completions : List Completion
  removals : List Removal
  deriving DecidableEq

/-- The task that a move is about. -/
def Move.task : Move → Option Nat
  | work index _ => some index
  | call _ | submit _ _ | send _ _ | operate _ | read _ _ | handOver _ => none

/-- The moves that are not a step of the call that has the client. -/
def Move.isBackground : Move → Bool
  | operate _ => false
  | call _ | submit _ _ | send _ _ | read _ _ | handOver _ | work _ _ => true

/-- The entries that are in the first map and not in the second. -/
def removedEntries (before after : StringMap Nat) : List Nat :=
  before.keys.filterMap fun id => (before.lookup id).filter fun request =>
    after.lookup id ≠ some request

namespace ClientState

variable (state : ClientState)

/-- The entry that a step adds. -/
def registration : Move → Option (String × Nat)
  | .operate _ => state.operation.bind fun operation =>
      if operation.stage = .registering then
        operation.call.frame.map fun frame => (frame.messageId, state.requests)
      else none
  | .call _ | .submit _ _ | .send _ _ | .read _ _ | .handOver _ | .work _ _ => none

end ClientState

namespace Waiters

def initial : Waiters := ⟨[], [], []⟩

/-- The request that was registered last under an id. -/
def latest (history : Waiters) (id : String) : Option Nat :=
  (history.registered.reverse.find? fun entry => entry.1 = id).map Prod.snd

def record (state : ClientState) (move : Move) (next : ClientState) (history : Waiters) :
    Waiters where
  registered := history.registered ++ (state.registration move).toList
  completions := history.completions ++
    (next.answered.drop state.answered.length).map fun answer =>
      ⟨move.task, answer.1, history.latest answer.2.messageId⟩
  removals := history.removals ++
    match move with
    | .operate _ =>
        (removedEntries state.core.pending next.core.pending).map fun entry =>
          ⟨(state.registration move).elim (state.operation.bind Operation.request)
            fun entry => some entry.2, entry⟩
    | .call _ | .submit _ _ | .send _ _ | .read _ _ | .handOver _ | .work _ _ => []

end Waiters

/-- The client with this history. -/
def waitersClient [RustText] (setting : ClientSetting) :
    System (ClientState × Waiters) Move :=
  (clientSystem setting).recording Waiters.record

/-- Each frame completes at most one request, namely the one registered last under its id; an
entry is that of a call that has not returned; and a call takes out only its own. -/
structure Waiters.Settled (history : Waiters) (state : ClientState) : Prop where
  once : (history.completions.map Completion.task).Nodup
  latest : ∀ completion ∈ history.completions, completion.latest = some completion.request
  returned : ∀ id request, state.core.pending.lookup id = some request →
    state.isAwaited request = true
  removed : ∀ removal ∈ history.removals, removal.remover = some removal.entry

/-! ## Sending through -/

section Sending

variable [RustText] (setting : ClientSetting)

/-- What keeps a call that waits for the response to a frame from failing before it waits, at each
stage where it may fail. -/
def ClientState.sendsAt (state : ClientState) (frame : Frame) (answer : Answer) : Stage → Bool
  | .registering =>
      !state.shouldReconnectBeforeSend setting ||
        (setting.maxReconnectAttempts.filter (· ≤ state.reconnectAttempts)).isNone
  | .dialing => answer.succeeds
  | .greeting line =>
      (state.connectData setting).toOption.isSome && state.isLive line && answer.succeeds
  | .sending =>
      state.core.state.canSend && (state.core.parser.serialize setting.registries frame
        ).toOption.isSome && state.connection.any state.isLive && answer.succeeds
  | .pausing | .retiring _ | .retired _ | .establishing | .replacing _ | .replaced _
  | .settingUp _ | .attaching _ | .connecting _ _ | .watching _ | .confirming _
  | .announcing _ _ | .waiting _ | .disconnecting _ | .disconnected _ | .leaving => true

/-- No call that waits for a response fails before it waits, while it has its entry. -/
def ClientState.sendsThrough (state : ClientState) : Move → Bool
  | .operate answer => state.operation.all fun operation =>
      match operation.call with
      | .sendAndWait frame =>
          (operation.stage ≠ .registering && (state.core.pending.lookup frame.messageId).isNone) ||
            state.sendsAt setting frame answer operation.stage
      | .connect | .disconnect | .send _ | .renew _ => true
  | .call _ | .submit _ _ | .send _ _ | .read _ _ | .handOver _ | .work _ _ => true

def SendsThrough (state : ClientState × Waiters) (move : Move) : Prop :=
  state.1.sendsThrough setting move = true

instance (state : ClientState × Waiters) (move : Move) :
    Decidable (SendsThrough setting state move) :=
  inferInstanceAs (Decidable (_ = _))

end Sending

/-! ## What leaves the waiting alone -/

/-- Nothing is registered, answered or taken out. -/
structure SameWaiters (before after : ClientState) : Prop where
  pending : after.core.pending = before.core.pending
  requests : after.requests = before.requests
  answered : after.answered = before.answered

namespace SameWaiters

variable {first second third : ClientState}

@[refl]
theorem refl (state : ClientState) : SameWaiters state state :=
  ⟨rfl, rfl, rfl⟩

theorem after (right : SameWaiters second third) (left : SameWaiters first second) :
    SameWaiters first third :=
  ⟨right.pending.trans left.pending, right.requests.trans left.requests,
    right.answered.trans left.answered⟩

end SameWaiters

theorem ClientCore.lose_pending (core : ClientCore) (state : ConnectionState) (detail : String) :
    (core.lose state detail).1.pending = core.pending := by
  simp only [ClientCore.lose, closeReport, failNegotiationOnClose]
  split <;> cases core.pendingKick <;> rfl

theorem ClientCore.handleTerminalEvent_pending (core : ClientCore) (event : ConnectionEvent) :
    (core.handleTerminalEvent event).1.pending = core.pending := by
  cases event with
  | disconnected reason => exact lose_pending _ .disconnected reason
  | error error => exact core.lose_pending .failed error.text
  | connected | message data => rfl

theorem ClientCore.handleConnected_pending (core : ClientCore) (alreadyConnected : Bool) :
    (core.handleConnected alreadyConnected).pending = core.pending := by
  unfold handleConnected
  split <;> rfl

namespace ClientState

section Events

variable (setting : ClientSetting) (state : ClientState)

theorem inform_sameWaiters (event : ConnectionEvent) :
    SameWaiters state (state.inform setting event) := by
  unfold inform
  split <;> exact ⟨rfl, rfl, rfl⟩

theorem handleTerminalEvent_sameWaiters (event : ConnectionEvent) :
    SameWaiters state (state.handleTerminalEvent setting event) := by
  have informed := state.inform_sameWaiters setting event
  exact ⟨state.core.handleTerminalEvent_pending event, informed.requests, informed.answered⟩

theorem handleConnected_sameWaiters (alreadyConnected : Bool) :
    SameWaiters state (state.handleConnected setting alreadyConnected) := by
  have informed := state.inform_sameWaiters setting .connected
  exact ⟨state.core.handleConnected_pending alreadyConnected, informed.requests,
    informed.answered⟩

theorem onTerminalEvent_sameWaiters (event : ConnectionEvent) :
    SameWaiters state (state.onTerminalEvent setting event) := by
  unfold onTerminalEvent
  split
  · exact ⟨rfl, rfl, rfl⟩
  · exact state.handleTerminalEvent_sameWaiters setting event

theorem announce_sameWaiters (line : Nat) (event : ConnectionEvent) :
    SameWaiters state (state.announce setting line event) := by
  unfold announce
  split
  · exact (onTerminalEvent_sameWaiters setting _ event).after ⟨rfl, rfl, rfl⟩
  · rfl

theorem tryStartHeartbeat_sameWaiters : SameWaiters state (state.tryStartHeartbeat setting) := by
  unfold tryStartHeartbeat
  split
  · rfl
  · split <;> exact ⟨rfl, rfl, rfl⟩

theorem callsHandler_sameWaiters (origin : Origin) (call : HandlerCall) :
    SameWaiters state (state.callsHandler setting origin call) := by
  unfold callsHandler
  split <;> exact ⟨rfl, rfl, rfl⟩

theorem finish_sameWaiters (operation : Operation) (result : Result Unit) :
    SameWaiters state (state.finish operation result) := by
  unfold finish
  split <;> exact ⟨rfl, rfl, rfl⟩

theorem tryReconnect_sameWaiters (operation : Operation) :
    SameWaiters state (state.tryReconnect setting operation) := by
  unfold tryReconnect
  split
  · exact (finish_sameWaiters _ operation _).after ⟨rfl, rfl, rfl⟩
  · exact ⟨rfl, rfl, rfl⟩

theorem failConnect_sameWaiters (operation : Operation) (error : FlareError) :
    SameWaiters state (state.failConnect setting operation error) := by
  simp only [failConnect]
  split
  · exact (tryReconnect_sameWaiters setting _ operation).after ⟨rfl, rfl, rfl⟩
  · exact (finish_sameWaiters _ operation _).after ⟨rfl, rfl, rfl⟩

theorem startSend_sameWaiters (operation : Operation) :
    SameWaiters state (state.startSend setting operation) := by
  unfold startSend
  split
  · exact state.tryReconnect_sameWaiters setting operation
  · exact ⟨rfl, rfl, rfl⟩

theorem start_sameWaiters (call : Call) : SameWaiters state (state.start setting call) := by
  cases call with
  | connect | renew index =>
      simp only [start, startConnect]
      split
      · exact ⟨rfl, rfl, rfl⟩
      · exact state.finish_sameWaiters _ _
  | disconnect => exact ⟨rfl, rfl, rfl⟩
  | send frame => exact state.startSend_sameWaiters setting _
  | sendAndWait frame =>
      simp only [start]
      split
      · exact state.finish_sameWaiters _ _
      · exact ⟨rfl, rfl, rfl⟩

end Events

end ClientState

/-- Nothing is registered or answered, and what is taken out is everything. -/
structure KeepsWaiters (before after : ClientState) : Prop where
  pending : after.core.pending = before.core.pending ∨ after.core.pending = ∅
  requests : after.requests = before.requests
  answered : after.answered = before.answered

theorem SameWaiters.keeps {before after : ClientState} (same : SameWaiters before after) :
    KeepsWaiters before after :=
  ⟨.inl same.pending, same.requests, same.answered⟩

/-- Everything is taken out, and then the rest follows. -/
theorem SameWaiters.clears {state cleared after : ClientState} (same : SameWaiters cleared after)
    (pending : cleared.core.pending = ∅) (requests : cleared.requests = state.requests)
    (answered : cleared.answered = state.answered) : KeepsWaiters state after :=
  ⟨.inr (same.pending.trans pending), same.requests.trans requests,
    same.answered.trans answered⟩

namespace ClientState

section Tasks

variable [RustText] (setting : ClientSetting) (state : ClientState)

theorem handleFrame_keepsWaiters (index : Nat) (task : FrameTask) (answer : Answer)
    {stage : Handling} (unmatched : ∀ frame, stage ≠ .matching frame) :
    KeepsWaiters state (state.handleFrame setting index task answer stage) := by
  cases stage with
  | matching frame => exact absurd rfl (unmatched frame)
  | negotiationFailed frame error =>
      exact (handleTerminalEvent_sameWaiters setting _ (.error error)).clears rfl rfl rfl
  | kickReporting frame reason =>
      simp only [handleFrame, reportKick, ClientCore.takeUnreportedKick]
      cases reason with
      | none => exact ⟨.inr rfl, rfl, rfl⟩
      | some reason => refine ⟨.inr ?_, rfl, rfl⟩; dsimp; split <;> rfl
  | dispatching frame =>
      refine SameWaiters.keeps ?_
      simp only [handleFrame, dispatch]
      split
      · exact ⟨rfl, rfl, rfl⟩
      · split
        all_goals first
          | exact (callsHandler_sameWaiters setting _ _ _).after ⟨rfl, rfl, rfl⟩
          | exact ⟨rfl, rfl, rfl⟩
          | (split <;> exact ⟨rfl, rfl, rfl⟩)
  | acknowledging frame =>
      refine SameWaiters.keeps ?_
      simp only [handleFrame, acknowledge]
      split
      · split
        · exact ⟨rfl, rfl, rfl⟩
        · exact (tryStartHeartbeat_sameWaiters setting _).after ⟨rfl, rfl, rfl⟩
      · exact ⟨rfl, rfl, rfl⟩
  | readying frame =>
      refine SameWaiters.keeps ((tryStartHeartbeat_sameWaiters setting _).after ?_)
      simp only [sendNegotiationReady]
      split
      · split <;> exact ⟨rfl, rfl, rfl⟩
      · exact ⟨rfl, rfl, rfl⟩
  | kicked frame command =>
      refine SameWaiters.keeps ?_
      simp only [handleFrame, kick, ClientCore.recordKick]
      split <;> refine ⟨?_, rfl, rfl⟩ <;> simp only [advance_core, withCore_core] <;> split <;> rfl
  | closing frame command =>
      refine SameWaiters.keeps ?_
      simp only [handleFrame, handleClose]
      split
      · split <;> exact ⟨rfl, rfl, rfl⟩
      · exact ⟨rfl, rfl, rfl⟩
  | kickAnnouncing frame reason line | closeAnnouncing frame detail line =>
      refine SameWaiters.keeps ?_
      exact (announce_sameWaiters setting _ _ _).after ⟨rfl, rfl, rfl⟩
  | handlingBusiness frame =>
      refine SameWaiters.keeps ?_
      simp only [handleFrame, handleBusiness]
      cases businessCall frame with
      | none => exact ⟨rfl, rfl, rfl⟩
      | some call => exact (callsHandler_sameWaiters setting _ _ _).after ⟨rfl, rfl, rfl⟩
  | received | reparsing | responding frame | kickShutting frame reason line
  | closeShutting frame detail line | delivering frame system | finished frame | dropped =>
      exact ⟨.inl rfl, rfl, rfl⟩

theorem work_keepsWaiters (index : Nat) (answer : Answer) {task : Task}
    (unmatched : ∀ own frame, task = .frame own → own.stage ≠ .matching frame) :
    KeepsWaiters state (state.work setting index answer task) := by
  cases task with
  | frame own =>
      exact state.handleFrame_keepsWaiters setting index own answer
        fun frame => unmatched own frame rfl
  | deferred event =>
      refine SameWaiters.keeps ?_
      exact (handleTerminalEvent_sameWaiters setting _ event).after ⟨rfl, rfl, rfl⟩
  | clearing => exact ⟨.inr rfl, rfl, rfl⟩
  | informing event | done => exact ⟨.inl rfl, rfl, rfl⟩
  | heartbeat line beat =>
      refine SameWaiters.keeps ?_
      cases beat with
      | beating =>
          simp only [work, ClientState.beat]
          split
          · split <;> exact ⟨rfl, rfl, rfl⟩
          · exact ⟨rfl, rfl, rfl⟩
      | shutting reason => exact ⟨rfl, rfl, rfl⟩
      | announcing reason =>
          exact (announce_sameWaiters setting _ _ _).after ⟨rfl, rfl, rfl⟩

theorem deliver_sameWaiters (line : Nat) (event : ConnectionEvent) :
    SameWaiters state (state.deliver setting line event) := by
  cases event with
  | message data =>
      refine ⟨?_, rfl, rfl⟩
      simp only [deliver, receive, spawn_core, withCore_core]
      split
      · rfl
      · cases setting.rejection data <;> rfl
  | connected => rfl
  | disconnected reason => exact state.announce_sameWaiters setting line (.disconnected reason)
  | error error => exact state.announce_sameWaiters setting line (.error error)

omit [RustText] in
theorem sendStep_sameWaiters {setting : ClientSetting} {state after : ClientState} {index : Nat}
    {sender : Sender} {answer : Answer}
    (sent : state.sendStep setting index sender answer = some after) : SameWaiters state after := by
  unfold sendStep at sent
  split at sent
  next => exact Option.some.inj sent ▸ ⟨rfl, rfl, rfl⟩
  next => exact Option.some.inj sent ▸ ⟨rfl, rfl, rfl⟩
  next =>
    split at sent
    · cases sent
    · exact Option.some.inj sent ▸ ⟨rfl, rfl, rfl⟩
  next =>
    obtain rfl := Option.some.inj sent
    split <;> exact ⟨rfl, rfl, rfl⟩
  next =>
    obtain rfl := Option.some.inj sent
    split <;> exact ⟨rfl, rfl, rfl⟩
  next =>
    obtain rfl := Option.some.inj sent
    split
    · exact ⟨rfl, rfl, rfl⟩
    · split
      · exact ⟨rfl, rfl, rfl⟩
      · exact (start_sameWaiters setting _ _).after ⟨rfl, rfl, rfl⟩
  next =>
    split at sent
    · exact Option.some.inj sent ▸ ⟨rfl, rfl, rfl⟩
    · exact Option.some.inj sent ▸ ⟨rfl, rfl, rfl⟩
    · split at sent
      · exact Option.some.inj sent ▸ ⟨rfl, rfl, rfl⟩
      · cases sent
  next =>
    obtain rfl := Option.some.inj sent
    exact (start_sameWaiters setting _ _).after ⟨rfl, rfl, rfl⟩
  next => cases sent

end Tasks

end ClientState

/-! ## Calls on their way -/

/-- The stages at which a call neither registers nor waits, and does not leave. -/
def Stage.isOrdinary : Stage → Bool
  | registering | waiting _ | disconnecting _ | disconnected _ | leaving => false
  | pausing | retiring _ | retired _ | establishing | replacing _ | replaced _ | dialing
  | settingUp _ | attaching _ | connecting _ _ | watching _ | greeting _ | confirming _
  | announcing _ _ | sending => true

/-- A call that goes on as the same call, with the same request. -/
structure Operation.Leads (operation next : Operation) : Prop where
  call : next.call = operation.call
  request : next.request = operation.request
  stage : next.stage.isOrdinary = true

/-- A call goes on, or it returns. -/
def GoesOn (operation : Operation) (after : ClientState) : Prop :=
  after.operation = none ∨ ∃ next, after.operation = some next ∧ operation.Leads next

namespace ClientState

section Calls

variable (setting : ClientSetting) (state : ClientState)

theorem proceed_goesOn (operation : Operation) {stage : Stage} (ordinary : stage.isOrdinary = true) :
    GoesOn operation (state.proceed operation stage) :=
  .inr ⟨_, rfl, rfl, rfl, ordinary⟩

theorem tryReconnect_goesOn (operation : Operation) :
    GoesOn operation (state.tryReconnect setting operation) := by
  unfold tryReconnect
  split
  · exact .inl (finish_operation _ _ _)
  · exact .inr ⟨_, rfl, rfl, rfl, rfl⟩

theorem failConnect_goesOn (operation : Operation) (error : FlareError) :
    GoesOn operation (state.failConnect setting operation error) := by
  simp only [failConnect]
  split
  · exact tryReconnect_goesOn setting _ operation
  · exact .inl (finish_operation _ _ _)

theorem startConnect_goesOn (call : Call) :
    GoesOn ⟨call, none, setting.canReconnect, .establishing⟩ (state.startConnect setting call) := by
  simp only [startConnect]
  split
  · exact .inr ⟨_, rfl, rfl, rfl, rfl⟩
  · exact .inl (finish_operation _ _ _)

theorem startSend_goesOn (operation : Operation) :
    GoesOn operation (state.startSend setting operation) := by
  unfold startSend
  split
  · exact state.tryReconnect_goesOn setting operation
  · exact state.proceed_goesOn operation rfl

variable [RustText]

/-- A frame of a call that is not sent. -/
theorem sendsAt_sending_eq_false {frame : Frame} {answer : Answer} {error : FlareError}
    (failed : state.sendInternal setting frame answer = .error error) :
    state.sendsAt setting frame answer .sending = false := by
  simp only [sendsAt]
  by_contra sends
  simp only [Bool.not_eq_false, Bool.and_eq_true] at sends
  obtain ⟨⟨⟨ready, serialized⟩, open_⟩, succeeds⟩ := sends
  obtain ⟨line, current, live⟩ := (Option.any_eq_true _ _).mp open_
  cases encoded : state.core.parser.serialize setting.registries frame with
  | error _ =>
      rw [encoded] at serialized
      cases serialized
  | ok data =>
      simp [sendInternal, transmit, ready, encoded, current, live, succeeds, Except.map] at failed

theorem sendsAt_greeting_eq_false (frame : Frame) {line : Nat} {answer : Answer}
    {error : FlareError}
    (failed : state.transmit setting line (state.connectData setting) answer = .error error) :
    state.sendsAt setting frame answer (.greeting line) = false := by
  simp only [sendsAt]
  by_contra sends
  simp only [Bool.not_eq_false, Bool.and_eq_true] at sends
  obtain ⟨⟨serialized, live⟩, succeeds⟩ := sends
  simp only [transmit, live, succeeds] at failed
  cases encoded : state.connectData setting with
  | error _ =>
      rw [encoded] at serialized
      cases serialized
  | ok data =>
      rw [encoded] at failed
      cases failed

/-- How a call goes on from an ordinary stage: if it returns, then it either had no request or it
failed to send. -/
inductive OrdinaryStep (operation : Operation) (answer : Answer) (after : ClientState) : Prop
  | leads (next : Operation) (current : after.operation = some next)
      (same : operation.Leads next)
  | waits (request : Nat) (registered : operation.request = some request)
      (current : after.operation = some { operation with stage := .waiting request })
  | returns (ended : after.operation = none)
      (failed : operation.request = none ∨ ∀ frame, operation.call = .sendAndWait frame →
        state.sendsAt setting frame answer operation.stage = false)

theorem OrdinaryStep.of_goesOn {operation : Operation} {answer : Answer} {after : ClientState}
    (goesOn : GoesOn operation after)
    (failed : ∀ frame, state.sendsAt setting frame answer operation.stage = false) :
    state.OrdinaryStep setting operation answer after := by
  obtain ended | ⟨next, current, same⟩ := goesOn
  · exact .returns ended (.inr fun frame _ => failed frame)
  · exact .leads next current same

theorem operate_ordinary {state after : ClientState} {operation : Operation} {answer : Answer}
    (ordinary : operation.stage.isOrdinary = true)
    (regular : ∀ request ∈ operation.request, ∃ frame, operation.call = .sendAndWait frame)
    (operated : state.operate setting operation answer = some after) :
    SameWaiters state after ∧ state.OrdinaryStep setting operation answer after := by
  cases stage : operation.stage <;>
    simp only [operate, stage, Option.some.injEq, Option.map_eq_some_iff,
      Option.bind_eq_some_iff] at operated <;>
    rw [stage] at ordinary
  case registering | waiting | disconnecting | disconnected | leaving => cases ordinary
  case pausing =>
    subst operated
    refine ⟨⟨rfl, rfl, rfl⟩, .leads _ rfl ⟨rfl, rfl, ?_⟩⟩
    cases state.connection <;> rfl
  case retiring | replacing | settingUp | confirming =>
    subst operated
    exact ⟨⟨rfl, rfl, rfl⟩, .leads _ rfl ⟨rfl, rfl, rfl⟩⟩
  case retired | replaced =>
    subst operated
    exact ⟨(announce_sameWaiters setting _ _ _).after ⟨rfl, rfl, rfl⟩,
      .leads _ (announce_undisturbed setting _ _ _).operation ⟨rfl, rfl, rfl⟩⟩
  case establishing =>
    subst operated
    unfold establish
    split <;> exact ⟨⟨rfl, rfl, rfl⟩, .leads _ rfl ⟨rfl, rfl, rfl⟩⟩
  case dialing =>
    subst operated
    unfold dial
    split
    · exact ⟨⟨rfl, rfl, rfl⟩, .leads _ rfl ⟨rfl, rfl, rfl⟩⟩
    next failed =>
      refine ⟨state.failConnect_sameWaiters setting operation _,
        .of_goesOn setting state (state.failConnect_goesOn setting operation _) fun frame => ?_⟩
      rw [stage]
      exact Bool.eq_false_iff.mpr failed
  case attaching line =>
    subst operated
    unfold attach
    split
    · exact ⟨⟨rfl, rfl, rfl⟩, .leads _ rfl ⟨rfl, rfl, rfl⟩⟩
    · exact ⟨(onTerminalEvent_sameWaiters setting _ _).after ⟨rfl, rfl, rfl⟩,
        .leads _ (onTerminalEvent_undisturbed setting _ _).operation ⟨rfl, rfl, rfl⟩⟩
  case connecting line already =>
    subst operated
    have connected := state.handleConnected_sameWaiters setting already
    exact ⟨⟨connected.pending, connected.requests, connected.answered⟩,
      .leads _ rfl ⟨rfl, rfl, rfl⟩⟩
  case watching line =>
    subst operated
    unfold watch
    split
    · exact ⟨⟨rfl, rfl, rfl⟩, .leads _ rfl ⟨rfl, rfl, rfl⟩⟩
    · exact ⟨(onTerminalEvent_sameWaiters setting _ _).after ⟨rfl, rfl, rfl⟩,
        .leads _ (onTerminalEvent_undisturbed setting _ _).operation ⟨rfl, rfl, rfl⟩⟩
  case greeting line =>
    subst operated
    simp only [greet]
    split
    · exact ⟨⟨rfl, rfl, rfl⟩, .leads _ rfl ⟨rfl, rfl, rfl⟩⟩
    next failed =>
      refine ⟨(failConnect_sameWaiters setting _ operation _).after ⟨rfl, rfl, rfl⟩,
        .of_goesOn setting state (failConnect_goesOn setting _ operation _) fun frame => ?_⟩
      rw [stage]
      exact state.sendsAt_greeting_eq_false setting frame failed
  case announcing line already =>
    subst operated
    have connected := state.handleConnected_sameWaiters setting already
    have same : SameWaiters state
        { state.handleConnected setting already with reconnectAttempts := 0 } :=
      ⟨connected.pending, connected.requests, connected.answered⟩
    have unregistered : (∀ frame, operation.call ≠ .sendAndWait frame) →
        operation.request = none := by
      intro others
      refine Option.eq_none_iff_forall_not_mem.mpr fun request registered => ?_
      obtain ⟨frame, waits⟩ := regular request registered
      exact others frame waits
    simp only [connectDone]
    cases call : operation.call with
    | send frame | sendAndWait frame =>
        exact ⟨⟨connected.pending, connected.requests, connected.answered⟩,
          .leads _ rfl ⟨rfl, rfl, rfl⟩⟩
    | connect | renew index | disconnect =>
        refine ⟨(finish_sameWaiters _ operation _).after same,
          .returns (finish_operation _ _ _) (.inl (unregistered fun frame waits => ?_))⟩
        cases call.symm.trans waits
  case sending =>
    obtain ⟨frame, isFrame, rfl⟩ := operated
    simp only [sendFrame]
    split
    next unregistered =>
      exact ⟨(finish_sameWaiters _ operation _).after ⟨rfl, rfl, rfl⟩,
        .returns (finish_operation _ _ _) (.inl unregistered)⟩
    next registered =>
      exact ⟨⟨rfl, rfl, rfl⟩, .waits _ registered rfl⟩
    next failed =>
      refine ⟨finish_sameWaiters _ operation _,
        .returns (finish_operation _ _ _) (.inr fun own waits => ?_)⟩
      rw [waits] at isFrame
      obtain rfl := Option.some.inj isFrame
      rw [stage]
      exact state.sendsAt_sending_eq_false setting failed

end Calls

end ClientState

/-- The stages of a call that has registered nothing. -/
def Stage.isUnregistered : Stage → Bool
  | registering | disconnecting _ | disconnected _ | leaving => true
  | waiting _ | pausing | retiring _ | retired _ | establishing | replacing _ | replaced _
  | dialing | settingUp _ | attaching _ | connecting _ _ | watching _ | greeting _
  | confirming _ | announcing _ _ | sending => false

theorem Stage.isUnregistered_of_isOrdinary {stage : Stage} (ordinary : stage.isOrdinary = true) :
    stage.isUnregistered = false := by
  cases stage <;> trivial

/-- How the request of a call goes with the call and its stage. -/
structure Operation.Regular (operation : Operation) : Prop where
  waits : ∀ request ∈ operation.request, ∃ frame, operation.call = .sendAndWait frame
  unregistered : operation.stage.isUnregistered = true → operation.request = none
  waiting : ∀ request, operation.stage = .waiting request → operation.request = some request
  registers : operation.stage = .registering → ∃ frame, operation.call = .sendAndWait frame

namespace Operation.Regular

variable {operation next : Operation}

theorem of_unregistered (request : operation.request = none)
    (unwaiting : ∀ request, operation.stage ≠ .waiting request)
    (registers : operation.stage = .registering → ∃ frame, operation.call = .sendAndWait frame) :
    operation.Regular where
  waits number registered := by
    rw [request] at registered
    cases registered
  unregistered _ := request
  waiting number stage := absurd stage (unwaiting number)
  registers := registers

theorem of_registered {frame : Frame} (waits : operation.call = .sendAndWait frame)
    (registered : operation.stage.isUnregistered = false)
    (waiting : ∀ request, operation.stage = .waiting request → operation.request = some request) :
    operation.Regular where
  waits _ _ := ⟨frame, waits⟩
  unregistered stage := by cases registered.symm.trans stage
  waiting := waiting
  registers _ := ⟨frame, waits⟩

theorem leads (regular : operation.Regular) (same : operation.Leads next) : next.Regular where
  waits request registered := by
    rw [same.call]
    exact regular.waits request (same.request ▸ registered)
  unregistered stage := by
    rw [Stage.isUnregistered_of_isOrdinary same.stage] at stage
    cases stage
  waiting request stage := by
    have ordinary := same.stage
    rw [stage] at ordinary
    cases ordinary
  registers stage := by
    have ordinary := same.stage
    rw [stage] at ordinary
    cases ordinary

end Operation.Regular

namespace ClientState

variable (setting : ClientSetting) (state : ClientState)

/-- A call that has just begun has registered nothing. -/
theorem start_unregistered (call : Call) {operation : Operation}
    (current : (state.start setting call).operation = some operation) :
    operation.request = none ∧ operation.Regular := by
  have of_goesOn : ∀ (begun : Operation) {after : ClientState}, GoesOn begun after →
      begun.request = none → after.operation = some operation →
        operation.request = none ∧ operation.Regular := by
    rintro begun after (ended | ⟨next, isNext, same⟩) unregistered isOperation
    · cases ended.symm.trans isOperation
    · obtain rfl := Option.some.inj (isNext.symm.trans isOperation)
      have request := same.request.trans unregistered
      have ordinary := same.stage
      refine ⟨request, .of_unregistered request (fun number stage => ?_) fun stage => ?_⟩ <;>
        rw [stage] at ordinary <;> cases ordinary
  cases call with
  | connect =>
      exact of_goesOn _ (state.startConnect_goesOn setting .connect) rfl current
  | renew index =>
      exact of_goesOn _ (state.startConnect_goesOn setting (.renew index)) rfl current
  | disconnect =>
      simp only [start, startDisconnect, proceed_operation, Option.some.injEq] at current
      subst current
      refine ⟨rfl, .of_unregistered rfl (fun number stage => ?_) fun stage => ?_⟩ <;>
        cases connection : state.connection <;> rw [connection] at stage <;> cases stage
  | send frame =>
      exact of_goesOn _ (state.startSend_goesOn setting ⟨.send frame, none, false, .sending⟩) rfl
        current
  | sendAndWait frame =>
      simp only [start] at current
      split at current
      · rw [finish_operation] at current
        cases current
      · obtain rfl := Option.some.inj current
        exact ⟨rfl, .of_unregistered rfl (fun _ stage => by cases stage) fun _ => ⟨frame, rfl⟩⟩

end ClientState

/-! ## What the history says -/

theorem mem_removedEntries {before after : StringMap Nat} {entry : Nat} :
    entry ∈ removedEntries before after ↔
      ∃ id, before.lookup id = some entry ∧ after.lookup id ≠ some entry := by
  simp only [removedEntries, List.mem_filterMap, Option.filter_eq_some_iff]
  constructor
  · rintro ⟨id, -, found, gone⟩
    exact ⟨id, found, of_decide_eq_true gone⟩
  · rintro ⟨id, found, gone⟩
    refine ⟨id, ?_, found, decide_eq_true gone⟩
    exact AList.mem_keys.mpr (AList.lookup_isSome.mp (by rw [found]; rfl))

namespace Waiters

variable {history : Waiters} {state next : ClientState} {move : Move}

theorem latest_append (history : Waiters) (id other : String) (request : Nat) :
    { history with registered := history.registered ++ [(id, request)] }.latest other =
      if id = other then some request else history.latest other := by
  simp only [latest, List.reverse_append, List.reverse_singleton, List.singleton_append,
    List.find?_cons]
  by_cases same : id = other <;> simp [same]

/-- A step of something other than a call, in which nobody is answered. -/
theorem record_of_unanswered (background : move.isBackground = true)
    (answered : next.answered = state.answered) : record state move next history = history := by
  have dropped : next.answered.drop state.answered.length = [] := by
    rw [answered, List.drop_length]
  cases move with
  | operate answer => cases background
  | call call | submit frame waits | send index answer | read line event | handOver line
  | work index answer =>
      simp [record, dropped, ClientState.registration]

end Waiters

/-! ## The invariant -/

/-- The frame has completed a request. -/
def Handling.isCompleted : Handling → Bool
  | responding _ | finished _ => true
  | received | reparsing | matching _ | dispatching _ | acknowledging _ | negotiationFailed _ _
  | readying _ | kicked _ _ | kickShutting _ _ _ | kickAnnouncing _ _ _ | kickReporting _ _
  | closing _ _ | closeShutting _ _ _ | closeAnnouncing _ _ _ | delivering _ _
  | handlingBusiness _ | dropped => false

namespace ClientState

variable (state : ClientState)

/-- The task is done with the matching of its frame. -/
def HasCompleted (index : Nat) : Prop :=
  ∃ task, state.tasks[index]? = some (.frame task) ∧ task.stage.isCompleted = true

/-- The call that has the client has registered this entry. -/
def Owns (id : String) (request : Nat) : Prop :=
  ∃ operation frame, state.operation = some operation ∧ operation.request = some request ∧
    operation.call = .sendAndWait frame ∧ frame.messageId = id

end ClientState

/-- The calls that wait, and the history, belong to the state. -/
structure Waiters.Sound (history : Waiters) (state : ClientState) : Prop where
  regular : ∀ operation ∈ state.operation, operation.Regular
  fresh : ∀ operation ∈ state.operation, ∀ request ∈ operation.request, request < state.requests
  owned : ∀ id request, state.core.pending.lookup id = some request → state.Owns id request
  registered : ∀ id request, state.core.pending.lookup id = some request →
    history.latest id = some request
  answered : ∀ answer ∈ state.answered, answer.1 < state.requests ∧
    ∀ id, state.core.pending.lookup id ≠ some answer.1
  completed : ∀ completion ∈ history.completions, ∃ index, completion.task = some index ∧
    state.HasCompleted index
  once : (history.completions.map Completion.task).Nodup
  latest : ∀ completion ∈ history.completions, completion.latest = some completion.request
  removed : ∀ removal ∈ history.removals, removal.remover = some removal.entry

namespace Waiters.Sound

variable {history : Waiters} {state after : ClientState}

theorem settled (sound : history.Sound state) : history.Settled state where
  once := sound.once
  latest := sound.latest
  returned id request found := by
    obtain ⟨operation, frame, current, registered, -, -⟩ := sound.owned id request found
    simp [ClientState.isAwaited, current, registered]
  removed := sound.removed

/-- Nobody waits while no call has registered anything. -/
theorem lookup_eq_none (sound : history.Sound state)
    (unregistered : ∀ operation ∈ state.operation, operation.request = none) (id : String) :
    state.core.pending.lookup id = none := by
  refine Option.eq_none_iff_forall_not_mem.mpr fun request found => ?_
  obtain ⟨operation, frame, current, registered, -⟩ := sound.owned id request found
  cases (unregistered operation current).symm.trans registered

/-- Nothing is registered or answered. -/
theorem evolve (sound : history.Sound state)
    (pending : ∀ id request, after.core.pending.lookup id = some request →
      state.core.pending.lookup id = some request ∧ after.Owns id request)
    (requests : after.requests = state.requests) (answered : after.answered = state.answered)
    (completed : ∀ index, state.HasCompleted index → after.HasCompleted index)
    (regular : ∀ operation ∈ after.operation, operation.Regular ∧
      ∀ request ∈ operation.request, request < state.requests) : history.Sound after where
  regular operation current := (regular operation current).1
  fresh operation current := by
    rw [requests]
    exact (regular operation current).2
  owned id request found := (pending id request found).2
  registered id request found := sound.registered id request (pending id request found).1
  answered answer known := by
    rw [answered] at known
    rw [requests]
    exact ⟨(sound.answered answer known).1,
      fun id found => (sound.answered answer known).2 id (pending id _ found).1⟩
  completed completion known := by
    obtain ⟨index, task, hasCompleted⟩ := sound.completed completion known
    exact ⟨index, task, completed index hasCompleted⟩
  once := sound.once
  latest := sound.latest
  removed := sound.removed

/-- The call that has the client stays the same. -/
theorem of_keeps (sound : history.Sound state) (keeps : KeepsWaiters state after)
    (operation : after.operation = state.operation)
    (completed : ∀ index, state.HasCompleted index → after.HasCompleted index) :
    history.Sound after := by
  refine sound.evolve ?_ keeps.requests keeps.answered completed ?_
  · intro id request found
    obtain same | cleared := keeps.pending
    · rw [same] at found
      obtain ⟨own, frame, current, rest⟩ := sound.owned id request found
      exact ⟨found, own, frame, operation.trans current, rest⟩
    · rw [cleared, AList.lookup_empty] at found
      cases found
  · intro own current
    rw [operation] at current
    exact ⟨sound.regular own current, sound.fresh own current⟩

/-- A call begins. -/
theorem of_start (sound : history.Sound state) (free : state.operation = none)
    (same : SameWaiters state after)
    (completed : ∀ index, state.HasCompleted index → after.HasCompleted index)
    (begun : ∀ operation ∈ after.operation, operation.request = none ∧ operation.Regular) :
    history.Sound after := by
  refine sound.evolve ?_ same.requests same.answered completed ?_
  · intro id request found
    rw [same.pending, sound.lookup_eq_none (by simp [free]) id] at found
    cases found
  · intro operation current
    refine ⟨(begun operation current).2, ?_⟩
    rw [(begun operation current).1]
    exact fun request registered => by cases registered

/-- A step that the history says nothing about. -/
theorem recorded {move : Move} (sound : history.Sound after) (background : move.isBackground = true)
    (answered : after.answered = state.answered) : (record state move after history).Sound after := by
  rw [record_of_unanswered background answered]
  exact sound

/-- What a call takes out is its own. -/
theorem with_removals (sound : history.Sound after) {new : List Removal}
    (own : ∀ removal ∈ new, removal.remover = some removal.entry) :
    { history with removals := history.removals ++ new }.Sound after :=
  { sound with
    removed := fun removal known => (List.mem_append.mp known).elim (sound.removed removal)
      (own removal) }

/-- A call stops waiting, and there is no entry any more. -/
theorem of_return (sound : history.Sound state)
    (pending : ∀ id, after.core.pending.lookup id = none)
    (requests : after.requests = state.requests) (answered : after.answered = state.answered)
    (completed : ∀ index, state.HasCompleted index → after.HasCompleted index)
    (regular : ∀ operation ∈ after.operation, operation.Regular ∧ operation.request = none) :
    history.Sound after := by
  refine sound.evolve ?_ requests answered completed ?_
  · intro id request found
    cases (pending id).symm.trans found
  · intro operation current
    obtain ⟨isRegular, unregistered⟩ := regular operation current
    refine ⟨isRegular, ?_⟩
    rw [unregistered]
    exact fun request registered => by cases registered

end Waiters.Sound

namespace ClientState

variable {setting : ClientSetting} {state after : ClientState}

theorem HasCompleted.of_quiet {index : Nat} (completed : state.HasCompleted index)
    (quiet : Quiet state after) : after.HasCompleted index := by
  obtain ⟨task, isTask, stage⟩ := completed
  exact ⟨task, task_of_quiet isTask quiet, stage⟩

theorem HasCompleted.work [RustText] {index other : Nat} {answer : Answer} {task : Task}
    (completed : state.HasCompleted index) (isTask : state.tasks[other]? = some task) :
    (state.work setting other answer task).HasCompleted index := by
  obtain ⟨own, isOwn, stage⟩ := completed
  by_cases same : other = index
  · subst same
    obtain rfl := Option.some.inj (isTask.symm.trans isOwn)
    cases isStage : own.stage <;> rw [isStage] at stage
    case responding frame =>
      have advanced := advance_task isTask own (.finished frame)
      refine ⟨{ own with stage := .finished frame }, ?_, rfl⟩
      simp only [ClientState.work, isStage, handleFrame]
      exact advanced
    case finished frame =>
      refine ⟨own, ?_, isStage ▸ rfl⟩
      simp only [ClientState.work, isStage, handleFrame]
      exact isTask
    all_goals cases stage
  · exact ⟨own, work_other same isOwn, stage⟩

end ClientState

/-! ## Steps -/

namespace Waiters.Sound

variable [RustText] {setting : ClientSetting} {history : Waiters} {state after : ClientState}
  {operation : Operation} {answer : Answer}

/-- From an ordinary stage: the condition keeps a call from returning with its entry. -/
theorem ordinary (sound : history.Sound state) (current : state.operation = some operation)
    (sends : state.sendsThrough setting (.operate answer) = true)
    (ordinary : operation.stage.isOrdinary = true)
    (operated : state.operate setting operation answer = some after) :
    after.answered = state.answered ∧ history.Sound after := by
  have regular := sound.regular operation current
  have fresh := sound.fresh operation current
  have completed := fun index (done : state.HasCompleted index) =>
    done.of_quiet (ClientState.operate_quiet setting operated)
  obtain ⟨same, step⟩ := ClientState.operate_ordinary setting ordinary regular.waits operated
  -- an entry of the call is still the call's, if the request stays the same
  have owned : ∀ next : Operation, after.operation = some next → next.call = operation.call →
      next.request = operation.request → ∀ id request,
        after.core.pending.lookup id = some request →
          state.core.pending.lookup id = some request ∧ after.Owns id request := by
    intro next isNext call request id number found
    rw [same.pending] at found
    obtain ⟨own, frame, isOwn, registered, waits, isId⟩ := sound.owned id number found
    obtain rfl := Option.some.inj (current.symm.trans isOwn)
    exact ⟨found, next, frame, isNext, request.trans registered, call.trans waits, isId⟩
  refine ⟨same.answered, ?_⟩
  cases step with
  | leads next isNext leads =>
      refine sound.evolve (owned next isNext leads.call leads.request) same.requests same.answered
        completed ?_
      intro own isOwn
      obtain rfl := Option.some.inj (isNext.symm.trans isOwn)
      exact ⟨regular.leads leads, leads.request ▸ fresh⟩
  | waits request registered isNext =>
      refine sound.evolve (owned _ isNext rfl rfl) same.requests same.answered completed ?_
      intro own isOwn
      obtain rfl := Option.some.inj (isNext.symm.trans isOwn)
      obtain ⟨frame, waits⟩ := regular.waits request registered
      refine ⟨.of_registered waits rfl fun number stage => ?_, fresh⟩
      cases stage
      exact registered
  | returns ended failed =>
      refine sound.of_return ?_ same.requests same.answered completed (by simp [ended])
      intro id
      rw [same.pending]
      refine Option.eq_none_iff_forall_not_mem.mpr fun request found => ?_
      obtain ⟨own, frame, isOwn, registered, waits, rfl⟩ := sound.owned id request found
      obtain rfl := Option.some.inj (current.symm.trans isOwn)
      obtain unregistered | failed := failed
      · cases unregistered.symm.trans registered
      · have unsent := failed frame waits
        rw [Option.mem_def] at found
        simp [ClientState.sendsThrough, current, waits, unsent, found] at sends

/-- A call registers, and goes on to send. -/
theorem register (sound : history.Sound state) (current : state.operation = some operation)
    (stage : operation.stage = .registering)
    (sends : state.sendsThrough setting (.operate answer) = true)
    (operated : state.operate setting operation answer = some after) :
    after.answered = state.answered ∧ ∃ frame, operation.call = .sendAndWait frame ∧
      { history with registered := history.registered ++ [(frame.messageId, state.requests)]
        }.Sound after := by
  have regular := sound.regular operation current
  obtain ⟨frame, waits⟩ := regular.registers stage
  have unregistered : operation.request = none := regular.unregistered (by rw [stage]; rfl)
  have nobody := sound.lookup_eq_none (fun own isOwn => by
    obtain rfl := Option.some.inj (current.symm.trans isOwn)
    exact unregistered)
  have completed := fun index (done : state.HasCompleted index) =>
    done.of_quiet (ClientState.operate_quiet setting operated)
  simp only [ClientState.operate, stage, waits, Call.frame, Option.map_some,
    Option.some.injEq] at operated
  subst operated
  have same := ClientState.startSend_sameWaiters setting { state with
    requests := state.requests + 1
    core := { state.core with
      pending := state.core.pending.insert frame.messageId state.requests } }
    { operation with request := some state.requests }
  -- the condition excludes that the attempts to reconnect are used up
  have goesOn : ∃ next, (state.register setting operation frame).operation = some next ∧
      { operation with request := some state.requests }.Leads next := by
    simp only [ClientState.sendsThrough, current, Option.all_some, waits, stage, ne_eq,
      not_true_eq_false, decide_false, Bool.false_and, Bool.false_or, ClientState.sendsAt,
      Bool.or_eq_true, Bool.not_eq_true', Option.isNone_iff_eq_none] at sends
    simp only [ClientState.register, ClientState.startSend]
    split
    next reconnects =>
      obtain connected | attempts := sends
      · cases connected.symm.trans reconnects
      · simp only [ClientState.tryReconnect, attempts]
        exact ⟨_, rfl, rfl, rfl, rfl⟩
    next => exact ⟨_, rfl, rfl, rfl, rfl⟩
  obtain ⟨next, isNext, leads⟩ := goesOn
  have found : ∀ id request,
      (state.register setting operation frame).core.pending.lookup id = some request →
        id = frame.messageId ∧ request = state.requests := by
    intro id request found
    rw [show (state.register setting operation frame).core.pending = _ from same.pending] at found
    by_cases isId : id = frame.messageId
    · subst isId
      rw [AList.lookup_insert] at found
      exact ⟨rfl, (Option.some.inj found).symm⟩
    · rw [AList.lookup_insert_ne isId, nobody id] at found
      cases found
  refine ⟨same.answered, frame, waits, ?_, ?_, ?_, ?_, ?_, ?_, sound.once, sound.latest,
    sound.removed⟩
  · intro own isOwn
    obtain rfl := Option.some.inj (isNext.symm.trans isOwn)
    refine .of_registered (leads.call.trans waits)
      (Stage.isUnregistered_of_isOrdinary leads.stage) fun number isWaiting => ?_
    have ordinary := leads.stage
    rw [isWaiting] at ordinary
    cases ordinary
  · intro own isOwn request registered
    obtain rfl := Option.some.inj (isNext.symm.trans isOwn)
    rw [leads.request] at registered
    obtain rfl := Option.some.inj registered
    rw [show (state.register setting operation frame).requests = _ from same.requests]
    exact Nat.lt_succ_self _
  · intro id request isFound
    obtain ⟨rfl, rfl⟩ := found id request isFound
    exact ⟨next, frame, isNext, leads.request, leads.call.trans waits, rfl⟩
  · intro id request isFound
    obtain ⟨rfl, rfl⟩ := found id request isFound
    rw [Waiters.latest_append, if_pos rfl]
  · intro answer known
    rw [show (state.register setting operation frame).answered = _ from same.answered] at known
    have old := (sound.answered answer known).1
    rw [show (state.register setting operation frame).requests = _ from same.requests]
    refine ⟨Nat.lt_succ_of_lt old, fun id isFound => ?_⟩
    obtain ⟨-, isNew⟩ := found id _ isFound
    omega
  · intro completion known
    obtain ⟨index, task, done⟩ := sound.completed completion known
    exact ⟨index, task, completed index done⟩

/-- A call stops waiting: it was answered, or it takes its entry out. -/
theorem stopWaiting {request : Nat} (sound : history.Sound state)
    (current : state.operation = some operation) (stage : operation.stage = .waiting request)
    (operated : state.operate setting operation answer = some after) :
    after.answered = state.answered ∧ history.Sound after := by
  have regular := sound.regular operation current
  have registered := regular.waiting request stage
  obtain ⟨frame, waits⟩ := regular.waits request registered
  have completed := fun index (done : state.HasCompleted index) =>
    done.of_quiet (ClientState.operate_quiet setting operated)
  -- the entry of the call is the only one there may be
  have only : ∀ id number, state.core.pending.lookup id = some number →
      id = frame.messageId ∧ number = request := by
    intro id number found
    obtain ⟨own, ownFrame, isOwn, isNumber, isCall, rfl⟩ := sound.owned id number found
    obtain rfl := Option.some.inj (current.symm.trans isOwn)
    cases waits.symm.trans isCall
    exact ⟨rfl, Option.some.inj (isNumber.symm.trans registered)⟩
  have cancelled : ∀ id, (state.core.pending.erase frame.messageId).lookup id = none := by
    intro id
    by_cases isId : id = frame.messageId
    · rw [isId, AList.lookup_erase]
    · rw [AList.lookup_erase_ne isId]
      exact Option.eq_none_iff_forall_not_mem.mpr fun number found => isId (only id number found).1
  have stopped : ∀ result, (state.withCore { state.core with
      pending := state.core.pending.erase frame.messageId }).finish operation result = after →
        after.answered = state.answered ∧ history.Sound after := by
    rintro result rfl
    have same := ClientState.finish_sameWaiters (state.withCore { state.core with
      pending := state.core.pending.erase frame.messageId }) operation result
    refine ⟨same.answered, ?_⟩
    refine sound.of_return (fun id => ?_) same.requests same.answered completed (by simp)
    rw [same.pending]
    exact cancelled id
  simp only [ClientState.operate, stage, waits, Call.frame, Option.bind_some,
    ClientState.await] at operated
  split at operated
  next answered =>
    obtain rfl := Option.some.inj operated
    have same := state.finish_sameWaiters operation (.ok ())
    refine ⟨same.answered, ?_⟩
    refine sound.of_return (fun id => ?_) same.requests same.answered completed (by simp)
    obtain ⟨response, known, isRequest⟩ := List.any_eq_true.mp answered
    rw [same.pending]
    refine Option.eq_none_iff_forall_not_mem.mpr fun number found => ?_
    obtain ⟨-, rfl⟩ := only id number found
    refine (sound.answered response known).2 id ?_
    rw [of_decide_eq_true isRequest]
    exact found
  next =>
    split at operated
    · exact stopped _ (Option.some.inj operated)
    · split at operated
      · exact stopped _ (Option.some.inj operated)
      · cases operated

/-- A call that registered nothing disconnects. -/
theorem disconnect (sound : history.Sound state) (current : state.operation = some operation)
    (unregistered : operation.stage.isUnregistered = true)
    (registered : operation.stage ≠ .registering)
    (operated : state.operate setting operation answer = some after) :
    after.answered = state.answered ∧ history.Sound after := by
  have request := (sound.regular operation current).unregistered unregistered
  have completed := fun index (done : state.HasCompleted index) =>
    done.of_quiet (ClientState.operate_quiet setting operated)
  have nobody := sound.lookup_eq_none (fun own isOwn => by
    obtain rfl := Option.some.inj (current.symm.trans isOwn)
    exact request)
  cases stage : operation.stage <;>
    simp only [ClientState.operate, stage, Option.some.injEq] at operated <;>
    rw [stage] at unregistered registered
  case registering => exact absurd rfl registered
  case disconnecting line =>
    subst operated
    refine ⟨rfl, sound.of_return nobody rfl rfl completed fun own isOwn => ?_⟩
    obtain rfl := Option.some.inj isOwn
    exact ⟨.of_unregistered request (fun _ stage => by cases stage) (fun stage => by cases stage),
      request⟩
  case disconnected line =>
    subst operated
    have same := (ClientState.announce_sameWaiters setting (state.proceed operation .leaving) line
      (.disconnected setting.protocol.closeReason))
    refine ⟨same.answered, ?_⟩
    refine sound.of_return (same.pending ▸ nobody) same.requests same.answered completed ?_
    intro own isOwn
    rw [(ClientState.announce_undisturbed setting _ _ _).operation] at isOwn
    obtain rfl := Option.some.inj isOwn
    exact ⟨.of_unregistered request (fun _ stage => by cases stage) (fun stage => by cases stage),
      request⟩
  case leaving =>
    subst operated
    have cleared := ClientState.handleTerminalEvent_sameWaiters setting
      (state.withCore { state.core with pending := ∅ }) (.disconnected "Client disconnected")
    have same := (ClientState.finish_sameWaiters _ operation
      (if answer.succeeds then .ok () else .error answer.error)).after cleared
    refine ⟨same.answered, ?_⟩
    refine sound.of_return (fun id => ?_) same.requests same.answered completed (by simp)
    rw [same.pending]
    exact AList.lookup_empty id
  all_goals cases unregistered

/-- Every step of a call. -/
theorem operate (sound : history.Sound state) (current : state.operation = some operation)
    (sends : state.sendsThrough setting (.operate answer) = true)
    (operated : state.operate setting operation answer = some after) :
    (record state (.operate answer) after history).Sound after := by
  have regular := sound.regular operation current
  have own : ∀ id entry, state.core.pending.lookup id = some entry →
      operation.request = some entry := by
    intro id entry found
    obtain ⟨other, frame, isOther, registered, -⟩ := sound.owned id entry found
    obtain rfl := Option.some.inj (current.symm.trans isOther)
    exact registered
  have removals : ∀ remover : Option Nat, remover = operation.request ∨
      operation.request = none → ∀ removal ∈ (removedEntries state.core.pending
        after.core.pending).map fun entry => (⟨remover, entry⟩ : Removal),
          removal.remover = some removal.entry := by
    intro remover owner removal known
    obtain ⟨entry, removed, rfl⟩ := List.mem_map.mp known
    obtain ⟨id, found, -⟩ := mem_removedEntries.mp removed
    obtain rfl | unregistered := owner
    · exact own id entry found
    · cases unregistered.symm.trans (own id entry found)
  by_cases registers : operation.stage = .registering
  · obtain ⟨answered, frame, waits, registered⟩ := sound.register current registers sends operated
    have recorded : state.registration (.operate answer) =
        some (frame.messageId, state.requests) := by
      simp [ClientState.registration, current, registers, waits, Call.frame]
    have unregistered := regular.unregistered (by rw [registers]; rfl)
    simp only [record, answered, List.drop_length, List.map_nil, List.append_nil, recorded,
      Option.toList_some, Option.elim_some]
    exact registered.with_removals (removals _ (.inr unregistered))
  · have recorded : state.registration (.operate answer) = none := by
      simp [ClientState.registration, current, registers]
    have kept : after.answered = state.answered ∧ history.Sound after := by
      by_cases ordinary : operation.stage.isOrdinary = true
      · exact sound.ordinary current sends ordinary operated
      · by_cases unregistered : operation.stage.isUnregistered = true
        · exact sound.disconnect current unregistered registers operated
        · cases stage : operation.stage <;> rw [stage] at ordinary unregistered
          case waiting request => exact sound.stopWaiting current stage operated
          all_goals first | exact absurd rfl ordinary | exact absurd rfl unregistered
    obtain ⟨answered, isSound⟩ := kept
    simp only [record, answered, List.drop_length, List.map_nil, List.append_nil, recorded,
      Option.toList_none, Option.elim_none, current, Option.bind_some]
    exact isSound.with_removals (removals _ (.inl rfl))

/-- An inbound frame takes the entry under its id out. -/
theorem matchResponse {index : Nat} {task : FrameTask} {frame : Frame}
    (sound : history.Sound state) (isTask : state.tasks[index]? = some (.frame task))
    (stage : task.stage = .matching frame) :
    (record state (.work index answer) (state.work setting index answer (.frame task))
      history).Sound (state.work setting index answer (.frame task)) := by
  have completed := fun other (done : state.HasCompleted other) =>
    (done.work isTask : (state.work setting index answer (.frame task)).HasCompleted other)
  simp only [ClientState.work, stage, ClientState.handleFrame] at completed ⊢
  cases entry : state.core.pending.lookup frame.messageId with
  | none =>
      have result : state.matchResponse index task frame =
          state.advance index task (.dispatching frame) := by
        simp only [ClientState.matchResponse, entry]
      rw [result] at completed ⊢
      refine Sound.recorded ?_ rfl rfl
      exact sound.of_keeps ⟨.inl rfl, rfl, rfl⟩ rfl completed
  | some request =>
      obtain ⟨operation, own, current, registered, waits, isId⟩ :=
        sound.owned frame.messageId request entry
      have awaited : state.isAwaited request = true := by
        simp [ClientState.isAwaited, current, registered]
      have result : state.matchResponse index task frame =
          { (state.withCore { state.core with
              pending := state.core.pending.erase frame.messageId }).advance index task
                (.responding frame) with
            answered := state.answered ++ [(request, frame)] } := by
        simp only [ClientState.matchResponse, entry, awaited, if_true]
      rw [result] at completed ⊢
      have nobody : ∀ id, (state.core.pending.erase frame.messageId).lookup id = none := by
        intro id
        by_cases same : id = frame.messageId
        · rw [same, AList.lookup_erase]
        · rw [AList.lookup_erase_ne same]
          refine Option.eq_none_iff_forall_not_mem.mpr fun number found => ?_
          obtain ⟨other, otherFrame, isOther, -, isCall, rfl⟩ := sound.owned id number found
          obtain rfl := Option.some.inj (current.symm.trans isOther)
          cases waits.symm.trans isCall
          exact same isId
      simp only [record, ClientState.registration, Option.toList_none, List.append_nil,
        List.drop_left, List.map_cons, List.map_nil, Move.task]
      refine ⟨sound.regular, sound.fresh, ?_, ?_, ?_, ?_, ?_, ?_, sound.removed⟩
      · intro id number found
        cases (nobody id).symm.trans found
      · intro id number found
        cases (nobody id).symm.trans found
      · intro response known
        obtain old | new := List.mem_append.mp known
        · exact ⟨(sound.answered response old).1, fun id found => by cases (nobody id).symm.trans found⟩
        · obtain rfl := List.mem_singleton.mp new
          exact ⟨sound.fresh operation current request registered,
            fun id found => by cases (nobody id).symm.trans found⟩
      · intro completion known
        obtain old | new := List.mem_append.mp known
        · obtain ⟨other, isOther, done⟩ := sound.completed completion old
          exact ⟨other, isOther, completed other done⟩
        · obtain rfl := List.mem_singleton.mp new
          exact ⟨index, rfl, _, ClientState.advance_task isTask task (.responding frame), rfl⟩
      · rw [List.map_append, List.nodup_append]
        refine ⟨sound.once, List.nodup_singleton _, ?_⟩
        rintro _ known _ new rfl
        obtain ⟨completion, isKnown, isTaskOf⟩ := List.mem_map.mp known
        obtain ⟨other, isOther, done, isDone, late⟩ := sound.completed completion isKnown
        cases (isOther.symm.trans isTaskOf).trans (List.mem_singleton.mp new)
        cases isTask.symm.trans isDone
        rw [stage] at late
        cases late
      · intro completion known
        obtain old | new := List.mem_append.mp known
        · exact sound.latest completion old
        · obtain rfl := List.mem_singleton.mp new
          exact sound.registered frame.messageId request entry

/-- A step of a task. -/
theorem work {index : Nat} {task : Task} (sound : history.Sound state)
    (isTask : state.tasks[index]? = some task) :
    (record state (.work index answer) (state.work setting index answer task) history).Sound
      (state.work setting index answer task) := by
  by_cases matching : ∃ own frame, task = .frame own ∧ own.stage = .matching frame
  · obtain ⟨own, frame, rfl, stage⟩ := matching
    exact sound.matchResponse isTask stage
  · have keeps : KeepsWaiters state (state.work setting index answer task) :=
      state.work_keepsWaiters setting index answer
        fun own frame isFrame stage => matching ⟨own, frame, isFrame, stage⟩
    refine Sound.recorded ?_ rfl keeps.answered
    exact sound.of_keeps keeps (state.work_undisturbed setting index answer task).operation
      fun other done => done.work isTask

/-- Every step of the client. -/
theorem perform {move : Move} (sound : history.Sound state)
    (sends : state.sendsThrough setting move = true)
    (performed : state.perform setting move = some after) :
    (record state move after history).Sound after := by
  cases move with
  | call call =>
      simp only [ClientState.perform, Option.ite_none_right_eq_some, Option.isNone_iff_eq_none]
        at performed
      obtain ⟨⟨free, -⟩, started⟩ := performed
      obtain rfl := Option.some.inj started
      have same := state.start_sameWaiters setting call
      refine Sound.recorded ?_ rfl same.answered
      exact sound.of_start free same
        (fun index done => done.of_quiet (state.start_quiet setting call))
        fun operation current => state.start_unregistered setting call current
  | submit frame waits =>
      obtain rfl := Option.some.inj performed
      refine Sound.recorded ?_ rfl rfl
      exact sound.of_keeps ⟨.inl rfl, rfl, rfl⟩ rfl fun _ done => done
  | send index answer =>
      obtain ⟨sender, -, sent⟩ := Option.bind_eq_some_iff.mp performed
      have same := ClientState.sendStep_sameWaiters sent
      have quiet := ClientState.perform_quiet setting performed fun _ _ => Move.noConfusion
      refine Sound.recorded ?_ rfl same.answered
      obtain only | ⟨free, stage, call, -, rfl⟩ := ClientState.sendStep_eq_some sent
      · exact sound.of_keeps same.keeps only.operation fun _ done => done.of_quiet quiet
      · exact sound.of_start free same (fun _ done => done.of_quiet quiet)
          fun operation current => ClientState.start_unregistered setting _ call current
  | operate answer =>
      obtain ⟨operation, current, operated⟩ := Option.bind_eq_some_iff.mp performed
      exact sound.operate current sends operated
  | read line event =>
      simp only [ClientState.perform, ClientState.read, Option.ite_none_right_eq_some] at performed
      obtain ⟨-, taken⟩ := performed
      obtain rfl := Option.some.inj taken
      refine Sound.recorded ?_ rfl rfl
      exact sound.of_keeps ⟨.inl rfl, rfl, rfl⟩ rfl fun _ done => done
  | handOver line =>
      have quiet := ClientState.perform_quiet setting performed fun _ _ => Move.noConfusion
      obtain ⟨event, -, rfl⟩ := Option.map_eq_some_iff.mp performed
      have same : SameWaiters state ((state.clearReading line).deliver setting line event) :=
        (ClientState.deliver_sameWaiters setting _ line event).after ⟨rfl, rfl, rfl⟩
      refine Sound.recorded ?_ rfl same.answered
      exact sound.of_keeps same.keeps
        (ClientState.deliver_undisturbed setting (state.clearReading line) line event).operation
        fun _ done => done.of_quiet quiet
  | work index answer =>
      obtain ⟨task, isTask, rfl⟩ := Option.map_eq_some_iff.mp performed
      exact sound.work (Option.filter_eq_some_iff.mp isTask).1

end Waiters.Sound

/-! ## Runs -/

/-- **In every run in which no call that waits for a response fails to send, each frame completes
at most one request, the one registered last under its id; a call that has returned has no entry;
and no call takes out the entry of another.** -/
theorem waiters_settled [RustText] (setting : ClientSetting) {start state : ClientState}
    {history : Waiters} (begins : start.IsInitial setting.config)
    (reached : (waitersClient setting).Reaches (SendsThrough setting) (start, .initial)
      (state, history)) : history.Settled state := by
  have sound : history.Sound state := by
    refine System.Reaches.invariant (I := fun reached => reached.2.Sound reached.1) reached ?_ ?_
    · have nothing : Waiters.initial.Sound start := by
        obtain rfl | rfl := begins <;> constructor <;>
          simp [Waiters.initial, ClientState.new, ClientState.prepared, ClientCore.new]
      exact nothing
    · rintro before after ⟨move, sends, stepped⟩ sound
      obtain ⟨taken, recorded⟩ := System.recording_step_eq_some stepped
      obtain ⟨performed, isPerformed, settled⟩ := Option.map_eq_some_iff.mp taken
      have next := sound.perform sends isPerformed
      rw [recorded, ← settled]
      exact ⟨next.regular, next.fresh, next.owned, next.registered, next.answered, next.completed,
        next.once, next.latest, next.removed⟩
  exact sound.settled

section Examples

open scoped AsciiText

/-- A dial that fails. -/
def refused : Answer := ⟨false, false, .connectionFailed "refused"⟩

/-- The first message is a request, and the message that arrives after it is the response: the
request is completed by its frame, and the theorem applies. -/
theorem waiters_settled_answered :
    ∃ state history, (waitersClient reading).Reaches (SendsThrough reading)
        (.new reading.config, .initial) (state, history) ∧
      history.completions = [⟨some 4, 0, some 0⟩] ∧ state.operation = none ∧
      history.Settled state := by
  have run : ((waitersClient reading).run (.new reading.config, .initial)
      (connectsAndNegotiates ++ .call (.sendAndWait (note "a")) :: operates 2 ++
        arrives 0 (note "a") ++ works 4 2 ++ operates 1)).any
        (fun reached => decide (reached.2.completions = [⟨some 4, 0, some 0⟩] ∧
          reached.1.operation = none)) = true := by
    decide +kernel
  have permitted : (waitersClient reading).Permits (SendsThrough reading)
      (.new reading.config, .initial)
      (connectsAndNegotiates ++ .call (.sendAndWait (note "a")) :: operates 2 ++
        arrives 0 (note "a") ++ works 4 2 ++ operates 1) := by
    decide +kernel
  obtain ⟨⟨state, history⟩, reached, holds⟩ := System.exists_reaches_of_run run permitted
  obtain ⟨completed, returned⟩ := of_decide_eq_true holds
  exact ⟨state, history, reached, completed, returned,
    waiters_settled reading (.inl rfl) reached⟩

/-- **The call returns because no connection can be made, and its entry stays.** -/
theorem failed_send_leaves_entry :
    ∃ state history, (waitersClient reading).Reaches System.always
        (.new reading.config, .initial) (state, history) ∧
      state.operation = none ∧ state.core.pending.lookup "a" = some 0 ∧
      ¬history.Settled state := by
  have run : ((waitersClient reading).run (.new reading.config, .initial)
      (.call (.sendAndWait (note "a")) :: operates 3 ++ [.operate refused])).any
        (fun reached => decide (reached.1.operation = none ∧
          reached.1.core.pending.lookup "a" = some 0)) = true := by
    decide +kernel
  obtain ⟨⟨state, history⟩, reached, holds⟩ :=
    System.exists_reaches_of_run run (System.permits_always _ _)
  obtain ⟨returned, found⟩ := of_decide_eq_true holds
  refine ⟨state, history, reached, returned, found, fun settled => ?_⟩
  have awaited := settled.returned "a" 0 found
  rw [ClientState.isAwaited, returned] at awaited
  cases awaited

end Examples

end FlareCore.Client

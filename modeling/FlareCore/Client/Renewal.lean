import FlareCore.Client.Evolution

/-!
# A new connection and what the last one left behind

`Connected` is where a client starts over: what the last connection recorded is cleared, unless
the client was connected already.  It never was when the observer of a new connection is
attached, since a call to connect begins with a state that is not `Connected`, and nothing but
the call itself can change that (`ClientState.Approaching`).

Two things are not cleared.  A client that was once disconnected on request stays so marked,
and the parser keeps the profile of the last negotiation.
-/

namespace FlareCore.Client

open FlareCore.Common FlareCore.Server FlareCore.Foundations

set_option autoImplicit false

/-! ## On the way to a connection -/

/-- The stages before the first `Connected` of a connection. -/
def Stage.precedesConnected : Stage → Bool
  | pausing | retiring _ | retired _ | establishing | replacing _ | replaced _ | dialing
  | settingUp _ | attaching _ | connecting _ _ => true
  | watching _ | greeting _ | confirming _ | announcing _ _ | registering | sending | waiting _
  | disconnecting _ | disconnected _ | leaving => false

/-- What the look at the state of the core has found, if a call has looked. -/
def Stage.foundConnected : Stage → Bool
  | connecting _ alreadyConnected => alreadyConnected
  | pausing | retiring _ | retired _ | establishing | replacing _ | replaced _ | dialing
  | settingUp _ | attaching _ | watching _ | greeting _ | confirming _ | announcing _ _
  | registering | sending | waiting _ | disconnecting _ | disconnected _ | leaving => false

/-- On the way to a connection a client is not connected, and has not been found so. -/
def ClientState.Approaching (state : ClientState) : Prop :=
  ∀ operation ∈ state.operation, operation.stage.precedesConnected = true →
    state.core.state ≠ .connected ∧ operation.stage.foundConnected = false

namespace ClientState

variable (setting : ClientSetting) (state : ClientState)

theorem approaching_of_free {state : ClientState} (free : state.operation = none) :
    state.Approaching := by
  intro operation isOperation
  rw [free] at isOperation
  exact absurd isOperation (Option.not_mem_none operation)

theorem finish_approaching (operation : Operation) (result : Result Unit) :
    (state.finish operation result).Approaching :=
  approaching_of_free (state.finish_operation operation result)

theorem proceed_approaching {state : ClientState} {operation : Operation} {stage : Stage}
    (unconnected : stage.precedesConnected = true → state.core.state ≠ .connected)
    (unfound : stage.foundConnected = false) : (state.proceed operation stage).Approaching := by
  intro current isCurrent precedes
  obtain rfl := Option.some.inj isCurrent
  exact ⟨unconnected precedes, unfound⟩

/-- What leaves the call alone and does not make the client connected. -/
theorem Approaching.of_undisturbed {before after : ClientState} (approaching : before.Approaching)
    (undisturbed : Undisturbed before after)
    (unconnected : before.core.state ≠ .connected → after.core.state ≠ .connected) :
    after.Approaching := by
  intro operation isOperation precedes
  rw [undisturbed.operation] at isOperation
  obtain ⟨notConnected, unfound⟩ := approaching operation isOperation precedes
  exact ⟨unconnected notConnected, unfound⟩

theorem tryReconnect_approaching (operation : Operation) :
    (state.tryReconnect setting operation).Approaching := by
  unfold tryReconnect
  split
  · exact finish_approaching _ operation _
  · exact proceed_approaching (fun _ => ConnectionState.noConfusion) rfl

theorem failConnect_approaching (operation : Operation) (error : FlareError) :
    (state.failConnect setting operation error).Approaching := by
  unfold failConnect
  split
  · exact tryReconnect_approaching setting _ operation
  · exact finish_approaching _ operation _

theorem startConnect_approaching (call : Call) : (state.startConnect setting call).Approaching := by
  unfold startConnect
  split
  · exact proceed_approaching (fun _ => ConnectionState.noConfusion) rfl
  · exact finish_approaching _ _ _

theorem startSend_approaching (operation : Operation) :
    (state.startSend setting operation).Approaching := by
  unfold startSend
  split
  · exact state.tryReconnect_approaching setting operation
  · exact proceed_approaching Bool.noConfusion rfl

theorem start_approaching (call : Call) : (state.start setting call).Approaching := by
  cases call with
  | connect | renew index => exact state.startConnect_approaching setting _
  | disconnect =>
      cases connection : state.connection <;>
        exact proceed_approaching (by simp [connection, Stage.precedesConnected])
          (by simp [connection, Stage.foundConnected])
  | send frame => exact state.startSend_approaching setting _
  | sendAndWait frame =>
      simp only [start]
      split
      · exact finish_approaching _ _ _
      · exact proceed_approaching Bool.noConfusion rfl

theorem establish_approaching {state : ClientState} (operation : Operation)
    (unconnected : state.core.state ≠ .connected) :
    (state.establish setting operation).Approaching := by
  unfold establish
  split <;> exact proceed_approaching (fun _ => unconnected) rfl

/-- The end of a line leaves a client on its way. -/
theorem announce_approaching {state : ClientState} (approaching : state.Approaching) (line : Nat)
    (event : ConnectionEvent) : (state.announce setting line event).Approaching := by
  refine approaching.of_undisturbed (state.announce_undisturbed setting line event) ?_
  intro unconnected
  obtain kept | lost := state.announce_core setting line event
  · rw [kept]
    exact unconnected
  · rw [lost]
    exact state.core.handleTerminalEvent_state_ne_connected unconnected event

theorem greeting_approaching (operation : Operation) (line : Nat) (event : ConnectionEvent) :
    ((state.proceed operation (.greeting line)).onTerminalEvent setting event).Approaching := by
  have undisturbed := (state.proceed operation (.greeting line)).onTerminalEvent_undisturbed
    setting event
  intro current isCurrent precedes
  rw [undisturbed.operation] at isCurrent
  obtain rfl := Option.some.inj isCurrent
  exact Bool.noConfusion precedes

variable [RustText]

theorem operate_approaching {state after : ClientState} {operation : Operation} {answer : Answer}
    (current : state.operation = some operation) (approaching : state.Approaching)
    (operated : state.operate setting operation answer = some after) : after.Approaching := by
  have before := approaching operation current
  cases stage : operation.stage with
  | pausing =>
      rw [stage] at before
      simp only [operate, stage, Option.some.injEq] at operated
      subst operated
      cases connection : state.connection <;>
        exact proceed_approaching (fun _ => (before rfl).1) rfl
  | retiring line =>
      rw [stage] at before
      simp only [operate, stage, Option.some.injEq] at operated
      subst operated
      exact proceed_approaching (fun _ => (before rfl).1) rfl
  | retired line =>
      rw [stage] at before
      simp only [operate, stage, Option.some.injEq] at operated
      subst operated
      exact announce_approaching setting (proceed_approaching (fun _ => (before rfl).1) rfl) line _
  | establishing =>
      rw [stage] at before
      simp only [operate, stage, Option.some.injEq] at operated
      subst operated
      exact establish_approaching setting operation (before rfl).1
  | replacing line =>
      rw [stage] at before
      simp only [operate, stage, Option.some.injEq] at operated
      subst operated
      exact proceed_approaching (fun _ => (before rfl).1) rfl
  | replaced line =>
      rw [stage] at before
      simp only [operate, stage, Option.some.injEq] at operated
      subst operated
      exact announce_approaching setting (proceed_approaching (fun _ => (before rfl).1) rfl) line _
  | dialing =>
      rw [stage] at before
      simp only [operate, stage, Option.some.injEq] at operated
      subst operated
      unfold dial
      split
      · exact proceed_approaching (fun _ => (before rfl).1) rfl
      · exact failConnect_approaching setting _ operation _
  | settingUp line =>
      rw [stage] at before
      simp only [operate, stage, Option.some.injEq] at operated
      subst operated
      exact proceed_approaching (fun _ => (before rfl).1) rfl
  | attaching line =>
      rw [stage] at before
      simp only [operate, stage, Option.some.injEq] at operated
      subst operated
      unfold attach
      split
      · exact proceed_approaching (fun _ => (before rfl).1) (decide_eq_false (before rfl).1)
      · exact greeting_approaching setting _ operation line _
  | connecting line alreadyConnected =>
      simp only [operate, stage, Option.some.injEq] at operated
      subst operated
      exact proceed_approaching Bool.noConfusion rfl
  | watching line =>
      simp only [operate, stage, Option.some.injEq] at operated
      subst operated
      unfold watch
      split
      · exact proceed_approaching Bool.noConfusion rfl
      · exact greeting_approaching setting _ operation line _
  | greeting line =>
      simp only [operate, stage, Option.some.injEq] at operated
      subst operated
      simp only [greet]
      split
      · exact proceed_approaching Bool.noConfusion rfl
      · exact failConnect_approaching setting _ operation _
  | confirming line =>
      simp only [operate, stage, Option.some.injEq] at operated
      subst operated
      exact proceed_approaching Bool.noConfusion rfl
  | announcing line alreadyConnected =>
      simp only [operate, stage, Option.some.injEq] at operated
      subst operated
      simp only [connectDone]
      split
      all_goals first
        | exact proceed_approaching Bool.noConfusion rfl
        | exact finish_approaching _ operation _
  | registering =>
      simp only [operate, stage, Option.map_eq_some_iff] at operated
      obtain ⟨frame, -, rfl⟩ := operated
      exact startSend_approaching setting _ _
  | sending =>
      simp only [operate, stage, Option.map_eq_some_iff] at operated
      obtain ⟨frame, -, rfl⟩ := operated
      simp only [sendFrame]
      split
      all_goals first
        | exact proceed_approaching Bool.noConfusion rfl
        | exact finish_approaching _ operation _
  | waiting request =>
      simp only [operate, stage, Option.bind_eq_some_iff] at operated
      obtain ⟨frame, -, awaited⟩ := operated
      obtain ⟨core, result, -, -, rfl⟩ := await_eq_some awaited
      exact finish_approaching _ operation _
  | disconnecting line =>
      simp only [operate, stage, Option.some.injEq] at operated
      subst operated
      exact proceed_approaching Bool.noConfusion rfl
  | disconnected line =>
      simp only [operate, stage, Option.some.injEq] at operated
      subst operated
      exact announce_approaching setting (proceed_approaching Bool.noConfusion rfl) line _
  | leaving =>
      simp only [operate, stage, Option.some.injEq] at operated
      subst operated
      exact finish_approaching _ operation _

theorem step_approaching {state next : ClientState} {move : Move}
    (stepped : state.step setting move = some next) (approaching : state.Approaching) :
    next.Approaching := by
  obtain ⟨after, performed, rfl⟩ := Option.map_eq_some_iff.mp stepped
  suffices after.Approaching by exact this
  cases move with
  | call call =>
      simp only [perform, Option.ite_none_right_eq_some] at performed
      obtain ⟨-, started⟩ := performed
      exact Option.some.inj started ▸ state.start_approaching setting call
  | submit frame waits =>
      obtain rfl := Option.some.inj performed
      exact approaching
  | send index answer =>
      obtain ⟨sender, -, sent⟩ := Option.bind_eq_some_iff.mp performed
      obtain only | ⟨-, stage, call, -, rfl⟩ := sendStep_eq_some sent
      · intro operation isOperation precedes
        rw [only.operation] at isOperation
        rw [only.agrees.state]
        exact approaching operation isOperation precedes
      · exact start_approaching setting _ call
  | operate answer =>
      obtain ⟨operation, current, operated⟩ := Option.bind_eq_some_iff.mp performed
      exact operate_approaching setting current approaching operated
  | read line event =>
      simp only [perform, read, Option.ite_none_right_eq_some] at performed
      obtain ⟨-, taken⟩ := performed
      exact Option.some.inj taken ▸ approaching
  | handOver line =>
      obtain ⟨event, -, rfl⟩ := Option.map_eq_some_iff.mp performed
      have cleared : (state.clearReading line).Approaching := approaching
      exact cleared.of_undisturbed (deliver_undisturbed setting _ line event)
        (deliver_effect setting (state.clearReading line) line event).state_ne_connected
  | work index answer =>
      obtain ⟨task, -, rfl⟩ := Option.map_eq_some_iff.mp performed
      exact approaching.of_undisturbed (state.work_undisturbed setting index answer task)
        (state.work_effect setting index answer task).state_ne_connected

/-- Along every run. -/
theorem reaches_approaching {start state : ClientState} {allowed : ClientState → Move → Prop}
    (initial : start.IsInitial setting.config)
    (reached : (clientSystem setting).Reaches allowed start state) : state.Approaching := by
  refine reached.invariant ?_ ?_
  · obtain rfl | rfl := initial
    · exact approaching_of_free rfl
    · exact approaching_of_free rfl
  · rintro before after ⟨move, -, stepped⟩ approaching
    exact step_approaching setting stepped approaching

end ClientState

/-! ## What a new connection starts with -/

/-- What a core holds about the connection it has. -/
structure ConnectionRecord where
  negotiationCompleted : Bool
  negotiationFailure : Option FlareError
  pendingKick : Option String
  kickReported : Bool
  sessionEndedByServer : Option String
  serverShutdown : Bool
  disconnectRequested : Bool
  profile : Profile
  deriving DecidableEq

namespace ClientCore

def connectionRecord (core : ClientCore) : ConnectionRecord where
  negotiationCompleted := core.negotiationCompleted
  negotiationFailure := core.negotiationFailure
  pendingKick := core.pendingKick
  kickReported := core.kickReported
  sessionEndedByServer := core.sessionEndedByServer
  serverShutdown := core.serverShutdown
  disconnectRequested := core.disconnectRequested
  profile := core.parser.profile

/-- The record of a client that has just been created, after its first `Connected`. -/
def freshRecord (config : ClientConfig) : ConnectionRecord :=
  ((new config).handleConnected false).connectionRecord

theorem handleConnected_record_eq_fresh_iff (core : ClientCore) (config : ClientConfig) :
    (core.handleConnected false).connectionRecord = freshRecord config ↔
      core.disconnectRequested = false ∧ core.parser.profile = config.initialParser.profile := by
  simp [handleConnected, connectionRecord, freshRecord, new]

end ClientCore

section Renewal

variable [RustText] (setting : ClientSetting)

/-- **A new connection starts afresh** exactly if the client was never disconnected on request
and its parser still has the profile it began with. -/
theorem connection_starts_afresh_iff {start state next : ClientState} {operation : Operation}
    {line : Nat} {alreadyConnected : Bool} {answer : Answer}
    (initial : start.IsInitial setting.config)
    (reached : (clientSystem setting).Reaches System.always start state)
    (current : state.operation = some operation)
    (stage : operation.stage = .connecting line alreadyConnected)
    (stepped : state.step setting (.operate answer) = some next) :
    next.core.connectionRecord = ClientCore.freshRecord setting.config ↔
      state.core.disconnectRequested = false ∧
        state.core.parser.profile = setting.config.initialParser.profile := by
  have approaching := ClientState.reaches_approaching setting initial reached operation current
  rw [stage] at approaching
  obtain rfl : alreadyConnected = false := (approaching rfl).2
  have after : next.core = state.core.handleConnected false := by
    obtain ⟨after, performed, rfl⟩ := Option.map_eq_some_iff.mp stepped
    simp only [ClientState.perform, current, Option.bind_some, ClientState.operate, stage,
      Option.some.injEq] at performed
    rw [← performed]
    rfl
  rw [after]
  exact state.core.handleConnected_record_eq_fresh_iff setting.config

end Renewal

/-! ## Concrete runs -/

section Runs

open scoped AsciiText

/-- The first connection of a client: the theorem applies. -/
theorem connection_starts_afresh_iff_first :
    ∃ state next, (clientSystem (.builtin .webSocket [])).Reaches System.always
        (.new (ClientSetting.builtin .webSocket []).config) state ∧
      state.step (.builtin .webSocket []) (.operate granted) = some next ∧
      next.core.connectionRecord =
        ClientCore.freshRecord (ClientSetting.builtin .webSocket []).config := by
  have run : ((clientSystem (.builtin .webSocket [])).run
      (.new (ClientSetting.builtin .webSocket []).config) (.call .connect :: operates 4)).any
        (fun state => decide (
          state.operation = some ⟨.connect, none, true, .connecting 0 false⟩ ∧
          state.core.disconnectRequested = false ∧
          state.core.parser.profile =
            (ClientSetting.builtin .webSocket []).config.initialParser.profile)) = true := by
    decide +kernel
  obtain ⟨state, reached, holds⟩ :=
    System.exists_reaches_of_run run (System.permits_always _ _)
  obtain ⟨current, unrequested, same⟩ := of_decide_eq_true holds
  have stepped : ∃ next, state.step (.builtin .webSocket []) (.operate granted) = some next := by
    simp [ClientState.step, ClientState.perform, current, ClientState.operate]
  obtain ⟨next, stepped⟩ := stepped
  exact ⟨state, next, reached, stepped, (connection_starts_afresh_iff _ (.inl rfl) reached current
    rfl stepped).mpr ⟨unrequested, same⟩⟩

/-- **A client that was disconnected on request and connects again is still marked.** -/
theorem disconnect_request_outlives_connect :
    ∃ state, (clientSystem (.builtin .webSocket [])).Reaches System.always
        (.new (ClientSetting.builtin .webSocket []).config) state ∧
      state.operation = some ⟨.connect, none, true, .watching 0⟩ ∧
      state.core.connectionRecord ≠
        ClientCore.freshRecord (ClientSetting.builtin .webSocket []).config := by
  have run : ((clientSystem (.builtin .webSocket [])).run
      (.new (ClientSetting.builtin .webSocket []).config)
      (.call .disconnect :: operates 1 ++ .call .connect :: operates 5)).any
        (fun state => decide (
          state.operation = some ⟨.connect, none, true, .watching 0⟩ ∧
          state.core.connectionRecord ≠
            ClientCore.freshRecord (ClientSetting.builtin .webSocket []).config)) = true := by
    decide +kernel
  obtain ⟨state, reached, holds⟩ :=
    System.exists_reaches_of_run run (System.permits_always _ _)
  exact ⟨state, reached, of_decide_eq_true holds⟩

end Runs

end FlareCore.Client

import FlareCore.Client.Evolution

/-!
# Sending after the session has ended

A KICKED that ends the session, and a disconnection on request, are to keep the client offline
until the application connects again by itself: no send may bring the connection back.  The two
marks are looked at before a send reconnects, under the lock of the client, and nothing but
`Connected` takes the first of them back.

A call that is on its way to a connection has looked already, and the `Connected` it reports
erases the mark.  So the marks hold if no KICKED ends the session while such a call is under
way, and only then.
-/

namespace FlareCore.Client

open FlareCore.Common FlareCore.Server FlareCore.Foundations

set_option autoImplicit false

/-! ## Who connects, and what forbids it -/

/-- The stages from the decision to connect to the last `Connected`. -/
def Stage.isConnecting : Stage → Bool
  | pausing | retiring _ | retired _ | establishing | replacing _ | replaced _ | dialing
  | settingUp _ | attaching _ | connecting _ _ | watching _ | greeting _ | confirming _
  | announcing _ _ => true
  | registering | sending | waiting _ | disconnecting _ | disconnected _ | leaving => false

/-- The calls that are made for the sake of a send. -/
def Call.isSend : Call → Bool
  | send _ | sendAndWait _ | renew _ => true
  | connect | disconnect => false

/-- The task at hand records that the server has ended the session. -/
def ClientCore.endsSessionBy (core : ClientCore) : Task → Bool
  | .frame ⟨_, _, negotiated, .kicked _ command⟩ =>
      negotiated && !core.disconnectRequested && endsSession (kickReason command)
  | _ => false

/-- The client is to stay offline from here on. -/
def ClientState.bars (state : ClientState) : Move → Bool
  | .call .disconnect => true
  | .work index _ => state.tasks[index]?.any state.core.endsSessionBy
  | _ => false

/-- The application connects. -/
def Move.isConnect : Move → Bool
  | .call .connect => true
  | _ => false

/-- A transport connection is established for the sake of a send. -/
def ClientState.dialsForSend (state : ClientState) : Move → Bool
  | .operate answer =>
      answer.succeeds && state.operation.any fun operation =>
        operation.stage = .dialing && operation.call.isSend
  | _ => false

/-- Whether the client is to stay offline, and whether a send has connected it all the same. -/
structure SessionHistory where
  barred : Bool
  breached : Bool
  deriving DecidableEq

def SessionHistory.initial : SessionHistory := ⟨false, false⟩

def SessionHistory.record (state : ClientState) (move : Move) (_ : ClientState)
    (history : SessionHistory) : SessionHistory where
  barred := state.bars move || (history.barred && !move.isConnect)
  breached := history.breached || (history.barred && state.dialsForSend move)

/-- A KICKED ends the session only while no call is on its way to a connection. -/
def EndsBetweenConnects (state : ClientState) : Move → Prop
  | .work index _ => (state.tasks[index]?.any state.core.endsSessionBy) = true →
      (state.operation.all fun operation => !operation.stage.isConnecting) = true
  | _ => True

instance (state : ClientState) : ∀ move, Decidable (EndsBetweenConnects state move)
  | .work index _ => inferInstanceAs (Decidable
      ((state.tasks[index]?.any state.core.endsSessionBy) = true →
        (state.operation.all fun operation => !operation.stage.isConnecting) = true))
  | .call _ | .submit _ _ | .send _ _ | .operate _ | .read _ _ | .handOver _ => isTrue trivial

/-- The client with this history. -/
def sessionClient [RustText] (setting : ClientSetting) :
    System (ClientState × SessionHistory) Move :=
  (clientSystem setting).recording SessionHistory.record

/-! ## The marks -/

/-- A mark that keeps the client offline. -/
def ClientCore.Closed (core : ClientCore) : Prop :=
  core.sessionEndedByServer.isSome = true ∨ core.disconnectRequested = true

/-- The client is marked, and no call is on its way to a connection. -/
structure ClientState.Offline (state : ClientState) : Prop where
  closed : state.core.Closed
  idle : ∀ operation ∈ state.operation, operation.stage.isConnecting = false

namespace ClientCore

variable {core after : ClientCore}

theorem Closed.of_agrees (closed : core.Closed) (agrees : core.Agrees after) : after.Closed := by
  unfold Closed
  rw [agrees.sessionEndedByServer, agrees.disconnectRequested]
  exact closed

theorem Closed.handleTerminalEvent (closed : core.Closed) (event : ConnectionEvent) :
    (core.handleTerminalEvent event).1.Closed := by
  unfold Closed
  rw [core.handleTerminalEvent_sessionEndedByServer, core.handleTerminalEvent_disconnectRequested]
  exact closed

/-- No task takes a mark back. -/
theorem Closed.effect [RustText] {setting : ClientSetting} {doer : Option Task}
    (closed : core.Closed) (effect : TaskEffect setting core after doer) : after.Closed := by
  cases effect with
  | keeps agrees => exact closed.of_agrees agrees
  | rejects command agrees =>
      have recorded : (core.recordConnectRejection command).Closed := closed
      exact recorded.of_agrees agrees
  | loses event agrees => exact (closed.handleTerminalEvent event).of_agrees agrees
  | reports agrees =>
      refine Closed.of_agrees ?_ agrees
      unfold takeUnreportedKick
      split <;> exact closed
  | fails error agrees =>
      have failed : Closed { core with negotiationFailure := some error } := closed
      exact failed.of_agrees agrees
  | acknowledges stage read agrees =>
      exact Closed.of_agrees (by exact closed) agrees
  | kicks stage agrees =>
      refine Closed.of_agrees ?_ agrees
      unfold recordKick
      split
      · unfold Closed
        split
        · exact .inl rfl
        · exact closed
      · exact closed

/-- The task of a KICKED that ends the session leaves a mark. -/
theorem closed_of_endsSessionBy [RustText] {setting : ClientSetting} {state : ClientState}
    {index : Nat} {answer : Answer} {task : Task} (ends : state.core.endsSessionBy task = true) :
    (state.work setting index answer task).core.Closed := by
  unfold endsSessionBy at ends
  split at ends
  next line data negotiated frame command =>
    simp only [Bool.and_eq_true, Bool.not_eq_true'] at ends
    obtain ⟨⟨negotiated, unrequested⟩, ending⟩ := ends
    refine Closed.of_agrees ?_ (state.kick_agrees index _ frame command)
    simp only [negotiated, unrequested, Bool.not_false, Bool.and_true]
    simp [Closed, recordKick, ending]
  next => cases ends

end ClientCore

/-! ## One step -/

namespace ClientState

variable {setting : ClientSetting} {state after : ClientState}

theorem offline_of_free (closed : state.core.Closed) (free : state.operation = none) :
    state.Offline where
  closed := closed
  idle operation isOperation := by
    rw [free] at isOperation
    exact absurd isOperation (Option.not_mem_none operation)

theorem offline_proceed {operation : Operation} {stage : Stage} (closed : state.core.Closed)
    (idle : stage.isConnecting = false) : (state.proceed operation stage).Offline where
  closed := closed
  idle current isCurrent := by
    obtain rfl := Option.some.inj isCurrent
    exact idle

theorem offline_finish {operation : Operation} {result : Result Unit}
    (closed : state.core.Closed) : (state.finish operation result).Offline :=
  offline_of_free (by rw [finish_core]; exact closed) (state.finish_operation operation result)

theorem Offline.of_undisturbed (offline : state.Offline) (undisturbed : Undisturbed state after)
    (closed : after.core.Closed) : after.Offline where
  closed := closed
  idle := by
    rw [undisturbed.operation]
    exact offline.idle

theorem Offline.announce (offline : state.Offline) (line : Nat) (event : ConnectionEvent) :
    (state.announce setting line event).Offline := by
  refine offline.of_undisturbed (state.announce_undisturbed setting line event) ?_
  obtain kept | lost := state.announce_core setting line event
  · rw [kept]
    exact offline.closed
  · rw [lost]
    exact offline.closed.handleTerminalEvent event

/-- Both marks are looked at before a send reconnects. -/
theorem shouldReconnectBeforeSend_of_closed (closed : state.core.Closed) :
    state.shouldReconnectBeforeSend setting = false := by
  unfold shouldReconnectBeforeSend
  obtain ended | requested := closed
  · have unended : state.core.sessionEndedByServer.isNone = false := by
      rw [← Option.not_isSome, ended, Bool.not_true]
    simp [unended]
  · simp [requested]

theorem offline_startSend {operation : Operation} (closed : state.core.Closed) :
    (state.startSend setting operation).Offline := by
  unfold startSend
  rw [shouldReconnectBeforeSend_of_closed closed]
  exact offline_proceed closed rfl

theorem offline_start {call : Call} (closed : state.core.Closed)
    (notConnect : call ≠ .connect) (notRenew : ∀ index, call ≠ .renew index) :
    (state.start setting call).Offline := by
  cases call with
  | connect => exact absurd rfl notConnect
  | renew index => exact absurd rfl (notRenew index)
  | disconnect =>
      cases connection : state.connection <;>
        exact offline_proceed (.inr rfl) (by simp [connection, Stage.isConnecting])
  | send frame => exact offline_startSend closed
  | sendAndWait frame =>
      simp only [start]
      split
      · exact offline_finish closed
      · exact offline_proceed closed rfl

/-- A sender that is permitted to connect has found no mark. -/
theorem not_closed_of_permitted (permitted : state.renewalRefusal setting = none) :
    ¬state.core.Closed := by
  unfold renewalRefusal at permitted
  split at permitted
  · cases permitted
  · split at permitted
    · cases permitted
    next unended =>
      split at permitted
      · cases permitted
      next unrequested =>
        rintro (ended | requested)
        · rw [unended] at ended
          cases ended
        · exact unrequested requested

variable [RustText]

theorem Offline.operate {operation : Operation} {answer : Answer} (offline : state.Offline)
    (current : state.operation = some operation)
    (operated : state.operate setting operation answer = some after) : after.Offline := by
  have idle := offline.idle operation current
  have closed := offline.closed
  cases stage : operation.stage with
  | registering =>
      simp only [ClientState.operate, stage, Option.map_eq_some_iff] at operated
      obtain ⟨frame, -, rfl⟩ := operated
      exact offline_startSend closed
  | sending =>
      simp only [ClientState.operate, stage, Option.map_eq_some_iff] at operated
      obtain ⟨frame, -, rfl⟩ := operated
      simp only [sendFrame]
      split
      · exact offline_finish closed
      · exact offline_proceed closed rfl
      · exact offline_finish closed
  | waiting request =>
      simp only [ClientState.operate, stage, Option.bind_eq_some_iff] at operated
      obtain ⟨frame, -, awaited⟩ := operated
      obtain ⟨core, result, agrees, -, rfl⟩ := await_eq_some awaited
      exact offline_finish (closed.of_agrees agrees)
  | disconnecting line =>
      simp only [ClientState.operate, stage, Option.some.injEq] at operated
      subst operated
      exact offline_proceed closed rfl
  | disconnected line =>
      simp only [ClientState.operate, stage, Option.some.injEq] at operated
      subst operated
      exact Offline.announce (offline_proceed closed rfl) line _
  | leaving =>
      simp only [ClientState.operate, stage, Option.some.injEq] at operated
      subst operated
      have cleared : ClientCore.Closed { state.core with pending := ∅ } := closed
      exact offline_finish (cleared.handleTerminalEvent (.disconnected "Client disconnected"))
  | pausing | retiring line | retired line | establishing | replacing line | replaced line
  | dialing | settingUp line | attaching line | connecting line already | watching line
  | greeting line | confirming line | announcing line already =>
      rw [stage] at idle
      exact Bool.noConfusion idle

/-- An offline client stays offline until the application connects. -/
theorem Offline.step {next : ClientState} {move : Move} (offline : state.Offline)
    (stepped : state.step setting move = some next) (notConnect : move.isConnect = false) :
    next.Offline := by
  obtain ⟨after, performed, rfl⟩ := Option.map_eq_some_iff.mp stepped
  suffices after.Offline by exact ⟨this.closed, this.idle⟩
  cases move with
  | call call =>
      simp only [perform, Option.ite_none_right_eq_some] at performed
      obtain ⟨⟨-, direct⟩, started⟩ := performed
      obtain rfl := Option.some.inj started
      refine offline_start offline.closed ?_ ?_
      · rintro rfl
        exact Bool.noConfusion notConnect
      · rintro index rfl
        exact Bool.noConfusion direct
  | submit frame waits =>
      obtain rfl := Option.some.inj performed
      exact ⟨offline.closed, offline.idle⟩
  | send index answer =>
      obtain ⟨sender, -, sent⟩ := Option.bind_eq_some_iff.mp performed
      obtain only | ⟨-, stage, call, made, rfl⟩ := sendStep_eq_some sent
      · refine ⟨offline.closed.of_agrees only.agrees, ?_⟩
        rw [only.operation]
        exact offline.idle
      · cases made with
        | renew unconnected permitted =>
            exact absurd offline.closed (not_closed_of_permitted permitted)
        | send frame =>
            have moved : (state.sender index stage).core.Closed := offline.closed
            exact offline_start moved Call.noConfusion (fun _ => Call.noConfusion)
        | sendAndWait frame =>
            have moved : (state.sender index stage).core.Closed := offline.closed
            exact offline_start moved Call.noConfusion (fun _ => Call.noConfusion)
  | operate answer =>
      obtain ⟨operation, current, operated⟩ := Option.bind_eq_some_iff.mp performed
      exact offline.operate current operated
  | read line event =>
      simp only [perform, read, Option.ite_none_right_eq_some] at performed
      obtain ⟨-, taken⟩ := performed
      obtain rfl := Option.some.inj taken
      exact ⟨offline.closed, offline.idle⟩
  | handOver line =>
      obtain ⟨event, -, rfl⟩ := Option.map_eq_some_iff.mp performed
      have cleared : (state.clearReading line).Offline := ⟨offline.closed, offline.idle⟩
      exact cleared.of_undisturbed (deliver_undisturbed setting _ line event)
        (cleared.closed.effect (deliver_effect setting (state.clearReading line) line event))
  | work index answer =>
      obtain ⟨task, -, rfl⟩ := Option.map_eq_some_iff.mp performed
      exact offline.of_undisturbed (state.work_undisturbed setting index answer task)
        (offline.closed.effect (state.work_effect setting index answer task))

end ClientState

/-! ## Runs -/

/-- What holds along a run: the client is offline as long as it is to be, and no send has
connected it. -/
structure SessionHistory.Sound (state : ClientState) (history : SessionHistory) : Prop where
  unbreached : history.breached = false
  offline : history.barred = true → state.Offline

section Runs

variable [RustText] {setting : ClientSetting} {state next : ClientState}

/-- What takes the client offline does so at once. -/
theorem ClientState.offline_of_bars {move : Move} (stepped : state.step setting move = some next)
    (bars : state.bars move = true) (between : EndsBetweenConnects state move) : next.Offline := by
  obtain ⟨after, performed, rfl⟩ := Option.map_eq_some_iff.mp stepped
  suffices after.Offline by exact ⟨this.closed, this.idle⟩
  unfold ClientState.bars at bars
  split at bars
  next =>
    simp only [perform, Option.ite_none_right_eq_some] at performed
    obtain ⟨-, started⟩ := performed
    obtain rfl := Option.some.inj started
    cases connection : state.connection <;>
      exact offline_proceed (.inr rfl) (by simp [connection, Stage.isConnecting])
  next index answer =>
    obtain ⟨task, found, rfl⟩ := Option.map_eq_some_iff.mp performed
    have isTask := (Option.filter_eq_some_iff.mp found).1
    rw [isTask] at bars
    refine ⟨ClientCore.closed_of_endsSessionBy bars, ?_⟩
    rw [(state.work_undisturbed setting index answer task).operation]
    intro operation isOperation
    have idle := between (by rw [isTask]; exact bars)
    rw [isOperation] at idle
    simpa using idle
  next => cases bars

omit [RustText] in
/-- A client that is offline does not dial. -/
theorem ClientState.Offline.dialsForSend (offline : state.Offline) (move : Move) :
    state.dialsForSend move = false := by
  unfold ClientState.dialsForSend
  split
  · rw [Bool.and_eq_false_iff]
    right
    cases current : state.operation with
    | none => rfl
    | some operation =>
        have idle := offline.idle operation current
        have notDialing : operation.stage ≠ .dialing := by
          intro dialing
          rw [dialing] at idle
          exact Bool.noConfusion idle
        simp [notDialing]
  · rfl

theorem SessionHistory.Sound.step {history : SessionHistory} {move : Move}
    (sound : history.Sound state) (between : EndsBetweenConnects state move)
    (stepped : state.step setting move = some next) :
    (SessionHistory.record state move next history).Sound next where
  unbreached := by
    simp only [SessionHistory.record, sound.unbreached, Bool.false_or, Bool.and_eq_false_iff]
    cases barred : history.barred with
    | false => exact .inl rfl
    | true => exact .inr ((sound.offline barred).dialsForSend move)
  offline barred := by
    simp only [SessionHistory.record, Bool.or_eq_true, Bool.and_eq_true, Bool.not_eq_true']
      at barred
    obtain bars | ⟨barred, notConnect⟩ := barred
    · exact ClientState.offline_of_bars stepped bars between
    · exact (sound.offline barred).step stepped notConnect

/-- **No send connects a client whose session the server has ended, or which was disconnected on
request, before the application connects it**, in every run in which a KICKED ends the session
only while no call is on its way to a connection. -/
theorem no_send_reconnects_ended_session (setting : ClientSetting) {start state : ClientState}
    {history : SessionHistory} (reached : (sessionClient setting).Reaches
      (fun state move => EndsBetweenConnects state.1 move) (start, .initial) (state, history)) :
    history.breached = false := by
  have sound : history.Sound state := by
    refine System.Reaches.invariant
      (I := fun state : ClientState × SessionHistory => state.2.Sound state.1) reached
      ⟨rfl, Bool.noConfusion⟩ ?_
    rintro before after ⟨move, between, stepped⟩ sound
    obtain ⟨taken, recorded⟩ := System.recording_step_eq_some stepped
    rw [recorded]
    exact sound.step between taken
  exact sound.unbreached

end Runs

/-! ## Concrete runs -/

section Examples

open scoped AsciiText

/-- The client of the runs below, which may meet an acknowledgement and a KICKED. -/
def kickable : ClientSetting :=
  .builtin .webSocket [plainAck, conflictKick]

/-- A KICKED that is handled between two calls, and a send after it: the theorem applies. -/
theorem no_send_reconnects_ended_session_between_calls :
    ∃ state history, (sessionClient kickable).Reaches
        (fun state move => EndsBetweenConnects state.1 move)
        (.new kickable.config, .initial) (state, history) ∧
      history.barred = true ∧ state.returned.any (fun returned => returned.1.isSend) ∧
      history.breached = false := by
  have run : ((sessionClient kickable).run (.new kickable.config, .initial)
      (connectsAndNegotiates ++ arrives 0 conflictKick ++ works 4 8 ++ .call (.send plainAck) ::
        operates 1)).any (fun state => decide (state.2.barred = true ∧
          state.1.returned.any (fun returned => returned.1.isSend))) = true := by
    decide +kernel
  have permitted : (sessionClient kickable).Permits
      (fun state move => EndsBetweenConnects state.1 move) (.new kickable.config, .initial)
      (connectsAndNegotiates ++ arrives 0 conflictKick ++ works 4 8 ++ .call (.send plainAck) ::
        operates 1) := by
    decide +kernel
  obtain ⟨⟨state, history⟩, reached, holds⟩ := System.exists_reaches_of_run run permitted
  obtain ⟨barred, sent⟩ := of_decide_eq_true holds
  exact ⟨state, history, reached, barred, sent,
    no_send_reconnects_ended_session kickable reached⟩

/-- **A send that waits to reconnect dials after the KICKED has ended the session.**  The peer
closes the connection behind the KICKED, whose handler is still busy when the end is
reported. -/
theorem send_dials_after_session_ended :
    ∃ state history, (sessionClient kickable).Reaches System.always
        (.new kickable.config, .initial) (state, history) ∧ history.breached = true := by
  have run : ((sessionClient kickable).run (.new kickable.config, .initial)
      (connectsAndNegotiates ++ arrives 0 conflictKick ++ works 4 3 ++ ends 0 ++ works 5 1 ++
        .call (.send plainAck) :: works 4 1 ++ operates 5)).any
        (fun state => state.2.breached) = true := by
    decide +kernel
  obtain ⟨⟨state, history⟩, reached, holds⟩ :=
    System.exists_reaches_of_run run (System.permits_always _ _)
  exact ⟨state, history, reached, holds⟩

end Examples

end FlareCore.Client

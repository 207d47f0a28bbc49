import FlareCore.Client.Acknowledgement
import FlareCore.Client.Losers

/-!
# The core of the hybrid client and the core of the selected client

A `HybridClient` that comes out of a race has a core of its own, and the client that it works
through has another.  The two are joined in the fields that `share_race_state_from` takes over; the
parser and the connection state are not among these.  The outer core keeps the parser it began
with, and its state is set once, at the end of the race.

So the two cores agree as long as the client that was selected stays connected and negotiates the
profile it began with (`Steady`).
-/

namespace FlareCore.Client

open FlareCore.Common FlareCore.Server FlareCore.Foundations

set_option autoImplicit false

/-! ## The parser of a client -/

namespace ClientState

variable [RustText] (setting : ClientSetting) (state : ClientState)

/-- The acknowledgement that is at hand announces another profile than the client began with, and
the client takes it over. -/
def changesProfile : Move → Bool
  | .work index _ => state.tasks[index]?.any fun
      | .frame ⟨_, _, _, .acknowledging frame⟩ => !setting.config.isForceFormat &&
          (handleConnectAck frame).toOption.any fun profile =>
            profile ≠ setting.config.initialParser.profile
      | _ => false
  | .call _ | .submit _ _ | .send _ _ | .operate _ | .read _ _ | .handOver _ => false

/-- **A client keeps to the profile it began with until it handles an acknowledgement that announces
another one.** -/
theorem step_profile {state next : ClientState} {move : Move}
    (stepped : state.step setting move = some next)
    (unchanged : state.changesProfile setting move = false)
    (profile : state.core.parser.profile = setting.config.initialParser.profile) :
    next.core.parser.profile = setting.config.initialParser.profile := by
  obtain same | ⟨index, answer, task, frame, announced, rfl, isTask, stage, read, unforced,
    parser⟩ := parser_of_step setting stepped
  · rw [same, profile]
  · obtain ⟨line, data, negotiated, current⟩ := task
    obtain rfl : current = .acknowledging frame := stage
    rw [parser]
    change announced = _
    simpa [changesProfile, isTask, unforced, read, Except.toOption] using unchanged

end ClientState

/-! ## A client that stays connected -/

/-- The stages of a call that sends on the connection that is there. -/
def Stage.isSending : Stage → Bool
  | registering | sending | waiting _ => true
  | pausing | retiring _ | retired _ | establishing | replacing _ | replaced _ | dialing
  | settingUp _ | attaching _ | connecting _ _ | watching _ | greeting _ | confirming _
  | announcing _ _ | disconnecting _ | disconnected _ | leaving => false

namespace ClientState

section Ends

variable (setting : ClientSetting) (state : ClientState)

/-- The core hears of the end of a line at once. -/
def hears (line : Nat) : Bool :=
  state.isAttached line && !state.shouldDefer

/-- A task whose next step ends the connection: a KICKED, an acknowledgement that cannot be read,
the end of the line, or an end that has waited for the frames before it. -/
def isEnding : Task → Bool
  | .frame ⟨_, _, _, .negotiationFailed _ _⟩ | .frame ⟨_, _, _, .kicked _ _⟩ | .deferred _ => true
  | .frame ⟨_, _, _, .kickAnnouncing _ _ line⟩ | .frame ⟨_, _, _, .closeAnnouncing _ _ line⟩
  | .heartbeat line (.announcing _) => state.hears line
  | _ => false

/-- A step that ends the connection of a client that is connected: `disconnect`, a send that
reconnects first, the end of the line, or the step of a task. -/
def endsConnection : Move → Bool
  | .call .disconnect => true
  | .call (.send _) => state.shouldReconnectBeforeSend setting
  | .call .connect | .call (.sendAndWait _) | .call (.renew _) | .submit _ _ | .read _ _ => false
  | .send index _ => state.shouldReconnectBeforeSend setting && state.senders[index]?.any fun
      sender => sender.stage = .ready && !sender.waits
  | .operate _ => state.shouldReconnectBeforeSend setting && state.operation.any fun operation =>
      operation.stage = .registering
  | .handOver line => (state.lines[line]?.bind Line.reading).any ConnectionEvent.isTerminal &&
      state.hears line
  | .work index _ => state.tasks[index]?.any state.isEnding

end Ends

/-- A client that is connected, and whose calls send on the connection that is there. -/
structure Settled (state : ClientState) : Prop where
  connected : state.core.state = .connected
  calls : ∀ operation ∈ state.operation, operation.stage.isSending = true

variable {setting : ClientSetting} {state after : ClientState}

theorem Settled.of_eq (settled : state.Settled) (same : after.core.state = state.core.state)
    (calls : after.operation = state.operation) : after.Settled where
  connected := same.trans settled.connected
  calls operation isOperation := settled.calls operation (calls ▸ isOperation)

theorem settled_finish (connected : state.core.state = .connected) (operation : Operation)
    (result : Result Unit) : (state.finish operation result).Settled where
  connected := by rw [finish_core, connected]
  calls operation isOperation := by
    rw [finish_operation] at isOperation
    cases isOperation

theorem settled_proceed (connected : state.core.state = .connected) {operation : Operation}
    {stage : Stage} (sends : stage.isSending = true) :
    (state.proceed operation stage).Settled where
  connected := connected
  calls operation isOperation := by
    obtain rfl := Option.some.inj isOperation
    exact sends

/-- A client that is connected does not connect again. -/
theorem settled_startConnect (connected : state.core.state = .connected) (call : Call) :
    (state.startConnect setting call).Settled := by
  have busy : ¬state.core.state.canConnect = true := by
    rw [connected]
    exact Bool.noConfusion
  simp only [startConnect, if_neg busy]
  exact settled_finish connected _ _

theorem settled_startSend (connected : state.core.state = .connected)
    (stays : state.shouldReconnectBeforeSend setting = false) (operation : Operation) :
    (state.startSend setting operation).Settled := by
  rw [startSend, if_neg (by rw [stays]; exact Bool.noConfusion)]
  exact settled_proceed connected rfl

theorem settled_sendAndWait (connected : state.core.state = .connected) (frame : Frame) :
    (state.start setting (.sendAndWait frame)).Settled := by
  simp only [start]
  split
  · exact settled_finish connected _ _
  · exact settled_proceed connected rfl

theorem Settled.sendStep (settled : state.Settled) {index : Nat} {sender : Sender}
    {answer : Answer}
    (stays : sender.stage = .ready → sender.waits = false →
      state.shouldReconnectBeforeSend setting = false)
    (sent : state.sendStep setting index sender answer = some after) : after.Settled := by
  unfold ClientState.sendStep at sent
  split at sent
  next => exact settled.of_eq (Option.some.inj sent ▸ rfl) (Option.some.inj sent ▸ rfl)
  next => exact settled.of_eq (Option.some.inj sent ▸ rfl) (Option.some.inj sent ▸ rfl)
  next =>
    obtain ⟨-, sent⟩ := Option.ite_none_left_eq_some.mp sent
    obtain rfl := Option.some.inj sent
    exact settled.of_eq rfl rfl
  next =>
    obtain rfl := Option.some.inj sent
    split <;> exact settled.of_eq rfl rfl
  next =>
    obtain rfl := Option.some.inj sent
    split <;> exact settled.of_eq rfl rfl
  next =>
    obtain rfl := Option.some.inj sent
    split
    · exact settled.of_eq rfl rfl
    · split
      · exact settled.of_eq rfl rfl
      · exact settled_startConnect (by exact settled.connected) (.renew index)
  next =>
    split at sent
    · obtain rfl := Option.some.inj sent
      exact settled.of_eq rfl rfl
    · obtain rfl := Option.some.inj sent
      exact settled.of_eq rfl rfl
    · obtain ⟨-, sent⟩ := Option.ite_none_right_eq_some.mp sent
      obtain rfl := Option.some.inj sent
      exact settled.of_eq rfl rfl
  next ready free =>
    obtain rfl := Option.some.inj sent
    cases waits : sender.waits with
    | true => exact settled_sendAndWait (by exact settled.connected) sender.frame
    | false => exact settled_startSend (by exact settled.connected) (by exact stays ready waits) _
  next => cases sent

variable [RustText]

theorem Settled.operate (settled : state.Settled) {operation : Operation} {answer : Answer}
    (current : state.operation = some operation)
    (stays : operation.stage = .registering → state.shouldReconnectBeforeSend setting = false)
    (operated : state.operate setting operation answer = some after) : after.Settled := by
  have sends := settled.calls operation current
  cases stage : operation.stage <;> rw [stage] at sends <;>
    simp only [ClientState.operate, stage] at operated <;> try cases sends
  case registering.refl =>
    obtain ⟨frame, -, rfl⟩ := Option.map_eq_some_iff.mp operated
    simp only [register]
    exact settled_startSend (by exact settled.connected) (by exact stays stage) _
  case sending.refl =>
    obtain ⟨frame, -, rfl⟩ := Option.map_eq_some_iff.mp operated
    simp only [sendFrame]
    split
    · exact settled_finish (by exact settled.connected) _ _
    · exact settled_proceed (by exact settled.connected) rfl
    · exact settled_finish settled.connected _ _
  case waiting.refl request =>
    obtain ⟨frame, -, awaited⟩ := Option.bind_eq_some_iff.mp operated
    obtain ⟨core, result, agrees, -, rfl⟩ := await_eq_some awaited
    have kept : (state.withCore core).core.state = .connected :=
      agrees.state.trans settled.connected
    exact settled_finish kept _ _

omit [RustText] in
/-- The end of a line that the core does not hear of, or that waits for the frames in flight. -/
theorem Settled.announce (settled : state.Settled) (after : ClientState) {line : Nat}
    (core : after.core = state.core)
    (lines : after.isAttached line = true → state.isAttached line = true)
    (calls : after.operation = state.operation)
    (busy : state.tasks.any Task.inFlight = true → after.tasks.any Task.inFlight = true)
    (unheard : state.hears line = false) (event : ConnectionEvent) :
    (after.announce setting line event).Settled := by
  have kept : after.Settled := settled.of_eq (by rw [core]) calls
  unfold ClientState.announce
  split
  next attached =>
    have deferred : state.shouldDefer = true := by
      simpa [hears, lines attached] using unheard
    have defers : after.shouldDefer = true := by
      simp only [shouldDefer, Bool.and_eq_true] at deferred ⊢
      rw [core]
      exact ⟨deferred.1, busy deferred.2⟩
    rw [onTerminalEvent, if_pos (by exact defers)]
    exact kept.of_eq rfl rfl
  next => exact kept

omit [RustText] in
/-- The task of a frame that goes on is in flight. -/
theorem any_inFlight_advance {index : Nat} {task : FrameTask} {stage : Handling}
    (isTask : state.tasks[index]? = some (.frame task)) (inFlight : stage.inFlight = true) :
    (state.advance index task stage).tasks.any Task.inFlight = true := by
  obtain ⟨inside, -⟩ := List.getElem?_eq_some_iff.mp isTask
  exact List.any_eq_true.mpr ⟨_, List.mem_set inside _, inFlight⟩

omit [RustText] in
/-- A task that is over was not the one in flight. -/
theorem any_inFlight_put {index : Nat} {task : Task} (isTask : state.tasks[index]? = some task)
    (idle : task.inFlight = false) (busy : state.tasks.any Task.inFlight = true) :
    (state.put index .done).tasks.any Task.inFlight = true := by
  obtain ⟨other, isOther, inFlight⟩ := List.any_eq_true.mp busy
  obtain ⟨place, isPlace⟩ := List.mem_iff_getElem?.mp isOther
  have apart : index ≠ place := by
    rintro rfl
    obtain rfl := Option.some.inj (isTask.symm.trans isPlace)
    cases idle.symm.trans inFlight
  refine List.any_eq_true.mpr ⟨other, List.mem_iff_getElem?.mpr ⟨place, ?_⟩, inFlight⟩
  rw [put_tasks, List.getElem?_set_ne apart, isPlace]

/-- The steps of the task of a frame. -/
theorem Settled.handleFrame (settled : state.Settled) {index : Nat} {task : FrameTask}
    (isTask : state.tasks[index]? = some (.frame task))
    (stays : state.isEnding (.frame task) = false) (answer : Answer) :
    (state.handleFrame setting index task answer task.stage).Settled := by
  have undisturbed := state.handleFrame_undisturbed setting index task answer task.stage
  refine settled.of_eq ?_ undisturbed.operation
  obtain ⟨line, data, negotiated, stage⟩ := task
  cases stage with
  | negotiationFailed frame error | kicked frame command => cases stays
  | matching frame =>
      simp only [ClientState.handleFrame, matchResponse]
      split
      · rfl
      · split <;> rfl
  | dispatching frame =>
      simp only [ClientState.handleFrame, dispatch]
      split
      · rfl
      · split
        all_goals try simp only [callsHandler_core, advance_core]
        split <;> rfl
  | acknowledging frame =>
      simp only [ClientState.handleFrame, acknowledge]
      split
      · split
        · rfl
        · exact (tryStartHeartbeat_agrees setting _).state
      · rfl
  | readying frame =>
      have kept : ((state.advance index ⟨line, data, negotiated, .readying frame⟩
          (.delivering frame true)).sendNegotiationReady setting answer).core = state.core := by
        simp only [sendNegotiationReady]
        split
        · split <;> rfl
        · rfl
      exact (tryStartHeartbeat_agrees setting _).state.trans (by rw [kept])
  | kickAnnouncing frame reason shut =>
      exact (settled.announce (state.advance index _ (.kickReporting frame reason)) rfl id rfl
        (fun _ => any_inFlight_advance isTask rfl) stays _).connected.trans settled.connected.symm
  | closeAnnouncing frame detail shut =>
      exact (settled.announce (state.advance index _ (.delivering frame true)) rfl id rfl
        (fun _ => any_inFlight_advance isTask rfl) stays _).connected.trans settled.connected.symm
  | kickReporting frame reason =>
      simp only [ClientState.handleFrame, reportKick]
      split
      · rfl
      · simp only [ClientCore.takeUnreportedKick, notifyAll_core, withCore_core, advance_core]
        split <;> rfl
  | closing frame command =>
      simp only [ClientState.handleFrame, handleClose]
      split
      · split <;> rfl
      · rfl
  | handlingBusiness frame =>
      simp only [ClientState.handleFrame, handleBusiness]
      cases businessCall frame with
      | none => rfl
      | some call => simp
  | received | reparsing | responding frame | kickShutting frame reason line
  | closeShutting frame detail line | delivering frame system | finished frame | dropped => rfl

theorem Settled.work (settled : state.Settled) {index : Nat} {task : Task}
    (isTask : state.tasks[index]? = some task) (stays : state.isEnding task = false)
    (answer : Answer) : (state.work setting index answer task).Settled := by
  cases task with
  | frame task => exact settled.handleFrame isTask stays answer
  | deferred event => cases stays
  | heartbeat line beat =>
      cases beat with
      | beating =>
          simp only [ClientState.work, ClientState.beat]
          split
          · split <;> exact settled.of_eq rfl rfl
          · exact settled.of_eq rfl rfl
      | shutting reason => exact settled.of_eq rfl rfl
      | announcing reason =>
          exact settled.announce (state.put index .done) rfl id rfl
            (any_inFlight_put isTask rfl) stays _
  | clearing | informing event | done => exact settled.of_eq rfl rfl

/-- **A client that is connected stays so, and keeps sending on the connection that is there, until
a step ends the connection.** -/
theorem Settled.step {next : ClientState} {move : Move} (settled : state.Settled)
    (stepped : state.step setting move = some next)
    (stays : state.endsConnection setting move = false) : next.Settled := by
  obtain ⟨performed, isPerformed, rfl⟩ := Option.map_eq_some_iff.mp stepped
  suffices performed.Settled from this.of_eq rfl rfl
  cases move with
  | call call =>
      obtain ⟨⟨-, direct⟩, started⟩ := Option.ite_none_right_eq_some.mp isPerformed
      obtain rfl := Option.some.inj started
      cases call with
      | connect => exact settled_startConnect settled.connected .connect
      | disconnect => cases stays
      | send frame => exact settled_startSend settled.connected stays _
      | sendAndWait frame => exact settled_sendAndWait settled.connected frame
      | renew index => cases direct
  | submit frame waits =>
      obtain rfl := Option.some.inj isPerformed
      exact settled.of_eq rfl rfl
  | send index answer =>
      obtain ⟨sender, isSender, sent⟩ := Option.bind_eq_some_iff.mp isPerformed
      refine settled.sendStep (fun ready unwaiting => ?_) sent
      simpa [endsConnection, isSender, ready, unwaiting] using stays
  | operate answer =>
      obtain ⟨operation, current, operated⟩ := Option.bind_eq_some_iff.mp isPerformed
      refine settled.operate current (fun registering => ?_) operated
      simpa [endsConnection, current, registering] using stays
  | read line event =>
      simp only [perform, read, Option.ite_none_right_eq_some] at isPerformed
      obtain ⟨-, taken⟩ := isPerformed
      obtain rfl := Option.some.inj taken
      exact settled.of_eq rfl rfl
  | handOver line =>
      obtain ⟨event, reading, rfl⟩ := Option.map_eq_some_iff.mp isPerformed
      have unheard : event.isTerminal = true → state.hears line = false := by
        intro terminal
        simpa [endsConnection, reading, terminal] using stays
      have attached := (state.clearReading_recedes line).attached line
      cases event with
      | message data =>
          simp only [deliver, receive]
          refine settled.of_eq ?_ rfl
          simp only [spawn_core, withCore_core]
          split
          · rfl
          · cases setting.rejection data <;> rfl
      | connected => exact settled.of_eq rfl rfl
      | disconnected reason =>
          exact settled.announce (state.clearReading line) rfl attached rfl id (unheard rfl) _
      | error error =>
          exact settled.announce (state.clearReading line) rfl attached rfl id (unheard rfl) _
  | work index answer =>
      obtain ⟨task, isTask, rfl⟩ := Option.map_eq_some_iff.mp isPerformed
      obtain ⟨isTask, -⟩ := Option.filter_eq_some_iff.mp isTask
      exact settled.work isTask (by simpa [endsConnection, isTask] using stays) answer

end ClientState

namespace ClientState

variable {state : ClientState}

/-- The loss of a connection from its slot leaves the parser alone. -/
theorem parser_forget (state : ClientState) : state.forget.core.parser = state.core.parser := by
  unfold forget
  split <;> rfl

theorem parser_drop (state : ClientState) : state.drop.core.parser = state.core.parser :=
  parser_forget _

theorem Settled.forget (settled : state.Settled) : state.forget.Settled := by
  unfold ClientState.forget
  split
  · exact settled
  · exact settled.of_eq rfl rfl

end ClientState

/-! ## Two cores that agree -/

/-- What the wrapper and the application read of the core of a `HybridClient` is what they would
read of the core of the client that was selected. -/
structure ClientCore.Mirrors (outer inner : ClientCore) : Prop where
  profile : outer.parser.profile = inner.parser.profile
  state : outer.state = inner.state
  negotiationCompleted : outer.negotiationCompleted = inner.negotiationCompleted
  negotiationFailure : outer.negotiationFailure = inner.negotiationFailure
  sessionEndedByServer : outer.sessionEndedByServer = inner.sessionEndedByServer
  disconnectRequested : outer.disconnectRequested = inner.disconnectRequested

namespace RaceState

variable [RustText] (setting : ClientSetting)

/-- No client of the race takes over another profile than it began with; the client that is selected
is connected when the race is concluded, and nothing ends its connection from then on. -/
def isSteady (state : RaceState) : RaceMove → Bool
  | .client index move => state.racers[index]?.all fun racer =>
      let client := state.store.load racer.cells racer.client
      !client.changesProfile (setting.racing racer.protocol) move &&
        (state.phase ≠ .returned (some index) ||
          !client.endsConnection (setting.racing racer.protocol) move)
  | .finish =>
      match state.phase with
      | .connecting winner => state.connectFailed || state.racers[winner]?.all fun racer =>
          (state.store.core racer.cells).state = .connected
      | .waiting | .returned _ => true
  | .dial _ _ | .abort _ | .join _ | .exhaust | .clean _ | .cleaned | .detach | .disconnect
  | .release | .timeout => true

end RaceState

/-- The condition under which the two cores agree. -/
def Steady [RustText] (setting : ClientSetting) (state : RaceState) (move : RaceMove) : Prop :=
  state.isSteady setting move = true

instance [RustText] (setting : ClientSetting) (state : RaceState) (move : RaceMove) :
    Decidable (Steady setting state move) :=
  inferInstanceAs (Decidable (_ = _))

namespace RaceState

/-- The cells that the clients of a race do not share. -/
def places (state : RaceState) : List Nat :=
  state.racers.map fun racer => racer.cells.own

/-- What holds of the cells of a race: the outer core keeps its parser and is connected from the end
of the race on, whatever happens to the others.  If the race goes on steadily, these do the same. -/
structure Mirrored (steady : Prop) (setting : ClientSetting) (state : RaceState) : Prop where
  places : state.places.Nodup
  parser : (state.store.own state.outer.own).parser = setting.config.initialParser
  outer : ∀ winner, state.phase = .returned (some winner) →
    state.selected = some winner ∧ (state.store.own state.outer.own).state = .connected
  profile : steady → ∀ own,
    (state.store.own own).parser.profile = setting.config.initialParser.profile
  settled : steady → ∀ winner racer, state.phase = .returned (some winner) →
    state.racers[winner]? = some racer → (state.store.load racer.cells racer.client).Settled

variable {neat steady : Prop} {setting : ClientSetting} {state next : RaceState} {index : Nat}
  {racer current : Racer}

theorem places_set (found : state.racers[index]? = some racer)
    (racers : next.racers = state.racers.set index current)
    (cells : current.cells.own = racer.cells.own) : next.places = state.places := by
  simp only [places, racers, List.map_set, cells]
  refine List.ext_getElem? fun other => ?_
  rw [List.getElem?_set]
  split
  next same =>
    subst same
    obtain ⟨inside, rfl⟩ := List.getElem?_eq_some_iff.mp found
    simp [inside]
  next => rfl

/-- Two clients have no cell in common but the one they share. -/
theorem Mirrored.own_ne (mirrored : state.Mirrored steady setting) {other : Nat}
    (found : state.racers[index]? = some racer) (isOther : state.racers[other]? = some current)
    (different : other ≠ index) : current.cells.own ≠ racer.cells.own := by
  intro same
  have inside : other < state.places.length := by
    rw [RaceState.places, List.length_map]
    exact (List.getElem?_eq_some_iff.mp isOther).1
  refine different ((List.getElem?_inj inside mirrored.places).mp ?_)
  simp [RaceState.places, found, isOther, same]

/-- A client that is not selected goes on, and no core with it. -/
theorem Mirrored.goesOn (mirrored : state.Mirrored steady setting)
    (found : state.racers[index]? = some racer) (unchosen : state.selected ≠ some index)
    (racers : next.racers = state.racers.set index current)
    (cells : current.cells.own = racer.cells.own) (outer : next.outer = state.outer)
    (own : next.store.own = state.store.own) (phase : next.phase = state.phase)
    (selected : next.selected = state.selected) : next.Mirrored steady setting where
  places := by
    rw [places_set found racers cells]
    exact mirrored.places
  parser := by
    rw [own, outer]
    exact mirrored.parser
  outer := by
    rw [phase, selected, own, outer]
    exact mirrored.outer
  profile := own ▸ mirrored.profile
  settled isSteady winner racer returned isWinner := by
    rw [phase] at returned
    have different : index ≠ winner := by
      rintro rfl
      exact unchosen (mirrored.outer index returned).1
    rw [racers, List.getElem?_set_ne different] at isWinner
    refine (mirrored.settled isSteady winner racer returned isWinner).of_eq ?_ rfl
    exact congrArg (fun cells => (cells racer.cells.own).state) own

/-- A client goes on, and its core with it. -/
theorem Mirrored.update (mirrored : state.Mirrored steady setting)
    (found : state.racers[index]? = some racer) (apart : racer.cells.own ≠ state.outer.own)
    (racers : next.racers = state.racers.set index current) (cells : current.cells = racer.cells)
    (outer : next.outer = state.outer)
    (own : next.store.own = (state.store.save racer.cells current.client).own)
    (profile : steady → current.client.core.parser.profile = setting.config.initialParser.profile)
    (returned : ∀ winner, next.phase = .returned (some winner) →
      state.phase = .returned (some winner) ∧ next.selected = state.selected ∧
        (steady → winner = index → current.client.Settled)) : next.Mirrored steady setting where
  places := by
    rw [places_set found racers (by rw [cells])]
    exact mirrored.places
  parser := by
    rw [outer, own, CoreStore.save_own, Function.update_of_ne apart.symm]
    exact mirrored.parser
  outer winner isReturned := by
    obtain ⟨before, selected, -⟩ := returned winner isReturned
    rw [selected, outer, own, CoreStore.save_own, Function.update_of_ne apart.symm]
    exact mirrored.outer winner before
  profile isSteady place := by
    rw [own, CoreStore.save_own]
    by_cases same : place = racer.cells.own
    · subst same
      rw [Function.update_self]
      exact profile isSteady
    · rw [Function.update_of_ne same]
      exact mirrored.profile isSteady place
  settled isSteady winner other isReturned isWinner := by
    obtain ⟨before, -, settled⟩ := returned winner isReturned
    rw [racers, List.getElem?_set] at isWinner
    split at isWinner
    next same =>
      obtain ⟨-, isOther⟩ := Option.ite_none_right_eq_some.mp isWinner
      obtain rfl := Option.some.inj isOther
      refine (settled isSteady same.symm).of_eq ?_ rfl
      simp [CoreStore.load, CoreStore.core, own, cells]
    next different =>
      refine (mirrored.settled isSteady winner other before isWinner).of_eq ?_ rfl
      have different' := mirrored.own_ne found isWinner fun same => different same.symm
      simp [CoreStore.load, CoreStore.core, own, different']

/-- A client that is dropped keeps its parser. -/
theorem Mirrored.drop_profile (mirrored : state.Mirrored steady setting) (racer : Racer)
    (isSteady : steady) : (state.store.load racer.cells racer.client).drop.core.parser.profile =
      setting.config.initialParser.profile := by
  rw [ClientState.parser_drop]
  exact mirrored.profile isSteady racer.cells.own

theorem returned_none_ne (winner : Nat) :
    RacePhase.returned none ≠ .returned (some winner) := by
  intro equal
  cases equal

/-- Nobody is returned, and no core goes on. -/
theorem Mirrored.unreturned (mirrored : state.Mirrored steady setting)
    (places : next.places = state.places) (outer : next.outer = state.outer)
    (own : next.store.own = state.store.own)
    (unreturned : ∀ winner, next.phase ≠ .returned (some winner)) :
    next.Mirrored steady setting where
  places := places ▸ mirrored.places
  parser := by
    rw [own, outer]
    exact mirrored.parser
  outer winner returned := absurd returned (unreturned winner)
  profile := own ▸ mirrored.profile
  settled _ winner _ returned := absurd returned (unreturned winner)

/-- The client that is selected is returned. -/
theorem Mirrored.conclude (mirrored : state.Mirrored steady setting)
    (found : state.racers[index]? = some racer) (apart : racer.cells.own ≠ state.outer.own)
    (selected : state.selected = some index) (free : racer.client.operation = none)
    (connected : steady → (state.store.core racer.cells).state = .connected) :
    (state.conclude index racer (.ok ())).Mirrored steady setting where
  places := by
    have racers : (state.conclude index racer (.ok ())).racers =
        state.racers.set index { racer with stage := .returned } := rfl
    rw [places_set found racers rfl]
    exact mirrored.places
  parser := by
    simp only [RaceState.conclude, RaceState.put, CoreStore.setState_own, Function.update_self]
    exact mirrored.parser
  outer winner returned := by
    obtain rfl : index = winner := Option.some.inj (RacePhase.returned.inj returned)
    refine ⟨selected, ?_⟩
    simp [RaceState.conclude, RaceState.put]
  profile isSteady place := by
    simp only [RaceState.conclude, CoreStore.setState_own]
    by_cases same : place = state.outer.own
    · subst same
      rw [Function.update_self]
      exact mirrored.profile isSteady state.outer.own
    · rw [Function.update_of_ne same]
      exact mirrored.profile isSteady place
  settled isSteady winner current returned isWinner := by
    obtain rfl : index = winner := Option.some.inj (RacePhase.returned.inj returned)
    obtain ⟨-, rfl⟩ | ⟨different, -⟩ := getElem?_put isWinner
    · refine ⟨?_, fun operation isOperation => ?_⟩
      · simpa [RaceState.conclude, CoreStore.load, CoreStore.core, apart] using connected isSteady
      · cases free.symm.trans isOperation
    · exact absurd rfl different

section Steps

variable [RustText]

/-- A client of the race makes a step. -/
theorem Mirrored.advance (mirrored : state.Mirrored steady setting)
    (found : state.racers[index]? = some racer) (apart : racer.cells.own ≠ state.outer.own)
    {move : Move} {client : ClientState}
    (stepped : (state.store.load racer.cells racer.client).step (setting.racing racer.protocol)
      move = some client)
    (isSteady : steady → Steady setting state (.client index move)) :
    (state.update index racer
      (if racer.stage = .released then client.forget else client)).Mirrored steady setting := by
  have stays : steady →
      (state.store.load racer.cells racer.client).changesProfile (setting.racing racer.protocol)
        move = false ∧ (state.phase ≠ .returned (some index) ∨
      (state.store.load racer.cells racer.client).endsConnection (setting.racing racer.protocol)
        move = false) := by
    intro holds
    simpa [Steady, RaceState.isSteady, found] using isSteady holds
  refine mirrored.update found apart rfl rfl rfl rfl (fun holds => ?_) fun winner returned =>
    ⟨returned, rfl, fun holds isWinner => ?_⟩
  · have profile := ClientState.step_profile _ stepped (stays holds).1
      (mirrored.profile holds racer.cells.own)
    split
    · rw [ClientState.parser_forget]
      exact profile
    · exact profile
  · subst isWinner
    have settled := (mirrored.settled holds winner racer returned found).step stepped
      ((stays holds).2.resolve_left fun other => other returned)
    split
    · exact settled.forget
    · exact settled

/-- **Every step of a race keeps its cells in order.** -/
theorem Mirrored.step (mirrored : state.Mirrored steady setting) (sound : state.Sound neat)
    {move : RaceMove} (isSteady : steady → Steady setting state move)
    (stepped : state.step setting move = some next) : next.Mirrored steady setting := by
  cases step_cases stepped with
  | @dial index racer found dialing succeeds =>
      have unchosen := (sound.fits index racer found).not_selected (by rw [dialing]; rfl)
      refine mirrored.goesOn found unchosen rfl ?_ rfl rfl rfl rfl
      cases succeeds <;> rfl
  | @abort index racer found dialing =>
      have unchosen := (sound.fits index racer found).not_selected (by rw [dialing]; rfl)
      exact mirrored.goesOn found unchosen rfl rfl rfl rfl rfl rfl
  | @select index racer next found waiting established selected =>
      obtain ⟨client, taken, rfl⟩ := Option.map_eq_some_iff.mp selected
      have profile := fun holds => ClientState.step_profile _ taken rfl
        (mirrored.profile holds racer.cells.own)
      exact mirrored.update found (sound.fits index racer found).own (List.set_set ..) rfl rfl rfl
        profile fun _ => RacePhase.noConfusion
  | @joinFailed index racer found failed =>
      have unchosen := (sound.fits index racer found).not_selected (by rw [failed]; rfl)
      exact mirrored.goesOn found unchosen rfl rfl rfl rfl rfl rfl
  | exhaust waiting empty => exact mirrored.unreturned rfl rfl rfl returned_none_ne
  | @clean index racer found joining established =>
      have unchosen := (sound.fits index racer found).not_selected (by rw [established]; rfl)
      exact mirrored.goesOn found unchosen rfl rfl rfl rfl rfl rfl
  | @discard index racer found ended =>
      have unchosen := (sound.fits index racer found).not_selected
        (by obtain stage | stage := ended <;> rw [stage] <;> rfl)
      exact mirrored.goesOn found unchosen rfl rfl rfl rfl rfl rfl
  | cleaned joining empty => exact { mirrored with }
  | @detach index racer found closing joined =>
      have unchosen := (sound.fits index racer found).not_selected (by rw [joined]; rfl)
      exact mirrored.goesOn found unchosen rfl rfl rfl rfl rfl rfl
  | @disconnect index racer next found closing detached closes =>
      obtain ⟨client, taken, rfl⟩ := Option.map_eq_some_iff.mp closes
      have fits := sound.fits index racer found
      have unchosen := fits.not_selected (by rw [detached]; rfl)
      have profile := fun holds => ClientState.step_profile _ taken rfl
        (mirrored.profile holds racer.cells.own)
      refine mirrored.update found fits.own rfl rfl rfl rfl profile fun winner returned =>
        ⟨returned, rfl, fun _ isWinner => ?_⟩
      exact absurd (isWinner ▸ (mirrored.outer winner returned).1) unchosen
  | @release index racer found closing isClosing =>
      have fits := sound.fits index racer found
      have unchosen := fits.not_selected (by rw [isClosing]; rfl)
      refine mirrored.update found fits.own rfl rfl rfl rfl (mirrored.drop_profile racer)
        fun winner returned => ⟨returned, rfl, fun _ isWinner => ?_⟩
      exact absurd (isWinner ▸ (mirrored.outer winner returned).1) unchosen
  | @client index racer move next found permitted advanced =>
      obtain ⟨client, taken, rfl⟩ := Option.map_eq_some_iff.mp advanced
      exact mirrored.advance found (sound.fits index racer found).own taken isSteady
  | @finish index racer call result found connecting free returned =>
      have fits := sound.fits index racer found
      cases result with
      | ok =>
          refine mirrored.conclude found fits.own (sound.connecting index connecting) free
            fun holds => ?_
          simpa [Steady, RaceState.isSteady, connecting, connectFailed, found, returned,
            Except.toOption] using isSteady holds
      | error error =>
          exact mirrored.update found fits.own rfl rfl rfl rfl (mirrored.drop_profile racer)
            fun winner returned => absurd returned (returned_none_ne winner)
  | dropAll waiting =>
      refine mirrored.unreturned ?_ rfl rfl returned_none_ne
      simp only [RaceState.places, RaceState.dropTasks, List.map_map]
      refine List.map_congr_left fun racer _ => ?_
      simp only [Function.comp_apply]
      split <;> rfl
  | @drop index racer found connecting =>
      exact mirrored.update found (sound.fits index racer found).own rfl rfl rfl rfl
        (mirrored.drop_profile racer) fun winner returned =>
          absurd returned (returned_none_ne winner)

end Steps

/-- The tasks of a race begin with new cells, and each with one of its own. -/
theorem spawnConnectionTasks_own (config : ClientConfig) (outer : CoreCells)
    (protocols : List TransportProtocol) (store : CoreStore)
    (fresh : ∀ own, store.own own = .new config) :
    (∀ own, (spawnConnectionTasks config outer store protocols).1.own own = .new config) ∧
      (∀ racer ∈ (spawnConnectionTasks config outer store protocols).2,
        store.ownCount ≤ racer.cells.own) ∧
      ((spawnConnectionTasks config outer store protocols).2.map fun racer =>
        racer.cells.own).Nodup := by
  induction protocols generalizing store with
  | nil => exact ⟨fresh, List.forall_mem_nil _, List.nodup_nil⟩
  | cons protocol protocols inductionHypothesis =>
      have renewed : ∀ own, (store.newCore config).own own = .new config := by
        intro own
        rw [CoreStore.newCore_own]
        by_cases same : own = store.ownCount
        · subst same
          exact Function.update_self ..
        · rw [Function.update_of_ne same, fresh]
      obtain ⟨own, later, nodup⟩ := inductionHypothesis (store.newCore config) renewed
      refine ⟨own, fun racer isRacer => ?_, List.nodup_cons.mpr ⟨fun isLater => ?_, nodup⟩⟩
      · obtain rfl | isRacer := List.mem_cons.mp isRacer
        · exact Nat.le_refl _
        · exact (Nat.le_succ _).trans (later racer isRacer)
      · obtain ⟨racer, isRacer, same⟩ := List.mem_map.mp isLater
        have after : store.ownCount + 1 ≤ racer.cells.own := later racer isRacer
        have before : racer.cells.own = store.ownCount := same
        omega

theorem mirrored_start (setting : ClientSetting) (protocols : List TransportProtocol) :
    (start setting.config protocols).Mirrored steady setting := by
  have fresh : ∀ own, ((CoreStore.empty setting.config).newCore setting.config).own own =
      .new setting.config := by
    intro own
    rw [CoreStore.newCore_own]
    by_cases same : own = (CoreStore.empty setting.config).ownCount
    · subst same
      exact Function.update_self ..
    · exact Function.update_of_ne same ..
  obtain ⟨own, -, nodup⟩ := spawnConnectionTasks_own setting.config
    (CoreStore.empty setting.config).newCells protocols _ fresh
  exact {
    places := nodup
    parser := congrArg OwnCell.parser (own _)
    outer := fun _ => RacePhase.noConfusion
    profile := fun _ place => congrArg (fun cell => cell.parser.profile) (own place)
    settled := fun _ _ _ => RacePhase.noConfusion }

end RaceState

/-! ## What the two cores show -/

namespace RaceState

variable {steady : Prop} {setting : ClientSetting} {state : RaceState} {winner : Nat}
  {racer : Racer}

/-- **The core of the returned `HybridClient` agrees with the core of the client that was selected
exactly as long as that one is connected and has the parser profile it began with.** -/
theorem Mirrored.mirrors_iff (mirrored : state.Mirrored steady setting) (sound : state.Sound False)
    (returned : state.phase = .returned (some winner))
    (found : state.racers[winner]? = some racer) :
    (state.store.core state.outer).Mirrors (state.store.core racer.cells) ↔
      (state.store.core racer.cells).state = .connected ∧
        (state.store.core racer.cells).parser.profile = setting.config.initialParser.profile := by
  obtain ⟨selected, connected⟩ := mirrored.outer winner returned
  have shared := (sound.fits winner racer found).shared (.inr selected)
  have outer : (state.store.core state.outer).parser.profile =
      setting.config.initialParser.profile := congrArg MessageParser.profile mirrored.parser
  constructor
  · intro mirrors
    exact ⟨mirrors.state.symm.trans connected, mirrors.profile.symm.trans outer⟩
  · rintro ⟨isConnected, profile⟩
    refine ⟨outer.trans profile.symm, connected.trans isConnected.symm, ?_, ?_, ?_, ?_⟩
    all_goals simp only [CoreStore.core, shared]

/-- The wrapper, which asks the outer core whether it may send, finds what the core of the client
that was selected would answer. -/
theorem Mirrored.isSendReady (mirrored : state.Mirrored steady setting) (sound : state.Sound False)
    (returned : state.phase = .returned (some winner))
    (found : state.racers[winner]? = some racer) (setting : ClientSetting) :
    (state.store.load racer.cells racer.client).isSendReady setting =
      ((state.store.load racer.cells racer.client).isConnected setting &&
        (state.store.core state.outer).state.canSend &&
          (state.store.core state.outer).negotiationCompleted) := by
  obtain ⟨selected, connected⟩ := mirrored.outer winner returned
  have shared := (sound.fits winner racer found).shared (.inr selected)
  have outer : (state.store.core state.outer).state = .connected := connected
  rw [ClientState.isSendReady, outer]
  cases isConnected : (state.store.load racer.cells racer.client).isConnected setting with
  | false => rfl
  | true =>
      simp only [ClientState.isConnected, Bool.and_eq_true, decide_eq_true_eq] at isConnected
      rw [isConnected.1.1]
      simp only [CoreStore.load, CoreStore.core, shared]

end RaceState

section Races

variable [RustText]

namespace RaceState

/-- The cells of a race stay in order in every run, and go on steadily if all steps do. -/
theorem mirrored_of_reaches {setting : ClientSetting} {protocols : List TransportProtocol}
    {state : RaceState} {steady : Prop} {allowed : RaceState → RaceMove → Prop}
    (isSteady : ∀ state move, allowed state move → steady → Steady setting state move)
    (reached : (raceSystem setting).Reaches allowed (.start setting.config protocols) state) :
    state.Sound False ∧ state.Mirrored steady setting := by
  refine System.Reaches.invariant
    (I := fun state => state.Sound False ∧ state.Mirrored steady setting) reached
    ⟨sound_start setting.config protocols, mirrored_start setting protocols⟩ ?_
  rintro before after ⟨move, isAllowed, stepped⟩ ⟨sound, mirrored⟩
  exact ⟨sound.step False.elim stepped,
    mirrored.step sound (isSteady before move isAllowed) stepped⟩

end RaceState

/-- **In every run of a race in which the clients keep to the profile they began with and the client
that is selected stays connected, the core of the returned `HybridClient` agrees in every state with
the core of the client that was selected.** -/
theorem race_core_mirrors_selected (setting : ClientSetting) (protocols : List TransportProtocol)
    {state : RaceState} (reached : (raceSystem setting).Reaches (Steady setting)
      (.start setting.config protocols) state) {winner : Nat}
    (returned : state.phase = .returned (some winner)) {racer : Racer}
    (found : state.racers[winner]? = some racer) :
    (state.store.core state.outer).Mirrors (state.store.core racer.cells) := by
  obtain ⟨sound, mirrored⟩ : state.Sound False ∧ state.Mirrored True setting :=
    RaceState.mirrored_of_reaches (fun _ _ allowed _ => allowed) reached
  refine (mirrored.mirrors_iff sound returned found).mpr ⟨?_, ?_⟩
  · exact (mirrored.settled trivial winner racer returned found).connected
  · exact mirrored.profile trivial racer.cells.own

end Races

section Examples

open scoped AsciiText

/-- The acknowledgement of a server that chooses Protocol Buffers. -/
def protobufAck : Frame :=
  .withSystemCommand ⟨"ack", 0⟩ (.connectAck .protobuf none none ∅) .atLeastOnce

/-- A client that may meet both acknowledgements. -/
def acquainted : ClientSetting :=
  .builtin .webSocket [plainAck, protobufAck]

/-- The race is won on the first protocol, and its client goes on. -/
def wins (moves : List Move) : List RaceMove :=
  races ++ runs 8 ++ [.finish] ++ moves.map (.client 0)

/-- The server keeps to JSON: the negotiation is seen on both cores. -/
theorem race_core_mirrors_selected_negotiated :
    ∃ state racer, (raceSystem acquainted).Reaches (Steady acquainted)
        (.start acquainted.config [.webSocket, .quic]) state ∧
      state.phase = .returned (some 0) ∧ state.racers[0]? = some racer ∧
      (state.store.core racer.cells).negotiationCompleted = true ∧
      (state.store.core state.outer).Mirrors (state.store.core racer.cells) := by
  have run : ((raceSystem acquainted).run (.start acquainted.config [.webSocket, .quic])
      (wins (arrives 0 plainAck ++ works 0 6))).any (fun state =>
        state.phase = .returned (some 0) && state.racers[0]?.any fun racer =>
          (state.store.core racer.cells).negotiationCompleted) = true := by
    decide +kernel
  have permitted : (raceSystem acquainted).Permits (Steady acquainted)
      (.start acquainted.config [.webSocket, .quic])
      (wins (arrives 0 plainAck ++ works 0 6)) := by
    decide +kernel
  obtain ⟨state, reached, holds⟩ := System.exists_reaches_of_run run permitted
  obtain ⟨isReturned, hasRacer⟩ := Bool.and_eq_true_iff.mp holds
  have returned := of_decide_eq_true isReturned
  obtain ⟨racer, found, negotiated⟩ := (Option.any_eq_true _ _).mp hasRacer
  exact ⟨state, racer, reached, returned, found, negotiated,
    race_core_mirrors_selected acquainted [.webSocket, .quic] reached returned found⟩

/-- **The server chooses Protocol Buffers, and the parser of the `HybridClient` stays at JSON; the
peer closes the connection, and the `HybridClient` still shows it as connected.** -/
theorem race_core_left_behind :
    (∃ state racer, (raceSystem acquainted).Reaches System.always
        (.start acquainted.config [.webSocket, .quic]) state ∧
      state.phase = .returned (some 0) ∧ state.racers[0]? = some racer ∧
      (state.store.core racer.cells).negotiationCompleted = true ∧
      ¬(state.store.core state.outer).Mirrors (state.store.core racer.cells)) ∧
    ∃ state racer, (raceSystem acquainted).Reaches System.always
        (.start acquainted.config [.webSocket, .quic]) state ∧
      state.phase = .returned (some 0) ∧ state.racers[0]? = some racer ∧
      (state.store.core racer.cells).state = .disconnected ∧
      ¬(state.store.core state.outer).Mirrors (state.store.core racer.cells) := by
  constructor
  · have run : ((raceSystem acquainted).run (.start acquainted.config [.webSocket, .quic])
        (wins (arrives 0 protobufAck ++ works 0 6))).any (fun state =>
          state.phase = .returned (some 0) && state.racers[0]?.any fun racer =>
            (state.store.core racer.cells).negotiationCompleted &&
              (state.store.core state.outer).parser.profile ≠
                (state.store.core racer.cells).parser.profile) = true := by
      decide +kernel
    obtain ⟨state, reached, holds⟩ :=
      System.exists_reaches_of_run run (System.permits_always _ _)
    obtain ⟨returned, hasRacer⟩ := Bool.and_eq_true_iff.mp holds
    obtain ⟨racer, found, negotiated⟩ := (Option.any_eq_true _ _).mp hasRacer
    obtain ⟨negotiated, differs⟩ := Bool.and_eq_true_iff.mp negotiated
    exact ⟨state, racer, reached, of_decide_eq_true returned, found, negotiated,
      fun mirrors => of_decide_eq_true differs mirrors.profile⟩
  · have run : ((raceSystem acquainted).run (.start acquainted.config [.webSocket, .quic])
        (wins (ends 0))).any (fun state =>
          state.phase = .returned (some 0) && state.racers[0]?.any fun racer =>
            (state.store.core racer.cells).state = .disconnected &&
              (state.store.core state.outer).state ≠ (state.store.core racer.cells).state) =
          true := by
      decide +kernel
    obtain ⟨state, reached, holds⟩ :=
      System.exists_reaches_of_run run (System.permits_always _ _)
    obtain ⟨returned, hasRacer⟩ := Bool.and_eq_true_iff.mp holds
    obtain ⟨racer, found, ended⟩ := (Option.any_eq_true _ _).mp hasRacer
    obtain ⟨ended, differs⟩ := Bool.and_eq_true_iff.mp ended
    exact ⟨state, racer, reached, of_decide_eq_true returned, found, of_decide_eq_true ended,
      fun mirrors => of_decide_eq_true differs mirrors.state⟩

end Examples

end FlareCore.Client

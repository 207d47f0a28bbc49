import FlareCore.Client.Runtime

/-!
# One report for a kick

When a client is kicked, the task of the KICKED registers the reason, closes the connection and
reports what nobody else has reported by then; at the same time the end of the connection may
arrive as an event, from the reader or from the close, on any number of other tasks.  What an event
reports is decided under the lock of the registration, but it is reported later, so the decision and
the report are two steps here.

An event that was decided before the kick was registered is reported as it is, even if that happens
after the registration: then the observers hear of the close and of the kick
(`kick_and_close_reported`).  Apart from what was decided before, they hear of the kick, once, and
of nothing else (`kick_reported_once`).
-/

namespace FlareCore.Client

open FlareCore.Common FlareCore.Foundations

set_option autoImplicit false

/-! ## The tasks -/

/-- How far `handle_kicked_command` is: it calls the event handler, registers the kick, marks the
client as disconnected, closes the connection, drops the calls that wait for a response, and
reports. -/
inductive KickStage where
  | handling
  | unnotified
  | registered
  | closing
  | cancelling
  | reporting (reports : List ConnectionEvent)
  | finished
  deriving DecidableEq

namespace KickStage

/-- The kick has been registered. -/
def isRegistered : KickStage → Bool
  | registered | closing | cancelling | reporting _ | finished => true
  | handling | unnotified => false

/-- The handler has looked for what nobody has reported. -/
def isPast : KickStage → Bool
  | reporting _ | finished => true
  | handling | unnotified | registered | closing | cancelling => false

/-- What is decided and not reported yet. -/
def reports : KickStage → List ConnectionEvent
  | reporting reports => reports
  | handling | unnotified | registered | closing | cancelling | finished => []

end KickStage

/-- An event that ends the connection, before and after it is decided what it reports. -/
inductive EventTask where
  | arrived (event : ConnectionEvent) (isTerminal : event.isTerminal = true)
  | decided (reports : List ConnectionEvent)
  deriving DecidableEq

def EventTask.reports : EventTask → List ConnectionEvent
  | arrived _ _ => []
  | decided reports => reports

/-- A client while it is kicked; `told` are the disconnections and errors that its observers have
heard of since the kick was registered, and `carried` the reports that were decided before. -/
structure KickedClient where
  core : ClientCore
  handler : KickStage
  events : List EventTask
  carried : List ConnectionEvent
  told : List ConnectionEvent

inductive KickMove where
  | kick
  | arrive (event : ConnectionEvent)
  | decide (index : Nat)
  | report (index : Nat)
  | connected
  | disconnectRequested
  deriving DecidableEq

namespace KickedClient

/-- A KICKED that was read when the negotiation was complete, and has not been handled. -/
def new (core : ClientCore) : KickedClient where
  core := core
  handler := .handling
  events := []
  carried := []
  told := []

variable (reason : String) (state : KickedClient)

/-- Everything that is decided and not reported yet. -/
def outstanding : List ConnectionEvent :=
  state.handler.reports ++ state.events.flatMap EventTask.reports

/-- `end_session_by_server` and `set_pending_kick`, unless the disconnection was requested. -/
def register : KickedClient :=
  if state.core.disconnectRequested then { state with handler := .unnotified }
  else
    { state with
      core := { state.core with
        sessionEndedByServer :=
          if endsSession reason then some reason else state.core.sessionEndedByServer
        pendingKick := some reason }
      handler := .registered
      carried := state.outstanding
      told := [] }

/-- The next step of `handle_kicked_command`, for a KICKED whose observers are to be notified. -/
def kick : Option KickedClient :=
  match state.handler with
  | .handling => some (state.register reason)
  | .unnotified => none
  | .registered =>
      some { state with core := { state.core with state := .disconnected }, handler := .closing }
  | .closing =>
      some { state with
        core := { state.core with clientConnection := none }
        handler := .cancelling }
  | .cancelling =>
      some { state with
        core := { state.core.takeUnreportedKick.1 with pending := ∅ }
        handler := .reporting (state.core.takeUnreportedKick.2.toList.map .disconnected) }
  | .reporting reports => some { state with handler := .finished, told := state.told ++ reports }
  | .finished => none

/-- `handle_connection_event` up to the report. -/
def decide (index : Nat) : Option KickedClient :=
  match state.events[index]? with
  | some (.arrived event _) =>
      some { state with
        core := (state.core.handleTerminalEvent event).1
        events := state.events.set index (.decided (state.core.handleTerminalEvent event).2) }
  | some (.decided _) | none => none

/-- The end of `handle_connection_event`. -/
def report (index : Nat) : Option KickedClient :=
  match state.events[index]? with
  | some (.decided reports) =>
      some { state with
        events := state.events.set index (.decided [])
        told := state.told ++ reports }
  | some (.arrived _ _) | none => none

def step : KickMove → Option KickedClient
  | .kick => state.kick reason
  | .arrive event =>
      if isTerminal : event.isTerminal = true then
        some { state with events := state.events ++ [.arrived event isTerminal] }
      else none
  | .decide index => state.decide index
  | .report index => state.report index
  | .connected =>
      some { state with core := state.core.handleConnected (state.core.state = .connected) }
  | .disconnectRequested =>
      some { state with core := { state.core with disconnectRequested := true } }

end KickedClient

/-- A client that is kicked for a reason. -/
def kicking (reason : String) : System KickedClient KickMove where
  step := KickedClient.step reason

/-! ## What is decided for an event -/

namespace ClientCore

variable {core : ClientCore} {event : ConnectionEvent} {reason : String}

/-- An event takes over the report of a kick that is pending. -/
theorem handleTerminalEvent_of_pending (isTerminal : event.isTerminal)
    (pending : core.pendingKick = some reason) :
    (core.handleTerminalEvent event).1.pendingKick = none ∧
      (core.handleTerminalEvent event).1.kickReported = true ∧
      (core.handleTerminalEvent event).1.disconnectRequested = core.disconnectRequested ∧
      (core.handleTerminalEvent event).2 = [.disconnected reason] := by
  cases event with
  | connected => cases isTerminal
  | message data => cases isTerminal
  | disconnected detail =>
      simp only [handleTerminalEvent, lose, closeReport, pending]
      refine ⟨?_, ?_, ?_, rfl⟩ <;> split_ifs <;> rfl
  | error error =>
      simp only [handleTerminalEvent, lose, closeReport, pending]
      refine ⟨?_, ?_, ?_, rfl⟩ <;> split_ifs <;> rfl

/-- An event after the report of a kick reports nothing. -/
theorem handleTerminalEvent_of_reported (isTerminal : event.isTerminal)
    (pending : core.pendingKick = none) (reported : core.kickReported = true)
    (unrequested : core.disconnectRequested = false) :
    (core.handleTerminalEvent event).1.pendingKick = none ∧
      (core.handleTerminalEvent event).1.kickReported = true ∧
      (core.handleTerminalEvent event).1.disconnectRequested = false ∧
      (core.handleTerminalEvent event).2 = [] := by
  cases event with
  | connected => cases isTerminal
  | message data => cases isTerminal
  | disconnected detail =>
      simp only [handleTerminalEvent, lose, closeReport, pending, reported, unrequested]
      refine ⟨?_, ?_, ?_, rfl⟩ <;> split_ifs <;> rfl
  | error error =>
      simp only [handleTerminalEvent, lose, closeReport, pending, reported, unrequested]
      refine ⟨?_, ?_, ?_, rfl⟩ <;> split_ifs <;> rfl

end ClientCore

/-! ## What every step keeps -/

/-- A list around one of its places. -/
theorem exists_split_of_getElem? {α : Type} {list : List α} {index : Nat} {old : α}
    (found : list[index]? = some old) (new : α) :
    ∃ earlier later, list = earlier ++ old :: later ∧
      list.set index new = earlier ++ new :: later := by
  obtain ⟨inRange, rfl⟩ := List.getElem?_eq_some_iff.mp found
  refine ⟨list.take index, list.drop (index + 1), ?_, ?_⟩
  · rw [← List.drop_eq_getElem_cons inRange, List.take_append_drop]
  · rw [List.set_eq_take_append_cons_drop, if_pos inRange]

namespace KickedClient

variable {reason : String} {state next : KickedClient}

/-- Until somebody takes over the report of the kick, there are only the reports that were decided
before; afterwards the kick is the only report besides them. -/
structure Reported (reason : String) (state : KickedClient) : Prop where
  unrequested : state.core.disconnectRequested = false
  once : (state.core.pendingKick = some reason ∧ state.handler.isPast = false ∧
      (state.told ++ state.outstanding).Perm state.carried) ∨
    (state.core.pendingKick = none ∧ state.core.kickReported = true ∧
      (state.told ++ state.outstanding).Perm (state.carried ++ [.disconnected reason]))

/-- Moves of the handler that report nothing. -/
theorem Reported.advance (holds : state.Reported reason) {core : ClientCore} {handler : KickStage}
    (unrequested : core.disconnectRequested = state.core.disconnectRequested)
    (pending : core.pendingKick = state.core.pendingKick)
    (reported : core.kickReported = state.core.kickReported)
    (notPast : handler.isPast = false) (nothing : handler.reports = state.handler.reports) :
    { state with core := core, handler := handler }.Reported reason where
  unrequested := unrequested.trans holds.unrequested
  once := by
    have same : { state with core := core, handler := handler }.outstanding = state.outstanding :=
      congrArg (· ++ _) nothing
    rw [same]
    obtain ⟨isPending, -, before⟩ | ⟨none, isReported, once⟩ := holds.once
    · exact .inl ⟨pending.trans isPending, notPast, before⟩
    · exact .inr ⟨pending.trans none, reported.trans isReported, once⟩

/-- A report more is to be made. -/
theorem perm_append_report {told outstanding carried : List ConnectionEvent}
    (before : (told ++ outstanding).Perm carried) (event : ConnectionEvent) :
    (told ++ ([event] ++ outstanding)).Perm (carried ++ [event]) := by
  have moved := List.perm_append_comm_assoc told [event] outstanding
  exact moved.trans (List.perm_append_comm.trans (before.append_right _))

/-- The handler takes over the report, if it is still to be made. -/
theorem Reported.take (holds : state.Reported reason) (stage : state.handler = .cancelling) :
    { state with
      core := { state.core.takeUnreportedKick.1 with pending := ∅ }
      handler := .reporting (state.core.takeUnreportedKick.2.toList.map .disconnected)
      }.Reported reason := by
  have events : state.outstanding = state.events.flatMap EventTask.reports := by
    unfold outstanding
    rw [stage]
    rfl
  obtain ⟨isPending, -, before⟩ | ⟨none, isReported, once⟩ := holds.once
  · rw [events] at before
    simp only [ClientCore.takeUnreportedKick, isPending]
    exact ⟨holds.unrequested, .inr ⟨rfl, rfl, perm_append_report before _⟩⟩
  · rw [events] at once
    simp only [ClientCore.takeUnreportedKick, none]
    exact ⟨holds.unrequested, .inr ⟨rfl, isReported, once⟩⟩

theorem Reported.report_handler {reports : List ConnectionEvent} (holds : state.Reported reason)
    (stage : state.handler = .reporting reports) :
    { state with handler := .finished, told := state.told ++ reports }.Reported reason := by
  obtain ⟨-, notPast, -⟩ | ⟨none, isReported, once⟩ := holds.once
  · rw [stage] at notPast
    cases notPast
  · refine ⟨holds.unrequested, .inr ⟨none, isReported, ?_⟩⟩
    unfold outstanding at once ⊢
    rw [stage] at once
    rw [List.append_assoc]
    exact once

/-- An event is decided: it takes over the report, or reports nothing. -/
theorem Reported.decide {index : Nat} {event : ConnectionEvent} (holds : state.Reported reason)
    {isTerminal : event.isTerminal = true}
    (found : state.events[index]? = some (.arrived event isTerminal)) :
    { state with
      core := (state.core.handleTerminalEvent event).1
      events := state.events.set index (.decided (state.core.handleTerminalEvent event).2)
      }.Reported reason := by
  have grown : ∀ reports : List ConnectionEvent,
      (state.told ++ (state.handler.reports ++
        (state.events.set index (.decided reports)).flatMap EventTask.reports)).Perm
      (state.told ++ (reports ++ state.outstanding)) := by
    intro reports
    obtain ⟨earlier, later, split, replaced⟩ := exists_split_of_getElem? found (.decided reports)
    unfold outstanding
    rw [replaced, split]
    simp only [List.flatMap_append, List.flatMap_cons, EventTask.reports, List.nil_append]
    refine List.Perm.append_left _ ?_
    rw [← List.append_assoc, ← List.append_assoc state.handler.reports _ (later.flatMap _)]
    exact List.perm_append_comm_assoc _ _ _
  obtain ⟨isPending, notPast, before⟩ | ⟨none, isReported, once⟩ := holds.once
  · obtain ⟨taken, reported, same, reports⟩ :=
      ClientCore.handleTerminalEvent_of_pending isTerminal isPending
    refine ⟨same.trans holds.unrequested, .inr ⟨taken, reported, ?_⟩⟩
    rw [reports]
    exact (grown _).trans (perm_append_report before _)
  · obtain ⟨taken, reported, unrequested, reports⟩ :=
      ClientCore.handleTerminalEvent_of_reported isTerminal none isReported holds.unrequested
    refine ⟨unrequested, .inr ⟨taken, reported, ?_⟩⟩
    rw [reports]
    exact (grown []).trans once

/-- What was decided for an event is reported. -/
theorem Reported.report_event {index : Nat} {reports : List ConnectionEvent}
    (holds : state.Reported reason) (found : state.events[index]? = some (.decided reports)) :
    { state with
      events := state.events.set index (.decided [])
      told := state.told ++ reports }.Reported reason := by
  have moved : ((state.told ++ reports) ++ (state.handler.reports ++
      (state.events.set index (.decided [])).flatMap EventTask.reports)).Perm
      (state.told ++ state.outstanding) := by
    obtain ⟨earlier, later, split, replaced⟩ := exists_split_of_getElem? found (.decided [])
    unfold outstanding
    rw [replaced, split]
    simp only [List.flatMap_append, List.flatMap_cons, EventTask.reports, List.nil_append,
      List.append_assoc]
    refine List.Perm.append_left _ ?_
    rw [← List.append_assoc state.handler.reports, ← List.append_assoc state.handler.reports]
    exact List.perm_append_comm_assoc _ _ _
  obtain ⟨isPending, notPast, before⟩ | ⟨none, isReported, once⟩ := holds.once
  · exact ⟨holds.unrequested, .inl ⟨isPending, notPast, moved.trans before⟩⟩
  · exact ⟨holds.unrequested, .inr ⟨none, isReported, moved.trans once⟩⟩

/-- The time from the registration of the kick to a new connection or a disconnection on
request. -/
def Within (state : KickedClient) (move : KickMove) : Prop :=
  state.handler.isRegistered → move ≠ .connected ∧ move ≠ .disconnectRequested

instance (state : KickedClient) (move : KickMove) : Decidable (state.Within move) :=
  inferInstanceAs (Decidable (state.handler.isRegistered →
    move ≠ .connected ∧ move ≠ .disconnectRequested))

/-- The kick is registered. -/
theorem reported_register (stage : state.handler = .handling)
    (registered : (state.register reason).handler.isRegistered) :
    (state.register reason).Reported reason := by
  unfold register at registered ⊢
  by_cases requested : state.core.disconnectRequested = true
  · rw [if_pos requested] at registered
    cases registered
  · rw [if_neg requested]
    refine ⟨Bool.not_eq_true _ ▸ requested, .inl ⟨rfl, rfl, ?_⟩⟩
    unfold outstanding
    rw [stage]
    exact List.Perm.refl _

/-- The handler's steps. -/
theorem reported_kick (holds : state.handler.isRegistered → state.Reported reason)
    (stepped : state.kick reason = some next)
    (registered : next.handler.isRegistered) : next.Reported reason := by
  unfold kick at stepped
  split at stepped
  · next stage =>
      obtain rfl := Option.some.inj stepped
      exact reported_register stage registered
  · cases stepped
  · next stage =>
      obtain rfl := Option.some.inj stepped
      exact (holds (by rw [stage]; rfl)).advance rfl rfl rfl rfl (by rw [stage]; rfl)
  · next stage =>
      obtain rfl := Option.some.inj stepped
      exact (holds (by rw [stage]; rfl)).advance rfl rfl rfl rfl (by rw [stage]; rfl)
  · next stage =>
      obtain rfl := Option.some.inj stepped
      exact (holds (by rw [stage]; rfl)).take stage
  · next reports stage =>
      obtain rfl := Option.some.inj stepped
      exact (holds (by rw [stage]; rfl)).report_handler stage
  · cases stepped

/-- Every step within the time keeps to one report. -/
theorem reported_step {move : KickMove}
    (holds : state.handler.isRegistered → state.Reported reason)
    (within : state.Within move) (stepped : state.step reason move = some next)
    (registered : next.handler.isRegistered) : next.Reported reason := by
  cases move with
  | kick => exact reported_kick holds stepped registered
  | arrive event =>
      unfold step at stepped
      dsimp only at stepped
      split_ifs at stepped with isTerminal
      obtain rfl := Option.some.inj stepped
      obtain ⟨unrequested, once⟩ := holds registered
      have outstanding_eq : state.handler.reports ++
          (state.events ++ [EventTask.arrived event isTerminal]).flatMap EventTask.reports =
            state.outstanding := by
        rw [List.flatMap_append]
        exact congrArg (state.handler.reports ++ ·) (List.append_nil _)
      refine ⟨unrequested, ?_⟩
      unfold outstanding
      rw [outstanding_eq]
      exact once
  | decide index =>
      simp only [step, KickedClient.decide] at stepped
      split at stepped
      · next event isTerminal found =>
          obtain rfl := Option.some.inj stepped
          exact (holds registered).decide found
      · cases stepped
      · cases stepped
  | report index =>
      simp only [step, KickedClient.report] at stepped
      split at stepped
      · next reports found =>
          obtain rfl := Option.some.inj stepped
          exact (holds registered).report_event found
      · cases stepped
      · cases stepped
  | connected =>
      obtain rfl := Option.some.inj stepped
      exact absurd rfl (within registered).1
  | disconnectRequested =>
      obtain rfl := Option.some.inj stepped
      exact absurd rfl (within registered).2

/-- Nothing is under way: the handler is done, and every event has been handled. -/
def Settled (state : KickedClient) : Prop :=
  state.handler = .finished ∧ ∀ task ∈ state.events, task = .decided []

theorem reported_of_reaches {core : ClientCore}
    (reached : (kicking reason).Reaches Within (new core) state)
    (registered : state.handler.isRegistered) : state.Reported reason := by
  have always : state.handler.isRegistered → state.Reported reason := by
    refine reached.invariant (I := fun state => state.handler.isRegistered →
      state.Reported reason) (fun registered => by cases registered) ?_
    rintro before after ⟨move, within, stepped⟩ holds registered
    exact reported_step holds within stepped registered
  exact always registered

theorem outstanding_of_settled (settled : state.Settled) : state.outstanding = [] := by
  unfold outstanding
  rw [settled.1, List.append_eq_nil_iff]
  refine ⟨rfl, List.flatMap_eq_nil_iff.mpr fun task member => ?_⟩
  rw [settled.2 task member]
  rfl

end KickedClient

/-- **Once a kick is registered, the observers hear of one disconnection, with the reason of the
kick, and besides it of nothing but what was decided before; and they have heard of it when the
handler and all events are done.** -/
theorem kick_reported_once (reason : String) (core : ClientCore) {state : KickedClient}
    (reached : (kicking reason).Reaches KickedClient.Within (.new core) state)
    (registered : state.handler.isRegistered) :
    (∃ later, (state.told ++ later).Perm (state.carried ++ [.disconnected reason])) ∧
      (state.Settled → state.told.Perm (state.carried ++ [.disconnected reason])) := by
  have holds := KickedClient.reported_of_reaches reached registered
  obtain ⟨-, notPast, before⟩ | ⟨-, -, once⟩ := holds.once
  · refine ⟨⟨[.disconnected reason] ++ state.outstanding,
      KickedClient.perm_append_report before _⟩, fun settled => ?_⟩
    rw [settled.1] at notPast
    cases notPast
  · refine ⟨⟨state.outstanding, once⟩, fun settled => ?_⟩
    rwa [KickedClient.outstanding_of_settled settled, List.append_nil] at once

/-- A client in the middle of a session. -/
def negotiatedCore : ClientCore :=
  { ClientCore.new (ClientSetting.builtin .tcp []).config with
    state := .connected
    negotiationCompleted := true }

/-- The KICKED is handled, and the close that it makes arrives as an event. -/
def kickThenClose : List KickMove :=
  [.kick, .kick, .arrive (.disconnected "KICKED"), .decide 0, .report 0, .kick, .kick, .kick]

/-- The end of the connection is decided before the kick is registered, and reported after it. -/
def closeAroundKick : List KickMove :=
  [.arrive (.disconnected "Stream closed by peer"), .decide 0, .kick, .report 0, .kick, .kick,
    .kick, .kick]

theorem kick_reported_once_closed :
    ∃ state, (kicking "KICKED").Reaches KickedClient.Within (.new negotiatedCore) state ∧
      state.handler.isRegistered ∧ state.Settled ∧ state.carried = [] ∧
        state.told = [.disconnected "KICKED"] := by
  have evaluated : ∃ state, (kicking "KICKED").run (.new negotiatedCore) kickThenClose =
      some state ∧ state.handler = .finished ∧ state.events = [.decided []] ∧
        state.carried = [] := ⟨_, rfl, rfl, rfl, rfl⟩
  obtain ⟨state, run, finished, events, carried⟩ := evaluated
  have reached : (kicking "KICKED").Reaches KickedClient.Within (.new negotiatedCore) state :=
    System.reaches_of_run run (by decide)
  have registered : state.handler.isRegistered := by
    rw [finished]
    rfl
  have settled : state.Settled := by
    refine ⟨finished, ?_⟩
    rw [events]
    exact fun task member => List.mem_singleton.mp member
  have told := (kick_reported_once "KICKED" negotiatedCore reached registered).2 settled
  rw [carried] at told
  exact ⟨state, reached, registered, settled, carried, List.perm_singleton.mp told⟩

/-- **A close that was decided before the kick was registered is reported after it, beside the
kick.** -/
theorem kick_and_close_reported :
    ¬∀ (reason : String) (core : ClientCore) (state : KickedClient),
      (kicking reason).Reaches KickedClient.Within (.new core) state →
      state.handler.isRegistered → state.told = [] ∨ state.told = [.disconnected reason] := by
  intro always
  have evaluated : ∃ state, (kicking "KICKED").run (.new negotiatedCore) closeAroundKick =
      some state ∧ state.handler = .finished ∧
        state.told = [.disconnected "Stream closed by peer", .disconnected "KICKED"] :=
    ⟨_, rfl, rfl, rfl⟩
  obtain ⟨state, run, finished, told⟩ := evaluated
  have reached : (kicking "KICKED").Reaches KickedClient.Within (.new negotiatedCore) state :=
    System.reaches_of_run run (by decide)
  have registered : state.handler.isRegistered := by
    rw [finished]
    rfl
  have once := always "KICKED" negotiatedCore state reached registered
  rw [told] at once
  obtain none | one := once
  · cases none
  · cases (List.cons.inj one).2

end FlareCore.Client

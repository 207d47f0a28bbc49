import FlareCore.Client.Delivery
import FlareCore.Client.Race

/-!
# The connections that lose a race

A client that is not selected never does more than to disconnect: it sends nothing, no observer is
put on its connection, and none of its tasks holds on to anything.  What it does to its core it
does once the core is detached.  So nothing of it reaches what the others share, and when it is
dropped its connection is closed.

The client that is selected is dropped as well, if the time-out fires or its `connect` fails.  From
`attach_observer` on its connection outlives it (`isUnshared`).
-/

namespace FlareCore.Client

open FlareCore.Common FlareCore.Server FlareCore.Foundations

set_option autoImplicit false

/-! ## A client that only disconnects -/

namespace ClientState

/-- A client that has sent nothing and watches nothing. -/
structure Meek (state : ClientState) : Prop where
  written : state.written = []
  lines : ∀ line ∈ state.lines, line.attached = false ∧ line.reading = none
  tasks : ∀ task ∈ state.tasks, task = .clearing ∨ task = .done
  calls : ∀ operation ∈ state.operation,
    operation.call = .disconnect ∧ operation.stage.isDeparting = true

variable {state next : ClientState}

namespace Meek

theorem isAttached (meek : state.Meek) (line : Nat) : state.isAttached line = false := by
  simp only [ClientState.isAttached]
  cases found : state.lines[line]? with
  | none => rfl
  | some current => exact (meek.lines current (List.mem_of_getElem? found)).1

/-- What nothing refers to is dropped. -/
theorem settle (meek : state.Meek) : state.settle.Meek := by
  refine { meek with lines := fun line isLine => ?_ }
  obtain ⟨index, inside, rfl⟩ := List.mem_mapIdx.mp isLine
  have unwatched := meek.lines state.lines[index] (List.getElem_mem inside)
  split <;> exact unwatched

theorem shut (meek : state.Meek) (line : Nat) : (state.shut line).Meek := by
  refine { meek with lines := fun current isLine => ?_ }
  obtain ⟨index, found⟩ := List.mem_iff_getElem?.mp isLine
  rw [shut_lines, List.getElem?_modify] at found
  obtain ⟨earlier, isEarlier, rfl⟩ := Option.map_eq_some_iff.mp found
  have unwatched := meek.lines earlier (List.mem_of_getElem? isEarlier)
  split <;> exact unwatched

theorem proceed (meek : state.Meek) {operation : Operation} {stage : Stage}
    (disconnects : operation.call = .disconnect) (departs : stage.isDeparting = true) :
    (state.proceed operation stage).Meek := by
  refine { meek with calls := fun current isCurrent => ?_ }
  obtain rfl := Option.some.inj isCurrent
  exact ⟨disconnects, departs⟩

/-- A client as the race prepares it. -/
theorem prepared (config : ClientConfig) : (ClientState.prepared config).Meek where
  written := rfl
  lines line isLine := by
    obtain rfl := List.mem_singleton.mp isLine
    exact ⟨rfl, rfl⟩
  tasks task isTask := by cases isTask
  calls operation isOperation := by cases isOperation

/-- Nobody hears of the end of a line. -/
theorem announce_eq_self (meek : state.Meek) (setting : ClientSetting) (line : Nat)
    (event : ConnectionEvent) : state.announce setting line event = state :=
  if_neg (Bool.eq_false_iff.mp (meek.isAttached line))

theorem startDisconnect (meek : state.Meek) : state.startDisconnect.Meek := by
  refine { meek with calls := fun operation isOperation => ?_ }
  obtain rfl := Option.some.inj isOperation
  refine ⟨rfl, ?_⟩
  cases state.connection <;> rfl

/-- The end of `disconnect`. -/
theorem leave (meek : state.Meek) {setting : ClientSetting} (silent : setting.hasHandler = false)
    {operation : Operation} (disconnects : operation.call = .disconnect) (result : Result Unit) :
    (((state.withCore { state.core with pending := ∅ }).handleTerminalEvent setting
      (.disconnected "Client disconnected")).finish operation result).Meek := by
  have finished : ∀ state : ClientState, state.finish operation result =
      { state with operation := none, returned := some (operation.call, result) } := by
    intro state
    simp only [ClientState.finish, disconnects]
  rw [finished]
  simp only [ClientState.handleTerminalEvent, inform, silent]
  refine { meek with
    tasks := fun task isTask => ?_
    calls := fun operation isOperation => ?_ }
  · obtain isTask | isTask := List.mem_append.mp isTask
    · exact meek.tasks task isTask
    · exact .inl (List.mem_singleton.mp isTask)
  · cases isOperation

end Meek

variable [RustText] {setting : ClientSetting}

/-- The steps of `disconnect`. -/
theorem Meek.operate (meek : state.Meek) (silent : setting.hasHandler = false)
    {operation : Operation} (disconnects : operation.call = .disconnect)
    (departs : operation.stage.isDeparting = true) {answer : Answer}
    (operated : state.operate setting operation answer = some next) : next.Meek := by
  cases stage : operation.stage <;> rw [stage] at departs <;>
    simp only [ClientState.operate, stage] at operated <;> try cases departs
  case disconnecting.refl line =>
    obtain rfl := Option.some.inj operated
    exact (meek.shut line).proceed disconnects rfl
  case disconnected.refl line =>
    obtain rfl := Option.some.inj operated
    have leaving := meek.proceed disconnects (rfl : Stage.leaving.isDeparting = true)
    rw [leaving.announce_eq_self]
    exact leaving
  case leaving.refl =>
    obtain rfl := Option.some.inj operated
    exact meek.leave silent disconnects _

/-- Whatever is permitted to a client that was not selected keeps it meek. -/
theorem Meek.step (meek : state.Meek) (silent : setting.hasHandler = false) {move : Move}
    (permitted : move.isRunning = true ∨ move = .call .disconnect)
    (stepped : state.step setting move = some next) : next.Meek := by
  obtain ⟨performed, isPerformed, rfl⟩ := Option.map_eq_some_iff.mp stepped
  refine Meek.settle ?_
  obtain running | rfl := permitted
  · cases move with
    | call call | submit frame waits | send index answer => cases running
    | operate answer =>
        obtain ⟨operation, current, operated⟩ := Option.bind_eq_some_iff.mp isPerformed
        obtain ⟨disconnects, departs⟩ := meek.calls operation current
        exact meek.operate silent disconnects departs operated
    | read line event =>
        -- nobody reads a line that carries no observer
        simp only [perform, ClientState.read, Option.ite_none_right_eq_some] at isPerformed
        obtain ⟨⟨ready, -⟩, -⟩ := isPerformed
        rw [Option.any_eq_true] at ready
        obtain ⟨current, found, ready⟩ := ready
        simp [(meek.lines current (List.mem_of_getElem? found)).1] at ready
    | handOver line =>
        obtain ⟨event, reading, -⟩ := Option.map_eq_some_iff.mp isPerformed
        obtain ⟨current, found, isEvent⟩ := Option.bind_eq_some_iff.mp reading
        rw [(meek.lines current (List.mem_of_getElem? found)).2] at isEvent
        cases isEvent
    | work index answer =>
        obtain ⟨task, isTask, rfl⟩ := Option.map_eq_some_iff.mp isPerformed
        obtain ⟨isTask, active⟩ := Option.filter_eq_some_iff.mp isTask
        obtain rfl | rfl := meek.tasks task (List.mem_of_getElem? isTask)
        · refine { meek with tasks := fun task isTask => ?_ }
          obtain isTask | rfl := List.mem_or_eq_of_mem_set isTask
          · exact meek.tasks task isTask
          · exact .inr rfl
        · exact absurd rfl (of_decide_eq_true active)
  · obtain ⟨-, isPerformed⟩ := Option.ite_none_right_eq_some.mp isPerformed
    obtain rfl := Option.some.inj isPerformed
    exact meek.startDisconnect

/-- A client without tasks that is not called does nothing. -/
theorem Meek.step_eq_none (meek : state.Meek) (idle : state.tasks = []) {move : Move}
    (unattended : move.isUnattended = true) : state.step setting move = none := by
  cases move with
  | call call | submit frame waits | send index answer | operate answer => cases unattended
  | read line event =>
      refine Option.map_eq_none_iff.mpr (if_neg ?_)
      rintro ⟨ready, -⟩
      rw [Option.any_eq_true] at ready
      obtain ⟨current, found, ready⟩ := ready
      simp [(meek.lines current (List.mem_of_getElem? found)).1] at ready
  | handOver line =>
      refine Option.map_eq_none_iff.mpr (Option.map_eq_none_iff.mpr ?_)
      refine Option.bind_eq_none_iff.mpr fun current found => ?_
      exact (meek.lines current (List.mem_of_getElem? found)).2
  | work index answer => simp [ClientState.step, perform, idle]

/-- Readers and tasks open nothing. -/
theorem step_recedes_of_isUnattended {move : Move} (unattended : move.isUnattended = true)
    (stepped : state.step setting move = some next) : Recedes state next := by
  obtain ⟨performed, isPerformed, rfl⟩ := Option.map_eq_some_iff.mp stepped
  refine (settle_recedes performed).after ?_
  cases move with
  | call call | submit frame waits | send index answer | operate answer => cases unattended
  | read line event => exact (read_beside isPerformed).1.recedes
  | handOver line => exact (handOver_beside isPerformed).1.recedes
  | work index answer =>
      obtain ⟨task, -, rfl⟩ := Option.map_eq_some_iff.mp isPerformed
      exact state.work_recedes setting index answer task

end ClientState

/-! ## Dropping a client -/

namespace ClientState

variable {state : ClientState}

theorem isLive_lt {line : Nat} (live : state.isLive line = true) : line < state.lines.length := by
  by_contra outside
  simp [isLive, List.getElem?_eq_none (Nat.le_of_not_lt outside)] at live

theorem forget_recedes (state : ClientState) : Recedes state state.forget := by
  unfold forget
  split
  · exact .refl state
  · exact (settle_recedes _).after (.of_lines_eq rfl)

theorem drop_recedes (state : ClientState) : Recedes state state.drop :=
  (forget_recedes _).after ((settle_recedes _).after (.of_lines_eq rfl))

/-- A connection that is open is referred to. -/
theorem isHeld_of_settle_isLive {line : Nat} (live : state.settle.isLive line = true) :
    state.isHeld line = true := by
  simp only [isLive, settle_lines, List.getElem?_mapIdx, Option.any_map, Option.any_eq_true] at live
  obtain ⟨current, -, live⟩ := live
  by_cases held : state.isHeld line = true
  · exact held
  · simp [held] at live

theorem isUnshared_iff : state.isUnshared = true ↔ ∀ line, state.isLive line = true →
    state.isAttached line = false ∧
      ∀ task ∈ state.tasks, task.line = none ∧ task.holdsCore = false := by
  simp only [isUnshared, List.all_eq_true, List.mem_range, Bool.or_eq_true, Bool.and_eq_true,
    Bool.not_eq_true', Option.isNone_iff_eq_none]
  constructor
  · intro unshared line live
    obtain dead | apart := unshared line (isLive_lt live)
    · cases dead.symm.trans live
    · exact apart
  · intro unshared line _
    cases live : state.isLive line with
    | false => exact .inl rfl
    | true => exact .inr (unshared line live)

/-- **A client that is dropped with all that refers to its connections leaves none of them
open.** -/
theorem drop_closes (unshared : state.isUnshared = true) (line : Nat) :
    state.drop.isLive line = false := by
  rw [isUnshared_iff] at unshared
  refine Bool.eq_false_iff.mpr fun live => ?_
  obtain ⟨unattached, unretained⟩ := unshared line (state.drop_recedes.live line live)
  have noLine : ∀ index, (state.tasks.any fun task => task.line = some index) = false := by
    intro index
    refine List.any_eq_false.mpr fun task isTask => ?_
    simp [(unretained task isTask).1]
  let dropped : ClientState :=
    { state with connection := none, connectionPrepared := false, operation := none }
  have slot : state.core.clientConnection = some line := by
    have held := isHeld_of_settle_isLive ((forget_recedes dropped.settle).live line live)
    simpa [isHeld, dropped, noLine] using held
  -- the slot goes with the core, which nothing else holds
  have forgotten : dropped.settle.holdsCore = false := by
    have others : ∀ index ∈ List.range dropped.settle.lines.length,
        (dropped.settle.isAttached index && (dropped.settle.core.clientConnection = some index ||
          dropped.settle.tasks.any fun task => task.line = some index)) = false := by
      intro index _
      by_cases same : index = line
      · have detached : dropped.settle.isAttached index = false := by
          refine Bool.eq_false_iff.mpr fun attached => ?_
          have before := (settle_recedes dropped).attached index attached
          cases (same ▸ unattached).symm.trans before
        simp [detached]
      · have other : ¬line = index := fun equal => same equal.symm
        simp [dropped, slot, other, noLine]
    simp only [holdsCore, Bool.or_eq_false_iff, List.any_eq_false, Bool.not_eq_true]
    exact ⟨fun task isTask => (unretained task isTask).2, others⟩
  have live' : (dropped.settle.withCore
      { dropped.settle.core with clientConnection := none }).settle.isLive line = true := by
    have isForgotten : dropped.settle.forget = (dropped.settle.withCore
        { dropped.settle.core with clientConnection := none }).settle := by
      rw [forget, forgotten]
      rfl
    exact isForgotten ▸ live
  have held := isHeld_of_settle_isLive live'
  simp [isHeld, dropped, noLine] at held

/-- Nothing refers to the connection of a meek client but the client. -/
theorem Meek.isUnshared (meek : state.Meek) : state.isUnshared = true := by
  refine isUnshared_iff.mpr fun line _ => ⟨meek.isAttached line, fun task isTask => ?_⟩
  obtain rfl | rfl := meek.tasks task isTask <;> exact ⟨rfl, rfl⟩

/-- What a client finds in its core does not matter. -/
theorem Meek.load (meek : state.Meek) (store : CoreStore) (cells : CoreCells) :
    (store.load cells state).Meek :=
  { meek with }

@[simp]
theorem drop_tasks (state : ClientState) : state.drop.tasks = state.tasks := by
  simp only [drop, ClientState.forget]
  split <;> rfl

theorem Meek.forget (meek : state.Meek) : state.forget.Meek := by
  unfold ClientState.forget
  split
  · exact meek
  · exact Meek.settle { meek with }

theorem Meek.drop (meek : state.Meek) : state.drop.Meek := by
  refine Meek.forget (Meek.settle { meek with calls := fun operation isOperation => ?_ })
  cases isOperation

end ClientState

/-! ## When a client may be dropped -/

namespace RaceState

/-- The client that connects may be dropped. -/
def mayDrop (state : RaceState) : Bool :=
  match state.phase with
  | .connecting winner => state.racers[winner]?.all fun racer =>
      (state.store.load racer.cells racer.client).isUnshared
  | .waiting | .returned _ => true

/-- `connect` has failed on the connection that is selected. -/
def connectFailed (state : RaceState) : Bool :=
  match state.phase with
  | .connecting winner => state.racers[winner]?.any fun racer =>
      racer.client.returned.any fun returned => returned.2.toOption.isNone
  | .waiting | .returned _ => false

/-- The time-out does not fire, and `connect` does not fail, while an open connection of the client
that is selected carries its observer or is in use by a task. -/
def isPunctual (state : RaceState) : RaceMove → Bool
  | .timeout => state.mayDrop
  | .finish => !state.connectFailed || state.mayDrop
  | .dial _ _ | .abort _ | .join _ | .exhaust | .clean _ | .cleaned | .detach | .disconnect
  | .release | .client _ _ => true

end RaceState

/-- The condition under which a race leaves no connection open. -/
def Punctual (state : RaceState) (move : RaceMove) : Prop :=
  state.isPunctual move = true

instance (state : RaceState) (move : RaceMove) : Decidable (Punctual state move) :=
  inferInstanceAs (Decidable (_ = _))

/-! ## Where the clients of a race stand -/

namespace RacerStage

/-- The stages of the client that is selected. -/
def isChosen : RacerStage → Bool
  | selected | returned | released => true
  | dialing | established | failed | aborted | joined | detached | closing => false

/-- The stages of the client that the clean-up has at hand. -/
def isBusy : RacerStage → Bool
  | joined | detached | closing => true
  | dialing | established | failed | aborted | selected | returned | released => false

/-- There is no connection yet, or none any more. -/
def isBare : RacerStage → Bool
  | dialing | failed | aborted | released => true
  | established | selected | joined | detached | closing | returned => false

/-- The client has not been called. -/
def isCalm : RacerStage → Bool
  | dialing | established | failed | aborted | joined | detached => true
  | selected | closing | returned | released => false

theorem isCalm_of_isPending {stage : RacerStage} (pending : stage.isPending = true) :
    stage.isCalm = true := by
  cases stage <;> first | rfl | cases pending

/-- The core of the client is detached. -/
def isDetached : RacerStage → Bool
  | detached | closing => true
  | dialing | established | failed | aborted | joined | selected | returned | released => false

end RacerStage

namespace RaceState

/-- A client of the race in its place.  A client that was dropped leaves nothing open, if it is not
the one that is selected or the race is neat. -/
structure Fits (neat : Prop) (state : RaceState) (index : Nat) (racer : Racer) : Prop where
  chosen : state.selected = some index → racer.stage.isChosen = true
  unchosen : state.selected ≠ some index → racer.stage ≠ .selected ∧ racer.stage ≠ .returned
  busy : racer.stage.isBusy = true → state.cleanUp = .closing index
  underway : racer.stage = .selected → state.phase = .connecting index
  cleaned : state.cleanUp = .finished → racer.stage.isPending = false
  own : racer.cells.own ≠ state.outer.own
  shared : racer.stage.isPending = true ∨ state.selected = some index →
    racer.cells.race = state.outer.race
  meek : state.selected ≠ some index → racer.client.Meek
  calm : racer.stage.isCalm = true → racer.client.tasks = [] ∧ racer.client.operation = none
  apart : racer.stage.isDetached = true → racer.cells.race ≠ state.outer.race
  silent : state.selected ≠ some index → racer.stage = .released →
    racer.cells.race ≠ state.outer.race ∨ racer.client.tasks = []
  closed : neat ∨ state.selected ≠ some index → racer.stage.isBare = true →
    ∀ line, racer.client.isLive line = false

/-- What holds of a race at all times. -/
structure Sound (neat : Prop) (state : RaceState) : Prop where
  fits : ∀ index racer, state.racers[index]? = some racer → state.Fits neat index racer
  fresh : state.outer.race < state.store.raceCount
  waiting : state.phase = .waiting → state.selected = none ∧ state.cleanUp = .idle
  connecting : ∀ winner, state.phase = .connecting winner → state.selected = some winner

variable {neat : Prop} {state next : RaceState} {index : Nat} {racer : Racer}

theorem getElem?_put {other : Nat} {current : Racer}
    (found : (state.put index racer).racers[other]? = some current) :
    (other = index ∧ current = racer) ∨ (other ≠ index ∧ state.racers[other]? = some current) := by
  simp only [put, List.getElem?_set] at found
  split at found
  next same =>
    subst same
    split at found
    · exact .inl ⟨rfl, (Option.some.inj found).symm⟩
    · cases found
  next other => exact .inr ⟨fun same => other same.symm, found⟩

/-- One client goes on. -/
theorem Sound.put (sound : state.Sound neat) (fits : state.Fits neat index racer) :
    (state.put index racer).Sound neat where
  fits other current found := by
    obtain ⟨rfl, rfl⟩ | ⟨-, old⟩ := getElem?_put found
    · exact { fits with }
    · exact { sound.fits other current old with }
  fresh := sound.fresh
  waiting := sound.waiting
  connecting := sound.connecting

/-- One client goes on, and its core with it. -/
theorem Sound.update (sound : state.Sound neat) {client : ClientState}
    (fits : state.Fits neat index { racer with client := client }) :
    (state.update index racer client).Sound neat :=
  { sound.put fits with
    fits := fun other current found => { (sound.put fits).fits other current found with }
    fresh := sound.fresh }

/-- The client that is selected may do anything, but open a connection once it is dropped. -/
theorem Fits.withClient (fits : state.Fits neat index racer) (chosen : state.selected = some index)
    {client : ClientState}
    (closed : neat → racer.stage.isBare = true → ∀ line, client.isLive line = false) :
    state.Fits neat index { racer with client := client } := by
  have isChosen := fits.chosen chosen
  refine { fits with
    meek := fun unchosen => absurd chosen unchosen
    calm := fun calm => ?_
    silent := fun unchosen => absurd chosen unchosen
    closed := fun cases => closed (cases.resolve_right fun unchosen => unchosen chosen) }
  cases stage : racer.stage <;> rw [stage] at calm isChosen <;>
    first | exact absurd calm (by decide) | exact absurd isChosen (by decide)

/-- A client that only waits to be joined, or that is at the hands of the clean-up, is not the one
that is selected. -/
theorem Fits.not_selected (fits : state.Fits neat index racer)
    (stage : racer.stage.isChosen = false) :
    state.selected ≠ some index := by
  intro selected
  cases stage.symm.trans (fits.chosen selected)

/-- The task of a client that is not selected ends, or is joined. -/
theorem Fits.restage (fits : state.Fits neat index racer) (was : racer.stage.isChosen = false)
    {stage : RacerStage} (unchosen : stage ≠ .selected ∧ stage ≠ .returned)
    (busy : stage.isBusy = true → state.cleanUp = .closing index)
    (cleaned : state.cleanUp = .finished → stage.isPending = false)
    (shared : stage.isPending = true → racer.cells.race = state.outer.race)
    (calm : stage.isCalm = true → racer.stage.isCalm = true)
    (apart : stage.isDetached = true → racer.cells.race ≠ state.outer.race)
    (silent : stage = .released →
      racer.cells.race ≠ state.outer.race ∨ racer.client.tasks = [])
    (closed : stage.isBare = true → ∀ line, racer.client.isLive line = false) :
    state.Fits neat index { racer with stage := stage } :=
  have different := fits.not_selected was
  { fits with
    chosen := fun selected => absurd selected different
    unchosen := fun _ => unchosen
    busy := busy
    underway := fun selected => absurd selected unchosen.1
    cleaned := cleaned
    shared := fun cases => cases.elim shared fun selected => absurd selected different
    calm := fun isCalm => fits.calm (calm isCalm)
    apart := apart
    silent := fun _ => silent
    closed := fun _ => closed }

/-- The dial of a task ends. -/
theorem Sound.dial (sound : state.Sound neat) (found : state.racers[index]? = some racer)
    (dialing : racer.stage = .dialing) (config : ClientConfig) (succeeds : Bool) :
    (state.put index
      (if succeeds then { racer with client := .prepared config, stage := .established }
      else { racer with stage := .failed })).Sound neat := by
  have fits := sound.fits index racer found
  have different := fits.not_selected (by rw [dialing]; rfl)
  have shared := fits.shared (.inl (by rw [dialing]; rfl))
  have uncleaned : state.cleanUp ≠ .finished := by
    intro finished
    have done := fits.cleaned finished
    rw [dialing] at done
    cases done
  cases succeeds with
  | true =>
      rw [if_pos rfl]
      exact sound.put { fits with
        chosen := fun selected => absurd selected different
        unchosen := fun _ => ⟨RacerStage.noConfusion, RacerStage.noConfusion⟩
        busy := Bool.noConfusion
        underway := RacerStage.noConfusion
        cleaned := fun finished => absurd finished uncleaned
        shared := fun _ => shared
        meek := fun _ => .prepared config
        calm := fun _ => ⟨rfl, rfl⟩
        apart := Bool.noConfusion
        silent := fun _ => RacerStage.noConfusion
        closed := fun _ => Bool.noConfusion }
  | false =>
      rw [if_neg Bool.noConfusion]
      refine sound.put (fits.restage (by rw [dialing]; rfl) ⟨by decide, by decide⟩ nofun
        (fun finished => absurd finished uncleaned) (fun _ => shared)
        (fun _ => by rw [dialing]; rfl) nofun nofun fun _ => ?_)
      exact fits.closed (.inr different) (by rw [dialing]; rfl)

/-- A task that was aborted ends. -/
theorem Sound.abort (sound : state.Sound neat) (found : state.racers[index]? = some racer)
    (dialing : racer.stage = .dialing) :
    (state.put index { racer with stage := .aborted }).Sound neat := by
  have fits := sound.fits index racer found
  have different := fits.not_selected (by rw [dialing]; rfl)
  refine sound.put (fits.restage (by rw [dialing]; rfl) ⟨by decide, by decide⟩ nofun ?_ ?_
    (fun _ => by rw [dialing]; rfl) nofun nofun fun _ => ?_)
  · intro finished
    have done := fits.cleaned finished
    rw [dialing] at done
    cases done
  · exact fun _ => fits.shared (.inl (by rw [dialing]; rfl))
  · exact fits.closed (.inr different) (by rw [dialing]; rfl)

/-- A task without a connection is joined. -/
theorem Sound.joinFailed (sound : state.Sound neat) (found : state.racers[index]? = some racer)
    (ended : racer.stage = .failed ∨ racer.stage = .aborted) :
    (state.put index { racer with stage := .released }).Sound neat := by
  have fits := sound.fits index racer found
  have unchosen : racer.stage.isChosen = false := by
    obtain stage | stage := ended <;> rw [stage] <;> rfl
  have bare : racer.stage.isBare = true := by obtain stage | stage := ended <;> rw [stage] <;> rfl
  have calm : racer.stage.isCalm = true := by obtain stage | stage := ended <;> rw [stage] <;> rfl
  have closed := fits.closed (.inr (fits.not_selected unchosen)) bare
  exact sound.put (fits.restage unchosen ⟨by decide, by decide⟩ nofun (fun _ => rfl) nofun nofun
    nofun (fun _ => .inr (fits.calm calm).1) fun _ => closed)

/-- Nothing is left in the set of tasks. -/
theorem isPending_of_isEmpty (empty : state.isEmpty = true)
    (found : state.racers[index]? = some racer) : racer.stage.isPending = false := by
  simpa using List.all_eq_true.mp empty racer (List.mem_of_getElem? found)

/-- The clean-up joins the last task, or the race was left without one. -/
theorem Sound.empties (sound : state.Sound neat) (empty : state.isEmpty = true) {phase : RacePhase}
    (waiting : phase ≠ .waiting)
    (connecting : ∀ winner, phase = .connecting winner → state.selected = some winner)
    (underway : ∀ winner, state.phase = .connecting winner → phase = .connecting winner)
    (unbusy : ∀ loser, state.cleanUp ≠ .closing loser) :
    { state with phase := phase, cleanUp := .finished }.Sound neat where
  fits index racer found :=
    have fits := sound.fits index racer found
    { fits with
      busy := fun busy => absurd (fits.busy busy) (unbusy index)
      underway := fun selected => underway index (fits.underway selected)
      cleaned := fun _ => isPending_of_isEmpty empty found }
  fresh := sound.fresh
  waiting isWaiting := absurd isWaiting waiting
  connecting := connecting

/-- The clean-up takes up a connection. -/
theorem Sound.clean (sound : state.Sound neat) (found : state.racers[index]? = some racer)
    (established : racer.stage = .established) (joining : state.cleanUp = .joining) :
    { state.put index { racer with stage := .joined } with
      cleanUp := .closing index }.Sound neat := by
  have fits := sound.fits index racer found
  have different := fits.not_selected (by rw [established]; rfl)
  refine ⟨fun other current isCurrent => ?_, sound.fresh, fun waiting => ?_, sound.connecting⟩
  · obtain ⟨rfl, rfl⟩ | ⟨-, old⟩ := getElem?_put isCurrent
    · exact { fits with
        chosen := fun selected => absurd selected different
        unchosen := fun _ => ⟨RacerStage.noConfusion, RacerStage.noConfusion⟩
        busy := fun _ => rfl
        underway := RacerStage.noConfusion
        cleaned := CleanUp.noConfusion
        shared := fun _ => fits.shared (.inl (by rw [established]; rfl))
        calm := fun _ => fits.calm (by rw [established]; rfl)
        apart := Bool.noConfusion
        silent := fun _ => RacerStage.noConfusion
        closed := fun _ => Bool.noConfusion }
    · have others := sound.fits other current old
      exact { others with
        busy := fun busy => absurd (joining.symm.trans (others.busy busy)) CleanUp.noConfusion
        cleaned := CleanUp.noConfusion }
  · cases (sound.waiting waiting).2.symm.trans joining

/-- The core of a client that was not selected is detached. -/
theorem Sound.detach (sound : state.Sound neat) (found : state.racers[index]? = some racer)
    (joined : racer.stage = .joined) :
    { state.put index { racer with
        cells := state.store.detachedCells racer.cells
        stage := .detached } with
      store := state.store.detachRaceState }.Sound neat := by
  have fits := sound.fits index racer found
  have different := fits.not_selected (by rw [joined]; rfl)
  have fits' : state.Fits neat index { racer with
      cells := state.store.detachedCells racer.cells, stage := .detached } :=
    { fits with
      chosen := fun selected => absurd selected different
      unchosen := fun _ => ⟨RacerStage.noConfusion, RacerStage.noConfusion⟩
      busy := fun _ => fits.busy (by rw [joined]; rfl)
      underway := RacerStage.noConfusion
      cleaned := fun _ => rfl
      shared := fun cases => cases.elim Bool.noConfusion fun selected => absurd selected different
      calm := fun _ => fits.calm (by rw [joined]; rfl)
      apart := fun _ => Nat.ne_of_gt sound.fresh
      silent := fun _ => RacerStage.noConfusion
      closed := fun _ => Bool.noConfusion }
  have next := sound.put fits'
  exact { next with
    fits := fun other current isCurrent => { next.fits other current isCurrent with }
    fresh := Nat.lt_succ_of_lt sound.fresh }

/-- A client that is not selected is dropped. -/
theorem Sound.release (sound : state.Sound neat) (found : state.racers[index]? = some racer)
    (closing : racer.stage = .closing) :
    { state.dropRacer index racer with cleanUp := .joining }.Sound neat := by
  have fits := sound.fits index racer found
  have different := fits.not_selected (by rw [closing]; rfl)
  have busy := fits.busy (by rw [closing]; rfl)
  have meek := (fits.meek different).load state.store racer.cells
  refine ⟨fun other current isCurrent => ?_, sound.fresh, fun waiting => ?_, sound.connecting⟩
  · obtain ⟨rfl, rfl⟩ | ⟨isOther, old⟩ := getElem?_put isCurrent
    · exact { fits with
        chosen := fun selected => absurd selected different
        unchosen := fun _ => ⟨RacerStage.noConfusion, RacerStage.noConfusion⟩
        busy := Bool.noConfusion
        underway := RacerStage.noConfusion
        cleaned := fun _ => rfl
        shared := fun cases => cases.elim Bool.noConfusion fun selected => absurd selected different
        meek := fun _ => meek.drop
        calm := Bool.noConfusion
        apart := Bool.noConfusion
        silent := fun _ _ => .inl (fits.apart (by rw [closing]; rfl))
        closed := fun _ _ => ClientState.drop_closes meek.isUnshared }
    · have others := sound.fits other current old
      refine { others with
        busy := fun isBusy => ?_
        cleaned := CleanUp.noConfusion }
      exact absurd (CleanUp.closing.inj (busy.symm.trans (others.busy isBusy))).symm isOther
  · cases (sound.waiting waiting).2.symm.trans busy

section Steps

variable [RustText] {setting : ClientSetting}

omit [RustText] in
/-- What goes on in a client that is not selected: the clean-up disconnects it, or it is dropped and
its tasks go on. -/
theorem Fits.permits_cases (fits : state.Fits neat index racer)
    (unchosen : state.selected ≠ some index) {move : Move}
    (permitted : racer.stage.permits move = true) :
    (racer.stage = .closing ∧ move.isRunning = true) ∨
      (racer.stage = .released ∧ move.isUnattended = true) := by
  obtain ⟨notSelected, notReturned⟩ := fits.unchosen unchosen
  cases stage : racer.stage with
  | closing => exact .inl ⟨rfl, by rw [stage] at permitted; exact permitted⟩
  | released => exact .inr ⟨rfl, by rw [stage] at permitted; exact permitted⟩
  | selected => exact absurd stage notSelected
  | returned => exact absurd stage notReturned
  | dialing | established | failed | aborted | joined | detached =>
      rw [stage] at permitted
      cases permitted

/-- A client that is not selected does something only once its core is detached. -/
theorem Fits.apart_of_step (fits : state.Fits neat index racer)
    (unchosen : state.selected ≠ some index) {move : Move}
    (permitted : racer.stage.permits move = true) {client : ClientState}
    (stepped : (state.store.load racer.cells racer.client).step (setting.racing racer.protocol)
      move = some client) : racer.cells.race ≠ state.outer.race := by
  have meek := (fits.meek unchosen).load state.store racer.cells
  obtain ⟨closing, -⟩ | ⟨released, unattended⟩ := fits.permits_cases unchosen permitted
  · exact fits.apart (by rw [closing]; rfl)
  · refine (fits.silent unchosen released).resolve_right fun idle => ?_
    rw [meek.step_eq_none idle unattended] at stepped
    cases stepped

theorem Sound.advance (sound : state.Sound neat) (found : state.racers[index]? = some racer)
    {move : Move} (permitted : racer.stage.permits move = true)
    (advanced : state.advance setting index racer move = some next) : next.Sound neat := by
  have fits := sound.fits index racer found
  obtain ⟨client, stepped, rfl⟩ := Option.map_eq_some_iff.mp advanced
  refine sound.update ?_
  by_cases chosen : state.selected = some index
  · refine fits.withClient chosen fun isNeat bare line => ?_
    have released : racer.stage = .released := by
      have isChosen := fits.chosen chosen
      cases stage : racer.stage <;> rw [stage] at bare isChosen <;>
        first | rfl | exact absurd bare (by decide) | exact absurd isChosen (by decide)
    have unattended : move.isUnattended = true := by
      rw [released] at permitted
      exact permitted
    rw [if_pos released]
    exact (client.forget_recedes.after (ClientState.step_recedes_of_isUnattended unattended
      stepped)).not_live (fits.closed (.inl isNeat) bare line)
  · have meek := (fits.meek chosen).load state.store racer.cells
    have apart := fits.apart_of_step chosen permitted stepped
    obtain ⟨closing, running⟩ | ⟨released, unattended⟩ := fits.permits_cases chosen permitted
    · have after : client.Meek := meek.step rfl (.inl running) stepped
      rw [if_neg (by rw [closing]; exact RacerStage.noConfusion)]
      exact { fits with
        meek := fun _ => after
        calm := fun calm => by rw [closing] at calm; cases calm
        silent := fun _ _ => .inl apart
        closed := fun _ bare => by rw [closing] at bare; cases bare }
    · have running : move.isRunning = true := by
        cases move <;> first | rfl | cases unattended
      have after : client.Meek := meek.step rfl (.inl running) stepped
      have recedes := client.forget_recedes.after
        (ClientState.step_recedes_of_isUnattended unattended stepped)
      rw [if_pos released]
      exact { fits with
        meek := fun _ => after.forget
        calm := fun calm => by rw [released] at calm; cases calm
        silent := fun _ _ => .inl apart
        closed := fun _ bare line => recedes.not_live (fits.closed (.inr chosen) bare line) }

/-- The connection that is there first is selected, and its client connects. -/
theorem Sound.select (sound : state.Sound neat) (found : state.racers[index]? = some racer)
    (waiting : state.phase = .waiting) (established : racer.stage = .established)
    (selected : state.select setting index racer = some next) : next.Sound neat := by
  have fits := sound.fits index racer found
  obtain ⟨none, idle⟩ := sound.waiting waiting
  obtain ⟨client, -, rfl⟩ := Option.map_eq_some_iff.mp selected
  refine ⟨fun other current isCurrent => ?_, sound.fresh, RacePhase.noConfusion, ?_⟩
  · obtain ⟨rfl, rfl⟩ | ⟨different, isOther⟩ := getElem?_put isCurrent
    · exact { fits with
        chosen := fun _ => rfl
        unchosen := fun unchosen => absurd rfl unchosen
        busy := Bool.noConfusion
        underway := fun _ => rfl
        cleaned := fun _ => rfl
        shared := fun _ => fits.shared (.inl (by rw [established]; rfl))
        meek := fun unchosen => absurd rfl unchosen
        calm := Bool.noConfusion
        apart := Bool.noConfusion
        silent := fun _ => RacerStage.noConfusion
        closed := fun _ => Bool.noConfusion }
    · have isOld : state.racers[other]? = some current :=
        ((getElem?_put isOther).resolve_left fun same => different same.1).2
      have others := sound.fits other current isOld
      have unchosen : state.selected ≠ some other := by
        rw [none]
        exact nofun
      refine { others with
        chosen := fun chosen => absurd (Option.some.inj chosen).symm different
        unchosen := fun _ => others.unchosen unchosen
        busy := fun busy => absurd (idle.symm.trans (others.busy busy)) CleanUp.noConfusion
        underway := fun underway => absurd underway (others.unchosen unchosen).1
        cleaned := fun finished => ?_
        shared := fun shared => others.shared (shared.imp_right fun chosen =>
          absurd (Option.some.inj chosen).symm different)
        meek := fun _ => others.meek unchosen
        silent := fun _ => others.silent unchosen
        closed := fun _ => others.closed (.inr unchosen) }
      refine isPending_of_isEmpty ?_ isOther
      by_contra left
      cases finished.symm.trans (if_neg left)
  · intro winner connecting
    obtain rfl := RacePhase.connecting.inj connecting
    rfl

/-- The clean-up disconnects a client that is not selected. -/
theorem Sound.closeRaceLoser (sound : state.Sound neat) (found : state.racers[index]? = some racer)
    (detached : racer.stage = .detached)
    (closes : state.closeRaceLoser setting index racer = some next) : next.Sound neat := by
  have fits := sound.fits index racer found
  have different := fits.not_selected (by rw [detached]; rfl)
  obtain ⟨client, stepped, rfl⟩ := Option.map_eq_some_iff.mp closes
  have requested : { state with store := state.store.changeRace racer.cells fun cell =>
      { cell with disconnectRequested := true } }.Sound neat :=
    { sound with
      fits := fun other current isCurrent => { sound.fits other current isCurrent with }
      fresh := sound.fresh }
  have meek : client.Meek :=
    ((fits.meek different).load _ racer.cells).step rfl (.inr rfl) stepped
  refine requested.update ?_
  rw [if_neg RacerStage.noConfusion]
  exact { fits with
    chosen := fun selected => absurd selected different
    unchosen := fun _ => ⟨RacerStage.noConfusion, RacerStage.noConfusion⟩
    busy := fun _ => fits.busy (by rw [detached]; rfl)
    underway := RacerStage.noConfusion
    cleaned := fun _ => rfl
    shared := fun cases => cases.elim Bool.noConfusion fun selected => absurd selected different
    meek := fun _ => meek
    calm := Bool.noConfusion
    apart := fun _ => fits.apart (by rw [detached]; rfl)
    silent := fun _ => RacerStage.noConfusion
    closed := fun _ => Bool.noConfusion }

omit [RustText] in
/-- The client that is selected is returned or dropped, and the race is over. -/
theorem Sound.concludes (sound : state.Sound neat) (found : state.racers[index]? = some racer)
    (connecting : state.phase = .connecting index) {stage : RacerStage} {client : ClientState}
    (settled : stage = .returned ∨
      (stage = .released ∧ (neat → ∀ line, client.isLive line = false))) (store : CoreStore)
    (count : store.raceCount = state.store.raceCount) (winner : Option Nat) :
    { state.put index { racer with stage := stage, client := client } with
      store := store
      phase := .returned winner }.Sound neat := by
  have fits := sound.fits index racer found
  have selected := sound.connecting index connecting
  have chosen : stage.isChosen = true := by obtain rfl | ⟨rfl, -⟩ := settled <;> rfl
  refine ⟨fun other current isCurrent => ?_, count ▸ sound.fresh, RacePhase.noConfusion,
    fun _ => RacePhase.noConfusion⟩
  obtain ⟨rfl, rfl⟩ | ⟨different, old⟩ := getElem?_put isCurrent
  · have apart : stage.isBusy = false ∧ stage ≠ .selected ∧ stage.isPending = false ∧
        stage.isCalm = false ∧ stage.isDetached = false := by
      obtain rfl | ⟨rfl, -⟩ := settled <;> exact ⟨rfl, RacerStage.noConfusion, rfl, rfl, rfl⟩
    obtain ⟨unbusy, ended, joined, called, attached⟩ := apart
    exact { fits with
      chosen := fun _ => chosen
      unchosen := fun unchosen => absurd selected unchosen
      busy := fun busy => absurd (unbusy.symm.trans busy) Bool.noConfusion
      underway := fun underway => absurd underway ended
      cleaned := fun _ => joined
      shared := fun _ => fits.shared (.inr selected)
      meek := fun unchosen => absurd selected unchosen
      calm := fun calm => absurd (called.symm.trans calm) Bool.noConfusion
      apart := fun detached => absurd (attached.symm.trans detached) Bool.noConfusion
      silent := fun unchosen => absurd selected unchosen
      closed := fun isNeat bare => by
        obtain rfl | ⟨rfl, closed⟩ := settled
        · cases bare
        · exact closed (isNeat.resolve_right fun unchosen => unchosen selected) }
  · have others := sound.fits other current old
    refine { others with underway := fun underway => ?_ }
    exact absurd (RacePhase.connecting.inj (connecting.symm.trans (others.underway underway))).symm
      different

omit [RustText] in
/-- The set of tasks is dropped. -/
theorem Sound.dropTasks (sound : state.Sound neat) (waiting : state.phase = .waiting) :
    { state.dropTasks with phase := .returned none, cleanUp := .finished }.Sound neat := by
  obtain ⟨none, idle⟩ := sound.waiting waiting
  refine ⟨fun index current isCurrent => ?_, sound.fresh, RacePhase.noConfusion,
    fun _ => RacePhase.noConfusion⟩
  simp only [RaceState.dropTasks, List.getElem?_map, Option.map_eq_some_iff] at isCurrent
  obtain ⟨racer, found, rfl⟩ := isCurrent
  have fits := sound.fits index racer found
  have different : state.selected ≠ some index := by
    rw [none]
    exact nofun
  split
  next pending =>
    have meek := (fits.meek different).load state.store racer.cells
    refine { fits with
      chosen := fun selected => absurd selected different
      unchosen := fun _ => ⟨RacerStage.noConfusion, RacerStage.noConfusion⟩
      busy := Bool.noConfusion
      underway := RacerStage.noConfusion
      cleaned := fun _ => rfl
      shared := fun _ => fits.shared (.inl pending)
      meek := fun _ => meek.drop
      calm := Bool.noConfusion
      apart := Bool.noConfusion
      silent := fun _ _ => .inr ?_
      closed := fun _ _ => ClientState.drop_closes meek.isUnshared }
    rw [ClientState.drop_tasks]
    exact (fits.calm (RacerStage.isCalm_of_isPending pending)).1
  next joined =>
    exact { fits with
      busy := fun busy => absurd (idle.symm.trans (fits.busy busy)) CleanUp.noConfusion
      underway := fun underway => absurd underway (fits.unchosen different).1
      cleaned := fun _ => Bool.eq_false_iff.mpr joined }

/-- **Every step of a race keeps its clients in their places.** -/
theorem Sound.step (sound : state.Sound neat) {move : RaceMove}
    (punctual : neat → Punctual state move) (stepped : state.step setting move = some next) :
    next.Sound neat := by
  cases step_cases stepped with
  | dial found dialing succeeds => exact sound.dial found dialing setting.config succeeds
  | abort found dialing => exact sound.abort found dialing
  | select found waiting established selected =>
      exact sound.select found waiting established selected
  | joinFailed found failed => exact sound.joinFailed found (.inl failed)
  | exhaust waiting empty =>
      refine sound.empties empty RacePhase.noConfusion (fun _ => RacePhase.noConfusion) ?_ ?_
      · intro winner connecting
        cases waiting.symm.trans connecting
      · intro loser closing
        cases (sound.waiting waiting).2.symm.trans closing
  | clean found joining established => exact sound.clean found established joining
  | discard found ended => exact sound.joinFailed found ended
  | cleaned joining empty =>
      refine sound.empties empty ?_ sound.connecting (fun _ => id) ?_
      · intro waiting
        cases (sound.waiting waiting).2.symm.trans joining
      · intro loser closing
        cases joining.symm.trans closing
  | detach found closing joined => exact sound.detach found joined
  | disconnect found closing detached closes => exact sound.closeRaceLoser found detached closes
  | release found closing isClosing => exact sound.release found isClosing
  | client found permitted advanced => exact sound.advance found permitted advanced
  | @finish index racer call result found connecting free returned =>
      cases result with
      | ok => exact sound.concludes found connecting (.inl rfl) (state.store.setState _ _) rfl _
      | error error =>
          refine sound.concludes found connecting (.inr ⟨rfl, fun isNeat => ?_⟩)
            (state.store.save _ _) rfl _
          refine ClientState.drop_closes ?_
          have mayDrop := punctual isNeat
          simpa [Punctual, isPunctual, connectFailed, RaceState.mayDrop, connecting, found,
            returned, Except.toOption] using mayDrop
  | dropAll waiting => exact sound.dropTasks waiting
  | drop found connecting =>
      refine sound.concludes found connecting (.inr ⟨rfl, fun isNeat => ?_⟩)
        (state.store.save _ _) rfl _
      refine ClientState.drop_closes ?_
      have mayDrop := punctual isNeat
      simpa [Punctual, isPunctual, RaceState.mayDrop, connecting, found] using mayDrop

end Steps

/-- The tasks of a race begin with nothing, and with the core of the race. -/
theorem spawnConnectionTasks_spec (config : ClientConfig) (outer : CoreCells)
    (protocols : List TransportProtocol) (store : CoreStore) (fresh : outer.own < store.ownCount) :
    store.raceCount ≤ (spawnConnectionTasks config outer store protocols).1.raceCount ∧
      ∀ racer ∈ (spawnConnectionTasks config outer store protocols).2,
        racer.stage = .dialing ∧ racer.client = .new config ∧ racer.cells.race = outer.race ∧
          racer.cells.own ≠ outer.own := by
  induction protocols generalizing store with
  | nil => exact ⟨Nat.le_refl _, List.forall_mem_nil _⟩
  | cons protocol protocols inductionHypothesis =>
      obtain ⟨count, racers⟩ :=
        inductionHypothesis (store.newCore config) (Nat.lt_succ_of_lt fresh)
      refine ⟨(Nat.le_succ _).trans count, fun racer isRacer => ?_⟩
      obtain rfl | isRacer := List.mem_cons.mp isRacer
      · exact ⟨rfl, rfl, rfl, Nat.ne_of_gt fresh⟩
      · exact racers racer isRacer

theorem sound_start (config : ClientConfig) (protocols : List TransportProtocol) :
    (start config protocols).Sound neat := by
  obtain ⟨count, racers⟩ := spawnConnectionTasks_spec config (CoreStore.empty config).newCells
    protocols ((CoreStore.empty config).newCore config) Nat.zero_lt_one
  refine ⟨fun index racer found => ?_, Nat.lt_of_lt_of_le Nat.zero_lt_one count,
    fun _ => ⟨rfl, rfl⟩, fun _ => RacePhase.noConfusion⟩
  obtain ⟨dialing, isNew, race, own⟩ := racers racer (List.mem_of_getElem? found)
  have meek : racer.client.Meek := by
    rw [isNew]
    exact ⟨rfl, List.forall_mem_nil _, List.forall_mem_nil _, fun operation isOperation => by
      cases isOperation⟩
  exact {
    chosen := nofun
    unchosen := fun _ => by rw [dialing]; exact ⟨RacerStage.noConfusion, RacerStage.noConfusion⟩
    busy := by rw [dialing]; exact Bool.noConfusion
    underway := by rw [dialing]; exact RacerStage.noConfusion
    cleaned := CleanUp.noConfusion
    own := own
    shared := fun _ => race
    meek := fun _ => meek
    calm := fun _ => by rw [isNew]; exact ⟨rfl, rfl⟩
    apart := by rw [dialing]; exact Bool.noConfusion
    silent := fun _ => by rw [dialing]; exact RacerStage.noConfusion
    closed := fun _ _ line => by rw [isNew]; rfl }

/-! ## What the others see of it -/

/-- The client that makes a move, or for which the clean-up makes it. -/
def actor (state : RaceState) : RaceMove → Option Nat
  | .dial index _ | .abort index | .clean index | .client index _ => some index
  | .detach | .disconnect | .release =>
      match state.cleanUp with
      | .closing index => some index
      | .idle | .joining | .finished => none
  | .join _ | .exhaust | .cleaned | .finish | .timeout => none

/-- **What a client that is not selected does leaves alone what the race shares.** -/
theorem Sound.isolated [RustText] {setting : ClientSetting} (sound : state.Sound neat)
    {move : RaceMove} (acts : state.actor move = some index)
    (unchosen : state.selected ≠ some index)
    (stepped : state.step setting move = some next) :
    next.store.race state.outer.race = state.store.race state.outer.race := by
  cases step_cases stepped with
  | dial | abort | clean | discard => rfl
  | @client other racer move next found permitted advanced =>
      obtain rfl := Option.some.inj acts
      obtain ⟨client, taken, rfl⟩ := Option.map_eq_some_iff.mp advanced
      have apart := (sound.fits other racer found).apart_of_step unchosen permitted taken
      exact Function.update_of_ne apart.symm _ _
  | detach found closing joined => exact Function.update_of_ne (Nat.ne_of_lt sound.fresh) _ _
  | @disconnect other racer next found closing detached closes =>
      obtain ⟨client, -, rfl⟩ := Option.map_eq_some_iff.mp closes
      have apart := (sound.fits other racer found).apart (by rw [detached]; rfl)
      exact (Function.update_of_ne apart.symm _ _).trans (Function.update_of_ne apart.symm _ _)
  | @release other racer found closing isClosing =>
      have apart := (sound.fits other racer found).apart (by rw [isClosing]; rfl)
      exact Function.update_of_ne apart.symm _ _
  | select | joinFailed | exhaust | cleaned | finish | dropAll | drop => cases acts

end RaceState

/-! ## Races -/

/-- `connect_with_race` has returned, and its clean-up has finished. -/
def RaceState.isOver (state : RaceState) : Bool :=
  match state.phase, state.cleanUp with
  | .returned _, .finished => true
  | _, _ => false

/-- A client that is left when the race is over was returned or dropped. -/
theorem RaceState.Fits.released_of_isOver {neat : Prop} {state : RaceState} {index : Nat}
    {racer : Racer} (fits : state.Fits neat index racer) (ended : state.isOver = true)
    (unreturned : racer.stage ≠ .returned) : racer.stage = .released := by
  obtain ⟨⟨winner, returned⟩, finished⟩ :
      (∃ winner, state.phase = .returned winner) ∧ state.cleanUp = .finished := by
    simp only [RaceState.isOver] at ended
    split at ended
    next winner returned finished => exact ⟨⟨winner, returned⟩, finished⟩
    next => cases ended
  have joined := fits.cleaned finished
  cases stage : racer.stage with
  | released => rfl
  | returned => exact absurd stage unreturned
  | selected => cases returned.symm.trans (fits.underway stage)
  | joined | detached | closing =>
      cases finished.symm.trans (fits.busy (by rw [stage]; rfl))
  | dialing | established | failed | aborted =>
      rw [stage] at joined
      cases joined

section Races

variable [RustText]

/-- The clients of a race keep their places in every run, and in every punctual run nothing is left
open by the one that is selected. -/
theorem RaceState.sound_of_reaches {setting : ClientSetting} {protocols : List TransportProtocol}
    {state : RaceState} {neat : Prop} {allowed : RaceState → RaceMove → Prop}
    (punctual : ∀ state move, allowed state move → neat → Punctual state move)
    (reached : (raceSystem setting).Reaches allowed (.start setting.config protocols) state) :
    state.Sound neat := by
  refine System.Reaches.invariant reached (sound_start setting.config protocols) ?_
  rintro before after ⟨move, isAllowed, stepped⟩ sound
  exact sound.step (punctual before move isAllowed) stepped

/-- **In every run of a race, a connection that is not selected carries nothing, and what its client
does leaves alone what the race shares; and in every run in which the client that is selected is
not dropped while its connection is open and observed, every connection of the race but the one of
the returned client is closed in the end.** -/
theorem race_losers_apart_and_closed (setting : ClientSetting) (protocols : List TransportProtocol)
    {state : RaceState} (reached : (raceSystem setting).Reaches System.always
      (.start setting.config protocols) state) :
    (∀ index racer, state.racers[index]? = some racer → state.selected ≠ some index →
      racer.client.written = []) ∧
    (∀ index move next, state.actor move = some index → state.selected ≠ some index →
      state.step setting move = some next →
      next.store.race state.outer.race = state.store.race state.outer.race) ∧
    ((raceSystem setting).Reaches Punctual (.start setting.config protocols) state →
      state.isOver = true → ∀ (index : Nat) (racer : Racer), state.racers[index]? = some racer →
      racer.stage ≠ .returned → ∀ line, racer.client.isLive line = false) := by
  have sound : state.Sound False :=
    RaceState.sound_of_reaches (fun _ _ _ => False.elim) reached
  refine ⟨fun index racer found unchosen => ?_, fun index move next acts unchosen stepped => ?_,
    fun punctual ended index racer found unreturned => ?_⟩
  · exact ((sound.fits index racer found).meek unchosen).written
  · exact sound.isolated acts unchosen stepped
  · have neat : state.Sound True :=
      RaceState.sound_of_reaches (fun _ _ allowed _ => allowed) punctual
    have fits := neat.fits index racer found
    have released := fits.released_of_isOver ended unreturned
    exact fits.closed (.inl trivial) (by rw [released]; rfl)

end Races

section Examples

open scoped AsciiText

/-- Both protocols are dialed, and the first to be joined connects. -/
def races : List RaceMove :=
  [.dial 0 true, .dial 1 true, .join 0]

/-- The steps of the first client. -/
def runs (steps : Nat) : List RaceMove :=
  List.replicate steps (.client 0 (.operate granted))

/-- The clean-up closes the connection of the second client. -/
def cleansUp : List RaceMove :=
  [.clean 1, .detach, .disconnect] ++ List.replicate 3 (.client 1 (.operate granted)) ++
    [.release, .cleaned]

/-- The race is won on WebSocket, and the connection on QUIC is closed in the end. -/
theorem race_losers_apart_and_closed_won :
    ∃ state, (raceSystem reading).Reaches System.always
        (.start reading.config [.webSocket, .quic]) state ∧
      state.phase = .returned (some 0) ∧ state.selected = some 0 ∧ state.isOver = true ∧
      ∀ racer, state.racers[1]? = some racer →
        racer.client.written = [] ∧ ∀ line, racer.client.isLive line = false := by
  have run : ((raceSystem reading).run (.start reading.config [.webSocket, .quic])
      (races ++ runs 8 ++ [.finish] ++ cleansUp)).any (fun state =>
        decide (state.phase = .returned (some 0) ∧ state.selected = some 0 ∧
          state.isOver = true ∧ state.racers[1]?.all (fun racer => racer.stage ≠ .returned))) =
        true := by
    decide +kernel
  have permitted : (raceSystem reading).Permits Punctual (.start reading.config [.webSocket, .quic])
      (races ++ runs 8 ++ [.finish] ++ cleansUp) := by
    decide +kernel
  obtain ⟨state, reached, holds⟩ := System.exists_reaches_of_run run permitted
  obtain ⟨returned, selected, ended, second⟩ := of_decide_eq_true holds
  have always := reached.imp fun _ _ _ => trivial
  obtain ⟨unwritten, -, closed⟩ :=
    race_losers_apart_and_closed reading [.webSocket, .quic] always
  refine ⟨state, always, returned, selected, ended, fun racer found => ?_⟩
  have unreturned : racer.stage ≠ .returned := by simpa [found] using second
  exact ⟨unwritten 1 racer found (by rw [selected]; decide),
    closed reached ended 1 racer found unreturned⟩

/-- **The time-out fires once the observer is on the connection that is selected: when the race is
over and cleaned up, this connection is still open.** -/
theorem timeout_leaves_connection_open :
    ∃ state, (raceSystem reading).Reaches System.always
        (.start reading.config [.webSocket, .quic]) state ∧
      state.phase = .returned none ∧ state.isOver = true ∧
      ∃ racer, state.racers[0]? = some racer ∧ racer.stage = .released ∧
        racer.client.isLive 0 = true := by
  have run : ((raceSystem reading).run (.start reading.config [.webSocket, .quic])
      (races ++ runs 5 ++ [.timeout] ++ cleansUp)).any (fun state =>
        decide (state.phase = .returned none ∧ state.isOver = true ∧
          state.racers[0]?.any (fun racer => racer.stage = .released && racer.client.isLive 0))) =
        true := by
    decide +kernel
  obtain ⟨state, reached, holds⟩ :=
    System.exists_reaches_of_run run (System.permits_always _ _)
  obtain ⟨returned, ended, left⟩ := of_decide_eq_true holds
  obtain ⟨racer, found, isLeft⟩ := (Option.any_eq_true _ _).mp left
  obtain ⟨released, live⟩ := Bool.and_eq_true_iff.mp isLeft
  exact ⟨state, reached, returned, ended, racer, found, of_decide_eq_true released, live⟩

end Examples

end FlareCore.Client

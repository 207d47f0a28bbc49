import Mathlib.Logic.Relation

/-!
# Transition systems

A state, and a partial function of the state and a move.  Nondeterminism is in the choice of
the moves, so a concrete run is a list of moves that can be evaluated; `System.Reaches` is the
closure over the steps that a side condition on state and move allows.

`System.Reaches.invariant` is the induction rule used for every property of a run, and
`System.run_matched` the one for what two systems do on the same moves.
-/

namespace FlareCore.Foundations

set_option autoImplicit false

universe u

/-- What a move does, if it is possible. -/
structure System (State Move : Type u) where
  step : State → Move → Option State

namespace System

variable {State Move : Type u}

/-- The state after a list of moves, if each of them is possible. -/
def run (S : System State Move) : State → List Move → Option State
  | state, [] => some state
  | state, move :: moves => (S.step state move).bind fun next => S.run next moves

/-- A side condition holds before each of a list of moves. -/
def Permits (S : System State Move) (allowed : State → Move → Prop) : State → List Move → Prop
  | _, [] => True
  | state, move :: moves =>
      allowed state move ∧ ∀ next ∈ S.step state move, S.Permits allowed next moves

/-- One step that a side condition on the state before it allows. -/
def Allowed (S : System State Move) (allowed : State → Move → Prop) (before after : State) : Prop :=
  ∃ move, allowed before move ∧ S.step before move = some after

/-- Any number of allowed steps. -/
abbrev Reaches (S : System State Move) (allowed : State → Move → Prop) : State → State → Prop :=
  Relation.ReflTransGen (S.Allowed allowed)

/-- The side condition that allows everything. -/
def always : State → Move → Prop :=
  fun _ _ => True

instance decidablePermits (S : System State Move) (allowed : State → Move → Prop)
    [∀ state move, Decidable (allowed state move)] :
    ∀ state moves, Decidable (S.Permits allowed state moves)
  | _, [] => isTrue trivial
  | state, move :: moves =>
      have : DecidablePred fun next => S.Permits allowed next moves :=
        fun next => decidablePermits S allowed next moves
      inferInstanceAs (Decidable (allowed state move ∧ ∀ next ∈ S.step state move,
        S.Permits allowed next moves))

variable {S : System State Move} {allowed : State → Move → Prop}

/-- **Invariant rule**: what holds at the start and is kept by every allowed
step holds in every state reached. -/
theorem Reaches.invariant {I : State → Prop} {start finish : State}
    (reached : S.Reaches allowed start finish) (initially : I start)
    (preserved : ∀ {before after}, S.Allowed allowed before after → I before → I after) :
    I finish := by
  induction reached with
  | refl => exact initially
  | tail _ step inductionHypothesis => exact preserved step inductionHypothesis

/-- A weaker side condition allows more runs. -/
theorem Reaches.imp {weaker : State → Move → Prop} {start finish : State}
    (reached : S.Reaches allowed start finish)
    (implies : ∀ state move, allowed state move → weaker state move) :
    S.Reaches weaker start finish := by
  refine Relation.ReflTransGen.mono ?_ start finish reached
  rintro before after ⟨move, permitted, stepped⟩
  exact ⟨move, implies before move permitted, stepped⟩

/-- A list of moves after another. -/
theorem run_append (start : State) (first second : List Move) :
    S.run start (first ++ second) = (S.run start first).bind fun middle => S.run middle second := by
  induction first generalizing start with
  | nil => rfl
  | cons move first inductionHypothesis =>
      show (S.step start move).bind _ = ((S.step start move).bind _).bind _
      rw [Option.bind_assoc]
      congr 1
      funext next
      exact inductionHypothesis next

theorem permits_append {start : State} {first second : List Move} :
    S.Permits allowed start (first ++ second) ↔
      S.Permits allowed start first ∧
        ∀ middle ∈ S.run start first, S.Permits allowed middle second := by
  induction first generalizing start with
  | nil => simp [Permits, run]
  | cons move first inductionHypothesis =>
      simp only [List.cons_append, Permits, inductionHypothesis, run, Option.mem_def,
        Option.bind_eq_some_iff]
      constructor
      · rintro ⟨now, later⟩
        refine ⟨⟨now, fun next stepped => (later next stepped).1⟩, ?_⟩
        rintro middle ⟨next, stepped, evaluated⟩
        exact (later next stepped).2 middle evaluated
      · rintro ⟨⟨now, later⟩, after⟩
        refine ⟨now, fun next stepped => ⟨later next stepped, fun middle evaluated => ?_⟩⟩
        exact after middle ⟨next, stepped, evaluated⟩

/-- Evaluating a list of permitted moves gives a run. -/
theorem reaches_of_run {moves : List Move} {start finish : State}
    (evaluated : S.run start moves = some finish) (permitted : S.Permits allowed start moves) :
    S.Reaches allowed start finish := by
  induction moves generalizing start with
  | nil =>
      obtain rfl := Option.some.inj evaluated
      exact .refl
  | cons move moves inductionHypothesis =>
      obtain ⟨next, stepped, rest⟩ := Option.bind_eq_some_iff.mp evaluated
      exact .head ⟨move, permitted.1, stepped⟩ (inductionHypothesis rest (permitted.2 next stepped))

/-- Evaluating permitted moves to a state that passes a test gives a run to such a state. -/
theorem exists_reaches_of_run {moves : List Move} {start : State} {test : State → Bool}
    (passed : (S.run start moves).any test = true) (permitted : S.Permits allowed start moves) :
    ∃ finish, S.Reaches allowed start finish ∧ test finish = true := by
  obtain ⟨finish, evaluated, result⟩ := (Option.any_eq_true test _).mp passed
  exact ⟨finish, reaches_of_run evaluated permitted, result⟩

/-- **Simulation rule**: if every allowed step of a system is matched by the same move of
another, then so is every run of allowed steps. -/
theorem run_matched {Other : Type u} {T : System Other Move} {R : State → Other → Prop}
    (matched : ∀ {before after other move}, R before other → allowed before move →
      S.step before move = some after → ∃ next, T.step other move = some next ∧ R after next)
    {moves : List Move} {start finish : State} {other : Other} (related : R start other)
    (permitted : S.Permits allowed start moves) (evaluated : S.run start moves = some finish) :
    ∃ final, T.run other moves = some final ∧ R finish final := by
  induction moves generalizing start other with
  | nil =>
      obtain rfl := Option.some.inj evaluated
      exact ⟨other, rfl, related⟩
  | cons move moves inductionHypothesis =>
      obtain ⟨next, stepped, rest⟩ := Option.bind_eq_some_iff.mp evaluated
      obtain ⟨reply, replied, stillRelated⟩ := matched related permitted.1 stepped
      obtain ⟨final, finished, atLast⟩ :=
        inductionHypothesis stillRelated (permitted.2 next stepped) rest
      refine ⟨final, ?_, atLast⟩
      rw [run, replied, Option.bind_some, finished]

/-! ## History variables -/

/-- The system together with a history that is updated at every step and never looked at. -/
def recording {History : Type u} (S : System State Move)
    (record : State → Move → State → History → History) : System (State × History) Move where
  step state move :=
    (S.step state.1 move).map fun next => (next, record state.1 move next state.2)

section Recording

variable {History : Type u} {record : State → Move → State → History → History}

theorem recording_step_eq_some {state next : State × History} {move : Move}
    (stepped : (S.recording record).step state move = some next) :
    S.step state.1 move = some next.1 ∧ next.2 = record state.1 move next.1 state.2 := by
  obtain ⟨after, taken, rfl⟩ := Option.map_eq_some_iff.mp stepped
  exact ⟨taken, rfl⟩

/-- Every run has a history. -/
theorem Reaches.recorded {start finish : State} (reached : S.Reaches allowed start finish)
    (history : History) :
    ∃ later, (S.recording record).Reaches (fun state move => allowed state.1 move)
      (start, history) (finish, later) := by
  induction reached with
  | refl => exact ⟨history, .refl⟩
  | @tail before after _ step inductionHypothesis =>
      obtain ⟨later, earlier⟩ := inductionHypothesis
      obtain ⟨move, permitted, stepped⟩ := step
      refine ⟨record before move after later, earlier.tail ⟨move, permitted, ?_⟩⟩
      exact Option.map_eq_some_iff.mpr ⟨after, stepped, rfl⟩

end Recording

theorem permits_always (state : State) (moves : List Move) : S.Permits always state moves := by
  induction moves generalizing state with
  | nil => trivial
  | cons move moves inductionHypothesis =>
      exact ⟨trivial, fun next _ => inductionHypothesis next⟩

end System

end FlareCore.Foundations

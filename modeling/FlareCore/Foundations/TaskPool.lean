import FlareCore.Foundations.Transition

/-!
# Concurrent calls over a shared memory

Calls in progress are tasks.  A task owns its private state (where it stands and
what it has computed so far), all tasks share one memory, and a step lets *any*
task perform its next atomic action: no schedule is imposed.  A task may be
unable to move because of what the others hold, which is how a lock is modelled:
`advance` is given the list of the other tasks and refuses.

A machine is a transition system whose moves are calls, steps of a task and changes of
the memory; `step_preserves` splits the step case of the invariant rule by these.
Quantities that are distributed over the calls in progress (a slot that one of them has
reserved, an edit that one of them still owes) are measured by `total`.
-/

namespace FlareCore.Foundations

set_option autoImplicit false

universe u

/-- What calls do: how a call starts, what its next atomic action is, and how
the memory changes on its own. -/
structure Machine (Memory Call Task Choice Event : Type u) where
  /-- The task of a call; calls are numbered in the order they are made. -/
  start : Nat → Call → Task
  /-- The next action of a task among the other tasks, if it is able to move. -/
  advance : Memory → List Task → Task → Choice → Option (Memory × Task)
  environment : Memory → Event → Memory

/-- The shared memory and the calls made so far, finished ones included. -/
structure Pool (Memory Task : Type u) where
  memory : Memory
  tasks : List Task

/-- What the scheduler may do next. -/
inductive Move (Call Choice Event : Type u) where
  | call (call : Call)
  | advance (index : Nat) (choice : Choice)
  | environment (event : Event)
  deriving DecidableEq, Repr

namespace Machine

variable {Memory Call Task Choice Event : Type u}

/-- One step of the pool. -/
def step (M : Machine Memory Call Task Choice Event) (pool : Pool Memory Task) :
    Move Call Choice Event → Option (Pool Memory Task)
  | .call call =>
      some { pool with tasks := pool.tasks ++ [M.start pool.tasks.length call] }
  | .advance index choice =>
      match pool.tasks[index]? with
      | none => none
      | some task =>
          match M.advance pool.memory (pool.tasks.eraseIdx index) task choice with
          | none => none
          | some (memory, task') => some ⟨memory, pool.tasks.set index task'⟩
  | .environment event =>
      some { pool with memory := M.environment pool.memory event }

/-- The machine as a transition system. -/
def system (M : Machine Memory Call Task Choice Event) :
    System (Pool Memory Task) (Move Call Choice Event) :=
  ⟨M.step⟩

/-- The pool after a list of moves, if each of them is possible. -/
abbrev run (M : Machine Memory Call Task Choice Event) :
    Pool Memory Task → List (Move Call Choice Event) → Option (Pool Memory Task) :=
  M.system.run

/-- A side condition holds before each of a list of moves. -/
abbrev Permits (M : Machine Memory Call Task Choice Event)
    (allowed : Pool Memory Task → Move Call Choice Event → Prop) :
    Pool Memory Task → List (Move Call Choice Event) → Prop :=
  M.system.Permits allowed

/-- One step that a side condition on the pool before it allows. -/
abbrev Allowed (M : Machine Memory Call Task Choice Event)
    (allowed : Pool Memory Task → Move Call Choice Event → Prop) :
    Pool Memory Task → Pool Memory Task → Prop :=
  M.system.Allowed allowed

/-- Any number of allowed steps. -/
abbrev Reaches (M : Machine Memory Call Task Choice Event)
    (allowed : Pool Memory Task → Move Call Choice Event → Prop) :
    Pool Memory Task → Pool Memory Task → Prop :=
  M.system.Reaches allowed

variable {M : Machine Memory Call Task Choice Event}
  {allowed : Pool Memory Task → Move Call Choice Event → Prop}

/-! ## What a step can do -/

/-- The three kinds of step, with the moving task split off from the others. -/
theorem step_cases {before after : Pool Memory Task} {move : Move Call Choice Event}
    (step : M.step before move = some after) :
    (∃ call, move = .call call ∧
      after = ⟨before.memory, before.tasks ++ [M.start before.tasks.length call]⟩) ∨
    (∃ choice earlier task later memory' task',
      move = .advance earlier.length choice ∧
      before.tasks = earlier ++ task :: later ∧
      M.advance before.memory (earlier ++ later) task choice = some (memory', task') ∧
      after = ⟨memory', earlier ++ task' :: later⟩) ∨
    (∃ event, move = .environment event ∧
      after = ⟨M.environment before.memory event, before.tasks⟩) := by
  cases move with
  | call call =>
      exact Or.inl ⟨call, rfl, (Option.some.inj step).symm⟩
  | environment event =>
      exact Or.inr (Or.inr ⟨event, rfl, (Option.some.inj step).symm⟩)
  | advance index choice =>
      refine Or.inr (Or.inl ?_)
      simp only [Machine.step] at step
      cases found : before.tasks[index]? with
      | none => simp [found] at step
      | some task =>
          obtain ⟨inRange, rfl⟩ := List.getElem?_eq_some_iff.mp found
          have split : before.tasks =
              before.tasks.take index ++ before.tasks[index] :: before.tasks.drop (index + 1) := by
            rw [← List.drop_eq_getElem_cons inRange, List.take_append_drop]
          have others : before.tasks.eraseIdx index =
              before.tasks.take index ++ before.tasks.drop (index + 1) :=
            List.eraseIdx_eq_take_drop_succ ..
          cases moved : M.advance before.memory (before.tasks.eraseIdx index)
              before.tasks[index] choice with
          | none => simp [found, moved] at step
          | some result =>
              simp only [found, moved, Option.some.injEq] at step
              refine ⟨choice, before.tasks.take index, before.tasks[index],
                before.tasks.drop (index + 1), result.1, result.2, ?_, split, ?_, ?_⟩
              · rw [List.length_take, Nat.min_eq_left (Nat.le_of_lt inRange)]
              · rw [← others, moved]
              · rw [← step, List.set_eq_take_append_cons_drop, if_pos inRange]

/-- Preservation by every step, split by the kind of step, where `J` is known already. -/
theorem step_preserves_given {J I : Pool Memory Task → Prop}
    (call : ∀ memory tasks call, allowed ⟨memory, tasks⟩ (.call call) → J ⟨memory, tasks⟩ →
      I ⟨memory, tasks⟩ → I ⟨memory, tasks ++ [M.start tasks.length call]⟩)
    (advance : ∀ memory earlier task later choice memory' task',
      allowed ⟨memory, earlier ++ task :: later⟩ (.advance earlier.length choice) →
      J ⟨memory, earlier ++ task :: later⟩ → I ⟨memory, earlier ++ task :: later⟩ →
      M.advance memory (earlier ++ later) task choice = some (memory', task') →
      I ⟨memory', earlier ++ task' :: later⟩)
    (environment : ∀ memory tasks event, allowed ⟨memory, tasks⟩ (.environment event) →
      J ⟨memory, tasks⟩ → I ⟨memory, tasks⟩ → I ⟨M.environment memory event, tasks⟩)
    {before after : Pool Memory Task} (step : M.Allowed allowed before after)
    (known : J before) (holds : I before) : I after := by
  obtain ⟨move, permitted, moved⟩ := step
  obtain ⟨memory, tasks⟩ := before
  rcases step_cases moved with ⟨made, rfl, rfl⟩ |
    ⟨choice, earlier, task, later, memory', task', rfl, rfl, advanced, rfl⟩ | ⟨event, rfl, rfl⟩
  · exact call memory tasks made permitted known holds
  · exact advance memory earlier task later choice memory' task' permitted known holds advanced
  · exact environment memory tasks event permitted known holds

/-- Preservation by every step, split by the kind of step. -/
theorem step_preserves {I : Pool Memory Task → Prop}
    (call : ∀ memory tasks call, allowed ⟨memory, tasks⟩ (.call call) → I ⟨memory, tasks⟩ →
      I ⟨memory, tasks ++ [M.start tasks.length call]⟩)
    (advance : ∀ memory earlier task later choice memory' task',
      allowed ⟨memory, earlier ++ task :: later⟩ (.advance earlier.length choice) →
      I ⟨memory, earlier ++ task :: later⟩ →
      M.advance memory (earlier ++ later) task choice = some (memory', task') →
      I ⟨memory', earlier ++ task' :: later⟩)
    (environment : ∀ memory tasks event, allowed ⟨memory, tasks⟩ (.environment event) →
      I ⟨memory, tasks⟩ → I ⟨M.environment memory event, tasks⟩)
    {before after : Pool Memory Task} (step : M.Allowed allowed before after)
    (holds : I before) : I after := by
  refine step_preserves_given (J := fun _ => True) ?_ ?_ ?_ step trivial holds
  · intro memory tasks made permitted _ holds
    exact call memory tasks made permitted holds
  · intro memory earlier task later choice memory' task' permitted _ holds advanced
    exact advance memory earlier task later choice memory' task' permitted holds advanced
  · intro memory tasks event permitted _ holds
    exact environment memory tasks event permitted holds

end Machine

/-! ## Quantities distributed over the tasks -/

section Total

variable {Task : Type u}

/-- The sum of a weight over the tasks. -/
def total (weight : Task → Nat) : List Task → Nat
  | [] => 0
  | task :: tasks => weight task + total weight tasks

@[simp]
theorem total_nil (weight : Task → Nat) : total weight [] = 0 := rfl

theorem total_append (weight : Task → Nat) (first second : List Task) :
    total weight (first ++ second) = total weight first + total weight second := by
  induction first with
  | nil => rw [List.nil_append, total_nil, Nat.zero_add]
  | cons task first inductionHypothesis =>
      rw [List.cons_append, total, total, inductionHypothesis, Nat.add_assoc]

@[simp]
theorem total_append_singleton (weight : Task → Nat) (tasks : List Task) (task : Task) :
    total weight (tasks ++ [task]) = total weight tasks + weight task := by
  rw [total_append, total, total_nil, Nat.add_zero]

/-- One task's share of a total, and the share of the others. -/
@[simp]
theorem total_append_cons (weight : Task → Nat) (earlier later : List Task) (task : Task) :
    total weight (earlier ++ task :: later) = weight task + total weight (earlier ++ later) := by
  rw [total_append, total_append, total]
  omega

theorem total_add (first second : Task → Nat) (tasks : List Task) :
    total (fun task => first task + second task) tasks =
      total first tasks + total second tasks := by
  induction tasks with
  | nil => rfl
  | cons task tasks inductionHypothesis =>
      rw [total, total, total, inductionHypothesis]
      omega

/-- One task's share of a total, by its position. -/
theorem total_eraseIdx (weight : Task → Nat) {tasks : List Task} {index : Nat} {task : Task}
    (found : tasks[index]? = some task) :
    total weight tasks = weight task + total weight (tasks.eraseIdx index) := by
  obtain ⟨inRange, rfl⟩ := List.getElem?_eq_some_iff.mp found
  rw [List.eraseIdx_eq_take_drop_succ, ← total_append_cons, ← List.drop_eq_getElem_cons inRange,
    List.take_append_drop]

theorem total_eq_zero {weight : Task → Nat} {tasks : List Task} :
    total weight tasks = 0 ↔ ∀ task ∈ tasks, weight task = 0 := by
  induction tasks with
  | nil => simp
  | cons task tasks inductionHypothesis =>
      rw [total, Nat.add_eq_zero_iff, List.forall_mem_cons, inductionHypothesis]

theorem weight_le_total {weight : Task → Nat} {tasks : List Task} {task : Task}
    (member : task ∈ tasks) : weight task ≤ total weight tasks := by
  obtain ⟨earlier, later, rfl⟩ := List.append_of_mem member
  rw [total_append_cons]
  exact Nat.le_add_right _ _

theorem total_le_total {first second : Task → Nat} (bounded : ∀ task, first task ≤ second task)
    (tasks : List Task) : total first tasks ≤ total second tasks := by
  induction tasks with
  | nil => exact Nat.le_refl 0
  | cons task tasks inductionHypothesis =>
      rw [total, total]
      exact Nat.add_le_add (bounded task) inductionHypothesis

@[simp]
theorem getElem?_append_cons_self (earlier later : List Task) (task : Task) :
    (earlier ++ task :: later)[earlier.length]? = some task := by
  rw [List.getElem?_append_right (Nat.le_refl _), Nat.sub_self]
  rfl

/-- A step of one task leaves the others where they are. -/
theorem getElem?_append_cons_of_ne {earlier later : List Task} {index : Nat} (task task' : Task)
    (distinct : index ≠ earlier.length) :
    (earlier ++ task' :: later)[index]? = (earlier ++ task :: later)[index]? := by
  rcases Nat.lt_or_ge index earlier.length with before | after
  · rw [List.getElem?_append_left before, List.getElem?_append_left before]
  · rw [List.getElem?_append_right after, List.getElem?_append_right after]
    obtain ⟨offset, shifted⟩ : ∃ offset, index - earlier.length = offset + 1 :=
      ⟨index - earlier.length - 1, by omega⟩
    rw [shifted]
    rfl

theorem mem_append_cons {earlier later : List Task} {task other : Task} :
    other ∈ earlier ++ task :: later ↔ other = task ∨ other ∈ earlier ++ later := by
  rw [List.mem_append, List.mem_append, List.mem_cons]
  exact or_left_comm

end Total

end FlareCore.Foundations

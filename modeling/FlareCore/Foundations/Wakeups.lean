import FlareCore.Foundations.Transition

/-!
# Waiting for a condition

A waiter asks to be woken, looks whether the condition holds and goes to sleep if it does not.
Tasks change the memory that the condition is about and wake the waiters in separate steps; a call
of `notify_waiters` wakes everybody who asked before it.  The condition may consist of several
checks that are made one after another, with steps of the others in between.

If every step that makes a check true is followed by a notification of the same task
(`Signal.Announces`), then nobody sleeps through the condition: in every state that can be reached,
a waiter that is asleep while the condition holds has a task that is about to wake it
(`Signal.Announces.not_overslept`).
-/

namespace FlareCore.Foundations

set_option autoImplicit false

universe u

/-- What the waiters look at, one check after another, and what the tasks do. -/
structure Signal (Memory Call Task Event : Type u) where
  checks : List (Memory → Bool)
  /-- The waiters make their checks once before they ask to be woken. -/
  looksFirst : Bool
  start : Call → Task
  /-- The next action of a task is to wake the waiters, and this is where it goes on. -/
  notifies : Task → Option Task
  /-- The next action of a task that does not wake anybody. -/
  advance : Memory → Task → Option (Memory × Task)
  environment : Memory → Event → Memory

/-- Where a waiter stands; `calls` is the number of notifications so far when it asked to be
woken. -/
inductive Waiter where
  | looking (position : Nat)
  | registering
  | checking (calls position : Nat)
  | parked (calls : Nat)
  | returned (position : Nat)
  | timedOut
  deriving DecidableEq, Repr

/-- The wait is over. -/
def Waiter.isDone : Waiter → Bool
  | returned _ | timedOut => true
  | looking _ | registering | checking _ _ | parked _ => false

/-- The memory, the number of calls of `notify_waiters`, the tasks and the waiters. -/
structure Signalled (Memory Task : Type u) where
  memory : Memory
  calls : Nat
  tasks : List Task
  waiters : List Waiter

/-- Nobody waits and nothing has happened. -/
def Signalled.initial {Memory Task : Type u} (memory : Memory) : Signalled Memory Task :=
  ⟨memory, 0, [], []⟩

inductive SignalMove (Call Event : Type u) where
  | call (call : Call)
  | advance (index : Nat)
  | wait
  | waiter (index : Nat)
  | timeOut (index : Nat)
  | environment (event : Event)
  deriving DecidableEq, Repr

namespace Signal

variable {Memory Call Task Event : Type u} (S : Signal Memory Call Task Event)

/-- Whether a check fails, holds or is past the last one. -/
def look (memory : Memory) (position : Nat) : Option Bool :=
  S.checks[position]?.map (· memory)

/-- The next step of a waiter, if it is awake. -/
def waiterStep (memory : Memory) (calls : Nat) : Waiter → Option Waiter
  | .looking position =>
      some (match S.look memory position with
        | none => .registering
        | some true => .returned position
        | some false => .looking (position + 1))
  | .registering => some (.checking calls 0)
  | .checking asked position =>
      some (match S.look memory position with
        | none => .parked asked
        | some true => .returned position
        | some false => .checking asked (position + 1))
  | .parked asked => if asked < calls then some .registering else none
  | .returned _ | .timedOut => none

/-- One step. -/
def step (pool : Signalled Memory Task) :
    SignalMove Call Event → Option (Signalled Memory Task)
  | .call call => some { pool with tasks := pool.tasks ++ [S.start call] }
  | .advance index =>
      match pool.tasks[index]? with
      | none => none
      | some task =>
          match S.notifies task with
          | some next =>
              some { pool with calls := pool.calls + 1, tasks := pool.tasks.set index next }
          | none =>
              (S.advance pool.memory task).map fun next =>
                { pool with memory := next.1, tasks := pool.tasks.set index next.2 }
  | .wait =>
      some { pool with
        waiters := pool.waiters ++ [if S.looksFirst then .looking 0 else .registering] }
  | .waiter index =>
      match pool.waiters[index]? with
      | none => none
      | some waiter =>
          (S.waiterStep pool.memory pool.calls waiter).map fun next =>
            { pool with waiters := pool.waiters.set index next }
  | .timeOut index =>
      if pool.waiters[index]?.all Waiter.isDone then none
      else some { pool with waiters := pool.waiters.set index .timedOut }
  | .environment event => some { pool with memory := S.environment pool.memory event }

/-- The tasks and the waiters as a transition system. -/
def system : System (Signalled Memory Task) (SignalMove Call Event) :=
  ⟨S.step⟩

/-- The condition holds. -/
def Holds (memory : Memory) : Prop :=
  ∃ check ∈ S.checks, check memory = true

/-- Some task is about to wake the waiters. -/
def Due (tasks : List Task) : Prop :=
  ∃ task ∈ tasks, (S.notifies task).isSome = true

/-- A waiter sleeps, no notification has come since it asked for one, the condition holds, and
nobody is about to wake it. -/
def Overslept (pool : Signalled Memory Task) : Prop :=
  ∃ calls, .parked calls ∈ pool.waiters ∧ ¬ calls < pool.calls ∧ S.Holds pool.memory ∧
    ¬ S.Due pool.tasks

/-- Whoever makes a check true wakes the waiters next. -/
structure Announces : Prop where
  advance : ∀ {memory memory' : Memory} {task task' : Task}, S.notifies task = none →
    S.advance memory task = some (memory', task') → ∀ check ∈ S.checks, check memory = false →
      check memory' = true → (S.notifies task').isSome = true
  environment : ∀ (memory : Memory) (event : Event), ∀ check ∈ S.checks, check memory = false →
    check (S.environment memory event) = false

/-! ## The invariant -/

/-- A check that a waiter has found false holds only if the waiter has been woken since it asked, or
is about to be. -/
def Attends (pool : Signalled Memory Task) (asked position : Nat) : Prop :=
  asked ≤ pool.calls ∧ ∀ check ∈ S.checks.take position, check pool.memory = true →
    asked < pool.calls ∨ S.Due pool.tasks

/-- What is known of a waiter at each of its stages. -/
def Attended (pool : Signalled Memory Task) : Waiter → Prop
  | .checking asked position => S.Attends pool asked position
  | .parked asked => S.Attends pool asked S.checks.length
  | .looking _ | .registering | .returned _ | .timedOut => True

/-- Nobody is overlooked. -/
def Watches (pool : Signalled Memory Task) : Prop :=
  ∀ waiter ∈ pool.waiters, S.Attended pool waiter

variable {S} {pool : Signalled Memory Task}

theorem Watches.not_overslept (watches : S.Watches pool) : ¬ S.Overslept pool := by
  rintro ⟨asked, among, asleep, ⟨check, checkAmong, holds⟩, undue⟩
  obtain ⟨-, attends⟩ := watches (.parked asked) among
  rw [List.take_length] at attends
  rcases attends check checkAmong holds with woken | due
  · exact asleep woken
  · exact undue due

/-- A change that keeps what is known of checks that were found false. -/
theorem Watches.of_attends {after : Signalled Memory Task} (watches : S.Watches pool)
    (waiters : after.waiters = pool.waiters)
    (attends : ∀ asked position, S.Attends pool asked position → S.Attends after asked position) :
    S.Watches after := by
  intro waiter among
  rw [waiters] at among
  have known := watches waiter among
  cases waiter with
  | checking asked position => exact attends asked position known
  | parked asked => exact attends asked S.checks.length known
  | looking _ | registering | returned _ | timedOut => trivial

/-- A task that is about to wake the waiters is still there when another one moves. -/
theorem Due.set {tasks : List Task} {index : Nat} {task next : Task}
    (due : S.Due tasks) (found : tasks[index]? = some task) (silent : S.notifies task = none) :
    S.Due (tasks.set index next) := by
  obtain ⟨other, among, notifies⟩ := due
  obtain ⟨position, foundOther⟩ := List.mem_iff_getElem?.mp among
  refine ⟨other, List.mem_iff_getElem?.mpr ⟨position, ?_⟩, notifies⟩
  rw [List.getElem?_set_ne, foundOther]
  rintro rfl
  obtain rfl := Option.some.inj (found.symm.trans foundOther)
  simp [silent] at notifies

/-- A task makes a step that wakes nobody. -/
theorem Announces.advance_watches (announces : S.Announces) (watches : S.Watches pool)
    {index : Nat} {task task' : Task} {memory' : Memory} (found : pool.tasks[index]? = some task)
    (silent : S.notifies task = none) (moved : S.advance pool.memory task = some (memory', task')) :
    S.Watches { pool with memory := memory', tasks := pool.tasks.set index task' } := by
  refine watches.of_attends rfl ?_
  rintro asked position ⟨bound, attends⟩
  refine ⟨bound, ?_⟩
  intro check among holds
  cases before : check pool.memory with
  | true =>
      refine (attends check among before).imp_right ?_
      intro due
      exact due.set found silent
  | false =>
      have next := announces.advance silent moved check (List.mem_of_mem_take among) before holds
      have inRange := (List.getElem?_eq_some_iff.mp found).1
      exact Or.inr ⟨task', List.mem_set inRange task', next⟩

/-- A notification wakes everybody. -/
theorem Watches.notify (watches : S.Watches pool) (tasks : List Task) :
    S.Watches { pool with calls := pool.calls + 1, tasks := tasks } := by
  refine watches.of_attends rfl ?_
  rintro asked position ⟨bound, -⟩
  exact ⟨Nat.le_succ_of_le bound, fun _ _ _ => Or.inl (Nat.lt_succ_of_le bound)⟩

/-- A waiter makes a step. -/
theorem Watches.waiterStep (watches : S.Watches pool) {waiter next : Waiter}
    (among : waiter ∈ pool.waiters)
    (moved : S.waiterStep pool.memory pool.calls waiter = some next) : S.Attended pool next := by
  have known := watches waiter among
  cases waiter with
  | looking position =>
      obtain rfl := Option.some.inj moved
      cases S.look pool.memory position with
      | none => trivial
      | some holds => cases holds <;> trivial
  | registering =>
      obtain rfl := Option.some.inj moved
      refine ⟨Nat.le_refl _, ?_⟩
      intro check none
      simp at none
  | checking asked position =>
      obtain rfl := Option.some.inj moved
      obtain ⟨bound, attends⟩ := known
      cases looked : S.look pool.memory position with
      | none =>
          have past : S.checks.length ≤ position := by
            simpa [look] using looked
          rw [List.take_of_length_le past] at attends
          refine ⟨bound, ?_⟩
          rwa [List.take_length]
      | some holds =>
          cases holds with
          | true => trivial
          | false =>
              obtain ⟨failed, foundFailed, fails⟩ := Option.map_eq_some_iff.mp looked
              refine ⟨bound, ?_⟩
              intro check checkAmong checkHolds
              rw [List.take_add_one, foundFailed] at checkAmong
              rcases List.mem_append.mp checkAmong with earlier | last
              · exact attends check earlier checkHolds
              · obtain rfl := List.mem_singleton.mp last
                exact absurd (checkHolds.symm.trans fails) Bool.noConfusion
  | parked asked =>
      simp only [Signal.waiterStep, Option.ite_none_right_eq_some] at moved
      obtain rfl := Option.some.inj moved.2
      trivial
  | returned _ | timedOut => exact absurd moved (by simp [Signal.waiterStep])

/-- One waiter is where the invariant allows it to be. -/
theorem Watches.set (watches : S.Watches pool) {waiters : List Waiter}
    (others : ∀ waiter ∈ waiters, waiter ∈ pool.waiters ∨ S.Attended pool waiter) :
    S.Watches { pool with waiters := waiters } := by
  intro waiter among
  have known : S.Attended pool waiter := (others waiter among).elim (watches waiter) id
  cases waiter with
  | checking _ _ | parked _ => exact known
  | looking _ | registering | returned _ | timedOut => trivial

theorem Announces.step_watches (announces : S.Announces) {after : Signalled Memory Task}
    {move : SignalMove Call Event} (stepped : S.step pool move = some after)
    (watches : S.Watches pool) : S.Watches after := by
  cases move with
  | call call =>
      obtain rfl := Option.some.inj stepped
      refine watches.of_attends rfl ?_
      rintro asked position ⟨bound, attends⟩
      refine ⟨bound, ?_⟩
      intro check among holds
      refine (attends check among holds).imp_right ?_
      rintro ⟨task, taskAmong, notifies⟩
      exact ⟨task, List.mem_append_left _ taskAmong, notifies⟩
  | advance index =>
      simp only [step] at stepped
      cases found : pool.tasks[index]? with
      | none => simp [found] at stepped
      | some task =>
          cases notifies : S.notifies task with
          | some next =>
              simp only [found, notifies] at stepped
              obtain rfl := Option.some.inj stepped
              exact watches.notify _
          | none =>
              simp only [found, notifies] at stepped
              obtain ⟨⟨memory', task'⟩, moved, rfl⟩ := Option.map_eq_some_iff.mp stepped
              exact announces.advance_watches watches found notifies moved
  | wait =>
      obtain rfl := Option.some.inj stepped
      apply watches.set
      intro waiter among
      refine (List.mem_append.mp among).imp_right ?_
      intro last
      rw [List.mem_singleton.mp last]
      cases S.looksFirst <;> trivial
  | waiter index =>
      simp only [step] at stepped
      cases found : pool.waiters[index]? with
      | none => simp [found] at stepped
      | some waiter =>
          simp only [found] at stepped
          obtain ⟨next, moved, rfl⟩ := Option.map_eq_some_iff.mp stepped
          apply watches.set
          intro other among
          refine (List.mem_or_eq_of_mem_set among).imp_right ?_
          rintro rfl
          exact watches.waiterStep (List.mem_of_getElem? found) moved
  | timeOut index =>
      simp only [step, Option.ite_none_left_eq_some] at stepped
      obtain rfl := Option.some.inj stepped.2
      apply watches.set
      intro other among
      refine (List.mem_or_eq_of_mem_set among).imp_right ?_
      rintro rfl
      trivial
  | environment event =>
      obtain rfl := Option.some.inj stepped
      refine watches.of_attends rfl ?_
      rintro asked position ⟨bound, attends⟩
      refine ⟨bound, ?_⟩
      intro check among holds
      cases before : check pool.memory with
      | true => exact attends check among before
      | false =>
          have still := announces.environment pool.memory event check
            (List.mem_of_mem_take among) before
          exact absurd (holds.symm.trans still) Bool.noConfusion

/-- **No wake-up is lost**: nobody oversleeps in any run. -/
theorem Announces.not_overslept (announces : S.Announces) {memory : Memory}
    (reached : S.system.Reaches System.always (.initial memory) pool) : ¬ S.Overslept pool := by
  apply Watches.not_overslept
  apply reached.invariant
  · intro waiter among
    exact absurd among List.not_mem_nil
  · rintro before after ⟨move, -, stepped⟩ watches
    exact announces.step_watches stepped watches

end Signal

end FlareCore.Foundations

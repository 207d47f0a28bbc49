import Mathlib.Data.List.Basic
import Mathlib.Tactic.ByContra

/-!
# Logs in the order of their tasks

Tasks are numbered in the order in which they are created, belong to groups, and write entries
to a common log.  If a task writes only when no earlier task of its group may still write, and a
task that has written does not write again, then the entries of each group are in the order of
the tasks: `OrderedLog` is the invariant, `OrderedLog.evolve` the step that writes nothing, and
`OrderedLog.write` the step that writes.
-/

namespace FlareCore.Foundations

set_option autoImplicit false

universe u v

variable {Task : Type u} {Group : Type v} {group : Task → Option Group} {may : Task → Bool}

/-- Tasks are added at the end, and the ones that are there keep their group; a task that may
write later may write now. -/
structure Evolves (group : Task → Option Group) (may : Task → Bool) (before after : List Task) :
    Prop where
  length_le : before.length ≤ after.length
  earlier : ∀ {number : Nat} {task : Task} {key : Group}, number < before.length →
    after[number]? = some task → group task = some key →
    ∃ old, before[number]? = some old ∧ group old = some key ∧ (may task = true → may old = true)

namespace Evolves

variable {first second third : List Task}

theorem refl (tasks : List Task) : Evolves group may tasks tasks where
  length_le := Nat.le_refl _
  earlier _ found grouped := ⟨_, found, grouped, id⟩

theorem trans (left : Evolves group may first second) (right : Evolves group may second third) :
    Evolves group may first third where
  length_le := Nat.le_trans left.length_le right.length_le
  earlier old found grouped := by
    obtain ⟨middle, isMiddle, groupedMiddle, mayMiddle⟩ :=
      right.earlier (Nat.lt_of_lt_of_le old left.length_le) found grouped
    obtain ⟨oldest, isOldest, groupedOldest, mayOldest⟩ :=
      left.earlier old isMiddle groupedMiddle
    exact ⟨oldest, isOldest, groupedOldest, mayOldest ∘ mayMiddle⟩

theorem append (tasks new : List Task) : Evolves group may tasks (tasks ++ new) where
  length_le := by simp
  earlier old found grouped := by
    rw [List.getElem?_append_left old] at found
    exact ⟨_, found, grouped, id⟩

theorem set {tasks : List Task} {number : Nat} {old new : Task} (isOld : tasks[number]? = some old)
    (grouped : group new = group old) (weaker : may new = true → may old = true) :
    Evolves group may tasks (tasks.set number new) where
  length_le := by simp
  earlier {other} {task} {key} _ found inGroup := by
    by_cases same : number = other
    · subst same
      rw [List.getElem?_set_self (List.getElem?_eq_some_iff.mp isOld).1] at found
      obtain rfl := Option.some.inj found
      exact ⟨old, isOld, grouped ▸ inGroup, weaker⟩
    · rw [List.getElem?_set_ne same] at found
      exact ⟨task, found, inGroup, id⟩

end Evolves

variable [DecidableEq Group]

/-- The numbers of the tasks of a group that have written, in the order of writing. -/
def entriesOf (log : List (Group × Nat)) (key : Group) : List Nat :=
  (log.filter fun entry => entry.1 = key).map Prod.snd

/-- The log is in order, and where a task has written, no task up to it may still write. -/
structure OrderedLog (group : Task → Option Group) (may : Task → Bool) (tasks : List Task)
    (log : List (Group × Nat)) : Prop where
  increasing : ∀ key, (entriesOf log key).Pairwise (· < ·)
  known : ∀ entry ∈ log, entry.2 < tasks.length
  settled : ∀ entry ∈ log, ∀ number ≤ entry.2, ∀ task, tasks[number]? = some task →
    group task = some entry.1 → may task = false

namespace OrderedLog

variable {tasks later : List Task} {log : List (Group × Nat)}

theorem nil (tasks : List Task) : OrderedLog group may tasks [] where
  increasing _ := .nil
  known _ member := absurd member List.not_mem_nil
  settled _ member := absurd member List.not_mem_nil

/-- A step that writes nothing. -/
theorem evolve (ordered : OrderedLog group may tasks log)
    (evolves : Evolves group may tasks later) : OrderedLog group may later log where
  increasing := ordered.increasing
  known entry member := Nat.lt_of_lt_of_le (ordered.known entry member) evolves.length_le
  settled entry member number upTo task found grouped := by
    obtain ⟨old, isOld, oldGrouped, mayOld⟩ :=
      evolves.earlier (Nat.lt_of_le_of_lt upTo (ordered.known entry member)) found grouped
    have settled := ordered.settled entry member number upTo old isOld oldGrouped
    rw [← Bool.not_eq_true] at settled ⊢
    exact settled ∘ mayOld

/-- A step in which a task writes, and no earlier task of its group may still write. -/
theorem write (ordered : OrderedLog group may tasks log) (evolves : Evolves group may tasks later)
    {key : Group} {number : Nat} {old new : Task} (isOld : tasks[number]? = some old)
    (grouped : group old = some key) (mayOld : may old = true)
    (isNew : later[number]? = some new) (done : may new = false)
    (first : ∀ earlier < number, ∀ task, tasks[earlier]? = some task → group task = some key →
      may task = false) :
    OrderedLog group may later (log ++ [(key, number)]) where
  increasing other := by
    -- a group whose last entry were as late as the new one would have settled its task
    have after : ∀ entry ∈ log, entry.1 = key → entry.2 < number := by
      intro entry member same
      by_contra late
      have settled := ordered.settled entry member number (Nat.not_lt.mp late) old isOld
        (grouped.trans (congrArg some same.symm))
      rw [settled] at mayOld
      exact Bool.noConfusion mayOld
    unfold entriesOf
    rw [List.filter_append, List.map_append, List.pairwise_append]
    refine ⟨ordered.increasing other, ?_, ?_⟩
    · by_cases same : key = other <;> simp [same]
    · intro earlier member current isCurrent
      obtain ⟨entry, inFilter, rfl⟩ := List.mem_map.mp member
      obtain ⟨inLog, inGroup⟩ := List.mem_filter.mp inFilter
      obtain ⟨written, inLast, rfl⟩ := List.mem_map.mp isCurrent
      obtain ⟨isLast, sameGroup⟩ := List.mem_filter.mp inLast
      obtain rfl := List.mem_singleton.mp isLast
      exact after entry inLog ((of_decide_eq_true inGroup).trans (of_decide_eq_true sameGroup).symm)
  known entry member := by
    obtain inLog | isLast := List.mem_append.mp member
    · exact (ordered.evolve evolves).known entry inLog
    · obtain rfl := List.mem_singleton.mp isLast
      exact (List.getElem?_eq_some_iff.mp isNew).1
  settled entry member other upTo task found inGroup := by
    obtain inLog | isLast := List.mem_append.mp member
    · exact (ordered.evolve evolves).settled entry inLog other upTo task found inGroup
    · obtain rfl := List.mem_singleton.mp isLast
      obtain before | rfl := Nat.lt_or_eq_of_le upTo
      · have bound : other < tasks.length :=
          Nat.lt_trans before (List.getElem?_eq_some_iff.mp isOld).1
        obtain ⟨earlier, isEarlier, earlierGrouped, mayEarlier⟩ :=
          evolves.earlier bound found inGroup
        have settled := first other before earlier isEarlier earlierGrouped
        rw [← Bool.not_eq_true] at settled ⊢
        exact settled ∘ mayEarlier
      · rw [isNew] at found
        obtain rfl := Option.some.inj found
        exact done

end OrderedLog

end FlareCore.Foundations

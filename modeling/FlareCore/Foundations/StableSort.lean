import Mathlib.Data.List.Sort

/-!
# Stable sorting by a key

A list sorted by a key has its elements in the order of their keys, and those with one key in the
order they had (`filter_sortByKey`).
-/

namespace FlareCore.Foundations

set_option autoImplicit false

universe u v

variable {α : Type u} {Key : Type v} [LinearOrder Key] (key : α → Key)

/-- Sorted by a key, by a sort that is stable. -/
def sortByKey (elements : List α) : List α :=
  elements.insertionSort fun first second => key first ≤ key second

/-- The elements are in the order of their keys, and those with one key are in the order that they
have in another list. -/
structure StablySorted (sorted elements : List α) : Prop where
  ordered : sorted.Pairwise fun first second => key first ≤ key second
  stable : ∀ k, (sorted.filter fun element => key element = k) =
    elements.filter fun element => key element = k

theorem pairwise_sortByKey (elements : List α) :
    (sortByKey key elements).Pairwise fun first second => key first ≤ key second := by
  have total : Std.Total fun first second : α => key first ≤ key second :=
    ⟨fun _ _ => le_total _ _⟩
  have transitive : IsTrans α fun first second => key first ≤ key second :=
    ⟨fun _ _ _ => le_trans⟩
  exact List.pairwise_insertionSort _ elements

/-- An element is inserted in front of all that have its key. -/
theorem filter_orderedInsert (k : Key) (element : α) (elements : List α) :
    ((elements.orderedInsert (fun first second => key first ≤ key second) element).filter
        fun other => key other = k) =
      (element :: elements).filter fun other => key other = k := by
  induction elements with
  | nil => rfl
  | cons other elements inductionHypothesis =>
      rw [List.orderedInsert_cons]
      by_cases before : key element ≤ key other
      · rw [if_pos before]
      · rw [if_neg before, List.filter_cons, inductionHypothesis]
        by_cases sameClass : key other = k
        · have elsewhere : key element ≠ k := by
            rintro rfl
            exact before (le_of_eq sameClass.symm)
          simp [sameClass, elsewhere]
        · simp [List.filter_cons, sameClass]

theorem filter_sortByKey (k : Key) (elements : List α) :
    ((sortByKey key elements).filter fun element => key element = k) =
      elements.filter fun element => key element = k := by
  induction elements with
  | nil => rfl
  | cons element elements inductionHypothesis =>
      rw [sortByKey, List.insertionSort_cons, filter_orderedInsert, List.filter_cons,
        List.filter_cons]
      simp only [sortByKey] at inductionHypothesis
      rw [inductionHypothesis]

namespace StablySorted

variable {key} {sorted elements : List α}

theorem nil : StablySorted key ([] : List α) [] :=
  ⟨.nil, fun _ => rfl⟩

/-- An element at the end is sorted in behind the others with its key. -/
theorem push (sortedBefore : StablySorted key sorted elements) (element : α) :
    StablySorted key (sortByKey key (sorted ++ [element])) (elements ++ [element]) := by
  refine ⟨pairwise_sortByKey key _, fun k => ?_⟩
  rw [filter_sortByKey, List.filter_append, sortedBefore.stable, List.filter_append]

theorem filter (sortedBefore : StablySorted key sorted elements) (kept : α → Bool) :
    StablySorted key (sorted.filter kept) (elements.filter kept) := by
  refine ⟨sortedBefore.ordered.filter kept, fun k => ?_⟩
  rw [List.filter_comm, sortedBefore.stable, List.filter_comm]

end StablySorted

end FlareCore.Foundations

import Mathlib.Order.Defs.Unbundled

/-!
# Reading a message field by field

In a format of tagged fields a message is read in a loop: as long as data are left, a field is taken
off their front and merged into what has been read so far.

`mergeFields` is the loop, with a bound on its rounds, and `Reading` is what it does, without a
bound.  The two agree when every field takes up some of the data (`mergeFields_eq_some_iff`).  What
each field keeps, the whole reading keeps (`Reading.invariant`, `Reading.falls`).
-/

namespace FlareCore.Foundations

set_option autoImplicit false

variable {α M : Type}

/-- Merges one field after the other into a message, until no data are left. -/
def mergeFields (field : List α → M → Option (M × List α)) : Nat → List α → M → Option M
  | _, [], message => some message
  | 0, _ :: _, _ => none
  | rounds + 1, first :: others, message =>
      (field (first :: others) message).bind fun (next, rest) => mergeFields field rounds rest next

/-- The data are fields, and the message becomes another when they are merged into it. -/
inductive Reading (field : List α → M → Option (M × List α)) : List α → M → M → Prop
  | done (message : M) : Reading field [] message message
  | more {data rest : List α} {message next final : M} (left : data ≠ [])
      (taken : field data message = some (next, rest)) (later : Reading field rest next final) :
      Reading field data message final

variable {field : List α → M → Option (M × List α)} {data : List α} {message final : M}

theorem Reading.of_mergeFields {rounds : Nat}
    (merged : mergeFields field rounds data message = some final) :
    Reading field data message final := by
  induction rounds generalizing data message with
  | zero =>
      cases data with
      | nil =>
          obtain rfl := Option.some.inj merged
          exact .done message
      | cons first others => cases merged
  | succ rounds inductionHypothesis =>
      cases data with
      | nil =>
          obtain rfl := Option.some.inj merged
          exact .done message
      | cons first others =>
          rw [mergeFields] at merged
          obtain ⟨⟨next, rest⟩, taken, later⟩ := Option.bind_eq_some_iff.mp merged
          exact .more (List.cons_ne_nil _ _) taken (inductionHypothesis later)

/-- The loop comes to its end in as many rounds as there are data. -/
theorem Reading.mergeFields
    (shrinks : ∀ data message next rest, field data message = some (next, rest) →
      rest.length < data.length)
    (reading : Reading field data message final) {rounds : Nat} (enough : data.length ≤ rounds) :
    mergeFields field rounds data message = some final := by
  induction reading generalizing rounds with
  | done message => cases rounds <;> rfl
  | @more data rest message next final left taken later inductionHypothesis =>
      cases data with
      | nil => exact absurd rfl left
      | cons first others =>
          have less := shrinks _ _ _ _ taken
          cases rounds with
          | zero => cases enough
          | succ rounds =>
              rw [Foundations.mergeFields, taken]
              exact inductionHypothesis (Nat.le_of_lt_succ (Nat.lt_of_lt_of_le less enough))

theorem mergeFields_eq_some_iff
    (shrinks : ∀ data message next rest, field data message = some (next, rest) →
      rest.length < data.length) :
    mergeFields field data.length data message = some final ↔ Reading field data message final :=
  ⟨.of_mergeFields, fun reading => reading.mergeFields shrinks (Nat.le_refl _)⟩

namespace Reading

/-- Data that are left begin with a field. -/
theorem exists_field (reading : Reading field data message final) (left : data ≠ []) :
    ∃ next rest, field data message = some (next, rest) ∧ Reading field rest next final := by
  cases reading with
  | done => exact absurd rfl left
  | more _ taken later => exact ⟨_, _, taken, later⟩

/-- Data whose front is no field are not read. -/
theorem eq_nil_of_none (reading : Reading field data message final)
    (none : ∀ message, field data message = none) : data = [] := by
  cases reading with
  | done => rfl
  | more _ taken _ => cases (none _).symm.trans taken

/-- What every field keeps. -/
theorem invariant {I : M → Prop} (reading : Reading field data message final)
    (initial : I message)
    (step : ∀ data message next rest, field data message = some (next, rest) → I message →
      I next) : I final := by
  induction reading with
  | done message => exact initial
  | more _ taken _ inductionHypothesis => exact inductionHypothesis (step _ _ _ _ taken initial)

/-- A measure of what was read and what is left that does not grow with any field. -/
theorem falls {β : Type} {below : β → β → Prop} [Std.Refl below] [IsTrans β below]
    (measure : M → List α → β)
    (step : ∀ data message next rest, field data message = some (next, rest) →
      below (measure next rest) (measure message data))
    (reading : Reading field data message final) :
    below (measure final []) (measure message data) := by
  induction reading with
  | done message => exact refl_of below _
  | more _ taken _ inductionHypothesis =>
      exact trans_of below inductionHypothesis (step _ _ _ _ taken)

end Reading

/-! ## Pieces of the data -/

/-- A piece in front of the data turns a message into another, in as many rounds as it is long. -/
def Takes (field : List α → M → Option (M × List α)) (piece : List α) (message next : M) : Prop :=
  ∀ tail final,
    (∀ rounds, tail.length ≤ rounds → mergeFields field rounds tail next = some final) →
      ∀ rounds, (piece ++ tail).length ≤ rounds →
        mergeFields field rounds (piece ++ tail) message = some final

namespace Takes

variable {piece second : List α} {next later : M}

theorem nil (message : M) : Takes field [] message message :=
  fun _ _ behind => behind

theorem append (takes : Takes field piece message next) (behind : Takes field second next later) :
    Takes field (piece ++ second) message later := by
  intro tail final ends
  rw [List.append_assoc]
  exact takes _ _ (behind _ _ ends)

/-- A field, whatever stands behind it. -/
theorem of_field (some : piece ≠ [])
    (taken : ∀ tail, field (piece ++ tail) message = .some (next, tail)) :
    Takes field piece message next := by
  intro tail final ends rounds enough
  cases piece with
  | nil => exact absurd rfl some
  | cons first others =>
      cases rounds with
      | zero => cases enough
      | succ rounds =>
          rw [List.cons_append, List.length_cons, List.length_append] at enough
          rw [List.cons_append, mergeFields, ← List.cons_append, taken]
          exact ends rounds (Nat.le_trans (Nat.le_add_left _ _) (Nat.le_of_succ_le_succ enough))

theorem mergeFields_eq (takes : Takes field piece message final) :
    mergeFields field piece.length piece message = some final := by
  have whole := takes [] final (fun rounds _ => by cases rounds <;> rfl) piece.length
    (Nat.le_of_eq (by rw [List.append_nil]))
  rwa [List.append_nil] at whole

end Takes

end FlareCore.Foundations

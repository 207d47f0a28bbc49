import Mathlib.Data.List.Basic

/-!
# Decoding what arrives in pieces

A decoder keeps what has arrived and not been taken out yet.  When it is asked, it takes an item off
the front, or reports that there is none yet.  The caller decides how the stream is cut into pieces
and when the decoder is asked.

`Recognises` says what is needed of one request: a complete item is taken off, whatever stands
behind it, and a part of an item is left where it is.  Then neither the cuts nor the requests matter
(`Feed.run_eq`), and asking until nothing is reported empties the buffer (`drain_eq`).
-/

namespace FlareCore.Foundations

set_option autoImplicit false

variable {α β ρ : Type}

/-- What a caller does: another piece arrives, or the decoder is asked. -/
inductive Feed (α : Type) where
  | add (piece : List α)
  | ask

namespace Feed

/-- All that arrives, uncut. -/
def added : List (Feed α) → List α
  | [] => []
  | add piece :: feed => piece ++ added feed
  | ask :: feed => added feed

/-- The buffer after a caller's requests, with the answers. -/
def run (next : List α → List α × ρ) : List (Feed α) → List α → List α × List ρ
  | [], buffer => (buffer, [])
  | add piece :: feed, buffer => run next feed (buffer ++ piece)
  | ask :: feed, buffer =>
      let answered := next buffer
      let later := run next feed answered.1
      (later.1, answered.2 :: later.2)

end Feed

/-- Asks as long as there is an item, at most `fuel` times. -/
def drain (next : List α → List α × ρ) (item : ρ → Option β) : Nat → List α → List α × List ρ
  | 0, buffer => (buffer, [])
  | fuel + 1, buffer =>
      let answered := next buffer
      match item answered.2 with
      | none => (answered.1, [answered.2])
      | some _ =>
          let later := drain next item fuel answered.1
          (later.1, answered.2 :: later.2)

/-- The answers report the given items in order, and beside them that there is none yet. -/
inductive Reports (found : β → ρ) (missing : ρ) : List ρ → List β → Prop where
  | nil : Reports found missing [] []
  | found {answers : List ρ} {items : List β} (item : β)
      (later : Reports found missing answers items) :
      Reports found missing (found item :: answers) (item :: items)
  | missing {answers : List ρ} {items : List β} (later : Reports found missing answers items) :
      Reports found missing (missing :: answers) items

theorem Reports.append {found : β → ρ} {missing : ρ} {first second : List ρ}
    {items others : List β} (earlier : Reports found missing first items)
    (later : Reports found missing second others) :
    Reports found missing (first ++ second) (items ++ others) := by
  induction earlier with
  | nil => exact later
  | found item _ inductionHypothesis => exact .found item inductionHypothesis
  | missing _ inductionHypothesis => exact .missing inductionHypothesis

theorem Reports.map_append_missing {found : β → ρ} {missing : ρ} (items : List β) :
    Reports found missing (items.map found ++ [missing]) items := by
  induction items with
  | nil => exact .missing .nil
  | cons item items inductionHypothesis => exact .found item inductionHypothesis

/-- A request takes a complete item off the front, and leaves a part of one where it is. -/
structure Recognises (next : List α → List α × ρ) (found : β → ρ) (missing : ρ)
    (encode : β → List α) (item : β) : Prop where
  complete : ∀ tail, next (encode item ++ tail) = (tail, found item)
  incomplete : ∀ part, part <+: encode item → part ≠ encode item → next part = (part, missing)

section Decoding

variable {next : List α → List α × ρ} {found : β → ρ} {missing : ρ} {encode : β → List α}

/-- One request to a buffer that the rest of a stream will follow. -/
theorem next_of_stream (atEnd : next [] = ([], missing)) {items : List β}
    (recognises : ∀ item ∈ items, Recognises next found missing encode item)
    {buffer later : List α} (stream : buffer ++ later = items.flatMap encode) :
    next buffer = (buffer, missing) ∨ ∃ item rest remaining, items = item :: rest ∧
      next buffer = (remaining, found item) ∧ remaining ++ later = rest.flatMap encode := by
  cases items with
  | nil =>
      have empty : buffer = [] := (List.append_eq_nil_iff.mp stream).1
      rw [empty]
      exact .inl atEnd
  | cons item rest =>
      have recognised := recognises item List.mem_cons_self
      rw [List.flatMap_cons] at stream
      rcases List.append_eq_append_iff.mp stream with
        ⟨missed, isItem, -⟩ | ⟨remaining, isBuffer, isRest⟩
      · by_cases whole : buffer = encode item
        · refine .inr ⟨item, rest, [], rfl, ?_, ?_⟩
          · rw [whole, ← recognised.complete [], List.append_nil]
          · rw [whole] at stream
            exact List.append_cancel_left stream
        · exact .inl (recognised.incomplete buffer ⟨missed, isItem.symm⟩ whole)
      · refine .inr ⟨item, rest, remaining, rfl, ?_, isRest.symm⟩
        rw [isBuffer, recognised.complete]

/-- **Neither the cuts nor the requests matter.**  The answers report the first items in order, and
the buffer holds the others. -/
theorem Feed.run_eq (atEnd : next [] = ([], missing)) {items : List β}
    (recognises : ∀ item ∈ items, Recognises next found missing encode item)
    (feed : List (Feed α)) (buffer : List α)
    (stream : buffer ++ added feed = items.flatMap encode) :
    ∃ taken left, items = taken ++ left ∧ Reports found missing (run next feed buffer).2 taken ∧
      (run next feed buffer).1 = left.flatMap encode := by
  -- on the requests; the buffer and what is still to arrive are always whole items
  induction feed generalizing buffer items with
  | nil =>
      refine ⟨[], items, rfl, .nil, ?_⟩
      rw [← stream]
      exact (List.append_nil buffer).symm
  | cons request feed inductionHypothesis =>
      cases request with
      | add piece =>
          refine inductionHypothesis recognises (buffer ++ piece) ?_
          rw [List.append_assoc]
          exact stream
      | ask =>
          rcases next_of_stream atEnd recognises stream with
            none | ⟨item, rest, remaining, rfl, answered, stream⟩
          · obtain ⟨taken, left, rfl, reports, kept⟩ := inductionHypothesis recognises buffer stream
            refine ⟨taken, left, rfl, ?_, ?_⟩
            · simp only [run, none]
              exact .missing reports
            · simp only [run, none]
              exact kept
          · obtain ⟨taken, left, rfl, reports, kept⟩ := inductionHypothesis
              (fun other member => recognises other (List.mem_cons_of_mem item member)) remaining
              stream
            refine ⟨item :: taken, left, rfl, ?_, ?_⟩
            · simp only [run, answered]
              exact .found item reports
            · simp only [run, answered]
              exact kept

/-- **Asking until there is nothing more empties the buffer.**  It takes one request for each item
and one more. -/
theorem drain_eq (atEnd : next [] = ([], missing)) {item : ρ → Option β}
    (isItem : ∀ value, item (found value) = some value) (isMissing : item missing = none)
    {items : List β} (recognises : ∀ value ∈ items, Recognises next found missing encode value)
    {fuel : Nat} (enough : items.length < fuel) :
    drain next item fuel (items.flatMap encode) = ([], items.map found ++ [missing]) := by
  induction items generalizing fuel with
  | nil =>
      obtain ⟨fuel, rfl⟩ := Nat.exists_eq_add_of_lt enough
      simp [drain, atEnd, isMissing]
  | cons value items inductionHypothesis =>
      cases fuel with
      | zero => cases enough
      | succ fuel =>
          have later := inductionHypothesis
            (fun other member => recognises other (List.mem_cons_of_mem value member))
            (Nat.lt_of_succ_lt_succ enough)
          have taken := (recognises value List.mem_cons_self).complete (items.flatMap encode)
          simp only [drain, List.flatMap_cons, taken, isItem, later, List.map_cons,
            List.cons_append]

end Decoding

end FlareCore.Foundations

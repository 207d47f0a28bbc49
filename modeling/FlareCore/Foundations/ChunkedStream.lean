import Mathlib.Data.List.Basic

/-!
# Streams that arrive in pieces

A stream is what a reader has not seen yet, cut into the pieces in which it will arrive, followed
by the end of the stream.  A read takes at most as many elements as there is room for, and never
more than one piece; it takes none only at the end.  How a stream is cut is up to the other end
and to everything in between, so a reader that is correct must not depend on it.

`readExact` repeats reads until a buffer is full.  Its result is a function of the content of the
stream alone (`readExact_eq_ok`, `readExact_eq_error`): the cuts show nowhere.
-/

namespace FlareCore.Foundations

set_option autoImplicit false

variable {α : Type}

/-- The unread part of a stream.  No piece is empty, since a read that gives nothing is the end
of the stream. -/
structure ChunkedStream (α : Type) where
  chunks : List (List α)
  nonempty : ∀ chunk ∈ chunks, chunk ≠ []

namespace ChunkedStream

/-- What is left to read, uncut. -/
def content (stream : ChunkedStream α) : List α :=
  stream.chunks.flatten

/-- A stream at its end. -/
def ended : ChunkedStream α where
  chunks := []
  nonempty := fun _ member => absurd member List.not_mem_nil

@[simp]
theorem content_ended : (ended : ChunkedStream α).content = [] := rfl

/-- A stream that arrives in one piece. -/
def whole (content : List α) : ChunkedStream α :=
  if isEmpty : content = [] then ended
  else ⟨[content], fun _ member => List.mem_singleton.mp member ▸ isEmpty⟩

@[simp]
theorem content_whole (content : List α) : (whole content).content = content := by
  unfold whole
  split_ifs with isEmpty
  · rw [isEmpty, content_ended]
  · exact List.append_nil content

/-! ## One read -/

/-- One read with room for `limit` elements: the first piece if it fits, else as much of it as
fits. -/
def read (stream : ChunkedStream α) (limit : Nat) : List α × ChunkedStream α :=
  match stream with
  | ⟨[], nonempty⟩ => ([], ⟨[], nonempty⟩)
  | ⟨chunk :: chunks, nonempty⟩ =>
      if fits : chunk.length ≤ limit then
        (chunk, ⟨chunks, fun other member => nonempty other (List.mem_cons_of_mem _ member)⟩)
      else
        (chunk.take limit, ⟨chunk.drop limit :: chunks, by
          intro other member
          obtain rfl | later := List.mem_cons.mp member
          · intro isEmpty
            exact fits (List.drop_eq_nil_iff.mp isEmpty)
          · exact nonempty other (List.mem_cons_of_mem _ later)⟩)

/-- A read takes a part off the front. -/
theorem read_append_content (stream : ChunkedStream α) (limit : Nat) :
    (stream.read limit).1 ++ (stream.read limit).2.content = stream.content := by
  obtain ⟨chunks, nonempty⟩ := stream
  cases chunks with
  | nil => rfl
  | cons chunk chunks =>
      unfold read
      dsimp only
      split_ifs
      · rfl
      · show chunk.take limit ++ (chunk.drop limit ++ chunks.flatten) = chunk ++ chunks.flatten
        rw [← List.append_assoc, List.take_append_drop]

theorem length_read_le (stream : ChunkedStream α) (limit : Nat) :
    (stream.read limit).1.length ≤ limit := by
  obtain ⟨chunks, nonempty⟩ := stream
  cases chunks with
  | nil => exact Nat.zero_le limit
  | cons chunk chunks =>
      unfold read
      dsimp only
      split_ifs with fits
      · exact fits
      · exact List.length_take_le limit chunk

/-- A read gives nothing only at the end. -/
theorem read_eq_nil_iff (stream : ChunkedStream α) {limit : Nat} (room : 0 < limit) :
    (stream.read limit).1 = [] ↔ stream.content = [] := by
  obtain ⟨chunks, nonempty⟩ := stream
  cases chunks with
  | nil => exact Iff.rfl
  | cons chunk chunks =>
      have isPiece : chunk ≠ [] := nonempty chunk List.mem_cons_self
      have more : (⟨chunk :: chunks, nonempty⟩ : ChunkedStream α).content ≠ [] := by
        intro isEmpty
        exact isPiece (List.append_eq_nil_iff.mp isEmpty).1
      refine iff_of_false ?_ more
      unfold read
      dsimp only
      split_ifs
      · exact isPiece
      · intro isEmpty
        obtain room' | isEmpty := List.take_eq_nil_iff.mp isEmpty
        · omega
        · exact isPiece isEmpty

/-! ## Reading a given number of elements -/

/-- Reads until `needed` more elements are there, after those already `got`.  If the stream ends
before, the result is what was read until then. -/
def fill : Nat → List α → ChunkedStream α → Nat → Except (List α) (List α × ChunkedStream α)
  | 0, got, _, _ => .error got
  | reads + 1, got, stream, needed =>
      if needed = 0 then .ok (got, stream)
      else
        match stream.read needed with
        | ([], _) => .error got
        | (piece, rest) => fill reads (got ++ piece) rest (needed - piece.length)

/-- `read_exact`: every read gives at least one element, so this many reads are enough. -/
def readExact (stream : ChunkedStream α) (count : Nat) :
    Except (List α) (List α × ChunkedStream α) :=
  fill (count + 1) [] stream count

theorem fill_eq (reads : Nat) (got : List α) (stream : ChunkedStream α) (needed : Nat)
    (enough : needed < reads) :
    (needed ≤ stream.content.length → ∃ rest, fill reads got stream needed =
      .ok (got ++ stream.content.take needed, rest) ∧ rest.content = stream.content.drop needed) ∧
    (stream.content.length < needed →
      fill reads got stream needed = .error (got ++ stream.content)) := by
  -- on the number of reads; the content is split at what the first of them gives
  induction reads generalizing got stream needed with
  | zero => exact absurd enough (Nat.not_lt_zero needed)
  | succ reads inductionHypothesis =>
      unfold fill
      by_cases full : needed = 0
      · subst full
        refine ⟨fun _ => ⟨stream, ?_, rfl⟩, fun short => absurd short (Nat.not_lt_zero _)⟩
        rw [if_pos rfl, List.take_zero, List.append_nil]
      · rw [if_neg full]
        have room : 0 < needed := Nat.pos_of_ne_zero full
        have split := stream.read_append_content needed
        have bound := stream.length_read_le needed
        have atEnd := stream.read_eq_nil_iff room
        generalize stream.read needed = result at split bound atEnd ⊢
        obtain ⟨piece, rest⟩ := result
        cases piece with
        | nil =>
            have isEmpty : stream.content = [] := atEnd.mp rfl
            refine ⟨fun long => ?_, fun _ => ?_⟩
            · rw [isEmpty] at long
              exact absurd long (Nat.not_le_of_lt room)
            · rw [isEmpty, List.append_nil]
        | cons first piece =>
            dsimp only at split bound ⊢
            have shorter : needed - (first :: piece).length < reads := by
              rw [List.length_cons]
              omega
            obtain ⟨long, short⟩ := inductionHypothesis (got ++ first :: piece) rest
              (needed - (first :: piece).length) shorter
            rw [← split, List.length_append]
            constructor
            · intro enough
              obtain ⟨after, filled, left⟩ := long (by omega)
              refine ⟨after, ?_, ?_⟩
              · rw [filled, List.append_assoc, List.take_append, List.take_of_length_le bound]
              · rw [left, List.drop_append, List.drop_of_length_le bound, List.nil_append]
            · intro enough
              rw [short (by omega), List.append_assoc]

/-- Enough content fills the buffer, however it is cut. -/
theorem readExact_eq_ok {stream : ChunkedStream α} {count : Nat}
    (long : count ≤ stream.content.length) :
    ∃ rest, stream.readExact count = .ok (stream.content.take count, rest) ∧
      rest.content = stream.content.drop count :=
  (fill_eq (count + 1) [] stream count (Nat.lt_succ_self count)).1 long

/-- A stream that is too short gives all that it has. -/
theorem readExact_eq_error {stream : ChunkedStream α} {count : Nat}
    (short : stream.content.length < count) : stream.readExact count = .error stream.content :=
  (fill_eq (count + 1) [] stream count (Nat.lt_succ_self count)).2 short

end ChunkedStream

end FlareCore.Foundations

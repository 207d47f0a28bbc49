import Mathlib.Algebra.BigOperators.Group.List.Basic
import Mathlib.Algebra.Ring.Nat
import Mathlib.Data.String.Basic

/-!
# Slices of strings

A string is cut at byte offsets, and a slice panics where an offset is not on the boundary of a
character.  Behind the characters of the offset it begins with, a slice is one of the rest
(`sliceBytes_append`).
-/

namespace FlareCore.Common

set_option autoImplicit false

/-- A text cut at a byte offset, if that is on a character boundary. -/
def splitAtByte : List Char → Nat → Option (List Char × List Char)
  | characters, 0 => some ([], characters)
  | [], _ + 1 => none
  | c :: characters, offset + 1 =>
      if c.utf8Size ≤ offset + 1 then
        (splitAtByte characters (offset + 1 - c.utf8Size)).map fun (before, after) =>
          (c :: before, after)
      else none

/-- `&text[start..end]`; nothing where it panics. -/
def sliceBytes (text : String) (start stop : Nat) : Option String := do
  let (upTo, _) ← splitAtByte text.toList stop
  let (_, part) ← splitAtByte upTo start
  return String.ofList part

/-- `&text[start..]`. -/
def sliceFrom (text : String) (start : Nat) : Option String :=
  (splitAtByte text.toList start).map fun (_, part) => String.ofList part

theorem utf8ByteSize_ofList (characters : List Char) :
    (String.ofList characters).utf8ByteSize = (characters.map Char.utf8Size).sum := by
  induction characters with
  | nil => rfl
  | cons c characters inductionHypothesis =>
      rw [String.ofList_cons, String.utf8ByteSize_append, String.utf8ByteSize_singleton,
        inductionHypothesis, List.map_cons, List.sum_cons]

/-- The text is cut between two characters of one byte each. -/
theorem splitAtByte_one {c : Char} (oneByte : c.utf8Size = 1) (characters : List Char)
    (offset : Nat) :
    splitAtByte (c :: characters) (offset + 1) =
      (splitAtByte characters offset).map fun (before, after) => (c :: before, after) := by
  rw [splitAtByte, oneByte, if_pos (Nat.le_add_left 1 offset), Nat.add_sub_cancel]

/-- There is no boundary within a character. -/
theorem splitAtByte_within {c : Char} (moreBytes : 1 < c.utf8Size) (characters : List Char) :
    splitAtByte (c :: characters) 1 = none := by
  rw [splitAtByte, if_neg (Nat.not_le_of_lt moreBytes)]

/-- A cut behind a character is one of what stands behind it. -/
theorem splitAtByte_cons (c : Char) (characters : List Char) (offset : Nat) :
    splitAtByte (c :: characters) (c.utf8Size + offset) =
      (splitAtByte characters offset).map fun (before, after) => (c :: before, after) := by
  obtain ⟨size, sizeEq⟩ : ∃ size, c.utf8Size = size + 1 :=
    Nat.exists_eq_succ_of_ne_zero (Nat.ne_of_gt c.utf8Size_pos)
  rw [sizeEq, Nat.add_right_comm, splitAtByte, sizeEq, if_pos (by omega)]
  congr 2
  omega

/-- How many bytes characters take. -/
def byteLength (characters : List Char) : Nat :=
  (characters.map Char.utf8Size).sum

theorem byteLength_cons (c : Char) (characters : List Char) :
    byteLength (c :: characters) = c.utf8Size + byteLength characters := by
  rw [byteLength, List.map_cons, List.sum_cons]
  rfl

theorem byteLength_append (before characters : List Char) :
    byteLength (before ++ characters) = byteLength before + byteLength characters := by
  rw [byteLength, List.map_append, List.sum_append]
  rfl

theorem byteLength_toList (text : String) : byteLength text.toList = text.utf8ByteSize := by
  rw [byteLength, ← utf8ByteSize_ofList, String.ofList_toList]

theorem splitAtByte_append (before characters : List Char) (offset : Nat) :
    splitAtByte (before ++ characters) (byteLength before + offset) =
      (splitAtByte characters offset).map fun (upTo, after) => (before ++ upTo, after) := by
  induction before with
  | nil =>
      rw [byteLength, List.map_nil, List.sum_nil, Nat.zero_add]
      exact (congrFun Option.map_id _).symm
  | cons c before inductionHypothesis =>
      rw [byteLength_cons, Nat.add_assoc, List.cons_append, splitAtByte_cons,
        inductionHypothesis, Option.map_map]
      rfl

/-- **A slice behind some characters is one of the rest.** -/
theorem sliceBytes_append {text : String} {before characters : List Char}
    (shape : text.toList = before ++ characters) (length : Nat) :
    sliceBytes text (byteLength before) (byteLength before + length) =
      (splitAtByte characters length).map fun (part, _) => String.ofList part := by
  rw [sliceBytes, shape, splitAtByte_append]
  cases splitAtByte characters length with
  | none => rfl
  | some cut =>
      obtain ⟨part, after⟩ := cut
      have start := splitAtByte_append before part 0
      rw [Nat.add_zero, splitAtByte] at start
      show (splitAtByte (before ++ part) (byteLength before)).bind _ = _
      rw [start]
      rfl

end FlareCore.Common

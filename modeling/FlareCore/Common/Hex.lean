import FlareCore.Common.Protocol
import FlareCore.Common.Slices

/-!
# Hexadecimal digits

`bytesToHex` writes two digits for each byte, and `hexToBytes` reads them back in steps of two bytes
of the string, whatever they are.  It leaves the digits to the parser of integers, which stops at
the first pair that is none, but takes a sign in front of a digit for part of the number; and it
cuts the string before the parser has seen what is cut.

So what is written is read back, but the reader accepts more than it should, and panics for an
odd digit and for wide characters.  `Misread` is the class of strings where it does
(`hex_codec_sound_iff`).
-/

namespace FlareCore.Common

set_option autoImplicit false

/-! ## Integers as text -/

inductive IntErrorKind where
  | empty
  | invalidDigit
  | posOverflow
  deriving DecidableEq

/-- The text of a `ParseIntError`. -/
def IntErrorKind.text : IntErrorKind → String
  | .empty => "cannot parse integer from empty string"
  | .invalidDigit => "invalid digit found in string"
  | .posOverflow => "number too large to fit in target type"

/-- `to_digit(16)`. -/
def hexDigit (c : Char) : Option Nat :=
  if '0' ≤ c ∧ c ≤ '9' then some (c.toNat - '0'.toNat)
  else if 'a' ≤ c ∧ c ≤ 'f' then some (c.toNat - 'a'.toNat + 10)
  else if 'A' ≤ c ∧ c ≤ 'F' then some (c.toNat - 'A'.toNat + 10)
  else none

/-- The digits behind those that make `value`. -/
def accumulateDigits (value : Nat) : List Char → Except IntErrorKind Nat
  | [] => .ok value
  | c :: characters =>
      match hexDigit c with
      | none => .error .invalidDigit
      | some digit =>
          if value * 16 + digit < 256 then accumulateDigits (value * 16 + digit) characters
          else .error .posOverflow

/-- `u8::from_str_radix(text, 16)`.  A sign is allowed in front, but an unsigned integer takes no
minus. -/
def u8FromHex : List Char → Except IntErrorKind UInt8
  | [] => .error .empty
  | ['+'] => .error .invalidDigit
  | ['-'] => .error .invalidDigit
  | '+' :: characters => (accumulateDigits 0 characters).map UInt8.ofNat
  | characters => (accumulateDigits 0 characters).map UInt8.ofNat

/-! ## The writer and the reader -/

/-- `{:02x}`. -/
def lowerHex (byte : UInt8) : List Char :=
  [Nat.digitChar (byte.toNat / 16), Nat.digitChar (byte.toNat % 16)]

def bytesToHex (bytes : List UInt8) : String :=
  String.ofList (bytes.flatMap lowerHex)

/-- A number in front of the bytes that follow.  After an error these are not looked at. -/
def collectParsed (parsed : Except IntErrorKind UInt8)
    (following : Option (Except FlareError (List UInt8))) :
    Option (Except FlareError (List UInt8)) :=
  match parsed with
  | .error kind => some (.error (.protocolError ("Invalid hex string: " ++ kind.text)))
  | .ok byte => following.map (·.map (byte :: ·))

/-- The bytes from the given offsets on, in order and up to the first error; nothing where a slice
panics. -/
def hexToBytesAt (hex : String) : List Nat → Option (Except FlareError (List UInt8))
  | [] => some (.ok [])
  | i :: offsets =>
      (sliceBytes hex i (i + 2)).bind fun pair =>
        collectParsed (u8FromHex pair.toList) (hexToBytesAt hex offsets)

def hexToBytes (hex : String) : Option (Except FlareError (List UInt8)) :=
  hexToBytesAt hex (List.range' 0 ((hex.utf8ByteSize + 1) / 2) 2)

/-! ## The parser on two characters -/

theorem utf8Size_of_le {c : Char} (small : c ≤ 'f') : c.utf8Size = 1 := by
  have bound : c.val ≤ 0x7f := UInt32.le_trans (Char.le_def.mp small) (by decide)
  rw [Char.utf8Size]
  exact if_pos bound

theorem digit_lt {c most : Char} (least : Char) (offset : Nat) (below : c ≤ most)
    (range : most.toNat - least.toNat + offset < 16) : c.toNat - least.toNat + offset < 16 := by
  have bound : c.toNat ≤ most.toNat := Char.le_def.mp below
  omega

theorem hexDigit_some {c : Char} {digit : Nat} (isDigit : hexDigit c = some digit) :
    digit < 16 ∧ c.utf8Size = 1 := by
  unfold hexDigit at isDigit
  split at isDigit
  · next range =>
      cases isDigit
      exact ⟨digit_lt '0' 0 range.2 (by decide),
        utf8Size_of_le (Char.le_trans range.2 (by decide))⟩
  · split at isDigit
    · next range =>
        cases isDigit
        exact ⟨digit_lt 'a' 10 range.2 (by decide), utf8Size_of_le range.2⟩
    · split at isDigit
      · next range =>
          cases isDigit
          exact ⟨digit_lt 'A' 10 range.2 (by decide),
            utf8Size_of_le (Char.le_trans range.2 (by decide))⟩
      · cases isDigit

/-- A digit is taken as long as the value stays in range. -/
theorem accumulateDigits_digit {c : Char} {value digit : Nat} (characters : List Char)
    (isDigit : hexDigit c = some digit) (fits : value * 16 + digit < 256) :
    accumulateDigits value (c :: characters) =
      accumulateDigits (value * 16 + digit) characters := by
  rw [accumulateDigits, isDigit]
  exact if_pos fits

theorem accumulateDigits_error {c : Char} (value : Nat) (characters : List Char)
    (noDigit : hexDigit c = none) :
    accumulateDigits value (c :: characters) = .error .invalidDigit := by
  rw [accumulateDigits, noDigit]

/-- Only a plus in front, and a sign that stands alone, are not taken for digits. -/
theorem u8FromHex_unsigned {c : Char} (characters : List Char) (notPlus : c ≠ '+')
    (notMinus : c ≠ '-' ∨ characters ≠ []) :
    u8FromHex (c :: characters) = (accumulateDigits 0 (c :: characters)).map UInt8.ofNat := by
  rw [u8FromHex]
  all_goals simp only [List.cons.injEq, reduceCtorEq, imp_self]
  all_goals grind

/-- What the parser takes for a number of two characters. -/
def ReadsAsByte (c d : Char) : Prop :=
  ((hexDigit c).isSome = true ∨ c = '+') ∧ (hexDigit d).isSome = true

theorem ReadsAsByte.exists_digits {c d : Char} (reads : ReadsAsByte c d) :
    ∃ low, hexDigit d = some low ∧ ((∃ high, hexDigit c = some high) ∨ c = '+') := by
  obtain ⟨first, second⟩ := reads
  obtain ⟨low, isDigit⟩ := Option.isSome_iff_exists.mp second
  exact ⟨low, isDigit, first.imp_left Option.isSome_iff_exists.mp⟩

theorem ReadsAsByte.oneByte {c d : Char} (reads : ReadsAsByte c d) :
    c.utf8Size = 1 ∧ d.utf8Size = 1 := by
  obtain ⟨low, second, ⟨high, first⟩ | rfl⟩ := reads.exists_digits
  · exact ⟨(hexDigit_some first).2, (hexDigit_some second).2⟩
  · exact ⟨rfl, (hexDigit_some second).2⟩

theorem u8FromHex_digits {c d : Char} {high low : Nat} (first : hexDigit c = some high)
    (second : hexDigit d = some low) : u8FromHex [c, d] = .ok (UInt8.ofNat (high * 16 + low)) := by
  have small := (hexDigit_some first).1
  have smaller := (hexDigit_some second).1
  have noSign : c ≠ '+' := by
    rintro rfl
    cases first
  rw [u8FromHex_unsigned [d] noSign (.inr (List.cons_ne_nil d [])),
    accumulateDigits_digit [d] first (by omega), accumulateDigits_digit [] second (by omega),
    Nat.zero_mul, Nat.zero_add]
  rfl

theorem u8FromHex_signed {d : Char} {low : Nat} (second : hexDigit d = some low) :
    u8FromHex ['+', d] = .ok (UInt8.ofNat low) := by
  have smaller := (hexDigit_some second).1
  rw [u8FromHex, accumulateDigits_digit [] second (by omega), Nat.zero_mul, Nat.zero_add]
  · rfl
  · exact List.cons_ne_nil d []

theorem u8FromHex_ok {c d : Char} (reads : ReadsAsByte c d) :
    ∃ byte, u8FromHex [c, d] = .ok byte := by
  obtain ⟨low, second, ⟨high, first⟩ | rfl⟩ := reads.exists_digits
  · exact ⟨_, u8FromHex_digits first second⟩
  · exact ⟨_, u8FromHex_signed second⟩

theorem u8FromHex_error {c d : Char} (unread : ¬ReadsAsByte c d) :
    u8FromHex [c, d] = .error .invalidDigit := by
  by_cases signed : c = '+'
  · subst signed
    have noDigit : hexDigit d = none :=
      Option.not_isSome_iff_eq_none.mp fun digit => unread ⟨.inr rfl, digit⟩
    rw [u8FromHex, accumulateDigits_error 0 [] noDigit]
    · rfl
    · exact List.cons_ne_nil d []
  · rw [u8FromHex_unsigned [d] signed (.inr (List.cons_ne_nil d []))]
    cases first : hexDigit c with
    | none => rw [accumulateDigits_error 0 [d] first, Except.map]
    | some high =>
        have small := (hexDigit_some first).1
        have noDigit : hexDigit d = none := by
          refine Option.not_isSome_iff_eq_none.mp fun digit => unread ⟨.inl ?_, digit⟩
          rw [first]
          rfl
        rw [accumulateDigits_digit [d] first (by omega), accumulateDigits_error _ [] noDigit,
          Except.map]

theorem u8FromHex_wide {c : Char} (wide : c.utf8Size ≠ 1) :
    u8FromHex [c] = .error .invalidDigit := by
  have noDigit : hexDigit c = none := by
    refine Option.eq_none_iff_forall_ne_some.mpr fun digit isDigit => ?_
    exact wide (hexDigit_some isDigit).2
  have notPlus : c ≠ '+' := by
    rintro rfl
    exact wide rfl
  have notMinus : c ≠ '-' := by
    rintro rfl
    exact wide rfl
  rw [u8FromHex_unsigned [] notPlus (.inl notMinus), accumulateDigits_error 0 [] noDigit,
    Except.map]

/-! ## What the reader meets -/

/-- The end of a slice is not the end of a character. -/
inductive CutsPair : List Char → Prop where
  | lone {c : Char} (oneByte : c.utf8Size = 1) : CutsPair [c]
  | wide {c : Char} {characters : List Char} (wide : 2 < c.utf8Size) : CutsPair (c :: characters)
  | within {c d : Char} {characters : List Char} (oneByte : c.utf8Size = 1)
      (wide : 1 < d.utf8Size) : CutsPair (c :: d :: characters)

/-- The slice is no number. -/
inductive RefusesPair : List Char → Prop where
  | wide {c : Char} {characters : List Char} (wide : c.utf8Size = 2) :
      RefusesPair (c :: characters)
  | unread {c d : Char} {characters : List Char} (first : c.utf8Size = 1)
      (second : d.utf8Size = 1) (unread : ¬ReadsAsByte c d) : RefusesPair (c :: d :: characters)

def pairCharacters (pairs : List (Char × Char)) : List Char :=
  pairs.flatMap fun (c, d) => [c, d]

/-- **A text is read up to its end, or up to a pair that is cut or refused.** -/
theorem exists_pairs (characters : List Char) :
    ∃ pairs rest, characters = pairCharacters pairs ++ rest ∧
      (∀ pair ∈ pairs, ReadsAsByte pair.1 pair.2) ∧
      (rest = [] ∨ CutsPair rest ∨ RefusesPair rest) := by
  have none_read : ∀ rest, rest = [] ∨ CutsPair rest ∨ RefusesPair rest →
      ∃ pairs tail, rest = pairCharacters pairs ++ tail ∧
        (∀ pair ∈ pairs, ReadsAsByte pair.1 pair.2) ∧
        (tail = [] ∨ CutsPair tail ∨ RefusesPair tail) := fun rest stops =>
    ⟨[], rest, rfl, fun _ member => absurd member List.not_mem_nil, stops⟩
  match characters with
  | [] => exact none_read [] (.inl rfl)
  | c :: others =>
      have positive := c.utf8Size_pos
      by_cases wide : 2 < c.utf8Size
      · exact none_read _ (.inr (.inl (.wide wide)))
      by_cases two : c.utf8Size = 2
      · exact none_read _ (.inr (.inr (.wide two)))
      have first : c.utf8Size = 1 := by omega
      match others with
      | [] => exact none_read _ (.inr (.inl (.lone first)))
      | d :: rest =>
          have another := d.utf8Size_pos
          by_cases within : 1 < d.utf8Size
          · exact none_read _ (.inr (.inl (.within first within)))
          have second : d.utf8Size = 1 := by omega
          by_cases reads : ReadsAsByte c d
          · obtain ⟨pairs, tail, rfl, allRead, stops⟩ := exists_pairs rest
            refine ⟨(c, d) :: pairs, tail, rfl, ?_, stops⟩
            exact List.forall_mem_cons.mpr ⟨reads, allRead⟩
          · exact none_read _ (.inr (.inr (.unread first second reads)))

/-- The reader in front of `characters`. -/
def hexToBytesBehind (hex : String) (before characters : List Char) :
    Option (Except FlareError (List UInt8)) :=
  hexToBytesAt hex (List.range' (byteLength before) ((byteLength characters + 1) / 2) 2)

section Reading

variable {hex : String} {before : List Char}

theorem hexToBytesBehind_nil : hexToBytesBehind hex before [] = some (.ok []) := rfl

/-- The reader takes the next two bytes. -/
theorem hexToBytesBehind_cons {c : Char} {characters : List Char}
    (shape : hex.toList = before ++ c :: characters) :
    hexToBytesBehind hex before (c :: characters) =
      (splitAtByte (c :: characters) 2).bind fun (pair, _) =>
        collectParsed (u8FromHex pair) (hexToBytesAt hex (List.range' (byteLength before + 2)
          ((byteLength (c :: characters) + 1) / 2 - 1) 2)) := by
  have positive := c.utf8Size_pos
  obtain ⟨count, countEq⟩ : ∃ count, (byteLength (c :: characters) + 1) / 2 = count + 1 := by
    rw [byteLength_cons]
    exact ⟨(c.utf8Size + byteLength characters + 1) / 2 - 1, by omega⟩
  rw [hexToBytesBehind, countEq, List.range'_succ, hexToBytesAt, sliceBytes_append shape]
  cases splitAtByte (c :: characters) 2 with
  | none => rfl
  | some cut =>
      simp only [Option.map_some, Option.bind_some, String.toList_ofList, Nat.add_sub_cancel]

theorem hexToBytesBehind_pair {c d : Char} {characters : List Char} {byte : UInt8}
    (shape : hex.toList = before ++ c :: d :: characters) (reads : ReadsAsByte c d)
    (read : u8FromHex [c, d] = .ok byte) :
    hexToBytesBehind hex before (c :: d :: characters) =
      (hexToBytesBehind hex (before ++ [c, d]) characters).map (·.map (byte :: ·)) := by
  obtain ⟨first, second⟩ := reads.oneByte
  have ends : byteLength (before ++ [c, d]) = byteLength before + 2 := by
    rw [byteLength_append, byteLength_cons, byteLength_cons, first, second]
    rfl
  have count : (byteLength (c :: d :: characters) + 1) / 2 - 1 =
      (byteLength characters + 1) / 2 := by
    rw [byteLength_cons, byteLength_cons, first, second]
    omega
  rw [hexToBytesBehind_cons shape, splitAtByte_one first, splitAtByte_one second, splitAtByte,
    hexToBytesBehind, ends, count]
  show collectParsed (u8FromHex [c, d]) _ = _
  rw [read, collectParsed]

theorem hexToBytesBehind_cuts {characters : List Char} (cuts : CutsPair characters)
    (shape : hex.toList = before ++ characters) :
    hexToBytesBehind hex before characters = none := by
  cases cuts with
  | lone oneByte =>
      rw [hexToBytesBehind_cons shape, splitAtByte_one oneByte]
      rfl
  | wide wide =>
      rw [hexToBytesBehind_cons shape, splitAtByte, if_neg (by omega)]
      rfl
  | within oneByte wide =>
      rw [hexToBytesBehind_cons shape, splitAtByte_one oneByte, splitAtByte_within wide]
      rfl

theorem hexToBytesBehind_refuses {characters : List Char} (refuses : RefusesPair characters)
    (shape : hex.toList = before ++ characters) :
    ∃ error, hexToBytesBehind hex before characters = some (.error error) := by
  cases refuses with
  | @wide c characters wide =>
      have cut : splitAtByte (c :: characters) 2 = some ([c], characters) := by
        have split := splitAtByte_cons c characters 0
        rw [wide, splitAtByte] at split
        exact split
      have notOne : c.utf8Size ≠ 1 := by omega
      refine ⟨.protocolError ("Invalid hex string: " ++ IntErrorKind.text .invalidDigit), ?_⟩
      rw [hexToBytesBehind_cons shape, cut]
      show collectParsed (u8FromHex [c]) _ = _
      rw [u8FromHex_wide notOne, collectParsed]
  | @unread c d characters first second unread =>
      refine ⟨.protocolError ("Invalid hex string: " ++ IntErrorKind.text .invalidDigit), ?_⟩
      rw [hexToBytesBehind_cons shape, splitAtByte_one first, splitAtByte_one second, splitAtByte]
      show collectParsed (u8FromHex [c, d]) _ = _
      rw [u8FromHex_error unread, collectParsed]

/-- **What stands in front of the rest is only added to what the rest is read as.** -/
theorem hexToBytesBehind_append {pairs : List (Char × Char)}
    (allRead : ∀ pair ∈ pairs, ReadsAsByte pair.1 pair.2) {rest : List Char}
    (shape : hex.toList = before ++ (pairCharacters pairs ++ rest)) :
    ∃ bytes, List.Forall₂ (fun pair byte => u8FromHex [pair.1, pair.2] = .ok byte) pairs bytes ∧
      hexToBytesBehind hex before (pairCharacters pairs ++ rest) =
        (hexToBytesBehind hex (before ++ pairCharacters pairs) rest).map (·.map (bytes ++ ·)) := by
  induction pairs generalizing before with
  | nil =>
      refine ⟨[], .nil, ?_⟩
      rw [pairCharacters, List.flatMap_nil, List.nil_append, List.append_nil]
      rcases hexToBytesBehind hex before rest with _ | _ | _ <;> rfl
  | cons pair pairs inductionHypothesis =>
      obtain ⟨c, d⟩ := pair
      obtain ⟨reads, others⟩ := List.forall_mem_cons.mp allRead
      obtain ⟨byte, read⟩ := u8FromHex_ok reads
      have shape : hex.toList = before ++ c :: d :: (pairCharacters pairs ++ rest) := shape
      have behind : hex.toList = (before ++ [c, d]) ++ (pairCharacters pairs ++ rest) := by
        rw [shape, List.append_assoc]
        rfl
      obtain ⟨bytes, parsed, goesOn⟩ := inductionHypothesis others behind
      refine ⟨byte :: bytes, .cons read parsed, ?_⟩
      show hexToBytesBehind hex before (c :: d :: (pairCharacters pairs ++ rest)) =
        (hexToBytesBehind hex (before ++ ([c, d] ++ pairCharacters pairs)) rest).map _
      rw [hexToBytesBehind_pair shape reads read, goesOn, List.append_assoc]
      rcases hexToBytesBehind hex (before ++ ([c, d] ++ pairCharacters pairs)) rest with
        _ | _ | _ <;> rfl

end Reading

theorem hexToBytes_eq (hex : String) : hexToBytes hex = hexToBytesBehind hex [] hex.toList := by
  rw [hexToBytesBehind, byteLength_toList]
  rfl

section Outcomes

variable {hex : String} {pairs : List (Char × Char)} {rest : List Char}
  (shape : hex.toList = pairCharacters pairs ++ rest)
  (allRead : ∀ pair ∈ pairs, ReadsAsByte pair.1 pair.2)

include shape allRead

/-- The three ways that the reader goes. -/
theorem hexToBytes_outcome :
    (rest = [] → ∃ bytes, hexToBytes hex = some (.ok bytes) ∧
      List.Forall₂ (fun pair byte => u8FromHex [pair.1, pair.2] = .ok byte) pairs bytes) ∧
    (CutsPair rest → hexToBytes hex = none) ∧
    (RefusesPair rest → ∃ error, hexToBytes hex = some (.error error)) := by
  have goesOn := @hexToBytesBehind_append hex [] pairs allRead rest shape
  rw [List.nil_append] at goesOn
  obtain ⟨bytes, parsed, goesOn⟩ := goesOn
  rw [hexToBytes_eq, shape, goesOn]
  refine ⟨?_, fun cuts => ?_, fun refuses => ?_⟩
  · rintro rfl
    refine ⟨bytes, ?_, parsed⟩
    rw [hexToBytesBehind_nil, Option.map_some, Except.map, List.append_nil]
  · rw [hexToBytesBehind_cuts cuts shape]
    rfl
  · obtain ⟨error, refused⟩ := hexToBytesBehind_refuses refuses shape
    rw [refused]
    exact ⟨error, rfl⟩

end Outcomes

/-! ## What is written is read back -/

theorem hexDigit_digitChar {digit : Nat} (small : digit < 16) :
    hexDigit (Nat.digitChar digit) = some digit := by
  have all : ∀ digit : Fin 16, hexDigit (Nat.digitChar digit) = some digit.val := by decide
  exact all ⟨digit, small⟩

def lowerHexPair (byte : UInt8) : Char × Char :=
  (Nat.digitChar (byte.toNat / 16), Nat.digitChar (byte.toNat % 16))

theorem u8FromHex_lowerHex (byte : UInt8) :
    u8FromHex [(lowerHexPair byte).1, (lowerHexPair byte).2] = .ok byte := by
  have bound := byte.toNat_lt
  have high := hexDigit_digitChar (show byte.toNat / 16 < 16 by omega)
  have low := hexDigit_digitChar (Nat.mod_lt byte.toNat (show 16 > 0 by decide))
  rw [lowerHexPair, u8FromHex_digits high low, Nat.div_add_mod', UInt8.ofNat_toNat]

theorem bytesToHex_toList (bytes : List UInt8) :
    (bytesToHex bytes).toList = pairCharacters (bytes.map lowerHexPair) := by
  rw [bytesToHex, String.toList_ofList, pairCharacters, List.flatMap_map]
  rfl

/-- **What is written is read back.** -/
theorem hexToBytes_bytesToHex (bytes : List UInt8) :
    hexToBytes (bytesToHex bytes) = some (.ok bytes) := by
  have allRead : ∀ pair ∈ bytes.map lowerHexPair, ReadsAsByte pair.1 pair.2 := by
    intro pair member
    obtain ⟨byte, -, rfl⟩ := List.mem_map.mp member
    have bound := byte.toNat_lt
    refine ⟨.inl ?_, ?_⟩
    · rw [lowerHexPair, hexDigit_digitChar (by omega)]
      rfl
    · rw [lowerHexPair, hexDigit_digitChar (Nat.mod_lt _ (by decide))]
      rfl
  have shape := bytesToHex_toList bytes
  rw [← List.append_nil (pairCharacters _)] at shape
  obtain ⟨read, decoded, parsed⟩ := (hexToBytes_outcome shape allRead).1 rfl
  have same : bytes = read := by
    rw [List.forall₂_map_left_iff] at parsed
    refine List.forall₂_eq_eq_eq ▸ parsed.imp fun byte other parsed => ?_
    exact Except.ok.inj ((u8FromHex_lowerHex byte).symm.trans parsed)
  rw [decoded, same]

/-! ## What else is read -/

/-- An even number of digits. -/
def IsHex (characters : List Char) : Prop :=
  characters.length % 2 = 0 ∧ ∀ c ∈ characters, (hexDigit c).isSome = true

/-- The reader answers, and it accepts the text exactly if that is hexadecimal. -/
def HexToBytesSound (text : String) : Prop :=
  ∃ outcome, hexToBytes text = some outcome ∧
    ((∃ bytes, outcome = .ok bytes) ↔ IsHex text.toList)

/-- Behind pairs that the parser takes for numbers the string is cut within a character or behind
its end, or it ends there, and one of the pairs was a sign with a digit. -/
def Misread (text : String) : Prop :=
  ∃ pairs rest, text.toList = pairCharacters pairs ++ rest ∧
    (∀ pair ∈ pairs, ReadsAsByte pair.1 pair.2) ∧
    (CutsPair rest ∨ rest = [] ∧ ∃ pair ∈ pairs, pair.1 = '+')

theorem mem_pairCharacters {pairs : List (Char × Char)} {c : Char} :
    c ∈ pairCharacters pairs ↔ ∃ pair ∈ pairs, c = pair.1 ∨ c = pair.2 := by
  rw [pairCharacters, List.mem_flatMap]
  refine exists_congr fun pair => and_congr_right fun _ => ?_
  exact List.mem_pair

theorem even_length_pairCharacters (pairs : List (Char × Char)) :
    (pairCharacters pairs).length % 2 = 0 := by
  induction pairs with
  | nil => rfl
  | cons pair pairs inductionHypothesis =>
      show ((pairCharacters pairs).length + 2) % 2 = 0
      omega

theorem IsHex.exists_pairs {characters : List Char} (hex : IsHex characters) :
    ∃ pairs, characters = pairCharacters pairs ∧
      ∀ pair ∈ pairs, ReadsAsByte pair.1 pair.2 := by
  match characters with
  | [] => exact ⟨[], rfl, fun _ member => absurd member List.not_mem_nil⟩
  | [_] => exact absurd hex.1 Nat.one_ne_zero
  | c :: d :: rest =>
      obtain ⟨even, digits⟩ := hex
      have evenRest : rest.length % 2 = 0 := by
        rw [List.length_cons, List.length_cons] at even
        omega
      obtain ⟨first, digits⟩ := List.forall_mem_cons.mp digits
      obtain ⟨second, digits⟩ := List.forall_mem_cons.mp digits
      obtain ⟨pairs, rfl, allRead⟩ := IsHex.exists_pairs ⟨evenRest, digits⟩
      exact ⟨(c, d) :: pairs, rfl, List.forall_mem_cons.mpr ⟨⟨.inl first, second⟩, allRead⟩⟩

/-- **The codec reads back what it writes, and the reader answers and accepts hexadecimal digits
only, exactly if it does not misread the text.** -/
theorem hex_codec_sound_iff (bytes : List UInt8) (text : String) :
    hexToBytes (bytesToHex bytes) = some (.ok bytes) ∧
      (HexToBytesSound text ↔ ¬Misread text) := by
  refine ⟨hexToBytes_bytesToHex bytes, ⟨?_, fun wellRead => ?_⟩⟩
  · rintro ⟨outcome, answered, acceptsHex⟩ ⟨pairs, rest, shape, allRead, cuts | ⟨rfl, signed⟩⟩
    · cases answered.symm.trans ((hexToBytes_outcome shape allRead).2.1 cuts)
    · obtain ⟨bytes, accepted, -⟩ := (hexToBytes_outcome shape allRead).1 rfl
      have hex := acceptsHex.mp ⟨bytes, Option.some_inj.mp (answered.symm.trans accepted)⟩
      obtain ⟨pair, member, sign⟩ := signed
      have digit := hex.2 pair.1 (by
        rw [shape, List.append_nil]
        exact mem_pairCharacters.mpr ⟨pair, member, .inl rfl⟩)
      rw [sign] at digit
      cases digit
  · obtain ⟨pairs, rest, shape, allRead, rfl | cuts | refuses⟩ := exists_pairs text.toList
    · obtain ⟨bytes, accepted, -⟩ := (hexToBytes_outcome shape allRead).1 rfl
      refine ⟨.ok bytes, accepted, iff_of_true ⟨bytes, rfl⟩ ?_⟩
      rw [shape, List.append_nil]
      refine ⟨even_length_pairCharacters pairs, fun c member => ?_⟩
      obtain ⟨pair, among, rfl | rfl⟩ := mem_pairCharacters.mp member
      · refine (allRead pair among).1.resolve_right fun sign => ?_
        exact wellRead ⟨pairs, [], shape, allRead, .inr ⟨rfl, pair, among, sign⟩⟩
      · exact (allRead pair among).2
    · exact absurd ⟨pairs, rest, shape, allRead, .inl cuts⟩ wellRead
    · obtain ⟨error, refused⟩ := (hexToBytes_outcome shape allRead).2.2 refuses
      refine ⟨.error error, refused, iff_of_false (fun ⟨_, same⟩ => nomatch same) fun hex => ?_⟩
      obtain ⟨hexPairs, hexShape, hexRead⟩ := hex.exists_pairs
      rw [← List.append_nil (pairCharacters _)] at hexShape
      obtain ⟨bytes, accepted, -⟩ := (hexToBytes_outcome hexShape hexRead).1 rfl
      cases refused.symm.trans accepted

/-- One digit, a character of three bytes, and a digit with a sign. -/
theorem hexToBytes_misreads :
    hexToBytes "a" = none ∧ hexToBytes "中" = none ∧ hexToBytes "+5" = some (.ok [5]) ∧
      ¬HexToBytesSound "a" ∧ ¬HexToBytesSound "+5" := by
  have lone : hexToBytes "a" = none := by decide
  have signed : hexToBytes "+5" = some (.ok [5]) := by decide
  refine ⟨lone, by decide, signed, ?_, ?_⟩
  · rintro ⟨outcome, answered, -⟩
    cases answered.symm.trans lone
  · rintro ⟨outcome, answered, acceptsHex⟩
    have hex := acceptsHex.mp ⟨[5], Option.some_inj.mp (answered.symm.trans signed)⟩
    exact absurd (hex.2 '+' (by decide)) (by decide)

/-! ## Keys -/

/-- The number of bytes of a key. -/
def aes256KeyLen : Nat :=
  32

def parseEncryptionKeyHex (hex : String) : Option (Except FlareError (List UInt8)) :=
  (hexToBytes hex).map fun
    | .error error => .error (.protocolError ("invalid encryption key hex: " ++ error.text))
    | .ok bytes =>
        if bytes.length ≠ aes256KeyLen then
          .error (.protocolError ("encryption key hex must decode to 32 bytes, got " ++
            toString bytes.length))
        else .ok bytes

/-- **A key is accepted as it is written, exactly if it has the length of one.** -/
theorem parseEncryptionKeyHex_bytesToHex_iff (key : List UInt8) :
    parseEncryptionKeyHex (bytesToHex key) = some (.ok key) ↔ key.length = aes256KeyLen := by
  rw [parseEncryptionKeyHex, hexToBytes_bytesToHex, Option.map_some, Option.some_inj]
  dsimp only
  split
  · next wrong => exact iff_of_false (fun accepted => nomatch accepted) wrong
  · next right => exact iff_of_true rfl (not_not.mp right)

end FlareCore.Common

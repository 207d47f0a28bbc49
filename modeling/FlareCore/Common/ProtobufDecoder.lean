import FlareCore.Common.RoundTrip
import FlareCore.Foundations.IncrementalDecoding
import Mathlib.Data.List.TakeWhile

/-!
# Protobuf messages behind their lengths

`ProtobufDecoder` collects bytes and takes messages off their front, each behind its length as a
varint.  The length is read from the wire and may be any number of 64 bits.  It is added to the
number of bytes that the varint takes before it is compared with what has arrived, and near the
upper end of the range the sum does not fit: a build with overflow checks stops at the addition, and
without them the sum is a small number, and what is cut off does not even hold the varint
(`decode_next_panics_on_huge_length`).  `decode_next_safe_iff` says which ten bytes lead there, and
that nothing else does.

A stream of messages is never affected, and is decoded alike however it arrives
(`stream_decoded_however_cut`).
-/

namespace FlareCore.Common

open FlareCore.Foundations

set_option autoImplicit false

namespace ProtobufDecoder

/-! ## The decoder -/

/-- The loop of `read_varint`: the length and the number of bytes it takes, if it is complete. -/
def readVarintLoop : Nat → Bytes → UInt64 → Nat → Nat → Except String (Option (UInt64 × Nat))
  | 0, _, _, _, _ => .error "Varint too long"
  | _ + 1, [], _, _, _ => .ok none
  | rounds + 1, byte :: bytes, result, shift, position =>
      let result := result ||| ((byte &&& 0x7F).toUInt64 <<< UInt64.ofNat shift)
      if byte &&& 0x80 = 0 then .ok (some (result, position + 1))
      else readVarintLoop rounds bytes result (shift + 7) (position + 1)

/-- `read_varint`. -/
def readVarint (buffer : Bytes) : Except String (Option (UInt64 × Nat)) :=
  readVarintLoop 10 buffer 0 0 0

/-- The addition of two `usize` of 64 bits; a build with overflow checks panics when it does not
fit. -/
def addUsize (overflowChecks : Bool) (first second : UInt64) : Option UInt64 :=
  if overflowChecks && 2 ^ 64 ≤ first.toNat + second.toNat then none else some (first + second)

/-- How a call of `decode_next` ends. -/
inductive DecodeNext (T : Type) where
  | returned (result : Except String (Option T))
  | panicked
  deriving DecidableEq

/-- `decode_next`: the buffer afterwards, and how the call ends.  `decode` is the decoder of the
message type. -/
def decodeNext {T : Type} (overflowChecks : Bool) (decode : Bytes → Except String T)
    (buffer : Bytes) : Bytes × DecodeNext T :=
  match readVarint buffer with
  | .error error => (buffer, .returned (.error error))
  | .ok none => (buffer, .returned (.ok none))
  | .ok (some (messageLen, offset)) =>
      match addUsize overflowChecks (UInt64.ofNat offset) messageLen with
      | none => (buffer, .panicked)
      | some total =>
          if buffer.length < total.toNat then (buffer, .returned (.ok none))
          else
            -- `split_to`, then the slice behind the varint
            let messageData := buffer.take total.toNat
            let remaining := buffer.drop total.toNat
            if messageData.length < offset then (remaining, .panicked)
            else
              match decode (messageData.drop offset) with
              | .error error => (remaining, .returned (.error error))
              | .ok message => (remaining, .returned (.ok (some message)))

/-! ## Varints -/

/-- The number behind the bytes of a varint, without a bound. -/
def varintValue : Bytes → Nat
  | [] => 0
  | byte :: bytes => byte.toNat % 128 + 128 * varintValue bytes

theorem varintValue_lt (bytes : Bytes) : varintValue bytes < 128 ^ bytes.length := by
  induction bytes with
  | nil => decide
  | cons byte bytes inductionHypothesis =>
      rw [varintValue, List.length_cons, Nat.pow_succ]
      have digit := Nat.mod_lt byte.toNat (show 0 < 128 by decide)
      omega

theorem toNat_and_127 (byte : UInt8) : (byte &&& 0x7F).toNat = byte.toNat % 128 := by
  rw [UInt8.toNat_and]
  exact Nat.and_two_pow_sub_one_eq_mod byte.toNat 7

/-- The continuation bit. -/
theorem and_128_eq_zero_iff (byte : UInt8) : byte &&& 0x80 = 0 ↔ byte.toNat < 128 := by
  have all : ∀ value : Fin 256, UInt8.ofFin value &&& 0x80 = 0 ↔ value.val < 128 := by
    decide +kernel
  exact all byte.toFin

/-- Seven more bits. -/
theorem toNat_accumulate {result : UInt64} {shift : Nat} (small : result.toNat < 2 ^ shift)
    (bound : shift < 64) (byte : UInt8) :
    (result ||| ((byte &&& 0x7F).toUInt64 <<< UInt64.ofNat shift)).toNat =
      result.toNat + (byte.toNat % 128) * 2 ^ shift % 2 ^ 64 := by
  have shifted : ((byte &&& 0x7F).toUInt64 <<< UInt64.ofNat shift).toNat =
      (byte.toNat % 128) * 2 ^ shift % 2 ^ 64 := by
    rw [UInt64.toNat_shiftLeft, UInt8.toNat_toUInt64, toNat_and_127, UInt64.toNat_ofNat',
      Nat.mod_eq_of_lt (show shift < 2 ^ 64 by omega), Nat.mod_eq_of_lt bound, Nat.shiftLeft_eq]
  have multiple : ∃ high, (byte.toNat % 128) * 2 ^ shift % 2 ^ 64 = 2 ^ shift * high := by
    refine ⟨byte.toNat % 128 % 2 ^ (64 - shift), ?_⟩
    rw [← Nat.mul_mod_mul_left, ← Nat.pow_add, Nat.add_sub_cancel' (Nat.le_of_lt bound),
      Nat.mul_comm]
  obtain ⟨high, isHigh⟩ := multiple
  rw [UInt64.toNat_or, shifted, isHigh, Nat.or_comm, ← Nat.two_pow_add_eq_or_of_lt small,
    Nat.add_comm]

/-- Bytes with the continuation bit, and one without it. -/
structure IsVarint (bytes : Bytes) (last : UInt8) : Prop where
  continued : ∀ byte ∈ bytes, 128 ≤ byte.toNat
  ended : last.toNat < 128

/-- The loop reads a varint that is complete, whatever stands behind it. -/
theorem readVarintLoop_complete {bytes : Bytes} {last : UInt8} (isVarint : IsVarint bytes last)
    (tail : Bytes) {rounds read : Nat} {result : UInt64} (ten : rounds + read = 10)
    (short : bytes.length < rounds) (small : result.toNat < 2 ^ (7 * read)) (position : Nat) :
    readVarintLoop rounds (bytes ++ last :: tail) result (7 * read) position =
      .ok (some (UInt64.ofNat (result.toNat + varintValue (bytes ++ [last]) * 2 ^ (7 * read)),
        position + bytes.length + 1)) := by
  induction bytes generalizing rounds read position result with
  | nil =>
      obtain ⟨rounds, rfl⟩ : ∃ fewer, rounds = fewer + 1 := ⟨rounds - 1, by omega⟩
      have accumulated := toNat_accumulate small (show 7 * read < 64 by omega) last
      have bit : last &&& 0x80 = 0 := (and_128_eq_zero_iff last).mpr isVarint.ended
      simp only [List.nil_append, readVarintLoop, bit, if_true, List.length_nil, Nat.add_zero]
      congr 3
      apply UInt64.toNat_inj.mp
      have fits := UInt64.toNat_lt (result |||
        ((last &&& 0x7F).toUInt64 <<< UInt64.ofNat (7 * read)))
      rw [accumulated] at fits ⊢
      rw [UInt64.toNat_ofNat', varintValue, varintValue, Nat.mul_zero, Nat.add_zero,
        Nat.add_mod, Nat.mod_eq_of_lt result.toNat_lt, Nat.mod_eq_of_lt fits]
  | cons byte bytes inductionHypothesis =>
      obtain ⟨rounds, rfl⟩ : ∃ fewer, rounds = fewer + 1 := ⟨rounds - 1, by omega⟩
      rw [List.length_cons] at short
      have accumulated := toNat_accumulate small (show 7 * read < 64 by omega) byte
      have bit : ¬byte &&& 0x80 = 0 := by
        rw [and_128_eq_zero_iff]
        exact Nat.not_lt_of_le (isVarint.continued byte List.mem_cons_self)
      have digit : byte.toNat % 128 ≤ 127 := by omega
      have power : 2 ^ (7 * (read + 1)) = 128 * 2 ^ (7 * read) := by
        rw [Nat.mul_add, Nat.pow_add, Nat.mul_comm]
      have bound : 2 ^ (7 * (read + 1)) ≤ 2 ^ 63 := Nat.pow_le_pow_right (by decide) (by omega)
      have product : byte.toNat % 128 * 2 ^ (7 * read) ≤ 127 * 2 ^ (7 * read) :=
        Nat.mul_le_mul_right _ digit
      have unwrapped : byte.toNat % 128 * 2 ^ (7 * read) % 2 ^ 64 =
          byte.toNat % 128 * 2 ^ (7 * read) := Nat.mod_eq_of_lt (by omega)
      rw [unwrapped] at accumulated
      have others : IsVarint bytes last :=
        ⟨fun other member => isVarint.continued other (.tail byte member), isVarint.ended⟩
      have later := inductionHypothesis others (show rounds + (read + 1) = 10 by omega)
        (Nat.lt_of_succ_lt_succ short)
        (show (result ||| ((byte &&& 0x7F).toUInt64 <<< UInt64.ofNat (7 * read))).toNat <
          2 ^ (7 * (read + 1)) by omega) (position + 1)
      simp only [List.cons_append, readVarintLoop, bit, if_false]
      rw [← Nat.mul_succ, later, accumulated, List.length_cons, varintValue, power]
      congr 4
      · rw [Nat.add_mul, Nat.add_assoc, Nat.mul_comm 128 (varintValue _), Nat.mul_assoc]
      · omega

/-- Bytes that all continue end inside a varint. -/
theorem readVarintLoop_incomplete {bytes : Bytes} (continued : ∀ byte ∈ bytes, 128 ≤ byte.toNat)
    {rounds shift position : Nat} {result : UInt64} (short : bytes.length < rounds) :
    readVarintLoop rounds bytes result shift position = .ok none := by
  induction bytes generalizing rounds shift position result with
  | nil =>
      cases rounds with
      | zero => cases short
      | succ rounds => rfl
  | cons byte bytes inductionHypothesis =>
      cases rounds with
      | zero => cases short
      | succ rounds =>
          have bit : ¬byte &&& 0x80 = 0 := by
            rw [and_128_eq_zero_iff]
            exact Nat.not_lt_of_le (continued byte List.mem_cons_self)
          simp only [readVarintLoop, bit, if_false]
          exact inductionHypothesis (fun other member => continued other (.tail byte member))
            (Nat.lt_of_succ_lt_succ short)

/-- Nothing is read behind the last round. -/
theorem readVarintLoop_tooLong {bytes : Bytes} (continued : ∀ byte ∈ bytes, 128 ≤ byte.toNat)
    (tail : Bytes) (result : UInt64) (shift position : Nat) :
    readVarintLoop bytes.length (bytes ++ tail) result shift position =
      .error "Varint too long" := by
  induction bytes generalizing shift position result with
  | nil => rfl
  | cons byte bytes inductionHypothesis =>
      have bit : ¬byte &&& 0x80 = 0 := by
        rw [and_128_eq_zero_iff]
        exact Nat.not_lt_of_le (continued byte List.mem_cons_self)
      simp only [List.length_cons, List.cons_append, readVarintLoop, bit, if_false]
      exact inductionHypothesis (fun other member => continued other (.tail byte member)) _ _ _

theorem readVarint_complete {bytes : Bytes} {last : UInt8} (isVarint : IsVarint bytes last)
    (short : bytes.length < 10) (tail : Bytes) :
    readVarint (bytes ++ last :: tail) =
      .ok (some (UInt64.ofNat (varintValue (bytes ++ [last])), bytes.length + 1)) := by
  have read := readVarintLoop_complete isVarint tail (show 10 + 0 = 10 from rfl) short
    (show (0 : UInt64).toNat < 2 ^ (7 * 0) by decide) 0
  rw [readVarint]
  refine read.trans ?_
  simp

/-- **What `read_varint` says of a buffer**: a varint of at most ten bytes is complete, or the
buffer ends inside one, or the tenth byte continues. -/
theorem readVarint_cases (buffer : Bytes) :
    (∃ bytes last tail, buffer = bytes ++ last :: tail ∧ IsVarint bytes last ∧ bytes.length < 10 ∧
      readVarint buffer =
        .ok (some (UInt64.ofNat (varintValue (bytes ++ [last])), bytes.length + 1))) ∨
    readVarint buffer = .ok none ∨ readVarint buffer = .error "Varint too long" := by
  let continues : UInt8 → Bool := fun byte => 128 ≤ byte.toNat
  have continued : ∀ byte ∈ buffer.takeWhile continues, 128 ≤ byte.toNat := by
    intro byte member
    have holds : continues byte = true := List.mem_takeWhile_imp member
    exact of_decide_eq_true holds
  have split : buffer.takeWhile continues ++ buffer.dropWhile continues = buffer :=
    List.takeWhile_append_dropWhile
  by_cases short : (buffer.takeWhile continues).length < 10
  · cases rest : buffer.dropWhile continues with
    | nil =>
        rw [rest, List.append_nil] at split
        rw [split] at continued short
        exact .inr (.inl (readVarintLoop_incomplete continued short))
    | cons last tail =>
        have ended : last.toNat < 128 := by
          have stops := List.head?_dropWhile_not continues buffer
          rw [rest] at stops
          simpa [continues] using stops
        rw [rest] at split
        refine .inl ⟨_, last, tail, split.symm, ⟨continued, ended⟩, short, ?_⟩
        rw [← readVarint_complete ⟨continued, ended⟩ short tail, split]
  · refine .inr (.inr ?_)
    have ten : ((buffer.takeWhile continues).take 10).length = 10 := by
      rw [List.length_take]
      omega
    have first : ∀ byte ∈ (buffer.takeWhile continues).take 10, 128 ≤ byte.toNat :=
      fun byte member => continued byte (List.mem_of_mem_take member)
    have long := readVarintLoop_tooLong first
      ((buffer.takeWhile continues).drop 10 ++ buffer.dropWhile continues) 0 0 0
    rw [ten, ← List.append_assoc, List.take_append_drop, split] at long
    exact long

/-! ## One request -/

section Request

variable {T : Type} {overflowChecks : Bool} {decode : Bytes → Except String T} {buffer : Bytes}
  {messageLen : UInt64} {offset : Nat}

/-- A length that can be added to the offset is compared with what has arrived. -/
theorem decodeNext_of_fits (overflowChecks : Bool) (decode : Bytes → Except String T)
    (read : readVarint buffer = .ok (some (messageLen, offset)))
    (fits : offset + messageLen.toNat < 2 ^ 64) :
    decodeNext overflowChecks decode buffer =
      if buffer.length < offset + messageLen.toNat then (buffer, .returned (.ok none))
      else (buffer.drop (offset + messageLen.toNat),
        .returned ((decode ((buffer.drop offset).take messageLen.toNat)).map some)) := by
  have ofNat : (UInt64.ofNat offset).toNat = offset := by
    rw [UInt64.toNat_ofNat', Nat.mod_eq_of_lt (by omega)]
  have total : (UInt64.ofNat offset + messageLen).toNat = offset + messageLen.toNat := by
    rw [UInt64.toNat_add, ofNat, Nat.mod_eq_of_lt fits]
  have added : addUsize overflowChecks (UInt64.ofNat offset) messageLen =
      some (UInt64.ofNat offset + messageLen) := by
    rw [addUsize, ofNat, decide_eq_false (Nat.not_le_of_lt fits), Bool.and_false]
    rfl
  simp only [decodeNext, read, added, total]
  by_cases waiting : buffer.length < offset + messageLen.toNat
  · rw [if_pos waiting, if_pos waiting]
  · have long : ¬(buffer.take (offset + messageLen.toNat)).length < offset := by
      rw [List.length_take]
      omega
    have body : (buffer.take (offset + messageLen.toNat)).drop offset =
        (buffer.drop offset).take messageLen.toNat := by
      rw [List.drop_take, Nat.add_sub_cancel_left]
    rw [if_neg waiting, if_neg waiting, if_neg long, body]
    cases decode ((buffer.drop offset).take messageLen.toNat) <;> rfl

/-- The same with the place of the length in the buffer. -/
theorem decodeNext_of_complete (overflowChecks : Bool) (decode : Bytes → Except String T)
    {bytes : Bytes} {last : UInt8} (isVarint : IsVarint bytes last) (short : bytes.length < 10)
    (fits : bytes.length + 1 + (UInt64.ofNat (varintValue (bytes ++ [last]))).toNat < 2 ^ 64)
    (tail : Bytes) :
    decodeNext overflowChecks decode (bytes ++ last :: tail) =
      if tail.length < (UInt64.ofNat (varintValue (bytes ++ [last]))).toNat then
        (bytes ++ last :: tail, .returned (.ok none))
      else (tail.drop (UInt64.ofNat (varintValue (bytes ++ [last]))).toNat,
        .returned ((decode (tail.take (UInt64.ofNat (varintValue (bytes ++ [last]))).toNat)).map
          some)) := by
  have answered := decodeNext_of_fits overflowChecks decode
    (readVarint_complete isVarint short tail) fits
  generalize (UInt64.ofNat (varintValue (bytes ++ [last]))).toNat = length at answered ⊢
  have behind : ∀ count, (bytes ++ last :: tail).drop (bytes.length + 1 + count) =
      tail.drop count := by
    intro count
    rw [Nat.add_assoc, List.drop_length_add_append, Nat.add_comm, List.drop_succ_cons]
  have waits : (bytes ++ last :: tail).length < bytes.length + 1 + length ↔
      tail.length < length := by
    rw [List.length_append, List.length_cons]
    omega
  have body : (bytes ++ last :: tail).drop (bytes.length + 1) = tail := behind 0
  rw [answered, behind, body]
  exact if_congr waits rfl rfl

/-- A part of a length is left where it is. -/
theorem decodeNext_of_incomplete (overflowChecks : Bool) (decode : Bytes → Except String T)
    (continued : ∀ byte ∈ buffer, 128 ≤ byte.toNat) (short : buffer.length < 10) :
    decodeNext overflowChecks decode buffer = (buffer, .returned (.ok none)) := by
  have read : readVarint buffer = .ok none := readVarintLoop_incomplete continued short
  simp only [decodeNext, read]

/-- A length that cannot be added to the offset ends in a panic, of the addition or of the slice. -/
theorem decodeNext_of_overflow (read : readVarint buffer = .ok (some (messageLen, offset)))
    (bound : offset ≤ buffer.length) (small : offset < 2 ^ 64)
    (overflows : 2 ^ 64 ≤ offset + messageLen.toNat) :
    (decodeNext overflowChecks decode buffer).2 = .panicked := by
  have ofNat : (UInt64.ofNat offset).toNat = offset := by
    rw [UInt64.toNat_ofNat', Nat.mod_eq_of_lt small]
  have wrapped : (UInt64.ofNat offset + messageLen).toNat < offset := by
    rw [UInt64.toNat_add, ofNat]
    have top := messageLen.toNat_lt
    omega
  cases overflowChecks with
  | true =>
      have added : addUsize true (UInt64.ofNat offset) messageLen = none := by
        rw [addUsize, ofNat, decide_eq_true overflows]
        rfl
      simp only [decodeNext, read, added]
  | false =>
      have added : addUsize false (UInt64.ofNat offset) messageLen =
          some (UInt64.ofNat offset + messageLen) := rfl
      have enough : ¬buffer.length < (UInt64.ofNat offset + messageLen).toNat := by omega
      have short : (buffer.take (UInt64.ofNat offset + messageLen).toNat).length < offset := by
        rw [List.length_take]
        omega
      simp only [decodeNext, read, added, if_neg enough, if_pos short]

end Request

/-! ## Which lengths do not fit -/

theorem varintValue_append (first second : Bytes) :
    varintValue (first ++ second) =
      varintValue first + 128 ^ first.length * varintValue second := by
  induction first with
  | nil => simp [varintValue]
  | cons byte first inductionHypothesis =>
      rw [List.cons_append, varintValue, varintValue, inductionHypothesis, List.length_cons,
        Nat.pow_succ, Nat.mul_add, Nat.mul_comm (128 ^ first.length) 128, Nat.mul_assoc,
        Nat.add_assoc]

/-- Only bytes with all bits set reach the highest value. -/
theorem varintValue_eq_max_iff {bytes : Bytes} (continued : ∀ byte ∈ bytes, 128 ≤ byte.toNat) :
    varintValue bytes + 1 = 128 ^ bytes.length ↔ bytes = List.replicate bytes.length 0xFF := by
  induction bytes with
  | nil => exact iff_of_true rfl rfl
  | cons byte bytes inductionHypothesis =>
      have bit := continued byte List.mem_cons_self
      have others := inductionHypothesis fun other member => continued other (.tail byte member)
      have bound := varintValue_lt bytes
      have top := byte.toNat_lt
      have isFull : byte = 0xFF ↔ byte.toNat = 255 := UInt8.toNat_inj.symm
      rw [varintValue, List.length_cons, Nat.pow_succ, List.replicate_succ, List.cons.injEq,
        isFull, ← others]
      omega

/-- The ten bytes that stand for a length which cannot be added to their number: the lowest seven
bits are ten less than the highest value or more, and all the others are set. -/
def StartsWithHugeLength (buffer : Bytes) : Prop :=
  ∃ first last tail, buffer = first :: (List.replicate 8 0xFF ++ last :: tail) ∧
    0xF6 ≤ first.toNat ∧ last.toNat < 128 ∧ last.toNat % 2 = 1

theorem isVarint_huge {first last : UInt8} (high : 0xF6 ≤ first.toNat) (ended : last.toNat < 128) :
    IsVarint (first :: List.replicate 8 0xFF) last := by
  refine ⟨fun byte member => ?_, ended⟩
  rcases List.mem_cons.mp member with rfl | member
  · exact Nat.le_trans (by decide) high
  · rw [List.eq_of_mem_replicate member]
    decide

/-- Of the tenth byte only one bit is left. -/
theorem varintValue_ten (first last : UInt8) {eight : Bytes} (length : eight.length = 8) :
    varintValue (first :: eight ++ [last]) % 2 ^ 64 =
      first.toNat % 128 + 128 * varintValue eight + 2 ^ 63 * (last.toNat % 2) := by
  have bound := varintValue_lt eight
  rw [List.cons_append, varintValue, varintValue_append, varintValue, varintValue, length]
  rw [length] at bound
  omega

/-- A length is too large exactly for these bytes. -/
theorem overflows_iff {bytes tail : Bytes} {last : UInt8} (isVarint : IsVarint bytes last)
    (short : bytes.length < 10) :
    2 ^ 64 ≤ bytes.length + 1 + (UInt64.ofNat (varintValue (bytes ++ [last]))).toNat ↔
      StartsWithHugeLength (bytes ++ last :: tail) := by
  constructor
  · intro overflows
    rw [UInt64.toNat_ofNat'] at overflows
    have nine : bytes.length = 9 := by
      by_contra fewer
      have bound := varintValue_lt (bytes ++ [last])
      have power : 128 ^ (bytes ++ [last]).length ≤ 128 ^ 9 := by
        refine Nat.pow_le_pow_right (by decide) ?_
        rw [List.length_append, List.length_singleton]
        omega
      omega
    obtain ⟨first, eight, rfl⟩ := List.exists_cons_of_length_eq_add_one nine
    have length : eight.length = 8 := Nat.succ.inj nine
    have others : ∀ byte ∈ eight, 128 ≤ byte.toNat :=
      fun byte member => isVarint.continued byte (.tail first member)
    have bit := isVarint.continued first List.mem_cons_self
    have full := varintValue_eq_max_iff others
    have bound := varintValue_lt eight
    rw [varintValue_ten first last length, nine] at overflows
    rw [length] at full bound
    refine ⟨first, last, tail, ?_, ?_, isVarint.ended, ?_⟩
    · rw [List.cons_append, ← full.mp (by omega)]
    · show 246 ≤ first.toNat
      omega
    · omega
  · rintro ⟨first, low, rest, same, high, ended, odd⟩
    -- the buffer is read in one way only
    have read := readVarint_complete (isVarint_huge high ended) (show 9 < 10 by decide) rest
    rw [List.cons_append, ← same, readVarint_complete isVarint short tail] at read
    obtain ⟨value, length⟩ := Prod.mk.inj (Option.some.inj (Except.ok.inj read))
    have full : varintValue (List.replicate 8 0xFF) + 1 = 128 ^ 8 := by decide
    rw [value, length, UInt64.toNat_ofNat',
      varintValue_ten first low List.length_replicate]
    rw [List.length_cons, List.length_replicate]
    change 246 ≤ first.toNat at high
    have top := first.toNat_lt
    omega

/-! ## No request goes wrong, but for these bytes -/

/-- A length of 64 bits as a varint. -/
def IsLength (length : Nat) (varint : Bytes) : Prop :=
  ∃ bytes last, varint = bytes ++ [last] ∧ IsVarint bytes last ∧ varint.length ≤ 10 ∧
    length = varintValue varint % 2 ^ 64

/-- A request that goes well: it returns, the length that it reads can be added to the offset, and
it takes a whole message behind its length off the buffer, or nothing. -/
structure GoesWell {T : Type} (overflowChecks : Bool) (decode : Bytes → Except String T)
    (buffer : Bytes) : Prop where
  returns : ∃ result, (decodeNext overflowChecks decode buffer).2 = .returned result
  adds : ∀ messageLen offset, readVarint buffer = .ok (some (messageLen, offset)) →
    offset + messageLen.toNat < 2 ^ 64
  consumes : (decodeNext overflowChecks decode buffer).1 = buffer ∨
    ∃ varint message, IsLength message.length varint ∧
      buffer = varint ++ message ++ (decodeNext overflowChecks decode buffer).1

section GoesWell

variable {T : Type} (overflowChecks : Bool) (decode : Bytes → Except String T)

/-- A length that has not arrived, or has no end, leaves the buffer as it is. -/
theorem goesWell_of_unread {buffer : Bytes}
    (unread : ∀ found, readVarint buffer ≠ .ok (some found)) :
    GoesWell overflowChecks decode buffer := by
  have answered : ∃ result,
      decodeNext overflowChecks decode buffer = (buffer, .returned result) := by
    cases read : readVarint buffer with
    | error error => exact ⟨.error error, by simp only [decodeNext, read]⟩
    | ok found =>
        cases found with
        | none => exact ⟨.ok none, by simp only [decodeNext, read]⟩
        | some found => exact absurd read (unread found)
  obtain ⟨result, answered⟩ := answered
  refine ⟨⟨result, ?_⟩, fun messageLen offset read => absurd read (unread _), .inl ?_⟩
  · rw [answered]
  · rw [answered]

theorem goesWell_of_fits {bytes tail : Bytes} {last : UInt8} (isVarint : IsVarint bytes last)
    (short : bytes.length < 10)
    (fits : bytes.length + 1 + (UInt64.ofNat (varintValue (bytes ++ [last]))).toNat < 2 ^ 64) :
    GoesWell overflowChecks decode (bytes ++ last :: tail) := by
  have read := readVarint_complete isVarint short tail
  have adds : ∀ messageLen offset,
      readVarint (bytes ++ last :: tail) = .ok (some (messageLen, offset)) →
        offset + messageLen.toNat < 2 ^ 64 := by
    intro messageLen offset other
    obtain ⟨rfl, rfl⟩ := Prod.mk.inj (Option.some.inj (Except.ok.inj (read.symm.trans other)))
    exact fits
  have answered := decodeNext_of_complete overflowChecks decode isVarint short fits tail
  generalize size : (UInt64.ofNat (varintValue (bytes ++ [last]))).toNat = length at answered
  by_cases waiting : tail.length < length
  · rw [if_pos waiting] at answered
    refine ⟨⟨.ok none, ?_⟩, adds, .inl ?_⟩
    · rw [answered]
    · rw [answered]
  · rw [if_neg waiting] at answered
    refine ⟨⟨_, congrArg Prod.snd answered⟩, adds, .inr ⟨bytes ++ [last], tail.take length, ?_, ?_⟩⟩
    · refine ⟨bytes, last, rfl, isVarint, ?_, ?_⟩
      · rw [List.length_append, List.length_singleton]
        omega
      · rw [← UInt64.toNat_ofNat', size, List.length_take, Nat.min_eq_left]
        omega
    · rw [answered, List.append_assoc, List.take_append_drop, List.append_assoc]
      rfl

/-- A request goes well or panics, and it panics for these bytes. -/
theorem goesWell_or_panicked (buffer : Bytes) :
    GoesWell overflowChecks decode buffer ∧ ¬StartsWithHugeLength buffer ∨
      (decodeNext overflowChecks decode buffer).2 = .panicked ∧ StartsWithHugeLength buffer := by
  rcases readVarint_cases buffer with
    ⟨bytes, last, tail, rfl, isVarint, short, read⟩ | unread
  · rw [← overflows_iff isVarint short]
    by_cases overflows :
        2 ^ 64 ≤ bytes.length + 1 + (UInt64.ofNat (varintValue (bytes ++ [last]))).toNat
    · refine .inr ⟨decodeNext_of_overflow read ?_ (by omega) overflows, overflows⟩
      rw [List.length_append, List.length_cons]
      omega
    · have fits := Nat.lt_of_not_le overflows
      exact .inl ⟨goesWell_of_fits overflowChecks decode isVarint short fits, overflows⟩
  · have unread : ∀ found, readVarint buffer ≠ .ok (some found) := by
      intro found read
      rcases unread with other | other <;> cases read.symm.trans other
    refine .inl ⟨goesWell_of_unread overflowChecks decode unread, ?_⟩
    rintro ⟨first, last, tail, rfl, high, ended, -⟩
    exact unread _ (readVarint_complete (isVarint_huge high ended) (show 9 < 10 by decide) tail)

end GoesWell

/-- **A request goes well exactly if the buffer does not start with one of these lengths.** -/
theorem decode_next_safe_iff {T : Type} (overflowChecks : Bool)
    (decode : Bytes → Except String T) (buffer : Bytes) :
    GoesWell overflowChecks decode buffer ↔ ¬StartsWithHugeLength buffer := by
  rcases goesWell_or_panicked overflowChecks decode buffer with ⟨well, fits⟩ | ⟨panicked, huge⟩
  · exact iff_of_true well fits
  · refine iff_of_false (fun well => ?_) (fun not => not huge)
    obtain ⟨result, returned⟩ := well.returns
    rw [panicked] at returned
    cases returned

/-- **Nine bytes with all bits set, and a one**: the length is the highest number of 64 bits, and
the decoder panics with overflow checks and without. -/
theorem decode_next_panics_on_huge_length :
    (decodeNext true (T := Bytes) .ok (List.replicate 9 0xFF ++ [0x01])).2 = .panicked ∧
      (decodeNext false (T := Bytes) .ok (List.replicate 9 0xFF ++ [0x01])).2 = .panicked := by
  decide +kernel

/-! ## Streams of messages -/

/-- A number below 128 ends a varint. -/
theorem varintValue_singleton {value : Nat} (small : value < 128) :
    IsVarint [] (UInt8.ofNat value) ∧ varintValue [UInt8.ofNat value] = value := by
  have toNat : (UInt8.ofNat value).toNat = value := by
    rw [UInt8.toNat_ofNat', Nat.mod_eq_of_lt (by omega)]
  refine ⟨⟨fun byte member => absurd member List.not_mem_nil, ?_⟩, ?_⟩
  · rw [toNat]
    exact small
  · rw [varintValue, varintValue, toNat, Nat.mod_eq_of_lt small, Nat.mul_zero, Nat.add_zero]

/-- What `encode_varint` writes is a varint, and stands for the number. -/
theorem exists_of_varintWithin (fuel : Nat) {value : Nat} (fits : value < 128 ^ (fuel + 1)) :
    ∃ bytes last, varintWithin (fuel + 1) value = bytes ++ [last] ∧ IsVarint bytes last ∧
      bytes.length ≤ fuel ∧ varintValue (bytes ++ [last]) = value := by
  induction fuel generalizing value with
  | zero =>
      have single := varintValue_singleton (show value < 128 by omega)
      refine ⟨[], UInt8.ofNat value, ?_, single.1, Nat.le_refl 0, single.2⟩
      rw [varintWithin, if_pos (by omega)]
      rfl
  | succ fuel inductionHypothesis =>
      by_cases small : value < 128
      · have single := varintValue_singleton small
        refine ⟨[], UInt8.ofNat value, ?_, single.1, Nat.zero_le _, single.2⟩
        rw [varintWithin, if_pos small]
        rfl
      · have rest : value / 128 < 128 ^ (fuel + 1) := by
          apply Nat.div_lt_of_lt_mul
          rw [Nat.mul_comm, ← Nat.pow_succ]
          exact fits
        obtain ⟨bytes, last, written, isVarint, short, stands⟩ := inductionHypothesis rest
        have toNat : (UInt8.ofNat (value % 128 + 128)).toNat = value % 128 + 128 := by
          rw [UInt8.toNat_ofNat', Nat.mod_eq_of_lt (by omega)]
        refine ⟨UInt8.ofNat (value % 128 + 128) :: bytes, last, ?_, ⟨?_, isVarint.ended⟩,
          Nat.succ_le_succ short, ?_⟩
        · rw [varintWithin, if_neg small, written, List.cons_append]
        · intro byte member
          rcases List.mem_cons.mp member with rfl | member
          · rw [toNat]
            omega
          · exact isVarint.continued byte member
        · rw [List.cons_append, varintValue, stands, toNat]
          omega

/-- A message behind its length. -/
def lengthPrefixed {T : Type} (encode : T → Bytes) (message : T) : Bytes :=
  varint (encode message).length ++ encode message

section Stream

variable {T : Type} {encode : T → Bytes} {decode : Bytes → Except String T}

/-- **One request recognises one message.** -/
theorem recognises (overflowChecks : Bool) {message : T}
    (inverts : decode (encode message) = .ok message) (size : (encode message).length < 2 ^ 63) :
    Recognises (decodeNext overflowChecks decode) (fun message => .returned (.ok (some message)))
      (.returned (.ok none)) (lengthPrefixed encode) message := by
  obtain ⟨bytes, last, written, isVarint, short, stands⟩ :=
    exists_of_varintWithin 9 (show (encode message).length < 128 ^ (9 + 1) by omega)
  have length : (UInt64.ofNat (varintValue (bytes ++ [last]))).toNat = (encode message).length := by
    rw [stands, UInt64.toNat_ofNat', Nat.mod_eq_of_lt (by omega)]
  have stream : ∀ tail, lengthPrefixed encode message ++ tail =
      bytes ++ last :: (encode message ++ tail) := by
    intro tail
    rw [lengthPrefixed, varint, written, List.append_assoc, List.append_assoc]
    rfl
  have answered := decodeNext_of_complete overflowChecks decode isVarint (by omega) (by omega)
  rw [length] at answered
  constructor
  · intro tail
    have arrived : ¬(encode message ++ tail).length < (encode message).length := by
      rw [List.length_append]
      omega
    rw [stream, answered, if_neg arrived, List.drop_left, List.take_left, inverts]
    rfl
  · rintro part ⟨missed, whole⟩ proper
    have isWhole := stream []
    rw [List.append_nil, List.append_nil] at isWhole
    rw [isWhole] at whole
    rcases List.append_eq_append_iff.mp whole with ⟨rest, isVarintPart, -⟩ | ⟨rest, isPart, isRest⟩
    · refine decodeNext_of_incomplete overflowChecks decode ?_ ?_
      · intro byte member
        apply isVarint.continued
        rw [isVarintPart]
        exact List.mem_append_left rest member
      · rw [isVarintPart, List.length_append] at short
        omega
    · cases rest with
      | nil =>
          rw [isPart, List.append_nil]
          exact decodeNext_of_incomplete overflowChecks decode isVarint.continued (by omega)
      | cons other piece =>
          obtain ⟨rfl, isMessage⟩ : last = other ∧ encode message = piece ++ missed :=
            List.cons.inj isRest
          have more : missed ≠ [] := by
            rintro rfl
            rw [List.append_nil] at whole
            exact proper (whole.trans isWhole.symm)
          have waiting : piece.length < (encode message).length := by
            rw [isMessage, List.length_append]
            have := List.length_pos_of_ne_nil more
            omega
          rw [isPart, answered, if_pos waiting]

/-- How a request is answered that takes a message off. -/
def DecodeNext.message : DecodeNext T → Option T
  | .returned (.ok message) => message
  | _ => none

theorem length_le_of_lengthPrefixed (encode : T → Bytes) (messages : List T) :
    messages.length ≤ (messages.flatMap (lengthPrefixed encode)).length := by
  induction messages with
  | nil => exact Nat.le_refl 0
  | cons message messages inductionHypothesis =>
      have some : 0 < (lengthPrefixed encode message).length := by
        apply List.length_pos_of_ne_nil
        intro isEmpty
        exact varint_ne_nil _ (List.append_eq_nil_iff.mp isEmpty).1
      rw [List.flatMap_cons, List.length_append, List.length_cons]
      omega

/-- **However a stream of messages is cut**, and whenever the decoder is asked while it arrives:
asking until there is no message any more, which takes no more requests than bytes are left and one,
leaves nothing behind, and all the answers together report the messages in order. -/
theorem stream_decoded_however_cut (overflowChecks : Bool) (messages : List T)
    (inverts : ∀ message ∈ messages, decode (encode message) = .ok message)
    (size : ∀ message ∈ messages, (encode message).length < 2 ^ 63) (feed : List (Feed UInt8))
    (stream : Feed.added feed = messages.flatMap (lengthPrefixed encode)) :
    let fed := Feed.run (decodeNext overflowChecks decode) feed []
    ∀ fuel, fed.1.length < fuel →
      let drained := drain (decodeNext overflowChecks decode) DecodeNext.message fuel fed.1
      drained.1 = [] ∧ drained.2.getLast? = some (.returned (.ok none)) ∧
        Reports (fun message => .returned (.ok (some message))) (.returned (.ok none))
          (fed.2 ++ drained.2) messages := by
  intro fed fuel enough drained
  have recognised := fun message member =>
    recognises overflowChecks (inverts message member) (size message member)
  have atEnd : decodeNext overflowChecks decode [] = ([], .returned (.ok none)) := rfl
  obtain ⟨taken, left, rfl, reports, kept⟩ := Feed.run_eq atEnd recognised feed [] stream
  have few : left.length < fuel := by
    have bytes := length_le_of_lengthPrefixed encode left
    rw [← kept] at bytes
    exact Nat.lt_of_le_of_lt bytes enough
  have isMessage : ∀ message : T,
      DecodeNext.message (.returned (.ok (some message))) = some message := fun _ => rfl
  have drains := drain_eq atEnd isMessage rfl
    (fun message member => recognised message (List.mem_append_right taken member)) few
  have isDrained : drained = ([], left.map (fun message => .returned (.ok (some message))) ++
      [.returned (.ok none)]) := by
    rw [← drains, ← kept]
  rw [isDrained]
  refine ⟨rfl, List.getLast?_concat, reports.append ?_⟩
  exact Reports.map_append_missing left

/-- Three messages, the second of them empty; the decoder is asked within the first length. -/
theorem stream_decoded_cut_in_three :
    let feed : List (Feed UInt8) :=
      [.add ((varint 130).take 1), .ask, .add ((varint 130).drop 1 ++ List.replicate 130 7),
        .add [0, 1], .ask, .ask, .add [9]]
    let fed := Feed.run (decodeNext true (T := Bytes) .ok) feed []
    let drained := drain (decodeNext true .ok) DecodeNext.message 3 fed.1
    drained.1 = [] ∧ drained.2.getLast? = some (.returned (.ok none)) ∧
      Reports (fun message => .returned (.ok (some message))) (.returned (.ok none))
        (fed.2 ++ drained.2) [List.replicate 130 7, [], [9]] := by
  intro feed fed
  refine @stream_decoded_however_cut Bytes id .ok true [List.replicate 130 7, [], [9]]
    (fun _ _ => rfl) ?_ feed (by decide +kernel) 3 (by decide +kernel)
  decide +kernel

end Stream

end ProtobufDecoder

end FlareCore.Common

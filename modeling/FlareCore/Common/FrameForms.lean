import FlareCore.Common.FrameOutline

/-!
# What a short frame looks like

A key below 128 is one byte, and what follows it is read accordingly (`Frame.Front`).

A frame whose encoding is short begins with a command, a message id or a number, each behind one
byte for its key and one for its length, if it has one.  A negative number takes ten bytes, and none
of them begins a field (`NegativeAt.readKey_drop`), nor is it part of a text
(`NegativeAt.not_text`).  So where a negative number stands in a short frame decides how the frame
is read from another place than its beginning; `Frame.negativeForm` lists these places.
-/

namespace FlareCore.Common

open FlareCore.Foundations

set_option autoImplicit false

/-! ## The front of the data -/

theorem decodeVarint_cons {byte : UInt8} (low : byte.toNat < 128) (rest : Bytes) :
    decodeVarint (byte :: rest) = some (byte.toNat, rest) := by
  rw [decodeVarint, readVarint, if_pos low]
  exact Option.filter_some_pos (decide_eq_true (by omega))

theorem readKey_cons {byte : UInt8} (low : byte.toNat < 128) (rest : Bytes) :
    readKey (byte :: rest) = if byte.toNat % 8 ≤ 5 ∧ 1 ≤ byte.toNat / 8 then
      some (byte.toNat / 8, byte.toNat % 8, rest) else none := by
  rw [readKey, decodeVarint_cons low, Option.bind_some]
  have small : byte.toNat < 2 ^ 32 := by omega
  simp only [small, true_and]

theorem takeSlice_cons {byte : UInt8} (low : byte.toNat < 128) (rest : Bytes) :
    takeSlice (byte :: rest) = if byte.toNat ≤ rest.length then
      some (rest.take byte.toNat, rest.drop byte.toNat) else none := by
  rw [takeSlice, decodeVarint_cons low, Option.bind_some]

/-- A slice is not longer than what follows its length. -/
theorem takeSlice_cons_eq_some {byte : UInt8} (low : byte.toNat < 128) {data body rest : Bytes}
    (taken : takeSlice (byte :: data) = some (body, rest)) :
    byte.toNat ≤ data.length ∧ body = data.take byte.toNat ∧ rest = data.drop byte.toNat := by
  rw [takeSlice_cons low] at taken
  obtain ⟨fits, same⟩ := Option.ite_none_right_eq_some.mp taken
  obtain ⟨rfl, rfl⟩ := Prod.mk.inj (Option.some.inj same)
  exact ⟨fits, rfl, rfl⟩

/-! ## Negative numbers -/

/-- The ten bytes of a negative number. -/
def IsNegative (bytes : Bytes) : Prop :=
  ∃ high : Bytes, high.length = 5 ∧ (∀ byte ∈ high, 128 ≤ byte.toNat) ∧
    bytes = high ++ [0xFF, 0xFF, 0xFF, 0xFF, 0x01]

theorem IsNegative.length {bytes : Bytes} (negative : IsNegative bytes) : bytes.length = 10 := by
  obtain ⟨high, five, -, rfl⟩ := negative
  rw [List.length_append, five]
  rfl

theorem varintWithin_add {count rounds value : Nat} (large : 128 ^ count ≤ value) :
    ∃ high : Bytes, high.length = count ∧ (∀ byte ∈ high, 128 ≤ byte.toNat) ∧
      varintWithin (count + rounds) value =
        high ++ varintWithin rounds (value / 128 ^ count) := by
  induction count generalizing value with
  | zero =>
      refine ⟨[], rfl, fun byte member => absurd member List.not_mem_nil, ?_⟩
      rw [Nat.zero_add, Nat.pow_zero, Nat.div_one]
      rfl
  | succ count inductionHypothesis =>
      rw [Nat.pow_succ] at large
      have divided : 128 ^ count ≤ value / 128 := (Nat.le_div_iff_mul_le (by decide)).mpr large
      obtain ⟨high, length, continued, split⟩ := inductionHypothesis divided
      refine ⟨UInt8.ofNat (value % 128 + 128) :: high, by rw [List.length_cons, length], ?_, ?_⟩
      · intro byte member
        obtain rfl | member := List.mem_cons.mp member
        · rw [UInt8.toNat_ofNat']
          omega
        · exact continued byte member
      · have some : 1 ≤ 128 ^ count := Nat.one_le_two_pow.trans (Nat.pow_le_pow_left (by decide) _)
        rw [Nat.add_right_comm, varintWithin, if_neg (by omega), split, Nat.pow_succ',
          Nat.div_div_eq_div_mul]
        rfl

theorem isNegative_varint {value : Nat} (large : 2 ^ 64 - 2 ^ 31 ≤ value) (fits : value < 2 ^ 64) :
    IsNegative (varint value) := by
  obtain ⟨high, five, continued, split⟩ :=
    @varintWithin_add 5 5 value (Nat.le_trans (by decide) large)
  refine ⟨high, five, continued, ?_⟩
  have top : value / 128 ^ 5 = 2 ^ 29 - 1 := by omega
  rw [varint, split, top]
  rfl

theorem protobufInt32_of_negative {tag : Nat} {value : Int32} (few : tag < 16)
    (negative : value.toInt < 0) :
    ∃ bytes, protobufInt32 tag value = UInt8.ofNat (8 * tag) :: bytes ∧ IsNegative bytes := by
  have extended := toNat_extended value
  have above := value.le_toInt
  rw [if_pos negative] at extended
  refine ⟨varint value.toInt64.toUInt64.toNat, ?_, isNegative_varint (by omega) (by omega)⟩
  rw [protobufInt32, protobufVarint, if_neg (by omega), varint_of_lt (by omega)]
  rfl

theorem readVarint_of_high {rounds value : Nat} {high tail rest : Bytes}
    (continued : ∀ byte ∈ high, 128 ≤ byte.toNat) (few : high.length ≤ rounds)
    (read : readVarint rounds (high ++ tail) = some (value, rest)) :
    ∃ later, readVarint (rounds - high.length) tail = some (later, rest) ∧
      128 ^ high.length * later ≤ value := by
  induction high generalizing rounds value with
  | nil => exact ⟨value, read, by simp⟩
  | cons byte high inductionHypothesis =>
      cases rounds with
      | zero => cases few
      | succ rounds =>
          have isHigh := continued byte List.mem_cons_self
          rw [List.cons_append, readVarint, if_neg (Nat.not_lt_of_le isHigh)] at read
          obtain ⟨⟨number, bytes⟩, readLater, same⟩ := Option.map_eq_some_iff.mp read
          obtain ⟨rfl, rfl⟩ := Prod.mk.inj same
          obtain ⟨later, isLater, le⟩ := inductionHypothesis
            (fun other member => continued other (.tail byte member))
            (Nat.le_of_succ_le_succ few) readLater
          refine ⟨later, by rw [List.length_cons, Nat.succ_sub_succ, isLater], ?_⟩
          rw [List.length_cons, Nat.pow_succ', Nat.mul_assoc]
          omega

theorem readKey_eq_none {data rest : Bytes} {value : Nat}
    (read : readVarint 10 data = some (value, rest))
    (noKey : 2 ^ 32 ≤ value ∨ 5 < value % 8 ∨ value < 8) : readKey data = none := by
  rw [readKey, decodeVarint, read, Option.filter_some]
  split_ifs
  · rw [Option.bind_some]
    exact if_neg fun key => by omega
  · rfl

/-- **What is left of a negative number is no key.** -/
theorem readKey_within_negative {bytes : Bytes} (negative : IsNegative bytes) {offset : Nat}
    (inside : offset < 10) (rest : Bytes) : readKey (bytes.drop offset ++ rest) = none := by
  obtain ⟨high, five, continued, rfl⟩ := negative
  have ending : ∀ rounds, readVarint (rounds + 5) ([0xFF, 0xFF, 0xFF, 0xFF, 0x01] ++ rest) =
      some (2 ^ 29 - 1, rest) := fun _ => rfl
  by_cases early : offset < 5
  · have length : (high.drop offset).length = 5 - offset := by rw [List.length_drop, five]
    rw [List.drop_append_of_le_length (by omega), List.append_assoc]
    cases read : readVarint 10 (high.drop offset ++ ([0xFF, 0xFF, 0xFF, 0xFF, 0x01] ++ rest)) with
    | none =>
        rw [readKey, decodeVarint, read]
        rfl
    | some result =>
        obtain ⟨value, left⟩ := result
        obtain ⟨later, isLater, le⟩ := readVarint_of_high
          (fun byte member => continued byte (List.mem_of_mem_drop member)) (by omega) read
        rw [length, show 10 - (5 - offset) = offset + 5 by omega, ending] at isLater
        obtain ⟨rfl, -⟩ := Prod.mk.inj (Option.some.inj isLater)
        have large : 128 ≤ 128 ^ (5 - offset) := Nat.le_self_pow (by omega) 128
        have product : 128 * (2 ^ 29 - 1) ≤ 128 ^ (5 - offset) * (2 ^ 29 - 1) :=
          Nat.mul_le_mul_right _ large
        rw [length] at le
        exact readKey_eq_none read (.inl (by omega))
  · obtain ⟨more, rfl⟩ : ∃ more, offset = 5 + more := ⟨offset - 5, by omega⟩
    rw [← five, List.drop_length_add_append]
    obtain rfl | rfl | rfl | rfl | rfl :
      more = 0 ∨ more = 1 ∨ more = 2 ∨ more = 3 ∨ more = 4 := by omega
    · exact @readKey_eq_none _ rest (2 ^ 29 - 1) rfl (by decide)
    · exact @readKey_eq_none _ rest (2 ^ 22 - 1) rfl (by decide)
    · exact @readKey_eq_none _ rest (2 ^ 15 - 1) rfl (by decide)
    · exact @readKey_eq_none _ rest (2 ^ 8 - 1) rfl (by decide)
    · exact @readKey_eq_none _ rest 1 rfl (by decide)

/-! ## A negative number among the data -/

/-- The bytes of a negative number stand in the data at an offset. -/
def NegativeAt (offset : Nat) (data : Bytes) : Prop :=
  ∃ before negative after, data = before ++ (negative ++ after) ∧ before.length = offset ∧
    IsNegative negative

namespace NegativeAt

variable {offset : Nat} {data : Bytes}

theorem append (stands : NegativeAt offset data) (front tail : Bytes) :
    NegativeAt (front.length + offset) (front ++ (data ++ tail)) := by
  obtain ⟨before, negative, after, rfl, rfl, isNegative⟩ := stands
  refine ⟨front ++ before, negative, after ++ tail, ?_, List.length_append, isNegative⟩
  simp only [List.append_assoc]

theorem le_length (stands : NegativeAt offset data) : offset + 10 ≤ data.length := by
  obtain ⟨before, negative, after, rfl, rfl, isNegative⟩ := stands
  simp only [List.length_append, isNegative.length]
  omega

theorem take (stands : NegativeAt offset data) {count : Nat} (fits : offset + 10 ≤ count) :
    NegativeAt offset (data.take count) := by
  obtain ⟨before, negative, after, rfl, rfl, isNegative⟩ := stands
  refine ⟨before, negative, after.take (count - before.length - 10), ?_, rfl, isNegative⟩
  rw [List.take_append, List.take_of_length_le (by omega), List.take_append, isNegative.length,
    List.take_of_length_le (by rw [isNegative.length]; omega)]

/-- No key starts inside. -/
theorem readKey_drop (stands : NegativeAt offset data) {start : Nat} (lower : offset ≤ start)
    (upper : start < offset + 10) : readKey (data.drop start) = none := by
  obtain ⟨before, negative, after, rfl, rfl, isNegative⟩ := stands
  obtain ⟨more, rfl⟩ := Nat.exists_eq_add_of_le lower
  rw [List.drop_length_add_append, List.drop_append_of_le_length (by rw [isNegative.length]; omega)]
  exact readKey_within_negative isNegative (by omega) after

/-- The sixth to the ninth byte are 255. -/
theorem getElem?_eq (stands : NegativeAt offset data) {index : Nat} (lower : offset + 5 ≤ index)
    (upper : index < offset + 9) : data[index]? = some 0xFF := by
  obtain ⟨before, negative, after, rfl, rfl, high, five, -, rfl⟩ := stands
  obtain ⟨more, rfl⟩ := Nat.exists_eq_add_of_le lower
  rw [List.append_assoc, Nat.add_assoc, ← five, List.getElem?_append_right (by omega),
    Nat.add_sub_cancel_left, List.getElem?_append_right (by omega), Nat.add_sub_cancel_left,
    List.getElem?_append_left (by simp only [List.length_cons, List.length_nil]; omega)]
  obtain rfl | rfl | rfl | rfl : more = 0 ∨ more = 1 ∨ more = 2 ∨ more = 3 := by omega
  all_goals rfl

end NegativeAt

/-! ## Text -/

theorem ff_ne_ofNat {value : Nat} (small : value < 255) : (0xFF : UInt8) ≠ UInt8.ofNat value := by
  intro same
  have numbers : 255 = value % 2 ^ 8 := congrArg UInt8.toNat same
  omega

/-- A text has no byte 255. -/
theorem ff_notMem_utf8 (text : String) : 0xFF ∉ utf8 text := by
  obtain ⟨characters, encoded⟩ := text.isValidUTF8
  have bytes : utf8 text = characters.flatMap String.utf8EncodeChar := by
    show text.toByteArray.data.toList = _
    rw [encoded, List.utf8Encode, List.data_toByteArray]
  rw [bytes, List.mem_flatMap]
  rintro ⟨c, -, member⟩
  unfold String.utf8EncodeChar at member
  dsimp only at member
  -- one byte for each case of the first, then one to three that continue
  split_ifs at member <;> simp only [List.mem_cons, List.not_mem_nil, or_false] at member
  · exact ff_ne_ofNat (by omega) member
  · obtain same | same := member <;> exact ff_ne_ofNat (by omega) same
  · obtain same | same | same := member <;> exact ff_ne_ofNat (by omega) same
  · obtain same | same | same | same := member <;> exact ff_ne_ofNat (by omega) same

/-- A text that is part of the data does not go beyond a negative number. -/
theorem NegativeAt.not_text {offset : Nat} {data before after : Bytes} {text : String}
    (stands : NegativeAt offset data) (split : data = before ++ (utf8 text ++ after))
    {index : Nat} (inside : offset + 5 ≤ index ∧ index < offset + 9)
    (starts : before.length ≤ index) (ends : index < before.length + (utf8 text).length) :
    False := by
  have isTop := stands.getElem?_eq inside.1 inside.2
  rw [split, List.getElem?_append_right starts, List.getElem?_append_left (by omega)] at isTop
  exact ff_notMem_utf8 text (List.mem_of_getElem? isTop)

/-! ## The first field -/

/-- What a key of one byte makes of what follows. -/
inductive Frame.Front (frame next : Frame) (data rest : Bytes) : Nat → Prop
  | command {body : Bytes} {command : Command} (slice : takeSlice data = some (body, rest))
      (reading : Reading Command.mergeField body (frame.command.getD ⟨none⟩) command)
      (same : next = { frame with command := some command }) : Front frame next data rest 10
  | text {text : String} (slice : takeSlice data = some (utf8 text, rest))
      (same : next = { frame with messageId := text }) : Front frame next data rest 18
  | reliability {value : Nat} (decoded : decodeVarint data = some (value, rest)) :
      Front frame next data rest 24
  | timestamp {value : Nat} (decoded : decodeVarint data = some (value, rest)) :
      Front frame next data rest 32
  | entry {key : Nat} {body : Bytes} {entry : String × Bytes} (among : 40 ≤ key ∧ key ≤ 45)
      (slice : takeSlice data = some (body, rest))
      (reading : Reading (mergeEntryField 99) body ("", []) entry)
      (same : next = { frame with metadata := frame.metadata.insertLast entry.1 entry.2 }) :
      Front frame next data rest key
  | unknown {key : Nat} (large : 48 ≤ key) : Front frame next data rest key

theorem Frame.mergeField_cons {byte : UInt8} (low : byte.toNat < 128) {data rest : Bytes}
    {frame next : Frame} (merged : Frame.mergeField (byte :: data) frame = some (next, rest)) :
    Frame.Front frame next data rest byte.toNat := by
  rw [Frame.mergeField, readKey_cons low] at merged
  obtain ⟨⟨tag, wireType, tail⟩, read, merged⟩ := Option.bind_eq_some_iff.mp merged
  obtain ⟨⟨valid, some⟩, same⟩ := Option.ite_none_right_eq_some.mp read
  obtain ⟨isTag, isType, rfl⟩ : byte.toNat / 8 = tag ∧ byte.toNat % 8 = wireType ∧ data = tail := by
    simpa using same
  dsimp only [mergeValue] at merged
  split at merged
  · obtain ⟨⟨command, tail⟩, taken, ⟨⟩⟩ := Option.map_eq_some_iff.mp merged
    obtain ⟨⟨body, left⟩, isBody, merged⟩ := Option.bind_eq_some_iff.mp taken
    obtain ⟨last, isLast, ⟨⟩⟩ := Option.map_eq_some_iff.mp merged
    obtain ⟨delimited, slice⟩ := takeBytes_eq_some isBody
    have isKey : byte.toNat = 10 := by omega
    rw [isKey]
    exact .command slice (.of_mergeFields isLast) rfl
  · obtain ⟨⟨text, tail⟩, taken, ⟨⟩⟩ := Option.map_eq_some_iff.mp merged
    obtain ⟨delimited, slice⟩ := takeString_eq_some taken
    have isKey : byte.toNat = 18 := by omega
    rw [isKey]
    exact .text slice rfl
  · obtain ⟨⟨number, tail⟩, taken, ⟨⟩⟩ := Option.map_eq_some_iff.mp merged
    obtain ⟨⟨value, left⟩, isValue, ⟨⟩⟩ := Option.map_eq_some_iff.mp taken
    obtain ⟨isNumber, decoded⟩ := takeVarint_eq_some isValue
    have isKey : byte.toNat = 24 := by omega
    rw [isKey]
    exact .reliability decoded
  · obtain ⟨⟨number, tail⟩, taken, ⟨⟩⟩ := Option.map_eq_some_iff.mp merged
    obtain ⟨⟨value, left⟩, isValue, ⟨⟩⟩ := Option.map_eq_some_iff.mp taken
    obtain ⟨isNumber, decoded⟩ := takeVarint_eq_some isValue
    have isKey : byte.toNat = 32 := by omega
    rw [isKey]
    exact .timestamp decoded
  · obtain ⟨⟨map, tail⟩, taken, ⟨⟩⟩ := Option.map_eq_some_iff.mp merged
    obtain ⟨⟨body, left⟩, slice, merged⟩ := Option.bind_eq_some_iff.mp taken
    obtain ⟨⟨key, value⟩, isLast, ⟨⟩⟩ := Option.map_eq_some_iff.mp merged
    exact .entry (by omega) slice (.of_mergeFields isLast) rfl
  next one two three four five =>
    have unknown : tag ≠ 1 ∧ tag ≠ 2 ∧ tag ≠ 3 ∧ tag ≠ 4 ∧ tag ≠ 5 := ⟨one, two, three, four, five⟩
    exact .unknown (by omega)

/-- What a key of one byte makes of what follows in an entry of a map. -/
theorem mergeEntryField_cons {byte : UInt8} (low : byte.toNat < 128) {depth : Nat}
    {data rest : Bytes} {entry next : String × Bytes}
    (merged : mergeEntryField depth (byte :: data) entry = some (next, rest)) :
    (byte.toNat = 10 ∨ byte.toNat = 18) ∧ (∃ body, takeSlice data = some (body, rest)) ∨
      24 ≤ byte.toNat ∧ next = entry ∧
        ∃ tag wireType, skipField depth tag wireType data = some rest := by
  rw [mergeEntryField, readKey_cons low] at merged
  obtain ⟨⟨tag, wireType, tail⟩, read, merged⟩ := Option.bind_eq_some_iff.mp merged
  obtain ⟨⟨valid, some⟩, same⟩ := Option.ite_none_right_eq_some.mp read
  obtain ⟨isTag, isType, rfl⟩ : byte.toNat / 8 = tag ∧ byte.toNat % 8 = wireType ∧ data = tail := by
    simpa using same
  dsimp only at merged
  split at merged
  · obtain ⟨⟨text, tail⟩, taken, ⟨⟩⟩ := Option.map_eq_some_iff.mp merged
    obtain ⟨delimited, slice⟩ := takeString_eq_some taken
    exact .inl ⟨.inl (by omega), _, slice⟩
  · obtain ⟨⟨bytes, tail⟩, taken, ⟨⟩⟩ := Option.map_eq_some_iff.mp merged
    obtain ⟨delimited, slice⟩ := takeBytes_eq_some taken
    exact .inl ⟨.inr (by omega), _, slice⟩
  next one two =>
    have unknown : tag ≠ 1 ∧ tag ≠ 2 := ⟨one, two⟩
    obtain ⟨tail, skipped, ⟨⟩⟩ := Option.map_eq_some_iff.mp merged
    exact .inr ⟨by omega, rfl, _, _, skipped⟩

/-- A command has no field with the number 1 that is a number. -/
theorem Command.mergeField_eight (rest : Bytes) (command : Command) :
    Command.mergeField (8 :: rest) command = none := by
  rw [Command.mergeField, readKey_cons (by decide)]
  rfl

/-- Where no key is read, no field is. -/
theorem Frame.mergeField_eq_none {data : Bytes} (noKey : readKey data = none) (frame : Frame) :
    Frame.mergeField data frame = none := by
  rw [Frame.mergeField, noKey]
  rfl

theorem mergeEntryField_eq_none {data : Bytes} (noKey : readKey data = none) (depth : Nat)
    (entry : String × Bytes) : mergeEntryField depth data entry = none := by
  rw [mergeEntryField, noKey]
  rfl

/-! ## Where a negative number stands in a frame -/

theorem length_varintWithin_le {count rounds value : Nat} (fits : value < 128 ^ (count + 1)) :
    (varintWithin rounds value).length ≤ count + 1 := by
  induction rounds generalizing count value with
  | zero => exact Nat.zero_le _
  | succ rounds inductionHypothesis =>
      rw [varintWithin]
      split_ifs with small
      · exact Nat.le_add_left _ _
      · cases count with
        | zero => exact absurd (by simpa using fits) small
        | succ count =>
            rw [Nat.pow_succ] at fits
            refine Nat.succ_le_succ (inductionHypothesis ?_)
            exact Nat.div_lt_of_lt_mul (by rw [Nat.mul_comm]; exact fits)

theorem length_protobufInt32_le {tag : Nat} {value : Int32} (few : tag < 16)
    (positive : 0 ≤ value.toInt) : (protobufInt32 tag value).length ≤ 6 := by
  have extended := toNat_extended value
  have below : value.toInt < 2 ^ 31 := value.toInt_lt
  rw [if_neg (Int.not_lt_of_ge positive)] at extended
  unfold protobufInt32 protobufVarint
  split_ifs
  · exact Nat.zero_le _
  · rw [varint_of_lt (by omega), List.singleton_append, List.length_cons]
    exact Nat.succ_le_succ (@length_varintWithin_le 4 _ _ (by omega))

theorem negativeAt_protobufInt32 {tag : Nat} {value : Int32} (few : tag < 16)
    (negative : value.toInt < 0) (behind : Bytes) :
    NegativeAt 1 (protobufInt32 tag value ++ behind) := by
  obtain ⟨bytes, encoded, isNegative⟩ := protobufInt32_of_negative few negative
  rw [encoded]
  exact ⟨[UInt8.ofNat (8 * tag)], bytes, behind, rfl, rfl, isNegative⟩

theorem protobufDelimited_eq {tag : Nat} {bytes : Bytes} (few : tag < 15)
    (short : bytes.length < 128) :
    protobufDelimited tag bytes =
      UInt8.ofNat (8 * tag + 2) :: UInt8.ofNat bytes.length :: bytes := by
  rw [protobufDelimited, varint_of_lt (by omega), varint_of_lt short]
  rfl

theorem length_protobufDelimited_ge (tag : Nat) (bytes : Bytes) :
    bytes.length + 2 ≤ (protobufDelimited tag bytes).length := by
  have key := List.length_pos_of_ne_nil (varint_ne_nil (8 * tag + 2))
  have length := List.length_pos_of_ne_nil (varint_ne_nil bytes.length)
  simp only [protobufDelimited, List.length_append]
  omega

/-- A command begins with its kind and its length. -/
theorem CommandType.protobuf_eq (type : CommandType) (short : type.protobuf.length < 128) :
    ∃ kind body, type.protobuf = kind :: UInt8.ofNat body.length :: body ∧
      10 ≤ kind.toNat ∧ kind.toNat < 128 ∧
        ((∃ value ∈ type.int32s, value.toInt < 0) → ∃ offset, NegativeAt offset body ∧
          1 ≤ offset ∧ offset ≤ 7 ∧ (kind = 0x0A ∨ offset = 1 ∧ (kind = 0x12 ∨ kind = 0x1A))) := by
  cases type with
  | system command =>
      have length : command.protobuf.length + 2 ≤ (CommandType.system command).protobuf.length :=
        length_protobufDelimited_ge 1 _
      have fits : command.protobuf.length < 128 := by omega
      refine ⟨0x0A, command.protobuf, protobufDelimited_eq (by decide) fits, by decide, by decide,
        ?_⟩
      rintro ⟨value, isValue, negative⟩
      simp only [SystemCommand.protobuf, List.append_assoc]
      by_cases first : command.type.toInt < 0
      · exact ⟨1, negativeAt_protobufInt32 (by decide) first _, by decide, by decide, .inl trivial⟩
      · have second : command.format.toInt < 0 := by
          obtain rfl | isSecond := List.mem_cons.mp isValue
          · exact absurd negative first
          · exact List.mem_singleton.mp isSecond ▸ negative
        have before := @length_protobufInt32_le 1 _ (by decide) (Int.not_lt.mp first)
        have stands := (@negativeAt_protobufInt32 2 _ (by decide) second
          (protobufString 3 command.message ++ (protobufMetadata 4 command.metadata ++
            (protobufBytes 5 command.data ++ (protobufString 6 command.compression ++
              protobufString 7 command.encryption))))).append (protobufInt32 1 command.type) []
        rw [List.append_nil] at stands
        exact ⟨_, stands, Nat.le_add_left _ _, by omega, .inl trivial⟩
  | payload command =>
      have length : command.protobuf.length + 2 ≤ (CommandType.payload command).protobuf.length :=
        length_protobufDelimited_ge 2 _
      have fits : command.protobuf.length < 128 := by omega
      refine ⟨0x12, command.protobuf, protobufDelimited_eq (by decide) fits, by decide, by decide,
        ?_⟩
      rintro ⟨value, isValue, negative⟩
      obtain rfl := List.mem_singleton.mp isValue
      simp only [PayloadCommand.protobuf, List.append_assoc]
      exact ⟨1, negativeAt_protobufInt32 (by decide) negative _, by decide, by decide,
        .inr ⟨rfl, .inl trivial⟩⟩
  | notification command =>
      have length : command.protobuf.length + 2 ≤
          (CommandType.notification command).protobuf.length := length_protobufDelimited_ge 3 _
      have fits : command.protobuf.length < 128 := by omega
      refine ⟨0x1A, command.protobuf, protobufDelimited_eq (by decide) fits, by decide, by decide,
        ?_⟩
      rintro ⟨value, isValue, negative⟩
      obtain rfl := List.mem_singleton.mp isValue
      simp only [NotificationCommand.protobuf, List.append_assoc]
      exact ⟨1, negativeAt_protobufInt32 (by decide) negative _, by decide, by decide,
        .inr ⟨rfl, .inr trivial⟩⟩
  | custom command =>
      have length : command.protobuf.length + 2 ≤ (CommandType.custom command).protobuf.length :=
        length_protobufDelimited_ge 4 _
      have fits : command.protobuf.length < 128 := by omega
      refine ⟨0x22, command.protobuf, protobufDelimited_eq (by decide) fits, by decide, by decide,
        ?_⟩
      rintro ⟨value, isValue, -⟩
      cases isValue

theorem Command.exists_protobuf_eq (command : Command) (some : command.protobuf ≠ [])
    (short : command.protobuf.length < 128) :
    ∃ kind body, command.protobuf = kind :: UInt8.ofNat body.length :: body ∧
      10 ≤ kind.toNat ∧ kind.toNat < 128 := by
  cases isType : command.type with
  | none =>
      have isEmpty : command.protobuf = [] := by rw [Command.protobuf, isType]; rfl
      exact absurd isEmpty some
  | some type =>
      have same : command.protobuf = type.protobuf := by rw [Command.protobuf, isType]; rfl
      obtain ⟨kind, body, isBody, lower, upper, -⟩ := type.protobuf_eq (by rw [← same]; exact short)
      exact ⟨kind, body, same.trans isBody, lower, upper⟩

/-- The fields behind the reliability of a frame. -/
def Frame.behindReliability (frame : Frame) : Bytes :=
  protobufVarint 4 frame.timestamp.toNat ++ protobufMetadata 5 frame.metadata

/-- No field takes a single byte. -/
theorem Frame.length_behindReliability_ne (frame : Frame) :
    frame.behindReliability.length ≠ 1 := by
  have timestamp : (protobufVarint 4 frame.timestamp.toNat).length = 0 ∨
      2 ≤ (protobufVarint 4 frame.timestamp.toNat).length := by
    unfold protobufVarint
    split_ifs
    · exact .inl rfl
    · have number := List.length_pos_of_ne_nil (varint_ne_nil frame.timestamp.toNat)
      rw [varint_of_lt (by decide), List.singleton_append, List.length_cons]
      exact .inr (Nat.succ_le_succ number)
  have metadata : (protobufMetadata 5 frame.metadata).length = 0 ∨
      2 ≤ (protobufMetadata 5 frame.metadata).length := by
    unfold protobufMetadata
    cases frame.metadata.entries with
    | nil => exact .inl rfl
    | cons entry entries =>
        have length := length_protobufDelimited_ge 5
          (protobufString 1 entry.1 ++ protobufBytes 2 entry.2)
        rw [List.flatMap_cons, List.length_append]
        omega
  rw [behindReliability, List.length_append]
  omega

/-- The forms of a short frame with a negative number. -/
inductive Frame.NegativeForm (frame : Frame) : Prop
  | inCommand {command : Command} {kind : UInt8} {body tail : Bytes} {offset : Nat}
      (isCommand : frame.command = some command)
      (inner : command.protobuf = kind :: UInt8.ofNat body.length :: body)
      (encoded : frame.protobuf =
        0x0A :: UInt8.ofNat command.protobuf.length :: (command.protobuf ++ tail))
      (stands : NegativeAt offset body) (range : 1 ≤ offset ∧ offset ≤ 7)
      (isKind : kind = 0x0A ∨ offset = 1 ∧ (kind = 0x12 ∨ kind = 0x1A))
  | behindCommand {command : Command} {tail : Bytes} {middle behind : Nat}
      (isCommand : frame.command = some command)
      (encoded : frame.protobuf =
        0x0A :: UInt8.ofNat command.protobuf.length :: (command.protobuf ++ tail))
      (stands : NegativeAt (command.protobuf.length + middle + 3) frame.protobuf)
      (some : middle = 0 ∨ 3 ≤ middle) (isBehind : behind ≠ 1)
      (length : frame.protobuf.length = command.protobuf.length + middle + 13 + behind)
  | behindText {tail : Bytes} {behind : Nat} (noCommand : frame.command = none)
      (encoded : frame.protobuf =
        0x12 :: UInt8.ofNat (utf8 frame.messageId).length :: (utf8 frame.messageId ++ tail))
      (some : utf8 frame.messageId ≠ [])
      (stands : NegativeAt ((utf8 frame.messageId).length + 3) frame.protobuf)
      (isBehind : behind ≠ 1)
      (length : frame.protobuf.length = (utf8 frame.messageId).length + 13 + behind)
  | first {tail : Bytes} (encoded : frame.protobuf = 0x18 :: tail)
      (stands : NegativeAt 1 frame.protobuf)

theorem Frame.protobuf_eq (frame : Frame) : frame.protobuf =
    frame.command.elim [] (fun command => protobufDelimited 1 command.protobuf) ++
      (protobufString 2 frame.messageId ++ (protobufInt32 3 frame.reliability ++
        frame.behindReliability)) := by
  simp only [Frame.protobuf, behindReliability, List.append_assoc]

/-- A message id that is not empty begins with its key and its length. -/
theorem Frame.protobufString_eq (frame : Frame) (short : frame.protobuf.length < 128) :
    protobufString 2 frame.messageId = [] ∨ utf8 frame.messageId ≠ [] ∧
      protobufString 2 frame.messageId =
        0x12 :: UInt8.ofNat (utf8 frame.messageId).length :: utf8 frame.messageId := by
  have total := congrArg List.length frame.protobuf_eq
  simp only [List.length_append, protobufString, protobufBytes] at total ⊢
  split_ifs at total ⊢ with isEmpty
  · exact .inl rfl
  · have length := length_protobufDelimited_ge 2 (utf8 frame.messageId)
    exact .inr ⟨isEmpty, protobufDelimited_eq (by decide) (by omega)⟩

/-- A short frame with a command begins with it. -/
theorem Frame.protobuf_of_command {frame : Frame} {command : Command}
    (isCommand : frame.command = some command) (short : frame.protobuf.length < 128) :
    command.protobuf.length < 126 ∧ frame.protobuf =
      0x0A :: UInt8.ofNat command.protobuf.length :: (command.protobuf ++
        (protobufString 2 frame.messageId ++ (protobufInt32 3 frame.reliability ++
          frame.behindReliability))) := by
  have split := frame.protobuf_eq
  rw [isCommand, Option.elim_some] at split
  have length := length_protobufDelimited_ge 1 command.protobuf
  have total := congrArg List.length split
  simp only [List.length_append] at total
  rw [protobufDelimited_eq (by decide) (by omega)] at split
  exact ⟨by omega, split⟩

theorem length_protobufInt32_of_negative {tag : Nat} {value : Int32} (few : tag < 16)
    (negative : value.toInt < 0) : (protobufInt32 tag value).length = 11 := by
  obtain ⟨bytes, encoded, isNegative⟩ := protobufInt32_of_negative few negative
  rw [encoded, List.length_cons, isNegative.length]

/-- **A short frame with a negative number has one of these forms.** -/
theorem Frame.negativeForm (frame : Frame) (short : frame.protobuf.length < 128)
    (negative : ∃ value ∈ frame.int32s, value.toInt < 0) : frame.NegativeForm := by
  have isBehind := frame.length_behindReliability_ne
  have text := frame.protobufString_eq short
  cases isCommand : frame.command with
  | some command =>
      obtain ⟨fits, encoded⟩ := frame.protobuf_of_command isCommand short
      by_cases reliability : frame.reliability.toInt < 0
      · have stands := (@negativeAt_protobufInt32 3 _ (by decide) reliability
          frame.behindReliability).append (0x0A :: UInt8.ofNat command.protobuf.length ::
            (command.protobuf ++ protobufString 2 frame.messageId)) []
        have eleven : (protobufInt32 3 frame.reliability).length = 11 :=
          length_protobufInt32_of_negative (by decide) reliability
        have total := congrArg List.length encoded
        simp only [List.append_nil, List.cons_append, List.append_assoc, ← encoded] at stands
        simp only [List.length_cons, List.length_append, eleven] at stands total
        have offset : command.protobuf.length + (protobufString 2 frame.messageId).length +
            1 + 1 + 1 =
              command.protobuf.length + (protobufString 2 frame.messageId).length + 3 := rfl
        rw [offset] at stands
        refine .behindCommand isCommand encoded stands ?_ isBehind ?_
        · obtain isEmpty | ⟨some, isText⟩ := text
          · exact .inl (by rw [isEmpty]; rfl)
          · have := List.length_pos_of_ne_nil some
            rw [isText]
            exact .inr (by simp only [List.length_cons]; omega)
        · omega
      · obtain ⟨value, isValue, negative⟩ := negative
        have inner : frame.commandType = command.type := by
          rw [commandType, isCommand]
          rfl
        rw [int32s, inner] at isValue
        obtain rfl | isValue := List.mem_cons.mp isValue
        · exact absurd negative reliability
        · cases isType : command.type with
          | none =>
              rw [isType] at isValue
              cases isValue
          | some type =>
              rw [isType] at isValue
              have same : command.protobuf = type.protobuf := by rw [Command.protobuf, isType]; rfl
              obtain ⟨kind, body, isBody, -, -, stands⟩ :=
                type.protobuf_eq (by rw [← same]; omega)
              obtain ⟨offset, stands, lower, upper, isKind⟩ := stands ⟨value, isValue, negative⟩
              exact .inCommand isCommand (same.trans isBody) encoded stands ⟨lower, upper⟩ isKind
  | none =>
      obtain ⟨value, isValue, reliability⟩ := negative
      rw [int32s, commandType, isCommand] at isValue
      obtain rfl := List.mem_singleton.mp isValue
      have split := frame.protobuf_eq
      rw [isCommand, Option.elim_none, List.nil_append] at split
      obtain isEmpty | ⟨some, isText⟩ := text
      · obtain ⟨bytes, encoded, -⟩ := @protobufInt32_of_negative 3 _ (by decide) reliability
        rw [isEmpty, List.nil_append] at split
        have stands := @negativeAt_protobufInt32 3 _ (by decide) reliability
          frame.behindReliability
        rw [← split] at stands
        rw [encoded] at split
        exact .first split stands
      · have stands := (@negativeAt_protobufInt32 3 _ (by decide) reliability
          frame.behindReliability).append (protobufString 2 frame.messageId) []
        have eleven : (protobufInt32 3 frame.reliability).length = 11 :=
          length_protobufInt32_of_negative (by decide) reliability
        have total := congrArg List.length split
        rw [List.append_nil, ← split, isText] at stands
        rw [isText] at split
        simp only [List.length_cons, List.length_append, eleven, isText] at stands total
        refine .behindText isCommand split some ?_ isBehind ?_
        · convert stands using 1
        · omega

end FlareCore.Common

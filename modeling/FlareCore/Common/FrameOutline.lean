import FlareCore.Common.FrameDecoding
import Mathlib.Algebra.Group.Int.Defs

/-!
# How many bytes a frame needs

A varint ends at its first byte below 128, and every field is announced by one.  So the bytes below
128 in the data can be counted against the fields that were read from them, and so can all bytes,
except that a negative number may be written in five bytes, while prost writes ten.

The outline of a message is what is left of its encoding when keys and lengths count as one byte
each, and negative numbers are written short.  No field makes the outline grow by more than the data
it takes up; and where bytes below 128 are lost, there are two of them, or five bytes in all
(`Within`).
-/

namespace FlareCore.Common

open FlareCore.Foundations

set_option autoImplicit false

/-! ## Counting bytes -/

/-- The number of bytes below 128. -/
def lows (bytes : Bytes) : Nat :=
  bytes.countP fun byte => byte.toNat < 128

@[simp]
theorem lows_nil : lows [] = 0 :=
  rfl

@[simp]
theorem lows_append (first second : Bytes) : lows (first ++ second) = lows first + lows second :=
  List.countP_append

theorem lows_cons_of_low {byte : UInt8} (low : byte.toNat < 128) (bytes : Bytes) :
    lows (byte :: bytes) = lows bytes + 1 :=
  List.countP_cons_of_pos (decide_eq_true low)

theorem lows_cons_of_high {byte : UInt8} (high : 128 ≤ byte.toNat) (bytes : Bytes) :
    lows (byte :: bytes) = lows bytes :=
  List.countP_cons_of_neg fun low => absurd (of_decide_eq_true low) (Nat.not_lt_of_le high)

@[simp]
theorem lows_zero_cons (bytes : Bytes) : lows (0 :: bytes) = lows bytes + 1 :=
  lows_cons_of_low (by decide) bytes

theorem lows_le_length (bytes : Bytes) : lows bytes ≤ bytes.length :=
  List.countP_le_length

/-- The first bytes are no more than the second, and if bytes below 128 are lost, they are two, or
five bytes are lost in all. -/
structure Within (small large : Bytes) : Prop where
  less : lows small ≤ lows large
  shorter : small.length ≤ large.length
  gap : lows small = lows large ∨ small.length + 5 ≤ large.length ∨ lows small + 2 ≤ lows large

namespace Within

variable {first second third : Bytes}

theorem refl (bytes : Bytes) : Within bytes bytes :=
  ⟨Nat.le_refl _, Nat.le_refl _, .inl rfl⟩

theorem trans (left : Within first second) (right : Within second third) : Within first third := by
  obtain ⟨less, shorter, gap⟩ := left
  obtain ⟨less', shorter', gap'⟩ := right
  exact ⟨by omega, by omega, by omega⟩

instance : Std.Refl Within :=
  ⟨refl⟩

instance : IsTrans Bytes Within :=
  ⟨fun _ _ _ => trans⟩

/-- Only the numbers of bytes matter. -/
theorem congr {first' second' : Bytes} (within : Within first second)
    (same : lows first' + lows second = lows first + lows second')
    (length : first'.length + second.length = first.length + second'.length) :
    Within first' second' := by
  obtain ⟨less, shorter, gap⟩ := within
  exact ⟨by omega, by omega, by omega⟩

/-- As many bytes below 128, and no more bytes. -/
theorem of_lows (same : lows first = lows second)
    (length : first.length ≤ second.length) : Within first second :=
  ⟨Nat.le_of_eq same, length, .inl same⟩

/-- Two bytes below 128 more, at the least. -/
theorem of_two (fewer : lows first + 2 ≤ lows second)
    (length : first.length ≤ second.length) : Within first second :=
  ⟨by omega, length, .inr (.inr fewer)⟩

/-- The field of a message is replaced, and the message with it. -/
theorem set (fields : List Bytes) (index : Nat) {old new key data rest : Bytes}
    (isOld : fields[index]? = some old) (isKey : lows key = 1)
    (within : Within (new ++ rest) (old ++ 0 :: data)) :
    Within ((fields.set index new).flatten ++ rest) (fields.flatten ++ (key ++ data)) := by
  have some := lows_le_length key
  have taken : Within (new ++ rest) (old ++ (key ++ data)) := by
    refine within.trans (of_lows ?_ ?_)
    · simp only [lows_append, lows_zero_cons]
      omega
    · simp only [List.length_append, List.length_cons]
      omega
  induction fields generalizing index with
  | nil => cases isOld
  | cons field fields inductionHypothesis =>
      cases index with
      | zero =>
          obtain rfl := Option.some.inj isOld
          rw [List.set_cons_zero, List.flatten_cons, List.flatten_cons]
          refine taken.congr ?_ ?_
          · simp only [lows_append]
            omega
          · simp only [List.length_append]
            omega
      | succ index =>
          have later := inductionHypothesis index isOld
          rw [List.set_cons_succ, List.flatten_cons, List.flatten_cons]
          refine later.congr ?_ ?_
          · simp only [lows_append]
            omega
          · simp only [List.length_append]
            omega

end Within

/-! ## Varints -/

theorem lows_varintWithin {rounds value : Nat} (fits : value < 128 ^ (rounds + 1)) :
    lows (varintWithin (rounds + 1) value) = 1 := by
  induction rounds generalizing value with
  | zero =>
      rw [varintWithin, if_pos (by simpa using fits)]
      exact lows_cons_of_low (by rw [UInt8.toNat_ofNat']; omega) []
  | succ rounds inductionHypothesis =>
      rw [varintWithin]
      split_ifs with small
      · exact lows_cons_of_low (by rw [UInt8.toNat_ofNat']; omega) []
      · rw [lows_cons_of_high (by rw [UInt8.toNat_ofNat']; omega)]
        apply inductionHypothesis
        rw [Nat.pow_succ] at fits
        exact Nat.div_lt_of_lt_mul (by rw [Nat.mul_comm]; exact fits)

theorem lows_varint {value : Nat} (fits : value < 128 ^ 10) : lows (varint value) = 1 :=
  lows_varintWithin fits

theorem length_varintWithin_mono (rounds : Nat) {first second : Nat} (le : first ≤ second) :
    (varintWithin rounds first).length ≤ (varintWithin rounds second).length := by
  induction rounds generalizing first second with
  | zero => exact Nat.le_refl _
  | succ rounds inductionHypothesis =>
      simp only [varintWithin]
      by_cases large : second < 128
      · rw [if_pos large, if_pos (Nat.lt_of_le_of_lt le large)]
        exact Nat.le_refl _
      · rw [if_neg large]
        split_ifs
        · exact Nat.le_add_left _ _
        · exact Nat.succ_le_succ (inductionHypothesis (Nat.div_le_div_right le))

/-- What is read as a varint ends at its first byte below 128, and is no shorter than what is
written for the number. -/
theorem readVarint_eq_some {rounds value : Nat} {data rest : Bytes}
    (read : readVarint rounds data = some (value, rest)) :
    ∃ used, data = used ++ rest ∧ lows used = 1 ∧
      (varintWithin rounds value).length ≤ used.length := by
  induction rounds generalizing data value with
  | zero => cases read
  | succ rounds inductionHypothesis =>
      cases data with
      | nil => cases read
      | cons byte bytes =>
          rw [readVarint] at read
          split_ifs at read with low
          · obtain ⟨rfl, rfl⟩ := Prod.mk.inj (Option.some.inj read)
            refine ⟨[byte], rfl, lows_cons_of_low low [], ?_⟩
            rw [varintWithin, if_pos low]
            exact Nat.le_refl _
          · obtain ⟨⟨later, tail⟩, readLater, same⟩ := Option.map_eq_some_iff.mp read
            obtain ⟨rfl, rfl⟩ := Prod.mk.inj same
            obtain ⟨used, rfl, one, length⟩ := inductionHypothesis readLater
            have high : 128 ≤ byte.toNat := Nat.le_of_not_lt low
            have top := byte.toNat_lt
            refine ⟨byte :: used, rfl, by rw [lows_cons_of_high high, one], ?_⟩
            rw [varintWithin]
            split_ifs
            · exact Nat.le_add_left _ _
            · have divided : (byte.toNat - 128 + 128 * later) / 128 = later := by omega
              rw [divided]
              exact Nat.succ_le_succ length

theorem decodeVarint_eq_some {value : Nat} {data rest : Bytes}
    (read : decodeVarint data = some (value, rest)) :
    ∃ used, data = used ++ rest ∧ lows used = 1 ∧ (varint value).length ≤ used.length ∧
      value < 2 ^ 64 := by
  obtain ⟨read, fits⟩ := Option.filter_eq_some_iff.mp read
  obtain ⟨used, split, one, length⟩ := readVarint_eq_some read
  exact ⟨used, split, one, length, of_decide_eq_true fits⟩

theorem readKey_eq_some {tag wireType : Nat} {data rest : Bytes}
    (read : readKey data = some (tag, wireType, rest)) :
    ∃ key, data = key ++ rest ∧ lows key = 1 := by
  obtain ⟨⟨value, tail⟩, decoded, chosen⟩ := Option.bind_eq_some_iff.mp read
  obtain ⟨-, same⟩ := Option.ite_none_right_eq_some.mp chosen
  obtain ⟨-, rfl⟩ : _ ∧ tail = rest := by
    simpa using (Prod.mk.inj (Option.some.inj same)).2
  obtain ⟨used, split, one, -⟩ := decodeVarint_eq_some decoded
  exact ⟨used, split, one⟩

theorem takeSlice_eq_some {data body rest : Bytes} (taken : takeSlice data = some (body, rest)) :
    ∃ used, data = used ++ (body ++ rest) ∧ lows used = 1 := by
  obtain ⟨⟨length, tail⟩, decoded, chosen⟩ := Option.bind_eq_some_iff.mp taken
  obtain ⟨-, same⟩ := Option.ite_none_right_eq_some.mp chosen
  obtain ⟨rfl, rfl⟩ := Prod.mk.inj (Option.some.inj same)
  obtain ⟨used, split, one, -⟩ := decodeVarint_eq_some decoded
  exact ⟨used, by rw [List.take_append_drop, split], one⟩

theorem takeVarint_eq_some {wireType value : Nat} {data rest : Bytes}
    (taken : takeVarint wireType data = some (value, rest)) :
    wireType = 0 ∧ decodeVarint data = some (value, rest) :=
  Option.ite_none_right_eq_some.mp taken

theorem takeBytes_eq_some {wireType : Nat} {data body rest : Bytes}
    (taken : takeBytes wireType data = some (body, rest)) :
    wireType = 2 ∧ takeSlice data = some (body, rest) :=
  Option.ite_none_right_eq_some.mp taken

theorem utf8_of_fromUtf8 {bytes : Bytes} {text : String} (read : fromUtf8 bytes = some text) :
    utf8 text = bytes := by
  rw [fromUtf8, String.fromUTF8?] at read
  split_ifs at read with valid
  obtain rfl := Option.some.inj read
  rfl

theorem takeString_eq_some {wireType : Nat} {data rest : Bytes} {text : String}
    (taken : takeString wireType data = some (text, rest)) :
    wireType = 2 ∧ takeSlice data = some (utf8 text, rest) := by
  obtain ⟨⟨body, tail⟩, isBody, chosen⟩ := Option.bind_eq_some_iff.mp taken
  obtain ⟨read, valid, same⟩ := Option.map_eq_some_iff.mp chosen
  obtain ⟨rfl, rfl⟩ := Prod.mk.inj same
  rw [utf8_of_fromUtf8 valid]
  exact takeBytes_eq_some isBody

/-! ## Fields that are skipped -/

theorem skipBytes_eq_some {count : Nat} {data rest : Bytes}
    (skipped : skipBytes count data = some rest) :
    ∃ used : Bytes, data = used ++ rest ∧ used.length = count := by
  obtain ⟨enough, same⟩ := Option.ite_none_right_eq_some.mp skipped
  obtain rfl := Option.some.inj same
  exact ⟨data.take count, (List.take_append_drop _ _).symm, List.length_take_of_le enough⟩

/-- The end of a group is announced by a key. -/
theorem skipGroup_eq_some {skipInner : Nat → Nat → Bytes → Option Bytes} {tag fields : Nat}
    {data rest : Bytes}
    (inner : ∀ tag wireType data rest, skipInner tag wireType data = some rest →
      ∃ used, data = used ++ rest)
    (skipped : skipGroup skipInner tag fields data = some rest) :
    ∃ used, data = used ++ rest ∧ 1 ≤ lows used := by
  induction fields generalizing data with
  | zero => cases skipped
  | succ fields inductionHypothesis =>
      obtain ⟨⟨other, wireType, tail⟩, read, chosen⟩ := Option.bind_eq_some_iff.mp skipped
      obtain ⟨key, rfl, one⟩ := readKey_eq_some read
      dsimp only at chosen
      split_ifs at chosen with ends same
      · obtain rfl := Option.some.inj chosen
        exact ⟨key, rfl, Nat.le_of_eq one.symm⟩
      · obtain ⟨middle, skippedInner, later⟩ := Option.bind_eq_some_iff.mp chosen
        obtain ⟨used, rfl⟩ := inner _ _ _ _ skippedInner
        obtain ⟨more, rfl, some⟩ := inductionHypothesis later
        refine ⟨key ++ used ++ more, by simp only [List.append_assoc], ?_⟩
        simp only [lows_append]
        omega

/-- A field that is skipped takes up a byte below 128 besides its key, or four bytes. -/
theorem skipField_eq_some {depth tag wireType : Nat} {data rest : Bytes}
    (skipped : skipField depth tag wireType data = some rest) :
    ∃ used, data = used ++ rest ∧ (1 ≤ lows used ∨ 4 ≤ used.length) := by
  induction depth generalizing tag wireType data rest with
  | zero => cases skipped
  | succ depth inductionHypothesis =>
      unfold skipField at skipped
      split at skipped
      · obtain ⟨⟨value, tail⟩, decoded, rfl⟩ := Option.map_eq_some_iff.mp skipped
        obtain ⟨used, split, one, -⟩ := decodeVarint_eq_some decoded
        exact ⟨used, split, .inl (Nat.le_of_eq one.symm)⟩
      · obtain ⟨used, split, length⟩ := skipBytes_eq_some skipped
        exact ⟨used, split, .inr (by omega)⟩
      · obtain ⟨⟨length, tail⟩, decoded, slice⟩ := Option.bind_eq_some_iff.mp skipped
        obtain ⟨used, rfl, one, -⟩ := decodeVarint_eq_some decoded
        obtain ⟨body, rfl, -⟩ := skipBytes_eq_some slice
        refine ⟨used ++ body, by rw [List.append_assoc], .inl ?_⟩
        rw [lows_append]
        omega
      · obtain ⟨used, split, some⟩ := skipGroup_eq_some
          (fun _ _ _ _ skippedInner => (inductionHypothesis skippedInner).imp fun _ => And.left)
          skipped
        exact ⟨used, split, .inl some⟩
      · obtain ⟨used, split, length⟩ := skipBytes_eq_some skipped
        exact ⟨used, split, .inr (by omega)⟩
      · cases skipped

/-- A field that is skipped, with its key. -/
theorem skipField_within {depth tag wireType : Nat} {key data rest : Bytes}
    (isKey : lows key = 1) (skipped : skipField depth tag wireType data = some rest)
    (outline : Bytes) : Within (outline ++ rest) (outline ++ (key ++ data)) := by
  obtain ⟨used, rfl, some⟩ := skipField_eq_some skipped
  have length := lows_le_length key
  have lows := lows_le_length used
  refine ⟨?_, ?_, ?_⟩ <;> simp only [lows_append, List.length_append] <;> omega

/-! ## Outlines -/

def outlineVarint (value : Nat) : Bytes :=
  if value = 0 then [] else 0 :: varint value

/-- A number of 32 bits, written as one. -/
def outlineInt32 (value : Int32) : Bytes :=
  outlineVarint value.toUInt32.toNat

def outlineBytes (bytes : Bytes) : Bytes :=
  if bytes = [] then [] else 0 :: 0 :: bytes

def outlineString (text : String) : Bytes :=
  outlineBytes (utf8 text)

def outlineEntry (entry : String × Bytes) : Bytes :=
  [outlineString entry.1, outlineBytes entry.2].flatten

def outlineEntries (entries : List (Sigma fun _ : String => Bytes)) : Bytes :=
  entries.flatMap fun entry => 0 :: 0 :: outlineEntry (entry.1, entry.2)

def outlineMetadata (metadata : StringMap Bytes) : Bytes :=
  outlineEntries metadata.entries

namespace SystemCommand

def outlines (command : SystemCommand) : List Bytes :=
  [outlineInt32 command.type, outlineInt32 command.format, outlineString command.message,
    outlineMetadata command.metadata, outlineBytes command.data,
    outlineString command.compression, outlineString command.encryption]

def outline (command : SystemCommand) : Bytes :=
  command.outlines.flatten

end SystemCommand

namespace PayloadCommand

def outlines (command : PayloadCommand) : List Bytes :=
  [outlineInt32 command.type, outlineString command.messageId, outlineBytes command.payload,
    outlineMetadata command.metadata, outlineVarint command.seq.toNat]

def outline (command : PayloadCommand) : Bytes :=
  command.outlines.flatten

end PayloadCommand

namespace NotificationCommand

def outlines (command : NotificationCommand) : List Bytes :=
  [outlineInt32 command.type, outlineString command.title, outlineBytes command.content,
    outlineMetadata command.metadata]

def outline (command : NotificationCommand) : Bytes :=
  command.outlines.flatten

end NotificationCommand

namespace CustomCommand

def outlines (command : CustomCommand) : List Bytes :=
  [outlineString command.name, outlineBytes command.data, outlineMetadata command.metadata]

def outline (command : CustomCommand) : Bytes :=
  command.outlines.flatten

end CustomCommand

def CommandType.outline : CommandType → Bytes
  | .system command => command.outline
  | .payload command => command.outline
  | .notification command => command.outline
  | .custom command => command.outline

/-- The one field of a message that holds another message. -/
def outlineMessage {M : Type} (outline : M → Bytes) (message : Option M) : Bytes :=
  message.elim [] fun message => 0 :: 0 :: outline message

def Command.outline (command : Command) : Bytes :=
  [outlineMessage CommandType.outline command.type].flatten

namespace Frame

def outlines (frame : Frame) : List Bytes :=
  [outlineMessage Command.outline frame.command, outlineString frame.messageId,
    outlineInt32 frame.reliability, outlineVarint frame.timestamp.toNat,
    outlineMetadata frame.metadata]

def outline (frame : Frame) : Bytes :=
  frame.outlines.flatten

end Frame

/-! ## What a value takes up -/

section Values

variable {wireType : Nat} {data rest : Bytes}

/-- A field that is there has two bytes below 128, those of its key and of its length or number. -/
theorem two_le_lows_outlineVarint {value : Nat} (fits : value < 128 ^ 10) :
    outlineVarint value = [] ∨ 2 ≤ lows (outlineVarint value) := by
  unfold outlineVarint
  split_ifs
  · exact .inl rfl
  · rw [lows_zero_cons, lows_varint fits]
    exact .inr (Nat.le_refl _)

theorem two_le_lows_outlineInt32 (value : Int32) :
    outlineInt32 value = [] ∨ 2 ≤ lows (outlineInt32 value) :=
  two_le_lows_outlineVarint (by have := value.toUInt32.toNat_lt; omega)

theorem two_le_lows_outlineBytes (bytes : Bytes) :
    outlineBytes bytes = [] ∨ 2 ≤ lows (outlineBytes bytes) := by
  unfold outlineBytes
  split_ifs
  · exact .inl rfl
  · rw [lows_zero_cons, lows_zero_cons]
    exact .inr (by omega)

/-- What was there before may be lost. -/
theorem Within.replaced {new old : Bytes} (within : Within (new ++ rest) (0 :: data))
    (two : old = [] ∨ 2 ≤ lows old) : Within (new ++ rest) (old ++ 0 :: data) := by
  obtain rfl | two := two
  · exact within
  · have length := lows_le_length old
    obtain ⟨less, shorter, gap⟩ := within
    refine .of_two ?_ ?_
    · rw [lows_append old]
      omega
    · rw [@List.length_append _ old]
      omega

theorem outlineVarint_within {value kept : Nat} (decoded : decodeVarint data = some (value, rest))
    (le : kept ≤ value) : Within (outlineVarint kept ++ rest) (0 :: data) := by
  obtain ⟨used, rfl, one, length, fits⟩ := decodeVarint_eq_some decoded
  have some := lows_le_length used
  unfold outlineVarint
  split_ifs
  · refine .of_two ?_ ?_
    · simp only [List.nil_append, lows_zero_cons, lows_append]
      omega
    · simp only [List.nil_append, List.length_cons, List.length_append]
      omega
  · have shorter := Nat.le_trans (length_varintWithin_mono 10 le) length
    refine .of_lows ?_ ?_
    · rw [List.cons_append, lows_zero_cons, lows_zero_cons, lows_append, lows_append, one,
        lows_varint (by omega)]
    · simp only [List.cons_append, List.length_cons, List.length_append]
      exact Nat.succ_le_succ (Nat.add_le_add_right shorter _)

theorem takeInt32_within {value : Int32} (taken : takeInt32 wireType data = some (value, rest))
    (old : Int32) : Within (outlineInt32 value ++ rest) (outlineInt32 old ++ 0 :: data) := by
  obtain ⟨⟨number, tail⟩, isNumber, same⟩ := Option.map_eq_some_iff.mp taken
  obtain ⟨rfl, rfl⟩ := Prod.mk.inj same
  obtain ⟨-, decoded⟩ := takeVarint_eq_some isNumber
  refine Within.replaced (outlineVarint_within decoded ?_) (two_le_lows_outlineInt32 old)
  have kept : (Int32.ofNat number).toUInt32.toNat = number % 2 ^ 32 := rfl
  rw [kept]
  exact Nat.mod_le _ _

theorem takeUInt64_within {value : UInt64} (taken : takeUInt64 wireType data = some (value, rest))
    (old : UInt64) :
    Within (outlineVarint value.toNat ++ rest) (outlineVarint old.toNat ++ 0 :: data) := by
  obtain ⟨⟨number, tail⟩, isNumber, same⟩ := Option.map_eq_some_iff.mp taken
  obtain ⟨rfl, rfl⟩ := Prod.mk.inj same
  obtain ⟨-, decoded⟩ := takeVarint_eq_some isNumber
  refine Within.replaced (outlineVarint_within decoded ?_) (two_le_lows_outlineVarint ?_)
  · rw [UInt64.toNat_ofNat']
    exact Nat.mod_le _ _
  · have := old.toNat_lt
    omega

theorem outlineBytes_within {body : Bytes} (taken : takeSlice data = some (body, rest))
    (old : Bytes) : Within (outlineBytes body ++ rest) (outlineBytes old ++ 0 :: data) := by
  obtain ⟨used, rfl, one⟩ := takeSlice_eq_some taken
  have some := lows_le_length used
  refine Within.replaced ?_ (two_le_lows_outlineBytes old)
  unfold outlineBytes
  split_ifs with isEmpty
  · refine .of_two ?_ ?_
    · simp only [isEmpty, List.nil_append, lows_zero_cons, lows_append]
      omega
    · simp only [isEmpty, List.nil_append, List.length_cons, List.length_append]
      omega
  · refine .of_lows ?_ ?_
    · simp only [List.cons_append, lows_zero_cons, lows_append]
      omega
    · simp only [List.cons_append, List.length_cons, List.length_append]
      omega

theorem takeBytes_within {body : Bytes} (taken : takeBytes wireType data = some (body, rest))
    (old : Bytes) : Within (outlineBytes body ++ rest) (outlineBytes old ++ 0 :: data) :=
  outlineBytes_within (takeBytes_eq_some taken).2 old

theorem takeString_within {text : String} (taken : takeString wireType data = some (text, rest))
    (old : String) : Within (outlineString text ++ rest) (outlineString old ++ 0 :: data) :=
  outlineBytes_within (takeString_eq_some taken).2 (utf8 old)

end Values

/-! ## What a field takes up -/

/-- Nothing is written for a message that is not longer than what is read of it. -/
def Conserves {M : Type} (outline : M → Bytes) (field : Bytes → M → Option (M × Bytes)) : Prop :=
  ∀ data message next rest, field data message = some (next, rest) →
    Within (outline next ++ rest) (outline message ++ data)

namespace Conserves

variable {M : Type} {outline : M → Bytes} {field : Bytes → M → Option (M × Bytes)}

/-- A whole message. -/
theorem reading (conserves : Conserves outline field) {data : Bytes} {message final : M}
    (reading : Reading field data message final) :
    Within (outline final) (outline message ++ data) := by
  have falls := @Reading.falls _ _ _ _ _ _ _ Within _ _
    (fun message rest => outline message ++ rest) conserves reading
  rwa [List.append_nil] at falls

/-- A message within another one, in the place of an earlier one or of none. -/
theorem takeMessage (conserves : Conserves outline field) {wireType : Nat} {data rest : Bytes}
    {message final : M} (taken : takeMessage field wireType data message = some (final, rest))
    {old : Bytes} (isOld : outline message = [] ∧ (old = [] ∨ 2 ≤ lows old) ∨
      old = 0 :: 0 :: outline message) :
    Within (0 :: 0 :: outline final ++ rest) (old ++ 0 :: data) := by
  obtain ⟨⟨body, tail⟩, isBody, merged⟩ := Option.bind_eq_some_iff.mp taken
  obtain ⟨last, isLast, same⟩ := Option.map_eq_some_iff.mp merged
  obtain ⟨rfl, rfl⟩ := Prod.mk.inj same
  obtain ⟨used, rfl, one⟩ := takeSlice_eq_some (takeBytes_eq_some isBody).2
  have some := lows_le_length used
  obtain ⟨less, shorter, gap⟩ := conserves.reading (.of_mergeFields isLast)
  simp only [lows_append, List.length_append] at less shorter gap
  have few := lows_le_length old
  obtain ⟨blank, rfl | two⟩ | rfl := isOld
  · rw [blank] at less shorter gap
    refine ⟨?_, ?_, ?_⟩ <;>
      simp only [List.cons_append, List.nil_append, lows_zero_cons, lows_append, List.length_cons,
        List.length_append, lows_nil, List.length_nil] at * <;> omega
  · rw [blank] at less shorter gap
    refine .of_two ?_ ?_ <;>
      simp only [List.cons_append, lows_zero_cons, lows_append, List.length_cons, lows_nil,
        List.length_append, List.length_nil] at * <;> omega
  · refine .of_two ?_ ?_ <;>
      simp only [List.cons_append, lows_zero_cons, lows_append, List.length_cons,
        List.length_append] <;> omega

end Conserves

/-! ## Maps -/

theorem mergeEntryField_conserves (depth : Nat) :
    Conserves outlineEntry (mergeEntryField depth) := by
  intro data entry next rest merged
  obtain ⟨⟨tag, wireType, value⟩, read, chosen⟩ := Option.bind_eq_some_iff.mp merged
  obtain ⟨key, rfl, isKey⟩ := readKey_eq_some read
  dsimp only at chosen
  split at chosen
  · obtain ⟨⟨text, tail⟩, taken, ⟨⟩⟩ := Option.map_eq_some_iff.mp chosen
    exact .set [outlineString entry.1, outlineBytes entry.2] 0 rfl isKey
      (takeString_within taken entry.1)
  · obtain ⟨⟨bytes, tail⟩, taken, ⟨⟩⟩ := Option.map_eq_some_iff.mp chosen
    exact .set [outlineString entry.1, outlineBytes entry.2] 1 rfl isKey
      (takeBytes_within taken entry.2)
  · obtain ⟨tail, skipped, ⟨⟩⟩ := Option.map_eq_some_iff.mp chosen
    exact skipField_within isKey skipped _

/-- A key that is removed takes an entry with it, or nothing. -/
theorem outlineEntries_kerase (key : String) (entries : List (Sigma fun _ : String => Bytes)) :
    ∃ lost, (lost = [] ∨ 2 ≤ lows lost) ∧
      lows (outlineEntries entries) = lows (outlineEntries (entries.kerase key)) + lows lost ∧
      (outlineEntries entries).length =
        (outlineEntries (entries.kerase key)).length + lost.length := by
  induction entries with
  | nil => exact ⟨[], .inl rfl, rfl, rfl⟩
  | cons entry entries inductionHypothesis =>
      obtain ⟨lost, two, lows, length⟩ := inductionHypothesis
      by_cases same : key = entry.1
      · refine ⟨0 :: 0 :: outlineEntry (entry.1, entry.2), .inr ?_, ?_, ?_⟩
        · simp only [lows_zero_cons]
          omega
        · rw [List.kerase_cons_eq same, outlineEntries, List.flatMap_cons, lows_append,
            Nat.add_comm]
          rfl
        · rw [List.kerase_cons_eq same, outlineEntries, List.flatMap_cons, List.length_append,
            Nat.add_comm]
          rfl
      · refine ⟨lost, two, ?_, ?_⟩
        · rw [List.kerase_cons_ne same, outlineEntries, outlineEntries, List.flatMap_cons,
            List.flatMap_cons, lows_append, lows_append, Nat.add_assoc]
          exact congrArg _ lows
        · rw [List.kerase_cons_ne same, outlineEntries, outlineEntries, List.flatMap_cons,
            List.flatMap_cons, List.length_append, List.length_append, Nat.add_assoc]
          exact congrArg _ length

theorem outlineMetadata_insertLast (map : StringMap Bytes) (key : String) (value : Bytes) :
    outlineMetadata (map.insertLast key value) =
      outlineEntries (map.entries.kerase key) ++ (0 :: 0 :: outlineEntry (key, value)) := by
  show outlineEntries (map.entries.kerase key ++ [⟨key, value⟩]) = _
  rw [outlineEntries, List.flatMap_append, List.flatMap_singleton]
  rfl

/-- An entry that is read and inserted. -/
theorem takeEntry_within {depth : Nat} {data rest : Bytes} {map next : StringMap Bytes}
    (taken : takeEntry depth data map = some (next, rest)) :
    Within (outlineMetadata next ++ rest) (outlineMetadata map ++ 0 :: data) := by
  obtain ⟨⟨body, tail⟩, isBody, merged⟩ := Option.bind_eq_some_iff.mp taken
  obtain ⟨⟨key, value⟩, isLast, ⟨⟩⟩ := Option.map_eq_some_iff.mp merged
  obtain ⟨used, rfl, one⟩ := takeSlice_eq_some isBody
  obtain ⟨less, shorter, gap⟩ :=
    (mergeEntryField_conserves depth).reading (.of_mergeFields isLast)
  have blank : outlineEntry ("", []) = [] := rfl
  rw [blank, List.nil_append] at less shorter gap
  obtain ⟨lost, two, lows, length⟩ := outlineEntries_kerase key map.entries
  have some := lows_le_length used
  have few := lows_le_length lost
  have nothing : lost = [] → Common.lows lost = 0 ∧ lost.length = 0 := by
    rintro rfl
    exact ⟨rfl, rfl⟩
  have either : Common.lows lost = 0 ∧ lost.length = 0 ∨ 2 ≤ Common.lows lost :=
    two.imp_left nothing
  rw [outlineMetadata_insertLast]
  unfold outlineMetadata
  refine ⟨?_, ?_, ?_⟩ <;>
    simp only [List.append_assoc, List.cons_append, lows_zero_cons, lows_append,
      List.length_cons, List.length_append] <;> omega

/-! ## Commands -/

theorem SystemCommand.conserves : Conserves outline mergeField := by
  intro data command next rest merged
  obtain ⟨⟨tag, wireType, value⟩, read, chosen⟩ := Option.bind_eq_some_iff.mp merged
  obtain ⟨key, rfl, isKey⟩ := readKey_eq_some read
  dsimp only at chosen
  split at chosen
  · obtain ⟨⟨number, tail⟩, taken, ⟨⟩⟩ := Option.map_eq_some_iff.mp chosen
    exact .set command.outlines 0 rfl isKey (takeInt32_within taken command.type)
  · obtain ⟨⟨number, tail⟩, taken, ⟨⟩⟩ := Option.map_eq_some_iff.mp chosen
    exact .set command.outlines 1 rfl isKey (takeInt32_within taken command.format)
  · obtain ⟨⟨text, tail⟩, taken, ⟨⟩⟩ := Option.map_eq_some_iff.mp chosen
    exact .set command.outlines 2 rfl isKey (takeString_within taken command.message)
  · obtain ⟨⟨map, tail⟩, taken, ⟨⟩⟩ := Option.map_eq_some_iff.mp chosen
    exact .set command.outlines 3 rfl isKey (takeEntry_within taken)
  · obtain ⟨⟨bytes, tail⟩, taken, ⟨⟩⟩ := Option.map_eq_some_iff.mp chosen
    exact .set command.outlines 4 rfl isKey (takeBytes_within taken command.data)
  · obtain ⟨⟨text, tail⟩, taken, ⟨⟩⟩ := Option.map_eq_some_iff.mp chosen
    exact .set command.outlines 5 rfl isKey (takeString_within taken command.compression)
  · obtain ⟨⟨text, tail⟩, taken, ⟨⟩⟩ := Option.map_eq_some_iff.mp chosen
    exact .set command.outlines 6 rfl isKey (takeString_within taken command.encryption)
  · obtain ⟨tail, skipped, ⟨⟩⟩ := Option.map_eq_some_iff.mp chosen
    exact skipField_within isKey skipped _

theorem PayloadCommand.conserves : Conserves outline mergeField := by
  intro data command next rest merged
  obtain ⟨⟨tag, wireType, value⟩, read, chosen⟩ := Option.bind_eq_some_iff.mp merged
  obtain ⟨key, rfl, isKey⟩ := readKey_eq_some read
  dsimp only at chosen
  split at chosen
  · obtain ⟨⟨number, tail⟩, taken, ⟨⟩⟩ := Option.map_eq_some_iff.mp chosen
    exact .set command.outlines 0 rfl isKey (takeInt32_within taken command.type)
  · obtain ⟨⟨text, tail⟩, taken, ⟨⟩⟩ := Option.map_eq_some_iff.mp chosen
    exact .set command.outlines 1 rfl isKey (takeString_within taken command.messageId)
  · obtain ⟨⟨bytes, tail⟩, taken, ⟨⟩⟩ := Option.map_eq_some_iff.mp chosen
    exact .set command.outlines 2 rfl isKey (takeBytes_within taken command.payload)
  · obtain ⟨⟨map, tail⟩, taken, ⟨⟩⟩ := Option.map_eq_some_iff.mp chosen
    exact .set command.outlines 3 rfl isKey (takeEntry_within taken)
  · obtain ⟨⟨number, tail⟩, taken, ⟨⟩⟩ := Option.map_eq_some_iff.mp chosen
    exact .set command.outlines 4 rfl isKey (takeUInt64_within taken command.seq)
  · obtain ⟨tail, skipped, ⟨⟩⟩ := Option.map_eq_some_iff.mp chosen
    exact skipField_within isKey skipped _

theorem NotificationCommand.conserves : Conserves outline mergeField := by
  intro data command next rest merged
  obtain ⟨⟨tag, wireType, value⟩, read, chosen⟩ := Option.bind_eq_some_iff.mp merged
  obtain ⟨key, rfl, isKey⟩ := readKey_eq_some read
  dsimp only at chosen
  split at chosen
  · obtain ⟨⟨number, tail⟩, taken, ⟨⟩⟩ := Option.map_eq_some_iff.mp chosen
    exact .set command.outlines 0 rfl isKey (takeInt32_within taken command.type)
  · obtain ⟨⟨text, tail⟩, taken, ⟨⟩⟩ := Option.map_eq_some_iff.mp chosen
    exact .set command.outlines 1 rfl isKey (takeString_within taken command.title)
  · obtain ⟨⟨bytes, tail⟩, taken, ⟨⟩⟩ := Option.map_eq_some_iff.mp chosen
    exact .set command.outlines 2 rfl isKey (takeBytes_within taken command.content)
  · obtain ⟨⟨map, tail⟩, taken, ⟨⟩⟩ := Option.map_eq_some_iff.mp chosen
    exact .set command.outlines 3 rfl isKey (takeEntry_within taken)
  · obtain ⟨tail, skipped, ⟨⟩⟩ := Option.map_eq_some_iff.mp chosen
    exact skipField_within isKey skipped _

theorem CustomCommand.conserves : Conserves outline mergeField := by
  intro data command next rest merged
  obtain ⟨⟨tag, wireType, value⟩, read, chosen⟩ := Option.bind_eq_some_iff.mp merged
  obtain ⟨key, rfl, isKey⟩ := readKey_eq_some read
  dsimp only at chosen
  split at chosen
  · obtain ⟨⟨text, tail⟩, taken, ⟨⟩⟩ := Option.map_eq_some_iff.mp chosen
    exact .set command.outlines 0 rfl isKey (takeString_within taken command.name)
  · obtain ⟨⟨bytes, tail⟩, taken, ⟨⟩⟩ := Option.map_eq_some_iff.mp chosen
    exact .set command.outlines 1 rfl isKey (takeBytes_within taken command.data)
  · obtain ⟨⟨map, tail⟩, taken, ⟨⟩⟩ := Option.map_eq_some_iff.mp chosen
    exact .set command.outlines 2 rfl isKey (takeEntry_within taken)
  · obtain ⟨tail, skipped, ⟨⟩⟩ := Option.map_eq_some_iff.mp chosen
    exact skipField_within isKey skipped _

/-- The command of another kind is lost. -/
theorem two_le_lows_outlineMessage {M : Type} (outline : M → Bytes) (message : Option M) :
    outlineMessage outline message = [] ∨ 2 ≤ lows (outlineMessage outline message) := by
  cases message with
  | none => exact .inl rfl
  | some message =>
      rw [outlineMessage, Option.elim_some, lows_zero_cons, lows_zero_cons]
      exact .inr (by omega)

theorem CommandType.merge_within {tag wireType : Nat} {data rest : Bytes}
    {old : Option CommandType} {type : CommandType}
    (merged : CommandType.merge tag wireType data old = some (type, rest)) :
    Within (0 :: 0 :: type.outline ++ rest)
      (outlineMessage CommandType.outline old ++ 0 :: data) := by
  have lost := two_le_lows_outlineMessage CommandType.outline old
  unfold CommandType.merge at merged
  split at merged
  · obtain ⟨⟨command, tail⟩, taken, ⟨⟩⟩ := Option.map_eq_some_iff.mp merged
    refine SystemCommand.conserves.takeMessage taken ?_
    split
    · exact .inr rfl
    · exact .inl ⟨rfl, lost⟩
  · obtain ⟨⟨command, tail⟩, taken, ⟨⟩⟩ := Option.map_eq_some_iff.mp merged
    refine PayloadCommand.conserves.takeMessage taken ?_
    split
    · exact .inr rfl
    · exact .inl ⟨rfl, lost⟩
  · obtain ⟨⟨command, tail⟩, taken, ⟨⟩⟩ := Option.map_eq_some_iff.mp merged
    refine NotificationCommand.conserves.takeMessage taken ?_
    split
    · exact .inr rfl
    · exact .inl ⟨rfl, lost⟩
  · obtain ⟨⟨command, tail⟩, taken, ⟨⟩⟩ := Option.map_eq_some_iff.mp merged
    refine CustomCommand.conserves.takeMessage taken ?_
    split
    · exact .inr rfl
    · exact .inl ⟨rfl, lost⟩
  · cases merged

theorem Command.conserves : Conserves outline mergeField := by
  intro data command next rest merged
  obtain ⟨⟨tag, wireType, value⟩, read, chosen⟩ := Option.bind_eq_some_iff.mp merged
  obtain ⟨key, rfl, isKey⟩ := readKey_eq_some read
  dsimp only at chosen
  split_ifs at chosen
  · obtain ⟨⟨type, tail⟩, typed, ⟨⟩⟩ := Option.map_eq_some_iff.mp chosen
    exact .set [outlineMessage CommandType.outline command.type] 0 rfl isKey
      (CommandType.merge_within typed)
  · obtain ⟨tail, skipped, ⟨⟩⟩ := Option.map_eq_some_iff.mp chosen
    exact skipField_within isKey skipped _

/-! ## Frames -/

/-- **No field makes the outline of a frame grow by more than it takes up.** -/
theorem Frame.conserves : Conserves outline mergeField := by
  intro data frame next rest merged
  obtain ⟨⟨tag, wireType, value⟩, read, chosen⟩ := Option.bind_eq_some_iff.mp merged
  obtain ⟨key, rfl, isKey⟩ := readKey_eq_some read
  dsimp only [mergeValue] at chosen
  split at chosen
  · obtain ⟨⟨command, tail⟩, taken, ⟨⟩⟩ := Option.map_eq_some_iff.mp chosen
    refine .set frame.outlines 0 rfl isKey (Command.conserves.takeMessage taken ?_)
    cases frame.command with
    | none => exact .inl ⟨rfl, .inl rfl⟩
    | some command => exact .inr rfl
  · obtain ⟨⟨text, tail⟩, taken, ⟨⟩⟩ := Option.map_eq_some_iff.mp chosen
    exact .set frame.outlines 1 rfl isKey (takeString_within taken frame.messageId)
  · obtain ⟨⟨number, tail⟩, taken, ⟨⟩⟩ := Option.map_eq_some_iff.mp chosen
    exact .set frame.outlines 2 rfl isKey (takeInt32_within taken frame.reliability)
  · obtain ⟨⟨number, tail⟩, taken, ⟨⟩⟩ := Option.map_eq_some_iff.mp chosen
    exact .set frame.outlines 3 rfl isKey (takeUInt64_within taken frame.timestamp)
  · obtain ⟨⟨map, tail⟩, taken, ⟨⟩⟩ := Option.map_eq_some_iff.mp chosen
    exact .set frame.outlines 4 rfl isKey (takeEntry_within taken)
  · obtain ⟨tail, skipped, ⟨⟩⟩ := Option.map_eq_some_iff.mp chosen
    exact skipField_within isKey skipped _

/-! ## Encodings -/

/-- The 64 bits of a number of 32 bits. -/
theorem toNat_extended (value : Int32) : (value.toInt64.toUInt64.toNat : Int) =
    if value.toInt < 0 then 2 ^ 64 + value.toInt else value.toInt := by
  have wide : value.toInt64.toInt = value.toInt := value.toInt_toInt64
  have cases := BitVec.toInt_eq_toNat_cond value.toInt64.toBitVec
  have bound := value.toInt64.toUInt64.toNat_lt
  have number : value.toInt64.toBitVec.toNat = value.toInt64.toUInt64.toNat := rfl
  have signed : value.toInt64.toBitVec.toInt = value.toInt64.toInt := rfl
  rw [number, signed, wide] at cases
  split_ifs at cases <;> split_ifs <;> omega

/-- The outline of an encoding has the same bytes below 128; and where numbers and lengths are
small, it has as many bytes. -/
structure Outlined (small : Prop) (outline encoded : Bytes) : Prop where
  lows : encoded.length < 128 ^ 10 → lows outline = lows encoded
  length : small → encoded.length < 128 → outline.length = encoded.length

namespace Outlined

variable {small : Prop} {first second first' second' : Bytes}

theorem append (left : Outlined small first first') (right : Outlined small second second') :
    Outlined small (first ++ second) (first' ++ second') := by
  constructor
  · intro fits
    rw [List.length_append] at fits
    rw [lows_append, lows_append, left.lows (by omega), right.lows (by omega)]
  · intro isSmall fits
    rw [List.length_append] at fits
    rw [List.length_append, List.length_append, left.length isSmall (by omega),
      right.length isSmall (by omega)]

/-- The last one of the fields. -/
theorem last (outlined : Outlined small first first') : Outlined small (first ++ []) first' := by
  rwa [List.append_nil]

theorem nil : Outlined small [] [] :=
  ⟨fun _ => rfl, fun _ _ => rfl⟩

theorem mono {other : Prop} (outlined : Outlined small first first') (implies : other → small) :
    Outlined other first first' :=
  ⟨outlined.lows, fun isOther => outlined.length (implies isOther)⟩

theorem delimited {tag : Nat} (few : tag < 15) (outlined : Outlined small first first') :
    Outlined small (0 :: 0 :: first) (protobufDelimited tag first') := by
  have isKey : varint (8 * tag + 2) = [UInt8.ofNat (8 * tag + 2)] := varint_of_lt (by omega)
  have low : (UInt8.ofNat (8 * tag + 2)).toNat < 128 := by
    rw [UInt8.toNat_ofNat']
    omega
  unfold protobufDelimited
  constructor
  · intro fits
    simp only [isKey, List.length_append, List.length_singleton] at fits
    rw [isKey, List.append_assoc, List.singleton_append, lows_cons_of_low low, lows_append,
      lows_varint (by omega), lows_zero_cons, lows_zero_cons, outlined.lows (by omega),
      Nat.add_comm 1]
  · intro isSmall fits
    simp only [isKey, List.length_append, List.length_singleton] at fits
    rw [isKey, varint_of_lt (by omega)]
    simp only [List.length_cons, List.length_append, List.length_nil]
    rw [outlined.length isSmall (by omega)]
    omega

theorem bytes {tag : Nat} (few : tag < 15) (bytes : Bytes) :
    Outlined small (outlineBytes bytes) (protobufBytes tag bytes) := by
  unfold outlineBytes protobufBytes
  split_ifs
  · exact nil
  · exact delimited few ⟨fun _ => rfl, fun _ _ => rfl⟩

theorem varint {tag : Nat} (few : tag < 16) (value : Nat) :
    Outlined small (outlineVarint value) (protobufVarint tag value) := by
  unfold outlineVarint protobufVarint
  split_ifs
  · exact nil
  · rw [varint_of_lt (show 8 * tag < 128 by omega)]
    constructor
    · intro _
      rw [List.singleton_append, lows_zero_cons, lows_cons_of_low]
      rw [UInt8.toNat_ofNat']
      omega
    · intro _ _
      rfl

theorem int32 {tag : Nat} (few : tag < 16) {value : Int32} (positive : small → 0 ≤ value.toInt) :
    Outlined small (outlineInt32 value) (protobufInt32 tag value) := by
  have unsigned := value.toInt64.toUInt64.toNat_lt
  have narrow := value.toUInt32.toNat_lt
  have outlined := @varint small tag few value.toInt64.toUInt64.toNat
  have isZero : value.toUInt32.toNat = 0 ↔ value.toInt64.toUInt64.toNat = 0 := by
    have encoded := @protobufInt32_eq_nil_iff tag value
    rw [protobufInt32, protobufVarint_eq_nil_iff] at encoded
    rw [encoded]
    constructor
    · intro none
      exact congrArg UInt32.toInt32 (UInt32.toNat_inj.mp none)
    · rintro rfl
      rfl
  constructor
  · intro fits
    have lows := outlined.lows fits
    rw [protobufInt32, ← lows]
    unfold outlineInt32 outlineVarint
    by_cases none : value.toUInt32.toNat = 0
    · rw [if_pos none, if_pos (isZero.mp none)]
    · rw [if_neg none, if_neg (mt isZero.mpr none), lows_zero_cons, lows_zero_cons,
        lows_varint (by omega), lows_varint (by omega)]
  · intro isSmall fits
    have same : value.toUInt32.toNat = value.toInt64.toUInt64.toNat := by
      have extended := toNat_extended value
      have cases := BitVec.toInt_eq_toNat_cond value.toBitVec
      have number : value.toBitVec.toNat = value.toUInt32.toNat := rfl
      have signed : value.toBitVec.toInt = value.toInt := rfl
      have positive := positive isSmall
      rw [number, signed] at cases
      rw [if_neg (Int.not_lt_of_ge positive)] at extended
      split_ifs at cases <;> omega
    rw [outlineInt32, same]
    exact outlined.length isSmall fits

theorem metadata {tag : Nat} (few : tag < 15) (map : StringMap Bytes) :
    Outlined small (outlineMetadata map) (protobufMetadata tag map) := by
  unfold outlineMetadata outlineEntries protobufMetadata
  induction map.entries with
  | nil => exact nil
  | cons entry entries inductionHypothesis =>
      rw [List.flatMap_cons, List.flatMap_cons]
      refine append (delimited few ?_) inductionHypothesis
      exact append (bytes (by decide) _) (last (bytes (by decide) _))

theorem message {M : Type} {outline encode : M → Bytes} {tag : Nat} (few : tag < 15)
    {message : Option M}
    (inner : ∀ inner ∈ message, Outlined small (outline inner) (encode inner)) :
    Outlined small (outlineMessage outline message)
      (message.elim [] fun message => protobufDelimited tag (encode message)) := by
  cases message with
  | none => exact nil
  | some message => exact delimited few (inner message rfl)

end Outlined

/-- The numbers of a command that may be negative. -/
def CommandType.int32s : CommandType → List Int32
  | .system command => [command.type, command.format]
  | .payload command => [command.type]
  | .notification command => [command.type]
  | .custom _ => []

/-- The numbers of a frame that may be negative. -/
def Frame.int32s (frame : Frame) : List Int32 :=
  frame.reliability :: frame.commandType.elim [] CommandType.int32s

theorem CommandType.outlined (type : CommandType) :
    Outlined (∀ value ∈ type.int32s, 0 ≤ value.toInt) (0 :: 0 :: type.outline) type.protobuf := by
  cases type with
  | system command =>
      refine .delimited (by decide) ?_
      simp only [SystemCommand.protobuf, List.append_assoc]
      refine .append (.int32 (by decide) fun positive => positive _ (.head _)) (.append
        (.int32 (by decide) fun positive => positive _ (.tail _ (.head _))) ?_)
      exact .append (.bytes (by decide) _) (.append (.metadata (by decide) _) (.append
        (.bytes (by decide) _) (.append (.bytes (by decide) _) (.last (.bytes (by decide) _)))))
  | payload command =>
      refine .delimited (by decide) ?_
      simp only [PayloadCommand.protobuf, List.append_assoc]
      exact .append (.int32 (by decide) fun positive => positive _ (.head _)) (.append
        (.bytes (by decide) _) (.append (.bytes (by decide) _) (.append
          (.metadata (by decide) _) (.last (.varint (by decide) _)))))
  | notification command =>
      refine .delimited (by decide) ?_
      simp only [NotificationCommand.protobuf, List.append_assoc]
      exact .append (.int32 (by decide) fun positive => positive _ (.head _)) (.append
        (.bytes (by decide) _) (.append (.bytes (by decide) _) (.last (.metadata (by decide) _))))
  | custom command =>
      refine .delimited (by decide) ?_
      simp only [CustomCommand.protobuf, List.append_assoc]
      exact .append (.bytes (by decide) _) (.append (.bytes (by decide) _)
        (.last (.metadata (by decide) _)))

/-- **The outline of a frame is its encoding, but for long lengths and negative numbers.** -/
theorem Frame.outlined (frame : Frame) :
    Outlined (∀ value ∈ frame.int32s, 0 ≤ value.toInt) frame.outline frame.protobuf := by
  unfold Frame.protobuf
  simp only [List.append_assoc]
  refine .append (.message (by decide) ?_) (.append (.bytes (by decide) _) (.append
    (.int32 (by decide) fun positive => positive _ (.head _)) (.append
      (.varint (by decide) _) (.last (.metadata (by decide) _)))))
  intro command isCommand
  have inner : frame.commandType = command.type := by
    rw [Frame.commandType, isCommand]
    rfl
  unfold Command.outline Command.protobuf
  cases isType : command.type with
  | none => exact .last .nil
  | some type =>
      refine .last (type.outlined.mono fun positive value isValue => positive value ?_)
      rw [Frame.int32s, inner, isType]
      exact List.mem_cons_of_mem _ isValue

end FlareCore.Common

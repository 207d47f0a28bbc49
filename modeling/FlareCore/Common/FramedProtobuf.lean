import FlareCore.Common.FrameForms
import FlareCore.Common.ProtobufDecoder

/-!
# Frames that are written with a length and read without

`FramedProtobufSerializer` writes the length in front of a frame, but reads as if there were none:
it takes the length for the key of a field.

No frame comes back from it (`Frame.not_reading_framed`).  A length that is the key of an unknown
field takes a byte below 128 with it, which the frame would need.  With a length up to 45 the
argument is the same, unless the frame has a negative number, which may be read from five bytes less
than it was written in; then its place in the frame (`Frame.NegativeForm`) and the field that the
length announces do not fit together.

What is accepted are the data that are fields, with a length in front or without
(`framed_protobuf_iff`).
-/

namespace FlareCore.Common

open FlareCore.Foundations

set_option autoImplicit false

/-! ## Reading a frame -/

/-- What the reading of a frame leaves alone: a command that was read stays. -/
theorem Frame.mergeField_keeps_command {data rest : Bytes} {frame next : Frame}
    (merged : Frame.mergeField data frame = some (next, rest)) (some : frame.command.isSome) :
    next.command.isSome := by
  obtain ⟨⟨tag, wireType, value⟩, -, chosen⟩ := Option.bind_eq_some_iff.mp merged
  dsimp only [mergeValue] at chosen
  split at chosen
  · obtain ⟨⟨command, tail⟩, -, ⟨⟩⟩ := Option.map_eq_some_iff.mp chosen
    rfl
  all_goals
    obtain ⟨_, -, ⟨⟩⟩ := Option.map_eq_some_iff.mp chosen
    exact some

/-- A field takes up its value; the message id is a part of it, or the one from before. -/
theorem Frame.mergeValue_suffix {tag wireType : Nat} {value rest : Bytes} {frame next : Frame}
    (merged : frame.mergeValue tag wireType value = some (next, rest)) :
    rest <:+ value ∧ (next.messageId = frame.messageId ∨ utf8 next.messageId <:+: value) := by
  have slice {body : Bytes} (taken : takeSlice value = some (body, rest)) : rest <:+ value := by
    obtain ⟨used, split, -⟩ := takeSlice_eq_some taken
    exact ⟨used ++ body, by rw [split, List.append_assoc]⟩
  have number {number : Nat} (decoded : decodeVarint value = some (number, rest)) :
      rest <:+ value := by
    obtain ⟨used, split, -⟩ := decodeVarint_eq_some decoded
    exact ⟨used, split.symm⟩
  unfold mergeValue at merged
  split at merged
  · obtain ⟨⟨command, tail⟩, taken, ⟨⟩⟩ := Option.map_eq_some_iff.mp merged
    obtain ⟨⟨body, left⟩, isBody, merged⟩ := Option.bind_eq_some_iff.mp taken
    obtain ⟨last, isLast, ⟨⟩⟩ := Option.map_eq_some_iff.mp merged
    exact ⟨slice (takeBytes_eq_some isBody).2, .inl rfl⟩
  · obtain ⟨⟨text, tail⟩, taken, ⟨⟩⟩ := Option.map_eq_some_iff.mp merged
    have isSlice := (takeString_eq_some taken).2
    refine ⟨slice isSlice, .inr ?_⟩
    obtain ⟨used, rfl, -⟩ := takeSlice_eq_some isSlice
    exact ⟨used, rest, List.append_assoc _ _ _⟩
  · obtain ⟨⟨value, tail⟩, taken, ⟨⟩⟩ := Option.map_eq_some_iff.mp merged
    obtain ⟨⟨value, left⟩, isValue, ⟨⟩⟩ := Option.map_eq_some_iff.mp taken
    exact ⟨number (takeVarint_eq_some isValue).2, .inl rfl⟩
  · obtain ⟨⟨value, tail⟩, taken, ⟨⟩⟩ := Option.map_eq_some_iff.mp merged
    obtain ⟨⟨value, left⟩, isValue, ⟨⟩⟩ := Option.map_eq_some_iff.mp taken
    exact ⟨number (takeVarint_eq_some isValue).2, .inl rfl⟩
  · obtain ⟨⟨map, tail⟩, taken, ⟨⟩⟩ := Option.map_eq_some_iff.mp merged
    obtain ⟨⟨body, left⟩, isBody, merged⟩ := Option.bind_eq_some_iff.mp taken
    obtain ⟨last, isLast, ⟨⟩⟩ := Option.map_eq_some_iff.mp merged
    exact ⟨slice isBody, .inl rfl⟩
  · obtain ⟨tail, skipped, ⟨⟩⟩ := Option.map_eq_some_iff.mp merged
    obtain ⟨used, split, -⟩ := skipField_eq_some skipped
    exact ⟨⟨used, split.symm⟩, .inl rfl⟩

theorem Frame.mergeField_suffix {data rest : Bytes} {frame next : Frame}
    (merged : Frame.mergeField data frame = some (next, rest)) :
    rest <:+ data ∧ rest.length < data.length ∧
      (next.messageId = frame.messageId ∨ utf8 next.messageId <:+: data) := by
  obtain ⟨⟨tag, wireType, value⟩, read, chosen⟩ := Option.bind_eq_some_iff.mp merged
  obtain ⟨key, rfl, isKey⟩ := readKey_eq_some read
  obtain ⟨suffix, taken⟩ := mergeValue_suffix chosen
  have behind : value <:+ key ++ value := List.suffix_append key value
  refine ⟨suffix.trans behind, ?_, taken.imp_right fun within => within.trans behind.isInfix⟩
  have shorter := suffix.length_le
  have some := lows_le_length key
  rw [List.length_append]
  omega

theorem Frame.messageId_of_reading {data : Bytes} {frame final : Frame}
    (reading : Reading Frame.mergeField data frame final) :
    final.messageId = frame.messageId ∨ utf8 final.messageId <:+: data := by
  induction reading with
  | done frame => exact .inl rfl
  | more _ taken _ inductionHypothesis =>
      obtain ⟨behind, -, same | within⟩ := mergeField_suffix taken
      · rw [← same]
        exact inductionHypothesis.imp_right fun within => within.trans behind.isInfix
      · obtain same | later := inductionHypothesis
        · rw [same]
          exact .inr within
        · exact .inr (later.trans behind.isInfix)

/-- What is read is like the frame, as far as it is looked at here. -/
structure Frame.Resembles (read frame : Frame) : Prop where
  lows : lows read.outline = lows frame.outline
  length : read.outline.length = frame.outline.length
  command : read.command.isSome = frame.command.isSome
  messageId : read.messageId = frame.messageId

namespace Frame

variable {frame read start : Frame}

theorem not_reading_drop {data : Bytes} {offset count : Nat} (stands : NegativeAt offset data)
    (lower : offset ≤ count) (upper : count < offset + 10)
    (reading : Reading Frame.mergeField (data.drop count) start read) : False := by
  have isEmpty := reading.eq_nil_of_none
    (Frame.mergeField_eq_none (stands.readKey_drop lower upper))
  have length := stands.le_length
  have none := List.drop_eq_nil_iff.mp isEmpty
  omega

theorem Front.isKey {next : Frame} {data rest : Bytes} {key : Nat}
    (front : Frame.Front frame next data rest key) :
    key = 10 ∨ key = 18 ∨ key = 24 ∨ key = 32 ∨ 40 ≤ key := by
  cases front with
  | command => exact .inl rfl
  | text => exact .inr (.inl rfl)
  | reliability => exact .inr (.inr (.inl rfl))
  | timestamp => exact .inr (.inr (.inr (.inl rfl)))
  | entry among => exact .inr (.inr (.inr (.inr among.1)))
  | unknown large => exact .inr (.inr (.inr (.inr (Nat.le_trans (by decide) large))))

/-- A command is only read as a frame if it has 18 bytes, and then its kind is the length of a
text. -/
theorem of_reading_command {command : Command} {tail : Bytes} (small : command.protobuf.length < 31)
    (reading : Reading Frame.mergeField
      (UInt8.ofNat command.protobuf.length :: (command.protobuf ++ tail)) start read) :
    command.protobuf.length = 18 ∧ ∃ kind body text next,
      command.protobuf = kind :: UInt8.ofNat body.length :: body ∧
        utf8 text = (UInt8.ofNat body.length :: (body ++ tail)).take kind.toNat ∧
          kind.toNat ≤ body.length + 1 + tail.length ∧
            Reading Frame.mergeField
              ((UInt8.ofNat body.length :: (body ++ tail)).drop kind.toNat) next read := by
  have isLength : (UInt8.ofNat command.protobuf.length).toNat = command.protobuf.length :=
    UInt8.toNat_ofNat_of_lt' (show _ < 256 by omega)
  obtain ⟨next, rest, merged, later⟩ := reading.exists_field (List.cons_ne_nil _ _)
  have front := Frame.mergeField_cons (by rw [isLength]; omega) merged
  rw [isLength] at front
  have isKey := front.isKey
  obtain ⟨kind, body, isBody, lower, upper⟩ := command.exists_protobuf_eq
    (fun isEmpty => by rw [isEmpty, List.length_nil] at isKey; omega) (by omega)
  have length : command.protobuf.length = body.length + 2 := congrArg List.length isBody
  generalize command.protobuf.length = key at front length small isKey
  rw [isBody, List.cons_append, List.cons_append] at front
  cases front with
  | command slice inner =>
      have eight : UInt8.ofNat body.length = 8 := by rw [show body.length = 8 by omega]; rfl
      obtain ⟨-, rfl, -⟩ := takeSlice_cons_eq_some upper slice
      obtain ⟨more, isMore⟩ : ∃ more, kind.toNat = more + 1 := ⟨kind.toNat - 1, by omega⟩
      rw [isMore, List.take_succ_cons, eight] at inner
      cases inner.eq_nil_of_none (Command.mergeField_eight _)
  | @text text slice =>
      obtain ⟨fits, isText, rfl⟩ := takeSlice_cons_eq_some upper slice
      rw [List.length_cons, List.length_append] at fits
      exact ⟨rfl, kind, body, text, next, isBody, isText, by omega, later⟩
  | reliability decoded =>
      have isNext : (UInt8.ofNat body.length).toNat = 22 := by
        rw [show body.length = 22 by omega]
        rfl
      rw [decodeVarint_cons upper] at decoded
      obtain ⟨-, rfl⟩ := Prod.mk.inj (Option.some.inj decoded)
      obtain ⟨following, left, merged, -⟩ := later.exists_field (List.cons_ne_nil _ _)
      have isKey := (Frame.mergeField_cons (by rw [isNext]; decide) merged).isKey
      omega
  | timestamp decoded => omega
  | entry among => omega
  | unknown large => omega

/-- What stands in the body of a command stands in the frame, four bytes later. -/
theorem negativeAt_inner {encoding inner body tail : Bytes} {kind : UInt8} {offset : Nat}
    (isInner : inner = kind :: UInt8.ofNat body.length :: body)
    (encoded : encoding = 0x0A :: UInt8.ofNat inner.length :: (inner ++ tail))
    (stands : NegativeAt offset body) : NegativeAt (4 + offset) encoding := by
  subst isInner encoded
  exact stands.append [0x0A, _, kind, UInt8.ofNat body.length] tail

/-- The first byte of a frame is the key of a field. -/
theorem head_bounds {byte : UInt8} {tail : Bytes} (encoded : frame.protobuf = byte :: tail) :
    10 ≤ byte.toNat ∧ byte.toNat < 128 := by
  have isKey := head_protobuf frame byte (by rw [encoded]; rfl)
  simp only [List.mem_cons, List.not_mem_nil, or_false] at isKey
  obtain rfl | rfl | rfl | rfl | rfl := isKey
  all_goals exact ⟨by decide, by decide⟩

/-- With 10 bytes, it is not the length of a command that fields follow. -/
theorem not_command (length : frame.protobuf.length = 10) {body rest : Bytes}
    (slice : takeSlice frame.protobuf = some (body, rest)) : False := by
  cases encoded : frame.protobuf with
  | nil =>
      rw [encoded] at length
      cases length
  | cons byte tail =>
      obtain ⟨lower, upper⟩ := head_bounds encoded
      rw [encoded] at slice length
      have fits := (takeSlice_cons_eq_some upper slice).1
      rw [List.length_cons] at length
      omega

namespace NegativeForm

/-- Nor, with 18 bytes, the length of a message id that fields follow. -/
theorem not_text (form : frame.NegativeForm) (length : frame.protobuf.length = 18)
    {body rest : Bytes} (slice : takeSlice frame.protobuf = some (body, rest))
    (later : Reading Frame.mergeField rest start read) : False := by
  have behind {tail : Bytes} (encoded : frame.protobuf = 0x0A :: tail) :
      rest = frame.protobuf.drop 11 := by
    rw [encoded] at slice ⊢
    exact (takeSlice_cons_eq_some (by decide) slice).2.2
  cases form with
  | @inCommand command kind body tail offset isCommand inner encoded stands range isKind =>
      have within := negativeAt_inner inner encoded stands
      rw [behind encoded] at later
      exact not_reading_drop within (by omega) (by omega) later
  | behindCommand isCommand encoded stands some isBehind total =>
      rw [behind encoded] at later
      exact not_reading_drop stands (by omega) (by omega) later
  | behindText noCommand encoded some stands isBehind total =>
      rw [encoded] at slice length
      rw [List.length_cons] at length
      have fits : 18 ≤ _ := (takeSlice_cons_eq_some (by decide) slice).1
      omega
  | first encoded =>
      rw [encoded] at slice length
      rw [List.length_cons] at length
      have fits : 24 ≤ _ := (takeSlice_cons_eq_some (by decide) slice).1
      omega

/-- Nor, with 24 or 32 bytes, a number that fields follow. -/
theorem not_number (form : frame.NegativeForm)
    (length : frame.protobuf.length = 24 ∨ frame.protobuf.length = 32)
    {value : Nat} {rest : Bytes} (decoded : decodeVarint frame.protobuf = some (value, rest))
    (later : Reading Frame.mergeField rest start read)
    (same : read.command.isSome = frame.command.isSome) : False := by
  have behind {byte : UInt8} {tail : Bytes} (low : byte.toNat < 128)
      (encoded : frame.protobuf = byte :: tail) : rest = tail := by
    rw [encoded, decodeVarint_cons low] at decoded
    exact (Prod.mk.inj (Option.some.inj decoded)).2.symm
  cases form with
  | @inCommand command kind body tail offset isCommand inner encoded stands range isKind =>
      obtain rfl := behind (by decide) encoded
      have total := congrArg List.length encoded
      simp only [List.length_cons, List.length_append] at total
      obtain ⟨eighteen, kind', body', text, next, inner', isText, fits, later⟩ :=
        of_reading_command (by omega) later
      obtain ⟨rfl, -, rfl⟩ : kind = kind' ∧ _ ∧ body = body' := by
        simpa using inner.symm.trans inner'
      have within := negativeAt_inner inner encoded stands
      have sixteen : body.length = 16 := by
        rw [inner] at eighteen
        simpa using eighteen
      obtain rfl | ⟨rfl, isKind⟩ := isKind
      · have drops : (UInt8.ofNat body.length :: (body ++ tail)).drop (0x0A : UInt8).toNat =
            frame.protobuf.drop 13 := by
          rw [encoded, inner]
          rfl
        rw [drops] at later
        exact not_reading_drop within (by omega) (by omega) later
      · have large : 18 ≤ kind.toNat := by
          obtain rfl | rfl := isKind <;> decide
        have size := congrArg List.length isText
        rw [List.length_take, List.length_cons, List.length_append] at size
        have split : frame.protobuf = [0x0A, UInt8.ofNat command.protobuf.length, kind] ++
            (utf8 text ++ (UInt8.ofNat body.length :: (body ++ tail)).drop kind.toNat) := by
          rw [isText, List.take_append_drop, encoded, inner]
          rfl
        refine @NegativeAt.not_text _ _ _ _ _ within split 10 ⟨by decide, by decide⟩ ?_ ?_
        · exact (by decide : 3 ≤ 10)
        · simp only [List.length_cons, List.length_nil]
          omega
  | behindCommand isCommand encoded stands some isBehind total =>
      obtain rfl := behind (by decide) encoded
      obtain ⟨eighteen, -⟩ := of_reading_command (by omega) later
      omega
  | @behindText tail behindText noCommand encoded some stands isBehind total =>
      obtain rfl := behind (by decide) encoded
      have isLength : (UInt8.ofNat (utf8 frame.messageId).length).toNat =
          (utf8 frame.messageId).length := UInt8.toNat_ofNat_of_lt' (show _ < 256 by omega)
      obtain ⟨next, rest, merged, later⟩ := later.exists_field (List.cons_ne_nil _ _)
      have front := Frame.mergeField_cons (by rw [isLength]; omega) merged
      rw [isLength] at front
      have isKey := front.isKey
      have ten : (utf8 frame.messageId).length = 10 := by omega
      rw [ten] at front
      cases front with
      | command slice reading isNext =>
          have present : read.command.isSome := @Reading.invariant _ _ _ _ _ _
            (fun read => read.command.isSome) later (by rw [isNext]; rfl)
            fun _ _ _ _ => Frame.mergeField_keeps_command
          rw [same, noCommand] at present
          cases present
      | entry among => omega
      | unknown large => omega
  | first encoded stands =>
      obtain rfl := behind (by decide) encoded
      have drops : rest = frame.protobuf.drop 1 := by
        rw [encoded]
        rfl
      rw [drops] at later
      exact not_reading_drop stands (Nat.le_refl 1) (by decide) later

end NegativeForm

/-- What a map with one entry leaves of the outline of a frame. -/
theorem outline_insertLast (entry : String × Bytes) :
    Frame.outline { Frame.blank with
      metadata := Frame.blank.metadata.insertLast entry.1 entry.2 } =
      0 :: 0 :: outlineEntry entry := by
  simp only [Frame.outline, Frame.outlines, outlineMetadata_insertLast]
  exact List.append_nil _

/-- A command is not read as the entry of a map: its kind is no length of a text that fits, and
where its own length is the key of a field that is skipped, too little is left. -/
theorem not_entry_of_command {command : Command} {tail body rest : Bytes} {entry : String × Bytes}
    (short : frame.protobuf.length ≤ 45)
    (encoded : frame.protobuf =
      0x0A :: UInt8.ofNat command.protobuf.length :: (command.protobuf ++ tail))
    (slice : takeSlice frame.protobuf = some (body, rest))
    (reading : Reading (mergeEntryField 99) body ("", []) entry)
    (later : Reading Frame.mergeField rest { Frame.blank with
      metadata := Frame.blank.metadata.insertLast entry.1 entry.2 } read)
    (same : lows read.outline = lows frame.protobuf) : False := by
  have total := congrArg List.length encoded
  simp only [List.length_cons, List.length_append] at total
  have isLength : (UInt8.ofNat command.protobuf.length).toNat = command.protobuf.length :=
    UInt8.toNat_ofNat_of_lt' (show _ < 256 by omega)
  rw [encoded] at slice
  obtain ⟨-, isBody, isRest⟩ := takeSlice_cons_eq_some (by decide) slice
  have isBody : body = UInt8.ofNat command.protobuf.length :: (command.protobuf ++ tail).take 9 :=
    isBody
  have isRest : rest = (command.protobuf ++ tail).drop 9 := isRest
  rw [isBody] at reading
  obtain ⟨next, left, merged, laterEntry⟩ := reading.exists_field (List.cons_ne_nil _ _)
  have cases := mergeEntryField_cons (by rw [isLength]; omega) merged
  rw [isLength] at cases
  obtain ⟨kind, inner, isInner, lower, upper⟩ := command.exists_protobuf_eq
    (fun isEmpty => by rw [isEmpty, List.length_nil] at cases; omega) (by omega)
  have front : (command.protobuf ++ tail).take 9 =
      kind :: (UInt8.ofNat inner.length :: (inner ++ tail)).take 8 := by
    rw [isInner]
    rfl
  obtain ⟨-, value, slice⟩ | ⟨-, rfl, tag, wireType, skipped⟩ := cases
  · rw [front] at slice
    have fits := (takeSlice_cons_eq_some upper slice).1
    rw [List.length_take] at fits
    omega
  · obtain ⟨used, split, some⟩ := skipField_eq_some skipped
    have lost : 1 ≤ lows used := by
      cases used with
      | nil => exact some.elim id fun four => absurd four (by decide)
      | cons first used =>
          rw [front] at split
          obtain ⟨rfl, -⟩ := List.cons.inj split
          rw [lows_cons_of_low upper]
          exact Nat.le_add_left _ _
    have less := ((mergeEntryField_conserves 99).reading laterEntry).less
    have final := (Frame.conserves.reading later).less
    have parts : lows (command.protobuf ++ tail) = lows used + lows left + lows rest := by
      rw [isRest, ← lows_append, ← split, ← lows_append, List.take_append_drop]
    have isEmpty : outlineEntry ("", []) = [] := rfl
    rw [isEmpty, List.nil_append] at less
    rw [outline_insertLast, lows_append, lows_zero_cons, lows_zero_cons] at final
    rw [same, encoded, lows_cons_of_low (by decide), lows_cons_of_low (by rw [isLength]; omega),
      parts] at final
    omega

namespace NegativeForm

/-- Nor, with 40 bytes and more, the length of an entry of a map. -/
theorem not_entry (form : frame.NegativeForm)
    (length : 40 ≤ frame.protobuf.length ∧ frame.protobuf.length ≤ 45) {body rest : Bytes}
    {entry : String × Bytes} (slice : takeSlice frame.protobuf = some (body, rest))
    (reading : Reading (mergeEntryField 99) body ("", []) entry)
    (later : Reading Frame.mergeField rest { Frame.blank with
      metadata := Frame.blank.metadata.insertLast entry.1 entry.2 } read)
    (resembles : read.Resembles frame) : False := by
  have same : lows read.outline = lows frame.protobuf :=
    resembles.lows.trans (frame.outlined.lows (by omega))
  cases form with
  | inCommand isCommand inner encoded =>
      exact not_entry_of_command length.2 encoded slice reading later same
  | behindCommand isCommand encoded =>
      exact not_entry_of_command length.2 encoded slice reading later same
  | @behindText tail behind noCommand encoded some stands isBehind total =>
      have isLength : (UInt8.ofNat (utf8 frame.messageId).length).toNat =
          (utf8 frame.messageId).length := UInt8.toNat_ofNat_of_lt' (show _ < 256 by omega)
      have isBody : body = UInt8.ofNat (utf8 frame.messageId).length ::
          (utf8 frame.messageId ++ tail).take 17 := by
        rw [encoded] at slice
        exact (takeSlice_cons_eq_some (by decide) slice).2.1
      have isRest : rest = frame.protobuf.drop 19 := by
        rw [encoded] at slice ⊢
        exact (takeSlice_cons_eq_some (by decide) slice).2.2
      rw [isBody] at reading
      obtain ⟨next, left, merged, -⟩ := reading.exists_field (List.cons_ne_nil _ _)
      have cases := mergeEntryField_cons (by rw [isLength]; omega) merged
      rw [isLength] at cases
      rw [isRest] at later
      by_cases ten : (utf8 frame.messageId).length = 10
      · exact not_reading_drop stands (by omega) (by omega) later
      · obtain isEmpty | ⟨before, after, split⟩ := Frame.messageId_of_reading later
        · rw [← resembles.messageId, isEmpty] at some
          exact some rfl
        · rw [resembles.messageId] at split
          have size := congrArg List.length split
          simp only [List.length_append, List.length_drop] at size
          have whole : frame.protobuf =
              (frame.protobuf.take 19 ++ before) ++ (utf8 frame.messageId ++ after) := by
            conv_lhs => rw [← List.take_append_drop 19 frame.protobuf, ← split]
            simp only [List.append_assoc]
          refine @NegativeAt.not_text _ _ _ _ _ stands whole
            ((utf8 frame.messageId).length + 11) ⟨by omega, by omega⟩ ?_ ?_
          all_goals
            rw [List.length_append, List.length_take]
            omega
  | @first tail encoded stands =>
      have isBody : body = (frame.protobuf.take 25).drop 1 := by
        rw [encoded] at slice ⊢
        exact (takeSlice_cons_eq_some (by decide) slice).2.1
      have within := @NegativeAt.take _ _ stands 25 (by decide)
      rw [isBody] at reading
      have isEmpty := reading.eq_nil_of_none
        (mergeEntryField_eq_none (within.readKey_drop (Nat.le_refl 1) (by decide)) 99)
      have none := List.drop_eq_nil_iff.mp isEmpty
      rw [List.length_take] at none
      omega

end NegativeForm

/-- Where a field that a frame does not have is skipped, a byte below 128 is lost. -/
theorem lows_lt_of_skipped {depth tag wireType : Nat} {rest : Bytes}
    (skipped : skipField depth tag wireType frame.protobuf = some rest) :
    lows rest < lows frame.protobuf := by
  obtain ⟨used, split, some⟩ := skipField_eq_some skipped
  rw [split, lows_append]
  cases used with
  | nil => exact some.elim (fun low => by omega) fun four => absurd four (by decide)
  | cons first used =>
      have low := (head_bounds split).2
      rw [lows_cons_of_low low]
      omega

/-- **A frame behind its length is not read as the frame.** -/
theorem not_reading_framed (resembles : read.Resembles frame)
    (reading : Reading Frame.mergeField (varint frame.protobuf.length ++ frame.protobuf) .blank
      read) : False := by
  obtain ⟨next, rest, merged, later⟩ := reading.exists_field
    fun isEmpty => varint_ne_nil _ (List.append_eq_nil_iff.mp isEmpty).1
  have firstField := merged
  rw [Frame.mergeField, readKey, decodeVarint_varint] at merged
  obtain ⟨⟨tag, wireType, data⟩, key, merged⟩ := Option.bind_eq_some_iff.mp merged
  obtain ⟨⟨number, tail⟩, fits, key⟩ := Option.bind_eq_some_iff.mp key
  obtain ⟨small, same⟩ := Option.ite_none_right_eq_some.mp fits
  obtain ⟨rfl, rfl⟩ := Prod.mk.inj (Option.some.inj same)
  obtain ⟨⟨narrow, valid, positive⟩, same⟩ := Option.ite_none_right_eq_some.mp key
  obtain ⟨isTag, isType, rfl⟩ : frame.protobuf.length / 8 = tag ∧
      frame.protobuf.length % 8 = wireType ∧ frame.protobuf = data := by
    simpa using same
  have same := resembles.lows.trans (frame.outlined.lows (by omega))
  by_cases few : tag ≤ 5
  · have short : frame.protobuf.length ≤ 45 := by omega
    have isByte : varint frame.protobuf.length = [UInt8.ofNat frame.protobuf.length] :=
      varint_of_lt (by omega)
    have isLength : (UInt8.ofNat frame.protobuf.length).toNat = frame.protobuf.length :=
      UInt8.toNat_ofNat_of_lt' (show _ < 256 by omega)
    rw [isByte, List.singleton_append] at reading firstField
    -- with no negative number, five bytes or two bytes below 128 would have to be lost
    have negative : ∃ value ∈ frame.int32s, value.toInt < 0 := by
      by_contra none
      have positive : ∀ value ∈ frame.int32s, 0 ≤ value.toInt := fun value member =>
        Int.not_lt.mp fun negative => none ⟨value, member, negative⟩
      have length := resembles.length.trans (frame.outlined.length positive (by omega))
      have within := Frame.conserves.reading reading
      obtain ⟨less, shorter, gap⟩ := within
      have isEmpty : Frame.blank.outline = [] := rfl
      rw [isEmpty, List.nil_append, lows_cons_of_low (by rw [isLength]; omega),
        List.length_cons] at gap
      omega
    have form := frame.negativeForm (by omega) negative
    have front := Frame.mergeField_cons (by rw [isLength]; omega) firstField
    rw [isLength] at front
    generalize isKey : frame.protobuf.length = key at front
    cases front with
    | command slice => exact not_command isKey slice
    | text slice => exact form.not_text isKey slice later
    | reliability decoded => exact form.not_number (.inl isKey) decoded later resembles.command
    | timestamp decoded => exact form.not_number (.inr isKey) decoded later resembles.command
    | entry among slice reading isNext =>
        rw [isNext] at later
        exact form.not_entry (by rw [isKey]; exact among) slice reading later resembles
    | unknown large => omega
  · have skipped : next = .blank ∧ ∃ depth, skipField depth tag wireType frame.protobuf =
        some rest := by
      dsimp only [mergeValue] at merged
      split at merged
      case h_6 =>
        obtain ⟨left, skipped, ⟨⟩⟩ := Option.map_eq_some_iff.mp merged
        exact ⟨rfl, _, skipped⟩
      all_goals exact absurd few (by decide)
    obtain ⟨rfl, depth, skipped⟩ := skipped
    have less := (Frame.conserves.reading later).less
    have lost := lows_lt_of_skipped skipped
    have isEmpty : Frame.blank.outline = [] := rfl
    rw [isEmpty, List.nil_append, same] at less
    omega

end Frame

/-! ## Equal frames -/

/-- The entries of a map have no order. -/
def StringMap.Same (first second : StringMap Bytes) : Prop :=
  first.entries.Perm second.entries

/-- Two commands are equal. -/
inductive CommandType.Same : CommandType → CommandType → Prop
  | system {first second : SystemCommand} (metadata : first.metadata.Same second.metadata)
      (others : { first with metadata := ∅ } = { second with metadata := ∅ }) :
      Same (.system first) (.system second)
  | payload {first second : PayloadCommand} (metadata : first.metadata.Same second.metadata)
      (others : { first with metadata := ∅ } = { second with metadata := ∅ }) :
      Same (.payload first) (.payload second)
  | notification {first second : NotificationCommand}
      (metadata : first.metadata.Same second.metadata)
      (others : { first with metadata := ∅ } = { second with metadata := ∅ }) :
      Same (.notification first) (.notification second)
  | custom {first second : CustomCommand} (metadata : first.metadata.Same second.metadata)
      (others : { first with metadata := ∅ } = { second with metadata := ∅ }) :
      Same (.custom first) (.custom second)

def Command.Same (first second : Command) : Prop :=
  Option.Rel CommandType.Same first.type second.type

/-- Two frames are equal. -/
structure Frame.Same (first second : Frame) : Prop where
  command : Option.Rel Command.Same first.command second.command
  metadata : StringMap.Same first.metadata second.metadata
  others : { first with command := none, metadata := ∅ } =
    { second with command := none, metadata := ∅ }

theorem outlineMetadata_perm {first second : StringMap Bytes} (same : StringMap.Same first second) :
    (outlineMetadata first).Perm (outlineMetadata second) :=
  List.Perm.flatMap_right _ same

theorem CommandType.Same.outline_perm {first second : CommandType} (same : first.Same second) :
    first.outline.Perm second.outline := by
  cases same with
  | @system first second metadata others =>
      obtain ⟨_, _, _, _, _, _, _⟩ := first
      obtain ⟨_, _, _, _, _, _, _⟩ := second
      cases others
      exact .append_left _ (.append_left _ (.append_left _
        (.append_right _ (outlineMetadata_perm metadata))))
  | @payload first second metadata others =>
      obtain ⟨_, _, _, _, _⟩ := first
      obtain ⟨_, _, _, _, _⟩ := second
      cases others
      exact .append_left _ (.append_left _ (.append_left _
        (.append_right _ (outlineMetadata_perm metadata))))
  | @notification first second metadata others =>
      obtain ⟨_, _, _, _⟩ := first
      obtain ⟨_, _, _, _⟩ := second
      cases others
      exact .append_left _ (.append_left _ (.append_left _
        (.append_right _ (outlineMetadata_perm metadata))))
  | @custom first second metadata others =>
      obtain ⟨_, _, _⟩ := first
      obtain ⟨_, _, _⟩ := second
      cases others
      exact .append_left _ (.append_left _
        (.append_right _ (outlineMetadata_perm metadata)))

theorem outlineMessage_perm {M : Type} {outline : M → Bytes} {related : M → M → Prop}
    (perm : ∀ first second, related first second → (outline first).Perm (outline second))
    {first second : Option M} (same : Option.Rel related first second) :
    (outlineMessage outline first).Perm (outlineMessage outline second) := by
  cases same with
  | some same => exact .cons _ (.cons _ (perm _ _ same))
  | none => exact .refl _

theorem Command.Same.outline_perm {first second : Command} (same : first.Same second) :
    first.outline.Perm second.outline :=
  .append_right [] (@outlineMessage_perm _ _ CommandType.Same
    (fun _ _ => CommandType.Same.outline_perm) _ _ same)

theorem isSome_of_rel {M : Type} {related : M → M → Prop} {first second : Option M}
    (same : Option.Rel related first second) : first.isSome = second.isSome := by
  cases same <;> rfl

/-- Equal frames have the same bytes in their outlines, in another order. -/
theorem Frame.Same.outline_perm {first second : Frame} (same : first.Same second) :
    first.outline.Perm second.outline := by
  have command := @outlineMessage_perm _ _ Command.Same
    (fun _ _ => Command.Same.outline_perm) _ _ same.command
  have metadata := outlineMetadata_perm same.metadata
  have others := same.others
  obtain ⟨_, _, _, _, _⟩ := first
  obtain ⟨_, _, _, _, _⟩ := second
  cases others
  exact command.append (.append_left _ (.append_left _ (.append_left _ (.append_right _ metadata))))

theorem Frame.Same.resembles {read frame : Frame} (same : read.Same frame) :
    read.Resembles frame where
  lows := same.outline_perm.countP_eq _
  length := same.outline_perm.length_eq
  command := isSome_of_rel same.command
  messageId := (congrArg Frame.messageId same.others :)

/-- prost reads a frame from the data exactly if these are its fields. -/
theorem Frame.decode_eq_some_iff {data : Bytes} {frame : Frame} :
    Frame.decode data = some frame ↔ Reading Frame.mergeField data .blank frame :=
  mergeFields_eq_some_iff fun _ _ _ _ merged => (Frame.mergeField_suffix merged).2.1

theorem Frame.decode_eq_none_iff {data : Bytes} :
    Frame.decode data = none ↔ ∀ frame, ¬Reading Frame.mergeField data .blank frame := by
  rw [Option.eq_none_iff_forall_ne_some]
  exact forall_congr' fun frame => not_congr Frame.decode_eq_some_iff

/-! ## The serializer that writes a length and does not read it -/

/-- `FramedProtobufSerializer`. -/
def Libraries.framedProtobufSerializer (libraries : Libraries) : Serializer where
  serialize frame :=
    let buf := frame.protobuf
    .ok (varint buf.length ++ buf)
  deserialize data := (libraries.prostDecode data).mapError fun error =>
    .deserializationError ("Framed Protobuf decode error: " ++ error)
  canDetect data := !data.isEmpty

/-- The data are one complete frame behind its length: the decoder takes it off, and nothing is
left. -/
def Libraries.IsFramed (libraries : Libraries) (data : Bytes) : Prop :=
  ∃ frame, ProtobufDecoder.decodeNext true libraries.prostDecode data =
    ([], .returned (.ok (some frame)))

/-- The serializer reads back the frame that it has written. -/
def Libraries.ComesBack (libraries : Libraries) (frame : Frame) : Prop :=
  ∃ read, (libraries.framedProtobufSerializer.serialize frame).bind
    libraries.framedProtobufSerializer.deserialize = .ok read ∧ read.Same frame

/-- The serializer accepts the data if they are a frame behind its length, and only then. -/
def Libraries.AcceptsFramed (libraries : Libraries) (data : Bytes) : Prop :=
  (∃ accepted, libraries.framedProtobufSerializer.deserialize data = .ok accepted) ↔
    libraries.IsFramed data

/-- The number in front of the data is the key of a field, whose value stands behind it, and fields
follow. -/
def BeginsWithKey (data : Bytes) : Prop :=
  ∃ tag wireType body next rest read, readKey data = some (tag, wireType, body) ∧
    Frame.blank.mergeValue tag wireType body = some (next, rest) ∧
      Reading Frame.mergeField rest next read

/-- Behind a length that is a key at the same time the data are fields as well; and data without a
length are no fields. -/
structure Libraries.LengthIsKey (libraries : Libraries) (data : Bytes) : Prop where
  framed : libraries.IsFramed data → BeginsWithKey data
  unframed : ¬libraries.IsFramed data → Frame.decode data = none

theorem Libraries.accepts_iff {libraries : Libraries} (reads : libraries.ReadsFields)
    (data : Bytes) :
    (∃ accepted, libraries.framedProtobufSerializer.deserialize data = .ok accepted) ↔
      ∃ frame, Reading Frame.mergeField data .blank frame := by
  refine exists_congr fun frame => ?_
  rw [← Frame.decode_eq_some_iff, ← reads]
  show (libraries.prostDecode data).mapError _ = .ok frame ↔ _
  cases libraries.prostDecode data <;> simp [Except.mapError]

/-- Data with a number in front are fields exactly if they begin with a key. -/
theorem beginsWithKey_iff {data : Bytes} (some : data ≠ []) :
    BeginsWithKey data ↔ ∃ frame, Reading Frame.mergeField data .blank frame := by
  constructor
  · rintro ⟨tag, wireType, body, next, rest, read, isKey, merged, later⟩
    refine ⟨read, .more some ?_ later⟩
    rw [Frame.mergeField, isKey]
    exact merged
  · rintro ⟨read, reading⟩
    obtain ⟨next, rest, merged, later⟩ := reading.exists_field some
    obtain ⟨⟨tag, wireType, body⟩, isKey, merged⟩ := Option.bind_eq_some_iff.mp merged
    exact ⟨tag, wireType, body, next, rest, read, isKey, merged, later⟩

/-- **No frame comes back**, and the data that are accepted as they should be are those whose length
is the key of a field, and those that are neither fields nor behind a length. -/
theorem framed_protobuf_iff {libraries : Libraries} (reads : libraries.ReadsFields) :
    (∀ frame, ¬libraries.ComesBack frame) ∧
      ∀ data, libraries.AcceptsFramed data ↔ libraries.LengthIsKey data := by
  constructor
  · rintro frame ⟨read, returned, same⟩
    refine Frame.not_reading_framed same.resembles ?_
    rw [← Frame.decode_eq_some_iff, ← reads]
    have decoded : (libraries.prostDecode (varint frame.protobuf.length ++ frame.protobuf)).mapError
        (fun error => FlareError.deserializationError ("Framed Protobuf decode error: " ++ error)) =
          .ok read := returned
    cases isRead : libraries.prostDecode (varint frame.protobuf.length ++ frame.protobuf) with
    | error error =>
        rw [isRead] at decoded
        cases decoded
    | ok other =>
        rw [isRead] at decoded
        cases decoded
        rfl
  · intro data
    rw [Libraries.AcceptsFramed, libraries.accepts_iff reads]
    by_cases isFramed : libraries.IsFramed data
    · have some : data ≠ [] := by
        rintro rfl
        obtain ⟨frame, decoded⟩ := isFramed
        cases decoded
      rw [iff_true_right isFramed, ← beginsWithKey_iff some]
      exact ⟨fun begins => ⟨fun _ => begins, fun unframed => absurd isFramed unframed⟩,
        fun isKey => isKey.framed isFramed⟩
    · rw [iff_false_right isFramed, not_exists, ← Frame.decode_eq_none_iff]
      exact ⟨fun none => ⟨fun framed => absurd framed isFramed, fun _ => none⟩,
        fun isKey => isKey.unframed isFramed⟩

/-- Libraries for concrete runs, with prost reading field by field. -/
def readingLibraries : Libraries :=
  { knowingLibraries [] with
    prostDecode data := (Frame.decode data).elim (.error "failed to decode Protobuf message") .ok }

theorem readsFields_readingLibraries : readingLibraries.ReadsFields := by
  intro data frame
  rw [readingLibraries]
  dsimp only
  cases Frame.decode data <;> simp

theorem framed_protobuf_iff_reading :
    (∀ frame, ¬readingLibraries.ComesBack frame) ∧
      ∀ data, readingLibraries.AcceptsFramed data ↔ readingLibraries.LengthIsKey data :=
  framed_protobuf_iff readsFields_readingLibraries

/-- What the serializer writes is a frame behind its length. -/
theorem Libraries.isFramed_serialize {libraries : Libraries} (reads : libraries.ReadsFields)
    {frame : Frame} (size : frame.protobuf.length < 2 ^ 63) :
    libraries.IsFramed (varint frame.protobuf.length ++ frame.protobuf) := by
  have inverts := (reads _ _).mpr (frame.decode_protobuf (by omega))
  have recognised := (ProtobufDecoder.recognises true inverts size).1 []
  rw [List.append_nil] at recognised
  exact ⟨frame, recognised⟩

/-- **A frame that is written and refused, and bytes that are accepted without a length**: the
length of the frame, 6, would be the key of a field with a wire type that does not exist; and no
bytes at all are the frame without fields. -/
theorem framed_protobuf_loses_idle :
    readingLibraries.prostDecode idleFrame.protobuf = .ok idleFrame ∧
      readingLibraries.IsFramed (varint idleFrame.protobuf.length ++ idleFrame.protobuf) ∧
      (readingLibraries.framedProtobufSerializer.serialize idleFrame).bind
        readingLibraries.framedProtobufSerializer.deserialize =
          .error (.deserializationError
            "Framed Protobuf decode error: failed to decode Protobuf message") ∧
      readingLibraries.framedProtobufSerializer.deserialize [] = .ok .blank ∧
      ¬readingLibraries.IsFramed [] := by
  have small : idleFrame.protobuf.length = 6 := by decide
  refine ⟨?_, ?_, ?_, rfl, ?_⟩
  · exact (readsFields_readingLibraries _ _).mpr (idleFrame.decode_protobuf (by omega))
  · exact Libraries.isFramed_serialize readsFields_readingLibraries (by omega)
  · rfl
  · rintro ⟨frame, decoded⟩
    cases decoded

end FlareCore.Common

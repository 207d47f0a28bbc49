import FlareCore.Common.RoundTrip
import FlareCore.Foundations.FieldReading

/-!
# How prost reads a frame

`prost::Message::decode` takes one field after the other off the data: a key with the number of the
field and its wire type, then the value.  A field that the message has is merged into it: a number
or a text replaces the one before it, a message is merged into the one before it, an entry is
inserted into its map.  A field with another number is skipped.  Numbers, texts and messages are
refused under a wrong wire type; the entries of a map are read whatever their wire type is.

The bytes of a nested message are read here as data of their own.  prost reads them in place and
refuses the message when a field goes beyond its end, which comes to the same.

Every frame is read as it was written, as long as its length is one of 64 bits
(`Frame.decode_protobuf`).
-/

namespace FlareCore.Common

open FlareCore.Foundations

set_option autoImplicit false

/-! ## Values -/

/-- `decode_varint`, where the wire type is that of a number. -/
def takeVarint (wireType : Nat) (data : Bytes) : Option (Nat × Bytes) :=
  if wireType = 0 then decodeVarint data else none

/-- Bytes behind their length. -/
def takeSlice (data : Bytes) : Option (Bytes × Bytes) :=
  (decodeVarint data).bind fun (length, rest) =>
    if length ≤ rest.length then some (rest.take length, rest.drop length) else none

/-- `bytes::merge`. -/
def takeBytes (wireType : Nat) (data : Bytes) : Option (Bytes × Bytes) :=
  if wireType = 2 then takeSlice data else none

/-- `string::merge`. -/
def takeString (wireType : Nat) (data : Bytes) : Option (String × Bytes) :=
  (takeBytes wireType data).bind fun (bytes, rest) =>
    (fromUtf8 bytes).map fun text => (text, rest)

/-- `int32::merge`; the higher bits are cut off. -/
def takeInt32 (wireType : Nat) (data : Bytes) : Option (Int32 × Bytes) :=
  (takeVarint wireType data).map fun (value, rest) => (Int32.ofNat value, rest)

/-- `uint64::merge`. -/
def takeUInt64 (wireType : Nat) (data : Bytes) : Option (UInt64 × Bytes) :=
  (takeVarint wireType data).map fun (value, rest) => (UInt64.ofNat value, rest)

/-- `message::merge`: the fields of a message behind its length. -/
def takeMessage {M : Type} (field : Bytes → M → Option (M × Bytes)) (wireType : Nat)
    (data : Bytes) (message : M) : Option (M × Bytes) :=
  (takeBytes wireType data).bind fun (body, rest) =>
    (mergeFields field body.length body message).map fun message => (message, rest)

/-! ## Maps -/

/-- A field of an entry of a map. -/
def mergeEntryField (depth : Nat) (data : Bytes) (entry : String × Bytes) :
    Option ((String × Bytes) × Bytes) :=
  (readKey data).bind fun (tag, wireType, rest) =>
    match tag with
    | 1 => (takeString wireType rest).map fun (key, rest) => ((key, entry.2), rest)
    | 2 => (takeBytes wireType rest).map fun (value, rest) => ((entry.1, value), rest)
    | _ => (skipField depth tag wireType rest).map fun rest => (entry, rest)

/-- `HashMap::insert`; a new key comes last, as in the encoding of a map. -/
def StringMap.insertLast {V : Type} (map : StringMap V) (key : String) (value : V) : StringMap V :=
  ⟨(map.erase key).entries ++ [⟨key, value⟩], by
    rw [List.NodupKeys, List.keys, List.map_append]
    refine List.nodup_append.mpr ⟨(map.erase key).nodupKeys, List.nodup_singleton _, ?_⟩
    rintro other member _ same rfl
    obtain rfl := List.mem_singleton.mp same
    exact List.notMem_keys_kerase _ map.nodupKeys member⟩

/-- `hash_map::merge`: the wire type is not looked at. -/
def takeEntry (depth : Nat) (data : Bytes) (map : StringMap Bytes) :
    Option (StringMap Bytes × Bytes) :=
  (takeSlice data).bind fun (body, rest) =>
    (mergeFields (mergeEntryField depth) body.length body ("", [])).map fun (key, value) =>
      (map.insertLast key value, rest)

/-! ## Commands -/

def SystemCommand.blank : SystemCommand where
  type := 0
  format := 0
  message := ""
  metadata := ∅
  data := []
  compression := ""
  encryption := ""

/-- `SystemCommand::merge_field`. -/
def SystemCommand.mergeField (data : Bytes) (command : SystemCommand) :
    Option (SystemCommand × Bytes) :=
  (readKey data).bind fun (tag, wireType, rest) =>
    match tag with
    | 1 => (takeInt32 wireType rest).map fun (value, rest) => ({ command with type := value }, rest)
    | 2 => (takeInt32 wireType rest).map fun (value, rest) =>
        ({ command with format := value }, rest)
    | 3 => (takeString wireType rest).map fun (text, rest) =>
        ({ command with message := text }, rest)
    | 4 => (takeEntry 97 rest command.metadata).map fun (metadata, rest) =>
        ({ command with metadata := metadata }, rest)
    | 5 => (takeBytes wireType rest).map fun (bytes, rest) => ({ command with data := bytes }, rest)
    | 6 => (takeString wireType rest).map fun (text, rest) =>
        ({ command with compression := text }, rest)
    | 7 => (takeString wireType rest).map fun (text, rest) =>
        ({ command with encryption := text }, rest)
    | _ => (skipField 98 tag wireType rest).map fun rest => (command, rest)

def PayloadCommand.blank : PayloadCommand where
  type := 0
  messageId := ""
  payload := []
  metadata := ∅
  seq := 0

/-- `PayloadCommand::merge_field`. -/
def PayloadCommand.mergeField (data : Bytes) (command : PayloadCommand) :
    Option (PayloadCommand × Bytes) :=
  (readKey data).bind fun (tag, wireType, rest) =>
    match tag with
    | 1 => (takeInt32 wireType rest).map fun (value, rest) => ({ command with type := value }, rest)
    | 2 => (takeString wireType rest).map fun (text, rest) =>
        ({ command with messageId := text }, rest)
    | 3 => (takeBytes wireType rest).map fun (bytes, rest) =>
        ({ command with payload := bytes }, rest)
    | 4 => (takeEntry 97 rest command.metadata).map fun (metadata, rest) =>
        ({ command with metadata := metadata }, rest)
    | 5 => (takeUInt64 wireType rest).map fun (value, rest) => ({ command with seq := value }, rest)
    | _ => (skipField 98 tag wireType rest).map fun rest => (command, rest)

def NotificationCommand.blank : NotificationCommand where
  type := 0
  title := ""
  content := []
  metadata := ∅

/-- `NotificationCommand::merge_field`. -/
def NotificationCommand.mergeField (data : Bytes) (command : NotificationCommand) :
    Option (NotificationCommand × Bytes) :=
  (readKey data).bind fun (tag, wireType, rest) =>
    match tag with
    | 1 => (takeInt32 wireType rest).map fun (value, rest) => ({ command with type := value }, rest)
    | 2 => (takeString wireType rest).map fun (text, rest) => ({ command with title := text }, rest)
    | 3 => (takeBytes wireType rest).map fun (bytes, rest) =>
        ({ command with content := bytes }, rest)
    | 4 => (takeEntry 97 rest command.metadata).map fun (metadata, rest) =>
        ({ command with metadata := metadata }, rest)
    | _ => (skipField 98 tag wireType rest).map fun rest => (command, rest)

def CustomCommand.blank : CustomCommand where
  name := ""
  data := []
  metadata := ∅

/-- `CustomCommand::merge_field`. -/
def CustomCommand.mergeField (data : Bytes) (command : CustomCommand) :
    Option (CustomCommand × Bytes) :=
  (readKey data).bind fun (tag, wireType, rest) =>
    match tag with
    | 1 => (takeString wireType rest).map fun (text, rest) => ({ command with name := text }, rest)
    | 2 => (takeBytes wireType rest).map fun (bytes, rest) => ({ command with data := bytes }, rest)
    | 3 => (takeEntry 97 rest command.metadata).map fun (metadata, rest) =>
        ({ command with metadata := metadata }, rest)
    | _ => (skipField 98 tag wireType rest).map fun rest => (command, rest)

/-- `command::Type::merge`: a command of the same kind is merged into, another one replaced. -/
def CommandType.merge (tag wireType : Nat) (data : Bytes) (type : Option CommandType) :
    Option (CommandType × Bytes) :=
  match tag with
  | 1 =>
      let command := match type with
        | some (.system command) => command
        | _ => .blank
      (takeMessage SystemCommand.mergeField wireType data command).map fun (command, rest) =>
        (.system command, rest)
  | 2 =>
      let command := match type with
        | some (.payload command) => command
        | _ => .blank
      (takeMessage PayloadCommand.mergeField wireType data command).map fun (command, rest) =>
        (.payload command, rest)
  | 3 =>
      let command := match type with
        | some (.notification command) => command
        | _ => .blank
      (takeMessage NotificationCommand.mergeField wireType data command).map
        fun (command, rest) => (.notification command, rest)
  | 4 =>
      let command := match type with
        | some (.custom command) => command
        | _ => .blank
      (takeMessage CustomCommand.mergeField wireType data command).map fun (command, rest) =>
        (.custom command, rest)
  | _ => none

/-- `Command::merge_field`. -/
def Command.mergeField (data : Bytes) (command : Command) : Option (Command × Bytes) :=
  (readKey data).bind fun (tag, wireType, rest) =>
    if tag ≤ 4 then
      (CommandType.merge tag wireType rest command.type).map fun (type, rest) => (⟨some type⟩, rest)
    else (skipField 99 tag wireType rest).map fun rest => (command, rest)

/-! ## Frames -/

/-- What `Frame::merge_field` does with a field, whose key has been read. -/
def Frame.mergeValue (tag wireType : Nat) (data : Bytes) (frame : Frame) : Option (Frame × Bytes) :=
  match tag with
  | 1 => (takeMessage Command.mergeField wireType data (frame.command.getD ⟨none⟩)).map
      fun (command, rest) => ({ frame with command := some command }, rest)
  | 2 => (takeString wireType data).map fun (text, rest) =>
      ({ frame with messageId := text }, rest)
  | 3 => (takeInt32 wireType data).map fun (value, rest) =>
      ({ frame with reliability := value }, rest)
  | 4 => (takeUInt64 wireType data).map fun (value, rest) =>
      ({ frame with timestamp := value }, rest)
  | 5 => (takeEntry 99 data frame.metadata).map fun (metadata, rest) =>
      ({ frame with metadata := metadata }, rest)
  | _ => (skipField 100 tag wireType data).map fun rest => (frame, rest)

/-- `Frame::merge_field`, with the key. -/
def Frame.mergeField (data : Bytes) (frame : Frame) : Option (Frame × Bytes) :=
  (readKey data).bind fun (tag, wireType, rest) => frame.mergeValue tag wireType rest

/-- `prost::Message::decode` of a frame. -/
def Frame.decode (data : Bytes) : Option Frame :=
  mergeFields Frame.mergeField data.length data .blank

/-- prost reads frames field by field. -/
def Libraries.ReadsFields (libraries : Libraries) : Prop :=
  ∀ data frame, libraries.prostDecode data = .ok frame ↔ Frame.decode data = some frame

/-! ## What was written is read -/

theorem readVarint_append {rounds value : Nat} {rest : Bytes} :
    readVarint (rounds + 1) (varintWithin (rounds + 1) value ++ rest) =
      if value < 128 ^ (rounds + 1) then some (value, rest) else none := by
  induction rounds generalizing value with
  | zero =>
      rw [varintWithin]
      split_ifs with small few few
      · have low : (UInt8.ofNat value).toNat = value := by
          rw [UInt8.toNat_ofNat']
          omega
        rw [List.singleton_append, readVarint, low, if_pos small]
      · exact absurd (by simpa using small) few
      · exact absurd (by simpa using few) small
      · have high : ¬(UInt8.ofNat (value % 128 + 128)).toNat < 128 := by
          rw [UInt8.toNat_ofNat']
          omega
        rw [List.cons_append, readVarint, if_neg high]
        rfl
  | succ rounds inductionHypothesis =>
      rw [varintWithin]
      by_cases small : value < 128
      · have low : (UInt8.ofNat value).toNat = value := by
          rw [UInt8.toNat_ofNat']
          omega
        have few : value < 128 ^ (rounds + 1 + 1) :=
          Nat.lt_of_lt_of_le small (Nat.le_self_pow (by omega) 128)
        rw [if_pos small, if_pos few, List.singleton_append, readVarint, low, if_pos small]
      · have high : (UInt8.ofNat (value % 128 + 128)).toNat = value % 128 + 128 := by
          rw [UInt8.toNat_ofNat']
          omega
        rw [if_neg small, List.cons_append, readVarint, if_neg (by omega), inductionHypothesis,
          high]
        have divided : value / 128 < 128 ^ (rounds + 1) ↔ value < 128 ^ (rounds + 1 + 1) := by
          rw [Nat.div_lt_iff_lt_mul (by decide), ← Nat.pow_succ]
        simp only [divided]
        split_ifs
        · rw [Option.map_some]
          congr 2
          omega
        · rfl

/-- What was written as a varint is read as one. -/
theorem decodeVarint_varint (value : Nat) (rest : Bytes) :
    decodeVarint (varint value ++ rest) = if value < 2 ^ 64 then some (value, rest) else none := by
  rw [decodeVarint, varint, readVarint_append]
  split_ifs with fits small small
  · exact Option.filter_some_pos (decide_eq_true small)
  · exact Option.filter_some_neg (decide_eq_false small)
  · exact absurd (by omega) fits
  · rfl

theorem readKey_varint {tag wireType : Nat} (isTag : 1 ≤ tag ∧ tag < 16) (valid : wireType ≤ 5)
    (rest : Bytes) :
    readKey (varint (8 * tag + wireType) ++ rest) = some (tag, wireType, rest) := by
  have number : (8 * tag + wireType) / 8 = tag := by omega
  have type : (8 * tag + wireType) % 8 = wireType := by omega
  rw [readKey, decodeVarint_varint, if_pos (by omega), Option.bind_some]
  dsimp only
  rw [if_pos (by omega), number, type]

theorem takeInt32_varint (value : Int32) (rest : Bytes) :
    takeInt32 0 (varint value.toInt64.toUInt64.toNat ++ rest) = some (value, rest) := by
  have same : Int32.ofNat value.toInt64.toUInt64.toNat = value := by
    have narrowed : value.toInt64.toInt32 = value := Int32.toInt32_toInt64 value
    conv_rhs => rw [← narrowed]
    apply Int32.toBitVec_inj.mp
    show BitVec.ofNat 32 value.toInt64.toBitVec.toNat = value.toInt64.toBitVec.signExtend 32
    rw [BitVec.ofNat_toNat, BitVec.signExtend_eq_setWidth_of_le _ (by decide)]
  have fits := value.toInt64.toUInt64.toNat_lt
  rw [takeInt32, takeVarint, if_pos rfl, decodeVarint_varint, if_pos fits, Option.map_some]
  dsimp only
  rw [same]

theorem takeUInt64_varint (value : UInt64) (rest : Bytes) :
    takeUInt64 0 (varint value.toNat ++ rest) = some (value, rest) := by
  have fits := value.toNat_lt
  rw [takeUInt64, takeVarint, if_pos rfl, decodeVarint_varint, if_pos fits, Option.map_some]
  dsimp only
  rw [UInt64.ofNat_toNat]

theorem takeSlice_varint {bytes : Bytes} (fits : bytes.length < 2 ^ 64) (rest : Bytes) :
    takeSlice (varint bytes.length ++ (bytes ++ rest)) = some (bytes, rest) := by
  have enough : bytes.length ≤ (bytes ++ rest).length := by
    rw [List.length_append]
    exact Nat.le_add_right _ _
  rw [takeSlice, decodeVarint_varint, if_pos fits, Option.bind_some]
  dsimp only
  rw [if_pos enough, List.take_left, List.drop_left]

/-- The bytes turn a message into another, where their number is one of 64 bits. -/
def Written {M : Type} (field : Bytes → M → Option (M × Bytes)) (bytes : Bytes)
    (message next : M) : Prop :=
  bytes.length < 2 ^ 64 → Takes field bytes message next

namespace Written

variable {M : Type} {dispatch : M → Nat × Nat × Bytes → Option (M × Bytes)} {message next : M}
  {tag : Nat}

theorem nil {field : Bytes → M → Option (M × Bytes)} : Written field [] message message :=
  fun _ => .nil message

theorem append {field : Bytes → M → Option (M × Bytes)} {later : M} {first second : Bytes}
    (written : Written field first message next) (behind : Written field second next later) :
    Written field (first ++ second) message later := by
  intro fits
  rw [List.length_append] at fits
  exact (written (by omega)).append (behind (by omega))

/-- A key and a value. -/
theorem of_value {wireType : Nat} {value : Bytes} (isTag : 1 ≤ tag ∧ tag < 16)
    (valid : wireType ≤ 5)
    (taken : ∀ tail, value.length < 2 ^ 64 →
      dispatch message (tag, wireType, value ++ tail) = some (next, tail)) :
    Written (fun data message => (readKey data).bind (dispatch message))
      (varint (8 * tag + wireType) ++ value) message next := by
  intro fits
  rw [List.length_append] at fits
  refine .of_field (fun isEmpty => varint_ne_nil _ (List.append_eq_nil_iff.mp isEmpty).1) ?_
  intro tail
  rw [List.append_assoc, readKey_varint isTag valid, Option.bind_some]
  exact taken tail (by omega)

theorem int32 {value : Int32} (message : Int32 → M) (isTag : 1 ≤ tag ∧ tag < 16)
    (reads : ∀ data, dispatch (message 0) (tag, 0, data) =
      (takeInt32 0 data).map fun (value, rest) => (message value, rest)) :
    Written (fun data message => (readKey data).bind (dispatch message)) (protobufInt32 tag value)
      (message 0) (message value) := by
  rw [protobufInt32, protobufVarint]
  split_ifs with isZero
  · have zero : value = 0 :=
      (@protobufInt32_eq_nil_iff tag value).mp (protobufVarint_eq_nil_iff.mpr isZero)
    rw [zero]
    exact nil
  · refine of_value isTag (show 0 ≤ 5 by decide) fun tail _ => ?_
    rw [reads, takeInt32_varint, Option.map_some]

theorem uint64 {value : UInt64} (message : UInt64 → M) (isTag : 1 ≤ tag ∧ tag < 16)
    (reads : ∀ data, dispatch (message 0) (tag, 0, data) =
      (takeUInt64 0 data).map fun (value, rest) => (message value, rest)) :
    Written (fun data message => (readKey data).bind (dispatch message))
      (protobufVarint tag value.toNat) (message 0) (message value) := by
  rw [protobufVarint]
  split_ifs with isZero
  · have zero : value = 0 := UInt64.toNat_inj.mp isZero
    rw [zero]
    exact nil
  · refine of_value isTag (show 0 ≤ 5 by decide) fun tail _ => ?_
    rw [reads, takeUInt64_varint, Option.map_some]

/-- A value behind its length. -/
theorem delimited {bytes : Bytes} (isTag : 1 ≤ tag ∧ tag < 16)
    (taken : ∀ data tail, bytes.length < 2 ^ 64 → takeSlice data = some (bytes, tail) →
      dispatch message (tag, 2, data) = some (next, tail)) :
    Written (fun data message => (readKey data).bind (dispatch message))
      (protobufDelimited tag bytes) message next := by
  rw [protobufDelimited, List.append_assoc]
  refine of_value isTag (by decide) fun tail fits => ?_
  rw [List.length_append] at fits
  rw [List.append_assoc]
  exact taken _ _ (by omega) (takeSlice_varint (by omega) tail)

theorem bytes {value : Bytes} (message : Bytes → M) (isTag : 1 ≤ tag ∧ tag < 16)
    (reads : ∀ data, dispatch (message []) (tag, 2, data) =
      (takeBytes 2 data).map fun (value, rest) => (message value, rest)) :
    Written (fun data message => (readKey data).bind (dispatch message)) (protobufBytes tag value)
      (message []) (message value) := by
  rw [protobufBytes]
  split_ifs with isEmpty
  · rw [isEmpty]
    exact nil
  · refine delimited isTag fun data tail _ slice => ?_
    rw [reads, takeBytes, if_pos rfl, slice, Option.map_some]

theorem string {text : String} (message : String → M) (isTag : 1 ≤ tag ∧ tag < 16)
    (reads : ∀ data, dispatch (message "") (tag, 2, data) =
      (takeString 2 data).map fun (text, rest) => (message text, rest)) :
    Written (fun data message => (readKey data).bind (dispatch message)) (protobufString tag text)
      (message "") (message text) := by
  rw [protobufString, protobufBytes]
  split_ifs with isEmpty
  · rw [utf8_eq_nil_iff.mp isEmpty]
    exact nil
  · refine delimited isTag fun data tail _ slice => ?_
    rw [reads, takeString, takeBytes, if_pos rfl, slice, Option.bind_some]
    dsimp only
    rw [fromUtf8_utf8, Option.map_some, Option.map_some]

/-- A message behind its length. -/
theorem submessage {N : Type} {field : Bytes → N → Option (N × Bytes)} {encoded : Bytes}
    {start inner : N} (isTag : 1 ≤ tag ∧ tag < 16) (written : Written field encoded start inner)
    (taken : ∀ data tail, takeMessage field 2 data start = some (inner, tail) →
      dispatch message (tag, 2, data) = some (next, tail)) :
    Written (fun data message => (readKey data).bind (dispatch message))
      (protobufDelimited tag encoded) message next := by
  refine delimited isTag fun data tail fits slice => taken data tail ?_
  rw [takeMessage, takeBytes, if_pos rfl, slice, Option.bind_some]
  dsimp only
  rw [(written fits).mergeFields_eq, Option.map_some]

end Written

/-! ## Maps that were written -/

theorem mergeEntryField_written (depth : Nat) (entry : String × Bytes) :
    Written (mergeEntryField depth) (protobufString 1 entry.1 ++ protobufBytes 2 entry.2) ("", [])
      entry :=
  .append (.string (fun key => (key, [])) (by decide) fun _ => rfl)
    (.bytes (fun value => (entry.1, value)) (by decide) fun _ => rfl)

/-- An entry whose key is new comes behind the others. -/
theorem StringMap.entries_insertLast {V : Type} {map : StringMap V} {key : String} {value : V}
    (fresh : key ∉ map.entries.keys) :
    (map.insertLast key value).entries = map.entries ++ [⟨key, value⟩] := by
  show map.entries.kerase key ++ _ = _
  rw [List.kerase_of_notMem_keys fresh]

namespace Written

variable {M : Type} {dispatch : M → Nat × Nat × Bytes → Option (M × Bytes)} {tag depth : Nat}

theorem entries {message : StringMap Bytes → M} (isTag : 1 ≤ tag ∧ tag < 16)
    (reads : ∀ data before, dispatch (message before) (tag, 2, data) =
      (takeEntry depth data before).map fun (next, rest) => (message next, rest))
    (list : List (Sigma fun _ : String => Bytes)) (before after : StringMap Bytes)
    (isAfter : after.entries = before.entries ++ list) :
    Written (fun data message => (readKey data).bind (dispatch message))
      (list.flatMap fun entry =>
        protobufDelimited tag (protobufString 1 entry.1 ++ protobufBytes 2 entry.2))
      (message before) (message after) := by
  induction list generalizing before with
  | nil =>
      rw [List.append_nil] at isAfter
      rw [AList.ext isAfter]
      exact nil
  | cons entry list inductionHypothesis =>
      have nodup := after.nodupKeys
      rw [isAfter, List.NodupKeys, List.keys_append] at nodup
      have fresh : entry.1 ∉ before.entries.keys := fun member =>
        (List.nodup_append.mp nodup).2.2 _ member _ List.mem_cons_self rfl
      have inserted := @StringMap.entries_insertLast _ _ _ entry.2 fresh
      rw [List.flatMap_cons]
      refine append (delimited isTag ?_)
        (inductionHypothesis (before.insertLast entry.1 entry.2) ?_)
      · intro data tail fits slice
        rw [reads, takeEntry, slice, Option.bind_some]
        dsimp only
        rw [(mergeEntryField_written depth (entry.1, entry.2) fits).mergeFields_eq,
          Option.map_some, Option.map_some]
      · rw [isAfter, inserted, List.append_assoc]
        rfl

theorem metadata {map : StringMap Bytes} (message : StringMap Bytes → M)
    (isTag : 1 ≤ tag ∧ tag < 16)
    (reads : ∀ data before, dispatch (message before) (tag, 2, data) =
      (takeEntry depth data before).map fun (next, rest) => (message next, rest)) :
    Written (fun data message => (readKey data).bind (dispatch message)) (protobufMetadata tag map)
      (message ∅) (message map) :=
  entries isTag reads map.entries ∅ map rfl

end Written

/-! ## Frames that were written -/

theorem SystemCommand.written (command : SystemCommand) :
    Written mergeField command.protobuf .blank command := by
  obtain ⟨type, format, message, metadata, data, compression, encryption⟩ := command
  simp only [protobuf, List.append_assoc]
  refine .append (.int32 (fun type => mk type 0 "" ∅ [] "" "") (by decide) fun _ => rfl) ?_
  refine .append (.int32 (fun format => mk type format "" ∅ [] "" "") (by decide) fun _ => rfl) ?_
  refine .append (.string (fun message => mk type format message ∅ [] "" "") (by decide)
    fun _ => rfl) ?_
  refine .append (.metadata (fun metadata => mk type format message metadata [] "" "") (by decide)
    fun _ _ => rfl) ?_
  refine .append (.bytes (fun data => mk type format message metadata data "" "") (by decide)
    fun _ => rfl) ?_
  refine .append (.string (fun compression => mk type format message metadata data compression "")
    (by decide) fun _ => rfl) ?_
  exact .string (fun encryption => mk type format message metadata data compression encryption)
    (by decide) fun _ => rfl

theorem PayloadCommand.written (command : PayloadCommand) :
    Written mergeField command.protobuf .blank command := by
  obtain ⟨type, messageId, payload, metadata, seq⟩ := command
  simp only [protobuf, List.append_assoc]
  refine .append (.int32 (fun type => mk type "" [] ∅ 0) (by decide) fun _ => rfl) ?_
  refine .append (.string (fun messageId => mk type messageId [] ∅ 0) (by decide) fun _ => rfl) ?_
  refine .append (.bytes (fun payload => mk type messageId payload ∅ 0) (by decide)
    fun _ => rfl) ?_
  refine .append (.metadata (fun metadata => mk type messageId payload metadata 0) (by decide)
    fun _ _ => rfl) ?_
  exact .uint64 (fun seq => mk type messageId payload metadata seq) (by decide) fun _ => rfl

theorem NotificationCommand.written (command : NotificationCommand) :
    Written mergeField command.protobuf .blank command := by
  obtain ⟨type, title, content, metadata⟩ := command
  simp only [protobuf, List.append_assoc]
  refine .append (.int32 (fun type => mk type "" [] ∅) (by decide) fun _ => rfl) ?_
  refine .append (.string (fun title => mk type title [] ∅) (by decide) fun _ => rfl) ?_
  refine .append (.bytes (fun content => mk type title content ∅) (by decide) fun _ => rfl) ?_
  exact .metadata (fun metadata => mk type title content metadata) (by decide) fun _ _ => rfl

theorem CustomCommand.written (command : CustomCommand) :
    Written mergeField command.protobuf .blank command := by
  obtain ⟨name, data, metadata⟩ := command
  simp only [protobuf, List.append_assoc]
  refine .append (.string (fun name => mk name [] ∅) (by decide) fun _ => rfl) ?_
  refine .append (.bytes (fun data => mk name data ∅) (by decide) fun _ => rfl) ?_
  exact .metadata (fun metadata => mk name data metadata) (by decide) fun _ _ => rfl

theorem Command.written (command : Command) :
    Written mergeField command.protobuf ⟨none⟩ command := by
  obtain ⟨type⟩ := command
  cases type with
  | none => exact .nil
  | some type =>
      cases type with
      | system command =>
          exact .submessage (by decide) command.written fun _ _ taken =>
            congrArg (Option.map _) (congrArg (Option.map _) taken)
      | payload command =>
          exact .submessage (by decide) command.written fun _ _ taken =>
            congrArg (Option.map _) (congrArg (Option.map _) taken)
      | notification command =>
          exact .submessage (by decide) command.written fun _ _ taken =>
            congrArg (Option.map _) (congrArg (Option.map _) taken)
      | custom command =>
          exact .submessage (by decide) command.written fun _ _ taken =>
            congrArg (Option.map _) (congrArg (Option.map _) taken)

/-- **prost reads a frame as it was written.** -/
theorem Frame.decode_protobuf (frame : Frame) (fits : frame.protobuf.length < 2 ^ 64) :
    Frame.decode frame.protobuf = some frame := by
  refine Takes.mergeFields_eq ?_
  refine (?_ : Written mergeField frame.protobuf .blank frame) fits
  obtain ⟨command, messageId, reliability, timestamp, metadata⟩ := frame
  simp only [Frame.protobuf, List.append_assoc]
  have isCommand : Written mergeField
      (command.elim [] fun command => protobufDelimited 1 command.protobuf) .blank
        ⟨command, "", 0, 0, ∅⟩ := by
    cases command with
    | none => exact .nil
    | some command =>
        exact .submessage (by decide) command.written fun _ _ taken =>
          congrArg (Option.map _) taken
  refine .append isCommand ?_
  refine .append (.string (fun messageId => mk command messageId 0 0 ∅) (by decide)
    fun _ => rfl) ?_
  refine .append (.int32 (fun reliability => mk command messageId reliability 0 ∅) (by decide)
    fun _ => rfl) ?_
  refine .append (.uint64 (fun timestamp => mk command messageId reliability timestamp ∅)
    (by decide) fun _ => rfl) ?_
  exact .metadata (fun metadata => mk command messageId reliability timestamp metadata)
    (by decide) fun _ _ => rfl

end FlareCore.Common

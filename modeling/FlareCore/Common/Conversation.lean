import FlareCore.Common.Protocol
import FlareCore.Common.Slices
import Mathlib.Algebra.BigOperators.Group.List.Basic
import Mathlib.Algebra.Ring.Nat
import Mathlib.Data.String.Basic
import Mathlib.Data.Sym.Sym2

/-!
# Conversation ids

A conversation id is a digit for the type of the conversation, the letter of the version, and a part
that is not meant to be read: sixteen characters of a hash, or a ULID for a temporary conversation.

The validator cuts off the digit and the letter at fixed byte offsets, before it knows that they are
one byte each (`validate_returns_iff`).  Of a temporary conversation it checks the number of bytes
only, and the ids that are generated for one in a browser do not have that number
(`conversation_ids_validated_iff`).

What is hashed are names that are joined by a colon and may contain colons themselves
(`same_conversation_iff`).
-/

namespace FlareCore.Common

set_option autoImplicit false

/-! ## The validator -/

inductive ConversationType where
  | single
  | group
  | ai
  | system
  | customer
  | temp
  | channel
  | broadcast
  deriving DecidableEq

/-- `prefix`. -/
def ConversationType.typePrefix : ConversationType → String
  | .single => "1"
  | .group => "2"
  | .ai => "3"
  | .system => "4"
  | .customer => "5"
  | .temp => "6"
  | .channel => "7"
  | .broadcast => "8"

/-- `from_prefix`. -/
def ConversationType.fromPrefix (typePrefix : String) : Except String ConversationType :=
  match typePrefix with
  | "1" => .ok .single
  | "2" => .ok .group
  | "3" => .ok .ai
  | "4" => .ok .system
  | "5" => .ok .customer
  | "6" => .ok .temp
  | "7" => .ok .channel
  | "8" => .ok .broadcast
  | _ => .error ("Unknown session type prefix: " ++ typePrefix)

/-- The characters that the validator allows. -/
def isBase32Character (c : Char) : Bool :=
  '0' ≤ c && c ≤ '9' || 'A' ≤ c && c ≤ 'H' || 'J' ≤ c && c ≤ 'K' || 'M' ≤ c && c ≤ 'N' ||
    'P' ≤ c && c ≤ 'T' || 'V' ≤ c && c ≤ 'Z'

/-- The check of what stands behind the version. -/
def validateOpaqueId (conversationType : ConversationType) (opaqueId : String) :
    Except String ConversationType :=
  if conversationType = .temp then
    if opaqueId.utf8ByteSize ≠ 26 then
      .error ("Invalid temp session CID: expected 26 characters ULID, got " ++
        toString opaqueId.utf8ByteSize)
    else .ok conversationType
  else if opaqueId.utf8ByteSize ≠ 16 then
    .error ("Invalid CID opaque ID length: expected 16 characters, got " ++
      toString opaqueId.utf8ByteSize)
  else if !opaqueId.toList.all isBase32Character then
    .error "Invalid CID opaque ID: contains invalid Base32 characters"
  else .ok conversationType

/-- `validate_conversation_id`; nothing where it panics. -/
def validateConversationId (conversationId : String) : Option (Except String ConversationType) :=
  if conversationId = "" then some (.error "Session ID cannot be empty")
  else if conversationId.utf8ByteSize < 3 then
    some (.error "Session ID too short, expected CID format")
  else do
    let typePrefix ← sliceBytes conversationId 0 1
    let version ← sliceBytes conversationId 1 2
    if version ≠ "A" then
      some (.error ("Unsupported CID version: " ++ version ++ ", expected 'A'"))
    else
      match ConversationType.fromPrefix typePrefix with
      -- the context hides the error below it
      | .error _ => some (.error ("Invalid CID type prefix: " ++ typePrefix))
      | .ok conversationType =>
          let opaqueId ← sliceFrom conversationId 2
          some (validateOpaqueId conversationType opaqueId)

/-- `extract_conversation_type`. -/
def extractConversationType (conversationId : String) : Option (Option ConversationType) :=
  (validateConversationId conversationId).map Except.toOption

/-- `is_single_chat_conversation`. -/
def isSingleChatConversation (conversationId : String) : Option Bool :=
  (extractConversationType conversationId).map fun extracted =>
    decide (extracted = some .single)

/-- `is_group_chat_conversation`. -/
def isGroupChatConversation (conversationId : String) : Option Bool :=
  (extractConversationType conversationId).map fun extracted => decide (extracted = some .group)

/-! ## When the validator panics -/

section Slicing

variable {text : String} {c d : Char} {characters : List Char}

theorem sliceBytes_first (shape : text.toList = c :: characters) (oneByte : c.utf8Size = 1) :
    sliceBytes text 0 1 = some (String.ofList [c]) := by
  rw [sliceBytes, shape, splitAtByte_one oneByte, splitAtByte]
  rfl

theorem sliceBytes_first_within (shape : text.toList = c :: characters)
    (moreBytes : 1 < c.utf8Size) : sliceBytes text 0 1 = none := by
  rw [sliceBytes, shape, splitAtByte_within moreBytes]
  rfl

theorem sliceBytes_second (shape : text.toList = c :: d :: characters) (first : c.utf8Size = 1)
    (second : d.utf8Size = 1) : sliceBytes text 1 2 = some (String.ofList [d]) := by
  rw [sliceBytes, shape, splitAtByte_one first, splitAtByte_one second, splitAtByte]
  show (splitAtByte [c, d] 1).bind _ = _
  rw [splitAtByte_one first, splitAtByte]
  rfl

theorem sliceBytes_second_within (shape : text.toList = c :: d :: characters)
    (first : c.utf8Size = 1) (moreBytes : 1 < d.utf8Size) : sliceBytes text 1 2 = none := by
  rw [sliceBytes, shape, splitAtByte_one first, splitAtByte_within moreBytes]
  rfl

theorem sliceFrom_third (shape : text.toList = c :: d :: characters) (first : c.utf8Size = 1)
    (second : d.utf8Size = 1) : sliceFrom text 2 = some (String.ofList characters) := by
  rw [sliceFrom, shape, splitAtByte_one first, splitAtByte_one second, splitAtByte]
  rfl

end Slicing

/-- The text is long enough to be cut, and one of its first two characters takes more than one
byte. -/
def CutsACharacter (text : String) : Prop :=
  3 ≤ text.utf8ByteSize ∧ ∃ c ∈ text.toList.take 2, 1 < c.utf8Size

/-- What the validator makes of a text whose first two characters take one byte each. -/
def validateParts (typePrefix version : Char) (opaqueId : List Char) :
    Except String ConversationType :=
  if version ≠ 'A' then
    .error ("Unsupported CID version: " ++ String.ofList [version] ++ ", expected 'A'")
  else
    match ConversationType.fromPrefix (String.ofList [typePrefix]) with
    | .error _ => .error ("Invalid CID type prefix: " ++ String.ofList [typePrefix])
    | .ok conversationType => validateOpaqueId conversationType (String.ofList opaqueId)

theorem ofList_singleton_eq_iff (c d : Char) :
    String.ofList [c] = String.ofList [d] ↔ c = d := by
  rw [String.ofList_inj, List.singleton_inj]

theorem validateParts_eq (typePrefix version : Char) (opaqueId : List Char) :
    (do
      let typePrefix ← some (String.ofList [typePrefix])
      let version ← some (String.ofList [version])
      if version ≠ "A" then
        some (.error ("Unsupported CID version: " ++ version ++ ", expected 'A'"))
      else
        match ConversationType.fromPrefix typePrefix with
        | .error _ => some (.error ("Invalid CID type prefix: " ++ typePrefix))
        | .ok conversationType =>
            let opaqueId ← some (String.ofList opaqueId)
            some (validateOpaqueId conversationType opaqueId)) =
      some (validateParts typePrefix version opaqueId) := by
  have isA : String.ofList [version] ≠ "A" ↔ version ≠ 'A' :=
    not_congr (ofList_singleton_eq_iff version 'A')
  unfold validateParts
  dsimp only [Bind.bind, Option.bind]
  by_cases current : version ≠ 'A'
  · rw [if_pos current, if_pos (isA.mpr current)]
  · rw [if_neg current, if_neg (mt isA.mp current)]
    cases ConversationType.fromPrefix (String.ofList [typePrefix]) <;> rfl

/-- **The three ways that the validator goes.** -/
theorem validate_cases (text : String) :
    (text.utf8ByteSize < 3 ∧ ∃ error, validateConversationId text = some (.error error)) ∨
    (CutsACharacter text ∧ validateConversationId text = none) ∨
    ∃ c d characters, text.toList = c :: d :: characters ∧ c.utf8Size = 1 ∧ d.utf8Size = 1 ∧
      3 ≤ text.utf8ByteSize ∧
      validateConversationId text = some (validateParts c d characters) := by
  have size := utf8ByteSize_ofList text.toList
  rw [String.ofList_toList] at size
  by_cases short : text.utf8ByteSize < 3
  · refine .inl ⟨short, ?_⟩
    rw [validateConversationId, if_pos short]
    by_cases empty : text = ""
    · exact ⟨_, if_pos empty⟩
    · exact ⟨_, if_neg empty⟩
  · have nonempty : text ≠ "" := by
      rintro rfl
      exact short (by decide)
    have long : 3 ≤ text.utf8ByteSize := Nat.le_of_not_lt short
    refine .inr ?_
    rw [validateConversationId, if_neg nonempty, if_neg short]
    cases shape : text.toList with
    | nil =>
        rw [shape] at size
        exact absurd size (by simp; omega)
    | cons c others =>
        by_cases first : 1 < c.utf8Size
        · refine .inl ⟨⟨long, c, ?_, first⟩, ?_⟩
          · rw [shape]
            exact List.mem_cons_self
          · rw [sliceBytes_first_within shape first]
            rfl
        · have oneByte : c.utf8Size = 1 := Nat.le_antisymm (Nat.le_of_not_lt first) c.utf8Size_pos
          cases others with
          | nil =>
              rw [shape, List.map_cons, oneByte] at size
              exact absurd size (by simp; omega)
          | cons d characters =>
              by_cases second : 1 < d.utf8Size
              · refine .inl ⟨⟨long, d, ?_, second⟩, ?_⟩
                · rw [shape]
                  exact .tail c (.head _)
                · rw [sliceBytes_first shape oneByte, sliceBytes_second_within shape oneByte second]
                  rfl
              · have another : d.utf8Size = 1 :=
                  Nat.le_antisymm (Nat.le_of_not_lt second) d.utf8Size_pos
                refine .inr ⟨c, d, characters, rfl, oneByte, another, long, ?_⟩
                rw [sliceBytes_first shape oneByte, sliceBytes_second shape oneByte another,
                  sliceFrom_third shape oneByte another]
                exact validateParts_eq c d characters

/-- **The validator and the predicates built on it return exactly if they do not cut a
character.** -/
theorem validate_returns_iff (text : String) :
    ((validateConversationId text).isSome ∧ (extractConversationType text).isSome ∧
        (isSingleChatConversation text).isSome ∧ (isGroupChatConversation text).isSome) ↔
      ¬CutsACharacter text := by
  simp only [extractConversationType, isSingleChatConversation, isGroupChatConversation,
    Option.isSome_map, and_self]
  rcases validate_cases text with
    ⟨short, error, failed⟩ | ⟨cuts, panicked⟩ | ⟨c, d, characters, shape, first, second, -, done⟩
  · rw [failed]
    refine iff_of_true rfl fun cuts => ?_
    exact absurd cuts.1 (Nat.not_le_of_lt short)
  · rw [panicked]
    exact iff_of_false Bool.false_ne_true fun whole => whole cuts
  · rw [done]
    refine iff_of_true rfl ?_
    rintro ⟨-, other, member, moreBytes⟩
    rw [shape] at member
    rcases List.mem_pair.mp member with rfl | rfl
    · exact absurd first (Nat.ne_of_gt moreBytes)
    · exact absurd second (Nat.ne_of_gt moreBytes)

/-- One character of three bytes is enough. -/
theorem validate_panics_on_wide_character : validateConversationId "中" = none := by
  decide +kernel

/-! ## The grammar -/

/-- The characters of Crockford's Base32, in the order of their values. -/
def crockfordAlphabet : List Char :=
  "0123456789ABCDEFGHJKMNPQRSTVWXYZ".toList

/-- So many characters of Base32, in upper case. -/
def IsBase32 (length : Nat) (text : String) : Prop :=
  text.length = length ∧ ∀ c ∈ text.toList, c ∈ crockfordAlphabet

/-- The documented ids of a type of conversations. -/
def IsConversationId (conversationType : ConversationType) (text : String) : Prop :=
  ∃ opaqueId, text = conversationType.typePrefix ++ "A" ++ opaqueId ∧
    IsBase32 (if conversationType = .temp then 26 else 16) opaqueId

theorem isBase32Character_iff (c : Char) : isBase32Character c = true ↔ c ∈ crockfordAlphabet := by
  have below : ∀ n : Fin 128, isBase32Character (Char.ofNat n) = true ↔
      Char.ofNat n ∈ crockfordAlphabet := by
    decide +kernel
  by_cases ascii : c.toNat < 128
  · have same := below ⟨c.toNat, ascii⟩
    rw [Char.ofNat_toNat] at same
    exact same
  · refine iff_of_false ?_ ?_
    · intro allowed
      have toNat : ∀ top : Char, c ≤ top → c.toNat ≤ top.toNat := fun _ below => below
      have highest : c ≤ 'Z' := by
        simp only [isBase32Character, Bool.or_eq_true, Bool.and_eq_true, decide_eq_true_eq]
          at allowed
        rcases allowed with
          ((((⟨-, top⟩ | ⟨-, top⟩) | ⟨-, top⟩) | ⟨-, top⟩) | ⟨-, top⟩) | ⟨-, top⟩ <;>
          exact le_trans top (by decide)
      have bound := toNat 'Z' highest
      exact ascii (Nat.lt_of_le_of_lt bound (by decide))
    · intro member
      have all : (crockfordAlphabet.all fun c => c.toNat < 128) = true := by decide +kernel
      exact ascii (of_decide_eq_true (List.all_eq_true.mp all c member))

/-- These characters take one byte each. -/
theorem utf8ByteSize_of_alphabet {text : String}
    (allowed : ∀ c ∈ text.toList, c ∈ crockfordAlphabet) :
    text.utf8ByteSize = text.length := by
  have oneByte : ∀ c ∈ crockfordAlphabet, c.utf8Size = 1 := by
    have all : (crockfordAlphabet.all fun c => c.utf8Size = 1) = true := by decide +kernel
    exact fun c member => of_decide_eq_true (List.all_eq_true.mp all c member)
  have size := utf8ByteSize_ofList text.toList
  rw [String.ofList_toList] at size
  rw [size, ← String.length_toList]
  generalize text.toList = characters at allowed
  induction characters with
  | nil => rfl
  | cons c characters inductionHypothesis =>
      rw [List.map_cons, List.sum_cons, List.length_cons, oneByte c (allowed c List.mem_cons_self),
        inductionHypothesis fun other member => allowed other (.tail c member), Nat.add_comm]

theorem isBase32_iff {length : Nat} {text : String} :
    IsBase32 length text ↔
      text.utf8ByteSize = length ∧ text.toList.all isBase32Character = true := by
  have allowed : text.toList.all isBase32Character = true ↔
      ∀ c ∈ text.toList, c ∈ crockfordAlphabet := by
    rw [List.all_eq_true]
    exact forall₂_congr fun c _ => isBase32Character_iff c
  rw [IsBase32, allowed]
  exact and_congr_left fun all => by rw [utf8ByteSize_of_alphabet all]

theorem validateOpaqueId_eq_ok_iff {conversationType other : ConversationType} {opaqueId : String} :
    validateOpaqueId conversationType opaqueId = .ok other ↔ conversationType = other ∧
      if conversationType = .temp then opaqueId.utf8ByteSize = 26 else IsBase32 16 opaqueId := by
  unfold validateOpaqueId
  by_cases isTemp : conversationType = .temp
  · rw [if_pos isTemp, if_pos isTemp]
    by_cases size : opaqueId.utf8ByteSize = 26
    · rw [if_neg (not_not.mpr size), Except.ok.injEq, and_iff_left size]
    · rw [if_pos size]
      exact iff_of_false (fun failed => by cases failed) fun both => size both.2
  · rw [if_neg isTemp, if_neg isTemp, isBase32_iff]
    by_cases size : opaqueId.utf8ByteSize = 16
    · rw [if_neg (not_not.mpr size)]
      by_cases allowed : opaqueId.toList.all isBase32Character = true
      · rw [allowed, if_neg (by decide), Except.ok.injEq]
        exact (and_iff_left ⟨size, rfl⟩).symm
      · rw [if_pos (by simpa using allowed)]
        exact iff_of_false (fun failed => by cases failed) fun both => allowed both.2.2
    · rw [if_pos size]
      exact iff_of_false (fun failed => by cases failed) fun both => size both.2.1

theorem fromPrefix_eq_ok_iff {typePrefix : String} {conversationType : ConversationType} :
    ConversationType.fromPrefix typePrefix = .ok conversationType ↔
      typePrefix = conversationType.typePrefix := by
  constructor
  · intro found
    unfold ConversationType.fromPrefix at found
    split at found <;> cases found <;> rfl
  · rintro rfl
    cases conversationType <;> rfl

/-- The three parts that are accepted. -/
theorem validateParts_eq_ok_iff {c d : Char} {characters : List Char}
    {conversationType : ConversationType} :
    validateParts c d characters = .ok conversationType ↔
      (d = 'A' ∧ String.ofList [c] = conversationType.typePrefix) ∧
        if conversationType = .temp then (String.ofList characters).utf8ByteSize = 26
        else IsBase32 16 (String.ofList characters) := by
  rw [validateParts]
  by_cases current : d = 'A'
  · rw [if_neg (not_not.mpr current), and_iff_right current, ← fromPrefix_eq_ok_iff]
    cases ConversationType.fromPrefix (String.ofList [c]) with
    | error error => exact iff_of_false (fun failed => by cases failed) fun both => by cases both.1
    | ok other =>
        dsimp only
        rw [validateOpaqueId_eq_ok_iff, Except.ok.injEq]
        refine and_congr_right fun same => ?_
        rw [same]
  · rw [if_pos current]
    exact iff_of_false (fun failed => by cases failed) fun both => current both.1.1

/-- **What the validator accepts**, and as what. -/
theorem validate_eq_ok_iff {text : String} {conversationType : ConversationType} :
    validateConversationId text = some (.ok conversationType) ↔
      ∃ opaqueId, text = conversationType.typePrefix ++ "A" ++ opaqueId ∧
        if conversationType = .temp then opaqueId.utf8ByteSize = 26 else IsBase32 16 opaqueId := by
  constructor
  · intro accepted
    rcases validate_cases text with
      ⟨-, error, failed⟩ | ⟨-, panicked⟩ | ⟨c, d, characters, shape, -, -, -, done⟩
    · cases failed.symm.trans accepted
    · cases panicked.symm.trans accepted
    · have parts := Option.some.inj (done.symm.trans accepted)
      obtain ⟨⟨rfl, first⟩, valid⟩ := validateParts_eq_ok_iff.mp parts
      refine ⟨String.ofList characters, ?_, valid⟩
      rw [← first, ← String.ofList_toList (s := text), shape, ← String.toList_inj]
      simp
  · rintro ⟨opaqueId, rfl, valid⟩
    obtain ⟨digit, isDigit, oneByte⟩ : ∃ digit,
        conversationType.typePrefix = String.ofList [digit] ∧ digit.utf8Size = 1 := by
      cases conversationType <;> exact ⟨_, rfl, by decide⟩
    have shape : (conversationType.typePrefix ++ "A" ++ opaqueId).toList =
        digit :: 'A' :: opaqueId.toList := by
      rw [isDigit]
      simp
    have long : 3 ≤ (conversationType.typePrefix ++ "A" ++ opaqueId).utf8ByteSize := by
      have opaqueLong : 16 ≤ opaqueId.utf8ByteSize := by
        split_ifs at valid
        · omega
        · exact Nat.le_of_eq (isBase32_iff.mp valid).1.symm
      rw [String.utf8ByteSize_append]
      omega
    rcases validate_cases (conversationType.typePrefix ++ "A" ++ opaqueId) with
      ⟨short, -⟩ | ⟨⟨-, other, member, moreBytes⟩, -⟩ | ⟨c, d, characters, parts, -, -, -, done⟩
    · exact absurd long (Nat.not_le_of_lt short)
    · rw [shape] at member
      rcases List.mem_pair.mp member with rfl | rfl
      · exact absurd oneByte (Nat.ne_of_gt moreBytes)
      · exact absurd moreBytes (by decide)
    · rw [shape] at parts
      obtain ⟨rfl, rest⟩ := List.cons.inj parts
      obtain ⟨rfl, rfl⟩ := List.cons.inj rest
      rw [done, validateParts_eq_ok_iff.mpr ⟨⟨rfl, isDigit.symm⟩, ?_⟩]
      rw [String.ofList_toList]
      exact valid

/-! ## The generators -/

/-- What the hashed parts of ids are made with: SHA-256 gives 32 bytes, and Crockford's Base32 makes
sixteen characters of ten bytes. -/
structure ConversationHash where
  sha256 : Bytes → Bytes
  base32 : Bytes → String
  length_sha256 : ∀ input, (sha256 input).length = 32
  isBase32_base32 : ∀ bytes, bytes.length = 10 → IsBase32 16 (base32 bytes)

/-- The text of a ULID. -/
structure Ulid where
  text : String
  isBase32 : IsBase32 26 text

/-- `{:032x}`. -/
def lowerHex32 (number : BitVec 128) : String :=
  String.ofList ((List.range 32).map fun place =>
    Nat.digitChar (number.toNat / 16 ^ (31 - place) % 16))

/-- What the crate is built for. -/
inductive Target where
  | native
  | wasm32
  deriving DecidableEq

section Generators

variable (hash : ConversationHash)

/-- The hashed part of an id. -/
def ConversationHash.opaqueId (input : String) : String :=
  hash.base32 ((hash.sha256 (utf8 input)).take 10)

/-- Two users, the lower one first. -/
def sortedUsers (user1 user2 : String) : String × String :=
  if user2 < user1 then (user2, user1) else (user1, user2)

/-- What is hashed for two users. -/
def singleChatInput (user1 user2 : String) : String :=
  "DM:v1:" ++ (sortedUsers user1 user2).1 ++ ":" ++ (sortedUsers user1 user2).2

def generateSingleChatConversationId (user1 user2 : String) : String :=
  "1A" ++ hash.opaqueId (singleChatInput user1 user2)

def generateGroupConversationId (groupId : String) : String :=
  "2A" ++ hash.opaqueId ("GROUP:v1:" ++ groupId)

def generateChannelConversationId (channelId : String) : String :=
  "7A" ++ hash.opaqueId ("CHANNEL:v1:" ++ channelId)

def generateBroadcastConversationId (broadcastId : String) : String :=
  "8A" ++ hash.opaqueId ("BROADCAST:v1:" ++ broadcastId)

def generateAiConversationId (userId aiScope : String) : String :=
  "3A" ++ hash.opaqueId ("AI:v1:" ++ userId ++ ":" ++ aiScope)

def generateCustomerConversationId (customerId channel : String) : String :=
  "5A" ++ hash.opaqueId ("CS:v1:" ++ customerId ++ ":" ++ channel)

def generateSystemConversationId (systemId : String) (scope : Option String) : String :=
  "4A" ++ hash.opaqueId ("SYS:v1:" ++ systemId ++ ":" ++ scope.getD "")

/-- `generate_temp_conversation_id`, with what it draws on the two kinds of targets. -/
def generateTempConversationId (target : Target) (drawn : Ulid) (number : BitVec 128) : String :=
  match target with
  | .native => "6A" ++ drawn.text
  | .wasm32 => "6A" ++ lowerHex32 number

/-- A call of a generator. -/
inductive GeneratorCall where
  | single (user1 user2 : String)
  | group (groupId : String)
  | ai (userId aiScope : String)
  | system (systemId : String) (scope : Option String)
  | customer (customerId channel : String)
  | temp (drawn : Ulid) (number : BitVec 128)
  | channel (channelId : String)
  | broadcast (broadcastId : String)

/-- The type of conversations that is asked for. -/
def GeneratorCall.type : GeneratorCall → ConversationType
  | .single .. => .single
  | .group _ => .group
  | .ai .. => .ai
  | .system .. => .system
  | .customer .. => .customer
  | .temp .. => .temp
  | .channel _ => .channel
  | .broadcast _ => .broadcast

def GeneratorCall.generate (target : Target) : GeneratorCall → String
  | .single user1 user2 => generateSingleChatConversationId hash user1 user2
  | .group groupId => generateGroupConversationId hash groupId
  | .ai userId aiScope => generateAiConversationId hash userId aiScope
  | .system systemId scope => generateSystemConversationId hash systemId scope
  | .customer customerId channelId => generateCustomerConversationId hash customerId channelId
  | .temp drawn number => generateTempConversationId target drawn number
  | .channel channelId => generateChannelConversationId hash channelId
  | .broadcast broadcastId => generateBroadcastConversationId hash broadcastId

end Generators

/-! ## Which ids are accepted -/

/-- The id of a temporary conversation that has as many bytes as a ULID, and is none. -/
def UncheckedTemp (text : String) : Prop :=
  ∃ opaqueId, text = "6A" ++ opaqueId ∧ opaqueId.utf8ByteSize = 26 ∧ ¬IsBase32 26 opaqueId

/-- The validator is right about a text exactly if it is not one of these. -/
theorem validate_iff_grammar (text : String) :
    (∀ conversationType, validateConversationId text = some (.ok conversationType) ↔
        IsConversationId conversationType text) ↔ ¬UncheckedTemp text := by
  constructor
  · rintro agrees ⟨opaqueId, rfl, size, noUlid⟩
    obtain ⟨other, same, isUlid⟩ := (agrees .temp).mp
      (validate_eq_ok_iff.mpr ⟨opaqueId, rfl, size⟩)
    obtain rfl : opaqueId = other := String.append_right_inj "6A" |>.mp same
    exact noUlid isUlid
  · intro checked conversationType
    rw [validate_eq_ok_iff, IsConversationId]
    refine exists_congr fun opaqueId => and_congr_right fun same => ?_
    by_cases isTemp : conversationType = .temp
    · rw [if_pos isTemp, if_pos isTemp]
      constructor
      · intro size
        by_contra noUlid
        rw [isTemp] at same
        exact checked ⟨opaqueId, same, size, noUlid⟩
      · intro isUlid
        exact (isBase32_iff.mp isUlid).1
    · rw [if_neg isTemp, if_neg isTemp]

section Accepted

variable (hash : ConversationHash)

theorem ConversationHash.isBase32_opaqueId (input : String) :
    IsBase32 16 (hash.opaqueId input) := by
  apply hash.isBase32_base32
  rw [List.length_take, hash.length_sha256]
  rfl

/-- An id with a hashed part is accepted. -/
theorem validate_hashed {conversationType : ConversationType} (hashed : conversationType ≠ .temp)
    (input : String) :
    validateConversationId (conversationType.typePrefix ++ "A" ++ hash.opaqueId input) =
      some (.ok conversationType) := by
  refine validate_eq_ok_iff.mpr ⟨_, rfl, ?_⟩
  rw [if_neg hashed]
  exact hash.isBase32_opaqueId input

/-- Only the id of a temporary conversation has no hashed part. -/
theorem exists_input_of_hashed (target : Target) {call : GeneratorCall}
    (hashed : ¬call.type = .temp) :
    ∃ input, call.generate hash target =
      call.type.typePrefix ++ "A" ++ hash.opaqueId input := by
  cases call with
  | temp drawn number => exact absurd rfl hashed
  | _ => exact ⟨_, rfl⟩

omit hash in
theorem utf8ByteSize_lowerHex32 (number : BitVec 128) : 32 ≤ (lowerHex32 number).utf8ByteSize := by
  rw [lowerHex32, utf8ByteSize_ofList]
  have positive : ∀ size ∈ ((List.range 32).map fun place =>
      Nat.digitChar (number.toNat / 16 ^ (31 - place) % 16)).map Char.utf8Size, 1 ≤ size := by
    intro size member
    obtain ⟨c, -, rfl⟩ := List.mem_map.mp member
    exact c.utf8Size_pos
  have bound := List.length_le_sum_of_one_le _ positive
  rw [List.length_map, List.length_map, List.length_range] at bound
  exact bound

/-- **A generated id is accepted as what it was generated for**, but for a temporary conversation in
a browser. -/
theorem validate_generate_iff (target : Target) (call : GeneratorCall) :
    validateConversationId (call.generate hash target) = some (.ok call.type) ↔
      ¬(target = .wasm32 ∧ call.type = .temp) := by
  by_cases isTemp : call.type = .temp
  · cases call with
    | temp drawn number =>
        cases target with
        | native =>
            refine iff_of_true ?_ fun both => by cases both.1
            exact validate_eq_ok_iff.mpr ⟨drawn.text, rfl, (isBase32_iff.mp drawn.isBase32).1⟩
        | wasm32 =>
            refine iff_of_false ?_ (not_not.mpr ⟨rfl, rfl⟩)
            intro accepted
            obtain ⟨opaqueId, same, size⟩ := validate_eq_ok_iff.mp accepted
            obtain rfl : lowerHex32 number = opaqueId := (String.append_right_inj "6A").mp same
            have long := utf8ByteSize_lowerHex32 number
            change (lowerHex32 number).utf8ByteSize = 26 at size
            omega
    | _ => cases isTemp
  · refine iff_of_true ?_ fun both => isTemp both.2
    obtain ⟨input, isHashed⟩ := exists_input_of_hashed hash target isTemp
    rw [isHashed]
    exact validate_hashed hash isTemp input

end Accepted

/-- **The validator against the grammar and against the generators.** -/
theorem conversation_ids_validated_iff (hash : ConversationHash) :
    (∀ text, (∀ conversationType, validateConversationId text = some (.ok conversationType) ↔
        IsConversationId conversationType text) ↔ ¬UncheckedTemp text) ∧
      ∀ target (call : GeneratorCall),
        validateConversationId (call.generate hash target) = some (.ok call.type) ↔
          ¬(target = .wasm32 ∧ call.type = .temp) :=
  ⟨validate_iff_grammar, validate_generate_iff hash⟩

/-- **Both halves fail**: 26 characters that no ULID has are accepted, and what is generated in a
browser, for the number 0, is not. -/
theorem conversation_ids_disagree :
    let unchecked := "6A~~~~~~~~~~~~~~~~~~~~~~~~~~"
    validateConversationId unchecked = some (.ok .temp) ∧
      ¬IsConversationId .temp unchecked ∧
      ∀ drawn, validateConversationId (generateTempConversationId .wasm32 drawn 0) =
        some (.error "Invalid temp session CID: expected 26 characters ULID, got 32") := by
  refine ⟨by decide +kernel, ?_, fun drawn => ?_⟩
  · rintro ⟨opaqueId, same, -, allowed⟩
    obtain rfl : "~~~~~~~~~~~~~~~~~~~~~~~~~~" = opaqueId := (String.append_right_inj "6A").mp same
    exact absurd (allowed '~' (by decide +kernel)) (by decide +kernel)
  · show validateConversationId ("6A" ++ lowerHex32 0) = _
    decide +kernel

/-! ## Which ids are told apart -/

/-- Two pairs of names that are joined to the same text: a part of the text that starts and ends
with a colon belongs to the second name of the one pair and to the first name of the other. -/
def Shifted (first second : String × String) : Prop :=
  ∃ moved, second.1 = first.1 ++ ":" ++ moved ∧ first.2 = moved ++ ":" ++ second.2

theorem append_cons_cases {α : Type} {a b c d : List α} {separator : α}
    (same : a ++ separator :: b = c ++ separator :: d) :
    a = c ∧ b = d ∨ (∃ moved, c = a ++ separator :: moved ∧ b = moved ++ separator :: d) ∨
      ∃ moved, a = c ++ separator :: moved ∧ d = moved ++ separator :: b := by
  rcases List.append_eq_append_iff.mp same with ⟨rest, isLonger, tail⟩ | ⟨rest, isLonger, tail⟩
  · cases rest with
    | nil => exact .inl ⟨(isLonger.trans (List.append_nil a)).symm, (List.cons.inj tail).2⟩
    | cons first moved =>
        obtain ⟨rfl, isTail⟩ := List.cons.inj tail
        exact .inr (.inl ⟨moved, isLonger, isTail⟩)
  · cases rest with
    | nil => exact .inl ⟨isLonger.trans (List.append_nil c), (List.cons.inj tail).2.symm⟩
    | cons first moved =>
        obtain ⟨rfl, isTail⟩ := List.cons.inj tail
        exact .inr (.inr ⟨moved, isLonger, isTail⟩)

theorem shifted_of_moved {a b c d : String} {moved : List Char}
    (longer : c.toList = a.toList ++ ':' :: moved) (tail : b.toList = moved ++ ':' :: d.toList) :
    Shifted (a, b) (c, d) := by
  refine ⟨String.ofList moved, ?_, ?_⟩
  · rw [← String.toList_inj, longer]
    simp
  · rw [← String.toList_inj, tail]
    simp

/-- **When joined names are the same text.** -/
theorem joined_eq_iff {a b c d : String} :
    a ++ ":" ++ b = c ++ ":" ++ d ↔
      (a, b) = (c, d) ∨ Shifted (a, b) (c, d) ∨ Shifted (c, d) (a, b) := by
  constructor
  · intro same
    have characters : a.toList ++ ':' :: b.toList = c.toList ++ ':' :: d.toList := by
      have lists := congrArg String.toList same
      simpa using lists
    rcases append_cons_cases characters with
      ⟨first, second⟩ | ⟨moved, longer, tail⟩ | ⟨moved, longer, tail⟩
    · exact .inl (Prod.ext (String.toList_inj.mp first) (String.toList_inj.mp second))
    · exact .inr (.inl (shifted_of_moved longer tail))
    · exact .inr (.inr (shifted_of_moved longer tail))
  · rintro (same | ⟨moved, longer, tail⟩ | ⟨moved, longer, tail⟩)
    · obtain ⟨rfl, rfl⟩ := Prod.mk.inj same
      rfl
    · dsimp only at longer tail
      rw [longer, tail]
      simp only [String.append_assoc]
    · dsimp only at longer tail
      rw [longer, tail]
      simp only [String.append_assoc]

theorem Shifted.ne {first second : String × String} (shifted : Shifted first second) :
    first ≠ second := by
  rintro rfl
  obtain ⟨moved, longer, -⟩ := shifted
  have lengths := congrArg String.length longer
  simp only [String.length_append] at lengths
  change first.1.length = first.1.length + 1 + moved.length at lengths
  omega

/-- The pairs are different, and are joined to the same text. -/
def Confused (first second : String × String) : Prop :=
  Shifted first second ∨ Shifted second first

section Confusion

variable (hash : ConversationHash)

/-- The hash does not collide on the two texts. -/
def ConversationHash.TellsApart (first second : String) : Prop :=
  hash.opaqueId first = hash.opaqueId second → first = second

/-- Two ids with a joined pair behind them. -/
theorem same_joined_iff {label type : String} {first second : String × String}
    (apart : hash.TellsApart (label ++ first.1 ++ ":" ++ first.2)
      (label ++ second.1 ++ ":" ++ second.2)) :
    type ++ hash.opaqueId (label ++ first.1 ++ ":" ++ first.2) =
        type ++ hash.opaqueId (label ++ second.1 ++ ":" ++ second.2) ↔
      first = second ∨ Confused first second := by
  have labelled : label ++ first.1 ++ ":" ++ first.2 = label ++ second.1 ++ ":" ++ second.2 ↔
      first.1 ++ ":" ++ first.2 = second.1 ++ ":" ++ second.2 := by
    simp only [String.append_assoc]
    exact String.append_right_inj label
  rw [String.append_right_inj, Confused, ← joined_eq_iff, ← labelled]
  exact ⟨apart, fun same => congrArg hash.opaqueId same⟩

/-- The ids name their pairs exactly if these are not confused. -/
theorem names_iff {label type : String} {first second : String × String}
    (apart : hash.TellsApart (label ++ first.1 ++ ":" ++ first.2)
      (label ++ second.1 ++ ":" ++ second.2)) :
    (type ++ hash.opaqueId (label ++ first.1 ++ ":" ++ first.2) =
          type ++ hash.opaqueId (label ++ second.1 ++ ":" ++ second.2) → first = second) ↔
      ¬Confused first second := by
  rw [same_joined_iff hash apart]
  constructor
  · intro names confused
    have same := names (.inr confused)
    rcases confused with shifted | shifted
    · exact shifted.ne same
    · exact shifted.ne same.symm
  · intro clear same
    exact same.resolve_right clear

end Confusion

theorem sortedUsers_comm (user1 user2 : String) :
    sortedUsers user1 user2 = sortedUsers user2 user1 := by
  unfold sortedUsers
  rcases lt_trichotomy user1 user2 with lower | rfl | higher
  · rw [if_neg (lt_asymm lower), if_pos lower]
  · rfl
  · rw [if_pos higher, if_neg (lt_asymm higher)]

/-- Sorting keeps the users. -/
theorem sortedUsers_eq_iff {user1 user2 other1 other2 : String} :
    sortedUsers user1 user2 = sortedUsers other1 other2 ↔ s(user1, user2) = s(other1, other2) := by
  have kept : ∀ user1 user2 : String,
      s((sortedUsers user1 user2).1, (sortedUsers user1 user2).2) = s(user1, user2) := by
    intro user1 user2
    unfold sortedUsers
    split_ifs
    · exact Sym2.eq_swap
    · rfl
  constructor
  · intro same
    rw [← kept user1 user2, ← kept other1 other2, same]
  · intro same
    rcases Sym2.eq_iff.mp same with ⟨rfl, rfl⟩ | ⟨rfl, rfl⟩
    · rfl
    · exact sortedUsers_comm user1 user2

/-- **Which conversations are told apart.**  The order of two users does not matter; beyond that, as
long as the hash does not collide, two calls of a generator give the same id for different names
exactly if the pairs are confused. -/
theorem same_conversation_iff (hash : ConversationHash) :
    (∀ user1 user2, generateSingleChatConversationId hash user1 user2 =
      generateSingleChatConversationId hash user2 user1) ∧
    (∀ user1 user2 other1 other2,
      hash.TellsApart (singleChatInput user1 user2) (singleChatInput other1 other2) →
        ((generateSingleChatConversationId hash user1 user2 =
            generateSingleChatConversationId hash other1 other2 →
              s(user1, user2) = s(other1, other2)) ↔
          ¬Confused (sortedUsers user1 user2) (sortedUsers other1 other2))) ∧
    (∀ userId aiScope otherId otherScope,
      hash.TellsApart ("AI:v1:" ++ userId ++ ":" ++ aiScope)
          ("AI:v1:" ++ otherId ++ ":" ++ otherScope) →
        ((generateAiConversationId hash userId aiScope =
            generateAiConversationId hash otherId otherScope →
              (userId, aiScope) = (otherId, otherScope)) ↔
          ¬Confused (userId, aiScope) (otherId, otherScope))) ∧
    (∀ customerId channel otherId otherChannel,
      hash.TellsApart ("CS:v1:" ++ customerId ++ ":" ++ channel)
          ("CS:v1:" ++ otherId ++ ":" ++ otherChannel) →
        ((generateCustomerConversationId hash customerId channel =
            generateCustomerConversationId hash otherId otherChannel →
              (customerId, channel) = (otherId, otherChannel)) ↔
          ¬Confused (customerId, channel) (otherId, otherChannel))) ∧
    ∀ systemId scope otherId otherScope,
      hash.TellsApart ("SYS:v1:" ++ systemId ++ ":" ++ scope.getD "")
          ("SYS:v1:" ++ otherId ++ ":" ++ otherScope.getD "") →
        ((generateSystemConversationId hash systemId scope =
            generateSystemConversationId hash otherId otherScope →
              (systemId, scope.getD "") = (otherId, otherScope.getD "")) ↔
          ¬Confused (systemId, scope.getD "") (otherId, otherScope.getD "")) := by
  refine ⟨?_, ?_, ?_, ?_, ?_⟩
  · intro user1 user2
    unfold generateSingleChatConversationId singleChatInput
    rw [sortedUsers_comm]
  · intro user1 user2 other1 other2 apart
    rw [← sortedUsers_eq_iff]
    exact names_iff hash apart
  · intro userId aiScope otherId otherScope apart
    exact @names_iff hash "AI:v1:" "3A" (userId, aiScope) (otherId, otherScope) apart
  · intro customerId channel otherId otherChannel apart
    exact @names_iff hash "CS:v1:" "5A" (customerId, channel) (otherId, otherChannel) apart
  · intro systemId scope otherId otherScope apart
    exact @names_iff hash "SYS:v1:" "4A" (systemId, scope.getD "")
      (otherId, otherScope.getD "") apart

/-- A stand-in for the hash and the encoding: the text is cut off or filled up with zeros instead
of being hashed, which has nothing of SHA-256 but the length; ten bytes are written in Base32, five
bits a character. -/
def unhashed : ConversationHash where
  sha256 input := (input ++ List.replicate 32 0).take 32
  base32 bytes := String.ofList ((List.range 16).map fun place =>
    crockfordAlphabet.getD
      (bytes.foldl (fun value byte => value * 256 + byte.toNat) 0 / 32 ^ (15 - place) % 32) '0')
  length_sha256 input := by
    rw [List.length_take, List.length_append, List.length_replicate]
    omega
  isBase32_base32 bytes _ := by
    refine ⟨?_, fun c member => ?_⟩
    · rw [String.length_ofList, List.length_map, List.length_range]
    · rw [String.toList_ofList] at member
      obtain ⟨place, -, rfl⟩ := List.mem_map.mp member
      have digits : ∀ digit : Fin 32, crockfordAlphabet.getD digit '0' ∈ crockfordAlphabet := by
        decide +kernel
      exact digits ⟨_, Nat.mod_lt _ (by decide)⟩

/-- Two conversations of one user are told apart: short texts differ where they are cut off. -/
theorem same_conversation_iff_two :
    (generateSingleChatConversationId unhashed "a" "b" =
        generateSingleChatConversationId unhashed "a" "c" → s("a", "b") = s("a", "c")) ↔
      ¬Confused (sortedUsers "a" "b") (sortedUsers "a" "c") := by
  refine (same_conversation_iff unhashed).2.1 "a" "b" "a" "c" fun same => ?_
  exact absurd same (by decide +kernel)

/-- **Two private conversations with one id**: no hash tells them apart. -/
theorem same_conversation_of_colon :
    (¬∃ hash : ConversationHash, generateSingleChatConversationId hash "a:b" "c" ≠
      generateSingleChatConversationId hash "a" "b:c") ∧ s("a:b", "c") ≠ s("a", "b:c") := by
  refine ⟨?_, by decide⟩
  rintro ⟨hash, differ⟩
  have joined : singleChatInput "a:b" "c" = singleChatInput "a" "b:c" := by decide +kernel
  apply differ
  rw [generateSingleChatConversationId, joined, generateSingleChatConversationId]

end FlareCore.Common

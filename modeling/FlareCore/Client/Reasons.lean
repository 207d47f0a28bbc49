import FlareCore.Client.Core
import Mathlib.Data.List.DropRight

/-!
# Two readings of a reason

Why a server ends a connection is read off the command itself (`is_device_conflict_kick`,
`is_server_shutdown_close`), and a second time off the reason that the client reports to its
observers (`is_device_conflict_reason`, `is_server_shutdown_reason`).  The first reading looks at
the message and at the metadata, each with a comparison of its own; the reported reason is one of
the two, and is compared in one way.

`kick_readings_agree_iff` and `close_readings_agree_iff` say for which commands the readings agree.
-/

namespace FlareCore.Client

open FlareCore.Common FlareCore.Server

set_option autoImplicit false

/-! ## Trimmed texts -/

/-- What is left after trimming does not start with white space. -/
theorem dropWhile_rdropWhile {α : Type} (p : α → Bool) (characters : List α) :
    ((characters.dropWhile p).rdropWhile p).dropWhile p =
      (characters.dropWhile p).rdropWhile p := by
  rw [List.dropWhile_eq_self_iff]
  intro nonempty
  have start := List.rdropWhile_prefix p (l := characters.dropWhile p)
  have first := start.getElem nonempty
  rw [first]
  have whole : 0 < (characters.dropWhile p).length := Nat.lt_of_lt_of_le nonempty start.length_le
  have idempotent := List.dropWhile_idempotent p (l := characters)
  exact List.dropWhile_eq_self_iff.mp idempotent whole

theorem toList_trim (text : String) :
    (trim text).toList = (text.toList.dropWhile isWhitespace).rdropWhile isWhitespace := by
  rw [trim, String.toList_ofList, List.rdropWhile]

@[simp]
theorem trim_trim (text : String) : trim (trim text) = trim text := by
  rw [← String.toList_inj, toList_trim, toList_trim, dropWhile_rdropWhile,
    List.rdropWhile_idempotent]

theorem hasReasonToken_trim (reason token : String) :
    hasReasonToken (trim reason) token = hasReasonToken reason token := by
  rw [hasReasonToken, trim_trim, hasReasonToken]

/-- A reason has the token if it is the token, or starts with it and a colon. -/
theorem hasReasonToken_iff {reason token : String} :
    hasReasonToken reason token = true ↔
      trim reason = token ∨ ∃ detail, trim reason = token ++ ":" ++ detail := by
  unfold hasReasonToken
  rw [Bool.and_eq_true, List.isPrefixOf_iff_prefix]
  constructor
  · rintro ⟨⟨rest, isText⟩, ended⟩
    rw [← isText, List.drop_left] at ended
    cases rest with
    | nil =>
        rw [List.append_nil] at isText
        exact .inl (String.toList_inj.mp isText).symm
    | cons c detail =>
        have colon : c = ':' := by simpa using ended
        refine .inr ⟨String.ofList detail, ?_⟩
        rw [← String.toList_inj, ← isText, colon]
        simp
  · rintro (same | ⟨detail, same⟩)
    · rw [same, List.drop_length]
      exact ⟨List.prefix_rfl, rfl⟩
    · rw [same, String.append_assoc, String.toList_append, List.drop_left]
      exact ⟨List.prefix_append _ _, by simp⟩

/-- No text without characters has a token. -/
theorem hasReasonToken_of_blank {reason token : String} (blank : trim reason = "")
    (some : token ≠ "") : hasReasonToken reason token = false := by
  rw [Bool.eq_false_iff, ne_eq, hasReasonToken_iff, blank]
  rintro (same | ⟨detail, same⟩)
  · exact some same.symm
  · have lengths := congrArg String.length same
    simp only [String.length_append] at lengths
    change 0 = token.length + 1 + detail.length at lengths
    omega

/-! ## The reason in the metadata -/

/-- The reason in the metadata, trimmed, if it is a text that is not blank. -/
def metadataReason (command : SystemCommand) : Option String :=
  ((metadataString command.metadata "reason").map trim).filter (· ≠ "")

theorem statedReason_of_message {command : SystemCommand} (stated : trim command.message ≠ "")
    (unspecified : String) : statedReason command unspecified = trim command.message := by
  rw [statedReason, if_pos stated]

theorem statedReason_of_blank {command : SystemCommand} (blank : trim command.message = "")
    (unspecified : String) :
    statedReason command unspecified = (metadataReason command).getD unspecified := by
  rw [statedReason, if_neg (not_not.mpr blank)]
  rfl

theorem metadataReason_eq_some_iff {command : SystemCommand} {reason : String} :
    metadataReason command = some reason ↔
      ∃ text, metadataString command.metadata "reason" = some text ∧ trim text = reason ∧
        reason ≠ "" := by
  rw [metadataReason, Option.filter_eq_some_iff, Option.map_eq_some_iff]
  constructor
  · rintro ⟨⟨text, found, same⟩, nonempty⟩
    exact ⟨text, found, same, of_decide_eq_true nonempty⟩
  · rintro ⟨text, found, same, nonempty⟩
    exact ⟨⟨text, found, same⟩, decide_eq_true nonempty⟩

/-! ## Kicks -/

/-- Nothing but the reason in the metadata is stated, and it is a device conflict with details. -/
def KickReadApart (command : SystemCommand) : Prop :=
  trim command.message = "" ∧
    ∃ detail, metadataReason command = some (deviceConflictReason ++ ":" ++ detail)

/-- A reason with details is not the old name of a device conflict. -/
theorem eqIgnoreAsciiCase_detailed (detail : String) :
    eqIgnoreAsciiCase (deviceConflictReason ++ ":" ++ detail) "device_conflict" = false := by
  rw [eqIgnoreAsciiCase, decide_eq_false_iff_not]
  intro same
  have lengths := congrArg String.length same
  simp only [asciiLowercase, String.length_ofList, List.length_map, String.length_toList,
    String.length_append] at lengths
  change 15 + 1 + detail.length = 15 at lengths
  omega

/-- What makes a KICKED a device conflict in the first reading. -/
theorem isDeviceConflictKick_eq_true_iff {command : SystemCommand}
    (kicked : command.type = SystemType.kicked.toInt32) :
    isDeviceConflictKick command = true ↔
      isDeviceConflictReason command.message = true ∨
        ∃ text, metadataString command.metadata "reason" = some text ∧
          eqIgnoreAsciiCase (trim text) "device_conflict" = true := by
  rw [isDeviceConflictKick, decide_eq_true kicked, Bool.true_and, Bool.or_eq_true,
    Option.any_eq_true]

/-- What is read of the metadata when the message is blank. -/
theorem hasReasonToken_stated_iff {command : SystemCommand} {unspecified token : String}
    (blank : trim command.message = "") (notToken : hasReasonToken unspecified token = false) :
    hasReasonToken (statedReason command unspecified) token = true ↔
      ∃ reason, metadataReason command = some reason ∧
        (reason = token ∨ ∃ detail, reason = token ++ ":" ++ detail) := by
  rw [statedReason_of_blank blank]
  cases stated : metadataReason command with
  | none =>
      rw [Option.getD_none, notToken]
      exact iff_of_false Bool.false_ne_true fun ⟨_, missing, _⟩ => by cases missing
  | some reason =>
      obtain ⟨text, -, trimmed, -⟩ := metadataReason_eq_some_iff.mp stated
      rw [Option.getD_some, hasReasonToken_iff, ← trimmed, trim_trim]
      constructor
      · intro read
        exact ⟨_, rfl, read⟩
      · rintro ⟨other, same, read⟩
        rw [← Option.some.inj same] at read
        exact read

/-- **The two readings of a kick agree exactly if it is not of this kind.** -/
theorem kick_readings_agree_iff {command : SystemCommand}
    (kicked : command.type = SystemType.kicked.toInt32) :
    (isDeviceConflictKick command = true ↔ isDeviceConflictReason (kickReason command) = true) ↔
      ¬KickReadApart command := by
  have first := isDeviceConflictKick_eq_true_iff kicked
  by_cases kick : isDeviceConflictKick command = true
  · have second : isDeviceConflictReason (kickReason command) = true := by
      rw [kickReason, if_pos kick]
      decide +kernel
    refine iff_of_true (iff_of_true kick second) ?_
    rintro ⟨blank, detail, stated⟩
    obtain ⟨text, found, trimmed, -⟩ := metadataReason_eq_some_iff.mp stated
    rcases first.mp kick with onMessage | ⟨other, isOther, old⟩
    · rw [isDeviceConflictReason, hasReasonToken_of_blank blank (by decide)] at onMessage
      cases onMessage
    · obtain rfl := Option.some.inj (found.symm.trans isOther)
      rw [trimmed, eqIgnoreAsciiCase_detailed] at old
      cases old
  · rw [iff_false_left kick, not_iff_not, kickReason, if_neg kick, isDeviceConflictReason]
    rw [first, not_or] at kick
    obtain ⟨notMessage, notMetadata⟩ := kick
    by_cases blank : trim command.message = ""
    · rw [hasReasonToken_stated_iff blank (by decide +kernel), KickReadApart, and_iff_right blank]
      constructor
      · rintro ⟨reason, stated, rfl | ⟨detail, rfl⟩⟩
        · obtain ⟨text, found, trimmed, -⟩ := metadataReason_eq_some_iff.mp stated
          refine absurd ⟨text, found, ?_⟩ notMetadata
          rw [trimmed]
          decide +kernel
        · exact ⟨detail, stated⟩
      · rintro ⟨detail, stated⟩
        exact ⟨_, stated, .inr ⟨detail, rfl⟩⟩
    · rw [statedReason_of_message blank, hasReasonToken_trim]
      exact iff_of_false notMessage fun apart => blank apart.1

/-! ## Closes -/

/-- The metadata state that the server shuts down. -/
def StatesShutdown (command : SystemCommand) : Prop :=
  command.metadata.lookup "reason" = some (utf8 serverShutdownReason)

/-- The closes that are read in two ways: a message with details that the metadata do not confirm,
a shutdown that only the metadata state beside another message, and one that they state with details
or white space around it. -/
inductive CloseReadApart (command : SystemCommand) : Prop where
  | detailed (detail : String)
      (message : trim command.message = serverShutdownReason ++ ":" ++ detail)
      (unconfirmed : ¬StatesShutdown command)
  | hidden (message : trim command.message ≠ "")
      (other : isServerShutdownReason command.message = false) (stated : StatesShutdown command)
  | inexact (blank : trim command.message = "") (inexact : ¬StatesShutdown command)
      (reason : String) (read : metadataReason command = some reason)
      (shutdown : reason = serverShutdownReason ∨
        ∃ detail, reason = serverShutdownReason ++ ":" ++ detail)

theorem isServerShutdownClose_eq_true_iff {command : SystemCommand}
    (closes : command.type = SystemType.close.toInt32) :
    isServerShutdownClose command = true ↔
      trim command.message = serverShutdownReason ∨ StatesShutdown command := by
  rw [isServerShutdownClose, decide_eq_true closes, Bool.true_and, Bool.or_eq_true,
    decide_eq_true_eq, Option.any_eq_true, StatesShutdown]
  constructor
  · rintro (message | ⟨reason, found, same⟩)
    · exact .inl message
    · rw [of_decide_eq_true same] at found
      exact .inr found
  · rintro (message | stated)
    · exact .inl message
    · exact .inr ⟨_, stated, decide_eq_true rfl⟩

theorem metadataReason_of_statesShutdown {command : SystemCommand}
    (stated : StatesShutdown command) :
    metadataReason command = some serverShutdownReason := by
  refine metadataReason_eq_some_iff.mpr ⟨serverShutdownReason, ?_, ?_, by decide⟩
  · rw [metadataString, stated, Option.bind_some, fromUtf8_utf8]
  · decide +kernel

/-- A token with details is neither the token nor blank. -/
theorem detailed_ne {token detail : String} :
    token ++ ":" ++ detail ≠ token ∧ token ++ ":" ++ detail ≠ "" := by
  have length : (token ++ ":" ++ detail).length = token.length + 1 + detail.length := by
    rw [String.length_append, String.length_append]
    rfl
  constructor
  · intro same
    rw [same] at length
    omega
  · intro same
    rw [same, String.length_empty] at length
    omega

/-- **The two readings of a close agree exactly if it is not of these kinds.** -/
theorem close_readings_agree_iff {command : SystemCommand}
    (closes : command.type = SystemType.close.toInt32) :
    (isServerShutdownClose command = true ↔
      isServerShutdownReason (closeReason command) = true) ↔ ¬CloseReadApart command := by
  rw [isServerShutdownClose_eq_true_iff closes, closeReason, isServerShutdownReason]
  by_cases blank : trim command.message = ""
  · have notMessage : trim command.message ≠ serverShutdownReason := by
      rw [blank]
      decide
    rw [or_iff_right notMessage, hasReasonToken_stated_iff blank (by decide +kernel)]
    by_cases stated : StatesShutdown command
    · refine iff_of_true (iff_of_true stated ?_) ?_
      · exact ⟨_, metadataReason_of_statesShutdown stated, .inl rfl⟩
      · rintro (⟨detail, message, unconfirmed⟩ | ⟨message, -, -⟩ | ⟨-, inexact, -, -, -⟩)
        · exact unconfirmed stated
        · exact message blank
        · exact inexact stated
    · rw [iff_false_left stated, not_iff_not]
      constructor
      · rintro ⟨reason, read, shutdown⟩
        exact .inexact blank stated reason read shutdown
      · rintro (⟨detail, message, -⟩ | ⟨message, -, -⟩ | ⟨-, -, reason, read, shutdown⟩)
        · exact absurd (message.symm.trans blank) detailed_ne.2
        · exact absurd blank message
        · exact ⟨reason, read, shutdown⟩
  · rw [statedReason_of_message blank, hasReasonToken_trim, hasReasonToken_iff]
    by_cases exactly : trim command.message = serverShutdownReason
    · refine iff_of_true (iff_of_true (.inl exactly) (.inl exactly)) ?_
      rintro (⟨detail, message, -⟩ | ⟨-, other, -⟩ | ⟨isBlank, -, -, -, -⟩)
      · exact detailed_ne.1 (message.symm.trans exactly)
      · rw [isServerShutdownReason, hasReasonToken_iff.mpr (.inl exactly)] at other
        cases other
      · exact blank isBlank
    · rw [or_iff_right exactly, or_iff_right exactly]
      have token : isServerShutdownReason command.message = true ↔
          ∃ detail, trim command.message = serverShutdownReason ++ ":" ++ detail := by
        rw [isServerShutdownReason, hasReasonToken_iff, or_iff_right exactly]
      rw [← token]
      by_cases detailed : isServerShutdownReason command.message = true
      · rw [iff_true_right detailed]
        constructor
        · rintro stated (⟨-, -, unconfirmed⟩ | ⟨-, other, -⟩ | ⟨isBlank, -, -, -, -⟩)
          · exact unconfirmed stated
          · exact Bool.false_ne_true (other.symm.trans detailed)
          · exact blank isBlank
        · intro together
          by_contra unconfirmed
          obtain ⟨detail, message⟩ := token.mp detailed
          exact together (.detailed detail message unconfirmed)
      · rw [iff_false_right detailed, not_iff_not]
        constructor
        · intro stated
          exact .hidden blank (Bool.eq_false_iff.mpr detailed) stated
        · rintro (⟨detail, message, -⟩ | ⟨-, -, stated⟩ | ⟨isBlank, -, -, -, -⟩)
          · exact absurd (token.mpr ⟨detail, message⟩) detailed
          · exact stated
          · exact absurd isBlank blank

/-! ## Both commands -/

/-- **What a command is taken for and what its reported reason is taken for** are the same for a
KICKED exactly if it does not state a device conflict with details in the metadata alone, and for a
CLOSE exactly if it is not of one of the three kinds. -/
theorem reason_readings_agree_iff (command : SystemCommand) :
    (command.type = SystemType.kicked.toInt32 →
      ((isDeviceConflictKick command = true ↔ isDeviceConflictReason (kickReason command) = true) ↔
        ¬KickReadApart command)) ∧
    (command.type = SystemType.close.toInt32 →
      ((isServerShutdownClose command = true ↔
          isServerShutdownReason (closeReason command) = true) ↔ ¬CloseReadApart command)) :=
  ⟨kick_readings_agree_iff, close_readings_agree_iff⟩

/-- A KICKED of an older server, and the CLOSE of a server that shuts down, are read alike. -/
theorem reason_readings_agree_on_usual :
    let kick := SystemCommand.kicked "设备冲突"
      ((∅ : StringMap Bytes).insert "reason" (utf8 "device_conflict"))
    let close := SystemCommand.close (some "SERVER_SHUTDOWN")
      ((∅ : StringMap Bytes).insert "reason" (utf8 "SERVER_SHUTDOWN"))
    ((isDeviceConflictKick kick = true ↔ isDeviceConflictReason (kickReason kick) = true) ↔
        ¬KickReadApart kick) ∧
      ((isServerShutdownClose close = true ↔
          isServerShutdownReason (closeReason close) = true) ↔ ¬CloseReadApart close) :=
  ⟨(reason_readings_agree_iff _).1 rfl, (reason_readings_agree_iff _).2 rfl⟩

/-- **Four commands that are read in two ways**: a device conflict with details in the metadata, a
shutdown with details in the message, one behind another message, and one with a blank in front. -/
theorem reason_readings_differ :
    let kick := SystemCommand.kicked ""
      ((∅ : StringMap Bytes).insert "reason" (utf8 "DEVICE_CONFLICT: signed in elsewhere"))
    let detailed := SystemCommand.close (some "SERVER_SHUTDOWN: rolling update") ∅
    let hidden := SystemCommand.close (some "maintenance")
      ((∅ : StringMap Bytes).insert "reason" (utf8 "SERVER_SHUTDOWN"))
    let inexact := SystemCommand.close none
      ((∅ : StringMap Bytes).insert "reason" (utf8 " SERVER_SHUTDOWN"))
    (isDeviceConflictKick kick = false ∧ isDeviceConflictReason (kickReason kick) = true) ∧
      (isServerShutdownClose detailed = false ∧
        isServerShutdownReason (closeReason detailed) = true) ∧
      (isServerShutdownClose hidden = true ∧
        isServerShutdownReason (closeReason hidden) = false) ∧
      isServerShutdownClose inexact = false ∧
        isServerShutdownReason (closeReason inexact) = true := by
  decide +kernel

end FlareCore.Client

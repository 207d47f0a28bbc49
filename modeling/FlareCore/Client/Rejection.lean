import FlareCore.Client.Core
import FlareCore.Server.Identity

/-!
# Whether a rejected client may try again

A rejection of CONNECT is final, or it asks the client to come back later.  The server sends the
class as an error code beside a reason, and the reason is the text of the authenticator if that
looks like a name.  The client reads the reason first: a reason that happens to be the name of an
error code is taken for the class, and `TENANT_UNAVAILABLE` for a final one.

`retry_class_kept_iff` says for which reasons the class survives.
-/

namespace FlareCore.Client

open FlareCore.Common FlareCore.Server

set_option autoImplicit false

/-! ## Names -/

/-- A character of a typed reason. -/
def isNameChar (c : Char) : Bool :=
  c.isUpper || c.isDigit || c = '_'

theorem isWhitespace_of_isNameChar {c : Char} (name : isNameChar c = true) :
    isWhitespace c = false := by
  have range : 48 ≤ c.toNat ∧ c.toNat ≤ 95 := by
    simp only [isNameChar, Bool.or_eq_true, decide_eq_true_eq] at name
    obtain (upper | digit) | rfl := name
    · have letters : 65 ≤ c.val ∧ c.val ≤ 90 := of_decide_eq_true upper
      simp only [UInt32.le_iff_toNat_le] at letters
      change 65 ≤ c.toNat ∧ c.toNat ≤ 90 at letters
      omega
    · simp only [Char.isDigit, Bool.and_eq_true, decide_eq_true_eq, UInt32.le_iff_toNat_le] at digit
      change 48 ≤ c.toNat ∧ c.toNat ≤ 57 at digit
      omega
    · decide
  simp only [isWhitespace, Bool.or_eq_false_iff, Bool.and_eq_false_iff, decide_eq_false_iff_not]
  omega

theorem dropWhile_isWhitespace_of_names {text : List Char} (names : ∀ c ∈ text, isNameChar c) :
    text.dropWhile isWhitespace = text := by
  cases text with
  | nil => rfl
  | cons c text =>
      rw [List.dropWhile_cons, isWhitespace_of_isNameChar (names c List.mem_cons_self)]
      rfl

/-- A name has no white space around it. -/
theorem trim_of_isTypedReason {reason : String} (typed : ServerCore.isTypedReason reason = true) :
    trim reason = reason := by
  have names : ∀ c ∈ reason.toList, isNameChar c := by
    simp only [ServerCore.isTypedReason, Bool.and_eq_true, List.all_eq_true] at typed
    obtain ⟨⟨upper, -⟩, rest⟩ := typed
    cases isText : reason.toList with
    | nil => exact fun c member => absurd member List.not_mem_nil
    | cons first text =>
        rw [isText] at upper rest
        intro c member
        obtain rfl | later := List.mem_cons.mp member
        · exact Bool.or_eq_true_iff.mpr (.inl (Bool.or_eq_true_iff.mpr (.inl upper)))
        · exact rest c later
  have reversed : ∀ c ∈ reason.toList.reverse, isNameChar c :=
    fun c member => names c (List.mem_reverse.mp member)
  rw [trim, dropWhile_isWhitespace_of_names names, dropWhile_isWhitespace_of_names reversed,
    List.reverse_reverse, String.ofList_toList]

theorem mem_errorCodes (code : ErrorCode) : code ∈ errorCodes := by
  cases code <;> decide

theorem asStr_injective {first second : ErrorCode} (same : first.asStr = second.asStr) :
    first = second := by
  have distinct : (errorCodes.map ErrorCode.asStr).Nodup := by
    decide +kernel
  exact List.inj_on_of_nodup_map distinct (mem_errorCodes first) (mem_errorCodes second) same

/-- A text is read as a code exactly if it is the name of the code. -/
theorem parseErrorCode_eq_some_iff {value : String} {code : ErrorCode} :
    parseErrorCode value = some code ↔ code.asStr = value := by
  have named_of_found : ∀ {other}, parseErrorCode value = some other → other.asStr = value := by
    intro other found
    unfold parseErrorCode at found
    simpa using List.find?_some found
  constructor
  · exact named_of_found
  · intro named
    have isFound : (parseErrorCode value).isSome :=
      List.find?_isSome.mpr ⟨code, mem_errorCodes code, decide_eq_true named⟩
    obtain ⟨other, found⟩ := Option.isSome_iff_exists.mp isFound
    rw [found, asStr_injective ((named_of_found found).trans named.symm)]

/-- The name of a code is a typed reason. -/
theorem isTypedReason_asStr (code : ErrorCode) : ServerCore.isTypedReason code.asStr = true := by
  have typed : ∀ code ∈ errorCodes, ServerCore.isTypedReason code.asStr = true := by
    decide +kernel
  exact typed code (mem_errorCodes code)

theorem asStr_ne_tenantUnavailable (code : ErrorCode) : code.asStr ≠ tenantUnavailableReason := by
  have distinct : ∀ code ∈ errorCodes, code.asStr ≠ tenantUnavailableReason := by
    decide +kernel
  exact distinct code (mem_errorCodes code)

/-! ## The code that a client derives -/

/-- The error code that a client reads off a rejection. -/
def derivedCode (frame : Frame) : Option ErrorCode :=
  (systemCommand frame).bind fun command => (rejectionError command).code

/-- A name is taken for the class if it can be, and the code is the class otherwise. -/
def readClass (code : ErrorCode) (reason : String) : ErrorCode :=
  if reason = tenantUnavailableReason then .permissionDenied
  else (parseErrorCode reason).getD code

theorem readClass_asStr (code : ErrorCode) : readClass code code.asStr = code := by
  rw [readClass, if_neg (asStr_ne_tenantUnavailable code),
    parseErrorCode_eq_some_iff.mpr rfl, Option.getD_some]

/-- A text that is neither `TENANT_UNAVAILABLE` nor the name of a code leaves the class alone. -/
theorem readClass_of_untyped {reason : String} (code : ErrorCode)
    (untyped : ¬ServerCore.isTypedReason reason = true) : readClass code reason = code := by
  have notTenant : reason ≠ tenantUnavailableReason := by
    rintro rfl
    exact untyped (by decide)
  have unnamed : parseErrorCode reason = none := by
    by_contra named
    obtain ⟨other, found⟩ := Option.ne_none_iff_exists'.mp named
    rw [← parseErrorCode_eq_some_iff.mp found] at untyped
    exact untyped (isTypedReason_asStr other)
  rw [readClass, if_neg notTenant, unnamed, Option.getD_none]

theorem trim_clientReason (code : ErrorCode) (reason : String) :
    trim (ServerCore.clientReason code reason) = ServerCore.clientReason code reason := by
  unfold ServerCore.clientReason
  split_ifs with typed
  · exact trim_of_isTypedReason typed
  · exact trim_of_isTypedReason (isTypedReason_asStr code)

theorem readClass_clientReason (code : ErrorCode) (reason : String) :
    readClass code (ServerCore.clientReason code reason) = readClass code reason := by
  unfold ServerCore.clientReason
  split_ifs with typed
  · rfl
  · rw [readClass_asStr, readClass_of_untyped code typed]

/-- What the client makes of the reason, whether it is sent or not. -/
theorem derivedCode_connectRejectionFrame (stamp : Stamp) (code : ErrorCode) (reason : String) :
    derivedCode (ServerCore.connectRejectionFrame stamp code reason) =
      some (readClass code reason) := by
  have named : metadataString ((∅ : StringMap Bytes).insert "code" (utf8 code.asStr)) "code" =
      some code.asStr := by
    rw [metadataString, AList.lookup_insert, Option.bind_some, fromUtf8_utf8]
  have notBlank : code.asStr ≠ "" := by
    intro blank
    have typed := isTypedReason_asStr code
    rw [blank] at typed
    exact absurd typed (by decide)
  have isSystem : systemCommand (ServerCore.connectRejectionFrame stamp code reason) =
      some (.error (ServerCore.clientReason code reason)
        ((∅ : StringMap Bytes).insert "code" (utf8 code.asStr))) := rfl
  have parsed : (((some code.asStr).map trim).filter (· ≠ "")).bind parseErrorCode = some code := by
    have kept : (some code.asStr).filter (· ≠ "") = some code.asStr :=
      Option.filter_eq_some_iff.mpr ⟨rfl, decide_eq_true notBlank⟩
    rw [Option.map_some, trim_of_isTypedReason (isTypedReason_asStr code), kept, Option.bind_some,
      parseErrorCode_eq_some_iff.mpr rfl]
  have carried : metadataString (SystemCommand.error (ServerCore.clientReason code reason)
      ((∅ : StringMap Bytes).insert "code" (utf8 code.asStr))).metadata "code" =
        some code.asStr := named
  rw [derivedCode, isSystem, Option.bind_some, rejectionError, carried, ← readClass_clientReason]
  simp only [connectRejectionError, FlareError.code, parsed, SystemCommand.error,
    SystemCommand.withMessage, trim_clientReason, readClass]
  cases parseErrorCode (ServerCore.clientReason code reason) <;> rfl

/-! ## The class of a rejection -/

/-- The authenticator's answer asks the client to come back later: it could not say, or said
so. -/
def isRetryable : Option (Result AuthResult) → Bool
  | none => false
  | some (.error _) => true
  | some (.ok result) => !result.authenticated && result.retryable

/-- The reason of the authenticator is not taken for another class: a rejection that may be
retried is not called `TENANT_UNAVAILABLE` or by the name of another error code, and a final one
is not called `SERVICE_UNAVAILABLE`. -/
def ReasonUnambiguous (answer : Option (Result AuthResult)) : Prop :=
  ∀ result, answer = some (.ok result) → result.authenticated = false →
    ∀ reason ∈ result.errorMessage,
      if result.retryable then
        reason ≠ tenantUnavailableReason ∧ ∀ code : ErrorCode, code.asStr = reason →
          code = .serviceUnavailable
      else reason ≠ ErrorCode.serviceUnavailable.asStr

theorem readClass_eq_serviceUnavailable_iff {code : ErrorCode} {reason : String} :
    readClass code reason = .serviceUnavailable ↔
      if code = .serviceUnavailable then
        reason ≠ tenantUnavailableReason ∧ ∀ other : ErrorCode, other.asStr = reason →
          other = .serviceUnavailable
      else reason = ErrorCode.serviceUnavailable.asStr := by
  unfold readClass
  by_cases tenant : reason = tenantUnavailableReason
  · have notCode : tenantUnavailableReason ≠ ErrorCode.serviceUnavailable.asStr := by
      decide
    simp [tenant, notCode]
  · rw [if_neg tenant]
    cases found : parseErrorCode reason with
    | none =>
        have unnamed : ∀ other : ErrorCode, other.asStr ≠ reason := by
          intro other named
          rw [parseErrorCode_eq_some_iff.mpr named] at found
          cases found
        have notCode : reason ≠ ErrorCode.serviceUnavailable.asStr := (unnamed _).symm
        by_cases class_eq : code = .serviceUnavailable <;> simp [class_eq, tenant, unnamed, notCode]
    | some other =>
        obtain rfl := parseErrorCode_eq_some_iff.mp found
        have names : ∀ {first second : ErrorCode}, first.asStr = second.asStr ↔ first = second :=
          ⟨asStr_injective, congrArg ErrorCode.asStr⟩
        by_cases class_eq : code = .serviceUnavailable <;> simp [class_eq, tenant, names]

/-- A reason that is not a name keeps the class. -/
theorem derivedCode_of_untyped {code : ErrorCode} {reason : String} (stamp : Stamp)
    (untyped : ServerCore.isTypedReason reason = false) :
    derivedCode (ServerCore.connectRejectionFrame stamp code reason) = some code := by
  rw [derivedCode_connectRejectionFrame, readClass_of_untyped code (by rw [untyped]; decide)]

/-- The reason of an authenticator that failed is not a name. -/
theorem isTypedReason_authenticatorError (text : String) :
    ServerCore.isTypedReason ("认证过程出错: " ++ text) = false := by
  rw [ServerCore.isTypedReason, String.toList_append]
  rfl

/-- The class of a rejection by the authenticator is read as it is meant exactly if its reason
is not taken for another class. -/
theorem rejection_class_iff (result : AuthResult) (rejected : result.authenticated = false)
    (stamp : Stamp) {code : ErrorCode} {untyped : String}
    (class_eq : code = .serviceUnavailable ↔ result.retryable = true)
    (default_untyped : ServerCore.isTypedReason untyped = false) :
    (derivedCode (ServerCore.connectRejectionFrame stamp code
        (result.errorMessage.getD untyped)) = some .serviceUnavailable ↔
          isRetryable (some (.ok result)) = true) ↔
      ReasonUnambiguous (some (.ok result)) := by
  have retryable : isRetryable (some (.ok result)) = result.retryable := by
    rw [isRetryable, rejected, Bool.not_false, Bool.true_and]
  have unambiguous : ReasonUnambiguous (some (.ok result)) ↔ ∀ reason ∈ result.errorMessage,
      if result.retryable then
        reason ≠ tenantUnavailableReason ∧ ∀ code : ErrorCode, code.asStr = reason →
          code = .serviceUnavailable
      else reason ≠ ErrorCode.serviceUnavailable.asStr := by
    constructor
    · exact fun met => met result rfl rejected
    · rintro met other same -
      obtain rfl := Except.ok.inj (Option.some.inj same)
      exact met
  rw [retryable, unambiguous]
  cases result.errorMessage with
  | none =>
      rw [Option.getD_none, derivedCode_of_untyped stamp default_untyped, Option.some.injEq,
        class_eq]
      simp
  | some reason =>
      rw [Option.getD_some, derivedCode_connectRejectionFrame, Option.some.injEq,
        readClass_eq_serviceUnavailable_iff]
      simp only [class_eq]
      cases result.retryable <;> simp

section Class

variable [RustText] {core : ServerCore} {frame : Frame} {connectionId : String} {now : Instant}
  {error : FlareError}

/-- **A client may try again exactly if the server says so, exactly for the reasons that are not
taken for another class.** -/
theorem retry_class_kept_iff
    (rejected : core.authenticateConnection frame connectionId (parseConnectMessage frame) now =
      .error error) (stamp : Stamp) :
    ∃ code, ServerCore.explainedCode error = some code ∧
      ((derivedCode (ServerCore.connectRejectionFrame stamp code error.reason) =
          some .serviceUnavailable ↔ isRetryable (core.answerTo frame connectionId now) = true) ↔
        ReasonUnambiguous (core.answerTo frame connectionId now)) := by
  have enabled : core.authEnabled = true := by
    by_contra disabled
    rw [ServerCore.authenticateConnection, if_neg disabled] at rejected
    cases rejected
  rw [ServerCore.authenticateConnection_eq enabled] at rejected
  cases answered : core.answerTo frame connectionId now with
  | none =>
      rw [answered] at rejected
      obtain rfl := Except.error.inj rejected
      refine ⟨.authenticationFailed, rfl, ?_⟩
      rw [derivedCode_of_untyped stamp (by decide)]
      simp [isRetryable, ReasonUnambiguous]
  | some answer =>
      rw [answered, Option.elim_some] at rejected
      cases answer with
      | error failure =>
          obtain rfl := Except.error.inj rejected
          refine ⟨.serviceUnavailable, rfl, ?_⟩
          rw [FlareError.reason,
            derivedCode_of_untyped stamp (isTypedReason_authenticatorError failure.text)]
          simp [isRetryable, ReasonUnambiguous]
      | ok result =>
          dsimp only [ServerCore.identityOfAnswer] at rejected
          split_ifs at rejected with authenticated noUser retryable
          · obtain rfl := Except.error.inj rejected
            refine ⟨.authenticationFailed, rfl, ?_⟩
            rw [derivedCode_of_untyped stamp (by decide)]
            simp [isRetryable, ReasonUnambiguous, authenticated]
          · obtain rfl := Except.error.inj rejected
            exact ⟨.serviceUnavailable, rfl, rejection_class_iff result
              (Bool.not_eq_true _ ▸ authenticated) stamp (by simp [retryable]) (by decide)⟩
          · obtain rfl := Except.error.inj rejected
            exact ⟨.authenticationFailed, rfl, rejection_class_iff result
              (Bool.not_eq_true _ ▸ authenticated) stamp (by simp [retryable]) (by decide)⟩

end Class

section Reasons

open scoped AsciiText

/-- A server whose authenticator rejects everybody for now, with a reason. -/
def busyCore (reason : String) : ServerCore :=
  { guardedCore with
    authenticator := some fun _ _ _ _ _ => .ok ⟨false, none, some reason, none, true⟩ }

def loginFrame : Frame :=
  .withSystemCommand ⟨"connect", 0⟩ (connectAs "alice") .atLeastOnce

/-- A name of the application's own keeps the class. -/
theorem retry_class_kept_iff_busy :
    (busyCore "DATABASE_BUSY").authenticateConnection loginFrame "a"
        (parseConnectMessage loginFrame) 1 =
      .error (.localized .serviceUnavailable "DATABASE_BUSY") ∧
    ∃ code, ServerCore.explainedCode (.localized .serviceUnavailable "DATABASE_BUSY") = some code ∧
      (derivedCode (ServerCore.connectRejectionFrame ⟨"reject", 0⟩ code "DATABASE_BUSY") =
          some .serviceUnavailable ↔
        isRetryable ((busyCore "DATABASE_BUSY").answerTo loginFrame "a" 1) = true) := by
  have rejected : (busyCore "DATABASE_BUSY").authenticateConnection loginFrame "a"
      (parseConnectMessage loginFrame) 1 =
        .error (.localized .serviceUnavailable "DATABASE_BUSY") := rfl
  obtain ⟨code, explained, kept⟩ := retry_class_kept_iff rejected ⟨"reject", 0⟩
  refine ⟨rejected, code, explained, kept.mpr ?_⟩
  rintro result answered - reason member
  obtain rfl := Except.ok.inj (Option.some.inj (answered.symm.trans rfl))
  obtain rfl := Option.some.inj member
  rw [if_pos rfl]
  have unnamed : parseErrorCode "DATABASE_BUSY" = none := by
    decide +kernel
  refine ⟨by decide, fun code named => ?_⟩
  rw [parseErrorCode_eq_some_iff.mpr named] at unnamed
  cases unnamed

/-- **A rejection that may be retried ends the session if its reason is `TENANT_UNAVAILABLE`.** -/
theorem retryable_rejection_read_as_final :
    (busyCore tenantUnavailableReason).authenticateConnection loginFrame "a"
        (parseConnectMessage loginFrame) 1 =
      .error (.localized .serviceUnavailable tenantUnavailableReason) ∧
    ServerCore.explainedCode (.localized .serviceUnavailable tenantUnavailableReason) =
      some .serviceUnavailable ∧
    ¬(derivedCode (ServerCore.connectRejectionFrame ⟨"reject", 0⟩ .serviceUnavailable
        tenantUnavailableReason) = some .serviceUnavailable ↔
      isRetryable ((busyCore tenantUnavailableReason).answerTo loginFrame "a" 1) = true) := by
  have derived : derivedCode (ServerCore.connectRejectionFrame ⟨"reject", 0⟩ .serviceUnavailable
      tenantUnavailableReason) = some .permissionDenied := by
    decide +kernel
  refine ⟨rfl, rfl, fun kept => ?_⟩
  have final := derived.symm.trans (kept.mpr rfl)
  exact absurd final (by decide)

end Reasons

end FlareCore.Client

import FlareCore.Common.Protocol

/-!
# Certificate pinning

A client with pins lets a delegate decide whether it trusts the certificate of the server, and then
asks for a certificate that matches a pin.  The delegate builds a path from some of the certificates
that the server has sent, and answers without it.  So the policy searches all that was sent
(`verifyChain_ok_iff`), and its verdict holds of the path only if what was sent besides matches no
pin (`verify_unchanged_iff`).
-/

namespace FlareCore.Common

set_option autoImplicit false

/-! ## Certificates and pins -/

/-- A certificate as its DER encoding. -/
structure CertificateDer where
  der : List UInt8
  deriving DecidableEq

/-- What the policy takes from other crates: the digest, the parser that finds the public key in a
certificate, or tells why it cannot, and the encoding of the digest in a message. -/
structure CertificateLibraries where
  sha256 : List UInt8 → List UInt8
  subjectPki : List UInt8 → Except String (List UInt8)
  base64 : List UInt8 → String

structure TlsPinningPolicy where
  spkiSha256Pins : List (List UInt8)
  certificateSha256Pins : List (List UInt8)

inductive CertificateError where
  | applicationVerificationFailure
  | other (name : String)
  deriving DecidableEq

inductive RustlsError where
  | invalidCertificate (error : CertificateError)
  | other (name : String)
  deriving DecidableEq

section Verifying

variable (libraries : CertificateLibraries)

def spkiSha256 (certificateDer : List UInt8) : Except String (List UInt8) :=
  match libraries.subjectPki certificateDer with
  | .error error => .error ("parse certificate DER failed: " ++ error)
  | .ok subjectPki => .ok (libraries.sha256 subjectPki)

def certificateChainDer (endEntity : CertificateDer) (intermediates : List CertificateDer) :
    List CertificateDer :=
  endEntity :: intermediates

namespace TlsPinningPolicy

variable (policy : TlsPinningPolicy)

def isEnabled : Bool :=
  !policy.spkiSha256Pins.isEmpty || !policy.certificateSha256Pins.isEmpty

/-- The public key of the certificate has one of the pins. -/
def matchesSpki (certificate : CertificateDer) : Bool :=
  match spkiSha256 libraries certificate.der with
  | .error _ => false
  | .ok actual => policy.spkiSha256Pins.any (· == actual)

/-- The certificate itself has one of the pins. -/
def matchesCertificate (certificate : CertificateDer) : Bool :=
  policy.certificateSha256Pins.any (· == libraries.sha256 certificate.der)

def verifyChain (endEntity : CertificateDer) (intermediates : List CertificateDer) :
    Except String Unit :=
  if !policy.spkiSha256Pins.isEmpty &&
      (certificateChainDer endEntity intermediates).any (policy.matchesSpki libraries) then
    .ok ()
  else if !policy.certificateSha256Pins.isEmpty &&
      (certificateChainDer endEntity intermediates).any (policy.matchesCertificate libraries) then
    .ok ()
  else
    let leafSpki := match spkiSha256 libraries endEntity.der with
      | .ok hash => "spki-sha256/" ++ libraries.base64 hash
      | .error error => "spki-unavailable(" ++ error ++ ")"
    .error ("TLS certificate pin mismatch; leaf " ++ leafSpki)

end TlsPinningPolicy

/-- What the verifier is asked about besides the certificates. -/
structure VerifyRequest where
  serverName : String
  ocspResponse : List UInt8
  now : Nat

/-- The delegate, with the path that it builds. -/
structure ServerCertVerifier where
  verify : CertificateDer → List CertificateDer → VerifyRequest → Except RustlsError Unit
  path : CertificateDer → List CertificateDer → VerifyRequest → List CertificateDer

structure PinnedServerCertVerifier where
  delegate : ServerCertVerifier
  policy : TlsPinningPolicy

/-- `verify_server_cert`. -/
def PinnedServerCertVerifier.verify (verifier : PinnedServerCertVerifier)
    (endEntity : CertificateDer) (intermediates : List CertificateDer) (request : VerifyRequest) :
    Except RustlsError Unit := do
  verifier.delegate.verify endEntity intermediates request
  match verifier.policy.verifyChain libraries endEntity intermediates with
  | .ok () => .ok ()
  | .error _ => .error (.invalidCertificate .applicationVerificationFailure)

/-! ## What is searched for a pin -/

namespace TlsPinningPolicy

variable (policy : TlsPinningPolicy)

/-- The certificate has one of the pins, by its public key or by itself. -/
def pinsCertificate (certificate : CertificateDer) : Bool :=
  policy.matchesSpki libraries certificate || policy.matchesCertificate libraries certificate

/-- Without pins there is no match. -/
theorem isEmpty_of_matchesSpki {certificate : CertificateDer}
    (pinned : policy.matchesSpki libraries certificate = true) :
    policy.spkiSha256Pins.isEmpty = false := by
  unfold matchesSpki at pinned
  cases pins : policy.spkiSha256Pins with
  | nil =>
      rw [pins] at pinned
      split at pinned <;> cases pinned
  | cons => rfl

theorem isEmpty_of_matchesCertificate {certificate : CertificateDer}
    (pinned : policy.matchesCertificate libraries certificate = true) :
    policy.certificateSha256Pins.isEmpty = false := by
  unfold matchesCertificate at pinned
  cases pins : policy.certificateSha256Pins with
  | nil =>
      rw [pins] at pinned
      cases pinned
  | cons => rfl

/-- **The policy is content with any certificate that was sent.** -/
theorem verifyChain_ok_iff (endEntity : CertificateDer) (intermediates : List CertificateDer) :
    policy.verifyChain libraries endEntity intermediates = .ok () ↔
      ∃ certificate ∈ endEntity :: intermediates,
        policy.pinsCertificate libraries certificate = true := by
  simp only [pinsCertificate, Bool.or_eq_true, and_or_left, exists_or]
  unfold verifyChain certificateChainDer
  split
  · next bySpki =>
      obtain ⟨-, found⟩ := Bool.and_eq_true_iff.mp bySpki
      exact iff_of_true rfl (.inl (List.any_eq_true.mp found))
  · next noSpki =>
      have noSpki : ¬∃ certificate ∈ endEntity :: intermediates,
          policy.matchesSpki libraries certificate = true := by
        rintro ⟨certificate, member, pinned⟩
        refine noSpki (Bool.and_eq_true_iff.mpr ⟨?_, List.any_eq_true.mpr ⟨_, member, pinned⟩⟩)
        rw [policy.isEmpty_of_matchesSpki libraries pinned]
        rfl
      split
      · next byCertificate =>
          obtain ⟨-, found⟩ := Bool.and_eq_true_iff.mp byCertificate
          exact iff_of_true rfl (.inr (List.any_eq_true.mp found))
      · next noCertificate =>
          refine iff_of_false (fun same => nomatch same) (not_or.mpr ⟨noSpki, ?_⟩)
          rintro ⟨certificate, member, pinned⟩
          refine noCertificate
            (Bool.and_eq_true_iff.mpr ⟨?_, List.any_eq_true.mpr ⟨_, member, pinned⟩⟩)
          rw [policy.isEmpty_of_matchesCertificate libraries pinned]
          rfl

end TlsPinningPolicy

namespace PinnedServerCertVerifier

variable (verifier : PinnedServerCertVerifier) (endEntity : CertificateDer)
  (intermediates : List CertificateDer) (request : VerifyRequest)

/-- The verdict is that of the delegate, unless it is content and no pin matches. -/
theorem verify_eq :
    verifier.verify libraries endEntity intermediates request =
      (verifier.delegate.verify endEntity intermediates request).bind fun _ =>
        if (endEntity :: intermediates).any (verifier.policy.pinsCertificate libraries) then .ok ()
        else .error (.invalidCertificate .applicationVerificationFailure) := by
  have pinned := verifier.policy.verifyChain_ok_iff libraries endEntity intermediates
  rw [← List.any_eq_true] at pinned
  rw [verify]
  refine congrArg (Except.bind _) (funext fun _ => ?_)
  split
  · next found => rw [if_pos (pinned.mp found)]
  · next error refused =>
      rw [if_neg]
      intro found
      cases refused.symm.trans (pinned.mpr found)

/-- **A verifier with pins accepts what the delegate trusts and a pin matches.** -/
theorem verify_ok_iff :
    verifier.verify libraries endEntity intermediates request = .ok () ↔
      verifier.delegate.verify endEntity intermediates request = .ok () ∧
        ∃ certificate ∈ endEntity :: intermediates,
          verifier.policy.pinsCertificate libraries certificate = true := by
  rw [verify_eq, ← List.any_eq_true]
  cases verifier.delegate.verify endEntity intermediates request with
  | error error => exact iff_of_false (fun same => nomatch same) (fun both => nomatch both.1)
  | ok accepted =>
      show (if _ then _ else _) = _ ↔ _
      split
      · next found => exact iff_of_true rfl ⟨rfl, found⟩
      · next absent => exact iff_of_false (fun same => nomatch same) (fun both => absent both.2)

end PinnedServerCertVerifier

/-! ## What was sent besides the path -/

/-- The third list has the elements of the first two, in the order of each. -/
inductive Interleaves {α : Type} : List α → List α → List α → Prop where
  | nil : Interleaves [] [] []
  | left {xs ys zs : List α} (x : α) (rest : Interleaves xs ys zs) :
      Interleaves (x :: xs) ys (x :: zs)
  | right {xs ys zs : List α} (y : α) (rest : Interleaves xs ys zs) :
      Interleaves xs (y :: ys) (y :: zs)

theorem Interleaves.any_eq {α : Type} {xs ys zs : List α} (interleaves : Interleaves xs ys zs)
    (p : α → Bool) : zs.any p = (xs.any p || ys.any p) := by
  induction interleaves with
  | nil => rfl
  | left x _ inductionHypothesis =>
      rw [List.any_cons, List.any_cons, inductionHypothesis, Bool.or_assoc]
  | right y _ inductionHypothesis =>
      rw [List.any_cons, List.any_cons, inductionHypothesis, Bool.or_left_comm]

theorem Interleaves.append {α : Type} (xs ys : List α) : Interleaves xs ys (xs ++ ys) := by
  induction xs with
  | nil =>
      induction ys with
      | nil => exact .nil
      | cons y ys inductionHypothesis => exact .right y inductionHypothesis
  | cons x xs inductionHypothesis => exact .left x inductionHypothesis

/-- The verdict of the delegate is about its path.  Certificates that are not on it change
nothing. -/
def ServerCertVerifier.IgnoresOffPath (delegate : ServerCertVerifier) : Prop :=
  ∀ endEntity intermediates extras sent request, Interleaves intermediates extras sent →
    (∀ extra ∈ extras, extra ∉ delegate.path endEntity sent request) →
      delegate.verify endEntity sent request = delegate.verify endEntity intermediates request

/-- **Certificates beside the path change nothing, exactly unless the delegate trusts the server, no
pin matches and one of them does.** -/
theorem verify_unchanged_iff (verifier : PinnedServerCertVerifier)
    (ignores : verifier.delegate.IgnoresOffPath) {endEntity : CertificateDer}
    {intermediates extras sent : List CertificateDer} {request : VerifyRequest}
    (interleaves : Interleaves intermediates extras sent)
    (offPath : ∀ extra ∈ extras, extra ∉ verifier.delegate.path endEntity sent request) :
    verifier.verify libraries endEntity sent request =
        verifier.verify libraries endEntity intermediates request ↔
      ¬(verifier.delegate.verify endEntity intermediates request = .ok () ∧
        (¬∃ certificate ∈ endEntity :: intermediates,
          verifier.policy.pinsCertificate libraries certificate = true) ∧
        ∃ extra ∈ extras, verifier.policy.pinsCertificate libraries extra = true) := by
  rw [verifier.verify_eq, verifier.verify_eq, List.any_cons, interleaves.any_eq,
    ← Bool.or_assoc, ← List.any_cons, ignores _ _ _ _ request interleaves offPath,
    ← List.any_eq_true, ← List.any_eq_true]
  generalize (endEntity :: intermediates).any (verifier.policy.pinsCertificate libraries) = before
  generalize extras.any (verifier.policy.pinsCertificate libraries) = beside
  cases verifier.delegate.verify endEntity intermediates request with
  | error error => exact iff_of_true rfl fun attacked => nomatch attacked.1
  | ok accepted =>
      show ((if _ then _ else _) = if _ then _ else _) ↔ _
      cases before with
      | true => exact iff_of_true rfl fun attacked => attacked.2.1 rfl
      | false =>
          cases beside with
          | true => exact iff_of_false (fun same => nomatch same) (not_not.mpr ⟨rfl, nofun, rfl⟩)
          | false => exact iff_of_true rfl fun attacked => nomatch attacked.2.2

end Verifying

/-! ## An attack -/

/-- The digests of three short strings, which are no certificates, so that only the pins of
certificates can match them. -/
def shortDigests : CertificateLibraries where
  sha256
    | [1] => [75, 245, 18, 47, 52, 69, 84, 197, 59, 222, 46, 187, 140, 210, 183, 227, 209, 96, 10,
        214, 49, 195, 133, 165, 215, 204, 226, 60, 119, 133, 69, 154]
    | [2] => [219, 193, 180, 201, 0, 255, 228, 141, 87, 91, 93, 165, 198, 56, 4, 1, 37, 246, 93,
        176, 254, 62, 36, 73, 75, 118, 234, 152, 100, 87, 217, 134]
    | [3] => [8, 79, 237, 8, 185, 120, 175, 77, 125, 25, 106, 116, 70, 168, 107, 88, 0, 158, 99,
        107, 97, 29, 177, 98, 17, 182, 90, 154, 173, 255, 41, 197]
    | _ => []
  subjectPki _ := .error "Parsing Error"
  base64 _ := ""

def shortCertificate (byte : UInt8) : CertificateDer :=
  ⟨[byte]⟩

def anyRequest : VerifyRequest :=
  ⟨"im.example", [], 0⟩

/-- A delegate that trusts the first certificate by itself. -/
def trustsFirst : ServerCertVerifier where
  verify endEntity _ _ :=
    if endEntity = shortCertificate 1 then .ok ()
    else .error (.invalidCertificate (.other "UnknownIssuer"))
  path endEntity _ _ := [endEntity]

/-- The third certificate is pinned. -/
def pinnedThird : PinnedServerCertVerifier where
  delegate := trustsFirst
  policy := ⟨[], [shortDigests.sha256 (shortCertificate 3).der]⟩

theorem trustsFirst_ignoresOffPath : trustsFirst.IgnoresOffPath :=
  fun _ _ _ _ _ _ _ => rfl

theorem verify_unchanged_by_unpinned :
    pinnedThird.verify shortDigests (shortCertificate 1) [shortCertificate 2] anyRequest =
        pinnedThird.verify shortDigests (shortCertificate 1) [] anyRequest ↔
      ¬(trustsFirst.verify (shortCertificate 1) [] anyRequest = .ok () ∧
        (¬∃ certificate ∈ [shortCertificate 1],
          pinnedThird.policy.pinsCertificate shortDigests certificate = true) ∧
        ∃ extra ∈ [shortCertificate 2],
          pinnedThird.policy.pinsCertificate shortDigests extra = true) :=
  verify_unchanged_iff shortDigests pinnedThird trustsFirst_ignoresOffPath
    (Interleaves.append [] [shortCertificate 2]) (by decide)

/-- A server that no pin matches is accepted as soon as it sends the pinned certificate along. -/
theorem pinned_certificate_sent_along :
    trustsFirst.IgnoresOffPath ∧
      shortCertificate 3 ∉ trustsFirst.path (shortCertificate 1) [shortCertificate 3] anyRequest ∧
      pinnedThird.verify shortDigests (shortCertificate 1) [] anyRequest =
        .error (.invalidCertificate .applicationVerificationFailure) ∧
      pinnedThird.verify shortDigests (shortCertificate 1) [shortCertificate 3] anyRequest =
        .ok () := by
  refine ⟨trustsFirst_ignoresOffPath, by decide, ?_, ?_⟩ <;> rfl

end FlareCore.Common

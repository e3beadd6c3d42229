import PayGuard.Lib.IntegerLiterals
import Mathlib.Tactic.Common

/-
  The signature of a webhook.

  The provider signs the timestamp header and the raw body
  with a shared secret.  A webhook is verified or rejected;
  whatever an attacker sends is meant to end in one of the
  two.

  Key definitions include:
    * `signPayload`
    * `compareDigest`
    * `verifyWebhookSignature`
    * `Genuine`
    * `VerifiesExactly`

  Key theorems include:
    * `verifyWebhookSignature_cases`
    * `signature_verification_exact_iff`
    * `foreign_signature_escapes`
-/

------------------------------------------------------------
-- Signing
------------------------------------------------------------

namespace PayGuard

/- What the verification can raise. -/
inductive VerificationError where
-- a `PayGuardError` with code `WEBHOOK_SIGNATURE_INVALID`
| webhookSignatureInvalid (message : String)
| typeError
deriving DecidableEq, Repr

def hexDigit (value : Nat) : Char :=
  if value < 10 then
    Char.ofNat (48 + value)
  else
    Char.ofNat (87 + value)

/- `hexdigest`. -/
def hexDigest (digest : List UInt8) : String :=
  String.ofList (digest.flatMap (fun byte =>
    [hexDigit (byte.toNat / 16),
      hexDigit (byte.toNat % 16)]))

/- `str.encode`. -/
def encode (text : String) : List UInt8 :=
  text.toUTF8.data.toList

/- `hmac` stands for HMAC-SHA256 of a key and a message. -/
def signPayload
    (hmac : List UInt8 → List UInt8 → List UInt8)
    (secret timestamp : String)
    (rawBody : List UInt8) : String :=
  hexDigest (hmac (encode secret)
    (encode timestamp ++ encode "." ++ rawBody))

def isAscii (text : String) : Bool :=
  text.toList.all (fun char => char.toNat < 128)

/- `hmac.compare_digest` only takes ASCII strings. -/
def compareDigest
    (left right : String) :
    Except VerificationError Bool :=
  if isAscii left && isAscii right then
    .ok (left = right)
  else
    .error .typeError

------------------------------------------------------------
-- Verifying
------------------------------------------------------------

/- Five minutes. -/
def defaultToleranceSeconds : Int := 300

def verifyWebhookSignature
    (hmac : List UInt8 → List UInt8 → List UInt8)
    (secret : String)
    (timestampHeader signatureHeader : Option String)
    (rawBody : List UInt8)
    (now : Int)
    (toleranceSeconds : Int := defaultToleranceSeconds) :
    Except VerificationError Unit :=
  let timestampHeader := timestampHeader.getD ""
  let signatureHeader := signatureHeader.getD ""
  if timestampHeader = "" ∨ signatureHeader = "" then
    .error (.webhookSignatureInvalid
      "Missing signature or timestamp header.")
  else
    match IntegerLiteral.parse timestampHeader with
    | none =>
        .error (.webhookSignatureInvalid
          "Malformed timestamp header.")
    | some timestamp =>
        if (now - timestamp).natAbs > toleranceSeconds then
          .error (.webhookSignatureInvalid
            ("Webhook timestamp is outside the allowed " ++
              "tolerance window."))
        else
          match compareDigest
              (signPayload hmac secret timestampHeader
                rawBody)
              signatureHeader with
          | .error raised => .error raised
          | .ok true => .ok ()
          | .ok false =>
              .error (.webhookSignatureInvalid
                "Signature verification failed.")

/- The headers get as far as the comparison. -/
structure Compared
    (timestampHeader signatureHeader : Option String)
    (now toleranceSeconds : Int)
    (timestamp signature : String)
    (seconds : Int) : Prop where
  timestampSent : timestampHeader = some timestamp
  signatureSent : signatureHeader = some signature
  timestampGiven : timestamp ≠ ""
  signatureGiven : signature ≠ ""
  parsed : IntegerLiteral.parse timestamp = some seconds
  recent : (now - seconds).natAbs ≤ toleranceSeconds

/- The headers that vouch for a body. -/
def Genuine
    (hmac : List UInt8 → List UInt8 → List UInt8)
    (secret : String)
    (timestampHeader signatureHeader : Option String)
    (rawBody : List UInt8)
    (now toleranceSeconds : Int) : Prop :=
  ∃ timestamp signature seconds,
    Compared timestampHeader signatureHeader now
        toleranceSeconds timestamp signature seconds ∧
      signature = signPayload hmac secret timestamp rawBody

/- Genuine headers pass, all others are rejected. -/
structure VerifiesExactly
    (hmac : List UInt8 → List UInt8 → List UInt8)
    (secret : String)
    (timestampHeader signatureHeader : Option String)
    (rawBody : List UInt8)
    (now toleranceSeconds : Int) : Prop where
  accepts :
    verifyWebhookSignature hmac secret timestampHeader
          signatureHeader rawBody now toleranceSeconds =
        .ok () ↔
      Genuine hmac secret timestampHeader signatureHeader
        rawBody now toleranceSeconds
  rejects :
    ∀ raised,
      verifyWebhookSignature hmac secret timestampHeader
            signatureHeader rawBody now toleranceSeconds =
          .error raised →
        ∃ message,
          raised = .webhookSignatureInvalid message

/- A signature that is compared has no foreign character. -/
def ComparesAscii
    (timestampHeader signatureHeader : Option String)
    (now toleranceSeconds : Int) : Prop :=
  ∀ timestamp signature seconds,
    Compared timestampHeader signatureHeader now
        toleranceSeconds timestamp signature seconds →
      isAscii signature = true

------------------------------------------------------------
-- Digests
------------------------------------------------------------

variable {hmac : List UInt8 → List UInt8 → List UInt8}
variable {secret timestamp signature : String}
variable {rawBody : List UInt8}
variable {now seconds toleranceSeconds : Int}

theorem hexDigit_lt
    (value : Nat)
    (hValue : value < 16) :
    (hexDigit value).toNat < 128 := by
  revert value
  decide

/- A digest is spelled in ASCII. -/
theorem isAscii_hexDigest
    (digest : List UInt8) :
    isAscii (hexDigest digest) = true := by
  unfold isAscii hexDigest
  rw [String.toList_ofList, List.all_eq_true]
  intro char hChar
  rw [List.mem_flatMap] at hChar
  rcases hChar with ⟨byte, _, hDigit⟩
  have hByte := byte.toNat_lt
  rw [decide_eq_true_eq]
  simp only [List.mem_cons, List.not_mem_nil, or_false]
    at hDigit
  rcases hDigit with rfl | rfl
  · exact hexDigit_lt _ (by omega)
  · exact hexDigit_lt _ (by omega)

theorem compareDigest_signPayload :
    compareDigest
        (signPayload hmac secret timestamp rawBody)
        signature =
      if isAscii signature then
        .ok (signPayload hmac secret timestamp rawBody =
          signature)
      else
        .error .typeError := by
  unfold compareDigest signPayload
  rw [isAscii_hexDigest, Bool.true_and]

end PayGuard

------------------------------------------------------------
-- Verdicts
------------------------------------------------------------

namespace PayGuard

variable {hmac : List UInt8 → List UInt8 → List UInt8}
variable {secret : String}
variable {timestampHeader signatureHeader : Option String}
variable {rawBody : List UInt8}
variable {now toleranceSeconds : Int}

/- Rejected before the comparison, or compared. -/
theorem verifyWebhookSignature_cases
    (hmac : List UInt8 → List UInt8 → List UInt8)
    (secret : String)
    (timestampHeader signatureHeader : Option String)
    (rawBody : List UInt8)
    (now toleranceSeconds : Int) :
    (∃ message,
        verifyWebhookSignature hmac secret timestampHeader
              signatureHeader rawBody now toleranceSeconds =
            .error (.webhookSignatureInvalid message) ∧
          ∀ timestamp signature seconds,
            ¬ Compared timestampHeader signatureHeader now
              toleranceSeconds timestamp signature
              seconds) ∨
      ∃ timestamp signature seconds,
        Compared timestampHeader signatureHeader now
            toleranceSeconds timestamp signature seconds ∧
          verifyWebhookSignature hmac secret timestampHeader
              signatureHeader rawBody now toleranceSeconds =
            if isAscii signature then
              if signPayload hmac secret timestamp rawBody =
                  signature then
                .ok ()
              else
                .error (.webhookSignatureInvalid
                  "Signature verification failed.")
            else
              .error .typeError := by
  unfold verifyWebhookSignature
  simp only
  by_cases hMissing :
      timestampHeader.getD "" = "" ∨
        signatureHeader.getD "" = ""
  · left
    rw [if_pos hMissing]
    refine ⟨_, rfl, ?_⟩
    intro timestamp signature seconds hCompared
    rw [hCompared.timestampSent, hCompared.signatureSent]
      at hMissing
    exact hMissing.elim hCompared.timestampGiven
      hCompared.signatureGiven
  · rw [if_neg hMissing]
    rw [not_or] at hMissing
    rcases Option.ne_none_iff_exists'.mp (by
        intro hNone
        simp [hNone] at hMissing :
        timestampHeader ≠ none) with ⟨timestamp, rfl⟩
    rcases Option.ne_none_iff_exists'.mp (by
        intro hNone
        simp [hNone] at hMissing :
        signatureHeader ≠ none) with ⟨signature, rfl⟩
    simp only [Option.getD_some] at hMissing ⊢
    split
    · rename_i hParse
      refine .inl ⟨_, rfl, ?_⟩
      rintro _ _ seconds ⟨⟨⟩, _, _, _, hParsed, _⟩
      rw [hParse] at hParsed
      cases hParsed
    · rename_i seconds hParse
      split
      · rename_i hLate
        refine .inl ⟨_, rfl, ?_⟩
        rintro _ _ other ⟨⟨⟩, _, _, _, hParsed, hRecent⟩
        rw [hParse] at hParsed
        cases hParsed
        omega
      · rename_i hRecent
        right
        refine ⟨timestamp, signature, seconds,
          ⟨rfl, rfl, hMissing.1, hMissing.2, hParse,
            by omega⟩, ?_⟩
        rw [compareDigest_signPayload]
        cases isAscii signature with
        | false => rfl
        | true =>
            by_cases hSame :
                signPayload hmac secret timestamp rawBody =
                  signature
            · simp [hSame]
            · simp [hSame]

theorem Compared.unique
    {timestamp signature otherTimestamp otherSignature :
      String}
    {seconds otherSeconds : Int}
    (hFirst :
      Compared timestampHeader signatureHeader now
        toleranceSeconds timestamp signature seconds)
    (hSecond :
      Compared timestampHeader signatureHeader now
        toleranceSeconds otherTimestamp otherSignature
        otherSeconds) :
    otherTimestamp = timestamp ∧
      otherSignature = signature := by
  have hTimestamp := hSecond.timestampSent
  have hSignature := hSecond.signatureSent
  rw [hFirst.timestampSent] at hTimestamp
  rw [hFirst.signatureSent] at hSignature
  exact ⟨(Option.some.inj hTimestamp).symm,
    (Option.some.inj hSignature).symm⟩

/-
  Verification is exact, and nothing but the rejection
  escapes it, if and only if no signature with a character
  outside ASCII gets as far as the comparison.
-/
theorem signature_verification_exact_iff
    (hmac : List UInt8 → List UInt8 → List UInt8)
    (secret : String)
    (timestampHeader signatureHeader : Option String)
    (rawBody : List UInt8)
    (now toleranceSeconds : Int) :
    VerifiesExactly hmac secret timestampHeader
        signatureHeader rawBody now toleranceSeconds ↔
      ComparesAscii timestampHeader signatureHeader now
        toleranceSeconds := by
  rcases verifyWebhookSignature_cases hmac secret
      timestampHeader signatureHeader rawBody now
      toleranceSeconds with
    ⟨message, hRejected, hNone⟩ |
      ⟨timestamp, signature, seconds, hCompared, hAnswer⟩
  · constructor
    · intro _ timestamp signature seconds hCompared
      exact absurd hCompared (hNone _ _ _)
    · intro _
      constructor
      · rw [hRejected]
        constructor
        · intro hOk
          cases hOk
        · rintro ⟨_, _, _, hCompared, _⟩
          exact absurd hCompared (hNone _ _ _)
      · intro raised hRaised
        rw [hRejected] at hRaised
        cases hRaised
        exact ⟨message, rfl⟩
  · constructor
    · intro hExact other signed _ hOther
      rcases hCompared.unique hOther with ⟨rfl, rfl⟩
      cases hAscii : isAscii signed with
      | true => rfl
      | false =>
          rw [hAscii] at hAnswer
          rcases hExact.rejects _ hAnswer with
            ⟨message, hRaised⟩
          cases hRaised
    · intro hAscii
      rw [hAscii timestamp signature seconds hCompared,
        if_pos rfl] at hAnswer
      constructor
      · rw [hAnswer]
        constructor
        · intro hOk
          refine ⟨timestamp, signature, seconds, hCompared,
            ?_⟩
          by_contra hOther
          rw [if_neg (Ne.symm hOther)] at hOk
          cases hOk
        · rintro ⟨other, signed, _, hOther, hSame⟩
          rcases hCompared.unique hOther with ⟨rfl, rfl⟩
          rw [if_pos hSame.symm]
      · intro raised hRaised
        rw [hAnswer] at hRaised
        split at hRaised
        · cases hRaised
        · cases hRaised
          exact ⟨_, rfl⟩

example :
    verifyWebhookSignature (fun key _ => key) "k"
        (some " 99 ") (some "6b") [1, 2] 100 = .ok () := by
  decide

/- One latin-1 letter in the signature of a fresh webhook. -/
theorem foreign_signature_escapes :
    verifyWebhookSignature (fun key _ => key) "secret"
          (some "100") (some "\u00e9") [] 100 =
        .error .typeError ∧
      ¬ VerifiesExactly (fun key _ => key) "secret"
        (some "100") (some "\u00e9") [] 100
        defaultToleranceSeconds := by
  have hEscapes :
      verifyWebhookSignature (fun key _ => key) "secret"
          (some "100") (some "\u00e9") [] 100 =
        .error .typeError := by
    decide
  refine ⟨hEscapes, ?_⟩
  intro hExact
  rcases hExact.rejects _ hEscapes with ⟨message, hRaised⟩
  cases hRaised

end PayGuard

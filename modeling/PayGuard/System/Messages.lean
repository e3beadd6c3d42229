import PayGuard.Idempotency.Framing
import PayGuard.Webhooks.Security

/-
  What the hashed messages say.

  Two encoders put a separator of one byte between parts of
  any length.  The path of a request has no newline and a
  header that `int` reads has no dot, so the first separator
  of a message ends its first part, and no message can be
  read in two ways.

  Key definitions include:
    * `uuidText`
    * `HashedRequest`
    * `signedPayload`

  Key theorems include:
    * `uuidText_injective`
    * `HashedRequest.hashInput_inj`
    * `signedPayload_inj`
    * `hashed_messages_are_framed`
-/

------------------------------------------------------------
-- The Text Of A Uuid
------------------------------------------------------------

namespace PayGuard

open Lines

/- The last `width` hex digits, the leading one first. -/
def hexDigits : Nat → Nat → List Char
| 0, _ => []
| width + 1, value =>
    hexDigits width (value / 16) ++ [hexDigit (value % 16)]

/- `str` of a `uuid.UUID`. -/
def uuidText (uuid : BitVec 128) : String :=
  let hex := hexDigits 32 uuid.toNat
  String.ofList
    (hex.take 8 ++ '-' ::
      ((hex.drop 8).take 4 ++ '-' ::
        ((hex.drop 12).take 4 ++ '-' ::
          ((hex.drop 16).take 4 ++ '-' :: hex.drop 20))))

example :
    uuidText 0x12345678123456781234567812345678#128 =
      "12345678-1234-5678-1234-567812345678" := by
  decide +kernel

theorem hexDigit_inj :
    ∀ value < 16, ∀ other < 16,
      hexDigit value = hexDigit other → value = other := by
  decide

theorem hexDigit_plain :
    ∀ value < 16,
      (hexDigit value).toNat < 128 ∧
        hexDigit value ≠ '\n' ∧ hexDigit value ≠ '-' := by
  decide

theorem hexDigits_plain
    {width value : Nat}
    {char : Char}
    (hChar : char ∈ hexDigits width value) :
    char.toNat < 128 ∧ char ≠ '\n' ∧ char ≠ '-' := by
  induction width generalizing value with
  | zero => cases hChar
  | succ width ih =>
      rw [hexDigits, List.mem_append,
        List.mem_singleton] at hChar
      rcases hChar with hHigh | rfl
      · exact ih hHigh
      · exact hexDigit_plain _ (Nat.mod_lt _ (by decide))

/- Numbers of that width have digits of their own. -/
theorem hexDigits_inj
    {width value other : Nat}
    (hValue : value < 16 ^ width)
    (hOther : other < 16 ^ width)
    (hSame : hexDigits width value = hexDigits width other) :
    value = other := by
  induction width generalizing value other with
  | zero => omega
  | succ width ih =>
      rw [hexDigits, hexDigits] at hSame
      rcases List.append_inj' hSame rfl with ⟨hHigh, hLow⟩
      have hQuotient : value / 16 = other / 16 :=
        ih (by omega) (by omega) hHigh
      have hRemainder : value % 16 = other % 16 :=
        hexDigit_inj _ (Nat.mod_lt _ (by decide)) _
          (Nat.mod_lt _ (by decide))
          (List.singleton_inj.mp hLow)
      omega

/- The hyphens left out, the digits remain. -/
theorem filter_uuidText
    (uuid : BitVec 128) :
    (uuidText uuid).toList.filter (fun char => char ≠ '-') =
      hexDigits 32 uuid.toNat := by
  have hKept :
      ∀ chars : List Char,
        (∀ char ∈ chars,
          char ∈ hexDigits 32 uuid.toNat) →
        chars.filter (fun char => char ≠ '-') = chars := by
    intro chars hChars
    rw [List.filter_eq_self]
    intro char hChar
    exact decide_eq_true
      (hexDigits_plain (hChars char hChar)).2.2
  have hGroup :
      ∀ start,
        ((hexDigits 32 uuid.toNat).drop start).take 4 ++
            (hexDigits 32 uuid.toNat).drop (start + 4) =
          (hexDigits 32 uuid.toNat).drop start := by
    intro start
    rw [← List.drop_drop, List.take_append_drop]
  have hDash :
      ∀ chars : List Char,
        ('-' :: chars).filter (fun char => char ≠ '-') =
          chars.filter (fun char => char ≠ '-') :=
    fun chars => List.filter_cons_of_neg (by decide)
  unfold uuidText
  simp only [String.toList_ofList, List.filter_append, hDash]
  rw [hKept _ (fun char => List.mem_of_mem_take),
    hKept _ (fun char hChar =>
      List.mem_of_mem_drop (List.mem_of_mem_take hChar)),
    hKept _ (fun char hChar =>
      List.mem_of_mem_drop (List.mem_of_mem_take hChar)),
    hKept _ (fun char hChar =>
      List.mem_of_mem_drop (List.mem_of_mem_take hChar)),
    hKept _ (fun char => List.mem_of_mem_drop)]
  rw [hGroup 16, hGroup 12, hGroup 8, List.take_append_drop]

theorem uuidText_injective :
    Function.Injective uuidText := by
  intro uuid other hSame
  have hDigits :
      hexDigits 32 uuid.toNat = hexDigits 32 other.toNat := by
    rw [← filter_uuidText, ← filter_uuidText, hSame]
  have hWidth : 2 ^ 128 = 16 ^ 32 := by decide
  exact BitVec.eq_of_toNat_eq
    (hexDigits_inj (hWidth ▸ uuid.isLt)
      (hWidth ▸ other.isLt) hDigits)

theorem oneLine_uuidText
    (uuid : BitVec 128) :
    OneLine (uuidText uuid) := by
  intro char hChar
  by_cases hDash : char = '-'
  · subst hDash
    decide
  · have hDigit :
        char ∈ hexDigits 32 uuid.toNat := by
      rw [← filter_uuidText]
      exact List.mem_filter.mpr
        ⟨hChar, decide_eq_true hDash⟩
    rcases hexDigits_plain hDigit with
      ⟨hAscii, hNewline, -⟩
    exact ⟨hAscii, hNewline⟩

end PayGuard

------------------------------------------------------------
-- Requests
------------------------------------------------------------

namespace PayGuard

open Lines

/- What distinguishes the requests that are hashed. -/
inductive HashedRequest (Id : Type) where
| create (rawBody : List UInt8)
| capture (paymentId : Id) (rawBody : List UInt8)
| refund (paymentId : Id) (rawBody : List UInt8)
deriving DecidableEq, Repr

namespace HashedRequest

variable {Id : Type}

/- `written` is how an id is formatted into the path. -/
def path
    (written : Id → String) : HashedRequest Id → String
| .create _ => "/v1/payments"
| .capture paymentId _ =>
    "/v1/payments/" ++ written paymentId ++ "/capture"
| .refund paymentId _ =>
    "/v1/payments/" ++ written paymentId ++ "/refunds"

def rawBody : HashedRequest Id → List UInt8
| .create rawBody => rawBody
| .capture _ rawBody => rawBody
| .refund _ rawBody => rawBody

/- The bytes fed to SHA-256. -/
def hashInput
    (written : Id → String)
    (request : HashedRequest Id) : List UInt8 :=
  fingerprintInput "POST" (request.path written)
    request.rawBody

/- The paths of two payments, told apart by their length. -/
theorem belowPayment_inj
    {first second operation operation' : String}
    (hLength :
      operation.toList.length = operation'.toList.length) :
    "/v1/payments/" ++ first ++ operation =
        "/v1/payments/" ++ second ++ operation' ↔
      first = second ∧ operation = operation' := by
  constructor
  · intro hSame
    have hChars := congrArg String.toList hSame
    simp only [String.toList_append] at hChars
    rcases List.append_inj' hChars hLength with
      ⟨hIds, hOperations⟩
    exact ⟨String.toList_inj.mp
        (List.append_cancel_left hIds),
      String.toList_inj.mp hOperations⟩
  · rintro ⟨rfl, rfl⟩
    rfl

theorem belowPayment_ne
    (id operation : String) :
    "/v1/payments" ≠ "/v1/payments/" ++ id ++ operation := by
  intro hSame
  have hLength := congrArg String.length hSame
  simp only [String.length_append] at hLength
  have hShort : "/v1/payments".length = 12 := by decide
  have hLong : "/v1/payments/".length = 13 := by decide
  omega

theorem oneLine_path
    {written : Id → String}
    (hWritten : ∀ id, OneLine (written id))
    (request : HashedRequest Id) :
    OneLine (request.path written) := by
  have hPrefix : OneLine "/v1/payments/" := by decide
  cases request with
  | create => exact oneLine_payments
  | capture paymentId =>
      exact (hPrefix.append (hWritten paymentId)).append
        (by decide)
  | refund paymentId =>
      exact (hPrefix.append (hWritten paymentId)).append
        (by decide)

/- The path and the body are the whole request. -/
theorem eq_of_path_eq
    {written : Id → String}
    (hInjective : Function.Injective written)
    {request other : HashedRequest Id}
    (hPath : request.path written = other.path written)
    (hBody : request.rawBody = other.rawBody) :
    request = other := by
  have hEnds : "/capture" ≠ "/refunds" := by decide
  cases request with
  | create body =>
      cases other with
      | create body' =>
          have hBodies : body = body' := hBody
          rw [hBodies]
      | capture => exact absurd hPath (belowPayment_ne _ _)
      | refund => exact absurd hPath (belowPayment_ne _ _)
  | capture paymentId body =>
      cases other with
      | create =>
          exact absurd hPath.symm (belowPayment_ne _ _)
      | capture paymentId' body' =>
          have hIds :=
            ((belowPayment_inj rfl).mp hPath).1
          have hBodies : body = body' := hBody
          rw [hInjective hIds, hBodies]
      | refund =>
          have hOperations :=
            ((belowPayment_inj (by decide)).mp hPath).2
          exact absurd hOperations hEnds
  | refund paymentId body =>
      cases other with
      | create =>
          exact absurd hPath.symm (belowPayment_ne _ _)
      | capture =>
          have hOperations :=
            ((belowPayment_inj (by decide)).mp hPath).2
          exact absurd hOperations.symm hEnds
      | refund paymentId' body' =>
          have hIds :=
            ((belowPayment_inj rfl).mp hPath).1
          have hBodies : body = body' := hBody
          rw [hInjective hIds, hBodies]

/- No two requests feed the same bytes to the hash. -/
theorem hashInput_inj
    {written : Id → String}
    (hInjective : Function.Injective written)
    (hWritten : ∀ id, OneLine (written id))
    {request other : HashedRequest Id} :
    request.hashInput written = other.hashInput written ↔
      request = other := by
  constructor
  · intro hSame
    unfold hashInput at hSame
    rw [fingerprintInput_inj
      (oneLine_path hWritten request)
      (oneLine_path hWritten other)] at hSame
    exact eq_of_path_eq hInjective hSame.1 hSame.2
  · rintro rfl
    rfl

end HashedRequest

variable (config : Config)

/- What the three operations hash, here with ids by number. -/
theorem createFingerprint_eq
    (request : CreateRequest) :
    createFingerprint config request =
      config.sha256
        ((HashedRequest.create request.rawBody).hashInput
          (fun paymentId : Uuid => toString paymentId)) :=
  rfl

theorem captureFingerprint_eq
    (request : CaptureRequest) :
    captureFingerprint config request =
      config.sha256
        ((HashedRequest.capture request.paymentId
          request.rawBody).hashInput toString) :=
  rfl

theorem refundFingerprint_eq
    (request : RefundRequest) :
    refundFingerprint config request =
      config.sha256
        ((HashedRequest.refund request.paymentId
          request.rawBody).hashInput toString) :=
  rfl

end PayGuard

------------------------------------------------------------
-- Signed Webhooks
------------------------------------------------------------

namespace PayGuard

open Lines

/- The bytes fed to HMAC. -/
def signedPayload
    (timestamp : String)
    (rawBody : List UInt8) : List UInt8 :=
  encode timestamp ++ encode "." ++ rawBody

theorem signPayload_eq
    (hmac : List UInt8 → List UInt8 → List UInt8)
    (secret timestamp : String)
    (rawBody : List UInt8) :
    signPayload hmac secret timestamp rawBody =
      hexDigest
        (hmac (encode secret)
          (signedPayload timestamp rawBody)) :=
  rfl

/- `int` reads no header with a dot. -/
theorem dot_foreign : IntegerLiteral.Foreign '.' where
  space := by decide
  digit := by decide
  plus := by decide
  minus := by decide
  underscore := by decide

theorem dot_notMem_encode
    {timestamp : String}
    (hParsed : (IntegerLiteral.parse timestamp).isSome) :
    UInt8.ofNat '.'.toNat ∉ encode timestamp :=
  ascii_notMem_bytes '.' (by decide)
    (IntegerLiteral.notMem_of_parse dot_foreign hParsed)

variable {timestamp timestamp' : String}
variable {rawBody rawBody' : List UInt8}

theorem signedPayload_inj
    (hParsed : (IntegerLiteral.parse timestamp).isSome)
    (hParsed' : (IntegerLiteral.parse timestamp').isSome) :
    signedPayload timestamp rawBody =
        signedPayload timestamp' rawBody' ↔
      timestamp = timestamp' ∧ rawBody = rawBody' := by
  have hDot : encode "." = [UInt8.ofNat '.'.toNat] := by
    decide +kernel
  unfold signedPayload
  rw [hDot, List.append_assoc, List.append_assoc,
    List.singleton_append, List.singleton_append,
    append_cons_inj (dot_notMem_encode hParsed)
      (dot_notMem_encode hParsed')]
  unfold encode
  rw [bytes_inj]

/- Neither kind of message can be read in two ways. -/
theorem hashed_messages_are_framed :
    (∀ request other : HashedRequest (BitVec 128),
      request.hashInput uuidText =
          other.hashInput uuidText →
        request = other) ∧
      (∀ (timestamp timestamp' : String)
        (seconds seconds' : Int)
        (rawBody rawBody' : List UInt8),
        IntegerLiteral.parse timestamp = some seconds →
        IntegerLiteral.parse timestamp' = some seconds' →
        signedPayload timestamp rawBody =
            signedPayload timestamp' rawBody' →
          timestamp = timestamp' ∧ rawBody = rawBody') := by
  constructor
  · intro request other hSame
    exact (HashedRequest.hashInput_inj uuidText_injective
      oneLine_uuidText).mp hSame
  · intro timestamp timestamp' seconds seconds' rawBody
      rawBody' hParsed hParsed' hSame
    exact (signedPayload_inj
      (Option.isSome_of_eq_some hParsed)
      (Option.isSome_of_eq_some hParsed')).mp hSame

/- A header of Arabic digits, and a body with a dot. -/
theorem hashed_messages_are_framed_arabic :
    IntegerLiteral.parse " +١_٧ " = some 17 ∧
      " +١_٧ " = " +١_٧ " ∧
      encode ".1" = encode ".1" :=
  ⟨by decide,
    hashed_messages_are_framed.2 " +١_٧ " " +١_٧ " 17 17
      (encode ".1") (encode ".1") (by decide) (by decide)
      rfl⟩

end PayGuard

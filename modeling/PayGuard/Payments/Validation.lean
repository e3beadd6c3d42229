import PayGuard.Payments.Service

/-
  What the API accepts as a payment to create, beside what
  the table of payments can hold.

  The validator asks Python whether the currency is made of
  letters and is its own upper case, over all of Unicode, and
  its amount is any positive integer.  The table wants three
  letters from A to Z and a 64-bit amount.  The two agree on
  every ASCII currency and on every amount a `BIGINT` holds,
  and on nothing beyond.  A merchant's reference is any text
  to the validator, while the table stores no U+0000 and has
  to index what it stores.

  Key definitions include:
    * `CharacterTables`
    * `PaymentCreateRequest`
    * `PaymentCreateRequest.accepted`
    * `PaymentCreateRequest.createRequest`
    * `CreateRequest.RowFits`
    * `ValidationAgrees`

  Key theorems include:
    * `currencyAccepted_of_iso4217`
    * `currencyIsIso4217_of_accepted`
    * `createInsert_ok_iff`
    * `validation_agrees_iff`
-/

namespace PayGuard

------------------------------------------------------------
-- Python Strings
------------------------------------------------------------

/-
  The character database behind `str.isalpha` and
  `str.upper`.  A character may have an upper case of several
  characters.  On ASCII the two are the familiar ones.
-/
structure CharacterTables where
  isAlpha : Char → Bool
  upper : Char → List Char
  isAlpha_ascii :
    ∀ char : Char,
      char.toNat < 128 → isAlpha char = char.isAlpha
  upper_ascii :
    ∀ char : Char,
      char.toNat < 128 → upper char = [char.toUpper]

namespace CharacterTables

/- `str.isalpha`, false on the empty string. -/
def isalpha
    (tables : CharacterTables)
    (value : String) : Bool :=
  !value.isEmpty && value.toList.all tables.isAlpha

/- `str.upper`, character by character. -/
def upperCase
    (tables : CharacterTables)
    (value : String) : String :=
  String.ofList (value.toList.flatMap tables.upper)

end CharacterTables

------------------------------------------------------------
-- The Request Model
------------------------------------------------------------

structure PaymentMethodIn where
  type : String
  token : String
deriving DecidableEq, Repr

structure PaymentCreateRequest where
  amount : Int
  currency : String
  merchantReference : Option PyString := none
  paymentMethod : PaymentMethodIn
  billingCountry : Option String := none
  shippingCountry : Option String := none
  customerIp : Option String := none
deriving DecidableEq, Repr

/- `type: Literal["token"]` with a token that is not empty. -/
def PaymentMethodIn.accepted (method : PaymentMethodIn) : Bool :=
  method.type = "token" && 1 ≤ method.token.length

/- `_currency_must_be_iso4217_shaped`. -/
def currencyMustBeIso4217Shaped
    (tables : CharacterTables)
    (value : String) : Bool :=
  !(!tables.isalpha value || value != tables.upperCase value)

/- The length bounds of the field, then its validator. -/
def currencyAccepted
    (tables : CharacterTables)
    (currency : String) : Bool :=
  3 ≤ currency.length &&
    currency.length ≤ 3 &&
    currencyMustBeIso4217Shaped tables currency

namespace PaymentCreateRequest

/- The payload passes validation. -/
def accepted
    (tables : CharacterTables)
    (payload : PaymentCreateRequest) : Bool :=
  0 < payload.amount &&
    currencyAccepted tables payload.currency &&
    payload.paymentMethod.accepted

/-
  What the endpoint hands to the service.  An empty customer
  address gives way to the address of the client.
-/
def createRequest
    (payload : PaymentCreateRequest)
    (merchantId : Uuid)
    (idempotencyKey : String)
    (rawBody : List UInt8)
    (clientHost : Option String) : CreateRequest where
  merchantId := merchantId
  idempotencyKey := idempotencyKey
  rawBody := rawBody
  amountMinor := payload.amount
  currency := payload.currency
  merchantReference := payload.merchantReference
  paymentToken := payload.paymentMethod.token
  billingCountry := payload.billingCountry
  shippingCountry := payload.shippingCountry
  customerIp :=
    (payload.customerIp.filter (fun ip => ip != "")).or
      clientHost

end PaymentCreateRequest

------------------------------------------------------------
-- The Two Alphabets
------------------------------------------------------------

/- Only the small letters have another upper case. -/
theorem toUpper_eq_self_iff
    (char : Char) :
    char.toUpper = char ↔
      ¬ ('a'.val ≤ char.val ∧ char.val ≤ 'z'.val) := by
  unfold Char.toUpper
  split
  · rename_i hSmall
    have hMoved :
        char.val + ('A'.val - 'a'.val) ≠ char.val := by
      intro hSame
      have hShift : 'A'.val - 'a'.val = 0 := by
        simp at hSame
      exact absurd hShift (by decide)
    constructor
    · intro hSame
      exact absurd (congrArg Char.val hSame) hMoved
    · intro hNot
      exact absurd hSmall hNot
  · rename_i hSmall
    exact ⟨fun _ => hSmall, fun _ => rfl⟩

/- A letter of either case. -/
theorem isAlpha_iff
    (char : Char) :
    char.isAlpha = true ↔
      ('A' ≤ char ∧ char ≤ 'Z') ∨
        ('a' ≤ char ∧ char ≤ 'z') := by
  have hCases :
      char.isAlpha =
        (decide ('A' ≤ char ∧ char ≤ 'Z') ||
          (decide ('a' ≤ char) && decide (char ≤ 'z'))) :=
    rfl
  rw [hCases, Bool.or_eq_true, Bool.and_eq_true,
    decide_eq_true_eq, decide_eq_true_eq,
    decide_eq_true_eq]

/- The letters that are their own upper case. -/
theorem isAlpha_toUpper_iff
    (char : Char) :
    char.isAlpha = true ∧ char.toUpper = char ↔
      'A' ≤ char ∧ char ≤ 'Z' := by
  rw [toUpper_eq_self_iff, isAlpha_iff]
  constructor
  · rintro ⟨hUpper | hLower, hSmall⟩
    · exact hUpper
    · exact absurd hLower hSmall
  · rintro ⟨hGe, hLe⟩
    have hApart : ¬ 'a'.val ≤ char.val := by
      intro hSmall
      exact absurd (UInt32.le_trans hSmall hLe) (by decide)
    exact ⟨.inl ⟨hGe, hLe⟩, fun hSmall => hApart hSmall.1⟩

/- The letters of the schema are ASCII. -/
theorem ascii_of_le_Z
    {char : Char}
    (hLe : char ≤ 'Z') :
    char.toNat < 128 := by
  have hBound : char.toNat ≤ 'Z'.toNat := hLe
  exact lt_of_le_of_lt hBound (by decide)

/- A word is its own upper case letter by letter. -/
theorem flatMap_upper_eq_self
    (tables : CharacterTables)
    (chars : List Char)
    (hAscii : ∀ char ∈ chars, char.toNat < 128) :
    chars.flatMap tables.upper = chars ↔
      ∀ char ∈ chars, char.toUpper = char := by
  induction chars with
  | nil => simp
  | cons head tail ih =>
      have hHead := hAscii head (by simp)
      have hTail : ∀ char ∈ tail, char.toNat < 128 :=
        fun char hMem => hAscii char (by simp [hMem])
      simp only [List.flatMap_cons,
        tables.upper_ascii head hHead, List.singleton_append,
        List.cons.injEq, ih hTail, List.forall_mem_cons]

------------------------------------------------------------
-- The Two Acceptors
------------------------------------------------------------

theorem currencyIsIso4217_iff
    (currency : String) :
    currencyIsIso4217 currency = true ↔
      currency.length = 3 ∧
        ∀ char ∈ currency.toList, 'A' ≤ char ∧ char ≤ 'Z' := by
  simp [currencyIsIso4217]

theorem currencyAccepted_iff
    (tables : CharacterTables)
    (currency : String) :
    currencyAccepted tables currency = true ↔
      currency.length = 3 ∧
        (∀ char ∈ currency.toList,
          tables.isAlpha char = true) ∧
        currency.toList.flatMap tables.upper =
          currency.toList := by
  have hUpper :
      (currency = tables.upperCase currency) ↔
        currency.toList.flatMap tables.upper =
          currency.toList := by
    unfold CharacterTables.upperCase
    rw [← String.toList_inj, String.toList_ofList, eq_comm]
  have hNonempty :
      currency.length = 3 → currency.isEmpty = false := by
    intro hLength
    rw [Bool.eq_false_iff, Ne, String.isEmpty_iff]
    rintro rfl
    exact absurd hLength (by decide)
  simp only [currencyAccepted, currencyMustBeIso4217Shaped,
    CharacterTables.isalpha, Bool.and_eq_true,
    decide_eq_true_eq, Bool.not_eq_true',
    Bool.or_eq_false_iff, Bool.not_eq_false',
    bne_eq_false_iff_eq, List.all_eq_true, hUpper]
  constructor
  · rintro ⟨⟨hLow, hHigh⟩, ⟨-, hAlpha⟩, hSame⟩
    exact ⟨by omega, hAlpha, hSame⟩
  · rintro ⟨hLength, hAlpha, hSame⟩
    exact ⟨⟨by omega, by omega⟩,
      ⟨hNonempty hLength, hAlpha⟩, hSame⟩

/- On ASCII the validator and the pattern agree. -/
theorem currencyAccepted_iff_iso4217
    (tables : CharacterTables)
    (currency : String)
    (hAscii : ∀ char ∈ currency.toList, char.toNat < 128) :
    currencyAccepted tables currency = true ↔
      currencyIsIso4217 currency = true := by
  rw [currencyAccepted_iff, currencyIsIso4217_iff,
    flatMap_upper_eq_self tables currency.toList hAscii]
  have hLetters :
      (∀ char ∈ currency.toList,
        tables.isAlpha char = true) ↔
      ∀ char ∈ currency.toList, char.isAlpha = true :=
    forall₂_congr (fun char hMem => by
      rw [tables.isAlpha_ascii char (hAscii char hMem)])
  rw [hLetters, ← forall₂_and]
  simp only [isAlpha_toUpper_iff]

/- Every currency the schema knows passes validation. -/
theorem currencyAccepted_of_iso4217
    (tables : CharacterTables)
    {currency : String}
    (hPattern : currencyIsIso4217 currency = true) :
    currencyAccepted tables currency = true := by
  have hLetters :=
    ((currencyIsIso4217_iff currency).mp hPattern).2
  have hAscii :
      ∀ char ∈ currency.toList, char.toNat < 128 :=
    fun char hMem => ascii_of_le_Z (hLetters char hMem).2
  exact (currencyAccepted_iff_iso4217 tables currency
    hAscii).mpr hPattern

------------------------------------------------------------
-- The Row At Its Insert
------------------------------------------------------------

variable {indexable : PyString → Bool}

/- The columns, the two checks and the index of the row. -/
def CreateRequest.RowFits
    (indexable : PyString → Bool)
    (request : CreateRequest) : Prop :=
  fitsBigInteger request.amountMinor = true ∧
    0 < request.amountMinor ∧
    currencyIsIso4217 request.currency = true ∧
    ∀ reference ∈ request.merchantReference,
      PyString.storable reference = true ∧
        indexable reference = true

/- The insert goes through when the row fits the table. -/
theorem createInsert_ok_iff
    (db : Database)
    (request : CreateRequest)
    (keyRow : IdempotencyKey)
    (draw : Draw) :
    (∃ inserted,
      createInsert indexable db request keyRow draw =
        .ok inserted) ↔
      request.RowFits indexable := by
  have hTexts :
      (∀ reference ∈ request.merchantReference,
        PyString.storable reference = true ∧
          indexable reference = true) ↔
      request.merchantReference.all PyString.storable =
          true ∧
        request.merchantReference.all indexable = true := by
    cases request.merchantReference <;> simp
  unfold createInsert insertPayment CreateRequest.RowFits
  rw [hTexts]
  by_cases hRange :
      fitsBigInteger request.amountMinor = true ∧
        request.merchantReference.all PyString.storable =
          true
  · rcases hRange with ⟨hAmount, hText⟩
    by_cases hPositive : 0 < request.amountMinor
    · by_cases hCurrency :
          currencyIsIso4217 request.currency = true
      · by_cases hIndex :
            request.merchantReference.all indexable = true
        · simp [hAmount, hText, hPositive, hCurrency, hIndex]
        · simp [hAmount, hText, hPositive, hCurrency, hIndex]
      · simp [hAmount, hText, hPositive, hCurrency]
    · simp [hAmount, hText, hPositive]
  · have hRefused :
        (fitsBigInteger request.amountMinor &&
          request.merchantReference.all
            PyString.storable) = false := by
      rw [← Bool.not_eq_true, Bool.and_eq_true]
      exact hRange
    simp only [hRefused, Bool.not_false, if_true]
    constructor
    · rintro ⟨inserted, hInserted⟩
      cases hInserted
    · rintro ⟨hAmount, -, -, hText, -⟩
      exact absurd ⟨hAmount, hText⟩ hRange

/-
  The row inserted for a payload satisfies its table, so that
  the insert never fails.
-/
def PaymentCreateRequest.RowHolds
    (indexable : PyString → Bool)
    (payload : PaymentCreateRequest) : Prop :=
  ∀ merchantId idempotencyKey rawBody clientHost,
    (payload.createRequest merchantId idempotencyKey
      rawBody clientHost).RowFits indexable ∧
    ∀ db keyRow draw,
      ∃ inserted,
        createInsert indexable db
          (payload.createRequest merchantId idempotencyKey
            rawBody clientHost) keyRow draw = .ok inserted

theorem rowHolds_iff
    (payload : PaymentCreateRequest) :
    payload.RowHolds indexable ↔
      fitsBigInteger payload.amount = true ∧
        0 < payload.amount ∧
        currencyIsIso4217 payload.currency = true ∧
        ∀ reference ∈ payload.merchantReference,
          PyString.storable reference = true ∧
            indexable reference = true := by
  constructor
  · intro hHolds
    exact (hHolds 0 "" [] none).1
  · intro hFits merchantId idempotencyKey rawBody clientHost
    refine ⟨hFits, fun db keyRow draw => ?_⟩
    exact (createInsert_ok_iff db _ keyRow draw).mpr hFits

------------------------------------------------------------
-- Main Theorem
------------------------------------------------------------

theorem storable_iff
    (value : PyString) :
    PyString.storable value = true ↔
      ∀ point ∈ value,
        point.val ≠ 0 ∧
          ¬ (0xd800 ≤ point.val ∧ point.val ≤ 0xdfff) := by
  simp [PyString.storable, CodePoint.isSurrogate,
    imp_iff_not_or]

/-
  An accepted payload has a row the table holds exactly when
  its amount is a 64-bit one, its currency is ASCII and its
  reference, if any, has no U+0000, no lone surrogate and
  fits the index; every currency of the table's pattern is
  accepted.
-/
theorem validation_agrees_iff
    (tables : CharacterTables)
    (indexable : PyString → Bool) :
    (∀ payload : PaymentCreateRequest,
      payload.accepted tables = true →
        (payload.RowHolds indexable ↔
          payload.amount ≤ 9223372036854775807 ∧
            (∀ char ∈ payload.currency.toList,
              char.toNat < 128) ∧
            ∀ reference ∈ payload.merchantReference,
              (∀ point ∈ reference,
                point.val ≠ 0 ∧
                  ¬ (0xd800 ≤ point.val ∧
                    point.val ≤ 0xdfff)) ∧
                indexable reference = true)) ∧
      ∀ currency : String,
        currencyIsIso4217 currency = true →
          currencyAccepted tables currency = true := by
  refine ⟨?_, fun currency hPattern =>
    currencyAccepted_of_iso4217 tables hPattern⟩
  intro payload hAccepted
  simp only [PaymentCreateRequest.accepted,
    Bool.and_eq_true, decide_eq_true_eq] at hAccepted
  obtain ⟨⟨hPositive, hCurrency⟩, -⟩ := hAccepted
  simp only [← storable_iff]
  rw [rowHolds_iff]
  constructor
  · rintro ⟨hRange, -, hPattern, hReference⟩
    have hLetters :=
      ((currencyIsIso4217_iff payload.currency).mp hPattern).2
    refine ⟨?_, fun char hMem =>
      ascii_of_le_Z (hLetters char hMem).2, hReference⟩
    simp only [fitsBigInteger, Bool.and_eq_true,
      decide_eq_true_eq] at hRange
    exact hRange.2
  · rintro ⟨hRange, hAscii, hReference⟩
    refine ⟨?_, hPositive, ?_, hReference⟩
    · simp only [fitsBigInteger, Bool.and_eq_true,
        decide_eq_true_eq]
      omega
    · exact (currencyAccepted_iff_iso4217 tables _
        hAscii).mp hCurrency

------------------------------------------------------------
-- Counterexample
------------------------------------------------------------

/- The tables of Python on the first 256 characters. -/
def latin1 : CharacterTables where
  isAlpha := fun char =>
    if char.toNat < 128 then
      char.isAlpha
    else
      char.toNat = 0xaa || char.toNat = 0xb5 ||
        char.toNat = 0xba ||
        (0xc0 ≤ char.toNat && char.toNat ≤ 0xd6) ||
        (0xd8 ≤ char.toNat && char.toNat ≤ 0xf6) ||
        (0xf8 ≤ char.toNat && char.toNat ≤ 0xff)
  upper := fun char =>
    if char.toNat < 128 then
      [char.toUpper]
    else if char.toNat = 0xb5 then
      [Char.ofNat 0x39c]
    else if char.toNat = 0xdf then
      ['S', 'S']
    else if char.toNat = 0xff then
      [Char.ofNat 0x178]
    else if 0xe0 ≤ char.toNat ∧ char.toNat ≤ 0xfe ∧
        char.toNat ≠ 0xf7 then
      [Char.ofNat (char.toNat - 32)]
    else
      [char]
  isAlpha_ascii := fun _ hAscii => if_pos hAscii
  upper_ascii := fun _ hAscii => if_pos hAscii

/- A payload for a token, in a currency of choice. -/
def tokenPayload
    (amount : Int)
    (currency : String) : PaymentCreateRequest where
  amount := amount
  currency := currency
  paymentMethod := { type := "token", token := "tok_visa" }

/- A payload with a reference that is a single U+0000. -/
def nulPayload : PaymentCreateRequest :=
  { tokenPayload 100 "USD" with
    merchantReference := some [0] }

/-
  Accented capitals are letters and their own upper case, the
  amount has no upper bound, and a reference is any text: all
  three pass validation, and the insert of each fails.
-/
theorem accepted_payloads_break_schema :
    ((tokenPayload 100 "ÀÉÎ").accepted latin1 = true ∧
      ¬ (tokenPayload 100 "ÀÉÎ").RowHolds
        fitsIndexPage) ∧
    ((tokenPayload 9223372036854775808 "USD").accepted
        latin1 = true ∧
      ¬ (tokenPayload 9223372036854775808 "USD").RowHolds
        fitsIndexPage) ∧
    (nulPayload.accepted latin1 = true ∧
      ¬ nulPayload.RowHolds fitsIndexPage) := by
  rw [rowHolds_iff, rowHolds_iff, rowHolds_iff]
  decide +kernel

end PayGuard

import Mathlib.Data.Rat.Defs
import Mathlib.Algebra.Order.Ring.Rat
import PayGuard.Providers.Concurrency

/-
  The provider that injects faults.

  It wraps another provider, and its calls go through that
  provider first.  A coin may then hold an answer back for a
  while, and another one may replace the answer to an
  authorization by an unknown one.  What the wrapped provider
  has recorded is what the status queries return.

  Key definitions include:
    * `PaymentProvider`
    * `ChaosProvider`
    * `chaosStep`
    * `MayHear`
    * `mockPaymentProvider`

  Key theorems include:
    * `Relays.hear`
    * `chaos_relays_every_answer`
    * `status_query_tells_truth`
-/

------------------------------------------------------------
-- Providers
------------------------------------------------------------

namespace PayGuard

inductive Operation where
| authorize
| capture
| refund
deriving DecidableEq, Repr

/- The answer a call returns with. -/
structure ProviderAnswer where
  call : CoroutineId
  operation : Operation
  result : ProviderResult
deriving DecidableEq, Repr

/-
  The protocol every adapter follows, up to its awaits: a
  label runs a call to its next await or to its end, and then
  the call has its answer.  The status queries do not await.
-/
structure PaymentProvider (S L : Type) where
  step : S → L → Option S
  answer : S → L → Option ProviderAnswer
  getPaymentStatus : S → String → ProviderResult
  getPaymentStatusByIdempotencyKey :
    S → String → ProviderResult

------------------------------------------------------------
-- The Wrapper
------------------------------------------------------------

structure ChaosConfig where
  unknownRate : ℚ := 0
  slowRate : ℚ := 0
deriving DecidableEq, Repr

/- How far a call of the wrapper has come. -/
inductive ChaosCall where
-- not begun, or still in the wrapped provider
| inside
| delayed (answer : ProviderAnswer)
| returned
    (answer : ProviderAnswer)
    (result : ProviderResult)
deriving DecidableEq, Repr

/-
  The wrapper has drawn the first `drawn` numbers of its
  generator.  `heard` keeps what the wrapped provider has
  answered.
-/
structure ChaosProvider (S : Type) where
  inner : S
  drawn : Nat := 0
  calls : CoroutineId → ChaosCall := fun _ => .inside
  heard : List ProviderAnswer := []

inductive ChaosLabel (L : Type) where
| inner (label : L)
| wake (call : CoroutineId)
deriving DecidableEq, Repr

/- What the wrapped provider sees of a step. -/
def ChaosLabel.passed {L : Type} : ChaosLabel L → Option L
| .inner label => some label
| .wake _ => none

/- The answer that replaces another one. -/
def chaosInjectedUnknown : ProviderResult where
  outcome := .unknown
  providerTransactionId := none
  rawStatus := "chaos_injected_unknown"

namespace ChaosProvider

variable {S : Type}

/- `rate and rng.random() < rate`: a rate of zero draws none. -/
def strikes
    (draws : Nat → ℚ)
    (rate : ℚ)
    (chaos : ChaosProvider S) : Bool × ChaosProvider S :=
  if rate = 0 then
    (false, chaos)
  else
    (draws chaos.drawn < rate,
      { chaos with drawn := chaos.drawn + 1 })

def become
    (chaos : ChaosProvider S)
    (call : CoroutineId)
    (position : ChaosCall) : ChaosProvider S :=
  { chaos with
    calls := Function.update chaos.calls call position }

/- A call returns; only an authorization may be replaced. -/
def finish
    (config : ChaosConfig)
    (draws : Nat → ℚ)
    (chaos : ChaosProvider S)
    (answer : ProviderAnswer) : ChaosProvider S :=
  match answer.operation with
  | .authorize =>
      let struck := chaos.strikes draws config.unknownRate
      struck.2.become answer.call
        (.returned answer
          (if struck.1 then
            chaosInjectedUnknown
          else
            answer.result))
  | .capture | .refund =>
      chaos.become answer.call
        (.returned answer answer.result)

/- `_maybe_delay`, after the wrapped provider has answered. -/
def hear
    (config : ChaosConfig)
    (draws : Nat → ℚ)
    (chaos : ChaosProvider S)
    (answer : ProviderAnswer) : ChaosProvider S :=
  let struck :=
    { chaos with
      heard := chaos.heard ++ [answer] }.strikes draws
        config.slowRate
  if struck.1 then
    struck.2.become answer.call (.delayed answer)
  else
    struck.2.finish config draws answer

variable {L : Type}

def getPaymentStatus
    (provider : PaymentProvider S L)
    (chaos : ChaosProvider S)
    (providerTransactionId : String) : ProviderResult :=
  provider.getPaymentStatus chaos.inner
    providerTransactionId

def getPaymentStatusByIdempotencyKey
    (provider : PaymentProvider S L)
    (chaos : ChaosProvider S)
    (idempotencyKey : String) : ProviderResult :=
  provider.getPaymentStatusByIdempotencyKey chaos.inner
    idempotencyKey

end ChaosProvider

/-
  A coroutine goes through the wrapper once.  It awaits in
  the wrapped provider and where it is held back.
-/
def chaosStep
    {S L : Type}
    (provider : PaymentProvider S L)
    (config : ChaosConfig)
    (draws : Nat → ℚ)
    (chaos : ChaosProvider S) :
    ChaosLabel L → Option (ChaosProvider S)
| .inner label =>
    match provider.step chaos.inner label with
    | none => none
    | some inner =>
        match provider.answer chaos.inner label with
        | none => some { chaos with inner := inner }
        | some answer =>
            match chaos.calls answer.call with
            | .inside =>
                some ({ chaos with inner := inner }.hear
                  config draws answer)
            | _ => none
| .wake call =>
    match chaos.calls call with
    | .delayed answer =>
        some (chaos.finish config draws answer)
    | _ => none

------------------------------------------------------------
-- What A Caller Hears
------------------------------------------------------------

/- `random()` returns numbers from zero up to one. -/
def UnitDraws (draws : Nat → ℚ) : Prop :=
  ∀ n, 0 ≤ draws n ∧ draws n < 1

/- What a caller may be told instead of an answer. -/
structure MayHear
    (config : ChaosConfig)
    (answer : ProviderAnswer)
    (result : ProviderResult) : Prop where
  replaced :
    result ≠ answer.result →
      answer.operation = .authorize ∧
        0 < config.unknownRate ∧
          result = chaosInjectedUnknown
  always :
    answer.operation = .authorize →
      1 ≤ config.unknownRate →
        result = chaosInjectedUnknown

/-
  Each answer of the wrapped provider is on its way to its
  caller, and nothing else is.
-/
structure Relays
    {S : Type}
    (config : ChaosConfig)
    (chaos : ChaosProvider S) : Prop where
  once : (chaos.heard.map (·.call)).Nodup
  kept :
    ∀ answer ∈ chaos.heard,
      chaos.calls answer.call = .delayed answer ∨
        ∃ result,
          chaos.calls answer.call = .returned answer result
  delayed :
    ∀ call answer,
      chaos.calls call = .delayed answer →
        answer ∈ chaos.heard ∧
          answer.call = call ∧ 0 < config.slowRate
  returned :
    ∀ call answer result,
      chaos.calls call = .returned answer result →
        answer ∈ chaos.heard ∧
          answer.call = call ∧
            MayHear config answer result

variable {S L : Type}
variable {provider : PaymentProvider S L}
variable {config : ChaosConfig}
variable {draws : Nat → ℚ}
variable {chaos next : ChaosProvider S}
variable {answer : ProviderAnswer}
variable {rate : ℚ}

theorem relays_start
    (config : ChaosConfig)
    (inner : S) :
    Relays config { inner := inner } where
  once := List.nodup_nil
  kept := by
    intro answer hAnswer
    cases hAnswer
  delayed := by
    intro call answer hDelayed
    cases hDelayed
  returned := by
    intro call answer result hReturned
    cases hReturned

namespace ChaosProvider

/- A draw changes nothing but the generator. -/
theorem strikes_eq
    (draws : Nat → ℚ)
    (rate : ℚ)
    (chaos : ChaosProvider S) :
    ∃ drawn,
      (chaos.strikes draws rate).2 =
        { chaos with drawn := drawn } := by
  unfold strikes
  split
  · exact ⟨chaos.drawn, rfl⟩
  · exact ⟨chaos.drawn + 1, rfl⟩

/- What struck was possible. -/
theorem strikes_pos
    (hUnit : UnitDraws draws)
    (hStruck : (chaos.strikes draws rate).1 = true) :
    0 < rate := by
  unfold strikes at hStruck
  split at hStruck
  · cases hStruck
  · exact lt_of_le_of_lt (hUnit chaos.drawn).1
      (of_decide_eq_true hStruck)

/- And what is certain strikes. -/
theorem strikes_of_one_le
    (hUnit : UnitDraws draws)
    (hCertain : 1 ≤ rate) :
    (chaos.strikes draws rate).1 = true := by
  have hRate : rate ≠ 0 :=
    (lt_of_lt_of_le one_pos hCertain).ne'
  unfold strikes
  rw [if_neg hRate]
  exact decide_eq_true
    (lt_of_lt_of_le (hUnit chaos.drawn).2 hCertain)

/- A finished call has been told something it may hear. -/
theorem finish_eq
    (config : ChaosConfig)
    (hUnit : UnitDraws draws)
    (chaos : ChaosProvider S)
    (answer : ProviderAnswer) :
    ∃ drawn result,
      MayHear config answer result ∧
        chaos.finish config draws answer =
          { chaos with drawn := drawn }.become answer.call
            (.returned answer result) := by
  have hSame :
      answer.operation ≠ .authorize →
        MayHear config answer answer.result := by
    intro hOperation
    constructor
    · intro hReplaced
      exact absurd rfl hReplaced
    · intro hAuthorize
      exact absurd hAuthorize hOperation
  unfold finish
  cases hOperation : answer.operation with
  | authorize =>
      rcases strikes_eq draws config.unknownRate chaos with
        ⟨drawn, hDrawn⟩
      simp only [hDrawn]
      refine ⟨drawn, _, ⟨?_, ?_⟩, rfl⟩
      · intro hReplaced
        split at hReplaced
        · rename_i hStruck
          rw [if_pos hStruck]
          exact ⟨hOperation, strikes_pos hUnit hStruck, rfl⟩
        · exact absurd rfl hReplaced
      · intro _ hCertain
        rw [if_pos (strikes_of_one_le hUnit hCertain)]
  | capture =>
      exact ⟨chaos.drawn, _, hSame (by simp [hOperation]),
        rfl⟩
  | refund =>
      exact ⟨chaos.drawn, _, hSame (by simp [hOperation]),
        rfl⟩

/- An answer is held back or told. -/
theorem hear_eq
    (config : ChaosConfig)
    (hUnit : UnitDraws draws)
    (chaos : ChaosProvider S)
    (answer : ProviderAnswer) :
    ∃ drawn position,
      chaos.hear config draws answer =
          { chaos with
            drawn := drawn
            heard := chaos.heard ++ [answer] }.become
              answer.call position ∧
        ((position = .delayed answer ∧
            0 < config.slowRate) ∨
          ∃ result,
            position = .returned answer result ∧
              MayHear config answer result) := by
  unfold hear
  rcases strikes_eq draws config.slowRate
      { chaos with heard := chaos.heard ++ [answer] } with
    ⟨drawn, hDrawn⟩
  simp only [hDrawn]
  split
  · rename_i hStruck
    exact ⟨drawn, _, rfl,
      .inl ⟨rfl, strikes_pos hUnit hStruck⟩⟩
  · rcases finish_eq config hUnit
        { chaos with
          heard := chaos.heard ++ [answer]
          drawn := drawn } answer with
      ⟨more, result, hMay, hFinish⟩
    exact ⟨more, _, hFinish, .inr ⟨result, rfl, hMay⟩⟩

end ChaosProvider

------------------------------------------------------------
-- Every Run Of The Wrapper
------------------------------------------------------------

/- A call that was not heard of before takes its answer. -/
theorem Relays.hear
    (hRelays : Relays config chaos)
    (hUnit : UnitDraws draws)
    (hInside : chaos.calls answer.call = .inside)
    (inner : S) :
    Relays config
      ({ chaos with inner := inner }.hear config draws
        answer) := by
  rcases ChaosProvider.hear_eq config hUnit
      { chaos with inner := inner } answer with
    ⟨drawn, position, hHear, hPosition⟩
  rw [hHear]
  have hNew :
      ∀ other ∈ chaos.heard, other.call ≠ answer.call := by
    intro other hOther hSame
    have hKept := hRelays.kept other hOther
    rw [hSame, hInside] at hKept
    rcases hKept with hDelayed | ⟨result, hReturned⟩
    · cases hDelayed
    · cases hReturned
  constructor
  · simp only [ChaosProvider.become, List.map_append,
      List.map_cons, List.map_nil]
    refine List.Nodup.append hRelays.once
      (List.nodup_singleton _) ?_
    rw [List.disjoint_singleton]
    intro hListed
    rcases List.mem_map.mp hListed with
      ⟨other, hOther, hSame⟩
    exact hNew other hOther hSame
  · intro other hOther
    simp only [ChaosProvider.become, List.mem_append,
      List.mem_singleton] at hOther ⊢
    rcases hOther with hOld | rfl
    · rw [Function.update_of_ne (hNew other hOld)]
      exact hRelays.kept other hOld
    · rw [Function.update_self]
      rcases hPosition with ⟨rfl, _⟩ | ⟨result, rfl, _⟩
      · exact .inl rfl
      · exact .inr ⟨result, rfl⟩
  · intro call other hDelayed
    simp only [ChaosProvider.become] at hDelayed ⊢
    by_cases hCall : call = answer.call
    · subst hCall
      rw [Function.update_self] at hDelayed
      rcases hPosition with ⟨rfl, hRate⟩ | ⟨result, rfl, _⟩
      · cases hDelayed
        exact ⟨List.mem_append_right _
          (List.mem_singleton_self _), rfl, hRate⟩
      · cases hDelayed
    · rw [Function.update_of_ne hCall] at hDelayed
      rcases hRelays.delayed call other hDelayed with
        ⟨hHeard, hRest⟩
      exact ⟨List.mem_append_left _ hHeard, hRest⟩
  · intro call other result hReturned
    simp only [ChaosProvider.become] at hReturned ⊢
    by_cases hCall : call = answer.call
    · subst hCall
      rw [Function.update_self] at hReturned
      rcases hPosition with ⟨rfl, _⟩ | ⟨told, rfl, hMay⟩
      · cases hReturned
      · cases hReturned
        exact ⟨List.mem_append_right _
          (List.mem_singleton_self _), rfl, hMay⟩
    · rw [Function.update_of_ne hCall] at hReturned
      rcases hRelays.returned call other result hReturned
        with ⟨hHeard, hRest⟩
      exact ⟨List.mem_append_left _ hHeard, hRest⟩

/- A call that was held back is told its answer. -/
theorem Relays.wake
    {call : CoroutineId}
    (hRelays : Relays config chaos)
    (hUnit : UnitDraws draws)
    (hDelayed : chaos.calls call = .delayed answer) :
    Relays config (chaos.finish config draws answer) := by
  rcases ChaosProvider.finish_eq config hUnit
      chaos answer with
    ⟨drawn, told, hMay, hFinish⟩
  rw [hFinish]
  rcases hRelays.delayed call answer hDelayed with
    ⟨hHeard, rfl, _⟩
  refine ⟨hRelays.once, ?_, ?_, ?_⟩
  · intro other hOther
    simp only [ChaosProvider.become] at hOther ⊢
    by_cases hCall : other.call = answer.call
    · have hSame : other = answer :=
        List.inj_on_of_nodup_map hRelays.once hOther hHeard
          hCall
      rw [hSame, Function.update_self]
      exact .inr ⟨told, rfl⟩
    · rw [Function.update_of_ne hCall]
      exact hRelays.kept other hOther
  · intro call other hOther
    simp only [ChaosProvider.become] at hOther ⊢
    by_cases hCall : call = answer.call
    · subst hCall
      rw [Function.update_self] at hOther
      cases hOther
    · rw [Function.update_of_ne hCall] at hOther
      exact hRelays.delayed call other hOther
  · intro call other result hReturned
    simp only [ChaosProvider.become] at hReturned ⊢
    by_cases hCall : call = answer.call
    · subst hCall
      rw [Function.update_self] at hReturned
      cases hReturned
      exact ⟨hHeard, rfl, hMay⟩
    · rw [Function.update_of_ne hCall] at hReturned
      exact hRelays.returned call other result hReturned

theorem relays_step
    {label : ChaosLabel L}
    (hRelays : Relays config chaos)
    (hUnit : UnitDraws draws)
    (hStep :
      chaosStep provider config draws chaos label =
        some next) :
    Relays config next := by
  cases label with
  | inner label =>
      simp only [chaosStep] at hStep
      split at hStep
      · cases hStep
      · split at hStep
        · cases hStep
          exact ⟨hRelays.once, hRelays.kept,
            hRelays.delayed, hRelays.returned⟩
        · split at hStep
          · rename_i hInside
            cases hStep
            exact hRelays.hear hUnit hInside _
          · cases hStep
  | wake call =>
      simp only [chaosStep] at hStep
      split at hStep
      · rename_i hDelayed
        cases hStep
        exact hRelays.wake hUnit hDelayed
      · cases hStep

/- The wrapped provider runs as if it were called directly. -/
theorem chaosStep_inner
    {label : ChaosLabel L}
    (hUnit : UnitDraws draws)
    (hStep :
      chaosStep provider config draws chaos label =
        some next) :
    (label.passed = none ∧ next.inner = chaos.inner) ∨
      ∃ passed,
        label.passed = some passed ∧
          provider.step chaos.inner passed =
            some next.inner := by
  cases label with
  | inner label =>
      right
      refine ⟨label, rfl, ?_⟩
      simp only [chaosStep] at hStep
      split at hStep
      · cases hStep
      · rename_i inner hInner
        split at hStep
        · cases hStep
          exact hInner
        · split at hStep
          · cases hStep
            rcases ChaosProvider.hear_eq config
                hUnit { chaos with inner := inner } _ with
              ⟨drawn, position, hHear, _⟩
            rw [hHear]
            exact hInner
          · cases hStep
  | wake call =>
      left
      refine ⟨rfl, ?_⟩
      simp only [chaosStep] at hStep
      split at hStep
      · cases hStep
        rcases ChaosProvider.finish_eq config
            hUnit chaos _ with
          ⟨drawn, result, _, hFinish⟩
        rw [hFinish]
        rfl
      · cases hStep

theorem inner_of_exec
    {start : S}
    {labels : List (ChaosLabel L)}
    (hUnit : UnitDraws draws)
    (hRun :
      Lts.exec (chaosStep provider config draws)
          { inner := start } labels = some chaos) :
    Lts.exec provider.step start
        (labels.filterMap ChaosLabel.passed) =
      some chaos.inner :=
  Lts.exec_filterMap (fun chaos => chaos.inner)
    ChaosLabel.passed
    (fun _ _ _ hStep => chaosStep_inner hUnit hStep) hRun

theorem relays_of_exec
    {start : S}
    {labels : List (ChaosLabel L)}
    (hUnit : UnitDraws draws)
    (hRun :
      Lts.exec (chaosStep provider config draws)
          { inner := start } labels = some chaos) :
    Relays config chaos :=
  Lts.invariant_of_exec
    (fun _ _ _ hRelays hStep =>
      relays_step hRelays hUnit hStep)
    (relays_start config start) hRun

end PayGuard

------------------------------------------------------------
-- The Mock Provider Inside
------------------------------------------------------------

namespace PayGuard

/- A step of one of the calls of the mock provider. -/
inductive MockCall where
| authorizes (label : MockLabel)
| captures
    (call : CoroutineId)
    (providerTransactionId : String)
    (amountMinor : Int)
| refunds
    (call : CoroutineId)
    (providerTransactionId : String)
    (amountMinor : Int)
    (idempotencyKey : String)
deriving DecidableEq, Repr

def MockLabel.call : MockLabel → CoroutineId
| .start call _ _ => call
| .wake call _ => call

/- Captures and refunds record nothing and do not await. -/
def mockCallStep
    (state : MockRun) : MockCall → Option MockRun
| .authorizes label => mockStep state label
| .captures _ _ _ => some state
| .refunds _ _ _ _ => some state

def AuthorizeCall.result :
    AuthorizeCall → Option ProviderResult
| .returned _ result => some result
| _ => none

def mockAnswer
    (state : MockRun) : MockCall → Option ProviderAnswer
| .authorizes label =>
    (mockStep state label).bind (fun next =>
      (next.calls label.call).result.map (fun result =>
        ⟨label.call, .authorize, result⟩))
| .captures call providerTransactionId amountMinor =>
    some ⟨call, .capture,
      MockProvider.capture providerTransactionId
        amountMinor⟩
| .refunds call providerTransactionId amountMinor
    idempotencyKey =>
    some ⟨call, .refund,
      MockProvider.refund providerTransactionId amountMinor
        idempotencyKey⟩

def mockPaymentProvider :
    PaymentProvider MockRun MockCall where
  step := mockCallStep
  answer := mockAnswer
  getPaymentStatus := MockRun.getPaymentStatus
  getPaymentStatusByIdempotencyKey := fun state =>
    state.provider.getPaymentStatusByIdempotencyKey

/- Ids are fresh, and the key is answered once. -/
def OneAuthorization
    (idempotencyKey : String)
    (state : MockRun) : MockCall → Prop
| .authorizes label =>
    FreshId state label ∧
      WakesUnanswered idempotencyKey state label
| _ => True

instance
    (idempotencyKey : String)
    (state : MockRun) :
    ∀ label,
      Decidable (OneAuthorization idempotencyKey state label)
| .authorizes label =>
    inferInstanceAs
      (Decidable
        (FreshId state label ∧
          WakesUnanswered idempotencyKey state label))
| .captures _ _ _ => .isTrue trivial
| .refunds _ _ _ _ => .isTrue trivial

/- One of the calls has brought the request. -/
def AskedFor
    (labels : List MockCall)
    (request : AuthorizeRequest) : Prop :=
  ∃ call transactionId,
    .authorizes (.start call request transactionId) ∈ labels

/-
  What is recorded under a key is one authorization that was
  requested: what its caller was told and what truly
  happened, in the scenario of its token.
-/
structure TruthRecorded
    (labels : List MockCall)
    (state : MockRun) : Prop where
  asleep :
    ∀ call request,
      state.calls call = .sleeping request →
        scenarioFor request.token = some .slow ∧
          AskedFor labels request
  recorded :
    ∀ key answer,
      state.provider.authorizations key = some answer →
        ∃ request transactionId,
          AskedFor labels request ∧
            request.idempotencyKey = key ∧
            answer =
              (authorizeOutcome request
                (scenarioFor request.token)
                transactionId).1 ∧
            state.provider.trueOutcomes key =
              some
                (authorizeOutcome request
                  (scenarioFor request.token)
                  transactionId).2

/- The answers to authorizations are those of their calls. -/
def HeardReturned (chaos : ChaosProvider MockRun) : Prop :=
  ∀ answer ∈ chaos.heard,
    answer.operation = .authorize →
      ∃ request,
        chaos.inner.calls answer.call =
          .returned request answer.result

variable {config : ChaosConfig}
variable {draws : Nat → ℚ}
variable {state next : MockRun}
variable {chaos later : ChaosProvider MockRun}

variable {past labels : List MockCall}

theorem AskedFor.extend
    {request : AuthorizeRequest}
    (hAskedFor : AskedFor past request)
    (label : MockCall) :
    AskedFor (past ++ [label]) request := by
  rcases hAskedFor with ⟨call, transactionId, hMem⟩
  exact ⟨call, transactionId,
    List.mem_append.mpr (.inl hMem)⟩

theorem askedFor_start
    (past : List MockCall)
    (call : CoroutineId)
    (request : AuthorizeRequest)
    (transactionId : String) :
    AskedFor
      (past ++
        [.authorizes (.start call request transactionId)])
      request :=
  ⟨call, transactionId,
    List.mem_append.mpr (.inr (List.mem_singleton.mpr rfl))⟩

theorem truthRecorded_start : TruthRecorded [] {} where
  asleep := by
    intro call request hSleeping
    cases hSleeping
  recorded := by
    intro key answer hAnswer
    cases hAnswer

theorem TruthRecorded.extend
    (hTruth : TruthRecorded past state)
    (label : MockCall) :
    TruthRecorded (past ++ [label]) state where
  asleep := by
    intro call request hSleeping
    rcases hTruth.asleep call request hSleeping with
      ⟨hSlow, hAskedFor⟩
    exact ⟨hSlow, hAskedFor.extend label⟩
  recorded := by
    intro key answer hAnswer
    rcases hTruth.recorded key answer hAnswer with
      ⟨request, transactionId, hAskedFor, hRest⟩
    exact ⟨request, transactionId, hAskedFor.extend label,
      hRest⟩

/- Where a call goes has no bearing on what is recorded. -/
theorem TruthRecorded.become
    {call : CoroutineId}
    {position : AuthorizeCall}
    (hTruth : TruthRecorded labels state)
    (hPosition :
      ∀ request,
        position = .sleeping request →
          scenarioFor request.token = some .slow ∧
            AskedFor labels request) :
    TruthRecorded labels (state.become call position) where
  asleep := by
    intro other request hSleeping
    rw [become_calls] at hSleeping
    by_cases hOther : other = call
    · rw [hOther, Function.update_self] at hSleeping
      exact hPosition request hSleeping
    · rw [Function.update_of_ne hOther] at hSleeping
      exact hTruth.asleep other request hSleeping
  recorded := hTruth.recorded

/- A request that is answered becomes what is recorded. -/
theorem TruthRecorded.finish
    {request : AuthorizeRequest}
    (hTruth : TruthRecorded labels state)
    (hAskedFor : AskedFor labels request)
    (call : CoroutineId)
    (transactionId : String) :
    TruthRecorded labels
      (state.finish call request
        (MockProvider.answerNew request
          (scenarioFor request.token) transactionId)) where
  asleep := by
    intro other asleep hSleeping
    rw [finish_calls] at hSleeping
    by_cases hOther : other = call
    · rw [hOther, Function.update_self] at hSleeping
      cases hSleeping
    · rw [Function.update_of_ne hOther] at hSleeping
      exact hTruth.asleep other asleep hSleeping
  recorded := by
    intro key answer hAnswer
    rw [finish_authorizations] at hAnswer
    rw [finish_trueOutcomes]
    by_cases hKey : key = request.idempotencyKey
    · subst hKey
      rw [Function.update_self] at hAnswer ⊢
      cases hAnswer
      exact ⟨request, transactionId, hAskedFor, rfl, rfl,
        rfl⟩
    · rw [Function.update_of_ne hKey] at hAnswer ⊢
      exact hTruth.recorded key answer hAnswer

/- After its sleep a request is answered as its token says. -/
theorem answerNew_slow
    {request : AuthorizeRequest}
    (hSlow : scenarioFor request.token = some .slow)
    (transactionId : String) :
    MockProvider.answerNew request none transactionId =
      MockProvider.answerNew request
        (scenarioFor request.token) transactionId := by
  rw [hSlow]
  rfl

theorem TruthRecorded.step
    {label : MockLabel}
    (hTruth : TruthRecorded past state)
    (hStep : mockStep state label = some next) :
    TruthRecorded (past ++ [.authorizes label]) next := by
  have hLater := hTruth.extend (.authorizes label)
  cases mockStep_effect hStep with
  | sleeps transactionId _ hSlow =>
      refine hLater.become ?_
      intro request hPosition
      cases hPosition
      exact ⟨hSlow, askedFor_start past _ _ transactionId⟩
  | cached _ _ _ =>
      refine hLater.become ?_
      intro request hPosition
      cases hPosition
  | answers scenario transactionId _ _ hScenario =>
      subst hScenario
      exact hLater.finish
        (askedFor_start past _ _ transactionId) _
        transactionId
  | wakes transactionId hSleeping =>
      rcases hLater.asleep _ _ hSleeping with
        ⟨hSlow, hAskedFor⟩
      rw [answerNew_slow hSlow]
      exact hLater.finish hAskedFor _ transactionId

theorem TruthRecorded.callStep
    {label : MockCall}
    (hTruth : TruthRecorded past state)
    (hStep : mockCallStep state label = some next) :
    TruthRecorded (past ++ [label]) next := by
  cases label with
  | authorizes label => exact hTruth.step hStep
  | captures call providerTransactionId amountMinor =>
      cases hStep
      exact hTruth.extend _
  | refunds call providerTransactionId amountMinor key =>
      cases hStep
      exact hTruth.extend _

/- A call that has returned does not step again. -/
theorem mockStep_returned
    {label : MockLabel}
    {call : CoroutineId}
    {request : AuthorizeRequest}
    {result : ProviderResult}
    (hStep : mockStep state label = some next)
    (hReturned :
      state.calls call = .returned request result) :
    next.calls call = .returned request result := by
  have hOther : call ≠ label.call := by
    rintro rfl
    cases mockStep_effect hStep with
    | sleeps _ hIdle =>
        rw [MockLabel.call, hIdle] at hReturned
        cases hReturned
    | cached _ hIdle _ =>
        rw [MockLabel.call, hIdle] at hReturned
        cases hReturned
    | answers _ _ hIdle _ =>
        rw [MockLabel.call, hIdle] at hReturned
        cases hReturned
    | wakes _ hSleeping =>
        rw [MockLabel.call, hSleeping] at hReturned
        cases hReturned
  have hSame : next.calls call = state.calls call := by
    cases mockStep_effect hStep with
    | sleeps _ _ => exact Function.update_of_ne hOther _ _
    | cached _ _ _ => exact Function.update_of_ne hOther _ _
    | answers _ _ _ _ =>
        exact Function.update_of_ne hOther _ _
    | wakes _ _ => exact Function.update_of_ne hOther _ _
  rw [hSame, hReturned]

theorem mockCallStep_returned
    {label : MockCall}
    {call : CoroutineId}
    {request : AuthorizeRequest}
    {result : ProviderResult}
    (hStep : mockCallStep state label = some next)
    (hReturned :
      state.calls call = .returned request result) :
    next.calls call = .returned request result := by
  cases label with
  | authorizes label => exact mockStep_returned hStep hReturned
  | captures call providerTransactionId amountMinor =>
      cases hStep
      exact hReturned
  | refunds call providerTransactionId amountMinor key =>
      cases hStep
      exact hReturned

/- An authorization is answered when its call returns. -/
theorem mockAnswer_returned
    {label : MockCall}
    {answer : ProviderAnswer}
    (hStep : mockCallStep state label = some next)
    (hAnswer : mockAnswer state label = some answer)
    (hAuthorize : answer.operation = .authorize) :
    ∃ request,
      next.calls answer.call =
        .returned request answer.result := by
  cases label with
  | authorizes label =>
      simp only [mockCallStep] at hStep
      simp only [mockAnswer, hStep, Option.bind_some,
        Option.map_eq_some_iff] at hAnswer
      rcases hAnswer with ⟨result, hResult, rfl⟩
      unfold AuthorizeCall.result at hResult
      split at hResult
      · rename_i request told hReturned
        cases hResult
        exact ⟨request, hReturned⟩
      · cases hResult
  | captures call providerTransactionId amountMinor =>
      cases hAnswer
      cases hAuthorize
  | refunds call providerTransactionId amountMinor key =>
      cases hAnswer
      cases hAuthorize

theorem HeardReturned.step
    {label : ChaosLabel MockCall}
    (hHeard : HeardReturned chaos)
    (hUnit : UnitDraws draws)
    (hStep :
      chaosStep mockPaymentProvider config draws chaos label =
        some later) :
    HeardReturned later := by
  cases label with
  | inner label =>
      simp only [chaosStep] at hStep
      split at hStep
      · cases hStep
      · rename_i inner hInner
        have hOld :
            ∀ answer ∈ chaos.heard,
              answer.operation = .authorize →
                ∃ request,
                  inner.calls answer.call =
                    .returned request answer.result := by
          intro answer hAnswer hAuthorize
          rcases hHeard answer hAnswer hAuthorize with
            ⟨request, hReturned⟩
          exact ⟨request,
            mockCallStep_returned hInner hReturned⟩
        split at hStep
        · cases hStep
          exact hOld
        · rename_i answer hAnswer
          split at hStep
          · cases hStep
            rcases ChaosProvider.hear_eq config
                hUnit { chaos with inner := inner } answer
              with ⟨drawn, position, hHear, _⟩
            rw [hHear]
            intro other hOther hAuthorize
            simp only [ChaosProvider.become,
              List.mem_append, List.mem_singleton]
              at hOther ⊢
            rcases hOther with hBefore | rfl
            · exact hOld other hBefore hAuthorize
            · exact mockAnswer_returned hInner hAnswer
                hAuthorize
          · cases hStep
  | wake call =>
      simp only [chaosStep] at hStep
      split at hStep
      · cases hStep
        rcases ChaosProvider.finish_eq config
            hUnit chaos _ with
          ⟨drawn, result, _, hFinish⟩
        rw [hFinish]
        exact hHeard
      · cases hStep

/- Who was answered an authorization has had it returned. -/
theorem heardReturned_of_exec
    {asked : List (ChaosLabel MockCall)}
    (hUnit : UnitDraws draws)
    (hRun :
      Lts.exec (chaosStep mockPaymentProvider config draws)
          { inner := {} } asked = some chaos) :
    HeardReturned chaos := by
  have hStart :
      HeardReturned { inner := ({} : MockRun) } := by
    intro other hOther
    cases hOther
  exact Lts.invariant_of_exec
    (fun _ _ _ hBefore hStep => hBefore.step hUnit hStep)
    hStart hRun

/- What holds of the mock provider when it is called once. -/
theorem answeredOnce_of_calls
    {key : String}
    (hRun : Lts.exec mockCallStep {} labels = some state)
    (hOnce :
      Lts.Meets mockCallStep (OneAuthorization key) {}
        labels) :
    AnsweredOnce key state := by
  have hKeep :
      ∀ before label after,
        AnsweredOnce key before →
          OneAuthorization key before label →
            mockCallStep before label = some after →
              AnsweredOnce key after := by
    intro before label after hAnswered hOne hStep
    cases label with
    | authorizes label =>
        exact answeredOnce_step hAnswered hOne.1 hOne.2 hStep
    | captures call providerTransactionId amountMinor =>
        cases hStep
        exact hAnswered
    | refunds call providerTransactionId amountMinor key =>
        cases hStep
        exact hAnswered
  exact Lts.invariant_of_meets hKeep
    (answeredOnce_start key) hOnce hRun

/- What is recorded was requested, and it is the truth. -/
theorem truthRecorded_of_calls
    (hRun : Lts.exec mockCallStep {} labels = some state) :
    TruthRecorded labels state :=
  Lts.invariant_of_history
    (fun _ _ _ _ _ hTruth hStep => hTruth.callStep hStep)
    truthRecorded_start hRun

/- What was passed on was asked of the wrapper. -/
theorem mem_of_askedFor
    {asked : List (ChaosLabel MockCall)}
    {request : AuthorizeRequest}
    (hAskedFor :
      AskedFor (asked.filterMap ChaosLabel.passed)
        request) :
    ∃ call transactionId,
      .inner
          (.authorizes (.start call request transactionId)) ∈
        asked := by
  rcases hAskedFor with ⟨call, transactionId, hMem⟩
  rcases List.mem_filterMap.mp hMem with
    ⟨label, hLabel, hPassed⟩
  cases label with
  | inner passed =>
      cases hPassed
      exact ⟨call, transactionId, hLabel⟩
  | wake call => cases hPassed

end PayGuard

------------------------------------------------------------
-- Every Run
------------------------------------------------------------

namespace PayGuard

/-
  However the calls interleave and whatever is drawn, the
  wrapped provider goes through exactly the steps that are
  passed on to it, every answer it gives is on its way to
  its caller or was told to it, and a caller was told that
  answer or, of an authorization and with a positive rate,
  that nothing is known.  The status queries answer what the
  wrapped provider would have answered alone.
-/
theorem chaos_relays_every_answer
    {S L : Type}
    (provider : PaymentProvider S L)
    (config : ChaosConfig)
    (draws : Nat → ℚ)
    (hUnit : UnitDraws draws)
    (start : S)
    (labels : List (ChaosLabel L))
    (chaos : ChaosProvider S)
    (hRun :
      Lts.exec (chaosStep provider config draws)
          { inner := start } labels = some chaos) :
    Lts.exec provider.step start
        (labels.filterMap ChaosLabel.passed) =
      some chaos.inner ∧
      Relays config chaos ∧
        ∀ alone,
          Lts.exec provider.step start
              (labels.filterMap ChaosLabel.passed) =
            some alone →
          (∀ providerTransactionId,
            chaos.getPaymentStatus provider
                providerTransactionId =
              provider.getPaymentStatus alone
                providerTransactionId) ∧
            ∀ idempotencyKey,
              chaos.getPaymentStatusByIdempotencyKey
                  provider idempotencyKey =
                provider.getPaymentStatusByIdempotencyKey
                  alone idempotencyKey := by
  have hInner := inner_of_exec hUnit hRun
  refine ⟨hInner, relays_of_exec hUnit hRun, ?_⟩
  intro alone hAlone
  have hSame : chaos.inner = alone := by
    rw [hInner] at hAlone
    exact Option.some.inj hAlone
  rw [← hSame]
  exact ⟨fun _ => rfl, fun _ => rfl⟩

/- Every second authorization is lost, and some are late. -/
def halfLost : ChaosConfig where
  unknownRate := 1 / 2
  slowRate := 1 / 2

/- Both coins strike. -/
def lowDraws : Nat → ℚ := fun _ => 1 / 4

theorem lowDraws_unit : UnitDraws lowDraws := by
  intro n
  unfold lowDraws
  exact ⟨by norm_num, by norm_num⟩

def plainRequest : AuthorizeRequest where
  amountMinor := 100
  currency := "USD"
  token := "pm_card"
  idempotencyKey := "key"

/- The authorization goes through, and its answer is lost. -/
def losesAnswer : List (ChaosLabel MockCall) :=
  [.inner (.authorizes (.start 0 plainRequest "ptx_1")),
    .wake 0]

theorem chaos_relays_every_answer_lost :
    ∃ chaos,
      Lts.exec
          (chaosStep mockPaymentProvider halfLost lowDraws)
          { inner := {} } losesAnswer = some chaos ∧
        chaos.calls 0 =
          .returned
            ⟨0, .authorize,
              authorizedAnswer plainRequest "ptx_1"⟩
            chaosInjectedUnknown ∧
        Lts.exec mockCallStep {}
            (losesAnswer.filterMap ChaosLabel.passed) =
          some chaos.inner ∧
        Relays halfLost chaos ∧
        chaos.getPaymentStatusByIdempotencyKey
            mockPaymentProvider "key" =
          mockPaymentProvider.getPaymentStatusByIdempotencyKey
            chaos.inner "key" := by
  have hRun :
      (Lts.exec
          (chaosStep mockPaymentProvider halfLost lowDraws)
          { inner := {} } losesAnswer).map
            (fun chaos => chaos.calls 0) =
        some (.returned
          ⟨0, .authorize,
            authorizedAnswer plainRequest "ptx_1"⟩
          chaosInjectedUnknown) := by
    decide +kernel
  rcases Option.map_eq_some_iff.mp hRun with
    ⟨chaos, hExec, hCall⟩
  have hRelays :=
    chaos_relays_every_answer mockPaymentProvider halfLost
      lowDraws lowDraws_unit {} losesAnswer chaos hExec
  exact ⟨chaos, hExec, hCall, hRelays.1, hRelays.2.1,
    (hRelays.2.2 chaos.inner hRelays.1).2 "key"⟩

/-
  Whatever a caller behind the fault injection was told about
  an authorization, its answer is that of one request that
  was made with its key, in the scenario of its token, and a
  query by the key returns what truly happened to that
  request; a transaction it names is found by its id as well.
-/
theorem status_query_tells_truth
    (config : ChaosConfig)
    (draws : Nat → ℚ)
    (hUnit : UnitDraws draws)
    (key : String)
    (labels : List (ChaosLabel MockCall))
    (chaos : ChaosProvider MockRun)
    (hRun :
      Lts.exec (chaosStep mockPaymentProvider config draws)
          { inner := {} } labels = some chaos)
    (hOnce :
      Lts.Meets mockCallStep (OneAuthorization key) {}
        (labels.filterMap ChaosLabel.passed))
    (call : CoroutineId)
    (request : AuthorizeRequest)
    (result told : ProviderResult)
    (answer : ProviderAnswer)
    (hReturned :
      chaos.inner.calls call = .returned request result)
    (hKey : request.idempotencyKey = key)
    (hTold : chaos.calls call = .returned answer told)
    (hAuthorize : answer.operation = .authorize) :
    ∃ first authorized drawn transactionId,
      .inner (.authorizes (.start first authorized drawn)) ∈
          labels ∧
        authorized.idempotencyKey = key ∧
        result =
          (authorizeOutcome authorized
            (scenarioFor authorized.token)
            transactionId).1 ∧
        (told = chaosInjectedUnknown ∨ told = result) ∧
        chaos.getPaymentStatusByIdempotencyKey
            mockPaymentProvider key =
          (authorizeOutcome authorized
            (scenarioFor authorized.token)
            transactionId).2 ∧
        ∀ found,
          (authorizeOutcome authorized
              (scenarioFor authorized.token)
              transactionId).2.providerTransactionId =
              some found →
            chaos.getPaymentStatus mockPaymentProvider
                found =
              (authorizeOutcome authorized
                (scenarioFor authorized.token)
                transactionId).2 := by
  have hRelays := relays_of_exec hUnit hRun
  have hInner := inner_of_exec hUnit hRun
  have hHeard := heardReturned_of_exec hUnit hRun
  have hAnswered := answeredOnce_of_calls hInner hOnce
  have hTruth := truthRecorded_of_calls hInner
  rcases hRelays.returned call answer told hTold with
    ⟨hListed, rfl, hMay⟩
  rcases hHeard answer hListed hAuthorize with
    ⟨other, hOther⟩
  have hSame : answer.result = result := by
    rw [hReturned] at hOther
    cases hOther
    rfl
  have hRecorded :=
    hAnswered.returned answer.call request result hReturned
      hKey
  rcases hTruth.recorded key result hRecorded with
    ⟨authorized, transactionId, hAskedFor, hOwnKey, hResult,
      hOutcome⟩
  rcases mem_of_askedFor hAskedFor with
    ⟨first, drawn, hAsked⟩
  refine ⟨first, authorized, drawn, transactionId, hAsked,
    hOwnKey, hResult, ?_, ?_, ?_⟩
  · by_cases hReplaced : told = answer.result
    · rw [hReplaced, hSame]
      exact .inr rfl
    · exact .inl (hMay.replaced hReplaced).2.2
  · change
      (chaos.inner.provider.trueOutcomes key).getD _ = _
    rw [hOutcome]
    rfl
  · intro found hNamed
    exact hAnswered.recorded.getPaymentStatus_eq hOutcome
      hNamed

theorem status_query_tells_truth_lost :
    ∃ chaos first authorized drawn transactionId,
      Lts.exec
          (chaosStep mockPaymentProvider halfLost lowDraws)
          { inner := {} } losesAnswer = some chaos ∧
        .inner
            (.authorizes (.start first authorized drawn)) ∈
          losesAnswer ∧
        authorizedAnswer plainRequest "ptx_1" =
          (authorizeOutcome authorized
            (scenarioFor authorized.token)
            transactionId).1 ∧
        (chaos.getPaymentStatusByIdempotencyKey
          mockPaymentProvider "key").outcome = .succeeded ∧
        chaos.getPaymentStatusByIdempotencyKey
            mockPaymentProvider "key" =
          (authorizeOutcome authorized
            (scenarioFor authorized.token)
            transactionId).2 := by
  have hRun :
      (Lts.exec
          (chaosStep mockPaymentProvider halfLost lowDraws)
          { inner := {} } losesAnswer).map
            (fun chaos =>
              (chaos.inner.calls 0, chaos.calls 0,
                (chaos.getPaymentStatusByIdempotencyKey
                  mockPaymentProvider "key").outcome)) =
        some
          (.returned plainRequest
              (authorizedAnswer plainRequest "ptx_1"),
            .returned
              ⟨0, .authorize,
                authorizedAnswer plainRequest "ptx_1"⟩
              chaosInjectedUnknown,
            .succeeded) := by
    decide +kernel
  rcases Option.map_eq_some_iff.mp hRun with
    ⟨chaos, hExec, hCalls⟩
  rw [Prod.mk.injEq, Prod.mk.injEq] at hCalls
  rcases hCalls with ⟨hReturned, hTold, hOutcome⟩
  rcases status_query_tells_truth halfLost lowDraws
      lowDraws_unit "key" losesAnswer chaos hExec
      (by decide +kernel) 0 plainRequest _ _ _ hReturned rfl
      hTold rfl with
    ⟨first, authorized, drawn, transactionId, hAsked, _,
      hResult, _, hQuery, _⟩
  exact ⟨chaos, first, authorized, drawn, transactionId,
    hExec, hAsked, hResult, hOutcome, hQuery⟩

end PayGuard

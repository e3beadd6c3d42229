import PayGuard.Lib.Runs
import PayGuard.Lib.Tables
import PayGuard.Providers.Mock

/-
  Authorizations of the mock provider that interleave.

  A coroutine gives way to others only where it awaits, and
  `authorize` awaits in one scenario, between its look at
  the recorded answers and the answer it records itself.
  The calls with a key agree where every call that has slept
  finds its key still unanswered.

  Key definitions include:
    * `MockRun`
    * `mockStep`
    * `MockRun.getPaymentStatus`
    * `IdempotentFor`
    * `WakesUnanswered`

  Key theorems include:
    * `AnswersRecorded.step`
    * `answeredOnce_step`
    * `mock_provider_idempotent_iff`
    * `slow_calls_authorize_twice`
-/

------------------------------------------------------------
-- Interleaved Calls
------------------------------------------------------------

namespace PayGuard

abbrev CoroutineId := Nat

/- How far a call of `authorize` has come. -/
inductive AuthorizeCall where
| idle
-- waiting in the slow scenario
| sleeping (request : AuthorizeRequest)
| returned
    (request : AuthorizeRequest)
    (result : ProviderResult)
deriving DecidableEq, Repr

/- The call is asleep on a request with the key. -/
def AuthorizeCall.sleepsOn
    (idempotencyKey : String) : AuthorizeCall → Bool
| .sleeping request =>
    request.idempotencyKey = idempotencyKey
| _ => false

/- A transaction id the provider made up for a key. -/
structure IssuedId where
  idempotencyKey : String
  transactionId : String
deriving DecidableEq, Repr

structure MockRun where
  provider : MockProvider := {}
  -- the keys of `_true_outcomes`, oldest first
  trueOutcomeKeys : List String := []
  calls : CoroutineId → AuthorizeCall := fun _ => .idle
  issued : List IssuedId := []

/- A call up to its first await, and after its sleep. -/
inductive MockLabel where
| start
    (call : CoroutineId)
    (request : AuthorizeRequest)
    (transactionId : String)
| wake (call : CoroutineId) (transactionId : String)
deriving DecidableEq, Repr

def MockLabel.transactionId : MockLabel → String
| .start _ _ transactionId => transactionId
| .wake _ transactionId => transactionId

namespace MockRun

def become
    (state : MockRun)
    (call : CoroutineId)
    (position : AuthorizeCall) : MockRun :=
  { state with
    calls := Function.update state.calls call position }

/- The ids a recorded truth names. -/
def issuedBy
    (idempotencyKey : String)
    (authorization : Authorization) : List IssuedId :=
  (authorization.recorded.bind
    (·.providerTransactionId)).toList.map
      (fun transactionId => ⟨idempotencyKey, transactionId⟩)

/- A key set again keeps its place. -/
def insertKey
    (keys : List String)
    (idempotencyKey : String)
    (authorization : Authorization) : List String :=
  if authorization.recorded = none ∨
      idempotencyKey ∈ keys then
    keys
  else
    keys ++ [idempotencyKey]

/- The call records what is new in its answer and returns. -/
def finish
    (state : MockRun)
    (call : CoroutineId)
    (request : AuthorizeRequest)
    (authorization : Authorization) : MockRun where
  provider :=
    state.provider.record request.idempotencyKey
      authorization
  trueOutcomeKeys :=
    insertKey state.trueOutcomeKeys request.idempotencyKey
      authorization
  calls :=
    Function.update state.calls call
      (.returned request authorization.result)
  issued :=
    state.issued ++
      issuedBy request.idempotencyKey authorization

/- The truth about the first key that has this id. -/
def getPaymentStatus
    (state : MockRun)
    (providerTransactionId : String) : ProviderResult :=
  ((state.trueOutcomeKeys.filterMap
    state.provider.trueOutcomes).find? (fun result =>
      result.providerTransactionId =
        some providerTransactionId)).getD
    { outcome := .unknown
      providerTransactionId := some providerTransactionId
      rawStatus := "not_found" }

def issuedFor
    (state : MockRun)
    (idempotencyKey : String) : List IssuedId :=
  state.issued.filter (fun issued =>
    issued.idempotencyKey = idempotencyKey)

end MockRun

def mockStep
    (state : MockRun) : MockLabel → Option MockRun
| .start call request transactionId =>
    match state.calls call with
    | .idle =>
        if state.provider.sleeps request then
          some (state.become call (.sleeping request))
        else
          some (state.finish call request
            (state.provider.authorize request false
              transactionId))
    | _ => none
| .wake call transactionId =>
    match state.calls call with
    | .sleeping request =>
        some (state.finish call request
          (state.provider.authorize request true
            transactionId))
    | _ => none

------------------------------------------------------------
-- Idempotency
------------------------------------------------------------

/-
  All calls with the key return one result, at most one id
  is issued for it, and both queries return a success.
-/
structure IdempotentFor
    (state : MockRun)
    (idempotencyKey : String) : Prop where
  sameResult :
    ∀ call call' request request' result result',
      state.calls call = .returned request result →
        state.calls call' = .returned request' result' →
          request.idempotencyKey = idempotencyKey →
            request'.idempotencyKey = idempotencyKey →
              result = result'
  oneId :
    (state.issuedFor idempotencyKey).length ≤ 1
  queries :
    ∀ call request result,
      state.calls call = .returned request result →
        request.idempotencyKey = idempotencyKey →
          result.outcome = .succeeded →
            state.provider.getPaymentStatusByIdempotencyKey
                idempotencyKey = result ∧
              ∃ transactionId,
                result.providerTransactionId =
                    some transactionId ∧
                  state.getPaymentStatus transactionId =
                    result

/- A call that has slept finds its key unanswered. -/
def WakesUnanswered
    (idempotencyKey : String)
    (state : MockRun) : MockLabel → Prop
| .start _ _ _ => True
| .wake call _ =>
    (state.calls call).sleepsOn idempotencyKey = true →
      state.provider.authorizations idempotencyKey = none

instance
    (idempotencyKey : String)
    (state : MockRun) :
    ∀ label,
      Decidable (WakesUnanswered idempotencyKey state label)
| .start _ _ _ => .isTrue trivial
| .wake _ _ => inferInstanceAs (Decidable (_ → _))

/- `uuid4` makes up no id a second time. -/
def FreshId
    (state : MockRun)
    (label : MockLabel) : Prop :=
  ∀ issued ∈ state.issued,
    issued.transactionId ≠ label.transactionId

instance
    (state : MockRun)
    (label : MockLabel) :
    Decidable (FreshId state label) :=
  List.decidableBAll
    (fun issued : IssuedId =>
      issued.transactionId ≠ label.transactionId)
    state.issued

end PayGuard

------------------------------------------------------------
-- Steps
------------------------------------------------------------

namespace PayGuard

/- What a step of a call can do. -/
inductive MockEffect
    (state : MockRun) : MockLabel → MockRun → Prop where
| sleeps
    {call : CoroutineId}
    {request : AuthorizeRequest}
    (transactionId : String)
    (hIdle : state.calls call = .idle)
    (hSlow : scenarioFor request.token = some .slow) :
    MockEffect state (.start call request transactionId)
      (state.become call (.sleeping request))
| cached
    {call : CoroutineId}
    {request : AuthorizeRequest}
    {answer : ProviderResult}
    (transactionId : String)
    (hIdle : state.calls call = .idle)
    (hAnswer :
      state.provider.authorizations
        request.idempotencyKey = some answer) :
    MockEffect state (.start call request transactionId)
      (state.become call (.returned request answer))
| answers
    {call : CoroutineId}
    {request : AuthorizeRequest}
    (scenario : Option Scenario)
    (transactionId : String)
    (hIdle : state.calls call = .idle)
    (hNone :
      state.provider.authorizations
        request.idempotencyKey = none)
    (hScenario : scenario = scenarioFor request.token) :
    MockEffect state (.start call request transactionId)
      (state.finish call request
        (MockProvider.answerNew request scenario
          transactionId))
| wakes
    {call : CoroutineId}
    {request : AuthorizeRequest}
    (transactionId : String)
    (hSleeping : state.calls call = .sleeping request) :
    MockEffect state (.wake call transactionId)
      (state.finish call request
        (MockProvider.answerNew request none
          transactionId))

variable {state next : MockRun}
variable {label : MockLabel}
variable {key : String}

/- An answer that was cached leaves all but the call alone. -/
theorem MockRun.finish_cached
    (state : MockRun)
    (call : CoroutineId)
    (request : AuthorizeRequest)
    (answer : ProviderResult) :
    state.finish call request ⟨answer, none⟩ =
      state.become call (.returned request answer) := by
  simp [MockRun.finish, MockRun.become, MockRun.insertKey,
    MockRun.issuedBy, MockProvider.record]

theorem mockStep_effect
    (hStep : mockStep state label = some next) :
    MockEffect state label next := by
  cases label with
  | start call request transactionId =>
      simp only [mockStep] at hStep
      split at hStep
      · rename_i hIdle
        split at hStep
        · rename_i hSleeps
          cases hStep
          rw [MockProvider.sleeps, Bool.and_eq_true,
            decide_eq_true_eq, decide_eq_true_eq] at hSleeps
          exact .sleeps transactionId hIdle hSleeps.2
        · cases hStep
          cases hAnswer :
              state.provider.authorizations
                request.idempotencyKey with
          | none =>
              have hNew :
                  state.provider.authorize request false
                      transactionId =
                    MockProvider.answerNew request
                      (scenarioFor request.token)
                      transactionId := by
                simp [MockProvider.authorize, hAnswer]
              rw [hNew]
              exact .answers _ transactionId hIdle hAnswer
                rfl
          | some answer =>
              have hCached :
                  state.provider.authorize request false
                      transactionId = ⟨answer, none⟩ := by
                simp [MockProvider.authorize, hAnswer]
              rw [hCached, MockRun.finish_cached]
              exact .cached transactionId hIdle hAnswer
      · cases hStep
  | wake call transactionId =>
      simp only [mockStep] at hStep
      split at hStep
      · rename_i request hSleeping
        cases hStep
        exact .wakes transactionId hSleeping
      · cases hStep

end PayGuard

------------------------------------------------------------
-- What Is AnswersRecorded
------------------------------------------------------------

namespace PayGuard

/- What the recorded answers say, however calls interleave. -/
structure AnswersRecorded (state : MockRun) : Prop where
  issuedTruth :
    ∀ key truth transactionId,
      state.provider.trueOutcomes key = some truth →
        truth.providerTransactionId = some transactionId →
          ⟨key, transactionId⟩ ∈ state.issued
  issuedAnswer :
    ∀ key answer transactionId,
      state.provider.authorizations key = some answer →
        answer.providerTransactionId = some transactionId →
          ⟨key, transactionId⟩ ∈ state.issued
  unanswered :
    ∀ key,
      state.provider.authorizations key = none →
        ∀ issued ∈ state.issued,
          issued.idempotencyKey ≠ key
  apart :
    ∀ issued ∈ state.issued,
      ∀ other ∈ state.issued,
        issued.transactionId = other.transactionId →
          issued = other
  succeeded :
    ∀ key answer,
      state.provider.authorizations key = some answer →
        answer.outcome = .succeeded →
          state.provider.trueOutcomes key = some answer ∧
            ∃ transactionId,
              answer.providerTransactionId =
                some transactionId
  inserted :
    ∀ key truth,
      state.provider.trueOutcomes key = some truth →
        key ∈ state.trueOutcomeKeys

theorem answersRecorded_start : AnswersRecorded {} where
  issuedTruth := by
    intro key truth transactionId hTruth
    cases hTruth
  issuedAnswer := by
    intro key answer transactionId hAnswer
    cases hAnswer
  unanswered := by
    intro key _ issued hIssued
    cases hIssued
  apart := by
    intro issued hIssued
    cases hIssued
  succeeded := by
    intro key answer hAnswer
    cases hAnswer
  inserted := by
    intro key truth hTruth
    cases hTruth

/- The calls themselves are not recorded. -/
theorem AnswersRecorded.become
    {state : MockRun}
    (hRecorded : AnswersRecorded state)
    (call : CoroutineId)
    (position : AuthorizeCall) :
    AnswersRecorded (state.become call position) where
  issuedTruth := hRecorded.issuedTruth
  issuedAnswer := hRecorded.issuedAnswer
  unanswered := hRecorded.unanswered
  apart := hRecorded.apart
  succeeded := hRecorded.succeeded
  inserted := hRecorded.inserted

/- An answer that names an id is the truth and a success. -/
theorem authorizeOutcome_truth
    (request : AuthorizeRequest)
    (scenario : Option Scenario)
    (transactionId : String)
    (hAnswer :
      (authorizeOutcome request scenario
          transactionId).1.providerTransactionId ≠ none ∨
        (authorizeOutcome request scenario
          transactionId).1.outcome = .succeeded) :
    (authorizeOutcome request scenario transactionId).2 =
        (authorizeOutcome request scenario
          transactionId).1 ∧
      (authorizeOutcome request scenario
          transactionId).1.providerTransactionId =
        some transactionId := by
  unfold authorizeOutcome at hAnswer ⊢
  split <;>
    simp_all [declinedAnswer, unavailableAnswer,
      unknownAnswer, authorizedAnswer]

variable {state : MockRun}
variable {call : CoroutineId}
variable {request : AuthorizeRequest}
variable {scenario : Option Scenario}
variable {transactionId : String}

theorem mem_finish_keys
    {key : String} :
    key ∈ (state.finish call request
        (MockProvider.answerNew request scenario
          transactionId)).trueOutcomeKeys ↔
      key ∈ state.trueOutcomeKeys ∨
        key = request.idempotencyKey := by
  simp only [MockRun.finish, MockRun.insertKey,
    MockProvider.answerNew, reduceCtorEq, false_or]
  split
  · rename_i hKnown
    constructor
    · exact .inl
    · rintro (hKey | rfl)
      · exact hKey
      · exact hKnown
  · rw [List.mem_append, List.mem_singleton]

/- The ids issued for the key of a new answer. -/
theorem mem_finish_issued
    {issued : IssuedId} :
    issued ∈ (state.finish call request
        (MockProvider.answerNew request scenario
          transactionId)).issued ↔
      issued ∈ state.issued ∨
        (issued.idempotencyKey = request.idempotencyKey ∧
          (authorizeOutcome request scenario
              transactionId).2.providerTransactionId =
            some issued.transactionId) := by
  simp only [MockRun.finish, MockRun.issuedBy,
    MockProvider.answerNew, Option.bind_some,
    List.mem_append, List.mem_map, Option.mem_toList]
  constructor
  · rintro (hOld | ⟨named, hNamed, rfl⟩)
    · exact .inl hOld
    · exact .inr ⟨rfl, hNamed⟩
  · rintro (hOld | ⟨hKey, hNamed⟩)
    · exact .inl hOld
    · exact .inr ⟨_, hNamed, by rw [← hKey]⟩

theorem become_calls
    (state : MockRun)
    (call : CoroutineId)
    (position : AuthorizeCall) :
    (state.become call position).calls =
      Function.update state.calls call position :=
  rfl

theorem finish_calls :
    (state.finish call request
        (MockProvider.answerNew request scenario
          transactionId)).calls =
      Function.update state.calls call
        (.returned request
          (authorizeOutcome request scenario
            transactionId).1) :=
  rfl

theorem finish_authorizations :
    (state.finish call request
        (MockProvider.answerNew request scenario
          transactionId)).provider.authorizations =
      Function.update state.provider.authorizations
        request.idempotencyKey
        (some (authorizeOutcome request scenario
          transactionId).1) :=
  rfl

theorem finish_trueOutcomes :
    (state.finish call request
        (MockProvider.answerNew request scenario
          transactionId)).provider.trueOutcomes =
      Function.update state.provider.trueOutcomes
        request.idempotencyKey
        (some (authorizeOutcome request scenario
          transactionId).2) :=
  rfl

theorem issuedFor_finish
    {key : String} :
    (state.finish call request
        (MockProvider.answerNew request scenario
          transactionId)).issuedFor key =
      state.issuedFor key ++
        (if request.idempotencyKey = key then
          (authorizeOutcome request scenario
            transactionId).2.providerTransactionId.toList.map
              (fun named => ⟨key, named⟩)
        else
          []) := by
  simp only [MockRun.issuedFor, MockRun.finish,
    MockRun.issuedBy, MockProvider.answerNew,
    Option.bind_some, List.filter_append]
  split
  · rename_i hKey
    rw [hKey]
    simp
  · rename_i hKey
    simp [hKey]

/- A new answer with a fresh id keeps the records. -/
theorem AnswersRecorded.finish
    (hRecorded : AnswersRecorded state)
    (hFresh :
      ∀ issued ∈ state.issued,
        issued.transactionId ≠ transactionId) :
    AnswersRecorded
      (state.finish call request
        (MockProvider.answerNew request scenario
          transactionId)) where
  issuedTruth := by
    intro key truth named hTruth hNamed
    rw [mem_finish_issued]
    by_cases hKey : key = request.idempotencyKey
    · subst hKey
      simp only [finish_trueOutcomes, Function.update_self,
        Option.some.injEq] at hTruth
      rw [hTruth]
      exact .inr ⟨rfl, hNamed⟩
    · rw [finish_trueOutcomes, Function.update_of_ne hKey]
        at hTruth
      exact .inl
        (hRecorded.issuedTruth key truth named hTruth hNamed)
  issuedAnswer := by
    intro key answer named hAnswer hNamed
    rw [mem_finish_issued]
    by_cases hKey : key = request.idempotencyKey
    · subst hKey
      simp only [finish_authorizations, Function.update_self,
        Option.some.injEq] at hAnswer
      rw [← hAnswer] at hNamed
      have hTruth :=
        (authorizeOutcome_truth request scenario
          transactionId (.inl (by simp [hNamed]))).1
      rw [hTruth]
      exact .inr ⟨rfl, hNamed⟩
    · rw [finish_authorizations, Function.update_of_ne hKey]
        at hAnswer
      exact .inl
        (hRecorded.issuedAnswer key answer named hAnswer
          hNamed)
  unanswered := by
    intro key hNone issued hIssued
    by_cases hKey : key = request.idempotencyKey
    · subst hKey
      rw [finish_authorizations, Function.update_self] at hNone
      cases hNone
    · rw [finish_authorizations, Function.update_of_ne hKey]
        at hNone
      rcases mem_finish_issued.mp hIssued with
        hOld | ⟨hOwn, _⟩
      · exact hRecorded.unanswered key hNone issued hOld
      · rw [hOwn]
        exact Ne.symm hKey
  apart := by
    intro issued hIssued other hOther hSame
    rcases mem_finish_issued.mp hIssued with
      hOld | ⟨hKey, hNamed⟩
    · rcases mem_finish_issued.mp hOther with
        hOld' | ⟨hKey', hNamed'⟩
      · exact hRecorded.apart issued hOld other hOld' hSame
      · have hNew :=
          authorizeOutcome_transaction request scenario
            transactionId _ (.inr hNamed')
        exact absurd (hSame.trans hNew) (hFresh issued hOld)
    · have hNew :=
        authorizeOutcome_transaction request scenario
          transactionId _ (.inr hNamed)
      rcases mem_finish_issued.mp hOther with
        hOld' | ⟨hKey', hNamed'⟩
      · exact absurd (hSame.symm.trans hNew)
          (hFresh other hOld')
      · cases issued
        cases other
        simp_all
  succeeded := by
    intro key answer hAnswer hSucceeded
    by_cases hKey : key = request.idempotencyKey
    · subst hKey
      simp only [finish_authorizations, Function.update_self,
        Option.some.injEq] at hAnswer
      subst hAnswer
      rcases authorizeOutcome_truth request scenario
          transactionId (.inr hSucceeded) with
        ⟨hTruth, hNamed⟩
      refine ⟨?_, transactionId, hNamed⟩
      rw [finish_trueOutcomes, Function.update_self, hTruth]
    · rw [finish_authorizations, Function.update_of_ne hKey]
        at hAnswer
      rw [finish_trueOutcomes, Function.update_of_ne hKey]
      exact hRecorded.succeeded key answer hAnswer hSucceeded
  inserted := by
    intro key truth hTruth
    rw [mem_finish_keys]
    by_cases hKey : key = request.idempotencyKey
    · exact .inr hKey
    · rw [finish_trueOutcomes, Function.update_of_ne hKey]
        at hTruth
      exact .inl (hRecorded.inserted key truth hTruth)

/- Every step with a fresh id keeps the records. -/
theorem AnswersRecorded.step
    {next : MockRun}
    {label : MockLabel}
    (hRecorded : AnswersRecorded state)
    (hFresh : FreshId state label)
    (hStep : mockStep state label = some next) :
    AnswersRecorded next := by
  have hEffect := mockStep_effect hStep
  cases hEffect with
  | sleeps transactionId hIdle => exact hRecorded.become _ _
  | cached transactionId hIdle hAnswer =>
      exact hRecorded.become _ _
  | answers scenario transactionId hIdle hNone =>
      exact hRecorded.finish hFresh
  | wakes transactionId hSleeping =>
      exact hRecorded.finish hFresh

end PayGuard

------------------------------------------------------------
-- One Answer For A Key
------------------------------------------------------------

namespace PayGuard

/- The calls with the key have returned what is recorded. -/
structure AnsweredOnce
    (key : String)
    (state : MockRun) : Prop where
  recorded : AnswersRecorded state
  returned :
    ∀ call request result,
      state.calls call = .returned request result →
        request.idempotencyKey = key →
          state.provider.authorizations key = some result
  told :
    ∀ answer,
      state.provider.authorizations key = some answer →
        ∃ call request,
          state.calls call = .returned request answer ∧
            request.idempotencyKey = key
  once : (state.issuedFor key).length ≤ 1

/- Two calls with the key have returned different results. -/
def Disagrees
    (key : String)
    (state : MockRun) : Prop :=
  ∃ call call' request request' result result',
    state.calls call = .returned request result ∧
      state.calls call' = .returned request' result' ∧
      request.idempotencyKey = key ∧
      request'.idempotencyKey = key ∧
      result ≠ result'

variable {state next : MockRun}
variable {label : MockLabel}
variable {call : CoroutineId}
variable {request : AuthorizeRequest}
variable {scenario : Option Scenario}
variable {transactionId key : String}

theorem answeredOnce_start
    (key : String) : AnsweredOnce key {} where
  recorded := answersRecorded_start
  returned := by
    intro call request result hReturned
    cases hReturned
  told := by
    intro answer hAnswer
    cases hAnswer
  once := Nat.zero_le _

/- A call that is not returned makes way for its position. -/
theorem AnsweredOnce.become
    {position : AuthorizeCall}
    (hOnce : AnsweredOnce key state)
    (hOpen :
      ∀ request result,
        state.calls call ≠ .returned request result)
    (hPosition :
      ∀ request result,
        position = .returned request result →
          request.idempotencyKey = key →
            state.provider.authorizations key =
              some result) :
    AnsweredOnce key (state.become call position) where
  recorded := hOnce.recorded.become call position
  returned := by
    intro other request result hReturned hKey
    by_cases hOther : other = call
    · subst hOther
      rw [become_calls, Function.update_self] at hReturned
      exact hPosition request result hReturned hKey
    · rw [become_calls, Function.update_of_ne hOther]
        at hReturned
      exact hOnce.returned other request result hReturned
        hKey
  told := by
    intro answer hAnswer
    rcases hOnce.told answer hAnswer with
      ⟨other, request, hReturned, hKey⟩
    have hOther : other ≠ call := by
      rintro rfl
      exact hOpen request answer hReturned
    refine ⟨other, request, ?_, hKey⟩
    rw [become_calls, Function.update_of_ne hOther]
    exact hReturned
  once := hOnce.once

/- The first answer for a key is the only one. -/
theorem AnsweredOnce.finish
    (hOnce : AnsweredOnce key state)
    (hFresh :
      ∀ issued ∈ state.issued,
        issued.transactionId ≠ transactionId)
    (hOpen :
      ∀ request result,
        state.calls call ≠ .returned request result)
    (hNone :
      request.idempotencyKey = key →
        state.provider.authorizations key = none) :
    AnsweredOnce key
      (state.finish call request
        (MockProvider.answerNew request scenario
          transactionId)) where
  recorded := hOnce.recorded.finish hFresh
  returned := by
    intro other request' result hReturned hKey
    rw [finish_authorizations]
    by_cases hOther : other = call
    · rw [hOther, finish_calls, Function.update_self]
        at hReturned
      cases hReturned
      rw [hKey, Function.update_self]
    · rw [finish_calls, Function.update_of_ne hOther]
        at hReturned
      have hAnswer :=
        hOnce.returned other request' result hReturned hKey
      have hApart : key ≠ request.idempotencyKey := by
        intro hSame
        rw [hNone hSame.symm] at hAnswer
        cases hAnswer
      rw [Function.update_of_ne hApart]
      exact hAnswer
  told := by
    intro answer hAnswer
    rw [finish_authorizations] at hAnswer
    rw [finish_calls]
    by_cases hSame : key = request.idempotencyKey
    · rw [hSame, Function.update_self] at hAnswer
      cases hAnswer
      exact ⟨call, request, Function.update_self _ _ _,
        hSame.symm⟩
    · rw [Function.update_of_ne hSame] at hAnswer
      rcases hOnce.told answer hAnswer with
        ⟨other, request', hReturned, hKey⟩
      have hOther : other ≠ call := by
        rintro rfl
        exact hOpen request' answer hReturned
      refine ⟨other, request', ?_, hKey⟩
      rw [Function.update_of_ne hOther]
      exact hReturned
  once := by
    rw [issuedFor_finish]
    by_cases hSame : request.idempotencyKey = key
    · have hNothing : state.issuedFor key = [] := by
        rw [MockRun.issuedFor, List.filter_eq_nil_iff]
        intro issued hIssued
        simpa using hOnce.recorded.unanswered key
          (hNone hSame) issued hIssued
      rw [if_pos hSame, hNothing, List.nil_append,
        List.length_map]
      exact Option.length_toList_le
    · rw [if_neg hSame, List.append_nil]
      exact hOnce.once

/- Every step that meets the condition keeps one answer. -/
theorem answeredOnce_step
    (hOnce : AnsweredOnce key state)
    (hFresh : FreshId state label)
    (hWakes : WakesUnanswered key state label)
    (hStep : mockStep state label = some next) :
    AnsweredOnce key next := by
  have hEffect := mockStep_effect hStep
  cases hEffect with
  | sleeps transactionId hIdle =>
      apply hOnce.become
      · simp [hIdle]
      · intro request result hPosition
        cases hPosition
  | cached transactionId hIdle hAnswer =>
      apply hOnce.become
      · simp [hIdle]
      · intro request result hPosition hKey
        cases hPosition
        rw [← hKey]
        exact hAnswer
  | answers scenario transactionId hIdle hNone =>
      apply hOnce.finish hFresh
      · simp [hIdle]
      · rintro rfl
        exact hNone
  | wakes transactionId hSleeping =>
      apply hOnce.finish hFresh
      · simp [hSleeping]
      · intro hKey
        apply hWakes
        rw [hSleeping]
        exact decide_eq_true hKey

end PayGuard

------------------------------------------------------------
-- Two Answers For A Key
------------------------------------------------------------

namespace PayGuard

variable {state next : MockRun}
variable {label : MockLabel}
variable {key : String}

/- A call that wakes to an answered key gives another. -/
theorem disagrees_of_answered
    (hOnce : AnsweredOnce key state)
    (hFresh : FreshId state label)
    (hWakes : ¬ WakesUnanswered key state label)
    (hStep : mockStep state label = some next) :
    Disagrees key next := by
  have hEffect := mockStep_effect hStep
  cases hEffect with
  | @wakes call request transactionId hSleeping =>
      simp only [WakesUnanswered, hSleeping,
        AuthorizeCall.sleepsOn, decide_eq_true_iff,
        Classical.not_imp] at hWakes
      rcases hWakes with ⟨hKey, hAnswered⟩
      rcases Option.ne_none_iff_exists'.mp hAnswered with
        ⟨answer, hAnswer⟩
      rcases hOnce.told answer hAnswer with
        ⟨other, request', hReturned, hKey'⟩
      have hOther : other ≠ call := by
        rintro rfl
        rw [hSleeping] at hReturned
        cases hReturned
      refine ⟨other, call, request', request, answer,
        authorizedAnswer request transactionId, ?_, ?_,
        hKey', hKey, ?_⟩
      · rw [finish_calls, Function.update_of_ne hOther]
        exact hReturned
      · rw [finish_calls, Function.update_self]
        rfl
      · rintro rfl
        exact hFresh _
          (hOnce.recorded.issuedAnswer key _ transactionId
            hAnswer rfl) rfl
  | _ => exact absurd trivial hWakes

/- What a call has returned stays returned. -/
theorem returned_step
    {call : CoroutineId}
    {request : AuthorizeRequest}
    {result : ProviderResult}
    (hStep : mockStep state label = some next)
    (hReturned :
      state.calls call = .returned request result) :
    next.calls call = .returned request result := by
  have hMoves :
      ∀ other position,
        state.calls other ≠ .returned request result →
          Function.update state.calls other position call =
            .returned request result := by
    intro other position hOpen
    have hOther : call ≠ other := by
      rintro rfl
      exact hOpen hReturned
    rw [Function.update_of_ne hOther]
    exact hReturned
  have hEffect := mockStep_effect hStep
  cases hEffect with
  | sleeps transactionId hIdle =>
      exact hMoves _ _ (by simp [hIdle])
  | cached transactionId hIdle hAnswer =>
      exact hMoves _ _ (by simp [hIdle])
  | answers scenario transactionId hIdle hNone =>
      exact hMoves _ _ (by simp [hIdle])
  | wakes transactionId hSleeping =>
      exact hMoves _ _ (by simp [hSleeping])

theorem disagrees_step
    (hDisagrees : Disagrees key state)
    (hStep : mockStep state label = some next) :
    Disagrees key next := by
  rcases hDisagrees with
    ⟨call, call', request, request', result, result',
      hReturned, hReturned', hKeys⟩
  exact ⟨call, call', request, request', result, result',
    returned_step hStep hReturned,
    returned_step hStep hReturned', hKeys⟩

end PayGuard

------------------------------------------------------------
-- Every Interleaving
------------------------------------------------------------

namespace PayGuard

variable {state : MockRun}
variable {key : String}

/- The query by id finds the key the id was issued for. -/
theorem AnswersRecorded.getPaymentStatus_eq
    {truth : ProviderResult}
    {transactionId : String}
    (hRecorded : AnswersRecorded state)
    (hTruth : state.provider.trueOutcomes key = some truth)
    (hNamed :
      truth.providerTransactionId = some transactionId) :
    state.getPaymentStatus transactionId = truth := by
  have hMember :
      truth ∈ state.trueOutcomeKeys.filterMap
        state.provider.trueOutcomes :=
    List.mem_filterMap.mpr
      ⟨key, hRecorded.inserted key truth hTruth, hTruth⟩
  have hFound :
      (state.trueOutcomeKeys.filterMap
        state.provider.trueOutcomes).find? (fun result =>
          result.providerTransactionId =
            some transactionId) = some truth := by
    apply Table.find?_of_unique hMember
      (decide_eq_true hNamed)
    intro other hOther hSame
    rcases List.mem_filterMap.mp hOther with
      ⟨otherKey, -, hOtherTruth⟩
    have hIssued :=
      hRecorded.issuedTruth otherKey other transactionId
        hOtherTruth (of_decide_eq_true hSame)
    have hKeys :=
      hRecorded.apart _ hIssued _
        (hRecorded.issuedTruth key truth transactionId
          hTruth hNamed) rfl
    cases hKeys
    rw [hTruth] at hOtherTruth
    exact (Option.some.inj hOtherTruth).symm
  rw [MockRun.getPaymentStatus, hFound]
  rfl

theorem AnsweredOnce.idempotentFor
    (hOnce : AnsweredOnce key state) :
    IdempotentFor state key where
  sameResult := by
    intro call call' request request' result result'
      hReturned hReturned' hKey hKey'
    have hAnswer :=
      hOnce.returned call request result hReturned hKey
    rw [hOnce.returned call' request' result' hReturned'
      hKey'] at hAnswer
    exact (Option.some.inj hAnswer).symm
  oneId := hOnce.once
  queries := by
    intro call request result hReturned hKey hSucceeded
    rcases hOnce.recorded.succeeded key result
        (hOnce.returned call request result hReturned hKey)
        hSucceeded with
      ⟨hTruth, transactionId, hNamed⟩
    refine ⟨?_, transactionId, hNamed,
      hOnce.recorded.getPaymentStatus_eq hTruth hNamed⟩
    rw [MockProvider.getPaymentStatusByIdempotencyKey,
      hTruth]
    rfl

/-
  The calls with a key agree, after any interleaving, if and
  only if every call with it that has slept finds the key
  unanswered.
-/
theorem mock_provider_idempotent_iff
    (key : String)
    (labels : List MockLabel)
    (state : MockRun)
    (hRun : Lts.exec mockStep {} labels = some state)
    (hFresh : Lts.Meets mockStep FreshId {} labels) :
    IdempotentFor state key ↔
      Lts.Meets mockStep (WakesUnanswered key) {}
        labels := by
  have hEither :
      (Lts.Meets mockStep (WakesUnanswered key) {} labels ∧
          AnsweredOnce key state) ∨
        (¬ Lts.Meets mockStep (WakesUnanswered key) {}
            labels ∧
          Disagrees key state) :=
    Lts.kept_or_spoiled_of_meets
      (fun _ _ _ hOnce hFresh hWakes hStep =>
        answeredOnce_step hOnce hFresh hWakes hStep)
      (fun _ _ _ hOnce hFresh hMisses hStep =>
        disagrees_of_answered hOnce hFresh hMisses hStep)
      (fun _ _ _ hDisagrees _ hStep =>
        disagrees_step hDisagrees hStep)
      (answeredOnce_start key) hFresh hRun
  rcases hEither with
    ⟨hMeets, hOnce⟩ | ⟨hMisses, hDisagrees⟩
  · exact iff_of_true hOnce.idempotentFor hMeets
  · apply iff_of_false _ hMisses
    intro hIdempotent
    rcases hDisagrees with
      ⟨call, call', request, request', result, result',
        hReturned, hReturned', hKey, hKey', hDiffer⟩
    exact hDiffer
      (hIdempotent.sameResult call call' request request'
        result result' hReturned hReturned' hKey hKey')

def slowRequest : AuthorizeRequest where
  amountMinor := 100
  currency := "USD"
  token := "pm_demo_slow"
  idempotencyKey := "key"

/- One call sleeps and answers, the next finds the answer. -/
def slowThenCached : List MockLabel :=
  [.start 0 slowRequest "", .wake 0 "ptx_1",
    .start 1 slowRequest ""]

theorem mock_provider_idempotent_iff_cached :
    ∃ state,
      Lts.exec mockStep {} slowThenCached = some state ∧
        (state.calls 1).sleepsOn "key" = false ∧
        IdempotentFor state "key" := by
  have hRun :
      (Lts.exec mockStep {} slowThenCached).map
          (fun state => (state.calls 1).sleepsOn "key") =
        some false := by
    decide +kernel
  rcases Option.map_eq_some_iff.mp hRun with
    ⟨state, hExec, hReturned⟩
  exact ⟨state, hExec, hReturned,
    (mock_provider_idempotent_iff "key" _ _ hExec
      (by decide +kernel)).mpr (by decide +kernel)⟩

/- Two calls sleep, and both go on to authorize. -/
def slowTwice : List MockLabel :=
  [.start 0 slowRequest "", .start 1 slowRequest "",
    .wake 0 "ptx_1", .wake 1 "ptx_2"]

/- They end up with two transactions for one key. -/
theorem slow_calls_authorize_twice :
    ¬ ∀ (key : String) (labels : List MockLabel)
        (state : MockRun),
        Lts.exec mockStep {} labels = some state →
          Lts.Meets mockStep FreshId {} labels →
            IdempotentFor state key := by
  intro hClaim
  have hRun :
      (Lts.exec mockStep {} slowTwice).map
          (fun state => (state.calls 0, state.calls 1)) =
        some
          (.returned slowRequest
              (authorizedAnswer slowRequest "ptx_1"),
            .returned slowRequest
              (authorizedAnswer slowRequest "ptx_2")) := by
    decide +kernel
  rcases Option.map_eq_some_iff.mp hRun with
    ⟨state, hExec, hCalls⟩
  rw [Prod.mk.injEq] at hCalls
  have hSame :=
    (hClaim "key" slowTwice state hExec
      (by decide +kernel)).sameResult 0 1 _ _ _ _ hCalls.1
      hCalls.2 rfl rfl
  exact absurd hSame (by decide)

end PayGuard

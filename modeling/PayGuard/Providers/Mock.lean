import PayGuard.Providers.Base
import Mathlib.Data.List.Infix
import Mathlib.Logic.Function.Basic

/-
  The deterministic mock provider.

  A marker in the payment token picks the scenario.  Answers
  are kept by idempotency key: what the caller was told, and
  what truly happened.

  Key definitions include:
    * `scenarioFor`
    * `MockProvider`
    * `MockProvider.authorize`
    * `MockProvider.getPaymentStatusByIdempotencyKey`
-/

------------------------------------------------------------
-- Scenarios
------------------------------------------------------------

namespace PayGuard

inductive Scenario where
| declined
| timeout
| temporaryFailure
| unknownResult
| stillUnknown
| slow
deriving DecidableEq, Repr

/- The markers in the order they are looked for. -/
def scenarioMarkers : List (String × Scenario) :=
  [("declined", .declined),
    ("timeout", .timeout),
    ("temp_fail", .temporaryFailure),
    ("unknown_result", .unknownResult),
    ("still_unknown", .stillUnknown),
    ("slow", .slow)]

def scenarioFor (token : String) : Option Scenario :=
  (scenarioMarkers.find? (fun marker =>
    marker.1.toList <:+: token.toList)).map (·.2)

------------------------------------------------------------
-- Answers
------------------------------------------------------------

def declinedAnswer : ProviderResult where
  outcome := .declined
  providerTransactionId := none
  rawStatus := "card_declined"

def unavailableAnswer : ProviderResult where
  outcome := .temporaryFailure
  providerTransactionId := none
  rawStatus := "provider_unavailable"

def unknownAnswer (rawStatus : String) : ProviderResult where
  outcome := .unknown
  providerTransactionId := none
  rawStatus := rawStatus

def authorizedAnswer
    (request : AuthorizeRequest)
    (transactionId : String) : ProviderResult where
  outcome := .succeeded
  providerTransactionId := some transactionId
  rawStatus := "authorized"
  rawResponse :=
    { amountMinor := some request.amountMinor
      currency := some request.currency }

/- What the caller is told, and what truly happened. -/
def authorizeOutcome
    (request : AuthorizeRequest)
    (scenario : Option Scenario)
    (transactionId : String) :
    ProviderResult × ProviderResult :=
  match scenario with
  | some .declined => (declinedAnswer, declinedAnswer)
  | some .temporaryFailure =>
      (unavailableAnswer, unavailableAnswer)
  | some .timeout =>
      (unknownAnswer "no_response_received",
        authorizedAnswer request transactionId)
  | some .unknownResult =>
      (unknownAnswer "ambiguous_response", declinedAnswer)
  | some .stillUnknown =>
      (unknownAnswer "processing",
        unknownAnswer "processing")
  | _ =>
      (authorizedAnswer request transactionId,
        authorizedAnswer request transactionId)

------------------------------------------------------------
-- The Provider
------------------------------------------------------------

structure MockProvider where
  authorizations : String → Option ProviderResult :=
    fun _ => none
  trueOutcomes : String → Option ProviderResult :=
    fun _ => none

/- An answer, and the truth recorded with a new one. -/
structure Authorization where
  result : ProviderResult
  recorded : Option ProviderResult
deriving DecidableEq, Repr

namespace MockProvider

/- An uncached request in the slow scenario waits. -/
def sleeps
    (provider : MockProvider)
    (request : AuthorizeRequest) : Bool :=
  provider.authorizations request.idempotencyKey = none &&
    scenarioFor request.token = some .slow

/- The rest of a call that does not find its key. -/
def answerNew
    (request : AuthorizeRequest)
    (scenario : Option Scenario)
    (transactionId : String) : Authorization :=
  let outcome :=
    authorizeOutcome request scenario transactionId
  ⟨outcome.1, some outcome.2⟩

/-
  A call that has slept goes on as an ordinary one, without
  another look at the recorded answers.
-/
def authorize
    (provider : MockProvider)
    (request : AuthorizeRequest)
    (slept : Bool)
    (transactionId : String) : Authorization :=
  if slept then
    answerNew request none transactionId
  else
    match provider.authorizations
        request.idempotencyKey with
    | some cached => ⟨cached, none⟩
    | none =>
        answerNew request (scenarioFor request.token)
          transactionId

/- The recorded answers after an authorization. -/
def record
    (provider : MockProvider)
    (idempotencyKey : String)
    (authorization : Authorization) : MockProvider :=
  match authorization.recorded with
  | none => provider
  | some trueResult =>
      { authorizations :=
          Function.update provider.authorizations
            idempotencyKey (some authorization.result)
        trueOutcomes :=
          Function.update provider.trueOutcomes
            idempotencyKey (some trueResult) }

def capture
    (providerTransactionId : String)
    (amountMinor : Int) : ProviderResult where
  outcome := .succeeded
  providerTransactionId := some providerTransactionId
  rawStatus := "captured"
  rawResponse := { amountMinor := some amountMinor }

/- A refund reads its scenario from the idempotency key. -/
def refund
    (providerTransactionId : String)
    (amountMinor : Int)
    (idempotencyKey : String) : ProviderResult :=
  match scenarioFor idempotencyKey with
  | some .declined =>
      { outcome := .declined
        providerTransactionId := some providerTransactionId
        rawStatus := "refund_declined" }
  | some .temporaryFailure =>
      { outcome := .temporaryFailure
        providerTransactionId := some providerTransactionId
        rawStatus := "provider_unavailable" }
  | some .timeout | some .unknownResult
  | some .stillUnknown =>
      { outcome := .unknown
        providerTransactionId := some providerTransactionId
        rawStatus := "no_response_received" }
  | _ =>
      { outcome := .succeeded
        providerTransactionId := some providerTransactionId
        rawStatus := "refunded"
        rawResponse := { amountMinor := some amountMinor } }

def getPaymentStatusByIdempotencyKey
    (provider : MockProvider)
    (idempotencyKey : String) : ProviderResult :=
  (provider.trueOutcomes idempotencyKey).getD
    (unknownAnswer "not_found")

end MockProvider

/- A new answer names the drawn transaction or none. -/
theorem authorizeOutcome_transaction
    (request : AuthorizeRequest)
    (scenario : Option Scenario)
    (transactionId other : String)
    (hOther :
      (authorizeOutcome request scenario
          transactionId).1.providerTransactionId =
          some other ∨
        (authorizeOutcome request scenario
          transactionId).2.providerTransactionId =
          some other) :
    other = transactionId := by
  unfold authorizeOutcome at hOther
  split at hOther <;>
    simp [declinedAnswer, unavailableAnswer, unknownAnswer,
      authorizedAnswer] at hOther <;>
    exact hOther.symm

end PayGuard

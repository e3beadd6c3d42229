import PayGuard.Tenancy.Api
import PayGuard.Tenancy.Rows
import PayGuard.Tenancy.Steps

/-
  Merchants that share one provider do not interfere, as
  long as they keep their idempotency keys apart.

  The database keeps keys by merchant, the provider does
  not: it remembers an answer under the bare key.  A run in
  which no two sides create payments under one key projects
  to a run of the one side alone.

  Key definitions include:
    * `Tenant.apiFrame`
    * `Tenant.Issues`
    * `Tenant.KeysApart`

  Key theorems include:
    * `confined_apiStep`
    * `exec_restrictApi`
    * `apiStep_noninterference`
-/

------------------------------------------------------------
-- The Provider's Records
------------------------------------------------------------

namespace PayGuard

open Confinement

namespace Tenant

variable (tenant : Tenant)

/- The other side creates no payment under this key. -/
def mayUse (own : Bool) (key : String) : Bool :=
  match own with
  | true => !tenant.otherKeys key
  | false => !tenant.keys key

/- Recorded answers name transactions of the key's side. -/
def OwnsAnswers
    (answers : String → Option ProviderResult) : Prop :=
  ∀ key result,
    answers key = some result →
      (tenant.keys key = true ∨
          tenant.otherKeys key = true) ∧
        tenant.OwnsResult (tenant.keys key) result

structure OwnsAuthorization
    (own : Bool)
    (authorization : Authorization) : Prop where
  result : tenant.OwnsResult own authorization.result
  recorded :
    ∀ trueResult,
      authorization.recorded = some trueResult →
        tenant.OwnsResult own trueResult

structure ApartApi (api : Api) : Prop where
  system : tenant.Apart api.system
  authorizations :
    tenant.OwnsAnswers api.provider.authorizations
  trueOutcomes :
    tenant.OwnsAnswers api.provider.trueOutcomes

/- What the tenant sees of the API. -/
def restrictApi (api : Api) : Api where
  system := tenant.restrictSystem api.system
  provider :=
    { authorizations :=
        mask tenant.keys none api.provider.authorizations
      trueOutcomes :=
        mask tenant.keys none api.provider.trueOutcomes }
  sleeping := mask tenant.calls false api.sleeping

def apiFrame : Viewpoint Api where
  good := tenant.ApartApi
  view := tenant.restrictApi

end Tenant

variable {tenant : Tenant}
variable {own : Bool}
variable {call : CallId}
variable {key : String}

/- Keys of creations tell the two sides apart. -/
theorem keys_of_creates
    (hCreates : tenant.creates own key) :
    tenant.keys key = own := by
  cases own with
  | true => exact hCreates
  | false =>
      cases hKey : tenant.keys key with
      | false => rfl
      | true =>
          have hOther := tenant.apart key hKey
          rw [show tenant.otherKeys key = true from hCreates]
            at hOther
          cases hOther

theorem created_of_creates
    (hCreates : tenant.creates own key) :
    tenant.keys key = true ∨
      tenant.otherKeys key = true := by
  cases own with
  | true => exact .inl hCreates
  | false => exact .inr hCreates

/- The answer recorded under a key of one side. -/
theorem OwnsAnswers.update
    {answers : String → Option ProviderResult}
    {result : ProviderResult}
    (hAnswers : tenant.OwnsAnswers answers)
    (hCreates : tenant.creates own key)
    (hResult : tenant.OwnsResult own result) :
    tenant.OwnsAnswers
      (Function.update answers key (some result)) := by
  intro other found hFound
  by_cases hOther : other = key
  · subst hOther
    rw [Function.update_self] at hFound
    cases hFound
    rw [keys_of_creates hCreates]
    refine ⟨?_, hResult⟩
    have hEither := created_of_creates hCreates
    rw [keys_of_creates hCreates] at hEither
    exact hEither
  · rw [Function.update_of_ne hOther] at hFound
    exact hAnswers other found hFound

/- What a lookup of one side may find. -/
theorem ownsResult_of_lookup
    {provider : MockProvider}
    (hAnswers : tenant.OwnsAnswers provider.trueOutcomes)
    (hMay : tenant.mayUse own key = true) :
    tenant.OwnsResult own
      (provider.getPaymentStatusByIdempotencyKey key) := by
  unfold MockProvider.getPaymentStatusByIdempotencyKey
  cases hFound : provider.trueOutcomes key with
  | none =>
      intro transactionId hTransaction
      cases hTransaction
  | some result =>
      have hOwner := hAnswers key result hFound
      have hSide : tenant.keys key = own := by
        cases own with
        | true =>
            simp only [Tenant.mayUse, Bool.not_eq_true']
              at hMay
            rcases hOwner.1 with hKey | hKey
            · exact hKey
            · rw [hMay] at hKey
              cases hKey
        | false =>
            simpa [Tenant.mayUse] using hMay
      rw [hSide] at hOwner
      exact hOwner.2

/- A key without a shown answer has no answer at all. -/
theorem lookup_restrict
    {api : Api}
    (hApart : tenant.ApartApi api)
    (hMay : tenant.mayUse true key = true) :
    (tenant.restrictApi
        api).provider.getPaymentStatusByIdempotencyKey key =
      api.provider.getPaymentStatusByIdempotencyKey key := by
  unfold MockProvider.getPaymentStatusByIdempotencyKey
  congr 1
  simp only [Tenant.restrictApi]
  cases hKey : tenant.keys key with
  | true => exact mask_apply_of_shown hKey
  | false =>
      cases hFound : api.provider.trueOutcomes key with
      | none => simp [mask, hKey]
      | some result =>
          have hOwner :=
            hApart.trueOutcomes key result hFound
          simp [Tenant.mayUse] at hMay
          rcases hOwner.1 with hOwn | hOther
          · rw [hKey] at hOwn
            cases hOwn
          · rw [hMay] at hOther
            cases hOther

theorem sleeps_restrict
    {api : Api}
    {request : AuthorizeRequest}
    (hCreates : tenant.creates true request.idempotencyKey) :
    (tenant.restrictApi api).provider.sleeps request =
      api.provider.sleeps request := by
  have hKey := keys_of_creates hCreates
  simp [MockProvider.sleeps, Tenant.restrictApi, mask, hKey]

theorem authorization_restrict
    {api : Api}
    {request : CreateRequest}
    {transactionId : String}
    (hCall : tenant.calls call = true)
    (hCreates : tenant.creates true request.idempotencyKey) :
    (tenant.restrictApi api).authorization call request
        transactionId =
      api.authorization call request transactionId := by
  have hKey := keys_of_creates hCreates
  have hSleeps :
      (tenant.restrictApi api).provider.sleeps
          request.authorizeRequest =
        api.provider.sleeps request.authorizeRequest :=
    sleeps_restrict hCreates
  have hSleeping :
      (tenant.restrictApi api).sleeping call =
        api.sleeping call :=
    mask_apply_of_shown hCall
  have hAnswer :
      (tenant.restrictApi api).provider.authorizations
          request.authorizeRequest.idempotencyKey =
        api.provider.authorizations
          request.authorizeRequest.idempotencyKey :=
    mask_apply_of_shown hKey
  simp only [Api.authorization, MockProvider.authorize,
    hSleeps, hSleeping, hAnswer]

theorem ownsAuthorization_of_new
    {request : AuthorizeRequest}
    {scenario : Option Scenario}
    {transactionId : String}
    (hTransaction :
      tenant.transactions transactionId = own) :
    tenant.OwnsAuthorization own
      (MockProvider.answerNew request scenario
        transactionId) where
  result := by
    intro other hOther
    rw [authorizeOutcome_transaction request scenario
      transactionId other (.inl hOther)]
    exact hTransaction
  recorded := by
    intro trueResult hTrue other hOther
    cases hTrue
    rw [authorizeOutcome_transaction request scenario
      transactionId other (.inr hOther)]
    exact hTransaction

/- An authorization answers with its own side's result. -/
theorem ownsAuthorization
    {api : Api}
    {request : CreateRequest}
    {transactionId : String}
    {authorization : Authorization}
    (hApart : tenant.ApartApi api)
    (hCreates : tenant.creates own request.idempotencyKey)
    (hTransaction :
      tenant.transactions transactionId = own)
    (hAuthorization :
      api.authorization call request transactionId =
        some authorization) :
    tenant.OwnsAuthorization own authorization := by
  unfold Api.authorization at hAuthorization
  split at hAuthorization
  · cases hAuthorization
  · simp only [Option.some.injEq] at hAuthorization
    subst hAuthorization
    unfold MockProvider.authorize
    split
    · exact ownsAuthorization_of_new hTransaction
    · split
      · rename_i cached hCached
        have hOwner :=
          hApart.authorizations _ cached hCached
        rw [show tenant.keys
            request.authorizeRequest.idempotencyKey = own
          from keys_of_creates hCreates] at hOwner
        refine ⟨hOwner.2, ?_⟩
        intro trueResult hTrue
        cases hTrue
      · exact ownsAuthorization_of_new hTransaction

end PayGuard

------------------------------------------------------------
-- Steps Of The Api
------------------------------------------------------------

namespace PayGuard

open Confinement

variable {tenant : Tenant}
variable {own : Bool}
variable {config : Config}
variable {call : CallId}
variable {draw : Draw}

/- A step of the services, then a write of the rest. -/
theorem confinedStep_serve
    {serve : System → Option System}
    {change : Api → Api}
    (hServe : ConfinedStep tenant.systemFrame own serve)
    (hChange : ConfinedWrite tenant.apiFrame own change) :
    ConfinedStep tenant.apiFrame own
      (fun api =>
        (serve api.system).map (fun system =>
          change { api with system := system })) where
  good := by
    intro api next hApart hStep
    rcases Option.map_eq_some_iff.mp hStep with
      ⟨system, hSystem, rfl⟩
    have hMiddle :
        tenant.ApartApi { api with system := system } :=
      { hApart with
        system :=
          hServe.good api.system system hApart.system
            hSystem }
    exact hChange.good _ hMiddle
  inside := by
    intro hOwn api next hApart hStep
    rcases Option.map_eq_some_iff.mp hStep with
      ⟨system, hSystem, rfl⟩
    have hMiddle :
        tenant.ApartApi { api with system := system } :=
      { hApart with
        system :=
          hServe.good api.system system hApart.system
            hSystem }
    have hView :=
      hServe.inside hOwn api.system system hApart.system
        hSystem
    refine Option.map_eq_some_iff.mpr
      ⟨tenant.systemFrame.view system, hView, ?_⟩
    rw [hChange.inside hOwn _ hMiddle]
    rfl
  outside := by
    intro hOwn api next hApart hStep
    rcases Option.map_eq_some_iff.mp hStep with
      ⟨system, hSystem, rfl⟩
    have hMiddle :
        tenant.ApartApi { api with system := system } :=
      { hApart with
        system :=
          hServe.good api.system system hApart.system
            hSystem }
    have hView :=
      hServe.outside hOwn api.system system hApart.system
        hSystem
    simp only [Tenant.systemFrame] at hView
    rw [hChange.outside hOwn _ hMiddle]
    simp only [Tenant.apiFrame, Tenant.restrictApi, hView]

/- A write that does nothing. -/
theorem confined_id :
    ConfinedWrite tenant.apiFrame own (fun api => api) where
  good := fun _ hApart => hApart
  inside := fun _ _ _ => rfl
  outside := fun _ _ _ => rfl

/- A step of the services alone. -/
theorem confinedStep_served
    (action : Action)
    (hStep :
      ConfinedStep tenant.systemFrame own
        (fun system =>
          callStep config system call draw action)) :
    ConfinedStep tenant.apiFrame own
      (fun api =>
        (step config api.system ⟨call, action, draw⟩).map
          (fun system => { api with system := system })) :=
  confinedStep_serve (confined_step hStep) confined_id

/- A step that depends on the position of its own call. -/
theorem confinedStep_apiPosition
    {step : Api → Option Api}
    (hCall : tenant.calls call = own)
    (hBranch :
      ∀ position,
        tenant.OwnsCall own position →
          ∃ branch,
            ConfinedStep tenant.apiFrame own branch ∧
              ∀ api : Api,
                api.system.calls call = position →
                  step api = branch api) :
    ConfinedStep tenant.apiFrame own step := by
  apply ConfinedStep.split
    (fun api : Api => api.system.calls call)
    (tenant.OwnsCall own)
  · intro api hApart
    have hOwner := hApart.system.calls call
    rw [hCall] at hOwner
    exact hOwner
  · rintro rfl api _
    exact mask_apply_of_shown hCall
  · exact hBranch

/- Answers are recorded under the keys of their side. -/
theorem confined_record
    {key : String}
    {authorization : Authorization}
    (hCall : tenant.calls call = own)
    (hCreates : tenant.creates own key)
    (hOwner : tenant.OwnsAuthorization own authorization) :
    ConfinedWrite tenant.apiFrame own
      (fun api =>
        { api with
          provider := api.provider.record key authorization
          sleeping :=
            Function.update api.sleeping call false }) where
  good := by
    intro api hApart
    cases hRecorded : authorization.recorded with
    | none =>
        simp only [MockProvider.record, hRecorded]
        exact { hApart with }
    | some trueResult =>
        simp only [MockProvider.record, hRecorded]
        exact
          { hApart with
            authorizations :=
              OwnsAnswers.update hApart.authorizations
                hCreates hOwner.result
            trueOutcomes :=
              OwnsAnswers.update hApart.trueOutcomes
                hCreates
                (hOwner.recorded trueResult hRecorded) }
  inside := by
    rintro rfl api _
    have hKey := keys_of_creates hCreates
    cases hRecorded : authorization.recorded with
    | none =>
        simp only [MockProvider.record, hRecorded,
          Tenant.apiFrame, Tenant.restrictApi,
          mask_update_of_shown hCall]
    | some trueResult =>
        simp only [MockProvider.record, hRecorded,
          Tenant.apiFrame, Tenant.restrictApi,
          mask_update_of_shown hCall,
          mask_update_of_shown hKey]
  outside := by
    rintro rfl api _
    have hKey := keys_of_creates hCreates
    cases hRecorded : authorization.recorded with
    | none =>
        simp only [MockProvider.record, hRecorded,
          Tenant.apiFrame, Tenant.restrictApi,
          mask_update_of_hidden hCall]
    | some trueResult =>
        simp only [MockProvider.record, hRecorded,
          Tenant.apiFrame, Tenant.restrictApi,
          mask_update_of_hidden hCall,
          mask_update_of_hidden hKey]

theorem confined_fallAsleep
    (hCall : tenant.calls call = own) :
    ConfinedWrite tenant.apiFrame own
      (fun api =>
        { api with
          sleeping :=
            Function.update api.sleeping call true }) where
  good := by
    intro api hApart
    exact { hApart with }
  inside := by
    rintro rfl api _
    simp only [Tenant.apiFrame, Tenant.restrictApi,
      mask_update_of_shown hCall]
  outside := by
    rintro rfl api _
    simp only [Tenant.apiFrame, Tenant.restrictApi,
      mask_update_of_hidden hCall]

theorem confined_apiSleep
    (hCall : tenant.calls call = own) :
    ConfinedStep tenant.apiFrame own
      (fun api => apiSleep api call) := by
  apply confinedStep_apiPosition hCall
  intro position hOwner
  cases position with
  | createAssessed request key intent level =>
      refine ⟨_, ?_, fun api hPosition => by
        simp only [apiSleep, hPosition, Call.authorizing]
        rfl⟩
      apply ConfinedStep.guard (fun api : Api =>
        api.sleeping call = false ∧
          api.provider.sleeps request.authorizeRequest = true)
      · exact ConfinedStep.write (confined_fallAsleep hCall)
      · rintro rfl api _ ⟨hAwake, hSleeps⟩
        refine ⟨?_, ?_⟩
        · exact (mask_apply_of_shown hCall).trans hAwake
        · exact (sleeps_restrict hOwner.creates).trans hSleeps
  | _ =>
      refine ⟨_, ConfinedStep.none, ?_⟩
      intro api hPosition
      simp only [apiSleep, hPosition, Call.authorizing]

theorem confined_apiAuthorize
    {transactionId : String}
    (hCall : tenant.calls call = own)
    (hTransaction :
      tenant.transactions transactionId = own) :
    ConfinedStep tenant.apiFrame own
      (fun api =>
        apiAuthorize config api
          ⟨call, .createAuthorize, draw, transactionId⟩) := by
  apply confinedStep_apiPosition hCall
  intro position hOwner
  cases position with
  | createAssessed request key intent level =>
      refine ⟨_, ?_, fun api hPosition => by
        simp only [apiAuthorize, hPosition,
          Call.authorizing]
        rfl⟩
      apply ConfinedStep.split
        (fun api : Api =>
          api.authorization call request transactionId)
        (fun found =>
          ∀ authorization,
            found = some authorization →
              tenant.OwnsAuthorization own authorization)
      · intro api hApart authorization hFound
        exact ownsAuthorization hApart hOwner.creates
          hTransaction hFound
      · rintro rfl api _
        exact authorization_restrict hCall hOwner.creates
      · intro found hFound
        cases found with
        | none =>
            refine ⟨_, ConfinedStep.none, ?_⟩
            intro api hSeen
            simp only [hSeen]
        | some authorization =>
            have hAnswer := hFound authorization rfl
            have hServe :
                ConfinedStep tenant.systemFrame own
                  (fun system =>
                    callStep config system call draw
                      (.createAuthorize
                        authorization.result)) :=
              confined_stepCreateAuthorize hCall
                hAnswer.result
            refine ⟨_, confinedStep_serve
              (confined_step hServe)
              (confined_record hCall hOwner.creates
                hAnswer), ?_⟩
            intro api hSeen
            simp only [hSeen]
  | _ =>
      refine ⟨_, ConfinedStep.none, ?_⟩
      intro api hPosition
      simp only [apiAuthorize, hPosition, Call.authorizing]

end PayGuard

------------------------------------------------------------
-- Keys Kept Apart
------------------------------------------------------------

namespace PayGuard

open Confinement

/- The merchant a request comes from. -/
def ApiAction.merchant : ApiAction → Option Uuid
| .createBegin request => some request.merchantId
| .captureBegin request => some request.merchantId
| .refundBegin request => some request.merchantId
| .reconcileLoad _ merchantId => some merchantId
| _ => none

namespace Tenant

variable (tenant : Tenant)

/-
  A call is made for one side: the request is its merchant's
  and the identifiers drawn for it are new to the other.
-/
structure Issues (label : ApiLabel) : Prop where
  draw :
    tenant.OwnsDraw (tenant.calls label.call) label.draw
  transaction :
    tenant.transactions label.transactionId =
      tenant.calls label.call
  merchant :
    ∀ merchantId,
      label.action.merchant = some merchantId →
        tenant.isMerchant (tenant.calls label.call)
          merchantId

/- A reconciliation asks about no key of the other side. -/
def mayAsk
    (own : Bool)
    (action : ApiAction)
    (position : Call) : Bool :=
  match action with
  | .reconcileAnswer =>
      match position with
      | .reconcileAsking _ key => tenant.mayUse own key
      | _ => true
  | _ => true

/- No key of one side reaches the provider for the other. -/
structure KeysApart
    (api : Api)
    (label : ApiLabel) : Prop where
  creates :
    ∀ request,
      label.action = .createBegin request →
        tenant.creates (tenant.calls label.call)
          request.idempotencyKey
  asks :
    tenant.mayAsk (tenant.calls label.call) label.action
      (api.system.calls label.call) = true

/- The steps that keep to this. -/
def guardedStep
    (config : Config)
    (label : ApiLabel)
    (api : Api) : Option Api :=
  if tenant.mayAsk (tenant.calls label.call) label.action
      (api.system.calls label.call) then
    apiStep config api label
  else
    none

end Tenant

variable {tenant : Tenant}
variable {own : Bool}
variable {config : Config}
variable {call : CallId}
variable {draw : Draw}
variable {transactionId : String}

theorem confined_captureAnswered
    (hCall : tenant.calls call = own) :
    ConfinedStep tenant.apiFrame own
      (fun api =>
        apiStep config api
          ⟨call, .captureFinish, draw, transactionId⟩) := by
  apply confinedStep_apiPosition hCall
  intro position hOwner
  cases position with
  | captureOpen request keyRow intent transaction =>
      let result :=
        MockProvider.capture
          transaction.providerTransactionId
          intent.amountMinor
      have hServe :
          ConfinedStep tenant.systemFrame own
            (fun system =>
              callStep config system call draw
                (.captureFinish result)) :=
        confined_stepCaptureFinish hCall
      refine ⟨_, confinedStep_served _ hServe, ?_⟩
      intro api hPosition
      simp only [apiStep, Api.serve, hPosition]
      rfl
  | _ =>
      refine ⟨_, ConfinedStep.none, ?_⟩
      intro api hPosition
      simp only [apiStep, Api.serve, hPosition]

theorem confined_refundAnswered
    (hCall : tenant.calls call = own) :
    ConfinedStep tenant.apiFrame own
      (fun api =>
        apiStep config api
          ⟨call, .refundAnswer, draw, transactionId⟩) := by
  apply confinedStep_apiPosition hCall
  intro position hOwner
  cases position with
  | refundReserved request key reservation =>
      let result :=
        MockProvider.refund
          reservation.transaction.providerTransactionId
          reservation.refund.amountMinor
          request.idempotencyKey
      have hServe :
          ConfinedStep tenant.systemFrame own
            (fun system =>
              callStep config system call draw
                (.refundAnswer result
                  (result.outcome = .succeeded))) :=
        confined_stepRefundAnswer hCall
      refine ⟨_, confinedStep_served _ hServe, ?_⟩
      intro api hPosition
      simp only [apiStep, Api.serve, hPosition]
      rfl
  | _ =>
      refine ⟨_, ConfinedStep.none, ?_⟩
      intro api hPosition
      simp only [apiStep, Api.serve, hPosition]

/- Only a lookup depends on what the other side records. -/
theorem confined_lookup
    (hCall : tenant.calls call = own) :
    ConfinedStep tenant.apiFrame own
      (tenant.guardedStep config
        ⟨call, .reconcileAnswer, draw, transactionId⟩) := by
  apply confinedStep_apiPosition hCall
  intro position hOwner
  cases position with
  | reconcileAsking intent key =>
      cases hMay : tenant.mayUse own key with
      | false =>
          refine ⟨_, ConfinedStep.none, ?_⟩
          intro api hPosition
          simp [Tenant.guardedStep, Tenant.mayAsk,
            hPosition, hCall, hMay]
      | true =>
          refine ⟨_, ?_, fun api hPosition => by
            simp only [Tenant.guardedStep, Tenant.mayAsk,
              hPosition, hCall, hMay, if_true, apiStep,
              Api.serve]
            rfl⟩
          apply ConfinedStep.split
            (fun api : Api =>
              api.provider.getPaymentStatusByIdempotencyKey
                key)
            (tenant.OwnsResult own)
          · intro api hApart
            exact ownsResult_of_lookup hApart.trueOutcomes
              hMay
          · rintro rfl api hApart
            exact lookup_restrict hApart hMay
          · intro result hResult
            have hServe :
                ConfinedStep tenant.systemFrame own
                  (fun system =>
                    callStep config system call draw
                      (.reconcileAnswer result)) :=
              confined_stepReconcileAnswer hCall hResult
            refine ⟨_, confinedStep_served _ hServe, ?_⟩
            intro api hSeen
            simp only [hSeen]
  | _ =>
      refine ⟨_, ConfinedStep.none, ?_⟩
      intro api hPosition
      simp [Tenant.guardedStep, Tenant.mayAsk, hPosition,
        apiStep, Api.serve]

/- Every step of the API is confined to its own side. -/
theorem confined_apiStep
    {label : ApiLabel}
    (hIssues : tenant.Issues label)
    (hCreates :
      ∀ request,
        label.action = .createBegin request →
          tenant.creates (tenant.calls label.call)
            request.idempotencyKey) :
    ConfinedStep tenant.apiFrame (tenant.calls label.call)
      (tenant.guardedStep config label) := by
  rcases label with ⟨call, action, draw, transactionId⟩
  have hDraw := hIssues.draw
  cases action with
  | createBegin request =>
      exact confinedStep_served (.createBegin request)
        (confined_stepCreateBegin rfl (hIssues.merchant _ rfl)
          (hCreates request rfl) hDraw)
  | createProcess =>
      exact confinedStep_served .createProcess
        (confined_stepCreateProcess rfl)
  | createAssess =>
      exact confinedStep_served .createAssess
        (confined_stepCreateAssess rfl)
  | createBlock =>
      exact confinedStep_served .createBlock
        (confined_stepCreateBlock rfl)
  | createSleep => exact confined_apiSleep rfl
  | createAuthorize =>
      exact confined_apiAuthorize rfl hIssues.transaction
  | createFinish =>
      exact confinedStep_served .createFinish
        (confined_stepCreateFinish rfl hDraw)
  | captureBegin request =>
      exact confinedStep_served (.captureBegin request)
        (confined_stepCaptureBegin rfl
          (hIssues.merchant _ rfl) hDraw)
  | captureFinish => exact confined_captureAnswered rfl
  | refundBegin request =>
      exact confinedStep_served (.refundBegin request)
        (confined_stepRefundBegin rfl
          (hIssues.merchant _ rfl) hDraw)
  | refundAnswer => exact confined_refundAnswered rfl
  | refundFinish =>
      exact confinedStep_served .refundFinish
        (confined_stepRefundFinish rfl)
  | reconcileLoad paymentId merchantId =>
      exact confinedStep_served
        (.reconcileLoad paymentId merchantId)
        (confined_stepReconcileLoad rfl
          (hIssues.merchant merchantId rfl))
  | reconcileNext pick =>
      exact confinedStep_served (.reconcileNext pick)
        (confined_stepReconcileNext rfl)
  | reconcileAnswer => exact confined_lookup rfl
  | reconcileApply =>
      exact confinedStep_served .reconcileApply
        (confined_stepReconcileApply rfl hDraw)
  | reconcileReport =>
      exact confinedStep_served .reconcileReport
        (confined_stepReconcileReport rfl)
  | failRead =>
      exact confinedStep_served .failRead
        (confined_stepFailRead rfl)
  | failWrite =>
      exact confinedStep_served .failWrite
        (confined_stepFailWrite rfl)

end PayGuard

------------------------------------------------------------
-- Rows Of A Merchant
------------------------------------------------------------

namespace PayGuard

variable {tenant : Tenant}
variable {db : Database}

/- The tenant's payments carry its identifiers. -/
theorem ids_of_merchant
    {row : PaymentIntent}
    (hSeparated : tenant.Separated db)
    (hRow : row ∈ db.payments)
    (hMerchant : row.merchantId = tenant.merchantId) :
    tenant.ids row.id = true := by
  have hOwner := (hSeparated.payments row hRow).merchant
  unfold Tenant.isMerchant at hOwner
  rw [decide_eq_true hMerchant] at hOwner
  exact hOwner.symm

theorem ids_of_holdsPayment
    {paymentId : Uuid}
    (hSeparated : tenant.Separated db)
    (hHolds :
      db.holdsPayment tenant.merchantId paymentId = true) :
    tenant.ids paymentId = true := by
  rcases List.any_eq_true.mp hHolds with
    ⟨row, hRow, hColumns⟩
  have hBoth := of_decide_eq_true hColumns
  rw [← hBoth.1]
  exact ids_of_merchant hSeparated hRow hBoth.2

theorem holdsPayment_restrict
    (hSeparated : tenant.Separated db)
    (paymentId : Uuid) :
    (tenant.restrict db).holdsPayment tenant.merchantId
        paymentId =
      db.holdsPayment tenant.merchantId paymentId := by
  apply Table.any_of_kept
  intro row hRow hWanted
  exact ids_of_merchant hSeparated hRow
    (of_decide_eq_true hWanted).2

theorem ids_of_holdsAttempt
    {attemptId : Uuid}
    (hSeparated : tenant.Separated db)
    (hHolds :
      db.holdsAttempt tenant.merchantId attemptId = true) :
    tenant.ids attemptId = true := by
  rcases List.any_eq_true.mp hHolds with
    ⟨row, hRow, hColumns⟩
  have hBoth := of_decide_eq_true hColumns
  rw [← hBoth.1, ← hSeparated.attempts row hRow]
  exact ids_of_holdsPayment hSeparated hBoth.2

theorem holdsAttempt_restrict
    (hSeparated : tenant.Separated db)
    (attemptId : Uuid) :
    (tenant.restrict db).holdsAttempt tenant.merchantId
        attemptId =
      db.holdsAttempt tenant.merchantId attemptId := by
  simp only [Database.holdsAttempt,
    holdsPayment_restrict hSeparated]
  apply Table.any_of_kept
  intro row _ hWanted
  exact ids_of_holdsPayment hSeparated
    (of_decide_eq_true hWanted).2

/- The rows of its payments are among those of its side. -/
theorem filter_holdsPayment
    {R : Type}
    (hSeparated : tenant.Separated db)
    (owner : R → Uuid)
    (rows : List R) :
    (rows.filter (fun row => tenant.ids (owner row))).filter
        (fun row =>
          db.holdsPayment tenant.merchantId (owner row)) =
      rows.filter (fun row =>
        db.holdsPayment tenant.merchantId (owner row)) := by
  apply Table.filter_of_kept
  intro row _ hWanted
  exact ids_of_holdsPayment hSeparated hWanted

/- A merchant's rows are all among those of its side. -/
theorem rowsOf_restrict
    (hSeparated : tenant.Separated db) :
    (tenant.restrict db).rowsOf tenant.merchantId =
      db.rowsOf tenant.merchantId := by
  simp only [Database.rowsOf,
    holdsPayment_restrict hSeparated,
    holdsAttempt_restrict hSeparated, Database.mk.injEq]
  refine ⟨?_, ?_, ?_, ?_, ?_, ?_, ?_, trivial, ?_, ?_, ?_⟩
  · apply Table.filter_of_kept
    intro row hRow hWanted
    exact ids_of_merchant hSeparated hRow
      (of_decide_eq_true hWanted)
  · exact filter_holdsPayment hSeparated _ _
  · apply Table.filter_of_kept
    intro row _ hWanted
    exact ids_of_holdsAttempt hSeparated hWanted
  · apply Table.filter_of_kept
    intro row hRow hWanted
    have hOwner := (hSeparated.keys row hRow).merchant
    unfold Tenant.isMerchant at hOwner
    rw [hWanted] at hOwner
    exact hOwner.symm
  · exact filter_holdsPayment hSeparated _ _
  · exact filter_holdsPayment hSeparated _ _
  · exact filter_holdsPayment hSeparated _ _
  · exact filter_holdsPayment hSeparated _ _
  · exact filter_holdsPayment hSeparated _ _
  · exact filter_holdsPayment hSeparated _ _

end PayGuard

------------------------------------------------------------
-- Two Runs
------------------------------------------------------------

namespace PayGuard

open Confinement

variable {tenant : Tenant}
variable {config : Config}
variable {labels : List ApiLabel}
variable {final : Api}

/- The steps of the tenant's own calls. -/
def Tenant.isOwn
    (tenant : Tenant)
    (label : ApiLabel) : Bool :=
  tenant.calls label.call

theorem apartApi_start :
    tenant.ApartApi {} where
  system :=
    { db := separated_empty
      calls := fun _ => trivial
      paymentLock := fun _ _ hLock => by cases hLock
      keyLock := fun _ _ hLock => by cases hLock }
  authorizations := fun _ _ hAnswer => by cases hAnswer
  trueOutcomes := fun _ _ hAnswer => by cases hAnswer

theorem restrictApi_start :
    tenant.restrictApi {} = {} := by
  simp [Tenant.restrictApi, Tenant.restrictSystem,
    Tenant.restrict]

/-
  The tenant's steps of a run are a run by themselves, and
  they end in what the tenant sees of the whole run's end.
-/
theorem exec_restrictApi
    (hIssues : ∀ label ∈ labels, tenant.Issues label)
    (hKeys :
      Lts.Meets (apiStep config) tenant.KeysApart {} labels)
    (hRun :
      Lts.exec (apiStep config) {} labels = some final) :
    tenant.ApartApi final ∧
      Lts.exec (apiStep config) {}
          (labels.filter tenant.isOwn) =
        some (tenant.restrictApi final) := by
  have hMeets :
      Lts.Meets (apiStep config)
        (fun api label =>
          tenant.Issues label ∧ tenant.KeysApart api label)
        {} labels :=
    (Lts.meets_of_forall
      (fun label hLabel _ => hIssues label hLabel)).and hKeys
  have hGuarded :
      ∀ api label,
        tenant.KeysApart api label →
          tenant.guardedStep config label api =
            apiStep config api label := by
    intro api label hApart
    simp only [Tenant.guardedStep, hApart.asks, if_true]
  have hKeep :
      ∀ api label next,
        tenant.ApartApi api →
          tenant.Issues label ∧ tenant.KeysApart api label →
            apiStep config api label = some next →
              tenant.ApartApi next := by
    rintro api label next hApart ⟨hIssue, hKey⟩ hStep
    rw [← hGuarded api label hKey] at hStep
    exact (confined_apiStep hIssue hKey.creates).good api
      next hApart hStep
  refine ⟨Lts.invariant_of_meets hKeep apartApi_start hMeets
    hRun, ?_⟩
  have hHidden :
      ∀ api label next,
        tenant.ApartApi api →
          tenant.Issues label ∧ tenant.KeysApart api label →
            tenant.isOwn label = false →
              apiStep config api label = some next →
                tenant.restrictApi next =
                  tenant.restrictApi api := by
    rintro api label next hApart ⟨hIssue, hKey⟩ hOwn hStep
    rw [← hGuarded api label hKey] at hStep
    exact (confined_apiStep hIssue hKey.creates).outside
      hOwn api next hApart hStep
  have hVisible :
      ∀ api label next,
        tenant.ApartApi api →
          tenant.Issues label ∧ tenant.KeysApart api label →
            tenant.isOwn label = true →
              apiStep config api label = some next →
                apiStep config (tenant.restrictApi api)
                    label =
                  some (tenant.restrictApi next) := by
    rintro api label next hApart ⟨hIssue, hKey⟩ hOwn hStep
    rw [← hGuarded api label hKey] at hStep
    have hView :=
      (confined_apiStep hIssue hKey.creates).inside hOwn
        api next hApart hStep
    unfold Tenant.guardedStep at hView
    split at hView
    · exact hView
    · cases hView
  have hProject :=
    Lts.exec_project hKeep hHidden hVisible apartApi_start
      hMeets hRun
  rw [restrictApi_start] at hProject
  exact hProject

/-
  Two runs in which the tenant takes the same steps, with
  anything in between.  The tenant's calls end alike, with
  the same responses, and leave the same rows.
-/
theorem noninterference_of_keysApart
    {first second : List ApiLabel}
    {one other : Api}
    (hFirstIssues :
      ∀ label ∈ first, tenant.Issues label)
    (hSecondIssues :
      ∀ label ∈ second, tenant.Issues label)
    (hSame :
      first.filter tenant.isOwn =
        second.filter tenant.isOwn)
    (hFirstKeys :
      Lts.Meets (apiStep config) tenant.KeysApart {} first)
    (hSecondKeys :
      Lts.Meets (apiStep config) tenant.KeysApart {} second)
    (hFirst :
      Lts.exec (apiStep config) {} first = some one)
    (hSecond :
      Lts.exec (apiStep config) {} second = some other) :
    (∀ call,
        tenant.calls call = true →
          one.system.calls call = other.system.calls call) ∧
      one.system.db.rowsOf tenant.merchantId =
        other.system.db.rowsOf tenant.merchantId := by
  rcases exec_restrictApi hFirstIssues hFirstKeys hFirst with
    ⟨hOneApart, hOne⟩
  rcases exec_restrictApi hSecondIssues hSecondKeys
      hSecond with
    ⟨hOtherApart, hOther⟩
  rw [hSame, hOther, Option.some.injEq] at hOne
  constructor
  · intro call hCall
    have hCalls :=
      congrArg (fun api : Api => api.system.calls call) hOne
    simp only [Tenant.restrictApi, Tenant.restrictSystem,
      mask_apply_of_shown hCall] at hCalls
    exact hCalls.symm
  · have hRows :=
      congrArg (fun api : Api =>
        api.system.db.rowsOf tenant.merchantId) hOne
    simp only [Tenant.restrictApi, Tenant.restrictSystem]
      at hRows
    rw [rowsOf_restrict hOneApart.system.db,
      rowsOf_restrict hOtherApart.system.db] at hRows
    exact hRows.symm

/- One call creates a payment of 100 from start to end. -/
def createSteps
    (call number : Nat)
    (merchantId : Uuid)
    (idempotencyKey paymentToken transactionId : String) :
    List ApiLabel :=
  [⟨call, .createBegin
      { merchantId := merchantId
        idempotencyKey := idempotencyKey
        amountMinor := 100
        currency := "USD"
        paymentToken := paymentToken },
      .numbered number, transactionId⟩,
    ⟨call, .createProcess, .numbered (number + 1),
      transactionId⟩,
    ⟨call, .createAssess, .numbered (number + 2),
      transactionId⟩,
    ⟨call, .createAuthorize, .numbered (number + 3),
      transactionId⟩,
    ⟨call, .createFinish, .numbered (number + 4),
      transactionId⟩]

/- Merchant 2 owns call 1 and the numbers from 100 on. -/
def secondMerchant : Tenant where
  merchantId := 2
  calls := fun call => call = 1
  ids := fun id => 100 ≤ id
  transactions := fun transactionId =>
    transactionId = "txn-2"
  keys := fun key => key = "order-2"
  otherKeys := fun key => key = "order-1"
  apart := by
    intro key hKey
    rw [of_decide_eq_true hKey]
    rfl

theorem issues_createSteps
    {call number : Nat}
    {merchantId : Uuid}
    {idempotencyKey paymentToken transactionId : String}
    (hIds :
      ∀ offset < 5,
        tenant.ids (number + offset) = tenant.calls call)
    (hTransaction :
      tenant.transactions transactionId = tenant.calls call)
    (hMerchant :
      tenant.isMerchant (tenant.calls call) merchantId) :
    ∀ label ∈
        createSteps call number merchantId idempotencyKey
          paymentToken transactionId,
      tenant.Issues label := by
  have hDraw :
      ∀ offset < 5,
        tenant.OwnsDraw (tenant.calls call)
          (.numbered (number + offset)) := by
    intro offset hOffset
    have hId := hIds offset hOffset
    exact ⟨hId, hId, hId, hId⟩
  intro label hLabel
  simp only [createSteps, List.mem_cons, List.not_mem_nil,
    or_false] at hLabel
  rcases hLabel with rfl | rfl | rfl | rfl | rfl
  · refine ⟨hDraw 0 (by decide), hTransaction, ?_⟩
    intro other hOther
    cases hOther
    exact hMerchant
  · exact ⟨hDraw 1 (by decide), hTransaction,
      by simp [ApiAction.merchant]⟩
  · exact ⟨hDraw 2 (by decide), hTransaction,
      by simp [ApiAction.merchant]⟩
  · exact ⟨hDraw 3 (by decide), hTransaction,
      by simp [ApiAction.merchant]⟩
  · exact ⟨hDraw 4 (by decide), hTransaction,
      by simp [ApiAction.merchant]⟩

theorem keysApart_createSteps
    {call number : Nat}
    {merchantId : Uuid}
    {idempotencyKey paymentToken transactionId : String}
    (hCreates :
      tenant.creates (tenant.calls call) idempotencyKey) :
    ∀ label ∈
        createSteps call number merchantId idempotencyKey
          paymentToken transactionId,
      ∀ api, tenant.KeysApart api label := by
  intro label hLabel api
  simp only [createSteps, List.mem_cons, List.not_mem_nil,
    or_false] at hLabel
  rcases hLabel with rfl | rfl | rfl | rfl | rfl
  · refine ⟨?_, rfl⟩
    intro request hRequest
    cases hRequest
    exact hCreates
  · exact ⟨by simp, rfl⟩
  · exact ⟨by simp, rfl⟩
  · exact ⟨by simp, rfl⟩
  · exact ⟨by simp, rfl⟩

/- Merchant 1 is declined before merchant 2 is served. -/
def declinedBefore
    (idempotencyKey : String) : List ApiLabel :=
  createSteps 0 1 1 idempotencyKey "tok_declined" "txn-1" ++
    createSteps 1 100 2 "order-2" "tok_visa" "txn-2"

theorem issues_secondAlone :
    ∀ label ∈
        createSteps 1 100 2 "order-2" "tok_visa" "txn-2",
      secondMerchant.Issues label :=
  issues_createSteps (by decide) rfl rfl

theorem issues_declinedBefore
    (idempotencyKey : String) :
    ∀ label ∈ declinedBefore idempotencyKey,
      secondMerchant.Issues label := by
  intro label hLabel
  rcases List.mem_append.mp hLabel with hOther | hOwn
  · exact issues_createSteps (by decide) rfl (by exact rfl)
      label hOther
  · exact issues_secondAlone label hOwn

/- Under its own key the first merchant is not noticed. -/
theorem noninterference_of_keysApart_declined :
    ∃ one other,
      Lts.exec (apiStep { sha256 := spellOut }) {}
          (declinedBefore "order-1") = some one ∧
        Lts.exec (apiStep { sha256 := spellOut }) {}
            (createSteps 1 100 2 "order-2" "tok_visa"
              "txn-2") = some other ∧
        one.system.calls 1 = other.system.calls 1 ∧
        one.system.db.rowsOf 2 =
          other.system.db.rowsOf 2 := by
  have hFirstRuns :
      (Lts.exec (apiStep { sha256 := spellOut }) {}
        (declinedBefore "order-1")).isSome = true := by
    decide +kernel
  have hSecondRuns :
      (Lts.exec (apiStep { sha256 := spellOut }) {}
        (createSteps 1 100 2 "order-2" "tok_visa"
          "txn-2")).isSome = true := by
    decide +kernel
  rcases Option.isSome_iff_exists.mp hFirstRuns with
    ⟨one, hFirst⟩
  rcases Option.isSome_iff_exists.mp hSecondRuns with
    ⟨other, hSecond⟩
  have hFirstKeys :
      Lts.Meets (apiStep { sha256 := spellOut })
        secondMerchant.KeysApart {}
        (declinedBefore "order-1") := by
    apply Lts.meets_of_forall
    intro label hLabel
    rcases List.mem_append.mp hLabel with hOther | hOwn
    · exact keysApart_createSteps (by exact rfl) label hOther
    · exact keysApart_createSteps (by exact rfl) label hOwn
  have hSecondKeys :
      Lts.Meets (apiStep { sha256 := spellOut })
        secondMerchant.KeysApart {}
        (createSteps 1 100 2 "order-2" "tok_visa"
          "txn-2") :=
    Lts.meets_of_forall
      (keysApart_createSteps (by exact rfl))
  have hSame :=
    noninterference_of_keysApart
      (issues_declinedBefore "order-1") issues_secondAlone
      rfl hFirstKeys hSecondKeys hFirst hSecond
  exact ⟨one, other, hFirst, hSecond, hSame.1 1 rfl,
    hSame.2⟩

/-
  Under the second merchant's key it is: the provider gives
  the second merchant the answer it gave the first.
-/
theorem sharedKey_interferes :
    ¬ ∀ (config : Config)
        (tenant : Tenant)
        (first second : List ApiLabel)
        (one other : Api),
        (∀ label ∈ first, tenant.Issues label) →
          (∀ label ∈ second, tenant.Issues label) →
            first.filter tenant.isOwn =
                second.filter tenant.isOwn →
              Lts.exec (apiStep config) {} first =
                  some one →
                Lts.exec (apiStep config) {} second =
                    some other →
                  (∀ call,
                      tenant.calls call = true →
                        one.system.calls call =
                          other.system.calls call) ∧
                    one.system.db.rowsOf tenant.merchantId =
                      other.system.db.rowsOf
                        tenant.merchantId := by
  intro hClaim
  have hDiffer :
      (Lts.exec (apiStep { sha256 := spellOut }) {}
          (declinedBefore "order-2")).map (fun api =>
            api.system.calls 1) =
          some (.done (.response (some 201)
            (some (.payment 100 .failed 100 "USD" none
              0)))) ∧
        (Lts.exec (apiStep { sha256 := spellOut }) {}
          (createSteps 1 100 2 "order-2" "tok_visa"
            "txn-2")).map (fun api =>
              api.system.calls 1) =
          some (.done (.response (some 201)
            (some (.payment 100 .processing 100 "USD" none
              0)))) := by
    decide +kernel
  rcases Option.map_eq_some_iff.mp hDiffer.1 with
    ⟨one, hFirst, hOne⟩
  rcases Option.map_eq_some_iff.mp hDiffer.2 with
    ⟨other, hSecond, hOther⟩
  have hSame :=
    (hClaim { sha256 := spellOut } secondMerchant _ _ one
      other (issues_declinedBefore "order-2")
      issues_secondAlone rfl hFirst hSecond).1 1 rfl
  rw [hOne, hOther] at hSame
  cases hSame

end PayGuard

import PayGuard.Gateway.Passages

/-
  What gets past the API.

  Whatever its requests, its operators and its services do in
  between, only a request that was authenticated, counted
  and validated begins anything.  One that is turned away
  leaves nothing behind.

  Key definitions include:
    * `Authenticated`
    * `Entered`
    * `Authorized`
    * `Unserved`
    * `Explained`

  Key theorems include:
    * `entered_of_exec`
    * `rows_trace_to_authorized_requests`
    * `unserved_of_exec`
    * `explained_of_exec`
    * `refused_requests_leave_no_trace`
-/

------------------------------------------------------------
-- Who Is Let In
------------------------------------------------------------

namespace PayGuard

variable {config : ApiConfig}
variable {gateway next : Gateway}
variable {label : GatewayLabel}
variable {labels : List GatewayLabel}
variable {call other : CallId}
variable {http : HttpRequest}
variable {merchantId : Uuid}
variable {action : Action}

/- The request was received and its key was a merchant's. -/
def Authenticated
    (config : ApiConfig)
    (labels : List GatewayLabel)
    (call : CallId)
    (http : HttpRequest)
    (merchantId : Uuid) : Prop :=
  ∃ before now after gateway merchant,
    labels = before ++ .receive call http now :: after ∧
      Lts.exec (gatewayStep config) {} before =
          some gateway ∧
        getCurrentMerchant config.hashApiKey
            gateway.merchants http.authorization now =
          .ok merchant ∧
        merchant.id = merchantId

theorem Authenticated.later
    (hIn : Authenticated config labels call http merchantId) :
    Authenticated config (labels ++ [label]) call http
      merchantId := by
  rcases hIn with
    ⟨before, now, after, gateway, merchant, rfl, hRest⟩
  refine ⟨before, now, after ++ [label], gateway, merchant,
    ?_, hRest⟩
  simp

/- Whoever got anywhere was authenticated on the way. -/
structure Entered
    (config : ApiConfig)
    (labels : List GatewayLabel)
    (gateway : Gateway) : Prop where
  authenticated :
    ∀ call http merchantId,
      gateway.calls call = .authenticated http merchantId →
        Authenticated config labels call http merchantId
  admitted :
    ∀ call action,
      gateway.calls call = .admitted action →
        ∃ http merchantId,
          Authenticated config labels call http merchantId ∧
            solveEndpoint config http merchantId =
              .ok action
  served :
    ∀ label ∈ gateway.served,
      label.action.begins = true →
        ∃ http merchantId,
          Authenticated config labels label.call http
              merchantId ∧
            solveEndpoint config http merchantId =
              .ok label.action

theorem entered_initial : Entered config [] {} where
  authenticated := by
    intro call http merchantId hCall
    cases hCall
  admitted := by
    intro call action hCall
    cases hCall
  served := by simp

theorem Entered.later
    (hEntered : Entered config labels gateway) :
    Entered config (labels ++ [label]) gateway where
  authenticated := by
    intro call http merchantId hCall
    exact (hEntered.authenticated call http merchantId
      hCall).later
  admitted := by
    intro call action hCall
    rcases hEntered.admitted call action hCall with
      ⟨http, merchantId, hIn, hSolve⟩
    exact ⟨http, merchantId, hIn.later, hSolve⟩
  served := by
    intro begin hBegin hBegins
    rcases hEntered.served begin hBegin hBegins with
      ⟨http, merchantId, hIn, hSolve⟩
    exact ⟨http, merchantId, hIn.later, hSolve⟩

/- A request moves to a place it is entitled to. -/
theorem Entered.move
    {position : Position}
    (hEntered : Entered config labels gateway)
    (hCalls :
      next.calls =
        Function.update gateway.calls call position)
    (hServed : next.served = gateway.served)
    (hAuthenticated :
      ∀ http merchantId,
        position = .authenticated http merchantId →
          Authenticated config labels call http merchantId)
    (hAdmitted :
      ∀ action,
        position = .admitted action →
          ∃ http merchantId,
            Authenticated config labels call http
                merchantId ∧
              solveEndpoint config http merchantId =
                .ok action) :
    Entered config labels next where
  authenticated := by
    intro other http merchantId hCall
    rw [hCalls] at hCall
    by_cases hOther : other = call
    · subst hOther
      rw [Function.update_self] at hCall
      exact hAuthenticated http merchantId hCall
    · rw [Function.update_of_ne hOther] at hCall
      exact hEntered.authenticated other http merchantId
        hCall
  admitted := by
    intro other action hCall
    rw [hCalls] at hCall
    by_cases hOther : other = call
    · subst hOther
      rw [Function.update_self] at hCall
      exact hAdmitted action hCall
    · rw [Function.update_of_ne hOther] at hCall
      exact hEntered.admitted other action hCall
  served := by
    rw [hServed]
    exact hEntered.served

/- A step of a service is taken past the API. -/
theorem Entered.serve
    {label : Label}
    {system : System}
    {position : Position}
    (hEntered : Entered config labels gateway)
    (hPast : position = .begun ∨ position = .internal)
    (hBegins :
      label.action.begins = true →
        gateway.calls label.call = .admitted label.action) :
    Entered config labels
      (gateway.serve label system position) where
  authenticated := by
    intro other http merchantId hCall
    unfold Gateway.serve at hCall
    by_cases hOther : other = label.call
    · subst hOther
      simp only [Function.update_self] at hCall
      rcases hPast with rfl | rfl <;> cases hCall
    · simp only [Function.update_of_ne hOther] at hCall
      exact hEntered.authenticated other http merchantId
        hCall
  admitted := by
    intro other action hCall
    unfold Gateway.serve at hCall
    by_cases hOther : other = label.call
    · subst hOther
      simp only [Function.update_self] at hCall
      rcases hPast with rfl | rfl <;> cases hCall
    · simp only [Function.update_of_ne hOther] at hCall
      exact hEntered.admitted other action hCall
  served := by
    intro begin hBegin hDoes
    rcases List.mem_append.mp hBegin with hOld | hNew
    · exact hEntered.served begin hOld hDoes
    · rw [List.mem_singleton.mp hNew] at hDoes ⊢
      exact hEntered.admitted label.call label.action
        (hBegins hDoes)

theorem Entered.step
    (hRun :
      Lts.exec (gatewayStep config) {} labels =
        some gateway)
    (hEntered : Entered config labels gateway)
    (hPassage : Passage config gateway label next) :
    Entered config (labels ++ [label]) next := by
  have hLater : Entered config (labels ++ [label]) gateway :=
    hEntered.later
  cases hPassage with
  | operated =>
      exact ⟨hLater.authenticated, hLater.admitted,
        hLater.served⟩
  | undecoded =>
      exact hLater.move rfl rfl (by simp) (by simp)
  | rejected =>
      exact hLater.move rfl rfl (by simp) (by simp)
  | @authenticated call http now merchant _ hMerchant =>
      refine hLater.move rfl rfl ?_ (by simp)
      rintro _ _ ⟨⟩
      exact ⟨labels, now, [], gateway, merchant, rfl, hRun,
        hMerchant, rfl⟩
  | @checked call arrival http merchantId position hCall
      hChecked =>
      have hIn := hLater.authenticated call http merchantId
        hCall
      cases hChecked with
      | refused _ =>
          exact hLater.move rfl rfl (by simp) (by simp)
      | admitted _ hSolve =>
          refine hLater.move rfl rfl (by simp) ?_
          rintro _ ⟨⟩
          exact ⟨http, merchantId, hIn, hSolve⟩
  | begun hCall _ =>
      exact hLater.serve (.inl rfl) (fun _ => hCall)
  | served hBegins hCall _ =>
      refine hLater.serve ?_ ?_
      · rcases hCall with ⟨_, hPast⟩ | ⟨_, hPast⟩
        · exact .inl hPast
        · exact .inr hPast
      · intro hDoes
        rw [hBegins] at hDoes
        cases hDoes

theorem entered_of_exec
    (hRun :
      Lts.exec (gatewayStep config) {} labels =
        some gateway) :
    Entered config labels gateway :=
  Lts.invariant_of_history
    (fun _ _ _ _ hPast hBefore hStep =>
      hBefore.step hPast (gatewayStep_passage hStep))
    entered_initial hRun

end PayGuard

------------------------------------------------------------
-- Where Rows Come From
------------------------------------------------------------

namespace PayGuard

variable {config : ApiConfig}
variable {gateway next : Gateway}
variable {label : GatewayLabel}
variable {labels : List GatewayLabel}
variable {call other : CallId}
variable {http : HttpRequest}
variable {merchantId : Uuid}

/-
  The request named itself and showed a key that, by the
  operations up to then, was valid for an active merchant.
-/
def Authorized
    (config : ApiConfig)
    (labels : List GatewayLabel)
    (http : HttpRequest)
    (merchantId : Uuid) : Prop :=
  (∃ key, http.idempotencyKey = some key ∧ key ≠ "") ∧
    ∃ before call now after apiKey merchants row,
      labels = before ++ .receive call http now :: after ∧
        presentedKey http.authorization = some apiKey ∧
          ValidKey
            (before.filterMap GatewayLabel.operation)
            merchantId apiKey now ∧
          Lts.exec (merchantStep config.hashApiKey) []
              (before.filterMap GatewayLabel.operation) =
            some merchants ∧
          row ∈ merchants ∧
            row.id = merchantId ∧ row.status = .active

theorem presentedKey_of_ok
    {hashApiKey : String → String}
    {merchants : List Merchant}
    {authorization : Option String}
    {now : Timestamp}
    {row : Merchant}
    (hOk :
      getCurrentMerchant hashApiKey merchants authorization
        now = .ok row) :
    ∃ apiKey, presentedKey authorization = some apiKey := by
  unfold getCurrentMerchant at hOk
  split at hOk
  · cases hOk
  · rename_i apiKey hKey
    exact ⟨apiKey, hKey⟩

/- Being authenticated is having shown a valid key. -/
theorem Authenticated.authorized
    (hInjective : Function.Injective config.hashApiKey)
    (hFresh :
      ((labels.filterMap GatewayLabel.operation).filterMap
        MerchantEvent.issued).Nodup)
    (hIn : Authenticated config labels call http merchantId)
    (hKey :
      ∃ key, http.idempotencyKey = some key ∧ key ≠ "") :
    Authorized config labels http merchantId := by
  rcases hIn with
    ⟨before, now, after, gateway, row, hLabels, hBefore,
      hOk, rfl⟩
  have hMerchants := merchants_of_exec hBefore
  have hEarlier :
      ((before.filterMap GatewayLabel.operation).filterMap
        MerchantEvent.issued).Nodup := by
    rw [hLabels, List.filterMap_append,
      List.filterMap_append, List.nodup_append] at hFresh
    exact hFresh.1
  rcases presentedKey_of_ok hOk with ⟨apiKey, hPresented⟩
  rcases (getCurrentMerchant_eq_ok hInjective hEarlier
      (onRecord_of_exec hMerchants) hPresented).mp hOk with
    ⟨hRow, hActive, hValid⟩
  exact ⟨hKey, before, call, now, after, apiKey,
    gateway.merchants, row, hLabels, hPresented, hValid,
    hMerchants, hRow, rfl, hActive⟩

/- What a service begins with was solved for a key holder. -/
theorem Entered.solved
    {begin : Label}
    {action : Action}
    (hEntered : Entered config labels gateway)
    (hInjective : Function.Injective config.hashApiKey)
    (hFresh :
      ((labels.filterMap GatewayLabel.operation).filterMap
        MerchantEvent.issued).Nodup)
    (hBegin : begin ∈ gateway.served)
    (hAction : begin.action = action)
    (hBegins : action.begins = true) :
    ∃ http merchantId key,
      Authorized config labels http merchantId ∧
        Solved config http merchantId key action := by
  rcases hEntered.served begin hBegin
      (by rw [hAction]; exact hBegins) with
    ⟨http, merchantId, hIn, hSolve⟩
  rcases solveEndpoint_eq_ok hSolve with
    ⟨key, hKey, hNonempty, hSolved⟩
  rw [hAction] at hSolved
  exact ⟨http, merchantId, key,
    hIn.authorized hInjective hFresh ⟨key, hKey, hNonempty⟩,
    hSolved⟩

/-
  Every payment and every refund goes back to a request its
  merchant was let in with, and says what its body said.
-/
theorem rows_trace_to_authorized_requests
    (config : ApiConfig)
    (hInjective : Function.Injective config.hashApiKey)
    (labels : List GatewayLabel)
    (hFresh :
      ((labels.filterMap GatewayLabel.operation).filterMap
        MerchantEvent.issued).Nodup)
    (gateway : Gateway)
    (hRun :
      Lts.exec (gatewayStep config) {} labels =
        some gateway) :
    (∀ payment ∈ gateway.system.db.payments,
      ∃ http payload,
        Authorized config labels http payment.merchantId ∧
          http.endpoint = .createPayment ∧
          config.reader.payment http.rawBody =
            some payload ∧
          payload.accepted config.tables = true ∧
          payment.amountMinor = payload.amount ∧
          payment.currency = payload.currency ∧
          payment.merchantReference =
            payload.merchantReference) ∧
      ∀ refund ∈ gateway.system.db.refunds,
        ∃ payment ∈ gateway.system.db.payments,
          payment.id = refund.paymentIntentId ∧
            ∃ http payload,
              Authorized config labels http
                  payment.merchantId ∧
                http.endpoint =
                  .createRefund (some payment.id) ∧
                config.reader.refund http.rawBody =
                  some payload ∧
                payload.accepted = true ∧
                refund.amountMinor = payload.amount := by
  have hRequested :=
    requested_of_exec (composed_of_exec hRun).served
  have hEntered := entered_of_exec hRun
  constructor
  · intro payment hPayment
    rcases hRequested.payments payment hPayment with
      ⟨begin, hBegin, request, hAction, _, hAsks⟩
    rcases hEntered.solved hInjective hFresh hBegin hAction
        rfl with
      ⟨http, merchantId, key, hAuthorized, hSolved⟩
    cases hSolved with
    | @create payload hEndpoint hPayload hAccepted =>
        have hMerchant : payment.merchantId = merchantId :=
          hAsks.merchant
        rw [← hMerchant] at hAuthorized
        exact ⟨http, payload, hAuthorized, hEndpoint,
          hPayload, hAccepted, hAsks.amount, hAsks.currency,
          hAsks.reference⟩
  · intro refund hRefund
    rcases hRequested.refunds refund hRefund with
      ⟨begin, hBegin, request, hAction, _, hAsks⟩
    rcases hEntered.solved hInjective hFresh hBegin hAction
        rfl with
      ⟨http, merchantId, key, hAuthorized, hSolved⟩
    cases hSolved with
    | @refund paymentId payload hEndpoint hPayload
        hAccepted =>
        rcases hAsks.merchant with
          ⟨payment, hPayment, hId, hMerchant⟩
        have hOwner : payment.merchantId = merchantId :=
          hMerchant
        have hNamed : payment.id = paymentId := hId
        rw [← hOwner] at hAuthorized
        rw [← hNamed] at hEndpoint
        exact ⟨payment, hPayment,
          hId.trans hAsks.payment.symm, http, payload,
          hAuthorized, hEndpoint, hPayload, hAccepted,
          hAsks.amount⟩

/- A body that asks for a payment, and one for a refund. -/
def paymentBody : List UInt8 :=
  ("\x7b\"amount\": 100, \"currency\": \"USD\", " ++
    "\"payment_method\": \x7b\"type\": \"token\", " ++
    "\"token\": \"tok_visa\"\x7d\x7d").toUTF8.data.toList

def refundBody : List UInt8 :=
  "\x7b\"amount\": 40\x7d".toUTF8.data.toList

/- A deployment that reads these two, and two at a time. -/
def smallApi : ApiConfig where
  services := { sha256 := spellOut }
  hashApiKey := id
  limits :=
    { capacity := some 2
      refillPerSecond := some 1 }
  tables := latin1
  reader :=
    { isJson := fun body =>
        body = paymentBody || body = refundBody
      payment := fun body =>
        if body = paymentBody then
          some
            { amount := 100
              currency := "USD"
              paymentMethod := ⟨"token", "tok_visa"⟩ }
        else
          none
      refund := fun body =>
        if body = refundBody then some ⟨40⟩ else none
      errors := fun _ => [⟨some "Field required"⟩] }

/- A request of merchant 1. -/
def asks
    (endpoint : Endpoint)
    (idempotencyKey : String)
    (rawBody : List UInt8 := []) : HttpRequest where
  endpoint := endpoint
  authorization := some "Bearer sk_test_a"
  idempotencyKey := some idempotencyKey
  rawBody := rawBody

/- Merchant 1 creates a payment and captures it. -/
def paysRun : List GatewayLabel :=
  [.operate (.seed 1 "sk_test_a"),
    .receive 0 (asks .createPayment "create" paymentBody) 0,
    .enforceRateLimit 0 ⟨0, false⟩,
    .begin 0 (.numbered 1),
    .serve ⟨0, .createProcess, .numbered 2⟩,
    .serve ⟨0, .createAssess, .numbered 3⟩,
    .serve ⟨0, .createAuthorize (.approved "txn"),
      .numbered 4⟩,
    .serve ⟨0, .createFinish, .numbered 5⟩,
    .receive 1 (asks (.capturePayment (some 1)) "capture") 0,
    .enforceRateLimit 1 ⟨0, false⟩,
    .begin 1 (.numbered 6),
    .serve ⟨1, .captureFinish (.approved "txn"),
      .numbered 7⟩]

/- Its refund has to wait for another token. -/
def refundsLater : List GatewayLabel :=
  paysRun ++
    [.receive 2
        (asks (.createRefund (some 1)) "refund" refundBody)
        1,
      .enforceRateLimit 2 ⟨1, false⟩,
      .begin 2 (.numbered 8)]

theorem rows_trace_to_authorized_requests_refund :
    ∃ gateway,
      Lts.exec (gatewayStep smallApi) {} refundsLater =
          some gateway ∧
        ∃ refund ∈ gateway.system.db.refunds,
          ∃ payment ∈ gateway.system.db.payments,
            payment.id = refund.paymentIntentId ∧
              ∃ http payload,
                Authorized smallApi refundsLater http
                    payment.merchantId ∧
                  http.endpoint =
                    .createRefund (some payment.id) ∧
                  smallApi.reader.refund http.rawBody =
                    some payload ∧
                  payload.accepted = true ∧
                  refund.amountMinor = payload.amount := by
  have hRun :
      (Lts.exec (gatewayStep smallApi) {} refundsLater).map
        (fun gateway =>
          gateway.system.db.refunds.map (·.amountMinor)) =
        some [40] := by
    decide +kernel
  rcases Option.map_eq_some_iff.mp hRun with
    ⟨gateway, hReached, hRefunds⟩
  have hFirst :
      40 ∈ gateway.system.db.refunds.map
        (·.amountMinor) := by
    rw [hRefunds]
    exact List.mem_cons_self
  rcases List.mem_map.mp hFirst with ⟨refund, hRefund, _⟩
  exact ⟨gateway, hReached, refund, hRefund,
    (rows_trace_to_authorized_requests smallApi
      Function.injective_id refundsLater (by decide +kernel)
      gateway hReached).2 refund hRefund⟩

end PayGuard

------------------------------------------------------------
-- Who Is Turned Away
------------------------------------------------------------

namespace PayGuard

variable {config : ApiConfig}
variable {gateway next : Gateway}
variable {label : GatewayLabel}
variable {labels : List GatewayLabel}
variable {call other : CallId}

/- The services have not seen the request. -/
def Position.outside : Position → Bool
| .begun => false
| .internal => false
| _ => true

/- Statuses the API turns a request away with. -/
def refusalStatuses : List Nat := [400, 401, 429]

/- The services have not seen a request outside. -/
def Unserved (gateway : Gateway) : Prop :=
  ∀ call,
    (gateway.calls call).outside = true →
      ∀ label ∈ gateway.served, label.call ≠ call

/- A request moves on outside the services. -/
theorem Unserved.move
    {position : Position}
    (hUnserved : Unserved gateway)
    (hCalls :
      next.calls =
        Function.update gateway.calls call position)
    (hServed : next.served = gateway.served)
    (hOutside : (gateway.calls call).outside = true) :
    Unserved next := by
  intro other hOther
  rw [hServed]
  by_cases hSame : other = call
  · rw [hSame]
    exact hUnserved call hOutside
  · rw [hCalls, Function.update_of_ne hSame] at hOther
    exact hUnserved other hOther

/- A step of a service is none of a request outside. -/
theorem Unserved.serve
    {served : Label}
    {system : System}
    {position : Position}
    (hUnserved : Unserved gateway)
    (hPast : position.outside = false) :
    Unserved (gateway.serve served system position) := by
  intro other hOther
  unfold Gateway.serve at hOther ⊢
  by_cases hSame : other = served.call
  · subst hSame
    simp only [Function.update_self, hPast] at hOther
    cases hOther
  · simp only [Function.update_of_ne hSame] at hOther
    intro step hStep
    rcases List.mem_append.mp hStep with hOld | hNew
    · exact hUnserved other hOther step hOld
    · rw [List.mem_singleton.mp hNew]
      exact Ne.symm hSame

theorem Unserved.step
    (hUnserved : Unserved gateway)
    (hPassage : Passage config gateway label next) :
    Unserved next := by
  cases hPassage with
  | operated => exact hUnserved
  | undecoded hIdle =>
      exact hUnserved.move rfl rfl (by rw [hIdle]; rfl)
  | rejected hIdle _ =>
      exact hUnserved.move rfl rfl (by rw [hIdle]; rfl)
  | authenticated hIdle _ =>
      exact hUnserved.move rfl rfl (by rw [hIdle]; rfl)
  | checked hCall _ =>
      exact hUnserved.move rfl rfl (by rw [hCall]; rfl)
  | begun _ _ => exact hUnserved.serve rfl
  | served _ hCall _ =>
      rcases hCall with ⟨_, rfl⟩ | ⟨_, rfl⟩
      · exact hUnserved.serve rfl
      · exact hUnserved.serve rfl

theorem unserved_of_exec
    (hRun :
      Lts.exec (gatewayStep config) {} labels =
        some gateway) :
    Unserved gateway :=
  Lts.invariant_of_exec
    (fun _ _ _ hBefore hStep =>
      hBefore.step (gatewayStep_passage hStep))
    (by simp [Unserved]) hRun

/- Whoever was turned away, with fresh keys, was told why. -/
def Explained
    (labels : List GatewayLabel)
    (gateway : Gateway) : Prop :=
  ((labels.filterMap GatewayLabel.operation).filterMap
      MerchantEvent.issued).Nodup →
    ∀ call answer,
      gateway.calls call = .refused answer →
        ∃ error,
          answer = .error error ∧
            error.status ∈ refusalStatuses

theorem explained_initial : Explained [] {} := by
  intro _ call answer hCall
  cases hCall

/- Keys that are fresh after a step were fresh before it. -/
theorem issued_nodup_of_append
    {more : List GatewayLabel}
    (hFresh :
      (((labels ++ more).filterMap
        GatewayLabel.operation).filterMap
          MerchantEvent.issued).Nodup) :
    ((labels.filterMap GatewayLabel.operation).filterMap
      MerchantEvent.issued).Nodup := by
  rw [List.filterMap_append, List.filterMap_append,
    List.nodup_append] at hFresh
  exact hFresh.1

/- A request moves where it is told why, if turned away. -/
theorem Explained.move
    {position : Position}
    (hExplained : Explained labels gateway)
    (hCalls :
      next.calls =
        Function.update gateway.calls call position)
    (hAnswer :
      ((labels.filterMap GatewayLabel.operation).filterMap
          MerchantEvent.issued).Nodup →
        ∀ answer,
          position = .refused answer →
            ∃ error,
              answer = .error error ∧
                error.status ∈ refusalStatuses) :
    Explained (labels ++ [label]) next := by
  intro hFresh other answer hOther
  have hBefore := issued_nodup_of_append hFresh
  rw [hCalls] at hOther
  by_cases hSame : other = call
  · subst hSame
    rw [Function.update_self] at hOther
    exact hAnswer hBefore answer hOther
  · rw [Function.update_of_ne hSame] at hOther
    exact hExplained hBefore other answer hOther

theorem Explained.step
    (hInjective : Function.Injective config.hashApiKey)
    (hRun :
      Lts.exec (gatewayStep config) {} labels =
        some gateway)
    (hExplained : Explained labels gateway)
    (hPassage : Passage config gateway label next) :
    Explained (labels ++ [label]) next := by
  cases hPassage with
  | operated =>
      exact fun hFresh =>
        hExplained (issued_nodup_of_append hFresh)
  | undecoded _ =>
      refine hExplained.move rfl ?_
      rintro _ _ ⟨⟩
      exact ⟨_, rfl, List.mem_cons_self⟩
  | @rejected call http now failure _ hFailure =>
      refine hExplained.move rfl ?_
      rintro hFresh _ ⟨⟩
      cases failure with
      | unauthorized message =>
          exact ⟨_, rfl, List.mem_cons_of_mem _
            List.mem_cons_self⟩
      | multipleResultsFound =>
          exact absurd hFailure
            (getCurrentMerchant_ne_multiple hInjective
              hFresh
              (onRecord_of_exec (merchants_of_exec hRun)))
  | authenticated _ _ =>
      exact hExplained.move rfl (by simp)
  | checked _ hChecked =>
      refine hExplained.move rfl ?_
      rintro _ _ rfl
      cases hChecked with
      | @refused error hStatus =>
          refine ⟨error, rfl, ?_⟩
          rcases hStatus with hStatus | hStatus <;>
            rw [hStatus] <;> decide
  | begun _ _ => exact hExplained.move rfl (by simp)
  | served _ hCall _ =>
      rcases hCall with ⟨_, rfl⟩ | ⟨_, rfl⟩
      · exact hExplained.move rfl (by simp)
      · exact hExplained.move rfl (by simp)

theorem explained_of_exec
    (hInjective : Function.Injective config.hashApiKey)
    (hRun :
      Lts.exec (gatewayStep config) {} labels =
        some gateway) :
    Explained labels gateway :=
  Lts.invariant_of_history
    (fun _ _ _ _ hPast hBefore hStep =>
      hBefore.step hInjective hPast
        (gatewayStep_passage hStep))
    explained_initial hRun

/- A refused request has been told so, once and for all. -/
theorem Passage.refused
    {answer : HttpAnswer}
    (hPassage : Passage config gateway label next)
    (hCall : gateway.calls call = .refused answer) :
    next.calls call = .refused answer := by
  have hMove :
      ∀ (other : CallId) (position : Position),
        gateway.calls other ≠ .refused answer →
          Function.update gateway.calls other position
              call =
            .refused answer := by
    intro other position hOther
    rw [Function.update_of_ne]
    · exact hCall
    · rintro rfl
      exact hOther hCall
  cases hPassage with
  | operated => exact hCall
  | undecoded hIdle => exact hMove _ _ (by simp [hIdle])
  | rejected hIdle _ => exact hMove _ _ (by simp [hIdle])
  | authenticated hIdle _ =>
      exact hMove _ _ (by simp [hIdle])
  | checked hOther _ => exact hMove _ _ (by simp [hOther])
  | begun hOther _ => exact hMove _ _ (by simp [hOther])
  | served _ hOther _ =>
      rcases hOther with ⟨hOther, _⟩ | ⟨hOther | hOther, _⟩
      · exact hMove _ _ (by simp [hOther])
      · exact hMove _ _ (by simp [hOther])
      · exact hMove _ _ (by simp [hOther])

/-
  A request that is turned away is told why, and nothing of
  it ever reaches a service, in whatever runs after it.
-/
theorem refused_requests_leave_no_trace
    (config : ApiConfig)
    (hInjective : Function.Injective config.hashApiKey)
    (labels more : List GatewayLabel)
    (hFresh :
      ((labels.filterMap GatewayLabel.operation).filterMap
        MerchantEvent.issued).Nodup)
    (gateway later : Gateway)
    (hRun :
      Lts.exec (gatewayStep config) {} labels =
        some gateway)
    (hMore :
      Lts.exec (gatewayStep config) gateway more =
        some later)
    (call : CallId)
    (answer : HttpAnswer)
    (hRefused : gateway.calls call = .refused answer) :
    (∃ error,
        answer = .error error ∧
          error.status ∈ refusalStatuses) ∧
      later.answer call = some answer ∧
        later.system.calls call = .idle ∧
          ∀ label ∈ later.served, label.call ≠ call := by
  have hStays : later.calls call = .refused answer :=
    Lts.invariant_of_exec
      (fun _ _ _ hBefore hStep =>
        (gatewayStep_passage hStep).refused hBefore)
      hRefused hMore
  have hAll :=
    Lts.exec_append_eq_some.mpr ⟨gateway, hRun, hMore⟩
  have hUnserved :=
    unserved_of_exec hAll call (by rw [hStays]; rfl)
  refine ⟨?_, ?_, ?_, hUnserved⟩
  · exact explained_of_exec hInjective hRun hFresh call answer
      hRefused
  · unfold Gateway.answer
    rw [hStays]
  · exact calls_of_not_acting (composed_of_exec hAll).served
      hUnserved

/- The third request of the same second is one too many. -/
def refundsTooSoon : List GatewayLabel :=
  paysRun ++
    [.receive 2
        (asks (.createRefund (some 1)) "refund" refundBody)
        0,
      .enforceRateLimit 2 ⟨0, false⟩]

/- A webhook comes in after it. -/
def hearsWebhook : List GatewayLabel :=
  [.serve
    ⟨3, .receiveWebhook
      { providerName := "mock"
        providerEventId := "evt_1"
        eventType := "payment.succeeded"
        providerTransactionId := some "txn" }, .numbered 9⟩]

theorem refused_requests_leave_no_trace_limited :
    ∃ gateway later,
      Lts.exec (gatewayStep smallApi) {} refundsTooSoon =
          some gateway ∧
        Lts.exec (gatewayStep smallApi) gateway
            hearsWebhook =
          some later ∧
        later.answer 2 =
          some (.error (payguardErrorHandler "RATE_LIMITED"
            ("Too many requests. " ++
              "Please try again shortly."))) ∧
        later.system.calls 2 = .idle ∧
        ∀ label ∈ later.served, label.call ≠ 2 := by
  have hRun :
      (Lts.exec (gatewayStep smallApi) {}
        refundsTooSoon).map (fun gateway =>
          (gateway.calls 2,
            (Lts.exec (gatewayStep smallApi) gateway
              hearsWebhook).isSome)) =
        some
          (.refused (.error (payguardErrorHandler
            "RATE_LIMITED"
            ("Too many requests. " ++
              "Please try again shortly."))), true) := by
    decide +kernel
  rcases Option.map_eq_some_iff.mp hRun with
    ⟨gateway, hReached, hBoth⟩
  rw [Prod.mk.injEq] at hBoth
  rcases Option.isSome_iff_exists.mp hBoth.2 with
    ⟨later, hLater⟩
  have hTrace :=
    refused_requests_leave_no_trace smallApi
      Function.injective_id refundsTooSoon hearsWebhook
      (by decide +kernel) gateway later hReached hLater 2 _
      hBoth.1
  exact ⟨gateway, later, hReached, hLater, hTrace.2⟩

end PayGuard

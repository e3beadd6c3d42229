import PayGuard.Gateway.Service
import PayGuard.Merchants.Rotation
import PayGuard.System.Requests

/-
  What one step of the API can do.

  A step changes the merchants, the limiter or the services,
  and never two of them at once.  Each of the three goes
  through a run of its own.

  Key definitions include:
    * `Checked`
    * `Passage`
    * `Solved`
    * `Composed`

  Key theorems include:
    * `solveEndpoint_eq_ok`
    * `gatewayStep_passage`
    * `merchants_of_exec`
    * `composed_of_exec`
-/

------------------------------------------------------------
-- Inversions
------------------------------------------------------------

namespace PayGuard

variable {config : ApiConfig}
variable {gateway next : Gateway}
variable {label : GatewayLabel}
variable {labels : List GatewayLabel}
variable {call other : CallId}
variable {http : HttpRequest}
variable {merchantId : Uuid}
variable {action : Action}

/- Where a counted request goes. -/
inductive Checked
    (config : ApiConfig)
    (http : HttpRequest)
    (merchantId : Uuid)
    (allowed : Bool) : Position → Prop where
| refused
    {error : ErrorResponse}
    (hStatus : error.status = 400 ∨ error.status = 429) :
    Checked config http merchantId allowed
      (.refused (.error error))
| admitted
    {action : Action}
    (hAllowed : allowed = true)
    (hSolve :
      solveEndpoint config http merchantId = .ok action) :
    Checked config http merchantId allowed
      (.admitted action)

/- Everything a step of the API can do. -/
inductive Passage
    (config : ApiConfig)
    (gateway : Gateway) :
    GatewayLabel → Gateway → Prop where
| operated
    {event : MerchantEvent}
    {merchants : List Merchant}
    (hStep :
      merchantStep config.hashApiKey gateway.merchants
        event = some merchants) :
    Passage config gateway (.operate event)
      { gateway with merchants := merchants }
| undecoded
    {call : CallId}
    {http : HttpRequest}
    {now : Timestamp}
    (hIdle : gateway.calls call = .idle) :
    Passage config gateway (.receive call http now)
      (gateway.become call
        (.refused (.error (validationErrorHandler
          (config.reader.errors http)))))
| rejected
    {call : CallId}
    {http : HttpRequest}
    {now : Timestamp}
    {failure : AuthFailure}
    (hIdle : gateway.calls call = .idle)
    (hFailure :
      getCurrentMerchant config.hashApiKey
        gateway.merchants http.authorization now =
          .error failure) :
    Passage config gateway (.receive call http now)
      (gateway.become call (.refused failure.answer))
| authenticated
    {call : CallId}
    {http : HttpRequest}
    {now : Timestamp}
    {merchant : Merchant}
    (hIdle : gateway.calls call = .idle)
    (hMerchant :
      getCurrentMerchant config.hashApiKey
        gateway.merchants http.authorization now =
          .ok merchant) :
    Passage config gateway (.receive call http now)
      (gateway.become call
        (.authenticated http merchant.id))
| checked
    {call : CallId}
    {arrival : Arrival}
    {http : HttpRequest}
    {merchantId : Uuid}
    {position : Position}
    (hCall :
      gateway.calls call = .authenticated http merchantId)
    (hChecked :
      Checked config http merchantId
        (checkRateLimit config.limits gateway.redis
          ⟨merchantId, arrival⟩).2
        position) :
    Passage config gateway (.enforceRateLimit call arrival)
      { gateway.become call position with
        redis :=
          (checkRateLimit config.limits gateway.redis
            ⟨merchantId, arrival⟩).1
        checks := gateway.checks ++ [⟨merchantId, arrival⟩] }
| begun
    {call : CallId}
    {draw : Draw}
    {action : Action}
    {system : System}
    (hCall : gateway.calls call = .admitted action)
    (hStep :
      step config.services gateway.system
        ⟨call, action, draw⟩ = some system) :
    Passage config gateway (.begin call draw)
      (gateway.serve ⟨call, action, draw⟩ system .begun)
| served
    {label : Label}
    {position : Position}
    {system : System}
    (hBegins : label.action.begins = false)
    (hCall :
      (gateway.calls label.call = .begun ∧
          position = .begun) ∨
        ((gateway.calls label.call = .idle ∨
            gateway.calls label.call = .internal) ∧
          position = .internal))
    (hStep :
      step config.services gateway.system label =
        some system) :
    Passage config gateway (.serve label)
      (gateway.serve label system position)

/- A key that is missing or empty is a bad request. -/
theorem requireIdempotencyKey_eq_ok
    {idempotencyKey : Option String}
    {key : String}
    (hKey :
      requireIdempotencyKey idempotencyKey = .ok key) :
    idempotencyKey = some key ∧ key ≠ "" := by
  unfold requireIdempotencyKey at hKey
  split at hKey
  · cases hKey
  · split at hKey
    · cases hKey
    · rename_i hNonempty
      cases hKey
      exact ⟨rfl, hNonempty⟩

theorem requireIdempotencyKey_eq_error
    {idempotencyKey : Option String}
    {error : ErrorResponse}
    (hKey :
      requireIdempotencyKey idempotencyKey = .error error) :
    error.status = 400 := by
  unfold requireIdempotencyKey at hKey
  split at hKey
  · cases hKey
    rfl
  · split at hKey
    · cases hKey
      rfl
    · cases hKey

/- An endpoint that is reached asks for a key first. -/
theorem map_requireIdempotencyKey_eq_ok
    {ask : String → Action}
    (hMap :
      (requireIdempotencyKey http.idempotencyKey).map ask =
        .ok action) :
    ∃ key,
      http.idempotencyKey = some key ∧
        key ≠ "" ∧ action = ask key := by
  cases hKey : requireIdempotencyKey http.idempotencyKey with
  | error error =>
      rw [hKey] at hMap
      cases hMap
  | ok key =>
      rw [hKey] at hMap
      cases hMap
      rcases requireIdempotencyKey_eq_ok hKey with
        ⟨hSome, hNonempty⟩
      exact ⟨key, hSome, hNonempty, rfl⟩

theorem map_requireIdempotencyKey_eq_error
    {ask : String → Action}
    {error : ErrorResponse}
    (hMap :
      (requireIdempotencyKey http.idempotencyKey).map ask =
        .error error) :
    error.status = 400 := by
  cases hKey : requireIdempotencyKey http.idempotencyKey with
  | error failed =>
      rw [hKey] at hMap
      cases hMap
      exact requireIdempotencyKey_eq_error hKey
  | ok key =>
      rw [hKey] at hMap
      cases hMap

/- What a request that is let in makes of its payload. -/
inductive Solved
    (config : ApiConfig)
    (http : HttpRequest)
    (merchantId : Uuid)
    (key : String) : Action → Prop where
| create
    {payload : PaymentCreateRequest}
    (hEndpoint : http.endpoint = .createPayment)
    (hPayload :
      config.reader.payment http.rawBody = some payload)
    (hAccepted : payload.accepted config.tables = true) :
    Solved config http merchantId key
      (.createBegin
        (payload.createRequest merchantId key http.rawBody
          http.clientHost))
| capture
    {paymentId : Uuid}
    (hEndpoint :
      http.endpoint = .capturePayment (some paymentId)) :
    Solved config http merchantId key
      (.captureBegin
        { merchantId := merchantId
          paymentId := paymentId
          idempotencyKey := key
          rawBody := http.rawBody })
| refund
    {paymentId : Uuid}
    {payload : RefundCreateRequest}
    (hEndpoint :
      http.endpoint = .createRefund (some paymentId))
    (hPayload :
      config.reader.refund http.rawBody = some payload)
    (hAccepted : payload.accepted = true) :
    Solved config http merchantId key
      (.refundBegin
        { merchantId := merchantId
          paymentId := paymentId
          idempotencyKey := key
          rawBody := http.rawBody
          amountMinor := payload.amount })

theorem solveEndpoint_eq_ok
    (hSolve :
      solveEndpoint config http merchantId = .ok action) :
    ∃ key,
      http.idempotencyKey = some key ∧
        key ≠ "" ∧
          Solved config http merchantId key action := by
  unfold solveEndpoint at hSolve
  simp only at hSolve
  split at hSolve
  · rename_i hEndpoint
    split at hSolve
    · cases hSolve
    · rename_i payload hFilter
      rcases Option.filter_eq_some_iff.mp hFilter with
        ⟨hPayload, hAccepted⟩
      rcases map_requireIdempotencyKey_eq_ok hSolve with
        ⟨key, hKey, hNonempty, rfl⟩
      exact ⟨key, hKey, hNonempty,
        .create hEndpoint hPayload hAccepted⟩
  · cases hSolve
  · rename_i paymentId hEndpoint
    rcases map_requireIdempotencyKey_eq_ok hSolve with
      ⟨key, hKey, hNonempty, rfl⟩
    exact ⟨key, hKey, hNonempty, .capture hEndpoint⟩
  · cases hSolve
  · rename_i paymentId hEndpoint
    split at hSolve
    · cases hSolve
    · rename_i payload hFilter
      rcases Option.filter_eq_some_iff.mp hFilter with
        ⟨hPayload, hAccepted⟩
      rcases map_requireIdempotencyKey_eq_ok hSolve with
        ⟨key, hKey, hNonempty, rfl⟩
      exact ⟨key, hKey, hNonempty,
        .refund hEndpoint hPayload hAccepted⟩

theorem solveEndpoint_eq_error
    {error : ErrorResponse}
    (hSolve :
      solveEndpoint config http merchantId =
        .error error) :
    error.status = 400 := by
  unfold solveEndpoint at hSolve
  simp only at hSolve
  split at hSolve
  · split at hSolve
    · cases hSolve
      rfl
    · exact map_requireIdempotencyKey_eq_error hSolve
  · cases hSolve
    rfl
  · exact map_requireIdempotencyKey_eq_error hSolve
  · cases hSolve
    rfl
  · split at hSolve
    · cases hSolve
      rfl
    · exact map_requireIdempotencyKey_eq_error hSolve

theorem stepReceive_passage
    {now : Timestamp}
    (hStep :
      stepReceive config gateway call http now =
        some next) :
    Passage config gateway (.receive call http now) next := by
  unfold stepReceive at hStep
  split at hStep
  · rename_i hIdle
    split at hStep
    · cases hStep
      exact .undecoded hIdle
    · split at hStep
      · rename_i hFailure
        cases hStep
        exact .rejected hIdle hFailure
      · rename_i hMerchant
        cases hStep
        exact .authenticated hIdle hMerchant
  · cases hStep

theorem stepEnforceRateLimit_passage
    {arrival : Arrival}
    (hStep :
      stepEnforceRateLimit config gateway call arrival =
        some next) :
    Passage config gateway (.enforceRateLimit call arrival)
      next := by
  unfold stepEnforceRateLimit at hStep
  split at hStep
  · rename_i hCall
    cases hStep
    refine .checked hCall ?_
    split
    · rename_i hAllowed
      split
      · rename_i hSolve
        exact .refused (.inl (solveEndpoint_eq_error hSolve))
      · rename_i hSolve
        exact .admitted hAllowed hSolve
    · exact .refused (.inr rfl)
  · cases hStep

theorem stepBegin_passage
    {draw : Draw}
    (hStep : stepBegin config gateway call draw = some next) :
    Passage config gateway (.begin call draw) next := by
  unfold stepBegin at hStep
  split at hStep
  · rename_i hCall
    rcases Option.map_eq_some_iff.mp hStep with
      ⟨system, hSystem, rfl⟩
    exact .begun hCall hSystem
  · cases hStep

theorem stepServe_passage
    {label : Label}
    (hStep : stepServe config gateway label = some next) :
    Passage config gateway (.serve label) next := by
  unfold stepServe at hStep
  split at hStep
  · cases hStep
  · rename_i hBegins
    rw [Bool.not_eq_true] at hBegins
    split at hStep
    · rename_i hCall
      rcases Option.map_eq_some_iff.mp hStep with
        ⟨system, hSystem, rfl⟩
      exact .served hBegins (.inl ⟨hCall, rfl⟩) hSystem
    · rename_i hCall
      rcases Option.map_eq_some_iff.mp hStep with
        ⟨system, hSystem, rfl⟩
      exact .served hBegins (.inr ⟨.inl hCall, rfl⟩) hSystem
    · rename_i hCall
      rcases Option.map_eq_some_iff.mp hStep with
        ⟨system, hSystem, rfl⟩
      exact .served hBegins (.inr ⟨.inr hCall, rfl⟩) hSystem
    · cases hStep

theorem gatewayStep_passage
    (hStep : gatewayStep config gateway label = some next) :
    Passage config gateway label next := by
  cases label with
  | operate event =>
      rcases Option.map_eq_some_iff.mp hStep with
        ⟨merchants, hMerchants, rfl⟩
      exact .operated hMerchants
  | receive call http now => exact stepReceive_passage hStep
  | enforceRateLimit call arrival =>
      exact stepEnforceRateLimit_passage hStep
  | begin call draw => exact stepBegin_passage hStep
  | serve label => exact stepServe_passage hStep

------------------------------------------------------------
-- Components
------------------------------------------------------------

/- What operators do, one by one. -/
def GatewayLabel.operation :
    GatewayLabel → Option MerchantEvent
| .operate event => some event
| _ => none

/- The table of merchants has the history of operations. -/
theorem merchants_of_exec
    (hRun :
      Lts.exec (gatewayStep config) {} labels =
        some gateway) :
    Lts.exec (merchantStep config.hashApiKey) []
        (labels.filterMap GatewayLabel.operation) =
      some gateway.merchants := by
  have hView :
      ∀ (before : Gateway) (label : GatewayLabel)
        (after : Gateway),
        gatewayStep config before label = some after →
          (label.operation = none ∧
              after.merchants = before.merchants) ∨
            ∃ event,
              label.operation = some event ∧
                merchantStep config.hashApiKey
                    before.merchants event =
                  some after.merchants := by
    intro before label after hStep
    cases gatewayStep_passage hStep with
    | operated hMerchants => exact .inr ⟨_, rfl, hMerchants⟩
    | _ => exact .inl ⟨rfl, rfl⟩
  exact Lts.exec_filterMap Gateway.merchants
    GatewayLabel.operation hView hRun

/- The histories are runs of the limiter and the services. -/
structure Composed
    (config : ApiConfig)
    (gateway : Gateway) : Prop where
  checks :
    Lts.exec (rateLimitStep config.limits) {}
        gateway.checks =
      some gateway.redis
  served :
    Lts.exec (step config.services) {} gateway.served =
      some gateway.system

theorem Composed.step
    (hComposed : Composed config gateway)
    (hPassage : Passage config gateway label next) :
    Composed config next := by
  cases hPassage with
  | operated => exact ⟨hComposed.checks, hComposed.served⟩
  | undecoded => exact ⟨hComposed.checks, hComposed.served⟩
  | rejected => exact ⟨hComposed.checks, hComposed.served⟩
  | authenticated =>
      exact ⟨hComposed.checks, hComposed.served⟩
  | checked =>
      exact ⟨Lts.exec_snoc hComposed.checks rfl,
        hComposed.served⟩
  | begun _ hStep =>
      exact ⟨hComposed.checks,
        Lts.exec_snoc hComposed.served hStep⟩
  | served _ _ hStep =>
      exact ⟨hComposed.checks,
        Lts.exec_snoc hComposed.served hStep⟩

theorem composed_of_exec
    (hRun :
      Lts.exec (gatewayStep config) {} labels =
        some gateway) :
    Composed config gateway :=
  Lts.invariant_of_exec
    (fun _ _ _ hBefore hStep =>
      hBefore.step (gatewayStep_passage hStep))
    ⟨rfl, rfl⟩ hRun

end PayGuard

import PayGuard.Merchants.Service
import PayGuard.Payments.Validation
import PayGuard.Ratelimit.Service
import PayGuard.System.Machine

/-
  The API in front of the services.

  A request that creates, captures or refunds is decoded and
  authenticated, then counted against the limit of its
  merchant, then validated, and only then handed over to its
  service.  Between these awaits anything may happen: keys
  are rotated, other requests are counted, services run.
  What the framework reads out of a body is a parameter.

  Key definitions include:
    * `statusByCode`
    * `HttpRequest`
    * `solveEndpoint`
    * `Gateway`
    * `gatewayStep`
-/

------------------------------------------------------------
-- Errors
------------------------------------------------------------

namespace PayGuard

/- `_STATUS_BY_CODE`. -/
def statusByCode : List (String × Nat) :=
  [("INVALID_REQUEST", 400),
    ("INVALID_CURRENCY", 400),
    ("INVALID_AMOUNT", 400),
    ("IDEMPOTENCY_KEY_REQUIRED", 400),
    ("IDEMPOTENCY_KEY_REUSED", 409),
    ("REQUEST_IN_PROGRESS", 409),
    ("PAYMENT_NOT_FOUND", 404),
    ("REFUND_NOT_FOUND", 404),
    ("INVALID_STATE_TRANSITION", 422),
    ("PAYMENT_DECLINED", 402),
    ("PROVIDER_TIMEOUT", 504),
    ("PROVIDER_UNAVAILABLE", 503),
    ("REFUND_EXCEEDS_PAYMENT", 409),
    ("WEBHOOK_SIGNATURE_INVALID", 401),
    ("RATE_LIMITED", 429),
    ("UNAUTHORIZED", 401)]

/- An error response, without the id of its request. -/
structure ErrorResponse where
  status : Nat
  code : String
  message : String
deriving DecidableEq, Repr

/- `_payguard_error_handler`; a code it misses is a 400. -/
def payguardErrorHandler
    (code message : String) : ErrorResponse where
  status := (statusByCode.lookup code).getD 400
  code := code
  message := message

/- One entry of `exc.errors()`. -/
structure ValidationError where
  msg : Option String
deriving DecidableEq, Repr

/- `_validation_error_handler` shows the first error. -/
def validationErrorHandler
    (errors : List ValidationError) : ErrorResponse where
  status := 400
  code := "INVALID_REQUEST"
  message :=
    (errors.head?.bind (·.msg)).getD
      "The request body failed validation."

def ErrorCode.text : ErrorCode → String
| .idempotencyKeyReused => "IDEMPOTENCY_KEY_REUSED"
| .requestInProgress => "REQUEST_IN_PROGRESS"
| .paymentNotFound => "PAYMENT_NOT_FOUND"
| .refundNotFound => "REFUND_NOT_FOUND"
| .invalidStateTransition => "INVALID_STATE_TRANSITION"
| .refundExceedsPayment => "REFUND_EXCEEDS_PAYMENT"

/- What a client hears. -/
inductive HttpAnswer where
| response
    (status : Option Nat)
    (body : Option ResponseBody)
| error (error : ErrorResponse)
-- an exception without a handler
| internalServerError
deriving DecidableEq, Repr

def Failure.answer : Failure → HttpAnswer
| .payGuardError code message =>
    .error (payguardErrorHandler code.text message)
| _ => .internalServerError

------------------------------------------------------------
-- Requests
------------------------------------------------------------

structure RefundCreateRequest where
  amount : Int
deriving DecidableEq, Repr

def RefundCreateRequest.accepted
    (payload : RefundCreateRequest) : Bool :=
  0 < payload.amount

/- A path that does not name a uuid names no payment. -/
inductive Endpoint where
| createPayment
| capturePayment (paymentId : Option Uuid)
| createRefund (paymentId : Option Uuid)
deriving DecidableEq, Repr

/- The endpoint declares a body. -/
def Endpoint.hasPayload : Endpoint → Bool
| .createPayment => true
| .capturePayment _ => false
| .createRefund _ => true

structure HttpRequest where
  endpoint : Endpoint
  authorization : Option String := none
  idempotencyKey : Option String := none
  rawBody : List UInt8 := []
  clientHost : Option String := none
deriving DecidableEq, Repr

/-
  What the framework makes of a body, and what it has to say
  of a request that does not fit its endpoint.
-/
structure BodyReader where
  isJson : List UInt8 → Bool
  payment : List UInt8 → Option PaymentCreateRequest
  refund : List UInt8 → Option RefundCreateRequest
  errors : HttpRequest → List ValidationError

/- What a deployment of the API fixes. -/
structure ApiConfig where
  services : Config
  hashApiKey : String → String
  limits : RateLimitSettings := {}
  tables : CharacterTables
  reader : BodyReader

------------------------------------------------------------
-- Endpoints
------------------------------------------------------------

def requireIdempotencyKey
    (idempotencyKey : Option String) :
    Except ErrorResponse String :=
  match idempotencyKey with
  | none =>
      .error (payguardErrorHandler
        "IDEMPOTENCY_KEY_REQUIRED"
        "The Idempotency-Key header is required.")
  | some key =>
      if key = "" then
        .error (payguardErrorHandler
          "IDEMPOTENCY_KEY_REQUIRED"
          "The Idempotency-Key header is required.")
      else
        .ok key

def createPaymentEndpoint
    (http : HttpRequest)
    (merchantId : Uuid)
    (payload : PaymentCreateRequest) :
    Except ErrorResponse Action :=
  (requireIdempotencyKey http.idempotencyKey).map
    (fun key =>
      .createBegin
        (payload.createRequest merchantId key http.rawBody
          http.clientHost))

def capturePaymentEndpoint
    (http : HttpRequest)
    (merchantId paymentId : Uuid) :
    Except ErrorResponse Action :=
  (requireIdempotencyKey http.idempotencyKey).map
    (fun key =>
      .captureBegin
        { merchantId := merchantId
          paymentId := paymentId
          idempotencyKey := key
          rawBody := http.rawBody })

def createRefundEndpoint
    (http : HttpRequest)
    (merchantId paymentId : Uuid)
    (payload : RefundCreateRequest) :
    Except ErrorResponse Action :=
  (requireIdempotencyKey http.idempotencyKey).map
    (fun key =>
      .refundBegin
        { merchantId := merchantId
          paymentId := paymentId
          idempotencyKey := key
          rawBody := http.rawBody
          amountMinor := payload.amount })

/-
  The call an endpoint makes of a request let in, once its
  path and its body have been validated.
-/
def solveEndpoint
    (config : ApiConfig)
    (http : HttpRequest)
    (merchantId : Uuid) : Except ErrorResponse Action :=
  let invalid : Except ErrorResponse Action :=
    .error (validationErrorHandler
      (config.reader.errors http))
  match http.endpoint with
  | .createPayment =>
      match (config.reader.payment http.rawBody).filter
          (fun payload =>
            payload.accepted config.tables) with
      | none => invalid
      | some payload =>
          createPaymentEndpoint http merchantId payload
  | .capturePayment none => invalid
  | .capturePayment (some paymentId) =>
      capturePaymentEndpoint http merchantId paymentId
  | .createRefund none => invalid
  | .createRefund (some paymentId) =>
      match (config.reader.refund http.rawBody).filter
          (fun payload => payload.accepted) with
      | none => invalid
      | some payload =>
          createRefundEndpoint http merchantId paymentId
            payload

------------------------------------------------------------
-- The State
------------------------------------------------------------

/- How far a request has come. -/
inductive Position where
| idle
-- past `get_current_merchant`
| authenticated (http : HttpRequest) (merchantId : Uuid)
-- past `enforce_rate_limit`, with its arguments
| admitted (action : Action)
| begun
| refused (answer : HttpAnswer)
-- a webhook, a dispatch or a reconciliation
| internal
deriving DecidableEq, Repr

/-
  The merchants, the limiter and the services, with two
  histories nothing reads: the calls of the limiter and the
  steps of the services.
-/
structure Gateway where
  merchants : List Merchant := []
  redis : Redis := {}
  system : System := {}
  calls : CallId → Position := fun _ => .idle
  checks : List RateLimitCall := []
  served : List Label := []

/- Move one request, leaving everything else alone. -/
def Gateway.become
    (gateway : Gateway)
    (call : CallId)
    (position : Position) : Gateway :=
  { gateway with
    calls := Function.update gateway.calls call position }

/- Take one step of the services. -/
def Gateway.serve
    (gateway : Gateway)
    (label : Label)
    (system : System)
    (position : Position) : Gateway :=
  { gateway with
    system := system
    calls :=
      Function.update gateway.calls label.call position
    served := gateway.served ++ [label] }

------------------------------------------------------------
-- Steps
------------------------------------------------------------

/- A key in two rows is an error nothing handles. -/
def AuthFailure.answer : AuthFailure → HttpAnswer
| .unauthorized message =>
    .error (payguardErrorHandler "UNAUTHORIZED" message)
| .multipleResultsFound => .internalServerError

/- A body that is not JSON fails before any dependency. -/
def stepReceive
    (config : ApiConfig)
    (gateway : Gateway)
    (call : CallId)
    (http : HttpRequest)
    (now : Timestamp) : Option Gateway :=
  match gateway.calls call with
  | .idle =>
      if http.endpoint.hasPayload &&
          !config.reader.isJson http.rawBody then
        some (gateway.become call
          (.refused (.error (validationErrorHandler
            (config.reader.errors http)))))
      else
        match getCurrentMerchant config.hashApiKey
            gateway.merchants http.authorization now with
        | .error failure =>
            some (gateway.become call
              (.refused failure.answer))
        | .ok merchant =>
            some (gateway.become call
              (.authenticated http merchant.id))
  | _ => none

/- The token is gone even where the arguments are refused. -/
def stepEnforceRateLimit
    (config : ApiConfig)
    (gateway : Gateway)
    (call : CallId)
    (arrival : Arrival) : Option Gateway :=
  match gateway.calls call with
  | .authenticated http merchantId =>
      let check : RateLimitCall := ⟨merchantId, arrival⟩
      let checked :=
        checkRateLimit config.limits gateway.redis check
      let position : Position :=
        if checked.2 then
          match solveEndpoint config http merchantId with
          | .error error => .refused (.error error)
          | .ok action => .admitted action
        else
          .refused (.error (payguardErrorHandler
            "RATE_LIMITED"
            "Too many requests. Please try again shortly."))
      some
        { gateway.become call position with
          redis := checked.1
          checks := gateway.checks ++ [check] }
  | _ => none

def stepBegin
    (config : ApiConfig)
    (gateway : Gateway)
    (call : CallId)
    (draw : Draw) : Option Gateway :=
  match gateway.calls call with
  | .admitted action =>
      (step config.services gateway.system
        ⟨call, action, draw⟩).map
          (fun system =>
            gateway.serve ⟨call, action, draw⟩ system .begun)
  | _ => none

/- The three operations begin behind the API only. -/
def Action.begins : Action → Bool
| .createBegin _ => true
| .captureBegin _ => true
| .refundBegin _ => true
| _ => false

/- A request already begun, or a call that is none. -/
def stepServe
    (config : ApiConfig)
    (gateway : Gateway)
    (label : Label) : Option Gateway :=
  if label.action.begins then
    none
  else
    match gateway.calls label.call with
    | .begun =>
        (step config.services gateway.system label).map
          (fun system => gateway.serve label system .begun)
    | .idle =>
        (step config.services gateway.system label).map
          (fun system => gateway.serve label system .internal)
    | .internal =>
        (step config.services gateway.system label).map
          (fun system => gateway.serve label system .internal)
    | _ => none

def stepOperate
    (config : ApiConfig)
    (gateway : Gateway)
    (event : MerchantEvent) : Option Gateway :=
  (merchantStep config.hashApiKey gateway.merchants
    event).map
      (fun merchants => { gateway with merchants := merchants })

inductive GatewayLabel where
| operate (event : MerchantEvent)
| receive
    (call : CallId)
    (http : HttpRequest)
    (now : Timestamp)
| enforceRateLimit (call : CallId) (arrival : Arrival)
| begin (call : CallId) (draw : Draw)
| serve (label : Label)
deriving DecidableEq, Repr

def gatewayStep
    (config : ApiConfig)
    (gateway : Gateway) :
    GatewayLabel → Option Gateway
| .operate event => stepOperate config gateway event
| .receive call http now =>
    stepReceive config gateway call http now
| .enforceRateLimit call arrival =>
    stepEnforceRateLimit config gateway call arrival
| .begin call draw => stepBegin config gateway call draw
| .serve label => stepServe config gateway label

/- What the client of a request hears once it has ended. -/
def Gateway.answer
    (gateway : Gateway)
    (call : CallId) : Option HttpAnswer :=
  match gateway.calls call with
  | .refused answer => some answer
  | .begun =>
      match gateway.system.calls call with
      | .done (.response status body) =>
          some (.response status body)
      | .done (.raised failure) => some failure.answer
      | _ => none
  | _ => none

end PayGuard

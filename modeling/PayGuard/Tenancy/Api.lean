import PayGuard.Providers.Mock
import PayGuard.System.Machine

/-
  The API with the one mock provider its requests share.

  The labels are those of the services, but the answers of
  the provider are no longer chosen by the environment: they
  come from the state the provider has built up.

  Key definitions include:
    * `Api`
    * `ApiAction`
    * `ApiLabel`
    * `apiStep`
-/

------------------------------------------------------------
-- States And Labels
------------------------------------------------------------

namespace PayGuard

/-
  The services, the provider, and the calls that wait inside
  a slow authorization.
-/
structure Api where
  system : System := {}
  provider : MockProvider := {}
  sleeping : CallId → Bool := fun _ => false

inductive ApiAction where
| createBegin (request : CreateRequest)
| createProcess
| createAssess
| createBlock
| createSleep
| createAuthorize
| createFinish
| captureBegin (request : CaptureRequest)
| captureFinish
| refundBegin (request : RefundRequest)
| refundAnswer
| refundFinish
| reconcileLoad (paymentId merchantId : Uuid)
| reconcileNext (pick : Uuid)
| reconcileAnswer
| reconcileApply
| reconcileReport
| failRead
| failWrite
deriving DecidableEq, Repr

/- A step, with the transaction id the provider draws. -/
structure ApiLabel where
  call : CallId
  action : ApiAction
  draw : Draw := {}
  transactionId : String := ""
deriving DecidableEq, Repr

------------------------------------------------------------
-- The Provider's Answers
------------------------------------------------------------

def CreateRequest.authorizeRequest
    (request : CreateRequest) : AuthorizeRequest where
  amountMinor := request.amountMinor
  currency := request.currency
  token := request.paymentToken
  idempotencyKey := request.idempotencyKey

/- The request a call is about to have authorized. -/
def Call.authorizing : Call → Option CreateRequest
| .createAssessed request _ _ _ => some request
| _ => none

/- The action of the services, with its answer filled in. -/
def Api.serve
    (api : Api)
    (call : CallId) :
    ApiAction → Option Action
| .createBegin request => some (.createBegin request)
| .createProcess => some .createProcess
| .createAssess => some .createAssess
| .createBlock => some .createBlock
| .createSleep => none
| .createAuthorize => none
| .createFinish => some .createFinish
| .captureBegin request => some (.captureBegin request)
| .captureFinish =>
    match api.system.calls call with
    | .captureOpen _ _ intent transaction =>
        some (.captureFinish
          (MockProvider.capture
            transaction.providerTransactionId
            intent.amountMinor))
    | _ => none
| .refundBegin request => some (.refundBegin request)
| .refundAnswer =>
    match api.system.calls call with
    | .refundReserved request _ reservation =>
        let result :=
          MockProvider.refund
            reservation.transaction.providerTransactionId
            reservation.refund.amountMinor
            request.idempotencyKey
        some (.refundAnswer result
          (result.outcome = .succeeded))
    | _ => none
| .refundFinish => some .refundFinish
| .reconcileLoad paymentId merchantId =>
    some (.reconcileLoad paymentId merchantId)
| .reconcileNext pick => some (.reconcileNext pick)
| .reconcileAnswer =>
    match api.system.calls call with
    | .reconcileAsking _ key =>
        some (.reconcileAnswer
          (api.provider.getPaymentStatusByIdempotencyKey
            key))
    | _ => none
| .reconcileApply => some .reconcileApply
| .reconcileReport => some .reconcileReport
| .failRead => some .failRead
| .failWrite => some .failWrite

------------------------------------------------------------
-- Steps
------------------------------------------------------------

/- A slow authorization that has found no answer waits. -/
def apiSleep
    (api : Api)
    (call : CallId) : Option Api :=
  match (api.system.calls call).authorizing with
  | some request =>
      if api.sleeping call = false ∧
          api.provider.sleeps request.authorizeRequest then
        some
          { api with
            sleeping :=
              Function.update api.sleeping call true }
      else
        none
  | none => none

/- The answer of an authorization that does not wait. -/
def Api.authorization
    (api : Api)
    (call : CallId)
    (request : CreateRequest)
    (transactionId : String) : Option Authorization :=
  if api.sleeping call = false ∧
      api.provider.sleeps request.authorizeRequest then
    none
  else
    some (api.provider.authorize request.authorizeRequest
      (api.sleeping call) transactionId)

def apiAuthorize
    (config : Config)
    (api : Api)
    (label : ApiLabel) : Option Api :=
  match (api.system.calls label.call).authorizing with
  | none => none
  | some request =>
      match api.authorization label.call request
          label.transactionId with
      | none => none
      | some authorization =>
          (step config api.system
            ⟨label.call,
              .createAuthorize authorization.result,
              label.draw⟩).map (fun system =>
                { system := system
                  provider :=
                    api.provider.record
                      request.idempotencyKey authorization
                  sleeping :=
                    Function.update api.sleeping label.call
                      false })

def apiStep
    (config : Config)
    (api : Api)
    (label : ApiLabel) : Option Api :=
  match label.action with
  | .createSleep => apiSleep api label.call
  | .createAuthorize => apiAuthorize config api label
  | action =>
      match api.serve label.call action with
      | none => none
      | some served =>
          (step config api.system
            ⟨label.call, served, label.draw⟩).map
              (fun system => { api with system := system })

end PayGuard

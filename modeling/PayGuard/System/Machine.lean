import Mathlib.Logic.Function.Basic
import PayGuard.Lib.Runs
import PayGuard.Reconciliation.Service
import PayGuard.Webhooks.Service

/-
  The services running concurrently on one database.

  A call is a request or a worker dispatch together with
  the position it has reached.  One step of the system is
  one transaction of one call, a provider's answer to it,
  an exception in it, or the death of its process.  A
  transaction takes and releases its locks inside its step;
  only a capture keeps the payment row and its key row, and
  a dispatch its outbox row, from one step to the next.

  Key definitions include:
    * `Call`
    * `System`
    * `Action`
    * `Label`
    * `Config`
    * `step`
-/

------------------------------------------------------------
-- Calls
------------------------------------------------------------

namespace PayGuard

abbrev CallId := Nat

/- The key row a call has claimed. -/
structure ClaimedKey where
  id : Uuid
  merchantId : Uuid
  idempotencyKey : String
deriving DecidableEq, Repr

def IdempotencyKey.claimedKey
    (keyRow : IdempotencyKey) : ClaimedKey :=
  ⟨keyRow.id, keyRow.merchantId, keyRow.idempotencyKey⟩

/- How a call ended. -/
inductive Reply where
| response
    (status : Option Nat)
    (body : Option ResponseBody)
| raised (failure : Failure)
| report (report : ReconciliationReport)
| dispatched
| received
deriving DecidableEq, Repr

/- The position of a call between two of its steps. -/
inductive Call where
| idle
-- `create_payment`, after its first, second and third commit
| createClaimed
    (request : CreateRequest)
    (key : ClaimedKey)
    (intent : PaymentIntent)
| createProcessing
    (request : CreateRequest)
    (key : ClaimedKey)
    (intent : PaymentIntent)
| createAssessed
    (request : CreateRequest)
    (key : ClaimedKey)
    (intent : PaymentIntent)
    (level : RiskLevel)
| createAuthorized
    (request : CreateRequest)
    (key : ClaimedKey)
    (intent : PaymentIntent)
    (result : ProviderResult)
-- `capture_payment`, inside its one transaction
| captureOpen
    (request : CaptureRequest)
    (keyRow : IdempotencyKey)
    (intent : PaymentIntent)
    (transaction : ProviderTransaction)
-- `refund_payment`, after its first commit
| refundReserved
    (request : RefundRequest)
    (key : ClaimedKey)
    (reservation : Reservation)
| refundAnswered
    (request : RefundRequest)
    (key : ClaimedKey)
    (reservation : Reservation)
    (result : ProviderResult)
-- `process_next`, before it locks the payment
| dispatchOpen
    (outboxEventId webhookEventId : Uuid)
    (plan : WebhookPlan)
-- `reconcile_payment`
| reconcileLoaded (intent : PaymentIntent)
| reconcileAsking
    (intent : PaymentIntent)
    (idempotencyKey : String)
| reconcileAnswered
    (intent : PaymentIntent)
    (result : ProviderResult)
| reconcileReporting (report : ReconciliationReport)
-- `_fail_claim_and_raise`, after its rollback and its read
| failing (key : ClaimedKey) (failure : Failure)
| failureSeen (key : ClaimedKey) (failure : Failure)
| done (reply : Reply)
| dead
deriving DecidableEq, Repr

------------------------------------------------------------
-- States
------------------------------------------------------------

/- A call the provider has answered, and its true effect. -/
inductive ProviderCall where
| authorize
    (paymentId : Uuid)
    (request : AuthorizeRequest)
    (result : ProviderResult)
| capture
    (paymentId : Uuid)
    (providerTransactionId : String)
    (amountMinor : Int)
    (result : ProviderResult)
| refund
    (paymentId refundId : Uuid)
    (providerTransactionId : String)
    (amountMinor : Int)
    (idempotencyKey : String)
    (result : ProviderResult)
    (executed : Bool)
| lookup
    (paymentId : Uuid)
    (idempotencyKey : String)
    (result : ProviderResult)
deriving DecidableEq, Repr

/- A row committed on behalf of an idempotency key. -/
inductive CreatedRow where
| payment (id : Uuid)
| refund (id : Uuid)
deriving DecidableEq, Repr

structure Origin where
  merchantId : Uuid
  idempotencyKey : String
  row : CreatedRow
deriving DecidableEq, Repr

/-
  The committed database, the calls, the row locks held
  between steps, and two histories no service reads: the
  provider's calls and the rows created under each key.
-/
structure System where
  db : Database := {}
  calls : CallId → Call := fun _ => .idle
  paymentLock : Uuid → Option CallId := fun _ => none
  keyLock : Uuid × String → Option CallId := fun _ => none
  outboxLock : Uuid → Option CallId := fun _ => none
  providerCalls : List ProviderCall := []
  origins : List Origin := []

/- What the deployment fixes. -/
structure Config where
  lockRead : LockRead := .current
  sha256 : List UInt8 → String
  providerName : String := "mock"
  -- what `ix_payment_intents_merchant_reference` can hold
  indexable : PyString → Bool := fitsIndexPage

namespace System

/- Move one call, leaving everything else alone. -/
def become
    (system : System)
    (call : CallId)
    (position : Call) : System :=
  { system with
    calls := Function.update system.calls call position }

/- Commit one transaction and move its call. -/
def commit
    (system : System)
    (call : CallId)
    (db : Database)
    (position : Call) : System :=
  { system with
    db := db
    calls := Function.update system.calls call position }

/- Drop every lock of a call whose transaction ended. -/
def release
    (system : System)
    (call : CallId) : System :=
  { system with
    paymentLock := fun payment =>
      if system.paymentLock payment = some call then
        none
      else
        system.paymentLock payment
    keyLock := fun key =>
      if system.keyLock key = some call then
        none
      else
        system.keyLock key
    outboxLock := fun event =>
      if system.outboxLock event = some call then
        none
      else
        system.outboxLock event }

/- Remember an answered provider call. -/
def observe
    (system : System)
    (providerCall : ProviderCall) : System :=
  { system with
    providerCalls := system.providerCalls ++ [providerCall] }

/- Remember which key a committed row belongs to. -/
def recordOrigin
    (system : System)
    (key : ClaimedKey)
    (row : CreatedRow) : System :=
  { system with
    origins :=
      system.origins ++
        [⟨key.merchantId, key.idempotencyKey, row⟩] }

/- No open transaction holds the payment row. -/
def paymentFree
    (system : System)
    (payment : Uuid) : Bool :=
  system.paymentLock payment = none

/- No open transaction holds the key row. -/
def keyFree
    (system : System)
    (key : ClaimedKey) : Bool :=
  system.keyLock (key.merchantId, key.idempotencyKey) = none

end System

------------------------------------------------------------
-- Claiming A Key
------------------------------------------------------------

/- What each operation hashes into its fingerprint. -/
def createFingerprint
    (config : Config)
    (request : CreateRequest) : String :=
  computeFingerprint config.sha256 "POST" "/v1/payments"
    request.rawBody

def captureFingerprint
    (config : Config)
    (request : CaptureRequest) : String :=
  computeFingerprint config.sha256 "POST"
    ("/v1/payments/" ++ toString request.paymentId ++
      "/capture")
    request.rawBody

def refundFingerprint
    (config : Config)
    (request : RefundRequest) : String :=
  computeFingerprint config.sha256 "POST"
    ("/v1/payments/" ++ toString request.paymentId ++
      "/refunds")
    request.rawBody

def keyReused : Failure :=
  .payGuardError .idempotencyKeyReused
    ("This idempotency key was previously used with a " ++
      "different request.")

def requestInProgress : Failure :=
  .payGuardError .requestInProgress
    ("A request with this idempotency key is already " ++
      "being processed.")

/-
  The common head of the three operations.  `work` runs in
  the transaction of a claim that went through.
-/
def stepClaim
    (system : System)
    (call : CallId)
    (merchantId : Uuid)
    (idempotencyKey fingerprint : String)
    (draw : Draw)
    (work : IdempotencyKey → Option System) :
    Option System :=
  match system.calls call with
  | .idle =>
      match claimIdempotencyKey system.db merchantId
          idempotencyKey fingerprint draw with
      | none => none
      | some (.conflict _) =>
          some (system.become call
            (.done (.raised keyReused)))
      | some (.inProgress _) =>
          some (system.become call
            (.done (.raised requestInProgress)))
      | some (.replay keyRow) =>
          some (system.become call
            (.done (.response keyRow.responseStatus
              keyRow.responseBody)))
      | some (.claimed keyRow) =>
          if system.keyFree keyRow.claimedKey then
            work keyRow
          else
            none
  | _ => none

------------------------------------------------------------
-- Creating
------------------------------------------------------------

def stepCreateBegin
    (config : Config)
    (system : System)
    (call : CallId)
    (request : CreateRequest)
    (draw : Draw) : Option System :=
  stepClaim system call request.merchantId
    request.idempotencyKey
    (createFingerprint config request)
    draw
    (fun keyRow =>
      match createInsert config.indexable system.db request
          keyRow draw with
      | .error failure =>
          some (system.become call
            (.failing keyRow.claimedKey failure))
      | .ok (db, intent) =>
          some ((system.commit call db
            (.createClaimed request keyRow.claimedKey
              intent)).recordOrigin keyRow.claimedKey
                (.payment intent.id)))

def stepCreateProcess
    (config : Config)
    (system : System)
    (call : CallId)
    (draw : Draw) : Option System :=
  match system.calls call with
  | .createClaimed request key intent =>
      if system.paymentFree intent.id then
        match createProcess system.db
            (lockPayment config.lockRead system.db
              (some intent) intent.id request.merchantId)
            draw with
        | .error failure =>
            some (system.become call (.failing key failure))
        | .ok (db, intent) =>
            some (system.commit call db
              (.createProcessing request key intent))
      else
        none
  | _ => none

def stepCreateAssess
    (system : System)
    (call : CallId)
    (draw : Draw) : Option System :=
  match system.calls call with
  | .createProcessing request key intent =>
      let assessed :=
        createAssess system.db request intent draw
      some (system.commit call assessed.1
        (.createAssessed request key intent
          assessed.2.level))
  | _ => none

def stepCreateBlock
    (config : Config)
    (system : System)
    (call : CallId)
    (draw : Draw) : Option System :=
  match system.calls call with
  | .createAssessed request key intent .block =>
      if system.paymentFree intent.id &&
          system.keyFree key then
        match createBlock system.db
            (lockPayment config.lockRead system.db
              (some intent) intent.id request.merchantId)
            key.id draw with
        | .error failure =>
            some (system.become call (.failing key failure))
        | .ok (db, response) =>
            some (system.commit call db
              (.done (.response response.status
                response.body)))
      else
        none
  | _ => none

def stepCreateAuthorize
    (system : System)
    (call : CallId)
    (result : ProviderResult) : Option System :=
  match system.calls call with
  | .createAssessed request key intent level =>
      if level = .block then
        none
      else
        some ((system.become call
          (.createAuthorized request key intent
            result)).observe
              (.authorize intent.id
                { amountMinor := request.amountMinor
                  currency := request.currency
                  token := request.paymentToken
                  idempotencyKey := request.idempotencyKey }
                result))
  | _ => none

def stepCreateFinish
    (config : Config)
    (system : System)
    (call : CallId)
    (draw : Draw) : Option System :=
  match system.calls call with
  | .createAuthorized request key intent result =>
      if system.paymentFree intent.id &&
          system.keyFree key then
        match createFinish system.db
            (lockPayment config.lockRead system.db
              (some intent) intent.id request.merchantId)
            key.id config.providerName result draw with
        | .error failure =>
            some (system.become call (.failing key failure))
        | .ok (db, response) =>
            some (system.commit call db
              (.done (.response response.status
                response.body)))
      else
        none
  | _ => none

------------------------------------------------------------
-- Capturing
------------------------------------------------------------

/-
  A capture that calls the provider keeps its transaction
  open: the payment row and the claimed key row stay locked.
-/
def stepCaptureBegin
    (config : Config)
    (system : System)
    (call : CallId)
    (request : CaptureRequest)
    (draw : Draw) : Option System :=
  stepClaim system call request.merchantId
    request.idempotencyKey
    (captureFingerprint config request)
    draw
    (fun keyRow =>
      if system.paymentFree request.paymentId then
        match captureCheck system.db
            (lockPayment config.lockRead system.db none
              request.paymentId request.merchantId)
            request.paymentId with
        | .error failure =>
            some (system.become call
              (.failing keyRow.claimedKey failure))
        | .ok (.settled intent) =>
            let settled :=
              captureSettled system.db intent keyRow
            some (system.commit call settled.1
              (.done (.response settled.2.status
                settled.2.body)))
        | .ok (.callProvider intent transaction) =>
            some
              { system.become call
                  (.captureOpen request keyRow intent
                    transaction) with
                paymentLock :=
                  Function.update system.paymentLock
                    intent.id (some call)
                keyLock :=
                  Function.update system.keyLock
                    (keyRow.merchantId,
                      keyRow.idempotencyKey)
                    (some call) }
      else
        none)

/- An uncommitted key row keeps its identifier to itself. -/
def Database.AdmitsKey
    (db : Database)
    (keyRow : IdempotencyKey) : Prop :=
  ∀ row ∈ db.keys,
    row.id = keyRow.id →
      row.merchantId = keyRow.merchantId ∧
        row.idempotencyKey = keyRow.idempotencyKey

instance
    (db : Database)
    (keyRow : IdempotencyKey) :
    Decidable (db.AdmitsKey keyRow) := by
  unfold Database.AdmitsKey
  infer_instance

def stepCaptureFinish
    (system : System)
    (call : CallId)
    (result : ProviderResult)
    (draw : Draw) : Option System :=
  match system.calls call with
  | .captureOpen _ keyRow intent transaction =>
      if system.db.AdmitsKey keyRow then
        let answered :=
          (system.release call).observe
            (.capture intent.id
              transaction.providerTransactionId
              intent.amountMinor result)
        match captureFinish system.db intent keyRow result
            draw with
        | .error failure =>
            some (answered.become call
              (.failing keyRow.claimedKey failure))
        | .ok (db, response) =>
            some (answered.commit call db
              (.done (.response response.status
                response.body)))
      else
        none
  | _ => none

------------------------------------------------------------
-- Refunding
------------------------------------------------------------

def stepRefundBegin
    (config : Config)
    (system : System)
    (call : CallId)
    (request : RefundRequest)
    (draw : Draw) : Option System :=
  stepClaim system call request.merchantId
    request.idempotencyKey
    (refundFingerprint config request)
    draw
    (fun keyRow =>
      if system.paymentFree request.paymentId then
        match refundReserve system.db
            (lockPayment config.lockRead system.db none
              request.paymentId request.merchantId)
            request keyRow draw with
        | .error failure =>
            some (system.become call
              (.failing keyRow.claimedKey failure))
        | .ok (db, reservation) =>
            some ((system.commit call db
              (.refundReserved request keyRow.claimedKey
                reservation)).recordOrigin keyRow.claimedKey
                  (.refund reservation.refund.id))
      else
        none)

/- The true effects an outcome of a refund call allows. -/
def ProviderOutcome.mayExecute :
    ProviderOutcome → Bool → Bool
| .succeeded, executed => executed
| .declined, executed => !executed
| .temporaryFailure, executed => !executed
| .unknown, _ => true

def stepRefundAnswer
    (system : System)
    (call : CallId)
    (result : ProviderResult)
    (executed : Bool) : Option System :=
  match system.calls call with
  | .refundReserved request key reservation =>
      if result.outcome.mayExecute executed then
        some ((system.become call
          (.refundAnswered request key reservation
            result)).observe
              (.refund reservation.refund.paymentIntentId
                reservation.refund.id
                reservation.transaction.providerTransactionId
                reservation.refund.amountMinor
                request.idempotencyKey result executed))
      else
        none
  | _ => none

def stepRefundFinish
    (config : Config)
    (system : System)
    (call : CallId)
    (draw : Draw) : Option System :=
  match system.calls call with
  | .refundAnswered request key reservation result =>
      if system.paymentFree request.paymentId &&
          system.keyFree key then
        match refundFinalize system.db
            (lockPayment config.lockRead system.db
              (some reservation.intent) request.paymentId
              request.merchantId)
            reservation.refund key.id result draw with
        | .error failure =>
            some (system.become call (.failing key failure))
        | .ok (db, response) =>
            some (system.commit call db
              (.done (.response response.status
                response.body)))
      else
        none
  | _ => none

------------------------------------------------------------
-- Webhooks
------------------------------------------------------------

def stepReceiveWebhook
    (system : System)
    (call : CallId)
    (delivery : WebhookDelivery)
    (draw : Draw) : Option System :=
  match system.calls call with
  | .idle =>
      some (system.commit call
        (receiveWebhook system.db delivery draw)
        (.done .received))
  | _ => none

/- The webhook a dispatched outbox row refers to. -/
def dispatchPlan
    (db : Database)
    (event : OutboxEvent)
    (pick : Uuid) : Uuid × WebhookPlan :=
  match event.payload with
  | .webhook webhookEventId =>
      if event.eventType = "webhook.received" then
        (webhookEventId,
          planWebhookEvent db webhookEventId pick)
      else
        (webhookEventId, .skip)
  | .payment paymentId _ => (paymentId, .skip)

/-
  `process_next` claims a pending outbox row with
  `SKIP LOCKED` and runs the handler up to its unlocked
  read of the payment.
-/
def stepDispatchBegin
    (system : System)
    (call : CallId)
    (outboxEventId pick : Uuid) : Option System :=
  match system.calls call with
  | .idle =>
      match system.db.outbox.find? (fun event =>
          event.id = outboxEventId) with
      | none => none
      | some event =>
          if event.status = .pending ∧
              system.outboxLock outboxEventId = none then
            let plan := dispatchPlan system.db event pick
            some
              { system.become call
                  (.dispatchOpen outboxEventId plan.1
                    plan.2) with
                outboxLock :=
                  Function.update system.outboxLock
                    outboxEventId (some call) }
          else
            none
  | _ => none

/- The database a dispatch commits, once it has its lock. -/
def dispatchEffect
    (config : Config)
    (db : Database)
    (webhookEventId : Uuid)
    (plan : WebhookPlan)
    (draw : Draw) : Except Failure Database :=
  match plan with
  | .skip => .ok db
  | .ignore =>
      .ok (setProcessingStatus db webhookEventId .ignored)
  | .outcome targetStatus intent =>
      handlePaymentOutcome db
        (lockPayment config.lockRead db (some intent)
          intent.id intent.merchantId)
        webhookEventId targetStatus draw

/- A dispatch only waits for the payment it changes. -/
def System.dispatchReady
    (system : System)
    (plan : WebhookPlan) : Bool :=
  match plan with
  | .outcome _ intent => system.paymentFree intent.id
  | _ => true

def stepDispatchFinish
    (config : Config)
    (system : System)
    (call : CallId)
    (draw : Draw) : Option System :=
  match system.calls call with
  | .dispatchOpen outboxEventId webhookEventId plan =>
      if system.dispatchReady plan then
        match dispatchEffect config system.db webhookEventId
            plan draw with
        | .error failure =>
            some ((system.release call).become call
              (.done (.raised failure)))
        | .ok db =>
            some ((system.release call).commit call
              (markProcessed db outboxEventId)
              (.done .dispatched))
      else
        none
  | _ => none

------------------------------------------------------------
-- Reconciling
------------------------------------------------------------

/- A pass loads the payments in `UNKNOWN` into its session. -/
def stepReconcileLoad
    (system : System)
    (call : CallId)
    (paymentId merchantId : Uuid) : Option System :=
  match system.calls call with
  | .idle =>
      match system.db.selectPayment paymentId merchantId with
      | none => none
      | some intent =>
          if intent.status = .unknown then
            some (system.become call
              (.reconcileLoaded intent))
          else
            none
  | _ => none

/- The first locked transaction, from either entry point. -/
def reconcileLock
    (config : Config)
    (system : System)
    (call : CallId)
    (loaded : Option PaymentIntent)
    (paymentId merchantId pick : Uuid) : Option System :=
  if system.paymentFree paymentId then
    match reconcileCheck system.db
        (lockPayment config.lockRead system.db loaded
          paymentId merchantId)
        paymentId pick with
    | .error failure =>
        some (system.become call (.done (.raised failure)))
    | .ok (.report report) =>
        some (system.become call
          (.reconcileReporting report))
    | .ok (.ask intent key) =>
        some (system.become call
          (.reconcileAsking intent key))
  else
    none

def stepReconcileBegin
    (config : Config)
    (system : System)
    (call : CallId)
    (paymentId merchantId pick : Uuid) : Option System :=
  match system.calls call with
  | .idle =>
      reconcileLock config system call none paymentId
        merchantId pick
  | _ => none

def stepReconcileNext
    (config : Config)
    (system : System)
    (call : CallId)
    (pick : Uuid) : Option System :=
  match system.calls call with
  | .reconcileLoaded intent =>
      reconcileLock config system call (some intent)
        intent.id intent.merchantId pick
  | _ => none

def stepReconcileAnswer
    (system : System)
    (call : CallId)
    (result : ProviderResult) : Option System :=
  match system.calls call with
  | .reconcileAsking intent key =>
      some ((system.become call
        (.reconcileAnswered intent result)).observe
          (.lookup intent.id key result))
  | _ => none

def stepReconcileApply
    (config : Config)
    (system : System)
    (call : CallId)
    (draw : Draw) : Option System :=
  match system.calls call with
  | .reconcileAnswered intent result =>
      if system.paymentFree intent.id then
        match reconcileApply system.db
            (lockPayment config.lockRead system.db
              (some intent) intent.id intent.merchantId)
            config.providerName result draw with
        | .error failure =>
            some (system.become call
              (.done (.raised failure)))
        | .ok (db, report) =>
            some (system.commit call db
              (.reconcileReporting report))
      else
        none
  | _ => none

def stepReconcileReport
    (system : System)
    (call : CallId) : Option System :=
  match system.calls call with
  | .reconcileReporting report =>
      some (system.commit call
        (writeReport system.db report)
        (.done (.report report)))
  | _ => none

------------------------------------------------------------
-- Exceptions And Death
------------------------------------------------------------

/-
  An exception at the call's position.  Inside the claimed
  part of the three operations it reaches
  `_fail_claim_and_raise`; elsewhere it ends the call.
-/
def stepRaise
    (system : System)
    (call : CallId)
    (failure : Failure) : Option System :=
  match system.calls call with
  | .createClaimed _ key _ =>
      some (system.become call (.failing key failure))
  | .createProcessing _ key _ =>
      some (system.become call (.failing key failure))
  | .createAssessed _ key _ _ =>
      some (system.become call (.failing key failure))
  | .createAuthorized _ key _ _ =>
      some (system.become call (.failing key failure))
  | .captureOpen _ keyRow _ _ =>
      some ((system.release call).become call
        (.failing keyRow.claimedKey failure))
  | .refundReserved _ key _ =>
      some (system.become call (.failing key failure))
  | .refundAnswered _ key _ _ =>
      some (system.become call (.failing key failure))
  | .dispatchOpen _ _ _ =>
      some ((system.release call).become call
        (.done (.raised failure)))
  | .reconcileLoaded _ =>
      some (system.become call (.done (.raised failure)))
  | .reconcileAsking _ _ =>
      some (system.become call (.done (.raised failure)))
  | .reconcileAnswered _ _ =>
      some (system.become call (.done (.raised failure)))
  | .reconcileReporting _ =>
      some (system.become call (.done (.raised failure)))
  | _ => none

/- After its rollback the handler reads the key row anew. -/
def stepFailRead
    (system : System)
    (call : CallId) : Option System :=
  match system.calls call with
  | .failing key failure =>
      match system.db.getKey key.id with
      | none =>
          some (system.become call (.done (.raised failure)))
      | some keyRow =>
          if keyRow.status = .pending then
            some (system.become call
              (.failureSeen key failure))
          else
            some (system.become call
              (.done (.raised failure)))
  | _ => none

def stepFailWrite
    (system : System)
    (call : CallId) : Option System :=
  match system.calls call with
  | .failureSeen key failure =>
      if system.keyFree key then
        some (system.commit call
          (failIdempotencyKey system.db key.id)
          (.done (.raised failure)))
      else
        none
  | _ => none

/- The process dies; its open transaction is rolled back. -/
def stepDie
    (system : System)
    (call : CallId) : Option System :=
  match system.calls call with
  | .idle => none
  | .done _ => none
  | .dead => none
  | _ => some ((system.release call).become call .dead)

------------------------------------------------------------
-- Steps
------------------------------------------------------------

inductive Action where
| createBegin (request : CreateRequest)
| createProcess
| createAssess
| createBlock
| createAuthorize (result : ProviderResult)
| createFinish
| captureBegin (request : CaptureRequest)
| captureFinish (result : ProviderResult)
| refundBegin (request : RefundRequest)
| refundAnswer (result : ProviderResult) (executed : Bool)
| refundFinish
| receiveWebhook (delivery : WebhookDelivery)
| dispatchBegin (outboxEventId pick : Uuid)
| dispatchFinish
| reconcileLoad (paymentId merchantId : Uuid)
| reconcileBegin (paymentId merchantId pick : Uuid)
| reconcileNext (pick : Uuid)
| reconcileAnswer (result : ProviderResult)
| reconcileApply
| reconcileReport
| raise (failure : Failure)
| failRead
| failWrite
| die
deriving DecidableEq, Repr

structure Label where
  call : CallId
  action : Action
  draw : Draw := {}
deriving DecidableEq, Repr

/- The step of one call, whatever it draws. -/
def callStep
    (config : Config)
    (system : System)
    (call : CallId)
    (draw : Draw) :
    Action → Option System
| .createBegin request =>
    stepCreateBegin config system call request draw
| .createProcess => stepCreateProcess config system call draw
| .createAssess => stepCreateAssess system call draw
| .createBlock => stepCreateBlock config system call draw
| .createAuthorize result =>
    stepCreateAuthorize system call result
| .createFinish => stepCreateFinish config system call draw
| .captureBegin request =>
    stepCaptureBegin config system call request draw
| .captureFinish result =>
    stepCaptureFinish system call result draw
| .refundBegin request =>
    stepRefundBegin config system call request draw
| .refundAnswer result executed =>
    stepRefundAnswer system call result executed
| .refundFinish => stepRefundFinish config system call draw
| .receiveWebhook delivery =>
    stepReceiveWebhook system call delivery draw
| .dispatchBegin outboxEventId pick =>
    stepDispatchBegin system call outboxEventId pick
| .dispatchFinish =>
    stepDispatchFinish config system call draw
| .reconcileLoad paymentId merchantId =>
    stepReconcileLoad system call paymentId merchantId
| .reconcileBegin paymentId merchantId pick =>
    stepReconcileBegin config system call paymentId
      merchantId pick
| .reconcileNext pick =>
    stepReconcileNext config system call pick
| .reconcileAnswer result =>
    stepReconcileAnswer system call result
| .reconcileApply =>
    stepReconcileApply config system call draw
| .reconcileReport => stepReconcileReport system call
| .raise failure => stepRaise system call failure
| .failRead => stepFailRead system call
| .failWrite => stepFailWrite system call
| .die => stepDie system call

/- A step whose uuids are fresh. -/
def step
    (config : Config)
    (system : System)
    (label : Label) : Option System :=
  if system.db.Admits label.draw then
    callStep config system label.call label.draw label.action
  else
    none

------------------------------------------------------------
-- A Captured Payment
------------------------------------------------------------

/- One number for every identifier a step may draw. -/
def Draw.numbered
    (number : Nat)
    (now : Timestamp := 0) : Draw where
  now := now
  serverNow := now
  key := number
  payment := number
  attempt := number
  refund := number
  outbox := number
  webhook := number
  ledgerTransaction := number

/- A digest that tells any two inputs apart. -/
def spellOut (input : List UInt8) : String :=
  String.ofList
    (input.map (fun byte => Char.ofNat byte.toNat))

def ProviderResult.approved
    (transactionId : String) : ProviderResult where
  outcome := .succeeded
  providerTransactionId := some transactionId
  rawStatus := "succeeded"

/- Payment 1 of merchant 1 is authorized for 100. -/
def authorizedRun : List Label :=
  [⟨0, .createBegin
      { merchantId := 1
        idempotencyKey := "create"
        amountMinor := 100
        currency := "USD"
        paymentToken := "tok_visa" }, .numbered 1⟩,
    ⟨0, .createProcess, .numbered 2⟩,
    ⟨0, .createAssess, .numbered 3⟩,
    ⟨0, .createAuthorize (.approved "txn"), .numbered 4⟩,
    ⟨0, .createFinish, .numbered 5⟩]

/- Payment 1 of merchant 1 is captured. -/
def capturedRun : List Label :=
  authorizedRun ++
    [⟨1, .captureBegin
        { merchantId := 1
          paymentId := 1
          idempotencyKey := "capture" }, .numbered 6⟩,
      ⟨1, .captureFinish (.approved "txn"), .numbered 7⟩]

end PayGuard

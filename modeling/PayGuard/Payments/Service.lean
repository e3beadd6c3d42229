import Mathlib.Data.List.MinMax
import PayGuard.Idempotency.Service
import PayGuard.Ledger.Service
import PayGuard.Risk.Service

/-
  Payment creation, capture and refund.

  Each operation is cut at its commits.  A definition below
  is the body of one transaction: it takes the database as
  the transaction sees it and the payment object its
  `lock_payment` returned, and yields the database it
  commits or the exception it raises.

  Key definitions include:
    * `lockPayment`
    * `applyTransition`
    * `latestSuccessfulProviderTransaction`
    * `createInsert`, `createProcess`, `createAssess`,
      `createBlock` and `createFinish`
    * `captureCheck`, `captureSettled` and `captureFinish`
    * `refundReserve` and `refundFinalize`
-/

------------------------------------------------------------
-- Serialized Responses
------------------------------------------------------------

namespace PayGuard

structure Response where
  status : Nat
  body : ResponseBody
deriving DecidableEq, Repr

def serializePayment (intent : PaymentIntent) : ResponseBody :=
  .payment intent.id intent.status intent.amountMinor
    intent.currency intent.merchantReference intent.createdAt

def serializeRefund (refund : Refund) : ResponseBody :=
  .refund refund.id refund.paymentIntentId refund.amountMinor
    refund.status refund.createdAt

------------------------------------------------------------
-- Locking A Payment
------------------------------------------------------------

/-
  What a `SELECT ... FOR UPDATE` yields for a row whose
  object the session already holds: the row as committed,
  or the object with the values it was loaded with.
-/
inductive LockRead where
| current
| identityMap
deriving DecidableEq, Repr

def lockPayment
    (lockRead : LockRead)
    (db : Database)
    (loaded : Option PaymentIntent)
    (paymentId merchantId : Uuid) : Option PaymentIntent :=
  match db.selectPayment paymentId merchantId with
  | none => none
  | some row =>
      match lockRead, loaded with
      | .identityMap, some object =>
          if object.id = row.id then
            some object
          else
            some row
      | _, _ => some row

------------------------------------------------------------
-- Applying A Transition
------------------------------------------------------------

/- The object after `apply_transition` changed it. -/
def PaymentIntent.moveTo
    (intent : PaymentIntent)
    (toStatus : PaymentStatus) : PaymentIntent :=
  { intent with
    status := toStatus
    version := intent.version + 1 }

/-
  The flushed `UPDATE` of a changed object.  A column whose
  value equals the loaded one is left out of the statement.
-/
def flushPayment
    (loaded changed row : PaymentIntent) : PaymentIntent :=
  { row with
    status :=
      if changed.status = loaded.status then
        row.status
      else
        changed.status
    version :=
      if changed.version = loaded.version then
        row.version
      else
        changed.version }

/- The three writes of one transition. -/
def Database.recordTransition
    (db : Database)
    (intent : PaymentIntent)
    (toStatus : PaymentStatus)
    (actor : Actor)
    (outboxEventType : String)
    (draw : Draw) : Database :=
  { db with
    payments :=
      Table.updateWhere (fun row => row.id = intent.id)
        (flushPayment intent (intent.moveTo toStatus))
        db.payments
    events :=
      db.events ++
        [{ paymentIntentId := intent.id
           fromStatus := some intent.status
           toStatus := toStatus
           actor := actor
           createdAt := draw.serverNow }]
    outbox :=
      db.outbox ++
        [{ id := draw.outbox
           aggregateType := .paymentIntent
           aggregateId := intent.id
           eventType := outboxEventType
           payload := .payment intent.id (some toStatus) }] }

def applyTransition
    (db : Database)
    (intent : PaymentIntent)
    (toStatus : PaymentStatus)
    (actor : Actor)
    (outboxEventType : String)
    (draw : Draw) :
    Except Failure (Database × PaymentIntent) :=
  if isValidPaymentTransition intent.status toStatus
      (some actor) then
    .ok
      (db.recordTransition intent toStatus actor
          outboxEventType draw,
        intent.moveTo toStatus)
  else
    .error
      (.invalidStateTransition intent.status toStatus
        (some actor))

------------------------------------------------------------
-- Attempts And Provider Transactions
------------------------------------------------------------

def failureClassification :
    ProviderOutcome → Option FailureClassification
| .succeeded => none
| .declined => some .permanent
| .temporaryFailure => some .transient
| .unknown => some .unknown

/- Attempts recorded so far, plus one. -/
def nextAttemptNumber
    (db : Database)
    (paymentIntentId : Uuid) : Nat :=
  db.attempts.countP (fun attempt =>
    attempt.paymentIntentId = paymentIntentId) + 1

/- Flush one attempt against its unique constraint. -/
def insertAttempt
    (db : Database)
    (attempt : PaymentAttempt) :
    Except Failure Database :=
  if db.attempts.any (fun other =>
      other.paymentIntentId = attempt.paymentIntentId ∧
        other.attemptNumber = attempt.attemptNumber) then
    .error (.integrityError
      "uq_payment_attempts_intent_attempt_no")
  else
    .ok { db with attempts := db.attempts ++ [attempt] }

/-
  Flush the provider transaction of an answered call, if
  the answer carries an identifier.
-/
def insertProviderTransaction
    (db : Database)
    (attemptId : Uuid)
    (providerName : String)
    (result : ProviderResult) :
    Except Failure Database :=
  match result.providerTransactionId with
  | none => .ok db
  | some transactionId =>
      if db.providerTransactions.any (fun other =>
          other.providerName = providerName ∧
            other.providerTransactionId = transactionId) then
        .error (.integrityError
          "uq_provider_transactions_provider_txn")
      else
        .ok
          { db with
            providerTransactions :=
              db.providerTransactions ++
                [{ paymentAttemptId := attemptId
                   providerName := providerName
                   providerTransactionId := transactionId
                   rawStatus := result.rawStatus
                   rawResponse := result.rawResponse }] }

/- The transaction of the last successful attempt. -/
def latestSuccessfulProviderTransaction
    (db : Database)
    (paymentIntentId : Uuid) : Option ProviderTransaction :=
  let joined :=
    db.attempts.filterMap (fun attempt =>
      if attempt.paymentIntentId = paymentIntentId ∧
          attempt.status = .succeeded then
        (db.providerTransactions.find? (fun transaction =>
          transaction.paymentAttemptId = attempt.id)).map
            (fun transaction =>
              (attempt.attemptNumber, transaction))
      else
        none)
  (joined.argmax (fun row => row.1)).map (fun row => row.2)

------------------------------------------------------------
-- Creating A Payment
------------------------------------------------------------

structure CreateRequest where
  merchantId : Uuid
  idempotencyKey : String
  rawBody : List UInt8 := []
  amountMinor : Int
  currency : String
  merchantReference : Option PyString := none
  paymentToken : String
  billingCountry : Option String := none
  shippingCountry : Option String := none
  customerIp : Option String := none
deriving DecidableEq, Repr

/- `CHECK (currency ~ '^[A-Z]{3}$')`. -/
def currencyIsIso4217 (currency : String) : Bool :=
  currency.length = 3 &&
    currency.toList.all (fun letter =>
      'A' ≤ letter && letter ≤ 'Z')

/- The values a `BIGINT` column holds. -/
def fitsBigInteger (value : Int) : Bool :=
  -9223372036854775808 ≤ value &&
    value ≤ 9223372036854775807

/- A reference this short is indexed as it is. -/
def fitsIndexPage (value : PyString) : Bool :=
  (value.map CodePoint.utf8Size).sum ≤ 2676

/-
  Flush a payment against its columns, the checks of its
  table and the index of its reference.  Which texts the
  index takes is up to the server, which may compress them.
-/
def insertPayment
    (indexable : PyString → Bool)
    (db : Database)
    (intent : PaymentIntent) :
    Except Failure Database :=
  if !(fitsBigInteger intent.amountMinor &&
      intent.merchantReference.all PyString.storable) then
    .error .external
  else if ¬ 0 < intent.amountMinor then
    .error (.integrityError
      "ck_payment_intents_amount_positive")
  else if !currencyIsIso4217 intent.currency then
    .error (.integrityError
      "ck_payment_intents_currency_iso4217")
  else if !intent.merchantReference.all indexable then
    .error .external
  else
    .ok { db with payments := db.payments ++ [intent] }

/- The first transaction: claim and payment together. -/
def createInsert
    (indexable : PyString → Bool)
    (db : Database)
    (request : CreateRequest)
    (keyRow : IdempotencyKey)
    (draw : Draw) :
    Except Failure (Database × PaymentIntent) :=
  let intent : PaymentIntent :=
    { id := draw.payment
      merchantId := request.merchantId
      amountMinor := request.amountMinor
      currency := request.currency
      merchantReference := request.merchantReference
      status := .created
      createdAt := draw.serverNow }
  match insertPayment indexable (db.putKey keyRow) intent with
  | .error failure => .error failure
  | .ok db =>
      .ok
        ({ db with
            events :=
              db.events ++
                [{ paymentIntentId := intent.id
                   fromStatus := none
                   toStatus := .created
                   actor := .api
                   createdAt := draw.serverNow }]
            outbox :=
              db.outbox ++
                [{ id := draw.outbox
                   aggregateType := .paymentIntent
                   aggregateId := intent.id
                   eventType := "payment.created"
                   payload := .payment intent.id none }] },
          intent)

/- The second transaction: announce the provider call. -/
def createProcess
    (db : Database)
    (locked : Option PaymentIntent)
    (draw : Draw) :
    Except Failure (Database × PaymentIntent) :=
  match locked with
  | none => .error .assertionError
  | some intent =>
      applyTransition db intent .processing .api
        "payment.processing" draw

/- The third transaction: audit the risk assessment. -/
def createAssess
    (db : Database)
    (request : CreateRequest)
    (intent : PaymentIntent)
    (draw : Draw) : Database × RiskAssessment :=
  let assessment :=
    assessPaymentRisk db request.merchantId
      request.amountMinor request.billingCountry
      request.shippingCountry request.customerIp draw.now
  ({ db with
      auditLogs :=
        db.auditLogs ++
          [{ merchantId := request.merchantId
             paymentId := intent.id
             assessment := assessment }] },
    assessment)

/- The last transaction of a blocked payment. -/
def createBlock
    (db : Database)
    (locked : Option PaymentIntent)
    (keyRowId : Uuid)
    (draw : Draw) :
    Except Failure (Database × Response) :=
  match locked with
  | none => .error .assertionError
  | some intent =>
      match applyTransition db intent .failed .api
          "payment.blocked" draw with
      | .error failure => .error failure
      | .ok (db, intent) =>
          let body := serializePayment intent
          .ok
            (completeIdempotencyKey db keyRowId
                (some intent.id) 201 body,
              ⟨201, body⟩)

/-
  What an authorize outcome does to the payment.  Success
  leaves it `PROCESSING` until a capture, and so does a
  temporary failure.
-/
def applyAuthorizeOutcome
    (db : Database)
    (intent : PaymentIntent)
    (outcome : ProviderOutcome)
    (draw : Draw) :
    Except Failure (Database × PaymentIntent) :=
  match outcome with
  | .declined =>
      applyTransition db intent .failed .api
        "payment.failed" draw
  | .unknown =>
      applyTransition db intent .unknown .api
        "payment.unknown" draw
  | .succeeded => .ok (db, intent)
  | .temporaryFailure => .ok (db, intent)

/- The last transaction of an authorized payment. -/
def createFinish
    (db : Database)
    (locked : Option PaymentIntent)
    (keyRowId : Uuid)
    (providerName : String)
    (result : ProviderResult)
    (draw : Draw) :
    Except Failure (Database × Response) :=
  match locked with
  | none => .error .assertionError
  | some intent =>
      let attempt : PaymentAttempt :=
        { id := draw.attempt
          paymentIntentId := intent.id
          providerName := providerName
          status := result.outcome
          failureClassification :=
            failureClassification result.outcome
          attemptNumber := nextAttemptNumber db intent.id
          createdAt := draw.serverNow }
      match insertAttempt db attempt with
      | .error failure => .error failure
      | .ok db =>
          match applyAuthorizeOutcome db intent
              result.outcome draw with
          | .error failure => .error failure
          | .ok (db, intent) =>
              match insertProviderTransaction db attempt.id
                  providerName result with
              | .error failure => .error failure
              | .ok db =>
                  let body := serializePayment intent
                  .ok
                    (completeIdempotencyKey db keyRowId
                        (some intent.id) 201 body,
                      ⟨201, body⟩)

------------------------------------------------------------
-- Capturing A Payment
------------------------------------------------------------

structure CaptureRequest where
  merchantId : Uuid
  paymentId : Uuid
  idempotencyKey : String
  rawBody : List UInt8 := []
deriving DecidableEq, Repr

/- What `capture_payment` decides once it has the lock. -/
inductive CaptureCheck where
| settled (intent : PaymentIntent)
| callProvider
    (intent : PaymentIntent)
    (transaction : ProviderTransaction)
deriving DecidableEq, Repr

def paymentNotFound (paymentId : Uuid) : Failure :=
  .payGuardError .paymentNotFound
    ("No payment found with id " ++ toString paymentId ++ ".")

def captureCheck
    (db : Database)
    (locked : Option PaymentIntent)
    (paymentId : Uuid) : Except Failure CaptureCheck :=
  match locked with
  | none => .error (paymentNotFound paymentId)
  | some intent =>
      if intent.status = .succeeded then
        .ok (.settled intent)
      else if intent.status ≠ .processing then
        .error (.payGuardError .invalidStateTransition
          ("Cannot capture a payment in status " ++
            intent.status.value ++ "."))
      else
        match latestSuccessfulProviderTransaction db
            intent.id with
        | none =>
            .error (.payGuardError .invalidStateTransition
              ("This payment has no successful " ++
                "authorization to capture."))
        | some transaction =>
            .ok (.callProvider intent transaction)

/- An already captured payment is answered as it stands. -/
def captureSettled
    (db : Database)
    (intent : PaymentIntent)
    (keyRow : IdempotencyKey) : Database × Response :=
  let body := serializePayment intent
  (completeIdempotencyKey (db.putKey keyRow) keyRow.id
      (some intent.id) 200 body,
    ⟨200, body⟩)

/- What a capture outcome does to the payment. -/
def applyCaptureOutcome
    (db : Database)
    (intent : PaymentIntent)
    (outcome : ProviderOutcome)
    (draw : Draw) :
    Except Failure (Database × PaymentIntent) :=
  match outcome with
  | .succeeded =>
      match applyTransition db intent .succeeded .api
          "payment.succeeded" draw with
      | .error failure => .error failure
      | .ok (db, intent) =>
          .ok
            (recordPaymentSettled db intent.id
                intent.amountMinor draw,
              intent)
  | .unknown =>
      applyTransition db intent .unknown .api
        "payment.unknown" draw
  | .declined =>
      applyTransition db intent .failed .api
        "payment.failed" draw
  | .temporaryFailure =>
      applyTransition db intent .failed .api
        "payment.failed" draw

/- The rest of the transaction after the provider call. -/
def captureFinish
    (db : Database)
    (intent : PaymentIntent)
    (keyRow : IdempotencyKey)
    (result : ProviderResult)
    (draw : Draw) :
    Except Failure (Database × Response) :=
  match applyCaptureOutcome (db.putKey keyRow) intent
      result.outcome draw with
  | .error failure => .error failure
  | .ok (db, intent) =>
      let body := serializePayment intent
      .ok
        (completeIdempotencyKey db keyRow.id
            (some intent.id) 200 body,
          ⟨200, body⟩)

------------------------------------------------------------
-- Refunding A Payment
------------------------------------------------------------

structure RefundRequest where
  merchantId : Uuid
  paymentId : Uuid
  idempotencyKey : String
  rawBody : List UInt8 := []
  amountMinor : Int
deriving DecidableEq, Repr

/- Statuses a refund may start from. -/
def PaymentStatus.isRefundableSource :
    PaymentStatus → Bool
| .succeeded | .refundFailed | .refundPending => true
| _ => false

/- Pending and succeeded refunds hold part of the balance. -/
def RefundStatus.isReserved : RefundStatus → Bool
| .pending | .succeeded => true
| .failed => false

/- The refunded or promised part of a payment. -/
def reservedAmount
    (db : Database)
    (paymentIntentId : Uuid) : Int :=
  Table.sumWhere
    (fun refund : Refund =>
      refund.paymentIntentId = paymentIntentId &&
        refund.status.isReserved)
    (·.amountMinor) db.refunds

/- The refunded part of a payment. -/
def refundedAmount
    (db : Database)
    (paymentIntentId : Uuid) : Int :=
  Table.sumWhere
    (fun refund : Refund =>
      refund.paymentIntentId = paymentIntentId &&
        refund.status = .succeeded)
    (·.amountMinor) db.refunds

/- Refunds of the payment still at the provider. -/
def pendingRefunds
    (db : Database)
    (paymentIntentId : Uuid) : Nat :=
  db.refunds.countP (fun refund =>
    refund.paymentIntentId = paymentIntentId ∧
      refund.status = .pending)

/- Flush a refund against the checks of its table. -/
def insertRefund
    (db : Database)
    (refund : Refund) : Except Failure Database :=
  if !fitsBigInteger refund.amountMinor then
    .error .external
  else if ¬ 0 < refund.amountMinor then
    .error (.integrityError "ck_refunds_amount_positive")
  else
    .ok { db with refunds := db.refunds ++ [refund] }

/- What the reserving transaction leaves in the session. -/
structure Reservation where
  intent : PaymentIntent
  refund : Refund
  transaction : ProviderTransaction
deriving DecidableEq, Repr

/-
  The payment moves to `REFUND_PENDING` only with the first
  refund of a batch.
-/
def enterRefundPending
    (db : Database)
    (intent : PaymentIntent)
    (draw : Draw) :
    Except Failure (Database × PaymentIntent) :=
  if intent.status = .refundPending then
    .ok (db, intent)
  else
    applyTransition db intent .refundPending .api
      "refund.pending" draw

/- The reserving transaction, under the payment lock. -/
def refundReserve
    (db : Database)
    (locked : Option PaymentIntent)
    (request : RefundRequest)
    (keyRow : IdempotencyKey)
    (draw : Draw) :
    Except Failure (Database × Reservation) :=
  match locked with
  | none => .error (paymentNotFound request.paymentId)
  | some intent =>
      let remaining :=
        intent.amountMinor - reservedAmount db intent.id
      if !intent.status.isRefundableSource then
        .error (.payGuardError .invalidStateTransition
          ("Cannot refund a payment in status " ++
            intent.status.value ++ "."))
      else if remaining < request.amountMinor then
        .error (.payGuardError .refundExceedsPayment
          ("Refund amount " ++ toString request.amountMinor ++
            " exceeds the remaining refundable balance " ++
            toString remaining ++ "."))
      else
        match latestSuccessfulProviderTransaction db
            intent.id with
        | none =>
            .error (.payGuardError .invalidStateTransition
              ("This payment has no successful " ++
                "authorization to refund."))
        | some transaction =>
            let refund : Refund :=
              { id := draw.refund
                paymentIntentId := intent.id
                amountMinor := request.amountMinor
                status := .pending
                createdAt := draw.serverNow }
            match insertRefund (db.putKey keyRow) refund with
            | .error failure => .error failure
            | .ok db =>
                match enterRefundPending db intent draw with
                | .error failure => .error failure
                | .ok (db, intent) =>
                    .ok (db, ⟨intent, refund, transaction⟩)

/- Write the final status of one refund row. -/
def setRefundStatus
    (db : Database)
    (refundId : Uuid)
    (status : RefundStatus) : Database :=
  { db with
    refunds :=
      Table.updateWhere (fun row => row.id = refundId)
        (fun row => { row with status := status })
        db.refunds }

/- Anything but a success releases the reservation. -/
def finalRefundStatus : ProviderOutcome → RefundStatus
| .succeeded => .succeeded
| _ => .failed

/- A succeeded refund gets its own ledger pair. -/
def settleRefund
    (db : Database)
    (intent : PaymentIntent)
    (refund : Refund)
    (outcome : ProviderOutcome)
    (draw : Draw) : Database :=
  let db :=
    setRefundStatus db refund.id (finalRefundStatus outcome)
  if finalRefundStatus outcome = .succeeded then
    recordRefundSettled db intent.id refund.amountMinor draw
  else
    db

/-
  Settle the payment once no sibling refund is in flight.
-/
def leaveRefundPending
    (db : Database)
    (intent : PaymentIntent)
    (draw : Draw) :
    Except Failure (Database × PaymentIntent) :=
  if pendingRefunds db intent.id = 0 ∧
      intent.status = .refundPending then
    if intent.amountMinor ≤ refundedAmount db intent.id then
      applyTransition db intent .refunded .api
        "payment.refunded" draw
    else if 0 < refundedAmount db intent.id then
      applyTransition db intent .succeeded .api
        "payment.partially_refunded" draw
    else
      applyTransition db intent .refundFailed .api
        "refund.failed" draw
  else
    .ok (db, intent)

/- The finalizing transaction, under a fresh lock. -/
def refundFinalize
    (db : Database)
    (locked : Option PaymentIntent)
    (refund : Refund)
    (keyRowId : Uuid)
    (result : ProviderResult)
    (draw : Draw) :
    Except Failure (Database × Response) :=
  match locked with
  | none => .error .assertionError
  | some intent =>
      let refund :=
        { refund with
          status := finalRefundStatus result.outcome }
      match leaveRefundPending
          (settleRefund db intent refund result.outcome draw)
          intent draw with
      | .error failure => .error failure
      | .ok (db, intent) =>
          let body := serializeRefund refund
          .ok
            (completeIdempotencyKey db keyRowId
                (some intent.id) 201 body (some refund.id),
              ⟨201, body⟩)

end PayGuard

import PayGuard.Payments.Service

/-
  Reconciliation of payments in `UNKNOWN`.

  `reconcile_payment` locks the payment and finds the key of
  the original request, releases the lock, asks the
  provider, locks the payment again and applies the answer,
  and writes its report in a commit of its own.

  Key definitions include:
    * `originalIdempotencyKey`
    * `reconcileCheck`
    * `reconcileApply`
    * `writeReport`
    * `reconcilePayment`
    * `runReconciliationPass`
-/

------------------------------------------------------------
-- The First Lock
------------------------------------------------------------

namespace PayGuard

/- Key rows of the payment that no other one precedes. -/
def earliestKeys
    (db : Database)
    (paymentIntentId : Uuid) : List IdempotencyKey :=
  let rows := db.keys.filter (fun row =>
    row.paymentIntentId = some paymentIntentId)
  rows.filter (fun row =>
    rows.all (fun other => row.createdAt ≤ other.createdAt))

/-
  `ORDER BY created_at LIMIT 1`.  Among rows that tie, the
  one `pick` names is returned, and else the first.
-/
def originalIdempotencyKey
    (db : Database)
    (paymentIntentId pick : Uuid) : Option String :=
  (((earliestKeys db paymentIntentId).find?
      (fun row => row.id = pick)).or
    (earliestKeys db paymentIntentId).head?).map
      (fun row => row.idempotencyKey)

/- What the first transaction of a reconciliation finds. -/
inductive ReconcileCheck where
| report (report : ReconciliationReport)
| ask (intent : PaymentIntent) (idempotencyKey : String)
deriving DecidableEq, Repr

def reconcileCheck
    (db : Database)
    (locked : Option PaymentIntent)
    (paymentId pick : Uuid) :
    Except Failure ReconcileCheck :=
  match locked with
  | none => .error (paymentNotFound paymentId)
  | some intent =>
      if intent.status ≠ .unknown then
        .ok (.report
          { paymentIntentId := intent.id
            result := .matched
            internalStatus := intent.status
            providerStatus := none
            details := .note
              ("payment was not in UNKNOWN status at " ++
                "reconciliation time") })
      else
        match originalIdempotencyKey db intent.id pick with
        | none =>
            .ok (.report
              { paymentIntentId := intent.id
                result := .missingInternalTransaction
                internalStatus := .unknown
                providerStatus := none
                details := .note
                  ("no idempotency key on record to ask " ++
                    "the provider about") })
        | some key => .ok (.ask intent key)

------------------------------------------------------------
-- Applying The Provider's Answer
------------------------------------------------------------

/- Backfill a settled payment from a positive answer. -/
def resolveSucceeded
    (db : Database)
    (intent : PaymentIntent)
    (providerName : String)
    (result : ProviderResult)
    (draw : Draw) : Except Failure Database :=
  let attempt : PaymentAttempt :=
    { id := draw.attempt
      paymentIntentId := intent.id
      providerName := providerName
      status := .succeeded
      failureClassification := none
      attemptNumber := nextAttemptNumber db intent.id
      createdAt := draw.serverNow }
  match insertAttempt db attempt with
  | .error failure => .error failure
  | .ok db =>
      match applyTransition db intent .succeeded
          .reconciliation "reconciliation.resolved_succeeded"
          draw with
      | .error failure => .error failure
      | .ok (db, intent) =>
          insertProviderTransaction
            (recordPaymentSettled db intent.id
              intent.amountMinor draw)
            attempt.id providerName result

/- Close a payment the provider did not take. -/
def resolveFailed
    (db : Database)
    (intent : PaymentIntent)
    (providerName : String)
    (result : ProviderResult)
    (draw : Draw) : Except Failure Database :=
  let attempt : PaymentAttempt :=
    { id := draw.attempt
      paymentIntentId := intent.id
      providerName := providerName
      status := result.outcome
      failureClassification :=
        if result.outcome = .declined then
          some .permanent
        else
          some .unknown
      attemptNumber := nextAttemptNumber db intent.id
      createdAt := draw.serverNow }
  match applyTransition db intent .failed .reconciliation
      "reconciliation.resolved_failed" draw with
  | .error failure => .error failure
  | .ok (db, _) => insertAttempt db attempt

/- The report of a call, from its answer and finding. -/
def answeredReport
    (intent : PaymentIntent)
    (result : ProviderResult)
    (finding : ReportResult)
    (internalStatus : PaymentStatus)
    (details : ReportDetails) : ReconciliationReport where
  paymentIntentId := intent.id
  result := finding
  internalStatus := internalStatus
  providerStatus := some result.rawStatus
  details := details

/- A usable answer resolves the payment one way or other. -/
def resolve
    (db : Database)
    (intent : PaymentIntent)
    (providerName : String)
    (result : ProviderResult)
    (draw : Draw) :
    Except Failure (Database × ReconciliationReport) :=
  let details :=
    ReportDetails.providerTransaction
      result.providerTransactionId
  if result.outcome = .succeeded then
    match resolveSucceeded db intent providerName result
        draw with
    | .error failure => .error failure
    | .ok db =>
        .ok (db, answeredReport intent result
          .resolvedSucceeded .unknown details)
  else
    match resolveFailed db intent providerName result
        draw with
    | .error failure => .error failure
    | .ok db =>
        .ok (db, answeredReport intent result
          .resolvedFailed .unknown details)

/-
  The second locked transaction.  It yields the database it
  commits and the report the next commit writes.
-/
def reconcileApply
    (db : Database)
    (locked : Option PaymentIntent)
    (providerName : String)
    (result : ProviderResult)
    (draw : Draw) :
    Except Failure (Database × ReconciliationReport) :=
  match locked with
  | none => .error .assertionError
  | some intent =>
      if intent.status ≠ .unknown then
        .ok (db, answeredReport intent result .matched
          intent.status
          (.note ("resolved by another path while " ++
            "awaiting the provider's answer")))
      else if result.outcome = .unknown then
        match applyTransition db intent .unknown
            .reconciliation "reconciliation.still_unknown"
            draw with
        | .error failure => .error failure
        | .ok (db, intent) =>
            .ok (db, answeredReport intent result
              .stillUnknown .unknown .empty)
      else
        let reportedAmount :=
          result.rawResponse.amountMinor.getD
            intent.amountMinor
        let reportedCurrency :=
          result.rawResponse.currency.getD intent.currency
        if reportedAmount ≠ intent.amountMinor then
          .ok (db, answeredReport intent result
            .amountMismatch .unknown
            (.amounts intent.amountMinor reportedAmount))
        else if reportedCurrency ≠ intent.currency then
          .ok (db, answeredReport intent result
            .currencyMismatch .unknown
            (.currencies intent.currency reportedCurrency))
        else
          resolve db intent providerName result draw

/- The answer does not contradict the payment. -/
def ProviderResult.agrees
    (result : ProviderResult)
    (intent : PaymentIntent) : Bool :=
  result.rawResponse.amountMinor.getD intent.amountMinor =
      intent.amountMinor &&
    result.rawResponse.currency.getD intent.currency =
      intent.currency

def writeReport
    (db : Database)
    (report : ReconciliationReport) : Database :=
  { db with reports := db.reports ++ [report] }

------------------------------------------------------------
-- One Payment, And A Pass
------------------------------------------------------------

/- What one reconciled payment takes from outside. -/
structure Visit where
  pick : Uuid := 0
  lookup : String → Except Failure ProviderResult
  draw : Draw := {}

/-
  `reconcile_payment` with nothing in between its commits.
  An exception rolls the open transaction back, so the
  database is what the last commit left.
-/
def reconcilePayment
    (lockRead : LockRead)
    (providerName : String)
    (db : Database)
    (loaded : Option PaymentIntent)
    (paymentId merchantId : Uuid)
    (visit : Visit) :
    Database × Except Failure ReconciliationReport :=
  match reconcileCheck db
      (lockPayment lockRead db loaded paymentId merchantId)
      paymentId visit.pick with
  | .error failure => (db, .error failure)
  | .ok (.report report) =>
      (writeReport db report, .ok report)
  | .ok (.ask intent key) =>
      match visit.lookup key with
      | .error failure => (db, .error failure)
      | .ok result =>
          match reconcileApply db
              (lockPayment lockRead db (some intent)
                paymentId merchantId)
              providerName result visit.draw with
          | .error failure => (db, .error failure)
          | .ok (db, report) =>
              (writeReport db report, .ok report)

def findPaymentsNeedingReconciliation
    (db : Database)
    (scan : Table.Scan PaymentIntent)
    (merchantId : Option Uuid) : List PaymentIntent :=
  scan.visit (db.payments.filter (fun intent =>
    intent.status = .unknown &&
      merchantId.all (intent.merchantId = ·)))

/- The loop of a pass; an exception ends it. -/
def reconcileEach
    (lockRead : LockRead)
    (providerName : String)
    (visits : Uuid → Visit) :
    Database → List PaymentIntent →
      Database × Except Failure (List ReconciliationReport)
| db, [] => (db, .ok [])
| db, intent :: payments =>
    match reconcilePayment lockRead providerName db
        (some intent) intent.id intent.merchantId
        (visits intent.id) with
    | (db, .error failure) => (db, .error failure)
    | (db, .ok report) =>
        match reconcileEach lockRead providerName visits db
            payments with
        | (db, .error failure) => (db, .error failure)
        | (db, .ok reports) => (db, .ok (report :: reports))

def runReconciliationPass
    (lockRead : LockRead)
    (providerName : String)
    (db : Database)
    (scan : Table.Scan PaymentIntent)
    (merchantId : Option Uuid)
    (visits : Uuid → Visit) :
    Database × Except Failure (List ReconciliationReport) :=
  reconcileEach lockRead providerName visits db
    (findPaymentsNeedingReconciliation db scan merchantId)

end PayGuard

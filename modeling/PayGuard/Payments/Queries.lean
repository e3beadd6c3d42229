import PayGuard.Payments.Service

/-
  The merchant-scoped reads behind the dashboard.

  A read yields the rows it serializes.  Where a statement
  leaves the order of two rows open, a scan settles it.

  Key definitions include:
    * `getPayment`
    * `listPayments`
    * `getPaymentDetail`
    * `getDashboardSummary`
    * `getRefund`
-/

------------------------------------------------------------
-- One Payment
------------------------------------------------------------

namespace PayGuard

def getPayment
    (db : Database)
    (merchantId paymentId : Uuid) :
    Except Failure PaymentIntent :=
  match db.selectPayment paymentId merchantId with
  | none => .error (paymentNotFound paymentId)
  | some intent => .ok intent

def refundNotFound (refundId : Uuid) : Failure :=
  .payGuardError .refundNotFound
    ("No refund found with id " ++ toString refundId ++ ".")

def getRefund
    (db : Database)
    (merchantId refundId : Uuid) :
    Except Failure Refund :=
  match db.refunds.find? (fun refund =>
      refund.id = refundId &&
        db.holdsPayment merchantId
          refund.paymentIntentId) with
  | none => .error (refundNotFound refundId)
  | some refund => .ok refund

------------------------------------------------------------
-- Pages Of Payments
------------------------------------------------------------

/- The rows a listing filters for. -/
def listedPayments
    (db : Database)
    (merchantId : Uuid)
    (status : Option String) : List PaymentIntent :=
  db.payments.filter (fun intent =>
    intent.merchantId = merchantId &&
      status.all (intent.status.value = ·))

structure PaymentPage where
  items : List PaymentIntent
  total : Nat
deriving DecidableEq, Repr

/- The server refuses a negative `LIMIT` or `OFFSET`. -/
def listPayments
    (db : Database)
    (scan : Table.Scan PaymentIntent)
    (merchantId : Uuid)
    (status : Option String := none)
    (limit : Int := 20)
    (offset : Int := 0) :
    Except Failure PaymentPage :=
  let rows := listedPayments db merchantId status
  if limit < 0 ∨ offset < 0 then
    .error .external
  else
    .ok
      { items :=
          ((Table.orderBy scan
              (fun row other =>
                other.createdAt ≤ row.createdAt)
              rows).drop offset.toNat).take limit.toNat
        total := rows.length }

------------------------------------------------------------
-- The Detail Page
------------------------------------------------------------

structure PaymentDetail where
  payment : PaymentIntent
  events : List PaymentEvent
  attempts : List PaymentAttempt
  refunds : List Refund
  ledgerEntries : List LedgerEntry
deriving DecidableEq, Repr

/- The scans of the four child tables. -/
structure DetailScans where
  events : Table.Scan PaymentEvent := .asInserted
  attempts : Table.Scan PaymentAttempt := .asInserted
  refunds : Table.Scan Refund := .asInserted
  ledgerEntries : Table.Scan LedgerEntry := .asInserted

/-
  The creation time of a ledger row is not kept here, so its
  entries come in the order of their scan.
-/
def getPaymentDetail
    (db : Database)
    (scans : DetailScans)
    (merchantId paymentId : Uuid) :
    Except Failure PaymentDetail :=
  match getPayment db merchantId paymentId with
  | .error failure => .error failure
  | .ok intent =>
      .ok
        { payment := intent
          events :=
            Table.orderBy scans.events
              (fun row other =>
                row.createdAt ≤ other.createdAt)
              (db.events.filter (fun row =>
                row.paymentIntentId = intent.id))
          attempts :=
            Table.orderBy scans.attempts
              (fun row other =>
                row.attemptNumber ≤ other.attemptNumber)
              (db.attempts.filter (fun row =>
                row.paymentIntentId = intent.id))
          refunds :=
            Table.orderBy scans.refunds
              (fun row other =>
                row.createdAt ≤ other.createdAt)
              (db.refunds.filter (fun row =>
                row.paymentIntentId = intent.id))
          ledgerEntries :=
            scans.ledgerEntries.visit
              (db.ledger.filter (fun row =>
                row.paymentIntentId = intent.id)) }

------------------------------------------------------------
-- The Landing Page
------------------------------------------------------------

structure DashboardSummary where
  countsByStatus : List (PaymentStatus × Nat)
  totalPayments : Nat
  totalSucceededAmount : Int
  totalRefundedAmount : Int
deriving DecidableEq, Repr

/- `SELECT status, count(*) ... GROUP BY status`. -/
def countsByStatus
    (db : Database)
    (merchantId : Uuid) : List (PaymentStatus × Nat) :=
  let statuses :=
    (db.payments.filter (fun row =>
      row.merchantId = merchantId)).map (·.status)
  statuses.dedup.map (fun status =>
    (status, statuses.count status))

def getDashboardSummary
    (db : Database)
    (merchantId : Uuid) : DashboardSummary where
  countsByStatus := countsByStatus db merchantId
  totalPayments :=
    ((countsByStatus db merchantId).map (·.2)).sum
  totalSucceededAmount :=
    Table.sumWhere
      (fun row : PaymentIntent =>
        row.merchantId = merchantId &&
          row.status = .succeeded)
      (·.amountMinor) db.payments
  totalRefundedAmount :=
    Table.sumWhere
      (fun row : Refund =>
        db.holdsPayment merchantId row.paymentIntentId &&
          row.status = .succeeded)
      (·.amountMinor) db.refunds

end PayGuard

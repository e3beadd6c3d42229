import PayGuard.Domain.StateMachine
import PayGuard.Lib.Tables
import PayGuard.Providers.Base

/-
  The rows of the schema and the database they form.

  A row keeps the columns the modelled services read or
  write.  A table is the list of its rows in insertion
  order.  Columns with a closed vocabulary are enumerations;
  the other texts stay strings, and a text that comes from a
  payload unchecked may be any Python `str`.

  Key definitions include:
    * `fitsText`
    * `PyString`
    * `PaymentIntent`
    * `IdempotencyKey`
    * `Refund`
    * `LedgerEntry`
    * `OutboxEvent`
    * `Database`
    * `Draw`
    * `Database.Admits`
    * `Failure`
-/

------------------------------------------------------------
-- Identifiers And Time
------------------------------------------------------------

namespace PayGuard

/- A uuid; only equality of two of them is ever used. -/
abbrev Uuid := Nat

/- Microseconds since the epoch. -/
abbrev Timestamp := Int

/- The texts a column holds: no character is U+0000. -/
def fitsText (value : String) : Bool :=
  value.toList.all (fun char => char.toNat != 0)

/- What a Python `str` is made of: surrogates as well. -/
abbrev CodePoint := Fin 1114112

abbrev PyString := List CodePoint

/- A lone surrogate has no encoding. -/
def CodePoint.isSurrogate (point : CodePoint) : Bool :=
  0xd800 ≤ point.val && point.val ≤ 0xdfff

/- The bytes of its encoding. -/
def CodePoint.utf8Size (point : CodePoint) : Nat :=
  if point.val < 0x80 then
    1
  else if point.val < 0x800 then
    2
  else if point.val < 0x10000 then
    3
  else
    4

/- The driver encodes the text, and the column holds it. -/
def PyString.storable (value : PyString) : Bool :=
  value.all (fun point =>
    point.val != 0 && !CodePoint.isSurrogate point)

------------------------------------------------------------
-- Payment Rows
------------------------------------------------------------

structure PaymentIntent where
  id : Uuid
  merchantId : Uuid
  amountMinor : Int
  currency : String
  merchantReference : Option PyString
  status : PaymentStatus
  version : Nat := 1
  createdAt : Timestamp
deriving DecidableEq, Repr

inductive FailureClassification where
| permanent
| transient
| unknown
deriving DecidableEq, Repr

structure PaymentAttempt where
  id : Uuid
  paymentIntentId : Uuid
  providerName : String
  status : ProviderOutcome
  failureClassification : Option FailureClassification
  attemptNumber : Nat
  createdAt : Timestamp
deriving DecidableEq, Repr

structure ProviderTransaction where
  paymentAttemptId : Uuid
  providerName : String
  providerTransactionId : String
  rawStatus : String
  rawResponse : RawResponse
deriving DecidableEq, Repr

structure PaymentEvent where
  paymentIntentId : Uuid
  fromStatus : Option PaymentStatus
  toStatus : PaymentStatus
  actor : Actor
  createdAt : Timestamp
deriving DecidableEq, Repr

structure Refund where
  id : Uuid
  paymentIntentId : Uuid
  amountMinor : Int
  status : RefundStatus
  createdAt : Timestamp
deriving DecidableEq, Repr

------------------------------------------------------------
-- Idempotency Keys
------------------------------------------------------------

inductive KeyStatus where
| pending
| completed
| failed
deriving DecidableEq, Repr

/- What `serialize_payment` and `serialize_refund` return. -/
inductive ResponseBody where
| payment
    (id : Uuid)
    (status : PaymentStatus)
    (amount : Int)
    (currency : String)
    (merchantReference : Option PyString)
    (createdAt : Timestamp)
| refund
    (id : Uuid)
    (paymentId : Uuid)
    (amount : Int)
    (status : RefundStatus)
    (createdAt : Timestamp)
deriving DecidableEq, Repr

structure IdempotencyKey where
  id : Uuid
  merchantId : Uuid
  idempotencyKey : String
  requestFingerprint : String
  status : KeyStatus
  paymentIntentId : Option Uuid := none
  refundId : Option Uuid := none
  responseStatus : Option Nat := none
  responseBody : Option ResponseBody := none
  createdAt : Timestamp
  lockedAt : Option Timestamp
deriving DecidableEq, Repr

------------------------------------------------------------
-- Ledger Rows
------------------------------------------------------------

inductive Account where
| merchantReceivable
| paymentClearing
| refundLiability
deriving DecidableEq, Repr

inductive Direction where
| debit
| credit
deriving DecidableEq, Repr

structure LedgerEntry where
  paymentIntentId : Uuid
  ledgerTransactionId : Uuid
  account : Account
  direction : Direction
  amountMinor : Int
deriving DecidableEq, Repr

------------------------------------------------------------
-- Outbox, Webhook And Report Rows
------------------------------------------------------------

inductive AggregateType where
| paymentIntent
| webhookEvent
deriving DecidableEq, Repr

/- The JSON payloads the services put into the outbox. -/
inductive OutboxPayload where
| payment
    (paymentId : Uuid)
    (status : Option PaymentStatus)
| webhook (webhookEventId : Uuid)
deriving DecidableEq, Repr

inductive OutboxStatus where
| pending
| processing
| processed
| deadLetter
deriving DecidableEq, Repr

structure OutboxEvent where
  id : Uuid
  aggregateType : AggregateType
  aggregateId : Uuid
  eventType : String
  payload : OutboxPayload
  status : OutboxStatus := .pending
deriving DecidableEq, Repr

inductive ProcessingStatus where
| received
| processed
| ignored
deriving DecidableEq, Repr

/-
  A webhook row.  Of the stored payload only
  `data.provider_transaction_id` is ever read back.
-/
structure WebhookEvent where
  id : Uuid
  providerName : String
  providerEventId : String
  eventType : String
  providerTransactionId : Option String
  processingStatus : ProcessingStatus := .received
deriving DecidableEq, Repr

inductive RiskLevel where
| low
| medium
| high
| block
deriving DecidableEq, Repr

structure RiskSignal where
  name : String
  weight : Nat
  description : String
deriving DecidableEq, Repr

structure RiskAssessment where
  level : RiskLevel
  score : Nat
  signals : List RiskSignal
deriving DecidableEq, Repr

/- The risk engine's audit record for one payment. -/
structure AuditLog where
  merchantId : Uuid
  paymentId : Uuid
  assessment : RiskAssessment
deriving DecidableEq, Repr

inductive ReportResult where
| matched
| resolvedSucceeded
| resolvedFailed
| stillUnknown
| missingInternalTransaction
| amountMismatch
| currencyMismatch
deriving DecidableEq, Repr

inductive ReportDetails where
| empty
| note (text : String)
| amounts (internal provider : Int)
| currencies (internal provider : String)
| providerTransaction (id : Option String)
deriving DecidableEq, Repr

structure ReconciliationReport where
  paymentIntentId : Uuid
  result : ReportResult
  internalStatus : PaymentStatus
  providerStatus : Option String
  details : ReportDetails
deriving DecidableEq, Repr

------------------------------------------------------------
-- The Database
------------------------------------------------------------

structure Database where
  payments : List PaymentIntent := []
  attempts : List PaymentAttempt := []
  providerTransactions : List ProviderTransaction := []
  keys : List IdempotencyKey := []
  events : List PaymentEvent := []
  refunds : List Refund := []
  outbox : List OutboxEvent := []
  webhooks : List WebhookEvent := []
  ledger : List LedgerEntry := []
  auditLogs : List AuditLog := []
  reports : List ReconciliationReport := []
deriving DecidableEq, Repr

/-
  What the environment supplies to one transaction: the
  clock of the calling process, the server's `now()`, and
  the uuids drawn for the rows it may insert.
-/
structure Draw where
  now : Timestamp := 0
  serverNow : Timestamp := 0
  key : Uuid := 0
  payment : Uuid := 0
  attempt : Uuid := 0
  refund : Uuid := 0
  outbox : Uuid := 0
  webhook : Uuid := 0
  ledgerTransaction : Uuid := 0
deriving DecidableEq, Repr

namespace Database

/- `uuid4` never repeats an identifier already stored. -/
def Admits
    (db : Database)
    (draw : Draw) : Prop :=
  draw.key ∉ db.keys.map (·.id) ∧
    draw.payment ∉ db.payments.map (·.id) ∧
    draw.attempt ∉ db.attempts.map (·.id) ∧
    draw.refund ∉ db.refunds.map (·.id) ∧
    draw.outbox ∉ db.outbox.map (·.id) ∧
    draw.webhook ∉ db.webhooks.map (·.id) ∧
    draw.ledgerTransaction ∉
      db.ledger.map (·.ledgerTransactionId)

instance
    (db : Database)
    (draw : Draw) :
    Decidable (db.Admits draw) := by
  unfold Admits
  infer_instance

/- `SELECT ... WHERE id = ... AND merchant_id = ...`. -/
def selectPayment
    (db : Database)
    (paymentId merchantId : Uuid) :
    Option PaymentIntent :=
  db.payments.find? (fun intent =>
    intent.id = paymentId ∧
      intent.merchantId = merchantId)

/- `JOIN payment_intents ... WHERE merchant_id = ...`. -/
def holdsPayment
    (db : Database)
    (merchantId paymentId : Uuid) : Bool :=
  db.payments.any (fun row =>
    row.id = paymentId ∧ row.merchantId = merchantId)

end Database

------------------------------------------------------------
-- Failures
------------------------------------------------------------

/- The codes of `PayGuardError` the services raise. -/
inductive ErrorCode where
| idempotencyKeyReused
| requestInProgress
| paymentNotFound
| refundNotFound
| invalidStateTransition
| refundExceedsPayment
deriving DecidableEq, Repr

/- The exceptions a service call can end with. -/
inductive Failure where
| payGuardError (code : ErrorCode) (message : String)
| invalidStateTransition
    (fromStatus toStatus : PaymentStatus)
    (actor : Option Actor)
| integrityError (name : String)
| assertionError
-- anything a provider or the driver may raise
| external
deriving DecidableEq, Repr

end PayGuard

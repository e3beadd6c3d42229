import PayGuard.Payments.Service

/-
  Webhook receipt and effect application.

  `receive_webhook` stores a delivery once per provider
  event and announces it in the outbox.  A worker later
  runs `apply_webhook_event`, whose handler reads the
  payment twice: once through a join without a lock, and
  once through `lock_payment` in the same session.

  Key definitions include:
    * `receiveWebhook`
    * `planWebhookEvent`
    * `handlePaymentOutcome`
-/

------------------------------------------------------------
-- Receipt
------------------------------------------------------------

namespace PayGuard

/- One verified delivery from a provider. -/
structure WebhookDelivery where
  providerName : String
  providerEventId : String
  eventType : String
  providerTransactionId : Option String
deriving DecidableEq, Repr

/- Insert on conflict do nothing, and announce an insert. -/
def receiveWebhook
    (db : Database)
    (delivery : WebhookDelivery)
    (draw : Draw) : Database :=
  if db.webhooks.any (fun event =>
      event.providerName = delivery.providerName ∧
        event.providerEventId =
          delivery.providerEventId) then
    db
  else
    { db with
      webhooks :=
        db.webhooks ++
          [{ id := draw.webhook
             providerName := delivery.providerName
             providerEventId := delivery.providerEventId
             eventType := delivery.eventType
             providerTransactionId :=
               delivery.providerTransactionId }]
      outbox :=
        db.outbox ++
          [{ id := draw.outbox
             aggregateType := .webhookEvent
             aggregateId := draw.webhook
             eventType := "webhook.received"
             payload := .webhook draw.webhook }] }

------------------------------------------------------------
-- The Unlocked Read
------------------------------------------------------------

/- The payments the three-table join can return. -/
def paymentsOfTransaction
    (db : Database)
    (providerTransactionId : String) :
    List PaymentIntent :=
  db.payments.filter (fun intent =>
    db.attempts.any (fun attempt =>
      attempt.paymentIntentId = intent.id &&
        db.providerTransactions.any (fun transaction =>
          transaction.paymentAttemptId = attempt.id &&
            transaction.providerTransactionId =
              providerTransactionId)))

/-
  `LIMIT 1` without an order: the row `pick` names where the
  join yields it, and else the first one.
-/
def limitOne
    (rows : List PaymentIntent)
    (pick : Uuid) : Option PaymentIntent :=
  (rows.find? (fun row => row.id = pick)).or rows.head?

/- The handled event types and the statuses they ask for. -/
def webhookTarget (eventType : String) :
    Option PaymentStatus :=
  if eventType = "payment.succeeded" then
    some .succeeded
  else if eventType = "payment.failed" then
    some .failed
  else
    none

/- What a dispatch does before it asks for the lock. -/
inductive WebhookPlan where
| skip
| ignore
| outcome
    (targetStatus : PaymentStatus)
    (intent : PaymentIntent)
deriving DecidableEq, Repr

def planPaymentOutcome
    (db : Database)
    (providerTransactionId : Option String)
    (targetStatus : PaymentStatus)
    (pick : Uuid) : WebhookPlan :=
  match providerTransactionId with
  | none => .ignore
  | some transactionId =>
      if transactionId = "" then
        .ignore
      else
        match limitOne
            (paymentsOfTransaction db transactionId) pick with
        | none => .ignore
        | some intent => .outcome targetStatus intent

def planWebhookEvent
    (db : Database)
    (webhookEventId pick : Uuid) : WebhookPlan :=
  match db.webhooks.find? (fun event =>
      event.id = webhookEventId) with
  | none => .skip
  | some event =>
      if event.processingStatus ≠ .received then
        .skip
      else
        match webhookTarget event.eventType with
        | none => .ignore
        | some targetStatus =>
            planPaymentOutcome db
              event.providerTransactionId targetStatus pick

------------------------------------------------------------
-- The Locked Effect
------------------------------------------------------------

def setProcessingStatus
    (db : Database)
    (webhookEventId : Uuid)
    (status : ProcessingStatus) : Database :=
  { db with
    webhooks :=
      Table.updateWhere
        (fun event => event.id = webhookEventId)
        (fun event =>
          { event with processingStatus := status })
        db.webhooks }

/- The outbox type of a transition made by a webhook. -/
def webhookEventType (targetStatus : PaymentStatus) : String :=
  "webhook." ++ targetStatus.value.toLower

/- A webhook that settles the payment also books it. -/
def settleByWebhook
    (db : Database)
    (intent : PaymentIntent)
    (targetStatus : PaymentStatus)
    (draw : Draw) : Database :=
  if targetStatus = .succeeded then
    recordPaymentSettled db intent.id intent.amountMinor draw
  else
    db

def handlePaymentOutcome
    (db : Database)
    (locked : Option PaymentIntent)
    (webhookEventId : Uuid)
    (targetStatus : PaymentStatus)
    (draw : Draw) : Except Failure Database :=
  match locked with
  | none => .error .assertionError
  | some intent =>
      if intent.status = targetStatus then
        .ok (setProcessingStatus db webhookEventId .processed)
      else if !isValidPaymentTransition intent.status
          targetStatus (some .webhook) then
        .ok (setProcessingStatus db webhookEventId .ignored)
      else
        match applyTransition db intent targetStatus .webhook
            (webhookEventType targetStatus) draw with
        | .error failure => .error failure
        | .ok (db, intent) =>
            .ok (setProcessingStatus
              (settleByWebhook db intent targetStatus draw)
              webhookEventId .processed)

/- The worker marks the outbox row with its effects. -/
def markProcessed
    (db : Database)
    (outboxEventId : Uuid) : Database :=
  { db with
    outbox :=
      Table.updateWhere
        (fun event => event.id = outboxEventId)
        (fun event => { event with status := .processed })
        db.outbox }

end PayGuard

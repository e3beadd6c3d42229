import PayGuard.Lib.Histories
import PayGuard.Outbox.Worker

/-
  Nothing is erased.

  The services insert rows and change the status of some of
  them.  What a payment, a refund, an outbox row or a webhook
  row says apart from its status is never written again, and
  the other tables are only appended to.  This holds from any
  state on, whatever the calls do and whichever row a lock
  returns, and also where failed dispatches are booked and
  dead letters are requeued.

  Key definitions include:
    * `PaymentIntent.terms` and `Refund.terms`
    * `OutboxEvent.message` and `WebhookEvent.delivery`
    * `Database.Extends`

  Key theorems include:
    * `Effect.extends`
    * `DeskEffect.extends`
    * `history_is_never_rewritten`
-/

------------------------------------------------------------
-- What Stays Of A Row
------------------------------------------------------------

namespace PayGuard

/- A payment without the columns a transition writes. -/
def PaymentIntent.terms
    (intent : PaymentIntent) : PaymentIntent :=
  { intent with
    status := .created
    version := 1 }

def Refund.terms (refund : Refund) : Refund :=
  { refund with status := .pending }

def OutboxEvent.message (event : OutboxEvent) : OutboxEvent :=
  { event with status := .pending }

def WebhookEvent.delivery
    (event : WebhookEvent) : WebhookEvent :=
  { event with processingStatus := .received }

/- A later database, as far as its history goes. -/
structure Database.Extends (db later : Database) : Prop where
  payments :
    Table.Keeps PaymentIntent.terms db.payments later.payments
  attempts : db.attempts <+: later.attempts
  providerTransactions :
    db.providerTransactions <+: later.providerTransactions
  keys : Table.Keeps (·.id) db.keys later.keys
  events : db.events <+: later.events
  refunds : Table.Keeps Refund.terms db.refunds later.refunds
  outbox : Table.Keeps OutboxEvent.message db.outbox later.outbox
  webhooks :
    Table.Keeps WebhookEvent.delivery db.webhooks
      later.webhooks
  ledger : db.ledger <+: later.ledger
  auditLogs : db.auditLogs <+: later.auditLogs
  reports : db.reports <+: later.reports

------------------------------------------------------------
-- Single Writes
------------------------------------------------------------

namespace Database.Extends

variable {db middle later : Database}

theorem refl (db : Database) : db.Extends db where
  payments := .refl _
  attempts := List.prefix_refl _
  providerTransactions := List.prefix_refl _
  keys := .refl _
  events := List.prefix_refl _
  refunds := .refl _
  outbox := .refl _
  webhooks := .refl _
  ledger := List.prefix_refl _
  auditLogs := List.prefix_refl _
  reports := List.prefix_refl _

theorem trans
    (hFirst : db.Extends middle)
    (hSecond : middle.Extends later) :
    db.Extends later where
  payments := hFirst.payments.trans hSecond.payments
  attempts := hFirst.attempts.trans hSecond.attempts
  providerTransactions :=
    hFirst.providerTransactions.trans
      hSecond.providerTransactions
  keys := hFirst.keys.trans hSecond.keys
  events := hFirst.events.trans hSecond.events
  refunds := hFirst.refunds.trans hSecond.refunds
  outbox := hFirst.outbox.trans hSecond.outbox
  webhooks := hFirst.webhooks.trans hSecond.webhooks
  ledger := hFirst.ledger.trans hSecond.ledger
  auditLogs := hFirst.auditLogs.trans hSecond.auditLogs
  reports := hFirst.reports.trans hSecond.reports

theorem recordTransition
    (db : Database)
    (intent : PaymentIntent)
    (toStatus : PaymentStatus)
    (actor : Actor)
    (eventType : String)
    (draw : Draw) :
    db.Extends
      (db.recordTransition intent toStatus actor eventType
        draw) :=
  { refl db with
    payments := by
      apply Table.Keeps.updateWhere
      intro row
      rfl
    events := List.prefix_append _ _
    outbox := .append _ _ }

theorem of_moved
    {intent : PaymentIntent}
    (hMoved : Moved db intent later) :
    db.Extends later := by
  cases hMoved with
  | stay => exact refl db
  | move toStatus actor eventType draw _ =>
      exact recordTransition db intent toStatus actor
        eventType draw

theorem of_applyTransition
    {intent moved : PaymentIntent}
    {toStatus : PaymentStatus}
    {actor : Actor}
    {eventType : String}
    {draw : Draw}
    (hApply :
      applyTransition db intent toStatus actor eventType
        draw = .ok (later, moved)) :
    db.Extends later :=
  of_moved (Moved.of_applyTransition hApply)

/- The claimed version of a key row has its identifier. -/
theorem putKey
    (db : Database)
    (keyRow : IdempotencyKey) :
    db.Extends (db.putKey keyRow) := by
  unfold Database.putKey
  split
  · refine { refl db with keys := .of_eq ?_ }
    apply Table.map_updateWhere_of_mem
    intro row _ hSelected
    exact (of_decide_eq_true hSelected).symm
  · exact { refl db with keys := .append _ _ }

theorem complete
    (db : Database)
    (keyRowId : Uuid)
    (paymentId : Option Uuid)
    (status : Nat)
    (body : ResponseBody)
    (refundId : Option Uuid) :
    db.Extends
      (completeIdempotencyKey db keyRowId paymentId status
        body refundId) :=
  { refl db with
    keys := by
      apply Table.Keeps.updateWhere
      intro row
      rfl }

theorem fail
    (db : Database)
    (keyRowId : Uuid) :
    db.Extends (failIdempotencyKey db keyRowId) :=
  { refl db with
    keys := by
      apply Table.Keeps.updateWhere
      intro row
      rfl }

theorem insertAttempt
    (db : Database)
    (attempt : PaymentAttempt) :
    db.Extends
      { db with attempts := db.attempts ++ [attempt] } :=
  { refl db with attempts := List.prefix_append _ _ }

theorem insertTransactions
    (db : Database)
    (added : List ProviderTransaction) :
    db.Extends
      { db with
        providerTransactions :=
          db.providerTransactions ++ added } :=
  { refl db with
    providerTransactions := List.prefix_append _ _ }

theorem recordPair
    (db : Database)
    (pair : LedgerEntry × LedgerEntry) :
    db.Extends (recordPair db pair) :=
  { refl db with ledger := List.prefix_append _ _ }

theorem setRefundStatus
    (db : Database)
    (refundId : Uuid)
    (status : RefundStatus) :
    db.Extends (setRefundStatus db refundId status) :=
  { refl db with
    refunds := by
      apply Table.Keeps.updateWhere
      intro row
      rfl }

theorem setProcessingStatus
    (db : Database)
    (webhookEventId : Uuid)
    (status : ProcessingStatus) :
    db.Extends
      (setProcessingStatus db webhookEventId status) :=
  { refl db with
    webhooks := by
      apply Table.Keeps.updateWhere
      intro row
      rfl }

theorem markProcessed
    (db : Database)
    (outboxEventId : Uuid) :
    db.Extends (markProcessed db outboxEventId) :=
  { refl db with
    outbox := by
      apply Table.Keeps.updateWhere
      intro row
      rfl }

theorem setOutboxStatus
    (db : Database)
    (outboxEventId : Uuid)
    (status : OutboxStatus) :
    db.Extends (setOutboxStatus db outboxEventId status) :=
  { refl db with
    outbox := by
      apply Table.Keeps.updateWhere
      intro row
      rfl }

end Database.Extends

------------------------------------------------------------
-- Transaction Bodies
------------------------------------------------------------

namespace Database.Extends

variable {db later : Database}
variable {locked : Option PaymentIntent}
variable {intent moved : PaymentIntent}
variable {keyRow : IdempotencyKey}
variable {keyRowId : Uuid}
variable {result : ProviderResult}
variable {response : Response}
variable {draw : Draw}

theorem of_createInsert
    {indexable : PyString → Bool}
    {request : CreateRequest}
    (hBody :
      createInsert indexable db request keyRow draw =
        .ok (later, intent)) :
    db.Extends later := by
  rcases createInsert_eq_ok hBody with ⟨_, _, rfl⟩
  refine (putKey db keyRow).trans ?_
  exact
    { refl (db.putKey keyRow) with
      payments := .append _ _
      events := List.prefix_append _ _
      outbox := .append _ _ }

theorem of_createProcess
    (hBody :
      createProcess db locked draw = .ok (later, moved)) :
    db.Extends later := by
  rcases createProcess_eq_ok hBody with ⟨_, _, hApply⟩
  exact of_applyTransition hApply

theorem of_createAssess
    (db : Database)
    (request : CreateRequest)
    (intent : PaymentIntent)
    (draw : Draw) :
    db.Extends (createAssess db request intent draw).1 :=
  { refl db with auditLogs := List.prefix_append _ _ }

theorem of_createBlock
    (hBody :
      createBlock db locked keyRowId draw =
        .ok (later, response)) :
    db.Extends later := by
  rcases createBlock_eq_ok hBody with
    ⟨_, base, moved, _, hApply, rfl, _⟩
  exact (of_applyTransition hApply).trans
    (complete base _ _ _ _ _)

theorem of_createFinish
    {providerName : String}
    (hBody :
      createFinish db locked keyRowId providerName result
        draw = .ok (later, response)) :
    db.Extends later := by
  rcases createFinish_eq_ok hBody with
    ⟨_, attempt, base, moved, added, _, hApply, rfl, _, _⟩
  have hMoved :=
    of_moved (Moved.of_applyAuthorizeOutcome hApply)
  exact (((insertAttempt db attempt).trans hMoved).trans
    (insertTransactions base added)).trans
      (complete _ _ _ _ _ _)

theorem of_captureSettled
    (db : Database)
    (intent : PaymentIntent)
    (keyRow : IdempotencyKey) :
    db.Extends (captureSettled db intent keyRow).1 :=
  (putKey db keyRow).trans (complete _ _ _ _ _ _)

theorem of_captureFinish
    (hBody :
      captureFinish db intent keyRow result draw =
        .ok (later, response)) :
    db.Extends later := by
  rcases captureFinish_eq_ok hBody with
    ⟨base, moved, hOutcome, rfl, _⟩
  have hBase : (db.putKey keyRow).Extends base := by
    rcases applyCaptureOutcome_eq_ok hOutcome with
      ⟨_, settled, hApply, rfl⟩ | ⟨_, _, _, _, _, hApply⟩
    · exact (of_applyTransition hApply).trans
        (recordPair settled _)
    · exact of_applyTransition hApply
  exact ((putKey db keyRow).trans hBase).trans
    (complete _ _ _ _ _ _)

theorem of_refundReserve
    {request : RefundRequest}
    {reservation : Reservation}
    (hBody :
      refundReserve db locked request keyRow draw =
        .ok (later, reservation)) :
    db.Extends later := by
  rcases refundReserve_eq_ok hBody with
    ⟨intent, _, _, _, _, _, _, hEnter⟩
  have hInserted :
      (db.putKey keyRow).Extends
        { db.putKey keyRow with
          refunds :=
            (db.putKey keyRow).refunds ++
              [reservation.refund] } :=
    { refl (db.putKey keyRow) with refunds := .append _ _ }
  exact ((putKey db keyRow).trans hInserted).trans
    (of_moved (Moved.of_enterRefundPending hEnter))

theorem settleRefund
    (db : Database)
    (intent : PaymentIntent)
    (refund : Refund)
    (outcome : ProviderOutcome)
    (draw : Draw) :
    db.Extends
      (settleRefund db intent refund outcome draw) := by
  unfold PayGuard.settleRefund
  simp only
  split
  · exact (setRefundStatus db _ _).trans (recordPair _ _)
  · exact setRefundStatus db _ _

theorem of_refundFinalize
    {refund : Refund}
    (hBody :
      refundFinalize db locked refund keyRowId result draw =
        .ok (later, response)) :
    db.Extends later := by
  rcases refundFinalize_eq_ok hBody with
    ⟨intent, left, moved, body, _, hLeave, rfl, _⟩
  exact ((settleRefund db intent refund _ draw).trans
    (of_moved (Moved.of_leaveRefundPending hLeave))).trans
      (complete left _ _ _ _ _)

theorem of_receiveWebhook
    (db : Database)
    (delivery : WebhookDelivery)
    (draw : Draw) :
    db.Extends (receiveWebhook db delivery draw) := by
  unfold receiveWebhook
  split
  · exact refl db
  · exact
      { refl db with
        webhooks := .append _ _
        outbox := .append _ _ }

theorem of_handlePaymentOutcome
    {webhookEventId : Uuid}
    {targetStatus : PaymentStatus}
    (hBody :
      handlePaymentOutcome db locked webhookEventId
        targetStatus draw = .ok later) :
    db.Extends later := by
  rcases handlePaymentOutcome_eq_ok hBody with
    ⟨intent, status, _, rfl |
      ⟨_, base, moved, hApply, rfl⟩⟩
  · exact setProcessingStatus db _ _
  · refine ((of_applyTransition hApply).trans ?_).trans
      (setProcessingStatus _ _ _)
    unfold settleByWebhook
    split
    · exact recordPair base _
    · exact refl base

theorem of_dispatchEffect
    {config : Config}
    {webhookEventId : Uuid}
    {plan : WebhookPlan}
    (hBody :
      dispatchEffect config db webhookEventId plan draw =
        .ok later) :
    db.Extends later := by
  cases plan with
  | skip =>
      cases hBody
      exact refl db
  | ignore =>
      cases hBody
      exact setProcessingStatus db _ _
  | outcome targetStatus intent =>
      exact of_handlePaymentOutcome hBody

theorem of_reconcileApply
    {providerName : String}
    {report : ReconciliationReport}
    (hBody :
      reconcileApply db locked providerName result draw =
        .ok (later, report)) :
    db.Extends later := by
  rcases reconcileApply_eq_ok hBody with
    ⟨intent, _, ⟨rfl, _⟩ | ⟨_, _, _, _, hApply⟩ |
      ⟨_, hResolve⟩⟩
  · exact refl _
  · exact of_applyTransition hApply
  · rcases resolve_eq_ok hResolve with
      ⟨_, _, hSucceeded⟩ | ⟨_, _, hFailed⟩
    · rcases resolveSucceeded_eq_ok hSucceeded with
        ⟨attempt, base, moved, added, _, hApply, rfl⟩
      exact (((insertAttempt db attempt).trans
        (of_applyTransition hApply)).trans
          (recordPair base _)).trans
            (insertTransactions _ added)
    · rcases resolveFailed_eq_ok hFailed with
        ⟨attempt, base, moved, _, hApply, rfl⟩
      exact (of_applyTransition hApply).trans
        (insertAttempt base attempt)

end Database.Extends

end PayGuard

------------------------------------------------------------
-- Every Run
------------------------------------------------------------

namespace PayGuard

variable {config : Config}
variable {system next : System}
variable {call : CallId}
variable {draw : Draw}
variable {action : Action}

/- Every step extends what is stored. -/
theorem Effect.extends
    (hEffect :
      Effect config system call draw action next) :
    system.db.Extends next.db := by
  cases hEffect with
  | quiet hQuiet =>
      rw [hQuiet.db]
      exact .refl _
  | createInsert _ hBody => exact .of_createInsert hBody
  | createProcess _ _ hBody => exact .of_createProcess hBody
  | createAssess _ => exact .of_createAssess _ _ _ _
  | createBlock _ _ _ hBody => exact .of_createBlock hBody
  | createFinish _ _ _ hBody => exact .of_createFinish hBody
  | captureSettled _ _ _ => exact .of_captureSettled _ _ _
  | captureOpen _ _ _ _ => exact .refl _
  | captureFinish _ _ hBody => exact .of_captureFinish hBody
  | refundReserve _ _ hBody => exact .of_refundReserve hBody
  | refundAnswer _ _ => exact .refl _
  | refundFinish _ _ _ hBody =>
      exact .of_refundFinalize hBody
  | receiveWebhook _ => exact .of_receiveWebhook _ _ _
  | dispatchFinish _ _ hBody =>
      exact (Database.Extends.of_dispatchEffect hBody).trans
        (.markProcessed _ _)
  | reconcileApply _ _ hBody =>
      exact .of_reconcileApply hBody
  | reconcileReport _ =>
      exact
        { Database.Extends.refl system.db with
          reports := List.prefix_append _ _ }
  | failWrite _ _ => exact .fail _ _

theorem extends_of_exec
    {config : Config}
    {labels : List Label}
    {system later : System}
    (hRun :
      Lts.exec (step config) system labels = some later) :
    system.db.Extends later.db := by
  have hKeep :
      ∀ (before : System) (label : Label) (after : System),
        system.db.Extends before.db →
          step config before label = some after →
            system.db.Extends after.db := by
    intro before label after hBefore hStep
    exact hBefore.trans (step_effect hStep).2.extends
  exact Lts.invariant_of_exec hKeep (.refl system.db) hRun

/- The bookkeeping of the worker and its operators as well. -/
theorem DeskEffect.extends
    {desk next : Desk}
    {label : DeskLabel}
    (hEffect : DeskEffect config desk next label) :
    desk.system.db.Extends next.system.db := by
  cases hEffect with
  | service label hStep => exact (step_effect hStep).2.extends
  | fail _ _ _ _ outboxEventId _ _ db _ hDb hSystem =>
      rw [hSystem]
      rcases hDb with rfl | rfl
      · exact .refl _
      · exact .setOutboxStatus _ outboxEventId _
  | flush _ _ outboxEventId _ _ _ hSystem =>
      rw [hSystem]
      exact .setOutboxStatus _ outboxEventId _
  | read _ _ hSystem =>
      rw [hSystem]
      exact .refl _
  | kill _ hSystem =>
      rw [hSystem]
      exact .refl _

theorem extends_of_deskExec
    {config : Config}
    {labels : List DeskLabel}
    {desk later : Desk}
    (hRun :
      Lts.exec (deskStep config) desk labels = some later) :
    desk.system.db.Extends later.system.db := by
  have hKeep :
      ∀ (before : Desk) (label : DeskLabel) (after : Desk),
        desk.system.db.Extends before.system.db →
          deskStep config before label = some after →
            desk.system.db.Extends after.system.db := by
    intro before label after hBefore hStep
    exact hBefore.trans (deskStep_effect hStep).extends
  exact Lts.invariant_of_exec hKeep (.refl desk.system.db)
    hRun

/-
  From any state on, and through any steps of any calls, the
  logs of the services are only appended to, and every row
  keeps what it says besides its status.  The bookkeeping of
  failed dispatches and requeues rewrites nothing either.
-/
theorem history_is_never_rewritten
    (config : Config) :
    (∀ (labels : List Label) (system later : System),
      Lts.exec (step config) system labels = some later →
        system.db.Extends later.db) ∧
      ∀ (labels : List DeskLabel) (desk later : Desk),
        Lts.exec (deskStep config) desk labels =
            some later →
          desk.system.db.Extends later.system.db :=
  ⟨fun _ _ _ hRun => extends_of_exec hRun,
    fun _ _ _ hRun => extends_of_deskExec hRun⟩

/- Forty of payment 1 are asked back. -/
def beginsRefund : Label :=
  ⟨2, .refundBegin
    { merchantId := 1
      paymentId := 1
      idempotencyKey := "refund"
      amountMinor := 40 }, .numbered 8⟩

/- A webhook is received, and its dispatch raises. -/
def failsDispatch : List DeskLabel :=
  [.service ⟨3, .receiveWebhook
      { providerName := "mock"
        providerEventId := "evt"
        eventType := "payment.succeeded"
        providerTransactionId := none }, .numbered 9⟩,
    .service ⟨4, .dispatchBegin 9 0, .numbered 10⟩,
    .fail 4 "unreachable" 0 0]

theorem history_is_never_rewritten_captured :
    ∃ (system later : System) (desk : Desk),
      Lts.exec (step { sha256 := spellOut }) {}
          capturedRun = some system ∧
        system.db.ledger.length = 2 ∧
        later.db.events.length = 4 ∧
        system.db.Extends later.db ∧
        (desk.retries 9).attemptCount = 1 ∧
        system.db.Extends desk.system.db := by
  have hRun :
      (Lts.exec (step { sha256 := spellOut }) {}
        capturedRun).map (fun system =>
          (system.db.ledger.length,
            (Lts.exec (step { sha256 := spellOut }) system
              [beginsRefund]).map
                (fun later => later.db.events.length),
            (Lts.exec (deskStep { sha256 := spellOut })
              { system := system } failsDispatch).map
                (fun desk =>
                  (desk.retries 9).attemptCount))) =
        some (2, some 4, some 1) := by
    decide +kernel
  rcases Option.map_eq_some_iff.mp hRun with
    ⟨system, hExec, hBoth⟩
  rw [Prod.mk.injEq, Prod.mk.injEq] at hBoth
  rcases Option.map_eq_some_iff.mp hBoth.2.1 with
    ⟨later, hLater, hEvents⟩
  rcases Option.map_eq_some_iff.mp hBoth.2.2 with
    ⟨desk, hDesk, hCount⟩
  have hNever :=
    history_is_never_rewritten { sha256 := spellOut }
  exact ⟨system, later, desk, hExec, hBoth.1, hEvents,
    hNever.1 _ system later hLater, hCount,
    hNever.2 _ { system := system } desk hDesk⟩

end PayGuard

import PayGuard.System.Objects

/-
  A payment is settled in the ledger exactly once.

  Three services write the settlement pair: the capture, the
  webhook handler and reconciliation.  Each does so while it
  moves the payment to `SUCCEEDED`.  A refund also comes back
  to `SUCCEEDED`, and it must not settle the payment again.

  Key definitions include:
    * `Database.settlementOf`
    * `ExactlyOnce`
    * `SettleMove`
    * `NoLateSuccess`

  Key theorems include:
    * `settled_exactly_once`
    * `late_success_settles_twice`
-/

------------------------------------------------------------
-- Settlement Entries
------------------------------------------------------------

namespace PayGuard

/- The two kinds of entry of a payment-settled pair. -/
def LedgerEntry.settles (entry : LedgerEntry) : Bool :=
  (entry.account = .merchantReceivable &&
      entry.direction = .debit) ||
    (entry.account = .paymentClearing &&
      entry.direction = .credit)

/- The payment-settled entries of one payment. -/
def Database.settlementOf
    (db : Database)
    (paymentId : Uuid) : List LedgerEntry :=
  db.ledger.filter (fun entry =>
    entry.paymentIntentId = paymentId && entry.settles)

/-
  One pair over the full amount where the payment has been
  captured, and none where it has not.
-/
def ExactlyOnce
    (db : Database)
    (payment : PaymentIntent) : Prop :=
  (payment.status.Settled ∧
      ∃ ledgerTransactionId,
        db.settlementOf payment.id =
          [⟨payment.id, ledgerTransactionId,
              .merchantReceivable, .debit,
              payment.amountMinor⟩,
            ⟨payment.id, ledgerTransactionId,
              .paymentClearing, .credit,
              payment.amountMinor⟩]) ∨
    (¬ payment.status.Settled ∧
      db.settlementOf payment.id = [])

/- Every payment is settled once, and nothing else is. -/
structure SettledOnce (db : Database) : Prop where
  once : ∀ payment ∈ db.payments, ExactlyOnce db payment
  owner :
    ∀ paymentId,
      paymentId ∉ db.payments.map (·.id) →
        db.settlementOf paymentId = []

/- Two databases agree on payments and settlements. -/
structure SameSettlement (db db' : Database) : Prop where
  payments : db'.payments = db.payments
  settlement :
    ∀ paymentId,
      db'.settlementOf paymentId = db.settlementOf paymentId

/- The payments after the object `intent` was moved. -/
def movedPayments
    (db : Database)
    (intent : PaymentIntent)
    (toStatus : PaymentStatus) : List PaymentIntent :=
  Table.updateWhere (fun row => row.id = intent.id)
    (flushPayment intent (intent.moveTo toStatus))
    db.payments

/-
  What a transaction that holds `intent` does to payments
  and settlements together.
-/
inductive SettleMove
    (db : Database)
    (intent : PaymentIntent)
    (db' : Database) : Prop where
| stay (hSame : SameSettlement db db')
| move
    (toStatus : PaymentStatus)
    (actor : Actor)
    (hValid :
      isValidPaymentTransition intent.status toStatus
        (some actor) = true)
    (hRefund :
      toStatus = .succeeded →
        intent.status = .refundPending)
    (hPayments :
      db'.payments = movedPayments db intent toStatus)
    (hSettlement :
      ∀ paymentId,
        db'.settlementOf paymentId =
          db.settlementOf paymentId)
| settle
    (actor : Actor)
    (draw : Draw)
    (hValid :
      isValidPaymentTransition intent.status .succeeded
        (some actor) = true)
    (hSource : intent.status ≠ .refundPending)
    (hPayments :
      db'.payments = movedPayments db intent .succeeded)
    (hSettlement :
      ∀ paymentId,
        db'.settlementOf paymentId =
          (recordPaymentSettled db intent.id
            intent.amountMinor draw).settlementOf paymentId)

variable {db db' db'' : Database}
variable {intent moved : PaymentIntent}
variable {draw : Draw}

/- The settlements after one more pair. -/
theorem recordPaymentSettled_settlementOf
    (db : Database)
    (paymentId : Uuid)
    (amountMinor : Int)
    (draw : Draw)
    (other : Uuid) :
    (recordPaymentSettled db paymentId amountMinor
        draw).settlementOf other =
      db.settlementOf other ++
        (if paymentId = other then
          [⟨paymentId, draw.ledgerTransaction,
              .merchantReceivable, .debit, amountMinor⟩,
            ⟨paymentId, draw.ledgerTransaction,
              .paymentClearing, .credit, amountMinor⟩]
        else []) := by
  by_cases hId : paymentId = other
  · simp [Database.settlementOf, recordPaymentSettled,
      recordPair, buildPaymentSettledPair, buildPair,
      LedgerEntry.settles, hId]
  · simp [Database.settlementOf, recordPaymentSettled,
      recordPair, buildPaymentSettledPair, buildPair, hId]

/- A refund pair settles no payment. -/
theorem recordRefundSettled_settlementOf
    (db : Database)
    (paymentId : Uuid)
    (amountMinor : Int)
    (draw : Draw)
    (other : Uuid) :
    (recordRefundSettled db paymentId amountMinor
        draw).settlementOf other =
      db.settlementOf other := by
  simp [Database.settlementOf, recordRefundSettled,
    recordPair, buildRefundSettledPair, buildPair,
    LedgerEntry.settles]

theorem settlementOf_congr
    (hLedger : db'.ledger = db.ledger)
    (paymentId : Uuid) :
    db'.settlementOf paymentId =
      db.settlementOf paymentId := by
  unfold Database.settlementOf
  rw [hLedger]

namespace SameSettlement

theorem refl (db : Database) : SameSettlement db db :=
  ⟨rfl, fun _ => rfl⟩

theorem of_eq
    (hPayments : db'.payments = db.payments)
    (hLedger : db'.ledger = db.ledger) :
    SameSettlement db db' :=
  ⟨hPayments, settlementOf_congr hLedger⟩

theorem trans
    (hFirst : SameSettlement db db')
    (hSecond : SameSettlement db' db'') :
    SameSettlement db db'' where
  payments := hSecond.payments.trans hFirst.payments
  settlement := fun paymentId =>
    (hSecond.settlement paymentId).trans
      (hFirst.settlement paymentId)

theorem putKey
    (db : Database)
    (keyRow : IdempotencyKey) :
    SameSettlement db (db.putKey keyRow) := by
  rcases putKey_eq db keyRow with ⟨keys, hKeys⟩
  rw [hKeys]
  exact of_eq rfl rfl

end SameSettlement

namespace SettleMove

theorem andThen
    (hMove : SettleMove db intent db')
    (hSame : SameSettlement db' db'') :
    SettleMove db intent db'' := by
  cases hMove with
  | stay hFirst => exact .stay (hFirst.trans hSame)
  | move toStatus actor hValid hRefund hPayments
      hSettlement =>
      exact .move toStatus actor hValid hRefund
        (hSame.payments.trans hPayments)
        (fun paymentId =>
          (hSame.settlement paymentId).trans
            (hSettlement paymentId))
  | settle actor draw hValid hSource hPayments
      hSettlement =>
      exact .settle actor draw hValid hSource
        (hSame.payments.trans hPayments)
        (fun paymentId =>
          (hSame.settlement paymentId).trans
            (hSettlement paymentId))

theorem after
    (hSame : SameSettlement db db')
    (hMove : SettleMove db' intent db'') :
    SettleMove db intent db'' := by
  cases hMove with
  | stay hSecond => exact .stay (hSame.trans hSecond)
  | move toStatus actor hValid hRefund hPayments
      hSettlement =>
      refine .move toStatus actor hValid hRefund ?_ ?_
      · rw [hPayments, movedPayments, hSame.payments]
        rfl
      · intro paymentId
        rw [hSettlement, hSame.settlement]
  | settle actor draw hValid hSource hPayments
      hSettlement =>
      refine .settle actor draw hValid hSource ?_ ?_
      · rw [hPayments, movedPayments, hSame.payments]
        rfl
      · intro paymentId
        rw [hSettlement, recordPaymentSettled_settlementOf,
          recordPaymentSettled_settlementOf,
          hSame.settlement]

/- A transition that books nothing. -/
theorem of_applyTransition
    {toStatus : PaymentStatus}
    {actor : Actor}
    {eventType : String}
    (hApply :
      applyTransition db intent toStatus actor eventType
        draw = .ok (db', moved))
    (hRefund :
      toStatus = .succeeded →
        intent.status = .refundPending) :
    SettleMove db intent db' := by
  rcases applyTransition_eq_ok.mp hApply with
    ⟨hValid, rfl, _⟩
  exact .move toStatus actor hValid hRefund rfl
    (settlementOf_congr rfl)

/- A transition to `SUCCEEDED` together with its pair. -/
theorem of_settled
    {actor : Actor}
    {eventType : String}
    (hApply :
      applyTransition db intent .succeeded actor eventType
        draw = .ok (db', moved))
    (hSource : intent.status ≠ .refundPending) :
    SettleMove db intent
      (recordPaymentSettled db' moved.id moved.amountMinor
        draw) := by
  rcases applyTransition_eq_ok.mp hApply with
    ⟨hValid, rfl, rfl⟩
  refine .settle actor draw hValid hSource rfl ?_
  intro paymentId
  rw [recordPaymentSettled_settlementOf,
    recordPaymentSettled_settlementOf]
  rfl

end SettleMove

end PayGuard

------------------------------------------------------------
-- Transaction Bodies
------------------------------------------------------------

namespace PayGuard

variable {db db' : Database}
variable {locked : Option PaymentIntent}
variable {intent moved : PaymentIntent}
variable {keyRow : IdempotencyKey}
variable {keyRowId : Uuid}
variable {result : ProviderResult}
variable {response : Response}
variable {draw : Draw}

theorem createProcess_settleMove
    (hBody :
      createProcess db locked draw = .ok (db', moved)) :
    ∃ intent,
      locked = some intent ∧ SettleMove db intent db' := by
  rcases createProcess_eq_ok hBody with
    ⟨intent, hLocked, hApply⟩
  exact ⟨intent, hLocked,
    SettleMove.of_applyTransition hApply (by simp)⟩

theorem createBlock_settleMove
    (hBody :
      createBlock db locked keyRowId draw =
        .ok (db', response)) :
    ∃ intent,
      locked = some intent ∧ SettleMove db intent db' := by
  rcases createBlock_eq_ok hBody with
    ⟨intent, base, moved, hLocked, hApply, rfl, _⟩
  exact ⟨intent, hLocked,
    (SettleMove.of_applyTransition hApply (by simp)).andThen
      (SameSettlement.of_eq rfl rfl)⟩

theorem applyAuthorizeOutcome_settleMove
    {outcome : ProviderOutcome}
    (hApply :
      applyAuthorizeOutcome db intent outcome draw =
        .ok (db', moved)) :
    SettleMove db intent db' := by
  unfold applyAuthorizeOutcome at hApply
  cases outcome with
  | declined =>
      exact SettleMove.of_applyTransition hApply (by simp)
  | unknown =>
      exact SettleMove.of_applyTransition hApply (by simp)
  | succeeded =>
      cases hApply
      exact .stay (SameSettlement.refl _)
  | temporaryFailure =>
      cases hApply
      exact .stay (SameSettlement.refl _)

theorem createFinish_settleMove
    {providerName : String}
    (hBody :
      createFinish db locked keyRowId providerName result
        draw = .ok (db', response)) :
    ∃ intent,
      locked = some intent ∧ SettleMove db intent db' := by
  rcases createFinish_eq_ok hBody with
    ⟨intent, attempt, base, moved, added, hLocked, hApply,
      rfl, _⟩
  refine ⟨intent, hLocked, SettleMove.after ?_
    ((applyAuthorizeOutcome_settleMove hApply).andThen ?_)⟩
  · exact SameSettlement.of_eq rfl rfl
  · exact SameSettlement.of_eq rfl rfl

/- A capture settles a payment it read as `PROCESSING`. -/
theorem captureFinish_settleMove
    (hStatus : intent.status = .processing)
    (hBody :
      captureFinish db intent keyRow result draw =
        .ok (db', response)) :
    SettleMove db intent db' := by
  rcases captureFinish_eq_ok hBody with
    ⟨base, moved, hOutcome, rfl, _⟩
  refine SettleMove.after (SameSettlement.putKey db keyRow) ?_
  have hCompleted :
      SameSettlement base
        (completeIdempotencyKey base keyRow.id
          (some moved.id) 200 (serializePayment moved)) :=
    SameSettlement.of_eq rfl rfl
  rcases applyCaptureOutcome_eq_ok hOutcome with
    ⟨_, settled, hApply, rfl⟩ |
      ⟨_, toStatus, eventType, hTarget, _, hApply⟩
  · exact (SettleMove.of_settled hApply
      (by simp [hStatus])).andThen hCompleted
  · exact (SettleMove.of_applyTransition hApply
      (fun h => absurd h hTarget)).andThen hCompleted

theorem enterRefundPending_settleMove
    (hEnter :
      enterRefundPending db intent draw =
        .ok (db', moved)) :
    SettleMove db intent db' := by
  unfold enterRefundPending at hEnter
  split at hEnter
  · cases hEnter
    exact .stay (SameSettlement.refl _)
  · exact SettleMove.of_applyTransition hEnter (by simp)

theorem refundReserve_settleMove
    {request : RefundRequest}
    {reservation : Reservation}
    (hBody :
      refundReserve db locked request keyRow draw =
        .ok (db', reservation)) :
    ∃ intent,
      locked = some intent ∧ SettleMove db intent db' := by
  rcases refundReserve_eq_ok hBody with
    ⟨intent, hLocked, _, _, _, _, _, hEnter⟩
  refine ⟨intent, hLocked, SettleMove.after ?_
    (enterRefundPending_settleMove hEnter)⟩
  exact (SameSettlement.putKey db keyRow).trans
    (SameSettlement.of_eq rfl rfl)

/- Only a payment in `REFUND_PENDING` comes back. -/
theorem leaveRefundPending_settleMove
    (hLeave :
      leaveRefundPending db intent draw =
        .ok (db', moved)) :
    SettleMove db intent db' := by
  unfold leaveRefundPending at hLeave
  split at hLeave
  · rename_i hPending
    split at hLeave
    · exact SettleMove.of_applyTransition hLeave
        (fun _ => hPending.2)
    · split at hLeave
      · exact SettleMove.of_applyTransition hLeave
          (fun _ => hPending.2)
      · exact SettleMove.of_applyTransition hLeave
          (fun _ => hPending.2)
  · cases hLeave
    exact .stay (SameSettlement.refl _)

theorem settleRefund_sameSettlement
    (db : Database)
    (intent : PaymentIntent)
    (refund : Refund)
    (outcome : ProviderOutcome)
    (draw : Draw) :
    SameSettlement db
      (settleRefund db intent refund outcome draw) := by
  unfold settleRefund
  simp only
  split
  · refine ⟨rfl, ?_⟩
    intro paymentId
    rw [recordRefundSettled_settlementOf]
    rfl
  · exact SameSettlement.of_eq rfl rfl

theorem refundFinalize_settleMove
    {refund : Refund}
    (hBody :
      refundFinalize db locked refund keyRowId result draw =
        .ok (db', response)) :
    ∃ intent,
      locked = some intent ∧ SettleMove db intent db' := by
  rcases refundFinalize_eq_ok hBody with
    ⟨intent, dbLeft, moved, body, hLocked, hLeave, rfl, _⟩
  refine ⟨intent, hLocked, SettleMove.after
    (settleRefund_sameSettlement db intent refund
      result.outcome draw)
    ((leaveRefundPending_settleMove hLeave).andThen ?_)⟩
  exact SameSettlement.of_eq rfl rfl

/-
  A webhook settles the payment unless it is late: a late
  `payment.succeeded` finds the payment `REFUND_PENDING`.
-/
theorem handlePaymentOutcome_settleMove
    {webhookEventId : Uuid}
    {targetStatus : PaymentStatus}
    (hNotLate :
      targetStatus = .succeeded →
        ∀ intent,
          locked = some intent →
            intent.status ≠ .refundPending)
    (hBody :
      handlePaymentOutcome db locked webhookEventId
        targetStatus draw = .ok db') :
    ∃ intent,
      locked = some intent ∧ SettleMove db intent db' := by
  rcases handlePaymentOutcome_eq_ok hBody with
    ⟨intent, status, hLocked, rfl |
      ⟨_, base, moved, hApply, rfl⟩⟩
  · exact ⟨intent, hLocked,
      .stay (SameSettlement.of_eq rfl rfl)⟩
  · refine ⟨intent, hLocked, ?_⟩
    by_cases hTarget : targetStatus = .succeeded
    · subst hTarget
      have hSettle :=
        SettleMove.of_settled hApply
          (hNotLate rfl intent hLocked)
      exact hSettle.andThen (SameSettlement.of_eq rfl rfl)
    · have hMove :=
        SettleMove.of_applyTransition hApply
          (fun h => absurd h hTarget)
      simp only [settleByWebhook, hTarget, if_false]
      exact hMove.andThen (SameSettlement.of_eq rfl rfl)

theorem reconcileApply_settleMove
    {providerName : String}
    {report : ReconciliationReport}
    (hBody :
      reconcileApply db locked providerName result draw =
        .ok (db', report)) :
    ∃ intent,
      locked = some intent ∧ SettleMove db intent db' := by
  rcases reconcileApply_eq_ok hBody with
    ⟨intent, hLocked, ⟨rfl, _⟩ |
      ⟨_, _, _, moved, hApply⟩ | ⟨hUnknown, hResolve⟩⟩
  · exact ⟨intent, hLocked, .stay (SameSettlement.refl _)⟩
  · exact ⟨intent, hLocked,
      SettleMove.of_applyTransition hApply (by simp)⟩
  · refine ⟨intent, hLocked, ?_⟩
    rcases resolve_eq_ok hResolve with
      ⟨_, _, hSucceeded⟩ | ⟨_, _, hFailed⟩
    · rcases resolveSucceeded_eq_ok hSucceeded with
        ⟨attempt, base, moved, added, _, hApply, rfl⟩
      have hSettle :=
        SettleMove.of_settled hApply (by simp [hUnknown])
      refine SettleMove.after ?_ (hSettle.andThen ?_)
      · exact SameSettlement.of_eq rfl rfl
      · exact SameSettlement.of_eq rfl rfl
    · rcases resolveFailed_eq_ok hFailed with
        ⟨attempt, base, moved, _, hApply, rfl⟩
      exact (SettleMove.of_applyTransition hApply
        (by simp)).andThen (SameSettlement.of_eq rfl rfl)

end PayGuard

------------------------------------------------------------
-- One Step
------------------------------------------------------------

namespace PayGuard

/-
  A dispatch of `payment.succeeded` is not late: the payment
  it settles is not waiting for a refund.
-/
def NoLateSuccess
    (system : System)
    (label : Label) : Prop :=
  match label.action, system.calls label.call with
  | .dispatchFinish,
      .dispatchOpen _ _ (.outcome .succeeded intent) =>
      ∀ row ∈ system.db.selectPayment intent.id
          intent.merchantId,
        row.status ≠ .refundPending
  | _, _ => True

instance
    (system : System)
    (label : Label) :
    Decidable (NoLateSuccess system label) := by
  unfold NoLateSuccess
  generalize system.calls label.call = position
  generalize label.action = action
  rcases action
  case dispatchFinish =>
    rcases position
    case dispatchOpen dispatched event plan =>
      rcases plan
      case outcome target intent =>
        rcases target
        case succeeded =>
          exact inferInstanceAs (Decidable (∀ row ∈ _, _))
        all_goals exact inferInstanceAs (Decidable True)
      all_goals exact inferInstanceAs (Decidable True)
    all_goals exact inferInstanceAs (Decidable True)
  all_goals exact inferInstanceAs (Decidable True)

/- What a step does to payments and settlements. -/
inductive SettleStep
    (db db' : Database) : Prop where
| same (hSame : SameSettlement db db')
| create
    (intent : PaymentIntent)
    (hFresh : intent.id ∉ db.payments.map (·.id))
    (hStatus : intent.status = .created)
    (hPayments : db'.payments = db.payments ++ [intent])
    (hSettlement :
      ∀ paymentId,
        db'.settlementOf paymentId =
          db.settlementOf paymentId)
| move
    (intent : PaymentIntent)
    (hRow : intent ∈ db.payments)
    (hMove : SettleMove db intent db')

variable {config : Config}
variable {system next : System}
variable {call : CallId}
variable {draw : Draw}
variable {action : Action}
variable {db db' : Database}

/- A transaction on the stored row. -/
theorem SettleStep.of_selected
    {paymentId merchantId : Uuid}
    (hBody :
      ∃ intent,
        db.selectPayment paymentId merchantId =
            some intent ∧
          SettleMove db intent db') :
    SettleStep db db' := by
  rcases hBody with ⟨intent, hSelect, hMove⟩
  exact .move intent (selectPayment_eq_some hSelect).1 hMove

theorem SettleStep.andThen
    {db'' : Database}
    (hStep : SettleStep db db')
    (hSame : SameSettlement db' db'') :
    SettleStep db db'' := by
  cases hStep with
  | same hFirst => exact .same (hFirst.trans hSame)
  | create intent hFresh hStatus hPayments hSettlement =>
      exact .create intent hFresh hStatus
        (hSame.payments.trans hPayments)
        (fun paymentId =>
          (hSame.settlement paymentId).trans
            (hSettlement paymentId))
  | move intent hRow hMove =>
      exact .move intent hRow (hMove.andThen hSame)

/- A dispatch that is not late settles as it should. -/
theorem dispatchEffect_settleStep
    {outboxEventId webhookEventId : Uuid}
    {plan : WebhookPlan}
    (hCurrent : config.lockRead = .current)
    (hCall :
      system.calls call =
        .dispatchOpen outboxEventId webhookEventId plan)
    (hNotLate :
      NoLateSuccess system ⟨call, .dispatchFinish, draw⟩)
    (hBody :
      dispatchEffect config system.db webhookEventId plan
        draw = .ok db) :
    SettleStep system.db db := by
  cases plan with
  | skip =>
      cases hBody
      exact .same (SameSettlement.refl _)
  | ignore =>
      cases hBody
      exact .same (SameSettlement.of_eq rfl rfl)
  | outcome targetStatus intent =>
      simp only [dispatchEffect, hCurrent,
        lockPayment_current] at hBody
      apply SettleStep.of_selected
      apply handlePaymentOutcome_settleMove _ hBody
      intro hTarget row hLocked
      subst hTarget
      simp only [NoLateSuccess, hCall] at hNotLate
      exact hNotLate row hLocked

theorem createInsert_settleStep
    {indexable : PyString → Bool}
    {request : CreateRequest}
    {keyRow : IdempotencyKey}
    {intent : PaymentIntent}
    (hAdmits : system.db.Admits draw)
    (hBody :
      createInsert indexable system.db request keyRow draw =
        .ok (db, intent)) :
    SettleStep system.db db := by
  rcases createInsert_eq_ok hBody with
    ⟨hIntent, _, hDb⟩
  rcases putKey_eq system.db keyRow with ⟨keys, hKeys⟩
  rw [hKeys] at hDb
  subst hIntent
  subst hDb
  exact .create _ hAdmits.2.1 rfl rfl
    (settlementOf_congr rfl)

theorem receiveWebhook_sameSettlement
    (db : Database)
    (delivery : WebhookDelivery)
    (draw : Draw) :
    SameSettlement db (receiveWebhook db delivery draw) := by
  unfold receiveWebhook
  split
  · exact SameSettlement.refl db
  · exact SameSettlement.of_eq rfl rfl

/-
  A step settles what it locked.  Where the lock has yielded
  the object of the session, the row may have moved on.
-/
inductive SettlesLocked
    (config : Config)
    (system : System)
    (call : CallId)
    (action : Action)
    (db : Database) : Prop where
| step (hStep : SettleStep system.db db)
| kept
    (intent : PaymentIntent)
    (hRead : config.lockRead = .identityMap)
    (hRelocks : action.relocks = true)
    (hObject : (system.calls call).object = some intent)
    (hMove : SettleMove system.db intent db)

theorem SettlesLocked.of_locked
    {held : PaymentIntent}
    {paymentId merchantId : Uuid}
    (hRelocks : action.relocks = true)
    (hObject : (system.calls call).object = some held)
    (hBody :
      ∃ intent,
        lockPayment config.lockRead system.db (some held)
            paymentId merchantId = some intent ∧
          SettleMove system.db intent db) :
    SettlesLocked config system call action db := by
  rcases hBody with ⟨intent, hLocked, hMove⟩
  cases hRead : config.lockRead with
  | current =>
      rw [hRead, lockPayment_current] at hLocked
      exact .step (.of_selected ⟨intent, hLocked, hMove⟩)
  | identityMap =>
      rcases lockPayment_stored_or_held hLocked with
        hRow | rfl
      · exact .step (.move intent hRow hMove)
      · exact .kept intent hRead hRelocks hObject hMove

/- Every step settles, apart from a late webhook. -/
theorem Effect.settlesLocked
    (hHeld : CapturesHeld system)
    (hAdmits : system.db.Admits draw)
    (hDispatch :
      action = .dispatchFinish →
        config.lockRead = .current ∧
          NoLateSuccess system ⟨call, action, draw⟩)
    (hEffect :
      Effect config system call draw action next) :
    SettlesLocked config system call action next.db := by
  cases hEffect with
  | quiet hQuiet =>
      rw [hQuiet.db]
      exact .step (.same (SameSettlement.refl _))
  | createInsert _ hBody =>
      exact .step (createInsert_settleStep hAdmits hBody)
  | createProcess hCall _ hBody =>
      exact .of_locked rfl (by rw [hCall]; rfl)
        (createProcess_settleMove hBody)
  | createAssess _ =>
      exact .step (.same (SameSettlement.of_eq rfl rfl))
  | createBlock hCall _ _ hBody =>
      exact .of_locked rfl (by rw [hCall]; rfl)
        (createBlock_settleMove hBody)
  | createFinish hCall _ _ hBody =>
      exact .of_locked rfl (by rw [hCall]; rfl)
        (createFinish_settleMove hBody)
  | captureSettled _ _ _ =>
      exact .step (.same ((SameSettlement.putKey _ _).trans
        (SameSettlement.of_eq rfl rfl)))
  | captureOpen _ _ _ _ =>
      exact .step (.same (SameSettlement.refl _))
  | captureFinish hCall _ hBody =>
      have hStatus :=
        hHeld.status call _ (by rw [hCall]; rfl)
      have hRow := hHeld.row call _ (by rw [hCall]; rfl)
      exact .step (.move _ hRow
        (captureFinish_settleMove hStatus hBody))
  | refundReserve _ _ hBody =>
      exact .step (.of_selected
        (refundReserve_settleMove hBody))
  | refundAnswer _ _ =>
      exact .step (.same (SameSettlement.refl _))
  | refundFinish hCall _ _ hBody =>
      exact .of_locked rfl (by rw [hCall]; rfl)
        (refundFinalize_settleMove hBody)
  | receiveWebhook _ =>
      exact .step (.same
        (receiveWebhook_sameSettlement _ _ _))
  | dispatchFinish hCall _ hBody =>
      rcases hDispatch rfl with ⟨hCurrent, hNotLate⟩
      have hStep :=
        dispatchEffect_settleStep hCurrent hCall hNotLate
          hBody
      exact .step (hStep.andThen
        (SameSettlement.of_eq rfl rfl))
  | reconcileApply hCall _ hBody =>
      exact .of_locked rfl (by rw [hCall]; rfl)
        (reconcileApply_settleMove hBody)
  | reconcileReport _ =>
      exact .step (.same (SameSettlement.of_eq rfl rfl))
  | failWrite _ _ =>
      exact .step (.same (SameSettlement.of_eq rfl rfl))

/- Every step that is not late is a settling step. -/
theorem Effect.settleStep
    (hCurrent : config.lockRead = .current)
    (hHeld : CapturesHeld system)
    (hAdmits : system.db.Admits draw)
    (hNotLate : NoLateSuccess system ⟨call, action, draw⟩)
    (hEffect :
      Effect config system call draw action next) :
    SettleStep system.db next.db := by
  cases hEffect.settlesLocked hHeld hAdmits
      (fun _ => ⟨hCurrent, hNotLate⟩) with
  | step hStep => exact hStep
  | kept intent hRead _ _ _ =>
      rw [hCurrent] at hRead
      cases hRead

/- An object shows what its stored row says about money. -/
structure Shows (intent row : PaymentIntent) : Prop where
  id : row.id = intent.id
  status : row.status = intent.status
  amount : row.amountMinor = intent.amountMinor

theorem Shows.refl (intent : PaymentIntent) :
    Shows intent intent :=
  ⟨rfl, rfl, rfl⟩

/- A row shown by the moved object moves along. -/
theorem Shows.flush_status
    {intent row : PaymentIntent}
    (hShows : Shows intent row)
    (toStatus : PaymentStatus) :
    (flushPayment intent (intent.moveTo toStatus)
      row).status = toStatus := by
  unfold flushPayment PaymentIntent.moveTo
  by_cases hSame : toStatus = intent.status
  · simp [hSame, hShows.status]
  · simp [hSame]

/- A moved table holds the moved row and the other rows. -/
theorem mem_movedPayments
    {intent row payment : PaymentIntent}
    {toStatus : PaymentStatus}
    (hIds : (db.payments.map (·.id)).Nodup)
    (hRow : row ∈ db.payments)
    (hShows : Shows intent row)
    (hMem : payment ∈ movedPayments db intent toStatus) :
    payment =
        flushPayment intent (intent.moveTo toStatus) row ∨
      (payment ∈ db.payments ∧ payment.id ≠ intent.id) := by
  rcases Table.mem_updateWhere.mp hMem with
    ⟨old, hOld, rfl⟩
  by_cases hId : old.id = intent.id
  · have hSame : old = row :=
      List.inj_on_of_nodup_map hIds hOld hRow
        (hId.trans hShows.id.symm)
    subst hSame
    simp [hId]
  · simp [hId, hOld]

/- Unchanged entries keep the verdict on a payment. -/
theorem ExactlyOnce.congr
    {payment : PaymentIntent}
    (hOnce : ExactlyOnce db payment)
    (hSettlement :
      db'.settlementOf payment.id =
        db.settlementOf payment.id) :
    ExactlyOnce db' payment := by
  unfold ExactlyOnce at hOnce ⊢
  rw [hSettlement]
  exact hOnce

/- A move that books nothing keeps settledness. -/
theorem ExactlyOnce.flush
    {intent row : PaymentIntent}
    {toStatus : PaymentStatus}
    {actor : Actor}
    (hOnce : ExactlyOnce db row)
    (hShows : Shows intent row)
    (hValid :
      isValidPaymentTransition intent.status toStatus
        (some actor) = true)
    (hRefund :
      toStatus = .succeeded →
        intent.status = .refundPending) :
    ExactlyOnce db
      (flushPayment intent (intent.moveTo toStatus)
        row) := by
  have hIff := settled_iff_of_isValid hValid hRefund
  rw [← hShows.status] at hIff
  unfold ExactlyOnce
  rw [hShows.flush_status]
  rcases hOnce with ⟨hSettled, hPair⟩ | ⟨hOpen, hNone⟩
  · exact .inl ⟨hIff.mpr hSettled, hPair⟩
  · exact .inr ⟨fun h => hOpen (hIff.mp h), hNone⟩

/- A payment about to be settled is not settled yet. -/
theorem not_settled_of_valid
    {status : PaymentStatus}
    {actor : Actor}
    (hValid :
      isValidPaymentTransition status .succeeded
        (some actor) = true)
    (hSource : status ≠ .refundPending) :
    ¬ status.Settled := by
  rcases (isValid_succeeded_iff _ _).mp hValid with
    rfl | hPending | ⟨rfl, _⟩
  · simp [PaymentStatus.Settled]
  · exact absurd hPending hSource
  · simp [PaymentStatus.Settled]

theorem SameSettlement.settledOnce
    (hSame : SameSettlement db db')
    (hOnce : SettledOnce db) : SettledOnce db' where
  once := by
    intro payment hPayment
    rw [hSame.payments] at hPayment
    exact (hOnce.once payment hPayment).congr
      (hSame.settlement _)
  owner := by
    intro paymentId hUnknown
    rw [hSame.payments] at hUnknown
    rw [hSame.settlement]
    exact hOnce.owner paymentId hUnknown

/- The object may be an old one as long as it shows its row. -/
theorem SettleMove.settledOnce
    {intent row : PaymentIntent}
    (hMove : SettleMove db intent db')
    (hIds : (db.payments.map (·.id)).Nodup)
    (hRow : row ∈ db.payments)
    (hShows : Shows intent row)
    (hOnce : SettledOnce db) : SettledOnce db' := by
  have hPaymentIds :
      ∀ toStatus,
        (movedPayments db intent toStatus).map (·.id) =
          db.payments.map (·.id) := by
    intro toStatus
    exact Table.map_updateWhere
      (flushPayment_id intent (intent.moveTo toStatus)) _
  cases hMove with
  | stay hSame => exact hSame.settledOnce hOnce
  | move toStatus actor hValid hRefund hPayments
      hSettlement =>
      constructor
      · intro payment hPayment
        rw [hPayments] at hPayment
        rcases mem_movedPayments hIds hRow hShows hPayment
          with rfl | ⟨hOld, _⟩
        · exact ((hOnce.once row hRow).flush hShows hValid
            hRefund).congr (hSettlement _)
        · exact (hOnce.once payment hOld).congr
            (hSettlement _)
      · intro paymentId hUnknown
        rw [hPayments, hPaymentIds] at hUnknown
        rw [hSettlement]
        exact hOnce.owner paymentId hUnknown
  | settle actor draw hValid hSource hPayments
      hSettlement =>
      -- nothing was booked for the payment before
      have hEmpty : db.settlementOf intent.id = [] := by
        rw [← hShows.id]
        rcases hOnce.once row hRow with
          ⟨hSettled, _⟩ | ⟨_, hNone⟩
        · rw [hShows.status] at hSettled
          exact absurd hSettled
            (not_settled_of_valid hValid hSource)
        · exact hNone
      constructor
      · intro payment hPayment
        rw [hPayments] at hPayment
        rcases mem_movedPayments hIds hRow hShows hPayment
          with rfl | ⟨hOld, hId⟩
        · refine .inl ⟨by simp [hShows.flush_status,
            PaymentStatus.Settled],
            draw.ledgerTransaction, ?_⟩
          rw [hSettlement,
            recordPaymentSettled_settlementOf,
            flushPayment_id, hShows.id, hEmpty]
          simp [hShows.amount]
        · apply (hOnce.once payment hOld).congr
          rw [hSettlement, recordPaymentSettled_settlementOf,
            if_neg (Ne.symm hId), List.append_nil]
      · intro paymentId hUnknown
        rw [hPayments, hPaymentIds] at hUnknown
        have hId : intent.id ≠ paymentId := by
          intro hSame
          rw [← hSame] at hUnknown
          rw [← hShows.id] at hUnknown
          exact hUnknown (List.mem_map_of_mem hRow)
        rw [hSettlement, recordPaymentSettled_settlementOf,
          if_neg hId, List.append_nil]
        exact hOnce.owner paymentId hUnknown

theorem SettleStep.settledOnce
    (hStep : SettleStep db db')
    (hIds : (db.payments.map (·.id)).Nodup)
    (hOnce : SettledOnce db) : SettledOnce db' := by
  cases hStep with
  | same hSame => exact hSame.settledOnce hOnce
  | create intent hFresh hStatus hPayments hSettlement =>
      constructor
      · intro payment hPayment
        rw [hPayments, List.mem_append,
          List.mem_singleton] at hPayment
        rcases hPayment with hOld | rfl
        · exact (hOnce.once payment hOld).congr
            (hSettlement _)
        · refine .inr ⟨by simp [hStatus,
            PaymentStatus.Settled], ?_⟩
          rw [hSettlement]
          exact hOnce.owner _ hFresh
      · intro paymentId hUnknown
        rw [hPayments, List.map_append, List.mem_append,
          not_or] at hUnknown
        rw [hSettlement]
        exact hOnce.owner paymentId hUnknown.1
  | move intent hRow hMove =>
      exact hMove.settledOnce hIds hRow (.refl intent) hOnce

end PayGuard

------------------------------------------------------------
-- Every Run
------------------------------------------------------------

namespace PayGuard

theorem settledOnce_initial : SettledOnce {} where
  once := by simp
  owner := by simp [Database.settlementOf]

/-
  With locks that read the committed row, every payment is
  settled exactly once in every state reached without a late
  `payment.succeeded`.
-/
theorem settled_exactly_once
    (config : Config)
    (hCurrent : config.lockRead = .current)
    (labels : List Label)
    (system : System)
    (hRun :
      Lts.exec (step config) {} labels = some system)
    (hNotLate :
      Lts.Meets (step config) NoLateSuccess {} labels)
    (payment : PaymentIntent)
    (hPayment : payment ∈ system.db.payments) :
    ExactlyOnce system.db payment := by
  have hKeep :
      ∀ before label after,
        Held before ∧ SettledOnce before.db →
          NoLateSuccess before label →
            step config before label = some after →
              Held after ∧ SettledOnce after.db := by
    intro before label after hInv hTimely hStep
    rcases step_effect hStep with ⟨hAdmits, hEffect⟩
    have hSettle :=
      hEffect.settleStep hCurrent hInv.1.captures hAdmits
        hTimely
    exact ⟨held_effect hInv.1 hAdmits hEffect,
      hSettle.settledOnce hInv.1.paymentIds hInv.2⟩
  have hBoth :=
    Lts.invariant_of_meets hKeep
      ⟨held_initial, settledOnce_initial⟩ hNotLate hRun
  exact hBoth.2.once payment hPayment

theorem settled_exactly_once_captured :
    ∃ system,
      Lts.exec (step { sha256 := spellOut }) {}
          capturedRun = some system ∧
        system.db.ledger.length = 2 ∧
        ∀ payment ∈ system.db.payments,
          ExactlyOnce system.db payment := by
  have hRun :
      (Lts.exec (step { sha256 := spellOut }) {}
        capturedRun).map (fun system =>
          system.db.ledger.length) = some 2 := by
    decide +kernel
  rcases Option.map_eq_some_iff.mp hRun with
    ⟨system, hExec, hLength⟩
  exact ⟨system, hExec, hLength,
    settled_exactly_once _ rfl _ _ hExec
      (by decide +kernel)⟩

/-
  A captured payment has a refund in flight when the
  provider delivers `payment.succeeded`.
-/
def lateSuccessRun : List Label :=
  capturedRun ++
    [⟨2, .refundBegin
        { merchantId := 1
          paymentId := 1
          idempotencyKey := "refund"
          amountMinor := 40 }, .numbered 8⟩,
      ⟨3, .receiveWebhook
        { providerName := "mock"
          providerEventId := "event"
          eventType := "payment.succeeded"
          providerTransactionId := some "txn" },
        .numbered 9⟩,
      ⟨4, .dispatchBegin 9 1, .numbered 10⟩,
      ⟨4, .dispatchFinish, .numbered 11⟩]

/- The late webhook writes a second settlement pair. -/
theorem late_success_settles_twice :
    ∃ system,
      Lts.exec (step { sha256 := spellOut }) {}
          lateSuccessRun = some system ∧
        ∃ payment ∈ system.db.payments,
          (system.db.settlementOf payment.id).length = 4 ∧
            ¬ ExactlyOnce system.db payment := by
  have hRun :
      (Lts.exec (step { sha256 := spellOut }) {}
        lateSuccessRun).map (fun system =>
          decide (∃ payment ∈ system.db.payments,
            (system.db.settlementOf payment.id).length =
              4)) = some true := by
    decide +kernel
  rcases Option.map_eq_some_iff.mp hRun with
    ⟨system, hExec, hTwice⟩
  rcases of_decide_eq_true hTwice with
    ⟨payment, hPayment, hLength⟩
  refine ⟨system, hExec, payment, hPayment, hLength, ?_⟩
  rintro (⟨_, _, hPair⟩ | ⟨_, hNone⟩)
  · simp [hPair] at hLength
  · simp [hNone] at hLength

end PayGuard

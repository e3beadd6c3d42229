import PayGuard.System.Commits

/-
  What the calls of a running system hold.

  A capture that waits for the provider keeps the row it
  read, because every other writer needs the payment lock.
  A refund that waits for the provider keeps its `PENDING`
  row, because only its own call settles it.

  Key definitions include:
    * `TrailStep`
    * `RefundStep`
    * `Held`

  Key theorems include:
    * `Effect.trailStep`
    * `Effect.refundStep`
    * `held_step`
-/

------------------------------------------------------------
-- Payments And Their Trail
------------------------------------------------------------

namespace PayGuard

@[simp] theorem flushPayment_id
    (loaded changed row : PaymentIntent) :
    (flushPayment loaded changed row).id = row.id := rfl

@[simp] theorem flushPayment_amountMinor
    (loaded changed row : PaymentIntent) :
    (flushPayment loaded changed row).amountMinor =
      row.amountMinor := rfl

/- Flushing a moved object over its own row moves the row. -/
theorem flushPayment_self
    (intent : PaymentIntent)
    (toStatus : PaymentStatus) :
    flushPayment intent (intent.moveTo toStatus) intent =
      intent.moveTo toStatus := by
  unfold flushPayment PaymentIntent.moveTo
  by_cases hStatus : toStatus = intent.status
  · simp [hStatus]
  · simp [hStatus]

/-
  What a step does to the payments, events and outbox rows.
  A moved object belongs to a payment no other call locks,
  and it is the stored row wherever locks read it.
-/
inductive TrailStep
    (config : Config)
    (system : System)
    (call : CallId)
    (db : Database) : Prop where
| same (hSame : SameTrail system.db db)
| create
    (intent : PaymentIntent)
    (draw : Draw)
    (hFresh :
      intent.id ∉ system.db.payments.map (·.id))
    (hStatus : intent.status = .created)
    (hVersion : intent.version = 1)
    (hAmount : 0 < intent.amountMinor)
    (hPayments :
      db.payments = system.db.payments ++ [intent])
    (hEvents :
      db.events =
        system.db.events ++
          [{ paymentIntentId := intent.id
             fromStatus := none
             toStatus := .created
             actor := .api
             createdAt := draw.serverNow }])
    (hOutbox :
      db.paymentOutbox =
        system.db.paymentOutbox ++
          [(intent.id, .payment intent.id none)])
| move
    (intent : PaymentIntent)
    (hLock :
      ∀ other,
        other ≠ call →
          system.paymentLock intent.id ≠ some other)
    (hRow :
      config.lockRead = .current →
        intent ∈ system.db.payments)
    (hMove : TrailMove system.db intent db)

/- The row a waiting capture read is still the stored one. -/
structure CapturesHeld (system : System) : Prop where
  lock :
    ∀ call intent,
      (system.calls call).captured = some intent →
        system.paymentLock intent.id = some call
  row :
    ∀ call intent,
      (system.calls call).captured = some intent →
        intent ∈ system.db.payments
  status :
    ∀ call intent,
      (system.calls call).captured = some intent →
        intent.status = .processing

variable {config : Config}
variable {system next : System}
variable {call : CallId}
variable {draw : Draw}
variable {action : Action}

/- A locked transaction that moves its payment. -/
theorem TrailStep.of_locked
    {db : Database}
    {loaded : Option PaymentIntent}
    {paymentId merchantId : Uuid}
    (hFree : system.paymentFree paymentId = true)
    (hBody :
      ∃ intent,
        lockPayment config.lockRead system.db loaded
            paymentId merchantId = some intent ∧
          TrailMove system.db intent db) :
    TrailStep config system call db := by
  rcases hBody with ⟨intent, hLocked, hMove⟩
  have hId := lockPayment_id hLocked
  refine .move intent ?_ ?_ hMove
  · intro other _
    rw [hId, paymentLock_eq_none hFree]
    simp
  · intro hCurrent
    rw [hCurrent, lockPayment_current] at hLocked
    exact (selectPayment_eq_some hLocked).1

/- A dispatch moves at most the payment it read. -/
theorem dispatchFinish_trailStep
    {webhookEventId outboxEventId : Uuid}
    {plan : WebhookPlan}
    {db : Database}
    (hReady : system.dispatchReady plan = true)
    (hBody :
      dispatchEffect config system.db webhookEventId plan
        draw = .ok db) :
    TrailStep config system call
      (markProcessed db outboxEventId) := by
  have hMark := SameTrail.markProcessed db outboxEventId
  cases plan with
  | skip =>
      cases hBody
      exact .same hMark
  | ignore =>
      cases hBody
      have hIgnore :
          SameTrail system.db
            (setProcessingStatus system.db webhookEventId
              .ignored) := ⟨rfl, rfl, rfl⟩
      exact .same (hIgnore.trans hMark)
  | outcome targetStatus intent =>
      rcases handlePaymentOutcome_trailMove hBody with
        ⟨moved, hLocked, hMove⟩
      exact .of_locked hReady
        ⟨moved, hLocked, hMove.andThen hMark⟩

theorem createInsert_trailStep
    {indexable : PyString → Bool}
    {request : CreateRequest}
    {keyRow : IdempotencyKey}
    {db : Database}
    {intent : PaymentIntent}
    (hAdmits : system.db.Admits draw)
    (hBody :
      createInsert indexable system.db request keyRow draw =
        .ok (db, intent)) :
    TrailStep config system call db := by
  rcases createInsert_eq_ok hBody with
    ⟨hIntent, hAmount, hDb⟩
  rcases putKey_eq system.db keyRow with ⟨keys, hKeys⟩
  rw [hKeys] at hDb
  subst hIntent
  subst hDb
  refine .create _ draw hAdmits.2.1 rfl rfl hAmount rfl rfl ?_
  simp [Database.paymentOutbox]

/- Every step is a step of the trail. -/
theorem Effect.trailStep
    (hHeld : CapturesHeld system)
    (hAdmits : system.db.Admits draw)
    (hEffect :
      Effect config system call draw action next) :
    TrailStep config system call next.db := by
  cases hEffect with
  | quiet hQuiet =>
      rw [hQuiet.db]
      exact .same (SameTrail.refl _)
  | createInsert _ hBody =>
      exact createInsert_trailStep hAdmits hBody
  | createProcess _ hFree hBody =>
      exact .of_locked hFree (createProcess_trailMove hBody)
  | createAssess _ => exact .same ⟨rfl, rfl, rfl⟩
  | createBlock _ hFree _ hBody =>
      exact .of_locked hFree (createBlock_trailMove hBody)
  | createFinish _ hFree _ hBody =>
      exact .of_locked hFree (createFinish_trailMove hBody)
  | captureSettled _ _ _ =>
      exact .same (captureSettled_sameTrail _ _ _)
  | captureOpen _ _ _ _ => exact .same (SameTrail.refl _)
  | captureFinish hCall _ hBody =>
      refine .move _ ?_ ?_ (captureFinish_trailMove hBody)
      · intro other hOther
        rw [hHeld.lock call _ (by rw [hCall]; rfl)]
        simpa using Ne.symm hOther
      · intro _
        exact hHeld.row call _ (by rw [hCall]; rfl)
  | refundReserve _ hFree hBody =>
      rw [← lockPayment_unloaded config.lockRead] at hBody
      exact .of_locked hFree (refundReserve_trailMove hBody)
  | refundAnswer _ _ => exact .same (SameTrail.refl _)
  | refundFinish _ hFree _ hBody =>
      exact .of_locked hFree (refundFinalize_trailMove hBody)
  | receiveWebhook _ =>
      exact .same (receiveWebhook_sameTrail _ _ _)
  | dispatchFinish _ hReady hBody =>
      exact dispatchFinish_trailStep hReady hBody
  | reconcileApply _ hFree hBody =>
      exact .of_locked hFree (reconcileApply_trailMove hBody)
  | reconcileReport _ => exact .same ⟨rfl, rfl, rfl⟩
  | failWrite _ _ => exact .same ⟨rfl, rfl, rfl⟩

/- A moved trail only changes rows of the moved payment. -/
theorem TrailMove.mem_of_ne
    {db db' : Database}
    {intent row : PaymentIntent}
    (hMove : TrailMove db intent db')
    (hRow : row ∈ db.payments)
    (hId : row.id ≠ intent.id) :
    row ∈ db'.payments := by
  cases hMove with
  | stay hSame =>
      rw [hSame.payments]
      exact hRow
  | move toStatus actor eventType draw hValid hSame =>
      rw [hSame.payments]
      exact Table.mem_updateWhere_of_not_selected hRow
        (by simpa using hId)

/- Moving keeps the identifiers in place. -/
theorem TrailMove.map_id
    {db db' : Database}
    {intent : PaymentIntent}
    (hMove : TrailMove db intent db') :
    db'.payments.map (·.id) = db.payments.map (·.id) := by
  cases hMove with
  | stay hSame => rw [hSame.payments]
  | move toStatus actor eventType draw hValid hSame =>
      rw [hSame.payments]
      exact Table.map_updateWhere
        (flushPayment_id intent (intent.moveTo toStatus)) _

/- A moved row has an old row of its payment and amount. -/
theorem TrailMove.exists_old
    {db db' : Database}
    {intent row : PaymentIntent}
    (hMove : TrailMove db intent db')
    (hRow : row ∈ db'.payments) :
    ∃ old ∈ db.payments,
      old.id = row.id ∧
        old.amountMinor = row.amountMinor := by
  cases hMove with
  | stay hSame =>
      rw [hSame.payments] at hRow
      exact ⟨row, hRow, rfl, rfl⟩
  | move toStatus actor eventType draw hValid hSame =>
      rw [hSame.payments] at hRow
      rcases Table.mem_updateWhere.mp hRow with
        ⟨old, hOld, rfl⟩
      refine ⟨old, hOld, ?_, ?_⟩ <;> split <;> rfl

end PayGuard

------------------------------------------------------------
-- Refund Rows
------------------------------------------------------------

namespace PayGuard

/-
  What a step does to the refunds and to the refund its
  call holds.
-/
inductive RefundStep
    (system : System)
    (call : CallId)
    (action : Action)
    (next : System) : Prop where
| same
    (hRefunds : next.db.refunds = system.db.refunds)
    (hCalls : next.refundCalls = system.refundCalls)
    (hNext : (next.calls call).reservation = none)
| answer
    (request : RefundRequest)
    (key : ClaimedKey)
    (reservation : Reservation)
    (result : ProviderResult)
    (executed : Bool)
    (hCall :
      system.calls call =
        .refundReserved request key reservation)
    (hExecuted :
      result.outcome.mayExecute executed = true)
    (hRefunds : next.db.refunds = system.db.refunds)
    (hCalls :
      next.refundCalls =
        system.refundCalls ++
          [{ paymentId := reservation.refund.paymentIntentId
             refundId := reservation.refund.id
             amountMinor := reservation.refund.amountMinor
             outcome := result.outcome
             executed := executed }])
    (hNext :
      next.calls call =
        .refundAnswered request key reservation result)
| reserve
    (request : RefundRequest)
    (key : ClaimedKey)
    (reservation : Reservation)
    (intent : PaymentIntent)
    (hFresh :
      reservation.refund.id ∉
        system.db.refunds.map (·.id))
    (hStatus : reservation.refund.status = .pending)
    (hPositive : 0 < reservation.refund.amountMinor)
    (hIntent : intent ∈ system.db.payments)
    (hPayment :
      reservation.refund.paymentIntentId = intent.id)
    (hRemaining :
      reservation.refund.amountMinor ≤
        intent.amountMinor -
          reservedAmount system.db intent.id)
    (hRefunds :
      next.db.refunds =
        system.db.refunds ++ [reservation.refund])
    (hCalls : next.refundCalls = system.refundCalls)
    (hNext :
      next.calls call =
        .refundReserved request key reservation)
| settle
    (request : RefundRequest)
    (key : ClaimedKey)
    (reservation : Reservation)
    (result : ProviderResult)
    (hAction : action = .refundFinish)
    (hCall :
      system.calls call =
        .refundAnswered request key reservation result)
    (hRefunds :
      next.db.refunds =
        (setRefundStatus system.db reservation.refund.id
          (finalRefundStatus result.outcome)).refunds)
    (hCalls : next.refundCalls = system.refundCalls)
    (hNext : (next.calls call).reservation = none)

variable {config : Config}
variable {system next : System}
variable {call : CallId}
variable {draw : Draw}
variable {action : Action}
variable {db db' : Database}
variable {locked : Option PaymentIntent}
variable {keyRow : IdempotencyKey}
variable {keyRowId : Uuid}
variable {result : ProviderResult}
variable {response : Response}

@[simp] theorem putKey_refunds
    (db : Database)
    (keyRow : IdempotencyKey) :
    (db.putKey keyRow).refunds = db.refunds := by
  rcases putKey_eq db keyRow with ⟨keys, hKeys⟩
  rw [hKeys]

theorem createInsert_refunds
    {indexable : PyString → Bool}
    {request : CreateRequest}
    {intent : PaymentIntent}
    (hBody :
      createInsert indexable db request keyRow draw =
        .ok (db', intent)) :
    db'.refunds = db.refunds := by
  rcases createInsert_eq_ok hBody with ⟨_, _, rfl⟩
  exact putKey_refunds db keyRow

theorem createProcess_refunds
    {moved : PaymentIntent}
    (hBody :
      createProcess db locked draw = .ok (db', moved)) :
    db'.refunds = db.refunds := by
  rcases createProcess_eq_ok hBody with ⟨_, _, hApply⟩
  exact (Moved.of_applyTransition hApply).refunds

theorem createBlock_refunds
    (hBody :
      createBlock db locked keyRowId draw =
        .ok (db', response)) :
    db'.refunds = db.refunds := by
  rcases createBlock_eq_ok hBody with
    ⟨_, base, _, _, hApply, rfl, _⟩
  exact (Moved.of_applyTransition hApply).refunds

theorem createFinish_refunds
    {providerName : String}
    (hBody :
      createFinish db locked keyRowId providerName result
        draw = .ok (db', response)) :
    db'.refunds = db.refunds := by
  rcases createFinish_eq_ok hBody with
    ⟨_, _, base, _, _, _, hApply, rfl, _⟩
  exact (Moved.of_applyAuthorizeOutcome hApply).refunds

theorem captureFinish_refunds
    {intent : PaymentIntent}
    (hBody :
      captureFinish db intent keyRow result draw =
        .ok (db', response)) :
    db'.refunds = db.refunds := by
  rcases captureFinish_eq_ok hBody with
    ⟨base, moved, hOutcome, rfl, _⟩
  rw [← putKey_refunds db keyRow]
  rcases applyCaptureOutcome_eq_ok hOutcome with
    ⟨_, settled, hApply, rfl⟩ | ⟨_, _, _, _, _, hApply⟩
  · exact (Moved.of_applyTransition hApply).refunds
  · exact (Moved.of_applyTransition hApply).refunds

theorem receiveWebhook_refunds
    (db : Database)
    (delivery : WebhookDelivery)
    (draw : Draw) :
    (receiveWebhook db delivery draw).refunds =
      db.refunds := by
  unfold receiveWebhook
  split <;> rfl

theorem handlePaymentOutcome_refunds
    {webhookEventId : Uuid}
    {targetStatus : PaymentStatus}
    (hBody :
      handlePaymentOutcome db locked webhookEventId
        targetStatus draw = .ok db') :
    db'.refunds = db.refunds := by
  rcases handlePaymentOutcome_eq_ok hBody with
    ⟨_, _, _, rfl | ⟨_, base, moved, hApply, rfl⟩⟩
  · rfl
  · rw [← (Moved.of_applyTransition hApply).refunds]
    unfold settleByWebhook
    split <;> rfl

theorem dispatchEffect_refunds
    {webhookEventId : Uuid}
    {plan : WebhookPlan}
    (hBody :
      dispatchEffect config db webhookEventId plan draw =
        .ok db') :
    db'.refunds = db.refunds := by
  cases plan with
  | skip =>
      cases hBody
      rfl
  | ignore =>
      cases hBody
      rfl
  | outcome targetStatus intent =>
      exact handlePaymentOutcome_refunds hBody

theorem reconcileApply_refunds
    {providerName : String}
    {report : ReconciliationReport}
    (hBody :
      reconcileApply db locked providerName result draw =
        .ok (db', report)) :
    db'.refunds = db.refunds := by
  rcases reconcileApply_eq_ok hBody with
    ⟨_, _, ⟨rfl, _⟩ | ⟨_, _, _, _, hApply⟩ | ⟨_, hResolve⟩⟩
  · rfl
  · exact (Moved.of_applyTransition hApply).refunds
  · rcases resolve_eq_ok hResolve with
      ⟨_, _, hSucceeded⟩ | ⟨_, _, hFailed⟩
    · rcases resolveSucceeded_eq_ok hSucceeded with
        ⟨_, base, _, _, _, hApply, rfl⟩
      exact (Moved.of_applyTransition hApply).refunds
    · rcases resolveFailed_eq_ok hFailed with
        ⟨_, base, _, _, hApply, rfl⟩
      exact (Moved.of_applyTransition hApply).refunds

/- The reserving transaction adds exactly its refund. -/
theorem refundReserve_refunds
    {request : RefundRequest}
    {reservation : Reservation}
    (hBody :
      refundReserve db locked request keyRow draw =
        .ok (db', reservation)) :
    db'.refunds = db.refunds ++ [reservation.refund] := by
  rcases refundReserve_eq_ok hBody with
    ⟨_, _, _, _, _, _, _, hEnter⟩
  rw [(Moved.of_enterRefundPending hEnter).refunds]
  simp

/- The finalizing transaction writes one refund status. -/
theorem refundFinalize_refunds
    {refund : Refund}
    (hBody :
      refundFinalize db locked refund keyRowId result draw =
        .ok (db', response)) :
    db'.refunds =
      (setRefundStatus db refund.id
        (finalRefundStatus result.outcome)).refunds := by
  rcases refundFinalize_eq_ok hBody with
    ⟨_, dbLeft, _, _, _, hLeave, rfl, _⟩
  calc dbLeft.refunds
    _ = (settleRefund db _ refund result.outcome
          draw).refunds :=
        (Moved.of_leaveRefundPending hLeave).refunds
    _ = (setRefundStatus db refund.id
          (finalRefundStatus result.outcome)).refunds := by
        unfold settleRefund
        simp only
        split <;> rfl

theorem refundReserve_refundStep
    {request : RefundRequest}
    {key : ClaimedKey}
    {reservation : Reservation}
    {row : CreatedRow}
    (hAdmits : system.db.Admits draw)
    (hBody :
      refundReserve system.db
        (system.db.selectPayment request.paymentId
          request.merchantId)
        request keyRow draw = .ok (db, reservation)) :
    RefundStep system call action
      ((system.commit call db
        (.refundReserved request key
          reservation)).recordOrigin key row) := by
  have hRefunds := refundReserve_refunds hBody
  rcases refundReserve_eq_ok hBody with
    ⟨intent, hSelect, _, hRemaining, _, hRefund, hPositive,
      _⟩
  refine .reserve request key reservation intent ?_ ?_ ?_
    (selectPayment_eq_some hSelect).1 ?_ ?_ hRefunds rfl ?_
  · rw [hRefund]
    exact hAdmits.2.2.2.1
  · rw [hRefund]
  · rw [hRefund]
    exact hPositive
  · rw [hRefund]
  · rw [hRefund]
    exact hRemaining
  · simp

/- Every step is a step of the refunds. -/
theorem Effect.refundStep
    (hAdmits : system.db.Admits draw)
    (hEffect :
      Effect config system call draw action next) :
    RefundStep system call action next := by
  cases hEffect with
  | quiet hQuiet =>
      exact .same (by rw [hQuiet.db]) hQuiet.refundCalls
        hQuiet.reservation
  | createInsert _ hBody =>
      exact .same (createInsert_refunds hBody) rfl
        (by simp [Call.reservation])
  | createProcess _ _ hBody =>
      exact .same (createProcess_refunds hBody) rfl
        (by simp [Call.reservation])
  | createAssess _ =>
      exact .same rfl rfl (by simp [Call.reservation])
  | createBlock _ _ _ hBody =>
      exact .same (createBlock_refunds hBody) rfl
        (by simp [Call.reservation])
  | createFinish _ _ _ hBody =>
      exact .same (createFinish_refunds hBody) rfl
        (by simp [Call.reservation])
  | captureSettled _ _ _ =>
      exact .same (putKey_refunds _ _) rfl
        (by simp [Call.reservation])
  | captureOpen _ _ _ _ =>
      exact .same rfl rfl
        (by simp [Call.reservation])
  | captureFinish _ _ hBody =>
      exact .same (captureFinish_refunds hBody)
        (by simp [System.refundCalls, System.observe,
          System.commit, System.release,
          ProviderCall.asRefund])
        (by simp [Call.reservation])
  | refundReserve _ _ hBody =>
      exact refundReserve_refundStep hAdmits hBody
  | refundAnswer hCall hExecuted =>
      exact .answer _ _ _ _ _ hCall hExecuted rfl
        (by simp [System.refundCalls, System.observe,
          System.become, ProviderCall.asRefund])
        (by simp)
  | refundFinish hCall _ _ hBody =>
      exact .settle _ _ _ _ rfl hCall
        (refundFinalize_refunds hBody) rfl
        (by simp [Call.reservation])
  | receiveWebhook _ =>
      exact .same (receiveWebhook_refunds _ _ _) rfl
        (by simp [Call.reservation])
  | dispatchFinish _ _ hBody =>
      have hRefunds := dispatchEffect_refunds hBody
      exact .same hRefunds rfl (by simp [Call.reservation])
  | reconcileApply _ _ hBody =>
      exact .same (reconcileApply_refunds hBody) rfl
        (by simp [Call.reservation])
  | reconcileReport _ =>
      exact .same rfl rfl (by simp [Call.reservation])
  | failWrite _ _ =>
      exact .same rfl rfl (by simp [Call.reservation])

end PayGuard

------------------------------------------------------------
-- The Invariant
------------------------------------------------------------

namespace PayGuard

/-
  Identifiers are unique, refunds belong to stored payments,
  and the calls hold what they last read or wrote.
-/
structure Held (system : System) : Prop where
  captures : CapturesHeld system
  paymentIds : (system.db.payments.map (·.id)).Nodup
  refundIds : (system.db.refunds.map (·.id)).Nodup
  owner :
    ∀ refund ∈ system.db.refunds,
      refund.paymentIntentId ∈
        system.db.payments.map (·.id)
  reserved :
    ∀ call reservation,
      (system.calls call).reservation = some reservation →
        reservation.refund ∈ system.db.refunds ∧
          reservation.refund.status = .pending
  distinct :
    ∀ call other reservation reservation',
      other ≠ call →
        (system.calls call).reservation =
            some reservation →
          (system.calls other).reservation =
              some reservation' →
            reservation.refund.id ≠ reservation'.refund.id

theorem held_initial : Held {} where
  captures := by
    constructor <;> intro call intent hCaptured <;>
      cases hCaptured
  paymentIds := List.nodup_nil
  refundIds := List.nodup_nil
  owner := by simp
  reserved := by
    intro call reservation hReservation
    cases hReservation
  distinct := by
    intro call other reservation reservation' _ hReservation
    cases hReservation

variable {config : Config}
variable {system next : System}
variable {call : CallId}
variable {draw : Draw}
variable {action : Action}

/- A capture that has just opened holds the stored row. -/
theorem Effect.captured
    {intent : PaymentIntent}
    (hEffect :
      Effect config system call draw action next)
    (hCaptured :
      (next.calls call).captured = some intent) :
    next.paymentLock intent.id = some call ∧
      intent ∈ next.db.payments ∧
      intent.status = .processing := by
  cases hEffect with
  | quiet hQuiet =>
      rw [hQuiet.captured] at hCaptured
      cases hCaptured
  | captureOpen _ _ hSelect hStatus =>
      simp only [System.become_calls_self, Call.captured,
        Option.some.injEq] at hCaptured
      subst hCaptured
      exact ⟨Function.update_self _ _ _,
        (selectPayment_eq_some hSelect).1, hStatus⟩
  | _ => simp [Call.captured] at hCaptured

/- Rows of payments locked by others survive a step. -/
theorem TrailStep.mem_of_locked
    {db : Database}
    {row : PaymentIntent}
    {other : CallId}
    (hTrail : TrailStep config system call db)
    (hOther : other ≠ call)
    (hLock : system.paymentLock row.id = some other)
    (hRow : row ∈ system.db.payments) :
    row ∈ db.payments := by
  cases hTrail with
  | same hSame =>
      rw [hSame.payments]
      exact hRow
  | create intent draw _ _ _ _ hPayments _ _ =>
      rw [hPayments]
      exact List.mem_append_left _ hRow
  | move intent hNotLocked _ hMove =>
      apply hMove.mem_of_ne hRow
      intro hId
      rw [hId] at hLock
      exact hNotLocked other hOther hLock

theorem capturesHeld_step
    (hHeld : CapturesHeld system)
    (hAdmits : system.db.Admits draw)
    (hEffect :
      Effect config system call draw action next) :
    CapturesHeld next := by
  have hFrame := hEffect.frame
  have hTrail := hEffect.trailStep hHeld hAdmits
  -- the acting call has just opened; the others are framed
  have hBoth :
      ∀ other intent,
        (next.calls other).captured = some intent →
          next.paymentLock intent.id = some other ∧
            intent ∈ next.db.payments ∧
            intent.status = .processing := by
    intro other intent hCaptured
    by_cases hOther : other = call
    · subst hOther
      exact hEffect.captured hCaptured
    · rw [hFrame.calls other hOther] at hCaptured
      have hLock := hHeld.lock other intent hCaptured
      exact ⟨(hFrame.paymentLock _ _ hOther).mpr hLock,
        hTrail.mem_of_locked hOther hLock
          (hHeld.row other intent hCaptured),
        hHeld.status other intent hCaptured⟩
  exact ⟨fun other intent h => (hBoth other intent h).1,
    fun other intent h => (hBoth other intent h).2.1,
    fun other intent h => (hBoth other intent h).2.2⟩

/- A payment was there with its amount, or is new. -/
theorem TrailStep.exists_old
    {db : Database}
    {row : PaymentIntent}
    (hTrail : TrailStep config system call db)
    (hRow : row ∈ db.payments) :
    (∃ old ∈ system.db.payments,
        old.id = row.id ∧
          old.amountMinor = row.amountMinor) ∨
      (row.id ∉ system.db.payments.map (·.id) ∧
        0 < row.amountMinor) := by
  cases hTrail with
  | same hSame =>
      rw [hSame.payments] at hRow
      exact .inl ⟨row, hRow, rfl, rfl⟩
  | create intent draw hFresh _ _ hAmount hPayments _ _ =>
      rw [hPayments, List.mem_append,
        List.mem_singleton] at hRow
      rcases hRow with hOld | rfl
      · exact .inl ⟨row, hOld, rfl, rfl⟩
      · exact .inr ⟨hFresh, hAmount⟩
  | move intent _ _ hMove =>
      exact .inl (hMove.exists_old hRow)

/- Payments are never removed, and new ones are fresh. -/
theorem TrailStep.paymentIds
    {db : Database}
    (hTrail : TrailStep config system call db) :
    db.payments.map (·.id) = system.db.payments.map (·.id) ∨
      ∃ id,
        id ∉ system.db.payments.map (·.id) ∧
          db.payments.map (·.id) =
            system.db.payments.map (·.id) ++ [id] := by
  cases hTrail with
  | same hSame => exact .inl (by rw [hSame.payments])
  | create intent draw hFresh _ _ _ hPayments _ _ =>
      refine .inr ⟨intent.id, hFresh, ?_⟩
      rw [hPayments, List.map_append]
      rfl
  | move intent _ _ hMove => exact .inl hMove.map_id

@[simp] theorem setRefundStatus_ids
    (db : Database)
    (refundId : Uuid)
    (status : RefundStatus) :
    (setRefundStatus db refundId status).refunds.map (·.id) =
      db.refunds.map (·.id) := by
  unfold setRefundStatus
  apply Table.map_updateWhere
  intro row
  rfl

theorem RefundStep.refundIds
    (hRefund : RefundStep system call action next)
    (hNodup : (system.db.refunds.map (·.id)).Nodup) :
    (next.db.refunds.map (·.id)).Nodup := by
  cases hRefund with
  | same hRefunds _ _ =>
      rw [hRefunds]
      exact hNodup
  | answer _ _ _ _ _ _ _ hRefunds _ _ =>
      rw [hRefunds]
      exact hNodup
  | reserve _ _ reservation intent hFresh _ _ _ _ _ hRefunds
      _ _ =>
      rw [hRefunds, List.map_append]
      exact List.Nodup.append hNodup
        (List.nodup_singleton _) (by simpa using hFresh)
  | settle _ _ reservation _ _ _ hRefunds _ _ =>
      rw [hRefunds, setRefundStatus_ids]
      exact hNodup

theorem RefundStep.owner
    (hRefund : RefundStep system call action next)
    (hOwner :
      ∀ refund ∈ system.db.refunds,
        refund.paymentIntentId ∈
          system.db.payments.map (·.id)) :
    ∀ refund ∈ next.db.refunds,
      refund.paymentIntentId ∈
        system.db.payments.map (·.id) := by
  intro refund hMem
  cases hRefund with
  | same hRefunds _ _ =>
      rw [hRefunds] at hMem
      exact hOwner refund hMem
  | answer _ _ _ _ _ _ _ hRefunds _ _ =>
      rw [hRefunds] at hMem
      exact hOwner refund hMem
  | reserve _ _ reservation intent _ _ _ hIntent hPayment _
      hRefunds _ _ =>
      rw [hRefunds, List.mem_append,
        List.mem_singleton] at hMem
      rcases hMem with hOld | rfl
      · exact hOwner refund hOld
      · rw [hPayment]
        exact List.mem_map_of_mem hIntent
  | settle _ _ reservation _ _ _ hRefunds _ _ =>
      rw [hRefunds] at hMem
      rcases Table.mem_updateWhere.mp hMem with
        ⟨old, hOld, rfl⟩
      have hOldOwner := hOwner old hOld
      split
      · exact hOldOwner
      · exact hOldOwner

/- A reservation of another call survives a step. -/
theorem RefundStep.reserved_other
    {refund : Refund}
    (hRefund : RefundStep system call action next)
    (hMem : refund ∈ system.db.refunds)
    (hDistinct :
      ∀ reservation,
        (system.calls call).reservation =
            some reservation →
          refund.id ≠ reservation.refund.id) :
    refund ∈ next.db.refunds := by
  cases hRefund with
  | same hRefunds _ _ =>
      rw [hRefunds]
      exact hMem
  | answer _ _ _ _ _ _ _ hRefunds _ _ =>
      rw [hRefunds]
      exact hMem
  | reserve _ _ reservation intent _ _ _ _ _ _ hRefunds _
      _ =>
      rw [hRefunds]
      exact List.mem_append_left _ hMem
  | settle _ _ reservation _ _ hCall hRefunds _ _ =>
      rw [hRefunds]
      apply Table.mem_updateWhere_of_not_selected hMem
      simpa using hDistinct reservation (by rw [hCall]; rfl)

/- The reservation a call has after its own step. -/
theorem RefundStep.reserved_self
    {reservation : Reservation}
    (hRefund : RefundStep system call action next)
    (hHeld : Held system)
    (hNext :
      (next.calls call).reservation = some reservation) :
    reservation.refund ∈ next.db.refunds ∧
      reservation.refund.status = .pending ∧
      ((system.calls call).reservation = some reservation ∨
        reservation.refund.id ∉
          system.db.refunds.map (·.id)) := by
  cases hRefund with
  | same _ _ hNone =>
      rw [hNone] at hNext
      cases hNext
  | settle _ _ _ _ _ _ _ _ hNone =>
      rw [hNone] at hNext
      cases hNext
  | answer request key reserved result _ hCall _ hRefunds _
      hAnswered =>
      have hKept :
          (system.calls call).reservation =
            some reservation := by
        rw [hAnswered] at hNext
        rw [hCall]
        exact hNext
      rw [hRefunds]
      have hOld := hHeld.reserved call reservation hKept
      exact ⟨hOld.1, hOld.2, .inl hKept⟩
  | reserve _ _ reserved intent hFresh hStatus _ _ _ _
      hRefunds _ hReserved =>
      rw [hReserved] at hNext
      cases hNext
      rw [hRefunds]
      exact ⟨by simp, hStatus, .inr hFresh⟩

theorem held_effect
    (hHeld : Held system)
    (hAdmits : system.db.Admits draw)
    (hEffect :
      Effect config system call draw action next) :
    Held next := by
  have hFrame := hEffect.frame
  have hTrail := hEffect.trailStep hHeld.captures hAdmits
  have hRefund := hEffect.refundStep hAdmits
  have hDistinct :
      ∀ other reservation reservation',
        other ≠ call →
          (next.calls call).reservation =
              some reservation →
            (next.calls other).reservation =
                some reservation' →
              reservation.refund.id ≠
                reservation'.refund.id := by
    intro other reservation reservation' hOther hMine hTheirs
    rw [hFrame.calls other hOther] at hTheirs
    rcases hRefund.reserved_self hHeld hMine with
      ⟨_, _, hOld | hFresh⟩
    · exact hHeld.distinct call other reservation
        reservation' hOther hOld hTheirs
    · intro hSame
      apply hFresh
      rw [hSame]
      exact List.mem_map_of_mem
        (hHeld.reserved other reservation' hTheirs).1
  refine
    { captures :=
        capturesHeld_step hHeld.captures hAdmits hEffect
      paymentIds := ?_
      refundIds := hRefund.refundIds hHeld.refundIds
      owner := ?_
      reserved := ?_
      distinct := ?_ }
  · rcases hTrail.paymentIds with hSame | ⟨id, hFresh, hIds⟩
    · rw [hSame]
      exact hHeld.paymentIds
    · rw [hIds]
      exact List.Nodup.append hHeld.paymentIds
        (List.nodup_singleton _) (by simpa using hFresh)
  · intro refund hMem
    have hOwner := hRefund.owner hHeld.owner refund hMem
    rcases hTrail.paymentIds with hSame | ⟨id, _, hIds⟩
    · rw [hSame]
      exact hOwner
    · rw [hIds]
      exact List.mem_append_left _ hOwner
  · intro other reservation hReservation
    by_cases hOther : other = call
    · subst hOther
      have hSelf := hRefund.reserved_self hHeld hReservation
      exact ⟨hSelf.1, hSelf.2.1⟩
    · rw [hFrame.calls other hOther] at hReservation
      have hOld := hHeld.reserved other _ hReservation
      refine ⟨hRefund.reserved_other hOld.1 ?_, hOld.2⟩
      intro mine hMine
      exact hHeld.distinct other call reservation mine
        (Ne.symm hOther) hReservation hMine
  · intro first second reservation reservation' hNe hFirst
      hSecond
    by_cases hMine : first = call
    · subst hMine
      exact hDistinct second reservation reservation' hNe
        hFirst hSecond
    · by_cases hOther : second = call
      · subst hOther
        exact (hDistinct first reservation' reservation hMine
          hSecond hFirst).symm
      · rw [hFrame.calls first hMine] at hFirst
        rw [hFrame.calls second hOther] at hSecond
        exact hHeld.distinct first second reservation
          reservation' hNe hFirst hSecond

/- Every step keeps what the calls hold. -/
theorem held_step
    {label : Label}
    (hHeld : Held system)
    (hStep : step config system label = some next) :
    Held next := by
  rcases step_effect hStep with ⟨hAdmits, hEffect⟩
  exact held_effect hHeld hAdmits hEffect

end PayGuard

import PayGuard.System.Held

/-
  What the steps of the system do to webhook rows, to outbox
  rows and to the locks the dispatches keep on them.

  A step announces at most one change of a payment in the
  outbox, receives a delivery, or dispatches an outbox row.
  A dispatch holds the lock of its row from its first step
  to its last.

  Key definitions include:
    * `Announces`
    * `DeliveryStep`
    * `BeginsDispatch`
    * `DispatchesLocked`
    * `PlansTyped`

  Key theorems include:
    * `Effect.deliveryStep`
    * `step_dispatching`
    * `dispatchesLocked_step`
    * `dispatchEffect_deliveries`
    * `plansTyped_step`
-/

------------------------------------------------------------
-- Outbox Rows A Transaction Adds
------------------------------------------------------------

namespace PayGuard

/- A new row of the outbox that concerns a payment. -/
structure Announcement
    (draw : Draw)
    (event : OutboxEvent) : Prop where
  id : event.id = draw.outbox
  kind : event.aggregateType = .paymentIntent
  payload :
    ∃ paymentId status,
      event.payload = .payment paymentId status
  status : event.status = .pending

/- The transaction leaves both tables of deliveries alone. -/
structure SameDeliveries (db db' : Database) : Prop where
  webhooks : db'.webhooks = db.webhooks
  outbox : db'.outbox = db.outbox

/-
  The transaction keeps the webhooks and adds at most one
  row to the outbox.
-/
inductive Announces
    (db : Database)
    (draw : Draw)
    (db' : Database) : Prop where
| nothing (hSame : SameDeliveries db db')
| one
    (event : OutboxEvent)
    (hEvent : Announcement draw event)
    (hWebhooks : db'.webhooks = db.webhooks)
    (hOutbox : db'.outbox = db.outbox ++ [event])

namespace SameDeliveries

variable {db db' db'' : Database}

theorem refl (db : Database) : SameDeliveries db db :=
  ⟨rfl, rfl⟩

theorem trans
    (hFirst : SameDeliveries db db')
    (hSecond : SameDeliveries db' db'') :
    SameDeliveries db db'' where
  webhooks := hSecond.webhooks.trans hFirst.webhooks
  outbox := hSecond.outbox.trans hFirst.outbox

theorem putKey
    (db : Database)
    (keyRow : IdempotencyKey) :
    SameDeliveries db (db.putKey keyRow) := by
  rcases putKey_eq db keyRow with ⟨keys, hKeys⟩
  rw [hKeys]
  exact ⟨rfl, rfl⟩

end SameDeliveries

namespace Announces

variable {db db' db'' : Database}
variable {intent moved : PaymentIntent}
variable {draw : Draw}

theorem webhooks
    (hAnnounces : Announces db draw db') :
    db'.webhooks = db.webhooks := by
  cases hAnnounces with
  | nothing hSame => exact hSame.webhooks
  | one event hEvent hWebhooks hOutbox => exact hWebhooks

theorem after
    (hSame : SameDeliveries db db')
    (hAnnounces : Announces db' draw db'') :
    Announces db draw db'' := by
  cases hAnnounces with
  | nothing hSecond => exact .nothing (hSame.trans hSecond)
  | one event hEvent hWebhooks hOutbox =>
      refine .one event hEvent
        (hWebhooks.trans hSame.webhooks) ?_
      rw [hOutbox, hSame.outbox]

theorem andThen
    (hAnnounces : Announces db draw db')
    (hSame : SameDeliveries db' db'') :
    Announces db draw db'' := by
  cases hAnnounces with
  | nothing hFirst => exact .nothing (hFirst.trans hSame)
  | one event hEvent hWebhooks hOutbox =>
      exact .one event hEvent
        (hSame.webhooks.trans hWebhooks)
        (hSame.outbox.trans hOutbox)

theorem of_applyTransition
    {toStatus : PaymentStatus}
    {actor : Actor}
    {eventType : String}
    (hApply :
      applyTransition db intent toStatus actor eventType
        draw = .ok (db', moved)) :
    Announces db draw db' := by
  rcases applyTransition_eq_ok.mp hApply with ⟨_, rfl, _⟩
  exact .one _ ⟨rfl, rfl, ⟨_, _, rfl⟩, rfl⟩ rfl rfl

end Announces

end PayGuard

------------------------------------------------------------
-- The Bodies Of The Transactions
------------------------------------------------------------

namespace PayGuard

variable {db db' : Database}
variable {locked : Option PaymentIntent}
variable {intent moved : PaymentIntent}
variable {keyRow : IdempotencyKey}
variable {keyRowId : Uuid}
variable {providerName : String}
variable {result : ProviderResult}
variable {response : Response}
variable {draw : Draw}

theorem createInsert_announces
    {indexable : PyString → Bool}
    {request : CreateRequest}
    (hBody :
      createInsert indexable db request keyRow draw =
        .ok (db', intent)) :
    Announces db draw db' := by
  rcases createInsert_eq_ok hBody with ⟨_, _, rfl⟩
  refine .after (SameDeliveries.putKey db keyRow) ?_
  exact .one _ ⟨rfl, rfl, ⟨_, _, rfl⟩, rfl⟩ rfl rfl

theorem createProcess_announces
    (hBody :
      createProcess db locked draw = .ok (db', moved)) :
    Announces db draw db' := by
  rcases createProcess_eq_ok hBody with ⟨intent, _, hApply⟩
  exact .of_applyTransition hApply

theorem createBlock_announces
    (hBody :
      createBlock db locked keyRowId draw =
        .ok (db', response)) :
    Announces db draw db' := by
  rcases createBlock_eq_ok hBody with
    ⟨intent, base, moved, _, hApply, rfl, _⟩
  exact (Announces.of_applyTransition hApply).andThen
    ⟨rfl, rfl⟩

theorem createFinish_announces
    (hBody :
      createFinish db locked keyRowId providerName result
        draw = .ok (db', response)) :
    Announces db draw db' := by
  rcases createFinish_eq_ok hBody with
    ⟨intent, attempt, base, moved, added, _, hApply, rfl, _⟩
  have hOutcome :
      Announces
        { db with attempts := db.attempts ++ [attempt] }
        draw base := by
    unfold applyAuthorizeOutcome at hApply
    split at hApply
    · exact .of_applyTransition hApply
    · exact .of_applyTransition hApply
    · cases hApply
      exact .nothing (.refl _)
    · cases hApply
      exact .nothing (.refl _)
  refine Announces.after ?_ (hOutcome.andThen ?_)
  · exact ⟨rfl, rfl⟩
  · exact ⟨rfl, rfl⟩

theorem captureFinish_announces
    (hBody :
      captureFinish db intent keyRow result draw =
        .ok (db', response)) :
    Announces db draw db' := by
  rcases captureFinish_eq_ok hBody with
    ⟨base, moved, hOutcome, rfl, _⟩
  refine .after (SameDeliveries.putKey db keyRow) ?_
  rcases applyCaptureOutcome_eq_ok hOutcome with
    ⟨_, settled, hApply, rfl⟩ |
      ⟨_, toStatus, eventType, _, _, hApply⟩
  · exact (Announces.of_applyTransition hApply).andThen
      ⟨rfl, rfl⟩
  · exact (Announces.of_applyTransition hApply).andThen
      ⟨rfl, rfl⟩

theorem refundReserve_announces
    {request : RefundRequest}
    {reservation : Reservation}
    (hBody :
      refundReserve db locked request keyRow draw =
        .ok (db', reservation)) :
    Announces db draw db' := by
  rcases refundReserve_eq_ok hBody with
    ⟨intent, _, _, _, _, _, _, hEnter⟩
  refine .after (SameDeliveries.putKey db keyRow) ?_
  unfold enterRefundPending at hEnter
  split at hEnter
  · cases hEnter
    exact .nothing ⟨rfl, rfl⟩
  · have hMoved := Announces.of_applyTransition hEnter
    exact Announces.after (by exact ⟨rfl, rfl⟩) hMoved

theorem refundFinalize_announces
    {refund : Refund}
    (hBody :
      refundFinalize db locked refund keyRowId result draw =
        .ok (db', response)) :
    Announces db draw db' := by
  rcases refundFinalize_eq_ok hBody with
    ⟨intent, left, moved, body, _, hLeave, rfl, _⟩
  have hSettle :
      SameDeliveries db
        (settleRefund db intent refund result.outcome
          draw) := by
    unfold settleRefund
    simp only
    split
    · exact ⟨rfl, rfl⟩
    · exact ⟨rfl, rfl⟩
  have hLeft :
      Announces
        (settleRefund db intent refund result.outcome draw)
        draw left := by
    unfold leaveRefundPending at hLeave
    split at hLeave
    · split at hLeave
      · exact .of_applyTransition hLeave
      · split at hLeave
        · exact .of_applyTransition hLeave
        · exact .of_applyTransition hLeave
    · cases hLeave
      exact .nothing (.refl _)
  exact .after hSettle (hLeft.andThen ⟨rfl, rfl⟩)

theorem reconcileApply_announces
    {report : ReconciliationReport}
    (hBody :
      reconcileApply db locked providerName result draw =
        .ok (db', report)) :
    Announces db draw db' := by
  rcases reconcileApply_eq_ok hBody with
    ⟨intent, _, ⟨rfl, _⟩ |
      ⟨_, _, _, moved, hApply⟩ | ⟨_, hResolve⟩⟩
  · exact .nothing (.refl _)
  · exact .of_applyTransition hApply
  · rcases resolve_eq_ok hResolve with
      ⟨_, _, hSucceeded⟩ | ⟨_, _, hFailed⟩
    · rcases resolveSucceeded_eq_ok hSucceeded with
        ⟨attempt, base, moved, added, _, hApply, rfl⟩
      have hMoved := Announces.of_applyTransition hApply
      refine Announces.after ?_ (hMoved.andThen ?_)
      · exact ⟨rfl, rfl⟩
      · exact ⟨rfl, rfl⟩
    · rcases resolveFailed_eq_ok hFailed with
        ⟨attempt, base, moved, _, hApply, rfl⟩
      exact (Announces.of_applyTransition hApply).andThen
        ⟨rfl, rfl⟩

/-
  What one step does to the two tables of deliveries.
-/
inductive DeliveryStep
    (config : Config)
    (system : System)
    (call : CallId)
    (draw : Draw)
    (next : System) : Prop where
| announce (hAnnounces : Announces system.db draw next.db)
| receive
    (delivery : WebhookDelivery)
    (hCall : system.calls call = .idle)
    (hDb : next.db = receiveWebhook system.db delivery draw)
| dispatch
    (outboxEventId webhookEventId : Uuid)
    (plan : WebhookPlan)
    (db : Database)
    (hCall :
      system.calls call =
        .dispatchOpen outboxEventId webhookEventId plan)
    (hReady : system.dispatchReady plan = true)
    (hBody :
      dispatchEffect config system.db webhookEventId plan
        draw = .ok db)
    (hDb : next.db = markProcessed db outboxEventId)

variable {config : Config}
variable {system next : System}
variable {call : CallId}
variable {action : Action}

theorem Effect.deliveryStep
    (hEffect :
      Effect config system call draw action next) :
    DeliveryStep config system call draw next := by
  cases hEffect with
  | quiet hQuiet =>
      refine .announce (.nothing ?_)
      rw [hQuiet.db]
      exact .refl _
  | createInsert _ hBody =>
      exact .announce (createInsert_announces hBody)
  | createProcess _ _ hBody =>
      exact .announce (createProcess_announces hBody)
  | createAssess _ => exact .announce (.nothing ⟨rfl, rfl⟩)
  | createBlock _ _ _ hBody =>
      exact .announce (createBlock_announces hBody)
  | createFinish _ _ _ hBody =>
      exact .announce (createFinish_announces hBody)
  | captureSettled _ _ _ =>
      exact .announce (.nothing
        ((SameDeliveries.putKey _ _).trans ⟨rfl, rfl⟩))
  | captureOpen _ _ _ _ =>
      exact .announce (.nothing ⟨rfl, rfl⟩)
  | captureFinish _ _ hBody =>
      exact .announce (captureFinish_announces hBody)
  | refundReserve _ _ hBody =>
      exact .announce (refundReserve_announces hBody)
  | refundAnswer _ _ =>
      exact .announce (.nothing ⟨rfl, rfl⟩)
  | refundFinish _ _ _ hBody =>
      exact .announce (refundFinalize_announces hBody)
  | receiveWebhook hCall =>
      exact .receive _ hCall rfl
  | dispatchFinish hCall hReady hBody =>
      exact .dispatch _ _ _ _ hCall hReady hBody rfl
  | reconcileApply _ _ hBody =>
      exact .announce (reconcileApply_announces hBody)
  | reconcileReport _ =>
      exact .announce (.nothing ⟨rfl, rfl⟩)
  | failWrite _ _ => exact .announce (.nothing ⟨rfl, rfl⟩)

end PayGuard

------------------------------------------------------------
-- Dispatches And Their Locks
------------------------------------------------------------

namespace PayGuard

/- The dispatch a call is in the middle of. -/
def Call.dispatched :
    Call → Option (Uuid × Uuid × WebhookPlan)
| .dispatchOpen outboxEventId webhookEventId plan =>
    some (outboxEventId, webhookEventId, plan)
| _ => none

/- A call claims a pending outbox row nobody has locked. -/
structure BeginsDispatch
    (system : System)
    (call : CallId)
    (event : OutboxEvent)
    (pick : Uuid)
    (next : System) : Prop where
  idle : system.calls call = .idle
  stored : event ∈ system.db.outbox
  pending : event.status = .pending
  free : system.outboxLock event.id = none
  next :
    next =
      { system.become call
          (.dispatchOpen event.id
            (dispatchPlan system.db event pick).1
            (dispatchPlan system.db event pick).2) with
        outboxLock :=
          Function.update system.outboxLock event.id
            (some call) }

/- A step that leaves its call outside of any dispatch. -/
structure Undispatched
    (system : System)
    (call : CallId)
    (next : System) : Prop where
  position : (next.calls call).dispatched = none
  lock :
    next.outboxLock = system.outboxLock ∨
      next.outboxLock = (system.release call).outboxLock

variable {config : Config}
variable {system next : System}
variable {call : CallId}
variable {draw : Draw}
variable {action : Action}

theorem stepDispatchBegin_begins
    {outboxEventId pick : Uuid}
    (hStep :
      stepDispatchBegin system call outboxEventId pick =
        some next) :
    ∃ event,
      event.id = outboxEventId ∧
        BeginsDispatch system call event pick next := by
  unfold stepDispatchBegin at hStep
  split at hStep
  · rename_i hIdle
    split at hStep
    · cases hStep
    · rename_i event hFind
      have hId : event.id = outboxEventId := by
        simpa using List.find?_some hFind
      split at hStep
      · rename_i hOpen
        cases hStep
        subst hId
        exact ⟨event, rfl, hIdle,
          List.mem_of_find?_eq_some hFind, hOpen.1,
          hOpen.2, rfl⟩
      · cases hStep
  · cases hStep

theorem Undispatched.become
    {position : Call}
    (hPosition : position.dispatched = none) :
    Undispatched system call
      (system.become call position) where
  position := by simp [hPosition]
  lock := .inl rfl

/- Claiming a key leads to no dispatch unless its work does. -/
theorem stepClaim_undispatched
    {merchantId : Uuid}
    {idempotencyKey fingerprint : String}
    {work : IdempotencyKey → Option System}
    (hWork :
      ∀ keyRow,
        work keyRow = some next →
          Undispatched system call next)
    (hStep :
      stepClaim system call merchantId idempotencyKey
        fingerprint draw work = some next) :
    Undispatched system call next := by
  unfold stepClaim at hStep
  split at hStep
  · split at hStep
    · cases hStep
    · cases hStep
      exact .become rfl
    · cases hStep
      exact .become rfl
    · cases hStep
      exact .become rfl
    · split at hStep
      · exact hWork _ hStep
      · cases hStep
  · cases hStep

/- Only `dispatchBegin` leads into a dispatch. -/
theorem callStep_undispatched
    (hStep :
      callStep config system call draw action = some next)
    (hAction :
      ∀ outboxEventId pick,
        action ≠ .dispatchBegin outboxEventId pick) :
    Undispatched system call next := by
  cases action with
  | dispatchBegin outboxEventId pick =>
      exact absurd rfl (hAction outboxEventId pick)
  | createBegin request =>
      refine stepClaim_undispatched ?_ hStep
      intro keyRow hWork
      split at hWork
      all_goals cases hWork
      all_goals
        exact ⟨by simp [Call.dispatched], .inl rfl⟩
  | captureBegin request =>
      refine stepClaim_undispatched ?_ hStep
      intro keyRow hWork
      repeat' split at hWork
      all_goals cases hWork
      all_goals
        exact ⟨by simp [Call.dispatched], .inl rfl⟩
  | refundBegin request =>
      refine stepClaim_undispatched ?_ hStep
      intro keyRow hWork
      repeat' split at hWork
      all_goals cases hWork
      all_goals
        exact ⟨by simp [Call.dispatched], .inl rfl⟩
  | _ =>
      -- every branch moves the call, some after a release
      simp only [callStep, stepCreateProcess,
        stepCreateAssess, stepCreateBlock,
        stepCreateAuthorize, stepCreateFinish,
        stepCaptureFinish, stepRefundAnswer,
        stepRefundFinish, stepReceiveWebhook,
        stepDispatchFinish, stepReconcileLoad,
        stepReconcileBegin, stepReconcileNext,
        reconcileLock, stepReconcileAnswer,
        stepReconcileApply, stepReconcileReport, stepRaise,
        stepFailRead, stepFailWrite, stepDie] at hStep
      repeat' split at hStep
      all_goals cases hStep
      all_goals first
        | exact ⟨by simp [Call.dispatched], .inl rfl⟩
        | exact ⟨by simp [Call.dispatched], .inr rfl⟩

/- A step begins a dispatch or is outside of one after it. -/
theorem step_dispatching
    {label : Label}
    (hStep : step config system label = some next) :
    (∃ event pick,
        label.action = .dispatchBegin event.id pick ∧
          BeginsDispatch system label.call event pick
            next) ∨
      ((∀ outboxEventId pick,
          label.action ≠
            .dispatchBegin outboxEventId pick) ∧
        Undispatched system label.call next) := by
  unfold step at hStep
  split at hStep
  · by_cases hAction :
        ∃ outboxEventId pick,
          label.action = .dispatchBegin outboxEventId pick
    · rcases hAction with ⟨outboxEventId, pick, hAction⟩
      rw [hAction] at hStep
      rcases stepDispatchBegin_begins hStep with
        ⟨event, rfl, hBegins⟩
      exact .inl ⟨event, pick, hAction, hBegins⟩
    · simp only [not_exists] at hAction
      exact .inr ⟨hAction,
        callStep_undispatched hStep hAction⟩
  · cases hStep

/- Every dispatch in progress holds the lock of its row. -/
def DispatchesLocked (system : System) : Prop :=
  ∀ call outboxEventId webhookEventId plan,
    (system.calls call).dispatched =
        some (outboxEventId, webhookEventId, plan) →
      system.outboxLock outboxEventId = some call

theorem dispatchesLocked_initial : DispatchesLocked {} := by
  intro call outboxEventId webhookEventId plan hDispatched
  cases hDispatched

/- The lock of another call outlives a step. -/
theorem Undispatched.outboxLock
    {other : CallId}
    {outboxEventId : Uuid}
    (hUndispatched : Undispatched system call next)
    (hOther : other ≠ call)
    (hLock :
      system.outboxLock outboxEventId = some other) :
    next.outboxLock outboxEventId = some other := by
  rcases hUndispatched.lock with hSame | hReleased
  · rw [hSame]
    exact hLock
  · rw [hReleased]
    unfold System.release
    simp [hLock, hOther]

/- Leaving a dispatch keeps the locks of the others. -/
theorem DispatchesLocked.undispatched
    (hLocked : DispatchesLocked system)
    (hUndispatched : Undispatched system call next)
    (hCalls :
      ∀ other, other ≠ call →
        next.calls other = system.calls other) :
    DispatchesLocked next := by
  intro other outboxEventId webhookEventId plan hDispatched
  by_cases hOther : other = call
  · subst hOther
    rw [hUndispatched.position] at hDispatched
    cases hDispatched
  · rw [hCalls other hOther] at hDispatched
    exact hUndispatched.outboxLock hOther
      (hLocked other _ _ _ hDispatched)

theorem dispatchesLocked_step
    {label : Label}
    (hLocked : DispatchesLocked system)
    (hStep : step config system label = some next) :
    DispatchesLocked next := by
  intro other outboxEventId webhookEventId plan hDispatched
  have hFrame := (step_effect hStep).2.frame
  rcases step_dispatching hStep with
    ⟨event, pick, _, hBegins⟩ | ⟨_, hUndispatched⟩
  · by_cases hOther : other = label.call
    · subst hOther
      rw [hBegins.next] at hDispatched ⊢
      simp only [System.become_calls_self, Call.dispatched,
        Option.some.injEq, Prod.mk.injEq] at hDispatched
      rw [← hDispatched.1]
      exact Function.update_self _ _ _
    · rw [hFrame.calls other hOther] at hDispatched
      have hOld := hLocked other _ _ _ hDispatched
      have hNe : outboxEventId ≠ event.id := by
        intro hSame
        rw [hSame, hBegins.free] at hOld
        cases hOld
      rw [hBegins.next]
      exact (Function.update_of_ne hNe _ _).trans hOld
  · exact hLocked.undispatched hUndispatched hFrame.calls
      other _ _ _ hDispatched

end PayGuard

------------------------------------------------------------
-- Webhook Rows
------------------------------------------------------------

namespace PayGuard

variable {config : Config}
variable {system next : System}
variable {call : CallId}
variable {draw : Draw}
variable {db db' : Database}
variable {webhookEventId : Uuid}

/-
  A dispatch that is not skipped takes its webhook out of
  `RECEIVED` and announces at most one change.
-/
theorem dispatchEffect_deliveries
    {plan : WebhookPlan}
    (hBody :
      dispatchEffect config db webhookEventId plan draw =
        .ok db') :
    (plan = .skip ∧ db' = db) ∨
      (plan ≠ .skip ∧
        ∃ base status,
          status ≠ .received ∧
            Announces db draw base ∧
            db' =
              setProcessingStatus base webhookEventId
                status) := by
  unfold dispatchEffect at hBody
  cases plan with
  | skip =>
      cases hBody
      exact .inl ⟨rfl, rfl⟩
  | ignore =>
      cases hBody
      exact .inr ⟨by simp, db, .ignored, by simp,
        .nothing (.refl db), rfl⟩
  | outcome targetStatus intent =>
      refine .inr ⟨by simp, ?_⟩
      unfold handlePaymentOutcome at hBody
      simp only at hBody
      split at hBody
      · cases hBody
      · split at hBody
        · cases hBody
          exact ⟨db, .processed, by simp,
            .nothing (.refl db), rfl⟩
        · split at hBody
          · cases hBody
            exact ⟨db, .ignored, by simp,
              .nothing (.refl db), rfl⟩
          · split at hBody
            · cases hBody
            · rename_i base moved hApply
              cases hBody
              refine ⟨_, .processed, by simp,
                (Announces.of_applyTransition
                  hApply).andThen ?_, rfl⟩
              unfold settleByWebhook
              split
              · exact ⟨rfl, rfl⟩
              · exact .refl base

/- A stored webhook keeps its name and type for good. -/
theorem DeliveryStep.webhook_kept
    {event : WebhookEvent}
    (hDelivery : DeliveryStep config system call draw next)
    (hEvent : event ∈ system.db.webhooks) :
    ∃ kept ∈ next.db.webhooks,
      kept.id = event.id ∧
        kept.eventType = event.eventType := by
  cases hDelivery with
  | announce hAnnounces =>
      rw [hAnnounces.webhooks]
      exact ⟨event, hEvent, rfl, rfl⟩
  | receive delivery _ hDb =>
      rw [hDb]
      unfold receiveWebhook
      split
      · exact ⟨event, hEvent, rfl, rfl⟩
      · exact ⟨event, List.mem_append_left _ hEvent, rfl,
          rfl⟩
  | dispatch outboxEventId webhookEventId plan db _ _ hBody
      hDb =>
      rw [hDb]
      rcases dispatchEffect_deliveries hBody with
        ⟨_, rfl⟩ | ⟨_, base, status, _, hAnnounces, rfl⟩
      · exact ⟨event, hEvent, rfl, rfl⟩
      · refine ⟨_, Table.mem_updateWhere.mpr ⟨event, ?_,
          rfl⟩, ?_, ?_⟩
        · rw [hAnnounces.webhooks]
          exact hEvent
        · split <;> rfl
        · split <;> rfl

end PayGuard

------------------------------------------------------------
-- The Plans Of Dispatches
------------------------------------------------------------

namespace PayGuard

/- A dispatch asks for what the type of its webhook says. -/
def PlansTyped (system : System) : Prop :=
  ∀ call outboxEventId webhookEventId targetStatus intent,
    (system.calls call).dispatched =
        some (outboxEventId, webhookEventId,
          .outcome targetStatus intent) →
      ∃ event ∈ system.db.webhooks,
        event.id = webhookEventId ∧
          webhookTarget event.eventType = some targetStatus

variable {config : Config}
variable {system next : System}
variable {label : Label}
variable {db : Database}
variable {intent : PaymentIntent}
variable {pick : Uuid}

theorem plansTyped_initial : PlansTyped {} := by
  intro call outboxEventId webhookEventId targetStatus intent
    hDispatched
  cases hDispatched

/- A plan with a target goes back to a webhook and a join. -/
theorem dispatchPlan_eq_outcome
    {event : OutboxEvent}
    {targetStatus : PaymentStatus}
    (hPlan :
      (dispatchPlan db event pick).2 =
        .outcome targetStatus intent) :
    ∃ webhook ∈ db.webhooks, ∃ transactionId,
      webhook.id = (dispatchPlan db event pick).1 ∧
        webhook.processingStatus = .received ∧
        webhookTarget webhook.eventType =
          some targetStatus ∧
        webhook.providerTransactionId =
          some transactionId ∧
        transactionId ≠ "" ∧
        limitOne (paymentsOfTransaction db transactionId)
          pick = some intent := by
  unfold dispatchPlan at hPlan ⊢
  split at hPlan
  · split at hPlan
    · rename_i webhookEventId _ hType
      rw [if_pos hType]
      unfold planWebhookEvent at hPlan
      split at hPlan
      · cases hPlan
      · rename_i webhook hFind
        split at hPlan
        · cases hPlan
        · rename_i hReceived
          split at hPlan
          · cases hPlan
          · rename_i target hTarget
            unfold planPaymentOutcome at hPlan
            split at hPlan
            · cases hPlan
            · rename_i transactionId hNames
              split at hPlan
              · cases hPlan
              · rename_i hNamed
                split at hPlan
                · cases hPlan
                · rename_i hPick
                  cases hPlan
                  exact ⟨webhook,
                    List.mem_of_find?_eq_some hFind,
                    transactionId,
                    by simpa using List.find?_some hFind,
                    not_not.mp hReceived, hTarget, hNames,
                    hNamed, hPick⟩
    · cases hPlan
  · cases hPlan

/- A plan with a target comes from the webhook's type. -/
theorem dispatchPlan_outcome
    {event : OutboxEvent}
    {targetStatus : PaymentStatus}
    (hPlan :
      (dispatchPlan db event pick).2 =
        .outcome targetStatus intent) :
    ∃ webhook ∈ db.webhooks,
      webhook.id = (dispatchPlan db event pick).1 ∧
        webhookTarget webhook.eventType =
          some targetStatus := by
  rcases dispatchPlan_eq_outcome hPlan with
    ⟨webhook, hWebhook, _, hId, _, hTarget, _⟩
  exact ⟨webhook, hWebhook, hId, hTarget⟩

theorem plansTyped_step
    (hTyped : PlansTyped system)
    (hStep : step config system label = some next) :
    PlansTyped next := by
  intro other outboxEventId webhookEventId targetStatus
    intent hDispatched
  have hEffect := (step_effect hStep).2
  by_cases hOther : other = label.call
  · subst hOther
    rcases step_dispatching hStep with
      ⟨event, pick, _, hBegins⟩ | ⟨_, hUndispatched⟩
    · rw [hBegins.next] at hDispatched ⊢
      simp only [System.become_calls_self, Call.dispatched,
        Option.some.injEq, Prod.mk.injEq] at hDispatched
      rcases hDispatched with ⟨_, rfl, hPlan⟩
      exact dispatchPlan_outcome hPlan
    · rw [hUndispatched.position] at hDispatched
      cases hDispatched
  · rw [hEffect.frame.calls other hOther] at hDispatched
    rcases hTyped other _ _ _ _ hDispatched with
      ⟨event, hEvent, hId, hTarget⟩
    rcases hEffect.deliveryStep.webhook_kept hEvent with
      ⟨kept, hKept, hKeptId, hKeptType⟩
    exact ⟨kept, hKept, hKeptId.trans hId,
      by rw [hKeptType]; exact hTarget⟩

end PayGuard

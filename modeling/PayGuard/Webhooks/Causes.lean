import PayGuard.Invariants.Histories
import PayGuard.Outbox.Origins
import PayGuard.System.Lifecycle
import PayGuard.System.Signatures

/-
  What a webhook has done to a payment.

  A dispatch finds its payment through the transaction that
  the webhook names, reads it without a lock, and moves it
  later.  Whatever happens in between, an event signed by a
  webhook goes back to a webhook on file that asks for this
  move and names a transaction of this payment.

  Key definitions include:
    * `Database.Asked`
    * `Caused`

  Key theorems include:
    * `dispatchPlan_asked`
    * `dispatchEffect_events`
    * `caused_step`
-/

------------------------------------------------------------
-- Requests Of A Webhook
------------------------------------------------------------

namespace PayGuard

/- The transaction belongs to an attempt of the payment. -/
def Database.Conducts
    (db : Database)
    (transactionId : String)
    (paymentId : Uuid) : Prop :=
  ∃ attempt ∈ db.attempts,
    attempt.paymentIntentId = paymentId ∧
      ∃ transaction ∈ db.providerTransactions,
        transaction.paymentAttemptId = attempt.id ∧
          transaction.providerTransactionId = transactionId

/- The webhook asks for this move of this payment. -/
def WebhookEvent.Asks
    (event : WebhookEvent)
    (db : Database)
    (paymentId : Uuid)
    (toStatus : PaymentStatus) : Prop :=
  webhookTarget event.eventType = some toStatus ∧
    ∃ transactionId,
      event.providerTransactionId = some transactionId ∧
        db.Conducts transactionId paymentId

/- The webhook of this identifier asks for this move. -/
def Database.Asked
    (db : Database)
    (webhookEventId paymentId : Uuid)
    (toStatus : PaymentStatus) : Prop :=
  ∃ event ∈ db.webhooks,
    event.id = webhookEventId ∧
      event.Asks db paymentId toStatus

/-
  Plans and events of webhooks have been asked for.
-/
structure Caused (system : System) : Prop where
  plans :
    ∀ call outboxEventId webhookEventId targetStatus intent,
      (system.calls call).dispatched =
          some (outboxEventId, webhookEventId,
            .outcome targetStatus intent) →
        system.db.Asked webhookEventId intent.id
          targetStatus
  events :
    ∀ event ∈ system.db.events,
      event.actor = .webhook →
        ∃ webhookEventId,
          system.db.Asked webhookEventId
            event.paymentIntentId event.toStatus

theorem caused_initial : Caused {} where
  plans := by
    intro call outboxEventId webhookEventId targetStatus
      intent hDispatched
    cases hDispatched
  events := by simp

variable {config : Config}
variable {system next : System}
variable {db later : Database}
variable {draw : Draw}
variable {transactionId : String}
variable {paymentId webhookEventId : Uuid}
variable {targetStatus toStatus : PaymentStatus}
variable {intent : PaymentIntent}
variable {plan : WebhookPlan}

theorem Database.Conducts.keep
    (hConducts : db.Conducts transactionId paymentId)
    (hExtends : db.Extends later) :
    later.Conducts transactionId paymentId := by
  rcases hConducts with
    ⟨attempt, hAttempt, hPayment, transaction, hTransaction,
      hSame⟩
  exact ⟨attempt, hExtends.attempts.subset hAttempt,
    hPayment, transaction,
    hExtends.providerTransactions.subset hTransaction,
    hSame⟩

/- What was asked for once stays on file. -/
theorem Database.Asked.keep
    (hAsked : db.Asked webhookEventId paymentId toStatus)
    (hExtends : db.Extends later) :
    later.Asked webhookEventId paymentId toStatus := by
  rcases hAsked with
    ⟨event, hEvent, hId, hTarget, transactionId,
      hTransaction, hConducts⟩
  rcases hExtends.webhooks.exists_mem hEvent with
    ⟨kept, hKept, hSame⟩
  refine ⟨kept, hKept, ?_, ?_, transactionId, ?_,
    hConducts.keep hExtends⟩
  · exact (congrArg (·.id) hSame).trans hId
  · have hType := congrArg (·.eventType) hSame
    rw [show kept.eventType = event.eventType from hType]
    exact hTarget
  · exact (congrArg (·.providerTransactionId) hSame).trans
      hTransaction

/- The three-table join yields payments it conducts. -/
theorem conducts_of_paymentsOfTransaction
    (hMem : intent ∈ paymentsOfTransaction db transactionId) :
    db.Conducts transactionId intent.id := by
  unfold paymentsOfTransaction at hMem
  rw [List.mem_filter, List.any_eq_true] at hMem
  rcases hMem.2 with ⟨attempt, hAttempt, hJoin⟩
  rw [Bool.and_eq_true, decide_eq_true_eq,
    List.any_eq_true] at hJoin
  rcases hJoin with ⟨hPayment, transaction, hTransaction,
    hBoth⟩
  rw [Bool.and_eq_true, decide_eq_true_eq,
    decide_eq_true_eq] at hBoth
  exact ⟨attempt, hAttempt, hPayment, transaction,
    hTransaction, hBoth⟩

/- A plan is made for a webhook that asks for it. -/
theorem dispatchPlan_asked
    {event : OutboxEvent}
    {pick : Uuid}
    (hPlan :
      (dispatchPlan db event pick).2 =
        .outcome targetStatus intent) :
    db.Asked (dispatchPlan db event pick).1 intent.id
      targetStatus := by
  rcases dispatchPlan_eq_outcome hPlan with
    ⟨webhook, hWebhook, transactionId, hId, _, hTarget,
      hNames, _, hPick⟩
  exact ⟨webhook, hWebhook, hId, hTarget, transactionId,
    hNames,
    conducts_of_paymentsOfTransaction
      (mem_of_limitOne hPick)⟩

/- A dispatch records the move its plan asks for, or none. -/
theorem dispatchEffect_events
    (hBody :
      dispatchEffect config db webhookEventId plan draw =
        .ok later) :
    later.events = db.events ∨
      ∃ targetStatus intent added,
        plan = .outcome targetStatus intent ∧
          later.events = db.events ++ [added] ∧
          added.paymentIntentId = intent.id ∧
          added.toStatus = targetStatus := by
  unfold dispatchEffect at hBody
  cases plan with
  | skip =>
      cases hBody
      exact .inl rfl
  | ignore =>
      cases hBody
      exact .inl rfl
  | outcome targetStatus intent =>
      unfold handlePaymentOutcome at hBody
      simp only at hBody
      split at hBody
      · cases hBody
      · rename_i locked hLocked
        split at hBody
        · cases hBody
          exact .inl rfl
        · split at hBody
          · cases hBody
            exact .inl rfl
          · split at hBody
            · cases hBody
            · rename_i base moved hApply
              cases hBody
              rcases applyTransition_eq_ok.mp hApply with
                ⟨_, rfl, _⟩
              refine .inr ⟨targetStatus, intent,
                { paymentIntentId := locked.id
                  fromStatus := some locked.status
                  toStatus := targetStatus
                  actor := .webhook
                  createdAt := draw.serverNow }, rfl, ?_, ?_,
                rfl⟩
              · unfold settleByWebhook
                split <;> rfl
              · exact lockPayment_id hLocked

------------------------------------------------------------
-- One Step
------------------------------------------------------------

/- A webhook signs the events of its own dispatch only. -/
theorem Effect.events_asked
    {call : CallId}
    {action : Action}
    {event : PaymentEvent}
    (hCaused : Caused system)
    (hEffect :
      Effect config system call draw action next)
    (hEvent : event ∈ next.db.events)
    (hActor : event.actor = .webhook) :
    ∃ webhookEventId,
      system.db.Asked webhookEventId event.paymentIntentId
        event.toStatus := by
  rcases hEffect.signs with ⟨added, hAdded, hSigned⟩
  rw [hAdded, List.mem_append] at hEvent
  rcases hEvent with hOld | hNew
  · exact hCaused.events event hOld hActor
  · have hSigner := (hSigned event hNew).1
    rw [hActor] at hSigner
    cases hEffect with
    | @dispatchFinish outboxEventId webhookEventId plan db
        hCall _ hBody =>
        rcases dispatchEffect_events hBody with
          hSame | ⟨targetStatus, intent, made, rfl, hMade,
            hPayment, hTarget⟩
        · have hNone := hAdded.symm.trans hSame
          rw [List.append_right_eq_self] at hNone
          rw [hNone] at hNew
          cases hNew
        · have hOne := List.append_cancel_left
            (hAdded.symm.trans hMade)
          rw [hOne, List.mem_singleton] at hNew
          subst hNew
          rw [hPayment, hTarget]
          exact ⟨webhookEventId, hCaused.plans call _ _ _ _
            (by rw [hCall]; rfl)⟩
    | quiet hQuiet =>
        rw [hQuiet.db] at hAdded
        have hNone := hAdded.symm
        rw [List.append_right_eq_self] at hNone
        rw [hNone] at hNew
        cases hNew
    | _ => cases hSigner

theorem caused_service
    {label : Label}
    (hCaused : Caused system)
    (hStep : step config system label = some next) :
    Caused next := by
  have hEffect := (step_effect hStep).2
  constructor
  · intro other outboxEventId webhookEventId targetStatus
      intent hDispatched
    by_cases hOther : other = label.call
    · subst hOther
      rcases step_dispatching hStep with
        ⟨event, pick, _, hBegins⟩ | ⟨_, hUndispatched⟩
      · rw [hBegins.next] at hDispatched ⊢
        simp only [System.become_calls_self, Call.dispatched,
          Option.some.injEq, Prod.mk.injEq] at hDispatched
        rcases hDispatched with ⟨_, rfl, hPlan⟩
        exact dispatchPlan_asked hPlan
      · rw [hUndispatched.position] at hDispatched
        cases hDispatched
    · rw [hEffect.frame.calls other hOther] at hDispatched
      exact (hCaused.plans other _ _ _ _ hDispatched).keep
        hEffect.extends
  · intro event hEvent hActor
    rcases hEffect.events_asked hCaused hEvent hActor with
      ⟨webhookEventId, hAsked⟩
    exact ⟨webhookEventId, hAsked.keep hEffect.extends⟩

/- Setting the status of an outbox row changes no cause. -/
theorem Caused.same
    (hCaused : Caused system)
    (hCalls :
      ∀ call dispatched,
        (next.calls call).dispatched = some dispatched →
          (system.calls call).dispatched = some dispatched)
    (hDb :
      ∃ outbox, next.db = { system.db with outbox := outbox }) :
    Caused next := by
  rcases hDb with ⟨outbox, hDb⟩
  constructor
  · intro call _ _ _ _ hDispatched
    rw [hDb]
    exact hCaused.plans call _ _ _ _
      (hCalls call _ hDispatched)
  · rw [hDb]
    exact hCaused.events

theorem caused_step
    {desk next : Desk}
    {label : DeskLabel}
    (hCaused : Caused desk.system)
    (hStep : deskStep config desk label = some next) :
    Caused next.system := by
  cases deskStep_effect hStep with
  | service label hService =>
      exact caused_service hCaused hService
  | fail call text now jitter outboxEventId webhookEventId
      plan db _ hDb hSystem =>
      refine hCaused.same ?_ ?_
      · intro other dispatched hDispatched
        rw [hSystem] at hDispatched
        exact dispatched_of_commit hDispatched
      · rw [hSystem, System.commit_db]
        rcases hDb with rfl | rfl
        · exact ⟨desk.system.db.outbox, rfl⟩
        · exact ⟨_, rfl⟩
  | flush operator now outboxEventId loaded _ _ hSystem =>
      rw [hSystem]
      exact hCaused.same (fun _ _ hSame => hSame) ⟨_, rfl⟩
  | read operator outboxEventId hSystem =>
      rw [hSystem]
      exact hCaused
  | kill operator hSystem =>
      rw [hSystem]
      exact hCaused

end PayGuard

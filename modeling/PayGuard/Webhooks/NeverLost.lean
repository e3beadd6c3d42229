import PayGuard.Outbox.Origins
import PayGuard.Outbox.Replay
import PayGuard.Webhooks.Once

/-
  No accepted webhook is lost.

  A delivery is answered once its row and its outbox event
  are committed; all else is left to a worker.  A worker that
  skips an outbox event marks it as processed although it did
  nothing, so what has to be shown is that it only skips an
  event whose webhook was handled before, and that this stays
  true while the dispatch is open.

  Key definitions include:
    * `Database.Tended`
    * `Accounted`
    * `HandledProcessed`

  Key theorems include:
    * `dispatchPlan_skips`
    * `accounted_step`
    * `handledProcessed_step`
    * `accepted_webhook_is_never_lost`
-/

------------------------------------------------------------
-- Tended Rows
------------------------------------------------------------

namespace PayGuard

/- No webhook the row refers to still waits. -/
def Database.Tended
    (db : Database)
    (row : OutboxEvent) : Prop :=
  ∀ webhookEventId,
    row.webhook = some webhookEventId →
      ¬ db.Unhandled webhookEventId

/-
  Processed rows are tended, and so are the rows an open
  dispatch is going to mark without doing anything.
-/
structure Accounted (system : System) : Prop where
  settled :
    ∀ row ∈ system.db.outbox, row.status ≠ .processing
  marked :
    ∀ row ∈ system.db.outbox,
      row.status = .processed → system.db.Tended row
  skipped :
    ∀ call outboxEventId webhookEventId,
      (system.calls call).dispatched =
          some (outboxEventId, webhookEventId, .skip) →
        ∀ row ∈ system.db.outbox,
          row.id = outboxEventId → system.db.Tended row

theorem accounted_initial : Accounted {} where
  settled := by simp
  marked := by simp
  skipped := by
    intro call outboxEventId webhookEventId hDispatched
    cases hDispatched

variable {config : Config}
variable {system next : System}
variable {call : CallId}
variable {draw : Draw}
variable {db : Database}
variable {row : OutboxEvent}
variable {webhookEventId : Uuid}

theorem Received.stored_webhook
    (hReceived : Received db)
    (hRow : row ∈ db.outbox)
    (hWebhook : row.webhook = some webhookEventId) :
    webhookEventId ∈ db.webhooks.map (·.id) := by
  rw [← hReceived.announced]
  exact List.mem_filterMap.mpr ⟨row, hRow, hWebhook⟩

/- A skipped row refers to no webhook that still waits. -/
theorem dispatchPlan_skips
    {pick : Uuid}
    (hReceived : Received db)
    (hRow : row ∈ db.outbox)
    (hPlan : (dispatchPlan db row pick).2 = .skip) :
    db.Tended row := by
  rintro webhookEventId hWebhook
    ⟨event, hEvent, hId, hStatus⟩
  have hPayload : row.payload = .webhook webhookEventId := by
    unfold OutboxEvent.webhook at hWebhook
    split at hWebhook
    · rename_i payload
      cases hWebhook
      exact payload
    · cases hWebhook
  have hType :=
    ((hReceived.shaped row hRow webhookEventId).mp
      hWebhook).2.2
  have hFind :
      db.webhooks.find? (fun event =>
        event.id = webhookEventId) = some event := by
    cases hFound : db.webhooks.find? (fun event =>
        event.id = webhookEventId) with
    | none =>
        have hNone := List.find?_eq_none.mp hFound event hEvent
        simp [hId] at hNone
    | some found =>
        have hFoundId : found.id = webhookEventId := by
          simpa using List.find?_some hFound
        rw [List.inj_on_of_nodup_map hReceived.ids
          (List.mem_of_find?_eq_some hFound) hEvent
          (hFoundId.trans hId.symm)]
  unfold dispatchPlan at hPlan
  simp only [hPayload, if_pos hType, planWebhookEvent, hFind,
    hStatus, ne_eq, not_true_eq_false, if_false] at hPlan
  split at hPlan
  · cases hPlan
  · unfold planPaymentOutcome at hPlan
    split at hPlan
    · cases hPlan
    · split at hPlan
      · cases hPlan
      · split at hPlan <;> cases hPlan

/- A webhook that still waits after a step waited before. -/
theorem DeliveryStep.unhandled_old
    (hDelivery : DeliveryStep config system call draw next)
    (hFresh : draw.webhook ∉ system.db.webhooks.map (·.id))
    (hStored :
      webhookEventId ∈ system.db.webhooks.map (·.id))
    (hUnhandled : next.db.Unhandled webhookEventId) :
    system.db.Unhandled webhookEventId := by
  rcases hUnhandled with ⟨event, hEvent, hId, hStatus⟩
  cases hDelivery with
  | announce hAnnounces =>
      rw [hAnnounces.webhooks] at hEvent
      exact ⟨event, hEvent, hId, hStatus⟩
  | receive delivery _ hDb =>
      rw [hDb] at hEvent
      unfold receiveWebhook at hEvent
      split at hEvent
      · exact ⟨event, hEvent, hId, hStatus⟩
      · rcases List.mem_append.mp hEvent with hOld | hNew
        · exact ⟨event, hOld, hId, hStatus⟩
        · rw [List.mem_singleton] at hNew
          subst hNew
          rw [← hId] at hStored
          exact absurd hStored hFresh
  | dispatch outboxEventId otherWebhookId plan db _ _ hBody
      hDb =>
      rw [hDb] at hEvent
      rcases dispatchEffect_deliveries hBody with
        ⟨_, rfl⟩ | ⟨_, base, status, hLeft, hAnnounces, rfl⟩
      · exact ⟨event, hEvent, hId, hStatus⟩
      · rcases Table.mem_updateWhere.mp hEvent with
          ⟨old, hOld, rfl⟩
        rw [hAnnounces.webhooks] at hOld
        split at hStatus
        · exact absurd hStatus hLeft
        · rename_i hOther
          rw [if_neg hOther] at hId
          exact ⟨old, hOld, hId, hStatus⟩

theorem Database.Tended.same
    {old : OutboxEvent}
    (hTended : db.Tended old)
    (hPayload : row.payload = old.payload) :
    db.Tended row := by
  intro webhookEventId hWebhook
  refine hTended webhookEventId ?_
  unfold OutboxEvent.webhook at hWebhook ⊢
  rwa [hPayload] at hWebhook

/- A row of the outbox stays tended. -/
theorem Database.Tended.keep
    (hTended : system.db.Tended row)
    (hReceived : Received system.db)
    (hRow : row ∈ system.db.outbox)
    (hAdmits : system.db.Admits draw)
    (hDelivery : DeliveryStep config system call draw next) :
    next.db.Tended row := by
  intro webhookEventId hWebhook hUnhandled
  exact hTended webhookEventId hWebhook
    (hDelivery.unhandled_old hAdmits.2.2.2.2.2.1
      (hReceived.stored_webhook hRow hWebhook) hUnhandled)

end PayGuard

------------------------------------------------------------
-- One Step
------------------------------------------------------------

namespace PayGuard

variable {config : Config}
variable {system next : System}
variable {call : CallId}
variable {draw : Draw}
variable {db db' : Database}
variable {row : OutboxEvent}
variable {outboxEventId webhookEventId : Uuid}
variable {plan : WebhookPlan}

/- A dispatch that acts is about the webhook of its row. -/
theorem Planned.row_webhook
    (hPlanned : Planned system)
    (hOrderly : Orderly system)
    (hRow : row ∈ system.db.outbox)
    (hDispatched :
      (system.calls call).dispatched =
        some (row.id, webhookEventId, plan))
    (hPlan : plan ≠ .skip) :
    row.webhook = some webhookEventId := by
  rcases (hPlanned call _ _ _ hDispatched hPlan).1 with
    ⟨found, hFound, hId, hWebhook⟩
  have hSame : found = row :=
    List.inj_on_of_nodup_map hOrderly.ids hFound hRow hId
  rw [← hSame]
  exact hWebhook

/- A dispatch that acts handles its webhook. -/
theorem dispatchEffect_handles
    (hBody :
      dispatchEffect config db webhookEventId plan draw =
        .ok db')
    (hPlan : plan ≠ .skip) :
    ¬ db'.Unhandled webhookEventId := by
  rintro ⟨event, hEvent, hId, hStatus⟩
  rcases dispatchEffect_deliveries hBody with
    ⟨hSkip, _⟩ | ⟨_, base, status, hLeft, _, rfl⟩
  · exact hPlan hSkip
  · rcases Table.mem_updateWhere.mp hEvent with
      ⟨old, _, rfl⟩
    split at hId
    · rename_i hOld
      rw [if_pos hOld] at hStatus
      exact hLeft hStatus
    · rename_i hOther
      exact hOther (by simpa using hId)

theorem accounted_service
    {label : Label}
    (hAccounted : Accounted system)
    (hReceived : Received system.db)
    (hOrderly : Orderly system)
    (hPlanned : Planned system)
    (hStep : step config system label = some next) :
    Accounted next := by
  rcases step_effect hStep with ⟨hAdmits, hEffect⟩
  have hDelivery := hEffect.deliveryStep
  have hKeep :
      ∀ old ∈ system.db.outbox,
        system.db.Tended old → next.db.Tended old :=
    fun old hOld hTended =>
      hTended.keep hReceived hOld hAdmits hDelivery
  constructor
  · intro row hRow hStatus
    cases hDelivery.rowOrigin hOrderly hAdmits hRow with
    | added _ hPending =>
        rw [hPending] at hStatus
        cases hStatus
    | kept old hOld _ _ hSame =>
        exact hAccounted.settled old hOld (hSame ▸ hStatus)
    | marked _ _ _ _ _ _ _ hProcessed _ _ _ =>
        rw [hProcessed] at hStatus
        cases hStatus
  · intro row hRow hStatus
    cases hDelivery.rowOrigin hOrderly hAdmits hRow with
    | added _ hPending =>
        rw [hPending] at hStatus
        cases hStatus
    | kept old hOld _ hPayload hSame =>
        exact (hKeep old hOld
          (hAccounted.marked old hOld (hSame ▸ hStatus))).same
            hPayload
    | marked old webhookEventId plan db hOld _ hPayload _
        hDispatched hBody hDb =>
        refine Database.Tended.same ?_ hPayload
        by_cases hPlan : plan = .skip
        · subst hPlan
          exact hKeep old hOld
            (hAccounted.skipped _ _ _ hDispatched old hOld
              rfl)
        · intro otherId hOther
          rw [hPlanned.row_webhook hOrderly hOld hDispatched
            hPlan] at hOther
          cases hOther
          have hHandled := dispatchEffect_handles hBody hPlan
          rw [hDb]
          exact hHandled
  · intro other outboxEventId webhookEventId hDispatched row
      hRow hId
    by_cases hOther : other = label.call
    · subst hOther
      rcases step_dispatching hStep with
        ⟨event, pick, _, hBegins⟩ | ⟨_, hUndispatched⟩
      · rw [hBegins.next] at hDispatched hRow ⊢
        simp only [System.become_calls_self, Call.dispatched,
          Option.some.injEq, Prod.mk.injEq] at hDispatched
        rcases hDispatched with ⟨rfl, _, hPlan⟩
        have hSame : row = event :=
          List.inj_on_of_nodup_map hOrderly.ids hRow
            hBegins.stored hId
        rw [hSame]
        exact dispatchPlan_skips hReceived hBegins.stored
          hPlan
      · rw [hUndispatched.position] at hDispatched
        cases hDispatched
    · rw [hEffect.frame.calls other hOther] at hDispatched
      have hStored :=
        (hOrderly.waiting other _ _ _ hDispatched).stored
      cases hDelivery.rowOrigin hOrderly hAdmits hRow with
      | added hNew _ =>
          rw [← hId, hNew] at hStored
          exact absurd hStored hAdmits.2.2.2.2.1
      | kept old hOld hSame hPayload _ =>
          exact (hKeep old hOld
            (hAccounted.skipped other _ _ hDispatched old
              hOld (hSame.symm.trans hId))).same hPayload
      | marked old _ _ _ hOld hSame hPayload _ _ _ _ =>
          exact (hKeep old hOld
            (hAccounted.skipped other _ _ hDispatched old
              hOld (hSame.symm.trans hId))).same hPayload

/- Setting the status of a row keeps what it refers to. -/
theorem Accounted.set
    (status : OutboxStatus)
    (hAccounted : Accounted system)
    (hStatus : status ≠ .processing ∧ status ≠ .processed)
    (hCalls :
      ∀ call dispatched,
        (next.calls call).dispatched = some dispatched →
          (system.calls call).dispatched = some dispatched)
    (hDb :
      next.db =
        setOutboxStatus system.db outboxEventId status) :
    Accounted next := by
  have hOld :
      ∀ row ∈ next.db.outbox,
        ∃ old ∈ system.db.outbox,
          row.id = old.id ∧ row.payload = old.payload ∧
            (row.status = status ∨
              row.status = old.status) := by
    intro row hRow
    rw [hDb] at hRow
    rcases Table.mem_updateWhere.mp hRow with
      ⟨old, hOld, rfl⟩
    refine ⟨old, hOld, ?_, ?_, ?_⟩
    · split <;> rfl
    · split <;> rfl
    · split
      · exact .inl rfl
      · exact .inr rfl
  have hTended :
      ∀ row : OutboxEvent,
        system.db.Tended row → next.db.Tended row := by
    intro row hRow
    rw [hDb]
    exact hRow
  constructor
  · intro row hRow hProcessing
    rcases hOld row hRow with
      ⟨old, hStored, _, _, hSet | hSame⟩
    · exact hStatus.1 (hSet.symm.trans hProcessing)
    · exact hAccounted.settled old hStored
        (hSame.symm.trans hProcessing)
  · intro row hRow hMarked
    rcases hOld row hRow with
      ⟨old, hStored, _, hPayload, hSet | hSame⟩
    · exact absurd (hSet.symm.trans hMarked) hStatus.2
    · exact (hTended old (hAccounted.marked old hStored
        (hSame.symm.trans hMarked))).same hPayload
  · intro call outboxEventId webhookEventId hDispatched row
      hRow hId
    rcases hOld row hRow with
      ⟨old, hStored, hSame, hPayload, _⟩
    exact (hTended old
      (hAccounted.skipped call _ _
        (hCalls call _ hDispatched) old hStored
        (hSame.symm.trans hId))).same hPayload

theorem accounted_step
    {desk next : Desk}
    {label : DeskLabel}
    (hAccounted : Accounted desk.system)
    (hDelivered : Delivered desk)
    (hStep : deskStep config desk label = some next) :
    Accounted next.system := by
  cases deskStep_effect hStep with
  | service label hService =>
      exact accounted_service hAccounted hDelivered.received
        hDelivered.orderly hDelivered.planned hService
  | fail call text now jitter outboxEventId webhookEventId
      plan db _ hDb hSystem =>
      have hCalls :
          ∀ other dispatched,
            (next.system.calls other).dispatched =
                some dispatched →
              (desk.system.calls other).dispatched =
                some dispatched := by
        intro other dispatched hDispatched
        rw [hSystem] at hDispatched
        exact dispatched_of_commit hDispatched
      rcases hDb with rfl | rfl
      · constructor
        · rw [hSystem]
          exact hAccounted.settled
        · rw [hSystem]
          exact hAccounted.marked
        · intro other _ _ hDispatched
          have hOpen := hCalls other _ hDispatched
          rw [hSystem]
          exact hAccounted.skipped other _ _ hOpen
      · exact Accounted.set .deadLetter hAccounted (by simp)
          hCalls (by rw [hSystem]; rfl)
  | flush operator now outboxEventId loaded _ _ hSystem =>
      refine Accounted.set .pending hAccounted (by simp) ?_
        (by rw [hSystem])
      intro call dispatched hDispatched
      rw [hSystem] at hDispatched
      exact hDispatched
  | read operator outboxEventId hSystem =>
      rw [hSystem]
      exact hAccounted
  | kill operator hSystem =>
      rw [hSystem]
      exact hAccounted

end PayGuard

------------------------------------------------------------
-- Handled Webhooks
------------------------------------------------------------

namespace PayGuard

/- Some row that refers to the webhook is processed. -/
def Database.Acknowledged
    (db : Database)
    (webhookEventId : Uuid) : Prop :=
  ∃ row ∈ db.outbox,
    row.webhook = some webhookEventId ∧
      row.status = .processed

/- Every webhook that was handled has a processed row. -/
def HandledProcessed (db : Database) : Prop :=
  ∀ event ∈ db.webhooks,
    event.processingStatus ≠ .received →
      db.Acknowledged event.id

theorem handledProcessed_initial : HandledProcessed {} := by
  intro event hEvent
  cases hEvent

variable {config : Config}
variable {system next : System}
variable {call : CallId}
variable {draw : Draw}
variable {db : Database}
variable {outboxEventId webhookEventId : Uuid}
variable {status : OutboxStatus}

theorem DeliveryStep.acknowledged
    (hDelivery : DeliveryStep config system call draw next)
    (hAcknowledged :
      system.db.Acknowledged webhookEventId) :
    next.db.Acknowledged webhookEventId := by
  rcases hAcknowledged with ⟨row, hRow, hWebhook, hStatus⟩
  rcases hDelivery.outbox with ⟨db, hAdded, hMarked⟩
  have hOld : row ∈ db.outbox := by
    rcases hAdded with hSame | ⟨added, _, _, hOutbox⟩
    · rw [hSame]
      exact hRow
    · rw [hOutbox]
      exact List.mem_append_left _ hRow
  unfold Database.Acknowledged
  rcases hMarked with hSame | ⟨markedId, _, _, _, hOutbox⟩
  · rw [hSame]
    exact ⟨row, hOld, hWebhook, hStatus⟩
  · rw [hOutbox]
    refine ⟨_, Table.mem_updateWhere.mpr ⟨row, hOld, rfl⟩,
      ?_, ?_⟩
    · split <;> exact hWebhook
    · split
      · rfl
      · exact hStatus

theorem HandledProcessed.service
    {label : Label}
    (hHandled : HandledProcessed system.db)
    (hPlanned : Planned system)
    (hStep : step config system label = some next) :
    HandledProcessed next.db := by
  have hDelivery := (step_effect hStep).2.deliveryStep
  intro event hEvent hStatus
  have hOld :
      event ∈ system.db.webhooks →
        next.db.Acknowledged event.id :=
    fun hStored =>
      hDelivery.acknowledged
        (hHandled event hStored hStatus)
  cases hDelivery with
  | announce hAnnounces =>
      rw [hAnnounces.webhooks] at hEvent
      exact hOld hEvent
  | receive delivery _ hDb =>
      rw [hDb] at hEvent
      unfold receiveWebhook at hEvent
      split at hEvent
      · exact hOld hEvent
      · rcases List.mem_append.mp hEvent with
          hStored | hNew
        · exact hOld hStored
        · rw [List.mem_singleton] at hNew
          subst hNew
          exact absurd rfl hStatus
  | dispatch outboxEventId webhookEventId plan db hCall _
      hBody hDb =>
      have hDispatched :
          (system.calls label.call).dispatched =
            some (outboxEventId, webhookEventId, plan) := by
        rw [hCall]
        rfl
      rcases dispatchEffect_deliveries hBody with
        ⟨_, rfl⟩ | ⟨hPlan, base, status, _, hAnnounces, rfl⟩
      · rw [hDb] at hEvent
        exact hOld hEvent
      · rw [hDb] at hEvent
        rcases Table.mem_updateWhere.mp hEvent with
          ⟨old, hStored, rfl⟩
        rw [hAnnounces.webhooks] at hStored
        by_cases hId : old.id = webhookEventId
        · -- the dispatched row is marked in this commit
          rcases (hPlanned label.call _ _ _ hDispatched
              hPlan).1 with ⟨row, hRow, hRowId, hWebhook⟩
          have hBase : row ∈ base.outbox := by
            cases hAnnounces with
            | nothing hSame =>
                rw [hSame.outbox]
                exact hRow
            | one _ _ _ hOutbox =>
                rw [hOutbox]
                exact List.mem_append_left _ hRow
          rw [hDb]
          refine ⟨_, Table.mem_updateWhere.mpr
            ⟨row, hBase, rfl⟩, ?_, ?_⟩
          · rw [if_pos (by simpa using hRowId),
              if_pos (by simpa using hId), hId]
            exact hWebhook
          · rw [if_pos (by simpa using hRowId)]
        · rw [if_neg (by simpa using hId)] at hStatus hOld ⊢
          exact hOld hStored

/- Other rows are set, and the webhook's own row stays. -/
theorem Database.Acknowledged.set
    (hAcknowledged : db.Acknowledged webhookEventId)
    (hSet :
      ∀ row ∈ db.outbox,
        row.id = outboxEventId →
          row.status ≠ .processed) :
    (setOutboxStatus db outboxEventId status).Acknowledged
      webhookEventId := by
  rcases hAcknowledged with ⟨row, hRow, hWebhook, hStatus⟩
  refine ⟨row, mem_setOutboxStatus_of_ne hRow ?_, hWebhook,
    hStatus⟩
  intro hId
  exact hSet row hRow hId hStatus

theorem handledProcessed_step
    {desk next : Desk}
    {label : DeskLabel}
    (hHandled : HandledProcessed desk.system.db)
    (hDelivered : Delivered desk)
    (hRequeues : RequeuesUnprocessed desk label)
    (hStep : deskStep config desk label = some next) :
    HandledProcessed next.system.db := by
  cases deskStep_effect hStep with
  | service label hService =>
      exact hHandled.service hDelivered.planned hService
  | fail call text now jitter outboxEventId webhookEventId
      plan db hCall hDb hSystem =>
      rw [hSystem, System.commit_db]
      rcases hDb with rfl | rfl
      · exact hHandled
      · intro event hEvent hStatus
        refine (hHandled event hEvent hStatus).set ?_
        intro row hRow hId hProcessed
        have hWaiting :=
          hDelivered.orderly.waiting call outboxEventId
            webhookEventId plan (by rw [hCall]; rfl)
        rw [hWaiting.pending row hRow hId] at hProcessed
        cases hProcessed
  | flush operator now outboxEventId loaded hOperator _
      hSystem =>
      have hRequeued :
          desk.requeued (.requeueFlush operator now) =
            some outboxEventId := by
        simp only [Desk.requeued, hOperator]
      rw [hSystem]
      intro event hEvent hStatus
      refine (hHandled event hEvent hStatus).set ?_
      intro row hRow hId hProcessed
      exact hRequeues outboxEventId hRequeued
        ⟨row, hRow, hId, hProcessed⟩
  | read operator outboxEventId hSystem =>
      rw [hSystem]
      exact hHandled
  | kill operator hSystem =>
      rw [hSystem]
      exact hHandled

theorem handledProcessed_of_meets
    {labels : List DeskLabel}
    {desk : Desk}
    (hMeets :
      Lts.Meets (deskStep config) RequeuesUnprocessed {}
        labels)
    (hRun :
      Lts.exec (deskStep config) {} labels = some desk) :
    HandledProcessed desk.system.db := by
  have hKeep :
      ∀ (desk : Desk) (label : DeskLabel) (next : Desk),
        (Delivered desk ∧
            HandledProcessed desk.system.db) →
          RequeuesUnprocessed desk label →
            deskStep config desk label = some next →
              (Delivered next ∧
                HandledProcessed next.system.db) :=
    fun _ _ _ hBoth hRequeues hStep =>
      ⟨delivered_step hBoth.1 hStep,
        handledProcessed_step hBoth.2 hBoth.1 hRequeues
          hStep⟩
  have hStart :
      Delivered {} ∧
        HandledProcessed ({} : Desk).system.db :=
    ⟨delivered_initial, handledProcessed_initial⟩
  exact (Lts.invariant_of_meets hKeep hStart hMeets hRun).2

end PayGuard

------------------------------------------------------------
-- Accepted Deliveries
------------------------------------------------------------

namespace PayGuard

variable {config : Config}
variable {desk next : Desk}
variable {label : DeskLabel}

/- The name of the event a delivery is about. -/
def WebhookDelivery.name
    (delivery : WebhookDelivery) : String × String :=
  (delivery.providerName, delivery.providerEventId)

/- The step answers a delivery. -/
def DeskLabel.Accepts
    (label : DeskLabel)
    (delivery : WebhookDelivery) : Prop :=
  ∃ service,
    label = .service service ∧
      service.action = .receiveWebhook delivery

/- A webhook of this name is on file. -/
def Database.Named
    (db : Database)
    (name : String × String) : Prop :=
  name ∈ db.webhooks.map (·.name)

theorem receiveWebhook_named
    (db : Database)
    (delivery : WebhookDelivery)
    (draw : Draw) :
    (receiveWebhook db delivery draw).Named
      delivery.name := by
  unfold receiveWebhook
  split
  · rename_i hOld
    rw [List.any_eq_true] at hOld
    rcases hOld with ⟨event, hEvent, hSame⟩
    refine List.mem_map.mpr ⟨event, hEvent, ?_⟩
    have hBoth :
        event.providerName = delivery.providerName ∧
          event.providerEventId =
            delivery.providerEventId := by
      simpa using hSame
    simp [WebhookEvent.name, WebhookDelivery.name, hBoth]
  · refine List.mem_map.mpr ⟨_, List.mem_append_right _
      (List.mem_singleton.mpr rfl), rfl⟩

/- No step of the services forgets a webhook. -/
theorem DeliveryStep.named
    {system next : System}
    {call : CallId}
    {draw : Draw}
    {name : String × String}
    (hDelivery : DeliveryStep config system call draw next)
    (hNamed : system.db.Named name) :
    next.db.Named name := by
  unfold Database.Named at hNamed ⊢
  cases hDelivery with
  | announce hAnnounces =>
      rw [hAnnounces.webhooks]
      exact hNamed
  | receive delivery _ hDb =>
      rw [hDb]
      unfold receiveWebhook
      split
      · exact hNamed
      · rw [List.map_append]
        exact List.mem_append_left _ hNamed
  | dispatch outboxEventId webhookEventId plan db _ _ hBody
      hDb =>
      rw [hDb]
      rcases dispatchEffect_deliveries hBody with
        ⟨_, rfl⟩ | ⟨_, base, status, _, hAnnounces, rfl⟩
      · exact hNamed
      · have hNames :=
          setProcessingStatus_names base webhookEventId
            status
        rw [hAnnounces.webhooks] at hNames
        exact hNames.symm ▸ hNamed

theorem named_step
    {name : String × String}
    (hNamed : desk.system.db.Named name)
    (hStep : deskStep config desk label = some next) :
    next.system.db.Named name := by
  cases deskStep_effect hStep with
  | service label hService =>
      exact (step_effect hService).2.deliveryStep.named
        hNamed
  | fail call text now jitter outboxEventId webhookEventId
      plan db _ hDb hSystem =>
      rw [hSystem, System.commit_db]
      rcases hDb with rfl | rfl
      · exact hNamed
      · exact hNamed
  | flush operator now outboxEventId loaded _ _ hSystem =>
      rw [hSystem]
      exact hNamed
  | read operator outboxEventId hSystem =>
      rw [hSystem]
      exact hNamed
  | kill operator hSystem =>
      rw [hSystem]
      exact hNamed

/- An accepted delivery is on file from then on. -/
theorem accepts_named
    {delivery : WebhookDelivery}
    (hAccepts : label.Accepts delivery)
    (hStep : deskStep config desk label = some next) :
    next.system.db.Named delivery.name := by
  rcases hAccepts with ⟨service, rfl, hAction⟩
  cases deskStep_effect hStep with
  | service _ hService =>
      unfold step at hService
      split at hService
      · rw [hAction] at hService
        simp only [callStep, stepReceiveWebhook] at hService
        split at hService
        · rw [← Option.some.inj hService]
          exact receiveWebhook_named _ _ _
        · cases hService
      · cases hService

/- An accepted delivery stays on file. -/
theorem accepted_on_file
    {labels : List DeskLabel}
    {delivery : WebhookDelivery}
    (hRun :
      Lts.exec (deskStep config) {} labels = some desk)
    (hLabel : label ∈ labels)
    (hAccepts : label.Accepts delivery) :
    desk.system.db.Named delivery.name := by
  have hKeep :
      ∀ (past : List DeskLabel) (desk : Desk)
        (label : DeskLabel) (next : Desk),
        Lts.exec (deskStep config) {} past = some desk →
          (∀ made ∈ past,
            made.Accepts delivery →
              desk.system.db.Named delivery.name) →
            deskStep config desk label = some next →
              ∀ made ∈ past ++ [label],
                made.Accepts delivery →
                  next.system.db.Named delivery.name := by
    intro past desk label next _ hPast hStep made hMade
      hAccepts
    rcases List.mem_append.mp hMade with hOld | hNew
    · exact named_step (hPast made hOld hAccepts) hStep
    · rw [List.mem_singleton] at hNew
      subst hNew
      exact accepts_named hAccepts hStep
  have hStart :
      ∀ made ∈ ([] : List DeskLabel),
        made.Accepts delivery →
          ({} : Desk).system.db.Named delivery.name := by
    intro made hMade
    cases hMade
  have hOnFile := Lts.invariant_of_history hKeep hStart hRun
  exact hOnFile label hLabel hAccepts

/-
  Every accepted delivery is on file.  Whatever workers that
  crash or raise, operators and requests did since, a webhook
  that was not handled has one outbox row, and that row waits
  for a worker or for an operator.  When no operator writes
  to a processed row, the row of a webhook is processed
  exactly when the webhook was handled.
-/
theorem accepted_webhook_is_never_lost
    (config : Config)
    (labels : List DeskLabel)
    (desk : Desk)
    (hRun :
      Lts.exec (deskStep config) {} labels = some desk) :
    (∀ label ∈ labels, ∀ delivery,
        label.Accepts delivery →
          desk.system.db.Named delivery.name) ∧
      (∀ event ∈ desk.system.db.webhooks,
        event.processingStatus = .received →
          ∃ row,
            desk.system.db.receipts event.id = [row] ∧
              (row.status = .pending ∨
                row.status = .deadLetter)) ∧
      (Lts.Meets (deskStep config) RequeuesUnprocessed {}
          labels →
        ∀ event ∈ desk.system.db.webhooks,
          ∃ row,
            desk.system.db.receipts event.id = [row] ∧
              (row.status = .processed ↔
                event.processingStatus ≠ .received)) := by
  have hKeep :
      ∀ (desk : Desk) (label : DeskLabel) (next : Desk),
        (Delivered desk ∧ Accounted desk.system) →
          deskStep config desk label = some next →
            (Delivered next ∧ Accounted next.system) :=
    fun _ _ _ hBoth hStep =>
      ⟨delivered_step hBoth.1 hStep,
        accounted_step hBoth.2 hBoth.1 hStep⟩
  have hStart :
      Delivered {} ∧ Accounted ({} : Desk).system :=
    ⟨delivered_initial, accounted_initial⟩
  have hAlways := Lts.invariant_of_exec hKeep hStart hRun
  have hDelivered := hAlways.1
  have hReceipt :
      ∀ event ∈ desk.system.db.webhooks,
        ∃ row ∈ desk.system.db.outbox,
          row.webhook = some event.id ∧
            desk.system.db.receipts event.id = [row] := by
    intro event hEvent
    rcases List.length_eq_one_iff.mp
      (hDelivered.received.oneReceipt hEvent) with
      ⟨row, hRow⟩
    have hMem : row ∈ desk.system.db.receipts event.id := by
      rw [hRow]
      exact List.mem_singleton.mpr rfl
    have hFiltered := List.mem_filter.mp hMem
    exact ⟨row, hFiltered.1,
      (hDelivered.received.shaped row hFiltered.1 _).mpr
        (of_decide_eq_true hFiltered.2), hRow⟩
  -- a processed row of a webhook that waits is not tended
  have hWaits :
      ∀ event ∈ desk.system.db.webhooks,
        event.processingStatus = .received →
          ∀ row ∈ desk.system.db.outbox,
            row.webhook = some event.id →
              row.status ≠ .processed := by
    intro event hEvent hStatus row hRow hWebhook hProcessed
    exact hAlways.2.marked row hRow hProcessed event.id
      hWebhook ⟨event, hEvent, rfl, hStatus⟩
  refine ⟨?_, ?_, ?_⟩
  · intro label hLabel delivery hAccepts
    exact accepted_on_file hRun hLabel hAccepts
  · intro event hEvent hStatus
    rcases hReceipt event hEvent with
      ⟨row, hRow, hWebhook, hOnly⟩
    refine ⟨row, hOnly, ?_⟩
    have hNot := hWaits event hEvent hStatus row hRow hWebhook
    cases hRowStatus : row.status with
    | pending => exact .inl rfl
    | processing =>
        exact absurd hRowStatus
          (hAlways.2.settled row hRow)
    | processed => exact absurd hRowStatus hNot
    | deadLetter => exact .inr rfl
  · intro hMeets event hEvent
    have hHandled :=
      handledProcessed_of_meets hMeets hRun
    rcases hReceipt event hEvent with
      ⟨row, hRow, hWebhook, hOnly⟩
    refine ⟨row, hOnly, ?_, ?_⟩
    · intro hProcessed hStatus
      exact hWaits event hEvent hStatus row hRow hWebhook
        hProcessed
    · intro hStatus
      rcases hHandled event hEvent hStatus with
        ⟨found, hFound, hFoundWebhook, hProcessed⟩
      rw [hDelivered.received.row_eq hEvent hRow hFound
        hWebhook hFoundWebhook]
      exact hProcessed

theorem accepted_webhook_is_never_lost_dead :
    ∃ desk,
      Lts.exec (deskStep { sha256 := spellOut }) {}
          deadLetterRun = some desk ∧
        desk.system.db.HasStatus ("mock", "evt") .received ∧
        desk.system.db.outbox.map (·.status) =
          [.deadLetter] ∧
        ∀ event ∈ desk.system.db.webhooks,
          ∃ row,
            desk.system.db.receipts event.id = [row] ∧
              (row.status = .processed ↔
                event.processingStatus ≠ .received) := by
  have hRun :
      (Lts.exec (deskStep { sha256 := spellOut }) {}
        deadLetterRun).map (fun desk =>
          (decide (desk.system.db.HasStatus ("mock", "evt")
              .received),
            desk.system.db.outbox.map (·.status))) =
        some (true, [.deadLetter]) := by
    decide +kernel
  have hMeets :
      Lts.Meets (deskStep { sha256 := spellOut })
        RequeuesUnprocessed {} deadLetterRun := by
    decide +kernel
  rcases Option.map_eq_some_iff.mp hRun with
    ⟨desk, hExec, hBoth⟩
  rw [Prod.mk.injEq] at hBoth
  exact ⟨desk, hExec, of_decide_eq_true hBoth.1, hBoth.2,
    (accepted_webhook_is_never_lost _ _ _ hExec).2.2
      hMeets⟩

end PayGuard

import PayGuard.Outbox.Worker

/-
  A webhook event takes effect at most once.

  A delivery is stored once per provider event, together
  with its one outbox row.  Dispatches of that row follow one
  another, since each of them holds its lock, and only the
  first that commits finds the event in `RECEIVED`.

  Key definitions include:
    * `Received`
    * `Planned`
    * `Handled`
    * `TakesEffectOnce`

  Key theorems include:
    * `received_step`
    * `planned_step`
    * `webhook_takes_effect_once`
-/

------------------------------------------------------------
-- Rows Of One Delivery
------------------------------------------------------------

namespace PayGuard

/- The name a provider gives to an event. -/
def WebhookEvent.name (event : WebhookEvent) :
    String × String :=
  (event.providerName, event.providerEventId)

/- The webhook an outbox row refers to. -/
def OutboxEvent.webhook (event : OutboxEvent) : Option Uuid :=
  match event.payload with
  | .webhook webhookEventId => some webhookEventId
  | .payment _ _ => none

/- The row but for its status. -/
def OutboxEvent.unmarked (event : OutboxEvent) : OutboxEvent :=
  { event with status := .pending }

/- The outbox rows that announce the receipt of a webhook. -/
def Database.receipts
    (db : Database)
    (webhookEventId : Uuid) : List OutboxEvent :=
  db.outbox.filter (fun event =>
    event.aggregateType = .webhookEvent ∧
      event.aggregateId = webhookEventId ∧
      event.eventType = "webhook.received")

/- A row that refers to a webhook announces its receipt. -/
def OutboxEvent.Shaped (event : OutboxEvent) : Prop :=
  ∀ webhookEventId,
    event.webhook = some webhookEventId ↔
      event.aggregateType = .webhookEvent ∧
        event.aggregateId = webhookEventId ∧
        event.eventType = "webhook.received"

/-
  Webhooks have distinct names and identifiers, and the
  outbox announces every one of them once, in their order.
-/
structure Received (db : Database) : Prop where
  names : (db.webhooks.map (·.name)).Nodup
  ids : (db.webhooks.map (·.id)).Nodup
  shaped : ∀ event ∈ db.outbox, event.Shaped
  announced :
    db.outbox.filterMap (·.webhook) =
      db.webhooks.map (·.id)

theorem received_initial : Received {} where
  names := List.nodup_nil
  ids := List.nodup_nil
  shaped := by simp
  announced := rfl

variable {config : Config}
variable {system next : System}
variable {call : CallId}
variable {draw : Draw}
variable {db db' base : Database}
variable {event : WebhookEvent}
variable {name : String × String}

theorem Received.countP_webhook
    (hReceived : Received db)
    (hEvent : event ∈ db.webhooks) :
    db.outbox.countP (fun row =>
      row.webhook == some event.id) = 1 := by
  rw [← List.count_filterMap, hReceived.announced]
  exact List.count_eq_one_of_mem hReceived.ids
    (List.mem_map_of_mem hEvent)

/- A name has at most one row. -/
theorem Received.oneRow
    (hReceived : Received db)
    (name : String × String) :
    (db.webhooks.filter (fun event =>
      event.name = name)).length ≤ 1 := by
  have hCount :=
    List.nodup_iff_count_le_one.mp hReceived.names name
  rw [List.count, List.countP_map,
    List.countP_eq_length_filter] at hCount
  refine Nat.le_trans (Nat.le_of_eq ?_) hCount
  congr 1
  apply List.filter_congr
  intro event _
  rw [Bool.eq_iff_iff]
  simp

/- A stored webhook has exactly one receipt. -/
theorem Received.oneReceipt
    (hReceived : Received db)
    (hEvent : event ∈ db.webhooks) :
    (db.receipts event.id).length = 1 := by
  rw [← hReceived.countP_webhook hEvent,
    List.countP_eq_length_filter]
  unfold Database.receipts
  congr 1
  apply List.filter_congr
  intro row hRow
  rw [Bool.eq_iff_iff, beq_iff_eq, decide_eq_true_iff]
  exact (hReceived.shaped row hRow event.id).symm

/- Two outbox rows of one webhook are the same row. -/
theorem Received.row_eq
    {row row' : OutboxEvent}
    (hReceived : Received db)
    (hEvent : event ∈ db.webhooks)
    (hRow : row ∈ db.outbox)
    (hRow' : row' ∈ db.outbox)
    (hWebhook : row.webhook = some event.id)
    (hWebhook' : row'.webhook = some event.id) :
    row = row' := by
  have hCount := hReceived.countP_webhook hEvent
  rw [List.countP_eq_length_filter,
    List.length_eq_one_iff] at hCount
  rcases hCount with ⟨only, hOnly⟩
  have hMem :
      ∀ candidate ∈ db.outbox,
        candidate.webhook = some event.id →
          candidate = only := by
    intro candidate hCandidate hRefers
    have hFiltered :
        candidate ∈ db.outbox.filter (fun row =>
          row.webhook == some event.id) :=
      List.mem_filter.mpr ⟨hCandidate, by simp [hRefers]⟩
    rw [hOnly] at hFiltered
    exact List.mem_singleton.mp hFiltered
  rw [hMem row hRow hWebhook, hMem row' hRow' hWebhook']

------------------------------------------------------------
-- Both Tables Across A Step
------------------------------------------------------------

/- The statuses of the rows do not matter. -/
theorem Received.congr
    (hReceived : Received db)
    (hNames :
      db'.webhooks.map (·.name) = db.webhooks.map (·.name))
    (hIds : db'.webhooks.map (·.id) = db.webhooks.map (·.id))
    (hOutbox :
      db'.outbox.map (·.unmarked) =
        db.outbox.map (·.unmarked)) :
    Received db' where
  names := by
    rw [hNames]
    exact hReceived.names
  ids := by
    rw [hIds]
    exact hReceived.ids
  shaped := by
    intro row hRow
    have hUnmarked :
        row.unmarked ∈ db.outbox.map (·.unmarked) := by
      rw [← hOutbox]
      exact List.mem_map_of_mem hRow
    rcases List.mem_map.mp hUnmarked with
      ⟨old, hOld, hSame⟩
    have hShaped : row.unmarked.Shaped := by
      rw [← hSame]
      exact hReceived.shaped old hOld
    exact hShaped
  announced := by
    have hSame :
        ∀ rows : List OutboxEvent,
          (rows.map (·.unmarked)).filterMap (·.webhook) =
            rows.filterMap (·.webhook) := by
      intro rows
      rw [List.filterMap_map]
      rfl
    rw [hIds, ← hReceived.announced, ← hSame db'.outbox,
      hOutbox, hSame]

theorem setOutboxStatus_unmarked
    (db : Database)
    (outboxEventId : Uuid)
    (status : OutboxStatus) :
    (setOutboxStatus db outboxEventId status).outbox.map
        (·.unmarked) =
      db.outbox.map (·.unmarked) := by
  unfold setOutboxStatus
  apply Table.map_updateWhere
  intro row
  rfl

theorem setProcessingStatus_names
    (db : Database)
    (webhookEventId : Uuid)
    (status : ProcessingStatus) :
    (setProcessingStatus db webhookEventId
        status).webhooks.map (·.name) =
      db.webhooks.map (·.name) := by
  unfold setProcessingStatus
  apply Table.map_updateWhere
  intro row
  rfl

theorem setProcessingStatus_ids
    (db : Database)
    (webhookEventId : Uuid)
    (status : ProcessingStatus) :
    (setProcessingStatus db webhookEventId
        status).webhooks.map (·.id) =
      db.webhooks.map (·.id) := by
  unfold setProcessingStatus
  apply Table.map_updateWhere
  intro row
  rfl

/- Announcing a payment announces no webhook. -/
theorem Received.announces
    (hReceived : Received db)
    (hAnnounces : Announces db draw db') :
    Received db' := by
  cases hAnnounces with
  | nothing hSame =>
      exact hReceived.congr (by rw [hSame.webhooks])
        (by rw [hSame.webhooks]) (by rw [hSame.outbox])
  | one row hRow hWebhooks hOutbox =>
      rcases hRow.payload with ⟨paymentId, status, hPayload⟩
      have hNone : row.webhook = none := by
        unfold OutboxEvent.webhook
        rw [hPayload]
      refine
        { names := by rw [hWebhooks]; exact hReceived.names
          ids := by rw [hWebhooks]; exact hReceived.ids
          shaped := ?_
          announced := ?_ }
      · intro old hOld
        rw [hOutbox, List.mem_append,
          List.mem_singleton] at hOld
        rcases hOld with hOld | rfl
        · exact hReceived.shaped old hOld
        · intro webhookEventId
          simp [hNone, hRow.kind]
      · rw [hOutbox, hWebhooks, List.filterMap_append,
          hReceived.announced]
        simp [hNone]

/- A receipt adds one row to either table, or none. -/
theorem Received.receive
    (delivery : WebhookDelivery)
    (hReceived : Received db)
    (hFresh : draw.webhook ∉ db.webhooks.map (·.id)) :
    Received (receiveWebhook db delivery draw) := by
  unfold receiveWebhook
  split
  · exact hReceived
  · rename_i hNew
    have hName :
        (delivery.providerName, delivery.providerEventId) ∉
          db.webhooks.map (·.name) := by
      intro hOld
      rcases List.mem_map.mp hOld with
        ⟨old, hStored, hSame⟩
      apply hNew
      rw [List.any_eq_true]
      refine ⟨old, hStored, ?_⟩
      simpa [WebhookEvent.name] using hSame
    refine
      { names := ?_
        ids := ?_
        shaped := ?_
        announced := ?_ }
    · rw [List.map_append]
      exact List.Nodup.append hReceived.names
        (List.nodup_singleton _)
        (List.disjoint_singleton.mpr hName)
    · rw [List.map_append]
      exact List.Nodup.append hReceived.ids
        (List.nodup_singleton _)
        (List.disjoint_singleton.mpr hFresh)
    · intro row hRow
      rw [List.mem_append, List.mem_singleton] at hRow
      rcases hRow with hRow | rfl
      · exact hReceived.shaped row hRow
      · intro webhookEventId
        simp [OutboxEvent.webhook]
    · rw [List.filterMap_append, List.map_append,
        hReceived.announced]
      rfl

/- Every step of the services keeps both tables in step. -/
theorem Received.delivery
    (hReceived : Received system.db)
    (hAdmits : system.db.Admits draw)
    (hDelivery : DeliveryStep config system call draw next) :
    Received next.db := by
  cases hDelivery with
  | announce hAnnounces => exact hReceived.announces hAnnounces
  | receive delivery _ hDb =>
      rw [hDb]
      exact hReceived.receive delivery hAdmits.2.2.2.2.2.1
  | dispatch outboxEventId webhookEventId plan db _ _ hBody
      hDb =>
      rw [hDb]
      have hMarked :
          Received db →
            Received (markProcessed db outboxEventId) :=
        fun hDone => hDone.congr rfl rfl
          (setOutboxStatus_unmarked _ _ _)
      apply hMarked
      rcases dispatchEffect_deliveries hBody with
        ⟨_, rfl⟩ | ⟨_, base, status, _, hAnnounces, rfl⟩
      · exact hReceived
      · exact (hReceived.announces hAnnounces).congr
          (setProcessingStatus_names _ _ _)
          (setProcessingStatus_ids _ _ _) rfl

theorem received_step
    {desk next : Desk}
    {label : DeskLabel}
    (hReceived : Received desk.system.db)
    (hStep : deskStep config desk label = some next) :
    Received next.system.db := by
  have hMarked :
      ∀ outboxEventId status,
        Received (setOutboxStatus desk.system.db
          outboxEventId status) :=
    fun outboxEventId status =>
      hReceived.congr rfl rfl
        (setOutboxStatus_unmarked _ _ _)
  cases deskStep_effect hStep with
  | service label hService =>
      rcases step_effect hService with ⟨hAdmits, hEffect⟩
      exact hReceived.delivery hAdmits hEffect.deliveryStep
  | fail call text now jitter outboxEventId webhookEventId
      plan db _ hDb hSystem =>
      rw [hSystem, System.commit_db]
      rcases hDb with rfl | rfl
      · exact hReceived
      · exact hMarked _ _
  | flush operator now outboxEventId loaded _ _ hSystem =>
      rw [hSystem]
      exact hMarked _ _
  | read operator outboxEventId hSystem =>
      rw [hSystem]
      exact hReceived
  | kill operator hSystem =>
      rw [hSystem]
      exact hReceived

end PayGuard

------------------------------------------------------------
-- Plans
------------------------------------------------------------

namespace PayGuard

/- The outbox row refers to the webhook. -/
def Database.Refers
    (db : Database)
    (outboxEventId webhookEventId : Uuid) : Prop :=
  ∃ row ∈ db.outbox,
    row.id = outboxEventId ∧
      row.webhook = some webhookEventId

/- The webhook is on file, and nothing was done about it. -/
def Database.Unhandled
    (db : Database)
    (webhookEventId : Uuid) : Prop :=
  ∃ event ∈ db.webhooks,
    event.id = webhookEventId ∧
      event.processingStatus = .received

/-
  A dispatch that is going to act has the outbox row of its
  webhook, and the webhook has not been handled.
-/
def Planned (system : System) : Prop :=
  ∀ call outboxEventId webhookEventId plan,
    (system.calls call).dispatched =
        some (outboxEventId, webhookEventId, plan) →
      plan ≠ .skip →
        system.db.Refers outboxEventId webhookEventId ∧
          system.db.Unhandled webhookEventId

theorem planned_initial : Planned {} := by
  intro call outboxEventId webhookEventId plan hDispatched
  cases hDispatched

variable {config : Config}
variable {system next : System}
variable {call other : CallId}
variable {draw : Draw}
variable {db db' : Database}
variable {outboxEventId webhookEventId : Uuid}
variable {plan : WebhookPlan}

theorem Database.Refers.set
    {otherEventId : Uuid}
    (status : OutboxStatus)
    (hRefers : db.Refers outboxEventId webhookEventId) :
    (setOutboxStatus db otherEventId status).Refers
      outboxEventId webhookEventId := by
  rcases hRefers with ⟨row, hRow, hId, hWebhook⟩
  refine ⟨_, Table.mem_updateWhere.mpr ⟨row, hRow, rfl⟩,
    ?_, ?_⟩
  · split <;> exact hId
  · split <;> exact hWebhook

theorem DeliveryStep.refers
    (hDelivery : DeliveryStep config system call draw next)
    (hRefers :
      system.db.Refers outboxEventId webhookEventId) :
    next.db.Refers outboxEventId webhookEventId := by
  rcases hDelivery.outbox with ⟨db, hAdded, hMarked⟩
  have hDb : db.Refers outboxEventId webhookEventId := by
    rcases hRefers with ⟨row, hRow, hColumns⟩
    refine ⟨row, ?_, hColumns⟩
    rcases hAdded with hSame | ⟨added, _, _, hOutbox⟩
    · rw [hSame]
      exact hRow
    · rw [hOutbox]
      exact List.mem_append_left _ hRow
  unfold Database.Refers
  rcases hMarked with hSame | ⟨markedId, _, _, _, hOutbox⟩
  · rw [hSame]
    exact hDb
  · rw [hOutbox]
    exact hDb.set .processed

/- Only a dispatch of the webhook itself handles it. -/
theorem DeliveryStep.unhandled
    (hDelivery : DeliveryStep config system call draw next)
    (hUnhandled : system.db.Unhandled webhookEventId)
    (hOther :
      ∀ outboxEventId otherWebhookId plan,
        (system.calls call).dispatched =
            some (outboxEventId, otherWebhookId, plan) →
          plan ≠ .skip →
            webhookEventId ≠ otherWebhookId) :
    next.db.Unhandled webhookEventId := by
  rcases hUnhandled with ⟨event, hEvent, hId, hStatus⟩
  cases hDelivery with
  | announce hAnnounces =>
      refine ⟨event, ?_, hId, hStatus⟩
      rw [hAnnounces.webhooks]
      exact hEvent
  | receive delivery _ hDb =>
      refine ⟨event, ?_, hId, hStatus⟩
      rw [hDb]
      unfold receiveWebhook
      split
      · exact hEvent
      · exact List.mem_append_left _ hEvent
  | dispatch outboxEventId otherWebhookId plan db hCall _
      hBody hDb =>
      refine ⟨event, ?_, hId, hStatus⟩
      rw [hDb]
      rcases dispatchEffect_deliveries hBody with
        ⟨_, rfl⟩ | ⟨hPlan, base, status, _, hAnnounces, rfl⟩
      · exact hEvent
      · have hNe :=
          hOther outboxEventId otherWebhookId plan
            (by rw [hCall]; rfl) hPlan
        refine Table.mem_updateWhere_of_not_selected ?_ ?_
        · rw [hAnnounces.webhooks]
          exact hEvent
        · simpa [hId] using hNe

/- Two dispatches that act are about different webhooks. -/
theorem Planned.apart
    {otherEventId otherWebhookId : Uuid}
    {otherPlan : WebhookPlan}
    (hPlanned : Planned system)
    (hReceived : Received system.db)
    (hOrderly : Orderly system)
    (hOther : other ≠ call)
    (hCall :
      (system.calls call).dispatched =
        some (outboxEventId, webhookEventId, plan))
    (hPlan : plan ≠ .skip)
    (hDispatched :
      (system.calls other).dispatched =
        some (otherEventId, otherWebhookId, otherPlan))
    (hOtherPlan : otherPlan ≠ .skip) :
    otherWebhookId ≠ webhookEventId := by
  intro hSame
  subst hSame
  rcases hPlanned call _ _ _ hCall hPlan with
    ⟨⟨row, hRow, hRowId, hRowWebhook⟩,
      ⟨event, hEvent, hId, _⟩⟩
  rcases hPlanned other _ _ _ hDispatched hOtherPlan with
    ⟨⟨row', hRow', hRowId', hRowWebhook'⟩, _⟩
  rw [← hId] at hRowWebhook hRowWebhook'
  have hOne :=
    hReceived.row_eq hEvent hRow hRow' hRowWebhook
      hRowWebhook'
  apply hOrderly.apart hOther hCall hDispatched
  rw [← hRowId, ← hRowId', hOne]

/- A plan to act has seen its webhook in `RECEIVED`. -/
theorem dispatchPlan_acts
    {event : OutboxEvent}
    {pick : Uuid}
    (hPlan : (dispatchPlan db event pick).2 ≠ .skip) :
    event.webhook = some (dispatchPlan db event pick).1 ∧
      db.Unhandled (dispatchPlan db event pick).1 := by
  unfold dispatchPlan at hPlan ⊢
  cases hPayload : event.payload with
  | payment paymentId status =>
      simp only [hPayload] at hPlan
      exact absurd rfl hPlan
  | webhook webhookEventId =>
      simp only [hPayload] at hPlan ⊢
      by_cases hType : event.eventType = "webhook.received"
      · rw [if_pos hType] at hPlan ⊢
        refine ⟨by simp [OutboxEvent.webhook, hPayload], ?_⟩
        unfold planWebhookEvent at hPlan
        split at hPlan
        · exact absurd rfl hPlan
        · rename_i webhook hFind
          split at hPlan
          · exact absurd rfl hPlan
          · rename_i hStatus
            exact ⟨webhook, List.mem_of_find?_eq_some hFind,
              by simpa using List.find?_some hFind,
              by simpa using hStatus⟩
      · rw [if_neg hType] at hPlan
        exact absurd rfl hPlan

theorem planned_service
    {label : Label}
    (hPlanned : Planned system)
    (hReceived : Received system.db)
    (hOrderly : Orderly system)
    (hStep : step config system label = some next) :
    Planned next := by
  intro other outboxEventId webhookEventId plan hDispatched
    hPlan
  have hEffect := (step_effect hStep).2
  by_cases hOther : other = label.call
  · subst hOther
    rcases step_dispatching hStep with
      ⟨event, pick, _, hBegins⟩ | ⟨_, hUndispatched⟩
    · rw [hBegins.next] at hDispatched ⊢
      simp only [System.become_calls_self, Call.dispatched,
        Option.some.injEq, Prod.mk.injEq] at hDispatched
      rcases hDispatched with ⟨rfl, rfl, rfl⟩
      have hActs := dispatchPlan_acts hPlan
      exact ⟨⟨event, hBegins.stored, rfl, hActs.1⟩,
        hActs.2⟩
    · rw [hUndispatched.position] at hDispatched
      cases hDispatched
  · rw [hEffect.frame.calls other hOther] at hDispatched
    have hOld := hPlanned other _ _ _ hDispatched hPlan
    refine ⟨hEffect.deliveryStep.refers hOld.1,
      hEffect.deliveryStep.unhandled hOld.2 ?_⟩
    intro _ _ _ hCall hActs
    exact hPlanned.apart hReceived hOrderly hOther hCall
      hActs hDispatched hPlan

theorem planned_step
    {desk next : Desk}
    {label : DeskLabel}
    (hPlanned : Planned desk.system)
    (hReceived : Received desk.system.db)
    (hOrderly : Orderly desk.system)
    (hStep : deskStep config desk label = some next) :
    Planned next.system := by
  cases deskStep_effect hStep with
  | service label hService =>
      exact planned_service hPlanned hReceived hOrderly
        hService
  | fail call text now jitter outboxEventId webhookEventId
      plan db _ hDb hSystem =>
      rw [hSystem]
      intro other _ _ _ hDispatched hPlan
      by_cases hOther : other = call
      · subst hOther
        rw [System.commit_calls_self] at hDispatched
        cases hDispatched
      · have hCalls :
            ((desk.system.release call).commit call db
                (.done .dispatched)).calls other =
              desk.system.calls other :=
          Function.update_of_ne hOther _ _
        rw [hCalls] at hDispatched
        have hOld := hPlanned other _ _ _ hDispatched hPlan
        rw [System.commit_db]
        rcases hDb with rfl | rfl
        · exact hOld
        · exact ⟨hOld.1.set _, hOld.2⟩
  | flush operator now outboxEventId loaded _ _ hSystem =>
      rw [hSystem]
      intro call _ _ _ hDispatched hPlan
      have hOld := hPlanned call _ _ _ hDispatched hPlan
      exact ⟨hOld.1.set _, hOld.2⟩
  | read operator outboxEventId hSystem =>
      rw [hSystem]
      exact hPlanned
  | kill operator hSystem =>
      rw [hSystem]
      exact hPlanned

end PayGuard

------------------------------------------------------------
-- What A Dispatch Commits
------------------------------------------------------------

namespace PayGuard

/- The webhook whose dispatch a label is about to commit. -/
def Desk.committed
    (desk : Desk) :
    DeskLabel → Option Uuid
| .service label =>
    match label.action, desk.system.calls label.call with
    | .dispatchFinish, .dispatchOpen _ webhookEventId _ =>
        some webhookEventId
    | _, _ => none
| _ => none

/- The label commits a dispatch of the named event. -/
def Desk.commits
    (desk : Desk)
    (label : DeskLabel)
    (name : String × String) : Bool :=
  desk.system.db.webhooks.any (fun event =>
    event.name = name &&
      desk.committed label = some event.id)

/- The named event is on file with this status. -/
def Database.HasStatus
    (db : Database)
    (name : String × String)
    (status : ProcessingStatus) : Prop :=
  ∃ event ∈ db.webhooks,
    event.name = name ∧ event.processingStatus = status

instance
    (db : Database)
    (name : String × String)
    (status : ProcessingStatus) :
    Decidable (db.HasStatus name status) :=
  inferInstanceAs (Decidable (∃ event ∈ db.webhooks, _))

/- The named event has left `RECEIVED`. -/
def Database.Handled
    (db : Database)
    (name : String × String) : Prop :=
  ∃ event ∈ db.webhooks,
    event.name = name ∧ event.processingStatus ≠ .received

instance
    (db : Database)
    (name : String × String) :
    Decidable (db.Handled name) :=
  inferInstanceAs (Decidable (∃ event ∈ db.webhooks, _))

/- One step takes the named event out of `RECEIVED`. -/
def leavesReceived
    (name : String × String)
    (desk : Desk)
    (_ : DeskLabel)
    (next : Desk) : Nat :=
  if desk.system.db.HasStatus name .received ∧
      next.system.db.Handled name then
    1
  else
    0

/- The payment transitions a dispatch of the event commits. -/
def transitionsBy
    (name : String × String)
    (desk : Desk)
    (label : DeskLabel)
    (next : Desk) : Nat :=
  if desk.commits label name then
    next.system.db.events.length -
      desk.system.db.events.length
  else
    0

/- The ledger entries a dispatch of the event commits. -/
def entriesBy
    (name : String × String)
    (desk : Desk)
    (label : DeskLabel)
    (next : Desk) : Nat :=
  if desk.commits label name then
    next.system.db.ledger.length -
      desk.system.db.ledger.length
  else
    0

/- Effects of the event commit with its new status. -/
def CommitsTogether
    (config : Config)
    (name : String × String)
    (desk : Desk)
    (label : DeskLabel) : Prop :=
  ∀ next,
    deskStep config desk label = some next →
      desk.commits label name = true →
        (next.system.db.events ≠ desk.system.db.events ∨
            next.system.db.ledger ≠
              desk.system.db.ledger) →
          desk.system.db.HasStatus name .received ∧
            next.system.db.HasStatus name .processed

variable {config : Config}
variable {system next : System}
variable {call : CallId}
variable {draw : Draw}
variable {db db' : Database}
variable {name : String × String}
variable {webhookEventId : Uuid}
variable {plan : WebhookPlan}

/-
  A dispatch moves one payment, books at most one pair and
  marks its webhook as processed, or it does none of these.
-/
theorem dispatchEffect_effects
    (hBody :
      dispatchEffect config db webhookEventId plan draw =
        .ok db') :
    (db'.events = db.events ∧ db'.ledger = db.ledger) ∨
      (plan ≠ .skip ∧
        db'.events.length = db.events.length + 1 ∧
        db'.ledger.length ≤ db.ledger.length + 2 ∧
        ∃ base,
          base.webhooks = db.webhooks ∧
            db' =
              setProcessingStatus base webhookEventId
                .processed) := by
  unfold dispatchEffect at hBody
  cases plan with
  | skip =>
      cases hBody
      exact .inl ⟨rfl, rfl⟩
  | ignore =>
      cases hBody
      exact .inl ⟨rfl, rfl⟩
  | outcome targetStatus intent =>
      unfold handlePaymentOutcome at hBody
      simp only at hBody
      split at hBody
      · cases hBody
      · split at hBody
        · cases hBody
          exact .inl ⟨rfl, rfl⟩
        · split at hBody
          · cases hBody
            exact .inl ⟨rfl, rfl⟩
          · split at hBody
            · cases hBody
            · rename_i base moved hApply
              cases hBody
              rcases applyTransition_eq_ok.mp hApply with
                ⟨_, rfl, _⟩
              refine .inr ⟨by simp, ?_, ?_, _, ?_, rfl⟩
              · unfold settleByWebhook
                split <;>
                  simp [setProcessingStatus,
                    Database.recordTransition,
                    recordPaymentSettled, recordPair]
              · unfold settleByWebhook
                split <;>
                  simp [setProcessingStatus,
                    Database.recordTransition,
                    recordPaymentSettled, recordPair]
              · unfold settleByWebhook
                split <;> rfl

/- What a dispatch that ends leaves in the database. -/
theorem dispatchFinish_commits
    {label : Label}
    {outboxEventId : Uuid}
    (hAction : label.action = .dispatchFinish)
    (hCall :
      system.calls label.call =
        .dispatchOpen outboxEventId webhookEventId plan)
    (hStep : step config system label = some next) :
    next.db = system.db ∨
      ∃ db,
        dispatchEffect config system.db webhookEventId plan
            label.draw = .ok db ∧
          next.db = markProcessed db outboxEventId := by
  unfold step at hStep
  split at hStep
  · rw [hAction] at hStep
    simp only [callStep, stepDispatchFinish, hCall] at hStep
    split at hStep
    · split at hStep
      · cases hStep
        exact .inl rfl
      · rename_i db hBody
        cases hStep
        exact .inr ⟨db, hBody, rfl⟩
    · cases hStep
  · cases hStep

end PayGuard

------------------------------------------------------------
-- One Step
------------------------------------------------------------

namespace PayGuard

/- What every step of a desk keeps true of its webhooks. -/
structure Delivered (desk : Desk) : Prop where
  received : Received desk.system.db
  orderly : Orderly desk.system
  planned : Planned desk.system

theorem delivered_initial : Delivered {} where
  received := received_initial
  orderly := orderly_initial
  planned := planned_initial

variable {config : Config}
variable {desk next : Desk}
variable {label : DeskLabel}
variable {db : Database}
variable {name : String × String}

theorem delivered_step
    (hDelivered : Delivered desk)
    (hStep : deskStep config desk label = some next) :
    Delivered next where
  received := received_step hDelivered.received hStep
  orderly := orderly_step hDelivered.orderly hStep
  planned :=
    planned_step hDelivered.planned hDelivered.received
      hDelivered.orderly hStep

/- Two rows of one name are the same row. -/
theorem Received.event_eq
    {event event' : WebhookEvent}
    (hReceived : Received db)
    (hEvent : event ∈ db.webhooks)
    (hEvent' : event' ∈ db.webhooks)
    (hName : event.name = event'.name) :
    event = event' :=
  List.inj_on_of_nodup_map hReceived.names hEvent hEvent'
    hName

theorem Received.not_handled
    (hReceived : Received db)
    (hStatus : db.HasStatus name .received) :
    ¬ db.Handled name := by
  rintro ⟨handled, hHandled, hName, hLeft⟩
  rcases hStatus with ⟨event, hEvent, hEventName, hReceives⟩
  have hSame :=
    hReceived.event_eq hHandled hEvent
      (hName.trans hEventName.symm)
  rw [hSame] at hLeft
  exact hLeft hReceives

/- An event that was handled stays handled. -/
theorem DeliveryStep.handled
    {system next : System}
    {call : CallId}
    {draw : Draw}
    (hDelivery : DeliveryStep config system call draw next)
    (hHandled : system.db.Handled name) :
    next.db.Handled name := by
  rcases hHandled with ⟨event, hEvent, hName, hStatus⟩
  cases hDelivery with
  | announce hAnnounces =>
      refine ⟨event, ?_, hName, hStatus⟩
      rw [hAnnounces.webhooks]
      exact hEvent
  | receive delivery _ hDb =>
      refine ⟨event, ?_, hName, hStatus⟩
      rw [hDb]
      unfold receiveWebhook
      split
      · exact hEvent
      · exact List.mem_append_left _ hEvent
  | dispatch outboxEventId webhookEventId plan db _ _ hBody
      hDb =>
      rw [hDb]
      rcases dispatchEffect_deliveries hBody with
        ⟨_, rfl⟩ | ⟨_, base, status, hLeft, hAnnounces, rfl⟩
      · exact ⟨event, hEvent, hName, hStatus⟩
      · refine ⟨_, Table.mem_updateWhere.mpr ⟨event, ?_,
          rfl⟩, ?_, ?_⟩
        · rw [hAnnounces.webhooks]
          exact hEvent
        · split <;> exact hName
        · split
          · exact hLeft
          · exact hStatus

theorem handled_step
    (hHandled : desk.system.db.Handled name)
    (hStep : deskStep config desk label = some next) :
    next.system.db.Handled name := by
  cases deskStep_effect hStep with
  | service label hService =>
      exact (step_effect hService).2.deliveryStep.handled
        hHandled
  | fail call text now jitter outboxEventId webhookEventId
      plan db _ hDb hSystem =>
      rw [hSystem, System.commit_db]
      rcases hDb with rfl | rfl
      · exact hHandled
      · exact hHandled
  | flush operator now outboxEventId loaded _ _ hSystem =>
      rw [hSystem]
      exact hHandled
  | read operator outboxEventId hSystem =>
      rw [hSystem]
      exact hHandled
  | kill operator hSystem =>
      rw [hSystem]
      exact hHandled

/- Which dispatch a committing label belongs to. -/
theorem Desk.commits_eq_true
    (hCommits : desk.commits label name = true) :
    ∃ event ∈ desk.system.db.webhooks,
      event.name = name ∧
        ∃ service outboxEventId plan,
          label = .service service ∧
            service.action = .dispatchFinish ∧
            desk.system.calls service.call =
              .dispatchOpen outboxEventId event.id plan := by
  unfold Desk.commits at hCommits
  rw [List.any_eq_true] at hCommits
  rcases hCommits with ⟨event, hEvent, hBoth⟩
  rw [Bool.and_eq_true, decide_eq_true_iff,
    decide_eq_true_iff] at hBoth
  refine ⟨event, hEvent, hBoth.1, ?_⟩
  have hCommitted := hBoth.2
  unfold Desk.committed at hCommitted
  split at hCommitted
  · rename_i service
    split at hCommitted
    · rename_i outboxEventId webhookEventId plan hAction
        hCall
      cases hCommitted
      exact ⟨service, outboxEventId, plan, rfl, hAction,
        hCall⟩
    · cases hCommitted
  · cases hCommitted

/- A committed dispatch acts on an event it found received. -/
theorem Delivered.effects
    (hDelivered : Delivered desk)
    (hCommits : desk.commits label name = true)
    (hStep : deskStep config desk label = some next) :
    (next.system.db.events = desk.system.db.events ∧
        next.system.db.ledger = desk.system.db.ledger) ∨
      (desk.system.db.HasStatus name .received ∧
        next.system.db.HasStatus name .processed ∧
        next.system.db.events.length =
          desk.system.db.events.length + 1 ∧
        next.system.db.ledger.length ≤
          desk.system.db.ledger.length + 2) := by
  rcases desk.commits_eq_true hCommits with
    ⟨event, hEvent, hName, service, outboxEventId, plan,
      rfl, hAction, hCall⟩
  cases deskStep_effect hStep with
  | service _ hService =>
      rcases dispatchFinish_commits hAction hCall hService
        with hSame | ⟨db, hBody, hDb⟩
      · rw [hSame]
        exact .inl ⟨rfl, rfl⟩
      · rw [hDb]
        rcases dispatchEffect_effects hBody with
          hNothing | ⟨hPlan, hEvents, hLedger, base,
            hWebhooks, rfl⟩
        · exact .inl hNothing
        · refine .inr ⟨?_, ?_, hEvents, hLedger⟩
          · have hUnhandled :=
              (hDelivered.planned service.call outboxEventId
                event.id plan (by rw [hCall]; rfl)
                hPlan).2
            rcases hUnhandled with
              ⟨found, hFound, hId, hStatus⟩
            have hSame : found = event :=
              List.inj_on_of_nodup_map
                hDelivered.received.ids hFound hEvent hId
            rw [hSame] at hStatus
            exact ⟨event, hEvent, hName, hStatus⟩
          · refine ⟨_, Table.mem_updateWhere.mpr ⟨event, ?_,
              rfl⟩, ?_, ?_⟩
            · rw [hWebhooks]
              exact hEvent
            · split <;> exact hName
            · simp

------------------------------------------------------------
-- Every Run
------------------------------------------------------------

/- An event that was not handled yet may still take effect. -/
def Desk.outstanding
    (name : String × String)
    (desk : Desk) : Nat :=
  if desk.system.db.Handled name then 0 else 1

theorem outstanding_le
    (name : String × String)
    (hStep : deskStep config desk label = some next) :
    next.outstanding name ≤ desk.outstanding name := by
  unfold Desk.outstanding
  by_cases hHandled : desk.system.db.Handled name
  · rw [if_pos (handled_step hHandled hStep)]
    exact Nat.zero_le _
  · rw [if_neg hHandled]
    split <;> omega

/- Leaving `RECEIVED` uses up what was outstanding. -/
theorem outstanding_spent
    (hDelivered : Delivered desk)
    (hStatus : desk.system.db.HasStatus name .received)
    (hHandled : next.system.db.Handled name) :
    next.outstanding name + 1 = desk.outstanding name := by
  unfold Desk.outstanding
  rw [if_pos hHandled,
    if_neg (hDelivered.received.not_handled hStatus)]

theorem leavesReceived_paid
    (hDelivered : Delivered desk)
    (hStep : deskStep config desk label = some next) :
    leavesReceived name desk label next +
        next.outstanding name ≤
      desk.outstanding name := by
  unfold leavesReceived
  split
  · rename_i hLeaves
    have hSpent :=
      outstanding_spent hDelivered hLeaves.1 hLeaves.2
    omega
  · have hLe := outstanding_le name hStep
    omega

/- A dispatch with an effect is paid for by its event. -/
theorem effects_paid
    (hDelivered : Delivered desk)
    (hStep : deskStep config desk label = some next) :
    transitionsBy name desk label next +
          next.outstanding name ≤
        desk.outstanding name ∧
      entriesBy name desk label next +
          2 * next.outstanding name ≤
        2 * desk.outstanding name := by
  have hLe := outstanding_le name hStep
  unfold transitionsBy entriesBy
  split
  · rename_i hCommits
    rcases hDelivered.effects hCommits hStep with
      ⟨hEvents, hLedger⟩ |
        ⟨hBefore, ⟨event, hEvent, hName, hAfter⟩, hEvents,
          hLedger⟩
    · rw [hEvents, hLedger]
      omega
    · have hHandled : next.system.db.Handled name :=
        ⟨event, hEvent, hName, by rw [hAfter]; simp⟩
      have hSpent :=
        outstanding_spent hDelivered hBefore hHandled
      omega
  · omega

/- What holds of one provider event in a run. -/
structure TakesEffectOnce
    (config : Config)
    (labels : List DeskLabel)
    (desk : Desk)
    (name : String × String) : Prop where
  oneRow :
    (desk.system.db.webhooks.filter (fun event =>
      event.name = name)).length ≤ 1
  oneReceipt :
    ∀ event ∈ desk.system.db.webhooks,
      event.name = name →
        (desk.system.db.receipts event.id).length = 1
  leavesOnce :
    Lts.total (deskStep config) (leavesReceived name) {}
      labels ≤ 1
  oneTransition :
    Lts.total (deskStep config) (transitionsBy name) {}
      labels ≤ 1
  onePair :
    Lts.total (deskStep config) (entriesBy name) {}
      labels ≤ 2
  together :
    Lts.Meets (deskStep config)
      (CommitsTogether config name) {} labels

/-
  However often a provider delivers an event, whatever the
  workers, the operators and the services do, the event takes
  effect at most once, together with its new status.
-/
theorem webhook_takes_effect_once
    (config : Config)
    (labels : List DeskLabel)
    (desk : Desk)
    (name : String × String)
    (hRun :
      Lts.exec (deskStep config) {} labels = some desk) :
    TakesEffectOnce config labels desk name := by
  have hKeep :
      ∀ (desk : Desk) (label : DeskLabel) (next : Desk),
        Delivered desk →
          deskStep config desk label = some next →
            Delivered next :=
    fun _ _ _ => delivered_step
  have hDelivered :=
    Lts.invariant_of_exec hKeep delivered_initial hRun
  have hAny :
      Lts.Meets (deskStep config) (fun _ _ => True) {}
        labels :=
    Lts.meets_of_forall (fun _ _ _ => trivial)
  have hLeaves :=
    Lts.total_add_le (Desk.outstanding name) hKeep
      (fun _ _ _ hDelivered hStep =>
        leavesReceived_paid hDelivered hStep)
      delivered_initial hRun
  have hTransitions :=
    Lts.total_add_le (Desk.outstanding name) hKeep
      (fun _ _ _ hDelivered hStep =>
        (effects_paid hDelivered hStep).1)
      delivered_initial hRun
  have hEntries :=
    Lts.total_add_le
      (fun desk => 2 * Desk.outstanding name desk) hKeep
      (fun _ _ _ hDelivered hStep =>
        (effects_paid hDelivered hStep).2)
      delivered_initial hRun
  refine
    { oneRow := ?_
      oneReceipt := ?_
      leavesOnce := ?_
      oneTransition := ?_
      onePair := ?_
      together := ?_ }
  · exact hDelivered.received.oneRow name
  · intro event hEvent _
    exact hDelivered.received.oneReceipt hEvent
  · exact (Nat.le_add_right _ _).trans hLeaves
  · exact (Nat.le_add_right _ _).trans hTransitions
  · exact (Nat.le_add_right _ _).trans hEntries
  · refine hAny.imp
      (fun desk label next hDelivered _ hStep =>
        hKeep desk label next hDelivered hStep)
      ?_ delivered_initial
    intro desk label hDelivered _ next hStep hCommits hEffect
    rcases hDelivered.effects hCommits hStep with
      ⟨hEvents, hLedger⟩ | ⟨hBefore, hAfter, _⟩
    · rcases hEffect with hMoved | hBooked
      · exact absurd hEvents hMoved
      · exact absurd hLedger hBooked
    · exact ⟨hBefore, hAfter⟩

def settledDelivery : WebhookDelivery where
  providerName := "mock"
  providerEventId := "evt"
  eventType := "payment.succeeded"
  providerTransactionId := some "txn"

/-
  The event is delivered twice.  The first worker dies, the
  dispatch of the second one raises, the third one commits.
-/
def deliveredRun : List DeskLabel :=
  authorizedRun.map .service ++
    [.service ⟨1, .receiveWebhook settledDelivery,
        .numbered 6⟩,
      .service ⟨2, .receiveWebhook settledDelivery,
        .numbered 7⟩,
      .service ⟨3, .dispatchBegin 6 1, .numbered 8⟩,
      .service ⟨3, .die, .numbered 9⟩,
      .service ⟨4, .dispatchBegin 6 1, .numbered 10⟩,
      .fail 4 "unreachable" 0 0,
      .service ⟨5, .dispatchBegin 6 1, .numbered 11⟩,
      .service ⟨5, .dispatchFinish, .numbered 12⟩]

theorem webhook_takes_effect_once_delivered :
    ∃ desk,
      Lts.exec (deskStep { sha256 := spellOut }) {}
          deliveredRun = some desk ∧
        desk.system.db.HasStatus ("mock", "evt")
          .processed ∧
        desk.system.db.ledger.length = 2 ∧
        TakesEffectOnce { sha256 := spellOut } deliveredRun
          desk ("mock", "evt") := by
  have hRun :
      (Lts.exec (deskStep { sha256 := spellOut }) {}
        deliveredRun).map (fun desk =>
          (decide (desk.system.db.HasStatus ("mock", "evt")
              .processed),
            desk.system.db.ledger.length)) =
        some (true, 2) := by
    decide +kernel
  rcases Option.map_eq_some_iff.mp hRun with
    ⟨desk, hExec, hBoth⟩
  rw [Prod.mk.injEq] at hBoth
  exact ⟨desk, hExec, of_decide_eq_true hBoth.1, hBoth.2,
    webhook_takes_effect_once _ _ _ _ hExec⟩

end PayGuard

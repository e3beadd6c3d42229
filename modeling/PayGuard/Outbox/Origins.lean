import PayGuard.Outbox.Worker

/-
  Outbox rows and their locks across a step.

  Behind every row of the outbox there is the row it was
  before, unless it is new, and only the commit of its own
  dispatch marks a row as processed.  A row is locked by
  nothing but the dispatch of this row.

  Key definitions include:
    * `RowOrigin`
    * `LocksDispatching`

  Key theorems include:
    * `DeliveryStep.rowOrigin`
    * `dispatched_of_commit`
    * `locksDispatching_step`
-/

------------------------------------------------------------
-- Origins Of Rows
------------------------------------------------------------

namespace PayGuard

/- Where a row comes from that is there after a step. -/
inductive RowOrigin
    (config : Config)
    (system : System)
    (call : CallId)
    (draw : Draw)
    (next : System)
    (row : OutboxEvent) : Prop where
| added
    (hId : row.id = draw.outbox)
    (hStatus : row.status = .pending)
| kept
    (old : OutboxEvent)
    (hOld : old ∈ system.db.outbox)
    (hId : row.id = old.id)
    (hPayload : row.payload = old.payload)
    (hStatus : row.status = old.status)
| marked
    (old : OutboxEvent)
    (webhookEventId : Uuid)
    (plan : WebhookPlan)
    (db : Database)
    (hOld : old ∈ system.db.outbox)
    (hId : row.id = old.id)
    (hPayload : row.payload = old.payload)
    (hStatus : row.status = .processed)
    (hDispatched :
      (system.calls call).dispatched =
        some (old.id, webhookEventId, plan))
    (hBody :
      dispatchEffect config system.db webhookEventId plan
        draw = .ok db)
    (hDb : next.db = markProcessed db old.id)

variable {config : Config}
variable {system next : System}
variable {call : CallId}
variable {draw : Draw}
variable {db db' : Database}
variable {row : OutboxEvent}
variable {outboxEventId webhookEventId : Uuid}
variable {plan : WebhookPlan}

theorem Announces.mem_outbox
    (hAnnounces : Announces db draw db')
    (hRow : row ∈ db'.outbox) :
    row ∈ db.outbox ∨
      row.id = draw.outbox ∧ row.status = .pending := by
  cases hAnnounces with
  | nothing hSame =>
      rw [hSame.outbox] at hRow
      exact .inl hRow
  | one event hEvent _ hOutbox =>
      rw [hOutbox, List.mem_append,
        List.mem_singleton] at hRow
      rcases hRow with hOld | rfl
      · exact .inl hOld
      · exact .inr ⟨hEvent.id, hEvent.status⟩

theorem mem_receiveWebhook_outbox
    {delivery : WebhookDelivery}
    (hRow : row ∈ (receiveWebhook db delivery draw).outbox) :
    row ∈ db.outbox ∨
      row.id = draw.outbox ∧ row.status = .pending := by
  unfold receiveWebhook at hRow
  split at hRow
  · exact .inl hRow
  · rcases List.mem_append.mp hRow with hOld | hNew
    · exact .inl hOld
    · rw [List.mem_singleton] at hNew
      subst hNew
      exact .inr ⟨rfl, rfl⟩

theorem RowOrigin.of_mem
    (hRow :
      row ∈ system.db.outbox ∨
        row.id = draw.outbox ∧ row.status = .pending) :
    RowOrigin config system call draw next row := by
  rcases hRow with hOld | ⟨hId, hStatus⟩
  · exact .kept row hOld rfl rfl rfl
  · exact .added hId hStatus

theorem DeliveryStep.rowOrigin
    (hDelivery : DeliveryStep config system call draw next)
    (hOrderly : Orderly system)
    (hAdmits : system.db.Admits draw)
    (hRow : row ∈ next.db.outbox) :
    RowOrigin config system call draw next row := by
  cases hDelivery with
  | announce hAnnounces =>
      exact .of_mem (hAnnounces.mem_outbox hRow)
  | receive delivery _ hDb =>
      rw [hDb] at hRow
      exact .of_mem (mem_receiveWebhook_outbox hRow)
  | dispatch outboxEventId webhookEventId plan db hCall _
      hBody hDb =>
      have hDispatched :
          (system.calls call).dispatched =
            some (outboxEventId, webhookEventId, plan) := by
        rw [hCall]
        rfl
      have hStored :=
        (hOrderly.waiting call _ _ _ hDispatched).stored
      have hBefore :
          ∀ old ∈ db.outbox,
            old ∈ system.db.outbox ∨
              old.id = draw.outbox ∧
                old.status = .pending := by
        intro old hOld
        rcases dispatchEffect_deliveries hBody with
          ⟨_, rfl⟩ | ⟨_, base, status, _, hAnnounces, rfl⟩
        · exact .inl hOld
        · exact hAnnounces.mem_outbox hOld
      rw [hDb] at hRow
      rcases Table.mem_updateWhere.mp hRow with
        ⟨old, hOld, rfl⟩
      by_cases hId : old.id = outboxEventId
      · rcases hBefore old hOld with hOld | ⟨hNew, _⟩
        · rw [← hId] at hDispatched hDb
          refine .marked old webhookEventId plan db hOld ?_
            ?_ ?_ hDispatched hBody hDb
          · split <;> rfl
          · split <;> rfl
          · rw [if_pos (by simpa using hId)]
        · rw [← hId, hNew] at hStored
          exact absurd hStored hAdmits.2.2.2.2.1
      · rw [if_neg (by simpa using hId)]
        exact .of_mem (hBefore old hOld)

end PayGuard

------------------------------------------------------------
-- Locked Rows
------------------------------------------------------------

namespace PayGuard

/- Only the dispatch of a row keeps it locked. -/
def LocksDispatching (system : System) : Prop :=
  ∀ outboxEventId call,
    system.outboxLock outboxEventId = some call →
      ∃ webhookEventId plan,
        (system.calls call).dispatched =
          some (outboxEventId, webhookEventId, plan)

theorem locksDispatching_initial : LocksDispatching {} := by
  intro outboxEventId call hLock
  cases hLock

variable {config : Config}
variable {system next : System}
variable {call other : CallId}
variable {label : Label}
variable {db : Database}
variable {reply : Reply}
variable {outboxEventId : Uuid}
variable {dispatched : Uuid × Uuid × WebhookPlan}

/- A call that commits its last transaction dispatches no more. -/
theorem dispatched_of_commit
    (hDispatched :
      (((system.release call).commit call db
          (.done reply)).calls other).dispatched =
        some dispatched) :
    (system.calls other).dispatched = some dispatched := by
  by_cases hOther : other = call
  · rw [hOther, System.commit_calls_self] at hDispatched
    cases hDispatched
  · have hSame :
        ((system.release call).commit call db
            (.done reply)).calls other =
          system.calls other :=
      Function.update_of_ne hOther _ _
    rwa [hSame] at hDispatched

/- A dispatch ends with the locks of its call. -/
theorem outboxLock_of_dispatched
    (hDispatched :
      (system.calls label.call).dispatched =
        some dispatched)
    (hStep : step config system label = some next) :
    next.outboxLock =
      (system.release label.call).outboxLock := by
  unfold step at hStep
  split at hStep
  · cases hCall : system.calls label.call with
    | dispatchOpen outboxEventId webhookEventId plan =>
        have hEnables := callStep_enables hStep
        rw [hCall] at hEnables
        cases hAction : label.action with
        | dispatchFinish =>
            rw [hAction] at hStep
            simp only [callStep, stepDispatchFinish,
              hCall] at hStep
            split at hStep
            · split at hStep
              · cases hStep
                rfl
              · cases hStep
                rfl
            · cases hStep
        | raise failure =>
            rw [hAction] at hStep
            simp only [callStep, stepRaise, hCall,
              Option.some.injEq] at hStep
            rw [← hStep]
            rfl
        | die =>
            rw [hAction] at hStep
            simp only [callStep, stepDie, hCall,
              Option.some.injEq] at hStep
            rw [← hStep]
            rfl
        | _ =>
            rw [hAction] at hEnables
            cases hEnables
    | _ =>
        rw [hCall] at hDispatched
        cases hDispatched
  · cases hStep

/- Nothing is locked by a call whose locks were dropped. -/
theorem release_outboxLock
    (hLock :
      (system.release call).outboxLock outboxEventId =
        some other) :
    system.outboxLock outboxEventId = some other ∧
      other ≠ call := by
  simp only [System.release] at hLock
  split at hLock
  · cases hLock
  · rename_i hHeld
    refine ⟨hLock, ?_⟩
    intro hSame
    rw [hSame] at hLock
    exact hHeld hLock

theorem locksDispatching_service
    (hLocks : LocksDispatching system)
    (hStep : step config system label = some next) :
    LocksDispatching next := by
  intro outboxEventId other hLock
  have hFrame := (step_effect hStep).2.frame
  rcases step_dispatching hStep with
    ⟨event, pick, _, hBegins⟩ | ⟨_, hUndispatched⟩
  · rw [hBegins.next] at hLock ⊢
    by_cases hId : outboxEventId = event.id
    · subst hId
      have hSelf :
          Function.update system.outboxLock event.id
            (some label.call) event.id = some other := hLock
      rw [Function.update_self] at hSelf
      cases hSelf
      refine ⟨(dispatchPlan system.db event pick).1,
        (dispatchPlan system.db event pick).2, ?_⟩
      rw [System.become_calls_self]
      rfl
    · have hOld :
          Function.update system.outboxLock event.id
            (some label.call) outboxEventId =
              some other := hLock
      rw [Function.update_of_ne hId] at hOld
      rcases hLocks _ _ hOld with
        ⟨webhookEventId, plan, hDispatched⟩
      have hOther : other ≠ label.call := by
        rintro rfl
        rw [hBegins.idle] at hDispatched
        cases hDispatched
      refine ⟨webhookEventId, plan, ?_⟩
      have hSame :
          (system.become label.call
              (.dispatchOpen event.id
                (dispatchPlan system.db event pick).1
                (dispatchPlan system.db event
                  pick).2)).calls other =
            system.calls other :=
        Function.update_of_ne hOther _ _
      show ((system.become label.call _).calls
        other).dispatched = _
      rw [hSame]
      exact hDispatched
  · have hOld :
        system.outboxLock outboxEventId = some other := by
      rcases hUndispatched.lock with hSame | hReleased
      · rwa [hSame] at hLock
      · rw [hReleased] at hLock
        exact (release_outboxLock hLock).1
    rcases hLocks _ _ hOld with
      ⟨webhookEventId, plan, hDispatched⟩
    have hOther : other ≠ label.call := by
      rintro rfl
      rw [outboxLock_of_dispatched hDispatched hStep] at hLock
      exact (release_outboxLock hLock).2 rfl
    rw [hFrame.calls other hOther]
    exact ⟨webhookEventId, plan, hDispatched⟩

theorem locksDispatching_step
    {desk next : Desk}
    {label : DeskLabel}
    (hLocks : LocksDispatching desk.system)
    (hStep : deskStep config desk label = some next) :
    LocksDispatching next.system := by
  cases deskStep_effect hStep with
  | service label hService =>
      exact locksDispatching_service hLocks hService
  | fail call text now jitter outboxEventId webhookEventId
      plan db _ _ hSystem =>
      rw [hSystem]
      intro outboxEventId other hLock
      rcases release_outboxLock hLock with ⟨hOld, hOther⟩
      rcases hLocks _ _ hOld with
        ⟨webhookEventId, plan, hDispatched⟩
      refine ⟨webhookEventId, plan, ?_⟩
      have hSame :
          ((desk.system.release call).commit call db
              (.done .dispatched)).calls other =
            desk.system.calls other :=
        Function.update_of_ne hOther _ _
      rw [hSame]
      exact hDispatched
  | flush operator now outboxEventId loaded _ _ hSystem =>
      rw [hSystem]
      exact hLocks
  | read operator outboxEventId hSystem =>
      rw [hSystem]
      exact hLocks
  | kill operator hSystem =>
      rw [hSystem]
      exact hLocks

end PayGuard

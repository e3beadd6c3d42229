import PayGuard.Outbox.Worker

/-
  When a processed outbox event stays processed.

  A worker only touches a row it has locked while it waits,
  so no worker ever moves a processed row.  An operator has
  read its row without a lock: by the time it writes, another
  operator may have requeued the row and a worker processed
  it.  A run keeps its processed rows exactly when no
  operator writes to one.

  Key definitions include:
    * `Desk.Processed`
    * `Desk.Settled`
    * `RequeuesUnprocessed`

  Key theorems include:
    * `processed_kept`
    * `processed_event_stays_processed`
-/

------------------------------------------------------------
-- Processed Rows
------------------------------------------------------------

namespace PayGuard

namespace Desk

/- The row has been committed as processed. -/
def Processed
    (desk : Desk)
    (outboxEventId : Uuid) : Prop :=
  ∃ event ∈ desk.system.db.outbox,
    event.id = outboxEventId ∧ event.status = .processed

instance
    (desk : Desk)
    (outboxEventId : Uuid) :
    Decidable (desk.Processed outboxEventId) :=
  inferInstanceAs (Decidable (∃ event ∈ _, _))

/- It is processed, and no worker is dispatching it. -/
def Settled
    (desk : Desk)
    (outboxEventId : Uuid) : Prop :=
  desk.Processed outboxEventId ∧
    ∀ call dispatchedEventId webhookEventId plan,
      (desk.system.calls call).dispatched =
          some (dispatchedEventId, webhookEventId, plan) →
        dispatchedEventId ≠ outboxEventId

end Desk

/- The row a label is about to requeue. -/
def Desk.requeued
    (desk : Desk) :
    DeskLabel → Option Uuid
| .requeueFlush operator _ =>
    match desk.operators operator with
    | .loaded outboxEventId _ => some outboxEventId
    | _ => none
| _ => none

/- No operator writes to a row that has been processed. -/
def RequeuesUnprocessed
    (desk : Desk)
    (label : DeskLabel) : Prop :=
  ∀ outboxEventId ∈ desk.requeued label,
    ¬ desk.Processed outboxEventId

instance
    (desk : Desk)
    (label : DeskLabel) :
    Decidable (RequeuesUnprocessed desk label) :=
  inferInstanceAs
    (Decidable (∀ outboxEventId ∈ desk.requeued label,
      ¬ desk.Processed outboxEventId))

------------------------------------------------------------
-- One Step
------------------------------------------------------------

variable {config : Config}
variable {desk next : Desk}
variable {label : DeskLabel}
variable {outboxEventId : Uuid}

/- A waiting row is not processed. -/
theorem Desk.Processed.not_waiting
    (hProcessed : desk.Processed outboxEventId) :
    ¬ desk.system.db.Waiting outboxEventId := by
  intro hWaiting
  rcases hProcessed with ⟨event, hEvent, hId, hStatus⟩
  rw [hWaiting.pending event hEvent hId] at hStatus
  cases hStatus

theorem Desk.Processed.settled
    (hOrderly : Orderly desk.system)
    (hProcessed : desk.Processed outboxEventId) :
    desk.Settled outboxEventId := by
  refine ⟨hProcessed, ?_⟩
  intro call _ webhookEventId plan hDispatched hSame
  rw [hSame] at hDispatched
  exact hProcessed.not_waiting
    (hOrderly.waiting call _ _ _ hDispatched)

/- No step of the services unmarks a processed row. -/
theorem DeliveryStep.processed_kept
    {system next : System}
    {call : CallId}
    {draw : Draw}
    {event : OutboxEvent}
    (hDelivery : DeliveryStep config system call draw next)
    (hEvent : event ∈ system.db.outbox)
    (hStatus : event.status = .processed) :
    ∃ kept ∈ next.db.outbox,
      kept.id = event.id ∧ kept.status = .processed := by
  rcases hDelivery.outbox with ⟨db, hAdded, hMarked⟩
  have hOld : event ∈ db.outbox := by
    rcases hAdded with hSame | ⟨added, _, _, hOutbox⟩
    · rw [hSame]
      exact hEvent
    · rw [hOutbox]
      exact List.mem_append_left _ hEvent
  rcases hMarked with hSame | ⟨markedId, _, _, _, hOutbox⟩
  · rw [hSame]
    exact ⟨event, hOld, rfl, hStatus⟩
  · rw [hOutbox]
    refine ⟨_, Table.mem_updateWhere.mpr ⟨event, hOld, rfl⟩,
      ?_, ?_⟩
    · split <;> rfl
    · split
      · rfl
      · exact hStatus

/- A row keeps its mark unless an operator takes it away. -/
theorem processed_kept
    (hOrderly : Orderly desk.system)
    (hRequeues : RequeuesUnprocessed desk label)
    (hStep : deskStep config desk label = some next)
    (hProcessed : desk.Processed outboxEventId) :
    next.Processed outboxEventId := by
  rcases hProcessed with ⟨event, hEvent, rfl, hStatus⟩
  have hSelf : desk.Processed event.id :=
    ⟨event, hEvent, rfl, hStatus⟩
  have hOther :
      ∀ otherEventId status,
        event.id ≠ otherEventId →
          next.system.db =
              setOutboxStatus desk.system.db otherEventId
                status →
            next.Processed event.id := by
    intro otherEventId status hNe hDb
    refine ⟨event, ?_, rfl, hStatus⟩
    rw [hDb]
    exact mem_setOutboxStatus_of_ne hEvent hNe
  cases deskStep_effect hStep with
  | service label hService =>
      exact (step_effect hService).2.deliveryStep
        |>.processed_kept hEvent hStatus
  | fail call text now jitter failedId webhookEventId plan db
      hCall hDb hSystem =>
      have hWaiting :=
        hOrderly.waiting call failedId webhookEventId plan
          (by rw [hCall]; rfl)
      have hNe : event.id ≠ failedId := by
        intro hSame
        rw [← hSame] at hWaiting
        exact hSelf.not_waiting hWaiting
      rcases hDb with rfl | rfl
      · refine ⟨event, ?_, rfl, hStatus⟩
        rw [hSystem]
        exact hEvent
      · exact hOther failedId .deadLetter hNe
          (by rw [hSystem]; rfl)
  | flush operator now requeuedId loaded hOperator _ hSystem =>
      have hRequeued :
          desk.requeued (.requeueFlush operator now) =
            some requeuedId := by
        simp only [Desk.requeued, hOperator]
      have hNe : event.id ≠ requeuedId := by
        intro hSame
        rw [← hSame] at hRequeued
        exact hRequeues event.id hRequeued hSelf
      exact hOther requeuedId .pending hNe
        (by rw [hSystem])
  | read operator readId hSystem =>
      exact ⟨event, by rw [hSystem]; exact hEvent, rfl,
        hStatus⟩
  | kill operator hSystem =>
      exact ⟨event, by rw [hSystem]; exact hEvent, rfl,
        hStatus⟩

/- An operator that writes to a processed row unmarks it. -/
theorem processed_lost
    (hRequeues : ¬ RequeuesUnprocessed desk label)
    (hStep : deskStep config desk label = some next) :
    ∃ outboxEventId,
      desk.Processed outboxEventId ∧
        ¬ next.Settled outboxEventId := by
  have hMissed :
      ∃ requeuedId,
        desk.requeued label = some requeuedId ∧
          desk.Processed requeuedId := by
    by_contra hNone
    refine hRequeues (fun requeuedId hRequeued hProcessed =>
      hNone ⟨requeuedId, hRequeued, hProcessed⟩)
  rcases hMissed with ⟨requeuedId, hRequeued, hProcessed⟩
  refine ⟨requeuedId, hProcessed, ?_⟩
  rintro ⟨⟨event, hEvent, hId, hStatus⟩, _⟩
  cases deskStep_effect hStep with
  | flush operator now outboxEventId loaded hOperator _
      hSystem =>
      simp only [Desk.requeued, hOperator,
        Option.some.injEq] at hRequeued
      subst hRequeued
      rw [hSystem] at hEvent
      rcases mem_setOutboxStatus hEvent with
        ⟨row, _, hRowId, ⟨_, hSet⟩ | ⟨hNe, _⟩⟩
      · rw [hSet] at hStatus
        cases hStatus
      · exact hNe (hRowId.symm.trans hId)
  | _ => cases hRequeued

------------------------------------------------------------
-- Every Run
------------------------------------------------------------

/-
  Whatever the workers, the operators and the services do,
  every event once processed stays processed and is never
  dispatched again, if and only if no operator writes to a
  row that has been processed since the operator read it.
-/
theorem processed_event_stays_processed
    (config : Config)
    (labels : List DeskLabel)
    (desk : Desk)
    (hRun :
      Lts.exec (deskStep config) {} labels = some desk) :
    Lts.Meets (deskStep config) RequeuesUnprocessed {}
        labels ↔
      ∀ outboxEventId,
        Lts.Once (deskStep config)
          (fun desk => desk.Processed outboxEventId)
          (fun desk => desk.Settled outboxEventId) {}
          labels := by
  have hKeep :
      ∀ (desk : Desk) (label : DeskLabel) (next : Desk),
        Orderly desk.system →
          deskStep config desk label = some next →
            Orderly next.system :=
    fun _ _ _ => orderly_step
  have hStart : Orderly ({} : Desk).system := orderly_initial
  constructor
  · intro hMeets outboxEventId
    exact Lts.once_of_meets
      (fun desk label next hOrderly _ =>
        hKeep desk label next hOrderly)
      (fun desk label next hOrderly hRequeues hStep =>
        processed_kept hOrderly hRequeues hStep)
      (fun desk hOrderly hProcessed =>
        hProcessed.settled hOrderly)
      hStart hMeets
  · intro hOnce
    exact Lts.meets_of_once hKeep
      (fun desk label next _ hRequeues hStep =>
        processed_lost hRequeues hStep)
      hStart hRun hOnce

/- A webhook whose dispatch raises eight times. -/
def deadLetterRun : List DeskLabel :=
  .service ⟨0, .receiveWebhook
      { providerName := "mock"
        providerEventId := "evt"
        eventType := "payment.succeeded"
        providerTransactionId := none }, .numbered 1⟩ ::
    (List.range maxAttempts).flatMap (fun attempt =>
      [.service ⟨attempt + 1, .dispatchBegin 1 0,
          .numbered (attempt + 2)⟩,
        .fail (attempt + 1) "unreachable" 0 0])

/- An operator requeues it, and a worker processes it. -/
def replayedRun : List DeskLabel :=
  deadLetterRun ++
    [.requeueRead 1 1,
      .requeueFlush 1 0,
      .service ⟨9, .dispatchBegin 1 0, .numbered 10⟩,
      .service ⟨9, .dispatchFinish, .numbered 11⟩]

theorem processed_event_stays_processed_replayed :
    ∃ desk,
      Lts.exec (deskStep { sha256 := spellOut }) {}
          replayedRun = some desk ∧
        desk.Processed 1 ∧
        ∀ outboxEventId,
          Lts.Once (deskStep { sha256 := spellOut })
            (fun desk => desk.Processed outboxEventId)
            (fun desk => desk.Settled outboxEventId) {}
            replayedRun := by
  have hRun :
      (Lts.exec (deskStep { sha256 := spellOut }) {}
        replayedRun).map
          (fun desk => decide (desk.Processed 1)) =
        some true := by
    decide +kernel
  have hMeets :
      Lts.Meets (deskStep { sha256 := spellOut })
        RequeuesUnprocessed {} replayedRun := by
    decide +kernel
  rcases Option.map_eq_some_iff.mp hRun with
    ⟨desk, hExec, hProcessed⟩
  exact ⟨desk, hExec, of_decide_eq_true hProcessed,
    (processed_event_stays_processed _ _ _ hExec).mp hMeets⟩

/-
  Two operators read the dead letter.  One requeues it and a
  worker processes it; then the other writes, the event is
  pending again, and a worker dispatches it once more.
-/
def overtakenOperatorRun : List DeskLabel :=
  deadLetterRun ++
    [.requeueRead 1 1,
      .requeueRead 2 1,
      .requeueFlush 2 0,
      .service ⟨9, .dispatchBegin 1 0, .numbered 10⟩,
      .service ⟨9, .dispatchFinish, .numbered 11⟩]

def lateRequeue : List DeskLabel :=
  [.requeueFlush 1 0,
    .service ⟨10, .dispatchBegin 1 0, .numbered 12⟩]

theorem late_requeue_reopens_processed :
    ∃ processed reopened,
      Lts.exec (deskStep { sha256 := spellOut }) {}
          overtakenOperatorRun = some processed ∧
        processed.Processed 1 ∧
        Lts.exec (deskStep { sha256 := spellOut }) processed
          lateRequeue = some reopened ∧
        reopened.system.db.outbox.map (·.status) =
          [.pending] ∧
        (reopened.system.calls 10).dispatched.map (·.1) =
          some 1 := by
  have hRun :
      (Lts.exec (deskStep { sha256 := spellOut }) {}
        overtakenOperatorRun).map (fun processed =>
          (decide (processed.Processed 1),
            (Lts.exec (deskStep { sha256 := spellOut })
              processed lateRequeue).map (fun reopened =>
                (reopened.system.db.outbox.map (·.status),
                  (reopened.system.calls
                    10).dispatched.map (·.1))))) =
        some (true, some ([.pending], some 1)) := by
    decide +kernel
  rcases Option.map_eq_some_iff.mp hRun with
    ⟨processed, hExec, hBoth⟩
  rw [Prod.mk.injEq] at hBoth
  rcases Option.map_eq_some_iff.mp hBoth.2 with
    ⟨reopened, hLate, hOpen⟩
  rw [Prod.mk.injEq] at hOpen
  exact ⟨processed, reopened, hExec,
    of_decide_eq_true hBoth.1, hLate, hOpen.1, hOpen.2⟩

end PayGuard

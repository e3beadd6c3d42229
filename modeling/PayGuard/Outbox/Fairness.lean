import Mathlib.Data.Finset.Card
import Mathlib.Data.Finset.Max
import PayGuard.Outbox.Origins

/-
  No outbox event that is due is starved.

  A worker claims a due row with the earliest `available_at`
  that nobody has locked.  A new row, a row that failed and a
  row that was requeued get a later one.  So while an event
  waits, the workers can only claim the rows that were ahead
  of it, each of them once, and again only where a dispatch
  died or an operator put a row back.

  Key definitions include:
    * `Desk.Waits`
    * `Desk.ahead`
    * `Overlooks`
    * `begins` and `setbacks`

  Key theorems include:
    * `Desk.mem_aheadIds`
    * `waits_step`
    * `aheadIds_step`
    * `due_event_is_not_starved`
-/

------------------------------------------------------------
-- Waiting Rows
------------------------------------------------------------

namespace PayGuard

namespace Desk

/- The row waits, and it is due from this time on. -/
structure Waits
    (desk : Desk)
    (outboxEventId : Uuid)
    (due : Timestamp) : Prop where
  pending :
    ∃ row ∈ desk.system.db.outbox,
      row.id = outboxEventId ∧ row.status = .pending
  free : desk.system.outboxLock outboxEventId = none
  available : (desk.retries outboxEventId).availableAt = due

/- The other rows a worker may claim before it. -/
def ahead
    (desk : Desk)
    (outboxEventId : Uuid)
    (due : Timestamp) : List OutboxEvent :=
  desk.system.db.outbox.filter (fun row =>
    row.id ≠ outboxEventId ∧
      row.status = .pending ∧
      desk.system.outboxLock row.id = none ∧
      (desk.retries row.id).availableAt ≤ due)

def aheadIds
    (desk : Desk)
    (outboxEventId : Uuid)
    (due : Timestamp) : Finset Uuid :=
  ((desk.ahead outboxEventId due).map (·.id)).toFinset

end Desk

/- The dispatch the step begins. -/
def begins
    (_ : Desk)
    (label : DeskLabel)
    (_ : Desk) : Nat :=
  match label with
  | .service ⟨_, .dispatchBegin _ _, _⟩ => 1
  | _ => 0

/- A dispatch dies or is cancelled, or a row is put back. -/
def setbacks
    (desk : Desk)
    (label : DeskLabel)
    (_ : Desk) : Nat :=
  match label with
  | .service label =>
      if (desk.system.calls label.call).dispatched.isSome ∧
          label.action ≠ .dispatchFinish then
        1
      else
        0
  | .requeueFlush _ _ => 1
  | _ => 0

/- The row a worker claims with this action. -/
def Action.claims : Action → Option Uuid
| .dispatchBegin outboxEventId _ => some outboxEventId
| _ => none

/- The row an operator has read. -/
def Operator.requeues : Operator → Option Uuid
| .loaded outboxEventId _ => some outboxEventId
| _ => none

/-
  The row is due on every clock that is read, no worker
  claims it and no operator touches it.
-/
def Overlooks
    (outboxEventId : Uuid)
    (due : Timestamp)
    (desk : Desk)
    (label : DeskLabel) : Prop :=
  match label with
  | .service label =>
      due ≤ label.draw.now ∧
        due < label.draw.serverNow ∧
        label.action.claims ≠ some outboxEventId
  | .fail _ _ now _ => due < now
  | .requeueFlush operator _ =>
      (desk.operators operator).requeues ≠
        some outboxEventId
  | _ => True

instance
    (outboxEventId : Uuid)
    (due : Timestamp)
    (desk : Desk)
    (label : DeskLabel) :
    Decidable (Overlooks outboxEventId due desk label) :=
  match label with
  | .service label =>
      inferInstanceAs (Decidable
        (due ≤ label.draw.now ∧
          due < label.draw.serverNow ∧
          label.action.claims ≠ some outboxEventId))
  | .fail _ _ now _ => inferInstanceAs (Decidable (due < now))
  | .requeueFlush operator _ =>
      inferInstanceAs (Decidable
        ((desk.operators operator).requeues ≠
          some outboxEventId))
  | .requeueRead _ _ => .isTrue trivial
  | .kill _ => .isTrue trivial

variable {config : Config}
variable {desk next : Desk}
variable {outboxEventId otherId : Uuid}
variable {due : Timestamp}

theorem Desk.mem_aheadIds :
    otherId ∈ desk.aheadIds outboxEventId due ↔
      otherId ≠ outboxEventId ∧
        (∃ row ∈ desk.system.db.outbox,
          row.id = otherId ∧ row.status = .pending) ∧
        desk.system.outboxLock otherId = none ∧
        (desk.retries otherId).availableAt ≤ due := by
  unfold Desk.aheadIds Desk.ahead
  rw [List.mem_toFinset, List.mem_map]
  constructor
  · rintro ⟨row, hRow, rfl⟩
    rw [List.mem_filter, decide_eq_true_iff] at hRow
    rcases hRow with ⟨hStored, hNe, hPending, hFree, hDue⟩
    exact ⟨hNe, ⟨row, hStored, rfl, hPending⟩, hFree, hDue⟩
  · rintro ⟨hNe, ⟨row, hStored, rfl, hPending⟩, hFree, hDue⟩
    refine ⟨row, ?_, rfl⟩
    rw [List.mem_filter, decide_eq_true_iff]
    exact ⟨hStored, hNe, hPending, hFree, hDue⟩

theorem Desk.card_aheadIds_le :
    (desk.aheadIds outboxEventId due).card ≤
      (desk.ahead outboxEventId due).length := by
  rw [← List.length_map (·.id)]
  exact List.toFinset_card_le _

------------------------------------------------------------
-- Steps Of The Services
------------------------------------------------------------

variable {label : Label}

/- What a step of the services does to the retry columns. -/
theorem deskService_eq_some
    (hStep : deskService config desk label = some next) :
    desk.admits config label = true ∧
      step config desk.system label = some next.system ∧
      next.retries = desk.insertedRetries label.draw := by
  unfold deskService at hStep
  split at hStep
  · rename_i hAdmits
    split at hStep
    · cases hStep
    · rename_i system hSystem
      cases hStep
      exact ⟨hAdmits, hSystem, rfl⟩
  · cases hStep

theorem insertedRetries_of_stored
    {draw : Draw}
    {row : OutboxEvent}
    (hRow : row ∈ desk.system.db.outbox) :
    desk.insertedRetries draw row.id =
      desk.retries row.id := by
  unfold Desk.insertedRetries
  rw [if_pos]
  rw [List.any_eq_true]
  exact ⟨row, hRow, by simp⟩

theorem insertedRetries_of_fresh
    {draw : Draw}
    (hFresh :
      otherId ∉ desk.system.db.outbox.map (·.id)) :
    desk.insertedRetries draw otherId =
      { availableAt := draw.serverNow } := by
  unfold Desk.insertedRetries
  rw [if_neg]
  rw [List.any_eq_true]
  rintro ⟨row, hRow, hId⟩
  rw [decide_eq_true_iff] at hId
  exact hFresh (List.mem_map.mpr ⟨row, hRow, hId⟩)

/- A dispatch that ends without an exception marks its row. -/
theorem dispatchFinish_marks
    {webhookEventId : Uuid}
    {plan : WebhookPlan}
    (hAction : label.action = .dispatchFinish)
    (hCall :
      desk.system.calls label.call =
        .dispatchOpen otherId webhookEventId plan)
    (hStep : deskService config desk label = some next) :
    ∃ db, next.system.db = markProcessed db otherId := by
  rcases deskService_eq_some hStep with
    ⟨hAdmits, hService, _⟩
  simp only [Desk.admits, hAction, hCall] at hAdmits
  unfold step at hService
  split at hService
  · rw [hAction] at hService
    simp only [callStep, stepDispatchFinish, hCall]
      at hService
    split at hService
    · split at hService
      · rename_i failure hBody
        rw [hBody] at hAdmits
        cases hAdmits
      · rename_i db _
        have hDb := congrArg (Option.map (·.db)) hService
        rw [Option.map_some, Option.map_some,
          Option.some.injEq] at hDb
        exact ⟨db, hDb.symm⟩
    · cases hService
  · cases hService

/- A row that is ahead after a step was ahead, or was freed. -/
theorem mem_aheadIds_service
    (hOrderly : Orderly desk.system)
    (hLocks : LocksDispatching desk.system)
    (hServer : due < label.draw.serverNow)
    (hStep : deskService config desk label = some next)
    (hMem : otherId ∈ next.aheadIds outboxEventId due) :
    otherId ∈ desk.aheadIds outboxEventId due ∨
      label.action ≠ .dispatchFinish ∧
        ∃ webhookEventId plan,
          (desk.system.calls label.call).dispatched =
            some (otherId, webhookEventId, plan) := by
  rcases deskService_eq_some hStep with
    ⟨_, hService, hRetries⟩
  rcases step_effect hService with ⟨hAdmits, hEffect⟩
  rcases Desk.mem_aheadIds.mp hMem with
    ⟨hNe, ⟨row, hRow, rfl, hPending⟩, hFree, hDue⟩
  rw [hRetries] at hDue
  cases hEffect.deliveryStep.rowOrigin hOrderly hAdmits
      hRow with
  | added hId _ =>
      rw [hId, insertedRetries_of_fresh
        hAdmits.2.2.2.2.1] at hDue
      exact absurd hDue (not_le.mpr hServer)
  | marked _ _ _ _ _ _ _ hProcessed _ _ _ =>
      rw [hProcessed] at hPending
      cases hPending
  | kept old hOld hId _ hStatus =>
      rw [hId] at hNe hFree hDue ⊢
      rw [insertedRetries_of_stored hOld] at hDue
      rw [hStatus] at hPending
      cases hLock : desk.system.outboxLock old.id with
      | none =>
          exact .inl (Desk.mem_aheadIds.mpr
            ⟨hNe, ⟨old, hOld, rfl, hPending⟩, hLock, hDue⟩)
      | some holder =>
          rcases hLocks _ _ hLock with
            ⟨webhookEventId, plan, hDispatched⟩
          by_cases hHolder : holder = label.call
          · subst hHolder
            refine .inr ⟨?_, _, _, hDispatched⟩
            intro hAction
            -- the commit would have marked this row
            cases hCall : desk.system.calls label.call with
            | dispatchOpen markedId webhookEventId plan =>
                rw [hCall] at hDispatched
                cases hDispatched
                rcases dispatchFinish_marks hAction hCall
                  hStep with ⟨db, hDb⟩
                rw [hDb] at hRow
                rcases Table.mem_updateWhere.mp hRow with
                  ⟨before, _, hRow⟩
                subst hRow
                split at hStatus
                · rw [hPending] at hStatus
                  cases hStatus
                · rename_i hOther
                  rw [if_neg hOther] at hId
                  exact hOther (by simpa using hId)
            | _ =>
                rw [hCall] at hDispatched
                cases hDispatched
          · exfalso
            rcases step_dispatching hService with
              ⟨event, pick, _, hBegins⟩ | ⟨_, hUndispatched⟩
            · have hApart : old.id ≠ event.id := by
                intro hSame
                rw [hSame, hBegins.free] at hLock
                cases hLock
              have hKept :
                  next.system.outboxLock old.id =
                    some holder := by
                rw [hBegins.next]
                exact (Function.update_of_ne hApart _
                  _).trans hLock
              rw [hKept] at hFree
              cases hFree
            · rw [hUndispatched.outboxLock hHolder
                hLock] at hFree
              cases hFree

/- Whatever is claimed before a due row is ahead of it. -/
theorem claimed_is_ahead
    {event : OutboxEvent}
    {pick : Uuid}
    (hWaits : desk.Waits outboxEventId due)
    (hNow : due ≤ label.draw.now)
    (hOther : event.id ≠ outboxEventId)
    (hAction : label.action = .dispatchBegin event.id pick)
    (hBegins :
      BeginsDispatch desk.system label.call event pick
        next.system)
    (hStep : deskService config desk label = some next) :
    event.id ∈ desk.aheadIds outboxEventId due := by
  rcases deskService_eq_some hStep with ⟨hAdmits, _, _⟩
  rcases hWaits.pending with ⟨row, hRow, hId, hPending⟩
  have hDue : desk.due label.draw.now row = true := by
    unfold Desk.due
    simp [hPending, hId, hWaits.available, hNow,
      hWaits.free]
  have hFirst :
      (desk.retries event.id).availableAt ≤
        (desk.retries row.id).availableAt := by
    simp only [Desk.admits, hAction, Desk.claimsOne,
      Bool.and_eq_true, List.all_eq_true, Bool.or_eq_true,
      Bool.not_eq_true', decide_eq_true_eq] at hAdmits
    rcases hAdmits.2 row hRow with hNot | hLe
    · rw [hDue] at hNot
      cases hNot
    · exact hLe
  rw [hId, hWaits.available] at hFirst
  exact Desk.mem_aheadIds.mpr
    ⟨hOther, ⟨event, hBegins.stored, rfl, hBegins.pending⟩,
      hBegins.free, hFirst⟩

theorem aheadIds_service
    (hOrderly : Orderly desk.system)
    (hLocks : LocksDispatching desk.system)
    (hWaits : desk.Waits outboxEventId due)
    (hOverlooks :
      Overlooks outboxEventId due desk (.service label))
    (hStep : deskService config desk label = some next) :
    begins desk (.service label) next +
        (next.aheadIds outboxEventId due).card ≤
      setbacks desk (.service label) next +
        (desk.aheadIds outboxEventId due).card := by
  rcases deskService_eq_some hStep with ⟨_, hService, _⟩
  rcases hOverlooks with ⟨hNow, hServer, hElsewhere⟩
  rcases step_dispatching hService with
    ⟨event, pick, hAction, hBegins⟩ | ⟨hNone, _⟩
  · have hOther : event.id ≠ outboxEventId := by
      intro hSame
      rw [hAction, hSame] at hElsewhere
      exact hElsewhere rfl
    have hAhead :=
      claimed_is_ahead hWaits hNow hOther hAction hBegins
        hStep
    have hSubset :
        next.aheadIds outboxEventId due ⊆
          (desk.aheadIds outboxEventId due).erase
            event.id := by
      intro otherId hMem
      rw [Finset.mem_erase]
      constructor
      · rintro rfl
        have hFree := (Desk.mem_aheadIds.mp hMem).2.2.1
        rw [hBegins.next] at hFree
        have hLocked :
            Function.update desk.system.outboxLock event.id
              (some label.call) event.id = none := hFree
        rw [Function.update_self] at hLocked
        cases hLocked
      · rcases mem_aheadIds_service hOrderly hLocks hServer
            hStep hMem with hOld | ⟨_, _, _, hDispatched⟩
        · exact hOld
        · rw [hBegins.idle] at hDispatched
          cases hDispatched
    have hCard := Finset.card_le_card hSubset
    have hErase := Finset.card_erase_add_one hAhead
    have hOne : begins desk (.service label) next ≤ 1 := by
      unfold begins
      split <;> omega
    omega
  · have hZero : begins desk (.service label) next = 0 := by
      unfold begins
      split
      · rename_i otherId pick _ hLabel
        cases hLabel
        exact absurd rfl (hNone otherId pick)
      · rfl
    rw [hZero, Nat.zero_add]
    by_cases hBack :
        (desk.system.calls label.call).dispatched.isSome ∧
          label.action ≠ .dispatchFinish
    · have hOne :
          setbacks desk (.service label) next = 1 := by
        simp only [setbacks]
        exact if_pos hBack
      rcases Option.isSome_iff_exists.mp hBack.1 with
        ⟨⟨freedId, webhookEventId, plan⟩, hDispatched⟩
      have hSubset :
          next.aheadIds outboxEventId due ⊆
            insert freedId
              (desk.aheadIds outboxEventId due) := by
        intro otherId hMem
        rw [Finset.mem_insert]
        rcases mem_aheadIds_service hOrderly hLocks hServer
            hStep hMem with hOld | ⟨_, _, _, hFreed⟩
        · exact .inr hOld
        · rw [hDispatched] at hFreed
          cases hFreed
          exact .inl rfl
      have hCard := Finset.card_le_card hSubset
      have hInsert :=
        Finset.card_insert_le freedId
          (desk.aheadIds outboxEventId due)
      omega
    · have hSubset :
          next.aheadIds outboxEventId due ⊆
            desk.aheadIds outboxEventId due := by
        intro otherId hMem
        rcases mem_aheadIds_service hOrderly hLocks hServer
            hStep hMem with
          hOld | ⟨hAction, _, _, hDispatched⟩
        · exact hOld
        · exact absurd
            ⟨by rw [hDispatched]; rfl, hAction⟩ hBack
      have hCard := Finset.card_le_card hSubset
      omega

------------------------------------------------------------
-- Steps Of The Desk
------------------------------------------------------------

/- A failed dispatch is given up, or it has to wait. -/
structure Fails
    (desk : Desk)
    (call : CallId)
    (now : Timestamp)
    (failedId : Uuid)
    (next : Desk) : Prop where
  dispatched :
    ∃ webhookEventId plan,
      (desk.system.calls call).dispatched =
        some (failedId, webhookEventId, plan)
  next :
    ∃ db retry,
      next = desk.book call failedId db retry ∧
        (db =
            setOutboxStatus desk.system.db failedId
              .deadLetter ∨
          db = desk.system.db ∧ now ≤ retry.availableAt)

variable {call : CallId}
variable {text : String}
variable {now jitter : Timestamp}
variable {operator : OperatorId}

theorem deskFail_fails
    (hStep : deskFail desk call text now jitter = some next) :
    ∃ failedId, Fails desk call now failedId next := by
  unfold deskFail at hStep
  split at hStep
  · rename_i failedId webhookEventId plan hCall
    refine ⟨failedId, ⟨webhookEventId, plan, by
      rw [hCall]; rfl⟩, ?_⟩
    simp only at hStep
    split at hStep
    · cases hStep
    · split at hStep
      · cases hStep
        exact ⟨_, _, rfl, .inl rfl⟩
      · split at hStep
        · cases hStep
        · rename_i delay hBackoff
          cases hStep
          refine ⟨_, _, rfl, .inr ⟨rfl, ?_⟩⟩
          unfold computeBackoff at hBackoff
          split at hBackoff
          · rename_i hJitter
            cases hBackoff
            exact Int.le_add_of_nonneg_right hJitter.1
          · cases hBackoff
  · cases hStep

/- An operator puts one unlocked row back. -/
structure PutsBack
    (desk : Desk)
    (operator : OperatorId)
    (requeuedId : Uuid)
    (next : Desk) : Prop where
  loaded :
    ∃ loaded,
      desk.operators operator = .loaded requeuedId loaded
  system :
    next.system =
      { desk.system with
        db :=
          setOutboxStatus desk.system.db requeuedId
            .pending }
  retries :
    ∃ retry,
      next.retries =
        Function.update desk.retries requeuedId retry

theorem deskRequeueFlush_putsBack
    (hStep :
      deskRequeueFlush desk operator now = some next) :
    ∃ requeuedId, PutsBack desk operator requeuedId next := by
  unfold deskRequeueFlush at hStep
  split at hStep
  · rename_i requeuedId loaded hOperator
    split at hStep
    · cases hStep
      exact ⟨requeuedId, ⟨loaded, hOperator⟩, rfl, _, rfl⟩
    · cases hStep
  · cases hStep

theorem release_outboxLock_of_none
    {system : System}
    (hFree : system.outboxLock outboxEventId = none) :
    (system.release call).outboxLock outboxEventId = none := by
  simp only [System.release, hFree]
  split <;> rfl

/- A row that is ahead after a failure was ahead before. -/
theorem Fails.aheadIds_subset
    {failedId : Uuid}
    (hFails : Fails desk call now failedId next)
    (hLocks : LocksDispatching desk.system)
    (hNow : due < now) :
    next.aheadIds outboxEventId due ⊆
      desk.aheadIds outboxEventId due := by
  rcases hFails.dispatched with ⟨_, _, hDispatched⟩
  rcases hFails.next with ⟨db, retry, rfl, hDb⟩
  intro otherId hMem
  rcases Desk.mem_aheadIds.mp hMem with
    ⟨hNe, ⟨row, hRow, hId, hPending⟩, hFree, hDue⟩
  change row ∈ db.outbox at hRow
  have hApart : otherId ≠ failedId := by
    rintro rfl
    rcases hDb with rfl | ⟨_, hLate⟩
    · rcases mem_setOutboxStatus hRow with
        ⟨old, _, hOld, ⟨_, hSet⟩ | ⟨hOther, _⟩⟩
      · rw [hSet] at hPending
        cases hPending
      · exact hOther (hOld.symm.trans hId)
    · simp only [Desk.book, Function.update_self] at hDue
      exact absurd (lt_of_lt_of_le hNow hLate)
        (not_lt.mpr hDue)
  have hOld :
      ∃ old ∈ desk.system.db.outbox,
        old.id = otherId ∧ old.status = .pending := by
    rcases hDb with rfl | ⟨rfl, _⟩
    · rcases mem_setOutboxStatus hRow with
        ⟨old, hOld, hSame, ⟨hSet, _⟩ | ⟨_, rfl⟩⟩
      · exact absurd (hId.symm.trans (hSame.trans hSet))
          hApart
      · exact ⟨row, hOld, hId, hPending⟩
    · exact ⟨row, hRow, hId, hPending⟩
  have hUnlocked :
      desk.system.outboxLock otherId = none := by
    cases hLock : desk.system.outboxLock otherId with
    | none => rfl
    | some holder =>
        rcases hLocks _ _ hLock with ⟨_, _, hHolds⟩
        have hOther : holder ≠ call := by
          rintro rfl
          rw [hDispatched] at hHolds
          cases hHolds
          exact hApart rfl
        simp only [Desk.book, System.commit, System.release,
          hLock, Option.some.injEq, if_neg hOther] at hFree
        cases hFree
  simp only [Desk.book,
    Function.update_of_ne hApart] at hDue
  exact Desk.mem_aheadIds.mpr
    ⟨hNe, hOld, hUnlocked, hDue⟩

/- At most the row put back comes in ahead. -/
theorem PutsBack.aheadIds_subset
    {requeuedId : Uuid}
    (hPutsBack : PutsBack desk operator requeuedId next) :
    next.aheadIds outboxEventId due ⊆
      insert requeuedId
        (desk.aheadIds outboxEventId due) := by
  intro otherId hMem
  rw [Finset.mem_insert]
  by_cases hSame : otherId = requeuedId
  · exact .inl hSame
  · right
    rcases Desk.mem_aheadIds.mp hMem with
      ⟨hNe, ⟨row, hRow, hId, hPending⟩, hFree, hDue⟩
    rcases hPutsBack.retries with ⟨retry, hRetries⟩
    rw [hRetries, Function.update_of_ne hSame] at hDue
    rw [hPutsBack.system] at hRow hFree
    rcases mem_setOutboxStatus hRow with
      ⟨old, hOld, hOldId, ⟨hSet, _⟩ | ⟨_, rfl⟩⟩
    · exact absurd (hId.symm.trans (hOldId.trans hSet)) hSame
    · exact Desk.mem_aheadIds.mpr
        ⟨hNe, ⟨row, hOld, hId, hPending⟩, hFree, hDue⟩

/- Every claim is paid for by a row ahead or by a setback. -/
theorem aheadIds_step
    {label : DeskLabel}
    (hOrderly : Orderly desk.system)
    (hLocks : LocksDispatching desk.system)
    (hWaits : desk.Waits outboxEventId due)
    (hOverlooks : Overlooks outboxEventId due desk label)
    (hStep : deskStep config desk label = some next) :
    begins desk label next +
        (next.aheadIds outboxEventId due).card ≤
      setbacks desk label next +
        (desk.aheadIds outboxEventId due).card := by
  have hSame :
      next.system = desk.system →
        next.retries = desk.retries →
          next.aheadIds outboxEventId due =
            desk.aheadIds outboxEventId due := by
    intro hSystem hRetries
    simp only [Desk.aheadIds, Desk.ahead, hSystem, hRetries]
  cases label with
  | service label =>
      exact aheadIds_service hOrderly hLocks hWaits
        hOverlooks hStep
  | fail call text now jitter =>
      rcases deskFail_fails hStep with ⟨failedId, hFails⟩
      have hSubset :
          next.aheadIds outboxEventId due ⊆
            desk.aheadIds outboxEventId due :=
        hFails.aheadIds_subset hLocks hOverlooks
      have hCard := Finset.card_le_card hSubset
      simpa only [begins, setbacks, Nat.zero_add] using hCard
  | requeueFlush operator now =>
      rcases deskRequeueFlush_putsBack hStep with
        ⟨requeuedId, hPutsBack⟩
      have hSubset :
          next.aheadIds outboxEventId due ⊆
            insert requeuedId
              (desk.aheadIds outboxEventId due) :=
        hPutsBack.aheadIds_subset
      have hCard := Finset.card_le_card hSubset
      have hInsert :=
        Finset.card_insert_le requeuedId
          (desk.aheadIds outboxEventId due)
      simp only [begins, setbacks]
      omega
  | requeueRead operator readId =>
      have hRead :
          next.system = desk.system ∧
            next.retries = desk.retries := by
        simp only [deskStep, deskRequeueRead] at hStep
        split at hStep
        · split at hStep
          · cases hStep
            exact ⟨rfl, rfl⟩
          · split at hStep
            · cases hStep
              exact ⟨rfl, rfl⟩
            · cases hStep
              exact ⟨rfl, rfl⟩
        · cases hStep
      rw [hSame hRead.1 hRead.2]
      exact Nat.le_refl _
  | kill operator =>
      have hKill :
          next.system = desk.system ∧
            next.retries = desk.retries := by
        simp only [deskStep, deskKill] at hStep
        split at hStep
        · cases hStep
          exact ⟨rfl, rfl⟩
        · cases hStep
      rw [hSame hKill.1 hKill.2]
      exact Nat.le_refl _

/- A row nobody claims or touches goes on waiting. -/
theorem waits_step
    {label : DeskLabel}
    (hOrderly : Orderly desk.system)
    (hWaits : desk.Waits outboxEventId due)
    (hOverlooks : Overlooks outboxEventId due desk label)
    (hStep : deskStep config desk label = some next) :
    next.Waits outboxEventId due := by
  rcases hWaits.pending with ⟨row, hRow, hId, hPending⟩
  -- a dispatched row is locked
  have hUndispatched :
      ∀ call dispatchedId webhookEventId plan,
        (desk.system.calls call).dispatched =
            some (dispatchedId, webhookEventId, plan) →
          row.id ≠ dispatchedId := by
    intro call dispatchedId _ _ hDispatched hSame
    have hLock := hOrderly.locked call _ _ _ hDispatched
    rw [← hSame, hId, hWaits.free] at hLock
    cases hLock
  cases label with
  | service label =>
      rcases deskService_eq_some hStep with
        ⟨_, hService, hRetries⟩
      refine ⟨⟨row, ?_, hId, hPending⟩, ?_, ?_⟩
      · rcases (step_effect
            hService).2.deliveryStep.outbox with
          ⟨db, hAdded, hMarked⟩
        have hKept : row ∈ db.outbox := by
          rcases hAdded with hSame | ⟨added, _, _, hOutbox⟩
          · rw [hSame]
            exact hRow
          · rw [hOutbox]
            exact List.mem_append_left _ hRow
        rcases hMarked with hSame | ⟨markedId, _, _,
            hDispatched, hOutbox⟩
        · rw [hSame]
          exact hKept
        · rw [hOutbox]
          exact mem_setOutboxStatus_of_ne hKept
            (hUndispatched _ _ _ _ hDispatched)
      · rcases step_dispatching hService with
          ⟨event, pick, hAction, hBegins⟩ |
            ⟨_, hUndispatched⟩
        · have hApart : outboxEventId ≠ event.id := by
            rintro rfl
            have hElsewhere := hOverlooks.2.2
            rw [hAction] at hElsewhere
            exact hElsewhere rfl
          rw [hBegins.next]
          exact (Function.update_of_ne hApart _ _).trans
            hWaits.free
        · rcases hUndispatched.lock with hSame | hReleased
          · rw [hSame]
            exact hWaits.free
          · rw [hReleased]
            exact release_outboxLock_of_none hWaits.free
      · rw [hRetries, ← hId, insertedRetries_of_stored hRow,
          hId]
        exact hWaits.available
  | fail call text now jitter =>
      rcases deskFail_fails hStep with ⟨failedId, hFails⟩
      rcases hFails.dispatched with ⟨_, _, hDispatched⟩
      rcases hFails.next with ⟨db, retry, rfl, hDb⟩
      have hApart := hUndispatched _ _ _ _ hDispatched
      refine ⟨⟨row, ?_, hId, hPending⟩, ?_, ?_⟩
      · show row ∈ db.outbox
        rcases hDb with rfl | ⟨rfl, _⟩
        · exact mem_setOutboxStatus_of_ne hRow hApart
        · exact hRow
      · exact release_outboxLock_of_none hWaits.free
      · rw [hId] at hApart
        simp only [Desk.book, Function.update_of_ne hApart]
        exact hWaits.available
  | requeueFlush operator now =>
      rcases deskRequeueFlush_putsBack hStep with
        ⟨requeuedId, hPutsBack⟩
      rcases hPutsBack.loaded with ⟨loaded, hLoaded⟩
      rcases hPutsBack.retries with ⟨retry, hRetries⟩
      have hElsewhere : outboxEventId ≠ requeuedId := by
        rintro rfl
        simp only [Overlooks, hLoaded] at hOverlooks
        exact hOverlooks rfl
      have hApart : row.id ≠ requeuedId := by
        rw [hId]
        exact hElsewhere
      refine ⟨⟨row, ?_, hId, hPending⟩, ?_, ?_⟩
      · rw [hPutsBack.system]
        exact mem_setOutboxStatus_of_ne hRow hApart
      · rw [hPutsBack.system]
        exact hWaits.free
      · rw [hRetries, Function.update_of_ne hElsewhere]
        exact hWaits.available
  | requeueRead operator readId =>
      simp only [deskStep, deskRequeueRead] at hStep
      split at hStep
      · split at hStep
        · cases hStep
          exact ⟨hWaits.pending, hWaits.free,
            hWaits.available⟩
        · split at hStep
          · cases hStep
            exact ⟨hWaits.pending, hWaits.free,
              hWaits.available⟩
          · cases hStep
            exact ⟨hWaits.pending, hWaits.free,
              hWaits.available⟩
      · cases hStep
  | kill operator =>
      simp only [deskStep, deskKill] at hStep
      split at hStep
      · cases hStep
        exact ⟨hWaits.pending, hWaits.free,
          hWaits.available⟩
      · cases hStep

------------------------------------------------------------
-- Every Run
------------------------------------------------------------

/- Where a row is due, a worker that polls finds a row. -/
theorem Desk.Waits.claimable
    {now : Timestamp}
    (hWaits : desk.Waits outboxEventId due)
    (hNow : due ≤ now) :
    ∃ claimedId, desk.claimsOne now claimedId = true := by
  rcases hWaits.pending with ⟨row, hRow, hId, hPending⟩
  have hDue : desk.due now row = true := by
    unfold Desk.due
    simp [hPending, hId, hWaits.available, hNow,
      hWaits.free]
  have hMem :
      row ∈ (desk.system.db.outbox.filter
        (desk.due now)).toFinset :=
    List.mem_toFinset.mpr
      (List.mem_filter.mpr ⟨hRow, hDue⟩)
  rcases Finset.exists_min_image _
      (fun event => (desk.retries event.id).availableAt)
      ⟨row, hMem⟩ with ⟨first, hFirst, hLeast⟩
  rw [List.mem_toFinset, List.mem_filter] at hFirst
  refine ⟨first.id, ?_⟩
  unfold Desk.claimsOne
  rw [Bool.and_eq_true, List.any_eq_true, List.all_eq_true]
  refine ⟨⟨first, hFirst.1, by simp [hFirst.2]⟩, ?_⟩
  intro event hEvent
  cases hEventDue : desk.due now event with
  | false => rfl
  | true =>
      have hLe :=
        hLeast event (List.mem_toFinset.mpr
          (List.mem_filter.mpr ⟨hEvent, hEventDue⟩))
      simpa using hLe

/-
  From any reachable state on, as long as a due event waits
  unclaimed, every poll finds an event to claim, and the
  workers claim no more events than there were ahead of it,
  but for one more after each dispatch that died and each row
  an operator put back.
-/
theorem due_event_is_not_starved
    (config : Config)
    (past labels : List DeskLabel)
    (desk final : Desk)
    (outboxEventId : Uuid)
    (due : Timestamp)
    (hPast :
      Lts.exec (deskStep config) {} past = some desk)
    (hWaits : desk.Waits outboxEventId due)
    (hOverlooks :
      Lts.Meets (deskStep config)
        (Overlooks outboxEventId due) desk labels)
    (hRun :
      Lts.exec (deskStep config) desk labels =
        some final) :
    final.Waits outboxEventId due ∧
      (∀ now, due ≤ now →
        ∃ claimedId,
          final.claimsOne now claimedId = true) ∧
      Lts.total (deskStep config) begins desk labels ≤
        (desk.ahead outboxEventId due).length +
          Lts.total (deskStep config) setbacks desk
            labels := by
  have hKeep :
      ∀ (desk : Desk) (label : DeskLabel) (next : Desk),
        (Orderly desk.system ∧
            LocksDispatching desk.system) →
          deskStep config desk label = some next →
            (Orderly next.system ∧
              LocksDispatching next.system) :=
    fun _ _ _ hBoth hStep =>
      ⟨orderly_step hBoth.1 hStep,
        locksDispatching_step hBoth.2 hStep⟩
  have hStart :
      Orderly ({} : Desk).system ∧
        LocksDispatching ({} : Desk).system :=
    ⟨orderly_initial, locksDispatching_initial⟩
  have hReached := Lts.invariant_of_exec hKeep hStart hPast
  have hStays :
      ∀ (desk : Desk) (label : DeskLabel) (next : Desk),
        ((Orderly desk.system ∧
              LocksDispatching desk.system) ∧
            desk.Waits outboxEventId due) →
          Overlooks outboxEventId due desk label →
            deskStep config desk label = some next →
              ((Orderly next.system ∧
                  LocksDispatching next.system) ∧
                next.Waits outboxEventId due) :=
    fun desk label next hBoth hOver hStep =>
      ⟨hKeep desk label next hBoth.1 hStep,
        waits_step hBoth.1.1 hBoth.2 hOver hStep⟩
  have hFinal :=
    Lts.invariant_of_meets hStays ⟨hReached, hWaits⟩
      hOverlooks hRun
  have hPaid :
      Lts.total (deskStep config) begins desk labels +
          (final.aheadIds outboxEventId due).card ≤
        Lts.total (deskStep config) setbacks desk labels +
          (desk.aheadIds outboxEventId due).card :=
    Lts.total_add_le_total_of_meets setbacks
      (fun desk => (desk.aheadIds outboxEventId due).card)
      hStays
      (fun _ _ _ hBoth hOver hStep =>
        aheadIds_step hBoth.1.1 hBoth.1.2 hBoth.2 hOver
          hStep)
      ⟨hReached, hWaits⟩ hOverlooks hRun
  have hCard :
      (desk.aheadIds outboxEventId due).card ≤
        (desk.ahead outboxEventId due).length :=
    Desk.card_aheadIds_le
  refine ⟨hFinal.2, ?_, by omega⟩
  intro now hNow
  exact hFinal.2.claimable hNow

/- Two webhooks come in, one after the other. -/
def twoReceived : List DeskLabel :=
  [.service ⟨0, .receiveWebhook
      { providerName := "mock"
        providerEventId := "first"
        eventType := "payment.succeeded"
        providerTransactionId := none }, .numbered 1⟩,
    .service ⟨1, .receiveWebhook
      { providerName := "mock"
        providerEventId := "second"
        eventType := "payment.succeeded"
        providerTransactionId := none }, .numbered 2 1⟩]

/- A worker dies over the first one, the next one raises. -/
def firstTwice : List DeskLabel :=
  [.service ⟨2, .dispatchBegin 1 0, .numbered 3 2⟩,
    .service ⟨2, .die, .numbered 4 2⟩,
    .service ⟨3, .dispatchBegin 1 0, .numbered 5 2⟩,
    .fail 3 "unreachable" 2 0]

theorem due_event_is_not_starved_second :
    ∃ desk final,
      Lts.exec (deskStep { sha256 := spellOut }) {}
          twoReceived = some desk ∧
        Lts.exec (deskStep { sha256 := spellOut }) desk
            firstTwice = some final ∧
        Lts.total (deskStep { sha256 := spellOut }) begins
            desk firstTwice = 2 ∧
        (desk.ahead 2 1).length = 1 ∧
        final.Waits 2 1 ∧
        Lts.total (deskStep { sha256 := spellOut }) begins
            desk firstTwice ≤
          (desk.ahead 2 1).length +
            Lts.total (deskStep { sha256 := spellOut })
              setbacks desk firstTwice := by
  have hRun :
      (Lts.exec (deskStep { sha256 := spellOut }) {}
        twoReceived).map (fun desk =>
          ((Lts.exec (deskStep { sha256 := spellOut }) desk
              firstTwice).isSome,
            decide (Lts.Meets
              (deskStep { sha256 := spellOut })
              (Overlooks 2 1) desk firstTwice),
            Lts.total (deskStep { sha256 := spellOut })
              begins desk firstTwice,
            (desk.ahead 2 1).length,
            decide ((∃ row ∈ desk.system.db.outbox,
                row.id = 2 ∧ row.status = .pending) ∧
              desk.system.outboxLock 2 = none ∧
              (desk.retries 2).availableAt = 1))) =
        some (true, true, 2, 1, true) := by
    decide +kernel
  rcases Option.map_eq_some_iff.mp hRun with
    ⟨desk, hExec, hAll⟩
  simp only [Prod.mk.injEq, decide_eq_true_eq] at hAll
  rcases hAll with
    ⟨hLater, hMeets, hBegins, hAhead, hPending, hFree, hDue⟩
  rcases Option.isSome_iff_exists.mp hLater with
    ⟨final, hFinal⟩
  have hBound :=
    due_event_is_not_starved _ _ _ _ _ 2 1 hExec
      ⟨hPending, hFree, hDue⟩ hMeets hFinal
  exact ⟨desk, final, hExec, hFinal, hBegins, hAhead,
    hBound.1, hBound.2.2⟩

end PayGuard

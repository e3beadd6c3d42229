import PayGuard.System.Deliveries

/-
  The outbox worker's bookkeeping and the operators.

  `process_next` claims the due row that waits longest,
  dispatches it and marks it processed.  A dispatch that
  raises is counted on its row and put off, or given up as a
  dead letter.  `requeue_dead_letter` reads such a row
  without a lock and later writes the columns it changed.

  Every statement of the handlers that raises stands before
  their first write, so a dispatch that fails commits its
  bookkeeping and nothing else.

  Key definitions include:
    * `Retry`
    * `computeBackoff`
    * `Operator`
    * `Desk`
    * `deskStep`
    * `DeskEffect`
    * `Orderly`

  Key theorems include:
    * `deskStep_effect`
    * `DeliveryStep.outbox`
    * `orderly_step`
-/

------------------------------------------------------------
-- Retries
------------------------------------------------------------

namespace PayGuard

def maxAttempts : Nat := 8

/- One second and five minutes, in microseconds. -/
def baseDelay : Timestamp := 1000000

def maxDelay : Timestamp := 300000000

/- The columns of an outbox row that only retries use. -/
structure Retry where
  attemptCount : Nat := 0
  availableAt : Timestamp := 0
  failureReason : Option String := none
deriving DecidableEq, Repr

/- Full jitter: any delay up to the exponential one. -/
def computeBackoff
    (attemptCount : Nat)
    (jitter : Timestamp) : Option Timestamp :=
  if 0 ≤ jitter ∧
      jitter ≤
        min maxDelay
          (baseDelay * 2 ^ (attemptCount - 1)) then
    some jitter
  else
    none

/- The text of an exception, cut to its first 500 letters. -/
def failureText (text : String) : String :=
  String.ofList (text.toList.take 500)

/-
  The columns `requeue_dead_letter` resets.  The flush only
  writes those that differ from what the operator has read.
-/
def Retry.reset
    (row loaded : Retry)
    (now : Timestamp) : Retry where
  attemptCount :=
    if loaded.attemptCount = 0 then row.attemptCount else 0
  availableAt :=
    if loaded.availableAt = now then row.availableAt else now
  failureReason :=
    if loaded.failureReason = none then
      row.failureReason
    else
      none

def setOutboxStatus
    (db : Database)
    (outboxEventId : Uuid)
    (status : OutboxStatus) : Database :=
  { db with
    outbox :=
      Table.updateWhere
        (fun event => event.id = outboxEventId)
        (fun event => { event with status := status })
        db.outbox }

------------------------------------------------------------
-- Desks
------------------------------------------------------------

abbrev OperatorId := Nat

/- The position of a `requeue_dead_letter` call. -/
inductive Operator where
| idle
| loaded (outboxEventId : Uuid) (retry : Retry)
| done (requeued : Bool)
| dead
deriving DecidableEq, Repr

/- The services, the retry columns and the operators. -/
structure Desk where
  system : System := {}
  retries : Uuid → Retry := fun _ => {}
  operators : OperatorId → Operator := fun _ => .idle

inductive DeskLabel where
| service (label : Label)
| fail
    (call : CallId)
    (text : String)
    (now jitter : Timestamp)
| requeueRead (operator : OperatorId) (outboxEventId : Uuid)
| requeueFlush (operator : OperatorId) (now : Timestamp)
| kill (operator : OperatorId)
deriving DecidableEq, Repr

namespace Desk

/- A row `_claim_one` may return. -/
def due
    (desk : Desk)
    (now : Timestamp)
    (event : OutboxEvent) : Bool :=
  event.status = .pending &&
    decide ((desk.retries event.id).availableAt ≤ now) &&
    desk.system.outboxLock event.id = none

/- The row it returns: no due row waits longer. -/
def claimsOne
    (desk : Desk)
    (now : Timestamp)
    (outboxEventId : Uuid) : Bool :=
  desk.system.db.outbox.any (fun event =>
      event.id = outboxEventId && desk.due now event) &&
    desk.system.db.outbox.all (fun event =>
      !desk.due now event ||
        decide ((desk.retries outboxEventId).availableAt ≤
          (desk.retries event.id).availableAt))

/- Which steps of the services the worker leads to. -/
def admits
    (config : Config)
    (desk : Desk)
    (label : Label) : Bool :=
  match label.action, desk.system.calls label.call with
  | .dispatchBegin outboxEventId _, _ =>
      desk.claimsOne label.draw.now outboxEventId
  | .dispatchFinish, .dispatchOpen _ webhookEventId plan =>
      (dispatchEffect config desk.system.db webhookEventId
        plan label.draw).isOk
  | _, _ => true

/- A row inserted by a step starts with the defaults. -/
def insertedRetries
    (desk : Desk)
    (draw : Draw) : Uuid → Retry :=
  fun outboxEventId =>
    if desk.system.db.outbox.any (fun event =>
        event.id = outboxEventId) then
      desk.retries outboxEventId
    else
      { availableAt := draw.serverNow }

/- The bookkeeping of a dispatch that raised. -/
def book
    (desk : Desk)
    (call : CallId)
    (outboxEventId : Uuid)
    (db : Database)
    (retry : Retry) : Desk :=
  { desk with
    system :=
      (desk.system.release call).commit call db
        (.done .dispatched)
    retries :=
      Function.update desk.retries outboxEventId retry }

def operate
    (desk : Desk)
    (operator : OperatorId)
    (position : Operator) : Desk :=
  { desk with
    operators :=
      Function.update desk.operators operator position }

end Desk

------------------------------------------------------------
-- Steps
------------------------------------------------------------

def deskService
    (config : Config)
    (desk : Desk)
    (label : Label) : Option Desk :=
  if desk.admits config label then
    match step config desk.system label with
    | none => none
    | some system =>
        some
          { desk with
            system := system
            retries := desk.insertedRetries label.draw }
  else
    none

/-
  `process_next` catches what its dispatch raises.  A text
  that the column refuses fails the commit: such a call
  leaves nothing behind, like one that dies.
-/
def deskFail
    (desk : Desk)
    (call : CallId)
    (text : String)
    (now jitter : Timestamp) : Option Desk :=
  match desk.system.calls call with
  | .dispatchOpen outboxEventId _ _ =>
      let retry := desk.retries outboxEventId
      let counted :=
        { retry with
          attemptCount := retry.attemptCount + 1
          failureReason := some (failureText text) }
      if !fitsText (failureText text) then
        none
      else if maxAttempts ≤ counted.attemptCount then
        some (desk.book call outboxEventId
          (setOutboxStatus desk.system.db outboxEventId
            .deadLetter)
          counted)
      else
        match computeBackoff counted.attemptCount jitter with
        | none => none
        | some delay =>
            some (desk.book call outboxEventId
              desk.system.db
              { counted with availableAt := now + delay })
  | _ => none

/- `session.get` takes no lock. -/
def deskRequeueRead
    (desk : Desk)
    (operator : OperatorId)
    (outboxEventId : Uuid) : Option Desk :=
  match desk.operators operator with
  | .idle =>
      match desk.system.db.outbox.find? (fun event =>
          event.id = outboxEventId) with
      | none => some (desk.operate operator (.done false))
      | some event =>
          if event.status = .deadLetter then
            some (desk.operate operator
              (.loaded outboxEventId
                (desk.retries outboxEventId)))
          else
            some (desk.operate operator (.done false))
  | _ => none

/-
  The flush waits for the row lock of a worker.  It selects
  its row by identifier and does not look at the status.
-/
def deskRequeueFlush
    (desk : Desk)
    (operator : OperatorId)
    (now : Timestamp) : Option Desk :=
  match desk.operators operator with
  | .loaded outboxEventId loaded =>
      if desk.system.outboxLock outboxEventId = none then
        some
          { desk.operate operator (.done true) with
            system :=
              { desk.system with
                db :=
                  setOutboxStatus desk.system.db
                    outboxEventId .pending }
            retries :=
              Function.update desk.retries outboxEventId
                ((desk.retries outboxEventId).reset loaded
                  now) }
      else
        none
  | _ => none

def deskKill
    (desk : Desk)
    (operator : OperatorId) : Option Desk :=
  match desk.operators operator with
  | .loaded _ _ => some (desk.operate operator .dead)
  | _ => none

def deskStep
    (config : Config)
    (desk : Desk) :
    DeskLabel → Option Desk
| .service label => deskService config desk label
| .fail call text now jitter =>
    deskFail desk call text now jitter
| .requeueRead operator outboxEventId =>
    deskRequeueRead desk operator outboxEventId
| .requeueFlush operator now =>
    deskRequeueFlush desk operator now
| .kill operator => deskKill desk operator

end PayGuard

------------------------------------------------------------
-- Effects
------------------------------------------------------------

namespace PayGuard

/- All a step of a desk can do to the services. -/
inductive DeskEffect
    (config : Config)
    (desk : Desk)
    (next : Desk) : DeskLabel → Prop where
| service
    (label : Label)
    (hStep : step config desk.system label = some next.system) :
    DeskEffect config desk next (.service label)
| fail
    (call : CallId)
    (text : String)
    (now jitter : Timestamp)
    (outboxEventId webhookEventId : Uuid)
    (plan : WebhookPlan)
    (db : Database)
    (hCall :
      desk.system.calls call =
        .dispatchOpen outboxEventId webhookEventId plan)
    (hDb :
      db = desk.system.db ∨
        db =
          setOutboxStatus desk.system.db outboxEventId
            .deadLetter)
    (hSystem :
      next.system =
        (desk.system.release call).commit call db
          (.done .dispatched)) :
    DeskEffect config desk next (.fail call text now jitter)
| flush
    (operator : OperatorId)
    (now : Timestamp)
    (outboxEventId : Uuid)
    (loaded : Retry)
    (hOperator :
      desk.operators operator =
        .loaded outboxEventId loaded)
    (hFree : desk.system.outboxLock outboxEventId = none)
    (hSystem :
      next.system =
        { desk.system with
          db :=
            setOutboxStatus desk.system.db outboxEventId
              .pending }) :
    DeskEffect config desk next (.requeueFlush operator now)
| read
    (operator : OperatorId)
    (outboxEventId : Uuid)
    (hSystem : next.system = desk.system) :
    DeskEffect config desk next
      (.requeueRead operator outboxEventId)
| kill
    (operator : OperatorId)
    (hSystem : next.system = desk.system) :
    DeskEffect config desk next (.kill operator)

variable {config : Config}
variable {desk next : Desk}

theorem deskService_effect
    {label : Label}
    (hStep : deskService config desk label = some next) :
    DeskEffect config desk next (.service label) := by
  unfold deskService at hStep
  split at hStep
  · split at hStep
    · cases hStep
    · rename_i system hSystem
      cases hStep
      exact .service label hSystem
  · cases hStep

theorem deskFail_effect
    {call : CallId}
    {text : String}
    {now jitter : Timestamp}
    (hStep :
      deskFail desk call text now jitter = some next) :
    DeskEffect config desk next
      (.fail call text now jitter) := by
  unfold deskFail at hStep
  split at hStep
  · rename_i outboxEventId webhookEventId plan hCall
    simp only at hStep
    split at hStep
    · cases hStep
    · split at hStep
      · cases hStep
        exact .fail call text now jitter outboxEventId
          webhookEventId plan _ hCall (.inr rfl) rfl
      · split at hStep
        · cases hStep
        · cases hStep
          exact .fail call text now jitter outboxEventId
            webhookEventId plan _ hCall (.inl rfl) rfl
  · cases hStep

theorem deskRequeueRead_effect
    {operator : OperatorId}
    {outboxEventId : Uuid}
    (hStep :
      deskRequeueRead desk operator outboxEventId =
        some next) :
    DeskEffect config desk next
      (.requeueRead operator outboxEventId) := by
  refine .read operator outboxEventId ?_
  unfold deskRequeueRead at hStep
  split at hStep
  · split at hStep
    · cases hStep
      rfl
    · split at hStep
      · cases hStep
        rfl
      · cases hStep
        rfl
  · cases hStep

theorem deskRequeueFlush_effect
    {operator : OperatorId}
    {now : Timestamp}
    (hStep :
      deskRequeueFlush desk operator now = some next) :
    DeskEffect config desk next
      (.requeueFlush operator now) := by
  unfold deskRequeueFlush at hStep
  split at hStep
  · rename_i outboxEventId loaded hOperator
    split at hStep
    · rename_i hFree
      cases hStep
      exact .flush operator now outboxEventId loaded
        hOperator hFree rfl
    · cases hStep
  · cases hStep

theorem deskKill_effect
    {operator : OperatorId}
    (hStep : deskKill desk operator = some next) :
    DeskEffect config desk next (.kill operator) := by
  unfold deskKill at hStep
  split at hStep
  · cases hStep
    exact .kill operator rfl
  · cases hStep

theorem deskStep_effect
    {label : DeskLabel}
    (hStep : deskStep config desk label = some next) :
    DeskEffect config desk next label := by
  cases label with
  | service label => exact deskService_effect hStep
  | fail call text now jitter =>
      exact deskFail_effect hStep
  | requeueRead operator outboxEventId =>
      exact deskRequeueRead_effect hStep
  | requeueFlush operator now =>
      exact deskRequeueFlush_effect hStep
  | kill operator => exact deskKill_effect hStep

end PayGuard

------------------------------------------------------------
-- Outbox Rows Across A Step
------------------------------------------------------------

namespace PayGuard

variable {config : Config}
variable {system next : System}
variable {call : CallId}
variable {draw : Draw}
variable {db : Database}
variable {event : OutboxEvent}
variable {outboxEventId : Uuid}
variable {status : OutboxStatus}

/- Setting a status keeps every row but for its status. -/
theorem mem_setOutboxStatus
    (hEvent :
      event ∈
        (setOutboxStatus db outboxEventId status).outbox) :
    ∃ row ∈ db.outbox,
      event.id = row.id ∧
        (row.id = outboxEventId ∧ event.status = status ∨
          row.id ≠ outboxEventId ∧ event = row) := by
  rcases Table.mem_updateWhere.mp hEvent with
    ⟨row, hRow, rfl⟩
  refine ⟨row, hRow, ?_⟩
  by_cases hId : row.id = outboxEventId
  · simp [hId]
  · simp [hId]

/- Rows of other identifiers stay where they are. -/
theorem mem_setOutboxStatus_of_ne
    (hEvent : event ∈ db.outbox)
    (hId : event.id ≠ outboxEventId) :
    event ∈
      (setOutboxStatus db outboxEventId status).outbox :=
  Table.mem_updateWhere_of_not_selected hEvent
    (by simpa using hId)

theorem setOutboxStatus_ids :
    (setOutboxStatus db outboxEventId status).outbox.map
        (·.id) =
      db.outbox.map (·.id) := by
  unfold setOutboxStatus
  apply Table.map_updateWhere
  intro row
  rfl

/-
  A step of the services adds pending rows under a fresh
  identifier, and only a dispatch marks one as processed.
-/
theorem DeliveryStep.outbox
    (hDelivery : DeliveryStep config system call draw next) :
    ∃ db,
      (db.outbox = system.db.outbox ∨
        ∃ event,
          event.id = draw.outbox ∧
            event.status = .pending ∧
            db.outbox = system.db.outbox ++ [event]) ∧
        (next.db.outbox = db.outbox ∨
          ∃ outboxEventId webhookEventId plan,
            (system.calls call).dispatched =
                some (outboxEventId, webhookEventId, plan) ∧
              next.db.outbox =
                (setOutboxStatus db outboxEventId
                  .processed).outbox) := by
  cases hDelivery with
  | announce hAnnounces =>
      refine ⟨next.db, ?_, .inl rfl⟩
      cases hAnnounces with
      | nothing hSame => exact .inl hSame.outbox
      | one event hEvent _ hOutbox =>
          exact .inr ⟨event, hEvent.id, hEvent.status,
            hOutbox⟩
  | receive delivery _ hDb =>
      refine ⟨next.db, ?_, .inl rfl⟩
      rw [hDb]
      unfold receiveWebhook
      split
      · exact .inl rfl
      · exact .inr ⟨_, rfl, rfl, rfl⟩
  | dispatch outboxEventId webhookEventId plan db hCall _
      hBody hDb =>
      refine ⟨db, ?_, .inr ⟨outboxEventId, webhookEventId,
        plan, by rw [hCall]; rfl, by rw [hDb]; rfl⟩⟩
      rcases dispatchEffect_deliveries hBody with
        ⟨_, rfl⟩ | ⟨_, base, status, _, hAnnounces, rfl⟩
      · exact .inl rfl
      · cases hAnnounces with
        | nothing hSame => exact .inl hSame.outbox
        | one event hEvent _ hOutbox =>
            exact .inr ⟨event, hEvent.id, hEvent.status,
              hOutbox⟩

end PayGuard

------------------------------------------------------------
-- Rows Under Dispatch
------------------------------------------------------------

namespace PayGuard

/- The row is on file and waits to be processed. -/
structure Database.Waiting
    (db : Database)
    (outboxEventId : Uuid) : Prop where
  stored : outboxEventId ∈ db.outbox.map (·.id)
  pending :
    ∀ event ∈ db.outbox,
      event.id = outboxEventId → event.status = .pending

/-
  Outbox rows have distinct identifiers, and a row that is
  being dispatched is locked and still waits.
-/
structure Orderly (system : System) : Prop where
  ids : (system.db.outbox.map (·.id)).Nodup
  locked : DispatchesLocked system
  waiting :
    ∀ call outboxEventId webhookEventId plan,
      (system.calls call).dispatched =
          some (outboxEventId, webhookEventId, plan) →
        system.db.Waiting outboxEventId

theorem orderly_initial : Orderly {} where
  ids := List.nodup_nil
  locked := dispatchesLocked_initial
  waiting := by
    intro call outboxEventId webhookEventId plan hDispatched
    cases hDispatched

variable {config : Config}
variable {system next : System}
variable {call other : CallId}
variable {draw : Draw}
variable {db : Database}
variable {outboxEventId webhookEventId : Uuid}
variable {plan : WebhookPlan}

/- Two calls never dispatch the same row. -/
theorem Orderly.apart
    {otherEventId otherWebhookId : Uuid}
    {otherPlan : WebhookPlan}
    (hOrderly : Orderly system)
    (hOther : other ≠ call)
    (hCall :
      (system.calls call).dispatched =
        some (outboxEventId, webhookEventId, plan))
    (hDispatched :
      (system.calls other).dispatched =
        some (otherEventId, otherWebhookId, otherPlan)) :
    otherEventId ≠ outboxEventId := by
  intro hSame
  have hLock := hOrderly.locked call _ _ _ hCall
  have hOtherLock := hOrderly.locked other _ _ _ hDispatched
  rw [hSame, hLock] at hOtherLock
  exact hOther (Option.some.inj hOtherLock).symm

theorem Database.Waiting.congr
    {next : Database}
    (hWaiting : db.Waiting outboxEventId)
    (hOutbox : next.outbox = db.outbox) :
    next.Waiting outboxEventId where
  stored := by
    rw [hOutbox]
    exact hWaiting.stored
  pending := by
    rw [hOutbox]
    exact hWaiting.pending

/- Appending a fresh row keeps the others waiting. -/
theorem Database.Waiting.append
    {event : OutboxEvent}
    {next : Database}
    (hWaiting : db.Waiting outboxEventId)
    (hFresh : event.id ∉ db.outbox.map (·.id))
    (hOutbox : next.outbox = db.outbox ++ [event]) :
    next.Waiting outboxEventId where
  stored := by
    rw [hOutbox, List.map_append]
    exact List.mem_append_left _ hWaiting.stored
  pending := by
    intro row hRow hId
    rw [hOutbox, List.mem_append, List.mem_singleton] at hRow
    rcases hRow with hRow | rfl
    · exact hWaiting.pending row hRow hId
    · rw [hId] at hFresh
      exact absurd hWaiting.stored hFresh

/- Writing another row keeps this one waiting. -/
theorem Database.Waiting.set
    {otherEventId : Uuid}
    (status : OutboxStatus)
    (hWaiting : db.Waiting outboxEventId)
    (hStatus :
      outboxEventId ≠ otherEventId ∨ status = .pending) :
    (setOutboxStatus db otherEventId status).Waiting
      outboxEventId where
  stored := by
    rw [setOutboxStatus_ids]
    exact hWaiting.stored
  pending := by
    intro event hEvent hId
    rcases mem_setOutboxStatus hEvent with
      ⟨row, hRow, hRowId, ⟨hOther, hSet⟩ | ⟨_, rfl⟩⟩
    · rcases hStatus with hNe | hPending
      · exact absurd (hId.symm.trans (hRowId.trans hOther)) hNe
      · rw [hSet, hPending]
    · exact hWaiting.pending event hRow hId

/- A fresh row keeps the identifiers apart. -/
theorem outbox_ids_append
    {event : OutboxEvent}
    {next : Database}
    (hIds : (db.outbox.map (·.id)).Nodup)
    (hFresh : event.id ∉ db.outbox.map (·.id))
    (hOutbox : next.outbox = db.outbox ++ [event]) :
    (next.outbox.map (·.id)).Nodup := by
  rw [hOutbox, List.map_append]
  refine List.Nodup.append hIds (List.nodup_singleton _) ?_
  intro id hId hNew
  rw [List.map_singleton, List.mem_singleton] at hNew
  subst hNew
  exact hFresh hId

theorem orderly_service
    {label : Label}
    (hOrderly : Orderly system)
    (hStep : step config system label = some next) :
    Orderly next := by
  rcases step_effect hStep with ⟨hAdmits, hEffect⟩
  rcases hEffect.deliveryStep.outbox with
    ⟨db, hAdded, hMarked⟩
  have hFresh := hAdmits.2.2.2.2.1
  have hIds : (db.outbox.map (·.id)).Nodup := by
    rcases hAdded with hSame | ⟨event, hId, _, hOutbox⟩
    · rw [hSame]
      exact hOrderly.ids
    · exact outbox_ids_append hOrderly.ids
        (by rwa [hId]) hOutbox
  have hKept :
      ∀ outboxEventId,
        system.db.Waiting outboxEventId →
          db.Waiting outboxEventId := by
    intro outboxEventId hWaiting
    rcases hAdded with hSame | ⟨event, hId, _, hOutbox⟩
    · exact hWaiting.congr hSame
    · exact hWaiting.append (by rwa [hId]) hOutbox
  refine
    { ids := ?_
      locked := dispatchesLocked_step hOrderly.locked hStep
      waiting := ?_ }
  · rcases hMarked with hSame | ⟨outboxEventId, _, _, _,
        hOutbox⟩
    · rw [hSame]
      exact hIds
    · rw [hOutbox, setOutboxStatus_ids]
      exact hIds
  · intro other outboxEventId webhookEventId plan hDispatched
    by_cases hOther : other = label.call
    · subst hOther
      rcases step_dispatching hStep with
        ⟨event, pick, _, hBegins⟩ | ⟨_, hUndispatched⟩
      · rw [hBegins.next] at hDispatched ⊢
        simp only [System.become_calls_self, Call.dispatched,
          Option.some.injEq, Prod.mk.injEq] at hDispatched
        rcases hDispatched with ⟨rfl, _, _⟩
        refine ⟨List.mem_map_of_mem hBegins.stored, ?_⟩
        intro row hRow hId
        have hSame : row = event :=
          List.inj_on_of_nodup_map hOrderly.ids hRow
            hBegins.stored hId
        rw [hSame]
        exact hBegins.pending
      · rw [hUndispatched.position] at hDispatched
        cases hDispatched
    · rw [hEffect.frame.calls other hOther] at hDispatched
      have hWaiting :=
        hKept _ (hOrderly.waiting other _ _ _ hDispatched)
      rcases hMarked with hSame | ⟨_, _, _, hCall, hOutbox⟩
      · exact hWaiting.congr hSame
      · have hApart :=
          hOrderly.apart hOther hCall hDispatched
        exact (hWaiting.set .processed
          (.inl hApart)).congr hOutbox

/- The step of a desk keeps its rows in order. -/
theorem orderly_step
    {desk next : Desk}
    {label : DeskLabel}
    (hOrderly : Orderly desk.system)
    (hStep : deskStep config desk label = some next) :
    Orderly next.system := by
  cases deskStep_effect hStep with
  | service label hService =>
      exact orderly_service hOrderly hService
  | fail call text now jitter outboxEventId webhookEventId
      plan db hCall hDb hSystem =>
      have hDispatched :
          (desk.system.calls call).dispatched =
            some (outboxEventId, webhookEventId, plan) := by
        rw [hCall]
        rfl
      have hCalls :
          ∀ other, other ≠ call →
            next.system.calls other =
              desk.system.calls other := by
        intro other hOther
        rw [hSystem]
        exact Function.update_of_ne hOther _ _
      have hUndispatched :
          Undispatched desk.system call next.system := by
        rw [hSystem]
        exact ⟨by simp [Call.dispatched], .inr rfl⟩
      refine
        { ids := ?_
          locked :=
            hOrderly.locked.undispatched hUndispatched hCalls
          waiting := ?_ }
      · rw [hSystem, System.commit_db]
        rcases hDb with rfl | rfl
        · exact hOrderly.ids
        · rw [setOutboxStatus_ids]
          exact hOrderly.ids
      · intro other otherEventId _ _ hOpen
        by_cases hOther : other = call
        · rw [hOther, hUndispatched.position] at hOpen
          cases hOpen
        · rw [hCalls other hOther] at hOpen
          have hWaiting := hOrderly.waiting other _ _ _ hOpen
          rw [hSystem, System.commit_db]
          rcases hDb with rfl | rfl
          · exact hWaiting
          · exact hWaiting.set _
              (.inl (hOrderly.apart hOther hDispatched hOpen))
  | flush operator now outboxEventId loaded _ _ hSystem =>
      rw [hSystem]
      refine
        { ids := ?_
          locked := hOrderly.locked
          waiting := ?_ }
      · show ((setOutboxStatus desk.system.db outboxEventId
          .pending).outbox.map (·.id)).Nodup
        rw [setOutboxStatus_ids]
        exact hOrderly.ids
      · intro call _ _ _ hDispatched
        exact (hOrderly.waiting call _ _ _ hDispatched).set
          _ (.inr rfl)
  | read operator outboxEventId hSystem =>
      rw [hSystem]
      exact hOrderly
  | kill operator hSystem =>
      rw [hSystem]
      exact hOrderly

end PayGuard

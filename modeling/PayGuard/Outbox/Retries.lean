import PayGuard.Outbox.Dispatch

/-
  How often an event that always fails is claimed.

  As long as a failed dispatch leaves a transaction that can
  still commit, and an event object it has not counted on,
  every claim is counted, and the eighth one makes a dead
  letter.  A transaction that the server has aborted takes
  the count with it.

  Key definitions include:
    * `Outbox`
    * `outboxStep`
    * `Committable`
    * `AlwaysFails`
    * `CountedRetries`

  Key theorems include:
    * `tally_step`
    * `failed_retries_are_counted`
-/

------------------------------------------------------------
-- Runs Of An Outbox
------------------------------------------------------------

namespace PayGuard

open Lts

variable {R : Type}

/-
  The outbox, and how often each event has been claimed
  since it was stored or last requeued.
-/
structure Outbox (R : Type) where
  store : OutboxStore R
  claims : Uuid → Nat := fun _ => 0

inductive OutboxLabel (R : Type) where
| process (poll : Poll R)
| requeue (eventId : Uuid) (now : Timestamp)
-- another transaction commits a new event
| enqueue (event : OutboxEvent) (now : Timestamp)
-- or it changes other tables
| commit (rest : R)

def outboxStep
    (outbox : Outbox R) :
    OutboxLabel R → Option (Outbox R)
| .process poll =>
    match processNext outbox.store poll with
    | none => none
    | some processed =>
        some
          { store := processed.committed outbox.store
            claims :=
              match claimOne outbox.store poll with
              | none => outbox.claims
              | some row =>
                  Function.update outbox.claims row.event.id
                    (outbox.claims row.event.id + 1) }
| .requeue eventId now =>
    let requeued :=
      requeueDeadLetter outbox.store eventId now
    some
      { store := requeued.1
        claims :=
          if requeued.2 then
            Function.update outbox.claims eventId 0
          else
            outbox.claims }
| .enqueue event now =>
    if event.status = .pending ∧
        event.id ∉
          outbox.store.queue.map (·.event.id) then
      some
        { outbox with
          store :=
            { outbox.store with
              queue :=
                outbox.store.queue ++
                  [{ event := event
                     retry := { availableAt := now } }] } }
    else
      none
| .commit rest =>
    some
      { outbox with
        store := { outbox.store with rest := rest } }

------------------------------------------------------------
-- Conditions On A Dispatch
------------------------------------------------------------

/- The columns a worker counts by. -/
def OutboxRow.mark
    (row : OutboxRow) : Uuid × OutboxStatus × Nat :=
  (row.event.id, row.event.status, row.retry.attemptCount)

/- Rows are only added, and with new identifiers. -/
def enqueuesOnly (queue queue' : List OutboxRow) : Bool :=
  (queue.map (·.mark)).isPrefixOf (queue'.map (·.mark)) &&
    decide (queue'.map (·.event.id)).Nodup &&
    (queue'.drop queue.length).all (fun row =>
      row.event.status = .pending &&
        row.retry.attemptCount = 0)

def Statement.isExecute : Statement R → Bool
| .execute _ => true
| .commit | .rollback => false

/- The object still stands for the row that was claimed. -/
def EventObject.keeps
    (held : EventObject)
    (claimed : OutboxRow) : Bool :=
  held.attached &&
    held.attributes.mark = claimed.mark &&
    held.loaded.mark = claimed.mark &&
    held.storable

/- The text of the exception can be stored. -/
def Raised.storable : Raised → Bool
| .text printed => fitsText (failureText printed)
| .unprintable => false

/-
  A dispatch leaves the claiming transaction open and able to
  commit, and keeps away from the columns the worker counts
  by.  Its exception, if any, has a text that can be stored.
-/
def committable
    (outbox : Outbox R)
    (label : OutboxLabel R) : Bool :=
  match label with
  | .process poll =>
      match claimOne outbox.store poll with
      | none => true
      | some claimed =>
          poll.dispatch.writes.all Statement.isExecute &&
            !(poll.session outbox.store).aborted &&
            enqueuesOnly outbox.store.queue
              (poll.session outbox.store).view.queue &&
            (poll.dispatch.held claimed).any (fun held =>
              held.keeps claimed) &&
            poll.dispatch.raises.all Raised.storable
  | _ => true

def Committable
    (outbox : Outbox R)
    (label : OutboxLabel R) : Prop :=
  committable outbox label = true

instance
    (outbox : Outbox R)
    (label : OutboxLabel R) :
    Decidable (Committable outbox label) := by
  unfold Committable
  infer_instance

/- Whenever the event is claimed, its dispatch raises. -/
def alwaysFails
    (eventId : Uuid)
    (outbox : Outbox R)
    (label : OutboxLabel R) : Bool :=
  match label with
  | .process poll =>
      (claimOne outbox.store poll).all (fun row =>
        row.event.id ≠ eventId ||
          poll.dispatch.raises.isSome)
  | _ => true

def AlwaysFails
    (eventId : Uuid)
    (outbox : Outbox R)
    (label : OutboxLabel R) : Prop :=
  alwaysFails eventId outbox label = true

instance
    (eventId : Uuid)
    (outbox : Outbox R)
    (label : OutboxLabel R) :
    Decidable (AlwaysFails eventId outbox label) := by
  unfold AlwaysFails
  infer_instance

------------------------------------------------------------
-- Claims And Rows
------------------------------------------------------------

variable {store : OutboxStore R}
variable {poll : Poll R}
variable {claimed object row : OutboxRow}
variable {queue queue' : List OutboxRow}

/- Only a pending row is ever claimed. -/
theorem claimOne_eq_some
    (hClaim : claimOne store poll = some row) :
    row ∈ store.queue ∧ row.event.status = .pending := by
  unfold claimOne at hClaim
  have hDue : row ∈ dueRows store poll := by
    rcases Option.or_eq_some_iff.mp hClaim with
      hFind | ⟨_, hHead⟩
    · exact List.mem_of_mem_filter
        (List.mem_of_find?_eq_some hFind)
    · exact List.mem_of_mem_filter (List.mem_of_head? hHead)
  unfold dueRows at hDue
  rw [List.mem_filter, Bool.and_eq_true, Bool.and_eq_true,
    decide_eq_true_eq] at hDue
  exact ⟨hDue.1, hDue.2.1.1⟩

/- What a dispatch that only enqueues leaves behind. -/
structure Enqueues
    (queue queue' : List OutboxRow) : Prop where
  ids : (queue'.map (·.event.id)).Nodup
  kept :
    ∀ row ∈ queue, ∃ row' ∈ queue', row'.mark = row.mark
  found :
    ∀ row' ∈ queue',
      (∃ row ∈ queue, row.mark = row'.mark) ∨
        (row'.event.id ∉ queue.map (·.event.id) ∧
          row'.event.status = .pending ∧
          row'.retry.attemptCount = 0)

theorem enqueues_of_enqueuesOnly
    (hOnly : enqueuesOnly queue queue' = true) :
    Enqueues queue queue' := by
  unfold enqueuesOnly at hOnly
  rw [Bool.and_eq_true, Bool.and_eq_true, decide_eq_true_eq,
    List.isPrefixOf_iff_prefix] at hOnly
  rcases hOnly with ⟨⟨⟨tail, hMarks⟩, hNodup⟩, hNew⟩
  rcases List.map_eq_append_iff.mp hMarks.symm with
    ⟨before, added, rfl, hBefore, _⟩
  have hLength : before.length = queue.length := by
    rw [← List.length_map (·.mark), hBefore,
      List.length_map]
  rw [← hLength, List.drop_left] at hNew
  have hIds :
      before.map (·.event.id) = queue.map (·.event.id) := by
    have hFirst :=
      congrArg (List.map Prod.fst) hBefore
    rwa [List.map_map, List.map_map] at hFirst
  refine ⟨hNodup, ?_, ?_⟩
  · intro row hRow
    have hMark : row.mark ∈ before.map (·.mark) := by
      rw [hBefore]
      exact List.mem_map_of_mem hRow
    rcases List.mem_map.mp hMark with ⟨row', hRow', hSame⟩
    exact ⟨row', List.mem_append_left _ hRow', hSame⟩
  · intro row' hRow'
    rcases List.mem_append.mp hRow' with hOld | hAdded
    · have hMark : row'.mark ∈ queue.map (·.mark) := by
        rw [← hBefore]
        exact List.mem_map_of_mem hOld
      rcases List.mem_map.mp hMark with ⟨row, hRow, hSame⟩
      exact .inl ⟨row, hRow, hSame⟩
    · have hFresh := List.all_eq_true.mp hNew row' hAdded
      rw [Bool.and_eq_true, decide_eq_true_eq,
        decide_eq_true_eq] at hFresh
      refine .inr ⟨?_, hFresh⟩
      intro hMem
      rw [← hIds] at hMem
      rw [List.map_append, List.nodup_append] at hNodup
      exact hNodup.2.2 _ hMem _ (List.mem_map_of_mem hAdded)
        rfl

variable {outbox : Outbox R}
variable {processed : Processed R}

/- What a committable dispatch has left for its worker. -/
structure Healthy
    (store : OutboxStore R)
    (poll : Poll R)
    (claimed : OutboxRow)
    (held : EventObject) : Prop where
  opened : (poll.session store).aborted = false
  enqueues :
    Enqueues store.queue (poll.session store).view.queue
  leaves : poll.dispatch.held claimed = some held
  attached : held.attached = true
  attributes : held.attributes.mark = claimed.mark
  loaded : held.loaded.mark = claimed.mark
  storable : held.storable = true
  raised :
    ∀ raised,
      poll.dispatch.raises = some raised →
        raised.storable = true

theorem Committable.healthy
    (hCommittable : Committable outbox (.process poll))
    (hClaim : claimOne outbox.store poll = some claimed) :
    ∃ held, Healthy outbox.store poll claimed held := by
  simp only [Committable, committable, hClaim,
    Bool.and_eq_true, Bool.not_eq_true',
    Option.any_eq_true] at hCommittable
  rcases hCommittable with
    ⟨⟨⟨⟨_, hOpened⟩, hEnqueues⟩, held, hHeld, hKeeps⟩,
      hRaised⟩
  simp only [EventObject.keeps, Bool.and_eq_true,
    decide_eq_true_eq] at hKeeps
  rcases hKeeps with
    ⟨⟨⟨hAttached, hAttributes⟩, hLoaded⟩, hStorable⟩
  refine ⟨held, hOpened, enqueues_of_enqueuesOnly hEnqueues,
    hHeld, hAttached, hAttributes, hLoaded, hStorable, ?_⟩
  intro raised hRaises
  rw [hRaises] at hRaised
  exact hRaised

/- A flush that the server accepts is committed. -/
theorem finishEvent_of_accepted
    {opened : OutboxSession R}
    {pending : List (Write R)}
    {held : EventObject}
    (hOpened : (opened.flush pending).aborted = false)
    (hAccepted :
      held.accepted (opened.flush pending).view.queue =
        true) :
    finishEvent opened pending held =
      .returned
        { (opened.flush pending).view with
          queue :=
            flushQueue held
              (opened.flush pending).view.queue }
        held.attributes.event.status := by
  unfold finishEvent
  simp only
  cases hSends : held.sends id with
  | false =>
      have hStored :
          ({ (opened.flush pending).view with
            queue :=
              flushQueue held
                (opened.flush pending).view.queue } :
            OutboxStore R) = (opened.flush pending).view := by
        rw [flushQueue_of_quiet hSends]
      rw [hStored]
      split
      · rename_i hQuiet
        simp only [Bool.not_false, Bool.and_true,
          List.isEmpty_iff] at hQuiet
        subst hQuiet
        have hSame : opened.flush [] = opened := rfl
        rw [hSame] at hOpened ⊢
        simp [OutboxSession.send, OutboxSession.begin,
          hOpened]
      · simp [OutboxSession.execute, updateEvent, hSends,
          hOpened]
  | true =>
      simp [OutboxSession.execute, updateEvent, hSends,
        hOpened, hAccepted]

/- An object that keeps its id is still the claimed row's. -/
theorem Healthy.object_id
    {held : EventObject}
    (hHealthy : Healthy store poll claimed held)
    (hId : object.event.id = held.attributes.event.id) :
    object.event.id = held.loaded.event.id :=
  hId.trans
    (congrArg Prod.fst
      (hHealthy.attributes.trans hHealthy.loaded.symm))

/- The rows of a healthy dispatch take its object's `UPDATE`. -/
theorem Healthy.accepted
    {held : EventObject}
    (hHealthy : Healthy store poll claimed held)
    (hIn : claimed ∈ store.queue)
    (hId : object.event.id = held.attributes.event.id)
    (hStorable :
      ({ held with attributes := object } :
        EventObject).storable = true) :
    ({ held with attributes := object } :
      EventObject).accepted
        (poll.session store).view.queue = true := by
  have hLoaded : held.loaded.event.id = claimed.event.id :=
    congrArg Prod.fst hHealthy.loaded
  have hSame := hHealthy.object_id hId
  rcases hHealthy.enqueues.kept claimed hIn with
    ⟨row, hRow, hMark⟩
  have hPresent :
      (poll.session store).view.queue.any (fun row =>
        row.event.id = held.loaded.event.id) = true := by
    rw [List.any_eq_true]
    refine ⟨row, hRow, ?_⟩
    rw [decide_eq_true_eq, hLoaded]
    exact congrArg Prod.fst hMark
  simp [EventObject.accepted, hPresent, hSame, hStorable]

/- A new reason and status can be stored like the old ones. -/
theorem storable_of_reason
    {held : EventObject}
    (hStorable : held.storable = true)
    (hType :
      object.event.eventType =
        held.attributes.event.eventType)
    (hReason :
      object.retry.failureReason =
          held.attributes.retry.failureReason ∨
        object.retry.failureReason.all fitsText = true) :
    ({ held with attributes := object } :
      EventObject).storable = true := by
  unfold EventObject.storable EventObject.sends
    at hStorable ⊢
  rw [Bool.and_eq_true] at hStorable ⊢
  constructor
  · simpa only [hType] using hStorable.1
  · rcases hReason with hSame | hFits
    · simpa only [hSame] using hStorable.2
    · rw [hFits, Bool.or_true]

/- A failure counts one more, and the eighth is the last. -/
theorem bookFailure_eq_some
    {text : String}
    {now jitter : Timestamp}
    (hObject :
      bookFailure row text now jitter = some object) :
    object.event =
        { row.event with
          status :=
            if maxAttempts ≤ row.retry.attemptCount + 1 then
              .deadLetter
            else
              row.event.status } ∧
      object.retry.attemptCount =
        row.retry.attemptCount + 1 ∧
      object.retry.failureReason =
        some (failureText text) := by
  unfold bookFailure at hObject
  simp only at hObject
  split at hObject
  · rename_i hLast
    cases hObject
    rw [if_pos hLast]
    exact ⟨rfl, rfl, rfl⟩
  · rename_i hMore
    split at hObject
    · cases hObject
    · cases hObject
      rw [if_neg hMore]
      exact ⟨rfl, rfl, rfl⟩

/- A call returns, and its last flush is committed. -/
theorem processNext_of_committable
    (hClaim : claimOne outbox.store poll = some claimed)
    (hCommittable : Committable outbox (.process poll))
    (hProcess :
      processNext outbox.store poll = some processed) :
    ∃ held object,
      Healthy outbox.store poll claimed held ∧
        object.event.id = held.attributes.event.id ∧
        processed =
          .returned
            { (poll.session outbox.store).view with
              queue :=
                flushQueue { held with attributes := object }
                  (poll.session outbox.store).view.queue }
            object.event.status ∧
        (poll.dispatch.raises.isSome = true →
          ∃ text,
            bookFailure held.attributes text poll.failNow
                poll.jitter = some object) := by
  rcases hCommittable.healthy hClaim with ⟨held, hHealthy⟩
  have hIn := (claimOne_eq_some hClaim).1
  have hHeld := hHealthy.leaves
  unfold processNext at hProcess
  simp only [hClaim] at hProcess
  split at hProcess
  · rename_i raised hRaises
    have hText := hHealthy.raised raised hRaises
    simp only [failEvent, hHeld] at hProcess
    cases raised with
    | unprintable => cases hText
    | text text =>
        simp only at hProcess
        split at hProcess
        · cases hProcess
        · rename_i object hObject
          rw [Option.some.injEq] at hProcess
          rcases bookFailure_eq_some hObject with
            ⟨hEvent, _, hReason⟩
          have hId :
              object.event.id =
                held.attributes.event.id := by
            rw [hEvent]
          have hType :
              object.event.eventType =
                held.attributes.event.eventType := by
            rw [hEvent]
          have hFits :
              object.retry.failureReason.all fitsText =
                true := by
            rw [hReason]
            exact hText
          refine ⟨held, object, hHealthy, hId, ?_,
            fun _ => ⟨text, hObject⟩⟩
          rw [← hProcess]
          exact finishEvent_of_accepted hHealthy.opened
            (hHealthy.accepted hIn hId
              (storable_of_reason hHealthy.storable hType
                (.inr hFits)))
  · rename_i hRaises
    simp only [hHeld, Option.getD_some, Option.some.injEq]
      at hProcess
    refine ⟨held,
      { held.attributes with
        event :=
          { held.attributes.event with
            status := .processed } },
      hHealthy, rfl, ?_, ?_⟩
    · rw [← hProcess]
      exact finishEvent_of_accepted hHealthy.opened
        (hHealthy.accepted hIn rfl
          (storable_of_reason hHealthy.storable rfl
            (.inl rfl)))
    · intro hSome
      rw [hRaises] at hSome
      cases hSome

/- What a process step leads to that has claimed a row. -/
structure Dispatched
    (outbox : Outbox R)
    (poll : Poll R)
    (claimed : OutboxRow)
    (held : EventObject)
    (object : OutboxRow)
    (next : Outbox R) : Prop where
  claim : claimOne outbox.store poll = some claimed
  healthy : Healthy outbox.store poll claimed held
  id : object.event.id = held.attributes.event.id
  queue :
    next.store.queue =
      flushQueue { held with attributes := object }
        (poll.session outbox.store).view.queue
  claims :
    next.claims =
      Function.update outbox.claims claimed.event.id
        (outbox.claims claimed.event.id + 1)
  failure :
    poll.dispatch.raises.isSome = true →
      ∃ text,
        bookFailure held.attributes text poll.failNow
            poll.jitter = some object

/- A process step is idle, or it dispatches what it claims. -/
theorem process_eq_some
    {next : Outbox R}
    (hCommittable : Committable outbox (.process poll))
    (hStep : outboxStep outbox (.process poll) = some next) :
    next = outbox ∨
      ∃ claimed held object,
        Dispatched outbox poll claimed held object next := by
  simp only [outboxStep] at hStep
  split at hStep
  · cases hStep
  · rename_i processed hProcess
    cases hClaim : claimOne outbox.store poll with
    | none =>
        simp only [processNext, hClaim,
          Option.some.injEq] at hProcess
        subst hProcess
        rw [hClaim] at hStep
        cases hStep
        exact .inl rfl
    | some claimed =>
        rcases processNext_of_committable hClaim
            hCommittable hProcess with
          ⟨held, object, hHealthy, hId, rfl, hObject⟩
        rw [hClaim] at hStep
        cases hStep
        exact .inr ⟨claimed, held, object, hClaim, hHealthy,
          hId, rfl, rfl, hObject⟩

/- The object of a claimed row still has the row's id. -/
theorem Dispatched.loaded_id
    {next : Outbox R}
    {held : EventObject}
    (hDispatched :
      Dispatched outbox poll claimed held object next) :
    held.loaded.event.id = claimed.event.id :=
  congrArg Prod.fst hDispatched.healthy.loaded

theorem Dispatched.object_id
    {next : Outbox R}
    {held : EventObject}
    (hDispatched :
      Dispatched outbox poll claimed held object next) :
    object.event.id = held.loaded.event.id :=
  hDispatched.healthy.object_id hDispatched.id

end PayGuard

------------------------------------------------------------
-- Tallies
------------------------------------------------------------

namespace PayGuard

open Lts

variable {R : Type}

/- A row of an event that always fails, and its claims. -/
structure Tallied
    (claims : Nat)
    (row : OutboxRow) : Prop where
  counted : row.retry.attemptCount = claims
  pending :
    row.event.status = .pending → claims < maxAttempts
  settled :
    row.event.status = .pending ∨
      (row.event.status = .deadLetter ∧
        claims = maxAttempts)

structure Tally
    (eventId : Uuid)
    (outbox : Outbox R) : Prop where
  ids : (outbox.store.queue.map (·.event.id)).Nodup
  absent :
    ∀ id,
      id ∉ outbox.store.queue.map (·.event.id) →
        outbox.claims id = 0
  rows :
    ∀ row ∈ outbox.store.queue,
      row.event.id = eventId →
        Tallied (outbox.claims eventId) row

variable {outbox next : Outbox R}
variable {eventId : Uuid}
variable {claimed object row row' : OutboxRow}
variable {claims : Nat}

theorem tallied_new
    (hStatus : row.event.status = .pending)
    (hCount : row.retry.attemptCount = 0) :
    Tallied 0 row where
  counted := hCount
  pending := fun _ => by decide
  settled := .inl hStatus

theorem Tallied.of_mark
    (hTallied : Tallied claims row)
    (hMark : row.mark = row'.mark) :
    Tallied claims row' := by
  simp only [OutboxRow.mark, Prod.mk.injEq] at hMark
  rcases hMark with ⟨_, hStatus, hCount⟩
  constructor
  · rw [← hCount]
    exact hTallied.counted
  · rw [← hStatus]
    exact hTallied.pending
  · rw [← hStatus]
    exact hTallied.settled

/- A changed column of an attached object is sent. -/
theorem EventObject.column_of_ne
    {V : Type}
    [DecidableEq V]
    {held : EventObject}
    {read : OutboxRow → V}
    (hAttached : held.attached = true)
    (hChanged : read held.attributes ≠ read held.loaded) :
    held.column row read = read held.attributes := by
  simp [EventObject.column, EventObject.sends, hAttached,
    hChanged]

theorem EventObject.column_of_eq
    {V : Type}
    [DecidableEq V]
    {held : EventObject}
    {read : OutboxRow → V}
    (hSame : read held.attributes = read held.loaded) :
    held.column row read = read row := by
  simp [EventObject.column, EventObject.sends, hSame]

/- What was loaded from a row ends as the object has it. -/
theorem EventObject.column_of_loaded
    {V : Type}
    [DecidableEq V]
    (held : EventObject)
    (read : OutboxRow → V)
    (hAttached : held.attached = true)
    (hLoaded : read held.loaded = read row) :
    held.column row read = read held.attributes := by
  by_cases hSame :
      read held.attributes = read held.loaded
  · rw [column_of_eq hSame, hSame, hLoaded]
  · exact column_of_ne hAttached hSame

/- The flush of a failure moves the tally on by one. -/
theorem Tallied.fail
    {held : EventObject}
    {text : String}
    {now jitter : Timestamp}
    (hTallied : Tallied claims row)
    (hPending : row.event.status = .pending)
    (hAttached : held.attached = true)
    (hAttributes : held.attributes.mark = row.mark)
    (hLoaded : held.loaded.mark = row.mark)
    (hObject :
      bookFailure held.attributes text now jitter =
        some object) :
    Tallied (claims + 1)
      (flushRow { held with attributes := object } row) := by
  simp only [OutboxRow.mark, Prod.mk.injEq]
    at hAttributes hLoaded
  rcases hAttributes with ⟨_, hStatus, hCount⟩
  rcases hLoaded with ⟨hId, hLoadedStatus, hLoadedCount⟩
  rcases bookFailure_eq_some hObject with
    ⟨hEvent, hCounted, _⟩
  have hClaims := hTallied.counted
  have hBound := hTallied.pending hPending
  have hNewCount :
      (({ held with attributes := object } :
        EventObject).flush row).retry.attemptCount =
        claims + 1 := by
    have hSent :=
      EventObject.column_of_loaded
        { held with attributes := object }
        (·.retry.attemptCount) hAttached hLoadedCount
    refine hSent.trans ?_
    show object.retry.attemptCount = _
    rw [hCounted, hCount, hClaims]
  have hNewStatus :
      (({ held with attributes := object } :
        EventObject).flush row).event.status =
        object.event.status :=
    EventObject.column_of_loaded
      { held with attributes := object }
      (·.event.status) hAttached hLoadedStatus
  have hMoved :
      object.event.status =
        if maxAttempts ≤ claims + 1 then
          .deadLetter
        else
          .pending := by
    rw [hEvent, hCount, hClaims, hStatus, hPending]
  rw [flushRow, if_pos hId.symm]
  refine ⟨hNewCount, ?_, ?_⟩
  · intro hStill
    rw [hNewStatus, hMoved] at hStill
    split at hStill
    · cases hStill
    · omega
  · rw [hNewStatus, hMoved]
    split
    · exact .inr ⟨rfl, by omega⟩
    · exact .inl rfl

theorem tally_initial
    (rest : R) :
    Tally eventId ({ store := { rest := rest } } : Outbox R)
    where
  ids := List.nodup_nil
  absent := fun _ _ => rfl
  rows := by
    intro row hRow
    cases hRow

/- An object that keeps its id leaves that of its row. -/
theorem flushRow_id
    {held : EventObject}
    (hId :
      held.attributes.event.id = held.loaded.event.id) :
    (flushRow held row).event.id = row.event.id := by
  unfold flushRow
  split
  · exact EventObject.column_of_eq hId
  · rfl

theorem flushQueue_ids
    {held : EventObject}
    (hId :
      held.attributes.event.id = held.loaded.event.id)
    (queue : List OutboxRow) :
    (flushQueue held queue).map (·.event.id) =
      queue.map (·.event.id) := by
  rw [flushQueue_eq, List.map_map]
  apply List.map_congr_left
  intro row _
  exact flushRow_id hId

theorem flushRow_of_ne
    (held : EventObject)
    (hOther : row.event.id ≠ held.loaded.event.id) :
    flushRow held row = row :=
  if_neg hOther

theorem AlwaysFails.raises
    {poll : Poll R}
    (hFails : AlwaysFails eventId outbox (.process poll))
    (hClaim : claimOne outbox.store poll = some claimed)
    (hOwn : claimed.event.id = eventId) :
    poll.dispatch.raises.isSome = true := by
  simp only [AlwaysFails, alwaysFails, hClaim, hOwn,
    Option.all_some, ne_eq, not_true, decide_false,
    Bool.false_or] at hFails
  exact hFails

/- A process step keeps the tally of a failing event. -/
theorem tally_process
    {poll : Poll R}
    (hTally : Tally eventId outbox)
    (hCommittable : Committable outbox (.process poll))
    (hFails : AlwaysFails eventId outbox (.process poll))
    (hStep : outboxStep outbox (.process poll) = some next) :
    Tally eventId next := by
  rcases process_eq_some hCommittable hStep with
    rfl | ⟨claimed, held, object, hDispatched⟩
  · exact hTally
  have hClaim := hDispatched.claim
  have hEnqueues := hDispatched.healthy.enqueues
  have hKept := hDispatched.object_id
  have hLoaded := hDispatched.loaded_id
  rcases claimOne_eq_some hClaim with ⟨hIn, hPending⟩
  refine ⟨?_, ?_, ?_⟩
  · rw [hDispatched.queue, flushQueue_ids hKept]
    exact hEnqueues.ids
  · intro id hAbsent
    rw [hDispatched.queue, flushQueue_ids hKept] at hAbsent
    have hBefore :
        id ∉ outbox.store.queue.map (·.event.id) := by
      intro hMem
      rcases List.mem_map.mp hMem with ⟨row, hRow, rfl⟩
      rcases hEnqueues.kept row hRow with
        ⟨row', hRow', hMark⟩
      exact hAbsent (List.mem_map.mpr
        ⟨row', hRow', congrArg Prod.fst hMark⟩)
    have hOther : id ≠ claimed.event.id := by
      rintro rfl
      exact hBefore (List.mem_map_of_mem hIn)
    rw [hDispatched.claims, Function.update_of_ne hOther]
    exact hTally.absent id hBefore
  · intro row hRow hId
    rw [hDispatched.queue, flushQueue_eq] at hRow
    rcases List.mem_map.mp hRow with ⟨seen, hSeen, rfl⟩
    rw [flushRow_id hKept] at hId
    rw [hDispatched.claims]
    rcases hEnqueues.found seen hSeen with
      ⟨old, hOld, hMark⟩ | ⟨hNew, hStatus, hCount⟩
    · have hOldId : old.event.id = eventId :=
        (congrArg Prod.fst hMark).trans hId
      have hTallied :=
        (hTally.rows old hOld hOldId).of_mark hMark
      by_cases hOwn : claimed.event.id = eventId
      · -- the row is the claimed one
        cases List.inj_on_of_nodup_map hTally.ids hOld hIn
          (hOldId.trans hOwn.symm)
        rcases hDispatched.failure
            (hFails.raises hClaim hOwn) with
          ⟨text, hObject⟩
        have hHealthy := hDispatched.healthy
        have hSeenPending : seen.event.status = .pending :=
          (congrArg (fun mark => mark.2.1) hMark).symm.trans
            hPending
        rw [hOwn, Function.update_self]
        exact hTallied.fail hSeenPending hHealthy.attached
          (hHealthy.attributes.trans hMark)
          (hHealthy.loaded.trans hMark) hObject
      · have hOther :
            seen.event.id ≠ held.loaded.event.id := by
          rw [hLoaded, hId]
          exact Ne.symm hOwn
        rw [flushRow_of_ne { held with attributes := object }
            hOther,
          Function.update_of_ne (Ne.symm hOwn)]
        exact hTallied
    · have hOther : seen.event.id ≠ claimed.event.id := by
        intro hSame
        rw [hSame] at hNew
        exact hNew (List.mem_map_of_mem hIn)
      rw [flushRow_of_ne { held with attributes := object }
          (fun hSame => hOther (hSame.trans hLoaded)),
        Function.update_of_ne (hId ▸ hOther),
        hTally.absent eventId (hId ▸ hNew)]
      exact tallied_new hStatus hCount

/- A requeue does nothing, or resets one dead letter. -/
theorem requeue_eq_some
    {requeuedId : Uuid}
    {now : Timestamp}
    (hStep :
      outboxStep outbox (.requeue requeuedId now) =
        some next) :
    next = outbox ∨
      ∃ loaded ∈ outbox.store.queue,
        ∃ object : OutboxRow,
          loaded.event.id = requeuedId ∧
            object.event.id = loaded.event.id ∧
            object.event.status = .pending ∧
            object.retry.attemptCount = 0 ∧
            next.store.queue =
              flushQueue
                { attributes := object, loaded := loaded }
                outbox.store.queue ∧
            next.claims =
              Function.update outbox.claims requeuedId 0 := by
  simp only [outboxStep, requeueDeadLetter] at hStep
  split at hStep
  · cases hStep
    exact .inl rfl
  · rename_i loaded hFind
    have hOwner : loaded.event.id = requeuedId := by
      simpa using List.find?_some hFind
    split at hStep
    · cases hStep
      exact .inr ⟨loaded, List.mem_of_find?_eq_some hFind,
        { event := { loaded.event with status := .pending }
          retry := { availableAt := now } },
        hOwner, rfl, rfl, rfl, rfl, rfl⟩
    · cases hStep
      exact .inl rfl

/- A new event is pending, and has a new identifier. -/
theorem enqueue_eq_some
    {event : OutboxEvent}
    {now : Timestamp}
    (hIds :
      (outbox.store.queue.map (·.event.id)).Nodup)
    (hStep :
      outboxStep outbox (.enqueue event now) = some next) :
    event.status = .pending ∧
      event.id ∉ outbox.store.queue.map (·.event.id) ∧
      (next.store.queue.map (·.event.id)).Nodup ∧
      next.store.queue =
        outbox.store.queue ++
          [{ event := event
             retry := { availableAt := now } }] ∧
      next.claims = outbox.claims := by
  simp only [outboxStep] at hStep
  split at hStep
  · rename_i hNew
    cases hStep
    refine ⟨hNew.1, hNew.2, ?_, rfl, rfl⟩
    rw [List.map_append, List.nodup_append]
    refine ⟨hIds, List.nodup_singleton _, ?_⟩
    intro id hId other hOther hSame
    rw [List.map_singleton, List.mem_singleton] at hOther
    rw [hSame, hOther] at hId
    exact hNew.2 hId
  · cases hStep

/- Requeued, an event starts from nothing again. -/
theorem tally_requeue
    {requeuedId : Uuid}
    {now : Timestamp}
    (hTally : Tally eventId outbox)
    (hStep :
      outboxStep outbox (.requeue requeuedId now) =
        some next) :
    Tally eventId next := by
  rcases requeue_eq_some hStep with
    rfl | ⟨loaded, hIn, object, rfl, hKept, hPending, hZero,
      hQueue, hClaims⟩
  · exact hTally
  · refine ⟨?_, ?_, ?_⟩
    · rw [hQueue, flushQueue_ids hKept]
      exact hTally.ids
    · intro id hAbsent
      rw [hQueue, flushQueue_ids hKept] at hAbsent
      have hOther : id ≠ loaded.event.id := by
        rintro rfl
        exact hAbsent (List.mem_map_of_mem hIn)
      rw [hClaims, Function.update_of_ne hOther]
      exact hTally.absent id hAbsent
    · intro row hRow hId
      rw [hQueue, flushQueue_eq] at hRow
      rcases List.mem_map.mp hRow with ⟨old, hOld, rfl⟩
      rw [flushRow_id hKept] at hId
      rw [hClaims]
      by_cases hOwn : loaded.event.id = eventId
      · cases List.inj_on_of_nodup_map hTally.ids hOld hIn
          (hId.trans hOwn.symm)
        rw [hOwn, Function.update_self, flushRow,
          if_pos rfl]
        apply tallied_new
        · exact (EventObject.column_of_loaded _
            (·.event.status) rfl rfl).trans hPending
        · exact (EventObject.column_of_loaded _
            (·.retry.attemptCount) rfl rfl).trans hZero
      · rw [Function.update_of_ne (Ne.symm hOwn),
          flushRow_of_ne _
            (fun hSame => hOwn (hSame.symm.trans hId))]
        exact hTally.rows old hOld hId

theorem tally_enqueue
    {event : OutboxEvent}
    {now : Timestamp}
    (hTally : Tally eventId outbox)
    (hStep :
      outboxStep outbox (.enqueue event now) = some next) :
    Tally eventId next := by
  rcases enqueue_eq_some hTally.ids hStep with
    ⟨hPending, hFresh, hIds, hQueue, hClaims⟩
  refine ⟨hIds, ?_, ?_⟩
  · intro id hAbsent
    rw [hQueue, List.map_append, List.mem_append,
      not_or] at hAbsent
    rw [hClaims]
    exact hTally.absent id hAbsent.1
  · intro row hRow hId
    rw [hQueue] at hRow
    rw [hClaims]
    rcases List.mem_append.mp hRow with hOld | hAdded
    · exact hTally.rows row hOld hId
    · rw [List.mem_singleton.mp hAdded] at hId ⊢
      rw [← hId, hTally.absent event.id hFresh]
      exact tallied_new hPending rfl

theorem tally_step
    {label : OutboxLabel R}
    (hTally : Tally eventId outbox)
    (hCommittable : Committable outbox label)
    (hFails : AlwaysFails eventId outbox label)
    (hStep : outboxStep outbox label = some next) :
    Tally eventId next := by
  cases label with
  | process poll =>
      exact tally_process hTally hCommittable hFails hStep
  | requeue requeuedId now => exact tally_requeue hTally hStep
  | enqueue event now => exact tally_enqueue hTally hStep
  | commit rest =>
      cases hStep
      exact ⟨hTally.ids, hTally.absent, hTally.rows⟩

end PayGuard

------------------------------------------------------------
-- Dead Letters And Batches
------------------------------------------------------------

namespace PayGuard

open Lts

variable {R : Type}

/- The event has been given up after so many claims. -/
structure GivenUp
    (eventId : Uuid)
    (claims : Nat)
    (outbox : Outbox R) : Prop where
  ids : (outbox.store.queue.map (·.event.id)).Nodup
  row :
    ∃ row ∈ outbox.store.queue,
      row.event.id = eventId ∧
        row.event.status = .deadLetter
  claims : outbox.claims eventId = claims

variable {outbox next : Outbox R}
variable {eventId : Uuid}
variable {claims : Nat}
variable {label : OutboxLabel R}

/- Nobody claims a dead letter. -/
theorem GivenUp.not_claimed
    {poll : Poll R}
    {claimed : OutboxRow}
    (hGivenUp : GivenUp eventId claims outbox)
    (hClaim : claimOne outbox.store poll = some claimed) :
    claimed.event.id ≠ eventId := by
  intro hOwn
  rcases hGivenUp.row with ⟨row, hRow, hId, hDead⟩
  rcases claimOne_eq_some hClaim with ⟨hIn, hPending⟩
  cases List.inj_on_of_nodup_map hGivenUp.ids hIn hRow
    (hOwn.trans hId.symm)
  rw [hDead] at hPending
  cases hPending

theorem givenUp_process
    {poll : Poll R}
    (hGivenUp : GivenUp eventId claims outbox)
    (hCommittable : Committable outbox (.process poll))
    (hStep : outboxStep outbox (.process poll) = some next) :
    GivenUp eventId claims next := by
  rcases process_eq_some hCommittable hStep with
    rfl | ⟨claimed, held, object, hDispatched⟩
  · exact hGivenUp
  have hOther := hGivenUp.not_claimed hDispatched.claim
  have hEnqueues := hDispatched.healthy.enqueues
  refine ⟨?_, ?_, ?_⟩
  · rw [hDispatched.queue,
      flushQueue_ids hDispatched.object_id]
    exact hEnqueues.ids
  · rcases hGivenUp.row with ⟨row, hRow, hId, hDead⟩
    rcases hEnqueues.kept row hRow with ⟨seen, hSeen, hMark⟩
    simp only [OutboxRow.mark, Prod.mk.injEq] at hMark
    rcases hMark with ⟨hSameId, hSameStatus, _⟩
    refine ⟨seen, ?_, hSameId.trans hId,
      hSameStatus.trans hDead⟩
    rw [hDispatched.queue, flushQueue_eq]
    refine List.mem_map.mpr ⟨seen, hSeen, ?_⟩
    apply flushRow_of_ne
    rw [hSameId, hId]
    exact fun hSame =>
      hOther (hSame.trans hDispatched.loaded_id).symm
  · rw [hDispatched.claims,
      Function.update_of_ne (Ne.symm hOther)]
    exact hGivenUp.claims

/- Only an operator brings a dead letter back. -/
theorem givenUp_step
    (hGivenUp : GivenUp eventId claims outbox)
    (hCommittable : Committable outbox label)
    (hKept : ∀ now, label ≠ .requeue eventId now)
    (hStep : outboxStep outbox label = some next) :
    GivenUp eventId claims next := by
  cases label with
  | process poll =>
      exact givenUp_process hGivenUp hCommittable hStep
  | requeue requeuedId now =>
      have hOther : requeuedId ≠ eventId := by
        rintro rfl
        exact hKept now rfl
      rcases requeue_eq_some hStep with
        rfl | ⟨loaded, _, _, rfl, hKept, _, _, hQueue,
          hClaims⟩
      · exact hGivenUp
      · refine ⟨?_, ?_, ?_⟩
        · rw [hQueue, flushQueue_ids hKept]
          exact hGivenUp.ids
        · rcases hGivenUp.row with ⟨row, hRow, hId, hDead⟩
          refine ⟨row, ?_, hId, hDead⟩
          rw [hQueue, flushQueue_eq]
          refine List.mem_map.mpr ⟨row, hRow, ?_⟩
          apply flushRow_of_ne
          rw [hId]
          exact Ne.symm hOther
        · rw [hClaims,
            Function.update_of_ne (Ne.symm hOther)]
          exact hGivenUp.claims
  | enqueue event now =>
      rcases enqueue_eq_some hGivenUp.ids hStep with
        ⟨_, _, hIds, hQueue, hClaims⟩
      rcases hGivenUp.row with ⟨row, hRow, hBoth⟩
      refine ⟨hIds, ⟨row, ?_, hBoth⟩, ?_⟩
      · rw [hQueue]
        exact List.mem_append_left _ hRow
      · rw [hClaims]
        exact hGivenUp.claims
  | commit rest =>
      cases hStep
      exact ⟨hGivenUp.ids, hGivenUp.row, hGivenUp.claims⟩

/- A batch goes on until nothing is due. -/
theorem runBatch_of_committable
    {polls : List (Poll R)}
    {final : OutboxStore R}
    {ending : BatchEnd}
    (hMeets :
      Meets outboxStep Committable outbox
        (polls.map .process))
    (hBatch :
      runBatch outbox.store polls = some (final, ending)) :
    ∃ count,
      ending = .processed count ∧
        (count = polls.length ∨
          ∃ poll ∈ polls, claimOne final poll = none) := by
  induction polls generalizing outbox ending with
  | nil =>
      cases hBatch
      exact ⟨0, rfl, .inl rfl⟩
  | cons poll polls ih =>
      rw [List.map_cons] at hMeets
      unfold runBatch at hBatch
      cases hProcess : processNext outbox.store poll with
      | none => simp [hProcess] at hBatch
      | some processed =>
          cases hClaim : claimOne outbox.store poll with
          | none =>
              have hIdle : processed = .idle := by
                simp only [processNext, hClaim,
                  Option.some.injEq] at hProcess
                exact hProcess.symm
              subst hIdle
              simp only [hProcess] at hBatch
              cases hBatch
              exact ⟨0, rfl, .inr ⟨poll,
                List.mem_cons_self, hClaim⟩⟩
          | some claimed =>
              rcases processNext_of_committable hClaim
                  hMeets.1 hProcess with
                ⟨_, object, _, _, rfl, _⟩
              have hRest := hMeets.2
              simp only [outboxStep, hProcess, hClaim]
                at hRest
              simp only [hProcess] at hBatch
              split at hBatch
              · cases hBatch
              · rename_i rest count hLater
                cases hBatch
                rcases ih hRest hLater with
                  ⟨_, ⟨⟩, hCount | ⟨later, hMem, hNone⟩⟩
                · exact ⟨count + 1, rfl,
                    .inl (by rw [hCount]; rfl)⟩
                · exact ⟨count + 1, rfl,
                    .inr ⟨later,
                      List.mem_cons_of_mem _ hMem, hNone⟩⟩
              · rename_i rest hLater
                cases hBatch
                rcases ih hRest hLater with ⟨_, ⟨⟩, _⟩

end PayGuard

------------------------------------------------------------
-- Events That Always Fail
------------------------------------------------------------

namespace PayGuard

open Lts

variable {R : Type}

/- What holds of an event whose every dispatch has raised. -/
structure CountedRetries
    (eventId : Uuid)
    (outbox : Outbox R) : Prop where
  counted :
    ∀ row ∈ outbox.store.queue,
      row.event.id = eventId →
        row.retry.attemptCount = outbox.claims eventId
  bounded : outbox.claims eventId ≤ maxAttempts
  deadLetter :
    ∀ row ∈ outbox.store.queue,
      row.event.id = eventId →
        (row.event.status = .deadLetter ↔
          outbox.claims eventId = maxAttempts)
  -- a further claim returns and commits one more attempt
  claim :
    ∀ poll claimed processed,
      Committable outbox (.process poll) →
        AlwaysFails eventId outbox (.process poll) →
          claimOne outbox.store poll = some claimed →
            claimed.event.id = eventId →
              processNext outbox.store poll =
                  some processed →
                ∃ committed status,
                  processed = .returned committed status ∧
                    ∃ row ∈ committed.queue,
                      row.event.id = eventId ∧
                        row.retry.attemptCount =
                          claimed.retry.attemptCount + 1
  -- once dead it is not claimed until it is requeued
  settled :
    outbox.claims eventId = maxAttempts →
      ∀ labels later,
        exec outboxStep outbox labels = some later →
          Meets outboxStep Committable outbox labels →
            (∀ label ∈ labels,
              ∀ now, label ≠ .requeue eventId now) →
              later.claims eventId = maxAttempts ∧
                ∀ poll claimed,
                  claimOne later.store poll =
                      some claimed →
                    claimed.event.id ≠ eventId
  -- no claim keeps a batch from what else is due
  batch :
    ∀ polls final ending,
      Meets outboxStep Committable outbox
          (polls.map .process) →
        runBatch outbox.store polls = some (final, ending) →
          ∃ count,
            ending = .processed count ∧
              (count = polls.length ∨
                ∃ poll ∈ polls,
                  claimOne final poll = none)

variable {outbox : Outbox R}
variable {eventId : Uuid}

theorem claims_le
    (hTally : Tally eventId outbox) :
    outbox.claims eventId ≤ maxAttempts := by
  by_cases hStored :
      eventId ∈ outbox.store.queue.map (·.event.id)
  · rcases List.mem_map.mp hStored with ⟨row, hRow, hId⟩
    have hTallied := hTally.rows row hRow hId
    rcases hTallied.settled with hPending | ⟨_, hLast⟩
    · exact (hTallied.pending hPending).le
    · exact hLast.le
  · rw [hTally.absent eventId hStored]
    exact Nat.zero_le _

theorem Tallied.deadLetter_iff
    {claims : Nat}
    {row : OutboxRow}
    (hTallied : Tallied claims row) :
    row.event.status = .deadLetter ↔
      claims = maxAttempts := by
  constructor
  · intro hDead
    rcases hTallied.settled with hPending | ⟨_, hLast⟩
    · rw [hDead] at hPending
      cases hPending
    · exact hLast
  · intro hLast
    rcases hTallied.settled with hPending | ⟨hDead, _⟩
    · have hBound := hTallied.pending hPending
      omega
    · exact hDead

/- After its last claim the event is given up. -/
theorem givenUp_of_tally
    (hTally : Tally eventId outbox)
    (hLast : outbox.claims eventId = maxAttempts) :
    GivenUp eventId maxAttempts outbox := by
  have hStored :
      eventId ∈ outbox.store.queue.map (·.event.id) := by
    by_contra hAbsent
    rw [hTally.absent eventId hAbsent] at hLast
    cases hLast
  rcases List.mem_map.mp hStored with ⟨row, hRow, hId⟩
  exact
    { ids := hTally.ids
      row := ⟨row, hRow, hId,
        (hTally.rows row hRow hId).deadLetter_iff.mpr hLast⟩
      claims := hLast }

/-
  Where every transaction of the worker can commit, an event
  that always fails is claimed eight times, counted each
  time, and then left alone.
-/
theorem failed_retries_are_counted
    {R : Type}
    {rest : R}
    {labels : List (OutboxLabel R)}
    {outbox : Outbox R}
    (eventId : Uuid)
    (hRun :
      exec outboxStep { store := { rest := rest } } labels =
        some outbox)
    (hCommittable :
      Meets outboxStep Committable
        { store := { rest := rest } } labels)
    (hFails :
      Meets outboxStep (AlwaysFails eventId)
        { store := { rest := rest } } labels) :
    CountedRetries eventId outbox := by
  have hTally : Tally eventId outbox :=
    invariant_of_meets
      (fun _ _ _ hTally hBoth hStep =>
        tally_step hTally hBoth.1 hBoth.2 hStep)
      (tally_initial rest) (hCommittable.and hFails) hRun
  refine
    { counted := fun row hRow hId =>
        (hTally.rows row hRow hId).counted
      bounded := claims_le hTally
      deadLetter := fun row hRow hId =>
        (hTally.rows row hRow hId).deadLetter_iff
      claim := ?_
      settled := ?_
      batch := fun _ _ _ hMeets hBatch =>
        runBatch_of_committable hMeets hBatch }
  · intro poll claimed processed hHealthy hRaises hClaim hOwn
      hProcess
    rcases claimOne_eq_some hClaim with ⟨hIn, hPending⟩
    rcases processNext_of_committable hClaim hHealthy
        hProcess with
      ⟨held, object, hDispatch, hId, rfl, hObject⟩
    rcases hDispatch.enqueues.kept claimed hIn with
      ⟨seen, hSeen, hMark⟩
    rcases hObject (hRaises.raises hClaim hOwn) with
      ⟨text, hText⟩
    have hTallied :=
      hTally.rows claimed hIn hOwn
    have hSeenPending : seen.event.status = .pending :=
      (congrArg (fun mark => mark.2.1) hMark).trans hPending
    have hKept :
        object.event.id = held.loaded.event.id :=
      hId.trans
        (congrArg Prod.fst
          (hDispatch.attributes.trans
            hDispatch.loaded.symm))
    have hNext :=
      (hTallied.of_mark hMark.symm).fail hSeenPending
        hDispatch.attached
        (hDispatch.attributes.trans hMark.symm)
        (hDispatch.loaded.trans hMark.symm) hText
    refine ⟨_, _, rfl,
      flushRow { held with attributes := object } seen, ?_,
      ?_, ?_⟩
    · show _ ∈ flushQueue _ _
      rw [flushQueue_eq]
      exact List.mem_map_of_mem hSeen
    · rw [flushRow_id hKept]
      exact (congrArg Prod.fst hMark).trans hOwn
    · rw [hNext.counted, hTallied.counted]
  · intro hLast labels later hMore hMeets hKept
    have hGivenUp : GivenUp eventId maxAttempts later :=
      invariant_of_meets
        (fun _ _ _ hGivenUp hBoth hStep =>
          givenUp_step hGivenUp hBoth.1 hBoth.2 hStep)
        (givenUp_of_tally hTally hLast)
        (hMeets.and
          (meets_of_forall
            (fun label hLabel _ => hKept label hLabel)))
        hMore
    exact ⟨hGivenUp.claims,
      fun _ _ hClaim => hGivenUp.not_claimed hClaim⟩

/- Nothing is stored yet. -/
def emptyOutbox : Outbox Database where
  store := { rest := {} }

/- Events 1 and 2 are stored, event 1 a second earlier. -/
def enqueueTwo : List (OutboxLabel Database) :=
  [.enqueue waitingRow.event 0,
    .enqueue { waitingRow.event with id := 2 } 1000000]

/- The worker claims event 1, and its dispatch raises. -/
def failingPoll : Poll Database where
  now := 2000000
  pick := 1
  dispatch := { raises := some (.text "unreachable") }

theorem failed_retries_are_counted_eight :
    ∃ outbox,
      exec outboxStep emptyOutbox
          (enqueueTwo ++
            List.replicate 8 (.process failingPoll)) =
          some outbox ∧
        outbox.store.queue.map (·.mark) =
          [(1, .deadLetter, 8), (2, .pending, 0)] ∧
        CountedRetries 1 outbox := by
  have hRun :
      (exec outboxStep emptyOutbox
          (enqueueTwo ++
            List.replicate 8 (.process failingPoll))).map
          (fun outbox => outbox.store.queue.map (·.mark)) =
        some [(1, .deadLetter, 8), (2, .pending, 0)] := by
    decide +kernel
  rcases Option.map_eq_some_iff.mp hRun with
    ⟨outbox, hExec, hMarks⟩
  exact ⟨outbox, hExec, hMarks,
    failed_retries_are_counted 1 hExec (by decide +kernel)
      (by decide +kernel)⟩

/- The server refuses a statement of the dispatch. -/
def abortingPoll : Poll Database where
  now := 2000000
  dispatch :=
    { writes := [.execute (fun _ => none)]
      raises := some (.text "deadlock detected") }

/-
  Nine claims leave no count, and every batch ends with the
  first event while the second is due.
-/
theorem aborted_retries_are_not_counted :
    ∃ outbox,
      exec outboxStep emptyOutbox
          (enqueueTwo ++
            List.replicate 9 (.process abortingPoll)) =
          some outbox ∧
        Meets outboxStep (AlwaysFails 1)
          emptyOutbox
          (enqueueTwo ++
            List.replicate 9 (.process abortingPoll)) ∧
        outbox.claims 1 = 9 ∧
        outbox.store.queue.map (·.mark) =
          [(1, .pending, 0), (2, .pending, 0)] ∧
        runBatch outbox.store [abortingPoll, abortingPoll] =
          some (outbox.store, .raised) ∧
        ¬ CountedRetries 1 outbox := by
  have hRun :
      (exec outboxStep emptyOutbox
          (enqueueTwo ++
            List.replicate 9 (.process abortingPoll))).map
          (fun outbox =>
            decide (outbox.claims 1 = 9 ∧
              outbox.store.queue.map (·.mark) =
                [(1, .pending, 0), (2, .pending, 0)] ∧
              runBatch outbox.store
                  [abortingPoll, abortingPoll] =
                some (outbox.store, .raised))) =
        some true := by
    decide +kernel
  have hFails :
      Meets outboxStep (AlwaysFails 1)
        emptyOutbox
        (enqueueTwo ++
          List.replicate 9 (.process abortingPoll)) := by
    decide +kernel
  rcases Option.map_eq_some_iff.mp hRun with
    ⟨outbox, hExec, hHolds⟩
  rcases of_decide_eq_true hHolds with
    ⟨hClaims, hMarks, hBatch⟩
  refine ⟨outbox, hExec, hFails, hClaims, hMarks, hBatch, ?_⟩
  intro hCounted
  have hBound := hCounted.bounded
  rw [hClaims] at hBound
  revert hBound
  decide

end PayGuard

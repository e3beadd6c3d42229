import PayGuard.Outbox.Worker

/-
  `process_next` for any dispatcher.

  A dispatcher works through the session that holds the
  claimed row and its object.  Its statements change the
  transaction's view of the database, or fail and leave a
  transaction that takes no further statement, or end the
  transaction.  The bookkeeping of a failed dispatch goes on
  from the object as the dispatcher has left it, and is one
  more statement of the same session.

  Key definitions include:
    * `OutboxSession`
    * `EventObject`
    * `claimOne`
    * `processNext`
    * `runBatch`
    * `requeueDeadLetter`
    * `NoOtherEffect`
    * `WritesUndone`

  Key theorems include:
    * `processNext_returned`
    * `flushRow_eq_iff`
    * `failed_dispatch_undone_iff`
-/

------------------------------------------------------------
-- The Outbox And Its Session
------------------------------------------------------------

namespace PayGuard

/- An outbox row with its retry columns. -/
structure OutboxRow where
  event : OutboxEvent
  retry : Retry := {}
deriving DecidableEq, Repr

/- The outbox, and every other table. -/
structure OutboxStore (R : Type) where
  queue : List OutboxRow := []
  rest : R
deriving DecidableEq, Repr

/- A statement; the server may answer with an error. -/
abbrev Write (R : Type) :=
  OutboxStore R → Option (OutboxStore R)

/- What a dispatcher sends through its session. -/
inductive Statement (R : Type) where
| execute (write : Write R)
-- the session begins its next transaction by itself
| commit
| rollback

/- An open transaction, over what has been committed. -/
structure OutboxSession (R : Type) where
  stored : OutboxStore R
  view : OutboxStore R
  aborted : Bool := false

variable {R : Type}

def OutboxSession.begin
    (store : OutboxStore R) : OutboxSession R where
  stored := store
  view := store

/- After an error every further statement fails as well. -/
def OutboxSession.execute
    (session : OutboxSession R)
    (write : Write R) : OutboxSession R :=
  if session.aborted then
    session
  else
    match write session.view with
    | none => { session with aborted := true }
    | some view => { session with view := view }

/- The `COMMIT` of an aborted transaction rolls it back. -/
def OutboxSession.send
    (session : OutboxSession R) :
    Statement R → OutboxSession R
| .execute write => session.execute write
| .commit =>
    if session.aborted then
      .begin session.stored
    else
      .begin session.view
| .rollback => .begin session.stored

def OutboxSession.run
    (session : OutboxSession R)
    (statements : List (Statement R)) : OutboxSession R :=
  statements.foldl OutboxSession.send session

/- One flush sends what the objects of a session changed. -/
def OutboxSession.flush
    (session : OutboxSession R)
    (pending : List (Write R)) : OutboxSession R :=
  pending.foldl OutboxSession.execute session

------------------------------------------------------------
-- The Event Object
------------------------------------------------------------

/- The event object, as a dispatch leaves it. -/
structure EventObject where
  attributes : OutboxRow
  -- what the session has last read or written of them
  loaded : OutboxRow
  -- `false` once the session has let go of the object
  attached : Bool := true
deriving DecidableEq, Repr

namespace EventObject

variable {V : Type}
variable [DecidableEq V]

/- The flush sends a column where the object has changed. -/
def sends
    (held : EventObject)
    (read : OutboxRow → V) : Bool :=
  held.attached &&
    decide (read held.attributes ≠ read held.loaded)

def column
    (held : EventObject)
    (row : OutboxRow)
    (read : OutboxRow → V) : V :=
  if held.sends read then read held.attributes else read row

/- The row after the `UPDATE` of the object. -/
def flush
    (held : EventObject)
    (row : OutboxRow) : OutboxRow where
  event :=
    { id := held.column row (·.event.id)
      aggregateType :=
        held.column row (·.event.aggregateType)
      aggregateId := held.column row (·.event.aggregateId)
      eventType := held.column row (·.event.eventType)
      payload := held.column row (·.event.payload)
      status := held.column row (·.event.status) }
  retry :=
    { attemptCount :=
        held.column row (·.retry.attemptCount)
      availableAt := held.column row (·.retry.availableAt)
      failureReason :=
        held.column row (·.retry.failureReason) }

/- The server stores every text that is sent. -/
def storable (held : EventObject) : Bool :=
  (!held.sends (·.event.eventType) ||
    fitsText held.attributes.event.eventType) &&
  (!held.sends (·.retry.failureReason) ||
    held.attributes.retry.failureReason.all fitsText)

end EventObject

------------------------------------------------------------
-- Claims
------------------------------------------------------------

/- The exception a dispatch ends with. -/
inductive Raised where
| text (text : String)
-- `str` raises in its turn, or its text is no UTF-8
| unprintable
deriving DecidableEq, Repr

/-
  What one dispatch does: the statements it has sent, the
  objects it leaves for the next flush, how it leaves the
  event object, unless its attributes have expired, and the
  exception it ends with, if any.
-/
structure Dispatch (R : Type) where
  writes : List (Statement R) := []
  pending : List (Write R) := []
  held : OutboxRow → Option EventObject :=
    fun row => some { attributes := row, loaded := row }
  raises : Option Raised := none

/-
  What one call takes from outside: its clock, the rows other
  workers hold, the choice among rows that tie, its dispatch,
  and the clock and jitter of the failure handler.
-/
structure Poll (R : Type) where
  now : Timestamp := 0
  locked : List Uuid := []
  pick : Uuid := 0
  dispatch : Dispatch R := {}
  failNow : Timestamp := 0
  jitter : Timestamp := 0

/- Rows `_claim_one` may return. -/
def dueRows
    (store : OutboxStore R)
    (poll : Poll R) : List OutboxRow :=
  store.queue.filter (fun row =>
    row.event.status = .pending &&
      decide (row.retry.availableAt ≤ poll.now) &&
      decide (row.event.id ∉ poll.locked))

/- `ORDER BY available_at LIMIT 1 ... SKIP LOCKED`. -/
def claimOne
    (store : OutboxStore R)
    (poll : Poll R) : Option OutboxRow :=
  let first :=
    (dueRows store poll).filter (fun row =>
      (dueRows store poll).all (fun other =>
        row.retry.availableAt ≤ other.retry.availableAt))
  (first.find? (fun row => row.event.id = poll.pick)).or
    first.head?

------------------------------------------------------------
-- Processing
------------------------------------------------------------

/-
  The event object after the failure handler, which counts
  on from the attributes it finds.
-/
def bookFailure
    (row : OutboxRow)
    (text : String)
    (now jitter : Timestamp) : Option OutboxRow :=
  let counted :=
    { row.retry with
      attemptCount := row.retry.attemptCount + 1
      failureReason := some (failureText text) }
  if maxAttempts ≤ counted.attemptCount then
    some
      { event := { row.event with status := .deadLetter }
        retry := counted }
  else
    match computeBackoff counted.attemptCount jitter with
    | none => none
    | some delay =>
        some
          { event := row.event
            retry :=
              { counted with availableAt := now + delay } }

/- The rows after the `UPDATE` of one of them. -/
def flushQueue
    (held : EventObject)
    (queue : List OutboxRow) : List OutboxRow :=
  Table.updateWhere
    (fun row => row.event.id = held.loaded.event.id)
    held.flush queue

/- The `UPDATE` finds its row, and the row is accepted. -/
def EventObject.accepted
    (held : EventObject)
    (queue : List OutboxRow) : Bool :=
  queue.any (fun row =>
    row.event.id = held.loaded.event.id) &&
  (held.attributes.event.id = held.loaded.event.id ||
    !queue.any (fun row =>
      row.event.id = held.attributes.event.id)) &&
  held.storable

/- An object that has not changed is not sent. -/
def updateEvent (held : EventObject) : Write R :=
  fun store =>
    if !held.sends id then
      some store
    else if held.accepted store.queue then
      some
        { store with queue := flushQueue held store.queue }
    else
      none

inductive Processed (R : Type) where
| idle
| returned (store : OutboxStore R) (status : OutboxStatus)
-- an exception leaves the call and its open transaction
| raised (store : OutboxStore R)
deriving DecidableEq, Repr

/-
  The last flush and the commit.  Where there is nothing to
  flush, an aborted transaction is rolled back in silence.
-/
def finishEvent
    (session : OutboxSession R)
    (pending : List (Write R))
    (held : EventObject) : Processed R :=
  let flushed :=
    (session.flush pending).execute (updateEvent held)
  if pending.isEmpty && !held.sends id then
    .returned (session.send .commit).view
      held.attributes.event.status
  else if flushed.aborted then
    .raised session.stored
  else
    .returned flushed.view held.attributes.event.status

/- The failure handler. -/
def failEvent
    (session : OutboxSession R)
    (dispatch : Dispatch R)
    (row : OutboxRow)
    (raised : Raised)
    (now jitter : Timestamp) : Option (Processed R) :=
  match dispatch.held row, raised with
  -- no attribute of an expired object is read here
  | none, _ => some (.raised session.stored)
  | some _, .unprintable => some (.raised session.stored)
  | some held, .text text =>
      match bookFailure held.attributes text now jitter with
      | none => none
      | some object =>
          some (finishEvent session dispatch.pending
            { held with attributes := object })

def processNext
    (store : OutboxStore R)
    (poll : Poll R) : Option (Processed R) :=
  match claimOne store poll with
  | none => some .idle
  | some row =>
      let session :=
        (OutboxSession.begin store).run poll.dispatch.writes
      match poll.dispatch.raises with
      | some raised =>
          failEvent session poll.dispatch row raised
            poll.failNow poll.jitter
      | none =>
          -- of an expired object only the status is sent
          let held :=
            (poll.dispatch.held row).getD
              { attributes := row, loaded := row }
          some (finishEvent session poll.dispatch.pending
            { held with
              attributes :=
                { held.attributes with
                  event :=
                    { held.attributes.event with
                      status := .processed } } })

/- What is committed once the call is over. -/
def Processed.committed
    (store : OutboxStore R) : Processed R → OutboxStore R
| .idle => store
| .returned committed _ => committed
| .raised committed => committed

/- How a batch ends: with its count, or by an exception. -/
inductive BatchEnd where
| processed (count : Nat)
| raised
deriving DecidableEq, Repr

/- One poll for each of the `max_events` rounds. -/
def runBatch :
    OutboxStore R → List (Poll R) →
      Option (OutboxStore R × BatchEnd)
| store, [] => some (store, .processed 0)
| store, poll :: polls =>
    match processNext store poll with
    | none => none
    | some .idle => some (store, .processed 0)
    | some (.raised store) => some (store, .raised)
    | some (.returned store _) =>
        match runBatch store polls with
        | none => none
        | some (store, .processed count) =>
            some (store, .processed (count + 1))
        | some (store, .raised) => some (store, .raised)

def requeueDeadLetter
    (store : OutboxStore R)
    (eventId : Uuid)
    (now : Timestamp) : OutboxStore R × Bool :=
  match store.queue.find? (fun row =>
      row.event.id = eventId) with
  | none => (store, false)
  | some row =>
      if row.event.status = .deadLetter then
        ({ store with
            queue :=
              flushQueue
                { attributes :=
                    { event :=
                        { row.event with status := .pending }
                      retry := { availableAt := now } }
                  loaded := row }
                store.queue },
          true)
      else
        (store, false)

end PayGuard

------------------------------------------------------------
-- What A Failed Dispatch Commits
------------------------------------------------------------

namespace PayGuard

variable {R : Type}
variable {store committed : OutboxStore R}
variable {opened : OutboxSession R}
variable {pending : List (Write R)}
variable {poll : Poll R}
variable {held : EventObject}
variable {claimed row row' wanted : OutboxRow}
variable {status : OutboxStatus}
variable {text : String}

/- The session once all of a dispatch has been sent. -/
def Poll.session
    (poll : Poll R)
    (store : OutboxStore R) : OutboxSession R :=
  ((OutboxSession.begin store).run
    poll.dispatch.writes).flush poll.dispatch.pending

/- What a commit would store of the dispatch alone. -/
def Poll.written
    (poll : Poll R)
    (store : OutboxStore R) : OutboxStore R :=
  ((poll.session store).send .commit).view

/- A row without the columns its worker keeps. -/
def OutboxRow.withoutRetry
    (eventId : Uuid)
    (row : OutboxRow) : OutboxRow :=
  if row.event.id = eventId then
    { event := { row.event with status := .pending } }
  else
    row

/- The row with the columns its worker keeps, as booked. -/
def OutboxRow.book
    (eventId : Uuid)
    (row booked : OutboxRow) : OutboxRow :=
  if row.event.id = eventId then
    { event := { row.event with status := booked.event.status }
      retry := booked.retry }
  else
    row

/-
  The call has changed the retry columns and the status of
  the claimed event, as its failure is booked on the row that
  was claimed, and nothing else.
-/
structure NoOtherEffect
    (store committed : OutboxStore R)
    (poll : Poll R)
    (claimed : OutboxRow)
    (text : String) : Prop where
  rest : committed.rest = store.rest
  columns :
    committed.queue.map
        (OutboxRow.withoutRetry claimed.event.id) =
      store.queue.map
        (OutboxRow.withoutRetry claimed.event.id)
  unwritten :
    ∃ jitter booked,
      bookFailure claimed text poll.failNow jitter =
          some booked ∧
        committed.queue =
          store.queue.map (fun row =>
            row.book claimed.event.id booked)

/- A column ends as wanted: it is sent so, or stored so. -/
def EventObject.Leaves
    {V : Type}
    [DecidableEq V]
    (held : EventObject)
    (row wanted : OutboxRow)
    (read : OutboxRow → V) : Prop :=
  (held.sends read = true →
      read held.attributes = read wanted) ∧
    (held.sends read = false → read row = read wanted)

structure ColumnsUndone
    (held : EventObject)
    (wanted row : OutboxRow) : Prop where
  id : held.Leaves row wanted (·.event.id)
  aggregateType :
    held.Leaves row wanted (·.event.aggregateType)
  aggregateId :
    held.Leaves row wanted (·.event.aggregateId)
  eventType : held.Leaves row wanted (·.event.eventType)
  payload : held.Leaves row wanted (·.event.payload)
  status : held.Leaves row wanted (·.event.status)
  attemptCount :
    held.Leaves row wanted (·.retry.attemptCount)
  availableAt :
    held.Leaves row wanted (·.retry.availableAt)
  failureReason :
    held.Leaves row wanted (·.retry.failureReason)

/-
  The dispatch has left a row as wanted.  In the row of the
  event object it does not matter what it has written to a
  column that the failure handler sends anyway.
-/
structure RowUndone
    (held : EventObject)
    (wanted row : OutboxRow) : Prop where
  other :
    row.event.id ≠ held.loaded.event.id → row = wanted
  own :
    row.event.id = held.loaded.event.id →
      ColumnsUndone held wanted row

/-
  Taken together, the statements of a dispatch and what it
  has made of the event object do nothing.
-/
structure WritesUndone
    (store : OutboxStore R)
    (poll : Poll R)
    (claimed : OutboxRow)
    (text : String) : Prop where
  rest : (poll.written store).rest = store.rest
  rows :
    ∃ held handled jitter booked,
      poll.dispatch.held claimed = some held ∧
        bookFailure held.attributes text poll.failNow
            poll.jitter =
          some handled ∧
        bookFailure claimed text poll.failNow jitter =
          some booked ∧
        List.Forall₂
          (fun row =>
            RowUndone { held with attributes := handled }
              (row.book claimed.event.id booked))
          store.queue (poll.written store).queue

theorem OutboxSession.execute_eq
    {write : Write R}
    (hHealthy : (opened.execute write).aborted = false) :
    opened.aborted = false ∧
      write opened.view =
        some (opened.execute write).view := by
  cases hAborted : opened.aborted with
  | true =>
      simp [OutboxSession.execute, hAborted] at hHealthy
  | false =>
      cases hWrite : write opened.view with
      | none =>
          simp [OutboxSession.execute, hAborted, hWrite]
            at hHealthy
      | some view =>
          simp [OutboxSession.execute, hAborted, hWrite]

/- What is not sent at all is not sent in any column. -/
theorem EventObject.sends_of_quiet
    {V : Type}
    [DecidableEq V]
    (hQuiet : held.sends id = false)
    (read : OutboxRow → V) :
    held.sends read = false := by
  cases hAttached : held.attached with
  | false => simp [EventObject.sends, hAttached]
  | true =>
      have hSame : held.attributes = held.loaded := by
        simpa [EventObject.sends, hAttached] using hQuiet
      simp [EventObject.sends, hSame]

theorem EventObject.flush_of_quiet
    (hQuiet : held.sends id = false)
    (row : OutboxRow) :
    held.flush row = row := by
  simp [EventObject.flush, EventObject.column,
    sends_of_quiet hQuiet]

/- What the flush makes of one row. -/
def flushRow
    (held : EventObject)
    (row : OutboxRow) : OutboxRow :=
  if row.event.id = held.loaded.event.id then
    held.flush row
  else
    row

theorem flushQueue_eq
    (queue : List OutboxRow) :
    flushQueue held queue = queue.map (flushRow held) := by
  unfold flushQueue Table.updateWhere flushRow
  simp

theorem flushQueue_of_quiet
    (hQuiet : held.sends id = false)
    (queue : List OutboxRow) :
    flushQueue held queue = queue := by
  have hRow : flushRow held = fun row => row := by
    funext row
    rw [flushRow, EventObject.flush_of_quiet hQuiet,
      ite_self]
  rw [flushQueue_eq, hRow, List.map_id']

theorem updateEvent_eq_some
    {view : OutboxStore R}
    (hUpdate : updateEvent held store = some view) :
    view =
      { store with
        queue := flushQueue held store.queue } := by
  unfold updateEvent at hUpdate
  split at hUpdate
  · rename_i hQuiet
    cases hUpdate
    rw [flushQueue_of_quiet (by simpa using hQuiet)]
  · split at hUpdate
    · cases hUpdate
      rfl
    · cases hUpdate

/- A call that returns has committed its last flush. -/
theorem finishEvent_returned
    (hReturns :
      finishEvent opened pending held =
        .returned committed status) :
    committed =
      { ((opened.flush pending).send .commit).view with
        queue :=
          flushQueue held
            ((opened.flush pending).send
              .commit).view.queue } := by
  unfold finishEvent at hReturns
  simp only at hReturns
  split at hReturns
  · rename_i hQuiet
    simp only [Bool.and_eq_true, List.isEmpty_iff,
      Bool.not_eq_true'] at hQuiet
    rcases hQuiet with ⟨rfl, hQuiet⟩
    cases hReturns
    rw [flushQueue_of_quiet hQuiet]
    rfl
  · split at hReturns
    · cases hReturns
    · rename_i hHealthy
      cases hReturns
      rcases OutboxSession.execute_eq
          (Bool.not_eq_true _ ▸ hHealthy) with
        ⟨hOpen, hUpdate⟩
      have hView :
          ((opened.flush pending).send .commit).view =
            (opened.flush pending).view := by
        simp [OutboxSession.send, hOpen,
          OutboxSession.begin]
      rw [hView]
      exact updateEvent_eq_some hUpdate

/- A failed call that returns commits its last flush. -/
theorem processNext_returned
    (hClaim : claimOne store poll = some claimed)
    (hRaises : poll.dispatch.raises = some (.text text))
    (hReturns :
      processNext store poll =
        some (.returned committed status)) :
    ∃ held handled,
      poll.dispatch.held claimed = some held ∧
        bookFailure held.attributes text poll.failNow
            poll.jitter =
          some handled ∧
        committed =
          { poll.written store with
            queue :=
              (poll.written store).queue.map
                (flushRow
                  { held with attributes := handled }) } := by
  unfold processNext at hReturns
  simp only [hClaim, hRaises, failEvent] at hReturns
  split at hReturns
  · cases hReturns
  · cases hReturns
  · rename_i held text' hHeld hText
    cases hText
    split at hReturns
    · cases hReturns
    · rename_i handled hHandled
      rw [Option.some.injEq] at hReturns
      refine ⟨held, handled, hHeld, hHandled, ?_⟩
      rw [← flushQueue_eq]
      exact finishEvent_returned hReturns

theorem EventObject.column_eq_iff
    {V : Type}
    [DecidableEq V]
    {read : OutboxRow → V} :
    held.column row read = read wanted ↔
      held.Leaves row wanted read := by
  unfold EventObject.column EventObject.Leaves
  cases held.sends read with
  | false => simp
  | true => simp

theorem flush_eq_iff :
    held.flush row = wanted ↔
      ColumnsUndone held wanted row := by
  have hColumns :
      held.flush row = wanted ↔
        held.column row (·.event.id) = wanted.event.id ∧
        held.column row (·.event.aggregateType) =
          wanted.event.aggregateType ∧
        held.column row (·.event.aggregateId) =
          wanted.event.aggregateId ∧
        held.column row (·.event.eventType) =
          wanted.event.eventType ∧
        held.column row (·.event.payload) =
          wanted.event.payload ∧
        held.column row (·.event.status) =
          wanted.event.status ∧
        held.column row (·.retry.attemptCount) =
          wanted.retry.attemptCount ∧
        held.column row (·.retry.availableAt) =
          wanted.retry.availableAt ∧
        held.column row (·.retry.failureReason) =
          wanted.retry.failureReason := by
    rcases wanted with ⟨⟨_, _, _, _, _, _⟩, ⟨_, _, _⟩⟩
    simp only [EventObject.flush, OutboxRow.mk.injEq,
      OutboxEvent.mk.injEq, Retry.mk.injEq, and_assoc]
  rw [hColumns]
  constructor
  · rintro ⟨hId, hType, hAggregate, hEvent, hPayload,
      hStatus, hCount, hAvailable, hReason⟩
    exact
      { id := EventObject.column_eq_iff.mp hId
        aggregateType := EventObject.column_eq_iff.mp hType
        aggregateId :=
          EventObject.column_eq_iff.mp hAggregate
        eventType := EventObject.column_eq_iff.mp hEvent
        payload := EventObject.column_eq_iff.mp hPayload
        status := EventObject.column_eq_iff.mp hStatus
        attemptCount := EventObject.column_eq_iff.mp hCount
        availableAt :=
          EventObject.column_eq_iff.mp hAvailable
        failureReason :=
          EventObject.column_eq_iff.mp hReason }
  · intro hUndone
    exact ⟨EventObject.column_eq_iff.mpr hUndone.id,
      EventObject.column_eq_iff.mpr hUndone.aggregateType,
      EventObject.column_eq_iff.mpr hUndone.aggregateId,
      EventObject.column_eq_iff.mpr hUndone.eventType,
      EventObject.column_eq_iff.mpr hUndone.payload,
      EventObject.column_eq_iff.mpr hUndone.status,
      EventObject.column_eq_iff.mpr hUndone.attemptCount,
      EventObject.column_eq_iff.mpr hUndone.availableAt,
      EventObject.column_eq_iff.mpr hUndone.failureReason⟩

/- A row ends as wanted where it was left so. -/
theorem flushRow_eq_iff :
    flushRow held row = wanted ↔
      RowUndone held wanted row := by
  unfold flushRow
  by_cases hOwn : row.event.id = held.loaded.event.id
  · rw [if_pos hOwn, flush_eq_iff]
    exact ⟨fun hColumns =>
        ⟨fun hOther => absurd hOwn hOther,
          fun _ => hColumns⟩,
      fun hUndone => hUndone.own hOwn⟩
  · rw [if_neg hOwn]
    exact ⟨fun hSame =>
        ⟨fun _ => hSame, fun hRow => absurd hRow hOwn⟩,
      fun hUndone => hUndone.other hOwn⟩

theorem map_flushRow_eq_iff
    {queue queue' : List OutboxRow}
    {booked : OutboxRow → OutboxRow} :
    queue'.map (flushRow held) = queue.map booked ↔
      List.Forall₂ (fun row => RowUndone held (booked row))
        queue queue' := by
  rw [eq_comm, ← List.forall₂_eq_eq_eq,
    List.forall₂_map_left_iff, List.forall₂_map_right_iff]
  have hRows :
      ∀ row row',
        booked row = flushRow held row' ↔
          RowUndone held (booked row) row' := by
    intro row row'
    rw [eq_comm, flushRow_eq_iff]
  simp only [hRows]

/- A booked failure is no other change. -/
theorem withoutRetry_book
    {eventId : Uuid}
    {booked : OutboxRow} :
    (row.book eventId booked).withoutRetry eventId =
      row.withoutRetry eventId := by
  unfold OutboxRow.book OutboxRow.withoutRetry
  by_cases hOwn : row.event.id = eventId
  · simp [hOwn]
  · simp [hOwn]

/-
  Of a dispatch that raises, nothing but its own count is
  committed exactly where all it did was nothing.
-/
theorem failed_dispatch_undone_iff
    {R : Type}
    {store committed : OutboxStore R}
    {poll : Poll R}
    {claimed : OutboxRow}
    {text : String}
    {status : OutboxStatus}
    (hClaim : claimOne store poll = some claimed)
    (hRaises : poll.dispatch.raises = some (.text text))
    (hReturns :
      processNext store poll =
        some (.returned committed status)) :
    NoOtherEffect store committed poll claimed text ↔
      WritesUndone store poll claimed text := by
  rcases processNext_returned hClaim hRaises hReturns with
    ⟨held, handled, hHeld, hHandled, hCommitted⟩
  constructor
  · intro hNone
    rcases hNone.unwritten with
      ⟨jitter, booked, hBooked, hQueue⟩
    constructor
    · rw [← hNone.rest, hCommitted]
    · refine ⟨held, handled, jitter, booked, hHeld, hHandled,
        hBooked, ?_⟩
      rw [← map_flushRow_eq_iff, ← hQueue, hCommitted]
  · intro hUndone
    rcases hUndone.rows with
      ⟨other, again, jitter, booked, hOther, hAgain, hBooked,
        hRows⟩
    rw [hHeld] at hOther
    cases hOther
    rw [hHandled] at hAgain
    cases hAgain
    have hQueue :
        committed.queue =
          store.queue.map (fun row =>
            row.book claimed.event.id booked) := by
      rw [hCommitted]
      exact map_flushRow_eq_iff.mpr hRows
    constructor
    · rw [hCommitted]
      exact hUndone.rest
    · rw [hQueue, List.map_map]
      exact List.map_congr_left
        (fun row _ => withoutRetry_book)
    · exact ⟨jitter, booked, hBooked, hQueue⟩

/- One event is due, and nothing else is stored. -/
def waitingRow : OutboxRow where
  event :=
    { id := 1
      aggregateType := .webhookEvent
      aggregateId := 1
      eventType := "webhook.received"
      payload := .webhook 1 }

def waitingStore : OutboxStore Database where
  queue := [waitingRow]
  rest := {}

/- The dispatch raises before it writes anything. -/
def raisingPoll : Poll Database where
  dispatch := { raises := some (.text "unreachable") }

/- The dispatch books a settlement and then raises. -/
def writingPoll : Poll Database where
  dispatch :=
    { writes :=
        [.execute (fun store =>
          some
            { store with
              rest := recordPaymentSettled store.rest 1 100
                {} })]
      raises := some (.text "unreachable") }

def failedRow : OutboxRow where
  event := waitingRow.event
  retry :=
    { attemptCount := 1
      failureReason := some "unreachable" }

/- The handler counts on from what the dispatch has set. -/
example :
    processNext waitingStore
        { dispatch :=
            { held := fun row =>
                some
                  { attributes :=
                      { row with retry := { attemptCount := 5 } }
                    loaded := row }
              raises := some (.text "unreachable") } } =
      some (.returned
        { queue :=
            [{ event := waitingRow.event
               retry :=
                 { attemptCount := 6
                   failureReason := some "unreachable" } }]
          rest := {} } .pending) := by
  decide +kernel

theorem failed_dispatch_undone_iff_raising :
    processNext waitingStore raisingPoll =
        some (.returned
          { queue := [failedRow], rest := {} } .pending) ∧
      NoOtherEffect waitingStore
        { queue := [failedRow], rest := {} } raisingPoll
        waitingRow "unreachable" := by
  have hReturns :
      processNext waitingStore raisingPoll =
        some (.returned
          { queue := [failedRow], rest := {} } .pending) := by
    decide +kernel
  refine ⟨hReturns,
    (failed_dispatch_undone_iff (by decide +kernel) rfl
      hReturns).mpr ⟨rfl, ?_⟩⟩
  refine ⟨{ attributes := waitingRow, loaded := waitingRow },
    failedRow, 0, failedRow, rfl, by decide +kernel,
    by decide +kernel, ?_⟩
  refine .cons (flushRow_eq_iff.mp ?_) .nil
  decide +kernel

/- The settlement of a failed dispatch is committed. -/
theorem writes_of_failed_dispatch_are_committed :
    ∃ committed,
      processNext waitingStore writingPoll =
          some (.returned committed .pending) ∧
        committed.rest.ledger.length = 2 ∧
        ¬ NoOtherEffect waitingStore committed writingPoll
          waitingRow "unreachable" := by
  have hRun :
      (processNext waitingStore writingPoll).map
          (fun processed =>
            match processed with
            | .returned committed status =>
                (status, committed.rest.ledger.length)
            | _ => (.pending, 0)) =
        some (.pending, 2) := by
    decide +kernel
  rcases Option.map_eq_some_iff.mp hRun with
    ⟨processed, hReturns, hHolds⟩
  cases processed with
  | idle => cases hHolds
  | raised => cases hHolds
  | returned committed status =>
      simp only [Prod.mk.injEq] at hHolds
      rcases hHolds with ⟨rfl, hLedger⟩
      refine ⟨committed, hReturns, hLedger, ?_⟩
      intro hNone
      have hRest := hNone.rest
      rw [hRest] at hLedger
      cases hLedger

end PayGuard

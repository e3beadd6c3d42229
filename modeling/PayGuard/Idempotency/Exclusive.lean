import PayGuard.Idempotency.Protocol

/-
  Claims on one key are exclusive.

  A claim holds the row lock until its transaction ends, and
  the row it commits carries its clock reading.  The next
  claim therefore finds that reading in the row: it needs a
  `FAILED` row, or a clock that has passed the stale period.

  Key definitions include:
    * `KeyConsistent`
    * `Since`
    * `Exclusive`

  Key theorems include:
    * `keyConsistent_effect`
    * `claims_are_exclusive`
-/

------------------------------------------------------------
-- Locks And Positions
------------------------------------------------------------

namespace PayGuard

/- What the positions of the sessions say about the row. -/
structure KeyConsistent (table : KeyTable) : Prop where
  opened :
    ∀ session call keyRowId,
      table.sessions session = .opened call keyRowId →
        table.writes session = true
  claiming :
    ∀ session,
      (table.sessions session).betweenClaims = false →
        table.writes session = false
  reading :
    ∀ session call,
      table.sessions session = .reading call →
        table.committed ≠ none
  abandoned :
    ∀ session call row expectedStatus expectedLockedAt,
      table.sessions session =
          .reclaiming call row expectedStatus
            expectedLockedAt →
        evaluateExisting row call.fingerprint call.now
            call.staleAfter =
          .reclaim expectedStatus expectedLockedAt ∧
        ∃ stored,
          table.committed = some stored ∧
            stored.requestFingerprint =
              row.requestFingerprint
  fingerprint :
    ∀ session row stored,
      table.inFlight = some (session, row) →
        table.committed = some stored →
          row.requestFingerprint = stored.requestFingerprint

/- The start: some committed row or none, all idle. -/
def KeyTable.start
    (committed : Option IdempotencyKey) : KeyTable :=
  { committed := committed }

theorem keyConsistent_start
    (committed : Option IdempotencyKey) :
    KeyConsistent (KeyTable.start committed) where
  opened := by
    intro session call keyRowId hSession
    cases hSession
  claiming := by
    intro session hSession
    cases hSession
  reading := by
    intro session call hSession
    cases hSession
  abandoned := by
    intro session call row expectedStatus expectedLockedAt
      hSession
    cases hSession
  fingerprint := by
    intro session row stored hInFlight
    cases hInFlight

variable {name : KeyName}
variable {table next : KeyTable}
variable {session other : SessionId}
variable {row : IdempotencyKey}

/- A session that has not written sees the committed row. -/
theorem current_of_not_writes
    (hWrites : table.writes session = false) :
    table.current session = table.committed := by
  unfold KeyTable.writes at hWrites
  unfold KeyTable.current
  cases hInFlight : table.inFlight with
  | none => rfl
  | some version =>
      rw [hInFlight] at hWrites
      simp only [decide_eq_false_iff_not] at hWrites
      simp [hWrites]

/- It gets the row lock only when nobody has it. -/
theorem inFlight_of_writable
    (hWrites : table.writes session = false)
    (hWritable : table.writable session = true) :
    table.inFlight = none := by
  unfold KeyTable.writes at hWrites
  unfold KeyTable.writable at hWritable
  cases hInFlight : table.inFlight with
  | none => rfl
  | some version =>
      rw [hInFlight] at hWrites hWritable
      simp only [decide_eq_false_iff_not] at hWrites
      simp only [decide_eq_true_iff] at hWritable
      exact absurd hWritable hWrites

theorem writes_of_inFlight
    (hInFlight : table.inFlight = some (session, row)) :
    table.writes other = true ↔ session = other := by
  unfold KeyTable.writes
  rw [hInFlight]
  simp

theorem writes_of_none
    (hInFlight : table.inFlight = none) :
    table.writes session = false := by
  unfold KeyTable.writes
  rw [hInFlight]

/- Two sessions do not both hold the row lock. -/
theorem eq_of_writes
    (hWrites : table.writes other = true)
    (hWritable : table.writable session = true) :
    other = session := by
  rcases writes_eq_true hWrites with ⟨version, hInFlight⟩
  unfold KeyTable.writable at hWritable
  rw [hInFlight] at hWritable
  simpa using hWritable

/- A session in the middle of a claim has not written. -/
theorem KeyConsistent.not_writes_of_calling
    {fingerprint : String}
    {staleAfter : Int}
    (hConsistent : KeyConsistent table)
    (hCall :
      table.sessions session =
        .calling fingerprint staleAfter) :
    table.writes session = false := by
  apply hConsistent.claiming
  rw [hCall]
  rfl

theorem KeyConsistent.not_writes_of_reading
    {call : ClaimCall}
    (hConsistent : KeyConsistent table)
    (hCall : table.sessions session = .reading call) :
    table.writes session = false := by
  apply hConsistent.claiming
  rw [hCall]
  rfl

theorem KeyConsistent.not_writes_of_reclaiming
    {call : ClaimCall}
    {expectedStatus : KeyStatus}
    {expectedLockedAt : Option Timestamp}
    (hConsistent : KeyConsistent table)
    (hCall :
      table.sessions session =
        .reclaiming call row expectedStatus
          expectedLockedAt) :
    table.writes session = false := by
  apply hConsistent.claiming
  rw [hCall]
  rfl

/- Statements that write nothing keep consistency. -/
theorem keyConsistent_advance
    {position : Session}
    (hConsistent : KeyConsistent table)
    (hAdvance : Advance table session position) :
    KeyConsistent (table.become session position) := by
  -- the other sessions are where they were
  have hOther :
      ∀ other,
        other ≠ session →
          (table.become session position).sessions other =
            table.sessions other := by
    intro other hNe
    exact Function.update_of_ne hNe _ _
  have hSelf :
      (table.become session position).sessions session =
        position :=
    Function.update_self _ _ _
  refine
    { opened := ?_
      claiming := ?_
      reading := ?_
      abandoned := ?_
      fingerprint := hConsistent.fingerprint }
  · intro other call keyRowId hSession
    by_cases hNe : other = session
    · subst hNe
      rw [hSelf] at hSession
      subst hSession
      cases hAdvance
    · rw [hOther other hNe] at hSession
      exact hConsistent.opened other call keyRowId hSession
  · intro other hSession
    by_cases hNe : other = session
    · subst hNe
      rw [hSelf] at hSession
      cases hAdvance with
      | begin hIdle hFresh => exact hFresh
      | conflict now hCall hRow =>
          exact hConsistent.not_writes_of_calling hCall
      | answer hCall hRow hOutcome => cases hSession
      | abandoned hCall hRow hEvaluation =>
          exact hConsistent.not_writes_of_reading hCall
      | restart hCall =>
          exact hConsistent.not_writes_of_reclaiming hCall
    · rw [hOther other hNe] at hSession
      exact hConsistent.claiming other hSession
  · intro other call hSession
    by_cases hNe : other = session
    · subst hNe
      rw [hSelf] at hSession
      subst hSession
      cases hAdvance with
      | conflict now hCall hRow =>
          have hFresh :=
            hConsistent.not_writes_of_calling hCall
          rw [current_of_not_writes hFresh] at hRow
          simp [KeyTable.become, hRow]
    · rw [hOther other hNe] at hSession
      exact hConsistent.reading other call hSession
  · intro other call row expectedStatus expectedLockedAt
      hSession
    by_cases hNe : other = session
    · subst hNe
      rw [hSelf] at hSession
      subst hSession
      cases hAdvance with
      | abandoned hCall hRow hEvaluation =>
          have hFresh :=
            hConsistent.not_writes_of_reading hCall
          rw [current_of_not_writes hFresh] at hRow
          exact ⟨hEvaluation, row, hRow, rfl⟩
    · rw [hOther other hNe] at hSession
      exact hConsistent.abandoned other call row
        expectedStatus expectedLockedAt hSession

/- Winning a claim keeps consistency. -/
theorem keyConsistent_claim
    {call : ClaimCall}
    (hConsistent : KeyConsistent table)
    (hInFlight : table.inFlight = none)
    (hFingerprint :
      ∀ stored,
        table.committed = some stored →
          row.requestFingerprint =
            stored.requestFingerprint) :
    KeyConsistent (table.claim session call row) := by
  have hOther :
      ∀ other,
        other ≠ session →
          (table.claim session call row).sessions other =
            table.sessions other := by
    intro other hNe
    exact Function.update_of_ne hNe _ _
  have hSelf :
      (table.claim session call row).sessions session =
        .opened call row.id :=
    Function.update_self _ _ _
  have hLock :
      (table.claim session call row).inFlight =
        some (session, row) := rfl
  refine
    { opened := ?_
      claiming := ?_
      reading := ?_
      abandoned := ?_
      fingerprint := ?_ }
  · intro other otherCall keyRowId hSession
    by_cases hNe : other = session
    · exact (writes_of_inFlight hLock).mpr hNe.symm
    · rw [hOther other hNe] at hSession
      have hWrites :=
        hConsistent.opened other otherCall keyRowId hSession
      rw [writes_of_none hInFlight] at hWrites
      cases hWrites
  · intro other hSession
    by_cases hNe : other = session
    · subst hNe
      rw [hSelf] at hSession
      cases hSession
    · by_contra hWrites
      rw [Bool.not_eq_false, writes_of_inFlight hLock]
        at hWrites
      exact hNe hWrites.symm
  · intro other otherCall hSession
    by_cases hNe : other = session
    · subst hNe
      rw [hSelf] at hSession
      cases hSession
    · rw [hOther other hNe] at hSession
      exact hConsistent.reading other otherCall hSession
  · intro other otherCall read expectedStatus
      expectedLockedAt hSession
    by_cases hNe : other = session
    · subst hNe
      rw [hSelf] at hSession
      cases hSession
    · rw [hOther other hNe] at hSession
      exact hConsistent.abandoned other otherCall read
        expectedStatus expectedLockedAt hSession
  · intro writer version stored hVersion hStored
    rw [hLock] at hVersion
    cases hVersion
    exact hFingerprint stored hStored

/- A completion or failure keeps the fingerprint. -/
theorem changed_fingerprint
    {changed : IdempotencyKey}
    (hChanged :
      (∃ paymentIntentId responseStatus responseBody
          refundId,
        changed =
          row.completed paymentIntentId responseStatus
            responseBody refundId) ∨
        changed = row.markedFailed) :
    changed.requestFingerprint = row.requestFingerprint ∧
      changed.lockedAt = row.lockedAt := by
  rcases hChanged with ⟨_, _, _, _, rfl⟩ | rfl
  · exact ⟨rfl, rfl⟩
  · exact ⟨rfl, rfl⟩

/- Every version a session sees has the stored fingerprint. -/
theorem KeyConsistent.current_fingerprint
    {stored : IdempotencyKey}
    (hConsistent : KeyConsistent table)
    (hCurrent : table.current session = some row)
    (hStored : table.committed = some stored) :
    row.requestFingerprint = stored.requestFingerprint := by
  unfold KeyTable.current at hCurrent
  cases hInFlight : table.inFlight with
  | none =>
      rw [hInFlight] at hCurrent
      simp only [hStored, Option.some.injEq] at hCurrent
      rw [hCurrent]
  | some version =>
      rw [hInFlight] at hCurrent
      simp only at hCurrent
      split at hCurrent
      · cases hCurrent
        exact hConsistent.fingerprint version.1 version.2
          stored hInFlight hStored
      · rw [hStored, Option.some.injEq] at hCurrent
        rw [hCurrent]

theorem keyConsistent_written
    {changed : IdempotencyKey}
    (hConsistent : KeyConsistent table)
    (hBetween :
      (table.sessions session).betweenClaims = true)
    (hWritable : table.writable session = true)
    (hCurrent : table.current session = some row)
    (hFingerprint :
      changed.requestFingerprint =
        row.requestFingerprint) :
    KeyConsistent
      { table with
        inFlight := some (session, changed) } := by
  refine
    { opened := ?_
      claiming := ?_
      reading := hConsistent.reading
      abandoned := hConsistent.abandoned
      fingerprint := ?_ }
  · intro other call keyRowId hSession
    have hSame :=
      eq_of_writes
        (hConsistent.opened other call keyRowId hSession)
        hWritable
    exact (writes_of_inFlight rfl).mpr hSame.symm
  · intro other hSession
    by_contra hWrites
    rw [Bool.not_eq_false, writes_of_inFlight rfl]
      at hWrites
    subst hWrites
    rw [hBetween] at hSession
    cases hSession
  · intro writer version stored hVersion hStored
    cases hVersion
    rw [hFingerprint]
    exact hConsistent.current_fingerprint hCurrent hStored

/- A transaction that ends gives the row lock back. -/
theorem keyConsistent_ended
    {position : Session}
    {committed : Option IdempotencyKey}
    {log : List KeyEvent}
    (hConsistent : KeyConsistent table)
    (hInFlight : table.inFlight = some (session, row))
    (hPosition :
      ∀ call keyRowId, position ≠ .opened call keyRowId)
    (hBetween : position.betweenClaims = true)
    (hStored :
      ∀ stored,
        table.committed = some stored →
          ∃ stored',
            committed = some stored' ∧
              stored'.requestFingerprint =
                stored.requestFingerprint) :
    KeyConsistent
      { committed := committed
        inFlight := none
        sessions :=
          Function.update table.sessions session position
        log := log } := by
  refine
    { opened := ?_
      claiming := fun _ _ => rfl
      reading := ?_
      abandoned := ?_
      fingerprint := ?_ }
  · intro other call keyRowId hSession
    by_cases hNe : other = session
    · subst hNe
      simp only [Function.update_self] at hSession
      exact absurd hSession (hPosition call keyRowId)
    · simp only [Function.update_of_ne hNe] at hSession
      have hWrites :=
        hConsistent.opened other call keyRowId hSession
      rw [writes_of_inFlight hInFlight] at hWrites
      exact absurd hWrites.symm hNe
  · intro other call hSession
    by_cases hNe : other = session
    · subst hNe
      simp only [Function.update_self] at hSession
      rw [hSession] at hBetween
      cases hBetween
    · simp only [Function.update_of_ne hNe] at hSession
      have hSome := hConsistent.reading other call hSession
      rcases Option.ne_none_iff_exists'.mp hSome with
        ⟨stored, hOld⟩
      rcases hStored stored hOld with ⟨stored', hNew, _⟩
      simp [hNew]
  · intro other call read expectedStatus expectedLockedAt
      hSession
    by_cases hNe : other = session
    · subst hNe
      simp only [Function.update_self] at hSession
      rw [hSession] at hBetween
      cases hBetween
    · simp only [Function.update_of_ne hNe] at hSession
      rcases hConsistent.abandoned other call read
        expectedStatus expectedLockedAt hSession with
        ⟨hEvaluation, stored, hOld, hSame⟩
      rcases hStored stored hOld with
        ⟨stored', hNew, hKept⟩
      exact ⟨hEvaluation, stored', hNew, hKept.trans hSame⟩
  · intro writer version stored hVersion
    cases hVersion

/- A session that has written is not inside a claim. -/
theorem KeyConsistent.betweenClaims
    (hConsistent : KeyConsistent table)
    (hInFlight : table.inFlight = some (session, row)) :
    (table.sessions session).betweenClaims = true := by
  by_contra hClaiming
  rw [Bool.not_eq_true] at hClaiming
  have hFresh := hConsistent.claiming session hClaiming
  have hWrites := (writes_of_inFlight hInFlight).mpr rfl
  rw [hFresh] at hWrites
  cases hWrites

theorem Session.commit_ne_opened
    (position : Session)
    (call : ClaimCall)
    (keyRowId : Uuid) :
    position.commit ≠ .opened call keyRowId := by
  cases position <;> simp [Session.commit]

theorem Session.commit_betweenClaims
    (position : Session) :
    position.commit.betweenClaims =
      position.betweenClaims := by
  cases position <;> rfl

/- Statements of a claim keep consistency. -/
theorem keyConsistent_claimEffect
    (hConsistent : KeyConsistent table)
    (hClaim : ClaimEffect name table session next) :
    KeyConsistent next := by
  cases hClaim with
  | advance hAdvance =>
      exact keyConsistent_advance hConsistent hAdvance
  | inserted draw hCall hWritable hNone =>
      have hFresh := hConsistent.not_writes_of_calling hCall
      rw [current_of_not_writes hFresh] at hNone
      apply keyConsistent_claim hConsistent
        (inFlight_of_writable hFresh hWritable)
      intro stored hStored
      rw [hNone] at hStored
      cases hStored
  | reclaimed hCall hWritable hCurrent hMatches =>
      have hFresh :=
        hConsistent.not_writes_of_reclaiming hCall
      apply keyConsistent_claim hConsistent
        (inFlight_of_writable hFresh hWritable)
      intro stored hStored
      have hSame :=
        hConsistent.current_fingerprint hCurrent hStored
      exact hSame

/- Every statement keeps consistency. -/
theorem keyConsistent_effect
    (hConsistent : KeyConsistent table)
    (hEffect : KeyEffect name table next) :
    KeyConsistent next := by
  cases hEffect with
  | unchanged => exact hConsistent
  | claiming hClaim =>
      exact keyConsistent_claimEffect hConsistent hClaim
  | written hBetween hWritable hCurrent hChanged =>
      exact keyConsistent_written hConsistent hBetween
        hWritable hCurrent (changed_fingerprint hChanged).1
  | committed hInFlight =>
      apply keyConsistent_ended hConsistent hInFlight
        (Session.commit_ne_opened _)
      · rw [Session.commit_betweenClaims]
        exact hConsistent.betweenClaims hInFlight
      · intro stored hStored
        exact ⟨_, rfl, hConsistent.fingerprint _ _ stored
          hInFlight hStored⟩
  | withdrawn hInFlight hCall =>
      apply keyConsistent_ended hConsistent hInFlight
      · simp
      · rfl
      · intro stored hStored
        exact ⟨stored, hStored, rfl⟩
  | @rolledBack session row hInFlight hNotOpen =>
      have hEnded :
          KeyConsistent
            { committed := table.committed
              inFlight := none
              sessions :=
                Function.update table.sessions session
                  (table.sessions session)
              log := table.log } :=
        keyConsistent_ended hConsistent hInFlight hNotOpen
          (hConsistent.betweenClaims hInFlight)
          (fun stored hStored => ⟨stored, hStored, rfl⟩)
      rw [Function.update_eq_self] at hEnded
      exact hEnded

end PayGuard

------------------------------------------------------------
-- Since The Last Claim
------------------------------------------------------------

namespace PayGuard

/- The row was committed as `FAILED`. -/
def FailedIn (events : List KeyEvent) : Prop :=
  ∃ session row,
    .committed session row ∈ events ∧ row.status = .failed

/-
  What has become of a claim, when `events` have happened
  since and none of them is a claim: it was withdrawn, or it
  is still open, or the row carries its clock reading.
-/
inductive Since
    (table : KeyTable)
    (session : SessionId)
    (now : Timestamp)
    (events : List KeyEvent) : Prop where
| withdrawn (hWithdrawn : .withdrawn session ∈ events)
| opened
    (call : ClaimCall)
    (keyRowId : Uuid)
    (row : IdempotencyKey)
    (hSession :
      table.sessions session = .opened call keyRowId)
    (hInFlight : table.inFlight = some (session, row))
    (hLockedAt : row.lockedAt = some now)
| effective
    (stored : IdempotencyKey)
    (hStored : table.committed = some stored)
    (hLockedAt : stored.lockedAt = some now)
    (hFailed : stored.status = .failed → FailedIn events)
    (hInFlight :
      ∀ writer row,
        table.inFlight = some (writer, row) →
          row.lockedAt = some now)

/- Two claims with no third one between them. -/
def Exclusive (log : List KeyEvent) : Prop :=
  ∀ before between after session now staleAfter
      session' now' staleAfter',
    log =
        before ++
          .claimed session now staleAfter ::
            (between ++
              .claimed session' now' staleAfter' ::
                after) →
      (∀ event ∈ between, event.isClaim = false) →
        FailedIn between ∨
          staleAfter' ≤ now' - now ∨
          .withdrawn session ∈ between

/- Consistency, the history, and its last claim. -/
structure ExclusiveSoFar (table : KeyTable) : Prop where
  consistent : KeyConsistent table
  exclusive : Exclusive table.log
  since :
    ∀ before events session now staleAfter,
      table.log =
          before ++
            .claimed session now staleAfter :: events →
        (∀ event ∈ events, event.isClaim = false) →
          Since table session now events

variable {name : KeyName}
variable {table next : KeyTable}
variable {session : SessionId}

theorem exclusiveSoFar_start
    (committed : Option IdempotencyKey) :
    ExclusiveSoFar (KeyTable.start committed) where
  consistent := keyConsistent_start committed
  exclusive := by
    intro before between after session now staleAfter
      session' now' staleAfter' hLog
    simp [KeyTable.start] at hLog
  since := by
    intro before events session now staleAfter hLog
    simp [KeyTable.start] at hLog

/- An event that is no claim belongs to what came since. -/
theorem append_eq_claim_append
    {log before events : List KeyEvent}
    {event claim : KeyEvent}
    (hEvent : event.isClaim = false)
    (hClaim : claim.isClaim = true)
    (hLog : log ++ [event] = before ++ claim :: events) :
    ∃ events',
      events = events' ++ [event] ∧
        log = before ++ claim :: events' := by
  rcases List.eq_nil_or_concat events with
    rfl | ⟨events', last, rfl⟩
  · have hLast := (List.append_inj' hLog rfl).2
    simp only [List.cons.injEq, and_true] at hLast
    rw [hLast, hClaim] at hEvent
    cases hEvent
  · rw [List.concat_eq_append, ← List.cons_append,
      ← List.append_assoc] at hLog
    have hParts := List.append_inj' hLog rfl
    refine ⟨events', ?_, hParts.1⟩
    rw [List.concat_eq_append, hParts.2]

/- Appending no claim leaves exclusiveness alone. -/
theorem Exclusive.append
    {log : List KeyEvent}
    {event : KeyEvent}
    (hExclusive : Exclusive log)
    (hEvent : event.isClaim = false) :
    Exclusive (log ++ [event]) := by
  intro before between after session now staleAfter session'
    now' staleAfter' hLog hBetween
  rw [← List.cons_append, ← List.append_assoc] at hLog
  rcases append_eq_claim_append hEvent rfl hLog with
    ⟨after', _, hOld⟩
  apply hExclusive before between after' session now
    staleAfter session' now' staleAfter' _ hBetween
  rw [hOld, List.append_assoc, List.cons_append]

/- A new claim is measured against the last one only. -/
theorem Exclusive.append_claim
    {log : List KeyEvent}
    {session' : SessionId}
    {now' : Timestamp}
    {staleAfter' : Int}
    (hExclusive : Exclusive log)
    (hLast :
      ∀ before between session now staleAfter,
        log =
            before ++
              .claimed session now staleAfter :: between →
          (∀ event ∈ between, event.isClaim = false) →
            FailedIn between ∨
              staleAfter' ≤ now' - now ∨
              .withdrawn session ∈ between) :
    Exclusive
      (log ++ [.claimed session' now' staleAfter']) := by
  intro before between after session now staleAfter session''
    now'' staleAfter'' hLog hBetween
  rw [← List.cons_append, ← List.append_assoc] at hLog
  rcases List.eq_nil_or_concat after with
    rfl | ⟨after', last, rfl⟩
  · -- the second claim is the new one
    have hParts := List.append_inj' hLog rfl
    simp only [List.cons.injEq, KeyEvent.claimed.injEq,
      and_true] at hParts
    rcases hParts with ⟨hOld, rfl, rfl, rfl⟩
    exact hLast before between session now staleAfter hOld
      hBetween
  · -- both claims are old ones
    rw [List.concat_eq_append, ← List.cons_append,
      ← List.append_assoc] at hLog
    have hOld := (List.append_inj' hLog rfl).1
    apply hExclusive before between after' session now
      staleAfter session'' now'' staleAfter'' _ hBetween
    rw [hOld, List.append_assoc, List.cons_append]

/- After a claim, the last claim is that one. -/
theorem last_of_append_claim
    {log before events : List KeyEvent}
    {claim claim' : KeyEvent}
    (hClaim : claim'.isClaim = true)
    (hEvents : ∀ event ∈ events, event.isClaim = false)
    (hLog : log ++ [claim'] = before ++ claim :: events) :
    events = [] ∧ claim = claim' := by
  rcases List.eq_nil_or_concat events with
    rfl | ⟨events', last, rfl⟩
  · have hLast := (List.append_inj' hLog rfl).2
    simp only [List.cons.injEq, and_true] at hLast
    exact ⟨rfl, hLast.symm⟩
  · rw [List.concat_eq_append, ← List.cons_append,
      ← List.append_assoc] at hLog
    have hLast := (List.append_inj' hLog rfl).2
    simp only [List.cons.injEq, and_true] at hLast
    have hNot := hEvents last (by simp)
    rw [← hLast, hClaim] at hNot
    cases hNot

/- A stale row was claimed a stale period ago. -/
theorem evaluateExisting_reclaim
    {row : IdempotencyKey}
    {fingerprint : String}
    {now : Timestamp}
    {staleAfter : Int}
    {expectedStatus : KeyStatus}
    {expectedLockedAt : Option Timestamp}
    (hEvaluation :
      evaluateExisting row fingerprint now staleAfter =
        .reclaim expectedStatus expectedLockedAt) :
    row.requestFingerprint = fingerprint ∧
      ((expectedStatus = .failed ∧
          expectedLockedAt = none) ∨
        (expectedStatus = .pending ∧
          expectedLockedAt = some row.lockTime ∧
          staleAfter ≤ now - row.lockTime)) := by
  unfold evaluateExisting at hEvaluation
  split at hEvaluation
  · cases hEvaluation
  · rename_i hFingerprint
    refine ⟨not_not.mp hFingerprint, ?_⟩
    cases hStatus : row.status with
    | completed => simp [hStatus] at hEvaluation
    | failed =>
        simp only [hStatus, Evaluation.reclaim.injEq]
          at hEvaluation
        exact .inl ⟨hEvaluation.1.symm, hEvaluation.2.symm⟩
    | pending =>
        simp only [hStatus] at hEvaluation
        split at hEvaluation
        · cases hEvaluation
        · rename_i hStale
          cases hEvaluation
          exact .inr ⟨rfl, rfl, not_lt.mp hStale⟩

/-
  A row that matches the clause is `FAILED`, or it still has
  the lock time that was found stale.
-/
theorem reclaimMatches_cases
    {row stored : IdempotencyKey}
    {fingerprint : String}
    {now lockedAt : Timestamp}
    {staleAfter : Int}
    {expectedStatus : KeyStatus}
    {expectedLockedAt : Option Timestamp}
    (hEvaluation :
      evaluateExisting row fingerprint now staleAfter =
        .reclaim expectedStatus expectedLockedAt)
    (hMatches :
      reclaimMatches row expectedStatus expectedLockedAt
        stored = true)
    (hLockedAt : stored.lockedAt = some lockedAt) :
    stored.status = .failed ∨
      (stored.status = .pending ∧
        staleAfter ≤ now - lockedAt) := by
  unfold reclaimMatches at hMatches
  simp only [Bool.and_eq_true, decide_eq_true_iff]
    at hMatches
  rcases hMatches with ⟨⟨_, hStatus⟩, hLock⟩
  rcases (evaluateExisting_reclaim hEvaluation).2 with
    ⟨hFailed, _⟩ | ⟨hPending, hExpected, hStale⟩
  · exact .inl (hStatus.trans hFailed)
  · refine .inr ⟨hStatus.trans hPending, ?_⟩
    rw [hExpected] at hLock
    unfold lockedAtMatches at hLock
    rw [hLockedAt] at hLock
    cases hRead : row.lockedAt with
    | none => simp [hRead] at hLock
    | some readAt =>
        simp only [hRead, Option.isSome_some, if_true,
          Option.some.injEq, decide_eq_true_iff] at hLock
        rw [hLock]
        exact hStale

/- The claim that comes next finds the last one settled. -/
theorem Since.reclaimed
    {events : List KeyEvent}
    {claimer : SessionId}
    {now : Timestamp}
    {call : ClaimCall}
    {row stored : IdempotencyKey}
    {expectedStatus : KeyStatus}
    {expectedLockedAt : Option Timestamp}
    (hSince : Since table session now events)
    (hConsistent : KeyConsistent table)
    (hCall :
      table.sessions claimer =
        .reclaiming call row expectedStatus
          expectedLockedAt)
    (hWritable : table.writable claimer = true)
    (hCurrent : table.current claimer = some stored)
    (hMatches :
      reclaimMatches row expectedStatus expectedLockedAt
        stored = true) :
    FailedIn events ∨
      call.staleAfter ≤ call.now - now ∨
      .withdrawn session ∈ events := by
  have hFresh := hConsistent.not_writes_of_reclaiming hCall
  rw [current_of_not_writes hFresh] at hCurrent
  have hNone := inFlight_of_writable hFresh hWritable
  cases hSince with
  | withdrawn hWithdrawn => exact .inr (.inr hWithdrawn)
  | opened _ _ _ _ hInFlight _ =>
      rw [hNone] at hInFlight
      cases hInFlight
  | effective committed hStored hLockedAt hFailed _ =>
      rw [hStored, Option.some.injEq] at hCurrent
      subst hCurrent
      have hEvaluation :=
        (hConsistent.abandoned claimer call row
          expectedStatus expectedLockedAt hCall).1
      rcases reclaimMatches_cases hEvaluation hMatches
        hLockedAt with hStatus | ⟨_, hStale⟩
      · exact .inl (hFailed hStatus)
      · exact .inr (.inl hStale)

/- An insert goes through only after a withdrawn claim. -/
theorem Since.inserted
    {events : List KeyEvent}
    {claimer : SessionId}
    {now : Timestamp}
    {fingerprint : String}
    {staleAfter : Int}
    (hSince : Since table session now events)
    (hConsistent : KeyConsistent table)
    (hCall :
      table.sessions claimer =
        .calling fingerprint staleAfter)
    (hWritable : table.writable claimer = true)
    (hNone : table.current claimer = none) :
    .withdrawn session ∈ events := by
  have hFresh := hConsistent.not_writes_of_calling hCall
  rw [current_of_not_writes hFresh] at hNone
  have hFree := inFlight_of_writable hFresh hWritable
  cases hSince with
  | withdrawn hWithdrawn => exact hWithdrawn
  | opened _ _ _ _ hInFlight _ =>
      rw [hFree] at hInFlight
      cases hInFlight
  | effective stored hStored _ _ _ =>
      rw [hNone] at hStored
      cases hStored

theorem FailedIn.mono
    {events events' : List KeyEvent}
    (hFailed : FailedIn events)
    (hSubset : events ⊆ events') : FailedIn events' := by
  rcases hFailed with ⟨session, row, hMem, hStatus⟩
  exact ⟨session, row, hSubset hMem, hStatus⟩

/- Statements that write nothing change nothing since. -/
theorem Since.advance
    {events : List KeyEvent}
    {now : Timestamp}
    {mover : SessionId}
    {position : Session}
    (hSince : Since table session now events)
    (hAdvance : Advance table mover position) :
    Since (table.become mover position) session now
      events := by
  cases hSince with
  | withdrawn hWithdrawn => exact .withdrawn hWithdrawn
  | opened call keyRowId row hSession hInFlight hLockedAt =>
      have hNe : session ≠ mover := by
        intro hSame
        subst hSame
        cases hAdvance <;> simp_all
      refine .opened call keyRowId row ?_ hInFlight hLockedAt
      exact (Function.update_of_ne hNe _ _).trans hSession
  | effective stored hStored hLockedAt hFailed hInFlight =>
      exact .effective stored hStored hLockedAt hFailed
        hInFlight

/- A completion or failure keeps the clock reading. -/
theorem Since.written
    {events : List KeyEvent}
    {now : Timestamp}
    {writer : SessionId}
    {row changed : IdempotencyKey}
    (hSince : Since table session now events)
    (hWritable : table.writable writer = true)
    (hCurrent : table.current writer = some row)
    (hLocked : changed.lockedAt = row.lockedAt) :
    Since
      { table with inFlight := some (writer, changed) }
      session now events := by
  cases hSince with
  | withdrawn hWithdrawn => exact .withdrawn hWithdrawn
  | opened call keyRowId version hSession hInFlight
      hLockedAt =>
      have hSame : session = writer :=
        eq_of_writes ((writes_of_inFlight hInFlight).mpr rfl)
          hWritable
      subst hSame
      have hRow : version = row := by
        simpa [KeyTable.current, hInFlight] using hCurrent
      subst hRow
      exact .opened call keyRowId changed hSession rfl
        (hLocked.trans hLockedAt)
  | effective stored hStored hLockedAt hFailed hInFlight =>
      refine .effective stored hStored hLockedAt hFailed ?_
      intro other version hVersion
      cases hVersion
      rw [hLocked]
      unfold KeyTable.current at hCurrent
      cases hFlight : table.inFlight with
      | none =>
          rw [hFlight] at hCurrent
          simp only [hStored, Option.some.injEq] at hCurrent
          rw [← hCurrent]
          exact hLockedAt
      | some version =>
          rw [hFlight] at hCurrent
          simp only at hCurrent
          split at hCurrent
          · cases hCurrent
            exact hInFlight version.1 version.2 hFlight
          · rw [hStored, Option.some.injEq] at hCurrent
            rw [← hCurrent]
            exact hLockedAt

/- A commit makes an open claim effective. -/
theorem Since.committed
    {events : List KeyEvent}
    {now : Timestamp}
    {writer : SessionId}
    {row : IdempotencyKey}
    {sessions : SessionId → Session}
    {log : List KeyEvent}
    (hSince : Since table session now events)
    (hInFlight : table.inFlight = some (writer, row)) :
    Since
      { committed := some row
        inFlight := none
        sessions := sessions
        log := log }
      session now (events ++ [.committed writer row]) := by
  -- the committed version carries the reading either way
  have hEffective :
      row.lockedAt = some now →
        Since
          { committed := some row
            inFlight := none
            sessions := sessions
            log := log }
          session now
          (events ++ [.committed writer row]) := by
    intro hLockedAt
    refine .effective row rfl hLockedAt ?_ ?_
    · intro hStatus
      exact ⟨writer, row, by simp, hStatus⟩
    · intro other version hVersion
      cases hVersion
  cases hSince with
  | withdrawn hWithdrawn =>
      exact .withdrawn (List.mem_append_left _ hWithdrawn)
  | opened call keyRowId version _ hFlight hLockedAt =>
      rw [hInFlight] at hFlight
      cases hFlight
      exact hEffective hLockedAt
  | effective _ _ _ _ hFlight =>
      exact hEffective (hFlight writer row hInFlight)

/- A rollback withdraws an open claim and nothing else. -/
theorem Since.ended
    {events events' : List KeyEvent}
    {now : Timestamp}
    {writer : SessionId}
    {row : IdempotencyKey}
    {sessions : SessionId → Session}
    {log : List KeyEvent}
    (hSince : Since table session now events)
    (hInFlight : table.inFlight = some (writer, row))
    (hSubset : events ⊆ events')
    (hOpen :
      ∀ call keyRowId,
        table.sessions writer = .opened call keyRowId →
          .withdrawn writer ∈ events') :
    Since
      { committed := table.committed
        inFlight := none
        sessions := sessions
        log := log }
      session now events' := by
  cases hSince with
  | withdrawn hWithdrawn =>
      exact .withdrawn (hSubset hWithdrawn)
  | opened call keyRowId version hSession hFlight _ =>
      rw [hInFlight] at hFlight
      cases hFlight
      exact .withdrawn (hOpen call keyRowId hSession)
  | effective stored hStored hLockedAt hFailed _ =>
      refine .effective stored hStored hLockedAt ?_ ?_
      · intro hStatus
        exact (hFailed hStatus).mono hSubset
      · intro other version hVersion
        cases hVersion

/- A claim that is won starts a new history. -/
theorem ExclusiveSoFar.claim
    {call : ClaimCall}
    {row : IdempotencyKey}
    (hSoFar : ExclusiveSoFar table)
    (hConsistent :
      KeyConsistent (table.claim session call row))
    (hLockedAt : row.lockedAt = some call.now)
    (hLast :
      ∀ earlier now events,
        Since table earlier now events →
          FailedIn events ∨
            call.staleAfter ≤ call.now - now ∨
            .withdrawn earlier ∈ events) :
    ExclusiveSoFar (table.claim session call row) where
  consistent := hConsistent
  exclusive := by
    apply hSoFar.exclusive.append_claim
    intro before between earlier now staleAfter hLog hBetween
    exact hLast earlier now between
      (hSoFar.since before between earlier now staleAfter
        hLog hBetween)
  since := by
    intro before events claimer now staleAfter hLog hEvents
    rcases last_of_append_claim rfl hEvents hLog with
      ⟨rfl, hSame⟩
    cases hSame
    exact .opened call row.id row
      (Function.update_self _ _ _) rfl hLockedAt

/- An event that is no claim continues the history. -/
theorem ExclusiveSoFar.append
    {event : KeyEvent}
    (hSoFar : ExclusiveSoFar table)
    (hConsistent : KeyConsistent next)
    (hLog : next.log = table.log ++ [event])
    (hEvent : event.isClaim = false)
    (hSince :
      ∀ claimer now events,
        Since table claimer now events →
          Since next claimer now (events ++ [event])) :
    ExclusiveSoFar next where
  consistent := hConsistent
  exclusive := by
    rw [hLog]
    exact hSoFar.exclusive.append hEvent
  since := by
    intro before events claimer now staleAfter hSplit hEvents
    rw [hLog] at hSplit
    rcases append_eq_claim_append hEvent rfl hSplit with
      ⟨events', rfl, hOld⟩
    apply hSince
    apply hSoFar.since before events' claimer now staleAfter
      hOld
    intro other hOther
    exact hEvents other (List.mem_append_left _ hOther)

/- A step without an event leaves the history alone. -/
theorem ExclusiveSoFar.silent
    (hSoFar : ExclusiveSoFar table)
    (hConsistent : KeyConsistent next)
    (hLog : next.log = table.log)
    (hSince :
      ∀ claimer now events,
        Since table claimer now events →
          Since next claimer now events) :
    ExclusiveSoFar next where
  consistent := hConsistent
  exclusive := by
    rw [hLog]
    exact hSoFar.exclusive
  since := by
    intro before events claimer now staleAfter hSplit hEvents
    rw [hLog] at hSplit
    exact hSince claimer now events
      (hSoFar.since before events claimer now staleAfter
        hSplit hEvents)

theorem exclusiveSoFar_claimEffect
    (hSoFar : ExclusiveSoFar table)
    (hClaim : ClaimEffect name table session next) :
    ExclusiveSoFar next := by
  have hConsistent := hSoFar.consistent
  have hNext := keyConsistent_claimEffect hConsistent hClaim
  cases hClaim with
  | advance hAdvance =>
      exact hSoFar.silent hNext rfl
        (fun _ _ _ hSince => hSince.advance hAdvance)
  | inserted draw hCall hWritable hNone =>
      apply hSoFar.claim hNext rfl
      intro earlier now events hSince
      exact .inr (.inr
        (hSince.inserted hConsistent hCall hWritable hNone))
  | reclaimed hCall hWritable hCurrent hMatches =>
      apply hSoFar.claim hNext rfl
      intro earlier now events hSince
      exact hSince.reclaimed hConsistent hCall hWritable
        hCurrent hMatches

theorem exclusiveSoFar_effect
    (hSoFar : ExclusiveSoFar table)
    (hEffect : KeyEffect name table next) :
    ExclusiveSoFar next := by
  have hConsistent := hSoFar.consistent
  have hNext := keyConsistent_effect hConsistent hEffect
  cases hEffect with
  | unchanged => exact hSoFar
  | claiming hClaim =>
      exact exclusiveSoFar_claimEffect hSoFar hClaim
  | written hBetween hWritable hCurrent hChanged =>
      exact hSoFar.silent hNext rfl
        (fun _ _ _ hSince =>
          hSince.written hWritable hCurrent
            (changed_fingerprint hChanged).2)
  | committed hInFlight =>
      exact hSoFar.append hNext rfl rfl
        (fun _ _ _ hSince => hSince.committed hInFlight)
  | withdrawn hInFlight hCall =>
      apply hSoFar.append hNext rfl rfl
      intro claimer now events hSince
      apply hSince.ended hInFlight
      · exact List.subset_append_left _ _
      · intro call keyRowId _
        simp
  | rolledBack hInFlight hNotOpen =>
      apply hSoFar.silent hNext rfl
      intro claimer now events hSince
      apply hSince.ended hInFlight (List.Subset.refl _)
      intro call keyRowId hOpen
      exact absurd hOpen (hNotOpen call keyRowId)

end PayGuard

------------------------------------------------------------
-- Every Run
------------------------------------------------------------

namespace PayGuard

/-
  A call with another fingerprint than the stored row's: its
  insert does nothing, its read answers `CONFLICT`, and it
  never comes to reclaim.
-/
structure MismatchRejected
    (name : KeyName)
    (table : KeyTable) : Prop where
  insert :
    ∀ session fingerprint staleAfter row draw,
      table.sessions session =
          .calling fingerprint staleAfter →
        table.committed = some row →
          row.requestFingerprint ≠ fingerprint →
            keyStep name table (.insert session draw) =
              some (table.become session
                (.reading
                  ⟨fingerprint, staleAfter, draw.now⟩))
  read :
    ∀ session call row,
      table.sessions session = .reading call →
        table.committed = some row →
          row.requestFingerprint ≠ call.fingerprint →
            keyStep name table (.read session) =
              some (table.become session
                (.answered (.conflict row)))
  reclaim :
    ∀ session call read expectedStatus expectedLockedAt row,
      table.sessions session =
          .reclaiming call read expectedStatus
            expectedLockedAt →
        table.committed = some row →
          row.requestFingerprint = call.fingerprint

/- No statement claims a row committed as `COMPLETED`. -/
def CompletedUnclaimed
    (name : KeyName)
    (table : KeyTable) : Prop :=
  ∀ label next row,
    keyStep name table label = some next →
      table.committed = some row →
        row.status = .completed →
          ∀ session now staleAfter,
            next.log ≠
              table.log ++
                [.claimed session now staleAfter]

variable {name : KeyName}
variable {table next : KeyTable}

theorem KeyConsistent.mismatchRejected
    (hConsistent : KeyConsistent table) :
    MismatchRejected name table where
  insert := by
    intro session fingerprint staleAfter row draw hCall
      hStored hMismatch
    have hCurrent :=
      current_of_not_writes
        (hConsistent.not_writes_of_calling hCall)
    rw [hStored] at hCurrent
    simp [keyStep, keyInsert, hCall, hCurrent]
  read := by
    intro session call row hCall hStored hMismatch
    have hCurrent :=
      current_of_not_writes
        (hConsistent.not_writes_of_reading hCall)
    rw [hStored] at hCurrent
    simp [keyStep, keyRead, hCall, hCurrent,
      evaluateExisting, hMismatch]
  reclaim := by
    intro session call read expectedStatus expectedLockedAt
      row hCall hStored
    rcases hConsistent.abandoned session call read
      expectedStatus expectedLockedAt hCall with
      ⟨hEvaluation, stored, hSame, hFingerprint⟩
    rw [hStored, Option.some.injEq] at hSame
    subst hSame
    exact hFingerprint.trans
      (evaluateExisting_reclaim hEvaluation).1

/- The clause of a reclaim never asks for `COMPLETED`. -/
theorem reclaimMatches_ne_completed
    {row stored : IdempotencyKey}
    {fingerprint : String}
    {now : Timestamp}
    {staleAfter : Int}
    {expectedStatus : KeyStatus}
    {expectedLockedAt : Option Timestamp}
    (hEvaluation :
      evaluateExisting row fingerprint now staleAfter =
        .reclaim expectedStatus expectedLockedAt)
    (hMatches :
      reclaimMatches row expectedStatus expectedLockedAt
        stored = true) :
    stored.status ≠ .completed := by
  unfold reclaimMatches at hMatches
  simp only [Bool.and_eq_true, decide_eq_true_iff]
    at hMatches
  rw [hMatches.1.2]
  rcases (evaluateExisting_reclaim hEvaluation).2 with
    ⟨rfl, _⟩ | ⟨rfl, _, _⟩
  · simp
  · simp

/- A claim's statements only move on at a completed row. -/
theorem KeyConsistent.advance_of_completed
    {session : SessionId}
    {row : IdempotencyKey}
    (hConsistent : KeyConsistent table)
    (hStored : table.committed = some row)
    (hStatus : row.status = .completed)
    (hClaim : ClaimEffect name table session next) :
    ∃ position, next = table.become session position := by
  cases hClaim with
  | advance hAdvance => exact ⟨_, rfl⟩
  | inserted draw hCall hWritable hNone =>
      have hFresh := hConsistent.not_writes_of_calling hCall
      rw [current_of_not_writes hFresh, hStored] at hNone
      cases hNone
  | reclaimed hCall hWritable hCurrent hMatches =>
      have hFresh :=
        hConsistent.not_writes_of_reclaiming hCall
      rw [current_of_not_writes hFresh, hStored,
        Option.some.injEq] at hCurrent
      subst hCurrent
      have hEvaluation :=
        (hConsistent.abandoned _ _ _ _ _ hCall).1
      exact absurd hStatus
        (reclaimMatches_ne_completed hEvaluation hMatches)

theorem KeyConsistent.completedUnclaimed
    (hConsistent : KeyConsistent table) :
    CompletedUnclaimed name table := by
  intro label next row hStep hStored hStatus session now
    staleAfter hLog
  have hEffect := keyStep_effect hStep
  cases hEffect with
  | claiming hClaim =>
      rcases hConsistent.advance_of_completed hStored
        hStatus hClaim with ⟨position, rfl⟩
      simp [KeyTable.become] at hLog
  | committed hInFlight =>
      have hLast := (List.append_inj' hLog rfl).2
      simp at hLast
  | withdrawn hInFlight hCall =>
      have hLast := (List.append_inj' hLog rfl).2
      simp at hLast
  | _ => simp at hLog

theorem exclusiveSoFar_of_exec
    {stored : Option IdempotencyKey}
    {labels : List KeyLabel}
    (hRun :
      Lts.exec (keyStep name) (KeyTable.start stored)
        labels = some table) :
    ExclusiveSoFar table :=
  Lts.invariant_of_exec
    (fun _ _ _ hSoFar hStep =>
      exclusiveSoFar_effect hSoFar (keyStep_effect hStep))
    (exclusiveSoFar_start stored) hRun

/-
  In every state reached from any stored row, two successive
  claims are kept apart, a completed row is not claimed, and
  a call with another fingerprint changes nothing.
-/
theorem claims_are_exclusive
    (name : KeyName)
    (stored : Option IdempotencyKey)
    (labels : List KeyLabel)
    (table : KeyTable)
    (hRun :
      Lts.exec (keyStep name) (KeyTable.start stored)
        labels = some table) :
    Exclusive table.log ∧
      CompletedUnclaimed name table ∧
      MismatchRejected name table := by
  have hSoFar := exclusiveSoFar_of_exec hRun
  exact ⟨hSoFar.exclusive,
    hSoFar.consistent.completedUnclaimed,
    hSoFar.consistent.mismatchRejected⟩

/- A second session takes a stale claim over. -/
def takeoverRun : List KeyLabel :=
  [.begin 0 "print" 30, .insert 0 { now := 0, key := 7 },
    .commit 0, .begin 1 "print" 30,
    .insert 1 { now := 30, key := 8 }, .read 1,
    .reclaim 1]

theorem claims_are_exclusive_takeover :
    ∃ table,
      Lts.exec (keyStep ⟨1, "key"⟩)
          (KeyTable.start none) takeoverRun = some table ∧
        table.log.countP KeyEvent.isClaim = 2 ∧
        Exclusive table.log ∧
        CompletedUnclaimed ⟨1, "key"⟩ table ∧
        MismatchRejected ⟨1, "key"⟩ table := by
  have hRun :
      (Lts.exec (keyStep ⟨1, "key"⟩)
        (KeyTable.start none) takeoverRun).map
          (fun table =>
            table.log.countP KeyEvent.isClaim) =
        some 2 := by
    decide +kernel
  rcases Option.map_eq_some_iff.mp hRun with
    ⟨table, hExec, hClaims⟩
  exact ⟨table, hExec, hClaims,
    claims_are_exclusive _ _ _ _ hExec⟩

end PayGuard

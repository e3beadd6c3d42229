import PayGuard.Idempotency.Finality

/-
  At most one fresh lease on a key.

  A claim is a lease: until it is `stale_after` old nobody
  else may claim the key.  The row carries no owner, so a
  request whose key has been taken over still finds the row
  `PENDING` when it fails, and marks its successor's claim as
  `FAILED`, which lets a third request in at once.  While no
  request does that, fresh leases exclude one another.

  Key definitions include:
    * `Timed`
    * `timedStep`
    * `Requests.AtWork`
    * `SparesSuccessor`
    * `LeaseTimes`

  Key theorems include:
    * `leaseTimes_step`
    * `one_fresh_lease`
    * `late_failure_releases_successor`
-/

------------------------------------------------------------
-- Requests In Time
------------------------------------------------------------

namespace PayGuard

/- The requests on one key and the current time. -/
structure Timed where
  requests : Requests
  clock : Timestamp

structure TimedLabel where
  time : Timestamp
  label : RequestLabel
deriving DecidableEq, Repr

/-
  All requests use the same `stale_after`, and a claim reads
  its clock before its insert goes through.
-/
def RequestLabel.onTime
    (staleAfter : Int)
    (time : Timestamp) :
    RequestLabel → Bool
| .begin _ _ after => after = staleAfter
| .insert _ draw => draw.now ≤ time
| _ => true

/- One statement of a request, at a time of its own. -/
def timedStep
    (name : KeyName)
    (staleAfter : Int)
    (timed : Timed)
    (label : TimedLabel) : Option Timed :=
  if timed.clock ≤ label.time &&
      label.label.onTime staleAfter label.time then
    match requestStep name timed.requests label.label with
    | none => none
    | some requests => some ⟨requests, label.time⟩
  else
    none

def Timed.start
    (committed : Option IdempotencyKey)
    (clock : Timestamp) : Timed :=
  ⟨Requests.start committed, clock⟩

------------------------------------------------------------
-- Leases
------------------------------------------------------------

/- The claim a session has, unless it was withdrawn. -/
def Session.claim : Session → Option ClaimCall
| .opened call _ => some call
| .held call _ => some call
| _ => none

/- A request with a claim it has not completed or failed. -/
structure Requests.AtWork
    (requests : Requests)
    (session : SessionId)
    (call : ClaimCall) : Prop where
  claim :
    (requests.table.sessions session).claim = some call
  unfinished : requests.stage session ≠ .finished

/- From now on, at most one request has a fresh claim. -/
def OneFresh
    (staleAfter : Int)
    (timed : Timed) : Prop :=
  ∀ time session call other otherCall,
    timed.clock ≤ time →
      timed.requests.AtWork session call →
        timed.requests.AtWork other otherCall →
          time - call.now < staleAfter →
            time - otherCall.now < staleAfter →
              session = other

/- A row marked `FAILED` was not somebody's at work. -/
def ReleasedByHolder (timed : Timed) : Prop :=
  ∀ row claimant,
    timed.requests.table.committed = some row →
      row.status = .failed →
        timed.requests.claimant = some claimant →
          timed.requests.stage claimant = .finished

/-
  No request fails the row while another one, whose claim
  the row carries, has not finished.
-/
def SparesSuccessor
    (timed : Timed)
    (label : TimedLabel) : Prop :=
  match label.label with
  | .failWrite session =>
      ∀ claimant ∈ timed.requests.claimant,
        claimant ≠ session →
          timed.requests.stage claimant = .finished
  | _ => True

instance
    (timed : Timed)
    (label : TimedLabel) :
    Decidable (SparesSuccessor timed label) := by
  unfold SparesSuccessor
  generalize label.label = statement
  rcases statement
  case failWrite session =>
    exact inferInstanceAs
      (Decidable (∀ claimant ∈ timed.requests.claimant, _))
  all_goals exact inferInstanceAs (Decidable True)

------------------------------------------------------------
-- Clock Readings
------------------------------------------------------------

/- A claim under way has the common threshold. -/
def Session.Timely
    (staleAfter : Int)
    (clock : Timestamp) :
    Session → Prop
| .calling _ after => after = staleAfter
| .reading call =>
    call.staleAfter = staleAfter ∧ call.now ≤ clock
| .reclaiming call _ _ _ =>
    call.staleAfter = staleAfter ∧ call.now ≤ clock
| _ => True

def TimelyClaims
    (staleAfter : Int)
    (clock : Timestamp)
    (table : KeyTable) : Prop :=
  ∀ session,
    (table.sessions session).Timely staleAfter clock

variable {name : KeyName}
variable {staleAfter : Int}
variable {clock time : Timestamp}
variable {table : KeyTable}
variable {requests next : Requests}
variable {session other : SessionId}
variable {call : ClaimCall}

theorem Session.Timely.mono
    {position : Session}
    (hTimely : position.Timely staleAfter clock)
    (hClock : clock ≤ time) :
    position.Timely staleAfter time := by
  cases position with
  | reading call =>
      exact ⟨hTimely.1, hTimely.2.trans hClock⟩
  | reclaiming call row expectedStatus expectedLockedAt =>
      exact ⟨hTimely.1, hTimely.2.trans hClock⟩
  | calling fingerprint after => exact hTimely
  | _ => trivial

/- A session that moves on in time keeps the claims timely. -/
theorem TimelyClaims.update
    {position : Session}
    (hTimely : TimelyClaims staleAfter clock table)
    (hPosition : position.Timely staleAfter clock) :
    ∀ other,
      (Function.update table.sessions session position
        other).Timely staleAfter clock := by
  intro other
  by_cases hOther : other = session
  · rw [hOther, Function.update_self]
    exact hPosition
  · rw [Function.update_of_ne hOther]
    exact hTimely other

theorem timelyClaims_insert
    {draw : Draw}
    {table' : KeyTable}
    (hTimely : TimelyClaims staleAfter clock table)
    (hNow : draw.now ≤ clock)
    (hStep : keyInsert name table session draw = some table') :
    TimelyClaims staleAfter clock table' := by
  have hSession := hTimely session
  unfold keyInsert at hStep
  split at hStep
  · rename_i hCall
    rw [hCall] at hSession
    split at hStep
    · cases hStep
      exact hTimely.update ⟨hSession, hNow⟩
    · split at hStep
      · cases hStep
        exact hTimely.update trivial
      · cases hStep
  · cases hStep

theorem timelyClaims_read
    {table' : KeyTable}
    (hTimely : TimelyClaims staleAfter clock table)
    (hStep : keyRead table session = some table') :
    TimelyClaims staleAfter clock table' := by
  have hSession := hTimely session
  unfold keyRead at hStep
  split at hStep
  · rename_i hCall
    rw [hCall] at hSession
    split at hStep
    · cases hStep
    · split at hStep
      · cases hStep
        exact hTimely.update trivial
      · cases hStep
        exact hTimely.update trivial
      · cases hStep
        exact hTimely.update trivial
      · cases hStep
        exact hTimely.update hSession
  · cases hStep

theorem timelyClaims_reclaim
    {table' : KeyTable}
    (hTimely : TimelyClaims staleAfter clock table)
    (hStep : keyReclaim table session = some table') :
    TimelyClaims staleAfter clock table' := by
  have hSession := hTimely session
  unfold keyReclaim at hStep
  split at hStep
  · rename_i hCall
    rw [hCall] at hSession
    split at hStep
    · split at hStep
      · cases hStep
      · split at hStep
        · cases hStep
          exact hTimely.update trivial
        · cases hStep
          exact hTimely.update hSession.1
    · cases hStep
  · cases hStep

theorem timelyClaims_write
    {keyRowId : Uuid}
    {change : IdempotencyKey → IdempotencyKey}
    {table' : KeyTable}
    (hTimely : TimelyClaims staleAfter clock table)
    (hStep :
      keyWrite table session keyRowId change =
        some table') :
    TimelyClaims staleAfter clock table' := by
  rcases (keyWrite_eq_some hStep).2.2 with
    rfl | ⟨row, _, rfl⟩
  · exact hTimely
  · exact hTimely

theorem timelyClaims_commit
    {table' : KeyTable}
    (hTimely : TimelyClaims staleAfter clock table)
    (hStep : keyCommit table session = some table') :
    TimelyClaims staleAfter clock table' := by
  have hSession := hTimely session
  unfold keyCommit at hStep
  split at hStep
  · cases hStep
    exact hTimely
  · split at hStep
    · cases hStep
      refine hTimely.update ?_
      cases hPosition : table.sessions session with
      | opened call keyRowId => trivial
      | _ =>
          rw [hPosition] at hSession
          exact hSession
    · cases hStep
      exact hTimely

theorem timelyClaims_rollback
    {table' : KeyTable}
    (hTimely : TimelyClaims staleAfter clock table)
    (hStep : keyRollback table session = some table') :
    TimelyClaims staleAfter clock table' := by
  unfold keyRollback at hStep
  split at hStep
  · split at hStep
    · cases hStep
      exact hTimely.update trivial
    · cases hStep
      exact hTimely
  · cases hStep
    exact hTimely

end PayGuard

------------------------------------------------------------
-- What A Request Does
------------------------------------------------------------

namespace PayGuard

/- The statements a claim consists of. -/
def RequestLabel.statement :
    RequestLabel → Option (SessionId × KeyLabel)
| .begin session fingerprint staleAfter =>
    some (session, .begin session fingerprint staleAfter)
| .insert session draw =>
    some (session, .insert session draw)
| .read session => some (session, .read session)
| .reclaim session => some (session, .reclaim session)
| _ => none

/- Everything one step of a request can do. -/
inductive RequestEffect
    (name : KeyName)
    (requests next : Requests) :
    RequestLabel → Prop where
| claim
    {label : RequestLabel}
    {session : SessionId}
    {statement : KeyLabel}
    {table : KeyTable}
    (hStatement : label.statement = some (session, statement))
    (hTable :
      keyStep name requests.table statement = some table)
    (hNext : next = requests.withTable table) :
    RequestEffect name requests next label
| commit
    {session : SessionId}
    {table : KeyTable}
    (hStage : requests.stage session ≠ .finished)
    (hTable : keyCommit requests.table session = some table)
    (hNext :
      next =
        { table := table
          stage :=
            Function.update requests.stage session
              (requests.stage session).commit
          claimant := claimantAfter requests session }) :
    RequestEffect name requests next (.commit session)
| complete
    {session : SessionId}
    {keyRowId : Uuid}
    {paymentIntentId : Option Uuid}
    {responseStatus : Nat}
    {responseBody : ResponseBody}
    {refundId : Option Uuid}
    {table : KeyTable}
    (hStage : requests.stage session = .working)
    (hTable :
      keyWrite requests.table session keyRowId (fun row =>
        row.completed paymentIntentId responseStatus
          responseBody refundId) = some table)
    (hNext :
      next =
        (requests.withTable table).withStage session
          .completing) :
    RequestEffect name requests next
      (.complete session paymentIntentId responseStatus
        responseBody refundId)
| failWrite
    {session : SessionId}
    {keyRowId : Uuid}
    {table : KeyTable}
    (hStage : requests.stage session = .failureSeen)
    (hTable :
      keyWrite requests.table session keyRowId
        IdempotencyKey.markedFailed = some table)
    (hNext :
      next =
        (requests.withTable table).withStage session
          .failed) :
    RequestEffect name requests next (.failWrite session)
| failRead
    {session : SessionId}
    {stage : Stage}
    (hStage : requests.stage session = .failing)
    (hNext : next = requests.withStage session stage) :
    RequestEffect name requests next (.failRead session)
| rollback
    {label : RequestLabel}
    {session : SessionId}
    {stage : Stage}
    {table : KeyTable}
    (hStage : requests.stage session ≠ .finished)
    (hTable :
      keyRollback requests.table session = some table)
    (hNext :
      next =
        (requests.withTable table).withStage session
          stage) :
    RequestEffect name requests next label

variable {name : KeyName}
variable {staleAfter : Int}
variable {clock time : Timestamp}
variable {requests next : Requests}
variable {label : RequestLabel}

theorem requestStep_effect
    (hStep : requestStep name requests label = some next) :
    RequestEffect name requests next label := by
  cases label with
  | begin session fingerprint after =>
      rcases requestClaim_eq_some hStep with
        ⟨_, table, hTable, hNext⟩
      exact .claim rfl hTable hNext
  | insert session draw =>
      rcases requestClaim_eq_some hStep with
        ⟨_, table, hTable, hNext⟩
      exact .claim rfl hTable hNext
  | read session =>
      rcases requestClaim_eq_some hStep with
        ⟨_, table, hTable, hNext⟩
      exact .claim rfl hTable hNext
  | reclaim session =>
      rcases requestClaim_eq_some hStep with
        ⟨_, table, hTable, hNext⟩
      exact .claim rfl hTable hNext
  | commit session =>
      simp only [requestStep, requestCommit] at hStep
      split at hStep
      · rename_i hStage
        rcases Option.map_eq_some_iff.mp hStep with
          ⟨table, hTable, rfl⟩
        refine .commit ?_ hTable rfl
        intro hFinished
        rw [hFinished] at hStage
        simp at hStage
      · cases hStep
  | complete session paymentIntentId responseStatus
      responseBody refundId =>
      simp only [requestStep, requestComplete] at hStep
      split at hStep
      · cases hStep
      · split at hStep
        · rename_i hGuard
          simp only [Bool.and_eq_true, decide_eq_true_iff]
            at hGuard
          rcases Option.map_eq_some_iff.mp hStep with
            ⟨table, hTable, rfl⟩
          exact .complete hGuard.1 hTable rfl
        · cases hStep
  | raise session =>
      simp only [requestStep, requestRaise] at hStep
      split at hStep
      · rename_i hGuard
        rcases Option.map_eq_some_iff.mp hStep with
          ⟨table, hTable, rfl⟩
        refine .rollback ?_ hTable rfl
        intro hFinished
        rw [hFinished] at hGuard
        simp at hGuard
      · cases hStep
  | failRead session =>
      simp only [requestStep, requestFailRead] at hStep
      split at hStep
      · rename_i hStage
        split at hStep
        · cases hStep
          exact .failRead hStage rfl
        · split at hStep
          · cases hStep
            exact .failRead hStage rfl
          · cases hStep
            exact .failRead hStage rfl
      · cases hStep
  | failWrite session =>
      simp only [requestStep, requestFailWrite] at hStep
      split at hStep
      · cases hStep
      · split at hStep
        · rename_i hStage
          rcases Option.map_eq_some_iff.mp hStep with
            ⟨table, hTable, rfl⟩
          exact .failWrite hStage hTable rfl
        · cases hStep
  | die session =>
      simp only [requestStep, requestDie] at hStep
      split at hStep
      · cases hStep
      · rename_i hStage
        rcases Option.map_eq_some_iff.mp hStep with
          ⟨table, hTable, rfl⟩
        exact .rollback hStage hTable rfl

/- The statements of a claim, by what they do. -/
theorem RequestLabel.claimEffect
    {session : SessionId}
    {statement : KeyLabel}
    {table table' : KeyTable}
    (hStatement :
      label.statement = some (session, statement))
    (hTable : keyStep name table statement = some table') :
    ClaimEffect name table session table' := by
  cases label with
  | begin session fingerprint after =>
      cases hStatement
      exact keyBegin_effect hTable
  | insert session draw =>
      cases hStatement
      exact keyInsert_effect hTable
  | read session =>
      cases hStatement
      exact keyRead_effect hTable
  | reclaim session =>
      cases hStatement
      exact keyReclaim_effect hTable
  | _ => cases hStatement

/- Every statement of a request keeps the claims timely. -/
theorem timelyClaims_step
    (hTimely :
      TimelyClaims staleAfter clock requests.table)
    (hOnTime : label.onTime staleAfter clock = true)
    (hEffect : RequestEffect name requests next label) :
    TimelyClaims staleAfter clock next.table := by
  cases hEffect with
  | claim hStatement hTable hNext =>
      rw [hNext]
      cases label with
      | begin session fingerprint after =>
          cases hStatement
          simp only [RequestLabel.onTime,
            decide_eq_true_iff] at hOnTime
          simp only [keyStep, keyBegin] at hTable
          split at hTable
          · split at hTable
            · cases hTable
            · cases hTable
              exact hTimely.update hOnTime
          · cases hTable
      | insert session draw =>
          cases hStatement
          exact timelyClaims_insert hTimely
            (of_decide_eq_true hOnTime) hTable
      | read session =>
          cases hStatement
          exact timelyClaims_read hTimely hTable
      | reclaim session =>
          cases hStatement
          exact timelyClaims_reclaim hTimely hTable
      | _ => cases hStatement
  | commit _ hTable hNext =>
      rw [hNext]
      exact timelyClaims_commit hTimely hTable
  | complete _ hTable hNext =>
      rw [hNext]
      exact timelyClaims_write hTimely hTable
  | failWrite _ hTable hNext =>
      rw [hNext]
      exact timelyClaims_write hTimely hTable
  | failRead _ hNext =>
      rw [hNext]
      exact hTimely
  | rollback _ hTable hNext =>
      rw [hNext]
      exact timelyClaims_rollback hTimely hTable

end PayGuard

------------------------------------------------------------
-- Lease Times
------------------------------------------------------------

namespace PayGuard

/-
  Whoever is at work without the latest claim has a stale
  one, and so has the claimant of a row that is being taken
  over.
-/
structure LeaseTimes
    (staleAfter : Int)
    (clock : Timestamp)
    (requests : Requests) : Prop where
  consistent : KeyConsistent requests.table
  owned :
    ∀ claimant,
      requests.claimant = some claimant →
        requests.table.committed ≠ none ∧
          ∃ call keyRowId,
            requests.table.sessions claimant =
              .held call keyRowId
  lost :
    ∀ session call,
      requests.AtWork session call →
        ¬ requests.Holds session →
          call.now + staleAfter ≤ clock
  contested :
    ∀ opener claimant call,
      (requests.table.sessions opener).isOpened = true →
        requests.claimant = some claimant →
          requests.AtWork claimant call →
            call.now + staleAfter ≤ clock
  carried :
    ∀ row claimant call,
      requests.table.committed = some row →
        row.status = .pending →
          requests.claimant = some claimant →
            requests.AtWork claimant call →
              row.lockedAt = some call.now
  released :
    ∀ row claimant,
      requests.table.committed = some row →
        row.status = .failed →
          requests.claimant = some claimant →
            requests.stage claimant = .finished
  claims :
    ∀ session row,
      requests.table.inFlight = some (session, row) →
        row.status = .pending →
          ∃ call keyRowId,
            requests.table.sessions session =
                .opened call keyRowId ∧
              row.lockedAt = some call.now
  fails :
    ∀ session row,
      requests.table.inFlight = some (session, row) →
        row.status = .failed →
          requests.stage session = .failed ∧
            ∀ claimant,
              requests.claimant = some claimant →
                claimant ≠ session →
                  requests.stage claimant = .finished

theorem leaseTimes_start
    (staleAfter : Int)
    (clock : Timestamp)
    (committed : Option IdempotencyKey) :
    LeaseTimes staleAfter clock
      (Requests.start committed) where
  consistent := keyConsistent_start committed
  owned := by
    intro claimant hClaimant
    cases hClaimant
  lost := by
    rintro session call ⟨hClaim, _⟩
    cases hClaim
  contested := by
    intro opener claimant call hOpened
    cases hOpened
  carried := by
    intro row claimant call _ _ hClaimant
    cases hClaimant
  released := by
    intro row claimant _ _ hClaimant
    cases hClaimant
  claims := by
    intro session row hInFlight
    cases hInFlight
  fails := by
    intro session row hInFlight
    cases hInFlight

variable {name : KeyName}
variable {staleAfter : Int}
variable {clock time : Timestamp}
variable {requests next : Requests}
variable {table : KeyTable}
variable {session other : SessionId}
variable {call : ClaimCall}
variable {row : IdempotencyKey}

/- As time goes by, stale claims stay stale. -/
theorem LeaseTimes.later
    (hTimes : LeaseTimes staleAfter clock requests)
    (hClock : clock ≤ time) :
    LeaseTimes staleAfter time requests :=
  { hTimes with
    lost := fun session call hWork hHolds =>
      (hTimes.lost session call hWork hHolds).trans hClock
    contested :=
      fun opener claimant call hOpened hClaimant hWork =>
        (hTimes.contested opener claimant call hOpened
          hClaimant hWork).trans hClock }

/- A claim that was stale before is not fresh. -/
theorem not_fresh
    {now : Timestamp}
    (hStale : now + staleAfter ≤ clock)
    (hClock : clock ≤ time) :
    ¬ time - now < staleAfter :=
  not_lt.mpr (le_sub_iff_add_le'.mpr (hStale.trans hClock))

/- Two fresh claims would both have to be the latest one. -/
theorem LeaseTimes.oneFresh
    (hTimes : LeaseTimes staleAfter clock requests) :
    OneFresh staleAfter ⟨requests, clock⟩ := by
  intro time first firstCall second secondCall hClock
    hFirst hSecond hFirstFresh hSecondFresh
  simp only at hClock
  have hLatest :
      ∀ session call,
        requests.AtWork session call →
          time - call.now < staleAfter →
            requests.Holds session := by
    intro session call hWork hFresh
    by_contra hHolds
    exact not_fresh (hTimes.lost session call hWork hHolds)
      hClock hFresh
  rcases hLatest first firstCall hFirst hFirstFresh with
    hFirstOpen | hFirstClaimant
  · rcases hLatest second secondCall hSecond hSecondFresh
      with hSecondOpen | hSecondClaimant
    · have hFirstWrites :=
        hTimes.consistent.writes_of_isOpened hFirstOpen
      have hSecondWrites :=
        hTimes.consistent.writes_of_isOpened hSecondOpen
      rcases writes_eq_true hFirstWrites with
        ⟨row, hInFlight⟩
      exact (writes_of_inFlight hInFlight).mp hSecondWrites
    · have hStale :=
        hTimes.contested first second secondCall hFirstOpen
          hSecondClaimant hSecond
      exact absurd hSecondFresh (not_fresh hStale hClock)
  · rcases hLatest second secondCall hSecond hSecondFresh
      with hSecondOpen | hSecondClaimant
    · have hStale :=
        hTimes.contested second first firstCall hSecondOpen
          hFirstClaimant hFirst
      exact absurd hFirstFresh (not_fresh hStale hClock)
    · rw [hFirstClaimant] at hSecondClaimant
      exact Option.some.inj hSecondClaimant

------------------------------------------------------------
-- Steps That Claim Nothing
------------------------------------------------------------

/-
  A step after which every request at work was at work
  before, with the same claim and the same standing.
-/
structure Shrinks (requests next : Requests) : Prop where
  committed :
    next.table.committed = requests.table.committed
  claimant : next.claimant = requests.claimant
  atWork :
    ∀ session call,
      next.AtWork session call →
        requests.AtWork session call ∧
          (requests.Holds session → next.Holds session)
  opened :
    ∀ session,
      (next.table.sessions session).isOpened = true →
        (requests.table.sessions session).isOpened = true
  held :
    ∀ session call keyRowId,
      requests.table.sessions session =
          .held call keyRowId →
        next.table.sessions session = .held call keyRowId
  finished :
    ∀ session,
      requests.stage session = .finished →
        next.stage session = .finished

theorem LeaseTimes.shrink
    (hTimes : LeaseTimes staleAfter clock requests)
    (hShrinks : Shrinks requests next)
    (hConsistent : KeyConsistent next.table)
    (hClaims :
      ∀ session row,
        next.table.inFlight = some (session, row) →
          row.status = .pending →
            ∃ call keyRowId,
              next.table.sessions session =
                  .opened call keyRowId ∧
                row.lockedAt = some call.now)
    (hFails :
      ∀ session row,
        next.table.inFlight = some (session, row) →
          row.status = .failed →
            next.stage session = .failed ∧
              ∀ claimant,
                requests.claimant = some claimant →
                  claimant ≠ session →
                    requests.stage claimant = .finished) :
    LeaseTimes staleAfter clock next where
  consistent := hConsistent
  owned := by
    intro claimant hClaimant
    rw [hShrinks.claimant] at hClaimant
    rcases hTimes.owned claimant hClaimant with
      ⟨hStored, call, keyRowId, hHeld⟩
    refine ⟨?_, call, keyRowId,
      hShrinks.held claimant call keyRowId hHeld⟩
    rw [hShrinks.committed]
    exact hStored
  lost := by
    intro session call hWork hHolds
    have hOld := hShrinks.atWork session call hWork
    exact hTimes.lost session call hOld.1
      (fun hHeld => hHolds (hOld.2 hHeld))
  contested := by
    intro opener claimant call hOpened hClaimant hWork
    rw [hShrinks.claimant] at hClaimant
    exact hTimes.contested opener claimant call
      (hShrinks.opened opener hOpened) hClaimant
      (hShrinks.atWork claimant call hWork).1
  carried := by
    intro row claimant call hStored hStatus hClaimant hWork
    rw [hShrinks.committed] at hStored
    rw [hShrinks.claimant] at hClaimant
    exact hTimes.carried row claimant call hStored hStatus
      hClaimant (hShrinks.atWork claimant call hWork).1
  released := by
    intro row claimant hStored hStatus hClaimant
    rw [hShrinks.committed] at hStored
    rw [hShrinks.claimant] at hClaimant
    exact hShrinks.finished claimant
      (hTimes.released row claimant hStored hStatus
        hClaimant)
  claims := hClaims
  fails := by
    intro session row hInFlight hStatus
    rcases hFails session row hInFlight hStatus with
      ⟨hStage, hOthers⟩
    refine ⟨hStage, ?_⟩
    intro claimant hClaimant hNe
    rw [hShrinks.claimant] at hClaimant
    exact hShrinks.finished claimant
      (hOthers claimant hClaimant hNe)

/- A session that has no claim yet moves on. -/
theorem Shrinks.become
    {position : Session}
    (hOld :
      (requests.table.sessions session).claim = none)
    (hNew : position.claim = none) :
    Shrinks requests
      (requests.withTable
        (requests.table.become session position)) where
  committed := rfl
  claimant := rfl
  atWork := by
    rintro other call ⟨hClaim, hUnfinished⟩
    by_cases hOther : other = session
    · subst hOther
      simp [Requests.withTable, KeyTable.become, hNew]
        at hClaim
    · refine ⟨⟨?_, hUnfinished⟩,
        (Requests.holds_become hOther).mpr⟩
      simpa [Requests.withTable, KeyTable.become,
        Function.update_of_ne hOther] using hClaim
  opened := by
    intro other hOpened
    by_cases hOther : other = session
    · subst hOther
      cases position <;>
        simp_all [Requests.withTable, KeyTable.become,
          Session.isOpened, Session.claim]
    · simpa [Requests.withTable, KeyTable.become,
        Function.update_of_ne hOther] using hOpened
  held := by
    intro other call keyRowId hHeld
    have hOther : other ≠ session := by
      intro hSame
      rw [hSame] at hHeld
      rw [hHeld] at hOld
      cases hOld
    simpa [Requests.withTable, KeyTable.become,
      Function.update_of_ne hOther] using hHeld
  finished := fun _ hFinished => hFinished

/- A write or a stage of an unfinished request. -/
theorem Shrinks.staged
    (stage : Stage)
    (hStage : requests.stage session ≠ .finished)
    (hCommitted :
      table.committed = requests.table.committed)
    (hSessions :
      table.sessions = requests.table.sessions) :
    Shrinks requests
      ((requests.withTable table).withStage session
        stage) where
  committed := hCommitted
  claimant := rfl
  atWork := by
    rintro other call ⟨hClaim, hUnfinished⟩
    simp only [Requests.withStage, Requests.withTable,
      hSessions] at hClaim
    refine ⟨⟨hClaim, ?_⟩, ?_⟩
    · by_cases hOther : other = session
      · rw [hOther]
        exact hStage
      · simpa [Requests.withStage, Requests.withTable,
          Function.update_of_ne hOther] using hUnfinished
    · simp [Requests.Holds, Requests.withStage,
        Requests.withTable, hSessions]
  opened := by
    intro other hOpened
    simpa [Requests.withStage, Requests.withTable,
      hSessions] using hOpened
  held := by
    intro other call keyRowId hHeld
    simpa [Requests.withStage, Requests.withTable,
      hSessions] using hHeld
  finished := by
    intro other hFinished
    have hOther : other ≠ session := by
      intro hSame
      rw [hSame] at hFinished
      exact hStage hFinished
    simpa [Requests.withStage, Requests.withTable,
      Function.update_of_ne hOther] using hFinished

/- A rollback takes an open claim back. -/
theorem Shrinks.withdrawn
    {keyRowId : Uuid}
    {log : List KeyEvent}
    (stage : Stage)
    (hStage : requests.stage session ≠ .finished)
    (hOpened :
      requests.table.sessions session =
        .opened call keyRowId) :
    Shrinks requests
      ((requests.withTable
          { requests.table with
            inFlight := none
            sessions :=
              Function.update requests.table.sessions session
                (.withdrawn keyRowId)
            log := log }).withStage session stage) where
  committed := rfl
  claimant := rfl
  atWork := by
    rintro other otherCall ⟨hClaim, hUnfinished⟩
    simp only [Requests.withStage, Requests.withTable]
      at hClaim hUnfinished
    by_cases hOther : other = session
    · rw [hOther, Function.update_self] at hClaim
      cases hClaim
    · rw [Function.update_of_ne hOther] at hClaim hUnfinished
      refine ⟨⟨hClaim, hUnfinished⟩, ?_⟩
      intro hHolds
      simpa [Requests.Holds, Requests.withStage,
        Requests.withTable, Function.update_of_ne hOther]
        using hHolds
  opened := by
    intro other hOther
    by_cases hSame : other = session
    · rw [hSame, hOpened]
      rfl
    · simpa [Requests.withStage, Requests.withTable,
        Function.update_of_ne hSame] using hOther
  held := by
    intro other otherCall otherRowId hHeld
    have hOther : other ≠ session := by
      intro hSame
      rw [hSame, hOpened] at hHeld
      cases hHeld
    simpa [Requests.withStage, Requests.withTable,
      Function.update_of_ne hOther] using hHeld
  finished := by
    intro other hFinished
    have hOther : other ≠ session := by
      intro hSame
      rw [hSame] at hFinished
      exact hStage hFinished
    simpa [Requests.withStage, Requests.withTable,
      Function.update_of_ne hOther] using hFinished

/- Another session's version is untouched by a new stage. -/
theorem LeaseTimes.fails_staged
    {stage : Stage}
    (hTimes : LeaseTimes staleAfter clock requests)
    (hStage : requests.stage session ≠ .failed)
    (hInFlight : requests.table.inFlight = some (other, row))
    (hStatus : row.status = .failed) :
    Function.update requests.stage session stage other =
        .failed ∧
      ∀ claimant,
        requests.claimant = some claimant →
          claimant ≠ other →
            requests.stage claimant = .finished := by
  rcases hTimes.fails other row hInFlight hStatus with
    ⟨hFailed, hOthers⟩
  have hOther : other ≠ session := by
    intro hSame
    rw [hSame] at hFailed
    exact hStage hFailed
  rw [Function.update_of_ne hOther]
  exact ⟨hFailed, hOthers⟩

/- Moving on inside a claim keeps the lease times. -/
theorem LeaseTimes.advance
    {position : Session}
    (hTimes : LeaseTimes staleAfter clock requests)
    (hAdvance : Advance requests.table session position) :
    LeaseTimes staleAfter clock
      (requests.withTable
        (requests.table.become session position)) := by
  have hWrites := hAdvance.not_writes hTimes.consistent
  have hOld :
      (requests.table.sessions session).claim = none := by
    cases hAdvance with
    | begin hCall _ => rw [hCall]; rfl
    | conflict now hCall _ => rw [hCall]; rfl
    | answer hCall _ _ => rw [hCall]; rfl
    | abandoned hCall _ _ => rw [hCall]; rfl
    | restart hCall => rw [hCall]; rfl
  have hNew : position.claim = none := by
    cases hAdvance <;> rfl
  refine hTimes.shrink (.become hOld hNew)
    (keyConsistent_advance hTimes.consistent hAdvance)
    ?_ hTimes.fails
  intro writer row hInFlight hStatus
  have hNe := ne_of_not_writes hInFlight hWrites
  simp only [Requests.withTable, KeyTable.become,
    Function.update_of_ne hNe]
  exact hTimes.claims writer row hInFlight hStatus

/- A new claim leaves no fresh one behind. -/
theorem LeaseTimes.claim
    (hTimes : LeaseTimes staleAfter clock requests)
    (hConsistent :
      KeyConsistent (requests.table.claim session call row))
    (hOld :
      (requests.table.sessions session).claim = none)
    (hStatus : row.status = .pending)
    (hLocked : row.lockedAt = some call.now)
    (hStale :
      ∀ claimant claimed,
        requests.claimant = some claimant →
          requests.AtWork claimant claimed →
            claimed.now + staleAfter ≤ clock) :
    LeaseTimes staleAfter clock
      (requests.withTable
        (requests.table.claim session call row)) := by
  have hSessions :
      ∀ other, other ≠ session →
        (requests.table.claim session call row).sessions
            other =
          requests.table.sessions other :=
    fun other hOther => Function.update_of_ne hOther _ _
  have hNotClaimant :
      ∀ claimant,
        requests.claimant = some claimant →
          claimant ≠ session := by
    intro claimant hClaimant hSame
    rcases hTimes.owned claimant hClaimant with
      ⟨_, held, keyRowId, hHeld⟩
    rw [hSame] at hHeld
    rw [hHeld] at hOld
    cases hOld
  have hWork :
      ∀ other otherCall, other ≠ session →
        (requests.withTable (requests.table.claim session
            call row)).AtWork other otherCall →
          requests.AtWork other otherCall := by
    rintro other otherCall hOther ⟨hClaim, hUnfinished⟩
    simp only [Requests.withTable, hSessions other hOther]
      at hClaim
    exact ⟨hClaim, hUnfinished⟩
  refine
    { consistent := hConsistent
      owned := ?_
      lost := ?_
      contested := ?_
      carried := ?_
      released := hTimes.released
      claims := ?_
      fails := ?_ }
  · intro claimant hClaimant
    rcases hTimes.owned claimant hClaimant with
      ⟨hStored, held, keyRowId, hHeld⟩
    refine ⟨hStored, held, keyRowId, ?_⟩
    exact (hSessions claimant
      (hNotClaimant claimant hClaimant)).trans hHeld
  · intro other otherCall hOtherWork hHolds
    by_cases hOther : other = session
    · refine absurd (.inl ?_) hHolds
      rw [hOther]
      simp [Requests.withTable, KeyTable.claim,
        Session.isOpened]
    · apply hTimes.lost other otherCall
        (hWork other otherCall hOther hOtherWork)
      intro hHeld
      apply hHolds
      simpa [Requests.Holds, Requests.withTable,
        hSessions other hOther] using hHeld
  · intro opener claimant claimed _ hClaimant hClaimantWork
    exact hStale claimant claimed hClaimant
      (hWork claimant claimed
        (hNotClaimant claimant hClaimant) hClaimantWork)
  · intro stored claimant claimed hStored hPending hClaimant
      hClaimantWork
    exact hTimes.carried stored claimant claimed hStored
      hPending hClaimant
      (hWork claimant claimed
        (hNotClaimant claimant hClaimant) hClaimantWork)
  · intro writer version hInFlight _
    cases hInFlight
    exact ⟨call, row.id, Function.update_self _ _ _, hLocked⟩
  · intro writer version hInFlight hFailed
    cases hInFlight
    rw [hStatus] at hFailed
    cases hFailed

/- A claimant at work that is taken over is stale. -/
theorem LeaseTimes.abandoned_stale
    {stored : IdempotencyKey}
    {claimed : ClaimCall}
    {expectedStatus : KeyStatus}
    {expectedLockedAt : Option Timestamp}
    (hTimes : LeaseTimes staleAfter clock requests)
    (hStored : requests.table.committed = some stored)
    (hEvaluation :
      evaluateExisting row call.fingerprint call.now
          call.staleAfter =
        .reclaim expectedStatus expectedLockedAt)
    (hMatches :
      reclaimMatches row expectedStatus expectedLockedAt
        stored = true)
    (hCall :
      call.staleAfter = staleAfter ∧ call.now ≤ clock)
    (hClaimant : requests.claimant = some session)
    (hWork : requests.AtWork session claimed) :
    claimed.now + staleAfter ≤ clock := by
  cases hStatus : stored.status with
  | completed =>
      exact absurd hStatus
        (reclaimMatches_ne_completed hEvaluation hMatches)
  | failed =>
      exact absurd
        (hTimes.released stored session hStored hStatus
          hClaimant)
        hWork.unfinished
  | pending =>
      have hLocked :=
        hTimes.carried stored session claimed hStored hStatus
          hClaimant hWork
      rcases reclaimMatches_cases hEvaluation hMatches
          hLocked with hFailed | ⟨_, hStale⟩
      · rw [hStatus] at hFailed
        cases hFailed
      · rw [hCall.1] at hStale
        exact (le_sub_iff_add_le'.mp hStale).trans hCall.2

/- Only a failed or a stale claim can be taken over. -/
theorem LeaseTimes.claimEffect
    (hTimes : LeaseTimes staleAfter clock requests)
    (hTimely :
      TimelyClaims staleAfter clock requests.table)
    (hClaim :
      ClaimEffect name requests.table session table) :
    LeaseTimes staleAfter clock
      (requests.withTable table) := by
  have hConsistent := hTimes.consistent
  have hNext := keyConsistent_claimEffect hConsistent hClaim
  cases hClaim with
  | advance hAdvance => exact hTimes.advance hAdvance
  | inserted draw hCall _ hNone =>
      have hFresh := hConsistent.not_writes_of_calling hCall
      rw [current_of_not_writes hFresh] at hNone
      refine hTimes.claim hNext (by rw [hCall]; rfl) rfl rfl
        ?_
      intro claimant claimed hClaimant _
      exact absurd hNone (hTimes.owned claimant hClaimant).1
  | reclaimed hCall _ hCurrent hMatches =>
      have hFresh :=
        hConsistent.not_writes_of_reclaiming hCall
      rw [current_of_not_writes hFresh] at hCurrent
      have hSession := hTimely session
      rw [hCall] at hSession
      refine hTimes.claim hNext (by rw [hCall]; rfl) rfl rfl
        ?_
      intro claimant claimed hClaimant hWork
      have hEvaluation :=
        (hConsistent.abandoned _ _ _ _ _ hCall).1
      exact hTimes.abandoned_stale hCurrent hEvaluation
        hMatches hSession hClaimant hWork

------------------------------------------------------------
-- Steps After A Claim
------------------------------------------------------------

/- A final write, whoever makes it. -/
theorem LeaseTimes.write
    {stage : Stage}
    {keyRowId : Uuid}
    {change : IdempotencyKey → IdempotencyKey}
    (hTimes : LeaseTimes staleAfter clock requests)
    (hUnfinished : requests.stage session ≠ .finished)
    (hUnfailed : requests.stage session ≠ .failed)
    (hPending : ∀ row, (change row).status ≠ .pending)
    (hFailed :
      ∀ row,
        (change row).status = .failed →
          stage = .failed ∧
            ∀ claimant,
              requests.claimant = some claimant →
                claimant ≠ session →
                  requests.stage claimant = .finished)
    (hConsistent : KeyConsistent table)
    (hWrite :
      keyWrite requests.table session keyRowId change =
        some table) :
    LeaseTimes staleAfter clock
      ((requests.withTable table).withStage session
        stage) := by
  rcases (keyWrite_eq_some hWrite).2.2 with
    rfl | ⟨written, _, rfl⟩
  · exact hTimes.shrink (.staged stage hUnfinished rfl rfl)
      hConsistent hTimes.claims
      (fun _ _ => hTimes.fails_staged hUnfailed)
  · refine hTimes.shrink
      (.staged stage hUnfinished rfl rfl) hConsistent ?_ ?_
    · intro writer version hInFlight hStatus
      cases hInFlight
      exact absurd hStatus (hPending written)
    · intro writer version hInFlight hStatus
      cases hInFlight
      rcases hFailed written hStatus with ⟨hStage, hOthers⟩
      refine ⟨?_, hOthers⟩
      rw [hStage]
      exact Function.update_self _ _ _

/- A rollback never hands a lease to anybody. -/
theorem LeaseTimes.rollback
    {stage : Stage}
    (hTimes : LeaseTimes staleAfter clock requests)
    (hUnfinished : requests.stage session ≠ .finished)
    (hConsistent : KeyConsistent table)
    (hStep :
      keyRollback requests.table session = some table) :
    LeaseTimes staleAfter clock
      ((requests.withTable table).withStage session
        stage) := by
  unfold keyRollback at hStep
  split at hStep
  · split at hStep
    · rename_i hOpened
      cases hStep
      refine hTimes.shrink
        (.withdrawn stage hUnfinished hOpened) hConsistent
        ?_ ?_ <;>
      · intro writer version hInFlight
        cases hInFlight
    · cases hStep
      refine hTimes.shrink
        (.staged stage hUnfinished rfl rfl) hConsistent
        ?_ ?_ <;>
      · intro writer version hInFlight
        cases hInFlight
  · rename_i hWrites
    have hFree : requests.table.writes session = false := by
      simpa using hWrites
    cases hStep
    refine hTimes.shrink
      (.staged stage hUnfinished rfl rfl) hConsistent
      hTimes.claims ?_
    intro writer version hInFlight hStatus
    have hNe : writer ≠ session :=
      ne_of_not_writes hInFlight hFree
    rcases hTimes.fails writer version hInFlight hStatus with
      ⟨hFailed, hOthers⟩
    refine ⟨?_, hOthers⟩
    exact (Function.update_of_ne hNe _ _).trans hFailed

theorem Session.commit_claim
    (position : Session) :
    position.commit.claim = position.claim := by
  cases position <;> rfl

theorem Session.commit_isOpened
    (position : Session) :
    position.commit.isOpened = false := by
  cases position <;> rfl

theorem claimantAfter_of_opened
    (hOpened :
      (requests.table.sessions session).isOpened = true) :
    claimantAfter requests session = some session := by
  unfold claimantAfter
  rw [if_pos hOpened]

theorem claimantAfter_of_not_opened
    (hOpened :
      ¬ (requests.table.sessions session).isOpened =
        true) :
    claimantAfter requests session = requests.claimant := by
  unfold claimantAfter
  rw [if_neg hOpened]

/- The requests after a commit of what is in flight. -/
def Requests.publish
    (requests : Requests)
    (session : SessionId)
    (row : IdempotencyKey) : Requests where
  table :=
    { committed := some row
      inFlight := none
      sessions :=
        Function.update requests.table.sessions session
          (requests.table.sessions session).commit
      log := requests.table.log ++ [.committed session row] }
  stage :=
    Function.update requests.stage session
      (requests.stage session).commit
  claimant := claimantAfter requests session

theorem Requests.AtWork.of_publish
    (hWork :
      (requests.publish session row).AtWork other call) :
    requests.AtWork other call := by
  rcases hWork with ⟨hClaim, hUnfinished⟩
  simp only [Requests.publish] at hClaim hUnfinished
  by_cases hOther : other = session
  · subst hOther
    rw [Function.update_self, Session.commit_claim] at hClaim
    rw [Function.update_self] at hUnfinished
    refine ⟨hClaim, ?_⟩
    intro hFinished
    rw [hFinished] at hUnfinished
    exact hUnfinished rfl
  · rw [Function.update_of_ne hOther] at hClaim hUnfinished
    exact ⟨hClaim, hUnfinished⟩

/- Only the writer in flight has a claim open. -/
theorem LeaseTimes.only_opener
    (hTimes : LeaseTimes staleAfter clock requests)
    (hInFlight :
      requests.table.inFlight = some (session, row))
    (opener : SessionId)
    (hOpened :
      (requests.table.sessions opener).isOpened = true) :
    session = opener :=
  (writes_of_inFlight hInFlight).mp
    (hTimes.consistent.writes_of_isOpened hOpened)

/- Whoever the committed row belongs to holds its claim. -/
theorem LeaseTimes.owned_publish
    {claimant : SessionId}
    (hTimes : LeaseTimes staleAfter clock requests)
    (hClaimant :
      (requests.publish session row).claimant =
        some claimant) :
    ∃ call keyRowId,
      (requests.publish session row).table.sessions
        claimant = .held call keyRowId := by
  simp only [Requests.publish] at hClaimant ⊢
  by_cases hOpened :
      (requests.table.sessions session).isOpened = true
  · rw [claimantAfter_of_opened hOpened,
      Option.some.injEq] at hClaimant
    subst hClaimant
    rw [Function.update_self]
    cases hSession : requests.table.sessions session with
    | opened call keyRowId => exact ⟨call, keyRowId, rfl⟩
    | _ =>
        rw [hSession] at hOpened
        cases hOpened
  · rw [claimantAfter_of_not_opened hOpened] at hClaimant
    rcases hTimes.owned claimant hClaimant with
      ⟨_, call, keyRowId, hHeld⟩
    refine ⟨call, keyRowId, ?_⟩
    by_cases hSame : claimant = session
    · subst hSame
      rw [Function.update_self, hHeld]
      rfl
    · rw [Function.update_of_ne hSame]
      exact hHeld

/- Whoever loses the row to a commit has outlived it. -/
theorem LeaseTimes.lost_publish
    (hTimes : LeaseTimes staleAfter clock requests)
    (hInFlight :
      requests.table.inFlight = some (session, row))
    (hWork :
      (requests.publish session row).AtWork other call)
    (hHolds : ¬ (requests.publish session row).Holds other) :
    call.now + staleAfter ≤ clock := by
  by_cases hHeld : requests.Holds other
  · rcases hHeld with hOpened | hClaimant
    · -- an open claim that commits is the latest one
      have hSame :=
        hTimes.only_opener hInFlight other hOpened
      subst hSame
      exact absurd
        (.inr (claimantAfter_of_opened hOpened)) hHolds
    · by_cases hOpened :
          (requests.table.sessions session).isOpened = true
      · exact hTimes.contested session other call hOpened
          hClaimant hWork.of_publish
      · refine absurd (.inr ?_) hHolds
        exact (claimantAfter_of_not_opened hOpened).trans
          hClaimant
  · exact hTimes.lost other call hWork.of_publish hHeld

/- A committed claim carries the time of its claimant. -/
theorem LeaseTimes.carried_publish
    {claimant : SessionId}
    (hTimes : LeaseTimes staleAfter clock requests)
    (hInFlight :
      requests.table.inFlight = some (session, row))
    (hPending : row.status = .pending)
    (hClaimant :
      (requests.publish session row).claimant =
        some claimant)
    (hWork :
      (requests.publish session row).AtWork claimant
        call) :
    row.lockedAt = some call.now := by
  rcases hTimes.claims session row hInFlight hPending with
    ⟨claimed, keyRowId, hSession, hLocked⟩
  have hOpened :
      (requests.table.sessions session).isOpened = true := by
    rw [hSession]
    rfl
  have hSame : session = claimant :=
    Option.some.inj
      ((claimantAfter_of_opened hOpened).symm.trans
        hClaimant)
  have hClaim := hWork.of_publish.claim
  rw [← hSame, hSession] at hClaim
  cases hClaim
  exact hLocked

/- A committed failure has a claimant that has finished. -/
theorem LeaseTimes.released_publish
    {claimant : SessionId}
    (hTimes : LeaseTimes staleAfter clock requests)
    (hInFlight :
      requests.table.inFlight = some (session, row))
    (hFailed : row.status = .failed)
    (hClaimant :
      (requests.publish session row).claimant =
        some claimant) :
    (requests.publish session row).stage claimant =
      .finished := by
  rcases hTimes.fails session row hInFlight hFailed with
    ⟨hStage, hOthers⟩
  by_cases hSame : claimant = session
  · subst hSame
    simp [Requests.publish, hStage, Stage.commit]
  · have hNotOpened :
        ¬ (requests.table.sessions session).isOpened =
          true := by
      intro hOpened
      exact hSame (Option.some.inj
        ((claimantAfter_of_opened hOpened).symm.trans
          hClaimant)).symm
    have hOld :=
      (claimantAfter_of_not_opened hNotOpened).symm.trans
        hClaimant
    simp only [Requests.publish]
    rw [Function.update_of_ne hSame]
    exact hOthers claimant hOld hSame

/- A commit publishes the version in flight. -/
theorem LeaseTimes.publish
    (hTimes : LeaseTimes staleAfter clock requests)
    (hInFlight :
      requests.table.inFlight = some (session, row))
    (hConsistent :
      KeyConsistent (requests.publish session row).table) :
    LeaseTimes staleAfter clock
      (requests.publish session row) where
  consistent := hConsistent
  owned := by
    intro claimant hClaimant
    exact ⟨by simp [Requests.publish],
      hTimes.owned_publish hClaimant⟩
  lost := by
    intro other call hWork hHolds
    exact hTimes.lost_publish hInFlight hWork hHolds
  contested := by
    intro opener claimant call hOpened
    simp only [Requests.publish] at hOpened
    by_cases hSame : opener = session
    · rw [hSame, Function.update_self,
        Session.commit_isOpened] at hOpened
      cases hOpened
    · rw [Function.update_of_ne hSame] at hOpened
      exact absurd
        (hTimes.only_opener hInFlight opener hOpened).symm
        hSame
  carried := by
    intro stored claimant call hStored hPending hClaimant
      hWork
    cases hStored
    exact hTimes.carried_publish hInFlight hPending
      hClaimant hWork
  released := by
    intro stored claimant hStored hFailed hClaimant
    cases hStored
    exact hTimes.released_publish hInFlight hFailed
      hClaimant
  claims := by
    intro writer version hVersion
    cases hVersion
  fails := by
    intro writer version hVersion
    cases hVersion

theorem LeaseTimes.commit
    (hTimes : LeaseTimes staleAfter clock requests)
    (hUnfinished : requests.stage session ≠ .finished)
    (hConsistent : KeyConsistent table)
    (hStep :
      keyCommit requests.table session = some table) :
    LeaseTimes staleAfter clock
      { table := table
        stage :=
          Function.update requests.stage session
            (requests.stage session).commit
        claimant := claimantAfter requests session } := by
  by_cases hWrites : requests.table.writes session = true
  · rcases writes_eq_true hWrites with ⟨row, hInFlight⟩
    simp only [keyCommit, hInFlight, if_true,
      Option.some.injEq] at hStep
    subst hStep
    exact hTimes.publish hInFlight hConsistent
  · rw [Bool.not_eq_true] at hWrites
    have hTable : table = requests.table := by
      rcases keyCommit_eq_some hStep with
        ⟨_, hSame⟩ | ⟨row, hInFlight, _⟩
      · exact hSame
      · rw [(writes_of_inFlight hInFlight).mpr rfl]
          at hWrites
        cases hWrites
    have hNotOpened :
        ¬ (requests.table.sessions session).isOpened =
          true := by
      intro hOpened
      rw [hTimes.consistent.writes_of_isOpened hOpened]
        at hWrites
      cases hWrites
    rw [claimantAfter_of_not_opened hNotOpened, hTable]
    refine hTimes.shrink
      (.staged _ hUnfinished rfl rfl) hTimes.consistent
      hTimes.claims ?_
    intro writer version hInFlight hStatus
    have hNe : writer ≠ session :=
      ne_of_not_writes hInFlight hWrites
    rcases hTimes.fails writer version hInFlight hStatus with
      ⟨hFailed, hOthers⟩
    refine ⟨?_, hOthers⟩
    exact (Function.update_of_ne hNe _ _).trans hFailed

/- Every step that spares its successor. -/
theorem leaseTimes_effect
    {label : RequestLabel}
    (hTimes : LeaseTimes staleAfter clock requests)
    (hTimely :
      TimelyClaims staleAfter clock requests.table)
    (hSpares :
      ∀ session,
        label = .failWrite session →
          ∀ claimant,
            requests.claimant = some claimant →
              claimant ≠ session →
                requests.stage claimant = .finished)
    (hEffect : RequestEffect name requests next label) :
    LeaseTimes staleAfter clock next := by
  cases hEffect with
  | claim hStatement hTable hNext =>
      rw [hNext]
      exact hTimes.claimEffect hTimely
        (RequestLabel.claimEffect hStatement hTable)
  | commit hStage hTable hNext =>
      have hEffect : KeyEffect name requests.table _ :=
        keyCommit_effect hTable
      rw [hNext]
      exact hTimes.commit hStage
        (keyConsistent_effect hTimes.consistent hEffect)
        hTable
  | complete hStage hTable hNext =>
      have hEffect : KeyEffect name requests.table _ :=
        keyWrite_effect
          (fun row => .inl ⟨_, _, _, _, rfl⟩) hTable
      rw [hNext]
      refine hTimes.write (by simp [hStage])
        (by simp [hStage]) ?_ ?_
        (keyConsistent_effect hTimes.consistent hEffect)
        hTable
      · intro row
        simp [IdempotencyKey.completed]
      · intro row hFailed
        simp [IdempotencyKey.completed] at hFailed
  | @failWrite session keyRowId table hStage hTable hNext =>
      have hEffect : KeyEffect name requests.table _ :=
        keyWrite_effect (fun row => .inr rfl) hTable
      rw [hNext]
      refine hTimes.write (by simp [hStage])
        (by simp [hStage]) ?_ ?_
        (keyConsistent_effect hTimes.consistent hEffect)
        hTable
      · intro row
        simp [IdempotencyKey.markedFailed]
      · intro row _
        exact ⟨rfl, hSpares session rfl⟩
  | failRead hStage hNext =>
      rw [hNext]
      exact hTimes.shrink
        (.staged _ (by simp [hStage]) rfl rfl)
        hTimes.consistent hTimes.claims
        (fun _ _ => hTimes.fails_staged (by simp [hStage]))
  | rollback hStage hTable hNext =>
      have hEffect : KeyEffect name requests.table _ :=
        keyRollback_effect hTable
      rw [hNext]
      exact hTimes.rollback hStage
        (keyConsistent_effect hTimes.consistent hEffect)
        hTable

------------------------------------------------------------
-- Every Run
------------------------------------------------------------

/- What every step of the requests keeps true in time. -/
structure TimedLease
    (staleAfter : Int)
    (timed : Timed) : Prop where
  timely :
    TimelyClaims staleAfter timed.clock timed.requests.table
  times : LeaseTimes staleAfter timed.clock timed.requests

theorem timedLease_start
    (staleAfter : Int)
    (committed : Option IdempotencyKey)
    (clock : Timestamp) :
    TimedLease staleAfter (Timed.start committed clock) where
  timely := fun _ => trivial
  times := leaseTimes_start staleAfter clock committed

theorem timedStep_eq_some
    {timed next : Timed}
    {label : TimedLabel}
    (hStep : timedStep name staleAfter timed label = some next) :
    timed.clock ≤ label.time ∧
      label.label.onTime staleAfter label.time = true ∧
      next.clock = label.time ∧
      requestStep name timed.requests label.label =
        some next.requests := by
  unfold timedStep at hStep
  split at hStep
  · rename_i hGuard
    rw [Bool.and_eq_true, decide_eq_true_iff] at hGuard
    split at hStep
    · cases hStep
    · rename_i requests hRequests
      cases hStep
      exact ⟨hGuard.1, hGuard.2, rfl, hRequests⟩
  · cases hStep

theorem timedLease_step
    {timed next : Timed}
    {label : TimedLabel}
    (hLease : TimedLease staleAfter timed)
    (hSpares : SparesSuccessor timed label)
    (hStep : timedStep name staleAfter timed label = some next) :
    TimedLease staleAfter next := by
  rcases timedStep_eq_some hStep with
    ⟨hClock, hOnTime, hNext, hRequests⟩
  have hEffect := requestStep_effect hRequests
  have hTimely :
      TimelyClaims staleAfter label.time
        timed.requests.table :=
    fun session => (hLease.timely session).mono hClock
  constructor
  · rw [hNext]
    exact timelyClaims_step hTimely hOnTime hEffect
  · rw [hNext]
    refine leaseTimes_effect (hLease.times.later hClock)
      hTimely ?_ hEffect
    intro session hLabel claimant hClaimant
    simp only [SparesSuccessor, hLabel] at hSpares
    exact hSpares claimant hClaimant

/-
  In every run in which no request fails the row while its
  successor has not finished, fresh claims exclude one
  another at every instant, and a released row belongs to
  nobody who is still at work.
-/
theorem one_fresh_lease
    (name : KeyName)
    (staleAfter : Int)
    (committed : Option IdempotencyKey)
    (clock : Timestamp)
    (labels : List TimedLabel)
    (timed : Timed)
    (hSpares :
      Lts.Meets (timedStep name staleAfter) SparesSuccessor
        (Timed.start committed clock) labels)
    (hRun :
      Lts.exec (timedStep name staleAfter)
        (Timed.start committed clock) labels = some timed) :
    OneFresh staleAfter timed ∧ ReleasedByHolder timed := by
  have hLease :=
    Lts.invariant_of_meets
      (fun _ _ _ hLease hSpares hStep =>
        timedLease_step hLease hSpares hStep)
      (timedLease_start staleAfter committed clock) hSpares
      hRun
  exact ⟨hLease.times.oneFresh, hLease.times.released⟩

/- One minute, in microseconds. -/
def oneMinute : Int := 60000000

/- A claim that goes through, statement by statement. -/
def insertAt
    (session : SessionId)
    (time : Timestamp) : List TimedLabel :=
  [⟨time, .begin session "print" oneMinute⟩,
    ⟨time, .insert session { now := time, key := session }⟩]

def reclaimAt
    (session : SessionId)
    (time : Timestamp) : List TimedLabel :=
  insertAt session time ++
    [⟨time, .read session⟩,
      ⟨time, .reclaim session⟩,
      ⟨time, .commit session⟩]

/- Request 2 takes the key over from request 1. -/
def takenOverRun : List TimedLabel :=
  insertAt 1 0 ++
    ⟨0, .commit 1⟩ :: reclaimAt 2 oneMinute

theorem one_fresh_lease_taken_over :
    ∃ timed,
      Lts.exec (timedStep ⟨1, "key"⟩ oneMinute)
          (Timed.start none 0) takenOverRun = some timed ∧
        timed.requests.AtWork 1 ⟨"print", oneMinute, 0⟩ ∧
        timed.requests.AtWork 2
          ⟨"print", oneMinute, oneMinute⟩ ∧
        OneFresh oneMinute timed ∧
        ReleasedByHolder timed := by
  have hRun :
      (Lts.exec (timedStep ⟨1, "key"⟩ oneMinute)
        (Timed.start none 0) takenOverRun).map (fun timed =>
          ((timed.requests.table.sessions 1).claim,
            (timed.requests.table.sessions 2).claim,
            timed.requests.stage 1,
            timed.requests.stage 2)) =
        some (some ⟨"print", oneMinute, 0⟩,
          some ⟨"print", oneMinute, oneMinute⟩, .working,
          .working) := by
    decide +kernel
  have hSpares :
      Lts.Meets (timedStep ⟨1, "key"⟩ oneMinute)
        SparesSuccessor (Timed.start none 0)
        takenOverRun := by
    decide +kernel
  rcases Option.map_eq_some_iff.mp hRun with
    ⟨timed, hExec, hPositions⟩
  simp only [Prod.mk.injEq] at hPositions
  rcases hPositions with ⟨hFirst, hSecond, hStage, hStage'⟩
  have hLease := one_fresh_lease _ _ _ _ _ _ hSpares hExec
  exact ⟨timed, hExec, ⟨hFirst, by simp [hStage]⟩,
    ⟨hSecond, by simp [hStage']⟩, hLease.1, hLease.2⟩

/-
  Request 1 fails after request 2 has taken its key over,
  and request 3 claims the key a moment later.
-/
def lateFailureRun : List TimedLabel :=
  takenOverRun ++
    [⟨oneMinute + 1, .raise 1⟩,
      ⟨oneMinute + 1, .failRead 1⟩,
      ⟨oneMinute + 1, .failWrite 1⟩,
      ⟨oneMinute + 1, .commit 1⟩] ++
    reclaimAt 3 (oneMinute + 2)

theorem late_failure_releases_successor :
    ∃ timed,
      Lts.exec (timedStep ⟨1, "key"⟩ oneMinute)
          (Timed.start none 0) lateFailureRun =
            some timed ∧
        ¬ OneFresh oneMinute timed := by
  have hRun :
      (Lts.exec (timedStep ⟨1, "key"⟩ oneMinute)
        (Timed.start none 0) lateFailureRun).map
          (fun timed =>
            ((timed.requests.table.sessions 2).claim,
              (timed.requests.table.sessions 3).claim,
              timed.requests.stage 2,
              timed.requests.stage 3, timed.clock)) =
        some (some ⟨"print", oneMinute, oneMinute⟩,
          some ⟨"print", oneMinute, oneMinute + 2⟩,
          .working, .working, oneMinute + 2) := by
    decide +kernel
  rcases Option.map_eq_some_iff.mp hRun with
    ⟨timed, hExec, hPositions⟩
  simp only [Prod.mk.injEq] at hPositions
  rcases hPositions with
    ⟨hSecond, hThird, hStage, hStage', hClock⟩
  refine ⟨timed, hExec, ?_⟩
  intro hOne
  have hSame :=
    hOne (oneMinute + 2) 2 _ 3 _ (by rw [hClock])
      ⟨hSecond, by simp [hStage]⟩
      ⟨hThird, by simp [hStage']⟩ (by decide) (by decide)
  cases hSame

end PayGuard

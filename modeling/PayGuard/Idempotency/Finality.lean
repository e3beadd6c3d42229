import PayGuard.Idempotency.Exclusive

/-
  A completed key is final as long as leases are kept.

  A request claims the key, works, and completes it, or it
  catches an exception, rolls back, reads the row anew and
  fails it if it is still pending.  Both final writes go by
  the row's identifier alone, so a request whose key was
  taken over meanwhile overwrites what its successor wrote.

  Key definitions include:
    * `Stage`
    * `Requests`
    * `requestStep`
    * `LeaseKept`
    * `LeaseInvariant`

  Key theorems include:
    * `completed_key_is_final`
    * `lost_lease_overwrites_response`
-/

------------------------------------------------------------
-- Requests
------------------------------------------------------------

namespace PayGuard

/- Where a request stands after its claim. -/
inductive Stage where
| working
-- the completion is written but not committed
| completing
-- `_fail_claim_and_raise`, after its rollback
| failing
-- and after it has read the row as `PENDING`
| failureSeen
-- the failure is written but not committed
| failed
| finished
deriving DecidableEq, Repr

/- The key row a session has claimed, whatever came of it. -/
def Session.keyRowId : Session → Option Uuid
| .opened _ keyRowId => some keyRowId
| .held _ keyRowId => some keyRowId
| .withdrawn keyRowId => some keyRowId
| _ => none

def Session.isOpened : Session → Bool
| .opened _ _ => true
| _ => false

/- A claim that has not been withdrawn. -/
def Session.isClaimed : Session → Bool
| .opened _ _ => true
| .held _ _ => true
| _ => false

/-
  The requests on one key.  `claimant` is the session whose
  claim the committed row carries.
-/
structure Requests where
  table : KeyTable
  stage : SessionId → Stage := fun _ => .working
  claimant : Option SessionId := none

def Requests.start
    (committed : Option IdempotencyKey) : Requests :=
  { table := KeyTable.start committed }

inductive RequestLabel where
| begin
    (session : SessionId)
    (fingerprint : String)
    (staleAfter : Int)
| insert (session : SessionId) (draw : Draw)
| read (session : SessionId)
| reclaim (session : SessionId)
| commit (session : SessionId)
| complete
    (session : SessionId)
    (paymentIntentId : Option Uuid)
    (responseStatus : Nat)
    (responseBody : ResponseBody)
    (refundId : Option Uuid)
| raise (session : SessionId)
| failRead (session : SessionId)
| failWrite (session : SessionId)
| die (session : SessionId)
deriving DecidableEq, Repr

namespace Requests

def withTable
    (requests : Requests)
    (table : KeyTable) : Requests :=
  { requests with table := table }

def withStage
    (requests : Requests)
    (session : SessionId)
    (stage : Stage) : Requests :=
  { requests with
    stage := Function.update requests.stage session stage }

end Requests

/- A statement of the claim itself. -/
def requestClaim
    (name : KeyName)
    (requests : Requests)
    (session : SessionId)
    (label : KeyLabel) : Option Requests :=
  if requests.stage session = .working then
    (keyStep name requests.table label).map
      requests.withTable
  else
    none

/- `complete_idempotency_key`, by the claimed row's id. -/
def requestComplete
    (name : KeyName)
    (requests : Requests)
    (session : SessionId)
    (paymentIntentId : Option Uuid)
    (responseStatus : Nat)
    (responseBody : ResponseBody)
    (refundId : Option Uuid) : Option Requests :=
  match (requests.table.sessions session).keyRowId with
  | none => none
  | some keyRowId =>
      if requests.stage session = .working &&
          (requests.table.sessions session).isClaimed then
        (keyStep name requests.table
          (.complete session keyRowId paymentIntentId
            responseStatus responseBody refundId)).map
          (fun table =>
            (requests.withTable table).withStage session
              .completing)
      else
        none

/- A commit; the one after a final write ends the request. -/
def Stage.commit : Stage → Stage
| .completing => .finished
| .failed => .finished
| stage => stage

/- The claimant after a commit of this session. -/
def claimantAfter
    (requests : Requests)
    (session : SessionId) : Option SessionId :=
  if (requests.table.sessions session).isOpened then
    some session
  else
    requests.claimant

def requestCommit
    (name : KeyName)
    (requests : Requests)
    (session : SessionId) : Option Requests :=
  if requests.stage session = .working ∨
      requests.stage session = .completing ∨
      requests.stage session = .failed then
    (keyStep name requests.table (.commit session)).map
      (fun table =>
        { table := table
          stage :=
            Function.update requests.stage session
              (requests.stage session).commit
          claimant := claimantAfter requests session })
  else
    none

/- The exception handler rolls back first. -/
def requestRaise
    (name : KeyName)
    (requests : Requests)
    (session : SessionId) : Option Requests :=
  if (requests.stage session = .working ∨
        requests.stage session = .completing) ∧
      (requests.table.sessions session).isClaimed then
    (keyStep name requests.table (.rollback session)).map
      (fun table =>
        (requests.withTable table).withStage session
          .failing)
  else
    none

/- `session.get` in a new transaction. -/
def requestFailRead
    (requests : Requests)
    (session : SessionId) : Option Requests :=
  if requests.stage session = .failing then
    match requests.table.committed with
    | none => some (requests.withStage session .finished)
    | some row =>
        if (requests.table.sessions session).keyRowId =
              some row.id ∧
            row.status = .pending then
          some (requests.withStage session .failureSeen)
        else
          some (requests.withStage session .finished)
  else
    none

def requestFailWrite
    (name : KeyName)
    (requests : Requests)
    (session : SessionId) : Option Requests :=
  match (requests.table.sessions session).keyRowId with
  | none => none
  | some keyRowId =>
      if requests.stage session = .failureSeen then
        (keyStep name requests.table
          (.fail session keyRowId)).map
          (fun table =>
            (requests.withTable table).withStage session
              .failed)
      else
        none

def requestDie
    (name : KeyName)
    (requests : Requests)
    (session : SessionId) : Option Requests :=
  if requests.stage session = .finished then
    none
  else
    (keyStep name requests.table (.rollback session)).map
      (fun table =>
        (requests.withTable table).withStage session
          .finished)

def requestStep
    (name : KeyName)
    (requests : Requests) :
    RequestLabel → Option Requests
| .begin session fingerprint staleAfter =>
    requestClaim name requests session
      (.begin session fingerprint staleAfter)
| .insert session draw =>
    requestClaim name requests session
      (.insert session draw)
| .read session =>
    requestClaim name requests session (.read session)
| .reclaim session =>
    requestClaim name requests session (.reclaim session)
| .commit session => requestCommit name requests session
| .complete session paymentIntentId responseStatus
    responseBody refundId =>
    requestComplete name requests session paymentIntentId
      responseStatus responseBody refundId
| .raise session => requestRaise name requests session
| .failRead session => requestFailRead requests session
| .failWrite session =>
    requestFailWrite name requests session
| .die session => requestDie name requests session

------------------------------------------------------------
-- Leases
------------------------------------------------------------

/- The session's claim is the latest one. -/
def Requests.Holds
    (requests : Requests)
    (session : SessionId) : Prop :=
  (requests.table.sessions session).isOpened = true ∨
    requests.claimant = some session

instance
    (requests : Requests)
    (session : SessionId) :
    Decidable (requests.Holds session) := by
  unfold Requests.Holds
  infer_instance

/- Completions and failures come from the latest claim. -/
def LeaseKept
    (requests : Requests)
    (label : RequestLabel) : Prop :=
  match label with
  | .complete session _ _ _ _ => requests.Holds session
  | .failWrite session => requests.Holds session
  | _ => True

instance
    (requests : Requests)
    (label : RequestLabel) :
    Decidable (LeaseKept requests label) := by
  unfold LeaseKept
  cases label with
  | complete session =>
      exact inferInstanceAs
        (Decidable (requests.Holds session))
  | failWrite session =>
      exact inferInstanceAs
        (Decidable (requests.Holds session))
  | _ => exact inferInstanceAs (Decidable True)

/-
  Whoever has written the row holds its lease, and once the
  row is completed its claimant is done with it.
-/
structure LeaseInvariant (requests : Requests) : Prop where
  consistent : KeyConsistent requests.table
  flight :
    ∀ session row,
      requests.table.inFlight = some (session, row) →
        (requests.stage session = .working ∧
            (requests.table.sessions session).isOpened =
              true ∧
            row.status = .pending) ∨
          (requests.stage session = .completing ∧
            requests.Holds session) ∨
          (requests.stage session = .failed ∧
            requests.Holds session)
  done :
    ∀ row,
      requests.table.committed = some row →
        row.status = .completed →
          requests.table.inFlight = none ∧
            ∀ session,
              requests.claimant = some session →
                requests.stage session = .finished

theorem leaseInvariant_start
    (committed : Option IdempotencyKey) :
    LeaseInvariant (Requests.start committed) where
  consistent := keyConsistent_start committed
  flight := by
    intro session row hInFlight
    cases hInFlight
  done := by
    intro row _ _
    refine ⟨rfl, ?_⟩
    intro session hClaimant
    cases hClaimant

end PayGuard

------------------------------------------------------------
-- One Step
------------------------------------------------------------

namespace PayGuard

variable {name : KeyName}
variable {requests next : Requests}
variable {table : KeyTable}
variable {session : SessionId}

/- A session mid-claim has not written the row. -/
theorem Advance.not_writes
    {position : Session}
    (hAdvance : Advance table session position)
    (hConsistent : KeyConsistent table) :
    table.writes session = false := by
  cases hAdvance with
  | begin hIdle hFresh => exact hFresh
  | conflict now hCall hRow =>
      exact hConsistent.not_writes_of_calling hCall
  | answer hCall hRow hOutcome =>
      exact hConsistent.not_writes_of_reading hCall
  | abandoned hCall hRow hEvaluation =>
      exact hConsistent.not_writes_of_reading hCall
  | restart hCall =>
      exact hConsistent.not_writes_of_reclaiming hCall

/- An open claim has the row in flight. -/
theorem KeyConsistent.writes_of_isOpened
    (hConsistent : KeyConsistent table)
    (hOpened : (table.sessions session).isOpened = true) :
    table.writes session = true := by
  cases hSession : table.sessions session with
  | opened call keyRowId =>
      exact hConsistent.opened session call keyRowId hSession
  | _ =>
      rw [hSession] at hOpened
      cases hOpened

/- The version in flight is not this session's. -/
theorem ne_of_not_writes
    {writer : SessionId}
    {row : IdempotencyKey}
    (hInFlight : table.inFlight = some (writer, row))
    (hWrites : table.writes session = false) :
    writer ≠ session := by
  intro hSame
  have hTrue := (writes_of_inFlight hInFlight).mpr hSame
  rw [hWrites] at hTrue
  cases hTrue

theorem Requests.holds_become
    {position : Session}
    {other : SessionId}
    (hOther : other ≠ session) :
    (requests.withTable
        (requests.table.become session position)).Holds
          other ↔
      requests.Holds other := by
  simp [Requests.Holds, Requests.withTable,
    KeyTable.become, Function.update_of_ne hOther]

/- Moving on inside a claim keeps the leases. -/
theorem LeaseInvariant.advance
    {position : Session}
    (hLease : LeaseInvariant requests)
    (hNext :
      KeyConsistent
        (requests.table.become session position))
    (hWrites : requests.table.writes session = false) :
    LeaseInvariant
      (requests.withTable
        (requests.table.become session position)) where
  consistent := hNext
  flight := by
    intro writer row hInFlight
    have hNe : writer ≠ session :=
      ne_of_not_writes hInFlight hWrites
    have hPosition :
        (requests.table.become session
          position).sessions writer =
          requests.table.sessions writer :=
      Function.update_of_ne hNe _ _
    rw [Requests.holds_become hNe]
    simp only [Requests.withTable, hPosition]
    exact hLease.flight writer row hInFlight
  done := hLease.done

/- Winning a claim takes the lease. -/
theorem leaseInvariant_claim
    {call : ClaimCall}
    {row : IdempotencyKey}
    (hNext :
      KeyConsistent
        (requests.table.claim session call row))
    (hStage : requests.stage session = .working)
    (hPending : row.status = .pending)
    (hOpen :
      ∀ stored,
        requests.table.committed = some stored →
          stored.status ≠ .completed) :
    LeaseInvariant
      (requests.withTable
        (requests.table.claim session call row)) where
  consistent := hNext
  flight := by
    intro writer version hInFlight
    cases hInFlight
    refine .inl ⟨hStage, ?_, hPending⟩
    simp [Requests.withTable, KeyTable.claim,
      Session.isOpened]
  done := by
    intro stored hStored hCompleted
    exact absurd hCompleted (hOpen stored hStored)

theorem leaseInvariant_claimEffect
    (hLease : LeaseInvariant requests)
    (hStage : requests.stage session = .working)
    (hClaim :
      ClaimEffect name requests.table session table) :
    LeaseInvariant (requests.withTable table) := by
  have hConsistent := hLease.consistent
  have hNext := keyConsistent_claimEffect hConsistent hClaim
  cases hClaim with
  | advance hAdvance =>
      exact hLease.advance hNext
        (hAdvance.not_writes hConsistent)
  | inserted draw hCall hWritable hNone =>
      have hFresh := hConsistent.not_writes_of_calling hCall
      rw [current_of_not_writes hFresh] at hNone
      apply leaseInvariant_claim hNext hStage rfl
      intro stored hStored
      rw [hNone] at hStored
      cases hStored
  | reclaimed hCall hWritable hCurrent hMatches =>
      have hFresh :=
        hConsistent.not_writes_of_reclaiming hCall
      rw [current_of_not_writes hFresh] at hCurrent
      apply leaseInvariant_claim hNext hStage rfl
      intro stored hStored
      rw [hCurrent, Option.some.injEq] at hStored
      subst hStored
      exact reclaimMatches_ne_completed
        (hConsistent.abandoned _ _ _ _ _ hCall).1 hMatches

/- Inversion of a claiming step of a request. -/
theorem requestClaim_eq_some
    {label : KeyLabel}
    (hStep :
      requestClaim name requests session label =
        some next) :
    requests.stage session = .working ∧
      ∃ table,
        keyStep name requests.table label = some table ∧
          next = requests.withTable table := by
  unfold requestClaim at hStep
  split at hStep
  · rename_i hStage
    rcases Option.map_eq_some_iff.mp hStep with
      ⟨table, hTable, rfl⟩
    exact ⟨hStage, table, hTable, rfl⟩
  · cases hStep

/- The holder of a lease is not finished with its row. -/
theorem LeaseInvariant.not_completed
    {stored : IdempotencyKey}
    (hLease : LeaseInvariant requests)
    (hHolds : requests.Holds session)
    (hStage : requests.stage session ≠ .finished)
    (hStored : requests.table.committed = some stored) :
    stored.status ≠ .completed := by
  intro hCompleted
  rcases hLease.done stored hStored hCompleted with
    ⟨hNone, hFinished⟩
  rcases hHolds with hOpened | hClaimant
  · have hWrites :=
      hLease.consistent.writes_of_isOpened hOpened
    rw [writes_of_none hNone] at hWrites
    cases hWrites
  · exact hStage (hFinished session hClaimant)

/- A final write of the holder keeps the leases. -/
theorem LeaseInvariant.write
    {stage : Stage}
    {keyRowId : Uuid}
    {change : IdempotencyKey → IdempotencyKey}
    (hLease : LeaseInvariant requests)
    (hHolds : requests.Holds session)
    (hStage : requests.stage session ≠ .finished)
    (hFinal : stage = .completing ∨ stage = .failed)
    (hNext : KeyConsistent table)
    (hWrite :
      keyWrite requests.table session keyRowId change =
        some table) :
    LeaseInvariant
      ((requests.withTable table).withStage session
        stage) := by
  have hOpen :
      ∀ stored,
        requests.table.committed = some stored →
          stored.status ≠ .completed :=
    fun stored => hLease.not_completed hHolds hStage
  have hSessions :
      table.sessions = requests.table.sessions ∧
        table.committed = requests.table.committed := by
    rcases (keyWrite_eq_some hWrite).2.2 with
      rfl | ⟨row, _, rfl⟩
    · exact ⟨rfl, rfl⟩
    · exact ⟨rfl, rfl⟩
  have hHoldsNext :
      ∀ other,
        ((requests.withTable table).withStage session
            stage).Holds other ↔
          requests.Holds other := by
    intro other
    simp [Requests.Holds, Requests.withTable,
      Requests.withStage, hSessions.1]
  refine
    { consistent := hNext
      flight := ?_
      done := ?_ }
  · intro writer row hInFlight
    by_cases hNe : writer = session
    · subst hNe
      rw [hHoldsNext]
      simp only [Requests.withStage, Function.update_self]
      rcases hFinal with rfl | rfl
      · exact .inr (.inl ⟨rfl, hHolds⟩)
      · exact .inr (.inr ⟨rfl, hHolds⟩)
    · -- somebody else's version was there before
      rcases (keyWrite_eq_some hWrite).2.2 with
        rfl | ⟨version, _, rfl⟩
      · have hOld := hLease.flight writer row hInFlight
        rw [hHoldsNext]
        simpa [Requests.withStage, Requests.withTable,
          Function.update_of_ne hNe] using hOld
      · cases hInFlight
        exact absurd rfl hNe
  · intro stored hStored hCompleted
    have hOld : requests.table.committed = some stored := by
      rw [← hSessions.2]
      exact hStored
    exact absurd hCompleted (hOpen stored hOld)

/- A stage change of a session that has written nothing. -/
theorem LeaseInvariant.withStage
    (hLease : LeaseInvariant requests)
    (hWrites : requests.table.writes session = false)
    (hStage : requests.stage session ≠ .finished)
    (stage : Stage) :
    LeaseInvariant (requests.withStage session stage) where
  consistent := hLease.consistent
  flight := by
    intro writer row hInFlight
    have hNe : writer ≠ session :=
      ne_of_not_writes hInFlight hWrites
    have hOld := hLease.flight writer row hInFlight
    simpa [Requests.withStage, Requests.Holds,
      Function.update_of_ne hNe] using hOld
  done := by
    intro row hStored hCompleted
    rcases hLease.done row hStored hCompleted with
      ⟨hNone, hFinished⟩
    refine ⟨hNone, ?_⟩
    intro other hClaimant
    have hOther := hFinished other hClaimant
    have hNe : other ≠ session := by
      intro hSame
      rw [hSame] at hOther
      exact hStage hOther
    simpa [Requests.withStage,
      Function.update_of_ne hNe] using hOther

/- A rollback of what the session had in flight. -/
theorem LeaseInvariant.released
    {stage : Stage}
    {row : IdempotencyKey}
    (hLease : LeaseInvariant requests)
    (hInFlight :
      requests.table.inFlight = some (session, row))
    (hNext : KeyConsistent table)
    (hNone : table.inFlight = none)
    (hCommitted :
      table.committed = requests.table.committed) :
    LeaseInvariant
      ((requests.withTable table).withStage session
        stage) where
  consistent := hNext
  flight := by
    intro writer version hVersion
    simp only [Requests.withStage, Requests.withTable,
      hNone] at hVersion
    cases hVersion
  done := by
    intro stored hStored hCompleted
    simp only [Requests.withStage, Requests.withTable,
      hCommitted] at hStored
    have hOld := (hLease.done stored hStored hCompleted).1
    rw [hInFlight] at hOld
    cases hOld

/- What a rollback leaves behind. -/
theorem keyRollback_eq_some
    (hStep :
      keyRollback requests.table session = some table) :
    (requests.table.writes session = false ∧
        table = requests.table) ∨
      ∃ row,
        requests.table.inFlight = some (session, row) ∧
          table.inFlight = none ∧
          table.committed = requests.table.committed := by
  unfold keyRollback at hStep
  split at hStep
  · rename_i hWrites
    rcases writes_eq_true hWrites with ⟨row, hInFlight⟩
    split at hStep
    · cases hStep
      exact .inr ⟨row, hInFlight, rfl, rfl⟩
    · cases hStep
      exact .inr ⟨row, hInFlight, rfl, rfl⟩
  · rename_i hWrites
    cases hStep
    exact .inl ⟨by simpa using hWrites, rfl⟩

/- Rolling back keeps the leases. -/
theorem LeaseInvariant.rollback
    {stage : Stage}
    (hLease : LeaseInvariant requests)
    (hStage : requests.stage session ≠ .finished)
    (hStep :
      keyStep name requests.table (.rollback session) =
        some table) :
    LeaseInvariant
      ((requests.withTable table).withStage session
        stage) := by
  have hNext :=
    keyConsistent_effect hLease.consistent
      (keyStep_effect hStep)
  rcases keyRollback_eq_some hStep with
    ⟨hWrites, rfl⟩ | ⟨row, hInFlight, hNone, hCommitted⟩
  · exact hLease.withStage hWrites hStage stage
  · exact hLease.released hInFlight hNext hNone hCommitted

/- What a commit leaves behind. -/
theorem keyCommit_eq_some
    (hStep :
      keyCommit requests.table session = some table) :
    (requests.table.writes session = false ∧
        table = requests.table) ∨
      ∃ row,
        requests.table.inFlight = some (session, row) ∧
          table.inFlight = none ∧
          table.committed = some row := by
  unfold keyCommit at hStep
  split at hStep
  · rename_i hNone
    cases hStep
    exact .inl ⟨writes_of_none hNone, rfl⟩
  · rename_i writer row hInFlight
    split at hStep
    · rename_i hWriter
      subst hWriter
      cases hStep
      exact .inr ⟨row, hInFlight, rfl, rfl⟩
    · rename_i hWriter
      cases hStep
      refine .inl ⟨?_, rfl⟩
      by_contra hWrites
      rw [Bool.not_eq_false, writes_of_inFlight hInFlight]
        at hWrites
      exact hWriter hWrites

/- The committed version carries the session's claim. -/
theorem claimantAfter_of_holds
    (hHolds : requests.Holds session) :
    claimantAfter requests session = some session := by
  unfold claimantAfter
  rcases hHolds with hOpened | hClaimant
  · rw [if_pos hOpened]
  · split
    · rfl
    · exact hClaimant

/- The commit of a final write ends the request. -/
theorem LeaseInvariant.committed
    {row : IdempotencyKey}
    (hLease : LeaseInvariant requests)
    (hInFlight :
      requests.table.inFlight = some (session, row))
    (hNext : KeyConsistent table)
    (hNone : table.inFlight = none)
    (hCommitted : table.committed = some row) :
    LeaseInvariant
      { table := table
        stage :=
          Function.update requests.stage session
            (requests.stage session).commit
        claimant := claimantAfter requests session } where
  consistent := hNext
  flight := by
    intro writer version hVersion
    rw [hNone] at hVersion
    cases hVersion
  done := by
    intro stored hStored hCompleted
    rw [hCommitted, Option.some.injEq] at hStored
    subst hStored
    refine ⟨hNone, ?_⟩
    -- a completed version is the holder's final write
    have hFinal :
        requests.Holds session ∧
          (requests.stage session).commit = .finished := by
      rcases hLease.flight session row hInFlight with
        ⟨_, _, hPending⟩ | ⟨hStage, hHolds⟩ |
          ⟨hStage, hHolds⟩
      · rw [hCompleted] at hPending
        cases hPending
      · exact ⟨hHolds, by rw [hStage]; rfl⟩
      · exact ⟨hHolds, by rw [hStage]; rfl⟩
    intro other hClaimant
    rw [claimantAfter_of_holds hFinal.1, Option.some.injEq]
      at hClaimant
    subst hClaimant
    simp [hFinal.2]

theorem LeaseInvariant.commit
    (hLease : LeaseInvariant requests)
    (hStage : requests.stage session ≠ .finished)
    (hStep :
      keyStep name requests.table (.commit session) =
        some table) :
    LeaseInvariant
      { table := table
        stage :=
          Function.update requests.stage session
            (requests.stage session).commit
        claimant := claimantAfter requests session } := by
  have hNext :=
    keyConsistent_effect hLease.consistent
      (keyStep_effect hStep)
  rcases keyCommit_eq_some hStep with
    ⟨hWrites, rfl⟩ | ⟨row, hInFlight, hNone, hCommitted⟩
  · have hNotOpened :
        ¬ (requests.table.sessions session).isOpened =
          true := by
      intro hOpened
      have hTrue :=
        hLease.consistent.writes_of_isOpened hOpened
      rw [hWrites] at hTrue
      cases hTrue
    have hClaimant :
        claimantAfter requests session =
          requests.claimant := by
      unfold claimantAfter
      rw [if_neg hNotOpened]
    rw [hClaimant]
    exact hLease.withStage hWrites hStage _
  · exact hLease.committed hInFlight hNext hNone hCommitted

/- A request that is failing has nothing in flight. -/
theorem LeaseInvariant.not_writes_of_failing
    (hLease : LeaseInvariant requests)
    (hStage : requests.stage session = .failing) :
    requests.table.writes session = false := by
  by_contra hWrites
  rw [Bool.not_eq_false] at hWrites
  rcases writes_eq_true hWrites with ⟨row, hInFlight⟩
  rcases hLease.flight session row hInFlight with
    ⟨hOther, _⟩ | ⟨hOther, _⟩ | ⟨hOther, _⟩ <;>
    rw [hStage] at hOther <;> cases hOther

/- A claiming label keeps the leases. -/
theorem leaseInvariant_requestClaim
    {label : KeyLabel}
    (hLease : LeaseInvariant requests)
    (hClaims :
      ∀ table,
        keyStep name requests.table label = some table →
          ClaimEffect name requests.table session table)
    (hStep :
      requestClaim name requests session label =
        some next) :
    LeaseInvariant next := by
  rcases requestClaim_eq_some hStep with
    ⟨hStage, table, hTable, rfl⟩
  exact leaseInvariant_claimEffect hLease hStage
    (hClaims table hTable)

theorem leaseInvariant_requestComplete
    {paymentIntentId : Option Uuid}
    {responseStatus : Nat}
    {responseBody : ResponseBody}
    {refundId : Option Uuid}
    (hLease : LeaseInvariant requests)
    (hHolds : requests.Holds session)
    (hStep :
      requestComplete name requests session paymentIntentId
        responseStatus responseBody refundId = some next) :
    LeaseInvariant next := by
  unfold requestComplete at hStep
  split at hStep
  · cases hStep
  · split at hStep
    · rename_i hGuard
      simp only [Bool.and_eq_true, decide_eq_true_iff]
        at hGuard
      rcases Option.map_eq_some_iff.mp hStep with
        ⟨table, hTable, rfl⟩
      have hNext :=
        keyConsistent_effect hLease.consistent
          (keyStep_effect hTable)
      exact hLease.write hHolds (by simp [hGuard.1])
        (.inl rfl) hNext hTable
    · cases hStep

theorem leaseInvariant_requestFailWrite
    (hLease : LeaseInvariant requests)
    (hHolds : requests.Holds session)
    (hStep :
      requestFailWrite name requests session = some next) :
    LeaseInvariant next := by
  unfold requestFailWrite at hStep
  split at hStep
  · cases hStep
  · split at hStep
    · rename_i hStage
      rcases Option.map_eq_some_iff.mp hStep with
        ⟨table, hTable, rfl⟩
      have hNext :=
        keyConsistent_effect hLease.consistent
          (keyStep_effect hTable)
      exact hLease.write hHolds (by simp [hStage])
        (.inr rfl) hNext hTable
    · cases hStep

theorem leaseInvariant_requestFailRead
    (hLease : LeaseInvariant requests)
    (hStep : requestFailRead requests session = some next) :
    LeaseInvariant next := by
  unfold requestFailRead at hStep
  split at hStep
  · rename_i hStage
    have hKeep :=
      hLease.withStage (hLease.not_writes_of_failing hStage)
        (by simp [hStage])
    split at hStep
    · cases hStep
      exact hKeep .finished
    · split at hStep
      · cases hStep
        exact hKeep .failureSeen
      · cases hStep
        exact hKeep .finished
  · cases hStep

/- Every step of a request that keeps its lease. -/
theorem leaseInvariant_step
    {label : RequestLabel}
    (hLease : LeaseInvariant requests)
    (hKept : LeaseKept requests label)
    (hStep : requestStep name requests label = some next) :
    LeaseInvariant next := by
  cases label with
  | begin session fingerprint staleAfter =>
      apply leaseInvariant_requestClaim hLease _ hStep
      intro table hTable
      exact keyBegin_effect hTable
  | insert session draw =>
      apply leaseInvariant_requestClaim hLease _ hStep
      intro table hTable
      exact keyInsert_effect hTable
  | read session =>
      apply leaseInvariant_requestClaim hLease _ hStep
      intro table hTable
      exact keyRead_effect hTable
  | reclaim session =>
      apply leaseInvariant_requestClaim hLease _ hStep
      intro table hTable
      exact keyReclaim_effect hTable
  | complete session paymentIntentId responseStatus
      responseBody refundId =>
      exact leaseInvariant_requestComplete hLease hKept hStep
  | failWrite session =>
      exact leaseInvariant_requestFailWrite hLease hKept
        hStep
  | failRead session =>
      exact leaseInvariant_requestFailRead hLease hStep
  | commit session =>
      simp only [requestStep, requestCommit] at hStep
      split at hStep
      · rename_i hStage
        rcases Option.map_eq_some_iff.mp hStep with
          ⟨table, hTable, rfl⟩
        apply hLease.commit _ hTable
        intro hFinished
        rw [hFinished] at hStage
        simp at hStage
      · cases hStep
  | raise session =>
      simp only [requestStep, requestRaise] at hStep
      split at hStep
      · rename_i hGuard
        rcases Option.map_eq_some_iff.mp hStep with
          ⟨table, hTable, rfl⟩
        apply hLease.rollback _ hTable
        intro hFinished
        rw [hFinished] at hGuard
        simp at hGuard
      · cases hStep
  | die session =>
      simp only [requestStep, requestDie] at hStep
      split at hStep
      · cases hStep
      · rename_i hStage
        rcases Option.map_eq_some_iff.mp hStep with
          ⟨table, hTable, rfl⟩
        exact hLease.rollback hStage hTable

end PayGuard

------------------------------------------------------------
-- Every Run
------------------------------------------------------------

namespace PayGuard

variable {name : KeyName}
variable {requests next : Requests}

/- Only the commit of something in flight writes the row. -/
theorem keyStep_committed
    {table table' : KeyTable}
    {label : KeyLabel}
    (hInFlight : table.inFlight = none)
    (hStep : keyStep name table label = some table') :
    table'.committed = table.committed := by
  have hEffect := keyStep_effect hStep
  cases hEffect with
  | claiming hClaim => cases hClaim <;> rfl
  | committed hFlight =>
      rw [hInFlight] at hFlight
      cases hFlight
  | _ => rfl

/- Every step of a request is one of its row, or none. -/
theorem requestStep_table
    {label : RequestLabel}
    (hStep : requestStep name requests label = some next) :
    next.table = requests.table ∨
      ∃ keyLabel,
        keyStep name requests.table keyLabel =
          some next.table := by
  have hClaim :
      ∀ session keyLabel,
        requestClaim name requests session keyLabel =
            some next →
          next.table = requests.table ∨
            ∃ keyLabel,
              keyStep name requests.table keyLabel =
                some next.table := by
    intro session keyLabel hRequest
    rcases requestClaim_eq_some hRequest with
      ⟨_, table, hTable, rfl⟩
    exact .inr ⟨keyLabel, hTable⟩
  cases label with
  | begin session fingerprint staleAfter =>
      exact hClaim _ _ hStep
  | insert session draw => exact hClaim _ _ hStep
  | read session => exact hClaim _ _ hStep
  | reclaim session => exact hClaim _ _ hStep
  | complete session paymentIntentId responseStatus
      responseBody refundId =>
      simp only [requestStep, requestComplete] at hStep
      split at hStep
      · cases hStep
      · split at hStep
        · rcases Option.map_eq_some_iff.mp hStep with
            ⟨table, hTable, rfl⟩
          exact .inr ⟨_, hTable⟩
        · cases hStep
  | failWrite session =>
      simp only [requestStep, requestFailWrite] at hStep
      split at hStep
      · cases hStep
      · split at hStep
        · rcases Option.map_eq_some_iff.mp hStep with
            ⟨table, hTable, rfl⟩
          exact .inr ⟨_, hTable⟩
        · cases hStep
  | failRead session =>
      simp only [requestStep, requestFailRead] at hStep
      split at hStep
      · split at hStep
        · cases hStep
          exact .inl rfl
        · split at hStep <;> cases hStep <;> exact .inl rfl
      · cases hStep
  | commit session =>
      simp only [requestStep, requestCommit] at hStep
      split at hStep
      · rcases Option.map_eq_some_iff.mp hStep with
          ⟨table, hTable, rfl⟩
        exact .inr ⟨_, hTable⟩
      · cases hStep
  | raise session =>
      simp only [requestStep, requestRaise] at hStep
      split at hStep
      · rcases Option.map_eq_some_iff.mp hStep with
          ⟨table, hTable, rfl⟩
        exact .inr ⟨_, hTable⟩
      · cases hStep
  | die session =>
      simp only [requestStep, requestDie] at hStep
      split at hStep
      · cases hStep
      · rcases Option.map_eq_some_iff.mp hStep with
          ⟨table, hTable, rfl⟩
        exact .inr ⟨_, hTable⟩

/- A completed row survives every step that keeps leases. -/
theorem completed_step
    {label : RequestLabel}
    {row : IdempotencyKey}
    (hLease : LeaseInvariant requests)
    (hStored : requests.table.committed = some row)
    (hCompleted : row.status = .completed)
    (hStep : requestStep name requests label = some next) :
    next.table.committed = some row := by
  have hNone := (hLease.done row hStored hCompleted).1
  rcases requestStep_table hStep with
    hSame | ⟨keyLabel, hTable⟩
  · rw [hSame]
    exact hStored
  · rw [keyStep_committed hNone hTable]
    exact hStored

/- A reader of a completed row replays it. -/
theorem replays_completed
    {session : SessionId}
    {call : ClaimCall}
    {row : IdempotencyKey}
    (hLease : LeaseInvariant requests)
    (hStored : requests.table.committed = some row)
    (hCompleted : row.status = .completed)
    (hWorking : requests.stage session = .working)
    (hReading :
      requests.table.sessions session = .reading call)
    (hFingerprint :
      row.requestFingerprint = call.fingerprint) :
    requestStep name requests (.read session) =
      some (requests.withTable
        (requests.table.become session
          (.answered (.replay row)))) := by
  have hCurrent :=
    current_of_not_writes
      (hLease.consistent.not_writes_of_reading hReading)
  rw [hStored] at hCurrent
  simp [requestStep, requestClaim, hWorking, keyStep,
    keyRead, hReading, hCurrent, evaluateExisting,
    hFingerprint, hCompleted]

/-
  Where all completions and failures come from the latest
  claim, a row committed as `COMPLETED` stays exactly as it
  is, and every later request with its fingerprint replays
  its response.
-/
theorem completed_key_is_final
    (name : KeyName)
    (stored : Option IdempotencyKey)
    (labels later : List RequestLabel)
    (requests final : Requests)
    (row : IdempotencyKey)
    (hRun :
      Lts.exec (requestStep name) (Requests.start stored)
        labels = some requests)
    (hLater :
      Lts.exec (requestStep name) requests later =
        some final)
    (hLeases :
      Lts.Meets (requestStep name) LeaseKept
        (Requests.start stored) (labels ++ later))
    (hStored : requests.table.committed = some row)
    (hCompleted : row.status = .completed) :
    final.table.committed = some row ∧
      ∀ session call,
        final.stage session = .working →
          final.table.sessions session = .reading call →
            row.requestFingerprint = call.fingerprint →
              requestStep name final (.read session) =
                some (final.withTable
                  (final.table.become session
                    (.answered (.replay row)))) := by
  have hKeep :
      ∀ before label after,
        LeaseInvariant before →
          LeaseKept before label →
            requestStep name before label = some after →
              LeaseInvariant after :=
    fun _ _ _ hLease hKept hStep =>
      leaseInvariant_step hLease hKept hStep
  rw [Lts.meets_append hRun] at hLeases
  have hMiddle :=
    Lts.invariant_of_meets hKeep
      (leaseInvariant_start stored) hLeases.1 hRun
  have hKeepRow :
      ∀ before label after,
        LeaseInvariant before ∧
            before.table.committed = some row →
          LeaseKept before label →
            requestStep name before label = some after →
              LeaseInvariant after ∧
                after.table.committed = some row := by
    intro before label after hBoth hKept hStep
    exact ⟨hKeep before label after hBoth.1 hKept hStep,
      completed_step hBoth.1 hBoth.2 hCompleted hStep⟩
  have hFinal :=
    Lts.invariant_of_meets hKeepRow ⟨hMiddle, hStored⟩
      hLeases.2 hLater
  refine ⟨hFinal.2, ?_⟩
  intro session call hWorking hReading hFingerprint
  exact replays_completed hFinal.1 hFinal.2 hCompleted
    hWorking hReading hFingerprint

/- The response of a payment that has been authorized. -/
def createdBody (paymentId : Uuid) : ResponseBody :=
  .payment paymentId .processing 100 "USD" none 0

/- A request claims the key and completes it. -/
def completedRun : List RequestLabel :=
  [.begin 0 "print" 30, .insert 0 { now := 0, key := 7 },
    .commit 0, .complete 0 (some 1) 201 (createdBody 1) none,
    .commit 0]

/- The row that run commits. -/
def completedRow : IdempotencyKey :=
  (newKey 1 "key" "print" { now := 0, key := 7 }).completed
    (some 1) 201 (createdBody 1) none

/- The same request again, long after the stale window. -/
def repeatedRun : List RequestLabel :=
  [.begin 1 "print" 30, .insert 1 { now := 90, key := 8 }]

theorem completed_key_is_final_repeated :
    ∃ requests final,
      Lts.exec (requestStep ⟨1, "key"⟩)
          (Requests.start none) completedRun =
            some requests ∧
        Lts.exec (requestStep ⟨1, "key"⟩) requests
          repeatedRun = some final ∧
        final.table.committed = some completedRow ∧
        requestStep ⟨1, "key"⟩ final (.read 1) =
          some (final.withTable
            (final.table.become 1
              (.answered (.replay completedRow)))) := by
  have hRuns :
      ((Lts.exec (requestStep ⟨1, "key"⟩)
          (Requests.start none) completedRun).map
            (·.table.committed) =
          some (some completedRow)) ∧
        ((Lts.exec (requestStep ⟨1, "key"⟩)
          (Requests.start none)
            (completedRun ++ repeatedRun)).map
              (fun final =>
                (final.stage 1, final.table.sessions 1)) =
          some (.working, .reading ⟨"print", 30, 90⟩)) := by
    decide +kernel
  rcases Option.map_eq_some_iff.mp hRuns.1 with
    ⟨requests, hRun, hStored⟩
  rcases Option.map_eq_some_iff.mp hRuns.2 with
    ⟨final, hBoth, hReading⟩
  rcases Lts.exec_append_eq_some.mp hBoth with
    ⟨middle, hFirst, hLater⟩
  have hMiddle : middle = requests :=
    Option.some.inj (hFirst.symm.trans hRun)
  subst hMiddle
  have hFinal :=
    completed_key_is_final _ _ _ _ _ _ completedRow hRun
      hLater (by decide +kernel) hStored rfl
  exact ⟨middle, final, hRun, hLater, hFinal.1,
    hFinal.2 1 ⟨"print", 30, 90⟩
      (congrArg Prod.fst hReading)
      (congrArg Prod.snd hReading) rfl⟩

/-
  A request outlives its lease; another one takes the key
  over and completes it, and then the first one completes
  it as well.
-/
def lostLeaseRun : List RequestLabel :=
  [.begin 0 "print" 30, .insert 0 { now := 0, key := 7 },
    .commit 0, .begin 1 "print" 30,
    .insert 1 { now := 30, key := 8 }, .read 1, .reclaim 1,
    .commit 1, .complete 1 (some 2) 201 (createdBody 2) none,
    .commit 1]

def lateCompletion : List RequestLabel :=
  [.complete 0 (some 1) 201 (createdBody 1) none, .commit 0]

theorem lost_lease_overwrites_response :
    (Lts.exec (requestStep ⟨1, "key"⟩)
        (Requests.start none) lostLeaseRun).bind
          (fun requests =>
            requests.table.committed.map
              (fun row => (row.status, row.responseBody))) =
        some (.completed, some (createdBody 2)) ∧
      (Lts.exec (requestStep ⟨1, "key"⟩)
        (Requests.start none)
          (lostLeaseRun ++ lateCompletion)).bind
          (fun requests =>
            requests.table.committed.map
              (fun row => (row.status, row.responseBody))) =
        some (.completed, some (createdBody 1)) := by
  decide +kernel

end PayGuard

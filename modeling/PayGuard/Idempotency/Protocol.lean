import Mathlib.Logic.Function.Basic
import PayGuard.Idempotency.Service
import PayGuard.Lib.Runs

/-
  The claim protocol at the level of single statements, for
  one merchant and one key.

  A session runs `claim_idempotency_key` one statement at a
  time.  The row has a committed version, and at most one
  session holds its lock with a version of its own, which
  nobody else sees before the commit.  An insert waits for
  another session's uncommitted insert, and the reclaiming
  update evaluates its clause once it has the lock.

  Key definitions include:
    * `Session`
    * `KeyTable`
    * `KeyLabel`
    * `keyStep`

    * `KeyEffect`

  Key theorems include:
    * `keyStep_effect`
-/

------------------------------------------------------------
-- States
------------------------------------------------------------

namespace PayGuard

abbrev SessionId := Nat

/- The arguments of a claim and its clock reading. -/
structure ClaimCall where
  fingerprint : String
  staleAfter : Int
  now : Timestamp
deriving DecidableEq, Repr

/- How far a session has come with its claim. -/
inductive Session where
| idle
-- about to insert, at first or when starting over
| calling (fingerprint : String) (staleAfter : Int)
-- its insert found the key taken
| reading (claim : ClaimCall)
-- it read a row that looked abandoned
| reclaiming
    (claim : ClaimCall)
    (row : IdempotencyKey)
    (expectedStatus : KeyStatus)
    (expectedLockedAt : Option Timestamp)
-- `CLAIMED`, in a transaction that is still open
| opened (claim : ClaimCall) (keyRowId : Uuid)
-- `CLAIMED` and committed
| held (claim : ClaimCall) (keyRowId : Uuid)
-- `REPLAY`, `CONFLICT` or `IN_PROGRESS`
| answered (outcome : Claim)
-- `CLAIMED` and rolled back
| withdrawn (keyRowId : Uuid)
deriving DecidableEq, Repr

/- The history of the row, in the order things happened. -/
inductive KeyEvent where
| claimed
    (session : SessionId)
    (now : Timestamp)
    (staleAfter : Int)
| committed (session : SessionId) (row : IdempotencyKey)
| withdrawn (session : SessionId)
deriving DecidableEq, Repr

def KeyEvent.isClaim : KeyEvent → Bool
| .claimed _ _ _ => true
| _ => false

/-
  The committed version of the row, the uncommitted one with
  the session that holds the row lock, and the sessions.
-/
structure KeyTable where
  committed : Option IdempotencyKey := none
  inFlight : Option (SessionId × IdempotencyKey) := none
  sessions : SessionId → Session := fun _ => .idle
  log : List KeyEvent := []

namespace KeyTable

/- The session's open transaction has written the row. -/
def writes
    (table : KeyTable)
    (session : SessionId) : Bool :=
  match table.inFlight with
  | none => false
  | some (writer, _) => writer = session

/- No other session holds the row lock. -/
def writable
    (table : KeyTable)
    (session : SessionId) : Bool :=
  match table.inFlight with
  | none => true
  | some (writer, _) => writer = session

/- The version a statement of the session sees. -/
def current
    (table : KeyTable)
    (session : SessionId) : Option IdempotencyKey :=
  match table.inFlight with
  | none => table.committed
  | some (writer, row) =>
      if writer = session then
        some row
      else
        table.committed

def become
    (table : KeyTable)
    (session : SessionId)
    (position : Session) : KeyTable :=
  { table with
    sessions :=
      Function.update table.sessions session position }

/- The session wins the claim with this version. -/
def claim
    (table : KeyTable)
    (session : SessionId)
    (call : ClaimCall)
    (row : IdempotencyKey) : KeyTable :=
  { table with
    inFlight := some (session, row)
    sessions :=
      Function.update table.sessions session
        (.opened call row.id)
    log :=
      table.log ++
        [.claimed session call.now call.staleAfter] }

end KeyTable

------------------------------------------------------------
-- Statements
------------------------------------------------------------

/- The unique pair every row of this table has. -/
structure KeyName where
  merchantId : Uuid
  idempotencyKey : String
deriving DecidableEq, Repr

/- `INSERT ... ON CONFLICT DO NOTHING`. -/
def keyInsert
    (name : KeyName)
    (table : KeyTable)
    (session : SessionId)
    (draw : Draw) : Option KeyTable :=
  match table.sessions session with
  | .calling fingerprint staleAfter =>
      let call : ClaimCall :=
        ⟨fingerprint, staleAfter, draw.now⟩
      match table.current session with
      | some _ =>
          some (table.become session (.reading call))
      | none =>
          -- another session's insert is waited for
          if table.writable session then
            some (table.claim session call
              (newKey name.merchantId name.idempotencyKey
                fingerprint draw))
          else
            none
  | _ => none

/-
  The blind read and what it decides.  It is assumed to see
  the committed row also where it is made again, after a lost
  reclaim: the session's identity map would keep the object
  of the first read, with the values it then had.
-/
def keyRead
    (table : KeyTable)
    (session : SessionId) : Option KeyTable :=
  match table.sessions session with
  | .reading call =>
      match table.current session with
      | none => none
      | some row =>
          match evaluateExisting row call.fingerprint
              call.now call.staleAfter with
          | .conflict =>
              some (table.become session
                (.answered (.conflict row)))
          | .replay =>
              some (table.become session
                (.answered (.replay row)))
          | .inProgress =>
              some (table.become session
                (.answered (.inProgress row)))
          | .reclaim expectedStatus expectedLockedAt =>
              some (table.become session
                (.reclaiming call row expectedStatus
                  expectedLockedAt))
  | _ => none

/- The conditional update; no row means starting over. -/
def keyReclaim
    (table : KeyTable)
    (session : SessionId) : Option KeyTable :=
  match table.sessions session with
  | .reclaiming call row expectedStatus expectedLockedAt =>
      if table.writable session then
        match table.current session with
        | none => none
        | some current =>
            if reclaimMatches row expectedStatus
                expectedLockedAt current then
              some (table.claim session call
                (reclaimed current call.now))
            else
              some (table.become session
                (.calling call.fingerprint
                  call.staleAfter))
      else
        none
  | _ => none

/- A session in the middle of a claim does nothing else. -/
def Session.betweenClaims : Session → Bool
| .calling _ _ => false
| .reading _ => false
| .reclaiming _ _ _ _ => false
| _ => true

/- `UPDATE ... WHERE id = key_row_id`, under the row lock. -/
def keyWrite
    (table : KeyTable)
    (session : SessionId)
    (keyRowId : Uuid)
    (change : IdempotencyKey → IdempotencyKey) :
    Option KeyTable :=
  if (table.sessions session).betweenClaims &&
      table.writable session then
    match table.current session with
    | none => some table
    | some row =>
        if row.id = keyRowId then
          some
            { table with
              inFlight := some (session, change row) }
        else
          some table
  else
    none

def Session.commit : Session → Session
| .opened call keyRowId => .held call keyRowId
| session => session

def keyCommit
    (table : KeyTable)
    (session : SessionId) : Option KeyTable :=
  match table.inFlight with
  | none => some table
  | some (writer, row) =>
      if writer = session then
        some
          { committed := some row
            inFlight := none
            sessions :=
              Function.update table.sessions session
                (table.sessions session).commit
            log := table.log ++ [.committed session row] }
      else
        some table

def keyRollback
    (table : KeyTable)
    (session : SessionId) : Option KeyTable :=
  if table.writes session then
    match table.sessions session with
    | .opened _ keyRowId =>
        some
          { table with
            inFlight := none
            sessions :=
              Function.update table.sessions session
                (.withdrawn keyRowId)
            log := table.log ++ [.withdrawn session] }
    | _ => some { table with inFlight := none }
  else
    some table

------------------------------------------------------------
-- Steps
------------------------------------------------------------

inductive KeyLabel where
| begin
    (session : SessionId)
    (fingerprint : String)
    (staleAfter : Int)
| insert (session : SessionId) (draw : Draw)
| read (session : SessionId)
| reclaim (session : SessionId)
| complete
    (session : SessionId)
    (keyRowId : Uuid)
    (paymentIntentId : Option Uuid)
    (responseStatus : Nat)
    (responseBody : ResponseBody)
    (refundId : Option Uuid)
| fail (session : SessionId) (keyRowId : Uuid)
| commit (session : SessionId)
| rollback (session : SessionId)
deriving DecidableEq, Repr

/- A claim starts in a transaction of its own. -/
def keyBegin
    (table : KeyTable)
    (session : SessionId)
    (fingerprint : String)
    (staleAfter : Int) : Option KeyTable :=
  match table.sessions session with
  | .idle =>
      if table.writes session then
        none
      else
        some (table.become session
          (.calling fingerprint staleAfter))
  | _ => none

def keyStep
    (name : KeyName)
    (table : KeyTable) :
    KeyLabel → Option KeyTable
| .begin session fingerprint staleAfter =>
    keyBegin table session fingerprint staleAfter
| .insert session draw => keyInsert name table session draw
| .read session => keyRead table session
| .reclaim session => keyReclaim table session
| .complete session keyRowId paymentIntentId responseStatus
    responseBody refundId =>
    keyWrite table session keyRowId (fun row =>
      row.completed paymentIntentId responseStatus
        responseBody refundId)
| .fail session keyRowId =>
    keyWrite table session keyRowId
      IdempotencyKey.markedFailed
| .commit session => keyCommit table session
| .rollback session => keyRollback table session

end PayGuard

------------------------------------------------------------
-- Effects
------------------------------------------------------------

namespace PayGuard

/- The positions a statement that writes nothing leads to. -/
inductive Advance
    (table : KeyTable)
    (session : SessionId) : Session → Prop where
| begin
    {fingerprint : String}
    {staleAfter : Int}
    (hIdle : table.sessions session = .idle)
    (hFresh : table.writes session = false) :
    Advance table session (.calling fingerprint staleAfter)
| conflict
    {fingerprint : String}
    {staleAfter : Int}
    {row : IdempotencyKey}
    (now : Timestamp)
    (hCall :
      table.sessions session =
        .calling fingerprint staleAfter)
    (hRow : table.current session = some row) :
    Advance table session
      (.reading ⟨fingerprint, staleAfter, now⟩)
| answer
    {call : ClaimCall}
    {row : IdempotencyKey}
    {outcome : Claim}
    (hCall : table.sessions session = .reading call)
    (hRow : table.current session = some row)
    (hOutcome :
      (outcome = .conflict row ∧
          evaluateExisting row call.fingerprint call.now
            call.staleAfter = .conflict) ∨
        (outcome = .replay row ∧
          evaluateExisting row call.fingerprint call.now
            call.staleAfter = .replay) ∨
        (outcome = .inProgress row ∧
          evaluateExisting row call.fingerprint call.now
            call.staleAfter = .inProgress)) :
    Advance table session (.answered outcome)
| abandoned
    {call : ClaimCall}
    {row : IdempotencyKey}
    {expectedStatus : KeyStatus}
    {expectedLockedAt : Option Timestamp}
    (hCall : table.sessions session = .reading call)
    (hRow : table.current session = some row)
    (hEvaluation :
      evaluateExisting row call.fingerprint call.now
          call.staleAfter =
        .reclaim expectedStatus expectedLockedAt) :
    Advance table session
      (.reclaiming call row expectedStatus
        expectedLockedAt)
| restart
    {call : ClaimCall}
    {row : IdempotencyKey}
    {expectedStatus : KeyStatus}
    {expectedLockedAt : Option Timestamp}
    (hCall :
      table.sessions session =
        .reclaiming call row expectedStatus
          expectedLockedAt) :
    Advance table session
      (.calling call.fingerprint call.staleAfter)

/- What a statement of a claim can do to the table. -/
inductive ClaimEffect
    (name : KeyName)
    (table : KeyTable)
    (session : SessionId) :
    KeyTable → Prop where
| advance
    {position : Session}
    (hAdvance : Advance table session position) :
    ClaimEffect name table session
      (table.become session position)
| inserted
    {fingerprint : String}
    {staleAfter : Int}
    (draw : Draw)
    (hCall :
      table.sessions session =
        .calling fingerprint staleAfter)
    (hWritable : table.writable session = true)
    (hNone : table.current session = none) :
    ClaimEffect name table session
      (table.claim session
        ⟨fingerprint, staleAfter, draw.now⟩
        (newKey name.merchantId name.idempotencyKey
          fingerprint draw))
| reclaimed
    {call : ClaimCall}
    {row current : IdempotencyKey}
    {expectedStatus : KeyStatus}
    {expectedLockedAt : Option Timestamp}
    (hCall :
      table.sessions session =
        .reclaiming call row expectedStatus
          expectedLockedAt)
    (hWritable : table.writable session = true)
    (hCurrent : table.current session = some current)
    (hMatches :
      reclaimMatches row expectedStatus expectedLockedAt
        current = true) :
    ClaimEffect name table session
      (table.claim session call
        (reclaimed current call.now))

/- Everything a statement can do to the table. -/
inductive KeyEffect
    (name : KeyName)
    (table : KeyTable) :
    KeyTable → Prop where
| unchanged : KeyEffect name table table
| claiming
    {session : SessionId}
    {next : KeyTable}
    (hClaim : ClaimEffect name table session next) :
    KeyEffect name table next
| written
    {session : SessionId}
    {row changed : IdempotencyKey}
    (hBetween :
      (table.sessions session).betweenClaims = true)
    (hWritable : table.writable session = true)
    (hCurrent : table.current session = some row)
    (hChanged :
      (∃ paymentIntentId responseStatus responseBody
          refundId,
        changed =
          row.completed paymentIntentId responseStatus
            responseBody refundId) ∨
        changed = row.markedFailed) :
    KeyEffect name table
      { table with inFlight := some (session, changed) }
| committed
    {session : SessionId}
    {row : IdempotencyKey}
    (hInFlight : table.inFlight = some (session, row)) :
    KeyEffect name table
      { committed := some row
        inFlight := none
        sessions :=
          Function.update table.sessions session
            (table.sessions session).commit
        log := table.log ++ [.committed session row] }
| withdrawn
    {session : SessionId}
    {row : IdempotencyKey}
    {call : ClaimCall}
    {keyRowId : Uuid}
    (hInFlight : table.inFlight = some (session, row))
    (hCall :
      table.sessions session = .opened call keyRowId) :
    KeyEffect name table
      { table with
        inFlight := none
        sessions :=
          Function.update table.sessions session
            (.withdrawn keyRowId)
        log := table.log ++ [.withdrawn session] }
| rolledBack
    {session : SessionId}
    {row : IdempotencyKey}
    (hInFlight : table.inFlight = some (session, row))
    (hNotOpen :
      ∀ call keyRowId,
        table.sessions session ≠ .opened call keyRowId) :
    KeyEffect name table { table with inFlight := none }

variable {name : KeyName}
variable {table next : KeyTable}
variable {session : SessionId}

theorem keyBegin_effect
    {fingerprint : String}
    {staleAfter : Int}
    (hStep :
      keyBegin table session fingerprint staleAfter =
        some next) :
    ClaimEffect name table session next := by
  unfold keyBegin at hStep
  split at hStep
  · rename_i hIdle
    split at hStep
    · cases hStep
    · rename_i hFresh
      cases hStep
      exact .advance (.begin hIdle (by simpa using hFresh))
  · cases hStep

theorem keyInsert_effect
    {draw : Draw}
    (hStep :
      keyInsert name table session draw = some next) :
    ClaimEffect name table session next := by
  unfold keyInsert at hStep
  split at hStep
  · rename_i hCall
    split at hStep
    · rename_i hRow
      cases hStep
      exact .advance (.conflict draw.now hCall hRow)
    · rename_i hNone
      split at hStep
      · rename_i hWritable
        cases hStep
        exact .inserted draw hCall hWritable hNone
      · cases hStep
  · cases hStep

theorem keyRead_effect
    (hStep : keyRead table session = some next) :
    ClaimEffect name table session next := by
  unfold keyRead at hStep
  split at hStep
  · rename_i hCall
    split at hStep
    · cases hStep
    · rename_i hRow
      split at hStep
      · rename_i hEvaluation
        cases hStep
        exact .advance (.answer hCall hRow
          (.inl ⟨rfl, hEvaluation⟩))
      · rename_i hEvaluation
        cases hStep
        exact .advance (.answer hCall hRow
          (.inr (.inl ⟨rfl, hEvaluation⟩)))
      · rename_i hEvaluation
        cases hStep
        exact .advance (.answer hCall hRow
          (.inr (.inr ⟨rfl, hEvaluation⟩)))
      · rename_i hEvaluation
        cases hStep
        exact .advance (.abandoned hCall hRow hEvaluation)
  · cases hStep

theorem keyReclaim_effect
    (hStep : keyReclaim table session = some next) :
    ClaimEffect name table session next := by
  unfold keyReclaim at hStep
  split at hStep
  · rename_i hCall
    split at hStep
    · rename_i hWritable
      split at hStep
      · cases hStep
      · rename_i hCurrent
        split at hStep
        · rename_i hMatches
          cases hStep
          exact .reclaimed hCall hWritable hCurrent hMatches
        · cases hStep
          exact .advance (.restart hCall)
    · cases hStep
  · cases hStep

/- A write by identifier goes to the version it sees. -/
theorem keyWrite_eq_some
    {keyRowId : Uuid}
    {change : IdempotencyKey → IdempotencyKey}
    (hStep :
      keyWrite table session keyRowId change =
        some next) :
    (table.sessions session).betweenClaims = true ∧
      table.writable session = true ∧
      (next = table ∨
        ∃ row,
          table.current session = some row ∧
            next =
              { table with
                inFlight :=
                  some (session, change row) }) := by
  unfold keyWrite at hStep
  split at hStep
  · rename_i hFree
    rw [Bool.and_eq_true] at hFree
    refine ⟨hFree.1, hFree.2, ?_⟩
    split at hStep
    · cases hStep
      exact .inl rfl
    · rename_i row hCurrent
      split at hStep
      · cases hStep
        exact .inr ⟨row, hCurrent, rfl⟩
      · cases hStep
        exact .inl rfl
  · cases hStep

theorem keyWrite_effect
    {keyRowId : Uuid}
    {change : IdempotencyKey → IdempotencyKey}
    (hChange :
      ∀ row,
        (∃ paymentIntentId responseStatus responseBody
            refundId,
          change row =
            row.completed paymentIntentId responseStatus
              responseBody refundId) ∨
          change row = row.markedFailed)
    (hStep :
      keyWrite table session keyRowId change =
        some next) :
    KeyEffect name table next := by
  rcases keyWrite_eq_some hStep with
    ⟨hBetween, hWritable, rfl | ⟨row, hCurrent, rfl⟩⟩
  · exact .unchanged
  · exact .written hBetween hWritable hCurrent (hChange row)

theorem keyCommit_effect
    (hStep : keyCommit table session = some next) :
    KeyEffect name table next := by
  unfold keyCommit at hStep
  split at hStep
  · cases hStep
    exact .unchanged
  · rename_i writer row hInFlight
    split at hStep
    · rename_i hWriter
      subst hWriter
      cases hStep
      exact .committed hInFlight
    · cases hStep
      exact .unchanged

/- A writing session's version is the one in flight. -/
theorem writes_eq_true
    (hWrites : table.writes session = true) :
    ∃ row, table.inFlight = some (session, row) := by
  unfold KeyTable.writes at hWrites
  split at hWrites
  · cases hWrites
  · rename_i writer row hInFlight
    rw [decide_eq_true_iff] at hWrites
    subst hWrites
    exact ⟨row, hInFlight⟩

theorem keyRollback_effect
    (hStep : keyRollback table session = some next) :
    KeyEffect name table next := by
  unfold keyRollback at hStep
  split at hStep
  · rename_i hWrites
    rcases writes_eq_true hWrites with ⟨row, hInFlight⟩
    split at hStep
    · rename_i hCall
      cases hStep
      exact .withdrawn hInFlight hCall
    · rename_i hNotOpen
      cases hStep
      exact .rolledBack hInFlight hNotOpen
  · cases hStep
    exact .unchanged

/- Every enabled label has one of the listed effects. -/
theorem keyStep_effect
    {label : KeyLabel}
    (hStep : keyStep name table label = some next) :
    KeyEffect name table next := by
  cases label with
  | begin session fingerprint staleAfter =>
      exact .claiming (keyBegin_effect hStep)
  | insert session draw =>
      exact .claiming (keyInsert_effect hStep)
  | read session => exact .claiming (keyRead_effect hStep)
  | reclaim session =>
      exact .claiming (keyReclaim_effect hStep)
  | complete session keyRowId paymentIntentId
      responseStatus responseBody refundId =>
      apply keyWrite_effect _ hStep
      intro row
      exact .inl ⟨_, _, _, _, rfl⟩
  | fail session keyRowId =>
      apply keyWrite_effect _ hStep
      intro row
      exact .inr rfl
  | commit session => exact keyCommit_effect hStep
  | rollback session => exact keyRollback_effect hStep

end PayGuard

import PayGuard.Database.Models

/-
  The idempotency key claim and replay protocol.

  `claim_idempotency_key` is an insert raced against the
  unique constraint, then a read of the row that won, then
  a conditional update that takes an abandoned row over.
  The three statements are separate definitions, so that
  the statement-level protocol can interleave them and the
  services can run them back to back.

  Key definitions include:
    * `computeFingerprint`
    * `evaluateExisting`
    * `reclaimMatches`
    * `reclaimed`
    * `claimIdempotencyKey`
    * `completeIdempotencyKey`
    * `failIdempotencyKey`

  Key theorems include:
    * `reclaimMatches_self`
    * `claimIdempotencyKey_isSome`
-/

------------------------------------------------------------
-- Fingerprints
------------------------------------------------------------

namespace PayGuard

/- The bytes fed to the hash, in the order of the updates. -/
def fingerprintInput
    (method path : String)
    (body : List UInt8) : List UInt8 :=
  method.toUpper.toUTF8.data.toList ++ [10] ++
    path.toUTF8.data.toList ++ [10] ++ body

/- `sha256` stands for the hex digest of `hashlib`. -/
def computeFingerprint
    (sha256 : List UInt8 → String)
    (method path : String)
    (body : List UInt8) : String :=
  sha256 (fingerprintInput method path body)

------------------------------------------------------------
-- Statements Of The Claim
------------------------------------------------------------

/- Thirty seconds. -/
def defaultStaleAfter : Int := 30000000

/- The row the `INSERT` of a claim proposes. -/
def newKey
    (merchantId : Uuid)
    (idempotencyKey requestFingerprint : String)
    (draw : Draw) : IdempotencyKey where
  id := draw.key
  merchantId := merchantId
  idempotencyKey := idempotencyKey
  requestFingerprint := requestFingerprint
  status := .pending
  createdAt := draw.serverNow
  lockedAt := some draw.now

/- What a claim decides on the row it read. -/
inductive Evaluation where
| conflict
| replay
| inProgress
| reclaim
    (expectedStatus : KeyStatus)
    (expectedLockedAt : Option Timestamp)
deriving DecidableEq, Repr

/- The age of a `PENDING` row is counted from here. -/
def IdempotencyKey.lockTime
    (row : IdempotencyKey) : Timestamp :=
  row.lockedAt.getD row.createdAt

def evaluateExisting
    (existing : IdempotencyKey)
    (requestFingerprint : String)
    (now : Timestamp)
    (staleAfter : Int) : Evaluation :=
  if existing.requestFingerprint ≠ requestFingerprint then
    .conflict
  else
    match existing.status with
    | .completed => .replay
    | .failed => .reclaim .failed none
    | .pending =>
        if now - existing.lockTime < staleAfter then
          .inProgress
        else
          .reclaim .pending (some existing.lockTime)

/- The part of the clause added for a stale `PENDING` row. -/
def lockedAtMatches
    (row : IdempotencyKey)
    (expectedLockedAt : Option Timestamp)
    (current : IdempotencyKey) : Bool :=
  match expectedLockedAt with
  | none => true
  | some lockedAt =>
      if row.lockedAt.isSome then
        current.lockedAt = some lockedAt
      else
        current.lockedAt = none

/-
  The `WHERE` clause of `_reclaim`, evaluated on the row as
  it is once its lock is granted.  `row` is what the caller
  read earlier.
-/
def reclaimMatches
    (row : IdempotencyKey)
    (expectedStatus : KeyStatus)
    (expectedLockedAt : Option Timestamp)
    (current : IdempotencyKey) : Bool :=
  current.id = row.id &&
    current.status = expectedStatus &&
    lockedAtMatches row expectedLockedAt current

/- The values `_reclaim` sets; `refund_id` is kept. -/
def reclaimed
    (current : IdempotencyKey)
    (now : Timestamp) : IdempotencyKey :=
  { current with
    status := .pending
    lockedAt := some now
    paymentIntentId := none
    responseStatus := none
    responseBody := none }

------------------------------------------------------------
-- Claiming
------------------------------------------------------------

/-
  The outcome of a claim.  A claimed row is the version the
  claiming transaction holds and commits with its work.
-/
inductive Claim where
| claimed (keyRow : IdempotencyKey)
| replay (keyRow : IdempotencyKey)
| conflict (keyRow : IdempotencyKey)
| inProgress (keyRow : IdempotencyKey)
deriving DecidableEq, Repr

def Database.findKey
    (db : Database)
    (merchantId : Uuid)
    (idempotencyKey : String) : Option IdempotencyKey :=
  db.keys.find? (fun row =>
    row.merchantId = merchantId ∧
      row.idempotencyKey = idempotencyKey)

/-
  One claim whose statements run back to back.  `none` is
  the branch that starts over from scratch.
-/
def claimIdempotencyKey
    (db : Database)
    (merchantId : Uuid)
    (idempotencyKey requestFingerprint : String)
    (draw : Draw)
    (staleAfter : Int := defaultStaleAfter) :
    Option Claim :=
  match db.findKey merchantId idempotencyKey with
  | none =>
      some (.claimed
        (newKey merchantId idempotencyKey
          requestFingerprint draw))
  | some existing =>
      match evaluateExisting existing requestFingerprint
          draw.now staleAfter with
      | .conflict => some (.conflict existing)
      | .replay => some (.replay existing)
      | .inProgress => some (.inProgress existing)
      | .reclaim expectedStatus expectedLockedAt =>
          if reclaimMatches existing expectedStatus
              expectedLockedAt existing then
            some (.claimed (reclaimed existing draw.now))
          else
            none

/- A row matches the clause built from what was read of it. -/
theorem reclaimMatches_self
    {existing : IdempotencyKey}
    {requestFingerprint : String}
    {now : Timestamp}
    {staleAfter : Int}
    {expectedStatus : KeyStatus}
    {expectedLockedAt : Option Timestamp}
    (hEvaluation :
      evaluateExisting existing requestFingerprint now
          staleAfter =
        .reclaim expectedStatus expectedLockedAt) :
    reclaimMatches existing expectedStatus
      expectedLockedAt existing = true := by
  unfold evaluateExisting at hEvaluation
  split at hEvaluation
  · cases hEvaluation
  · cases hStatus : existing.status with
    | completed => simp [hStatus] at hEvaluation
    | failed =>
        simp only [hStatus, Evaluation.reclaim.injEq]
          at hEvaluation
        rcases hEvaluation with ⟨rfl, rfl⟩
        simp [reclaimMatches, lockedAtMatches, hStatus]
    | pending =>
        simp only [hStatus] at hEvaluation
        split at hEvaluation
        · cases hEvaluation
        · cases hEvaluation
          cases hLocked : existing.lockedAt with
          | none =>
              simp [reclaimMatches, lockedAtMatches,
                hStatus, hLocked]
          | some lockedAt =>
              simp [reclaimMatches, lockedAtMatches,
                hStatus, hLocked, IdempotencyKey.lockTime]

/- Run back to back, a claim never starts over. -/
theorem claimIdempotencyKey_isSome
    (db : Database)
    (merchantId : Uuid)
    (idempotencyKey requestFingerprint : String)
    (draw : Draw)
    (staleAfter : Int) :
    (claimIdempotencyKey db merchantId idempotencyKey
      requestFingerprint draw staleAfter).isSome := by
  unfold claimIdempotencyKey
  cases hFind : db.findKey merchantId idempotencyKey with
  | none => rfl
  | some existing =>
      cases hEvaluation :
          evaluateExisting existing requestFingerprint
            draw.now staleAfter with
      | conflict => simp [hEvaluation]
      | replay => simp [hEvaluation]
      | inProgress => simp [hEvaluation]
      | reclaim expectedStatus expectedLockedAt =>
          simp [hEvaluation,
            reclaimMatches_self hEvaluation]

------------------------------------------------------------
-- Writing Key Rows
------------------------------------------------------------

namespace Database

/- Commit the claimed version of a key row. -/
def putKey
    (db : Database)
    (keyRow : IdempotencyKey) : Database :=
  if keyRow.id ∈ db.keys.map (·.id) then
    { db with
      keys :=
        Table.updateWhere (fun row => row.id = keyRow.id)
          (fun _ => keyRow) db.keys }
  else
    { db with keys := db.keys ++ [keyRow] }

/- `session.get(IdempotencyKey, key_row_id)`. -/
def getKey
    (db : Database)
    (keyRowId : Uuid) : Option IdempotencyKey :=
  db.keys.find? (fun row => row.id = keyRowId)

end Database

/- The values a completion sets. -/
def IdempotencyKey.completed
    (row : IdempotencyKey)
    (paymentIntentId : Option Uuid)
    (responseStatus : Nat)
    (responseBody : ResponseBody)
    (refundId : Option Uuid) : IdempotencyKey :=
  { row with
    status := .completed
    paymentIntentId := paymentIntentId
    refundId := refundId
    responseStatus := some responseStatus
    responseBody := some responseBody }

/- The value a failure sets. -/
def IdempotencyKey.markedFailed
    (row : IdempotencyKey) : IdempotencyKey :=
  { row with status := .failed }

def completeIdempotencyKey
    (db : Database)
    (keyRowId : Uuid)
    (paymentIntentId : Option Uuid)
    (responseStatus : Nat)
    (responseBody : ResponseBody)
    (refundId : Option Uuid := none) : Database :=
  { db with
    keys :=
      Table.updateWhere (fun row => row.id = keyRowId)
        (fun row =>
          row.completed paymentIntentId responseStatus
            responseBody refundId)
        db.keys }

def failIdempotencyKey
    (db : Database)
    (keyRowId : Uuid) : Database :=
  { db with
    keys :=
      Table.updateWhere (fun row => row.id = keyRowId)
        IdempotencyKey.markedFailed db.keys }

end PayGuard

import PayGuard.Idempotency.Finality
import Mathlib.Data.List.Induction

/-
  The recursion of a claim is driven by progress of others.

  The clause of the reclaiming update names the state of the
  row the call has read, so an update that misses the row
  has been overtaken by a commit.  Each recursive call uses
  up one such commit, and between two of them a call runs at
  most three statements.

  Key definitions include:
    * `Session.outcome`
    * `recursions`
    * `changes`
    * `RecursesOnProgress`
    * `BoundedByChanges`

  Key theorems include:
    * `keyStep_moves`
    * `overtaken_claim_step`
    * `statementsLeft_step`
    * `claim_recursion_needs_progress`
-/

------------------------------------------------------------
-- Calls And What They Return
------------------------------------------------------------

namespace PayGuard

/- The four outcomes of a claim. -/
inductive ClaimOutcome where
| claimed
| replay
| conflict
| inProgress
deriving DecidableEq, Repr

def Claim.outcome : Claim → ClaimOutcome
| .claimed _ => .claimed
| .replay _ => .replay
| .conflict _ => .conflict
| .inProgress _ => .inProgress

/- Nothing as long as the call has not returned. -/
def Session.outcome : Session → Option ClaimOutcome
| .opened _ _ => some .claimed
| .held _ _ => some .claimed
| .withdrawn _ => some .claimed
| .answered answer => some answer.outcome
| _ => none

def Session.isCalling : Session → Bool
| .calling _ _ => true
| _ => false

/- The statements a call is made of. -/
def KeyLabel.statementOf
    (session : SessionId) : KeyLabel → Bool
| .insert other _ => other = session
| .read other => other = session
| .reclaim other => other = session
| _ => false

def statements
    (session : SessionId)
    (_ : KeyTable)
    (label : KeyLabel)
    (_ : KeyTable) : Nat :=
  if label.statementOf session then 1 else 0

/- A reclaim that missed the row and starts over. -/
def recursions
    (session : SessionId) :
    KeyTable → KeyLabel → KeyTable → Nat
| _, .reclaim other, next =>
    if other = session ∧
        (next.sessions session).isCalling then
      1
    else
      0
| _, _, _ => 0

/- What others commit to the row while the call is on. -/
def changes
    (session : SessionId) :
    KeyTable → KeyLabel → KeyTable → Nat
| table, .commit other, next =>
    if other ≠ session ∧
        (table.sessions session).betweenClaims = false ∧
          next.committed ≠ table.committed then
      1
    else
      0
| _, _, _ => 0

/-
  Every recursive call follows a change of the row that
  another transaction has committed between the `SELECT` and
  the `UPDATE` of the call.
-/
def RecursesOnProgress
    (name : KeyName)
    (start : KeyTable)
    (session : SessionId)
    (labels : List KeyLabel) : Prop :=
  ∀ before after table next,
    labels = before ++ .reclaim session :: after →
      Lts.exec (keyStep name) start before = some table →
        keyStep name table (.reclaim session) = some next →
          (next.sessions session).isCalling →
            ∃ early between seen read,
              before = early ++ .read session :: between ∧
                Lts.exec (keyStep name) start early =
                  some seen ∧
                keyStep name seen (.read session) =
                  some read ∧
                (∀ label ∈ between,
                  label.statementOf session = false) ∧
                0 < Lts.total (keyStep name)
                  (changes session) read between

/-
  A call during which others commit `k` changes is recursive
  at most `k` times.  It has returned after `3 * (k + 1)`
  statements, and before that its next statement can run,
  unless another transaction has the row in flight.
-/
structure BoundedByChanges
    (name : KeyName)
    (start : KeyTable)
    (session : SessionId)
    (labels : List KeyLabel)
    (table : KeyTable) : Prop where
  recurses :
    ∀ k,
      Lts.total (keyStep name) (changes session) start
          labels ≤ k →
        Lts.total (keyStep name) (recursions session) start
          labels ≤ k
  returns :
    ∀ k,
      Lts.total (keyStep name) (changes session) start
          labels ≤ k →
        3 * (k + 1) ≤
            Lts.total (keyStep name) (statements session)
              start labels →
          ∃ outcome,
            (table.sessions session).outcome = some outcome
  proceeds :
    (table.sessions session).betweenClaims = false →
      (∃ label,
        label.statementOf session = true ∧
          (keyStep name table label).isSome) ∨
        ∃ other row,
          other ≠ session ∧
            table.inFlight = some (other, row)

end PayGuard

------------------------------------------------------------
-- Positions
------------------------------------------------------------

namespace PayGuard

/- How a position changes other than by a statement. -/
inductive Session.Moves : Session → Session → Prop where
| stays
    (position : Session) :
    Session.Moves position position
| begins
    (fingerprint : String)
    (staleAfter : Int) :
    Session.Moves .idle (.calling fingerprint staleAfter)
| commits
    (position : Session) :
    Session.Moves position position.commit
| rollsBack
    (call : ClaimCall)
    (keyRowId : Uuid) :
    Session.Moves (.opened call keyRowId)
      (.withdrawn keyRowId)

variable {name : KeyName}
variable {table next : KeyTable}
variable {session other : SessionId}
variable {label : KeyLabel}

/- A statement of a claim moves only its own session. -/
theorem ClaimEffect.sessions_other
    (hClaim : ClaimEffect name table session next)
    (hOther : other ≠ session) :
    next.sessions other = table.sessions other := by
  cases hClaim with
  | advance hAdvance =>
      exact Function.update_of_ne hOther _ _
  | inserted draw hCall hWritable hNone =>
      exact Function.update_of_ne hOther _ _
  | reclaimed hCall hWritable hCurrent hMatches =>
      exact Function.update_of_ne hOther _ _

theorem ClaimEffect.committed_eq
    (hClaim : ClaimEffect name table session next) :
    next.committed = table.committed := by
  cases hClaim <;> rfl

theorem keyBegin_moves
    (session : SessionId)
    {fingerprint : String}
    {staleAfter : Int}
    (hStep :
      keyBegin table other fingerprint staleAfter =
        some next) :
    Session.Moves (table.sessions session)
        (next.sessions session) ∧
      next.committed = table.committed := by
  unfold keyBegin at hStep
  split at hStep
  · rename_i hIdle
    split at hStep
    · cases hStep
    · cases hStep
      refine ⟨?_, rfl⟩
      by_cases hSame : session = other
      · subst hSame
        simp only [KeyTable.become, Function.update_self,
          hIdle]
        exact .begins fingerprint staleAfter
      · simp only [KeyTable.become,
          Function.update_of_ne hSame]
        exact .stays _
  · cases hStep

theorem keyWrite_moves
    (session : SessionId)
    {keyRowId : Uuid}
    {change : IdempotencyKey → IdempotencyKey}
    (hStep :
      keyWrite table other keyRowId change = some next) :
    Session.Moves (table.sessions session)
        (next.sessions session) ∧
      next.committed = table.committed := by
  rcases keyWrite_eq_some hStep with
    ⟨-, -, rfl | ⟨row, -, rfl⟩⟩
  · exact ⟨.stays _, rfl⟩
  · exact ⟨.stays _, rfl⟩

theorem keyCommit_moves
    (session : SessionId)
    (hStep : keyCommit table other = some next) :
    Session.Moves (table.sessions session)
        (next.sessions session) ∧
      (next.committed = table.committed ∨
        table.writes other = true) := by
  unfold keyCommit at hStep
  split at hStep
  · cases hStep
    exact ⟨.stays _, .inl rfl⟩
  · rename_i writer row hInFlight
    split at hStep
    · rename_i hWriter
      cases hStep
      refine ⟨?_,
        .inr ((writes_of_inFlight hInFlight).mpr hWriter)⟩
      by_cases hSame : session = other
      · subst hSame
        simp only [Function.update_self]
        exact .commits _
      · simp only [Function.update_of_ne hSame]
        exact .stays _
    · cases hStep
      exact ⟨.stays _, .inl rfl⟩

theorem keyRollback_moves
    (session : SessionId)
    (hStep : keyRollback table other = some next) :
    Session.Moves (table.sessions session)
        (next.sessions session) ∧
      next.committed = table.committed := by
  unfold keyRollback at hStep
  split at hStep
  · split at hStep
    · rename_i hCall
      cases hStep
      refine ⟨?_, rfl⟩
      by_cases hSame : session = other
      · subst hSame
        simp only [Function.update_self, hCall]
        exact .rollsBack _ _
      · simp only [Function.update_of_ne hSame]
        exact .stays _
    · cases hStep
      exact ⟨.stays _, rfl⟩
  · cases hStep
    exact ⟨.stays _, rfl⟩

/-
  A step that is no statement of the call leaves its session
  in place, starts it or ends its transaction.
-/
theorem keyStep_moves
    (hLabel : label.statementOf session = false)
    (hStep : keyStep name table label = some next) :
    Session.Moves (table.sessions session)
      (next.sessions session) := by
  have hStays :
      ∀ other,
        session ≠ other →
          ClaimEffect name table other next →
            Session.Moves (table.sessions session)
              (next.sessions session) := by
    intro other hOther hClaim
    rw [hClaim.sessions_other hOther]
    exact .stays _
  cases label with
  | begin other fingerprint staleAfter =>
      exact (keyBegin_moves session hStep).1
  | insert other draw =>
      exact hStays other
        (Ne.symm (of_decide_eq_false hLabel))
        (keyInsert_effect hStep)
  | read other =>
      exact hStays other
        (Ne.symm (of_decide_eq_false hLabel))
        (keyRead_effect hStep)
  | reclaim other =>
      exact hStays other
        (Ne.symm (of_decide_eq_false hLabel))
        (keyReclaim_effect hStep)
  | complete other keyRowId paymentIntentId responseStatus
      responseBody refundId =>
      exact (keyWrite_moves session hStep).1
  | fail other keyRowId => exact (keyWrite_moves session hStep).1
  | commit other => exact (keyCommit_moves session hStep).1
  | rollback other => exact (keyRollback_moves session hStep).1

/- Only the commit of another session changes the row. -/
theorem committed_of_no_changes
    (hConsistent : KeyConsistent table)
    (hClaiming :
      (table.sessions session).betweenClaims = false)
    (hStep : keyStep name table label = some next)
    (hNone : changes session table label next = 0) :
    next.committed = table.committed := by
  cases label with
  | begin other fingerprint staleAfter =>
      exact (keyBegin_moves session hStep).2
  | insert other draw =>
      exact (keyInsert_effect hStep).committed_eq
  | read other =>
      have hClaim : ClaimEffect name table other next :=
        keyRead_effect hStep
      exact hClaim.committed_eq
  | reclaim other =>
      have hClaim : ClaimEffect name table other next :=
        keyReclaim_effect hStep
      exact hClaim.committed_eq
  | complete other keyRowId paymentIntentId responseStatus
      responseBody refundId =>
      exact (keyWrite_moves session hStep).2
  | fail other keyRowId =>
      exact (keyWrite_moves session hStep).2
  | commit other =>
      rcases (keyCommit_moves session hStep).2
        with hSame | hWrites
      · exact hSame
      · by_contra hChanged
        have hOther : other ≠ session := by
          rintro rfl
          rw [hConsistent.claiming _ hClaiming] at hWrites
          cases hWrites
        simp [changes, hOther, hClaiming, hChanged]
          at hNone
  | rollback other =>
      exact (keyRollback_moves session hStep).2

end PayGuard

------------------------------------------------------------
-- Statements
------------------------------------------------------------

namespace PayGuard

variable {name : KeyName}
variable {table next : KeyTable}
variable {session : SessionId}
variable {label : KeyLabel}

/- Where each statement takes its own session. -/
theorem keyInsert_position
    {draw : Draw}
    (hStep :
      keyInsert name table session draw = some next) :
    (∃ fingerprint staleAfter,
        table.sessions session =
          .calling fingerprint staleAfter) ∧
      ((∃ call, next.sessions session = .reading call) ∨
        ∃ call keyRowId,
          next.sessions session = .opened call keyRowId) := by
  unfold keyInsert at hStep
  split at hStep
  · rename_i fingerprint staleAfter hCall
    refine ⟨⟨fingerprint, staleAfter, hCall⟩, ?_⟩
    split at hStep
    · cases hStep
      exact .inl ⟨_, Function.update_self _ _ _⟩
    · split at hStep
      · cases hStep
        exact .inr ⟨_, _, Function.update_self _ _ _⟩
      · cases hStep
  · cases hStep

theorem keyRead_position
    (hStep : keyRead table session = some next) :
    (∃ call, table.sessions session = .reading call) ∧
      ((∃ answer,
          next.sessions session = .answered answer) ∨
        ∃ call row expectedStatus expectedLockedAt,
          next.sessions session =
              .reclaiming call row expectedStatus
                expectedLockedAt ∧
            table.current session = some row) := by
  unfold keyRead at hStep
  split at hStep
  · rename_i call hCall
    refine ⟨⟨call, hCall⟩, ?_⟩
    split at hStep
    · cases hStep
    · rename_i row hRow
      split at hStep
      · cases hStep
        exact .inl ⟨_, Function.update_self _ _ _⟩
      · cases hStep
        exact .inl ⟨_, Function.update_self _ _ _⟩
      · cases hStep
        exact .inl ⟨_, Function.update_self _ _ _⟩
      · cases hStep
        exact .inr ⟨_, _, _, _, Function.update_self _ _ _,
          hRow⟩
  · cases hStep

theorem keyReclaim_position
    (hStep : keyReclaim table session = some next) :
    ∃ call row expectedStatus expectedLockedAt current,
      table.sessions session =
          .reclaiming call row expectedStatus
            expectedLockedAt ∧
        table.current session = some current ∧
          ((∃ keyRowId,
              next.sessions session =
                .opened call keyRowId) ∨
            (next.sessions session =
                .calling call.fingerprint call.staleAfter ∧
              reclaimMatches row expectedStatus
                expectedLockedAt current = false)) := by
  unfold keyReclaim at hStep
  split at hStep
  · rename_i call row expectedStatus expectedLockedAt hCall
    split at hStep
    · split at hStep
      · cases hStep
      · rename_i current hCurrent
        refine ⟨call, row, expectedStatus, expectedLockedAt,
          current, hCall, hCurrent, ?_⟩
        split at hStep
        · cases hStep
          exact .inl ⟨_, Function.update_self _ _ _⟩
        · rename_i hMisses
          cases hStep
          exact .inr ⟨Function.update_self _ _ _,
            by simpa using hMisses⟩
    · cases hStep
  · cases hStep

------------------------------------------------------------
-- Overtaken Calls
------------------------------------------------------------

/- The row the call has read is no longer the row stored. -/
def KeyTable.overtaken
    (table : KeyTable)
    (session : SessionId) : Nat :=
  match table.sessions session with
  | .reclaiming _ row _ _ =>
      if table.committed = some row then 0 else 1
  | _ => 0

theorem overtaken_le_one
    (table : KeyTable)
    (session : SessionId) :
    table.overtaken session ≤ 1 := by
  unfold KeyTable.overtaken
  split
  · split
    · exact Nat.zero_le _
    · exact Nat.le_refl _
  · exact Nat.zero_le _

/- Only a call about to reclaim can have been overtaken. -/
theorem overtaken_of_position
    {position : Session}
    (hPosition : table.sessions session = position)
    (hReclaiming :
      ∀ call row expectedStatus expectedLockedAt,
        position ≠
          .reclaiming call row expectedStatus
            expectedLockedAt) :
    table.overtaken session = 0 := by
  unfold KeyTable.overtaken
  rw [hPosition]
  split
  · exact absurd rfl (hReclaiming _ _ _ _)
  · rfl

/- A quiet row leaves the call where it was. -/
theorem overtaken_congr
    (hPosition :
      next.sessions session = table.sessions session)
    (hCommitted : next.committed = table.committed) :
    next.overtaken session = table.overtaken session := by
  unfold KeyTable.overtaken
  rw [hPosition, hCommitted]

/- An update that misses the row has been overtaken. -/
theorem overtaken_of_restart
    (hConsistent : KeyConsistent table)
    (hStep : keyReclaim table session = some next)
    (hCalling : (next.sessions session).isCalling = true) :
    table.overtaken session = 1 := by
  rcases keyReclaim_position hStep with
    ⟨call, row, expectedStatus, expectedLockedAt, current,
      hCall, hCurrent, ⟨keyRowId, hOpened⟩ | ⟨_, hMisses⟩⟩
  · rw [hOpened] at hCalling
    cases hCalling
  · rw [current_of_not_writes
      (hConsistent.not_writes_of_reclaiming hCall)]
      at hCurrent
    unfold KeyTable.overtaken
    rw [hCall]
    apply if_neg
    intro hSame
    rw [hSame] at hCurrent
    cases hCurrent
    rw [reclaimMatches_self
      (hConsistent.abandoned _ _ _ _ _ hCall).1] at hMisses
    cases hMisses

/- A call that has just read the row is not overtaken. -/
theorem overtaken_of_read
    (hConsistent : KeyConsistent table)
    (hStep : keyStep name table (.read session) = some next) :
    next.overtaken session = 0 := by
  rcases keyRead_position hStep with
    ⟨⟨call, hCall⟩, ⟨answer, hNext⟩ |
      ⟨claim, row, expectedStatus, expectedLockedAt, hNext,
        hRow⟩⟩
  · exact overtaken_of_position hNext (by simp)
  · have hClaim : ClaimEffect name table session next :=
      keyRead_effect hStep
    rw [current_of_not_writes
      (hConsistent.not_writes_of_reading hCall)] at hRow
    unfold KeyTable.overtaken
    rw [hNext]
    exact if_pos (hClaim.committed_eq.trans hRow)

/- Between statements, a call is overtaken by changes. -/
theorem overtaken_of_moves
    (hConsistent : KeyConsistent table)
    (hLabel : label.statementOf session = false)
    (hStep : keyStep name table label = some next) :
    next.overtaken session ≤
      changes session table label next +
        table.overtaken session := by
  have hMoves := keyStep_moves hLabel hStep
  have hAtMost := overtaken_le_one next session
  by_cases hQuiet : changes session table label next = 0
  · cases hPosition : table.sessions session with
    | reclaiming call row expectedStatus expectedLockedAt =>
        rw [hPosition] at hMoves
        have hClaiming :
            (table.sessions session).betweenClaims =
              false := by
          rw [hPosition]
          rfl
        have hCommitted :=
          committed_of_no_changes hConsistent hClaiming hStep
            hQuiet
        have hStays :
            next.sessions session =
              table.sessions session := by
          rw [hPosition]
          generalize next.sessions session = position
            at hMoves
          cases hMoves <;> rfl
        have hSame := overtaken_congr hStays hCommitted
        omega
    | _ =>
        have hFree : next.overtaken session = 0 := by
          rw [hPosition] at hMoves
          generalize hNext : next.sessions session = position
            at hMoves
          refine overtaken_of_position hNext ?_
          cases hMoves <;> simp [Session.commit]
        omega
  · omega

/- A recursion is paid for by a change of the row. -/
theorem overtaken_claim_step
    (hConsistent : KeyConsistent table)
    (hStep : keyStep name table label = some next) :
    recursions session table label next +
        next.overtaken session ≤
      changes session table label next +
        table.overtaken session := by
  cases hLabel : label.statementOf session with
  | false =>
      have hNone :
          recursions session table label next = 0 := by
        cases label with
        | reclaim other =>
            have hOther : other ≠ session :=
              of_decide_eq_false hLabel
            simp [recursions, hOther]
        | _ => rfl
      rw [hNone, Nat.zero_add]
      exact overtaken_of_moves hConsistent hLabel hStep
  | true =>
      cases label with
      | insert other draw =>
          obtain rfl : other = session :=
            of_decide_eq_true hLabel
          have hFree : next.overtaken other = 0 := by
            rcases (keyInsert_position hStep).2 with
              ⟨call, hNext⟩ | ⟨call, keyRowId, hNext⟩
            · exact overtaken_of_position hNext (by simp)
            · exact overtaken_of_position hNext (by simp)
          simp [recursions, hFree]
      | read other =>
          obtain rfl : other = session :=
            of_decide_eq_true hLabel
          simp [recursions, overtaken_of_read hConsistent hStep]
      | reclaim other =>
          obtain rfl : other = session :=
            of_decide_eq_true hLabel
          have hFree : next.overtaken other = 0 := by
            rcases keyReclaim_position hStep with
              ⟨_, _, _, _, _, _, _, ⟨keyRowId, hNext⟩ |
                ⟨hNext, _⟩⟩
            · exact overtaken_of_position hNext (by simp)
            · exact overtaken_of_position hNext (by simp)
          by_cases hCalling :
              (next.sessions other).isCalling = true
          · have hPaid :=
              overtaken_of_restart hConsistent hStep hCalling
            simp [recursions, hCalling, hFree, hPaid]
          · simp [recursions, hCalling, hFree]
      | _ => cases hLabel

end PayGuard

------------------------------------------------------------
-- Statements Left
------------------------------------------------------------

namespace PayGuard

/- The statements left of a call that does not start over. -/
def Session.statementsLeft : Session → Nat
| .idle => 3
| .calling _ _ => 3
| .reading _ => 2
| .reclaiming _ _ _ _ => 1
| _ => 0

variable {name : KeyName}
variable {table next : KeyTable}
variable {session : SessionId}
variable {label : KeyLabel}

theorem Session.Moves.statementsLeft_le
    {position position' : Session}
    (hMoves : Session.Moves position position') :
    position'.statementsLeft ≤ position.statementsLeft := by
  cases hMoves with
  | stays => exact Nat.le_refl _
  | begins fingerprint staleAfter => exact Nat.le_refl _
  | commits =>
      cases position <;> exact Nat.le_refl _
  | rollsBack call keyRowId => exact Nat.le_refl _

/- A call with no statement left has returned. -/
theorem Session.outcome_of_statementsLeft
    (position : Session)
    (hLeft : position.statementsLeft = 0) :
    ∃ outcome, position.outcome = some outcome := by
  cases position with
  | opened => exact ⟨_, rfl⟩
  | held => exact ⟨_, rfl⟩
  | withdrawn => exact ⟨_, rfl⟩
  | answered => exact ⟨_, rfl⟩
  | _ => cases hLeft

/- A call is about to reclaim because of its own read. -/
theorem Session.Moves.of_reclaiming
    {position position' : Session}
    {call : ClaimCall}
    {row : IdempotencyKey}
    {expectedStatus : KeyStatus}
    {expectedLockedAt : Option Timestamp}
    (hMoves : Session.Moves position position')
    (hReclaiming :
      position' =
        .reclaiming call row expectedStatus
          expectedLockedAt) :
    position =
      .reclaiming call row expectedStatus
        expectedLockedAt := by
  cases hMoves with
  | stays => exact hReclaiming
  | begins fingerprint staleAfter => cases hReclaiming
  | commits =>
      cases position with
      | opened => cases hReclaiming
      | _ => exact hReclaiming
  | rollsBack => cases hReclaiming

/- Three statements are paid for by one recursion. -/
theorem statementsLeft_step
    (hStep : keyStep name table label = some next) :
    statements session table label next +
        (next.sessions session).statementsLeft ≤
      3 * recursions session table label next +
        (table.sessions session).statementsLeft := by
  cases hLabel : label.statementOf session with
  | false =>
      have hFewer :=
        (keyStep_moves hLabel hStep).statementsLeft_le
      have hNone : statements session table label next = 0 :=
        if_neg (by rw [hLabel]; exact Bool.false_ne_true)
      omega
  | true =>
      have hOne : statements session table label next = 1 :=
        if_pos hLabel
      rw [hOne]
      cases label with
      | insert other draw =>
          obtain rfl : other = session :=
            of_decide_eq_true hLabel
          rcases keyInsert_position hStep with
            ⟨⟨fingerprint, staleAfter, hCall⟩,
              ⟨call, hNext⟩ | ⟨call, keyRowId, hNext⟩⟩
          · simp [hCall, hNext, Session.statementsLeft]
          · simp [hCall, hNext, Session.statementsLeft]
      | read other =>
          obtain rfl : other = session :=
            of_decide_eq_true hLabel
          rcases keyRead_position hStep with
            ⟨⟨call, hCall⟩, ⟨answer, hNext⟩ |
              ⟨_, _, _, _, hNext, _⟩⟩
          · simp [hCall, hNext, Session.statementsLeft]
          · simp [hCall, hNext, Session.statementsLeft]
      | reclaim other =>
          obtain rfl : other = session :=
            of_decide_eq_true hLabel
          rcases keyReclaim_position hStep with
            ⟨call, row, expectedStatus, expectedLockedAt, _,
              hCall, _, ⟨keyRowId, hNext⟩ | ⟨hNext, _⟩⟩
          · simp [hCall, hNext, Session.statementsLeft]
          · simp [hCall, hNext, Session.statementsLeft,
              recursions, Session.isCalling]
      | _ => cases hLabel

/- A call that is on runs on or waits for the row lock. -/
theorem KeyConsistent.proceeds
    (hConsistent : KeyConsistent table)
    (name : KeyName)
    (hClaiming :
      (table.sessions session).betweenClaims = false) :
    (∃ label,
      label.statementOf session = true ∧
        (keyStep name table label).isSome) ∨
      ∃ other row,
        other ≠ session ∧
          table.inFlight = some (other, row) := by
  have hFresh := hConsistent.claiming session hClaiming
  cases hInFlight : table.inFlight with
  | some version =>
      rcases version with ⟨writer, row⟩
      exact .inr ⟨writer, row,
        ne_of_not_writes hInFlight hFresh, rfl⟩
  | none =>
      have hWritable : table.writable session = true := by
        unfold KeyTable.writable
        rw [hInFlight]
      have hCurrent := current_of_not_writes hFresh
      left
      cases hPosition : table.sessions session with
      | calling fingerprint staleAfter =>
          refine ⟨.insert session { now := 0 },
            decide_eq_true rfl, ?_⟩
          simp only [keyStep, keyInsert, hPosition]
          split
          · rfl
          · rw [if_pos hWritable]
            rfl
      | reading call =>
          refine ⟨.read session, decide_eq_true rfl, ?_⟩
          rcases Option.ne_none_iff_exists'.mp
            (hConsistent.reading session call hPosition)
            with ⟨stored, hStored⟩
          simp only [keyStep, keyRead, hPosition, hCurrent,
            hStored]
          split <;> rfl
      | reclaiming call row expectedStatus
          expectedLockedAt =>
          refine ⟨.reclaim session, decide_eq_true rfl, ?_⟩
          rcases (hConsistent.abandoned _ _ _ _ _
            hPosition).2 with ⟨stored, hStored, -⟩
          simp only [keyStep, keyReclaim, hPosition,
            if_pos hWritable, hCurrent, hStored]
          split <;> rfl
      | _ =>
          rw [hPosition] at hClaiming
          cases hClaiming

end PayGuard

------------------------------------------------------------
-- Every Run
------------------------------------------------------------

namespace PayGuard

variable {name : KeyName}
variable {start table : KeyTable}
variable {session : SessionId}
variable {labels : List KeyLabel}

theorem keyConsistent_step
    (state : KeyTable)
    (label : KeyLabel)
    (next : KeyTable)
    (hConsistent : KeyConsistent state)
    (hStep : keyStep name state label = some next) :
    KeyConsistent next :=
  keyConsistent_effect hConsistent (keyStep_effect hStep)

/- Recursions of a run are paid for by its changes. -/
theorem recursions_le_changes
    (session : SessionId)
    (hConsistent : KeyConsistent start)
    (hRun :
      Lts.exec (keyStep name) start labels = some table) :
    Lts.total (keyStep name) (recursions session) start
          labels +
        table.overtaken session ≤
      Lts.total (keyStep name) (changes session) start
          labels +
        start.overtaken session :=
  Lts.total_add_le_total (changes session)
    (fun state => state.overtaken session)
    keyConsistent_step
    (fun _ _ _ hState hStep => overtaken_claim_step hState hStep)
    hConsistent hRun

/- Statements of a run are paid for by its recursions. -/
theorem statements_le_recursions
    (session : SessionId)
    (hRun :
      Lts.exec (keyStep name) start labels = some table) :
    Lts.total (keyStep name) (statements session) start
          labels +
        (table.sessions session).statementsLeft ≤
      3 * Lts.total (keyStep name) (recursions session)
          start labels +
        (start.sessions session).statementsLeft := by
  rw [← Lts.total_mul]
  exact Lts.total_add_le_total
    (fun state label next =>
      3 * recursions session state label next)
    (fun state => (state.sessions session).statementsLeft)
    (fun _ _ _ _ _ => trivial)
    (fun _ _ _ _ hStep => statementsLeft_step hStep)
    trivial hRun

/- A call about to reclaim has read the row before. -/
theorem read_before_reclaim
    {call : ClaimCall}
    {row : IdempotencyKey}
    {expectedStatus : KeyStatus}
    {expectedLockedAt : Option Timestamp}
    (hIdle : start.sessions session = .idle)
    (hRun :
      Lts.exec (keyStep name) start labels = some table)
    (hPosition :
      table.sessions session =
        .reclaiming call row expectedStatus
          expectedLockedAt) :
    ∃ early between seen read,
      labels = early ++ .read session :: between ∧
        Lts.exec (keyStep name) start early = some seen ∧
        keyStep name seen (.read session) = some read ∧
        Lts.exec (keyStep name) read between =
          some table ∧
        ∀ label ∈ between,
          label.statementOf session = false := by
  induction labels using List.reverseRecOn generalizing
      table with
  | nil =>
      cases hRun
      rw [hIdle] at hPosition
      cases hPosition
  | append_singleton labels label ih =>
      rcases Lts.exec_append_eq_some.mp hRun with
        ⟨before, hBefore, hLast⟩
      rcases Lts.exec_cons_eq_some.mp hLast with
        ⟨next, hStep, hNext⟩
      cases hNext
      cases hLabel : label.statementOf session with
      | false =>
          have hEarlier :=
            (keyStep_moves hLabel hStep).of_reclaiming
              hPosition
          rcases ih hBefore hEarlier with
            ⟨early, between, seen, read, hSplit, hEarly,
              hRead, hBetween, hNone⟩
          refine ⟨early, between ++ [label], seen, read, ?_,
            hEarly, hRead, ?_, ?_⟩
          · rw [hSplit, List.append_assoc, List.cons_append]
          · exact Lts.exec_append_eq_some.mpr
              ⟨before, hBetween, hLast⟩
          · intro other hOther
            rcases List.mem_append.mp hOther with
              hOther | hOther
            · exact hNone other hOther
            · rw [List.mem_singleton.mp hOther]
              exact hLabel
      | true =>
          cases label with
          | insert other draw =>
              obtain rfl : other = session :=
                of_decide_eq_true hLabel
              rcases (keyInsert_position hStep).2 with
                ⟨_, hNext⟩ | ⟨_, _, hNext⟩
              · rw [hNext] at hPosition
                cases hPosition
              · rw [hNext] at hPosition
                cases hPosition
          | read other =>
              obtain rfl : other = session :=
                of_decide_eq_true hLabel
              exact ⟨labels, [], before, _, rfl, hBefore,
                hStep, rfl, by simp⟩
          | reclaim other =>
              obtain rfl : other = session :=
                of_decide_eq_true hLabel
              rcases keyReclaim_position hStep with
                ⟨_, _, _, _, _, _, _, ⟨_, hNext⟩ |
                  ⟨hNext, _⟩⟩
              · rw [hNext] at hPosition
                cases hPosition
              · rw [hNext] at hPosition
                cases hPosition
          | _ => cases hLabel

theorem keyConsistent_of_exec
    (hConsistent : KeyConsistent start)
    (hRun :
      Lts.exec (keyStep name) start labels = some table) :
    KeyConsistent table :=
  Lts.invariant_of_exec keyConsistent_step hConsistent hRun

theorem recurses_on_progress
    (hConsistent : KeyConsistent start)
    (hIdle : start.sessions session = .idle) :
    RecursesOnProgress name start session labels := by
  intro before after table next _ hBefore hStep hCalling
  rcases keyReclaim_position hStep with
    ⟨call, row, expectedStatus, expectedLockedAt, _,
      hPosition, _⟩
  rcases read_before_reclaim hIdle hBefore hPosition with
    ⟨early, between, seen, read, hSplit, hEarly, hRead,
      hBetween, hNone⟩
  refine ⟨early, between, seen, read, hSplit, hEarly, hRead,
    hNone, ?_⟩
  have hSeen := keyConsistent_of_exec hConsistent hEarly
  have hAfter := keyConsistent_step _ _ _ hSeen hRead
  have hPaid :
      table.overtaken session = 1 :=
    overtaken_of_restart
      (keyConsistent_of_exec hConsistent hBefore) hStep
      hCalling
  have hFresh := overtaken_of_read hSeen hRead
  have hTotal :=
    recursions_le_changes session hAfter hBetween
  omega

/-
  In every run from any stored row, each recursive call of a
  claim follows a change that another transaction committed
  after the call had read the row, and the call is bounded
  by those changes.
-/
theorem claim_recursion_needs_progress
    (name : KeyName)
    (stored : Option IdempotencyKey)
    (session : SessionId)
    (labels : List KeyLabel)
    (table : KeyTable)
    (hRun :
      Lts.exec (keyStep name) (KeyTable.start stored)
        labels = some table) :
    RecursesOnProgress name (KeyTable.start stored) session
        labels ∧
      BoundedByChanges name (KeyTable.start stored) session
        labels table := by
  have hStart := keyConsistent_start stored
  have hConsistent := keyConsistent_of_exec hStart hRun
  have hRecursions :
      Lts.total (keyStep name) (recursions session)
          (KeyTable.start stored) labels ≤
        Lts.total (keyStep name) (changes session)
          (KeyTable.start stored) labels :=
    Nat.le_trans (Nat.le_add_right _ _)
      (recursions_le_changes session hStart hRun)
  have hStatements :=
    statements_le_recursions session hRun
  refine ⟨recurses_on_progress hStart rfl, ?_⟩
  exact
    { recurses := fun k hChanges =>
        Nat.le_trans hRecursions hChanges
      returns := by
        intro k hChanges hMany
        have hLeft :
            (table.sessions session).statementsLeft = 0 := by
          have hThree :
              ((KeyTable.start stored).sessions
                session).statementsLeft = 3 := rfl
          omega
        exact Session.outcome_of_statementsLeft _ hLeft
      proceeds := hConsistent.proceeds name }

/- A call is overtaken once and then finds it in progress. -/
def overtakenClaimRun : List KeyLabel :=
  [.begin 0 "print" 30, .insert 0 { now := 0, key := 7 },
    .commit 0, .begin 1 "print" 30,
    .insert 1 { now := 30, key := 8 }, .read 1,
    .begin 2 "print" 30,
    .insert 2 { now := 31, key := 9 }, .read 2,
    .reclaim 2, .commit 2, .reclaim 1,
    .insert 1 { now := 32, key := 10 }, .read 1]

theorem claim_recursion_needs_progress_overtaken :
    ∃ table,
      Lts.exec (keyStep ⟨1, "key"⟩) (KeyTable.start none)
          overtakenClaimRun = some table ∧
        Lts.total (keyStep ⟨1, "key"⟩) (recursions 1)
          (KeyTable.start none) overtakenClaimRun = 1 ∧
        (table.sessions 1).outcome = some .inProgress ∧
        RecursesOnProgress ⟨1, "key"⟩ (KeyTable.start none)
          1 overtakenClaimRun ∧
        BoundedByChanges ⟨1, "key"⟩ (KeyTable.start none) 1
          overtakenClaimRun table := by
  have hRun :
      (Lts.exec (keyStep ⟨1, "key"⟩) (KeyTable.start none)
        overtakenClaimRun).map
          (fun table => (table.sessions 1).outcome) =
        some (some .inProgress) := by
    decide +kernel
  rcases Option.map_eq_some_iff.mp hRun with
    ⟨table, hExec, hOutcome⟩
  have hBoth :=
    claim_recursion_needs_progress _ _ 1 _ _ hExec
  exact ⟨table, hExec, by decide +kernel, hOutcome, hBoth.1,
    hBoth.2⟩

end PayGuard

import PayGuard.Lib.WaitGraph
import PayGuard.System.KeyRows

/-
  The row locks of the transactions, statement by statement.

  A transaction takes the locks of its statements one after
  another and waits at each for the transaction that holds
  the row.  Its effect is the step of the system, performed
  when it commits.  Between their transactions only an open
  capture and an open dispatch hold rows, as in the system.

  Key definitions include:
    * `Lockable` and `LockStatement`
    * `lockStatements`
    * `Sessions` and `sessionStep`
    * `Sessions.waitGraph`

  Key theorems include:
    * `sessions_refine`
    * `sessions_perform`
-/

------------------------------------------------------------
-- Locks
------------------------------------------------------------

namespace PayGuard

/-
  A row a transaction may hold.  A key row goes by its unique
  key, so an insert in flight is held like a row on file.
-/
inductive Lockable where
| payment (id : Uuid)
| key (merchantId : Uuid) (idempotencyKey : String)
| outboxEvent (id : Uuid)
deriving DecidableEq, Repr

def ClaimedKey.lockable (key : ClaimedKey) : Lockable :=
  .key key.merchantId key.idempotencyKey

/- The statements that wait for a row. -/
inductive LockStatement where
-- the `INSERT` or `UPDATE` of `claim_idempotency_key`
| claimKey (merchantId : Uuid) (idempotencyKey : String)
-- the `SELECT ... FOR UPDATE` of `lock_payment`
| lockPayment (paymentId merchantId : Uuid)
-- the `UPDATE` that completes or fails a key row
| writeKey (key : ClaimedKey)
deriving DecidableEq, Repr

def LockStatement.row : LockStatement → Lockable
| .claimKey merchantId idempotencyKey =>
    .key merchantId idempotencyKey
| .lockPayment paymentId _ => .payment paymentId
| .writeKey key => key.lockable

/- A dispatch locks the payment whose outcome it applies. -/
def WebhookPlan.lockStatements :
    WebhookPlan → List LockStatement
| .outcome _ intent =>
    [.lockPayment intent.id intent.merchantId]
| _ => []

/-
  What the transaction an action starts locks, in the order
  of its statements.  The outbox row of a dispatch is taken
  with `SKIP LOCKED`, which never waits.
-/
def lockStatements : Call → Action → List LockStatement
| .idle, .createBegin request =>
    [.claimKey request.merchantId request.idempotencyKey]
| .idle, .captureBegin request =>
    [.claimKey request.merchantId request.idempotencyKey,
      .lockPayment request.paymentId request.merchantId]
| .idle, .refundBegin request =>
    [.claimKey request.merchantId request.idempotencyKey,
      .lockPayment request.paymentId request.merchantId]
| .idle, .reconcileBegin paymentId merchantId _ =>
    [.lockPayment paymentId merchantId]
| .createClaimed request _ intent, .createProcess =>
    [.lockPayment intent.id request.merchantId]
| .createAssessed request key intent level, .createBlock =>
    if level = .block then
      [.lockPayment intent.id request.merchantId,
        .writeKey key]
    else
      []
| .createAuthorized request key intent _, .createFinish =>
    [.lockPayment intent.id request.merchantId,
      .writeKey key]
| .refundAnswered request key _ _, .refundFinish =>
    [.lockPayment request.paymentId request.merchantId,
      .writeKey key]
| .dispatchOpen _ _ plan, .dispatchFinish =>
    plan.lockStatements
| .reconcileLoaded intent, .reconcileNext _ =>
    [.lockPayment intent.id intent.merchantId]
| .reconcileAnswered intent _, .reconcileApply =>
    [.lockPayment intent.id intent.merchantId]
| .failureSeen key _, .failWrite => [.writeKey key]
| _, _ => []

/- Whether a statement finds a row that it has to lock. -/
def LockStatement.locks
    (config : Config)
    (db : Database)
    (action : Action)
    (draw : Draw) : LockStatement → Bool
| .claimKey _ _ =>
    match action.claim config db draw with
    | some (.claimed _) => true
    | _ => false
| .lockPayment paymentId merchantId =>
    (db.selectPayment paymentId merchantId).isSome
| .writeKey _ => true

------------------------------------------------------------
-- Sessions
------------------------------------------------------------

/- A transaction, and its statements still to be run. -/
structure Transaction where
  action : Action
  draw : Draw
  statements : List LockStatement
deriving DecidableEq, Repr

/-
  The system, the transactions that are running on it, and
  the rows that these have locked so far.
-/
structure Sessions where
  system : System := {}
  running : CallId → Option Transaction := fun _ => none
  held : Lockable → Option CallId := fun _ => none

/- The rows held between transactions. -/
def System.lockOf
    (system : System) : Lockable → Option CallId
| .payment id => system.paymentLock id
| .key merchantId idempotencyKey =>
    system.keyLock (merchantId, idempotencyKey)
| .outboxEvent id => system.outboxLock id

namespace Sessions

def owner
    (state : Sessions)
    (row : Lockable) : Option CallId :=
  match state.held row with
  | some call => some call
  | none => state.system.lockOf row

/- The row the next statement of a transaction locks. -/
def wants
    (config : Config)
    (state : Sessions)
    (call : CallId) : Option Lockable :=
  match state.running call with
  | some ⟨action, draw, statement :: _⟩ =>
      if statement.locks config state.system.db action draw
      then
        some statement.row
      else
        none
  | _ => none

/- Who waits for whom. -/
def waitGraph
    (config : Config)
    (state : Sessions) : WaitGraph CallId Lockable where
  wants := state.wants config
  owner := state.owner

/- The transaction of a call ends and drops its locks. -/
def close
    (state : Sessions)
    (call : CallId)
    (system : System) : Sessions where
  system := system
  running := Function.update state.running call none
  held := fun row =>
    (state.held row).filter (fun holder => holder ≠ call)

end Sessions

inductive SessionLabel where
| begin (call : CallId) (action : Action) (draw : Draw)
| proceed (call : CallId)
| commit (call : CallId)
| rollback (call : CallId)
deriving DecidableEq, Repr

def sessionBegin
    (state : Sessions)
    (call : CallId)
    (action : Action)
    (draw : Draw) : Option Sessions :=
  match state.running call with
  | none =>
      some
        { state with
          running :=
            Function.update state.running call
              (some ⟨action, draw,
                lockStatements (state.system.calls call)
                  action⟩) }
  | some _ => none

/-
  The next statement gets its row once nobody holds it.  One
  that finds no row is the last: a claim that is answered at
  once, or a payment that does not exist.
-/
def sessionProceed
    (config : Config)
    (state : Sessions)
    (call : CallId) : Option Sessions :=
  match state.running call with
  | some ⟨action, draw, statement :: rest⟩ =>
      if statement.locks config state.system.db action draw
      then
        if state.owner statement.row = none then
          some
            { state with
              running :=
                Function.update state.running call
                  (some ⟨action, draw, rest⟩)
              held :=
                Function.update state.held statement.row
                  (some call) }
        else
          none
      else
        (step config state.system ⟨call, action, draw⟩).map
          (state.close call)
  | _ => none

def sessionCommit
    (config : Config)
    (state : Sessions)
    (call : CallId) : Option Sessions :=
  match state.running call with
  | some ⟨action, draw, []⟩ =>
      (step config state.system ⟨call, action, draw⟩).map
        (state.close call)
  | _ => none

/- An exception or a lost connection undoes a transaction. -/
def sessionRollback
    (state : Sessions)
    (call : CallId) : Option Sessions :=
  match state.running call with
  | some _ => some (state.close call state.system)
  | none => none

def sessionStep
    (config : Config)
    (state : Sessions) :
    SessionLabel → Option Sessions
| .begin call action draw =>
    sessionBegin state call action draw
| .proceed call => sessionProceed config state call
| .commit call => sessionCommit config state call
| .rollback call => sessionRollback state call

end PayGuard

------------------------------------------------------------
-- What A Step Does
------------------------------------------------------------

namespace PayGuard

variable {config : Config}
variable {state next : Sessions}
variable {system : System}
variable {call : CallId}
variable {action : Action}
variable {draw : Draw}

/- Everything a step of the sessions can do. -/
inductive SessionEffect
    (config : Config)
    (state : Sessions) :
    SessionLabel → Sessions → Prop where
| begun
    {call : CallId}
    {action : Action}
    {draw : Draw}
    (hIdle : state.running call = none) :
    SessionEffect config state (.begin call action draw)
      { state with
        running :=
          Function.update state.running call
            (some ⟨action, draw,
              lockStatements (state.system.calls call)
                action⟩) }
| granted
    {call : CallId}
    {action : Action}
    {draw : Draw}
    {statement : LockStatement}
    {rest : List LockStatement}
    (hRunning :
      state.running call =
        some ⟨action, draw, statement :: rest⟩)
    (hLocks :
      statement.locks config state.system.db action draw =
        true)
    (hFree : state.owner statement.row = none) :
    SessionEffect config state (.proceed call)
      { state with
        running :=
          Function.update state.running call
            (some ⟨action, draw, rest⟩)
        held :=
          Function.update state.held statement.row
            (some call) }
| answered
    {call : CallId}
    {action : Action}
    {draw : Draw}
    {statement : LockStatement}
    {rest : List LockStatement}
    {system : System}
    (hRunning :
      state.running call =
        some ⟨action, draw, statement :: rest⟩)
    (hLocks :
      statement.locks config state.system.db action draw =
        false)
    (hStep :
      step config state.system ⟨call, action, draw⟩ =
        some system) :
    SessionEffect config state (.proceed call)
      (state.close call system)
| committed
    {call : CallId}
    {action : Action}
    {draw : Draw}
    {system : System}
    (hRunning :
      state.running call = some ⟨action, draw, []⟩)
    (hStep :
      step config state.system ⟨call, action, draw⟩ =
        some system) :
    SessionEffect config state (.commit call)
      (state.close call system)
| undone
    {call : CallId}
    {transaction : Transaction}
    (hRunning : state.running call = some transaction) :
    SessionEffect config state (.rollback call)
      (state.close call state.system)

theorem sessionStep_effect
    {label : SessionLabel}
    (hStep : sessionStep config state label = some next) :
    SessionEffect config state label next := by
  cases label with
  | begin call action draw =>
      simp only [sessionStep, sessionBegin] at hStep
      split at hStep
      · rename_i hIdle
        cases hStep
        exact .begun hIdle
      · cases hStep
  | proceed call =>
      simp only [sessionStep, sessionProceed] at hStep
      split at hStep
      · rename_i action draw statement rest hRunning
        split at hStep
        · rename_i hLocks
          split at hStep
          · rename_i hFree
            cases hStep
            exact .granted hRunning hLocks hFree
          · cases hStep
        · rename_i hLocks
          rcases Option.map_eq_some_iff.mp hStep with
            ⟨system, hDone, rfl⟩
          exact .answered hRunning
            (Bool.not_eq_true _ ▸ hLocks) hDone
      · cases hStep
  | commit call =>
      simp only [sessionStep, sessionCommit] at hStep
      split at hStep
      · rename_i action draw hRunning
        rcases Option.map_eq_some_iff.mp hStep with
          ⟨system, hDone, rfl⟩
        exact .committed hRunning hDone
      · cases hStep
  | rollback call =>
      simp only [sessionStep, sessionRollback] at hStep
      split at hStep
      · rename_i transaction hRunning
        cases hStep
        exact .undone hRunning
      · cases hStep

------------------------------------------------------------
-- Transactions And Steps
------------------------------------------------------------

/- The system under the locks only makes its own steps. -/
theorem sessions_refine
    {labels : List SessionLabel}
    (hRun :
      Lts.exec (sessionStep config) {} labels =
        some state) :
    ∃ systemLabels,
      Lts.exec (step config) {} systemLabels =
        some state.system := by
  refine Lts.exec_view Sessions.system ?_ hRun
  intro before label after hStep
  cases sessionStep_effect hStep with
  | begun hIdle => exact .inl rfl
  | granted hRunning hLocks hFree => exact .inl rfl
  | answered hRunning hLocks hDone =>
      exact .inr ⟨_, hDone⟩
  | committed hRunning hDone => exact .inr ⟨_, hDone⟩
  | undone hRunning => exact .inl rfl

/- No two statements want one row, and each row is free. -/
def Unobstructed
    (config : Config)
    (system : System)
    (action : Action)
    (draw : Draw) : List LockStatement → Prop
| [] => True
| statement :: rest =>
    statement.locks config system.db action draw = true →
      system.lockOf statement.row = none ∧
        statement.row ∉ rest.map LockStatement.row ∧
          Unobstructed config system action draw rest

theorem keyLock_eq_none
    {key : ClaimedKey}
    (hFree : system.keyFree key = true) :
    system.lockOf key.lockable = none := by
  simpa [System.keyFree, System.lockOf,
    ClaimedKey.lockable] using hFree

theorem unobstructed_of_lockPayment
    {paymentId merchantId : Uuid}
    (hFree : system.paymentFree paymentId = true) :
    Unobstructed config system action draw
      [.lockPayment paymentId merchantId] := by
  intro _
  exact ⟨paymentLock_eq_none hFree, by simp, trivial⟩

theorem unobstructed_of_writeKey
    {key : ClaimedKey}
    (hFree : system.keyFree key = true) :
    Unobstructed config system action draw
      [.writeKey key] := by
  intro _
  exact ⟨keyLock_eq_none hFree, by simp, trivial⟩

/- The payment is locked first and its key written last. -/
theorem unobstructed_of_both
    {paymentId merchantId : Uuid}
    {key : ClaimedKey}
    (hFree :
      (system.paymentFree paymentId &&
        system.keyFree key) = true) :
    Unobstructed config system action draw
      [.lockPayment paymentId merchantId,
        .writeKey key] := by
  rw [Bool.and_eq_true] at hFree
  intro _
  refine ⟨paymentLock_eq_none hFree.1, ?_,
    unobstructed_of_writeKey hFree.2⟩
  simp [LockStatement.row, ClaimedKey.lockable]

theorem lockable_of_claimed
    {db : Database}
    {merchantId : Uuid}
    {idempotencyKey fingerprint : String}
    {keyRow : IdempotencyKey}
    (hClaim :
      claimIdempotencyKey db merchantId idempotencyKey
        fingerprint draw = some (.claimed keyRow)) :
    keyRow.claimedKey.lockable =
      .key merchantId idempotencyKey := by
  rcases claimed_name hClaim with ⟨rfl, rfl⟩
  rfl

/- A claim that is granted finds its key row free. -/
theorem stepClaim_unobstructed
    {merchantId : Uuid}
    {idempotencyKey fingerprint : String}
    {work : IdempotencyKey → Option System}
    {rest : List LockStatement}
    {after : System}
    (hClaim :
      action.claim config system.db draw =
        claimIdempotencyKey system.db merchantId
          idempotencyKey fingerprint draw)
    (hRest :
      .key merchantId idempotencyKey ∉
        rest.map LockStatement.row)
    (hWork :
      ∀ keyRow,
        work keyRow = some after →
          Unobstructed config system action draw rest)
    (hStep :
      stepClaim system call merchantId idempotencyKey
        fingerprint draw work = some after) :
    Unobstructed config system action draw
      (.claimKey merchantId idempotencyKey :: rest) := by
  intro hLocks
  simp only [LockStatement.locks, hClaim] at hLocks
  unfold stepClaim at hStep
  split at hStep
  · split at hLocks
    · rename_i keyRow hClaimed
      simp only [hClaimed] at hStep
      split at hStep
      · rename_i hFree
        refine ⟨?_, hRest, hWork keyRow hStep⟩
        have hNone := keyLock_eq_none hFree
        rw [lockable_of_claimed hClaimed] at hNone
        exact hNone
      · cases hStep
    · cases hLocks
  · cases hStep

theorem reconcileLock_unobstructed
    {loaded : Option PaymentIntent}
    {paymentId merchantId pick : Uuid}
    {after : System}
    (hStep :
      reconcileLock config system call loaded paymentId
        merchantId pick = some after) :
    Unobstructed config system action draw
      [.lockPayment paymentId merchantId] := by
  unfold reconcileLock at hStep
  split at hStep
  · rename_i hFree
    exact unobstructed_of_lockPayment hFree
  · cases hStep

/- Whatever the system lets pass holds up no statement. -/
theorem callStep_unobstructed
    {after : System}
    (hStep :
      callStep config system call draw action = some after) :
    Unobstructed config system action draw
      (lockStatements (system.calls call) action) := by
  cases hCall : system.calls call <;> cases action <;>
    try trivial
  case idle.createBegin request =>
    exact stepClaim_unobstructed rfl (by simp)
      (fun _ _ => trivial) hStep
  case idle.captureBegin request =>
    refine stepClaim_unobstructed rfl ?_ ?_ hStep
    · simp [LockStatement.row]
    · intro keyRow hWork
      split at hWork
      · rename_i hFree
        exact unobstructed_of_lockPayment hFree
      · cases hWork
  case idle.refundBegin request =>
    refine stepClaim_unobstructed rfl ?_ ?_ hStep
    · simp [LockStatement.row]
    · intro keyRow hWork
      split at hWork
      · rename_i hFree
        exact unobstructed_of_lockPayment hFree
      · cases hWork
  case idle.reconcileBegin paymentId merchantId pick =>
    simp only [callStep, stepReconcileBegin, hCall] at hStep
    exact reconcileLock_unobstructed hStep
  case createClaimed.createProcess request key intent =>
    simp only [callStep, stepCreateProcess, hCall] at hStep
    split at hStep
    · rename_i hFree
      exact unobstructed_of_lockPayment hFree
    · cases hStep
  case createAssessed.createBlock request key intent level =>
    simp only [callStep, stepCreateBlock, hCall] at hStep
    split at hStep
    · rename_i hPosition
      cases hPosition
      split at hStep
      · rename_i hFree
        exact unobstructed_of_both hFree
      · cases hStep
    · cases hStep
  case createAuthorized.createFinish request key intent
      result =>
    simp only [callStep, stepCreateFinish, hCall] at hStep
    split at hStep
    · rename_i hFree
      exact unobstructed_of_both hFree
    · cases hStep
  case refundAnswered.refundFinish request key reservation
      result =>
    simp only [callStep, stepRefundFinish, hCall] at hStep
    split at hStep
    · rename_i hFree
      exact unobstructed_of_both hFree
    · cases hStep
  case dispatchOpen.dispatchFinish outboxEventId
      webhookEventId plan =>
    cases plan with
    | outcome targetStatus intent =>
        simp only [callStep, stepDispatchFinish, hCall]
          at hStep
        split at hStep
        · rename_i hReady
          exact unobstructed_of_lockPayment hReady
        · cases hStep
    | _ => trivial
  case reconcileLoaded.reconcileNext intent pick =>
    simp only [callStep, stepReconcileNext, hCall] at hStep
    exact reconcileLock_unobstructed hStep
  case reconcileAnswered.reconcileApply intent result =>
    simp only [callStep, stepReconcileApply, hCall] at hStep
    split at hStep
    · rename_i hFree
      exact unobstructed_of_lockPayment hFree
    · cases hStep
  case failureSeen.failWrite key failure =>
    simp only [callStep, stepFailWrite, hCall] at hStep
    split at hStep
    · rename_i hFree
      exact unobstructed_of_writeKey hFree
    · cases hStep

/- The state in which no transaction is running. -/
def System.atRest (system : System) : Sessions :=
  { system := system }

theorem close_alone
    {after : System}
    {transaction : Option Transaction}
    {held : Lockable → Option CallId}
    (hOwn : ∀ row, held row = none ∨ held row = some call) :
    Sessions.close
        { system := system
          running :=
            Function.update (fun _ => none) call transaction
          held := held }
        call after = after.atRest := by
  unfold Sessions.close System.atRest
  congr 1
  · simp
  · funext row
    rcases hOwn row with hRow | hRow
    · simp [hRow]
    · simp [hRow]

/- A transaction that is left alone runs to its end. -/
theorem perform_statements
    {after : System}
    {statements : List LockStatement}
    {held : Lockable → Option CallId}
    (hStep :
      step config system ⟨call, action, draw⟩ = some after)
    (hFree :
      Unobstructed config system action draw statements)
    (hOwn : ∀ row, held row = none ∨ held row = some call)
    (hNew :
      ∀ statement ∈ statements, held statement.row = none) :
    ∃ labels,
      Lts.exec (sessionStep config)
          { system := system
            running :=
              Function.update (fun _ => none) call
                (some ⟨action, draw, statements⟩)
            held := held }
          labels = some after.atRest := by
  induction statements generalizing held with
  | nil =>
      refine ⟨[.commit call], ?_⟩
      simp [Lts.exec, sessionStep, sessionCommit, hStep,
        close_alone hOwn]
  | cons statement rest ih =>
      cases hLocks :
          statement.locks config system.db action draw with
      | false =>
          refine ⟨[.proceed call], ?_⟩
          simp [Lts.exec, sessionStep, sessionProceed,
            hLocks, hStep, close_alone hOwn]
      | true =>
          rw [List.forall_mem_cons] at hNew
          rcases hFree hLocks with ⟨hRow, hOther, hRest⟩
          have hTaken :
              ∀ row,
                Function.update held statement.row
                      (some call) row = none ∨
                  Function.update held statement.row
                      (some call) row = some call := by
            intro row
            by_cases hSame : row = statement.row
            · simp [hSame]
            · simpa [hSame] using hOwn row
          have hLeft :
              ∀ later ∈ rest,
                Function.update held statement.row
                  (some call) later.row = none := by
            intro later hLater
            have hSame : later.row ≠ statement.row := by
              intro hSame
              rw [← hSame] at hOther
              exact hOther (List.mem_map_of_mem hLater)
            simpa [hSame] using hNew.2 later hLater
          rcases ih hRest hTaken hLeft with
            ⟨labels, hLabels⟩
          refine ⟨.proceed call :: labels, ?_⟩
          rw [← hLabels]
          simp [Lts.exec, sessionStep, sessionProceed,
            hLocks, Sessions.owner, hNew.1, hRow]

/- Every run of the system is one of its transactions. -/
theorem sessions_perform
    {before after : System}
    {systemLabels : List Label}
    (hRun :
      Lts.exec (step config) before systemLabels =
        some after) :
    ∃ labels,
      Lts.exec (sessionStep config) before.atRest labels =
        some after.atRest := by
  refine Lts.exec_perform System.atRest ?_ hRun
  rintro viewed ⟨call, action, draw⟩ next hStep
  have hFree :
      Unobstructed config viewed action draw
        (lockStatements (viewed.calls call) action) := by
    unfold step at hStep
    split at hStep
    · exact callStep_unobstructed hStep
    · cases hStep
  rcases perform_statements hStep hFree
      (fun _ => .inl rfl) (fun _ _ => rfl) with
    ⟨labels, hLabels⟩
  refine ⟨.begin call action draw :: labels, ?_⟩
  rw [← hLabels]
  rfl

end PayGuard

import PayGuard.Locks.Transactions

/-
  Whether the row locks of the services can form a cycle.

  A claim locks a key row before the payment; a completion
  locks the payment before the key row.  The two meet on one
  key only when a capture or a refund takes over the key of
  a call that is still at work.

  Key definitions include:
    * `Call.completing`
    * `NoLiveTakeover`
    * `LockOrder`
    * `Sessions.rank`

  Key theorems include:
    * `lockOrder_step`
    * `LockOrder.rank_lt`
    * `lock_order_has_no_cycle`
    * `takeover_deadlocks`
-/

------------------------------------------------------------
-- Work In Flight
------------------------------------------------------------

namespace PayGuard

/- The key row that a creation or refund is to complete. -/
def Call.completing : Call → Option ClaimedKey
| .createClaimed _ key _ => some key
| .createProcessing _ key _ => some key
| .createAssessed _ key _ _ => some key
| .createAuthorized _ key _ _ => some key
| .refundReserved _ key _ => some key
| .refundAnswered _ key _ _ => some key
| _ => none

/-
  A capture or refund locks its payment after its key.  When
  it is granted the key, no creation or refund that has yet
  to complete the same key is in flight.
-/
def NoLiveTakeover
    (config : Config)
    (state : Sessions) :
    SessionLabel → Prop
| .proceed call =>
    ∀ transaction row paymentId merchantId other key,
      state.running call = some transaction →
        state.wants config call = some row →
          transaction.statements.tail =
              [.lockPayment paymentId merchantId] →
            (state.system.calls other).completing =
                some key →
              key.lockable ≠ row
| _ => True

variable {config : Config}
variable {system next : System}
variable {call : CallId}
variable {action : Action}
variable {draw : Draw}
variable {key : ClaimedKey}
variable {keyRow : IdempotencyKey}

theorem Call.claimedKey_of_completing
    {position : Call}
    (hKey : position.completing = some key) :
    position.claimedKey = some key := by
  cases position <;> first | exact hKey | cases hKey

theorem stepClaim_idle
    {merchantId : Uuid}
    {idempotencyKey fingerprint : String}
    {work : IdempotencyKey → Option System}
    (hStep :
      stepClaim system call merchantId idempotencyKey
        fingerprint draw work = some next) :
    system.calls call = .idle := by
  unfold stepClaim at hStep
  split at hStep
  · assumption
  · cases hStep

/- A claim is the first statement of its transaction. -/
theorem lockStatements_of_claim
    (hStep :
      callStep config system call draw action = some next)
    (hClaim :
      action.claim config system.db draw =
        some (.claimed keyRow)) :
    ∃ merchantId idempotencyKey rest,
      lockStatements (system.calls call) action =
          .claimKey merchantId idempotencyKey :: rest ∧
        keyRow.claimedKey.lockable =
          .key merchantId idempotencyKey := by
  cases action with
  | createBegin request =>
      rw [stepClaim_idle hStep]
      exact ⟨_, _, _, rfl, lockable_of_claimed hClaim⟩
  | captureBegin request =>
      rw [stepClaim_idle hStep]
      exact ⟨_, _, _, rfl, lockable_of_claimed hClaim⟩
  | refundBegin request =>
      rw [stepClaim_idle hStep]
      exact ⟨_, _, _, rfl, lockable_of_claimed hClaim⟩
  | _ => cases hClaim

/- Whoever has a key to complete has claimed it himself. -/
theorem callStep_completing
    (hStep :
      callStep config system call draw action = some next)
    (hKey : (next.calls call).completing = some key) :
    (system.calls call).completing = some key ∨
      ∃ keyRow,
        action.claim config system.db draw =
            some (.claimed keyRow) ∧
          keyRow.claimedKey = key := by
  have hClaims :=
    callStep_claims hStep
      (Call.claimedKey_of_completing hKey)
  cases action with
  | createBegin request =>
      rw [stepClaim_idle hStep] at hClaims
      exact .inr (hClaims.resolve_left (by simp
        [Call.claimedKey]))
  | captureBegin request =>
      rw [stepClaim_idle hStep] at hClaims
      exact .inr (hClaims.resolve_left (by simp
        [Call.claimedKey]))
  | refundBegin request =>
      rw [stepClaim_idle hStep] at hClaims
      exact .inr (hClaims.resolve_left (by simp
        [Call.claimedKey]))
  -- the others go on with what they have to complete
  | _ =>
      left
      simp only [callStep, stepCreateProcess,
        stepCreateAssess, stepCreateBlock,
        stepCreateAuthorize, stepCreateFinish,
        stepCaptureFinish, stepRefundAnswer,
        stepRefundFinish, stepReceiveWebhook,
        stepDispatchBegin, stepDispatchFinish,
        stepReconcileLoad, stepReconcileBegin,
        stepReconcileNext, reconcileLock,
        stepReconcileAnswer, stepReconcileApply,
        stepReconcileReport, stepRaise, stepFailRead,
        stepFailWrite, stepDie] at hStep
      repeat' split at hStep
      all_goals cases hStep
      all_goals simp_all [Call.completing]

------------------------------------------------------------
-- Rows Held Between Transactions
------------------------------------------------------------

/- Only an open capture holds a payment or a key row. -/
def CapturesOnly (system : System) : Prop :=
  ∀ row call,
    system.lockOf row = some call →
      (∃ id, row = .outboxEvent id) ∨
        (system.calls call).openCapture.isSome

/- A dropped lock is nobody's, another one its holder's. -/
theorem lockOf_release
    {row : Lockable}
    {holder : CallId}
    (hLock :
      (system.release call).lockOf row = some holder) :
    holder ≠ call ∧ system.lockOf row = some holder := by
  cases row with
  | _ =>
      simp only [System.lockOf, System.release] at hLock ⊢
      split at hLock
      · cases hLock
      · rename_i hOther
        refine ⟨?_, hLock⟩
        rintro rfl
        exact hOther hLock

/- The locks of a capture that waits for the provider. -/
theorem stepCaptureBegin_lockOf
    {request : CaptureRequest}
    {row : Lockable}
    {holder : CallId}
    (hStep :
      stepCaptureBegin config system call request draw =
        some next)
    (hLock : next.lockOf row = some holder) :
    (next.calls holder).openCapture.isSome ∨
      system.lockOf row = some holder := by
  have hIdle := stepClaim_idle hStep
  simp only [stepCaptureBegin, stepClaim, hIdle] at hStep
  split at hStep
  case h_5 =>
    split at hStep
    · split at hStep
      · split at hStep
        · cases hStep
          exact .inr hLock
        · cases hStep
          exact .inr hLock
        · cases hStep
          by_cases hHolder : holder = call
          · left
            simp [hHolder, System.become, Call.openCapture]
          · right
            revert hLock
            cases row <;>
              simp only [System.lockOf, System.become,
                Function.update_apply]
            all_goals
              first
                | exact id
                | split
                  · intro hMine
                    exact absurd (Option.some.inj hMine).symm
                      hHolder
                  · exact id
      · cases hStep
    · cases hStep
  all_goals cases hStep
  all_goals exact .inr hLock

/- What a step leaves locked, by whom it may be held. -/
theorem callStep_lockOf
    {row : Lockable}
    {holder : CallId}
    (hStep :
      callStep config system call draw action = some next)
    (hLock : next.lockOf row = some holder) :
    (∃ id, row = .outboxEvent id) ∨
      (next.calls holder).openCapture.isSome ∨
        system.lockOf row = some holder ∧
          (holder = call →
            (system.calls call).openCapture = none) := by
  cases action with
  | captureBegin request =>
      right
      refine (stepCaptureBegin_lockOf hStep hLock).imp_right
        (fun hBefore => ⟨hBefore, fun _ => ?_⟩)
      rw [stepClaim_idle hStep]
      rfl
  | dispatchBegin outboxEventId pick =>
      cases row with
      | outboxEvent id => exact .inl ⟨id, rfl⟩
      | _ =>
          simp only [callStep, stepDispatchBegin] at hStep
          repeat' split at hStep
          all_goals cases hStep
          all_goals
            refine .inr (.inr ⟨hLock, ?_⟩)
            simp_all [Call.openCapture]
  -- these end a transaction, and drop its locks if it was open
  | captureFinish result =>
      simp only [callStep, stepCaptureFinish] at hStep
      repeat' split at hStep
      all_goals cases hStep
      all_goals
        rcases lockOf_release hLock with ⟨hOther, hBefore⟩
        exact .inr (.inr ⟨hBefore, fun hSame =>
          absurd hSame hOther⟩)
  | dispatchFinish =>
      simp only [callStep, stepDispatchFinish] at hStep
      repeat' split at hStep
      all_goals cases hStep
      all_goals
        rcases lockOf_release hLock with ⟨hOther, hBefore⟩
        exact .inr (.inr ⟨hBefore, fun hSame =>
          absurd hSame hOther⟩)
  | raise failure =>
      simp only [callStep, stepRaise] at hStep
      split at hStep
      case h_5 =>
        cases hStep
        rcases lockOf_release hLock with ⟨hOther, hBefore⟩
        exact .inr (.inr ⟨hBefore, fun hSame =>
          absurd hSame hOther⟩)
      case h_8 =>
        cases hStep
        rcases lockOf_release hLock with ⟨hOther, hBefore⟩
        exact .inr (.inr ⟨hBefore, fun hSame =>
          absurd hSame hOther⟩)
      all_goals cases hStep
      all_goals
        refine .inr (.inr ⟨hLock, ?_⟩)
        simp_all [Call.openCapture]
  | die =>
      simp only [callStep, stepDie] at hStep
      split at hStep
      all_goals cases hStep
      rcases lockOf_release hLock with ⟨hOther, hBefore⟩
      exact .inr (.inr ⟨hBefore, fun hSame =>
        absurd hSame hOther⟩)
  | _ =>
      simp only [callStep, stepCreateBegin, stepClaim,
        stepRefundBegin, stepCreateProcess,
        stepCreateAssess, stepCreateBlock,
        stepCreateAuthorize, stepCreateFinish,
        stepRefundAnswer, stepRefundFinish,
        stepReceiveWebhook, stepReconcileLoad,
        stepReconcileBegin, stepReconcileNext,
        reconcileLock, stepReconcileAnswer,
        stepReconcileApply, stepReconcileReport,
        stepFailRead, stepFailWrite] at hStep
      repeat' split at hStep
      all_goals cases hStep
      all_goals
        refine .inr (.inr ⟨hLock, ?_⟩)
        simp_all [Call.openCapture]

theorem capturesOnly_step
    {label : Label}
    (hOnly : CapturesOnly system)
    (hStep : step config system label = some next) :
    CapturesOnly next := by
  intro row holder hLock
  have hFrame := (step_effect hStep).2.frame
  unfold step at hStep
  split at hStep
  · rcases callStep_lockOf hStep hLock with
      hOutbox | hOpen | ⟨hBefore, hClosed⟩
    · exact .inl hOutbox
    · exact .inr hOpen
    · refine (hOnly row holder hBefore).imp_right ?_
      intro hOpen
      by_cases hHolder : holder = label.call
      · rw [hHolder, hClosed hHolder] at hOpen
        cases hOpen
      · rwa [hFrame.calls holder hHolder]
  · cases hStep

end PayGuard

------------------------------------------------------------
-- The Order Of The Locks
------------------------------------------------------------

namespace PayGuard

variable {config : Config}
variable {state next : Sessions}
variable {call : CallId}
variable {action : Action}
variable {draw : Draw}
variable {transaction : Transaction}

/-
  What holds of every transaction.  It holds the rows of the
  statements it has run, and where one of these is a key and
  statements are left, nobody has that key to complete.
-/
structure LockOrder (state : Sessions) : Prop where
  captures : CapturesOnly state.system
  resting :
    ∀ call,
      state.running call = none →
        ∀ row, state.held row ≠ some call
  taken :
    ∀ call transaction,
      state.running call = some transaction →
        ∃ past,
          lockStatements (state.system.calls call)
                transaction.action =
              past ++ transaction.statements ∧
            ∀ row,
              state.held row = some call ↔
                row ∈ past.map LockStatement.row
  spared :
    ∀ call transaction merchantId idempotencyKey,
      state.running call = some transaction →
        transaction.statements ≠ [] →
          state.held (.key merchantId idempotencyKey) =
              some call →
            ∀ other key,
              (state.system.calls other).completing =
                  some key →
                key.lockable ≠
                  .key merchantId idempotencyKey

theorem lockOrder_initial : LockOrder {} where
  captures := by
    intro row call hLock
    cases row <;> cases hLock
  resting := by
    intro call _ row hHeld
    cases hHeld
  taken := by
    intro call transaction hRunning
    cases hRunning
  spared := by
    intro call transaction _ _ hRunning
    cases hRunning

/- At most two statements lock, and always in these orders. -/
theorem lockStatements_cases
    (position : Call)
    (action : Action) :
    (lockStatements position action).length ≤ 1 ∨
      (∃ merchantId idempotencyKey paymentId owner,
        lockStatements position action =
          [.claimKey merchantId idempotencyKey,
            .lockPayment paymentId owner]) ∨
      ∃ paymentId owner key,
        position.completing = some key ∧
          lockStatements position action =
            [.lockPayment paymentId owner,
              .writeKey key] := by
  unfold lockStatements
  split
  case h_2 => exact .inr (.inl ⟨_, _, _, _, rfl⟩)
  case h_3 => exact .inr (.inl ⟨_, _, _, _, rfl⟩)
  case h_6 =>
    split
    · exact .inr (.inr ⟨_, _, _, rfl, rfl⟩)
    · exact .inl (Nat.zero_le _)
  case h_7 => exact .inr (.inr ⟨_, _, _, rfl, rfl⟩)
  case h_8 => exact .inr (.inr ⟨_, _, _, rfl, rfl⟩)
  case h_9 plan =>
    left
    cases plan <;> simp [WebhookPlan.lockStatements]
  all_goals exact .inl (by simp)

/- The transaction of a call ends with a step of the system. -/
theorem LockOrder.close
    {system : System}
    (hOrder : LockOrder state)
    (hRunning : state.running call = some transaction)
    (hCaptures : CapturesOnly system)
    (hFrame :
      ∀ other,
        other ≠ call →
          system.calls other = state.system.calls other)
    (hOwn :
      ∀ key,
        (system.calls call).completing = some key →
          (state.system.calls call).completing = some key ∨
            state.held key.lockable = some call) :
    LockOrder (state.close call system) := by
  have hRow :
      ∀ row holder,
        (state.close call system).held row = some holder ↔
          state.held row = some holder ∧ holder ≠ call := by
    intro row holder
    simp only [Sessions.close, Option.filter_eq_some_iff,
      decide_eq_true_eq]
  have hOther :
      ∀ other,
        other ≠ call →
          (state.close call system).running other =
            state.running other := by
    intro other hOther
    simp [Sessions.close, hOther]
  have hDone :
      (state.close call system).running call = none := by
    simp [Sessions.close]
  constructor
  · exact hCaptures
  · intro other hRest row hHeld
    rw [hRow] at hHeld
    rw [hOther other hHeld.2] at hRest
    exact hOrder.resting other hRest row hHeld.1
  · intro other later hLater
    by_cases hCall : other = call
    · rw [hCall, hDone] at hLater
      cases hLater
    · rw [hOther other hCall] at hLater
      rcases hOrder.taken other later hLater with
        ⟨past, hPlan, hTaken⟩
      refine ⟨past, ?_, ?_⟩
      · rw [← hPlan]
        exact congrArg (lockStatements · later.action)
          (hFrame other hCall)
      · intro row
        rw [hRow, hTaken]
        exact and_iff_left hCall
  · intro other later merchantId idempotencyKey hLater
      hLeft hHeld worker key hKey hSame
    rw [hRow] at hHeld
    rw [hOther other hHeld.2] at hLater
    have hSpared :=
      hOrder.spared other later merchantId idempotencyKey
        hLater hLeft hHeld.1
    by_cases hCall : worker = call
    · subst hCall
      rcases hOwn key hKey with hBefore | hMine
      · exact hSpared worker key hBefore hSame
      · rw [hSame, hHeld.1] at hMine
        exact hHeld.2 (Option.some.inj hMine)
    · have hBefore :
          (state.system.calls worker).completing =
            some key := by
        rw [← hFrame worker hCall]
        exact hKey
      exact hSpared worker key hBefore hSame

/- Whoever goes on under a key holds it, or just claims it. -/
theorem LockOrder.holds_claimed
    {after : System}
    {statements : List LockStatement}
    {key : ClaimedKey}
    (hOrder : LockOrder state)
    (hRunning :
      state.running call = some ⟨action, draw, statements⟩)
    (hDecided :
      ∀ merchantId idempotencyKey rest,
        statements =
            .claimKey merchantId idempotencyKey :: rest →
          ∀ keyRow,
            action.claim config state.system.db draw ≠
              some (.claimed keyRow))
    (hStep :
      step config state.system ⟨call, action, draw⟩ =
        some after)
    (hKey : (after.calls call).completing = some key) :
    (state.system.calls call).completing = some key ∨
      state.held key.lockable = some call := by
  unfold step at hStep
  split at hStep
  · rcases callStep_completing hStep hKey with
      hBefore | ⟨keyRow, hClaim, rfl⟩
    · exact .inl hBefore
    · right
      rcases lockStatements_of_claim hStep hClaim with
        ⟨merchantId, idempotencyKey, rest, hPlan, hRow⟩
      rcases hOrder.taken call _ hRunning with
        ⟨past, hSplit, hTaken⟩
      rw [hTaken, hRow]
      cases past with
      | nil =>
          rw [hPlan] at hSplit
          exact absurd hClaim
            (hDecided _ _ _ hSplit.symm keyRow)
      | cons statement past =>
          rw [hPlan] at hSplit
          cases hSplit
          simp [LockStatement.row]
  · cases hStep

/-
  How far a transaction with statements left has come, by
  the rows it holds.
-/
inductive LockStage
    (state : Sessions)
    (call : CallId)
    (plan : List LockStatement)
    (statement : LockStatement)
    (rest : List LockStatement) : Prop where
| empty
    (hPlan : plan = statement :: rest)
    (hHeld : ∀ row, state.held row ≠ some call)
| claimed
    (merchantId paymentId owner : Uuid)
    (idempotencyKey : String)
    (hPlan : plan ≠ statement :: rest)
    (hStatement :
      statement = .lockPayment paymentId owner)
    (hRest : rest = [])
    (hHeld :
      ∀ row,
        state.held row = some call ↔
          row = .key merchantId idempotencyKey)
| finishing
    (paymentId : Uuid)
    (key : ClaimedKey)
    (hPlan : plan ≠ statement :: rest)
    (hStatement : statement = .writeKey key)
    (hRest : rest = [])
    (hKey :
      (state.system.calls call).completing = some key)
    (hHeld :
      ∀ row,
        state.held row = some call ↔
          row = .payment paymentId)

theorem LockOrder.stage
    {statement : LockStatement}
    {rest : List LockStatement}
    (hOrder : LockOrder state)
    (hRunning :
      state.running call =
        some ⟨action, draw, statement :: rest⟩) :
    LockStage state call
      (lockStatements (state.system.calls call) action)
      statement rest := by
  rcases hOrder.taken call _ hRunning with
    ⟨past, hPlan, hHeld⟩
  change _ = past ++ statement :: rest at hPlan
  cases past with
  | nil => exact .empty hPlan (by simpa using hHeld)
  | cons first past =>
      have hLength := congrArg List.length hPlan
      have hOther :
          lockStatements (state.system.calls call) action ≠
            statement :: rest := by
        intro hSame
        rw [hSame] at hLength
        simp at hLength
        omega
      rcases lockStatements_cases
          (state.system.calls call) action with
        hShort | ⟨_, _, _, _, hShape⟩ |
          ⟨_, _, _, hKey, hShape⟩
      · rw [hLength] at hShort
        simp at hShort
      · obtain ⟨rfl, rfl⟩ : past = [] ∧ rest = [] := by
          rw [hShape] at hLength
          simp at hLength
          constructor <;> apply List.eq_nil_of_length_eq_zero
          all_goals omega
        rw [hShape] at hPlan
        cases hPlan
        exact .claimed _ _ _ _ hOther rfl rfl
          (by simpa [LockStatement.row] using hHeld)
      · obtain ⟨rfl, rfl⟩ : past = [] ∧ rest = [] := by
          rw [hShape] at hLength
          simp at hLength
          constructor <;> apply List.eq_nil_of_length_eq_zero
          all_goals omega
        rw [hShape] at hPlan
        cases hPlan
        exact .finishing _ _ hOther rfl rfl hKey
          (by simpa [LockStatement.row] using hHeld)

/- What is left to lock after a key row is a payment. -/
theorem LockOrder.key_before_payment
    {statement : LockStatement}
    {rest : List LockStatement}
    {merchantId : Uuid}
    {idempotencyKey : String}
    (hOrder : LockOrder state)
    (hRunning :
      state.running call =
        some ⟨action, draw, statement :: rest⟩)
    (hLeft : rest ≠ [])
    (hRow :
      statement.row = .key merchantId idempotencyKey) :
    ∃ paymentId owner,
      rest = [.lockPayment paymentId owner] := by
  cases hOrder.stage hRunning with
  | empty hPlan hHeld =>
      rcases lockStatements_cases
          (state.system.calls call) action with
        hShort | ⟨_, _, _, _, hShape⟩ | ⟨_, _, _, _, hShape⟩
      · rw [hPlan] at hShort
        cases rest with
        | nil => exact absurd rfl hLeft
        | cons => simp at hShort
      · rw [hPlan] at hShape
        cases hShape
        exact ⟨_, _, rfl⟩
      · rw [hPlan] at hShape
        cases hShape
        cases hRow
  | claimed _ _ _ _ _ _ hRest => exact absurd hRest hLeft
  | finishing _ _ _ _ hRest => exact absurd hRest hLeft

/- The next row of a transaction is granted to it. -/
theorem LockOrder.grant
    {statement : LockStatement}
    {rest : List LockStatement}
    (hOrder : LockOrder state)
    (hSpares : NoLiveTakeover config state (.proceed call))
    (hRunning :
      state.running call =
        some ⟨action, draw, statement :: rest⟩)
    (hLocks :
      statement.locks config state.system.db action draw =
        true)
    (hFree : state.owner statement.row = none) :
    LockOrder
      { state with
        running :=
          Function.update state.running call
            (some ⟨action, draw, rest⟩)
        held :=
          Function.update state.held statement.row
            (some call) } := by
  have hNone : state.held statement.row = none := by
    unfold Sessions.owner at hFree
    split at hFree
    · cases hFree
    · assumption
  have hOthers :
      ∀ row holder,
        holder ≠ call →
          (Function.update state.held statement.row
                (some call) row = some holder ↔
            state.held row = some holder) := by
    intro row holder hHolder
    by_cases hRow : row = statement.row
    · subst hRow
      simp [hNone, Ne.symm hHolder]
    · rw [Function.update_of_ne hRow]
  constructor
  · exact hOrder.captures
  · intro other hRest row
    by_cases hCall : other = call
    · simp [hCall] at hRest
    · simp only [Function.update_of_ne hCall] at hRest
      exact fun hHeld =>
        hOrder.resting other hRest row
          ((hOthers row other hCall).mp hHeld)
  · intro other later hLater
    by_cases hCall : other = call
    · subst hCall
      simp only [Function.update_self, Option.some.injEq]
        at hLater
      subst hLater
      rcases hOrder.taken other _ hRunning with
        ⟨past, hPlan, hTaken⟩
      refine ⟨past ++ [statement], ?_, ?_⟩
      · rw [hPlan, List.append_assoc, List.singleton_append]
      · intro row
        rw [List.map_append, List.mem_append, ← hTaken row]
        by_cases hRow : row = statement.row
        · simp [hRow]
        · simp [hRow]
    · simp only [Function.update_of_ne hCall] at hLater
      rcases hOrder.taken other later hLater with
        ⟨past, hPlan, hTaken⟩
      refine ⟨past, hPlan, ?_⟩
      intro row
      rw [hOthers row other hCall, hTaken row]
  · intro other later merchantId idempotencyKey hLater
      hLeft hHeld worker key hKey
    by_cases hCall : other = call
    · subst hCall
      simp only [Function.update_self, Option.some.injEq]
        at hLater
      subst hLater
      by_cases hRow :
          Lockable.key merchantId idempotencyKey =
            statement.row
      · rcases hOrder.key_before_payment hRunning hLeft
            hRow.symm with ⟨paymentId, owner, rfl⟩
        have hWants :
            state.wants config other =
              some statement.row := by
          simp [Sessions.wants, hRunning, hLocks]
        rw [hRow]
        exact hSpares _ _ paymentId owner worker key
          hRunning hWants rfl hKey
      · have hBefore :
            state.held (.key merchantId idempotencyKey) =
              some other := by
          simpa [hRow] using hHeld
        exact hOrder.spared other _ _ _ hRunning
          (List.cons_ne_nil _ _) hBefore worker key hKey
    · simp only [Function.update_of_ne hCall] at hLater
      exact hOrder.spared other later _ _ hLater hLeft
        ((hOthers _ other hCall).mp hHeld) worker key hKey

theorem lockOrder_step
    {label : SessionLabel}
    (hOrder : LockOrder state)
    (hSpares : NoLiveTakeover config state label)
    (hStep : sessionStep config state label = some next) :
    LockOrder next := by
  cases sessionStep_effect hStep with
  | @begun call action draw hIdle =>
      have hNobody := hOrder.resting call hIdle
      constructor
      · exact hOrder.captures
      · intro other hRest
        by_cases hCall : other = call
        · simp [hCall] at hRest
        · simp only [Function.update_of_ne hCall] at hRest
          exact hOrder.resting other hRest
      · intro other later hLater
        by_cases hCall : other = call
        · subst hCall
          simp only [Function.update_self,
            Option.some.injEq] at hLater
          subst hLater
          exact ⟨[], rfl, by simpa using hNobody⟩
        · simp only [Function.update_of_ne hCall] at hLater
          exact hOrder.taken other later hLater
      · intro other later merchantId idempotencyKey hLater
          hLeft hHeld
        by_cases hCall : other = call
        · subst hCall
          exact absurd hHeld (hNobody _)
        · simp only [Function.update_of_ne hCall] at hLater
          exact hOrder.spared other later _ _ hLater hLeft
            hHeld
  | granted hRunning hLocks hFree =>
      exact hOrder.grant hSpares hRunning hLocks hFree
  | @answered call action draw statement rest system
      hRunning hLocks hDone =>
      refine hOrder.close hRunning
        (capturesOnly_step hOrder.captures hDone)
        (step_effect hDone).2.frame.calls ?_
      intro key hKey
      refine hOrder.holds_claimed hRunning ?_ hDone hKey
      rintro merchantId idempotencyKey _ ⟨⟩ keyRow hClaim
      simp [LockStatement.locks, hClaim] at hLocks
  | committed hRunning hDone =>
      refine hOrder.close hRunning
        (capturesOnly_step hOrder.captures hDone)
        (step_effect hDone).2.frame.calls ?_
      intro key hKey
      refine hOrder.holds_claimed hRunning ?_ hDone hKey
      intro _ _ _ hEmpty
      cases hEmpty
  | undone hRunning =>
      exact hOrder.close hRunning hOrder.captures
        (fun _ _ => rfl) (fun _ hKey => .inl hKey)

------------------------------------------------------------
-- No Cycle
------------------------------------------------------------

/-
  How far a transaction has come.  Whoever it waits for has
  come further, as it holds a row already.
-/
def Sessions.rank
    (state : Sessions)
    (call : CallId) : Nat :=
  match state.running call with
  | none => 3
  | some transaction =>
      match transaction.statements with
      | [] => 3
      | statement :: rest =>
          if lockStatements (state.system.calls call)
                transaction.action =
              statement :: rest then
            0
          else
            match statement with
            | .writeKey _ => 2
            | _ => 1

theorem Sessions.rank_of_first
    {statement : LockStatement}
    {rest : List LockStatement}
    (hRunning :
      state.running call =
        some ⟨action, draw, statement :: rest⟩)
    (hPlan :
      lockStatements (state.system.calls call) action =
        statement :: rest) :
    state.rank call = 0 := by
  simp [Sessions.rank, hRunning, hPlan]

theorem Sessions.rank_of_lockPayment
    {paymentId owner : Uuid}
    {rest : List LockStatement}
    (hRunning :
      state.running call =
        some ⟨action, draw,
          .lockPayment paymentId owner :: rest⟩)
    (hPlan :
      lockStatements (state.system.calls call) action ≠
        .lockPayment paymentId owner :: rest) :
    state.rank call = 1 := by
  simp [Sessions.rank, hRunning, hPlan]

theorem Sessions.rank_of_writeKey
    {key : ClaimedKey}
    {rest : List LockStatement}
    (hRunning :
      state.running call =
        some ⟨action, draw, .writeKey key :: rest⟩)
    (hPlan :
      lockStatements (state.system.calls call) action ≠
        .writeKey key :: rest) :
    state.rank call = 2 := by
  simp [Sessions.rank, hRunning, hPlan]

theorem Sessions.wants_eq_some
    {row : Lockable}
    (hWants : state.wants config call = some row) :
    ∃ action draw statement rest,
      state.running call =
          some ⟨action, draw, statement :: rest⟩ ∧
        statement.row = row := by
  unfold Sessions.wants at hWants
  split at hWants
  · rename_i action draw statement rest hRunning
    split at hWants
    · exact ⟨action, draw, statement, rest, hRunning,
        Option.some.inj hWants⟩
    · cases hWants
  · cases hWants

/- Only a payment or a key row makes anybody wait. -/
theorem LockStatement.row_ne_outboxEvent
    (statement : LockStatement)
    (id : Uuid) :
    statement.row ≠ .outboxEvent id := by
  cases statement <;> exact Lockable.noConfusion

/- An open capture has all its locks. -/
theorem LockOrder.rank_of_openCapture
    (hOrder : LockOrder state)
    (hOpen :
      (state.system.calls call).openCapture.isSome) :
    state.rank call = 3 := by
  unfold Sessions.rank
  split
  · rfl
  · rename_i transaction hRunning
    rcases hOrder.taken call transaction hRunning with
      ⟨past, hPlan, _⟩
    have hNone :
        lockStatements (state.system.calls call)
          transaction.action = [] := by
      cases hCall : state.system.calls call <;>
        rw [hCall] at hOpen <;> cases hOpen
      rfl
    rw [hNone] at hPlan
    have hDone := List.append_eq_nil_iff.mp hPlan.symm
    rw [hDone.2]

/- Whoever is waited for has come further. -/
theorem LockOrder.rank_lt
    {waiter holder : CallId}
    (hOrder : LockOrder state)
    (hWaits :
      (state.waitGraph config).WaitsFor waiter holder) :
    state.rank waiter < state.rank holder := by
  rcases hWaits with ⟨_, row, hWants, hOwner⟩
  rcases Sessions.wants_eq_some hWants with
    ⟨action, draw, statement, rest, hRunning, rfl⟩
  have hWaiting : state.rank waiter < 3 := by
    simp only [Sessions.rank, hRunning]
    split
    · omega
    · split <;> omega
  change state.owner statement.row = some holder at hOwner
  unfold Sessions.owner at hOwner
  split at hOwner
  · rename_i other hHeld
    cases hOwner
    cases hLater : state.running holder with
    | none => exact absurd hHeld (hOrder.resting _ hLater _)
    | some later =>
        rcases later with ⟨act, drawn, _ | ⟨second, left⟩⟩
        · simpa [Sessions.rank, hLater] using hWaiting
        · cases hOrder.stage hLater with
          | empty _ hNone => exact absurd hHeld (hNone _)
          | claimed merchantId _ _ idempotencyKey hHead
              hSecond _ hKeyHeld =>
              have hRow := (hKeyHeld _).mp hHeld
              subst hSecond
              rw [Sessions.rank_of_lockPayment hLater hHead]
              cases hOrder.stage hRunning with
              | empty hPlan _ =>
                  rw [Sessions.rank_of_first hRunning hPlan]
                  exact Nat.zero_lt_one
              | claimed _ _ _ _ _ hStatement =>
                  rw [hStatement] at hRow
                  cases hRow
              | finishing _ key _ hStatement _ hKey =>
                  rw [hRow] at hHeld
                  rw [hStatement] at hRow
                  exact absurd hRow
                    (hOrder.spared holder _ merchantId
                      idempotencyKey hLater
                      (List.cons_ne_nil _ _) hHeld waiter
                      key hKey)
          | finishing _ _ hHead hSecond _ _ hPaymentHeld =>
              have hRow := (hPaymentHeld _).mp hHeld
              subst hSecond
              rw [Sessions.rank_of_writeKey hLater hHead]
              cases hOrder.stage hRunning with
              | empty hPlan _ =>
                  rw [Sessions.rank_of_first hRunning hPlan]
                  exact Nat.zero_lt_two
              | claimed _ _ _ _ hPlan hStatement =>
                  subst hStatement
                  rw [Sessions.rank_of_lockPayment hRunning
                    hPlan]
                  exact Nat.one_lt_two
              | finishing _ _ _ hStatement =>
                  rw [hStatement] at hRow
                  cases hRow
  · rcases hOrder.captures _ _ hOwner with
      ⟨id, hOutbox⟩ | hOpen
    · exact absurd hOutbox (statement.row_ne_outboxEvent id)
    · rw [hOrder.rank_of_openCapture hOpen]
      exact hWaiting

/-
  In a run in which no capture and no refund takes over the
  key of a creation or refund in flight, the transactions
  never wait for each other in a cycle.
-/
theorem lock_order_has_no_cycle
    (config : Config)
    (labels : List SessionLabel)
    (state : Sessions)
    (hSpares :
      Lts.Meets (sessionStep config) (NoLiveTakeover config)
        {} labels)
    (hRun :
      Lts.exec (sessionStep config) {} labels =
        some state) :
    ¬ (state.waitGraph config).Deadlocked := by
  have hOrder : LockOrder state :=
    Lts.invariant_of_meets
      (fun _ _ _ hOrder hMet hStep =>
        lockOrder_step hOrder hMet hStep)
      lockOrder_initial hSpares hRun
  exact WaitGraph.not_deadlocked_of_rank state.rank
    (fun _ _ hWaits => hOrder.rank_lt hWaits)

/- Two captures under one key: the second waits its turn. -/
def queuedCaptures : List SessionLabel :=
  let request : CaptureRequest :=
    { merchantId := 1
      paymentId := 1
      idempotencyKey := "capture" }
  [.begin 0 (.captureBegin request) (.numbered 1),
    .begin 1 (.captureBegin request) (.numbered 2),
    .proceed 0]

theorem lock_order_has_no_cycle_queued :
    ∃ state,
      Lts.exec (sessionStep { sha256 := spellOut }) {}
          queuedCaptures = some state ∧
        (state.waitGraph { sha256 := spellOut }).WaitsFor
          1 0 ∧
        ¬ (state.waitGraph
          { sha256 := spellOut }).Deadlocked := by
  have hRun :
      Lts.exec (sessionStep { sha256 := spellOut }) {}
        queuedCaptures = some _ := rfl
  refine ⟨_, hRun, ⟨by decide, .key 1 "capture", rfl, rfl⟩,
    lock_order_has_no_cycle _ queuedCaptures _ ?_ hRun⟩
  refine ⟨trivial, trivial, ?_, trivial⟩
  rintro _ _ _ _ other key _ _ _ ⟨⟩

/-
  A refund of a captured payment waits so long for the
  provider that its key goes stale.
-/
def slowRefundRun : List Label :=
  capturedRun ++
    [⟨2, .refundBegin
        { merchantId := 1
          paymentId := 1
          idempotencyKey := "refund"
          amountMinor := 60 }, .numbered 8⟩,
      ⟨2, .refundAnswer (.approved "refund") true,
        .numbered 9⟩]

/-
  The answered refund has locked the payment when a retry
  of the same request takes its key over.
-/
def crossedRun : List SessionLabel :=
  [.begin 2 .refundFinish (.numbered 10),
    .proceed 2,
    .begin 3
      (.refundBegin
        { merchantId := 1
          paymentId := 1
          idempotencyKey := "refund"
          amountMinor := 60 })
      (.numbered 11 defaultStaleAfter),
    .proceed 3]

/- Both wait, each for the row the other one holds. -/
theorem takeover_deadlocks :
    ∃ labels state,
      Lts.exec (sessionStep { sha256 := spellOut }) {}
          (labels ++ crossedRun) = some state ∧
        (state.waitGraph
          { sha256 := spellOut }).Deadlocked := by
  have hWaits :
      ((Lts.exec (step { sha256 := spellOut }) {}
        slowRefundRun).bind (fun system =>
          Lts.exec (sessionStep { sha256 := spellOut })
            system.atRest crossedRun)).map (fun state =>
          decide
            (state.wants { sha256 := spellOut } 2 =
                some (.key 1 "refund") ∧
              state.owner (.key 1 "refund") = some 3 ∧
              state.wants { sha256 := spellOut } 3 =
                some (.payment 1) ∧
              state.owner (.payment 1) = some 2)) =
        some true := by
    decide +kernel
  rcases Option.map_eq_some_iff.mp hWaits with
    ⟨state, hBind, hHolds⟩
  rcases Option.bind_eq_some_iff.mp hBind with
    ⟨system, hSlow, hTakeover⟩
  rcases of_decide_eq_true hHolds with
    ⟨hRefund, hRetry, hRetried, hRefunded⟩
  rcases sessions_perform hSlow with ⟨labels, hLabels⟩
  refine ⟨labels, state, ?_, ?_⟩
  · exact Lts.exec_append_eq_some.mpr
      ⟨system.atRest, hLabels, hTakeover⟩
  · exact WaitGraph.deadlocked_of_mutual
      ⟨by decide, _, hRefund, hRetry⟩
      ⟨by decide, _, hRetried, hRefunded⟩

end PayGuard

import PayGuard.System.Filings

/-
  The counters of `create_payment`.

  A creation counts its outcome just before its last commit.
  Its catch-all branch takes a temporary failure for a
  success, so the counters agree with the committed attempts
  in exactly the runs where no creation is answered so.

  Key definitions include:
    * `authorizeCounter`
    * `bumped`
    * `CountsCreations`

  Key theorems include:
    * `createFinish_counted`
    * `counted_step`
    * `total_once`
    * `creations_counted_iff`
    * `temporary_failure_counts_as_success`
-/

------------------------------------------------------------
-- Counters
------------------------------------------------------------

namespace PayGuard

/- The counters that tell creations apart. -/
inductive Counter where
| paymentSuccessTotal
| paymentFailureTotal
| providerTimeoutTotal
deriving DecidableEq, Repr

/- Which branch an authorize outcome takes. -/
def authorizeCounter : ProviderOutcome → Counter
| .declined => .paymentFailureTotal
| .unknown => .providerTimeoutTotal
| _ => .paymentSuccessTotal

/- The last transaction of a blocked payment counts this. -/
def blockCounter
    (db : Database)
    (locked : Option PaymentIntent)
    (draw : Draw) : Option Counter :=
  match locked with
  | none => none
  | some intent =>
      match applyTransition db intent .failed .api
          "payment.blocked" draw with
      | .error _ => none
      | .ok _ => some .paymentFailureTotal

/-
  And that of an authorized one this, also when the flush of
  its provider transaction fails later on.
-/
def finishCounter
    (db : Database)
    (locked : Option PaymentIntent)
    (providerName : String)
    (result : ProviderResult)
    (draw : Draw) : Option Counter :=
  match locked with
  | none => none
  | some intent =>
      let attempt : PaymentAttempt :=
        { id := draw.attempt
          paymentIntentId := intent.id
          providerName := providerName
          status := result.outcome
          failureClassification :=
            failureClassification result.outcome
          attemptNumber := nextAttemptNumber db intent.id
          createdAt := draw.serverNow }
      match insertAttempt db attempt with
      | .error _ => none
      | .ok db =>
          match applyAuthorizeOutcome db intent
              result.outcome draw with
          | .error _ => none
          | .ok _ => some (authorizeCounter result.outcome)

/- The counter a step increments. -/
def bumped
    (config : Config)
    (system : System)
    (label : Label) : Option Counter :=
  match label.action with
  | .createBlock =>
      match system.calls label.call with
      | .createAssessed request _ intent .block =>
          blockCounter system.db
            (lockPayment config.lockRead system.db
              (some intent) intent.id request.merchantId)
            label.draw
      | _ => none
  | .createFinish =>
      match system.calls label.call with
      | .createAuthorized request _ intent result =>
          finishCounter system.db
            (lockPayment config.lockRead system.db
              (some intent) intent.id request.merchantId)
            config.providerName result label.draw
      | _ => none
  | _ => none

/- What a step adds to a counter. -/
def growth
    (config : Config)
    (counter : Counter)
    (system : System)
    (label : Label)
    (_ : System) : Nat :=
  if bumped config system label = some counter then
    1
  else
    0

------------------------------------------------------------
-- What Is To Be Counted
------------------------------------------------------------

/- The steps of `create_payment`. -/
def Action.ofCreate : Action → Bool
| .createBegin _ => true
| .createProcess => true
| .createAssess => true
| .createBlock => true
| .createAuthorize _ => true
| .createFinish => true
| _ => false

/- The attempts with an outcome a creation commits. -/
def attempted
    (outcome : ProviderOutcome)
    (system : System)
    (label : Label)
    (next : System) : Nat :=
  if label.action.ofCreate then
    (next.db.attempts.drop
      system.db.attempts.length).countP
        (fun attempt => attempt.status = outcome)
  else
    0

/- The payments creations leave blocked. -/
def blocked
    (_ : System)
    (label : Label)
    (next : System) : Nat :=
  if label.action = .createBlock ∧
      (next.calls label.call).responded then
    1
  else
    0

/- The claimed creations that run to completion. -/
def completed
    (system : System)
    (label : Label)
    (next : System) : Nat :=
  if label.action.ofCreate ∧
      (system.calls label.call).claimedKey.isSome ∧
        (next.calls label.call).responded then
    1
  else
    0

/- The counters have grown by what the creations have done. -/
structure CountsCreations
    (config : Config)
    (start : System)
    (labels : List Label) : Prop where
  success :
    Lts.total (step config)
        (growth config .paymentSuccessTotal) start labels =
      Lts.total (step config) (attempted .succeeded) start
        labels
  failure :
    Lts.total (step config)
        (growth config .paymentFailureTotal) start labels =
      Lts.total (step config) blocked start labels +
        Lts.total (step config) (attempted .declined) start
          labels +
        Lts.total (step config)
          (attempted .temporaryFailure) start labels
  timeout :
    Lts.total (step config)
        (growth config .providerTimeoutTotal) start labels =
      Lts.total (step config) (attempted .unknown) start
        labels
  once :
    Lts.total (step config)
          (growth config .paymentSuccessTotal) start
          labels +
        Lts.total (step config)
          (growth config .paymentFailureTotal) start
          labels +
        Lts.total (step config)
          (growth config .providerTimeoutTotal) start
          labels =
      Lts.total (step config) completed start labels

/- A creation that gets to its last transaction returns. -/
def FinishReturns
    (config : Config)
    (system : System)
    (label : Label) : Prop :=
  label.action = .createFinish →
    (step config system label).all
      (fun next => (next.calls label.call).responded) = true

instance
    (config : Config)
    (system : System)
    (label : Label) :
    Decidable (FinishReturns config system label) :=
  inferInstanceAs (Decidable (_ → _))

/- The answer a creation is about to store. -/
def Call.answer : Call → Option ProviderOutcome
| .createAuthorized _ _ _ result => some result.outcome
| _ => none

/- No creation stores a temporary failure. -/
def NoTemporaryFailure
    (system : System)
    (label : Label) : Prop :=
  label.action = .createFinish →
    (system.calls label.call).answer ≠
      some .temporaryFailure

instance
    (system : System)
    (label : Label) :
    Decidable (NoTemporaryFailure system label) :=
  inferInstanceAs (Decidable (_ → _))

end PayGuard

------------------------------------------------------------
-- Transactions
------------------------------------------------------------

namespace PayGuard

variable {db db' : Database}
variable {locked : Option PaymentIntent}
variable {keyRowId : Uuid}
variable {response : Response}
variable {draw : Draw}

/- A blocked payment is counted as its block commits. -/
theorem createBlock_counted
    (hBody :
      createBlock db locked keyRowId draw =
        .ok (db', response)) :
    blockCounter db locked draw =
      some .paymentFailureTotal := by
  rcases createBlock_eq_ok hBody with
    ⟨intent, base, moved, rfl, hApply, -, -⟩
  simp only [blockCounter, hApply]

/- A creation that fails to block counts nothing. -/
theorem createBlock_uncounted
    {failure : Failure}
    (hBody :
      createBlock db locked keyRowId draw =
        .error failure) :
    blockCounter db locked draw = none := by
  unfold createBlock at hBody
  cases locked with
  | none => rfl
  | some intent =>
      simp only at hBody
      split at hBody
      · rename_i hApply
        simp only [blockCounter, hApply]
      · cases hBody

/- An authorized one is counted as its attempt commits. -/
theorem createFinish_counted
    {providerName : String}
    {result : ProviderResult}
    (hBody :
      createFinish db locked keyRowId providerName result
        draw = .ok (db', response)) :
    finishCounter db locked providerName result draw =
        some (authorizeCounter result.outcome) ∧
      ∃ attempt : PaymentAttempt,
        attempt.status = result.outcome ∧
          db'.attempts = db.attempts ++ [attempt] := by
  unfold createFinish at hBody
  cases locked with
  | none => cases hBody
  | some intent =>
      simp only at hBody
      split at hBody
      · cases hBody
      · rename_i hAttempt
        have hInserted := insertAttempt_eq_ok hAttempt
        split at hBody
        · cases hBody
        · rename_i base moved hOutcome
          have hMoved :=
            (Moved.of_applyAuthorizeOutcome
              hOutcome).sameFiles
          split at hBody
          · cases hBody
          · rename_i hTransaction
            rcases insertProviderTransaction_eq_ok
              hTransaction with ⟨added, -, hAdded⟩
            cases hBody
            rw [hAdded]
            refine ⟨?_, _, rfl,
              hMoved.attempts.trans (by rw [hInserted])⟩
            simp only [finishCounter, hAttempt, hOutcome]

end PayGuard

------------------------------------------------------------
-- Steps
------------------------------------------------------------

namespace PayGuard

variable {config : Config}
variable {system next start final : System}
variable {label : Label}
variable {labels : List Label}

/- Only its last transaction commits an attempt. -/
theorem Effect.create_attempts
    {call : CallId}
    {draw : Draw}
    {action : Action}
    (hEffect :
      Effect config system call draw action next)
    (hCreate : action.ofCreate = true)
    (hFinish : action ≠ .createFinish) :
    next.db.attempts = system.db.attempts := by
  cases hEffect with
  | quiet hQuiet hTurn => rw [hQuiet.db]
  | createInsert hClaims hBody =>
      exact (createInsert_sameFiles hBody).attempts
  | createProcess hCall hFree hBody =>
      exact (createProcess_sameFiles hBody).attempts
  | createAssess hCall => rfl
  | createBlock hCall hFree hKeyFree hBody =>
      exact (createBlock_sameFiles hBody).attempts
  | createFinish hCall hFree hKeyFree hBody =>
      exact absurd rfl hFinish
  | _ => cases hCreate

theorem attempted_of_create
    (outcome : ProviderOutcome)
    (hFinish : label.action ≠ .createFinish)
    (hStep : step config system label = some next) :
    attempted outcome system label next = 0 := by
  unfold attempted
  split
  · rename_i hCreate
    have hSame :=
      (step_effect hStep).2.create_attempts hCreate hFinish
    rw [hSame, List.drop_length]
    rfl
  · rfl

/- Nor does any other return from under a claimed key. -/
theorem completed_of_other
    (hBlock : label.action ≠ .createBlock)
    (hFinish : label.action ≠ .createFinish)
    (hStep : step config system label = some next) :
    completed system label next = 0 := by
  obtain ⟨call, action, draw⟩ := label
  unfold step at hStep
  split at hStep
  case isFalse => cases hStep
  unfold completed
  apply if_neg
  rintro ⟨hCreate, hClaimed, hReturned⟩
  cases action with
  | createBegin request =>
      simp only [callStep, stepCreateBegin] at hStep
      unfold stepClaim at hStep
      split at hStep
      · rename_i hIdle
        simp only [hIdle] at hClaimed
        cases hClaimed
      · cases hStep
  | createProcess =>
      simp only [callStep, stepCreateProcess] at hStep
      split at hStep
      · split at hStep
        · split at hStep
          · cases hStep
            simp [Call.responded] at hReturned
          · cases hStep
            simp [Call.responded] at hReturned
        · cases hStep
      · cases hStep
  | createAssess =>
      simp only [callStep, stepCreateAssess] at hStep
      split at hStep
      · cases hStep
        simp [Call.responded] at hReturned
      · cases hStep
  | createBlock => exact hBlock rfl
  | createAuthorize result =>
      simp only [callStep, stepCreateAuthorize] at hStep
      split at hStep
      · split at hStep
        · cases hStep
        · cases hStep
          simp [Call.responded] at hReturned
      · cases hStep
  | createFinish => exact hFinish rfl
  | _ => cases hCreate

theorem FinishReturns.responded
    (hReturns : FinishReturns config system label)
    (hAction : label.action = .createFinish)
    (hStep : step config system label = some next) :
    (next.calls label.call).responded = true := by
  have hAll := hReturns hAction
  rwa [hStep] at hAll

/- A block that goes through is counted, no other is. -/
theorem bumped_of_block
    (hAction : label.action = .createBlock)
    (hStep : step config system label = some next) :
    (system.calls label.call).claimedKey.isSome = true ∧
      bumped config system label =
        if (next.calls label.call).responded then
          some .paymentFailureTotal
        else
          none := by
  obtain ⟨call, action, draw⟩ := label
  cases hAction
  unfold step at hStep
  split at hStep
  · simp only [callStep, stepCreateBlock] at hStep
    split at hStep
    · rename_i hCall
      split at hStep
      · simp only [bumped, hCall]
        refine ⟨rfl, ?_⟩
        split at hStep
        · rename_i hBody
          cases hStep
          rw [createBlock_uncounted hBody]
          simp [Call.responded]
        · rename_i hBody
          cases hStep
          rw [createBlock_counted hBody]
          simp [Call.responded]
      · cases hStep
    · cases hStep
  · cases hStep

/- A creation that returns has counted its answer. -/
theorem bumped_of_finish
    (hAction : label.action = .createFinish)
    (hReturns : FinishReturns config system label)
    (hStep : step config system label = some next) :
    ∃ outcome,
      (system.calls label.call).answer = some outcome ∧
        (system.calls label.call).claimedKey.isSome = true ∧
          bumped config system label =
            some (authorizeCounter outcome) ∧
              ∃ attempt : PaymentAttempt,
                attempt.status = outcome ∧
                  next.db.attempts =
                    system.db.attempts ++ [attempt] := by
  have hReturned := hReturns.responded hAction hStep
  obtain ⟨call, action, draw⟩ := label
  cases hAction
  unfold step at hStep
  split at hStep
  · simp only [callStep, stepCreateFinish] at hStep
    split at hStep
    · rename_i request key intent result hCall
      split at hStep
      · split at hStep
        · cases hStep
          simp [Call.responded] at hReturned
        · rename_i hBody
          cases hStep
          have hCounted := createFinish_counted hBody
          simp only [bumped, hCall]
          exact ⟨result.outcome, rfl, rfl, hCounted.1,
            hCounted.2⟩
      · cases hStep
    · cases hStep
  · cases hStep

/- What one step counts is what it has done. -/
structure StepCounted
    (config : Config)
    (system : System)
    (label : Label)
    (next : System) : Prop where
  success :
    growth config .paymentSuccessTotal system label next =
      attempted .succeeded system label next +
        attempted .temporaryFailure system label next
  failure :
    growth config .paymentFailureTotal system label next =
      blocked system label next +
        attempted .declined system label next
  timeout :
    growth config .providerTimeoutTotal system label next =
      attempted .unknown system label next
  once :
    growth config .paymentSuccessTotal system label next +
          growth config .paymentFailureTotal system label
            next +
        growth config .providerTimeoutTotal system label
          next =
      completed system label next

/- A block adds to the failures, or to nothing. -/
theorem counted_block
    (hAction : label.action = .createBlock)
    (hStep : step config system label = some next) :
    StepCounted config system label next := by
  obtain ⟨hClaimed, hBumped⟩ := bumped_of_block hAction hStep
  have hCreate : label.action.ofCreate = true := by
    rw [hAction]
    rfl
  have hNone :
      ∀ outcome, attempted outcome system label next = 0 :=
    fun outcome =>
      attempted_of_create outcome (by rw [hAction]; nofun)
        hStep
  by_cases hReturned :
    (next.calls label.call).responded = true
  · rw [if_pos hReturned] at hBumped
    constructor
    all_goals
      simp [growth, hBumped, hNone, blocked, completed,
        hAction, hReturned, hClaimed, Action.ofCreate]
  · rw [if_neg hReturned] at hBumped
    constructor
    all_goals
      simp [growth, hBumped, hNone, blocked, completed,
        hReturned]

/- A creation that finishes adds to what its answer names. -/
theorem counted_finish
    (hAction : label.action = .createFinish)
    (hReturns : FinishReturns config system label)
    (hStep : step config system label = some next) :
    StepCounted config system label next := by
  obtain ⟨outcome, -, hClaimed, hBumped, attempt, hStatus,
    hAttempts⟩ := bumped_of_finish hAction hReturns hStep
  have hReturned := hReturns.responded hAction hStep
  have hOne :
      ∀ other,
        attempted other system label next =
          if outcome = other then 1 else 0 := by
    intro other
    simp only [attempted, hAction, hAttempts,
      List.drop_left, List.countP_singleton, hStatus,
      Action.ofCreate, if_true, decide_eq_true_eq]
  constructor
  all_goals
    cases outcome <;>
      simp [growth, hBumped, hOne, blocked, completed,
        hAction, hReturned, hClaimed, authorizeCounter,
        Action.ofCreate]

/- The counters follow what every step does. -/
theorem counted_step
    (hReturns : FinishReturns config system label)
    (hStep : step config system label = some next) :
    StepCounted config system label next := by
  by_cases hBlock : label.action = .createBlock
  · exact counted_block hBlock hStep
  by_cases hFinish : label.action = .createFinish
  · exact counted_finish hFinish hReturns hStep
  -- No other branch of the code increments a counter.
  have hBumped : bumped config system label = none := by
    unfold bumped
    split
    · exact absurd ‹_› hBlock
    · exact absurd ‹_› hFinish
    · rfl
  have hNone :
      ∀ outcome, attempted outcome system label next = 0 :=
    fun outcome => attempted_of_create outcome hFinish hStep
  have hCompleted :=
    completed_of_other hBlock hFinish hStep
  constructor
  all_goals
    simp [growth, hBumped, hNone, blocked, hCompleted,
      hBlock]

/- Temporary failures are stored by the steps that miss. -/
theorem attempted_temporaryFailure
    (hReturns : FinishReturns config system label)
    (hStep : step config system label = some next) :
    attempted .temporaryFailure system label next =
      if NoTemporaryFailure system label then
        0
      else
        1 := by
  by_cases hFinish : label.action = .createFinish
  · obtain ⟨outcome, hAnswer, -, -, attempt, hStatus,
      hAttempts⟩ := bumped_of_finish hFinish hReturns hStep
    simp only [attempted, hFinish, hAttempts,
      List.drop_left, List.countP_singleton, hStatus,
      Action.ofCreate, if_true, decide_eq_true_eq,
      NoTemporaryFailure, hAnswer]
    cases outcome <;> simp
  · rw [attempted_of_create _ hFinish hStep]
    simp [NoTemporaryFailure, hFinish]

end PayGuard

------------------------------------------------------------
-- Runs
------------------------------------------------------------

namespace PayGuard

variable {config : Config}
variable {start final : System}
variable {labels : List Label}

theorem total_success
    (hReturns :
      Lts.Meets (step config) (FinishReturns config) start
        labels) :
    Lts.total (step config)
        (growth config .paymentSuccessTotal) start labels =
      Lts.total (step config) (attempted .succeeded) start
          labels +
        Lts.total (step config)
          (attempted .temporaryFailure) start labels := by
  rw [← Lts.total_add]
  refine Lts.total_congr ?_ hReturns
  intro system label next hHere hStep
  exact (counted_step hHere hStep).success

theorem total_failure
    (hReturns :
      Lts.Meets (step config) (FinishReturns config) start
        labels) :
    Lts.total (step config)
        (growth config .paymentFailureTotal) start labels =
      Lts.total (step config) blocked start labels +
        Lts.total (step config) (attempted .declined) start
          labels := by
  rw [← Lts.total_add]
  refine Lts.total_congr ?_ hReturns
  intro system label next hHere hStep
  exact (counted_step hHere hStep).failure

theorem total_timeout
    (hReturns :
      Lts.Meets (step config) (FinishReturns config) start
        labels) :
    Lts.total (step config)
        (growth config .providerTimeoutTotal) start labels =
      Lts.total (step config) (attempted .unknown) start
        labels := by
  refine Lts.total_congr ?_ hReturns
  intro system label next hHere hStep
  exact (counted_step hHere hStep).timeout

theorem total_once
    (hReturns :
      Lts.Meets (step config) (FinishReturns config) start
        labels) :
    Lts.total (step config)
          (growth config .paymentSuccessTotal) start
          labels +
        Lts.total (step config)
          (growth config .paymentFailureTotal) start
          labels +
        Lts.total (step config)
          (growth config .providerTimeoutTotal) start
          labels =
      Lts.total (step config) completed start labels := by
  rw [← Lts.total_add, ← Lts.total_add]
  refine Lts.total_congr ?_ hReturns
  intro system label next hHere hStep
  exact (counted_step hHere hStep).once

/- None is stored where no step stores one. -/
theorem total_temporaryFailure_iff
    (hRun :
      Lts.exec (step config) start labels = some final)
    (hReturns :
      Lts.Meets (step config) (FinishReturns config) start
        labels) :
    Lts.total (step config) (attempted .temporaryFailure)
        start labels = 0 ↔
      Lts.Meets (step config) NoTemporaryFailure start
        labels := by
  have hTemporary :
      Lts.total (step config) (attempted .temporaryFailure)
          start labels =
        Lts.total (step config)
          (fun system label _ =>
            if NoTemporaryFailure system label then
              0
            else
              1)
          start labels := by
    refine Lts.total_congr ?_ hReturns
    intro system label next hHere hStep
    exact attempted_temporaryFailure hHere hStep
  rw [hTemporary]
  exact Lts.total_eq_zero_iff_meets hRun

/-
  Along any run, whatever else it does, the counters agree
  with what the creations commit if and only if none of the
  creations is answered with a temporary failure.
-/
theorem creations_counted_iff
    (config : Config)
    (start : System)
    (labels : List Label)
    (final : System)
    (hRun :
      Lts.exec (step config) start labels = some final)
    (hReturns :
      Lts.Meets (step config) (FinishReturns config) start
        labels) :
    CountsCreations config start labels ↔
      Lts.Meets (step config) NoTemporaryFailure start
        labels := by
  have hSuccess := total_success hReturns
  have hFailure := total_failure hReturns
  rw [← total_temporaryFailure_iff hRun hReturns]
  constructor
  · intro hCounts
    have hAgreed := hCounts.success
    rw [hSuccess] at hAgreed
    omega
  · intro hNone
    rw [hNone, Nat.add_zero] at hSuccess
    exact
      { success := hSuccess
        failure := by rw [hFailure, hNone, Nat.add_zero]
        timeout := total_timeout hReturns
        once := total_once hReturns }

/- An approved creation is counted as a success. -/
theorem creations_counted_approved :
    CountsCreations { sha256 := spellOut } {}
      authorizedRun := by
  have hRuns :
      (Lts.exec (step { sha256 := spellOut }) {}
        authorizedRun).isSome = true := by
    decide +kernel
  obtain ⟨final, hRun⟩ := Option.isSome_iff_exists.mp hRuns
  exact (creations_counted_iff _ _ _ final hRun
    (by decide +kernel)).mpr (by decide +kernel)

/- Payment 1 of merchant 1 is answered "try again". -/
def temporaryFailureRun : List Label :=
  authorizedRun.take 3 ++
    [⟨0, .createAuthorize
        { outcome := .temporaryFailure
          providerTransactionId := none
          rawStatus := "provider_unavailable" }, .numbered 4⟩,
      ⟨0, .createFinish, .numbered 5⟩]

/-
  It runs to completion, leaves the payment without an
  authorization and is counted as a success.
-/
theorem temporary_failure_counts_as_success :
    (Lts.exec (step { sha256 := spellOut }) {}
        temporaryFailureRun).isSome = true ∧
      Lts.Meets (step { sha256 := spellOut })
        (FinishReturns { sha256 := spellOut }) {}
        temporaryFailureRun ∧
      Lts.total (step { sha256 := spellOut })
        (growth { sha256 := spellOut } .paymentSuccessTotal)
        {} temporaryFailureRun = 1 ∧
      ¬ CountsCreations { sha256 := spellOut } {}
        temporaryFailureRun := by
  have hGrowth :
      Lts.total (step { sha256 := spellOut })
        (growth { sha256 := spellOut } .paymentSuccessTotal)
        {} temporaryFailureRun = 1 := by
    decide +kernel
  have hSucceeded :
      Lts.total (step { sha256 := spellOut })
        (attempted .succeeded) {} temporaryFailureRun =
          0 := by
    decide +kernel
  refine ⟨by decide +kernel, by decide +kernel, hGrowth, ?_⟩
  intro hCounts
  have hAgreed := hCounts.success
  rw [hGrowth, hSucceeded] at hAgreed
  cases hAgreed

end PayGuard

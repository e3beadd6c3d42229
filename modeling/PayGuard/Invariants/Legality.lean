import PayGuard.System.Reservations
import PayGuard.System.Lifecycle

/-
  No transaction asks for an illegal transition.

  `apply_transition` validates the change it makes and
  raises where the table does not allow it.  Each caller has
  read the status it starts from under the lock, or knows it
  from what only its own call can have done since.

  Key definitions include:
    * `Call.illegal`
    * `CreationsStored`

  Key theorems include:
    * `no_illegal_transition`
-/

------------------------------------------------------------
-- Illegal Transitions
------------------------------------------------------------

namespace PayGuard

def Failure.isIllegal : Failure → Bool
| .invalidStateTransition _ _ _ => true
| _ => false

/- The exception a call fails or has ended with. -/
def Call.failure : Call → Option Failure
| .failing _ failure => some failure
| .failureSeen _ failure => some failure
| .done (.raised failure) => some failure
| _ => none

/- `validate_payment_transition` has raised in the call. -/
def Call.illegal (call : Call) : Prop :=
  ∃ failure,
    call.failure = some failure ∧ failure.isIllegal = true

/- The environment raises this exception in the call. -/
def Label.raisesIllegal
    (call : CallId)
    (label : Label) : Prop :=
  label.call = call ∧
    ∃ failure,
      label.action = .raise failure ∧
        failure.isIllegal = true

variable {db db' : Database}
variable {locked : Option PaymentIntent}
variable {intent moved : PaymentIntent}
variable {keyRow : IdempotencyKey}
variable {keyRowId paymentId : Uuid}
variable {providerName : String}
variable {result : ProviderResult}
variable {failure : Failure}
variable {draw : Draw}

/- A transition raises only where it is not allowed. -/
theorem applyTransition_eq_error
    {toStatus : PaymentStatus}
    {actor : Actor}
    {eventType : String}
    (hApply :
      applyTransition db intent toStatus actor eventType
        draw = .error failure) :
    isValidPaymentTransition intent.status toStatus
      (some actor) = false := by
  unfold applyTransition at hApply
  split at hApply
  · cases hApply
  · rename_i hInvalid
    simpa using hInvalid

theorem insertAttempt_legal
    {attempt : PaymentAttempt}
    (hInsert : insertAttempt db attempt = .error failure) :
    failure.isIllegal = false := by
  unfold insertAttempt at hInsert
  split at hInsert
  · cases hInsert
    rfl
  · cases hInsert

theorem insertProviderTransaction_legal
    {attemptId : Uuid}
    (hInsert :
      insertProviderTransaction db attemptId providerName
        result = .error failure) :
    failure.isIllegal = false := by
  unfold insertProviderTransaction at hInsert
  split at hInsert
  · cases hInsert
  · split at hInsert
    · cases hInsert
      rfl
    · cases hInsert

theorem createInsert_legal
    {indexable : PyString → Bool}
    {request : CreateRequest}
    (hBody :
      createInsert indexable db request keyRow draw =
        .error failure) :
    failure.isIllegal = false := by
  unfold createInsert insertPayment at hBody
  simp only at hBody
  split at hBody
  · rename_i hInsert
    cases hBody
    split at hInsert
    · cases hInsert
      rfl
    · split at hInsert
      · cases hInsert
        rfl
      · split at hInsert
        · cases hInsert
          rfl
        · split at hInsert
          · cases hInsert
            rfl
          · cases hInsert
  · cases hBody

theorem createProcess_legal
    (hLocked :
      ∀ row, locked = some row → row.status = .created)
    (hBody :
      createProcess db locked draw = .error failure) :
    failure.isIllegal = false := by
  unfold createProcess at hBody
  cases locked with
  | none =>
      cases hBody
      rfl
  | some row =>
      have hInvalid := applyTransition_eq_error hBody
      rw [hLocked row rfl] at hInvalid
      cases hInvalid

theorem createBlock_legal
    (hLocked :
      ∀ row, locked = some row → row.status = .processing)
    (hBody :
      createBlock db locked keyRowId draw =
        .error failure) :
    failure.isIllegal = false := by
  unfold createBlock at hBody
  cases locked with
  | none =>
      cases hBody
      rfl
  | some row =>
      simp only at hBody
      split at hBody
      · rename_i hApply
        have hInvalid := applyTransition_eq_error hApply
        rw [hLocked row rfl] at hInvalid
        cases hInvalid
      · cases hBody

theorem applyAuthorizeOutcome_eq_error
    {outcome : ProviderOutcome}
    (hStatus : intent.status = .processing) :
    applyAuthorizeOutcome db intent outcome draw ≠
      .error failure := by
  intro hApply
  unfold applyAuthorizeOutcome at hApply
  cases outcome with
  | declined =>
      have hInvalid := applyTransition_eq_error hApply
      rw [hStatus] at hInvalid
      cases hInvalid
  | unknown =>
      have hInvalid := applyTransition_eq_error hApply
      rw [hStatus] at hInvalid
      cases hInvalid
  | succeeded => cases hApply
  | temporaryFailure => cases hApply

theorem createFinish_legal
    (hLocked :
      ∀ row, locked = some row → row.status = .processing)
    (hBody :
      createFinish db locked keyRowId providerName result
        draw = .error failure) :
    failure.isIllegal = false := by
  unfold createFinish at hBody
  cases locked with
  | none =>
      cases hBody
      rfl
  | some row =>
      simp only at hBody
      split at hBody
      · rename_i hInsert
        cases hBody
        exact insertAttempt_legal hInsert
      · split at hBody
        · rename_i hApply
          exact absurd hApply
            (applyAuthorizeOutcome_eq_error
              (hLocked row rfl))
        · split at hBody
          · rename_i hInsert
            cases hBody
            exact insertProviderTransaction_legal hInsert
          · cases hBody

theorem captureCheck_legal
    (hBody :
      captureCheck db locked paymentId = .error failure) :
    failure.isIllegal = false := by
  unfold captureCheck at hBody
  cases locked with
  | none =>
      cases hBody
      rfl
  | some row =>
      simp only at hBody
      split at hBody
      · cases hBody
      · split at hBody
        · cases hBody
          rfl
        · split at hBody
          · cases hBody
            rfl
          · cases hBody

/- A capture that holds a `PROCESSING` payment succeeds. -/
theorem captureFinish_ne_error
    (hStatus : intent.status = .processing) :
    captureFinish db intent keyRow result draw ≠
      .error failure := by
  intro hBody
  unfold captureFinish at hBody
  split at hBody
  · rename_i hApply
    unfold applyCaptureOutcome at hApply
    split at hApply
    · split at hApply
      · rename_i hTransition
        have hInvalid := applyTransition_eq_error hTransition
        rw [hStatus] at hInvalid
        cases hInvalid
      · cases hApply
    all_goals
      have hInvalid := applyTransition_eq_error hApply
      rw [hStatus] at hInvalid
      cases hInvalid
  · cases hBody

/- What may be refunded may also become `REFUND_PENDING`. -/
theorem enterRefundPending_ne_error
    (hSource : intent.status.isRefundableSource = true) :
    enterRefundPending db intent draw ≠ .error failure := by
  intro hEnter
  unfold enterRefundPending at hEnter
  split at hEnter
  · cases hEnter
  · rename_i hStatus
    have hInvalid := applyTransition_eq_error hEnter
    revert hSource hStatus hInvalid
    cases intent.status <;> decide

theorem refundReserve_legal
    {request : RefundRequest}
    (hBody :
      refundReserve db locked request keyRow draw =
        .error failure) :
    failure.isIllegal = false := by
  unfold refundReserve at hBody
  cases locked with
  | none =>
      cases hBody
      rfl
  | some row =>
      simp only at hBody
      split at hBody
      · cases hBody
        rfl
      · rename_i hSource
        split at hBody
        · cases hBody
          rfl
        · split at hBody
          · cases hBody
            rfl
          · split at hBody
            · rename_i hInsert
              cases hBody
              unfold insertRefund at hInsert
              split at hInsert
              · cases hInsert
                rfl
              · split at hInsert
                · cases hInsert
                  rfl
                · cases hInsert
            · split at hBody
              · rename_i hEnter
                exact absurd hEnter
                  (enterRefundPending_ne_error
                    (by simpa using hSource))
              · cases hBody

theorem leaveRefundPending_ne_error :
    leaveRefundPending db intent draw ≠ .error failure := by
  intro hLeave
  unfold leaveRefundPending at hLeave
  split at hLeave
  · rename_i hPending
    split at hLeave
    · have hInvalid := applyTransition_eq_error hLeave
      rw [hPending.2] at hInvalid
      cases hInvalid
    · split at hLeave
      · have hInvalid := applyTransition_eq_error hLeave
        rw [hPending.2] at hInvalid
        cases hInvalid
      · have hInvalid := applyTransition_eq_error hLeave
        rw [hPending.2] at hInvalid
        cases hInvalid
  · cases hLeave

theorem refundFinalize_legal
    {refund : Refund}
    (hBody :
      refundFinalize db locked refund keyRowId result draw =
        .error failure) :
    failure.isIllegal = false := by
  unfold refundFinalize at hBody
  cases locked with
  | none =>
      cases hBody
      rfl
  | some row =>
      simp only at hBody
      split at hBody
      · rename_i hLeave
        exact absurd hLeave leaveRefundPending_ne_error
      · cases hBody

/- The webhook handler asks the table before it moves. -/
theorem handlePaymentOutcome_legal
    {webhookEventId : Uuid}
    {targetStatus : PaymentStatus}
    (hBody :
      handlePaymentOutcome db locked webhookEventId
        targetStatus draw = .error failure) :
    failure.isIllegal = false := by
  unfold handlePaymentOutcome at hBody
  cases locked with
  | none =>
      cases hBody
      rfl
  | some row =>
      simp only at hBody
      split at hBody
      · cases hBody
      · split at hBody
        · cases hBody
        · rename_i hValid
          split at hBody
          · rename_i hApply
            have hInvalid := applyTransition_eq_error hApply
            rw [hInvalid] at hValid
            simp at hValid
          · cases hBody

theorem reconcileCheck_legal
    {pick : Uuid}
    (hBody :
      reconcileCheck db locked paymentId pick =
        .error failure) :
    failure.isIllegal = false := by
  unfold reconcileCheck at hBody
  cases locked with
  | none =>
      cases hBody
      rfl
  | some row =>
      simp only at hBody
      split at hBody
      · cases hBody
      · split at hBody
        · cases hBody
        · cases hBody

theorem resolve_legal
    (hStatus : intent.status = .unknown)
    (hBody :
      resolve db intent providerName result draw =
        .error failure) :
    failure.isIllegal = false := by
  unfold resolve resolveSucceeded resolveFailed at hBody
  simp only at hBody
  split at hBody
  · split at hBody
    · rename_i hResolve
      cases hBody
      split at hResolve
      · rename_i hInsert
        cases hResolve
        exact insertAttempt_legal hInsert
      · split at hResolve
        · rename_i hApply
          have hInvalid := applyTransition_eq_error hApply
          rw [hStatus] at hInvalid
          cases hInvalid
        · exact insertProviderTransaction_legal hResolve
    · cases hBody
  · split at hBody
    · rename_i hResolve
      cases hBody
      split at hResolve
      · rename_i hApply
        have hInvalid := applyTransition_eq_error hApply
        rw [hStatus] at hInvalid
        cases hInvalid
      · exact insertAttempt_legal hResolve
    · cases hBody

theorem reconcileApply_legal
    (hBody :
      reconcileApply db locked providerName result draw =
        .error failure) :
    failure.isIllegal = false := by
  unfold reconcileApply at hBody
  cases locked with
  | none =>
      cases hBody
      rfl
  | some row =>
      simp only at hBody
      split at hBody
      · cases hBody
      · rename_i hStatus
        have hUnknown := not_not.mp hStatus
        split at hBody
        · split at hBody
          · rename_i hApply
            have hInvalid := applyTransition_eq_error hApply
            rw [hUnknown] at hInvalid
            cases hInvalid
          · cases hBody
        · split at hBody
          · cases hBody
          · split at hBody
            · cases hBody
            · exact resolve_legal hUnknown hBody

end PayGuard

------------------------------------------------------------
-- Steps
------------------------------------------------------------

namespace PayGuard

@[simp] theorem illegal_failing
    (key : ClaimedKey)
    (failure : Failure) :
    (Call.failing key failure).illegal ↔
      failure.isIllegal = true := by
  simp [Call.illegal, Call.failure]

@[simp] theorem illegal_failureSeen
    (key : ClaimedKey)
    (failure : Failure) :
    (Call.failureSeen key failure).illegal ↔
      failure.isIllegal = true := by
  simp [Call.illegal, Call.failure]

@[simp] theorem illegal_raised
    (failure : Failure) :
    (Call.done (.raised failure)).illegal ↔
      failure.isIllegal = true := by
  simp [Call.illegal, Call.failure]

theorem not_illegal_of_failure_eq_none
    {position : Call}
    (hNone : position.failure = none) :
    ¬ position.illegal := by
  rintro ⟨failure, hFailure, _⟩
  rw [hNone] at hFailure
  cases hFailure

variable {config : Config}
variable {system next : System}
variable {call : CallId}
variable {draw : Draw}

/- A claim that is refused is refused for other reasons. -/
theorem stepClaim_legal
    {merchantId : Uuid}
    {idempotencyKey fingerprint : String}
    {work : IdempotencyKey → Option System}
    (hWork :
      ∀ keyRow,
        work keyRow = some next →
          ¬ (next.calls call).illegal)
    (hStep :
      stepClaim system call merchantId idempotencyKey
        fingerprint draw work = some next) :
    ¬ (next.calls call).illegal := by
  unfold stepClaim at hStep
  split at hStep
  · split at hStep
    · cases hStep
    · cases hStep
      simp [keyReused, Failure.isIllegal]
    · cases hStep
      simp [requestInProgress, Failure.isIllegal]
    · cases hStep
      simp [Call.illegal, Call.failure]
    · split at hStep
      · exact hWork _ hStep
      · cases hStep
  · cases hStep

theorem stepCreateBegin_legal
    {request : CreateRequest}
    (hStep :
      stepCreateBegin config system call request draw =
        some next) :
    ¬ (next.calls call).illegal := by
  refine stepClaim_legal ?_ hStep
  intro keyRow hWork
  split at hWork
  · rename_i hBody
    cases hWork
    simp [createInsert_legal hBody]
  · cases hWork
    simp [Call.illegal, Call.failure]

/- The row a creation locks has the status it left there. -/
theorem Provenance.locked_status
    {intent row : PaymentIntent}
    {status : PaymentStatus}
    {merchantId : Uuid}
    (hProvenance : Provenance system)
    (hCurrent : config.lockRead = .current)
    (hCreating :
      (system.calls call).creating = some (intent, status))
    (hLocked :
      lockPayment config.lockRead system.db (some intent)
        intent.id merchantId = some row) :
    row.status = status := by
  rw [hCurrent, lockPayment_current] at hLocked
  rcases selectPayment_eq_some hLocked with ⟨hRow, hId, _⟩
  exact (hProvenance.creating call intent status
    hCreating).rows row hRow hId

theorem stepCreateProcess_legal
    (hProvenance : Provenance system)
    (hCurrent : config.lockRead = .current)
    (hStep :
      stepCreateProcess config system call draw =
        some next) :
    ¬ (next.calls call).illegal := by
  unfold stepCreateProcess at hStep
  split at hStep
  · rename_i hCall
    split at hStep
    · split at hStep
      · rename_i hBody
        cases hStep
        have hLegal :=
          createProcess_legal
            (fun row hLocked =>
              hProvenance.locked_status hCurrent
                (by rw [hCall]; rfl) hLocked)
            hBody
        simp [hLegal]
      · cases hStep
        simp [Call.illegal, Call.failure]
    · cases hStep
  · cases hStep

theorem stepCreateBlock_legal
    (hProvenance : Provenance system)
    (hCurrent : config.lockRead = .current)
    (hStep :
      stepCreateBlock config system call draw = some next) :
    ¬ (next.calls call).illegal := by
  unfold stepCreateBlock at hStep
  split at hStep
  · rename_i hCall
    split at hStep
    · split at hStep
      · rename_i hBody
        cases hStep
        have hLegal :=
          createBlock_legal
            (fun row hLocked =>
              hProvenance.locked_status hCurrent
                (by rw [hCall]; rfl) hLocked)
            hBody
        simp [hLegal]
      · cases hStep
        simp [Call.illegal, Call.failure]
    · cases hStep
  · cases hStep

theorem stepCreateFinish_legal
    (hProvenance : Provenance system)
    (hCurrent : config.lockRead = .current)
    (hStep :
      stepCreateFinish config system call draw =
        some next) :
    ¬ (next.calls call).illegal := by
  unfold stepCreateFinish at hStep
  split at hStep
  · rename_i hCall
    split at hStep
    · split at hStep
      · rename_i hBody
        cases hStep
        have hLegal :=
          createFinish_legal
            (fun row hLocked =>
              hProvenance.locked_status hCurrent
                (by rw [hCall]; rfl) hLocked)
            hBody
        simp [hLegal]
      · cases hStep
        simp [Call.illegal, Call.failure]
    · cases hStep
  · cases hStep

theorem stepCaptureBegin_legal
    {request : CaptureRequest}
    (hStep :
      stepCaptureBegin config system call request draw =
        some next) :
    ¬ (next.calls call).illegal := by
  refine stepClaim_legal ?_ hStep
  intro keyRow hWork
  split at hWork
  · split at hWork
    · rename_i hBody
      cases hWork
      simp [captureCheck_legal hBody]
    · cases hWork
      simp [Call.illegal, Call.failure]
    · cases hWork
      simp [Call.illegal, Call.failure]
  · cases hWork

theorem stepCaptureFinish_legal
    {result : ProviderResult}
    (hHeld : CapturesHeld system)
    (hStep :
      stepCaptureFinish system call result draw =
        some next) :
    ¬ (next.calls call).illegal := by
  unfold stepCaptureFinish at hStep
  split at hStep
  · rename_i hCall
    split at hStep
    · simp only at hStep
      split at hStep
      · rename_i hBody
        have hStatus :=
          hHeld.status call _ (by rw [hCall]; rfl)
        exact absurd hBody (captureFinish_ne_error hStatus)
      · cases hStep
        simp [Call.illegal, Call.failure]
    · cases hStep
  · cases hStep

theorem stepRefundBegin_legal
    {request : RefundRequest}
    (hStep :
      stepRefundBegin config system call request draw =
        some next) :
    ¬ (next.calls call).illegal := by
  refine stepClaim_legal ?_ hStep
  intro keyRow hWork
  split at hWork
  · split at hWork
    · rename_i hBody
      cases hWork
      simp [refundReserve_legal hBody]
    · cases hWork
      simp [Call.illegal, Call.failure]
  · cases hWork

theorem stepRefundFinish_legal
    (hStep :
      stepRefundFinish config system call draw =
        some next) :
    ¬ (next.calls call).illegal := by
  unfold stepRefundFinish at hStep
  split at hStep
  · split at hStep
    · split at hStep
      · rename_i hBody
        cases hStep
        simp [refundFinalize_legal hBody]
      · cases hStep
        simp [Call.illegal, Call.failure]
    · cases hStep
  · cases hStep

theorem stepDispatchFinish_legal
    (hStep :
      stepDispatchFinish config system call draw =
        some next) :
    ¬ (next.calls call).illegal := by
  unfold stepDispatchFinish at hStep
  split at hStep
  · split at hStep
    · split at hStep
      · rename_i hBody
        cases hStep
        have hLegal := by
          unfold dispatchEffect at hBody
          split at hBody
          · cases hBody
          · cases hBody
          · exact handlePaymentOutcome_legal hBody
        simp [hLegal]
      · cases hStep
        simp [Call.illegal, Call.failure]
    · cases hStep
  · cases hStep

theorem reconcileLock_legal
    {loaded : Option PaymentIntent}
    {paymentId merchantId pick : Uuid}
    (hStep :
      reconcileLock config system call loaded paymentId
        merchantId pick = some next) :
    ¬ (next.calls call).illegal := by
  unfold reconcileLock at hStep
  split at hStep
  · split at hStep
    · rename_i hBody
      cases hStep
      simp [reconcileCheck_legal hBody]
    · cases hStep
      simp [Call.illegal, Call.failure]
    · cases hStep
      simp [Call.illegal, Call.failure]
  · cases hStep

theorem stepReconcileApply_legal
    (hStep :
      stepReconcileApply config system call draw =
        some next) :
    ¬ (next.calls call).illegal := by
  unfold stepReconcileApply at hStep
  split at hStep
  · split at hStep
    · split at hStep
      · rename_i hBody
        cases hStep
        simp [reconcileApply_legal hBody]
      · cases hStep
        simp [Call.illegal, Call.failure]
    · cases hStep
  · cases hStep

/- An exception the environment raises is its own. -/
theorem stepRaise_legal
    {failure : Failure}
    (hFailure : failure.isIllegal = false)
    (hStep : stepRaise system call failure = some next) :
    ¬ (next.calls call).illegal := by
  unfold stepRaise at hStep
  split at hStep <;> cases hStep
  all_goals simp [hFailure]

theorem stepFailRead_legal
    (hLegal : ¬ (system.calls call).illegal)
    (hStep : stepFailRead system call = some next) :
    ¬ (next.calls call).illegal := by
  unfold stepFailRead at hStep
  split at hStep
  · rename_i hCall
    rw [hCall] at hLegal
    split at hStep
    · cases hStep
      simpa using hLegal
    · split at hStep
      · cases hStep
        simpa using hLegal
      · cases hStep
        simpa using hLegal
  · cases hStep

theorem stepFailWrite_legal
    (hLegal : ¬ (system.calls call).illegal)
    (hStep : stepFailWrite system call = some next) :
    ¬ (next.calls call).illegal := by
  unfold stepFailWrite at hStep
  split at hStep
  · rename_i hCall
    rw [hCall] at hLegal
    split at hStep
    · cases hStep
      simpa using hLegal
    · cases hStep
  · cases hStep

theorem stepDie_legal
    (hStep : stepDie system call = some next) :
    ¬ (next.calls call).illegal := by
  unfold stepDie at hStep
  split at hStep
  · cases hStep
  · cases hStep
  · cases hStep
  · cases hStep
    simp [Call.illegal, Call.failure]

/- No action of the system raises the exception. -/
theorem callStep_legal
    {action : Action}
    (hLifecycle : Lifecycle system)
    (hCurrent : config.lockRead = .current)
    (hRaise :
      ∀ failure,
        action = .raise failure → failure.isIllegal = false)
    (hLegal : ¬ (system.calls call).illegal)
    (hStep :
      callStep config system call draw action =
        some next) :
    ¬ (next.calls call).illegal := by
  have hProvenance := hLifecycle.provenance
  cases action with
  | createBegin request => exact stepCreateBegin_legal hStep
  | createProcess =>
      exact stepCreateProcess_legal hProvenance hCurrent
        hStep
  | createAssess =>
      simp only [callStep, stepCreateAssess] at hStep
      split at hStep
      · cases hStep
        simp [Call.illegal, Call.failure]
      · cases hStep
  | createBlock =>
      exact stepCreateBlock_legal hProvenance hCurrent hStep
  | createAuthorize result =>
      simp only [callStep, stepCreateAuthorize] at hStep
      split at hStep
      · split at hStep
        · cases hStep
        · cases hStep
          simp [Call.illegal, Call.failure]
      · cases hStep
  | createFinish =>
      exact stepCreateFinish_legal hProvenance hCurrent hStep
  | captureBegin request =>
      exact stepCaptureBegin_legal hStep
  | captureFinish result =>
      exact stepCaptureFinish_legal hLifecycle.held.captures
        hStep
  | refundBegin request => exact stepRefundBegin_legal hStep
  | refundAnswer result executed =>
      simp only [callStep, stepRefundAnswer] at hStep
      split at hStep
      · split at hStep
        · cases hStep
          simp [Call.illegal, Call.failure]
        · cases hStep
      · cases hStep
  | refundFinish => exact stepRefundFinish_legal hStep
  | receiveWebhook delivery =>
      simp only [callStep, stepReceiveWebhook] at hStep
      split at hStep
      · cases hStep
        simp [Call.illegal, Call.failure]
      · cases hStep
  | dispatchBegin outboxEventId pick =>
      simp only [callStep, stepDispatchBegin] at hStep
      split at hStep
      · split at hStep
        · cases hStep
        · split at hStep
          · cases hStep
            simp [Call.illegal, Call.failure]
          · cases hStep
      · cases hStep
  | dispatchFinish => exact stepDispatchFinish_legal hStep
  | reconcileLoad paymentId merchantId =>
      simp only [callStep, stepReconcileLoad] at hStep
      split at hStep
      · split at hStep
        · cases hStep
        · split at hStep
          · cases hStep
            simp [Call.illegal, Call.failure]
          · cases hStep
      · cases hStep
  | reconcileBegin paymentId merchantId pick =>
      simp only [callStep, stepReconcileBegin] at hStep
      split at hStep
      · exact reconcileLock_legal hStep
      · cases hStep
  | reconcileNext pick =>
      simp only [callStep, stepReconcileNext] at hStep
      split at hStep
      · exact reconcileLock_legal hStep
      · cases hStep
  | reconcileAnswer result =>
      simp only [callStep, stepReconcileAnswer] at hStep
      split at hStep
      · cases hStep
        simp [Call.illegal, Call.failure]
      · cases hStep
  | reconcileApply => exact stepReconcileApply_legal hStep
  | reconcileReport =>
      simp only [callStep, stepReconcileReport] at hStep
      split at hStep
      · cases hStep
        simp [Call.illegal, Call.failure]
      · cases hStep
  | raise failure =>
      exact stepRaise_legal (hRaise failure rfl) hStep
  | failRead => exact stepFailRead_legal hLegal hStep
  | failWrite => exact stepFailWrite_legal hLegal hStep
  | die => exact stepDie_legal hStep

theorem step_legal
    {label : Label}
    (hLifecycle : Lifecycle system)
    (hCurrent : config.lockRead = .current)
    (hRaise : ¬ label.raisesIllegal call)
    (hLegal : ¬ (system.calls call).illegal)
    (hStep : step config system label = some next) :
    ¬ (next.calls call).illegal := by
  by_cases hCall : call = label.call
  · subst hCall
    have hOther :
        ∀ failure,
          label.action = .raise failure →
            failure.isIllegal = false := by
      intro failure hAction
      by_contra hIllegal
      exact hRaise ⟨rfl, failure, hAction,
        by simpa using hIllegal⟩
    unfold step at hStep
    split at hStep
    · exact callStep_legal hLifecycle hCurrent hOther hLegal
        hStep
    · cases hStep
  · rw [(step_effect hStep).2.frame.calls call hCall]
    exact hLegal

end PayGuard

------------------------------------------------------------
-- The Lock After The Provider's Answer
------------------------------------------------------------

namespace PayGuard

open Lts

/- The payment a call creates, and for which merchant. -/
def Call.creation : Call → Option (Uuid × Uuid)
| .createClaimed request _ intent =>
    some (intent.id, request.merchantId)
| .createProcessing request _ intent =>
    some (intent.id, request.merchantId)
| .createAssessed request _ intent _ =>
    some (intent.id, request.merchantId)
| .createAuthorized request _ intent _ =>
    some (intent.id, request.merchantId)
| _ => none

/- What a creation will lock is stored. -/
def CreationsStored (system : System) : Prop :=
  ∀ call paymentId merchantId,
    (system.calls call).creation =
        some (paymentId, merchantId) →
      ∃ row ∈ system.db.payments,
        row.id = paymentId ∧ row.merchantId = merchantId

variable {config : Config}
variable {system next : System}
variable {call : CallId}
variable {draw : Draw}
variable {action : Action}
variable {paymentId merchantId : Uuid}

theorem Turn.creation
    {position : Call}
    (hTurn : Turn config system call draw action position)
    (hCreation :
      position.creation = some (paymentId, merchantId)) :
    (system.calls call).creation =
      some (paymentId, merchantId) := by
  cases hTurn with
  | authorized hCall =>
      rw [hCall]
      exact hCreation
  | @begun _ _ _ check _ =>
      cases check <;> cases hCreation
  | @continued _ _ check _ _ =>
      cases check <;> cases hCreation
  | _ => cases hCreation

theorem Effect.creation
    (hEffect :
      Effect config system call draw action next)
    (hCreation :
      (next.calls call).creation =
        some (paymentId, merchantId)) :
    (system.calls call).creation =
        some (paymentId, merchantId) ∨
      ∃ row ∈ next.db.payments,
        row.id = paymentId ∧ row.merchantId = merchantId := by
  cases hEffect with
  | quiet _ hTurn => exact .inl (hTurn.creation hCreation)
  | createInsert _ hBody =>
      simp only [System.recordOrigin_calls,
        System.commit_calls_self, Call.creation,
        Option.some.injEq, Prod.mk.injEq] at hCreation
      rcases createInsert_eq_ok hBody with ⟨hIntent, _, _⟩
      have hPayments := (createInsert_rows hBody).2.2
      refine .inr ⟨_, ?_, hCreation.1, ?_⟩
      · simp only [System.recordOrigin_db, System.commit_db,
          hPayments]
        simp
      · rw [hIntent]
        exact hCreation.2
  | createProcess hCall _ hBody =>
      simp only [System.commit_calls_self, Call.creation,
        Option.some.injEq, Prod.mk.injEq] at hCreation
      rcases createProcess_rows hBody with
        ⟨locked, hLocked, hId, _⟩
      rw [hCall, ← hCreation.1, ← hCreation.2, hId,
        lockPayment_id hLocked]
      exact .inl rfl
  | createAssess hCall =>
      simp only [System.commit_calls_self] at hCreation
      rw [hCall]
      exact .inl hCreation
  | _ => simp [Call.creation] at hCreation

theorem creationsStored_step
    {label : Label}
    (hStored : CreationsStored system)
    (hHeld : CapturesHeld system)
    (hStep : step config system label = some next) :
    CreationsStored next := by
  rcases step_effect hStep with ⟨hAdmits, hEffect⟩
  have hTrail := hEffect.trailStep hHeld hAdmits
  intro other paymentId merchantId hCreation
  have hBefore :
      (system.calls other).creation =
          some (paymentId, merchantId) ∨
        ∃ row ∈ next.db.payments,
          row.id = paymentId ∧
            row.merchantId = merchantId := by
    by_cases hOther : other = label.call
    · subst hOther
      exact hEffect.creation hCreation
    · rw [hEffect.frame.calls other hOther] at hCreation
      exact .inl hCreation
  rcases hBefore with hBefore | hRow
  · rcases hStored other _ _ hBefore with
      ⟨row, hRow, hId, hMerchant⟩
    rcases hTrail.exists_new hRow with
      ⟨kept, hKept, hKeptId, hKeptMerchant⟩
    exact ⟨kept, hKept, hKeptId.trans hId,
      hKeptMerchant.trans hMerchant⟩
  · exact hRow

/- A stored payment is found under its merchant. -/
theorem selectPayment_isSome
    {db : Database}
    (hStored :
      ∃ row ∈ db.payments,
        row.id = paymentId ∧ row.merchantId = merchantId) :
    ∃ row,
      db.selectPayment paymentId merchantId = some row := by
  rcases hStored with ⟨row, hRow, hId, hMerchant⟩
  rw [← Option.isSome_iff_exists]
  unfold Database.selectPayment
  rw [List.find?_isSome]
  exact ⟨row, hRow, by simp [hId, hMerchant]⟩

/-
  Only the environment can make a call end with an invalid
  transition, and a creation that locks its payment after
  the provider's answer finds it as it left it.
-/
theorem no_illegal_transition
    {config : Config}
    {labels : List Label}
    {system : System}
    (hCurrent : config.lockRead = .current)
    (hRun : exec (step config) {} labels = some system) :
    (∀ call,
        (system.calls call).illegal →
          ∃ label ∈ labels, label.raisesIllegal call) ∧
      ∀ call request key intent result,
        system.calls call =
            .createAuthorized request key intent result →
          ∃ row,
            lockPayment config.lockRead system.db
                (some intent) intent.id request.merchantId =
              some row ∧
            row.status = .processing ∧
            ∀ attempt ∈ system.db.attempts,
              attempt.paymentIntentId ≠ intent.id := by
  have hLifecycle := lifecycle_of_exec hRun
  constructor
  · intro call hIllegal
    by_contra hNone
    have hMeets :
        Meets (step config)
          (fun _ label => ¬ label.raisesIllegal call) {}
          labels := by
      apply meets_of_forall
      intro label hLabel _ hRaises
      exact hNone ⟨label, hLabel, hRaises⟩
    have hKeep :
        ∀ (state : System) (label : Label) (next : System),
          (Lifecycle state ∧ ¬ (state.calls call).illegal) →
            ¬ label.raisesIllegal call →
              step config state label = some next →
                (Lifecycle next ∧
                  ¬ (next.calls call).illegal) := by
      intro state label next hState hLabel hStep
      exact ⟨lifecycle_step hState.1 hStep,
        step_legal hState.1 hCurrent hLabel hState.2 hStep⟩
    have hStart :
        Lifecycle {} ∧
          ¬ (({} : System).calls call).illegal :=
      ⟨lifecycle_initial, not_illegal_of_failure_eq_none rfl⟩
    exact (invariant_of_meets hKeep hStart hMeets
      hRun).2 hIllegal
  · intro call request key intent result hCall
    have hKeep :
        ∀ (state : System) (label : Label) (next : System),
          (Lifecycle state ∧ CreationsStored state) →
            step config state label = some next →
              (Lifecycle next ∧ CreationsStored next) := by
      intro state label next hState hStep
      exact ⟨lifecycle_step hState.1 hStep,
        creationsStored_step hState.2 hState.1.held.captures
          hStep⟩
    have hStart : Lifecycle {} ∧ CreationsStored {} := by
      refine ⟨lifecycle_initial, ?_⟩
      intro call paymentId merchantId hCreation
      cases hCreation
    have hStored := (invariant_of_exec hKeep hStart hRun).2
    rcases selectPayment_isSome
        (hStored call _ _ (by rw [hCall]; rfl)) with
      ⟨row, hSelect⟩
    rw [hCurrent, lockPayment_current]
    refine ⟨row, hSelect, ?_, ?_⟩
    · rw [← lockPayment_current system.db (some intent),
        ← hCurrent] at hSelect
      exact hLifecycle.provenance.locked_status hCurrent
        (by rw [hCall]; rfl) hSelect
    · intro attempt hAttempt hId
      exact (hLifecycle.provenance.creating call intent
        .processing (by rw [hCall]; rfl)).untried
          ⟨attempt, hAttempt, hId⟩

/- A creation whose authorization has been answered. -/
def answeredCreation : Call :=
  .createAuthorized
    { merchantId := 1
      idempotencyKey := "create"
      amountMinor := 100
      currency := "USD"
      paymentToken := "tok_visa" }
    ⟨1, 1, "create"⟩
    { id := 1
      merchantId := 1
      amountMinor := 100
      currency := "USD"
      merchantReference := none
      status := .processing
      version := 2
      createdAt := 0 }
    (.approved "txn")

theorem no_illegal_transition_answered :
    ∃ system row,
      exec (step { sha256 := spellOut }) {}
          (authorizedRun.take 4) = some system ∧
        system.calls 0 = answeredCreation ∧
        system.db.selectPayment 1 1 = some row ∧
        row.status = .processing ∧
        ∀ call, ¬ (system.calls call).illegal := by
  have hRun :
      (exec (step { sha256 := spellOut }) {}
        (authorizedRun.take 4)).map
          (fun system => system.calls 0) =
        some answeredCreation := by
    decide +kernel
  rcases Option.map_eq_some_iff.mp hRun with
    ⟨system, hExec, hCall⟩
  have hBoth := no_illegal_transition rfl hExec
  rcases hBoth.2 0 _ _ _ _ hCall with
    ⟨row, hLocked, hStatus, _⟩
  rw [lockPayment_current] at hLocked
  refine ⟨system, row, hExec, hCall, hLocked, hStatus, ?_⟩
  intro call hIllegal
  rcases hBoth.1 call hIllegal with
    ⟨label, hLabel, _, failure, hAction, _⟩
  simp only [authorizedRun, List.take_succ_cons,
    List.take_zero, List.mem_cons, List.not_mem_nil,
    or_false] at hLabel
  rcases hLabel with rfl | rfl | rfl | rfl <;> cases hAction

end PayGuard

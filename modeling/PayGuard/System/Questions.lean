import PayGuard.System.Commits

/-
  What a step asks the provider.

  An answered call is remembered by the step that receives
  its answer.  Which call that is, and with which arguments,
  follows from the position of the one who asked.

  Key definitions include:
    * `Asked`

  Key theorems include:
    * `step_asked`
-/

------------------------------------------------------------
-- Answered Calls
------------------------------------------------------------

namespace PayGuard

/- The provider calls a step adds to the history. -/
inductive Asked
    (system : System)
    (call : CallId)
    (next : System) : Prop where
| same
    (hCalls : next.providerCalls = system.providerCalls)
| authorize
    (request : CreateRequest)
    (key : ClaimedKey)
    (intent : PaymentIntent)
    (level : RiskLevel)
    (result : ProviderResult)
    (hCall :
      system.calls call =
        .createAssessed request key intent level)
    (hLevel : level ≠ .block)
    (hNext :
      next.calls call =
        .createAuthorized request key intent result)
    (hDb : next.db = system.db)
    (hCalls :
      next.providerCalls =
        system.providerCalls ++
          [.authorize intent.id
            { amountMinor := request.amountMinor
              currency := request.currency
              token := request.paymentToken
              idempotencyKey := request.idempotencyKey }
            result])
| capture
    (request : CaptureRequest)
    (keyRow : IdempotencyKey)
    (intent : PaymentIntent)
    (transaction : ProviderTransaction)
    (result : ProviderResult)
    (hCall :
      system.calls call =
        .captureOpen request keyRow intent transaction)
    (hCalls :
      next.providerCalls =
        system.providerCalls ++
          [.capture intent.id
            transaction.providerTransactionId
            intent.amountMinor result])
| refund
    (request : RefundRequest)
    (key : ClaimedKey)
    (reservation : Reservation)
    (result : ProviderResult)
    (executed : Bool)
    (hCall :
      system.calls call =
        .refundReserved request key reservation)
    (hCalls :
      next.providerCalls =
        system.providerCalls ++
          [.refund reservation.refund.paymentIntentId
            reservation.refund.id
            reservation.transaction.providerTransactionId
            reservation.refund.amountMinor
            request.idempotencyKey result executed])
| lookup
    (intent : PaymentIntent)
    (key : String)
    (result : ProviderResult)
    (hCall :
      system.calls call = .reconcileAsking intent key)
    (hCalls :
      next.providerCalls =
        system.providerCalls ++
          [.lookup intent.id key result])

variable {config : Config}
variable {system next : System}
variable {call : CallId}
variable {draw : Draw}

theorem stepClaim_asked
    {merchantId : Uuid}
    {idempotencyKey fingerprint : String}
    {work : IdempotencyKey → Option System}
    (hWork :
      ∀ keyRow,
        work keyRow = some next →
          Asked system call next)
    (hStep :
      stepClaim system call merchantId idempotencyKey
        fingerprint draw work = some next) :
    Asked system call next := by
  unfold stepClaim at hStep
  split at hStep
  · split at hStep
    · cases hStep
    · cases hStep
      exact .same rfl
    · cases hStep
      exact .same rfl
    · cases hStep
      exact .same rfl
    · split at hStep
      · exact hWork _ hStep
      · cases hStep
  · cases hStep

theorem stepCreateBegin_asked
    {request : CreateRequest}
    (hStep :
      stepCreateBegin config system call request draw =
        some next) :
    Asked system call next := by
  refine stepClaim_asked ?_ hStep
  intro keyRow hWork
  split at hWork
  · cases hWork
    exact .same rfl
  · cases hWork
    exact .same rfl

theorem stepCreateAuthorize_asked
    {result : ProviderResult}
    (hStep :
      stepCreateAuthorize system call result = some next) :
    Asked system call next := by
  unfold stepCreateAuthorize at hStep
  split at hStep
  · rename_i hCall
    split at hStep
    · cases hStep
    · rename_i hLevel
      cases hStep
      refine .authorize _ _ _ _ _ hCall hLevel ?_ rfl rfl
      rw [System.observe_calls, System.become_calls_self]
  · cases hStep

theorem stepCaptureBegin_asked
    {request : CaptureRequest}
    (hStep :
      stepCaptureBegin config system call request draw =
        some next) :
    Asked system call next := by
  refine stepClaim_asked ?_ hStep
  intro keyRow hWork
  split at hWork
  · split at hWork
    · cases hWork
      exact .same rfl
    · cases hWork
      exact .same rfl
    · cases hWork
      exact .same rfl
  · cases hWork

theorem stepCaptureFinish_asked
    {result : ProviderResult}
    (hStep :
      stepCaptureFinish system call result draw =
        some next) :
    Asked system call next := by
  unfold stepCaptureFinish at hStep
  split at hStep
  · rename_i hCall
    split at hStep
    · simp only at hStep
      split at hStep
      · cases hStep
        exact .capture _ _ _ _ _ hCall rfl
      · cases hStep
        exact .capture _ _ _ _ _ hCall rfl
    · cases hStep
  · cases hStep

theorem stepRefundBegin_asked
    {request : RefundRequest}
    (hStep :
      stepRefundBegin config system call request draw =
        some next) :
    Asked system call next := by
  refine stepClaim_asked ?_ hStep
  intro keyRow hWork
  split at hWork
  · split at hWork
    · cases hWork
      exact .same rfl
    · cases hWork
      exact .same rfl
  · cases hWork

theorem stepRefundAnswer_asked
    {result : ProviderResult}
    {executed : Bool}
    (hStep :
      stepRefundAnswer system call result executed =
        some next) :
    Asked system call next := by
  unfold stepRefundAnswer at hStep
  split at hStep
  · rename_i hCall
    split at hStep
    · cases hStep
      exact .refund _ _ _ _ _ hCall rfl
    · cases hStep
  · cases hStep

theorem stepReconcileAnswer_asked
    {result : ProviderResult}
    (hStep :
      stepReconcileAnswer system call result = some next) :
    Asked system call next := by
  unfold stepReconcileAnswer at hStep
  split at hStep
  · rename_i hCall
    cases hStep
    exact .lookup _ _ _ hCall rfl
  · cases hStep

theorem reconcileLock_asked
    {loaded : Option PaymentIntent}
    {paymentId merchantId pick : Uuid}
    (hStep :
      reconcileLock config system call loaded paymentId
        merchantId pick = some next) :
    Asked system call next := by
  unfold reconcileLock at hStep
  split at hStep
  · split at hStep
    · cases hStep
      exact .same rfl
    · cases hStep
      exact .same rfl
    · cases hStep
      exact .same rfl
  · cases hStep

/- Every action asks at most what its position allows. -/
theorem callStep_asked
    {action : Action}
    (hStep :
      callStep config system call draw action =
        some next) :
    Asked system call next := by
  cases action with
  | createBegin request => exact stepCreateBegin_asked hStep
  | createAuthorize result =>
      exact stepCreateAuthorize_asked hStep
  | captureBegin request =>
      exact stepCaptureBegin_asked hStep
  | captureFinish result =>
      exact stepCaptureFinish_asked hStep
  | refundBegin request => exact stepRefundBegin_asked hStep
  | refundAnswer result executed =>
      exact stepRefundAnswer_asked hStep
  | reconcileAnswer result =>
      exact stepReconcileAnswer_asked hStep
  | reconcileBegin paymentId merchantId pick =>
      simp only [callStep, stepReconcileBegin] at hStep
      split at hStep
      · exact reconcileLock_asked hStep
      · cases hStep
  | reconcileNext pick =>
      simp only [callStep, stepReconcileNext] at hStep
      split at hStep
      · exact reconcileLock_asked hStep
      · cases hStep
  -- the other actions ask nothing
  | createProcess =>
      simp only [callStep, stepCreateProcess] at hStep
      repeat' split at hStep
      all_goals cases hStep
      all_goals exact .same rfl
  | createAssess =>
      simp only [callStep, stepCreateAssess] at hStep
      repeat' split at hStep
      all_goals cases hStep
      all_goals exact .same rfl
  | createBlock =>
      simp only [callStep, stepCreateBlock] at hStep
      repeat' split at hStep
      all_goals cases hStep
      all_goals exact .same rfl
  | createFinish =>
      simp only [callStep, stepCreateFinish] at hStep
      repeat' split at hStep
      all_goals cases hStep
      all_goals exact .same rfl
  | refundFinish =>
      simp only [callStep, stepRefundFinish] at hStep
      repeat' split at hStep
      all_goals cases hStep
      all_goals exact .same rfl
  | receiveWebhook delivery =>
      simp only [callStep, stepReceiveWebhook] at hStep
      repeat' split at hStep
      all_goals cases hStep
      all_goals exact .same rfl
  | dispatchBegin outboxEventId pick =>
      simp only [callStep, stepDispatchBegin] at hStep
      repeat' split at hStep
      all_goals cases hStep
      all_goals exact .same rfl
  | dispatchFinish =>
      simp only [callStep, stepDispatchFinish] at hStep
      repeat' split at hStep
      all_goals cases hStep
      all_goals exact .same rfl
  | reconcileLoad paymentId merchantId =>
      simp only [callStep, stepReconcileLoad] at hStep
      repeat' split at hStep
      all_goals cases hStep
      all_goals exact .same rfl
  | reconcileApply =>
      simp only [callStep, stepReconcileApply] at hStep
      repeat' split at hStep
      all_goals cases hStep
      all_goals exact .same rfl
  | reconcileReport =>
      simp only [callStep, stepReconcileReport] at hStep
      repeat' split at hStep
      all_goals cases hStep
      all_goals exact .same rfl
  | raise failure =>
      simp only [callStep, stepRaise] at hStep
      split at hStep
      all_goals cases hStep
      all_goals exact .same rfl
  | failRead =>
      simp only [callStep, stepFailRead] at hStep
      repeat' split at hStep
      all_goals cases hStep
      all_goals exact .same rfl
  | failWrite =>
      simp only [callStep, stepFailWrite] at hStep
      repeat' split at hStep
      all_goals cases hStep
      all_goals exact .same rfl
  | die =>
      simp only [callStep, stepDie] at hStep
      repeat' split at hStep
      all_goals cases hStep
      all_goals exact .same rfl

theorem step_asked
    {label : Label}
    (hStep : step config system label = some next) :
    Asked system label.call next := by
  unfold step at hStep
  split at hStep
  · exact callStep_asked hStep
  · cases hStep

end PayGuard

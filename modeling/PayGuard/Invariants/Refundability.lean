import PayGuard.System.Lifecycle

/-
  Which settled payments can be refunded.

  A refund goes to the provider under the transaction of a
  successful attempt.  A capture has such a transaction in
  hand.  A webhook finds its payment through any attempt,
  and a lookup may answer without a transaction, so both
  can settle a payment that no refund will ever accept.

  Key definitions include:
    * `Database.Authorized`
    * `Evidenced`
    * `Refundable`

  Key theorems include:
    * `isSome_latestSuccessful_iff`
    * `substantiated_step`
    * `settled_payments_refundable`
-/

------------------------------------------------------------
-- Authorized Payments
------------------------------------------------------------

namespace PayGuard

open Lts

/- A successful attempt carries a provider transaction. -/
def Database.Authorized
    (db : Database)
    (paymentId : Uuid) : Prop :=
  ∃ attempt ∈ db.attempts,
    attempt.paymentIntentId = paymentId ∧
      attempt.status = .succeeded ∧
      ∃ transaction ∈ db.providerTransactions,
        transaction.paymentAttemptId = attempt.id

variable {db db' : Database}
variable {paymentId : Uuid}
variable {intent : PaymentIntent}
variable {result : ProviderResult}
variable {draw : Draw}

theorem authorized_of_latestSuccessful
    {transaction : ProviderTransaction}
    (hLatest :
      latestSuccessfulProviderTransaction db paymentId =
        some transaction) :
    db.Authorized paymentId := by
  unfold latestSuccessfulProviderTransaction at hLatest
  simp only [Option.map_eq_some_iff] at hLatest
  rcases hLatest with ⟨row, hRow, _⟩
  have hJoined := List.argmax_mem hRow
  rw [List.mem_filterMap] at hJoined
  rcases hJoined with ⟨attempt, hAttempt, hSome⟩
  split at hSome
  · rename_i hPayment
    rcases Option.map_eq_some_iff.mp hSome with
      ⟨found, hFind, _⟩
    have hOwner := List.find?_some hFind
    rw [decide_eq_true_eq] at hOwner
    exact ⟨attempt, hAttempt, hPayment.1, hPayment.2, found,
      List.mem_of_find?_eq_some hFind, hOwner⟩
  · cases hSome

/- The join is empty exactly where there is no such row. -/
theorem isSome_latestSuccessful_iff :
    (latestSuccessfulProviderTransaction db
        paymentId).isSome = true ↔
      db.Authorized paymentId := by
  constructor
  · intro hSome
    rcases Option.isSome_iff_exists.mp hSome with
      ⟨transaction, hLatest⟩
    exact authorized_of_latestSuccessful hLatest
  · rintro ⟨attempt, hAttempt, hPayment, hStatus,
      transaction, hTransaction, hOwner⟩
    have hFound :
        (db.providerTransactions.find? (fun transaction =>
          transaction.paymentAttemptId =
            attempt.id)).isSome = true := by
      rw [List.find?_isSome]
      exact ⟨transaction, hTransaction, by simp [hOwner]⟩
    rcases Option.isSome_iff_exists.mp hFound with
      ⟨found, hFind⟩
    unfold latestSuccessfulProviderTransaction
    rw [Option.isSome_map, Option.isSome_iff_ne_none, Ne,
      List.argmax_eq_none]
    intro hEmpty
    have hRow := List.filterMap_eq_nil_iff.mp hEmpty attempt
      hAttempt
    simp [hPayment, hStatus, hFind] at hRow

theorem Files.authorized
    {other : Uuid}
    (hFiles : Files other db db')
    (hAuthorized : db.Authorized paymentId) :
    db'.Authorized paymentId := by
  rcases hAuthorized with
    ⟨attempt, hAttempt, hPayment, hStatus, transaction,
      hTransaction, hOwner⟩
  refine ⟨attempt, ?_, hPayment, hStatus, transaction, ?_,
    hOwner⟩
  · rcases hFiles.attempts with hSame | ⟨_, _, _, hAdded⟩
    · rwa [hSame]
    · rw [hAdded]
      exact List.mem_append_left _ hAttempt
  · rcases hFiles.transactions with ⟨added, hAdded⟩
    rw [hAdded]
    exact List.mem_append_left _ hTransaction

------------------------------------------------------------
-- Evidence For A Settlement
------------------------------------------------------------

/- The webhook would move its payment to `SUCCEEDED`. -/
def movesToSucceeded
    (locked : Option PaymentIntent) : Bool :=
  locked.any (fun row =>
    isValidPaymentTransition row.status .succeeded
      (some .webhook))

/- The answer would resolve its payment to `SUCCEEDED`. -/
def resolvesToSucceeded
    (locked : Option PaymentIntent)
    (result : ProviderResult) : Bool :=
  locked.any (fun row =>
    row.status = .unknown && result.agrees row) &&
      result.outcome = .succeeded

/-
  A webhook settles only a payment whose authorization is
  on file, and so does a lookup that brings no transaction.
-/
def evidenced
    (config : Config)
    (system : System)
    (label : Label) : Bool :=
  match label.action, system.calls label.call with
  | .dispatchFinish,
      .dispatchOpen _ _ (.outcome .succeeded intent) =>
      !movesToSucceeded
          (lockPayment config.lockRead system.db
            (some intent) intent.id intent.merchantId) ||
        (latestSuccessfulProviderTransaction system.db
          intent.id).isSome
  | .reconcileApply, .reconcileAnswered intent result =>
      !resolvesToSucceeded
          (lockPayment config.lockRead system.db
            (some intent) intent.id intent.merchantId)
          result ||
        result.providerTransactionId.isSome ||
        (latestSuccessfulProviderTransaction system.db
          intent.id).isSome
  | _, _ => true

def Evidenced
    (config : Config)
    (system : System)
    (label : Label) : Prop :=
  evidenced config system label = true

instance
    (config : Config)
    (system : System)
    (label : Label) :
    Decidable (Evidenced config system label) := by
  unfold Evidenced
  infer_instance

/-
  Every settled payment has a transaction to refund, and no
  refund is turned away for want of one.
-/
structure Refundable (db : Database) : Prop where
  authorized :
    ∀ row ∈ db.payments,
      row.status.Settled → db.Authorized row.id
  found :
    ∀ row ∈ db.payments,
      row.status.Settled →
        (latestSuccessfulProviderTransaction db
          row.id).isSome = true
  accepted :
    ∀ row ∈ db.payments,
      row.status.Settled →
        ∀ request keyRow draw,
          refundReserve db (some row) request keyRow draw ≠
            .error (.payGuardError .invalidStateTransition
              ("This payment has no successful " ++
                "authorization to refund."))

variable {config : Config}
variable {system next : System}
variable {call : CallId}
variable {action : Action}

theorem Evidenced.webhook
    {outboxEventId webhookEventId : Uuid}
    {locked : PaymentIntent}
    (hEvidenced : Evidenced config system ⟨call, action, draw⟩)
    (hAction : action = .dispatchFinish)
    (hCall :
      system.calls call =
        .dispatchOpen outboxEventId webhookEventId
          (.outcome .succeeded intent))
    (hLocked :
      lockPayment config.lockRead system.db (some intent)
        intent.id intent.merchantId = some locked)
    (hValid :
      isValidPaymentTransition locked.status .succeeded
        (some .webhook) = true) :
    system.db.Authorized intent.id := by
  simp only [Evidenced, evidenced, hAction, hCall, hLocked,
    movesToSucceeded, Option.any_some, hValid, Bool.not_true,
    Bool.false_or] at hEvidenced
  exact isSome_latestSuccessful_iff.mp hEvidenced

theorem Evidenced.lookup
    {locked : PaymentIntent}
    (hEvidenced : Evidenced config system ⟨call, action, draw⟩)
    (hAction : action = .reconcileApply)
    (hCall :
      system.calls call = .reconcileAnswered intent result)
    (hLocked :
      lockPayment config.lockRead system.db (some intent)
        intent.id intent.merchantId = some locked)
    (hUnknown : locked.status = .unknown)
    (hAgrees : result.agrees locked = true)
    (hOutcome : result.outcome = .succeeded) :
    result.providerTransactionId.isSome = true ∨
      system.db.Authorized intent.id := by
  simp only [Evidenced, evidenced, hAction, hCall, hLocked,
    resolvesToSucceeded, Option.any_some, hUnknown, hAgrees,
    hOutcome, decide_true, Bool.and_true, Bool.not_true,
    Bool.false_or, Bool.or_eq_true] at hEvidenced
  rw [← isSome_latestSuccessful_iff]
  exact hEvidenced

end PayGuard

------------------------------------------------------------
-- What A Step Settles
------------------------------------------------------------

namespace PayGuard

/- The payment whose authorization a call has in hand. -/
def Call.drawing : Call → Option Uuid
| .captureOpen _ _ intent _ => some intent.id
| .refundReserved request _ _ => some request.paymentId
| .refundAnswered request _ _ _ => some request.paymentId
| _ => none

variable {db db' : Database}
variable {config : Config}
variable {system next : System}
variable {call : CallId}
variable {draw : Draw}
variable {action : Action}
variable {paymentId : Uuid}
variable {intent : PaymentIntent}
variable {result : ProviderResult}

theorem Quiet.drawing
    (hQuiet : Quiet system call next) :
    (next.calls call).drawing = none := by
  have hCaptured := hQuiet.captured
  have hReservation := hQuiet.reservation
  cases hCall : next.calls call with
  | captureOpen =>
      rw [hCall] at hCaptured
      cases hCaptured
  | refundReserved =>
      rw [hCall] at hReservation
      cases hReservation
  | refundAnswered =>
      rw [hCall] at hReservation
      cases hReservation
  | _ => rfl

/- Only an authorized payment is captured or refunded. -/
theorem Effect.drawing
    (hEffect :
      Effect config system call draw action next)
    (hDrawing :
      (next.calls call).drawing = some paymentId) :
    (system.calls call).drawing = some paymentId ∨
      system.db.Authorized paymentId := by
  cases hEffect with
  | quiet hQuiet _ =>
      rw [hQuiet.drawing] at hDrawing
      cases hDrawing
  | captureOpen _ _ _ _ hTransaction =>
      simp only [System.become_calls_self, Call.drawing,
        Option.some.injEq] at hDrawing
      rw [← hDrawing]
      exact .inr (authorized_of_latestSuccessful hTransaction)
  | refundReserve _ _ hBody =>
      simp only [System.recordOrigin_calls,
        System.commit_calls_self, Call.drawing,
        Option.some.injEq] at hDrawing
      rcases refundReserve_eq_ok hBody with
        ⟨_, hSelect, _, _, hLatest, _⟩
      rw [← hDrawing,
        ← (selectPayment_eq_some hSelect).2.1]
      exact .inr (authorized_of_latestSuccessful hLatest)
  | refundAnswer hCall _ =>
      simp only [System.observe_calls,
        System.become_calls_self] at hDrawing
      rw [hCall]
      exact .inl hDrawing
  | _ => simp [Call.drawing] at hDrawing

theorem mem_of_insertAttempt
    {attempt : PaymentAttempt}
    (hInsert : insertAttempt db attempt = .ok db') :
    attempt ∈ db'.attempts := by
  rw [insertAttempt_eq_ok hInsert]
  exact List.mem_append_right _ (List.mem_singleton_self _)

/- A resolution stores the transaction of its answer. -/
theorem resolveSucceeded_authorizes
    {providerName : String}
    (hSome : result.providerTransactionId.isSome = true)
    (hBody :
      resolveSucceeded db intent providerName result draw =
        .ok db') :
    db'.Authorized intent.id := by
  rcases Option.isSome_iff_exists.mp hSome with
    ⟨transactionId, hId⟩
  unfold resolveSucceeded at hBody
  simp only at hBody
  split at hBody
  · cases hBody
  · rename_i attempted hAttempt
    have hStored := mem_of_insertAttempt hAttempt
    split at hBody
    · cases hBody
    · rename_i base moved hApply
      rw [← (Moved.of_applyTransition
        hApply).sameFiles.attempts] at hStored
      unfold insertProviderTransaction at hBody
      simp only [hId] at hBody
      split at hBody
      · cases hBody
      · cases hBody
        exact ⟨_, hStored, rfl, rfl, _,
          List.mem_append_right _
            (List.mem_singleton_self _), rfl⟩

theorem not_settled_of_mem_authorizeTargets
    {outcome : ProviderOutcome}
    {status : PaymentStatus}
    (hTarget : status ∈ authorizeTargets outcome) :
    ¬ status.Settled := by
  cases outcome <;>
    simp only [authorizeTargets, List.mem_singleton,
      List.not_mem_nil] at hTarget <;>
    subst hTarget <;> exact id

theorem succeeded_of_mem_lookupTargets
    {outcome : ProviderOutcome}
    {status : PaymentStatus}
    (hTarget : status ∈ lookupTargets outcome)
    (hSettled : status.Settled) :
    outcome = .succeeded := by
  cases outcome <;>
    simp only [lookupTargets, List.mem_singleton,
      List.not_mem_nil] at hTarget
  · rfl
  all_goals
    subst hTarget
    exact hSettled.elim

/- The one settling plan is that of a success webhook. -/
theorem PlansTyped.succeeded
    {outboxEventId webhookEventId : Uuid}
    {targetStatus : PaymentStatus}
    (hTyped : PlansTyped system)
    (hCall :
      system.calls call =
        .dispatchOpen outboxEventId webhookEventId
          (.outcome targetStatus intent))
    (hSettled : targetStatus.Settled) :
    targetStatus = .succeeded := by
  rcases hTyped call outboxEventId webhookEventId
      targetStatus intent (by rw [hCall]; rfl) with
    ⟨event, _, _, hTarget⟩
  unfold webhookTarget at hTarget
  split at hTarget
  · cases hTarget
    rfl
  · split at hTarget
    · cases hTarget
      exact hSettled.elim
    · cases hTarget

theorem Effect.refundEntered
    {request : RefundRequest}
    (hEffect :
      Effect config system call draw action next)
    (hAction : action = .refundBegin request) :
    next.db.payments = system.db.payments ∨
      (next.calls call).drawing = some request.paymentId := by
  cases hEffect with
  | quiet hQuiet _ => exact .inl (by rw [hQuiet.db])
  | refundReserve _ _ _ =>
      cases hAction
      right
      simp [Call.drawing]
  | _ => cases hAction

/- A webhook moves its payment only where the table does. -/
theorem Effect.dispatched
    {outboxEventId webhookEventId : Uuid}
    {targetStatus : PaymentStatus}
    (hEffect :
      Effect config system call draw action next)
    (hAction : action = .dispatchFinish)
    (hCall :
      system.calls call =
        .dispatchOpen outboxEventId webhookEventId
          (.outcome targetStatus intent)) :
    next.db.payments = system.db.payments ∨
      ∃ locked,
        lockPayment config.lockRead system.db (some intent)
            intent.id intent.merchantId = some locked ∧
          isValidPaymentTransition locked.status
            targetStatus (some .webhook) = true := by
  cases hEffect with
  | quiet hQuiet _ => exact .inl (by rw [hQuiet.db])
  | dispatchFinish hCall' _ hBody =>
      cases hCall.symm.trans hCall'
      rcases handlePaymentOutcome_eq_ok hBody with
        ⟨locked, status, hLocked, rfl |
          ⟨_, base, moved, hApply, _⟩⟩
      · exact .inl rfl
      · exact .inr ⟨locked, hLocked,
          (applyTransition_eq_ok.mp hApply).1⟩
  | _ => cases hAction

theorem Effect.looked
    (hEffect :
      Effect config system call draw action next)
    (hAction : action = .reconcileApply)
    (hCall :
      system.calls call = .reconcileAnswered intent result)
    (hSome : result.providerTransactionId.isSome = true)
    (hOutcome : result.outcome = .succeeded) :
    next.db.payments = system.db.payments ∨
      next.db.Authorized intent.id := by
  cases hEffect with
  | quiet hQuiet _ => exact .inl (by rw [hQuiet.db])
  | reconcileApply hCall' _ hBody =>
      cases hCall.symm.trans hCall'
      rcases reconcileApply_eq_ok hBody with
        ⟨locked, hLocked, ⟨rfl, _⟩ | ⟨_, hUnknown, _⟩ |
          ⟨_, hResolve⟩⟩
      · exact .inl rfl
      · rw [hOutcome] at hUnknown
        cases hUnknown
      · rcases resolve_eq_ok hResolve with
          ⟨_, _, hBackfill⟩ | ⟨hNot, _⟩
        · rw [← lockPayment_id hLocked]
          exact .inr
            (resolveSucceeded_authorizes hSome hBackfill)
        · exact absurd hOutcome hNot
  | _ => cases hAction

/-
  A row a step settles was settled before or belongs to an
  authorized payment.
-/
theorem Effect.settles
    (hEvidenced : Evidenced config system ⟨call, action, draw⟩)
    (hTyped : PlansTyped system)
    (hAdmits : system.db.Admits draw)
    (hEffect :
      Effect config system call draw action next)
    (hDrawn :
      ∀ paymentId,
        (system.calls call).drawing = some paymentId ∨
            (next.calls call).drawing = some paymentId →
          next.db.Authorized paymentId)
    {row : PaymentIntent}
    (hRow : row ∈ next.db.payments)
    (hSettled : row.status.Settled) :
    (∃ old ∈ system.db.payments,
        old.id = row.id ∧ old.status.Settled) ∨
      next.db.Authorized row.id := by
  rcases hEffect.files with ⟨_, hFiles⟩
  rcases hEffect.landing hAdmits with
    ⟨paymentId, targets, hLanding, hLands⟩
  rcases hLands row hRow with
    ⟨old, hOld, hId, hStatus⟩ | ⟨hId, hTarget⟩
  · rw [← hStatus] at hSettled
    exact .inl ⟨old, hOld, hId, hSettled⟩
  · cases hLanding with
    | nowhere => cases hTarget
    | created =>
        rw [List.mem_singleton.mp hTarget] at hSettled
        exact hSettled.elim
    | processing =>
        rw [List.mem_singleton.mp hTarget] at hSettled
        exact hSettled.elim
    | blocked =>
        rw [List.mem_singleton.mp hTarget] at hSettled
        exact hSettled.elim
    | authorized _ _ =>
        exact absurd hSettled
          (not_settled_of_mem_authorizeTargets hTarget)
    | captured _ hCall =>
        rw [hId]
        exact .inr (hDrawn _ (.inl (by rw [hCall]; rfl)))
    | refundEntered hAction _ _ _ =>
        rcases hEffect.refundEntered hAction with
          hPayments | hDrawing
        · rw [hPayments] at hRow
          exact .inl ⟨row, hRow, rfl, hSettled⟩
        · rw [hId]
          exact .inr (hDrawn _ (.inr hDrawing))
    | refundLeft _ hCall =>
        rw [hId]
        exact .inr (hDrawn _ (.inl (by rw [hCall]; rfl)))
    | dispatched hAction hCall =>
        rw [List.mem_singleton] at hTarget
        rcases hEffect.dispatched hAction hCall with
          hPayments | ⟨locked, hLocked, hValid⟩
        · rw [hPayments] at hRow
          exact .inl ⟨row, hRow, rfl, hSettled⟩
        · rw [hTarget] at hSettled
          cases hTyped.succeeded hCall hSettled
          rw [hId]
          exact .inr (hFiles.authorized
            (hEvidenced.webhook hAction hCall hLocked
              hValid))
    | looked hAction hCall hLocked hUnknown hAgrees =>
        have hOutcome := succeeded_of_mem_lookupTargets
          hTarget hSettled
        rcases hEvidenced.lookup hAction hCall hLocked
            hUnknown hAgrees hOutcome with
          hSome | hAuthorized
        · rcases hEffect.looked hAction hCall hSome
              hOutcome with hPayments | hAuthorized
          · rw [hPayments] at hRow
            exact .inl ⟨row, hRow, rfl, hSettled⟩
          · rw [hId]
            exact .inr hAuthorized
        · rw [hId]
          exact .inr (hFiles.authorized hAuthorized)

end PayGuard

------------------------------------------------------------
-- Runs
------------------------------------------------------------

namespace PayGuard

open Lts

/- Settled payments and spending calls are authorized. -/
structure Substantiated (system : System) : Prop where
  settled :
    ∀ row ∈ system.db.payments,
      row.status.Settled → system.db.Authorized row.id
  drawing :
    ∀ call paymentId,
      (system.calls call).drawing = some paymentId →
        system.db.Authorized paymentId

variable {config : Config}
variable {system next : System}
variable {label : Label}

theorem substantiated_initial : Substantiated {} where
  settled := by
    intro row hRow
    cases hRow
  drawing := by
    intro call paymentId hDrawing
    cases hDrawing

theorem substantiated_step
    (hBacked : Substantiated system)
    (hTyped : PlansTyped system)
    (hEvidenced : Evidenced config system label)
    (hStep : step config system label = some next) :
    Substantiated next := by
  rcases step_effect hStep with ⟨hAdmits, hEffect⟩
  rcases hEffect.files with ⟨_, hFiles⟩
  -- what was authorized stays so
  have hBefore :
      ∀ call paymentId,
        (system.calls call).drawing = some paymentId →
          next.db.Authorized paymentId := by
    intro call paymentId hDrawing
    exact hFiles.authorized
      (hBacked.drawing call paymentId hDrawing)
  have hAfter :
      ∀ paymentId,
        (next.calls label.call).drawing = some paymentId →
          next.db.Authorized paymentId := by
    intro paymentId hDrawing
    rcases hEffect.drawing hDrawing with
      hDrawing | hAuthorized
    · exact hBefore label.call paymentId hDrawing
    · exact hFiles.authorized hAuthorized
  constructor
  · intro row hRow hSettled
    have hDrawn :
        ∀ paymentId,
          (system.calls label.call).drawing =
                some paymentId ∨
              (next.calls label.call).drawing =
                some paymentId →
            next.db.Authorized paymentId := by
      rintro paymentId (hDrawing | hDrawing)
      · exact hBefore label.call paymentId hDrawing
      · exact hAfter paymentId hDrawing
    rcases hEffect.settles hEvidenced hTyped hAdmits hDrawn
        hRow hSettled with
      ⟨old, hOld, hId, hWas⟩ | hAuthorized
    · rw [← hId]
      exact hFiles.authorized (hBacked.settled old hOld hWas)
    · exact hAuthorized
  · intro call paymentId hDrawing
    by_cases hCall : call = label.call
    · subst hCall
      exact hAfter paymentId hDrawing
    · rw [hEffect.frame.calls call hCall] at hDrawing
      exact hBefore call paymentId hDrawing

/- An authorized payment is not refused for want of one. -/
theorem refundReserve_ne_unauthorized
    {db : Database}
    {row : PaymentIntent}
    (hAuthorized : db.Authorized row.id)
    (request : RefundRequest)
    (keyRow : IdempotencyKey)
    (draw : Draw) :
    refundReserve db (some row) request keyRow draw ≠
      .error (.payGuardError .invalidStateTransition
        ("This payment has no successful " ++
          "authorization to refund.")) := by
  rcases Option.isSome_iff_exists.mp
      (isSome_latestSuccessful_iff.mpr hAuthorized) with
    ⟨transaction, hLatest⟩
  intro hError
  unfold refundReserve at hError
  simp only [hLatest] at hError
  split at hError
  · -- the status error reads otherwise
    cases hStatus : row.status <;>
      simp [hStatus, PaymentStatus.value] at hError
  · split at hError
    · cases hError
    · split at hError
      · rename_i hInsert
        cases hError
        unfold insertRefund at hInsert
        split at hInsert
        · cases hInsert
        · split at hInsert <;> cases hInsert
      · split at hError
        · rename_i hEnter
          cases hError
          unfold enterRefundPending at hEnter
          split at hEnter
          · cases hEnter
          · unfold applyTransition at hEnter
            split at hEnter <;> cases hEnter
        · cases hError

theorem refundable_of_settled
    {db : Database}
    (hSettled :
      ∀ row ∈ db.payments,
        row.status.Settled → db.Authorized row.id) :
    Refundable db where
  authorized := hSettled
  found := fun row hRow hStatus =>
    isSome_latestSuccessful_iff.mpr
      (hSettled row hRow hStatus)
  accepted := fun row hRow hStatus =>
    refundReserve_ne_unauthorized
      (hSettled row hRow hStatus)

/-
  Where every settlement has its evidence, every settled
  payment can be refunded.
-/
theorem settled_payments_refundable
    {config : Config}
    {labels : List Label}
    {system : System}
    (hRun : exec (step config) {} labels = some system)
    (hMeets :
      Meets (step config) (Evidenced config) {} labels) :
    Refundable system.db := by
  have hKeep :
      ∀ (state : System) (label : Label) (next : System),
        (Substantiated state ∧ PlansTyped state) →
          Evidenced config state label →
            step config state label = some next →
              Substantiated next ∧ PlansTyped next :=
    fun _ _ _ hBoth hEvidenced hStep =>
      ⟨substantiated_step hBoth.1 hBoth.2 hEvidenced hStep,
        plansTyped_step hBoth.2 hStep⟩
  have hBoth :=
    invariant_of_meets hKeep
      ⟨substantiated_initial, plansTyped_initial⟩ hMeets hRun
  exact refundable_of_settled hBoth.1.settled

theorem settled_payments_refundable_captured :
    ∃ system,
      exec (step { sha256 := spellOut }) {} capturedRun =
          some system ∧
        Meets (step { sha256 := spellOut })
          (Evidenced { sha256 := spellOut }) {}
          capturedRun ∧
        (system.db.payments.map (·.status)) = [.succeeded] ∧
        Refundable system.db := by
  have hMeets :
      Meets (step { sha256 := spellOut })
        (Evidenced { sha256 := spellOut }) {}
        capturedRun := by
    decide +kernel
  have hRun :
      (exec (step { sha256 := spellOut }) {}
        capturedRun).map (fun system =>
          decide ((system.db.payments.map (·.status)) =
            [.succeeded])) =
        some true := by
    decide +kernel
  rcases Option.map_eq_some_iff.mp hRun with
    ⟨system, hExec, hHolds⟩
  exact ⟨system, hExec, hMeets, of_decide_eq_true hHolds,
    settled_payments_refundable hExec hMeets⟩

------------------------------------------------------------
-- A Payment Nobody Can Refund
------------------------------------------------------------

/-
  The authorization of payment 1 fails for the moment, under
  a transaction the provider later reports as succeeded.
-/
def retriedByProviderRun : List Label :=
  [⟨0, .createBegin
      { merchantId := 1
        idempotencyKey := "create"
        amountMinor := 100
        currency := "USD"
        paymentToken := "tok_visa" }, .numbered 1⟩,
    ⟨0, .createProcess, .numbered 2⟩,
    ⟨0, .createAssess, .numbered 3⟩,
    ⟨0, .createAuthorize
      { outcome := .temporaryFailure
        providerTransactionId := some "txn"
        rawStatus := "try_again" }, .numbered 4⟩,
    ⟨0, .createFinish, .numbered 5⟩,
    ⟨1, .receiveWebhook
      { providerName := "mock"
        providerEventId := "evt"
        eventType := "payment.succeeded"
        providerTransactionId := some "txn" }, .numbered 6⟩,
    ⟨2, .dispatchBegin 6 1, .numbered 7⟩,
    ⟨2, .dispatchFinish, .numbered 8⟩]

/- A refund of payment 1, under a key of its own. -/
def fullRefund : RefundRequest where
  merchantId := 1
  paymentId := 1
  idempotencyKey := "refund"
  amountMinor := 100

def fullRefundKey : IdempotencyKey where
  id := 9
  merchantId := 1
  idempotencyKey := "refund"
  requestFingerprint := ""
  status := .pending
  createdAt := 0
  lockedAt := some 0

/- The payment is settled, and its refund is refused. -/
theorem settled_by_webhook_is_not_refundable :
    ∃ system row,
      exec (step { sha256 := spellOut }) {}
          retriedByProviderRun = some system ∧
        system.db.payments = [row] ∧
        row.status = .succeeded ∧
        refundReserve system.db (some row) fullRefund
            fullRefundKey (.numbered 9) =
          .error (.payGuardError .invalidStateTransition
            ("This payment has no successful " ++
              "authorization to refund.")) ∧
        ¬ Refundable system.db := by
  have hRun :
      (exec (step { sha256 := spellOut }) {}
        retriedByProviderRun).map (fun system =>
          system.db.payments.map (fun row =>
            decide (row.status = .succeeded ∧
              refundReserve system.db (some row) fullRefund
                  fullRefundKey (.numbered 9) =
                .error (.payGuardError
                  .invalidStateTransition
                  ("This payment has no successful " ++
                    "authorization to refund."))))) =
        some [true] := by
    decide +kernel
  rcases Option.map_eq_some_iff.mp hRun with
    ⟨system, hExec, hRows⟩
  rcases List.map_eq_singleton_iff.mp hRows with
    ⟨row, hPayments, hHolds⟩
  rcases of_decide_eq_true hHolds with ⟨hStatus, hRefused⟩
  have hRow : row ∈ system.db.payments := by
    rw [hPayments]
    exact List.mem_singleton_self row
  refine ⟨system, row, hExec, hPayments, hStatus, hRefused,
    ?_⟩
  intro hRefundable
  exact hRefundable.accepted row hRow
    (by rw [hStatus]; trivial) _ _ _ hRefused

end PayGuard

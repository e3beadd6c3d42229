import PayGuard.System.Landings

/-
  A payment fails only on a definite negative answer.

  Five transactions move a payment to `FAILED`: the block of
  a risky creation, the outcome of an authorization, the
  outcome of a capture, a `payment.failed` webhook, and the
  answer to a reconciliation.  Capture and reconciliation
  send every answer they have no branch for down the same
  way as a decline, a temporary failure among them.

  Key definitions include:
    * `EntersFailed`
    * `DefiniteNegative`
    * `SparesTransient`

  Key theorems include:
    * `failed_only_on_definite_answer`
    * `transient_capture_fails_payment`
-/

------------------------------------------------------------
-- Entering The Status
------------------------------------------------------------

namespace PayGuard

/- The payment is stored as `FAILED`. -/
def Database.HasFailed
    (db : Database)
    (paymentId : Uuid) : Prop :=
  ∃ row ∈ db.payments,
    row.id = paymentId ∧ row.status = .failed

/- The payment is `FAILED` and was not so before. -/
def EntersFailed
    (db db' : Database)
    (paymentId : Uuid) : Prop :=
  db'.HasFailed paymentId ∧ ¬ db.HasFailed paymentId

/- The definite negative answers to one payment. -/
inductive DefiniteNegative
    (system : System)
    (label : Label)
    (paymentId : Uuid) : Prop where
| block
    (request : CreateRequest)
    (key : ClaimedKey)
    (intent : PaymentIntent)
    (hAction : label.action = .createBlock)
    (hCall :
      system.calls label.call =
        .createAssessed request key intent .block)
    (hPayment : intent.id = paymentId)
| authorize
    (request : CreateRequest)
    (key : ClaimedKey)
    (intent : PaymentIntent)
    (result : ProviderResult)
    (hAction : label.action = .createFinish)
    (hCall :
      system.calls label.call =
        .createAuthorized request key intent result)
    (hPayment : intent.id = paymentId)
    (hDeclined : result.outcome = .declined)
| capture
    (request : CaptureRequest)
    (keyRow : IdempotencyKey)
    (intent : PaymentIntent)
    (transaction : ProviderTransaction)
    (result : ProviderResult)
    (hAction : label.action = .captureFinish result)
    (hCall :
      system.calls label.call =
        .captureOpen request keyRow intent transaction)
    (hPayment : intent.id = paymentId)
    (hDeclined : result.outcome = .declined)
| lookup
    (intent : PaymentIntent)
    (result : ProviderResult)
    (hAction : label.action = .reconcileApply)
    (hCall :
      system.calls label.call =
        .reconcileAnswered intent result)
    (hPayment : intent.id = paymentId)
    (hDeclined : result.outcome = .declined)
| webhook
    (outboxEventId : Uuid)
    (event : WebhookEvent)
    (targetStatus : PaymentStatus)
    (intent : PaymentIntent)
    (hAction : label.action = .dispatchFinish)
    (hCall :
      system.calls label.call =
        .dispatchOpen outboxEventId event.id
          (.outcome targetStatus intent))
    (hPayment : intent.id = paymentId)
    (hStored : event ∈ system.db.webhooks)
    (hType : event.eventType = "payment.failed")

/- A step fails no payment without a definite answer. -/
def FailsDefinitely
    (config : Config)
    (system : System)
    (label : Label) : Prop :=
  ∀ next paymentId,
    step config system label = some next →
      EntersFailed system.db next.db paymentId →
        DefiniteNegative system label paymentId

/-
  Neither a capture nor a reconciliation that would resolve
  its payment has been answered by a temporary failure.
-/
def SparesTransient
    (config : Config)
    (system : System)
    (label : Label) : Prop :=
  match label.action, system.calls label.call with
  | .captureFinish result, .captureOpen _ _ _ _ =>
      result.outcome ≠ .temporaryFailure
  | .reconcileApply, .reconcileAnswered intent result =>
      ∀ locked ∈ lockPayment config.lockRead system.db
          (some intent) intent.id intent.merchantId,
        locked.status = .unknown →
          result.agrees locked = true →
            result.outcome ≠ .temporaryFailure
  | _, _ => True

instance
    (config : Config)
    (system : System)
    (label : Label) :
    Decidable (SparesTransient config system label) := by
  unfold SparesTransient
  generalize system.calls label.call = position
  generalize label.action = action
  rcases action
  case captureFinish result =>
    rcases position
    case captureOpen request keyRow intent transaction =>
      exact inferInstanceAs (Decidable (_ ≠ _))
    all_goals exact inferInstanceAs (Decidable True)
  case reconcileApply =>
    rcases position
    case reconcileAnswered intent result =>
      exact inferInstanceAs (Decidable (∀ locked ∈ _, _))
    all_goals exact inferInstanceAs (Decidable True)
  all_goals exact inferInstanceAs (Decidable True)

end PayGuard

------------------------------------------------------------
-- One Step
------------------------------------------------------------

namespace PayGuard

variable {config : Config}
variable {system next : System}
variable {label : Label}
variable {db db' : Database}
variable {paymentId landed : Uuid}
variable {targets : List PaymentStatus}

/- The payment that enters the status has landed there. -/
theorem Lands.of_entersFailed
    (hLands : Lands db landed targets db')
    (hEnters : EntersFailed db db' paymentId) :
    landed = paymentId ∧ .failed ∈ targets := by
  rcases hEnters with ⟨⟨row, hRow, hId, hFailed⟩, hNot⟩
  rcases hLands row hRow with
    ⟨old, hOld, hOldId, hOldStatus⟩ | ⟨hLanded, hTarget⟩
  · exact absurd ⟨old, hOld, hOldId.trans hId,
      hOldStatus.trans hFailed⟩ hNot
  · rw [hFailed] at hTarget
    exact ⟨hLanded.symm.trans hId, hTarget⟩

theorem webhookTarget_failed
    {eventType : String}
    (hTarget : webhookTarget eventType = some .failed) :
    eventType = "payment.failed" := by
  unfold webhookTarget at hTarget
  split at hTarget
  · cases hTarget
  · split at hTarget
    · assumption
    · cases hTarget

/- An authorization fails a payment when declined. -/
theorem failed_mem_authorizeTargets
    {outcome : ProviderOutcome}
    (hFailed : .failed ∈ authorizeTargets outcome) :
    outcome = .declined := by
  cases outcome <;> simp [authorizeTargets] at hFailed ⊢

/- A capture fails a payment on two of the answers. -/
theorem failed_mem_captureTargets
    {outcome : ProviderOutcome}
    (hFailed : .failed ∈ captureTargets outcome)
    (hSpared : outcome ≠ .temporaryFailure) :
    outcome = .declined := by
  cases outcome <;>
    simp [captureTargets] at hFailed hSpared ⊢

/- A lookup fails a payment on two of the answers. -/
theorem failed_mem_lookupTargets
    {outcome : ProviderOutcome}
    (hFailed : .failed ∈ lookupTargets outcome)
    (hSpared : outcome ≠ .temporaryFailure) :
    outcome = .declined := by
  cases outcome <;>
    simp [lookupTargets] at hFailed hSpared ⊢

/-
  Where transient answers are spared, the payment a step
  fails has had its definite answer.
-/
theorem Landing.definiteNegative
    (hTyped : PlansTyped system)
    (hSpares : SparesTransient config system label)
    (hLanding :
      Landing config system label.call label.action next
        paymentId targets)
    (hFailed : .failed ∈ targets) :
    DefiniteNegative system label paymentId := by
  cases hLanding with
  | nowhere => cases hFailed
  | created _ _ => simp at hFailed
  | processing _ _ => simp at hFailed
  | refundEntered _ _ _ _ => simp at hFailed
  | refundLeft _ _ => simp at hFailed
  | blocked hAction hCall =>
      exact .block _ _ _ hAction hCall rfl
  | authorized hAction hCall =>
      exact .authorize _ _ _ _ hAction hCall rfl
        (failed_mem_authorizeTargets hFailed)
  | captured hAction hCall =>
      simp only [SparesTransient, hAction, hCall] at hSpares
      exact .capture _ _ _ _ _ hAction hCall rfl
        (failed_mem_captureTargets hFailed hSpares)
  | dispatched hAction hCall =>
      rw [List.mem_singleton] at hFailed
      subst hFailed
      rcases hTyped label.call _ _ _ _
          (by rw [hCall]; rfl) with
        ⟨event, hStored, rfl, hTarget⟩
      exact .webhook _ event _ _ hAction hCall rfl hStored
        (webhookTarget_failed hTarget)
  | looked hAction hCall hLocked hUnknown hAgrees =>
      simp only [SparesTransient, hAction, hCall] at hSpares
      exact .lookup _ _ hAction hCall rfl
        (failed_mem_lookupTargets hFailed
          (hSpares _ hLocked hUnknown hAgrees))

end PayGuard

------------------------------------------------------------
-- Every Run
------------------------------------------------------------

namespace PayGuard

/-
  In a run that spares transient answers, a payment enters
  `FAILED` only by a block, a decline or a webhook that says
  so.
-/
theorem failed_only_on_definite_answer
    (config : Config)
    (labels : List Label)
    (hSpares :
      Lts.Meets (step config) (SparesTransient config) {}
        labels) :
    Lts.Meets (step config) (FailsDefinitely config) {}
      labels := by
  have hKeep :
      ∀ before label after,
        PlansTyped before →
          SparesTransient config before label →
            step config before label = some after →
              PlansTyped after := by
    intro before label after hTyped _ hStep
    exact plansTyped_step hTyped hStep
  have hImp :
      ∀ before label,
        PlansTyped before →
          SparesTransient config before label →
            FailsDefinitely config before label := by
    intro before label hTyped hSpare next paymentId hStep
      hEnters
    rcases step_effect hStep with ⟨hAdmits, hEffect⟩
    rcases hEffect.landing hAdmits with
      ⟨landed, targets, hLanding, hLands⟩
    rcases hLands.of_entersFailed hEnters with
      ⟨rfl, hFailed⟩
    exact hLanding.definiteNegative hTyped hSpare hFailed
  exact hSpares.imp hKeep hImp plansTyped_initial

/- An authorized payment whose capture has been sent off. -/
def capturingRun : List Label :=
  authorizedRun ++
    [⟨1, .captureBegin
        { merchantId := 1
          paymentId := 1
          idempotencyKey := "capture" }, .numbered 6⟩]

/- The provider answers that capture without a transaction. -/
def captureAnswered (outcome : ProviderOutcome) : Label :=
  ⟨1, .captureFinish
    { outcome := outcome
      providerTransactionId := none
      rawStatus := "" }, .numbered 7⟩

/- What a run and one more step do to the payments. -/
def statusesAround
    (config : Config)
    (labels : List Label)
    (label : Label) :
    Option (List (Uuid × PaymentStatus) ×
      List (Uuid × PaymentStatus)) :=
  (Lts.exec (step config) {} labels).bind (fun before =>
    (step config before label).map (fun after =>
      (before.db.payments.map (fun row =>
          (row.id, row.status)),
        after.db.payments.map (fun row =>
          (row.id, row.status)))))

theorem statusesAround_eq_some
    {config : Config}
    {labels : List Label}
    {label : Label}
    {old new : PaymentStatus}
    (hAround :
      statusesAround config labels label =
        some ([(1, old)], [(1, new)]))
    (hOld : old ≠ .failed)
    (hNew : new = .failed) :
    ∃ before after,
      Lts.exec (step config) {} labels = some before ∧
        step config before label = some after ∧
        EntersFailed before.db after.db 1 := by
  unfold statusesAround at hAround
  rcases Option.bind_eq_some_iff.mp hAround with
    ⟨before, hExec, hRest⟩
  rcases Option.map_eq_some_iff.mp hRest with
    ⟨after, hStep, hRows⟩
  simp only [Prod.mk.injEq] at hRows
  refine ⟨before, after, hExec, hStep, ?_, ?_⟩
  · have hRow :
        (1, new) ∈ after.db.payments.map (fun row =>
          (row.id, row.status)) := by
      rw [hRows.2]
      exact List.mem_singleton_self _
    rcases List.mem_map.mp hRow with ⟨row, hMem, hPair⟩
    simp only [Prod.mk.injEq] at hPair
    exact ⟨row, hMem, hPair.1, hPair.2.trans hNew⟩
  · rintro ⟨row, hMem, _, hFailed⟩
    have hRow :
        (row.id, row.status) ∈
          before.db.payments.map (fun row =>
            (row.id, row.status)) :=
      List.mem_map_of_mem hMem
    rw [hRows.1, List.mem_singleton, Prod.mk.injEq] at hRow
    exact hOld (hRow.2.symm.trans hFailed)

theorem failed_only_on_definite_answer_declined :
    (∃ before after,
        Lts.exec (step { sha256 := spellOut }) {}
            capturingRun = some before ∧
          step { sha256 := spellOut } before
            (captureAnswered .declined) = some after ∧
          EntersFailed before.db after.db 1) ∧
      Lts.Meets (step { sha256 := spellOut })
        (FailsDefinitely { sha256 := spellOut }) {}
        (capturingRun ++ [captureAnswered .declined]) :=
  ⟨statusesAround_eq_some
      (by decide +kernel :
        statusesAround { sha256 := spellOut } capturingRun
            (captureAnswered .declined) =
          some ([(1, .processing)], [(1, .failed)]))
      (by decide) rfl,
    failed_only_on_definite_answer _ _ (by decide +kernel)⟩

/- A temporary failure of the capture fails the payment. -/
theorem transient_capture_fails_payment :
    ¬ Lts.Meets (step { sha256 := spellOut })
        (FailsDefinitely { sha256 := spellOut }) {}
        (capturingRun ++
          [captureAnswered .temporaryFailure]) := by
  intro hMeets
  rcases statusesAround_eq_some
      (by decide +kernel :
        statusesAround { sha256 := spellOut } capturingRun
            (captureAnswered .temporaryFailure) =
          some ([(1, .processing)], [(1, .failed)]))
      (by decide) rfl with
    ⟨before, after, hExec, hStep, hEnters⟩
  rw [Lts.meets_append hExec] at hMeets
  cases hMeets.2.1 after 1 hStep hEnters with
  | block _ _ _ hAction => cases hAction
  | authorize _ _ _ _ hAction => cases hAction
  | lookup _ _ hAction => cases hAction
  | webhook _ _ _ _ hAction => cases hAction
  | capture _ _ _ _ result hAction _ _ hDeclined =>
      cases hAction
      cases hDeclined

end PayGuard

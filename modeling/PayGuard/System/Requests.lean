import PayGuard.Invariants.Histories
import PayGuard.System.Held

/-
  Every payment and every refund was asked for.

  A payment row is what the request that created it says,
  and a refund row is what the request of the merchant of
  its payment says.  Nothing but these two requests adds to
  either table.

  Key definitions include:
    * `CreateRequest.Asks`
    * `RefundRequest.Asks`
    * `Requested`

  Key theorems include:
    * `Effect.payments_grow`
    * `Effect.refunds_grow`
    * `requested_of_exec`
-/

------------------------------------------------------------
-- What Was Asked For
------------------------------------------------------------

namespace PayGuard

/- The payment says what the request says. -/
structure CreateRequest.Asks
    (request : CreateRequest)
    (payment : PaymentIntent) : Prop where
  merchant : payment.merchantId = request.merchantId
  amount : payment.amountMinor = request.amountMinor
  currency : payment.currency = request.currency
  reference :
    payment.merchantReference = request.merchantReference

/- So does the refund, of a payment of the merchant's. -/
structure RefundRequest.Asks
    (request : RefundRequest)
    (refund : Refund)
    (payments : List PaymentIntent) : Prop where
  payment : refund.paymentIntentId = request.paymentId
  amount : refund.amountMinor = request.amountMinor
  merchant :
    ∃ payment ∈ payments,
      payment.id = request.paymentId ∧
        payment.merchantId = request.merchantId

/- Every row of the two tables was asked for by a label. -/
structure Requested
    (labels : List Label)
    (db : Database) : Prop where
  payments :
    ∀ payment ∈ db.payments,
      ∃ label ∈ labels, ∃ request,
        label.action = .createBegin request ∧
          label.draw.payment = payment.id ∧
            request.Asks payment
  refunds :
    ∀ refund ∈ db.refunds,
      ∃ label ∈ labels, ∃ request,
        label.action = .refundBegin request ∧
          label.draw.refund = refund.id ∧
            request.Asks refund db.payments

theorem requested_initial : Requested [] {} where
  payments := by simp
  refunds := by simp

variable {config : Config}
variable {system next : System}
variable {call : CallId}
variable {draw : Draw}
variable {action : Action}
variable {db db' : Database}
variable {payment row : PaymentIntent}
variable {refund found : Refund}

/- Only the columns a transition writes may differ. -/
theorem CreateRequest.Asks.of_terms
    {request : CreateRequest}
    (hAsks : request.Asks payment)
    (hTerms : row.terms = payment.terms) :
    request.Asks row where
  merchant :=
    (congrArg PaymentIntent.merchantId hTerms).trans
      hAsks.merchant
  amount :=
    (congrArg PaymentIntent.amountMinor hTerms).trans
      hAsks.amount
  currency :=
    (congrArg PaymentIntent.currency hTerms).trans
      hAsks.currency
  reference :=
    (congrArg PaymentIntent.merchantReference hTerms).trans
      hAsks.reference

theorem RefundRequest.Asks.of_terms
    {request : RefundRequest}
    (hExtends : db.Extends db')
    (hAsks : request.Asks refund db.payments)
    (hTerms : found.terms = refund.terms) :
    request.Asks found db'.payments where
  payment :=
    (congrArg Refund.paymentIntentId hTerms).trans
      hAsks.payment
  amount :=
    (congrArg Refund.amountMinor hTerms).trans hAsks.amount
  merchant := by
    rcases hAsks.merchant with
      ⟨payment, hPayment, hId, hMerchant⟩
    rcases hExtends.payments.exists_mem hPayment with
      ⟨later, hLater, hSame⟩
    have hSameId := congrArg PaymentIntent.id hSame
    have hSameMerchant :=
      congrArg PaymentIntent.merchantId hSame
    exact ⟨later, hLater, hSameId.trans hId,
      hSameMerchant.trans hMerchant⟩

------------------------------------------------------------
-- One Step
------------------------------------------------------------

theorem SameTrail.payments_length
    (hSame : SameTrail db db') :
    db'.payments.length = db.payments.length := by
  rw [hSame.payments]

theorem TrailMove.payments_length
    {intent : PaymentIntent}
    (hMove : TrailMove db intent db') :
    db'.payments.length = db.payments.length := by
  simpa using congrArg List.length hMove.map_id

/- A locked transaction adds no payment. -/
theorem payments_length_of_locked
    {locked : Option PaymentIntent}
    (hBody :
      ∃ intent,
        locked = some intent ∧ TrailMove db intent db') :
    db'.payments.length = db.payments.length := by
  rcases hBody with ⟨_, _, hMove⟩
  exact hMove.payments_length

theorem dispatchEffect_payments_length
    {webhookEventId : Uuid}
    {plan : WebhookPlan}
    (hBody :
      dispatchEffect config db webhookEventId plan draw =
        .ok db') :
    db'.payments.length = db.payments.length := by
  cases plan with
  | skip =>
      cases hBody
      rfl
  | ignore =>
      cases hBody
      rfl
  | outcome targetStatus intent =>
      exact payments_length_of_locked
        (handlePaymentOutcome_trailMove hBody)

/- A creation adds its payment, and nothing else adds one. -/
theorem Effect.payments_grow
    (hEffect :
      Effect config system call draw action next) :
    next.db.payments.length = system.db.payments.length ∨
      ∃ request payment,
        action = .createBegin request ∧
          draw.payment = payment.id ∧
            request.Asks payment ∧
              next.db.payments =
                system.db.payments ++ [payment] := by
  cases hEffect with
  | quiet hQuiet => exact .inl (by rw [hQuiet.db])
  | @createInsert request keyRow db intent _ hBody =>
      rcases createInsert_eq_ok hBody with
        ⟨hIntent, _, rfl⟩
      rcases putKey_eq system.db keyRow with ⟨keys, hKeys⟩
      refine .inr ⟨request, intent, rfl, ?_, ?_, ?_⟩
      · rw [hIntent]
      · rw [hIntent]
        exact ⟨rfl, rfl, rfl, rfl⟩
      · rw [hKeys]
        rfl
  | createProcess _ _ hBody =>
      exact .inl (payments_length_of_locked
        (createProcess_trailMove hBody))
  | createAssess _ => exact .inl rfl
  | createBlock _ _ _ hBody =>
      exact .inl (payments_length_of_locked
        (createBlock_trailMove hBody))
  | createFinish _ _ _ hBody =>
      exact .inl (payments_length_of_locked
        (createFinish_trailMove hBody))
  | captureSettled _ _ _ =>
      exact .inl
        (captureSettled_sameTrail _ _ _).payments_length
  | captureOpen _ _ _ _ => exact .inl rfl
  | captureFinish _ _ hBody =>
      exact .inl
        (captureFinish_trailMove hBody).payments_length
  | refundReserve _ _ hBody =>
      exact .inl (payments_length_of_locked
        (refundReserve_trailMove hBody))
  | refundAnswer _ _ => exact .inl rfl
  | refundFinish _ _ _ hBody =>
      exact .inl (payments_length_of_locked
        (refundFinalize_trailMove hBody))
  | receiveWebhook _ =>
      exact .inl
        (receiveWebhook_sameTrail _ _ _).payments_length
  | dispatchFinish _ _ hBody =>
      have hLength := dispatchEffect_payments_length hBody
      exact .inl hLength
  | reconcileApply _ _ hBody =>
      exact .inl (payments_length_of_locked
        (reconcileApply_trailMove hBody))
  | reconcileReport _ => exact .inl rfl
  | failWrite _ _ => exact .inl rfl

/- A call reserves a refund in the step that begins it. -/
theorem Effect.begins_refund
    {request : RefundRequest}
    {key : ClaimedKey}
    {reservation : Reservation}
    (hEffect :
      Effect config system call draw action next)
    (hNext :
      next.calls call =
        .refundReserved request key reservation) :
    action = .refundBegin request ∧
      draw.refund = reservation.refund.id ∧
        request.Asks reservation.refund
          system.db.payments := by
  cases hEffect with
  | quiet hQuiet =>
      have hNone := hQuiet.reservation
      rw [hNext] at hNone
      cases hNone
  | refundReserve _ _ hBody =>
      simp only [System.recordOrigin_calls,
        System.commit_calls_self,
        Call.refundReserved.injEq] at hNext
      rcases hNext with ⟨rfl, _, rfl⟩
      rcases refundReserve_eq_ok hBody with
        ⟨intent, hSelect, _, _, _, hRefund, _⟩
      rcases selectPayment_eq_some hSelect with
        ⟨hStored, hId, hMerchant⟩
      rw [hRefund]
      exact ⟨rfl, rfl, hId, rfl, intent, hStored, hId,
        hMerchant⟩
  | _ => simp at hNext

theorem Effect.refunds_grow
    (hAdmits : system.db.Admits draw)
    (hEffect :
      Effect config system call draw action next) :
    next.db.refunds.length = system.db.refunds.length ∨
      ∃ request refund,
        action = .refundBegin request ∧
          draw.refund = refund.id ∧
            request.Asks refund system.db.payments ∧
              next.db.refunds =
                system.db.refunds ++ [refund] := by
  cases hEffect.refundStep hAdmits with
  | same hRefunds _ _ => exact .inl (by rw [hRefunds])
  | answer _ _ _ _ _ _ _ hRefunds _ _ =>
      exact .inl (by rw [hRefunds])
  | reserve request _ reservation _ _ _ _ _ _ _ hRefunds _
      hNext =>
      rcases hEffect.begins_refund hNext with
        ⟨hAction, hDraw, hAsks⟩
      exact .inr ⟨request, reservation.refund, hAction, hDraw,
        hAsks, hRefunds⟩
  | settle _ _ reservation result _ _ hRefunds _ _ =>
      have hIds :=
        setRefundStatus_ids system.db reservation.refund.id
          (finalRefundStatus result.outcome)
      have hLength := congrArg List.length hIds
      rw [List.length_map, List.length_map,
        ← hRefunds] at hLength
      exact .inl hLength

------------------------------------------------------------
-- Every Run
------------------------------------------------------------

theorem Requested.step
    {labels : List Label}
    {label : Label}
    (hRequested : Requested labels system.db)
    (hStep : step config system label = some next) :
    Requested (labels ++ [label]) next.db := by
  rcases step_effect hStep with ⟨hAdmits, hEffect⟩
  have hExtends := hEffect.extends
  have hOld :
      ∀ payment row,
        row ∈ system.db.payments →
          payment.terms = row.terms →
            ∃ label' ∈ labels ++ [label], ∃ request,
              label'.action = .createBegin request ∧
                label'.draw.payment = payment.id ∧
                  request.Asks payment := by
    intro payment row hRow hTerms
    rcases hRequested.payments row hRow with
      ⟨before, hBefore, request, hAction, hDraw, hAsks⟩
    have hId := congrArg PaymentIntent.id hTerms
    exact ⟨before, List.mem_append_left _ hBefore, request,
      hAction, hDraw.trans hId.symm, hAsks.of_terms hTerms⟩
  have hOldRefund :
      ∀ refund row,
        row ∈ system.db.refunds →
          refund.terms = row.terms →
            ∃ label' ∈ labels ++ [label], ∃ request,
              label'.action = .refundBegin request ∧
                label'.draw.refund = refund.id ∧
                  request.Asks refund next.db.payments := by
    intro refund row hRow hTerms
    rcases hRequested.refunds row hRow with
      ⟨before, hBefore, request, hAction, hDraw, hAsks⟩
    have hId := congrArg Refund.id hTerms
    exact ⟨before, List.mem_append_left _ hBefore, request,
      hAction, hDraw.trans hId.symm,
      hAsks.of_terms hExtends hTerms⟩
  have hLast : label ∈ labels ++ [label] := by simp
  constructor
  · intro payment hPayment
    rcases hEffect.payments_grow with
      hLength | ⟨request, added, hAction, hDraw, hAsks, hRows⟩
    · rcases hExtends.payments.exists_old hLength hPayment
        with ⟨row, hRow, hTerms⟩
      exact hOld payment row hRow hTerms
    · rw [hRows] at hPayment
      rcases List.mem_append.mp hPayment with hRow | hNew
      · exact hOld payment payment hRow rfl
      · rw [List.mem_singleton.mp hNew]
        exact ⟨label, hLast, request, hAction, hDraw, hAsks⟩
  · intro refund hRefund
    rcases hEffect.refunds_grow hAdmits with
      hLength | ⟨request, added, hAction, hDraw, hAsks, hRows⟩
    · rcases hExtends.refunds.exists_old hLength hRefund
        with ⟨row, hRow, hTerms⟩
      exact hOldRefund refund row hRow hTerms
    · rw [hRows] at hRefund
      rcases List.mem_append.mp hRefund with hRow | hNew
      · exact hOldRefund refund refund hRow rfl
      · rw [List.mem_singleton.mp hNew]
        exact ⟨label, hLast, request, hAction, hDraw,
          hAsks.of_terms hExtends rfl⟩

/- Whatever runs, each row has the request it came from. -/
theorem requested_of_exec
    {labels : List Label}
    (hRun :
      Lts.exec (step config) {} labels = some system) :
    Requested labels system.db := by
  have hKeep :
      ∀ (past : List Label) (before : System) (label : Label)
        (after : System),
        Lts.exec (step config) {} past = some before →
          Requested past before.db →
            step config before label = some after →
              Requested (past ++ [label]) after.db :=
    fun _ _ _ _ _ hBefore hStep => hBefore.step hStep
  have hAlways :=
    Lts.invariant_of_history hKeep requested_initial hRun
  exact hAlways

end PayGuard

import PayGuard.System.Held

/-
  Refunds never exceed the payment they belong to.

  The reserved part of a payment only grows in the reserving
  transaction, which has just compared it with the amount.
  What the provider has really refunded stays within the
  reserved part as long as no reservation is given back for
  a refund that took place.

  Key definitions include:
    * `RefundBalance`
    * `System.executedAmount`
    * `KeepsExecuted`
    * `RefundsExecuted`

  Key theorems include:
    * `reserved_amount_le_amount`
    * `executed_amount_le_amount`
-/

------------------------------------------------------------
-- The Reserved Part
------------------------------------------------------------

namespace PayGuard

/- Refunds are positive and fit into their payment. -/
structure RefundBalance (system : System) : Prop where
  positive :
    ∀ refund ∈ system.db.refunds, 0 < refund.amountMinor
  bounded :
    ∀ payment ∈ system.db.payments,
      reservedAmount system.db payment.id ≤
        payment.amountMinor

variable {config : Config}
variable {system next : System}
variable {call : CallId}
variable {draw : Draw}
variable {action : Action}

/- Settling a held refund never grows the reserved part. -/
theorem reservedAmount_setRefundStatus_le
    {refund : Refund}
    (hIds : (system.db.refunds.map (·.id)).Nodup)
    (hMem : refund ∈ system.db.refunds)
    (hPending : refund.status = .pending)
    (hPositive : 0 < refund.amountMinor)
    (status : RefundStatus)
    (paymentId : Uuid) :
    reservedAmount
        (setRefundStatus system.db refund.id status)
        paymentId ≤
      reservedAmount system.db paymentId := by
  apply Table.sumWhere_updateWhere_le
  intro row hRow hSelected
  have hSame : row = refund :=
    List.inj_on_of_nodup_map hIds hRow hMem
      (by simpa using hSelected)
  subst hSame
  by_cases hPayment : row.paymentIntentId = paymentId
  · cases status <;>
      simp [hPayment, hPending, RefundStatus.isReserved,
        hPositive.le]
  · simp [hPayment]

/-
  After a step the reserved part has not grown, or it has
  just been checked against a stored payment.
-/
theorem RefundStep.reservedAmount_le
    (hRefund : RefundStep system call action next)
    (hHeld : Held system)
    (hPositive :
      ∀ refund ∈ system.db.refunds, 0 < refund.amountMinor)
    (paymentId : Uuid) :
    reservedAmount next.db paymentId ≤
        reservedAmount system.db paymentId ∨
      ∃ intent ∈ system.db.payments,
        intent.id = paymentId ∧
          reservedAmount next.db paymentId ≤
            intent.amountMinor := by
  cases hRefund with
  | same hRefunds _ _ =>
      exact .inl (by simp [reservedAmount, hRefunds])
  | answer _ _ _ _ _ _ _ hRefunds _ _ =>
      exact .inl (by simp [reservedAmount, hRefunds])
  | reserve _ _ reservation intent _ hStatus _ hIntent
      hPayment hRemaining hRefunds _ _ =>
      have hSum :
          reservedAmount next.db paymentId =
            reservedAmount system.db paymentId +
              (if intent.id = paymentId then
                reservation.refund.amountMinor else 0) := by
        rw [reservedAmount, hRefunds, Table.sumWhere_append,
          Table.sumWhere_cons, reservedAmount]
        simp [Table.sumWhere, hPayment, hStatus,
          RefundStatus.isReserved]
      by_cases hId : intent.id = paymentId
      · refine .inr ⟨intent, hIntent, hId, ?_⟩
        rw [hSum, if_pos hId, ← hId]
        omega
      · rw [hSum, if_neg hId]
        exact .inl (by omega)
  | settle _ _ reservation result _ hCall hRefunds _ _ =>
      have hOld :=
        hHeld.reserved call reservation (by rw [hCall]; rfl)
      refine .inl ?_
      have hShrink :=
        reservedAmount_setRefundStatus_le hHeld.refundIds
          hOld.1 hOld.2 (hPositive _ hOld.1)
          (finalRefundStatus result.outcome) paymentId
      simpa [reservedAmount, hRefunds] using hShrink

theorem RefundStep.positive
    (hRefund : RefundStep system call action next)
    (hPositive :
      ∀ refund ∈ system.db.refunds, 0 < refund.amountMinor) :
    ∀ refund ∈ next.db.refunds, 0 < refund.amountMinor := by
  intro refund hMem
  cases hRefund with
  | same hRefunds _ _ =>
      rw [hRefunds] at hMem
      exact hPositive refund hMem
  | answer _ _ _ _ _ _ _ hRefunds _ _ =>
      rw [hRefunds] at hMem
      exact hPositive refund hMem
  | reserve _ _ reservation intent _ _ hAmount _ _ _
      hRefunds _ _ =>
      rw [hRefunds, List.mem_append,
        List.mem_singleton] at hMem
      rcases hMem with hOld | rfl
      · exact hPositive refund hOld
      · exact hAmount
  | settle _ _ reservation _ _ _ hRefunds _ _ =>
      rw [hRefunds] at hMem
      rcases Table.mem_updateWhere.mp hMem with
        ⟨old, hOld, rfl⟩
      have hOldPositive := hPositive old hOld
      split <;> exact hOldPositive

/- A payment without refunds has nothing reserved. -/
theorem reservedAmount_of_no_refund
    {db : Database}
    {paymentId : Uuid}
    (hNone :
      ∀ refund ∈ db.refunds,
        refund.paymentIntentId ≠ paymentId) :
    reservedAmount db paymentId = 0 := by
  apply Table.sumWhere_of_forall_not
  intro refund hMem
  simp [hNone refund hMem]

theorem refundBalance_effect
    (hHeld : Held system)
    (hBalance : RefundBalance system)
    (hAdmits : system.db.Admits draw)
    (hEffect :
      Effect config system call draw action next) :
    RefundBalance next := by
  have hTrail := hEffect.trailStep hHeld.captures hAdmits
  have hRefund := hEffect.refundStep hAdmits
  refine ⟨hRefund.positive hBalance.positive, ?_⟩
  intro payment hPayment
  have hReserved :=
    hRefund.reservedAmount_le hHeld hBalance.positive
      payment.id
  rcases hTrail.exists_old hPayment with
    ⟨old, hOld, hId, hAmount⟩ | ⟨hFresh, hPositive⟩
  · rw [← hAmount]
    rcases hReserved with hLe | ⟨intent, hIntent, hSame, hLe⟩
    · have hBound := hBalance.bounded old hOld
      rw [hId] at hBound
      exact hLe.trans hBound
    · have hRow : intent = old :=
        List.inj_on_of_nodup_map hHeld.paymentIds hIntent
          hOld (hSame.trans hId.symm)
      rw [← hRow]
      exact hLe
  · -- nothing can have been reserved for a new payment
    have hNone :
        ∀ refund ∈ next.db.refunds,
          refund.paymentIntentId ≠ payment.id := by
      intro refund hMem hId
      have hOwner := hRefund.owner hHeld.owner refund hMem
      rw [hId] at hOwner
      exact hFresh hOwner
    rw [reservedAmount_of_no_refund hNone]
    exact hPositive.le

/- What the calls hold and what they have reserved. -/
def HeldBalance (system : System) : Prop :=
  Held system ∧ RefundBalance system

theorem heldBalance_initial : HeldBalance {} :=
  ⟨held_initial, by simp, by simp⟩

theorem heldBalance_step
    {label : Label}
    (hBoth : HeldBalance system)
    (hStep : step config system label = some next) :
    HeldBalance next := by
  rcases step_effect hStep with ⟨hAdmits, hEffect⟩
  exact ⟨held_effect hBoth.1 hAdmits hEffect,
    refundBalance_effect hBoth.1 hBoth.2 hAdmits hEffect⟩

theorem heldBalance_of_exec
    {labels : List Label}
    (hRun :
      Lts.exec (step config) {} labels = some system) :
    HeldBalance system :=
  Lts.invariant_of_exec
    (fun _ _ _ hBoth hStep => heldBalance_step hBoth hStep)
    heldBalance_initial hRun

/-
  In every reachable state, whichever row a lock returns,
  the pending and succeeded refunds of a payment add up to
  at most its amount.
-/
theorem reserved_amount_le_amount
    (config : Config)
    (labels : List Label)
    (system : System)
    (hRun :
      Lts.exec (step config) {} labels = some system)
    (payment : PaymentIntent)
    (hPayment : payment ∈ system.db.payments) :
    Table.sumWhere
        (fun refund : Refund =>
          refund.paymentIntentId = payment.id &&
            (refund.status = .pending ||
              refund.status = .succeeded))
        (·.amountMinor) system.db.refunds ≤
      payment.amountMinor := by
  have hBound :=
    (heldBalance_of_exec hRun).2.bounded payment hPayment
  have hSame :
      (fun refund : Refund =>
          refund.paymentIntentId = payment.id &&
            (refund.status = .pending ||
              refund.status = .succeeded)) =
        (fun refund : Refund =>
          refund.paymentIntentId = payment.id &&
            refund.status.isReserved) := by
    funext refund
    cases hStatus : refund.status <;>
      simp [RefundStatus.isReserved]
  rw [hSame]
  exact hBound

/- Forty of a captured hundred are reserved. -/
def reservedRun : List Label :=
  capturedRun ++
    [⟨2, .refundBegin
        { merchantId := 1
          paymentId := 1
          idempotencyKey := "refund"
          amountMinor := 40 }, .numbered 8⟩]

theorem reserved_amount_le_amount_forty :
    ∃ system,
      Lts.exec (step { sha256 := spellOut }) {}
          reservedRun = some system ∧
        system.db.refunds.length = 1 ∧
        ∀ payment ∈ system.db.payments,
          Table.sumWhere
              (fun refund : Refund =>
                refund.paymentIntentId = payment.id &&
                  (refund.status = .pending ||
                    refund.status = .succeeded))
              (·.amountMinor) system.db.refunds ≤
            payment.amountMinor := by
  have hRun :
      (Lts.exec (step { sha256 := spellOut }) {}
        reservedRun).map (fun system =>
          system.db.refunds.length) = some 1 := by
    decide +kernel
  rcases Option.map_eq_some_iff.mp hRun with
    ⟨system, hExec, hLength⟩
  exact ⟨system, hExec, hLength,
    reserved_amount_le_amount _ _ _ hExec⟩

end PayGuard

------------------------------------------------------------
-- What The Provider Refunded
------------------------------------------------------------

namespace PayGuard

namespace System

/- What the provider has really refunded of a payment. -/
def executedAmount
    (system : System)
    (paymentId : Uuid) : Int :=
  Table.sumWhere
    (fun refundCall : RefundCall =>
      refundCall.paymentId = paymentId &&
        refundCall.executed)
    (·.amountMinor) system.refundCalls

/- The refunds the provider has really carried out. -/
def executedRefunds
    (system : System) : List Uuid :=
  (system.refundCalls.filter (·.executed)).map (·.refundId)

end System

/-
  A finalizing transaction does not give back a reservation
  whose refund was answered `UNKNOWN` but took place.
-/
def KeepsExecuted
    (system : System)
    (label : Label) : Prop :=
  match label.action, system.calls label.call with
  | .refundFinish, .refundAnswered _ _ reservation result =>
      result.outcome = .unknown →
        reservation.refund.id ∉ system.executedRefunds
  | _, _ => True

instance
    (system : System)
    (label : Label) :
    Decidable (KeepsExecuted system label) := by
  unfold KeepsExecuted
  generalize system.calls label.call = position
  generalize label.action = action
  rcases action
  case refundFinish =>
    rcases position
    case refundAnswered request key reservation result =>
      exact inferInstanceAs (Decidable (_ → _))
    all_goals exact inferInstanceAs (Decidable True)
  all_goals exact inferInstanceAs (Decidable True)

/-
  Every refund is asked for once, and the executed ones are
  still reserved with the amount that was asked for.
-/
structure RefundsExecuted (system : System) : Prop where
  once : (system.refundCalls.map (·.refundId)).Nodup
  stored :
    ∀ refundCall ∈ system.refundCalls,
      refundCall.refundId ∈ system.db.refunds.map (·.id)
  waiting :
    ∀ call request key reservation,
      system.calls call =
          .refundReserved request key reservation →
        reservation.refund.id ∉
          system.refundCalls.map (·.refundId)
  answered :
    ∀ call request key reservation result,
      system.calls call =
          .refundAnswered request key reservation result →
        ∀ refundCall ∈ system.refundCalls,
          refundCall.refundId = reservation.refund.id →
            refundCall.executed = true →
              result.outcome = .succeeded ∨
                result.outcome = .unknown
  reserved :
    ∀ refundCall ∈ system.refundCalls,
      refundCall.executed = true →
        ∃ refund ∈ system.db.refunds,
          refund.id = refundCall.refundId ∧
            refund.paymentIntentId = refundCall.paymentId ∧
            refund.amountMinor = refundCall.amountMinor ∧
            refund.status.isReserved = true

theorem refundsExecuted_initial : RefundsExecuted {} where
  once := List.nodup_nil
  stored := by simp [System.refundCalls]
  waiting := by
    intro call request key reservation hCall
    cases hCall
  answered := by
    intro call request key reservation result hCall
    cases hCall
  reserved := by simp [System.refundCalls]

variable {config : Config}
variable {system next : System}
variable {call : CallId}
variable {draw : Draw}
variable {action : Action}

/- The calls to the provider after a step. -/
theorem RefundStep.mem_refundCalls
    {refundCall : RefundCall}
    (hRefund : RefundStep system call action next)
    (hMem : refundCall ∈ next.refundCalls) :
    refundCall ∈ system.refundCalls ∨
      ∃ request key reservation result,
        system.calls call =
            .refundReserved request key reservation ∧
          next.calls call =
            .refundAnswered request key reservation result ∧
          result.outcome.mayExecute refundCall.executed =
            true ∧
          next.db.refunds = system.db.refunds ∧
          refundCall.paymentId =
            reservation.refund.paymentIntentId ∧
          refundCall.refundId = reservation.refund.id ∧
          refundCall.amountMinor =
            reservation.refund.amountMinor := by
  cases hRefund with
  | same _ hCalls _ => exact .inl (hCalls ▸ hMem)
  | reserve _ _ _ _ _ _ _ _ _ _ _ hCalls _ =>
      exact .inl (hCalls ▸ hMem)
  | settle _ _ _ _ _ _ _ hCalls _ =>
      exact .inl (hCalls ▸ hMem)
  | answer request key reservation result executed hCall
      hExecuted hRefunds hCalls hNext =>
      rw [hCalls, List.mem_append,
        List.mem_singleton] at hMem
      rcases hMem with hOld | rfl
      · exact .inl hOld
      · exact .inr ⟨request, key, reservation, result,
          hCall, hNext, hExecuted, hRefunds, rfl, rfl, rfl⟩

theorem mayExecute_true
    {outcome : ProviderOutcome}
    (hExecuted : outcome.mayExecute true = true) :
    outcome = .succeeded ∨ outcome = .unknown := by
  cases outcome <;> simp_all [ProviderOutcome.mayExecute]

/- No reservation of an executed refund is given back. -/
theorem RefundStep.reserved_executed
    {refundCall : RefundCall}
    (hRefund : RefundStep system call action next)
    (hExecutedRefunds : RefundsExecuted system)
    (hKeeps :
      KeepsExecuted system ⟨call, action, draw⟩)
    (hMem : refundCall ∈ system.refundCalls)
    (hExecuted : refundCall.executed = true) :
    ∃ refund ∈ next.db.refunds,
      refund.id = refundCall.refundId ∧
        refund.paymentIntentId = refundCall.paymentId ∧
        refund.amountMinor = refundCall.amountMinor ∧
        refund.status.isReserved = true := by
  rcases hExecutedRefunds.reserved refundCall hMem
    hExecuted with ⟨refund, hStored, hId, hRest⟩
  cases hRefund with
  | same hRefunds _ _ =>
      exact ⟨refund, hRefunds ▸ hStored, hId, hRest⟩
  | answer _ _ _ _ _ _ _ hRefunds _ _ =>
      exact ⟨refund, hRefunds ▸ hStored, hId, hRest⟩
  | reserve _ _ reservation _ _ _ _ _ _ _ hRefunds _ _ =>
      rw [hRefunds]
      exact ⟨refund, List.mem_append_left _ hStored, hId,
        hRest⟩
  | settle request key reservation result hAction hCall
      hRefunds _ _ =>
      rw [hRefunds]
      by_cases hSettled : refund.id = reservation.refund.id
      · -- the settled refund took place, so it succeeded
        have hCallId :
            refundCall.refundId = reservation.refund.id := by
          rw [← hId, hSettled]
        have hListed :
            reservation.refund.id ∈
              system.executedRefunds := by
          rw [← hCallId]
          exact List.mem_map_of_mem
            (List.mem_filter.mpr ⟨hMem, hExecuted⟩)
        have hOutcome : result.outcome = .succeeded := by
          rcases hExecutedRefunds.answered call request key
            reservation result hCall refundCall hMem hCallId
            hExecuted with hSucceeded | hUnknown
          · exact hSucceeded
          · simp only [KeepsExecuted, hAction, hCall]
              at hKeeps
            exact absurd hListed (hKeeps hUnknown)
        refine ⟨{ refund with status := .succeeded },
          Table.mem_updateWhere.mpr ⟨refund, hStored, ?_⟩,
          hId, hRest.1, hRest.2.1, rfl⟩
        simp [hSettled, hOutcome, finalRefundStatus]
      · exact ⟨refund,
          Table.mem_updateWhere_of_not_selected hStored
            (by simpa using hSettled),
          hId, hRest⟩

/- Refund rows are never removed. -/
theorem RefundStep.mem_refundIds
    {refundId : Uuid}
    (hRefund : RefundStep system call action next)
    (hMem : refundId ∈ system.db.refunds.map (·.id)) :
    refundId ∈ next.db.refunds.map (·.id) := by
  cases hRefund with
  | same hRefunds _ _ => exact hRefunds ▸ hMem
  | answer _ _ _ _ _ _ _ hRefunds _ _ =>
      exact hRefunds ▸ hMem
  | reserve _ _ _ _ _ _ _ _ _ _ hRefunds _ _ =>
      rw [hRefunds, List.map_append]
      exact List.mem_append_left _ hMem
  | settle _ _ _ _ _ _ hRefunds _ _ =>
      rw [hRefunds, setRefundStatus_ids]
      exact hMem

/- A call that has its answer was waiting for it. -/
theorem RefundStep.of_answered
    {request : RefundRequest}
    {key : ClaimedKey}
    {reservation : Reservation}
    {result : ProviderResult}
    (hRefund : RefundStep system call action next)
    (hNext :
      next.calls call =
        .refundAnswered request key reservation result) :
    system.calls call =
      .refundReserved request key reservation := by
  cases hRefund with
  | same _ _ hNone =>
      rw [hNext] at hNone
      cases hNone
  | settle _ _ _ _ _ _ _ _ hNone =>
      rw [hNext] at hNone
      cases hNone
  | reserve _ _ _ _ _ _ _ _ _ _ _ _ hReserved =>
      rw [hNext] at hReserved
      cases hReserved
  | answer _ _ _ _ _ hCall _ _ _ hAnswered =>
      rw [hNext] at hAnswered
      cases hAnswered
      exact hCall

/- A call that waits for its answer has a new refund. -/
theorem RefundStep.of_reserved
    {request : RefundRequest}
    {key : ClaimedKey}
    {reservation : Reservation}
    (hRefund : RefundStep system call action next)
    (hNext :
      next.calls call =
        .refundReserved request key reservation) :
    reservation.refund.id ∉ system.db.refunds.map (·.id) ∧
      next.refundCalls = system.refundCalls := by
  cases hRefund with
  | same _ _ hNone =>
      rw [hNext] at hNone
      cases hNone
  | settle _ _ _ _ _ _ _ _ hNone =>
      rw [hNext] at hNone
      cases hNone
  | answer _ _ _ _ _ _ _ _ _ hAnswered =>
      rw [hNext] at hAnswered
      cases hAnswered
  | reserve _ _ _ _ hFresh _ _ _ _ _ _ hCalls hReserved =>
      rw [hNext] at hReserved
      cases hReserved
      exact ⟨hFresh, hCalls⟩

/- The provider is asked at most once for a refund. -/
theorem RefundStep.once
    (hRefund : RefundStep system call action next)
    (hExecuted : RefundsExecuted system) :
    (next.refundCalls.map (·.refundId)).Nodup := by
  cases hRefund with
  | same _ hCalls _ => exact hCalls ▸ hExecuted.once
  | reserve _ _ _ _ _ _ _ _ _ _ _ hCalls _ =>
      exact hCalls ▸ hExecuted.once
  | settle _ _ _ _ _ _ _ hCalls _ =>
      exact hCalls ▸ hExecuted.once
  | answer request key reservation _ _ hCall _ _ hCalls _ =>
      rw [hCalls, List.map_append]
      refine List.Nodup.append hExecuted.once
        (List.nodup_singleton _) ?_
      have hWaiting :=
        hExecuted.waiting call request key reservation hCall
      simpa using hWaiting

/- No new answer concerns the refund of another call. -/
theorem RefundStep.refundCalls_other
    {other : CallId}
    {reservation : Reservation}
    {refundCall : RefundCall}
    (hRefund : RefundStep system call action next)
    (hHeld : Held system)
    (hOther : other ≠ call)
    (hReservation :
      (system.calls other).reservation = some reservation)
    (hMem : refundCall ∈ next.refundCalls)
    (hId : refundCall.refundId = reservation.refund.id) :
    refundCall ∈ system.refundCalls := by
  rcases hRefund.mem_refundCalls hMem with
    hOld | ⟨_, _, mine, _, hCall, _, _, _, _, hMine, _⟩
  · exact hOld
  · have hDistinct :=
      hHeld.distinct call other mine reservation hOther
        (by rw [hCall]; rfl) hReservation
    exact absurd (hMine.symm.trans hId) hDistinct

theorem refundsExecuted_effect
    (hHeld : Held system)
    (hExecuted : RefundsExecuted system)
    (hKeeps : KeepsExecuted system ⟨call, action, draw⟩)
    (hAdmits : system.db.Admits draw)
    (hEffect :
      Effect config system call draw action next) :
    RefundsExecuted next := by
  have hFrame := hEffect.frame
  have hRefund := hEffect.refundStep hAdmits
  refine
    { once := hRefund.once hExecuted
      stored := ?_
      waiting := ?_
      answered := ?_
      reserved := ?_ }
  · intro refundCall hMem
    rcases hRefund.mem_refundCalls hMem with
      hOld | ⟨_, _, mine, _, hCall, _, _, hRefunds, _, hMine,
        _⟩
    · exact hRefund.mem_refundIds
        (hExecuted.stored refundCall hOld)
    · have hRow :=
        (hHeld.reserved call mine (by rw [hCall]; rfl)).1
      rw [hMine, hRefunds]
      exact List.mem_map_of_mem hRow
  · intro other request key reservation hNext hMem
    rcases List.mem_map.mp hMem with
      ⟨refundCall, hListed, hId⟩
    by_cases hOther : other = call
    · subst hOther
      have hNew := hRefund.of_reserved hNext
      rw [hNew.2] at hListed
      have hStored := hExecuted.stored refundCall hListed
      rw [hId] at hStored
      exact hNew.1 hStored
    · rw [hFrame.calls other hOther] at hNext
      have hOld :=
        hRefund.refundCalls_other hHeld hOther
          (by rw [hNext]; rfl) hListed hId
      apply hExecuted.waiting other request key reservation
        hNext
      rw [← hId]
      exact List.mem_map_of_mem hOld
  · intro other request key reservation result hNext
      refundCall hMem hId hTrue
    by_cases hOther : other = call
    · subst hOther
      have hCall := hRefund.of_answered hNext
      rcases hRefund.mem_refundCalls hMem with
        hOld | ⟨_, _, _, _, _, hAnswered, hMay, _⟩
      · have hListed := List.mem_map_of_mem
          (f := (·.refundId)) hOld
        rw [hId] at hListed
        exact absurd hListed
          (hExecuted.waiting other request key reservation
            hCall)
      · rw [hNext] at hAnswered
        cases hAnswered
        rw [hTrue] at hMay
        exact mayExecute_true hMay
    · rw [hFrame.calls other hOther] at hNext
      exact hExecuted.answered other request key reservation
        result hNext refundCall
        (hRefund.refundCalls_other hHeld hOther
          (by rw [hNext]; rfl) hMem hId)
        hId hTrue
  · intro refundCall hMem hTrue
    rcases hRefund.mem_refundCalls hMem with
      hOld | ⟨_, _, mine, _, hCall, _, _, hRefunds, hPayment,
        hId, hAmount⟩
    · exact hRefund.reserved_executed hExecuted hKeeps hOld
        hTrue
    · have hRow :=
        hHeld.reserved call mine (by rw [hCall]; rfl)
      refine ⟨mine.refund, hRefunds ▸ hRow.1, hId.symm,
        hPayment.symm, hAmount.symm, ?_⟩
      rw [hRow.2]
      rfl

/- The executed refunds fit into the reserved ones. -/
theorem RefundsExecuted.executedAmount_le
    (hExecuted : RefundsExecuted system)
    (hBalance : RefundBalance system)
    (paymentId : Uuid) :
    system.executedAmount paymentId ≤
      reservedAmount system.db paymentId := by
  apply Table.sum_le_sumWhere (fun refund => refund.id)
    (fun refundCall => refundCall.refundId)
  · exact hExecuted.once.sublist
      (List.filter_sublist.map _)
  · intro refund hMem _
    exact (hBalance.positive refund hMem).le
  · intro refundCall hMem
    have hKept := List.mem_filter.mp hMem
    have hBoth :
        refundCall.paymentId = paymentId ∧
          refundCall.executed = true := by
      simpa using hKept.2
    rcases hExecuted.reserved refundCall hKept.1 hBoth.2 with
      ⟨refund, hStored, hId, hPayment, hAmount, hReserved⟩
    refine ⟨refund, hStored, hId, ?_, hAmount⟩
    simp [hPayment, hBoth.1, hReserved]

/-
  In every run that gives no reservation back for a refund
  that took place, the provider refunds at most the amount.
-/
theorem executed_amount_le_amount
    (config : Config)
    (labels : List Label)
    (system : System)
    (hRun :
      Lts.exec (step config) {} labels = some system)
    (hKeeps :
      Lts.Meets (step config) KeepsExecuted {} labels)
    (payment : PaymentIntent)
    (hPayment : payment ∈ system.db.payments) :
    system.executedAmount payment.id ≤
      payment.amountMinor := by
  have hKeep :
      ∀ before label after,
        HeldBalance before ∧ RefundsExecuted before →
          KeepsExecuted before label →
            step config before label = some after →
              HeldBalance after ∧ RefundsExecuted after := by
    intro before label after hInv hKept hStep
    rcases step_effect hStep with ⟨hAdmits, hEffect⟩
    exact ⟨heldBalance_step hInv.1 hStep,
      refundsExecuted_effect hInv.1.1 hInv.2 hKept hAdmits
        hEffect⟩
  have hBoth :=
    Lts.invariant_of_meets hKeep
      ⟨heldBalance_initial, refundsExecuted_initial⟩
      hKeeps hRun
  calc system.executedAmount payment.id
    _ ≤ reservedAmount system.db payment.id :=
        hBoth.2.executedAmount_le hBoth.1.2 payment.id
    _ ≤ payment.amountMinor :=
        hBoth.1.2.bounded payment hPayment

theorem executed_amount_le_amount_forty :
    ∃ system,
      Lts.exec (step { sha256 := spellOut }) {}
          (reservedRun ++
            [⟨2, .refundAnswer (.approved "refund") true,
                .numbered 9⟩,
              ⟨2, .refundFinish, .numbered 10⟩]) =
          some system ∧
        system.executedAmount 1 = 40 ∧
        ∀ payment ∈ system.db.payments,
          system.executedAmount payment.id ≤
            payment.amountMinor := by
  have hRun :
      (Lts.exec (step { sha256 := spellOut }) {}
        (reservedRun ++
          [⟨2, .refundAnswer (.approved "refund") true,
              .numbered 9⟩,
            ⟨2, .refundFinish, .numbered 10⟩])).map
          (fun system => system.executedAmount 1) =
        some 40 := by
    decide +kernel
  rcases Option.map_eq_some_iff.mp hRun with
    ⟨system, hExec, hAmount⟩
  exact ⟨system, hExec, hAmount,
    executed_amount_le_amount _ _ _ hExec
      (by decide +kernel)⟩

def ProviderResult.timedOut : ProviderResult where
  outcome := .unknown
  providerTransactionId := none
  rawStatus := "timeout"

/-
  A full refund times out but takes place; its reservation
  is given back and a second full refund goes through.
-/
def doubleRefundRun : List Label :=
  capturedRun ++
    [⟨2, .refundBegin
        { merchantId := 1
          paymentId := 1
          idempotencyKey := "refund-1"
          amountMinor := 100 }, .numbered 8⟩,
      ⟨2, .refundAnswer .timedOut true, .numbered 9⟩,
      ⟨2, .refundFinish, .numbered 10⟩,
      ⟨3, .refundBegin
        { merchantId := 1
          paymentId := 1
          idempotencyKey := "refund-2"
          amountMinor := 100 }, .numbered 11⟩,
      ⟨3, .refundAnswer (.approved "refund-2") true,
        .numbered 12⟩]

theorem executed_amount_exceeds_amount :
    ∃ system,
      Lts.exec (step { sha256 := spellOut }) {}
          doubleRefundRun = some system ∧
        ∃ payment ∈ system.db.payments,
          payment.status.Settled ∧
            payment.amountMinor <
              system.executedAmount payment.id := by
  have hRun :
      (Lts.exec (step { sha256 := spellOut }) {}
        doubleRefundRun).map (fun system =>
          decide (∃ payment ∈ system.db.payments,
            payment.status.Settled ∧
              payment.amountMinor <
                system.executedAmount payment.id)) =
        some true := by
    decide +kernel
  rcases Option.map_eq_some_iff.mp hRun with
    ⟨system, hExec, hExceeds⟩
  exact ⟨system, hExec, of_decide_eq_true hExceeds⟩

end PayGuard

import PayGuard.System.Held

/-
  What a refund call holds between its two transactions.

  The reserving transaction leaves a pending refund and the
  payment object in the session, and the finalizing one
  relies on both.  With what every step keeps of them the
  finalizing transaction cannot fail.

  Key definitions include:
    * `Call.refunding`
    * `InFlight`
    * `RefundsInFlight`

  Key theorems include:
    * `refundsInFlight_effect`
    * `InFlight.lockPayment`
    * `InFlight.refundFinalize`
    * `step_refunding`
-/

------------------------------------------------------------
-- Refunds In Flight
------------------------------------------------------------

namespace PayGuard

/- The request and the reservation of a refund call. -/
def Call.refunding :
    Call → Option (RefundRequest × Reservation)
| .refundReserved request _ reservation =>
    some (request, reservation)
| .refundAnswered request _ reservation _ =>
    some (request, reservation)
| _ => none

theorem Call.refunding_eq_none
    {call : Call}
    (hReservation : call.reservation = none) :
    call.refunding = none := by
  cases call with
  | refundReserved => cases hReservation
  | refundAnswered => cases hReservation
  | _ => rfl

theorem Call.reservation_eq_none
    {call : Call}
    (hRefunding : call.refunding = none) :
    call.reservation = none := by
  cases call with
  | refundReserved => cases hRefunding
  | refundAnswered => cases hRefunding
  | _ => rfl

theorem Call.reservation_of_refunding
    {call : Call}
    {request : RefundRequest}
    {reservation : Reservation}
    (hRefunding :
      call.refunding = some (request, reservation)) :
    call.reservation = some reservation := by
  cases call with
  | refundReserved =>
      cases hRefunding
      rfl
  | refundAnswered =>
      cases hRefunding
      rfl
  | _ => cases hRefunding

/-
  The objects of a refund call against the stored payment.
-/
structure InFlight
    (db : Database)
    (request : RefundRequest)
    (reservation : Reservation) : Prop where
  refund :
    reservation.refund.paymentIntentId = request.paymentId
  object : reservation.intent.id = request.paymentId
  status : reservation.intent.status = .refundPending
  stored :
    ∃ row ∈ db.payments,
      row.id = request.paymentId ∧
        row.merchantId = request.merchantId
  amount :
    ∀ row ∈ db.payments,
      row.id = request.paymentId →
        row.amountMinor = reservation.intent.amountMinor

def RefundsInFlight (system : System) : Prop :=
  ∀ call request reservation,
    (system.calls call).refunding =
        some (request, reservation) →
      InFlight system.db request reservation

theorem refundsInFlight_initial : RefundsInFlight {} := by
  intro call request reservation hRefunding
  cases hRefunding

end PayGuard

------------------------------------------------------------
-- Payments Across A Step
------------------------------------------------------------

namespace PayGuard

variable {config : Config}
variable {system next : System}
variable {call : CallId}
variable {draw : Draw}
variable {action : Action}

/- A stored payment keeps its name, merchant and amount. -/
theorem TrailStep.exists_kept
    {db : Database}
    {row : PaymentIntent}
    (hTrail : TrailStep config system call db)
    (hRow : row ∈ system.db.payments) :
    ∃ kept ∈ db.payments,
      kept.id = row.id ∧
        kept.merchantId = row.merchantId ∧
          kept.amountMinor = row.amountMinor := by
  cases hTrail with
  | same hSame =>
      rw [hSame.payments]
      exact ⟨row, hRow, rfl, rfl, rfl⟩
  | create intent draw _ _ _ _ hPayments _ _ =>
      rw [hPayments]
      exact ⟨row, List.mem_append_left _ hRow, rfl, rfl,
        rfl⟩
  | move intent _ _ hMove =>
      cases hMove with
      | stay hSame =>
          rw [hSame.payments]
          exact ⟨row, hRow, rfl, rfl, rfl⟩
      | move toStatus actor eventType draw _ hSame =>
          rw [hSame.payments]
          refine ⟨_, Table.mem_updateWhere.mpr
            ⟨row, hRow, rfl⟩, ?_, ?_, ?_⟩
          · split <;> rfl
          · split <;> rfl
          · split <;> rfl

theorem TrailStep.exists_new
    {db : Database}
    {row : PaymentIntent}
    (hTrail : TrailStep config system call db)
    (hRow : row ∈ system.db.payments) :
    ∃ kept ∈ db.payments,
      kept.id = row.id ∧
        kept.merchantId = row.merchantId := by
  rcases hTrail.exists_kept hRow with
    ⟨kept, hKept, hId, hMerchant, _⟩
  exact ⟨kept, hKept, hId, hMerchant⟩

theorem InFlight.trailStep
    {db : Database}
    {request : RefundRequest}
    {reservation : Reservation}
    (hTrail : TrailStep config system call db)
    (hFlight : InFlight system.db request reservation) :
    InFlight db request reservation where
  refund := hFlight.refund
  object := hFlight.object
  status := hFlight.status
  stored := by
    rcases hFlight.stored with ⟨row, hRow, hId, hMerchant⟩
    rcases hTrail.exists_new hRow with
      ⟨kept, hKept, hKeptId, hKeptMerchant⟩
    exact ⟨kept, hKept, hKeptId.trans hId,
      hKeptMerchant.trans hMerchant⟩
  amount := by
    intro row hRow hId
    rcases hTrail.exists_old hRow with
      ⟨old, hOld, hOldId, hAmount⟩ | ⟨hFresh, _⟩
    · rw [← hAmount]
      exact hFlight.amount old hOld (hOldId.trans hId)
    · rcases hFlight.stored with ⟨kept, hKept, hKeptId, _⟩
      rw [hId, ← hKeptId] at hFresh
      exact absurd (List.mem_map_of_mem hKept) hFresh

------------------------------------------------------------
-- The Reserving Transaction
------------------------------------------------------------

/- The object a reservation keeps of its payment. -/
theorem enterRefundPending_eq_ok
    {db db' : Database}
    {intent moved : PaymentIntent}
    (hEnter :
      enterRefundPending db intent draw =
        .ok (db', moved)) :
    moved.status = .refundPending ∧
      moved.id = intent.id ∧
      moved.amountMinor = intent.amountMinor := by
  unfold enterRefundPending at hEnter
  split at hEnter
  · rename_i hStatus
    cases hEnter
    exact ⟨hStatus, rfl, rfl⟩
  · rcases applyTransition_eq_ok.mp hEnter with
      ⟨_, _, rfl⟩
    exact ⟨rfl, rfl, rfl⟩

theorem refundReserve_inFlight
    {request : RefundRequest}
    {keyRow : IdempotencyKey}
    {db : Database}
    {reservation : Reservation}
    (hIds : (system.db.payments.map (·.id)).Nodup)
    (hTrail : TrailStep config system call db)
    (hBody :
      refundReserve system.db
        (system.db.selectPayment request.paymentId
          request.merchantId)
        request keyRow draw = .ok (db, reservation)) :
    InFlight db request reservation := by
  rcases refundReserve_eq_ok hBody with
    ⟨intent, hSelect, _, _, _, hRefund, _, hEnter⟩
  rcases selectPayment_eq_some hSelect with
    ⟨hStored, hId, hMerchant⟩
  rcases enterRefundPending_eq_ok hEnter with
    ⟨hStatus, hObject, hAmount⟩
  have hBefore :
      InFlight system.db request reservation :=
    { refund := by rw [hRefund]; exact hId
      object := hObject.trans hId
      status := hStatus
      stored := ⟨intent, hStored, hId, hMerchant⟩
      amount := by
        intro row hRow hRowId
        have hSame : row = intent :=
          List.inj_on_of_nodup_map hIds hRow hStored
            (hRowId.trans hId.symm)
        rw [hSame, hAmount] }
  exact hBefore.trailStep hTrail

theorem refundsInFlight_effect
    (hHeld : Held system)
    (hFlights : RefundsInFlight system)
    (hAdmits : system.db.Admits draw)
    (hEffect :
      Effect config system call draw action next) :
    RefundsInFlight next := by
  have hTrail := hEffect.trailStep hHeld.captures hAdmits
  intro other request reservation hRefunding
  by_cases hOther : other = call
  · subst hOther
    cases hEffect with
    | quiet hQuiet =>
        rw [Call.refunding_eq_none hQuiet.reservation]
          at hRefunding
        cases hRefunding
    | refundReserve _ _ hBody =>
        simp only [System.recordOrigin_calls,
          System.commit_calls_self, Call.refunding,
          Option.some.injEq, Prod.mk.injEq] at hRefunding
        rcases hRefunding with ⟨rfl, rfl⟩
        exact refundReserve_inFlight hHeld.paymentIds hTrail
          hBody
    | refundAnswer hCall _ =>
        simp only [System.observe_calls,
          System.become_calls_self, Call.refunding,
          Option.some.injEq, Prod.mk.injEq] at hRefunding
        rcases hRefunding with ⟨rfl, rfl⟩
        exact hFlights other _ _ (by rw [hCall]; rfl)
    | _ => simp [Call.refunding] at hRefunding
  · rw [hEffect.frame.calls other hOther] at hRefunding
    exact (hFlights other request reservation
      hRefunding).trailStep hTrail

end PayGuard

------------------------------------------------------------
-- The Finalizing Transaction
------------------------------------------------------------

namespace PayGuard

variable {lockRead : LockRead}
variable {db : Database}
variable {request : RefundRequest}
variable {reservation : Reservation}
variable {draw : Draw}

/-
  The lock finds the payment: the stored row, or the object
  the reservation left in the session.
-/
theorem InFlight.lockPayment
    (hFlight : InFlight db request reservation) :
    ∃ row locked,
      db.selectPayment request.paymentId
          request.merchantId = some row ∧
        PayGuard.lockPayment lockRead db
          (some reservation.intent) request.paymentId
          request.merchantId = some locked ∧
        locked.id = request.paymentId ∧
        locked.amountMinor = row.amountMinor ∧
        (lockRead = .current → locked = row) ∧
        (lockRead = .identityMap →
          locked = reservation.intent) := by
  rcases hFlight.stored with ⟨row, hRow, hId, hMerchant⟩
  have hSome :
      (db.selectPayment request.paymentId
        request.merchantId).isSome = true := by
    unfold Database.selectPayment
    rw [List.find?_isSome]
    exact ⟨row, hRow, by simp [hId, hMerchant]⟩
  rcases Option.isSome_iff_exists.mp hSome with
    ⟨row, hSelect⟩
  rcases selectPayment_eq_some hSelect with
    ⟨hStored, hRowId, _⟩
  have hAmount := hFlight.amount row hStored hRowId
  cases lockRead with
  | current =>
      refine ⟨row, row, hSelect, ?_, hRowId, rfl,
        fun _ => rfl, ?_⟩
      · simp [PayGuard.lockPayment, hSelect]
      · intro hIdentityMap
        cases hIdentityMap
  | identityMap =>
      refine ⟨row, reservation.intent, hSelect, ?_,
        hFlight.object, hAmount.symm, ?_, fun _ => rfl⟩
      · simp [PayGuard.lockPayment, hSelect, hFlight.object,
          hRowId]
      · intro hCurrent
        cases hCurrent

/- A locked payment can always leave its refunds. -/
theorem leaveRefundPending_isOk
    (db : Database)
    (intent : PaymentIntent)
    (draw : Draw) :
    ∃ left moved,
      leaveRefundPending db intent draw =
        .ok (left, moved) := by
  unfold leaveRefundPending
  split
  · rename_i hLast
    have hValid :
        ∀ toStatus eventType,
          isValidPaymentTransition .refundPending toStatus
              (some .api) = true →
            ∃ left moved,
              applyTransition db intent toStatus .api
                eventType draw = .ok (left, moved) := by
      intro toStatus eventType hValid
      refine ⟨_, _, applyTransition_eq_ok.mpr
        ⟨?_, rfl, rfl⟩⟩
      rw [hLast.2]
      exact hValid
    split
    · exact hValid _ _ (by decide)
    · split
      · exact hValid _ _ (by decide)
      · exact hValid _ _ (by decide)
  · exact ⟨db, intent, rfl⟩

/- The finalizing transaction of a refund in flight commits. -/
theorem InFlight.refundFinalize
    (hFlight : InFlight db request reservation)
    (keyRowId : Uuid)
    (result : ProviderResult) :
    ∃ left response,
      PayGuard.refundFinalize db
        (PayGuard.lockPayment lockRead db
          (some reservation.intent) request.paymentId
          request.merchantId)
        reservation.refund keyRowId result draw =
          .ok (left, response) := by
  rcases hFlight.lockPayment with
    ⟨row, locked, _, hLocked, _⟩
  rw [hLocked]
  rcases leaveRefundPending_isOk
      (settleRefund db locked
        { reservation.refund with
          status := finalRefundStatus result.outcome }
        result.outcome draw) locked draw with
    ⟨left, moved, hLeave⟩
  unfold PayGuard.refundFinalize
  simp only [hLeave]
  exact ⟨_, _, rfl⟩

end PayGuard

------------------------------------------------------------
-- Steps Of A Refund Call
------------------------------------------------------------

namespace PayGuard

/- What a call between its two transactions can do. -/
inductive RefundingStep
    (config : Config)
    (system : System)
    (call : CallId)
    (draw : Draw)
    (request : RefundRequest)
    (reservation : Reservation) :
    Action → System → Prop where
| answer
    {key : ClaimedKey}
    {result : ProviderResult}
    {executed : Bool}
    {next : System}
    (hDb : next.db = system.db)
    (hNext :
      next.calls call =
        .refundAnswered request key reservation result) :
    RefundingStep config system call draw request
      reservation (.refundAnswer result executed) next
| finish
    {key : ClaimedKey}
    {result : ProviderResult}
    {db : Database}
    {response : Response}
    (hCall :
      system.calls call =
        .refundAnswered request key reservation result)
    (hFree : system.paymentFree request.paymentId = true)
    (hBody :
      refundFinalize system.db
        (lockPayment config.lockRead system.db
          (some reservation.intent) request.paymentId
          request.merchantId)
        reservation.refund key.id result draw =
          .ok (db, response)) :
    RefundingStep config system call draw request
      reservation .refundFinish
      (system.commit call db
        (.done (.response response.status response.body)))
| raise
    {key : ClaimedKey}
    {failure : Failure} :
    RefundingStep config system call draw request
      reservation (.raise failure)
      (system.become call (.failing key failure))
| die :
    RefundingStep config system call draw request
      reservation .die
      ((system.release call).become call .dead)

variable {config : Config}
variable {system next : System}
variable {call : CallId}
variable {draw : Draw}
variable {action : Action}
variable {request : RefundRequest}
variable {reservation : Reservation}

theorem callStep_refundReserved
    {key : ClaimedKey}
    (hCall :
      system.calls call =
        .refundReserved request key reservation)
    (hStep :
      callStep config system call draw action = some next) :
    RefundingStep config system call draw request
      reservation action next := by
  cases action with
  | refundAnswer result executed =>
      simp only [callStep, stepRefundAnswer, hCall] at hStep
      split at hStep
      · cases hStep
        exact .answer rfl
          (System.become_calls_self system call
            (.refundAnswered request key reservation
              result))
      · cases hStep
  | raise failure =>
      simp only [callStep, stepRaise, hCall] at hStep
      cases hStep
      exact .raise
  | die =>
      simp only [callStep, stepDie, hCall] at hStep
      cases hStep
      exact .die
  | _ =>
      have hEnables := callStep_enables hStep
      rw [hCall] at hEnables
      cases hEnables

theorem callStep_refundAnswered
    {key : ClaimedKey}
    {result : ProviderResult}
    (hFlight : InFlight system.db request reservation)
    (hCall :
      system.calls call =
        .refundAnswered request key reservation result)
    (hStep :
      callStep config system call draw action = some next) :
    RefundingStep config system call draw request
      reservation action next := by
  cases action with
  | refundFinish =>
      simp only [callStep, stepRefundFinish, hCall] at hStep
      rcases hFlight.refundFinalize key.id result with
        ⟨db, response, hBody⟩
      split at hStep
      · rename_i hReady
        rw [hBody] at hStep
        cases hStep
        rw [Bool.and_eq_true] at hReady
        exact .finish hCall hReady.1 hBody
      · cases hStep
  | raise failure =>
      simp only [callStep, stepRaise, hCall] at hStep
      cases hStep
      exact .raise
  | die =>
      simp only [callStep, stepDie, hCall] at hStep
      cases hStep
      exact .die
  | _ =>
      have hEnables := callStep_enables hStep
      rw [hCall] at hEnables
      cases hEnables

/- A refund in flight is answered, finished or abandoned. -/
theorem step_refunding
    {label : Label}
    (hFlights : RefundsInFlight system)
    (hRefunding :
      (system.calls label.call).refunding =
        some (request, reservation))
    (hStep : step config system label = some next) :
    RefundingStep config system label.call label.draw
      request reservation label.action next := by
  have hFlight := hFlights label.call request reservation
    hRefunding
  unfold step at hStep
  split at hStep
  · cases hCall : system.calls label.call with
    | refundReserved =>
        rw [hCall] at hRefunding
        cases hRefunding
        exact callStep_refundReserved hCall hStep
    | refundAnswered =>
        rw [hCall] at hRefunding
        cases hRefunding
        exact callStep_refundAnswered hFlight hCall hStep
    | _ =>
        rw [hCall] at hRefunding
        cases hRefunding
  · cases hStep

end PayGuard

import PayGuard.Invariants.RefundLedger
import PayGuard.System.Landings

/-
  Whether a refund is left hanging.

  A pending refund belongs to the call that reserved it, and
  only that call ever gives it a final status.  A call that
  raises in between marks its key and goes, so its refund
  stays pending and its payment waiting.

  Key definitions include:
    * `NothingHangs`
    * `KeepsReservation`
    * `Owned`
    * `Orphaned`

  Key theorems include:
    * `no_refund_left_hanging`
    * `raising_refund_hangs`
-/

------------------------------------------------------------
-- Pending Refunds And Their Calls
------------------------------------------------------------

namespace PayGuard

/- No refund is pending and no payment waits for one. -/
structure NothingHangs (db : Database) : Prop where
  refunds :
    ∀ refund ∈ db.refunds, refund.status ≠ .pending
  payments :
    ∀ payment ∈ db.payments,
      payment.status ≠ .refundPending

/- No exception ends a call between its two commits. -/
def KeepsReservation
    (system : System)
    (label : Label) : Prop :=
  match label.action with
  | .raise _ =>
      (system.calls label.call).refunding = none
  | _ => True

instance
    (system : System)
    (label : Label) :
    Decidable (KeepsReservation system label) := by
  unfold KeepsReservation
  generalize label.action = action
  rcases action
  case raise failure =>
    exact inferInstanceAs (Decidable (_ = _))
  all_goals exact inferInstanceAs (Decidable True)

/- The refund is the reservation of a call. -/
def System.Holds
    (system : System)
    (call : CallId)
    (refund : Refund) : Prop :=
  ∃ reservation,
    (system.calls call).reservation = some reservation ∧
      reservation.refund.id = refund.id

/- Every pending refund is held by a call. -/
def Owned (system : System) : Prop :=
  ∀ refund ∈ system.db.refunds,
    refund.status = .pending →
      ∃ call, system.Holds call refund

/- A pending refund that no call holds any more. -/
def Orphaned (system : System) : Prop :=
  ∃ refund ∈ system.db.refunds,
    refund.status = .pending ∧
      ∀ call, ¬ system.Holds call refund

/- A payment that waits has a pending refund. -/
def Backed (db : Database) : Prop :=
  ∀ payment ∈ db.payments,
    payment.status = .refundPending →
      ∃ refund ∈ db.refunds,
        refund.paymentIntentId = payment.id ∧
          refund.status = .pending

theorem owned_initial : Owned {} := by
  intro refund hRefund
  cases hRefund

theorem backed_initial : Backed {} := by
  intro payment hPayment
  cases hPayment

end PayGuard

------------------------------------------------------------
-- Pending Refunds Across A Step
------------------------------------------------------------

namespace PayGuard

variable {config : Config}
variable {system next : System}
variable {label : Label}
variable {refund : Refund}

/- The calls other than the acting one hold what they held. -/
theorem System.holds_iff_of_frame
    {call other : CallId}
    (hFrame : Frame system call next)
    (hOther : other ≠ call) :
    next.Holds other refund ↔ system.Holds other refund := by
  unfold System.Holds
  rw [hFrame.calls other hOther]

/- A call outside of its refund only ever adds one. -/
theorem RefundStep.of_not_refunding
    {call : CallId}
    {action : Action}
    (hRefund : RefundStep system call action next)
    (hNone : (system.calls call).refunding = none) :
    next.db.refunds = system.db.refunds ∨
      ∃ request key reservation,
        next.db.refunds =
            system.db.refunds ++ [reservation.refund] ∧
          next.calls call =
            .refundReserved request key reservation := by
  cases hRefund with
  | same hRefunds _ _ => exact .inl hRefunds
  | reserve request key reservation _ _ _ _ _ _ _ hRefunds _
      hNext =>
      exact .inr ⟨request, key, reservation, hRefunds, hNext⟩
  | answer _ _ _ _ _ hCall =>
      rw [hCall] at hNone
      cases hNone
  | settle _ _ _ _ _ hCall =>
      rw [hCall] at hNone
      cases hNone

theorem finalRefundStatus_ne_pending
    (outcome : ProviderOutcome) :
    finalRefundStatus outcome ≠ .pending := by
  cases outcome <;> simp [finalRefundStatus]

/- A refund still pending after another was settled. -/
theorem mem_of_mem_setRefundStatus
    {db : Database}
    {refundId : Uuid}
    {status : RefundStatus}
    (hStatus : status ≠ .pending)
    (hMem :
      refund ∈ (setRefundStatus db refundId status).refunds)
    (hPending : refund.status = .pending) :
    refund ∈ db.refunds ∧ refund.id ≠ refundId := by
  rcases Table.mem_updateWhere.mp hMem with ⟨old, hOld, rfl⟩
  by_cases hId : old.id = refundId
  · simp only [hId, decide_true, if_true] at hPending
    exact absurd hPending hStatus
  · simp only [hId, decide_false, Bool.false_eq_true,
      if_false]
    exact ⟨hOld, hId⟩

theorem owned_step
    (hFlights : RefundsInFlight system)
    (hOwned : Owned system)
    (hKeeps : KeepsReservation system label)
    (hAlive : label.action ≠ .die)
    (hStep : step config system label = some next) :
    Owned next := by
  rcases step_effect hStep with ⟨hAdmits, hEffect⟩
  have hFrame := hEffect.frame
  intro refund hMem hPending
  cases hRefunding :
      (system.calls label.call).refunding with
  | none =>
      -- whoever holds an old refund is not the acting call
      have hOld :
          refund ∈ system.db.refunds →
            ∃ call, next.Holds call refund := by
        intro hStored
        rcases hOwned refund hStored hPending with
          ⟨call, reservation, hHolds, hId⟩
        have hOther : call ≠ label.call := by
          rintro rfl
          rw [Call.reservation_eq_none hRefunding] at hHolds
          cases hHolds
        exact ⟨call, (System.holds_iff_of_frame hFrame
          hOther).mpr ⟨reservation, hHolds, hId⟩⟩
      rcases (hEffect.refundStep hAdmits).of_not_refunding
          hRefunding with
        hSame | ⟨request, key, reservation, hAdded, hNext⟩
      · rw [hSame] at hMem
        exact hOld hMem
      · rw [hAdded, List.mem_append,
          List.mem_singleton] at hMem
        rcases hMem with hStored | rfl
        · exact hOld hStored
        · exact ⟨label.call, reservation,
            by rw [hNext]; rfl, rfl⟩
  | some pair =>
      rcases pair with ⟨request, reservation⟩
      have hMine :=
        Call.reservation_of_refunding hRefunding
      have hRefunds := step_refunding hFlights hRefunding hStep
      -- a refund some other call holds
      have hOld :
          refund ∈ system.db.refunds →
            refund.id ≠ reservation.refund.id →
              ∃ call, next.Holds call refund := by
        intro hStored hNe
        rcases hOwned refund hStored hPending with
          ⟨call, held, hHolds, hId⟩
        have hOther : call ≠ label.call := by
          rintro rfl
          cases hMine.symm.trans hHolds
          exact hNe hId.symm
        exact ⟨call, (System.holds_iff_of_frame hFrame
          hOther).mpr ⟨held, hHolds, hId⟩⟩
      generalize hAction : label.action = action at hRefunds
      cases hRefunds with
      | answer hDb hNext =>
          rw [hDb] at hMem
          by_cases hId : refund.id = reservation.refund.id
          · exact ⟨label.call, reservation,
              by rw [hNext]; rfl, hId.symm⟩
          · exact hOld hMem hId
      | finish _ _ hBody =>
          rw [System.commit_db, refundFinalize_refunds hBody]
            at hMem
          rcases mem_of_mem_setRefundStatus
              (finalRefundStatus_ne_pending _) hMem
              hPending with
            ⟨hStored, hNe⟩
          exact hOld hStored hNe
      | raise =>
          simp only [KeepsReservation, hAction, hRefunding]
            at hKeeps
          cases hKeeps
      | die => exact absurd hAction hAlive

/- A call that raises leaves its refund to nobody. -/
theorem orphaned_of_raise
    (hHeld : Held system)
    (hFlights : RefundsInFlight system)
    (hAbandons : ¬ KeepsReservation system label)
    (hStep : step config system label = some next) :
    Orphaned next := by
  have hFrame := (step_effect hStep).2.frame
  unfold KeepsReservation at hAbandons
  split at hAbandons
  · rename_i failure hAction
    rcases Option.ne_none_iff_exists'.mp hAbandons with
      ⟨⟨request, reservation⟩, hRefunding⟩
    have hMine := Call.reservation_of_refunding hRefunding
    have hStored := hHeld.reserved label.call _ hMine
    have hRefunds := step_refunding hFlights hRefunding hStep
    rw [hAction] at hRefunds
    cases hRefunds with
    | raise =>
        refine ⟨reservation.refund, hStored.1, hStored.2, ?_⟩
        intro call hHolds
        by_cases hOther : call = label.call
        · subst hOther
          rcases hHolds with ⟨_, hNone, _⟩
          simp [Call.reservation] at hNone
        · rw [System.holds_iff_of_frame hFrame hOther]
            at hHolds
          rcases hHolds with ⟨held, hTheirs, hId⟩
          exact hHeld.distinct label.call call reservation
            held hOther hMine hTheirs hId.symm
  · exact absurd trivial hAbandons

/- Nobody takes up a refund that was left. -/
theorem orphaned_step
    (hOrphaned : Orphaned system)
    (hStep : step config system label = some next) :
    Orphaned next := by
  rcases step_effect hStep with ⟨hAdmits, hEffect⟩
  have hFrame := hEffect.frame
  rcases hOrphaned with
    ⟨refund, hStored, hPending, hNobody⟩
  have hOthers :
      ∀ call,
        call ≠ label.call → ¬ next.Holds call refund := by
    intro call hOther hHolds
    exact hNobody call
      ((System.holds_iff_of_frame hFrame hOther).mp hHolds)
  have hNext :
      refund ∈ next.db.refunds ∧
        ¬ next.Holds label.call refund := by
    cases hEffect.refundStep hAdmits with
    | same hRefunds _ hNone =>
        rw [hRefunds]
        refine ⟨hStored, ?_⟩
        rintro ⟨_, hHolds, _⟩
        rw [hNone] at hHolds
        cases hHolds
    | answer request key reservation result executed hCall _
        hRefunds _ hAnswered =>
        rw [hRefunds]
        refine ⟨hStored, ?_⟩
        rintro ⟨held, hHolds, hId⟩
        rw [hAnswered] at hHolds
        exact hNobody label.call
          ⟨held, by rw [hCall]; exact hHolds, hId⟩
    | reserve request key reservation _ hFresh _ _ _ _ _
        hRefunds _ hReserved =>
        rw [hRefunds]
        refine ⟨List.mem_append_left _ hStored, ?_⟩
        rintro ⟨held, hHolds, hId⟩
        rw [hReserved] at hHolds
        cases hHolds
        rw [hId] at hFresh
        exact hFresh (List.mem_map_of_mem hStored)
    | settle request key reservation result _ hCall hRefunds
        _ hNone =>
        rw [hRefunds]
        constructor
        · apply Table.mem_updateWhere_of_not_selected hStored
          simp only [decide_eq_false_iff_not]
          intro hId
          exact hNobody label.call
            ⟨reservation, by rw [hCall]; rfl, hId.symm⟩
        · rintro ⟨_, hHolds, _⟩
          rw [hNone] at hHolds
          cases hHolds
  refine ⟨refund, hNext.1, hPending, ?_⟩
  intro call
  by_cases hOther : call = label.call
  · subst hOther
    exact hNext.2
  · exact hOthers call hOther

end PayGuard

------------------------------------------------------------
-- Payments That Wait
------------------------------------------------------------

namespace PayGuard

variable {config : Config}
variable {system next : System}
variable {label : Label}
variable {db db' : Database}
variable {intent locked row : PaymentIntent}
variable {draw : Draw}

/- The last refund takes its payment out of the status. -/
theorem leaveRefundPending_leaves
    {left : Database}
    {moved : PaymentIntent}
    (hLast : pendingRefunds db intent.id = 0)
    (hStatus : intent.status = .refundPending)
    (hLeave :
      leaveRefundPending db intent draw =
        .ok (left, moved)) :
    ∃ toStatus eventType,
      toStatus ≠ .refundPending ∧
        left =
          db.recordTransition intent toStatus .api eventType
            draw := by
  unfold leaveRefundPending at hLeave
  rw [if_pos ⟨hLast, hStatus⟩] at hLeave
  split at hLeave
  · exact ⟨.refunded, _, by simp,
      (applyTransition_eq_ok.mp hLeave).2.1⟩
  · split at hLeave
    · exact ⟨.succeeded, _, by simp,
        (applyTransition_eq_ok.mp hLeave).2.1⟩
    · exact ⟨.refundFailed, _, by simp,
        (applyTransition_eq_ok.mp hLeave).2.1⟩

/- A payment moved away from its status is not in it. -/
theorem status_ne_of_flushed
    {payments : List PaymentIntent}
    {toStatus : PaymentStatus}
    (hMoves : toStatus ≠ intent.status)
    (hRow :
      row ∈ Table.updateWhere
        (fun other => other.id = intent.id)
        (flushPayment intent (intent.moveTo toStatus))
        payments)
    (hId : row.id = intent.id) :
    row.status ≠ intent.status := by
  rcases Table.mem_updateWhere.mp hRow with ⟨old, _, rfl⟩
  split at hId
  · rename_i hSelected
    rw [if_pos hSelected]
    simp only [flushPayment, PaymentIntent.moveTo, hMoves,
      if_false]
    exact hMoves
  · rename_i hOther
    exact absurd (by simpa using hId) hOther

/-
  After the finalizing transaction a payment that still
  waits has another refund to wait for.
-/
theorem refundFinalize_backed
    {refund : Refund}
    {keyRowId : Uuid}
    {result : ProviderResult}
    {response : Response}
    (hStatus : locked.status = .refundPending)
    (hBody :
      refundFinalize db (some locked) refund keyRowId result
        draw = .ok (db', response))
    (hRow : row ∈ db'.payments)
    (hId : row.id = locked.id)
    (hWaits : row.status = .refundPending) :
    ∃ pending ∈ db'.refunds,
      pending.paymentIntentId = row.id ∧
        pending.status = .pending := by
  by_contra hNone
  rcases refundFinalize_eq_ok hBody with
    ⟨intent, left, moved, body, hLocked, hLeave, rfl, _⟩
  cases hLocked
  have hRefunds := (Moved.of_leaveRefundPending hLeave).refunds
  have hLast :
      pendingRefunds
        (settleRefund db locked refund result.outcome draw)
        locked.id = 0 := by
    unfold pendingRefunds
    rw [← hRefunds, List.countP_eq_zero]
    intro other hOther
    simp only [decide_eq_true_eq]
    rintro ⟨hPayment, hPending⟩
    exact hNone ⟨other, hOther, hPayment.trans hId.symm,
      hPending⟩
  rcases leaveRefundPending_leaves hLast hStatus hLeave with
    ⟨toStatus, eventType, hMoves, rfl⟩
  rw [← hStatus] at hMoves hWaits
  exact status_ne_of_flushed hMoves hRow hId hWaits

/- No dispatch asks for a refund. -/
theorem webhookTarget_ne_refundPending
    {eventType : String} :
    webhookTarget eventType ≠ some .refundPending := by
  unfold webhookTarget
  split
  · simp
  · split
    · simp
    · simp

/- Only a reservation makes a payment wait. -/
theorem Landing.backed
    {call : CallId}
    {action : Action}
    {paymentId : Uuid}
    {targets : List PaymentStatus}
    (hTyped : PlansTyped system)
    (hLanding :
      Landing config system call action next paymentId
        targets)
    (hWaits : .refundPending ∈ targets) :
    ∃ refund ∈ next.db.refunds,
      refund.paymentIntentId = paymentId ∧
        refund.status = .pending := by
  cases hLanding with
  | refundEntered _ hStored hRefund hPending =>
      exact ⟨_, hStored, hRefund, hPending⟩
  | dispatched _ hCall =>
      rw [List.mem_singleton] at hWaits
      subst hWaits
      rcases hTyped call _ _ _ _ (by rw [hCall]; rfl) with
        ⟨_, _, _, hTarget⟩
      exact absurd hTarget webhookTarget_ne_refundPending
  | nowhere => cases hWaits
  | created _ _ => simp at hWaits
  | processing _ _ => simp at hWaits
  | blocked _ _ => simp at hWaits
  | refundLeft _ _ => simp at hWaits
  | @authorized _ _ _ result =>
      cases hOutcome : result.outcome <;>
        simp [hOutcome, authorizeTargets] at hWaits
  | @captured _ _ _ _ result =>
      cases hOutcome : result.outcome <;>
        simp [hOutcome, captureTargets] at hWaits
  | @looked _ _ result =>
      cases hOutcome : result.outcome <;>
        simp [hOutcome, lookupTargets] at hWaits

/- A pending refund of a step that does not settle it. -/
theorem pending_kept
    (hFlights : RefundsInFlight system)
    (hStep : step config system label = some next)
    {refund : Refund}
    (hStored : refund ∈ system.db.refunds) :
    refund ∈ next.db.refunds ∨
      ∃ request reservation,
        (system.calls label.call).refunding =
            some (request, reservation) ∧
          label.action = .refundFinish ∧
          refund.id = reservation.refund.id := by
  rcases step_effect hStep with ⟨hAdmits, hEffect⟩
  cases hRefunding :
      (system.calls label.call).refunding with
  | none =>
      rcases (hEffect.refundStep hAdmits).of_not_refunding
          hRefunding with
        hSame | ⟨_, _, reservation, hAdded, _⟩
      · rw [hSame]
        exact .inl hStored
      · rw [hAdded]
        exact .inl (List.mem_append_left _ hStored)
  | some pair =>
      rcases pair with ⟨request, reservation⟩
      have hRefunds := step_refunding hFlights hRefunding hStep
      generalize hAction : label.action = action at hRefunds
      cases hRefunds with
      | answer hDb _ =>
          rw [hDb]
          exact .inl hStored
      | raise => exact .inl hStored
      | die => exact .inl hStored
      | finish _ _ hBody =>
          by_cases hId : refund.id = reservation.refund.id
          · exact .inr ⟨request, reservation, rfl, rfl, hId⟩
          · rw [System.commit_db,
              refundFinalize_refunds hBody]
            refine .inl
              (Table.mem_updateWhere_of_not_selected
                hStored ?_)
            simpa using hId

theorem backed_step
    (hHeld : Held system)
    (hFlights : RefundsInFlight system)
    (hTyped : PlansTyped system)
    (hBacked : Backed system.db)
    (hStep : step config system label = some next) :
    Backed next.db := by
  rcases step_effect hStep with ⟨hAdmits, hEffect⟩
  intro row hRow hWaits
  rcases hEffect.landing hAdmits with
    ⟨paymentId, targets, hLanding, hLands⟩
  rcases hLands row hRow with
    ⟨old, hOld, hOldId, hOldStatus⟩ | ⟨rfl, hTarget⟩
  · rw [hWaits] at hOldStatus
    rcases hBacked old hOld hOldStatus with
      ⟨refund, hStored, hPayment, hPending⟩
    rcases pending_kept hFlights hStep hStored with
      hKept | ⟨request, reservation, hRefunding, hAction,
        hId⟩
    · exact ⟨refund, hKept, hPayment.trans hOldId, hPending⟩
    · -- the refund the payment waits for is being settled
      have hFlight :=
        hFlights label.call _ _ hRefunding
      have hMine := Call.reservation_of_refunding hRefunding
      have hSame : refund = reservation.refund :=
        List.inj_on_of_nodup_map hHeld.refundIds hStored
          (hHeld.reserved label.call _ hMine).1 hId
      have hRowId : row.id = request.paymentId := by
        rw [← hOldId, ← hPayment, hSame, hFlight.refund]
      have hRefunds :=
        step_refunding hFlights hRefunding hStep
      rw [hAction] at hRefunds
      cases hRefunds with
      | finish hCall _ hBody =>
          rcases hFlight.lockPayment with
            ⟨stored, locked, hSelect, hLocked, hLockedId, _,
              hCurrent, hIdentityMap⟩
          rw [hLocked] at hBody
          have hOldRow : old = stored :=
            List.inj_on_of_nodup_map hHeld.paymentIds hOld
              (selectPayment_eq_some hSelect).1
              (by rw [hOldId, hRowId,
                (selectPayment_eq_some hSelect).2.1])
          have hStatus : locked.status = .refundPending := by
            cases hRead : config.lockRead with
            | current =>
                rw [hCurrent hRead, ← hOldRow]
                exact hOldStatus
            | identityMap =>
                rw [hIdentityMap hRead]
                exact hFlight.status
          exact refundFinalize_backed hStatus hBody hRow
            (hRowId.trans hLockedId.symm) hWaits
  · rw [hWaits] at hTarget
    exact hLanding.backed hTyped hTarget

end PayGuard

------------------------------------------------------------
-- Every Run
------------------------------------------------------------

namespace PayGuard

/- What holds as long as no call has left its refund. -/
structure Attended (system : System) : Prop where
  held : Held system
  flights : RefundsInFlight system
  typed : PlansTyped system
  owned : Owned system
  backed : Backed system.db

theorem attended_initial : Attended {} :=
  ⟨held_initial, refundsInFlight_initial, plansTyped_initial,
    owned_initial, backed_initial⟩

theorem attended_step
    {config : Config}
    {system next : System}
    {label : Label}
    (hAttended : Attended system)
    (hAlive : label.action ≠ .die)
    (hKeeps : KeepsReservation system label)
    (hStep : step config system label = some next) :
    Attended next := by
  rcases step_effect hStep with ⟨hAdmits, hEffect⟩
  exact
    { held := held_effect hAttended.held hAdmits hEffect
      flights :=
        refundsInFlight_effect hAttended.held
          hAttended.flights hAdmits hEffect
      typed := plansTyped_step hAttended.typed hStep
      owned :=
        owned_step hAttended.flights hAttended.owned hKeeps
          hAlive hStep
      backed :=
        backed_step hAttended.held hAttended.flights
          hAttended.typed hAttended.backed hStep }

/- Without a call in flight nothing attended hangs. -/
theorem Attended.nothingHangs
    {system : System}
    (hAttended : Attended system)
    (hDone :
      ∀ call, (system.calls call).refunding = none) :
    NothingHangs system.db := by
  have hRefunds :
      ∀ refund ∈ system.db.refunds,
        refund.status ≠ .pending := by
    intro refund hStored hPending
    rcases hAttended.owned refund hStored hPending with
      ⟨call, reservation, hHolds, _⟩
    rw [Call.reservation_eq_none (hDone call)] at hHolds
    cases hHolds
  refine ⟨hRefunds, ?_⟩
  intro payment hPayment hWaits
  rcases hAttended.backed payment hPayment hWaits with
    ⟨refund, hStored, _, hPending⟩
  exact hRefunds refund hStored hPending

/-
  Where no process dies and no refund call is in flight,
  nothing hangs exactly if no call raised between its two
  commits.
-/
theorem no_refund_left_hanging
    (config : Config)
    (labels : List Label)
    (system : System)
    (hRun :
      Lts.exec (step config) {} labels = some system)
    (hAlive : ∀ label ∈ labels, label.action ≠ .die)
    (hDone :
      ∀ call, (system.calls call).refunding = none) :
    NothingHangs system.db ↔
      Lts.Meets (step config) KeepsReservation {}
        labels := by
  have hKeep :
      ∀ before label after,
        Attended before →
          label.action ≠ .die →
            KeepsReservation before label →
              step config before label = some after →
                Attended after :=
    fun _ _ _ hAttended hAlive hKeeps hStep =>
      attended_step hAttended hAlive hKeeps hStep
  have hSpoil :
      ∀ before label after,
        Attended before →
          label.action ≠ .die →
            ¬ KeepsReservation before label →
              step config before label = some after →
                Orphaned after :=
    fun _ _ _ hAttended _ hAbandons hStep =>
      orphaned_of_raise hAttended.held hAttended.flights
        hAbandons hStep
  have hStay :
      ∀ before label after,
        Orphaned before →
          label.action ≠ .die →
            step config before label = some after →
              Orphaned after :=
    fun _ _ _ hOrphaned _ hStep =>
      orphaned_step hOrphaned hStep
  rcases Lts.kept_or_spoiled hKeep hSpoil hStay
      attended_initial hAlive hRun with
    ⟨hMeets, hAttended⟩ | ⟨hMisses, hOrphaned⟩
  · exact iff_of_true (hAttended.nothingHangs hDone) hMeets
  · refine iff_of_false ?_ hMisses
    intro hNothing
    rcases hOrphaned with ⟨refund, hStored, hPending, _⟩
    exact hNothing.refunds refund hStored hPending

/- Only the calls of a run can be in flight after it. -/
theorem refunding_eq_none_of_acting
    {config : Config}
    {labels : List Label}
    {system : System}
    (hRun :
      Lts.exec (step config) {} labels = some system)
    (hActing :
      ∀ call ∈ labels.map (·.call),
        (system.calls call).refunding = none) :
    ∀ call, (system.calls call).refunding = none := by
  intro call
  by_cases hCall : call ∈ labels.map (·.call)
  · exact hActing call hCall
  · rw [calls_of_not_acting hRun ?_]
    · rfl
    · rintro label hLabel rfl
      exact hCall (List.mem_map_of_mem hLabel)

theorem no_refund_left_hanging_forty :
    ∃ system,
      Lts.exec (step { sha256 := spellOut }) {}
          refundedRun = some system ∧
        system.db.refunds.length = 2 ∧
        NothingHangs system.db := by
  have hRun :
      (Lts.exec (step { sha256 := spellOut }) {}
        refundedRun).map (fun system =>
          (system.db.refunds.length,
            decide (∀ call ∈ refundedRun.map (·.call),
              (system.calls call).refunding = none))) =
        some (2, true) := by
    decide +kernel
  rcases Option.map_eq_some_iff.mp hRun with
    ⟨system, hExec, hDone⟩
  rw [Prod.mk.injEq, decide_eq_true_eq] at hDone
  exact ⟨system, hExec, hDone.1,
    (no_refund_left_hanging _ _ _ hExec (by decide +kernel)
      (refunding_eq_none_of_acting hExec hDone.2)).mpr
        (by decide +kernel)⟩

/- The provider raises on the refund of a captured payment. -/
def raisingRun : List Label :=
  capturedRun ++
    [⟨2, .refundBegin
        { merchantId := 1
          paymentId := 1
          idempotencyKey := "refund"
          amountMinor := 40 }, .numbered 8⟩,
      ⟨2, .raise .external, .numbered 9⟩,
      ⟨2, .failRead, .numbered 10⟩,
      ⟨2, .failWrite, .numbered 11⟩]

/- The call is over, its refund and its payment hang. -/
theorem raising_refund_hangs :
    ∃ system,
      Lts.exec (step { sha256 := spellOut }) {}
          raisingRun = some system ∧
        (∀ call, (system.calls call).refunding = none) ∧
        system.calls 2 = .done (.raised .external) ∧
        system.db.refunds.map (·.status) = [.pending] ∧
        system.db.payments.map (·.status) =
          [.refundPending] ∧
        ¬ NothingHangs system.db := by
  have hRun :
      (Lts.exec (step { sha256 := spellOut }) {}
        raisingRun).map (fun system =>
          (decide (∀ call ∈ raisingRun.map (·.call),
              (system.calls call).refunding = none),
            system.calls 2,
            system.db.refunds.map (·.status),
            system.db.payments.map (·.status))) =
        some (true, .done (.raised .external), [.pending],
          [.refundPending]) := by
    decide +kernel
  rcases Option.map_eq_some_iff.mp hRun with
    ⟨system, hExec, hEnd⟩
  simp only [Prod.mk.injEq, decide_eq_true_eq] at hEnd
  rcases hEnd with ⟨hDone, hCall, hRefunds, hPayments⟩
  refine ⟨system, hExec,
    refunding_eq_none_of_acting hExec hDone, hCall, hRefunds,
    hPayments, ?_⟩
  intro hNothing
  have hPending :
      RefundStatus.pending ∈
        system.db.refunds.map (·.status) := by
    rw [hRefunds]
    exact List.mem_singleton_self _
  rcases List.mem_map.mp hPending with
    ⟨refund, hStored, hStatus⟩
  exact hNothing.refunds refund hStored hStatus

end PayGuard

import PayGuard.Invariants.Accounts
import PayGuard.Invariants.AuditTrail
import PayGuard.Invariants.RefundBatch
import PayGuard.Invariants.Refundability
import PayGuard.System.Landings

/-
  A closed payment stays closed.

  `FAILED` and `REFUNDED` have no way out.  Nothing was ever
  booked for a payment that failed, and a refunded payment
  has given back its amount to the unit.  Whatever the calls
  do afterwards, neither its row nor its events, refunds or
  ledger entries change again.

  Key definitions include:
    * `PaymentStatus.Terminal`
    * `Database.ledgerOf`
    * `SameFile`
    * `Closing`

  Key theorems include:
    * `Effect.books_or_keeps`
    * `Closing.sameFile`
    * `closed_payments_stay_closed`
-/

------------------------------------------------------------
-- Closed Payments
------------------------------------------------------------

namespace PayGuard

def PaymentStatus.Terminal (status : PaymentStatus) : Prop :=
  status ∈ terminalPaymentStatuses

/- The ledger entries of one payment, in their order. -/
def Database.ledgerOf
    (db : Database)
    (paymentId : Uuid) : List LedgerEntry :=
  db.ledger.filter (fun entry =>
    entry.paymentIntentId = paymentId)

/- Two databases file the same about a payment. -/
structure SameFile
    (payment : PaymentIntent)
    (db db' : Database) : Prop where
  row : payment ∈ db'.payments
  events : db'.eventsOf payment.id = db.eventsOf payment.id
  refunds : db'.refundsOf payment.id = db.refundsOf payment.id
  ledger : db'.ledgerOf payment.id = db.ledgerOf payment.id

/- What was filed when a payment was closed. -/
structure Closed
    (db : Database)
    (payment : PaymentIntent) : Prop where
  failed :
    payment.status = .failed →
      db.ledgerOf payment.id = [] ∧
        db.refundsOf payment.id = []
  refunded :
    payment.status = .refunded →
      refundedAmount db payment.id = payment.amountMinor ∧
        pendingRefunds db payment.id = 0

/- Only what was captured is booked or given back. -/
structure Closing (db : Database) : Prop where
  unsettled :
    ∀ payment ∈ db.payments,
      ¬ payment.status.Settled → db.ledgerOf payment.id = []
  unknown :
    ∀ paymentId,
      paymentId ∉ db.payments.map (·.id) →
        db.ledgerOf paymentId = []
  refunded :
    ∀ payment ∈ db.payments,
      payment.status = .refunded →
        payment.amountMinor ≤
            refundedAmount db payment.id ∧
          pendingRefunds db payment.id = 0

theorem closing_initial : Closing {} where
  unsettled := by simp
  unknown := by simp [Database.ledgerOf]
  refunded := by simp

variable {config : Config}
variable {system next : System}
variable {call : CallId}
variable {draw : Draw}
variable {action : Action}
variable {db db' : Database}
variable {intent payment : PaymentIntent}

namespace SameFile

theorem refl
    (hRow : payment ∈ db.payments) :
    SameFile payment db db :=
  ⟨hRow, rfl, rfl, rfl⟩

theorem trans
    {db'' : Database}
    (hFirst : SameFile payment db db')
    (hSecond : SameFile payment db' db'') :
    SameFile payment db db'' where
  row := hSecond.row
  events := hSecond.events.trans hFirst.events
  refunds := hSecond.refunds.trans hFirst.refunds
  ledger := hSecond.ledger.trans hFirst.ledger

end SameFile

/- The table has no way out of a terminal status. -/
theorem not_terminal_of_isValid
    {fromStatus toStatus : PaymentStatus}
    {actor : Option Actor}
    (hValid :
      isValidPaymentTransition fromStatus toStatus actor =
        true) :
    ¬ fromStatus.Terminal := by
  intro hTerminal
  unfold PaymentStatus.Terminal terminalPaymentStatuses
    at hTerminal
  rw [List.mem_pair] at hTerminal
  rcases hTerminal with rfl | rfl
  · cases hValid
  · cases hValid

theorem ledgerOf_append
    {added : List LedgerEntry}
    (hLedger : db'.ledger = db.ledger ++ added)
    (paymentId : Uuid) :
    db'.ledgerOf paymentId =
      db.ledgerOf paymentId ++
        added.filter (fun entry =>
          entry.paymentIntentId = paymentId) := by
  unfold Database.ledgerOf
  rw [hLedger, List.filter_append]

theorem ledgerOf_congr
    (hLedger : db'.ledger = db.ledger)
    (paymentId : Uuid) :
    db'.ledgerOf paymentId = db.ledgerOf paymentId := by
  unfold Database.ledgerOf
  rw [hLedger]

/- A pair is filed under its own payment. -/
theorem ledgerOf_pair_of_ne
    {debited credited : Account}
    {settled transactionId paymentId : Uuid}
    {amountMinor : Int}
    (hLedger :
      db'.ledger =
        db.ledger ++
          entriesOf (buildPair debited credited settled
            amountMinor transactionId))
    (hOther : settled ≠ paymentId) :
    db'.ledgerOf paymentId = db.ledgerOf paymentId := by
  rw [ledgerOf_append hLedger]
  simp [entriesOf, buildPair, hOther]

/- What has a debit has an entry. -/
theorem Database.Funds.ledgerOf_ne_nil
    {paymentId : Uuid}
    {amountMinor : Int}
    (hFunds : db.Funds paymentId amountMinor) :
    db.ledgerOf paymentId ≠ [] := by
  rcases hFunds with ⟨entry, hEntry, hPayment, _⟩
  apply List.ne_nil_of_mem
  exact List.mem_filter.mpr
    ⟨hEntry, decide_eq_true hPayment⟩

/- Without entries there are no refunds. -/
theorem Funded.refundsOf_eq_nil
    {paymentId : Uuid}
    (hFunded : Funded system)
    (hNone : system.db.ledgerOf paymentId = []) :
    system.db.refundsOf paymentId = [] := by
  rw [List.eq_nil_iff_forall_not_mem]
  intro refund hRefund
  rcases mem_refundsOf.mp hRefund with ⟨hStored, rfl⟩
  rcases hFunded.refunds refund hStored with
    ⟨row, _, hId, hFunds⟩
  rw [hId] at hFunds
  exact hFunds.ledgerOf_ne_nil hNone

end PayGuard

------------------------------------------------------------
-- Who Books
------------------------------------------------------------

namespace PayGuard

variable {config : Config}
variable {system next : System}
variable {call : CallId}
variable {draw : Draw}
variable {action : Action}
variable {db : Database}
variable {intent payment : PaymentIntent}

/- A step that settles a payment moves it to `SUCCEEDED`. -/
theorem PayStep.settles_or_keeps
    (hStep : PayStep config system call db)
    (hFunded : Funded system)
    (paymentId : Uuid) :
    db.settlementOf paymentId =
        system.db.settlementOf paymentId ∨
      ∃ row ∈ db.payments,
        row.id = paymentId ∧ row.status = .succeeded := by
  cases hStep with
  | same hSame => exact .inl (hSame.settlement paymentId)
  | create _ _ _ hSettlement =>
      exact .inl (hSettlement paymentId)
  | pays intent hObject _ hPays =>
      cases hPays with
      | stay hSame => exact .inl (hSame.settlement paymentId)
      | move _ _ _ hSettlement =>
          exact .inl (hSettlement paymentId)
      | settle draw hSource hPayments hSettlement =>
          by_cases hId : intent.id = paymentId
          · right
            rcases hFunded.object_onFile hObject with
              ⟨row, hRow, hRowId, _⟩
            rw [hPayments]
            refine ⟨_, Table.mem_updateWhere.mpr
              ⟨row, hRow, rfl⟩, ?_⟩
            simp [hRowId, hId, flushPayment,
              PaymentIntent.moveTo, Ne.symm hSource]
          · left
            rw [hSettlement,
              recordPaymentSettled_settlementOf, if_neg hId,
              List.append_nil]

/-
  An entry is booked for a payment that has just come to
  `SUCCEEDED`, or that had a refund at the provider.
-/
theorem Effect.books_or_keeps
    (hSolvent : Solvent system)
    (hAdmits : system.db.Admits draw)
    (hEffect :
      Effect config system call draw action next)
    (paymentId : Uuid) :
    next.db.ledgerOf paymentId =
        system.db.ledgerOf paymentId ∨
      (∃ row ∈ next.db.payments,
        row.id = paymentId ∧ row.status = .succeeded) ∨
      ∃ refund ∈ system.db.refunds,
        refund.paymentIntentId = paymentId ∧
          refund.status = .pending := by
  have hHeld := hSolvent.balance.1
  have hPay := hEffect.payStep hHeld.captures hAdmits
  cases hEffect.ledgerStep with
  | books hBooks _ =>
      cases hBooks with
      | nothing hLedger =>
          exact .inl (ledgerOf_congr hLedger paymentId)
      | settlement settled amountMinor hLedger =>
          by_cases hId : settled = paymentId
          · rcases hPay.settles_or_keeps hSolvent.funded
                paymentId with hSame | hRow
            · -- the pair would show in the settlements
              have hLength := congrArg List.length hSame
              unfold Database.settlementOf at hLength
              rw [hLedger, List.filter_append,
                List.length_append] at hLength
              simp [entriesOf, buildPaymentSettledPair,
                buildPair, LedgerEntry.settles, hId]
                at hLength
            · exact .inr (.inl hRow)
          · exact .inl (ledgerOf_pair_of_ne hLedger hId)
  | refund request key reservation result hCall _ hLedger =>
      split at hLedger
      · by_cases hId : request.paymentId = paymentId
        · have hHolds :=
            hHeld.reserved call reservation
              (by rw [hCall]; rfl)
          have hFlight :=
            hSolvent.flights call request reservation
              (by rw [hCall]; rfl)
          exact .inr (.inr ⟨reservation.refund, hHolds.1,
            hFlight.refund.trans hId, hHolds.2⟩)
        · exact .inl (ledgerOf_pair_of_ne hLedger hId)
      · exact .inl (ledgerOf_congr hLedger paymentId)

end PayGuard

------------------------------------------------------------
-- Rows And Events
------------------------------------------------------------

namespace PayGuard

variable {config : Config}
variable {system next : System}
variable {call : CallId}
variable {draw : Draw}
variable {action : Action}
variable {db : Database}
variable {intent payment : PaymentIntent}

/- A lock that reads the row moves no closed payment. -/
theorem TrailStep.terminal
    (hTrail : TrailStep config system call db)
    (hCurrent : config.lockRead = .current)
    (hIds : (system.db.payments.map (·.id)).Nodup)
    (hPayment : payment ∈ system.db.payments)
    (hTerminal : payment.status.Terminal) :
    payment ∈ db.payments ∧
      db.eventsOf payment.id =
        system.db.eventsOf payment.id := by
  cases hTrail with
  | same hSame =>
      rw [hSame.payments]
      refine ⟨hPayment, ?_⟩
      unfold Database.eventsOf
      rw [hSame.events]
  | create intent drawn hFresh _ _ _ hPayments hEvents _ =>
      have hOther : intent.id ≠ payment.id := by
        intro hSame
        exact hFresh (hSame ▸ List.mem_map_of_mem hPayment)
      rw [hPayments]
      refine ⟨List.mem_append_left _ hPayment, ?_⟩
      unfold Database.eventsOf
      rw [hEvents, List.filter_append]
      simp [hOther]
  | move intent _ hRow hMove =>
      cases hMove with
      | stay hSame =>
          rw [hSame.payments]
          refine ⟨hPayment, ?_⟩
          unfold Database.eventsOf
          rw [hSame.events]
      | move toStatus actor eventType drawn hValid hSame =>
          have hOther : intent.id ≠ payment.id := by
            intro hId
            have hSameRow : intent = payment :=
              List.inj_on_of_nodup_map hIds (hRow hCurrent)
                hPayment hId
            rw [hSameRow] at hValid
            exact not_terminal_of_isValid hValid hTerminal
          constructor
          · rw [hSame.payments]
            exact Table.mem_updateWhere_of_not_selected
              hPayment (by simpa using Ne.symm hOther)
          · unfold Database.eventsOf
            rw [hSame.events]
            simp [Database.recordTransition, hOther]

/- An unsettled payment was not settled before. -/
theorem TrailStep.unsettled
    (hTrail : TrailStep config system call db)
    (hCurrent : config.lockRead = .current)
    (hIds : (system.db.payments.map (·.id)).Nodup)
    (hPayment : payment ∈ db.payments)
    (hUnsettled : ¬ payment.status.Settled) :
    payment.id ∉ system.db.payments.map (·.id) ∨
      ∃ old ∈ system.db.payments,
        old.id = payment.id ∧ ¬ old.status.Settled := by
  cases hTrail with
  | same hSame =>
      rw [hSame.payments] at hPayment
      exact .inr ⟨payment, hPayment, rfl, hUnsettled⟩
  | create intent drawn hFresh _ _ _ hPayments _ _ =>
      rw [hPayments, List.mem_append,
        List.mem_singleton] at hPayment
      rcases hPayment with hOld | rfl
      · exact .inr ⟨payment, hOld, rfl, hUnsettled⟩
      · exact .inl hFresh
  | move intent _ hRow hMove =>
      right
      cases hMove with
      | stay hSame =>
          rw [hSame.payments] at hPayment
          exact ⟨payment, hPayment, rfl, hUnsettled⟩
      | move toStatus actor eventType drawn hValid hSame =>
          rw [hSame.payments] at hPayment
          rcases mem_movedPayments hIds (hRow hCurrent)
              (.refl intent) hPayment with
            rfl | ⟨hOld, _⟩
          · rw [(Shows.refl intent).flush_status]
              at hUnsettled
            refine ⟨intent, hRow hCurrent, rfl, ?_⟩
            intro hSettled
            apply hUnsettled
            by_cases hTarget : toStatus = .succeeded
            · simp [hTarget, PaymentStatus.Settled]
            · exact (settled_iff_of_isValid hValid
                (fun h => absurd h hTarget)).mpr hSettled
          · exact ⟨payment, hOld, rfl, hUnsettled⟩

end PayGuard

------------------------------------------------------------
-- Refunds
------------------------------------------------------------

namespace PayGuard

variable {config : Config}
variable {system next : System}
variable {call : CallId}
variable {draw : Draw}
variable {action : Action}
variable {db db' : Database}
variable {intent payment : PaymentIntent}

theorem pendingRefunds_eq_zero_iff
    {paymentId : Uuid} :
    pendingRefunds db paymentId = 0 ↔
      ∀ refund ∈ db.refunds,
        refund.paymentIntentId = paymentId →
          refund.status ≠ .pending := by
  unfold pendingRefunds
  rw [List.countP_eq_zero]
  constructor
  · intro hNone refund hRefund hPayment hPending
    exact hNone refund hRefund
      (decide_eq_true ⟨hPayment, hPending⟩)
  · intro hNone refund hRefund hBoth
    rw [decide_eq_true_eq] at hBoth
    exact hNone refund hRefund hBoth.1 hBoth.2

/- No more is refunded than was reserved. -/
theorem refundedAmount_le_reservedAmount
    (hBalance : RefundBalance system)
    (paymentId : Uuid) :
    refundedAmount system.db paymentId ≤
      reservedAmount system.db paymentId := by
  rw [refundedAmount_eq, reservedAmount_eq]
  refine (settledAmount_le ?_).2
  intro refund hRefund
  exact hBalance.positive refund (mem_refundsOf.mp hRefund).1

/-
  Refunds change where one is pending, and a new one needs
  a payment that has something left.
-/
theorem RefundStep.refundsOf_or
    (hRefund : RefundStep system call action next)
    (hHeld : Held system)
    (paymentId : Uuid) :
    next.db.refundsOf paymentId =
        system.db.refundsOf paymentId ∨
      (∃ refund ∈ system.db.refunds,
        refund.paymentIntentId = paymentId ∧
          refund.status = .pending) ∨
      (∃ refund ∈ next.db.refunds,
        refund.paymentIntentId = paymentId) ∧
        ∃ row ∈ system.db.payments,
          row.id = paymentId ∧
            reservedAmount system.db row.id <
              row.amountMinor := by
  cases hRefund with
  | same hRefunds _ _ =>
      left
      unfold Database.refundsOf
      rw [hRefunds]
  | answer _ _ _ _ _ _ _ hRefunds _ _ =>
      left
      unfold Database.refundsOf
      rw [hRefunds]
  | reserve request key reservation intent _ _ hPositive
      hIntent hPayment hRemaining hRefunds _ _ =>
      by_cases hId : intent.id = paymentId
      · refine .inr (.inr ⟨⟨reservation.refund, ?_,
          hPayment.trans hId⟩, intent, hIntent, hId, ?_⟩)
        · rw [hRefunds]
          exact List.mem_append_right _
            (List.mem_singleton_self _)
        · omega
      · left
        unfold Database.refundsOf
        rw [hRefunds, List.filter_append]
        simp [hPayment, hId]
  | settle request key reservation result _ hCall hRefunds
      _ _ =>
      have hHolds :=
        hHeld.reserved call reservation (by rw [hCall]; rfl)
      by_cases hId :
          reservation.refund.paymentIntentId = paymentId
      · exact .inr (.inl ⟨reservation.refund, hHolds.1, hId,
          hHolds.2⟩)
      · left
        unfold Database.refundsOf
        rw [hRefunds]
        apply Table.filter_updateWhere_of_dropped
        · intro row _
          rfl
        · intro row hRow hSelected
          have hSame : row = reservation.refund :=
            List.inj_on_of_nodup_map hHeld.refundIds hRow
              hHolds.1 (by simpa using hSelected)
          simp [hSame, hId]

/- A payment is refunded once its refunds add up to it. -/
theorem leaveRefundPending_refunded
    {moved row : PaymentIntent}
    (hLeave :
      leaveRefundPending db intent draw =
        .ok (db', moved))
    (hRow : row ∈ db'.payments)
    (hStatus : row.status = .refunded) :
    (∃ old ∈ db.payments,
        old.id = row.id ∧ old.status = .refunded) ∨
      (row.id = intent.id ∧
        intent.amountMinor ≤ refundedAmount db row.id ∧
          pendingRefunds db row.id = 0) := by
  unfold leaveRefundPending at hLeave
  split at hLeave
  · rename_i hPending
    split at hLeave
    · rename_i hAll
      rcases Lands.of_applyTransition hLeave row hRow with
        ⟨old, hOld, hId, hSame⟩ | ⟨hId, _⟩
      · exact .inl ⟨old, hOld, hId, hSame.trans hStatus⟩
      · rw [hId]
        exact .inr ⟨rfl, hAll, hPending.1⟩
    · split at hLeave
      · rcases Lands.of_applyTransition hLeave row hRow with
          ⟨old, hOld, hId, hSame⟩ | ⟨_, hTarget⟩
        · exact .inl ⟨old, hOld, hId, hSame.trans hStatus⟩
        · simp [hStatus] at hTarget
      · rcases Lands.of_applyTransition hLeave row hRow with
          ⟨old, hOld, hId, hSame⟩ | ⟨_, hTarget⟩
        · exact .inl ⟨old, hOld, hId, hSame.trans hStatus⟩
        · simp [hStatus] at hTarget
  · cases hLeave
    exact .inl ⟨row, hRow, rfl, hStatus⟩

/- The amounts only depend on the refunds. -/
theorem refundAmounts_congr
    (hRefunds : db'.refunds = db.refunds)
    (paymentId : Uuid) :
    refundedAmount db' paymentId =
        refundedAmount db paymentId ∧
      pendingRefunds db' paymentId =
        pendingRefunds db paymentId := by
  unfold refundedAmount pendingRefunds
  rw [hRefunds]
  exact ⟨rfl, rfl⟩

theorem refundFinalize_refunded
    {locked : Option PaymentIntent}
    {refund : Refund}
    {keyRowId : Uuid}
    {result : ProviderResult}
    {response : Response}
    {row : PaymentIntent}
    (hBody :
      refundFinalize db locked refund keyRowId result draw =
        .ok (db', response))
    (hRow : row ∈ db'.payments)
    (hStatus : row.status = .refunded) :
    (∃ old ∈ db.payments,
        old.id = row.id ∧ old.status = .refunded) ∨
      ∃ intent,
        locked = some intent ∧
          row.id = intent.id ∧
            intent.amountMinor ≤
                refundedAmount db' row.id ∧
              pendingRefunds db' row.id = 0 := by
  rcases refundFinalize_eq_ok hBody with
    ⟨intent, left, moved, body, hLocked, hLeave, rfl, _⟩
  rcases leaveRefundPending_refunded hLeave hRow hStatus with
    hOld | ⟨hId, hAmount, hPending⟩
  · rw [(settleRefund_sameTrail db intent refund
      result.outcome draw).payments] at hOld
    exact .inl hOld
  · have hSame :=
      refundAmounts_congr
        (Moved.of_leaveRefundPending hLeave).refunds row.id
    rw [← hSame.1] at hAmount
    rw [← hSame.2] at hPending
    exact .inr ⟨intent, hLocked, hId, hAmount, hPending⟩

/- No answer about a payment refunds it. -/
theorem refunded_not_mem_targets
    (outcome : ProviderOutcome) :
    .refunded ∉ authorizeTargets outcome ∧
      .refunded ∉ captureTargets outcome ∧
        .refunded ∉ lookupTargets outcome := by
  cases outcome <;> decide

/- Only the last refund of a payment closes it. -/
theorem Effect.refunded_origin
    {row : PaymentIntent}
    (hCurrent : config.lockRead = .current)
    (hTyped : PlansTyped system)
    (hAdmits : system.db.Admits draw)
    (hEffect :
      Effect config system call draw action next)
    (hRow : row ∈ next.db.payments)
    (hStatus : row.status = .refunded) :
    (∃ old ∈ system.db.payments,
        old.id = row.id ∧ old.status = .refunded) ∨
      ∃ intent ∈ system.db.payments,
        row.id = intent.id ∧
          intent.amountMinor ≤
              refundedAmount next.db row.id ∧
            pendingRefunds next.db row.id = 0 := by
  by_cases hFinish : action = .refundFinish
  · subst hFinish
    cases hEffect with
    | quiet hQuiet _ =>
        rw [hQuiet.db] at hRow
        exact .inl ⟨row, hRow, rfl, hStatus⟩
    | refundFinish _ _ _ hBody =>
        rcases refundFinalize_refunded hBody hRow hStatus with
          hOld | ⟨intent, hLocked, hRest⟩
        · exact .inl hOld
        · rw [hCurrent, lockPayment_current] at hLocked
          exact .inr ⟨intent,
            (selectPayment_eq_some hLocked).1, hRest⟩
  · left
    rcases hEffect.landing hAdmits with
      ⟨paymentId, targets, hLanding, hLands⟩
    rcases hLands row hRow with
      ⟨old, hOld, hId, hSame⟩ | ⟨_, hTarget⟩
    · exact ⟨old, hOld, hId, hSame.trans hStatus⟩
    · rw [hStatus] at hTarget
      cases hLanding with
      | refundLeft hAction _ => exact absurd hAction hFinish
      | dispatched _ hCall =>
          rw [List.mem_singleton] at hTarget
          have hSucceeded :=
            hTyped.succeeded hCall (by
              simp [← hTarget, PaymentStatus.Settled])
          rw [hSucceeded] at hTarget
          cases hTarget
      | authorized _ _ =>
          exact absurd hTarget (refunded_not_mem_targets _).1
      | captured _ _ =>
          exact absurd hTarget
            (refunded_not_mem_targets _).2.1
      | looked _ _ _ _ _ =>
          exact absurd hTarget
            (refunded_not_mem_targets _).2.2
      | _ => simp at hTarget

end PayGuard

------------------------------------------------------------
-- Every Step
------------------------------------------------------------

namespace PayGuard

/- What closed payments rest on. -/
structure Closes (system : System) : Prop where
  solvent : Solvent system
  typed : PlansTyped system
  closing : Closing system.db

theorem closes_initial : Closes {} where
  solvent := solvent_initial
  typed := plansTyped_initial
  closing := closing_initial

variable {config : Config}
variable {system next : System}
variable {call : CallId}
variable {draw : Draw}
variable {action : Action}
variable {label : Label}
variable {payment : PaymentIntent}

theorem terminal_iff
    {status : PaymentStatus} :
    status.Terminal ↔
      status = .failed ∨ status = .refunded := by
  unfold PaymentStatus.Terminal terminalPaymentStatuses
  exact List.mem_pair

/- A failed payment has neither entries nor refunds. -/
theorem Closes.failed
    (hCloses : Closes system)
    (hPayment : payment ∈ system.db.payments)
    (hStatus : payment.status = .failed) :
    system.db.ledgerOf payment.id = [] ∧
      system.db.refundsOf payment.id = [] := by
  have hNone :=
    hCloses.closing.unsettled payment hPayment
      (by simp [hStatus, PaymentStatus.Settled])
  exact ⟨hNone,
    hCloses.solvent.funded.refundsOf_eq_nil hNone⟩

/- A refunded payment has given back all it had. -/
theorem Closes.refunded
    (hCloses : Closes system)
    (hPayment : payment ∈ system.db.payments)
    (hStatus : payment.status = .refunded) :
    refundedAmount system.db payment.id =
        payment.amountMinor ∧
      reservedAmount system.db payment.id =
        payment.amountMinor ∧
      pendingRefunds system.db payment.id = 0 := by
  rcases hCloses.closing.refunded payment hPayment hStatus
    with ⟨hAmount, hPending⟩
  have hBalance := hCloses.solvent.balance.2
  have hBound := hBalance.bounded payment hPayment
  have hReserved :=
    refundedAmount_le_reservedAmount hBalance payment.id
  exact ⟨by omega, by omega, hPending⟩

/- No refund of a closed payment is at the provider. -/
theorem Closes.nothing_pending
    (hCloses : Closes system)
    (hPayment : payment ∈ system.db.payments)
    (hTerminal : payment.status.Terminal)
    {refund : Refund}
    (hRefund : refund ∈ system.db.refunds)
    (hOf : refund.paymentIntentId = payment.id) :
    refund.status ≠ .pending := by
  rcases terminal_iff.mp hTerminal with hStatus | hStatus
  · have hMem :
        refund ∈ system.db.refundsOf payment.id :=
      mem_refundsOf.mpr ⟨hRefund, hOf⟩
    rw [(hCloses.failed hPayment hStatus).2] at hMem
    cases hMem
  · have hPending :=
      (hCloses.refunded hPayment hStatus).2.2
    exact pendingRefunds_eq_zero_iff.mp hPending refund
      hRefund hOf

/- A step leaves the file of a closed payment alone. -/
theorem Closes.sameFile
    (hCloses : Closes system)
    (hNext : Solvent next)
    (hCurrent : config.lockRead = .current)
    (hPayment : payment ∈ system.db.payments)
    (hTerminal : payment.status.Terminal)
    (hStep : step config system label = some next) :
    SameFile payment system.db next.db := by
  rcases step_effect hStep with ⟨hAdmits, hEffect⟩
  have hSolvent := hCloses.solvent
  have hHeld := hSolvent.balance.1
  have hTrail := hEffect.trailStep hHeld.captures hAdmits
  rcases hTrail.terminal hCurrent hHeld.paymentIds hPayment
      hTerminal with ⟨hRow, hEvents⟩
  have hLedger :
      next.db.ledgerOf payment.id =
        system.db.ledgerOf payment.id := by
    rcases hEffect.books_or_keeps hSolvent hAdmits
        payment.id with
      hSame | ⟨row, hMoved, hId, hSucceeded⟩ |
        ⟨refund, hRefund, hOf, hPending⟩
    · exact hSame
    · have hSameRow : row = payment :=
        List.inj_on_of_nodup_map
          hNext.balance.1.paymentIds hMoved hRow hId
      rw [← hSameRow, terminal_iff, hSucceeded] at hTerminal
      simp at hTerminal
    · exact absurd hPending
        (hCloses.nothing_pending hPayment hTerminal hRefund
          hOf)
  refine ⟨hRow, hEvents, ?_, hLedger⟩
  rcases (hEffect.refundStep hAdmits).refundsOf_or hHeld
      payment.id with
    hSame | ⟨refund, hRefund, hOf, hPending⟩ |
      ⟨⟨refund, hRefund, hOf⟩, row, hStored, hId, hLeft⟩
  · exact hSame
  · exact absurd hPending
      (hCloses.nothing_pending hPayment hTerminal hRefund
        hOf)
  · -- a new refund needs a debit, and something left of it
    rcases terminal_iff.mp hTerminal with hStatus | hStatus
    · rw [(hCloses.failed hPayment hStatus).1] at hLedger
      have hEmpty := hNext.funded.refundsOf_eq_nil hLedger
      have hMem :
          refund ∈ next.db.refundsOf payment.id :=
        mem_refundsOf.mpr ⟨hRefund, hOf⟩
      rw [hEmpty] at hMem
      cases hMem
    · have hSameRow : row = payment :=
        List.inj_on_of_nodup_map hHeld.paymentIds hStored
          hPayment hId
      rw [hSameRow,
        (hCloses.refunded hPayment hStatus).2.1] at hLeft
      exact absurd hLeft (lt_irrefl _)

/- Whatever a step leaves unsettled has no entry. -/
theorem Closes.unsettled_next
    (hCloses : Closes system)
    (hNext : Solvent next)
    (hCurrent : config.lockRead = .current)
    (hStep : step config system label = some next)
    (hPayment : payment ∈ next.db.payments)
    (hUnsettled : ¬ payment.status.Settled) :
    next.db.ledgerOf payment.id = [] := by
  rcases step_effect hStep with ⟨hAdmits, hEffect⟩
  have hSolvent := hCloses.solvent
  have hHeld := hSolvent.balance.1
  have hTrail := hEffect.trailStep hHeld.captures hAdmits
  have hBefore : system.db.ledgerOf payment.id = [] := by
    rcases hTrail.unsettled hCurrent hHeld.paymentIds
        hPayment hUnsettled with
      hFresh | ⟨old, hOld, hId, hOpen⟩
    · exact hCloses.closing.unknown payment.id hFresh
    · rw [← hId]
      exact hCloses.closing.unsettled old hOld hOpen
  rcases hEffect.books_or_keeps hSolvent hAdmits
      payment.id with
    hSame | ⟨row, hRow, hId, hSucceeded⟩ |
      ⟨refund, hRefund, hOf, _⟩
  · rw [hSame, hBefore]
  · have hSameRow : row = payment :=
      List.inj_on_of_nodup_map hNext.balance.1.paymentIds
        hRow hPayment hId
    rw [← hSameRow, hSucceeded] at hUnsettled
    simp [PaymentStatus.Settled] at hUnsettled
  · have hEmpty := hSolvent.funded.refundsOf_eq_nil hBefore
    have hMem :
        refund ∈ system.db.refundsOf payment.id :=
      mem_refundsOf.mpr ⟨hRefund, hOf⟩
    rw [hEmpty] at hMem
    cases hMem

/- Nothing is booked for a payment that does not exist. -/
theorem Closes.unknown_next
    (hCloses : Closes system)
    (hStep : step config system label = some next)
    (paymentId : Uuid)
    (hUnknown : paymentId ∉ next.db.payments.map (·.id)) :
    next.db.ledgerOf paymentId = [] := by
  rcases step_effect hStep with ⟨hAdmits, hEffect⟩
  have hSolvent := hCloses.solvent
  have hHeld := hSolvent.balance.1
  have hBefore :
      paymentId ∉ system.db.payments.map (·.id) := by
    intro hStored
    rcases List.mem_map.mp hStored with ⟨row, hRow, rfl⟩
    rcases hEffect.extends.exists_payment hRow with
      ⟨later, hLater, hId, _⟩
    exact hUnknown
      (List.mem_map.mpr ⟨later, hLater, hId⟩)
  rcases hEffect.books_or_keeps hSolvent hAdmits
      paymentId with
    hSame | ⟨row, hRow, hId, _⟩ | ⟨refund, hRefund, hOf, _⟩
  · rw [hSame]
    exact hCloses.closing.unknown paymentId hBefore
  · exact absurd (List.mem_map.mpr ⟨row, hRow, hId⟩)
      hUnknown
  · have hOwner := hHeld.owner refund hRefund
    rw [hOf] at hOwner
    exact absurd hOwner hBefore

/- A refunded payment was, or its last refund came in. -/
theorem Closes.refunded_next
    (hCloses : Closes system)
    (hNext : Solvent next)
    (hCurrent : config.lockRead = .current)
    (hStep : step config system label = some next)
    (hPayment : payment ∈ next.db.payments)
    (hStatus : payment.status = .refunded) :
    payment.amountMinor ≤
        refundedAmount next.db payment.id ∧
      pendingRefunds next.db payment.id = 0 := by
  rcases step_effect hStep with ⟨hAdmits, hEffect⟩
  have hIds := hNext.balance.1.paymentIds
  rcases hEffect.refunded_origin hCurrent hCloses.typed
      hAdmits hPayment hStatus with
    ⟨old, hOld, hId, hBefore⟩ |
      ⟨intent, hIntent, hId, hAmount, hPending⟩
  · have hFile :=
      hCloses.sameFile hNext hCurrent hOld
        (terminal_iff.mpr (.inr hBefore)) hStep
    have hSameRow : old = payment :=
      List.inj_on_of_nodup_map hIds hFile.row hPayment hId
    subst hSameRow
    have hClosed := hCloses.refunded hOld hBefore
    constructor
    · rw [refundedAmount_eq, hFile.refunds,
        ← refundedAmount_eq, hClosed.1]
    · rw [pendingRefunds_eq_zero_iff]
      intro refund hRefund hOf
      have hMem :
          refund ∈ system.db.refundsOf old.id := by
        rw [← hFile.refunds]
        exact mem_refundsOf.mpr ⟨hRefund, hOf⟩
      rcases mem_refundsOf.mp hMem with ⟨hStored, _⟩
      exact pendingRefunds_eq_zero_iff.mp hClosed.2.2 refund
        hStored hOf
  · rcases hEffect.extends.exists_payment hIntent with
      ⟨later, hLater, hLaterId, hLaterAmount⟩
    have hSameRow : later = payment :=
      List.inj_on_of_nodup_map hIds hLater hPayment
        (hLaterId.trans hId.symm)
    rw [← hSameRow, hLaterAmount]
    rw [← hSameRow] at hAmount hPending
    exact ⟨hAmount, hPending⟩

theorem closes_step
    (hCurrent : config.lockRead = .current)
    (hCloses : Closes system)
    (hStep : step config system label = some next) :
    Closes next := by
  have hNext := solvent_step hCloses.solvent hStep
  exact
    { solvent := hNext
      typed := plansTyped_step hCloses.typed hStep
      closing :=
        { unsettled := fun _ hPayment hUnsettled =>
            hCloses.unsettled_next hNext hCurrent hStep
              hPayment hUnsettled
          unknown := hCloses.unknown_next hStep
          refunded := fun _ hPayment hStatus =>
            hCloses.refunded_next hNext hCurrent hStep
              hPayment hStatus } }

end PayGuard

------------------------------------------------------------
-- Every Run
------------------------------------------------------------

namespace PayGuard

/-
  With locks that read the committed row, a payment found in
  a terminal status has nothing booked if it failed and has
  given back exactly its amount if it was refunded; and
  whatever happens later, its row, its events, its refunds
  and its ledger entries are still the ones found.
-/
theorem closed_payments_stay_closed
    (config : Config)
    (hCurrent : config.lockRead = .current)
    (labels more : List Label)
    (system later : System)
    (hRun :
      Lts.exec (step config) {} labels = some system)
    (hMore :
      Lts.exec (step config) system more = some later)
    (payment : PaymentIntent)
    (hPayment : payment ∈ system.db.payments)
    (hTerminal : payment.status.Terminal) :
    Closed system.db payment ∧
      SameFile payment system.db later.db := by
  have hCloses : Closes system :=
    Lts.invariant_of_exec
      (fun _ _ _ hBefore hStep =>
        closes_step hCurrent hBefore hStep)
      closes_initial hRun
  have hKeep :
      ∀ before label after,
        Closes before ∧
            SameFile payment system.db before.db →
          step config before label = some after →
            Closes after ∧
              SameFile payment system.db after.db := by
    rintro before label after ⟨hBefore, hFile⟩ hStep
    have hAfter := closes_step hCurrent hBefore hStep
    exact ⟨hAfter, hFile.trans
      (hBefore.sameFile hAfter.solvent hCurrent hFile.row
        hTerminal hStep)⟩
  have hLater :=
    Lts.invariant_of_exec hKeep
      ⟨hCloses, SameFile.refl hPayment⟩ hMore
  refine ⟨⟨?_, ?_⟩, hLater.2⟩
  · exact hCloses.failed hPayment
  · intro hStatus
    have hRefunded := hCloses.refunded hPayment hStatus
    exact ⟨hRefunded.1, hRefunded.2.2⟩

/- All of payment 1 is given back. -/
def refundsPayment : List Label :=
  capturedRun ++
    [⟨2, .refundBegin
        { merchantId := 1
          paymentId := 1
          idempotencyKey := "refund"
          amountMinor := 100 }, .numbered 8⟩,
      ⟨2, .refundAnswer (.approved "refund") true,
        .numbered 9⟩,
      ⟨2, .refundFinish, .numbered 10⟩]

/- A second refund of the payment is asked for. -/
def asksAgain : List Label :=
  [⟨3, .refundBegin
    { merchantId := 1
      paymentId := 1
      idempotencyKey := "again"
      amountMinor := 1 }, .numbered 11⟩]

theorem closed_payments_stay_closed_refunded :
    ∃ system later payment,
      Lts.exec (step { sha256 := spellOut }) {}
          refundsPayment = some system ∧
        Lts.exec (step { sha256 := spellOut }) system
            asksAgain = some later ∧
        payment ∈ system.db.payments ∧
        payment.status = .refunded ∧
        Closed system.db payment ∧
        SameFile payment system.db later.db := by
  have hRun :
      (Lts.exec (step { sha256 := spellOut }) {}
        refundsPayment).map (fun system =>
          (system.db.payments.map (·.status),
            (Lts.exec (step { sha256 := spellOut }) system
              asksAgain).isSome)) =
        some ([.refunded], true) := by
    decide +kernel
  rcases Option.map_eq_some_iff.mp hRun with
    ⟨system, hExec, hBoth⟩
  rw [Prod.mk.injEq] at hBoth
  rcases Option.isSome_iff_exists.mp hBoth.2 with
    ⟨later, hMore⟩
  have hListed :
      .refunded ∈ system.db.payments.map (·.status) := by
    rw [hBoth.1]
    exact List.mem_singleton_self _
  rcases List.mem_map.mp hListed with
    ⟨payment, hPayment, hStatus⟩
  have hClosed :=
    closed_payments_stay_closed _ rfl _ _ system later hExec
      hMore payment hPayment
      (terminal_iff.mpr (.inr hStatus))
  exact ⟨system, later, payment, hExec, hMore, hPayment,
    hStatus, hClosed⟩

end PayGuard

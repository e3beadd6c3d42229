import PayGuard.Invariants.RefundLedger
import PayGuard.Invariants.Settlement
import PayGuard.Lib.Aggregates
import PayGuard.Payments.Queries
import PayGuard.System.Objects
import PayGuard.Tenancy.Frame

/-
  The volumes of the landing page against the ledger.

  The summary adds up payments that are `SUCCEEDED` and
  refunds that are, the ledger keeps what was booked when
  they settled.  The refunds always agree.  The payments
  agree where none of them has moved on to a refund status,
  which takes its whole amount out of the summary.

  Key definitions include:
    * `settledVolume`
    * `refundedVolume`
    * `VolumesAgree`
    * `NoneRefunding`

  Key theorems include:
    * `Effect.settlesRow`
    * `sumWhere_holdsPayment`
    * `dashboard_agrees_iff`
    * `refunded_payment_leaves_volume`
-/

------------------------------------------------------------
-- Volumes
------------------------------------------------------------

namespace PayGuard

/- What the ledger credits for the merchant's payments. -/
def settledVolume
    (db : Database)
    (merchantId : Uuid) : Int :=
  Table.sumWhere
    (fun entry : LedgerEntry =>
      db.holdsPayment merchantId entry.paymentIntentId &&
        (entry.account = .paymentClearing &&
          entry.direction = .credit))
    (·.amountMinor) db.ledger

/- And what it debits for their refunds. -/
def refundedVolume
    (db : Database)
    (merchantId : Uuid) : Int :=
  Table.sumWhere
    (fun entry : LedgerEntry =>
      db.holdsPayment merchantId entry.paymentIntentId &&
        (entry.account = .refundLiability &&
          entry.direction = .debit))
    (·.amountMinor) db.ledger

/- The summary shows what the ledger has booked. -/
structure VolumesAgree
    (db : Database)
    (merchantId : Uuid) : Prop where
  settled :
    (getDashboardSummary db merchantId).totalSucceededAmount =
      settledVolume db merchantId
  refunded :
    (getDashboardSummary db merchantId).totalRefundedAmount =
      refundedVolume db merchantId

/- Every payment that was captured is still `SUCCEEDED`. -/
def NoneRefunding
    (db : Database)
    (merchantId : Uuid) : Prop :=
  ∀ payment ∈ db.payments,
    payment.merchantId = merchantId →
      payment.status.Settled → payment.status = .succeeded

instance
    (db : Database)
    (merchantId : Uuid) :
    Decidable (NoneRefunding db merchantId) := by
  unfold NoneRefunding
  infer_instance

end PayGuard

------------------------------------------------------------
-- Settling Without Webhooks
------------------------------------------------------------

namespace PayGuard

/- What the summary and the ledger are derived from. -/
structure Booked (system : System) : Prop where
  held : Held system
  onFile : ObjectsOnFile system
  flights : RefundsInFlight system
  once : SettledOnce system.db
  ledger : RefundLedger system.db
  positive :
    ∀ payment ∈ system.db.payments, 0 < payment.amountMinor

variable {config : Config}
variable {system next : System}
variable {label : Label}
variable {db : Database}

theorem booked_initial : Booked {} where
  held := held_initial
  onFile := objectsOnFile_initial
  flights := refundsInFlight_initial
  once := settledOnce_initial
  ledger := refundLedger_initial
  positive := by simp

/- A lock that yields no old status settles no row twice. -/
theorem SettlesLocked.settledOnce
    (hSettles :
      SettlesLocked config system label.call label.action
        db)
    (hHeld : Held system)
    (hFile : ObjectsOnFile system)
    (hStored : LocksStored config system label)
    (hOnce : SettledOnce system.db) : SettledOnce db := by
  cases hSettles with
  | step hStep =>
      exact hStep.settledOnce hHeld.paymentIds hOnce
  | kept intent hRead hRelocks hObject hMove =>
      rcases hFile label.call intent hObject with
        ⟨row, hRow, hId, hAmount⟩
      have hStatus :=
        hStored hRead hRelocks intent hObject row hRow hId
      exact hMove.settledOnce hHeld.paymentIds hRow
        ⟨hId, hStatus, hAmount⟩ hOnce

/- Amounts are positive from the insert on. -/
theorem TrailStep.positive
    {call : CallId}
    (hTrail : TrailStep config system call db)
    (hPositive :
      ∀ payment ∈ system.db.payments,
        0 < payment.amountMinor) :
    ∀ payment ∈ db.payments, 0 < payment.amountMinor := by
  intro payment hPayment
  rcases hTrail.exists_old hPayment with
    ⟨old, hOld, _, hAmount⟩ | ⟨_, hFresh⟩
  · rw [← hAmount]
    exact hPositive old hOld
  · exact hFresh

theorem booked_step
    (hBooked : Booked system)
    (hWebhook : label.action.ofWebhook = false)
    (hStored : LocksStored config system label)
    (hStep : step config system label = some next) :
    Booked next := by
  rcases step_effect hStep with ⟨hAdmits, hEffect⟩
  have hHeld := hBooked.held
  have hDispatch :
      label.action = .dispatchFinish →
        config.lockRead = .current ∧
          NoLateSuccess system label := by
    intro hFinish
    rw [hFinish] at hWebhook
    cases hWebhook
  have hSettles :=
    hEffect.settlesLocked hHeld.captures hAdmits hDispatch
  have hTrail := hEffect.trailStep hHeld.captures hAdmits
  exact
    { held := held_effect hHeld hAdmits hEffect
      onFile :=
        objectsOnFile_effect hHeld hBooked.onFile hAdmits
          hEffect
      flights :=
        refundsInFlight_effect hHeld hBooked.flights hAdmits
          hEffect
      once :=
        hSettles.settledOnce hHeld hBooked.onFile hStored
          hBooked.once
      ledger :=
        refundLedger_step hHeld hBooked.flights
          hBooked.ledger hAdmits hEffect.ledgerStep
      positive := hTrail.positive hBooked.positive }

end PayGuard

------------------------------------------------------------
-- Sums By Payment
------------------------------------------------------------

namespace PayGuard

variable {db : Database}
variable {merchantId : Uuid}

/- A sum over the rows of a merchant is one by payment. -/
theorem sumWhere_holdsPayment
    {R : Type}
    (hIds : (db.payments.map (·.id)).Nodup)
    (merchantId : Uuid)
    (owner : R → Uuid)
    (selected : R → Bool)
    (amount : R → Int)
    (rows : List R) :
    Table.sumWhere
        (fun row =>
          db.holdsPayment merchantId (owner row) &&
            selected row)
        amount rows =
      ((db.payments.filter (fun payment =>
          payment.merchantId = merchantId)).map
        (fun payment =>
          Table.sumWhere
            (fun row =>
              owner row = payment.id && selected row)
            amount rows)).sum := by
  have hHolds :
      ∀ payment ∈ db.payments.filter (fun payment =>
          payment.merchantId = merchantId),
        db.holdsPayment merchantId payment.id = true := by
    intro payment hPayment
    rw [List.mem_filter, decide_eq_true_eq] at hPayment
    rw [Database.holdsPayment, List.any_eq_true]
    exact ⟨payment, hPayment.1, by simp [hPayment.2]⟩
  have hNodup :
      ((db.payments.filter (fun payment =>
        payment.merchantId = merchantId)).map
          (·.id)).Nodup :=
    hIds.sublist (List.filter_sublist.map _)
  have hKeys :
      ∀ row ∈ rows.filter (fun row =>
          db.holdsPayment merchantId (owner row) &&
            selected row),
        owner row ∈
          (db.payments.filter (fun payment =>
            payment.merchantId = merchantId)).map
              (·.id) := by
    intro row hRow
    rw [List.mem_filter, Bool.and_eq_true] at hRow
    have hOwner := hRow.2.1
    rw [Database.holdsPayment, List.any_eq_true] at hOwner
    rcases hOwner with ⟨payment, hPayment, hBoth⟩
    simp only [decide_eq_true_eq] at hBoth
    exact List.mem_map.mpr ⟨payment, List.mem_filter.mpr
      ⟨hPayment, by simp [hBoth.2]⟩, hBoth.1⟩
  unfold Table.sumWhere
  rw [← Table.sum_by_key hNodup hKeys, List.map_map]
  congr 1
  apply List.map_congr_left
  intro payment hPayment
  rw [Function.comp_apply, List.filter_filter]
  congr 2
  apply List.filter_congr
  intro row _
  by_cases hOwner : owner row = payment.id
  · rw [hOwner, hHolds payment hPayment, Bool.true_and]
  · simp [hOwner]

/- The credits of one payment are its settled amount. -/
theorem credits_of_exactlyOnce
    {payment : PaymentIntent}
    (hOnce : ExactlyOnce db payment) :
    Table.sumWhere
        (fun entry : LedgerEntry =>
          entry.paymentIntentId = payment.id &&
            (entry.account = .paymentClearing &&
              entry.direction = .credit))
        (·.amountMinor) db.ledger =
      if payment.status.Settled then
        payment.amountMinor
      else
        0 := by
  -- a clearing credit is one of the two settling entries
  have hSplit :
      db.ledger.filter (fun entry =>
          entry.paymentIntentId = payment.id &&
            (entry.account = .paymentClearing &&
              entry.direction = .credit)) =
        (db.settlementOf payment.id).filter (fun entry =>
          entry.account = .paymentClearing &&
            entry.direction = .credit) := by
    unfold Database.settlementOf
    rw [List.filter_filter]
    apply List.filter_congr
    intro entry _
    simp only [LedgerEntry.settles]
    grind
  unfold Table.sumWhere
  rw [hSplit]
  rcases hOnce with
    ⟨hSettled, ledgerTransactionId, hPair⟩ |
      ⟨hOpen, hNone⟩
  · rw [hPair, if_pos hSettled]
    simp
  · rw [hNone, if_neg hOpen]
    rfl

/- The debits of one payment are its settled refunds. -/
theorem debits_of_mirrors
    (hLedger : RefundLedger db)
    (paymentId : Uuid) :
    Table.sumWhere
        (fun entry : LedgerEntry =>
          entry.paymentIntentId = paymentId &&
            (entry.account = .refundLiability &&
              entry.direction = .debit))
        (·.amountMinor) db.ledger =
      Table.sumWhere
        (fun refund : Refund =>
          refund.paymentIntentId = paymentId &&
            refund.status = .succeeded)
        (·.amountMinor) db.refunds :=
  (hLedger.mirrors paymentId).sum_eq

end PayGuard

------------------------------------------------------------
-- Agreement
------------------------------------------------------------

namespace PayGuard

variable {db : Database}
variable {config : Config}
variable {system : System}

/- The summary counts the payments that are `SUCCEEDED`. -/
theorem totalSucceededAmount_eq
    (db : Database)
    (merchantId : Uuid) :
    (getDashboardSummary db
        merchantId).totalSucceededAmount =
      ((db.payments.filter (fun payment =>
          payment.merchantId = merchantId)).map
        (fun payment =>
          if payment.status = .succeeded then
            payment.amountMinor
          else
            0)).sum := by
  have hSum :
      ((db.payments.filter (fun payment =>
          payment.merchantId = merchantId)).map
        (fun payment =>
          if payment.status = .succeeded then
            payment.amountMinor
          else
            0)).sum =
      (((db.payments.filter (fun payment =>
          payment.merchantId = merchantId)).filter
        (fun payment =>
          payment.status = .succeeded)).map
            (·.amountMinor)).sum := by
    simpa only [decide_eq_true_eq] using
      Table.sum_map_ite (fun payment : PaymentIntent =>
        decide (payment.status = .succeeded))
  rw [hSum, List.filter_filter]
  simp only [getDashboardSummary, Table.sumWhere,
    Bool.and_comm]

/- The ledger counts those that have been captured. -/
theorem settledVolume_eq
    (hBooked : Booked system)
    (merchantId : Uuid) :
    settledVolume system.db merchantId =
      ((system.db.payments.filter (fun payment =>
          payment.merchantId = merchantId)).map
        (fun payment =>
          if payment.status.Settled then
            payment.amountMinor
          else
            0)).sum := by
  unfold settledVolume
  rw [sumWhere_holdsPayment hBooked.held.paymentIds]
  congr 1
  apply List.map_congr_left
  intro payment hPayment
  exact credits_of_exactlyOnce
    (hBooked.once.once payment
      (List.mem_of_mem_filter hPayment))

theorem refundedVolume_eq
    (hBooked : Booked system)
    (merchantId : Uuid) :
    (getDashboardSummary system.db
        merchantId).totalRefundedAmount =
      refundedVolume system.db merchantId := by
  unfold refundedVolume getDashboardSummary
  simp only
  rw [sumWhere_holdsPayment hBooked.held.paymentIds,
    sumWhere_holdsPayment hBooked.held.paymentIds]
  congr 1
  apply List.map_congr_left
  intro payment _
  exact (debits_of_mirrors hBooked.ledger payment.id).symm

/- A captured payment counts on one side or on both. -/
theorem succeeded_eq_settled_iff
    {payment : PaymentIntent}
    (hPositive : 0 < payment.amountMinor) :
    (if payment.status = .succeeded then
          payment.amountMinor
        else
          0) =
        (if payment.status.Settled then
          payment.amountMinor
        else
          0) ↔
      (payment.status.Settled →
        payment.status = .succeeded) := by
  by_cases hSucceeded : payment.status = .succeeded
  · simp [hSucceeded, PaymentStatus.Settled]
  · rw [if_neg hSucceeded]
    by_cases hSettled : payment.status.Settled
    · rw [if_pos hSettled]
      constructor
      · intro hZero
        omega
      · intro hImp
        exact absurd (hImp hSettled) hSucceeded
    · simp [hSettled]

theorem volumesAgree_iff
    (hBooked : Booked system)
    (merchantId : Uuid) :
    VolumesAgree system.db merchantId ↔
      NoneRefunding system.db merchantId := by
  have hLe :
      ∀ payment ∈ system.db.payments.filter (fun payment =>
          payment.merchantId = merchantId),
        (if payment.status = .succeeded then
            payment.amountMinor
          else
            0) ≤
          (if payment.status.Settled then
            payment.amountMinor
          else
            0) := by
    intro payment hPayment
    have hPositive :=
      hBooked.positive payment
        (List.mem_of_mem_filter hPayment)
    by_cases hSucceeded : payment.status = .succeeded
    · simp [hSucceeded, PaymentStatus.Settled]
    · rw [if_neg hSucceeded]
      split
      · omega
      · omega
  have hSettled :
      (getDashboardSummary system.db
            merchantId).totalSucceededAmount =
          settledVolume system.db merchantId ↔
        NoneRefunding system.db merchantId := by
    rw [totalSucceededAmount_eq, settledVolume_eq hBooked,
      Table.sum_eq_iff_of_le hLe]
    constructor
    · intro hSame payment hPayment hMerchant
      have hRow :=
        hSame payment (List.mem_filter.mpr
          ⟨hPayment, by simp [hMerchant]⟩)
      exact (succeeded_eq_settled_iff
        (hBooked.positive payment hPayment)).mp hRow
    · intro hNone payment hPayment
      rw [List.mem_filter, decide_eq_true_eq] at hPayment
      exact (succeeded_eq_settled_iff
        (hBooked.positive payment hPayment.1)).mpr
          (hNone payment hPayment.1 hPayment.2)
  constructor
  · intro hAgree
    exact hSettled.mp hAgree.settled
  · intro hNone
    exact ⟨hSettled.mpr hNone,
      refundedVolume_eq hBooked merchantId⟩

end PayGuard

------------------------------------------------------------
-- Every Run
------------------------------------------------------------

namespace PayGuard

variable {config : Config}
variable {labels : List Label}
variable {system : System}

theorem booked_of_exec
    (hRun :
      Lts.exec (step config) {} labels = some system)
    (hWebhooks :
      ∀ label ∈ labels, label.action.ofWebhook = false)
    (hStored :
      Lts.Meets (step config) (LocksStored config) {}
        labels) :
    Booked system := by
  have hNoWebhook :
      Lts.Meets (step config)
        (fun _ label => label.action.ofWebhook = false) {}
        labels :=
    Lts.meets_of_forall
      (fun label hLabel _ => hWebhooks label hLabel)
  have hKeep :
      ∀ before label after,
        Booked before →
          (label.action.ofWebhook = false ∧
              LocksStored config before label) →
            step config before label = some after →
              Booked after :=
    fun before label after hBooked hHere hStep =>
      booked_step hBooked hHere.1 hHere.2 hStep
  exact Lts.invariant_of_meets hKeep booked_initial
    (hNoWebhook.and hStored) hRun

/-
  In every state reached without webhooks and by locks that
  yield no old status, the summary of a merchant agrees with
  the ledger if and only if none of its captured payments
  has moved on to a refund status.
-/
theorem dashboard_agrees_iff
    (config : Config)
    (labels : List Label)
    (system : System)
    (hRun :
      Lts.exec (step config) {} labels = some system)
    (hWebhooks :
      ∀ label ∈ labels, label.action.ofWebhook = false)
    (hStored :
      Lts.Meets (step config) (LocksStored config) {} labels)
    (merchantId : Uuid) :
    VolumesAgree system.db merchantId ↔
      NoneRefunding system.db merchantId :=
  volumesAgree_iff (booked_of_exec hRun hWebhooks hStored)
    merchantId

/- Of the locks nothing is asked where nothing overlaps. -/
theorem dashboard_agrees_in_sequence
    (hRun :
      Lts.exec (step config) {} labels = some system)
    (hWebhooks :
      ∀ label ∈ labels, label.action.ofWebhook = false)
    (hSequence :
      Lts.Meets (step config) OneAtATime {} labels)
    (merchantId : Uuid) :
    VolumesAgree system.db merchantId ↔
      NoneRefunding system.db merchantId :=
  volumesAgree_iff
    (booked_of_exec hRun hWebhooks
      (locksStored_of_oneAtATime hSequence))
    merchantId

/- The captured payment is in both volumes. -/
theorem dashboard_agrees_captured :
    ∃ system,
      Lts.exec
          (step
            { sha256 := spellOut
              lockRead := .identityMap })
          {} capturedRun = some system ∧
        settledVolume system.db 1 = 100 ∧
        VolumesAgree system.db 1 := by
  have hRun :
      (Lts.exec
        (step
          { sha256 := spellOut
            lockRead := .identityMap })
        {} capturedRun).map (fun system =>
          decide (settledVolume system.db 1 = 100 ∧
            NoneRefunding system.db 1)) = some true := by
    decide +kernel
  rcases Option.map_eq_some_iff.mp hRun with
    ⟨system, hExec, hHolds⟩
  rcases of_decide_eq_true hHolds with ⟨hVolume, hNone⟩
  exact ⟨system, hExec, hVolume,
    (dashboard_agrees_iff _ _ _ hExec (by decide)
      (by decide +kernel) 1).mpr hNone⟩

/- Payment 1 of merchant 1 is captured and refunded whole. -/
def wholeRefundRun : List Label :=
  capturedRun ++
    [⟨2, .refundBegin
        { merchantId := 1
          paymentId := 1
          idempotencyKey := "refund"
          amountMinor := 100 }, .numbered 8⟩,
      ⟨2, .refundAnswer (.approved "txn") true, .numbered 9⟩,
      ⟨2, .refundFinish, .numbered 10⟩]

/- The refund takes the payment out of the settled volume. -/
theorem refunded_payment_leaves_volume :
    (∀ label ∈ wholeRefundRun,
        label.action.ofWebhook = false) ∧
      ∃ system,
        Lts.exec (step { sha256 := spellOut }) {}
            wholeRefundRun = some system ∧
          (getDashboardSummary system.db
            1).totalSucceededAmount = 0 ∧
          settledVolume system.db 1 = 100 ∧
          ¬ VolumesAgree system.db 1 := by
  have hRun :
      (Lts.exec (step { sha256 := spellOut }) {}
        wholeRefundRun).map (fun system =>
          ((getDashboardSummary system.db
              1).totalSucceededAmount,
            settledVolume system.db 1)) =
        some (0, 100) := by
    decide +kernel
  rcases Option.map_eq_some_iff.mp hRun with
    ⟨system, hExec, hVolumes⟩
  rw [Prod.mk.injEq] at hVolumes
  refine ⟨by decide, system, hExec, hVolumes.1, hVolumes.2,
    ?_⟩
  intro hAgree
  have hSettled := hAgree.settled
  rw [hVolumes.1, hVolumes.2] at hSettled
  cases hSettled

end PayGuard

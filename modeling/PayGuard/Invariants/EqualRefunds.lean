import Mathlib.Data.Fintype.EquivFin
import PayGuard.Invariants.OneEffect
import PayGuard.Invariants.RefundBatch
import PayGuard.Invariants.Refundability
import PayGuard.Lib.Aggregates
import PayGuard.System.KeyRows

/-
  Concurrent refunds of one amount.

  Every call reserves its amount under the payment lock, or
  finds too little left.  As no answer releases a
  reservation, the refunds of the payment only grow, so
  what turns one call away would turn away any other: the
  calls fill the balance, in whatever order they come.

  Key definitions include:
    * `EqualRefunds`
    * `EqualRefunds.Starts`
    * `EqualRefunds.Rejects`
    * `EqualRefunds.Holds`

  Key theorems include:
    * `EqualRefunds.Holds.step`
    * `equal_refunds_fill_balance`
-/

------------------------------------------------------------
-- Equal Refunds
------------------------------------------------------------

namespace PayGuard

/- Calls that refund one amount, under keys of their own. -/
structure EqualRefunds where
  payment : PaymentIntent
  amountMinor : Int
  callers : List CallId
  keyOf : CallId → String

/- The refund a call holds, or the one it has answered with. -/
def Call.refundRow : Call → Option Refund
| .refundReserved _ _ reservation => some reservation.refund
| .refundAnswered _ _ reservation _ =>
    some reservation.refund
| .done (.response _
      (some (.refund id paymentId amount status createdAt))) =>
    some
      { id := id
        paymentIntentId := paymentId
        amountMinor := amount
        status := status
        createdAt := createdAt }
| _ => none

namespace EqualRefunds

/- What a call does where the provider always succeeds. -/
def Issues
    (refunds : EqualRefunds)
    (call : CallId) : Action → Prop
| .refundBegin request =>
    request.merchantId = refunds.payment.merchantId ∧
      request.paymentId = refunds.payment.id ∧
      request.idempotencyKey = refunds.keyOf call ∧
      request.amountMinor = refunds.amountMinor
| .refundAnswer result _ => result.outcome = .succeeded
| .refundFinish => True
| .failRead => True
| .failWrite => True
| _ => False

/- No key row of the merchant carries the key of a call. -/
def Keyless
    (refunds : EqualRefunds)
    (db : Database)
    (call : CallId) : Prop :=
  ∀ row ∈ db.keys,
    row.merchantId = refunds.payment.merchantId →
      row.idempotencyKey ≠ refunds.keyOf call

/- A settled payment, before the first of the calls. -/
structure Starts
    (refunds : EqualRefunds)
    (start : System) : Prop where
  batch : BatchStart refunds.payment start
  fits : fitsBigInteger refunds.payment.amountMinor = true
  positive : 0 < refunds.amountMinor
  callers : refunds.callers.Nodup
  idle : ∀ call ∈ refunds.callers, start.calls call = .idle
  keys :
    ∀ call ∈ refunds.callers,
      ∀ other ∈ refunds.callers,
        refunds.keyOf call = refunds.keyOf other →
          call = other
  unused :
    ∀ call ∈ refunds.callers, refunds.Keyless start.db call
  paymentLock : ∀ payment, start.paymentLock payment = none
  keyLock : ∀ key, start.keyLock key = none

/- The calls of a schedule and what they do. -/
def Schedules
    (refunds : EqualRefunds)
    (labels : List Label) : Prop :=
  ∀ label ∈ labels,
    label.call ∈ refunds.callers ∧
      refunds.Issues label.call label.action

/- How many of the calls the balance can take. -/
def fitting (refunds : EqualRefunds) : Nat :=
  min refunds.callers.length
    (refunds.payment.amountMinor /
      refunds.amountMinor).toNat

/- A call answers 201, with a refund that went through. -/
def succeeds
    (refunds : EqualRefunds) : Call → Bool
| .done (.response (some 201)
      (some (.refund _ paymentId amount .succeeded _))) =>
    paymentId = refunds.payment.id &&
      amount = refunds.amountMinor
| _ => false

/- Too little is left for another refund. -/
def exceedsRemaining
    (refunds : EqualRefunds)
    (remaining : Int) : Failure :=
  .payGuardError .refundExceedsPayment
    ("Refund amount " ++ toString refunds.amountMinor ++
      " exceeds the remaining refundable balance " ++
      toString remaining ++ ".")

/- The payment has been refunded in full. -/
def alreadyRefunded : Failure :=
  .payGuardError .invalidStateTransition
    ("Cannot refund a payment in status " ++
      PaymentStatus.refunded.value ++ ".")

/-
  What a database says about a call it has turned away.
  Nothing the other calls do can make room for it again.
-/
structure Rejects
    (refunds : EqualRefunds)
    (db : Database)
    (failure : Failure) : Prop where
  full :
    refunds.payment.amountMinor <
      refunds.amountMinor *
        ((db.refundsOf refunds.payment.id).length + 1)
  reason :
    (∃ remaining,
        remaining < refunds.amountMinor ∧
          failure = refunds.exceedsRemaining remaining) ∨
      failure = alreadyRefunded ∧
        refunds.payment.amountMinor ≤
          refunds.amountMinor *
            (db.refundsOf refunds.payment.id).length

/- Where a call of a batch may stand. -/
inductive At
    (refunds : EqualRefunds)
    (db : Database) : Call → Prop
| idle : At refunds db .idle
| reserved
    {request : RefundRequest}
    {key : ClaimedKey}
    {reservation : Reservation}
    (hPayment : request.paymentId = refunds.payment.id) :
    At refunds db (.refundReserved request key reservation)
| answered
    {request : RefundRequest}
    {key : ClaimedKey}
    {reservation : Reservation}
    {result : ProviderResult}
    (hPayment : request.paymentId = refunds.payment.id)
    (hResult : result.outcome = .succeeded) :
    At refunds db
      (.refundAnswered request key reservation result)
| refunded
    {refund : Refund}
    (hPayment :
      refund.paymentIntentId = refunds.payment.id)
    (hAmount : refund.amountMinor = refunds.amountMinor)
    (hStatus : refund.status = .succeeded) :
    At refunds db
      (.done (.response (some 201)
        (some (serializeRefund refund))))
| failing
    {key : ClaimedKey}
    {failure : Failure}
    (hRejects : refunds.Rejects db failure) :
    At refunds db (.failing key failure)
| failureSeen
    {key : ClaimedKey}
    {failure : Failure}
    (hRejects : refunds.Rejects db failure) :
    At refunds db (.failureSeen key failure)
| rejected
    {failure : Failure}
    (hRejects : refunds.Rejects db failure) :
    At refunds db (.done (.raised failure))

/-
  The refunds of the payment are the ones the calls hold,
  all of one amount, and none of them is given up.
-/
structure Holds
    (refunds : EqualRefunds)
    (start system : System) : Prop where
  batch : Batch refunds.payment start system
  stored :
    ∃ row ∈ system.db.payments,
      row.id = refunds.payment.id ∧
        row.merchantId = refunds.payment.merchantId
  authorized : system.db.Authorized refunds.payment.id
  equal :
    ∀ refund ∈ system.db.refundsOf refunds.payment.id,
      refund.amountMinor = refunds.amountMinor ∧
        refund.status ≠ .failed
  rows :
    (refunds.callers.filterMap (fun call =>
        (system.calls call).refundRow)).Perm
      (system.db.refundsOf refunds.payment.id)
  positions :
    ∀ call ∈ refunds.callers,
      refunds.At system.db (system.calls call)
  keyless :
    ∀ call ∈ refunds.callers,
      (system.calls call).refundRow = none →
        refunds.Keyless system.db call
  paymentLock : ∀ payment, system.paymentLock payment = none
  keyLock : ∀ key, system.keyLock key = none

end EqualRefunds

end PayGuard

------------------------------------------------------------
-- The Balance
------------------------------------------------------------

namespace PayGuard

namespace EqualRefunds

variable {refunds : EqualRefunds}
variable {start system : System}
variable {db db' : Database}
variable {failure : Failure}

/- Every refund of the payment holds its part. -/
theorem Holds.reserved
    (hHolds : refunds.Holds start system) :
    reservedAmount system.db refunds.payment.id =
      refunds.amountMinor *
        (system.db.refundsOf refunds.payment.id).length := by
  rw [reservedAmount_eq]
  apply Table.sumWhere_of_equal
  · intro refund hRefund
    have hKept := (hHolds.equal refund hRefund).2
    cases hStatus : refund.status with
    | pending => rfl
    | succeeded => rfl
    | failed => exact absurd hStatus hKept
  · intro refund hRefund
    exact (hHolds.equal refund hRefund).1

/- Without a pending refund all of them went through. -/
theorem Holds.settled
    (hHolds : refunds.Holds start system)
    (hNone :
      ∀ refund ∈ system.db.refundsOf refunds.payment.id,
        refund.status ≠ .pending) :
    settledAmount
        (system.db.refundsOf refunds.payment.id) =
      refunds.amountMinor *
        (system.db.refundsOf refunds.payment.id).length := by
  apply Table.sumWhere_of_equal
  · intro refund hRefund
    have hKept := (hHolds.equal refund hRefund).2
    have hSettled := hNone refund hRefund
    cases hStatus : refund.status with
    | pending => exact absurd hStatus hSettled
    | succeeded => rfl
    | failed => exact absurd hStatus hKept
  · intro refund hRefund
    exact (hHolds.equal refund hRefund).1

theorem Holds.bounded
    (hHolds : refunds.Holds start system) :
    refunds.amountMinor *
        (system.db.refundsOf refunds.payment.id).length ≤
      refunds.payment.amountMinor := by
  rw [← hHolds.reserved]
  exact hHolds.batch.bounded

/- The stored payment is refundable, or refunded in full. -/
theorem Holds.status
    (hHolds : refunds.Holds start system)
    (hPositive : 0 < refunds.amountMinor) :
    ∃ row ∈ system.db.payments,
      row.id = refunds.payment.id ∧
        row.amountMinor = refunds.payment.amountMinor ∧
        (row.status = .succeeded ∨
          row.status = .refundPending ∨
          (row.status = .refunded ∧
            refunds.payment.amountMinor =
              refunds.amountMinor *
                (system.db.refundsOf
                  refunds.payment.id).length)) := by
  rcases hHolds.batch.settled with
    ⟨row, hRow, hId, hAmount, hSettles, _⟩
  refine ⟨row, hRow, hId, hAmount, ?_⟩
  by_cases hEmpty :
      system.db.refundsOf refunds.payment.id = []
  · exact .inl (hSettles.untouched hEmpty)
  by_cases hWaits : row.status = .refundPending
  · exact .inr (.inl hWaits)
  -- all of its refunds went through, and there is one
  have hNone :
      ∀ refund ∈ system.db.refundsOf refunds.payment.id,
        refund.status ≠ .pending := by
    intro refund hRefund hPending
    exact hWaits (hSettles.waits.mpr
      ⟨refund, hRefund, hPending⟩)
  have hSum := hHolds.settled hNone
  have hBounded := hHolds.bounded
  have hSome :
      0 < refunds.amountMinor *
        ((system.db.refundsOf
          refunds.payment.id).length : Int) :=
    mul_pos hPositive
      (by exact_mod_cast List.length_pos_iff.mpr hEmpty)
  by_cases hFull :
      settledAmount
          (system.db.refundsOf refunds.payment.id) =
        refunds.payment.amountMinor
  · exact .inr (.inr
      ⟨(hSettles.refunded hEmpty hNone).mpr hFull,
        hFull.symm.trans hSum⟩)
  · refine .inl
      ((hSettles.partially hEmpty hNone).mpr ⟨?_, ?_⟩)
    · omega
    · omega

/- More refunds leave no more room. -/
theorem Rejects.grow
    (hRejects : refunds.Rejects db failure)
    (hPositive : 0 < refunds.amountMinor)
    (hGrown :
      (db.refundsOf refunds.payment.id).length ≤
        (db'.refundsOf refunds.payment.id).length) :
    refunds.Rejects db' failure := by
  have hLe :
      refunds.amountMinor *
          ((db.refundsOf refunds.payment.id).length : Int) ≤
        refunds.amountMinor *
          ((db'.refundsOf
            refunds.payment.id).length : Int) :=
    mul_le_mul_of_nonneg_left (by exact_mod_cast hGrown)
      hPositive.le
  have hFull := hRejects.full
  refine ⟨?_, ?_⟩
  · rw [mul_add] at hFull ⊢
    omega
  · rcases hRejects.reason with
      hExceeds | ⟨hRefunded, hAll⟩
    · exact .inl hExceeds
    · exact .inr ⟨hRefunded, hAll.trans hLe⟩

theorem At.grow
    {call : Call}
    (hAt : refunds.At db call)
    (hPositive : 0 < refunds.amountMinor)
    (hGrown :
      (db.refundsOf refunds.payment.id).length ≤
        (db'.refundsOf refunds.payment.id).length) :
    refunds.At db' call := by
  cases hAt with
  | idle => exact .idle
  | reserved hPayment => exact .reserved hPayment
  | answered hPayment hResult =>
      exact .answered hPayment hResult
  | refunded hPayment hAmount hStatus =>
      exact .refunded hPayment hAmount hStatus
  | failing hRejects =>
      exact .failing (hRejects.grow hPositive hGrown)
  | failureSeen hRejects =>
      exact .failureSeen (hRejects.grow hPositive hGrown)
  | rejected hRejects =>
      exact .rejected (hRejects.grow hPositive hGrown)

end EqualRefunds

end PayGuard

------------------------------------------------------------
-- The Reserving Transaction
------------------------------------------------------------

namespace PayGuard

namespace EqualRefunds

variable {refunds : EqualRefunds}
variable {start system : System}
variable {call : CallId}
variable {request : RefundRequest}
variable {draw : Draw}

/- The lock of a call yields the payment of the batch. -/
theorem Holds.select
    (hHolds : refunds.Holds start system)
    (hIssues : refunds.Issues call (.refundBegin request)) :
    ∃ intent,
      system.db.selectPayment request.paymentId
          request.merchantId = some intent ∧
        intent ∈ system.db.payments ∧
        intent.id = refunds.payment.id := by
  rcases hHolds.stored with ⟨row, hRow, hId, hMerchant⟩
  rcases hIssues with ⟨hOwner, hPayment, _, _⟩
  refine ⟨row, ?_, hRow, hId⟩
  rw [hPayment, hOwner, ← hId, ← hMerchant]
  exact selectPayment_of_mem hHolds.batch.held.paymentIds
    hRow

/- What still fits the balance fits the column. -/
theorem fits_of_le
    {amountMinor bound : Int}
    (hFits : fitsBigInteger bound = true)
    (hPositive : 0 < amountMinor)
    (hLe : amountMinor ≤ bound) :
    fitsBigInteger amountMinor = true := by
  unfold fitsBigInteger at hFits ⊢
  rw [Bool.and_eq_true, decide_eq_true_eq,
    decide_eq_true_eq] at hFits ⊢
  omega

/- A payment that waits or is settled lets a refund in. -/
theorem enterRefundPending_isOk
    (db : Database)
    {intent : PaymentIntent}
    (hStatus :
      intent.status = .succeeded ∨
        intent.status = .refundPending)
    (draw : Draw) :
    ∃ entered moved,
      enterRefundPending db intent draw =
        .ok (entered, moved) := by
  unfold enterRefundPending
  rcases hStatus with hSucceeded | hPending
  · refine ⟨db.recordTransition intent .refundPending .api
      "refund.pending" draw, intent.moveTo .refundPending,
      ?_⟩
    rw [if_neg (by rw [hSucceeded]; decide)]
    refine applyTransition_eq_ok.mpr ⟨?_, rfl, rfl⟩
    rw [hSucceeded]
    decide
  · rw [if_pos hPending]
    exact ⟨db, intent, rfl⟩

/- The reserving transaction rejects or goes through. -/
theorem Holds.reserves_or_rejects
    (hHolds : refunds.Holds start system)
    (hStarts : refunds.Starts start)
    (hIssues : refunds.Issues call (.refundBegin request))
    (keyRow : IdempotencyKey)
    (draw : Draw) :
    (∃ failure,
        refunds.Rejects system.db failure ∧
          refundReserve system.db
            (system.db.selectPayment request.paymentId
              request.merchantId)
            request keyRow draw = .error failure) ∨
      ∃ db reservation,
        refundReserve system.db
          (system.db.selectPayment request.paymentId
            request.merchantId)
          request keyRow draw = .ok (db, reservation) := by
  rcases hHolds.select hIssues with
    ⟨intent, hSelect, hStored, hId⟩
  rcases hHolds.status hStarts.positive with
    ⟨row, hRow, hRowId, hAmount, hStatus⟩
  have hSame : row = intent :=
    List.inj_on_of_nodup_map hHolds.batch.held.paymentIds
      hRow hStored (hRowId.trans hId.symm)
  subst hSame
  have hReserved := hHolds.reserved
  have hPositive := hStarts.positive
  have hNonneg :
      0 ≤ refunds.amountMinor *
        ((system.db.refundsOf
          refunds.payment.id).length : Int) :=
    mul_nonneg hPositive.le (Int.natCast_nonneg _)
  rw [hSelect]
  unfold refundReserve
  simp only [hId, hAmount, hIssues.2.2.2, hReserved]
  rcases or_assoc.mpr hStatus with
    hOpen | ⟨hRefunded, hAll⟩
  · have hSource : row.status.isRefundableSource = true := by
      rcases hOpen with hStatus | hStatus
      · rw [hStatus]
        rfl
      · rw [hStatus]
        rfl
    rw [hSource]
    simp only [Bool.not_true, Bool.false_eq_true, if_false]
    split
    · rename_i hExceeds
      refine .inl ⟨_, ⟨?_, .inl ⟨_, hExceeds, rfl⟩⟩, rfl⟩
      rw [mul_add]
      omega
    · rename_i hRemaining
      have hFits :=
        fits_of_le hStarts.fits hPositive (by omega)
      rcases Option.isSome_iff_exists.mp
          (isSome_latestSuccessful_iff.mpr
            hHolds.authorized)
        with ⟨transaction, hLatest⟩
      simp only [hLatest, insertRefund, hFits, hPositive,
        Bool.not_true, Bool.false_eq_true, not_true,
        if_false]
      split
      · rename_i hError
        rcases enterRefundPending_isOk _ hOpen draw with
          ⟨entered, moved, hOk⟩
        rw [hOk] at hError
        cases hError
      · exact .inr ⟨_, _, rfl⟩
  · refine .inl ⟨alreadyRefunded,
      ⟨?_, .inr ⟨rfl, hAll.le⟩⟩, ?_⟩
    · rw [mul_add]
      omega
    · rw [hRefunded]
      rfl

end EqualRefunds

end PayGuard

------------------------------------------------------------
-- One Step
------------------------------------------------------------

namespace PayGuard

namespace EqualRefunds

variable {config : Config}
variable {refunds : EqualRefunds}
variable {start system next : System}
variable {call : CallId}
variable {action : Action}
variable {request : RefundRequest}
variable {draw : Draw}

/- A key no row carries is found nowhere. -/
theorem Keyless.findKey
    {db : Database}
    (hKeyless : refunds.Keyless db call) :
    db.findKey refunds.payment.merchantId
      (refunds.keyOf call) = none := by
  unfold Database.findKey
  rw [List.find?_eq_none]
  intro row hRow
  simpa using hKeyless row hRow

theorem Keyless.of_names
    {db db' : Database}
    (hKeyless : refunds.Keyless db call)
    (hNames : db'.keyNames = db.keyNames) :
    refunds.Keyless db' call := by
  intro row hRow hMerchant
  have hName : row.name ∈ db.keyNames := by
    rw [← hNames]
    exact List.mem_map_of_mem hRow
  rcases List.mem_map.mp hName with ⟨old, hOld, hSame⟩
  rw [IdempotencyKey.name, IdempotencyKey.name,
    Prod.mk.injEq, Prod.mk.injEq] at hSame
  rw [← hSame.2.2]
  exact hKeyless old hOld (hSame.2.1.trans hMerchant)

theorem Issues.ofRefund
    (hIssues : refunds.Issues call action) :
    action.ofRefund = true := by
  cases action <;> first | rfl | cases hIssues

/- What the step of a caller has to keep by itself. -/
structure Keeps
    (refunds : EqualRefunds)
    (system : System)
    (call : CallId)
    (next : System) : Prop where
  equal :
    ∀ refund ∈ next.db.refundsOf refunds.payment.id,
      refund.amountMinor = refunds.amountMinor ∧
        refund.status ≠ .failed
  rows :
    (refunds.callers.filterMap (fun call =>
        (next.calls call).refundRow)).Perm
      (next.db.refundsOf refunds.payment.id)
  grown :
    (system.db.refundsOf refunds.payment.id).length ≤
      (next.db.refundsOf refunds.payment.id).length
  position : refunds.At next.db (next.calls call)
  keyless :
    ∀ other ∈ refunds.callers,
      (next.calls other).refundRow = none →
        refunds.Keyless next.db other
  paymentLock : next.paymentLock = system.paymentLock
  keyLock : next.keyLock = system.keyLock

theorem Holds.keep
    (hHolds : refunds.Holds start system)
    (hStarts : refunds.Starts start)
    (hIssues : refunds.Issues call action)
    (hStep :
      step config system ⟨call, action, draw⟩ = some next)
    (hKeeps : refunds.Keeps system call next) :
    refunds.Holds start next := by
  rcases step_effect hStep with ⟨hAdmits, hEffect⟩
  have hTrail :=
    hEffect.trailStep hHolds.batch.held.captures hAdmits
  refine
    { batch :=
        batch_step hStarts.batch.amount hIssues.ofRefund
          hHolds.batch hStep
      stored := ?_
      authorized := ?_
      equal := hKeeps.equal
      rows := hKeeps.rows
      positions := ?_
      keyless := hKeeps.keyless
      paymentLock := ?_
      keyLock := ?_ }
  · rcases hHolds.stored with ⟨row, hRow, hId, hMerchant⟩
    rcases hTrail.exists_new hRow with
      ⟨kept, hKept, hKeptId, hKeptMerchant⟩
    exact ⟨kept, hKept, hKeptId.trans hId,
      hKeptMerchant.trans hMerchant⟩
  · rcases hEffect.files with ⟨_, hFiles⟩
    exact hFiles.authorized hHolds.authorized
  · intro other hOther
    by_cases hSame : other = call
    · rw [hSame]
      exact hKeeps.position
    · rw [hEffect.frame.calls other hSame]
      exact (hHolds.positions other hOther).grow
        hStarts.positive hKeeps.grown
  · rw [hKeeps.paymentLock]
    exact hHolds.paymentLock
  · rw [hKeeps.keyLock]
    exact hHolds.keyLock

/- A call moves on while the database keeps its rows. -/
theorem Holds.keeps_of_same
    (hHolds : refunds.Holds start system)
    (hOthers :
      ∀ other,
        other ≠ call → next.calls other = system.calls other)
    (hRow :
      (next.calls call).refundRow =
        (system.calls call).refundRow)
    (hRefunds : next.db.refunds = system.db.refunds)
    (hNames : next.db.keyNames = system.db.keyNames)
    (hAt : refunds.At next.db (next.calls call))
    (hPaymentLock : next.paymentLock = system.paymentLock)
    (hKeyLock : next.keyLock = system.keyLock) :
    refunds.Keeps system call next := by
  have hSame :
      next.db.refundsOf refunds.payment.id =
        system.db.refundsOf refunds.payment.id := by
    unfold Database.refundsOf
    rw [hRefunds]
  have hRows :
      ∀ other,
        (next.calls other).refundRow =
          (system.calls other).refundRow := by
    intro other
    by_cases hOther : other = call
    · rw [hOther]
      exact hRow
    · rw [hOthers other hOther]
  refine
    { equal := ?_
      rows := ?_
      grown := (congrArg List.length hSame).ge
      position := hAt
      keyless := ?_
      paymentLock := hPaymentLock
      keyLock := hKeyLock }
  · rw [hSame]
    exact hHolds.equal
  · rw [hSame]
    simp only [hRows]
    exact hHolds.rows
  · intro other hOther hNone
    rw [hRows] at hNone
    exact (hHolds.keyless other hOther hNone).of_names hNames

/- A new row takes the place of what its call held. -/
theorem perm_rows
    {rows rows' : List Refund}
    (added : Refund)
    (hCallers : refunds.callers.Nodup)
    (hCaller : call ∈ refunds.callers)
    (hOthers :
      ∀ other,
        other ≠ call → next.calls other = system.calls other)
    (hRow : (next.calls call).refundRow = some added)
    (hPerm :
      (refunds.callers.filterMap (fun call =>
        (system.calls call).refundRow)).Perm rows)
    (hRows :
      ∃ before after,
        rows =
            before ++
              ((system.calls call).refundRow.toList ++
                after) ∧
          rows' = before ++ added :: after) :
    (refunds.callers.filterMap (fun call =>
      (next.calls call).refundRow)).Perm rows' := by
  have hSame :
      ∀ other ∈ refunds.callers,
        other ≠ call →
          (next.calls other).refundRow =
            (system.calls other).refundRow := by
    intro other _ hOther
    rw [hOthers other hOther]
  rcases Table.filterMap_split hCallers hCaller hSame with
    ⟨left, right, hBefore, hAfter⟩
  rcases hRows with ⟨before, after, rfl, rfl⟩
  rw [hBefore] at hPerm
  rw [hAfter, hRow]
  cases hHeld : (system.calls call).refundRow with
  | none =>
      rw [hHeld] at hPerm
      exact List.perm_middle.trans
        ((hPerm.cons added).trans List.perm_middle.symm)
  | some held =>
      rw [hHeld] at hPerm
      have hRest := List.perm_middle.symm.trans
        (hPerm.trans List.perm_middle)
      exact List.perm_middle.trans
        ((hRest.cons_inv.cons added).trans
          List.perm_middle.symm)

/- The reserving transaction files its key and its refund. -/
theorem mem_refundReserve_keys
    {db db' : Database}
    {locked : Option PaymentIntent}
    {keyRow row : IdempotencyKey}
    {reservation : Reservation}
    (hBody :
      refundReserve db locked request keyRow draw =
        .ok (db', reservation))
    (hRow : row ∈ db'.keys) :
    row.name = keyRow.name ∨
      ∃ old ∈ db.keys, old.name = row.name := by
  have hName : row.name ∈ (db.putKey keyRow).keyNames := by
    rw [← refundReserve_keyNames hBody]
    exact List.mem_map_of_mem hRow
  rcases List.mem_map.mp hName with ⟨put, hPut, hSame⟩
  rcases mem_putKey.mp hPut with rfl | ⟨hOld, _⟩
  · exact .inl hSame.symm
  · exact .inr ⟨put, hOld, hSame⟩

theorem Holds.reserve_keeps
    {db : Database}
    {keyRow : IdempotencyKey}
    {reservation : Reservation}
    (hHolds : refunds.Holds start system)
    (hStarts : refunds.Starts start)
    (hCaller : call ∈ refunds.callers)
    (hIssues : refunds.Issues call (.refundBegin request))
    (hCall : system.calls call = .idle)
    (hKeyRow : keyRow.idempotencyKey = refunds.keyOf call)
    (hBody :
      refundReserve system.db
        (system.db.selectPayment request.paymentId
          request.merchantId)
        request keyRow draw = .ok (db, reservation)) :
    refunds.Keeps system call
      ((system.commit call db
        (.refundReserved request keyRow.claimedKey
          reservation)).recordOrigin keyRow.claimedKey
            (.refund reservation.refund.id)) := by
  rcases hHolds.select hIssues with
    ⟨intent, hSelect, _, hId⟩
  rcases refundReserve_eq_ok hBody with
    ⟨locked, hLocked, _, _, _, hRefund, _, _⟩
  rw [hSelect] at hLocked
  cases hLocked
  have hOwner :
      reservation.refund.paymentIntentId =
        refunds.payment.id := by
    rw [hRefund]
    exact hId
  have hRefunds :=
    refundsOf_append hOwner (refundReserve_refunds hBody)
  have hOthers :
      ∀ other,
        other ≠ call →
          ((system.commit call db
            (.refundReserved request keyRow.claimedKey
              reservation)).recordOrigin keyRow.claimedKey
                (.refund reservation.refund.id)).calls
              other = system.calls other :=
    fun other hOther => Function.update_of_ne hOther _ _
  refine
    { equal := ?_
      rows := ?_
      grown := ?_
      position := ?_
      keyless := ?_
      paymentLock := rfl
      keyLock := rfl }
  · intro refund hMem
    simp only [System.recordOrigin_db, System.commit_db,
      hRefunds, List.mem_append, List.mem_singleton] at hMem
    rcases hMem with hOld | rfl
    · exact hHolds.equal refund hOld
    · rw [hRefund]
      exact ⟨hIssues.2.2.2, by simp⟩
  · refine perm_rows reservation.refund hStarts.callers
      hCaller hOthers ?_ hHolds.rows ?_
    · simp [Call.refundRow]
    · refine ⟨system.db.refundsOf refunds.payment.id, [],
        ?_, ?_⟩
      · rw [hCall]
        simp [Call.refundRow]
      · exact hRefunds
  · simp [hRefunds]
  · simp only [System.recordOrigin_calls,
      System.commit_calls_self]
    exact .reserved hIssues.2.1
  · intro other hOther hNone
    have hNe : other ≠ call := by
      rintro rfl
      simp [Call.refundRow] at hNone
    rw [hOthers other hNe] at hNone
    intro row hRow hMerchant hKey
    rcases mem_refundReserve_keys hBody hRow with
      hMine | ⟨old, hOld, hSame⟩
    · rw [IdempotencyKey.name, IdempotencyKey.name,
        Prod.mk.injEq, Prod.mk.injEq] at hMine
      apply hNe
      apply hStarts.keys other hOther call hCaller
      rw [← hKey, hMine.2.2, hKeyRow]
    · rw [IdempotencyKey.name, IdempotencyKey.name,
        Prod.mk.injEq, Prod.mk.injEq] at hSame
      exact hHolds.keyless other hOther hNone old hOld
        (hSame.2.1.trans hMerchant) (hSame.2.2.trans hKey)

/- A first step reserves a refund or is turned away. -/
theorem Holds.refundBegin
    (hHolds : refunds.Holds start system)
    (hStarts : refunds.Starts start)
    (hCaller : call ∈ refunds.callers)
    (hCall : system.calls call = .idle)
    (hIssues : refunds.Issues call (.refundBegin request))
    (draw : Draw) :
    ∃ keyRow : IdempotencyKey,
      keyRow.idempotencyKey = refunds.keyOf call ∧
        ((∃ failure,
            refunds.Rejects system.db failure ∧
              callStep config system call draw
                  (.refundBegin request) =
                some (system.become call
                  (.failing keyRow.claimedKey failure))) ∨
          ∃ db reservation,
            refundReserve system.db
                (system.db.selectPayment request.paymentId
                  request.merchantId)
                request keyRow draw =
                  .ok (db, reservation) ∧
              callStep config system call draw
                  (.refundBegin request) =
                some ((system.commit call db
                  (.refundReserved request keyRow.claimedKey
                    reservation)).recordOrigin
                      keyRow.claimedKey
                      (.refund reservation.refund.id))) := by
  have hNone := (hHolds.keyless call hCaller
    (by rw [hCall]; rfl)).findKey
  refine ⟨newKey request.merchantId request.idempotencyKey
    (refundFingerprint config request) draw, hIssues.2.2.1,
    ?_⟩
  simp only [callStep, stepRefundBegin, stepClaim, hCall,
    claimIdempotencyKey]
  rw [hIssues.1, hIssues.2.2.1, hNone, ← hIssues.1]
  simp only [System.keyFree, System.paymentFree,
    hHolds.keyLock, hHolds.paymentLock, decide_true,
    if_true, lockPayment_unloaded]
  rcases hHolds.reserves_or_rejects hStarts hIssues
      (newKey request.merchantId (refunds.keyOf call)
        (refundFingerprint config request) draw) draw with
    ⟨failure, hRejects, hBody⟩ | ⟨db, reservation, hBody⟩
  · rw [hBody]
    exact .inl ⟨failure, hRejects, rfl⟩
  · rw [hBody]
    exact .inr ⟨db, reservation, rfl, rfl⟩

theorem Holds.begin_keeps
    (hHolds : refunds.Holds start system)
    (hStarts : refunds.Starts start)
    (hCaller : call ∈ refunds.callers)
    (hIssues : refunds.Issues call (.refundBegin request))
    (hStep :
      callStep config system call draw
        (.refundBegin request) = some next) :
    refunds.Keeps system call next := by
  cases hCall : system.calls call with
  | idle =>
      rcases hHolds.refundBegin hStarts hCaller hCall hIssues
          draw with
        ⟨keyRow, hKeyRow, ⟨failure, hRejects, hNext⟩ |
          ⟨db, reservation, hBody, hNext⟩⟩
      · rw [hNext] at hStep
        cases hStep
        refine hHolds.keeps_of_same ?_ ?_ rfl rfl ?_ rfl rfl
        · intro other hOther
          exact Function.update_of_ne hOther _ _
        · rw [System.become_calls_self, hCall]
          rfl
        · rw [System.become_calls_self]
          exact .failing hRejects
      · rw [hNext] at hStep
        cases hStep
        exact hHolds.reserve_keeps hStarts hCaller hIssues
          hCall hKeyRow hBody
  | _ =>
      simp [callStep, stepRefundBegin, stepClaim, hCall]
        at hStep

/- An answer changes nothing but the position of its call. -/
theorem Holds.answer_keeps
    {result : ProviderResult}
    {executed : Bool}
    (hHolds : refunds.Holds start system)
    (hCaller : call ∈ refunds.callers)
    (hResult : result.outcome = .succeeded)
    (hStep :
      callStep config system call draw
        (.refundAnswer result executed) = some next) :
    refunds.Keeps system call next := by
  have hAt := hHolds.positions call hCaller
  simp only [callStep, stepRefundAnswer] at hStep
  cases hCall : system.calls call with
  | refundReserved request key reservation =>
      rw [hCall] at hAt hStep
      cases hAt with
      | reserved hPayment =>
          simp only at hStep
          split at hStep
          · cases hStep
            refine hHolds.keeps_of_same ?_ ?_ rfl rfl ?_ rfl
              rfl
            · intro other hOther
              exact Function.update_of_ne hOther _ _
            · rw [System.observe_calls,
                System.become_calls_self, hCall]
              rfl
            · rw [System.observe_calls,
                System.become_calls_self]
              exact .answered hPayment hResult
          · cases hStep
  | _ => simp [hCall] at hStep

/- A call that was turned away looks for its key row. -/
theorem Holds.failRead_keeps
    (hHolds : refunds.Holds start system)
    (hCaller : call ∈ refunds.callers)
    (hStep :
      callStep config system call draw .failRead =
        some next) :
    refunds.Keeps system call next := by
  have hAt := hHolds.positions call hCaller
  simp only [callStep, stepFailRead] at hStep
  cases hCall : system.calls call with
  | failing key failure =>
      rw [hCall] at hAt hStep
      cases hAt with
      | failing hRejects =>
          have hKeeps :
              ∀ position : Call,
                position.refundRow = none →
                  refunds.At system.db position →
                    refunds.Keeps system call
                      (system.become call position) := by
            intro position hRow hPosition
            refine hHolds.keeps_of_same ?_ ?_ rfl rfl ?_ rfl
              rfl
            · intro other hOther
              exact Function.update_of_ne hOther _ _
            · rw [System.become_calls_self, hCall, hRow]
              rfl
            · rw [System.become_calls_self]
              exact hPosition
          simp only at hStep
          split at hStep
          · cases hStep
            exact hKeeps _ rfl (.rejected hRejects)
          · split at hStep
            · cases hStep
              exact hKeeps _ rfl (.failureSeen hRejects)
            · cases hStep
              exact hKeeps _ rfl (.rejected hRejects)
  | _ => simp [hCall] at hStep

/- What it marks as failed keeps its name. -/
theorem Holds.failWrite_keeps
    (hHolds : refunds.Holds start system)
    (hCaller : call ∈ refunds.callers)
    (hStep :
      callStep config system call draw .failWrite =
        some next) :
    refunds.Keeps system call next := by
  have hAt := hHolds.positions call hCaller
  simp only [callStep, stepFailWrite] at hStep
  cases hCall : system.calls call with
  | failureSeen key failure =>
      rw [hCall] at hAt hStep
      cases hAt with
      | failureSeen hRejects =>
          simp only at hStep
          split at hStep
          · cases hStep
            refine hHolds.keeps_of_same ?_ ?_ rfl ?_ ?_ rfl
              rfl
            · intro other hOther
              exact Function.update_of_ne hOther _ _
            · rw [System.commit_calls_self, hCall]
              rfl
            · exact failIdempotencyKey_keyNames _ _
            · rw [System.commit_calls_self]
              exact .rejected ⟨hRejects.full,
                hRejects.reason⟩
          · cases hStep
  | _ => simp [hCall] at hStep

/- The finalizing transaction settles the refund it holds. -/
theorem Holds.finish_keeps
    {db : Database}
    {key : ClaimedKey}
    {reservation : Reservation}
    {result : ProviderResult}
    {response : Response}
    (hHolds : refunds.Holds start system)
    (hStarts : refunds.Starts start)
    (hCaller : call ∈ refunds.callers)
    (hCall :
      system.calls call =
        .refundAnswered request key reservation result)
    (hBody :
      refundFinalize system.db
        (lockPayment config.lockRead system.db
          (some reservation.intent) request.paymentId
          request.merchantId)
        reservation.refund key.id result draw =
          .ok (db, response)) :
    refunds.Keeps system call
      (system.commit call db
        (.done (.response response.status
          response.body))) := by
  have hAt := hHolds.positions call hCaller
  rw [hCall] at hAt
  cases hAt with
  | answered hPayment hResult =>
      rcases hHolds.batch.held.reserved call reservation
          (by rw [hCall]; rfl) with
        ⟨hStored, _⟩
      have hFlight :=
        hHolds.batch.flights call request reservation
          (by rw [hCall]; rfl)
      rcases refundsOf_settle hHolds.batch.held.refundIds
          hStored (hFlight.refund.trans hPayment)
          (refundFinalize_refunds hBody) with
        ⟨before, after, hBefore, hAfter⟩
      rw [hResult] at hAfter
      rcases refundFinalize_eq_ok hBody with
        ⟨_, _, _, body, _, _, _, hResponseBody, rfl⟩
      rw [hResult] at hResponseBody
      subst hResponseBody
      have hOthers :
          ∀ other,
            other ≠ call →
              (system.commit call db
                (.done (.response (some 201)
                  (some (serializeRefund
                    { reservation.refund with
                      status :=
                        finalRefundStatus
                          .succeeded }))))).calls other =
                system.calls other :=
        fun other hOther => Function.update_of_ne hOther _ _
      have hMine :
          ∀ refund ∈ before ++ reservation.refund :: after,
            refund.amountMinor = refunds.amountMinor ∧
              refund.status ≠ .failed := by
        rw [← hBefore]
        exact hHolds.equal
      refine
        { equal := ?_
          rows := ?_
          grown := ?_
          position := ?_
          keyless := ?_
          paymentLock := rfl
          keyLock := rfl }
      · intro refund hMem
        rw [System.commit_db, hAfter] at hMem
        rcases List.mem_append.mp hMem with hOld | hRest
        · exact hMine refund (List.mem_append_left _ hOld)
        · rcases List.mem_cons.mp hRest with rfl | hOld
          · exact ⟨(hMine reservation.refund (by simp)).1,
              by simp [finalRefundStatus]⟩
          · exact hMine refund (by simp [hOld])
      · refine perm_rows _ hStarts.callers hCaller hOthers
          ?_ hHolds.rows ⟨before, after, ?_, hAfter⟩
        · simp [Call.refundRow, serializeRefund]
        · rw [hBefore, hCall]
          rfl
      · rw [System.commit_db, hBefore, hAfter]
        simp
      · rw [System.commit_calls_self]
        exact .refunded (hFlight.refund.trans hPayment)
          (hMine reservation.refund (by simp)).1 rfl
      · intro other hOther hNone
        have hNe : other ≠ call := by
          rintro rfl
          simp [Call.refundRow, serializeRefund] at hNone
        rw [hOthers other hNe] at hNone
        exact (hHolds.keyless other hOther hNone).of_names
          (refundFinalize_keyNames hBody)

/- Every step of a caller keeps the books of the batch. -/
theorem Holds.step
    {label : Label}
    (hHolds : refunds.Holds start system)
    (hStarts : refunds.Starts start)
    (hCaller : label.call ∈ refunds.callers)
    (hIssues : refunds.Issues label.call label.action)
    (hStep : PayGuard.step config system label = some next) :
    refunds.Holds start next := by
  obtain ⟨call, action, draw⟩ := label
  refine hHolds.keep hStarts hIssues hStep ?_
  have hCallStep :
      callStep config system call draw action =
        some next := by
    unfold PayGuard.step at hStep
    split at hStep
    · exact hStep
    · cases hStep
  cases action with
  | refundBegin request =>
      exact hHolds.begin_keeps hStarts hCaller hIssues
        hCallStep
  | refundAnswer result executed =>
      exact hHolds.answer_keeps hCaller hIssues hCallStep
  | refundFinish =>
      cases hCall : system.calls call with
      | refundAnswered request key reservation result =>
          have hFlight :=
            hHolds.batch.flights call request reservation
              (by rw [hCall]; rfl)
          cases callStep_refundAnswered hFlight hCall
              hCallStep with
          | finish hAnswered _ hBody =>
              exact hHolds.finish_keeps hStarts hCaller
                hAnswered hBody
      | _ => simp [callStep, stepRefundFinish, hCall]
          at hCallStep
  | failRead => exact hHolds.failRead_keeps hCaller hCallStep
  | failWrite =>
      exact hHolds.failWrite_keeps hCaller hCallStep
  | _ => cases hIssues

end EqualRefunds

end PayGuard

------------------------------------------------------------
-- No Call Gets Stuck
------------------------------------------------------------

namespace PayGuard

/- There is always an identifier no row has taken. -/
theorem exists_admitted (db : Database) :
    ∃ draw, db.Admits draw := by
  rcases Infinite.exists_notMem_finset
      (db.keys.map (·.id) ++ db.payments.map (·.id) ++
        db.attempts.map (·.id) ++ db.refunds.map (·.id) ++
        db.outbox.map (·.id) ++ db.webhooks.map (·.id) ++
        db.ledger.map (·.ledgerTransactionId)).toFinset with
    ⟨number, hFresh⟩
  simp only [List.mem_toFinset, List.mem_append, not_or]
    at hFresh
  rcases hFresh with
    ⟨⟨⟨⟨⟨⟨hKey, hPayment⟩, hAttempt⟩, hRefund⟩, hOutbox⟩,
      hWebhook⟩, hLedger⟩
  exact ⟨.numbered number, hKey, hPayment, hAttempt, hRefund,
    hOutbox, hWebhook, hLedger⟩

namespace EqualRefunds

variable {config : Config}
variable {refunds : EqualRefunds}
variable {start system : System}
variable {call : CallId}

/- A call has ended or can take a step of its own. -/
def GoesOn
    (refunds : EqualRefunds)
    (config : Config)
    (system : System)
    (call : CallId) : Prop :=
  (∃ reply, system.calls call = .done reply) ∨
    ∃ label next,
      label.call = call ∧
        refunds.Issues call label.action ∧
        step config system label = some next

theorem goesOn_of_callStep
    {action : Action}
    (hIssues : refunds.Issues call action)
    (hStep :
      ∀ draw,
        (callStep config system call draw
          action).isSome = true) :
    refunds.GoesOn config system call := by
  rcases exists_admitted system.db with ⟨draw, hAdmits⟩
  rcases Option.isSome_iff_exists.mp (hStep draw) with
    ⟨next, hNext⟩
  refine .inr ⟨⟨call, action, draw⟩, next, rfl, hIssues, ?_⟩
  unfold step
  rw [if_pos hAdmits]
  exact hNext

theorem Holds.goesOn
    (hHolds : refunds.Holds start system)
    (hStarts : refunds.Starts start)
    (hCaller : call ∈ refunds.callers) :
    refunds.GoesOn config system call := by
  have hAt := hHolds.positions call hCaller
  cases hCall : system.calls call with
  | idle =>
      let request : RefundRequest :=
        { merchantId := refunds.payment.merchantId
          paymentId := refunds.payment.id
          idempotencyKey := refunds.keyOf call
          amountMinor := refunds.amountMinor }
      have hIssues :
          refunds.Issues call (.refundBegin request) :=
        ⟨rfl, rfl, rfl, rfl⟩
      refine goesOn_of_callStep hIssues (fun draw => ?_)
      rcases hHolds.refundBegin hStarts hCaller hCall hIssues
          draw with
        ⟨keyRow, _, ⟨failure, _, hNext⟩ |
          ⟨db, reservation, _, hNext⟩⟩
      · rw [hNext]
        rfl
      · rw [hNext]
        rfl
  | refundReserved request key reservation =>
      have hIssues :
          refunds.Issues call
            (.refundAnswer (.approved "") true) := rfl
      refine goesOn_of_callStep hIssues (fun draw => ?_)
      simp [callStep, stepRefundAnswer, hCall,
        ProviderResult.approved, ProviderOutcome.mayExecute]
  | refundAnswered request key reservation result =>
      have hFlight :=
        hHolds.batch.flights call request reservation
          (by rw [hCall]; rfl)
      have hIssues :
          refunds.Issues call .refundFinish := trivial
      refine goesOn_of_callStep hIssues (fun draw => ?_)
      have hBody :
          ∃ left response,
            refundFinalize system.db
              (lockPayment config.lockRead system.db
                (some reservation.intent) request.paymentId
                request.merchantId)
              reservation.refund key.id result draw =
                .ok (left, response) :=
        hFlight.refundFinalize key.id result
      rcases hBody with ⟨left, response, hBody⟩
      simp [callStep, stepRefundFinish, hCall,
        System.paymentFree, System.keyFree,
        hHolds.paymentLock, hHolds.keyLock, hBody]
  | failing key failure =>
      have hIssues : refunds.Issues call .failRead := trivial
      refine goesOn_of_callStep hIssues (fun draw => ?_)
      simp only [callStep, stepFailRead, hCall]
      split
      · rfl
      · split
        · rfl
        · rfl
  | failureSeen key failure =>
      have hIssues : refunds.Issues call .failWrite := trivial
      refine goesOn_of_callStep hIssues (fun draw => ?_)
      simp [callStep, stepFailWrite, hCall, System.keyFree,
        hHolds.keyLock]
  | done reply => exact .inl ⟨reply, hCall⟩
  | _ =>
      rw [hCall] at hAt
      cases hAt

end EqualRefunds

end PayGuard

------------------------------------------------------------
-- Every Schedule
------------------------------------------------------------

namespace PayGuard

namespace EqualRefunds

variable {refunds : EqualRefunds}
variable {start system : System}
variable {call : CallId}

theorem Starts.holds
    (hStarts : refunds.Starts start) :
    refunds.Holds start start := by
  have hEmpty :
      start.db.refundsOf refunds.payment.id = [] := by
    unfold Database.refundsOf
    rw [List.filter_eq_nil_iff]
    intro refund hRefund
    simpa using hStarts.batch.untouched refund hRefund
  exact
    { batch := hStarts.batch.batch
      stored :=
        ⟨refunds.payment, hStarts.batch.stored, rfl, rfl⟩
      authorized :=
        isSome_latestSuccessful_iff.mp
          hStarts.batch.authorized
      equal := by
        rw [hEmpty]
        simp
      rows := by
        rw [hEmpty, List.filterMap_eq_nil_iff.mpr]
        intro call hCaller
        rw [hStarts.idle call hCaller]
        rfl
      positions := by
        intro call hCaller
        rw [hStarts.idle call hCaller]
        exact .idle
      keyless := fun call hCaller _ =>
        hStarts.unused call hCaller
      paymentLock := hStarts.paymentLock
      keyLock := hStarts.keyLock }

/- Why a call was turned away. -/
def TurnedAway
    (refunds : EqualRefunds)
    (db : Database)
    (failure : Failure) : Prop :=
  (∃ remaining,
      remaining < refunds.amountMinor ∧
        failure = refunds.exceedsRemaining remaining) ∨
    failure = alreadyRefunded ∧
      ∃ row ∈ db.payments,
        row.id = refunds.payment.id ∧
          row.status = .refunded

/- How the calls of a batch have ended. -/
structure Filled
    (refunds : EqualRefunds)
    (system : System) : Prop where
  succeeded :
    refunds.callers.countP (fun call =>
        refunds.succeeds (system.calls call)) =
      refunds.fitting
  rejected :
    ∀ call ∈ refunds.callers,
      refunds.succeeds (system.calls call) = false →
        refunds.Keyless system.db call ∧
          (system.calls call).refundRow = none ∧
          ∃ failure,
            system.calls call = .done (.raised failure) ∧
              refunds.TurnedAway system.db failure
  rows :
    (refunds.callers.filterMap (fun call =>
        (system.calls call).refundRow)).Perm
      (system.db.refundsOf refunds.payment.id)
  count :
    (system.db.refundsOf refunds.payment.id).length =
      refunds.fitting
  refunded :
    ∀ refund ∈ system.db.refundsOf refunds.payment.id,
      refund.amountMinor = refunds.amountMinor ∧
        refund.status = .succeeded

/- A call that has ended was refunded or turned away. -/
theorem At.ended
    {db : Database}
    {position : Call}
    (hAt : refunds.At db position)
    (hDone : ∃ reply, position = .done reply) :
    (refunds.succeeds position = true ∧
        ∃ refund,
          position.refundRow = some refund ∧
            refund.status = .succeeded) ∨
      (refunds.succeeds position = false ∧
        position.refundRow = none ∧
        ∃ failure,
          position = .done (.raised failure) ∧
            refunds.Rejects db failure) := by
  rcases hDone with ⟨reply, rfl⟩
  cases hAt with
  | refunded hPayment hAmount hStatus =>
      rename_i refund
      refine .inl ⟨?_, refund, rfl, hStatus⟩
      simp [serializeRefund, succeeds, hStatus, hPayment,
        hAmount]
  | rejected hRejects =>
      exact .inr ⟨rfl, rfl, _, rfl, hRejects⟩

/- The refunds that fit are the refunds there are. -/
theorem Holds.count_eq_fitting
    (hHolds : refunds.Holds start system)
    (hStarts : refunds.Starts start)
    (hDone :
      ∀ call ∈ refunds.callers,
        ∃ reply, system.calls call = .done reply) :
    (system.db.refundsOf refunds.payment.id).length =
      refunds.fitting := by
  have hLength := hHolds.rows.length_eq
  have hPositive := hStarts.positive
  have hBounded := hHolds.bounded
  have hCount :=
    List.length_filterMap_le
      (fun call => (system.calls call).refundRow)
      refunds.callers
  have hFits :
      ((system.db.refundsOf
          refunds.payment.id).length : Int) ≤
        refunds.payment.amountMinor /
          refunds.amountMinor := by
    rw [Int.le_ediv_iff_mul_le hPositive, mul_comm]
    exact hBounded
  unfold fitting
  by_cases hAll :
      (refunds.callers.filterMap (fun call =>
          (system.calls call).refundRow)).length <
        refunds.callers.length
  · -- some call was turned away, so nothing more fits
    rcases List.length_filterMap_lt_length_iff_exists.mp
        hAll with
      ⟨call, hCaller, hNone⟩
    have hFull :
        refunds.payment.amountMinor / refunds.amountMinor <
          (system.db.refundsOf
            refunds.payment.id).length + 1 := by
      rw [Int.ediv_lt_iff_lt_mul hPositive, mul_comm]
      rcases (hHolds.positions call hCaller).ended
          (hDone call hCaller) with
        ⟨_, refund, hSome, _⟩ |
          ⟨_, _, failure, _, hRejects⟩
      · rw [hNone] at hSome
        cases hSome
      · exact hRejects.full
    omega
  · omega

theorem Holds.filled
    (hHolds : refunds.Holds start system)
    (hStarts : refunds.Starts start)
    (hDone :
      ∀ call ∈ refunds.callers,
        ∃ reply, system.calls call = .done reply) :
    refunds.Filled system := by
  have hEnded :=
    fun call hCaller =>
      (hHolds.positions call hCaller).ended
        (hDone call hCaller)
  have hCount := hHolds.count_eq_fitting hStarts hDone
  have hRefunded :
      ∀ refund ∈ system.db.refundsOf refunds.payment.id,
        refund.status = .succeeded := by
    intro refund hRefund
    rcases List.mem_filterMap.mp
        (hHolds.rows.mem_iff.mpr hRefund) with
      ⟨call, hCaller, hRow⟩
    rcases hEnded call hCaller with
      ⟨_, settled, hSome, hStatus⟩ | ⟨_, hNone, _⟩
    · rw [hRow] at hSome
      cases hSome
      exact hStatus
    · rw [hRow] at hNone
      cases hNone
  refine
    { succeeded := ?_
      rejected := ?_
      rows := hHolds.rows
      count := hCount
      refunded := fun refund hRefund =>
        ⟨(hHolds.equal refund hRefund).1,
          hRefunded refund hRefund⟩ }
  · rw [← hCount, ← hHolds.rows.length_eq,
      List.length_filterMap_eq_countP]
    apply List.countP_congr
    intro call hCaller
    rcases hEnded call hCaller with
      ⟨hSucceeds, refund, hSome, _⟩ | ⟨hFails, hNone, _⟩
    · simp [hSucceeds, hSome]
    · simp [hFails, hNone]
  · intro call hCaller hFails
    rcases hEnded call hCaller with
      ⟨hSucceeds, _⟩ | ⟨_, hNone, failure, hRaised, hRejects⟩
    · rw [hFails] at hSucceeds
      cases hSucceeds
    refine ⟨hHolds.keyless call hCaller hNone, hNone, failure,
      hRaised, ?_⟩
    rcases hRejects.reason with
      hExceeds | ⟨hAlready, hAll⟩
    · exact .inl hExceeds
    · -- all refunds went through and add up to the amount
      refine .inr ⟨hAlready, ?_⟩
      rcases hHolds.batch.settled with
        ⟨row, hRow, hId, _, hSettles, _⟩
      have hNoneWaits :
          ∀ refund ∈ system.db.refundsOf refunds.payment.id,
            refund.status ≠ .pending := by
        intro refund hRefund hPending
        rw [hRefunded refund hRefund] at hPending
        cases hPending
      have hSome :
          system.db.refundsOf refunds.payment.id ≠ [] := by
        intro hEmpty
        rw [hEmpty] at hAll
        have hAmount := hStarts.batch.amount
        simp at hAll
        omega
      refine ⟨row, hRow, hId,
        (hSettles.refunded hSome hNoneWaits).mpr ?_⟩
      rw [hHolds.settled hNoneWaits]
      exact le_antisymm hHolds.bounded hAll

end EqualRefunds

/-
  Whatever the amount, the number of calls and the
  interleaving, no call gets stuck, and once all of them
  have ended as many have been refunded as the balance
  takes and the others have left nothing behind.
-/
theorem equal_refunds_fill_balance
    (config : Config)
    (refunds : EqualRefunds)
    (start : System)
    (labels : List Label)
    (system : System)
    (hStarts : refunds.Starts start)
    (hSchedules : refunds.Schedules labels)
    (hRun :
      Lts.exec (step config) start labels = some system) :
    (∀ call ∈ refunds.callers,
        refunds.GoesOn config system call) ∧
      ((∀ call ∈ refunds.callers,
          ∃ reply, system.calls call = .done reply) →
        refunds.Filled system) := by
  have hMeets :
      Lts.Meets (step config)
        (fun _ label =>
          label.call ∈ refunds.callers ∧
            refunds.Issues label.call label.action)
        start labels :=
    Lts.meets_of_forall (fun label hLabel _ =>
      hSchedules label hLabel)
  have hHolds :=
    Lts.invariant_of_meets
      (fun _ _ _ hHolds hLabel hStep =>
        hHolds.step hStarts hLabel.1 hLabel.2 hStep)
      hStarts.holds hMeets hRun
  exact ⟨fun call hCaller => hHolds.goesOn hStarts hCaller,
    hHolds.filled hStarts⟩

/- Four refunds of 50 share a payment of 100. -/
def fourRefunds : EqualRefunds where
  payment := capturedPayment
  amountMinor := 50
  callers := [2, 3, 4, 5]
  keyOf call := "refund " ++ toString call

def fourRefundsBegin
    (call : CallId)
    (number : Nat) : Label :=
  ⟨call, .refundBegin
    { merchantId := 1
      paymentId := 1
      idempotencyKey := fourRefunds.keyOf call
      amountMinor := 50 }, .numbered number⟩

/- One is too late for the balance, one for the payment. -/
def fourRefundsRun : List Label :=
  [fourRefundsBegin 2 8,
    fourRefundsBegin 3 9,
    fourRefundsBegin 4 10,
    ⟨3, .refundAnswer (.approved "txn") true, .numbered 11⟩,
    ⟨2, .refundAnswer (.approved "txn") true, .numbered 12⟩,
    ⟨3, .refundFinish, .numbered 13⟩,
    ⟨4, .failRead, .numbered 14⟩,
    ⟨2, .refundFinish, .numbered 15⟩,
    fourRefundsBegin 5 16,
    ⟨5, .failRead, .numbered 17⟩]

theorem equal_refunds_fill_balance_four :
    ∃ system,
      Lts.exec (step { sha256 := spellOut })
          { db := capturedDatabase } fourRefundsRun =
            some system ∧
        system.calls 4 =
          .done (.raised
            (fourRefunds.exceedsRemaining 0)) ∧
        system.calls 5 =
          .done (.raised EqualRefunds.alreadyRefunded) ∧
        fourRefunds.Filled system := by
  have hStarts :
      fourRefunds.Starts { db := capturedDatabase } :=
    { batch :=
        { paymentIds := by decide +kernel
          refundIds := by decide +kernel
          owner := by decide +kernel
          positive := by decide +kernel
          rest := fun _ => .inl rfl
          stored := by decide +kernel
          amount := by decide
          status := rfl
          untouched := by decide +kernel
          authorized := by decide +kernel }
      fits := by decide
      positive := by decide
      callers := by decide
      idle := fun _ _ => rfl
      keys := by decide +kernel
      unused := by
        unfold EqualRefunds.Keyless
        decide +kernel
      paymentLock := fun _ => rfl
      keyLock := fun _ => rfl }
  have hSchedules : fourRefunds.Schedules fourRefundsRun := by
    unfold EqualRefunds.Schedules
    simp only [fourRefundsRun, List.forall_mem_cons]
    refine ⟨⟨by decide, rfl, rfl, rfl, rfl⟩,
      ⟨by decide, rfl, rfl, rfl, rfl⟩,
      ⟨by decide, rfl, rfl, rfl, rfl⟩,
      ⟨by decide, rfl⟩,
      ⟨by decide, rfl⟩,
      ⟨by decide, trivial⟩,
      ⟨by decide, trivial⟩,
      ⟨by decide, trivial⟩,
      ⟨by decide, rfl, rfl, rfl, rfl⟩,
      ⟨by decide, trivial⟩, ?_⟩
    simp
  have hRun :
      (Lts.exec (step { sha256 := spellOut })
        { db := capturedDatabase } fourRefundsRun).map
          (fun system =>
            fourRefunds.callers.map system.calls) =
        some
          [.done (.response (some 201)
              (some (.refund 8 1 50 .succeeded 0))),
            .done (.response (some 201)
              (some (.refund 9 1 50 .succeeded 0))),
            .done (.raised (fourRefunds.exceedsRemaining 0)),
            .done (.raised
              EqualRefunds.alreadyRefunded)] := by
    decide +kernel
  rcases Option.map_eq_some_iff.mp hRun with
    ⟨system, hExec, hCalls⟩
  simp only [fourRefunds, List.map_cons, List.map_nil,
    List.cons.injEq, and_true] at hCalls
  rcases hCalls with ⟨hTwo, hThree, hFour, hFive⟩
  have hFilled :=
    (equal_refunds_fill_balance { sha256 := spellOut }
      fourRefunds _ _ _ hStarts hSchedules hExec).2
  refine ⟨system, hExec, hFour, hFive, hFilled ?_⟩
  simp only [fourRefunds, List.forall_mem_cons]
  exact ⟨⟨_, hTwo⟩, ⟨_, hThree⟩, ⟨_, hFour⟩, ⟨_, hFive⟩,
    by simp⟩

end PayGuard

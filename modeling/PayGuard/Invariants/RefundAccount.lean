import PayGuard.Invariants.RefundBatch
import PayGuard.Lib.Escrow

/-
  The refunds of a payment are holds on its amount.

  Abstractly a payment is an account: requesting a refund
  places a hold, a provider that refunds settles it, and any
  other answer releases it.  Locks, keys, retries and deaths
  do not show.  Every run of the services is, for each of
  its payments, a run of that account.

  Key definitions include:
    * `refundAccount`

  Key theorems include:
    * `taken_refundAccount`
    * `RefundStep.escrow`
    * `refunds_refine_escrow`
-/

------------------------------------------------------------
-- The Abstraction
------------------------------------------------------------

namespace PayGuard

def RefundStatus.fate : RefundStatus → Escrow.Fate
| .pending => .held
| .succeeded => .settled
| .failed => .released

def Refund.hold (refund : Refund) : Escrow.Hold Uuid where
  id := refund.id
  amount := refund.amountMinor
  fate := refund.status.fate

/- The account a payment and its refunds stand for. -/
def refundAccount
    (db : Database)
    (payment : PaymentIntent) : Escrow.Account Uuid where
  capacity := payment.amountMinor
  holds := (db.refundsOf payment.id).map Refund.hold

variable {config : Config}
variable {system next : System}
variable {call : CallId}
variable {action : Action}
variable {db db' : Database}
variable {payment : PaymentIntent}
variable {refund : Refund}

/- A sum over the holds is the sum over their refunds. -/
theorem sumWhere_hold
    (selected : Escrow.Hold Uuid → Bool)
    (db : Database)
    (paymentId : Uuid) :
    Table.sumWhere selected (·.amount)
        ((db.refundsOf paymentId).map Refund.hold) =
      Table.sumWhere
        (fun refund : Refund =>
          refund.paymentIntentId = paymentId &&
            selected refund.hold)
        (·.amountMinor) db.refunds := by
  unfold Table.sumWhere Database.refundsOf
  rw [List.filter_map, List.map_map, List.filter_filter]
  congr 2
  apply List.filter_congr
  intro refund _
  exact Bool.and_comm _ _

/- What is taken is what the service reads as reserved. -/
theorem taken_refundAccount :
    (refundAccount db payment).taken =
      reservedAmount db payment.id := by
  unfold Escrow.Account.taken refundAccount reservedAmount
  rw [sumWhere_hold]
  congr 1
  funext refund
  cases hStatus : refund.status <;>
    simp [Refund.hold, hStatus, RefundStatus.fate,
      RefundStatus.isReserved]

theorem settled_refundAccount :
    (refundAccount db payment).settled =
      refundedAmount db payment.id := by
  unfold Escrow.Account.settled refundAccount refundedAmount
  rw [sumWhere_hold]
  congr 1
  funext refund
  cases hStatus : refund.status <;>
    simp [Refund.hold, hStatus, RefundStatus.fate]

theorem refundAccount_congr
    (hRefunds :
      db'.refundsOf payment.id = db.refundsOf payment.id) :
    refundAccount db' payment = refundAccount db payment := by
  unfold refundAccount
  rw [hRefunds]

/- The name of a hold is that of a stored refund. -/
theorem hold_ids :
    ((refundAccount db payment).holds.map (·.id)) =
      (db.refundsOf payment.id).map (·.id) := by
  unfold refundAccount
  rw [List.map_map]
  rfl

/- What the tables promise makes the account sound. -/
theorem sound_refundAccount
    (hBoth : HeldBalance system)
    {row : PaymentIntent}
    (hRow : row ∈ system.db.payments)
    (hId : row.id = payment.id)
    (hAmount : row.amountMinor = payment.amountMinor) :
    Escrow.Sound (refundAccount system.db payment) where
  ids := by
    rw [hold_ids]
    exact hBoth.1.refundIds.sublist
      (List.Sublist.map _ List.filter_sublist)
  positive := by
    intro hold hHold
    rcases List.mem_map.mp hHold with ⟨refund, hRefund, rfl⟩
    exact hBoth.2.positive refund
      (mem_refundsOf.mp hRefund).1
  bounded := by
    rw [taken_refundAccount, ← hId]
    have hBound := hBoth.2.bounded row hRow
    rw [hAmount] at hBound
    exact hBound

------------------------------------------------------------
-- One Step
------------------------------------------------------------

/- A new refund of the payment is a hold that is placed. -/
theorem refundAccount_append
    (hPayment : refund.paymentIntentId = payment.id)
    (hPending : refund.status = .pending)
    (hRefunds : db'.refunds = db.refunds ++ [refund]) :
    refundAccount db' payment =
      (refundAccount db payment).place refund.id
        refund.amountMinor := by
  unfold refundAccount Escrow.Account.place
  rw [refundsOf_append hPayment hRefunds, List.map_append]
  simp [Refund.hold, hPending, RefundStatus.fate]

/- A refund that is answered is a hold that is closed. -/
theorem refundAccount_settle
    {status : RefundStatus}
    (hRefunds :
      db'.refunds =
        (setRefundStatus db refund.id status).refunds) :
    refundAccount db' payment =
      (refundAccount db payment).close refund.id
        status.fate := by
  unfold refundAccount Escrow.Account.close
  have hFilter :
      db'.refundsOf payment.id =
        Table.updateWhere (fun row => row.id = refund.id)
          (fun row => { row with status := status })
          (db.refundsOf payment.id) := by
    unfold Database.refundsOf
    rw [hRefunds]
    apply Table.filter_updateWhere
    intro row _
    rfl
  rw [hFilter]
  congr 1
  apply Table.map_updateWhere_comm
  · intro row
    rfl
  · intro row
    rfl

/- At most one move of the account a step. -/
theorem RefundStep.escrow
    (hHeld : Held system)
    (hRefund : RefundStep system call action next)
    {row : PaymentIntent}
    (hRow : row ∈ system.db.payments)
    (hId : row.id = payment.id)
    (hAmount : row.amountMinor = payment.amountMinor) :
    refundAccount next.db payment =
        refundAccount system.db payment ∨
      ∃ move,
        Escrow.step (refundAccount system.db payment) move =
          some (refundAccount next.db payment) := by
  cases hRefund with
  | same hRefunds _ _ =>
      refine .inl (refundAccount_congr ?_)
      unfold Database.refundsOf
      rw [hRefunds]
  | answer _ _ _ _ _ _ _ hRefunds _ _ =>
      refine .inl (refundAccount_congr ?_)
      unfold Database.refundsOf
      rw [hRefunds]
  | reserve _ _ reservation intent hFresh hStatus hPositive
      hIntent hPayment hRemaining hRefunds _ _ =>
      by_cases hOwn :
          reservation.refund.paymentIntentId = payment.id
      · have hSame : intent = row :=
          List.inj_on_of_nodup_map hHeld.paymentIds hIntent
            hRow ((hPayment.symm.trans hOwn).trans hId.symm)
        have hNew :
            reservation.refund.id ∉
              (refundAccount system.db payment).holds.map
                (·.id) := by
          rw [hold_ids]
          intro hMem
          rcases List.mem_map.mp hMem with
            ⟨refund, hRefund, hRefundId⟩
          rw [← hRefundId] at hFresh
          exact hFresh
            (List.mem_map_of_mem (mem_refundsOf.mp hRefund).1)
        have hFree :
            reservation.refund.amountMinor ≤
              (refundAccount system.db payment).capacity -
                (refundAccount system.db payment).taken := by
          rw [taken_refundAccount]
          rw [hSame, hId, hAmount] at hRemaining
          exact hRemaining
        refine .inr ⟨.place reservation.refund.id
          reservation.refund.amountMinor, ?_⟩
        rw [refundAccount_append hOwn hStatus hRefunds]
        exact if_pos ⟨hNew, hPositive, hFree⟩
      · exact .inl (refundAccount_congr
          (refundsOf_append_of_ne hOwn hRefunds))
  | settle _ _ reservation result _ hCall hRefunds _ _ =>
      have hReserved :=
        hHeld.reserved call reservation (by rw [hCall]; rfl)
      by_cases hOwn :
          reservation.refund.paymentIntentId = payment.id
      · have hOpen :
            (refundAccount system.db payment).Open
              reservation.refund.id := by
          refine ⟨reservation.refund.hold,
            List.mem_map_of_mem
              (mem_refundsOf.mpr ⟨hReserved.1, hOwn⟩), rfl, ?_⟩
          simp [Refund.hold, hReserved.2, RefundStatus.fate]
        rw [refundAccount_settle hRefunds]
        cases result.outcome with
        | succeeded =>
            exact .inr ⟨.settle reservation.refund.id,
              if_pos hOpen⟩
        | _ =>
            exact .inr ⟨.release reservation.refund.id,
              if_pos hOpen⟩
      · exact .inl (refundAccount_congr
          (refundsOf_settle_of_ne hHeld.refundIds hReserved.1
            hOwn hRefunds))

------------------------------------------------------------
-- Every Run
------------------------------------------------------------

/- The payment is stored, and its account has moved on. -/
structure AccountMoved
    (payment : PaymentIntent)
    (start system : System) : Prop where
  balance : HeldBalance system
  stored :
    ∃ row ∈ system.db.payments,
      row.id = payment.id ∧
        row.amountMinor = payment.amountMinor
  moved :
    ∃ moves,
      Lts.exec Escrow.step (refundAccount start.db payment)
          moves =
        some (refundAccount system.db payment)

theorem AccountMoved.step
    {start : System}
    {label : Label}
    (hMoved : AccountMoved payment start system)
    (hStep : PayGuard.step config system label = some next) :
    AccountMoved payment start next := by
  rcases step_effect hStep with ⟨hAdmits, hEffect⟩
  have hHeld := hMoved.balance.1
  rcases hMoved.stored with ⟨row, hRow, hId, hAmount⟩
  refine ⟨heldBalance_step hMoved.balance hStep, ?_, ?_⟩
  · rcases (hEffect.trailStep hHeld.captures
      hAdmits).exists_kept hRow with
      ⟨kept, hKept, hKeptId, _, hKeptAmount⟩
    exact ⟨kept, hKept, hKeptId.trans hId,
      hKeptAmount.trans hAmount⟩
  · rcases hMoved.moved with ⟨moves, hMoves⟩
    rcases (hEffect.refundStep hAdmits).escrow hHeld hRow hId
        hAmount with
      hSame | ⟨move, hMove⟩
    · exact ⟨moves, hSame ▸ hMoves⟩
    · exact ⟨moves ++ [move], Lts.exec_snoc hMoves hMove⟩

/-
  From any reachable state on, and whatever the calls and
  the provider do, the refunds of a payment go through a run
  of its account.  The account is sound before and after,
  what was closed stays closed, and what was refunded stays
  refunded.
-/
theorem refunds_refine_escrow
    (config : Config)
    (labels more : List Label)
    (system later : System)
    (hRun :
      Lts.exec (step config) {} labels = some system)
    (hMore :
      Lts.exec (step config) system more = some later)
    (payment : PaymentIntent)
    (hPayment : payment ∈ system.db.payments) :
    (∃ moves,
        Lts.exec Escrow.step
            (refundAccount system.db payment) moves =
          some (refundAccount later.db payment)) ∧
      Escrow.Sound (refundAccount system.db payment) ∧
        Escrow.Sound (refundAccount later.db payment) ∧
          Escrow.Kept (refundAccount system.db payment)
            (refundAccount later.db payment) ∧
            refundedAmount system.db payment.id ≤
              refundedAmount later.db payment.id := by
  have hBalance := heldBalance_of_exec hRun
  have hStart : AccountMoved payment system system :=
    ⟨hBalance, ⟨payment, hPayment, rfl, rfl⟩, [], rfl⟩
  have hMoved : AccountMoved payment system later :=
    Lts.invariant_of_exec
      (fun _ _ _ hBefore hStep => hBefore.step hStep)
      hStart hMore
  have hSound : Escrow.Sound (refundAccount system.db payment) :=
    sound_refundAccount hBalance hPayment rfl rfl
  rcases hMoved.moved with ⟨moves, hMoves⟩
  rcases Escrow.sound_of_exec hSound hMoves with
    ⟨hLater, hKept⟩
  have hSettled := hKept.settled
  rw [settled_refundAccount, settled_refundAccount] at hSettled
  exact ⟨⟨moves, hMoves⟩, hSound, hLater, hKept, hSettled⟩

/- Forty and then twenty-five are asked back at once. -/
def asksTwice : List Label :=
  [⟨2, .refundBegin
      { merchantId := 1
        paymentId := 1
        idempotencyKey := "refund"
        amountMinor := 40 }, .numbered 8⟩,
    ⟨3, .refundBegin
      { merchantId := 1
        paymentId := 1
        idempotencyKey := "again"
        amountMinor := 25 }, .numbered 9⟩,
    ⟨2, .refundAnswer (.approved "txn") true, .numbered 10⟩,
    ⟨2, .refundFinish, .numbered 11⟩,
    ⟨3, .refundAnswer
      { outcome := .declined
        providerTransactionId := none
        rawStatus := "refund_declined" } false,
      .numbered 12⟩,
    ⟨3, .refundFinish, .numbered 13⟩]

theorem refunds_refine_escrow_twice :
    ∃ system later payment,
      Lts.exec (step { sha256 := spellOut }) {}
          capturedRun = some system ∧
        Lts.exec (step { sha256 := spellOut }) system
            asksTwice = some later ∧
          payment ∈ system.db.payments ∧
            later.db.refunds.map (·.status) =
              [.succeeded, .failed] ∧
              ∃ moves,
                Lts.exec Escrow.step
                    (refundAccount system.db payment)
                    moves =
                  some (refundAccount later.db payment) := by
  have hRun :
      (Lts.exec (step { sha256 := spellOut }) {}
        capturedRun).map (fun system =>
          (system.db.payments.map (·.id),
            (Lts.exec (step { sha256 := spellOut }) system
              asksTwice).map (fun later =>
                later.db.refunds.map (·.status)))) =
        some ([1], some [.succeeded, .failed]) := by
    decide +kernel
  rcases Option.map_eq_some_iff.mp hRun with
    ⟨system, hSystem, hBoth⟩
  rw [Prod.mk.injEq] at hBoth
  rcases Option.map_eq_some_iff.mp hBoth.2 with
    ⟨later, hLater, hStatuses⟩
  have hFirst : 1 ∈ system.db.payments.map (·.id) := by
    rw [hBoth.1]
    exact List.mem_cons_self
  rcases List.mem_map.mp hFirst with ⟨payment, hPayment, _⟩
  exact ⟨system, later, payment, hSystem, hLater, hPayment,
    hStatuses,
    (refunds_refine_escrow { sha256 := spellOut } capturedRun
      asksTwice system later hSystem hLater payment
      hPayment).1⟩

end PayGuard

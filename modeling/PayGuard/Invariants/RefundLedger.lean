import PayGuard.System.Reservations

/-
  The ledger mirrors the refunds and always balances.

  A refund becomes `SUCCEEDED` in the same transaction that
  books it, and a transaction that books anything writes one
  debit and one credit under an identifier of its own.

  Key definitions include:
    * `Database.refundDebits`
    * `Database.settledRefunds`
    * `Paired`
    * `RefundLedger`

  Key theorems include:
    * `Effect.ledgerStep`
    * `refundLedger_step`
    * `ledger_mirrors_refunds`
-/

------------------------------------------------------------
-- What Is Booked
------------------------------------------------------------

namespace PayGuard

def LedgerEntry.isRefundDebit (entry : LedgerEntry) : Bool :=
  entry.account = .refundLiability &&
    entry.direction = .debit

/- The amounts debited to the refund liability. -/
def Database.refundDebits
    (db : Database)
    (paymentId : Uuid) : List Int :=
  (db.ledger.filter (fun entry =>
    entry.paymentIntentId = paymentId &&
      entry.isRefundDebit)).map (·.amountMinor)

/- The amounts of the refunds that went through. -/
def Database.settledRefunds
    (db : Database)
    (paymentId : Uuid) : List Int :=
  (db.refunds.filter (fun refund =>
    refund.paymentIntentId = paymentId &&
      refund.status = .succeeded)).map (·.amountMinor)

/- A debit and the credit that balances it. -/
structure Balances (debit credit : LedgerEntry) : Prop where
  debited : debit.direction = .debit
  credited : credit.direction = .credit
  amount : debit.amountMinor = credit.amountMinor
  payment : debit.paymentIntentId = credit.paymentIntentId
  account : debit.account ≠ credit.account

/-
  Every identifier of a ledger transaction groups one debit
  and one credit.
-/
def Paired (ledger : List LedgerEntry) : Prop :=
  ∀ entry ∈ ledger,
    ∃ debit credit,
      ledger.filter (fun other =>
          other.ledgerTransactionId =
            entry.ledgerTransactionId) = [debit, credit] ∧
        Balances debit credit

/- The sum of the entries in one direction. -/
def total
    (direction : Direction)
    (ledger : List LedgerEntry) : Int :=
  Table.sumWhere
    (fun entry : LedgerEntry => entry.direction = direction)
    (·.amountMinor) ledger

/- The ledger against the refunds, and against itself. -/
structure RefundLedger (db : Database) : Prop where
  mirrors :
    ∀ paymentId,
      (db.refundDebits paymentId).Perm
        (db.settledRefunds paymentId)
  paired : Paired db.ledger
  balanced : total .debit db.ledger = total .credit db.ledger

theorem refundLedger_initial : RefundLedger {} where
  mirrors := by
    intro paymentId
    exact .refl _
  paired := by
    intro entry hEntry
    cases hEntry
  balanced := rfl

------------------------------------------------------------
-- Appending A Pair
------------------------------------------------------------

variable {ledger : List LedgerEntry}
variable {debited credited : Account}
variable {paymentId transactionId : Uuid}
variable {amountMinor : Int}

/- The two entries of a pair, as the ledger stores them. -/
def entriesOf
    (pair : LedgerEntry × LedgerEntry) : List LedgerEntry :=
  [pair.1, pair.2]

theorem buildPair_balances
    (hAccounts : debited ≠ credited)
    (paymentId : Uuid)
    (amountMinor : Int)
    (transactionId : Uuid) :
    Balances
      (buildPair debited credited paymentId amountMinor
        transactionId).1
      (buildPair debited credited paymentId amountMinor
        transactionId).2 :=
  ⟨rfl, rfl, rfl, rfl, hAccounts⟩

theorem filter_ledgerTransaction_of_fresh
    (hFresh :
      transactionId ∉ ledger.map (·.ledgerTransactionId)) :
    ledger.filter (fun other =>
      other.ledgerTransactionId = transactionId) = [] := by
  rw [List.filter_eq_nil_iff]
  intro other hOther
  simp only [decide_eq_true_eq]
  intro hSame
  exact hFresh (List.mem_map.mpr ⟨other, hOther, hSame⟩)

/- A fresh pair joins a paired ledger. -/
theorem Paired.append
    (hPaired : Paired ledger)
    (hAccounts : debited ≠ credited)
    (hFresh :
      transactionId ∉ ledger.map (·.ledgerTransactionId)) :
    Paired (ledger ++
      entriesOf (buildPair debited credited paymentId
        amountMinor transactionId)) := by
  intro entry hEntry
  rw [List.mem_append] at hEntry
  rcases hEntry with hOld | hNew
  · have hOther :
        transactionId ≠ entry.ledgerTransactionId := by
      rintro rfl
      exact hFresh (List.mem_map_of_mem hOld)
    rcases hPaired entry hOld with
      ⟨debit, credit, hFilter, hBalances⟩
    refine ⟨debit, credit, ?_, hBalances⟩
    rw [List.filter_append, hFilter]
    simp [entriesOf, buildPair, hOther]
  · have hSame :
        entry.ledgerTransactionId = transactionId := by
      simp only [entriesOf, buildPair, List.mem_cons,
        List.not_mem_nil, or_false] at hNew
      rcases hNew with rfl | rfl
      · rfl
      · rfl
    refine ⟨_, _, ?_, buildPair_balances hAccounts paymentId
      amountMinor transactionId⟩
    rw [hSame, List.filter_append,
      filter_ledgerTransaction_of_fresh hFresh]
    simp [entriesOf, buildPair]

/- A pair adds the same amount on both sides. -/
theorem total_append
    (direction : Direction) :
    total direction (ledger ++
        entriesOf (buildPair debited credited paymentId
          amountMinor transactionId)) =
      total direction ledger + amountMinor := by
  unfold total
  rw [Table.sumWhere_append]
  cases direction with
  | debit => simp [Table.sumWhere, entriesOf, buildPair]
  | credit => simp [Table.sumWhere, entriesOf, buildPair]

end PayGuard

------------------------------------------------------------
-- What A Transaction Books
------------------------------------------------------------

namespace PayGuard

/- The transaction books nothing, or settles a payment. -/
inductive Books
    (db : Database)
    (draw : Draw)
    (db' : Database) : Prop where
| nothing (hLedger : db'.ledger = db.ledger)
| settlement
    (paymentId : Uuid)
    (amountMinor : Int)
    (hLedger :
      db'.ledger =
        db.ledger ++
          entriesOf (buildPaymentSettledPair paymentId
            amountMinor draw.ledgerTransaction))

variable {db db' : Database}
variable {locked : Option PaymentIntent}
variable {intent moved : PaymentIntent}
variable {keyRow : IdempotencyKey}
variable {keyRowId : Uuid}
variable {providerName : String}
variable {result : ProviderResult}
variable {response : Response}
variable {draw : Draw}

theorem putKey_ledger
    (db : Database)
    (keyRow : IdempotencyKey) :
    (db.putKey keyRow).ledger = db.ledger := by
  rcases putKey_eq db keyRow with ⟨keys, hKeys⟩
  rw [hKeys]

theorem createInsert_ledger
    {indexable : PyString → Bool}
    {request : CreateRequest}
    (hBody :
      createInsert indexable db request keyRow draw =
        .ok (db', intent)) :
    db'.ledger = db.ledger := by
  rcases createInsert_eq_ok hBody with ⟨_, _, rfl⟩
  exact putKey_ledger db keyRow

theorem createProcess_ledger
    (hBody :
      createProcess db locked draw = .ok (db', moved)) :
    db'.ledger = db.ledger := by
  rcases createProcess_eq_ok hBody with ⟨_, _, hApply⟩
  exact (Moved.of_applyTransition hApply).ledger

theorem createBlock_ledger
    (hBody :
      createBlock db locked keyRowId draw =
        .ok (db', response)) :
    db'.ledger = db.ledger := by
  rcases createBlock_eq_ok hBody with
    ⟨_, base, _, _, hApply, rfl, _⟩
  exact (Moved.of_applyTransition hApply).ledger

theorem createFinish_ledger
    (hBody :
      createFinish db locked keyRowId providerName result
        draw = .ok (db', response)) :
    db'.ledger = db.ledger := by
  rcases createFinish_eq_ok hBody with
    ⟨_, _, base, _, _, _, hApply, rfl, _⟩
  exact (Moved.of_applyAuthorizeOutcome hApply).ledger

theorem captureFinish_books
    (hBody :
      captureFinish db intent keyRow result draw =
        .ok (db', response)) :
    Books db draw db' := by
  rcases captureFinish_eq_ok hBody with
    ⟨base, moved, hOutcome, rfl, _⟩
  rcases applyCaptureOutcome_eq_ok hOutcome with
    ⟨_, settled, hApply, rfl⟩ | ⟨_, _, _, _, _, hApply⟩
  · refine .settlement moved.id moved.amountMinor ?_
    rw [← putKey_ledger db keyRow,
      ← (Moved.of_applyTransition hApply).ledger]
    rfl
  · refine .nothing ?_
    rw [← putKey_ledger db keyRow]
    exact (Moved.of_applyTransition hApply).ledger

theorem refundReserve_ledger
    {request : RefundRequest}
    {reservation : Reservation}
    (hBody :
      refundReserve db locked request keyRow draw =
        .ok (db', reservation)) :
    db'.ledger = db.ledger := by
  rcases refundReserve_eq_ok hBody with
    ⟨_, _, _, _, _, _, _, hEnter⟩
  rw [(Moved.of_enterRefundPending hEnter).ledger]
  exact putKey_ledger db keyRow

/- A refund is booked exactly when it went through. -/
theorem refundFinalize_ledger
    {refund : Refund}
    {paymentId : Uuid}
    (hLocked : ∀ intent ∈ locked, intent.id = paymentId)
    (hBody :
      refundFinalize db locked refund keyRowId result draw =
        .ok (db', response)) :
    db'.ledger =
      if finalRefundStatus result.outcome = .succeeded then
        db.ledger ++
          entriesOf (buildRefundSettledPair paymentId
            refund.amountMinor draw.ledgerTransaction)
      else
        db.ledger := by
  rcases refundFinalize_eq_ok hBody with
    ⟨intent, left, moved, body, hSome, hLeave, rfl, _⟩
  have hId := hLocked intent hSome
  calc left.ledger
    _ = (settleRefund db intent refund result.outcome
          draw).ledger :=
        (Moved.of_leaveRefundPending hLeave).ledger
    _ = _ := by
        unfold settleRefund
        simp only [hId]
        split <;> rfl

theorem receiveWebhook_ledger
    (db : Database)
    (delivery : WebhookDelivery)
    (draw : Draw) :
    (receiveWebhook db delivery draw).ledger =
      db.ledger := by
  unfold receiveWebhook
  split
  · rfl
  · rfl

theorem dispatchEffect_books
    {config : Config}
    {webhookEventId : Uuid}
    {plan : WebhookPlan}
    (hBody :
      dispatchEffect config db webhookEventId plan draw =
        .ok db') :
    Books db draw db' := by
  cases plan with
  | skip =>
      cases hBody
      exact .nothing rfl
  | ignore =>
      cases hBody
      exact .nothing rfl
  | outcome targetStatus intent =>
      rcases handlePaymentOutcome_eq_ok hBody with
        ⟨_, _, _, rfl | ⟨_, base, moved, hApply, rfl⟩⟩
      · exact .nothing rfl
      · have hBase := (Moved.of_applyTransition hApply).ledger
        by_cases hTarget : targetStatus = .succeeded
        · refine .settlement moved.id moved.amountMinor ?_
          rw [← hBase]
          simp [setProcessingStatus, settleByWebhook,
            hTarget, recordPaymentSettled, recordPair,
            entriesOf]
        · refine .nothing ?_
          rw [← hBase]
          simp [setProcessingStatus, settleByWebhook,
            hTarget]

theorem reconcileApply_books
    {report : ReconciliationReport}
    (hBody :
      reconcileApply db locked providerName result draw =
        .ok (db', report)) :
    Books db draw db' := by
  rcases reconcileApply_eq_ok hBody with
    ⟨_, _, ⟨rfl, _⟩ | ⟨_, _, _, _, hApply⟩ |
      ⟨_, hResolve⟩⟩
  · exact .nothing rfl
  · exact .nothing (Moved.of_applyTransition hApply).ledger
  · rcases resolve_eq_ok hResolve with
      ⟨_, _, hSucceeded⟩ | ⟨_, _, hFailed⟩
    · rcases resolveSucceeded_eq_ok hSucceeded with
        ⟨_, base, moved, _, _, hApply, rfl⟩
      refine .settlement moved.id moved.amountMinor ?_
      have hBase := (Moved.of_applyTransition hApply).ledger
      change base.ledger = db.ledger at hBase
      rw [← hBase]
      rfl
    · rcases resolveFailed_eq_ok hFailed with
        ⟨_, base, _, _, hApply, rfl⟩
      exact .nothing (Moved.of_applyTransition hApply).ledger

end PayGuard

------------------------------------------------------------
-- One Step
------------------------------------------------------------

namespace PayGuard

/-
  What a step does to the ledger and to the refunds that
  went through.
-/
inductive LedgerStep
    (system : System)
    (call : CallId)
    (draw : Draw)
    (next : System) : Prop where
| books
    (hBooks : Books system.db draw next.db)
    (hSettled :
      ∀ paymentId,
        next.db.settledRefunds paymentId =
          system.db.settledRefunds paymentId)
| refund
    (request : RefundRequest)
    (key : ClaimedKey)
    (reservation : Reservation)
    (result : ProviderResult)
    (hCall :
      system.calls call =
        .refundAnswered request key reservation result)
    (hRefunds :
      next.db.refunds =
        (setRefundStatus system.db reservation.refund.id
          (finalRefundStatus result.outcome)).refunds)
    (hLedger :
      next.db.ledger =
        if finalRefundStatus result.outcome =
            .succeeded then
          system.db.ledger ++
            entriesOf (buildRefundSettledPair
              request.paymentId
              reservation.refund.amountMinor
              draw.ledgerTransaction)
        else
          system.db.ledger)

variable {config : Config}
variable {system next : System}
variable {call : CallId}
variable {draw : Draw}
variable {action : Action}
variable {db db' : Database}

theorem settledRefunds_congr
    (hRefunds : db'.refunds = db.refunds)
    (paymentId : Uuid) :
    db'.settledRefunds paymentId =
      db.settledRefunds paymentId := by
  unfold Database.settledRefunds
  rw [hRefunds]

/- A reservation is no refund that went through. -/
theorem settledRefunds_append
    {refund : Refund}
    (hStatus : refund.status = .pending)
    (hRefunds : db'.refunds = db.refunds ++ [refund])
    (paymentId : Uuid) :
    db'.settledRefunds paymentId =
      db.settledRefunds paymentId := by
  unfold Database.settledRefunds
  rw [hRefunds, List.filter_append]
  simp [hStatus]

/- Books together with refunds that stayed as they were. -/
theorem LedgerStep.of_same
    (hBooks : Books system.db draw next.db)
    (hRefunds : next.db.refunds = system.db.refunds) :
    LedgerStep system call draw next :=
  .books hBooks (settledRefunds_congr hRefunds)

theorem Effect.ledgerStep
    (hEffect :
      Effect config system call draw action next) :
    LedgerStep system call draw next := by
  cases hEffect with
  | quiet hQuiet =>
      exact .of_same (.nothing (by rw [hQuiet.db]))
        (by rw [hQuiet.db])
  | createInsert _ hBody =>
      exact .of_same (.nothing (createInsert_ledger hBody))
        (createInsert_refunds hBody)
  | createProcess _ _ hBody =>
      exact .of_same (.nothing (createProcess_ledger hBody))
        (createProcess_refunds hBody)
  | createAssess _ => exact .of_same (.nothing rfl) rfl
  | createBlock _ _ _ hBody =>
      exact .of_same (.nothing (createBlock_ledger hBody))
        (createBlock_refunds hBody)
  | createFinish _ _ _ hBody =>
      exact .of_same (.nothing (createFinish_ledger hBody))
        (createFinish_refunds hBody)
  | captureSettled _ _ _ =>
      exact .of_same (.nothing (putKey_ledger _ _))
        (putKey_refunds _ _)
  | captureOpen _ _ _ _ => exact .of_same (.nothing rfl) rfl
  | captureFinish _ _ hBody =>
      exact .of_same (captureFinish_books hBody)
        (captureFinish_refunds hBody)
  | refundReserve _ _ hBody =>
      have hRefunds := refundReserve_refunds hBody
      rcases refundReserve_eq_ok hBody with
        ⟨_, _, _, _, _, hRefund, _⟩
      exact .books (.nothing (refundReserve_ledger hBody))
        (settledRefunds_append (by rw [hRefund]) hRefunds)
  | refundAnswer _ _ => exact .of_same (.nothing rfl) rfl
  | refundFinish hCall _ _ hBody =>
      refine .refund _ _ _ _ hCall
        (refundFinalize_refunds hBody)
        (refundFinalize_ledger ?_ hBody)
      intro intent hLocked
      exact lockPayment_id hLocked
  | receiveWebhook _ =>
      exact .of_same (.nothing (receiveWebhook_ledger _ _ _))
        (receiveWebhook_refunds _ _ _)
  | dispatchFinish _ _ hBody =>
      have hRefunds := dispatchEffect_refunds hBody
      cases dispatchEffect_books hBody with
      | nothing hLedger =>
          exact .of_same (.nothing hLedger) hRefunds
      | settlement paymentId amountMinor hLedger =>
          exact .of_same
            (.settlement paymentId amountMinor hLedger)
            hRefunds
  | reconcileApply _ _ hBody =>
      exact .of_same (reconcileApply_books hBody)
        (reconcileApply_refunds hBody)
  | reconcileReport _ => exact .of_same (.nothing rfl) rfl
  | failWrite _ _ => exact .of_same (.nothing rfl) rfl

/- Settling a payment leaves the refund debits alone. -/
theorem Books.refundDebits
    (hBooks : Books db draw db')
    (paymentId : Uuid) :
    db'.refundDebits paymentId =
      db.refundDebits paymentId := by
  unfold Database.refundDebits
  cases hBooks with
  | nothing hLedger => rw [hLedger]
  | settlement settled amountMinor hLedger =>
      rw [hLedger, List.filter_append]
      simp [entriesOf, buildPaymentSettledPair, buildPair,
        LedgerEntry.isRefundDebit]

/- Booking a refund adds its amount to its payment. -/
theorem refundDebits_append
    {refunded : Uuid}
    {amountMinor : Int}
    {transactionId : Uuid}
    (hLedger :
      db'.ledger =
        db.ledger ++
          entriesOf (buildRefundSettledPair refunded
            amountMinor transactionId))
    (paymentId : Uuid) :
    db'.refundDebits paymentId =
      db.refundDebits paymentId ++
        if refunded = paymentId then
          [amountMinor]
        else
          [] := by
  unfold Database.refundDebits
  rw [hLedger, List.filter_append, List.map_append]
  by_cases hPayment : refunded = paymentId
  · simp [entriesOf, buildRefundSettledPair, buildPair,
      LedgerEntry.isRefundDebit, hPayment]
  · simp [entriesOf, buildRefundSettledPair, buildPair,
      LedgerEntry.isRefundDebit, hPayment]

/-
  The final status of a pending refund decides whether its
  amount joins those that went through.
-/
theorem settledRefunds_setRefundStatus
    {refund : Refund}
    {status : RefundStatus}
    (hIds : (db.refunds.map (·.id)).Nodup)
    (hStored : refund ∈ db.refunds)
    (hPending : refund.status = .pending)
    (paymentId : Uuid) :
    ((setRefundStatus db refund.id status).settledRefunds
        paymentId).Perm
      (db.settledRefunds paymentId ++
        if status = .succeeded ∧
            refund.paymentIntentId = paymentId then
          [refund.amountMinor]
        else
          []) := by
  rcases Table.updateWhere_split
      (fun row : Refund => { row with status := status })
      hIds hStored with
    ⟨before, after, hRows, hUpdated⟩
  unfold Database.settledRefunds setRefundStatus
  simp only [hUpdated]
  rw [hRows]
  simp only [List.filter_append, List.filter_cons,
    hPending, List.map_append]
  by_cases hCounts :
      status = .succeeded ∧
        refund.paymentIntentId = paymentId
  · simp only [hCounts, and_self, if_true]
    simp only [decide_true, Bool.and_self, if_true,
      List.map_cons]
    simp only [reduceCtorEq, decide_false, Bool.and_false,
      Bool.false_eq_true, if_false, List.append_assoc]
    exact List.Perm.append_left _
      (List.perm_append_singleton _ _).symm
  · have hNot :
        (decide (refund.paymentIntentId = paymentId) &&
          decide (status = .succeeded)) = false := by
      rw [Bool.and_eq_false_iff]
      simp only [decide_eq_false_iff_not]
      tauto
    simp [hNot, hCounts]

theorem refundLedger_step
    (hHeld : Held system)
    (hFlights : RefundsInFlight system)
    (hLedger : RefundLedger system.db)
    (hAdmits : system.db.Admits draw)
    (hStep : LedgerStep system call draw next) :
    RefundLedger next.db := by
  have hFresh := hAdmits.2.2.2.2.2.2
  cases hStep with
  | books hBooks hSettled =>
      refine ⟨?_, ?_, ?_⟩
      · intro paymentId
        rw [hBooks.refundDebits, hSettled]
        exact hLedger.mirrors paymentId
      · cases hBooks with
        | nothing hSame =>
            rw [hSame]
            exact hLedger.paired
        | settlement paymentId amountMinor hAppended =>
            rw [hAppended]
            exact hLedger.paired.append (by decide) hFresh
      · cases hBooks with
        | nothing hSame =>
            rw [hSame]
            exact hLedger.balanced
        | settlement paymentId amountMinor hAppended =>
            rw [hAppended, buildPaymentSettledPair,
              total_append, total_append, hLedger.balanced]
  | refund request key reservation result hCall hRefunds
      hBooked =>
      have hHolds :=
        hHeld.reserved call reservation (by rw [hCall]; rfl)
      have hFlight :=
        hFlights call request reservation
          (by rw [hCall]; rfl)
      have hSettled :
          ∀ paymentId,
            (next.db.settledRefunds paymentId).Perm
              (system.db.settledRefunds paymentId ++
                if finalRefundStatus result.outcome =
                      .succeeded ∧
                    reservation.refund.paymentIntentId =
                      paymentId then
                  [reservation.refund.amountMinor]
                else
                  []) := by
        intro paymentId
        rw [settledRefunds_congr hRefunds]
        exact settledRefunds_setRefundStatus
          hHeld.refundIds hHolds.1 hHolds.2 paymentId
      by_cases hFinal :
          finalRefundStatus result.outcome = .succeeded
      · rw [if_pos hFinal] at hBooked
        refine ⟨?_, ?_, ?_⟩
        · intro paymentId
          have hPerm := hSettled paymentId
          simp only [hFinal, true_and, hFlight.refund]
            at hPerm
          rw [refundDebits_append hBooked]
          exact ((hLedger.mirrors paymentId).append_right
            _).trans hPerm.symm
        · rw [hBooked]
          exact hLedger.paired.append (by decide) hFresh
        · rw [hBooked, buildRefundSettledPair, total_append,
            total_append, hLedger.balanced]
      · rw [if_neg hFinal] at hBooked
        refine ⟨?_, ?_, ?_⟩
        · intro paymentId
          have hPerm := hSettled paymentId
          simp only [hFinal, false_and, if_false,
            List.append_nil] at hPerm
          unfold Database.refundDebits
          rw [hBooked]
          exact (hLedger.mirrors paymentId).trans hPerm.symm
        · rw [hBooked]
          exact hLedger.paired
        · rw [hBooked]
          exact hLedger.balanced

end PayGuard

------------------------------------------------------------
-- Every Run
------------------------------------------------------------

namespace PayGuard

/-
  In every state the services can reach, the debits of the
  refund liability are the refunds that went through, and
  the ledger balances transaction by transaction.
-/
theorem ledger_mirrors_refunds
    (config : Config)
    (labels : List Label)
    (system : System)
    (hRun :
      Lts.exec (step config) {} labels = some system) :
    RefundLedger system.db := by
  have hKeep :
      ∀ before label after,
        Held before ∧ RefundsInFlight before ∧
            RefundLedger before.db →
          step config before label = some after →
            Held after ∧ RefundsInFlight after ∧
              RefundLedger after.db := by
    rintro before label after ⟨hHeld, hFlights, hLedger⟩
      hStep
    rcases step_effect hStep with ⟨hAdmits, hEffect⟩
    exact ⟨held_effect hHeld hAdmits hEffect,
      refundsInFlight_effect hHeld hFlights hAdmits hEffect,
      refundLedger_step hHeld hFlights hLedger hAdmits
        hEffect.ledgerStep⟩
  have hAll :=
    Lts.invariant_of_exec hKeep
      ⟨held_initial, refundsInFlight_initial,
        refundLedger_initial⟩ hRun
  exact hAll.2.2

/- One refund of payment 1 goes through, another does not. -/
def refundedRun : List Label :=
  capturedRun ++
    [⟨2, .refundBegin
        { merchantId := 1
          paymentId := 1
          idempotencyKey := "refund"
          amountMinor := 40 }, .numbered 8⟩,
      ⟨3, .refundBegin
        { merchantId := 1
          paymentId := 1
          idempotencyKey := "again"
          amountMinor := 25 }, .numbered 9⟩,
      ⟨2, .refundAnswer (.approved "txn") true, .numbered 10⟩,
      ⟨3, .refundAnswer
        { outcome := .declined
          providerTransactionId := none
          rawStatus := "declined" } false, .numbered 11⟩,
      ⟨2, .refundFinish, .numbered 12⟩,
      ⟨3, .refundFinish, .numbered 13⟩]

theorem ledger_mirrors_refunds_forty :
    ∃ system,
      Lts.exec (step { sha256 := spellOut }) {}
          refundedRun = some system ∧
        system.db.settledRefunds 1 = [40] ∧
        system.db.ledger.length = 4 ∧
        RefundLedger system.db := by
  have hRun :
      (Lts.exec (step { sha256 := spellOut }) {}
        refundedRun).map (fun system =>
          (system.db.settledRefunds 1,
            system.db.ledger.length)) =
        some ([40], 4) := by
    decide +kernel
  rcases Option.map_eq_some_iff.mp hRun with
    ⟨system, hExec, hLedger⟩
  rw [Prod.mk.injEq] at hLedger
  exact ⟨system, hExec, hLedger.1, hLedger.2,
    ledger_mirrors_refunds _ _ _ hExec⟩

end PayGuard

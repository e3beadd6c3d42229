import PayGuard.Invariants.HangingRefunds
import PayGuard.Invariants.RefundBalance

/-
  How a batch of concurrent refunds settles its payment.

  The first refund of a batch moves the payment to
  `REFUND_PENDING` and the last one to be finalized moves it
  out again, to where the refunds that went through add up.
  Which call is the last one depends on the interleaving.

  Key definitions include:
    * `BatchStart`
    * `Settles`
    * `refundPhase`
    * `Batch`

  Key theorems include:
    * `batch_step`
    * `refund_batch_settles`
-/

------------------------------------------------------------
-- Refunds Of One Payment
------------------------------------------------------------

namespace PayGuard

/- The refunds of one payment, in their order. -/
def Database.refundsOf
    (db : Database)
    (paymentId : Uuid) : List Refund :=
  db.refunds.filter (fun refund =>
    refund.paymentIntentId = paymentId)

/- The sum of the refunds that went through. -/
def settledAmount (refunds : List Refund) : Int :=
  Table.sumWhere
    (fun refund : Refund => refund.status = .succeeded)
    (·.amountMinor) refunds

/-
  The status of a payment against its refunds: it waits as
  long as one is pending, and else their sum decides.
-/
structure Settles
    (amountMinor : Int)
    (refunds : List Refund)
    (status : PaymentStatus) : Prop where
  waits :
    status = .refundPending ↔
      ∃ refund ∈ refunds, refund.status = .pending
  untouched : refunds = [] → status = .succeeded
  refunded :
    refunds ≠ [] →
      (∀ refund ∈ refunds, refund.status ≠ .pending) →
        (status = .refunded ↔
          settledAmount refunds = amountMinor)
  partially :
    refunds ≠ [] →
      (∀ refund ∈ refunds, refund.status ≠ .pending) →
        (status = .succeeded ↔
          0 < settledAmount refunds ∧
            settledAmount refunds < amountMinor)
  nothing :
    refunds ≠ [] →
      (∀ refund ∈ refunds, refund.status ≠ .pending) →
        (status = .refundFailed ↔
          settledAmount refunds = 0)

------------------------------------------------------------
-- Entries And Exits
------------------------------------------------------------

/-
  Read the events of a payment as entries into
  `REFUND_PENDING` and exits out of it that take turns.
  The answer says whether the last entry is still open.
-/
def refundPhase : Bool → List PaymentEvent → Option Bool
| waiting, [] => some waiting
| false, event :: events =>
    if event.toStatus = .refundPending ∧
        event.fromStatus ≠ some .refundPending then
      refundPhase true events
    else
      none
| true, event :: events =>
    if event.fromStatus = some .refundPending ∧
        event.toStatus ≠ .refundPending then
      refundPhase false events
    else
      none

/- The events of a payment since a moment in the past. -/
def Database.eventsSince
    (db start : Database)
    (paymentId : Uuid) : List PaymentEvent :=
  (db.events.drop start.events.length).filter (fun event =>
    event.paymentIntentId = paymentId)

theorem refundPhase_append
    (waiting : Bool)
    (events : List PaymentEvent)
    (event : PaymentEvent) :
    refundPhase waiting (events ++ [event]) =
      (refundPhase waiting events).bind (fun phase =>
        refundPhase phase [event]) := by
  induction events generalizing waiting with
  | nil =>
      cases waiting <;> rfl
  | cons first events ih =>
      cases waiting with
      | false =>
          simp only [List.cons_append, refundPhase]
          split
          · exact ih true
          · rfl
      | true =>
          simp only [List.cons_append, refundPhase]
          split
          · exact ih false
          · rfl

end PayGuard

------------------------------------------------------------
-- The Start Of A Batch
------------------------------------------------------------

namespace PayGuard

/- The actions of `refund_payment`, its error path included. -/
def Action.ofRefund : Action → Bool
| .refundBegin _ => true
| .refundAnswer _ _ => true
| .refundFinish => true
| .raise _ => true
| .failRead => true
| .failWrite => true
| .die => true
| _ => false

/-
  A captured payment without refunds, in a database that
  keeps its constraints, while no call is in flight.
-/
structure BatchStart
    (payment : PaymentIntent)
    (start : System) : Prop where
  paymentIds : (start.db.payments.map (·.id)).Nodup
  refundIds : (start.db.refunds.map (·.id)).Nodup
  owner :
    ∀ refund ∈ start.db.refunds,
      refund.paymentIntentId ∈
        start.db.payments.map (·.id)
  positive :
    ∀ refund ∈ start.db.refunds, 0 < refund.amountMinor
  rest :
    ∀ call,
      start.calls call = .idle ∨
        ∃ outcome, start.calls call = .done outcome
  stored : payment ∈ start.db.payments
  amount : 0 < payment.amountMinor
  status : payment.status = .succeeded
  untouched :
    ∀ refund ∈ start.db.refunds,
      refund.paymentIntentId ≠ payment.id
  authorized :
    (latestSuccessfulProviderTransaction start.db
      payment.id).isSome = true

/-
  The stored payment agrees with its refunds, and it has
  left the status once for every time it entered it, but
  for the last time where it is still in it.
-/
def BatchSettled
    (payment : PaymentIntent)
    (start db : Database) : Prop :=
  ∃ row ∈ db.payments,
    row.id = payment.id ∧
      row.amountMinor = payment.amountMinor ∧
      Settles payment.amountMinor
        (db.refundsOf payment.id) row.status ∧
      refundPhase false
          (db.eventsSince start payment.id) =
        some (decide (row.status = .refundPending))

/- What the refunds of a payment keep true. -/
structure Batch
    (payment : PaymentIntent)
    (start : System)
    (system : System) : Prop where
  held : Held system
  flights : RefundsInFlight system
  positive :
    ∀ refund ∈ system.db.refunds, 0 < refund.amountMinor
  bounded :
    reservedAmount system.db payment.id ≤
      payment.amountMinor
  grown : start.db.events.length ≤ system.db.events.length
  settled : BatchSettled payment start.db system.db

/- A call that is not in flight holds nothing. -/
theorem BatchStart.holds_nothing
    {payment : PaymentIntent}
    {start : System}
    (hStart : BatchStart payment start)
    (call : CallId) :
    (start.calls call).captured = none ∧
      (start.calls call).reservation = none ∧
      (start.calls call).refunding = none := by
  rcases hStart.rest call with hIdle | ⟨outcome, hDone⟩
  · rw [hIdle]
    exact ⟨rfl, rfl, rfl⟩
  · rw [hDone]
    exact ⟨rfl, rfl, rfl⟩

theorem BatchStart.batch
    {payment : PaymentIntent}
    {start : System}
    (hStart : BatchStart payment start) :
    Batch payment start start where
  held :=
    { captures := by
        constructor <;>
          · intro call intent hCaptured
            rw [(hStart.holds_nothing call).1] at hCaptured
            cases hCaptured
      paymentIds := hStart.paymentIds
      refundIds := hStart.refundIds
      owner := hStart.owner
      reserved := by
        intro call reservation hReservation
        rw [(hStart.holds_nothing call).2.1] at hReservation
        cases hReservation
      distinct := by
        intro call _ reservation _ _ hReservation
        rw [(hStart.holds_nothing call).2.1] at hReservation
        cases hReservation }
  flights := by
    intro call request reservation hRefunding
    rw [(hStart.holds_nothing call).2.2] at hRefunding
    cases hRefunding
  positive := hStart.positive
  bounded := by
    rw [reservedAmount_of_no_refund hStart.untouched]
    exact hStart.amount.le
  grown := le_refl _
  settled := by
    have hNone : start.db.refundsOf payment.id = [] := by
      unfold Database.refundsOf
      rw [List.filter_eq_nil_iff]
      intro refund hRefund
      simpa using hStart.untouched refund hRefund
    refine ⟨payment, hStart.stored, rfl, rfl, ?_, ?_⟩
    · rw [hNone, hStart.status]
      constructor <;> simp
    · simp [Database.eventsSince, refundPhase,
        hStart.status]

end PayGuard

------------------------------------------------------------
-- Sums Over The Refunds Of A Payment
------------------------------------------------------------

namespace PayGuard

variable {db db' : Database}
variable {refund : Refund}
variable {paymentId : Uuid}

theorem mem_refundsOf :
    refund ∈ db.refundsOf paymentId ↔
      refund ∈ db.refunds ∧
        refund.paymentIntentId = paymentId := by
  simp [Database.refundsOf]

theorem refundedAmount_eq
    (db : Database)
    (paymentId : Uuid) :
    refundedAmount db paymentId =
      settledAmount (db.refundsOf paymentId) := by
  unfold refundedAmount settledAmount Database.refundsOf
    Table.sumWhere
  rw [List.filter_filter]
  congr 2
  apply List.filter_congr
  intro refund _
  exact Bool.and_comm _ _

theorem reservedAmount_eq
    (db : Database)
    (paymentId : Uuid) :
    reservedAmount db paymentId =
      Table.sumWhere
        (fun refund : Refund => refund.status.isReserved)
        (·.amountMinor) (db.refundsOf paymentId) := by
  unfold reservedAmount Database.refundsOf Table.sumWhere
  rw [List.filter_filter]
  congr 2
  apply List.filter_congr
  intro refund _
  exact Bool.and_comm _ _

/- No more went through than was reserved. -/
theorem settledAmount_le
    {refunds : List Refund}
    (hPositive : ∀ refund ∈ refunds, 0 < refund.amountMinor) :
    0 ≤ settledAmount refunds ∧
      settledAmount refunds ≤
        Table.sumWhere
          (fun refund : Refund => refund.status.isReserved)
          (·.amountMinor) refunds := by
  induction refunds with
  | nil => exact ⟨le_refl _, le_refl _⟩
  | cons refund refunds ih =>
      rw [List.forall_mem_cons] at hPositive
      have hRest := ih hPositive.2
      unfold settledAmount at hRest ⊢
      rw [Table.sumWhere_cons, Table.sumWhere_cons]
      generalize Table.sumWhere
        (fun refund : Refund => refund.status.isReserved)
        (·.amountMinor) refunds = reserved at hRest ⊢
      cases refund.status <;>
        simp [RefundStatus.isReserved] <;>
        omega

/- Refunds of other payments do not matter. -/
theorem refundsOf_append_of_ne
    (hOther : refund.paymentIntentId ≠ paymentId)
    (hRefunds : db'.refunds = db.refunds ++ [refund]) :
    db'.refundsOf paymentId = db.refundsOf paymentId := by
  unfold Database.refundsOf
  rw [hRefunds, List.filter_append]
  simp [hOther]

theorem refundsOf_append
    (hPayment : refund.paymentIntentId = paymentId)
    (hRefunds : db'.refunds = db.refunds ++ [refund]) :
    db'.refundsOf paymentId =
      db.refundsOf paymentId ++ [refund] := by
  unfold Database.refundsOf
  rw [hRefunds, List.filter_append]
  simp [hPayment]

/- Settling a refund of another payment does not matter. -/
theorem refundsOf_settle_of_ne
    {status : RefundStatus}
    (hIds : (db.refunds.map (·.id)).Nodup)
    (hStored : refund ∈ db.refunds)
    (hOther : refund.paymentIntentId ≠ paymentId)
    (hRefunds :
      db'.refunds =
        (setRefundStatus db refund.id status).refunds) :
    db'.refundsOf paymentId = db.refundsOf paymentId := by
  rcases Table.updateWhere_split
      (fun row : Refund => { row with status := status })
      hIds hStored with
    ⟨before, after, hRows, hUpdated⟩
  unfold Database.refundsOf
  rw [hRefunds]
  unfold setRefundStatus
  simp only [hUpdated]
  rw [hRows, List.filter_append, List.filter_append,
    List.filter_cons_of_neg (by simpa using hOther),
    List.filter_cons_of_neg (by simpa using hOther)]

/- The refund that is settled changes in its place. -/
theorem refundsOf_settle
    {status : RefundStatus}
    (hIds : (db.refunds.map (·.id)).Nodup)
    (hStored : refund ∈ db.refunds)
    (hPayment : refund.paymentIntentId = paymentId)
    (hRefunds :
      db'.refunds =
        (setRefundStatus db refund.id status).refunds) :
    ∃ before after,
      db.refundsOf paymentId = before ++ refund :: after ∧
        db'.refundsOf paymentId =
          before ++ { refund with status := status } ::
            after := by
  rcases Table.updateWhere_split
      (fun row : Refund => { row with status := status })
      hIds hStored with
    ⟨before, after, hRows, hUpdated⟩
  refine ⟨before.filter (fun row =>
      row.paymentIntentId = paymentId),
    after.filter (fun row =>
      row.paymentIntentId = paymentId), ?_, ?_⟩
  · unfold Database.refundsOf
    rw [hRows, List.filter_append,
      List.filter_cons_of_pos (by simpa using hPayment)]
  · unfold Database.refundsOf
    rw [hRefunds]
    unfold setRefundStatus
    simp only [hUpdated]
    rw [List.filter_append,
      List.filter_cons_of_pos (by simpa using hPayment)]

/- The finalizing transaction counts the pending siblings. -/
theorem pendingRefunds_eq_zero :
    pendingRefunds db paymentId = 0 ↔
      ∀ refund ∈ db.refundsOf paymentId,
        refund.status ≠ .pending := by
  unfold pendingRefunds
  rw [List.countP_eq_zero]
  simp only [decide_eq_true_eq, not_and, mem_refundsOf,
    and_imp]

end PayGuard

------------------------------------------------------------
-- One Transaction
------------------------------------------------------------

namespace PayGuard

variable {start db db' : Database}
variable {payment intent moved row : PaymentIntent}
variable {refund : Refund}
variable {toStatus : PaymentStatus}
variable {eventType : String}
variable {draw : Draw}

theorem eventsSince_append
    {event : PaymentEvent}
    (hGrown : start.events.length ≤ db.events.length)
    (hEvents : db'.events = db.events ++ [event])
    (paymentId : Uuid) :
    db'.eventsSince start paymentId =
      db.eventsSince start paymentId ++
        if event.paymentIntentId = paymentId then
          [event]
        else
          [] := by
  unfold Database.eventsSince
  rw [hEvents, List.drop_append_of_le_length hGrown,
    List.filter_append]
  by_cases hPayment : event.paymentIntentId = paymentId
  · simp [hPayment]
  · simp [hPayment]

/- Nothing of the payment has changed. -/
theorem BatchSettled.of_same
    (hSettled : BatchSettled payment start db)
    (hRow :
      ∀ row ∈ db.payments,
        row.id = payment.id → row ∈ db'.payments)
    (hRefunds :
      db'.refundsOf payment.id = db.refundsOf payment.id)
    (hEvents :
      db'.eventsSince start payment.id =
        db.eventsSince start payment.id) :
    BatchSettled payment start db' := by
  rcases hSettled with
    ⟨row, hStored, hId, hAmount, hSettles, hPhase⟩
  refine ⟨row, hRow row hStored hId, hId, hAmount, ?_, ?_⟩
  · rw [hRefunds]
    exact hSettles
  · rw [hEvents]
    exact hPhase

/- Another payment has moved, with one of its refunds. -/
theorem BatchSettled.of_other
    (hSettled : BatchSettled payment start db)
    (hGrown : start.events.length ≤ db.events.length)
    (hOther : intent.id ≠ payment.id)
    (hRefunds :
      db'.refundsOf payment.id = db.refundsOf payment.id)
    (hMoved :
      db'.payments = db.payments ∧ db'.events = db.events ∨
        ∃ toStatus actor eventType draw,
          db'.payments =
              (db.recordTransition intent toStatus actor
                eventType draw).payments ∧
            db'.events =
              (db.recordTransition intent toStatus actor
                eventType draw).events) :
    BatchSettled payment start db' := by
  rcases hMoved with
    ⟨hPayments, hEvents⟩ |
      ⟨toStatus, actor, eventType, draw, hPayments, hEvents⟩
  · refine hSettled.of_same ?_ hRefunds ?_
    · intro row hRow _
      rw [hPayments]
      exact hRow
    · unfold Database.eventsSince
      rw [hEvents]
  · refine hSettled.of_same ?_ hRefunds ?_
    · intro row hRow hId
      rw [hPayments]
      apply Table.mem_updateWhere_of_not_selected hRow
      simp [hId, hOther.symm]
    · rw [eventsSince_append hGrown hEvents]
      simp [hOther]

/- The row of a payment that moves between two statuses. -/
theorem flushPayment_moved
    (hMoves : toStatus ≠ intent.status) :
    (flushPayment intent (intent.moveTo toStatus)
      row).status = toStatus := by
  simp [flushPayment, PaymentIntent.moveTo, hMoves]

/- The payment itself moves. -/
theorem BatchSettled.of_moved
    (hGrown : start.events.length ≤ db.events.length)
    (hStored : row ∈ db.payments)
    (hId : row.id = payment.id)
    (hAmount : row.amountMinor = payment.amountMinor)
    (hObject : intent.id = payment.id)
    (hMoves : toStatus ≠ intent.status)
    (hPhase :
      refundPhase false (db.eventsSince start payment.id) =
        some (decide (intent.status = .refundPending)))
    (hTurn :
      intent.status = .refundPending ∨
        toStatus = .refundPending)
    (hPayments :
      db'.payments =
        (db.recordTransition intent toStatus .api eventType
          draw).payments)
    (hEvents :
      db'.events =
        (db.recordTransition intent toStatus .api eventType
          draw).events)
    (hSettles :
      Settles payment.amountMinor
        (db'.refundsOf payment.id) toStatus) :
    BatchSettled payment start db' := by
  refine ⟨flushPayment intent (intent.moveTo toStatus) row,
    ?_, hId, hAmount, ?_, ?_⟩
  · rw [hPayments]
    refine Table.mem_updateWhere.mpr ⟨row, hStored, ?_⟩
    simp [hId, hObject]
  · rw [flushPayment_moved hMoves]
    exact hSettles
  · rw [eventsSince_append hGrown hEvents,
      if_pos hObject, refundPhase_append, hPhase,
      flushPayment_moved hMoves, Option.bind_some]
    rcases hTurn with hLeaves | hEnters
    · have hAway : toStatus ≠ .refundPending := by
        rw [← hLeaves]
        exact hMoves
      simp [refundPhase, hLeaves, hAway]
    · have hFrom : intent.status ≠ .refundPending := by
        rw [← hEnters]
        exact hMoves.symm
      simp [refundPhase, hEnters, hFrom]

end PayGuard

------------------------------------------------------------
-- Reserving And Finalizing
------------------------------------------------------------

namespace PayGuard

variable {start db db' : Database}
variable {payment intent : PaymentIntent}
variable {refunds : List Refund}
variable {amountMinor : Int}
variable {request : RefundRequest}
variable {reservation : Reservation}
variable {draw : Draw}

/- With a pending refund the payment has to wait. -/
theorem Settles.of_pending
    (hPending :
      ∃ refund ∈ refunds, refund.status = .pending) :
    Settles amountMinor refunds .refundPending := by
  rcases hPending with ⟨refund, hRefund, hStatus⟩
  refine
    { waits := iff_of_true rfl ⟨refund, hRefund, hStatus⟩
      untouched := ?_
      refunded := ?_
      partially := ?_
      nothing := ?_ }
  · rintro rfl
    cases hRefund
  · intro _ hNone
    exact absurd hStatus (hNone refund hRefund)
  · intro _ hNone
    exact absurd hStatus (hNone refund hRefund)
  · intro _ hNone
    exact absurd hStatus (hNone refund hRefund)

/- Where the sum of its refunds puts a payment. -/
def settledStatus
    (amountMinor settled : Int) : PaymentStatus :=
  if amountMinor ≤ settled then
    .refunded
  else if 0 < settled then
    .succeeded
  else
    .refundFailed

theorem settledStatus_ne_refundPending
    (amountMinor settled : Int) :
    settledStatus amountMinor settled ≠ .refundPending := by
  unfold settledStatus
  split
  · simp
  · split
    · simp
    · simp

/- Without a pending refund the sum decides. -/
theorem Settles.of_settled
    (hSome : refunds ≠ [])
    (hNone : ∀ refund ∈ refunds, refund.status ≠ .pending)
    (hAmount : 0 < amountMinor)
    (hNonneg : 0 ≤ settledAmount refunds)
    (hBounded : settledAmount refunds ≤ amountMinor) :
    Settles amountMinor refunds
      (settledStatus amountMinor
        (settledAmount refunds)) := by
  have hWaits :
      ¬ ∃ refund ∈ refunds, refund.status = .pending := by
    rintro ⟨refund, hRefund, hStatus⟩
    exact hNone refund hRefund hStatus
  refine
    { waits := iff_of_false
        (settledStatus_ne_refundPending _ _) hWaits
      untouched := fun hEmpty => absurd hEmpty hSome
      refunded := fun _ _ => ?_
      partially := fun _ _ => ?_
      nothing := fun _ _ => ?_ }
  all_goals
    unfold settledStatus
    split
    · simp
      omega
    · split
      · simp
        omega
      · simp
        omega

/- What the finalizing transaction does to its payment. -/
inductive Finalized
    (db : Database)
    (locked : PaymentIntent)
    (draw : Draw)
    (db' : Database) : Prop where
| stays
    (hOpen :
      locked.status = .refundPending →
        ∃ sibling ∈ db'.refundsOf locked.id,
          sibling.status = .pending)
    (hPayments : db'.payments = db.payments)
    (hEvents : db'.events = db.events)
| leaves
    (eventType : String)
    (hStatus : locked.status = .refundPending)
    (hLast :
      ∀ refund ∈ db'.refundsOf locked.id,
        refund.status ≠ .pending)
    (hPayments :
      db'.payments =
        (db.recordTransition locked
          (settledStatus locked.amountMinor
            (settledAmount (db'.refundsOf locked.id)))
          .api eventType draw).payments)
    (hEvents :
      db'.events =
        (db.recordTransition locked
          (settledStatus locked.amountMinor
            (settledAmount (db'.refundsOf locked.id)))
          .api eventType draw).events)

/- Leaving counts the siblings and then sums them up. -/
theorem leaveRefundPending_eq_ok
    {left : Database}
    {moved : PaymentIntent}
    (hLeave :
      leaveRefundPending db intent draw =
        .ok (left, moved)) :
    ((pendingRefunds db intent.id = 0 ∧
          intent.status = .refundPending) ∧
        ∃ eventType,
          left =
            db.recordTransition intent
              (settledStatus intent.amountMinor
                (refundedAmount db intent.id))
              .api eventType draw) ∨
      (¬ (pendingRefunds db intent.id = 0 ∧
          intent.status = .refundPending) ∧
        left = db) := by
  unfold leaveRefundPending at hLeave
  unfold settledStatus
  split at hLeave
  · rename_i hLast
    refine .inl ⟨hLast, ?_⟩
    split at hLeave
    · rename_i hAll
      rw [if_pos hAll]
      exact ⟨_, (applyTransition_eq_ok.mp hLeave).2.1⟩
    · rename_i hNotAll
      rw [if_neg hNotAll]
      split at hLeave
      · rename_i hSome
        rw [if_pos hSome]
        exact ⟨_, (applyTransition_eq_ok.mp hLeave).2.1⟩
      · rename_i hNothing
        rw [if_neg hNothing]
        exact ⟨_, (applyTransition_eq_ok.mp hLeave).2.1⟩
  · rename_i hNotLast
    cases hLeave
    exact .inr ⟨hNotLast, rfl⟩

theorem refundFinalize_finalized
    {locked : PaymentIntent}
    {refund : Refund}
    {keyRowId : Uuid}
    {result : ProviderResult}
    {response : Response}
    (hBody :
      refundFinalize db (some locked) refund keyRowId result
        draw = .ok (db', response)) :
    Finalized db locked draw db' := by
  rcases refundFinalize_eq_ok hBody with
    ⟨intent, left, moved, body, hSome, hLeave, rfl, _⟩
  cases hSome
  have hBase :=
    settleRefund_sameTrail db locked refund result.outcome
      draw
  have hRefunds :
      left.refundsOf locked.id =
        (settleRefund db locked refund result.outcome
          draw).refundsOf locked.id := by
    unfold Database.refundsOf
    rw [(Moved.of_leaveRefundPending hLeave).refunds]
  rcases leaveRefundPending_eq_ok hLeave with
    ⟨⟨hLast, hStatus⟩, eventType, hLeft⟩ | ⟨hNotLast, hLeft⟩
  · rw [refundedAmount_eq, ← hRefunds] at hLeft
    rw [pendingRefunds_eq_zero, ← hRefunds] at hLast
    have hPayments := congrArg Database.payments hLeft
    have hEvents := congrArg Database.events hLeft
    refine .leaves eventType hStatus hLast ?_ ?_
    · refine hPayments.trans ?_
      simp only [Database.recordTransition, hBase.payments]
      rfl
    · refine hEvents.trans ?_
      simp only [Database.recordTransition, hBase.events]
      rfl
  · have hPayments := congrArg Database.payments hLeft
    have hEvents := congrArg Database.events hLeft
    refine .stays ?_ (hPayments.trans hBase.payments)
      (hEvents.trans hBase.events)
    intro hStatus
    have hSome := fun hNone => hNotLast ⟨hNone, hStatus⟩
    rw [pendingRefunds_eq_zero, ← hRefunds] at hSome
    by_contra hNone
    apply hSome
    intro sibling hSibling hPending
    exact hNone ⟨sibling, hSibling, hPending⟩

theorem refundReserve_settled
    {keyRow : IdempotencyKey}
    (hIds : (db.payments.map (·.id)).Nodup)
    (hGrown : start.events.length ≤ db.events.length)
    (hSettled : BatchSettled payment start db)
    (hBody :
      refundReserve db
        (db.selectPayment request.paymentId
          request.merchantId)
        request keyRow draw = .ok (db', reservation)) :
    BatchSettled payment start db' := by
  have hRefunds := refundReserve_refunds hBody
  rcases refundReserve_eq_ok hBody with
    ⟨intent, hSelect, _, _, _, hRefund, _, hEnter⟩
  have hOwner :
      reservation.refund.paymentIntentId = intent.id := by
    rw [hRefund]
  have hPending : reservation.refund.status = .pending := by
    rw [hRefund]
  have hKey := SameTrail.putKey db keyRow
  by_cases hMine : intent.id = payment.id
  · rw [hMine] at hOwner
    have hWaiting :
        Settles payment.amountMinor
          (db'.refundsOf payment.id) .refundPending := by
      rw [refundsOf_append hOwner hRefunds]
      exact .of_pending ⟨_, List.mem_append_right _
        (List.mem_singleton_self _), hPending⟩
    rcases hSettled with
      ⟨row, hStored, hId, hAmount, _, hPhase⟩
    have hRow : row = intent :=
      List.inj_on_of_nodup_map hIds hStored
        (selectPayment_eq_some hSelect).1
        (hId.trans hMine.symm)
    subst hRow
    unfold enterRefundPending at hEnter
    split at hEnter
    · rename_i hStatus
      cases hEnter
      refine ⟨reservation.intent, ?_, hId, hAmount, ?_, ?_⟩
      · exact hKey.payments ▸ hStored
      · rw [hStatus]
        exact hWaiting
      · rw [← hPhase]
        unfold Database.eventsSince
        simp only [hKey.events]
    · rename_i hStatus
      have hDb := (applyTransition_eq_ok.mp hEnter).2.1
      have hPayments :
          db'.payments =
            (db.recordTransition row .refundPending .api
              "refund.pending" draw).payments := by
        rw [hDb]
        simp only [Database.recordTransition, hKey.payments]
      have hEvents :
          db'.events =
            (db.recordTransition row .refundPending .api
              "refund.pending" draw).events := by
        rw [hDb]
        simp only [Database.recordTransition, hKey.events]
      exact .of_moved hGrown hStored hId hAmount hMine
        (Ne.symm hStatus) hPhase (.inr rfl) hPayments hEvents
        hWaiting
  · refine hSettled.of_other hGrown hMine
      (refundsOf_append_of_ne (by rwa [hOwner]) hRefunds) ?_
    unfold enterRefundPending at hEnter
    split at hEnter
    · cases hEnter
      exact .inl ⟨hKey.payments, hKey.events⟩
    · rcases applyTransition_eq_ok.mp hEnter with
        ⟨_, rfl, _⟩
      refine .inr ⟨.refundPending, .api, "refund.pending",
        draw, ?_, ?_⟩
      · simp only [Database.recordTransition, hKey.payments]
      · simp only [Database.recordTransition, hKey.events]

/- A payment with a pending refund is the one that waits. -/
theorem InFlight.locked_status
    {lockRead : LockRead}
    {row stored locked : PaymentIntent}
    (hIds : (db.payments.map (·.id)).Nodup)
    (hFlight : InFlight db request reservation)
    (hRow : row ∈ db.payments)
    (hId : row.id = request.paymentId)
    (hWaits : row.status = .refundPending)
    (hSelect :
      db.selectPayment request.paymentId
        request.merchantId = some stored)
    (hCurrent : lockRead = .current → locked = stored)
    (hIdentityMap :
      lockRead = .identityMap →
        locked = reservation.intent) :
    locked.status = .refundPending := by
  rcases selectPayment_eq_some hSelect with
    ⟨hStored, hStoredId, _⟩
  cases lockRead with
  | current =>
      have hSame : row = stored :=
        List.inj_on_of_nodup_map hIds hRow hStored
          (hId.trans hStoredId.symm)
      rw [hCurrent rfl, ← hSame]
      exact hWaits
  | identityMap =>
      rw [hIdentityMap rfl]
      exact hFlight.status

theorem refundFinalize_settled
    {lockRead : LockRead}
    {keyRowId : Uuid}
    {result : ProviderResult}
    {response : Response}
    (hIds : (db.payments.map (·.id)).Nodup)
    (hRefundIds : (db.refunds.map (·.id)).Nodup)
    (hGrown : start.events.length ≤ db.events.length)
    (hSettled : BatchSettled payment start db)
    (hFlight : InFlight db request reservation)
    (hStored : reservation.refund ∈ db.refunds)
    (hPending : reservation.refund.status = .pending)
    (hAmount : 0 < payment.amountMinor)
    (hPositive :
      ∀ refund ∈ db'.refunds, 0 < refund.amountMinor)
    (hBounded :
      reservedAmount db' payment.id ≤ payment.amountMinor)
    (hBody :
      refundFinalize db
        (lockPayment lockRead db (some reservation.intent)
          request.paymentId request.merchantId)
        reservation.refund keyRowId result draw =
          .ok (db', response)) :
    BatchSettled payment start db' := by
  have hRefunds := refundFinalize_refunds hBody
  rcases hFlight.lockPayment with
    ⟨row, locked, hSelect, hLocked, hLockedId, hLockedAmount,
      hCurrent, hIdentityMap⟩
  rw [hLocked] at hBody
  have hFinalized := refundFinalize_finalized hBody
  by_cases hMine : request.paymentId = payment.id
  · have hOwner := hFlight.refund.trans hMine
    have hObject := hLockedId.trans hMine
    rcases hSettled with
      ⟨old, hOld, hId, hOldAmount, hSettles, hPhase⟩
    -- its own refund is pending, so the payment waits
    have hOldWaits : old.status = .refundPending :=
      hSettles.waits.mpr ⟨reservation.refund,
        mem_refundsOf.mpr ⟨hStored, hOwner⟩, hPending⟩
    have hStatus :=
      hFlight.locked_status hIds hOld (hId.trans hMine.symm)
        hOldWaits hSelect hCurrent hIdentityMap
    cases hFinalized with
    | stays hOpen hPayments hEvents =>
        have hSibling := hOpen hStatus
        rw [hObject] at hSibling
        refine ⟨old, ?_, hId, hOldAmount, ?_, ?_⟩
        · rw [hPayments]
          exact hOld
        · rw [hOldWaits]
          exact .of_pending hSibling
        · rw [← hPhase]
          unfold Database.eventsSince
          rw [hEvents]
    | leaves eventType _ hLast hPayments hEvents =>
        have hLockedSum :
            locked.amountMinor = payment.amountMinor := by
          have hRow : old = row :=
            List.inj_on_of_nodup_map hIds hOld
              (selectPayment_eq_some hSelect).1
              (by rw [hId, hMine.symm,
                (selectPayment_eq_some hSelect).2.1])
          rw [hLockedAmount, ← hRow, hOldAmount]
        rw [hObject] at hLast
        rw [hLockedSum, hObject] at hPayments hEvents
        have hSome : db'.refundsOf payment.id ≠ [] := by
          rcases refundsOf_settle hRefundIds hStored hOwner
              hRefunds with
            ⟨before, after, _, hNext⟩
          rw [hNext]
          simp
        have hSums :
            0 ≤ settledAmount (db'.refundsOf payment.id) ∧
              settledAmount (db'.refundsOf payment.id) ≤
                reservedAmount db' payment.id := by
          rw [reservedAmount_eq]
          exact settledAmount_le (fun refund hRefund =>
            hPositive refund (mem_refundsOf.mp hRefund).1)
        refine .of_moved hGrown hOld hId hOldAmount hObject
          ?_ ?_ (.inl hStatus) hPayments hEvents
          (.of_settled hSome hLast hAmount hSums.1
            (hSums.2.trans hBounded))
        · rw [hStatus]
          exact settledStatus_ne_refundPending _ _
        · rw [hPhase, hOldWaits, hStatus]
  · have hOwner :
        reservation.refund.paymentIntentId ≠ payment.id := by
      rwa [hFlight.refund]
    refine hSettled.of_other hGrown (by rwa [hLockedId])
      (refundsOf_settle_of_ne hRefundIds hStored hOwner
        hRefunds) ?_
    cases hFinalized with
    | stays _ hPayments hEvents =>
        exact .inl ⟨hPayments, hEvents⟩
    | leaves eventType _ _ hPayments hEvents =>
        exact .inr ⟨_, _, eventType, draw, hPayments,
          hEvents⟩

end PayGuard

------------------------------------------------------------
-- One Step
------------------------------------------------------------

namespace PayGuard

variable {config : Config}
variable {start system next : System}
variable {payment : PaymentIntent}
variable {label : Label}

/- Events are only ever added. -/
theorem TrailStep.events_grow
    {call : CallId}
    {db : Database}
    (hTrail : TrailStep config system call db) :
    system.db.events.length ≤ db.events.length := by
  cases hTrail with
  | same hSame => rw [hSame.events]
  | create intent draw _ _ _ _ _ hEvents _ =>
      rw [hEvents, List.length_append]
      exact Nat.le_add_right _ _
  | move intent _ _ hMove =>
      cases hMove with
      | stay hSame => rw [hSame.events]
      | move toStatus actor eventType draw _ hSame =>
          rw [hSame.events]
          simp [Database.recordTransition]

/- The reserved part stays within the amount. -/
theorem Batch.bounded_step
    {call : CallId}
    {action : Action}
    (hBatch : Batch payment start system)
    (hRefund : RefundStep system call action next) :
    reservedAmount next.db payment.id ≤
      payment.amountMinor := by
  rcases hRefund.reservedAmount_le hBatch.held
      hBatch.positive payment.id with
    hLe | ⟨intent, hIntent, hId, hLe⟩
  · exact hLe.trans hBatch.bounded
  · rcases hBatch.settled with
      ⟨row, hRow, hRowId, hAmount, _⟩
    have hSame : intent = row :=
      List.inj_on_of_nodup_map hBatch.held.paymentIds
        hIntent hRow (hId.trans hRowId.symm)
    rw [← hAmount, ← hSame]
    exact hLe

theorem batch_step
    (hAmount : 0 < payment.amountMinor)
    (hOfRefund : label.action.ofRefund = true)
    (hBatch : Batch payment start system)
    (hStep : step config system label = some next) :
    Batch payment start next := by
  rcases step_effect hStep with ⟨hAdmits, hEffect⟩
  have hTrail :=
    hEffect.trailStep hBatch.held.captures hAdmits
  have hRefund := hEffect.refundStep hAdmits
  have hPositive := hRefund.positive hBatch.positive
  have hBounded := hBatch.bounded_step hRefund
  refine
    { held := held_effect hBatch.held hAdmits hEffect
      flights :=
        refundsInFlight_effect hBatch.held hBatch.flights
          hAdmits hEffect
      positive := hPositive
      bounded := hBounded
      grown := hBatch.grown.trans hTrail.events_grow
      settled := ?_ }
  have hSame :
      next.db.payments = system.db.payments →
        next.db.refunds = system.db.refunds →
          next.db.events = system.db.events →
            BatchSettled payment start.db next.db := by
    intro hPayments hRefunds hEvents
    refine hBatch.settled.of_same ?_ ?_ ?_
    · intro row hRow _
      rw [hPayments]
      exact hRow
    · unfold Database.refundsOf
      rw [hRefunds]
    · unfold Database.eventsSince
      rw [hEvents]
  generalize label.action = action at hEffect hOfRefund
  cases hEffect with
  | quiet hQuiet =>
      exact hSame (by rw [hQuiet.db]) (by rw [hQuiet.db])
        (by rw [hQuiet.db])
  | refundAnswer _ _ => exact hSame rfl rfl rfl
  | failWrite _ _ => exact hSame rfl rfl rfl
  | refundReserve _ _ hBody =>
      exact refundReserve_settled hBatch.held.paymentIds
        hBatch.grown hBatch.settled hBody
  | refundFinish hCall _ _ hBody =>
      have hReserved :=
        hBatch.held.reserved label.call _
          (by rw [hCall]; rfl)
      have hFlight :=
        hBatch.flights label.call _ _ (by rw [hCall]; rfl)
      exact refundFinalize_settled hBatch.held.paymentIds
        hBatch.held.refundIds hBatch.grown hBatch.settled
        hFlight hReserved.1 hReserved.2 hAmount hPositive
        hBounded hBody
  | _ => cases hOfRefund

end PayGuard

------------------------------------------------------------
-- Every Run
------------------------------------------------------------

namespace PayGuard

/- A finalizing step ends its call with a response. -/
def FinalizesCleanly
    (config : Config)
    (system : System) : Prop :=
  ∀ label next,
    label.action = .refundFinish →
      step config system label = some next →
        ∃ status body,
          next.calls label.call =
            .done (.response status body)

theorem Batch.finalizesCleanly
    {config : Config}
    {payment : PaymentIntent}
    {start system : System}
    (hBatch : Batch payment start system) :
    FinalizesCleanly config system := by
  intro label next hAction hStep
  cases hCall : system.calls label.call with
  | refundAnswered request key reservation result =>
      have hRefunding :
          (system.calls label.call).refunding =
            some (request, reservation) := by
        rw [hCall]
        rfl
      have hRefunds :=
        step_refunding hBatch.flights hRefunding hStep
      rw [hAction] at hRefunds
      cases hRefunds with
      | finish _ _ _ =>
          exact ⟨_, _, System.commit_calls_self _ _ _ _⟩
  | _ =>
      unfold step at hStep
      split at hStep
      · simp [callStep, hAction, stepRefundFinish, hCall]
          at hStep
      · cases hStep

/-
  Whatever the amounts, the answers and the interleaving of
  the refunds of a captured payment, in every state between
  two of their steps the payment agrees with its refunds,
  entries and exits take turns, and no finalizing step fails.
-/
theorem refund_batch_settles
    (config : Config)
    (payment : PaymentIntent)
    (start : System)
    (labels : List Label)
    (system : System)
    (hStart : BatchStart payment start)
    (hRefunds :
      ∀ label ∈ labels, label.action.ofRefund = true)
    (hRun :
      Lts.exec (step config) start labels = some system) :
    BatchSettled payment start.db system.db ∧
      FinalizesCleanly config system := by
  have hMeets :
      Lts.Meets (step config)
        (fun _ label => label.action.ofRefund = true) start
        labels :=
    Lts.meets_of_forall (fun label hLabel _ =>
      hRefunds label hLabel)
  have hBatch :=
    Lts.invariant_of_meets
      (fun _ _ _ hBatch hOfRefund hStep =>
        batch_step hStart.amount hOfRefund hBatch hStep)
      hStart.batch hMeets hRun
  exact ⟨hBatch.settled, hBatch.finalizesCleanly⟩

/- The database after payment 1 has been captured. -/
def capturedDatabase : Database :=
  ((Lts.exec (step { sha256 := spellOut }) {}
    capturedRun).map (·.db)).getD {}

def capturedPayment : PaymentIntent where
  id := 1
  merchantId := 1
  amountMinor := 100
  currency := "USD"
  merchantReference := none
  status := .succeeded
  version := 3
  createdAt := 0

/- Two refunds overlap, and the second one is declined. -/
def refundBatch : List Label :=
  [⟨2, .refundBegin
      { merchantId := 1
        paymentId := 1
        idempotencyKey := "refund"
        amountMinor := 40 }, .numbered 8⟩,
    ⟨3, .refundBegin
      { merchantId := 1
        paymentId := 1
        idempotencyKey := "again"
        amountMinor := 25 }, .numbered 9⟩,
    ⟨2, .refundAnswer (.approved "txn") true, .numbered 10⟩,
    ⟨3, .refundAnswer
      { outcome := .declined
        providerTransactionId := none
        rawStatus := "declined" } false, .numbered 11⟩,
    ⟨2, .refundFinish, .numbered 12⟩,
    ⟨3, .refundFinish, .numbered 13⟩]

theorem refund_batch_settles_forty :
    ∃ system,
      Lts.exec (step { sha256 := spellOut })
          { db := capturedDatabase } refundBatch =
            some system ∧
        settledAmount (system.db.refundsOf 1) = 40 ∧
        system.db.payments.map (·.status) = [.succeeded] ∧
        BatchSettled capturedPayment capturedDatabase
          system.db ∧
        FinalizesCleanly { sha256 := spellOut } system := by
  have hStart :
      BatchStart capturedPayment
        { db := capturedDatabase } :=
    { paymentIds := by decide +kernel
      refundIds := by decide +kernel
      owner := by decide +kernel
      positive := by decide +kernel
      rest := fun _ => .inl rfl
      stored := by decide +kernel
      amount := by decide
      status := rfl
      untouched := by decide +kernel
      authorized := by decide +kernel }
  have hRun :
      (Lts.exec (step { sha256 := spellOut })
        { db := capturedDatabase } refundBatch).map
          (fun system =>
            (settledAmount (system.db.refundsOf 1),
              system.db.payments.map (·.status))) =
        some (40, [.succeeded]) := by
    decide +kernel
  rcases Option.map_eq_some_iff.mp hRun with
    ⟨system, hExec, hSettled⟩
  rw [Prod.mk.injEq] at hSettled
  have hBatch :=
    refund_batch_settles _ _ _ _ _ hStart
      (by decide) hExec
  exact ⟨system, hExec, hSettled.1, hSettled.2, hBatch.1,
    hBatch.2⟩

end PayGuard

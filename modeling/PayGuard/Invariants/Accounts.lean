import PayGuard.Invariants.DashboardVolumes
import PayGuard.Invariants.Histories
import PayGuard.Invariants.RefundBalance
import PayGuard.Invariants.RefundLedger
import PayGuard.Invariants.Settlement
import PayGuard.System.Lifecycle

/-
  No refund is paid out of nothing.

  A payment has three accounts.  What its capture debits to
  the merchant is credited to the clearing account, and what
  its refunds debit to the liability is credited to the
  merchant.  The refunds never take back more than the
  captures brought in, also where a payment is settled twice
  or a lock has returned an old object.

  Key definitions include:
    * `Database.booked`
    * `Contra`
    * `Database.Funds`
    * `Funded`

  Key theorems include:
    * `Effect.payStep`
    * `solvent_step`
    * `receivable_covers_refunds`
-/

------------------------------------------------------------
-- Accounts
------------------------------------------------------------

namespace PayGuard

/- What one account of a payment was debited or credited. -/
def Database.booked
    (db : Database)
    (paymentId : Uuid)
    (account : Account)
    (direction : Direction) : Int :=
  Table.sumWhere
    (fun entry : LedgerEntry =>
      entry.paymentIntentId = paymentId &&
        (entry.account = account &&
          entry.direction = direction))
    (·.amountMinor) db.ledger

/- What is debited to one account is credited to another. -/
structure Contra
    (db : Database)
    (paymentId : Uuid) : Prop where
  clearing :
    db.booked paymentId .paymentClearing .credit =
      db.booked paymentId .merchantReceivable .debit
  liability :
    db.booked paymentId .refundLiability .debit =
      db.booked paymentId .merchantReceivable .credit
  neverCleared :
    db.booked paymentId .paymentClearing .debit = 0
  neverReleased :
    db.booked paymentId .refundLiability .credit = 0

/- The merchant was debited this amount for the payment. -/
def Database.Funds
    (db : Database)
    (paymentId : Uuid)
    (amountMinor : Int) : Prop :=
  ∃ entry ∈ db.ledger,
    entry.paymentIntentId = paymentId ∧
      entry.account = .merchantReceivable ∧
        entry.direction = .debit ∧
          entry.amountMinor = amountMinor

variable {db db' : Database}
variable {system next : System}
variable {call : CallId}
variable {draw : Draw}
variable {debited credited : Account}
variable {settled transactionId : Uuid}
variable {amountMinor : Int}

theorem contra_initial (paymentId : Uuid) :
    Contra {} paymentId :=
  ⟨rfl, rfl, rfl, rfl⟩

theorem booked_congr
    (hLedger : db'.ledger = db.ledger) :
    db'.booked = db.booked := by
  funext paymentId account direction
  unfold Database.booked
  rw [hLedger]

/- The debit of a pair. -/
theorem booked_debit
    (hLedger :
      db'.ledger =
        db.ledger ++
          entriesOf (buildPair debited credited settled
            amountMinor transactionId))
    (paymentId : Uuid)
    (account : Account) :
    db'.booked paymentId account .debit =
      db.booked paymentId account .debit +
        if settled = paymentId ∧ debited = account then
          amountMinor
        else
          0 := by
  unfold Database.booked
  rw [hLedger, Table.sumWhere_append]
  by_cases hBoth : settled = paymentId ∧ debited = account
  · simp [Table.sumWhere, entriesOf, buildPair, hBoth]
  · rw [not_and] at hBoth
    by_cases hPayment : settled = paymentId
    · simp [Table.sumWhere, entriesOf, buildPair, hPayment,
        hBoth hPayment]
    · simp [Table.sumWhere, entriesOf, buildPair, hPayment]

/- And its credit. -/
theorem booked_credit
    (hLedger :
      db'.ledger =
        db.ledger ++
          entriesOf (buildPair debited credited settled
            amountMinor transactionId))
    (paymentId : Uuid)
    (account : Account) :
    db'.booked paymentId account .credit =
      db.booked paymentId account .credit +
        if settled = paymentId ∧ credited = account then
          amountMinor
        else
          0 := by
  unfold Database.booked
  rw [hLedger, Table.sumWhere_append]
  by_cases hBoth : settled = paymentId ∧ credited = account
  · simp [Table.sumWhere, entriesOf, buildPair, hBoth]
  · rw [not_and] at hBoth
    by_cases hPayment : settled = paymentId
    · simp [Table.sumWhere, entriesOf, buildPair, hPayment,
        hBoth hPayment]
    · simp [Table.sumWhere, entriesOf, buildPair, hPayment]

theorem Contra.congr
    {paymentId : Uuid}
    (hContra : Contra db paymentId)
    (hLedger : db'.ledger = db.ledger) :
    Contra db' paymentId := by
  have hBooked := booked_congr hLedger
  constructor
  · rw [hBooked, hContra.clearing]
  · rw [hBooked, hContra.liability]
  · rw [hBooked, hContra.neverCleared]
  · rw [hBooked, hContra.neverReleased]

/- A capture and a refund each book such a pair. -/
theorem Contra.append
    {paymentId : Uuid}
    (hContra : Contra db paymentId)
    (hAccounts :
      (debited = .merchantReceivable ∧
          credited = .paymentClearing) ∨
        (debited = .refundLiability ∧
          credited = .merchantReceivable))
    (hLedger :
      db'.ledger =
        db.ledger ++
          entriesOf (buildPair debited credited settled
            amountMinor transactionId)) :
    Contra db' paymentId := by
  have hDebit := booked_debit hLedger paymentId
  have hCredit := booked_credit hLedger paymentId
  constructor
  · rw [hCredit, hDebit, hContra.clearing]
    rcases hAccounts with ⟨rfl, rfl⟩ | ⟨rfl, rfl⟩
    · simp
    · simp
  · rw [hDebit, hCredit, hContra.liability]
    rcases hAccounts with ⟨rfl, rfl⟩ | ⟨rfl, rfl⟩
    · simp
    · simp
  · rw [hDebit, hContra.neverCleared]
    rcases hAccounts with ⟨rfl, rfl⟩ | ⟨rfl, rfl⟩
    · simp
    · simp
  · rw [hCredit, hContra.neverReleased]
    rcases hAccounts with ⟨rfl, rfl⟩ | ⟨rfl, rfl⟩
    · simp
    · simp

theorem LedgerStep.contra
    (hStep : LedgerStep system call draw next)
    {paymentId : Uuid}
    (hContra : Contra system.db paymentId) :
    Contra next.db paymentId := by
  cases hStep with
  | books hBooks _ =>
      cases hBooks with
      | nothing hLedger => exact hContra.congr hLedger
      | settlement _ _ hLedger =>
          exact hContra.append (.inl ⟨rfl, rfl⟩) hLedger
  | refund _ _ _ _ _ _ hLedger =>
      split at hLedger
      · exact hContra.append (.inr ⟨rfl, rfl⟩) hLedger
      · exact hContra.congr hLedger

/- What has been debited stays debited. -/
theorem Database.Funds.later
    {paymentId : Uuid}
    (hFunds : db.Funds paymentId amountMinor)
    (hExtends : db.Extends db') :
    db'.Funds paymentId amountMinor := by
  rcases hFunds with ⟨entry, hEntry, hRest⟩
  exact ⟨entry, hExtends.ledger.subset hEntry, hRest⟩

end PayGuard

------------------------------------------------------------
-- Paying
------------------------------------------------------------

namespace PayGuard

/- The payment object a call holds, or a dispatch planned. -/
def Call.sighted : Call → Option PaymentIntent
| .dispatchOpen _ _ (.outcome _ intent) => some intent
| position => position.object

/-
  What a transaction that holds `intent` does to payments
  and settlements, timely or late.
-/
inductive Pays
    (db : Database)
    (intent : PaymentIntent)
    (db' : Database) : Prop where
| stay (hSame : SameSettlement db db')
| move
    (toStatus : PaymentStatus)
    (hSettled :
      toStatus.Settled → intent.status.Settled)
    (hPayments :
      db'.payments = movedPayments db intent toStatus)
    (hSettlement :
      ∀ paymentId,
        db'.settlementOf paymentId =
          db.settlementOf paymentId)
| settle
    (draw : Draw)
    (hSource : intent.status ≠ .succeeded)
    (hPayments :
      db'.payments = movedPayments db intent .succeeded)
    (hSettlement :
      ∀ paymentId,
        db'.settlementOf paymentId =
          (recordPaymentSettled db intent.id
            intent.amountMinor draw).settlementOf paymentId)

/- And what a step does to them. -/
inductive PayStep
    (config : Config)
    (system : System)
    (call : CallId)
    (db : Database) : Prop where
| same (hSame : SameSettlement system.db db)
| create
    (intent : PaymentIntent)
    (hStatus : intent.status = .created)
    (hPayments :
      db.payments = system.db.payments ++ [intent])
    (hSettlement :
      ∀ paymentId,
        db.settlementOf paymentId =
          system.db.settlementOf paymentId)
| pays
    (intent : PaymentIntent)
    (hObject :
      intent ∈ system.db.payments ∨
        (system.calls call).sighted = some intent)
    (hRow :
      config.lockRead = .current →
        intent ∈ system.db.payments)
    (hPays : Pays system.db intent db)

variable {config : Config}
variable {system next : System}
variable {call : CallId}
variable {draw : Draw}
variable {action : Action}
variable {db db' : Database}
variable {intent object : PaymentIntent}

theorem Call.sighted_of_object
    {position : Call}
    (hObject : position.object = some object) :
    position.sighted = some object := by
  cases position with
  | dispatchOpen => cases hObject
  | _ => exact hObject

/- Nothing goes from `SUCCEEDED` to `SUCCEEDED`. -/
theorem source_ne_succeeded
    {actor : Actor}
    (hValid :
      isValidPaymentTransition intent.status .succeeded
        (some actor) = true) :
    intent.status ≠ .succeeded := by
  intro hStatus
  rw [hStatus] at hValid
  cases actor <;> cases hValid

theorem SettleMove.pays
    (hMove : SettleMove db intent db') :
    Pays db intent db' := by
  cases hMove with
  | stay hSame => exact .stay hSame
  | move toStatus actor hValid hRefund hPayments
      hSettlement =>
      exact .move toStatus
        (settled_iff_of_isValid hValid hRefund).mp hPayments
        hSettlement
  | settle actor draw hValid _ hPayments hSettlement =>
      exact .settle draw (source_ne_succeeded hValid)
        hPayments hSettlement

theorem SettleStep.payStep
    (hStep : SettleStep system.db db) :
    PayStep config system call db := by
  cases hStep with
  | same hSame => exact .same hSame
  | create intent _ hStatus hPayments hSettlement =>
      exact .create intent hStatus hPayments hSettlement
  | move intent hRow hMove =>
      exact .pays intent (.inl hRow) (fun _ => hRow)
        hMove.pays

theorem Pays.andThen
    {db'' : Database}
    (hPays : Pays db intent db')
    (hSame : SameSettlement db' db'') :
    Pays db intent db'' := by
  cases hPays with
  | stay hFirst => exact .stay (hFirst.trans hSame)
  | move toStatus hSettled hPayments hSettlement =>
      exact .move toStatus hSettled
        (hSame.payments.trans hPayments)
        (fun paymentId =>
          (hSame.settlement paymentId).trans
            (hSettlement paymentId))
  | settle draw hSource hPayments hSettlement =>
      exact .settle draw hSource
        (hSame.payments.trans hPayments)
        (fun paymentId =>
          (hSame.settlement paymentId).trans
            (hSettlement paymentId))

/- A webhook pays whatever the payment was waiting for. -/
theorem handlePaymentOutcome_pays
    {locked : Option PaymentIntent}
    {webhookEventId : Uuid}
    {targetStatus : PaymentStatus}
    (hBody :
      handlePaymentOutcome db locked webhookEventId
        targetStatus draw = .ok db') :
    ∃ intent,
      locked = some intent ∧ Pays db intent db' := by
  rcases handlePaymentOutcome_eq_ok hBody with
    ⟨intent, status, hLocked, rfl |
      ⟨_, base, moved, hApply, rfl⟩⟩
  · exact ⟨intent, hLocked,
      .stay (SameSettlement.of_eq rfl rfl)⟩
  · refine ⟨intent, hLocked, ?_⟩
    by_cases hTarget : targetStatus = .succeeded
    · subst hTarget
      rcases applyTransition_eq_ok.mp hApply with
        ⟨hValid, rfl, rfl⟩
      refine .settle draw (source_ne_succeeded hValid) rfl ?_
      intro paymentId
      simp only [settleByWebhook, if_true]
      rw [recordPaymentSettled_settlementOf]
      exact recordPaymentSettled_settlementOf _ _ _ _ _
    · have hMove :=
        SettleMove.of_applyTransition hApply
          (fun h => absurd h hTarget)
      simp only [settleByWebhook, hTarget, if_false]
      exact hMove.pays.andThen (SameSettlement.of_eq rfl rfl)

theorem dispatchEffect_payStep
    {outboxEventId webhookEventId : Uuid}
    {plan : WebhookPlan}
    (hCall :
      system.calls call =
        .dispatchOpen outboxEventId webhookEventId plan)
    (hBody :
      dispatchEffect config system.db webhookEventId plan
        draw = .ok db)
    (hSame : SameSettlement db db') :
    PayStep config system call db' := by
  cases plan with
  | skip =>
      cases hBody
      exact .same hSame
  | ignore =>
      cases hBody
      have hIgnored :
          SameSettlement system.db
            (setProcessingStatus system.db webhookEventId
              .ignored) :=
        .of_eq rfl rfl
      exact .same (hIgnored.trans hSame)
  | outcome targetStatus planned =>
      rcases handlePaymentOutcome_pays hBody with
        ⟨intent, hLocked, hPays⟩
      refine .pays intent ?_ ?_ (hPays.andThen hSame)
      · rcases lockPayment_stored_or_held hLocked with
          hRow | rfl
        · exact .inl hRow
        · exact .inr (by rw [hCall]; rfl)
      · intro hCurrent
        rw [hCurrent, lockPayment_current] at hLocked
        exact (selectPayment_eq_some hLocked).1

theorem Effect.payStep
    (hHeld : CapturesHeld system)
    (hAdmits : system.db.Admits draw)
    (hEffect :
      Effect config system call draw action next) :
    PayStep config system call next.db := by
  by_cases hDispatch : action = .dispatchFinish
  · subst hDispatch
    cases hEffect with
    | quiet hQuiet =>
        rw [hQuiet.db]
        exact .same (SameSettlement.refl _)
    | dispatchFinish hCall _ hBody =>
        exact dispatchEffect_payStep hCall hBody
          (SameSettlement.of_eq rfl rfl)
  · have hSettles :=
      hEffect.settlesLocked hHeld hAdmits
        (fun h => absurd h hDispatch)
    cases hSettles with
    | step hStep => exact hStep.payStep
    | kept intent hRead _ hObject hMove =>
        refine .pays intent
          (.inr (Call.sighted_of_object hObject)) ?_
          hMove.pays
        intro hCurrent
        rw [hCurrent] at hRead
        cases hRead

end PayGuard

------------------------------------------------------------
-- Sighted Objects
------------------------------------------------------------

namespace PayGuard

/- Where the object a step ends with comes from. -/
inductive Sighting
    (system : System)
    (call : CallId)
    (object : PaymentIntent)
    (next : System) : Prop where
| stored (hRow : object ∈ next.db.payments)
| kept
    (hBefore : (system.calls call).sighted = some object)
| moved
    (held : PaymentIntent)
    (hBefore : (system.calls call).sighted = some held)
    (hId : object.id = held.id)
    (hAmount : object.amountMinor = held.amountMinor)
    (hOpen : ¬ object.status.Settled)

variable {config : Config}
variable {system next : System}
variable {call : CallId}
variable {draw : Draw}
variable {action : Action}
variable {object : PaymentIntent}

/- A dispatch plans to change a stored payment. -/
theorem mem_of_dispatchPlan
    {db : Database}
    {event : OutboxEvent}
    {pick : Uuid}
    {targetStatus : PaymentStatus}
    (hPlan :
      (dispatchPlan db event pick).2 =
        .outcome targetStatus object) :
    object ∈ db.payments := by
  rcases dispatchPlan_eq_outcome hPlan with
    ⟨_, _, _, _, _, _, _, _, hPick⟩
  exact List.mem_of_mem_filter (mem_of_limitOne hPick)

theorem Turn.sighted_origin
    {position : Call}
    (hTurn : Turn config system call draw action position)
    (hSighted : position.sighted = some object) :
    object ∈ system.db.payments ∨
      (system.calls call).sighted = some object := by
  have hSame :
      position.object = some object →
        object ∈ system.db.payments ∨
          (system.calls call).sighted = some object := by
    intro hObject
    rcases hTurn.object_origin hObject with hRow | hHeld
    · exact .inl hRow
    · exact .inr (Call.sighted_of_object hHeld)
  cases hTurn with
  | @dispatched outboxEventId pick event hFind =>
      cases hPlan : (dispatchPlan system.db event pick).2 with
      | skip =>
          rw [hPlan] at hSighted
          cases hSighted
      | ignore =>
          rw [hPlan] at hSighted
          cases hSighted
      | outcome target found =>
          rw [hPlan] at hSighted
          cases hSighted
          exact .inl (mem_of_dispatchPlan hPlan)
  | @begun _ _ _ check hCheck =>
      cases check with
      | report finding => cases hSighted
      | ask found key => exact hSame hSighted
  | @continued _ _ check _ hCheck =>
      cases check with
      | report finding => cases hSighted
      | ask found key => exact hSame hSighted
  | _ => exact hSame hSighted

theorem Effect.sighting
    (hEffect :
      Effect config system call draw action next)
    (hSighted :
      (next.calls call).sighted = some object) :
    Sighting system call object next := by
  cases hEffect with
  | quiet hQuiet hTurn =>
      rcases hTurn.sighted_origin hSighted with hRow | hSame
      · exact .stored (by rwa [hQuiet.db])
      · exact .kept hSame
  | createInsert hClaims hBody =>
      rcases createInsert_eq_ok hBody with ⟨_, _, rfl⟩
      simp only [System.recordOrigin_calls,
        System.commit_calls_self] at hSighted
      cases hSighted
      exact .stored (List.mem_append_right _
        (List.mem_singleton_self _))
  | createProcess hCall hFree hBody =>
      rcases createProcess_eq_ok hBody with
        ⟨intent, hLocked, hApply⟩
      rcases applyTransition_eq_ok.mp hApply with
        ⟨_, rfl, rfl⟩
      rw [System.commit_calls_self] at hSighted
      cases hSighted
      rcases lockPayment_stored_or_held hLocked with
        hRow | rfl
      · exact .stored (mem_recordTransition _ _ _ hRow)
      · exact .moved intent (by rw [hCall]; rfl) rfl rfl
          (by simp [PaymentIntent.moveTo,
            PaymentStatus.Settled])
  | createAssess hCall =>
      rw [System.commit_calls_self] at hSighted
      exact .kept (by rw [hCall]; exact hSighted)
  | captureOpen hClaims hFree hSelect _ _ =>
      simp only [System.become_calls_self] at hSighted
      cases hSighted
      exact .stored (selectPayment_eq_some hSelect).1
  | refundReserve hClaims hFree hBody =>
      rcases refundReserve_eq_ok hBody with
        ⟨intent, hSelect, _, _, _, _, _, hEnter⟩
      simp only [System.recordOrigin_calls,
        System.commit_calls_self] at hSighted
      cases hSighted
      have hRow := (selectPayment_eq_some hSelect).1
      rcases putKey_eq system.db _ with ⟨keys, hKeys⟩
      rw [hKeys] at hEnter
      exact .stored (mem_enterRefundPending hEnter hRow)
  | refundAnswer hCall hExecuted =>
      rw [System.observe_calls, System.become_calls_self]
        at hSighted
      exact .kept (by rw [hCall]; exact hSighted)
  | _ =>
      simp only [System.commit_calls_self] at hSighted
      cases hSighted

end PayGuard

------------------------------------------------------------
-- Funded Payments
------------------------------------------------------------

namespace PayGuard

/-
  Whatever looks settled has been debited to the merchant,
  and so has whatever has a refund.
-/
structure Funded (system : System) : Prop where
  entries :
    ∀ entry ∈ system.db.ledger, 0 < entry.amountMinor
  rows :
    ∀ payment ∈ system.db.payments,
      payment.status.Settled →
        system.db.Funds payment.id payment.amountMinor
  onFile :
    ∀ call object,
      (system.calls call).sighted = some object →
        ∃ row ∈ system.db.payments,
          row.id = object.id ∧
            row.amountMinor = object.amountMinor
  objects :
    ∀ call object,
      (system.calls call).sighted = some object →
        object.status.Settled →
          system.db.Funds object.id object.amountMinor
  refunds :
    ∀ refund ∈ system.db.refunds,
      ∃ row ∈ system.db.payments,
        row.id = refund.paymentIntentId ∧
          system.db.Funds row.id row.amountMinor

theorem funded_initial : Funded {} where
  entries := by simp
  rows := by simp
  onFile := by
    intro call object hSighted
    cases hSighted
  objects := by
    intro call object hSighted
    cases hSighted
  refunds := by simp

variable {config : Config}
variable {system next : System}
variable {call : CallId}
variable {draw : Draw}
variable {action : Action}
variable {db db' : Database}
variable {intent : PaymentIntent}

/- The object of a paying step is on file. -/
theorem Funded.object_onFile
    (hFunded : Funded system)
    (hObject :
      intent ∈ system.db.payments ∨
        (system.calls call).sighted = some intent) :
    ∃ row ∈ system.db.payments,
      row.id = intent.id ∧
        row.amountMinor = intent.amountMinor := by
  rcases hObject with hRow | hSighted
  · exact ⟨intent, hRow, rfl, rfl⟩
  · exact hFunded.onFile call intent hSighted

theorem Funded.object_funds
    (hFunded : Funded system)
    (hObject :
      intent ∈ system.db.payments ∨
        (system.calls call).sighted = some intent)
    (hSettled : intent.status.Settled) :
    system.db.Funds intent.id intent.amountMinor := by
  rcases hObject with hRow | hSighted
  · exact hFunded.rows intent hRow hSettled
  · exact hFunded.objects call intent hSighted hSettled

theorem mem_settlementOf
    {entry : LedgerEntry} :
    entry ∈ db.settlementOf entry.paymentIntentId ↔
      entry ∈ db.ledger ∧ entry.settles = true := by
  unfold Database.settlementOf
  simp [List.mem_filter]

/- A pair that is booked funds its payment. -/
theorem funds_of_settlement
    (hSettlement :
      ∀ paymentId,
        db'.settlementOf paymentId =
          (recordPaymentSettled db intent.id
            intent.amountMinor draw).settlementOf
              paymentId) :
    db'.Funds intent.id intent.amountMinor := by
  have hPair := hSettlement intent.id
  rw [recordPaymentSettled_settlementOf, if_pos rfl] at hPair
  have hMem :
      ⟨intent.id, draw.ledgerTransaction,
          .merchantReceivable, .debit,
          intent.amountMinor⟩ ∈
        db'.settlementOf intent.id := by
    rw [hPair]
    simp
  exact ⟨_, List.mem_of_mem_filter hMem, rfl, rfl, rfl, rfl⟩

/- What a paying step books is the amount of a payment. -/
theorem PayStep.settling_positive
    {entry : LedgerEntry}
    (hStep : PayStep config system call db)
    (hFunded : Funded system)
    (hPositive :
      ∀ payment ∈ system.db.payments,
        0 < payment.amountMinor)
    (hEntry : entry ∈ db.ledger)
    (hSettles : entry.settles = true) :
    0 < entry.amountMinor := by
  have hMem := mem_settlementOf.mpr ⟨hEntry, hSettles⟩
  have hOld :
      entry ∈ system.db.settlementOf entry.paymentIntentId →
        0 < entry.amountMinor := by
    intro hBefore
    exact hFunded.entries entry
      (mem_settlementOf.mp hBefore).1
  cases hStep with
  | same hSame => exact hOld (hSame.settlement _ ▸ hMem)
  | create _ _ _ hSettlement =>
      exact hOld (hSettlement _ ▸ hMem)
  | pays intent hObject _ hPays =>
      cases hPays with
      | stay hSame => exact hOld (hSame.settlement _ ▸ hMem)
      | move _ _ _ hSettlement =>
          exact hOld (hSettlement _ ▸ hMem)
      | settle draw _ _ hSettlement =>
          rw [hSettlement, recordPaymentSettled_settlementOf,
            List.mem_append] at hMem
          rcases hMem with hBefore | hNew
          · exact hOld hBefore
          · rcases hFunded.object_onFile hObject with
              ⟨row, hRow, _, hAmount⟩
            have hRowAmount := hPositive row hRow
            split at hNew
            · simp only [List.mem_cons, List.not_mem_nil,
                or_false] at hNew
              rcases hNew with rfl | rfl
              · simpa [← hAmount] using hRowAmount
              · simpa [← hAmount] using hRowAmount
            · cases hNew

/- Entries of another kind belong to a refund. -/
theorem LedgerStep.other_positive
    {entry : LedgerEntry}
    (hStep : LedgerStep system call draw next)
    (hHeld : Held system)
    (hBalance : RefundBalance system)
    (hFunded : Funded system)
    (hEntry : entry ∈ next.db.ledger)
    (hOther : entry.settles = false) :
    0 < entry.amountMinor := by
  cases hStep with
  | books hBooks _ =>
      cases hBooks with
      | nothing hLedger =>
          exact hFunded.entries entry (hLedger ▸ hEntry)
      | settlement paymentId amountMinor hLedger =>
          rw [hLedger, List.mem_append] at hEntry
          rcases hEntry with hOld | hNew
          · exact hFunded.entries entry hOld
          · simp only [entriesOf, buildPaymentSettledPair,
              buildPair, List.mem_cons, List.not_mem_nil,
              or_false] at hNew
            rcases hNew with rfl | rfl
            · simp [LedgerEntry.settles] at hOther
            · simp [LedgerEntry.settles] at hOther
  | refund request key reservation result hCall _ hLedger =>
      split at hLedger
      · rw [hLedger, List.mem_append] at hEntry
        rcases hEntry with hOld | hNew
        · exact hFunded.entries entry hOld
        · have hRefund :=
            hBalance.positive reservation.refund
              (hHeld.reserved call reservation
                (by rw [hCall]; rfl)).1
          simp only [entriesOf, buildRefundSettledPair,
            buildPair, List.mem_cons, List.not_mem_nil,
            or_false] at hNew
          rcases hNew with rfl | rfl
          · exact hRefund
          · exact hRefund
      · exact hFunded.entries entry (hLedger ▸ hEntry)

/- A written row has the old status or the new one. -/
theorem flushPayment_status_or
    (toStatus : PaymentStatus)
    (row : PaymentIntent) :
    (flushPayment intent (intent.moveTo toStatus)
        row).status = row.status ∨
      (flushPayment intent (intent.moveTo toStatus)
        row).status = toStatus := by
  unfold flushPayment PaymentIntent.moveTo
  by_cases hSame : toStatus = intent.status
  · simp [hSame]
  · simp [hSame]

/- A moved table only writes to the rows of the object. -/
theorem moved_rows_funded
    {toStatus : PaymentStatus}
    (hFunded : Funded system)
    (hIds : (system.db.payments.map (·.id)).Nodup)
    (hObject :
      intent ∈ system.db.payments ∨
        (system.calls call).sighted = some intent)
    (hExtends : system.db.Extends db)
    (hTarget :
      toStatus.Settled →
        db.Funds intent.id intent.amountMinor)
    {payment : PaymentIntent}
    (hPayment :
      payment ∈ movedPayments system.db intent toStatus)
    (hSettled : payment.status.Settled) :
    db.Funds payment.id payment.amountMinor := by
  rcases Table.mem_updateWhere.mp hPayment with
    ⟨old, hOld, rfl⟩
  by_cases hId : old.id = intent.id
  · simp only [hId, decide_true, if_true] at hSettled ⊢
    change db.Funds old.id old.amountMinor
    rcases flushPayment_status_or toStatus old with
      hStatus | hStatus
    · rw [hStatus] at hSettled
      exact (hFunded.rows old hOld hSettled).later hExtends
    · rw [hStatus] at hSettled
      rcases hFunded.object_onFile hObject with
        ⟨row, hRow, hRowId, hAmount⟩
      have hSame : old = row :=
        List.inj_on_of_nodup_map hIds hOld hRow
          (hId.trans hRowId.symm)
      rw [hSame, hRowId, hAmount]
      exact hTarget hSettled
  · simp only [hId, decide_false, Bool.false_eq_true,
      if_false] at hSettled ⊢
    exact (hFunded.rows old hOld hSettled).later hExtends

theorem PayStep.rows_funded
    (hStep : PayStep config system call db)
    (hFunded : Funded system)
    (hIds : (system.db.payments.map (·.id)).Nodup)
    (hExtends : system.db.Extends db)
    {payment : PaymentIntent}
    (hPayment : payment ∈ db.payments)
    (hSettled : payment.status.Settled) :
    db.Funds payment.id payment.amountMinor := by
  cases hStep with
  | same hSame =>
      rw [hSame.payments] at hPayment
      exact (hFunded.rows payment hPayment hSettled).later
        hExtends
  | create intent hStatus hPayments _ =>
      rw [hPayments, List.mem_append,
        List.mem_singleton] at hPayment
      rcases hPayment with hOld | rfl
      · exact (hFunded.rows payment hOld hSettled).later
          hExtends
      · simp [hStatus, PaymentStatus.Settled] at hSettled
  | pays intent hObject _ hPays =>
      cases hPays with
      | stay hSame =>
          rw [hSame.payments] at hPayment
          exact (hFunded.rows payment hPayment
            hSettled).later hExtends
      | move toStatus hTarget hPayments _ =>
          rw [hPayments] at hPayment
          refine moved_rows_funded hFunded hIds hObject
            hExtends ?_ hPayment hSettled
          intro hMoved
          exact (hFunded.object_funds hObject
            (hTarget hMoved)).later hExtends
      | settle draw _ hPayments hSettlement =>
          rw [hPayments] at hPayment
          exact moved_rows_funded hFunded hIds hObject
            hExtends (fun _ => funds_of_settlement
              hSettlement) hPayment hSettled

/- A stored payment is found again with its amount. -/
theorem Database.Extends.exists_payment
    {row : PaymentIntent}
    (hExtends : db.Extends db')
    (hRow : row ∈ db.payments) :
    ∃ later ∈ db'.payments,
      later.id = row.id ∧
        later.amountMinor = row.amountMinor := by
  rcases hExtends.payments.exists_mem hRow with
    ⟨later, hLater, hTerms⟩
  have hId : later.terms.id = row.terms.id := by
    rw [hTerms]
  have hAmount :
      later.terms.amountMinor = row.terms.amountMinor := by
    rw [hTerms]
  exact ⟨later, hLater, hId, hAmount⟩

/- What the funding of payments rests on. -/
structure Solvent (system : System) : Prop where
  balance : HeldBalance system
  flights : RefundsInFlight system
  ledger : RefundLedger system.db
  positive :
    ∀ payment ∈ system.db.payments, 0 < payment.amountMinor
  contra : ∀ paymentId, Contra system.db paymentId
  funded : Funded system

theorem solvent_initial : Solvent {} where
  balance := heldBalance_initial
  flights := refundsInFlight_initial
  ledger := refundLedger_initial
  positive := by simp
  contra := contra_initial
  funded := funded_initial

theorem Funded.sighted_effect
    (hFunded : Funded system)
    (hExtends : system.db.Extends next.db)
    (hRows :
      ∀ payment ∈ next.db.payments,
        payment.status.Settled →
          next.db.Funds payment.id payment.amountMinor)
    (hEffect :
      Effect config system call draw action next)
    (other : CallId)
    (object : PaymentIntent)
    (hSighted :
      (next.calls other).sighted = some object) :
    (∃ row ∈ next.db.payments,
        row.id = object.id ∧
          row.amountMinor = object.amountMinor) ∧
      (object.status.Settled →
        next.db.Funds object.id object.amountMinor) := by
  have hOnFile :
      ∀ held,
        (system.calls other).sighted = some held →
          ∃ row ∈ next.db.payments,
            row.id = held.id ∧
              row.amountMinor = held.amountMinor := by
    intro held hBefore
    rcases hFunded.onFile other held hBefore with
      ⟨row, hRow, hId, hAmount⟩
    rcases hExtends.exists_payment hRow with
      ⟨later, hLater, hLaterId, hLaterAmount⟩
    exact ⟨later, hLater, hLaterId.trans hId,
      hLaterAmount.trans hAmount⟩
  have hKept :
      (system.calls other).sighted = some object →
        (∃ row ∈ next.db.payments,
            row.id = object.id ∧
              row.amountMinor = object.amountMinor) ∧
          (object.status.Settled →
            next.db.Funds object.id
              object.amountMinor) := by
    intro hBefore
    refine ⟨hOnFile object hBefore, ?_⟩
    intro hSettled
    exact (hFunded.objects other object hBefore
      hSettled).later hExtends
  by_cases hOther : other = call
  · subst hOther
    cases hEffect.sighting hSighted with
    | stored hRow =>
        exact ⟨⟨object, hRow, rfl, rfl⟩,
          hRows object hRow⟩
    | kept hBefore => exact hKept hBefore
    | moved held hBefore hId hAmount hOpen =>
        rw [hId, hAmount]
        exact ⟨hOnFile held hBefore,
          fun h => absurd h hOpen⟩
  · rw [hEffect.frame.calls other hOther] at hSighted
    exact hKept hSighted

/- A new refund is one of a settled payment. -/
theorem RefundStep.refunds_funded
    (hRefund : RefundStep system call action next)
    (hFunded : Funded system)
    (hExtends : system.db.Extends next.db)
    (hFlights : RefundsInFlight next)
    (hObjects :
      ∀ other object,
        (next.calls other).sighted = some object →
          (∃ row ∈ next.db.payments,
              row.id = object.id ∧
                row.amountMinor = object.amountMinor) ∧
            (object.status.Settled →
              next.db.Funds object.id object.amountMinor))
    {refund : Refund}
    (hMem : refund ∈ next.db.refunds) :
    ∃ row ∈ next.db.payments,
      row.id = refund.paymentIntentId ∧
        next.db.Funds row.id row.amountMinor := by
  have hOld :
      ∀ old ∈ system.db.refunds,
        old.paymentIntentId = refund.paymentIntentId →
          ∃ row ∈ next.db.payments,
            row.id = refund.paymentIntentId ∧
              next.db.Funds row.id row.amountMinor := by
    intro old hStored hPayment
    rcases hFunded.refunds old hStored with
      ⟨row, hRow, hId, hFunds⟩
    rcases hExtends.exists_payment hRow with
      ⟨later, hLater, hLaterId, hLaterAmount⟩
    refine ⟨later, hLater, ?_, ?_⟩
    · rw [hLaterId, hId, hPayment]
    · rw [hLaterId, hLaterAmount]
      exact hFunds.later hExtends
  cases hRefund with
  | same hRefunds _ _ =>
      exact hOld refund (hRefunds ▸ hMem) rfl
  | answer _ _ _ _ _ _ _ hRefunds _ _ =>
      exact hOld refund (hRefunds ▸ hMem) rfl
  | settle _ _ _ _ _ _ hRefunds _ _ =>
      rw [hRefunds] at hMem
      rcases Table.mem_updateWhere.mp hMem with
        ⟨old, hStored, rfl⟩
      refine hOld old hStored ?_
      split <;> rfl
  | reserve request key reservation _ _ _ _ _ _ _ hRefunds
      _ hNext =>
      rw [hRefunds, List.mem_append,
        List.mem_singleton] at hMem
      rcases hMem with hStored | rfl
      · exact hOld refund hStored rfl
      · -- the payment it was reserved on is being refunded
        have hFlight :=
          hFlights call request reservation
            (by rw [hNext]; rfl)
        rcases hObjects call reservation.intent
            (by rw [hNext]; rfl) with
          ⟨⟨row, hRow, hId, hAmount⟩, hFunds⟩
        refine ⟨row, hRow, ?_, ?_⟩
        · rw [hId, hFlight.object, hFlight.refund]
        · rw [hId, hAmount]
          exact hFunds (by
            simp [hFlight.status, PaymentStatus.Settled])

theorem solvent_step
    {label : Label}
    (hSolvent : Solvent system)
    (hStep : step config system label = some next) :
    Solvent next := by
  rcases step_effect hStep with ⟨hAdmits, hEffect⟩
  have hHeld := hSolvent.balance.1
  have hFunded := hSolvent.funded
  have hExtends := hEffect.extends
  have hPay := hEffect.payStep hHeld.captures hAdmits
  have hLedger := hEffect.ledgerStep
  have hTrail := hEffect.trailStep hHeld.captures hAdmits
  have hFlights :=
    refundsInFlight_effect hHeld hSolvent.flights hAdmits
      hEffect
  have hRows :
      ∀ payment ∈ next.db.payments,
        payment.status.Settled →
          next.db.Funds payment.id payment.amountMinor :=
    fun _ hPayment hSettled =>
      hPay.rows_funded hFunded hHeld.paymentIds hExtends
        hPayment hSettled
  have hObjects :=
    hFunded.sighted_effect hExtends hRows hEffect
  exact
    { balance := heldBalance_step hSolvent.balance hStep
      flights := hFlights
      ledger :=
        refundLedger_step hHeld hSolvent.flights
          hSolvent.ledger hAdmits hLedger
      positive := hTrail.positive hSolvent.positive
      contra := fun paymentId =>
        hLedger.contra (hSolvent.contra paymentId)
      funded :=
        { entries := by
            intro entry hEntry
            by_cases hSettles : entry.settles = true
            · exact hPay.settling_positive hFunded
                hSolvent.positive hEntry hSettles
            · exact hLedger.other_positive hHeld
                hSolvent.balance.2 hFunded hEntry
                (Bool.eq_false_of_not_eq_true hSettles)
          rows := hRows
          onFile := fun other object hSighted =>
            (hObjects other object hSighted).1
          objects := fun other object hSighted =>
            (hObjects other object hSighted).2
          refunds := fun _ hRefund =>
            (hEffect.refundStep hAdmits).refunds_funded
              hFunded hExtends hFlights hObjects
              hRefund } }

theorem solvent_of_exec
    {labels : List Label}
    (hRun :
      Lts.exec (step config) {} labels = some system) :
    Solvent system :=
  Lts.invariant_of_exec
    (fun _ _ _ hSolvent hStep => solvent_step hSolvent hStep)
    solvent_initial hRun

end PayGuard

------------------------------------------------------------
-- Every Run
------------------------------------------------------------

namespace PayGuard

variable {system : System}

theorem Solvent.booked_nonneg
    (hSolvent : Solvent system)
    (paymentId : Uuid)
    (account : Account)
    (direction : Direction) :
    0 ≤ system.db.booked paymentId account direction := by
  apply List.sum_nonneg
  intro amount hAmount
  rcases List.mem_map.mp hAmount with ⟨entry, hEntry, rfl⟩
  exact (hSolvent.funded.entries entry
    (List.mem_of_mem_filter hEntry)).le

/- A funded payment was debited at least its amount. -/
theorem Solvent.amount_le_booked
    {paymentId : Uuid}
    {amountMinor : Int}
    (hSolvent : Solvent system)
    (hFunds : system.db.Funds paymentId amountMinor) :
    amountMinor ≤
      system.db.booked paymentId .merchantReceivable
        .debit := by
  rcases hFunds with
    ⟨entry, hEntry, rfl, hAccount, hDirection, rfl⟩
  apply List.single_le_sum
  · intro amount hAmount
    rcases List.mem_map.mp hAmount with ⟨other, hOther, rfl⟩
    exact (hSolvent.funded.entries other
      (List.mem_of_mem_filter hOther)).le
  · apply List.mem_map_of_mem
    rw [List.mem_filter]
    simp [hEntry, hAccount, hDirection]

/- The debits of the liability are refunds that succeeded. -/
theorem Solvent.liability_le_reserved
    (hSolvent : Solvent system)
    (paymentId : Uuid) :
    system.db.booked paymentId .refundLiability .debit ≤
      reservedAmount system.db paymentId := by
  have hDebits :
      system.db.booked paymentId .refundLiability .debit =
        (system.db.settledRefunds paymentId).sum := by
    rw [← (hSolvent.ledger.mirrors paymentId).sum_eq]
    rfl
  rw [hDebits]
  apply Table.sum_le_sumWhere (fun refund => refund.id)
    (fun refund : Refund => refund.id)
  · exact hSolvent.balance.1.refundIds.sublist
      (List.filter_sublist.map _)
  · intro refund hRefund _
    exact (hSolvent.balance.2.positive refund hRefund).le
  · intro refund hRefund
    rcases List.mem_filter.mp hRefund with ⟨hMem, hBoth⟩
    rw [Bool.and_eq_true, decide_eq_true_eq,
      decide_eq_true_eq] at hBoth
    refine ⟨refund, hMem, rfl, ?_, rfl⟩
    simp [hBoth.1, hBoth.2, RefundStatus.isReserved]

/-
  In every reachable state, whichever row a lock returns and
  however often a payment was settled, what the merchant has
  been credited for the refunds of a payment is covered by
  what it was debited for its captures, and the other two
  accounts show the same two amounts.
-/
theorem receivable_covers_refunds
    (config : Config)
    (labels : List Label)
    (system : System)
    (hRun :
      Lts.exec (step config) {} labels = some system)
    (paymentId : Uuid) :
    Contra system.db paymentId ∧
      system.db.booked paymentId .merchantReceivable
          .credit ≤
        system.db.booked paymentId .merchantReceivable
          .debit := by
  have hSolvent := solvent_of_exec hRun
  refine ⟨hSolvent.contra paymentId, ?_⟩
  rw [← (hSolvent.contra paymentId).liability]
  by_cases hRefunded :
      ∃ refund ∈ system.db.refunds,
        refund.paymentIntentId = paymentId
  · rcases hRefunded with ⟨refund, hRefund, rfl⟩
    rcases hSolvent.funded.refunds refund hRefund with
      ⟨row, hRow, hId, hFunds⟩
    rw [← hId]
    calc system.db.booked row.id .refundLiability .debit
      _ ≤ reservedAmount system.db row.id :=
          hSolvent.liability_le_reserved row.id
      _ ≤ row.amountMinor :=
          hSolvent.balance.2.bounded row hRow
      _ ≤ system.db.booked row.id .merchantReceivable
            .debit :=
          hSolvent.amount_le_booked hFunds
  · have hNone : reservedAmount system.db paymentId = 0 := by
      apply reservedAmount_of_no_refund
      intro refund hRefund hPayment
      exact hRefunded ⟨refund, hRefund, hPayment⟩
    have hLiability :=
      hSolvent.liability_le_reserved paymentId
    have hDebits :=
      hSolvent.booked_nonneg paymentId .merchantReceivable
        .debit
    omega

theorem receivable_covers_refunds_forty :
    ∃ system,
      Lts.exec (step { sha256 := spellOut }) {}
          refundedRun = some system ∧
        system.db.booked 1 .merchantReceivable .debit =
          100 ∧
        system.db.booked 1 .merchantReceivable .credit =
          40 ∧
        system.db.booked 1 .merchantReceivable .credit ≤
          system.db.booked 1 .merchantReceivable .debit := by
  have hRun :
      (Lts.exec (step { sha256 := spellOut }) {}
        refundedRun).map (fun system =>
          (system.db.booked 1 .merchantReceivable .debit,
            system.db.booked 1 .merchantReceivable
              .credit)) =
        some (100, 40) := by
    decide +kernel
  rcases Option.map_eq_some_iff.mp hRun with
    ⟨system, hExec, hBooked⟩
  rw [Prod.mk.injEq] at hBooked
  exact ⟨system, hExec, hBooked.1, hBooked.2,
    (receivable_covers_refunds _ _ _ hExec 1).2⟩

end PayGuard

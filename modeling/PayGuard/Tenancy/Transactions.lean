import PayGuard.Tenancy.Restriction

/-
  The transactions of the services, confined to a tenant.

  Each one is a chain of reads, writes and checks, and each
  link is confined by itself, so the chain is.

  Key theorems include:
    * `confined_createInsert`, `confined_createProcess`,
      `confined_createAssess`, `confined_createBlock` and
      `confined_createFinish`
    * `confined_captureSettled` and
      `confined_captureFinish`
    * `confined_refundReserve` and
      `confined_refundFinalize`
    * `confined_reconcileApply`
-/

------------------------------------------------------------
-- Checked Writes
------------------------------------------------------------

namespace PayGuard

open Confinement

variable {tenant : Tenant}
variable {own : Bool}
variable {draw : Draw}
variable {intent : PaymentIntent}
variable {result : ProviderResult}

/- A result that is only checked for success. -/
abbrev Stored
    (tenant : Tenant)
    (own : Bool)
    (run : Database → Except Failure Database) : Prop :=
  Confined tenant.frame own (fun _ : Unit => True)
    (fun db => (run db).map (fun next => (next, ())))

theorem OwnsPayment.moveTo
    {toStatus : PaymentStatus}
    (hIntent : tenant.OwnsPayment own intent) :
    tenant.OwnsPayment own (intent.moveTo toStatus) :=
  ⟨hIntent.id, hIntent.merchant⟩

theorem confined_applyTransition
    {toStatus : PaymentStatus}
    {actor : Actor}
    {eventType : String}
    (hIntent : tenant.OwnsPayment own intent) :
    Confined tenant.frame own (tenant.OwnsPayment own)
      (fun db =>
        applyTransition db intent toStatus actor eventType
          draw) := by
  unfold applyTransition
  by_cases hValid :
      isValidPaymentTransition intent.status toStatus
        (some actor) = true
  · simp only [hValid, if_true]
    exact Confined.write
      (confined_recordTransition hIntent.id)
      (OwnsPayment.moveTo hIntent)
  · simp only [hValid]
    exact Confined.fail _

theorem confined_insertAttempt
    {attempt : PaymentAttempt}
    (hId : tenant.ids attempt.id = own)
    (hPayment : tenant.ids attempt.paymentIntentId = own) :
    Stored tenant own
      (fun db => insertAttempt db attempt) := by
  refine Confined.of_eq
    (Confined.check
      (fun db : Database =>
        db.attempts.any (fun other =>
          other.paymentIntentId = attempt.paymentIntentId ∧
            other.attemptNumber = attempt.attemptNumber))
      (fun clash db =>
        if clash then
          .error (.integrityError
            "uq_payment_attempts_intent_attempt_no")
        else
          .ok ({ db with
            attempts := db.attempts ++ [attempt] }, ()))
      ?_ ?_) ?_
  · rintro rfl db _
    apply Table.any_of_kept
    intro row _ hWanted
    rw [(of_decide_eq_true hWanted).1]
    exact hPayment
  · intro clash
    cases clash with
    | true => exact Confined.fail _
    | false =>
        exact Confined.write
          (confined_appendAttempt hId hPayment) trivial
  · intro db
    unfold insertAttempt
    beta_reduce
    generalize db.attempts.any _ = clash
    cases clash <;> rfl

/- A transaction drawn for one side clashes with no other. -/
theorem confined_insertProviderTransaction
    {attemptId : Uuid}
    {providerName : String}
    (hAttempt : tenant.ids attemptId = own)
    (hResult : tenant.OwnsResult own result) :
    Stored tenant own
      (fun db =>
        insertProviderTransaction db attemptId providerName
          result) := by
  unfold insertProviderTransaction
  cases hId : result.providerTransactionId with
  | none => exact Confined.pure trivial
  | some transactionId =>
      have hOwn := hResult transactionId hId
      refine Confined.of_eq
        (Confined.check
          (fun db : Database =>
            db.providerTransactions.any (fun other =>
              other.providerName = providerName ∧
                other.providerTransactionId =
                  transactionId))
          (fun clash db =>
            if clash then
              .error (.integrityError
                "uq_provider_transactions_provider_txn")
            else
              .ok ({ db with
                providerTransactions :=
                  db.providerTransactions ++
                    [{ paymentAttemptId := attemptId
                       providerName := providerName
                       providerTransactionId := transactionId
                       rawStatus := result.rawStatus
                       rawResponse := result.rawResponse }] },
                ()))
          ?_ ?_) ?_
      · rintro rfl db hSeparated
        apply Table.any_of_kept
        intro row hRow hWanted
        rw [← hSeparated.transactions row hRow,
          (of_decide_eq_true hWanted).2]
        exact hOwn
      · intro clash
        cases clash with
        | true => exact Confined.fail _
        | false =>
            exact Confined.write
              (confined_appendTransaction hAttempt hOwn)
              trivial
      · intro db
        dsimp only
        generalize db.providerTransactions.any _ = clash
        cases clash <;> rfl

theorem confined_insertPayment
    (indexable : PyString → Bool)
    (hIntent : tenant.OwnsPayment own intent) :
    Stored tenant own
      (fun db => insertPayment indexable db intent) := by
  unfold insertPayment
  split
  · exact Confined.fail _
  · split
    · exact Confined.fail _
    · split
      · exact Confined.fail _
      · split
        · exact Confined.fail _
        · exact Confined.write
            (confined_appendPayment hIntent) trivial

theorem confined_insertRefund
    {refund : Refund}
    (hId : tenant.ids refund.id = own)
    (hPayment : tenant.ids refund.paymentIntentId = own) :
    Stored tenant own
      (fun db => insertRefund db refund) := by
  unfold insertRefund
  split
  · exact Confined.fail _
  · split
    · exact Confined.fail _
    · exact Confined.write
        (confined_appendRefund hId hPayment) trivial

/- A locked payment belongs to the side that asked. -/
theorem confined_locked
    {A : Type}
    {result : A → Prop}
    {merchantId : Uuid}
    (lockRead : LockRead)
    (loaded : Option PaymentIntent)
    (paymentId : Uuid)
    (next :
      Option PaymentIntent → Database →
        Except Failure (Database × A))
    (hMerchant : tenant.isMerchant own merchantId)
    (hLoaded :
      ∀ object,
        loaded = some object → tenant.OwnsPayment own object)
    (hNone : Confined tenant.frame own result (next none))
    (hSome :
      ∀ locked,
        tenant.OwnsPayment own locked →
          Confined tenant.frame own result
            (next (some locked))) :
    Confined tenant.frame own result
      (fun db =>
        next
          (lockPayment lockRead db loaded paymentId
            merchantId) db) := by
  apply Confined.read
    (fun db : Database =>
      lockPayment lockRead db loaded paymentId merchantId)
    (fun locked =>
      ∀ intent,
        locked = some intent → tenant.OwnsPayment own intent)
    next
  · intro db hSeparated intent hLock
    exact ownsPayment_of_lock hSeparated hMerchant hLoaded
      hLock
  · rintro rfl db hSeparated
    exact lockPayment_restrict hSeparated lockRead loaded
      paymentId hMerchant
  · intro locked hOwner
    cases locked with
    | none => exact hNone
    | some intent => exact hSome intent (hOwner intent rfl)

end PayGuard

------------------------------------------------------------
-- Creating
------------------------------------------------------------

namespace PayGuard

open Confinement

variable {tenant : Tenant}
variable {own : Bool}
variable {draw : Draw}
variable {intent : PaymentIntent}
variable {result : ProviderResult}
variable {keyRowId : Uuid}

theorem confined_createInsert
    (indexable : PyString → Bool)
    {request : CreateRequest}
    {keyRow : IdempotencyKey}
    (hMerchant : tenant.isMerchant own request.merchantId)
    (hKey : tenant.OwnsKey own keyRow)
    (hDraw : tenant.OwnsDraw own draw) :
    Confined tenant.frame own (tenant.OwnsPayment own)
      (fun db =>
        createInsert indexable db request keyRow draw) := by
  let intent : PaymentIntent :=
    { id := draw.payment
      merchantId := request.merchantId
      amountMinor := request.amountMinor
      currency := request.currency
      merchantReference := request.merchantReference
      status := .created
      createdAt := draw.serverNow }
  have hIntent : tenant.OwnsPayment own intent :=
    ⟨hDraw.payment, hMerchant⟩
  have hChain :
      ∀ db : Database,
        createInsert indexable db request keyRow draw =
          ((insertPayment indexable (db.putKey keyRow)
              intent).map (fun next => (next, ()))).bind
              (fun pair =>
                .ok
                  ({ pair.1 with
                      events :=
                        pair.1.events ++
                          [{ paymentIntentId := intent.id
                             fromStatus := none
                             toStatus := .created
                             actor := .api
                             createdAt := draw.serverNow }]
                      outbox :=
                        pair.1.outbox ++
                          [{ id := draw.outbox
                             aggregateType := .paymentIntent
                             aggregateId := intent.id
                             eventType := "payment.created"
                             payload :=
                               .payment intent.id none }] },
                    intent)) := by
    intro db
    unfold createInsert
    cases hInsert :
        insertPayment indexable (db.putKey keyRow) intent with
    | error failure =>
        simp only [intent] at hInsert
        simp only [hInsert]
        rfl
    | ok next =>
        simp only [intent] at hInsert
        simp only [hInsert]
        rfl
  refine Confined.of_eq (Confined.bind
    (Confined.after (confined_putKey hKey)
      (confined_insertPayment indexable hIntent)) ?_) hChain
  intro _ _
  exact Confined.write
    (confined_announce hDraw.payment hDraw.payment) hIntent

theorem confined_createProcess
    (hIntent : tenant.OwnsPayment own intent) :
    Confined tenant.frame own (tenant.OwnsPayment own)
      (fun db => createProcess db (some intent) draw) :=
  confined_applyTransition hIntent

theorem confined_createAssess
    {request : CreateRequest}
    (hMerchant : tenant.isMerchant own request.merchantId)
    (hIntent : tenant.OwnsPayment own intent) :
    Confined tenant.frame own
      (fun _ : RiskAssessment => True)
      (fun db =>
        (.ok (createAssess db request intent draw) :
          Except Failure (Database × RiskAssessment))) := by
  refine Confined.of_eq
    (Confined.check
      (fun db : Database =>
        assessPaymentRisk db request.merchantId
          request.amountMinor request.billingCountry
          request.shippingCountry request.customerIp
          draw.now)
      (fun assessment db =>
        .ok
          ({ db with
              auditLogs :=
                db.auditLogs ++
                  [{ merchantId := request.merchantId
                     paymentId := intent.id
                     assessment := assessment }] },
            assessment)) ?_ ?_) ?_
  · rintro rfl db hSeparated
    exact assessPaymentRisk_restrict hSeparated hMerchant
      _ _ _ _ _
  · intro assessment
    exact Confined.write
      (confined_appendAuditLog hIntent.id) trivial
  · intro db
    rfl

theorem confined_createBlock
    (hIntent : tenant.OwnsPayment own intent)
    (hKey : tenant.ids keyRowId = own) :
    Confined tenant.frame own (fun _ : Response => True)
      (fun db =>
        createBlock db (some intent) keyRowId draw) := by
  have hChain :
      ∀ db : Database,
        createBlock db (some intent) keyRowId draw =
          (applyTransition db intent .failed .api
            "payment.blocked" draw).bind
              (fun pair =>
                .ok
                  (completeIdempotencyKey pair.1 keyRowId
                      (some pair.2.id) 201
                      (serializePayment pair.2),
                    ⟨201, serializePayment pair.2⟩)) := by
    intro db
    simp only [createBlock]
    cases applyTransition db intent .failed .api
      "payment.blocked" draw <;> rfl
  refine Confined.of_eq (Confined.bind
    (confined_applyTransition hIntent) ?_) hChain
  intro moved hMoved
  dsimp only
  exact Confined.write
    (confined_completeIdempotencyKey hKey hMoved.id) trivial

theorem confined_applyAuthorizeOutcome
    {outcome : ProviderOutcome}
    (hIntent : tenant.OwnsPayment own intent) :
    Confined tenant.frame own (tenant.OwnsPayment own)
      (fun db =>
        applyAuthorizeOutcome db intent outcome draw) := by
  cases outcome with
  | declined => exact confined_applyTransition hIntent
  | unknown => exact confined_applyTransition hIntent
  | succeeded => exact Confined.pure hIntent
  | temporaryFailure => exact Confined.pure hIntent

theorem confined_createFinish
    {providerName : String}
    (hIntent : tenant.OwnsPayment own intent)
    (hKey : tenant.ids keyRowId = own)
    (hResult : tenant.OwnsResult own result)
    (hDraw : tenant.OwnsDraw own draw) :
    Confined tenant.frame own (fun _ : Response => True)
      (fun db =>
        createFinish db (some intent) keyRowId providerName
          result draw) := by
  let attempt (number : Nat) : PaymentAttempt :=
    { id := draw.attempt
      paymentIntentId := intent.id
      providerName := providerName
      status := result.outcome
      failureClassification :=
        failureClassification result.outcome
      attemptNumber := number
      createdAt := draw.serverNow }
  let chain (number : Nat) (db : Database) :
      Except Failure (Database × Response) :=
    ((insertAttempt db (attempt number)).map
      (fun next => (next, ()))).bind (fun first =>
        (applyAuthorizeOutcome first.1 intent result.outcome
          draw).bind (fun second =>
            ((insertProviderTransaction second.1
                draw.attempt providerName result).map
              (fun next => (next, ()))).bind (fun third =>
                .ok
                  (completeIdempotencyKey third.1 keyRowId
                      (some second.2.id) 201
                      (serializePayment second.2),
                    ⟨201, serializePayment second.2⟩))))
  have hChain :
      ∀ db : Database,
        createFinish db (some intent) keyRowId providerName
            result draw =
          chain (nextAttemptNumber db intent.id) db := by
    intro db
    unfold createFinish
    simp only [chain, attempt]
    cases insertAttempt db _ with
    | error failure => rfl
    | ok next =>
        simp only [Except.map, Except.bind]
        cases applyAuthorizeOutcome next intent
          result.outcome draw with
        | error failure => rfl
        | ok moved =>
            simp only
            cases insertProviderTransaction moved.1
              draw.attempt providerName result <;> rfl
  refine Confined.of_eq (Confined.check
    (fun db : Database => nextAttemptNumber db intent.id)
    chain ?_ ?_) hChain
  · rintro rfl db _
    exact nextAttemptNumber_restrict hIntent.id
  · intro number
    apply Confined.bind
      (confined_insertAttempt hDraw.attempt hIntent.id)
    intro _ _
    apply Confined.bind
      (confined_applyAuthorizeOutcome hIntent)
    intro moved hMoved
    dsimp only
    apply Confined.bind
      (confined_insertProviderTransaction hDraw.attempt
        hResult)
    intro _ _
    dsimp only
    exact Confined.write
      (confined_completeIdempotencyKey hKey hMoved.id)
      trivial

end PayGuard

------------------------------------------------------------
-- Capturing
------------------------------------------------------------

namespace PayGuard

open Confinement

variable {tenant : Tenant}
variable {own : Bool}
variable {draw : Draw}
variable {intent : PaymentIntent}
variable {keyRow : IdempotencyKey}
variable {result : ProviderResult}

/- The payment a check of a capture settles on. -/
def CaptureCheck.payment : CaptureCheck → PaymentIntent
| .settled intent => intent
| .callProvider intent _ => intent

/- What a capture does with the authorization it finds. -/
def captureAuthorized
    (intent : PaymentIntent) :
    Option ProviderTransaction → Database →
      Except Failure (Database × CaptureCheck)
| none, _ =>
    .error (.payGuardError .invalidStateTransition
      ("This payment has no successful " ++
        "authorization to capture."))
| some transaction, db =>
    .ok (db, .callProvider intent transaction)

/- The check of a capture reads and writes nothing. -/
theorem confined_captureCheck
    {paymentId : Uuid}
    (hIntent : tenant.OwnsPayment own intent) :
    Confined tenant.frame own
      (fun check => tenant.OwnsPayment own check.payment)
      (fun db =>
        (captureCheck db (some intent) paymentId).map
          (fun check => (db, check))) := by
  simp only [captureCheck]
  split
  · exact Confined.pure hIntent
  · split
    · exact Confined.fail _
    · refine Confined.of_eq (Confined.check
        (fun db : Database =>
          latestSuccessfulProviderTransaction db intent.id)
        (captureAuthorized intent) ?_ ?_) ?_
      · rintro rfl db hSeparated
        exact latestSuccessfulProviderTransaction_restrict
          hSeparated hIntent.id
      · intro latest
        cases latest with
        | none => exact Confined.fail _
        | some transaction => exact Confined.pure hIntent
      · intro db
        cases latestSuccessfulProviderTransaction db
          intent.id <;> rfl

theorem confined_captureSettled
    (hIntent : tenant.OwnsPayment own intent)
    (hKey : tenant.OwnsKey own keyRow) :
    ConfinedWrite tenant.frame own
      (fun db => (captureSettled db intent keyRow).1) :=
  (confined_putKey hKey).comp
    (confined_completeIdempotencyKey hKey.id hIntent.id)

theorem confined_recordPaymentSettled
    {paymentId : Uuid}
    {amountMinor : Int}
    (hPayment : tenant.ids paymentId = own) :
    ConfinedWrite tenant.frame own
      (fun db =>
        recordPaymentSettled db paymentId amountMinor
          draw) :=
  confined_recordPair hPayment hPayment

theorem confined_applyCaptureOutcome
    {outcome : ProviderOutcome}
    (hIntent : tenant.OwnsPayment own intent) :
    Confined tenant.frame own (tenant.OwnsPayment own)
      (fun db =>
        applyCaptureOutcome db intent outcome draw) := by
  cases outcome with
  | succeeded =>
      have hChain :
          ∀ db : Database,
            applyCaptureOutcome db intent .succeeded draw =
              (applyTransition db intent .succeeded .api
                "payment.succeeded" draw).bind (fun pair =>
                  .ok
                    (recordPaymentSettled pair.1 pair.2.id
                        pair.2.amountMinor draw,
                      pair.2)) := by
        intro db
        simp only [applyCaptureOutcome]
        cases applyTransition db intent .succeeded .api
          "payment.succeeded" draw <;> rfl
      refine Confined.of_eq (Confined.bind
        (confined_applyTransition hIntent) ?_) hChain
      intro moved hMoved
      dsimp only
      exact Confined.write
        (confined_recordPaymentSettled hMoved.id) hMoved
  | unknown => exact confined_applyTransition hIntent
  | declined => exact confined_applyTransition hIntent
  | temporaryFailure =>
      exact confined_applyTransition hIntent

theorem confined_captureFinish
    (hIntent : tenant.OwnsPayment own intent)
    (hKey : tenant.OwnsKey own keyRow) :
    Confined tenant.frame own (fun _ : Response => True)
      (fun db =>
        captureFinish db intent keyRow result draw) := by
  have hChain :
      ∀ db : Database,
        captureFinish db intent keyRow result draw =
          (applyCaptureOutcome (db.putKey keyRow) intent
            result.outcome draw).bind (fun pair =>
              .ok
                (completeIdempotencyKey pair.1 keyRow.id
                    (some pair.2.id) 200
                    (serializePayment pair.2),
                  ⟨200, serializePayment pair.2⟩)) := by
    intro db
    unfold captureFinish
    cases applyCaptureOutcome (db.putKey keyRow) intent
      result.outcome draw <;> rfl
  refine Confined.of_eq (Confined.bind
    (Confined.after (confined_putKey hKey)
      (confined_applyCaptureOutcome hIntent)) ?_) hChain
  intro moved hMoved
  dsimp only
  exact Confined.write
    (confined_completeIdempotencyKey hKey.id hMoved.id)
    trivial

end PayGuard

------------------------------------------------------------
-- Refunding
------------------------------------------------------------

namespace PayGuard

open Confinement

variable {tenant : Tenant}
variable {own : Bool}
variable {draw : Draw}
variable {intent : PaymentIntent}
variable {keyRow : IdempotencyKey}
variable {result : ProviderResult}

/- A reservation of this side. -/
structure Tenant.OwnsReservation
    (tenant : Tenant)
    (own : Bool)
    (reservation : Reservation) : Prop where
  intent : tenant.OwnsPayment own reservation.intent
  refund : tenant.ids reservation.refund.id = own
  payment :
    tenant.ids reservation.refund.paymentIntentId = own

theorem confined_enterRefundPending
    (hIntent : tenant.OwnsPayment own intent) :
    Confined tenant.frame own (tenant.OwnsPayment own)
      (fun db => enterRefundPending db intent draw) := by
  unfold enterRefundPending
  split
  · exact Confined.pure hIntent
  · exact confined_applyTransition hIntent

/- The writes of a reservation, after its checks. -/
theorem confined_reserve
    {refund : Refund}
    {transaction : ProviderTransaction}
    (hIntent : tenant.OwnsPayment own intent)
    (hKey : tenant.OwnsKey own keyRow)
    (hId : tenant.ids refund.id = own)
    (hPayment : tenant.ids refund.paymentIntentId = own) :
    Confined tenant.frame own (tenant.OwnsReservation own)
      (fun db =>
        ((insertRefund (db.putKey keyRow) refund).map
          (fun next => (next, ()))).bind (fun first =>
            (enterRefundPending first.1 intent draw).bind
              (fun second =>
                .ok (second.1,
                  ⟨second.2, refund, transaction⟩)))) := by
  apply Confined.bind
    (Confined.after (confined_putKey hKey)
      (confined_insertRefund hId hPayment))
  intro _ _
  apply Confined.bind (confined_enterRefundPending hIntent)
  intro moved hMoved
  dsimp only
  exact Confined.pure ⟨hMoved, hId, hPayment⟩

/- What a refund does with the authorization it finds. -/
def refundAuthorized
    (intent : PaymentIntent)
    (keyRow : IdempotencyKey)
    (refund : Refund)
    (draw : Draw) :
    Option ProviderTransaction → Database →
      Except Failure (Database × Reservation)
| none, _ =>
    .error (.payGuardError .invalidStateTransition
      ("This payment has no successful " ++
        "authorization to refund."))
| some transaction, db =>
    ((insertRefund (db.putKey keyRow) refund).map
      (fun next => (next, ()))).bind (fun first =>
        (enterRefundPending first.1 intent draw).bind
          (fun second =>
            .ok (second.1,
              ⟨second.2, refund, transaction⟩)))

theorem confined_refundReserve
    {request : RefundRequest}
    (hIntent : tenant.OwnsPayment own intent)
    (hKey : tenant.OwnsKey own keyRow)
    (hDraw : tenant.OwnsDraw own draw) :
    Confined tenant.frame own (tenant.OwnsReservation own)
      (fun db =>
        refundReserve db (some intent) request keyRow
          draw) := by
  let refund : Refund :=
    { id := draw.refund
      paymentIntentId := intent.id
      amountMinor := request.amountMinor
      status := .pending
      createdAt := draw.serverNow }
  let reserve
      (seen : Int × Option ProviderTransaction)
      (db : Database) :
      Except Failure (Database × Reservation) :=
    if !intent.status.isRefundableSource then
      .error (.payGuardError .invalidStateTransition
        ("Cannot refund a payment in status " ++
          intent.status.value ++ "."))
    else if intent.amountMinor - seen.1 <
        request.amountMinor then
      .error (.payGuardError .refundExceedsPayment
        ("Refund amount " ++ toString request.amountMinor ++
          " exceeds the remaining refundable balance " ++
          toString (intent.amountMinor - seen.1) ++ "."))
    else
      refundAuthorized intent keyRow refund draw seen.2 db
  have hChain :
      ∀ db : Database,
        refundReserve db (some intent) request keyRow draw =
          reserve
            (reservedAmount db intent.id,
              latestSuccessfulProviderTransaction db
                intent.id) db := by
    intro db
    simp only [refundReserve, reserve, refund,
      refundAuthorized]
    split
    · rfl
    · split
      · rfl
      · cases latestSuccessfulProviderTransaction db
          intent.id with
        | none => rfl
        | some transaction =>
            simp only
            cases insertRefund (db.putKey keyRow) _ with
            | error failure => rfl
            | ok next =>
                simp only [Except.map, Except.bind]
                cases enterRefundPending next intent
                  draw <;> rfl
  refine Confined.of_eq (Confined.check
    (fun db : Database =>
      (reservedAmount db intent.id,
        latestSuccessfulProviderTransaction db intent.id))
    reserve ?_ ?_) hChain
  · rintro rfl db hSeparated
    exact Prod.ext (reservedAmount_restrict hIntent.id)
      (latestSuccessfulProviderTransaction_restrict
        hSeparated hIntent.id)
  · rintro ⟨reserved, latest⟩
    simp only [reserve]
    split
    · exact Confined.fail _
    · split
      · exact Confined.fail _
      · cases latest with
        | none => exact Confined.fail _
        | some transaction =>
            exact confined_reserve hIntent hKey hDraw.refund
              hIntent.id

theorem confined_settleRefund
    {refund : Refund}
    {outcome : ProviderOutcome}
    (hIntent : tenant.OwnsPayment own intent)
    (hRefund : tenant.ids refund.id = own) :
    ConfinedWrite tenant.frame own
      (fun db =>
        settleRefund db intent refund outcome draw) := by
  simp only [settleRefund]
  split
  · exact (confined_setRefundStatus hRefund).comp
      (confined_recordPair hIntent.id hIntent.id)
  · exact confined_setRefundStatus hRefund

theorem confined_leaveRefundPending
    (hIntent : tenant.OwnsPayment own intent) :
    Confined tenant.frame own (tenant.OwnsPayment own)
      (fun db => leaveRefundPending db intent draw) := by
  apply Confined.check
    (fun db : Database =>
      (pendingRefunds db intent.id,
        refundedAmount db intent.id))
    (fun counts db =>
      if counts.1 = 0 ∧ intent.status = .refundPending then
        if intent.amountMinor ≤ counts.2 then
          applyTransition db intent .refunded .api
            "payment.refunded" draw
        else if 0 < counts.2 then
          applyTransition db intent .succeeded .api
            "payment.partially_refunded" draw
        else
          applyTransition db intent .refundFailed .api
            "refund.failed" draw
      else
        .ok (db, intent))
  · rintro rfl db _
    exact Prod.ext (pendingRefunds_restrict hIntent.id)
      (refundedAmount_restrict hIntent.id)
  · intro counts
    split
    · split
      · exact confined_applyTransition hIntent
      · split
        · exact confined_applyTransition hIntent
        · exact confined_applyTransition hIntent
    · exact Confined.pure hIntent

theorem confined_refundFinalize
    {refund : Refund}
    {keyRowId : Uuid}
    (hIntent : tenant.OwnsPayment own intent)
    (hRefund : tenant.ids refund.id = own)
    (hKey : tenant.ids keyRowId = own) :
    Confined tenant.frame own (fun _ : Response => True)
      (fun db =>
        refundFinalize db (some intent) refund keyRowId
          result draw) := by
  let final : Refund :=
    { refund with
      status := finalRefundStatus result.outcome }
  have hChain :
      ∀ db : Database,
        refundFinalize db (some intent) refund keyRowId
            result draw =
          (leaveRefundPending
            (settleRefund db intent final result.outcome
              draw) intent draw).bind (fun pair =>
                .ok
                  (completeIdempotencyKey pair.1 keyRowId
                      (some pair.2.id) 201
                      (serializeRefund final)
                      (some final.id),
                    ⟨201, serializeRefund final⟩)) := by
    intro db
    simp only [refundFinalize, final]
    cases leaveRefundPending _ intent draw <;> rfl
  refine Confined.of_eq (Confined.bind
    (Confined.after (confined_settleRefund hIntent hRefund)
      (confined_leaveRefundPending hIntent)) ?_) hChain
  intro moved hMoved
  dsimp only
  exact Confined.write
    (confined_completeIdempotencyKey hKey hMoved.id) trivial

end PayGuard

------------------------------------------------------------
-- Reconciling
------------------------------------------------------------

namespace PayGuard

open Confinement

variable {tenant : Tenant}
variable {own : Bool}
variable {draw : Draw}
variable {intent : PaymentIntent}
variable {result : ProviderResult}
variable {providerName : String}

/- What the first lock of a reconciliation may find. -/
def Tenant.OwnsCheck
    (tenant : Tenant)
    (own : Bool) : ReconcileCheck → Prop
| .report report => tenant.ids report.paymentIntentId = own
| .ask intent _ => tenant.OwnsPayment own intent

/- What a reconciliation does with the key it finds. -/
def reconcileNamed
    (intent : PaymentIntent) :
    Option String → Database →
      Except Failure (Database × ReconcileCheck)
| none, db =>
    .ok (db, .report
      { paymentIntentId := intent.id
        result := .missingInternalTransaction
        internalStatus := .unknown
        providerStatus := none
        details := .note
          ("no idempotency key on record to ask " ++
            "the provider about") })
| some key, db => .ok (db, .ask intent key)

theorem confined_reconcileCheck
    {paymentId pick : Uuid}
    (hIntent : tenant.OwnsPayment own intent) :
    Confined tenant.frame own (tenant.OwnsCheck own)
      (fun db =>
        (reconcileCheck db (some intent) paymentId pick).map
          (fun check => (db, check))) := by
  simp only [reconcileCheck]
  split
  · exact Confined.pure hIntent.id
  · refine Confined.of_eq (Confined.check
      (fun db : Database =>
        originalIdempotencyKey db intent.id pick)
      (reconcileNamed intent)
      ?_ ?_) ?_
    · rintro rfl db hSeparated
      exact originalIdempotencyKey_restrict hSeparated
        hIntent.id pick
    · intro found
      cases found with
      | none => exact Confined.pure hIntent.id
      | some key => exact Confined.pure hIntent
    · intro db
      cases originalIdempotencyKey db intent.id pick <;> rfl

theorem confined_resolveSucceeded
    (hIntent : tenant.OwnsPayment own intent)
    (hResult : tenant.OwnsResult own result)
    (hDraw : tenant.OwnsDraw own draw) :
    Stored tenant own
      (fun db =>
        resolveSucceeded db intent providerName result
          draw) := by
  let attempt (number : Nat) : PaymentAttempt :=
    { id := draw.attempt
      paymentIntentId := intent.id
      providerName := providerName
      status := .succeeded
      failureClassification := none
      attemptNumber := number
      createdAt := draw.serverNow }
  let chain (number : Nat) (db : Database) :
      Except Failure (Database × Unit) :=
    ((insertAttempt db (attempt number)).map
      (fun next => (next, ()))).bind (fun first =>
        (applyTransition first.1 intent .succeeded
          .reconciliation
          "reconciliation.resolved_succeeded" draw).bind
            (fun second =>
              (insertProviderTransaction
                (recordPaymentSettled second.1 second.2.id
                  second.2.amountMinor draw)
                draw.attempt providerName result).map
                  (fun next => (next, ()))))
  have hChain :
      ∀ db : Database,
        (resolveSucceeded db intent providerName result
            draw).map (fun next => (next, ())) =
          chain (nextAttemptNumber db intent.id) db := by
    intro db
    simp only [resolveSucceeded, chain, attempt]
    cases insertAttempt db _ with
    | error failure => rfl
    | ok next =>
        simp only [Except.map, Except.bind]
        cases applyTransition next intent .succeeded
          .reconciliation
          "reconciliation.resolved_succeeded" draw <;> rfl
  refine Confined.of_eq (Confined.check
    (fun db : Database => nextAttemptNumber db intent.id)
    chain ?_ ?_) hChain
  · rintro rfl db _
    exact nextAttemptNumber_restrict hIntent.id
  · intro number
    apply Confined.bind
      (confined_insertAttempt hDraw.attempt hIntent.id)
    intro _ _
    apply Confined.bind (confined_applyTransition hIntent)
    intro moved hMoved
    dsimp only
    exact Confined.after
      (confined_recordPaymentSettled hMoved.id)
      (confined_insertProviderTransaction hDraw.attempt
        hResult)

theorem confined_resolveFailed
    (hIntent : tenant.OwnsPayment own intent)
    (hDraw : tenant.OwnsDraw own draw) :
    Stored tenant own
      (fun db =>
        resolveFailed db intent providerName result
          draw) := by
  let attempt (number : Nat) : PaymentAttempt :=
    { id := draw.attempt
      paymentIntentId := intent.id
      providerName := providerName
      status := result.outcome
      failureClassification :=
        if result.outcome = .declined then
          some .permanent
        else
          some .unknown
      attemptNumber := number
      createdAt := draw.serverNow }
  let chain (number : Nat) (db : Database) :
      Except Failure (Database × Unit) :=
    (applyTransition db intent .failed .reconciliation
      "reconciliation.resolved_failed" draw).bind
        (fun first =>
          (insertAttempt first.1 (attempt number)).map
            (fun next => (next, ())))
  have hChain :
      ∀ db : Database,
        (resolveFailed db intent providerName result
            draw).map (fun next => (next, ())) =
          chain (nextAttemptNumber db intent.id) db := by
    intro db
    simp only [resolveFailed, chain, attempt]
    cases applyTransition db intent .failed .reconciliation
      "reconciliation.resolved_failed" draw <;> rfl
  refine Confined.of_eq (Confined.check
    (fun db : Database => nextAttemptNumber db intent.id)
    chain ?_ ?_) hChain
  · rintro rfl db _
    exact nextAttemptNumber_restrict hIntent.id
  · intro number
    apply Confined.bind (confined_applyTransition hIntent)
    intro _ _
    exact confined_insertAttempt hDraw.attempt hIntent.id

/- A report on a payment of this side. -/
def Tenant.OwnsReport
    (tenant : Tenant)
    (own : Bool)
    (report : ReconciliationReport) : Prop :=
  tenant.ids report.paymentIntentId = own

theorem confined_resolve
    (hIntent : tenant.OwnsPayment own intent)
    (hResult : tenant.OwnsResult own result)
    (hDraw : tenant.OwnsDraw own draw) :
    Confined tenant.frame own (tenant.OwnsReport own)
      (fun db =>
        resolve db intent providerName result draw) := by
  let report (finding : ReportResult) : ReconciliationReport :=
    answeredReport intent result finding .unknown
      (.providerTransaction result.providerTransactionId)
  have hReport :
      ∀ finding, tenant.OwnsReport own (report finding) :=
    fun _ => hIntent.id
  by_cases hOutcome : result.outcome = .succeeded
  · have hChain :
        ∀ db : Database,
          resolve db intent providerName result draw =
            ((resolveSucceeded db intent providerName result
              draw).map (fun next => (next, ()))).bind
                (fun pair =>
                  .ok (pair.1,
                    report .resolvedSucceeded)) := by
      intro db
      simp only [resolve, hOutcome, if_true]
      cases resolveSucceeded db intent providerName result
        draw <;> rfl
    refine Confined.of_eq (Confined.bind
      (confined_resolveSucceeded hIntent hResult hDraw) ?_)
      hChain
    intro _ _
    exact Confined.pure (hReport _)
  · have hChain :
        ∀ db : Database,
          resolve db intent providerName result draw =
            ((resolveFailed db intent providerName result
              draw).map (fun next => (next, ()))).bind
                (fun pair =>
                  .ok (pair.1, report .resolvedFailed)) := by
      intro db
      simp only [resolve, hOutcome, if_false]
      cases resolveFailed db intent providerName result
        draw <;> rfl
    refine Confined.of_eq (Confined.bind
      (confined_resolveFailed hIntent hDraw) ?_) hChain
    intro _ _
    exact Confined.pure (hReport _)

theorem confined_reconcileApply
    (hIntent : tenant.OwnsPayment own intent)
    (hResult : tenant.OwnsResult own result)
    (hDraw : tenant.OwnsDraw own draw) :
    Confined tenant.frame own (tenant.OwnsReport own)
      (fun db =>
        reconcileApply db (some intent) providerName result
          draw) := by
  simp only [reconcileApply]
  split
  · exact Confined.pure hIntent.id
  · split
    · have hBody :
          Confined tenant.frame own (tenant.OwnsReport own)
            (fun db =>
              (applyTransition db intent .unknown
                .reconciliation "reconciliation.still_unknown"
                draw).bind
                  (fun pair =>
                    .ok (pair.1,
                      answeredReport pair.2 result
                        .stillUnknown .unknown .empty))) := by
        refine Confined.bind (confined_applyTransition hIntent) ?_
        intro moved hMoved
        dsimp only
        exact Confined.pure hMoved.id
      refine Confined.of_eq hBody ?_
      intro db
      cases applyTransition db intent .unknown
        .reconciliation "reconciliation.still_unknown"
        draw <;> rfl
    · split
      · exact Confined.pure hIntent.id
      · split
        · exact Confined.pure hIntent.id
        · exact confined_resolve hIntent hResult hDraw

end PayGuard

import PayGuard.System.Machine

/-
  What the transactions of the services do to a payment,
  its audit trail and its outbox rows.

  A transaction either leaves these three tables alone, or
  creates one payment, or moves the one payment its
  `lock_payment` returned along one valid transition.

  Key definitions include:
    * `Database.paymentOutbox`
    * `SameTrail`
    * `TrailMove`

  Key theorems include:
    * `applyTransition_eq_ok`
    * one `_trailMove` theorem for each transaction body
-/

------------------------------------------------------------
-- Locked Objects
------------------------------------------------------------

namespace PayGuard

/- A selected payment is a stored one with those columns. -/
theorem selectPayment_eq_some
    {db : Database}
    {paymentId merchantId : Uuid}
    {intent : PaymentIntent}
    (hSelect :
      db.selectPayment paymentId merchantId = some intent) :
    intent ∈ db.payments ∧
      intent.id = paymentId ∧
      intent.merchantId = merchantId := by
  unfold Database.selectPayment at hSelect
  refine ⟨List.mem_of_find?_eq_some hSelect, ?_⟩
  simpa using List.find?_some hSelect

/- The locked object always has the wanted identifier. -/
theorem lockPayment_id
    {lockRead : LockRead}
    {db : Database}
    {loaded : Option PaymentIntent}
    {paymentId merchantId : Uuid}
    {intent : PaymentIntent}
    (hLock :
      lockPayment lockRead db loaded paymentId merchantId =
        some intent) :
    intent.id = paymentId := by
  unfold lockPayment at hLock
  cases hSelect : db.selectPayment paymentId merchantId with
  | none => simp [hSelect] at hLock
  | some row =>
      have hRow := (selectPayment_eq_some hSelect).2.1
      rw [hSelect] at hLock
      cases lockRead with
      | current =>
          cases hLock
          exact hRow
      | identityMap =>
          cases loaded with
          | none =>
              cases hLock
              exact hRow
          | some object =>
              by_cases hObject : object.id = row.id
              · simp only [hObject, if_true,
                  Option.some.injEq] at hLock
                rw [← hLock, hObject, hRow]
              · simp only [hObject, if_false,
                  Option.some.injEq] at hLock
                rw [← hLock, hRow]

/- The locked object is the row or the one held before. -/
theorem lockPayment_eq_some
    {lockRead : LockRead}
    {db : Database}
    {loaded : Option PaymentIntent}
    {paymentId merchantId : Uuid}
    {intent : PaymentIntent}
    (hLock :
      lockPayment lockRead db loaded paymentId merchantId =
        some intent) :
    ∃ row,
      db.selectPayment paymentId merchantId = some row ∧
        (intent = row ∨ loaded = some intent) := by
  unfold lockPayment at hLock
  split at hLock
  · cases hLock
  · rename_i row hSelect
    refine ⟨row, hSelect, ?_⟩
    split at hLock
    · split at hLock
      · cases hLock
        exact .inr rfl
      · cases hLock
        exact .inl rfl
    · cases hLock
      exact .inl rfl

/- A session without the object reads the committed row. -/
theorem lockPayment_unloaded
    (lockRead : LockRead)
    (db : Database)
    (paymentId merchantId : Uuid) :
    lockPayment lockRead db none paymentId merchantId =
      db.selectPayment paymentId merchantId := by
  unfold lockPayment
  cases db.selectPayment paymentId merchantId with
  | none => rfl
  | some row => cases lockRead <;> rfl

/- Current reads ignore what the session holds. -/
theorem lockPayment_current
    (db : Database)
    (loaded : Option PaymentIntent)
    (paymentId merchantId : Uuid) :
    lockPayment .current db loaded paymentId merchantId =
      db.selectPayment paymentId merchantId := by
  unfold lockPayment
  cases db.selectPayment paymentId merchantId <;> rfl

/- A stored row is what its identifiers select. -/
theorem selectPayment_of_mem
    {db : Database}
    {row : PaymentIntent}
    (hNodup : (db.payments.map (·.id)).Nodup)
    (hRow : row ∈ db.payments) :
    db.selectPayment row.id row.merchantId = some row := by
  have hSome :
      (db.selectPayment row.id row.merchantId).isSome := by
    unfold Database.selectPayment
    rw [List.find?_isSome]
    exact ⟨row, hRow, by simp⟩
  rcases Option.isSome_iff_exists.mp hSome with
    ⟨found, hFound⟩
  rcases selectPayment_eq_some hFound with
    ⟨hMem, hId, _⟩
  rw [hFound, List.inj_on_of_nodup_map hNodup hMem hRow hId]

/- Both locks of an uncontended call yield the row. -/
theorem lockPayment_of_mem
    {lockRead : LockRead}
    {db : Database}
    {loaded : Option PaymentIntent}
    {row : PaymentIntent}
    (hNodup : (db.payments.map (·.id)).Nodup)
    (hRow : row ∈ db.payments)
    (hLoaded : loaded = none ∨ loaded = some row) :
    lockPayment lockRead db loaded row.id row.merchantId =
      some row := by
  have hSelect := selectPayment_of_mem hNodup hRow
  rcases hLoaded with rfl | rfl
  · rw [lockPayment_unloaded]
    exact hSelect
  · unfold lockPayment
    rw [hSelect]
    cases lockRead with
    | current => rfl
    | identityMap => simp

end PayGuard

------------------------------------------------------------
-- Elementary Effects
------------------------------------------------------------

namespace PayGuard

variable {db db' : Database}
variable {intent moved : PaymentIntent}
variable {toStatus : PaymentStatus}
variable {actor : Actor}
variable {eventType : String}
variable {draw : Draw}

/- A transition is applied exactly when it is valid. -/
theorem applyTransition_eq_ok :
    applyTransition db intent toStatus actor eventType draw =
        .ok (db', moved) ↔
      isValidPaymentTransition intent.status toStatus
          (some actor) = true ∧
        db' = db.recordTransition intent toStatus actor
          eventType draw ∧
        moved = intent.moveTo toStatus := by
  unfold applyTransition
  by_cases hValid :
      isValidPaymentTransition intent.status toStatus
        (some actor) = true
  · simp [hValid, eq_comm]
  · simp [hValid]

/- A flushed attempt is appended. -/
theorem insertAttempt_eq_ok
    {attempt : PaymentAttempt}
    (hInsert : insertAttempt db attempt = .ok db') :
    db' = { db with attempts := db.attempts ++ [attempt] } := by
  unfold insertAttempt at hInsert
  split at hInsert
  · cases hInsert
  · cases hInsert
    rfl

/- At most the answer's provider transaction is appended. -/
theorem insertProviderTransaction_eq_ok
    {attemptId : Uuid}
    {providerName : String}
    {result : ProviderResult}
    (hInsert :
      insertProviderTransaction db attemptId providerName
        result = .ok db') :
    ∃ added : List ProviderTransaction,
      (∀ row ∈ added, row.paymentAttemptId = attemptId) ∧
        db' =
          { db with
            providerTransactions :=
              db.providerTransactions ++ added } := by
  unfold insertProviderTransaction at hInsert
  split at hInsert
  · cases hInsert
    exact ⟨[], by simp, by simp⟩
  · split at hInsert
    · cases hInsert
    · cases hInsert
      exact ⟨_, by simp, rfl⟩

/- The rows an answered provider call leaves behind. -/
structure Recorded
    (db : Database)
    (paymentId : Uuid)
    (draw : Draw)
    (attempt : PaymentAttempt)
    (added : List ProviderTransaction) : Prop where
  id : attempt.id = draw.attempt
  payment : attempt.paymentIntentId = paymentId
  number :
    attempt.attemptNumber = nextAttemptNumber db paymentId
  transactions :
    ∀ row ∈ added, row.paymentAttemptId = draw.attempt

/- A flushed payment satisfies the checks of its table. -/
theorem insertPayment_eq_ok
    {indexable : PyString → Bool}
    (hInsert : insertPayment indexable db intent = .ok db') :
    0 < intent.amountMinor ∧
      db' = { db with payments := db.payments ++ [intent] } := by
  unfold insertPayment at hInsert
  split at hInsert
  · cases hInsert
  · split at hInsert
    · cases hInsert
    · rename_i hPositive
      split at hInsert
      · cases hInsert
      · split at hInsert
        · cases hInsert
        · cases hInsert
          exact ⟨not_not.mp hPositive, rfl⟩

/- A flushed refund is positive. -/
theorem insertRefund_eq_ok
    {refund : Refund}
    (hInsert : insertRefund db refund = .ok db') :
    0 < refund.amountMinor ∧
      db' = { db with refunds := db.refunds ++ [refund] } := by
  unfold insertRefund at hInsert
  split at hInsert
  · cases hInsert
  · split at hInsert
    · cases hInsert
    · rename_i hPositive
      cases hInsert
      exact ⟨not_not.mp hPositive, rfl⟩

/- Committing a claimed key row touches key rows only. -/
theorem putKey_eq
    (db : Database)
    (keyRow : IdempotencyKey) :
    ∃ keys, db.putKey keyRow = { db with keys := keys } := by
  unfold Database.putKey
  split
  · exact ⟨_, rfl⟩
  · exact ⟨_, rfl⟩

end PayGuard

------------------------------------------------------------
-- Payments, Events And Outbox Rows
------------------------------------------------------------

namespace PayGuard

/- The outbox rows of payments, without their delivery. -/
def Database.paymentOutbox
    (db : Database) : List (Uuid × OutboxPayload) :=
  (db.outbox.filter (fun event =>
    event.aggregateType = .paymentIntent)).map
      (fun event => (event.aggregateId, event.payload))

/- Two databases agree on payments and their trail. -/
structure SameTrail (db db' : Database) : Prop where
  payments : db'.payments = db.payments
  events : db'.events = db.events
  outbox : db'.paymentOutbox = db.paymentOutbox

/-
  A transaction that holds the object `intent` leaves the
  trail alone or moves that payment once.
-/
inductive TrailMove
    (db : Database)
    (intent : PaymentIntent)
    (db' : Database) : Prop where
| stay (hSame : SameTrail db db')
| move
    (toStatus : PaymentStatus)
    (actor : Actor)
    (eventType : String)
    (draw : Draw)
    (hValid :
      isValidPaymentTransition intent.status toStatus
        (some actor) = true)
    (hSame :
      SameTrail
        (db.recordTransition intent toStatus actor
          eventType draw)
        db')

namespace SameTrail

variable {db db' db'' : Database}

theorem refl (db : Database) : SameTrail db db :=
  ⟨rfl, rfl, rfl⟩

theorem trans
    (hFirst : SameTrail db db')
    (hSecond : SameTrail db' db'') :
    SameTrail db db'' where
  payments := hSecond.payments.trans hFirst.payments
  events := hSecond.events.trans hFirst.events
  outbox := hSecond.outbox.trans hFirst.outbox

/- The same transition keeps two trails the same. -/
theorem recordTransition
    (hSame : SameTrail db db')
    (intent : PaymentIntent)
    (toStatus : PaymentStatus)
    (actor : Actor)
    (eventType : String)
    (draw : Draw) :
    SameTrail
      (db.recordTransition intent toStatus actor eventType
        draw)
      (db'.recordTransition intent toStatus actor eventType
        draw) where
  payments := by
    simp [Database.recordTransition, hSame.payments]
  events := by
    simp [Database.recordTransition, hSame.events]
  outbox := by
    have hOutbox := hSame.outbox
    simp only [Database.paymentOutbox] at hOutbox
    simp [Database.recordTransition, Database.paymentOutbox,
      hOutbox]

theorem putKey
    (db : Database)
    (keyRow : IdempotencyKey) :
    SameTrail db (db.putKey keyRow) := by
  rcases putKey_eq db keyRow with ⟨keys, hKeys⟩
  rw [hKeys]
  exact ⟨rfl, rfl, rfl⟩

/- Marking an outbox row keeps what it carries. -/
theorem markProcessed
    (db : Database)
    (outboxEventId : Uuid) :
    SameTrail db (markProcessed db outboxEventId) where
  payments := rfl
  events := rfl
  outbox := by
    unfold Database.paymentOutbox PayGuard.markProcessed
      Table.updateWhere
    rw [List.filter_map, List.map_map]
    have hKind :
        ((fun event : OutboxEvent =>
            decide (event.aggregateType =
              AggregateType.paymentIntent)) ∘
          (fun event : OutboxEvent =>
            if decide (event.id = outboxEventId) = true then
              { event with status := .processed }
            else event)) =
          (fun event : OutboxEvent =>
            decide (event.aggregateType =
              AggregateType.paymentIntent)) := by
      funext event
      by_cases hId : event.id = outboxEventId <;>
        simp [hId]
    rw [hKind]
    apply List.map_congr_left
    intro event _
    by_cases hId : event.id = outboxEventId <;> simp [hId]

end SameTrail

namespace TrailMove

variable {db db' db'' : Database}
variable {intent : PaymentIntent}

/- Writes elsewhere after the move do not matter. -/
theorem andThen
    (hMove : TrailMove db intent db')
    (hSame : SameTrail db' db'') :
    TrailMove db intent db'' := by
  cases hMove with
  | stay hFirst => exact .stay (hFirst.trans hSame)
  | move toStatus actor eventType draw hValid hFirst =>
      exact .move toStatus actor eventType draw hValid
        (hFirst.trans hSame)

/- Writes elsewhere before the move do not matter. -/
theorem after
    (hSame : SameTrail db db')
    (hMove : TrailMove db' intent db'') :
    TrailMove db intent db'' := by
  cases hMove with
  | stay hSecond => exact .stay (hSame.trans hSecond)
  | move toStatus actor eventType draw hValid hSecond =>
      exact .move toStatus actor eventType draw hValid
        ((hSame.recordTransition intent toStatus actor
          eventType draw).trans hSecond)

end TrailMove

end PayGuard

------------------------------------------------------------
-- Moves Of One Payment
------------------------------------------------------------

namespace PayGuard

/- The whole database, moved along at most one transition. -/
inductive Moved
    (db : Database)
    (intent : PaymentIntent) : Database → Prop where
| stay : Moved db intent db
| move
    (toStatus : PaymentStatus)
    (actor : Actor)
    (eventType : String)
    (draw : Draw)
    (hValid :
      isValidPaymentTransition intent.status toStatus
        (some actor) = true) :
    Moved db intent
      (db.recordTransition intent toStatus actor eventType
        draw)

namespace Moved

variable {db db' : Database}
variable {intent moved : PaymentIntent}
variable {outcome : ProviderOutcome}
variable {draw : Draw}

theorem of_applyTransition
    {toStatus : PaymentStatus}
    {actor : Actor}
    {eventType : String}
    (hApply :
      applyTransition db intent toStatus actor eventType
        draw = .ok (db', moved)) :
    Moved db intent db' := by
  rcases applyTransition_eq_ok.mp hApply with
    ⟨hValid, rfl, _⟩
  exact .move toStatus actor eventType draw hValid

/- The object that moved is the same payment. -/
theorem id_of_applyTransition
    {toStatus : PaymentStatus}
    {actor : Actor}
    {eventType : String}
    (hApply :
      applyTransition db intent toStatus actor eventType
        draw = .ok (db', moved)) :
    moved.id = intent.id := by
  rw [(applyTransition_eq_ok.mp hApply).2.2]
  rfl

theorem id_of_applyAuthorizeOutcome
    (hApply :
      applyAuthorizeOutcome db intent outcome draw =
        .ok (db', moved)) :
    moved.id = intent.id := by
  unfold applyAuthorizeOutcome at hApply
  cases outcome with
  | declined => exact id_of_applyTransition hApply
  | unknown => exact id_of_applyTransition hApply
  | succeeded =>
      cases hApply
      rfl
  | temporaryFailure =>
      cases hApply
      rfl

theorem of_applyAuthorizeOutcome
    (hApply :
      applyAuthorizeOutcome db intent outcome draw =
        .ok (db', moved)) :
    Moved db intent db' := by
  unfold applyAuthorizeOutcome at hApply
  cases outcome with
  | declined => exact of_applyTransition hApply
  | unknown => exact of_applyTransition hApply
  | succeeded =>
      cases hApply
      exact .stay
  | temporaryFailure =>
      cases hApply
      exact .stay

theorem of_enterRefundPending
    (hEnter :
      enterRefundPending db intent draw =
        .ok (db', moved)) :
    Moved db intent db' := by
  unfold enterRefundPending at hEnter
  split at hEnter
  · cases hEnter
    exact .stay
  · exact of_applyTransition hEnter

theorem of_leaveRefundPending
    (hLeave :
      leaveRefundPending db intent draw =
        .ok (db', moved)) :
    Moved db intent db' := by
  unfold leaveRefundPending at hLeave
  split at hLeave
  · split at hLeave
    · exact of_applyTransition hLeave
    · split at hLeave
      · exact of_applyTransition hLeave
      · exact of_applyTransition hLeave
  · cases hLeave
    exact .stay

theorem refunds
    (hMoved : Moved db intent db') :
    db'.refunds = db.refunds := by
  cases hMoved <;> rfl

theorem ledger
    (hMoved : Moved db intent db') :
    db'.ledger = db.ledger := by
  cases hMoved <;> rfl

theorem attempts
    (hMoved : Moved db intent db') :
    db'.attempts = db.attempts := by
  cases hMoved <;> rfl

theorem keys
    (hMoved : Moved db intent db') :
    db'.keys = db.keys := by
  cases hMoved <;> rfl

theorem trailMove
    (hMoved : Moved db intent db') :
    TrailMove db intent db' := by
  cases hMoved with
  | stay => exact .stay (SameTrail.refl _)
  | move toStatus actor eventType draw hValid =>
      exact .move toStatus actor eventType draw hValid
        (SameTrail.refl _)

end Moved

end PayGuard

------------------------------------------------------------
-- Creating And Capturing
------------------------------------------------------------

namespace PayGuard

variable {db db' : Database}
variable {locked : Option PaymentIntent}
variable {intent moved : PaymentIntent}
variable {keyRow : IdempotencyKey}
variable {keyRowId : Uuid}
variable {result : ProviderResult}
variable {response : Response}
variable {draw : Draw}

/- The first transaction of a creation, row by row. -/
theorem createInsert_eq_ok
    {indexable : PyString → Bool}
    {request : CreateRequest}
    (hBody :
      createInsert indexable db request keyRow draw =
        .ok (db', intent)) :
    intent =
        { id := draw.payment
          merchantId := request.merchantId
          amountMinor := request.amountMinor
          currency := request.currency
          merchantReference := request.merchantReference
          status := .created
          createdAt := draw.serverNow } ∧
      0 < request.amountMinor ∧
      db' =
        { db.putKey keyRow with
          payments := (db.putKey keyRow).payments ++ [intent]
          events :=
            (db.putKey keyRow).events ++
              [{ paymentIntentId := draw.payment
                 fromStatus := none
                 toStatus := .created
                 actor := .api
                 createdAt := draw.serverNow }]
          outbox :=
            (db.putKey keyRow).outbox ++
              [{ id := draw.outbox
                 aggregateType := .paymentIntent
                 aggregateId := draw.payment
                 eventType := "payment.created"
                 payload := .payment draw.payment none }] } := by
  unfold createInsert at hBody
  simp only at hBody
  split at hBody
  · cases hBody
  · rename_i hInsert
    rcases insertPayment_eq_ok hInsert with
      ⟨hPositive, hInserted⟩
    cases hBody
    subst hInserted
    exact ⟨rfl, hPositive, rfl⟩

theorem createProcess_eq_ok
    (hBody :
      createProcess db locked draw = .ok (db', moved)) :
    ∃ intent,
      locked = some intent ∧
        applyTransition db intent .processing .api
          "payment.processing" draw = .ok (db', moved) := by
  unfold createProcess at hBody
  cases locked with
  | none => cases hBody
  | some intent => exact ⟨intent, rfl, hBody⟩

theorem createBlock_eq_ok
    (hBody :
      createBlock db locked keyRowId draw =
        .ok (db', response)) :
    ∃ intent base moved,
      locked = some intent ∧
        applyTransition db intent .failed .api
          "payment.blocked" draw = .ok (base, moved) ∧
        db' =
          completeIdempotencyKey base keyRowId
            (some moved.id) 201 (serializePayment moved) ∧
        response = ⟨201, serializePayment moved⟩ := by
  unfold createBlock at hBody
  cases locked with
  | none => cases hBody
  | some intent =>
      simp only at hBody
      split at hBody
      · cases hBody
      · rename_i base moved hApply
        cases hBody
        exact ⟨intent, base, moved, rfl, hApply, rfl, rfl⟩

/- The last transaction of a creation, in its order. -/
theorem createFinish_eq_ok
    {providerName : String}
    (hBody :
      createFinish db locked keyRowId providerName result
        draw = .ok (db', response)) :
    ∃ intent attempt base moved added,
      locked = some intent ∧
        applyAuthorizeOutcome
          { db with attempts := db.attempts ++ [attempt] }
          intent result.outcome draw = .ok (base, moved) ∧
        db' =
          completeIdempotencyKey
            { base with
              providerTransactions :=
                base.providerTransactions ++ added }
            keyRowId (some moved.id) 201
            (serializePayment moved) ∧
        response = ⟨201, serializePayment moved⟩ ∧
        Recorded db intent.id draw attempt added := by
  unfold createFinish at hBody
  cases locked with
  | none => cases hBody
  | some intent =>
      simp only at hBody
      split at hBody
      · cases hBody
      · rename_i hAttempt
        have hAttempted := insertAttempt_eq_ok hAttempt
        split at hBody
        · cases hBody
        · rename_i base moved hOutcome
          split at hBody
          · cases hBody
          · rename_i hTransaction
            rcases insertProviderTransaction_eq_ok
              hTransaction with ⟨added, hRows, hAdded⟩
            cases hBody
            rw [hAttempted] at hOutcome
            rw [hAdded]
            exact ⟨intent, _, base, moved, added, rfl,
              hOutcome, rfl, rfl, rfl, rfl, rfl, hRows⟩

/- A successful capture moves the payment and books it. -/
theorem applyCaptureOutcome_eq_ok
    {outcome : ProviderOutcome}
    (hBody :
      applyCaptureOutcome db intent outcome draw =
        .ok (db', moved)) :
    (outcome = .succeeded ∧
        ∃ base,
          applyTransition db intent .succeeded .api
            "payment.succeeded" draw = .ok (base, moved) ∧
          db' =
            recordPaymentSettled base moved.id
              moved.amountMinor draw) ∨
      (outcome ≠ .succeeded ∧
        ∃ toStatus eventType,
          toStatus ≠ .succeeded ∧
            toStatus ≠ .processing ∧
            applyTransition db intent toStatus .api
              eventType draw = .ok (db', moved)) := by
  unfold applyCaptureOutcome at hBody
  cases outcome with
  | succeeded =>
      simp only at hBody
      split at hBody
      · cases hBody
      · rename_i base moved hApply
        cases hBody
        exact .inl ⟨rfl, base, hApply, rfl⟩
  | unknown =>
      exact .inr ⟨by simp, .unknown, _, by simp, by simp,
        hBody⟩
  | declined =>
      exact .inr ⟨by simp, .failed, _, by simp, by simp,
        hBody⟩
  | temporaryFailure =>
      exact .inr ⟨by simp, .failed, _, by simp, by simp,
        hBody⟩

/- A capture's outcome concerns no key row. -/
theorem applyCaptureOutcome_keys
    {outcome : ProviderOutcome}
    (hBody :
      applyCaptureOutcome db intent outcome draw =
        .ok (db', moved)) :
    db'.keys = db.keys ∧ moved.id = intent.id := by
  rcases applyCaptureOutcome_eq_ok hBody with
    ⟨_, base, hApply, rfl⟩ | ⟨_, _, _, _, _, hApply⟩
  · have hKeys := (Moved.of_applyTransition hApply).keys
    exact ⟨hKeys, Moved.id_of_applyTransition hApply⟩
  · exact ⟨(Moved.of_applyTransition hApply).keys,
      Moved.id_of_applyTransition hApply⟩

theorem captureFinish_eq_ok
    (hBody :
      captureFinish db intent keyRow result draw =
        .ok (db', response)) :
    ∃ base moved,
      applyCaptureOutcome (db.putKey keyRow) intent
          result.outcome draw = .ok (base, moved) ∧
        db' =
          completeIdempotencyKey base keyRow.id
            (some moved.id) 200 (serializePayment moved) ∧
        response = ⟨200, serializePayment moved⟩ := by
  unfold captureFinish at hBody
  split at hBody
  · cases hBody
  · rename_i base moved hOutcome
    cases hBody
    exact ⟨base, moved, hOutcome, rfl, rfl⟩

theorem createProcess_trailMove
    (hBody :
      createProcess db locked draw = .ok (db', moved)) :
    ∃ intent,
      locked = some intent ∧ TrailMove db intent db' := by
  rcases createProcess_eq_ok hBody with
    ⟨intent, hLocked, hApply⟩
  exact ⟨intent, hLocked,
    (Moved.of_applyTransition hApply).trailMove⟩

theorem createBlock_trailMove
    (hBody :
      createBlock db locked keyRowId draw =
        .ok (db', response)) :
    ∃ intent,
      locked = some intent ∧ TrailMove db intent db' := by
  rcases createBlock_eq_ok hBody with
    ⟨intent, base, moved, hLocked, hApply, rfl, _⟩
  exact ⟨intent, hLocked,
    (Moved.of_applyTransition hApply).trailMove.andThen
      ⟨rfl, rfl, rfl⟩⟩

theorem createFinish_trailMove
    {providerName : String}
    (hBody :
      createFinish db locked keyRowId providerName result
        draw = .ok (db', response)) :
    ∃ intent,
      locked = some intent ∧ TrailMove db intent db' := by
  rcases createFinish_eq_ok hBody with
    ⟨intent, attempt, base, moved, added, hLocked, hApply,
      rfl, _⟩
  have hMove :=
    (Moved.of_applyAuthorizeOutcome hApply).trailMove
  refine ⟨intent, hLocked,
    TrailMove.after ?_ (hMove.andThen ?_)⟩
  · exact ⟨rfl, rfl, rfl⟩
  · exact ⟨rfl, rfl, rfl⟩

theorem captureSettled_sameTrail
    (db : Database)
    (intent : PaymentIntent)
    (keyRow : IdempotencyKey) :
    SameTrail db (captureSettled db intent keyRow).1 :=
  (SameTrail.putKey db keyRow).trans ⟨rfl, rfl, rfl⟩

theorem captureFinish_trailMove
    (hBody :
      captureFinish db intent keyRow result draw =
        .ok (db', response)) :
    TrailMove db intent db' := by
  rcases captureFinish_eq_ok hBody with
    ⟨base, moved, hOutcome, rfl, _⟩
  refine TrailMove.after (SameTrail.putKey db keyRow) ?_
  rcases applyCaptureOutcome_eq_ok hOutcome with
    ⟨_, settled, hApply, rfl⟩ |
      ⟨_, toStatus, eventType, _, _, hApply⟩
  · exact (Moved.of_applyTransition hApply).trailMove.andThen
      ⟨rfl, rfl, rfl⟩
  · exact (Moved.of_applyTransition hApply).trailMove.andThen
      ⟨rfl, rfl, rfl⟩

end PayGuard

------------------------------------------------------------
-- Refunding
------------------------------------------------------------

namespace PayGuard

variable {db db' : Database}
variable {locked : Option PaymentIntent}
variable {keyRow : IdempotencyKey}
variable {keyRowId : Uuid}
variable {result : ProviderResult}
variable {response : Response}
variable {draw : Draw}

/-
  The reserving transaction: what it checked, and the
  refund it added before it moved the payment.
-/
theorem refundReserve_eq_ok
    {request : RefundRequest}
    {reservation : Reservation}
    (hBody :
      refundReserve db locked request keyRow draw =
        .ok (db', reservation)) :
    ∃ intent,
      locked = some intent ∧
        intent.status.isRefundableSource = true ∧
        request.amountMinor ≤
          intent.amountMinor - reservedAmount db intent.id ∧
        latestSuccessfulProviderTransaction db intent.id =
          some reservation.transaction ∧
        reservation.refund =
          { id := draw.refund
            paymentIntentId := intent.id
            amountMinor := request.amountMinor
            status := .pending
            createdAt := draw.serverNow } ∧
        0 < request.amountMinor ∧
        enterRefundPending
          { db.putKey keyRow with
            refunds :=
              (db.putKey keyRow).refunds ++
                [reservation.refund] }
          intent draw = .ok (db', reservation.intent) := by
  unfold refundReserve at hBody
  cases locked with
  | none => cases hBody
  | some intent =>
      simp only at hBody
      split at hBody
      · cases hBody
      · rename_i hSource
        split at hBody
        · cases hBody
        · rename_i hRemaining
          split at hBody
          · cases hBody
          · rename_i transaction hTransaction
            split at hBody
            · cases hBody
            · rename_i hInsert
              rcases insertRefund_eq_ok hInsert with
                ⟨hPositive, hInserted⟩
              split at hBody
              · cases hBody
              · rename_i hEnter
                cases hBody
                refine ⟨intent, rfl, by simpa using hSource,
                  not_lt.mp hRemaining, hTransaction, rfl,
                  hPositive, ?_⟩
                rw [hInserted] at hEnter
                exact hEnter

theorem refundReserve_trailMove
    {request : RefundRequest}
    {reservation : Reservation}
    (hBody :
      refundReserve db locked request keyRow draw =
        .ok (db', reservation)) :
    ∃ intent,
      locked = some intent ∧ TrailMove db intent db' := by
  rcases refundReserve_eq_ok hBody with
    ⟨intent, hLocked, _, _, _, _, _, hEnter⟩
  refine ⟨intent, hLocked, TrailMove.after ?_
    (Moved.of_enterRefundPending hEnter).trailMove⟩
  exact (SameTrail.putKey db keyRow).trans ⟨rfl, rfl, rfl⟩

/- The finalizing transaction, cut at its two halves. -/
theorem refundFinalize_eq_ok
    {refund : Refund}
    (hBody :
      refundFinalize db locked refund keyRowId result draw =
        .ok (db', response)) :
    ∃ intent dbLeft moved body,
      locked = some intent ∧
        leaveRefundPending
          (settleRefund db intent refund result.outcome draw)
          intent draw = .ok (dbLeft, moved) ∧
        db' =
          completeIdempotencyKey dbLeft keyRowId
            (some moved.id) 201 body (some refund.id) ∧
        body =
          serializeRefund
            { refund with
              status := finalRefundStatus result.outcome } ∧
        response = ⟨201, body⟩ := by
  unfold refundFinalize at hBody
  cases locked with
  | none => cases hBody
  | some intent =>
      simp only at hBody
      split at hBody
      · cases hBody
      · rename_i dbLeft moved hLeave
        cases hBody
        exact ⟨intent, dbLeft, moved, _, rfl, hLeave, rfl,
          rfl, rfl⟩

theorem settleRefund_sameTrail
    (db : Database)
    (intent : PaymentIntent)
    (refund : Refund)
    (outcome : ProviderOutcome)
    (draw : Draw) :
    SameTrail db
      (settleRefund db intent refund outcome draw) := by
  unfold settleRefund
  simp only
  split
  · exact ⟨rfl, rfl, rfl⟩
  · exact ⟨rfl, rfl, rfl⟩

theorem refundFinalize_trailMove
    {refund : Refund}
    (hBody :
      refundFinalize db locked refund keyRowId result draw =
        .ok (db', response)) :
    ∃ intent,
      locked = some intent ∧ TrailMove db intent db' := by
  rcases refundFinalize_eq_ok hBody with
    ⟨intent, dbLeft, moved, body, hLocked, hLeave, rfl, _⟩
  refine ⟨intent, hLocked, TrailMove.after
    (settleRefund_sameTrail db intent refund result.outcome
      draw) ?_⟩
  exact (Moved.of_leaveRefundPending hLeave).trailMove.andThen
    ⟨rfl, rfl, rfl⟩

end PayGuard

------------------------------------------------------------
-- Webhooks And Reconciliation
------------------------------------------------------------

namespace PayGuard

variable {db db' : Database}
variable {locked : Option PaymentIntent}
variable {intent moved : PaymentIntent}
variable {result : ProviderResult}
variable {draw : Draw}

/- A delivery adds outbox rows of webhooks only. -/
theorem receiveWebhook_sameTrail
    (db : Database)
    (delivery : WebhookDelivery)
    (draw : Draw) :
    SameTrail db (receiveWebhook db delivery draw) := by
  unfold receiveWebhook
  split
  · exact SameTrail.refl db
  · refine ⟨rfl, rfl, ?_⟩
    simp [Database.paymentOutbox]

/- A handler either marks its event or moves the payment. -/
theorem handlePaymentOutcome_eq_ok
    {webhookEventId : Uuid}
    {targetStatus : PaymentStatus}
    (hBody :
      handlePaymentOutcome db locked webhookEventId
        targetStatus draw = .ok db') :
    ∃ intent status,
      locked = some intent ∧
        (db' = setProcessingStatus db webhookEventId status ∨
          (intent.status ≠ targetStatus ∧
            ∃ base moved,
              applyTransition db intent targetStatus .webhook
                  (webhookEventType targetStatus) draw =
                .ok (base, moved) ∧
              db' =
                setProcessingStatus
                  (settleByWebhook base moved targetStatus
                    draw)
                  webhookEventId status)) := by
  unfold handlePaymentOutcome at hBody
  cases locked with
  | none => cases hBody
  | some intent =>
      simp only at hBody
      split at hBody
      · cases hBody
        exact ⟨intent, _, rfl, .inl rfl⟩
      · rename_i hStatus
        split at hBody
        · cases hBody
          exact ⟨intent, _, rfl, .inl rfl⟩
        · split at hBody
          · cases hBody
          · rename_i base moved hApply
            cases hBody
            exact ⟨intent, _, rfl, .inr
              ⟨hStatus, base, moved, hApply, rfl⟩⟩

theorem settleByWebhook_sameTrail
    (db : Database)
    (intent : PaymentIntent)
    (targetStatus : PaymentStatus)
    (draw : Draw) :
    SameTrail db
      (settleByWebhook db intent targetStatus draw) := by
  unfold settleByWebhook
  split
  · exact ⟨rfl, rfl, rfl⟩
  · exact SameTrail.refl db

theorem handlePaymentOutcome_trailMove
    {webhookEventId : Uuid}
    {targetStatus : PaymentStatus}
    (hBody :
      handlePaymentOutcome db locked webhookEventId
        targetStatus draw = .ok db') :
    ∃ intent,
      locked = some intent ∧ TrailMove db intent db' := by
  rcases handlePaymentOutcome_eq_ok hBody with
    ⟨intent, status, hLocked, rfl |
      ⟨_, base, moved, hApply, rfl⟩⟩
  · exact ⟨intent, hLocked, .stay ⟨rfl, rfl, rfl⟩⟩
  · exact ⟨intent, hLocked,
      (Moved.of_applyTransition hApply).trailMove.andThen
        ((settleByWebhook_sameTrail base moved targetStatus
          draw).trans ⟨rfl, rfl, rfl⟩)⟩

/- A positive resolution, in its order. -/
theorem resolveSucceeded_eq_ok
    {providerName : String}
    (hBody :
      resolveSucceeded db intent providerName result draw =
        .ok db') :
    ∃ attempt base moved added,
      Recorded db intent.id draw attempt added ∧
        applyTransition
          { db with attempts := db.attempts ++ [attempt] }
          intent .succeeded .reconciliation
          "reconciliation.resolved_succeeded" draw =
            .ok (base, moved) ∧
        db' =
          { recordPaymentSettled base moved.id
              moved.amountMinor draw with
            providerTransactions :=
              base.providerTransactions ++ added } := by
  unfold resolveSucceeded at hBody
  simp only at hBody
  split at hBody
  · cases hBody
  · rename_i hAttempt
    have hAttempted := insertAttempt_eq_ok hAttempt
    split at hBody
    · cases hBody
    · rename_i base moved hApply
      rcases insertProviderTransaction_eq_ok hBody with
        ⟨added, hRows, hAdded⟩
      rw [hAttempted] at hApply
      exact ⟨_, base, moved, added, ⟨rfl, rfl, rfl, hRows⟩,
        hApply, hAdded⟩

/- A negative resolution, in its order. -/
theorem resolveFailed_eq_ok
    {providerName : String}
    (hBody :
      resolveFailed db intent providerName result draw =
        .ok db') :
    ∃ attempt base moved,
      Recorded db intent.id draw attempt [] ∧
        applyTransition db intent .failed .reconciliation
          "reconciliation.resolved_failed" draw =
            .ok (base, moved) ∧
        db' =
          { base with
            attempts := base.attempts ++ [attempt] } := by
  unfold resolveFailed at hBody
  simp only at hBody
  split at hBody
  · cases hBody
  · rename_i base moved hApply
    exact ⟨_, base, moved, ⟨rfl, rfl, rfl, by simp⟩, hApply,
      insertAttempt_eq_ok hBody⟩

/- A resolution is a positive one or a negative one. -/
theorem resolve_eq_ok
    {providerName : String}
    {report : ReconciliationReport}
    (hBody :
      resolve db intent providerName result draw =
        .ok (db', report)) :
    (result.outcome = .succeeded ∧
        report.result = .resolvedSucceeded ∧
        resolveSucceeded db intent providerName result draw =
          .ok db') ∨
      (result.outcome ≠ .succeeded ∧
        report.result = .resolvedFailed ∧
        resolveFailed db intent providerName result draw =
          .ok db') := by
  unfold resolve at hBody
  simp only at hBody
  split at hBody
  · rename_i hOutcome
    split at hBody
    · cases hBody
    · rename_i hResolve
      cases hBody
      exact .inl ⟨hOutcome, rfl, hResolve⟩
  · rename_i hOutcome
    split at hBody
    · cases hBody
    · rename_i hResolve
      cases hBody
      exact .inr ⟨hOutcome, rfl, hResolve⟩

/-
  The second locked transaction of a reconciliation does
  nothing, records another unknown answer, or resolves.
-/
theorem reconcileApply_eq_ok
    {providerName : String}
    {report : ReconciliationReport}
    (hBody :
      reconcileApply db locked providerName result draw =
        .ok (db', report)) :
    ∃ intent,
      locked = some intent ∧
        ((db' = db ∧
            (intent.status ≠ .unknown →
              report.result = .matched)) ∨
          (intent.status = .unknown ∧
            result.outcome = .unknown ∧
            report.result = .stillUnknown ∧
            ∃ moved,
              applyTransition db intent .unknown
                .reconciliation
                "reconciliation.still_unknown" draw =
                  .ok (db', moved)) ∨
          (intent.status = .unknown ∧
            resolve db intent providerName result draw =
              .ok (db', report))) := by
  unfold reconcileApply at hBody
  cases locked with
  | none => cases hBody
  | some intent =>
      refine ⟨intent, rfl, ?_⟩
      simp only at hBody
      split at hBody
      · cases hBody
        exact .inl ⟨rfl, fun _ => rfl⟩
      · rename_i hStatus
        have hUnknown : intent.status = .unknown :=
          not_not.mp hStatus
        split at hBody
        · rename_i hOutcome
          split at hBody
          · cases hBody
          · rename_i moved hApply
            cases hBody
            exact .inr (.inl
              ⟨hUnknown, hOutcome, rfl, moved, hApply⟩)
        · split at hBody
          · cases hBody
            exact .inl ⟨rfl, fun h => absurd hUnknown h⟩
          · split at hBody
            · cases hBody
              exact .inl ⟨rfl, fun h => absurd hUnknown h⟩
            · exact .inr (.inr ⟨hUnknown, hBody⟩)

/- The report is about the payment that was locked. -/
theorem reconcileApply_report
    {providerName : String}
    {report : ReconciliationReport}
    (hBody :
      reconcileApply db locked providerName result draw =
        .ok (db', report)) :
    ∃ intent,
      locked = some intent ∧
        report.paymentIntentId = intent.id := by
  unfold reconcileApply at hBody
  cases locked with
  | none => cases hBody
  | some intent =>
      refine ⟨intent, rfl, ?_⟩
      simp only at hBody
      split at hBody
      · cases hBody
        rfl
      · split at hBody
        · split at hBody
          · cases hBody
          · rename_i hApply
            cases hBody
            exact Moved.id_of_applyTransition hApply
        · split at hBody
          · cases hBody
            rfl
          · split at hBody
            · cases hBody
              rfl
            · unfold resolve at hBody
              simp only at hBody
              split at hBody
              · split at hBody
                · cases hBody
                · cases hBody
                  rfl
              · split at hBody
                · cases hBody
                · cases hBody
                  rfl

/- A reconciliation concerns no key row. -/
theorem reconcileApply_keys
    {providerName : String}
    {report : ReconciliationReport}
    (hBody :
      reconcileApply db locked providerName result draw =
        .ok (db', report)) :
    db'.keys = db.keys := by
  rcases reconcileApply_eq_ok hBody with
    ⟨_, _, ⟨rfl, _⟩ | ⟨_, _, _, _, hApply⟩ | ⟨_, hResolve⟩⟩
  · rfl
  · exact (Moved.of_applyTransition hApply).keys
  · rcases resolve_eq_ok hResolve with
      ⟨_, _, hSucceeded⟩ | ⟨_, _, hFailed⟩
    · rcases resolveSucceeded_eq_ok hSucceeded with
        ⟨_, base, _, _, _, hApply, rfl⟩
      exact (Moved.of_applyTransition hApply).keys
    · rcases resolveFailed_eq_ok hFailed with
        ⟨_, base, _, _, hApply, rfl⟩
      exact (Moved.of_applyTransition hApply).keys

theorem reconcileApply_trailMove
    {providerName : String}
    {report : ReconciliationReport}
    (hBody :
      reconcileApply db locked providerName result draw =
        .ok (db', report)) :
    ∃ intent,
      locked = some intent ∧ TrailMove db intent db' := by
  rcases reconcileApply_eq_ok hBody with
    ⟨intent, hLocked, ⟨rfl, _⟩ |
      ⟨_, _, _, moved, hApply⟩ | ⟨_, hResolve⟩⟩
  · exact ⟨intent, hLocked, .stay (SameTrail.refl _)⟩
  · exact ⟨intent, hLocked,
      (Moved.of_applyTransition hApply).trailMove⟩
  · refine ⟨intent, hLocked, ?_⟩
    rcases resolve_eq_ok hResolve with
      ⟨_, _, hSucceeded⟩ | ⟨_, _, hFailed⟩
    · rcases resolveSucceeded_eq_ok hSucceeded with
        ⟨attempt, base, moved, added, _, hApply, rfl⟩
      have hMove :=
        (Moved.of_applyTransition hApply).trailMove
      refine TrailMove.after ?_ (hMove.andThen ?_)
      · exact ⟨rfl, rfl, rfl⟩
      · exact ⟨rfl, rfl, rfl⟩
    · rcases resolveFailed_eq_ok hFailed with
        ⟨attempt, base, moved, _, hApply, rfl⟩
      exact (Moved.of_applyTransition
        hApply).trailMove.andThen ⟨rfl, rfl, rfl⟩

end PayGuard

import PayGuard.System.Lifecycle

/-
  Whose payment a webhook reaches.

  A provider transaction is unique within its provider, and
  a webhook names both.  The handler looks its payment up by
  the transaction identifier alone.

  Key definitions include:
    * `applyWebhookEvent`
    * `UniqueRows`
    * `paymentsOfProvider`
    * `ReachesOwnPayment`
    * `SparesOthers`

  Key theorems include:
    * `paymentsOfProvider_unique`
    * `webhook_reaches_own_payment_iff`
    * `shared_transaction_id_misdirects`
-/

------------------------------------------------------------
-- Applying An Event
------------------------------------------------------------

namespace PayGuard

/- `apply_webhook_event`, with nothing in between. -/
def applyWebhookEvent
    (config : Config)
    (db : Database)
    (webhookEventId pick : Uuid)
    (draw : Draw) : Except Failure Database :=
  dispatchEffect config db webhookEventId
    (planWebhookEvent db webhookEventId pick) draw

/- The unique constraints of the tables the handler reads. -/
structure UniqueRows (db : Database) : Prop where
  payments : (db.payments.map (·.id)).Nodup
  attempts : (db.attempts.map (·.id)).Nodup
  attemptNumbers :
    (db.attempts.map (fun attempt =>
      (attempt.paymentIntentId,
        attempt.attemptNumber))).Nodup
  transactions :
    (db.providerTransactions.map
      (·.paymentAttemptId)).Nodup
  transactionIds :
    (db.providerTransactions.map (fun transaction =>
      (transaction.providerName,
        transaction.providerTransactionId))).Nodup
  webhooks : (db.webhooks.map (·.id)).Nodup
  webhookNames :
    (db.webhooks.map (fun event =>
      (event.providerName, event.providerEventId))).Nodup

/- The payments with an attempt that led to a transaction. -/
def paymentsOfProvider
    (db : Database)
    (providerName providerTransactionId : String) :
    List PaymentIntent :=
  db.payments.filter (fun intent =>
    db.attempts.any (fun attempt =>
      attempt.paymentIntentId = intent.id &&
        db.providerTransactions.any (fun transaction =>
          transaction.paymentAttemptId = attempt.id &&
            transaction.providerName = providerName &&
              transaction.providerTransactionId =
                providerTransactionId)))

/-
  What applying an event may do: change the one payment of
  its own provider's transaction, and where there is none,
  ignore the event and nothing else.
-/
structure ReachesOwnPayment
    (db : Database)
    (event : WebhookEvent)
    (providerTransactionId : String)
    (next : Database) : Prop where
  ids : next.payments.map (·.id) = db.payments.map (·.id)
  own :
    ∀ row ∈ db.payments,
      row ∉ next.payments →
        row ∈ paymentsOfProvider db event.providerName
          providerTransactionId
  once :
    ∀ row ∈ db.payments,
      ∀ other ∈ db.payments,
        row ∉ next.payments →
          other ∉ next.payments →
            row = other
  ignored :
    paymentsOfProvider db event.providerName
          providerTransactionId = [] →
      next = setProcessingStatus db event.id .ignored

/-
  Every payment with a transaction of that identifier is the
  event's own, or the event cannot act on it.
-/
def SparesOthers
    (db : Database)
    (event : WebhookEvent)
    (providerTransactionId : String) : Prop :=
  ∀ targetStatus,
    webhookTarget event.eventType = some targetStatus →
      providerTransactionId ≠ "" →
        ∀ row ∈ paymentsOfTransaction db
            providerTransactionId,
          row ∈ paymentsOfProvider db event.providerName
              providerTransactionId ∨
            (row.status = targetStatus ∧
              paymentsOfProvider db event.providerName
                providerTransactionId ≠ []) ∨
            (row.status ≠ targetStatus ∧
              isValidPaymentTransition row.status
                targetStatus (some .webhook) = false)

------------------------------------------------------------
-- Owners
------------------------------------------------------------

variable {config : Config}
variable {db next : Database}
variable {event : WebhookEvent}
variable {row other : PaymentIntent}
variable {providerName providerTransactionId : String}
variable {targetStatus : PaymentStatus}
variable {pick : Uuid}
variable {draw : Draw}

theorem mem_paymentsOfProvider :
    row ∈ paymentsOfProvider db providerName
        providerTransactionId ↔
      row ∈ db.payments ∧
        ∃ attempt ∈ db.attempts,
          attempt.paymentIntentId = row.id ∧
            ∃ transaction ∈ db.providerTransactions,
              transaction.paymentAttemptId = attempt.id ∧
                transaction.providerName = providerName ∧
                transaction.providerTransactionId =
                  providerTransactionId := by
  simp only [paymentsOfProvider, List.mem_filter,
    List.any_eq_true, Bool.and_eq_true, decide_eq_true_eq,
    and_assoc]

/- A provider's transaction belongs to one payment. -/
theorem paymentsOfProvider_unique
    (hUnique : UniqueRows db)
    (hRow :
      row ∈ paymentsOfProvider db providerName
        providerTransactionId)
    (hOther :
      other ∈ paymentsOfProvider db providerName
        providerTransactionId) :
    row = other := by
  rcases mem_paymentsOfProvider.mp hRow with
    ⟨hStored, attempt, hAttempt, hPayment, transaction,
      hTransaction, hLink, hName, hId⟩
  rcases mem_paymentsOfProvider.mp hOther with
    ⟨hStored', attempt', hAttempt', hPayment', transaction',
      hTransaction', hLink', hName', hId'⟩
  have hSameTransaction : transaction = transaction' := by
    apply List.inj_on_of_nodup_map hUnique.transactionIds
      hTransaction hTransaction'
    simp [hName, hName', hId, hId']
  have hSameAttempt : attempt = attempt' := by
    apply List.inj_on_of_nodup_map hUnique.attempts
      hAttempt hAttempt'
    rw [← hLink, ← hLink', hSameTransaction]
  apply List.inj_on_of_nodup_map hUnique.payments hStored
    hStored'
  rw [← hPayment, ← hPayment', hSameAttempt]

end PayGuard

------------------------------------------------------------
-- What The Handler Does
------------------------------------------------------------

namespace PayGuard

variable {config : Config}
variable {db next : Database}
variable {event : WebhookEvent}
variable {row : PaymentIntent}
variable {providerTransactionId : String}
variable {targetStatus : PaymentStatus}
variable {pick : Uuid}
variable {draw : Draw}

/- A transition always leaves another row behind. -/
theorem moveTo_ne
    (row : PaymentIntent)
    (targetStatus : PaymentStatus) :
    row.moveTo targetStatus ≠ row := by
  intro hSame
  have hVersion :=
    congrArg PaymentIntent.version hSame
  simp [PaymentIntent.moveTo] at hVersion

/- Only the moved row is replaced. -/
theorem eq_of_not_mem_move
    {other : PaymentIntent}
    (hIds : (db.payments.map (·.id)).Nodup)
    (hRow : row ∈ db.payments)
    (hOther : other ∈ db.payments)
    (hGone :
      other ∉
        Table.updateWhere (fun old => old.id = row.id)
          (flushPayment row (row.moveTo targetStatus))
          db.payments) :
    other = row := by
  by_contra hDiffers
  apply hGone
  rw [Table.mem_updateWhere]
  refine ⟨other, hOther, ?_⟩
  have hId : other.id ≠ row.id := by
    intro hId
    exact hDiffers
      (List.inj_on_of_nodup_map hIds hOther hRow hId)
  simp [hId]

theorem not_mem_move
    (hIds : (db.payments.map (·.id)).Nodup)
    (hRow : row ∈ db.payments) :
    row ∉
      Table.updateWhere (fun old => old.id = row.id)
        (flushPayment row (row.moveTo targetStatus))
        db.payments := by
  rw [Table.mem_updateWhere]
  rintro ⟨old, hOld, hSame⟩
  by_cases hId : old.id = row.id
  · have hEq :=
      List.inj_on_of_nodup_map hIds hOld hRow hId
    subst hEq
    rw [if_pos (by simp), flushPayment_self] at hSame
    exact moveTo_ne old targetStatus hSame.symm
  · rw [if_neg (by simpa using hId)] at hSame
    exact hId (by rw [hSame])

/- The locked row is the one the unlocked read returned. -/
theorem dispatchEffect_outcome
    {webhookEventId : Uuid}
    (hIds : (db.payments.map (·.id)).Nodup)
    (hRow : row ∈ db.payments) :
    dispatchEffect config db webhookEventId
        (.outcome targetStatus row) draw =
      handlePaymentOutcome db (some row) webhookEventId
        targetStatus draw := by
  unfold dispatchEffect
  simp only
  rw [lockPayment_of_mem hIds hRow (.inr rfl)]

theorem planWebhookEvent_of_unhandled
    (hUnique : UniqueRows db)
    (hEvent : event ∈ db.webhooks)
    (hReceived : event.processingStatus = .received)
    (hTarget : webhookTarget event.eventType = none) :
    planWebhookEvent db event.id pick = .ignore := by
  unfold planWebhookEvent
  rw [Table.find?_of_nodup_map hUnique.webhooks hEvent]
  simp [hReceived, hTarget]

theorem planWebhookEvent_of_handled
    (hUnique : UniqueRows db)
    (hEvent : event ∈ db.webhooks)
    (hReceived : event.processingStatus = .received)
    (hTarget :
      webhookTarget event.eventType = some targetStatus) :
    planWebhookEvent db event.id pick =
      planPaymentOutcome db event.providerTransactionId
        targetStatus pick := by
  unfold planWebhookEvent
  rw [Table.find?_of_nodup_map hUnique.webhooks hEvent]
  simp [hReceived, hTarget]

/- A named payment is the one the unlocked read returns. -/
theorem planPaymentOutcome_self
    (hUnique : UniqueRows db)
    (hNamed : providerTransactionId ≠ "")
    (hRow :
      row ∈ paymentsOfTransaction db
        providerTransactionId) :
    planPaymentOutcome db (some providerTransactionId)
        targetStatus row.id = .outcome targetStatus row := by
  have hIds :
      ((paymentsOfTransaction db
        providerTransactionId).map (·.id)).Nodup :=
    hUnique.payments.sublist (List.filter_sublist.map _)
  have hPick := Table.find?_of_nodup_map hIds hRow
  simp [planPaymentOutcome, limitOne, hNamed, hPick]

/- An event that is ignored changes nothing else. -/
theorem ReachesOwnPayment.of_ignored :
    ReachesOwnPayment db event providerTransactionId
      (setProcessingStatus db event.id .ignored) where
  ids := rfl
  own := fun _ hRow hGone => absurd hRow hGone
  once := fun _ hRow _ _ hGone => absurd hRow hGone
  ignored := fun _ => rfl

/- An event that is marked only, for a payment on file. -/
theorem ReachesOwnPayment.of_processed
    (hOwner :
      paymentsOfProvider db event.providerName
        providerTransactionId ≠ []) :
    ReachesOwnPayment db event providerTransactionId
      (setProcessingStatus db event.id .processed) where
  ids := rfl
  own := fun _ hRow hGone => absurd hRow hGone
  once := fun _ hRow _ _ hGone => absurd hRow hGone
  ignored := fun hNone => absurd hNone hOwner

/- A change of status, as the handler commits it. -/
def movedByWebhook
    (db : Database)
    (event : WebhookEvent)
    (row : PaymentIntent)
    (targetStatus : PaymentStatus)
    (draw : Draw) : Database :=
  setProcessingStatus
    (settleByWebhook
      (db.recordTransition row targetStatus .webhook
        (webhookEventType targetStatus) draw)
      (row.moveTo targetStatus) targetStatus draw)
    event.id .processed

theorem movedByWebhook_payments :
    (movedByWebhook db event row targetStatus
        draw).payments =
      Table.updateWhere (fun old => old.id = row.id)
        (flushPayment row (row.moveTo targetStatus))
        db.payments := by
  unfold movedByWebhook settleByWebhook
  split <;> rfl

theorem ReachesOwnPayment.of_moved
    (hUnique : UniqueRows db)
    (hOwn :
      row ∈ paymentsOfProvider db event.providerName
        providerTransactionId) :
    ReachesOwnPayment db event providerTransactionId
      (movedByWebhook db event row targetStatus draw) := by
  have hStored := (mem_paymentsOfProvider.mp hOwn).1
  have hOnly :
      ∀ other ∈ db.payments,
        other ∉
            (movedByWebhook db event row targetStatus
              draw).payments →
          other = row := by
    intro other hOther hGone
    rw [movedByWebhook_payments] at hGone
    exact eq_of_not_mem_move hUnique.payments hStored hOther
      hGone
  constructor
  · rw [movedByWebhook_payments]
    apply Table.map_updateWhere
    intro old
    rfl
  · intro other hOther hGone
    rw [hOnly other hOther hGone]
    exact hOwn
  · intro first hFirst second hSecond hFirstGone hSecondGone
    rw [hOnly first hFirst hFirstGone,
      hOnly second hSecond hSecondGone]
  · intro hNone
    rw [hNone] at hOwn
    cases hOwn

/- What the handler does with the payment it has locked. -/
inductive Outcome
    (db : Database)
    (event : WebhookEvent)
    (row : PaymentIntent)
    (targetStatus : PaymentStatus)
    (draw : Draw) : Except Failure Database → Prop where
| already
    (hStatus : row.status = targetStatus) :
    Outcome db event row targetStatus draw
      (.ok (setProcessingStatus db event.id .processed))
| refused
    (hStatus : row.status ≠ targetStatus)
    (hInvalid :
      isValidPaymentTransition row.status targetStatus
        (some .webhook) = false) :
    Outcome db event row targetStatus draw
      (.ok (setProcessingStatus db event.id .ignored))
| moved
    (hStatus : row.status ≠ targetStatus)
    (hValid :
      isValidPaymentTransition row.status targetStatus
        (some .webhook) = true) :
    Outcome db event row targetStatus draw
      (.ok (movedByWebhook db event row targetStatus draw))

theorem outcome_of_locked
    (db : Database)
    (event : WebhookEvent)
    (row : PaymentIntent)
    (targetStatus : PaymentStatus)
    (draw : Draw) :
    Outcome db event row targetStatus draw
      (handlePaymentOutcome db (some row) event.id
        targetStatus draw) := by
  unfold handlePaymentOutcome
  simp only
  by_cases hStatus : row.status = targetStatus
  · rw [if_pos hStatus]
    exact .already hStatus
  · rw [if_neg hStatus]
    cases hValid :
        isValidPaymentTransition row.status targetStatus
          (some .webhook) with
    | false => exact .refused hStatus hValid
    | true =>
        simp only [applyTransition, hValid]
        exact .moved hStatus hValid

/- A marked event differs from an ignored one. -/
theorem setProcessingStatus_ne
    (hEvent : event ∈ db.webhooks) :
    setProcessingStatus db event.id .processed ≠
      setProcessingStatus db event.id .ignored := by
  intro hSame
  have hWebhooks := congrArg Database.webhooks hSame
  simp only [setProcessingStatus, Table.updateWhere]
    at hWebhooks
  have hRow :=
    List.map_inj_left.mp hWebhooks event hEvent
  simp at hRow

------------------------------------------------------------
-- Main Results
------------------------------------------------------------

/-
  Whatever row the unlocked read returns, an event reaches
  no payment but its own, if and only if every other payment
  with a transaction of that identifier is one the event
  cannot act on.
-/
theorem webhook_reaches_own_payment_iff
    (config : Config)
    (db : Database)
    (event : WebhookEvent)
    (providerTransactionId : String)
    (hUnique : UniqueRows db)
    (hEvent : event ∈ db.webhooks)
    (hReceived : event.processingStatus = .received)
    (hTransaction :
      event.providerTransactionId =
        some providerTransactionId) :
    (∀ pick draw,
        ∃ next,
          applyWebhookEvent config db event.id pick draw =
              .ok next ∧
            ReachesOwnPayment db event
              providerTransactionId next) ↔
      SparesOthers db event providerTransactionId := by
  constructor
  · intro hReaches targetStatus hTarget hNamed row hRow
    have hStored : row ∈ db.payments :=
      List.mem_of_mem_filter hRow
    rcases hReaches row.id {} with ⟨next, hApply, hOwn⟩
    unfold applyWebhookEvent at hApply
    rw [planWebhookEvent_of_handled hUnique hEvent hReceived
      hTarget, hTransaction,
      planPaymentOutcome_self hUnique hNamed hRow,
      dispatchEffect_outcome hUnique.payments hStored]
      at hApply
    have hOutcome :=
      outcome_of_locked db event row targetStatus {}
    rw [hApply] at hOutcome
    cases hOutcome with
    | already hStatus =>
        refine .inr (.inl ⟨hStatus, ?_⟩)
        intro hNone
        exact setProcessingStatus_ne hEvent
          (hOwn.ignored hNone)
    | refused hStatus hInvalid =>
        exact .inr (.inr ⟨hStatus, hInvalid⟩)
    | moved hStatus hValid =>
        left
        apply hOwn.own row hStored
        rw [movedByWebhook_payments]
        exact not_mem_move hUnique.payments hStored
  · intro hSpares pick draw
    unfold applyWebhookEvent
    cases hTarget : webhookTarget event.eventType with
    | none =>
        rw [planWebhookEvent_of_unhandled hUnique hEvent
          hReceived hTarget]
        exact ⟨_, rfl, .of_ignored⟩
    | some targetStatus =>
        rw [planWebhookEvent_of_handled hUnique hEvent
          hReceived hTarget, hTransaction]
        unfold planPaymentOutcome
        by_cases hNamed : providerTransactionId = ""
        · simp only [hNamed, if_true]
          exact ⟨_, rfl, hNamed ▸ .of_ignored⟩
        · simp only [hNamed, if_false]
          split
          · exact ⟨_, rfl, .of_ignored⟩
          · rename_i row hPick
            have hRow := mem_of_limitOne hPick
            have hStored : row ∈ db.payments :=
              List.mem_of_mem_filter hRow
            rw [dispatchEffect_outcome hUnique.payments
              hStored]
            have hOutcome :=
              outcome_of_locked db event row targetStatus
                draw
            have hSpared :=
              hSpares targetStatus hTarget hNamed row hRow
            generalize
              handlePaymentOutcome db (some row) event.id
                targetStatus draw = answer at hOutcome ⊢
            cases hOutcome with
            | already hStatus =>
                refine ⟨_, rfl, .of_processed ?_⟩
                rcases hSpared with
                  hOwn | ⟨_, hOwner⟩ | ⟨hOther, _⟩
                · exact List.ne_nil_of_mem hOwn
                · exact hOwner
                · exact absurd hStatus hOther
            | refused _ _ => exact ⟨_, rfl, .of_ignored⟩
            | moved hStatus hValid =>
                refine ⟨_, rfl, .of_moved hUnique ?_⟩
                rcases hSpared with
                  hOwn | ⟨hSame, _⟩ | ⟨_, hInvalid⟩
                · exact hOwn
                · exact absurd hSame hStatus
                · rw [hValid] at hInvalid
                  cases hInvalid

/- Two authorized payments, each with its transaction. -/
def twoCharges
    (firstProvider secondProvider : String)
    (firstTransaction secondTransaction : String) :
    Database :=
  let payment (id : Uuid) : PaymentIntent :=
    { id := id
      merchantId := id
      amountMinor := 100
      currency := "USD"
      merchantReference := none
      status := .processing
      createdAt := 0 }
  let attempt
      (id : Uuid)
      (provider : String) : PaymentAttempt :=
    { id := id
      paymentIntentId := id
      providerName := provider
      status := .succeeded
      failureClassification := none
      attemptNumber := 1
      createdAt := 0 }
  let transaction
      (id : Uuid)
      (provider name : String) : ProviderTransaction :=
    { paymentAttemptId := id
      providerName := provider
      providerTransactionId := name
      rawStatus := "succeeded"
      rawResponse := {} }
  { payments := [payment 1, payment 2]
    attempts :=
      [attempt 1 firstProvider, attempt 2 secondProvider]
    providerTransactions :=
      [transaction 1 firstProvider firstTransaction,
        transaction 2 secondProvider secondTransaction]
    webhooks :=
      [{ id := 9
         providerName := "mock"
         providerEventId := "evt"
         eventType := "payment.failed"
         providerTransactionId := some "txn" }] }

/- The webhook of the two charges. -/
def failedEvent : WebhookEvent where
  id := 9
  providerName := "mock"
  providerEventId := "evt"
  eventType := "payment.failed"
  providerTransactionId := some "txn"

theorem uniqueRows_twoCharges
    {firstProvider secondProvider : String}
    {firstTransaction secondTransaction : String}
    (hApart :
      (firstProvider, firstTransaction) ≠
        (secondProvider, secondTransaction)) :
    UniqueRows
      (twoCharges firstProvider secondProvider
        firstTransaction secondTransaction) := by
  constructor <;> simp [twoCharges]
  intro hProvider hTransaction
  exact hApart (by rw [hProvider, hTransaction])

/- Each provider has its own transaction identifiers. -/
theorem webhook_reaches_own_payment_apart :
    ∃ next,
      applyWebhookEvent { sha256 := spellOut }
          (twoCharges "other" "mock" "txn-1" "txn") 9 2 {} =
          .ok next ∧
        ReachesOwnPayment
          (twoCharges "other" "mock" "txn-1" "txn")
          failedEvent "txn" next := by
  have hSpares :
      SparesOthers
        (twoCharges "other" "mock" "txn-1" "txn")
        failedEvent "txn" := by
    intro targetStatus _ _ row hRow
    left
    revert row
    decide
  exact (webhook_reaches_own_payment_iff
    { sha256 := spellOut } _ failedEvent "txn"
    (uniqueRows_twoCharges (by decide)) (by decide) rfl
    rfl).mpr hSpares 2 {}

/-
  Both providers use one identifier.  The event of `mock` is
  about payment 2 and fails payment 1.
-/
theorem shared_transaction_id_misdirects :
    UniqueRows (twoCharges "other" "mock" "txn" "txn") ∧
      failedEvent ∈
          (twoCharges "other" "mock" "txn" "txn").webhooks ∧
        failedEvent.processingStatus = .received ∧
        (paymentsOfProvider
            (twoCharges "other" "mock" "txn" "txn") "mock"
            "txn").map (·.id) = [2] ∧
        ∃ next,
          applyWebhookEvent { sha256 := spellOut }
              (twoCharges "other" "mock" "txn" "txn") 9 1
              {} = .ok next ∧
            next.payments.map (fun row =>
                (row.id, row.status)) =
              [(1, .failed), (2, .processing)] ∧
            ¬ ReachesOwnPayment
              (twoCharges "other" "mock" "txn" "txn")
              failedEvent "txn" next := by
  refine ⟨uniqueRows_twoCharges (by decide), by decide, rfl,
    by decide, _, rfl, by decide, ?_⟩
  intro hReaches
  have hOwn :
      ∀ row ∈
          (twoCharges "other" "mock" "txn" "txn").payments,
        row.id = 1 →
          row ∈ paymentsOfProvider
            (twoCharges "other" "mock" "txn" "txn") "mock"
            "txn" := by
    intro row hRow hId
    refine hReaches.own row hRow ?_
    revert row
    decide
  revert hOwn
  decide

end PayGuard

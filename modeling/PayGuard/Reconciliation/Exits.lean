import PayGuard.Reconciliation.Answerable

/-
  What the second locked transaction of a reconciliation
  writes, exit by exit.

  The answer and the locked payment lead to one finding.
  Each finding adds its own rows and has its own report, and
  a transaction that would break a unique constraint adds
  nothing.

  Key definitions include:
    * `finding`
    * `Additions`
    * `Database.receive`
    * `reconcileAdditions`
    * `findingReport`
    * `Database.recordOf`
    * `Database.transactionsOf`

  Key theorems include:
    * `reconcileApply_eq`
    * `reconcileApply_of_clash`
    * `recordOf_receive_self`
    * `recordOf_receive_of_ne`
-/

------------------------------------------------------------
-- Findings
------------------------------------------------------------

namespace PayGuard

/- What an answer says of a payment, in the code's order. -/
def finding
    (intent : PaymentIntent)
    (result : ProviderResult) : ReportResult :=
  if intent.status ≠ .unknown then
    .matched
  else if result.outcome = .unknown then
    .stillUnknown
  else if result.rawResponse.amountMinor.getD
      intent.amountMinor ≠ intent.amountMinor then
    .amountMismatch
  else if result.rawResponse.currency.getD
      intent.currency ≠ intent.currency then
    .currencyMismatch
  else if result.outcome = .succeeded then
    .resolvedSucceeded
  else
    .resolvedFailed

/- The findings that resolve the payment. -/
def ReportResult.resolves : ReportResult → Bool
| .resolvedSucceeded => true
| .resolvedFailed => true
| _ => false

/- What the report of a finding says beside it. -/
def findingDetails
    (intent : PaymentIntent)
    (result : ProviderResult) : ReportDetails :=
  match finding intent result with
  | .matched =>
      .note ("resolved by another path while " ++
        "awaiting the provider's answer")
  | .amountMismatch =>
      .amounts intent.amountMinor
        (result.rawResponse.amountMinor.getD
          intent.amountMinor)
  | .currencyMismatch =>
      .currencies intent.currency
        (result.rawResponse.currency.getD intent.currency)
  | .resolvedSucceeded =>
      .providerTransaction result.providerTransactionId
  | .resolvedFailed =>
      .providerTransaction result.providerTransactionId
  | _ => .empty

def findingReport
    (intent : PaymentIntent)
    (result : ProviderResult) : ReconciliationReport :=
  answeredReport intent result (finding intent result)
    intent.status (findingDetails intent result)

------------------------------------------------------------
-- Additions
------------------------------------------------------------

/- The rows one transaction adds for a payment. -/
structure Additions where
  status : Option PaymentStatus := none
  attempts : List PaymentAttempt := []
  transactions : List ProviderTransaction := []
  events : List PaymentEvent := []
  outbox : List OutboxEvent := []
  ledger : List LedgerEntry := []

/- The payment moves, if it does, and the rows follow. -/
def Database.receive
    (db : Database)
    (intent : PaymentIntent)
    (additions : Additions) : Database :=
  { db with
    payments :=
      match additions.status with
      | none => db.payments
      | some toStatus =>
          Table.updateWhere (fun row => row.id = intent.id)
            (flushPayment intent (intent.moveTo toStatus))
            db.payments
    attempts := db.attempts ++ additions.attempts
    providerTransactions :=
      db.providerTransactions ++ additions.transactions
    events := db.events ++ additions.events
    outbox := db.outbox ++ additions.outbox
    ledger := db.ledger ++ additions.ledger }

/- The event and the announcement of a transition. -/
def Additions.transition
    (intent : PaymentIntent)
    (toStatus : PaymentStatus)
    (eventType : String)
    (draw : Draw) : Additions where
  status := some toStatus
  events :=
    [{ paymentIntentId := intent.id
       fromStatus := some intent.status
       toStatus := toStatus
       actor := .reconciliation
       createdAt := draw.serverNow }]
  outbox :=
    [{ id := draw.outbox
       aggregateType := .paymentIntent
       aggregateId := intent.id
       eventType := eventType
       payload := .payment intent.id (some toStatus) }]

/- The backfilled attempt of a resolution. -/
def backfilledAttempt
    (intent : PaymentIntent)
    (attemptNumber : Nat)
    (providerName : String)
    (result : ProviderResult)
    (draw : Draw) : PaymentAttempt where
  id := draw.attempt
  paymentIntentId := intent.id
  providerName := providerName
  status := result.outcome
  failureClassification :=
    if result.outcome = .succeeded then
      none
    else if result.outcome = .declined then
      some .permanent
    else
      some .unknown
  attemptNumber := attemptNumber
  createdAt := draw.serverNow

/- The transaction of a positive answer, if it names one. -/
def backfilledTransactions
    (providerName : String)
    (result : ProviderResult)
    (draw : Draw) : List ProviderTransaction :=
  result.providerTransactionId.toList.map
    (fun transactionId =>
      { paymentAttemptId := draw.attempt
        providerName := providerName
        providerTransactionId := transactionId
        rawStatus := result.rawStatus
        rawResponse := result.rawResponse })

def settledEntries
    (intent : PaymentIntent)
    (draw : Draw) : List LedgerEntry :=
  let pair :=
    buildPaymentSettledPair intent.id intent.amountMinor
      draw.ledgerTransaction
  [pair.1, pair.2]

/- The rows each finding adds. -/
def reconcileAdditions
    (intent : PaymentIntent)
    (attemptNumber : Nat)
    (providerName : String)
    (result : ProviderResult)
    (draw : Draw) : Additions :=
  match finding intent result with
  | .stillUnknown =>
      .transition intent .unknown
        "reconciliation.still_unknown" draw
  | .resolvedSucceeded =>
      { Additions.transition intent .succeeded
          "reconciliation.resolved_succeeded" draw with
        attempts :=
          [backfilledAttempt intent attemptNumber
            providerName result draw]
        transactions :=
          backfilledTransactions providerName result draw
        ledger := settledEntries intent draw }
  | .resolvedFailed =>
      { Additions.transition intent .failed
          "reconciliation.resolved_failed" draw with
        attempts :=
          [backfilledAttempt intent attemptNumber
            providerName result draw] }
  | _ => {}

------------------------------------------------------------
-- The Second Transaction
------------------------------------------------------------

/- The number of the next attempt is in use already. -/
def Database.attemptTaken
    (db : Database)
    (paymentIntentId : Uuid) : Bool :=
  db.attempts.any (fun other =>
    other.paymentIntentId = paymentIntentId ∧
      other.attemptNumber =
        nextAttemptNumber db paymentIntentId)

/- The inserts of a resolution break a unique constraint. -/
def Database.clashes
    (db : Database)
    (intent : PaymentIntent)
    (providerName : String)
    (result : ProviderResult) : Bool :=
  (finding intent result).resolves &&
      db.attemptTaken intent.id ||
    finding intent result = .resolvedSucceeded &&
      db.onFile providerName result.providerTransactionId

/- A transaction that adds nothing changes nothing. -/
theorem receive_nothing
    (db : Database)
    (intent : PaymentIntent) :
    db.receive intent {} = db := by
  simp [Database.receive]

section SecondTransaction

variable {db : Database}
variable {intent : PaymentIntent}
variable {providerName : String}
variable {result : ProviderResult}
variable {draw : Draw}

/- The findings, told by what the checks ask. -/
theorem finding_matched
    (hStatus : intent.status ≠ .unknown) :
    finding intent result = .matched := by
  simp [finding, hStatus]

theorem finding_stillUnknown
    (hStatus : intent.status = .unknown)
    (hOutcome : result.outcome = .unknown) :
    finding intent result = .stillUnknown := by
  simp [finding, hStatus, hOutcome]

theorem finding_resolvedSucceeded_iff :
    finding intent result = .resolvedSucceeded ↔
      intent.status = .unknown ∧
        result.outcome = .succeeded ∧
        result.agrees intent = true := by
  unfold finding ProviderResult.agrees
  by_cases hStatus : intent.status = .unknown
  · cases hOutcome : result.outcome <;>
      simp [hStatus,
        apply_ite (· = ReportResult.resolvedSucceeded)]
  · simp [hStatus]

/- A definite answer that agrees with a payment in doubt. -/
theorem finding_resolves_iff :
    (finding intent result).resolves = true ↔
      intent.status = .unknown ∧
        result.outcome ≠ .unknown ∧
        result.agrees intent = true := by
  unfold finding ProviderResult.agrees
  simp only [apply_ite ReportResult.resolves]
  by_cases hStatus : intent.status = .unknown
  · cases hOutcome : result.outcome <;>
      simp [hStatus, ReportResult.resolves]
  · simp [hStatus, ReportResult.resolves]

/- A payment in doubt can stay in doubt. -/
theorem applyTransition_still_unknown
    (hStatus : intent.status = .unknown) :
    applyTransition db intent .unknown .reconciliation
        "reconciliation.still_unknown" draw =
      .ok
        (db.recordTransition intent .unknown .reconciliation
            "reconciliation.still_unknown" draw,
          intent.moveTo .unknown) := by
  unfold applyTransition
  rw [hStatus]
  rfl

/- A free number lets the attempt in. -/
theorem insertAttempt_of_free
    (hFree : db.attemptTaken intent.id = false)
    (attempt : PaymentAttempt)
    (hPayment : attempt.paymentIntentId = intent.id)
    (hNumber :
      attempt.attemptNumber =
        nextAttemptNumber db intent.id) :
    insertAttempt db attempt =
      .ok { db with attempts := db.attempts ++ [attempt] } := by
  unfold insertAttempt
  rw [hPayment, hNumber, if_neg]
  rw [← Database.attemptTaken, hFree]
  decide

theorem insertAttempt_of_taken
    (hTaken : db.attemptTaken intent.id = true)
    (attempt : PaymentAttempt)
    (hPayment : attempt.paymentIntentId = intent.id)
    (hNumber :
      attempt.attemptNumber =
        nextAttemptNumber db intent.id) :
    insertAttempt db attempt =
      .error (.integrityError
        "uq_payment_attempts_intent_attempt_no") := by
  unfold insertAttempt
  rw [hPayment, hNumber, if_pos]
  exact hTaken

theorem resolveSucceeded_eq
    (hStatus : intent.status = .unknown)
    (hOutcome : result.outcome = .succeeded)
    (hFree : db.attemptTaken intent.id = false)
    (hFresh :
      db.onFile providerName
        result.providerTransactionId = false) :
    resolveSucceeded db intent providerName result draw =
      .ok (db.receive intent
        { Additions.transition intent .succeeded
            "reconciliation.resolved_succeeded" draw with
          attempts :=
            [backfilledAttempt intent
              (nextAttemptNumber db intent.id) providerName
              result draw]
          transactions :=
            backfilledTransactions providerName result draw
          ledger := settledEntries intent draw }) := by
  unfold resolveSucceeded
  simp only
  rw [insertAttempt_of_free hFree _ rfl rfl]
  simp only [applyTransition_unknown hStatus (.inl rfl)]
  rw [insertProviderTransaction_fresh hFresh]
  · simp [Database.receive, Additions.transition,
      Database.recordTransition, recordPaymentSettled,
      recordPair, settledEntries, backfilledAttempt,
      backfilledTransactions, PaymentIntent.moveTo, hOutcome]
  · rfl

theorem resolveFailed_eq
    (hStatus : intent.status = .unknown)
    (hOutcome : result.outcome ≠ .succeeded)
    (hFree : db.attemptTaken intent.id = false) :
    resolveFailed db intent providerName result draw =
      .ok (db.receive intent
        { Additions.transition intent .failed
            "reconciliation.resolved_failed" draw with
          attempts :=
            [backfilledAttempt intent
              (nextAttemptNumber db intent.id) providerName
              result draw] }) := by
  have hMoved :
      (db.recordTransition intent .failed .reconciliation
        "reconciliation.resolved_failed"
        draw).attemptTaken intent.id = false := hFree
  unfold resolveFailed
  simp only [applyTransition_unknown hStatus (.inr rfl)]
  rw [insertAttempt_of_free hMoved _ rfl rfl]
  simp [Database.receive, Additions.transition,
    Database.recordTransition, backfilledAttempt, hOutcome]

theorem resolveFailed_of_taken
    (hTaken : db.attemptTaken intent.id = true) :
    ∃ failure,
      resolveFailed db intent providerName result draw =
        .error failure := by
  unfold resolveFailed
  simp only
  split
  · exact ⟨_, rfl⟩
  · rename_i moved object hApply
    have hMoved := (applyTransition_eq_ok.mp hApply).2.1
    subst hMoved
    have hStill :
        (db.recordTransition intent .failed .reconciliation
          "reconciliation.resolved_failed"
          draw).attemptTaken intent.id = true := hTaken
    rw [insertAttempt_of_taken hStill _ rfl rfl]
    exact ⟨_, rfl⟩

theorem resolveSucceeded_of_taken
    (hTaken : db.attemptTaken intent.id = true) :
    ∃ failure,
      resolveSucceeded db intent providerName result draw =
        .error failure := by
  unfold resolveSucceeded
  simp only
  rw [insertAttempt_of_taken hTaken _ rfl rfl]
  exact ⟨_, rfl⟩

/- Without a clash a transaction adds what it found. -/
theorem reconcileApply_eq
    (hClash : db.clashes intent providerName result = false) :
    reconcileApply db (some intent) providerName result
        draw =
      .ok
        (db.receive intent
          (reconcileAdditions intent
            (nextAttemptNumber db intent.id) providerName
            result draw),
          findingReport intent result) := by
  unfold Database.clashes at hClash
  simp only [Bool.or_eq_false_iff, Bool.and_eq_false_imp,
    decide_eq_true_eq] at hClash
  obtain ⟨hTaken, hOnFile⟩ := hClash
  by_cases hStatus : intent.status = .unknown
  case neg =>
    have hFinding : finding intent result = .matched :=
      finding_matched hStatus
    simp [reconcileApply, hStatus, receive_nothing,
      reconcileAdditions, findingReport, findingDetails,
      hFinding]
  by_cases hOutcome : result.outcome = .unknown
  case pos =>
    have hFinding : finding intent result = .stillUnknown :=
      finding_stillUnknown hStatus hOutcome
    have hApply :
        applyTransition db intent .unknown .reconciliation
          "reconciliation.still_unknown" draw = _ :=
      applyTransition_still_unknown hStatus
    simp only [reconcileApply, hStatus, hOutcome, hApply]
    simp [reconcileAdditions, findingReport, findingDetails,
      hFinding, answeredReport, hStatus, Database.receive,
      Additions.transition, Database.recordTransition,
      PaymentIntent.moveTo]
  by_cases hAmount :
      result.rawResponse.amountMinor.getD
        intent.amountMinor = intent.amountMinor
  case neg =>
    have hFinding : finding intent result = .amountMismatch := by
      simp [finding, hStatus, hOutcome, hAmount]
    simp [reconcileApply, hStatus, hOutcome, hAmount,
      receive_nothing, reconcileAdditions, findingReport,
      findingDetails, hFinding]
  by_cases hCurrency :
      result.rawResponse.currency.getD intent.currency =
        intent.currency
  case neg =>
    have hFinding :
        finding intent result = .currencyMismatch := by
      simp [finding, hStatus, hOutcome, hAmount, hCurrency]
    simp [reconcileApply, hStatus, hOutcome, hAmount,
      hCurrency, receive_nothing, reconcileAdditions,
      findingReport, findingDetails, hFinding]
  by_cases hSucceeded : result.outcome = .succeeded
  · have hFinding :
        finding intent result = .resolvedSucceeded := by
      simp [finding, hStatus, hAmount, hCurrency, hSucceeded]
    have hResolve :
        resolveSucceeded db intent providerName result
          draw = _ :=
      resolveSucceeded_eq hStatus hSucceeded
        (hTaken (by rw [hFinding]; rfl)) (hOnFile hFinding)
    simp [reconcileApply, hStatus, hAmount,
      hCurrency, resolve, hSucceeded, hResolve,
      reconcileAdditions, findingReport, findingDetails,
      hFinding]
  · have hFinding :
        finding intent result = .resolvedFailed := by
      simp [finding, hStatus, hOutcome, hAmount, hCurrency,
        hSucceeded]
    have hResolve :
        resolveFailed db intent providerName result draw =
          _ :=
      resolveFailed_eq hStatus hSucceeded
        (hTaken (by rw [hFinding]; rfl))
    simp [reconcileApply, hStatus, hOutcome, hAmount,
      hCurrency, resolve, hSucceeded, hResolve,
      reconcileAdditions, findingReport, findingDetails,
      hFinding]

/- With a clash it adds nothing. -/
theorem reconcileApply_of_clash
    (hClash : db.clashes intent providerName result = true) :
    ∃ failure,
      reconcileApply db (some intent) providerName result
        draw = .error failure := by
  unfold Database.clashes at hClash
  rw [Bool.or_eq_true, Bool.and_eq_true, Bool.and_eq_true,
    decide_eq_true_eq] at hClash
  have hResolves :
      (finding intent result).resolves = true := by
    rcases hClash with ⟨hResolves, _⟩ | ⟨hFinding, _⟩
    · exact hResolves
    · rw [hFinding]
      rfl
  obtain ⟨hStatus, hOutcome, hAgrees⟩ :=
    (finding_resolves_iff).mp hResolves
  rw [reconcileApply_of_agrees hStatus hOutcome hAgrees]
  unfold resolve
  by_cases hSucceeded : result.outcome = .succeeded
  · have hFails :
        ∃ failure,
          resolveSucceeded db intent providerName result
            draw = .error failure := by
      rcases hClash with ⟨_, hTaken⟩ | ⟨_, hOnFile⟩
      · exact resolveSucceeded_of_taken hTaken
      · exact resolveSucceeded_of_onFile hOnFile
    obtain ⟨failure, hFails⟩ := hFails
    exact ⟨failure, by simp [hSucceeded, hFails]⟩
  · have hTaken : db.attemptTaken intent.id = true := by
      rcases hClash with ⟨_, hTaken⟩ | ⟨hFinding, _⟩
      · exact hTaken
      · exact absurd
          (finding_resolvedSucceeded_iff.mp hFinding).2.1
          hSucceeded
    have hFails :
        ∃ failure,
          resolveFailed db intent providerName result draw =
            .error failure :=
      resolveFailed_of_taken hTaken
    obtain ⟨failure, hFails⟩ := hFails
    exact ⟨failure, by simp [hSucceeded, hFails]⟩

end SecondTransaction

------------------------------------------------------------
-- The Record Of A Payment
------------------------------------------------------------

/- The rows that name one payment. -/
def Database.recordOf
    (db : Database)
    (paymentId : Uuid) : Database where
  payments := db.payments.filter (fun row =>
    row.id = paymentId)
  attempts := db.attempts.filter (fun row =>
    row.paymentIntentId = paymentId)
  events := db.events.filter (fun row =>
    row.paymentIntentId = paymentId)
  refunds := db.refunds.filter (fun row =>
    row.paymentIntentId = paymentId)
  outbox := db.outbox.filter (fun row =>
    row.aggregateType = .paymentIntent &&
      row.aggregateId = paymentId)
  ledger := db.ledger.filter (fun row =>
    row.paymentIntentId = paymentId)
  reports := db.reports.filter (fun row =>
    row.paymentIntentId = paymentId)

/- The provider transactions of its attempts. -/
def Database.transactionsOf
    (db : Database)
    (paymentId : Uuid) : List ProviderTransaction :=
  db.providerTransactions.filter (fun row =>
    db.attempts.any (fun attempt =>
      attempt.paymentIntentId = paymentId &&
        attempt.id = row.paymentAttemptId))

/- All rows of the additions name one payment. -/
structure Additions.Concern
    (additions : Additions)
    (paymentId : Uuid) : Prop where
  attempts :
    ∀ row ∈ additions.attempts,
      row.paymentIntentId = paymentId
  events :
    ∀ row ∈ additions.events,
      row.paymentIntentId = paymentId
  outbox :
    ∀ row ∈ additions.outbox,
      row.aggregateType = .paymentIntent ∧
        row.aggregateId = paymentId
  ledger :
    ∀ row ∈ additions.ledger,
      row.paymentIntentId = paymentId

theorem additions_concern_nothing
    (paymentId : Uuid) :
    Additions.Concern {} paymentId :=
  ⟨by simp, by simp, by simp, by simp⟩

theorem reconcileAdditions_concern
    (intent : PaymentIntent)
    (attemptNumber : Nat)
    (providerName : String)
    (result : ProviderResult)
    (draw : Draw) :
    (reconcileAdditions intent attemptNumber providerName
      result draw).Concern intent.id := by
  unfold reconcileAdditions
  split
  case h_4 => exact additions_concern_nothing intent.id
  all_goals
    constructor <;>
      simp [Additions.transition, backfilledAttempt,
        settledEntries, buildPaymentSettledPair, buildPair]

/- The draw of the attempt, and of the transaction with it. -/
structure Additions.Drawn
    (additions : Additions)
    (attemptId : Uuid) : Prop where
  attempts :
    ∀ row ∈ additions.attempts, row.id = attemptId
  transactions :
    ∀ row ∈ additions.transactions,
      row.paymentAttemptId = attemptId ∧
        additions.attempts ≠ []

theorem reconcileAdditions_drawn
    (intent : PaymentIntent)
    (attemptNumber : Nat)
    (providerName : String)
    (result : ProviderResult)
    (draw : Draw) :
    (reconcileAdditions intent attemptNumber providerName
      result draw).Drawn draw.attempt := by
  unfold reconcileAdditions
  split
  all_goals
    constructor <;>
      simp [Additions.transition, backfilledAttempt,
        backfilledTransactions]

/- What a payment is to receive stays out of other records. -/
theorem recordOf_receive_of_ne
    (db : Database)
    {intent : PaymentIntent}
    {additions : Additions}
    {paymentId : Uuid}
    (hConcern : additions.Concern intent.id)
    (hOther : paymentId ≠ intent.id) :
    (db.receive intent additions).recordOf paymentId =
      db.recordOf paymentId := by
  have hApart : ∀ id : Uuid, id = intent.id → id ≠ paymentId :=
    fun id hId hSame => hOther (hSame.symm.trans hId)
  have hAttempts :
      additions.attempts.filter (fun row =>
        row.paymentIntentId = paymentId) = [] := by
    rw [List.filter_eq_nil_iff]
    intro row hRow
    simpa using hApart _ (hConcern.attempts row hRow)
  have hEvents :
      additions.events.filter (fun row =>
        row.paymentIntentId = paymentId) = [] := by
    rw [List.filter_eq_nil_iff]
    intro row hRow
    simpa using hApart _ (hConcern.events row hRow)
  have hOutbox :
      additions.outbox.filter (fun row =>
        row.aggregateType = .paymentIntent &&
          row.aggregateId = paymentId) = [] := by
    rw [List.filter_eq_nil_iff]
    intro row hRow
    simpa using fun _ =>
      hApart _ (hConcern.outbox row hRow).2
  have hLedger :
      additions.ledger.filter (fun row =>
        row.paymentIntentId = paymentId) = [] := by
    rw [List.filter_eq_nil_iff]
    intro row hRow
    simpa using hApart _ (hConcern.ledger row hRow)
  have hPayments :
      ∀ toStatus : PaymentStatus,
        (Table.updateWhere (fun row => row.id = intent.id)
          (flushPayment intent (intent.moveTo toStatus))
          db.payments).filter (fun row =>
            row.id = paymentId) =
          db.payments.filter (fun row =>
            row.id = paymentId) := by
    intro toStatus
    apply Table.filter_updateWhere_of_dropped
    · intro row _
      rfl
    · intro row _ hSelected
      simpa using hApart _ (of_decide_eq_true hSelected)
  unfold Database.recordOf Database.receive
  simp only [List.filter_append, hAttempts, hEvents, hOutbox,
    hLedger, List.append_nil]
  cases additions.status with
  | none => rfl
  | some toStatus => simp only [hPayments]

/- A payment receives its additions in its own record. -/
theorem recordOf_receive_self
    (db : Database)
    {intent : PaymentIntent}
    {additions : Additions}
    (hConcern : additions.Concern intent.id) :
    (db.receive intent additions).recordOf intent.id =
      (db.recordOf intent.id).receive intent
        { additions with transactions := [] } := by
  have hAttempts :
      additions.attempts.filter (fun row =>
        row.paymentIntentId = intent.id) =
          additions.attempts :=
    List.filter_eq_self.mpr (fun row hRow =>
      decide_eq_true (hConcern.attempts row hRow))
  have hEvents :
      additions.events.filter (fun row =>
        row.paymentIntentId = intent.id) =
          additions.events :=
    List.filter_eq_self.mpr (fun row hRow =>
      decide_eq_true (hConcern.events row hRow))
  have hOutbox :
      additions.outbox.filter (fun row =>
        row.aggregateType = .paymentIntent &&
          row.aggregateId = intent.id) =
            additions.outbox :=
    List.filter_eq_self.mpr (fun row hRow => by
      simp [hConcern.outbox row hRow])
  have hLedger :
      additions.ledger.filter (fun row =>
        row.paymentIntentId = intent.id) =
          additions.ledger :=
    List.filter_eq_self.mpr (fun row hRow =>
      decide_eq_true (hConcern.ledger row hRow))
  have hPayments :
      ∀ toStatus : PaymentStatus,
        (Table.updateWhere (fun row => row.id = intent.id)
          (flushPayment intent (intent.moveTo toStatus))
          db.payments).filter (fun row =>
            row.id = intent.id) =
          Table.updateWhere (fun row => row.id = intent.id)
            (flushPayment intent (intent.moveTo toStatus))
            (db.payments.filter (fun row =>
              row.id = intent.id)) := by
    intro toStatus
    apply Table.filter_updateWhere
    intro row _
    rfl
  unfold Database.recordOf Database.receive
  simp only [List.filter_append, hAttempts, hEvents, hOutbox,
    hLedger, List.append_nil]
  cases additions.status with
  | none => rfl
  | some toStatus => simp only [hPayments]

/- The identifiers of the payments are untouched. -/
theorem receive_paymentIds
    (db : Database)
    (intent : PaymentIntent)
    (additions : Additions) :
    (db.receive intent additions).payments.map (·.id) =
      db.payments.map (·.id) := by
  unfold Database.receive
  cases additions.status with
  | none => rfl
  | some toStatus =>
      apply Table.map_updateWhere
      intro row
      rfl

end PayGuard

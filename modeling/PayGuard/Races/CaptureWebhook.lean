import PayGuard.Races.Departures

/-
  A capture and a webhook for the same provider transaction.

  The capture holds the payment row from its check to its
  commit.  The dispatch reads the payment without a lock and
  later locks it in the same session, which then still holds
  the object it read first.  If the capture commits between
  the two, the dispatch works on a payment that is no longer
  there.

  Key definitions include:
    * `Contest`
    * `Deliverable`
    * `Undecided`, `Decided`, `Overtaken` and `Twice`
    * `NotOvertaken`
    * `Converged`

  Key theorems include:
    * `capture_and_webhook_converge`
    * `overtaken_webhook_applies_again`
-/

------------------------------------------------------------
-- The Contest
------------------------------------------------------------

namespace PayGuard

/- One capture and one dispatch over one payment. -/
structure Contest where
  capture : CallId
  dispatch : CallId
  paymentId : Uuid
  merchantId : Uuid
  outboxEventId : Uuid
  webhookEventId : Uuid
  providerTransactionId : String
  targetStatus : PaymentStatus
  distinct : dispatch ≠ capture
  target :
    targetStatus = .succeeded ∨ targetStatus = .failed

/- The labels the two calls take. -/
def Contest.takes
    (contest : Contest)
    (label : Label) : Bool :=
  match label.action with
  | .captureBegin request =>
      label.call = contest.capture &&
        request.paymentId = contest.paymentId &&
        request.merchantId = contest.merchantId
  | .captureFinish _ => label.call = contest.capture
  | .raise _ => label.call = contest.capture
  | .failRead => label.call = contest.capture
  | .failWrite => label.call = contest.capture
  | .die => label.call = contest.capture
  | .dispatchBegin outboxEventId _ =>
      label.call = contest.dispatch &&
        outboxEventId = contest.outboxEventId
  | .dispatchFinish => label.call = contest.dispatch
  | _ => false

/- The payment has an attempt with this transaction. -/
def Database.ownsTransaction
    (db : Database)
    (providerTransactionId : String)
    (paymentId : Uuid) : Bool :=
  db.attempts.any (fun attempt =>
    attempt.paymentIntentId = paymentId &&
      db.providerTransactions.any (fun transaction =>
        transaction.paymentAttemptId = attempt.id &&
          transaction.providerTransactionId =
            providerTransactionId))

/-
  The webhook is stored and announced, and its transaction
  leads to the contested payment only.
-/
structure Deliverable
    (contest : Contest)
    (db : Database) : Prop where
  ids : (db.payments.map (·.id)).Nodup
  named : contest.providerTransactionId ≠ ""
  owner :
    ∀ paymentId ∈ db.payments.map (·.id),
      db.ownsTransaction contest.providerTransactionId
          paymentId = true ↔
        paymentId = contest.paymentId
  webhook :
    ∃ event ∈ db.webhooks.find? (fun event =>
        event.id = contest.webhookEventId),
      event.processingStatus = .received ∧
        webhookTarget event.eventType =
          some contest.targetStatus ∧
        event.providerTransactionId =
          some contest.providerTransactionId
  outbox :
    ∃ event ∈ db.outbox.find? (fun event =>
        event.id = contest.outboxEventId),
      event.eventType = "webhook.received" ∧
        event.payload = .webhook contest.webhookEventId

/- The unlocked read of the contested payment. -/
def Contest.reading
    (contest : Contest)
    (loaded : PaymentIntent) : Call :=
  .dispatchOpen contest.outboxEventId contest.webhookEventId
    (.outcome contest.targetStatus loaded)

------------------------------------------------------------
-- Phases
------------------------------------------------------------

/- Neither side has committed a transition. -/
structure Undecided
    (contest : Contest)
    (row : PaymentIntent)
    (system : System) : Prop where
  awaiting :
    Awaiting system.db .processing contest.paymentId
      contest.merchantId row
  deliverable : Deliverable contest system.db
  capture :
    ∀ intent,
      (system.calls contest.capture).captured =
          some intent →
        intent = row ∧
          system.paymentLock contest.paymentId =
            some contest.capture
  dispatch :
    system.calls contest.dispatch = .idle ∨
      system.calls contest.dispatch = contest.reading row

/- The statuses a capture or a webhook leads to. -/
def PaymentStatus.isOutcome : PaymentStatus → Bool
| .succeeded | .failed | .unknown => true
| _ => false

/- One side has won, and the other has seen it. -/
structure Decided
    (contest : Contest)
    (row : PaymentIntent)
    (system : System) : Prop where
  departed :
    Departed system.db .processing contest.paymentId
      contest.merchantId row
  outcome : row.status.isOutcome = true
  capture :
    (system.calls contest.capture).captured = none
  dispatch :
    (system.calls contest.dispatch = .idle ∧
        Deliverable contest system.db) ∨
      system.calls contest.dispatch = contest.reading row ∨
      ∃ reply, system.calls contest.dispatch = .done reply

/- The capture has won behind the back of the dispatch. -/
structure Overtaken
    (contest : Contest)
    (system : System) : Prop where
  departed :
    ∃ row,
      Departed system.db .processing contest.paymentId
          contest.merchantId row ∧
        row.status.isOutcome = true
  capture :
    (system.calls contest.capture).captured = none
  dispatch :
    ∃ loaded,
      loaded.status = .processing ∧
        loaded.id = contest.paymentId ∧
        loaded.merchantId = contest.merchantId ∧
        system.calls contest.dispatch =
          contest.reading loaded

/- Both sides have committed a transition. -/
structure Twice
    (contest : Contest)
    (system : System) : Prop where
  departures :
    2 ≤ (system.db.departures .processing
      contest.paymentId).length
  stored :
    ∃ row,
      system.db.selectPayment contest.paymentId
          contest.merchantId = some row ∧
        row.status ≠ .processing
  capture :
    (system.calls contest.capture).captured = none
  dispatch :
    ∃ reply, system.calls contest.dispatch = .done reply

end PayGuard

------------------------------------------------------------
-- The Unlocked Read
------------------------------------------------------------

namespace PayGuard

variable {contest : Contest}
variable {db db' : Database}
variable {row : PaymentIntent}

/- The join yields the contested payment alone. -/
theorem Deliverable.joined
    (hDeliverable : Deliverable contest db)
    (hStored :
      db.selectPayment contest.paymentId
        contest.merchantId = some row) :
    paymentsOfTransaction db contest.providerTransactionId =
      [row] := by
  have hRow := selectPayment_eq_some hStored
  have hFilter :
      paymentsOfTransaction db
          contest.providerTransactionId =
        db.payments.filter (fun intent =>
          intent.id = row.id) := by
    apply List.filter_congr
    intro intent hIntent
    rw [Bool.eq_iff_iff, decide_eq_true_iff, hRow.2.1]
    exact hDeliverable.owner intent.id
      (List.mem_map_of_mem hIntent)
  rw [hFilter]
  exact Table.filter_key_eq hDeliverable.ids hRow.1

/- A dispatch that starts now reads the stored payment. -/
theorem Deliverable.plan
    (hDeliverable : Deliverable contest db)
    (hStored :
      db.selectPayment contest.paymentId
        contest.merchantId = some row)
    (event : OutboxEvent)
    (hEvent :
      db.outbox.find? (fun event =>
        event.id = contest.outboxEventId) = some event)
    (pick : Uuid) :
    dispatchPlan db event pick =
      (contest.webhookEventId,
        .outcome contest.targetStatus row) := by
  rcases hDeliverable.outbox with
    ⟨announced, hFound, hType, hPayload⟩
  rcases hDeliverable.webhook with
    ⟨received, hReceived, hStatus, hTarget, hTransaction⟩
  have hSame : event = announced :=
    Option.some.inj (hEvent.symm.trans hFound)
  subst hSame
  have hOne :
      ∀ pick, limitOne [row] pick = some row := by
    intro pick
    by_cases hPick : row.id = pick
    · simp [limitOne, hPick]
    · simp [limitOne, hPick]
  rw [Option.mem_def] at hReceived
  simp [dispatchPlan, hPayload, hType, planWebhookEvent,
    hReceived, hStatus, hTarget, planPaymentOutcome,
    hTransaction, hDeliverable.named,
    hDeliverable.joined hStored, hOne]

/- What a delivery depends on. -/
theorem Deliverable.of_same
    (hDeliverable : Deliverable contest db)
    (hIds :
      db'.payments.map (·.id) = db.payments.map (·.id))
    (hAttempts : db'.attempts = db.attempts)
    (hTransactions :
      db'.providerTransactions = db.providerTransactions)
    (hWebhooks : db'.webhooks = db.webhooks)
    (hOutbox : db.outbox <+: db'.outbox) :
    Deliverable contest db' where
  ids := by
    rw [hIds]
    exact hDeliverable.ids
  named := hDeliverable.named
  owner := by
    intro paymentId hId
    rw [hIds] at hId
    rw [← hDeliverable.owner paymentId hId]
    unfold Database.ownsTransaction
    rw [hAttempts, hTransactions]
  webhook := by
    rw [hWebhooks]
    exact hDeliverable.webhook
  outbox := by
    rcases hDeliverable.outbox with
      ⟨event, hFound, hEvent⟩
    rcases hOutbox with ⟨added, hAdded⟩
    refine ⟨event, ?_, hEvent⟩
    rw [Option.mem_def] at hFound
    rw [← hAdded, List.find?_append, hFound, Option.some_or]
    rfl

end PayGuard

------------------------------------------------------------
-- The Two Transactions
------------------------------------------------------------

namespace PayGuard

variable {contest : Contest}
variable {db db' : Database}
variable {row intent : PaymentIntent}
variable {keyRow : IdempotencyKey}
variable {result : ProviderResult}
variable {draw : Draw}

/- The status a capture outcome leads to. -/
def ProviderOutcome.captureStatus :
    ProviderOutcome → PaymentStatus
| .succeeded => .succeeded
| .unknown => .unknown
| .declined => .failed
| .temporaryFailure => .failed

theorem isOutcome_captureStatus
    (outcome : ProviderOutcome) :
    outcome.captureStatus.isOutcome = true := by
  cases outcome <;> rfl

theorem ne_processing_of_isOutcome
    {status : PaymentStatus}
    (hOutcome : status.isOutcome = true) :
    status ≠ .processing := by
  rintro rfl
  cases hOutcome

theorem eq_succeeded_of_isOutcome
    {status : PaymentStatus}
    (hOutcome : status.isOutcome = true)
    (hSettled : status.Settled) :
    status = .succeeded := by
  revert hOutcome hSettled
  cases status <;> decide

/- A capture that holds a `PROCESSING` payment commits. -/
theorem captureFinish_processing
    (db : Database)
    (keyRow : IdempotencyKey)
    (result : ProviderResult)
    (draw : Draw)
    (hStatus : intent.status = .processing) :
    ∃ eventType keys response,
      captureFinish db intent keyRow result draw =
        .ok
          ({ db.depart intent result.outcome.captureStatus
                .api eventType draw with
              keys := keys },
            response) := by
  have hValid :
      ∀ toStatus : PaymentStatus,
        toStatus.isOutcome = true →
          isValidPaymentTransition .processing toStatus
            (some .api) = true := by
    intro toStatus hOutcome
    cases toStatus <;> first | rfl | cases hOutcome
  rcases putKey_eq db keyRow with ⟨keys, hKeys⟩
  unfold captureFinish applyCaptureOutcome applyTransition
  rw [hStatus, hKeys]
  cases result.outcome with
  | succeeded =>
      simp only [hValid .succeeded rfl, if_true]
      exact ⟨_, _, _, rfl⟩
  | unknown =>
      simp only [hValid .unknown rfl, if_true]
      exact ⟨_, _, _, rfl⟩
  | declined =>
      simp only [hValid .failed rfl, if_true]
      exact ⟨_, _, _, rfl⟩
  | temporaryFailure =>
      simp only [hValid .failed rfl, if_true]
      exact ⟨_, _, _, rfl⟩

/- A handler that holds a `PROCESSING` object applies. -/
theorem handlePaymentOutcome_processing
    (contest : Contest)
    (hStatus : intent.status = .processing) :
    handlePaymentOutcome db (some intent)
        contest.webhookEventId contest.targetStatus draw =
      .ok (setProcessingStatus
        (db.depart intent contest.targetStatus .webhook
          (webhookEventType contest.targetStatus) draw)
        contest.webhookEventId .processed) := by
  unfold handlePaymentOutcome applyTransition
  rcases contest.target with hTarget | hTarget
  · simp only [hStatus, hTarget]
    rfl
  · simp only [hStatus, hTarget]
    rfl

/- A handler that holds a decided object marks its event. -/
theorem handlePaymentOutcome_decided
    (contest : Contest)
    (hOutcome : intent.status.isOutcome = true) :
    ∃ status,
      handlePaymentOutcome db (some intent)
          contest.webhookEventId contest.targetStatus draw =
        .ok (setProcessingStatus db contest.webhookEventId
          status) := by
  unfold handlePaymentOutcome
  by_cases hSame : intent.status = contest.targetStatus
  · exact ⟨.processed, by simp [hSame]⟩
  · have hInvalid :
        isValidPaymentTransition intent.status
          contest.targetStatus (some .webhook) = false := by
      revert hOutcome
      rcases contest.target with hTarget | hTarget
      · rw [hTarget]
        cases intent.status <;> decide
      · rw [hTarget]
        cases intent.status <;> decide
    exact ⟨.ignored, by simp [hSame, hInvalid]⟩

theorem isOutcome_target
    (contest : Contest) :
    contest.targetStatus.isOutcome = true := by
  rcases contest.target with hTarget | hTarget
  · rw [hTarget]
    rfl
  · rw [hTarget]
    rfl

/- A lock in a session that holds the object keeps it. -/
theorem lockPayment_loaded
    {paymentId merchantId : Uuid}
    (hStored :
      db.selectPayment paymentId merchantId = some row)
    (hId : intent.id = paymentId) :
    lockPayment .identityMap db (some intent) paymentId
        merchantId = some intent := by
  have hRow := (selectPayment_eq_some hStored).2.1
  unfold lockPayment
  simp [hStored, hId, hRow]

/- A capture's commit keeps the webhook deliverable. -/
theorem Deliverable.depart
    {toStatus : PaymentStatus}
    {actor : Actor}
    {eventType : String}
    {keys : List IdempotencyKey}
    (hDeliverable : Deliverable contest db) :
    Deliverable contest
      { db.depart intent toStatus actor eventType draw with
        keys := keys } := by
  have hIds :
      (db.recordTransition intent toStatus actor eventType
          draw).payments.map (·.id) =
        db.payments.map (·.id) := by
    apply Table.map_updateWhere
    intro stored
    rfl
  unfold Database.depart settleByWebhook
  split
  · exact hDeliverable.of_same hIds rfl rfl rfl
      (List.prefix_append _ _)
  · exact hDeliverable.of_same hIds rfl rfl rfl
      (List.prefix_append _ _)

end PayGuard

------------------------------------------------------------
-- Steps Of The Contest
------------------------------------------------------------

namespace PayGuard

/- The capture moves on without touching the payment. -/
structure Aside
    (contest : Contest)
    (system next : System) : Prop where
  keys : ∃ keys, next.db = { system.db with keys := keys }
  capture : (next.calls contest.capture).captured = none
  dispatch :
    next.calls contest.dispatch =
      system.calls contest.dispatch

/- The capture finds the payment waiting and locks it. -/
structure Opened
    (contest : Contest)
    (system : System)
    (intent : PaymentIntent)
    (next : System) : Prop where
  stored :
    system.db.selectPayment contest.paymentId
      contest.merchantId = some intent
  status : intent.status = .processing
  db : next.db = system.db
  capture :
    (next.calls contest.capture).captured = some intent
  lock :
    next.paymentLock contest.paymentId =
      some contest.capture
  dispatch :
    next.calls contest.dispatch =
      system.calls contest.dispatch

/- Everything a label of the contest can do. -/
inductive ContestStep
    (config : Config)
    (contest : Contest)
    (system : System)
    (label : Label)
    (next : System) : Prop where
| aside
    (hAside : Aside contest system next)
    (hAction : ∀ result, label.action ≠ .captureFinish result)
| opened
    (intent : PaymentIntent)
    (hOpened : Opened contest system intent next)
    (hAction : ∀ result, label.action ≠ .captureFinish result)
| captured
    (result : ProviderResult)
    (hAction : label.action = .captureFinish result)
    (hStep :
      stepCaptureFinish system contest.capture result
        label.draw = some next)
| begun
    (pick : Uuid)
    (hAction : ∀ result, label.action ≠ .captureFinish result)
    (hStep :
      stepDispatchBegin system contest.dispatch
        contest.outboxEventId pick = some next)
| finished
    (hAction : ∀ result, label.action ≠ .captureFinish result)
    (hStep :
      stepDispatchFinish config system contest.dispatch
        label.draw = some next)

variable {config : Config}
variable {contest : Contest}
variable {system next : System}
variable {label : Label}
variable {row : PaymentIntent}

theorem aside_of_quiet
    (hQuiet : Quiet system contest.capture next) :
    Aside contest system next where
  keys := ⟨system.db.keys, hQuiet.db⟩
  capture := hQuiet.captured
  dispatch := hQuiet.frame.calls _ contest.distinct

theorem aside_of_commit
    {keys : List IdempotencyKey}
    {position : Call}
    (hCaptured : position.captured = none) :
    Aside contest system
      (system.commit contest.capture
        { system.db with keys := keys } position) where
  keys := ⟨keys, rfl⟩
  capture := by simp [hCaptured]
  dispatch := by
    simp [System.commit,
      Function.update_of_ne contest.distinct]

/- How a capture of the contested payment begins. -/
theorem captureBegin_contestStep
    {request : CaptureRequest}
    {draw : Draw}
    (hPayment : request.paymentId = contest.paymentId)
    (hMerchant : request.merchantId = contest.merchantId)
    (hStep :
      stepCaptureBegin config system contest.capture request
        draw = some next) :
    Aside contest system next ∨
      ∃ intent, Opened contest system intent next := by
  have hEffect := stepCaptureBegin_effect hStep
  cases hEffect with
  | quiet hQuiet => exact .inl (aside_of_quiet hQuiet)
  | captureSettled hClaims hSelect hStatus =>
      rename_i keyRow intent
      rcases putKey_eq system.db keyRow with ⟨keys, hKeys⟩
      have hDb :
          ∃ keys,
            (captureSettled system.db intent keyRow).1 =
              { system.db with keys := keys } := by
        unfold captureSettled
        rw [hKeys]
        exact ⟨_, rfl⟩
      rcases hDb with ⟨keys', hDb⟩
      rw [hDb]
      exact .inl (aside_of_commit rfl)
  | captureOpen hClaims hFree hSelect hStatus hFound =>
      rename_i keyRow intent transaction
      have hId := (selectPayment_eq_some hSelect).2.1
      rw [hPayment, hMerchant] at hSelect
      refine .inr ⟨intent, ?_⟩
      exact
        { stored := hSelect
          status := hStatus
          db := rfl
          capture := by simp [System.become, Call.captured]
          lock := by simp [← hPayment, hId]
          dispatch := by
            simp [System.become,
              Function.update_of_ne contest.distinct] }

theorem failWrite_aside
    (hStep :
      stepFailWrite system contest.capture = some next) :
    Aside contest system next := by
  unfold stepFailWrite at hStep
  split at hStep
  · split at hStep
    · cases hStep
      exact aside_of_commit rfl
    · cases hStep
  · cases hStep

/- A label of the contest does one of these things. -/
theorem step_contestStep
    (hTakes : contest.takes label = true)
    (hStep : step config system label = some next) :
    ContestStep config contest system label next := by
  rcases label with ⟨call, action, draw⟩
  unfold step at hStep
  split at hStep
  · cases action with
    | captureBegin request =>
        simp only [Contest.takes, Bool.and_eq_true,
          decide_eq_true_iff] at hTakes
        rcases hTakes with ⟨⟨rfl, hPayment⟩, hMerchant⟩
        rcases captureBegin_contestStep hPayment hMerchant
          hStep with hAside | ⟨intent, hOpened⟩
        · exact .aside hAside (by simp)
        · exact .opened intent hOpened (by simp)
    | captureFinish result =>
        have hCall := of_decide_eq_true hTakes
        subst hCall
        exact .captured result rfl hStep
    | raise failure =>
        have hCall := of_decide_eq_true hTakes
        subst hCall
        exact .aside (aside_of_quiet (stepRaise_quiet hStep))
          (by simp)
    | failRead =>
        have hCall := of_decide_eq_true hTakes
        subst hCall
        exact .aside
          (aside_of_quiet (stepFailRead_quiet hStep))
          (by simp)
    | failWrite =>
        have hCall := of_decide_eq_true hTakes
        subst hCall
        exact .aside (failWrite_aside hStep) (by simp)
    | die =>
        have hCall := of_decide_eq_true hTakes
        subst hCall
        exact .aside (aside_of_quiet (stepDie_quiet hStep))
          (by simp)
    | dispatchBegin outboxEventId pick =>
        simp only [Contest.takes, Bool.and_eq_true,
          decide_eq_true_iff] at hTakes
        rcases hTakes with ⟨rfl, rfl⟩
        exact .begun pick (by simp) hStep
    | dispatchFinish =>
        have hCall := of_decide_eq_true hTakes
        subst hCall
        exact .finished (by simp) hStep
    | _ => cases hTakes
  · cases hStep

end PayGuard

------------------------------------------------------------
-- One Step In Each Phase
------------------------------------------------------------

namespace PayGuard

variable {config : Config}
variable {contest : Contest}
variable {system next : System}
variable {row loaded : PaymentIntent}
variable {result : ProviderResult}
variable {draw : Draw}

theorem Aside.books
    (hAside : Aside contest system next) :
    SameBooks system.db next.db := by
  rcases hAside.keys with ⟨keys, hDb⟩
  rw [hDb]
  exact ⟨rfl, rfl, rfl⟩

theorem Aside.deliverable
    (hAside : Aside contest system next)
    (hDeliverable : Deliverable contest system.db) :
    Deliverable contest next.db := by
  rcases hAside.keys with ⟨keys, hDb⟩
  rw [hDb]
  exact hDeliverable.of_same rfl rfl rfl rfl
    (List.prefix_refl _)

/- Only an open capture can finish. -/
theorem captured_of_captureFinish
    (hStep :
      stepCaptureFinish system contest.capture result draw =
        some next) :
    (system.calls contest.capture).captured ≠ none := by
  unfold stepCaptureFinish at hStep
  split at hStep
  · rename_i hCall
    simp [hCall, Call.captured]
  · cases hStep

/- The commit of a capture that found the payment waiting. -/
theorem Undecided.captureFinish
    (hUndecided : Undecided contest row system)
    (hStep :
      stepCaptureFinish system contest.capture result draw =
        some next) :
    Departed next.db .processing contest.paymentId
        contest.merchantId
        (row.moveTo result.outcome.captureStatus) ∧
      Deliverable contest next.db ∧
      (next.calls contest.capture).captured = none ∧
      next.calls contest.dispatch =
        system.calls contest.dispatch := by
  unfold stepCaptureFinish at hStep
  split at hStep
  · rename_i request keyRow intent transaction hCall
    have hIntent : intent = row :=
      (hUndecided.capture intent
        (by simp [hCall, Call.captured])).1
    subst hIntent
    split at hStep
    · have hAwaiting := hUndecided.awaiting
      have hOutcome :=
        isOutcome_captureStatus result.outcome
      rcases captureFinish_processing system.db keyRow
          result draw hAwaiting.status with
        ⟨eventType, keys, response, hBody⟩
      simp only [hBody, Option.some.injEq] at hStep
      subst hStep
      refine ⟨?_, hUndecided.deliverable.depart,
        by simp [Call.captured], ?_⟩
      · exact hAwaiting.depart
          (ne_processing_of_isOutcome hOutcome)
          (eq_succeeded_of_isOutcome hOutcome)
          ⟨rfl, rfl, rfl⟩
      · simp [System.commit, System.observe, System.release,
          Function.update_of_ne contest.distinct]
    · cases hStep
  · cases hStep

/- A dispatch that begins reads the stored payment. -/
theorem dispatchBegin_reading
    {pick : Uuid}
    (hDeliverable : Deliverable contest system.db)
    (hStored :
      system.db.selectPayment contest.paymentId
        contest.merchantId = some row)
    (hStep :
      stepDispatchBegin system contest.dispatch
        contest.outboxEventId pick = some next) :
    next.db = system.db ∧
      next.paymentLock = system.paymentLock ∧
      next.calls contest.dispatch = contest.reading row ∧
      next.calls contest.capture =
        system.calls contest.capture := by
  unfold stepDispatchBegin at hStep
  split at hStep
  · split at hStep
    · cases hStep
    · rename_i event hEvent
      split at hStep
      · simp only [hDeliverable.plan hStored event hEvent]
          at hStep
        cases hStep
        refine ⟨rfl, rfl, ?_, ?_⟩
        · simp [System.become, Contest.reading]
        · simp [System.become,
            Function.update_of_ne contest.distinct.symm]
      · cases hStep
  · cases hStep

/- A dispatch is idle before it begins. -/
theorem idle_of_dispatchBegin
    {pick : Uuid}
    (hStep :
      stepDispatchBegin system contest.dispatch
        contest.outboxEventId pick = some next) :
    system.calls contest.dispatch = .idle := by
  unfold stepDispatchBegin at hStep
  split at hStep
  · rename_i hIdle
    exact hIdle
  · cases hStep

/-
  A dispatch that finishes works on the object it holds,
  whatever the row has become.
-/
theorem dispatchFinish_reading
    {db : Database}
    (hRead : config.lockRead = .identityMap)
    (hReading :
      system.calls contest.dispatch = contest.reading loaded)
    (hStored :
      system.db.selectPayment contest.paymentId
        contest.merchantId = some row)
    (hId : loaded.id = contest.paymentId)
    (hMerchant : loaded.merchantId = contest.merchantId)
    (hHandled :
      handlePaymentOutcome system.db (some loaded)
        contest.webhookEventId contest.targetStatus draw =
          .ok db)
    (hStep :
      stepDispatchFinish config system contest.dispatch
        draw = some next) :
    system.paymentLock contest.paymentId = none ∧
      next.db = markProcessed db contest.outboxEventId ∧
      next.calls contest.dispatch = .done .dispatched ∧
      next.calls contest.capture =
        system.calls contest.capture := by
  have hLock :
      lockPayment config.lockRead system.db (some loaded)
          loaded.id loaded.merchantId = some loaded := by
    rw [hRead, hId, hMerchant]
    exact lockPayment_loaded hStored hId
  unfold stepDispatchFinish at hStep
  rw [hReading] at hStep
  simp only [Contest.reading, dispatchEffect, hLock,
    hHandled] at hStep
  split at hStep
  · rename_i hReady
    cases hStep
    refine ⟨?_, rfl, by simp, ?_⟩
    · rw [← hId]
      exact paymentLock_eq_none hReady
    · simp [System.commit, System.release,
        Function.update_of_ne contest.distinct.symm]
  · cases hStep

end PayGuard

------------------------------------------------------------
-- Phases Along The Contest
------------------------------------------------------------

namespace PayGuard

variable {config : Config}
variable {contest : Contest}
variable {system next : System}
variable {label : Label}
variable {row : PaymentIntent}

def Call.isDispatching : Call → Bool
| .dispatchOpen _ _ _ => true
| _ => false

/-
  The capture does not commit while the dispatch is between
  its unlocked read and its lock.
-/
def NotOvertaken
    (contest : Contest)
    (system : System)
    (label : Label) : Prop :=
  match label.action with
  | .captureFinish _ =>
      (system.calls contest.dispatch).isDispatching = false
  | _ => True

instance
    (contest : Contest)
    (system : System)
    (label : Label) :
    Decidable (NotOvertaken contest system label) := by
  unfold NotOvertaken
  generalize label.action = action
  rcases action
  case captureFinish =>
    exact inferInstanceAs (Decidable (_ = _))
  all_goals exact inferInstanceAs (Decidable True)

/- The object the dispatch holds, by its columns. -/
theorem Awaiting.columns
    {db : Database}
    {fromStatus : PaymentStatus}
    {paymentId merchantId : Uuid}
    (hAwaiting :
      Awaiting db fromStatus paymentId merchantId row) :
    row.id = paymentId ∧ row.merchantId = merchantId :=
  (selectPayment_eq_some hAwaiting.stored).2

/- The lock is free, so no capture is open. -/
theorem Undecided.capture_eq_none
    (hUndecided : Undecided contest row system)
    (hFree :
      system.paymentLock contest.paymentId = none) :
    (system.calls contest.capture).captured = none := by
  by_contra hCaptured
  rcases Option.ne_none_iff_exists'.mp hCaptured with
    ⟨intent, hIntent⟩
  have hLock := (hUndecided.capture intent hIntent).2
  rw [hFree] at hLock
  cases hLock

/- The webhook finds the payment waiting and wins. -/
theorem Undecided.dispatchFinish
    {draw : Draw}
    (hRead : config.lockRead = .identityMap)
    (hUndecided : Undecided contest row system)
    (hReading :
      system.calls contest.dispatch = contest.reading row)
    (hStep :
      stepDispatchFinish config system contest.dispatch
        draw = some next) :
    Decided contest (row.moveTo contest.targetStatus)
      next := by
  have hAwaiting := hUndecided.awaiting
  have hOutcome := isOutcome_target contest
  rcases dispatchFinish_reading hRead hReading
      hAwaiting.stored hAwaiting.columns.1
      hAwaiting.columns.2
      (handlePaymentOutcome_processing contest
        hAwaiting.status) hStep with
    ⟨hFree, hDb, hDone, hCapture⟩
  constructor
  · rw [hDb]
    exact hAwaiting.depart
      (ne_processing_of_isOutcome hOutcome)
      (eq_succeeded_of_isOutcome hOutcome) ⟨rfl, rfl, rfl⟩
  · exact hOutcome
  · rw [hCapture]
    exact hUndecided.capture_eq_none hFree
  · exact .inr (.inr ⟨_, hDone⟩)

/- A contest with no winner yet goes on or is decided. -/
theorem undecided_step
    (hRead : config.lockRead = .identityMap)
    (hUndecided : Undecided contest row system)
    (hKept : NotOvertaken contest system label)
    (hStep :
      ContestStep config contest system label next) :
    Undecided contest row next ∨
      ∃ moved, Decided contest moved next := by
  have hAwaiting := hUndecided.awaiting
  cases hStep with
  | aside hAside hAction =>
      refine .inl ⟨hAwaiting.sameBooks hAside.books,
        hAside.deliverable hUndecided.deliverable, ?_, ?_⟩
      · intro intent hIntent
        rw [hAside.capture] at hIntent
        cases hIntent
      · rw [hAside.dispatch]
        exact hUndecided.dispatch
  | opened intent hOpened hAction =>
      have hSame : intent = row :=
        Option.some.inj
          (hOpened.stored.symm.trans hAwaiting.stored)
      refine .inl ⟨?_, ?_, ?_, ?_⟩
      · rw [hOpened.db]
        exact hAwaiting
      · rw [hOpened.db]
        exact hUndecided.deliverable
      · intro other hOther
        rw [hOpened.capture, Option.some.injEq] at hOther
        exact ⟨hOther.symm.trans hSame, hOpened.lock⟩
      · rw [hOpened.dispatch]
        exact hUndecided.dispatch
  | captured result hAction hFinish =>
      rcases hUndecided.captureFinish hFinish with
        ⟨hDeparted, hDeliverable, hCapture, hDispatch⟩
      refine .inr ⟨_, hDeparted,
        isOutcome_captureStatus result.outcome, hCapture,
        .inl ⟨?_, hDeliverable⟩⟩
      rw [hDispatch]
      rcases hUndecided.dispatch with hIdle | hReading
      · exact hIdle
      · -- the dispatch would be overtaken
        simp only [NotOvertaken, hAction, hReading] at hKept
        cases hKept
  | begun pick hAction hBegin =>
      rcases dispatchBegin_reading hUndecided.deliverable
          hAwaiting.stored hBegin with
        ⟨hDb, hLock, hReading, hCapture⟩
      refine .inl ⟨?_, ?_, ?_, .inr hReading⟩
      · rw [hDb]
        exact hAwaiting
      · rw [hDb]
        exact hUndecided.deliverable
      · rw [hCapture, hLock]
        exact hUndecided.capture
  | finished hAction hFinish =>
      rcases hUndecided.dispatch with hIdle | hReading
      · unfold stepDispatchFinish at hFinish
        rw [hIdle] at hFinish
        cases hFinish
      · exact .inr ⟨_,
          hUndecided.dispatchFinish hRead hReading hFinish⟩

/- A decided contest stays as it is. -/
theorem decided_step
    (hRead : config.lockRead = .identityMap)
    (hDecided : Decided contest row system)
    (hStep :
      ContestStep config contest system label next) :
    Decided contest row next := by
  have hDeparted := hDecided.departed
  have hColumns := (selectPayment_eq_some hDeparted.stored).2
  cases hStep with
  | aside hAside hAction =>
      refine ⟨hDeparted.sameBooks hAside.books,
        hDecided.outcome, hAside.capture, ?_⟩
      rw [hAside.dispatch]
      rcases hDecided.dispatch with
        ⟨hIdle, hDeliverable⟩ | hOther
      · exact .inl ⟨hIdle, hAside.deliverable hDeliverable⟩
      · exact .inr hOther
  | opened intent hOpened hAction =>
      have hSame : intent = row :=
        Option.some.inj
          (hOpened.stored.symm.trans hDeparted.stored)
      have hStatus := hOpened.status
      rw [hSame] at hStatus
      exact absurd hStatus
        (ne_processing_of_isOutcome hDecided.outcome)
  | captured result hAction hFinish =>
      exact absurd hDecided.capture
        (captured_of_captureFinish hFinish)
  | begun pick hAction hBegin =>
      have hIdle := idle_of_dispatchBegin hBegin
      rcases hDecided.dispatch with
        ⟨_, hDeliverable⟩ | hReading | ⟨reply, hDone⟩
      · rcases dispatchBegin_reading hDeliverable
            hDeparted.stored hBegin with
          ⟨hDb, hLock, hReading, hCapture⟩
        refine ⟨?_, hDecided.outcome, ?_, .inr (.inl hReading)⟩
        · rw [hDb]
          exact hDeparted
        · rw [hCapture]
          exact hDecided.capture
      · rw [hIdle] at hReading
        cases hReading
      · rw [hIdle] at hDone
        cases hDone
  | finished hAction hFinish =>
      rcases hDecided.dispatch with
        ⟨hIdle, _⟩ | hReading | ⟨reply, hDone⟩
      · unfold stepDispatchFinish at hFinish
        rw [hIdle] at hFinish
        cases hFinish
      · rcases handlePaymentOutcome_decided contest
            hDecided.outcome with ⟨status, hHandled⟩
        rcases dispatchFinish_reading hRead hReading
            hDeparted.stored hColumns.1 hColumns.2 hHandled
            hFinish with ⟨_, hDb, hDone, hCapture⟩
        refine ⟨?_, hDecided.outcome, ?_,
          .inr (.inr ⟨_, hDone⟩)⟩
        · rw [hDb]
          exact hDeparted.sameBooks ⟨rfl, rfl, rfl⟩
        · rw [hCapture]
          exact hDecided.capture
      · unfold stepDispatchFinish at hFinish
        rw [hDone] at hFinish
        cases hFinish

end PayGuard

------------------------------------------------------------
-- After An Overtaking
------------------------------------------------------------

namespace PayGuard

variable {config : Config}
variable {contest : Contest}
variable {system next : System}
variable {label : Label}
variable {row : PaymentIntent}

/- A capture that commits behind the dispatch overtakes it. -/
theorem undecided_overtaken
    (hUndecided : Undecided contest row system)
    (hMissed : ¬ NotOvertaken contest system label)
    (hStep :
      ContestStep config contest system label next) :
    Overtaken contest next := by
  have hAwaiting := hUndecided.awaiting
  have hCommits :
      ∃ result, label.action = .captureFinish result := by
    by_contra hOther
    apply hMissed
    unfold NotOvertaken
    split
    · rename_i result hAction
      exact absurd ⟨result, hAction⟩ hOther
    · trivial
  rcases hCommits with ⟨committed, hCommitted⟩
  cases hStep with
  | captured result hAction hFinish =>
      rcases hUndecided.captureFinish hFinish with
        ⟨hDeparted, _, hCapture, hDispatch⟩
      refine ⟨⟨_, hDeparted,
        isOutcome_captureStatus result.outcome⟩, hCapture,
        row, hAwaiting.status, hAwaiting.columns.1,
        hAwaiting.columns.2, ?_⟩
      rw [hDispatch]
      rcases hUndecided.dispatch with hIdle | hReading
      · exfalso
        apply hMissed
        simp [NotOvertaken, hCommitted, hIdle,
          Call.isDispatching]
      · exact hReading
  | aside _ hAction => exact absurd hCommitted (hAction _)
  | opened _ _ hAction => exact absurd hCommitted (hAction _)
  | begun _ hAction _ => exact absurd hCommitted (hAction _)
  | finished hAction _ => exact absurd hCommitted (hAction _)

/- The dispatch applies its event to an object long gone. -/
theorem Overtaken.dispatchFinish
    {draw : Draw}
    (hRead : config.lockRead = .identityMap)
    (hOvertaken : Overtaken contest system)
    (hStep :
      stepDispatchFinish config system contest.dispatch
        draw = some next) :
    Twice contest next := by
  rcases hOvertaken.departed with
    ⟨row, hDeparted, hRowOutcome⟩
  rcases hOvertaken.dispatch with
    ⟨loaded, hStatus, hId, hMerchant, hReading⟩
  rcases hDeparted.event with ⟨event, hEvent, _⟩
  have hOutcome :=
    ne_processing_of_isOutcome (isOutcome_target contest)
  rcases dispatchFinish_reading hRead hReading
      hDeparted.stored hId hMerchant
      (handlePaymentOutcome_processing contest hStatus)
      hStep with ⟨_, hDb, hDone, hCapture⟩
  have hBooks :
      SameBooks
        (system.db.depart loaded contest.targetStatus
          .webhook (webhookEventType contest.targetStatus)
          draw) next.db := by
    rw [hDb]
    exact ⟨rfl, rfl, rfl⟩
  constructor
  · have hTwo :
        ∃ second : PaymentEvent,
          second.toStatus = contest.targetStatus ∧
            (system.db.depart loaded contest.targetStatus
                .webhook
                (webhookEventType contest.targetStatus)
                draw).departures .processing
                  contest.paymentId =
              system.db.departures .processing
                contest.paymentId ++ [second] :=
      departures_depart hId hStatus hOutcome
    rcases hTwo with ⟨second, _, hBoth⟩
    rw [hBooks.departures, hBoth, hEvent]
    simp
  · have hStored :=
      (hBooks.selectPayment contest.paymentId
        contest.merchantId).trans
        (selectPayment_depart hDeparted.stored hId)
    refine ⟨_, hStored, ?_⟩
    simp [flushPayment, PaymentIntent.moveTo, hStatus,
      hOutcome]
  · rw [hCapture]
    exact hOvertaken.capture
  · exact ⟨_, hDone⟩

theorem overtaken_step
    (hRead : config.lockRead = .identityMap)
    (hOvertaken : Overtaken contest system)
    (hStep :
      ContestStep config contest system label next) :
    Overtaken contest next ∨ Twice contest next := by
  rcases hOvertaken.departed with
    ⟨row, hDeparted, hOutcome⟩
  cases hStep with
  | aside hAside hAction =>
      refine .inl ⟨⟨row, hDeparted.sameBooks hAside.books,
        hOutcome⟩, hAside.capture, ?_⟩
      rw [hAside.dispatch]
      exact hOvertaken.dispatch
  | opened intent hOpened hAction =>
      have hSame : intent = row :=
        Option.some.inj
          (hOpened.stored.symm.trans hDeparted.stored)
      have hStatus := hOpened.status
      rw [hSame] at hStatus
      exact absurd hStatus
        (ne_processing_of_isOutcome hOutcome)
  | captured result hAction hFinish =>
      exact absurd hOvertaken.capture
        (captured_of_captureFinish hFinish)
  | begun pick hAction hBegin =>
      rcases hOvertaken.dispatch with
        ⟨loaded, _, _, _, hReading⟩
      rw [idle_of_dispatchBegin hBegin] at hReading
      cases hReading
  | finished hAction hFinish =>
      exact .inr (hOvertaken.dispatchFinish hRead hFinish)

theorem twice_step
    (hTwice : Twice contest system)
    (hStep :
      ContestStep config contest system label next) :
    Twice contest next := by
  rcases hTwice.stored with ⟨row, hStored, hStatus⟩
  rcases hTwice.dispatch with ⟨reply, hDone⟩
  cases hStep with
  | aside hAside hAction =>
      have hBooks := hAside.books
      refine ⟨?_, ⟨row, ?_, hStatus⟩, hAside.capture,
        reply, ?_⟩
      · rw [hBooks.departures]
        exact hTwice.departures
      · rw [hBooks.selectPayment]
        exact hStored
      · rw [hAside.dispatch]
        exact hDone
  | opened intent hOpened hAction =>
      have hSame : intent = row :=
        Option.some.inj
          (hOpened.stored.symm.trans hStored)
      have hOpen := hOpened.status
      rw [hSame] at hOpen
      exact absurd hOpen hStatus
  | captured result hAction hFinish =>
      exact absurd hTwice.capture
        (captured_of_captureFinish hFinish)
  | begun pick hAction hBegin =>
      rw [idle_of_dispatchBegin hBegin] at hDone
      cases hDone
  | finished hAction hFinish =>
      unfold stepDispatchFinish at hFinish
      rw [hDone] at hFinish
      cases hFinish

end PayGuard

------------------------------------------------------------
-- Convergence
------------------------------------------------------------

namespace PayGuard

/- An authorized payment before either call has begun. -/
structure Contested
    (contest : Contest)
    (row : PaymentIntent)
    (system : System) : Prop where
  awaiting :
    Awaiting system.db .processing contest.paymentId
      contest.merchantId row
  deliverable : Deliverable contest system.db
  capture : system.calls contest.capture = .idle
  dispatch : system.calls contest.dispatch = .idle

/-
  One departure decides the final status and the ledger,
  and no failure that was committed turned into a success.
-/
structure Converged
    (config : Config)
    (contest : Contest)
    (start : System)
    (labels : List Label)
    (final : System) : Prop where
  departed :
    ∃ row,
      Departed final.db .processing contest.paymentId
        contest.merchantId row
  failed :
    ∀ before after middle failed last,
      labels = before ++ after →
        Lts.exec (step config) start before = some middle →
          middle.db.selectPayment contest.paymentId
              contest.merchantId = some failed →
            failed.status = .failed →
              final.db.selectPayment contest.paymentId
                  contest.merchantId = some last →
                last.status ≠ .succeeded

variable {config : Config}
variable {contest : Contest}
variable {start middle final : System}
variable {row : PaymentIntent}
variable {labels : List Label}

theorem Contested.undecided
    (hContested : Contested contest row start) :
    Undecided contest row start where
  awaiting := hContested.awaiting
  deliverable := hContested.deliverable
  capture := by
    intro intent hIntent
    rw [hContested.capture] at hIntent
    cases hIntent
  dispatch := .inl hContested.dispatch

/- Neither phase has lost a committed transition. -/
def InOrder
    (contest : Contest)
    (row : PaymentIntent)
    (system : System) : Prop :=
  Undecided contest row system ∨
    ∃ moved, Decided contest moved system

def OutOfOrder
    (contest : Contest)
    (system : System) : Prop :=
  Overtaken contest system ∨ Twice contest system

/- A run is in order exactly when nobody is overtaken. -/
theorem inOrder_or_outOfOrder
    (hRead : config.lockRead = .identityMap)
    (hContested : Contested contest row start)
    (hLabels : ∀ label ∈ labels, contest.takes label = true)
    (hRun :
      Lts.exec (step config) start labels = some final) :
    (Lts.Meets (step config) (NotOvertaken contest) start
        labels ∧ InOrder contest row final) ∨
      (¬ Lts.Meets (step config) (NotOvertaken contest)
          start labels ∧ OutOfOrder contest final) := by
  apply Lts.kept_or_spoiled _ _ _
    (.inl hContested.undecided) hLabels hRun
  · intro state label next hKept hTakes hMet hStep
    have hContest := step_contestStep hTakes hStep
    rcases hKept with hUndecided | ⟨moved, hDecided⟩
    · exact undecided_step hRead hUndecided hMet hContest
    · exact .inr ⟨moved,
        decided_step hRead hDecided hContest⟩
  · intro state label next hKept hTakes hMissed hStep
    have hContest := step_contestStep hTakes hStep
    rcases hKept with hUndecided | ⟨moved, hDecided⟩
    · exact .inl
        (undecided_overtaken hUndecided hMissed hContest)
    · -- a decided capture has nothing left to commit
      exfalso
      apply hMissed
      unfold NotOvertaken
      split
      · rename_i result hAction
        cases hContest with
        | captured result hAction hFinish =>
            exact absurd hDecided.capture
              (captured_of_captureFinish hFinish)
        | aside _ hOther => exact absurd hAction (hOther _)
        | opened _ _ hOther => exact absurd hAction (hOther _)
        | begun _ hOther _ => exact absurd hAction (hOther _)
        | finished hOther _ =>
            exact absurd hAction (hOther _)
      · trivial
  · intro state label next hSpoiled hTakes hStep
    have hContest := step_contestStep hTakes hStep
    rcases hSpoiled with hOvertaken | hTwice
    · exact overtaken_step hRead hOvertaken hContest
    · exact .inr (twice_step hTwice hContest)

/- What a decided contest shows does not change. -/
theorem decided_exec
    (hRead : config.lockRead = .identityMap)
    (hDecided : Decided contest row middle)
    (hLabels : ∀ label ∈ labels, contest.takes label = true)
    (hRun :
      Lts.exec (step config) middle labels = some final) :
    Decided contest row final := by
  have hKeep :
      ∀ state label next,
        Decided contest row state →
          contest.takes label = true →
            step config state label = some next →
              Decided contest row next :=
    fun _ _ _ hBefore hTakes hStep =>
      decided_step hRead hBefore
        (step_contestStep hTakes hStep)
  have hMeets :
      Lts.Meets (step config)
        (fun _ label => contest.takes label = true) middle
        labels :=
    Lts.meets_of_forall (fun label hLabel _ =>
      hLabels label hLabel)
  exact Lts.invariant_of_meets hKeep hDecided hMeets hRun

/- A failure committed on the way is the final status. -/
theorem failed_stays
    {before after : List Label}
    {failed last : PaymentIntent}
    (hRead : config.lockRead = .identityMap)
    (hContested : Contested contest row start)
    (hLabels :
      ∀ label ∈ before ++ after, contest.takes label = true)
    (hMeets :
      Lts.Meets (step config) (NotOvertaken contest) start
        (before ++ after))
    (hRun :
      Lts.exec (step config) start (before ++ after) =
        some final)
    (hMiddle :
      Lts.exec (step config) start before = some middle)
    (hFailed :
      middle.db.selectPayment contest.paymentId
        contest.merchantId = some failed)
    (hStatus : failed.status = .failed)
    (hLast :
      final.db.selectPayment contest.paymentId
        contest.merchantId = some last) :
    last.status ≠ .succeeded := by
  rw [List.forall_mem_append] at hLabels
  rw [Lts.meets_append hMiddle] at hMeets
  have hRest :
      Lts.exec (step config) middle after = some final := by
    rw [Lts.exec_append, hMiddle] at hRun
    exact hRun
  rcases inOrder_or_outOfOrder hRead hContested hLabels.1
      hMiddle with ⟨_, hUndecided | ⟨moved, hDecided⟩⟩ |
        ⟨hMissed, _⟩
  · -- nobody has moved the payment yet
    have hAwaiting := hUndecided.awaiting
    rw [hAwaiting.stored, Option.some.injEq] at hFailed
    rw [← hFailed, hAwaiting.status] at hStatus
    cases hStatus
  · have hFinal :=
      decided_exec hRead hDecided hLabels.2 hRest
    rw [hDecided.departed.stored, Option.some.injEq]
      at hFailed
    rw [hFinal.departed.stored, Option.some.injEq] at hLast
    rw [← hLast, hFailed, hStatus]
    simp
  · exact absurd hMeets.1 hMissed

/-
  Once the dispatch is through, the two sides have converged
  exactly where the capture never committed between the
  unlocked read of the dispatch and its lock.
-/
theorem capture_and_webhook_converge
    (config : Config)
    (contest : Contest)
    (row : PaymentIntent)
    (start final : System)
    (labels : List Label)
    (hRead : config.lockRead = .identityMap)
    (hContested : Contested contest row start)
    (hLabels : ∀ label ∈ labels, contest.takes label = true)
    (hRun :
      Lts.exec (step config) start labels = some final)
    (hDone :
      ∃ reply, final.calls contest.dispatch = .done reply) :
    Converged config contest start labels final ↔
      Lts.Meets (step config) (NotOvertaken contest) start
        labels := by
  rcases hDone with ⟨reply, hDone⟩
  rcases inOrder_or_outOfOrder hRead hContested hLabels
      hRun with ⟨hMeets, hOrder⟩ | ⟨hMissed, hOrder⟩
  · refine ⟨fun _ => hMeets, fun _ => ⟨?_, ?_⟩⟩
    · rcases hOrder with hUndecided | ⟨moved, hDecided⟩
      · -- a finished dispatch has decided the contest
        have hDispatch := hUndecided.dispatch
        rw [hDone] at hDispatch
        rcases hDispatch with hIdle | hReading
        · cases hIdle
        · cases hReading
      · exact ⟨moved, hDecided.departed⟩
    · rintro before after middle failed last rfl hMiddle
        hFailed hStatus hLast
      exact failed_stays hRead hContested hLabels hMeets hRun
        hMiddle hFailed hStatus hLast
  · constructor
    · intro hConverged
      rcases hConverged.departed with ⟨moved, hDeparted⟩
      rcases hDeparted.event with ⟨event, hEvent, _⟩
      rcases hOrder with hOvertaken | hTwice
      · rcases hOvertaken.dispatch with
          ⟨loaded, _, _, _, hReading⟩
        rw [hDone] at hReading
        cases hReading
      · have hCount := hTwice.departures
        rw [hEvent] at hCount
        simp at hCount
    · intro hMeets
      exact absurd hMeets hMissed

/- Payment 1 is authorized and its success is announced. -/
def announcedRun : List Label :=
  authorizedRun ++
    [⟨2, .receiveWebhook
        { providerName := "mock"
          providerEventId := "evt"
          eventType := "payment.succeeded"
          providerTransactionId := some "txn" },
      .numbered 6⟩]

def announcedContest : Contest where
  capture := 1
  dispatch := 3
  paymentId := 1
  merchantId := 1
  outboxEventId := 6
  webhookEventId := 6
  providerTransactionId := "txn"
  targetStatus := .succeeded
  distinct := by decide
  target := .inl rfl

def announcedPayment : PaymentIntent where
  id := 1
  merchantId := 1
  amountMinor := 100
  currency := "USD"
  merchantReference := none
  status := .processing
  version := 2
  createdAt := 0

def captureLabel : Label :=
  ⟨1, .captureBegin
    { merchantId := 1
      paymentId := 1
      idempotencyKey := "capture" }, .numbered 7⟩

/- The provider declines the capture. -/
def declinedLabel : Label :=
  ⟨1, .captureFinish
    { outcome := .declined
      providerTransactionId := none
      rawStatus := "declined" }, .numbered 8⟩

/- The dispatch begins after the capture's commit. -/
def lateDispatch : List Label :=
  [captureLabel, declinedLabel,
    ⟨3, .dispatchBegin 6 1, .numbered 9⟩,
    ⟨3, .dispatchFinish, .numbered 10⟩]

theorem capture_and_webhook_converge_late :
    ∃ start final,
      Lts.exec (step loadedConfig) {} announcedRun =
          some start ∧
        Lts.exec (step loadedConfig) start lateDispatch =
          some final ∧
        Converged loadedConfig announcedContest start
          lateDispatch final := by
  have hSetup :
      (Lts.exec (step loadedConfig) {} announcedRun).map
          (fun start =>
            decide
              ((start.db.selectPayment 1 1 =
                    some announcedPayment ∧
                  start.db.departures .processing 1 = [] ∧
                  start.db.settlementOf 1 = []) ∧
                ((start.db.payments.map (·.id)).Nodup ∧
                  (∀ paymentId ∈
                      start.db.payments.map (·.id),
                    start.db.ownsTransaction "txn"
                        paymentId = true ↔
                      paymentId = 1) ∧
                  (∃ event ∈ start.db.webhooks.find?
                      (fun event => event.id = 6),
                    event.processingStatus = .received ∧
                      webhookTarget event.eventType =
                        some .succeeded ∧
                      event.providerTransactionId =
                        some "txn") ∧
                  (∃ event ∈ start.db.outbox.find?
                      (fun event => event.id = 6),
                    event.eventType = "webhook.received" ∧
                      event.payload = .webhook 6)) ∧
                start.calls 1 = .idle ∧
                start.calls 3 = .idle ∧
                Lts.Meets (step loadedConfig)
                  (NotOvertaken announcedContest) start
                  lateDispatch)) =
        some true := by
    decide +kernel
  have hWhole :
      (Lts.exec (step loadedConfig) {}
          (announcedRun ++ lateDispatch)).map
            (fun final => final.calls 3) =
        some (.done .dispatched) := by
    decide +kernel
  rcases Option.map_eq_some_iff.mp hSetup with
    ⟨start, hStart, hFacts⟩
  rcases Option.map_eq_some_iff.mp hWhole with
    ⟨final, hBoth, hDone⟩
  rw [Lts.exec_append, hStart] at hBoth
  have hTrue := of_decide_eq_true hFacts
  rcases hTrue with
    ⟨⟨hStored, hNone, hUnsettled⟩,
      ⟨hIds, hOwner, hWebhook, hOutbox⟩, hCapture,
      hDispatch, hMeets⟩
  have hContested :
      Contested announcedContest announcedPayment start :=
    { awaiting := ⟨hStored, rfl, hNone, hUnsettled⟩
      deliverable :=
        ⟨hIds, by decide, hOwner, hWebhook, hOutbox⟩
      capture := hCapture
      dispatch := hDispatch }
  refine ⟨start, final, hStart, hBoth, ?_⟩
  exact (capture_and_webhook_converge _ _ _ _ _ _ rfl
    hContested (by decide) hBoth ⟨_, hDone⟩).mpr hMeets

/- The capture commits between the two reads. -/
def overtakenDispatch : List Label :=
  [captureLabel, ⟨3, .dispatchBegin 6 1, .numbered 9⟩,
    declinedLabel, ⟨3, .dispatchFinish, .numbered 10⟩]

/-
  The capture fails the payment, and the webhook turns it
  into a success with a second departure.
-/
theorem overtaken_webhook_applies_again :
    (Lts.exec (step loadedConfig) {}
          (announcedRun ++ overtakenDispatch.take 3)).map
        (fun middle =>
          (middle.db.selectPayment 1 1).map (·.status)) =
        some (some .failed) ∧
      (Lts.exec (step loadedConfig) {}
          (announcedRun ++ overtakenDispatch)).map
        (fun final =>
          ((final.db.selectPayment 1 1).map (·.status),
            (final.db.departures .processing 1).map
              (·.toStatus),
            final.calls 3)) =
        some (some .succeeded, [.failed, .succeeded],
          .done .dispatched) := by
  decide +kernel

end PayGuard

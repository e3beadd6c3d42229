import PayGuard.System.Deliveries

/-
  Which statuses the transactions put a payment into.

  A step leaves the status of every payment alone but that
  of one, and the outcome its call works with decides where
  that payment may land.

  Key definitions include:
    * `Lands`
    * `authorizeTargets`, `captureTargets` and
      `lookupTargets`
    * `Landing`

  Key theorems include:
    * `Lands.of_applyTransition`
    * `Effect.landing`
-/

------------------------------------------------------------
-- Statuses After A Transaction
------------------------------------------------------------

namespace PayGuard

/-
  Every payment has the status it had, or is this one and
  has landed in one of the targets.
-/
def Lands
    (db : Database)
    (paymentId : Uuid)
    (targets : List PaymentStatus)
    (db' : Database) : Prop :=
  ∀ row ∈ db'.payments,
    (∃ old ∈ db.payments,
        old.id = row.id ∧ old.status = row.status) ∨
      (row.id = paymentId ∧ row.status ∈ targets)

namespace Lands

variable {db db' db'' : Database}
variable {paymentId : Uuid}
variable {targets : List PaymentStatus}
variable {intent moved : PaymentIntent}
variable {toStatus : PaymentStatus}
variable {actor : Actor}
variable {eventType : String}
variable {draw : Draw}

theorem of_payments
    (hPayments : db'.payments = db.payments) :
    Lands db paymentId targets db' := by
  intro row hRow
  rw [hPayments] at hRow
  exact .inl ⟨row, hRow, rfl, rfl⟩

theorem after
    (hPayments : db'.payments = db.payments)
    (hLands : Lands db' paymentId targets db'') :
    Lands db paymentId targets db'' := by
  intro row hRow
  have hBoth := hLands row hRow
  rw [hPayments] at hBoth
  exact hBoth

theorem andThen
    (hLands : Lands db paymentId targets db')
    (hPayments : db''.payments = db'.payments) :
    Lands db paymentId targets db'' := by
  intro row hRow
  rw [hPayments] at hRow
  exact hLands row hRow

theorem mono
    {more : List PaymentStatus}
    (hLands : Lands db paymentId targets db')
    (hMore : targets ⊆ more) :
    Lands db paymentId more db' := by
  intro row hRow
  rcases hLands row hRow with hOld | ⟨hId, hStatus⟩
  · exact .inl hOld
  · exact .inr ⟨hId, hMore hStatus⟩

/- A flushed row keeps its status or takes the new one. -/
theorem of_recordTransition :
    Lands db intent.id [toStatus]
      (db.recordTransition intent toStatus actor eventType
        draw) := by
  intro row hRow
  rcases Table.mem_updateWhere.mp hRow with
    ⟨old, hOld, rfl⟩
  split
  · rename_i hSelected
    by_cases hSame :
        (flushPayment intent (intent.moveTo toStatus)
          old).status = old.status
    · exact .inl ⟨old, hOld, rfl, hSame.symm⟩
    · refine .inr ⟨of_decide_eq_true hSelected, ?_⟩
      unfold flushPayment PaymentIntent.moveTo at hSame ⊢
      simp only at hSame ⊢
      split
      · rename_i hKept
        exact absurd (if_pos hKept) hSame
      · exact List.mem_singleton_self _
  · exact .inl ⟨old, hOld, rfl, rfl⟩

/- A change into the same status is not flushed. -/
theorem of_sameStatus
    (hStatus : intent.status = toStatus) :
    Lands db intent.id []
      (db.recordTransition intent toStatus actor eventType
        draw) := by
  intro row hRow
  rcases Table.mem_updateWhere.mp hRow with
    ⟨old, hOld, rfl⟩
  refine .inl ⟨old, hOld, ?_, ?_⟩
  · split <;> rfl
  · split
    · simp [flushPayment, PaymentIntent.moveTo, hStatus]
    · rfl

theorem of_applyTransition
    (hApply :
      applyTransition db intent toStatus actor eventType
        draw = .ok (db', moved)) :
    Lands db intent.id [toStatus] db' := by
  rcases applyTransition_eq_ok.mp hApply with ⟨_, rfl, _⟩
  exact of_recordTransition

end Lands

------------------------------------------------------------
-- Targets Of An Outcome
------------------------------------------------------------

/- Where an authorize outcome puts the payment. -/
def authorizeTargets : ProviderOutcome → List PaymentStatus
| .succeeded => []
| .temporaryFailure => []
| .unknown => [.unknown]
| .declined => [.failed]

/- Where a capture outcome puts the payment. -/
def captureTargets : ProviderOutcome → List PaymentStatus
| .succeeded => [.succeeded]
| .unknown => [.unknown]
| .declined => [.failed]
| .temporaryFailure => [.failed]

/- Where the answer to a lookup puts the payment. -/
def lookupTargets : ProviderOutcome → List PaymentStatus
| .succeeded => [.succeeded]
| .unknown => []
| .declined => [.failed]
| .temporaryFailure => [.failed]

end PayGuard

------------------------------------------------------------
-- The Bodies Of The Transactions
------------------------------------------------------------

namespace PayGuard

variable {db db' : Database}
variable {locked : Option PaymentIntent}
variable {intent moved : PaymentIntent}
variable {keyRow : IdempotencyKey}
variable {keyRowId : Uuid}
variable {providerName : String}
variable {result : ProviderResult}
variable {response : Response}
variable {draw : Draw}

theorem createInsert_lands
    {indexable : PyString → Bool}
    {request : CreateRequest}
    (hBody :
      createInsert indexable db request keyRow draw =
        .ok (db', intent)) :
    Lands db draw.payment [.created] db' := by
  rcases createInsert_eq_ok hBody with ⟨rfl, _, rfl⟩
  intro row hRow
  rw [List.mem_append, List.mem_singleton] at hRow
  rcases hRow with hOld | rfl
  · rw [(SameTrail.putKey db keyRow).payments] at hOld
    exact .inl ⟨row, hOld, rfl, rfl⟩
  · exact .inr ⟨rfl, List.mem_singleton_self _⟩

theorem createProcess_lands
    (hBody :
      createProcess db locked draw = .ok (db', moved)) :
    ∃ intent,
      locked = some intent ∧
        Lands db intent.id [.processing] db' := by
  rcases createProcess_eq_ok hBody with
    ⟨intent, hLocked, hApply⟩
  exact ⟨intent, hLocked, .of_applyTransition hApply⟩

theorem createBlock_lands
    (hBody :
      createBlock db locked keyRowId draw =
        .ok (db', response)) :
    ∃ intent,
      locked = some intent ∧
        Lands db intent.id [.failed] db' := by
  rcases createBlock_eq_ok hBody with
    ⟨intent, base, moved, hLocked, hApply, rfl, _⟩
  exact ⟨intent, hLocked,
    (Lands.of_applyTransition hApply).andThen rfl⟩

theorem createFinish_lands
    (hBody :
      createFinish db locked keyRowId providerName result
        draw = .ok (db', response)) :
    ∃ intent,
      locked = some intent ∧
        Lands db intent.id
          (authorizeTargets result.outcome) db' := by
  rcases createFinish_eq_ok hBody with
    ⟨intent, attempt, base, moved, added, hLocked, hApply,
      rfl, _⟩
  refine ⟨intent, hLocked, ?_⟩
  unfold applyAuthorizeOutcome at hApply
  cases hOutcome : result.outcome with
  | succeeded =>
      rw [hOutcome] at hApply
      cases hApply
      exact .of_payments rfl
  | temporaryFailure =>
      rw [hOutcome] at hApply
      cases hApply
      exact .of_payments rfl
  | unknown =>
      rw [hOutcome] at hApply
      exact Lands.after rfl
        ((Lands.of_applyTransition hApply).andThen rfl)
  | declined =>
      rw [hOutcome] at hApply
      exact Lands.after rfl
        ((Lands.of_applyTransition hApply).andThen rfl)

theorem captureFinish_lands
    (hBody :
      captureFinish db intent keyRow result draw =
        .ok (db', response)) :
    Lands db intent.id (captureTargets result.outcome)
      db' := by
  rcases captureFinish_eq_ok hBody with
    ⟨base, moved, hApply, rfl, _⟩
  refine Lands.after (SameTrail.putKey db keyRow).payments ?_
  unfold applyCaptureOutcome at hApply
  cases hOutcome : result.outcome with
  | succeeded =>
      rw [hOutcome] at hApply
      simp only at hApply
      split at hApply
      · cases hApply
      · rename_i hSettle
        cases hApply
        exact (Lands.of_applyTransition hSettle).andThen rfl
  | unknown =>
      rw [hOutcome] at hApply
      exact (Lands.of_applyTransition hApply).andThen rfl
  | declined =>
      rw [hOutcome] at hApply
      exact (Lands.of_applyTransition hApply).andThen rfl
  | temporaryFailure =>
      rw [hOutcome] at hApply
      exact (Lands.of_applyTransition hApply).andThen rfl

theorem refundReserve_lands
    {request : RefundRequest}
    {reservation : Reservation}
    (hBody :
      refundReserve db locked request keyRow draw =
        .ok (db', reservation)) :
    ∃ intent,
      locked = some intent ∧
        Lands db intent.id [.refundPending] db' := by
  rcases refundReserve_eq_ok hBody with
    ⟨intent, hLocked, _, _, _, _, _, hEnter⟩
  refine ⟨intent, hLocked, Lands.after
    (SameTrail.putKey db keyRow).payments ?_⟩
  unfold enterRefundPending at hEnter
  split at hEnter
  · cases hEnter
    exact .of_payments rfl
  · have hLands := Lands.of_applyTransition hEnter
    exact Lands.after rfl hLands

theorem refundFinalize_lands
    {refund : Refund}
    (hBody :
      refundFinalize db locked refund keyRowId result draw =
        .ok (db', response)) :
    ∃ intent,
      locked = some intent ∧
        Lands db intent.id
          [.refunded, .succeeded, .refundFailed] db' := by
  rcases refundFinalize_eq_ok hBody with
    ⟨intent, left, moved, body, hLocked, hLeave, rfl, _⟩
  refine ⟨intent, hLocked, Lands.after
    (settleRefund_sameTrail db intent refund result.outcome
      draw).payments ?_⟩
  unfold leaveRefundPending at hLeave
  split at hLeave
  · split at hLeave
    · exact ((Lands.of_applyTransition hLeave).andThen
        rfl).mono (by simp)
    · split at hLeave
      · exact ((Lands.of_applyTransition hLeave).andThen
          rfl).mono (by simp)
      · exact ((Lands.of_applyTransition hLeave).andThen
          rfl).mono (by simp)
  · cases hLeave
    exact .of_payments rfl

theorem handlePaymentOutcome_lands
    {webhookEventId : Uuid}
    {targetStatus : PaymentStatus}
    (hBody :
      handlePaymentOutcome db locked webhookEventId
        targetStatus draw = .ok db') :
    ∃ intent,
      locked = some intent ∧
        Lands db intent.id [targetStatus] db' := by
  rcases handlePaymentOutcome_eq_ok hBody with
    ⟨intent, status, hLocked, rfl |
      ⟨_, base, moved, hApply, rfl⟩⟩
  · exact ⟨intent, hLocked, .of_payments rfl⟩
  · exact ⟨intent, hLocked,
      (Lands.of_applyTransition hApply).andThen
        (settleByWebhook_sameTrail base moved targetStatus
          draw).payments⟩

/-
  A reconciliation moves the payment only if it is still
  unknown and the answer agrees with it.
-/
theorem reconcileApply_lands
    {report : ReconciliationReport}
    (hBody :
      reconcileApply db locked providerName result draw =
        .ok (db', report)) :
    ∃ intent,
      locked = some intent ∧
        (Lands db intent.id [] db' ∨
          (intent.status = .unknown ∧
            result.agrees intent = true ∧
            Lands db intent.id
              (lookupTargets result.outcome) db')) := by
  unfold reconcileApply at hBody
  cases locked with
  | none => cases hBody
  | some intent =>
      refine ⟨intent, rfl, ?_⟩
      simp only at hBody
      split at hBody
      · cases hBody
        exact .inl (.of_payments rfl)
      · rename_i hStatus
        have hUnknown := not_not.mp hStatus
        split at hBody
        · split at hBody
          · cases hBody
          · rename_i hApply
            cases hBody
            rcases applyTransition_eq_ok.mp hApply with
              ⟨_, rfl, _⟩
            exact .inl (.of_sameStatus hUnknown)
        · rename_i hOutcome
          split at hBody
          · cases hBody
            exact .inl (.of_payments rfl)
          · rename_i hAmount
            split at hBody
            · cases hBody
              exact .inl (.of_payments rfl)
            · rename_i hCurrency
              have hAgrees : result.agrees intent = true := by
                simp only [ProviderResult.agrees,
                  Bool.and_eq_true, decide_eq_true_eq]
                exact ⟨not_not.mp hAmount,
                  not_not.mp hCurrency⟩
              refine .inr ⟨hUnknown, hAgrees, ?_⟩
              rcases resolve_eq_ok hBody with
                ⟨hSucceeded, _, hResolve⟩ |
                  ⟨hNot, _, hResolve⟩
              · rcases resolveSucceeded_eq_ok hResolve with
                  ⟨_, base, moved, _, _, hApply, rfl⟩
                rw [hSucceeded]
                exact Lands.after rfl
                  ((Lands.of_applyTransition
                    hApply).andThen rfl)
              · rcases resolveFailed_eq_ok hResolve with
                  ⟨_, base, moved, _, hApply, rfl⟩
                have hFailed :
                    lookupTargets result.outcome =
                      [.failed] := by
                  cases hCase : result.outcome with
                  | succeeded => exact absurd hCase hNot
                  | unknown => exact absurd hCase hOutcome
                  | declined => rfl
                  | temporaryFailure => rfl
                rw [hFailed]
                exact (Lands.of_applyTransition
                  hApply).andThen rfl

end PayGuard

------------------------------------------------------------
-- Landings Of A Step
------------------------------------------------------------

namespace PayGuard

/- The payment a step may move, and where it may land. -/
inductive Landing
    (config : Config)
    (system : System)
    (call : CallId)
    (action : Action)
    (next : System) :
    Uuid → List PaymentStatus → Prop where
| nowhere {paymentId : Uuid} :
    Landing config system call action next paymentId []
| created
    {request : CreateRequest}
    {paymentId : Uuid}
    (hAction : action = .createBegin request)
    (hFresh :
      paymentId ∉ system.db.payments.map (·.id)) :
    Landing config system call action next paymentId
      [.created]
| processing
    {request : CreateRequest}
    {key : ClaimedKey}
    {intent : PaymentIntent}
    (hAction : action = .createProcess)
    (hCall :
      system.calls call =
        .createClaimed request key intent) :
    Landing config system call action next intent.id
      [.processing]
| blocked
    {request : CreateRequest}
    {key : ClaimedKey}
    {intent : PaymentIntent}
    (hAction : action = .createBlock)
    (hCall :
      system.calls call =
        .createAssessed request key intent .block) :
    Landing config system call action next intent.id
      [.failed]
| authorized
    {request : CreateRequest}
    {key : ClaimedKey}
    {intent : PaymentIntent}
    {result : ProviderResult}
    (hAction : action = .createFinish)
    (hCall :
      system.calls call =
        .createAuthorized request key intent result) :
    Landing config system call action next intent.id
      (authorizeTargets result.outcome)
| captured
    {request : CaptureRequest}
    {keyRow : IdempotencyKey}
    {intent : PaymentIntent}
    {transaction : ProviderTransaction}
    {result : ProviderResult}
    (hAction : action = .captureFinish result)
    (hCall :
      system.calls call =
        .captureOpen request keyRow intent transaction) :
    Landing config system call action next intent.id
      (captureTargets result.outcome)
| refundEntered
    {request : RefundRequest}
    {refund : Refund}
    (hAction : action = .refundBegin request)
    (hStored : refund ∈ next.db.refunds)
    (hRefund : refund.paymentIntentId = request.paymentId)
    (hPending : refund.status = .pending) :
    Landing config system call action next request.paymentId
      [.refundPending]
| refundLeft
    {request : RefundRequest}
    {key : ClaimedKey}
    {reservation : Reservation}
    {result : ProviderResult}
    (hAction : action = .refundFinish)
    (hCall :
      system.calls call =
        .refundAnswered request key reservation result) :
    Landing config system call action next request.paymentId
      [.refunded, .succeeded, .refundFailed]
| dispatched
    {outboxEventId webhookEventId : Uuid}
    {targetStatus : PaymentStatus}
    {intent : PaymentIntent}
    (hAction : action = .dispatchFinish)
    (hCall :
      system.calls call =
        .dispatchOpen outboxEventId webhookEventId
          (.outcome targetStatus intent)) :
    Landing config system call action next intent.id
      [targetStatus]
| looked
    {intent locked : PaymentIntent}
    {result : ProviderResult}
    (hAction : action = .reconcileApply)
    (hCall :
      system.calls call = .reconcileAnswered intent result)
    (hLocked :
      lockPayment config.lockRead system.db (some intent)
        intent.id intent.merchantId = some locked)
    (hUnknown : locked.status = .unknown)
    (hAgrees : result.agrees locked = true) :
    Landing config system call action next intent.id
      (lookupTargets result.outcome)

variable {config : Config}
variable {system next : System}
variable {call : CallId}
variable {draw : Draw}
variable {action : Action}

/- Every step lands at most one payment. -/
theorem Effect.landing
    (hAdmits : system.db.Admits draw)
    (hEffect :
      Effect config system call draw action next) :
    ∃ paymentId targets,
      Landing config system call action next paymentId
          targets ∧
        Lands system.db paymentId targets next.db := by
  cases hEffect with
  | quiet hQuiet =>
      exact ⟨0, [], .nowhere,
        .of_payments (by rw [hQuiet.db])⟩
  | createInsert _ hBody =>
      exact ⟨_, _, .created rfl hAdmits.2.1,
        createInsert_lands hBody⟩
  | createProcess hCall _ hBody =>
      rcases createProcess_lands hBody with
        ⟨locked, hLocked, hLands⟩
      rw [lockPayment_id hLocked] at hLands
      exact ⟨_, _, .processing rfl hCall, hLands⟩
  | createAssess _ =>
      exact ⟨0, [], .nowhere, .of_payments rfl⟩
  | createBlock hCall _ _ hBody =>
      rcases createBlock_lands hBody with
        ⟨locked, hLocked, hLands⟩
      rw [lockPayment_id hLocked] at hLands
      exact ⟨_, _, .blocked rfl hCall, hLands⟩
  | createFinish hCall _ _ hBody =>
      rcases createFinish_lands hBody with
        ⟨locked, hLocked, hLands⟩
      rw [lockPayment_id hLocked] at hLands
      exact ⟨_, _, .authorized rfl hCall, hLands⟩
  | captureSettled _ _ _ =>
      exact ⟨0, [], .nowhere, .of_payments
        (captureSettled_sameTrail _ _ _).payments⟩
  | captureOpen _ _ _ _ =>
      exact ⟨0, [], .nowhere, .of_payments rfl⟩
  | captureFinish hCall _ hBody =>
      exact ⟨_, _, .captured rfl hCall,
        captureFinish_lands hBody⟩
  | @refundReserve request keyRow db reservation _ _ hBody =>
      rcases refundReserve_lands hBody with
        ⟨locked, hSelect, hLands⟩
      have hRefunds := refundReserve_refunds hBody
      rcases refundReserve_eq_ok hBody with
        ⟨intent, hIntent, _, _, _, hRefund, _⟩
      cases hSelect.symm.trans hIntent
      have hId := (selectPayment_eq_some hSelect).2.1
      rw [hId] at hLands hRefund
      have hStored : reservation.refund ∈ db.refunds := by
        rw [hRefunds]
        exact List.mem_append_right _
          (List.mem_singleton_self _)
      exact ⟨_, _, .refundEntered rfl hStored
        (by rw [hRefund]) (by rw [hRefund]), hLands⟩
  | refundAnswer _ _ =>
      exact ⟨0, [], .nowhere, .of_payments rfl⟩
  | refundFinish hCall _ _ hBody =>
      rcases refundFinalize_lands hBody with
        ⟨locked, hLocked, hLands⟩
      rw [lockPayment_id hLocked] at hLands
      exact ⟨_, _, .refundLeft rfl hCall, hLands⟩
  | receiveWebhook _ =>
      exact ⟨0, [], .nowhere, .of_payments
        (receiveWebhook_sameTrail _ _ _).payments⟩
  | @dispatchFinish outboxEventId webhookEventId plan db
      hCall _ hBody =>
      cases plan with
      | skip =>
          cases hBody
          exact ⟨0, [], .nowhere, .of_payments rfl⟩
      | ignore =>
          cases hBody
          exact ⟨0, [], .nowhere, .of_payments rfl⟩
      | outcome targetStatus intent =>
          rcases handlePaymentOutcome_lands hBody with
            ⟨locked, hLocked, hLands⟩
          rw [lockPayment_id hLocked] at hLands
          exact ⟨_, _, .dispatched rfl hCall, hLands⟩
  | reconcileApply hCall _ hBody =>
      rcases reconcileApply_lands hBody with
        ⟨locked, hLocked, hNowhere |
          ⟨hUnknown, hAgrees, hLands⟩⟩
      · exact ⟨_, [], .nowhere, hNowhere⟩
      · rw [lockPayment_id hLocked] at hLands
        exact ⟨_, _, .looked rfl hCall hLocked hUnknown
          hAgrees, hLands⟩
  | reconcileReport _ =>
      exact ⟨0, [], .nowhere, .of_payments rfl⟩
  | failWrite _ _ =>
      exact ⟨0, [], .nowhere, .of_payments rfl⟩

end PayGuard

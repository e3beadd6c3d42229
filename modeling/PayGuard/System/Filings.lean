import PayGuard.Invariants.Settlement
import PayGuard.System.Landings

/-
  The records a transaction files about a payment.

  An answered provider call leaves an attempt, a reserved
  refund leaves a row, a settlement leaves ledger entries.
  A transaction files for the payment it has locked and for
  no other.

  Key definitions include:
    * `Database.Tried`
    * `SameFiles` and `SameLogs`
    * `Files`

  Key theorems include:
    * `createFinish_files`
    * `captureFinish_files`
    * `refundReserve_files`
    * `refundFinalize_files`
    * `handlePaymentOutcome_files`
    * `reconcileApply_files`
-/

------------------------------------------------------------
-- Records Of One Payment
------------------------------------------------------------

namespace PayGuard

/- A provider has answered about the payment. -/
def Database.Tried
    (db : Database)
    (paymentId : Uuid) : Prop :=
  ∃ attempt ∈ db.attempts,
    attempt.paymentIntentId = paymentId

/- Nothing is filed. -/
structure SameFiles (db db' : Database) : Prop where
  attempts : db'.attempts = db.attempts
  transactions :
    db'.providerTransactions = db.providerTransactions
  refunds : db'.refunds = db.refunds
  ledger : db'.ledger = db.ledger

/-
  Everything filed is about one payment.  A settlement comes
  with the move of its payment to `SUCCEEDED`.
-/
structure Files
    (paymentId : Uuid)
    (db db' : Database) : Prop where
  attempts :
    db'.attempts = db.attempts ∨
      ∃ attempt : PaymentAttempt,
        attempt.paymentIntentId = paymentId ∧
          attempt.attemptNumber =
            nextAttemptNumber db paymentId ∧
          db'.attempts = db.attempts ++ [attempt]
  transactions :
    ∃ added,
      db'.providerTransactions =
        db.providerTransactions ++ added
  refunds :
    ∀ row ∈ db'.refunds,
      row.paymentIntentId = paymentId ∨
        ∃ old ∈ db.refunds,
          old.paymentIntentId = row.paymentIntentId
  ledger :
    ∃ added,
      db'.ledger = db.ledger ++ added ∧
        ∀ entry ∈ added, entry.paymentIntentId = paymentId
  settles :
    db'.settlementOf paymentId =
        db.settlementOf paymentId ∨
      ∀ row ∈ db'.payments,
        row.id = paymentId → row.status = .succeeded

variable {db db' db'' : Database}
variable {paymentId : Uuid}
variable {intent moved : PaymentIntent}
variable {draw : Draw}

theorem SameFiles.putKey
    (db : Database)
    (keyRow : IdempotencyKey) :
    SameFiles db (db.putKey keyRow) := by
  rcases putKey_eq db keyRow with ⟨keys, hKeys⟩
  rw [hKeys]
  exact ⟨rfl, rfl, rfl, rfl⟩

theorem Moved.sameFiles
    (hMoved : Moved db intent db') :
    SameFiles db db' := by
  cases hMoved with
  | stay => exact ⟨rfl, rfl, rfl, rfl⟩
  | move toStatus actor eventType draw hValid =>
      exact ⟨rfl, rfl, rfl, rfl⟩

/- A changed status is written to every row it selects. -/
theorem recordTransition_status
    (db : Database)
    {toStatus : PaymentStatus}
    (actor : Actor)
    (eventType : String)
    (draw : Draw)
    (hStatus : intent.status ≠ toStatus) :
    ∀ row ∈ (db.recordTransition intent toStatus actor
        eventType draw).payments,
      row.id = intent.id → row.status = toStatus := by
  intro row hRow hId
  rcases Table.mem_updateWhere.mp hRow with ⟨old, _, rfl⟩
  by_cases hSelected : old.id = intent.id
  · simp [hSelected, flushPayment, PaymentIntent.moveTo,
      Ne.symm hStatus]
  · simp only [hSelected, decide_false, Bool.false_eq_true,
      if_false] at hId

namespace Files

theorem of_same
    (hSame : SameFiles db db') :
    Files paymentId db db' where
  attempts := .inl hSame.attempts
  transactions := ⟨[], by rw [hSame.transactions]; simp⟩
  refunds := by
    intro row hRow
    rw [hSame.refunds] at hRow
    exact .inr ⟨row, hRow, rfl⟩
  ledger := ⟨[], by rw [hSame.ledger]; simp, by simp⟩
  settles := .inl (settlementOf_congr hSame.ledger paymentId)

theorem after
    (hSame : SameFiles db db')
    (hFiles : Files paymentId db' db'') :
    Files paymentId db db'' where
  attempts := by
    have hAttempts := hFiles.attempts
    unfold nextAttemptNumber at hAttempts ⊢
    rw [hSame.attempts] at hAttempts
    exact hAttempts
  transactions := by
    have hTransactions := hFiles.transactions
    rw [hSame.transactions] at hTransactions
    exact hTransactions
  refunds := by
    have hRefunds := hFiles.refunds
    rw [hSame.refunds] at hRefunds
    exact hRefunds
  ledger := by
    have hLedger := hFiles.ledger
    rw [hSame.ledger] at hLedger
    exact hLedger
  settles := by
    have hSettles := hFiles.settles
    rw [settlementOf_congr hSame.ledger] at hSettles
    exact hSettles

theorem andThen
    (hFiles : Files paymentId db db')
    (hSame : SameFiles db' db'')
    (hPayments : db''.payments = db'.payments) :
    Files paymentId db db'' where
  attempts := by
    rw [hSame.attempts]
    exact hFiles.attempts
  transactions := by
    rw [hSame.transactions]
    exact hFiles.transactions
  refunds := by
    rw [hSame.refunds]
    exact hFiles.refunds
  ledger := by
    rw [hSame.ledger]
    exact hFiles.ledger
  settles := by
    rw [settlementOf_congr hSame.ledger, hPayments]
    exact hFiles.settles

/- A settled payment and its pair. -/
theorem of_settled
    {actor : Actor}
    {eventType : String}
    (hApply :
      applyTransition db intent .succeeded actor eventType
        draw = .ok (db', moved)) :
    Files intent.id db
      (recordPaymentSettled db' moved.id moved.amountMinor
        draw) := by
  rcases applyTransition_eq_ok.mp hApply with
    ⟨hValid, rfl, rfl⟩
  have hStatus : intent.status ≠ .succeeded := by
    intro hStatus
    rw [hStatus, isValid_succeeded_iff] at hValid
    simp at hValid
  have hRows :=
    recordTransition_status db actor eventType draw hStatus
  refine
    { attempts := .inl rfl
      transactions := ⟨[], (List.append_nil _).symm⟩
      refunds := fun row hRow => .inr ⟨row, hRow, rfl⟩
      ledger := ⟨_, rfl, ?_⟩
      settles := .inr hRows }
  intro entry hEntry
  simp only [buildPaymentSettledPair,
    buildPair, List.mem_cons, List.not_mem_nil,
    or_false] at hEntry
  rcases hEntry with rfl | rfl
  · rfl
  · rfl

end Files

end PayGuard

------------------------------------------------------------
-- The Bodies Of The Transactions
------------------------------------------------------------

namespace PayGuard

variable {db db' : Database}
variable {locked : Option PaymentIntent}
variable {intent moved : PaymentIntent}
variable {keyRow : IdempotencyKey}
variable {keyRowId : Uuid}
variable {providerName : String}
variable {result : ProviderResult}
variable {response : Response}
variable {draw : Draw}

theorem createInsert_sameFiles
    {indexable : PyString → Bool}
    {request : CreateRequest}
    (hBody :
      createInsert indexable db request keyRow draw =
        .ok (db', intent)) :
    SameFiles db db' := by
  rcases createInsert_eq_ok hBody with ⟨_, _, rfl⟩
  have hKey := SameFiles.putKey db keyRow
  exact ⟨hKey.attempts, hKey.transactions, hKey.refunds,
    hKey.ledger⟩

theorem createProcess_sameFiles
    (hBody :
      createProcess db locked draw = .ok (db', moved)) :
    SameFiles db db' := by
  rcases createProcess_eq_ok hBody with ⟨_, _, hApply⟩
  exact (Moved.of_applyTransition hApply).sameFiles

theorem createBlock_sameFiles
    (hBody :
      createBlock db locked keyRowId draw =
        .ok (db', response)) :
    SameFiles db db' := by
  rcases createBlock_eq_ok hBody with
    ⟨_, base, _, _, hApply, rfl, _⟩
  have hMoved := (Moved.of_applyTransition hApply).sameFiles
  exact ⟨hMoved.attempts, hMoved.transactions,
    hMoved.refunds, hMoved.ledger⟩

/- The last transaction of a creation files an attempt. -/
theorem createFinish_files
    (hBody :
      createFinish db locked keyRowId providerName result
        draw = .ok (db', response)) :
    ∃ intent,
      locked = some intent ∧
        Files intent.id db db' ∧
        db'.Tried intent.id := by
  rcases createFinish_eq_ok hBody with
    ⟨intent, attempt, base, moved, added, hLocked, hApply,
      rfl, _, hRecorded⟩
  have hMoved :=
    (Moved.of_applyAuthorizeOutcome hApply).sameFiles
  have hAttempts :
      base.attempts = db.attempts ++ [attempt] :=
    hMoved.attempts
  refine ⟨intent, hLocked, ?_, attempt, ?_,
    hRecorded.payment⟩
  · refine
      { attempts := .inr ⟨attempt, hRecorded.payment,
          hRecorded.number, hAttempts⟩
        transactions := ⟨added, ?_⟩
        refunds := ?_
        ledger := ⟨[], ?_, by simp⟩
        settles :=
          .inl (settlementOf_congr hMoved.ledger _) }
    · rw [← hMoved.transactions]
      rfl
    · intro row hRow
      have hOld : row ∈ db.refunds := by
        rw [← hMoved.refunds]
        exact hRow
      exact .inr ⟨row, hOld, rfl⟩
    · rw [List.append_nil]
      exact hMoved.ledger
  · have hMem : attempt ∈ base.attempts := by
      rw [hAttempts]
      simp
    exact hMem

theorem captureSettled_sameFiles
    (db : Database)
    (intent : PaymentIntent)
    (keyRow : IdempotencyKey) :
    SameFiles db (captureSettled db intent keyRow).1 := by
  have hKey := SameFiles.putKey db keyRow
  exact ⟨hKey.attempts, hKey.transactions, hKey.refunds,
    hKey.ledger⟩

theorem captureFinish_files
    (hBody :
      captureFinish db intent keyRow result draw =
        .ok (db', response)) :
    Files intent.id db db' := by
  rcases captureFinish_eq_ok hBody with
    ⟨base, moved, hOutcome, rfl, _⟩
  refine Files.after (SameFiles.putKey db keyRow) ?_
  rcases applyCaptureOutcome_eq_ok hOutcome with
    ⟨_, settled, hApply, rfl⟩ | ⟨_, _, _, _, _, hApply⟩
  · exact (Files.of_settled hApply).andThen
      ⟨rfl, rfl, rfl, rfl⟩ rfl
  · have hMoved := (Moved.of_applyTransition hApply).sameFiles
    exact (Files.of_same hMoved).andThen
      ⟨rfl, rfl, rfl, rfl⟩ rfl

theorem refundReserve_files
    {request : RefundRequest}
    {reservation : Reservation}
    (hBody :
      refundReserve db locked request keyRow draw =
        .ok (db', reservation)) :
    ∃ intent,
      locked = some intent ∧ Files intent.id db db' := by
  rcases refundReserve_eq_ok hBody with
    ⟨intent, hLocked, _, _, _, hRefund, _, hEnter⟩
  have hKey := SameFiles.putKey db keyRow
  have hMoved := (Moved.of_enterRefundPending hEnter).sameFiles
  refine ⟨intent, hLocked, ?_⟩
  refine
    { attempts := .inl (hMoved.attempts.trans hKey.attempts)
      transactions := ⟨[], ?_⟩
      refunds := ?_
      ledger := ⟨[], ?_, by simp⟩
      settles := .inl (settlementOf_congr
        (hMoved.ledger.trans hKey.ledger) _) }
  · rw [List.append_nil]
    exact hMoved.transactions.trans hKey.transactions
  · intro row hRow
    rw [hMoved.refunds] at hRow
    simp only [hKey.refunds, List.mem_append,
      List.mem_singleton] at hRow
    rcases hRow with hOld | rfl
    · exact .inr ⟨row, hOld, rfl⟩
    · rw [hRefund]
      exact .inl rfl
  · rw [List.append_nil]
    exact hMoved.ledger.trans hKey.ledger

theorem settleRefund_files
    (db : Database)
    (intent : PaymentIntent)
    (refund : Refund)
    (outcome : ProviderOutcome)
    (draw : Draw) :
    Files intent.id db
      (settleRefund db intent refund outcome draw) := by
  have hRefunds :
      ∀ row ∈ (setRefundStatus db refund.id
          (finalRefundStatus outcome)).refunds,
        ∃ old ∈ db.refunds,
          old.paymentIntentId = row.paymentIntentId := by
    intro row hRow
    rcases Table.mem_updateWhere.mp hRow with
      ⟨old, hOld, rfl⟩
    refine ⟨old, hOld, ?_⟩
    split
    · rfl
    · rfl
  have hSettlement :=
    (settleRefund_sameSettlement db intent refund outcome
      draw).settlement intent.id
  unfold settleRefund at hSettlement ⊢
  simp only at hSettlement ⊢
  split at hSettlement
  · rename_i hSucceeded
    rw [if_pos hSucceeded]
    refine
      { attempts := .inl rfl
        transactions := ⟨[], (List.append_nil _).symm⟩
        refunds := fun row hRow => .inr (hRefunds row hRow)
        ledger := ⟨_, rfl, ?_⟩
        settles := .inl hSettlement }
    intro entry hEntry
    simp only [buildRefundSettledPair, buildPair,
      List.mem_cons, List.not_mem_nil, or_false] at hEntry
    rcases hEntry with rfl | rfl
    · rfl
    · rfl
  · rename_i hFailed
    rw [if_neg hFailed]
    exact
      { attempts := .inl rfl
        transactions := ⟨[], (List.append_nil _).symm⟩
        refunds := fun row hRow => .inr (hRefunds row hRow)
        ledger := ⟨[], (List.append_nil _).symm, by simp⟩
        settles := .inl hSettlement }

theorem refundFinalize_files
    {refund : Refund}
    (hBody :
      refundFinalize db locked refund keyRowId result draw =
        .ok (db', response)) :
    ∃ intent,
      locked = some intent ∧ Files intent.id db db' := by
  rcases refundFinalize_eq_ok hBody with
    ⟨intent, left, moved, body, hLocked, hLeave, rfl, _⟩
  have hMoved := (Moved.of_leaveRefundPending hLeave).sameFiles
  have hFiles :=
    settleRefund_files db intent refund result.outcome draw
  refine ⟨intent, hLocked, ?_⟩
  exact
    { attempts := by
        have hAttempts := hFiles.attempts
        rw [← hMoved.attempts] at hAttempts
        exact hAttempts
      transactions := by
        have hTransactions := hFiles.transactions
        rw [← hMoved.transactions] at hTransactions
        exact hTransactions
      refunds := by
        have hRefunds := hFiles.refunds
        rw [← hMoved.refunds] at hRefunds
        exact hRefunds
      ledger := by
        have hLedger := hFiles.ledger
        rw [← hMoved.ledger] at hLedger
        exact hLedger
      settles := by
        have hSettlement :=
          (settleRefund_sameSettlement db intent refund
            result.outcome draw).settlement intent.id
        rw [← settlementOf_congr hMoved.ledger]
          at hSettlement
        exact .inl hSettlement }

theorem handlePaymentOutcome_files
    {webhookEventId : Uuid}
    {targetStatus : PaymentStatus}
    (hBody :
      handlePaymentOutcome db locked webhookEventId
        targetStatus draw = .ok db') :
    ∃ intent,
      locked = some intent ∧ Files intent.id db db' := by
  rcases handlePaymentOutcome_eq_ok hBody with
    ⟨intent, status, hLocked, rfl |
      ⟨_, base, moved, hApply, rfl⟩⟩
  · exact ⟨intent, hLocked, .of_same ⟨rfl, rfl, rfl, rfl⟩⟩
  · refine ⟨intent, hLocked, ?_⟩
    by_cases hTarget : targetStatus = .succeeded
    · subst hTarget
      exact (Files.of_settled hApply).andThen
        ⟨rfl, rfl, rfl, rfl⟩ rfl
    · have hMoved :=
        (Moved.of_applyTransition hApply).sameFiles
      simp only [settleByWebhook, hTarget, if_false]
      exact (Files.of_same hMoved).andThen
        ⟨rfl, rfl, rfl, rfl⟩ rfl

theorem resolveSucceeded_files
    (hBody :
      resolveSucceeded db intent providerName result draw =
        .ok db') :
    Files intent.id db db' := by
  rcases resolveSucceeded_eq_ok hBody with
    ⟨attempt, base, moved, added, hRecorded, hApply, rfl⟩
  have hMoved := (Moved.of_applyTransition hApply).sameFiles
  have hSettled := Files.of_settled hApply
  exact
    { attempts := .inr ⟨attempt, hRecorded.payment,
        hRecorded.number, hMoved.attempts⟩
      transactions := ⟨added, by rw [hMoved.transactions]⟩
      refunds := hSettled.refunds
      ledger := hSettled.ledger
      settles := hSettled.settles }

theorem resolveFailed_files
    (hBody :
      resolveFailed db intent providerName result draw =
        .ok db') :
    Files intent.id db db' := by
  rcases resolveFailed_eq_ok hBody with
    ⟨attempt, base, moved, hRecorded, hApply, rfl⟩
  have hMoved := (Moved.of_applyTransition hApply).sameFiles
  have hFiled : Files intent.id db base := .of_same hMoved
  exact
    { attempts := .inr ⟨attempt, hRecorded.payment,
        hRecorded.number, by rw [hMoved.attempts]⟩
      transactions := hFiled.transactions
      refunds := hFiled.refunds
      ledger := hFiled.ledger
      settles := .inl (settlementOf_congr hMoved.ledger _) }

theorem reconcileApply_files
    {report : ReconciliationReport}
    (hBody :
      reconcileApply db locked providerName result draw =
        .ok (db', report)) :
    ∃ intent,
      locked = some intent ∧
        Files intent.id db db' := by
  rcases reconcileApply_eq_ok hBody with
    ⟨intent, hLocked, ⟨rfl, _⟩ | ⟨_, _, _, _, hApply⟩ |
      ⟨_, hResolve⟩⟩
  · exact ⟨intent, hLocked, .of_same ⟨rfl, rfl, rfl, rfl⟩⟩
  · exact ⟨intent, hLocked,
      .of_same (Moved.of_applyTransition hApply).sameFiles⟩
  · refine ⟨intent, hLocked, ?_⟩
    rcases resolve_eq_ok hResolve with
      ⟨_, _, hSucceeded⟩ | ⟨_, _, hFailed⟩
    · exact resolveSucceeded_files hSucceeded
    · exact resolveFailed_files hFailed

theorem receiveWebhook_sameFiles
    (db : Database)
    (delivery : WebhookDelivery)
    (draw : Draw) :
    SameFiles db (receiveWebhook db delivery draw) := by
  unfold receiveWebhook
  split
  · exact ⟨rfl, rfl, rfl, rfl⟩
  · exact ⟨rfl, rfl, rfl, rfl⟩

end PayGuard

------------------------------------------------------------
-- Logs
------------------------------------------------------------

namespace PayGuard

/- Neither an audit record nor a report is written. -/
structure SameLogs (db db' : Database) : Prop where
  auditLogs : db'.auditLogs = db.auditLogs
  reports : db'.reports = db.reports

variable {db db' db'' : Database}
variable {locked : Option PaymentIntent}
variable {intent moved : PaymentIntent}
variable {keyRow : IdempotencyKey}
variable {keyRowId : Uuid}
variable {providerName : String}
variable {result : ProviderResult}
variable {response : Response}
variable {draw : Draw}

theorem SameLogs.trans
    (hFirst : SameLogs db db')
    (hSecond : SameLogs db' db'') :
    SameLogs db db'' where
  auditLogs := hSecond.auditLogs.trans hFirst.auditLogs
  reports := hSecond.reports.trans hFirst.reports

theorem SameLogs.putKey
    (db : Database)
    (keyRow : IdempotencyKey) :
    SameLogs db (db.putKey keyRow) := by
  rcases putKey_eq db keyRow with ⟨keys, hKeys⟩
  rw [hKeys]
  exact ⟨rfl, rfl⟩

theorem Moved.sameLogs
    (hMoved : Moved db intent db') :
    SameLogs db db' := by
  cases hMoved <;> exact ⟨rfl, rfl⟩

theorem createInsert_sameLogs
    {indexable : PyString → Bool}
    {request : CreateRequest}
    (hBody :
      createInsert indexable db request keyRow draw =
        .ok (db', intent)) :
    SameLogs db db' := by
  rcases createInsert_eq_ok hBody with ⟨_, _, rfl⟩
  exact (SameLogs.putKey db keyRow).trans ⟨rfl, rfl⟩

theorem createProcess_sameLogs
    (hBody :
      createProcess db locked draw = .ok (db', moved)) :
    SameLogs db db' := by
  rcases createProcess_eq_ok hBody with ⟨_, _, hApply⟩
  exact (Moved.of_applyTransition hApply).sameLogs

theorem createBlock_sameLogs
    (hBody :
      createBlock db locked keyRowId draw =
        .ok (db', response)) :
    SameLogs db db' := by
  rcases createBlock_eq_ok hBody with
    ⟨_, base, _, _, hApply, rfl, _⟩
  exact (Moved.of_applyTransition hApply).sameLogs.trans
    ⟨rfl, rfl⟩

theorem createFinish_sameLogs
    (hBody :
      createFinish db locked keyRowId providerName result
        draw = .ok (db', response)) :
    SameLogs db db' := by
  rcases createFinish_eq_ok hBody with
    ⟨_, _, base, _, _, _, hApply, rfl, _⟩
  have hMoved := Moved.of_applyAuthorizeOutcome hApply
  exact ⟨hMoved.sameLogs.auditLogs,
    hMoved.sameLogs.reports⟩

theorem captureFinish_sameLogs
    (hBody :
      captureFinish db intent keyRow result draw =
        .ok (db', response)) :
    SameLogs db db' := by
  rcases captureFinish_eq_ok hBody with
    ⟨base, moved, hOutcome, rfl, _⟩
  have hSame : SameLogs (db.putKey keyRow) base := by
    rcases applyCaptureOutcome_eq_ok hOutcome with
      ⟨_, settled, hApply, rfl⟩ | ⟨_, _, _, _, _, hApply⟩
    · exact (Moved.of_applyTransition hApply).sameLogs.trans
        ⟨rfl, rfl⟩
    · exact (Moved.of_applyTransition hApply).sameLogs
  exact ((SameLogs.putKey db keyRow).trans hSame).trans
    ⟨rfl, rfl⟩

theorem refundReserve_sameLogs
    {request : RefundRequest}
    {reservation : Reservation}
    (hBody :
      refundReserve db locked request keyRow draw =
        .ok (db', reservation)) :
    SameLogs db db' := by
  rcases refundReserve_eq_ok hBody with
    ⟨_, _, _, _, _, _, _, hEnter⟩
  have hMoved := (Moved.of_enterRefundPending hEnter).sameLogs
  have hPut := SameLogs.putKey db keyRow
  exact ⟨hMoved.auditLogs.trans hPut.auditLogs,
    hMoved.reports.trans hPut.reports⟩

theorem refundFinalize_sameLogs
    {refund : Refund}
    (hBody :
      refundFinalize db locked refund keyRowId result draw =
        .ok (db', response)) :
    SameLogs db db' := by
  rcases refundFinalize_eq_ok hBody with
    ⟨intent, left, moved, body, _, hLeave, rfl, _⟩
  have hSettled :
      SameLogs db
        (settleRefund db intent refund result.outcome
          draw) := by
    unfold settleRefund
    simp only
    split
    · exact ⟨rfl, rfl⟩
    · exact ⟨rfl, rfl⟩
  have hLeft := (Moved.of_leaveRefundPending hLeave).sameLogs
  exact (hSettled.trans hLeft).trans ⟨rfl, rfl⟩

theorem receiveWebhook_sameLogs
    (db : Database)
    (delivery : WebhookDelivery)
    (draw : Draw) :
    SameLogs db (receiveWebhook db delivery draw) := by
  unfold receiveWebhook
  split
  · exact ⟨rfl, rfl⟩
  · exact ⟨rfl, rfl⟩

theorem dispatchEffect_sameLogs
    {config : Config}
    {webhookEventId : Uuid}
    {plan : WebhookPlan}
    (hBody :
      dispatchEffect config db webhookEventId plan draw =
        .ok db') :
    SameLogs db db' := by
  cases plan with
  | skip =>
      cases hBody
      exact ⟨rfl, rfl⟩
  | ignore =>
      cases hBody
      exact ⟨rfl, rfl⟩
  | outcome targetStatus intent =>
      rcases handlePaymentOutcome_eq_ok hBody with
        ⟨_, _, _, rfl | ⟨_, base, moved, hApply, rfl⟩⟩
      · exact ⟨rfl, rfl⟩
      · refine (Moved.of_applyTransition hApply).sameLogs.trans
          ?_
        unfold settleByWebhook setProcessingStatus
        split
        · exact ⟨rfl, rfl⟩
        · exact ⟨rfl, rfl⟩

theorem reconcileApply_sameLogs
    {report : ReconciliationReport}
    (hBody :
      reconcileApply db locked providerName result draw =
        .ok (db', report)) :
    SameLogs db db' := by
  rcases reconcileApply_eq_ok hBody with
    ⟨_, _, ⟨rfl, _⟩ | ⟨_, _, _, _, hApply⟩ | ⟨_, hResolve⟩⟩
  · exact ⟨rfl, rfl⟩
  · exact (Moved.of_applyTransition hApply).sameLogs
  · rcases resolve_eq_ok hResolve with
      ⟨_, _, hSucceeded⟩ | ⟨_, _, hFailed⟩
    · rcases resolveSucceeded_eq_ok hSucceeded with
        ⟨_, base, _, _, _, hApply, rfl⟩
      have hMoved :=
        (Moved.of_applyTransition hApply).sameLogs
      exact ⟨hMoved.auditLogs, hMoved.reports⟩
    · rcases resolveFailed_eq_ok hFailed with
        ⟨_, base, _, _, hApply, rfl⟩
      have hMoved :=
        (Moved.of_applyTransition hApply).sameLogs
      exact ⟨hMoved.auditLogs, hMoved.reports⟩

end PayGuard

import PayGuard.Races.Reconciliation
import PayGuard.System.Lifecycle

/-
  Which payments in `UNKNOWN` a positive answer resolves.

  A reconciliation backfills an attempt and the provider
  transaction of the answer.  The attempt always finds a
  free number.  The provider transaction must not be on file
  already, and it is where the payment became `UNKNOWN` by
  its capture: the authorization has stored it.

  Key definitions include:
    * `AnsweredPositively`
    * `ResolvesSucceeded`

  Key theorems include:
    * `positive_answer_resolves_iff`
    * `lost_capture_is_not_resolved`
-/

------------------------------------------------------------
-- A Positive Answer
------------------------------------------------------------

namespace PayGuard

open Lts

/- The provider answers the lookup of a payment positively. -/
structure AnsweredPositively
    (db : Database)
    (row : PaymentIntent)
    (loaded : Option PaymentIntent)
    (visit : Visit)
    (result : ProviderResult) : Prop where
  stored : row ∈ db.payments
  status : row.status = .unknown
  -- nothing or the row itself is in the session
  loaded : loaded = none ∨ loaded = some row
  lookup :
    ∀ key,
      originalIdempotencyKey db row.id visit.pick =
          some key →
        visit.lookup key = .ok result
  outcome : result.outcome = .succeeded
  agrees : result.agrees row = true

/- The call ends well and the payment is settled once. -/
structure ResolvesSucceeded
    (db : Database)
    (row : PaymentIntent)
    (ended : Database × Except Failure ReconciliationReport) :
    Prop where
  report :
    ∃ report,
      ended.2 = .ok report ∧
        report.paymentIntentId = row.id ∧
        report.result = .resolvedSucceeded ∧
        ended.1.reports = db.reports ++ [report]
  stored :
    ended.1.selectPayment row.id row.merchantId =
      some (row.moveTo .succeeded)
  settled : ExactlyOnce ended.1 (row.moveTo .succeeded)

variable {db : Database}
variable {row : PaymentIntent}
variable {loaded : Option PaymentIntent}
variable {lockRead : LockRead}
variable {providerName : String}
variable {result : ProviderResult}
variable {visit : Visit}
variable {draw : Draw}

/- An answer whose transaction is new settles the payment. -/
theorem resolveSucceeded_of_fresh
    (hStatus : row.status = .unknown)
    (hNumbered : AttemptsNumbered db)
    (hFresh :
      db.onFile providerName
        result.providerTransactionId = false) :
    ∃ db',
      resolveSucceeded db row providerName result draw =
          .ok db' ∧
        SameBooks
          (db.depart row .succeeded .reconciliation
            "reconciliation.resolved_succeeded" draw) db' ∧
        db'.reports = db.reports := by
  have hInsert :
      ∀ attempt : PaymentAttempt,
        attempt.paymentIntentId = row.id →
          attempt.attemptNumber =
              nextAttemptNumber db row.id →
            insertAttempt db attempt =
              .ok { db with
                attempts := db.attempts ++ [attempt] } := by
    apply insertAttempt_next
    intro other hOther hOwner
    rw [← hOwner]
    exact hNumbered other hOther
  unfold resolveSucceeded
  simp only
  rw [hInsert _ rfl rfl]
  simp only [applyTransition_unknown hStatus (.inl rfl)]
  rw [insertProviderTransaction_fresh hFresh]
  · exact ⟨_, rfl, ⟨rfl, rfl, rfl⟩, rfl⟩
  · rfl

/- A transaction on file cannot be stored again. -/
theorem insertProviderTransaction_of_onFile
    {base : Database}
    (hOnFile :
      db.onFile providerName
        result.providerTransactionId = true)
    (attemptId : Uuid)
    (hBase :
      base.providerTransactions = db.providerTransactions) :
    ∃ failure,
      insertProviderTransaction base attemptId providerName
        result = .error failure := by
  unfold insertProviderTransaction
  unfold Database.onFile at hOnFile
  split
  · rename_i hNone
    simp [hNone] at hOnFile
  · rename_i transactionId hId
    simp only [hId] at hOnFile
    rw [hBase, if_pos hOnFile]
    exact ⟨_, rfl⟩

theorem resolveSucceeded_of_onFile
    (hOnFile :
      db.onFile providerName
        result.providerTransactionId = true) :
    ∃ failure,
      resolveSucceeded db row providerName result draw =
        .error failure := by
  unfold resolveSucceeded
  simp only
  split
  · exact ⟨_, rfl⟩
  · rename_i attempted hInsert
    have hAttempted := insertAttempt_eq_ok hInsert
    split
    · exact ⟨_, rfl⟩
    · rename_i base moved hApply
      have hMoved :=
        (Moved.of_applyTransition hApply).sameFiles
      apply insertProviderTransaction_of_onFile hOnFile
      have hBase := hMoved.transactions
      rw [hAttempted] at hBase
      exact hBase

/- A payment without a key on record is not asked about. -/
theorem exists_key_of_original
    {paymentId pick : Uuid}
    {key : String}
    (hKey :
      originalIdempotencyKey db paymentId pick = some key) :
    ∃ keyRow ∈ db.keys,
      keyRow.paymentIntentId = some paymentId := by
  unfold originalIdempotencyKey at hKey
  rcases Option.map_eq_some_iff.mp hKey with
    ⟨keyRow, hRow, _⟩
  have hMem : keyRow ∈ earliestKeys db paymentId := by
    rcases Option.or_eq_some_iff.mp hRow with
      hFind | ⟨_, hHead⟩
    · exact List.mem_of_find?_eq_some hFind
    · exact List.mem_of_head? hHead
  have hRows := List.mem_of_mem_filter hMem
  rw [List.mem_filter, decide_eq_true_eq] at hRows
  exact ⟨keyRow, hRows⟩

/- An uncontended call comes to apply a positive answer. -/
theorem reconcilePayment_applies
    (lockRead : LockRead)
    (providerName : String)
    {key : String}
    (hNodup : (db.payments.map (·.id)).Nodup)
    (hAnswerable : AnsweredPositively db row loaded visit result)
    (hKey :
      originalIdempotencyKey db row.id visit.pick =
        some key) :
    reconcileCheck db
        (lockPayment lockRead db loaded row.id
          row.merchantId)
        row.id visit.pick = .ok (.ask row key) ∧
      reconcileApply db
          (lockPayment lockRead db (some row) row.id
            row.merchantId)
          providerName result visit.draw =
        resolve db row providerName result visit.draw := by
  have hFirst :
      lockPayment lockRead db loaded row.id
        row.merchantId = some row :=
    lockPayment_of_mem hNodup hAnswerable.stored
      hAnswerable.loaded
  have hSecond :
      lockPayment lockRead db (some row) row.id
        row.merchantId = some row :=
    lockPayment_of_mem hNodup hAnswerable.stored (.inr rfl)
  rw [hFirst, hSecond]
  constructor
  · simp [reconcileCheck, hAnswerable.status, hKey]
  · exact reconcileApply_of_agrees hAnswerable.status
      (by simp [hAnswerable.outcome]) hAnswerable.agrees

/- It fails where the resolution fails. -/
theorem reconcilePayment_of_error
    {key : String}
    {failure : Failure}
    (hNodup : (db.payments.map (·.id)).Nodup)
    (hAnswerable : AnsweredPositively db row loaded visit result)
    (hKey :
      originalIdempotencyKey db row.id visit.pick =
        some key)
    (hBody :
      resolveSucceeded db row providerName result
        visit.draw = .error failure) :
    reconcilePayment lockRead providerName db loaded row.id
      row.merchantId visit = (db, .error failure) := by
  have hApplies :=
    reconcilePayment_applies lockRead providerName hNodup
      hAnswerable hKey
  unfold reconcilePayment
  rw [hApplies.1]
  simp only [hAnswerable.lookup key hKey, hApplies.2, resolve,
    hAnswerable.outcome, if_true, hBody]

/- And it reports where the resolution goes through. -/
theorem reconcilePayment_of_ok
    {key : String}
    {db' : Database}
    (hNodup : (db.payments.map (·.id)).Nodup)
    (hAnswerable : AnsweredPositively db row loaded visit result)
    (hKey :
      originalIdempotencyKey db row.id visit.pick =
        some key)
    (hBody :
      resolveSucceeded db row providerName result
        visit.draw = .ok db') :
    ∃ report : ReconciliationReport,
      report.paymentIntentId = row.id ∧
        report.result = .resolvedSucceeded ∧
        reconcilePayment lockRead providerName db loaded
            row.id row.merchantId visit =
          (writeReport db' report, .ok report) := by
  have hApplies :=
    reconcilePayment_applies lockRead providerName hNodup
      hAnswerable hKey
  unfold reconcilePayment
  rw [hApplies.1]
  simp only [hAnswerable.lookup key hKey, hApplies.2, resolve,
    hAnswerable.outcome, if_true, hBody]
  exact ⟨_, rfl, rfl, rfl⟩

/- Without a key the call reports a missing transaction. -/
theorem reconcilePayment_of_no_key
    (hNodup : (db.payments.map (·.id)).Nodup)
    (hAnswerable : AnsweredPositively db row loaded visit result)
    (hKey :
      originalIdempotencyKey db row.id visit.pick = none) :
    ∃ report,
      report.result = .missingInternalTransaction ∧
        reconcilePayment lockRead providerName db loaded
            row.id row.merchantId visit =
          (writeReport db report, .ok report) := by
  have hFirst :
      lockPayment lockRead db loaded row.id
        row.merchantId = some row :=
    lockPayment_of_mem hNodup hAnswerable.stored
      hAnswerable.loaded
  unfold reconcilePayment
  rw [hFirst]
  simp only [reconcileCheck, hAnswerable.status, ne_eq,
    not_true, if_false, hKey]
  exact ⟨_, rfl, rfl⟩

/-
  In every reachable state a positive answer resolves an
  `UNKNOWN` payment exactly if a key row names the payment
  and the answer's provider transaction is not on file.
-/
theorem positive_answer_resolves_iff
    {config : Config}
    {labels : List Label}
    {system : System}
    (hRun : exec (step config) {} labels = some system)
    (hAnswerable :
      AnsweredPositively system.db row loaded visit result) :
    ResolvesSucceeded system.db row
        (reconcilePayment config.lockRead config.providerName
          system.db loaded row.id row.merchantId visit) ↔
      (∃ keyRow ∈ system.db.keys,
          keyRow.paymentIntentId = some row.id) ∧
        system.db.onFile config.providerName
          result.providerTransactionId = false := by
  have hLifecycle := lifecycle_of_exec hRun
  have hNodup := hLifecycle.held.paymentIds
  have hSelect :=
    selectPayment_of_mem hNodup hAnswerable.stored
  constructor
  · intro hResolves
    rcases hResolves.report with ⟨report, hOk, _, hResult, _⟩
    cases hKey :
        originalIdempotencyKey system.db row.id
          visit.pick with
    | none =>
        have hMissing :
            ∃ missing,
              missing.result = .missingInternalTransaction ∧
                reconcilePayment config.lockRead
                    config.providerName system.db loaded
                    row.id row.merchantId visit =
                  (writeReport system.db missing,
                    .ok missing) :=
          reconcilePayment_of_no_key hNodup hAnswerable hKey
        rcases hMissing with ⟨missing, hMissing, hEnds⟩
        rw [hEnds] at hOk
        cases hOk
        rw [hMissing] at hResult
        cases hResult
    | some key =>
        refine ⟨exists_key_of_original hKey, ?_⟩
        by_contra hOnFile
        rw [Bool.not_eq_false] at hOnFile
        have hFails :
            ∃ failure,
              resolveSucceeded system.db row
                config.providerName result visit.draw =
                  .error failure :=
          resolveSucceeded_of_onFile hOnFile
        rcases hFails with ⟨failure, hFails⟩
        rw [reconcilePayment_of_error hNodup hAnswerable hKey
          hFails] at hOk
        cases hOk
  · rintro ⟨hKeyRow, hFresh⟩
    rcases originalIdempotencyKey_isSome hKeyRow
        visit.pick with
      ⟨key, hKey⟩
    rcases resolveSucceeded_of_fresh hAnswerable.status
        hLifecycle.numbered hFresh with
      ⟨db', hBody, hBooks, hReports⟩
    have hEnds :
        ∃ report : ReconciliationReport,
          report.paymentIntentId = row.id ∧
            report.result = .resolvedSucceeded ∧
            reconcilePayment config.lockRead
                config.providerName system.db loaded row.id
                row.merchantId visit =
              (writeReport db' report, .ok report) :=
      reconcilePayment_of_ok hNodup hAnswerable hKey hBody
    rcases hEnds with ⟨report, hId, hResult, hEnds⟩
    rw [hEnds]
    refine
      { report := ⟨report, rfl, hId, hResult, by
          simp only [writeReport, hReports]⟩
        stored := ?_
        settled := ?_ }
    · have hMoved :
          (system.db.depart row .succeeded .reconciliation
              "reconciliation.resolved_succeeded"
              visit.draw).selectPayment row.id
                row.merchantId =
            some (flushPayment row (row.moveTo .succeeded)
              row) :=
        selectPayment_depart hSelect rfl
      rw [flushPayment_self] at hMoved
      rw [← hMoved]
      unfold Database.selectPayment
      simp only [writeReport, hBooks.payments]
    · have hUnsettled :=
        hLifecycle.unsettled row hAnswerable.stored
          (by rw [hAnswerable.status]; rfl)
      have hOnce :
          ExactlyOnce
            (system.db.depart row .succeeded .reconciliation
              "reconciliation.resolved_succeeded" visit.draw)
            (row.moveTo .succeeded) :=
        exactlyOnce_depart hUnsettled (fun _ => rfl)
      exact hOnce.congr
        (settlementOf_congr hBooks.ledger _)

/- A lookup that always gives the same answer. -/
def Visit.answering (result : ProviderResult) : Visit where
  lookup := fun _ => .ok result
  draw := .numbered 9

theorem positive_answer_resolves_iff_lost_authorize :
    ∃ system,
      exec (step { sha256 := spellOut }) {} unknownRun =
          some system ∧
        AnsweredPositively system.db unknownPayment none
          (.answering (.approved "txn"))
          (.approved "txn") ∧
        ResolvesSucceeded system.db unknownPayment
          (reconcilePayment .current "mock" system.db none 1
            1 (.answering (.approved "txn"))) := by
  have hRun :
      (exec (step { sha256 := spellOut }) {}
        unknownRun).map (fun system =>
          decide (unknownPayment ∈ system.db.payments ∧
            system.db.keys.map (·.paymentIntentId) =
              [some 1] ∧
            system.db.onFile "mock" (some "txn") = false)) =
        some true := by
    decide +kernel
  rcases Option.map_eq_some_iff.mp hRun with
    ⟨system, hExec, hHolds⟩
  rcases of_decide_eq_true hHolds with
    ⟨hStored, hKeys, hFresh⟩
  have hAnswerable :
      AnsweredPositively system.db unknownPayment none
        (.answering (.approved "txn")) (.approved "txn") :=
    ⟨hStored, rfl, .inl rfl, fun _ _ => rfl, rfl, rfl⟩
  have hKey :
      ∃ keyRow ∈ system.db.keys,
        keyRow.paymentIntentId = some 1 := by
    have hMem :
        some 1 ∈
          system.db.keys.map (·.paymentIntentId) := by
      rw [hKeys]
      exact List.mem_singleton_self _
    exact List.mem_map.mp hMem
  exact ⟨system, hExec, hAnswerable,
    (positive_answer_resolves_iff hExec hAnswerable).mpr
      ⟨hKey, hFresh⟩⟩

/- The answer to the capture of payment 1 is lost. -/
def lostCaptureRun : List Label :=
  authorizedRun ++
    [⟨1, .captureBegin
        { merchantId := 1
          paymentId := 1
          idempotencyKey := "capture" }, .numbered 6⟩,
      ⟨1, .captureFinish
        { outcome := .unknown
          providerTransactionId := none
          rawStatus := "timeout" }, .numbered 7⟩]

/-
  The provider answers the lookup with the transaction it
  issued for the authorization, and the call ends with an
  exception.
-/
theorem lost_capture_is_not_resolved :
    ∃ system,
      exec (step { sha256 := spellOut }) {} lostCaptureRun =
          some system ∧
        AnsweredPositively system.db unknownPayment none
          (.answering (.approved "txn"))
          (.approved "txn") ∧
        (∃ request,
          ProviderCall.authorize 1 request
            (.approved "txn") ∈ system.providerCalls) ∧
        (reconcilePayment .current "mock" system.db none 1 1
            (.answering (.approved "txn"))).2 =
          .error (.integrityError
            "uq_provider_transactions_provider_txn") ∧
        ¬ ResolvesSucceeded system.db unknownPayment
          (reconcilePayment .current "mock" system.db none 1
            1 (.answering (.approved "txn"))) := by
  have hRun :
      (exec (step { sha256 := spellOut }) {}
        lostCaptureRun).map (fun system =>
          decide (unknownPayment ∈ system.db.payments ∧
            ProviderCall.authorize 1
                { amountMinor := 100
                  currency := "USD"
                  token := "tok_visa"
                  idempotencyKey := "create" }
                (.approved "txn") ∈ system.providerCalls ∧
            (reconcilePayment .current "mock" system.db none
                1 1 (.answering (.approved "txn"))).2 =
              .error (.integrityError
                "uq_provider_transactions_provider_txn"))) =
        some true := by
    decide +kernel
  rcases Option.map_eq_some_iff.mp hRun with
    ⟨system, hExec, hHolds⟩
  rcases of_decide_eq_true hHolds with
    ⟨hStored, hAsked, hEnds⟩
  refine ⟨system, hExec,
    ⟨hStored, rfl, .inl rfl, fun _ _ => rfl, rfl, rfl⟩,
    ⟨_, hAsked⟩, hEnds, ?_⟩
  intro hResolves
  rcases hResolves.report with ⟨report, hOk, _⟩
  rw [hEnds] at hOk
  cases hOk

end PayGuard

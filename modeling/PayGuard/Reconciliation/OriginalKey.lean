import PayGuard.Reconciliation.Answerable
import PayGuard.Reconciliation.KeyLinks

/-
  Whether a reconciliation asks about the right request.

  It does wherever the links of the payments are kept.  A
  creation that has lost its key row leaves its payment
  without one, or with the key of a capture.

  Key definitions include:
    * `AsksRight`
    * `Enquiries`

  Key theorems include:
    * `reconciliation_asks_right`
    * `lost_key_row_misleads`
-/

------------------------------------------------------------
-- The Right Request
------------------------------------------------------------

namespace PayGuard

/-
  Every payment in `UNKNOWN` leads back to the one key its
  creation used, no lookup has used another, and no report
  says that there is none.
-/
structure AsksRight (system : System) : Prop where
  original :
    ∀ row ∈ system.db.payments,
      row.status = .unknown →
        ∃ key,
          system.authorizeKeys row.id = [key] ∧
            ∀ pick,
              originalIdempotencyKey system.db row.id pick =
                some key
  lookups :
    ∀ paymentId key result,
      ProviderCall.lookup paymentId key result ∈
          system.providerCalls →
        system.authorizeKeys paymentId = [key]
  reports :
    ∀ report ∈ system.db.reports,
      report.result ≠ .missingInternalTransaction

end PayGuard

------------------------------------------------------------
-- What A Reconciliation Asks And Reports
------------------------------------------------------------

namespace PayGuard

/- Calls and histories that used the link of a payment. -/
structure Enquiries (system : System) : Prop where
  asking :
    ∀ call intent key,
      system.calls call = .reconcileAsking intent key →
        system.authorizeKeys intent.id = [key]
  lookups :
    ∀ paymentId key result,
      ProviderCall.lookup paymentId key result ∈
          system.providerCalls →
        system.authorizeKeys paymentId = [key]
  reporting :
    ∀ call report,
      system.calls call = .reconcileReporting report →
        report.result ≠ .missingInternalTransaction
  reports :
    ∀ report ∈ system.db.reports,
      report.result ≠ .missingInternalTransaction

theorem enquiries_initial : Enquiries {} where
  asking := by
    intro call intent key hCall
    cases hCall
  lookups := by simp
  reporting := by
    intro call report hCall
    cases hCall
  reports := by simp

variable {config : Config}
variable {system next : System}
variable {call : CallId}
variable {draw : Draw}
variable {action : Action}
variable {label : Label}
variable {link : IdempotencyKey}
variable {paymentId : Uuid}

/- The oldest key row of the payment is its link. -/
theorem Links.originalIdempotencyKey
    (hLink : Links system paymentId link)
    (hIds : (system.db.keys.map (·.id)).Nodup)
    (pick : Uuid) :
    originalIdempotencyKey system.db paymentId pick =
      some link.idempotencyKey := by
  have hOnly :
      ∀ row ∈ earliestKeys system.db paymentId,
        row = link := by
    intro row hRow
    simp only [earliestKeys, List.mem_filter,
      List.all_eq_true, decide_eq_true_eq] at hRow
    rcases hRow with ⟨⟨hStored, hNamed⟩, hEarliest⟩
    by_contra hOther
    have hId : row.id ≠ link.id := fun hId =>
      hOther (List.inj_on_of_nodup_map hIds hStored
        hLink.stored hId)
    have hYounger := hLink.first row hStored hNamed hId
    have hOlder :=
      hEarliest link ⟨hLink.stored, hLink.named⟩
    exact absurd hYounger (not_lt.mpr hOlder)
  have hMem : link ∈ earliestKeys system.db paymentId := by
    simp only [earliestKeys, List.mem_filter,
      List.all_eq_true, decide_eq_true_eq]
    refine ⟨⟨hLink.stored, hLink.named⟩, ?_⟩
    rintro other ⟨hStored, hNamed⟩
    by_cases hId : other.id = link.id
    · have hEq : other = link :=
        List.inj_on_of_nodup_map hIds hStored hLink.stored
          hId
      rw [hEq]
    · exact (hLink.first other hStored hNamed hId).le
  unfold PayGuard.originalIdempotencyKey
  cases hFind :
      (earliestKeys system.db paymentId).find?
        (fun row => row.id = pick) with
  | some row =>
      have hEq := hOnly row (List.mem_of_find?_eq_some hFind)
      simp [hEq]
  | none =>
      cases hHead :
          (earliestKeys system.db paymentId).head? with
      | none =>
          rw [List.head?_eq_none_iff] at hHead
          rw [hHead] at hMem
          cases hMem
      | some row =>
          have hEq := hOnly row (List.mem_of_head? hHead)
          simp [hEq]

/- The first lock of a reconciliation, where links exist. -/
theorem Links.reconcileCheck
    {locked : Option PaymentIntent}
    {check : ReconcileCheck}
    {pick : Uuid}
    (hLinks :
      ∀ row,
        locked = some row →
          row.status = .unknown →
            ∃ link, Links system row.id link)
    (hIds : (system.db.keys.map (·.id)).Nodup)
    (hCheck :
      reconcileCheck system.db locked paymentId pick =
        .ok check) :
    (∀ report,
        check = .report report →
          report.result ≠ .missingInternalTransaction) ∧
      ∀ intent key,
        check = .ask intent key →
          system.authorizeKeys intent.id = [key] := by
  unfold PayGuard.reconcileCheck at hCheck
  cases locked with
  | none => cases hCheck
  | some row =>
      simp only at hCheck
      split at hCheck
      · cases hCheck
        refine ⟨?_, ?_⟩
        · intro report hReport
          cases hReport
          simp
        · intro intent key hAsk
          cases hAsk
      · rename_i hStatus
        rcases hLinks row rfl (not_not.mp hStatus) with
          ⟨link, hLink⟩
        rw [hLink.originalIdempotencyKey hIds pick]
          at hCheck
        cases hCheck
        refine ⟨?_, ?_⟩
        · intro report hReport
          cases hReport
        · intro intent key hAsk
          cases hAsk
          exact hLink.asked

/- A second locked transaction never misses a key. -/
theorem reconcileApply_found
    {db db' : Database}
    {locked : Option PaymentIntent}
    {providerName : String}
    {result : ProviderResult}
    {report : ReconciliationReport}
    (hBody :
      reconcileApply db locked providerName result draw =
        .ok (db', report)) :
    report.result ≠ .missingInternalTransaction := by
  unfold PayGuard.reconcileApply at hBody
  cases locked with
  | none => cases hBody
  | some intent =>
      simp only at hBody
      split at hBody
      · cases hBody
        simp [answeredReport]
      · split at hBody
        · split at hBody
          · cases hBody
          · cases hBody
            simp [answeredReport]
        · split at hBody
          · cases hBody
            simp [answeredReport]
          · split at hBody
            · cases hBody
              simp [answeredReport]
            · rcases resolve_eq_ok hBody with
                ⟨_, hReport, _⟩ | ⟨_, hReport, _⟩
              · simp [hReport]
              · simp [hReport]

/- A turn asks and reports as its first lock finds. -/
theorem Turn.enquires
    {position : Call}
    (hLinked : KeysLinked system)
    (hProvenance : Provenance system)
    (hTurn : Turn config system call draw action position) :
    (∀ report,
        position = .reconcileReporting report →
          report.result ≠ .missingInternalTransaction) ∧
      ∀ intent key,
        position = .reconcileAsking intent key →
          system.authorizeKeys intent.id = [key] := by
  -- a check that goes through, at the position it leads to
  have hFound :
      ∀ locked paymentId pick check,
        (∀ row,
            locked = some row →
              row.status = .unknown →
                system.db.Tried row.id) →
          reconcileCheck system.db locked paymentId pick =
              .ok check →
            position = check.position →
              (∀ report,
                  position = .reconcileReporting report →
                    report.result ≠
                      .missingInternalTransaction) ∧
                ∀ intent key,
                  position = .reconcileAsking intent key →
                    system.authorizeKeys intent.id =
                      [key] := by
    intro locked paymentId pick check hTried hCheck hAt
    have hRight :=
      Links.reconcileCheck
        (fun row hRow hStatus =>
          hLinked.linked row.id (hTried row hRow hStatus))
        hLinked.ids hCheck
    rw [hAt]
    cases check with
    | report found =>
        refine ⟨?_, fun _ _ hAsk => by cases hAsk⟩
        intro report hReport
        cases hReport
        exact hRight.1 found rfl
    | ask found key =>
        refine ⟨fun _ hReport => (by cases hReport), ?_⟩
        intro intent key hAsk
        cases hAsk
        exact hRight.2 found _ rfl
  cases hTurn with
  | begun hCheck =>
      refine hFound _ _ _ _ ?_ hCheck rfl
      intro row hRow hStatus
      exact hProvenance.tried_of_unknown row
        (selectPayment_eq_some hRow).1 hStatus
  | continued hCall hCheck =>
      refine hFound _ _ _ _ ?_ hCheck rfl
      intro row hRow _
      rw [lockPayment_id hRow]
      exact hProvenance.touched call _ (by rw [hCall]; rfl)
  | _ =>
      constructor
      · intro report hReport
        cases hReport
      · intro intent key hAsk
        cases hAsk

/- Only the last step of a reconciliation writes a report. -/
theorem Effect.reports
    (hEffect :
      Effect config system call draw action next) :
    next.db.reports = system.db.reports ∨
      ∃ report,
        system.calls call = .reconcileReporting report ∧
          next.db.reports =
            system.db.reports ++ [report] := by
  cases hEffect with
  | quiet hQuiet _ => exact .inl (by rw [hQuiet.db])
  | createInsert _ hBody =>
      exact .inl (createInsert_sameLogs hBody).reports
  | createProcess _ _ hBody =>
      exact .inl (createProcess_sameLogs hBody).reports
  | createBlock _ _ _ hBody =>
      exact .inl (createBlock_sameLogs hBody).reports
  | createFinish _ _ _ hBody =>
      exact .inl (createFinish_sameLogs hBody).reports
  | captureSettled _ _ _ =>
      exact .inl (SameLogs.putKey _ _).reports
  | captureFinish _ _ hBody =>
      exact .inl (captureFinish_sameLogs hBody).reports
  | refundReserve _ _ hBody =>
      exact .inl (refundReserve_sameLogs hBody).reports
  | refundFinish _ _ _ hBody =>
      exact .inl (refundFinalize_sameLogs hBody).reports
  | receiveWebhook _ =>
      exact .inl (receiveWebhook_sameLogs _ _ _).reports
  | dispatchFinish _ _ hBody =>
      have hLogs := dispatchEffect_sameLogs hBody
      exact .inl hLogs.reports
  | reconcileApply _ _ hBody =>
      exact .inl (reconcileApply_sameLogs hBody).reports
  | reconcileReport hCall => exact .inr ⟨_, hCall, rfl⟩
  | _ => exact .inl rfl

/- Where the acting call of a reconciliation stands next. -/
theorem Effect.enquires
    (hLinked : KeysLinked system)
    (hProvenance : Provenance system)
    (hEffect :
      Effect config system call draw action next) :
    (∀ report,
        next.calls call = .reconcileReporting report →
          report.result ≠ .missingInternalTransaction) ∧
      ∀ intent key,
        next.calls call = .reconcileAsking intent key →
          system.authorizeKeys intent.id = [key] := by
  cases hEffect with
  | quiet _ hTurn => exact hTurn.enquires hLinked hProvenance
  | reconcileApply _ _ hBody =>
      simp only [System.commit_calls_self]
      constructor
      · intro report hReport
        cases hReport
        exact reconcileApply_found hBody
      · intro intent key hAsk
        cases hAsk
  | _ => simp

/- Every step keeps the enquiries to the links. -/
theorem enquiries_step
    (hEnquiries : Enquiries system)
    (hLinked : KeysLinked system)
    (hProvenance : Provenance system)
    (hStep : step config system label = some next) :
    Enquiries next := by
  rcases step_effect hStep with ⟨_, hEffect⟩
  have hFrame := hEffect.frame.calls
  have hFound := hEffect.enquires hLinked hProvenance
  -- what leads back from a payment keeps doing so
  have hKeep :
      ∀ paymentId key,
        system.authorizeKeys paymentId = [key] →
          next.authorizeKeys paymentId = [key] := by
    intro paymentId key hKey
    have hSome : system.authorizeKeys paymentId ≠ [] := by
      rw [hKey]
      simp
    rw [hLinked.authorizeKeys_next (step_asked hStep) hSome]
    exact hKey
  refine
    { asking := ?_
      lookups := ?_
      reporting := ?_
      reports := ?_ }
  · intro call intent key hCall
    apply hKeep
    by_cases hActs : call = label.call
    · subst hActs
      exact hFound.2 intent key hCall
    · rw [hFrame call hActs] at hCall
      exact hEnquiries.asking call intent key hCall
  · intro paymentId key result hLookup
    apply hKeep
    have hOld :
        ∀ added : List ProviderCall,
          next.providerCalls =
              system.providerCalls ++ added →
            ProviderCall.lookup paymentId key result ∉
                added →
              system.authorizeKeys paymentId = [key] := by
      intro added hCalls hNew
      rw [hCalls, List.mem_append] at hLookup
      exact hEnquiries.lookups _ _ _
        (hLookup.resolve_right hNew)
    cases step_asked hStep with
    | same hCalls =>
        exact hOld [] (by rw [hCalls]; simp) (by simp)
    | authorize _ _ _ _ _ _ _ _ _ hCalls =>
        exact hOld _ hCalls (by simp)
    | capture _ _ _ _ _ _ hCalls =>
        exact hOld _ hCalls (by simp)
    | refund _ _ _ _ _ _ hCalls =>
        exact hOld _ hCalls (by simp)
    | lookup intent asked _ hCall hCalls =>
        rw [hCalls, List.mem_append,
          List.mem_singleton] at hLookup
        rcases hLookup with hBefore | hMine
        · exact hEnquiries.lookups _ _ _ hBefore
        · cases hMine
          exact hEnquiries.asking _ _ _ hCall
  · intro call report hCall
    by_cases hActs : call = label.call
    · subst hActs
      exact hFound.1 report hCall
    · rw [hFrame call hActs] at hCall
      exact hEnquiries.reporting call report hCall
  · intro report hReport
    rcases hEffect.reports with
      hSame | ⟨written, hCall, hAdded⟩
    · rw [hSame] at hReport
      exact hEnquiries.reports report hReport
    · rw [hAdded, List.mem_append,
        List.mem_singleton] at hReport
      rcases hReport with hBefore | rfl
      · exact hEnquiries.reports report hBefore
      · exact hEnquiries.reporting _ report hCall

end PayGuard

------------------------------------------------------------
-- Every Run
------------------------------------------------------------

namespace PayGuard

/- What a run whose claims are apart keeps. -/
structure Traceable (system : System) : Prop where
  lifecycle : Lifecycle system
  linked : KeysLinked system
  enquiries : Enquiries system

theorem traceable_initial : Traceable {} :=
  ⟨lifecycle_initial, keysLinked_initial, enquiries_initial⟩

theorem traceable_step
    {config : Config}
    {system next : System}
    {label : Label}
    (hTraceable : Traceable system)
    (hApart : ClaimsApart config system label)
    (hStep : step config system label = some next) :
    Traceable next where
  lifecycle := lifecycle_step hTraceable.lifecycle hStep
  linked :=
    keysLinked_step hTraceable.linked hTraceable.lifecycle
      hApart hStep
  enquiries :=
    enquiries_step hTraceable.enquiries hTraceable.linked
      hTraceable.lifecycle.provenance hStep

/- A payment in `UNKNOWN` has been asked about. -/
theorem Traceable.asksRight
    {system : System}
    (hTraceable : Traceable system) :
    AsksRight system where
  original := by
    intro row hRow hStatus
    have hTried :=
      hTraceable.lifecycle.provenance.tried_of_unknown row
        hRow hStatus
    rcases hTraceable.linked.linked row.id hTried with
      ⟨link, hLink⟩
    exact ⟨link.idempotencyKey, hLink.asked,
      hLink.originalIdempotencyKey hTraceable.linked.ids⟩
  lookups := hTraceable.enquiries.lookups
  reports := hTraceable.enquiries.reports

/-
  In every run in which no claim takes the key row of a call
  that creates a payment, or a row too old, reconciliation
  asks about the right requests.
-/
theorem reconciliation_asks_right
    (config : Config)
    (labels : List Label)
    (system : System)
    (hRun :
      Lts.exec (step config) {} labels = some system)
    (hApart :
      Lts.Meets (step config) (ClaimsApart config) {}
        labels) :
    AsksRight system := by
  have hKeep :
      ∀ before label after,
        Traceable before →
          ClaimsApart config before label →
            step config before label = some after →
              Traceable after :=
    fun _ _ _ => traceable_step
  exact (Lts.invariant_of_meets hKeep traceable_initial
    hApart hRun).asksRight

/- A step that claims nothing disturbs nobody. -/
theorem claimsApart_of_claimless
    {config : Config}
    {labels : List Label}
    {system : System}
    (hClaimless :
      ∀ label ∈ labels,
        ∀ db,
          label.action.claim config db label.draw = none) :
    Lts.Meets (step config) (ClaimsApart config) system
      labels := by
  refine Lts.meets_of_forall ?_
  intro label hLabel before keyRow hClaim
  rw [hClaimless label hLabel before.db] at hClaim
  cases hClaim

def ProviderResult.timeout : ProviderResult where
  outcome := .unknown
  providerTransactionId := none
  rawStatus := "timeout"

def captureOfPayment : CaptureRequest where
  merchantId := 1
  paymentId := 1
  idempotencyKey := "capture"

/- Payment 1 is authorized, and its capture times out. -/
def timedOutRun : List Label :=
  authorizedRun ++
    [⟨1, .captureBegin captureOfPayment, .numbered 6 1⟩,
      ⟨1, .captureFinish .timeout, .numbered 7 1⟩]

theorem reconciliation_asks_right_timed_out :
    ∃ system,
      Lts.exec (step { sha256 := spellOut }) {}
          timedOutRun = some system ∧
        unknownPayment ∈ system.db.payments ∧
        AsksRight system := by
  have hRun :
      (Lts.exec (step { sha256 := spellOut }) {}
        timedOutRun).map (fun system =>
          decide (unknownPayment ∈ system.db.payments)) =
        some true := by
    decide +kernel
  have hAuthorized :
      (Lts.exec (step { sha256 := spellOut }) {}
        authorizedRun).map (fun system =>
          decide ((system.calls 0).guardedKey = none ∧
            (Action.captureBegin captureOfPayment).claim
                { sha256 := spellOut } system.db
                (.numbered 6 1) =
              some (.claimed
                (newKey 1 "capture"
                  (captureFingerprint { sha256 := spellOut }
                    captureOfPayment)
                  (.numbered 6 1))) ∧
            ∃ row ∈ system.db.keys,
              row.paymentIntentId = some 1 ∧
                row.createdAt < 1)) =
        some true := by
    decide +kernel
  rcases Option.map_eq_some_iff.mp hRun with
    ⟨system, hExec, hStored⟩
  rcases Option.map_eq_some_iff.mp hAuthorized with
    ⟨authorized, hFirst, hHolds⟩
  rcases of_decide_eq_true hHolds with
    ⟨hDone, hClaimed, hLink⟩
  -- nobody is in flight when the capture claims its row
  have hIdle :
      ∀ other, (authorized.calls other).guardedKey = none := by
    intro other
    by_cases hOther : other = 0
    · rw [hOther]
      exact hDone
    · rw [calls_of_not_acting hFirst]
      · rfl
      · intro label hLabel
        simp only [authorizedRun, List.mem_cons,
          List.not_mem_nil, or_false] at hLabel
        rcases hLabel with rfl | rfl | rfl | rfl | rfl <;>
          exact Ne.symm hOther
  refine ⟨system, hExec, of_decide_eq_true hStored,
    reconciliation_asks_right _ _ _ hExec ?_⟩
  rw [timedOutRun, Lts.meets_append hFirst]
  constructor
  · rcases Lts.exec_cons_eq_some.mp hFirst with
      ⟨next, hStep, _⟩
    rw [authorizedRun, Lts.meets_cons_of_step hStep]
    refine ⟨?_, claimsApart_of_claimless ?_⟩
    · intro keyRow _
      constructor
      · intro other id hGuarded
        cases hGuarded
      · intro request _ other key hKey
        cases hKey
      · intro paymentId hCharged
        cases hCharged
    · intro label hLabel db
      simp only [List.mem_cons, List.not_mem_nil,
        or_false] at hLabel
      rcases hLabel with rfl | rfl | rfl | rfl <;> rfl
  · rcases Lts.exec_append_eq_some.mp hExec with
      ⟨middle, hMiddle, hRest⟩
    cases hFirst.symm.trans hMiddle
    rcases Lts.exec_cons_eq_some.mp hRest with
      ⟨next, hStep, _⟩
    rw [Lts.meets_cons_of_step hStep]
    refine ⟨?_, claimsApart_of_claimless ?_⟩
    · intro keyRow hClaim
      cases hClaimed.symm.trans hClaim
      constructor
      · intro other id hGuarded
        rw [hIdle other] at hGuarded
        cases hGuarded
      · intro request hCreate
        cases hCreate
      · intro paymentId hCharged _
        cases hCharged
        exact hLink
    · intro label hLabel db
      rw [List.mem_singleton.mp hLabel]
      rfl

/-
  A first request is still busy thirty seconds later, when
  an identical one takes its key over.  Both are answered,
  and both complete the key row.
-/
def overtakenRun (result : ProviderResult) : List Label :=
  let request : CreateRequest :=
    { merchantId := 1
      idempotencyKey := "create"
      amountMinor := 100
      currency := "USD"
      paymentToken := "tok_visa" }
  [⟨0, .createBegin request, .numbered 1⟩,
    ⟨0, .createProcess, .numbered 2⟩,
    ⟨0, .createAssess, .numbered 3⟩,
    ⟨1, .createBegin request,
      .numbered 4 defaultStaleAfter⟩,
    ⟨1, .createProcess, .numbered 5 defaultStaleAfter⟩,
    ⟨1, .createAssess, .numbered 6 defaultStaleAfter⟩,
    ⟨0, .createAuthorize result,
      .numbered 7 defaultStaleAfter⟩,
    ⟨0, .createFinish, .numbered 8 defaultStaleAfter⟩,
    ⟨1, .createAuthorize (.approved "other"),
      .numbered 9 defaultStaleAfter⟩,
    ⟨1, .createFinish, .numbered 10 defaultStaleAfter⟩]

/- The first authorization timed out. -/
def orphanedRun : List Label :=
  overtakenRun .timeout ++
    [⟨2, .reconcileBegin 1 1 0,
        .numbered 11 defaultStaleAfter⟩,
      ⟨2, .reconcileReport,
        .numbered 12 defaultStaleAfter⟩]

/- The first authorization went through, its capture not. -/
def misledRun : List Label :=
  overtakenRun (.approved "txn") ++
    [⟨2, .captureBegin captureOfPayment,
        .numbered 11 defaultStaleAfter⟩,
      ⟨2, .captureFinish .timeout,
        .numbered 12 defaultStaleAfter⟩,
      ⟨3, .reconcileBegin 1 1 0,
        .numbered 13 defaultStaleAfter⟩,
      ⟨3, .reconcileAnswer .timeout,
        .numbered 14 defaultStaleAfter⟩]

/-
  The creation of payment 1 has used one key.  In the first
  run nothing leads back to it and reconciliation reports a
  missing transaction, in the second the provider is asked
  about the key of the capture.
-/
theorem lost_key_row_misleads :
    (∃ system,
        Lts.exec (step { sha256 := spellOut }) {}
            orphanedRun = some system ∧
          unknownPayment ∈ system.db.payments ∧
          system.authorizeKeys 1 = ["create"] ∧
          originalIdempotencyKey system.db 1 0 = none ∧
          system.db.reports.map (·.result) =
            [.missingInternalTransaction] ∧
          ¬ AsksRight system) ∧
      ∃ system,
        Lts.exec (step { sha256 := spellOut }) {}
            misledRun = some system ∧
          unknownPayment ∈ system.db.payments ∧
          system.authorizeKeys 1 = ["create"] ∧
          originalIdempotencyKey system.db 1 0 =
            some "capture" ∧
          ProviderCall.lookup 1 "capture" .timeout ∈
            system.providerCalls ∧
          ¬ AsksRight system := by
  have hOrphaned :
      (Lts.exec (step { sha256 := spellOut }) {}
        orphanedRun).map (fun system =>
          decide (unknownPayment ∈ system.db.payments ∧
            system.authorizeKeys 1 = ["create"] ∧
            originalIdempotencyKey system.db 1 0 = none ∧
            system.db.reports.map (·.result) =
              [.missingInternalTransaction])) =
        some true := by
    decide +kernel
  have hMisled :
      (Lts.exec (step { sha256 := spellOut }) {}
        misledRun).map (fun system =>
          decide (unknownPayment ∈ system.db.payments ∧
            system.authorizeKeys 1 = ["create"] ∧
            originalIdempotencyKey system.db 1 0 =
              some "capture" ∧
            ProviderCall.lookup 1 "capture" .timeout ∈
              system.providerCalls)) =
        some true := by
    decide +kernel
  constructor
  · rcases Option.map_eq_some_iff.mp hOrphaned with
      ⟨system, hExec, hHolds⟩
    rcases of_decide_eq_true hHolds with
      ⟨hStored, hAsked, hLost, hReports⟩
    refine ⟨system, hExec, hStored, hAsked, hLost, hReports,
      ?_⟩
    intro hRight
    rcases hRight.original unknownPayment hStored rfl with
      ⟨key, _, hKey⟩
    rw [show unknownPayment.id = 1 from rfl] at hKey
    rw [hKey 0] at hLost
    cases hLost
  · rcases Option.map_eq_some_iff.mp hMisled with
      ⟨system, hExec, hHolds⟩
    rcases of_decide_eq_true hHolds with
      ⟨hStored, hAsked, hOther, hLookup⟩
    refine ⟨system, hExec, hStored, hAsked, hOther, hLookup,
      ?_⟩
    intro hRight
    have hUsed := hRight.lookups 1 "capture" _ hLookup
    rw [hAsked] at hUsed
    revert hUsed
    decide

end PayGuard

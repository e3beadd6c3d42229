import PayGuard.Payments.Queries
import PayGuard.Tenancy.Frame

/-
  What a merchant can change and what it gets to see.

  The calls that write are runs of the system; the reads are
  functions of one database, and so is a reconciliation pass
  with nothing in between its commits.  A read that counts
  or sums is determined by the merchant's own rows.

  Key definitions include:
    * `CallsWithin`
    * `PassWithin`
    * `ReadsWithin`

  Key theorems include:
    * `tenant_frame`
-/

------------------------------------------------------------
-- Reads
------------------------------------------------------------

namespace PayGuard

/- Every row of a detail page is the merchant's. -/
structure PaymentDetail.Within
    (db : Database)
    (merchantId : Uuid)
    (detail : PaymentDetail) : Prop where
  payment : detail.payment ∈ (db.rowsOf merchantId).payments
  events :
    ∀ row ∈ detail.events,
      row ∈ (db.rowsOf merchantId).events
  attempts :
    ∀ row ∈ detail.attempts,
      row ∈ (db.rowsOf merchantId).attempts
  refunds :
    ∀ row ∈ detail.refunds,
      row ∈ (db.rowsOf merchantId).refunds
  ledgerEntries :
    ∀ row ∈ detail.ledgerEntries,
      row ∈ (db.rowsOf merchantId).ledger

/-
  The reads of a merchant return its rows, and they return
  the same where no other row exists.
-/
structure ReadsWithin
    (db : Database)
    (merchantId : Uuid) : Prop where
  payment :
    ∀ paymentId intent,
      getPayment db merchantId paymentId = .ok intent →
        intent ∈ (db.rowsOf merchantId).payments
  refund :
    ∀ refundId refund,
      getRefund db merchantId refundId = .ok refund →
        refund ∈ (db.rowsOf merchantId).refunds
  detail :
    ∀ scans paymentId detail,
      getPaymentDetail db scans merchantId paymentId =
          .ok detail →
        detail.Within db merchantId
  page :
    ∀ scan status limit offset page,
      listPayments db scan merchantId status limit offset =
          .ok page →
        ∀ row ∈ page.items,
          row ∈ (db.rowsOf merchantId).payments
  counted :
    ∀ scan status limit offset,
      listPayments db scan merchantId status limit offset =
        listPayments (db.rowsOf merchantId) scan merchantId
          status limit offset
  summary :
    getDashboardSummary db merchantId =
      getDashboardSummary (db.rowsOf merchantId) merchantId
  unknown :
    ∀ scan,
      ∀ row ∈ findPaymentsNeedingReconciliation db scan
          (some merchantId),
        row ∈ (db.rowsOf merchantId).payments
  balance :
    ∀ paymentId intent,
      db.selectPayment paymentId merchantId = some intent →
        reservedAmount db intent.id =
          reservedAmount (db.rowsOf merchantId) intent.id

variable {db : Database}
variable {merchantId : Uuid}

theorem mem_rowsOf_payments
    {row : PaymentIntent} :
    row ∈ (db.rowsOf merchantId).payments ↔
      row ∈ db.payments ∧ row.merchantId = merchantId := by
  simp [Database.rowsOf]

theorem getPayment_mem
    {paymentId : Uuid}
    {intent : PaymentIntent}
    (hGet :
      getPayment db merchantId paymentId = .ok intent) :
    intent ∈ (db.rowsOf merchantId).payments ∧
      db.holdsPayment merchantId intent.id = true := by
  unfold getPayment at hGet
  split at hGet
  · cases hGet
  · rename_i hSelect
    cases hGet
    rcases selectPayment_eq_some hSelect with
      ⟨hRow, _, hMerchant⟩
    refine ⟨mem_rowsOf_payments.mpr ⟨hRow, hMerchant⟩, ?_⟩
    rw [holdsPayment_iff]
    exact List.mem_map.mpr ⟨intent, hRow, by rw [hMerchant]⟩

theorem getRefund_mem
    {refundId : Uuid}
    {refund : Refund}
    (hGet : getRefund db merchantId refundId = .ok refund) :
    refund ∈ (db.rowsOf merchantId).refunds := by
  unfold getRefund at hGet
  split at hGet
  · cases hGet
  · rename_i hFind
    cases hGet
    have hWanted := List.find?_some hFind
    rw [Bool.and_eq_true] at hWanted
    exact List.mem_filter.mpr
      ⟨List.mem_of_find?_eq_some hFind, hWanted.2⟩

/- Children of a payment belong to the payment's merchant. -/
theorem mem_filter_of_child
    {R : Type}
    {rows : List R}
    {parent : R → Uuid}
    {paymentId : Uuid}
    (hHolds : db.holdsPayment merchantId paymentId = true)
    {row : R}
    (hRow :
      row ∈ rows.filter (fun row => parent row = paymentId)) :
    row ∈ rows.filter (fun row =>
      db.holdsPayment merchantId (parent row)) := by
  rcases List.mem_filter.mp hRow with ⟨hMember, hParent⟩
  refine List.mem_filter.mpr ⟨hMember, ?_⟩
  rw [of_decide_eq_true hParent]
  exact hHolds

theorem getPaymentDetail_within
    {scans : DetailScans}
    {paymentId : Uuid}
    {detail : PaymentDetail}
    (hGet :
      getPaymentDetail db scans merchantId paymentId =
        .ok detail) :
    detail.Within db merchantId := by
  unfold getPaymentDetail at hGet
  split at hGet
  · cases hGet
  · rename_i intent hPayment
    cases hGet
    rcases getPayment_mem hPayment with ⟨hRow, hHolds⟩
    refine ⟨hRow, ?_, ?_, ?_, ?_⟩
    · intro row hMember
      exact mem_filter_of_child hHolds
        (Table.mem_orderBy.mp hMember)
    · intro row hMember
      exact mem_filter_of_child hHolds
        (Table.mem_orderBy.mp hMember)
    · intro row hMember
      exact mem_filter_of_child hHolds
        (Table.mem_orderBy.mp hMember)
    · intro row hMember
      exact mem_filter_of_child hHolds
        (scans.ledgerEntries.mem_visit.mp hMember)

theorem listedPayments_rowsOf
    (db : Database)
    (merchantId : Uuid)
    (status : Option String) :
    listedPayments (db.rowsOf merchantId) merchantId status =
      listedPayments db merchantId status := by
  apply Table.filter_of_kept
  intro row _ hWanted
  rw [Bool.and_eq_true] at hWanted
  exact hWanted.1

theorem listPayments_mem
    {scan : Table.Scan PaymentIntent}
    {status : Option String}
    {limit offset : Int}
    {page : PaymentPage}
    (hList :
      listPayments db scan merchantId status limit offset =
        .ok page) :
    ∀ row ∈ page.items,
      row ∈ (db.rowsOf merchantId).payments := by
  unfold listPayments at hList
  simp only at hList
  split at hList
  · cases hList
  · cases hList
    intro row hRow
    have hOrdered :=
      List.mem_of_mem_drop (List.mem_of_mem_take hRow)
    rw [Table.mem_orderBy] at hOrdered
    rcases List.mem_filter.mp hOrdered with ⟨hMember, hWanted⟩
    rw [Bool.and_eq_true] at hWanted
    exact List.mem_filter.mpr ⟨hMember, hWanted.1⟩

/- A merchant finds its own payments among its own rows. -/
theorem holdsPayment_rowsOf
    (db : Database)
    (merchantId paymentId : Uuid) :
    (db.rowsOf merchantId).holdsPayment merchantId
        paymentId =
      db.holdsPayment merchantId paymentId := by
  apply Table.any_of_kept
  intro row _ hWanted
  exact decide_eq_true (of_decide_eq_true hWanted).2

theorem getDashboardSummary_rowsOf
    (db : Database)
    (merchantId : Uuid) :
    getDashboardSummary (db.rowsOf merchantId) merchantId =
      getDashboardSummary db merchantId := by
  have hCounts :
      countsByStatus (db.rowsOf merchantId) merchantId =
        countsByStatus db merchantId := by
    unfold countsByStatus
    rw [show
      (db.rowsOf merchantId).payments.filter (fun row =>
          row.merchantId = merchantId) =
        db.payments.filter (fun row =>
          row.merchantId = merchantId) from
        Table.filter_of_kept (fun _ _ hWanted => hWanted)]
  unfold getDashboardSummary
  simp only [hCounts, holdsPayment_rowsOf,
    DashboardSummary.mk.injEq, true_and]
  refine ⟨?_, ?_⟩
  · apply Table.sumWhere_of_kept
    intro row _ hWanted
    rw [Bool.and_eq_true] at hWanted
    exact hWanted.1
  · apply Table.sumWhere_of_kept
    intro row _ hWanted
    rw [Bool.and_eq_true] at hWanted
    exact hWanted.1

theorem findPayments_mem
    {scan : Table.Scan PaymentIntent}
    {row : PaymentIntent}
    (hRow :
      row ∈ findPaymentsNeedingReconciliation db scan
        (some merchantId)) :
    row ∈ (db.rowsOf merchantId).payments := by
  unfold findPaymentsNeedingReconciliation at hRow
  rw [scan.mem_visit] at hRow
  rcases List.mem_filter.mp hRow with ⟨hMember, hWanted⟩
  rw [Bool.and_eq_true] at hWanted
  exact List.mem_filter.mpr ⟨hMember, hWanted.2⟩

theorem reservedAmount_rowsOf
    {paymentId : Uuid}
    (hHolds : db.holdsPayment merchantId paymentId = true) :
    reservedAmount (db.rowsOf merchantId) paymentId =
      reservedAmount db paymentId := by
  apply Table.sumWhere_of_kept
  intro row _ hWanted
  rw [Bool.and_eq_true] at hWanted
  rw [of_decide_eq_true hWanted.1]
  exact hHolds

theorem readsWithin
    (db : Database)
    (merchantId : Uuid) :
    ReadsWithin db merchantId where
  payment := fun _ _ hGet => (getPayment_mem hGet).1
  refund := fun _ _ hGet => getRefund_mem hGet
  detail := fun _ _ _ hGet => getPaymentDetail_within hGet
  page := fun _ _ _ _ _ hList => listPayments_mem hList
  counted := by
    intro scan status limit offset
    unfold listPayments
    rw [listedPayments_rowsOf]
  summary := (getDashboardSummary_rowsOf db merchantId).symm
  unknown := fun _ _ hRow => findPayments_mem hRow
  balance := by
    intro paymentId intent hSelect
    rcases selectPayment_eq_some hSelect with
      ⟨hRow, _, hMerchant⟩
    refine (reservedAmount_rowsOf ?_).symm
    rw [holdsPayment_iff]
    exact List.mem_map.mpr ⟨intent, hRow, by rw [hMerchant]⟩

end PayGuard

------------------------------------------------------------
-- A Pass
------------------------------------------------------------

namespace PayGuard

variable {lockRead : LockRead}
variable {providerName : String}
variable {db next : Database}
variable {merchantId : Uuid}

/- A reconciliation adds at most the attempt it drew. -/
theorem reconcileApply_attempts
    {locked : Option PaymentIntent}
    {result : ProviderResult}
    {draw : Draw}
    {report : ReconciliationReport}
    (hBody :
      reconcileApply db locked providerName result draw =
        .ok (next, report)) :
    ∀ row ∈ next.attempts,
      row ∈ db.attempts ∨ row.id = draw.attempt := by
  rcases reconcileApply_eq_ok hBody with
    ⟨_, _, ⟨rfl, _⟩ | ⟨_, _, _, _, hApply⟩ | ⟨_, hResolve⟩⟩
  · exact fun row hRow => .inl hRow
  · rw [(Moved.of_applyTransition hApply).attempts]
    exact fun row hRow => .inl hRow
  · have hAppended :
        ∃ attempt : PaymentAttempt,
          attempt.id = draw.attempt ∧
            next.attempts = db.attempts ++ [attempt] := by
      rcases resolve_eq_ok hResolve with
        ⟨_, _, hSucceeded⟩ | ⟨_, _, hFailed⟩
      · rcases resolveSucceeded_eq_ok hSucceeded with
          ⟨attempt, base, _, _, hRecorded, hApply, rfl⟩
        have hBase := (Moved.of_applyTransition hApply).attempts
        exact ⟨attempt, hRecorded.id, hBase⟩
      · rcases resolveFailed_eq_ok hFailed with
          ⟨attempt, base, _, hRecorded, hApply, rfl⟩
        have hBase := (Moved.of_applyTransition hApply).attempts
        exact ⟨attempt, hRecorded.id, by rw [hBase]⟩
    rcases hAppended with ⟨attempt, hId, hRows⟩
    intro row hRow
    rw [hRows] at hRow
    rcases List.mem_append.mp hRow with hOld | hNew
    · exact .inl hOld
    · rw [List.mem_singleton.mp hNew]
      exact .inr hId

/- What one visited payment leaves behind. -/
structure Visited
    (merchantId : Uuid)
    (draw : Draw)
    (db next : Database) : Prop where
  grows : Grows merchantId db next [] [] []
  attempts :
    ∀ row ∈ next.attempts,
      row ∈ db.attempts ∨ row.id = draw.attempt

/- A report on one of the merchant's payments. -/
theorem visited_writeReport
    {draw : Draw}
    {report : ReconciliationReport}
    (hVisited : Visited merchantId draw db next)
    (hKeys : db.PrimaryKeys)
    (hHolds :
      db.holdsPayment merchantId report.paymentIntentId =
        true) :
    Visited merchantId draw db (writeReport next report) where
  grows :=
    hVisited.grows.andThen (writeReport_grows
      (hVisited.grows.payment (hKeys.onlyOwner hHolds)))
  attempts := hVisited.attempts

theorem visited_refl
    (merchantId : Uuid)
    (draw : Draw)
    (db : Database) :
    Visited merchantId draw db db where
  grows := Grows.refl merchantId db
  attempts := fun _ hRow => .inl hRow

/- One payment of a pass, from its lock to its report. -/
theorem reconcilePayment_visited
    (lockRead : LockRead)
    (providerName : String)
    (paymentId : Uuid)
    {loaded : Option PaymentIntent}
    {visit : Visit}
    (hKeys : db.PrimaryKeys)
    (hLoaded :
      ∀ object,
        loaded = some object →
          object.merchantId = merchantId)
    (hFresh : visit.draw.attempt ∉ db.attempts.map (·.id)) :
    Visited merchantId visit.draw db
        (reconcilePayment lockRead providerName db loaded
          paymentId merchantId visit).1 ∧
      ∀ report,
        (reconcilePayment lockRead providerName db loaded
            paymentId merchantId visit).2 = .ok report →
          db.holdsPayment merchantId report.paymentIntentId =
            true := by
  unfold reconcilePayment
  split
  · exact ⟨visited_refl _ _ _, by simp⟩
  · rename_i report hCheck
    have hWithin :
        (Call.reconcileReporting report).Within db db
          merchantId :=
      reconcileCheck_within hKeys hLoaded hCheck
    have hHolds := hWithin.payment _ rfl
    refine ⟨visited_writeReport (visited_refl _ _ _) hKeys
      hHolds, ?_⟩
    intro found hFound
    cases hFound
    exact hHolds
  · split
    · exact ⟨visited_refl _ _ _, by simp⟩
    · split
      · exact ⟨visited_refl _ _ _, by simp⟩
      · rename_i next report hApply
        have hGrows :=
          reconcileApply_grows hFresh
            (fun intent hLock =>
              (locked_onlyOwner hKeys hLock).2) hApply
        have hHolds :
            db.holdsPayment merchantId
              report.paymentIntentId = true := by
          rcases reconcileApply_report hApply with
            ⟨intent, hLock, hReport⟩
          rw [hReport]
          exact (locked_onlyOwner hKeys hLock).1
        refine ⟨visited_writeReport
          ⟨hGrows, reconcileApply_attempts hApply⟩ hKeys
          hHolds, ?_⟩
        intro found hFound
        cases hFound
        exact hHolds

theorem Grows.primaryKeys
    (hGrows : Grows merchantId db next [] [] [])
    (hKeys : db.PrimaryKeys) :
    next.PrimaryKeys where
  payments := by
    rw [← paymentOwners_fst, hGrows.payments,
      List.append_nil, paymentOwners_fst]
    exact hKeys.payments
  keys := by
    rw [← keyOwners_fst, hGrows.keys, List.append_nil,
      keyOwners_fst]
    exact hKeys.keys

/- The loop of a pass over payments of one merchant. -/
theorem reconcileEach_grows
    (lockRead : LockRead)
    (providerName : String)
    (visits : Uuid → Visit)
    (payments : List PaymentIntent) :
    ∀ db : Database,
      db.PrimaryKeys →
      (∀ intent ∈ payments, intent.merchantId = merchantId) →
      (payments.map (fun intent =>
        (visits intent.id).draw.attempt)).Nodup →
      (∀ intent ∈ payments,
        (visits intent.id).draw.attempt ∉
          db.attempts.map (·.id)) →
        Grows merchantId db
            (reconcileEach lockRead providerName visits db
              payments).1 [] [] [] ∧
          ∀ reports,
            (reconcileEach lockRead providerName visits db
                payments).2 = .ok reports →
              ∀ report ∈ reports,
                db.holdsPayment merchantId
                  report.paymentIntentId = true := by
  induction payments with
  | nil =>
      intro db _ _ _ _
      refine ⟨Grows.refl merchantId db, ?_⟩
      intro reports hReports
      cases hReports
      simp
  | cons intent payments ih =>
      intro db hKeys hOwn hApart hFresh
      rw [List.forall_mem_cons] at hOwn hFresh
      rw [List.map_cons, List.nodup_cons] at hApart
      have hLoaded :
          ∀ object,
            some intent = some object →
              object.merchantId = merchantId := by
        intro object hObject
        cases hObject
        exact hOwn.1
      have hFirst :=
        reconcilePayment_visited lockRead providerName
          intent.id hKeys hLoaded hFresh.1
      unfold reconcileEach
      rw [hOwn.1]
      generalize
        reconcilePayment lockRead providerName db
          (some intent) intent.id merchantId
          (visits intent.id) = visited at hFirst ⊢
      rcases visited with ⟨mid, failure | report⟩
      · exact ⟨hFirst.1.grows, by simp⟩
      · rcases hFirst with ⟨⟨hGrows, hAttempts⟩, hReport⟩
        -- the later draws are fresh for what this one added
        have hLater :
            ∀ later ∈ payments,
              (visits later.id).draw.attempt ∉
                mid.attempts.map (·.id) := by
          intro later hLater hStored
          rcases List.mem_map.mp hStored with
            ⟨row, hRow, hId⟩
          rcases hAttempts row hRow with hOld | hDrawn
          · exact hFresh.2 later hLater
              (List.mem_map.mpr ⟨row, hOld, hId⟩)
          · apply hApart.1
            rw [← hDrawn, hId]
            exact List.mem_map.mpr ⟨later, hLater, rfl⟩
        have hRest :=
          ih mid (hGrows.primaryKeys hKeys) hOwn.2 hApart.2
            hLater
        simp only
        generalize
          reconcileEach lockRead providerName visits mid
            payments = rest at hRest ⊢
        rcases rest with ⟨last, failure | reports⟩
        · exact ⟨hGrows.andThen hRest.1, by simp⟩
        · refine ⟨hGrows.andThen hRest.1, ?_⟩
          intro found hFound
          cases hFound
          rw [List.forall_mem_cons]
          refine ⟨hReport report rfl, ?_⟩
          intro other hOther
          have hHeld := hRest.2 reports rfl other hOther
          rw [holdsPayment_iff] at hHeld ⊢
          rw [hGrows.payments, List.append_nil] at hHeld
          exact hHeld

end PayGuard

------------------------------------------------------------
-- The Tenant Frame
------------------------------------------------------------

namespace PayGuard

open Lts

/-
  Among calls of any merchants, each step of a call spares
  every other merchant than its own, and each call ends with
  rows of its own.
-/
def CallsWithin
    (config : Config)
    (db : Database) : Prop :=
  ∀ (merchantOf : CallId → Uuid)
    (labels : List Label)
    (label : Label)
    (system next : System),
    exec (step config) { db := db } labels = some system →
    step config system label = some next →
    Meets (step config) Undrawn { db := db }
      (labels ++ [label]) →
    (∀ made ∈ labels ++ [label], made.MadeWith merchantOf) →
      (label.action.ofWebhook = false →
        Spares (merchantOf label.call) system.db next.db) ∧
      ∀ call reply,
        next.calls call = .done reply →
          reply.Within db next.db (merchantOf call)

/- The attempts a pass may insert are drawn anew. -/
def DrawsApart
    (db : Database)
    (payments : List PaymentIntent)
    (visits : Uuid → Visit) : Prop :=
  (payments.map (fun intent =>
      (visits intent.id).draw.attempt) ++
    db.attempts.map (·.id)).Nodup

/-
  A pass of one merchant spares every other one and reports
  on its payments only.
-/
def PassWithin
    (config : Config)
    (db : Database)
    (merchantId : Uuid) : Prop :=
  ∀ (scan : Table.Scan PaymentIntent)
    (visits : Uuid → Visit),
    DrawsApart db
      (findPaymentsNeedingReconciliation db scan
        (some merchantId)) visits →
      Spares merchantId db
        (runReconciliationPass config.lockRead
          config.providerName db scan (some merchantId)
          visits).1 ∧
      ∀ reports,
        (runReconciliationPass config.lockRead
            config.providerName db scan (some merchantId)
            visits).2 = .ok reports →
          ∀ report ∈ reports,
            db.holdsPayment merchantId
              report.paymentIntentId = true

theorem callsWithin
    (config : Config)
    {db : Database}
    (hKeys : db.PrimaryKeys) :
    CallsWithin config db := by
  intro merchantOf labels label system next hRun hStep
    hDraws hMade
  have hKeep :
      ∀ (system : System) (label : Label) (next : System),
        Tenanted db merchantOf system →
          (Undrawn system label ∧
            label.MadeWith merchantOf) →
            step config system label = some next →
              Tenanted db merchantOf next :=
    fun _ _ _ hTenanted hMet hStep =>
      tenanted_step hTenanted hMet.1 hMet.2 hStep
  rw [meets_append hRun] at hDraws
  rw [List.forall_mem_append] at hMade
  have hBefore : Tenanted db merchantOf system :=
    invariant_of_meets hKeep (tenanted_start hKeys)
      (hDraws.1.and (meets_of_forall
        (fun made hLabel _ => hMade.1 made hLabel))) hRun
  rw [meets_cons_of_step hStep] at hDraws
  have hOwn := hMade.2 label (List.mem_singleton_self label)
  have hAfter :=
    tenanted_step hBefore hDraws.2.1 hOwn hStep
  refine ⟨(hBefore.serves hOwn hStep).spares, ?_⟩
  intro call reply hDone
  exact (hAfter.calls call).reply reply hDone

theorem passWithin
    (config : Config)
    {db : Database}
    (merchantId : Uuid)
    (hKeys : db.PrimaryKeys) :
    PassWithin config db merchantId := by
  intro scan visits hDraws
  unfold DrawsApart at hDraws
  rw [List.nodup_append] at hDraws
  have hOwn :
      ∀ intent ∈ findPaymentsNeedingReconciliation db scan
          (some merchantId),
        intent.merchantId = merchantId := by
    intro intent hIntent
    exact (mem_rowsOf_payments.mp
      (findPayments_mem hIntent)).2
  have hFresh :
      ∀ intent ∈ findPaymentsNeedingReconciliation db scan
          (some merchantId),
        (visits intent.id).draw.attempt ∉
          db.attempts.map (·.id) := by
    intro intent hIntent hStored
    exact hDraws.2.2 _
      (List.mem_map.mpr ⟨intent, hIntent, rfl⟩) _ hStored rfl
  have hGrows :=
    reconcileEach_grows config.lockRead config.providerName
      visits _ db hKeys hOwn hDraws.1 hFresh
  exact ⟨hGrows.1.spares, hGrows.2⟩

/-
  In every database whose payments and key rows have their
  primary keys, what a merchant's calls do, what a pass of
  the merchant does, and what the merchant reads, is confined
  to the merchant's own rows.
-/
theorem tenant_frame
    (config : Config)
    (db : Database)
    (merchantId : Uuid)
    (hKeys : db.PrimaryKeys) :
    CallsWithin config db ∧
      PassWithin config db merchantId ∧
      ReadsWithin db merchantId :=
  ⟨callsWithin config hKeys,
    passWithin config merchantId hKeys,
    readsWithin db merchantId⟩

/- An authorized payment of merchant 1, one of merchant 2. -/
def twoMerchants : Database where
  payments :=
    [{ id := 1
       merchantId := 1
       amountMinor := 100
       currency := "USD"
       merchantReference := none
       status := .processing
       createdAt := 0 },
      { id := 2
        merchantId := 2
        amountMinor := 250
        currency := "USD"
        merchantReference := none
        status := .unknown
        createdAt := 0 }]
  attempts :=
    [{ id := 1
       paymentIntentId := 1
       providerName := "mock"
       status := .succeeded
       failureClassification := none
       attemptNumber := 1
       createdAt := 0 }]
  providerTransactions :=
    [{ paymentAttemptId := 1
       providerName := "mock"
       providerTransactionId := "txn"
       rawStatus := "succeeded"
       rawResponse := {} }]

/- The capture of the authorized payment, in two steps. -/
def openCapture : Label :=
  ⟨1, .captureBegin
    { merchantId := 1
      paymentId := 1
      idempotencyKey := "capture" }, .numbered 6⟩

def closeCapture : Label :=
  ⟨1, .captureFinish (.approved "txn"), .numbered 7⟩

theorem tenant_frame_captured :
    ∃ system next,
      exec (step { sha256 := spellOut })
          { db := twoMerchants } [openCapture] =
        some system ∧
      step { sha256 := spellOut } system closeCapture =
        some next ∧
      next.db.payments.map (·.status) =
        [.succeeded, .unknown] ∧
      Spares 1 system.db next.db ∧
      ReadsWithin twoMerchants 2 := by
  have hKeys : twoMerchants.PrimaryKeys :=
    ⟨by decide, by decide⟩
  have hRun :
      (exec (step { sha256 := spellOut })
        { db := twoMerchants } [openCapture]).map
          (fun system =>
            ((system.calls 1).claimedKey.map (·.id),
              (step { sha256 := spellOut } system
                closeCapture).map (fun next =>
                  next.db.payments.map (·.status)))) =
        some (some 6, some [.succeeded, .unknown]) := by
    decide +kernel
  rcases Option.map_eq_some_iff.mp hRun with
    ⟨system, hExec, hBoth⟩
  rw [Prod.mk.injEq] at hBoth
  rcases Option.map_eq_some_iff.mp hBoth.2 with
    ⟨next, hStep, hStatuses⟩
  rcases exec_cons_eq_some.mp hExec with
    ⟨opened, hOpen, hSame⟩
  cases hSame
  have hFrame := (step_effect hOpen).2.frame
  have hDraws :
      Meets (step { sha256 := spellOut }) Undrawn
        { db := twoMerchants }
        ([openCapture] ++ [closeCapture]) := by
    rw [meets_append hExec, meets_cons_of_step hOpen,
      meets_cons_of_step hStep]
    refine ⟨⟨?_, trivial⟩, ?_, trivial⟩
    · intro call key hKey
      cases hKey
    · intro call key hKey
      by_cases hCall : call = 1
      · rw [hCall] at hKey
        rw [hKey] at hBoth
        have hId : key.id = 6 := Option.some.inj hBoth.1
        rw [hId]
        decide
      · rw [hFrame.calls call hCall] at hKey
        cases hKey
  have hCalls :=
    (tenant_frame { sha256 := spellOut } twoMerchants 1
      hKeys).1 (fun _ => 1) [openCapture] closeCapture
        system next hExec hStep hDraws (by
          simp [Label.MadeWith, openCapture, closeCapture,
            Action.merchant])
  exact ⟨system, next, hExec, hStep, hStatuses,
    hCalls.1 rfl,
    (tenant_frame { sha256 := spellOut } twoMerchants 2
      hKeys).2.2⟩

end PayGuard

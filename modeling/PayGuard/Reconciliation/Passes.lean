import PayGuard.Reconciliation.Exits

/-
  Whether the payments of a pass are reconciled apart.

  A pass goes through its payments in one loop without an
  exception handler.  The first exception ends it: the
  payments that follow are not asked about, and a payment
  whose lookup raised gets no report.

  Key definitions include:
    * `answerTo`
    * `LookupRaises`
    * `backfill`
    * `FreshAttempts`
    * `PassIndependent`

  Key theorems include:
    * `reconcileEach_splits`
    * `transactionsOf_filed`
    * `pass_is_independent_iff`
    * `one_raise_ends_the_pass`
-/

------------------------------------------------------------
-- One Visit
------------------------------------------------------------

namespace PayGuard

open Lts

/- What the provider says to the lookup of a payment. -/
def answerTo
    (db : Database)
    (intent : PaymentIntent)
    (visit : Visit) :
    Option (Except Failure ProviderResult) :=
  (originalIdempotencyKey db intent.id visit.pick).map
    visit.lookup

def LookupRaises
    (db : Database)
    (intent : PaymentIntent)
    (visit : Visit) : Prop :=
  ∃ failure,
    answerTo db intent visit = some (.error failure)

/- The transaction a usable positive answer names. -/
def backfill
    (db : Database)
    (intent : PaymentIntent)
    (visit : Visit) : Option String :=
  match answerTo db intent visit with
  | some (.ok result) =>
      if result.outcome = .succeeded ∧
          result.agrees intent = true then
        result.providerTransactionId
      else
        none
  | _ => none

/- The rows a visit adds that comes to an end. -/
def visitAdditions
    (db : Database)
    (intent : PaymentIntent)
    (providerName : String)
    (visit : Visit) : Additions :=
  match answerTo db intent visit with
  | some (.ok result) =>
      reconcileAdditions intent
        (nextAttemptNumber db intent.id) providerName result
        visit.draw
  | _ => {}

def visitReport
    (db : Database)
    (intent : PaymentIntent)
    (visit : Visit) : ReconciliationReport :=
  match answerTo db intent visit with
  | some (.ok result) => findingReport intent result
  | _ =>
      { paymentIntentId := intent.id
        result := .missingInternalTransaction
        internalStatus := .unknown
        providerStatus := none
        details := .note
          ("no idempotency key on record to ask " ++
            "the provider about") }

/- The payment of a visit, as the pass found it. -/
structure Found
    (db : Database)
    (intent : PaymentIntent) : Prop where
  nodup : (db.payments.map (·.id)).Nodup
  stored : intent ∈ db.payments
  status : intent.status = .unknown
  free : db.attemptTaken intent.id = false

variable {db ended : Database}
variable {intent : PaymentIntent}
variable {lockRead : LockRead}
variable {providerName : String}
variable {visit : Visit}

theorem visitAdditions_concern
    (db : Database)
    (intent : PaymentIntent)
    (providerName : String)
    (visit : Visit) :
    (visitAdditions db intent providerName visit).Concern
      intent.id := by
  unfold visitAdditions
  split
  · exact reconcileAdditions_concern intent _ _ _ _
  · exact additions_concern_nothing intent.id

theorem visitAdditions_drawn
    (db : Database)
    (intent : PaymentIntent)
    (providerName : String)
    (visit : Visit) :
    (visitAdditions db intent providerName visit).Drawn
      visit.draw.attempt := by
  unfold visitAdditions
  split
  · exact reconcileAdditions_drawn intent _ _ _ _
  · exact ⟨by simp, by simp⟩

theorem visitReport_paymentIntentId
    (db : Database)
    (intent : PaymentIntent)
    (visit : Visit) :
    (visitReport db intent visit).paymentIntentId =
      intent.id := by
  unfold visitReport
  split <;> rfl

/- A clash is one with a transaction already on file. -/
theorem Found.clashes_eq
    {result : ProviderResult}
    (hFound : Found db intent)
    (hAnswer : answerTo db intent visit = some (.ok result)) :
    db.clashes intent providerName result =
      db.onFile providerName (backfill db intent visit) := by
  unfold Database.clashes backfill
  rw [hFound.free, hAnswer, Bool.and_false, Bool.false_or]
  by_cases hFinding :
      finding intent result = .resolvedSucceeded
  · have hUsable :=
      (finding_resolvedSucceeded_iff.mp hFinding).2
    simp [hFinding, hUsable]
  · have hUnusable :
        ¬ (result.outcome = .succeeded ∧
          result.agrees intent = true) :=
      fun hUsable =>
        hFinding (finding_resolvedSucceeded_iff.mpr
          ⟨hFound.status, hUsable⟩)
    simp [hFinding, hUnusable, Database.onFile]

/- The visit of a found payment locks it both times. -/
theorem Found.lockPayment
    (hFound : Found db intent) :
    PayGuard.lockPayment lockRead db (some intent) intent.id
        intent.merchantId = some intent :=
  lockPayment_of_mem hFound.nodup hFound.stored (.inr rfl)

/- A visit that cannot end well leaves no trace. -/
theorem reconcilePayment_fails
    (hFound : Found db intent)
    (hFails :
      LookupRaises db intent visit ∨
        db.onFile providerName (backfill db intent visit) =
          true) :
    ∃ failure,
      reconcilePayment lockRead providerName db
          (some intent) intent.id intent.merchantId visit =
        (db, .error failure) := by
  have hLock :
      PayGuard.lockPayment lockRead db (some intent)
        intent.id intent.merchantId = some intent :=
    hFound.lockPayment
  unfold reconcilePayment reconcileCheck
  rw [hLock]
  simp only [hFound.status, ne_eq, not_true, if_false]
  cases hKey :
      originalIdempotencyKey db intent.id visit.pick with
  | none =>
      have hUnasked : answerTo db intent visit = none := by
        simp [answerTo, hKey]
      simp [LookupRaises, backfill, hUnasked,
        Database.onFile] at hFails
  | some key =>
      have hAsked :
          answerTo db intent visit =
            some (visit.lookup key) := by
        simp [answerTo, hKey]
      cases hLookup : visit.lookup key with
      | error failure => exact ⟨failure, by simp [hLookup]⟩
      | ok result =>
          rw [hLookup] at hAsked
          have hClash :
              db.clashes intent providerName result = true := by
            rw [hFound.clashes_eq hAsked]
            rcases hFails with ⟨failure, hRaises⟩ | hOnFile
            · rw [hAsked] at hRaises
              cases hRaises
            · exact hOnFile
          obtain ⟨failure, hApply⟩ :
              ∃ failure,
                reconcileApply db (some intent) providerName
                  result visit.draw = .error failure :=
            reconcileApply_of_clash hClash
          exact ⟨failure, by simp [hLookup, hLock, hApply]⟩

/- Any other visit adds its rows and its report. -/
theorem reconcilePayment_succeeds
    (hFound : Found db intent)
    (hAnswers : ¬ LookupRaises db intent visit)
    (hFresh :
      db.onFile providerName (backfill db intent visit) =
        false) :
    reconcilePayment lockRead providerName db (some intent)
        intent.id intent.merchantId visit =
      (writeReport
          (db.receive intent
            (visitAdditions db intent providerName visit))
          (visitReport db intent visit),
        .ok (visitReport db intent visit)) := by
  have hLock :
      PayGuard.lockPayment lockRead db (some intent)
        intent.id intent.merchantId = some intent :=
    hFound.lockPayment
  unfold reconcilePayment reconcileCheck
  rw [hLock]
  simp only [hFound.status, ne_eq, not_true, if_false]
  cases hKey :
      originalIdempotencyKey db intent.id visit.pick with
  | none =>
      have hUnasked : answerTo db intent visit = none := by
        simp [answerTo, hKey]
      simp [visitAdditions, visitReport, hUnasked,
        receive_nothing]
  | some key =>
      have hAsked :
          answerTo db intent visit =
            some (visit.lookup key) := by
        simp [answerTo, hKey]
      cases hLookup : visit.lookup key with
      | error failure =>
          exact absurd ⟨failure, hLookup ▸ hAsked⟩ hAnswers
      | ok result =>
          rw [hLookup] at hAsked
          have hClash :
              db.clashes intent providerName result =
                false :=
            (hFound.clashes_eq hAsked).trans hFresh
          simp [hLookup, hLock, reconcileApply_eq hClash,
            visitAdditions, visitReport, hAsked]

------------------------------------------------------------
-- What A Visit Reads
------------------------------------------------------------

theorem answerTo_congr
    {other : Database}
    (hKeys : other.keys = db.keys)
    (intent : PaymentIntent)
    (visit : Visit) :
    answerTo other intent visit =
      answerTo db intent visit := by
  simp only [answerTo, originalIdempotencyKey, earliestKeys,
    hKeys]

theorem backfill_congr
    {other : Database}
    (hKeys : other.keys = db.keys)
    (intent : PaymentIntent)
    (visit : Visit) :
    backfill other intent visit =
      backfill db intent visit := by
  simp only [backfill, answerTo_congr hKeys]

theorem visitReport_congr
    {other : Database}
    (hKeys : other.keys = db.keys)
    (intent : PaymentIntent)
    (visit : Visit) :
    visitReport other intent visit =
      visitReport db intent visit := by
  simp only [visitReport, answerTo_congr hKeys]

theorem nextAttemptNumber_recordOf
    (db : Database)
    (paymentId : Uuid) :
    nextAttemptNumber (db.recordOf paymentId) paymentId =
      nextAttemptNumber db paymentId := by
  simp [nextAttemptNumber, Database.recordOf,
    List.countP_filter]

theorem attemptTaken_recordOf
    (db : Database)
    (paymentId : Uuid) :
    (db.recordOf paymentId).attemptTaken paymentId =
      db.attemptTaken paymentId := by
  unfold Database.attemptTaken
  rw [nextAttemptNumber_recordOf]
  simp [Database.recordOf, List.any_filter]

/- The payment's record decides what the visit adds. -/
theorem visitAdditions_congr
    {other : Database}
    (hKeys : other.keys = db.keys)
    (hRecord :
      other.recordOf intent.id = db.recordOf intent.id)
    (providerName : String)
    (visit : Visit) :
    visitAdditions other intent providerName visit =
      visitAdditions db intent providerName visit := by
  simp only [visitAdditions, answerTo_congr hKeys,
    ← nextAttemptNumber_recordOf other, hRecord,
    nextAttemptNumber_recordOf db]

theorem Found.congr
    {other : Database}
    (hFound : Found db intent)
    (hNodup : (other.payments.map (·.id)).Nodup)
    (hRecord :
      other.recordOf intent.id = db.recordOf intent.id) :
    Found other intent where
  nodup := hNodup
  stored := by
    have hMem :
        intent ∈ (other.recordOf intent.id).payments := by
      rw [hRecord]
      exact List.mem_filter.mpr
        ⟨hFound.stored, decide_eq_true rfl⟩
    exact List.mem_of_mem_filter hMem
  status := hFound.status
  free := by
    rw [← attemptTaken_recordOf, hRecord,
      attemptTaken_recordOf]
    exact hFound.free

------------------------------------------------------------
-- What A Visit Leaves
------------------------------------------------------------

/- The database after a visit that came to an end. -/
def visited
    (db : Database)
    (intent : PaymentIntent)
    (providerName : String)
    (visit : Visit) : Database :=
  writeReport
    (db.receive intent
      (visitAdditions db intent providerName visit))
    (visitReport db intent visit)

theorem visited_recordOf_of_ne
    (db : Database)
    {paymentId : Uuid}
    (providerName : String)
    (visit : Visit)
    (hOther : paymentId ≠ intent.id) :
    (visited db intent providerName visit).recordOf
        paymentId =
      db.recordOf paymentId := by
  rw [← recordOf_receive_of_ne db
    (visitAdditions_concern db intent providerName visit)
    hOther]
  have hReport :
      (visitReport db intent visit).paymentIntentId ≠
        paymentId := by
    rw [visitReport_paymentIntentId]
    exact hOther.symm
  simp [visited, writeReport, Database.recordOf,
    List.filter_append, hReport]

theorem visited_recordOf_self
    (db : Database)
    (intent : PaymentIntent)
    (providerName : String)
    (visit : Visit) :
    (visited db intent providerName visit).recordOf
        intent.id =
      writeReport
        ((db.recordOf intent.id).receive intent
          { visitAdditions db intent providerName visit with
            transactions := [] })
        (visitReport db intent visit) := by
  rw [← recordOf_receive_self db
    (visitAdditions_concern db intent providerName visit)]
  have hReport :
      (visitReport db intent visit).paymentIntentId =
        intent.id :=
    visitReport_paymentIntentId db intent visit
  simp [visited, writeReport, Database.recordOf,
    List.filter_append, hReport]

/- Two visits of one record leave one record. -/
theorem visited_recordOf_congr
    {other : Database}
    (hKeys : other.keys = db.keys)
    (hRecord :
      other.recordOf intent.id = db.recordOf intent.id)
    (providerName : String)
    (visit : Visit) :
    (visited other intent providerName visit).recordOf
        intent.id =
      (visited db intent providerName visit).recordOf
        intent.id := by
  rw [visited_recordOf_self, visited_recordOf_self, hRecord,
    visitAdditions_congr hKeys hRecord,
    visitReport_congr hKeys]

/- A visit that came to an end has left a report. -/
theorem visited_reports
    (db : Database)
    (intent : PaymentIntent)
    (providerName : String)
    (visit : Visit) :
    ((visited db intent providerName visit).recordOf
        intent.id).reports =
      (db.recordOf intent.id).reports ++
        [visitReport db intent visit] := by
  rw [visited_recordOf_self]
  rfl

theorem visited_onFile
    (db : Database)
    (intent : PaymentIntent)
    (providerName : String)
    (visit : Visit)
    (hStatus : intent.status = .unknown)
    (transactionId : String) :
    (visited db intent providerName visit).onFile
        providerName (some transactionId) = true ↔
      db.onFile providerName (some transactionId) = true ∨
        backfill db intent visit = some transactionId := by
  have hAdded :
      ((visitAdditions db intent providerName
        visit).transactions.any (fun other =>
          other.providerName = providerName ∧
            other.providerTransactionId =
              transactionId)) = true ↔
        backfill db intent visit = some transactionId := by
    unfold visitAdditions backfill
    split
    · rename_i result hAnswer
      by_cases hFinding :
          finding intent result = .resolvedSucceeded
      · have hUsable :=
          (finding_resolvedSucceeded_iff.mp hFinding).2
        simp [reconcileAdditions, hFinding, hUsable,
          backfilledTransactions]
      · have hUnusable :
            ¬ (result.outcome = .succeeded ∧
              result.agrees intent = true) :=
          fun hUsable =>
            hFinding (finding_resolvedSucceeded_iff.mpr
              ⟨hStatus, hUsable⟩)
        rw [if_neg hUnusable]
        unfold reconcileAdditions
        split <;> simp_all [Additions.transition]
    · simp
  simp only [Database.onFile, visited, writeReport,
    Database.receive, List.any_append, Bool.or_eq_true,
    hAdded]

------------------------------------------------------------
-- The Loop
------------------------------------------------------------

/- Two payments whose answers name one transaction. -/
def SharesTransaction
    (db : Database)
    (visits : Uuid → Visit)
    (earlier later : PaymentIntent) : Prop :=
  ∃ transactionId,
    backfill db earlier (visits earlier.id) =
        some transactionId ∧
      backfill db later (visits later.id) =
        some transactionId

/- The payment reconciled with nothing before it. -/
def alone
    (lockRead : LockRead)
    (providerName : String)
    (visits : Uuid → Visit)
    (db : Database)
    (intent : PaymentIntent) : Database :=
  (reconcilePayment lockRead providerName db (some intent)
    intent.id intent.merchantId (visits intent.id)).1

/-
  Some visits into a pass that began at `db`, with the
  payments yet to come and those already visited.
-/
structure Passing
    (providerName : String)
    (visits : Uuid → Visit)
    (db now : Database)
    (past rest : List PaymentIntent) : Prop where
  keys : now.keys = db.keys
  nodup : (now.payments.map (·.id)).Nodup
  records :
    ∀ intent ∈ rest,
      now.recordOf intent.id = db.recordOf intent.id
  onFile :
    ∀ transactionId,
      now.onFile providerName (some transactionId) = true ↔
        db.onFile providerName (some transactionId) = true ∨
          ∃ intent ∈ past,
            backfill db intent (visits intent.id) =
              some transactionId

variable {visits : Uuid → Visit}
variable {now : Database}
variable {past rest : List PaymentIntent}

/- A visit takes a pass one payment further. -/
theorem Passing.advance
    (hPassing :
      Passing providerName visits db now past
        (intent :: rest))
    (hApart : ∀ other ∈ rest, other.id ≠ intent.id)
    (hStatus : intent.status = .unknown) :
    Passing providerName visits db
      (visited now intent providerName (visits intent.id))
      (intent :: past) rest where
  keys := hPassing.keys
  nodup := by
    have hIds :=
      receive_paymentIds now intent
        (visitAdditions now intent providerName
          (visits intent.id))
    have hNodup := hPassing.nodup
    rw [← hIds] at hNodup
    exact hNodup
  records := by
    intro other hOther
    rw [visited_recordOf_of_ne now providerName
      (visits intent.id) (hApart other hOther)]
    exact hPassing.records other
      (List.mem_cons_of_mem intent hOther)
  onFile := by
    intro transactionId
    rw [visited_onFile now intent providerName
        (visits intent.id) hStatus,
      hPassing.onFile, backfill_congr hPassing.keys]
    simp only [List.mem_cons, exists_eq_or_imp]
    rw [or_assoc]
    exact or_congr_right or_comm

/- Where a pass stops, if it does not reach its end. -/
def Stops
    (providerName : String)
    (visits : Uuid → Visit)
    (db : Database)
    (past : List PaymentIntent)
    (intent : PaymentIntent) : Prop :=
  LookupRaises db intent (visits intent.id) ∨
    db.onFile providerName
        (backfill db intent (visits intent.id)) = true ∨
    ∃ earlier ∈ past,
      SharesTransaction db visits earlier intent

/- A payment is stopped at for what the pass has stored. -/
theorem Passing.stops_iff
    (hPassing :
      Passing providerName visits db now past rest)
    (intent : PaymentIntent) :
    (LookupRaises now intent (visits intent.id) ∨
        now.onFile providerName
            (backfill now intent (visits intent.id)) =
          true) ↔
      Stops providerName visits db past intent := by
  have hRaises :
      LookupRaises now intent (visits intent.id) ↔
        LookupRaises db intent (visits intent.id) := by
    unfold LookupRaises
    rw [answerTo_congr hPassing.keys]
  rw [hRaises, backfill_congr hPassing.keys]
  unfold Stops SharesTransaction
  cases hBackfill :
      backfill db intent (visits intent.id) with
  | none => simp [Database.onFile]
  | some transactionId =>
      rw [hPassing.onFile]
      simp

/- What a pass has done when it ends. -/
structure Split
    (lockRead : LockRead)
    (providerName : String)
    (visits : Uuid → Visit)
    (db now ended : Database)
    (past before after : List PaymentIntent) : Prop where
  -- the payments it came to an end with
  reconciled :
    ∀ intent ∈ before,
      ended.recordOf intent.id =
        (visited db intent providerName
          (visits intent.id)).recordOf intent.id
  answered :
    ∀ intent ∈ before,
      ¬ LookupRaises db intent (visits intent.id) ∧
        db.onFile providerName
          (backfill db intent (visits intent.id)) = false
  apart :
    before.Pairwise (fun earlier later =>
      ¬ SharesTransaction db visits earlier later)
  fresh :
    ∀ intent ∈ before,
      ∀ earlier ∈ past,
        ¬ SharesTransaction db visits earlier intent
  -- everything else
  untouched :
    ∀ paymentId,
      paymentId ∉ before.map (·.id) →
        ended.recordOf paymentId = now.recordOf paymentId
  attempts :
    ended.attempts =
      now.attempts ++
        before.flatMap (fun intent =>
          (visitAdditions db intent providerName
            (visits intent.id)).attempts)
  transactions :
    ended.providerTransactions =
      now.providerTransactions ++
        before.flatMap (fun intent =>
          (visitAdditions db intent providerName
            (visits intent.id)).transactions)
  stopped :
    ∀ intent ∈ after.head?,
      Stops providerName visits db (before ++ past) intent

/- One more visit, before the rest of the pass. -/
theorem Split.cons
    {before after : List PaymentIntent}
    (hSplit :
      Split lockRead providerName visits db
        (visited now intent providerName (visits intent.id))
        ended (intent :: past) before after)
    (hPassing :
      Passing providerName visits db now past
        (intent :: rest))
    (hBefore : ∀ other ∈ before, other.id ≠ intent.id)
    (hGoes : ¬ Stops providerName visits db past intent) :
    Split lockRead providerName visits db now ended past
      (intent :: before) after where
  reconciled := by
    rw [List.forall_mem_cons]
    refine ⟨?_, hSplit.reconciled⟩
    have hOnce : intent.id ∉ before.map (·.id) := by
      intro hMem
      obtain ⟨other, hOther, hSame⟩ := List.mem_map.mp hMem
      exact hBefore other hOther hSame
    rw [hSplit.untouched intent.id hOnce]
    exact visited_recordOf_congr hPassing.keys
      (hPassing.records intent List.mem_cons_self)
      providerName (visits intent.id)
  answered := by
    rw [List.forall_mem_cons]
    refine ⟨⟨fun hRaises => hGoes (.inl hRaises), ?_⟩,
      hSplit.answered⟩
    rw [← Bool.not_eq_true]
    exact fun hOnFile => hGoes (.inr (.inl hOnFile))
  apart := by
    rw [List.pairwise_cons]
    exact ⟨fun other hOther =>
      hSplit.fresh other hOther intent List.mem_cons_self,
      hSplit.apart⟩
  fresh := by
    rw [List.forall_mem_cons]
    constructor
    · intro earlier hEarlier hShares
      exact hGoes (.inr (.inr ⟨earlier, hEarlier, hShares⟩))
    · intro other hOther earlier hEarlier
      exact hSplit.fresh other hOther earlier
        (List.mem_cons_of_mem intent hEarlier)
  untouched := by
    intro paymentId hNot
    rw [List.map_cons, List.mem_cons, not_or] at hNot
    rw [hSplit.untouched paymentId hNot.2,
      visited_recordOf_of_ne now providerName
        (visits intent.id) hNot.1]
  attempts := by
    have hSame :=
      visitAdditions_congr hPassing.keys
        (hPassing.records intent List.mem_cons_self)
        providerName (visits intent.id)
    rw [hSplit.attempts, List.flatMap_cons, ← hSame,
      ← List.append_assoc]
    rfl
  transactions := by
    have hSame :=
      visitAdditions_congr hPassing.keys
        (hPassing.records intent List.mem_cons_self)
        providerName (visits intent.id)
    rw [hSplit.transactions, List.flatMap_cons, ← hSame,
      ← List.append_assoc]
    rfl
  stopped := by
    intro stopped hHead
    rcases hSplit.stopped stopped hHead with
      hRaises | hOnFile | ⟨earlier, hEarlier, hShares⟩
    · exact .inl hRaises
    · exact .inr (.inl hOnFile)
    · refine .inr (.inr ⟨earlier, ?_, hShares⟩)
      simp only [List.mem_append, List.mem_cons] at hEarlier ⊢
      tauto

/- By induction on the payments still to come. -/
theorem reconcileEach_splits
    (lockRead : LockRead)
    (hPassing :
      Passing providerName visits db now past rest)
    (hNodup : (rest.map (·.id)).Nodup)
    (hFound : ∀ intent ∈ rest, Found db intent) :
    ∃ before after,
      rest = before ++ after ∧
        Split lockRead providerName visits db now
          (reconcileEach lockRead providerName visits now
            rest).1 past before after := by
  induction rest generalizing now past with
  | nil =>
      exact ⟨[], [], rfl,
        { reconciled := by simp
          answered := by simp
          apart := List.Pairwise.nil
          fresh := by simp
          untouched := fun _ _ => rfl
          attempts := (List.append_nil _).symm
          transactions := (List.append_nil _).symm
          stopped := by simp }⟩
  | cons intent rest ih =>
      have hHere : Found now intent :=
        (hFound intent (List.mem_cons_self)).congr
          hPassing.nodup
          (hPassing.records intent (List.mem_cons_self))
      rw [List.map_cons, List.nodup_cons] at hNodup
      by_cases hStops :
          Stops providerName visits db past intent
      · -- the exception ends the pass here
        obtain ⟨failure, hFails⟩ :
            ∃ failure,
              reconcilePayment lockRead providerName now
                  (some intent) intent.id intent.merchantId
                  (visits intent.id) =
                (now, .error failure) :=
          reconcilePayment_fails hHere
            ((hPassing.stops_iff intent).mpr hStops)
        refine ⟨[], intent :: rest, rfl,
          { reconciled := by simp
            answered := by simp
            apart := List.Pairwise.nil
            fresh := by simp
            untouched := ?_
            attempts := ?_
            transactions := ?_
            stopped := ?_ }⟩
        · intro paymentId _
          simp only [reconcileEach, hFails]
        · simp [reconcileEach, hFails]
        · simp [reconcileEach, hFails]
        · intro stopped hHead
          cases hHead
          exact hStops
      · -- the visit comes to an end, and the loop goes on
        have hGoes :=
          mt (hPassing.stops_iff intent).mp hStops
        rw [not_or, Bool.not_eq_true] at hGoes
        have hEnds :
            reconcilePayment lockRead providerName now
                (some intent) intent.id intent.merchantId
                (visits intent.id) =
              (visited now intent providerName
                  (visits intent.id), .ok _) :=
          reconcilePayment_succeeds hHere hGoes.1 hGoes.2
        have hApart : ∀ other ∈ rest, other.id ≠ intent.id := by
          intro other hOther hSame
          exact hNodup.1
            (List.mem_map.mpr ⟨other, hOther, hSame⟩)
        have hLoop :
            (reconcileEach lockRead providerName visits now
                (intent :: rest)).1 =
              (reconcileEach lockRead providerName visits
                (visited now intent providerName
                  (visits intent.id)) rest).1 := by
          simp only [reconcileEach, hEnds]
          split
          · rename_i hRest
            rw [hRest]
          · rename_i hRest
            rw [hRest]
        obtain ⟨before, after, hRest, hSplit⟩ :=
          ih (hPassing.advance hApart hHere.status) hNodup.2
            (fun other hOther =>
              hFound other (List.mem_cons_of_mem _ hOther))
        rw [← hLoop] at hSplit
        have hBefore :
            ∀ other ∈ before, other.id ≠ intent.id :=
          fun other hOther =>
            hApart other (by simp [hRest, hOther])
        refine ⟨intent :: before, after, by rw [hRest]; rfl,
          hSplit.cons hPassing hBefore hStops⟩

------------------------------------------------------------
-- Transactions Of A Pass
------------------------------------------------------------

/- The ids a pass draws for its attempts are new. -/
structure FreshAttempts
    (db : Database)
    (visits : Uuid → Visit)
    (payments : List PaymentIntent) : Prop where
  attempts :
    ∀ intent ∈ payments,
      ∀ attempt ∈ db.attempts,
        attempt.id ≠ (visits intent.id).draw.attempt
  transactions :
    ∀ intent ∈ payments,
      ∀ row ∈ db.providerTransactions,
        row.paymentAttemptId ≠
          (visits intent.id).draw.attempt
  apart :
    ∀ intent ∈ payments,
      ∀ other ∈ payments,
        (visits intent.id).draw.attempt =
            (visits other.id).draw.attempt →
          intent.id = other.id

theorem FreshAttempts.of_subset
    {payments few : List PaymentIntent}
    (hFresh : FreshAttempts db visits payments)
    (hFew : few ⊆ payments) :
    FreshAttempts db visits few where
  attempts := fun intent hIntent =>
    hFresh.attempts intent (hFew hIntent)
  transactions := fun intent hIntent =>
    hFresh.transactions intent (hFew hIntent)
  apart := fun intent hIntent other hOther =>
    hFresh.apart intent (hFew hIntent) other (hFew hOther)

/- Of payments with ids of their own, one is the payment. -/
theorem flatMap_own
    {payments : List PaymentIntent}
    (rows : PaymentIntent → List ProviderTransaction)
    (hNodup : (payments.map (·.id)).Nodup)
    (hIntent : intent ∈ payments) :
    payments.flatMap (fun other =>
        if other.id = intent.id then rows other else []) =
      rows intent := by
  induction payments with
  | nil => cases hIntent
  | cons head payments ih =>
      rw [List.map_cons, List.nodup_cons] at hNodup
      rw [List.flatMap_cons]
      rcases List.mem_cons.mp hIntent with rfl | hTail
      · have hOthers :
            payments.flatMap (fun other =>
              if other.id = intent.id then
                rows other
              else
                []) = [] := by
          rw [List.flatMap_eq_nil_iff]
          intro other hOther
          refine if_neg ?_
          intro hSame
          exact hNodup.1
            (List.mem_map.mpr ⟨other, hOther, hSame⟩)
        rw [if_pos rfl, hOthers, List.append_nil]
      · have hHead : head.id ≠ intent.id := by
          intro hSame
          exact hNodup.1
            (List.mem_map.mpr ⟨intent, hTail, hSame.symm⟩)
        rw [if_neg hHead, List.nil_append,
          ih hNodup.2 hTail]

/- A transaction on file is at no attempt of a visit. -/
theorem any_attempts_of_old
    {filed : Database}
    {payments : List PaymentIntent}
    {row : ProviderTransaction}
    (hAttempts :
      filed.attempts =
        db.attempts ++
          payments.flatMap (fun intent =>
            (visitAdditions db intent providerName
              (visits intent.id)).attempts))
    (hFresh : FreshAttempts db visits payments)
    (hRow : row ∈ db.providerTransactions)
    (paymentId : Uuid) :
    filed.attempts.any (fun attempt =>
        attempt.paymentIntentId = paymentId &&
          attempt.id = row.paymentAttemptId) =
      db.attempts.any (fun attempt =>
        attempt.paymentIntentId = paymentId &&
          attempt.id = row.paymentAttemptId) := by
  rw [hAttempts, List.any_append, Bool.or_eq_left_iff_imp,
    List.any_eq_true]
  rintro ⟨attempt, hAttempt, hBoth⟩
  rcases List.mem_flatMap.mp hAttempt with
    ⟨intent, hIntent, hMem⟩
  rw [Bool.and_eq_true, decide_eq_true_eq,
    decide_eq_true_eq,
    (visitAdditions_drawn db intent providerName
      (visits intent.id)).attempts attempt hMem] at hBoth
  exact absurd hBoth.2.symm
    (hFresh.transactions intent hIntent row hRow)

/- The transaction of a visit is at its payment's attempt. -/
theorem any_attempts_of_own
    {filed : Database}
    {payments : List PaymentIntent}
    {row : ProviderTransaction}
    (hAttempts :
      filed.attempts =
        db.attempts ++
          payments.flatMap (fun intent =>
            (visitAdditions db intent providerName
              (visits intent.id)).attempts))
    (hFresh : FreshAttempts db visits payments)
    (hIntent : intent ∈ payments)
    (hRow :
      row ∈
        (visitAdditions db intent providerName
          (visits intent.id)).transactions)
    (paymentId : Uuid) :
    filed.attempts.any (fun attempt =>
        attempt.paymentIntentId = paymentId &&
          attempt.id = row.paymentAttemptId) = true ↔
      intent.id = paymentId := by
  have hDrawn :=
    visitAdditions_drawn db intent providerName
      (visits intent.id)
  rcases hDrawn.transactions row hRow with
    ⟨hNamed, hNonempty⟩
  rw [List.any_eq_true, hAttempts]
  constructor
  · rintro ⟨attempt, hAttempt, hBoth⟩
    rw [Bool.and_eq_true, decide_eq_true_eq,
      decide_eq_true_eq, hNamed] at hBoth
    rcases List.mem_append.mp hAttempt with hOld | hFiled
    · exact absurd hBoth.2
        (hFresh.attempts intent hIntent attempt hOld)
    · rcases List.mem_flatMap.mp hFiled with
        ⟨other, hOther, hMem⟩
      have hPayment :=
        (visitAdditions_concern db other providerName
          (visits other.id)).attempts attempt hMem
      have hDraw :=
        (visitAdditions_drawn db other providerName
          (visits other.id)).attempts attempt hMem
      have hSame :=
        hFresh.apart intent hIntent other hOther
          (hBoth.2.symm.trans hDraw)
      exact hSame.trans (hPayment.symm.trans hBoth.1)
  · intro hOwn
    rcases List.exists_mem_of_ne_nil _ hNonempty with
      ⟨attempt, hAttempt⟩
    have hPayment :=
      (visitAdditions_concern db intent providerName
        (visits intent.id)).attempts attempt hAttempt
    refine ⟨attempt,
      List.mem_append_right _
        (List.mem_flatMap.mpr
          ⟨intent, hIntent, hAttempt⟩), ?_⟩
    simp [hPayment, hOwn, hDrawn.attempts attempt hAttempt,
      hNamed]

/- What some visits file is found at their own payments. -/
theorem transactionsOf_filed
    {filed : Database}
    {payments : List PaymentIntent}
    (hAttempts :
      filed.attempts =
        db.attempts ++
          payments.flatMap (fun intent =>
            (visitAdditions db intent providerName
              (visits intent.id)).attempts))
    (hTransactions :
      filed.providerTransactions =
        db.providerTransactions ++
          payments.flatMap (fun intent =>
            (visitAdditions db intent providerName
              (visits intent.id)).transactions))
    (hFresh : FreshAttempts db visits payments)
    (paymentId : Uuid) :
    filed.transactionsOf paymentId =
      db.transactionsOf paymentId ++
        payments.flatMap (fun intent =>
          if intent.id = paymentId then
            (visitAdditions db intent providerName
              (visits intent.id)).transactions
          else
            []) := by
  have hNew :
      ∀ intent ∈ payments,
        ((visitAdditions db intent providerName
            (visits intent.id)).transactions.filter
          (fun row =>
            filed.attempts.any (fun attempt =>
              attempt.paymentIntentId = paymentId &&
                attempt.id = row.paymentAttemptId))) =
          if intent.id = paymentId then
            (visitAdditions db intent providerName
              (visits intent.id)).transactions
          else
            [] := by
    intro intent hIntent
    by_cases hOwn : intent.id = paymentId
    · rw [if_pos hOwn, List.filter_eq_self]
      intro row hRow
      exact (any_attempts_of_own hAttempts hFresh hIntent
        hRow paymentId).mpr hOwn
    · rw [if_neg hOwn, List.filter_eq_nil_iff]
      intro row hRow hFound
      exact hOwn ((any_attempts_of_own hAttempts hFresh
        hIntent hRow paymentId).mp hFound)
  unfold Database.transactionsOf
  rw [hTransactions, List.filter_append,
    List.filter_flatMap, List.flatMap_congr hNew,
    List.filter_congr (fun row hRow =>
      any_attempts_of_old hAttempts hFresh hRow paymentId)]

/- A visit on its own files what it files in a pass. -/
theorem Split.transactionsOf
    {before after payments : List PaymentIntent}
    (hSplit :
      Split lockRead providerName visits db db ended past
        before after)
    (hFresh : FreshAttempts db visits payments)
    (hAll : payments = before ++ after)
    (hNodup : (payments.map (·.id)).Nodup) :
    (∀ intent ∈ before,
      ended.transactionsOf intent.id =
        (visited db intent providerName
          (visits intent.id)).transactionsOf intent.id) ∧
      ∀ intent ∈ after,
        ended.transactionsOf intent.id =
          db.transactionsOf intent.id := by
  subst hAll
  rw [List.map_append, List.nodup_append] at hNodup
  have hBefore : FreshAttempts db visits before :=
    hFresh.of_subset (List.subset_append_left before after)
  have hFiled :=
    transactionsOf_filed hSplit.attempts hSplit.transactions
      hBefore
  constructor
  · intro intent hIntent
    have hOne : FreshAttempts db visits [intent] :=
      hBefore.of_subset (by simpa using hIntent)
    have hAttempts :
        (visited db intent providerName
            (visits intent.id)).attempts =
          db.attempts ++
            [intent].flatMap (fun intent =>
              (visitAdditions db intent providerName
                (visits intent.id)).attempts) := by
      simp [visited, writeReport, Database.receive]
    have hTransactions :
        (visited db intent providerName
            (visits intent.id)).providerTransactions =
          db.providerTransactions ++
            [intent].flatMap (fun intent =>
              (visitAdditions db intent providerName
                (visits intent.id)).transactions) := by
      simp [visited, writeReport, Database.receive]
    have hOwn :=
      flatMap_own
        (fun intent =>
          (visitAdditions db intent providerName
            (visits intent.id)).transactions)
        hNodup.1 hIntent
    rw [hFiled, hOwn,
      transactionsOf_filed hAttempts hTransactions hOne]
    simp
  · intro intent hIntent
    rw [hFiled, List.append_right_eq_self,
      List.flatMap_eq_nil_iff]
    intro other hOther
    refine if_neg ?_
    intro hSame
    exact hNodup.2.2 other.id (List.mem_map_of_mem hOther)
      intent.id (List.mem_map_of_mem hIntent) hSame

------------------------------------------------------------
-- Main Theorem
------------------------------------------------------------

/- A pass leaves a payment in doubt and reports so. -/
structure RecordedStillUnknown
    (db ended : Database)
    (paymentId : Uuid) : Prop where
  status :
    ∀ row ∈ (ended.recordOf paymentId).payments,
      row.status = .unknown
  report :
    ∃ added,
      (ended.recordOf paymentId).reports =
          (db.recordOf paymentId).reports ++ added ∧
        ∃ report ∈ added, report.result = .stillUnknown

/-
  A payment whose lookup answers ends as if it were alone,
  with the same provider transactions if the ids drawn for
  attempts are new, and any other one ends in doubt, with a
  report of it.
-/
def PassIndependent
    (lockRead : LockRead)
    (providerName : String)
    (db : Database)
    (scan : Table.Scan PaymentIntent)
    (merchantId : Option Uuid)
    (visits : Uuid → Visit) : Prop :=
  ∀ intent ∈
      findPaymentsNeedingReconciliation db scan merchantId,
    (¬ LookupRaises db intent (visits intent.id) →
      (runReconciliationPass lockRead providerName db scan
          merchantId visits).1.recordOf intent.id =
        (alone lockRead providerName visits db
          intent).recordOf intent.id ∧
      (FreshAttempts db visits
          (findPaymentsNeedingReconciliation db scan
            merchantId) →
        (runReconciliationPass lockRead providerName db scan
            merchantId visits).1.transactionsOf intent.id =
          (alone lockRead providerName visits db
            intent).transactionsOf intent.id)) ∧
    (LookupRaises db intent (visits intent.id) →
      RecordedStillUnknown db
        (runReconciliationPass lockRead providerName db scan
          merchantId visits).1 intent.id)

/- What may precede a payment that can be reconciled. -/
def Harmless
    (providerName : String)
    (visits : Uuid → Visit)
    (db : Database)
    (earlier later : PaymentIntent) : Prop :=
  db.onFile providerName
      (backfill db later (visits later.id)) = false →
    db.onFile providerName
        (backfill db earlier (visits earlier.id)) = false ∧
      ¬ SharesTransaction db visits earlier later

section Runs

variable {config : Config}
variable {labels : List Label}
variable {system : System}

/- The payments of a pass, in a reachable state. -/
theorem found_of_pass
    (hRun : exec (step config) {} labels = some system)
    (scan : Table.Scan PaymentIntent)
    (merchantId : Option Uuid) :
    ∀ intent ∈
        findPaymentsNeedingReconciliation system.db scan
          merchantId,
      Found system.db intent := by
  have hLifecycle := lifecycle_of_exec hRun
  intro intent hIntent
  unfold findPaymentsNeedingReconciliation at hIntent
  rw [scan.mem_visit, List.mem_filter, Bool.and_eq_true,
    decide_eq_true_eq] at hIntent
  refine
    { nodup := hLifecycle.held.paymentIds
      stored := hIntent.1
      status := hIntent.2.1
      free := ?_ }
  unfold Database.attemptTaken
  rw [List.any_eq_false]
  intro attempt hAttempt hTaken
  obtain ⟨hOwner, hNumber⟩ := of_decide_eq_true hTaken
  have hLess := hLifecycle.numbered attempt hAttempt
  rw [hOwner, hNumber] at hLess
  exact lt_irrefl _ hLess

theorem nodup_of_pass
    (hRun : exec (step config) {} labels = some system)
    (scan : Table.Scan PaymentIntent)
    (merchantId : Option Uuid) :
    ((findPaymentsNeedingReconciliation system.db scan
      merchantId).map (·.id)).Nodup := by
  have hNodup := (lifecycle_of_exec hRun).held.paymentIds
  have hPerm :=
    (scan.perm (system.db.payments.filter (fun intent =>
      intent.status = .unknown &&
        merchantId.all (intent.merchantId = ·)))).map (·.id)
  exact hPerm.nodup_iff.mpr
    (hNodup.sublist (List.filter_sublist.map _))

/- How far the pass over a reachable state gets. -/
theorem pass_splits
    (hRun : exec (step config) {} labels = some system)
    (scan : Table.Scan PaymentIntent)
    (merchantId : Option Uuid)
    (visits : Uuid → Visit) :
    ∃ before after,
      findPaymentsNeedingReconciliation system.db scan
          merchantId = before ++ after ∧
        Split config.lockRead config.providerName visits
          system.db system.db
          (runReconciliationPass config.lockRead
            config.providerName system.db scan merchantId
            visits).1 [] before after := by
  have hFound := found_of_pass hRun scan merchantId
  exact reconcileEach_splits config.lockRead
    { keys := rfl
      nodup := (lifecycle_of_exec hRun).held.paymentIds
      records := fun _ _ => rfl
      onFile := by simp }
    (nodup_of_pass hRun scan merchantId) hFound

/- Alone, a payment that can be reconciled gets a report. -/
theorem alone_recordOf
    (lockRead : LockRead)
    (visits : Uuid → Visit)
    (hFound : Found db intent)
    (hAnswers : ¬ LookupRaises db intent (visits intent.id))
    (hFresh :
      db.onFile providerName
        (backfill db intent (visits intent.id)) = false) :
    alone lockRead providerName visits db intent =
      visited db intent providerName (visits intent.id) := by
  unfold alone
  rw [reconcilePayment_succeeds hFound hAnswers hFresh]
  rfl

theorem alone_of_onFile
    (lockRead : LockRead)
    (visits : Uuid → Visit)
    (hFound : Found db intent)
    (hOnFile :
      db.onFile providerName
        (backfill db intent (visits intent.id)) = true) :
    alone lockRead providerName visits db intent = db := by
  obtain ⟨failure, hFails⟩ :
      ∃ failure,
        reconcilePayment lockRead providerName db
            (some intent) intent.id intent.merchantId
            (visits intent.id) = (db, .error failure) :=
    reconcilePayment_fails hFound (.inr hOnFile)
  unfold alone
  rw [hFails]

/- The rows of a payment the pass did not come to. -/
theorem Split.untouched_of_after
    {before after : List PaymentIntent}
    (hSplit :
      Split lockRead providerName visits db now ended past
        before after)
    (hNodup : ((before ++ after).map (·.id)).Nodup)
    (hAfter : intent ∈ after) :
    ended.recordOf intent.id = now.recordOf intent.id := by
  apply hSplit.untouched
  intro hBefore
  rw [List.map_append, List.nodup_append] at hNodup
  exact hNodup.2.2 intent.id hBefore intent.id
    (List.mem_map_of_mem hAfter) rfl

/- A raising lookup is never recorded. -/
theorem answers_of_independent
    (hRun : exec (step config) {} labels = some system)
    (scan : Table.Scan PaymentIntent)
    (merchantId : Option Uuid)
    (hIndependent :
      PassIndependent config.lockRead config.providerName
        system.db scan merchantId visits)
    (hIntent :
      intent ∈
        findPaymentsNeedingReconciliation system.db scan
          merchantId) :
    ¬ LookupRaises system.db intent (visits intent.id) := by
  intro hRaises
  obtain ⟨before, after, hList, hSplit⟩ :=
    pass_splits hRun scan merchantId visits
  have hNodup := nodup_of_pass hRun scan merchantId
  have hMem := hIntent
  rw [hList] at hNodup hMem
  have hAfter : intent ∈ after := by
    rcases List.mem_append.mp hMem with hBefore | hAfter
    · exact absurd hRaises (hSplit.answered intent hBefore).1
    · exact hAfter
  have hSame := hSplit.untouched_of_after hNodup hAfter
  obtain ⟨added, hReports, report, hReport, -⟩ :=
    ((hIndependent intent hIntent).2 hRaises).report
  rw [hSame, List.self_eq_append_right] at hReports
  rw [hReports] at hReport
  cases hReport

/- Behind the stop of a harmless pass everything is stored. -/
theorem onFile_of_after
    {before after : List PaymentIntent}
    (hSplit :
      Split lockRead providerName visits db now ended []
        before after)
    (hHarmless :
      (before ++ after).Pairwise
        (Harmless providerName visits db))
    (hAnswers :
      ∀ other ∈ after,
        ¬ LookupRaises db other (visits other.id))
    (hAfter : intent ∈ after) :
    db.onFile providerName
      (backfill db intent (visits intent.id)) = true := by
  rw [List.pairwise_append] at hHarmless
  obtain ⟨-, hRest, hAcross⟩ := hHarmless
  cases after with
  | nil => cases hAfter
  | cons stop rest =>
      have hStop :
          db.onFile providerName
            (backfill db stop (visits stop.id)) = true := by
        rcases hSplit.stopped stop rfl with
          hRaises | hOnFile | ⟨earlier, hEarlier, hShares⟩
        · exact absurd hRaises
            (hAnswers stop List.mem_cons_self)
        · exact hOnFile
        · rw [List.append_nil] at hEarlier
          by_contra hFresh
          rw [Bool.not_eq_true] at hFresh
          exact (hAcross earlier hEarlier stop
            List.mem_cons_self hFresh).2 hShares
      rcases List.mem_cons.mp hAfter with rfl | hBehind
      · exact hStop
      · by_contra hFresh
        rw [Bool.not_eq_true] at hFresh
        rw [List.pairwise_cons] at hRest
        have hEarlier := (hRest.1 intent hBehind hFresh).1
        rw [hStop] at hEarlier
        cases hEarlier

/- A payment that could be reconciled was come to. -/
theorem before_of_independent
    (hRun : exec (step config) {} labels = some system)
    (scan : Table.Scan PaymentIntent)
    (merchantId : Option Uuid)
    {before after : List PaymentIntent}
    (hIndependent :
      PassIndependent config.lockRead config.providerName
        system.db scan merchantId visits)
    (hList :
      findPaymentsNeedingReconciliation system.db scan
          merchantId = before ++ after)
    (hSplit :
      Split config.lockRead config.providerName visits
        system.db system.db
        (runReconciliationPass config.lockRead
          config.providerName system.db scan merchantId
          visits).1 [] before after)
    (hAfter : intent ∈ after) :
    system.db.onFile config.providerName
      (backfill system.db intent (visits intent.id)) =
        true := by
  by_contra hFresh
  rw [Bool.not_eq_true] at hFresh
  have hIntent :
      intent ∈
        findPaymentsNeedingReconciliation system.db scan
          merchantId := by
    rw [hList]
    exact List.mem_append_right before hAfter
  have hAnswers :=
    answers_of_independent hRun scan merchantId hIndependent
      hIntent
  have hNodup := nodup_of_pass hRun scan merchantId
  rw [hList] at hNodup
  have hSame := hSplit.untouched_of_after hNodup hAfter
  have hAlone :
      alone config.lockRead config.providerName visits
          system.db intent =
        visited system.db intent config.providerName
          (visits intent.id) :=
    alone_recordOf config.lockRead visits
      (found_of_pass hRun scan merchantId intent hIntent)
      hAnswers hFresh
  have hEnds := ((hIndependent intent hIntent).1 hAnswers).1
  rw [hSame, hAlone] at hEnds
  -- but the visit would have left its report
  have hReports := congrArg Database.reports hEnds
  rw [visited_reports, List.self_eq_append_right] at hReports
  cases hReports

/-
  The payments of a pass are reconciled apart exactly when no
  lookup raises, no answer names a transaction that is on
  file before one that does not, and no two usable answers
  name one transaction.
-/
theorem pass_is_independent_iff
    (hRun : exec (step config) {} labels = some system)
    (scan : Table.Scan PaymentIntent)
    (merchantId : Option Uuid)
    (visits : Uuid → Visit) :
    PassIndependent config.lockRead config.providerName
        system.db scan merchantId visits ↔
      (∀ intent ∈
          findPaymentsNeedingReconciliation system.db scan
            merchantId,
        ¬ LookupRaises system.db intent
          (visits intent.id)) ∧
      (findPaymentsNeedingReconciliation system.db scan
        merchantId).Pairwise
          (Harmless config.providerName visits
            system.db) := by
  obtain ⟨before, after, hList, hSplit⟩ :=
    pass_splits hRun scan merchantId visits
  have hNodup := nodup_of_pass hRun scan merchantId
  rw [hList] at hNodup
  constructor
  · intro hIndependent
    refine ⟨fun intent hIntent =>
      answers_of_independent hRun scan merchantId
        hIndependent hIntent, ?_⟩
    have hAfter :
        ∀ intent ∈ after,
          system.db.onFile config.providerName
            (backfill system.db intent
              (visits intent.id)) = true :=
      fun intent hIntent =>
        before_of_independent hRun scan merchantId
          hIndependent hList hSplit hIntent
    rw [hList, List.pairwise_append]
    refine ⟨?_, ?_, ?_⟩
    · apply hSplit.apart.imp_of_mem
      intro earlier later hEarlier _ hApart _
      exact ⟨(hSplit.answered earlier hEarlier).2, hApart⟩
    · apply List.pairwise_of_forall_mem_list
      intro earlier _ later hLater hFresh
      rw [hAfter later hLater] at hFresh
      cases hFresh
    · intro earlier _ later hLater hFresh
      rw [hAfter later hLater] at hFresh
      cases hFresh
  · rintro ⟨hAnswers, hHarmless⟩ intent hIntent
    refine ⟨fun hAnswer => ?_,
      fun hRaises => absurd hRaises (hAnswers intent hIntent)⟩
    have hFound :=
      found_of_pass hRun scan merchantId intent hIntent
    have hMem := hIntent
    rw [hList] at hHarmless hMem
    rcases List.mem_append.mp hMem with hBefore | hAfter
    · have hAlone :
          alone config.lockRead config.providerName visits
              system.db intent =
            visited system.db intent config.providerName
              (visits intent.id) :=
        alone_recordOf config.lockRead visits hFound hAnswer
          (hSplit.answered intent hBefore).2
      rw [hAlone]
      exact ⟨hSplit.reconciled intent hBefore,
        fun hFresh =>
          (hSplit.transactionsOf hFresh hList
            (nodup_of_pass hRun scan merchantId)).1 intent
              hBefore⟩
    · -- what the pass does not come to fails alone as well
      have hOnFile :
          system.db.onFile config.providerName
            (backfill system.db intent
              (visits intent.id)) = true :=
        onFile_of_after hSplit hHarmless
          (fun other hOther => hAnswers other (by
            rw [hList]
            exact List.mem_append_right before hOther))
          hAfter
      have hAlone :
          alone config.lockRead config.providerName visits
              system.db intent = system.db :=
        alone_of_onFile config.lockRead visits hFound hOnFile
      rw [hAlone]
      exact ⟨hSplit.untouched_of_after hNodup hAfter,
        fun hFresh =>
          (hSplit.transactionsOf hFresh hList
            (nodup_of_pass hRun scan merchantId)).2 intent
              hAfter⟩

end Runs

/- The provider's answers to payments 1 and 11 are lost. -/
def twoUnknownRun : List Label :=
  unknownRun ++
    [⟨1, .createBegin
        { merchantId := 1
          idempotencyKey := "second"
          amountMinor := 250
          currency := "USD"
          paymentToken := "tok_visa" }, .numbered 11⟩,
      ⟨1, .createProcess, .numbered 12⟩,
      ⟨1, .createAssess, .numbered 13⟩,
      ⟨1, .createAuthorize
        { outcome := .unknown
          providerTransactionId := none
          rawStatus := "timeout" }, .numbered 14⟩,
      ⟨1, .createFinish, .numbered 15⟩]

def secondUnknownPayment : PaymentIntent where
  id := 11
  merchantId := 1
  amountMinor := 250
  currency := "USD"
  merchantReference := none
  status := .unknown
  version := 3
  createdAt := 0

/- Each payment has a transaction of its own. -/
def answeringVisits (paymentId : Uuid) : Visit where
  lookup := fun _ =>
    .ok (.approved
      (if paymentId = 1 then "txn" else "other"))
  draw := .numbered (20 + paymentId)

theorem pass_is_independent_iff_two_answers :
    ∃ system,
      exec (step { sha256 := spellOut }) {} twoUnknownRun =
          some system ∧
        PassIndependent .current "mock" system.db
          .asInserted none answeringVisits := by
  have hRun :
      (exec (step { sha256 := spellOut }) {}
        twoUnknownRun).map (fun system =>
          decide (findPaymentsNeedingReconciliation
                system.db .asInserted none =
              [unknownPayment, secondUnknownPayment] ∧
            backfill system.db unknownPayment
              (answeringVisits 1) = some "txn" ∧
            backfill system.db secondUnknownPayment
              (answeringVisits 11) = some "other" ∧
            system.db.onFile "mock" (some "txn") = false)) =
        some true := by
    decide +kernel
  rcases Option.map_eq_some_iff.mp hRun with
    ⟨system, hExec, hHolds⟩
  rcases of_decide_eq_true hHolds with
    ⟨hList, hFirst, hSecond, hFresh⟩
  refine ⟨system, hExec,
    (pass_is_independent_iff hExec .asInserted none
      answeringVisits).mpr ⟨?_, ?_⟩⟩
  · rintro intent - ⟨failure, hRaises⟩
    obtain ⟨key, -, hLookup⟩ :=
      Option.map_eq_some_iff.mp hRaises
    cases hLookup
  · rw [hList]
    simp only [List.pairwise_cons, List.mem_singleton,
      forall_eq, List.not_mem_nil, false_implies,
      implies_true, List.Pairwise.nil, and_true]
    intro _
    refine ⟨?_, ?_⟩
    · exact (congrArg (system.db.onFile "mock")
        hFirst).trans hFresh
    · rintro ⟨transactionId, hEarlier, hLater⟩
      rw [show unknownPayment.id = 1 from rfl,
        hFirst] at hEarlier
      rw [show secondUnknownPayment.id = 11 from rfl,
        hSecond] at hLater
      cases hEarlier
      revert hLater
      decide

/- The provider raises for payment 1 and answers for 11. -/
def firstRaises (paymentId : Uuid) : Visit where
  lookup := fun _ =>
    if paymentId = 1 then
      .error .external
    else
      .ok (.approved "other")
  draw := .numbered 20

/-
  The pass changes nothing, although the provider answers
  for the second payment and alone it would be resolved.
-/
theorem one_raise_ends_the_pass :
    ∃ system,
      exec (step { sha256 := spellOut }) {} twoUnknownRun =
          some system ∧
        (runReconciliationPass .current "mock" system.db
          .asInserted none firstRaises).1 = system.db ∧
        (alone .current "mock" firstRaises system.db
            secondUnknownPayment).reports.map (·.result) =
          [.resolvedSucceeded] ∧
        ¬ PassIndependent .current "mock" system.db
          .asInserted none firstRaises := by
  have hRun :
      (exec (step { sha256 := spellOut }) {}
        twoUnknownRun).map (fun system =>
          decide (unknownPayment ∈
              findPaymentsNeedingReconciliation system.db
                .asInserted none ∧
            (answerTo system.db unknownPayment
              (firstRaises 1)).isSome ∧
            (runReconciliationPass .current "mock" system.db
              .asInserted none firstRaises).1 = system.db ∧
            (alone .current "mock" firstRaises system.db
                secondUnknownPayment).reports.map
                  (·.result) =
              [.resolvedSucceeded])) =
        some true := by
    decide +kernel
  rcases Option.map_eq_some_iff.mp hRun with
    ⟨system, hExec, hHolds⟩
  rcases of_decide_eq_true hHolds with
    ⟨hFound, hAsked, hUnchanged, hAlone⟩
  refine ⟨system, hExec, hUnchanged, hAlone, ?_⟩
  intro hIndependent
  apply answers_of_independent hExec .asInserted none
    hIndependent hFound
  obtain ⟨answer, hAnswer⟩ :=
    Option.isSome_iff_exists.mp hAsked
  obtain ⟨key, hKey, hLookup⟩ :=
    Option.map_eq_some_iff.mp hAnswer
  refine ⟨.external, ?_⟩
  rw [← show (firstRaises 1).lookup key =
    .error .external from rfl, hLookup]
  exact hAnswer

end PayGuard

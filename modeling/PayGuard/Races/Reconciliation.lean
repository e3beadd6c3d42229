import PayGuard.Races.Departures

/-
  Several reconciliations of one payment.

  A call asks the provider without a lock and then locks the
  payment again, but its session still holds the object it
  read before.  A payment is resolved once where no other
  call holds such an object when one of them resolves it.

  Key definitions include:
    * `Reconciliation`
    * `Doubtful`
    * `SoleResolver`
    * `ResolvedOnce`

  Key theorems include:
    * `reconciliation_resolves_once`
    * `overlapping_reconciliations_resolve_twice`
-/

------------------------------------------------------------
-- The Calls
------------------------------------------------------------

namespace PayGuard

/- The payment to reconcile and the calls that do it. -/
structure Reconciliation where
  paymentId : Uuid
  merchantId : Uuid
  callers : List CallId

/- The labels of these calls, with a definite answer. -/
def Reconciliation.takes
    (reconciliation : Reconciliation)
    (label : Label) : Bool :=
  label.call ∈ reconciliation.callers &&
    match label.action with
    | .reconcileLoad paymentId merchantId =>
        paymentId = reconciliation.paymentId &&
          merchantId = reconciliation.merchantId
    | .reconcileBegin paymentId merchantId _ =>
        paymentId = reconciliation.paymentId &&
          merchantId = reconciliation.merchantId
    | .reconcileNext _ => true
    | .reconcileAnswer result =>
        result.outcome = .succeeded ||
          result.outcome = .declined
    | .reconcileApply => true
    | .reconcileReport => true
    | _ => false

/- The object a call keeps until it locks again. -/
def Call.reconciling : Call → Option PaymentIntent
| .reconcileLoaded intent => some intent
| .reconcileAsking intent _ => some intent
| .reconcileAnswered intent _ => some intent
| _ => none

/- The report a call is about to write or has written. -/
def Call.concluded : Call → Option ReconciliationReport
| .reconcileReporting report => some report
| .done (.report report) => some report
| _ => none

def Database.attemptsOf
    (db : Database)
    (paymentId : Uuid) : List PaymentAttempt :=
  db.attempts.filter (fun attempt =>
    attempt.paymentIntentId = paymentId)

/-
  An `UNKNOWN` payment as the services leave it: its key is
  on record, its attempts are counted from one, and none of
  the calls has begun.
-/
structure Doubtful
    (reconciliation : Reconciliation)
    (row : PaymentIntent)
    (system : System) : Prop where
  awaiting :
    Awaiting system.db .unknown reconciliation.paymentId
      reconciliation.merchantId row
  key :
    ∃ keyRow ∈ system.db.keys,
      keyRow.paymentIntentId =
        some reconciliation.paymentId
  numbered :
    ∀ attempt ∈ system.db.attempts,
      attempt.paymentIntentId = reconciliation.paymentId →
        attempt.attemptNumber <
          nextAttemptNumber system.db
            reconciliation.paymentId
  callers :
    ∀ call ∈ reconciliation.callers,
      system.calls call = .idle

------------------------------------------------------------
-- When One Call Resolves
------------------------------------------------------------

/- The provider transaction is already stored. -/
def Database.onFile
    (db : Database)
    (providerName : String)
    (providerTransactionId : Option String) : Bool :=
  match providerTransactionId with
  | none => false
  | some transactionId =>
      db.providerTransactions.any (fun other =>
        other.providerName = providerName ∧
          other.providerTransactionId = transactionId)

/-
  A call that applies its answer can use it, and no other
  call holds an object of the payment.
-/
def SoleResolver
    (config : Config)
    (reconciliation : Reconciliation)
    (system : System)
    (label : Label) : Prop :=
  match label.action, system.calls label.call with
  | .reconcileApply, .reconcileAnswered intent result =>
      result.agrees intent = true ∧
        (result.outcome = .succeeded →
          system.db.onFile config.providerName
            result.providerTransactionId = false) ∧
        ∀ other ∈ reconciliation.callers,
          other ≠ label.call →
            (system.calls other).reconciling = none
  | _, _ => True

instance
    (config : Config)
    (reconciliation : Reconciliation)
    (system : System)
    (label : Label) :
    Decidable
      (SoleResolver config reconciliation system label) := by
  unfold SoleResolver
  generalize system.calls label.call = position
  generalize label.action = action
  rcases action
  case reconcileApply =>
    rcases position
    case reconcileAnswered intent result =>
      exact inferInstanceAs (Decidable (_ ∧ _ ∧ _))
    all_goals exact inferInstanceAs (Decidable True)
  all_goals exact inferInstanceAs (Decidable True)

/-
  One call resolved the payment: the database is the one its
  resolution committed, but for the reports, and every other
  call reported a match or has not begun.
-/
structure ResolvedOnce
    (config : Config)
    (reconciliation : Reconciliation)
    (row : PaymentIntent)
    (start : System)
    (winner : CallId)
    (system : System) : Prop where
  resolution :
    ∃ result draw db report reports,
      resolve start.db row config.providerName result
          draw = .ok (db, report) ∧
        system.db = { db with reports := reports } ∧
        (system.calls winner).concluded = some report ∧
        (report.result = .resolvedSucceeded ∨
          report.result = .resolvedFailed)
  departed :
    ∃ moved,
      Departed system.db .unknown reconciliation.paymentId
          reconciliation.merchantId moved ∧
        moved.status ≠ .unknown
  attempt :
    ∃ attempt,
      system.db.attemptsOf reconciliation.paymentId =
        start.db.attemptsOf reconciliation.paymentId ++
          [attempt]
  others :
    ∀ other ∈ reconciliation.callers,
      other ≠ winner →
        system.calls other = .idle ∨
          ∃ report,
            (system.calls other).concluded = some report ∧
              report.result = .matched

end PayGuard

------------------------------------------------------------
-- One Resolution
------------------------------------------------------------

namespace PayGuard

variable {config : Config}
variable {reconciliation : Reconciliation}
variable {system next start : System}
variable {row : PaymentIntent}
variable {result : ProviderResult}
variable {draw : Draw}

/- The key of the original request is found. -/
theorem originalIdempotencyKey_isSome
    {db : Database}
    {paymentId : Uuid}
    (hKey :
      ∃ keyRow ∈ db.keys,
        keyRow.paymentIntentId = some paymentId)
    (pick : Uuid) :
    ∃ key, originalIdempotencyKey db paymentId pick =
      some key := by
  rcases hKey with ⟨keyRow, hRow, hPayment⟩
  have hMember :
      keyRow ∈ db.keys.filter (fun row =>
        row.paymentIntentId = some paymentId) := by
    simp [hRow, hPayment]
  have hSome :
      (db.keys.filter (fun row =>
        row.paymentIntentId = some paymentId)).argmin
          (·.createdAt) ≠ none := by
    rw [ne_eq, List.argmin_eq_none]
    exact List.ne_nil_of_mem hMember
  rcases Option.ne_none_iff_exists'.mp hSome with
    ⟨earliest, hEarliest⟩
  have hFirst : earliest ∈ earliestKeys db paymentId := by
    refine List.mem_filter.mpr
      ⟨List.argmin_mem hEarliest, ?_⟩
    rw [List.all_eq_true]
    intro other hOther
    exact decide_eq_true
      (List.le_of_mem_argmin hOther hEarliest)
  unfold originalIdempotencyKey
  cases hHead : (earliestKeys db paymentId).head? with
  | none =>
      rw [List.head?_eq_none_iff] at hHead
      rw [hHead] at hFirst
      cases hFirst
  | some head =>
      cases (earliestKeys db paymentId).find?
          (fun row => row.id = pick) with
      | none => exact ⟨head.idempotencyKey, rfl⟩
      | some picked => exact ⟨picked.idempotencyKey, rfl⟩

/- The backfilled attempt takes a free number. -/
theorem insertAttempt_next
    {db : Database}
    {paymentId : Uuid}
    (hNumbered :
      ∀ other ∈ db.attempts,
        other.paymentIntentId = paymentId →
          other.attemptNumber <
            nextAttemptNumber db paymentId)
    (attempt : PaymentAttempt)
    (hPayment : attempt.paymentIntentId = paymentId)
    (hNumber :
      attempt.attemptNumber =
        nextAttemptNumber db paymentId) :
    insertAttempt db attempt =
      .ok { db with attempts := db.attempts ++ [attempt] } := by
  unfold insertAttempt
  rw [if_neg]
  simp only [Bool.not_eq_true, List.any_eq_false,
    decide_eq_true_iff]
  rintro other hOther ⟨hOwner, hSame⟩
  have hLess :=
    hNumbered other hOther (hOwner.trans hPayment)
  omega

/- A fresh provider transaction is stored. -/
theorem insertProviderTransaction_fresh
    {db : Database}
    {providerName : String}
    (hFresh :
      db.onFile providerName
        result.providerTransactionId = false)
    (base : Database)
    (attemptId : Uuid)
    (hBase :
      base.providerTransactions = db.providerTransactions) :
    insertProviderTransaction base attemptId providerName
        result =
      .ok
        { base with
          providerTransactions :=
            base.providerTransactions ++
              result.providerTransactionId.toList.map
                (fun transactionId =>
                  { paymentAttemptId := attemptId
                    providerName := providerName
                    providerTransactionId := transactionId
                    rawStatus := result.rawStatus
                    rawResponse := result.rawResponse }) } := by
  unfold insertProviderTransaction
  unfold Database.onFile at hFresh
  split
  · rename_i hNone
    simp [hNone]
  · rename_i transactionId hId
    simp only [hId] at hFresh ⊢
    rw [if_neg (by rw [hBase, hFresh]; decide)]
    rfl

/- What a resolution commits. -/
structure Resolves
    (reconciliation : Reconciliation)
    (row : PaymentIntent)
    (db db' : Database)
    (report : ReconciliationReport) : Prop where
  departed :
    ∃ moved,
      Departed db' .unknown reconciliation.paymentId
          reconciliation.merchantId moved ∧
        moved.status ≠ .unknown
  attempt :
    ∃ attempt,
      db'.attemptsOf reconciliation.paymentId =
        db.attemptsOf reconciliation.paymentId ++ [attempt]
  report :
    report.result = .resolvedSucceeded ∨
      report.result = .resolvedFailed

theorem attemptsOf_append
    {db db' : Database}
    {paymentId : Uuid}
    {attempt : PaymentAttempt}
    (hAttempts : db'.attempts = db.attempts ++ [attempt])
    (hPayment : attempt.paymentIntentId = paymentId) :
    db'.attemptsOf paymentId =
      db.attemptsOf paymentId ++ [attempt] := by
  unfold Database.attemptsOf
  rw [hAttempts, List.filter_append]
  simp [hPayment]

/- Both resolutions move an `UNKNOWN` payment. -/
theorem applyTransition_unknown
    {db : Database}
    {toStatus : PaymentStatus}
    {eventType : String}
    (hStatus : row.status = .unknown)
    (hTarget :
      toStatus = .succeeded ∨ toStatus = .failed) :
    applyTransition db row toStatus .reconciliation
        eventType draw =
      .ok
        (db.recordTransition row toStatus .reconciliation
            eventType draw,
          row.moveTo toStatus) := by
  unfold applyTransition
  rcases hTarget with rfl | rfl
  · rw [hStatus]
    rfl
  · rw [hStatus]
    rfl

/- A positive answer settles the payment. -/
theorem Doubtful.resolveSucceeded
    (hDoubtful : Doubtful reconciliation row start)
    (providerName : String)
    (draw : Draw)
    (hFresh :
      start.db.onFile providerName
        result.providerTransactionId = false) :
    ∃ db attempt,
      resolveSucceeded start.db row providerName result
          draw = .ok db ∧
        db.attempts = start.db.attempts ++ [attempt] ∧
        attempt.paymentIntentId = row.id ∧
        SameBooks
          (start.db.depart row .succeeded .reconciliation
            "reconciliation.resolved_succeeded" draw) db := by
  have hAwaiting := hDoubtful.awaiting
  have hId := (selectPayment_eq_some hAwaiting.stored).2.1
  have hInsert := insertAttempt_next hDoubtful.numbered
  unfold PayGuard.resolveSucceeded
  simp only
  rw [hInsert _ hId (by rw [hId])]
  simp only [applyTransition_unknown hAwaiting.status
    (.inl rfl)]
  rw [insertProviderTransaction_fresh hFresh]
  · exact ⟨_, _, rfl, rfl, rfl, rfl, rfl, rfl⟩
  · rfl

/- A negative answer closes the payment. -/
theorem Doubtful.resolveFailed
    (hDoubtful : Doubtful reconciliation row start)
    (providerName : String)
    (result : ProviderResult)
    (draw : Draw) :
    ∃ db attempt,
      resolveFailed start.db row providerName result
          draw = .ok db ∧
        db.attempts = start.db.attempts ++ [attempt] ∧
        attempt.paymentIntentId = row.id ∧
        SameBooks
          (start.db.depart row .failed .reconciliation
            "reconciliation.resolved_failed" draw) db := by
  have hAwaiting := hDoubtful.awaiting
  have hId := (selectPayment_eq_some hAwaiting.stored).2.1
  have hNumbered :
      ∀ other ∈ (start.db.recordTransition row .failed
          .reconciliation "reconciliation.resolved_failed"
          draw).attempts,
        other.paymentIntentId = reconciliation.paymentId →
          other.attemptNumber <
            nextAttemptNumber
              (start.db.recordTransition row .failed
                .reconciliation
                "reconciliation.resolved_failed" draw)
              reconciliation.paymentId :=
    hDoubtful.numbered
  unfold PayGuard.resolveFailed
  simp only [applyTransition_unknown hAwaiting.status
    (.inr rfl)]
  rw [insertAttempt_next hNumbered _ hId (by rw [hId]; rfl)]
  exact ⟨_, _, rfl, rfl, rfl, rfl, rfl, rfl⟩

/- A usable answer always resolves the payment. -/
theorem Doubtful.resolve
    (hDoubtful : Doubtful reconciliation row start)
    (providerName : String)
    (result : ProviderResult)
    (draw : Draw)
    (hFresh :
      result.outcome = .succeeded →
        start.db.onFile providerName
          result.providerTransactionId = false) :
    ∃ db report,
      resolve start.db row providerName result draw =
          .ok (db, report) ∧
        Resolves reconciliation row start.db db report := by
  have hAwaiting := hDoubtful.awaiting
  have hId := (selectPayment_eq_some hAwaiting.stored).2.1
  unfold PayGuard.resolve
  by_cases hOutcome : result.outcome = .succeeded
  · rcases hDoubtful.resolveSucceeded providerName draw
        (hFresh hOutcome) with
      ⟨db, attempt, hBody, hAttempts, hPayment, hBooks⟩
    simp only [hOutcome, if_true, hBody]
    refine ⟨db, _, rfl, ?_⟩
    exact
      { departed :=
          ⟨_, hAwaiting.depart (by decide) (fun _ => rfl)
            hBooks, by simp [PaymentIntent.moveTo]⟩
        attempt :=
          ⟨attempt, attemptsOf_append hAttempts
            (hPayment.trans hId)⟩
        report := .inl rfl }
  · rcases hDoubtful.resolveFailed providerName result
        draw with
      ⟨db, attempt, hBody, hAttempts, hPayment, hBooks⟩
    simp only [hOutcome, if_false, hBody]
    refine ⟨db, _, rfl, ?_⟩
    exact
      { departed :=
          ⟨_, hAwaiting.depart (by decide) (by decide)
            hBooks, by simp [PaymentIntent.moveTo]⟩
        attempt :=
          ⟨attempt, attemptsOf_append hAttempts
            (hPayment.trans hId)⟩
        report := .inr rfl }

end PayGuard

------------------------------------------------------------
-- Steps Of The Calls
------------------------------------------------------------

namespace PayGuard

variable {config : Config}
variable {reconciliation : Reconciliation}
variable {system next start : System}
variable {label : Label}
variable {row : PaymentIntent}

/- No call has resolved the payment yet. -/
structure Unresolved
    (reconciliation : Reconciliation)
    (row : PaymentIntent)
    (start system : System) : Prop where
  db : system.db = start.db
  callers :
    ∀ call ∈ reconciliation.callers,
      system.calls call = .idle ∨
        (system.calls call).reconciling = some row
  answers :
    ∀ call ∈ reconciliation.callers,
      ∀ intent result,
        system.calls call =
            .reconcileAnswered intent result →
          result.outcome ≠ .unknown

/- A caller that moves on with the row it has read. -/
theorem Unresolved.become
    {call : CallId}
    {position : Call}
    (hUnresolved :
      Unresolved reconciliation row start system)
    (hPosition : position.reconciling = some row)
    (hAnswer :
      ∀ intent result,
        position = .reconcileAnswered intent result →
          result.outcome ≠ .unknown)
    (hDb : next.db = system.db)
    (hCalls :
      next.calls =
        Function.update system.calls call position) :
    Unresolved reconciliation row start next where
  db := hDb.trans hUnresolved.db
  callers := by
    intro other hOther
    rw [hCalls]
    by_cases hSame : other = call
    · subst hSame
      exact .inr (by simp [hPosition])
    · rw [Function.update_of_ne hSame]
      exact hUnresolved.callers other hOther
  answers := by
    intro other hOther
    rw [hCalls]
    by_cases hSame : other = call
    · subst hSame
      simpa using hAnswer
    · rw [Function.update_of_ne hSame]
      exact hUnresolved.answers other hOther

/- A lock on a doubtful payment yields the row. -/
theorem Doubtful.lockPayment
    (hDoubtful : Doubtful reconciliation row start)
    (lockRead : LockRead)
    (loaded : Option PaymentIntent)
    (hLoaded : loaded = none ∨ loaded = some row) :
    lockPayment lockRead start.db loaded
        reconciliation.paymentId
        reconciliation.merchantId = some row := by
  have hStored := hDoubtful.awaiting.stored
  rcases hLoaded with rfl | rfl
  · rw [lockPayment_unloaded]
    exact hStored
  · unfold PayGuard.lockPayment
    rw [hStored]
    cases lockRead with
    | current => rfl
    | identityMap => simp

/- The first lock of an unresolved payment goes on to ask. -/
theorem Unresolved.reconcileLock
    {call : CallId}
    {loaded : Option PaymentIntent}
    {pick : Uuid}
    (hDoubtful : Doubtful reconciliation row start)
    (hUnresolved :
      Unresolved reconciliation row start system)
    (hLoaded : loaded = none ∨ loaded = some row)
    (hStep :
      reconcileLock config system call loaded
        reconciliation.paymentId reconciliation.merchantId
        pick = some next) :
    Unresolved reconciliation row start next := by
  have hAwaiting := hDoubtful.awaiting
  have hId := (selectPayment_eq_some hAwaiting.stored).2.1
  have hKey := hDoubtful.key
  rw [← hId] at hKey
  rcases originalIdempotencyKey_isSome hKey pick with
    ⟨key, hKey⟩
  unfold PayGuard.reconcileLock at hStep
  split at hStep
  · rw [hUnresolved.db,
      hDoubtful.lockPayment config.lockRead loaded hLoaded]
      at hStep
    simp only [reconcileCheck, hAwaiting.status, hKey]
      at hStep
    cases hStep
    exact hUnresolved.become rfl (by simp) rfl rfl
  · cases hStep

/- An answer that agrees is applied to the row as it is. -/
theorem reconcileApply_of_agrees
    {result : ProviderResult}
    {providerName : String}
    {db : Database}
    {draw : Draw}
    (hStatus : row.status = .unknown)
    (hOutcome : result.outcome ≠ .unknown)
    (hAgrees : result.agrees row = true) :
    reconcileApply db (some row) providerName result draw =
      resolve db row providerName result draw := by
  simp only [ProviderResult.agrees, Bool.and_eq_true,
    decide_eq_true_iff] at hAgrees
  unfold reconcileApply
  simp [hStatus, hOutcome, hAgrees.1, hAgrees.2]

/- The first call to apply its answer wins. -/
theorem Unresolved.reconcileApply
    {call : CallId}
    {intent : PaymentIntent}
    {result : ProviderResult}
    {draw : Draw}
    (hDoubtful : Doubtful reconciliation row start)
    (hUnresolved :
      Unresolved reconciliation row start system)
    (hCaller : call ∈ reconciliation.callers)
    (hCall :
      system.calls call = .reconcileAnswered intent result)
    (hAgrees : result.agrees intent = true)
    (hFresh :
      result.outcome = .succeeded →
        system.db.onFile config.providerName
          result.providerTransactionId = false)
    (hSole :
      ∀ other ∈ reconciliation.callers,
        other ≠ call →
          (system.calls other).reconciling = none)
    (hStep :
      stepReconcileApply config system call draw =
        some next) :
    ResolvedOnce config reconciliation row start call
      next := by
  have hAwaiting := hDoubtful.awaiting
  have hColumns := (selectPayment_eq_some hAwaiting.stored).2
  have hIntent : intent = row := by
    rcases hUnresolved.callers call hCaller with
      hIdle | hReading
    · rw [hCall] at hIdle
      cases hIdle
    · rw [hCall] at hReading
      exact Option.some.inj hReading
  subst hIntent
  rw [hUnresolved.db] at hFresh
  rcases hDoubtful.resolve config.providerName result draw
      hFresh with ⟨db, report, hBody, hResolves⟩
  have hLock :
      lockPayment config.lockRead start.db (some intent)
          intent.id intent.merchantId = some intent := by
    rw [hColumns.1, hColumns.2]
    exact hDoubtful.lockPayment _ _ (.inr rfl)
  unfold stepReconcileApply at hStep
  rw [hCall] at hStep
  simp only [hUnresolved.db, hLock,
    reconcileApply_of_agrees hAwaiting.status
      (hUnresolved.answers call hCaller intent result hCall)
      hAgrees, hBody] at hStep
  split at hStep
  · cases hStep
    exact
      { resolution :=
          ⟨result, draw, db, report, db.reports, hBody, rfl,
            by simp [Call.concluded], hResolves.report⟩
        departed := hResolves.departed
        attempt := hResolves.attempt
        others := by
          intro other hOther hNe
          have hNone := hSole other hOther hNe
          rcases hUnresolved.callers other hOther with
            hIdle | hReading
          · refine .inl ?_
            simp only [System.commit]
            rw [Function.update_of_ne hNe]
            exact hIdle
          · rw [hNone] at hReading
            cases hReading }
  · cases hStep

/- A step of an unresolved payment may resolve it. -/
theorem unresolved_step
    (hDoubtful : Doubtful reconciliation row start)
    (hUnresolved :
      Unresolved reconciliation row start system)
    (hTakes : reconciliation.takes label = true)
    (hSole : SoleResolver config reconciliation system label)
    (hStep : step config system label = some next) :
    Unresolved reconciliation row start next ∨
      ∃ winner ∈ reconciliation.callers,
        ResolvedOnce config reconciliation row start winner
          next := by
  have hAwaiting := hDoubtful.awaiting
  have hColumns := (selectPayment_eq_some hAwaiting.stored).2
  rcases label with ⟨call, action, draw⟩
  simp only [Reconciliation.takes, Bool.and_eq_true,
    decide_eq_true_iff] at hTakes
  rcases hTakes with ⟨hCaller, hTakes⟩
  unfold step at hStep
  split at hStep
  · cases action with
    | reconcileLoad paymentId merchantId =>
        simp only [Bool.and_eq_true, decide_eq_true_iff]
          at hTakes
        rcases hTakes with ⟨rfl, rfl⟩
        simp only [callStep, stepReconcileLoad,
          hUnresolved.db, hAwaiting.stored,
          hAwaiting.status] at hStep
        split at hStep
        · cases hStep
          exact .inl
            (hUnresolved.become rfl (by simp) rfl rfl)
        · cases hStep
    | reconcileBegin paymentId merchantId pick =>
        simp only [Bool.and_eq_true, decide_eq_true_iff]
          at hTakes
        rcases hTakes with ⟨rfl, rfl⟩
        simp only [callStep, stepReconcileBegin] at hStep
        split at hStep
        · exact .inl (hUnresolved.reconcileLock hDoubtful
            (.inl rfl) hStep)
        · cases hStep
    | reconcileNext pick =>
        simp only [callStep, stepReconcileNext] at hStep
        split at hStep
        · rename_i intent hCall
          have hReading := hUnresolved.callers call hCaller
          rw [hCall] at hReading
          rcases hReading with hIdle | hReading
          · cases hIdle
          · cases hReading
            rw [hColumns.1, hColumns.2] at hStep
            exact .inl (hUnresolved.reconcileLock hDoubtful
              (.inr rfl) hStep)
        · cases hStep
    | reconcileAnswer result =>
        simp only [callStep, stepReconcileAnswer] at hStep
        split at hStep
        · rename_i intent key hCall
          have hReading := hUnresolved.callers call hCaller
          rw [hCall] at hReading
          rcases hReading with hIdle | hReading
          · cases hIdle
          · cases hStep
            have hAnswered :
                (Call.reconcileAnswered intent
                  result).reconciling = some row := hReading
            refine .inl
              (hUnresolved.become hAnswered ?_ rfl rfl)
            intro other answer hSame
            cases hSame
            simp only [Bool.or_eq_true, decide_eq_true_iff]
              at hTakes
            rcases hTakes with hOutcome | hOutcome
            · simp [hOutcome]
            · simp [hOutcome]
        · cases hStep
    | reconcileApply =>
        cases hCall : system.calls call with
        | reconcileAnswered intent result =>
            simp only [SoleResolver, hCall] at hSole
            exact .inr ⟨call, hCaller,
              hUnresolved.reconcileApply hDoubtful hCaller
                hCall hSole.1 hSole.2.1 hSole.2.2 hStep⟩
        | _ =>
            simp [callStep, stepReconcileApply, hCall]
              at hStep
    | reconcileReport =>
        simp only [callStep, stepReconcileReport] at hStep
        split at hStep
        · rename_i report hCall
          have hReading := hUnresolved.callers call hCaller
          rw [hCall] at hReading
          rcases hReading with hIdle | hReading
          · cases hIdle
          · cases hReading
        · cases hStep
    | _ => cases hTakes
  · cases hStep

end PayGuard

------------------------------------------------------------
-- After The Resolution
------------------------------------------------------------

namespace PayGuard

variable {config : Config}
variable {reconciliation : Reconciliation}
variable {system next start final : System}
variable {label : Label}
variable {labels : List Label}
variable {row : PaymentIntent}
variable {winner : CallId}

/- Where a caller can be once the payment is resolved. -/
theorem ResolvedOnce.position
    {call : CallId}
    (hResolved :
      ResolvedOnce config reconciliation row start winner
        system)
    (hCaller : call ∈ reconciliation.callers) :
    system.calls call = .idle ∨
      ∃ report,
        (system.calls call).concluded = some report := by
  by_cases hWinner : call = winner
  · subst hWinner
    rcases hResolved.resolution with
      ⟨_, _, _, report, _, _, _, hConcluded, _⟩
    exact .inr ⟨report, hConcluded⟩
  · rcases hResolved.others call hCaller hWinner with
      hIdle | ⟨report, hConcluded, _⟩
    · exact .inl hIdle
    · exact .inr ⟨report, hConcluded⟩

/- A step that leaves all but the reports alone. -/
theorem ResolvedOnce.of_reports
    {call : CallId}
    {position : Call}
    {reports : List ReconciliationReport}
    (hResolved :
      ResolvedOnce config reconciliation row start winner
        system)
    (hDb : next.db = { system.db with reports := reports })
    (hCalls :
      next.calls =
        Function.update system.calls call position)
    (hWinner :
      call = winner →
        position.concluded =
          (system.calls winner).concluded)
    (hOther :
      call ≠ winner →
        ∃ report,
          position.concluded = some report ∧
            report.result = .matched) :
    ResolvedOnce config reconciliation row start winner
      next where
  resolution := by
    rcases hResolved.resolution with
      ⟨result, draw, db, report, _, hBody, hSystem,
        hConcluded, hReport⟩
    refine ⟨result, draw, db, report, reports, hBody, ?_, ?_,
      hReport⟩
    · rw [hDb, hSystem]
    · rw [hCalls]
      by_cases hSame : call = winner
      · have hPosition := hWinner hSame
        subst hSame
        simp [hPosition, hConcluded]
      · rw [Function.update_of_ne (Ne.symm hSame)]
        exact hConcluded
  departed := by
    rcases hResolved.departed with
      ⟨moved, hDeparted, hStatus⟩
    refine ⟨moved, ?_, hStatus⟩
    rw [hDb]
    exact hDeparted.sameBooks ⟨rfl, rfl, rfl⟩
  attempt := by
    rw [hDb]
    exact hResolved.attempt
  others := by
    intro other hCaller hNe
    rw [hCalls]
    by_cases hSame : other = call
    · subst hSame
      simpa using Or.inr (hOther hNe)
    · rw [Function.update_of_ne hSame]
      exact hResolved.others other hCaller hNe

/- A call that begins afterwards reports a match. -/
theorem ResolvedOnce.reconcileBegin
    {call : CallId}
    {pick : Uuid}
    (hResolved :
      ResolvedOnce config reconciliation row start winner
        system)
    (hIdle : system.calls call = .idle)
    (hStep :
      reconcileLock config system call none
        reconciliation.paymentId reconciliation.merchantId
        pick = some next) :
    ResolvedOnce config reconciliation row start winner
      next := by
  rcases hResolved.departed with ⟨moved, hDeparted, hStatus⟩
  unfold PayGuard.reconcileLock at hStep
  rw [lockPayment_unloaded, hDeparted.stored] at hStep
  split at hStep
  · simp only [reconcileCheck, ne_eq, hStatus,
      not_false_eq_true, if_true] at hStep
    cases hStep
    refine hResolved.of_reports rfl rfl ?_ ?_
    · -- the winner has concluded and is not idle
      intro hSame
      subst hSame
      rcases hResolved.resolution with
        ⟨_, _, _, report, _, _, _, hConcluded, _⟩
      rw [hIdle] at hConcluded
      cases hConcluded
    · intro _
      exact ⟨_, rfl, rfl⟩
  · cases hStep

theorem ResolvedOnce.reconcileReport
    {call : CallId}
    (hResolved :
      ResolvedOnce config reconciliation row start winner
        system)
    (hCaller : call ∈ reconciliation.callers)
    (hStep : stepReconcileReport system call = some next) :
    ResolvedOnce config reconciliation row start winner
      next := by
  unfold stepReconcileReport at hStep
  split at hStep
  · rename_i report hCall
    cases hStep
    refine hResolved.of_reports rfl rfl ?_ ?_
    · intro hSame
      subst hSame
      rw [hCall]
      rfl
    · intro hNe
      rcases hResolved.others call hCaller hNe with
        hIdle | ⟨matched, hConcluded, hMatched⟩
      · rw [hCall] at hIdle
        cases hIdle
      · rw [hCall] at hConcluded
        exact ⟨matched, hConcluded, hMatched⟩
  · cases hStep

/- Later steps only report. -/
theorem resolvedOnce_step
    (hResolved :
      ResolvedOnce config reconciliation row start winner
        system)
    (hTakes : reconciliation.takes label = true)
    (hStep : step config system label = some next) :
    ResolvedOnce config reconciliation row start winner
      next := by
  rcases hResolved.departed with ⟨moved, hDeparted, hStatus⟩
  rcases label with ⟨call, action, draw⟩
  simp only [Reconciliation.takes, Bool.and_eq_true,
    decide_eq_true_iff] at hTakes
  rcases hTakes with ⟨hCaller, hTakes⟩
  have hPosition := hResolved.position hCaller
  unfold step at hStep
  split at hStep
  · cases action with
    | reconcileLoad paymentId merchantId =>
        simp only [Bool.and_eq_true, decide_eq_true_iff]
          at hTakes
        rcases hTakes with ⟨rfl, rfl⟩
        simp only [callStep, stepReconcileLoad,
          hDeparted.stored, hStatus, if_false] at hStep
        split at hStep <;> cases hStep
    | reconcileBegin paymentId merchantId pick =>
        simp only [Bool.and_eq_true, decide_eq_true_iff]
          at hTakes
        rcases hTakes with ⟨rfl, rfl⟩
        simp only [callStep, stepReconcileBegin] at hStep
        split at hStep
        · rename_i hIdle
          exact hResolved.reconcileBegin hIdle hStep
        · cases hStep
    | reconcileNext pick =>
        simp only [callStep, stepReconcileNext] at hStep
        split at hStep
        · rename_i intent hCall
          simp [hCall, Call.concluded] at hPosition
        · cases hStep
    | reconcileAnswer result =>
        simp only [callStep, stepReconcileAnswer] at hStep
        split at hStep
        · rename_i intent key hCall
          simp [hCall, Call.concluded] at hPosition
        · cases hStep
    | reconcileApply =>
        simp only [callStep, stepReconcileApply] at hStep
        split at hStep
        · rename_i intent result hCall
          simp [hCall, Call.concluded] at hPosition
        · cases hStep
    | reconcileReport =>
        exact hResolved.reconcileReport hCaller hStep
    | _ => cases hTakes
  · cases hStep

/-
  Where every call that applies an answer is the only one
  holding the payment, and can use its answer, the payment
  is resolved by one call as soon as any call has ended, and
  all the others report a match.
-/
theorem reconciliation_resolves_once
    (config : Config)
    (reconciliation : Reconciliation)
    (row : PaymentIntent)
    (start final : System)
    (labels : List Label)
    (hDoubtful : Doubtful reconciliation row start)
    (hLabels :
      ∀ label ∈ labels, reconciliation.takes label = true)
    (hRun :
      Lts.exec (step config) start labels = some final)
    (hSole :
      Lts.Meets (step config)
        (SoleResolver config reconciliation) start labels)
    (hEnded :
      ∃ call ∈ reconciliation.callers,
        ∃ reply, final.calls call = .done reply) :
    ∃ winner ∈ reconciliation.callers,
      ResolvedOnce config reconciliation row start winner
        final := by
  have hKeep :
      ∀ system label next,
        (Unresolved reconciliation row start system ∨
            ∃ winner ∈ reconciliation.callers,
              ResolvedOnce config reconciliation row start
                winner system) →
          (SoleResolver config reconciliation system label ∧
              reconciliation.takes label = true) →
            step config system label = some next →
              (Unresolved reconciliation row start next ∨
                ∃ winner ∈ reconciliation.callers,
                  ResolvedOnce config reconciliation row
                    start winner next) := by
    rintro system label next hPhase ⟨hMet, hTakes⟩ hStep
    rcases hPhase with
      hUnresolved | ⟨winner, hWinner, hResolved⟩
    · exact unresolved_step hDoubtful hUnresolved hTakes hMet
        hStep
    · exact .inr ⟨winner, hWinner,
        resolvedOnce_step hResolved hTakes hStep⟩
  have hStart : Unresolved reconciliation row start start :=
    { db := rfl
      callers := fun call hCaller =>
        .inl (hDoubtful.callers call hCaller)
      answers := by
        intro call hCaller intent result hCall
        rw [hDoubtful.callers call hCaller] at hCall
        cases hCall }
  have hTakes :
      Lts.Meets (step config)
        (fun _ label => reconciliation.takes label = true)
        start labels :=
    Lts.meets_of_forall (fun label hLabel _ =>
      hLabels label hLabel)
  rcases Lts.invariant_of_meets hKeep (.inl hStart)
      (hSole.and hTakes) hRun with hUnresolved | hResolved
  · -- before the resolution no call has ended
    rcases hEnded with ⟨call, hCaller, reply, hDone⟩
    have hReading := hUnresolved.callers call hCaller
    rw [hDone] at hReading
    rcases hReading with hIdle | hReading
    · cases hIdle
    · cases hReading
  · exact hResolved

/- The provider's answer to payment 1 is lost. -/
def unknownRun : List Label :=
  [⟨0, .createBegin
      { merchantId := 1
        idempotencyKey := "create"
        amountMinor := 100
        currency := "USD"
        paymentToken := "tok_visa" }, .numbered 1⟩,
    ⟨0, .createProcess, .numbered 2⟩,
    ⟨0, .createAssess, .numbered 3⟩,
    ⟨0, .createAuthorize
      { outcome := .unknown
        providerTransactionId := none
        rawStatus := "timeout" }, .numbered 4⟩,
    ⟨0, .createFinish, .numbered 5⟩]

def unknownPayment : PaymentIntent where
  id := 1
  merchantId := 1
  amountMinor := 100
  currency := "USD"
  merchantReference := none
  status := .unknown
  version := 3
  createdAt := 0

def twoReconciliations : Reconciliation where
  paymentId := 1
  merchantId := 1
  callers := [1, 2]

/- The second call begins when the first has resolved. -/
def reconciledInTurn : List Label :=
  [⟨1, .reconcileBegin 1 1 0, .numbered 6⟩,
    ⟨1, .reconcileAnswer (.approved "txn"), .numbered 7⟩,
    ⟨1, .reconcileApply, .numbered 8⟩,
    ⟨2, .reconcileBegin 1 1 0, .numbered 9⟩,
    ⟨1, .reconcileReport, .numbered 10⟩,
    ⟨2, .reconcileReport, .numbered 11⟩]

theorem reconciliation_resolves_once_in_turn :
    ∃ start final winner,
      Lts.exec (step loadedConfig) {} unknownRun =
          some start ∧
        Lts.exec (step loadedConfig) start
          reconciledInTurn = some final ∧
        ResolvedOnce loadedConfig twoReconciliations
          unknownPayment start winner final := by
  have hSetup :
      (Lts.exec (step loadedConfig) {} unknownRun).map
          (fun start =>
            decide
              ((start.db.selectPayment 1 1 =
                    some unknownPayment ∧
                  start.db.departures .unknown 1 = [] ∧
                  start.db.settlementOf 1 = []) ∧
                (∃ keyRow ∈ start.db.keys,
                  keyRow.paymentIntentId = some 1) ∧
                (∀ attempt ∈ start.db.attempts,
                  attempt.paymentIntentId = 1 →
                    attempt.attemptNumber <
                      nextAttemptNumber start.db 1) ∧
                (∀ call ∈ twoReconciliations.callers,
                  start.calls call = .idle) ∧
                Lts.Meets (step loadedConfig)
                  (SoleResolver loadedConfig
                    twoReconciliations) start
                  reconciledInTurn)) =
        some true := by
    decide +kernel
  have hWhole :
      (Lts.exec (step loadedConfig) {}
          (unknownRun ++ reconciledInTurn)).map
            (fun final => final.calls 1) =
        some (.done (.report
          (answeredReport unknownPayment (.approved "txn")
            .resolvedSucceeded .unknown
            (.providerTransaction (some "txn"))))) := by
    decide +kernel
  rcases Option.map_eq_some_iff.mp hSetup with
    ⟨start, hStart, hFacts⟩
  rcases Option.map_eq_some_iff.mp hWhole with
    ⟨final, hBoth, hDone⟩
  rw [Lts.exec_append, hStart] at hBoth
  rcases of_decide_eq_true hFacts with
    ⟨⟨hStored, hNone, hUnsettled⟩, hKey, hNumbered,
      hCallers, hSole⟩
  have hDoubtful :
      Doubtful twoReconciliations unknownPayment start :=
    { awaiting := ⟨hStored, rfl, hNone, hUnsettled⟩
      key := hKey
      numbered := hNumbered
      callers := hCallers }
  rcases reconciliation_resolves_once _ _ _ _ _ _ hDoubtful
      (by decide) hBoth hSole
      ⟨1, by decide, _, hDone⟩ with
    ⟨winner, _, hResolved⟩
  exact ⟨start, final, winner, hStart, hBoth, hResolved⟩

/- Both calls hold the payment when the first resolves it. -/
def reconciledAtOnce
    (answer : ProviderResult) : List Label :=
  [⟨1, .reconcileBegin 1 1 0, .numbered 6⟩,
    ⟨2, .reconcileBegin 1 1 0, .numbered 7⟩,
    ⟨1, .reconcileAnswer answer, .numbered 8⟩,
    ⟨2, .reconcileAnswer answer, .numbered 9⟩,
    ⟨1, .reconcileApply, .numbered 10⟩,
    ⟨2, .reconcileApply, .numbered 11⟩]

/-
  Without a transaction identifier the payment is resolved
  and booked twice, and with one the second call ends in an
  integrity error.
-/
theorem overlapping_reconciliations_resolve_twice :
    (Lts.exec (step loadedConfig) {}
        (unknownRun ++ reconciledAtOnce
          { outcome := .succeeded
            providerTransactionId := none
            rawStatus := "succeeded" })).map
          (fun final =>
            ((final.db.departures .unknown 1).map
                (·.toStatus),
              (final.db.attemptsOf 1).length,
              (final.db.settlementOf 1).length)) =
        some ([.succeeded, .succeeded], 3, 4) ∧
      (Lts.exec (step loadedConfig) {}
        (unknownRun ++ reconciledAtOnce
          (.approved "txn"))).map
          (fun final => final.calls 2) =
        some (.done (.raised (.integrityError
          "uq_provider_transactions_provider_txn"))) := by
  decide +kernel

end PayGuard

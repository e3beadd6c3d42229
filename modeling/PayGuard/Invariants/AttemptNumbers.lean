import PayGuard.Races.Reconciliation
import PayGuard.System.Lifecycle

/-
  The attempts of a payment are numbered without gaps.

  An attempt takes the number of attempts of its payment
  plus one, counted and inserted under one lock, and rows
  are never removed.  So the numbers of a payment are one,
  two, and so on, and the unique constraint on them never
  refuses an insert.

  Key definitions include:
    * `AttemptsGapless`
    * `NeverClashes`

  Key theorems include:
    * `AttemptsGapless.files`
    * `AttemptsGapless.neverClashes`
    * `attempts_numbered_without_gaps`
-/

------------------------------------------------------------
-- Numbers
------------------------------------------------------------

namespace PayGuard

/- The attempts of every payment are numbered from one. -/
def AttemptsGapless (db : Database) : Prop :=
  ∀ paymentId,
    (db.attemptsOf paymentId).map (·.attemptNumber) =
      List.range' 1 (db.attemptsOf paymentId).length

/- The server's refusal of an attempt number in use. -/
def attemptClash : Failure :=
  .integrityError "uq_payment_attempts_intent_attempt_no"

/-
  No transaction that inserts an attempt is refused for the
  number of the attempt, whatever it has locked and whatever
  the provider has answered.
-/
structure NeverClashes (db : Database) : Prop where
  create :
    ∀ locked keyRowId providerName result draw,
      createFinish db locked keyRowId providerName result
        draw ≠ .error attemptClash
  reconcile :
    ∀ locked providerName result draw,
      reconcileApply db locked providerName result draw ≠
        .error attemptClash

variable {db db' : Database}
variable {attempt : PaymentAttempt}
variable {paymentId : Uuid}

theorem nextAttemptNumber_eq
    (db : Database)
    (paymentId : Uuid) :
    nextAttemptNumber db paymentId =
      (db.attemptsOf paymentId).length + 1 := by
  unfold nextAttemptNumber Database.attemptsOf
  rw [List.countP_eq_length_filter]

/- An inserted attempt is one more of its own payment. -/
theorem attemptsOf_insert
    (hAttempts : db'.attempts = db.attempts ++ [attempt])
    (paymentId : Uuid) :
    db'.attemptsOf paymentId =
      if attempt.paymentIntentId = paymentId then
        db.attemptsOf paymentId ++ [attempt]
      else
        db.attemptsOf paymentId := by
  unfold Database.attemptsOf
  rw [hAttempts, List.filter_append]
  by_cases hPayment : attempt.paymentIntentId = paymentId
  · simp [hPayment]
  · simp [hPayment]

/- What a step files goes on with the numbers. -/
theorem AttemptsGapless.files
    (hGapless : AttemptsGapless db)
    (hFiles : Files paymentId db db') :
    AttemptsGapless db' := by
  intro other
  rcases hFiles.attempts with
    hSame | ⟨added, hAdded, hNumber, hAttempts⟩
  · have hRows :
        db'.attemptsOf other = db.attemptsOf other := by
      unfold Database.attemptsOf
      rw [hSame]
    rw [hRows]
    exact hGapless other
  · rw [attemptsOf_insert hAttempts]
    by_cases hPayment : added.paymentIntentId = other
    · rw [if_pos hPayment, List.map_append,
        List.length_append, hGapless other]
      rw [← hAdded, hPayment, nextAttemptNumber_eq]
        at hNumber
      rw [List.map_cons, List.map_nil, hNumber,
        List.length_singleton, List.range'_1_concat,
        Nat.add_comm]
    · rw [if_neg hPayment]
      exact hGapless other

end PayGuard

------------------------------------------------------------
-- Inserts
------------------------------------------------------------

namespace PayGuard

variable {db : Database}
variable {intent : PaymentIntent}
variable {attempt : PaymentAttempt}
variable {draw : Draw}

/- The number after the last one is free. -/
theorem AttemptsGapless.insertAttempt_isOk
    (hGapless : AttemptsGapless db)
    (hNumber :
      attempt.attemptNumber =
        nextAttemptNumber db attempt.paymentIntentId) :
    insertAttempt db attempt =
      .ok { db with attempts := db.attempts ++ [attempt] } := by
  have hFree :
      ∀ other ∈ db.attempts,
        other.paymentIntentId = attempt.paymentIntentId →
          other.attemptNumber ≠ attempt.attemptNumber := by
    intro other hOther hPayment hSame
    have hMem :
        other.attemptNumber ∈
          (db.attemptsOf attempt.paymentIntentId).map
            (·.attemptNumber) :=
      List.mem_map_of_mem (List.mem_filter.mpr
        ⟨hOther, by simp [hPayment]⟩)
    rw [hGapless, List.mem_range'_1] at hMem
    rw [hSame, hNumber, nextAttemptNumber_eq] at hMem
    omega
  unfold insertAttempt
  rw [if_neg]
  simpa using hFree

theorem applyTransition_ne_clash
    {toStatus : PaymentStatus}
    {actor : Actor}
    {eventType : String} :
    applyTransition db intent toStatus actor eventType
      draw ≠ .error attemptClash := by
  unfold applyTransition
  split
  · intro hClash
    cases hClash
  · intro hClash
    cases hClash

theorem insertProviderTransaction_ne_clash
    {attemptId : Uuid}
    {providerName : String}
    {result : ProviderResult} :
    insertProviderTransaction db attemptId providerName
      result ≠ .error attemptClash := by
  unfold insertProviderTransaction
  split
  · intro hClash
    cases hClash
  · split
    · intro hClash
      simp [attemptClash] at hClash
    · intro hClash
      cases hClash

theorem applyAuthorizeOutcome_ne_clash
    {outcome : ProviderOutcome} :
    applyAuthorizeOutcome db intent outcome draw ≠
      .error attemptClash := by
  cases outcome with
  | declined => exact applyTransition_ne_clash
  | unknown => exact applyTransition_ne_clash
  | succeeded =>
      intro hClash
      cases hClash
  | temporaryFailure =>
      intro hClash
      cases hClash

end PayGuard

------------------------------------------------------------
-- Transactions
------------------------------------------------------------

namespace PayGuard

variable {db : Database}

theorem AttemptsGapless.createFinish_ne_clash
    (hGapless : AttemptsGapless db)
    (locked : Option PaymentIntent)
    (keyRowId : Uuid)
    (providerName : String)
    (result : ProviderResult)
    (draw : Draw) :
    createFinish db locked keyRowId providerName result
      draw ≠ .error attemptClash := by
  intro hClash
  cases locked with
  | none => cases hClash
  | some intent =>
      simp only [createFinish] at hClash
      rw [hGapless.insertAttempt_isOk rfl] at hClash
      simp only at hClash
      split at hClash
      · rename_i hApply
        cases hClash
        exact applyAuthorizeOutcome_ne_clash hApply
      · split at hClash
        · rename_i hInsert
          cases hClash
          exact insertProviderTransaction_ne_clash hInsert
        · cases hClash

theorem AttemptsGapless.resolveSucceeded_ne_clash
    (hGapless : AttemptsGapless db)
    (intent : PaymentIntent)
    (providerName : String)
    (result : ProviderResult)
    (draw : Draw) :
    resolveSucceeded db intent providerName result draw ≠
      .error attemptClash := by
  intro hClash
  simp only [resolveSucceeded] at hClash
  rw [hGapless.insertAttempt_isOk rfl] at hClash
  simp only at hClash
  split at hClash
  · rename_i hApply
    cases hClash
    exact applyTransition_ne_clash hApply
  · exact insertProviderTransaction_ne_clash hClash

/- A transition leaves the attempts for the insert to count. -/
theorem AttemptsGapless.resolveFailed_ne_clash
    (hGapless : AttemptsGapless db)
    (intent : PaymentIntent)
    (providerName : String)
    (result : ProviderResult)
    (draw : Draw) :
    resolveFailed db intent providerName result draw ≠
      .error attemptClash := by
  intro hClash
  simp only [resolveFailed] at hClash
  split at hClash
  · rename_i hApply
    cases hClash
    exact applyTransition_ne_clash hApply
  · rename_i moved _ hApply
    rcases applyTransition_eq_ok.mp hApply with
      ⟨_, rfl, _⟩
    have hMoved :
        AttemptsGapless
          (db.recordTransition intent .failed .reconciliation
            "reconciliation.resolved_failed" draw) :=
      hGapless
    rw [hMoved.insertAttempt_isOk rfl] at hClash
    cases hClash

theorem AttemptsGapless.reconcileApply_ne_clash
    (hGapless : AttemptsGapless db)
    (locked : Option PaymentIntent)
    (providerName : String)
    (result : ProviderResult)
    (draw : Draw) :
    reconcileApply db locked providerName result draw ≠
      .error attemptClash := by
  intro hClash
  cases locked with
  | none => cases hClash
  | some intent =>
      simp only [reconcileApply] at hClash
      split at hClash
      · cases hClash
      · split at hClash
        · split at hClash
          · rename_i hApply
            cases hClash
            exact applyTransition_ne_clash hApply
          · cases hClash
        · split at hClash
          · cases hClash
          · split at hClash
            · cases hClash
            · simp only [resolve] at hClash
              split at hClash
              · split at hClash
                · rename_i hResolve
                  cases hClash
                  exact hGapless.resolveSucceeded_ne_clash _
                    _ _ _ hResolve
                · cases hClash
              · split at hClash
                · rename_i hResolve
                  cases hClash
                  exact hGapless.resolveFailed_ne_clash _ _
                    _ _ hResolve
                · cases hClash

theorem AttemptsGapless.neverClashes
    (hGapless : AttemptsGapless db) :
    NeverClashes db where
  create := hGapless.createFinish_ne_clash
  reconcile := hGapless.reconcileApply_ne_clash

end PayGuard

------------------------------------------------------------
-- Every Run
------------------------------------------------------------

namespace PayGuard

theorem attemptsGapless_initial : AttemptsGapless {} :=
  fun _ => rfl

theorem attemptsGapless_step
    {config : Config}
    {system next : System}
    {label : Label}
    (hGapless : AttemptsGapless system.db)
    (hStep : step config system label = some next) :
    AttemptsGapless next.db := by
  rcases (step_effect hStep).2.files with ⟨_, hFiles⟩
  exact hGapless.files hFiles

/-
  In every state the services can reach, the attempts of
  each payment are numbered one to their count, and no
  transaction that inserts one is refused for its number.
-/
theorem attempts_numbered_without_gaps
    (config : Config)
    (labels : List Label)
    (system : System)
    (hRun :
      Lts.exec (step config) {} labels = some system) :
    AttemptsGapless system.db ∧ NeverClashes system.db := by
  have hKeep :
      ∀ before label after,
        AttemptsGapless before.db →
          step config before label = some after →
            AttemptsGapless after.db :=
    fun _ _ _ => attemptsGapless_step
  have hGapless :=
    Lts.invariant_of_exec hKeep attemptsGapless_initial hRun
  exact ⟨hGapless, hGapless.neverClashes⟩

/- The provider loses its answer, and is asked again. -/
def askedAgainRun : List Label :=
  [⟨0, .createBegin
      { merchantId := 1
        idempotencyKey := "create"
        amountMinor := 100
        currency := "USD"
        paymentToken := "tok_visa" }, .numbered 1⟩,
    ⟨0, .createProcess, .numbered 2⟩,
    ⟨0, .createAssess, .numbered 3⟩,
    ⟨0, .createAuthorize
      { outcome := .unknown
        providerTransactionId := none
        rawStatus := "timeout" }, .numbered 4⟩,
    ⟨0, .createFinish, .numbered 5⟩,
    ⟨1, .reconcileBegin 1 1 1, .numbered 6⟩,
    ⟨1, .reconcileAnswer (.approved "txn"), .numbered 7⟩,
    ⟨1, .reconcileApply, .numbered 8⟩]

theorem attempts_numbered_without_gaps_twice :
    ∃ system,
      Lts.exec (step { sha256 := spellOut }) {}
          askedAgainRun = some system ∧
        system.db.attempts.map (·.attemptNumber) = [1, 2] ∧
        AttemptsGapless system.db ∧
        NeverClashes system.db := by
  have hRun :
      (Lts.exec (step { sha256 := spellOut }) {}
        askedAgainRun).map (fun system =>
          system.db.attempts.map (·.attemptNumber)) =
        some [1, 2] := by
    decide +kernel
  rcases Option.map_eq_some_iff.mp hRun with
    ⟨system, hSystem, hNumbers⟩
  exact ⟨system, hSystem, hNumbers,
    attempts_numbered_without_gaps _ _ _ hSystem⟩

end PayGuard

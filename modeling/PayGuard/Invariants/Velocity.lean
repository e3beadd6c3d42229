import Mathlib.Data.List.ReduceOption
import PayGuard.Invariants.BlockedPayments
import PayGuard.Invariants.Histories
import PayGuard.Invariants.Legality

/-
  The velocity rule cannot be raced.

  A payment is committed before it is assessed, and it is
  assessed once.  So whichever of several creations commits
  its assessment last has all the others in its count, and
  of any burst inside the window fewer creations than the
  threshold pass without the signal.

  Key definitions include:
    * `Database.recent`
    * `Database.watched`
    * `slipsBy`

  Key theorems include:
    * `watched_le_recent`
    * `Effect.watched`
    * `velocity_rule_is_not_raced`
-/

------------------------------------------------------------
-- Recent Payments
------------------------------------------------------------

namespace PayGuard

/- The payments of a merchant from some time on. -/
def Database.recent
    (db : Database)
    (merchantId : Uuid)
    (since : Timestamp) : List PaymentIntent :=
  db.payments.filter (fun row =>
    row.merchantId = merchantId ∧ since ≤ row.createdAt)

/- The assessments of these payments. -/
def Database.watched
    (db : Database)
    (merchantId : Uuid)
    (since : Timestamp) : List AuditLog :=
  db.auditLogs.filter (fun log =>
    log.paymentId ∈
      (db.recent merchantId since).map (·.id))

/- The assessment a step is about to commit. -/
def assesses
    (system : System)
    (label : Label) : Option (Uuid × RiskAssessment) :=
  match label.action, system.calls label.call with
  | .createAssess, .createProcessing request _ intent =>
      some (intent.id,
        (createAssess system.db request intent
          label.draw).2)
  | _, _ => none

/-
  The step assesses one of these payments while they are
  still inside the window, and sees no velocity.
-/
def slipsBy
    (merchantId : Uuid)
    (since : Timestamp)
    (system : System)
    (label : Label)
    (_ : System) : Nat :=
  match assesses system label with
  | none => 0
  | some (paymentId, assessment) =>
      if paymentId ∈
            (system.db.recent merchantId since).map (·.id) ∧
          label.draw.now ≤ since + velocityWindow ∧
          "HIGH_VELOCITY" ∉
            assessment.signals.map (·.name) then
        1
      else
        0

variable {config : Config}
variable {system next : System}
variable {label : Label}
variable {db later : Database}
variable {merchantId : Uuid}
variable {since now : Timestamp}

/- Payments stay recent. -/
theorem recent_ids_subset
    (hExtends : db.Extends later) :
    (db.recent merchantId since).map (·.id) ⊆
      (later.recent merchantId since).map (·.id) := by
  intro paymentId hMem
  rcases List.mem_map.mp hMem with ⟨row, hRow, rfl⟩
  rcases List.mem_filter.mp hRow with ⟨hStored, hRecent⟩
  rcases hExtends.payments.exists_mem hStored with
    ⟨kept, hKept, hTerms⟩
  have hId : kept.id = row.id := congrArg (·.id) hTerms
  have hMerchant : kept.merchantId = row.merchantId :=
    congrArg (·.merchantId) hTerms
  have hCreated : kept.createdAt = row.createdAt :=
    congrArg (·.createdAt) hTerms
  refine List.mem_map.mpr ⟨kept, ?_, hId⟩
  refine List.mem_filter.mpr ⟨hKept, ?_⟩
  rw [hMerchant, hCreated]
  exact hRecent

/- The velocity rule counts them as long as it looks back. -/
theorem recent_le_velocityCount
    (hNow : now ≤ since + velocityWindow) :
    (db.recent merchantId since).length ≤
      velocityCount db merchantId now := by
  unfold Database.recent velocityCount
  rw [← List.countP_eq_length_filter]
  apply List.countP_mono_left
  intro row _ hRecent
  rw [decide_eq_true_iff] at hRecent ⊢
  exact ⟨hRecent.1,
    (sub_le_iff_le_add.mpr hNow).trans hRecent.2⟩

/- No payment is assessed twice. -/
theorem watched_le_recent
    (hOnce : (db.auditLogs.map (·.paymentId)).Nodup) :
    (db.watched merchantId since).length ≤
      (db.recent merchantId since).length := by
  have hNodup :
      ((db.watched merchantId since).map
        (·.paymentId)).Nodup :=
    hOnce.sublist
      ((List.filter_sublist).map _)
  have hSubset :
      (db.watched merchantId since).map (·.paymentId) ⊆
        (db.recent merchantId since).map (·.id) := by
    intro paymentId hMem
    rcases List.mem_map.mp hMem with ⟨log, hLog, rfl⟩
    exact of_decide_eq_true (List.mem_filter.mp hLog).2
  have hLength :=
    (List.subperm_of_subset hNodup hSubset).length_le
  simpa only [List.length_map] using hLength

/- An assessment without the signal counted few payments. -/
theorem velocityCount_lt
    {request : CreateRequest}
    {intent : PaymentIntent}
    {draw : Draw}
    (hUnnamed :
      "HIGH_VELOCITY" ∉
        (createAssess db request intent
          draw).2.signals.map (·.name)) :
    velocityCount db request.merchantId draw.now <
      velocityThreshold := by
  by_contra hMany
  apply hUnnamed
  have hSignal :
      ∃ signal,
        velocitySignal db request.merchantId draw.now =
            some signal ∧
          signal.name = "HIGH_VELOCITY" := by
    unfold velocitySignal
    rw [if_pos (not_lt.mp hMany)]
    exact ⟨_, rfl, rfl⟩
  rcases hSignal with ⟨signal, hSome, hName⟩
  rw [← hName]
  apply List.mem_map_of_mem
  show signal ∈
    [amountSignal request.amountMinor,
      countryMismatchSignal request.billingCountry
        request.shippingCountry,
      highRiskIpSignal request.customerIp,
      velocitySignal db request.merchantId draw.now,
      repeatedFailuresSignal db request.merchantId
        draw.now].reduceOption
  rw [List.reduceOption_mem_iff, ← hSome]
  simp

------------------------------------------------------------
-- One Step
------------------------------------------------------------

/- What the rule keeps in every reachable state. -/
structure Watching (system : System) : Prop where
  lifecycle : Lifecycle system
  assessed : Assessed system
  stored : CreationsStored system
  once : (system.db.auditLogs.map (·.paymentId)).Nodup

theorem watching_initial : Watching {} where
  lifecycle := lifecycle_initial
  assessed := assessed_initial
  stored := by
    intro call paymentId merchantId hCreation
    cases hCreation
  once := List.nodup_nil

theorem watching_step
    (hWatching : Watching system)
    (hStep : step config system label = some next) :
    Watching next where
  lifecycle := lifecycle_step hWatching.lifecycle hStep
  assessed :=
    assessed_step hWatching.assessed hWatching.lifecycle hStep
  stored :=
    creationsStored_step hWatching.stored
      hWatching.lifecycle.held.captures hStep
  once := by
    cases (step_effect hStep).2.assessing with
    | same hLogs =>
        rw [hLogs]
        exact hWatching.once
    | assess request key intent assessment hCall _ hLogs _ =>
        rw [hLogs, List.map_append]
        refine List.Nodup.append hWatching.once
          (List.nodup_singleton _) ?_
        rw [List.map_singleton, List.disjoint_singleton]
        intro hOld
        rcases List.mem_map.mp hOld with ⟨log, hLog, hId⟩
        exact hWatching.assessed.waiting label.call intent.id
          (by rw [hCall]; rfl) log hLog hId

/- No step takes an assessment back. -/
theorem watched_mono
    (hStep : step config system label = some next) :
    (system.db.watched merchantId since).length ≤
      (next.db.watched merchantId since).length := by
  have hExtends := (step_effect hStep).2.extends
  rcases hExtends.auditLogs with ⟨added, hAdded⟩
  unfold Database.watched
  rw [← hAdded, List.filter_append, List.length_append,
    ← List.countP_eq_length_filter,
    ← List.countP_eq_length_filter]
  refine Nat.le_trans ?_ (Nat.le_add_right _ _)
  apply List.countP_mono_left
  intro log _ hRecent
  rw [decide_eq_true_iff] at hRecent ⊢
  exact recent_ids_subset hExtends hRecent

/- The assessment a step commits is the one it made. -/
theorem assesses_commits
    {paymentId : Uuid}
    {assessment : RiskAssessment}
    (hAssesses :
      assesses system label = some (paymentId, assessment))
    (hStep : step config system label = some next) :
    ∃ request key intent,
      system.calls label.call =
          .createProcessing request key intent ∧
        intent.id = paymentId ∧
        assessment =
          (createAssess system.db request intent
            label.draw).2 ∧
        next.db.payments = system.db.payments ∧
        next.db.auditLogs =
          system.db.auditLogs ++
            [{ merchantId := request.merchantId
               paymentId := paymentId
               assessment := assessment }] := by
  unfold assesses at hAssesses
  split at hAssesses
  · rename_i request key intent hAction hCall
    cases hAssesses
    unfold step at hStep
    split at hStep
    · rw [hAction] at hStep
      simp only [callStep, stepCreateAssess, hCall,
        Option.some.injEq] at hStep
      rw [← hStep]
      exact ⟨request, key, intent, hCall, rfl, rfl, rfl, rfl⟩
    · cases hStep
  · cases hAssesses

/-
  A step that slips by adds to the assessments watched, and
  those watched are then fewer than the threshold.
-/
theorem slipsBy_watched
    (hWatching : Watching system)
    (hStep : step config system label = some next)
    (hSlips :
      slipsBy merchantId since system label next ≠ 0) :
    (system.db.watched merchantId since).length + 1 ≤
        (next.db.watched merchantId since).length ∧
      (next.db.watched merchantId since).length <
        velocityThreshold := by
  unfold slipsBy at hSlips
  split at hSlips
  · exact absurd rfl hSlips
  · rename_i paymentId assessment hAssesses
    rcases assesses_commits hAssesses hStep with
      ⟨request, key, intent, hCall, rfl, rfl, hPayments,
        hLogs⟩
    split at hSlips
    · rename_i hConditions
      rcases hConditions with ⟨hRecent, hNow, hUnnamed⟩
      have hSame :
          next.db.recent merchantId since =
            system.db.recent merchantId since := by
        unfold Database.recent
        rw [hPayments]
      have hMerchant : request.merchantId = merchantId := by
        rcases List.mem_map.mp hRecent with
          ⟨row, hRow, hId⟩
        rcases List.mem_filter.mp hRow with ⟨hRow, hTerms⟩
        rw [decide_eq_true_iff] at hTerms
        rcases hWatching.stored label.call intent.id
            request.merchantId (by rw [hCall]; rfl) with
          ⟨own, hOwn, hOwnId, hOwnMerchant⟩
        have hOne : row = own :=
          List.inj_on_of_nodup_map
            hWatching.lifecycle.held.paymentIds hRow hOwn
            (hId.trans hOwnId.symm)
        rw [← hOwnMerchant, ← hOne]
        exact hTerms.1
      constructor
      · unfold Database.watched
        rw [hSame, hLogs, List.filter_append,
          List.length_append]
        apply Nat.add_le_add_left
        rw [List.filter_cons_of_pos (by simpa using hRecent)]
        exact Nat.le_add_left _ _
      · have hOnce := (watching_step hWatching hStep).once
        have hCount := velocityCount_lt hUnnamed
        rw [hMerchant] at hCount
        calc (next.db.watched merchantId since).length
            ≤ (next.db.recent merchantId since).length :=
              watched_le_recent hOnce
          _ = (system.db.recent merchantId since).length := by
              rw [hSame]
          _ ≤ velocityCount system.db merchantId
                label.draw.now :=
              recent_le_velocityCount hNow
          _ < velocityThreshold := hCount
    · exact absurd rfl hSlips

------------------------------------------------------------
-- Every Run
------------------------------------------------------------

theorem slipsBy_le_one :
    slipsBy merchantId since system label next ≤ 1 := by
  unfold slipsBy
  split
  · exact Nat.zero_le _
  · split <;> omega

/-
  Whatever else the system does, of all payments a merchant
  creates from some time on, fewer than the threshold are
  assessed within the window without the velocity signal,
  however many of them are created at once.
-/
theorem velocity_rule_is_not_raced
    (config : Config)
    (labels : List Label)
    (system : System)
    (merchantId : Uuid)
    (since : Timestamp)
    (hRun :
      Lts.exec (step config) {} labels = some system) :
    Lts.total (step config) (slipsBy merchantId since) {}
        labels <
      velocityThreshold := by
  have hKeep :
      ∀ (system : System) (label : Label) (next : System)
        (count : Nat),
        (Watching system ∧
            count < velocityThreshold ∧
            count ≤
              (system.db.watched merchantId since).length) →
          step config system label = some next →
            (Watching next ∧
              count +
                  slipsBy merchantId since system label
                    next <
                velocityThreshold ∧
              count +
                  slipsBy merchantId since system label
                    next ≤
                (next.db.watched merchantId
                  since).length) := by
    rintro system label next count
      ⟨hWatching, hFew, hWatched⟩ hStep
    refine ⟨watching_step hWatching hStep, ?_⟩
    by_cases hSlips :
        slipsBy merchantId since system label next = 0
    · rw [hSlips, Nat.add_zero]
      exact ⟨hFew, hWatched.trans (watched_mono hStep)⟩
    · have hNext := slipsBy_watched hWatching hStep hSlips
      have hOne :
          slipsBy merchantId since system label next ≤ 1 :=
        slipsBy_le_one
      omega
  have hStart :
      Watching {} ∧
        0 < velocityThreshold ∧
        0 ≤
          (({} : System).db.watched merchantId
            since).length :=
    ⟨watching_initial, by decide, Nat.zero_le _⟩
  have hTotal := Lts.invariant_of_total hKeep hStart hRun
  rw [Nat.zero_add] at hTotal
  exact hTotal.2.1

/- A merchant creates five payments, one after the other. -/
def fiveCreations : List Label :=
  (List.range 5).flatMap (fun call =>
    [⟨call, .createBegin
        { merchantId := 1
          idempotencyKey := String.ofList (Nat.toDigits 10 call)
          amountMinor := 100
          currency := "USD"
          paymentToken := "tok_visa" },
        .numbered (3 * call + 1)⟩,
      ⟨call, .createProcess, .numbered (3 * call + 2)⟩,
      ⟨call, .createAssess, .numbered (3 * call + 3)⟩])

theorem velocity_rule_is_not_raced_five :
    ∃ system,
      Lts.exec (step { sha256 := spellOut }) {}
          fiveCreations = some system ∧
        system.db.auditLogs.length = 5 ∧
        Lts.total (step { sha256 := spellOut })
            (slipsBy 1 0) {} fiveCreations = 4 ∧
        Lts.total (step { sha256 := spellOut })
            (slipsBy 1 0) {} fiveCreations <
          velocityThreshold := by
  have hRun :
      (Lts.exec (step { sha256 := spellOut }) {}
        fiveCreations).map (fun system =>
          system.db.auditLogs.length) = some 5 := by
    decide +kernel
  have hTotal :
      Lts.total (step { sha256 := spellOut }) (slipsBy 1 0)
          {} fiveCreations = 4 := by
    decide +kernel
  rcases Option.map_eq_some_iff.mp hRun with
    ⟨system, hExec, hLogs⟩
  exact ⟨system, hExec, hLogs, hTotal,
    velocity_rule_is_not_raced _ _ _ 1 0 hExec⟩

end PayGuard

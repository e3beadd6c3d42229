import PayGuard.Reconciliation.Exits
import PayGuard.System.Signatures

/-
  Transitions of reconciliations beside their reports.

  A call commits its transition first and its report in a
  transaction of its own.  Between the two commits the call
  owes a report.  The transitions of a payment are as many
  as its reports, plus the calls that owe one, plus those
  that ended owing one.

  Key definitions include:
    * `Database.reconciliationEvents`
    * `Database.outcomeReports`
    * `Call.owes`
    * `ReportsNext`

  Key theorems include:
    * `effect_events`
    * `effect_reports`
    * `transitions_match_reports_iff`
    * `death_between_commits_loses_report`
-/

------------------------------------------------------------
-- Transitions And Reports
------------------------------------------------------------

namespace PayGuard

open Lts

/- The results of the calls that made a transition. -/
def ReportResult.recordsTransition : ReportResult → Bool
| .resolvedSucceeded => true
| .resolvedFailed => true
| .stillUnknown => true
| _ => false

/- The payment's events with actor `RECONCILIATION`. -/
def Database.reconciliationEvents
    (db : Database)
    (paymentId : Uuid) : Nat :=
  db.events.countP (fun event =>
    event.paymentIntentId = paymentId &&
      event.actor = .reconciliation)

/- The payment's reports of a transition. -/
def Database.outcomeReports
    (db : Database)
    (paymentId : Uuid) : Nat :=
  db.reports.countP (fun report =>
    report.paymentIntentId = paymentId &&
      report.result.recordsTransition)

/- The call has committed a transition, and no report yet. -/
def Call.owes
    (paymentId : Uuid) : Call → Bool
| .reconcileReporting report =>
    report.paymentIntentId = paymentId &&
      report.result.recordsTransition
| _ => false

/- A call that owes a report goes on to write it. -/
def ReportsNext
    (paymentId : Uuid)
    (system : System)
    (label : Label) : Prop :=
  (system.calls label.call).owes paymentId = true →
    label.action = .reconcileReport

instance
    (paymentId : Uuid)
    (system : System)
    (label : Label) :
    Decidable (ReportsNext paymentId system label) := by
  unfold ReportsNext
  infer_instance

variable {db db' : Database}
variable {intent : PaymentIntent}
variable {paymentId : Uuid}
variable {providerName : String}
variable {result : ProviderResult}
variable {draw : Draw}

------------------------------------------------------------
-- One Transaction
------------------------------------------------------------

/- The second transaction adds the event its report is of. -/
theorem receive_reconciliationEvents
    (db : Database)
    (intent : PaymentIntent)
    (attemptNumber : Nat)
    (providerName : String)
    (result : ProviderResult)
    (draw : Draw)
    (paymentId : Uuid) :
    (db.receive intent
        (reconcileAdditions intent attemptNumber providerName
          result draw)).reconciliationEvents paymentId =
      db.reconciliationEvents paymentId +
        if (Call.reconcileReporting
            (findingReport intent result)).owes paymentId then
          1
        else
          0 := by
  have hOwes :
      (Call.reconcileReporting
          (findingReport intent result)).owes paymentId =
        (decide (intent.id = paymentId) &&
          (finding intent result).recordsTransition) := rfl
  rw [hOwes]
  unfold Database.reconciliationEvents
  have hEvents :
      (db.receive intent
        (reconcileAdditions intent attemptNumber providerName
          result draw)).events =
        db.events ++
          (reconcileAdditions intent attemptNumber
            providerName result draw).events := rfl
  rw [hEvents, List.countP_append]
  congr 1
  unfold reconcileAdditions
  by_cases hId : intent.id = paymentId
  · cases finding intent result <;>
      simp [Additions.transition, hId,
        ReportResult.recordsTransition]
  · cases finding intent result <;>
      simp [Additions.transition, hId]

theorem reconcileApply_events
    {report : ReconciliationReport}
    {locked : Option PaymentIntent}
    (hBody :
      reconcileApply db locked providerName result draw =
        .ok (db', report))
    (paymentId : Uuid) :
    db'.reconciliationEvents paymentId =
      db.reconciliationEvents paymentId +
        if (Call.reconcileReporting report).owes paymentId then
          1
        else
          0 := by
  cases locked with
  | none => cases hBody
  | some intent =>
      have hClash :
          db.clashes intent providerName result = false := by
        rw [← Bool.not_eq_true]
        intro hClash
        obtain ⟨failure, hFails⟩ :
            ∃ failure,
              reconcileApply db (some intent) providerName
                result draw = .error failure :=
          reconcileApply_of_clash hClash
        rw [hFails] at hBody
        cases hBody
      rw [reconcileApply_eq hClash] at hBody
      cases hBody
      exact receive_reconciliationEvents db intent _ _ _ _ _

/- Events of another actor are not counted. -/
theorem Signs.reconciliationEvents
    {actor : Actor}
    (hSigns : Signs actor draw db db')
    (hActor : actor ≠ .reconciliation)
    (paymentId : Uuid) :
    db'.reconciliationEvents paymentId =
      db.reconciliationEvents paymentId := by
  obtain ⟨added, hAdded, hSigned⟩ := hSigns
  unfold Database.reconciliationEvents
  rw [hAdded, List.countP_append, Nat.add_eq_left,
    List.countP_eq_zero]
  intro event hEvent
  simp [(hSigned event hEvent).1, hActor]

------------------------------------------------------------
-- One Step
------------------------------------------------------------

variable {config : Config}
variable {system next : System}
variable {call : CallId}
variable {action : Action}

/- Before its answer is applied a call owes nothing. -/
theorem reconcileCheck_owes
    {locked : Option PaymentIntent}
    {check : ReconcileCheck}
    {askedId pick : Uuid}
    (hCheck :
      reconcileCheck db locked askedId pick = .ok check) :
    check.position.owes paymentId = false := by
  unfold reconcileCheck at hCheck
  cases locked with
  | none => cases hCheck
  | some intent =>
      simp only at hCheck
      split at hCheck
      · cases hCheck
        simp [ReconcileCheck.position, Call.owes,
          ReportResult.recordsTransition]
      · split at hCheck
        · cases hCheck
          simp [ReconcileCheck.position, Call.owes,
            ReportResult.recordsTransition]
        · cases hCheck
          rfl

theorem Turn.owes
    {position : Call}
    (hTurn : Turn config system call draw action position) :
    position.owes paymentId = false := by
  cases hTurn with
  | begun hCheck => exact reconcileCheck_owes hCheck
  | continued _ hCheck => exact reconcileCheck_owes hCheck
  | _ => rfl

/- A call comes to owe a report with the event it adds. -/
theorem effect_events
    (hEffect :
      Effect config system call draw action next)
    (paymentId : Uuid) :
    next.db.reconciliationEvents paymentId =
      system.db.reconciliationEvents paymentId +
        if (next.calls call).owes paymentId then
          1
        else
          0 := by
  have hSigns := hEffect.signs
  cases hEffect with
  | quiet hQuiet hTurn =>
      rw [hQuiet.db, hTurn.owes]
      rfl
  | reconcileApply _ _ hBody =>
      rw [System.commit_calls_self]
      exact reconcileApply_events hBody paymentId
  | _ =>
      rw [hSigns.reconciliationEvents (by simp [Action.actor])]
      simp [Call.owes]

theorem writeReport_outcomeReports
    (db : Database)
    (report : ReconciliationReport)
    (paymentId : Uuid) :
    (writeReport db report).outcomeReports paymentId =
      db.outcomeReports paymentId +
        if (Call.reconcileReporting report).owes paymentId then
          1
        else
          0 := by
  unfold Database.outcomeReports writeReport
  rw [List.countP_append]
  simp [Call.owes, List.countP_singleton]

theorem stepReconcileReport_eq_some
    {label : Label}
    (hStep : step config system label = some next)
    (hReport : label.action = .reconcileReport) :
    ∃ report,
      system.calls label.call = .reconcileReporting report ∧
        next =
          system.commit label.call
            (writeReport system.db report)
            (.done (.report report)) := by
  unfold step at hStep
  split at hStep
  · rw [hReport] at hStep
    simp only [callStep, stepReconcileReport] at hStep
    split at hStep
    · rename_i report hCall
      cases hStep
      exact ⟨report, hCall, rfl⟩
    · cases hStep
  · cases hStep

/- A call that owes a report writes it or loses it. -/
theorem step_reports
    {label : Label}
    (hStep : step config system label = some next)
    (paymentId : Uuid) :
    next.db.outcomeReports paymentId +
        (if ReportsNext paymentId system label then
          0
        else
          1) =
      system.db.outcomeReports paymentId +
        if (system.calls label.call).owes paymentId then
          1
        else
          0 := by
  obtain ⟨-, hEffect⟩ := step_effect hStep
  by_cases hReport : label.action = .reconcileReport
  · have hNext : ReportsNext paymentId system label :=
      fun _ => hReport
    obtain ⟨report, hCall, rfl⟩ :=
      stepReconcileReport_eq_some hStep hReport
    rw [if_pos hNext, hCall]
    exact writeReport_outcomeReports system.db report
      paymentId
  · have hSame := hEffect.sameReports hReport
    unfold Database.outcomeReports
    rw [hSame]
    by_cases hOwes :
        (system.calls label.call).owes paymentId = true
    · rw [if_neg (fun hNext => hReport (hNext hOwes)),
        if_pos hOwes]
    · have hNext : ReportsNext paymentId system label :=
        fun hOwed => absurd hOwed hOwes
      rw [if_pos hNext, if_neg hOwes]

------------------------------------------------------------
-- The Balance Of A Run
------------------------------------------------------------

/-
  The transitions of a payment are paid for by its reports,
  the reports that were lost, and those that calls owe.
-/
def Balanced
    (paymentId : Uuid)
    (system : System)
    (lost : Nat) : Prop :=
  ∃ pending : List CallId,
    pending.Nodup ∧
      (∀ call,
        call ∈ pending ↔
          (system.calls call).owes paymentId = true) ∧
      system.db.reconciliationEvents paymentId =
        system.db.outcomeReports paymentId + lost +
          pending.length

theorem balanced_initial
    (paymentId : Uuid) :
    Balanced paymentId {} 0 :=
  ⟨[], List.nodup_nil, by simp [Call.owes], rfl⟩

/- Only the acting call can join or leave the debtors. -/
theorem pending_step
    {pending : List CallId}
    (hNodup : pending.Nodup)
    (hPending :
      ∀ other,
        other ∈ pending ↔
          (system.calls other).owes paymentId = true)
    (hOthers :
      ∀ other,
        other ≠ call →
          next.calls other = system.calls other) :
    ∃ pending' : List CallId,
      pending'.Nodup ∧
        (∀ other,
          other ∈ pending' ↔
            (next.calls other).owes paymentId = true) ∧
        (pending'.length +
            if (system.calls call).owes paymentId then 1
            else 0) =
          pending.length +
            if (next.calls call).owes paymentId then 1
            else 0 := by
  have hRest :
      (pending.erase call).length +
          (if (system.calls call).owes paymentId then 1
          else 0) =
        pending.length := by
    by_cases hOwes :
        (system.calls call).owes paymentId = true
    · rw [if_pos hOwes, List.length_erase_of_mem
        ((hPending call).mpr hOwes)]
      have hSome :=
        List.length_pos_of_mem ((hPending call).mpr hOwes)
      omega
    · rw [if_neg hOwes, List.erase_of_not_mem
        (fun hMem => hOwes ((hPending call).mp hMem))]
      rfl
  have hErased :
      ∀ other,
        other ∈ pending.erase call ↔
          other ≠ call ∧
            (next.calls other).owes paymentId = true := by
    intro other
    rw [hNodup.mem_erase_iff, hPending]
    constructor
    · rintro ⟨hOther, hOwes⟩
      exact ⟨hOther, hOthers other hOther ▸ hOwes⟩
    · rintro ⟨hOther, hOwes⟩
      exact ⟨hOther, hOthers other hOther ▸ hOwes⟩
  by_cases hOwes : (next.calls call).owes paymentId = true
  · refine ⟨call :: pending.erase call, ?_, ?_, ?_⟩
    · rw [List.nodup_cons]
      exact ⟨hNodup.not_mem_erase, hNodup.erase call⟩
    · intro other
      rw [List.mem_cons, hErased]
      by_cases hSame : other = call
      · simp [hSame, hOwes]
      · simp [hSame]
    · rw [if_pos hOwes, List.length_cons]
      omega
  · refine ⟨pending.erase call, hNodup.erase call, ?_, ?_⟩
    · intro other
      rw [hErased]
      by_cases hSame : other = call
      · simp [hSame, hOwes]
      · simp [hSame]
    · rw [if_neg hOwes]
      omega

theorem balanced_step
    {label : Label}
    {lost : Nat}
    (hBalanced : Balanced paymentId system lost)
    (hStep : step config system label = some next) :
    Balanced paymentId next
      (lost +
        if ReportsNext paymentId system label then 0
        else 1) := by
  obtain ⟨pending, hNodup, hPending, hCount⟩ := hBalanced
  obtain ⟨-, hEffect⟩ := step_effect hStep
  have hEvents := effect_events hEffect paymentId
  have hReports := step_reports hStep paymentId
  obtain ⟨pending', hNodup', hPending', hLength⟩ :=
    pending_step hNodup hPending hEffect.frame.calls
  exact ⟨pending', hNodup', hPending', by omega⟩

/-
  In every run the transitions of a payment match its
  reports one to one exactly when every call that owed a
  report wrote it with its next step, and none owes one now.
-/
theorem transitions_match_reports_iff
    {labels : List Label}
    (hRun : exec (step config) {} labels = some system)
    (paymentId : Uuid) :
    system.db.reconciliationEvents paymentId =
        system.db.outcomeReports paymentId ↔
      Meets (step config) (ReportsNext paymentId) {}
          labels ∧
        ∀ call,
          (system.calls call).owes paymentId = false := by
  have hKeep :
      ∀ state label next count,
        Balanced paymentId state count →
          step config state label = some next →
            Balanced paymentId next
              (count +
                if ReportsNext paymentId state label then 0
                else 1) :=
    fun state label next count hBalanced hStep =>
      balanced_step hBalanced hStep
  obtain ⟨pending, -, hPending, hCount⟩ :=
    invariant_of_total hKeep (balanced_initial paymentId)
      hRun
  rw [← total_eq_zero_iff_meets hRun]
  constructor
  · intro hMatch
    refine ⟨by omega, fun call => ?_⟩
    have hNone : pending = [] :=
      List.length_eq_zero_iff.mp (by omega)
    rw [← Bool.not_eq_true, ← hPending, hNone]
    exact List.not_mem_nil
  · rintro ⟨hLost, hNone⟩
    have hEmpty : pending = [] := by
      rw [List.eq_nil_iff_forall_not_mem]
      intro call hMem
      rw [hPending, hNone call] at hMem
      cases hMem
    rw [hEmpty, List.length_nil] at hCount
    omega

/- Payment 1 is reconciled, up to the commit of its report. -/
def transitionRun : List Label :=
  unknownRun ++
    [⟨1, .reconcileBegin 1 1 0, .numbered 6⟩,
      ⟨1, .reconcileAnswer (.approved "txn"), .numbered 7⟩,
      ⟨1, .reconcileApply, .numbered 8⟩]

theorem transitions_match_reports_iff_reported :
    ∃ system,
      exec (step { sha256 := spellOut }) {}
          (transitionRun ++
            [⟨1, .reconcileReport, .numbered 9⟩]) =
          some system ∧
        (system.db.reconciliationEvents 1 =
            system.db.outcomeReports 1 ↔
          Meets (step { sha256 := spellOut })
              (ReportsNext 1) {}
              (transitionRun ++
                [⟨1, .reconcileReport, .numbered 9⟩]) ∧
            ∀ call,
              (system.calls call).owes 1 = false) ∧
        system.db.reconciliationEvents 1 = 1 ∧
        system.db.outcomeReports 1 = 1 := by
  have hRun :
      (exec (step { sha256 := spellOut }) {}
        (transitionRun ++
          [⟨1, .reconcileReport, .numbered 9⟩])).map
            (fun system =>
              decide (system.db.reconciliationEvents 1 = 1 ∧
                system.db.outcomeReports 1 = 1)) =
        some true := by
    decide +kernel
  rcases Option.map_eq_some_iff.mp hRun with
    ⟨system, hExec, hHolds⟩
  exact ⟨system, hExec,
    transitions_match_reports_iff hExec 1,
    of_decide_eq_true hHolds⟩

/-
  The process dies between the two commits: the payment has
  a transition by reconciliation and no report of it.
-/
theorem death_between_commits_loses_report :
    ∃ system,
      exec (step { sha256 := spellOut }) {}
          (transitionRun ++ [⟨1, .die, .numbered 9⟩]) =
          some system ∧
        system.db.reconciliationEvents 1 = 1 ∧
        system.db.outcomeReports 1 = 0 := by
  have hRun :
      (exec (step { sha256 := spellOut }) {}
        (transitionRun ++ [⟨1, .die, .numbered 9⟩])).map
          (fun system =>
            decide (system.db.reconciliationEvents 1 = 1 ∧
              system.db.outcomeReports 1 = 0)) =
        some true := by
    decide +kernel
  rcases Option.map_eq_some_iff.mp hRun with
    ⟨system, hExec, hHolds⟩
  exact ⟨system, hExec, of_decide_eq_true hHolds⟩

end PayGuard

import PayGuard.System.Lifecycle
import PayGuard.System.Questions

/-
  A payment the risk engine blocked stays dead.

  The assessment is committed before the payment is failed,
  so a crash in between leaves a blocked payment in
  `PROCESSING`.  No other service can carry it on, because
  none finds an attempt of it.

  Key definitions include:
    * `Assessing`
    * `Assessed`
    * `Dead`

  Key theorems include:
    * `Effect.assessing`
    * `assessed_effect`
    * `blocked_payment_stays_dead`
-/

------------------------------------------------------------
-- Who Writes The Audit Log
------------------------------------------------------------

namespace PayGuard

/- A step keeps the audit log, or assesses a payment. -/
inductive Assessing
    (system : System)
    (call : CallId)
    (next : System) : Prop where
| same
    (hLogs : next.db.auditLogs = system.db.auditLogs)
| assess
    (request : CreateRequest)
    (key : ClaimedKey)
    (intent : PaymentIntent)
    (assessment : RiskAssessment)
    (hCall :
      system.calls call =
        .createProcessing request key intent)
    (hNext :
      next.calls call =
        .createAssessed request key intent assessment.level)
    (hLogs :
      next.db.auditLogs =
        system.db.auditLogs ++
          [{ merchantId := request.merchantId
             paymentId := intent.id
             assessment := assessment }])
    (hPayments : next.db.payments = system.db.payments)

variable {config : Config}
variable {system next : System}
variable {call : CallId}
variable {draw : Draw}
variable {action : Action}

theorem Effect.assessing
    (hEffect :
      Effect config system call draw action next) :
    Assessing system call next := by
  cases hEffect with
  | quiet hQuiet _ => exact .same (by rw [hQuiet.db])
  | createInsert _ hBody =>
      exact .same (createInsert_sameLogs hBody).auditLogs
  | createProcess _ _ hBody =>
      exact .same (createProcess_sameLogs hBody).auditLogs
  | createAssess hCall =>
      exact .assess _ _ _ _ hCall
        (System.commit_calls_self _ _ _ _) rfl rfl
  | createBlock _ _ _ hBody =>
      exact .same (createBlock_sameLogs hBody).auditLogs
  | createFinish _ _ _ hBody =>
      exact .same (createFinish_sameLogs hBody).auditLogs
  | captureSettled _ _ _ =>
      exact .same (SameLogs.putKey _ _).auditLogs
  | captureOpen _ _ _ _ _ => exact .same rfl
  | captureFinish _ _ hBody =>
      exact .same (captureFinish_sameLogs hBody).auditLogs
  | refundReserve _ _ hBody =>
      exact .same (refundReserve_sameLogs hBody).auditLogs
  | refundAnswer _ _ => exact .same rfl
  | refundFinish _ _ _ hBody =>
      exact .same (refundFinalize_sameLogs hBody).auditLogs
  | receiveWebhook _ =>
      exact .same (receiveWebhook_sameLogs _ _ _).auditLogs
  | dispatchFinish _ _ hBody =>
      have hLogs := dispatchEffect_sameLogs hBody
      exact .same hLogs.auditLogs
  | reconcileApply _ _ hBody =>
      exact .same (reconcileApply_sameLogs hBody).auditLogs
  | reconcileReport _ => exact .same rfl
  | failWrite _ _ => exact .same rfl

end PayGuard

------------------------------------------------------------
-- Positions Around The Assessment
------------------------------------------------------------

namespace PayGuard

/- A creation that has not assessed its payment yet. -/
def Call.unassessed : Call → Option Uuid
| .createClaimed _ _ intent => some intent.id
| .createProcessing _ _ intent => some intent.id
| _ => none

variable {config : Config}
variable {system next : System}
variable {call : CallId}
variable {draw : Draw}
variable {action : Action}
variable {paymentId : Uuid}
variable {request : CreateRequest}
variable {key : ClaimedKey}
variable {intent : PaymentIntent}

theorem Turn.unassessed
    {position : Call}
    (hTurn : Turn config system call draw action position) :
    position.unassessed = none := by
  cases hTurn with
  | @begun _ _ _ check _ => cases check <;> rfl
  | @continued _ _ check _ _ => cases check <;> rfl
  | _ => rfl

theorem Effect.unassessed
    (hAdmits : system.db.Admits draw)
    (hEffect :
      Effect config system call draw action next)
    (hUnassessed :
      (next.calls call).unassessed = some paymentId) :
    (system.calls call).unassessed = some paymentId ∨
      paymentId ∉ system.db.payments.map (·.id) := by
  cases hEffect with
  | quiet _ hTurn =>
      rw [hTurn.unassessed] at hUnassessed
      cases hUnassessed
  | createInsert _ hBody =>
      simp only [System.recordOrigin_calls,
        System.commit_calls_self, Call.unassessed,
        Option.some.injEq] at hUnassessed
      rw [← hUnassessed, (createInsert_rows hBody).1]
      exact .inr hAdmits.2.1
  | createProcess hCall _ hBody =>
      simp only [System.commit_calls_self, Call.unassessed,
        Option.some.injEq] at hUnassessed
      rcases createProcess_rows hBody with
        ⟨locked, hLocked, hId, _⟩
      rw [hCall, ← hUnassessed, hId, lockPayment_id hLocked]
      exact .inl rfl
  | _ => simp [Call.unassessed] at hUnassessed

theorem Turn.not_assessed
    {level : RiskLevel}
    {position : Call}
    (hTurn : Turn config system call draw action position) :
    position ≠ .createAssessed request key intent level := by
  intro hPosition
  cases hTurn with
  | @begun _ _ _ check _ => cases check <;> cases hPosition
  | @continued _ _ check _ _ =>
      cases check <;> cases hPosition
  | _ => cases hPosition

theorem Turn.authorized_level
    {result : ProviderResult}
    {position : Call}
    (hTurn : Turn config system call draw action position)
    (hPosition :
      position =
        .createAuthorized request key intent result) :
    ∃ level,
      level ≠ .block ∧
        system.calls call =
          .createAssessed request key intent level := by
  cases hTurn with
  | authorized hCall hLevel =>
      cases hPosition
      exact ⟨_, hLevel, hCall⟩
  | @begun _ _ _ check _ => cases check <;> cases hPosition
  | @continued _ _ check _ _ =>
      cases check <;> cases hPosition
  | _ => cases hPosition

/- Only the committed assessment leads past itself. -/
theorem Effect.assessed
    {level : RiskLevel}
    (hEffect :
      Effect config system call draw action next)
    (hNext :
      next.calls call =
        .createAssessed request key intent level) :
    system.calls call =
        .createProcessing request key intent ∧
      ∃ assessment : RiskAssessment,
        assessment.level = level ∧
          next.db.auditLogs =
            system.db.auditLogs ++
              [{ merchantId := request.merchantId
                 paymentId := intent.id
                 assessment := assessment }] := by
  cases hEffect with
  | quiet _ hTurn => exact absurd hNext hTurn.not_assessed
  | createAssess hCall =>
      rw [System.commit_calls_self] at hNext
      cases hNext
      exact ⟨hCall, _, rfl, rfl⟩
  | _ => simp at hNext

theorem Effect.authorized
    {result : ProviderResult}
    (hEffect :
      Effect config system call draw action next)
    (hNext :
      next.calls call =
        .createAuthorized request key intent result) :
    next.db = system.db ∧
      ∃ level,
        level ≠ .block ∧
          system.calls call =
            .createAssessed request key intent level := by
  cases hEffect with
  | quiet hQuiet hTurn =>
      exact ⟨hQuiet.db, hTurn.authorized_level hNext⟩
  | _ => simp at hNext

end PayGuard

------------------------------------------------------------
-- The Invariant
------------------------------------------------------------

namespace PayGuard

/- The payment has been assessed, and not as `BLOCK`. -/
def Database.Cleared
    (db : Database)
    (paymentId : Uuid) : Prop :=
  ∃ log ∈ db.auditLogs,
    log.paymentId = paymentId ∧
      log.assessment.level ≠ .block

/- Creations and provider calls follow the audit log. -/
structure Assessed (system : System) : Prop where
  onFile :
    ∀ log ∈ system.db.auditLogs,
      log.paymentId ∈ system.db.payments.map (·.id)
  started :
    ∀ log ∈ system.db.auditLogs,
      ∀ row ∈ system.db.payments,
        row.id = log.paymentId → row.status ≠ .created
  waiting :
    ∀ call paymentId,
      (system.calls call).unassessed = some paymentId →
        ∀ log ∈ system.db.auditLogs,
          log.paymentId ≠ paymentId
  assessed :
    ∀ call request key intent level,
      system.calls call =
          .createAssessed request key intent level →
        (∃ log ∈ system.db.auditLogs,
            log.paymentId = intent.id) ∧
          ∀ log ∈ system.db.auditLogs,
            log.paymentId = intent.id →
              log.assessment.level = level
  authorized :
    ∀ call request key intent result,
      system.calls call =
          .createAuthorized request key intent result →
        ∀ log ∈ system.db.auditLogs,
          log.paymentId = intent.id →
            log.assessment.level ≠ .block
  asked :
    ∀ paymentId request result,
      ProviderCall.authorize paymentId request result ∈
          system.providerCalls →
        system.db.Cleared paymentId
  blocked :
    ∀ log ∈ system.db.auditLogs,
      log.assessment.level = .block →
        ¬ system.db.Tried log.paymentId

theorem assessed_initial : Assessed {} where
  onFile := by simp
  started := by simp
  waiting := by simp
  assessed := by
    intro call request key intent level hCall
    cases hCall
  authorized := by simp
  asked := by simp
  blocked := by simp

variable {config : Config}
variable {system next : System}
variable {call : CallId}
variable {draw : Draw}
variable {action : Action}
variable {paymentId : Uuid}

/- The payment of an assessed creation is cleared or not. -/
theorem Assessed.cleared
    {request : CreateRequest}
    {key : ClaimedKey}
    {intent : PaymentIntent}
    {level : RiskLevel}
    (hAssessed : Assessed system)
    (hLevel : level ≠ .block)
    (hCall :
      system.calls call =
        .createAssessed request key intent level) :
    system.db.Cleared intent.id := by
  rcases hAssessed.assessed call _ _ _ _ hCall with
    ⟨⟨log, hLog, hId⟩, hLevels⟩
  refine ⟨log, hLog, hId, ?_⟩
  rw [hLevels log hLog hId]
  exact hLevel

theorem Assessing.mono
    {log : AuditLog}
    (hAssessing : Assessing system call next)
    (hLog : log ∈ system.db.auditLogs) :
    log ∈ next.db.auditLogs := by
  cases hAssessing with
  | same hLogs =>
      rw [hLogs]
      exact hLog
  | assess _ _ _ _ _ _ hLogs _ =>
      rw [hLogs]
      exact List.mem_append_left _ hLog

/- A new log is about the payment of the acting call. -/
theorem Assessing.mem
    {log : AuditLog}
    (hAssessing : Assessing system call next)
    (hLog : log ∈ next.db.auditLogs) :
    log ∈ system.db.auditLogs ∨
      ∃ request key intent,
        system.calls call =
            .createProcessing request key intent ∧
          log.paymentId = intent.id ∧
          next.calls call =
            .createAssessed request key intent
              log.assessment.level ∧
          next.db.payments = system.db.payments := by
  cases hAssessing with
  | same hLogs =>
      rw [hLogs] at hLog
      exact .inl hLog
  | assess request key intent assessment hCall hNext hLogs
      hPayments =>
      rw [hLogs, List.mem_append, List.mem_singleton] at hLog
      rcases hLog with hOld | rfl
      · exact .inl hOld
      · exact .inr ⟨request, key, intent, hCall, rfl, hNext,
          hPayments⟩

/- Logs of another creation's payment are old ones. -/
theorem Provenance.log_of_other
    {other : CallId}
    {intent : PaymentIntent}
    {status : PaymentStatus}
    {log : AuditLog}
    (hProvenance : Provenance system)
    (hAssessing : Assessing system call next)
    (hOther : other ≠ call)
    (hCreating :
      (system.calls other).creating = some (intent, status))
    (hLog : log ∈ next.db.auditLogs)
    (hId : log.paymentId = intent.id) :
    log ∈ system.db.auditLogs := by
  rcases hAssessing.mem hLog with
    hOld | ⟨request, key, mine, hCall, hMine, _, _⟩
  · exact hOld
  · have hApart :=
      hProvenance.distinct call other mine intent _ status
        hOther (by rw [hCall]; rfl) hCreating
    exact absurd (hMine.symm.trans hId) hApart

theorem Call.creating_of_unassessed
    {position : Call}
    (hUnassessed : position.unassessed = some paymentId) :
    ∃ intent status,
      position.creating = some (intent, status) ∧
        intent.id = paymentId := by
  cases position with
  | createClaimed request key intent =>
      cases hUnassessed
      exact ⟨intent, _, rfl, rfl⟩
  | createProcessing request key intent =>
      cases hUnassessed
      exact ⟨intent, _, rfl, rfl⟩
  | _ => cases hUnassessed

/- An assessed payment does not go back to `CREATED`. -/
theorem Assessed.started_next
    (hAssessed : Assessed system)
    (hProvenance : Provenance system)
    (hAssessing : Assessing system call next)
    (hDealt :
      ∀ paymentId, Dealt system call next paymentId) :
    ∀ log ∈ next.db.auditLogs,
      ∀ row ∈ next.db.payments,
        row.id = log.paymentId → row.status ≠ .created := by
  intro log hLog row hRow hId
  rcases hAssessing.mem hLog with
    hOld | ⟨request, key, intent, hCall, hMine, _, hPayments⟩
  · have hKept :
        ∀ old ∈ system.db.payments,
          old.id = row.id →
            old.status = row.status →
              row.status ≠ .created := by
      intro old hOldRow hOldId hStatus
      rw [← hStatus]
      exact hAssessed.started log hOld old hOldRow
        (hOldId.trans hId)
    cases hDealt row.id with
    | spared hSpared =>
        rcases hSpared.statuses row hRow rfl with
          ⟨old, hOldRow, hOldId, hStatus⟩
        exact hKept old hOldRow hOldId hStatus
    | created hFresh _ _ =>
        rw [hId] at hFresh
        exact absurd (hAssessed.onFile log hOld) hFresh
    | processed _ _ _ _ _ hRows _ =>
        rw [hRows row hRow rfl]
        simp
    | blocked _ _ _ _ _ hLands _ =>
        rcases hLands row hRow with
          ⟨old, hOldRow, hOldId, hStatus⟩ | ⟨_, hFailed⟩
        · exact hKept old hOldRow hOldId hStatus
        · rw [List.mem_singleton.mp hFailed]
          simp
    | authorized _ _ _ result _ _ hLands _ _ =>
        rcases hLands row hRow with
          ⟨old, hOldRow, hOldId, hStatus⟩ | ⟨_, hTarget⟩
        · exact hKept old hOldRow hOldId hStatus
        · intro hStatus
          rw [hStatus] at hTarget
          cases hOutcome : result.outcome <;>
            simp [hOutcome, authorizeTargets] at hTarget
    | touched _ _ hLands _ hOpen =>
        rcases hLands row hRow with
          ⟨old, hOldRow, hOldId, hStatus⟩ | ⟨_, hTarget⟩
        · exact hKept old hOldRow hOldId hStatus
        · intro hStatus
          have hUnknown :=
            (hOpen row.status hTarget (by rw [hStatus]; rfl)).1
          rw [hStatus] at hUnknown
          cases hUnknown
  · rw [hPayments] at hRow
    have hPristine :=
      hProvenance.creating call intent .processing
        (by rw [hCall]; rfl)
    rw [hPristine.rows row hRow (hId.trans hMine)]
    simp

/- A blocked payment gets no attempt. -/
theorem Assessed.blocked_next
    (hAssessed : Assessed system)
    (hProvenance : Provenance system)
    (hAssessing : Assessing system call next)
    (hDealt :
      ∀ paymentId, Dealt system call next paymentId) :
    ∀ log ∈ next.db.auditLogs,
      log.assessment.level = .block →
        ¬ next.db.Tried log.paymentId := by
  intro log hLog hBlock
  have hBefore : ¬ system.db.Tried log.paymentId := by
    rcases hAssessing.mem hLog with
      hOld | ⟨_, _, intent, hCall, hMine, _, _⟩
    · exact hAssessed.blocked log hOld hBlock
    · rw [hMine]
      exact (hProvenance.creating call intent .processing
        (by rw [hCall]; rfl)).untried
  cases hDealt log.paymentId with
  | spared hSpared =>
      rw [hSpared.tried_iff]
      exact hBefore
  | created _ _ hSame =>
      rw [hSame.tried_iff]
      exact hBefore
  | processed _ _ _ _ _ _ hSame =>
      rw [hSame.tried_iff]
      exact hBefore
  | blocked _ _ _ _ _ _ hSame =>
      rw [hSame.tried_iff]
      exact hBefore
  | authorized _ _ intent _ hCall hId _ _ _ =>
      rcases hAssessing.mem hLog with
        hOld | ⟨_, _, _, hProcessing, _⟩
      · exact absurd hBlock
          (hAssessed.authorized call _ _ _ _ hCall log hOld
            hId.symm)
      · rw [hCall] at hProcessing
        cases hProcessing
  | touched _ hTouched _ _ _ =>
      exact absurd (hProvenance.tried hTouched) hBefore

end PayGuard

------------------------------------------------------------
-- Steps And Runs
------------------------------------------------------------

namespace PayGuard

open Lts

variable {config : Config}
variable {system next : System}
variable {label : Label}

/- What is logged is logged for a payment on file. -/
theorem Assessed.onFile_next
    (hAssessed : Assessed system)
    (hProvenance : Provenance system)
    (hAssessing : Assessing system label.call next)
    (hTrail : TrailStep config system label.call next.db) :
    ∀ log ∈ next.db.auditLogs,
      log.paymentId ∈ next.db.payments.map (·.id) := by
  intro log hLog
  have hBefore :
      log.paymentId ∈ system.db.payments.map (·.id) := by
    rcases hAssessing.mem hLog with
      hOld | ⟨_, _, intent, hCall, hMine, _, _⟩
    · exact hAssessed.onFile log hOld
    · rw [hMine]
      exact (hProvenance.creating label.call intent
        .processing (by rw [hCall]; rfl)).onFile
  rcases hTrail.paymentIds with hSame | ⟨_, _, hAdded⟩
  · rw [hSame]
    exact hBefore
  · rw [hAdded]
    exact List.mem_append_left _ hBefore

/- Only a cleared creation asks the provider. -/
theorem Assessed.cleared_of_asked
    {paymentId : Uuid}
    {request : AuthorizeRequest}
    {result : ProviderResult}
    (hAssessed : Assessed system)
    (hStep : step config system label = some next)
    (hAsked :
      .authorize paymentId request result ∈
        next.providerCalls) :
    system.db.Cleared paymentId := by
  cases step_asked hStep with
  | same hCalls =>
      rw [hCalls] at hAsked
      exact hAssessed.asked paymentId request result hAsked
  | authorize _ _ intent level _ hCall hLevel _ _ hCalls =>
      rw [hCalls, List.mem_append, List.mem_singleton]
        at hAsked
      rcases hAsked with hOld | hNew
      · exact hAssessed.asked paymentId request result hOld
      · cases hNew
        exact hAssessed.cleared hLevel hCall
  | capture _ _ _ _ _ _ hCalls =>
      simp only [hCalls, List.mem_append,
        List.mem_singleton, reduceCtorEq, or_false]
        at hAsked
      exact hAssessed.asked paymentId request result hAsked
  | refund _ _ _ _ _ _ hCalls =>
      simp only [hCalls, List.mem_append,
        List.mem_singleton, reduceCtorEq, or_false]
        at hAsked
      exact hAssessed.asked paymentId request result hAsked
  | lookup _ _ _ _ hCalls =>
      simp only [hCalls, List.mem_append,
        List.mem_singleton, reduceCtorEq, or_false]
        at hAsked
      exact hAssessed.asked paymentId request result hAsked

/- Every step keeps creations behind the audit log. -/
theorem assessed_step
    (hAssessed : Assessed system)
    (hLifecycle : Lifecycle system)
    (hStep : step config system label = some next) :
    Assessed next := by
  rcases step_effect hStep with ⟨hAdmits, hEffect⟩
  have hProvenance := hLifecycle.provenance
  have hFrame := hEffect.frame
  have hAssessing := hEffect.assessing
  have hDealt :
      ∀ paymentId, Dealt system label.call next paymentId :=
    fun _ => hEffect.dealt hLifecycle.typed hAdmits
  refine
    { onFile :=
        hAssessed.onFile_next hProvenance hAssessing
          (hEffect.trailStep hLifecycle.held.captures
            hAdmits)
      started :=
        hAssessed.started_next hProvenance hAssessing hDealt
      waiting := ?_
      assessed := ?_
      authorized := ?_
      asked := ?_
      blocked :=
        hAssessed.blocked_next hProvenance hAssessing hDealt }
  · intro other paymentId hUnassessed log hLog hId
    by_cases hOther : other = label.call
    · subst hOther
      rcases hAssessing.mem hLog with
        hOld | ⟨_, _, _, _, _, hNext, _⟩
      · rcases hEffect.unassessed hAdmits hUnassessed with
          hBefore | hFresh
        · exact hAssessed.waiting label.call paymentId
            hBefore log hOld hId
        · rw [← hId] at hFresh
          exact hFresh (hAssessed.onFile log hOld)
      · rw [hNext] at hUnassessed
        cases hUnassessed
    · rw [hFrame.calls other hOther] at hUnassessed
      rcases Call.creating_of_unassessed hUnassessed with
        ⟨intent, status, hCreating, hIntent⟩
      have hOld :=
        hProvenance.log_of_other hAssessing hOther hCreating
          hLog (hId.trans hIntent.symm)
      exact hAssessed.waiting other paymentId hUnassessed
        log hOld hId
  · intro other request key intent level hCall
    by_cases hOther : other = label.call
    · subst hOther
      rcases hEffect.assessed hCall with
        ⟨hBefore, assessment, hLevel, hLogs⟩
      rw [hLogs]
      refine ⟨⟨_, List.mem_append_right _
        (List.mem_singleton_self _), rfl⟩, ?_⟩
      intro log hLog hId
      rw [List.mem_append, List.mem_singleton] at hLog
      rcases hLog with hOld | rfl
      · exact absurd hId
          (hAssessed.waiting label.call intent.id
            (by rw [hBefore]; rfl) log hOld)
      · exact hLevel
    · rw [hFrame.calls other hOther] at hCall
      rcases hAssessed.assessed other _ _ _ _ hCall with
        ⟨⟨log, hLog, hId⟩, hLevels⟩
      refine ⟨⟨log, hAssessing.mono hLog, hId⟩, ?_⟩
      intro log hLog hId
      exact hLevels log
        (hProvenance.log_of_other hAssessing hOther
          (by rw [hCall]; rfl) hLog hId) hId
  · intro other request key intent result hCall log hLog hId
    by_cases hOther : other = label.call
    · subst hOther
      rcases hEffect.authorized hCall with
        ⟨hDb, level, hLevel, hBefore⟩
      rw [hDb] at hLog
      rw [(hAssessed.assessed label.call _ _ _ _
        hBefore).2 log hLog hId]
      exact hLevel
    · rw [hFrame.calls other hOther] at hCall
      exact hAssessed.authorized other _ _ _ _ hCall log
        (hProvenance.log_of_other hAssessing hOther
          (by rw [hCall]; rfl) hLog hId) hId
  · intro paymentId request result hAsked
    rcases hAssessed.cleared_of_asked hStep hAsked with
      ⟨log, hLog, hId, hLevel⟩
    exact ⟨log, hAssessing.mono hLog, hId, hLevel⟩

/- What never happens to a blocked payment. -/
structure Dead
    (db : Database)
    (paymentId : Uuid) : Prop where
  onFile : paymentId ∈ db.payments.map (·.id)
  status :
    ∀ row ∈ db.payments,
      row.id = paymentId →
        row.status = .processing ∨ row.status = .failed
  attempts :
    ∀ attempt ∈ db.attempts,
      attempt.paymentIntentId ≠ paymentId
  transactions :
    ∀ transaction ∈ db.providerTransactions,
      ∀ attempt ∈ db.attempts,
        transaction.paymentAttemptId = attempt.id →
          attempt.paymentIntentId ≠ paymentId
  refunds :
    ∀ refund ∈ db.refunds,
      refund.paymentIntentId ≠ paymentId
  ledger :
    ∀ entry ∈ db.ledger,
      entry.paymentIntentId ≠ paymentId

theorem Assessed.dead
    {log : AuditLog}
    (hAssessed : Assessed system)
    (hProvenance : Provenance system)
    (hLog : log ∈ system.db.auditLogs)
    (hBlock : log.assessment.level = .block) :
    Dead system.db log.paymentId := by
  have hUntried := hAssessed.blocked log hLog hBlock
  have hUntouched :=
    hProvenance.untried log.paymentId hUntried
  have hAttempts :
      ∀ attempt ∈ system.db.attempts,
        attempt.paymentIntentId ≠ log.paymentId := by
    intro attempt hAttempt hId
    exact hUntried ⟨attempt, hAttempt, hId⟩
  refine
    { onFile := hAssessed.onFile log hLog
      status := ?_
      attempts := hAttempts
      transactions := fun _ _ attempt hAttempt _ =>
        hAttempts attempt hAttempt
      refunds := hUntouched.refunds
      ledger := hUntouched.ledger }
  intro row hRow hId
  rcases hUntouched.status row hRow hId with
    hCreated | hStatus
  · exact absurd hCreated
      (hAssessed.started log hLog row hRow hId)
  · exact hStatus

/-
  In every reachable state the provider has been, or is
  being, asked to authorize cleared payments only, and a
  blocked payment is dead.
-/
theorem blocked_payment_stays_dead
    {config : Config}
    {labels : List Label}
    {system : System}
    (hRun : exec (step config) {} labels = some system) :
    (∀ paymentId request result,
        ProviderCall.authorize paymentId request result ∈
            system.providerCalls →
          system.db.Cleared paymentId) ∧
      (∀ call request key intent level,
        system.calls call =
            .createAssessed request key intent level →
          level ≠ .block →
            system.db.Cleared intent.id) ∧
      ∀ log ∈ system.db.auditLogs,
        log.assessment.level = .block →
          Dead system.db log.paymentId := by
  have hKeep :
      ∀ (state : System) (label : Label) (next : System),
        (Lifecycle state ∧ Assessed state) →
          step config state label = some next →
            (Lifecycle next ∧ Assessed next) := by
    intro state label next hState hStep
    exact ⟨lifecycle_step hState.1 hStep,
      assessed_step hState.2 hState.1 hStep⟩
  rcases invariant_of_exec hKeep
      ⟨lifecycle_initial, assessed_initial⟩ hRun with
    ⟨hLifecycle, hAssessed⟩
  refine ⟨hAssessed.asked, ?_, ?_⟩
  · intro call request key intent level hCall hLevel
    exact hAssessed.cleared hLevel hCall
  · intro log hLog hBlock
    exact hAssessed.dead hLifecycle.provenance hLog hBlock

/- The process dies after the assessment of payment 1. -/
def blockedRun : List Label :=
  [⟨0, .createBegin
      { merchantId := 1
        idempotencyKey := "create"
        amountMinor := 2000000
        currency := "USD"
        paymentToken := "tok_visa"
        billingCountry := some "US"
        shippingCountry := some "FR"
        customerIp := some "203.0.113.9" }, .numbered 1⟩,
    ⟨0, .createProcess, .numbered 2⟩,
    ⟨0, .createAssess, .numbered 3⟩,
    ⟨0, .die, .numbered 4⟩,
    ⟨1, .captureBegin
      { merchantId := 1
        paymentId := 1
        idempotencyKey := "capture" }, .numbered 5⟩]

theorem blocked_payment_stays_dead_crashed :
    ∃ system log,
      exec (step { sha256 := spellOut }) {} blockedRun =
          some system ∧
        log ∈ system.db.auditLogs ∧
        log.assessment.level = .block ∧
        log.paymentId = 1 ∧
        Dead system.db 1 := by
  have hRun :
      (exec (step { sha256 := spellOut }) {}
        blockedRun).map (fun system =>
          system.db.auditLogs.map (fun log =>
            (log.paymentId, log.assessment.level))) =
        some [(1, .block)] := by
    decide +kernel
  rcases Option.map_eq_some_iff.mp hRun with
    ⟨system, hExec, hLogs⟩
  have hMem :
      (1, RiskLevel.block) ∈
        system.db.auditLogs.map (fun log =>
          (log.paymentId, log.assessment.level)) := by
    rw [hLogs]
    exact List.mem_singleton_self _
  rcases List.mem_map.mp hMem with ⟨log, hLog, hPair⟩
  rcases Prod.mk.inj hPair with ⟨hId, hBlock⟩
  have hDead :=
    (blocked_payment_stays_dead hExec).2.2 log hLog hBlock
  rw [hId] at hDead
  exact ⟨system, log, hExec, hLog, hBlock, hId, hDead⟩

end PayGuard

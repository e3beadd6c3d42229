import PayGuard.System.Filings

/-
  Who signs the events a step adds, and when.

  A transaction adds the events of one actor, and they carry
  the time the transaction began.  Only the second
  transaction of a reconciliation signs as reconciliation.

  Key definitions include:
    * `Signs`

  Key theorems include:
    * `Effect.signs`
    * `Effect.sameReports`
-/

------------------------------------------------------------
-- Signed Events
------------------------------------------------------------

namespace PayGuard

/- Every added event is signed by the actor at this time. -/
def Signs
    (actor : Actor)
    (draw : Draw)
    (db db' : Database) : Prop :=
  ∃ added : List PaymentEvent,
    db'.events = db.events ++ added ∧
      ∀ event ∈ added,
        event.actor = actor ∧
          event.createdAt = draw.serverNow

namespace Signs

variable {db db' base : Database}
variable {intent moved : PaymentIntent}
variable {actor : Actor}
variable {draw : Draw}

theorem of_events
    (hEvents : db'.events = db.events) :
    Signs actor draw db db' :=
  ⟨[], by rw [hEvents, List.append_nil], by simp⟩

theorem after
    (hEvents : base.events = db.events)
    (hSigns : Signs actor draw base db') :
    Signs actor draw db db' := by
  obtain ⟨added, hAdded, hSigned⟩ := hSigns
  exact ⟨added, hEvents ▸ hAdded, hSigned⟩

theorem andThen
    (hSigns : Signs actor draw db base)
    (hEvents : db'.events = base.events) :
    Signs actor draw db db' := by
  obtain ⟨added, hAdded, hSigned⟩ := hSigns
  exact ⟨added, hEvents.trans hAdded, hSigned⟩

theorem of_applyTransition
    {toStatus : PaymentStatus}
    {eventType : String}
    (hApply :
      applyTransition db intent toStatus actor eventType
        draw = .ok (db', moved)) :
    Signs actor draw db db' := by
  obtain ⟨-, rfl, -⟩ := applyTransition_eq_ok.mp hApply
  exact ⟨_, rfl, by simp⟩

theorem of_applyAuthorizeOutcome
    {outcome : ProviderOutcome}
    (hApply :
      applyAuthorizeOutcome db intent outcome draw =
        .ok (db', moved)) :
    Signs .api draw db db' := by
  unfold applyAuthorizeOutcome at hApply
  cases outcome with
  | declined => exact of_applyTransition hApply
  | unknown => exact of_applyTransition hApply
  | succeeded =>
      cases hApply
      exact of_events rfl
  | temporaryFailure =>
      cases hApply
      exact of_events rfl

theorem of_enterRefundPending
    (hEnter :
      enterRefundPending db intent draw =
        .ok (db', moved)) :
    Signs .api draw db db' := by
  unfold enterRefundPending at hEnter
  split at hEnter
  · cases hEnter
    exact of_events rfl
  · exact of_applyTransition hEnter

theorem of_leaveRefundPending
    (hLeave :
      leaveRefundPending db intent draw =
        .ok (db', moved)) :
    Signs .api draw db db' := by
  unfold leaveRefundPending at hLeave
  split at hLeave
  · split at hLeave
    · exact of_applyTransition hLeave
    · split at hLeave
      · exact of_applyTransition hLeave
      · exact of_applyTransition hLeave
  · cases hLeave
    exact of_events rfl

end Signs

------------------------------------------------------------
-- The Transactions
------------------------------------------------------------

variable {db db' : Database}
variable {locked : Option PaymentIntent}
variable {intent moved : PaymentIntent}
variable {keyRow : IdempotencyKey}
variable {keyRowId : Uuid}
variable {providerName : String}
variable {result : ProviderResult}
variable {response : Response}
variable {draw : Draw}

theorem createInsert_signs
    {indexable : PyString → Bool}
    {request : CreateRequest}
    (hBody :
      createInsert indexable db request keyRow draw =
        .ok (db', intent)) :
    Signs .api draw db db' := by
  obtain ⟨-, -, rfl⟩ := createInsert_eq_ok hBody
  obtain ⟨keys, hKeys⟩ := putKey_eq db keyRow
  rw [hKeys]
  exact ⟨_, rfl, by simp⟩

theorem createBlock_signs
    (hBody :
      createBlock db locked keyRowId draw =
        .ok (db', response)) :
    Signs .api draw db db' := by
  obtain ⟨_, base, _, -, hApply, rfl, -⟩ :=
    createBlock_eq_ok hBody
  exact (Signs.of_applyTransition hApply).andThen rfl

theorem createFinish_signs
    (hBody :
      createFinish db locked keyRowId providerName result
        draw = .ok (db', response)) :
    Signs .api draw db db' := by
  obtain ⟨_, _, base, _, _, -, hApply, rfl, -⟩ :=
    createFinish_eq_ok hBody
  exact ((Signs.of_applyAuthorizeOutcome hApply).after
    rfl).andThen rfl

theorem captureFinish_signs
    (hBody :
      captureFinish db intent keyRow result draw =
        .ok (db', response)) :
    Signs .api draw db db' := by
  obtain ⟨base, _, hOutcome, rfl, -⟩ :=
    captureFinish_eq_ok hBody
  have hPut : (db.putKey keyRow).events = db.events :=
    (SameTrail.putKey db keyRow).events
  have hMoved : Signs .api draw (db.putKey keyRow) base := by
    rcases applyCaptureOutcome_eq_ok hOutcome with
      ⟨_, settled, hApply, rfl⟩ | ⟨_, _, _, _, _, hApply⟩
    · exact (Signs.of_applyTransition hApply).andThen rfl
    · exact Signs.of_applyTransition hApply
  exact (hMoved.after hPut).andThen rfl

theorem refundReserve_signs
    {request : RefundRequest}
    {reservation : Reservation}
    (hBody :
      refundReserve db locked request keyRow draw =
        .ok (db', reservation)) :
    Signs .api draw db db' := by
  obtain ⟨_, -, -, -, -, -, -, hEnter⟩ :=
    refundReserve_eq_ok hBody
  have hPut : (db.putKey keyRow).events = db.events :=
    (SameTrail.putKey db keyRow).events
  exact (Signs.of_enterRefundPending hEnter).after hPut

theorem refundFinalize_signs
    {refund : Refund}
    (hBody :
      refundFinalize db locked refund keyRowId result draw =
        .ok (db', response)) :
    Signs .api draw db db' := by
  obtain ⟨_, left, _, _, -, hLeave, rfl, -⟩ :=
    refundFinalize_eq_ok hBody
  exact ((Signs.of_leaveRefundPending hLeave).after
    (settleRefund_sameTrail db _ refund result.outcome
      draw).events).andThen rfl

theorem dispatchEffect_signs
    {config : Config}
    {webhookEventId : Uuid}
    {plan : WebhookPlan}
    (hBody :
      dispatchEffect config db webhookEventId plan draw =
        .ok db') :
    Signs .webhook draw db db' := by
  cases plan with
  | skip =>
      cases hBody
      exact Signs.of_events rfl
  | ignore =>
      cases hBody
      exact Signs.of_events rfl
  | outcome targetStatus intent =>
      rcases handlePaymentOutcome_eq_ok hBody with
        ⟨_, _, _, rfl | ⟨_, base, moved, hApply, rfl⟩⟩
      · exact Signs.of_events rfl
      · exact (Signs.of_applyTransition hApply).andThen
          (settleByWebhook_sameTrail base moved targetStatus
            draw).events

theorem reconcileApply_signs
    {report : ReconciliationReport}
    (hBody :
      reconcileApply db locked providerName result draw =
        .ok (db', report)) :
    Signs .reconciliation draw db db' := by
  rcases reconcileApply_eq_ok hBody with
    ⟨_, _, ⟨rfl, _⟩ | ⟨_, _, _, _, hApply⟩ | ⟨_, hResolve⟩⟩
  · exact Signs.of_events rfl
  · exact Signs.of_applyTransition hApply
  · rcases resolve_eq_ok hResolve with
      ⟨_, _, hSucceeded⟩ | ⟨_, _, hFailed⟩
    · obtain ⟨_, base, _, _, -, hApply, rfl⟩ :=
        resolveSucceeded_eq_ok hSucceeded
      exact ((Signs.of_applyTransition hApply).after
        rfl).andThen rfl
    · obtain ⟨_, base, _, -, hApply, rfl⟩ :=
        resolveFailed_eq_ok hFailed
      exact (Signs.of_applyTransition hApply).andThen rfl

------------------------------------------------------------
-- The Steps
------------------------------------------------------------

/- Who signs what an action adds. -/
def Action.actor : Action → Actor
| .dispatchFinish => .webhook
| .reconcileApply => .reconciliation
| _ => .api

variable {config : Config}
variable {system next : System}
variable {call : CallId}
variable {action : Action}

theorem Effect.signs
    (hEffect :
      Effect config system call draw action next) :
    Signs action.actor draw system.db next.db := by
  cases hEffect with
  | quiet hQuiet => exact Signs.of_events (by rw [hQuiet.db])
  | createInsert _ hBody => exact createInsert_signs hBody
  | createProcess _ _ hBody =>
      obtain ⟨_, -, hApply⟩ := createProcess_eq_ok hBody
      exact Signs.of_applyTransition hApply
  | createAssess _ => exact Signs.of_events rfl
  | createBlock _ _ _ hBody => exact createBlock_signs hBody
  | createFinish _ _ _ hBody => exact createFinish_signs hBody
  | captureSettled _ _ _ =>
      exact Signs.of_events
        (captureSettled_sameTrail _ _ _).events
  | captureOpen _ _ _ _ => exact Signs.of_events rfl
  | captureFinish _ _ hBody => exact captureFinish_signs hBody
  | refundReserve _ _ hBody => exact refundReserve_signs hBody
  | refundAnswer _ _ => exact Signs.of_events rfl
  | refundFinish _ _ _ hBody => exact refundFinalize_signs hBody
  | receiveWebhook _ =>
      exact Signs.of_events
        (receiveWebhook_sameTrail _ _ _).events
  | dispatchFinish _ _ hBody =>
      exact (dispatchEffect_signs hBody).andThen rfl
  | reconcileApply _ _ hBody => exact reconcileApply_signs hBody
  | reconcileReport _ => exact Signs.of_events rfl
  | failWrite _ _ => exact Signs.of_events rfl

/- Only the report's own commit writes a report. -/
theorem Effect.sameReports
    (hEffect :
      Effect config system call draw action next)
    (hReport : action ≠ .reconcileReport) :
    next.db.reports = system.db.reports := by
  cases hEffect with
  | quiet hQuiet => rw [hQuiet.db]
  | createInsert _ hBody =>
      exact (createInsert_sameLogs hBody).reports
  | createProcess _ _ hBody =>
      exact (createProcess_sameLogs hBody).reports
  | createAssess _ => rfl
  | createBlock _ _ _ hBody =>
      exact (createBlock_sameLogs hBody).reports
  | createFinish _ _ _ hBody =>
      exact (createFinish_sameLogs hBody).reports
  | captureSettled _ _ _ =>
      exact (SameLogs.putKey _ _).reports
  | captureOpen _ _ _ _ => rfl
  | captureFinish _ _ hBody =>
      exact (captureFinish_sameLogs hBody).reports
  | refundReserve _ _ hBody =>
      exact (refundReserve_sameLogs hBody).reports
  | refundAnswer _ _ => rfl
  | refundFinish _ _ _ hBody =>
      exact (refundFinalize_sameLogs hBody).reports
  | receiveWebhook _ =>
      exact (receiveWebhook_sameLogs _ _ _).reports
  | dispatchFinish _ _ hBody =>
      exact (dispatchEffect_sameLogs hBody).reports
  | reconcileApply _ _ hBody =>
      exact (reconcileApply_sameLogs hBody).reports
  | reconcileReport _ => exact absurd rfl hReport
  | failWrite _ _ => rfl

end PayGuard

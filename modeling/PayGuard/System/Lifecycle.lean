import PayGuard.System.Filings

/-
  What is known about a payment from where its calls stand.

  Until its creation has recorded the provider's answer, a
  payment is moved by that creation only: every other
  service finds its way to a payment through an attempt.

  Key definitions include:
    * `Call.touched` and `Call.creating`
    * `Spared`
    * `Dealt`
    * `Provenance`
    * `Lifecycle`

  Key theorems include:
    * `Effect.dealt`
    * `provenance_effect`
    * `openUnsettled_effect`
    * `lifecycle_of_exec`
-/

------------------------------------------------------------
-- The Payment Of A Call
------------------------------------------------------------

namespace PayGuard

/- The payment a call has found through an attempt. -/
def Call.touched : Call → Option Uuid
| .captureOpen _ _ intent _ => some intent.id
| .refundReserved request _ _ => some request.paymentId
| .refundAnswered request _ _ _ => some request.paymentId
| .dispatchOpen _ _ (.outcome _ intent) => some intent.id
| .reconcileLoaded intent => some intent.id
| .reconcileAsking intent _ => some intent.id
| .reconcileAnswered intent _ => some intent.id
| _ => none

/- The payment a call is creating, and its status. -/
def Call.creating :
    Call → Option (PaymentIntent × PaymentStatus)
| .createClaimed _ _ intent => some (intent, .created)
| .createProcessing _ _ intent => some (intent, .processing)
| .createAssessed _ _ intent _ => some (intent, .processing)
| .createAuthorized _ _ intent _ =>
    some (intent, .processing)
| _ => none

/- Statuses that leave open whether the payment is taken. -/
def PaymentStatus.isOpen : PaymentStatus → Bool
| .created | .processing | .unknown => true
| _ => false

/- A transaction leaves one payment and its records alone. -/
structure Spared
    (paymentId : Uuid)
    (db db' : Database) : Prop where
  statuses :
    ∀ row ∈ db'.payments,
      row.id = paymentId →
        ∃ old ∈ db.payments,
          old.id = paymentId ∧ old.status = row.status
  attempts :
    ∀ attempt : PaymentAttempt,
      attempt.paymentIntentId = paymentId →
        (attempt ∈ db'.attempts ↔ attempt ∈ db.attempts)
  refunds :
    ∀ row ∈ db'.refunds,
      row.paymentIntentId = paymentId →
        ∃ old ∈ db.refunds, old.paymentIntentId = paymentId
  ledger :
    ∀ entry ∈ db'.ledger,
      entry.paymentIntentId = paymentId → entry ∈ db.ledger
  settlement :
    db'.settlementOf paymentId = db.settlementOf paymentId

/-
  Everything a step can do to one payment.  Past its
  creation the payment has an attempt, and only a capture
  leaves the outcome open again.
-/
inductive Dealt
    (system : System)
    (call : CallId)
    (next : System)
    (paymentId : Uuid) : Prop where
| spared (hSpared : Spared paymentId system.db next.db)
| created
    (hFresh :
      paymentId ∉ system.db.payments.map (·.id))
    (hRows :
      ∀ row ∈ next.db.payments,
        row.id = paymentId → row.status = .created)
    (hSame : SameFiles system.db next.db)
| processed
    (request : CreateRequest)
    (key : ClaimedKey)
    (intent : PaymentIntent)
    (hCall :
      system.calls call =
        .createClaimed request key intent)
    (hId : intent.id = paymentId)
    (hRows :
      ∀ row ∈ next.db.payments,
        row.id = paymentId → row.status = .processing)
    (hSame : SameFiles system.db next.db)
| blocked
    (request : CreateRequest)
    (key : ClaimedKey)
    (intent : PaymentIntent)
    (hCall :
      system.calls call =
        .createAssessed request key intent .block)
    (hId : intent.id = paymentId)
    (hLands : Lands system.db paymentId [.failed] next.db)
    (hSame : SameFiles system.db next.db)
| authorized
    (request : CreateRequest)
    (key : ClaimedKey)
    (intent : PaymentIntent)
    (result : ProviderResult)
    (hCall :
      system.calls call =
        .createAuthorized request key intent result)
    (hId : intent.id = paymentId)
    (hLands :
      Lands system.db paymentId
        (authorizeTargets result.outcome) next.db)
    (hFiles : Files paymentId system.db next.db)
    (hTried : next.db.Tried paymentId)
| touched
    (targets : List PaymentStatus)
    (hTouched :
      (system.calls call).touched = some paymentId ∨
        system.db.Tried paymentId)
    (hLands : Lands system.db paymentId targets next.db)
    (hFiles : Files paymentId system.db next.db)
    (hOpen :
      ∀ status ∈ targets,
        status.isOpen = true →
          status = .unknown ∧
            ∃ intent,
              (system.calls call).captured = some intent ∧
                intent.id = paymentId)

namespace Spared

variable {db db' : Database}
variable {paymentId other : Uuid}

theorem of_same
    (hPayments : db'.payments = db.payments)
    (hSame : SameFiles db db') :
    Spared paymentId db db' where
  statuses := by
    intro row hRow hId
    rw [hPayments] at hRow
    exact ⟨row, hRow, hId, rfl⟩
  attempts := by
    intro attempt _
    rw [hSame.attempts]
  refunds := by
    intro row hRow hId
    rw [hSame.refunds] at hRow
    exact ⟨row, hRow, hId⟩
  ledger := by
    intro entry hEntry _
    rw [hSame.ledger] at hEntry
    exact hEntry
  settlement := settlementOf_congr hSame.ledger paymentId

/- What is filed for one payment spares the others. -/
theorem of_other
    {targets : List PaymentStatus}
    (hLands : Lands db other targets db')
    (hFiles : Files other db db')
    (hOther : other ≠ paymentId) :
    Spared paymentId db db' where
  statuses := by
    intro row hRow hId
    rcases hLands row hRow with
      ⟨old, hOld, hOldId, hStatus⟩ | ⟨hRowId, _⟩
    · exact ⟨old, hOld, hOldId.trans hId, hStatus⟩
    · exact absurd (hRowId.symm.trans hId) hOther
  attempts := by
    intro attempt hId
    rcases hFiles.attempts with
      hSame | ⟨added, hAdded, _, hAttempts⟩
    · rw [hSame]
    · rw [hAttempts, List.mem_append, List.mem_singleton]
      constructor
      · rintro (hOld | rfl)
        · exact hOld
        · exact absurd (hAdded.symm.trans hId) hOther
      · exact .inl
  refunds := by
    intro row hRow hId
    rcases hFiles.refunds row hRow with
      hRowId | ⟨old, hOld, hOldId⟩
    · exact absurd (hRowId.symm.trans hId) hOther
    · exact ⟨old, hOld, hOldId.trans hId⟩
  ledger := by
    intro entry hEntry hId
    rcases hFiles.ledger with ⟨added, hLedger, hAdded⟩
    rw [hLedger, List.mem_append] at hEntry
    rcases hEntry with hOld | hNew
    · exact hOld
    · exact absurd ((hAdded entry hNew).symm.trans hId)
        hOther
  settlement := by
    rcases hFiles.ledger with ⟨added, hLedger, hAdded⟩
    unfold Database.settlementOf
    rw [hLedger, List.filter_append, List.append_right_eq_self,
      List.filter_eq_nil_iff]
    intro entry hEntry
    rw [hAdded entry hEntry]
    simp [hOther]

end Spared

end PayGuard

------------------------------------------------------------
-- What A Step Does To A Payment
------------------------------------------------------------

namespace PayGuard

variable {config : Config}
variable {system next : System}
variable {call : CallId}
variable {draw : Draw}
variable {action : Action}
variable {paymentId : Uuid}

theorem webhookTarget_not_open
    {eventType : String}
    {status : PaymentStatus}
    (hTarget : webhookTarget eventType = some status) :
    status.isOpen = false := by
  unfold webhookTarget at hTarget
  split at hTarget
  · cases hTarget
    rfl
  · split at hTarget
    · cases hTarget
      rfl
    · cases hTarget

theorem open_mem_captureTargets
    {outcome : ProviderOutcome}
    {status : PaymentStatus}
    (hStatus : status ∈ captureTargets outcome)
    (hOpen : status.isOpen = true) :
    status = .unknown := by
  cases outcome <;>
    simp only [captureTargets, List.mem_singleton]
      at hStatus <;>
    subst hStatus <;> first | rfl | cases hOpen

theorem not_open_of_mem_lookupTargets
    {outcome : ProviderOutcome}
    {status : PaymentStatus}
    (hStatus : status ∈ lookupTargets outcome) :
    status.isOpen = false := by
  cases outcome <;>
    simp only [lookupTargets, List.mem_singleton,
      List.not_mem_nil] at hStatus <;>
    subst hStatus <;> rfl

/- The transaction of a successful attempt shows one. -/
theorem tried_of_latestSuccessful
    {db : Database}
    {transaction : ProviderTransaction}
    (hLatest :
      latestSuccessfulProviderTransaction db paymentId =
        some transaction) :
    db.Tried paymentId := by
  unfold latestSuccessfulProviderTransaction at hLatest
  simp only [Option.map_eq_some_iff] at hLatest
  rcases hLatest with ⟨row, hRow, _⟩
  have hJoined := List.argmax_mem hRow
  rw [List.mem_filterMap] at hJoined
  rcases hJoined with ⟨attempt, hAttempt, hSome⟩
  split at hSome
  · rename_i hPayment
    exact ⟨attempt, hAttempt, hPayment.1⟩
  · cases hSome

/- The payment a transaction is about is another one. -/
theorem Dealt.of_other
    {other : Uuid}
    {targets : List PaymentStatus}
    (hLands : Lands system.db other targets next.db)
    (hFiles : Files other system.db next.db)
    (hSelf : other = paymentId →
      Dealt system call next paymentId) :
    Dealt system call next paymentId := by
  by_cases hOther : other = paymentId
  · exact hSelf hOther
  · exact .spared (.of_other hLands hFiles hOther)

/- Payments and records are as they were. -/
theorem Dealt.of_same
    (hPayments : next.db.payments = system.db.payments)
    (hSame : SameFiles system.db next.db) :
    Dealt system call next paymentId :=
  .spared (.of_same hPayments hSame)

theorem createInsert_rows
    {indexable : PyString → Bool}
    {db db' : Database}
    {request : CreateRequest}
    {keyRow : IdempotencyKey}
    {intent : PaymentIntent}
    (hBody :
      createInsert indexable db request keyRow draw =
        .ok (db', intent)) :
    intent.id = draw.payment ∧
      intent.status = .created ∧
      db'.payments = db.payments ++ [intent] := by
  rcases createInsert_eq_ok hBody with ⟨rfl, _, rfl⟩
  refine ⟨rfl, rfl, ?_⟩
  rw [(SameTrail.putKey db keyRow).payments]

theorem createProcess_rows
    {db db' : Database}
    {locked : Option PaymentIntent}
    {moved : PaymentIntent}
    (hBody :
      createProcess db locked draw = .ok (db', moved)) :
    ∃ intent,
      locked = some intent ∧
        moved.id = intent.id ∧
        moved.status = .processing ∧
        ∀ row ∈ db'.payments,
          row.id = intent.id → row.status = .processing := by
  rcases createProcess_eq_ok hBody with
    ⟨intent, hLocked, hApply⟩
  rcases applyTransition_eq_ok.mp hApply with
    ⟨hValid, rfl, rfl⟩
  have hStatus : intent.status ≠ .processing := by
    intro hStatus
    rw [hStatus] at hValid
    revert hValid
    decide
  exact ⟨intent, hLocked, rfl, rfl,
    recordTransition_status db _ _ _ hStatus⟩

/- A dispatch deals with the payment its plan names. -/
theorem dispatchFinish_dealt
    {outboxEventId webhookEventId : Uuid}
    {plan : WebhookPlan}
    {db : Database}
    (hTyped : PlansTyped system)
    (hCall :
      system.calls call =
        .dispatchOpen outboxEventId webhookEventId plan)
    (hBody :
      dispatchEffect config system.db webhookEventId plan
        draw = .ok db) :
    Dealt system call
      ((system.release call).commit call
        (markProcessed db outboxEventId)
        (.done .dispatched)) paymentId := by
  cases plan with
  | skip =>
      cases hBody
      exact .of_same rfl ⟨rfl, rfl, rfl, rfl⟩
  | ignore =>
      cases hBody
      exact .of_same rfl ⟨rfl, rfl, rfl, rfl⟩
  | outcome targetStatus intent =>
      rcases handlePaymentOutcome_lands hBody with
        ⟨locked, hLocked, hLands⟩
      rcases handlePaymentOutcome_files hBody with
        ⟨_, hSame, hFiles⟩
      cases hLocked.symm.trans hSame
      rw [lockPayment_id hLocked] at hLands hFiles
      have hLands' :
          Lands system.db intent.id [targetStatus]
            (markProcessed db outboxEventId) :=
        hLands.andThen rfl
      have hFiles' :
          Files intent.id system.db
            (markProcessed db outboxEventId) :=
        hFiles.andThen ⟨rfl, rfl, rfl, rfl⟩ rfl
      refine .of_other hLands' hFiles' ?_
      rintro rfl
      refine .touched _ (.inl (by rw [hCall]; rfl)) hLands'
        hFiles' ?_
      intro status hStatus hOpen
      rcases hTyped call _ _ _ _ (by rw [hCall]; rfl) with
        ⟨_, _, _, hTarget⟩
      have hClosed := webhookTarget_not_open hTarget
      rw [List.mem_singleton.mp hStatus, hClosed] at hOpen
      cases hOpen

/- Every step deals with a payment in one of these ways. -/
theorem Effect.dealt
    (hTyped : PlansTyped system)
    (hAdmits : system.db.Admits draw)
    (hEffect :
      Effect config system call draw action next) :
    Dealt system call next paymentId := by
  cases hEffect with
  | quiet hQuiet _ =>
      exact .of_same (by rw [hQuiet.db])
        (by rw [hQuiet.db]; exact ⟨rfl, rfl, rfl, rfl⟩)
  | createInsert _ hBody =>
      have hSame := createInsert_sameFiles hBody
      rcases createInsert_rows hBody with
        ⟨hId, hStatus, hPayments⟩
      have hFresh := hAdmits.2.1
      refine .of_other (createInsert_lands hBody)
        (.of_same hSame) ?_
      rintro rfl
      refine .created hFresh ?_ hSame
      intro row hRow hRowId
      simp only [System.recordOrigin_db, System.commit_db,
        hPayments, List.mem_append,
        List.mem_singleton] at hRow
      rcases hRow with hOld | rfl
      · rw [← hRowId] at hFresh
        exact absurd (List.mem_map_of_mem hOld) hFresh
      · exact hStatus
  | createProcess hCall _ hBody =>
      have hSame := createProcess_sameFiles hBody
      rcases createProcess_rows hBody with
        ⟨locked, hLocked, _, _, hRows⟩
      rcases createProcess_lands hBody with
        ⟨_, hLocked', hLands⟩
      cases hLocked.symm.trans hLocked'
      rw [lockPayment_id hLocked] at hRows hLands
      refine .of_other hLands (.of_same hSame) ?_
      rintro rfl
      exact .processed _ _ _ hCall rfl hRows hSame
  | createAssess _ =>
      exact .of_same rfl ⟨rfl, rfl, rfl, rfl⟩
  | createBlock hCall _ _ hBody =>
      have hSame := createBlock_sameFiles hBody
      rcases createBlock_lands hBody with
        ⟨locked, hLocked, hLands⟩
      rw [lockPayment_id hLocked] at hLands
      refine .of_other hLands (.of_same hSame) ?_
      rintro rfl
      exact .blocked _ _ _ hCall rfl hLands hSame
  | createFinish hCall _ _ hBody =>
      rcases createFinish_lands hBody with
        ⟨locked, hLocked, hLands⟩
      rcases createFinish_files hBody with
        ⟨_, hLocked', hFiles, hTried⟩
      cases hLocked.symm.trans hLocked'
      rw [lockPayment_id hLocked] at hLands hFiles hTried
      refine .of_other hLands hFiles ?_
      rintro rfl
      exact .authorized _ _ _ _ hCall rfl hLands hFiles
        hTried
  | captureSettled _ _ _ =>
      exact .of_same (captureSettled_sameTrail _ _ _).payments
        (captureSettled_sameFiles _ _ _)
  | captureOpen _ _ _ _ _ =>
      exact .of_same rfl ⟨rfl, rfl, rfl, rfl⟩
  | captureFinish hCall _ hBody =>
      have hLands := captureFinish_lands hBody
      have hFiles := captureFinish_files hBody
      refine .of_other hLands hFiles ?_
      rintro rfl
      refine .touched _ (.inl (by rw [hCall]; rfl)) hLands
        hFiles ?_
      intro status hStatus hOpen
      exact ⟨open_mem_captureTargets hStatus hOpen, _,
        by rw [hCall]; rfl, rfl⟩
  | refundReserve _ _ hBody =>
      rcases refundReserve_lands hBody with
        ⟨locked, hSelect, hLands⟩
      rcases refundReserve_files hBody with
        ⟨_, hSelect', hFiles⟩
      cases hSelect.symm.trans hSelect'
      rcases refundReserve_eq_ok hBody with
        ⟨_, hIntent, _, _, hLatest, _⟩
      cases hSelect.symm.trans hIntent
      refine .of_other hLands hFiles ?_
      rintro rfl
      refine .touched _
        (.inr (tried_of_latestSuccessful hLatest)) hLands
        hFiles ?_
      intro status hStatus hOpen
      rw [List.mem_singleton.mp hStatus] at hOpen
      cases hOpen
  | refundAnswer _ _ =>
      exact .of_same rfl ⟨rfl, rfl, rfl, rfl⟩
  | refundFinish hCall _ _ hBody =>
      rcases refundFinalize_lands hBody with
        ⟨locked, hLocked, hLands⟩
      rcases refundFinalize_files hBody with
        ⟨_, hLocked', hFiles⟩
      cases hLocked.symm.trans hLocked'
      rw [lockPayment_id hLocked] at hLands hFiles
      refine .of_other hLands hFiles ?_
      rintro rfl
      refine .touched _ (.inl (by rw [hCall]; rfl)) hLands
        hFiles ?_
      intro status hStatus hOpen
      simp only [List.mem_cons, List.not_mem_nil,
        or_false] at hStatus
      rcases hStatus with rfl | rfl | rfl <;> cases hOpen
  | receiveWebhook _ =>
      exact .of_same (receiveWebhook_sameTrail _ _ _).payments
        (receiveWebhook_sameFiles _ _ _)
  | dispatchFinish hCall _ hBody =>
      exact dispatchFinish_dealt hTyped hCall hBody
  | @reconcileApply intent result db report hCall _ hBody =>
      rcases reconcileApply_files hBody with
        ⟨locked, hLocked, hFiles⟩
      have hLands :
          ∃ targets,
            Lands system.db locked.id targets db ∧
              ∀ status ∈ targets,
                status.isOpen = false := by
        rcases reconcileApply_lands hBody with
          ⟨_, hLocked', hNowhere | ⟨_, _, hLands⟩⟩
        · cases hLocked.symm.trans hLocked'
          exact ⟨[], hNowhere, by simp⟩
        · cases hLocked.symm.trans hLocked'
          exact ⟨_, hLands, fun status hStatus =>
            not_open_of_mem_lookupTargets hStatus⟩
      rcases hLands with ⟨targets, hLands, hClosed⟩
      rw [lockPayment_id hLocked] at hLands hFiles
      refine .of_other hLands hFiles ?_
      rintro rfl
      refine .touched _ (.inl (by rw [hCall]; rfl)) hLands
        hFiles ?_
      intro status hStatus hOpen
      rw [hClosed status hStatus] at hOpen
      cases hOpen
  | reconcileReport _ =>
      exact .of_same rfl ⟨rfl, rfl, rfl, rfl⟩
  | failWrite _ _ =>
      exact .of_same rfl ⟨rfl, rfl, rfl, rfl⟩

end PayGuard

------------------------------------------------------------
-- Where Calls Come From
------------------------------------------------------------

namespace PayGuard

/- How a call comes to be creating a payment. -/
inductive Creates
    (system : System)
    (call : CallId)
    (next : System)
    (intent : PaymentIntent)
    (status : PaymentStatus) : Prop where
| kept
    (hBefore :
      (system.calls call).creating = some (intent, status))
    (hPayments : next.db.payments = system.db.payments)
    (hSame : SameFiles system.db next.db)
| inserted
    (hFresh :
      intent.id ∉ system.db.payments.map (·.id))
    (hStatus : status = .created)
    (hObject : intent.status = .created)
    (hPayments :
      next.db.payments = system.db.payments ++ [intent])
    (hSame : SameFiles system.db next.db)
| processed
    (claimed : PaymentIntent)
    (hBefore :
      (system.calls call).creating =
        some (claimed, .created))
    (hId : intent.id = claimed.id)
    (hStatus : status = .processing)
    (hObject : intent.status = .processing)
    (hRows :
      ∀ row ∈ next.db.payments,
        row.id = intent.id → row.status = .processing)
    (hPayments :
      next.db.payments.map (·.id) =
        system.db.payments.map (·.id))
    (hSame : SameFiles system.db next.db)

variable {config : Config}
variable {system next : System}
variable {call : CallId}
variable {draw : Draw}
variable {action : Action}
variable {paymentId : Uuid}
variable {intent : PaymentIntent}
variable {status : PaymentStatus}

/- No turn starts a creation, and one carries it on. -/
theorem Turn.creating
    {position : Call}
    (hTurn : Turn config system call draw action position)
    (hCreating : position.creating = some (intent, status)) :
    (system.calls call).creating = some (intent, status) := by
  cases hTurn with
  | authorized hCall =>
      rw [hCall]
      exact hCreating
  | @begun _ _ _ check _ =>
      cases check <;> cases hCreating
  | @continued _ _ check _ _ =>
      cases check <;> cases hCreating
  | _ => cases hCreating

theorem Effect.creating
    (hAdmits : system.db.Admits draw)
    (hEffect :
      Effect config system call draw action next)
    (hCreating :
      (next.calls call).creating = some (intent, status)) :
    Creates system call next intent status := by
  cases hEffect with
  | quiet hQuiet hTurn =>
      exact .kept (hTurn.creating hCreating)
        (by rw [hQuiet.db])
        (by rw [hQuiet.db]; exact ⟨rfl, rfl, rfl, rfl⟩)
  | createInsert _ hBody =>
      simp only [System.recordOrigin_calls,
        System.commit_calls_self, Call.creating,
        Option.some.injEq, Prod.mk.injEq] at hCreating
      rcases hCreating with ⟨rfl, rfl⟩
      rcases createInsert_rows hBody with
        ⟨hId, hStatus, hPayments⟩
      exact .inserted (by rw [hId]; exact hAdmits.2.1) rfl
        hStatus hPayments (createInsert_sameFiles hBody)
  | createProcess hCall _ hBody =>
      simp only [System.commit_calls_self, Call.creating,
        Option.some.injEq, Prod.mk.injEq] at hCreating
      rcases hCreating with ⟨rfl, rfl⟩
      rcases createProcess_rows hBody with
        ⟨locked, hLocked, hId, hObject, hRows⟩
      rcases createProcess_trailMove hBody with
        ⟨_, hLocked', hMove⟩
      rw [← hId] at hRows
      rw [lockPayment_id hLocked] at hId
      exact .processed _ (by rw [hCall]; rfl) hId rfl hObject
        hRows hMove.map_id (createProcess_sameFiles hBody)
  | createAssess hCall =>
      simp only [System.commit_calls_self, Call.creating,
        Option.some.injEq, Prod.mk.injEq] at hCreating
      rcases hCreating with ⟨rfl, rfl⟩
      exact .kept (by rw [hCall]; rfl) rfl
        ⟨rfl, rfl, rfl, rfl⟩
  | _ => simp [Call.creating] at hCreating

theorem tried_of_paymentsOfTransaction
    {db : Database}
    {transactionId : String}
    (hMem : intent ∈ paymentsOfTransaction db transactionId) :
    db.Tried intent.id := by
  unfold paymentsOfTransaction at hMem
  rw [List.mem_filter, List.any_eq_true] at hMem
  rcases hMem.2 with ⟨attempt, hAttempt, hJoin⟩
  rw [Bool.and_eq_true, decide_eq_true_eq] at hJoin
  exact ⟨attempt, hAttempt, hJoin.1⟩

theorem mem_of_limitOne
    {rows : List PaymentIntent}
    {pick : Uuid}
    (hPick : limitOne rows pick = some intent) :
    intent ∈ rows := by
  unfold limitOne at hPick
  rcases Option.or_eq_some_iff.mp hPick with
    hFind | ⟨_, hHead⟩
  · exact List.mem_of_find?_eq_some hFind
  · exact List.mem_of_head? hHead

/- A webhook finds its payment through an attempt. -/
theorem tried_of_dispatchPlan
    {db : Database}
    {event : OutboxEvent}
    {pick : Uuid}
    {targetStatus : PaymentStatus}
    (hPlan :
      (dispatchPlan db event pick).2 =
        .outcome targetStatus intent) :
    db.Tried intent.id := by
  rcases dispatchPlan_eq_outcome hPlan with
    ⟨_, _, _, _, _, _, _, _, hPick⟩
  exact tried_of_paymentsOfTransaction (mem_of_limitOne hPick)

/- A reconciliation asks about a payment in `UNKNOWN`. -/
theorem reconcileCheck_asks
    {db : Database}
    {locked : Option PaymentIntent}
    {pick : Uuid}
    {key : String}
    (hCheck :
      reconcileCheck db locked paymentId pick =
        .ok (.ask intent key)) :
    locked = some intent ∧ intent.status = .unknown ∧
      originalIdempotencyKey db intent.id pick =
        some key := by
  unfold reconcileCheck at hCheck
  cases locked with
  | none => cases hCheck
  | some row =>
      simp only at hCheck
      split at hCheck
      · cases hCheck
      · rename_i hStatus
        split at hCheck
        · cases hCheck
        · rename_i hKey
          cases hCheck
          exact ⟨rfl, not_not.mp hStatus, hKey⟩

/- A turn finds a payment only through an attempt. -/
theorem Turn.touched
    {position : Call}
    (hUnknown :
      ∀ row ∈ system.db.payments,
        row.status = .unknown → system.db.Tried row.id)
    (hTurn : Turn config system call draw action position)
    (hTouched : position.touched = some paymentId) :
    (system.calls call).touched = some paymentId ∨
      system.db.Tried paymentId := by
  cases hTurn with
  | @dispatched outboxEventId pick event hFind =>
      right
      cases hPlan : (dispatchPlan system.db event pick).2 with
      | skip =>
          rw [hPlan] at hTouched
          cases hTouched
      | ignore =>
          rw [hPlan] at hTouched
          cases hTouched
      | outcome target found =>
          rw [hPlan] at hTouched
          cases hTouched
          exact tried_of_dispatchPlan hPlan
  | loaded hSelect hStatus =>
      cases hTouched
      exact .inr (hUnknown _
        (selectPayment_eq_some hSelect).1 hStatus)
  | @begun _ _ _ check hCheck =>
      cases check with
      | report finding => cases hTouched
      | ask found key =>
          cases hTouched
          rcases reconcileCheck_asks hCheck with
            ⟨hSelect, hStatus, _⟩
          exact .inr (hUnknown _
            (selectPayment_eq_some hSelect).1 hStatus)
  | @continued loaded _ check hCall hCheck =>
      cases check with
      | report finding => cases hTouched
      | ask found key =>
          cases hTouched
          rcases reconcileCheck_asks hCheck with
            ⟨hLocked, _⟩
          rw [hCall, lockPayment_id hLocked]
          exact .inl rfl
  | answered hCall =>
      cases hTouched
      rw [hCall]
      exact .inl rfl
  | _ => cases hTouched

theorem Effect.touched
    (hUnknown :
      ∀ row ∈ system.db.payments,
        row.status = .unknown → system.db.Tried row.id)
    (hEffect :
      Effect config system call draw action next)
    (hTouched :
      (next.calls call).touched = some paymentId) :
    (system.calls call).touched = some paymentId ∨
      system.db.Tried paymentId := by
  cases hEffect with
  | quiet _ hTurn => exact hTurn.touched hUnknown hTouched
  | captureOpen _ _ _ _ hTransaction =>
      simp only [System.become_calls_self, Call.touched,
        Option.some.injEq] at hTouched
      rw [← hTouched]
      exact .inr (tried_of_latestSuccessful hTransaction)
  | refundReserve _ _ hBody =>
      simp only [System.recordOrigin_calls,
        System.commit_calls_self, Call.touched,
        Option.some.injEq] at hTouched
      rcases refundReserve_eq_ok hBody with
        ⟨_, hSelect, _, _, hLatest, _⟩
      rw [← hTouched,
        ← (selectPayment_eq_some hSelect).2.1]
      exact .inr (tried_of_latestSuccessful hLatest)
  | refundAnswer hCall _ =>
      simp only [System.observe_calls,
        System.become_calls_self] at hTouched
      rw [hCall]
      exact .inl hTouched
  | _ => simp [Call.touched] at hTouched

end PayGuard

------------------------------------------------------------
-- The Invariant
------------------------------------------------------------

namespace PayGuard

/- What holds of a payment no provider answered about. -/
structure Untouched
    (db : Database)
    (paymentId : Uuid) : Prop where
  status :
    ∀ row ∈ db.payments,
      row.id = paymentId →
        row.status = .created ∨
          row.status = .processing ∨
          row.status = .failed
  refunds :
    ∀ row ∈ db.refunds, row.paymentIntentId ≠ paymentId
  ledger :
    ∀ entry ∈ db.ledger, entry.paymentIntentId ≠ paymentId

/- The payment of a creation that awaits its answer. -/
structure Pristine
    (db : Database)
    (intent : PaymentIntent)
    (status : PaymentStatus) : Prop where
  onFile : intent.id ∈ db.payments.map (·.id)
  untried : ¬ db.Tried intent.id
  rows :
    ∀ row ∈ db.payments,
      row.id = intent.id → row.status = status
  object : intent.status = status

structure Provenance (system : System) : Prop where
  onFile :
    ∀ attempt ∈ system.db.attempts,
      attempt.paymentIntentId ∈
        system.db.payments.map (·.id)
  untried :
    ∀ paymentId,
      ¬ system.db.Tried paymentId →
        Untouched system.db paymentId
  touched :
    ∀ call paymentId,
      (system.calls call).touched = some paymentId →
        system.db.Tried paymentId
  creating :
    ∀ call intent status,
      (system.calls call).creating = some (intent, status) →
        Pristine system.db intent status
  distinct :
    ∀ call other intent intent' status status',
      other ≠ call →
        (system.calls call).creating =
            some (intent, status) →
          (system.calls other).creating =
              some (intent', status') →
            intent.id ≠ intent'.id

theorem provenance_initial : Provenance {} where
  onFile := by simp
  untried := by
    intro paymentId _
    constructor <;> simp
  touched := by
    intro call paymentId hTouched
    cases hTouched
  creating := by
    intro call intent status hCreating
    cases hCreating
  distinct := by
    intro call other intent intent' status status' _
      hCreating
    cases hCreating

variable {config : Config}
variable {system next : System}
variable {call : CallId}
variable {draw : Draw}
variable {action : Action}
variable {paymentId : Uuid}

/- An `UNKNOWN` payment has been asked about. -/
theorem Provenance.tried_of_unknown
    (hProvenance : Provenance system) :
    ∀ row ∈ system.db.payments,
      row.status = .unknown → system.db.Tried row.id := by
  intro row hRow hStatus
  by_contra hUntried
  have hEarly :=
    (hProvenance.untried row.id hUntried).status row hRow rfl
  rw [hStatus] at hEarly
  simp at hEarly

/- Whoever touches a payment knows of an attempt. -/
theorem Provenance.tried
    (hProvenance : Provenance system)
    (hTouched :
      (system.calls call).touched = some paymentId ∨
        system.db.Tried paymentId) :
    system.db.Tried paymentId := by
  rcases hTouched with hTouched | hTried
  · exact hProvenance.touched call paymentId hTouched
  · exact hTried

theorem SameFiles.tried_iff
    {db db' : Database}
    (hSame : SameFiles db db') :
    db'.Tried paymentId ↔ db.Tried paymentId := by
  unfold Database.Tried
  rw [hSame.attempts]

/- Attempts stay on file. -/
theorem Files.tried
    {db db' : Database}
    {other : Uuid}
    (hFiles : Files other db db')
    (hTried : db.Tried paymentId) :
    db'.Tried paymentId := by
  rcases hTried with ⟨attempt, hAttempt, hId⟩
  refine ⟨attempt, ?_, hId⟩
  rcases hFiles.attempts with hSame | ⟨_, _, _, hAdded⟩
  · rw [hSame]
    exact hAttempt
  · rw [hAdded]
    exact List.mem_append_left _ hAttempt

theorem Spared.tried_iff
    {db db' : Database}
    (hSpared : Spared paymentId db db') :
    db'.Tried paymentId ↔ db.Tried paymentId := by
  constructor
  · rintro ⟨attempt, hAttempt, hId⟩
    exact ⟨attempt, (hSpared.attempts attempt hId).mp
      hAttempt, hId⟩
  · rintro ⟨attempt, hAttempt, hId⟩
    exact ⟨attempt, (hSpared.attempts attempt hId).mpr
      hAttempt, hId⟩

theorem Dealt.tried
    (hDealt : Dealt system call next paymentId)
    (hTried : system.db.Tried paymentId) :
    next.db.Tried paymentId := by
  cases hDealt with
  | spared hSpared => exact hSpared.tried_iff.mpr hTried
  | created _ _ hSame => exact hSame.tried_iff.mpr hTried
  | processed _ _ _ _ _ _ hSame =>
      exact hSame.tried_iff.mpr hTried
  | blocked _ _ _ _ _ _ hSame =>
      exact hSame.tried_iff.mpr hTried
  | authorized _ _ _ _ _ _ _ _ hTried => exact hTried
  | touched _ _ _ hFiles _ => exact hFiles.tried hTried

theorem Untouched.of_same
    {db db' : Database}
    (hUntouched : Untouched db paymentId)
    (hSame : SameFiles db db')
    (hStatus :
      ∀ row ∈ db'.payments,
        row.id = paymentId →
          row.status = .created ∨
            row.status = .processing ∨
            row.status = .failed) :
    Untouched db' paymentId where
  status := hStatus
  refunds := by
    rw [hSame.refunds]
    exact hUntouched.refunds
  ledger := by
    rw [hSame.ledger]
    exact hUntouched.ledger

theorem Untouched.spared
    {db db' : Database}
    (hUntouched : Untouched db paymentId)
    (hSpared : Spared paymentId db db') :
    Untouched db' paymentId where
  status := by
    intro row hRow hId
    rcases hSpared.statuses row hRow hId with
      ⟨old, hOld, hOldId, hStatus⟩
    rw [← hStatus]
    exact hUntouched.status old hOld hOldId
  refunds := by
    intro row hRow hId
    rcases hSpared.refunds row hRow hId with
      ⟨old, hOld, hOldId⟩
    exact hUntouched.refunds old hOld hOldId
  ledger := by
    intro entry hEntry hId
    exact hUntouched.ledger entry
      (hSpared.ledger entry hEntry hId) hId

/- Without an attempt a payment stays untouched. -/
theorem Provenance.untouched_next
    (hProvenance : Provenance system)
    (hDealt : Dealt system call next paymentId)
    (hUntried : ¬ next.db.Tried paymentId) :
    Untouched next.db paymentId := by
  have hBefore : ¬ system.db.Tried paymentId :=
    fun hTried => hUntried (hDealt.tried hTried)
  have hUntouched := hProvenance.untried paymentId hBefore
  cases hDealt with
  | spared hSpared => exact hUntouched.spared hSpared
  | created _ hRows hSame =>
      exact hUntouched.of_same hSame
        (fun row hRow hId => .inl (hRows row hRow hId))
  | processed _ _ _ _ _ hRows hSame =>
      exact hUntouched.of_same hSame
        (fun row hRow hId =>
          .inr (.inl (hRows row hRow hId)))
  | blocked _ _ _ _ _ hLands hSame =>
      refine hUntouched.of_same hSame ?_
      intro row hRow hId
      rcases hLands row hRow with
        ⟨old, hOld, hOldId, hStatus⟩ | ⟨_, hFailed⟩
      · rw [← hStatus]
        exact hUntouched.status old hOld
          (hOldId.trans hId)
      · exact .inr (.inr (List.mem_singleton.mp hFailed))
  | authorized _ _ _ _ _ _ _ _ hTried =>
      exact absurd hTried hUntried
  | touched _ hTouched _ _ _ =>
      exact absurd (hProvenance.tried hTouched) hBefore

/- A creation of another call is not disturbed. -/
theorem Provenance.pristine_next
    {other : CallId}
    {intent : PaymentIntent}
    {status : PaymentStatus}
    (hProvenance : Provenance system)
    (hIds :
      system.db.payments.map (·.id) ⊆
        next.db.payments.map (·.id))
    (hDealt : Dealt system call next intent.id)
    (hOther : other ≠ call)
    (hCreating :
      (system.calls other).creating =
        some (intent, status)) :
    Pristine next.db intent status := by
  have hPristine :=
    hProvenance.creating other intent status hCreating
  -- the acting call would have to be creating it as well
  have hApart :
      ∀ mine mineStatus,
        (system.calls call).creating =
            some (mine, mineStatus) →
          mine.id ≠ intent.id := by
    intro mine mineStatus hMine
    exact hProvenance.distinct call other mine intent
      mineStatus status hOther hMine hCreating
  cases hDealt with
  | spared hSpared =>
      refine ⟨hIds hPristine.onFile, ?_, ?_,
        hPristine.object⟩
      · rw [hSpared.tried_iff]
        exact hPristine.untried
      · intro row hRow hId
        rcases hSpared.statuses row hRow hId with
          ⟨old, hOld, hOldId, hStatus⟩
        rw [← hStatus]
        exact hPristine.rows old hOld hOldId
  | created hFresh _ _ =>
      exact absurd hPristine.onFile hFresh
  | processed _ _ mine hCall hId _ _ =>
      exact absurd hId (hApart mine _ (by rw [hCall]; rfl))
  | blocked _ _ mine hCall hId _ _ =>
      exact absurd hId (hApart mine _ (by rw [hCall]; rfl))
  | authorized _ _ mine _ hCall hId _ _ _ =>
      exact absurd hId (hApart mine _ (by rw [hCall]; rfl))
  | touched _ hTouched _ _ _ =>
      exact absurd (hProvenance.tried hTouched)
        hPristine.untried

/- The creation of the acting call. -/
theorem Provenance.pristine_own
    {intent : PaymentIntent}
    {status : PaymentStatus}
    (hProvenance : Provenance system)
    (hCreates : Creates system call next intent status) :
    Pristine next.db intent status := by
  cases hCreates with
  | kept hBefore hPayments hSame =>
      have hPristine :=
        hProvenance.creating call intent status hBefore
      refine ⟨?_, ?_, ?_, hPristine.object⟩
      · rw [hPayments]
        exact hPristine.onFile
      · rw [hSame.tried_iff]
        exact hPristine.untried
      · rw [hPayments]
        exact hPristine.rows
  | inserted hFresh hStatus hObject hPayments hSame =>
      subst hStatus
      refine ⟨?_, ?_, ?_, hObject⟩
      · rw [hPayments]
        simp
      · rw [hSame.tried_iff]
        rintro ⟨attempt, hAttempt, hId⟩
        have hOnFile := hProvenance.onFile attempt hAttempt
        rw [hId] at hOnFile
        exact hFresh hOnFile
      · intro row hRow hId
        rw [hPayments, List.mem_append,
          List.mem_singleton] at hRow
        rcases hRow with hOld | rfl
        · rw [← hId] at hFresh
          exact absurd (List.mem_map_of_mem hOld) hFresh
        · exact hObject
  | processed claimed hBefore hId hStatus hObject hRows
      hPayments hSame =>
      subst hStatus
      have hPristine :=
        hProvenance.creating call claimed .created hBefore
      refine ⟨?_, ?_, hRows, hObject⟩
      · rw [hPayments, hId]
        exact hPristine.onFile
      · rw [hSame.tried_iff, hId]
        exact hPristine.untried

/- A creation is a new one, or the call's earlier one. -/
theorem Creates.fresh_or_before
    {intent : PaymentIntent}
    {status : PaymentStatus}
    (hCreates : Creates system call next intent status) :
    intent.id ∉ system.db.payments.map (·.id) ∨
      ∃ before beforeStatus,
        (system.calls call).creating =
            some (before, beforeStatus) ∧
          before.id = intent.id := by
  cases hCreates with
  | kept hBefore _ _ =>
      exact .inr ⟨intent, status, hBefore, rfl⟩
  | inserted hFresh _ _ _ _ => exact .inl hFresh
  | processed claimed hBefore hId _ _ _ _ _ =>
      exact .inr ⟨claimed, _, hBefore, hId.symm⟩

/- Two calls create two payments. -/
theorem Provenance.distinct_next
    {other : CallId}
    {intent intent' : PaymentIntent}
    {status status' : PaymentStatus}
    (hProvenance : Provenance system)
    (hOther : other ≠ call)
    (hCreates : Creates system call next intent status)
    (hTheirs :
      (system.calls other).creating =
        some (intent', status')) :
    intent.id ≠ intent'.id := by
  rcases hCreates.fresh_or_before with
    hFresh | ⟨before, beforeStatus, hBefore, hId⟩
  · intro hSame
    rw [hSame] at hFresh
    exact hFresh
      (hProvenance.creating other _ _ hTheirs).onFile
  · rw [← hId]
    exact hProvenance.distinct call other before intent'
      beforeStatus status' hOther hBefore hTheirs

/- New attempts are of payments on file. -/
theorem Provenance.onFile_next
    (hProvenance : Provenance system)
    (hIds :
      system.db.payments.map (·.id) ⊆
        next.db.payments.map (·.id))
    (hDealt :
      ∀ paymentId, Dealt system call next paymentId) :
    ∀ attempt ∈ next.db.attempts,
      attempt.paymentIntentId ∈
        next.db.payments.map (·.id) := by
  intro attempt hAttempt
  apply hIds
  have hSameFiles :
      SameFiles system.db next.db →
        attempt.paymentIntentId ∈
          system.db.payments.map (·.id) := by
    intro hSame
    rw [hSame.attempts] at hAttempt
    exact hProvenance.onFile attempt hAttempt
  cases hDealt attempt.paymentIntentId with
  | spared hSpared =>
      exact hProvenance.onFile attempt
        ((hSpared.attempts attempt rfl).mp hAttempt)
  | created _ _ hSame => exact hSameFiles hSame
  | processed _ _ _ _ _ _ hSame => exact hSameFiles hSame
  | blocked _ _ _ _ _ _ hSame => exact hSameFiles hSame
  | authorized _ _ intent _ hCall hId _ _ _ =>
      rw [← hId]
      exact (hProvenance.creating call intent _
        (by rw [hCall]; rfl)).onFile
  | touched _ hTouched _ _ _ =>
      rcases hProvenance.tried hTouched with
        ⟨earlier, hEarlier, hId⟩
      rw [← hId]
      exact hProvenance.onFile earlier hEarlier

/- Every step keeps the provenance of the payments. -/
theorem provenance_effect
    (hProvenance : Provenance system)
    (hHeld : CapturesHeld system)
    (hTyped : PlansTyped system)
    (hAdmits : system.db.Admits draw)
    (hEffect :
      Effect config system call draw action next) :
    Provenance next := by
  have hFrame := hEffect.frame
  have hDealt : ∀ paymentId,
      Dealt system call next paymentId :=
    fun _ => hEffect.dealt hTyped hAdmits
  have hIds :
      system.db.payments.map (·.id) ⊆
        next.db.payments.map (·.id) := by
    rcases (hEffect.trailStep hHeld hAdmits).paymentIds with
      hSame | ⟨_, _, hAdded⟩
    · rw [hSame]
      exact List.Subset.refl _
    · rw [hAdded]
      exact List.subset_append_left _ _
  refine
    { onFile := hProvenance.onFile_next hIds hDealt
      untried := fun paymentId hUntried =>
        hProvenance.untouched_next (hDealt paymentId) hUntried
      touched := ?_
      creating := ?_
      distinct := ?_ }
  · intro other paymentId hTouched
    apply (hDealt paymentId).tried
    by_cases hOther : other = call
    · subst hOther
      exact hProvenance.tried
        (hEffect.touched hProvenance.tried_of_unknown
          hTouched)
    · rw [hFrame.calls other hOther] at hTouched
      exact hProvenance.touched other paymentId hTouched
  · intro other intent status hCreating
    by_cases hOther : other = call
    · subst hOther
      exact hProvenance.pristine_own
        (hEffect.creating hAdmits hCreating)
    · rw [hFrame.calls other hOther] at hCreating
      exact hProvenance.pristine_next hIds
        (hDealt intent.id) hOther hCreating
  · intro first second intent intent' status status' hNe
      hFirst hSecond
    by_cases hMine : first = call
    · subst hMine
      rw [hFrame.calls second hNe] at hSecond
      exact hProvenance.distinct_next hNe
        (hEffect.creating hAdmits hFirst) hSecond
    · rw [hFrame.calls first hMine] at hFirst
      by_cases hOther : second = call
      · subst hOther
        exact (hProvenance.distinct_next hMine
          (hEffect.creating hAdmits hSecond) hFirst).symm
      · rw [hFrame.calls second hOther] at hSecond
        exact hProvenance.distinct first second intent
          intent' status status' hNe hFirst hSecond

end PayGuard

------------------------------------------------------------
-- Numbers And Settlements
------------------------------------------------------------

namespace PayGuard

/- The next attempt of a payment takes a free number. -/
def AttemptsNumbered (db : Database) : Prop :=
  ∀ attempt ∈ db.attempts,
    attempt.attemptNumber <
      nextAttemptNumber db attempt.paymentIntentId

/- A payment whose outcome is open is not settled. -/
def OpenUnsettled (db : Database) : Prop :=
  ∀ row ∈ db.payments,
    row.status.isOpen = true → db.settlementOf row.id = []

variable {config : Config}
variable {system next : System}
variable {call : CallId}
variable {draw : Draw}
variable {action : Action}
variable {paymentId : Uuid}

theorem nextAttemptNumber_append
    {db db' : Database}
    {attempt : PaymentAttempt}
    (hAttempts : db'.attempts = db.attempts ++ [attempt])
    (paymentId : Uuid) :
    nextAttemptNumber db' paymentId =
      nextAttemptNumber db paymentId +
        (if attempt.paymentIntentId = paymentId then 1
        else 0) := by
  unfold nextAttemptNumber
  rw [hAttempts, List.countP_append, List.countP_singleton]
  simp only [decide_eq_true_eq]
  omega

theorem AttemptsNumbered.files
    {db db' : Database}
    {other : Uuid}
    (hNumbered : AttemptsNumbered db)
    (hFiles : Files other db db') :
    AttemptsNumbered db' := by
  rcases hFiles.attempts with
    hSame | ⟨added, hAdded, hNumber, hAttempts⟩
  · intro attempt hAttempt
    rw [hSame] at hAttempt
    unfold nextAttemptNumber
    rw [hSame]
    exact hNumbered attempt hAttempt
  · intro attempt hAttempt
    rw [nextAttemptNumber_append hAttempts]
    rw [hAttempts, List.mem_append,
      List.mem_singleton] at hAttempt
    rcases hAttempt with hOld | rfl
    · have hBound := hNumbered attempt hOld
      omega
    · rw [if_pos rfl, hNumber, hAdded]
      omega

/- A step files for one payment. -/
theorem Effect.files
    (hEffect :
      Effect config system call draw action next) :
    ∃ paymentId, Files paymentId system.db next.db := by
  cases hEffect with
  | quiet hQuiet _ =>
      exact ⟨0, .of_same
        (by rw [hQuiet.db]; exact ⟨rfl, rfl, rfl, rfl⟩)⟩
  | createInsert _ hBody =>
      exact ⟨0, .of_same (createInsert_sameFiles hBody)⟩
  | createProcess _ _ hBody =>
      exact ⟨0, .of_same (createProcess_sameFiles hBody)⟩
  | createBlock _ _ _ hBody =>
      exact ⟨0, .of_same (createBlock_sameFiles hBody)⟩
  | createFinish _ _ _ hBody =>
      rcases createFinish_files hBody with
        ⟨_, _, hFiles, _⟩
      exact ⟨_, hFiles⟩
  | captureSettled _ _ _ =>
      exact ⟨0, .of_same (captureSettled_sameFiles _ _ _)⟩
  | captureFinish _ _ hBody =>
      exact ⟨_, captureFinish_files hBody⟩
  | refundReserve _ _ hBody =>
      rcases refundReserve_files hBody with ⟨_, _, hFiles⟩
      exact ⟨_, hFiles⟩
  | refundFinish _ _ _ hBody =>
      rcases refundFinalize_files hBody with ⟨_, _, hFiles⟩
      exact ⟨_, hFiles⟩
  | receiveWebhook _ =>
      exact ⟨0, .of_same (receiveWebhook_sameFiles _ _ _)⟩
  | @dispatchFinish _ _ plan _ _ _ hBody =>
      cases plan with
      | skip =>
          cases hBody
          exact ⟨0, .of_same ⟨rfl, rfl, rfl, rfl⟩⟩
      | ignore =>
          cases hBody
          exact ⟨0, .of_same ⟨rfl, rfl, rfl, rfl⟩⟩
      | outcome targetStatus intent =>
          rcases handlePaymentOutcome_files hBody with
            ⟨_, _, hFiles⟩
          exact ⟨_, hFiles.andThen ⟨rfl, rfl, rfl, rfl⟩
            rfl⟩
  | reconcileApply _ _ hBody =>
      rcases reconcileApply_files hBody with ⟨_, _, hFiles⟩
      exact ⟨_, hFiles⟩
  | _ => exact ⟨0, .of_same ⟨rfl, rfl, rfl, rfl⟩⟩

theorem settlementOf_eq_nil
    {db : Database}
    (hUntouched : Untouched db paymentId) :
    db.settlementOf paymentId = [] := by
  unfold Database.settlementOf
  rw [List.filter_eq_nil_iff]
  intro entry hEntry
  simp [hUntouched.ledger entry hEntry]

/- A settlement takes the payment out of its open status. -/
theorem Files.settlement_of_open
    {db db' : Database}
    {row : PaymentIntent}
    (hFiles : Files paymentId db db')
    (hRow : row ∈ db'.payments)
    (hId : row.id = paymentId)
    (hOpen : row.status.isOpen = true) :
    db'.settlementOf paymentId =
      db.settlementOf paymentId := by
  rcases hFiles.settles with hSame | hSettled
  · exact hSame
  · rw [hSettled row hRow hId] at hOpen
    cases hOpen

theorem openUnsettled_effect
    (hUnsettled : OpenUnsettled system.db)
    (hProvenance : Provenance system)
    (hHeld : CapturesHeld system)
    (hTyped : PlansTyped system)
    (hAdmits : system.db.Admits draw)
    (hEffect :
      Effect config system call draw action next) :
    OpenUnsettled next.db := by
  intro row hRow hOpen
  -- a payment no provider answered about has no entry
  have hUntried :
      ¬ system.db.Tried row.id →
        system.db.settlementOf row.id = [] := by
    intro hUntried
    exact settlementOf_eq_nil
      (hProvenance.untried row.id hUntried)
  have hDealt : Dealt system call next row.id :=
    hEffect.dealt hTyped hAdmits
  cases hDealt with
  | spared hSpared =>
      rcases hSpared.statuses row hRow rfl with
        ⟨old, hOld, hOldId, hStatus⟩
      rw [hSpared.settlement, ← hOldId]
      rw [← hStatus] at hOpen
      exact hUnsettled old hOld hOpen
  | created hFresh _ hSame =>
      rw [settlementOf_congr hSame.ledger]
      apply hUntried
      rintro ⟨attempt, hAttempt, hId⟩
      rw [← hId] at hFresh
      exact hFresh (hProvenance.onFile attempt hAttempt)
  | processed _ _ intent hCall hId _ hSame =>
      rw [settlementOf_congr hSame.ledger]
      apply hUntried
      rw [← hId]
      exact (hProvenance.creating call intent _
        (by rw [hCall]; rfl)).untried
  | blocked _ _ intent hCall hId _ hSame =>
      rw [settlementOf_congr hSame.ledger]
      apply hUntried
      rw [← hId]
      exact (hProvenance.creating call intent _
        (by rw [hCall]; rfl)).untried
  | authorized _ _ intent _ hCall hId _ hFiles _ =>
      rw [hFiles.settlement_of_open hRow rfl hOpen]
      apply hUntried
      rw [← hId]
      exact (hProvenance.creating call intent _
        (by rw [hCall]; rfl)).untried
  | touched targets _ hLands hFiles hTargets =>
      rw [hFiles.settlement_of_open hRow rfl hOpen]
      rcases hLands row hRow with
        ⟨old, hOld, hOldId, hStatus⟩ | ⟨_, hTarget⟩
      · rw [← hOldId]
        rw [← hStatus] at hOpen
        exact hUnsettled old hOld hOpen
      · rcases hTargets row.status hTarget hOpen with
          ⟨_, intent, hCaptured, hId⟩
        have hStatus := hHeld.status call intent hCaptured
        rw [← hId]
        exact hUnsettled intent
          (hHeld.row call intent hCaptured)
          (by rw [hStatus]; rfl)

end PayGuard

------------------------------------------------------------
-- Runs
------------------------------------------------------------

namespace PayGuard

open Lts

/- What every reachable state of the system satisfies. -/
structure Lifecycle (system : System) : Prop where
  held : Held system
  typed : PlansTyped system
  provenance : Provenance system
  numbered : AttemptsNumbered system.db
  unsettled : OpenUnsettled system.db

theorem lifecycle_initial : Lifecycle {} where
  held := held_initial
  typed := plansTyped_initial
  provenance := provenance_initial
  numbered := by
    intro attempt hAttempt
    cases hAttempt
  unsettled := by
    intro row hRow
    cases hRow

theorem lifecycle_step
    {config : Config}
    {system next : System}
    {label : Label}
    (hLifecycle : Lifecycle system)
    (hStep : step config system label = some next) :
    Lifecycle next := by
  rcases step_effect hStep with ⟨hAdmits, hEffect⟩
  rcases hEffect.files with ⟨paymentId, hFiles⟩
  exact
    { held := held_effect hLifecycle.held hAdmits hEffect
      typed := plansTyped_step hLifecycle.typed hStep
      provenance :=
        provenance_effect hLifecycle.provenance
          hLifecycle.held.captures hLifecycle.typed hAdmits
          hEffect
      numbered := hLifecycle.numbered.files hFiles
      unsettled :=
        openUnsettled_effect hLifecycle.unsettled
          hLifecycle.provenance hLifecycle.held.captures
          hLifecycle.typed hAdmits hEffect }

theorem lifecycle_of_exec
    {config : Config}
    {labels : List Label}
    {system : System}
    (hRun : exec (step config) {} labels = some system) :
    Lifecycle system := by
  have hKeep :
      ∀ (state : System) (label : Label) (next : System),
        Lifecycle state →
          step config state label = some next →
            Lifecycle next :=
    fun _ _ _ hLifecycle hStep =>
      lifecycle_step hLifecycle hStep
  exact invariant_of_exec hKeep lifecycle_initial hRun

end PayGuard

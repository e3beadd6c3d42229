import PayGuard.Invariants.OneEffect
import PayGuard.System.Lifecycle

/-
  What a step does to the idempotency key rows.

  A transaction commits the row it has claimed, completes a
  row with the payment it worked on, or marks a row
  `FAILED`.  Nothing else writes a key row, and no step
  writes more than one of them.

  Key definitions include:
    * `Action.claim`
    * `CreationState` and `Call.creationState`
    * `Call.openCapture` and `Call.refundKey`
    * `Call.guardedKey`
    * `KeyWrite` and `RowSource`

  Key theorems include:
    * `Effect.keyWrite`
    * `step_claims`
    * `KeyWrite.source`
-/

------------------------------------------------------------
-- Written Rows
------------------------------------------------------------

namespace PayGuard

variable {db : Database}
variable {row keyRow : IdempotencyKey}
variable {keyRowId : Uuid}
variable {paymentIntentId : Option Uuid}
variable {responseStatus : Nat}
variable {responseBody : ResponseBody}
variable {refundId : Option Uuid}

/- The rows of a table after one of them is written. -/
theorem mem_updateWhere_id
    {change : IdempotencyKey → IdempotencyKey}
    {rows : List IdempotencyKey} :
    row ∈ Table.updateWhere (fun row => row.id = keyRowId)
        change rows ↔
      (row ∈ rows ∧ row.id ≠ keyRowId) ∨
        ∃ old ∈ rows,
          old.id = keyRowId ∧ row = change old := by
  rw [Table.mem_updateWhere]
  constructor
  · rintro ⟨old, hOld, rfl⟩
    by_cases hId : old.id = keyRowId
    · right
      exact ⟨old, hOld, hId, by simp [hId]⟩
    · left
      simp [hId, hOld]
  · rintro (⟨hRow, hId⟩ | ⟨old, hOld, hId, rfl⟩)
    · exact ⟨row, hRow, by simp [hId]⟩
    · exact ⟨old, hOld, by simp [hId]⟩

theorem mem_putKey :
    row ∈ (db.putKey keyRow).keys ↔
      row = keyRow ∨
        (row ∈ db.keys ∧ row.id ≠ keyRow.id) := by
  unfold Database.putKey
  split
  · rename_i hStored
    rw [mem_updateWhere_id]
    rcases List.mem_map.mp hStored with ⟨old, hOld, hId⟩
    constructor
    · rintro (hKept | ⟨_, _, _, rfl⟩)
      · exact .inr hKept
      · exact .inl rfl
    · rintro (rfl | hKept)
      · exact .inr ⟨old, hOld, hId, rfl⟩
      · exact .inl hKept
  · rename_i hNew
    rw [List.mem_append, List.mem_singleton]
    constructor
    · rintro (hRow | rfl)
      · refine .inr ⟨hRow, ?_⟩
        intro hId
        rw [← hId] at hNew
        exact hNew (List.mem_map_of_mem hRow)
      · exact .inl rfl
    · rintro (rfl | ⟨hRow, _⟩)
      · exact .inr rfl
      · exact .inl hRow

theorem mem_completeIdempotencyKey :
    row ∈ (completeIdempotencyKey db keyRowId
        paymentIntentId responseStatus responseBody
        refundId).keys ↔
      (row ∈ db.keys ∧ row.id ≠ keyRowId) ∨
        ∃ old ∈ db.keys,
          old.id = keyRowId ∧
            row =
              old.completed paymentIntentId responseStatus
                responseBody refundId :=
  mem_updateWhere_id

theorem mem_failIdempotencyKey :
    row ∈ (failIdempotencyKey db keyRowId).keys ↔
      (row ∈ db.keys ∧ row.id ≠ keyRowId) ∨
        ∃ old ∈ db.keys,
          old.id = keyRowId ∧ row = old.markedFailed :=
  mem_updateWhere_id

/- A row claimed and completed in one transaction. -/
theorem mem_completeIdempotencyKey_putKey :
    row ∈ (completeIdempotencyKey (db.putKey keyRow)
        keyRow.id paymentIntentId responseStatus
        responseBody refundId).keys ↔
      row =
          keyRow.completed paymentIntentId responseStatus
            responseBody refundId ∨
        (row ∈ db.keys ∧ row.id ≠ keyRow.id) := by
  rw [mem_completeIdempotencyKey]
  constructor
  · rintro (⟨hRow, hId⟩ | ⟨old, hOld, hId, rfl⟩)
    · rcases mem_putKey.mp hRow with rfl | hKept
      · exact absurd rfl hId
      · exact .inr hKept
    · rcases mem_putKey.mp hOld with rfl | ⟨_, hOther⟩
      · exact .inl rfl
      · exact absurd hId hOther
  · rintro (rfl | ⟨hRow, hId⟩)
    · exact .inr ⟨keyRow, mem_putKey.mpr (.inl rfl), rfl,
        rfl⟩
    · exact .inl ⟨mem_putKey.mpr (.inr ⟨hRow, hId⟩), hId⟩

end PayGuard

------------------------------------------------------------
-- Calls And Their Key Rows
------------------------------------------------------------

namespace PayGuard

/- What a creation works on, and whether it has asked. -/
structure CreationState where
  requestKey : String
  key : ClaimedKey
  paymentId : Uuid
  asked : Bool
deriving DecidableEq, Repr

def Call.creationState : Call → Option CreationState
| .createClaimed request key intent =>
    some ⟨request.idempotencyKey, key, intent.id, false⟩
| .createProcessing request key intent =>
    some ⟨request.idempotencyKey, key, intent.id, false⟩
| .createAssessed request key intent _ =>
    some ⟨request.idempotencyKey, key, intent.id, false⟩
| .createAuthorized request key intent _ =>
    some ⟨request.idempotencyKey, key, intent.id, true⟩
| _ => none

/- The uncommitted key row of a capture, and its payment. -/
def Call.openCapture : Call → Option (IdempotencyKey × Uuid)
| .captureOpen _ keyRow intent _ => some (keyRow, intent.id)
| _ => none

/- The key row of a refund, and its payment. -/
def Call.refundKey : Call → Option (ClaimedKey × Uuid)
| .refundReserved request key _ =>
    some (key, request.paymentId)
| .refundAnswered request key _ _ =>
    some (key, request.paymentId)
| _ => none

/- The key row of a creation, or of an open capture. -/
def Call.guardedKey : Call → Option Uuid
| .createClaimed _ key _ => some key.id
| .createProcessing _ key _ => some key.id
| .createAssessed _ key _ _ => some key.id
| .createAuthorized _ key _ _ => some key.id
| .captureOpen _ keyRow _ _ => some keyRow.id
| _ => none

/- What the claim an action begins with results in. -/
def Action.claim
    (config : Config)
    (db : Database)
    (draw : Draw) : Action → Option Claim
| .createBegin request =>
    claimIdempotencyKey db request.merchantId
      request.idempotencyKey
      (createFingerprint config request) draw
| .captureBegin request =>
    claimIdempotencyKey db request.merchantId
      request.idempotencyKey
      (captureFingerprint config request) draw
| .refundBegin request =>
    claimIdempotencyKey db request.merchantId
      request.idempotencyKey
      (refundFingerprint config request) draw
| _ => none

/- Everything a step can do to the key rows. -/
inductive KeyWrite
    (config : Config)
    (system : System)
    (call : CallId)
    (draw : Draw)
    (action : Action)
    (next : System) : Prop where
| same (hKeys : next.db.keys = system.db.keys)
| claimed
    (keyRow : IdempotencyKey)
    (hClaim :
      action.claim config system.db draw =
        some (.claimed keyRow))
    (hKeys :
      next.db.keys = (system.db.putKey keyRow).keys)
| created
    (state : CreationState)
    (responseStatus : Nat)
    (responseBody : ResponseBody)
    (hCall :
      (system.calls call).creationState = some state)
    (hKeys :
      next.db.keys =
        (completeIdempotencyKey system.db state.key.id
          (some state.paymentId) responseStatus
          responseBody).keys)
| settled
    (request : CaptureRequest)
    (keyRow : IdempotencyKey)
    (intent : PaymentIntent)
    (responseStatus : Nat)
    (responseBody : ResponseBody)
    (hAction : action = .captureBegin request)
    (hClaim :
      action.claim config system.db draw =
        some (.claimed keyRow))
    (hSelect :
      system.db.selectPayment request.paymentId
        request.merchantId = some intent)
    (hStatus : intent.status = .succeeded)
    (hKeys :
      next.db.keys =
        (completeIdempotencyKey (system.db.putKey keyRow)
          keyRow.id (some intent.id) responseStatus
          responseBody).keys)
| captured
    (keyRow : IdempotencyKey)
    (paymentId : Uuid)
    (responseStatus : Nat)
    (responseBody : ResponseBody)
    (hCall :
      (system.calls call).openCapture =
        some (keyRow, paymentId))
    (hKeys :
      next.db.keys =
        (completeIdempotencyKey (system.db.putKey keyRow)
          keyRow.id (some paymentId) responseStatus
          responseBody).keys)
| refunded
    (key : ClaimedKey)
    (paymentId : Uuid)
    (responseStatus : Nat)
    (responseBody : ResponseBody)
    (refundId : Option Uuid)
    (hCall :
      (system.calls call).refundKey = some (key, paymentId))
    (hKeys :
      next.db.keys =
        (completeIdempotencyKey system.db key.id
          (some paymentId) responseStatus responseBody
          refundId).keys)
| failed
    (key : ClaimedKey)
    (hCall : (system.calls call).claimedKey = some key)
    (hKeys :
      next.db.keys =
        (failIdempotencyKey system.db key.id).keys)

variable {config : Config}
variable {system next : System}
variable {call : CallId}
variable {draw : Draw}
variable {action : Action}
variable {db db' : Database}
variable {locked : Option PaymentIntent}
variable {intent : PaymentIntent}
variable {keyRow : IdempotencyKey}
variable {keyRowId : Uuid}
variable {result : ProviderResult}
variable {response : Response}

theorem completeIdempotencyKey_keys_congr
    {paymentIntentId : Option Uuid}
    {responseStatus : Nat}
    {responseBody : ResponseBody}
    {refundId : Option Uuid}
    (hKeys : db'.keys = db.keys) :
    (completeIdempotencyKey db' keyRowId paymentIntentId
        responseStatus responseBody refundId).keys =
      (completeIdempotencyKey db keyRowId paymentIntentId
        responseStatus responseBody refundId).keys := by
  unfold completeIdempotencyKey
  rw [hKeys]

theorem createBlock_keys
    (hBody :
      createBlock db locked keyRowId draw =
        .ok (db', response)) :
    ∃ intent,
      locked = some intent ∧
        db'.keys =
          (completeIdempotencyKey db keyRowId
            (some intent.id) response.status
            response.body).keys := by
  rcases createBlock_eq_ok hBody with
    ⟨intent, base, moved, hLocked, hApply, rfl, rfl⟩
  refine ⟨intent, hLocked, ?_⟩
  rw [Moved.id_of_applyTransition hApply]
  exact completeIdempotencyKey_keys_congr
    (Moved.of_applyTransition hApply).keys

theorem createFinish_keys
    {providerName : String}
    (hBody :
      createFinish db locked keyRowId providerName result
        draw = .ok (db', response)) :
    ∃ intent,
      locked = some intent ∧
        db'.keys =
          (completeIdempotencyKey db keyRowId
            (some intent.id) response.status
            response.body).keys := by
  rcases createFinish_eq_ok hBody with
    ⟨intent, attempt, base, moved, added, hLocked, hApply,
      rfl, rfl, _⟩
  refine ⟨intent, hLocked, ?_⟩
  rw [Moved.id_of_applyAuthorizeOutcome hApply]
  have hKeys := (Moved.of_applyAuthorizeOutcome hApply).keys
  exact completeIdempotencyKey_keys_congr hKeys

theorem captureFinish_keys
    (hBody :
      captureFinish db intent keyRow result draw =
        .ok (db', response)) :
    db'.keys =
      (completeIdempotencyKey (db.putKey keyRow) keyRow.id
        (some intent.id) response.status
        response.body).keys := by
  rcases captureFinish_eq_ok hBody with
    ⟨base, moved, hOutcome, rfl, rfl⟩
  rcases applyCaptureOutcome_keys hOutcome with
    ⟨hKeys, hId⟩
  rw [hId]
  exact completeIdempotencyKey_keys_congr hKeys

theorem leaveRefundPending_id
    {moved : PaymentIntent}
    (hLeave :
      leaveRefundPending db intent draw =
        .ok (db', moved)) :
    moved.id = intent.id := by
  unfold leaveRefundPending at hLeave
  split at hLeave
  · split at hLeave
    · exact Moved.id_of_applyTransition hLeave
    · split at hLeave
      · exact Moved.id_of_applyTransition hLeave
      · exact Moved.id_of_applyTransition hLeave
  · cases hLeave
    rfl

theorem refundFinalize_keys
    {refund : Refund}
    (hBody :
      refundFinalize db locked refund keyRowId result draw =
        .ok (db', response)) :
    ∃ intent,
      locked = some intent ∧
        db'.keys =
          (completeIdempotencyKey db keyRowId
            (some intent.id) response.status
            response.body (some refund.id)).keys := by
  rcases refundFinalize_eq_ok hBody with
    ⟨intent, dbLeft, moved, body, hLocked, hLeave, rfl, _,
      rfl⟩
  refine ⟨intent, hLocked, ?_⟩
  rw [leaveRefundPending_id hLeave]
  apply completeIdempotencyKey_keys_congr
  rw [(Moved.of_leaveRefundPending hLeave).keys]
  unfold settleRefund
  simp only
  split <;> rfl

/- Neither a received webhook nor a dispatch writes one. -/
theorem receiveWebhook_keys
    (db : Database)
    (delivery : WebhookDelivery)
    (draw : Draw) :
    (receiveWebhook db delivery draw).keys = db.keys := by
  unfold receiveWebhook
  split <;> rfl

theorem dispatchEffect_keys
    {webhookEventId : Uuid}
    {plan : WebhookPlan}
    (hBody :
      dispatchEffect config db webhookEventId plan draw =
        .ok db') :
    db'.keys = db.keys := by
  cases plan with
  | skip =>
      cases hBody
      rfl
  | ignore =>
      cases hBody
      rfl
  | outcome targetStatus intent =>
      rcases handlePaymentOutcome_eq_ok hBody with
        ⟨_, _, _, rfl | ⟨_, base, moved, hApply, rfl⟩⟩
      · rfl
      · rw [← (Moved.of_applyTransition hApply).keys]
        unfold settleByWebhook
        split <;> rfl

/- No step writes a key row in any other way. -/
theorem Effect.keyWrite
    (hEffect :
      Effect config system call draw action next) :
    KeyWrite config system call draw action next := by
  cases hEffect with
  | quiet hQuiet _ => exact .same (by rw [hQuiet.db])
  | createInsert hClaims hBody =>
      rcases createInsert_eq_ok hBody with ⟨_, _, hDb⟩
      exact .claimed _ hClaims.claim (by rw [hDb]; rfl)
  | createProcess _ _ hBody =>
      rcases createProcess_eq_ok hBody with ⟨_, _, hApply⟩
      exact .same (Moved.of_applyTransition hApply).keys
  | @createBlock request key intent _ _ hCall _ _ hBody =>
      rcases createBlock_keys hBody with
        ⟨locked, hLocked, hKeys⟩
      rw [lockPayment_id hLocked] at hKeys
      exact .created
        ⟨request.idempotencyKey, key, intent.id, false⟩ _ _
        (by rw [hCall]; rfl) hKeys
  | @createFinish request key intent _ _ _ hCall _ _ hBody =>
      rcases createFinish_keys hBody with
        ⟨locked, hLocked, hKeys⟩
      rw [lockPayment_id hLocked] at hKeys
      exact .created
        ⟨request.idempotencyKey, key, intent.id, true⟩ _ _
        (by rw [hCall]; rfl) hKeys
  | captureSettled hClaims hSelect hStatus =>
      exact .settled _ _ _ _ _ rfl hClaims.claim hSelect
        hStatus rfl
  | captureFinish hCall _ hBody =>
      exact .captured _ _ _ _ (by rw [hCall]; rfl)
        (captureFinish_keys hBody)
  | refundReserve hClaims _ hBody =>
      rcases refundReserve_eq_ok hBody with
        ⟨_, _, _, _, _, _, _, hEnter⟩
      exact .claimed _ hClaims.claim
        (Moved.of_enterRefundPending hEnter).keys
  | refundFinish hCall _ _ hBody =>
      rcases refundFinalize_keys hBody with
        ⟨locked, hLocked, hKeys⟩
      rw [lockPayment_id hLocked] at hKeys
      exact .refunded _ _ _ _ _ (by rw [hCall]; rfl) hKeys
  | receiveWebhook _ =>
      exact .same (receiveWebhook_keys _ _ _)
  | dispatchFinish _ _ hBody =>
      have hKeys := dispatchEffect_keys hBody
      exact .same hKeys
  | reconcileApply _ _ hBody =>
      exact .same (reconcileApply_keys hBody)
  | failWrite hCall _ =>
      exact .failed _ (by rw [hCall]; rfl) rfl
  | _ => exact .same rfl

end PayGuard

------------------------------------------------------------
-- Claims
------------------------------------------------------------

namespace PayGuard

variable {config : Config}
variable {system next : System}
variable {call : CallId}
variable {draw : Draw}
variable {action : Action}
variable {key : ClaimedKey}
variable {keyRow : IdempotencyKey}

theorem Action.claim_eq_some
    {db : Database}
    {claim : Claim}
    (hClaim : action.claim config db draw = some claim) :
    ∃ merchantId idempotencyKey fingerprint,
      claimIdempotencyKey db merchantId idempotencyKey
        fingerprint draw = some claim := by
  cases action with
  | createBegin request => exact ⟨_, _, _, hClaim⟩
  | captureBegin request => exact ⟨_, _, _, hClaim⟩
  | refundBegin request => exact ⟨_, _, _, hClaim⟩
  | _ => cases hClaim

/- A claimed row names no payment. -/
theorem claim_unnamed
    (hClaim :
      action.claim config system.db draw =
        some (.claimed keyRow)) :
    keyRow.paymentIntentId = none := by
  rcases Action.claim_eq_some hClaim with ⟨_, _, _, hClaimed⟩
  rcases claimIdempotencyKey_eq_claimed hClaimed with
    ⟨_, rfl⟩ | ⟨_, _, _, _, _, rfl⟩
  · rfl
  · rfl

/- A claimed row is new, or an abandoned one on file. -/
theorem claim_stored
    (hAdmits : system.db.Admits draw)
    (hClaim :
      action.claim config system.db draw =
        some (.claimed keyRow)) :
    keyRow.id ∉ system.db.keys.map (·.id) ∨
      ∃ existing ∈ system.db.keys,
        existing.status ≠ .completed ∧
          existing.id = keyRow.id ∧
          existing.createdAt = keyRow.createdAt := by
  rcases Action.claim_eq_some hClaim with ⟨_, _, _, hClaimed⟩
  rcases claimIdempotencyKey_eq_claimed hClaimed with
    ⟨_, rfl⟩ | ⟨existing, _, _, hFind, hEvaluation, rfl⟩
  · exact .inl hAdmits.1
  · refine .inr ⟨existing, (findKey_eq_some hFind).1, ?_,
      rfl, rfl⟩
    intro hCompleted
    unfold evaluateExisting at hEvaluation
    split at hEvaluation
    · cases hEvaluation
    · rw [hCompleted] at hEvaluation
      cases hEvaluation

/- A call works under a key it has just claimed. -/
theorem stepClaim_claims
    {merchantId : Uuid}
    {idempotencyKey fingerprint : String}
    {work : IdempotencyKey → Option System}
    (hWork :
      ∀ keyRow,
        work keyRow = some next →
          (next.calls call).claimedKey = some key →
            keyRow.claimedKey = key)
    (hStep :
      stepClaim system call merchantId idempotencyKey
        fingerprint draw work = some next)
    (hKey : (next.calls call).claimedKey = some key) :
    ∃ keyRow,
      claimIdempotencyKey system.db merchantId idempotencyKey
          fingerprint draw = some (.claimed keyRow) ∧
        keyRow.claimedKey = key := by
  unfold stepClaim at hStep
  split at hStep
  · split at hStep
    · cases hStep
    · cases hStep
      simp [Call.claimedKey] at hKey
    · cases hStep
      simp [Call.claimedKey] at hKey
    · cases hStep
      simp [Call.claimedKey] at hKey
    · rename_i keyRow hClaim
      split at hStep
      · exact ⟨keyRow, hClaim, hWork keyRow hStep hKey⟩
      · cases hStep
  · cases hStep

/- Where the key a call works under comes from. -/
theorem callStep_claims
    (hStep :
      callStep config system call draw action = some next)
    (hKey : (next.calls call).claimedKey = some key) :
    (system.calls call).claimedKey = some key ∨
      ∃ keyRow,
        action.claim config system.db draw =
            some (.claimed keyRow) ∧
          keyRow.claimedKey = key := by
  cases action with
  | createBegin request =>
      refine .inr (stepClaim_claims ?_ hStep hKey)
      intro keyRow hWork hKey
      split at hWork
      · cases hWork
        simpa [Call.claimedKey] using hKey
      · cases hWork
        simpa [Call.claimedKey] using hKey
  | captureBegin request =>
      refine .inr (stepClaim_claims ?_ hStep hKey)
      intro keyRow hWork hKey
      split at hWork
      · split at hWork
        · cases hWork
          simpa [Call.claimedKey] using hKey
        · cases hWork
          simp [Call.claimedKey] at hKey
        · cases hWork
          simpa [Call.claimedKey] using hKey
      · cases hWork
  | refundBegin request =>
      refine .inr (stepClaim_claims ?_ hStep hKey)
      intro keyRow hWork hKey
      split at hWork
      · split at hWork
        · cases hWork
          simpa [Call.claimedKey] using hKey
        · cases hWork
          simpa [Call.claimedKey] using hKey
      · cases hWork
  -- the others go on under the key they have, or drop it
  | _ =>
      simp only [callStep, stepCreateProcess,
        stepCreateAssess, stepCreateBlock,
        stepCreateAuthorize, stepCreateFinish,
        stepCaptureFinish, stepRefundAnswer,
        stepRefundFinish, stepReceiveWebhook,
        stepDispatchBegin, stepDispatchFinish,
        stepReconcileLoad, stepReconcileBegin,
        stepReconcileNext, reconcileLock,
        stepReconcileAnswer, stepReconcileApply,
        stepReconcileReport, stepRaise, stepFailRead,
        stepFailWrite, stepDie] at hStep
      repeat' split at hStep
      all_goals cases hStep
      all_goals simp_all [Call.claimedKey]

theorem step_claims
    {label : Label}
    (hStep : step config system label = some next)
    (hKey : (next.calls label.call).claimedKey = some key) :
    (system.calls label.call).claimedKey = some key ∨
      ∃ keyRow,
        label.action.claim config system.db label.draw =
            some (.claimed keyRow) ∧
          keyRow.claimedKey = key := by
  unfold step at hStep
  split at hStep
  · exact callStep_claims hStep hKey
  · cases hStep

end PayGuard

------------------------------------------------------------
-- Positions
------------------------------------------------------------

namespace PayGuard

variable {position : Call}
variable {state : CreationState}
variable {keyRow : IdempotencyKey}
variable {key : ClaimedKey}
variable {paymentId : Uuid}

theorem Call.claimedKey_of_creationState
    (hState : position.creationState = some state) :
    position.claimedKey = some state.key ∧
      position.guardedKey = some state.key.id := by
  cases position <;> cases hState <;> exact ⟨rfl, rfl⟩

theorem Call.creating_of_creationState
    (hState : position.creationState = some state) :
    ∃ intent status,
      position.creating = some (intent, status) ∧
        intent.id = state.paymentId := by
  cases position <;> cases hState <;>
    exact ⟨_, _, rfl, rfl⟩

theorem Call.claimedKey_of_openCapture
    (hCapture :
      position.openCapture = some (keyRow, paymentId)) :
    position.claimedKey = some keyRow.claimedKey ∧
      position.guardedKey = some keyRow.id ∧
      position.touched = some paymentId := by
  cases position <;> cases hCapture
  exact ⟨rfl, rfl, rfl⟩

theorem Call.claimedKey_of_refundKey
    (hRefund :
      position.refundKey = some (key, paymentId)) :
    position.claimedKey = some key ∧
      position.touched = some paymentId := by
  cases position <;> cases hRefund <;> exact ⟨rfl, rfl⟩

end PayGuard

------------------------------------------------------------
-- Rows Kept And Rows Written
------------------------------------------------------------

namespace PayGuard

variable {config : Config}
variable {system next : System}
variable {call : CallId}
variable {draw : Draw}
variable {action : Action}
variable {row keyRow link : IdempotencyKey}
variable {paymentId : Uuid}

/- Rows the acting call does not work under stay. -/
theorem KeyWrite.kept
    (hWrite : KeyWrite config system call draw action next)
    (hRow : row ∈ system.db.keys)
    (hKey :
      ∀ key,
        (system.calls call).claimedKey = some key →
          key.id ≠ row.id)
    (hClaims :
      ∀ keyRow,
        action.claim config system.db draw =
            some (.claimed keyRow) →
          keyRow.id ≠ row.id) :
    row ∈ next.db.keys := by
  cases hWrite with
  | same hKeys =>
      rw [hKeys]
      exact hRow
  | claimed keyRow hClaim hKeys =>
      rw [hKeys, mem_putKey]
      exact .inr ⟨hRow, (hClaims keyRow hClaim).symm⟩
  | created state _ _ hCall hKeys =>
      have hClaimed := Call.claimedKey_of_creationState hCall
      rw [hKeys, mem_completeIdempotencyKey]
      exact .inl ⟨hRow, (hKey _ hClaimed.1).symm⟩
  | settled _ keyRow _ _ _ _ hClaim _ _ hKeys =>
      rw [hKeys, mem_completeIdempotencyKey_putKey]
      exact .inr ⟨hRow, (hClaims keyRow hClaim).symm⟩
  | captured keyRow _ _ _ hCall hKeys =>
      have hClaimed := Call.claimedKey_of_openCapture hCall
      rw [hKeys, mem_completeIdempotencyKey_putKey]
      exact .inr ⟨hRow, (hKey _ hClaimed.1).symm⟩
  | refunded key _ _ _ _ hCall hKeys =>
      have hClaimed := Call.claimedKey_of_refundKey hCall
      rw [hKeys, mem_completeIdempotencyKey]
      exact .inl ⟨hRow, (hKey _ hClaimed.1).symm⟩
  | failed key hCall hKeys =>
      rw [hKeys, mem_failIdempotencyKey]
      exact .inl ⟨hRow, (hKey _ hCall).symm⟩

theorem completed_createdAt
    {db : Database}
    {keyRowId : Uuid}
    {paymentIntentId : Option Uuid}
    {responseStatus : Nat}
    {responseBody : ResponseBody}
    {refundId : Option Uuid}
    (hRow : row ∈ db.keys) :
    ∃ row' ∈ (completeIdempotencyKey db keyRowId
        paymentIntentId responseStatus responseBody
        refundId).keys,
      row'.id = row.id ∧ row'.createdAt = row.createdAt := by
  by_cases hId : row.id = keyRowId
  · exact ⟨_, mem_completeIdempotencyKey.mpr
      (.inr ⟨row, hRow, hId, rfl⟩), rfl, rfl⟩
  · exact ⟨row, mem_completeIdempotencyKey.mpr
      (.inl ⟨hRow, hId⟩), rfl, rfl⟩

/- Where a row of the next state comes from. -/
inductive RowSource
    (config : Config)
    (system : System)
    (call : CallId)
    (draw : Draw)
    (action : Action)
    (row : IdempotencyKey) : Prop where
| kept
    (old : IdempotencyKey)
    (hOld : old ∈ system.db.keys)
    (hId : old.id = row.id)
    (hCreated : old.createdAt = row.createdAt)
    (hNamed : row.paymentIntentId = old.paymentIntentId)
| claimed
    (hClaim :
      action.claim config system.db draw =
        some (.claimed row))
| created
    (state : CreationState)
    (old : IdempotencyKey)
    (hCall :
      (system.calls call).creationState = some state)
    (hOld : old ∈ system.db.keys)
    (hId : old.id = row.id)
    (hCreated : old.createdAt = row.createdAt)
    (hNamed : row.paymentIntentId = some state.paymentId)
| settled
    (request : CaptureRequest)
    (keyRow : IdempotencyKey)
    (intent : PaymentIntent)
    (hAction : action = .captureBegin request)
    (hClaim :
      action.claim config system.db draw =
        some (.claimed keyRow))
    (hSelect :
      system.db.selectPayment request.paymentId
        request.merchantId = some intent)
    (hStatus : intent.status = .succeeded)
    (hId : keyRow.id = row.id)
    (hCreated : keyRow.createdAt = row.createdAt)
    (hNamed : row.paymentIntentId = some intent.id)
| captured
    (keyRow : IdempotencyKey)
    (paymentId : Uuid)
    (hCall :
      (system.calls call).openCapture =
        some (keyRow, paymentId))
    (hId : keyRow.id = row.id)
    (hCreated : keyRow.createdAt = row.createdAt)
    (hNamed : row.paymentIntentId = some paymentId)
| refunded
    (key : ClaimedKey)
    (paymentId : Uuid)
    (old : IdempotencyKey)
    (hCall :
      (system.calls call).refundKey = some (key, paymentId))
    (hOld : old ∈ system.db.keys)
    (hKey : old.id = key.id)
    (hId : old.id = row.id)
    (hCreated : old.createdAt = row.createdAt)
    (hNamed : row.paymentIntentId = some paymentId)

theorem KeyWrite.source
    (hWrite : KeyWrite config system call draw action next)
    (hRow : row ∈ next.db.keys) :
    RowSource config system call draw action row := by
  have hKept :
      row ∈ system.db.keys →
        RowSource config system call draw action row :=
    fun hOld => .kept row hOld rfl rfl rfl
  cases hWrite with
  | same hKeys =>
      rw [hKeys] at hRow
      exact hKept hRow
  | claimed keyRow hClaim hKeys =>
      rw [hKeys] at hRow
      rcases mem_putKey.mp hRow with rfl | ⟨hOld, _⟩
      · exact .claimed hClaim
      · exact hKept hOld
  | created state _ _ hCall hKeys =>
      rw [hKeys] at hRow
      rcases mem_completeIdempotencyKey.mp hRow with
        ⟨hOld, _⟩ | ⟨old, hOld, _, rfl⟩
      · exact hKept hOld
      · exact .created state old hCall hOld rfl rfl rfl
  | settled request keyRow intent _ _ hAction hClaim hSelect
      hStatus hKeys =>
      rw [hKeys] at hRow
      rcases mem_completeIdempotencyKey_putKey.mp hRow with
        rfl | ⟨hOld, _⟩
      · exact .settled request keyRow intent hAction hClaim
          hSelect hStatus rfl rfl rfl
      · exact hKept hOld
  | captured keyRow paymentId _ _ hCall hKeys =>
      rw [hKeys] at hRow
      rcases mem_completeIdempotencyKey_putKey.mp hRow with
        rfl | ⟨hOld, _⟩
      · exact .captured keyRow paymentId hCall rfl rfl rfl
      · exact hKept hOld
  | refunded key paymentId _ _ _ hCall hKeys =>
      rw [hKeys] at hRow
      rcases mem_completeIdempotencyKey.mp hRow with
        ⟨hOld, _⟩ | ⟨old, hOld, hId, rfl⟩
      · exact hKept hOld
      · exact .refunded key paymentId old hCall hOld hId rfl
          rfl rfl
  | failed key _ hKeys =>
      rw [hKeys] at hRow
      rcases mem_failIdempotencyKey.mp hRow with
        ⟨hOld, _⟩ | ⟨old, hOld, _, rfl⟩
      · exact hKept hOld
      · exact .kept old hOld rfl rfl rfl

end PayGuard

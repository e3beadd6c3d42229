import PayGuard.Idempotency.Framing
import PayGuard.System.KeyRows

/-
  A capture that fails leaves the database as it was.

  A capture commits its key row together with its work, so
  a committed row with the fingerprint of a capture is
  `COMPLETED`, and the claim of a capture inserts a new row.
  Until the capture commits, nobody else works under that
  row, and the failure handler finds no row to mark.

  Key definitions include:
    * `Label.drawnKey` and `DrawsNewKey`
    * `Unfiled`
    * `CapturesFiled`
    * `KeepsDatabase`

  Key theorems include:
    * `meets_drawsNewKey`
    * `capturesFiled_step`
    * `Uncommitted.own_step`
    * `failing_capture_changes_nothing`
-/

------------------------------------------------------------
-- Drawn Identifiers
------------------------------------------------------------

namespace PayGuard

/- The identifier a claim inserts its row with. -/
def Label.drawnKey (label : Label) : Option Uuid :=
  match label.action with
  | .createBegin _ => some label.draw.key
  | .captureBegin _ => some label.draw.key
  | .refundBegin _ => some label.draw.key
  | _ => none

/- No call works under the identifier a claim draws. -/
def DrawsNewKey
    (system : System)
    (label : Label) : Prop :=
  ∀ keyRowId,
    label.drawnKey = some keyRowId →
      ∀ other key,
        (system.calls other).claimedKey = some key →
          key.id ≠ keyRowId

/- The identifiers of key rows in use. -/
def KnownKey
    (system : System)
    (keyRowId : Uuid) : Prop :=
  keyRowId ∈ system.db.keys.map (·.id) ∨
    ∃ call key,
      (system.calls call).claimedKey = some key ∧
        key.id = keyRowId

variable {config : Config}
variable {system next : System}
variable {label : Label}
variable {row keyRow : IdempotencyKey}
variable {keyRowId : Uuid}

/- Only the claim of a new row draws an identifier. -/
theorem claim_drawnKey
    (hClaim :
      label.action.claim config system.db label.draw =
        some (.claimed keyRow)) :
    label.drawnKey = some keyRow.id ∨
      keyRow.id ∈ system.db.keys.map (·.id) := by
  have hDrawn : label.drawnKey = some label.draw.key := by
    unfold Label.drawnKey
    cases hAction : label.action with
    | createBegin request => rfl
    | captureBegin request => rfl
    | refundBegin request => rfl
    | _ =>
        rw [hAction] at hClaim
        cases hClaim
  rcases Action.claim_eq_some hClaim with ⟨_, _, _, hClaimed⟩
  rcases claimIdempotencyKey_eq_claimed hClaimed with
    ⟨_, rfl⟩ | ⟨existing, _, _, hFind, _, rfl⟩
  · exact .inl hDrawn
  · exact .inr (List.mem_map.mpr
      ⟨existing, (findKey_eq_some hFind).1, rfl⟩)

/- Where the identifier of a row comes from. -/
theorem keyRow_id_source
    (hEffect :
      Effect config system label.call label.draw
        label.action next)
    (hRow : row ∈ next.db.keys) :
    row.id ∈ system.db.keys.map (·.id) ∨
      label.drawnKey = some row.id ∨
      ∃ key,
        (system.calls label.call).claimedKey = some key ∧
          key.id = row.id := by
  have hOld :
      ∀ old ∈ system.db.keys,
        old.id ∈ system.db.keys.map (·.id) :=
    fun _ hOld => List.mem_map_of_mem hOld
  cases hEffect.keyWrite.source hRow with
  | kept old hMem hId _ _ =>
      rw [← hId]
      exact .inl (hOld old hMem)
  | claimed hClaim =>
      rcases claim_drawnKey hClaim with hDrawn | hStored
      · exact .inr (.inl hDrawn)
      · exact .inl hStored
  | created state old _ hMem hId _ _ =>
      rw [← hId]
      exact .inl (hOld old hMem)
  | settled request keyRow intent _ hClaim _ _ hId _ _ =>
      rw [← hId]
      rcases claim_drawnKey hClaim with hDrawn | hStored
      · exact .inr (.inl hDrawn)
      · exact .inl hStored
  | captured keyRow paymentId hCapture hId _ _ =>
      exact .inr (.inr ⟨keyRow.claimedKey,
        (Call.claimedKey_of_openCapture hCapture).1, hId⟩)
  | refunded key paymentId old _ hMem _ hId _ _ =>
      rw [← hId]
      exact .inl (hOld old hMem)

/- Where the key the acting call works under comes from. -/
theorem claimedKey_id_source
    {key : ClaimedKey}
    (hStep : step config system label = some next)
    (hKey :
      (next.calls label.call).claimedKey = some key) :
    (system.calls label.call).claimedKey = some key ∨
      label.drawnKey = some key.id ∨
      key.id ∈ system.db.keys.map (·.id) := by
  rcases step_claims hStep hKey with
    hKept | ⟨keyRow, hClaim, rfl⟩
  · exact .inl hKept
  · exact .inr (claim_drawnKey hClaim)

/- An identifier comes into use by being drawn. -/
theorem knownKey_step
    (hStep : step config system label = some next)
    (hKnown : KnownKey next keyRowId) :
    KnownKey system keyRowId ∨
      label.drawnKey = some keyRowId := by
  have hEffect := (step_effect hStep).2
  rcases hKnown with hStored | ⟨call, key, hKey, rfl⟩
  · rcases List.mem_map.mp hStored with ⟨row, hRow, rfl⟩
    rcases keyRow_id_source hEffect hRow with
      hOld | hDrawn | hHeld
    · exact .inl (.inl hOld)
    · exact .inr hDrawn
    · exact .inl (.inr ⟨label.call, hHeld⟩)
  · by_cases hActs : call = label.call
    · subst hActs
      rcases claimedKey_id_source hStep hKey with
        hHeld | hDrawn | hOld
      · exact .inl (.inr ⟨label.call, key, hHeld, rfl⟩)
      · exact .inr hDrawn
      · exact .inl (.inl hOld)
    · rw [hEffect.frame.calls call hActs] at hKey
      exact .inl (.inr ⟨call, key, hKey, rfl⟩)

/- Identifiers drawn once are new whenever drawn. -/
theorem meets_drawsNewKey
    {labels : List Label}
    (hUnknown :
      ∀ keyRowId ∈ labels.filterMap Label.drawnKey,
        ¬ KnownKey system keyRowId)
    (hDraws : (labels.filterMap Label.drawnKey).Nodup) :
    Lts.Meets (step config) DrawsNewKey system labels := by
  induction labels generalizing system with
  | nil => trivial
  | cons label labels ih =>
      have hHere : DrawsNewKey system label := by
        intro keyRowId hDrawn other key hKey hSame
        refine hUnknown keyRowId ?_
          (.inr ⟨other, key, hKey, hSame⟩)
        exact List.mem_filterMap.mpr
          ⟨label, List.mem_cons_self, hDrawn⟩
      cases hStep : step config system label with
      | none =>
          rw [Lts.meets_cons_of_none hStep]
          exact hHere
      | some next =>
          rw [Lts.meets_cons_of_step hStep]
          refine ⟨hHere, ih ?_ ?_⟩
          · intro keyRowId hLater hKnown
            rcases knownKey_step hStep hKnown with
              hBefore | hDrawn
            · refine hUnknown keyRowId ?_ hBefore
              rw [List.filterMap_cons]
              split
              · exact hLater
              · exact List.mem_cons_of_mem _ hLater
            · rw [List.filterMap_cons_some hDrawn,
                List.nodup_cons] at hDraws
              exact hDraws.1 hLater
          · exact hDraws.sublist
              ((List.sublist_cons_self _ _).filterMap _)

end PayGuard

------------------------------------------------------------
-- Rows Of Captures
------------------------------------------------------------

namespace PayGuard

/- The row was claimed by a capture. -/
def OfCapture
    (config : Config)
    (row : IdempotencyKey) : Prop :=
  ∃ request,
    row.requestFingerprint =
      captureFingerprint config request

/- The row a call works under is its own and not on file. -/
structure Unfiled
    (system : System)
    (call : CallId) : Prop where
  absent :
    ∀ key,
      (system.calls call).claimedKey = some key →
        key.id ∉ system.db.keys.map (·.id)
  alone :
    ∀ key,
      (system.calls call).claimedKey = some key →
        ∀ other key',
          other ≠ call →
            (system.calls other).claimedKey = some key' →
              key'.id ≠ key.id

/-
  Rows of captures are filed completed, no call works under
  a filed one, and an open capture has its row to itself.
-/
structure CapturesFiled
    (config : Config)
    (system : System) : Prop where
  ids : (system.db.keys.map (·.id)).Nodup
  completed :
    ∀ row ∈ system.db.keys,
      OfCapture config row →
        row.status = .completed
  apart :
    ∀ call key,
      (system.calls call).claimedKey = some key →
        ∀ row ∈ system.db.keys,
          OfCapture config row →
            row.id ≠ key.id
  unfiled :
    ∀ call keyRow paymentId,
      (system.calls call).openCapture =
          some (keyRow, paymentId) →
        OfCapture config keyRow ∧ Unfiled system call

theorem capturesFiled_initial
    (config : Config) : CapturesFiled config {} where
  ids := List.nodup_nil
  completed := by simp
  apart := by simp
  unfiled := by
    intro call keyRow paymentId hCapture
    cases hCapture

variable {config : Config}
variable {system next : System}
variable {call : CallId}
variable {draw : Draw}
variable {action : Action}
variable {row keyRow : IdempotencyKey}
variable {merchantId : Uuid}
variable {idempotencyKey fingerprint : String}

/- What is reclaimed has the fingerprint and is not done. -/
theorem evaluateExisting_eq_reclaim
    {existing : IdempotencyKey}
    {now : Timestamp}
    {staleAfter : Int}
    {expectedStatus : KeyStatus}
    {expectedLockedAt : Option Timestamp}
    (hEvaluation :
      evaluateExisting existing fingerprint now staleAfter =
        .reclaim expectedStatus expectedLockedAt) :
    existing.requestFingerprint = fingerprint ∧
      existing.status ≠ .completed := by
  unfold evaluateExisting at hEvaluation
  split at hEvaluation
  · cases hEvaluation
  · rename_i hFingerprint
    refine ⟨not_not.mp hFingerprint, ?_⟩
    intro hCompleted
    rw [hCompleted] at hEvaluation
    cases hEvaluation

/- A claimed row has the fingerprint it was claimed with. -/
theorem claimed_fingerprint
    {db : Database}
    (hClaim :
      claimIdempotencyKey db merchantId idempotencyKey
        fingerprint draw = some (.claimed keyRow)) :
    keyRow.requestFingerprint = fingerprint := by
  rcases claimIdempotencyKey_eq_claimed hClaim with
    ⟨_, rfl⟩ | ⟨existing, _, _, _, hEvaluation, rfl⟩
  · rfl
  · exact (evaluateExisting_eq_reclaim hEvaluation).1

/- Only a capture claims the row of a capture. -/
theorem claim_ofCapture
    (hCollisionFree : Function.Injective config.sha256)
    (hClaim :
      action.claim config system.db draw =
        some (.claimed keyRow))
    (hOfCapture : OfCapture config keyRow) :
    ∃ request, action = .captureBegin request := by
  rcases hOfCapture with ⟨capture, hFingerprint⟩
  cases action with
  | createBegin request =>
      have hMine := claimed_fingerprint hClaim
      exact absurd (hMine.symm.trans hFingerprint)
        (createFingerprint_ne hCollisionFree _ _)
  | captureBegin request => exact ⟨request, rfl⟩
  | refundBegin request =>
      have hMine := claimed_fingerprint hClaim
      exact absurd (hMine.symm.trans hFingerprint)
        (refundFingerprint_ne hCollisionFree _ _)
  | _ => cases hClaim

/- The claim of a capture inserts its row. -/
theorem CapturesFiled.claim_new
    {request : CaptureRequest}
    (hFiled : CapturesFiled config system)
    (hClaim :
      (Action.captureBegin request).claim config system.db
        draw = some (.claimed keyRow)) :
    system.db.findKey request.merchantId
        request.idempotencyKey = none ∧
      keyRow =
        newKey request.merchantId request.idempotencyKey
          (captureFingerprint config request) draw := by
  rcases claimIdempotencyKey_eq_claimed hClaim with
    hNew | ⟨existing, _, _, hFind, hEvaluation, _⟩
  · exact hNew
  · rcases evaluateExisting_eq_reclaim hEvaluation with
      ⟨hFingerprint, hOpen⟩
    have hExisting := (findKey_eq_some hFind).1
    exact absurd
      (hFiled.completed existing hExisting
        ⟨request, hFingerprint⟩) hOpen

end PayGuard

------------------------------------------------------------
-- What Becomes Of A Row
------------------------------------------------------------

namespace PayGuard

/-
  How a row of the next state got there: a row claimed by a
  capture is committed in its completed form only.
-/
inductive RowFate
    (config : Config)
    (system : System)
    (call : CallId)
    (draw : Draw)
    (action : Action)
    (next : System)
    (row : IdempotencyKey) : Prop where
| kept (hRow : row ∈ system.db.keys)
| rewritten
    (key : ClaimedKey)
    (old : IdempotencyKey)
    (hKey : (system.calls call).claimedKey = some key)
    (hOld : old ∈ system.db.keys)
    (hOldId : old.id = key.id)
    (hId : row.id = old.id)
    (hFingerprint :
      row.requestFingerprint = old.requestFingerprint)
| claimed
    (hClaim :
      action.claim config system.db draw =
        some (.claimed row))
    (hAction : ∀ request, action ≠ .captureBegin request)
| settled
    (request : CaptureRequest)
    (keyRow : IdempotencyKey)
    (hAction : action = .captureBegin request)
    (hClaim :
      action.claim config system.db draw =
        some (.claimed keyRow))
    (hId : row.id = keyRow.id)
    (hStatus : row.status = .completed)
    (hEnded : (next.calls call).claimedKey = none)
| captured
    (keyRow : IdempotencyKey)
    (paymentId : Uuid)
    (hCapture :
      (system.calls call).openCapture =
        some (keyRow, paymentId))
    (hId : row.id = keyRow.id)
    (hStatus : row.status = .completed)
    (hEnded : (next.calls call).claimedKey = none)

variable {config : Config}
variable {system next : System}
variable {call : CallId}
variable {draw : Draw}
variable {action : Action}
variable {row keyRow : IdempotencyKey}

theorem KeyWrite.rowFate
    (hWrite : KeyWrite config system call draw action next)
    (hOpen : (system.calls call).openCapture = none)
    (hAction : ∀ request, action ≠ .captureBegin request)
    (hRow : row ∈ next.db.keys) :
    RowFate config system call draw action next row := by
  cases hWrite with
  | same hKeys =>
      rw [hKeys] at hRow
      exact .kept hRow
  | claimed keyRow hClaim hKeys =>
      rw [hKeys] at hRow
      rcases mem_putKey.mp hRow with rfl | ⟨hOld, _⟩
      · exact .claimed hClaim hAction
      · exact .kept hOld
  | created state _ _ hCall hKeys =>
      rw [hKeys] at hRow
      have hClaimed := Call.claimedKey_of_creationState hCall
      rcases mem_completeIdempotencyKey.mp hRow with
        ⟨hOld, _⟩ | ⟨old, hOld, hId, rfl⟩
      · exact .kept hOld
      · exact .rewritten state.key old hClaimed.1 hOld hId
          rfl rfl
  | settled request _ _ _ _ hSettles _ _ _ _ =>
      exact absurd hSettles (hAction request)
  | captured keyRow paymentId _ _ hCall _ =>
      rw [hOpen] at hCall
      cases hCall
  | refunded key _ _ _ _ hCall hKeys =>
      rw [hKeys] at hRow
      have hClaimed := Call.claimedKey_of_refundKey hCall
      rcases mem_completeIdempotencyKey.mp hRow with
        ⟨hOld, _⟩ | ⟨old, hOld, hId, rfl⟩
      · exact .kept hOld
      · exact .rewritten key old hClaimed.1 hOld hId rfl rfl
  | failed key hCall hKeys =>
      rw [hKeys] at hRow
      rcases mem_failIdempotencyKey.mp hRow with
        ⟨hOld, _⟩ | ⟨old, hOld, hId, rfl⟩
      · exact .kept hOld
      · exact .rewritten key old hCall hOld hId rfl rfl

theorem Effect.rowFate
    (hEffect :
      Effect config system call draw action next)
    (hRow : row ∈ next.db.keys) :
    RowFate config system call draw action next row := by
  have hOther :
      (system.calls call).openCapture = none →
        (∀ request, action ≠ .captureBegin request) →
          RowFate config system call draw action next
            row :=
    fun hOpen hAction =>
      hEffect.keyWrite.rowFate hOpen hAction hRow
  cases hEffect with
  | quiet hQuiet _ =>
      rw [hQuiet.db] at hRow
      exact .kept hRow
  | captureOpen _ _ _ _ _ => exact .kept hRow
  | @captureSettled request keyRow _ hClaims _ _ =>
      rcases mem_completeIdempotencyKey_putKey.mp hRow with
        rfl | ⟨hOld, _⟩
      · refine .settled request keyRow rfl hClaims.claim rfl
          rfl ?_
        simp [System.commit, Call.claimedKey]
      · exact .kept hOld
  | @captureFinish _ keyRow intent _ _ _ _ hCall _ hBody =>
      have hKeys := captureFinish_keys hBody
      simp only [System.commit] at hRow
      rw [hKeys] at hRow
      rcases mem_completeIdempotencyKey_putKey.mp hRow with
        rfl | ⟨hOld, _⟩
      · refine .captured keyRow intent.id ?_ rfl rfl ?_
        · rw [hCall]
          rfl
        · simp [System.commit, Call.claimedKey]
      · exact .kept hOld
  | createInsert hClaims _ =>
      exact hOther (by rw [hClaims.idle]; rfl) (by simp)
  | refundReserve hClaims _ _ =>
      exact hOther (by rw [hClaims.idle]; rfl) (by simp)
  | createProcess hCall _ _ =>
      exact hOther (by rw [hCall]; rfl) (by simp)
  | createAssess hCall =>
      exact hOther (by rw [hCall]; rfl) (by simp)
  | createBlock hCall _ _ _ =>
      exact hOther (by rw [hCall]; rfl) (by simp)
  | createFinish hCall _ _ _ =>
      exact hOther (by rw [hCall]; rfl) (by simp)
  | refundAnswer hCall _ =>
      exact hOther (by rw [hCall]; rfl) (by simp)
  | refundFinish hCall _ _ _ =>
      exact hOther (by rw [hCall]; rfl) (by simp)
  | receiveWebhook hCall =>
      exact hOther (by rw [hCall]; rfl) (by simp)
  | dispatchFinish hCall _ _ =>
      exact hOther (by rw [hCall]; rfl) (by simp)
  | reconcileApply hCall _ _ =>
      exact hOther (by rw [hCall]; rfl) (by simp)
  | reconcileReport hCall =>
      exact hOther (by rw [hCall]; rfl) (by simp)
  | failWrite hCall _ =>
      exact hOther (by rw [hCall]; rfl) (by simp)

end PayGuard

------------------------------------------------------------
-- One Step
------------------------------------------------------------

namespace PayGuard

variable {config : Config}
variable {system next : System}
variable {call : CallId}
variable {draw : Draw}
variable {action : Action}
variable {label : Label}
variable {row keyRow : IdempotencyKey}
variable {paymentId : Uuid}

/- A row stays off file while another call acts. -/
theorem Unfiled.other_step
    (hUnfiled : Unfiled system call)
    (hOther : call ≠ label.call)
    (hNew : DrawsNewKey system label)
    (hStep : step config system label = some next) :
    Unfiled next call := by
  have hEffect := (step_effect hStep).2
  have hSame : next.calls call = system.calls call :=
    hEffect.frame.calls call hOther
  constructor
  · intro key hKey hStored
    rw [hSame] at hKey
    rcases List.mem_map.mp hStored with ⟨row, hRow, hId⟩
    rcases keyRow_id_source hEffect hRow with
      hOld | hDrawn | ⟨key', hKey', hId'⟩
    · rw [hId] at hOld
      exact hUnfiled.absent key hKey hOld
    · exact hNew row.id hDrawn call key hKey hId.symm
    · exact hUnfiled.alone key hKey label.call key'
        hOther.symm hKey' (hId'.trans hId)
  · intro key hKey other key' hApart hKey' hId
    rw [hSame] at hKey
    by_cases hActs : other = label.call
    · subst hActs
      rcases claimedKey_id_source hStep hKey' with
        hHeld | hDrawn | hOld
      · exact hUnfiled.alone key hKey _ key' hApart hHeld hId
      · exact hNew key'.id hDrawn call key hKey hId.symm
      · rw [hId] at hOld
        exact hUnfiled.absent key hKey hOld
    · rw [hEffect.frame.calls other hActs] at hKey'
      exact hUnfiled.alone key hKey other key' hApart hKey'
        hId

/- Only an idle call begins a capture. -/
theorem captureBegin_idle
    {request : CaptureRequest}
    (hAction : label.action = .captureBegin request)
    (hStep : step config system label = some next) :
    system.calls label.call = .idle := by
  unfold step at hStep
  split at hStep
  · rw [hAction] at hStep
    simp only [callStep, stepCaptureBegin, stepClaim]
      at hStep
    split at hStep
    · rename_i hIdle
      exact hIdle
    · cases hStep
  · cases hStep

/- A capture begins under a row nobody else knows. -/
theorem CapturesFiled.begin_step
    {request : CaptureRequest}
    (hFiled : CapturesFiled config system)
    (hNew : DrawsNewKey system label)
    (hAction : label.action = .captureBegin request)
    (hStep : step config system label = some next)
    (hDb : next.db = system.db) :
    Unfiled next label.call := by
  have hEffect := (step_effect hStep).2
  have hAdmits := (step_effect hStep).1
  have hDrawn : label.drawnKey = some label.draw.key := by
    unfold Label.drawnKey
    rw [hAction]
  have hMine :
      ∀ key,
        (next.calls label.call).claimedKey = some key →
          key.id = label.draw.key := by
    intro key hKey
    rcases step_claims hStep hKey with
      hHeld | ⟨keyRow, hClaim, rfl⟩
    · rw [captureBegin_idle hAction hStep] at hHeld
      cases hHeld
    · rw [hAction] at hClaim
      rw [(hFiled.claim_new hClaim).2]
      rfl
  constructor
  · intro key hKey
    rw [hMine key hKey, hDb]
    exact hAdmits.1
  · intro key hKey other key' hOther hKey'
    rw [hMine key hKey]
    rw [hEffect.frame.calls other hOther] at hKey'
    exact hNew label.draw.key hDrawn other key' hKey'

/- A capture is opened by beginning it. -/
theorem Effect.opens
    (hEffect :
      Effect config system call draw action next)
    (hCapture :
      (next.calls call).openCapture =
        some (keyRow, paymentId)) :
    next.db = system.db ∧
      ∃ request,
        action = .captureBegin request ∧
          Claims system call request.merchantId
            request.idempotencyKey
            (captureFingerprint config request) draw
            keyRow := by
  cases hEffect with
  | quiet hQuiet hTurn =>
      generalize next.calls call = position at hTurn hCapture
      cases hTurn with
      | begun _ =>
          rename_i check _
          cases check <;> cases hCapture
      | continued _ _ =>
          rename_i check _ _
          cases check <;> cases hCapture
      | _ => cases hCapture
  | @captureOpen request keyRow' intent transaction hClaims
      _ _ _ _ =>
      simp only [System.become, Function.update_self,
        Call.openCapture, Option.some.injEq,
        Prod.mk.injEq] at hCapture
      refine ⟨rfl, request, rfl, ?_⟩
      rw [← hCapture.1]
      exact hClaims
  | _ =>
      simp [System.become, System.commit, System.observe,
        System.recordOrigin, Call.openCapture] at hCapture

theorem CapturesFiled.completed_next
    (hCollisionFree : Function.Injective config.sha256)
    (hFiled : CapturesFiled config system)
    (hEffect :
      Effect config system call draw action next)
    (hRow : row ∈ next.db.keys)
    (hOfCapture : OfCapture config row) :
    row.status = .completed := by
  cases hEffect.rowFate hRow with
  | kept hOld => exact hFiled.completed row hOld hOfCapture
  | rewritten key old hKey hOld hOldId _ hFingerprint =>
      unfold OfCapture at hOfCapture
      rw [hFingerprint] at hOfCapture
      exact absurd hOldId
        (hFiled.apart call key hKey old hOld hOfCapture)
  | claimed hClaim hAction =>
      rcases claim_ofCapture hCollisionFree hClaim
        hOfCapture with ⟨request, hCaptures⟩
      exact absurd hCaptures (hAction request)
  | settled _ _ _ _ _ hStatus _ => exact hStatus
  | captured _ _ _ _ hStatus _ => exact hStatus

/- A row just claimed is not one a capture has filed. -/
theorem CapturesFiled.claimed_apart
    (hFiled : CapturesFiled config system)
    (hAdmits : system.db.Admits draw)
    (hClaim :
      action.claim config system.db draw =
        some (.claimed keyRow))
    (hRow : row ∈ system.db.keys)
    (hOfCapture : OfCapture config row) :
    row.id ≠ keyRow.id := by
  intro hId
  rcases claim_stored hAdmits hClaim with
    hAbsent | ⟨existing, hExisting, hOpen, hSame, _⟩
  · rw [← hId] at hAbsent
    exact hAbsent (List.mem_map_of_mem hRow)
  · have hIs : existing = row :=
      List.inj_on_of_nodup_map hFiled.ids hExisting hRow
        (hSame.trans hId.symm)
    rw [hIs] at hOpen
    exact hOpen (hFiled.completed row hRow hOfCapture)

theorem CapturesFiled.apart_next
    {key : ClaimedKey}
    (hCollisionFree : Function.Injective config.sha256)
    (hFiled : CapturesFiled config system)
    (hNew : DrawsNewKey system label)
    (hStep : step config system label = some next)
    (hKey : (next.calls call).claimedKey = some key)
    (hRow : row ∈ next.db.keys)
    (hOfCapture : OfCapture config row) :
    row.id ≠ key.id := by
  have hAdmits := (step_effect hStep).1
  have hEffect := (step_effect hStep).2
  -- a call keeps its key, or claims one in this step
  have hSource :
      (system.calls call).claimedKey = some key ∨
        (call = label.call ∧
          ∃ keyRow,
            label.action.claim config system.db label.draw =
                some (.claimed keyRow) ∧
              keyRow.claimedKey = key) := by
    by_cases hActs : call = label.call
    · subst hActs
      rcases step_claims hStep hKey with hHeld | hClaims
      · exact .inl hHeld
      · exact .inr ⟨rfl, hClaims⟩
    · rw [hEffect.frame.calls call hActs] at hKey
      exact .inl hKey
  cases hEffect.rowFate hRow with
  | kept hOld =>
      rcases hSource with
        hHeld | ⟨_, keyRow, hClaim, rfl⟩
      · exact hFiled.apart call key hHeld row hOld hOfCapture
      · exact hFiled.claimed_apart hAdmits hClaim hOld
          hOfCapture
  | rewritten key' old hKey' hOld hOldId _ hFingerprint =>
      unfold OfCapture at hOfCapture
      rw [hFingerprint] at hOfCapture
      exact absurd hOldId
        (hFiled.apart _ key' hKey' old hOld hOfCapture)
  | claimed hClaim hAction =>
      rcases claim_ofCapture hCollisionFree hClaim
        hOfCapture with ⟨request, hCaptures⟩
      exact absurd hCaptures (hAction request)
  | settled request keyRow hAction hClaim hId _ hEnded =>
      rcases hSource with hHeld | ⟨rfl, _⟩
      · have hDrawn :
            label.drawnKey = some label.draw.key := by
          unfold Label.drawnKey
          rw [hAction]
        rw [hAction] at hClaim
        rw [hId, (hFiled.claim_new hClaim).2]
        exact (hNew label.draw.key hDrawn call key
          hHeld).symm
      · rw [hEnded] at hKey
        cases hKey
  | captured keyRow paymentId hCapture hId _ hEnded =>
      by_cases hActs : call = label.call
      · subst hActs
        rw [hEnded] at hKey
        cases hKey
      · rw [hEffect.frame.calls call hActs] at hKey
        have hClaimed := Call.claimedKey_of_openCapture hCapture
        have hUnfiled := (hFiled.unfiled _ _ _ hCapture).2
        rw [hId]
        exact (hUnfiled.alone _ hClaimed.1 call key hActs
          hKey).symm

theorem capturesFiled_step
    (hCollisionFree : Function.Injective config.sha256)
    (hFiled : CapturesFiled config system)
    (hNew : DrawsNewKey system label)
    (hStep : step config system label = some next) :
    CapturesFiled config next := by
  rcases step_effect hStep with ⟨hAdmits, hEffect⟩
  refine
    { ids :=
        (hEffect.namesStep hFiled.ids hAdmits).ids hFiled.ids
      completed := fun row hRow hOfCapture =>
        hFiled.completed_next hCollisionFree hEffect hRow
          hOfCapture
      apart := fun call key hKey row hRow hOfCapture =>
        hFiled.apart_next hCollisionFree hNew hStep hKey hRow
          hOfCapture
      unfiled := ?_ }
  intro call keyRow paymentId hCapture
  by_cases hActs : call = label.call
  · subst hActs
    rcases hEffect.opens hCapture with
      ⟨hDb, request, hAction, hClaims⟩
    exact
      ⟨⟨request, claimed_fingerprint hClaims.claim⟩,
        hFiled.begin_step hNew hAction hStep hDb⟩
  · rw [hEffect.frame.calls call hActs] at hCapture
    rcases hFiled.unfiled call keyRow paymentId hCapture
      with ⟨hOfCapture, hUnfiled⟩
    exact ⟨hOfCapture,
      hUnfiled.other_step hActs hNew hStep⟩

end PayGuard

------------------------------------------------------------
-- The Failing Call
------------------------------------------------------------

namespace PayGuard

/- A capture has begun and returned no response. -/
def Call.capturing : Call → Bool
| .captureOpen _ _ _ _ => true
| .failing _ _ => true
| .failureSeen _ _ => true
| .done (.raised _) => true
| .dead => true
| _ => false

/- A capture whose key row is not on file. -/
structure Uncommitted
    (system : System)
    (call : CallId) : Prop where
  capturing : (system.calls call).capturing = true
  unfiled : Unfiled system call

variable {config : Config}
variable {system next : System}
variable {call : CallId}
variable {draw : Draw}
variable {action : Action}
variable {label : Label}

/- Marking a row that is not on file writes nothing. -/
theorem failIdempotencyKey_of_absent
    {db : Database}
    {keyRowId : Uuid}
    (hAbsent : keyRowId ∉ db.keys.map (·.id)) :
    failIdempotencyKey db keyRowId = db := by
  have hKeys :
      Table.updateWhere (fun row => row.id = keyRowId)
        IdempotencyKey.markedFailed db.keys = db.keys := by
    unfold Table.updateWhere
    rw [List.map_congr_left (g := id)]
    · exact List.map_id _
    · intro row hRow
      have hId : row.id ≠ keyRowId := by
        rintro rfl
        exact hAbsent (List.mem_map_of_mem hRow)
      simp [hId]
  unfold failIdempotencyKey
  rw [hKeys]

/- The actions of a capture that has begun. -/
theorem capturing_action
    (hCapturing : (system.calls call).capturing = true)
    (hStep :
      callStep config system call draw action = some next) :
    (∃ result, action = .captureFinish result) ∨
      (∃ failure, action = .raise failure) ∨
      action = .failRead ∨
      action = .failWrite ∨
      action = .die := by
  cases action with
  | captureFinish result => exact .inl ⟨result, rfl⟩
  | raise failure => exact .inr (.inl ⟨failure, rfl⟩)
  | failRead => exact .inr (.inr (.inl rfl))
  | failWrite => exact .inr (.inr (.inr (.inl rfl)))
  | die => exact .inr (.inr (.inr (.inr rfl)))
  | _ =>
      have hEnables := callStep_enables hStep
      cases hCall : system.calls call with
      | captureOpen =>
          rw [hCall] at hEnables
          cases hEnables
      | failing =>
          rw [hCall] at hEnables
          cases hEnables
      | failureSeen =>
          rw [hCall] at hEnables
          cases hEnables
      | done reply =>
          rw [hCall] at hEnables
          cases hEnables
      | dead =>
          rw [hCall] at hEnables
          cases hEnables
      | _ =>
          rw [hCall] at hCapturing
          cases hCapturing

/- What a capture that has begun can do to the database. -/
inductive CaptureMove
    (system : System)
    (call : CallId)
    (next : System) : Prop where
| responded
    (hResponded : (next.calls call).responded = true)
| quiet
    (hCapturing : (next.calls call).capturing = true)
    (hKey :
      (next.calls call).claimedKey = none ∨
        (next.calls call).claimedKey =
          (system.calls call).claimedKey)
    (hDb : next.db = system.db)
| failed
    (key : ClaimedKey)
    (failure : Failure)
    (hKey : (system.calls call).claimedKey = some key)
    (hCall : next.calls call = .done (.raised failure))
    (hDb : next.db = failIdempotencyKey system.db key.id)

theorem callStep_captureMove
    (hCapturing : (system.calls call).capturing = true)
    (hStep :
      callStep config system call draw action = some next) :
    CaptureMove system call next := by
  rcases capturing_action hCapturing hStep with
    ⟨result, rfl⟩ | ⟨failure, rfl⟩ | rfl | rfl | rfl
  · simp only [callStep, stepCaptureFinish] at hStep
    split at hStep
    · rename_i hCall
      split at hStep
      · split at hStep
        · cases hStep
          refine .quiet ?_ (.inr ?_) rfl
          · simp [System.become, Call.capturing]
          · simp [System.become, hCall, Call.claimedKey]
        · cases hStep
          refine .responded ?_
          simp [System.commit, Call.responded]
      · cases hStep
    · cases hStep
  · cases hCall : system.calls call with
    | captureOpen request keyRow intent transaction =>
        simp only [callStep, stepRaise, hCall,
          Option.some.injEq] at hStep
        subst hStep
        refine .quiet ?_ (.inr ?_) rfl
        · simp [System.become, Call.capturing]
        · simp [System.become, hCall, Call.claimedKey]
    | _ =>
        simp_all [callStep, stepRaise, Call.capturing]
  · simp only [callStep, stepFailRead] at hStep
    split at hStep
    · rename_i hCall
      split at hStep
      · cases hStep
        refine .quiet ?_ (.inl ?_) rfl
        · simp [System.become, Call.capturing]
        · simp [System.become, Call.claimedKey]
      · split at hStep
        · cases hStep
          refine .quiet ?_ (.inr ?_) rfl
          · simp [System.become, Call.capturing]
          · simp [System.become, hCall, Call.claimedKey]
        · cases hStep
          refine .quiet ?_ (.inl ?_) rfl
          · simp [System.become, Call.capturing]
          · simp [System.become, Call.claimedKey]
    · cases hStep
  · simp only [callStep, stepFailWrite] at hStep
    split at hStep
    · rename_i key failure hCall
      split at hStep
      · cases hStep
        refine .failed key failure ?_ ?_ rfl
        · rw [hCall]
          rfl
        · simp [System.commit]
      · cases hStep
    · cases hStep
  · simp only [callStep, stepDie] at hStep
    split at hStep
    · cases hStep
    · cases hStep
    · cases hStep
    · cases hStep
      refine .quiet ?_ (.inl ?_) rfl
      · simp [System.become, Call.capturing]
      · simp [System.become, Call.claimedKey]

/- A capture that has not committed keeps the database. -/
theorem Uncommitted.own_step
    (hUncommitted : Uncommitted system label.call)
    (hStep : step config system label = some next)
    (hOpen : (next.calls label.call).responded = false) :
    next.db = system.db ∧ Uncommitted next label.call := by
  have hFrame := (step_effect hStep).2.frame
  have hUnfiled := hUncommitted.unfiled
  have hMove :
      CaptureMove system label.call next := by
    unfold step at hStep
    split at hStep
    · exact callStep_captureMove hUncommitted.capturing hStep
    · cases hStep
  cases hMove with
  | responded hResponded =>
      rw [hOpen] at hResponded
      cases hResponded
  | quiet hCapturing hKey hDb =>
      have hHeld :
          ∀ key,
            (next.calls label.call).claimedKey = some key →
              (system.calls label.call).claimedKey =
                some key := by
        intro key hNext
        rcases hKey with hNone | hSame
        · rw [hNone] at hNext
          cases hNext
        · rw [← hSame]
          exact hNext
      refine ⟨hDb, hCapturing, ?_, ?_⟩
      · intro key hNext
        rw [hDb]
        exact hUnfiled.absent key (hHeld key hNext)
      · intro key hNext other key' hOther hOtherKey
        rw [hFrame.calls other hOther] at hOtherKey
        exact hUnfiled.alone key (hHeld key hNext) other key'
          hOther hOtherKey
  | failed key failure hKey hCall hDb =>
      have hSame : next.db = system.db := by
        rw [hDb]
        exact failIdempotencyKey_of_absent
          (hUnfiled.absent key hKey)
      refine ⟨hSame, ?_, ?_, ?_⟩
      · rw [hCall]
        rfl
      · intro key' hNext
        rw [hCall] at hNext
        cases hNext
      · intro key' hNext
        rw [hCall] at hNext
        cases hNext

/- So does the step that begins it. -/
theorem CapturesFiled.begins
    {request : CaptureRequest}
    (hFiled : CapturesFiled config system)
    (hNew : DrawsNewKey system label)
    (hAction : label.action = .captureBegin request)
    (hStep : step config system label = some next)
    (hOpen : (next.calls label.call).responded = false) :
    next.db = system.db ∧ Uncommitted next label.call := by
  have hEffect := (step_effect hStep).2
  have hQuiet :
      next.db = system.db ∧
        (next.calls label.call).capturing = true := by
    rw [hAction] at hEffect
    cases hEffect with
    | quiet hQuiet hTurn =>
        refine ⟨hQuiet.db, ?_⟩
        generalize next.calls label.call = position
          at hTurn hOpen
        cases hTurn with
        | raised => rfl
        | refused _ _ => rfl
        | failed _ => rfl
        | replayed _ _ => cases hOpen
    | captureSettled _ _ _ =>
        simp [System.commit, Call.responded] at hOpen
    | captureOpen _ _ _ _ _ =>
        refine ⟨rfl, ?_⟩
        simp [System.become, Call.capturing]
  exact ⟨hQuiet.1, hQuiet.2,
    hFiled.begin_step hNew hAction hStep hQuiet.1⟩

/- A call that has responded takes no further step. -/
theorem responded_step
    (hStep : step config system label = some next)
    (hResponded :
      (system.calls call).responded = true) :
    (next.calls call).responded = true := by
  have hFrame := (step_effect hStep).2.frame
  by_cases hActs : call = label.call
  · subst hActs
    exfalso
    unfold step at hStep
    split at hStep
    · have hEnables := callStep_enables hStep
      cases hCall : system.calls label.call with
      | done reply =>
          rw [hCall, Call.done_enables] at hEnables
          cases hEnables
      | _ =>
          rw [hCall] at hResponded
          cases hResponded
    · cases hStep
  · rw [hFrame.calls call hActs]
    exact hResponded

end PayGuard

------------------------------------------------------------
-- Every Run
------------------------------------------------------------

namespace PayGuard

/- A step of the call leaves the database as it is. -/
def KeepsDatabase
    (config : Config)
    (call : CallId)
    (system : System)
    (label : Label) : Prop :=
  label.call = call →
    ∀ next,
      step config system label = some next →
        next.db = system.db

/- Whatever comes under the key is a fresh request. -/
def Database.FreshKey
    (db : Database)
    (merchantId : Uuid)
    (idempotencyKey : String) : Prop :=
  ∀ fingerprint draw,
    claimIdempotencyKey db merchantId idempotencyKey
        fingerprint draw =
      some (.claimed
        (newKey merchantId idempotencyKey fingerprint draw))

variable {config : Config}
variable {system next final : System}
variable {call : CallId}
variable {label : Label}
variable {labels : List Label}

/- A capture goes on uncommitted until it responds. -/
theorem Uncommitted.next_step
    (hCollisionFree : Function.Injective config.sha256)
    (hUncommitted : Uncommitted system call)
    (hFiled : CapturesFiled config system)
    (hNew : DrawsNewKey system label)
    (hStep : step config system label = some next)
    (hOpen : (next.calls call).responded = false) :
    Uncommitted next call ∧ CapturesFiled config next ∧
      (label.call = call → next.db = system.db) := by
  have hFiledNext :=
    capturesFiled_step hCollisionFree hFiled hNew hStep
  by_cases hActs : call = label.call
  · subst hActs
    rcases hUncommitted.own_step hStep hOpen with
      ⟨hDb, hNext⟩
    exact ⟨hNext, hFiledNext, fun _ => hDb⟩
  · have hSame :=
      (step_effect hStep).2.frame.calls call hActs
    refine ⟨⟨?_, ?_⟩, hFiledNext, ?_⟩
    · rw [hSame]
      exact hUncommitted.capturing
    · exact hUncommitted.unfiled.other_step hActs hNew hStep
    · intro hIs
      exact absurd hIs.symm hActs

/- The rest of a capture that ends without a response. -/
theorem Uncommitted.keepsDatabase
    (hCollisionFree : Function.Injective config.sha256)
    (hUncommitted : Uncommitted system call)
    (hFiled : CapturesFiled config system)
    (hNew :
      Lts.Meets (step config) DrawsNewKey system labels)
    (hOpen :
      Lts.Meets (step config)
        (fun before label =>
          ∀ after,
            step config before label = some after →
              ¬ (after.calls call).responded = true)
        system labels) :
    Lts.Meets (step config) (KeepsDatabase config call)
      system labels := by
  have hSteps :
      ∀ before label after,
        (Uncommitted before call ∧
            CapturesFiled config before) →
          (DrawsNewKey before label ∧
            ∀ after,
              step config before label = some after →
                ¬ (after.calls call).responded = true) →
            step config before label = some after →
              Uncommitted after call ∧
                CapturesFiled config after ∧
                (label.call = call →
                  after.db = before.db) :=
    fun before label after hBoth hMet hStep =>
      hBoth.1.next_step hCollisionFree hBoth.2 hMet.1 hStep
        (Bool.eq_false_iff.mpr (hMet.2 after hStep))
  have hKeep :
      ∀ before label after,
        (Uncommitted before call ∧
            CapturesFiled config before) →
          (DrawsNewKey before label ∧
            ∀ after,
              step config before label = some after →
                ¬ (after.calls call).responded = true) →
            step config before label = some after →
              (Uncommitted after call ∧
                CapturesFiled config after) := by
    intro before label after hBoth hMet hStep
    rcases hSteps before label after hBoth hMet hStep with
      ⟨hNext, hFiledNext, _⟩
    exact ⟨hNext, hFiledNext⟩
  refine (hNew.and hOpen).imp hKeep ?_
    ⟨hUncommitted, hFiled⟩
  intro before label hBoth hMet hActs after hStep
  exact (hSteps before label after hBoth hMet hStep).2.2
    hActs

/- A run of one call that keeps the database throughout. -/
theorem db_eq_of_keepsDatabase
    (hAlone : ∀ label ∈ labels, label.call = call)
    (hKeeps :
      Lts.Meets (step config)
        (KeepsDatabase config call) system labels)
    (hRun :
      Lts.exec (step config) system labels =
        some final) :
    final.db = system.db := by
  have hOwn :
      Lts.Meets (step config)
        (fun _ label => label.call = call) system labels :=
    Lts.meets_of_forall (fun label hLabel _ =>
      hAlone label hLabel)
  have hKeep :
      ∀ before label after,
        before.db = system.db →
          (KeepsDatabase config call before label ∧
            label.call = call) →
            step config before label = some after →
              after.db = system.db := by
    intro before label after hSame hMet hStep
    rw [hMet.1 hMet.2 after hStep]
    exact hSame
  exact Lts.invariant_of_meets hKeep rfl (hKeeps.and hOwn)
    hRun

/-
  A capture that raises changes nothing: none of its steps
  changes the database, whatever the other calls do between
  them.  Left alone it ends with the database it began with,
  and if its claim went through its key is fresh again.
-/
theorem failing_capture_changes_nothing
    (config : Config)
    (hCollisionFree : Function.Injective config.sha256)
    (before after : List Label)
    (opening : Label)
    (request : CaptureRequest)
    (hCapture : opening.action = .captureBegin request)
    (system : System)
    (failure : Failure)
    (hRun :
      Lts.exec (step config) {}
        (before ++ opening :: after) = some system)
    (hDraws :
      ((before ++ opening :: after).filterMap
        Label.drawnKey).Nodup)
    (hRaised :
      system.calls opening.call = .done (.raised failure)) :
    ∃ start,
      Lts.exec (step config) {} before = some start ∧
        Lts.Meets (step config)
          (KeepsDatabase config opening.call) start
          (opening :: after) ∧
        ((∀ label ∈ after, label.call = opening.call) →
          system.db = start.db ∧
            ∀ keyRow,
              opening.action.claim config start.db
                    opening.draw =
                  some (.claimed keyRow) →
                system.db.FreshKey request.merchantId
                  request.idempotencyKey) := by
  rcases Lts.exec_append_eq_some.mp hRun with
    ⟨start, hBefore, hRest⟩
  rcases Lts.exec_cons_eq_some.mp hRest with
    ⟨opened, hStep, hAfter⟩
  have hNew :
      Lts.Meets (step config) DrawsNewKey {}
        (before ++ opening :: after) := by
    refine meets_drawsNewKey ?_ hDraws
    rintro keyRowId _ (hStored | ⟨_, _, hKey, _⟩)
    · cases hStored
    · cases hKey
  rw [Lts.meets_append hBefore,
    Lts.meets_cons_of_step hStep] at hNew
  rcases hNew with ⟨hNewBefore, hNewHere, hNewAfter⟩
  have hFiled : CapturesFiled config start :=
    Lts.invariant_of_meets
      (fun _ _ _ hFiled hNew hStep =>
        capturesFiled_step hCollisionFree hFiled hNew hStep)
      (capturesFiled_initial config) hNewBefore hBefore
  -- no step of the rest has responded
  have hOpen :
      Lts.Meets (step config)
        (fun before label =>
          ∀ after,
            step config before label = some after →
              ¬ (after.calls opening.call).responded = true)
        start (opening :: after) := by
    refine Lts.meets_of_final ?_ hRest ?_
    · intro before label after hResponded hStep
      exact responded_step hStep hResponded
    · rw [hRaised]
      exact Bool.false_ne_true
  rw [Lts.meets_cons_of_step hStep] at hOpen
  rcases hFiled.begins hNewHere hCapture hStep
      (Bool.eq_false_iff.mpr (hOpen.1 opened hStep)) with
    ⟨hDb, hUncommitted⟩
  have hFiledNext :=
    capturesFiled_step hCollisionFree hFiled hNewHere hStep
  have hKeeps :=
    hUncommitted.keepsDatabase hCollisionFree hFiledNext
      hNewAfter hOpen.2
  refine ⟨start, hBefore, ?_, ?_⟩
  · rw [Lts.meets_cons_of_step hStep]
    refine ⟨?_, hKeeps⟩
    intro _ next hNext
    rw [hStep] at hNext
    cases hNext
    exact hDb
  · intro hAlone
    have hSame : system.db = start.db := by
      rw [db_eq_of_keepsDatabase hAlone hKeeps hAfter, hDb]
    refine ⟨hSame, ?_⟩
    intro keyRow hClaim fingerprint draw
    rw [hCapture] at hClaim
    unfold claimIdempotencyKey
    rw [hSame, (hFiled.claim_new hClaim).1]

def failingCapture : CaptureRequest where
  merchantId := 1
  paymentId := 1
  idempotencyKey := "capture"

/- The provider raises, and the handler finds no key row. -/
def failingCaptureRun : List Label :=
  [⟨1, .raise .external, .numbered 7⟩,
    ⟨1, .failRead, .numbered 8⟩]

theorem failing_capture_changes_nothing_external :
    ∃ start system,
      Lts.exec (step { sha256 := spellOut }) {}
          authorizedRun = some start ∧
        Lts.exec (step { sha256 := spellOut }) {}
            (authorizedRun ++
              ⟨1, .captureBegin failingCapture,
                .numbered 6⟩ :: failingCaptureRun) =
          some system ∧
        system.calls 1 = .done (.raised .external) ∧
        system.db = start.db ∧
        system.db.FreshKey 1 "capture" := by
  let config : Config := { sha256 := spellOut }
  let opening : Label :=
    ⟨1, .captureBegin failingCapture, .numbered 6⟩
  have hRun :
      (Lts.exec (step config) {}
        (authorizedRun ++
          opening :: failingCaptureRun)).map
            (fun system => system.calls 1) =
        some (.done (.raised .external)) := by
    decide +kernel
  have hClaim :
      (Lts.exec (step config) {} authorizedRun).map
        (fun start =>
          opening.action.claim config start.db
            opening.draw) =
        some (some (.claimed
          (newKey 1 "capture"
            (captureFingerprint config failingCapture)
            opening.draw))) := by
    decide +kernel
  rcases Option.map_eq_some_iff.mp hRun with
    ⟨system, hSystem, hRaised⟩
  rcases failing_capture_changes_nothing config
      spellOut_injective authorizedRun failingCaptureRun
      opening failingCapture rfl system .external hSystem
      (by decide) hRaised with
    ⟨start, hStart, _, hLeft⟩
  rw [hStart] at hClaim
  rcases hLeft (by decide) with ⟨hSame, hFresh⟩
  exact ⟨start, system, hStart, hSystem, hRaised, hSame,
    hFresh _ (Option.some.inj hClaim)⟩

end PayGuard

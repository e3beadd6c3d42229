import PayGuard.System.Held

/-
  One idempotency key, one payment and one live refund.

  A claim and the row created under it are committed
  together, so a key row on file stands for the row it
  created.  A claim that inserts its key row therefore
  creates the first row of its key; a claim that takes an
  abandoned key over creates another one.

  Key definitions include:
    * `Database.keyNames`
    * `System.paymentsOf` and `System.liveRefundsOf`
    * `OneEffect`
    * `FirstClaim`

  Key theorems include:
    * `one_key_one_effect`
    * `reclaimed_key_two_effects`
-/

------------------------------------------------------------
-- Names Of Key Rows
------------------------------------------------------------

namespace PayGuard

/- What no update of a key row changes. -/
def IdempotencyKey.name
    (row : IdempotencyKey) : Uuid × Uuid × String :=
  (row.id, row.merchantId, row.idempotencyKey)

def Database.keyNames
    (db : Database) : List (Uuid × Uuid × String) :=
  db.keys.map IdempotencyKey.name

/- The names after a step: the same, or one new row's. -/
def NamesStep (db db' : Database) : Prop :=
  db'.keyNames = db.keyNames ∨
    ∃ name,
      name.1 ∉ db.keyNames.map (·.1) ∧
        db'.keyNames = db.keyNames ++ [name]

variable {db db' : Database}
variable {keyRow : IdempotencyKey}
variable {keyRowId : Uuid}
variable {draw : Draw}

theorem keyNames_map_fst
    (db : Database) :
    db.keyNames.map (·.1) = db.keys.map (·.id) := by
  unfold Database.keyNames
  rw [List.map_map]
  rfl

@[simp] theorem completeIdempotencyKey_keyNames
    (db : Database)
    (paymentIntentId : Option Uuid)
    (responseStatus : Nat)
    (responseBody : ResponseBody)
    (refundId : Option Uuid) :
    (completeIdempotencyKey db keyRowId paymentIntentId
        responseStatus responseBody refundId).keyNames =
      db.keyNames := by
  unfold Database.keyNames completeIdempotencyKey
  apply Table.map_updateWhere
  intro row
  rfl

@[simp] theorem failIdempotencyKey_keyNames
    (db : Database)
    (keyRowId : Uuid) :
    (failIdempotencyKey db keyRowId).keyNames =
      db.keyNames := by
  unfold Database.keyNames failIdempotencyKey
  apply Table.map_updateWhere
  intro row
  rfl

/- Committing a version of a row keeps or adds its name. -/
theorem putKey_namesStep
    (hSame :
      ∀ row ∈ db.keys,
        row.id = keyRow.id → row.name = keyRow.name) :
    NamesStep db (db.putKey keyRow) ∧
      keyRow.name ∈ (db.putKey keyRow).keyNames := by
  unfold Database.putKey
  split
  · rename_i hStored
    have hNames :
        ({ db with
            keys :=
              Table.updateWhere
                (fun row => row.id = keyRow.id)
                (fun _ => keyRow) db.keys } :
          Database).keyNames = db.keyNames := by
      unfold Database.keyNames Table.updateWhere
      rw [List.map_map]
      apply List.map_congr_left
      intro row hRow
      by_cases hId : row.id = keyRow.id
      · simp [hId, hSame row hRow hId]
      · simp [hId]
    refine ⟨.inl hNames, ?_⟩
    rw [hNames]
    rcases List.mem_map.mp hStored with ⟨row, hRow, hId⟩
    rw [← hSame row hRow hId]
    exact List.mem_map_of_mem hRow
  · rename_i hNew
    refine ⟨.inr ⟨keyRow.name, ?_, ?_⟩, ?_⟩
    · rw [keyNames_map_fst]
      exact hNew
    · simp [Database.keyNames]
    · simp [Database.keyNames]

/- A claim inserts a new row or takes a stored one over. -/
theorem claimIdempotencyKey_eq_claimed
    {merchantId : Uuid}
    {idempotencyKey fingerprint : String}
    {staleAfter : Int}
    (hClaim :
      claimIdempotencyKey db merchantId idempotencyKey
        fingerprint draw staleAfter =
          some (.claimed keyRow)) :
    (db.findKey merchantId idempotencyKey = none ∧
        keyRow =
          newKey merchantId idempotencyKey fingerprint
            draw) ∨
      ∃ existing expectedStatus expectedLockedAt,
        db.findKey merchantId idempotencyKey =
            some existing ∧
          evaluateExisting existing fingerprint draw.now
              staleAfter =
            .reclaim expectedStatus expectedLockedAt ∧
          keyRow = reclaimed existing draw.now := by
  unfold claimIdempotencyKey at hClaim
  split at hClaim
  · rename_i hFind
    cases hClaim
    exact .inl ⟨hFind, rfl⟩
  · rename_i existing hFind
    split at hClaim
    · cases hClaim
    · cases hClaim
    · cases hClaim
    · rename_i expectedStatus expectedLockedAt hEvaluation
      split at hClaim
      · cases hClaim
        exact .inr ⟨existing, expectedStatus,
          expectedLockedAt, hFind, hEvaluation, rfl⟩
      · cases hClaim

theorem findKey_eq_some
    {merchantId : Uuid}
    {idempotencyKey : String}
    (hFind :
      db.findKey merchantId idempotencyKey = some keyRow) :
    keyRow ∈ db.keys ∧
      keyRow.merchantId = merchantId ∧
      keyRow.idempotencyKey = idempotencyKey := by
  unfold Database.findKey at hFind
  refine ⟨List.mem_of_find?_eq_some hFind, ?_⟩
  simpa using List.find?_some hFind

/- A claimed row carries the names it was claimed under. -/
theorem claimed_name
    {merchantId : Uuid}
    {idempotencyKey fingerprint : String}
    {staleAfter : Int}
    (hClaim :
      claimIdempotencyKey db merchantId idempotencyKey
        fingerprint draw staleAfter =
          some (.claimed keyRow)) :
    keyRow.merchantId = merchantId ∧
      keyRow.idempotencyKey = idempotencyKey := by
  rcases claimIdempotencyKey_eq_claimed hClaim with
    ⟨_, rfl⟩ | ⟨existing, _, _, hFind, _, rfl⟩
  · exact ⟨rfl, rfl⟩
  · exact (findKey_eq_some hFind).2

/- No other row has the identifier of a claimed one. -/
theorem claimed_same_name
    {merchantId : Uuid}
    {idempotencyKey fingerprint : String}
    {staleAfter : Int}
    (hIds : (db.keys.map (·.id)).Nodup)
    (hAdmits : db.Admits draw)
    (hClaim :
      claimIdempotencyKey db merchantId idempotencyKey
        fingerprint draw staleAfter =
          some (.claimed keyRow)) :
    ∀ row ∈ db.keys,
      row.id = keyRow.id → row.name = keyRow.name := by
  intro row hRow hId
  rcases claimIdempotencyKey_eq_claimed hClaim with
    ⟨_, rfl⟩ | ⟨existing, _, _, hFind, _, rfl⟩
  · have hStored : draw.key ∈ db.keys.map (·.id) :=
      List.mem_map.mpr ⟨row, hRow, hId⟩
    exact absurd hStored hAdmits.1
  · have hSame : row = existing :=
      List.inj_on_of_nodup_map hIds hRow
        (findKey_eq_some hFind).1 hId
    rw [hSame]
    rfl

end PayGuard

------------------------------------------------------------
-- Key Rows Along A Step
------------------------------------------------------------

namespace PayGuard

variable {config : Config}
variable {system next : System}
variable {call : CallId}
variable {draw : Draw}
variable {action : Action}
variable {db db' : Database}
variable {locked : Option PaymentIntent}
variable {intent moved : PaymentIntent}
variable {keyRow : IdempotencyKey}
variable {keyRowId : Uuid}
variable {result : ProviderResult}
variable {response : Response}

theorem Moved.keyNames
    (hMoved : Moved db intent db') :
    db'.keyNames = db.keyNames := by
  cases hMoved <;> rfl

theorem createInsert_keyNames
    {indexable : PyString → Bool}
    {request : CreateRequest}
    (hBody :
      createInsert indexable db request keyRow draw =
        .ok (db', intent)) :
    db'.keyNames = (db.putKey keyRow).keyNames := by
  rcases createInsert_eq_ok hBody with ⟨_, _, rfl⟩
  rfl

theorem createProcess_keyNames
    (hBody :
      createProcess db locked draw = .ok (db', moved)) :
    db'.keyNames = db.keyNames := by
  rcases createProcess_eq_ok hBody with ⟨_, _, hApply⟩
  exact (Moved.of_applyTransition hApply).keyNames

theorem createBlock_keyNames
    (hBody :
      createBlock db locked keyRowId draw =
        .ok (db', response)) :
    db'.keyNames = db.keyNames := by
  rcases createBlock_eq_ok hBody with
    ⟨_, base, _, _, hApply, rfl, _⟩
  rw [completeIdempotencyKey_keyNames]
  exact (Moved.of_applyTransition hApply).keyNames

theorem createFinish_keyNames
    {providerName : String}
    (hBody :
      createFinish db locked keyRowId providerName result
        draw = .ok (db', response)) :
    db'.keyNames = db.keyNames := by
  rcases createFinish_eq_ok hBody with
    ⟨_, _, base, _, _, _, hApply, rfl, _⟩
  rw [completeIdempotencyKey_keyNames]
  exact (Moved.of_applyAuthorizeOutcome hApply).keyNames

theorem captureFinish_keyNames
    (hBody :
      captureFinish db intent keyRow result draw =
        .ok (db', response)) :
    db'.keyNames = (db.putKey keyRow).keyNames := by
  rcases captureFinish_eq_ok hBody with
    ⟨base, moved, hOutcome, rfl, _⟩
  rw [completeIdempotencyKey_keyNames]
  rcases applyCaptureOutcome_eq_ok hOutcome with
    ⟨_, settled, hApply, rfl⟩ | ⟨_, _, _, _, _, hApply⟩
  · exact (Moved.of_applyTransition hApply).keyNames
  · exact (Moved.of_applyTransition hApply).keyNames

theorem refundReserve_keyNames
    {request : RefundRequest}
    {reservation : Reservation}
    (hBody :
      refundReserve db locked request keyRow draw =
        .ok (db', reservation)) :
    db'.keyNames = (db.putKey keyRow).keyNames := by
  rcases refundReserve_eq_ok hBody with
    ⟨_, _, _, _, _, _, _, hEnter⟩
  exact (Moved.of_enterRefundPending hEnter).keyNames

theorem refundFinalize_keyNames
    {refund : Refund}
    (hBody :
      refundFinalize db locked refund keyRowId result draw =
        .ok (db', response)) :
    db'.keyNames = db.keyNames := by
  rcases refundFinalize_eq_ok hBody with
    ⟨_, dbLeft, _, _, _, hLeave, rfl, _⟩
  rw [completeIdempotencyKey_keyNames,
    (Moved.of_leaveRefundPending hLeave).keyNames]
  unfold settleRefund
  simp only
  split <;> rfl

theorem receiveWebhook_keyNames
    (db : Database)
    (delivery : WebhookDelivery)
    (draw : Draw) :
    (receiveWebhook db delivery draw).keyNames =
      db.keyNames := by
  unfold receiveWebhook
  split <;> rfl

theorem dispatchEffect_keyNames
    {webhookEventId : Uuid}
    {plan : WebhookPlan}
    (hBody :
      dispatchEffect config db webhookEventId plan draw =
        .ok db') :
    db'.keyNames = db.keyNames := by
  cases plan with
  | skip =>
      cases hBody
      rfl
  | ignore =>
      cases hBody
      rfl
  | outcome targetStatus intent =>
      rcases handlePaymentOutcome_eq_ok hBody with
        ⟨_, _, _, rfl | ⟨_, base, moved, hApply, rfl⟩⟩
      · rfl
      · rw [← (Moved.of_applyTransition hApply).keyNames]
        unfold settleByWebhook
        split <;> rfl

theorem reconcileApply_keyNames
    {providerName : String}
    {report : ReconciliationReport}
    (hBody :
      reconcileApply db locked providerName result draw =
        .ok (db', report)) :
    db'.keyNames = db.keyNames := by
  rcases reconcileApply_eq_ok hBody with
    ⟨_, _, ⟨rfl, _⟩ | ⟨_, _, _, _, hApply⟩ | ⟨_, hResolve⟩⟩
  · rfl
  · exact (Moved.of_applyTransition hApply).keyNames
  · rcases resolve_eq_ok hResolve with
      ⟨_, _, hSucceeded⟩ | ⟨_, _, hFailed⟩
    · rcases resolveSucceeded_eq_ok hSucceeded with
        ⟨_, base, _, _, _, hApply, rfl⟩
      exact (Moved.of_applyTransition hApply).keyNames
    · rcases resolveFailed_eq_ok hFailed with
        ⟨_, base, _, _, hApply, rfl⟩
      exact (Moved.of_applyTransition hApply).keyNames

/- A transaction that commits a claimed row. -/
theorem Claims.namesStep
    {merchantId : Uuid}
    {idempotencyKey fingerprint : String}
    (hClaims :
      Claims system call merchantId idempotencyKey
        fingerprint draw keyRow)
    (hIds : (system.db.keys.map (·.id)).Nodup)
    (hAdmits : system.db.Admits draw)
    (hNames :
      db.keyNames = (system.db.putKey keyRow).keyNames) :
    NamesStep system.db db ∧
      keyRow.name ∈ db.keyNames := by
  have hStep :=
    putKey_namesStep
      (claimed_same_name hIds hAdmits hClaims.claim)
  unfold NamesStep at hStep ⊢
  rw [hNames]
  exact hStep

/- Every step keeps the names and may add one. -/
theorem Effect.namesStep
    (hIds : (system.db.keys.map (·.id)).Nodup)
    (hAdmits : system.db.Admits draw)
    (hEffect :
      Effect config system call draw action next) :
    NamesStep system.db next.db := by
  cases hEffect with
  | quiet hQuiet => exact .inl (by rw [hQuiet.db])
  | createInsert hClaims hBody =>
      exact (hClaims.namesStep hIds hAdmits
        (createInsert_keyNames hBody)).1
  | createProcess _ _ hBody =>
      exact .inl (createProcess_keyNames hBody)
  | createAssess _ => exact .inl rfl
  | createBlock _ _ _ hBody =>
      exact .inl (createBlock_keyNames hBody)
  | createFinish _ _ _ hBody =>
      exact .inl (createFinish_keyNames hBody)
  | captureSettled hClaims _ _ =>
      exact (hClaims.namesStep hIds hAdmits
        (completeIdempotencyKey_keyNames _ _ _ _ _)).1
  | captureOpen _ _ _ _ => exact .inl rfl
  | captureFinish _ hSame hBody =>
      have hNames := captureFinish_keyNames hBody
      have hStep := (putKey_namesStep (by
        intro row hRow hId
        have hRest := hSame row hRow hId
        simp [IdempotencyKey.name, hId, hRest.1,
          hRest.2])).1
      unfold NamesStep at hStep ⊢
      rw [← hNames] at hStep
      exact hStep
  | refundReserve hClaims _ hBody =>
      exact (hClaims.namesStep hIds hAdmits
        (refundReserve_keyNames hBody)).1
  | refundAnswer _ _ => exact .inl rfl
  | refundFinish _ _ _ hBody =>
      exact .inl (refundFinalize_keyNames hBody)
  | receiveWebhook _ =>
      exact .inl (receiveWebhook_keyNames _ _ _)
  | dispatchFinish _ _ hBody =>
      have hNames := dispatchEffect_keyNames hBody
      exact .inl hNames
  | reconcileApply _ _ hBody =>
      exact .inl (reconcileApply_keyNames hBody)
  | reconcileReport _ => exact .inl rfl
  | failWrite _ _ =>
      exact .inl (failIdempotencyKey_keyNames _ _)

end PayGuard

------------------------------------------------------------
-- Rows Created Under A Key
------------------------------------------------------------

namespace PayGuard

def CreatedRow.asPayment : CreatedRow → Option Uuid
| .payment id => some id
| .refund _ => none

def CreatedRow.asRefund : CreatedRow → Option Uuid
| .refund id => some id
| .payment _ => none

namespace System

/- The rows ever committed on behalf of a key. -/
def createdUnder
    (system : System)
    (merchantId : Uuid)
    (idempotencyKey : String) : List CreatedRow :=
  (system.origins.filter (fun origin =>
    origin.merchantId = merchantId &&
      origin.idempotencyKey = idempotencyKey)).map (·.row)

/- The payments ever created on behalf of a key. -/
def paymentsOf
    (system : System)
    (merchantId : Uuid)
    (idempotencyKey : String) : List Uuid :=
  (system.createdUnder merchantId idempotencyKey).filterMap
    CreatedRow.asPayment

/- Its refunds that are pending or have succeeded. -/
def liveRefundsOf
    (system : System)
    (merchantId : Uuid)
    (idempotencyKey : String) : List Uuid :=
  ((system.createdUnder merchantId idempotencyKey).filterMap
    CreatedRow.asRefund).filter (fun refundId =>
      system.db.refunds.any (fun refund =>
        refund.id = refundId && refund.status.isReserved))

end System

def OneEffect
    (system : System)
    (merchantId : Uuid)
    (idempotencyKey : String) : Prop :=
  (system.paymentsOf merchantId idempotencyKey).length ≤ 1 ∧
    (system.liveRefundsOf merchantId
      idempotencyKey).length ≤ 1

/- The stored row of a key is there to be taken over. -/
def Abandoned
    (db : Database)
    (merchantId : Uuid)
    (idempotencyKey fingerprint : String)
    (now : Timestamp) : Bool :=
  match db.findKey merchantId idempotencyKey with
  | none => false
  | some existing =>
      match evaluateExisting existing fingerprint now
          defaultStaleAfter with
      | .reclaim _ _ => true
      | _ => false

/-
  No creation or refund under this key begins while the key
  row is `FAILED`, or `PENDING` for the stale period.
-/
def FirstClaim
    (config : Config)
    (merchantId : Uuid)
    (idempotencyKey : String)
    (system : System)
    (label : Label) : Prop :=
  match label.action with
  | .createBegin request =>
      request.merchantId = merchantId →
        request.idempotencyKey = idempotencyKey →
          Abandoned system.db merchantId idempotencyKey
            (createFingerprint config request)
            label.draw.now = false
  | .refundBegin request =>
      request.merchantId = merchantId →
        request.idempotencyKey = idempotencyKey →
          Abandoned system.db merchantId idempotencyKey
            (refundFingerprint config request)
            label.draw.now = false
  | _ => True

instance
    (config : Config)
    (merchantId : Uuid)
    (idempotencyKey : String)
    (system : System)
    (label : Label) :
    Decidable (FirstClaim config merchantId idempotencyKey
      system label) := by
  unfold FirstClaim
  split <;> infer_instance

/-
  Key rows have distinct identifiers, and a key under which
  a row was created is on file.
-/
structure KeyOwned
    (merchantId : Uuid)
    (idempotencyKey : String)
    (system : System) : Prop where
  ids : (system.db.keys.map (·.id)).Nodup
  atMostOne :
    (system.createdUnder merchantId
      idempotencyKey).length ≤ 1
  onFile :
    system.createdUnder merchantId idempotencyKey ≠ [] →
      ∃ name ∈ system.db.keyNames,
        name.2 = (merchantId, idempotencyKey)

end PayGuard

------------------------------------------------------------
-- One Step
------------------------------------------------------------

namespace PayGuard

variable {config : Config}
variable {system next : System}
variable {call : CallId}
variable {draw : Draw}
variable {action : Action}
variable {db db' : Database}
variable {keyRow : IdempotencyKey}
variable {merchantId : Uuid}
variable {idempotencyKey : String}

theorem keyOwned_initial :
    KeyOwned merchantId idempotencyKey {} where
  ids := List.nodup_nil
  atMostOne := by simp [System.createdUnder]
  onFile := by simp [System.createdUnder]

/- Names are never lost. -/
theorem NamesStep.mem
    {name : Uuid × Uuid × String}
    (hStep : NamesStep db db')
    (hMem : name ∈ db.keyNames) : name ∈ db'.keyNames := by
  rcases hStep with hSame | ⟨_, _, hAdded⟩
  · rw [hSame]
    exact hMem
  · rw [hAdded]
    exact List.mem_append_left _ hMem

theorem NamesStep.ids
    (hStep : NamesStep db db')
    (hIds : (db.keys.map (·.id)).Nodup) :
    (db'.keys.map (·.id)).Nodup := by
  rw [← keyNames_map_fst] at hIds ⊢
  rcases hStep with hSame | ⟨name, hFresh, hAdded⟩
  · rw [hSame]
    exact hIds
  · rw [hAdded, List.map_append]
    exact List.Nodup.append hIds (List.nodup_singleton _)
      (by simpa using hFresh)

/- A step that creates no row under the key. -/
theorem KeyOwned.of_same
    (hOwned : KeyOwned merchantId idempotencyKey system)
    (hNames : NamesStep system.db next.db)
    (hCreated :
      next.createdUnder merchantId idempotencyKey =
        system.createdUnder merchantId idempotencyKey) :
    KeyOwned merchantId idempotencyKey next where
  ids := hNames.ids hOwned.ids
  atMostOne := by
    rw [hCreated]
    exact hOwned.atMostOne
  onFile := by
    intro hSome
    rw [hCreated] at hSome
    rcases hOwned.onFile hSome with ⟨name, hMem, hName⟩
    exact ⟨name, hNames.mem hMem, hName⟩

/- A claim of a key that is not abandoned inserts its row. -/
theorem Claims.findKey_eq_none
    {fingerprint : String}
    (hClaims :
      Claims system call merchantId idempotencyKey
        fingerprint draw keyRow)
    (hFirst :
      Abandoned system.db merchantId idempotencyKey
        fingerprint draw.now = false) :
    system.db.findKey merchantId idempotencyKey = none := by
  rcases claimIdempotencyKey_eq_claimed hClaims.claim with
    ⟨hNone, _⟩ | ⟨existing, _, _, hFind, hEvaluation, _⟩
  · exact hNone
  · simp [Abandoned, hFind, hEvaluation] at hFirst

/- A key that is not on file has created nothing. -/
theorem KeyOwned.createdUnder_eq_nil
    (hOwned : KeyOwned merchantId idempotencyKey system)
    (hNone :
      system.db.findKey merchantId idempotencyKey = none) :
    system.createdUnder merchantId idempotencyKey = [] := by
  by_contra hSome
  rcases hOwned.onFile hSome with ⟨name, hMem, hName⟩
  rcases List.mem_map.mp hMem with ⟨row, hRow, rfl⟩
  have hAbsent := List.find?_eq_none.mp hNone row hRow
  simp only [IdempotencyKey.name, Prod.mk.injEq] at hName
  simp [hName.1, hName.2] at hAbsent

theorem recordOrigin_createdUnder
    (system : System)
    (key : ClaimedKey)
    (row : CreatedRow)
    (merchantId : Uuid)
    (idempotencyKey : String) :
    (system.recordOrigin key row).createdUnder merchantId
        idempotencyKey =
      system.createdUnder merchantId idempotencyKey ++
        (if key.merchantId = merchantId ∧
            key.idempotencyKey = idempotencyKey then
          [row]
        else []) := by
  by_cases hKey :
      key.merchantId = merchantId ∧
        key.idempotencyKey = idempotencyKey
  · simp [System.createdUnder, System.recordOrigin, hKey]
  · simp [System.createdUnder, System.recordOrigin, hKey]

/- A committed claim creates the first row of its key. -/
theorem KeyOwned.of_claim
    {claimedMerchant : Uuid}
    {claimedText fingerprint : String}
    {position : Call}
    {row : CreatedRow}
    (hOwned : KeyOwned merchantId idempotencyKey system)
    (hAdmits : system.db.Admits draw)
    (hClaims :
      Claims system call claimedMerchant claimedText
        fingerprint draw keyRow)
    (hFirst :
      claimedMerchant = merchantId →
        claimedText = idempotencyKey →
          Abandoned system.db merchantId idempotencyKey
            fingerprint draw.now = false)
    (hNames :
      db.keyNames = (system.db.putKey keyRow).keyNames) :
    KeyOwned merchantId idempotencyKey
      ((system.commit call db position).recordOrigin
        keyRow.claimedKey row) := by
  have hStep :=
    hClaims.namesStep hOwned.ids hAdmits hNames
  have hName := claimed_name hClaims.claim
  have hCreated :=
    recordOrigin_createdUnder
      (system.commit call db position) keyRow.claimedKey row
      merchantId idempotencyKey
  by_cases hKey :
      keyRow.merchantId = merchantId ∧
        keyRow.idempotencyKey = idempotencyKey
  · have hMerchant := hName.1.symm.trans hKey.1
    have hText := hName.2.symm.trans hKey.2
    subst hMerchant
    subst hText
    have hEmpty :=
      hOwned.createdUnder_eq_nil
        (hClaims.findKey_eq_none (hFirst rfl rfl))
    have hOnly :
        ((system.commit call db position).recordOrigin
          keyRow.claimedKey row).createdUnder
            claimedMerchant claimedText = [row] := by
      rw [hCreated]
      simp only [IdempotencyKey.claimedKey, hKey, and_self,
        if_true]
      exact congrArg (· ++ [row]) hEmpty
    refine ⟨hStep.1.ids hOwned.ids, ?_, ?_⟩
    · rw [hOnly]
      exact le_refl 1
    · intro _
      refine ⟨keyRow.name, hStep.2, ?_⟩
      simp [IdempotencyKey.name, hKey]
  · refine hOwned.of_same hStep.1 ?_
    rw [hCreated]
    simp only [IdempotencyKey.claimedKey, hKey, if_false,
      List.append_nil]
    rfl

theorem keyOwned_effect
    (hOwned : KeyOwned merchantId idempotencyKey system)
    (hAdmits : system.db.Admits draw)
    (hFirst :
      FirstClaim config merchantId idempotencyKey system
        ⟨call, action, draw⟩)
    (hEffect :
      Effect config system call draw action next) :
    KeyOwned merchantId idempotencyKey next := by
  have hNames := hEffect.namesStep hOwned.ids hAdmits
  cases hEffect with
  | createInsert hClaims hBody =>
      exact hOwned.of_claim hAdmits hClaims hFirst
        (createInsert_keyNames hBody)
  | refundReserve hClaims _ hBody =>
      exact hOwned.of_claim hAdmits hClaims hFirst
        (refundReserve_keyNames hBody)
  | quiet hQuiet =>
      refine hOwned.of_same hNames ?_
      unfold System.createdUnder
      rw [hQuiet.origins]
  | _ => exact hOwned.of_same hNames rfl

/- One created row is one payment and one live refund. -/
theorem KeyOwned.oneEffect
    (hOwned : KeyOwned merchantId idempotencyKey system) :
    OneEffect system merchantId idempotencyKey := by
  constructor
  · exact (List.length_filterMap_le _ _).trans
      hOwned.atMostOne
  · calc (system.liveRefundsOf merchantId
          idempotencyKey).length
      _ ≤ ((system.createdUnder merchantId
            idempotencyKey).filterMap
              CreatedRow.asRefund).length :=
          List.length_filter_le _ _
      _ ≤ (system.createdUnder merchantId
            idempotencyKey).length :=
          List.length_filterMap_le _ _
      _ ≤ 1 := hOwned.atMostOne

end PayGuard

------------------------------------------------------------
-- Every Run
------------------------------------------------------------

namespace PayGuard

/-
  In every run in which no creation or refund takes the key
  over, the key creates one payment and one live refund at
  most, however the calls interleave.
-/
theorem one_key_one_effect
    (config : Config)
    (merchantId : Uuid)
    (idempotencyKey : String)
    (labels : List Label)
    (system : System)
    (hRun :
      Lts.exec (step config) {} labels = some system)
    (hFirst :
      Lts.Meets (step config)
        (FirstClaim config merchantId idempotencyKey)
        {} labels) :
    OneEffect system merchantId idempotencyKey := by
  have hKeep :
      ∀ before label after,
        KeyOwned merchantId idempotencyKey before →
          FirstClaim config merchantId idempotencyKey before
              label →
            step config before label = some after →
              KeyOwned merchantId idempotencyKey after := by
    intro before label after hOwned hClaim hStep
    rcases step_effect hStep with ⟨hAdmits, hEffect⟩
    exact keyOwned_effect hOwned hAdmits hClaim hEffect
  have hOwned :=
    Lts.invariant_of_meets hKeep keyOwned_initial hFirst
      hRun
  exact hOwned.oneEffect

theorem one_key_one_effect_captured :
    ∃ system,
      Lts.exec (step { sha256 := spellOut }) {}
          capturedRun = some system ∧
        system.paymentsOf 1 "create" = [1] ∧
        OneEffect system 1 "create" := by
  have hRun :
      (Lts.exec (step { sha256 := spellOut }) {}
        capturedRun).map (fun system =>
          system.paymentsOf 1 "create") = some [1] := by
    decide +kernel
  rcases Option.map_eq_some_iff.mp hRun with
    ⟨system, hExec, hPayments⟩
  exact ⟨system, hExec, hPayments,
    one_key_one_effect _ _ _ _ _ hExec (by decide +kernel)⟩

/-
  The first call is still busy thirty seconds later, when an
  identical request takes its key over.
-/
def slowCreateRun : List Label :=
  let request : CreateRequest :=
    { merchantId := 1
      idempotencyKey := "create"
      amountMinor := 100
      currency := "USD"
      paymentToken := "tok_visa" }
  [⟨0, .createBegin request, .numbered 1⟩,
    ⟨1, .createBegin request,
      .numbered 2 defaultStaleAfter⟩]

/-
  The provider call of a reserved refund raises, the key is
  marked `FAILED`, and an identical request takes it over.
-/
def failedRefundRun : List Label :=
  let request : RefundRequest :=
    { merchantId := 1
      paymentId := 1
      idempotencyKey := "refund"
      amountMinor := 40 }
  capturedRun ++
    [⟨2, .refundBegin request, .numbered 8⟩,
      ⟨2, .raise .external, .numbered 9⟩,
      ⟨2, .failRead, .numbered 10⟩,
      ⟨2, .failWrite, .numbered 11⟩,
      ⟨3, .refundBegin request, .numbered 12⟩]

theorem reclaimed_key_two_effects :
    (∃ system,
        Lts.exec (step { sha256 := spellOut }) {}
            slowCreateRun = some system ∧
          system.paymentsOf 1 "create" = [1, 2] ∧
          ¬ OneEffect system 1 "create") ∧
      ∃ system,
        Lts.exec (step { sha256 := spellOut }) {}
            failedRefundRun = some system ∧
          system.liveRefundsOf 1 "refund" = [8, 12] ∧
          ¬ OneEffect system 1 "refund" := by
  have hCreate :
      (Lts.exec (step { sha256 := spellOut }) {}
        slowCreateRun).map (fun system =>
          system.paymentsOf 1 "create") =
        some [1, 2] := by
    decide +kernel
  have hRefund :
      (Lts.exec (step { sha256 := spellOut }) {}
        failedRefundRun).map (fun system =>
          system.liveRefundsOf 1 "refund") =
        some [8, 12] := by
    decide +kernel
  rcases Option.map_eq_some_iff.mp hCreate with
    ⟨created, hCreateExec, hPayments⟩
  rcases Option.map_eq_some_iff.mp hRefund with
    ⟨refunded, hRefundExec, hRefunds⟩
  refine ⟨⟨created, hCreateExec, hPayments, ?_⟩,
    refunded, hRefundExec, hRefunds, ?_⟩
  · intro hOne
    simp [OneEffect, hPayments] at hOne
  · intro hOne
    simp [OneEffect, hRefunds] at hOne

end PayGuard

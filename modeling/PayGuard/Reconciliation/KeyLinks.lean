import PayGuard.System.KeyRows
import PayGuard.System.Questions

/-
  How a payment leads back to the key of its creation.

  The oldest key row that names a payment is the one its
  creation completed.  It is, as long as no other call works
  under the key row of a creation: a creation that outlives
  its claim loses the row to the call that takes it over,
  and whoever completes it last has it name his own payment.

  Key definitions include:
    * `System.authorizeKeys`
    * `ClaimsApart`
    * `CreationKept` and `Links`
    * `KeysLinked`

  Key theorems include:
    * `callStep_creation`
    * `Links.kept`
    * `keysLinked_step`
-/

------------------------------------------------------------
-- Asked Keys
------------------------------------------------------------

namespace PayGuard

open Lts

/- The key of a `provider.authorize` for this payment. -/
def ProviderCall.authorizeKey
    (paymentId : Uuid) : ProviderCall → Option String
| .authorize id request _ =>
    if id = paymentId then
      some request.idempotencyKey
    else
      none
| _ => none

/- The keys passed to `provider.authorize` for a payment. -/
def System.authorizeKeys
    (system : System)
    (paymentId : Uuid) : List String :=
  system.providerCalls.filterMap
    (ProviderCall.authorizeKey paymentId)

/- The payment a capture or a refund is asked for. -/
def Action.chargedPayment : Action → Option Uuid
| .captureBegin request => some request.paymentId
| .refundBegin request => some request.paymentId
| _ => none

/-
  What a claim must spare: it takes no key row from under a
  creation, a creation shares its row with nobody, and a row
  claimed for a payment is younger than one that names it.
-/
structure Apart
    (system : System)
    (action : Action)
    (keyRow : IdempotencyKey) : Prop where
  guarded :
    ∀ other id,
      (system.calls other).guardedKey = some id →
        id ≠ keyRow.id
  alone :
    ∀ request,
      action = .createBegin request →
        ∀ other key,
          (system.calls other).claimedKey = some key →
            key.id ≠ keyRow.id
  later :
    ∀ paymentId,
      action.chargedPayment = some paymentId →
        (∃ row ∈ system.db.keys,
          row.paymentIntentId = some paymentId) →
          ∃ row ∈ system.db.keys,
            row.paymentIntentId = some paymentId ∧
              row.createdAt < keyRow.createdAt

/- The key row a step claims is apart from the others. -/
def ClaimsApart
    (config : Config)
    (system : System)
    (label : Label) : Prop :=
  ∀ keyRow,
    label.action.claim config system.db label.draw =
        some (.claimed keyRow) →
      Apart system label.action keyRow

end PayGuard

------------------------------------------------------------
-- The Invariant
------------------------------------------------------------

namespace PayGuard

/- A creation in progress, its key row and its payment. -/
structure CreationKept
    (system : System)
    (call : CallId)
    (state : CreationState) : Prop where
  stored :
    ∃ row ∈ system.db.keys,
      row.id = state.key.id ∧
        row.idempotencyKey = state.requestKey
  unnamed :
    ∀ row ∈ system.db.keys,
      row.paymentIntentId ≠ some state.paymentId
  asked :
    system.authorizeKeys state.paymentId =
      if state.asked then [state.requestKey] else []
  alone :
    ∀ other key,
      other ≠ call →
        (system.calls other).claimedKey = some key →
          key.id ≠ state.key.id

/-
  The key row its creation completed leads back from a
  payment.  No call will write the row again, and whatever
  else names the payment, now or later, is younger.
-/
structure Links
    (system : System)
    (paymentId : Uuid)
    (link : IdempotencyKey) : Prop where
  stored : link ∈ system.db.keys
  completed : link.status = .completed
  named : link.paymentIntentId = some paymentId
  asked :
    system.authorizeKeys paymentId = [link.idempotencyKey]
  free :
    ∀ call key,
      (system.calls call).claimedKey = some key →
        key.id ≠ link.id
  first :
    ∀ row ∈ system.db.keys,
      row.paymentIntentId = some paymentId →
        row.id ≠ link.id → link.createdAt < row.createdAt
  captures :
    ∀ call keyRow,
      (system.calls call).openCapture =
          some (keyRow, paymentId) →
        link.createdAt < keyRow.createdAt
  refunds :
    ∀ call key,
      (system.calls call).refundKey =
          some (key, paymentId) →
        ∃ row ∈ system.db.keys,
          row.id = key.id ∧ link.createdAt < row.createdAt

structure KeysLinked (system : System) : Prop where
  ids : (system.db.keys.map (·.id)).Nodup
  onFile :
    ∀ row ∈ system.db.keys,
      ∀ paymentId,
        row.paymentIntentId = some paymentId →
          paymentId ∈ system.db.payments.map (·.id)
  unasked :
    ∀ paymentId,
      paymentId ∉ system.db.payments.map (·.id) →
        system.authorizeKeys paymentId = []
  creations :
    ∀ call state,
      (system.calls call).creationState = some state →
        CreationKept system call state
  captures :
    ∀ call keyRow paymentId,
      (system.calls call).openCapture =
          some (keyRow, paymentId) →
        ∀ row ∈ system.db.keys,
          row.id = keyRow.id →
            row.createdAt = keyRow.createdAt
  distinct :
    ∀ call other keyRow keyRow' paymentId paymentId',
      other ≠ call →
        (system.calls call).openCapture =
            some (keyRow, paymentId) →
          (system.calls other).openCapture =
              some (keyRow', paymentId') →
            keyRow.id ≠ keyRow'.id
  linked :
    ∀ paymentId,
      system.db.Tried paymentId →
        ∃ link, Links system paymentId link

theorem keysLinked_initial : KeysLinked {} where
  ids := List.nodup_nil
  onFile := by simp
  unasked := by simp [System.authorizeKeys]
  creations := by
    intro call state hState
    cases hState
  captures := by
    intro call keyRow paymentId hCapture
    cases hCapture
  distinct := by
    intro call other keyRow keyRow' paymentId paymentId' _
      hCapture
    cases hCapture
  linked := by
    rintro paymentId ⟨attempt, hAttempt, _⟩
    cases hAttempt

end PayGuard

------------------------------------------------------------
-- Rows Of Claims
------------------------------------------------------------

namespace PayGuard

variable {config : Config}
variable {system next : System}
variable {call : CallId}
variable {draw : Draw}
variable {action : Action}
variable {row keyRow : IdempotencyKey}

/- The row of a claim, beside the rows on file. -/
theorem KeysLinked.claimed_createdAt
    (hLinked : KeysLinked system)
    (hAdmits : system.db.Admits draw)
    (hClaim :
      action.claim config system.db draw =
        some (.claimed keyRow))
    (hRow : row ∈ system.db.keys)
    (hId : row.id = keyRow.id) :
    row.status ≠ .completed ∧
      row.createdAt = keyRow.createdAt := by
  rcases claim_stored hAdmits hClaim with
    hNew | ⟨existing, hExisting, hStatus, hSame, hCreated⟩
  · rw [← hId] at hNew
    exact absurd (List.mem_map_of_mem hRow) hNew
  · have hEq : row = existing :=
      List.inj_on_of_nodup_map hLinked.ids hRow hExisting
        (hId.trans hSame.symm)
    subst hEq
    exact ⟨hStatus, hCreated⟩

/- No write changes when a row was created. -/
theorem KeysLinked.createdAt_next
    (hLinked : KeysLinked system)
    (hAdmits : system.db.Admits draw)
    (hWrite : KeyWrite config system call draw action next)
    (hRow : row ∈ system.db.keys) :
    ∃ row' ∈ next.db.keys,
      row'.id = row.id ∧ row'.createdAt = row.createdAt := by
  cases hWrite with
  | same hKeys =>
      rw [hKeys]
      exact ⟨row, hRow, rfl, rfl⟩
  | claimed keyRow hClaim hKeys =>
      rw [hKeys]
      by_cases hId : row.id = keyRow.id
      · have hSame :=
          hLinked.claimed_createdAt hAdmits hClaim hRow hId
        exact ⟨keyRow, mem_putKey.mpr (.inl rfl), hId.symm,
          hSame.2.symm⟩
      · exact ⟨row, mem_putKey.mpr (.inr ⟨hRow, hId⟩), rfl,
          rfl⟩
  | created state _ _ _ hKeys =>
      rw [hKeys]
      exact completed_createdAt hRow
  | settled _ keyRow _ _ _ _ hClaim _ _ hKeys =>
      rw [hKeys]
      by_cases hId : row.id = keyRow.id
      · have hSame :=
          hLinked.claimed_createdAt hAdmits hClaim hRow hId
        exact ⟨_, mem_completeIdempotencyKey_putKey.mpr
          (.inl rfl), hId.symm, hSame.2.symm⟩
      · exact ⟨row, mem_completeIdempotencyKey_putKey.mpr
          (.inr ⟨hRow, hId⟩), rfl, rfl⟩
  | captured keyRow _ _ _ hCall hKeys =>
      rw [hKeys]
      by_cases hId : row.id = keyRow.id
      · have hSame :=
          hLinked.captures call _ _ hCall row hRow hId
        exact ⟨_, mem_completeIdempotencyKey_putKey.mpr
          (.inl rfl), hId.symm, hSame.symm⟩
      · exact ⟨row, mem_completeIdempotencyKey_putKey.mpr
          (.inr ⟨hRow, hId⟩), rfl, rfl⟩
  | refunded key _ _ _ _ _ hKeys =>
      rw [hKeys]
      exact completed_createdAt hRow
  | failed key _ hKeys =>
      rw [hKeys]
      by_cases hId : row.id = key.id
      · exact ⟨_, mem_failIdempotencyKey.mpr
          (.inr ⟨row, hRow, hId, rfl⟩), rfl, rfl⟩
      · exact ⟨row, mem_failIdempotencyKey.mpr
          (.inl ⟨hRow, hId⟩), rfl, rfl⟩

end PayGuard

------------------------------------------------------------
-- Creations Along A Step
------------------------------------------------------------

namespace PayGuard

/- How a call comes to be creating a payment under a key. -/
inductive CreationStep
    (config : Config)
    (system : System)
    (call : CallId)
    (draw : Draw)
    (action : Action)
    (next : System)
    (state : CreationState) : Prop where
| begun
    (request : CreateRequest)
    (keyRow : IdempotencyKey)
    (hAction : action = .createBegin request)
    (hClaim :
      action.claim config system.db draw =
        some (.claimed keyRow))
    (hName : keyRow.idempotencyKey = request.idempotencyKey)
    (hFresh :
      state.paymentId ∉ system.db.payments.map (·.id))
    (hRequest : state.requestKey = request.idempotencyKey)
    (hKey : state.key = keyRow.claimedKey)
    (hAsked : state.asked = false)
    (hKeys :
      next.db.keys = (system.db.putKey keyRow).keys)
    (hCalls : next.providerCalls = system.providerCalls)
| carried
    (hBefore :
      (system.calls call).creationState = some state)
    (hKeys : next.db.keys = system.db.keys)
    (hCalls : next.providerCalls = system.providerCalls)
| asks
    (before : CreationState)
    (hBefore :
      (system.calls call).creationState = some before)
    (hState : state = { before with asked := true })
    (hOpen : before.asked = false)
    (hKeys : next.db.keys = system.db.keys)
    (hCalls :
      next.authorizeKeys before.paymentId =
        system.authorizeKeys before.paymentId ++
          [before.requestKey])

variable {config : Config}
variable {system next : System}
variable {call : CallId}
variable {draw : Draw}
variable {action : Action}
variable {state : CreationState}
variable {paymentId : Uuid}

theorem Turn.creationState
    {position : Call}
    (hTurn : Turn config system call draw action position)
    (hState : position.creationState = some state) :
    ∃ result, action = .createAuthorize result := by
  cases hTurn with
  | @authorized _ _ _ _ result hCall hLevel =>
      exact ⟨result, rfl⟩
  | @begun _ _ _ check _ =>
      cases check <;> cases hState
  | @continued _ _ check _ _ =>
      cases check <;> cases hState
  | _ => cases hState

theorem authorizeKeys_congr
    (hCalls : next.providerCalls = system.providerCalls)
    (paymentId : Uuid) :
    next.authorizeKeys paymentId =
      system.authorizeKeys paymentId := by
  unfold System.authorizeKeys
  rw [hCalls]

theorem authorizeKeys_append
    {providerCall : ProviderCall}
    (hCalls :
      next.providerCalls =
        system.providerCalls ++ [providerCall])
    (paymentId : Uuid) :
    next.authorizeKeys paymentId =
      system.authorizeKeys paymentId ++
        (providerCall.authorizeKey paymentId).toList := by
  unfold System.authorizeKeys
  rw [hCalls, List.filterMap_append]
  cases hKey : providerCall.authorizeKey paymentId <;>
    simp [hKey]

/- The step that asks the provider to authorize. -/
theorem createAuthorize_asks
    {result : ProviderResult}
    (hStep :
      stepCreateAuthorize system call result = some next)
    (hState :
      (next.calls call).creationState = some state) :
    CreationStep config system call draw action next
      state := by
  unfold stepCreateAuthorize at hStep
  split at hStep
  · rename_i request key intent level hCall
    split at hStep
    · cases hStep
    · cases hStep
      simp only [System.observe_calls,
        System.become_calls_self, Call.creationState,
        Option.some.injEq] at hState
      subst hState
      refine .asks
        ⟨request.idempotencyKey, key, intent.id, false⟩
        (by rw [hCall]; rfl) rfl rfl rfl ?_
      rw [authorizeKeys_append rfl]
      simp [ProviderCall.authorizeKey]
      rfl
  · cases hStep

theorem callStep_creation
    (hStep :
      callStep config system call draw action = some next)
    (hAdmits : system.db.Admits draw)
    (hState :
      (next.calls call).creationState = some state) :
    CreationStep config system call draw action next
      state := by
  cases callStep_effect hStep with
  | quiet hQuiet hTurn =>
      rcases hTurn.creationState hState with ⟨result, rfl⟩
      exact createAuthorize_asks hStep hState
  | createInsert hClaims hBody =>
      simp only [System.recordOrigin_calls,
        System.commit_calls_self, Call.creationState,
        Option.some.injEq] at hState
      subst hState
      rcases createInsert_eq_ok hBody with ⟨hIntent, _, hDb⟩
      refine .begun _ _ rfl hClaims.claim
        (claimed_name hClaims.claim).2 ?_ rfl rfl rfl ?_ rfl
      · rw [hIntent]
        exact hAdmits.2.1
      · rw [hDb]
        rfl
  | createProcess hCall _ hBody =>
      simp only [System.commit_calls_self,
        Call.creationState, Option.some.injEq] at hState
      rcases createProcess_eq_ok hBody with
        ⟨locked, hLocked, hApply⟩
      refine .carried ?_
        (Moved.of_applyTransition hApply).keys rfl
      rw [hCall, ← hState,
        Moved.id_of_applyTransition hApply,
        lockPayment_id hLocked]
      rfl
  | createAssess hCall =>
      simp only [System.commit_calls_self,
        Call.creationState, Option.some.injEq] at hState
      refine .carried ?_ rfl rfl
      rw [hCall, ← hState]
      rfl
  | _ => simp [Call.creationState] at hState

/- Only a creation that asks adds to the asked keys. -/
theorem Asked.authorizeKeys
    (hAsked : Asked system call next)
    (paymentId : Uuid) :
    next.authorizeKeys paymentId =
        system.authorizeKeys paymentId ∨
      ∃ state,
        (system.calls call).creationState = some state ∧
          state.paymentId = paymentId ∧
          state.asked = false := by
  cases hAsked with
  | same hCalls => exact .inl (authorizeKeys_congr hCalls _)
  | authorize request key intent level result hCall _ _ _
      hCalls =>
      by_cases hId : intent.id = paymentId
      · right
        exact ⟨_, by rw [hCall]; rfl, hId, rfl⟩
      · left
        rw [authorizeKeys_append hCalls]
        simp [ProviderCall.authorizeKey, hId]
  | capture _ _ _ _ _ _ hCalls =>
      left
      rw [authorizeKeys_append hCalls]
      simp [ProviderCall.authorizeKey]
  | refund _ _ _ _ _ _ hCalls =>
      left
      rw [authorizeKeys_append hCalls]
      simp [ProviderCall.authorizeKey]
  | lookup _ _ _ _ hCalls =>
      left
      rw [authorizeKeys_append hCalls]
      simp [ProviderCall.authorizeKey]

end PayGuard

------------------------------------------------------------
-- One Step
------------------------------------------------------------

namespace PayGuard

variable {config : Config}
variable {system next : System}
variable {call other : CallId}
variable {draw : Draw}
variable {action : Action}
variable {row keyRow link : IdempotencyKey}
variable {paymentId : Uuid}
variable {state : CreationState}

/- A creation's payment has not been asked about. -/
theorem Provenance.untried_of_creationState
    (hProvenance : Provenance system)
    (hState :
      (system.calls call).creationState = some state) :
    ¬ system.db.Tried state.paymentId ∧
      state.paymentId ∈ system.db.payments.map (·.id) := by
  rcases Call.creating_of_creationState hState with
    ⟨intent, status, hCreating, hId⟩
  have hPristine :=
    hProvenance.creating call intent status hCreating
  rw [← hId]
  exact ⟨hPristine.untried, hPristine.onFile⟩

/- Two calls do not create the same payment. -/
theorem Provenance.distinct_of_creationState
    {state' : CreationState}
    (hProvenance : Provenance system)
    (hOther : other ≠ call)
    (hState :
      (system.calls call).creationState = some state)
    (hState' :
      (system.calls other).creationState = some state') :
    state.paymentId ≠ state'.paymentId := by
  rcases Call.creating_of_creationState hState with
    ⟨intent, status, hCreating, hId⟩
  rcases Call.creating_of_creationState hState' with
    ⟨intent', status', hCreating', hId'⟩
  rw [← hId, ← hId']
  exact hProvenance.distinct call other _ _ _ _ hOther
    hCreating hCreating'

theorem Provenance.onFile_of_tried
    (hProvenance : Provenance system)
    (hTried : system.db.Tried paymentId) :
    paymentId ∈ system.db.payments.map (·.id) := by
  rcases hTried with ⟨attempt, hAttempt, hId⟩
  rw [← hId]
  exact hProvenance.onFile attempt hAttempt

/- A settled payment has been asked about. -/
theorem Provenance.tried_of_succeeded
    {intent : PaymentIntent}
    (hProvenance : Provenance system)
    (hRow : intent ∈ system.db.payments)
    (hStatus : intent.status = .succeeded) :
    system.db.Tried intent.id := by
  by_contra hUntried
  have hEarly :=
    (hProvenance.untried _ hUntried).status intent hRow rfl
  rw [hStatus] at hEarly
  simp at hEarly

/- A claim for the payment takes a row younger than the link. -/
theorem Links.later
    (hLink : Links system paymentId link)
    (hLinked : KeysLinked system)
    (hApart : Apart system action keyRow)
    (hCharged : action.chargedPayment = some paymentId) :
    link.createdAt < keyRow.createdAt := by
  rcases hApart.later paymentId hCharged
      ⟨link, hLink.stored, hLink.named⟩ with
    ⟨older, hOlder, hNamed, hCreated⟩
  by_cases hSame : older.id = link.id
  · have hEq : older = link :=
      List.inj_on_of_nodup_map hLinked.ids hOlder
        hLink.stored hSame
    rw [← hEq]
    exact hCreated
  · exact (hLink.first older hOlder hNamed hSame).trans
      hCreated

/-
  A row that names a payment has named it before, or it is
  completed by the creation, or it is younger than the link.
-/
theorem KeysLinked.named_next
    (hLinked : KeysLinked system)
    (hProvenance : Provenance system)
    (hApart :
      ∀ keyRow,
        action.claim config system.db draw =
            some (.claimed keyRow) →
          Apart system action keyRow)
    (hWrite : KeyWrite config system call draw action next)
    (hRow : row ∈ next.db.keys)
    (hNamed : row.paymentIntentId = some paymentId) :
    (∃ old ∈ system.db.keys,
        old.id = row.id ∧
          old.createdAt = row.createdAt ∧
          old.paymentIntentId = some paymentId) ∨
      (∃ state,
        (system.calls call).creationState = some state ∧
          state.paymentId = paymentId) ∨
      (system.db.Tried paymentId ∧
        ∀ link,
          Links system paymentId link →
            link.createdAt < row.createdAt) := by
  cases hWrite.source hRow with
  | kept old hOld hId hCreated hSame =>
      exact .inl ⟨old, hOld, hId, hCreated,
        hSame.symm.trans hNamed⟩
  | claimed hClaim =>
      rw [claim_unnamed hClaim] at hNamed
      cases hNamed
  | created state _ hCall _ _ _ hSame =>
      cases hSame.symm.trans hNamed
      exact .inr (.inl ⟨state, hCall, rfl⟩)
  | settled request keyRow intent hAction hClaim hSelect
      hStatus _ hCreated hSame =>
      cases hSame.symm.trans hNamed
      rcases selectPayment_eq_some hSelect with
        ⟨hIntent, hId, _⟩
      right
      right
      refine ⟨hProvenance.tried_of_succeeded hIntent hStatus,
        ?_⟩
      intro link hLink
      rw [← hCreated]
      exact hLink.later hLinked (hApart keyRow hClaim)
        (by rw [hAction, hId]; rfl)
  | captured keyRow paymentId hCall _ hCreated hSame =>
      cases hSame.symm.trans hNamed
      have hTouched := Call.claimedKey_of_openCapture hCall
      right
      right
      refine ⟨hProvenance.touched call _ hTouched.2.2, ?_⟩
      intro link hLink
      rw [← hCreated]
      exact hLink.captures call keyRow hCall
  | refunded key paymentId old hCall hOld hKey _ hCreated
      hSame =>
      cases hSame.symm.trans hNamed
      have hTouched := Call.claimedKey_of_refundKey hCall
      right
      right
      refine ⟨hProvenance.touched call _ hTouched.2, ?_⟩
      intro link hLink
      rcases hLink.refunds call key hCall with
        ⟨mine, hMine, hMineId, hYounger⟩
      have hEq : mine = old :=
        List.inj_on_of_nodup_map hLinked.ids hMine hOld
          (hMineId.trans hKey.symm)
      rw [← hCreated, ← hEq]
      exact hYounger

/- What a creation has asked stays asked. -/
theorem KeysLinked.authorizeKeys_next
    (hLinked : KeysLinked system)
    (hAsked : Asked system call next)
    (hSome : system.authorizeKeys paymentId ≠ []) :
    next.authorizeKeys paymentId =
      system.authorizeKeys paymentId := by
  rcases hAsked.authorizeKeys paymentId with
    hSame | ⟨state, hState, rfl, hOpen⟩
  · exact hSame
  · have hKept := hLinked.creations call state hState
    rw [hKept.asked, hOpen] at hSome
    exact absurd rfl hSome

/- A capture opens with the row it has claimed. -/
theorem Effect.openCapture
    (hEffect :
      Effect config system call draw action next)
    (hCapture :
      (next.calls call).openCapture =
        some (keyRow, paymentId)) :
    action.chargedPayment = some paymentId ∧
      action.claim config system.db draw =
        some (.claimed keyRow) ∧
      next.db = system.db := by
  cases hEffect with
  | quiet hQuiet _ =>
      have hCaptured := hQuiet.captured
      generalize next.calls call = position at *
      cases position <;> cases hCapture
      cases hCaptured
  | captureOpen hClaims _ hSelect _ _ =>
      simp only [System.become_calls_self,
        Call.openCapture, Option.some.injEq,
        Prod.mk.injEq] at hCapture
      rcases hCapture with ⟨rfl, rfl⟩
      refine ⟨?_, hClaims.claim, rfl⟩
      rw [(selectPayment_eq_some hSelect).2.1]
      rfl
  | _ => simp [Call.openCapture] at hCapture

/- A refund goes on under the row it has claimed. -/
theorem Effect.refundKey
    {key : ClaimedKey}
    (hEffect :
      Effect config system call draw action next)
    (hRefund :
      (next.calls call).refundKey =
        some (key, paymentId)) :
    ((system.calls call).refundKey =
          some (key, paymentId) ∧
        next.db.keys = system.db.keys) ∨
      ∃ keyRow,
        action.chargedPayment = some paymentId ∧
          action.claim config system.db draw =
            some (.claimed keyRow) ∧
          keyRow.claimedKey = key ∧
          next.db.keys =
            (system.db.putKey keyRow).keys := by
  cases hEffect with
  | quiet hQuiet _ =>
      have hReservation := hQuiet.reservation
      generalize next.calls call = position at *
      cases position <;> cases hRefund <;>
        cases hReservation
  | refundReserve hClaims _ hBody =>
      simp only [System.recordOrigin_calls,
        System.commit_calls_self, Call.refundKey,
        Option.some.injEq, Prod.mk.injEq] at hRefund
      rcases hRefund with ⟨rfl, rfl⟩
      rcases refundReserve_eq_ok hBody with
        ⟨_, _, _, _, _, _, _, hEnter⟩
      exact .inr ⟨_, rfl, hClaims.claim, rfl,
        (Moved.of_enterRefundPending hEnter).keys⟩
  | refundAnswer hCall _ =>
      left
      rw [hCall]
      simp only [System.observe_calls,
        System.become_calls_self] at hRefund
      exact ⟨hRefund, rfl⟩
  | _ => simp [Call.refundKey] at hRefund

end PayGuard

------------------------------------------------------------
-- The Invariant Along A Step
------------------------------------------------------------

namespace PayGuard

variable {config : Config}
variable {system next : System}
variable {label : Label}
variable {other : CallId}
variable {link : IdempotencyKey}
variable {paymentId : Uuid}
variable {state : CreationState}

/- Another call's creation is not disturbed. -/
theorem KeysLinked.creation_other
    (hLinked : KeysLinked system)
    (hProvenance : Provenance system)
    (hApart : ClaimsApart config system label)
    (hStep : step config system label = some next)
    (hOther : other ≠ label.call)
    (hState :
      (system.calls other).creationState = some state) :
    CreationKept next other state := by
  rcases step_effect hStep with ⟨hAdmits, hEffect⟩
  have hKept := hLinked.creations other state hState
  have hPayment :=
    hProvenance.untried_of_creationState hState
  have hGuarded :=
    (Call.claimedKey_of_creationState hState).2
  refine
    { stored := ?_
      unnamed := ?_
      asked := ?_
      alone := ?_ }
  · rcases hKept.stored with ⟨row, hRow, hId, hName⟩
    refine ⟨row, hEffect.keyWrite.kept hRow ?_ ?_, hId,
      hName⟩
    · intro key hKey
      rw [hId]
      exact hKept.alone label.call key hOther.symm hKey
    · intro keyRow hClaim
      rw [hId]
      exact ((hApart keyRow hClaim).guarded other _
        hGuarded).symm
  · intro row hRow hNamed
    rcases hLinked.named_next hProvenance hApart
        hEffect.keyWrite hRow hNamed with
      ⟨old, hOld, _, _, hOldNamed⟩ |
        ⟨mine, hMine, hSame⟩ | ⟨hTried, _⟩
    · exact hKept.unnamed old hOld hOldNamed
    · exact hProvenance.distinct_of_creationState hOther
        hMine hState hSame
    · exact hPayment.1 hTried
  · rw [← hKept.asked]
    rcases (step_asked hStep).authorizeKeys
        state.paymentId with
      hSame | ⟨mine, hMine, hSame, _⟩
    · exact hSame
    · exact absurd hSame
        (hProvenance.distinct_of_creationState hOther hMine
          hState)
  · intro third key hThird hKey
    by_cases hActs : third = label.call
    · subst hActs
      rcases step_claims hStep hKey with
        hBefore | ⟨keyRow, hClaim, rfl⟩
      · exact hKept.alone _ key hThird hBefore
      · exact ((hApart keyRow hClaim).guarded other _
          hGuarded).symm
    · rw [hEffect.frame.calls third hActs] at hKey
      exact hKept.alone third key hThird hKey

/- The acting call's creation, from its first step on. -/
theorem KeysLinked.creation_own
    (hLinked : KeysLinked system)
    (hApart : ClaimsApart config system label)
    (hStep : step config system label = some next)
    (hState :
      (next.calls label.call).creationState = some state) :
    CreationKept next label.call state := by
  rcases step_effect hStep with ⟨hAdmits, hEffect⟩
  have hFrame := hEffect.frame.calls
  have hCallStep :
      callStep config system label.call label.draw
        label.action = some next := by
    unfold step at hStep
    rwa [if_pos hAdmits] at hStep
  cases callStep_creation hCallStep hAdmits hState with
  | begun request keyRow hAction hClaim hName hFresh hRequest
      hKey hOpen hKeys hCalls =>
      refine
        { stored := ?_
          unnamed := ?_
          asked := ?_
          alone := ?_ }
      · refine ⟨keyRow, ?_, by rw [hKey]; rfl,
          hName.trans hRequest.symm⟩
        rw [hKeys]
        exact mem_putKey.mpr (.inl rfl)
      · intro row hRow hNamed
        rw [hKeys] at hRow
        rcases mem_putKey.mp hRow with rfl | ⟨hOld, _⟩
        · rw [claim_unnamed hClaim] at hNamed
          cases hNamed
        · exact hFresh (hLinked.onFile row hOld _ hNamed)
      · rw [authorizeKeys_congr hCalls, hOpen]
        exact hLinked.unasked _ hFresh
      · intro other key hOther hTheirs
        rw [hFrame other hOther] at hTheirs
        rw [hKey]
        exact (hApart keyRow hClaim).alone request hAction
          other key hTheirs
  | carried hBefore hKeys hCalls =>
      have hKept := hLinked.creations _ state hBefore
      refine
        { stored := by rw [hKeys]; exact hKept.stored
          unnamed := by rw [hKeys]; exact hKept.unnamed
          asked := ?_
          alone := ?_ }
      · rw [authorizeKeys_congr hCalls]
        exact hKept.asked
      · intro other key hOther hTheirs
        rw [hFrame other hOther] at hTheirs
        exact hKept.alone other key hOther hTheirs
  | asks before hBefore hSame hOpen hKeys hCalls =>
      have hKept := hLinked.creations _ before hBefore
      subst hSame
      refine
        { stored := by rw [hKeys]; exact hKept.stored
          unnamed := by rw [hKeys]; exact hKept.unnamed
          asked := ?_
          alone := ?_ }
      · rw [hCalls, hKept.asked, hOpen]
        rfl
      · intro other key hOther hTheirs
        rw [hFrame other hOther] at hTheirs
        exact hKept.alone other key hOther hTheirs

/- No claim takes the row of a link over. -/
theorem Links.unclaimed
    {keyRow : IdempotencyKey}
    (hLink : Links system paymentId link)
    (hLinked : KeysLinked system)
    (hAdmits : system.db.Admits label.draw)
    (hClaim :
      label.action.claim config system.db label.draw =
        some (.claimed keyRow)) :
    keyRow.id ≠ link.id := by
  intro hId
  exact (hLinked.claimed_createdAt hAdmits hClaim
    hLink.stored hId.symm).1 hLink.completed

/- The link of a payment stays its link. -/
theorem Links.kept
    (hLink : Links system paymentId link)
    (hTried : system.db.Tried paymentId)
    (hLinked : KeysLinked system)
    (hProvenance : Provenance system)
    (hApart : ClaimsApart config system label)
    (hStep : step config system label = some next) :
    Links next paymentId link := by
  rcases step_effect hStep with ⟨hAdmits, hEffect⟩
  have hFrame := hEffect.frame.calls
  have hUnclaimed :
      ∀ keyRow,
        label.action.claim config system.db label.draw =
            some (.claimed keyRow) →
          keyRow.id ≠ link.id :=
    fun keyRow hClaim =>
      hLink.unclaimed hLinked hAdmits hClaim
  refine
    { stored :=
        hEffect.keyWrite.kept hLink.stored
          (hLink.free label.call) hUnclaimed
      completed := hLink.completed
      named := hLink.named
      asked := ?_
      free := ?_
      first := ?_
      captures := ?_
      refunds := ?_ }
  · have hSome : system.authorizeKeys paymentId ≠ [] := by
      rw [hLink.asked]
      simp
    rw [hLinked.authorizeKeys_next (step_asked hStep) hSome]
    exact hLink.asked
  · intro call key hKey
    by_cases hActs : call = label.call
    · subst hActs
      rcases step_claims hStep hKey with
        hBefore | ⟨keyRow, hClaim, rfl⟩
      · exact hLink.free _ key hBefore
      · exact hUnclaimed keyRow hClaim
    · rw [hFrame call hActs] at hKey
      exact hLink.free call key hKey
  · intro row hRow hNamed hOther
    rcases hLinked.named_next hProvenance hApart
        hEffect.keyWrite hRow hNamed with
      ⟨old, hOld, hId, hCreated, hOldNamed⟩ |
        ⟨state, hState, rfl⟩ | ⟨_, hYounger⟩
    · rw [← hCreated]
      exact hLink.first old hOld hOldNamed
        (by rw [hId]; exact hOther)
    · exact absurd hTried
        (hProvenance.untried_of_creationState hState).1
    · exact hYounger link hLink
  · intro call keyRow hCapture
    by_cases hActs : call = label.call
    · subst hActs
      rcases hEffect.openCapture hCapture with
        ⟨hCharged, hClaim, _⟩
      exact hLink.later hLinked (hApart keyRow hClaim)
        hCharged
    · rw [hFrame call hActs] at hCapture
      exact hLink.captures call keyRow hCapture
  · intro call key hRefund
    -- a row keeps its creation time for as long as it stays
    have hKeep :
        (system.calls call).refundKey =
            some (key, paymentId) →
          ∃ row ∈ next.db.keys,
            row.id = key.id ∧
              link.createdAt < row.createdAt := by
      intro hBefore
      rcases hLink.refunds call key hBefore with
        ⟨row, hRow, hId, hYounger⟩
      rcases hLinked.createdAt_next hAdmits
          hEffect.keyWrite hRow with
        ⟨row', hRow', hId', hCreated⟩
      exact ⟨row', hRow', hId'.trans hId,
        by rw [hCreated]; exact hYounger⟩
    by_cases hActs : call = label.call
    · subst hActs
      rcases hEffect.refundKey hRefund with
        ⟨hBefore, _⟩ |
          ⟨keyRow, hCharged, hClaim, rfl, hKeys⟩
      · exact hKeep hBefore
      · refine ⟨keyRow, ?_, rfl,
          hLink.later hLinked (hApart keyRow hClaim)
            hCharged⟩
        rw [hKeys]
        exact mem_putKey.mpr (.inl rfl)
    · rw [hFrame call hActs] at hRefund
      exact hKeep hRefund

/- A first answer is recorded by the creation it is for. -/
theorem Effect.records
    {call : CallId}
    {draw : Draw}
    {action : Action}
    (hEffect :
      Effect config system call draw action next)
    (hProvenance : Provenance system)
    (hTyped : PlansTyped system)
    (hAdmits : system.db.Admits draw)
    (hUntried : ¬ system.db.Tried paymentId)
    (hTried : next.db.Tried paymentId) :
    ∃ state responseStatus responseBody,
      (system.calls call).creationState = some state ∧
        state.paymentId = paymentId ∧
        state.asked = true ∧
        (next.calls call).claimedKey = none ∧
        next.providerCalls = system.providerCalls ∧
        next.db.keys =
          (completeIdempotencyKey system.db state.key.id
            (some paymentId) responseStatus
            responseBody).keys := by
  have hSame :
      SameFiles system.db next.db → False :=
    fun hFiles => hUntried (hFiles.tried_iff.mp hTried)
  have hDealt : Dealt system call next paymentId :=
    hEffect.dealt hTyped hAdmits
  cases hDealt with
  | spared hSpared =>
      exact absurd (hSpared.tried_iff.mp hTried) hUntried
  | created _ _ hFiles => exact (hSame hFiles).elim
  | processed _ _ _ _ _ _ hFiles =>
      exact (hSame hFiles).elim
  | blocked _ _ _ _ _ _ hFiles => exact (hSame hFiles).elim
  | touched _ hTouched _ _ _ =>
      exact absurd (hProvenance.tried hTouched) hUntried
  | authorized request key intent result hCall hId _ _ _ =>
      have hState :
          (system.calls call).creationState =
            some ⟨request.idempotencyKey, key, intent.id,
              true⟩ := by
        rw [hCall]
        rfl
      cases hEffect with
      | createFinish hFinished _ _ hBody =>
          cases hCall.symm.trans hFinished
          rcases createFinish_keys hBody with
            ⟨locked, hLocked, hKeys⟩
          rw [lockPayment_id hLocked] at hKeys
          exact ⟨_, _, _, hState, hId, rfl,
            by simp [Call.claimedKey], rfl,
            by rw [← hId]; exact hKeys⟩
      | quiet hQuiet _ =>
          rw [hQuiet.db] at hTried
          exact absurd hTried hUntried
      | createInsert hClaims _ =>
          cases hCall.symm.trans hClaims.idle
      | captureSettled hClaims _ _ =>
          cases hCall.symm.trans hClaims.idle
      | captureOpen hClaims _ _ _ _ =>
          cases hCall.symm.trans hClaims.idle
      | refundReserve hClaims _ _ =>
          cases hCall.symm.trans hClaims.idle
      | createProcess hOther _ _ =>
          cases hCall.symm.trans hOther
      | createAssess hOther => cases hCall.symm.trans hOther
      | createBlock hOther _ _ _ =>
          cases hCall.symm.trans hOther
      | captureFinish hOther _ _ =>
          cases hCall.symm.trans hOther
      | refundAnswer hOther _ =>
          cases hCall.symm.trans hOther
      | refundFinish hOther _ _ _ =>
          cases hCall.symm.trans hOther
      | receiveWebhook hOther =>
          cases hCall.symm.trans hOther
      | dispatchFinish hOther _ _ =>
          cases hCall.symm.trans hOther
      | reconcileApply hOther _ _ =>
          cases hCall.symm.trans hOther
      | reconcileReport hOther =>
          cases hCall.symm.trans hOther
      | failWrite hOther _ => cases hCall.symm.trans hOther

/- The row a creation completes becomes the link. -/
theorem KeysLinked.link_new
    (hLinked : KeysLinked system)
    (hProvenance : Provenance system)
    (hTyped : PlansTyped system)
    (hStep : step config system label = some next)
    (hUntried : ¬ system.db.Tried paymentId)
    (hTried : next.db.Tried paymentId) :
    ∃ link, Links next paymentId link := by
  rcases step_effect hStep with ⟨hAdmits, hEffect⟩
  have hFrame := hEffect.frame.calls
  rcases hEffect.records hProvenance hTyped hAdmits hUntried
      hTried with
    ⟨state, status, body, hState, rfl, hAsked, hDone, hCalls,
      hKeys⟩
  have hKept := hLinked.creations _ state hState
  rcases hKept.stored with ⟨old, hOld, hId, hName⟩
  -- a capture or refund would have known of an attempt
  have hUntouched :
      ∀ call,
        (system.calls call).touched ≠
          some state.paymentId :=
    fun call hTouched =>
      hUntried (hProvenance.touched call _ hTouched)
  refine ⟨old.completed (some state.paymentId) status body
    none, ?_⟩
  refine
    { stored := ?_
      completed := rfl
      named := rfl
      asked := ?_
      free := ?_
      first := ?_
      captures := ?_
      refunds := ?_ }
  · rw [hKeys, mem_completeIdempotencyKey]
    exact .inr ⟨old, hOld, hId, rfl⟩
  · rw [authorizeKeys_congr hCalls, hKept.asked, hAsked]
    exact congrArg (fun name => [name]) hName.symm
  · intro call key hKey
    by_cases hActs : call = label.call
    · subst hActs
      rw [hDone] at hKey
      cases hKey
    · rw [hFrame call hActs] at hKey
      intro hSame
      exact hKept.alone call key hActs hKey
        (hSame.trans hId)
  · intro row hRow hNamed hOther
    rw [hKeys] at hRow
    rcases mem_completeIdempotencyKey.mp hRow with
      ⟨hOldRow, _⟩ | ⟨mine, hMine, hMineId, rfl⟩
    · exact absurd hNamed (hKept.unnamed row hOldRow)
    · exact absurd (hMineId.trans hId.symm) hOther
  · intro call keyRow hCapture
    by_cases hActs : call = label.call
    · subst hActs
      rw [(Call.claimedKey_of_openCapture hCapture).1]
        at hDone
      cases hDone
    · rw [hFrame call hActs] at hCapture
      exact absurd
        (Call.claimedKey_of_openCapture hCapture).2.2
        (hUntouched call)
  · intro call key hRefund
    by_cases hActs : call = label.call
    · subst hActs
      rw [(Call.claimedKey_of_refundKey hRefund).1] at hDone
      cases hDone
    · rw [hFrame call hActs] at hRefund
      exact absurd (Call.claimedKey_of_refundKey hRefund).2
        (hUntouched call)

/- Open captures, and the rows they have not committed. -/
theorem KeysLinked.captures_next
    {call : CallId}
    {row keyRow : IdempotencyKey}
    (hLinked : KeysLinked system)
    (hApart : ClaimsApart config system label)
    (hStep : step config system label = some next)
    (hCapture :
      (next.calls call).openCapture =
        some (keyRow, paymentId))
    (hRow : row ∈ next.db.keys)
    (hId : row.id = keyRow.id) :
    row.createdAt = keyRow.createdAt := by
  rcases step_effect hStep with ⟨hAdmits, hEffect⟩
  by_cases hActs : call = label.call
  · subst hActs
    rcases hEffect.openCapture hCapture with
      ⟨_, hClaim, hDb⟩
    rw [hDb] at hRow
    exact (hLinked.claimed_createdAt hAdmits hClaim hRow
      hId).2
  · rw [hEffect.frame.calls call hActs] at hCapture
    have hGuarded :=
      (Call.claimedKey_of_openCapture hCapture).2.1
    have hBefore := hLinked.captures call _ _ hCapture
    cases hEffect.keyWrite.source hRow with
    | kept old hOld hOldId hCreated _ =>
        rw [← hCreated]
        exact hBefore old hOld (hOldId.trans hId)
    | claimed hClaim =>
        exact absurd hId.symm
          ((hApart row hClaim).guarded call _ hGuarded)
    | created _ old _ hOld hOldId hCreated _ =>
        rw [← hCreated]
        exact hBefore old hOld (hOldId.trans hId)
    | settled _ version _ _ hClaim _ _ hSame _ _ =>
        exact absurd (hSame.trans hId).symm
          ((hApart version hClaim).guarded call _ hGuarded)
    | captured version _ hMine hSame _ _ =>
        exact absurd (hSame.trans hId)
          (hLinked.distinct label.call call _ _ _ _ hActs
            hMine hCapture)
    | refunded _ _ old _ hOld _ hOldId hCreated _ =>
        rw [← hCreated]
        exact hBefore old hOld (hOldId.trans hId)

/- Two open captures have two rows. -/
theorem KeysLinked.distinct_next
    {call : CallId}
    {keyRow keyRow' : IdempotencyKey}
    {paymentId' : Uuid}
    (hLinked : KeysLinked system)
    (hApart : ClaimsApart config system label)
    (hStep : step config system label = some next)
    (hOther : other ≠ call)
    (hCapture :
      (next.calls call).openCapture =
        some (keyRow, paymentId))
    (hCapture' :
      (next.calls other).openCapture =
        some (keyRow', paymentId')) :
    keyRow.id ≠ keyRow'.id := by
  rcases step_effect hStep with ⟨hAdmits, hEffect⟩
  have hFrame := hEffect.frame.calls
  by_cases hActs : call = label.call
  · subst hActs
    rw [hFrame other hOther] at hCapture'
    rcases hEffect.openCapture hCapture with ⟨_, hClaim, _⟩
    exact ((hApart keyRow hClaim).guarded other _
      (Call.claimedKey_of_openCapture hCapture').2.1).symm
  · rw [hFrame call hActs] at hCapture
    by_cases hTheirs : other = label.call
    · subst hTheirs
      rcases hEffect.openCapture hCapture' with
        ⟨_, hClaim, _⟩
      exact (hApart keyRow' hClaim).guarded call _
        (Call.claimedKey_of_openCapture hCapture).2.1
    · rw [hFrame other hTheirs] at hCapture'
      exact hLinked.distinct call other _ _ _ _ hOther
        hCapture hCapture'

/- Every step that claims apart keeps the links. -/
theorem keysLinked_step
    (hLinked : KeysLinked system)
    (hLifecycle : Lifecycle system)
    (hApart : ClaimsApart config system label)
    (hStep : step config system label = some next) :
    KeysLinked next := by
  rcases step_effect hStep with ⟨hAdmits, hEffect⟩
  have hProvenance := hLifecycle.provenance
  have hIds :
      system.db.payments.map (·.id) ⊆
        next.db.payments.map (·.id) := by
    rcases (hEffect.trailStep hLifecycle.held.captures
        hAdmits).paymentIds with
      hSame | ⟨_, _, hAdded⟩
    · rw [hSame]
      exact List.Subset.refl _
    · rw [hAdded]
      exact List.subset_append_left _ _
  refine
    { ids :=
        (hEffect.namesStep hLinked.ids hAdmits).ids
          hLinked.ids
      onFile := ?_
      unasked := ?_
      creations := ?_
      captures := fun call keyRow paymentId hCapture row
        hRow hId =>
          hLinked.captures_next hApart hStep hCapture hRow
            hId
      distinct := fun call other _ _ _ _ hOther hCapture
        hCapture' =>
          hLinked.distinct_next hApart hStep hOther hCapture
            hCapture'
      linked := ?_ }
  · intro row hRow paymentId hNamed
    apply hIds
    rcases hLinked.named_next hProvenance hApart
        hEffect.keyWrite hRow hNamed with
      ⟨old, hOld, _, _, hOldNamed⟩ |
        ⟨state, hState, rfl⟩ | ⟨hTried, _⟩
    · exact hLinked.onFile old hOld _ hOldNamed
    · exact
        (hProvenance.untried_of_creationState hState).2
    · exact hProvenance.onFile_of_tried hTried
  · intro paymentId hAbsent
    have hBefore :
        paymentId ∉ system.db.payments.map (·.id) :=
      fun hOnFile => hAbsent (hIds hOnFile)
    rcases (step_asked hStep).authorizeKeys paymentId with
      hSame | ⟨state, hState, rfl, _⟩
    · rw [hSame]
      exact hLinked.unasked paymentId hBefore
    · exact absurd
        (hProvenance.untried_of_creationState hState).2
        hBefore
  · intro call state hState
    by_cases hActs : call = label.call
    · subst hActs
      exact hLinked.creation_own hApart hStep hState
    · rw [hEffect.frame.calls call hActs] at hState
      exact hLinked.creation_other hProvenance hApart hStep
        hActs hState
  · intro paymentId hTried
    by_cases hBefore : system.db.Tried paymentId
    · rcases hLinked.linked paymentId hBefore with
        ⟨link, hLink⟩
      exact ⟨link, hLink.kept hBefore hLinked hProvenance
        hApart hStep⟩
    · exact hLinked.link_new hProvenance hLifecycle.typed
        hStep hBefore hTried

end PayGuard

import PayGuard.System.Commits
import PayGuard.Tenancy.Transactions

/-
  The steps of a call, confined to the tenant of the call.

  A call carries what it has read from one step to the next.
  `Tenant.OwnsCall` says that all of it belongs to the side
  the call is on, and `Tenant.Apart` says so of every call
  and of every lock.  A step of one side then neither reads
  nor changes anything of the other.

  Key definitions include:
    * `Tenant.OwnsCall`
    * `Tenant.Apart`
    * `Tenant.restrictSystem`
    * `Tenant.systemFrame`

  Key theorems include:
    * `confinedStep_transact`
    * `confinedStep_position`
    * `confinedStep_claim`
-/

------------------------------------------------------------
-- Calls And Locks
------------------------------------------------------------

namespace PayGuard

open Confinement

/- The payment a provider call is about. -/
def ProviderCall.paymentId : ProviderCall → Uuid
| .authorize paymentId _ _ => paymentId
| .capture paymentId _ _ _ => paymentId
| .refund paymentId _ _ _ _ _ _ => paymentId
| .lookup paymentId _ _ => paymentId

namespace Tenant

variable (tenant : Tenant)

/- A key this side creates payments under. -/
def creates (own : Bool) (key : String) : Prop :=
  match own with
  | true => tenant.keys key = true
  | false => tenant.otherKeys key = true

structure OwnsClaim
    (own : Bool)
    (key : ClaimedKey) : Prop where
  id : tenant.ids key.id = own
  merchant : tenant.isMerchant own key.merchantId

structure OwnsCreate
    (own : Bool)
    (request : CreateRequest)
    (key : ClaimedKey)
    (intent : PaymentIntent) : Prop where
  merchant : tenant.isMerchant own request.merchantId
  creates : tenant.creates own request.idempotencyKey
  claim : tenant.OwnsClaim own key
  intent : tenant.OwnsPayment own intent

structure OwnsRefund
    (own : Bool)
    (request : RefundRequest)
    (key : ClaimedKey)
    (reservation : Reservation) : Prop where
  merchant : tenant.isMerchant own request.merchantId
  claim : tenant.OwnsClaim own key
  reservation : tenant.OwnsReservation own reservation

/- All that a call carries belongs to one side. -/
def OwnsCall (own : Bool) : Call → Prop
| .createClaimed request key intent =>
    tenant.OwnsCreate own request key intent
| .createProcessing request key intent =>
    tenant.OwnsCreate own request key intent
| .createAssessed request key intent _ =>
    tenant.OwnsCreate own request key intent
| .createAuthorized request key intent result =>
    tenant.OwnsCreate own request key intent ∧
      tenant.OwnsResult own result
| .captureOpen _ keyRow intent _ =>
    tenant.OwnsKey own keyRow ∧
      tenant.OwnsPayment own intent
| .refundReserved request key reservation =>
    tenant.OwnsRefund own request key reservation
| .refundAnswered request key reservation _ =>
    tenant.OwnsRefund own request key reservation
| .reconcileLoaded intent => tenant.OwnsPayment own intent
| .reconcileAsking intent _ => tenant.OwnsPayment own intent
| .reconcileAnswered intent result =>
    tenant.OwnsPayment own intent ∧
      tenant.OwnsResult own result
| .reconcileReporting report => tenant.OwnsReport own report
| .failing key _ => tenant.OwnsClaim own key
| .failureSeen key _ => tenant.OwnsClaim own key
| .idle => True
| .dispatchOpen _ _ _ => True
| .done _ => True
| .dead => True

/- A key row is locked under its merchant and its key. -/
def showsKey (key : Uuid × String) : Bool :=
  key.1 = tenant.merchantId

/- Rows, calls and locks are each on one side. -/
structure Apart (system : System) : Prop where
  db : tenant.Separated system.db
  calls :
    ∀ call,
      tenant.OwnsCall (tenant.calls call) (system.calls call)
  paymentLock :
    ∀ payment call,
      system.paymentLock payment = some call →
        tenant.ids payment = tenant.calls call
  keyLock :
    ∀ key call,
      system.keyLock key = some call →
        tenant.showsKey key = tenant.calls call

/- What the tenant sees of the services. -/
def restrictSystem (system : System) : System where
  db := tenant.restrict system.db
  calls := mask tenant.calls .idle system.calls
  paymentLock := mask tenant.ids none system.paymentLock
  keyLock := mask tenant.showsKey none system.keyLock
  outboxLock := fun _ => none
  providerCalls :=
    system.providerCalls.filter (fun providerCall =>
      tenant.ids providerCall.paymentId)
  origins :=
    system.origins.filter (fun origin =>
      origin.merchantId = tenant.merchantId)

def systemFrame : Viewpoint System where
  good := tenant.Apart
  view := tenant.restrictSystem

end Tenant

end PayGuard

------------------------------------------------------------
-- Writes
------------------------------------------------------------

namespace PayGuard

open Confinement

variable {tenant : Tenant}
variable {own : Bool}
variable {call : CallId}

theorem confined_become
    (position : Call)
    (hCall : tenant.calls call = own)
    (hPosition : tenant.OwnsCall own position) :
    ConfinedWrite tenant.systemFrame own
      (fun system => system.become call position) where
  good := by
    intro system hApart
    refine { hApart with calls := ?_ }
    intro other
    by_cases hOther : other = call
    · subst hOther
      simp only [System.become, Function.update_self]
      rw [hCall]
      exact hPosition
    · simp only [System.become,
        Function.update_of_ne hOther]
      exact hApart.calls other
  inside := by
    rintro rfl system _
    simp only [Tenant.systemFrame, Tenant.restrictSystem,
      System.become, mask_update_of_shown hCall]
  outside := by
    rintro rfl system _
    simp only [Tenant.systemFrame, Tenant.restrictSystem,
      System.become, mask_update_of_hidden hCall]

/- A write of the rows, with everything else left alone. -/
theorem confined_onRows
    {write : Database → Database}
    (hWrite : ConfinedWrite tenant.frame own write) :
    ConfinedWrite tenant.systemFrame own
      (fun system =>
        { system with db := write system.db }) where
  good := by
    intro system hApart
    exact { hApart with db := hWrite.good _ hApart.db }
  inside := by
    intro hOwn system hApart
    have hRows := hWrite.inside hOwn _ hApart.db
    simp only [Tenant.frame] at hRows
    simp only [Tenant.systemFrame, Tenant.restrictSystem,
      hRows]
  outside := by
    intro hOwn system hApart
    have hRows := hWrite.outside hOwn _ hApart.db
    simp only [Tenant.frame] at hRows
    simp only [Tenant.systemFrame, Tenant.restrictSystem,
      hRows]

theorem confined_observe
    (providerCall : ProviderCall)
    (hPayment : tenant.ids providerCall.paymentId = own) :
    ConfinedWrite tenant.systemFrame own
      (fun system => system.observe providerCall) where
  good := by
    intro system hApart
    exact { hApart with }
  inside := by
    rintro rfl system _
    simp [Tenant.systemFrame, Tenant.restrictSystem,
      System.observe, List.filter_append, hPayment]
  outside := by
    rintro rfl system _
    simp [Tenant.systemFrame, Tenant.restrictSystem,
      System.observe, List.filter_append, hPayment]

theorem confined_recordOrigin
    (key : ClaimedKey)
    (row : CreatedRow)
    (hMerchant : tenant.isMerchant own key.merchantId) :
    ConfinedWrite tenant.systemFrame own
      (fun system => system.recordOrigin key row) where
  good := by
    intro system hApart
    exact { hApart with }
  inside := by
    rintro rfl system _
    have hSame := of_decide_eq_true hMerchant
    simp [Tenant.systemFrame, Tenant.restrictSystem,
      System.recordOrigin, List.filter_append, hSame]
  outside := by
    rintro rfl system _
    have hOther := of_decide_eq_false hMerchant
    simp [Tenant.systemFrame, Tenant.restrictSystem,
      System.recordOrigin, List.filter_append, hOther]

/- A call drops its own locks only. -/
theorem confined_release
    (hCall : tenant.calls call = own) :
    ConfinedWrite tenant.systemFrame own
      (fun system => system.release call) where
  good := by
    intro system hApart
    refine { hApart with paymentLock := ?_, keyLock := ?_ }
    · intro payment other hLock
      apply hApart.paymentLock payment other
      simp only [System.release] at hLock
      split at hLock
      · cases hLock
      · exact hLock
    · intro key other hLock
      apply hApart.keyLock key other
      simp only [System.release] at hLock
      split at hLock
      · cases hLock
      · exact hLock
  inside := by
    rintro rfl system _
    simp only [Tenant.systemFrame, Tenant.restrictSystem,
      System.release, mask_drop]
    rfl
  outside := by
    rintro rfl system hApart
    have hPayment :
        ∀ payment,
          system.paymentLock payment = some call →
            tenant.ids payment = false := by
      intro payment hLock
      rw [hApart.paymentLock payment call hLock]
      exact hCall
    have hKey :
        ∀ key,
          system.keyLock key = some call →
            tenant.showsKey key = false := by
      intro key hLock
      rw [hApart.keyLock key call hLock]
      exact hCall
    simp only [Tenant.systemFrame, Tenant.restrictSystem,
      System.release, mask_drop_of_hidden hPayment,
      mask_drop_of_hidden hKey]

/- The locks a capture keeps while the provider answers. -/
theorem confined_hold
    (paymentId : Uuid)
    (key : Uuid × String)
    (hCall : tenant.calls call = own)
    (hPayment : tenant.ids paymentId = own)
    (hKey : tenant.showsKey key = own) :
    ConfinedWrite tenant.systemFrame own
      (fun system =>
        { system with
          paymentLock :=
            Function.update system.paymentLock paymentId
              (some call)
          keyLock :=
            Function.update system.keyLock key
              (some call) }) where
  good := by
    intro system hApart
    refine { hApart with paymentLock := ?_, keyLock := ?_ }
    · intro payment other hLock
      by_cases hSame : payment = paymentId
      · subst hSame
        simp only [Function.update_self] at hLock
        cases hLock
        rw [hPayment, hCall]
      · simp only [Function.update_of_ne hSame] at hLock
        exact hApart.paymentLock payment other hLock
    · intro name other hLock
      by_cases hSame : name = key
      · subst hSame
        simp only [Function.update_self] at hLock
        cases hLock
        rw [hKey, hCall]
      · simp only [Function.update_of_ne hSame] at hLock
        exact hApart.keyLock name other hLock
  inside := by
    rintro rfl system _
    simp only [Tenant.systemFrame, Tenant.restrictSystem,
      mask_update_of_shown hPayment,
      mask_update_of_shown hKey]
  outside := by
    rintro rfl system _
    simp only [Tenant.systemFrame, Tenant.restrictSystem,
      mask_update_of_hidden hPayment,
      mask_update_of_hidden hKey]

end PayGuard

------------------------------------------------------------
-- Step Rules
------------------------------------------------------------

namespace PayGuard

open Confinement

variable {tenant : Tenant}
variable {own : Bool}
variable {call : CallId}

/- A transaction body, then what its outcome leads to. -/
theorem confinedStep_transact
    {A : Type}
    {result : A → Prop}
    {body : Database → Except Failure (Database × A)}
    {failed : Failure → System → System}
    {finish : A → System → System}
    {step : System → Option System}
    (hBody : Confined tenant.frame own result body)
    (hFailed :
      ∀ failure,
        ConfinedWrite tenant.systemFrame own
          (failed failure))
    (hFinish :
      ∀ value,
        result value →
          ConfinedWrite tenant.systemFrame own
            (finish value))
    (hError :
      ∀ system failure,
        body system.db = .error failure →
          step system = some (failed failure system))
    (hOk :
      ∀ system db value,
        body system.db = .ok (db, value) →
          step system =
            some (finish value { system with db := db })) :
    ConfinedStep tenant.systemFrame own step where
  good := by
    intro system next hApart hStep
    cases hRun : body system.db with
    | error failure =>
        rw [hError system failure hRun] at hStep
        cases hStep
        exact (hFailed failure).good system hApart
    | ok pair =>
        rw [hOk system pair.1 pair.2 hRun] at hStep
        cases hStep
        have hPair :=
          hBody.good system.db pair.1 pair.2 hApart.db hRun
        have hMiddle :
            tenant.Apart { system with db := pair.1 } :=
          { hApart with db := hPair.1 }
        exact (hFinish pair.2 hPair.2).good _ hMiddle
  inside := by
    intro hOwn system next hApart hStep
    have hView := hBody.inside hOwn system.db hApart.db
    cases hRun : body system.db with
    | error failure =>
        rw [hError system failure hRun] at hStep
        cases hStep
        rw [hRun] at hView
        rw [hError (tenant.systemFrame.view system) failure
            hView,
          (hFailed failure).inside hOwn system hApart]
    | ok pair =>
        rw [hOk system pair.1 pair.2 hRun] at hStep
        cases hStep
        have hPair :=
          hBody.good system.db pair.1 pair.2 hApart.db hRun
        have hMiddle :
            tenant.Apart { system with db := pair.1 } :=
          { hApart with db := hPair.1 }
        rw [hRun] at hView
        rw [hOk (tenant.systemFrame.view system) _ _ hView,
          (hFinish pair.2 hPair.2).inside hOwn _ hMiddle]
        rfl
  outside := by
    intro hOwn system next hApart hStep
    cases hRun : body system.db with
    | error failure =>
        rw [hError system failure hRun] at hStep
        cases hStep
        exact (hFailed failure).outside hOwn system hApart
    | ok pair =>
        rw [hOk system pair.1 pair.2 hRun] at hStep
        cases hStep
        have hPair :=
          hBody.good system.db pair.1 pair.2 hApart.db hRun
        have hMiddle :
            tenant.Apart { system with db := pair.1 } :=
          { hApart with db := hPair.1 }
        have hRows :=
          hBody.outside hOwn system.db pair.1 pair.2
            hApart.db hRun
        simp only [Tenant.frame] at hRows
        rw [(hFinish pair.2 hPair.2).outside hOwn _ hMiddle]
        simp only [Tenant.systemFrame,
          Tenant.restrictSystem, hRows]

/- A step that depends on the position of its own call. -/
theorem confinedStep_position
    {step : System → Option System}
    (hCall : tenant.calls call = own)
    (hBranch :
      ∀ position,
        tenant.OwnsCall own position →
          ∃ branch,
            ConfinedStep tenant.systemFrame own branch ∧
              ∀ system : System,
                system.calls call = position →
                  step system = branch system) :
    ConfinedStep tenant.systemFrame own step := by
  apply ConfinedStep.split
    (fun system : System => system.calls call)
    (tenant.OwnsCall own)
  · intro system hApart
    have hOwner := hApart.calls call
    rw [hCall] at hOwner
    exact hOwner
  · rintro rfl system _
    exact mask_apply_of_shown hCall
  · exact hBranch

/- A payment that is free is free in every view. -/
theorem paymentFree_restrict
    {system : System}
    {paymentId : Uuid}
    (hFree : system.paymentFree paymentId = true) :
    (tenant.restrictSystem system).paymentFree paymentId =
      true := by
  have hNone := of_decide_eq_true hFree
  unfold System.paymentFree
  cases hShown : tenant.ids paymentId with
  | true => simp [Tenant.restrictSystem, mask, hNone]
  | false => simp [Tenant.restrictSystem, mask, hShown]

theorem keyFree_restrict
    {system : System}
    {key : ClaimedKey}
    (hFree : system.keyFree key = true) :
    (tenant.restrictSystem system).keyFree key = true := by
  have hNone := of_decide_eq_true hFree
  unfold System.keyFree
  simp [Tenant.restrictSystem, mask, hNone]

/- A call that ends without a write. -/
theorem confinedStep_done
    (reply : Reply)
    (hCall : tenant.calls call = own) :
    ConfinedStep tenant.systemFrame own
      (fun system =>
        some (system.become call (.done reply))) :=
  ConfinedStep.write
    (confined_become (.done reply) hCall trivial)

variable {step : System → Option System}

/- A step that waits for the locks it needs. -/
theorem confinedStep_whenPaymentFree
    (paymentId : Uuid)
    (hStep : ConfinedStep tenant.systemFrame own step) :
    ConfinedStep tenant.systemFrame own
      (fun system =>
        if system.paymentFree paymentId then
          step system
        else
          none) := by
  apply hStep.guard (fun system =>
    system.paymentFree paymentId = true)
  intro _ system _ hFree
  exact paymentFree_restrict hFree

theorem confinedStep_whenKeyFree
    (key : ClaimedKey)
    (hStep : ConfinedStep tenant.systemFrame own step) :
    ConfinedStep tenant.systemFrame own
      (fun system =>
        if system.keyFree key then
          step system
        else
          none) := by
  apply hStep.guard (fun system =>
    system.keyFree key = true)
  intro _ system _ hFree
  exact keyFree_restrict hFree

theorem confinedStep_whenFree
    (paymentId : Uuid)
    (key : ClaimedKey)
    (hStep : ConfinedStep tenant.systemFrame own step) :
    ConfinedStep tenant.systemFrame own
      (fun system =>
        if system.paymentFree paymentId &&
            system.keyFree key then
          step system
        else
          none) := by
  apply hStep.guard (fun system =>
    (system.paymentFree paymentId &&
      system.keyFree key) = true)
  intro _ system _ hFree
  rw [Bool.and_eq_true] at hFree ⊢
  exact ⟨paymentFree_restrict hFree.1,
    keyFree_restrict hFree.2⟩

end PayGuard

------------------------------------------------------------
-- Claiming A Key
------------------------------------------------------------

namespace PayGuard

open Confinement

variable {tenant : Tenant}
variable {own : Bool}
variable {call : CallId}
variable {draw : Draw}
variable {merchantId : Uuid}
variable {idempotencyKey fingerprint : String}

theorem OwnsKey.claim
    {keyRow : IdempotencyKey}
    (hKey : tenant.OwnsKey own keyRow) :
    tenant.OwnsClaim own keyRow.claimedKey :=
  ⟨hKey.id, hKey.merchant⟩

/- A claimed row is the merchant's own, new or taken over. -/
theorem ownsKey_of_claim
    {db : Database}
    {keyRow : IdempotencyKey}
    (hSeparated : tenant.Separated db)
    (hMerchant : tenant.isMerchant own merchantId)
    (hDraw : tenant.OwnsDraw own draw)
    (hClaim :
      claimIdempotencyKey db merchantId idempotencyKey
          fingerprint draw =
        some (.claimed keyRow)) :
    tenant.OwnsKey own keyRow := by
  unfold claimIdempotencyKey at hClaim
  cases hFind : db.findKey merchantId idempotencyKey with
  | none =>
      simp only [hFind, Option.some.injEq,
        Claim.claimed.injEq] at hClaim
      subst hClaim
      refine ⟨hDraw.key, hMerchant, ?_⟩
      intro paymentId hPayment
      cases hPayment
  | some existing =>
      have hOwner :=
        ownsKey_of_find hSeparated hMerchant hFind
      simp only [hFind] at hClaim
      split at hClaim
      · cases hClaim
      · cases hClaim
      · cases hClaim
      · split at hClaim
        · simp only [Option.some.injEq,
            Claim.claimed.injEq] at hClaim
          subst hClaim
          refine ⟨hOwner.id, hOwner.merchant, ?_⟩
          intro paymentId hPayment
          cases hPayment
        · cases hClaim

/- A claim ends the call or hands its row to the work. -/
theorem confinedStep_claim
    {work : System → IdempotencyKey → Option System}
    (hCall : tenant.calls call = own)
    (hMerchant : tenant.isMerchant own merchantId)
    (hDraw : tenant.OwnsDraw own draw)
    (hWork :
      ∀ keyRow,
        tenant.OwnsKey own keyRow →
          ConfinedStep tenant.systemFrame own
            (fun system => work system keyRow)) :
    ConfinedStep tenant.systemFrame own
      (fun system =>
        stepClaim system call merchantId idempotencyKey
          fingerprint draw (work system)) := by
  apply ConfinedStep.split
    (fun system : System =>
      (system.calls call,
        claimIdempotencyKey system.db merchantId
          idempotencyKey fingerprint draw))
    (fun seen =>
      ∀ keyRow,
        seen.2 = some (.claimed keyRow) →
          tenant.OwnsKey own keyRow)
  · intro system hApart keyRow hClaim
    exact ownsKey_of_claim hApart.db hMerchant hDraw hClaim
  · rintro rfl system hApart
    refine Prod.ext (mask_apply_of_shown hCall) ?_
    have hFind :=
      findKey_restrict hApart.db idempotencyKey hMerchant
    simp only [claimIdempotencyKey, Tenant.systemFrame,
      Tenant.restrictSystem, hFind]
  · rintro ⟨position, claim⟩ hOwner
    cases position with
    | idle =>
        cases claim with
        | none =>
            refine ⟨_, ConfinedStep.none, ?_⟩
            intro system hSeen
            simp only [Prod.mk.injEq] at hSeen
            simp only [stepClaim, hSeen]
        | some claim =>
            cases claim with
            | claimed keyRow =>
                have hRest := hWork keyRow (hOwner keyRow rfl)
                refine ⟨_, confinedStep_whenKeyFree
                  keyRow.claimedKey hRest, ?_⟩
                intro system hSeen
                simp only [Prod.mk.injEq] at hSeen
                simp only [stepClaim, hSeen]
            | replay keyRow =>
                refine ⟨_, confinedStep_done
                  (.response
                    keyRow.responseStatus
                    keyRow.responseBody) hCall, ?_⟩
                intro system hSeen
                simp only [Prod.mk.injEq] at hSeen
                simp only [stepClaim, hSeen]
            | conflict keyRow =>
                refine ⟨_, confinedStep_done
                  (.raised keyReused) hCall, ?_⟩
                intro system hSeen
                simp only [Prod.mk.injEq] at hSeen
                simp only [stepClaim, hSeen]
            | inProgress keyRow =>
                refine ⟨_, confinedStep_done
                  (.raised requestInProgress) hCall, ?_⟩
                intro system hSeen
                simp only [Prod.mk.injEq] at hSeen
                simp only [stepClaim, hSeen]
    | _ =>
        refine ⟨_, ConfinedStep.none, ?_⟩
        intro system hSeen
        simp only [Prod.mk.injEq] at hSeen
        simp only [stepClaim, hSeen]

end PayGuard

------------------------------------------------------------
-- Creating
------------------------------------------------------------

namespace PayGuard

open Confinement

variable {tenant : Tenant}
variable {own : Bool}
variable {config : Config}
variable {call : CallId}
variable {draw : Draw}

/- A call carries its own payment into a lock. -/
theorem OwnsPayment.loaded
    {intent : PaymentIntent}
    (hIntent : tenant.OwnsPayment own intent) :
    ∀ object,
      some intent = some object →
        tenant.OwnsPayment own object := by
  intro object hObject
  cases hObject
  exact hIntent

/- An exception inside the claimed part of an operation. -/
theorem confined_failing
    (key : ClaimedKey)
    (failure : Failure)
    (hCall : tenant.calls call = own)
    (hClaim : tenant.OwnsClaim own key) :
    ConfinedWrite tenant.systemFrame own
      (fun system =>
        system.become call (.failing key failure)) :=
  confined_become (.failing key failure) hCall hClaim

/- A transaction that ends its call with a response. -/
theorem confinedStep_respond
    {body : Database → Except Failure (Database × Response)}
    {step : System → Option System}
    (key : ClaimedKey)
    (hCall : tenant.calls call = own)
    (hClaim : tenant.OwnsClaim own key)
    (hBody :
      Confined tenant.frame own (fun _ : Response => True)
        body)
    (hError :
      ∀ system failure,
        body system.db = .error failure →
          step system =
            some (system.become call
              (.failing key failure)))
    (hOk :
      ∀ system db response,
        body system.db = .ok (db, response) →
          step system =
            some (system.commit call db
              (.done (.response response.status
                response.body)))) :
    ConfinedStep tenant.systemFrame own step :=
  confinedStep_transact hBody
    (fun failure =>
      confined_failing key failure hCall hClaim)
    (fun response _ =>
      confined_become
        (.done (.response response.status response.body))
        hCall trivial)
    hError hOk

theorem confined_stepCreateBegin
    {request : CreateRequest}
    (hCall : tenant.calls call = own)
    (hMerchant : tenant.isMerchant own request.merchantId)
    (hCreates : tenant.creates own request.idempotencyKey)
    (hDraw : tenant.OwnsDraw own draw) :
    ConfinedStep tenant.systemFrame own
      (fun system =>
        stepCreateBegin config system call request draw) := by
  unfold stepCreateBegin
  apply confinedStep_claim hCall hMerchant hDraw
  intro keyRow hKey
  have hClaim := OwnsKey.claim hKey
  refine confinedStep_transact
    (confined_createInsert config.indexable hMerchant hKey
      hDraw)
    (fun failure =>
      confined_failing keyRow.claimedKey failure hCall
        hClaim)
    (fun intent hIntent =>
      (confined_become
        (.createClaimed request keyRow.claimedKey intent)
        hCall ⟨hMerchant, hCreates, hClaim, hIntent⟩).comp
          (confined_recordOrigin keyRow.claimedKey
            (.payment intent.id) hClaim.merchant)) ?_ ?_
  · intro system failure hRun
    simp only [hRun]
  · intro system db intent hRun
    simp only [hRun]
    rfl

theorem confined_stepCreateProcess
    (hCall : tenant.calls call = own) :
    ConfinedStep tenant.systemFrame own
      (fun system =>
        stepCreateProcess config system call draw) := by
  apply confinedStep_position hCall
  intro position hOwner
  cases position with
  | createClaimed request key intent =>
      have hBody :=
        confined_locked config.lockRead (some intent)
          intent.id
          (fun locked db => createProcess db locked draw)
          hOwner.merchant
          (OwnsPayment.loaded hOwner.intent)
          (Confined.fail _)
          (fun locked hLocked =>
            confined_createProcess hLocked)
      refine ⟨_, ?_, fun system hPosition => by
        simp only [stepCreateProcess, hPosition]
        rfl⟩
      apply confinedStep_whenPaymentFree
      refine confinedStep_transact hBody
        (fun failure =>
          confined_failing key failure hCall hOwner.claim)
        (fun moved hMoved =>
          confined_become
            (.createProcessing request key moved) hCall
            ⟨hOwner.merchant, hOwner.creates,
              hOwner.claim, hMoved⟩) ?_ ?_
      · intro system failure hRun
        simp only [hRun]
      · intro system db moved hRun
        simp only [hRun]
        rfl
  | _ =>
      refine ⟨_, ConfinedStep.none, ?_⟩
      intro system hPosition
      simp only [stepCreateProcess, hPosition]

theorem confined_stepCreateAssess
    (hCall : tenant.calls call = own) :
    ConfinedStep tenant.systemFrame own
      (fun system => stepCreateAssess system call draw) := by
  apply confinedStep_position hCall
  intro position hOwner
  cases position with
  | createProcessing request key intent =>
      refine ⟨_, ?_, fun system hPosition => by
        simp only [stepCreateAssess, hPosition]
        rfl⟩
      have hBody :
          Confined tenant.frame own
            (fun _ : RiskAssessment => True)
            (fun db =>
              (.ok (createAssess db request intent draw) :
                Except Failure
                  (Database × RiskAssessment))) :=
        confined_createAssess hOwner.merchant hOwner.intent
      refine confinedStep_transact hBody
        (fun failure =>
          confined_failing key failure hCall hOwner.claim)
        (fun assessment _ =>
          confined_become
            (.createAssessed request key intent
              assessment.level) hCall hOwner) ?_ ?_
      · intro system failure hRun
        cases hRun
      · intro system db assessment hRun
        cases hRun
        rfl
  | _ =>
      refine ⟨_, ConfinedStep.none, ?_⟩
      intro system hPosition
      simp only [stepCreateAssess, hPosition]

theorem confined_stepCreateBlock
    (hCall : tenant.calls call = own) :
    ConfinedStep tenant.systemFrame own
      (fun system =>
        stepCreateBlock config system call draw) := by
  apply confinedStep_position hCall
  intro position hOwner
  cases position with
  | createAssessed request key intent level =>
      cases level with
      | block =>
          have hBody :=
            confined_locked config.lockRead (some intent)
              intent.id
              (fun locked db =>
                createBlock db locked key.id draw)
              hOwner.merchant
              (OwnsPayment.loaded hOwner.intent)
              (Confined.fail _)
              (fun locked hLocked =>
                confined_createBlock hLocked hOwner.claim.id)
          refine ⟨_, ?_, fun system hPosition => by
            simp only [stepCreateBlock, hPosition]
            rfl⟩
          apply confinedStep_whenFree
          apply confinedStep_respond key hCall hOwner.claim
            hBody
          · intro system failure hRun
            simp only [hRun]
          · intro system db response hRun
            simp only [hRun]
      | _ =>
          refine ⟨_, ConfinedStep.none, ?_⟩
          intro system hPosition
          simp only [stepCreateBlock, hPosition]
  | _ =>
      refine ⟨_, ConfinedStep.none, ?_⟩
      intro system hPosition
      simp only [stepCreateBlock, hPosition]

theorem confined_stepCreateAuthorize
    {result : ProviderResult}
    (hCall : tenant.calls call = own)
    (hResult : tenant.OwnsResult own result) :
    ConfinedStep tenant.systemFrame own
      (fun system =>
        stepCreateAuthorize system call result) := by
  apply confinedStep_position hCall
  intro position hOwner
  cases position with
  | createAssessed request key intent level =>
      by_cases hLevel : level = .block
      · refine ⟨_, ConfinedStep.none, ?_⟩
        intro system hPosition
        simp only [stepCreateAuthorize, hPosition, hLevel,
          if_true]
      · refine ⟨_, ?_, fun system hPosition => by
          simp only [stepCreateAuthorize, hPosition, hLevel,
            if_false]
          rfl⟩
        exact ConfinedStep.write
          ((confined_become
            (.createAuthorized request key intent result)
            hCall ⟨hOwner, hResult⟩).comp
              (confined_observe
                (.authorize intent.id
                  { amountMinor := request.amountMinor
                    currency := request.currency
                    token := request.paymentToken
                    idempotencyKey :=
                      request.idempotencyKey } result)
                hOwner.intent.id))
  | _ =>
      refine ⟨_, ConfinedStep.none, ?_⟩
      intro system hPosition
      simp only [stepCreateAuthorize, hPosition]

theorem confined_stepCreateFinish
    (hCall : tenant.calls call = own)
    (hDraw : tenant.OwnsDraw own draw) :
    ConfinedStep tenant.systemFrame own
      (fun system =>
        stepCreateFinish config system call draw) := by
  apply confinedStep_position hCall
  intro position hOwner
  cases position with
  | createAuthorized request key intent result =>
      have hCreate := hOwner.1
      have hBody :=
        confined_locked config.lockRead (some intent)
          intent.id
          (fun locked db =>
            createFinish db locked key.id
              config.providerName result draw)
          hCreate.merchant
          (OwnsPayment.loaded hCreate.intent)
          (Confined.fail _)
          (fun locked hLocked =>
            confined_createFinish hLocked hCreate.claim.id
              hOwner.2 hDraw)
      refine ⟨_, ?_, fun system hPosition => by
        simp only [stepCreateFinish, hPosition]
        rfl⟩
      apply confinedStep_whenFree
      apply confinedStep_respond key hCall hCreate.claim
        hBody
      · intro system failure hRun
        simp only [hRun]
      · intro system db response hRun
        simp only [hRun]
  | _ =>
      refine ⟨_, ConfinedStep.none, ?_⟩
      intro system hPosition
      simp only [stepCreateFinish, hPosition]

end PayGuard

------------------------------------------------------------
-- Capturing
------------------------------------------------------------

namespace PayGuard

open Confinement

variable {tenant : Tenant}
variable {own : Bool}
variable {config : Config}
variable {call : CallId}
variable {draw : Draw}

/- What the check of a capture leads to. -/
def captureOutcome
    (call : CallId)
    (request : CaptureRequest)
    (keyRow : IdempotencyKey) :
    CaptureCheck → System → System
| .settled intent, system =>
    let settled := captureSettled system.db intent keyRow
    system.commit call settled.1
      (.done (.response settled.2.status settled.2.body))
| .callProvider intent transaction, system =>
    { system.become call
        (.captureOpen request keyRow intent transaction) with
      paymentLock :=
        Function.update system.paymentLock intent.id
          (some call)
      keyLock :=
        Function.update system.keyLock
          (keyRow.merchantId, keyRow.idempotencyKey)
          (some call) }

theorem confined_captureOutcome
    {keyRow : IdempotencyKey}
    (request : CaptureRequest)
    (check : CaptureCheck)
    (hCall : tenant.calls call = own)
    (hKey : tenant.OwnsKey own keyRow)
    (hCheck : tenant.OwnsPayment own check.payment) :
    ConfinedWrite tenant.systemFrame own
      (captureOutcome call request keyRow check) := by
  cases check with
  | settled intent =>
      exact (confined_onRows
        (confined_captureSettled hCheck hKey)).comp
          (confined_become
            (.done (.response (some 200)
              (some (serializePayment intent))))
            hCall trivial)
  | callProvider intent transaction =>
      exact (confined_become
        (.captureOpen request keyRow intent transaction)
        hCall ⟨hKey, hCheck⟩).comp
          (confined_hold intent.id
            (keyRow.merchantId, keyRow.idempotencyKey) hCall
            hCheck.id hKey.merchant)

theorem confined_stepCaptureBegin
    {request : CaptureRequest}
    (hCall : tenant.calls call = own)
    (hMerchant : tenant.isMerchant own request.merchantId)
    (hDraw : tenant.OwnsDraw own draw) :
    ConfinedStep tenant.systemFrame own
      (fun system =>
        stepCaptureBegin config system call request
          draw) := by
  unfold stepCaptureBegin
  apply confinedStep_claim hCall hMerchant hDraw
  intro keyRow hKey
  have hBody :=
    confined_locked config.lockRead none request.paymentId
      (fun locked db =>
        (captureCheck db locked request.paymentId).map
          (fun check => (db, check)))
      hMerchant
      (fun object hObject => by cases hObject)
      (Confined.fail _)
      (fun locked hLocked => confined_captureCheck hLocked)
  apply confinedStep_whenPaymentFree
  refine confinedStep_transact hBody
    (fun failure =>
      confined_failing keyRow.claimedKey failure hCall
        (OwnsKey.claim hKey))
    (fun check hCheck =>
      confined_captureOutcome request check hCall hKey
        hCheck) ?_ ?_
  · intro system failure hRun
    cases hCheck :
        captureCheck system.db
          (lockPayment config.lockRead system.db none
            request.paymentId request.merchantId)
          request.paymentId with
    | error other =>
        simp only [hCheck, Except.map] at hRun
        cases hRun
        rfl
    | ok check =>
        simp only [hCheck, Except.map] at hRun
        cases hRun
  · intro system db check hRun
    cases hCheck :
        captureCheck system.db
          (lockPayment config.lockRead system.db none
            request.paymentId request.merchantId)
          request.paymentId with
    | error other =>
        simp only [hCheck, Except.map] at hRun
        cases hRun
    | ok check =>
        simp only [hCheck, Except.map] at hRun
        cases hRun
        cases check <;> rfl

theorem confined_stepCaptureFinish
    {result : ProviderResult}
    (hCall : tenant.calls call = own) :
    ConfinedStep tenant.systemFrame own
      (fun system =>
        stepCaptureFinish system call result draw) := by
  apply confinedStep_position hCall
  intro position hOwner
  cases position with
  | captureOpen request keyRow intent transaction =>
      have hAnswered :
          ConfinedWrite tenant.systemFrame own
            (fun system =>
              (system.release call).observe
                (.capture intent.id
                  transaction.providerTransactionId
                  intent.amountMinor result)) :=
        (confined_release hCall).comp
          (confined_observe
            (.capture intent.id
              transaction.providerTransactionId
              intent.amountMinor result) hOwner.2.id)
      refine ⟨_, ?_, fun system hPosition => by
        simp only [stepCaptureFinish, hPosition]
        rfl⟩
      have hBody :
          Confined tenant.frame own
            (fun _ : Response => True)
            (fun db =>
              captureFinish db intent keyRow result draw) :=
        confined_captureFinish hOwner.2 hOwner.1
      apply ConfinedStep.guard (fun system : System =>
        system.db.AdmitsKey keyRow)
      · refine confinedStep_transact hBody
          (fun failure =>
            hAnswered.comp
              (confined_failing keyRow.claimedKey failure
                hCall (OwnsKey.claim hOwner.1)))
          (fun response _ =>
            hAnswered.comp
              (confined_become
                (.done (.response response.status
                  response.body)) hCall trivial)) ?_ ?_
        · intro system failure hRun
          simp only [hRun]
        · intro system db response hRun
          simp only [hRun]
          rfl
      · intro _ system _ hAdmits row hRow
        exact hAdmits row (List.mem_of_mem_filter hRow)
  | _ =>
      refine ⟨_, ConfinedStep.none, ?_⟩
      intro system hPosition
      simp only [stepCaptureFinish, hPosition]

end PayGuard

------------------------------------------------------------
-- Refunding
------------------------------------------------------------

namespace PayGuard

open Confinement

variable {tenant : Tenant}
variable {own : Bool}
variable {config : Config}
variable {call : CallId}
variable {draw : Draw}

theorem confined_stepRefundBegin
    {request : RefundRequest}
    (hCall : tenant.calls call = own)
    (hMerchant : tenant.isMerchant own request.merchantId)
    (hDraw : tenant.OwnsDraw own draw) :
    ConfinedStep tenant.systemFrame own
      (fun system =>
        stepRefundBegin config system call request
          draw) := by
  unfold stepRefundBegin
  apply confinedStep_claim hCall hMerchant hDraw
  intro keyRow hKey
  have hClaim := OwnsKey.claim hKey
  have hBody :=
    confined_locked config.lockRead none request.paymentId
      (fun locked db =>
        refundReserve db locked request keyRow draw)
      hMerchant
      (fun object hObject => by cases hObject)
      (Confined.fail _)
      (fun locked hLocked =>
        confined_refundReserve hLocked hKey hDraw)
  apply confinedStep_whenPaymentFree
  refine confinedStep_transact hBody
    (fun failure =>
      confined_failing keyRow.claimedKey failure hCall
        hClaim)
    (fun reservation hReservation =>
      (confined_become
        (.refundReserved request keyRow.claimedKey
          reservation)
        hCall ⟨hMerchant, hClaim, hReservation⟩).comp
          (confined_recordOrigin keyRow.claimedKey
            (.refund reservation.refund.id)
            hClaim.merchant)) ?_ ?_
  · intro system failure hRun
    simp only [hRun]
  · intro system db reservation hRun
    simp only [hRun]
    rfl

theorem confined_stepRefundAnswer
    {result : ProviderResult}
    {executed : Bool}
    (hCall : tenant.calls call = own) :
    ConfinedStep tenant.systemFrame own
      (fun system =>
        stepRefundAnswer system call result executed) := by
  apply confinedStep_position hCall
  intro position hOwner
  cases position with
  | refundReserved request key reservation =>
      cases hExecutes :
          result.outcome.mayExecute executed with
      | false =>
          refine ⟨_, ConfinedStep.none, ?_⟩
          intro system hPosition
          simp [stepRefundAnswer, hPosition, hExecutes]
      | true =>
          refine ⟨_, ?_, fun system hPosition => by
            simp only [stepRefundAnswer, hPosition,
              hExecutes, if_true]
            rfl⟩
          exact ConfinedStep.write
            ((confined_become
              (.refundAnswered request key reservation
                result) hCall hOwner).comp
                (confined_observe
                  (.refund reservation.refund.paymentIntentId
                    reservation.refund.id
                    reservation.transaction.providerTransactionId
                    reservation.refund.amountMinor
                    request.idempotencyKey result executed)
                  hOwner.reservation.payment))
  | _ =>
      refine ⟨_, ConfinedStep.none, ?_⟩
      intro system hPosition
      simp only [stepRefundAnswer, hPosition]

theorem confined_stepRefundFinish
    (hCall : tenant.calls call = own) :
    ConfinedStep tenant.systemFrame own
      (fun system =>
        stepRefundFinish config system call draw) := by
  apply confinedStep_position hCall
  intro position hOwner
  cases position with
  | refundAnswered request key reservation result =>
      have hBody :=
        confined_locked config.lockRead
          (some reservation.intent) request.paymentId
          (fun locked db =>
            refundFinalize db locked reservation.refund
              key.id result draw)
          hOwner.merchant
          (OwnsPayment.loaded hOwner.reservation.intent)
          (Confined.fail _)
          (fun locked hLocked =>
            confined_refundFinalize hLocked
              hOwner.reservation.refund hOwner.claim.id)
      refine ⟨_, ?_, fun system hPosition => by
        simp only [stepRefundFinish, hPosition]
        rfl⟩
      apply confinedStep_whenFree
      apply confinedStep_respond key hCall hOwner.claim
        hBody
      · intro system failure hRun
        simp only [hRun]
      · intro system db response hRun
        simp only [hRun]
  | _ =>
      refine ⟨_, ConfinedStep.none, ?_⟩
      intro system hPosition
      simp only [stepRefundFinish, hPosition]

end PayGuard

------------------------------------------------------------
-- Reconciling
------------------------------------------------------------

namespace PayGuard

open Confinement

variable {tenant : Tenant}
variable {own : Bool}
variable {config : Config}
variable {call : CallId}
variable {draw : Draw}
variable {merchantId : Uuid}

theorem confined_stepReconcileLoad
    {paymentId : Uuid}
    (hCall : tenant.calls call = own)
    (hMerchant : tenant.isMerchant own merchantId) :
    ConfinedStep tenant.systemFrame own
      (fun system =>
        stepReconcileLoad system call paymentId
          merchantId) := by
  apply ConfinedStep.split
    (fun system : System =>
      (system.calls call,
        system.db.selectPayment paymentId merchantId))
    (fun seen =>
      ∀ intent,
        seen.2 = some intent →
          tenant.OwnsPayment own intent)
  · intro system hApart intent hSelect
    exact ownsPayment_of_select hApart.db hMerchant hSelect
  · rintro rfl system hApart
    exact Prod.ext (mask_apply_of_shown hCall)
      (selectPayment_restrict hApart.db paymentId hMerchant)
  · rintro ⟨position, selected⟩ hOwner
    cases position with
    | idle =>
        cases selected with
        | none =>
            refine ⟨_, ConfinedStep.none, ?_⟩
            intro system hSeen
            simp only [Prod.mk.injEq] at hSeen
            simp only [stepReconcileLoad, hSeen]
        | some intent =>
            have hIntent := hOwner intent rfl
            refine ⟨_, ?_, fun system hSeen => by
              simp only [Prod.mk.injEq] at hSeen
              simp only [stepReconcileLoad, hSeen]
              rfl⟩
            apply ConfinedStep.guard (fun _ : System =>
              intent.status = .unknown)
            · exact ConfinedStep.write
                (confined_become (.reconcileLoaded intent)
                  hCall hIntent)
            · intro _ _ _ hStatus
              exact hStatus
    | _ =>
        refine ⟨_, ConfinedStep.none, ?_⟩
        intro system hSeen
        simp only [Prod.mk.injEq] at hSeen
        simp only [stepReconcileLoad, hSeen]

theorem ownsCall_position
    {check : ReconcileCheck}
    (hCheck : tenant.OwnsCheck own check) :
    tenant.OwnsCall own check.position := by
  cases check with
  | report report => exact hCheck
  | ask intent key => exact hCheck

theorem confined_reconcileLock
    {loaded : Option PaymentIntent}
    {paymentId pick : Uuid}
    (hCall : tenant.calls call = own)
    (hMerchant : tenant.isMerchant own merchantId)
    (hLoaded :
      ∀ object,
        loaded = some object →
          tenant.OwnsPayment own object) :
    ConfinedStep tenant.systemFrame own
      (fun system =>
        reconcileLock config system call loaded paymentId
          merchantId pick) := by
  have hBody :=
    confined_locked config.lockRead loaded paymentId
      (fun locked db =>
        (reconcileCheck db locked paymentId pick).map
          (fun check => (db, check)))
      hMerchant hLoaded
      (Confined.fail _)
      (fun locked hLocked => confined_reconcileCheck hLocked)
  unfold reconcileLock
  apply confinedStep_whenPaymentFree
  refine confinedStep_transact hBody
    (fun failure =>
      confined_become (.done (.raised failure)) hCall
        trivial)
    (fun check hCheck =>
      confined_become check.position hCall
        (ownsCall_position hCheck)) ?_ ?_
  · intro system failure hRun
    cases hCheck :
        reconcileCheck system.db
          (lockPayment config.lockRead system.db loaded
            paymentId merchantId)
          paymentId pick with
    | error other =>
        simp only [hCheck, Except.map] at hRun
        cases hRun
        rfl
    | ok check =>
        simp only [hCheck, Except.map] at hRun
        cases hRun
  · intro system db check hRun
    cases hCheck :
        reconcileCheck system.db
          (lockPayment config.lockRead system.db loaded
            paymentId merchantId)
          paymentId pick with
    | error other =>
        simp only [hCheck, Except.map] at hRun
        cases hRun
    | ok check =>
        simp only [hCheck, Except.map] at hRun
        cases hRun
        cases check <;> rfl

theorem confined_stepReconcileNext
    {pick : Uuid}
    (hCall : tenant.calls call = own) :
    ConfinedStep tenant.systemFrame own
      (fun system =>
        stepReconcileNext config system call pick) := by
  apply confinedStep_position hCall
  intro position hOwner
  cases position with
  | reconcileLoaded intent =>
      have hIntent : tenant.OwnsPayment own intent := hOwner
      refine ⟨_, ?_, fun system hPosition => by
        simp only [stepReconcileNext, hPosition]
        rfl⟩
      exact confined_reconcileLock hCall hIntent.merchant
        (OwnsPayment.loaded hIntent)
  | _ =>
      refine ⟨_, ConfinedStep.none, ?_⟩
      intro system hPosition
      simp only [stepReconcileNext, hPosition]

theorem confined_stepReconcileAnswer
    {result : ProviderResult}
    (hCall : tenant.calls call = own)
    (hResult : tenant.OwnsResult own result) :
    ConfinedStep tenant.systemFrame own
      (fun system =>
        stepReconcileAnswer system call result) := by
  apply confinedStep_position hCall
  intro position hOwner
  cases position with
  | reconcileAsking intent key =>
      have hIntent : tenant.OwnsPayment own intent := hOwner
      refine ⟨_, ?_, fun system hPosition => by
        simp only [stepReconcileAnswer, hPosition]
        rfl⟩
      exact ConfinedStep.write
        ((confined_become (.reconcileAnswered intent result)
          hCall ⟨hIntent, hResult⟩).comp
            (confined_observe (.lookup intent.id key result)
              hIntent.id))
  | _ =>
      refine ⟨_, ConfinedStep.none, ?_⟩
      intro system hPosition
      simp only [stepReconcileAnswer, hPosition]

theorem confined_stepReconcileApply
    (hCall : tenant.calls call = own)
    (hDraw : tenant.OwnsDraw own draw) :
    ConfinedStep tenant.systemFrame own
      (fun system =>
        stepReconcileApply config system call draw) := by
  apply confinedStep_position hCall
  intro position hOwner
  cases position with
  | reconcileAnswered intent result =>
      have hBody :=
        confined_locked config.lockRead (some intent)
          intent.id
          (fun locked db =>
            reconcileApply db locked config.providerName
              result draw)
          hOwner.1.merchant
          (OwnsPayment.loaded hOwner.1)
          (Confined.fail _)
          (fun locked hLocked =>
            confined_reconcileApply hLocked hOwner.2 hDraw)
      refine ⟨_, ?_, fun system hPosition => by
        simp only [stepReconcileApply, hPosition]
        rfl⟩
      apply confinedStep_whenPaymentFree
      refine confinedStep_transact hBody
        (fun failure =>
          confined_become (.done (.raised failure)) hCall
            trivial)
        (fun report hReport =>
          confined_become (.reconcileReporting report)
            hCall hReport) ?_ ?_
      · intro system failure hRun
        simp only [hRun]
      · intro system db report hRun
        simp only [hRun]
        rfl
  | _ =>
      refine ⟨_, ConfinedStep.none, ?_⟩
      intro system hPosition
      simp only [stepReconcileApply, hPosition]

theorem confined_stepReconcileReport
    (hCall : tenant.calls call = own) :
    ConfinedStep tenant.systemFrame own
      (fun system => stepReconcileReport system call) := by
  apply confinedStep_position hCall
  intro position hOwner
  cases position with
  | reconcileReporting report =>
      refine ⟨_, ?_, fun system hPosition => by
        simp only [stepReconcileReport, hPosition]
        rfl⟩
      exact ConfinedStep.write
        ((confined_onRows (confined_writeReport hOwner)).comp
          (confined_become (.done (.report report)) hCall
            trivial))
  | _ =>
      refine ⟨_, ConfinedStep.none, ?_⟩
      intro system hPosition
      simp only [stepReconcileReport, hPosition]

end PayGuard

------------------------------------------------------------
-- Failing
------------------------------------------------------------

namespace PayGuard

open Confinement

variable {tenant : Tenant}
variable {own : Bool}
variable {call : CallId}

/- The key row is read back by an id of this side. -/
theorem confined_stepFailRead
    (hCall : tenant.calls call = own) :
    ConfinedStep tenant.systemFrame own
      (fun system => stepFailRead system call) := by
  apply confinedStep_position hCall
  intro position hOwner
  cases position with
  | failing key failure =>
      have hClaim : tenant.OwnsClaim own key := hOwner
      refine ⟨_, ?_, fun system hPosition => by
        simp only [stepFailRead, hPosition]
        rfl⟩
      apply ConfinedStep.split
        (fun system : System => system.db.getKey key.id)
        (fun _ => True)
      · intro _ _
        trivial
      · rintro rfl system _
        exact getKey_restrict hClaim.id
      · intro found _
        cases found with
        | none =>
            refine ⟨_, confinedStep_done (.raised failure)
              hCall, ?_⟩
            intro system hFound
            simp only [hFound]
        | some keyRow =>
            by_cases hPending : keyRow.status = .pending
            · refine ⟨_, ConfinedStep.write
                (confined_become (.failureSeen key failure)
                  hCall hClaim), ?_⟩
              intro system hFound
              simp only [hFound, hPending, if_true]
            · refine ⟨_, confinedStep_done (.raised failure)
                hCall, ?_⟩
              intro system hFound
              simp only [hFound, hPending, if_false]
  | _ =>
      refine ⟨_, ConfinedStep.none, ?_⟩
      intro system hPosition
      simp only [stepFailRead, hPosition]

theorem confined_stepFailWrite
    (hCall : tenant.calls call = own) :
    ConfinedStep tenant.systemFrame own
      (fun system => stepFailWrite system call) := by
  apply confinedStep_position hCall
  intro position hOwner
  cases position with
  | failureSeen key failure =>
      have hClaim : tenant.OwnsClaim own key := hOwner
      refine ⟨_, ?_, fun system hPosition => by
        simp only [stepFailWrite, hPosition]
        rfl⟩
      apply confinedStep_whenKeyFree
      exact ConfinedStep.write
        ((confined_onRows
          (confined_failIdempotencyKey hClaim.id)).comp
            (confined_become (.done (.raised failure)) hCall
              trivial))
  | _ =>
      refine ⟨_, ConfinedStep.none, ?_⟩
      intro system hPosition
      simp only [stepFailWrite, hPosition]

/- A step whose uuids are fresh stays so in a view. -/
theorem confined_step
    {config : Config}
    {draw : Draw}
    {action : Action}
    (hStep :
      ConfinedStep tenant.systemFrame own
        (fun system =>
          callStep config system call draw action)) :
    ConfinedStep tenant.systemFrame own
      (fun system =>
        step config system ⟨call, action, draw⟩) := by
  apply hStep.guard (fun system : System =>
    system.db.Admits draw)
  intro _ system _ hAdmits
  simp only [Database.Admits, List.mem_map, not_exists,
    not_and] at hAdmits
  simp only [Tenant.systemFrame, Tenant.restrictSystem,
    Tenant.restrict, Database.Admits, List.mem_map,
    List.mem_filter, not_exists, not_and, and_imp]
  exact ⟨fun row hRow _ => hAdmits.1 row hRow,
    fun row hRow _ => hAdmits.2.1 row hRow,
    fun row hRow _ => hAdmits.2.2.1 row hRow,
    fun row hRow _ => hAdmits.2.2.2.1 row hRow,
    fun row hRow _ => hAdmits.2.2.2.2.1 row hRow,
    fun row hRow => absurd hRow List.not_mem_nil,
    fun row hRow _ => hAdmits.2.2.2.2.2.2 row hRow⟩

end PayGuard

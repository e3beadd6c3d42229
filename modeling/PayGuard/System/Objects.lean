import PayGuard.System.Reservations

/-
  The payment objects the sessions hold.

  A session keeps the object it read and gets it back from
  its next lock.  The object always names a stored payment
  and its amount.  Where the operations run one after the
  other it is the stored row itself.

  Key definitions include:
    * `Call.object`
    * `ObjectsOnFile`
    * `LocksStored`
    * `OneAtATime`

  Key theorems include:
    * `Effect.object_origin`
    * `objectsOnFile_effect`
    * `locksStored_of_oneAtATime`
-/

------------------------------------------------------------
-- Held Objects
------------------------------------------------------------

namespace PayGuard

/- The payment object of a service call between two steps. -/
def Call.object : Call → Option PaymentIntent
| .createClaimed _ _ intent => some intent
| .createProcessing _ _ intent => some intent
| .createAssessed _ _ intent _ => some intent
| .createAuthorized _ _ intent _ => some intent
| .captureOpen _ _ intent _ => some intent
| .refundReserved _ _ reservation =>
    some reservation.intent
| .refundAnswered _ _ reservation _ =>
    some reservation.intent
| .reconcileLoaded intent => some intent
| .reconcileAsking intent _ => some intent
| .reconcileAnswered intent _ => some intent
| _ => none

/-
  Where the object of a step comes from: it is a row on
  file, or it goes back to the object held before.
-/
inductive ObjectOrigin
    (system : System)
    (call : CallId)
    (object : PaymentIntent)
    (next : System) : Prop where
| stored (hRow : object ∈ next.db.payments)
| kept
    (held : PaymentIntent)
    (hHeld : (system.calls call).object = some held)
    (hId : object.id = held.id)
    (hAmount : object.amountMinor = held.amountMinor)
    (hRow :
      held ∈ system.db.payments →
        object ∈ next.db.payments)

variable {config : Config}
variable {system next : System}
variable {call : CallId}
variable {draw : Draw}
variable {action : Action}
variable {object : PaymentIntent}

theorem ObjectOrigin.of_same
    (hPayments : next.db.payments = system.db.payments)
    (hHeld : (system.calls call).object = some object) :
    ObjectOrigin system call object next :=
  .kept object hHeld rfl rfl (fun hRow => by
    rwa [hPayments])

/- A moved object is on file where the object was. -/
theorem mem_recordTransition
    {db : Database}
    {intent : PaymentIntent}
    (toStatus : PaymentStatus)
    (actor : Actor)
    (eventType : String)
    (hRow : intent ∈ db.payments) :
    intent.moveTo toStatus ∈
      (db.recordTransition intent toStatus actor eventType
        draw).payments := by
  apply Table.mem_updateWhere.mpr
  refine ⟨intent, hRow, ?_⟩
  simp [flushPayment_self]

/- A lock yields a stored row or the object held. -/
theorem lockPayment_stored_or_held
    {db : Database}
    {lockRead : LockRead}
    {held intent : PaymentIntent}
    {paymentId merchantId : Uuid}
    (hLocked :
      lockPayment lockRead db (some held) paymentId
        merchantId = some intent) :
    intent ∈ db.payments ∨ intent = held := by
  rcases lockPayment_eq_some hLocked with
    ⟨row, hSelect, rfl | hHeld⟩
  · exact .inl (selectPayment_eq_some hSelect).1
  · cases hHeld
    exact .inr rfl

/- A check asks about the payment that was locked. -/
theorem reconcileCheck_object
    {db : Database}
    {locked : Option PaymentIntent}
    {paymentId pick : Uuid}
    {check : ReconcileCheck}
    (hCheck :
      reconcileCheck db locked paymentId pick = .ok check)
    (hObject : check.position.object = some object) :
    locked = some object := by
  unfold reconcileCheck at hCheck
  cases locked with
  | none => cases hCheck
  | some intent =>
      simp only at hCheck
      split at hCheck
      · cases hCheck
        cases hObject
      · split at hCheck
        · cases hCheck
          cases hObject
        · cases hCheck
          cases hObject
          rfl

/- A turn keeps the object, or reads it from its table. -/
theorem Turn.object_origin
    {position : Call}
    (hTurn : Turn config system call draw action position)
    (hObject : position.object = some object) :
    object ∈ system.db.payments ∨
      (system.calls call).object = some object := by
  cases hTurn with
  | authorized hCall hLevel =>
      rw [hCall]
      exact .inr hObject
  | loaded hSelect hStatus =>
      cases hObject
      exact .inl (selectPayment_eq_some hSelect).1
  | begun hCheck =>
      have hSelect := reconcileCheck_object hCheck hObject
      exact .inl (selectPayment_eq_some hSelect).1
  | continued hCall hCheck =>
      have hLocked := reconcileCheck_object hCheck hObject
      rcases lockPayment_stored_or_held hLocked with
        hRow | rfl
      · exact .inl hRow
      · rw [hCall]
        exact .inr rfl
  | answered hCall =>
      rw [hCall]
      exact .inr hObject
  | _ => cases hObject

/- Entering `REFUND_PENDING` keeps the object on file. -/
theorem mem_enterRefundPending
    {db db' : Database}
    {intent moved : PaymentIntent}
    (hEnter :
      enterRefundPending db intent draw =
        .ok (db', moved))
    (hRow : intent ∈ db.payments) :
    moved ∈ db'.payments := by
  unfold enterRefundPending at hEnter
  split at hEnter
  · cases hEnter
    exact hRow
  · rcases applyTransition_eq_ok.mp hEnter with
      ⟨_, rfl, rfl⟩
    exact mem_recordTransition _ _ _ hRow

theorem Effect.object_origin
    (hEffect :
      Effect config system call draw action next)
    (hObject : (next.calls call).object = some object) :
    ObjectOrigin system call object next := by
  cases hEffect with
  | quiet hQuiet hTurn =>
      rcases hTurn.object_origin hObject with hRow | hSame
      · exact .stored (by rwa [hQuiet.db])
      · exact .of_same (by rw [hQuiet.db]) hSame
  | createInsert hClaims hBody =>
      rcases createInsert_eq_ok hBody with ⟨_, _, rfl⟩
      simp only [System.recordOrigin_calls,
        System.commit_calls_self] at hObject
      cases hObject
      exact .stored (List.mem_append_right _
        (List.mem_singleton_self _))
  | createProcess hCall hFree hBody =>
      rcases createProcess_eq_ok hBody with
        ⟨intent, hLocked, hApply⟩
      rcases applyTransition_eq_ok.mp hApply with
        ⟨_, rfl, rfl⟩
      rw [System.commit_calls_self] at hObject
      cases hObject
      rcases lockPayment_stored_or_held hLocked with
        hRow | rfl
      · exact .stored (mem_recordTransition _ _ _ hRow)
      · refine .kept intent (by rw [hCall]; rfl) rfl rfl ?_
        exact mem_recordTransition _ _ _
  | createAssess hCall =>
      rw [System.commit_calls_self] at hObject
      exact .of_same rfl (by rw [hCall]; exact hObject)
  | captureOpen hClaims hFree hSelect _ _ =>
      simp only [System.become_calls_self] at hObject
      cases hObject
      exact .stored (selectPayment_eq_some hSelect).1
  | refundReserve hClaims hFree hBody =>
      rcases refundReserve_eq_ok hBody with
        ⟨intent, hSelect, _, _, _, _, _, hEnter⟩
      simp only [System.recordOrigin_calls,
        System.commit_calls_self] at hObject
      cases hObject
      have hRow := (selectPayment_eq_some hSelect).1
      rcases putKey_eq system.db _ with ⟨keys, hKeys⟩
      rw [hKeys] at hEnter
      exact .stored (mem_enterRefundPending hEnter hRow)
  | refundAnswer hCall hExecuted =>
      rw [System.observe_calls, System.become_calls_self]
        at hObject
      exact .of_same rfl (by rw [hCall]; exact hObject)
  | _ =>
      simp only [System.commit_calls_self] at hObject
      cases hObject

end PayGuard

------------------------------------------------------------
-- Payments And Amounts
------------------------------------------------------------

namespace PayGuard

/- Every object names a stored payment and its amount. -/
def ObjectsOnFile (system : System) : Prop :=
  ∀ call object,
    (system.calls call).object = some object →
      ∃ row ∈ system.db.payments,
        row.id = object.id ∧
          row.amountMinor = object.amountMinor

variable {config : Config}
variable {system next : System}
variable {call : CallId}
variable {draw : Draw}
variable {action : Action}

theorem objectsOnFile_initial : ObjectsOnFile {} := by
  intro call object hObject
  cases hObject

theorem objectsOnFile_effect
    (hHeld : Held system)
    (hFile : ObjectsOnFile system)
    (hAdmits : system.db.Admits draw)
    (hEffect :
      Effect config system call draw action next) :
    ObjectsOnFile next := by
  have hTrail := hEffect.trailStep hHeld.captures hAdmits
  have hStays :
      ∀ other object,
        (system.calls other).object = some object →
          ∃ row ∈ next.db.payments,
            row.id = object.id ∧
              row.amountMinor = object.amountMinor := by
    intro other object hObject
    rcases hFile other object hObject with
      ⟨row, hRow, hId, hAmount⟩
    rcases hTrail.exists_kept hRow with
      ⟨kept, hKept, hSameId, _, hSameAmount⟩
    exact ⟨kept, hKept, hSameId.trans hId,
      hSameAmount.trans hAmount⟩
  intro other object hObject
  by_cases hOther : other = call
  · subst hOther
    cases hEffect.object_origin hObject with
    | stored hRow => exact ⟨object, hRow, rfl, rfl⟩
    | kept held hBefore hId hAmount hKeep =>
        rcases hStays other held hBefore with
          ⟨row, hRow, hRowId, hRowAmount⟩
        exact ⟨row, hRow, hRowId.trans hId.symm,
          hRowAmount.trans hAmount.symm⟩
  · rw [hEffect.frame.calls other hOther] at hObject
    exact hStays other object hObject

end PayGuard

------------------------------------------------------------
-- Locking A Payment Again
------------------------------------------------------------

namespace PayGuard

/- The transactions on a payment the session holds. -/
def Action.relocks : Action → Bool
| .createProcess => true
| .createBlock => true
| .createFinish => true
| .refundFinish => true
| .reconcileApply => true
| _ => false

/- A lock that yields the held object yields no old status. -/
def LocksStored
    (config : Config)
    (system : System)
    (label : Label) : Prop :=
  config.lockRead = .identityMap →
    label.action.relocks = true →
      ∀ object ∈ (system.calls label.call).object,
        ∀ row ∈ system.db.payments,
          row.id = object.id → row.status = object.status

instance
    (config : Config)
    (system : System)
    (label : Label) :
    Decidable (LocksStored config system label) := by
  unfold LocksStored
  infer_instance

/- Nobody else is in the middle of an operation. -/
def OneAtATime
    (system : System)
    (label : Label) : Prop :=
  ∀ other,
    other ≠ label.call →
      (system.calls other).object = none

/- Every object is the row of its payment. -/
def ObjectsStored (system : System) : Prop :=
  ∀ call object,
    (system.calls call).object = some object →
      object ∈ system.db.payments

variable {config : Config}
variable {system next : System}
variable {label : Label}
variable {labels : List Label}

theorem objectsStored_step
    (hStored : ObjectsStored system)
    (hAlone : OneAtATime system label)
    (hStep : step config system label = some next) :
    ObjectsStored next := by
  rcases step_effect hStep with ⟨_, hEffect⟩
  intro other object hObject
  by_cases hOther : other = label.call
  · subst hOther
    cases hEffect.object_origin hObject with
    | stored hRow => exact hRow
    | kept held hBefore hId hAmount hKeep =>
        exact hKeep (hStored _ held hBefore)
  · rw [hEffect.frame.calls other hOther,
      hAlone other hOther] at hObject
    cases hObject

/-
  Operations that run one after the other lock the payments
  as they are stored.
-/
theorem locksStored_of_oneAtATime
    (hAlone : Lts.Meets (step config) OneAtATime {} labels) :
    Lts.Meets (step config) (LocksStored config) {}
      labels := by
  have hKeep :
      ∀ before label after,
        Held before ∧ ObjectsStored before →
          OneAtATime before label →
            step config before label = some after →
              Held after ∧ ObjectsStored after := by
    rintro before label after ⟨hHeld, hStored⟩ hHere hStep
    exact ⟨held_step hHeld hStep,
      objectsStored_step hStored hHere hStep⟩
  refine hAlone.imp hKeep ?_ ⟨held_initial, ?_⟩
  · rintro before label ⟨hHeld, hStored⟩ _ _ _ object
      hObject row hRow hId
    have hSame : row = object :=
      List.inj_on_of_nodup_map hHeld.paymentIds hRow
        (hStored label.call object hObject) hId
    rw [hSame]
  · intro call object hObject
    cases hObject

end PayGuard

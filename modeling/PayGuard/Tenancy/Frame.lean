import PayGuard.Invariants.OneEffect
import PayGuard.Tenancy.Rows

/-
  The tenant frame.

  A call made with one merchant changes no row of another
  and answers with rows of its own.  Between its commits a
  call remembers a payment, a key row and perhaps a refund;
  the invariant says that all of them are its merchant's,
  whatever the other calls do meanwhile.

  Key definitions include:
    * `Call.Within`
    * `Undrawn`
    * `Serves`
    * `Tenanted`

  Key theorems include:
    * `Effect.serves`
    * `tenanted_step`
-/

------------------------------------------------------------
-- What A Call Remembers And Answers
------------------------------------------------------------

namespace PayGuard

/- The merchant a call in progress was made with. -/
def Call.merchant : Call → Option Uuid
| .createClaimed request _ _ => some request.merchantId
| .createProcessing request _ _ => some request.merchantId
| .createAssessed request _ _ _ => some request.merchantId
| .createAuthorized request _ _ _ => some request.merchantId
| .captureOpen request _ _ _ => some request.merchantId
| .refundReserved request _ _ => some request.merchantId
| .refundAnswered request _ _ _ => some request.merchantId
| .reconcileLoaded intent => some intent.merchantId
| .reconcileAsking intent _ => some intent.merchantId
| .reconcileAnswered intent _ => some intent.merchantId
| _ => none

/- The payment a call works on. -/
def Call.payment : Call → Option Uuid
| .createClaimed _ _ intent => some intent.id
| .createProcessing _ _ intent => some intent.id
| .createAssessed _ _ intent _ => some intent.id
| .createAuthorized _ _ intent _ => some intent.id
| .captureOpen _ _ intent _ => some intent.id
| .refundReserved _ _ reservation =>
    some reservation.refund.paymentIntentId
| .refundAnswered _ _ reservation _ =>
    some reservation.refund.paymentIntentId
| .reconcileLoaded intent => some intent.id
| .reconcileAsking intent _ => some intent.id
| .reconcileAnswered intent _ => some intent.id
| .reconcileReporting report => some report.paymentIntentId
| _ => none

/- The claimed row a call has not committed yet. -/
def Call.uncommitted : Call → Option IdempotencyKey
| .captureOpen _ keyRow _ _ => some keyRow
| _ => none

/- The rows a response is made of are the merchant's. -/
def ResponseBody.Within
    (db : Database)
    (merchantId : Uuid) :
    ResponseBody → Prop
| .payment id _ _ _ _ _ =>
    db.holdsPayment merchantId id = true
| .refund id paymentId _ _ _ =>
    db.holdsPayment merchantId paymentId = true ∧
      (id, paymentId) ∈ db.refundOwners

/-
  A response names the merchant's rows, or it is one that a
  key row of the merchant held from the start.
-/
def Answerable
    (start db : Database)
    (merchantId : Uuid)
    (body : ResponseBody) : Prop :=
  body.Within db merchantId ∨
    ∃ row ∈ start.keys,
      row.merchantId = merchantId ∧
        row.responseBody = some body

/- What a call ended with is the merchant's. -/
def Reply.Within
    (start db : Database)
    (merchantId : Uuid) :
    Reply → Prop
| .response _ body =>
    ∀ found,
      body = some found →
        Answerable start db merchantId found
| .report finding =>
    db.holdsPayment merchantId finding.paymentIntentId = true
| _ => True

/- Everything a call holds belongs to the merchant. -/
structure Call.Within
    (start db : Database)
    (merchantId : Uuid)
    (position : Call) : Prop where
  merchant :
    ∀ made, position.merchant = some made → made = merchantId
  key :
    ∀ key,
      position.claimedKey = some key →
        key.merchantId = merchantId ∧
          OnlyOwner db.keyOwners key.id merchantId
  row :
    ∀ keyRow,
      position.uncommitted = some keyRow →
        keyRow.responseBody = none
  payment :
    ∀ paymentId,
      position.payment = some paymentId →
        db.holdsPayment merchantId paymentId = true
  refund :
    ∀ reservation,
      position.reservation = some reservation →
        (reservation.refund.id,
            reservation.refund.paymentIntentId) ∈
          db.refundOwners ∧
        OnlyOwner db.refundOwners reservation.refund.id
          reservation.refund.paymentIntentId
  reply :
    ∀ reply,
      position = .done reply →
        reply.Within start db merchantId

------------------------------------------------------------
-- Carrying Over
------------------------------------------------------------

variable {start db next : Database}
variable {merchantId : Uuid}
variable {payments keys refunds : List (Uuid × Uuid)}

theorem Lineage.holdsPayment
    {paymentId : Uuid}
    (hLineage : Lineage db next payments keys refunds)
    (hHolds : db.holdsPayment merchantId paymentId = true) :
    next.holdsPayment merchantId paymentId = true := by
  rw [holdsPayment_iff] at hHolds ⊢
  rw [hLineage.payments]
  exact List.mem_append_left payments hHolds

theorem Lineage.answerable
    {body : ResponseBody}
    (hLineage : Lineage db next payments keys refunds)
    (hAnswerable : Answerable start db merchantId body) :
    Answerable start next merchantId body := by
  rcases hAnswerable with hWithin | hStored
  · left
    cases body with
    | payment id status amount currency reference createdAt =>
        exact hLineage.holdsPayment hWithin
    | refund id paymentId amount status createdAt =>
        refine ⟨hLineage.holdsPayment hWithin.1, ?_⟩
        rw [hLineage.refunds]
        exact List.mem_append_left refunds hWithin.2
  · exact .inr hStored

theorem Lineage.reply
    {reply : Reply}
    (hLineage : Lineage db next payments keys refunds)
    (hReply : reply.Within start db merchantId) :
    reply.Within start next merchantId := by
  cases reply with
  | response status body =>
      intro found hFound
      exact hLineage.answerable (hReply found hFound)
  | report report => exact hLineage.holdsPayment hReply
  | raised failure => trivial
  | dispatched => trivial
  | received => trivial

/- A refund row drawn anew is none that a call remembers. -/
theorem onlyOwner_append
    {owners added : List (Uuid × Uuid)}
    {id owner drawn paid : Uuid}
    (hNew : AtMostNew owners drawn paid added)
    (hStored : (id, owner) ∈ owners)
    (hOnly : OnlyOwner owners id owner) :
    OnlyOwner (owners ++ added) id owner := by
  intro found hFound
  rcases List.mem_append.mp hFound with hOld | hAdded
  · exact hOnly found hOld
  · rcases hNew with rfl | ⟨rfl, hFresh⟩
    · cases hAdded
    · have hSame :=
        (Prod.mk.inj (List.mem_singleton.mp hAdded)).1
      rw [← hSame] at hFresh
      exact absurd (List.mem_map_of_mem hStored) hFresh

/-
  A call keeps what it holds while another one commits, if
  no key row of a stranger gets the identifier it holds.
-/
theorem Call.Within.carry
    {position : Call}
    {drawn paid : Uuid}
    (hWithin : position.Within start db merchantId)
    (hLineage : Lineage db next payments keys refunds)
    (hKeys :
      ∀ key found,
        position.claimedKey = some key →
          (key.id, found) ∈ keys → found = merchantId)
    (hRefunds :
      AtMostNew db.refundOwners drawn paid refunds) :
    position.Within start next merchantId where
  merchant := hWithin.merchant
  key := by
    intro key hKey
    rcases hWithin.key key hKey with ⟨hMerchant, hOnly⟩
    refine ⟨hMerchant, ?_⟩
    intro found hFound
    rw [hLineage.keys] at hFound
    rcases List.mem_append.mp hFound with hOld | hNew
    · exact hOnly found hOld
    · exact hKeys key found hKey hNew
  row := hWithin.row
  payment := by
    intro paymentId hPayment
    exact hLineage.holdsPayment
      (hWithin.payment paymentId hPayment)
  refund := by
    intro reservation hReservation
    rcases hWithin.refund reservation hReservation with
      ⟨hStored, hOnly⟩
    rw [hLineage.refunds]
    exact ⟨List.mem_append_left refunds hStored,
      onlyOwner_append hRefunds hStored hOnly⟩
  reply := by
    intro reply hReply
    exact hLineage.reply (hWithin.reply reply hReply)

end PayGuard

------------------------------------------------------------
-- Stored Responses
------------------------------------------------------------

namespace PayGuard

/-
  A stored response was there before, or it is the answer
  the transaction gave to its merchant.
-/
def Answered
    (merchantId : Uuid)
    (answer : Option ResponseBody)
    (db next : Database) : Prop :=
  ∀ row ∈ next.keys, ∀ body,
    row.responseBody = some body →
      (∃ old ∈ db.keys,
        old.merchantId = row.merchantId ∧
          old.responseBody = some body) ∨
        (row.merchantId = merchantId ∧ answer = some body)

variable {db mid next : Database}
variable {merchantId : Uuid}
variable {answer : Option ResponseBody}

theorem answered_of_keys
    (hKeys : next.keys = db.keys) :
    Answered merchantId answer db next := by
  intro row hRow body hBody
  rw [hKeys] at hRow
  exact .inl ⟨row, hRow, rfl, hBody⟩

/- A claimed version holds no response. -/
theorem answered_putKey
    {keyRow : IdempotencyKey}
    (hNone : keyRow.responseBody = none)
    (hKeys : next.keys = (db.putKey keyRow).keys) :
    Answered merchantId answer db next := by
  intro row hRow body hBody
  rw [hKeys] at hRow
  unfold Database.putKey at hRow
  split at hRow
  · rcases Table.mem_updateWhere.mp hRow with
      ⟨old, hOld, rfl⟩
    split at hBody
    · rw [hNone] at hBody
      cases hBody
    · rename_i hOther
      rw [if_neg hOther]
      exact .inl ⟨old, hOld, rfl, hBody⟩
  · rcases List.mem_append.mp hRow with hOld | hNew
    · exact .inl ⟨row, hOld, rfl, hBody⟩
    · rw [List.mem_singleton.mp hNew, hNone] at hBody
      cases hBody

/- A completion stores its answer in the merchant's row. -/
theorem answered_complete
    {keyRowId : Uuid}
    {paymentIntentId refundId : Option Uuid}
    {responseStatus : Nat}
    {responseBody : ResponseBody}
    (hOnly : OnlyOwner mid.keyOwners keyRowId merchantId)
    (hMid :
      Answered merchantId (some responseBody) db mid) :
    Answered merchantId (some responseBody) db
      (completeIdempotencyKey mid keyRowId paymentIntentId
        responseStatus responseBody refundId) := by
  intro row hRow body hBody
  rcases Table.mem_updateWhere.mp hRow with
    ⟨old, hOld, rfl⟩
  split at hBody
  · rename_i hId
    rw [if_pos hId]
    refine .inr ⟨?_, hBody⟩
    exact hOnly old.merchantId (List.mem_map.mpr
      ⟨old, hOld, by rw [of_decide_eq_true hId]⟩)
  · rename_i hOther
    rw [if_neg hOther]
    exact hMid old hOld body hBody

theorem answered_fail
    (keyRowId : Uuid) :
    Answered merchantId answer db
      (failIdempotencyKey db keyRowId) := by
  intro row hRow body hBody
  rcases Table.mem_updateWhere.mp hRow with
    ⟨old, hOld, rfl⟩
  refine .inl ⟨old, hOld, ?_⟩
  split at hBody
  · rename_i hId
    rw [if_pos hId]
    exact ⟨rfl, hBody⟩
  · rename_i hOther
    rw [if_neg hOther]
    exact ⟨rfl, hBody⟩

end PayGuard

------------------------------------------------------------
-- What A Step Of A Merchant Does
------------------------------------------------------------

namespace PayGuard

/- `uuid4` never repeats a key row some call still holds. -/
def Undrawn
    (system : System)
    (label : Label) : Prop :=
  ∀ call key,
    (system.calls call).claimedKey = some key →
      key.id ≠ label.draw.key

/- Steps of a delivery or of the worker, not of a merchant. -/
def Action.ofWebhook : Action → Bool
| .receiveWebhook _ => true
| .dispatchBegin _ _ => true
| .dispatchFinish => true
| _ => false

/-
  What a step appends, who it spares, and where it leaves
  its call.
-/
structure Serves
    (start : Database)
    (merchantId : Uuid)
    (system : System)
    (call : CallId)
    (draw : Draw)
    (action : Action)
    (next : System) : Prop where
  lineage :
    ∃ payments keys refunds keyRowId paid,
      Lineage system.db next.db payments keys refunds ∧
        AtMostNew system.db.paymentOwners draw.payment
          merchantId payments ∧
        AtMostNew system.db.keyOwners keyRowId merchantId
          keys ∧
        AtMostNew system.db.refundOwners draw.refund paid
          refunds ∧
        (keyRowId = draw.key ∨
          ∃ key,
            (system.calls call).claimedKey = some key ∧
              key.id = keyRowId)
  spares :
    action.ofWebhook = false →
      Spares merchantId system.db next.db
  position :
    (next.calls call).Within start next.db merchantId
  held :
    ∀ key,
      (next.calls call).claimedKey = some key →
        (system.calls call).claimedKey = some key ∨
          key.id = draw.key ∨
          (key.id, merchantId) ∈ system.db.keyOwners
  answered :
    ∃ answer,
      Answered merchantId answer system.db next.db ∧
        ∀ body,
          answer = some body →
            Answerable start next.db merchantId body

------------------------------------------------------------
-- Positions
------------------------------------------------------------

variable {start db : Database}
variable {merchantId : Uuid}

/- A call that holds nothing has nothing to lose. -/
theorem Call.Within.done
    {reply : Reply}
    (hReply : reply.Within start db merchantId) :
    (Call.done reply).Within start db merchantId where
  merchant := by simp [Call.merchant]
  key := by simp [Call.claimedKey]
  row := by simp [Call.uncommitted]
  payment := by simp [Call.payment]
  refund := by simp [Call.reservation]
  reply := by
    intro found hFound
    cases hFound
    exact hReply

theorem Call.Within.dead :
    Call.dead.Within start db merchantId where
  merchant := by simp [Call.merchant]
  key := by simp [Call.claimedKey]
  row := by simp [Call.uncommitted]
  payment := by simp [Call.payment]
  refund := by simp [Call.reservation]
  reply := by simp

theorem Call.Within.dispatchOpen
    {outboxEventId webhookEventId : Uuid}
    {plan : WebhookPlan} :
    (Call.dispatchOpen outboxEventId webhookEventId
      plan).Within start db merchantId where
  merchant := by simp [Call.merchant]
  key := by simp [Call.claimedKey]
  row := by simp [Call.uncommitted]
  payment := by simp [Call.payment]
  refund := by simp [Call.reservation]
  reply := by simp

theorem Call.Within.reporting
    {report : ReconciliationReport}
    (hPayment :
      db.holdsPayment merchantId report.paymentIntentId =
        true) :
    (Call.reconcileReporting report).Within start db
      merchantId where
  merchant := by simp [Call.merchant]
  key := by simp [Call.claimedKey]
  row := by simp [Call.uncommitted]
  payment := by
    intro paymentId hId
    cases hId
    exact hPayment
  refund := by simp [Call.reservation]
  reply := by simp

/- A position that holds a key row and nothing else. -/
theorem Call.Within.failing
    {key : ClaimedKey}
    {failure : Failure}
    (hMerchant : key.merchantId = merchantId)
    (hOnly : OnlyOwner db.keyOwners key.id merchantId) :
    (Call.failing key failure).Within start db
      merchantId where
  merchant := by simp [Call.merchant]
  key := by
    intro held hHeld
    cases hHeld
    exact ⟨hMerchant, hOnly⟩
  row := by simp [Call.uncommitted]
  payment := by simp [Call.payment]
  refund := by simp [Call.reservation]
  reply := by simp

/- A position like another one, with nothing new in it. -/
theorem Call.Within.same
    {position moved : Call}
    (hWithin : position.Within start db merchantId)
    (hMerchant :
      moved.merchant = none ∨
        moved.merchant = position.merchant)
    (hKey : moved.claimedKey = position.claimedKey)
    (hRow : moved.uncommitted = none)
    (hPayment :
      moved.payment = none ∨
        moved.payment = position.payment)
    (hReservation :
      moved.reservation = none ∨
        moved.reservation = position.reservation)
    (hOver : ∀ reply, moved ≠ .done reply) :
    moved.Within start db merchantId where
  merchant := by
    intro made hMade
    rcases hMerchant with hNone | hSame
    · rw [hNone] at hMade
      cases hMade
    · exact hWithin.merchant made (hSame ▸ hMade)
  key := by
    rw [hKey]
    exact hWithin.key
  row := by simp [hRow]
  payment := by
    intro paymentId hId
    rcases hPayment with hNone | hSame
    · rw [hNone] at hId
      cases hId
    · exact hWithin.payment paymentId (hSame ▸ hId)
  refund := by
    intro reservation hHeld
    rcases hReservation with hNone | hSame
    · rw [hNone] at hHeld
      cases hHeld
    · exact hWithin.refund reservation (hSame ▸ hHeld)
  reply := fun reply hReply => absurd hReply (hOver reply)

/- A reconciliation holds the payment it works on. -/
theorem Call.Within.reconciling
    {position : Call}
    {intent : PaymentIntent}
    (hMade : position.merchant = some intent.merchantId)
    (hWorks : position.payment = some intent.id)
    (hKey : position.claimedKey = none)
    (hRow : position.uncommitted = none)
    (hReservation : position.reservation = none)
    (hOver : ∀ reply, position ≠ .done reply)
    (hMerchant : intent.merchantId = merchantId)
    (hPayment :
      db.holdsPayment merchantId intent.id = true) :
    position.Within start db merchantId where
  merchant := by
    intro made hSome
    rw [hMade] at hSome
    cases hSome
    exact hMerchant
  key := by simp [hKey]
  row := by simp [hRow]
  payment := by
    intro paymentId hId
    rw [hWorks] at hId
    cases hId
    exact hPayment
  refund := by simp [hReservation]
  reply := fun reply hReply => absurd hReply (hOver reply)

theorem lockPayment_merchant
    {lockRead : LockRead}
    {loaded : Option PaymentIntent}
    {paymentId : Uuid}
    {intent : PaymentIntent}
    (hLoaded :
      ∀ object,
        loaded = some object →
          object.merchantId = merchantId)
    (hLock :
      lockPayment lockRead db loaded paymentId merchantId =
        some intent) :
    intent.merchantId = merchantId := by
  rcases lockPayment_eq_some hLock with
    ⟨row, hSelect, rfl | hHeld⟩
  · exact (selectPayment_eq_some hSelect).2.2
  · exact hLoaded intent hHeld

/- What the first lock of a reconciliation finds. -/
theorem reconcileCheck_within
    {lockRead : LockRead}
    {loaded : Option PaymentIntent}
    {paymentId pick : Uuid}
    {check : ReconcileCheck}
    (hKeys : db.PrimaryKeys)
    (hLoaded :
      ∀ intent,
        loaded = some intent →
          intent.merchantId = merchantId)
    (hCheck :
      reconcileCheck db
        (lockPayment lockRead db loaded paymentId merchantId)
        paymentId pick = .ok check) :
    check.position.Within start db merchantId := by
  unfold reconcileCheck at hCheck
  split at hCheck
  · cases hCheck
  · rename_i intent hLock
    have hHolds := (locked_onlyOwner hKeys hLock).1
    split at hCheck
    · cases hCheck
      exact .reporting hHolds
    · split at hCheck
      · cases hCheck
        exact .reporting hHolds
      · cases hCheck
        exact .reconciling rfl rfl rfl rfl rfl
          (by simp [ReconcileCheck.position])
          (lockPayment_merchant hLoaded hLock) hHolds

end PayGuard

------------------------------------------------------------
-- Steps
------------------------------------------------------------

namespace PayGuard

variable {start : Database}
variable {merchantId : Uuid}
variable {config : Config}
variable {system next : System}
variable {call : CallId}
variable {draw : Draw}
variable {action : Action}

/- A claimed row is the merchant's, and holds no answer. -/
theorem Claims.owner
    {idempotencyKey fingerprint : String}
    {keyRow : IdempotencyKey}
    (hClaims :
      Claims system call merchantId idempotencyKey
        fingerprint draw keyRow)
    (hKeys : system.db.PrimaryKeys)
    (hAdmits : system.db.Admits draw) :
    keyRow.merchantId = merchantId ∧
      OnlyOwner system.db.keyOwners keyRow.id merchantId ∧
      keyRow.responseBody = none ∧
      (keyRow.id = draw.key ∨
        (keyRow.id, merchantId) ∈ system.db.keyOwners) := by
  rcases claimIdempotencyKey_eq_claimed hClaims.claim with
    ⟨_, rfl⟩ | ⟨existing, _, _, hFind, _, rfl⟩
  · refine ⟨rfl, ?_, rfl, .inl rfl⟩
    intro found hFound
    have hFresh := hAdmits.1
    rw [← keyOwners_fst] at hFresh
    exact absurd (List.mem_map_of_mem hFound) hFresh
  · rcases findKey_eq_some hFind with ⟨hRow, hMerchant, _⟩
    have hStored :
        (existing.id, merchantId) ∈ system.db.keyOwners :=
      List.mem_map.mpr ⟨existing, hRow, by rw [hMerchant]⟩
    refine ⟨hMerchant, onlyOwner_of_nodup ?_ hStored, rfl,
      .inr hStored⟩
    rw [keyOwners_fst]
    exact hKeys.keys

/- A call that commits nothing stays with its merchant. -/
theorem Turn.within
    {position : Call}
    (hKeys : system.db.PrimaryKeys)
    (hAdmits : system.db.Admits draw)
    (hAnswers :
      ∀ row ∈ system.db.keys, ∀ body,
        row.responseBody = some body →
          Answerable start system.db row.merchantId body)
    (hWithin :
      (system.calls call).Within start system.db merchantId)
    (hMade :
      ∀ made, action.merchant = some made → made = merchantId)
    (hTurn :
      Turn config system call draw action position) :
    position.Within start system.db merchantId := by
  cases hTurn with
  | raised => exact .done trivial
  | died => exact .dead
  | replayed hMerchant hFind =>
      cases hMade _ hMerchant
      rcases findKey_eq_some hFind with ⟨hRow, hOwner, _⟩
      apply Call.Within.done
      intro body hBody
      rw [← hOwner]
      exact hAnswers _ hRow body hBody
  | refused hMerchant hClaims =>
      cases hMade _ hMerchant
      have hOwner := hClaims.owner hKeys hAdmits
      exact .failing hOwner.1 hOwner.2.1
  | failed hKey =>
      have hOwner := hWithin.key _ hKey
      exact .failing hOwner.1 hOwner.2
  | failureSeen hCall =>
      rw [hCall] at hWithin
      exact hWithin.same (.inl rfl) rfl rfl (.inl rfl) (.inl rfl)
        (by simp)
  | authorized hCall =>
      rw [hCall] at hWithin
      exact hWithin.same (.inr rfl) rfl rfl (.inr rfl) (.inl rfl)
        (by simp)
  | dispatched hFind => exact .dispatchOpen
  | loaded hSelect hStatus =>
      rcases selectPayment_eq_some hSelect with
        ⟨hRow, hId, hMerchant⟩
      cases hMade _ rfl
      refine .reconciling rfl rfl rfl rfl rfl (by simp)
        hMerchant ?_
      rw [holdsPayment_iff]
      exact List.mem_map.mpr ⟨_, hRow, by rw [hMerchant]⟩
  | begun hCheck =>
      cases hMade _ rfl
      rw [← lockPayment_unloaded config.lockRead] at hCheck
      exact reconcileCheck_within hKeys (by simp) hCheck
  | continued hCall hCheck =>
      rw [hCall] at hWithin
      have hMerchant := hWithin.merchant _ rfl
      rw [hMerchant] at hCheck
      refine reconcileCheck_within hKeys ?_ hCheck
      intro intent hIntent
      cases hIntent
      exact hMerchant
  | answered hCall =>
      rw [hCall] at hWithin
      exact hWithin.same (.inr rfl) rfl rfl (.inr rfl) (.inl rfl)
        (by simp)

/- A key row a call holds is one it held or claimed. -/
theorem Turn.held
    {position : Call}
    (hKeys : system.db.PrimaryKeys)
    (hAdmits : system.db.Admits draw)
    (hMade :
      ∀ made, action.merchant = some made → made = merchantId)
    (hTurn :
      Turn config system call draw action position) :
    ∀ key,
      position.claimedKey = some key →
        (system.calls call).claimedKey = some key ∨
          key.id = draw.key ∨
          (key.id, merchantId) ∈ system.db.keyOwners := by
  intro key hKey
  cases hTurn with
  | raised => cases hKey
  | died => cases hKey
  | replayed _ _ => cases hKey
  | refused hMerchant hClaims =>
      cases hKey
      cases hMade _ hMerchant
      exact .inr (hClaims.owner hKeys hAdmits).2.2.2
  | failed hHeld =>
      cases hKey
      exact .inl hHeld
  | failureSeen hCall =>
      cases hKey
      exact .inl (by rw [hCall]; rfl)
  | authorized hCall =>
      cases hKey
      exact .inl (by rw [hCall]; rfl)
  | dispatched _ => cases hKey
  | loaded _ _ => cases hKey
  | begun _ =>
      rename_i check _
      cases check <;> cases hKey
  | continued _ _ =>
      rename_i check _ _
      cases check <;> cases hKey
  | answered _ => cases hKey

/- A transaction that appends no owner. -/
theorem Serves.steady
    {answer : Option ResponseBody}
    (hLineage : Lineage system.db next.db [] [] [])
    (hSpares :
      action.ofWebhook = false →
        Spares merchantId system.db next.db)
    (hPosition :
      (next.calls call).Within start next.db merchantId)
    (hHeld :
      ∀ key,
        (next.calls call).claimedKey = some key →
          (system.calls call).claimedKey = some key ∨
            key.id = draw.key ∨
            (key.id, merchantId) ∈ system.db.keyOwners)
    (hAnswered :
      Answered merchantId answer system.db next.db)
    (hAnswer :
      ∀ body,
        answer = some body →
          Answerable start next.db merchantId body) :
    Serves start merchantId system call draw action
      next where
  lineage :=
    ⟨[], [], [], draw.key, 0, hLineage, .inl rfl, .inl rfl,
      .inl rfl, .inl rfl⟩
  spares := hSpares
  position := hPosition
  held := hHeld
  answered := ⟨answer, hAnswered, hAnswer⟩

/- A transaction that neither appends an owner nor answers. -/
theorem Serves.silent
    (hLineage : Lineage system.db next.db [] [] [])
    (hSpares :
      action.ofWebhook = false →
        Spares merchantId system.db next.db)
    (hPosition :
      (next.calls call).Within start next.db merchantId)
    (hHeld :
      ∀ key,
        (next.calls call).claimedKey = some key →
          (system.calls call).claimedKey = some key ∨
            key.id = draw.key ∨
            (key.id, merchantId) ∈ system.db.keyOwners)
    (hAnswered :
      Answered merchantId none system.db next.db) :
    Serves start merchantId system call draw action next :=
  Serves.steady hLineage hSpares hPosition hHeld hAnswered
    (by simp)

/- A key row is new only if its identifier was drawn. -/
theorem Claims.atMostNew
    {idempotencyKey fingerprint : String}
    {keyRow : IdempotencyKey}
    {added : List (Uuid × Uuid)}
    (hClaims :
      Claims system call merchantId idempotencyKey
        fingerprint draw keyRow)
    (hKeys : system.db.PrimaryKeys)
    (hAdmits : system.db.Admits draw)
    (hAdded :
      AtMostNew system.db.keyOwners keyRow.id merchantId
        added) :
    AtMostNew system.db.keyOwners draw.key merchantId
      added := by
  rcases hAdded with hNone | ⟨hOne, hFresh⟩
  · exact .inl hNone
  · rcases (hClaims.owner hKeys hAdmits).2.2.2 with
      hDrawn | hStored
    · rw [← hDrawn]
      exact .inr ⟨hOne, hFresh⟩
    · exact absurd (List.mem_map_of_mem hStored) hFresh

/- A call at its end gave an answer of its merchant. -/
theorem Serves.responded
    {db : Database}
    {response : Response}
    (hGrows : Grows merchantId system.db db [] [] [])
    (hAnswered :
      Answered merchantId (some response.body) system.db db)
    (hBody : response.body.Within db merchantId) :
    Serves start merchantId system call draw action
      (system.commit call db
        (.done (.response response.status
          response.body))) := by
  apply Serves.steady hGrows.toLineage
    (fun _ => hGrows.spares) _ _ hAnswered
  · intro body hSome
    cases hSome
    exact .inl hBody
  · rw [System.commit_calls_self]
    apply Call.Within.done
    intro body hSome
    cases hSome
    exact .inl hBody
  · rw [System.commit_calls_self]
    intro key hKey
    cases hKey

/- The key row of a call is still its merchant's. -/
theorem Call.Within.lockedOwner
    {position : Call}
    {made : Uuid}
    (hKeys : system.db.PrimaryKeys)
    (hWithin : position.Within start system.db merchantId)
    (hMade : position.merchant = some made) :
    ∀ ⦃lockRead loaded paymentId⦄ intent,
      lockPayment lockRead system.db loaded paymentId made =
          some intent →
        system.db.holdsPayment merchantId intent.id = true ∧
          OnlyOwner system.db.paymentOwners intent.id
            merchantId := by
  intro lockRead loaded paymentId intent hLock
  rw [hWithin.merchant made hMade] at hLock
  exact locked_onlyOwner hKeys hLock

theorem createInsert_serves
    {indexable : PyString → Bool}
    {request : CreateRequest}
    {keyRow : IdempotencyKey}
    {db : Database}
    {intent : PaymentIntent}
    (hKeys : system.db.PrimaryKeys)
    (hAdmits : system.db.Admits draw)
    (hClaims :
      Claims system call request.merchantId
        request.idempotencyKey
        (createFingerprint config request) draw keyRow)
    (hBody :
      createInsert indexable system.db request keyRow draw =
        .ok (db, intent)) :
    Serves start request.merchantId system call draw action
      ((system.commit call db
        (.createClaimed request keyRow.claimedKey
          intent)).recordOrigin keyRow.claimedKey
            (.payment intent.id)) := by
  rcases hClaims.owner hKeys hAdmits with
    ⟨hMerchant, hOnly, hNone, hStored⟩
  rcases createInsert_grows hMerchant hOnly hAdmits.2.1
    hBody with ⟨added, hAdded, hGrows⟩
  have hId : intent.id = draw.payment := by
    rw [(createInsert_eq_ok hBody).1]
  refine
    { lineage := ⟨_, _, _, draw.key, 0, hGrows.toLineage,
        .inr ⟨rfl, ?_⟩,
        hClaims.atMostNew hKeys hAdmits hAdded, .inl rfl,
        .inl rfl⟩
      spares := fun _ => hGrows.spares
      position := ?_
      held := ?_
      answered := ⟨none, ?_, by simp⟩ }
  · rw [paymentOwners_fst]
    exact hAdmits.2.1
  · rw [System.recordOrigin_calls, System.commit_calls_self]
    refine
      { merchant := ?_
        key := ?_
        row := by simp [Call.uncommitted]
        payment := ?_
        refund := by simp [Call.reservation]
        reply := by simp }
    · intro made hMade
      cases hMade
      rfl
    · intro key hKey
      cases hKey
      exact ⟨hMerchant, hGrows.newKey hAdded hOnly⟩
    · intro paymentId hPayment
      cases hPayment
      rw [holdsPayment_iff, System.recordOrigin_db,
        System.commit_db, hGrows.payments, hId]
      exact List.mem_append_right _ (List.mem_singleton_self _)
  · rw [System.recordOrigin_calls, System.commit_calls_self]
    intro key hKey
    cases hKey
    exact .inr hStored
  · rcases createInsert_eq_ok hBody with ⟨_, _, rfl⟩
    exact answered_putKey hNone rfl

theorem createProcess_serves
    {request : CreateRequest}
    {key : ClaimedKey}
    {intent moved : PaymentIntent}
    {db : Database}
    (hKeys : system.db.PrimaryKeys)
    (hWithin :
      (system.calls call).Within start system.db merchantId)
    (hCall :
      system.calls call = .createClaimed request key intent)
    (hBody :
      createProcess system.db
        (lockPayment config.lockRead system.db (some intent)
          intent.id request.merchantId)
        draw = .ok (db, moved)) :
    Serves start merchantId system call draw action
      (system.commit call db
        (.createProcessing request key moved)) := by
  rw [hCall] at hWithin
  have hOwner := hWithin.lockedOwner hKeys rfl
  have hGrows :=
    createProcess_grows
      (fun intent hLock => (hOwner intent hLock).2) hBody
  rcases createProcess_eq_ok hBody with
    ⟨object, hLocked, hApply⟩
  have hMoved : moved.id = intent.id := by
    rw [Moved.id_of_applyTransition hApply]
    exact lockPayment_id hLocked
  refine Serves.silent hGrows.toLineage
    (fun _ => hGrows.spares) ?_ ?_
    (answered_of_keys (Moved.of_applyTransition hApply).keys)
  · rw [System.commit_calls_self, System.commit_db]
    have hCarried :=
      hWithin.carry hGrows.toLineage (by simp)
        (.inl rfl : AtMostNew _ 0 0 [])
    refine hCarried.same (.inr rfl) rfl rfl (.inr ?_) (.inl rfl)
      (by simp)
    simp [Call.payment, hMoved]
  · rw [System.commit_calls_self]
    intro held hHeld
    exact .inl (by rw [hCall]; exact hHeld)

/- A payment held by a merchant is held by nobody else. -/
theorem Database.PrimaryKeys.onlyOwner
    {db : Database}
    {paymentId : Uuid}
    (hKeys : db.PrimaryKeys)
    (hHolds : db.holdsPayment merchantId paymentId = true) :
    OnlyOwner db.paymentOwners paymentId merchantId := by
  apply onlyOwner_of_nodup
  · rw [paymentOwners_fst]
    exact hKeys.payments
  · exact holdsPayment_iff.mp hHolds

theorem createAssess_serves
    {request : CreateRequest}
    {key : ClaimedKey}
    {intent : PaymentIntent}
    {level : RiskLevel}
    (hKeys : system.db.PrimaryKeys)
    (hWithin :
      (system.calls call).Within start system.db merchantId)
    (hCall :
      system.calls call =
        .createProcessing request key intent) :
    Serves start merchantId system call draw action
      (system.commit call
        (createAssess system.db request intent draw).1
        (.createAssessed request key intent level)) := by
  rw [hCall] at hWithin
  have hOnly := hKeys.onlyOwner (hWithin.payment _ rfl)
  have hGrows := createAssess_grows request draw hOnly
  refine Serves.silent hGrows.toLineage
    (fun _ => hGrows.spares) ?_ ?_ (answered_of_keys rfl)
  · rw [System.commit_calls_self, System.commit_db]
    have hCarried :=
      hWithin.carry hGrows.toLineage (by simp)
        (.inl rfl : AtMostNew _ 0 0 [])
    exact hCarried.same (.inr rfl) rfl rfl (.inr rfl) (.inl rfl)
      (by simp)
  · rw [System.commit_calls_self]
    intro held hHeld
    exact .inl (by rw [hCall]; exact hHeld)

theorem createBlock_serves
    {request : CreateRequest}
    {key : ClaimedKey}
    {intent : PaymentIntent}
    {level : RiskLevel}
    {db : Database}
    {response : Response}
    (hKeys : system.db.PrimaryKeys)
    (hWithin :
      (system.calls call).Within start system.db merchantId)
    (hCall :
      system.calls call =
        .createAssessed request key intent level)
    (hBody :
      createBlock system.db
        (lockPayment config.lockRead system.db (some intent)
          intent.id request.merchantId)
        key.id draw = .ok (db, response)) :
    Serves start merchantId system call draw action
      (system.commit call db
        (.done (.response response.status
          response.body))) := by
  rw [hCall] at hWithin
  have hKey := (hWithin.key key rfl).2
  have hOwner := hWithin.lockedOwner hKeys rfl
  have hGrows :=
    createBlock_grows hKey
      (fun intent hLock => (hOwner intent hLock).2) hBody
  rcases createBlock_eq_ok hBody with
    ⟨object, base, moved, hLocked, hApply, rfl, rfl⟩
  have hMoved := Moved.of_applyTransition hApply
  have hId : moved.id = object.id :=
    Moved.id_of_applyTransition hApply
  apply Serves.responded hGrows
  · refine answered_complete ?_ (answered_of_keys hMoved.keys)
    rw [hMoved.lineage.keys, List.append_nil]
    exact hKey
  · apply hGrows.toLineage.holdsPayment
    rw [hId]
    exact (hOwner object hLocked).1

theorem createFinish_serves
    {request : CreateRequest}
    {key : ClaimedKey}
    {intent : PaymentIntent}
    {result : ProviderResult}
    {db : Database}
    {response : Response}
    (hKeys : system.db.PrimaryKeys)
    (hAdmits : system.db.Admits draw)
    (hWithin :
      (system.calls call).Within start system.db merchantId)
    (hCall :
      system.calls call =
        .createAuthorized request key intent result)
    (hBody :
      createFinish system.db
        (lockPayment config.lockRead system.db (some intent)
          intent.id request.merchantId)
        key.id config.providerName result draw =
          .ok (db, response)) :
    Serves start merchantId system call draw action
      (system.commit call db
        (.done (.response response.status
          response.body))) := by
  rw [hCall] at hWithin
  have hKey := (hWithin.key key rfl).2
  have hOwner := hWithin.lockedOwner hKeys rfl
  have hGrows :=
    createFinish_grows hKey hAdmits.2.2.1
      (fun intent hLock => (hOwner intent hLock).2) hBody
  rcases createFinish_eq_ok hBody with
    ⟨object, attempt, base, moved, added, hLocked, hApply,
      rfl, rfl, _⟩
  have hMoved := Moved.of_applyAuthorizeOutcome hApply
  have hId : moved.id = object.id :=
    Moved.id_of_applyAuthorizeOutcome hApply
  apply Serves.responded hGrows
  · refine answered_complete ?_ (answered_of_keys hMoved.keys)
    have hOwners := hMoved.lineage.keys
    rw [List.append_nil] at hOwners
    exact hOwners ▸ hKey
  · apply hGrows.toLineage.holdsPayment
    rw [hId]
    exact (hOwner object hLocked).1

theorem captureSettled_serves
    {request : CaptureRequest}
    {keyRow : IdempotencyKey}
    {intent : PaymentIntent}
    (hKeys : system.db.PrimaryKeys)
    (hAdmits : system.db.Admits draw)
    (hClaims :
      Claims system call request.merchantId
        request.idempotencyKey
        (captureFingerprint config request) draw keyRow)
    (hSelect :
      system.db.selectPayment request.paymentId
        request.merchantId = some intent) :
    Serves start request.merchantId system call draw action
      (system.commit call
        (captureSettled system.db intent keyRow).1
        (.done (.response
          (captureSettled system.db intent keyRow).2.status
          (captureSettled system.db intent
            keyRow).2.body))) := by
  rcases hClaims.owner hKeys hAdmits with
    ⟨hMerchant, hOnly, hNone, _⟩
  rcases captureSettled_grows hMerchant hOnly with
    ⟨added, hAdded, hGrows⟩
  rcases selectPayment_eq_some hSelect with
    ⟨hRow, _, hOwner⟩
  have hHolds :
      Answerable start
        (captureSettled system.db intent keyRow).1
        request.merchantId (serializePayment intent) := by
    refine .inl (hGrows.toLineage.holdsPayment ?_)
    rw [holdsPayment_iff]
    exact List.mem_map.mpr ⟨intent, hRow, by rw [hOwner]⟩
  refine
    { lineage := ⟨_, _, _, draw.key, 0, hGrows.toLineage,
        .inl rfl, hClaims.atMostNew hKeys hAdmits hAdded,
        .inl rfl, .inl rfl⟩
      spares := fun _ => hGrows.spares
      position := ?_
      held := ?_
      answered := ⟨some (serializePayment intent), ?_, ?_⟩ }
  · rw [System.commit_calls_self]
    apply Call.Within.done
    intro body hBody
    cases hBody
    exact hHolds
  · rw [System.commit_calls_self]
    intro key hKey
    cases hKey
  · rcases putKey_grows hMerchant hOnly with
      ⟨_, hPutAdded, hPut⟩
    exact answered_complete (hPut.newKey hPutAdded hOnly)
      (answered_putKey hNone rfl)
  · intro body hBody
    cases hBody
    exact hHolds

theorem captureOpen_serves
    {request : CaptureRequest}
    {keyRow : IdempotencyKey}
    {intent : PaymentIntent}
    {transaction : ProviderTransaction}
    {next : System}
    (hKeys : system.db.PrimaryKeys)
    (hAdmits : system.db.Admits draw)
    (hClaims :
      Claims system call request.merchantId
        request.idempotencyKey
        (captureFingerprint config request) draw keyRow)
    (hSelect :
      system.db.selectPayment request.paymentId
        request.merchantId = some intent)
    (hDb : next.db = system.db)
    (hNext :
      next.calls call =
        .captureOpen request keyRow intent transaction) :
    Serves start request.merchantId system call draw action
      next := by
  rcases hClaims.owner hKeys hAdmits with
    ⟨hMerchant, hOnly, hNone, hStored⟩
  rcases selectPayment_eq_some hSelect with
    ⟨hRow, _, hOwner⟩
  refine Serves.silent ?_ ?_ ?_ ?_
    (answered_of_keys (by rw [hDb]))
  · rw [hDb]
    exact Lineage.refl _
  · intro _ other _
    rw [hDb]
  · rw [hNext, hDb]
    refine
      { merchant := ?_
        key := ?_
        row := ?_
        payment := ?_
        refund := by simp [Call.reservation]
        reply := by simp }
    · intro made hMade
      cases hMade
      rfl
    · intro key hKey
      cases hKey
      exact ⟨hMerchant, hOnly⟩
    · intro row hRow
      cases hRow
      exact hNone
    · intro paymentId hPayment
      cases hPayment
      rw [holdsPayment_iff]
      exact List.mem_map.mpr ⟨intent, hRow, by rw [hOwner]⟩
  · rw [hNext]
    intro key hKey
    cases hKey
    exact .inr hStored

theorem captureFinish_serves
    {request : CaptureRequest}
    {keyRow : IdempotencyKey}
    {intent : PaymentIntent}
    {transaction : ProviderTransaction}
    {result : ProviderResult}
    {db : Database}
    {response : Response}
    {next : System}
    (hKeys : system.db.PrimaryKeys)
    (hWithin :
      (system.calls call).Within start system.db merchantId)
    (hCall :
      system.calls call =
        .captureOpen request keyRow intent transaction)
    (hBody :
      captureFinish system.db intent keyRow result draw =
        .ok (db, response))
    (hDb : next.db = db)
    (hNext :
      next.calls call =
        .done (.response response.status response.body)) :
    Serves start merchantId system call draw action
      next := by
  rw [hCall] at hWithin
  rcases hWithin.key _ rfl with ⟨hMerchant, hKey⟩
  have hNone := hWithin.row _ rfl
  have hHolds := hWithin.payment _ rfl
  have hOnly := hKeys.onlyOwner hHolds
  rcases captureFinish_grows hMerchant hKey hOnly hBody with
    ⟨added, hAdded, hGrows⟩
  rcases captureFinish_eq_ok hBody with
    ⟨base, moved, hOutcome, hResult, rfl⟩
  have hBase := (applyCaptureOutcome_keys hOutcome).1
  have hAnswer :
      Answerable start next.db merchantId
        (serializePayment moved) := by
    rw [hDb]
    refine .inl (hGrows.toLineage.holdsPayment ?_)
    rw [(applyCaptureOutcome_keys hOutcome).2]
    exact hHolds
  refine
    { lineage := ⟨_, _, _, keyRow.id, 0, hDb ▸
        hGrows.toLineage, .inl rfl, hAdded, .inl rfl,
        .inr ⟨keyRow.claimedKey, by rw [hCall]; rfl, rfl⟩⟩
      spares := fun _ => hDb ▸ hGrows.spares
      position := ?_
      held := ?_
      answered := ⟨some (serializePayment moved), ?_, ?_⟩ }
  · rw [hNext]
    apply Call.Within.done
    intro body hSome
    cases hSome
    exact hAnswer
  · rw [hNext]
    intro key hHeld
    cases hHeld
  · rw [hDb, hResult]
    rcases putKey_grows hMerchant hKey with
      ⟨_, hPutAdded, hPut⟩
    refine answered_complete ?_ (answered_putKey hNone hBase)
    have hOwners := hPut.newKey hPutAdded hKey
    unfold Database.keyOwners at hOwners ⊢
    rw [hBase]
    exact hOwners
  · intro body hSome
    cases hSome
    exact hAnswer

theorem refundReserve_serves
    {request : RefundRequest}
    {keyRow : IdempotencyKey}
    {db : Database}
    {reservation : Reservation}
    (hKeys : system.db.PrimaryKeys)
    (hAdmits : system.db.Admits draw)
    (hClaims :
      Claims system call request.merchantId
        request.idempotencyKey
        (refundFingerprint config request) draw keyRow)
    (hBody :
      refundReserve system.db
        (system.db.selectPayment request.paymentId
          request.merchantId)
        request keyRow draw = .ok (db, reservation)) :
    Serves start request.merchantId system call draw action
      ((system.commit call db
        (.refundReserved request keyRow.claimedKey
          reservation)).recordOrigin keyRow.claimedKey
            (.refund reservation.refund.id)) := by
  rcases hClaims.owner hKeys hAdmits with
    ⟨hMerchant, hOnly, hNone, hStored⟩
  rw [← lockPayment_unloaded config.lockRead] at hBody
  rcases refundReserve_grows hMerchant hOnly
    (fun intent hLock => (locked_onlyOwner hKeys hLock).2)
    hBody with ⟨added, hAdded, hGrows⟩
  rcases refundReserve_eq_ok hBody with
    ⟨intent, hLock, _, _, _, hRefund, _, hEnter⟩
  have hId : reservation.refund.id = draw.refund := by
    rw [hRefund]
  have hPayment :
      reservation.refund.paymentIntentId = intent.id := by
    rw [hRefund]
  have hFresh :
      draw.refund ∉ system.db.refundOwners.map (·.1) := by
    rw [refundOwners_fst]
    exact hAdmits.2.2.2.1
  have hOwner :
      OnlyOwner system.db.refundOwners draw.refund
        reservation.refund.paymentIntentId := by
    intro found hFound
    exact absurd (List.mem_map_of_mem hFound) hFresh
  rw [hId] at hGrows
  refine
    { lineage := ⟨_, _, _, draw.key, _, hGrows.toLineage,
        .inl rfl, hClaims.atMostNew hKeys hAdmits hAdded,
        .inr ⟨rfl, hFresh⟩, .inl rfl⟩
      spares := fun _ => hGrows.spares
      position := ?_
      held := ?_
      answered := ⟨none, ?_, by simp⟩ }
  · rw [System.recordOrigin_calls, System.commit_calls_self,
      System.recordOrigin_db, System.commit_db]
    refine
      { merchant := ?_
        key := ?_
        row := by simp [Call.uncommitted]
        payment := ?_
        refund := ?_
        reply := by simp }
    · intro made hMade
      cases hMade
      rfl
    · intro key hKey
      cases hKey
      exact ⟨hMerchant, hGrows.newKey hAdded hOnly⟩
    · intro paymentId hSome
      cases hSome
      apply hGrows.toLineage.holdsPayment
      rw [hPayment]
      exact (locked_onlyOwner hKeys hLock).1
    · intro held hHeld
      cases hHeld
      rw [hGrows.refunds, hId]
      refine ⟨List.mem_append_right _
        (List.mem_singleton_self _), ?_⟩
      intro found hFound
      rcases List.mem_append.mp hFound with hOld | hNew
      · exact hOwner found hOld
      · exact (Prod.mk.inj (List.mem_singleton.mp hNew)).2
  · rw [System.recordOrigin_calls, System.commit_calls_self]
    intro key hKey
    cases hKey
    exact .inr hStored
  · exact answered_putKey hNone
      (Moved.of_enterRefundPending hEnter).keys

theorem refundAnswer_serves
    {request : RefundRequest}
    {key : ClaimedKey}
    {reservation : Reservation}
    {result : ProviderResult}
    {next : System}
    (hWithin :
      (system.calls call).Within start system.db merchantId)
    (hCall :
      system.calls call =
        .refundReserved request key reservation)
    (hDb : next.db = system.db)
    (hNext :
      next.calls call =
        .refundAnswered request key reservation result) :
    Serves start merchantId system call draw action
      next := by
  refine Serves.silent ?_ ?_ ?_ ?_
    (answered_of_keys (by rw [hDb]))
  · rw [hDb]
    exact Lineage.refl _
  · intro _ other _
    rw [hDb]
  · rw [hCall] at hWithin
    rw [hNext, hDb]
    exact hWithin.same (.inr rfl) rfl rfl (.inr rfl)
      (.inr rfl) (by simp)
  · rw [hNext, hCall]
    exact fun key hKey => .inl hKey

theorem refundFinish_serves
    {request : RefundRequest}
    {key : ClaimedKey}
    {reservation : Reservation}
    {result : ProviderResult}
    {db : Database}
    {response : Response}
    (hKeys : system.db.PrimaryKeys)
    (hWithin :
      (system.calls call).Within start system.db merchantId)
    (hCall :
      system.calls call =
        .refundAnswered request key reservation result)
    (hBody :
      refundFinalize system.db
        (lockPayment config.lockRead system.db
          (some reservation.intent) request.paymentId
          request.merchantId)
        reservation.refund key.id result draw =
          .ok (db, response)) :
    Serves start merchantId system call draw action
      (system.commit call db
        (.done (.response response.status
          response.body))) := by
  rw [hCall] at hWithin
  have hKey := (hWithin.key key rfl).2
  have hHolds := hWithin.payment _ rfl
  rcases hWithin.refund _ rfl with ⟨hStored, hRefund⟩
  have hOwner := hWithin.lockedOwner hKeys rfl
  have hGrows :=
    refundFinalize_grows hKey hRefund
      (hKeys.onlyOwner hHolds)
      (fun intent hLock => (hOwner intent hLock).2) hBody
  rcases refundFinalize_eq_ok hBody with
    ⟨intent, left, moved, body, _, hLeave, hResult, hSent,
      rfl⟩
  have hLeft : left.keys = system.db.keys := by
    rw [(Moved.of_leaveRefundPending hLeave).keys]
    unfold settleRefund
    simp only
    split <;> rfl
  apply Serves.responded hGrows
  · rw [hResult]
    refine answered_complete ?_ (answered_of_keys hLeft)
    unfold Database.keyOwners
    rw [hLeft]
    exact hKey
  · rw [hSent]
    refine ⟨hGrows.toLineage.holdsPayment hHolds, ?_⟩
    rw [hGrows.refunds, List.append_nil]
    exact hStored

/- A delivery and a dispatch leave every owner in place. -/
theorem webhook_serves
    {next : System}
    {reply : Reply}
    (hLineage : Lineage system.db next.db [] [] [])
    (hStored : next.db.keys = system.db.keys)
    (hWebhook : action.ofWebhook = true)
    (hNext : next.calls call = .done reply)
    (hReply : reply.Within start next.db merchantId) :
    Serves start merchantId system call draw action
      next := by
  refine Serves.silent hLineage ?_ ?_ ?_
    (answered_of_keys hStored)
  · intro hOther
    rw [hWebhook] at hOther
    cases hOther
  · rw [hNext]
    exact .done hReply
  · rw [hNext]
    intro key hKey
    cases hKey

theorem receiveWebhook_lineage
    (draw : Draw)
    (db : Database)
    (delivery : WebhookDelivery) :
    Lineage db (receiveWebhook db delivery draw) [] [] [] ∧
      (receiveWebhook db delivery draw).keys = db.keys := by
  unfold receiveWebhook
  split
  · exact ⟨Lineage.refl db, rfl⟩
  · exact ⟨Lineage.of_eq rfl rfl rfl, rfl⟩

theorem dispatchEffect_lineage
    {db db' : Database}
    {webhookEventId : Uuid}
    {plan : WebhookPlan}
    (hBody :
      dispatchEffect config db webhookEventId plan draw =
        .ok db') :
    Lineage db db' [] [] [] ∧ db'.keys = db.keys := by
  cases plan with
  | skip =>
      cases hBody
      exact ⟨Lineage.refl _, rfl⟩
  | ignore =>
      cases hBody
      exact ⟨Lineage.of_eq rfl rfl rfl, rfl⟩
  | outcome targetStatus intent =>
      rcases handlePaymentOutcome_eq_ok hBody with
        ⟨_, _, _, rfl | ⟨_, base, moved, hApply, rfl⟩⟩
      · exact ⟨Lineage.of_eq rfl rfl rfl, rfl⟩
      · have hMoved := Moved.of_applyTransition hApply
        have hLineage := hMoved.lineage
        have hKeys := hMoved.keys
        unfold settleByWebhook
        split
        · exact ⟨⟨hLineage.payments, hLineage.keys,
            hLineage.refunds⟩, hKeys⟩
        · exact ⟨⟨hLineage.payments, hLineage.keys,
            hLineage.refunds⟩, hKeys⟩

theorem reconcileApply_serves
    {intent : PaymentIntent}
    {result : ProviderResult}
    {db : Database}
    {report : ReconciliationReport}
    (hKeys : system.db.PrimaryKeys)
    (hAdmits : system.db.Admits draw)
    (hWithin :
      (system.calls call).Within start system.db merchantId)
    (hCall :
      system.calls call = .reconcileAnswered intent result)
    (hBody :
      reconcileApply system.db
        (lockPayment config.lockRead system.db (some intent)
          intent.id intent.merchantId)
        config.providerName result draw =
          .ok (db, report)) :
    Serves start merchantId system call draw action
      (system.commit call db
        (.reconcileReporting report)) := by
  rw [hCall] at hWithin
  have hOwner := hWithin.lockedOwner hKeys rfl
  have hGrows :=
    reconcileApply_grows hAdmits.2.2.1
      (fun intent hLock => (hOwner intent hLock).2) hBody
  rcases reconcileApply_report hBody with
    ⟨object, hLock, hReport⟩
  refine Serves.silent hGrows.toLineage
    (fun _ => hGrows.spares) ?_ ?_
    (answered_of_keys (reconcileApply_keys hBody))
  · rw [System.commit_calls_self, System.commit_db]
    apply Call.Within.reporting
    apply hGrows.toLineage.holdsPayment
    rw [hReport]
    exact (hOwner object hLock).1
  · rw [System.commit_calls_self]
    intro key hKey
    cases hKey

theorem reconcileReport_serves
    {report : ReconciliationReport}
    (hKeys : system.db.PrimaryKeys)
    (hWithin :
      (system.calls call).Within start system.db merchantId)
    (hCall :
      system.calls call = .reconcileReporting report) :
    Serves start merchantId system call draw action
      (system.commit call (writeReport system.db report)
        (.done (.report report))) := by
  rw [hCall] at hWithin
  have hHolds := hWithin.payment _ rfl
  have hGrows := writeReport_grows (hKeys.onlyOwner hHolds)
  refine Serves.silent hGrows.toLineage
    (fun _ => hGrows.spares) ?_ ?_ (answered_of_keys rfl)
  · rw [System.commit_calls_self, System.commit_db]
    exact .done (hGrows.toLineage.holdsPayment hHolds)
  · rw [System.commit_calls_self]
    intro key hKey
    cases hKey

theorem failWrite_serves
    {key : ClaimedKey}
    {failure : Failure}
    (hWithin :
      (system.calls call).Within start system.db merchantId)
    (hCall : system.calls call = .failureSeen key failure) :
    Serves start merchantId system call draw action
      (system.commit call
        (failIdempotencyKey system.db key.id)
        (.done (.raised failure))) := by
  rw [hCall] at hWithin
  have hGrows :=
    failIdempotencyKey_grows (hWithin.key key rfl).2
  refine Serves.silent hGrows.toLineage
    (fun _ => hGrows.spares) ?_ ?_ (answered_fail key.id)
  · rw [System.commit_calls_self]
    exact .done trivial
  · rw [System.commit_calls_self]
    intro held hHeld
    cases hHeld

/- Every step of a call stays with the call's merchant. -/
theorem Effect.serves
    (hKeys : system.db.PrimaryKeys)
    (hAdmits : system.db.Admits draw)
    (hAnswers :
      ∀ row ∈ system.db.keys, ∀ body,
        row.responseBody = some body →
          Answerable start system.db row.merchantId body)
    (hWithin :
      (system.calls call).Within start system.db merchantId)
    (hMade :
      ∀ made, action.merchant = some made → made = merchantId)
    (hEffect :
      Effect config system call draw action next) :
    Serves start merchantId system call draw action
      next := by
  cases hEffect with
  | quiet hQuiet hTurn =>
      refine Serves.silent ?_ ?_ ?_
        (hTurn.held hKeys hAdmits hMade)
        (answered_of_keys (by rw [hQuiet.db]))
      · rw [hQuiet.db]
        exact Lineage.refl _
      · intro _ other _
        rw [hQuiet.db]
      · rw [hQuiet.db]
        exact hTurn.within hKeys hAdmits hAnswers hWithin
          hMade
  | createInsert hClaims hBody =>
      cases hMade _ rfl
      exact createInsert_serves hKeys hAdmits hClaims hBody
  | createProcess hCall _ hBody =>
      exact createProcess_serves hKeys hWithin hCall hBody
  | createAssess hCall =>
      exact createAssess_serves hKeys hWithin hCall
  | createBlock hCall _ _ hBody =>
      exact createBlock_serves hKeys hWithin hCall hBody
  | createFinish hCall _ _ hBody =>
      exact createFinish_serves hKeys hAdmits hWithin hCall
        hBody
  | captureSettled hClaims hSelect _ =>
      cases hMade _ rfl
      exact captureSettled_serves hKeys hAdmits hClaims
        hSelect
  | captureOpen hClaims _ hSelect _ _ =>
      cases hMade _ rfl
      exact captureOpen_serves hKeys hAdmits hClaims hSelect
        rfl (System.become_calls_self _ _ _)
  | captureFinish hCall _ hBody =>
      exact captureFinish_serves hKeys hWithin hCall hBody
        rfl (System.commit_calls_self _ _ _ _)
  | refundReserve hClaims _ hBody =>
      cases hMade _ rfl
      exact refundReserve_serves hKeys hAdmits hClaims hBody
  | refundAnswer hCall _ =>
      exact refundAnswer_serves hWithin hCall rfl
        (System.become_calls_self _ _ _)
  | refundFinish hCall _ _ hBody =>
      exact refundFinish_serves hKeys hWithin hCall hBody
  | receiveWebhook hCall =>
      rename_i delivery
      have hReceived :=
        receiveWebhook_lineage draw system.db delivery
      exact webhook_serves hReceived.1 hReceived.2 rfl
        (System.commit_calls_self _ _ _ _) trivial
  | dispatchFinish _ _ hBody =>
      rcases dispatchEffect_lineage hBody with
        ⟨hLineage, hStored⟩
      exact webhook_serves
        ⟨hLineage.payments, hLineage.keys, hLineage.refunds⟩
        hStored rfl (System.commit_calls_self _ _ _ _)
        trivial
  | reconcileApply hCall _ hBody =>
      exact reconcileApply_serves hKeys hAdmits hWithin
        hCall hBody
  | reconcileReport hCall =>
      exact reconcileReport_serves hKeys hWithin hCall
  | failWrite hCall _ =>
      exact failWrite_serves hWithin hCall

end PayGuard

------------------------------------------------------------
-- Runs
------------------------------------------------------------

namespace PayGuard

open Lts

/- The calls of a run keep to their merchants. -/
structure Tenanted
    (start : Database)
    (merchantOf : CallId → Uuid)
    (system : System) : Prop where
  keys : system.db.PrimaryKeys
  answers :
    ∀ row ∈ system.db.keys, ∀ body,
      row.responseBody = some body →
        Answerable start system.db row.merchantId body
  calls :
    ∀ call,
      (system.calls call).Within start system.db
        (merchantOf call)
  shared :
    ∀ call other key key',
      (system.calls call).claimedKey = some key →
        (system.calls other).claimedKey = some key' →
          key.id = key'.id →
            merchantOf call = merchantOf other

/- A begun call is made with the merchant it is counted to. -/
def Label.MadeWith
    (merchantOf : CallId → Uuid)
    (label : Label) : Prop :=
  ∀ made,
    label.action.merchant = some made →
      made = merchantOf label.call

variable {start : Database}
variable {merchantOf : CallId → Uuid}
variable {config : Config}
variable {system next : System}
variable {label : Label}

theorem tenanted_start
    (hKeys : start.PrimaryKeys) :
    Tenanted start merchantOf { db := start } where
  keys := hKeys
  answers := by
    intro row hRow body hBody
    exact .inr ⟨row, hRow, rfl, hBody⟩
  calls := by
    intro call
    refine ⟨?_, ?_, ?_, ?_, ?_, ?_⟩
    · simp [Call.merchant]
    · simp [Call.claimedKey]
    · simp [Call.uncommitted]
    · simp [Call.payment]
    · simp [Call.reservation]
    · simp
  shared := by simp [Call.claimedKey]

/- A step of a call is served for the call's merchant. -/
theorem Tenanted.serves
    (hTenanted : Tenanted start merchantOf system)
    (hMade : label.MadeWith merchantOf)
    (hStep : step config system label = some next) :
    Serves start (merchantOf label.call) system label.call
      label.draw label.action next := by
  rcases step_effect hStep with ⟨hAdmits, hEffect⟩
  exact hEffect.serves hTenanted.keys hAdmits
    hTenanted.answers (hTenanted.calls label.call) hMade

/- Appending at most one new identifier repeats none. -/
theorem nodup_append
    {owners added : List (Uuid × Uuid)}
    {id owner : Uuid}
    (hNodup : (owners.map (·.1)).Nodup)
    (hNew : AtMostNew owners id owner added) :
    ((owners ++ added).map (·.1)).Nodup := by
  rcases hNew with rfl | ⟨rfl, hFresh⟩
  · rw [List.append_nil]
    exact hNodup
  · rw [List.map_append, List.map_singleton,
      List.nodup_append]
    refine ⟨hNodup, List.nodup_singleton _, ?_⟩
    intro found hFound drawn hDrawn hSame
    rw [hSame, List.mem_singleton.mp hDrawn] at hFound
    exact hFresh hFound

theorem tenanted_step
    (hTenanted : Tenanted start merchantOf system)
    (hUndrawn : Undrawn system label)
    (hMade : label.MadeWith merchantOf)
    (hStep : step config system label = some next) :
    Tenanted start merchantOf next := by
  have hServes := hTenanted.serves hMade hStep
  have hFrame := (step_effect hStep).2.frame
  rcases hServes.lineage with
    ⟨payments, keys, refunds, keyRowId, paid, hLineage,
      hPayments, hKeys, hRefunds, hDrawn⟩
  -- whoever holds the appended key row is of this merchant
  have hHolder :
      ∀ other key found,
        (system.calls other).claimedKey = some key →
          (key.id, found) ∈ keys →
            found = merchantOf other := by
    intro other key found hKey hFound
    rcases hKeys with rfl | ⟨rfl, _⟩
    · cases hFound
    · rcases Prod.mk.inj (List.mem_singleton.mp hFound) with
        ⟨hId, rfl⟩
      rcases hDrawn with hNew | ⟨held, hHeld, hSame⟩
      · exact absurd (hId.trans hNew)
          (hUndrawn other key hKey)
      · exact hTenanted.shared label.call other held key
          hHeld hKey (hSame.trans hId.symm)
  have hOther :
      ∀ other,
        other ≠ label.call →
          next.calls other = system.calls other :=
    hFrame.calls
  -- a key row the call newly holds is nobody else's
  have hShared :
      ∀ other key key',
        other ≠ label.call →
          (next.calls label.call).claimedKey = some key →
            (system.calls other).claimedKey = some key' →
              key.id = key'.id →
                merchantOf label.call = merchantOf other := by
    intro other key key' hNe hKey hKey' hId
    rcases hServes.held key hKey with
      hHeld | hNew | hStored
    · exact hTenanted.shared label.call other key key'
        hHeld hKey' hId
    · exact absurd (hId.symm.trans hNew)
        (hUndrawn other key' hKey')
    · rw [hId] at hStored
      exact ((hTenanted.calls other).key key' hKey').2 _
        hStored
  refine
    { keys := ⟨?_, ?_⟩
      answers := ?_
      calls := ?_
      shared := ?_ }
  · rw [← paymentOwners_fst, hLineage.payments]
    apply nodup_append _ hPayments
    rw [paymentOwners_fst]
    exact hTenanted.keys.payments
  · rw [← keyOwners_fst, hLineage.keys]
    apply nodup_append _ hKeys
    rw [keyOwners_fst]
    exact hTenanted.keys.keys
  · intro row hRow body hBody
    rcases hServes.answered with ⟨answer, hAnswered, hAnswer⟩
    rcases hAnswered row hRow body hBody with
      ⟨old, hOld, hMerchant, hStored⟩ | ⟨hMerchant, hSome⟩
    · rw [← hMerchant]
      exact hLineage.answerable
        (hTenanted.answers old hOld body hStored)
    · rw [hMerchant]
      exact hAnswer body hSome
  · intro call
    by_cases hCall : call = label.call
    · rw [hCall]
      exact hServes.position
    · rw [hOther call hCall]
      exact (hTenanted.calls call).carry hLineage
        (hHolder call) hRefunds
  · intro call other key key' hKey hKey' hId
    by_cases hCall : call = label.call
    · by_cases hOwn : other = label.call
      · rw [hCall, hOwn]
      · rw [hCall] at hKey ⊢
        rw [hOther other hOwn] at hKey'
        exact hShared other key key' hOwn hKey hKey' hId
    · rw [hOther call hCall] at hKey
      by_cases hOwn : other = label.call
      · rw [hOwn] at hKey' ⊢
        exact (hShared call key' key hCall hKey' hKey
          hId.symm).symm
      · rw [hOther other hOwn] at hKey'
        exact hTenanted.shared call other key key' hKey hKey'
          hId

end PayGuard

import PayGuard.Lib.Confinement
import PayGuard.Payments.Service
import PayGuard.Reconciliation.Service

/-
  The rows of one merchant, and the writes confined to them.

  A tenant is a merchant together with the identifiers drawn
  for its requests.  `Separated` says that rows refer to rows
  of the same tenant only, and `restrict` keeps the tenant's.

  Key definitions include:
    * `Tenant`
    * `Tenant.restrict`
    * `Tenant.Separated`
    * `Tenant.frame`

  Key theorems include:
    * `confined_recordTransition`
    * `confined_putKey`
    * `confined_completeIdempotencyKey`
-/

------------------------------------------------------------
-- Tenants
------------------------------------------------------------

namespace PayGuard

open Confinement

/-
  A merchant and what belongs to it: its calls, the uuids and
  provider transactions drawn for them, and the idempotency
  keys it creates payments under.  `otherKeys` are the keys
  the other merchants create payments under.
-/
structure Tenant where
  merchantId : Uuid
  calls : Nat → Bool
  ids : Uuid → Bool
  transactions : String → Bool
  keys : String → Bool
  otherKeys : String → Bool
  apart : ∀ key, keys key = true → otherKeys key = false

namespace Tenant

variable (tenant : Tenant)

/- The request comes from this side. -/
def isMerchant (own : Bool) (merchantId : Uuid) : Prop :=
  decide (merchantId = tenant.merchantId) = own

/- A payment object of this side. -/
structure OwnsPayment
    (own : Bool)
    (intent : PaymentIntent) : Prop where
  id : tenant.ids intent.id = own
  merchant : tenant.isMerchant own intent.merchantId

/- A key row of this side. -/
structure OwnsKey
    (own : Bool)
    (row : IdempotencyKey) : Prop where
  id : tenant.ids row.id = own
  merchant : tenant.isMerchant own row.merchantId
  payment :
    ∀ paymentId,
      row.paymentIntentId = some paymentId →
        tenant.ids paymentId = own

/- An answer whose transaction was drawn for this side. -/
def OwnsResult
    (own : Bool)
    (result : ProviderResult) : Prop :=
  ∀ transactionId,
    result.providerTransactionId = some transactionId →
      tenant.transactions transactionId = own

/- The uuids a step of this side draws. -/
structure OwnsDraw
    (own : Bool)
    (draw : Draw) : Prop where
  key : tenant.ids draw.key = own
  payment : tenant.ids draw.payment = own
  attempt : tenant.ids draw.attempt = own
  refund : tenant.ids draw.refund = own

/- Every row belongs to one side with all it refers to. -/
structure Separated (db : Database) : Prop where
  payments :
    ∀ row ∈ db.payments,
      tenant.OwnsPayment (tenant.ids row.id) row
  attempts :
    ∀ row ∈ db.attempts,
      tenant.ids row.paymentIntentId = tenant.ids row.id
  transactions :
    ∀ row ∈ db.providerTransactions,
      tenant.transactions row.providerTransactionId =
        tenant.ids row.paymentAttemptId
  keys :
    ∀ row ∈ db.keys,
      tenant.OwnsKey (tenant.ids row.id) row
  refunds :
    ∀ row ∈ db.refunds,
      tenant.ids row.paymentIntentId = tenant.ids row.id

/- The rows of the tenant. -/
def restrict (db : Database) : Database where
  payments := db.payments.filter (fun row => tenant.ids row.id)
  attempts :=
    db.attempts.filter (fun row =>
      tenant.ids row.paymentIntentId)
  providerTransactions :=
    db.providerTransactions.filter (fun row =>
      tenant.ids row.paymentAttemptId)
  keys := db.keys.filter (fun row => tenant.ids row.id)
  events :=
    db.events.filter (fun row =>
      tenant.ids row.paymentIntentId)
  refunds :=
    db.refunds.filter (fun row =>
      tenant.ids row.paymentIntentId)
  outbox :=
    db.outbox.filter (fun row => tenant.ids row.aggregateId)
  ledger :=
    db.ledger.filter (fun row =>
      tenant.ids row.paymentIntentId)
  auditLogs :=
    db.auditLogs.filter (fun row => tenant.ids row.paymentId)
  reports :=
    db.reports.filter (fun row =>
      tenant.ids row.paymentIntentId)

/- What the tenant sees of a separated database. -/
def frame : Viewpoint Database where
  good := tenant.Separated
  view := tenant.restrict

end Tenant

------------------------------------------------------------
-- Filtered Tables
------------------------------------------------------------

variable {tenant : Tenant}
variable {own : Bool}

/- A separated database stays so where two tables keep. -/
theorem separated_empty :
    tenant.Separated {} where
  payments := by simp
  attempts := by simp
  transactions := by simp
  keys := by simp
  refunds := by simp

end PayGuard

------------------------------------------------------------
-- Writes
------------------------------------------------------------

namespace PayGuard

open Confinement

variable {tenant : Tenant}
variable {own : Bool}
variable {draw : Draw}

/- A transition of a payment stays with its owner. -/
theorem confined_recordTransition
    {intent : PaymentIntent}
    {toStatus : PaymentStatus}
    {actor : Actor}
    {eventType : String}
    (hId : tenant.ids intent.id = own) :
    ConfinedWrite tenant.frame own
      (fun db =>
        db.recordTransition intent toStatus actor eventType
          draw) where
  good := by
    intro db hSeparated
    refine { hSeparated with payments := ?_ }
    intro row hRow
    rcases Table.mem_updateWhere.mp hRow with
      ⟨old, hOld, rfl⟩
    have hOwner := hSeparated.payments old hOld
    split
    · exact ⟨rfl, hOwner.merchant⟩
    · exact hOwner
  inside := by
    rintro rfl db _
    simp only [Tenant.frame, Tenant.restrict,
      Database.recordTransition, List.filter_append,
      List.filter_singleton, hId]
    rw [Table.filter_updateWhere]
    · rfl
    · intro row _
      rfl
  outside := by
    rintro rfl db _
    have hPayments :
        (Table.updateWhere
          (fun row : PaymentIntent => row.id = intent.id)
          (flushPayment intent (intent.moveTo toStatus))
          db.payments).filter (fun row => tenant.ids row.id) =
          db.payments.filter (fun row => tenant.ids row.id) := by
      apply Table.filter_updateWhere_of_dropped
      · intro row _
        rfl
      · intro row _ hRow
        rw [of_decide_eq_true hRow]
        exact hId
    simp [Tenant.frame, Tenant.restrict,
      Database.recordTransition, List.filter_append, hId,
      hPayments]

/- A claimed version replaces the row with its own id. -/
theorem keyRow_sameId
    (keyRow row : IdempotencyKey)
    (hSame : decide (row.id = keyRow.id) = true) :
    tenant.ids keyRow.id = tenant.ids row.id := by
  rw [of_decide_eq_true hSame]

/- A claimed key row is stored with its owner's rows. -/
theorem confined_putKey
    {keyRow : IdempotencyKey}
    (hKey : tenant.OwnsKey own keyRow) :
    ConfinedWrite tenant.frame own
      (fun db => db.putKey keyRow) where
  good := by
    intro db hSeparated
    have hRow : tenant.OwnsKey (tenant.ids keyRow.id) keyRow := by
      rw [hKey.id]
      exact hKey
    unfold Database.putKey
    split
    · refine { hSeparated with keys := ?_ }
      intro row hMember
      rcases Table.mem_updateWhere.mp hMember with
        ⟨old, hOld, rfl⟩
      split
      · exact hRow
      · exact hSeparated.keys old hOld
    · refine { hSeparated with keys := ?_ }
      intro row hMember
      rcases List.mem_append.mp hMember with hOld | hNew
      · exact hSeparated.keys row hOld
      · rw [List.mem_singleton.mp hNew]
        exact hRow
  inside := by
    rintro rfl db _
    have hStored :
        keyRow.id ∈ (tenant.restrict db).keys.map (·.id) ↔
          keyRow.id ∈ db.keys.map (·.id) := by
      simp only [Tenant.restrict, List.mem_map,
        List.mem_filter]
      constructor
      · rintro ⟨row, ⟨hRow, _⟩, hSame⟩
        exact ⟨row, hRow, hSame⟩
      · rintro ⟨row, hRow, hSame⟩
        exact ⟨row, ⟨hRow, by rw [hSame, hKey.id]⟩, hSame⟩
    simp only [Tenant.frame, Database.putKey, hStored]
    split
    · simp only [Tenant.restrict]
      rw [Table.filter_updateWhere (keyRow_sameId keyRow)]
    · simp [Tenant.restrict, List.filter_append, hKey.id]
  outside := by
    rintro rfl db _
    simp only [Tenant.frame, Database.putKey]
    split
    · simp only [Tenant.restrict]
      rw [Table.filter_updateWhere_of_dropped
        (keyRow_sameId keyRow)]
      intro row _ hSame
      rw [of_decide_eq_true hSame]
      exact hKey.id
    · simp [Tenant.restrict, List.filter_append, hKey.id]

/- Updating one key row by its id stays with its owner. -/
theorem confined_updateKey
    {keyRowId : Uuid}
    {change : IdempotencyKey → IdempotencyKey}
    (hId : tenant.ids keyRowId = own)
    (hKeeps : ∀ row, (change row).id = row.id)
    (hOwner :
      ∀ row,
        tenant.OwnsKey own row →
          tenant.OwnsKey own (change row)) :
    ConfinedWrite tenant.frame own
      (fun db =>
        { db with
          keys :=
            Table.updateWhere
              (fun row => row.id = keyRowId) change
              db.keys }) where
  good := by
    intro db hSeparated
    refine { hSeparated with keys := ?_ }
    intro row hMember
    rcases Table.mem_updateWhere.mp hMember with
      ⟨old, hOld, rfl⟩
    have hOld := hSeparated.keys old hOld
    split
    · rename_i hSame
      rw [of_decide_eq_true hSame, hId] at hOld
      have hNew := hOwner old hOld
      rw [hNew.id]
      exact hNew
    · exact hOld
  inside := by
    rintro rfl db _
    simp only [Tenant.frame, Tenant.restrict]
    rw [Table.filter_updateWhere]
    intro row _
    rw [hKeeps]
  outside := by
    rintro rfl db _
    simp only [Tenant.frame, Tenant.restrict]
    rw [Table.filter_updateWhere_of_dropped]
    · intro row _
      rw [hKeeps]
    · intro row _ hSame
      rw [of_decide_eq_true hSame]
      exact hId

theorem confined_completeIdempotencyKey
    {keyRowId paymentId : Uuid}
    {responseStatus : Nat}
    {responseBody : ResponseBody}
    {refundId : Option Uuid}
    (hId : tenant.ids keyRowId = own)
    (hPayment : tenant.ids paymentId = own) :
    ConfinedWrite tenant.frame own
      (fun db =>
        completeIdempotencyKey db keyRowId (some paymentId)
          responseStatus responseBody refundId) := by
  apply confined_updateKey hId
  · intro row
    rfl
  · intro row hOwner
    refine ⟨hOwner.id, hOwner.merchant, ?_⟩
    intro other hOther
    cases hOther
    exact hPayment

theorem confined_failIdempotencyKey
    {keyRowId : Uuid}
    (hId : tenant.ids keyRowId = own) :
    ConfinedWrite tenant.frame own
      (fun db => failIdempotencyKey db keyRowId) := by
  apply confined_updateKey hId
  · intro row
    rfl
  · intro row hOwner
    exact ⟨hOwner.id, hOwner.merchant, hOwner.payment⟩

/- A booking stays with the payment it is for. -/
theorem confined_recordPair
    {pair : LedgerEntry × LedgerEntry}
    (hFirst : tenant.ids pair.1.paymentIntentId = own)
    (hSecond : tenant.ids pair.2.paymentIntentId = own) :
    ConfinedWrite tenant.frame own
      (fun db => recordPair db pair) where
  good := by
    intro db hSeparated
    exact { hSeparated with }
  inside := by
    rintro rfl db _
    simp [Tenant.frame, Tenant.restrict, recordPair,
      List.filter_append, hFirst, hSecond]
  outside := by
    rintro rfl db _
    simp [Tenant.frame, Tenant.restrict, recordPair,
      List.filter_append, hFirst, hSecond]

theorem confined_setRefundStatus
    {refundId : Uuid}
    {status : RefundStatus}
    (hId : tenant.ids refundId = own) :
    ConfinedWrite tenant.frame own
      (fun db => setRefundStatus db refundId status) where
  good := by
    intro db hSeparated
    refine { hSeparated with refunds := ?_ }
    intro row hMember
    rcases Table.mem_updateWhere.mp hMember with
      ⟨old, hOld, rfl⟩
    have hOwner := hSeparated.refunds old hOld
    split
    · exact hOwner
    · exact hOwner
  inside := by
    rintro rfl db _
    simp only [Tenant.frame, Tenant.restrict,
      setRefundStatus]
    rw [Table.filter_updateWhere]
    intro row _
    rfl
  outside := by
    rintro rfl db hSeparated
    simp only [Tenant.frame, Tenant.restrict,
      setRefundStatus]
    rw [Table.filter_updateWhere_of_dropped]
    · intro row _
      rfl
    · intro row hRow hSame
      rw [hSeparated.refunds row hRow,
        of_decide_eq_true hSame]
      exact hId

/- Inserted attempts belong to their payment's side. -/
theorem confined_appendAttempt
    {attempt : PaymentAttempt}
    (hId : tenant.ids attempt.id = own)
    (hPayment : tenant.ids attempt.paymentIntentId = own) :
    ConfinedWrite tenant.frame own
      (fun db =>
        { db with attempts := db.attempts ++ [attempt] }) where
  good := by
    intro db hSeparated
    refine { hSeparated with attempts := ?_ }
    intro row hMember
    rcases List.mem_append.mp hMember with hOld | hNew
    · exact hSeparated.attempts row hOld
    · rw [List.mem_singleton.mp hNew, hId, hPayment]
  inside := by
    rintro rfl db _
    simp [Tenant.frame, Tenant.restrict, List.filter_append,
      hPayment]
  outside := by
    rintro rfl db _
    simp [Tenant.frame, Tenant.restrict, List.filter_append,
      hPayment]

theorem confined_appendTransaction
    {transaction : ProviderTransaction}
    (hAttempt :
      tenant.ids transaction.paymentAttemptId = own)
    (hTransaction :
      tenant.transactions
        transaction.providerTransactionId = own) :
    ConfinedWrite tenant.frame own
      (fun db =>
        { db with
          providerTransactions :=
            db.providerTransactions ++ [transaction] }) where
  good := by
    intro db hSeparated
    refine { hSeparated with transactions := ?_ }
    intro row hMember
    rcases List.mem_append.mp hMember with hOld | hNew
    · exact hSeparated.transactions row hOld
    · rw [List.mem_singleton.mp hNew, hAttempt, hTransaction]
  inside := by
    rintro rfl db _
    simp [Tenant.frame, Tenant.restrict, List.filter_append,
      hAttempt]
  outside := by
    rintro rfl db _
    simp [Tenant.frame, Tenant.restrict, List.filter_append,
      hAttempt]

theorem confined_appendPayment
    {intent : PaymentIntent}
    (hIntent : tenant.OwnsPayment own intent) :
    ConfinedWrite tenant.frame own
      (fun db =>
        { db with payments := db.payments ++ [intent] }) where
  good := by
    intro db hSeparated
    refine { hSeparated with payments := ?_ }
    intro row hMember
    rcases List.mem_append.mp hMember with hOld | hNew
    · exact hSeparated.payments row hOld
    · rw [List.mem_singleton.mp hNew, hIntent.id]
      exact hIntent
  inside := by
    rintro rfl db _
    simp [Tenant.frame, Tenant.restrict, List.filter_append,
      hIntent.id]
  outside := by
    rintro rfl db _
    simp [Tenant.frame, Tenant.restrict, List.filter_append,
      hIntent.id]

theorem confined_appendRefund
    {refund : Refund}
    (hId : tenant.ids refund.id = own)
    (hPayment : tenant.ids refund.paymentIntentId = own) :
    ConfinedWrite tenant.frame own
      (fun db =>
        { db with refunds := db.refunds ++ [refund] }) where
  good := by
    intro db hSeparated
    refine { hSeparated with refunds := ?_ }
    intro row hMember
    rcases List.mem_append.mp hMember with hOld | hNew
    · exact hSeparated.refunds row hOld
    · rw [List.mem_singleton.mp hNew, hId, hPayment]
  inside := by
    rintro rfl db _
    simp [Tenant.frame, Tenant.restrict, List.filter_append,
      hPayment]
  outside := by
    rintro rfl db _
    simp [Tenant.frame, Tenant.restrict, List.filter_append,
      hPayment]

/- The first event of a payment and its announcement. -/
theorem confined_announce
    {event : PaymentEvent}
    {announcement : OutboxEvent}
    (hEvent : tenant.ids event.paymentIntentId = own)
    (hOutbox : tenant.ids announcement.aggregateId = own) :
    ConfinedWrite tenant.frame own
      (fun db =>
        { db with
          events := db.events ++ [event]
          outbox := db.outbox ++ [announcement] }) where
  good := by
    intro db hSeparated
    exact { hSeparated with }
  inside := by
    rintro rfl db _
    simp [Tenant.frame, Tenant.restrict, List.filter_append,
      hEvent, hOutbox]
  outside := by
    rintro rfl db _
    simp [Tenant.frame, Tenant.restrict, List.filter_append,
      hEvent, hOutbox]

theorem confined_appendAuditLog
    {auditLog : AuditLog}
    (hPayment : tenant.ids auditLog.paymentId = own) :
    ConfinedWrite tenant.frame own
      (fun db =>
        { db with
          auditLogs := db.auditLogs ++ [auditLog] }) where
  good := by
    intro db hSeparated
    exact { hSeparated with }
  inside := by
    rintro rfl db _
    simp [Tenant.frame, Tenant.restrict, List.filter_append,
      hPayment]
  outside := by
    rintro rfl db _
    simp [Tenant.frame, Tenant.restrict, List.filter_append,
      hPayment]

theorem confined_writeReport
    {report : ReconciliationReport}
    (hPayment : tenant.ids report.paymentIntentId = own) :
    ConfinedWrite tenant.frame own
      (fun db => writeReport db report) where
  good := by
    intro db hSeparated
    exact { hSeparated with }
  inside := by
    rintro rfl db _
    simp [Tenant.frame, Tenant.restrict, writeReport,
      List.filter_append, hPayment]
  outside := by
    rintro rfl db _
    simp [Tenant.frame, Tenant.restrict, writeReport,
      List.filter_append, hPayment]

end PayGuard

------------------------------------------------------------
-- Reads
------------------------------------------------------------

namespace PayGuard

variable {tenant : Tenant}
variable {own : Bool}
variable {db : Database}

/- A merchant's payments are found in its own rows. -/
theorem selectPayment_restrict
    (hSeparated : tenant.Separated db)
    (paymentId : Uuid)
    {merchantId : Uuid}
    (hMerchant : tenant.isMerchant true merchantId) :
    (tenant.restrict db).selectPayment paymentId merchantId =
      db.selectPayment paymentId merchantId := by
  apply Table.find?_of_kept
  intro row hRow hWanted
  have hColumns := of_decide_eq_true hWanted
  have hOwner := (hSeparated.payments row hRow).merchant
  unfold Tenant.isMerchant at hOwner hMerchant
  rw [hColumns.2, hMerchant] at hOwner
  exact hOwner.symm

/- A selected payment belongs to the merchant's side. -/
theorem ownsPayment_of_select
    {paymentId merchantId : Uuid}
    {intent : PaymentIntent}
    (hSeparated : tenant.Separated db)
    (hMerchant : tenant.isMerchant own merchantId)
    (hSelect :
      db.selectPayment paymentId merchantId = some intent) :
    tenant.OwnsPayment own intent := by
  unfold Database.selectPayment at hSelect
  have hMember := List.mem_of_find?_eq_some hSelect
  have hColumns := List.find?_some hSelect
  simp only [decide_eq_true_iff] at hColumns
  have hOwner := hSeparated.payments intent hMember
  have hSide : tenant.ids intent.id = own := by
    have hFirst := hOwner.merchant
    unfold Tenant.isMerchant at hFirst hMerchant
    rw [hColumns.2, hMerchant] at hFirst
    exact hFirst.symm
  rw [hSide] at hOwner
  exact hOwner

/- A lock yields the row or the object of that id. -/
theorem lockPayment_restrict
    (hSeparated : tenant.Separated db)
    (lockRead : LockRead)
    (loaded : Option PaymentIntent)
    (paymentId : Uuid)
    {merchantId : Uuid}
    (hMerchant : tenant.isMerchant true merchantId) :
    lockPayment lockRead (tenant.restrict db) loaded
        paymentId merchantId =
      lockPayment lockRead db loaded paymentId
        merchantId := by
  unfold lockPayment
  rw [selectPayment_restrict hSeparated paymentId hMerchant]

theorem ownsPayment_of_lock
    {lockRead : LockRead}
    {loaded : Option PaymentIntent}
    {paymentId merchantId : Uuid}
    {intent : PaymentIntent}
    (hSeparated : tenant.Separated db)
    (hMerchant : tenant.isMerchant own merchantId)
    (hLoaded :
      ∀ object,
        loaded = some object → tenant.OwnsPayment own object)
    (hLock :
      lockPayment lockRead db loaded paymentId merchantId =
        some intent) :
    tenant.OwnsPayment own intent := by
  unfold lockPayment at hLock
  split at hLock
  · cases hLock
  · rename_i row hSelect
    have hRow :=
      ownsPayment_of_select hSeparated hMerchant hSelect
    split at hLock
    · rename_i object
      split at hLock
      · cases hLock
        exact hLoaded intent rfl
      · cases hLock
        exact hRow
    · cases hLock
      exact hRow

/- A merchant's key rows are found in its own rows. -/
theorem findKey_restrict
    (hSeparated : tenant.Separated db)
    (idempotencyKey : String)
    {merchantId : Uuid}
    (hMerchant : tenant.isMerchant true merchantId) :
    (tenant.restrict db).findKey merchantId idempotencyKey =
      db.findKey merchantId idempotencyKey := by
  apply Table.find?_of_kept
  intro row hRow hWanted
  have hColumns := of_decide_eq_true hWanted
  have hOwner := (hSeparated.keys row hRow).merchant
  unfold Tenant.isMerchant at hOwner hMerchant
  rw [hColumns.1, hMerchant] at hOwner
  exact hOwner.symm

theorem ownsKey_of_find
    {merchantId : Uuid}
    {idempotencyKey : String}
    {row : IdempotencyKey}
    (hSeparated : tenant.Separated db)
    (hMerchant : tenant.isMerchant own merchantId)
    (hFind :
      db.findKey merchantId idempotencyKey = some row) :
    tenant.OwnsKey own row := by
  unfold Database.findKey at hFind
  have hMember := List.mem_of_find?_eq_some hFind
  have hColumns := List.find?_some hFind
  simp only [decide_eq_true_iff] at hColumns
  have hOwner := hSeparated.keys row hMember
  have hSide : tenant.ids row.id = own := by
    have hFirst := hOwner.merchant
    unfold Tenant.isMerchant at hFirst hMerchant
    rw [hColumns.1, hMerchant] at hFirst
    exact hFirst.symm
  rw [hSide] at hOwner
  exact hOwner

theorem getKey_restrict
    {keyRowId : Uuid}
    (hId : tenant.ids keyRowId = true) :
    (tenant.restrict db).getKey keyRowId =
      db.getKey keyRowId := by
  apply Table.find?_of_kept
  intro row _ hWanted
  rw [of_decide_eq_true hWanted]
  exact hId

theorem nextAttemptNumber_restrict
    {paymentId : Uuid}
    (hId : tenant.ids paymentId = true) :
    nextAttemptNumber (tenant.restrict db) paymentId =
      nextAttemptNumber db paymentId := by
  unfold nextAttemptNumber
  congr 1
  apply Table.countP_of_kept
  intro row _ hWanted
  rw [of_decide_eq_true hWanted]
  exact hId

theorem reservedAmount_restrict
    {paymentId : Uuid}
    (hId : tenant.ids paymentId = true) :
    reservedAmount (tenant.restrict db) paymentId =
      reservedAmount db paymentId := by
  apply Table.sumWhere_of_kept
  intro row _ hWanted
  simp only [Bool.and_eq_true, decide_eq_true_iff]
    at hWanted
  rw [hWanted.1]
  exact hId

theorem refundedAmount_restrict
    {paymentId : Uuid}
    (hId : tenant.ids paymentId = true) :
    refundedAmount (tenant.restrict db) paymentId =
      refundedAmount db paymentId := by
  apply Table.sumWhere_of_kept
  intro row _ hWanted
  simp only [Bool.and_eq_true, decide_eq_true_iff]
    at hWanted
  rw [hWanted.1]
  exact hId

theorem pendingRefunds_restrict
    {paymentId : Uuid}
    (hId : tenant.ids paymentId = true) :
    pendingRefunds (tenant.restrict db) paymentId =
      pendingRefunds db paymentId := by
  apply Table.countP_of_kept
  intro row _ hWanted
  rw [(of_decide_eq_true hWanted).1]
  exact hId

/- The joined transactions of a payment are all its own. -/
theorem latestSuccessfulProviderTransaction_restrict
    {paymentId : Uuid}
    (hSeparated : tenant.Separated db)
    (hId : tenant.ids paymentId = true) :
    latestSuccessfulProviderTransaction
        (tenant.restrict db) paymentId =
      latestSuccessfulProviderTransaction db paymentId := by
  unfold latestSuccessfulProviderTransaction
  simp only [Tenant.restrict, List.filterMap_filter]
  have hJoined :
      db.attempts.filterMap (fun attempt =>
          if tenant.ids attempt.paymentIntentId = true then
            if attempt.paymentIntentId = paymentId ∧
                attempt.status = .succeeded then
              ((db.providerTransactions.filter (fun row =>
                tenant.ids row.paymentAttemptId)).find?
                  (fun transaction =>
                    transaction.paymentAttemptId =
                      attempt.id)).map
                (fun transaction =>
                  (attempt.attemptNumber, transaction))
            else
              none
          else
            none) =
        db.attempts.filterMap (fun attempt =>
          if attempt.paymentIntentId = paymentId ∧
              attempt.status = .succeeded then
            (db.providerTransactions.find?
                (fun transaction =>
                  transaction.paymentAttemptId =
                    attempt.id)).map
              (fun transaction =>
                (attempt.attemptNumber, transaction))
          else
            none) := by
    apply List.filterMap_congr
    intro attempt hAttempt
    by_cases hWanted :
        attempt.paymentIntentId = paymentId ∧
          attempt.status = .succeeded
    · have hOwn : tenant.ids attempt.paymentIntentId = true := by
        rw [hWanted.1]
        exact hId
      have hAttemptId : tenant.ids attempt.id = true := by
        rw [← hSeparated.attempts attempt hAttempt]
        exact hOwn
      rw [if_pos hOwn, if_pos hWanted, if_pos hWanted,
        Table.find?_of_kept]
      intro row _ hRow
      rw [of_decide_eq_true hRow]
      exact hAttemptId
    · simp [hWanted]
  rw [hJoined]

/- The keys that name a payment are all its own. -/
theorem originalIdempotencyKey_restrict
    {paymentId : Uuid}
    (hSeparated : tenant.Separated db)
    (hId : tenant.ids paymentId = true)
    (pick : Uuid) :
    originalIdempotencyKey (tenant.restrict db) paymentId
        pick =
      originalIdempotencyKey db paymentId pick := by
  have hRows :
      (tenant.restrict db).keys.filter (fun row =>
          row.paymentIntentId = some paymentId) =
        db.keys.filter (fun row =>
          row.paymentIntentId = some paymentId) := by
    apply Table.filter_of_kept
    intro row hRow hWanted
    have hOwner := hSeparated.keys row hRow
    rw [← hOwner.payment paymentId
      (of_decide_eq_true hWanted)]
    exact hId
  unfold originalIdempotencyKey earliestKeys
  rw [hRows]

/- The risk engine counts the merchant's own rows. -/
theorem assessPaymentRisk_restrict
    {merchantId : Uuid}
    (hSeparated : tenant.Separated db)
    (hMerchant : tenant.isMerchant true merchantId)
    (amountMinor : Int)
    (billingCountry shippingCountry customerIp :
      Option String)
    (now : Timestamp) :
    assessPaymentRisk (tenant.restrict db) merchantId
        amountMinor billingCountry shippingCountry
        customerIp now =
      assessPaymentRisk db merchantId amountMinor
        billingCountry shippingCountry customerIp now := by
  have hOwn :
      ∀ row ∈ db.payments,
        row.merchantId = merchantId →
          tenant.ids row.id = true := by
    intro row hRow hSame
    have hOwner := (hSeparated.payments row hRow).merchant
    unfold Tenant.isMerchant at hOwner hMerchant
    rw [hSame, hMerchant] at hOwner
    exact hOwner.symm
  have hVelocity :
      velocityCount (tenant.restrict db) merchantId now =
        velocityCount db merchantId now := by
    apply Table.countP_of_kept
    intro row hRow hWanted
    exact hOwn row hRow (of_decide_eq_true hWanted).1
  have hPayments :
      ∀ paymentId,
        (tenant.restrict db).payments.any (fun intent =>
            intent.id = paymentId ∧
              intent.merchantId = merchantId) =
          db.payments.any (fun intent =>
            intent.id = paymentId ∧
              intent.merchantId = merchantId) := by
    intro paymentId
    apply Table.any_of_kept
    intro row hRow hWanted
    exact hOwn row hRow (of_decide_eq_true hWanted).2
  have hDeclined :
      declinedCount (tenant.restrict db) merchantId now =
        declinedCount db merchantId now := by
    unfold declinedCount
    simp only [hPayments]
    apply Table.countP_of_kept
    intro row hRow hWanted
    have hAny := (of_decide_eq_true hWanted).1
    rcases List.any_eq_true.mp hAny with
      ⟨intent, hIntent, hColumns⟩
    have hBoth := of_decide_eq_true hColumns
    rw [← hBoth.1]
    exact hOwn intent hIntent hBoth.2
  unfold assessPaymentRisk velocitySignal
    repeatedFailuresSignal
  rw [hVelocity, hDeclined]

end PayGuard

import PayGuard.System.Effects

/-
  The rows that belong to a merchant, and transactions that
  spare those of every other merchant.

  Payments and idempotency keys name their merchant; every
  other row leads to one through the payment it belongs to.
  A write is followed by what it appends to the owners of
  payments, key rows and refunds, so that ownership carries
  over to the next write.

  Key definitions include:
    * `Database.rowsOf`
    * `Spares`
    * `Grows`

  Key theorems include:
    * `createInsert_grows`
    * `createFinish_grows`
    * `captureFinish_grows`
    * `refundReserve_grows`
    * `refundFinalize_grows`
    * `reconcileApply_grows`
-/

------------------------------------------------------------
-- Rows Of A Merchant
------------------------------------------------------------

namespace PayGuard

namespace Database

variable (db : Database)
variable (merchantId : Uuid)

def holdsAttempt (attemptId : Uuid) : Bool :=
  db.attempts.any (fun row =>
    row.id = attemptId ∧
      db.holdsPayment merchantId row.paymentIntentId = true)

/- The rows that lead to a merchant by their references. -/
def rowsOf : Database where
  payments :=
    db.payments.filter (fun row =>
      row.merchantId = merchantId)
  attempts :=
    db.attempts.filter (fun row =>
      db.holdsPayment merchantId row.paymentIntentId)
  providerTransactions :=
    db.providerTransactions.filter (fun row =>
      db.holdsAttempt merchantId row.paymentAttemptId)
  keys :=
    db.keys.filter (fun row => row.merchantId = merchantId)
  events :=
    db.events.filter (fun row =>
      db.holdsPayment merchantId row.paymentIntentId)
  refunds :=
    db.refunds.filter (fun row =>
      db.holdsPayment merchantId row.paymentIntentId)
  outbox :=
    db.outbox.filter (fun row =>
      db.holdsPayment merchantId row.aggregateId)
  ledger :=
    db.ledger.filter (fun row =>
      db.holdsPayment merchantId row.paymentIntentId)
  auditLogs :=
    db.auditLogs.filter (fun row =>
      db.holdsPayment merchantId row.paymentId)
  reports :=
    db.reports.filter (fun row =>
      db.holdsPayment merchantId row.paymentIntentId)

/- Payment and key rows are told apart by their ids. -/
structure PrimaryKeys : Prop where
  payments : (db.payments.map (·.id)).Nodup
  keys : (db.keys.map (·.id)).Nodup

end Database

/- No row of another merchant changes. -/
def Spares
    (merchantId : Uuid)
    (db next : Database) : Prop :=
  ∀ other,
    other ≠ merchantId → next.rowsOf other = db.rowsOf other

------------------------------------------------------------
-- Owners
------------------------------------------------------------

namespace Database

variable (db : Database)

/- Each payment with its merchant. -/
def paymentOwners : List (Uuid × Uuid) :=
  db.payments.map (fun row => (row.id, row.merchantId))

/- Each key row with its merchant. -/
def keyOwners : List (Uuid × Uuid) :=
  db.keys.map (fun row => (row.id, row.merchantId))

/- Each refund with its payment. -/
def refundOwners : List (Uuid × Uuid) :=
  db.refunds.map (fun row => (row.id, row.paymentIntentId))

end Database

/- Nothing but this owner is on file for the identifier. -/
def OnlyOwner
    (owners : List (Uuid × Uuid))
    (id owner : Uuid) : Prop :=
  ∀ found, (id, found) ∈ owners → found = owner

variable {db mid next : Database}
variable {merchantId other : Uuid}

theorem holdsPayment_iff
    {paymentId : Uuid} :
    db.holdsPayment merchantId paymentId = true ↔
      (paymentId, merchantId) ∈ db.paymentOwners := by
  simp [Database.holdsPayment, Database.paymentOwners]

/- An identifier on file once has one owner. -/
theorem onlyOwner_of_nodup
    {owners : List (Uuid × Uuid)}
    {id owner : Uuid}
    (hNodup : (owners.map (·.1)).Nodup)
    (hOwner : (id, owner) ∈ owners) :
    OnlyOwner owners id owner := by
  intro found hFound
  have hSame :=
    List.inj_on_of_nodup_map hNodup hFound hOwner rfl
  exact congrArg Prod.snd hSame

theorem paymentOwners_fst
    (db : Database) :
    db.paymentOwners.map (·.1) = db.payments.map (·.id) := by
  unfold Database.paymentOwners
  rw [List.map_map]
  rfl

theorem keyOwners_fst
    (db : Database) :
    db.keyOwners.map (·.1) = db.keys.map (·.id) := by
  unfold Database.keyOwners
  rw [List.map_map]
  rfl

theorem refundOwners_fst
    (db : Database) :
    db.refundOwners.map (·.1) = db.refunds.map (·.id) := by
  unfold Database.refundOwners
  rw [List.map_map]
  rfl

/- A payment of one merchant is no other merchant's. -/
theorem holdsPayment_eq_false
    {paymentId : Uuid}
    (hOnly : OnlyOwner db.paymentOwners paymentId merchantId)
    (hOther : other ≠ merchantId) :
    db.holdsPayment other paymentId = false := by
  rw [← Bool.not_eq_true, holdsPayment_iff]
  intro hHolds
  exact hOther (hOnly other hHolds)

------------------------------------------------------------
-- Sparing A Merchant
------------------------------------------------------------

/-
  The tables agree on the rows of a merchant.  A field that
  is left out is one the write does not touch.
-/
structure SameRows
    (other : Uuid)
    (db next : Database) : Prop where
  payments :
    next.payments.filter (fun row =>
        row.merchantId = other) =
      db.payments.filter (fun row =>
        row.merchantId = other) := by rfl
  attempts :
    next.attempts.filter (fun row =>
        db.holdsPayment other row.paymentIntentId) =
      db.attempts.filter (fun row =>
        db.holdsPayment other row.paymentIntentId) := by rfl
  transactions :
    next.providerTransactions.filter (fun row =>
        db.holdsAttempt other row.paymentAttemptId) =
      db.providerTransactions.filter (fun row =>
        db.holdsAttempt other row.paymentAttemptId) := by rfl
  keys :
    next.keys.filter (fun row => row.merchantId = other) =
      db.keys.filter (fun row =>
        row.merchantId = other) := by rfl
  events :
    next.events.filter (fun row =>
        db.holdsPayment other row.paymentIntentId) =
      db.events.filter (fun row =>
        db.holdsPayment other row.paymentIntentId) := by rfl
  refunds :
    next.refunds.filter (fun row =>
        db.holdsPayment other row.paymentIntentId) =
      db.refunds.filter (fun row =>
        db.holdsPayment other row.paymentIntentId) := by rfl
  outbox :
    next.outbox.filter (fun row =>
        db.holdsPayment other row.aggregateId) =
      db.outbox.filter (fun row =>
        db.holdsPayment other row.aggregateId) := by rfl
  ledger :
    next.ledger.filter (fun row =>
        db.holdsPayment other row.paymentIntentId) =
      db.ledger.filter (fun row =>
        db.holdsPayment other row.paymentIntentId) := by rfl
  auditLogs :
    next.auditLogs.filter (fun row =>
        db.holdsPayment other row.paymentId) =
      db.auditLogs.filter (fun row =>
        db.holdsPayment other row.paymentId) := by rfl
  reports :
    next.reports.filter (fun row =>
        db.holdsPayment other row.paymentIntentId) =
      db.reports.filter (fun row =>
        db.holdsPayment other row.paymentIntentId) := by rfl

theorem SameRows.refl
    (other : Uuid)
    (db : Database) : SameRows other db db :=
  ⟨rfl, rfl, rfl, rfl, rfl, rfl, rfl, rfl, rfl, rfl⟩

/- Whether a merchant holds a payment is in its own rows. -/
theorem holdsPayment_filter
    (db : Database)
    (paymentId : Uuid) :
    db.holdsPayment other paymentId =
      (db.payments.filter (fun row =>
        row.merchantId = other)).any (fun row =>
          row.id = paymentId) := by
  rw [Bool.eq_iff_iff]
  simp [Database.holdsPayment, and_comm, and_assoc]

theorem holdsAttempt_filter
    (db : Database)
    (attemptId : Uuid) :
    db.holdsAttempt other attemptId =
      (db.attempts.filter (fun row =>
        db.holdsPayment other row.paymentIntentId)).any
          (fun row => row.id = attemptId) := by
  rw [Bool.eq_iff_iff]
  simp [Database.holdsAttempt, and_comm]

theorem SameRows.rowsOf
    (hSame : SameRows other db next) :
    next.rowsOf other = db.rowsOf other := by
  have hPayment :
      next.holdsPayment other = db.holdsPayment other := by
    funext paymentId
    rw [holdsPayment_filter, holdsPayment_filter,
      hSame.payments]
  have hAttempt :
      next.holdsAttempt other = db.holdsAttempt other := by
    funext attemptId
    rw [holdsAttempt_filter, holdsAttempt_filter, hPayment,
      hSame.attempts]
  simp only [Database.rowsOf, hPayment, hAttempt,
    hSame.payments, hSame.attempts, hSame.transactions,
    hSame.keys, hSame.events, hSame.refunds, hSame.outbox,
    hSame.ledger, hSame.auditLogs, hSame.reports]

end PayGuard

------------------------------------------------------------
-- Writes
------------------------------------------------------------

namespace PayGuard

/- The owners a transaction appends. -/
structure Lineage
    (db next : Database)
    (payments keys refunds : List (Uuid × Uuid)) : Prop where
  payments :
    next.paymentOwners = db.paymentOwners ++ payments
  keys : next.keyOwners = db.keyOwners ++ keys
  refunds : next.refundOwners = db.refundOwners ++ refunds

/- A transaction of a merchant, with the owners it appends. -/
structure Grows
    (merchantId : Uuid)
    (db next : Database)
    (payments keys refunds : List (Uuid × Uuid)) : Prop
    extends Lineage db next payments keys refunds where
  spares : Spares merchantId db next

variable {db mid next : Database}
variable {merchantId : Uuid}
variable {draw : Draw}

namespace Lineage

theorem trans
    {payments keys refunds : List (Uuid × Uuid)}
    {payments' keys' refunds' : List (Uuid × Uuid)}
    (hFirst : Lineage db mid payments keys refunds)
    (hSecond : Lineage mid next payments' keys' refunds') :
    Lineage db next (payments ++ payments') (keys ++ keys')
      (refunds ++ refunds') where
  payments := by
    rw [hSecond.payments, hFirst.payments, List.append_assoc]
  keys := by
    rw [hSecond.keys, hFirst.keys, List.append_assoc]
  refunds := by
    rw [hSecond.refunds, hFirst.refunds, List.append_assoc]

/- Tables whose rows keep their owners have the same ones. -/
theorem of_eq
    (hPayments : next.paymentOwners = db.paymentOwners)
    (hKeys : next.keyOwners = db.keyOwners)
    (hRefunds : next.refundOwners = db.refundOwners) :
    Lineage db next [] [] [] where
  payments := by rw [hPayments, List.append_nil]
  keys := by rw [hKeys, List.append_nil]
  refunds := by rw [hRefunds, List.append_nil]

theorem refl (db : Database) : Lineage db db [] [] [] :=
  of_eq rfl rfl rfl

end Lineage

namespace Grows

theorem trans
    {payments keys refunds : List (Uuid × Uuid)}
    {payments' keys' refunds' : List (Uuid × Uuid)}
    (hFirst : Grows merchantId db mid payments keys refunds)
    (hSecond :
      Grows merchantId mid next payments' keys' refunds') :
    Grows merchantId db next (payments ++ payments')
      (keys ++ keys') (refunds ++ refunds') where
  toLineage := hFirst.toLineage.trans hSecond.toLineage
  spares := by
    intro other hOther
    rw [hSecond.spares other hOther,
      hFirst.spares other hOther]

/- Work that follows the commit of a claimed key row. -/
theorem afterKey
    {payments keys refunds : List (Uuid × Uuid)}
    (hFirst : Grows merchantId db mid [] keys [])
    (hSecond :
      Grows merchantId mid next payments [] refunds) :
    Grows merchantId db next payments keys refunds := by
  simpa using hFirst.trans hSecond

/- Work that is followed by one that appends no owner. -/
theorem andThen
    {payments keys refunds : List (Uuid × Uuid)}
    (hFirst : Grows merchantId db mid payments keys refunds)
    (hSecond : Grows merchantId mid next [] [] []) :
    Grows merchantId db next payments keys refunds := by
  simpa using hFirst.trans hSecond

theorem refl
    (merchantId : Uuid)
    (db : Database) :
    Grows merchantId db db [] [] [] where
  toLineage := Lineage.refl db
  spares := fun _ _ => rfl

/- A write whose rows keep their owners. -/
theorem of_sameRows
    (hSame :
      ∀ other, other ≠ merchantId → SameRows other db next)
    (hPayments : next.paymentOwners = db.paymentOwners)
    (hKeys : next.keyOwners = db.keyOwners)
    (hRefunds : next.refundOwners = db.refundOwners) :
    Grows merchantId db next [] [] [] where
  toLineage := Lineage.of_eq hPayments hKeys hRefunds
  spares := fun other hOther => (hSame other hOther).rowsOf

theorem key
    {payments refunds : List (Uuid × Uuid)}
    {keyRowId : Uuid}
    (hGrows : Grows merchantId db next payments [] refunds)
    (hOnly : OnlyOwner db.keyOwners keyRowId merchantId) :
    OnlyOwner next.keyOwners keyRowId merchantId := by
  rw [hGrows.keys, List.append_nil]
  exact hOnly

/- What is owned before a transaction is owned after it. -/
theorem payment
    {keys refunds : List (Uuid × Uuid)}
    {paymentId : Uuid}
    (hGrows : Grows merchantId db next [] keys refunds)
    (hOnly :
      OnlyOwner db.paymentOwners paymentId merchantId) :
    OnlyOwner next.paymentOwners paymentId merchantId := by
  rw [hGrows.payments, List.append_nil]
  exact hOnly

end Grows

theorem recordTransition_lineage
    (intent : PaymentIntent)
    (toStatus : PaymentStatus)
    (actor : Actor)
    (eventType : String) :
    Lineage db
      (db.recordTransition intent toStatus actor eventType
        draw) [] [] [] := by
  apply Lineage.of_eq
  · apply Table.map_updateWhere
    intro row
    rfl
  · rfl
  · rfl

theorem Moved.lineage
    {intent : PaymentIntent}
    (hMoved : Moved db intent next) :
    Lineage db next [] [] [] := by
  cases hMoved with
  | stay => exact Lineage.refl db
  | move toStatus actor eventType draw _ =>
      exact recordTransition_lineage intent toStatus actor
        eventType

theorem recordTransition_grows
    {intent : PaymentIntent}
    (toStatus : PaymentStatus)
    (actor : Actor)
    (eventType : String)
    (hOnly :
      OnlyOwner db.paymentOwners intent.id merchantId) :
    Grows merchantId db
      (db.recordTransition intent toStatus actor eventType
        draw) [] [] [] where
  toLineage :=
    recordTransition_lineage intent toStatus actor eventType
  spares := by
    intro other hOther
    have hFalse := holdsPayment_eq_false hOnly hOther
    apply SameRows.rowsOf
    refine { SameRows.refl other db with
      payments := ?_
      events := ?_
      outbox := ?_ }
    · apply Table.filter_updateWhere_of_dropped
      · intro row _
        rfl
      · intro row hRow hId
        have hOwner : row.merchantId = merchantId :=
          hOnly row.merchantId (List.mem_map.mpr
            ⟨row, hRow, by rw [of_decide_eq_true hId]⟩)
        rw [hOwner]
        exact decide_eq_false (Ne.symm hOther)
    · simp [Database.recordTransition, hFalse]
    · simp [Database.recordTransition, hFalse]

theorem Moved.grows
    {intent : PaymentIntent}
    (hMoved : Moved db intent next)
    (hOnly :
      OnlyOwner db.paymentOwners intent.id merchantId) :
    Grows merchantId db next [] [] [] := by
  cases hMoved with
  | stay => exact Grows.refl merchantId db
  | move toStatus actor eventType draw _ =>
      exact recordTransition_grows toStatus actor eventType
        hOnly

/- Updating one of the merchant's key rows. -/
theorem updateKey_grows
    {keyRowId : Uuid}
    {change : IdempotencyKey → IdempotencyKey}
    (hOnly : OnlyOwner db.keyOwners keyRowId merchantId)
    (hKeeps :
      ∀ row,
        ((change row).id, (change row).merchantId) =
          (row.id, row.merchantId)) :
    Grows merchantId db
      { db with
        keys :=
          Table.updateWhere (fun row => row.id = keyRowId)
            change db.keys } [] [] [] := by
  apply Grows.of_sameRows
  · intro other hOther
    refine { SameRows.refl other db with keys := ?_ }
    apply Table.filter_updateWhere_of_dropped
    · intro row _
      rw [(Prod.mk.inj (hKeeps row)).2]
    · intro row hRow hId
      have hOwner : row.merchantId = merchantId :=
        hOnly row.merchantId (List.mem_map.mpr
          ⟨row, hRow, by rw [of_decide_eq_true hId]⟩)
      rw [hOwner]
      exact decide_eq_false (Ne.symm hOther)
  · rfl
  · apply Table.map_updateWhere
    exact hKeeps
  · rfl

theorem completeIdempotencyKey_grows
    {keyRowId : Uuid}
    {paymentIntentId refundId : Option Uuid}
    {responseStatus : Nat}
    {responseBody : ResponseBody}
    (hOnly : OnlyOwner db.keyOwners keyRowId merchantId) :
    Grows merchantId db
      (completeIdempotencyKey db keyRowId paymentIntentId
        responseStatus responseBody refundId) [] [] [] :=
  updateKey_grows hOnly (fun _ => rfl)

theorem failIdempotencyKey_grows
    {keyRowId : Uuid}
    (hOnly : OnlyOwner db.keyOwners keyRowId merchantId) :
    Grows merchantId db (failIdempotencyKey db keyRowId)
      [] [] [] :=
  updateKey_grows hOnly (fun _ => rfl)

/- At most one owner is appended, under a new identifier. -/
def AtMostNew
    (owners : List (Uuid × Uuid))
    (id owner : Uuid)
    (added : List (Uuid × Uuid)) : Prop :=
  added = [] ∨
    (added = [(id, owner)] ∧ id ∉ owners.map (·.1))

theorem Grows.newKey
    {payments keys refunds : List (Uuid × Uuid)}
    {keyRowId : Uuid}
    (hGrows :
      Grows merchantId db next payments keys refunds)
    (hNew :
      AtMostNew db.keyOwners keyRowId merchantId keys)
    (hOnly : OnlyOwner db.keyOwners keyRowId merchantId) :
    OnlyOwner next.keyOwners keyRowId merchantId := by
  intro found hFound
  rw [hGrows.keys] at hFound
  rcases List.mem_append.mp hFound with hOld | hAdded
  · exact hOnly found hOld
  · rcases hNew with rfl | ⟨rfl, _⟩
    · cases hAdded
    · exact (Prod.mk.inj (List.mem_singleton.mp hAdded)).2

theorem putKey_grows
    {keyRow : IdempotencyKey}
    (hMerchant : keyRow.merchantId = merchantId)
    (hOnly : OnlyOwner db.keyOwners keyRow.id merchantId) :
    ∃ added,
      AtMostNew db.keyOwners keyRow.id merchantId added ∧
        Grows merchantId db (db.putKey keyRow)
          [] added [] := by
  unfold Database.putKey
  split
  · refine ⟨[], .inl rfl, ?_⟩
    have hOwner :
        ∀ row ∈ db.keys,
          row.id = keyRow.id → row.merchantId = merchantId := by
      intro row hRow hId
      exact hOnly row.merchantId
        (List.mem_map.mpr ⟨row, hRow, by rw [hId]⟩)
    apply Grows.of_sameRows
    · intro other hOther
      refine { SameRows.refl other db with keys := ?_ }
      apply Table.filter_updateWhere_of_unseen
      · intro row hRow hId
        rw [hOwner row hRow (of_decide_eq_true hId)]
        exact decide_eq_false (Ne.symm hOther)
      · intro row _ _
        rw [hMerchant]
        exact decide_eq_false (Ne.symm hOther)
    · rfl
    · apply Table.map_updateWhere_of_mem
      intro row hRow hId
      have hSame := of_decide_eq_true hId
      rw [hOwner row hRow hSame, hMerchant, hSame]
    · rfl
  · rename_i hNew
    refine ⟨[(keyRow.id, merchantId)], .inr ⟨rfl, ?_⟩, ?_⟩
    · rw [keyOwners_fst]
      exact hNew
    · refine ⟨⟨?_, ?_, ?_⟩, ?_⟩
      · exact (List.append_nil _).symm
      · simp [Database.keyOwners, hMerchant]
      · exact (List.append_nil _).symm
      · intro other hOther
        apply SameRows.rowsOf
        refine { SameRows.refl other db with keys := ?_ }
        simp [List.filter_append, hMerchant,
          Ne.symm hOther]

theorem recordPair_grows
    {pair : LedgerEntry × LedgerEntry}
    {paymentId : Uuid}
    (hFirst : pair.1.paymentIntentId = paymentId)
    (hSecond : pair.2.paymentIntentId = paymentId)
    (hOnly :
      OnlyOwner db.paymentOwners paymentId merchantId) :
    Grows merchantId db (recordPair db pair) [] [] [] := by
  apply Grows.of_sameRows
  · intro other hOther
    have hFalse := holdsPayment_eq_false hOnly hOther
    refine { SameRows.refl other db with ledger := ?_ }
    simp [recordPair, List.filter_append, hFirst, hSecond,
      hFalse]
  · rfl
  · rfl
  · rfl

theorem setRefundStatus_grows
    {refundId paymentId : Uuid}
    (status : RefundStatus)
    (hRefund : OnlyOwner db.refundOwners refundId paymentId)
    (hOnly :
      OnlyOwner db.paymentOwners paymentId merchantId) :
    Grows merchantId db (setRefundStatus db refundId status)
      [] [] [] := by
  apply Grows.of_sameRows
  · intro other hOther
    refine { SameRows.refl other db with refunds := ?_ }
    apply Table.filter_updateWhere_of_dropped
    · intro row _
      rfl
    · intro row hRow hId
      have hPayment : row.paymentIntentId = paymentId :=
        hRefund row.paymentIntentId (List.mem_map.mpr
          ⟨row, hRow, by rw [of_decide_eq_true hId]⟩)
      rw [hPayment]
      exact holdsPayment_eq_false hOnly hOther
  · rfl
  · rfl
  · apply Table.map_updateWhere
    intro row
    rfl

theorem appendAttempt_grows
    {attempt : PaymentAttempt}
    (hOnly :
      OnlyOwner db.paymentOwners attempt.paymentIntentId
        merchantId) :
    Grows merchantId db
      { db with attempts := db.attempts ++ [attempt] }
      [] [] [] := by
  apply Grows.of_sameRows
  · intro other hOther
    have hFalse := holdsPayment_eq_false hOnly hOther
    refine { SameRows.refl other db with attempts := ?_ }
    simp [List.filter_append, hFalse]
  · rfl
  · rfl
  · rfl

/- Transactions of attempts that are the merchant's. -/
theorem appendTransactions_grows
    {attemptId : Uuid}
    {added : List ProviderTransaction}
    (hAdded :
      ∀ row ∈ added, row.paymentAttemptId = attemptId)
    (hAttempt :
      ∀ row ∈ db.attempts,
        row.id = attemptId →
          OnlyOwner db.paymentOwners row.paymentIntentId
            merchantId) :
    Grows merchantId db
      { db with
        providerTransactions :=
          db.providerTransactions ++ added } [] [] [] := by
  apply Grows.of_sameRows
  · intro other hOther
    have hFalse :
        db.holdsAttempt other attemptId = false := by
      rw [Database.holdsAttempt, List.any_eq_false]
      intro row hRow hWanted
      have hBoth := of_decide_eq_true hWanted
      have hOwner :=
        holdsPayment_eq_false (hAttempt row hRow hBoth.1)
          hOther
      rw [hOwner] at hBoth
      cases hBoth.2
    refine { SameRows.refl other db with transactions := ?_ }
    rw [List.filter_append, List.append_right_eq_self]
    rw [List.filter_eq_nil_iff]
    intro row hRow hHolds
    rw [hAdded row hRow, hFalse] at hHolds
    cases hHolds
  · rfl
  · rfl
  · rfl

/- A new payment with its event and its announcement. -/
theorem appendPayment_grows
    {intent : PaymentIntent}
    {event : PaymentEvent}
    {announcement : OutboxEvent}
    (hMerchant : intent.merchantId = merchantId)
    (hFresh : intent.id ∉ db.payments.map (·.id))
    (hEvent : event.paymentIntentId = intent.id)
    (hOutbox : announcement.aggregateId = intent.id) :
    Grows merchantId db
      { db with
        payments := db.payments ++ [intent]
        events := db.events ++ [event]
        outbox := db.outbox ++ [announcement] }
      [(intent.id, merchantId)] [] [] where
  payments := by simp [Database.paymentOwners, hMerchant]
  keys := (List.append_nil _).symm
  refunds := (List.append_nil _).symm
  spares := by
    intro other hOther
    have hOnly :
        OnlyOwner db.paymentOwners intent.id merchantId := by
      intro found hFound
      rw [← paymentOwners_fst] at hFresh
      exact absurd (List.mem_map_of_mem hFound) hFresh
    have hFalse := holdsPayment_eq_false hOnly hOther
    apply SameRows.rowsOf
    refine { SameRows.refl other db with
      payments := ?_
      events := ?_
      outbox := ?_ }
    · simp [List.filter_append, hMerchant, Ne.symm hOther]
    · simp [List.filter_append, hEvent, hFalse]
    · simp [List.filter_append, hOutbox, hFalse]

theorem appendRefund_grows
    {refund : Refund}
    (hOnly :
      OnlyOwner db.paymentOwners refund.paymentIntentId
        merchantId) :
    Grows merchantId db
      { db with refunds := db.refunds ++ [refund] } [] []
      [(refund.id, refund.paymentIntentId)] where
  payments := (List.append_nil _).symm
  keys := (List.append_nil _).symm
  refunds := by simp [Database.refundOwners]
  spares := by
    intro other hOther
    have hFalse := holdsPayment_eq_false hOnly hOther
    apply SameRows.rowsOf
    refine { SameRows.refl other db with refunds := ?_ }
    simp [List.filter_append, hFalse]

theorem writeReport_grows
    {report : ReconciliationReport}
    (hOnly :
      OnlyOwner db.paymentOwners report.paymentIntentId
        merchantId) :
    Grows merchantId db (writeReport db report)
      [] [] [] := by
  apply Grows.of_sameRows
  · intro other hOther
    have hFalse := holdsPayment_eq_false hOnly hOther
    refine { SameRows.refl other db with reports := ?_ }
    simp [writeReport, List.filter_append, hFalse]
  · rfl
  · rfl
  · rfl

end PayGuard

------------------------------------------------------------
-- Transactions
------------------------------------------------------------

namespace PayGuard

variable {db db' : Database}
variable {merchantId : Uuid}
variable {locked : Option PaymentIntent}
variable {intent moved : PaymentIntent}
variable {keyRow : IdempotencyKey}
variable {keyRowId : Uuid}
variable {result : ProviderResult}
variable {response : Response}
variable {draw : Draw}

/- The locked object is one of the merchant's payments. -/
theorem locked_onlyOwner
    {lockRead : LockRead}
    {loaded : Option PaymentIntent}
    {paymentId : Uuid}
    (hKeys : db.PrimaryKeys)
    (hLock :
      lockPayment lockRead db loaded paymentId merchantId =
        some intent) :
    db.holdsPayment merchantId intent.id = true ∧
      OnlyOwner db.paymentOwners intent.id merchantId := by
  have hHolds :
      db.holdsPayment merchantId intent.id = true := by
    rcases lockPayment_eq_some hLock with ⟨row, hSelect, _⟩
    rcases selectPayment_eq_some hSelect with
      ⟨hRow, hId, hMerchant⟩
    rw [lockPayment_id hLock, holdsPayment_iff]
    exact List.mem_map.mpr
      ⟨row, hRow, by rw [hId, hMerchant]⟩
  refine ⟨hHolds, onlyOwner_of_nodup ?_
    (holdsPayment_iff.mp hHolds)⟩
  rw [paymentOwners_fst]
  exact hKeys.payments

theorem createInsert_grows
    {indexable : PyString → Bool}
    {request : CreateRequest}
    (hMerchant : keyRow.merchantId = request.merchantId)
    (hOnly :
      OnlyOwner db.keyOwners keyRow.id request.merchantId)
    (hFresh : draw.payment ∉ db.payments.map (·.id))
    (hBody :
      createInsert indexable db request keyRow draw =
        .ok (db', intent)) :
    ∃ added,
      AtMostNew db.keyOwners keyRow.id request.merchantId
          added ∧
        Grows request.merchantId db db'
          [(draw.payment, request.merchantId)] added [] := by
  rcases createInsert_eq_ok hBody with ⟨rfl, _, rfl⟩
  rcases putKey_grows hMerchant hOnly with
    ⟨added, hAdded, hPut⟩
  refine ⟨added, hAdded, ?_⟩
  rcases putKey_eq db keyRow with ⟨keys, hKeys⟩
  rw [hKeys] at hPut ⊢
  exact hPut.afterKey
    (appendPayment_grows rfl hFresh rfl rfl)

theorem createProcess_grows
    (hOnly :
      ∀ intent,
        locked = some intent →
          OnlyOwner db.paymentOwners intent.id merchantId)
    (hBody :
      createProcess db locked draw = .ok (db', moved)) :
    Grows merchantId db db' [] [] [] := by
  rcases createProcess_eq_ok hBody with
    ⟨intent, hLocked, hApply⟩
  exact (Moved.of_applyTransition hApply).grows
    (hOnly intent hLocked)

theorem createAssess_grows
    (request : CreateRequest)
    (draw : Draw)
    (hOnly :
      OnlyOwner db.paymentOwners intent.id merchantId) :
    Grows merchantId db
      (createAssess db request intent draw).1 [] [] [] := by
  apply Grows.of_sameRows
  · intro other hOther
    have hFalse := holdsPayment_eq_false hOnly hOther
    refine { SameRows.refl other db with auditLogs := ?_ }
    simp [createAssess, List.filter_append, hFalse]
  · rfl
  · rfl
  · rfl

theorem createBlock_grows
    (hKey : OnlyOwner db.keyOwners keyRowId merchantId)
    (hOnly :
      ∀ intent,
        locked = some intent →
          OnlyOwner db.paymentOwners intent.id merchantId)
    (hBody :
      createBlock db locked keyRowId draw =
        .ok (db', response)) :
    Grows merchantId db db' [] [] [] := by
  rcases createBlock_eq_ok hBody with
    ⟨intent, base, moved, hLocked, hApply, rfl, _⟩
  have hMoved :=
    (Moved.of_applyTransition hApply).grows
      (hOnly intent hLocked)
  exact hMoved.andThen
    (completeIdempotencyKey_grows (hMoved.key hKey))

/- An attempt, its transition and its transactions. -/
theorem recorded_grows
    {base : Database}
    {attempt : PaymentAttempt}
    {added : List ProviderTransaction}
    (hFresh : draw.attempt ∉ db.attempts.map (·.id))
    (hOnly :
      OnlyOwner db.paymentOwners intent.id merchantId)
    (hRecorded : Recorded db intent.id draw attempt added)
    (hBase :
      Grows merchantId
        { db with attempts := db.attempts ++ [attempt] }
        base [] [] [])
    (hAttempts :
      base.attempts = db.attempts ++ [attempt]) :
    Grows merchantId db
      { base with
        providerTransactions :=
          base.providerTransactions ++ added } [] [] [] := by
  have hAttempt :
      OnlyOwner db.paymentOwners attempt.paymentIntentId
        merchantId := by
    rw [hRecorded.payment]
    exact hOnly
  have hAppend := appendAttempt_grows hAttempt
  have hMid := hAppend.andThen hBase
  refine hMid.andThen
    (appendTransactions_grows hRecorded.transactions ?_)
  intro row hRow hId
  rw [hAttempts] at hRow
  rcases List.mem_append.mp hRow with hOld | hNew
  · rw [← hId] at hFresh
    exact absurd (List.mem_map_of_mem hOld) hFresh
  · rw [List.mem_singleton.mp hNew]
    exact hMid.payment hAttempt

theorem createFinish_grows
    {providerName : String}
    (hKey : OnlyOwner db.keyOwners keyRowId merchantId)
    (hFresh : draw.attempt ∉ db.attempts.map (·.id))
    (hOnly :
      ∀ intent,
        locked = some intent →
          OnlyOwner db.paymentOwners intent.id merchantId)
    (hBody :
      createFinish db locked keyRowId providerName result
        draw = .ok (db', response)) :
    Grows merchantId db db' [] [] [] := by
  rcases createFinish_eq_ok hBody with
    ⟨intent, attempt, base, moved, added, hLocked, hApply,
      rfl, _, hRecorded⟩
  have hOwner := hOnly intent hLocked
  have hMoved := Moved.of_applyAuthorizeOutcome hApply
  have hGrows :=
    recorded_grows hFresh hOwner hRecorded
      (hMoved.grows hOwner) hMoved.attempts
  exact hGrows.andThen
    (completeIdempotencyKey_grows (hGrows.key hKey))

theorem applyCaptureOutcome_grows
    {outcome : ProviderOutcome}
    (hOnly :
      OnlyOwner db.paymentOwners intent.id merchantId)
    (hBody :
      applyCaptureOutcome db intent outcome draw =
        .ok (db', moved)) :
    Grows merchantId db db' [] [] [] := by
  rcases applyCaptureOutcome_eq_ok hBody with
    ⟨_, base, hApply, rfl⟩ | ⟨_, _, _, _, _, hApply⟩
  · have hMoved :=
      (Moved.of_applyTransition hApply).grows hOnly
    have hId : moved.id = intent.id :=
    Moved.id_of_applyTransition hApply
    refine hMoved.andThen (recordPair_grows rfl rfl ?_)
    rw [hId]
    exact hMoved.payment hOnly
  · exact (Moved.of_applyTransition hApply).grows hOnly

theorem captureSettled_grows
    (hMerchant : keyRow.merchantId = merchantId)
    (hKey : OnlyOwner db.keyOwners keyRow.id merchantId) :
    ∃ added,
      AtMostNew db.keyOwners keyRow.id merchantId added ∧
        Grows merchantId db
          (captureSettled db intent keyRow).1
          [] added [] := by
  rcases putKey_grows hMerchant hKey with
    ⟨added, hAdded, hPut⟩
  refine ⟨added, hAdded, hPut.andThen ?_⟩
  exact completeIdempotencyKey_grows
    (hPut.newKey hAdded hKey)

theorem captureFinish_grows
    (hMerchant : keyRow.merchantId = merchantId)
    (hKey : OnlyOwner db.keyOwners keyRow.id merchantId)
    (hOnly :
      OnlyOwner db.paymentOwners intent.id merchantId)
    (hBody :
      captureFinish db intent keyRow result draw =
        .ok (db', response)) :
    ∃ added,
      AtMostNew db.keyOwners keyRow.id merchantId added ∧
        Grows merchantId db db' [] added [] := by
  rcases captureFinish_eq_ok hBody with
    ⟨base, moved, hOutcome, rfl, _⟩
  rcases putKey_grows hMerchant hKey with
    ⟨added, hAdded, hPut⟩
  have hCaptured :=
    hPut.andThen (applyCaptureOutcome_grows
      (hPut.payment hOnly) hOutcome)
  refine ⟨added, hAdded, hCaptured.andThen ?_⟩
  exact completeIdempotencyKey_grows
    (hCaptured.newKey hAdded hKey)

theorem refundReserve_grows
    {request : RefundRequest}
    {reservation : Reservation}
    (hMerchant : keyRow.merchantId = merchantId)
    (hKey : OnlyOwner db.keyOwners keyRow.id merchantId)
    (hOnly :
      ∀ intent,
        locked = some intent →
          OnlyOwner db.paymentOwners intent.id merchantId)
    (hBody :
      refundReserve db locked request keyRow draw =
        .ok (db', reservation)) :
    ∃ added,
      AtMostNew db.keyOwners keyRow.id merchantId added ∧
        Grows merchantId db db' [] added
          [(reservation.refund.id,
            reservation.refund.paymentIntentId)] := by
  rcases refundReserve_eq_ok hBody with
    ⟨intent, hLocked, _, _, _, hRefund, _, hEnter⟩
  rcases putKey_grows hMerchant hKey with
    ⟨added, hAdded, hPut⟩
  have hOwner := hPut.payment (hOnly intent hLocked)
  have hPayment :
      OnlyOwner (db.putKey keyRow).paymentOwners
        reservation.refund.paymentIntentId merchantId := by
    rw [hRefund]
    exact hOwner
  have hReserved := appendRefund_grows hPayment
  refine ⟨added, hAdded, hPut.afterKey
    (hReserved.andThen ?_)⟩
  exact (Moved.of_enterRefundPending hEnter).grows
    (hReserved.payment hOwner)

theorem settleRefund_grows
    {refund : Refund}
    {paymentId : Uuid}
    (outcome : ProviderOutcome)
    (draw : Draw)
    (hRefund : OnlyOwner db.refundOwners refund.id paymentId)
    (hPayment :
      OnlyOwner db.paymentOwners paymentId merchantId)
    (hOnly :
      OnlyOwner db.paymentOwners intent.id merchantId) :
    Grows merchantId db
      (settleRefund db intent refund outcome draw)
      [] [] [] := by
  have hSet := fun status =>
    setRefundStatus_grows status hRefund hPayment
  unfold settleRefund
  simp only
  split
  · exact (hSet _).andThen
      (recordPair_grows rfl rfl ((hSet _).payment hOnly))
  · exact hSet _

theorem refundFinalize_grows
    {refund : Refund}
    {paymentId : Uuid}
    (hKey : OnlyOwner db.keyOwners keyRowId merchantId)
    (hRefund : OnlyOwner db.refundOwners refund.id paymentId)
    (hPayment :
      OnlyOwner db.paymentOwners paymentId merchantId)
    (hOnly :
      ∀ intent,
        locked = some intent →
          OnlyOwner db.paymentOwners intent.id merchantId)
    (hBody :
      refundFinalize db locked refund keyRowId result draw =
        .ok (db', response)) :
    Grows merchantId db db' [] [] [] := by
  rcases refundFinalize_eq_ok hBody with
    ⟨intent, left, moved, body, hLocked, hLeave, rfl, _⟩
  have hOwner := hOnly intent hLocked
  have hSettled :=
    settleRefund_grows result.outcome draw hRefund hPayment
      hOwner
  have hLeft :=
    hSettled.andThen
      ((Moved.of_leaveRefundPending hLeave).grows
        (hSettled.payment hOwner))
  exact hLeft.andThen
    (completeIdempotencyKey_grows (hLeft.key hKey))

theorem resolve_grows
    {providerName : String}
    {report : ReconciliationReport}
    (hFresh : draw.attempt ∉ db.attempts.map (·.id))
    (hOnly :
      OnlyOwner db.paymentOwners intent.id merchantId)
    (hBody :
      resolve db intent providerName result draw =
        .ok (db', report)) :
    Grows merchantId db db' [] [] [] := by
  rcases resolve_eq_ok hBody with
    ⟨_, _, hSucceeded⟩ | ⟨_, _, hFailed⟩
  · rcases resolveSucceeded_eq_ok hSucceeded with
      ⟨attempt, base, moved, added, hRecorded, hApply, rfl⟩
    have hMoved := Moved.of_applyTransition hApply
    have hBase := hMoved.grows hOnly
    have hId : moved.id = intent.id :=
    Moved.id_of_applyTransition hApply
    have hSettled :
        Grows merchantId base
          (recordPaymentSettled base moved.id
            moved.amountMinor draw) [] [] [] := by
      apply recordPair_grows rfl rfl
      rw [hId]
      exact hBase.payment hOnly
    exact recorded_grows hFresh hOnly hRecorded
      (hBase.andThen hSettled) hMoved.attempts
  · rcases resolveFailed_eq_ok hFailed with
      ⟨attempt, base, moved, hRecorded, hApply, rfl⟩
    have hBase :=
      (Moved.of_applyTransition hApply).grows hOnly
    refine hBase.andThen (appendAttempt_grows ?_)
    rw [hRecorded.payment]
    exact hBase.payment hOnly

theorem reconcileApply_grows
    {providerName : String}
    {report : ReconciliationReport}
    (hFresh : draw.attempt ∉ db.attempts.map (·.id))
    (hOnly :
      ∀ intent,
        locked = some intent →
          OnlyOwner db.paymentOwners intent.id merchantId)
    (hBody :
      reconcileApply db locked providerName result draw =
        .ok (db', report)) :
    Grows merchantId db db' [] [] [] := by
  rcases reconcileApply_eq_ok hBody with
    ⟨intent, hLocked, ⟨rfl, _⟩ |
      ⟨_, _, _, moved, hApply⟩ | ⟨_, hResolve⟩⟩
  · exact Grows.refl merchantId _
  · exact (Moved.of_applyTransition hApply).grows
      (hOnly intent hLocked)
  · exact resolve_grows hFresh (hOnly intent hLocked)
      hResolve

end PayGuard

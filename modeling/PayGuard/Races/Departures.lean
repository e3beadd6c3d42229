import PayGuard.Invariants.Settlement

/-
  A payment that waits in a status, and what is left once it
  has departed from it.

  Two services may both find a payment waiting and both move
  it on.  `Awaiting` is what they find, `Departed` is what a
  single departure leaves behind: one event, the status it
  names, and the ledger entries that status calls for.

  Key definitions include:
    * `Database.departures`
    * `SameBooks`
    * `Awaiting`
    * `Departed`
    * `Database.depart`

  Key theorems include:
    * `Awaiting.depart`
-/

------------------------------------------------------------
-- Waiting And Departing
------------------------------------------------------------

namespace PayGuard

/- The event takes its payment out of the status. -/
def PaymentEvent.leaves
    (event : PaymentEvent)
    (fromStatus : PaymentStatus) : Bool :=
  event.fromStatus = some fromStatus &&
    event.toStatus ≠ fromStatus

/- The events that take one payment out of the status. -/
def Database.departures
    (db : Database)
    (fromStatus : PaymentStatus)
    (paymentId : Uuid) : List PaymentEvent :=
  db.events.filter (fun event =>
    event.paymentIntentId = paymentId &&
      event.leaves fromStatus)

/- Two databases agree on payments, events and ledger. -/
structure SameBooks (db db' : Database) : Prop where
  payments : db'.payments = db.payments
  events : db'.events = db.events
  ledger : db'.ledger = db.ledger

/-
  A payment in this status that has not left it before, and
  that nothing has been booked for.
-/
structure Awaiting
    (db : Database)
    (fromStatus : PaymentStatus)
    (paymentId merchantId : Uuid)
    (row : PaymentIntent) : Prop where
  stored : db.selectPayment paymentId merchantId = some row
  status : row.status = fromStatus
  departures : db.departures fromStatus paymentId = []
  settlement : db.settlementOf paymentId = []

/-
  The payment has left the status once, for the status it
  is in, and its ledger entries are those of that status.
-/
structure Departed
    (db : Database)
    (fromStatus : PaymentStatus)
    (paymentId merchantId : Uuid)
    (row : PaymentIntent) : Prop where
  stored : db.selectPayment paymentId merchantId = some row
  event :
    ∃ event,
      db.departures fromStatus paymentId = [event] ∧
        event.toStatus = row.status
  settlement : ExactlyOnce db row

------------------------------------------------------------
-- What They Depend On
------------------------------------------------------------

variable {db db' : Database}
variable {fromStatus toStatus : PaymentStatus}
variable {paymentId merchantId : Uuid}
variable {row : PaymentIntent}
variable {actor : Actor}
variable {eventType : String}
variable {draw : Draw}

namespace SameBooks

theorem selectPayment
    (hSame : SameBooks db db')
    (paymentId merchantId : Uuid) :
    db'.selectPayment paymentId merchantId =
      db.selectPayment paymentId merchantId := by
  unfold Database.selectPayment
  rw [hSame.payments]

theorem departures
    (hSame : SameBooks db db')
    (fromStatus : PaymentStatus)
    (paymentId : Uuid) :
    db'.departures fromStatus paymentId =
      db.departures fromStatus paymentId := by
  unfold Database.departures
  rw [hSame.events]

theorem settlementOf
    (hSame : SameBooks db db')
    (paymentId : Uuid) :
    db'.settlementOf paymentId =
      db.settlementOf paymentId := by
  unfold Database.settlementOf
  rw [hSame.ledger]

end SameBooks

theorem Awaiting.sameBooks
    (hAwaiting :
      Awaiting db fromStatus paymentId merchantId row)
    (hSame : SameBooks db db') :
    Awaiting db' fromStatus paymentId merchantId row where
  stored := by
    rw [hSame.selectPayment]
    exact hAwaiting.stored
  status := hAwaiting.status
  departures := by
    rw [hSame.departures]
    exact hAwaiting.departures
  settlement := by
    rw [hSame.settlementOf]
    exact hAwaiting.settlement

theorem Departed.sameBooks
    (hDeparted :
      Departed db fromStatus paymentId merchantId row)
    (hSame : SameBooks db db') :
    Departed db' fromStatus paymentId merchantId row where
  stored := by
    rw [hSame.selectPayment]
    exact hDeparted.stored
  event := by
    rw [hSame.departures]
    exact hDeparted.event
  settlement := by
    unfold ExactlyOnce
    rw [hSame.settlementOf]
    exact hDeparted.settlement

------------------------------------------------------------
-- One Departure
------------------------------------------------------------

/- The stored row after its object was moved. -/
theorem selectPayment_recordTransition
    {intent : PaymentIntent}
    (hRow :
      db.selectPayment paymentId merchantId = some row)
    (hId : intent.id = paymentId) :
    (db.recordTransition intent toStatus actor eventType
        draw).selectPayment paymentId merchantId =
      some (flushPayment intent (intent.moveTo toStatus)
        row) := by
  have hSelected := (selectPayment_eq_some hRow).2.1
  unfold Database.selectPayment at hRow ⊢
  simp only [Database.recordTransition, Table.updateWhere,
    List.find?_map]
  have hSame :
      ((fun intent : PaymentIntent =>
          decide (intent.id = paymentId ∧
            intent.merchantId = merchantId)) ∘
        fun row =>
          if decide (row.id = intent.id) = true then
            flushPayment intent (intent.moveTo toStatus) row
          else
            row) =
        fun intent : PaymentIntent =>
          decide (intent.id = paymentId ∧
            intent.merchantId = merchantId) := by
    funext stored
    by_cases hStored : stored.id = intent.id
    · simp [hStored, flushPayment]
    · simp [hStored]
  rw [hSame, hRow]
  simp [hSelected, hId]

/- A transition out of the status is one more departure. -/
theorem departures_recordTransition
    {intent : PaymentIntent}
    (hId : intent.id = paymentId)
    (hStatus : intent.status = fromStatus)
    (hTarget : toStatus ≠ fromStatus) :
    ∃ event : PaymentEvent,
      event.toStatus = toStatus ∧
        (db.recordTransition intent toStatus actor eventType
            draw).departures fromStatus paymentId =
          db.departures fromStatus paymentId ++ [event] := by
  refine ⟨⟨intent.id, some intent.status, toStatus, actor,
    draw.serverNow⟩, rfl, ?_⟩
  unfold Database.departures
  rw [Database.recordTransition, List.filter_append]
  simp [PaymentEvent.leaves, hId, hStatus, hTarget]

/- A transition together with the booking it calls for. -/
def Database.depart
    (db : Database)
    (intent : PaymentIntent)
    (toStatus : PaymentStatus)
    (actor : Actor)
    (eventType : String)
    (draw : Draw) : Database :=
  settleByWebhook
    (db.recordTransition intent toStatus actor eventType
      draw)
    (intent.moveTo toStatus) toStatus draw

/- The booking leaves payments and events alone. -/
theorem depart_trail
    (db : Database)
    (intent : PaymentIntent)
    (toStatus : PaymentStatus)
    (actor : Actor)
    (eventType : String)
    (draw : Draw) :
    SameTrail
      (db.recordTransition intent toStatus actor eventType
        draw)
      (db.depart intent toStatus actor eventType draw) :=
  settleByWebhook_sameTrail _ _ _ _

theorem selectPayment_depart
    {intent : PaymentIntent}
    (hRow :
      db.selectPayment paymentId merchantId = some row)
    (hId : intent.id = paymentId) :
    (db.depart intent toStatus actor eventType
        draw).selectPayment paymentId merchantId =
      some (flushPayment intent (intent.moveTo toStatus)
        row) := by
  rw [← selectPayment_recordTransition hRow hId]
  unfold Database.selectPayment
  rw [(depart_trail db intent toStatus actor eventType
    draw).payments]

theorem departures_depart
    {intent : PaymentIntent}
    (hId : intent.id = paymentId)
    (hStatus : intent.status = fromStatus)
    (hTarget : toStatus ≠ fromStatus) :
    ∃ event : PaymentEvent,
      event.toStatus = toStatus ∧
        (db.depart intent toStatus actor eventType
            draw).departures fromStatus paymentId =
          db.departures fromStatus paymentId ++ [event] := by
  rcases departures_recordTransition hId hStatus hTarget
    with ⟨event, hEvent, hDepartures⟩
  refine ⟨event, hEvent, ?_⟩
  rw [← hDepartures]
  unfold Database.departures
  rw [(depart_trail db intent toStatus actor eventType
    draw).events]

/- The ledger of a payment after its departure. -/
theorem exactlyOnce_depart
    (hSettlement : db.settlementOf row.id = [])
    (hSettled : toStatus.Settled → toStatus = .succeeded) :
    ExactlyOnce
      (db.depart row toStatus actor eventType draw)
      (row.moveTo toStatus) := by
  have hBefore :
      (db.recordTransition row toStatus actor eventType
        draw).settlementOf row.id = [] := hSettlement
  unfold Database.depart settleByWebhook
  by_cases hTarget : toStatus = .succeeded
  · subst hTarget
    refine .inl ⟨trivial, draw.ledgerTransaction, ?_⟩
    rw [if_pos rfl, recordPaymentSettled_settlementOf]
    simp [PaymentIntent.moveTo, hBefore]
  · rw [if_neg hTarget]
    refine .inr ⟨?_, hBefore⟩
    intro hNow
    exact hTarget (hSettled hNow)

/- A waiting payment that moves on has departed. -/
theorem Awaiting.depart
    (hAwaiting :
      Awaiting db fromStatus paymentId merchantId row)
    (hTarget : toStatus ≠ fromStatus)
    (hSettled : toStatus.Settled → toStatus = .succeeded)
    (hSame :
      SameBooks
        (db.depart row toStatus actor eventType draw) db') :
    Departed db' fromStatus paymentId merchantId
      (row.moveTo toStatus) := by
  have hId := (selectPayment_eq_some hAwaiting.stored).2.1
  refine Departed.sameBooks ?_ hSame
  constructor
  · rw [selectPayment_depart hAwaiting.stored hId,
      flushPayment_self]
  · rcases departures_depart hId hAwaiting.status hTarget
      with ⟨event, hEvent, hDepartures⟩
    rw [hAwaiting.departures, List.nil_append]
      at hDepartures
    exact ⟨event, hDepartures, hEvent⟩
  · have hSettlement := hAwaiting.settlement
    rw [← hId] at hSettlement
    exact exactlyOnce_depart hSettlement hSettled

/- Sessions keep the objects they have loaded. -/
def loadedConfig : Config where
  lockRead := .identityMap
  sha256 := spellOut

end PayGuard

import PayGuard.System.Held

/-
  The audit trail, the version and the outbox rows of a
  payment move in lockstep.

  Key definitions include:
    * `Trail`
    * `Lockstep`
    * `Audited`

  Key theorems include:
    * `audit_trail_lockstep`
-/

------------------------------------------------------------
-- Trails
------------------------------------------------------------

namespace PayGuard

/-
  Events that lead from nothing to a status: the first one
  creates the payment, and each further one continues from
  the last along a transition allowed for its actor.
-/
inductive Trail : PaymentStatus → List PaymentEvent → Prop where
| created
    (event : PaymentEvent)
    (hFrom : event.fromStatus = none)
    (hTo : event.toStatus = .created) :
    Trail .created [event]
| next
    {status : PaymentStatus}
    {events : List PaymentEvent}
    (event : PaymentEvent)
    (hTrail : Trail status events)
    (hFrom : event.fromStatus = some status)
    (hValid :
      isValidPaymentTransition status event.toStatus
        (some event.actor) = true) :
    Trail event.toStatus (events ++ [event])

namespace Database

/- The events of one payment, in commit order. -/
def eventsOf
    (db : Database)
    (paymentId : Uuid) : List PaymentEvent :=
  db.events.filter (fun event =>
    event.paymentIntentId = paymentId)

/- The payloads of one payment's outbox rows, in order. -/
def outboxOf
    (db : Database)
    (paymentId : Uuid) : List OutboxPayload :=
  (db.outbox.filter (fun event =>
    event.aggregateType = .paymentIntent &&
      event.aggregateId = paymentId)).map (·.payload)

end Database

/- What the outbox rows of these events carry. -/
def announced
    (paymentId : Uuid) :
    List PaymentEvent → List OutboxPayload
| [] => []
| _ :: events =>
    .payment paymentId none ::
      events.map (fun event =>
        .payment paymentId (some event.toStatus))

/- Status, version and outbox rows agree with the events. -/
structure Lockstep
    (db : Database)
    (payment : PaymentIntent) : Prop where
  trail : Trail payment.status (db.eventsOf payment.id)
  version :
    payment.version = (db.eventsOf payment.id).length
  outbox :
    db.outboxOf payment.id =
      announced payment.id (db.eventsOf payment.id)

/- Every payment is in lockstep and owns its rows. -/
structure Audited (db : Database) : Prop where
  lockstep :
    ∀ payment ∈ db.payments, Lockstep db payment
  eventOwner :
    ∀ event ∈ db.events,
      event.paymentIntentId ∈ db.payments.map (·.id)
  outboxOwner :
    ∀ row ∈ db.paymentOutbox,
      row.1 ∈ db.payments.map (·.id)

end PayGuard

------------------------------------------------------------
-- One Step
------------------------------------------------------------

namespace PayGuard

variable {config : Config}
variable {system next : System}
variable {db db' : Database}
variable {call : CallId}

theorem outboxOf_eq_filter
    (db : Database)
    (paymentId : Uuid) :
    db.outboxOf paymentId =
      (db.paymentOutbox.filter (fun row =>
        row.1 = paymentId)).map (·.2) := by
  unfold Database.outboxOf Database.paymentOutbox
  rw [List.filter_map, List.map_map, List.filter_filter]
  congr 1
  apply List.filter_congr
  intro event _
  exact Bool.and_comm _ _

/- A trail has a first event. -/
theorem Trail.ne_nil
    {status : PaymentStatus}
    {events : List PaymentEvent}
    (hTrail : Trail status events) : events ≠ [] := by
  cases hTrail <;> simp

/- One more event announces one more payload. -/
theorem announced_append
    {paymentId : Uuid}
    {events : List PaymentEvent}
    (hEvents : events ≠ [])
    (event : PaymentEvent) :
    announced paymentId (events ++ [event]) =
      announced paymentId events ++
        [.payment paymentId (some event.toStatus)] := by
  cases events with
  | nil => exact absurd rfl hEvents
  | cons first rest => simp [announced]

/- Lockstep only depends on the payment's own rows. -/
theorem Lockstep.congr
    {payment : PaymentIntent}
    (hLockstep : Lockstep db payment)
    (hEvents :
      db'.eventsOf payment.id = db.eventsOf payment.id)
    (hOutbox :
      db'.outboxOf payment.id = db.outboxOf payment.id) :
    Lockstep db' payment where
  trail := hEvents ▸ hLockstep.trail
  version := hEvents ▸ hLockstep.version
  outbox := by
    rw [hEvents, hOutbox]
    exact hLockstep.outbox

theorem SameTrail.eventsOf
    (hSame : SameTrail db db')
    (paymentId : Uuid) :
    db'.eventsOf paymentId = db.eventsOf paymentId := by
  unfold Database.eventsOf
  rw [hSame.events]

theorem SameTrail.outboxOf
    (hSame : SameTrail db db')
    (paymentId : Uuid) :
    db'.outboxOf paymentId = db.outboxOf paymentId := by
  rw [outboxOf_eq_filter, outboxOf_eq_filter, hSame.outbox]

theorem SameTrail.audited
    (hSame : SameTrail db db')
    (hAudited : Audited db) : Audited db' where
  lockstep := by
    intro payment hPayment
    rw [hSame.payments] at hPayment
    exact (hAudited.lockstep payment hPayment).congr
      (hSame.eventsOf _) (hSame.outboxOf _)
  eventOwner := by
    rw [hSame.events, hSame.payments]
    exact hAudited.eventOwner
  outboxOwner := by
    rw [hSame.outbox, hSame.payments]
    exact hAudited.outboxOwner

section Transition

variable (db)
variable (intent : PaymentIntent)
variable (toStatus : PaymentStatus)
variable (actor : Actor)
variable (eventType : String)
variable (draw : Draw)

/- A transition adds one event to its payment only. -/
theorem recordTransition_eventsOf
    (paymentId : Uuid) :
    (db.recordTransition intent toStatus actor eventType
        draw).eventsOf paymentId =
      db.eventsOf paymentId ++
        (if intent.id = paymentId then
          [{ paymentIntentId := intent.id
             fromStatus := some intent.status
             toStatus := toStatus
             actor := actor
             createdAt := draw.serverNow }]
        else []) := by
  unfold Database.eventsOf Database.recordTransition
  by_cases hId : intent.id = paymentId
  · simp [hId]
  · simp [hId]

/- A transition adds one payload to its payment only. -/
theorem recordTransition_outboxOf
    (paymentId : Uuid) :
    (db.recordTransition intent toStatus actor eventType
        draw).outboxOf paymentId =
      db.outboxOf paymentId ++
        (if intent.id = paymentId then
          [.payment intent.id (some toStatus)]
        else []) := by
  unfold Database.outboxOf Database.recordTransition
  by_cases hId : intent.id = paymentId
  · simp [hId]
  · simp [hId]

@[simp] theorem recordTransition_paymentIds :
    (db.recordTransition intent toStatus actor eventType
        draw).payments.map (·.id) =
      db.payments.map (·.id) :=
  Table.map_updateWhere
    (flushPayment_id intent (intent.moveTo toStatus)) _

theorem recordTransition_paymentOutbox :
    (db.recordTransition intent toStatus actor eventType
        draw).paymentOutbox =
      db.paymentOutbox ++
        [(intent.id,
          .payment intent.id (some toStatus))] := by
  simp [Database.recordTransition, Database.paymentOutbox]

end Transition

/- The moved payment is in lockstep with its new event. -/
theorem Lockstep.moveTo
    {intent : PaymentIntent}
    {toStatus : PaymentStatus}
    {actor : Actor}
    {eventType : String}
    {draw : Draw}
    (hLockstep : Lockstep db intent)
    (hValid :
      isValidPaymentTransition intent.status toStatus
        (some actor) = true) :
    Lockstep
      (db.recordTransition intent toStatus actor eventType
        draw)
      (intent.moveTo toStatus) := by
  have hEvents :=
    recordTransition_eventsOf db intent toStatus actor
      eventType draw intent.id
  have hOutbox :=
    recordTransition_outboxOf db intent toStatus actor
      eventType draw intent.id
  rw [if_pos rfl] at hEvents hOutbox
  constructor
  · have hTrail :=
      Trail.next
        { paymentIntentId := intent.id
          fromStatus := some intent.status
          toStatus := toStatus
          actor := actor
          createdAt := draw.serverNow }
        hLockstep.trail rfl hValid
    rw [← hEvents] at hTrail
    exact hTrail
  · change intent.version + 1 = _
    rw [hLockstep.version]
    simp [PaymentIntent.moveTo, hEvents]
  · change _ = announced intent.id _
    simp only [PaymentIntent.moveTo]
    rw [hEvents, hOutbox, hLockstep.outbox,
      announced_append hLockstep.trail.ne_nil]

/- A valid transition of a stored row keeps lockstep. -/
theorem audited_recordTransition
    {intent : PaymentIntent}
    {toStatus : PaymentStatus}
    {actor : Actor}
    {eventType : String}
    {draw : Draw}
    (hAudited : Audited db)
    (hIds : (db.payments.map (·.id)).Nodup)
    (hRow : intent ∈ db.payments)
    (hValid :
      isValidPaymentTransition intent.status toStatus
        (some actor) = true) :
    Audited
      (db.recordTransition intent toStatus actor eventType
        draw) where
  lockstep := by
    intro payment hPayment
    rcases Table.mem_updateWhere.mp hPayment with
      ⟨old, hOld, rfl⟩
    by_cases hId : old.id = intent.id
    · have hSame : old = intent :=
        List.inj_on_of_nodup_map hIds hOld hRow hId
      subst hSame
      simp only [decide_true, if_true, flushPayment_self]
      exact (hAudited.lockstep old hOld).moveTo hValid
    · simp only [hId, decide_false, Bool.false_eq_true,
        if_false]
      apply (hAudited.lockstep old hOld).congr
      · rw [recordTransition_eventsOf, if_neg (Ne.symm hId),
          List.append_nil]
      · rw [recordTransition_outboxOf, if_neg (Ne.symm hId),
          List.append_nil]
  eventOwner := by
    intro event hEvent
    rw [recordTransition_paymentIds]
    rcases List.mem_append.mp hEvent with hOld | hNew
    · exact hAudited.eventOwner event hOld
    · rw [List.mem_singleton.mp hNew]
      exact List.mem_map_of_mem hRow
  outboxOwner := by
    intro row hMem
    rw [recordTransition_paymentIds]
    rw [recordTransition_paymentOutbox] at hMem
    rcases List.mem_append.mp hMem with hOld | hNew
    · exact hAudited.outboxOwner row hOld
    · rw [List.mem_singleton.mp hNew]
      exact List.mem_map_of_mem hRow

/- A trail moved along one transition keeps lockstep. -/
theorem TrailMove.audited
    {intent : PaymentIntent}
    (hMove : TrailMove db intent db')
    (hAudited : Audited db)
    (hIds : (db.payments.map (·.id)).Nodup)
    (hRow : intent ∈ db.payments) : Audited db' := by
  cases hMove with
  | stay hSame => exact hSame.audited hAudited
  | move toStatus actor eventType draw hValid hSame =>
      exact hSame.audited
        (audited_recordTransition hAudited hIds hRow hValid)

/- A created payment has one event and one outbox row. -/
theorem audited_create
    {intent : PaymentIntent}
    {event : PaymentEvent}
    (hAudited : Audited db)
    (hFresh : intent.id ∉ db.payments.map (·.id))
    (hStatus : intent.status = .created)
    (hVersion : intent.version = 1)
    (hOwner : event.paymentIntentId = intent.id)
    (hFrom : event.fromStatus = none)
    (hTo : event.toStatus = .created)
    (hPayments : db'.payments = db.payments ++ [intent])
    (hEvents : db'.events = db.events ++ [event])
    (hOutbox :
      db'.paymentOutbox =
        db.paymentOutbox ++
          [(intent.id, .payment intent.id none)]) :
    Audited db' where
  lockstep := by
    intro payment hPayment
    rw [hPayments, List.mem_append,
      List.mem_singleton] at hPayment
    rcases hPayment with hOld | rfl
    · have hId : intent.id ≠ payment.id := by
        intro hSame
        rw [hSame] at hFresh
        exact hFresh (List.mem_map_of_mem hOld)
      apply (hAudited.lockstep payment hOld).congr
      · simp [Database.eventsOf, hEvents, hOwner, hId]
      · simp [outboxOf_eq_filter, hOutbox, hId]
    · have hNoEvents :
          db.eventsOf payment.id = [] := by
        apply List.filter_eq_nil_iff.mpr
        intro other hOther
        have hStored := hAudited.eventOwner other hOther
        have hId : other.paymentIntentId ≠ payment.id := by
          intro hSame
          exact hFresh (hSame ▸ hStored)
        simpa using hId
      have hNoOutbox :
          db.outboxOf payment.id = [] := by
        rw [outboxOf_eq_filter, List.map_eq_nil_iff]
        apply List.filter_eq_nil_iff.mpr
        intro row hRow
        have hStored := hAudited.outboxOwner row hRow
        have hId : row.1 ≠ payment.id := by
          intro hSame
          exact hFresh (hSame ▸ hStored)
        simpa using hId
      have hEventsOf :
          db'.eventsOf payment.id = [event] := by
        have hAll :
            db'.eventsOf payment.id =
              db.eventsOf payment.id ++ [event] := by
          simp [Database.eventsOf, hEvents, hOwner]
        rw [hAll, hNoEvents, List.nil_append]
      have hOutboxOf :
          db'.outboxOf payment.id =
            [.payment payment.id none] := by
        have hAll :
            db'.outboxOf payment.id =
              db.outboxOf payment.id ++
                [.payment payment.id none] := by
          simp [outboxOf_eq_filter, hOutbox]
        rw [hAll, hNoOutbox, List.nil_append]
      constructor
      · rw [hStatus, hEventsOf]
        exact Trail.created event hFrom hTo
      · rw [hVersion, hEventsOf]
        rfl
      · rw [hOutboxOf, hEventsOf]
        rfl
  eventOwner := by
    intro other hOther
    rw [hPayments, List.map_append]
    rw [hEvents, List.mem_append, List.mem_singleton]
      at hOther
    rcases hOther with hOld | rfl
    · exact List.mem_append_left _
        (hAudited.eventOwner other hOld)
    · simp [hOwner]
  outboxOwner := by
    intro row hRow
    rw [hPayments, List.map_append]
    rw [hOutbox, List.mem_append, List.mem_singleton] at hRow
    rcases hRow with hOld | rfl
    · exact List.mem_append_left _
        (hAudited.outboxOwner row hOld)
    · simp

theorem TrailStep.audited
    (hTrail : TrailStep config system call db)
    (hCurrent : config.lockRead = .current)
    (hIds : (system.db.payments.map (·.id)).Nodup)
    (hAudited : Audited system.db) : Audited db := by
  cases hTrail with
  | same hSame => exact hSame.audited hAudited
  | create intent draw hFresh hStatus hVersion _ hPayments
      hEvents hOutbox =>
      exact audited_create hAudited hFresh hStatus hVersion
        rfl rfl rfl hPayments hEvents hOutbox
  | move intent _ hRow hMove =>
      exact hMove.audited hAudited hIds (hRow hCurrent)

end PayGuard

------------------------------------------------------------
-- Every Run
------------------------------------------------------------

namespace PayGuard

theorem audited_initial : Audited {} where
  lockstep := by simp
  eventOwner := by simp
  outboxOwner := by simp [Database.paymentOutbox]

/-
  With locks that read the committed row, every payment of
  every reachable state is in lockstep.
-/
theorem audit_trail_lockstep
    (config : Config)
    (hCurrent : config.lockRead = .current)
    (labels : List Label)
    (system : System)
    (hRun :
      Lts.exec (step config) {} labels = some system)
    (payment : PaymentIntent)
    (hPayment : payment ∈ system.db.payments) :
    Lockstep system.db payment := by
  have hKeep :
      ∀ before label after,
        Held before ∧ Audited before.db →
          step config before label = some after →
            Held after ∧ Audited after.db := by
    intro before label after hInv hStep
    rcases step_effect hStep with ⟨hAdmits, hEffect⟩
    have hTrail :=
      hEffect.trailStep hInv.1.captures hAdmits
    exact ⟨held_effect hInv.1 hAdmits hEffect,
      hTrail.audited hCurrent hInv.1.paymentIds hInv.2⟩
  have hBoth :=
    Lts.invariant_of_exec hKeep
      ⟨held_initial, audited_initial⟩ hRun
  exact hBoth.2.lockstep payment hPayment

theorem audit_trail_lockstep_captured :
    ∃ system,
      Lts.exec (step { sha256 := spellOut }) {}
          capturedRun = some system ∧
        system.db.payments.map (·.version) = [3] ∧
        ∀ payment ∈ system.db.payments,
          Lockstep system.db payment := by
  have hRun :
      (Lts.exec (step { sha256 := spellOut }) {}
        capturedRun).map (fun system =>
          system.db.payments.map (·.version)) =
        some [3] := by
    decide +kernel
  rcases Option.map_eq_some_iff.mp hRun with
    ⟨system, hExec, hVersions⟩
  exact ⟨system, hExec, hVersions,
    audit_trail_lockstep _ rfl _ _ hExec⟩

end PayGuard

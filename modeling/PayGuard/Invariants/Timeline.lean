import Mathlib.Data.List.Chain
import PayGuard.Invariants.AuditTrail
import PayGuard.Payments.Queries
import PayGuard.Races.Departures
import PayGuard.System.Signatures

/-
  The order in which the events of a payment are shown.

  An event carries the time its transaction began, but it
  follows the events committed before its transaction was
  granted the lock.  Where the transactions that move a
  payment began in the order they moved it, the timeline
  read by that time is the chain of its transitions.

  Key definitions include:
    * `Causal`
    * `ShownInOrder`
    * `InTurn`
    * `Chronological`

  Key theorems include:
    * `Effect.recordsEvent`
    * `chronological_step`
    * `timeline_in_causal_order`
-/

------------------------------------------------------------
-- Timelines
------------------------------------------------------------

namespace PayGuard

/-
  A list of events that leads to a status: it begins with
  the creation, and each event goes on from the one before.
-/
structure Causal
    (status : PaymentStatus)
    (events : List PaymentEvent) : Prop where
  first : events.head?.map (·.toStatus) = some .created
  linked :
    events.IsChain (fun event later =>
      later.fromStatus = some event.toStatus)
  last : events.getLast?.map (·.toStatus) = some status

/- Every detail page shows how its payment got to its status. -/
def ShownInOrder (db : Database) : Prop :=
  ∀ scans merchantId paymentId detail,
    getPaymentDetail db scans merchantId paymentId =
        .ok detail →
      Causal detail.payment.status detail.events

/- A reconciliation found the payment `UNKNOWN` once more. -/
def PaymentEvent.Repeats (event : PaymentEvent) : Prop :=
  event.fromStatus = some .unknown ∧
    event.toStatus = .unknown

instance
    (event : PaymentEvent) :
    Decidable event.Repeats := by
  unfold PaymentEvent.Repeats
  infer_instance

/- The payment a session holds when it locks it again. -/
def Call.loaded : Call → Option PaymentIntent
| .createClaimed _ _ intent => some intent
| .createAssessed _ _ intent _ => some intent
| .createAuthorized _ _ intent _ => some intent
| .refundAnswered _ _ reservation _ =>
    some reservation.intent
| .dispatchOpen _ _ (.outcome _ intent) => some intent
| .reconcileAnswered intent _ => some intent
| _ => none

/- The event a step is about to record. -/
def recordedEvent
    (config : Config)
    (system : System)
    (label : Label) : Option PaymentEvent :=
  (step config system label).bind (fun next =>
    next.db.events[system.db.events.length]?)

/-
  A transaction that records an event began after those
  that recorded the earlier events of the payment, and the
  object it locked shows the status that is stored.  Only
  the order of two repeated events does not matter.
-/
def InTurn
    (config : Config)
    (system : System)
    (label : Label) : Prop :=
  ∀ added ∈ recordedEvent config system label,
    (∀ event ∈ system.db.eventsOf added.paymentIntentId,
        event.createdAt < label.draw.serverNow ∨
          (event.Repeats ∧ added.Repeats)) ∧
      (config.lockRead = .identityMap →
        ∀ object ∈ (system.calls label.call).loaded,
          object.id = added.paymentIntentId →
            ∀ row ∈ system.db.payments,
              row.id = object.id →
                row.status = object.status)

instance
    (config : Config)
    (system : System)
    (label : Label) :
    Decidable (InTurn config system label) := by
  unfold InTurn
  infer_instance

end PayGuard

------------------------------------------------------------
-- Trails And Chains
------------------------------------------------------------

namespace PayGuard

variable {status : PaymentStatus}
variable {events shown : List PaymentEvent}

theorem Trail.causal
    (hTrail : Trail status events) :
    Causal status events := by
  induction hTrail with
  | created event _ hTo =>
      exact
        { first := by simp [hTo]
          linked := List.isChain_singleton event
          last := by simp [hTo] }
  | next event hTrail hFrom _ ih =>
      refine
        { first := ?_
          linked := ?_
          last := by simp }
      · rw [List.head?_append_of_ne_nil _ hTrail.ne_nil]
        exact ih.first
      · refine ih.linked.append (List.isChain_singleton _) ?_
        intro before hBefore later hLater
        have hLast := ih.last
        rw [Option.mem_def] at hBefore
        rw [hBefore, Option.map_some,
          Option.some.injEq] at hLast
        rw [List.head?_cons, Option.mem_some_iff] at hLater
        rw [← hLater, hFrom, hLast]

/- A chain only depends on the statuses of its events. -/
theorem Causal.of_map_eq
    (hCausal : Causal status events)
    (hMap :
      shown.map (fun event =>
          (event.fromStatus, event.toStatus)) =
        events.map (fun event =>
          (event.fromStatus, event.toStatus))) :
    Causal status shown := by
  have hTargets :
      shown.map (·.toStatus) = events.map (·.toStatus) := by
    have hSecond := congrArg (List.map Prod.snd) hMap
    rwa [List.map_map, List.map_map] at hSecond
  have hLinks :
      ∀ list : List PaymentEvent,
        list.IsChain (fun event later =>
            later.fromStatus = some event.toStatus) ↔
          (list.map (fun event =>
            (event.fromStatus, event.toStatus))).IsChain
              (fun event later =>
                later.1 = some event.2) := by
    intro list
    rw [List.isChain_map]
  refine
    { first := ?_
      linked := ?_
      last := ?_ }
  · rw [← List.head?_map, hTargets, List.head?_map]
    exact hCausal.first
  · rw [hLinks, hMap, ← hLinks]
    exact hCausal.linked
  · rw [← List.getLast?_map, hTargets, List.getLast?_map]
    exact hCausal.last

end PayGuard

------------------------------------------------------------
-- Recorded Events
------------------------------------------------------------

namespace PayGuard

/-
  What a step records: nothing, the creation of a payment,
  or one move of the object its lock has yielded.
-/
inductive Records
    (config : Config)
    (system : System)
    (call : CallId)
    (draw : Draw)
    (db : Database) : Prop where
| same
    (hPayments : db.payments = system.db.payments)
    (hEvents : db.events = system.db.events)
| create
    (intent : PaymentIntent)
    (hFresh :
      intent.id ∉ system.db.payments.map (·.id))
    (hStatus : intent.status = .created)
    (hPayments :
      db.payments = system.db.payments ++ [intent])
    (hEvents :
      db.events =
        system.db.events ++
          [{ paymentIntentId := intent.id
             fromStatus := none
             toStatus := .created
             actor := .api
             createdAt := draw.serverNow }])
| move
    (intent : PaymentIntent)
    (toStatus : PaymentStatus)
    (actor : Actor)
    (eventType : String)
    (hRow :
      ∃ row ∈ system.db.payments, row.id = intent.id)
    (hObject :
      intent ∈ system.db.payments ∨
        config.lockRead = .identityMap ∧
          (system.calls call).loaded = some intent)
    (hValid :
      isValidPaymentTransition intent.status toStatus
        (some actor) = true)
    (hPayments :
      db.payments =
        (system.db.recordTransition intent toStatus actor
          eventType draw).payments)
    (hEvents :
      db.events =
        (system.db.recordTransition intent toStatus actor
          eventType draw).events)

variable {config : Config}
variable {system next : System}
variable {call : CallId}
variable {draw : Draw}
variable {action : Action}
variable {db : Database}
variable {intent : PaymentIntent}

theorem Records.of_trailMove
    (hRow :
      ∃ row ∈ system.db.payments, row.id = intent.id)
    (hObject :
      intent ∈ system.db.payments ∨
        config.lockRead = .identityMap ∧
          (system.calls call).loaded = some intent)
    (hMove : TrailMove system.db intent db)
    (hSigns : Signs action.actor draw system.db db) :
    Records config system call draw db := by
  cases hMove with
  | stay hSame => exact .same hSame.payments hSame.events
  | move toStatus actor eventType drawn hValid hSame =>
      obtain ⟨added, hAdded, hSigned⟩ := hSigns
      have hEvents := hSame.events
      have hOne := List.append_cancel_left
        (hAdded.symm.trans hEvents)
      rw [hOne] at hSigned
      have hTime : drawn.serverNow = draw.serverNow :=
        (hSigned _ (List.mem_singleton_self _)).2
      refine .move intent toStatus actor eventType hRow
        hObject hValid ?_ ?_
      · exact hSame.payments
      · rw [hEvents]
        simp only [Database.recordTransition, hTime]

/- The object a lock yields is the row or the one loaded. -/
theorem Records.of_locked
    {loaded : Option PaymentIntent}
    {paymentId merchantId : Uuid}
    (hLoaded : (system.calls call).loaded = loaded)
    (hBody :
      ∃ intent,
        lockPayment config.lockRead system.db loaded
            paymentId merchantId = some intent ∧
          TrailMove system.db intent db)
    (hSigns : Signs action.actor draw system.db db) :
    Records config system call draw db := by
  rcases hBody with ⟨intent, hLocked, hMove⟩
  rcases lockPayment_eq_some hLocked with
    ⟨row, hSelect, hIntent⟩
  rcases selectPayment_eq_some hSelect with
    ⟨hStored, hId, _⟩
  refine .of_trailMove ⟨row, hStored, ?_⟩ ?_ hMove hSigns
  · rw [hId, lockPayment_id hLocked]
  · cases hRead : config.lockRead with
    | current =>
        rw [hRead, lockPayment_current] at hLocked
        exact .inl (selectPayment_eq_some hLocked).1
    | identityMap =>
        rcases hIntent with rfl | hSame
        · exact .inl hStored
        · exact .inr ⟨rfl, hLoaded.trans hSame⟩

theorem Effect.recordsEvent
    (hHeld : CapturesHeld system)
    (hAdmits : system.db.Admits draw)
    (hEffect :
      Effect config system call draw action next) :
    Records config system call draw next.db := by
  have hSigns := hEffect.signs
  cases hEffect with
  | quiet hQuiet =>
      exact .same (by rw [hQuiet.db]) (by rw [hQuiet.db])
  | createInsert _ hBody =>
      rcases createInsert_eq_ok hBody with
        ⟨hIntent, _, hDb⟩
      rcases putKey_eq system.db _ with ⟨keys, hKeys⟩
      rw [hKeys] at hDb
      subst hIntent
      subst hDb
      exact .create _ hAdmits.2.1 rfl rfl rfl
  | createProcess hCall _ hBody =>
      exact .of_locked (by rw [hCall]; rfl)
        (createProcess_trailMove hBody) hSigns
  | createAssess _ => exact .same rfl rfl
  | createBlock hCall _ _ hBody =>
      exact .of_locked (by rw [hCall]; rfl)
        (createBlock_trailMove hBody) hSigns
  | createFinish hCall _ _ hBody =>
      exact .of_locked (by rw [hCall]; rfl)
        (createFinish_trailMove hBody) hSigns
  | captureSettled _ _ _ =>
      exact .same (captureSettled_sameTrail _ _ _).payments
        (captureSettled_sameTrail _ _ _).events
  | captureOpen _ _ _ _ => exact .same rfl rfl
  | captureFinish hCall _ hBody =>
      have hStored := hHeld.row call _ (by rw [hCall]; rfl)
      exact .of_trailMove ⟨_, hStored, rfl⟩ (.inl hStored)
        (captureFinish_trailMove hBody) hSigns
  | refundReserve hClaims _ hBody =>
      rw [← lockPayment_unloaded config.lockRead] at hBody
      exact .of_locked (by rw [hClaims.idle]; rfl)
        (refundReserve_trailMove hBody) hSigns
  | refundAnswer _ _ => exact .same rfl rfl
  | refundFinish hCall _ _ hBody =>
      exact .of_locked (by rw [hCall]; rfl)
        (refundFinalize_trailMove hBody) hSigns
  | receiveWebhook _ =>
      exact .same (receiveWebhook_sameTrail _ _ _).payments
        (receiveWebhook_sameTrail _ _ _).events
  | @dispatchFinish _ _ plan _ hCall _ hBody =>
      cases plan with
      | skip =>
          cases hBody
          exact .same rfl rfl
      | ignore =>
          cases hBody
          exact .same rfl rfl
      | outcome targetStatus intent =>
          rcases handlePaymentOutcome_trailMove hBody with
            ⟨moved, hLocked, hMove⟩
          refine .of_locked (by rw [hCall]; rfl)
            ⟨moved, hLocked, hMove.andThen ?_⟩ hSigns
          exact SameTrail.markProcessed _ _
  | reconcileApply hCall _ hBody =>
      exact .of_locked (by rw [hCall]; rfl)
        (reconcileApply_trailMove hBody) hSigns
  | reconcileReport _ => exact .same rfl rfl
  | failWrite _ _ => exact .same rfl rfl

end PayGuard

------------------------------------------------------------
-- One Step
------------------------------------------------------------

namespace PayGuard

/-
  The events of every payment lead to its status, and they
  were recorded in the order their transactions began.
-/
structure Chronological (db : Database) : Prop where
  trail :
    ∀ payment ∈ db.payments,
      Trail payment.status (db.eventsOf payment.id)
  owner :
    ∀ event ∈ db.events,
      event.paymentIntentId ∈ db.payments.map (·.id)
  ordered :
    ∀ paymentId,
      (db.eventsOf paymentId).Pairwise (fun event later =>
        event.createdAt < later.createdAt ∨
          (event.Repeats ∧ later.Repeats))

variable {config : Config}
variable {system next : System}
variable {db db' : Database}
variable {intent : PaymentIntent}
variable {event : PaymentEvent}
variable {draw : Draw}
variable {label : Label}

theorem mem_eventsOf
    {paymentId : Uuid} :
    event ∈ db.eventsOf paymentId ↔
      event ∈ db.events ∧
        event.paymentIntentId = paymentId := by
  simp [Database.eventsOf]

theorem eventsOf_append
    (hEvents : db'.events = db.events ++ [event])
    (paymentId : Uuid) :
    db'.eventsOf paymentId =
      db.eventsOf paymentId ++
        (if event.paymentIntentId = paymentId then
          [event]
        else []) := by
  unfold Database.eventsOf
  rw [hEvents, List.filter_append]
  by_cases hPayment : event.paymentIntentId = paymentId
  · simp [hPayment]
  · simp [hPayment]

theorem Chronological.ordered_append
    (hChronological : Chronological db)
    (hEvents : db'.events = db.events ++ [event])
    (hLater :
      ∀ earlier ∈ db.eventsOf event.paymentIntentId,
        earlier.createdAt < event.createdAt ∨
          (earlier.Repeats ∧ event.Repeats))
    (paymentId : Uuid) :
    (db'.eventsOf paymentId).Pairwise (fun event later =>
      event.createdAt < later.createdAt ∨
        (event.Repeats ∧ later.Repeats)) := by
  rw [eventsOf_append hEvents]
  split
  · rename_i hPayment
    rw [← hPayment, List.pairwise_append]
    refine ⟨hChronological.ordered _, List.pairwise_singleton _ _,
      ?_⟩
    intro earlier hEarlier later hMem
    rw [List.mem_singleton.mp hMem]
    exact hLater earlier hEarlier
  · rw [List.append_nil]
    exact hChronological.ordered _

/- A payment without a row has no events. -/
theorem Chronological.eventsOf_fresh
    (hChronological : Chronological db)
    {paymentId : Uuid}
    (hFresh : paymentId ∉ db.payments.map (·.id)) :
    db.eventsOf paymentId = [] := by
  apply List.eq_nil_iff_forall_not_mem.mpr
  intro event hEvent
  rcases mem_eventsOf.mp hEvent with ⟨hMem, hPayment⟩
  exact hFresh (hPayment ▸ hChronological.owner event hMem)

theorem Chronological.create
    (hChronological : Chronological db)
    (hFresh : intent.id ∉ db.payments.map (·.id))
    (hStatus : intent.status = .created)
    (hOwner : event.paymentIntentId = intent.id)
    (hFrom : event.fromStatus = none)
    (hTo : event.toStatus = .created)
    (hPayments : db'.payments = db.payments ++ [intent])
    (hEvents : db'.events = db.events ++ [event]) :
    Chronological db' where
  trail := by
    intro payment hPayment
    rw [eventsOf_append hEvents, hOwner]
    rw [hPayments, List.mem_append,
      List.mem_singleton] at hPayment
    rcases hPayment with hOld | rfl
    · have hOther : intent.id ≠ payment.id := by
        intro hSame
        rw [hSame] at hFresh
        exact hFresh (List.mem_map_of_mem hOld)
      rw [if_neg hOther, List.append_nil]
      exact hChronological.trail payment hOld
    · rw [if_pos rfl,
        hChronological.eventsOf_fresh hFresh, hStatus]
      exact .created event hFrom hTo
  owner := by
    intro other hOther
    rw [hPayments, List.map_append]
    rw [hEvents, List.mem_append, List.mem_singleton]
      at hOther
    rcases hOther with hOld | rfl
    · exact List.mem_append_left _
        (hChronological.owner other hOld)
    · simp [hOwner]
  ordered := by
    apply hChronological.ordered_append hEvents
    rw [hOwner, hChronological.eventsOf_fresh hFresh]
    simp

theorem Chronological.move
    {toStatus : PaymentStatus}
    {actor : Actor}
    {eventType : String}
    (hChronological : Chronological db)
    (hRow : ∃ row ∈ db.payments, row.id = intent.id)
    (hStatus :
      ∀ row ∈ db.payments,
        row.id = intent.id → row.status = intent.status)
    (hValid :
      isValidPaymentTransition intent.status toStatus
        (some actor) = true)
    (hLater :
      ∀ event ∈ db.eventsOf intent.id,
        event.createdAt < draw.serverNow ∨
          (event.Repeats ∧
            intent.status = .unknown ∧
              toStatus = .unknown))
    (hPayments :
      db'.payments =
        (db.recordTransition intent toStatus actor eventType
          draw).payments)
    (hEvents :
      db'.events =
        (db.recordTransition intent toStatus actor eventType
          draw).events) :
    Chronological db' where
  trail := by
    intro payment hPayment
    rw [eventsOf_append hEvents]
    rw [hPayments] at hPayment
    rcases Table.mem_updateWhere.mp hPayment with
      ⟨old, hOld, rfl⟩
    by_cases hId : old.id = intent.id
    · have hSame := hStatus old hOld hId
      have hTrail := hChronological.trail old hOld
      rw [hSame, hId] at hTrail
      have hFlushed :
          (flushPayment intent (intent.moveTo toStatus)
            old).status = toStatus := by
        unfold flushPayment
        by_cases hStays :
            (intent.moveTo toStatus).status = intent.status
        · simp only [if_pos hStays, hSame]
          exact hStays.symm
        · simp only [if_neg hStays]
          rfl
      simp only [hId, decide_true, if_true, hFlushed]
      rw [flushPayment_id, hId, if_pos rfl]
      have hNext :=
        Trail.next
          { paymentIntentId := intent.id
            fromStatus := some intent.status
            toStatus := toStatus
            actor := actor
            createdAt := draw.serverNow }
          hTrail rfl hValid
      exact hNext
    · simp only [hId, decide_false, Bool.false_eq_true,
        if_false]
      rw [if_neg (Ne.symm hId), List.append_nil]
      exact hChronological.trail old hOld
  owner := by
    intro event hEvent
    rw [hPayments, recordTransition_paymentIds]
    rw [hEvents] at hEvent
    rcases List.mem_append.mp hEvent with hOld | hNew
    · exact hChronological.owner event hOld
    · rcases hRow with ⟨row, hStored, hId⟩
      rw [List.mem_singleton.mp hNew]
      exact List.mem_map.mpr ⟨row, hStored, hId⟩
  ordered := by
    apply hChronological.ordered_append hEvents
    intro earlier hEarlier
    rcases hLater earlier hEarlier with
      hLt | ⟨hRepeats, hFrom, hTo⟩
    · exact .inl hLt
    · exact .inr ⟨hRepeats, by rw [hFrom], hTo⟩

/- A step in turn keeps the events in order. -/
theorem chronological_step
    (hHeld : Held system)
    (hChronological : Chronological system.db)
    (hInTurn : InTurn config system label)
    (hStep : step config system label = some next) :
    Chronological next.db := by
  rcases step_effect hStep with ⟨hAdmits, hEffect⟩
  have hRecords := hEffect.recordsEvent hHeld.captures hAdmits
  cases hRecords with
  | same hPayments hEvents =>
      have hSame :
          ∀ paymentId,
            next.db.eventsOf paymentId =
              system.db.eventsOf paymentId := by
        intro paymentId
        unfold Database.eventsOf
        rw [hEvents]
      exact
        { trail := by
            rw [hPayments]
            intro payment hPayment
            rw [hSame]
            exact hChronological.trail payment hPayment
          owner := by
            rw [hPayments, hEvents]
            exact hChronological.owner
          ordered := by
            intro paymentId
            rw [hSame]
            exact hChronological.ordered paymentId }
  | create intent hFresh hStatus hPayments hEvents =>
      exact hChronological.create hFresh hStatus rfl rfl rfl
        hPayments hEvents
  | move intent toStatus actor eventType hRow hObject hValid
      hPayments hEvents =>
      have hRecorded :
          recordedEvent config system label =
            some
              { paymentIntentId := intent.id
                fromStatus := some intent.status
                toStatus := toStatus
                actor := actor
                createdAt := label.draw.serverNow } := by
        unfold recordedEvent
        rw [hStep, Option.bind_some, hEvents]
        exact List.getElem?_concat_length
      rcases hInTurn _ hRecorded with ⟨hLater, hCurrent⟩
      refine hChronological.move hRow ?_ hValid ?_ hPayments
        hEvents
      · intro row hStored hId
        rcases hObject with hIntent | ⟨hRead, hLoaded⟩
        · rw [List.inj_on_of_nodup_map hHeld.paymentIds
            hStored hIntent hId]
        · exact hCurrent hRead intent hLoaded rfl row
            hStored hId
      · intro event hEvent
        rcases hLater event hEvent with
          hLt | ⟨hRepeats, hFrom, hTo⟩
        · exact .inl hLt
        · exact .inr ⟨hRepeats, Option.some.inj hFrom, hTo⟩

/- A timeline in order is the chain it was recorded as. -/
theorem Chronological.shownInOrder
    (hChronological : Chronological db) :
    ShownInOrder db := by
  intro scans merchantId paymentId detail hDetail
  unfold getPaymentDetail getPayment at hDetail
  cases hSelect : db.selectPayment paymentId merchantId with
  | none =>
      rw [hSelect] at hDetail
      cases hDetail
  | some intent =>
      rw [hSelect] at hDetail
      cases hDetail
      have hStored := (selectPayment_eq_some hSelect).1
      have hTrail := hChronological.trail intent hStored
      refine hTrail.causal.of_map_eq ?_
      refine Table.map_orderBy_eq_map scans.events ?_
      refine (hChronological.ordered intent.id).imp ?_
      rintro event later (hLt | ⟨hRepeats, hAgain⟩)
      · exact .inl hLt
      · refine .inr ?_
        rw [hRepeats.1, hRepeats.2, hAgain.1, hAgain.2]

theorem chronological_initial : Chronological {} where
  trail := by simp
  owner := by simp
  ordered := by simp [Database.eventsOf]

end PayGuard

------------------------------------------------------------
-- Every Run
------------------------------------------------------------

namespace PayGuard

/-
  In every run whose steps are all in turn, the detail page
  of every payment shows a chain of transitions that leads
  to its status.
-/
theorem timeline_in_causal_order
    (config : Config)
    (labels : List Label)
    (system : System)
    (hRun : Lts.exec (step config) {} labels = some system)
    (hInTurn :
      Lts.Meets (step config) (InTurn config) {} labels) :
    ShownInOrder system.db := by
  have hKeep :
      ∀ before label after,
        Held before ∧ Chronological before.db →
          InTurn config before label →
            step config before label = some after →
              Held after ∧ Chronological after.db := by
    intro before label after hBefore hLabel hStep
    rcases step_effect hStep with ⟨hAdmits, hEffect⟩
    exact ⟨held_effect hBefore.1 hAdmits hEffect,
      chronological_step hBefore.1 hBefore.2 hLabel hStep⟩
  have hBoth :=
    Lts.invariant_of_meets hKeep
      ⟨held_initial, chronological_initial⟩ hInTurn hRun
  exact hBoth.2.shownInOrder

/-
  Payment 1 is authorized and captured, and a refund of it
  is reserved.  The refund's transaction began at the given
  time, and the capture's at 20.
-/
def refundBegunAt (refundTime : Timestamp) : List Label :=
  [⟨0, .createBegin
      { merchantId := 1
        idempotencyKey := "create"
        amountMinor := 100
        currency := "USD"
        paymentToken := "tok_visa" }, .numbered 1 1⟩,
    ⟨0, .createProcess, .numbered 2 2⟩,
    ⟨0, .createAssess, .numbered 3 3⟩,
    ⟨0, .createAuthorize (.approved "txn"), .numbered 4 4⟩,
    ⟨0, .createFinish, .numbered 5 5⟩,
    ⟨1, .captureBegin
        { merchantId := 1
          paymentId := 1
          idempotencyKey := "capture" }, .numbered 6 20⟩,
    ⟨1, .captureFinish (.approved "txn"), .numbered 7 20⟩,
    ⟨2, .refundBegin
        { merchantId := 1
          paymentId := 1
          idempotencyKey := "refund"
          amountMinor := 40 }, .numbered 8 refundTime⟩]

theorem timeline_in_causal_order_later :
    ∃ system,
      Lts.exec (step loadedConfig) {} (refundBegunAt 21) =
          some system ∧
        system.db.payments.map (·.status) =
          [.refundPending] ∧
        ShownInOrder system.db := by
  have hRun :
      (Lts.exec (step loadedConfig) {}
        (refundBegunAt 21)).map (fun system =>
          system.db.payments.map (·.status)) =
        some [.refundPending] := by
    decide +kernel
  rcases Option.map_eq_some_iff.mp hRun with
    ⟨system, hExec, hStatus⟩
  exact ⟨system, hExec, hStatus,
    timeline_in_causal_order _ _ _ hExec
      (by decide +kernel)⟩

/-
  The refund's request came in before the capture's, but it
  had to wait for its lock.
-/
theorem overtaken_refund_shown_first :
    ∃ system detail,
      Lts.exec (step loadedConfig) {} (refundBegunAt 10) =
          some system ∧
        getPaymentDetail system.db {} 1 1 = .ok detail ∧
        detail.payment.status = .refundPending ∧
        detail.events.map (·.toStatus) =
          [.created, .processing, .refundPending,
            .succeeded] ∧
        ¬ ShownInOrder system.db := by
  have hRun :
      (Lts.exec (step loadedConfig) {}
        (refundBegunAt 10)).map (fun system =>
          (getPaymentDetail system.db {} 1 1).toOption.map
            (fun detail =>
              (detail.payment.status,
                detail.events.map (·.toStatus)))) =
        some (some (.refundPending,
          [.created, .processing, .refundPending,
            .succeeded])) := by
    decide +kernel
  rcases Option.map_eq_some_iff.mp hRun with
    ⟨system, hExec, hShown⟩
  cases hDetail : getPaymentDetail system.db {} 1 1 with
  | error failure =>
      rw [hDetail] at hShown
      cases hShown
  | ok detail =>
      rw [hDetail] at hShown
      have hPair := Option.some.inj hShown
      rw [Prod.mk.injEq] at hPair
      refine ⟨system, detail, hExec, hDetail, hPair.1, hPair.2,
        ?_⟩
      intro hShownInOrder
      have hLast :=
        (hShownInOrder {} 1 1 detail hDetail).last
      rw [← List.getLast?_map, hPair.1, hPair.2] at hLast
      simp at hLast

end PayGuard

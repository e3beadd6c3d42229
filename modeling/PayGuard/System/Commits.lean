import PayGuard.System.Effects

/-
  What one step of the system can do.

  A step is quiet, or it opens a capture, or it records the
  answer to a refund, or it commits one transaction body.
  Invariants of the system go by cases on `Effect` and never
  unfold a step.

  Key definitions include:
    * `Call.captured` and `Call.reservation`
    * `Call.enables`
    * `Frame`
    * `Quiet`
    * `Turn`
    * `Effect`

  Key theorems include:
    * `callStep_enables`
    * `step_effect`
    * `Effect.frame`
-/

------------------------------------------------------------
-- What A Call Holds
------------------------------------------------------------

namespace PayGuard

/- The payment a call keeps locked between its steps. -/
def Call.captured : Call → Option PaymentIntent
| .captureOpen _ _ intent _ => some intent
| _ => none

/- The refund a call has reserved and not yet settled. -/
def Call.reservation : Call → Option Reservation
| .refundReserved _ _ reservation => some reservation
| .refundAnswered _ _ reservation _ => some reservation
| _ => none

/- The key row a call works under. -/
def Call.claimedKey : Call → Option ClaimedKey
| .createClaimed _ key _ => some key
| .createProcessing _ key _ => some key
| .createAssessed _ key _ _ => some key
| .createAuthorized _ key _ _ => some key
| .captureOpen _ keyRow _ _ => some keyRow.claimedKey
| .refundReserved _ key _ => some key
| .refundAnswered _ key _ _ => some key
| .failing key _ => some key
| .failureSeen key _ => some key
| _ => none

/- The call has been answered. -/
def Call.responded : Call → Bool
| .done (.response _ _) => true
| _ => false

/- A call that has begun and not ended. -/
def Call.active : Call → Bool
| .idle => false
| .done _ => false
| .dead => false
| _ => true

/- The actions open to a call at its position. -/
def Call.enables : Call → Action → Bool
| .idle, .createBegin _ => true
| .idle, .captureBegin _ => true
| .idle, .refundBegin _ => true
| .idle, .receiveWebhook _ => true
| .idle, .dispatchBegin _ _ => true
| .idle, .reconcileLoad _ _ => true
| .idle, .reconcileBegin _ _ _ => true
| .createClaimed _ _ _, .createProcess => true
| .createProcessing _ _ _, .createAssess => true
| .createAssessed _ _ _ _, .createBlock => true
| .createAssessed _ _ _ _, .createAuthorize _ => true
| .createAuthorized _ _ _ _, .createFinish => true
| .captureOpen _ _ _ _, .captureFinish _ => true
| .refundReserved _ _ _, .refundAnswer _ _ => true
| .refundAnswered _ _ _ _, .refundFinish => true
| .dispatchOpen _ _ _, .dispatchFinish => true
| .reconcileLoaded _, .reconcileNext _ => true
| .reconcileAsking _ _, .reconcileAnswer _ => true
| .reconcileAnswered _ _, .reconcileApply => true
| .reconcileReporting _, .reconcileReport => true
| .failing _ _, .failRead => true
| .failureSeen _ _, .failWrite => true
| position, .raise _ => position.active
| position, .die => position.active
| _, _ => false

/- A call that has ended takes no step. -/
theorem Call.done_enables
    (reply : Reply)
    (action : Action) :
    (Call.done reply).enables action = false := by
  cases action <;> rfl

/- The merchant a call is made with, where it begins. -/
def Action.merchant : Action → Option Uuid
| .createBegin request => some request.merchantId
| .captureBegin request => some request.merchantId
| .refundBegin request => some request.merchantId
| .reconcileLoad _ merchantId => some merchantId
| .reconcileBegin _ merchantId _ => some merchantId
| _ => none

/- What the first lock of a reconciliation leads to. -/
def ReconcileCheck.position : ReconcileCheck → Call
| .report finding => .reconcileReporting finding
| .ask intent key => .reconcileAsking intent key

/- An answered `provider.refund`, and whether it took place. -/
structure RefundCall where
  paymentId : Uuid
  refundId : Uuid
  amountMinor : Int
  outcome : ProviderOutcome
  executed : Bool
deriving DecidableEq, Repr

def ProviderCall.asRefund : ProviderCall → Option RefundCall
| .refund paymentId refundId _ amountMinor _ result
    executed =>
    some ⟨paymentId, refundId, amountMinor, result.outcome,
      executed⟩
| _ => none

/- The refunds the provider was asked for, in order. -/
def System.refundCalls
    (system : System) : List RefundCall :=
  system.providerCalls.filterMap ProviderCall.asRefund

------------------------------------------------------------
-- Frames
------------------------------------------------------------

namespace System

variable (system : System)
variable (call : CallId)

@[simp] theorem become_calls_self
    (position : Call) :
    (system.become call position).calls call = position := by
  simp [System.become]

@[simp] theorem commit_calls_self
    (db : Database)
    (position : Call) :
    (system.commit call db position).calls call =
      position := by
  simp [System.commit]

@[simp] theorem commit_db
    (db : Database)
    (position : Call) :
    (system.commit call db position).db = db := rfl

@[simp] theorem recordOrigin_db
    (key : ClaimedKey)
    (row : CreatedRow) :
    (system.recordOrigin key row).db = system.db := rfl

@[simp] theorem recordOrigin_calls
    (key : ClaimedKey)
    (row : CreatedRow) :
    (system.recordOrigin key row).calls = system.calls := rfl

@[simp] theorem observe_calls
    (providerCall : ProviderCall) :
    (system.observe providerCall).calls = system.calls := rfl

end System

theorem paymentLock_eq_none
    {system : System}
    {payment : Uuid}
    (hFree : system.paymentFree payment = true) :
    system.paymentLock payment = none := by
  simpa [System.paymentFree] using hFree

/- A step of one call leaves the others and their locks. -/
structure Frame
    (system : System)
    (call : CallId)
    (next : System) : Prop where
  calls :
    ∀ other,
      other ≠ call → next.calls other = system.calls other
  paymentLock :
    ∀ payment other,
      other ≠ call →
        (next.paymentLock payment = some other ↔
          system.paymentLock payment = some other)

/- A step that commits nothing and ends with empty hands. -/
structure Quiet
    (system : System)
    (call : CallId)
    (next : System) : Prop where
  frame : Frame system call next
  db : next.db = system.db
  origins : next.origins = system.origins
  refundCalls : next.refundCalls = system.refundCalls
  captured : (next.calls call).captured = none
  reservation : (next.calls call).reservation = none

namespace Frame

variable {system next : System}
variable {call : CallId}

theorem calls_of_update
    {calls : CallId → Call}
    {position : Call}
    (hCalls :
      calls = Function.update system.calls call position) :
    ∀ other,
      other ≠ call → calls other = system.calls other := by
  intro other hOther
  rw [hCalls]
  exact Function.update_of_ne hOther position system.calls

/- Updating one call and no lock is within its frame. -/
theorem of_update
    {position : Call}
    (hCalls :
      next.calls =
        Function.update system.calls call position)
    (hLock : next.paymentLock = system.paymentLock) :
    Frame system call next where
  calls := calls_of_update hCalls
  paymentLock := by
    intro payment other _
    rw [hLock]

/- Dropping the locks of the call is within its frame. -/
theorem of_release
    {position : Call}
    (hCalls :
      next.calls =
        Function.update system.calls call position)
    (hLock :
      next.paymentLock = (system.release call).paymentLock) :
    Frame system call next where
  calls := calls_of_update hCalls
  paymentLock := by
    intro payment other hOther
    rw [hLock]
    unfold System.release
    by_cases hMine : system.paymentLock payment = some call
    · simp [hMine, Ne.symm hOther]
    · simp [hMine]

/- Taking a free lock is within the frame. -/
theorem of_lock
    {position : Call}
    {paymentId : Uuid}
    (hFree : system.paymentLock paymentId = none)
    (hCalls :
      next.calls =
        Function.update system.calls call position)
    (hLock :
      next.paymentLock =
        Function.update system.paymentLock paymentId
          (some call)) :
    Frame system call next where
  calls := calls_of_update hCalls
  paymentLock := by
    intro payment other hOther
    rw [hLock]
    by_cases hPayment : payment = paymentId
    · subst hPayment
      simp [hFree, Ne.symm hOther]
    · rw [Function.update_of_ne hPayment]

end Frame

namespace Quiet

variable {system : System}
variable {call : CallId}
variable {position : Call}

theorem become
    (hCaptured : position.captured = none)
    (hReservation : position.reservation = none) :
    Quiet system call (system.become call position) where
  frame := Frame.of_update rfl rfl
  db := rfl
  origins := rfl
  refundCalls := rfl
  captured := by simp [hCaptured]
  reservation := by simp [hReservation]

theorem release
    (hCaptured : position.captured = none)
    (hReservation : position.reservation = none) :
    Quiet system call
      ((system.release call).become call position) where
  frame := Frame.of_release rfl rfl
  db := rfl
  origins := rfl
  refundCalls := rfl
  captured := by simp [hCaptured]
  reservation := by simp [hReservation]

/- An answer to anything but a refund is quiet. -/
theorem observe
    {next : System}
    {providerCall : ProviderCall}
    (hQuiet : Quiet system call next)
    (hRefund : providerCall.asRefund = none) :
    Quiet system call (next.observe providerCall) where
  frame := ⟨hQuiet.frame.calls, hQuiet.frame.paymentLock⟩
  db := hQuiet.db
  origins := hQuiet.origins
  refundCalls := by
    rw [← hQuiet.refundCalls]
    simp [System.refundCalls, System.observe, hRefund]
  captured := hQuiet.captured
  reservation := hQuiet.reservation

end Quiet

end PayGuard

------------------------------------------------------------
-- Effects
------------------------------------------------------------

namespace PayGuard

/- An idle call claims this key row, and may lock it. -/
structure Claims
    (system : System)
    (call : CallId)
    (merchantId : Uuid)
    (idempotencyKey fingerprint : String)
    (draw : Draw)
    (keyRow : IdempotencyKey) : Prop where
  idle : system.calls call = .idle
  claim :
    claimIdempotencyKey system.db merchantId idempotencyKey
      fingerprint draw = some (.claimed keyRow)
  free : system.keyFree keyRow.claimedKey = true

/-
  Where an action that commits nothing takes its call.  An
  exception may end any call.
-/
inductive Turn
    (config : Config)
    (system : System)
    (call : CallId)
    (draw : Draw) :
    Action → Call → Prop where
| raised
    {action : Action}
    {failure : Failure} :
    Turn config system call draw action
      (.done (.raised failure))
| died : Turn config system call draw .die .dead
| replayed
    {action : Action}
    {merchantId : Uuid}
    {idempotencyKey : String}
    {keyRow : IdempotencyKey}
    (hMerchant : action.merchant = some merchantId)
    (hFind :
      system.db.findKey merchantId idempotencyKey =
        some keyRow) :
    Turn config system call draw action
      (.done (.response keyRow.responseStatus
        keyRow.responseBody))
-- the claim went through and the work after it did not
| refused
    {action : Action}
    {merchantId : Uuid}
    {idempotencyKey fingerprint : String}
    {keyRow : IdempotencyKey}
    {failure : Failure}
    (hMerchant : action.merchant = some merchantId)
    (hClaims :
      Claims system call merchantId idempotencyKey
        fingerprint draw keyRow) :
    Turn config system call draw action
      (.failing keyRow.claimedKey failure)
| failed
    {action : Action}
    {key : ClaimedKey}
    {failure : Failure}
    (hKey : (system.calls call).claimedKey = some key) :
    Turn config system call draw action
      (.failing key failure)
| failureSeen
    {key : ClaimedKey}
    {failure : Failure}
    (hCall : system.calls call = .failing key failure) :
    Turn config system call draw .failRead
      (.failureSeen key failure)
| authorized
    {request : CreateRequest}
    {key : ClaimedKey}
    {intent : PaymentIntent}
    {level : RiskLevel}
    {result : ProviderResult}
    (hCall :
      system.calls call =
        .createAssessed request key intent level)
    (hLevel : level ≠ .block) :
    Turn config system call draw (.createAuthorize result)
      (.createAuthorized request key intent result)
| dispatched
    {outboxEventId pick : Uuid}
    {event : OutboxEvent}
    (hFind :
      system.db.outbox.find? (fun event =>
        event.id = outboxEventId) = some event) :
    Turn config system call draw
      (.dispatchBegin outboxEventId pick)
      (.dispatchOpen outboxEventId
        (dispatchPlan system.db event pick).1
        (dispatchPlan system.db event pick).2)
| loaded
    {paymentId merchantId : Uuid}
    {intent : PaymentIntent}
    (hSelect :
      system.db.selectPayment paymentId merchantId =
        some intent)
    (hStatus : intent.status = .unknown) :
    Turn config system call draw
      (.reconcileLoad paymentId merchantId)
      (.reconcileLoaded intent)
| begun
    {paymentId merchantId pick : Uuid}
    {check : ReconcileCheck}
    (hCheck :
      reconcileCheck system.db
        (system.db.selectPayment paymentId merchantId)
        paymentId pick = .ok check) :
    Turn config system call draw
      (.reconcileBegin paymentId merchantId pick)
      check.position
| continued
    {intent : PaymentIntent}
    {pick : Uuid}
    {check : ReconcileCheck}
    (hCall : system.calls call = .reconcileLoaded intent)
    (hCheck :
      reconcileCheck system.db
        (lockPayment config.lockRead system.db (some intent)
          intent.id intent.merchantId)
        intent.id pick = .ok check) :
    Turn config system call draw (.reconcileNext pick)
      check.position
| answered
    {intent : PaymentIntent}
    {idempotencyKey : String}
    {result : ProviderResult}
    (hCall :
      system.calls call =
        .reconcileAsking intent idempotencyKey) :
    Turn config system call draw (.reconcileAnswer result)
      (.reconcileAnswered intent result)

/-
  Everything one action can do to the system.  The last
  argument is the state it leads to.
-/
inductive Effect
    (config : Config)
    (system : System)
    (call : CallId)
    (draw : Draw) :
    Action → System → Prop where
| quiet
    {action : Action}
    {next : System}
    (hQuiet : Quiet system call next)
    (hTurn :
      Turn config system call draw action
        (next.calls call)) :
    Effect config system call draw action next
| createInsert
    {request : CreateRequest}
    {keyRow : IdempotencyKey}
    {db : Database}
    {intent : PaymentIntent}
    (hClaims :
      Claims system call request.merchantId
        request.idempotencyKey
        (createFingerprint config request) draw keyRow)
    (hBody :
      createInsert config.indexable system.db request keyRow
          draw =
        .ok (db, intent)) :
    Effect config system call draw (.createBegin request)
      ((system.commit call db
        (.createClaimed request keyRow.claimedKey
          intent)).recordOrigin keyRow.claimedKey
            (.payment intent.id))
| createProcess
    {request : CreateRequest}
    {key : ClaimedKey}
    {intent moved : PaymentIntent}
    {db : Database}
    (hCall :
      system.calls call = .createClaimed request key intent)
    (hFree : system.paymentFree intent.id = true)
    (hBody :
      createProcess system.db
        (lockPayment config.lockRead system.db (some intent)
          intent.id request.merchantId)
        draw = .ok (db, moved)) :
    Effect config system call draw .createProcess
      (system.commit call db
        (.createProcessing request key moved))
| createAssess
    {request : CreateRequest}
    {key : ClaimedKey}
    {intent : PaymentIntent}
    (hCall :
      system.calls call =
        .createProcessing request key intent) :
    Effect config system call draw .createAssess
      (system.commit call
        (createAssess system.db request intent draw).1
        (.createAssessed request key intent
          (createAssess system.db request intent
            draw).2.level))
| createBlock
    {request : CreateRequest}
    {key : ClaimedKey}
    {intent : PaymentIntent}
    {db : Database}
    {response : Response}
    (hCall :
      system.calls call =
        .createAssessed request key intent .block)
    (hFree : system.paymentFree intent.id = true)
    (hKeyFree : system.keyFree key = true)
    (hBody :
      createBlock system.db
        (lockPayment config.lockRead system.db (some intent)
          intent.id request.merchantId)
        key.id draw = .ok (db, response)) :
    Effect config system call draw .createBlock
      (system.commit call db
        (.done (.response response.status response.body)))
| createFinish
    {request : CreateRequest}
    {key : ClaimedKey}
    {intent : PaymentIntent}
    {result : ProviderResult}
    {db : Database}
    {response : Response}
    (hCall :
      system.calls call =
        .createAuthorized request key intent result)
    (hFree : system.paymentFree intent.id = true)
    (hKeyFree : system.keyFree key = true)
    (hBody :
      createFinish system.db
        (lockPayment config.lockRead system.db (some intent)
          intent.id request.merchantId)
        key.id config.providerName result draw =
          .ok (db, response)) :
    Effect config system call draw .createFinish
      (system.commit call db
        (.done (.response response.status response.body)))
| captureSettled
    {request : CaptureRequest}
    {keyRow : IdempotencyKey}
    {intent : PaymentIntent}
    (hClaims :
      Claims system call request.merchantId
        request.idempotencyKey
        (captureFingerprint config request) draw keyRow)
    (hSelect :
      system.db.selectPayment request.paymentId
        request.merchantId = some intent)
    (hStatus : intent.status = .succeeded) :
    Effect config system call draw (.captureBegin request)
      (system.commit call
        (captureSettled system.db intent keyRow).1
        (.done (.response
          (captureSettled system.db intent keyRow).2.status
          (captureSettled system.db intent keyRow).2.body)))
| captureOpen
    {request : CaptureRequest}
    {keyRow : IdempotencyKey}
    {intent : PaymentIntent}
    {transaction : ProviderTransaction}
    (hClaims :
      Claims system call request.merchantId
        request.idempotencyKey
        (captureFingerprint config request) draw keyRow)
    (hFree : system.paymentFree intent.id = true)
    (hSelect :
      system.db.selectPayment request.paymentId
        request.merchantId = some intent)
    (hStatus : intent.status = .processing)
    (hTransaction :
      latestSuccessfulProviderTransaction system.db
        intent.id = some transaction) :
    Effect config system call draw (.captureBegin request)
      { system.become call
          (.captureOpen request keyRow intent
            transaction) with
        paymentLock :=
          Function.update system.paymentLock intent.id
            (some call)
        keyLock :=
          Function.update system.keyLock
            (keyRow.merchantId, keyRow.idempotencyKey)
            (some call) }
| captureFinish
    {request : CaptureRequest}
    {keyRow : IdempotencyKey}
    {intent : PaymentIntent}
    {transaction : ProviderTransaction}
    {result : ProviderResult}
    {db : Database}
    {response : Response}
    (hCall :
      system.calls call =
        .captureOpen request keyRow intent transaction)
    (hAdmits : system.db.AdmitsKey keyRow)
    (hBody :
      captureFinish system.db intent keyRow result draw =
        .ok (db, response)) :
    Effect config system call draw (.captureFinish result)
      (((system.release call).observe
        (.capture intent.id
          transaction.providerTransactionId
          intent.amountMinor result)).commit call db
            (.done (.response response.status
              response.body)))
| refundReserve
    {request : RefundRequest}
    {keyRow : IdempotencyKey}
    {db : Database}
    {reservation : Reservation}
    (hClaims :
      Claims system call request.merchantId
        request.idempotencyKey
        (refundFingerprint config request) draw keyRow)
    (hFree : system.paymentFree request.paymentId = true)
    (hBody :
      refundReserve system.db
        (system.db.selectPayment request.paymentId
          request.merchantId)
        request keyRow draw = .ok (db, reservation)) :
    Effect config system call draw (.refundBegin request)
      ((system.commit call db
        (.refundReserved request keyRow.claimedKey
          reservation)).recordOrigin keyRow.claimedKey
            (.refund reservation.refund.id))
| refundAnswer
    {request : RefundRequest}
    {key : ClaimedKey}
    {reservation : Reservation}
    {result : ProviderResult}
    {executed : Bool}
    (hCall :
      system.calls call =
        .refundReserved request key reservation)
    (hExecuted :
      result.outcome.mayExecute executed = true) :
    Effect config system call draw
      (.refundAnswer result executed)
      ((system.become call
        (.refundAnswered request key reservation
          result)).observe
            (.refund reservation.refund.paymentIntentId
              reservation.refund.id
              reservation.transaction.providerTransactionId
              reservation.refund.amountMinor
              request.idempotencyKey result executed))
| refundFinish
    {request : RefundRequest}
    {key : ClaimedKey}
    {reservation : Reservation}
    {result : ProviderResult}
    {db : Database}
    {response : Response}
    (hCall :
      system.calls call =
        .refundAnswered request key reservation result)
    (hFree : system.paymentFree request.paymentId = true)
    (hKeyFree : system.keyFree key = true)
    (hBody :
      refundFinalize system.db
        (lockPayment config.lockRead system.db
          (some reservation.intent) request.paymentId
          request.merchantId)
        reservation.refund key.id result draw =
          .ok (db, response)) :
    Effect config system call draw .refundFinish
      (system.commit call db
        (.done (.response response.status response.body)))
| receiveWebhook
    {delivery : WebhookDelivery}
    (hCall : system.calls call = .idle) :
    Effect config system call draw (.receiveWebhook delivery)
      (system.commit call
        (receiveWebhook system.db delivery draw)
        (.done .received))
| dispatchFinish
    {outboxEventId webhookEventId : Uuid}
    {plan : WebhookPlan}
    {db : Database}
    (hCall :
      system.calls call =
        .dispatchOpen outboxEventId webhookEventId plan)
    (hReady : system.dispatchReady plan = true)
    (hBody :
      dispatchEffect config system.db webhookEventId plan
        draw = .ok db) :
    Effect config system call draw .dispatchFinish
      ((system.release call).commit call
        (markProcessed db outboxEventId)
        (.done .dispatched))
| reconcileApply
    {intent : PaymentIntent}
    {result : ProviderResult}
    {db : Database}
    {report : ReconciliationReport}
    (hCall :
      system.calls call = .reconcileAnswered intent result)
    (hFree : system.paymentFree intent.id = true)
    (hBody :
      reconcileApply system.db
        (lockPayment config.lockRead system.db (some intent)
          intent.id intent.merchantId)
        config.providerName result draw =
          .ok (db, report)) :
    Effect config system call draw .reconcileApply
      (system.commit call db (.reconcileReporting report))
| reconcileReport
    {report : ReconciliationReport}
    (hCall :
      system.calls call = .reconcileReporting report) :
    Effect config system call draw .reconcileReport
      (system.commit call (writeReport system.db report)
        (.done (.report report)))
| failWrite
    {key : ClaimedKey}
    {failure : Failure}
    (hCall : system.calls call = .failureSeen key failure)
    (hKeyFree : system.keyFree key = true) :
    Effect config system call draw .failWrite
      (system.commit call
        (failIdempotencyKey system.db key.id)
        (.done (.raised failure)))

end PayGuard

------------------------------------------------------------
-- Inversion
------------------------------------------------------------

namespace PayGuard

variable {config : Config}
variable {system next : System}
variable {call : CallId}
variable {draw : Draw}

/- A step is taken from a position that allows for it. -/
theorem callStep_enables
    {action : Action}
    (hStep :
      callStep config system call draw action = some next) :
    (system.calls call).enables action = true := by
  cases action with
  | die =>
      simp only [callStep, stepDie] at hStep
      cases hCall : system.calls call with
      | idle =>
          rw [hCall] at hStep
          cases hStep
      | done reply =>
          rw [hCall] at hStep
          cases hStep
      | dead =>
          rw [hCall] at hStep
          cases hStep
      | _ => rfl
  | _ =>
      simp only [callStep, stepCreateBegin, stepClaim,
        stepCreateProcess, stepCreateAssess,
        stepCreateBlock, stepCreateAuthorize,
        stepCreateFinish, stepCaptureBegin,
        stepCaptureFinish, stepRefundBegin,
        stepRefundAnswer, stepRefundFinish,
        stepReceiveWebhook, stepDispatchBegin,
        stepDispatchFinish, stepReconcileLoad,
        stepReconcileBegin, stepReconcileNext,
        stepReconcileAnswer, stepReconcileApply,
        stepReconcileReport, stepRaise, stepFailRead,
        stepFailWrite] at hStep
      split at hStep
      all_goals first
        | rename_i hCall
          rw [hCall]
          rfl
        | cases hStep

/- A replayed claim found the row it replays. -/
theorem claimIdempotencyKey_eq_replay
    {db : Database}
    {merchantId : Uuid}
    {idempotencyKey fingerprint : String}
    {keyRow : IdempotencyKey}
    (hClaim :
      claimIdempotencyKey db merchantId idempotencyKey
        fingerprint draw = some (.replay keyRow)) :
    db.findKey merchantId idempotencyKey = some keyRow := by
  unfold claimIdempotencyKey at hClaim
  split at hClaim
  · cases hClaim
  · rename_i existing hFind
    split at hClaim
    · cases hClaim
    · cases hClaim
      exact hFind
    · cases hClaim
    · split at hClaim
      · cases hClaim
      · cases hClaim

/- A call that moves and does nothing else is quiet. -/
theorem Effect.become
    {action : Action}
    {position : Call}
    (hTurn : Turn config system call draw action position)
    (hCaptured : position.captured = none)
    (hReservation : position.reservation = none) :
    Effect config system call draw action
      (system.become call position) := by
  refine .quiet (Quiet.become hCaptured hReservation) ?_
  rw [System.become_calls_self]
  exact hTurn

/- A claiming step is answered at once or does its work. -/
theorem stepClaim_eq_some
    (config : Config)
    {action : Action}
    {merchantId : Uuid}
    {idempotencyKey fingerprint : String}
    {work : IdempotencyKey → Option System}
    (hMerchant : action.merchant = some merchantId)
    (hStep :
      stepClaim system call merchantId idempotencyKey
        fingerprint draw work = some next) :
    Effect config system call draw action next ∨
      ∃ keyRow,
        Claims system call merchantId idempotencyKey
          fingerprint draw keyRow ∧
        work keyRow = some next := by
  unfold stepClaim at hStep
  split at hStep
  · rename_i hIdle
    split at hStep
    · cases hStep
    · cases hStep
      exact .inl (.become .raised rfl rfl)
    · cases hStep
      exact .inl (.become .raised rfl rfl)
    · rename_i hClaim
      cases hStep
      have hFind := claimIdempotencyKey_eq_replay hClaim
      exact .inl
        (.become (.replayed hMerchant hFind) rfl rfl)
    · rename_i keyRow hClaim
      split at hStep
      · rename_i hFree
        exact .inr ⟨keyRow, ⟨hIdle, hClaim, hFree⟩, hStep⟩
      · cases hStep
  · cases hStep

theorem stepCreateBegin_effect
    {request : CreateRequest}
    (hStep :
      stepCreateBegin config system call request draw =
        some next) :
    Effect config system call draw (.createBegin request)
      next := by
  have hMerchant :
      (Action.createBegin request).merchant =
        some request.merchantId := rfl
  rcases stepClaim_eq_some config hMerchant hStep with
    hEffect | ⟨keyRow, hClaims, hWork⟩
  · exact hEffect
  · split at hWork
    · cases hWork
      exact .become (.refused rfl hClaims) rfl rfl
    · rename_i hBody
      cases hWork
      exact .createInsert hClaims hBody

theorem stepCreateProcess_effect
    (hStep :
      stepCreateProcess config system call draw =
        some next) :
    Effect config system call draw .createProcess next := by
  unfold stepCreateProcess at hStep
  split at hStep
  · rename_i hCall
    split at hStep
    · rename_i hFree
      split at hStep
      · cases hStep
        exact .become (.failed (by rw [hCall]; rfl)) rfl rfl
      · rename_i hBody
        cases hStep
        exact .createProcess hCall hFree hBody
    · cases hStep
  · cases hStep

theorem stepCreateAssess_effect
    (hStep :
      stepCreateAssess system call draw = some next) :
    Effect config system call draw .createAssess next := by
  unfold stepCreateAssess at hStep
  split at hStep
  · rename_i hCall
    cases hStep
    exact .createAssess hCall
  · cases hStep

theorem stepCreateBlock_effect
    (hStep :
      stepCreateBlock config system call draw = some next) :
    Effect config system call draw .createBlock next := by
  unfold stepCreateBlock at hStep
  split at hStep
  · rename_i hCall
    split at hStep
    · rename_i hFree
      rw [Bool.and_eq_true] at hFree
      split at hStep
      · cases hStep
        exact .become (.failed (by rw [hCall]; rfl)) rfl rfl
      · rename_i hBody
        cases hStep
        exact .createBlock hCall hFree.1 hFree.2 hBody
    · cases hStep
  · cases hStep

theorem stepCreateAuthorize_effect
    {result : ProviderResult}
    (hStep :
      stepCreateAuthorize system call result = some next) :
    Effect config system call draw (.createAuthorize result)
      next := by
  unfold stepCreateAuthorize at hStep
  split at hStep
  · rename_i hCall
    split at hStep
    · cases hStep
    · rename_i hLevel
      cases hStep
      refine .quiet ((Quiet.become rfl rfl).observe rfl) ?_
      rw [System.observe_calls, System.become_calls_self]
      exact .authorized hCall hLevel
  · cases hStep

theorem stepCreateFinish_effect
    (hStep :
      stepCreateFinish config system call draw =
        some next) :
    Effect config system call draw .createFinish next := by
  unfold stepCreateFinish at hStep
  split at hStep
  · rename_i hCall
    split at hStep
    · rename_i hFree
      rw [Bool.and_eq_true] at hFree
      split at hStep
      · cases hStep
        exact .become (.failed (by rw [hCall]; rfl)) rfl rfl
      · rename_i hBody
        cases hStep
        exact .createFinish hCall hFree.1 hFree.2 hBody
    · cases hStep
  · cases hStep

/- What the check of a capture read, by its verdict. -/
theorem captureCheck_eq_ok
    {db : Database}
    {locked : Option PaymentIntent}
    {paymentId : Uuid}
    {check : CaptureCheck}
    (hCheck : captureCheck db locked paymentId = .ok check) :
    ∃ intent,
      locked = some intent ∧
        ((intent.status = .succeeded ∧
            check = .settled intent) ∨
          (intent.status = .processing ∧
            ∃ transaction,
              latestSuccessfulProviderTransaction db
                  intent.id = some transaction ∧
                check =
                  .callProvider intent transaction)) := by
  unfold captureCheck at hCheck
  split at hCheck
  · cases hCheck
  · rename_i intent
    refine ⟨intent, rfl, ?_⟩
    split at hCheck
    · rename_i hStatus
      cases hCheck
      exact .inl ⟨hStatus, rfl⟩
    · split at hCheck
      · cases hCheck
      · rename_i hStatus
        split at hCheck
        · cases hCheck
        · rename_i transaction hTransaction
          cases hCheck
          exact .inr ⟨not_not.mp hStatus, transaction,
            hTransaction, rfl⟩

theorem stepCaptureBegin_effect
    {request : CaptureRequest}
    (hStep :
      stepCaptureBegin config system call request draw =
        some next) :
    Effect config system call draw (.captureBegin request)
      next := by
  have hMerchant :
      (Action.captureBegin request).merchant =
        some request.merchantId := rfl
  rcases stepClaim_eq_some config hMerchant hStep with
    hEffect | ⟨keyRow, hClaims, hWork⟩
  · exact hEffect
  · simp only [lockPayment_unloaded] at hWork
    split at hWork
    · rename_i hFree
      split at hWork
      · cases hWork
        exact .become (.refused rfl hClaims) rfl rfl
      · rename_i hCheck
        rcases captureCheck_eq_ok hCheck with
          ⟨row, hSelect, ⟨hStatus, hVerdict⟩ |
            ⟨_, _, _, hVerdict⟩⟩
        · cases hVerdict
          cases hWork
          exact .captureSettled hClaims hSelect hStatus
        · cases hVerdict
      · rename_i hCheck
        rcases captureCheck_eq_ok hCheck with
          ⟨row, hSelect, ⟨_, hVerdict⟩ |
            ⟨hStatus, _, hTransaction, hVerdict⟩⟩
        · cases hVerdict
        · cases hVerdict
          cases hWork
          have hId := (selectPayment_eq_some hSelect).2.1
          rw [← hId] at hFree
          exact .captureOpen hClaims hFree hSelect hStatus
            hTransaction
    · cases hWork

theorem stepCaptureFinish_effect
    {result : ProviderResult}
    (hStep :
      stepCaptureFinish system call result draw =
        some next) :
    Effect config system call draw (.captureFinish result)
      next := by
  unfold stepCaptureFinish at hStep
  split at hStep
  · rename_i hCall
    split at hStep
    · rename_i hAdmits
      simp only at hStep
      split at hStep
      · cases hStep
        refine .quiet
          ((Quiet.release rfl rfl).observe rfl) ?_
        rw [System.become_calls_self]
        exact .failed (by rw [hCall]; rfl)
      · rename_i hBody
        cases hStep
        exact .captureFinish hCall hAdmits hBody
    · cases hStep
  · cases hStep

theorem stepRefundBegin_effect
    {request : RefundRequest}
    (hStep :
      stepRefundBegin config system call request draw =
        some next) :
    Effect config system call draw (.refundBegin request)
      next := by
  have hMerchant :
      (Action.refundBegin request).merchant =
        some request.merchantId := rfl
  rcases stepClaim_eq_some config hMerchant hStep with
    hEffect | ⟨keyRow, hClaims, hWork⟩
  · exact hEffect
  · simp only [lockPayment_unloaded] at hWork
    split at hWork
    · rename_i hFree
      split at hWork
      · cases hWork
        exact .become (.refused rfl hClaims) rfl rfl
      · rename_i hBody
        cases hWork
        exact .refundReserve hClaims hFree hBody
    · cases hWork

theorem stepRefundAnswer_effect
    {result : ProviderResult}
    {executed : Bool}
    (hStep :
      stepRefundAnswer system call result executed =
        some next) :
    Effect config system call draw
      (.refundAnswer result executed) next := by
  unfold stepRefundAnswer at hStep
  split at hStep
  · rename_i hCall
    split at hStep
    · rename_i hExecuted
      cases hStep
      exact .refundAnswer hCall hExecuted
    · cases hStep
  · cases hStep

theorem stepRefundFinish_effect
    (hStep :
      stepRefundFinish config system call draw =
        some next) :
    Effect config system call draw .refundFinish next := by
  unfold stepRefundFinish at hStep
  split at hStep
  · rename_i hCall
    split at hStep
    · rename_i hFree
      rw [Bool.and_eq_true] at hFree
      split at hStep
      · cases hStep
        exact .become (.failed (by rw [hCall]; rfl)) rfl rfl
      · rename_i hBody
        cases hStep
        exact .refundFinish hCall hFree.1 hFree.2 hBody
    · cases hStep
  · cases hStep

theorem stepReceiveWebhook_effect
    {delivery : WebhookDelivery}
    (hStep :
      stepReceiveWebhook system call delivery draw =
        some next) :
    Effect config system call draw (.receiveWebhook delivery)
      next := by
  unfold stepReceiveWebhook at hStep
  split at hStep
  · rename_i hCall
    cases hStep
    exact .receiveWebhook hCall
  · cases hStep

theorem stepDispatchBegin_effect
    {outboxEventId pick : Uuid}
    (hStep :
      stepDispatchBegin system call outboxEventId pick =
        some next) :
    Effect config system call draw
      (.dispatchBegin outboxEventId pick) next := by
  unfold stepDispatchBegin at hStep
  split at hStep
  · split at hStep
    · cases hStep
    · rename_i hFind
      split at hStep
      · cases hStep
        refine .quiet
          { frame := Frame.of_update rfl rfl
            db := rfl
            origins := rfl
            refundCalls := rfl
            captured := by simp [Call.captured]
            reservation := by simp [Call.reservation] } ?_
        rw [System.become_calls_self]
        exact .dispatched hFind
      · cases hStep
  · cases hStep

theorem stepDispatchFinish_effect
    (hStep :
      stepDispatchFinish config system call draw =
        some next) :
    Effect config system call draw .dispatchFinish next := by
  unfold stepDispatchFinish at hStep
  split at hStep
  · rename_i hCall
    split at hStep
    · rename_i hReady
      split at hStep
      · cases hStep
        refine .quiet (Quiet.release rfl rfl) ?_
        rw [System.become_calls_self]
        exact .raised
      · rename_i hBody
        cases hStep
        exact .dispatchFinish hCall hReady hBody
    · cases hStep
  · cases hStep

theorem stepReconcileLoad_effect
    {paymentId merchantId : Uuid}
    (hStep :
      stepReconcileLoad system call paymentId merchantId =
        some next) :
    Effect config system call draw
      (.reconcileLoad paymentId merchantId) next := by
  unfold stepReconcileLoad at hStep
  split at hStep
  · split at hStep
    · cases hStep
    · rename_i hSelect
      split at hStep
      · rename_i hStatus
        cases hStep
        exact .become (.loaded hSelect hStatus) rfl rfl
      · cases hStep
  · cases hStep

/- The first lock of a reconciliation, by what it finds. -/
theorem reconcileLock_effect
    {action : Action}
    {loaded : Option PaymentIntent}
    {paymentId merchantId pick : Uuid}
    (hTurn :
      ∀ check,
        reconcileCheck system.db
            (lockPayment config.lockRead system.db loaded
              paymentId merchantId)
            paymentId pick = .ok check →
          Turn config system call draw action
            check.position)
    (hStep :
      reconcileLock config system call loaded paymentId
        merchantId pick = some next) :
    Effect config system call draw action next := by
  unfold reconcileLock at hStep
  split at hStep
  · split at hStep
    · cases hStep
      exact .become .raised rfl rfl
    · rename_i hCheck
      cases hStep
      exact .become (hTurn _ hCheck) rfl rfl
    · rename_i hCheck
      cases hStep
      exact .become (hTurn _ hCheck) rfl rfl
  · cases hStep

theorem stepReconcileBegin_effect
    {paymentId merchantId pick : Uuid}
    (hStep :
      stepReconcileBegin config system call paymentId
        merchantId pick = some next) :
    Effect config system call draw
      (.reconcileBegin paymentId merchantId pick) next := by
  unfold stepReconcileBegin at hStep
  split at hStep
  · apply reconcileLock_effect _ hStep
    intro check hCheck
    rw [lockPayment_unloaded] at hCheck
    exact .begun hCheck
  · cases hStep

theorem stepReconcileNext_effect
    {pick : Uuid}
    (hStep :
      stepReconcileNext config system call pick =
        some next) :
    Effect config system call draw (.reconcileNext pick)
      next := by
  unfold stepReconcileNext at hStep
  split at hStep
  · rename_i hCall
    apply reconcileLock_effect _ hStep
    intro check hCheck
    exact .continued hCall hCheck
  · cases hStep

theorem stepReconcileAnswer_effect
    {result : ProviderResult}
    (hStep :
      stepReconcileAnswer system call result = some next) :
    Effect config system call draw (.reconcileAnswer result)
      next := by
  unfold stepReconcileAnswer at hStep
  split at hStep
  · rename_i hCall
    cases hStep
    refine .quiet ((Quiet.become rfl rfl).observe rfl) ?_
    rw [System.observe_calls, System.become_calls_self]
    exact .answered hCall
  · cases hStep

theorem stepReconcileApply_effect
    (hStep :
      stepReconcileApply config system call draw =
        some next) :
    Effect config system call draw .reconcileApply next := by
  unfold stepReconcileApply at hStep
  split at hStep
  · rename_i hCall
    split at hStep
    · rename_i hFree
      split at hStep
      · cases hStep
        exact .become .raised rfl rfl
      · rename_i hBody
        cases hStep
        exact .reconcileApply hCall hFree hBody
    · cases hStep
  · cases hStep

theorem stepReconcileReport_effect
    (hStep : stepReconcileReport system call = some next) :
    Effect config system call draw .reconcileReport next := by
  unfold stepReconcileReport at hStep
  split at hStep
  · rename_i hCall
    cases hStep
    exact .reconcileReport hCall
  · cases hStep

theorem stepRaise_quiet
    {failure : Failure}
    (hStep : stepRaise system call failure = some next) :
    Quiet system call next := by
  unfold stepRaise at hStep
  split at hStep <;> cases hStep
  all_goals
    first
    | exact Quiet.become rfl rfl
    | exact Quiet.release rfl rfl

/- Where an exception takes a call. -/
theorem stepRaise_turn
    {action : Action}
    {failure : Failure}
    (hStep : stepRaise system call failure = some next) :
    Turn config system call draw action
      (next.calls call) := by
  unfold stepRaise at hStep
  split at hStep <;> cases hStep
  all_goals rename_i hCall
  all_goals rw [System.become_calls_self]
  all_goals
    first
    | exact .raised
    | exact .failed (by rw [hCall]; rfl)

theorem stepFailRead_quiet
    (hStep : stepFailRead system call = some next) :
    Quiet system call next := by
  unfold stepFailRead at hStep
  split at hStep
  · split at hStep
    · cases hStep
      exact Quiet.become rfl rfl
    · split at hStep
      · cases hStep
        exact Quiet.become rfl rfl
      · cases hStep
        exact Quiet.become rfl rfl
  · cases hStep

theorem stepFailRead_turn
    (hStep : stepFailRead system call = some next) :
    Turn config system call draw .failRead
      (next.calls call) := by
  unfold stepFailRead at hStep
  split at hStep
  · rename_i hCall
    split at hStep
    · cases hStep
      rw [System.become_calls_self]
      exact .raised
    · split at hStep
      · cases hStep
        rw [System.become_calls_self]
        exact .failureSeen hCall
      · cases hStep
        rw [System.become_calls_self]
        exact .raised
  · cases hStep

theorem stepFailWrite_effect
    (hStep : stepFailWrite system call = some next) :
    Effect config system call draw .failWrite next := by
  unfold stepFailWrite at hStep
  split at hStep
  · rename_i hCall
    split at hStep
    · rename_i hKeyFree
      cases hStep
      exact .failWrite hCall hKeyFree
    · cases hStep
  · cases hStep

theorem stepDie_quiet
    (hStep : stepDie system call = some next) :
    Quiet system call next := by
  unfold stepDie at hStep
  split at hStep
  · cases hStep
  · cases hStep
  · cases hStep
  · cases hStep
    exact Quiet.release rfl rfl

theorem stepDie_turn
    (hStep : stepDie system call = some next) :
    Turn config system call draw .die (next.calls call) := by
  unfold stepDie at hStep
  split at hStep
  · cases hStep
  · cases hStep
  · cases hStep
  · cases hStep
    rw [System.become_calls_self]
    exact .died

/- Every enabled action has one of the listed effects. -/
theorem callStep_effect
    {action : Action}
    (hStep :
      callStep config system call draw action =
        some next) :
    Effect config system call draw action next := by
  cases action with
  | createBegin request => exact stepCreateBegin_effect hStep
  | createProcess => exact stepCreateProcess_effect hStep
  | createAssess => exact stepCreateAssess_effect hStep
  | createBlock => exact stepCreateBlock_effect hStep
  | createAuthorize result =>
      exact stepCreateAuthorize_effect hStep
  | createFinish => exact stepCreateFinish_effect hStep
  | captureBegin request =>
      exact stepCaptureBegin_effect hStep
  | captureFinish result =>
      exact stepCaptureFinish_effect hStep
  | refundBegin request => exact stepRefundBegin_effect hStep
  | refundAnswer result executed =>
      exact stepRefundAnswer_effect hStep
  | refundFinish => exact stepRefundFinish_effect hStep
  | receiveWebhook delivery =>
      exact stepReceiveWebhook_effect hStep
  | dispatchBegin outboxEventId pick =>
      exact stepDispatchBegin_effect hStep
  | dispatchFinish => exact stepDispatchFinish_effect hStep
  | reconcileLoad paymentId merchantId =>
      exact stepReconcileLoad_effect hStep
  | reconcileBegin paymentId merchantId pick =>
      exact stepReconcileBegin_effect hStep
  | reconcileNext pick =>
      exact stepReconcileNext_effect hStep
  | reconcileAnswer result =>
      exact stepReconcileAnswer_effect hStep
  | reconcileApply => exact stepReconcileApply_effect hStep
  | reconcileReport =>
      exact stepReconcileReport_effect hStep
  | raise failure =>
      exact .quiet (stepRaise_quiet hStep)
        (stepRaise_turn hStep)
  | failRead =>
      exact .quiet (stepFailRead_quiet hStep)
        (stepFailRead_turn hStep)
  | failWrite => exact stepFailWrite_effect hStep
  | die =>
      exact .quiet (stepDie_quiet hStep)
        (stepDie_turn hStep)

/- A step draws fresh identifiers and has one effect. -/
theorem step_effect
    {label : Label}
    (hStep : step config system label = some next) :
    system.db.Admits label.draw ∧
      Effect config system label.call label.draw
        label.action next := by
  unfold step at hStep
  split at hStep
  · rename_i hAdmits
    exact ⟨hAdmits, callStep_effect hStep⟩
  · cases hStep

/- Whatever a call does stays within its frame. -/
theorem Effect.frame
    {action : Action}
    (hEffect :
      Effect config system call draw action next) :
    Frame system call next := by
  cases hEffect with
  | quiet hQuiet => exact hQuiet.frame
  | captureOpen _ hFree _ _ =>
      exact Frame.of_lock (paymentLock_eq_none hFree)
        rfl rfl
  | captureFinish _ _ _ => exact Frame.of_release rfl rfl
  | dispatchFinish _ _ _ => exact Frame.of_release rfl rfl
  | createInsert _ _ => exact Frame.of_update rfl rfl
  | createProcess _ _ _ => exact Frame.of_update rfl rfl
  | createAssess _ => exact Frame.of_update rfl rfl
  | createBlock _ _ _ _ => exact Frame.of_update rfl rfl
  | createFinish _ _ _ _ => exact Frame.of_update rfl rfl
  | captureSettled _ _ _ => exact Frame.of_update rfl rfl
  | refundReserve _ _ _ => exact Frame.of_update rfl rfl
  | refundAnswer _ _ => exact Frame.of_update rfl rfl
  | refundFinish _ _ _ _ => exact Frame.of_update rfl rfl
  | receiveWebhook _ => exact Frame.of_update rfl rfl
  | reconcileApply _ _ _ => exact Frame.of_update rfl rfl
  | reconcileReport _ => exact Frame.of_update rfl rfl
  | failWrite _ _ => exact Frame.of_update rfl rfl

/- A call that never acts stays where it was. -/
theorem calls_of_not_acting
    {config : Config}
    {labels : List Label}
    {start system : System}
    {call : CallId}
    (hRun :
      Lts.exec (step config) start labels = some system)
    (hCall : ∀ label ∈ labels, label.call ≠ call) :
    system.calls call = start.calls call := by
  induction labels generalizing start with
  | nil =>
      cases hRun
      rfl
  | cons label labels ih =>
      rw [List.forall_mem_cons] at hCall
      rcases Lts.exec_cons_eq_some.mp hRun with
        ⟨next, hStep, hRest⟩
      have hFrame := (step_effect hStep).2.frame
      rw [ih hRest hCall.2,
        hFrame.calls call hCall.1.symm]

end PayGuard

import Mathlib.Tactic.Common

/-
  The payment state machine.

  `paymentTransitions` is the single table of allowed
  status changes.  Each entry names the target status and,
  where the change is reserved, the actors that may make it.

  Key definitions include:
    * `PaymentStatus`
    * `RefundStatus`
    * `Actor`
    * `paymentTransitions`
    * `isValidPaymentTransition`
    * `allowedPaymentTransitions`
    * `refundTransitions`
    * `isValidRefundTransition`
    * `PaymentStatus.Settled`

  Key theorems include:
    * `mem_allowedPaymentTransitions`
    * `isValid_succeeded_iff`
    * `settled_iff_of_isValid`
-/

------------------------------------------------------------
-- Statuses And Actors
------------------------------------------------------------

namespace PayGuard

inductive PaymentStatus where
| created
| processing
| requiresAction
| unknown
| succeeded
| failed
| refundPending
| refunded
| refundFailed
deriving DecidableEq, Repr

inductive RefundStatus where
| pending
| succeeded
| failed
deriving DecidableEq, Repr

inductive Actor where
| api
| worker
| webhook
| reconciliation
deriving DecidableEq, Repr

namespace PaymentStatus

/- The text a status is stored and printed as. -/
def value : PaymentStatus → String
| created => "CREATED"
| processing => "PROCESSING"
| requiresAction => "REQUIRES_ACTION"
| unknown => "UNKNOWN"
| succeeded => "SUCCEEDED"
| failed => "FAILED"
| refundPending => "REFUND_PENDING"
| refunded => "REFUNDED"
| refundFailed => "REFUND_FAILED"

end PaymentStatus

------------------------------------------------------------
-- The Transition Table
------------------------------------------------------------

/- One allowed change; no actor list means any actor. -/
structure Transition where
  toStatus : PaymentStatus
  allowedActors : Option (List Actor) := none
deriving DecidableEq, Repr

def paymentTransitions : PaymentStatus → List Transition
| .created => [⟨.processing, none⟩]
| .processing =>
    [⟨.succeeded, none⟩, ⟨.failed, none⟩,
      ⟨.requiresAction, none⟩, ⟨.unknown, none⟩]
| .requiresAction => [⟨.processing, none⟩, ⟨.failed, none⟩]
| .unknown =>
    [⟨.succeeded, some [.reconciliation]⟩,
      ⟨.failed, some [.reconciliation]⟩,
      ⟨.unknown, some [.reconciliation]⟩]
| .succeeded => [⟨.refundPending, none⟩]
| .refundPending =>
    [⟨.refunded, none⟩, ⟨.refundFailed, none⟩,
      ⟨.succeeded, none⟩]
| .refundFailed => [⟨.refundPending, none⟩]
| .failed => []
| .refunded => []

/-
  The first entry with the wanted target decides, whether
  it accepts the actor or not.
-/
def acceptsActor
    (toStatus : PaymentStatus)
    (actor : Option Actor) :
    List Transition → Bool
| [] => false
| transition :: transitions =>
    if transition.toStatus ≠ toStatus then
      acceptsActor toStatus actor transitions
    else
      match transition.allowedActors with
      | none => true
      | some actors => actor ∈ actors.map some

/- Whether the table allows a change by this actor. -/
def isValidPaymentTransition
    (fromStatus toStatus : PaymentStatus)
    (actor : Option Actor := none) : Bool :=
  acceptsActor toStatus actor (paymentTransitions fromStatus)

/- The targets the table lists, whoever may reach them. -/
def allowedPaymentTransitions
    (fromStatus : PaymentStatus) : List PaymentStatus :=
  (paymentTransitions fromStatus).map (·.toStatus)

def terminalPaymentStatuses : List PaymentStatus :=
  [.failed, .refunded]

------------------------------------------------------------
-- Refunds
------------------------------------------------------------

def refundTransitions : RefundStatus → List RefundStatus
| .pending => [.succeeded, .failed]
| .failed => [.pending]
| .succeeded => []

def isValidRefundTransition
    (fromStatus toStatus : RefundStatus) : Bool :=
  toStatus ∈ refundTransitions fromStatus

def allowedRefundTransitions
    (fromStatus : RefundStatus) : List RefundStatus :=
  refundTransitions fromStatus

def terminalRefundStatuses : List RefundStatus :=
  [.succeeded]

------------------------------------------------------------
-- Settled Statuses
------------------------------------------------------------

namespace PaymentStatus

/- The payment has been captured, whatever came after. -/
def Settled : PaymentStatus → Prop
| succeeded | refundPending | refundFailed | refunded => True
| _ => False

instance (status : PaymentStatus) :
    Decidable status.Settled := by
  cases status <;> unfold Settled <;> infer_instance

end PaymentStatus

/- An accepted target is listed. -/
theorem mem_of_acceptsActor
    {toStatus : PaymentStatus}
    {actor : Option Actor}
    {transitions : List Transition}
    (hAccepts :
      acceptsActor toStatus actor transitions = true) :
    toStatus ∈ transitions.map (·.toStatus) := by
  induction transitions with
  | nil => cases hAccepts
  | cons transition transitions ih =>
      rw [List.map_cons, List.mem_cons]
      unfold acceptsActor at hAccepts
      split at hAccepts
      · exact .inr (ih hAccepts)
      · rename_i hSame
        exact .inl (not_not.mp hSame).symm

/- A listed target is one that some actor may reach. -/
theorem mem_allowedPaymentTransitions
    (fromStatus toStatus : PaymentStatus) :
    toStatus ∈ allowedPaymentTransitions fromStatus ↔
      ∃ actor,
        isValidPaymentTransition fromStatus toStatus actor =
          true := by
  constructor
  · intro hListed
    -- every entry that names its actors names this one
    refine ⟨some .reconciliation, ?_⟩
    revert hListed
    cases fromStatus <;> cases toStatus <;> decide
  · rintro ⟨actor, hValid⟩
    exact mem_of_acceptsActor hValid

/- The terminal statuses are those that list no target. -/
theorem mem_terminalPaymentStatuses
    (status : PaymentStatus) :
    status ∈ terminalPaymentStatuses ↔
      allowedPaymentTransitions status = [] := by
  cases status <;> decide

theorem mem_terminalRefundStatuses
    (status : RefundStatus) :
    status ∈ terminalRefundStatuses ↔
      allowedRefundTransitions status = [] := by
  cases status <;> decide

/-
  Only three statuses lead to `succeeded`, and out of
  `unknown` only reconciliation may.
-/
theorem isValid_succeeded_iff
    (fromStatus : PaymentStatus)
    (actor : Option Actor) :
    isValidPaymentTransition fromStatus .succeeded actor =
        true ↔
      fromStatus = .processing ∨
        fromStatus = .refundPending ∨
        (fromStatus = .unknown ∧
          actor = some .reconciliation) := by
  rcases actor with _ | actor
  · cases fromStatus <;> decide
  · cases fromStatus <;> cases actor <;> decide

/-
  A valid change leaves settledness alone unless it enters
  `succeeded` from an unsettled status.
-/
theorem settled_iff_of_isValid
    {fromStatus toStatus : PaymentStatus}
    {actor : Option Actor}
    (hValid :
      isValidPaymentTransition fromStatus toStatus actor =
        true)
    (hTarget :
      toStatus = .succeeded → fromStatus = .refundPending) :
    toStatus.Settled ↔ fromStatus.Settled := by
  revert hValid hTarget
  rcases actor with _ | actor
  · cases fromStatus <;> cases toStatus <;> decide
  · cases fromStatus <;> cases toStatus <;> cases actor <;>
      decide

end PayGuard

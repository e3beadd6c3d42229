import Mathlib.Data.List.Basic
import Mathlib.Data.List.Induction

/-
  Runs of deterministic labelled transition systems.

  A system is a partial step function.  A label stands for
  everything one step takes from outside: who moves, and
  the values the environment supplies to the move.

  Key definitions include:
    * `Lts.exec`
    * `Lts.Meets`
    * `Lts.Once`
    * `Lts.total`

  Key theorems include:
    * `Lts.exec_cons`
    * `Lts.exec_append`
    * `Lts.meets_append`
    * `Lts.invariant_of_meets`
    * `Lts.invariant_of_exec`
    * `Lts.invariant_of_history`
    * `Lts.Meets.imp`
    * `Lts.meets_of_final`
    * `Lts.kept_or_spoiled_of_meets`
    * `Lts.exec_project`, `Lts.exec_view`,
      `Lts.exec_filterMap` and `Lts.exec_perform`
    * `Lts.once_of_meets`
    * `Lts.meets_of_once`
    * `Lts.total_add_le_total`
    * `Lts.total_add_le`
    * `Lts.invariant_of_total`
    * `Lts.total_eq_zero_iff_meets`
-/

------------------------------------------------------------
-- Executions
------------------------------------------------------------

namespace Lts

variable {S L : Type}

/- Execute labels in order, failing at a disabled one. -/
def exec
    (step : S → L → Option S) :
    S → List L → Option S
| state, [] => some state
| state, label :: labels =>
    match step state label with
    | none => none
    | some next => exec step next labels

/-
  Every step of a run meets a condition on its label and on
  the state before it.
-/
def Meets
    (step : S → L → Option S)
    (condition : S → L → Prop) :
    S → List L → Prop
| _, [] => True
| state, label :: labels =>
    condition state label ∧
      match step state label with
      | none => True
      | some next => Meets step condition next labels

/- A decidable condition is decidable along a run. -/
instance decidableMeets
    (step : S → L → Option S)
    (condition : S → L → Prop)
    [∀ state label, Decidable (condition state label)] :
    ∀ state labels,
      Decidable (Meets step condition state labels)
| _, [] => .isTrue trivial
| state, label :: labels =>
    let _rest :
        Decidable
          (match step state label with
          | none => True
          | some next =>
              Meets step condition next labels) :=
      match step state label with
      | none => .isTrue trivial
      | some next =>
          decidableMeets step condition next labels
    inferInstanceAs (Decidable (_ ∧ _))

variable {step : S → L → Option S}

@[simp] theorem exec_nil
    (state : S) :
    exec step state [] = some state := rfl

/- An execution takes its first step, then the others. -/
theorem exec_cons
    (state : S)
    (label : L)
    (labels : List L) :
    exec step state (label :: labels) =
      (step state label).bind
        (fun next => exec step next labels) := by
  rw [exec]
  cases step state label with
  | none => rfl
  | some next => rfl

/- A nonempty execution begins with one enabled step. -/
theorem exec_cons_eq_some
    {state final : S}
    {label : L}
    {labels : List L} :
    exec step state (label :: labels) = some final ↔
      ∃ next,
        step state label = some next ∧
          exec step next labels = some final := by
  rw [exec_cons, Option.bind_eq_some_iff]

/- Executing a concatenation runs its parts in order. -/
theorem exec_append
    (state : S)
    (first second : List L) :
    exec step state (first ++ second) =
      (exec step state first).bind
        (fun middle => exec step middle second) := by
  induction first generalizing state with
  | nil => rfl
  | cons label labels ih =>
      rw [List.cons_append, exec_cons, exec_cons,
        Option.bind_assoc]
      congr 1
      funext next
      exact ih next

/- A run that extends another one passes its last state. -/
theorem exec_append_eq_some
    {state final : S}
    {first second : List L} :
    exec step state (first ++ second) = some final ↔
      ∃ middle,
        exec step state first = some middle ∧
          exec step middle second = some final := by
  rw [exec_append]
  exact Option.bind_eq_some_iff

/- Every label of a run is taken somewhere on the way. -/
theorem step_of_mem
    {start final : S}
    {label : L}
    {labels : List L}
    (hRun : exec step start labels = some final)
    (hLabel : label ∈ labels) :
    ∃ before after, step before label = some after := by
  rcases List.append_of_mem hLabel with ⟨first, last, rfl⟩
  rcases exec_append_eq_some.mp hRun with ⟨before, _, hRest⟩
  rcases exec_cons_eq_some.mp hRest with ⟨after, hStep, _⟩
  exact ⟨before, after, hStep⟩

/- A run goes on by one step. -/
theorem exec_snoc
    {start state final : S}
    {past : List L}
    {label : L}
    (hPast : exec step start past = some state)
    (hStep : step state label = some final) :
    exec step start (past ++ [label]) = some final := by
  refine exec_append_eq_some.mpr ⟨state, hPast, ?_⟩
  exact exec_cons_eq_some.mpr ⟨final, hStep, rfl⟩

end Lts

------------------------------------------------------------
-- Conditions On Runs
------------------------------------------------------------

namespace Lts

variable {S L : Type}
variable {step : S → L → Option S}
variable {condition : S → L → Prop}

@[simp] theorem meets_nil
    (state : S) :
    Meets step condition state [] := trivial

/- A condition on a run is one on its first step and rest. -/
theorem meets_cons_of_step
    {state next : S}
    {label : L}
    {labels : List L}
    (hStep : step state label = some next) :
    Meets step condition state (label :: labels) ↔
      condition state label ∧
        Meets step condition next labels := by
  rw [Meets, hStep]

/- A disabled first step leaves nothing to ask of the rest. -/
theorem meets_cons_of_none
    {state : S}
    {label : L}
    {labels : List L}
    (hStep : step state label = none) :
    Meets step condition state (label :: labels) ↔
      condition state label := by
  rw [Meets, hStep]
  exact and_iff_left trivial

/- A condition on a run restricts to both of its parts. -/
theorem meets_append
    {state middle : S}
    {first second : List L}
    (hFirst : exec step state first = some middle) :
    Meets step condition state (first ++ second) ↔
      Meets step condition state first ∧
        Meets step condition middle second := by
  induction first generalizing state with
  | nil =>
      cases hFirst
      simp
  | cons label labels ih =>
      rcases exec_cons_eq_some.mp hFirst with
        ⟨next, hStep, hRest⟩
      rw [List.cons_append, meets_cons_of_step hStep,
        meets_cons_of_step hStep, ih hRest, and_assoc]

/- A condition met by every label in every state. -/
theorem meets_of_forall
    {state : S}
    {labels : List L}
    (hLabels :
      ∀ label ∈ labels, ∀ state, condition state label) :
    Meets step condition state labels := by
  induction labels generalizing state with
  | nil => trivial
  | cons label labels ih =>
      rw [List.forall_mem_cons] at hLabels
      cases hStep : step state label with
      | none =>
          rw [meets_cons_of_none hStep]
          exact hLabels.1 state
      | some next =>
          rw [meets_cons_of_step hStep]
          exact ⟨hLabels.1 state, ih hLabels.2⟩

/- Two conditions met along one run. -/
theorem Meets.and
    {first second : S → L → Prop}
    {state : S}
    {labels : List L}
    (hFirst : Meets step first state labels)
    (hSecond : Meets step second state labels) :
    Meets step
      (fun state label =>
        first state label ∧ second state label)
      state labels := by
  induction labels generalizing state with
  | nil => trivial
  | cons label labels ih =>
      cases hStep : step state label with
      | none =>
          rw [meets_cons_of_none hStep]
            at hFirst hSecond ⊢
          exact ⟨hFirst, hSecond⟩
      | some next =>
          rw [meets_cons_of_step hStep]
            at hFirst hSecond ⊢
          exact ⟨⟨hFirst.1, hSecond.1⟩,
            ih hFirst.2 hSecond.2⟩

end Lts

------------------------------------------------------------
-- Invariants
------------------------------------------------------------

namespace Lts

variable {S L : Type}
variable {step : S → L → Option S}

/-
  A property kept by every step that meets the condition
  holds after every run whose steps all meet it.
-/
theorem invariant_of_meets
    {condition : S → L → Prop}
    {invariant : S → Prop}
    (hKeep :
      ∀ state label next,
        invariant state →
          condition state label →
            step state label = some next →
              invariant next)
    {state final : S}
    {labels : List L}
    (hStart : invariant state)
    (hMeets : Meets step condition state labels)
    (hRun : exec step state labels = some final) :
    invariant final := by
  induction labels generalizing state with
  | nil =>
      cases hRun
      exact hStart
  | cons label labels ih =>
      rcases exec_cons_eq_some.mp hRun with
        ⟨next, hStep, hRest⟩
      rw [meets_cons_of_step hStep] at hMeets
      exact ih
        (hKeep state label next hStart hMeets.1 hStep)
        hMeets.2 hRest

/- A property kept by every step holds after every run. -/
theorem invariant_of_exec
    {invariant : S → Prop}
    (hKeep :
      ∀ state label next,
        invariant state →
          step state label = some next →
            invariant next)
    {state final : S}
    {labels : List L}
    (hStart : invariant state)
    (hRun : exec step state labels = some final) :
    invariant final := by
  have hMeets :
      Meets step (fun _ _ => True) state labels :=
    meets_of_forall (fun _ _ _ => trivial)
  exact invariant_of_meets
    (fun state label next hInv _ =>
      hKeep state label next hInv)
    hStart hMeets hRun

/-
  A property of the state and of the steps that led to it
  holds after every run, if each step keeps it.
-/
theorem invariant_of_history
    {invariant : List L → S → Prop}
    {start final : S}
    {labels : List L}
    (hKeep :
      ∀ past state label next,
        exec step start past = some state →
          invariant past state →
            step state label = some next →
              invariant (past ++ [label]) next)
    (hStart : invariant [] start)
    (hRun : exec step start labels = some final) :
    invariant labels final := by
  induction labels using List.reverseRecOn generalizing
    final with
  | nil =>
      cases hRun
      exact hStart
  | append_singleton past label ih =>
      rcases exec_append_eq_some.mp hRun with
        ⟨state, hPast, hLast⟩
      rcases exec_cons_eq_some.mp hLast with
        ⟨next, hStep, hDone⟩
      cases hDone
      exact hKeep past state label final hPast (ih hPast)
        hStep

/-
  One condition met along a run gives another, where an
  invariant of the run turns the one into the other.
-/
theorem Meets.imp
    {first second : S → L → Prop}
    {invariant : S → Prop}
    {state : S}
    {labels : List L}
    (hMeets : Meets step first state labels)
    (hKeep :
      ∀ state label next,
        invariant state →
          first state label →
            step state label = some next →
              invariant next)
    (hImp :
      ∀ state label,
        invariant state →
          first state label →
            second state label)
    (hStart : invariant state) :
    Meets step second state labels := by
  induction labels generalizing state with
  | nil => trivial
  | cons label labels ih =>
      cases hStep : step state label with
      | none =>
          rw [meets_cons_of_none hStep] at hMeets ⊢
          exact hImp state label hStart hMeets
      | some next =>
          rw [meets_cons_of_step hStep] at hMeets ⊢
          exact ⟨hImp state label hStart hMeets.1,
            ih hMeets.2
              (hKeep state label next hStart hMeets.1
                hStep)⟩

/-
  What no step undoes and the last state misses, no step of
  the run has brought about.
-/
theorem meets_of_final
    {spoiled : S → Prop}
    (hStay :
      ∀ state label next,
        spoiled state →
          step state label = some next →
            spoiled next)
    {state final : S}
    {labels : List L}
    (hRun : exec step state labels = some final)
    (hFinal : ¬ spoiled final) :
    Meets step
      (fun state label =>
        ∀ next, step state label = some next →
          ¬ spoiled next)
      state labels := by
  induction labels generalizing state with
  | nil => trivial
  | cons label labels ih =>
      rcases exec_cons_eq_some.mp hRun with
        ⟨next, hStep, hRest⟩
      rw [meets_cons_of_step hStep]
      refine ⟨?_, ih hRest⟩
      intro next' hStep' hSpoiled
      rw [hStep] at hStep'
      cases hStep'
      exact hFinal
        (invariant_of_exec hStay hSpoiled hRest)

/-
  A step that misses the condition spoils the run for good,
  so the last state tells whether all steps have met it.
-/
theorem kept_or_spoiled_of_meets
    {condition allowed : S → L → Prop}
    {kept spoiled : S → Prop}
    (hKeep :
      ∀ state label next,
        kept state →
          allowed state label →
            condition state label →
              step state label = some next →
                kept next)
    (hSpoil :
      ∀ state label next,
        kept state →
          allowed state label →
            ¬ condition state label →
              step state label = some next →
                spoiled next)
    (hStay :
      ∀ state label next,
        spoiled state →
          allowed state label →
            step state label = some next →
              spoiled next)
    {state final : S}
    {labels : List L}
    (hStart : kept state)
    (hAllowed : Meets step allowed state labels)
    (hRun : exec step state labels = some final) :
    (Meets step condition state labels ∧ kept final) ∨
      (¬ Meets step condition state labels ∧
        spoiled final) := by
  induction labels generalizing state with
  | nil =>
      cases hRun
      exact .inl ⟨trivial, hStart⟩
  | cons label labels ih =>
      rcases exec_cons_eq_some.mp hRun with
        ⟨next, hStep, hRest⟩
      rw [meets_cons_of_step hStep] at hAllowed
      rw [meets_cons_of_step hStep]
      by_cases hMet : condition state label
      · have hNext :=
          hKeep state label next hStart hAllowed.1 hMet hStep
        rcases ih hNext hAllowed.2 hRest with
          ⟨hMeets, hKept⟩ | ⟨hMisses, hSpoiled⟩
        · exact .inl ⟨⟨hMet, hMeets⟩, hKept⟩
        · exact .inr ⟨fun hBoth => hMisses hBoth.2, hSpoiled⟩
      · have hNext :=
          hSpoil state label next hStart hAllowed.1 hMet
            hStep
        have hSpoiled :=
          invariant_of_meets hStay hNext hAllowed.2 hRest
        exact .inr ⟨fun hBoth => hMet hBoth.1, hSpoiled⟩

/- The same for labels that are allowed in every state. -/
theorem kept_or_spoiled
    {condition : S → L → Prop}
    {allowed : L → Prop}
    {kept spoiled : S → Prop}
    (hKeep :
      ∀ state label next,
        kept state →
          allowed label →
            condition state label →
              step state label = some next →
                kept next)
    (hSpoil :
      ∀ state label next,
        kept state →
          allowed label →
            ¬ condition state label →
              step state label = some next →
                spoiled next)
    (hStay :
      ∀ state label next,
        spoiled state →
          allowed label →
            step state label = some next →
              spoiled next)
    {state final : S}
    {labels : List L}
    (hStart : kept state)
    (hAllowed : ∀ label ∈ labels, allowed label)
    (hRun : exec step state labels = some final) :
    (Meets step condition state labels ∧ kept final) ∨
      (¬ Meets step condition state labels ∧
        spoiled final) :=
  kept_or_spoiled_of_meets hKeep hSpoil hStay hStart
    (meets_of_forall (fun label hLabel _ =>
      hAllowed label hLabel))
    hRun

/-
  Projecting a run.  Hidden steps leave the view alone and
  visible steps are steps of the viewed system, so the view
  of the last state is reached by the visible labels alone.
-/
theorem exec_project
    {V : Type}
    {viewStep : V → L → Option V}
    {view : S → V}
    {visible : L → Bool}
    {condition : S → L → Prop}
    {invariant : S → Prop}
    (hKeep :
      ∀ state label next,
        invariant state →
          condition state label →
            step state label = some next →
              invariant next)
    (hHidden :
      ∀ state label next,
        invariant state →
          condition state label →
            visible label = false →
              step state label = some next →
                view next = view state)
    (hVisible :
      ∀ state label next,
        invariant state →
          condition state label →
            visible label = true →
              step state label = some next →
                viewStep (view state) label =
                  some (view next))
    {state final : S}
    {labels : List L}
    (hStart : invariant state)
    (hMeets : Meets step condition state labels)
    (hRun : exec step state labels = some final) :
    exec viewStep (view state) (labels.filter visible) =
      some (view final) := by
  induction labels generalizing state with
  | nil =>
      cases hRun
      rfl
  | cons label labels ih =>
      rcases exec_cons_eq_some.mp hRun with
        ⟨next, hStep, hRest⟩
      rw [meets_cons_of_step hStep] at hMeets
      have hNext :=
        hKeep state label next hStart hMeets.1 hStep
      have hTail := ih hNext hMeets.2 hRest
      cases hLabel : visible label with
      | false =>
          rw [List.filter_cons_of_neg (by simp [hLabel]),
            ← hHidden state label next hStart hMeets.1
              hLabel hStep]
          exact hTail
      | true =>
          rw [List.filter_cons_of_pos hLabel]
          exact exec_cons_eq_some.mpr
            ⟨view next,
              hVisible state label next hStart hMeets.1
                hLabel hStep,
              hTail⟩

/-
  Viewing a run.  Where every step leaves the view alone or
  is a step of the viewed system, the view of the last state
  is reached by steps of the viewed system.
-/
theorem exec_view
    {V M : Type}
    {viewStep : V → M → Option V}
    (view : S → V)
    (hView :
      ∀ state label next,
        step state label = some next →
          view next = view state ∨
            ∃ viewed,
              viewStep (view state) viewed =
                some (view next))
    {state final : S}
    {labels : List L}
    (hRun : exec step state labels = some final) :
    ∃ viewedLabels,
      exec viewStep (view state) viewedLabels =
        some (view final) := by
  induction labels generalizing state with
  | nil =>
      cases hRun
      exact ⟨[], rfl⟩
  | cons label labels ih =>
      rcases exec_cons_eq_some.mp hRun with
        ⟨next, hStep, hRest⟩
      rcases ih hRest with ⟨viewedLabels, hViewed⟩
      rcases hView state label next hStep with
        hSame | ⟨viewed, hSeen⟩
      · exact ⟨viewedLabels, hSame ▸ hViewed⟩
      · exact ⟨viewed :: viewedLabels,
          exec_cons_eq_some.mpr ⟨_, hSeen, hViewed⟩⟩

/-
  Where the labels tell which steps are seen, and as what,
  the view runs through the labels seen.
-/
theorem exec_filterMap
    {V M : Type}
    {viewStep : V → M → Option V}
    (view : S → V)
    (seen : L → Option M)
    (hView :
      ∀ state label next,
        step state label = some next →
          (seen label = none ∧ view next = view state) ∨
            ∃ viewed,
              seen label = some viewed ∧
                viewStep (view state) viewed =
                  some (view next))
    {state final : S}
    {labels : List L}
    (hRun : exec step state labels = some final) :
    exec viewStep (view state) (labels.filterMap seen) =
      some (view final) := by
  induction labels generalizing state with
  | nil =>
      cases hRun
      rfl
  | cons label labels ih =>
      rcases exec_cons_eq_some.mp hRun with
        ⟨next, hStep, hRest⟩
      rcases hView state label next hStep with
        ⟨hUnseen, hSame⟩ | ⟨viewed, hSeen, hViewed⟩
      · rw [List.filterMap_cons_none hUnseen, ← hSame]
        exact ih hRest
      · rw [List.filterMap_cons_some hSeen]
        exact exec_cons_eq_some.mpr
          ⟨_, hViewed, ih hRest⟩

/-
  Performing a run.  Where every step of the viewed system
  is performed by a run between the states that embed its
  ends, every run of it is.
-/
theorem exec_perform
    {V M : Type}
    {viewStep : V → M → Option V}
    (embed : V → S)
    (hPerform :
      ∀ viewed label next,
        viewStep viewed label = some next →
          ∃ labels,
            exec step (embed viewed) labels =
              some (embed next))
    {viewed final : V}
    {viewedLabels : List M}
    (hRun :
      exec viewStep viewed viewedLabels = some final) :
    ∃ labels,
      exec step (embed viewed) labels =
        some (embed final) := by
  induction viewedLabels generalizing viewed with
  | nil =>
      cases hRun
      exact ⟨[], rfl⟩
  | cons label viewedLabels ih =>
      rcases exec_cons_eq_some.mp hRun with
        ⟨next, hStep, hRest⟩
      rcases hPerform viewed label next hStep with
        ⟨first, hFirst⟩
      rcases ih hRest with ⟨second, hSecond⟩
      refine ⟨first ++ second, ?_⟩
      rw [exec_append, hFirst]
      exact hSecond

end Lts

------------------------------------------------------------
-- Stability
------------------------------------------------------------

namespace Lts

variable {S L : Type}

/-
  Once the trigger has held at a point of a run, the
  property holds there and at every later point.
-/
def Once
    (step : S → L → Option S)
    (trigger property : S → Prop)
    (state : S)
    (labels : List L) : Prop :=
  ∀ first second rest middle later,
    labels = first ++ (second ++ rest) →
      exec step state first = some middle →
        exec step middle second = some later →
          trigger middle →
            property later

variable {step : S → L → Option S}

/- A trigger that steps under a condition cannot undo. -/
theorem once_of_meets
    {condition : S → L → Prop}
    {invariant trigger property : S → Prop}
    (hKeep :
      ∀ state label next,
        invariant state →
          condition state label →
            step state label = some next →
              invariant next)
    (hStable :
      ∀ state label next,
        invariant state →
          condition state label →
            step state label = some next →
              trigger state →
                trigger next)
    (hProperty :
      ∀ state, invariant state → trigger state →
        property state)
    {state : S}
    {labels : List L}
    (hStart : invariant state)
    (hMeets : Meets step condition state labels) :
    Once step trigger property state labels := by
  intro first second rest middle later hLabels hFirst
    hSecond hTrigger
  subst hLabels
  rw [meets_append hFirst] at hMeets
  have hMiddle :=
    invariant_of_meets hKeep hStart hMeets.1 hFirst
  have hBothKeep :
      ∀ state label next,
        (invariant state ∧ trigger state) →
          condition state label →
            step state label = some next →
              (invariant next ∧ trigger next) := by
    intro state label next hBoth hMet hStep
    exact ⟨hKeep state label next hBoth.1 hMet hStep,
      hStable state label next hBoth.1 hMet hStep hBoth.2⟩
  have hSecondMeets :=
    ((meets_append hSecond).mp hMeets.2).1
  have hLater :=
    invariant_of_meets hBothKeep ⟨hMiddle, hTrigger⟩
      hSecondMeets hSecond
  exact hProperty later hLater.1 hLater.2

/- A step that misses the condition undoes some trigger. -/
theorem meets_of_once
    {I : Type}
    {condition : S → L → Prop}
    {invariant : S → Prop}
    {trigger property : I → S → Prop}
    (hKeep :
      ∀ state label next,
        invariant state →
          step state label = some next →
            invariant next)
    (hMiss :
      ∀ state label next,
        invariant state →
          ¬ condition state label →
            step state label = some next →
              ∃ index,
                trigger index state ∧
                  ¬ property index next)
    {state final : S}
    {labels : List L}
    (hStart : invariant state)
    (hRun : exec step state labels = some final)
    (hOnce :
      ∀ index,
        Once step (trigger index) (property index) state
          labels) :
    Meets step condition state labels := by
  induction labels generalizing state with
  | nil => trivial
  | cons label labels ih =>
      rcases exec_cons_eq_some.mp hRun with
        ⟨next, hStep, hRest⟩
      rw [meets_cons_of_step hStep]
      constructor
      · by_contra hMissed
        rcases hMiss state label next hStart hMissed hStep
          with ⟨index, hTrigger, hUndone⟩
        refine hUndone (hOnce index [] [label] labels state
          next rfl rfl ?_ hTrigger)
        exact exec_cons_eq_some.mpr ⟨next, hStep, rfl⟩
      · apply ih (hKeep state label next hStart hStep) hRest
        intro index first second rest middle later hLabels
          hFirst
        refine hOnce index (label :: first) second rest
          middle later (by rw [hLabels]; rfl) ?_
        exact exec_cons_eq_some.mpr ⟨next, hStep, hFirst⟩

end Lts

------------------------------------------------------------
-- Totals
------------------------------------------------------------

namespace Lts

variable {S L : Type}

/- What the steps of a run add up to. -/
def total
    (step : S → L → Option S)
    (measure : S → L → S → Nat) :
    S → List L → Nat
| _, [] => 0
| state, label :: labels =>
    match step state label with
    | none => 0
    | some next =>
        measure state label next +
          total step measure next labels

@[simp] theorem total_nil
    (step : S → L → Option S)
    (measure : S → L → S → Nat)
    (state : S) :
    total step measure state [] = 0 := rfl

/- A first step adds to the total of the rest. -/
theorem total_cons_of_step
    {step : S → L → Option S}
    {measure : S → L → S → Nat}
    {state next : S}
    {label : L}
    {labels : List L}
    (hStep : step state label = some next) :
    total step measure state (label :: labels) =
      measure state label next +
        total step measure next labels := by
  rw [total, hStep]

/-
  Where every gain is paid for by a cost or by a potential,
  what a run gains is paid for by its costs and by the
  potential it started with.
-/
theorem total_add_le_total_of_meets
    {step : S → L → Option S}
    {gain : S → L → S → Nat}
    {condition : S → L → Prop}
    {invariant : S → Prop}
    (cost : S → L → S → Nat)
    (potential : S → Nat)
    (hKeep :
      ∀ state label next,
        invariant state →
          condition state label →
            step state label = some next →
              invariant next)
    (hPaid :
      ∀ state label next,
        invariant state →
          condition state label →
            step state label = some next →
              gain state label next + potential next ≤
                cost state label next + potential state)
    {state final : S}
    {labels : List L}
    (hStart : invariant state)
    (hMeets : Meets step condition state labels)
    (hRun : exec step state labels = some final) :
    total step gain state labels + potential final ≤
      total step cost state labels + potential state := by
  induction labels generalizing state with
  | nil =>
      cases hRun
      exact Nat.le_refl _
  | cons label labels ih =>
      rcases exec_cons_eq_some.mp hRun with
        ⟨next, hStep, hRest⟩
      rw [meets_cons_of_step hStep] at hMeets
      have hTail :=
        ih (hKeep state label next hStart hMeets.1 hStep)
          hMeets.2 hRest
      have hFirst :=
        hPaid state label next hStart hMeets.1 hStep
      rw [total_cons_of_step hStep, total_cons_of_step hStep]
      omega

/- The same where no step has to meet anything. -/
theorem total_add_le_total
    {step : S → L → Option S}
    {gain : S → L → S → Nat}
    {invariant : S → Prop}
    (cost : S → L → S → Nat)
    (potential : S → Nat)
    (hKeep :
      ∀ state label next,
        invariant state →
          step state label = some next →
            invariant next)
    (hPaid :
      ∀ state label next,
        invariant state →
          step state label = some next →
            gain state label next + potential next ≤
              cost state label next + potential state)
    {state final : S}
    {labels : List L}
    (hStart : invariant state)
    (hRun : exec step state labels = some final) :
    total step gain state labels + potential final ≤
      total step cost state labels + potential state := by
  have hMeets :
      Meets step (fun _ _ => True) state labels :=
    meets_of_forall (fun _ _ _ => trivial)
  exact total_add_le_total_of_meets cost potential
    (fun state label next hInv _ =>
      hKeep state label next hInv)
    (fun state label next hInv _ =>
      hPaid state label next hInv)
    hStart hMeets hRun

/- Two measures taken together add up to both totals. -/
theorem total_add
    (step : S → L → Option S)
    (first second : S → L → S → Nat)
    (state : S)
    (labels : List L) :
    total step
        (fun state label next =>
          first state label next + second state label next)
        state labels =
      total step first state labels +
        total step second state labels := by
  induction labels generalizing state with
  | nil => rfl
  | cons label labels ih =>
      cases hStep : step state label with
      | none =>
          rw [total, total, total, hStep]
          rfl
      | some next =>
          rw [total_cons_of_step hStep,
            total_cons_of_step hStep,
            total_cons_of_step hStep, ih]
          omega

/- Measures that agree where a condition is met. -/
theorem total_congr
    {step : S → L → Option S}
    {first second : S → L → S → Nat}
    {condition : S → L → Prop}
    (hSame :
      ∀ state label next,
        condition state label →
          step state label = some next →
            first state label next =
              second state label next)
    {state : S}
    {labels : List L}
    (hMeets : Meets step condition state labels) :
    total step first state labels =
      total step second state labels := by
  induction labels generalizing state with
  | nil => rfl
  | cons label labels ih =>
      cases hStep : step state label with
      | none => rw [total, total, hStep]
      | some next =>
          rw [meets_cons_of_step hStep] at hMeets
          rw [total_cons_of_step hStep,
            total_cons_of_step hStep, ih hMeets.2,
            hSame state label next hMeets.1 hStep]

/- A run of steps that cost a multiple costs that multiple. -/
theorem total_mul
    (factor : Nat)
    (step : S → L → Option S)
    (measure : S → L → S → Nat)
    (state : S)
    (labels : List L) :
    total step
        (fun state label next =>
          factor * measure state label next)
        state labels =
      factor * total step measure state labels := by
  induction labels generalizing state with
  | nil => rfl
  | cons label labels ih =>
      cases hStep : step state label with
      | none => rw [total, total, hStep, Nat.mul_zero]
      | some next =>
          rw [total_cons_of_step hStep,
            total_cons_of_step hStep, ih, Nat.mul_add]

/- A run of free steps costs nothing. -/
theorem total_zero
    (step : S → L → Option S)
    (state : S)
    (labels : List L) :
    total step (fun _ _ _ => 0) state labels = 0 := by
  induction labels generalizing state with
  | nil => rfl
  | cons label labels ih =>
      cases hStep : step state label with
      | none => rw [total, hStep]
      | some next =>
          rw [total_cons_of_step hStep, ih]

/-
  Where every step is paid for by a potential, the total of
  a run is paid for by the potential it started with.
-/
theorem total_add_le
    {step : S → L → Option S}
    {measure : S → L → S → Nat}
    {invariant : S → Prop}
    (potential : S → Nat)
    (hKeep :
      ∀ state label next,
        invariant state →
          step state label = some next →
            invariant next)
    (hPaid :
      ∀ state label next,
        invariant state →
          step state label = some next →
            measure state label next + potential next ≤
              potential state)
    {state final : S}
    {labels : List L}
    (hStart : invariant state)
    (hRun : exec step state labels = some final) :
    total step measure state labels + potential final ≤
      potential state := by
  have hTotal :=
    total_add_le_total (fun _ _ _ => 0) potential hKeep
      (fun state label next hInv hStep =>
        Nat.le_trans (hPaid state label next hInv hStep)
          (Nat.le_add_left _ _))
      hStart hRun
  rwa [total_zero, Nat.zero_add] at hTotal

/-
  An invariant about a running total holds of the total of a
  whole run.
-/
theorem invariant_of_total
    {step : S → L → Option S}
    {measure : S → L → S → Nat}
    {invariant : S → Nat → Prop}
    (hKeep :
      ∀ state label next count,
        invariant state count →
          step state label = some next →
            invariant next
              (count + measure state label next))
    {state final : S}
    {labels : List L}
    {count : Nat}
    (hStart : invariant state count)
    (hRun : exec step state labels = some final) :
    invariant final
      (count + total step measure state labels) := by
  induction labels generalizing state count with
  | nil =>
      cases hRun
      exact hStart
  | cons label labels ih =>
      rcases exec_cons_eq_some.mp hRun with
        ⟨next, hStep, hRest⟩
      have hNext := hKeep state label next count hStart hStep
      have hFinal := ih hNext hRest
      rw [total_cons_of_step hStep, ← Nat.add_assoc]
      exact hFinal

/- Counting the steps that miss a condition. -/
theorem total_eq_zero_iff_meets
    {step : S → L → Option S}
    {condition : S → L → Prop}
    [∀ state label, Decidable (condition state label)]
    {state final : S}
    {labels : List L}
    (hRun : exec step state labels = some final) :
    total step
        (fun state label _ =>
          if condition state label then 0 else 1)
        state labels = 0 ↔
      Meets step condition state labels := by
  induction labels generalizing state with
  | nil => simp
  | cons label labels ih =>
      rcases exec_cons_eq_some.mp hRun with
        ⟨next, hStep, hRest⟩
      rw [meets_cons_of_step hStep,
        total_cons_of_step hStep, Nat.add_eq_zero_iff,
        ih hRest]
      by_cases hHere : condition state label
      · simp [hHere]
      · simp [hHere]

end Lts

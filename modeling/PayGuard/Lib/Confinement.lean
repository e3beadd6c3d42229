import Mathlib.Logic.Function.Basic
import Mathlib.Tactic.Common

/-
  Computations confined to one side of a shared state.

  A viewpoint says which states are well formed and what one
  party sees of them.  A computation of that party reads and
  writes only what it sees, and a computation of anybody
  else leaves what the party sees alone.

  Key definitions include:
    * `mask`
    * `Viewpoint`
    * `ConfinedWrite`
    * `Confined`
    * `ConfinedStep`

  Key theorems include:
    * `Confined.bind`
    * `Confined.read`
    * `ConfinedStep.split`
    * `ConfinedStep.guard`
-/

------------------------------------------------------------
-- Masks
------------------------------------------------------------

namespace Confinement

section Masks

variable {A B : Type}
variable {shown : A → Bool}
variable {hidden : B}
variable {values : A → B}

/- A function shown on a part of its domain only. -/
def mask
    (shown : A → Bool)
    (hidden : B)
    (values : A → B) : A → B :=
  fun point =>
    if shown point then
      values point
    else
      hidden

theorem mask_apply_of_shown
    {point : A}
    (hShown : shown point = true) :
    mask shown hidden values point = values point := by
  simp [mask, hShown]

@[simp] theorem mask_const :
    mask shown hidden (fun _ => hidden) =
      (fun _ => hidden) := by
  funext point
  simp [mask]

theorem mask_update_of_shown
    [DecidableEq A]
    {point : A}
    (hShown : shown point = true)
    (value : B) :
    mask shown hidden (Function.update values point value) =
      Function.update (mask shown hidden values) point
        value := by
  funext other
  by_cases hOther : other = point
  · subst hOther
    simp [mask, hShown]
  · simp [mask, Function.update_of_ne hOther]

theorem mask_update_of_hidden
    [DecidableEq A]
    {point : A}
    (hShown : shown point = false)
    (value : B) :
    mask shown hidden (Function.update values point value) =
      mask shown hidden values := by
  funext other
  by_cases hOther : other = point
  · subst hOther
    simp [mask, hShown]
  · simp [mask, Function.update_of_ne hOther]

variable [DecidableEq B]

/- Dropping one value commutes with a mask. -/
theorem mask_drop
    (value : B) :
    mask shown hidden (fun point =>
        if values point = value then
          hidden
        else
          values point) =
      (fun point =>
        if mask shown hidden values point = value then
          hidden
        else
          mask shown hidden values point) := by
  funext point
  cases hShown : shown point with
  | true => simp [mask, hShown]
  | false => simp [mask, hShown]

/- A value no shown point has is dropped unseen. -/
theorem mask_drop_of_hidden
    {value : B}
    (hHidden :
      ∀ point, values point = value → shown point = false) :
    mask shown hidden (fun point =>
        if values point = value then
          hidden
        else
          values point) =
      mask shown hidden values := by
  funext point
  cases hShown : shown point with
  | false => simp [mask, hShown]
  | true =>
      have hOther : values point ≠ value := by
        intro hValue
        rw [hHidden point hValue] at hShown
        cases hShown
      simp [mask, hOther]

end Masks

------------------------------------------------------------
-- Viewpoints
------------------------------------------------------------

/- The well-formed states, and the part a party sees. -/
structure Viewpoint (S : Type) where
  good : S → Prop
  view : S → S

variable {S E A B V : Type}

/- A total write of the party itself, or of another one. -/
structure ConfinedWrite
    (frame : Viewpoint S)
    (own : Bool)
    (write : S → S) : Prop where
  good :
    ∀ state, frame.good state → frame.good (write state)
  inside :
    own = true →
      ∀ state,
        frame.good state →
          frame.view (write state) =
            write (frame.view state)
  outside :
    own = false →
      ∀ state,
        frame.good state →
          frame.view (write state) = frame.view state

/-
  A computation that may fail.  Its results satisfy
  `result`, wherever it starts.
-/
structure Confined
    (frame : Viewpoint S)
    (own : Bool)
    (result : A → Prop)
    (run : S → Except E (S × A)) : Prop where
  good :
    ∀ state next value,
      frame.good state →
        run state = .ok (next, value) →
          frame.good next ∧ result value
  inside :
    own = true →
      ∀ state,
        frame.good state →
          run (frame.view state) =
            (run state).map (Prod.map frame.view id)
  outside :
    own = false →
      ∀ state next value,
        frame.good state →
          run state = .ok (next, value) →
            frame.view next = frame.view state

/-
  A step that may be disabled.  A step the party can take is
  one it can take in its view; the converse is not asked.
-/
structure ConfinedStep
    (frame : Viewpoint S)
    (own : Bool)
    (step : S → Option S) : Prop where
  good :
    ∀ state next,
      frame.good state →
        step state = some next →
          frame.good next
  inside :
    own = true →
      ∀ state next,
        frame.good state →
          step state = some next →
            step (frame.view state) =
              some (frame.view next)
  outside :
    own = false →
      ∀ state next,
        frame.good state →
          step state = some next →
            frame.view next = frame.view state

------------------------------------------------------------
-- Rules
------------------------------------------------------------

variable {frame : Viewpoint S}
variable {own : Bool}
variable {result : A → Prop}
variable {run : S → Except E (S × A)}

namespace ConfinedWrite

/- One write after another. -/
theorem comp
    {first second : S → S}
    (hFirst : ConfinedWrite frame own first)
    (hSecond : ConfinedWrite frame own second) :
    ConfinedWrite frame own
      (fun state => second (first state)) where
  good := by
    intro state hGood
    exact hSecond.good _ (hFirst.good state hGood)
  inside := by
    intro hOwn state hGood
    rw [hSecond.inside hOwn _ (hFirst.good state hGood),
      hFirst.inside hOwn state hGood]
  outside := by
    intro hOwn state hGood
    rw [hSecond.outside hOwn _ (hFirst.good state hGood),
      hFirst.outside hOwn state hGood]

end ConfinedWrite

namespace Confined

/- Computations that agree are confined alike. -/
theorem of_eq
    {other : S → Except E (S × A)}
    (hConfined : Confined frame own result other)
    (hSame : ∀ state, run state = other state) :
    Confined frame own result run := by
  have hEqual : run = other := funext hSame
  rw [hEqual]
  exact hConfined

/- A failure touches nothing. -/
theorem fail
    (failure : E) :
    Confined frame own result
      (fun _ : S => .error failure) where
  good := by
    intro state next value _ hRun
    cases hRun
  inside := by
    intro _ state _
    rfl
  outside := by
    intro _ state next value _ hRun
    cases hRun

/- A write that returns a fixed value. -/
theorem write
    {change : S → S}
    {value : A}
    (hChange : ConfinedWrite frame own change)
    (hValue : result value) :
    Confined frame own result
      (fun state : S =>
        (.ok (change state, value) : Except E (S × A))) where
  good := by
    intro state next other hGood hRun
    cases hRun
    exact ⟨hChange.good state hGood, hValue⟩
  inside := by
    intro hOwn state hGood
    rw [← hChange.inside hOwn state hGood]
    rfl
  outside := by
    intro hOwn state next other hGood hRun
    cases hRun
    exact hChange.outside hOwn state hGood

/- A fixed value returned as it is. -/
theorem pure
    {value : A}
    (hValue : result value) :
    Confined frame own result
      (fun state : S =>
        (.ok (state, value) : Except E (S × A))) :=
  write
    { good := fun _ hGood => hGood
      inside := fun _ _ _ => rfl
      outside := fun _ _ _ => rfl } hValue

/- One computation after another. -/
theorem bind
    {after : B → Prop}
    {next : S × A → Except E (S × B)}
    (hRun : Confined frame own result run)
    (hNext :
      ∀ value,
        result value →
          Confined frame own after
            (fun state => next (state, value))) :
    Confined frame own after
      (fun state => (run state).bind next) where
  good := by
    intro state final other hGood hBoth
    cases hFirst : run state with
    | error failure =>
        rw [hFirst] at hBoth
        cases hBoth
    | ok pair =>
        rw [hFirst] at hBoth
        have hMiddle :=
          hRun.good state pair.1 pair.2 hGood hFirst
        exact (hNext pair.2 hMiddle.2).good pair.1 final
          other hMiddle.1 hBoth
  inside := by
    intro hOwn state hGood
    simp only [hRun.inside hOwn state hGood]
    cases hFirst : run state with
    | error failure => rfl
    | ok pair =>
        have hMiddle :=
          hRun.good state pair.1 pair.2 hGood hFirst
        exact (hNext pair.2 hMiddle.2).inside hOwn pair.1
          hMiddle.1
  outside := by
    intro hOwn state final other hGood hBoth
    cases hFirst : run state with
    | error failure =>
        rw [hFirst] at hBoth
        cases hBoth
    | ok pair =>
        rw [hFirst] at hBoth
        have hMiddle :=
          hRun.good state pair.1 pair.2 hGood hFirst
        rw [(hNext pair.2 hMiddle.2).outside hOwn pair.1
            final other hMiddle.1 hBoth,
          hRun.outside hOwn state pair.1 pair.2 hGood hFirst]

/- A computation that starts with a write. -/
theorem after
    {change : S → S}
    (hChange : ConfinedWrite frame own change)
    (hRun : Confined frame own result run) :
    Confined frame own result
      (fun state => run (change state)) where
  good := by
    intro state next value hGood hBoth
    exact hRun.good _ next value (hChange.good state hGood)
      hBoth
  inside := by
    intro hOwn state hGood
    rw [← hChange.inside hOwn state hGood]
    exact hRun.inside hOwn _ (hChange.good state hGood)
  outside := by
    intro hOwn state next value hGood hBoth
    rw [hRun.outside hOwn _ next value
        (hChange.good state hGood) hBoth,
      hChange.outside hOwn state hGood]

/-
  A computation that depends on something it reads.  The
  owner reads the same from its view.
-/
theorem read
    (value : S → V)
    (known : V → Prop)
    (next : V → S → Except E (S × A))
    (hKnown :
      ∀ state, frame.good state → known (value state))
    (hSame :
      own = true →
        ∀ state,
          frame.good state →
            value (frame.view state) = value state)
    (hNext :
      ∀ seen,
        known seen →
          Confined frame own result (next seen)) :
    Confined frame own result
      (fun state => next (value state) state) where
  good := by
    intro state final other hGood hRun
    exact (hNext _ (hKnown state hGood)).good state final
      other hGood hRun
  inside := by
    intro hOwn state hGood
    rw [hSame hOwn state hGood]
    exact (hNext _ (hKnown state hGood)).inside hOwn state
      hGood
  outside := by
    intro hOwn state final other hGood hRun
    exact (hNext _ (hKnown state hGood)).outside hOwn state
      final other hGood hRun

/- The same, where nothing is known of what is read. -/
theorem check
    (value : S → V)
    (next : V → S → Except E (S × A))
    (hSame :
      own = true →
        ∀ state,
          frame.good state →
            value (frame.view state) = value state)
    (hNext :
      ∀ seen, Confined frame own result (next seen)) :
    Confined frame own result
      (fun state => next (value state) state) :=
  read value (fun _ => True) next (fun _ _ => trivial) hSame
    (fun seen _ => hNext seen)

end Confined

------------------------------------------------------------
-- Steps
------------------------------------------------------------

namespace ConfinedStep

variable {step : S → Option S}

/- A step that is never enabled. -/
theorem none :
    ConfinedStep frame own (fun _ => Option.none) where
  good := by
    intro state next _ hStep
    cases hStep
  inside := by
    intro _ state next _ hStep
    cases hStep
  outside := by
    intro _ state next _ hStep
    cases hStep

/- A step that is always enabled. -/
theorem write
    {change : S → S}
    (hChange : ConfinedWrite frame own change) :
    ConfinedStep frame own
      (fun state => some (change state)) where
  good := by
    intro state next hGood hStep
    cases hStep
    exact hChange.good state hGood
  inside := by
    intro hOwn state next hGood hStep
    cases hStep
    rw [hChange.inside hOwn state hGood]
  outside := by
    intro hOwn state next hGood hStep
    cases hStep
    exact hChange.outside hOwn state hGood

/- A guard that holds in the view of wherever it holds. -/
theorem guard
    (allowed : S → Prop)
    [DecidablePred allowed]
    (hStep : ConfinedStep frame own step)
    (hAllowed :
      own = true →
        ∀ state,
          frame.good state →
            allowed state →
              allowed (frame.view state)) :
    ConfinedStep frame own
      (fun state =>
        if allowed state then
          step state
        else
          Option.none) where
  good := by
    intro state next hGood hBoth
    by_cases hGuard : allowed state
    · rw [if_pos hGuard] at hBoth
      exact hStep.good state next hGood hBoth
    · rw [if_neg hGuard] at hBoth
      cases hBoth
  inside := by
    intro hOwn state next hGood hBoth
    by_cases hGuard : allowed state
    · rw [if_pos hGuard] at hBoth
      rw [if_pos (hAllowed hOwn state hGood hGuard)]
      exact hStep.inside hOwn state next hGood hBoth
    · rw [if_neg hGuard] at hBoth
      cases hBoth
  outside := by
    intro hOwn state next hGood hBoth
    by_cases hGuard : allowed state
    · rw [if_pos hGuard] at hBoth
      exact hStep.outside hOwn state next hGood hBoth
    · rw [if_neg hGuard] at hBoth
      cases hBoth

/-
  A step that depends on something it reads.  For each value
  it can read, it agrees with a confined step wherever that
  value stands.
-/
theorem split
    (value : S → V)
    (known : V → Prop)
    (hKnown :
      ∀ state, frame.good state → known (value state))
    (hSame :
      own = true →
        ∀ state,
          frame.good state →
            value (frame.view state) = value state)
    (hBranch :
      ∀ seen,
        known seen →
          ∃ branch,
            ConfinedStep frame own branch ∧
              ∀ state,
                value state = seen →
                  step state = branch state) :
    ConfinedStep frame own step where
  good := by
    intro state next hGood hStep
    rcases hBranch _ (hKnown state hGood) with
      ⟨branch, hConfined, hAgrees⟩
    rw [hAgrees state rfl] at hStep
    exact hConfined.good state next hGood hStep
  inside := by
    intro hOwn state next hGood hStep
    rcases hBranch _ (hKnown state hGood) with
      ⟨branch, hConfined, hAgrees⟩
    rw [hAgrees state rfl] at hStep
    rw [hAgrees _ (hSame hOwn state hGood)]
    exact hConfined.inside hOwn state next hGood hStep
  outside := by
    intro hOwn state next hGood hStep
    rcases hBranch _ (hKnown state hGood) with
      ⟨branch, hConfined, hAgrees⟩
    rw [hAgrees state rfl] at hStep
    exact hConfined.outside hOwn state next hGood hStep

end ConfinedStep

end Confinement

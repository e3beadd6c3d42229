import PayGuard.Lib.Runs
import PayGuard.Lib.Tables

/-
  Holds on a fixed capacity.

  A hold is placed for an amount that is still free.  Later
  it is settled or released, and only once.  What is held or
  settled never exceeds the capacity, and what is settled
  never shrinks.

  Key definitions include:
    * `Escrow.Account`
    * `Escrow.step`
    * `Escrow.Sound`
    * `Escrow.Kept`

  Key theorems include:
    * `Escrow.step_cases`
    * `Escrow.Sound.step`
    * `Escrow.sound_of_exec`
-/

------------------------------------------------------------
-- Accounts
------------------------------------------------------------

namespace Escrow

/- What has become of a hold. -/
inductive Fate where
| held
| settled
| released
deriving DecidableEq, Repr

structure Hold (I : Type) where
  id : I
  amount : Int
  fate : Fate := .held
deriving DecidableEq, Repr

structure Account (I : Type) where
  capacity : Int
  holds : List (Hold I) := []
deriving DecidableEq, Repr

inductive Move (I : Type) where
| place (id : I) (amount : Int)
| settle (id : I)
| release (id : I)
deriving DecidableEq, Repr

variable {I : Type}

namespace Account

/- What is not free: the holds that are not released. -/
def taken (account : Account I) : Int :=
  Table.sumWhere (fun hold => hold.fate ≠ .released)
    (·.amount) account.holds

/- What is gone for good. -/
def settled (account : Account I) : Int :=
  Table.sumWhere (fun hold => hold.fate = .settled)
    (·.amount) account.holds

def place
    (account : Account I)
    (id : I)
    (amount : Int) : Account I :=
  { account with
    holds := account.holds ++ [⟨id, amount, .held⟩] }

variable [DecidableEq I]

def close
    (account : Account I)
    (id : I)
    (fate : Fate) : Account I :=
  { account with
    holds :=
      Table.updateWhere (fun hold => hold.id = id)
        (fun hold => { hold with fate := fate })
        account.holds }

/- The hold is still open. -/
def Open (account : Account I) (id : I) : Prop :=
  ∃ hold ∈ account.holds, hold.id = id ∧ hold.fate = .held

instance (account : Account I) (id : I) :
    Decidable (account.Open id) := by
  unfold Open
  infer_instance

end Account

/- A hold takes what is free, and is closed once. -/
def step [DecidableEq I] (account : Account I) :
    Move I → Option (Account I)
| .place id amount =>
    if id ∉ account.holds.map (·.id) ∧
        0 < amount ∧
          amount ≤ account.capacity - account.taken then
      some (account.place id amount)
    else
      none
| .settle id =>
    if account.Open id then
      some (account.close id .settled)
    else
      none
| .release id =>
    if account.Open id then
      some (account.close id .released)
    else
      none

/- Every hold is one of its own, and they all fit. -/
structure Sound (account : Account I) : Prop where
  ids : (account.holds.map (·.id)).Nodup
  positive : ∀ hold ∈ account.holds, 0 < hold.amount
  bounded : account.taken ≤ account.capacity

end Escrow

------------------------------------------------------------
-- One Move
------------------------------------------------------------

namespace Escrow

variable {I : Type}
variable {account next later : Account I}
variable {hold : Hold I}
variable {id : I}
variable {amount : Int}
variable {fate : Fate}

theorem taken_place :
    (account.place id amount).taken =
      account.taken + amount := by
  unfold Account.taken Account.place
  rw [Table.sumWhere_append]
  simp [Table.sumWhere]

theorem settled_place :
    (account.place id amount).settled = account.settled := by
  unfold Account.settled Account.place
  rw [Table.sumWhere_append]
  simp [Table.sumWhere]

theorem Sound.place
    (hSound : Sound account)
    (hFresh : id ∉ account.holds.map (·.id))
    (hPositive : 0 < amount)
    (hFree : amount ≤ account.capacity - account.taken) :
    Sound (account.place id amount) where
  ids := by
    unfold Account.place
    rw [List.map_append, List.nodup_append]
    refine ⟨hSound.ids, List.nodup_singleton _, ?_⟩
    intro other hOther new hNew hSame
    rw [List.map_singleton, List.mem_singleton] at hNew
    rw [hSame, hNew] at hOther
    exact hFresh hOther
  positive := by
    intro hold hHold
    rcases List.mem_append.mp hHold with hOld | hNew
    · exact hSound.positive hold hOld
    · rw [List.mem_singleton.mp hNew]
      exact hPositive
  bounded := by
    rw [taken_place]
    show _ ≤ account.capacity
    omega

/- The hold an open name stands for is the only one. -/
theorem Sound.held_of_open
    (hSound : Sound account)
    (hOpen : account.Open id)
    (hHold : hold ∈ account.holds)
    (hId : hold.id = id) :
    hold.fate = .held := by
  rcases hOpen with ⟨other, hOther, hOtherId, hHeld⟩
  have hSame : hold = other :=
    List.inj_on_of_nodup_map hSound.ids hHold hOther
      (hId.trans hOtherId.symm)
  rw [hSame]
  exact hHeld

variable [DecidableEq I]
variable {move : Move I}
variable {moves : List (Move I)}

/- Closing a hold frees its amount or leaves it taken. -/
theorem Sound.taken_close_le
    (hSound : Sound account)
    (hOpen : account.Open id) :
    (account.close id fate).taken ≤ account.taken := by
  apply Table.sumWhere_updateWhere_le
  intro hold hHold hSelected
  have hHeld :=
    hSound.held_of_open hOpen hHold (by simpa using hSelected)
  have hPositive := hSound.positive hold hHold
  rw [hHeld]
  cases fate with
  | held => simp
  | settled => simp
  | released => simp [hPositive.le]

theorem Sound.settled_le_close
    (hSound : Sound account)
    (hOpen : account.Open id) :
    account.settled ≤ (account.close id fate).settled := by
  apply Table.sumWhere_le_updateWhere
  intro hold hHold hSelected
  have hHeld :=
    hSound.held_of_open hOpen hHold (by simpa using hSelected)
  have hPositive := hSound.positive hold hHold
  rw [hHeld]
  cases fate with
  | held => simp
  | settled => simp [hPositive.le]
  | released => simp

theorem Sound.close
    (hSound : Sound account)
    (hOpen : account.Open id) :
    Sound (account.close id fate) where
  ids := by
    have hIds :
        (account.close id fate).holds.map (·.id) =
          account.holds.map (·.id) := by
      apply Table.map_updateWhere
      intro hold
      rfl
    rw [hIds]
    exact hSound.ids
  positive := by
    intro hold hHold
    rcases Table.mem_updateWhere.mp hHold with
      ⟨old, hOld, rfl⟩
    have hPositive := hSound.positive old hOld
    split <;> exact hPositive
  bounded :=
    (hSound.taken_close_le hOpen).trans hSound.bounded

/- Everything a move can do. -/
theorem step_cases
    (hStep : step account move = some next) :
    (∃ id amount,
        move = .place id amount ∧
          id ∉ account.holds.map (·.id) ∧
            0 < amount ∧
              amount ≤ account.capacity - account.taken ∧
                next = account.place id amount) ∨
      ∃ id fate,
        account.Open id ∧
          fate ≠ .held ∧ next = account.close id fate := by
  cases move with
  | place id amount =>
      simp only [step] at hStep
      split at hStep
      · rename_i hAll
        cases hStep
        exact .inl ⟨id, amount, rfl, hAll.1, hAll.2.1,
          hAll.2.2, rfl⟩
      · cases hStep
  | settle id =>
      simp only [step] at hStep
      split at hStep
      · rename_i hOpen
        cases hStep
        exact .inr ⟨id, .settled, hOpen, by simp, rfl⟩
      · cases hStep
  | release id =>
      simp only [step] at hStep
      split at hStep
      · rename_i hOpen
        cases hStep
        exact .inr ⟨id, .released, hOpen, by simp, rfl⟩
      · cases hStep

/- What a later account has kept of an earlier one. -/
structure Kept (account later : Account I) : Prop where
  capacity : later.capacity = account.capacity
  settled : account.settled ≤ later.settled
  closed :
    ∀ hold ∈ account.holds,
      hold.fate ≠ .held → hold ∈ later.holds

omit [DecidableEq I] in
theorem Kept.refl (account : Account I) :
    Kept account account :=
  ⟨rfl, le_rfl, fun _ hHold _ => hHold⟩

omit [DecidableEq I] in
theorem Kept.trans
    (hFirst : Kept account next)
    (hSecond : Kept next later) :
    Kept account later where
  capacity := hSecond.capacity.trans hFirst.capacity
  settled := hFirst.settled.trans hSecond.settled
  closed := fun hold hHold hClosed =>
    hSecond.closed hold (hFirst.closed hold hHold hClosed)
      hClosed

theorem Sound.step
    (hSound : Sound account)
    (hStep : step account move = some next) :
    Sound next ∧ Kept account next := by
  rcases step_cases hStep with
    ⟨id, amount, _, hFresh, hPositive, hFree, rfl⟩ |
      ⟨id, fate, hOpen, _, rfl⟩
  · refine ⟨hSound.place hFresh hPositive hFree, rfl, ?_, ?_⟩
    · rw [settled_place]
    · intro hold hHold _
      exact List.mem_append_left _ hHold
  · refine ⟨hSound.close hOpen, rfl,
      hSound.settled_le_close hOpen, ?_⟩
    intro hold hHold hClosed
    apply Table.mem_updateWhere_of_not_selected hHold
    rw [decide_eq_false_iff_not]
    intro hId
    exact hClosed (hSound.held_of_open hOpen hHold hId)

------------------------------------------------------------
-- Every Run
------------------------------------------------------------

theorem sound_of_exec
    (hSound : Sound account)
    (hRun : Lts.exec step account moves = some later) :
    Sound later ∧ Kept account later := by
  have hKeep :
      ∀ (before : Account I) (move : Move I)
        (after : Account I),
        (Sound before ∧ Kept account before) →
          step before move = some after →
            Sound after ∧ Kept account after := by
    rintro before move after ⟨hBefore, hKept⟩ hStep
    rcases hBefore.step hStep with ⟨hAfter, hNext⟩
    exact ⟨hAfter, hKept.trans hNext⟩
  exact Lts.invariant_of_exec hKeep
    ⟨hSound, Kept.refl account⟩ hRun

end Escrow

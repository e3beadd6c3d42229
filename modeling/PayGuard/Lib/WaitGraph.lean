import Mathlib.Logic.Relation
import Mathlib.Order.Basic
import Mathlib.Order.Monotone.Basic

/-
  Wait-for graphs.

  A task waits for the task that holds the resource it
  wants.  Tasks are deadlocked when one of them waits for
  itself through others.

  Key definitions include:
    * `WaitGraph`
    * `WaitGraph.WaitsFor`
    * `WaitGraph.Deadlocked`

  Key theorems include:
    * `WaitGraph.not_deadlocked_of_rank`
    * `WaitGraph.deadlocked_of_mutual`
-/

------------------------------------------------------------
-- Graphs
------------------------------------------------------------

/- What every task waits to be given, and who has it. -/
structure WaitGraph (T R : Type) where
  wants : T → Option R
  owner : R → Option T

namespace WaitGraph

variable {T R : Type}
variable {graph : WaitGraph T R}

/- The waiter wants what the other task holds. -/
def WaitsFor
    (graph : WaitGraph T R)
    (waiter holder : T) : Prop :=
  waiter ≠ holder ∧
    ∃ resource,
      graph.wants waiter = some resource ∧
        graph.owner resource = some holder

/- Some task waits for itself through others. -/
def Deadlocked (graph : WaitGraph T R) : Prop :=
  ∃ task, Relation.TransGen graph.WaitsFor task task

/- Waiting along a cycle would have to climb forever. -/
theorem not_deadlocked_of_rank
    {α : Type}
    [Preorder α]
    (rank : T → α)
    (hRank :
      ∀ waiter holder,
        graph.WaitsFor waiter holder →
          rank waiter < rank holder) :
    ¬ graph.Deadlocked := by
  rintro ⟨task, hCycle⟩
  have hClimb :
      Relation.TransGen (· < ·) (rank task) (rank task) :=
    Relation.TransGen.lift rank hRank task task hCycle
  rw [Relation.transGen_eq_self] at hClimb
  exact lt_irrefl _ hClimb

/- Two tasks that want what the other one holds. -/
theorem deadlocked_of_mutual
    {first second : T}
    (hForth : graph.WaitsFor first second)
    (hBack : graph.WaitsFor second first) :
    graph.Deadlocked :=
  ⟨first, Relation.TransGen.head hForth
    (Relation.TransGen.single hBack)⟩

end WaitGraph

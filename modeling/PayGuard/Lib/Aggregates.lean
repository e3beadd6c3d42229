import Mathlib.Data.List.Dedup
import Mathlib.Tactic.Ring
import PayGuard.Lib.Tables

/-
  Aggregates over tables.

  A sum over no rows is `NULL`, and so is a comparison with
  `NULL`.  Grouping splits a table by a key, in an order of
  groups that the statement leaves open.

  Key definitions include:
    * `Table.sumOf`
    * `Table.differ`
    * `Table.groupBy`

  Key theorems include:
    * `Table.sum_eq_iff_of_le`
    * `Table.mem_groupBy`
    * `Table.sum_groups`
-/

------------------------------------------------------------
-- Statements
------------------------------------------------------------

namespace Table

variable {R K : Type}
variable [DecidableEq K]

/- `SELECT sum(amount)`. -/
def sumOf
    (amount : R → Int) : List R → Option Int
| [] => none
| row :: rows => some ((row :: rows).map amount).sum

/- `left != right`. -/
def differ
    (left right : Option Int) : Option Bool :=
  match left, right with
  | some left, some right => some (left != right)
  | _, _ => none

/- The rows of each key, as `GROUP BY` collects them. -/
def groupBy
    (scan : Scan K)
    (key : R → K)
    (rows : List R) : List (K × List R) :=
  (scan.visit (rows.map key).dedup).map (fun value =>
    (value, rows.filter (fun row => key row = value)))

end Table

------------------------------------------------------------
-- Sums And Groups
------------------------------------------------------------

namespace Table

variable {R K : Type}
variable {amount : R → Int}
variable {rows : List R}

/- `coalesce(sum(amount), 0)`. -/
theorem sumOf_getD :
    (sumOf amount rows).getD 0 = (rows.map amount).sum := by
  cases rows with
  | nil => rfl
  | cons row rows => rfl

theorem sumOf_eq_some
    (hRows : rows ≠ []) :
    sumOf amount rows = some (rows.map amount).sum := by
  cases rows with
  | nil => exact absurd rfl hRows
  | cons row rows => rfl

/- A conditional amount sums up the selected rows. -/
theorem sum_map_ite
    (selected : R → Bool) :
    (rows.map (fun row =>
        if selected row then amount row else 0)).sum =
      ((rows.filter selected).map amount).sum := by
  induction rows with
  | nil => rfl
  | cons row rows ih =>
      rw [List.map_cons, List.sum_cons, ih]
      cases hRow : selected row with
      | true => simp [hRow]
      | false => simp [hRow]

/- Equal amounts multiply. -/
theorem sumWhere_of_equal
    {selected : R → Bool}
    {value : Int}
    (hSelected : ∀ row ∈ rows, selected row = true)
    (hEqual : ∀ row ∈ rows, amount row = value) :
    sumWhere selected amount rows = value * rows.length := by
  induction rows with
  | nil => simp [sumWhere]
  | cons row rows ih =>
      rw [List.forall_mem_cons] at hSelected hEqual
      rw [sumWhere_cons, if_pos hSelected.1, hEqual.1,
        ih hSelected.2 hEqual.2, List.length_cons]
      push_cast
      ring

/-
  Where no row adds more on the one side, equal sums add the
  same row by row.
-/
theorem sum_eq_iff_of_le
    {first second : R → Int}
    (hLe : ∀ row ∈ rows, first row ≤ second row) :
    (rows.map first).sum = (rows.map second).sum ↔
      ∀ row ∈ rows, first row = second row := by
  induction rows with
  | nil => simp
  | cons row rows ih =>
      rw [List.forall_mem_cons] at hLe ⊢
      rw [← ih hLe.2, List.map_cons, List.map_cons,
        List.sum_cons, List.sum_cons]
      have hRest :
          (rows.map first).sum ≤ (rows.map second).sum :=
        List.sum_le_sum hLe.2
      have hHere := hLe.1
      constructor
      · intro hSum
        constructor
        · omega
        · omega
      · rintro ⟨hFirst, hTail⟩
        rw [hFirst, hTail]

variable [DecidableEq K]
variable {scan : Scan K}
variable {key : R → K}

theorem mem_groupBy
    {value : K}
    {group : List R} :
    (value, group) ∈ groupBy scan key rows ↔
      value ∈ rows.map key ∧
        group = rows.filter (fun row => key row = value) := by
  unfold groupBy
  rw [List.mem_map]
  constructor
  · rintro ⟨other, hOther, hPair⟩
    cases hPair
    rw [scan.mem_visit, List.mem_dedup] at hOther
    exact ⟨hOther, rfl⟩
  · rintro ⟨hValue, rfl⟩
    refine ⟨value, ?_, rfl⟩
    rw [scan.mem_visit, List.mem_dedup]
    exact hValue

/- Every key has one group. -/
theorem nodup_groupBy :
    ((groupBy scan key rows).map (·.1)).Nodup := by
  unfold groupBy
  rw [List.map_map]
  have hKeys :
      (scan.visit (rows.map key).dedup).Nodup :=
    (scan.perm _).nodup_iff.mpr (List.nodup_dedup _)
  simpa [Function.comp_def] using hKeys

/- Whoever has a group has a row in it. -/
theorem group_ne_nil
    (scan : Scan K)
    {value : K}
    {group : List R}
    (hGroup : (value, group) ∈ groupBy scan key rows) :
    group ≠ [] := by
  rcases mem_groupBy.mp hGroup with ⟨hValue, rfl⟩
  rcases List.mem_map.mp hValue with ⟨row, hRow, hKey⟩
  exact List.ne_nil_of_mem
    (List.mem_filter.mpr ⟨hRow, by simp [hKey]⟩)

/- One row counts once among distinct keys. -/
theorem sum_single
    {values : List K}
    {value : K}
    {number : Int}
    (hValues : values.Nodup)
    (hValue : value ∈ values) :
    (values.map (fun other =>
        if value = other then number else 0)).sum =
      number := by
  induction values with
  | nil => cases hValue
  | cons first values ih =>
      rw [List.nodup_cons] at hValues
      rw [List.map_cons, List.sum_cons]
      by_cases hFirst : value = first
      · have hRest :
            values.map (fun other =>
                if value = other then number else 0) =
              values.map (fun _ => 0) := by
          apply List.map_congr_left
          intro other hOther
          rw [if_neg]
          rintro rfl
          exact hValues.1 (hFirst ▸ hOther)
        rw [if_pos hFirst, hRest]
        simp
      · rw [if_neg hFirst, zero_add]
        exact ih hValues.2
          ((List.mem_cons.mp hValue).resolve_left hFirst)

/- Summing by key sums up the table. -/
theorem sum_by_key
    {values : List K}
    (hValues : values.Nodup)
    (hKeys : ∀ row ∈ rows, key row ∈ values) :
    (values.map (fun value =>
        ((rows.filter (fun row =>
          key row = value)).map amount).sum)).sum =
      (rows.map amount).sum := by
  induction rows with
  | nil => simp
  | cons row rows ih =>
      rw [List.forall_mem_cons] at hKeys
      have hSplit :
          ∀ value,
            (((row :: rows).filter (fun row =>
                  key row = value)).map amount).sum =
              (if key row = value then amount row else 0) +
                ((rows.filter (fun row =>
                  key row = value)).map amount).sum := by
        intro value
        by_cases hKey : key row = value
        · simp [hKey]
        · simp [hKey]
      simp only [hSplit]
      rw [List.sum_map_add, sum_single hValues hKeys.1,
        ih hKeys.2, List.map_cons, List.sum_cons]

/- The groups add up to the table. -/
theorem sum_groups
    (scan : Scan K)
    (key : R → K)
    (amount : R → Int)
    (rows : List R) :
    ((groupBy scan key rows).map (fun group =>
        (group.2.map amount).sum)).sum =
      (rows.map amount).sum := by
  unfold groupBy
  rw [List.map_map]
  apply sum_by_key
  · exact (scan.perm _).nodup_iff.mpr (List.nodup_dedup _)
  · intro row hRow
    rw [scan.mem_visit, List.mem_dedup]
    exact List.mem_map_of_mem hRow

end Table

------------------------------------------------------------
-- Collecting From A List Of Keys
------------------------------------------------------------

namespace Table

variable {R K : Type}
variable {keys : List K}
variable {key : K}
variable {before after : K → Option R}

/- Changing what one key yields changes one place. -/
theorem filterMap_split
    (hKeys : keys.Nodup)
    (hKey : key ∈ keys)
    (hOther :
      ∀ other ∈ keys,
        other ≠ key → after other = before other) :
    ∃ left right,
      keys.filterMap before =
          left ++ ((before key).toList ++ right) ∧
        keys.filterMap after =
          left ++ ((after key).toList ++ right) := by
  rcases List.append_of_mem hKey with ⟨first, last, rfl⟩
  rw [List.nodup_middle, List.nodup_cons,
    List.mem_append, not_or] at hKeys
  have hSame :
      ∀ others : List K,
        key ∉ others →
          others ⊆ first ++ key :: last →
            others.filterMap after =
              others.filterMap before := by
    intro others hNotMem hSub
    apply List.filterMap_congr
    intro other hMem
    apply hOther other (hSub hMem)
    rintro rfl
    exact hNotMem hMem
  have hSplit :
      ∀ yield : K → Option R,
        (first ++ key :: last).filterMap yield =
          first.filterMap yield ++
            ((yield key).toList ++
              last.filterMap yield) := by
    intro yield
    rw [List.filterMap_append, List.filterMap_cons]
    cases yield key <;> rfl
  refine ⟨first.filterMap before, last.filterMap before,
    hSplit before, ?_⟩
  have hLast : last ⊆ first ++ key :: last :=
    fun other hMem =>
      List.mem_append_right _ (List.mem_cons_of_mem _ hMem)
  rw [hSplit after,
    hSame first hKeys.1.1 (List.subset_append_left _ _),
    hSame last hKeys.1.2 hLast]

end Table

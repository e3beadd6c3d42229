import Mathlib.Algebra.BigOperators.Group.List.Basic
import Mathlib.Algebra.Order.BigOperators.Group.List
import Mathlib.Data.List.Basic
import Mathlib.Data.List.Nodup
import Mathlib.Data.List.Perm.Subperm
import Mathlib.Data.List.Sort
import Mathlib.Tactic.Common
import Mathlib.Tactic.Linarith

/-
  Tables as lists of rows, with the few statements a
  service issues against them: a conditional update, a
  conditional sum, lookups, and ordered reads.

  Key definitions include:
    * `Table.updateWhere`
    * `Table.sumWhere`
    * `Table.Scan`
    * `Table.orderBy`

  Key theorems include:
    * `Table.map_updateWhere`
    * `Table.sumWhere_updateWhere_le`
    * `Table.sum_le_sumWhere`
    * `Table.map_orderBy_eq_map`
-/

------------------------------------------------------------
-- Statements
------------------------------------------------------------

namespace Table

variable {R K : Type}

/- `UPDATE ... SET change WHERE selected`. -/
def updateWhere
    (selected : R → Bool)
    (change : R → R)
    (rows : List R) : List R :=
  rows.map (fun row =>
    if selected row then change row else row)

/- `SELECT coalesce(sum(amount), 0) WHERE selected`. -/
def sumWhere
    (selected : R → Bool)
    (amount : R → Int)
    (rows : List R) : Int :=
  ((rows.filter selected).map amount).sum

/-
  The order in which the rows of a result are visited where
  the statement does not settle it.
-/
structure Scan (R : Type) where
  visit : List R → List R
  perm : ∀ rows, (visit rows).Perm rows

/- `ORDER BY`, ties in the order of the scan. -/
def orderBy
    (scan : Scan R)
    (precedes : R → R → Prop)
    [DecidableRel precedes]
    (rows : List R) : List R :=
  (scan.visit rows).insertionSort precedes

/- Rows in the order they were inserted. -/
def Scan.asInserted : Scan R where
  visit rows := rows
  perm := List.Perm.refl

theorem Scan.mem_visit
    (scan : Scan R)
    {rows : List R}
    {row : R} :
    row ∈ scan.visit rows ↔ row ∈ rows :=
  (scan.perm rows).mem_iff

theorem mem_orderBy
    {scan : Scan R}
    {precedes : R → R → Prop}
    [DecidableRel precedes]
    {rows : List R}
    {row : R} :
    row ∈ orderBy scan precedes rows ↔ row ∈ rows := by
  unfold orderBy
  rw [List.mem_insertionSort, scan.mem_visit]

/- Moving a value to the front of its own copies. -/
theorem map_middle
    {V : Type}
    {look : R → V}
    {row : R}
    {before : List R}
    (after : List R)
    (hAlike : ∀ other ∈ before, look other = look row) :
    (before ++ row :: after).map look =
      look row :: (before ++ after).map look := by
  induction before with
  | nil => rfl
  | cons first before ih =>
      rw [List.forall_mem_cons] at hAlike
      rw [List.cons_append, List.map_cons, ih hAlike.2,
        List.cons_append, List.map_cons, hAlike.1]

variable [LinearOrder K]
variable {key : R → K}

/- Sorted rows that differ only in order look the same. -/
theorem map_eq_map_of_perm
    {V : Type}
    {look : R → V}
    {sorted rows : List R}
    (hPerm : sorted.Perm rows)
    (hSorted :
      sorted.Pairwise (fun row other => key row ≤ key other))
    (hRows :
      rows.Pairwise (fun row other =>
        key row < key other ∨ look row = look other)) :
    sorted.map look = rows.map look := by
  induction rows generalizing sorted with
  | nil => rw [hPerm.eq_nil]
  | cons row rows ih =>
      rw [List.pairwise_cons] at hRows
      rcases List.append_of_mem
          (hPerm.mem_iff.mpr List.mem_cons_self) with
        ⟨before, after, rfl⟩
      have hRest : (before ++ after).Perm rows :=
        (List.perm_middle.symm.trans hPerm).cons_inv
      -- what was read before the first row looks like it
      have hAlike :
          ∀ other ∈ before, look other = look row := by
        intro other hOther
        have hLe : key other ≤ key row :=
          (List.pairwise_append.mp hSorted).2.2 other hOther
            row List.mem_cons_self
        have hMem : other ∈ rows :=
          hRest.mem_iff.mp (List.mem_append_left _ hOther)
        rcases hRows.1 other hMem with hLt | hSame
        · exact absurd hLt (not_lt.mpr hLe)
        · exact hSame.symm
      have hKept :
          (before ++ after).Pairwise (fun row other =>
            key row ≤ key other) := by
        refine hSorted.sublist ?_
        exact (List.sublist_cons_self row after).append_left
          before
      rw [map_middle after hAlike, ih hRest hKept hRows.2,
        List.map_cons]

/-
  Where a tie or an inversion only concerns rows that look
  alike, a read by the key shows what was inserted.
-/
theorem map_orderBy_eq_map
    {V : Type}
    {look : R → V}
    (scan : Scan R)
    {rows : List R}
    (hRows :
      rows.Pairwise (fun row other =>
        key row < key other ∨ look row = look other)) :
    (orderBy scan (fun row other => key row ≤ key other)
      rows).map look = rows.map look := by
  have hTotal :
      Std.Total (fun row other : R => key row ≤ key other) :=
    ⟨fun row other => le_total (key row) (key other)⟩
  have hTrans :
      IsTrans R (fun row other => key row ≤ key other) :=
    ⟨fun _ _ _ => le_trans⟩
  exact map_eq_map_of_perm
    ((List.perm_insertionSort _ _).trans (scan.perm rows))
    (List.pairwise_insertionSort _ _) hRows

end Table

------------------------------------------------------------
-- Updates
------------------------------------------------------------

namespace Table

variable {R K : Type}

/- The rows of an updated table. -/
theorem mem_updateWhere
    {selected : R → Bool}
    {change : R → R}
    {rows : List R}
    {row : R} :
    row ∈ updateWhere selected change rows ↔
      ∃ old ∈ rows,
        row = if selected old then change old else old := by
  unfold updateWhere
  rw [List.mem_map]
  constructor
  · rintro ⟨old, hOld, rfl⟩
    exact ⟨old, hOld, rfl⟩
  · rintro ⟨old, hOld, rfl⟩
    exact ⟨old, hOld, rfl⟩

/- A row the update does not select stays in the table. -/
theorem mem_updateWhere_of_not_selected
    {selected : R → Bool}
    {change : R → R}
    {rows : List R}
    {row : R}
    (hRow : row ∈ rows)
    (hSelected : selected row = false) :
    row ∈ updateWhere selected change rows :=
  mem_updateWhere.mpr ⟨row, hRow, by simp [hSelected]⟩

/- A column every selected row keeps reads the same. -/
theorem map_updateWhere_of_mem
    {column : R → K}
    {selected : R → Bool}
    {change : R → R}
    {rows : List R}
    (hKeep :
      ∀ row ∈ rows,
        selected row = true →
          column (change row) = column row) :
    (updateWhere selected change rows).map column =
      rows.map column := by
  unfold updateWhere
  rw [List.map_map]
  apply List.map_congr_left
  intro row hRow
  by_cases hSelected : selected row
  · simp [hSelected, hKeep row hRow hSelected]
  · simp [hSelected]

/- A column the change keeps reads the same afterwards. -/
theorem map_updateWhere
    {column : R → K}
    {selected : R → Bool}
    {change : R → R}
    (hKeep : ∀ row, column (change row) = column row)
    (rows : List R) :
    (updateWhere selected change rows).map column =
      rows.map column :=
  map_updateWhere_of_mem (fun row _ _ => hKeep row)

/- Updating commutes with appending rows. -/
theorem updateWhere_append
    (selected : R → Bool)
    (change : R → R)
    (first second : List R) :
    updateWhere selected change (first ++ second) =
      updateWhere selected change first ++
        updateWhere selected change second :=
  List.map_append

/- An update that selects no row changes nothing. -/
theorem updateWhere_of_forall_not
    {selected : R → Bool}
    {change : R → R}
    {rows : List R}
    (hNone : ∀ row ∈ rows, selected row = false) :
    updateWhere selected change rows = rows := by
  unfold updateWhere
  conv_rhs => rw [← List.map_id rows]
  apply List.map_congr_left
  intro row hRow
  simp [hNone row hRow]

/- An update by a unique key changes one row in place. -/
theorem updateWhere_split
    [DecidableEq K]
    {key : R → K}
    (change : R → R)
    {rows : List R}
    {row : R}
    (hNodup : (rows.map key).Nodup)
    (hRow : row ∈ rows) :
    ∃ before after,
      rows = before ++ row :: after ∧
        updateWhere (fun other => key other = key row)
            change rows =
          before ++ change row :: after := by
  rcases List.append_of_mem hRow with
    ⟨before, after, rfl⟩
  refine ⟨before, after, rfl, ?_⟩
  rw [List.map_append, List.map_cons,
    List.nodup_middle, List.nodup_cons, List.mem_append,
    not_or] at hNodup
  have hOthers :
      ∀ others : List R,
        key row ∉ others.map key →
          updateWhere (fun other => key other = key row)
            change others = others := by
    intro others hOthers
    apply updateWhere_of_forall_not
    intro other hOther
    simp only [decide_eq_false_iff_not]
    intro hSame
    exact hOthers
      (List.mem_map.mpr ⟨other, hOther, hSame⟩)
  have hSelf :
      updateWhere (fun other => key other = key row)
          change [row] = [change row] := by
    simp [updateWhere]
  rw [updateWhere_append, hOthers before hNodup.1.1,
    ← List.singleton_append, updateWhere_append, hSelf,
    hOthers after hNodup.1.2]
  rfl

/- A translation that respects the update commutes with it. -/
theorem map_updateWhere_comm
    {T : Type}
    {column : R → T}
    {selected : R → Bool}
    {change : R → R}
    {selected' : T → Bool}
    {change' : T → T}
    (hSelected : ∀ row, selected' (column row) = selected row)
    (hChange :
      ∀ row, column (change row) = change' (column row))
    (rows : List R) :
    (updateWhere selected change rows).map column =
      updateWhere selected' change' (rows.map column) := by
  unfold updateWhere
  rw [List.map_map, List.map_map]
  apply List.map_congr_left
  intro row _
  simp only [Function.comp_apply, hSelected]
  split
  · exact hChange row
  · rfl

/- A filter the change respects commutes with an update. -/
theorem filter_updateWhere
    {keep selected : R → Bool}
    {change : R → R}
    (hKeep :
      ∀ row,
        selected row = true → keep (change row) = keep row)
    (rows : List R) :
    (updateWhere selected change rows).filter keep =
      updateWhere selected change (rows.filter keep) := by
  unfold updateWhere
  rw [List.filter_map]
  congr 1
  apply List.filter_congr
  intro row _
  by_cases hSelected : selected row
  · simp [hSelected, hKeep row hSelected]
  · simp [hSelected]

/- An update between rows the filter drops is not seen. -/
theorem filter_updateWhere_of_unseen
    {keep selected : R → Bool}
    {change : R → R}
    {rows : List R}
    (hBefore :
      ∀ row ∈ rows, selected row = true → keep row = false)
    (hAfter :
      ∀ row ∈ rows,
        selected row = true → keep (change row) = false) :
    (updateWhere selected change rows).filter keep =
      rows.filter keep := by
  induction rows with
  | nil => rfl
  | cons row rows ih =>
      rw [List.forall_mem_cons] at hBefore hAfter
      have hRest := ih hBefore.2 hAfter.2
      unfold updateWhere at hRest ⊢
      rw [List.map_cons]
      cases hSelected : selected row with
      | true =>
          have hDropped := hAfter.1 hSelected
          rw [if_pos rfl,
            List.filter_cons_of_neg (by simp [hDropped]),
            List.filter_cons_of_neg
              (by simp [hBefore.1 hSelected])]
          exact hRest
      | false =>
          rw [if_neg (by simp), List.filter_cons,
            List.filter_cons, hRest]

/- An update of rows the filter drops is not seen. -/
theorem filter_updateWhere_of_dropped
    {keep selected : R → Bool}
    {change : R → R}
    {rows : List R}
    (hKeep :
      ∀ row,
        selected row = true → keep (change row) = keep row)
    (hDropped :
      ∀ row ∈ rows, selected row = true → keep row = false) :
    (updateWhere selected change rows).filter keep =
      rows.filter keep := by
  apply filter_updateWhere_of_unseen hDropped
  intro row hRow hSelected
  rw [hKeep row hSelected]
  exact hDropped row hRow hSelected

/- The only row a query selects is the one it finds. -/
theorem find?_of_unique
    {selected : R → Bool}
    {rows : List R}
    {row : R}
    (hRow : row ∈ rows)
    (hSelected : selected row = true)
    (hOnly :
      ∀ other ∈ rows, selected other = true → other = row) :
    rows.find? selected = some row := by
  have hSome : (rows.find? selected).isSome := by
    rw [List.find?_isSome]
    exact ⟨row, hRow, hSelected⟩
  rcases Option.isSome_iff_exists.mp hSome with
    ⟨found, hFound⟩
  rw [hFound, hOnly found (List.mem_of_find?_eq_some hFound)
    (List.find?_some hFound)]

/- A row is found by a key no other row has. -/
theorem find?_of_nodup_map
    [DecidableEq K]
    {key : R → K}
    {rows : List R}
    {row : R}
    (hKeys : (rows.map key).Nodup)
    (hRow : row ∈ rows) :
    rows.find? (fun other => key other = key row) =
      some row := by
  apply find?_of_unique hRow (decide_eq_true rfl)
  intro other hOther hSame
  exact List.inj_on_of_nodup_map hKeys hOther hRow
    (of_decide_eq_true hSame)

/- A key selects at most one row. -/
theorem filter_key_eq
    [DecidableEq K]
    {key : R → K}
    {rows : List R}
    {row : R}
    (hKeys : (rows.map key).Nodup)
    (hRow : row ∈ rows) :
    rows.filter (fun other => key other = key row) =
      [row] := by
  induction rows with
  | nil => cases hRow
  | cons first rows ih =>
      rw [List.map_cons, List.nodup_cons] at hKeys
      rcases List.mem_cons.mp hRow with rfl | hRest
      · rw [List.filter_cons_of_pos (by simp),
          List.filter_eq_nil_iff.mpr]
        intro other hOther hSame
        apply hKeys.1
        rw [← of_decide_eq_true hSame]
        exact List.mem_map_of_mem hOther
      · have hFirst : key first ≠ key row := by
          intro hSame
          apply hKeys.1
          rw [hSame]
          exact List.mem_map_of_mem hRest
        rw [List.filter_cons_of_neg (by simp [hFirst])]
        exact ih hKeys.2 hRest

/- A value that comes up once comes from one row. -/
theorem eq_of_nodup_filterMap
    {value : R → Option K}
    {rows : List R}
    {row other : R}
    {shared : K}
    (hNodup : (rows.filterMap value).Nodup)
    (hRow : row ∈ rows)
    (hOther : other ∈ rows)
    (hValue : value row = some shared)
    (hShared : value other = some shared) :
    row = other := by
  induction rows with
  | nil => cases hRow
  | cons first rows ih =>
      have hRest : (rows.filterMap value).Nodup :=
        hNodup.sublist
          ((List.sublist_cons_self first rows).filterMap
            value)
      -- a later row with the value of the first repeats it
      have hLater :
          ∀ later ∈ rows,
            value first = some shared →
              value later ≠ some shared := by
        intro later hMem hFirst hSame
        rw [List.filterMap_cons_some hFirst,
          List.nodup_cons] at hNodup
        exact hNodup.1
          (List.mem_filterMap.mpr ⟨later, hMem, hSame⟩)
      rcases List.mem_cons.mp hRow with rfl | hRowLater
      · rcases List.mem_cons.mp hOther with rfl | hOtherLater
        · rfl
        · exact absurd hShared
            (hLater other hOtherLater hValue)
      · rcases List.mem_cons.mp hOther with rfl | hOtherLater
        · exact absurd hValue (hLater row hRowLater hShared)
        · exact ih hRest hRowLater hOtherLater

/- Fewer values repeat no more. -/
theorem nodup_filterMap_of_imp
    {value fewer : R → Option K}
    {rows : List R}
    (hNodup : (rows.filterMap value).Nodup)
    (hFewer :
      ∀ row shared,
        fewer row = some shared →
          value row = some shared) :
    (rows.filterMap fewer).Nodup := by
  induction rows with
  | nil => exact List.nodup_nil
  | cons first rows ih =>
      have hRest :=
        ih (hNodup.sublist
          ((List.sublist_cons_self first rows).filterMap
            value))
      cases hFirst : fewer first with
      | none => rwa [List.filterMap_cons_none hFirst]
      | some shared =>
          rw [List.filterMap_cons_some hFirst,
            List.nodup_cons]
          rw [List.filterMap_cons_some
            (hFewer first shared hFirst),
            List.nodup_cons] at hNodup
          refine ⟨?_, hRest⟩
          intro hMem
          rcases List.mem_filterMap.mp hMem with
            ⟨later, hLater, hSame⟩
          exact hNodup.1 (List.mem_filterMap.mpr
            ⟨later, hLater, hFewer later shared hSame⟩)

end Table

------------------------------------------------------------
-- Sums
------------------------------------------------------------

namespace Table

variable {R K : Type}
variable {selected : R → Bool}
variable {amount : R → Int}

theorem sumWhere_append
    (first second : List R) :
    sumWhere selected amount (first ++ second) =
      sumWhere selected amount first +
        sumWhere selected amount second := by
  simp [sumWhere]

theorem sumWhere_cons
    (row : R)
    (rows : List R) :
    sumWhere selected amount (row :: rows) =
      (if selected row then amount row else 0) +
        sumWhere selected amount rows := by
  by_cases hSelected : selected row
  · simp [sumWhere, hSelected]
  · simp [sumWhere, hSelected]

/- No selected row, no sum. -/
theorem sumWhere_of_forall_not
    {rows : List R}
    (hNone : ∀ row ∈ rows, selected row = false) :
    sumWhere selected amount rows = 0 := by
  unfold sumWhere
  rw [List.filter_eq_nil_iff.mpr]
  · rfl
  · intro row hRow
    simp [hNone row hRow]

/-
  An update shrinks a sum where it shrinks the share of
  every row it changes.
-/
theorem sumWhere_updateWhere_le
    {changed : R → Bool}
    {change : R → R}
    {rows : List R}
    (hShrink :
      ∀ row ∈ rows,
        changed row = true →
          (if selected (change row) then
            amount (change row) else 0) ≤
            (if selected row then amount row else 0)) :
    sumWhere selected amount
        (updateWhere changed change rows) ≤
      sumWhere selected amount rows := by
  induction rows with
  | nil => exact le_refl _
  | cons row rows ih =>
      have hRest := ih (fun other hOther =>
        hShrink other (List.mem_cons_of_mem _ hOther))
      have hHead := hShrink row List.mem_cons_self
      change sumWhere selected amount
          ((if changed row then change row else row) ::
            updateWhere changed change rows) ≤ _
      rw [sumWhere_cons, sumWhere_cons]
      by_cases hChanged : changed row = true
      · rw [if_pos hChanged]
        have hRow := hHead hChanged
        omega
      · rw [if_neg hChanged]
        omega

theorem sumWhere_neg
    (rows : List R) :
    sumWhere selected (fun row => -amount row) rows =
      -sumWhere selected amount rows := by
  induction rows with
  | nil => rfl
  | cons row rows ih =>
      rw [sumWhere_cons, sumWhere_cons, ih]
      split <;> omega

/- An update grows a sum where it grows every share. -/
theorem sumWhere_le_updateWhere
    {changed : R → Bool}
    {change : R → R}
    {rows : List R}
    (hGrow :
      ∀ row ∈ rows,
        changed row = true →
          (if selected row then amount row else 0) ≤
            (if selected (change row) then
              amount (change row) else 0)) :
    sumWhere selected amount rows ≤
      sumWhere selected amount
        (updateWhere changed change rows) := by
  have hNegated :
      sumWhere selected (fun row => -amount row)
          (updateWhere changed change rows) ≤
        sumWhere selected (fun row => -amount row) rows := by
    apply sumWhere_updateWhere_le
    intro row hRow hChanged
    have hShare := hGrow row hRow hChanged
    split <;> split <;> simp_all
  rw [sumWhere_neg, sumWhere_neg] at hNegated
  omega

/-
  Entries that refer to distinct selected rows of their own
  amount add up to at most the sum of the selected rows.
-/
theorem sum_le_sumWhere
    {E : Type}
    (key : R → K)
    (entryKey : E → K)
    {weight : E → Int}
    {entries : List E}
    {rows : List R}
    (hDistinct : (entries.map entryKey).Nodup)
    (hNonneg :
      ∀ row ∈ rows, selected row = true → 0 ≤ amount row)
    (hRefers :
      ∀ entry ∈ entries,
        ∃ row ∈ rows,
          key row = entryKey entry ∧
            selected row = true ∧
            amount row = weight entry) :
    (entries.map weight).sum ≤
      sumWhere selected amount rows := by
  have hAmounts :
      ∀ value ∈ (rows.filter selected).map amount,
        0 ≤ value := by
    intro value hValue
    rcases List.mem_map.mp hValue with ⟨row, hRow, rfl⟩
    have hKept := List.mem_filter.mp hRow
    exact hNonneg row hKept.1 hKept.2
  by_cases hEmpty : entries = []
  · subst hEmpty
    exact List.sum_nonneg hAmounts
  rcases List.exists_mem_of_ne_nil entries hEmpty with
    ⟨first, hFirst⟩
  have hNonempty : Nonempty R :=
    (hRefers first hFirst).nonempty
  choose! target hTarget using hRefers
  have hKeys :
      (entries.map target).map key =
        entries.map entryKey := by
    rw [List.map_map]
    exact List.map_congr_left
      (fun entry hEntry => (hTarget entry hEntry).2.1)
  have hWeights :
      entries.map weight =
        (entries.map target).map amount := by
    rw [List.map_map]
    exact List.map_congr_left
      (fun entry hEntry =>
        (hTarget entry hEntry).2.2.2.symm)
  have hNodup : (entries.map target).Nodup := by
    rw [← hKeys] at hDistinct
    exact hDistinct.of_map key
  have hSubset :
      entries.map target ⊆ rows.filter selected := by
    intro row hRow
    rcases List.mem_map.mp hRow with ⟨entry, hEntry, rfl⟩
    have hEntryTarget := hTarget entry hEntry
    exact List.mem_filter.mpr
      ⟨hEntryTarget.1, hEntryTarget.2.2.1⟩
  rcases List.subperm_of_subset hNodup hSubset with
    ⟨part, hPerm, hSub⟩
  have hPart :
      (part.map amount).sum ≤
        ((rows.filter selected).map amount).sum :=
    (hSub.map amount).sum_le_sum hAmounts
  rw [hWeights, ← (hPerm.map amount).sum_eq]
  exact hPart

end Table

------------------------------------------------------------
-- Queries On A Part Of A Table
------------------------------------------------------------

namespace Table

variable {R : Type}
variable {keep wanted : R → Bool}
variable {rows : List R}

/- A query that only wants kept rows sees no difference. -/
theorem filter_of_kept
    (hKept :
      ∀ row ∈ rows, wanted row = true → keep row = true) :
    (rows.filter keep).filter wanted =
      rows.filter wanted := by
  rw [List.filter_filter]
  apply List.filter_congr
  intro row hRow
  cases hWanted : wanted row with
  | false => rfl
  | true => rw [hKept row hRow hWanted, Bool.and_true]

theorem find?_of_kept
    (hKept :
      ∀ row ∈ rows, wanted row = true → keep row = true) :
    (rows.filter keep).find? wanted = rows.find? wanted := by
  rw [← List.head?_filter, ← List.head?_filter,
    filter_of_kept hKept]

theorem countP_of_kept
    (hKept :
      ∀ row ∈ rows, wanted row = true → keep row = true) :
    (rows.filter keep).countP wanted =
      rows.countP wanted := by
  rw [List.countP_eq_length_filter,
    List.countP_eq_length_filter, filter_of_kept hKept]

theorem any_of_kept
    (hKept :
      ∀ row ∈ rows, wanted row = true → keep row = true) :
    (rows.filter keep).any wanted = rows.any wanted := by
  rw [Bool.eq_iff_iff, List.any_eq_true, List.any_eq_true]
  constructor
  · rintro ⟨row, hRow, hWanted⟩
    exact ⟨row, List.mem_of_mem_filter hRow, hWanted⟩
  · rintro ⟨row, hRow, hWanted⟩
    exact ⟨row,
      List.mem_filter.mpr ⟨hRow, hKept row hRow hWanted⟩,
      hWanted⟩

theorem sumWhere_of_kept
    {amount : R → Int}
    (hKept :
      ∀ row ∈ rows, wanted row = true → keep row = true) :
    sumWhere wanted amount (rows.filter keep) =
      sumWhere wanted amount rows := by
  unfold sumWhere
  rw [filter_of_kept hKept]

end Table

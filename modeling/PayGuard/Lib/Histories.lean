import Mathlib.Data.List.Infix
import PayGuard.Lib.Tables

/-
  Tables whose rows stay.

  A table that rows are only added to, and whose updates
  leave some columns alone, shows an earlier table in those
  columns at its beginning.

  Key definitions include:
    * `Table.Keeps`

  Key theorems include:
    * `Table.Keeps.updateWhere`
    * `Table.Keeps.exists_mem`
-/

------------------------------------------------------------
-- Rows That Stay
------------------------------------------------------------

namespace Table

variable {R K : Type}
variable {columns : R → K}
variable {rows later latest : List R}

/- The rows are still there, as far as the columns tell. -/
def Keeps
    (columns : R → K)
    (rows later : List R) : Prop :=
  rows.map columns <+: later.map columns

namespace Keeps

theorem of_eq
    (hSame : later.map columns = rows.map columns) :
    Keeps columns rows later := by
  unfold Keeps
  rw [hSame]

theorem refl (rows : List R) : Keeps columns rows rows :=
  of_eq rfl

theorem trans
    (hFirst : Keeps columns rows later)
    (hSecond : Keeps columns later latest) :
    Keeps columns rows latest :=
  List.IsPrefix.trans hFirst hSecond

theorem append
    (rows added : List R) :
    Keeps columns rows (rows ++ added) := by
  unfold Keeps
  rw [List.map_append]
  exact List.prefix_append _ _

/- An update that leaves the columns alone keeps the rows. -/
theorem updateWhere
    {selected : R → Bool}
    {change : R → R}
    (hKeep : ∀ row, columns (change row) = columns row)
    (rows : List R) :
    Keeps columns rows
      (Table.updateWhere selected change rows) :=
  of_eq (map_updateWhere hKeep rows)

/- Whatever was there is found again. -/
theorem exists_mem
    (hKeeps : Keeps columns rows later)
    {row : R}
    (hRow : row ∈ rows) :
    ∃ found ∈ later, columns found = columns row := by
  have hColumns : columns row ∈ later.map columns :=
    List.IsPrefix.subset hKeeps
      (List.mem_map_of_mem hRow)
  exact List.mem_map.mp hColumns

/- A table that did not grow has no row it did not have. -/
theorem exists_old
    (hKeeps : Keeps columns rows later)
    (hLength : later.length = rows.length)
    {row : R}
    (hRow : row ∈ later) :
    ∃ old ∈ rows, columns row = columns old := by
  have hSame : rows.map columns = later.map columns := by
    apply List.IsPrefix.eq_of_length hKeeps
    rw [List.length_map, List.length_map, hLength]
  have hColumns : columns row ∈ rows.map columns := by
    rw [hSame]
    exact List.mem_map_of_mem hRow
  rcases List.mem_map.mp hColumns with ⟨old, hOld, hRows⟩
  exact ⟨old, hOld, hRows.symm⟩

end Keeps

end Table

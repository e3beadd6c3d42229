import Mathlib.Data.List.Count
import PayGuard.Lib.Tables

/-
  Pages of an ordered read.

  Each page is cut out of a read of its own, and a read only
  settles the order of rows whose keys differ.  The pages
  hold every row once, whatever the reads do with ties, if
  and only if no tie lies across a page boundary.

  Key definitions include:
    * `Pages.OrderedRead`
    * `Pages.pages`
    * `Pages.SplitsTie`
    * `Table.Scan.toward`

  Key theorems include:
    * `Pages.take_eq_filter`
    * `Pages.pages_perm`
    * `Pages.pages_latestFirst`
    * `Pages.pages_perm_iff`
-/

------------------------------------------------------------
-- Reads And Pages
------------------------------------------------------------

namespace Pages

variable {R K : Type} [LinearOrder K]

/- All rows, those with the latest key first. -/
structure OrderedRead
    (key : R → K)
    (rows read : List R) : Prop where
  perm : read.Perm rows
  latestFirst :
    read.Pairwise (fun row other => key other ≤ key row)

/- `LIMIT limit OFFSET index * limit`. -/
def page
    (limit : Nat)
    (read : List R)
    (index : Nat) : List R :=
  (read.drop (index * limit)).take limit

/- The first pages one after the other. -/
def pages
    (limit : Nat)
    (reads : Nat → List R)
    (count : Nat) : List R :=
  (List.range count).flatMap (fun index =>
    page limit (reads index) index)

/- The rows that come before a row in every read. -/
def ahead
    (key : R → K)
    (rows : List R)
    (row : R) : Nat :=
  rows.countP (fun other => key row < key other)

/- The rows that come before it or may be exchanged with it. -/
def aheadOrTied
    (key : R → K)
    (rows : List R)
    (row : R) : Nat :=
  rows.countP (fun other => key row ≤ key other)

/- Rows with one key are on both sides of the boundary. -/
def SplitsTie
    (key : R → K)
    (rows : List R)
    (boundary : Nat) : Prop :=
  ∃ row ∈ rows,
    ahead key rows row < boundary ∧
      boundary < aheadOrTied key rows row

instance
    (key : R → K)
    (rows : List R)
    (boundary : Nat) :
    Decidable (SplitsTie key rows boundary) :=
  List.decidableBEx
    (fun row =>
      ahead key rows row < boundary ∧
        boundary < aheadOrTied key rows row)
    rows

variable {key : R → K}
variable {rows read : List R}
variable {limit boundary : Nat}

theorem OrderedRead.ahead_eq
    (hRead : OrderedRead key rows read)
    (boundary : Nat)
    (row : R) :
    ahead key rows row =
      (read.take boundary).countP
          (fun other => key row < key other) +
        (read.drop boundary).countP
          (fun other => key row < key other) := by
  rw [← List.countP_append, List.take_append_drop]
  exact (hRead.perm.countP_eq _).symm

theorem OrderedRead.aheadOrTied_eq
    (hRead : OrderedRead key rows read)
    (boundary : Nat)
    (row : R) :
    aheadOrTied key rows row =
      (read.take boundary).countP
          (fun other => key row ≤ key other) +
        (read.drop boundary).countP
          (fun other => key row ≤ key other) := by
  rw [← List.countP_append, List.take_append_drop]
  exact (hRead.perm.countP_eq _).symm

/- Before a boundary all keys are at least those after it. -/
theorem OrderedRead.le_of_take_drop
    {row other : R}
    (hRead : OrderedRead key rows read)
    (hRow : row ∈ read.take boundary)
    (hOther : other ∈ read.drop boundary) :
    key other ≤ key row := by
  have hSorted := hRead.latestFirst
  rw [← List.take_append_drop boundary read,
    List.pairwise_append] at hSorted
  exact hSorted.2.2 row hRow other hOther

/- Fewer rows than the boundary are ahead of a row above. -/
theorem OrderedRead.ahead_lt_of_take
    {row : R}
    (hRead : OrderedRead key rows read)
    (hRow : row ∈ read.take boundary) :
    ahead key rows row < boundary := by
  have hAbove :
      (read.take boundary).countP
          (fun other => key row < key other) <
        (read.take boundary).length :=
    List.countP_lt_length_iff.mpr ⟨row, hRow, by simp⟩
  have hBelow :
      (read.drop boundary).countP
          (fun other => key row < key other) = 0 := by
    rw [List.countP_eq_zero]
    intro other hOther
    simpa using hRead.le_of_take_drop hRow hOther
  have hLength := List.length_take_le boundary read
  rw [hRead.ahead_eq boundary row]
  omega

/- More rows than the boundary are not behind one below. -/
theorem OrderedRead.lt_aheadOrTied_of_drop
    {row : R}
    (hRead : OrderedRead key rows read)
    (hRow : row ∈ read.drop boundary) :
    boundary < aheadOrTied key rows row := by
  have hAbove :
      (read.take boundary).countP
          (fun other => key row ≤ key other) =
        (read.take boundary).length := by
    rw [List.countP_eq_length]
    intro other hOther
    simpa using hRead.le_of_take_drop hOther hRow
  have hBelow :
      0 < (read.drop boundary).countP
        (fun other => key row ≤ key other) :=
    List.countP_pos_iff.mpr ⟨row, hRow, by simp⟩
  have hLength :
      (read.take boundary).length = boundary := by
    rw [List.length_take, Nat.min_eq_left]
    have := List.length_pos_of_mem hRow
    rw [List.length_drop] at this
    omega
  rw [hRead.aheadOrTied_eq boundary row]
  omega

/- Where no tie is split, the rows above are determined. -/
theorem take_eq_filter
    (hRead : OrderedRead key rows read)
    (hWhole : ¬ SplitsTie key rows boundary) :
    read.take boundary =
      read.filter (fun row =>
        ahead key rows row < boundary) := by
  have hAbove :
      (read.take boundary).filter (fun row =>
          ahead key rows row < boundary) =
        read.take boundary := by
    rw [List.filter_eq_self]
    intro row hRow
    exact decide_eq_true (hRead.ahead_lt_of_take hRow)
  have hBelow :
      (read.drop boundary).filter (fun row =>
        ahead key rows row < boundary) = [] := by
    rw [List.filter_eq_nil_iff]
    intro row hRow hAhead
    have hMem : row ∈ rows :=
      hRead.perm.mem_iff.mp (List.mem_of_mem_drop hRow)
    exact hWhole ⟨row, hMem, of_decide_eq_true hAhead,
      hRead.lt_aheadOrTied_of_drop hRow⟩
  calc read.take boundary
      = (read.take boundary ++ read.drop boundary).filter
          (fun row => ahead key rows row < boundary) := by
        rw [List.filter_append, hAbove, hBelow,
          List.append_nil]
    _ = read.filter (fun row =>
          ahead key rows row < boundary) := by
        rw [List.take_append_drop]

/- The first pages hold the rows above their last boundary. -/
theorem pages_perm
    {reads : Nat → List R}
    (hReads : ∀ index, OrderedRead key rows (reads index))
    (hWhole : ∀ index, ¬ SplitsTie key rows (index * limit))
    (count : Nat) :
    (pages limit reads count).Perm
      (rows.filter (fun row =>
        ahead key rows row < count * limit)) := by
  induction count with
  | zero => simp [pages]
  | succ count ih =>
      have hTaken :
          ∀ index,
            ((reads count).take (index * limit)).Perm
              (rows.filter (fun row =>
                ahead key rows row < index * limit)) := by
        intro index
        rw [take_eq_filter (hReads count) (hWhole index)]
        exact (hReads count).perm.filter _
      have hSplit :
          (reads count).take ((count + 1) * limit) =
            (reads count).take (count * limit) ++
              page limit (reads count) count := by
        rw [Nat.succ_mul, List.take_add]
        rfl
      have hPages :
          pages limit reads (count + 1) =
            pages limit reads count ++
              page limit (reads count) count := by
        simp [pages, List.range_succ]
      rw [hPages]
      refine ((ih.trans (hTaken count).symm).append_right
        _).trans ?_
      rw [← hSplit]
      exact hTaken (count + 1)

/- Pages that reach the end hold all rows. -/
theorem pages_perm_rows
    {reads : Nat → List R}
    {count : Nat}
    (hReads : ∀ index, OrderedRead key rows (reads index))
    (hWhole : ∀ index, ¬ SplitsTie key rows (index * limit))
    (hCount : rows.length ≤ count * limit) :
    (pages limit reads count).Perm rows := by
  have hAll :
      rows.filter (fun row =>
        ahead key rows row < count * limit) = rows := by
    rw [List.filter_eq_self]
    intro row hRow
    have hAhead : ahead key rows row < rows.length :=
      List.countP_lt_length_iff.mpr ⟨row, hRow, by simp⟩
    exact decide_eq_true (Nat.lt_of_lt_of_le hAhead hCount)
  have hPerm := pages_perm hReads hWhole count
  rwa [hAll] at hPerm

/- All reads show the same keys. -/
theorem OrderedRead.map_key_eq
    {other : List R}
    (hRead : OrderedRead key rows read)
    (hOther : OrderedRead key rows other) :
    read.map key = other.map key := by
  refine List.Perm.eq_of_pairwise
    (fun first second _ _ hFirst hSecond =>
      le_antisymm hSecond hFirst)
    (List.pairwise_map.mpr hRead.latestFirst)
    (List.pairwise_map.mpr hOther.latestFirst)
    ((hRead.perm.trans hOther.perm.symm).map key)

/- The keys of the pages are those of any one read. -/
theorem map_key_pages
    {reads : Nat → List R}
    (hRead : OrderedRead key rows read)
    (hReads : ∀ index, OrderedRead key rows (reads index))
    (count : Nat) :
    (pages limit reads count).map key =
      (read.map key).take (count * limit) := by
  induction count with
  | zero => simp [pages]
  | succ count ih =>
      rw [pages, List.range_succ, List.flatMap_append,
        List.map_append, Nat.succ_mul, List.take_add, ← ih]
      congr 1
      rw [List.flatMap_singleton, page, List.map_take,
        List.map_drop, (hReads count).map_key_eq hRead]

/- Whatever ties do, the latest rows come first. -/
theorem pages_latestFirst
    {reads : Nat → List R}
    (hReads : ∀ index, OrderedRead key rows (reads index))
    (count : Nat) :
    (pages limit reads count).Pairwise (fun row other =>
      key other ≤ key row) := by
  rw [← List.pairwise_map (f := key)
    (R := fun first second => second ≤ first),
    map_key_pages (hReads 0) hReads]
  exact (List.pairwise_map.mpr
    (hReads 0).latestFirst).sublist (List.take_sublist _ _)

end Pages

------------------------------------------------------------
-- Ties Across A Boundary
------------------------------------------------------------

namespace Pages

variable {R K : Type} [LinearOrder K]
variable {key : R → K}
variable {rows read : List R}
variable {limit boundary : Nat}

/- All rows above the last one are at least as late. -/
theorem OrderedRead.le_last
    {above : List R}
    {last row : R}
    (hRead : OrderedRead key rows read)
    (hTake : read.take boundary = above ++ [last])
    (hRow : row ∈ read.take boundary) :
    key last ≤ key row := by
  have hSorted :=
    hRead.latestFirst.sublist (List.take_sublist boundary _)
  rw [hTake] at hSorted hRow
  rcases List.mem_append.mp hRow with hRow | hRow
  · exact (List.pairwise_append.mp hSorted).2.2 row hRow
      last List.mem_cons_self
  · rw [List.mem_singleton.mp hRow]

/- All rows below the first one are at most as late. -/
theorem OrderedRead.first_le
    {first row : R}
    {below : List R}
    (hRead : OrderedRead key rows read)
    (hDrop : read.drop boundary = first :: below)
    (hRow : row ∈ read.drop boundary) :
    key row ≤ key first := by
  have hSorted :=
    hRead.latestFirst.sublist (List.drop_sublist boundary _)
  rw [hDrop] at hSorted hRow
  rcases List.mem_cons.mp hRow with rfl | hRow
  · exact le_refl _
  · exact (List.pairwise_cons.mp hSorted).1 row hRow

/- A boundary that splits a tie has tied rows on its sides. -/
theorem tied_of_splitsTie
    (hRead : OrderedRead key rows read)
    (hSplits : SplitsTie key rows boundary) :
    ∃ above last first below,
      read.take boundary = above ++ [last] ∧
        read.drop boundary = first :: below ∧
        boundary ≤ read.length ∧
        key last = key first := by
  rcases hSplits with ⟨tied, -, hAhead, hBehind⟩
  have hLength : boundary < read.length := by
    rw [hRead.perm.length_eq]
    exact Nat.lt_of_lt_of_le hBehind List.countP_le_length
  have hTaken : (read.take boundary).length = boundary := by
    rw [List.length_take]
    omega
  rcases List.eq_nil_or_concat (read.take boundary) with
    hNil | ⟨above, last, hTake⟩
  · rw [hNil, List.length_nil] at hTaken
    omega
  rw [List.concat_eq_append] at hTake
  rcases List.exists_cons_of_length_pos
      (l := read.drop boundary)
      (by rw [List.length_drop]; omega) with
    ⟨first, below, hDrop⟩
  refine ⟨above, last, first, below, hTake, hDrop,
    Nat.le_of_lt hLength, ?_⟩
  have hLast : key last ≤ key tied := by
    by_contra hLater
    have hAll :
        (read.take boundary).countP
            (fun other => key tied < key other) =
          (read.take boundary).length := by
      rw [List.countP_eq_length]
      intro row hRow
      exact decide_eq_true (lt_of_lt_of_le
        (not_le.mp hLater) (hRead.le_last hTake hRow))
    rw [hRead.ahead_eq boundary tied] at hAhead
    omega
  have hFirst : key tied ≤ key first := by
    by_contra hEarlier
    have hNone :
        (read.drop boundary).countP
          (fun other => key tied ≤ key other) = 0 := by
      rw [List.countP_eq_zero]
      intro row hRow hLate
      exact hEarlier (le_trans (of_decide_eq_true hLate)
        (hRead.first_le hDrop hRow))
    have hSome :=
      List.countP_le_length
        (p := fun other => decide (key tied ≤ key other))
        (l := read.take boundary)
    rw [hRead.aheadOrTied_eq boundary tied] at hBehind
    omega
  have hSides : key first ≤ key last :=
    hRead.le_of_take_drop (hTake ▸ by simp)
      (hDrop ▸ List.mem_cons_self)
  exact le_antisymm (le_trans hLast hFirst) hSides

/- Exchanging two tied neighbours gives another read. -/
theorem OrderedRead.swap
    {above below : List R}
    {row other : R}
    (hRead :
      OrderedRead key rows (above ++ row :: other :: below))
    (hTied : key row = key other) :
    OrderedRead key rows
      (above ++ other :: row :: below) where
  perm :=
    ((List.Perm.swap row other below).append_left
      above).trans hRead.perm
  latestFirst := by
    have hKeys :
        (above ++ other :: row :: below).map key =
          (above ++ row :: other :: below).map key := by
      simp [hTied]
    rw [← List.pairwise_map (f := key)
      (R := fun first second => second ≤ first), hKeys]
    exact List.pairwise_map.mpr hRead.latestFirst

/- A row at a place of the read is on the page around it. -/
theorem mem_page_of_append
    {above below : List R}
    {row : R}
    {index : Nat}
    (hFrom : index * limit ≤ above.length)
    (hTo : above.length < (index + 1) * limit) :
    row ∈ page limit (above ++ row :: below) index := by
  rw [Nat.succ_mul] at hTo
  rw [List.mem_iff_getElem?]
  refine ⟨above.length - index * limit, ?_⟩
  rw [page, List.getElem?_take_of_lt (by omega),
    List.getElem?_drop]
  have hPlace :
      index * limit + (above.length - index * limit) =
        above.length := by
    omega
  rw [hPlace]
  simp

/- A row on two of the pages is repeated. -/
theorem not_nodup_pages
    {reads : Nat → List R}
    {row : R}
    {before after count : Nat}
    (hBefore : row ∈ page limit (reads before) before)
    (hAfter : row ∈ page limit (reads after) after)
    (hOrder : before < after)
    (hCount : after < count) :
    ¬ (pages limit reads count).Nodup := by
  intro hNodup
  rw [pages, List.nodup_flatMap] at hNodup
  have hApart :=
    List.pairwise_iff_getElem.mp hNodup.2 before after
      (by rw [List.length_range]; omega)
      (by rw [List.length_range]; omega) hOrder
  rw [List.getElem_range, List.getElem_range] at hApart
  exact hApart hBefore hAfter

/-
  Where a boundary splits a tie, one read can show on the
  page after it what another has shown on the page before.
-/
theorem exists_repeating_reads
    {index : Nat}
    (hRead : OrderedRead key rows read)
    (hSplits : SplitsTie key rows (index * limit)) :
    ∃ reads : Nat → List R,
      (∀ index, OrderedRead key rows (reads index)) ∧
        ∀ count, index < count →
          ¬ (pages limit reads count).Nodup := by
  rcases tied_of_splitsTie hRead hSplits with
    ⟨above, last, first, below, hTake, hDrop, hLength,
      hTied⟩
  have hAll : read = above ++ last :: first :: below := by
    rw [← List.take_append_drop (index * limit) read, hTake,
      hDrop, List.append_assoc, List.singleton_append]
  have hAbove : above.length + 1 = index * limit := by
    have hTaken := congrArg List.length hTake
    rw [List.length_take, List.length_append,
      List.length_singleton] at hTaken
    omega
  have hSwapped := (hAll ▸ hRead).swap hTied
  refine ⟨Function.update (fun _ => read) index
    (above ++ first :: last :: below), ?_, ?_⟩
  · intro other
    by_cases hOther : other = index
    · rw [hOther, Function.update_self]
      exact hSwapped
    · rw [Function.update_of_ne hOther]
      exact hRead
  · intro count hCount hNodup
    have hPositive : 0 < limit := by
      apply Nat.pos_of_ne_zero
      rintro rfl
      omega
    cases index with
    | zero => omega
    | succ before =>
        rw [Nat.succ_mul] at hAbove
        have hBefore : last ∈ page limit read before := by
          rw [hAll]
          exact mem_page_of_append (by omega)
            (by rw [Nat.succ_mul]; omega)
        have hAfter :
            last ∈ page limit
              (above ++ first :: last :: below)
              (before + 1) := by
          have hPlaced :
              last ∈ page limit
                ((above ++ [first]) ++ last :: below)
                (before + 1) :=
            mem_page_of_append
              (by
                rw [Nat.succ_mul, List.length_append,
                  List.length_singleton]
                omega)
              (by
                rw [Nat.succ_mul, Nat.succ_mul,
                  List.length_append,
                  List.length_singleton]
                omega)
          rwa [List.append_assoc, List.singleton_append]
            at hPlaced
        rw [← Function.update_self (before + 1)
          (above ++ first :: last :: below)
          (fun _ => read)] at hAfter
        rw [← Function.update_of_ne
          (Nat.ne_of_lt (Nat.lt_succ_self before))
          (above ++ first :: last :: below)
          (fun _ => read)] at hBefore
        exact not_nodup_pages hBefore hAfter
          (Nat.lt_succ_self before) hCount hNodup

/-
  Pages that reach the end hold every row once, whatever the
  reads do with ties, if and only if no tie is split.
-/
theorem pages_perm_iff
    {count : Nat}
    (hRows : rows.Nodup)
    (hRead : OrderedRead key rows read)
    (hCount : rows.length ≤ count * limit) :
    (∀ reads : Nat → List R,
      (∀ index, OrderedRead key rows (reads index)) →
        (pages limit reads count).Perm rows) ↔
      ∀ index, ¬ SplitsTie key rows (index * limit) := by
  constructor
  · intro hPages index hSplits
    rcases exists_repeating_reads hRead hSplits with
      ⟨reads, hReads, hRepeats⟩
    have hIndex : index < count := by
      rcases hSplits with ⟨row, -, -, hBehind⟩
      have hShort : index * limit < count * limit :=
        Nat.lt_of_lt_of_le hBehind
          (Nat.le_trans List.countP_le_length hCount)
      exact Nat.lt_of_mul_lt_mul_right hShort
    exact hRepeats count hIndex
      ((hPages reads hReads).nodup_iff.mpr hRows)
  · intro hWhole reads hReads
    exact pages_perm_rows hReads hWhole hCount

end Pages

------------------------------------------------------------
-- Scans
------------------------------------------------------------

namespace Table

variable {R K : Type}

/- The scan that visits the rows of a read in its order. -/
def Scan.toward
    [DecidableEq R]
    (read : List R) : Scan R where
  visit rows := if rows.Perm read then read else rows
  perm := by
    intro rows
    split
    · rename_i hPerm
      exact hPerm.symm
    · exact List.Perm.refl rows

variable [LinearOrder K]
variable {key : R → K}
variable {rows read : List R}

/- A query that orders by the key returns such a read. -/
theorem orderBy_orderedRead
    (scan : Scan R) :
    Pages.OrderedRead key rows
      (orderBy scan (fun row other => key other ≤ key row)
        rows) := by
  have hTotal :
      Std.Total (fun row other : R => key other ≤ key row) :=
    ⟨fun row other => le_total (key other) (key row)⟩
  have hTrans :
      IsTrans R (fun row other => key other ≤ key row) :=
    ⟨fun _ _ _ hFirst hSecond => le_trans hSecond hFirst⟩
  exact
    { perm :=
        (List.perm_insertionSort _ _).trans (scan.perm rows)
      latestFirst := List.pairwise_insertionSort _ _ }

/- Every such read is returned by some scan. -/
theorem orderBy_toward
    [DecidableEq R]
    (hRead : Pages.OrderedRead key rows read) :
    orderBy (Scan.toward read)
        (fun row other => key other ≤ key row) rows =
      read := by
  have hVisit : (Scan.toward read).visit rows = read :=
    if_pos hRead.perm.symm
  unfold orderBy
  rw [hVisit]
  exact hRead.latestFirst.insertionSort_eq

end Table

import PayGuard.Database.Models
import PayGuard.Lib.Aggregates

/-
  The audits of the ledger.

  One compares the two sums of a transaction, one the two
  sums of the whole table, and one looks for unbalanced
  transactions with a grouped sum.

  Key definitions include:
    * `sumByDirection`
    * `ledgerTransactionIsBalanced`
    * `globalLedgerBalance`
    * `findUnbalancedLedgerTransactions`

  Key theorems include:
    * `ledger_audits_agree`
-/

------------------------------------------------------------
-- Audits
------------------------------------------------------------

namespace PayGuard

def sumByDirection
    (ledger : List LedgerEntry)
    (direction : Direction)
    (ledgerTransactionId : Option Uuid := none) : Int :=
  (Table.sumOf (·.amountMinor)
    (ledger.filter (fun entry =>
      entry.direction = direction &&
        ledgerTransactionId.all
          (entry.ledgerTransactionId = ·)))).getD 0

def ledgerTransactionIsBalanced
    (ledger : List LedgerEntry)
    (ledgerTransactionId : Uuid) : Bool :=
  sumByDirection ledger .debit (some ledgerTransactionId) =
    sumByDirection ledger .credit (some ledgerTransactionId)

/- The total debits and the total credits. -/
def globalLedgerBalance
    (ledger : List LedgerEntry) : Int × Int :=
  (sumByDirection ledger .debit,
    sumByDirection ledger .credit)

/- `case((direction == ..., amount_minor), else_=0)`. -/
def LedgerEntry.amountIf
    (direction : Direction)
    (entry : LedgerEntry) : Int :=
  if entry.direction = direction then
    entry.amountMinor
  else
    0

/- The order of the groups is not part of the query. -/
def findUnbalancedLedgerTransactions
    (ledger : List LedgerEntry)
    (scan : Table.Scan Uuid) : List Uuid :=
  ((Table.groupBy scan (·.ledgerTransactionId)
    ledger).filter (fun group =>
      Table.differ
          (Table.sumOf (LedgerEntry.amountIf .debit)
            group.2)
          (Table.sumOf (LedgerEntry.amountIf .credit)
            group.2) =
        some true)).map (·.1)

------------------------------------------------------------
-- Sums
------------------------------------------------------------

variable {ledger : List LedgerEntry}
variable {scan : Table.Scan Uuid}

/- What a direction adds up to over some entries. -/
theorem sum_amountIf
    (direction : Direction)
    (entries : List LedgerEntry) :
    (entries.map (LedgerEntry.amountIf direction)).sum =
      sumByDirection entries direction := by
  unfold sumByDirection
  rw [Table.sumOf_getD, ← Table.sum_map_ite]
  congr 2
  funext entry
  simp [LedgerEntry.amountIf]

theorem sumByDirection_some
    (direction : Direction)
    (id : Uuid) :
    sumByDirection ledger direction (some id) =
      sumByDirection
        (ledger.filter (fun entry =>
          entry.ledgerTransactionId = id)) direction := by
  unfold sumByDirection
  simp [List.filter_filter]

/- The condition of the grouped query, on one group. -/
theorem differ_group_iff
    {id : Uuid}
    (hId : id ∈ ledger.map (·.ledgerTransactionId)) :
    Table.differ
          (Table.sumOf (LedgerEntry.amountIf .debit)
            (ledger.filter (fun entry =>
              entry.ledgerTransactionId = id)))
          (Table.sumOf (LedgerEntry.amountIf .credit)
            (ledger.filter (fun entry =>
              entry.ledgerTransactionId = id))) =
        some true ↔
      ledgerTransactionIsBalanced ledger id = false := by
  have hRows :
      ledger.filter (fun entry =>
        entry.ledgerTransactionId = id) ≠ [] :=
    Table.group_ne_nil .asInserted
      (Table.mem_groupBy.mpr ⟨hId, rfl⟩)
  rw [Table.sumOf_eq_some hRows, Table.sumOf_eq_some hRows,
    sum_amountIf, sum_amountIf]
  unfold ledgerTransactionIsBalanced
  rw [sumByDirection_some, sumByDirection_some]
  simp [Table.differ]

theorem mem_findUnbalancedLedgerTransactions
    {id : Uuid} :
    id ∈ findUnbalancedLedgerTransactions ledger scan ↔
      id ∈ ledger.map (·.ledgerTransactionId) ∧
        ledgerTransactionIsBalanced ledger id = false := by
  unfold findUnbalancedLedgerTransactions
  rw [List.mem_map]
  constructor
  · rintro ⟨⟨value, group⟩, hGroup, rfl⟩
    rw [List.mem_filter, decide_eq_true_eq] at hGroup
    rcases Table.mem_groupBy.mp hGroup.1 with ⟨hId, rfl⟩
    exact ⟨hId, (differ_group_iff hId).mp hGroup.2⟩
  · rintro ⟨hId, hUnbalanced⟩
    refine ⟨(id, ledger.filter (fun entry =>
      entry.ledgerTransactionId = id)), ?_, rfl⟩
    rw [List.mem_filter, decide_eq_true_eq]
    exact ⟨Table.mem_groupBy.mpr ⟨hId, rfl⟩,
      (differ_group_iff hId).mpr hUnbalanced⟩

/- The totals are the sums over the transactions. -/
theorem sumByDirection_groups
    (direction : Direction) :
    ((Table.groupBy .asInserted (·.ledgerTransactionId)
        ledger).map (fun group =>
          sumByDirection group.2 direction)).sum =
      sumByDirection ledger direction := by
  have hGroups :=
    Table.sum_groups .asInserted (·.ledgerTransactionId)
      (LedgerEntry.amountIf direction) ledger
  simp only [sum_amountIf] at hGroups
  exact hGroups

/- Where every transaction is balanced, the ledger is. -/
theorem globalLedgerBalance_of_balanced
    (hBalanced :
      ∀ id ∈ ledger.map (·.ledgerTransactionId),
        ledgerTransactionIsBalanced ledger id = true) :
    (globalLedgerBalance ledger).1 =
      (globalLedgerBalance ledger).2 := by
  unfold globalLedgerBalance
  simp only
  rw [← sumByDirection_groups .debit,
    ← sumByDirection_groups .credit]
  congr 1
  apply List.map_congr_left
  rintro ⟨id, group⟩ hGroup
  rcases Table.mem_groupBy.mp hGroup with ⟨hId, rfl⟩
  have hSame := hBalanced id hId
  unfold ledgerTransactionIsBalanced at hSame
  rw [decide_eq_true_eq, sumByDirection_some,
    sumByDirection_some] at hSame
  exact hSame

/-
  The grouped audit returns each unbalanced transaction
  once, and nothing else; where it returns none, the two
  totals agree.
-/
theorem ledger_audits_agree
    (ledger : List LedgerEntry)
    (scan : Table.Scan Uuid) :
    (findUnbalancedLedgerTransactions ledger scan).Nodup ∧
      (∀ id,
        id ∈ findUnbalancedLedgerTransactions ledger scan ↔
          id ∈ ledger.map (·.ledgerTransactionId) ∧
            ledgerTransactionIsBalanced ledger id =
              false) ∧
        (findUnbalancedLedgerTransactions ledger scan = [] →
          (globalLedgerBalance ledger).1 =
            (globalLedgerBalance ledger).2) := by
  refine ⟨?_, ?_, ?_⟩
  · exact Table.nodup_groupBy.sublist
      (List.filter_sublist.map _)
  · intro id
    exact mem_findUnbalancedLedgerTransactions
  · intro hNone
    apply globalLedgerBalance_of_balanced
    intro id hId
    rw [← Bool.not_eq_false]
    intro hUnbalanced
    have hMem :
        id ∈ findUnbalancedLedgerTransactions ledger scan :=
      mem_findUnbalancedLedgerTransactions.mpr
        ⟨hId, hUnbalanced⟩
    rw [hNone] at hMem
    cases hMem

/- A debit without its credit is found. -/
example :
    findUnbalancedLedgerTransactions
        [⟨1, 7, .merchantReceivable, .debit, 100⟩,
          ⟨1, 7, .paymentClearing, .credit, 100⟩,
          ⟨1, 8, .refundLiability, .debit, 40⟩]
        .asInserted = [8] := by decide

end PayGuard

import PayGuard.Invariants.Accounts
import PayGuard.Ledger.Invariants

/-
  The audits while payments go on.

  Each audit that compares two sums reads them in two
  statements, and a transaction may commit in between.  Such
  a torn read never invents a debit: it misses the debits
  of what was committed in between and counts the credits.

  Key definitions include:
    * `tornLedgerBalance`
    * `tornTransactionIsBalanced`

  Key theorems include:
    * `Paired.added_filter`
    * `sumByDirection_eq_iff`
    * `audits_see_committed_writes`
-/

------------------------------------------------------------
-- Torn Reads
------------------------------------------------------------

namespace PayGuard

/-
  The two sums of `global_ledger_balance`, each read from
  the rows that were committed when its statement started.
-/
def tornLedgerBalance
    (ledger later : List LedgerEntry) : Int × Int :=
  (sumByDirection ledger .debit,
    sumByDirection later .credit)

def tornTransactionIsBalanced
    (ledger later : List LedgerEntry)
    (ledgerTransactionId : Uuid) : Bool :=
  sumByDirection ledger .debit (some ledgerTransactionId) =
    sumByDirection later .credit (some ledgerTransactionId)

/- Nothing commits in between. -/
theorem tornLedgerBalance_self
    (ledger : List LedgerEntry) :
    tornLedgerBalance ledger ledger =
      globalLedgerBalance ledger := rfl

theorem tornTransactionIsBalanced_self
    (ledger : List LedgerEntry)
    (id : Uuid) :
    tornTransactionIsBalanced ledger ledger id =
      ledgerTransactionIsBalanced ledger id := rfl

variable {ledger later added : List LedgerEntry}
variable {id : Uuid}

theorem sumByDirection_eq_total
    (direction : Direction) :
    sumByDirection ledger direction =
      total direction ledger := by
  unfold sumByDirection total Table.sumWhere
  rw [Table.sumOf_getD]
  simp

theorem sumByDirection_append
    (direction : Direction) :
    sumByDirection (ledger ++ added) direction =
      sumByDirection ledger direction +
        sumByDirection added direction := by
  simp only [sumByDirection_eq_total]
  exact Table.sumWhere_append _ _

theorem sumByDirection_nonneg
    (hPositive : ∀ entry ∈ ledger, 0 < entry.amountMinor)
    (direction : Direction) :
    0 ≤ sumByDirection ledger direction := by
  rw [sumByDirection_eq_total]
  apply List.sum_nonneg
  intro amount hAmount
  rcases List.mem_map.mp hAmount with ⟨entry, hEntry, rfl⟩
  exact (hPositive entry (List.mem_of_mem_filter hEntry)).le

/- An entry shows in the sum of its direction. -/
theorem sumByDirection_pos
    {entry : LedgerEntry}
    (hPositive : ∀ entry ∈ ledger, 0 < entry.amountMinor)
    (hEntry : entry ∈ ledger) :
    0 < sumByDirection ledger entry.direction := by
  have hAmount := hPositive entry hEntry
  have hShare :
      entry.amountMinor ≤
        sumByDirection ledger entry.direction := by
    rw [sumByDirection_eq_total]
    apply List.single_le_sum
    · intro amount hListed
      rcases List.mem_map.mp hListed with ⟨other, hOther, rfl⟩
      exact (hPositive other
        (List.mem_of_mem_filter hOther)).le
    · apply List.mem_map_of_mem
      rw [List.mem_filter]
      simp [hEntry]
  omega

/-
  Entries that balance and are positive add nothing to the
  debits only where there are none.
-/
theorem sumByDirection_eq_iff
    (hPositive : ∀ entry ∈ added, 0 < entry.amountMinor)
    (hBalanced :
      sumByDirection added .debit =
        sumByDirection added .credit) :
    sumByDirection added .credit = 0 ↔ added = [] := by
  constructor
  · intro hZero
    rw [List.eq_nil_iff_forall_not_mem]
    intro entry hEntry
    have hSum := sumByDirection_pos hPositive hEntry
    cases hDirection : entry.direction with
    | debit =>
        rw [hDirection, hBalanced, hZero] at hSum
        exact lt_irrefl _ hSum
    | credit =>
        rw [hDirection, hZero] at hSum
        exact lt_irrefl _ hSum
  · rintro rfl
    rfl

------------------------------------------------------------
-- Paired Ledgers
------------------------------------------------------------

/- A balanced transaction passes the audit. -/
theorem Paired.isBalanced
    (hPaired : Paired ledger)
    (id : Uuid) :
    ledgerTransactionIsBalanced ledger id = true := by
  unfold ledgerTransactionIsBalanced
  rw [decide_eq_true_eq, sumByDirection_some,
    sumByDirection_some]
  by_cases hId :
      ∃ entry ∈ ledger, entry.ledgerTransactionId = id
  · rcases hId with ⟨entry, hEntry, rfl⟩
    rcases hPaired entry hEntry with
      ⟨debit, credit, hFilter, hBalances⟩
    rw [hFilter, sumByDirection_eq_total,
      sumByDirection_eq_total]
    simp [total, Table.sumWhere, hBalances.debited,
      hBalances.credited, hBalances.amount]
  · have hNone :
        ledger.filter (fun entry =>
          entry.ledgerTransactionId = id) = [] := by
      rw [List.filter_eq_nil_iff]
      intro entry hEntry
      simp only [decide_eq_true_eq]
      intro hSame
      exact hId ⟨entry, hEntry, hSame⟩
    rw [hNone]
    rfl

/- A transaction is not added to. -/
theorem Paired.added_filter
    (hBefore : Paired ledger)
    (hAfter : Paired (ledger ++ added))
    (hId : id ∈ ledger.map (·.ledgerTransactionId)) :
    (ledger ++ added).filter (fun entry =>
        entry.ledgerTransactionId = id) =
      ledger.filter (fun entry =>
        entry.ledgerTransactionId = id) := by
  rcases List.mem_map.mp hId with ⟨entry, hEntry, rfl⟩
  rcases hBefore entry hEntry with
    ⟨debit, credit, hFilter, _⟩
  rcases hAfter entry (List.mem_append_left _ hEntry) with
    ⟨debit', credit', hFilter', _⟩
  have hLength := congrArg List.length hFilter'
  rw [List.filter_append, hFilter] at hLength ⊢
  simp only [List.length_append, List.length_cons,
    List.length_nil] at hLength
  have hNone :
      (added.filter (fun other =>
        other.ledgerTransactionId =
          entry.ledgerTransactionId)).length = 0 := by
    omega
  rw [List.length_eq_zero_iff.mp hNone, List.append_nil]

/- No entry of the transaction, no sum. -/
theorem sumByDirection_of_absent
    (hId : id ∉ ledger.map (·.ledgerTransactionId))
    (direction : Direction) :
    sumByDirection ledger direction (some id) = 0 := by
  rw [sumByDirection_some,
    filter_ledgerTransaction_of_fresh hId]
  rfl

/-
  The audit of a transaction is wrong about the transactions
  committed after its first statement, and about no other.
-/
theorem Paired.torn_iff
    (hBefore : Paired ledger)
    (hAfter : Paired (ledger ++ added))
    (hPositive :
      ∀ entry ∈ ledger ++ added, 0 < entry.amountMinor)
    (id : Uuid) :
    tornTransactionIsBalanced ledger (ledger ++ added) id =
        false ↔
      id ∉ ledger.map (·.ledgerTransactionId) ∧
        id ∈ added.map (·.ledgerTransactionId) := by
  unfold tornTransactionIsBalanced
  rw [decide_eq_false_iff_not]
  by_cases hOld : id ∈ ledger.map (·.ledgerTransactionId)
  · have hSame := hBefore.isBalanced id
    unfold ledgerTransactionIsBalanced at hSame
    rw [decide_eq_true_eq] at hSame
    rw [sumByDirection_some .credit,
      hBefore.added_filter hAfter hOld, hSame,
      ← sumByDirection_some]
    simp [hOld]
  · rw [sumByDirection_of_absent hOld]
    by_cases hNew : id ∈ added.map (·.ledgerTransactionId)
    · rcases List.mem_map.mp hNew with ⟨entry, hEntry, rfl⟩
      rcases hAfter entry
          (List.mem_append_right _ hEntry) with
        ⟨debit, credit, hFilter, hBalances⟩
      have hCredit :
          credit ∈ (ledger ++ added).filter (fun other =>
            other.ledgerTransactionId =
              entry.ledgerTransactionId) := by
        rw [hFilter]
        simp
      have hSum :=
        sumByDirection_pos (fun other hOther =>
          hPositive other (List.mem_of_mem_filter hOther))
          hCredit
      rw [hBalances.credited, ← sumByDirection_some] at hSum
      simp only [hOld, hNew, not_false_eq_true, and_self,
        iff_true]
      omega
    · rw [sumByDirection_of_absent]
      · simp [hNew]
      · rw [List.map_append, List.mem_append]
        exact not_or.mpr ⟨hOld, hNew⟩

end PayGuard

------------------------------------------------------------
-- Every Run
------------------------------------------------------------

namespace PayGuard

/-
  However a run goes on, its audits find nothing between
  transactions.  Where the run goes on between the two
  statements of an audit, the credits exceed the debits by
  what was booked in between: nothing, exactly where the
  ledger is still the same, and the audit of a transaction
  complains exactly about one booked in between.
-/
theorem audits_see_committed_writes
    (config : Config)
    (labels more : List Label)
    (system later : System)
    (hRun :
      Lts.exec (step config) {} labels = some system)
    (hMore :
      Lts.exec (step config) system more = some later)
    (scan : Table.Scan Uuid) :
    findUnbalancedLedgerTransactions system.db.ledger
        scan = [] ∧
      ∃ added,
        later.db.ledger = system.db.ledger ++ added ∧
        (tornLedgerBalance system.db.ledger
            later.db.ledger).2 =
          (tornLedgerBalance system.db.ledger
            later.db.ledger).1 +
            sumByDirection added .debit ∧
        0 ≤ sumByDirection added .debit ∧
        (sumByDirection added .debit = 0 ↔ added = []) ∧
        ∀ id,
          tornTransactionIsBalanced system.db.ledger
              later.db.ledger id = false ↔
            id ∉ system.db.ledger.map
                (·.ledgerTransactionId) ∧
              id ∈ added.map (·.ledgerTransactionId) := by
  have hBefore := solvent_of_exec hRun
  have hAfter :=
    solvent_of_exec
      (Lts.exec_append_eq_some.mpr ⟨system, hRun, hMore⟩)
  rcases (extends_of_exec hMore).ledger with ⟨added, hLedger⟩
  have hPositive := hAfter.funded.entries
  have hPaired := hAfter.ledger.paired
  have hTotals := hAfter.ledger.balanced
  rw [← hLedger] at hPositive hPaired hTotals
  -- both ledgers balance, so the entries in between do
  have hAdded :
      sumByDirection added .debit =
        sumByDirection added .credit := by
    have hFirst := hBefore.ledger.balanced
    simp only [← sumByDirection_eq_total,
      sumByDirection_append] at hFirst hTotals
    omega
  have hAddedPositive :
      ∀ entry ∈ added, 0 < entry.amountMinor :=
    fun entry hEntry =>
      hPositive entry (List.mem_append_right _ hEntry)
  refine ⟨?_, added, hLedger.symm, ?_, ?_, ?_, ?_⟩
  · rw [List.eq_nil_iff_forall_not_mem]
    intro id hId
    have hFalse :=
      (mem_findUnbalancedLedgerTransactions.mp hId).2
    rw [hBefore.ledger.paired.isBalanced id] at hFalse
    cases hFalse
  · rw [← hLedger]
    unfold tornLedgerBalance
    have hFirst := hBefore.ledger.balanced
    rw [← sumByDirection_eq_total,
      ← sumByDirection_eq_total] at hFirst
    rw [sumByDirection_append, hFirst, hAdded]
  · exact sumByDirection_nonneg hAddedPositive .debit
  · rw [hAdded]
    exact sumByDirection_eq_iff hAddedPositive hAdded
  · intro id
    rw [← hLedger]
    exact hBefore.ledger.paired.torn_iff hPaired hPositive id

/- The capture of payment 1, as steps of their own. -/
def capturesPayment : List Label :=
  capturedRun.drop authorizedRun.length

theorem audits_see_committed_writes_captured :
    ∃ system later : System,
      Lts.exec (step { sha256 := spellOut }) {}
          authorizedRun = some system ∧
        Lts.exec (step { sha256 := spellOut }) system
          capturesPayment = some later ∧
        tornLedgerBalance system.db.ledger
          later.db.ledger = (0, 100) ∧
        ∃ added,
          later.db.ledger = system.db.ledger ++ added ∧
            (tornLedgerBalance system.db.ledger
                later.db.ledger).2 =
              (tornLedgerBalance system.db.ledger
                later.db.ledger).1 +
                sumByDirection added .debit := by
  have hRun :
      (Lts.exec (step { sha256 := spellOut }) {}
        authorizedRun).map (fun system =>
          (Lts.exec (step { sha256 := spellOut }) system
            capturesPayment).map (fun later =>
              tornLedgerBalance system.db.ledger
                later.db.ledger)) =
        some (some (0, 100)) := by
    decide +kernel
  rcases Option.map_eq_some_iff.mp hRun with
    ⟨system, hExec, hRest⟩
  rcases Option.map_eq_some_iff.mp hRest with
    ⟨later, hMore, hTorn⟩
  rcases (audits_see_committed_writes _ _ _ system later
      hExec hMore .asInserted).2 with
    ⟨added, hLedger, hSums, _⟩
  exact ⟨system, later, hExec, hMore, hTorn, added, hLedger,
    hSums⟩

end PayGuard

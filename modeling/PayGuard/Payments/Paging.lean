import PayGuard.Lib.Pages
import PayGuard.Payments.Queries

/-
  The pages of a listing, read one after the other.

  The rows of a page are ordered by their creation time
  alone, so each query may order payments of one instant its
  own way.  A caller that asks for all pages sees each of
  its payments once where no page ends between two of them.

  Key definitions include:
    * `listAllPages`
    * `PagesComplete`

  Key theorems include:
    * `listAllPages_eq`
    * `paging_complete_iff`
    * `paging_repeats_a_payment`
-/

------------------------------------------------------------
-- All Pages
------------------------------------------------------------

namespace PayGuard

/- Offsets 0, `limit`, `2 * limit` and so on to the total. -/
def listAllPages
    (db : Database)
    (scans : Nat → Table.Scan PaymentIntent)
    (merchantId : Uuid)
    (status : Option String)
    (limit : Int) : Except Failure (List PaymentPage) :=
  let total := (listedPayments db merchantId status).length
  (List.range (total / limit.toNat + 1)).mapM (fun index =>
    listPayments db (scans index) merchantId status limit
      (index * limit))

/-
  However the queries order payments of one instant, the
  pages hold every matching payment once, newest first, and
  each of them reports how many there are.
-/
def PagesComplete
    (db : Database)
    (merchantId : Uuid)
    (status : Option String)
    (limit : Int) : Prop :=
  ∀ scans : Nat → Table.Scan PaymentIntent,
    ∃ pages,
      listAllPages db scans merchantId status limit =
          .ok pages ∧
        (∀ page ∈ pages,
          page.total =
            (listedPayments db merchantId status).length) ∧
        (pages.flatMap (·.items)).Perm
          (listedPayments db merchantId status) ∧
        (pages.flatMap (·.items)).Pairwise
          (fun row other => other.createdAt ≤ row.createdAt)

variable {db : Database}
variable {merchantId : Uuid}
variable {status : Option String}
variable {limit : Int}

/- What the query of one page returns before it is cut. -/
def orderedPayments
    (db : Database)
    (scan : Table.Scan PaymentIntent)
    (merchantId : Uuid)
    (status : Option String) : List PaymentIntent :=
  Table.orderBy scan
    (fun row other => other.createdAt ≤ row.createdAt)
    (listedPayments db merchantId status)

/- A page is cut out of the ordered rows. -/
theorem listPayments_eq
    (hLimit : 1 ≤ limit)
    (scan : Table.Scan PaymentIntent)
    (index : Nat) :
    listPayments db scan merchantId status limit
        (index * limit) =
      .ok
        { items :=
            Pages.page limit.toNat
              (orderedPayments db scan merchantId status)
              index
          total :=
            (listedPayments db merchantId status).length } := by
  have hOffset : 0 ≤ (index : Int) * limit :=
    Int.mul_nonneg (Int.natCast_nonneg index) (by omega)
  have hNat :
      ((index : Int) * limit).toNat =
        index * limit.toNat := by
    rw [Int.toNat_mul (Int.natCast_nonneg index) (by omega),
      Int.toNat_natCast]
  unfold listPayments
  rw [if_neg (by omega), hNat]
  rfl

theorem listAllPages_eq
    (hLimit : 1 ≤ limit)
    (scans : Nat → Table.Scan PaymentIntent) :
    listAllPages db scans merchantId status limit =
      .ok ((List.range
          ((listedPayments db merchantId status).length /
            limit.toNat + 1)).map (fun index =>
        { items :=
            Pages.page limit.toNat
              (orderedPayments db (scans index) merchantId
                status)
              index
          total :=
            (listedPayments db merchantId
              status).length })) := by
  unfold listAllPages
  simp only [listPayments_eq hLimit]
  exact List.mapM_pure

/- The items of all pages are the pages of the reads. -/
theorem flatMap_items_eq
    (scans : Nat → Table.Scan PaymentIntent)
    (count : Nat) :
    ((List.range count).map (fun index =>
        ({ items :=
            Pages.page limit.toNat
              (orderedPayments db (scans index) merchantId
                status)
              index
           total :=
            (listedPayments db merchantId status).length } :
          PaymentPage))).flatMap (·.items) =
      Pages.pages limit.toNat
        (fun index =>
          orderedPayments db (scans index) merchantId status)
        count := by
  rw [List.flatMap_map]
  rfl

/-
  The pages are complete if and only if no page ends between
  two payments of one instant.
-/
theorem paging_complete_iff
    (db : Database)
    (merchantId : Uuid)
    (status : Option String)
    (limit : Int)
    (hIds : (db.payments.map (·.id)).Nodup)
    (hLimit : 1 ≤ limit) :
    PagesComplete db merchantId status limit ↔
      ∀ index,
        ¬ Pages.SplitsTie (·.createdAt)
          (listedPayments db merchantId status)
          (index * limit.toNat) := by
  have hRows : (listedPayments db merchantId status).Nodup :=
    (List.Nodup.of_map _ hIds).filter _
  have hReads :
      ∀ scan : Table.Scan PaymentIntent,
        Pages.OrderedRead (·.createdAt)
          (listedPayments db merchantId status)
          (orderedPayments db scan merchantId status) :=
    fun scan => Table.orderBy_orderedRead scan
  have hPositive : 0 < limit.toNat := by omega
  have hCount :
      (listedPayments db merchantId status).length ≤
        ((listedPayments db merchantId status).length /
          limit.toNat + 1) * limit.toNat := by
    rw [Nat.mul_comm]
    exact Nat.le_of_lt
      (Nat.lt_mul_div_succ _ hPositive)
  rw [← Pages.pages_perm_iff hRows (hReads .asInserted)
    hCount]
  constructor
  · intro hComplete reads hOrdered
    rcases hComplete (fun index => .toward (reads index))
      with ⟨pages, hPages, -, hPerm, -⟩
    rw [listAllPages_eq hLimit] at hPages
    cases hPages
    rw [flatMap_items_eq] at hPerm
    have hSame :
        (fun index =>
          orderedPayments db (.toward (reads index))
            merchantId status) = reads := by
      funext index
      exact Table.orderBy_toward (hOrdered index)
    rwa [hSame] at hPerm
  · intro hPages scans
    refine ⟨_, listAllPages_eq hLimit scans, ?_, ?_, ?_⟩
    · intro page hPage
      rcases List.mem_map.mp hPage with ⟨index, -, rfl⟩
      rfl
    · rw [flatMap_items_eq]
      exact hPages _ (fun index => hReads (scans index))
    · rw [flatMap_items_eq]
      exact Pages.pages_latestFirst
        (fun index => hReads (scans index)) _

def paymentAt
    (id : Uuid)
    (createdAt : Timestamp) : PaymentIntent where
  id := id
  merchantId := 1
  amountMinor := 100
  currency := "USD"
  merchantReference := none
  status := .created
  createdAt := createdAt

/- Two payments of one instant and a later one. -/
def threePayments : Database :=
  { payments :=
      [paymentAt 1 0, paymentAt 2 0, paymentAt 3 5] }

/- One page of three splits no tie. -/
theorem paging_complete_iff_three :
    ¬ Pages.SplitsTie (·.createdAt)
        (listedPayments threePayments 1 none) 3 ∧
      PagesComplete threePayments 1 none 3 := by
  refine ⟨by decide +kernel, ?_⟩
  refine (paging_complete_iff threePayments 1 none 3
    (by decide +kernel) (by decide)).mpr ?_
  intro index
  rcases index with _ | index
  · decide +kernel
  · rintro ⟨row, -, -, hBehind⟩
    have hLength :
        Pages.aheadOrTied (·.createdAt)
            (listedPayments threePayments 1 none) row ≤ 3 :=
      List.countP_le_length
    have hThree : (3 : Int).toNat = 3 := rfl
    rw [hThree, Nat.succ_mul] at hBehind
    omega

/- Pages of one, the second read with the tie turned. -/
def turnedScans (index : Nat) : Table.Scan PaymentIntent :=
  if index = 2 then
    .toward [paymentAt 3 5, paymentAt 2 0, paymentAt 1 0]
  else
    .toward [paymentAt 3 5, paymentAt 1 0, paymentAt 2 0]

/- They show payment 1 twice and never payment 2. -/
theorem paging_repeats_a_payment :
    ¬ ∀ (db : Database) (merchantId : Uuid)
        (status : Option String) (limit : Int),
        (db.payments.map (·.id)).Nodup →
          1 ≤ limit →
            PagesComplete db merchantId status limit := by
  intro hClaim
  rcases hClaim threePayments 1 none 1 (by decide +kernel)
      (by decide) turnedScans with
    ⟨pages, hPages, -, hPerm, -⟩
  have hShown :
      listAllPages threePayments turnedScans 1 none 1 =
        .ok
          [⟨[paymentAt 3 5], 3⟩, ⟨[paymentAt 1 0], 3⟩,
            ⟨[paymentAt 1 0], 3⟩, ⟨[], 3⟩] := by
    decide +kernel
  rw [hShown] at hPages
  cases hPages
  exact absurd hPerm (by decide +kernel)

end PayGuard

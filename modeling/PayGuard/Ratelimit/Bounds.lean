import PayGuard.Lib.Runs
import PayGuard.Lib.TokenBucket
import PayGuard.Ratelimit.Service

/-
  How many calls the rate limiter lets through.

  As long as the clocks of the callers do not run backwards
  the stored bucket stands for an ideal one that refills all
  the time and is never forgotten.  A clock that is behind
  sets `last_refill` back, and the time after it is credited
  a second time.

  Key definitions include:
    * `ClocksInOrder`
    * `DropsLate`
    * `StandsFor`
    * `Transparent`

  Key theorems include:
    * `serveArrival_standsFor`
    * `bucketDecisions_eq`
    * `script_matches_ideal_bucket`
    * `rate_limit_holds_in_order`
-/

------------------------------------------------------------
-- Clocks And Expiry
------------------------------------------------------------

namespace PayGuard

open Lts TokenBucket

/-
  The call's clock is not behind the stored one.  Where the
  key is gone, it is also late enough for a full bucket.
-/
def Bucket.precedes
    (limit : Limit)
    (bucket : Bucket)
    (arrival : Arrival) : Prop :=
  if arrival.dropped then
    bucket.lastRefill +
        limit.capacity / limit.refillPerSecond ≤
      arrival.now
  else
    bucket.lastRefill ≤ arrival.now

instance
    (limit : Limit)
    (bucket : Bucket)
    (arrival : Arrival) :
    Decidable (bucket.precedes limit arrival) := by
  unfold Bucket.precedes
  infer_instance

/- The same of whatever is stored. -/
def Follows
    (limit : Limit)
    (stored : Option Bucket)
    (arrival : Arrival) : Prop :=
  ∀ bucket ∈ stored, bucket.precedes limit arrival

instance
    (limit : Limit)
    (stored : Option Bucket)
    (arrival : Arrival) :
    Decidable (Follows limit stored arrival) := by
  unfold Follows
  infer_instance

/- The merchant's bucket is not ahead of the call. -/
def ClocksInOrder
    (settings : RateLimitSettings)
    (redis : Redis)
    (call : RateLimitCall) : Prop :=
  Follows settings.limit (redis.bucket call.merchantId)
    call.arrival

instance
    (settings : RateLimitSettings)
    (redis : Redis)
    (call : RateLimitCall) :
    Decidable (ClocksInOrder settings redis call) := by
  unfold ClocksInOrder
  infer_instance

/- Redis drops a key only past its time to live. -/
def DropsLate
    (stored : Option Bucket)
    (arrival : Arrival) : Prop :=
  arrival.dropped = true →
    ∀ bucket ∈ stored,
      bucket.lastRefill + bucket.ttlSeconds ≤ arrival.now

instance
    (stored : Option Bucket)
    (arrival : Arrival) :
    Decidable (DropsLate stored arrival) := by
  unfold DropsLate
  infer_instance

end PayGuard

------------------------------------------------------------
-- One Call
------------------------------------------------------------

namespace PayGuard

open Lts TokenBucket

/- The tokens the script finds before it takes one. -/
def availableTokens
    (limit : Limit)
    (stored : Option Bucket)
    (now : ℚ) : ℚ :=
  match stored with
  | none =>
      refill limit.capacity limit.refillPerSecond
        limit.capacity 0
  | some bucket =>
      refill limit.capacity limit.refillPerSecond
        bucket.tokens (max 0 (now - bucket.lastRefill))

variable {limit : Limit}
variable {stored : Option Bucket}
variable {bucket : Bucket}
variable {arrival : Arrival}
variable {now : ℚ}

theorem availableTokens_le :
    availableTokens limit stored now ≤ limit.capacity := by
  cases stored with
  | none => exact refill_le
  | some bucket => exact refill_le

theorem tokenBucketScript_eq :
    tokenBucketScript limit stored now =
      if 1 ≤ availableTokens limit stored now then
        (⟨availableTokens limit stored now - 1, now,
          ttlSeconds limit⟩, true)
      else
        (⟨availableTokens limit stored now, now,
          ttlSeconds limit⟩, false) := by
  cases stored with
  | none => simp [tokenBucketScript, availableTokens, refill]
  | some bucket => rfl

theorem serveArrival_eq :
    serveArrival limit stored arrival =
      if 1 ≤ availableTokens limit (arrival.found stored)
          arrival.now then
        (⟨availableTokens limit (arrival.found stored)
          arrival.now - 1, arrival.now, ttlSeconds limit⟩,
          true)
      else
        (⟨availableTokens limit (arrival.found stored)
          arrival.now, arrival.now, ttlSeconds limit⟩,
          false) :=
  tokenBucketScript_eq

theorem serveArrival_lastRefill :
    (serveArrival limit stored arrival).1.lastRefill =
      arrival.now := by
  rw [serveArrival_eq]
  split <;> rfl

theorem serveArrival_ttlSeconds :
    (serveArrival limit stored arrival).1.ttlSeconds =
      ttlSeconds limit := by
  rw [serveArrival_eq]
  split <;> rfl

theorem Arrival.mem_found
    (hBucket : bucket ∈ arrival.found stored) :
    arrival.dropped = false ∧ bucket ∈ stored := by
  unfold Arrival.found at hBucket
  split at hBucket
  · cases hBucket
  · rename_i hKept
    exact ⟨Bool.not_eq_true _ ▸ hKept, hBucket⟩

section

variable (hCapacity : 1 ≤ limit.capacity)
variable (hRefill : 0 < limit.refillPerSecond)

include hCapacity hRefill

/- The stored tokens stay within the capacity. -/
theorem serveArrival_tokens
    (hStored : ∀ bucket ∈ stored, 0 ≤ bucket.tokens) :
    0 ≤ (serveArrival limit stored arrival).1.tokens ∧
      (serveArrival limit stored arrival).1.tokens ≤
        limit.capacity := by
  have hPositive : 0 ≤ limit.capacity :=
    zero_le_one.trans hCapacity
  have hFound :
      0 ≤ availableTokens limit (arrival.found stored)
        arrival.now := by
    cases hCase : arrival.found stored with
    | none =>
        exact refill_nonneg hPositive hRefill.le hPositive
          le_rfl
    | some bucket =>
        exact refill_nonneg hPositive hRefill.le
          (hStored bucket (Arrival.mem_found hCase).2)
          (le_max_left _ _)
  rw [serveArrival_eq]
  split
  · rename_i hToken
    constructor
    · exact sub_nonneg.mpr hToken
    · exact (sub_le_self _ zero_le_one).trans
        availableTokens_le
  · exact ⟨hFound, availableTokens_le⟩

end

------------------------------------------------------------
-- The Ideal Bucket
------------------------------------------------------------

/-
  What is stored determines the level from its last write
  on.  A key Redis never held is a full bucket.
-/
def StandsFor
    (limit : Limit)
    (stored : Option Bucket)
    (level : Level limit.capacity limit.refillPerSecond) :
    Prop :=
  match stored with
  | none => ∀ time, level.amount time = limit.capacity
  | some bucket =>
      0 ≤ bucket.tokens ∧
        level.Holds bucket.tokens bucket.lastRefill

section

variable {level : Level limit.capacity limit.refillPerSecond}

/- A full bucket stays full while nobody takes from it. -/
theorem holds_capacity
    {since : ℚ}
    (hRefill : 0 < limit.refillPerSecond)
    (hFull :
      ∀ time,
        since ≤ time → level.amount time = limit.capacity) :
    level.Holds limit.capacity since := by
  intro time hTime
  rw [hFull time hTime]
  have hGain :
      0 ≤ (time - since) * limit.refillPerSecond :=
    mul_nonneg (sub_nonneg.mpr hTime) hRefill.le
  exact (min_eq_left (le_add_of_nonneg_right hGain)).symm

theorem availableTokens_none :
    availableTokens limit none now = limit.capacity := by
  simp [availableTokens, refill]

/- A call in order finds what the ideal bucket holds. -/
theorem availableTokens_holds
    (hRefill : 0 < limit.refillPerSecond)
    (hFollows : Follows limit stored arrival)
    (hStands : StandsFor limit stored level) :
    level.Holds
      (availableTokens limit (arrival.found stored)
        arrival.now)
      arrival.now := by
  cases stored with
  | none =>
      have hNone : arrival.found none = none := by
        unfold Arrival.found
        split <;> rfl
      rw [hNone, availableTokens_none]
      exact holds_capacity hRefill (fun time _ => hStands time)
  | some bucket =>
      rcases hStands with ⟨hTokens, hHolds⟩
      have hPrecedes := hFollows bucket rfl
      unfold Bucket.precedes at hPrecedes
      unfold Arrival.found
      split at hPrecedes
      · rename_i hDropped
        -- by now the forgotten bucket would be full again
        rw [if_pos hDropped, availableTokens_none]
        apply holds_capacity hRefill
        intro time hTime
        have hWait :
            limit.capacity / limit.refillPerSecond ≤
              time - bucket.lastRefill := by
          linarith
        have hNonneg :
            0 ≤ limit.capacity / limit.refillPerSecond :=
          div_nonneg
            ((level.nonneg time).trans
              (level.le_capacity time)) hRefill.le
        rw [hHolds time
            (sub_nonneg.mp (hNonneg.trans hWait)),
          refill_of_long hRefill hTokens hWait]
      · rename_i hKept
        rw [if_neg hKept, availableTokens,
          max_eq_right (sub_nonneg.mpr hPrecedes)]
        exact hHolds.later hRefill.le hPrecedes

/-
  The answers of the script are those of the ideal bucket,
  call by call.
-/
theorem bucketDecisions_eq
    (hRefill : 0 < limit.refillPerSecond)
    (arrivals : List Arrival)
    (hMeets :
      Meets (bucketStep limit) (Follows limit) stored
        arrivals)
    (hStands : StandsFor limit stored level) :
    bucketDecisions limit stored arrivals =
      level.decisions hRefill.le
        (arrivals.map (·.now)) := by
  induction arrivals generalizing stored level with
  | nil => rfl
  | cons arrival arrivals ih =>
      rcases hMeets with ⟨hFollows, hRest⟩
      have hHolds :=
        availableTokens_holds hRefill hFollows hStands
      have hAmount :
          availableTokens limit (arrival.found stored)
              arrival.now = level.amount arrival.now := by
        rw [hHolds arrival.now le_rfl, sub_self,
          refill_zero availableTokens_le]
      rw [bucketDecisions, List.map_cons, Level.decisions]
      simp only [bucketStep] at hRest
      rw [serveArrival_eq] at hRest ⊢
      by_cases hToken : 1 ≤ level.amount arrival.now
      · rw [hAmount, if_pos hToken] at hRest ⊢
        rw [dif_pos hToken, ih hRest]
        exact ⟨sub_nonneg.mpr hToken,
          level.take_holds hRefill.le arrival.now hToken⟩
      · rw [hAmount, if_neg hToken] at hRest ⊢
        rw [dif_neg hToken, ih hRest]
        exact ⟨level.nonneg arrival.now, hAmount ▸ hHolds⟩

end

end PayGuard

------------------------------------------------------------
-- Lazy Refill And Expiry
------------------------------------------------------------

namespace PayGuard

open Lts TokenBucket

variable {limit : Limit}
variable {stored : Option Bucket}
variable {bucket : Bucket}

/- A time to live outlasts the refill of the bucket. -/
theorem capacity_div_le_ttlSeconds
    (limit : Limit) :
    limit.capacity / limit.refillPerSecond ≤
      ttlSeconds limit := by
  have hCeil :=
    Int.le_ceil (limit.capacity / limit.refillPerSecond)
  unfold ttlSeconds
  push_cast
  linarith

/- Sorted clocks and late drops keep a bucket in order. -/
theorem meets_follows
    (arrivals : List Arrival)
    (hStored :
      ∀ bucket ∈ stored,
        bucket.ttlSeconds = ttlSeconds limit ∧
          ∀ arrival ∈ arrivals,
            bucket.lastRefill ≤ arrival.now)
    (hSorted :
      (arrivals.map (·.now)).Pairwise (· ≤ ·))
    (hDrops :
      Meets (bucketStep limit) DropsLate stored arrivals) :
    Meets (bucketStep limit) (Follows limit) stored
      arrivals := by
  induction arrivals generalizing stored with
  | nil => trivial
  | cons arrival arrivals ih =>
      rcases hDrops with ⟨hDrop, hRest⟩
      rw [List.map_cons, List.pairwise_cons] at hSorted
      constructor
      · intro bucket hBucket
        rcases hStored bucket hBucket with ⟨hTtl, hBefore⟩
        unfold Bucket.precedes
        split
        · rename_i hDropped
          have hLate := hDrop hDropped bucket hBucket
          rw [hTtl] at hLate
          have hLong := capacity_div_le_ttlSeconds limit
          linarith
        · exact hBefore arrival List.mem_cons_self
      · apply ih _ hSorted.2 hRest
        rintro bucket ⟨⟩
        refine ⟨serveArrival_ttlSeconds, ?_⟩
        intro later hLater
        rw [serveArrival_lastRefill]
        exact hSorted.1 later.now
          (List.mem_map_of_mem hLater)

/- Every bucket the script stores is within its limit. -/
theorem tokens_of_exec
    (hCapacity : 1 ≤ limit.capacity)
    (hRefill : 0 < limit.refillPerSecond)
    {arrivals : List Arrival}
    (hRun :
      exec (bucketStep limit) none arrivals = some stored) :
    ∀ bucket ∈ stored,
      0 ≤ bucket.tokens ∧
        bucket.tokens ≤ limit.capacity := by
  have hKeep :
      ∀ (state : Option Bucket) (arrival : Arrival)
        (next : Option Bucket),
        (∀ bucket ∈ state,
          0 ≤ bucket.tokens ∧
            bucket.tokens ≤ limit.capacity) →
          bucketStep limit state arrival = some next →
            ∀ bucket ∈ next,
              0 ≤ bucket.tokens ∧
                bucket.tokens ≤ limit.capacity := by
    rintro state arrival next hState ⟨⟩ bucket ⟨⟩
    exact serveArrival_tokens hCapacity hRefill
      (fun bucket hBucket => (hState bucket hBucket).1)
  have hStart :
      ∀ bucket ∈ (none : Option Bucket),
        0 ≤ bucket.tokens ∧
          bucket.tokens ≤ limit.capacity := by
    rintro bucket ⟨⟩
  exact invariant_of_exec hKeep hStart hRun

/-
  A lazily refilled bucket that is forgotten when idle looks
  to its callers like one that is neither.
-/
structure Transparent
    (limit : Limit)
    (hCapacity : 1 ≤ limit.capacity)
    (hRefill : 0 < limit.refillPerSecond)
    (arrivals : List Arrival) : Prop where
  decisions :
    bucketDecisions limit none arrivals =
      (Level.full (zero_le_one.trans hCapacity)
        hRefill.le).decisions hRefill.le
          (arrivals.map (·.now))
  tokens :
    ∀ before rest bucket,
      arrivals = before ++ rest →
        exec (bucketStep limit) none before =
            some (some bucket) →
          0 ≤ bucket.tokens ∧
            bucket.tokens ≤ limit.capacity
  -- any calls in a row, from the first to the last of them
  stretch :
    ∀ before stretch rest first last,
      arrivals = before ++ stretch ++ rest →
        stretch.head? = some first →
          stretch.getLast? = some last →
            ((((bucketDecisions limit none arrivals).drop
                  before.length).take stretch.length).count
                    true : ℚ) ≤
              limit.capacity +
                limit.refillPerSecond *
                  (last.now - first.now)

/- The answers to a stretch depend on the level it finds. -/
theorem decisions_stretch
    {capacity rate : ℚ}
    (hRate : 0 ≤ rate)
    (level : Level capacity rate)
    (before stretch rest : List ℚ) :
    ((level.decisions hRate (before ++ stretch ++ rest)).drop
        before.length).take stretch.length =
      (level.after hRate before).decisions hRate stretch := by
  rw [List.append_assoc, level.decisions_append,
    Level.decisions_append]
  rw [List.drop_left'
      (level.length_decisions hRate before),
    List.take_left'
      (Level.length_decisions hRate _ stretch)]

/- Sorted clocks lie between the first and the last. -/
theorem between_of_sorted
    {stretch : List Arrival}
    {first last : Arrival}
    (hSorted :
      (stretch.map (·.now)).Pairwise (· ≤ ·))
    (hFirst : stretch.head? = some first)
    (hLast : stretch.getLast? = some last) :
    (∀ now ∈ stretch.map (·.now), first.now ≤ now) ∧
      (∀ now ∈ stretch.map (·.now), now ≤ last.now) := by
  constructor
  · rcases List.head?_eq_some_iff.mp hFirst with
      ⟨rest, rfl⟩
    rw [List.map_cons, List.pairwise_cons] at hSorted
    intro now hNow
    rw [List.map_cons, List.mem_cons] at hNow
    rcases hNow with rfl | hNow
    · exact le_rfl
    · exact hSorted.1 now hNow
  · rcases List.getLast?_eq_some_iff.mp hLast with
      ⟨before, rfl⟩
    rw [List.map_append, List.pairwise_append] at hSorted
    intro now hNow
    rw [List.map_append, List.mem_append] at hNow
    rcases hNow with hNow | hNow
    · exact hSorted.2.2 now hNow last.now
        (List.mem_singleton_self _)
    · rw [List.map_singleton, List.mem_singleton] at hNow
      exact hNow.le

/-
  For sorted clocks and any late drops, the script answers
  as an ideal bucket does.
-/
theorem script_matches_ideal_bucket
    {limit : Limit}
    {arrivals : List Arrival}
    (hCapacity : 1 ≤ limit.capacity)
    (hRefill : 0 < limit.refillPerSecond)
    (hSorted :
      (arrivals.map (·.now)).Pairwise (· ≤ ·))
    (hDrops :
      Meets (bucketStep limit) DropsLate none arrivals) :
    Transparent limit hCapacity hRefill arrivals := by
  have hMeets :
      Meets (bucketStep limit) (Follows limit) none
        arrivals :=
    meets_follows arrivals (by rintro bucket ⟨⟩) hSorted
      hDrops
  have hFull :
      StandsFor limit none
        (Level.full (zero_le_one.trans hCapacity)
          hRefill.le) :=
    fun _ => rfl
  have hDecisions :=
    bucketDecisions_eq hRefill arrivals hMeets hFull
  refine ⟨hDecisions, ?_, ?_⟩
  · intro before rest bucket _ hRun
    exact tokens_of_exec hCapacity hRefill hRun bucket rfl
  · intro before stretch rest first last hSplit hFirst hLast
    have hNows :
        arrivals.map (·.now) =
          before.map (·.now) ++ stretch.map (·.now) ++
            rest.map (·.now) := by
      rw [hSplit, List.map_append, List.map_append]
    have hStretch := hSorted
    rw [hNows, List.append_assoc,
      List.pairwise_append] at hStretch
    have hInner := (List.pairwise_append.mp hStretch.2.1).1
    rcases between_of_sorted hInner hFirst hLast with
      ⟨hFrom, hTo⟩
    have hMem : first ∈ stretch := List.mem_of_head? hFirst
    have hOrder := hTo first.now (List.mem_map_of_mem hMem)
    have hAnswers :=
      decisions_stretch hRefill.le
        (Level.full (zero_le_one.trans hCapacity) hRefill.le)
        (before.map (·.now)) (stretch.map (·.now))
        (rest.map (·.now))
    rw [List.length_map, List.length_map] at hAnswers
    rw [hDecisions, hNows, hAnswers]
    have hCount :=
      Level.count_decisions_le hRefill.le
        ((Level.full (zero_le_one.trans hCapacity)
          hRefill.le).after hRefill.le (before.map (·.now)))
        first.now (stretch.map (·.now)) last.now hFrom hTo
        hOrder hInner
    have hFound :=
      ((Level.full (zero_le_one.trans hCapacity)
        hRefill.le).after hRefill.le
          (before.map (·.now))).le_capacity first.now
    linarith

/- Two tokens, refilled at one a second. -/
def smallLimit : Limit where
  capacity := 2
  refillPerSecond := 1

/- A burst, a call once Redis has dropped the key, a burst. -/
def burstArrivals : List Arrival :=
  [⟨0, false⟩, ⟨0, false⟩, ⟨0, false⟩, ⟨1 / 2, false⟩,
    ⟨1, false⟩, ⟨100, true⟩, ⟨100, false⟩, ⟨100, false⟩]

theorem script_matches_ideal_bucket_burst :
    bucketDecisions smallLimit none burstArrivals =
        [true, true, false, false, true, true, true,
          false] ∧
      Transparent smallLimit (by decide +kernel)
        (by decide +kernel) burstArrivals :=
  ⟨by decide +kernel,
    script_matches_ideal_bucket (by decide +kernel)
      (by decide +kernel) (by decide +kernel)
      (by decide +kernel)⟩

end PayGuard

------------------------------------------------------------
-- Many Merchants, Many Clocks
------------------------------------------------------------

namespace PayGuard

open Lts TokenBucket

variable {settings : RateLimitSettings}
variable {merchantId : Uuid}
variable {redis : Redis}

/- A merchant's answers are those of its own bucket. -/
theorem merchantDecisions_eq
    (calls : List RateLimitCall) :
    merchantDecisions settings merchantId redis calls =
      bucketDecisions settings.limit
        (redis.bucket merchantId)
        (arrivalsOf merchantId calls) := by
  induction calls generalizing redis with
  | nil => rfl
  | cons call calls ih =>
      unfold merchantDecisions arrivalsOf
      by_cases hOwn : call.merchantId = merchantId
      · rw [if_pos hOwn, List.filter_cons_of_pos
          (by simpa using hOwn), List.map_cons,
          bucketDecisions, ih, ← hOwn]
        simp [checkRateLimit, arrivalsOf]
      · rw [if_neg hOwn, List.filter_cons_of_neg
          (by simpa using hOwn), ih]
        simp [checkRateLimit, arrivalsOf,
          Function.update_of_ne (Ne.symm hOwn)]

/- Calls in order are in order on each bucket. -/
theorem meets_follows_of_inOrder
    (calls : List RateLimitCall)
    (hMeets :
      Meets (rateLimitStep settings) (ClocksInOrder settings)
        redis calls) :
    Meets (bucketStep settings.limit)
      (Follows settings.limit) (redis.bucket merchantId)
      (arrivalsOf merchantId calls) := by
  induction calls generalizing redis with
  | nil => trivial
  | cons call calls ih =>
      rcases hMeets with ⟨hFollows, hRest⟩
      have hNext := ih hRest
      unfold arrivalsOf at hNext ⊢
      by_cases hOwn : call.merchantId = merchantId
      · rw [List.filter_cons_of_pos (by simpa using hOwn),
          List.map_cons]
        subst hOwn
        refine ⟨hFollows, ?_⟩
        simpa [checkRateLimit, bucketStep] using hNext
      · rw [List.filter_cons_of_neg (by simpa using hOwn)]
        simpa [checkRateLimit,
          Function.update_of_ne (Ne.symm hOwn)] using hNext

/- Calls in order have sorted clocks. -/
theorem sorted_of_follows
    {limit : Limit}
    {stored : Option Bucket}
    (hCapacity : 0 ≤ limit.capacity)
    (hRefill : 0 < limit.refillPerSecond)
    (arrivals : List Arrival)
    (hMeets :
      Meets (bucketStep limit) (Follows limit) stored
        arrivals) :
    (arrivals.map (·.now)).Pairwise (· ≤ ·) ∧
      ∀ bucket ∈ stored,
        ∀ now ∈ arrivals.map (·.now),
          bucket.lastRefill ≤ now := by
  induction arrivals generalizing stored with
  | nil => simp
  | cons arrival arrivals ih =>
      rcases hMeets with ⟨hFollows, hRest⟩
      rcases ih hRest with ⟨hSorted, hLater⟩
      have hAfter :
          ∀ now ∈ arrivals.map (·.now),
            arrival.now ≤ now := by
        have hStored :=
          hLater _ (Option.mem_some_self
            (serveArrival limit stored arrival).1)
        rwa [serveArrival_lastRefill] at hStored
      refine ⟨List.pairwise_cons.mpr ⟨hAfter, hSorted⟩, ?_⟩
      intro bucket hBucket now hNow
      have hFirst : bucket.lastRefill ≤ arrival.now := by
        have hPrecedes := hFollows bucket hBucket
        unfold Bucket.precedes at hPrecedes
        split at hPrecedes
        · have hWait :
              0 ≤ limit.capacity / limit.refillPerSecond :=
            div_nonneg hCapacity hRefill.le
          linarith
        · exact hPrecedes
      rw [List.map_cons, List.mem_cons] at hNow
      rcases hNow with rfl | hNow
      · exact hFirst
      · exact hFirst.trans (hAfter now hNow)

/- Every clock lies within the spread of all of them. -/
theorem exists_clockSpread
    {nows : List ℚ}
    (hNonempty : nows ≠ []) :
    ∃ low high,
      clockSpread nows = high - low ∧
        (∀ now ∈ nows, low ≤ now) ∧
        (∀ now ∈ nows, now ≤ high) ∧
        low ≤ high := by
  cases hMin : nows.min? with
  | none => exact absurd (List.min?_eq_none_iff.mp hMin) hNonempty
  | some low =>
      cases hMax : nows.max? with
      | none =>
          exact absurd (List.max?_eq_none_iff.mp hMax)
            hNonempty
      | some high =>
          rcases List.min?_eq_some_iff.mp hMin with
            ⟨hLowMem, hLow⟩
          rcases List.max?_eq_some_iff.mp hMax with
            ⟨_, hHigh⟩
          refine ⟨low, high, ?_, hLow, hHigh,
            hHigh low hLowMem⟩
          rw [clockSpread, hMin, hMax]
          rfl

/-
  Where no clock is behind the bucket it meets, a merchant
  is allowed its capacity and what the time refills.
-/
theorem rate_limit_holds_in_order
    {settings : RateLimitSettings}
    {calls : List RateLimitCall}
    (hCapacity : 1 ≤ settings.limit.capacity)
    (hRefill : 0 < settings.limit.refillPerSecond)
    (hMeets :
      Meets (rateLimitStep settings) (ClocksInOrder settings) {}
        calls)
    (merchantId : Uuid) :
    ((merchantDecisions settings merchantId {} calls).count
        true : ℚ) ≤
      settings.limit.capacity +
        settings.limit.refillPerSecond *
          clockSpread
            ((arrivalsOf merchantId calls).map (·.now)) := by
  have hPositive : 0 ≤ settings.limit.capacity :=
    zero_le_one.trans hCapacity
  have hFollows :
      Meets (bucketStep settings.limit)
        (Follows settings.limit) none
        (arrivalsOf merchantId calls) :=
    meets_follows_of_inOrder calls hMeets
  have hFull :
      StandsFor settings.limit none
        (Level.full hPositive hRefill.le) :=
    fun _ => rfl
  have hSorted :=
    (sorted_of_follows hPositive hRefill _ hFollows).1
  rw [merchantDecisions_eq,
    bucketDecisions_eq hRefill _ hFollows hFull]
  by_cases hEmpty :
      (arrivalsOf merchantId calls).map (·.now) = []
  · rw [hEmpty]
    simpa [Level.decisions, clockSpread] using hPositive
  · rcases exists_clockSpread hEmpty with
      ⟨low, high, hSpread, hLow, hHigh, hOrder⟩
    have hCount :=
      Level.count_decisions_le hRefill.le
        (Level.full hPositive hRefill.le) low _ high hLow
        hHigh hOrder hSorted
    have hStart :=
      (Level.full hPositive hRefill.le).le_capacity low
    rw [hSpread]
    linarith

/- One token, refilled once a second. -/
def oneASecond : RateLimitSettings where
  capacity := some 1
  refillPerSecond := some 1

/- Merchant 1 calls from replicas in step. -/
def steadyCalls : List RateLimitCall :=
  [⟨1, ⟨0, false⟩⟩, ⟨2, ⟨0, false⟩⟩, ⟨1, ⟨1, false⟩⟩,
    ⟨1, ⟨1, false⟩⟩]

theorem rate_limit_holds_in_order_steady :
    merchantDecisions oneASecond 1 {} steadyCalls =
        [true, true, false] ∧
      ((merchantDecisions oneASecond 1 {}
          steadyCalls).count true : ℚ) ≤
        oneASecond.limit.capacity +
          oneASecond.limit.refillPerSecond *
            clockSpread
              ((arrivalsOf 1 steadyCalls).map (·.now)) :=
  ⟨by decide +kernel,
    rate_limit_holds_in_order (by decide +kernel)
      (by decide +kernel) (by decide +kernel) 1⟩

/- Merchant 1 calls from two replicas, one a second behind. -/
def skewedCalls : List RateLimitCall :=
  [⟨1, ⟨0, false⟩⟩, ⟨1, ⟨1, false⟩⟩, ⟨1, ⟨0, false⟩⟩,
    ⟨1, ⟨1, false⟩⟩, ⟨1, ⟨0, false⟩⟩, ⟨1, ⟨1, false⟩⟩]

/- The same second is credited three times over. -/
theorem skewed_clocks_exceed_the_limit :
    merchantDecisions oneASecond 1 {} skewedCalls =
        [true, true, false, true, false, true] ∧
      ¬ ((merchantDecisions oneASecond 1 {}
          skewedCalls).count true : ℚ) ≤
        oneASecond.limit.capacity +
          oneASecond.limit.refillPerSecond *
            clockSpread
              ((arrivalsOf 1 skewedCalls).map (·.now)) := by
  decide +kernel

end PayGuard

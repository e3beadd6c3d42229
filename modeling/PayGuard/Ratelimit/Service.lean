import Mathlib.Data.Rat.Floor
import PayGuard.Database.Models

/-
  The rate limiter: one token bucket per merchant, held in
  Redis and updated by one script.

  The script runs as a whole.  Its numbers are exact here.

  Key definitions include:
    * `Bucket`
    * `tokenBucketScript`
    * `checkRateLimit`
-/

------------------------------------------------------------
-- Limits
------------------------------------------------------------

namespace PayGuard

/- The environment variables of the limiter. -/
structure RateLimitEnvironment where
  rateLimitCapacity : Option Int := none
  rateLimitRefillPerSecond : Option ℚ := none
deriving DecidableEq, Repr

def defaultCapacity
    (environment : RateLimitEnvironment) : ℚ :=
  environment.rateLimitCapacity.getD 20

def defaultRefillPerSecond
    (environment : RateLimitEnvironment) : ℚ :=
  environment.rateLimitRefillPerSecond.getD 5

structure Limit where
  capacity : ℚ
  refillPerSecond : ℚ
deriving DecidableEq, Repr

/- The keyword arguments of a call, and its environment. -/
structure RateLimitSettings where
  capacity : Option Int := none
  refillPerSecond : Option ℚ := none
  environment : RateLimitEnvironment := {}
deriving DecidableEq, Repr

/- An argument the caller leaves out is read at call time. -/
def RateLimitSettings.limit
    (settings : RateLimitSettings) : Limit where
  capacity :=
    match settings.capacity with
    | none => defaultCapacity settings.environment
    | some capacity => capacity
  refillPerSecond :=
    settings.refillPerSecond.getD
      (defaultRefillPerSecond settings.environment)

------------------------------------------------------------
-- The Script
------------------------------------------------------------

/-
  The hash under a bucket key, with the time to live its
  last write has set.
-/
structure Bucket where
  tokens : ℚ
  lastRefill : ℚ
  ttlSeconds : Int
deriving DecidableEq, Repr

def ttlSeconds (limit : Limit) : Int :=
  ⌈limit.capacity / limit.refillPerSecond⌉ + 60

/-
  A clock behind `last_refill` refills nothing.  Either way
  the caller's clock becomes the new `last_refill`.
-/
def tokenBucketScript
    (limit : Limit)
    (stored : Option Bucket)
    (now : ℚ) : Bucket × Bool :=
  let tokens :=
    match stored with
    | none => limit.capacity
    | some bucket => bucket.tokens
  let lastRefill :=
    match stored with
    | none => now
    | some bucket => bucket.lastRefill
  let elapsed := max 0 (now - lastRefill)
  let tokens :=
    min limit.capacity
      (tokens + elapsed * limit.refillPerSecond)
  if 1 ≤ tokens then
    (⟨tokens - 1, now, ttlSeconds limit⟩, true)
  else
    (⟨tokens, now, ttlSeconds limit⟩, false)

------------------------------------------------------------
-- Calls
------------------------------------------------------------

/-
  One call reaching Redis: the clock of the replica it comes
  from, and whether Redis has dropped the key since its last
  write.
-/
structure Arrival where
  now : ℚ
  dropped : Bool := false
deriving DecidableEq, Repr

/- What the script reads of the stored bucket. -/
def Arrival.found
    (arrival : Arrival)
    (stored : Option Bucket) : Option Bucket :=
  if arrival.dropped then none else stored

/- The bucket a call leaves, and whether it may proceed. -/
def serveArrival
    (limit : Limit)
    (stored : Option Bucket)
    (arrival : Arrival) : Bucket × Bool :=
  tokenBucketScript limit (arrival.found stored) arrival.now

/- The answers to calls on one bucket. -/
def bucketDecisions (limit : Limit) :
    Option Bucket → List Arrival → List Bool
| _, [] => []
| stored, arrival :: arrivals =>
    (serveArrival limit stored arrival).2 ::
      bucketDecisions limit
        (some (serveArrival limit stored arrival).1) arrivals

def bucketStep
    (limit : Limit)
    (stored : Option Bucket)
    (arrival : Arrival) : Option (Option Bucket) :=
  some (some (serveArrival limit stored arrival).1)

/- The bucket keys, by the merchant they name. -/
structure Redis where
  bucket : Uuid → Option Bucket := fun _ => none

structure RateLimitCall where
  merchantId : Uuid
  arrival : Arrival
deriving DecidableEq, Repr

def checkRateLimit
    (settings : RateLimitSettings)
    (redis : Redis)
    (call : RateLimitCall) : Redis × Bool :=
  let served :=
    serveArrival settings.limit
      (redis.bucket call.merchantId) call.arrival
  ({ redis with
      bucket :=
        Function.update redis.bucket call.merchantId
          (some served.1) },
    served.2)

def rateLimitStep
    (settings : RateLimitSettings)
    (redis : Redis)
    (call : RateLimitCall) : Option Redis :=
  some (checkRateLimit settings redis call).1

/- The answers one merchant gets, whoever else calls. -/
def merchantDecisions
    (settings : RateLimitSettings)
    (merchantId : Uuid) :
    Redis → List RateLimitCall → List Bool
| _, [] => []
| redis, call :: calls =>
    let served := checkRateLimit settings redis call
    if call.merchantId = merchantId then
      served.2 ::
        merchantDecisions settings merchantId served.1 calls
    else
      merchantDecisions settings merchantId served.1 calls

/- The calls that one merchant makes. -/
def arrivalsOf
    (merchantId : Uuid)
    (calls : List RateLimitCall) : List Arrival :=
  (calls.filter (fun call =>
    call.merchantId = merchantId)).map (·.arrival)

/- How far apart the clocks of some calls are. -/
def clockSpread (nows : List ℚ) : ℚ :=
  nows.max?.getD 0 - nows.min?.getD 0

end PayGuard

import Mathlib.Tactic.Common

/-
  The provider abstraction: the closed outcome vocabulary
  every adapter answers in, and the result of one call.
-/

------------------------------------------------------------
-- Provider Results
------------------------------------------------------------

namespace PayGuard

inductive ProviderOutcome where
| succeeded
| declined
| temporaryFailure
| unknown
deriving DecidableEq, Repr

/-
  The entries of a raw response the services look up.  An
  absent entry and a null one read the same.
-/
structure RawResponse where
  amountMinor : Option Int := none
  currency : Option String := none
deriving DecidableEq, Repr

structure ProviderResult where
  outcome : ProviderOutcome
  providerTransactionId : Option String
  rawStatus : String
  rawResponse : RawResponse := {}
deriving DecidableEq, Repr

structure AuthorizeRequest where
  amountMinor : Int
  currency : String
  token : String
  idempotencyKey : String
deriving DecidableEq, Repr

end PayGuard

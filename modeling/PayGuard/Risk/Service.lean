import PayGuard.Database.Models

/-
  The rule-based risk engine.  Three signals look at the
  request alone; two count rows of the same merchant inside
  a five minute window.

  Key definitions include:
    * `levelForScore`
    * `velocitySignal`
    * `repeatedFailuresSignal`
    * `assessPaymentRisk`
-/

------------------------------------------------------------
-- Thresholds
------------------------------------------------------------

namespace PayGuard

/- Five minutes. -/
def velocityWindow : Int := 300000000

def velocityThreshold : Nat := 5

def repeatedFailureThreshold : Nat := 3

def largeAmountThresholdMinor : Int := 500000

def veryLargeAmountThresholdMinor : Int := 2000000

def highRiskIpPrefixes : List String :=
  ["198.51.100.", "203.0.113."]

def levelForScore (score : Nat) : RiskLevel :=
  if 100 ≤ score then .block
  else if 60 ≤ score then .high
  else if 30 ≤ score then .medium
  else .low

------------------------------------------------------------
-- Request Signals
------------------------------------------------------------

def amountSignal (amountMinor : Int) : Option RiskSignal :=
  if veryLargeAmountThresholdMinor ≤ amountMinor then
    some ⟨"VERY_LARGE_AMOUNT", 50,
      s!"amount_minor {amountMinor} >= 2000000"⟩
  else if largeAmountThresholdMinor ≤ amountMinor then
    some ⟨"LARGE_AMOUNT", 20,
      s!"amount_minor {amountMinor} >= 500000"⟩
  else
    none

/- Absent and empty countries never mismatch. -/
def countryMismatchSignal
    (billingCountry shippingCountry : Option String) :
    Option RiskSignal :=
  match billingCountry, shippingCountry with
  | some billing, some shipping =>
      if billing ≠ "" ∧ shipping ≠ "" ∧
          billing ≠ shipping then
        some ⟨"BILLING_SHIPPING_COUNTRY_MISMATCH", 25,
          s!"billing_country={billing} != " ++
            s!"shipping_country={shipping}"⟩
      else
        none
  | _, _ => none

def highRiskIpSignal
    (customerIp : Option String) : Option RiskSignal :=
  match customerIp with
  | none => none
  | some ip =>
      if highRiskIpPrefixes.any
          (fun start =>
            start.toList.isPrefixOf ip.toList) then
        some ⟨"HIGH_RISK_IP", 35,
          s!"customer_ip {ip} matches a known " ++
            "high-risk range"⟩
      else
        none

------------------------------------------------------------
-- History Signals
------------------------------------------------------------

/- Payments this merchant created inside the window. -/
def velocityCount
    (db : Database)
    (merchantId : Uuid)
    (now : Timestamp) : Nat :=
  db.payments.countP (fun intent =>
    intent.merchantId = merchantId ∧
      now - velocityWindow ≤ intent.createdAt)

def velocitySignal
    (db : Database)
    (merchantId : Uuid)
    (now : Timestamp) : Option RiskSignal :=
  let count := velocityCount db merchantId now
  if velocityThreshold ≤ count then
    some ⟨"HIGH_VELOCITY", 30,
      s!"{count} payments created by this merchant " ++
        "in the last 0:05:00"⟩
  else
    none

/- Declined attempts of this merchant inside the window. -/
def declinedCount
    (db : Database)
    (merchantId : Uuid)
    (now : Timestamp) : Nat :=
  db.attempts.countP (fun attempt =>
    db.payments.any (fun intent =>
      intent.id = attempt.paymentIntentId ∧
        intent.merchantId = merchantId) ∧
      attempt.status = .declined ∧
      now - velocityWindow ≤ attempt.createdAt)

def repeatedFailuresSignal
    (db : Database)
    (merchantId : Uuid)
    (now : Timestamp) : Option RiskSignal :=
  let count := declinedCount db merchantId now
  if repeatedFailureThreshold ≤ count then
    some ⟨"REPEATED_FAILURES", 40,
      s!"{count} declined attempts by this merchant " ++
        "in the last 0:05:00 (possible card testing)"⟩
  else
    none

------------------------------------------------------------
-- Assessment
------------------------------------------------------------

def assessPaymentRisk
    (db : Database)
    (merchantId : Uuid)
    (amountMinor : Int)
    (billingCountry shippingCountry customerIp :
      Option String)
    (now : Timestamp) : RiskAssessment :=
  let signals :=
    [amountSignal amountMinor,
      countryMismatchSignal billingCountry shippingCountry,
      highRiskIpSignal customerIp,
      velocitySignal db merchantId now,
      repeatedFailuresSignal db merchantId now].reduceOption
  let score := (signals.map (·.weight)).sum
  { level := levelForScore score
    score := score
    signals := signals }

end PayGuard

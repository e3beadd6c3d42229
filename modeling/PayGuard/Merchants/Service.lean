import PayGuard.Database.Models

/-
  Merchants, their API keys, and the lookup every request
  goes through.

  Only hashes are stored.  The digest is a parameter, and
  the clock and the drawn key of an operation come with it.

  Key definitions include:
    * `Merchant`
    * `rotateApiKey`
    * `getCurrentMerchant`
    * `MerchantEvent`
    * `merchantStep`
-/

------------------------------------------------------------
-- Rows
------------------------------------------------------------

namespace PayGuard

/- `CHECK (status IN ('active', 'suspended'))`. -/
inductive MerchantStatus where
| active
| suspended
deriving DecidableEq, Repr

structure Merchant where
  id : Uuid
  apiKeyHash : String
  previousApiKeyHash : Option String := none
  previousApiKeyExpiresAt : Option Timestamp := none
  status : MerchantStatus := .active
deriving DecidableEq, Repr

/- The primary key and the two unique columns. -/
def merchantsUnique (merchants : List Merchant) : Prop :=
  (merchants.map (·.id)).Nodup ∧
    (merchants.map (·.apiKeyHash)).Nodup ∧
    (merchants.filterMap (·.previousApiKeyHash)).Nodup

instance (merchants : List Merchant) :
    Decidable (merchantsUnique merchants) := by
  unfold merchantsUnique
  infer_instance

------------------------------------------------------------
-- Rotation
------------------------------------------------------------

/- The current key becomes the previous one, on notice. -/
def rotateApiKey
    (hashApiKey : String → String)
    (merchant : Merchant)
    (newApiKey : String)
    (overlap now : Timestamp) : Merchant :=
  { merchant with
    previousApiKeyHash := some merchant.apiKeyHash
    previousApiKeyExpiresAt := some (now + overlap)
    apiKeyHash := hashApiKey newApiKey }

------------------------------------------------------------
-- The Current Merchant
------------------------------------------------------------

/- What Python's `str.strip` removes. -/
def isStripped (letter : Char) : Bool :=
  letter.toNat ∈
    [0x9, 0xa, 0xb, 0xc, 0xd, 0x1c, 0x1d, 0x1e, 0x1f, 0x20,
      0x85, 0xa0, 0x1680, 0x2000, 0x2001, 0x2002, 0x2003,
      0x2004, 0x2005, 0x2006, 0x2007, 0x2008, 0x2009, 0x200a,
      0x2028, 0x2029, 0x202f, 0x205f, 0x3000]

def strip (letters : List Char) : List Char :=
  ((letters.dropWhile isStripped).reverse.dropWhile
    isStripped).reverse

def bearerScheme : List Char := "Bearer ".toList

/- The key an `Authorization` header presents, if any. -/
def presentedKey (authorization : Option String) :
    Option String :=
  match authorization with
  | none => none
  | some header =>
      if bearerScheme.isPrefixOf header.toList then
        let apiKey :=
          strip (header.toList.drop bearerScheme.length)
        if apiKey = [] then
          none
        else
          some (String.ofList apiKey)
      else
        none

inductive AuthFailure where
| unauthorized (message : String)
-- `scalar_one_or_none` on more than one row
| multipleResultsFound
deriving DecidableEq, Repr

/- The current key, or the previous one until it expires. -/
def Merchant.matchesKey
    (merchant : Merchant)
    (keyHash : String)
    (now : Timestamp) : Bool :=
  merchant.apiKeyHash = keyHash ||
    (merchant.previousApiKeyHash = some keyHash &&
      merchant.previousApiKeyExpiresAt.any (now < ·))

def getCurrentMerchant
    (hashApiKey : String → String)
    (merchants : List Merchant)
    (authorization : Option String)
    (now : Timestamp) : Except AuthFailure Merchant :=
  match presentedKey authorization with
  | none =>
      .error (.unauthorized
        "Missing or malformed Authorization header.")
  | some apiKey =>
      match merchants.filter (fun merchant =>
          merchant.matchesKey (hashApiKey apiKey) now) with
      | [] => .error (.unauthorized "Invalid API key.")
      | [merchant] =>
          if merchant.status = .active then
            .ok merchant
          else
            .error (.unauthorized "Invalid API key.")
      | _ :: _ :: _ => .error .multipleResultsFound

------------------------------------------------------------
-- Histories
------------------------------------------------------------

/-
  What operators do to the table: seed a merchant with its
  first key, rotate a key, or set a status by hand.
-/
inductive MerchantEvent where
| seed (merchantId : Uuid) (apiKey : String)
| rotate
    (merchantId : Uuid)
    (apiKey : String)
    (overlap now : Timestamp)
| setStatus
    (merchantId : Uuid)
    (status : MerchantStatus)
deriving DecidableEq, Repr

/- The merchant an event is about. -/
def MerchantEvent.merchantId : MerchantEvent → Uuid
| .seed id _ => id
| .rotate id _ _ _ => id
| .setStatus id _ => id

/- The table an event asks for. -/
def MerchantEvent.apply
    (hashApiKey : String → String)
    (merchants : List Merchant) :
    MerchantEvent → List Merchant
| .seed merchantId apiKey =>
    merchants ++
      [{ id := merchantId
         apiKeyHash := hashApiKey apiKey }]
| .rotate merchantId apiKey overlap now =>
    Table.updateWhere (fun row => row.id = merchantId)
      (fun row =>
        rotateApiKey hashApiKey row apiKey overlap now)
      merchants
| .setStatus merchantId status =>
    Table.updateWhere (fun row => row.id = merchantId)
      (fun row => { row with status := status })
      merchants

/- The row an event loads is there. -/
def MerchantEvent.finds
    (merchants : List Merchant) : MerchantEvent → Prop
| .seed _ _ => True
| .rotate merchantId _ _ _ =>
    merchantId ∈ merchants.map (·.id)
| .setStatus merchantId _ =>
    merchantId ∈ merchants.map (·.id)

instance
    (merchants : List Merchant)
    (event : MerchantEvent) :
    Decidable (event.finds merchants) := by
  cases event <;> unfold MerchantEvent.finds <;> infer_instance

/- A commit the constraints refuse changes nothing. -/
def merchantStep
    (hashApiKey : String → String)
    (merchants : List Merchant)
    (event : MerchantEvent) : Option (List Merchant) :=
  if event.finds merchants ∧
      merchantsUnique (event.apply hashApiKey merchants) then
    some (event.apply hashApiKey merchants)
  else
    none

/- The key an event issues to this merchant. -/
def MerchantEvent.issuedTo
    (merchantId : Uuid) : MerchantEvent → Option String
| .seed id apiKey =>
    if id = merchantId then some apiKey else none
| .rotate id apiKey _ _ =>
    if id = merchantId then some apiKey else none
| .setStatus _ _ => none

/- The key an event issues, to whomever. -/
def MerchantEvent.issued : MerchantEvent → Option String
| .seed _ apiKey => some apiKey
| .rotate _ apiKey _ _ => some apiKey
| .setStatus _ _ => none

/- Where the overlap of a rotation of this merchant ends. -/
def MerchantEvent.overlapEnd
    (merchantId : Uuid) : MerchantEvent → Option Timestamp
| .rotate id _ overlap now =>
    if id = merchantId then some (now + overlap) else none
| _ => none

/- The keys issued to a merchant, the latest first. -/
def keysIssuedTo
    (merchantId : Uuid)
    (events : List MerchantEvent) : List String :=
  (events.filterMap (MerchantEvent.issuedTo merchantId)).reverse

/- The end of the overlap of the last rotation. -/
def lastOverlapEnd
    (merchantId : Uuid)
    (events : List MerchantEvent) : Option Timestamp :=
  (events.filterMap
    (MerchantEvent.overlapEnd merchantId)).getLast?

end PayGuard

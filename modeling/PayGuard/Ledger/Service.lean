import PayGuard.Database.Models

/-
  The double-entry ledger writer.  Every financial event
  writes one debit and one credit of the same amount under
  one `ledger_transaction_id`.

  Key definitions include:
    * `buildPaymentSettledPair`
    * `buildRefundSettledPair`
    * `recordPaymentSettled`
    * `recordRefundSettled`
-/

------------------------------------------------------------
-- Entry Pairs
------------------------------------------------------------

namespace PayGuard

/-
  A debit and a credit of one amount under one transaction.
-/
def buildPair
    (debited credited : Account)
    (paymentIntentId : Uuid)
    (amountMinor : Int)
    (ledgerTransactionId : Uuid) :
    LedgerEntry × LedgerEntry :=
  (⟨paymentIntentId, ledgerTransactionId, debited, .debit,
      amountMinor⟩,
    ⟨paymentIntentId, ledgerTransactionId, credited, .credit,
      amountMinor⟩)

def buildPaymentSettledPair
    (paymentIntentId : Uuid)
    (amountMinor : Int)
    (ledgerTransactionId : Uuid) :
    LedgerEntry × LedgerEntry :=
  buildPair .merchantReceivable .paymentClearing
    paymentIntentId amountMinor ledgerTransactionId

def buildRefundSettledPair
    (paymentIntentId : Uuid)
    (amountMinor : Int)
    (ledgerTransactionId : Uuid) :
    LedgerEntry × LedgerEntry :=
  buildPair .refundLiability .merchantReceivable
    paymentIntentId amountMinor ledgerTransactionId

------------------------------------------------------------
-- Recording
------------------------------------------------------------

def recordPair
    (db : Database)
    (pair : LedgerEntry × LedgerEntry) : Database :=
  { db with ledger := db.ledger ++ [pair.1, pair.2] }

def recordPaymentSettled
    (db : Database)
    (paymentIntentId : Uuid)
    (amountMinor : Int)
    (draw : Draw) : Database :=
  recordPair db
    (buildPaymentSettledPair paymentIntentId amountMinor
      draw.ledgerTransaction)

def recordRefundSettled
    (db : Database)
    (paymentIntentId : Uuid)
    (amountMinor : Int)
    (draw : Draw) : Database :=
  recordPair db
    (buildRefundSettledPair paymentIntentId amountMinor
      draw.ledgerTransaction)

end PayGuard

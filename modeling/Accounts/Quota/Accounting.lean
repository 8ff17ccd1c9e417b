import Accounts.Base.Table
import Accounts.Base.World

/-!
# Quota states and the billing ledger

The state of an account that its traffic is billed against, and the ledger of
what was credited to it (`internal/store/accounting_postgres.go`). A call is one
transaction. Amounts are exact numbers.

`upsertAccountQuotaState` writes every column of the state of an account, its
balance among them, from the record it is given; `creditTopUp` writes an entry
of the ledger together with the balance, once for each entry.
-/

namespace Accounts.Quota

open Text

/-- The quota state of an account, as the program holds it. -/
structure AccountQuotaState where
  accountUUID : String
  remainingIncludedQuota : Int64 := 0
  currentBalance : ℚ := 0
  arrears : Bool := false
  arrearsSince : Option Time := none
  throttleState : String := ""
  suspendState : String := ""
  proxyAccessState : String := ""
  lastRatedBucketAt : Option Time := none
  periodStart : Option Time := none
  periodEnd : Option Time := none
  effectiveAt : Time := 0

/-- An entry of the billing ledger. -/
structure BillingLedgerEntry where
  id : String
  accountUUID : String
  /-- The currency of a top-up; the ledger keeps it as the type of the entry. -/
  currency : String := ""
  entryType : String
  amountDelta : ℚ
  balanceAfter : ℚ := 0

/-- The tables: the states by account, the ledger by the identifiers of its entries. -/
structure Store where
  accountQuotaStates : Table String AccountQuotaState
  billingLedger : Table String BillingLedgerEntry

/-- Why a call is refused. -/
inductive QuotaError
  | notFound
  | duplicateEntry
  | invalidTopUp
  | unsupportedCurrency
  /-- The database could not be reached. -/
  | unavailable
  deriving DecidableEq

/-! ## Calls -/

/-- The quota state of an account; the account is the key of the table. -/
def getAccountQuotaState (s : Store) (accountUUID : String) : Except QuotaError AccountQuotaState :=
  match s.accountQuotaStates.lookup (trimSpace accountUUID) with
  | none => .error .notFound
  | some state => .ok { state with accountUUID := trimSpace accountUUID }

/-- A quota state as it is stored. -/
def AccountQuotaState.stored (state : AccountQuotaState) : AccountQuotaState :=
  { state with
    accountUUID := trimSpace state.accountUUID
    throttleState := trimSpace state.throttleState
    suspendState := trimSpace state.suspendState
    proxyAccessState := trimSpace state.proxyAccessState }

/-- Writing all of a quota state. -/
def upsertAccountQuotaState (s : Store) (state : AccountQuotaState) : Store :=
  { s with
    accountQuotaStates := s.accountQuotaStates.insert (trimSpace state.accountUUID) state.stored }

/-- Writing an entry of the ledger. An entry without an identifier gets one. -/
def insertBillingLedgerEntry (env : Env) (s : Store) (entry : BillingLedgerEntry) :
    Except QuotaError Store :=
  let id := if trimSpace entry.id = "" then env.uuid.val else entry.id
  if id ∈ s.billingLedger then .error .duplicateEntry else
  .ok { s with
    billingLedger := s.billingLedger.insert id { entry with
        id := id
        accountUUID := trimSpace entry.accountUUID
        entryType := trimSpace entry.entryType } }

/-- The row a top-up finds: a new one when the account has none. -/
def quotaRow (s : Store) (env : Env) (accountUUID : String) : AccountQuotaState :=
  (s.accountQuotaStates.lookup accountUUID).getD
    { accountUUID := accountUUID
      throttleState := "normal"
      suspendState := "active"
      proxyAccessState := "active"
      effectiveAt := env.now }

/-- The balance of the wallet in US dollars: the sum of its entries. -/
def usdBalance (s : Store) (accountUUID : String) : ℚ :=
  Table.total (fun e => if e.accountUUID = accountUUID ∧ e.entryType = "wallet_usd" then e.amountDelta
    else 0) s.billingLedger

/-- A state with a new balance: arrears end when it is not negative. -/
def AccountQuotaState.credited (env : Env) (state : AccountQuotaState) (balance : ℚ) :
    AccountQuotaState :=
  { state with
    currentBalance := balance
    arrears := if 0 ≤ balance then false else state.arrears
    arrearsSince := if 0 ≤ balance then none else state.arrearsSince
    effectiveAt := env.now }

/-- Crediting a top-up to the wallet of its currency, once: whether it was credited before comes
    with the store. The transaction of a repeated top-up is rolled back. -/
def creditTopUp [Unicode] (env : Env) (s : Store) (entry : BillingLedgerEntry) :
    Except QuotaError (Store × Bool) :=
  if trimSpace entry.id = "" ∨ entry.amountDelta ≤ 0 then .error .invalidTopUp else
  let currency := toUpper (trimSpace entry.currency)
  if currency ≠ "CNY" ∧ currency ≠ "USD" then .error .unsupportedCurrency else
  if entry.id ∈ s.billingLedger then .ok (s, true) else
  let account := trimSpace entry.accountUUID
  let row := quotaRow s env account
  let balanceAfter := (if currency = "CNY" then row.currentBalance else usdBalance s account) +
    entry.amountDelta
  .ok ({
    accountQuotaStates := s.accountQuotaStates.insert account
      (if currency = "CNY" then row.credited env balanceAfter else row)
    billingLedger := s.billingLedger.insert entry.id { entry with
        accountUUID := account
        currency := currency
        entryType := if currency = "USD" then "wallet_usd" else "topup"
        balanceAfter := balanceAfter } }, false)

end Accounts.Quota

import Accounts.Base.Json
import Accounts.Base.Table
import Accounts.Base.World

/-!
# The finance ledger

The in-memory store of financial facts: invoices, payments and refunds, which
are immutable, and *operations*, the durable intents to move money at a payment
provider (`internal/store/finance_memory.go`).

* A fact is created once per idempotency key; a repeated call returns the fact
  that is there, or is refused when it does not agree with it.
* An operation is claimed by an *attempt* (`beginFinanceOperation`), which may
  save a checkpoint before it calls the provider (`checkpointFinanceOperation`)
  and ends with an outcome (`finishFinanceOperation`). A failed operation may
  be claimed again; every step is also appended to the events of the operation.
* A refund operation reserves its amount of the payment from the moment it is
  claimed until it fails. A refund, or a refund operation, is refused when it
  exceeds what is left of the payment after all other refunds and reservations.

A store call holds the lock of the store from its first read to its last write,
so it is one step: a call that is refused changes nothing, and the result of a
call holds the new store. The clock and fresh identifiers are arguments
(`Env`). What is kept under an identifier and what the idempotency keys refer
to are separate maps; a key without its record would be a nil dereference
(`FinanceError.panicked`). The attempts of an operation are counted from 0, one
for a claim, and do not come near the bound `2 ^ 63` of an `int`.
-/

namespace Accounts

open Text

/-- A subscription of an account at a provider, as far as the ledger and the
    refund of a subscription read it. -/
structure SubscriptionRef where
  id : String
  externalID : String
  provider : String
  kind : String
  deriving DecidableEq

namespace Finance

/-! ## Records -/

/-- Why a call is refused. -/
inductive FinanceError
  | recordNotFound
  | idempotencyConflict
  | invoiceAlreadyPaid
  | refundExceedsPayment
  | operationInProgress
  | operationNotRetryable
  /-- A nil dereference: the call does not return. -/
  | panicked
  deriving DecidableEq

/-- The text of an error. -/
def FinanceError.text : FinanceError → String
  | .recordNotFound => "finance record not found"
  | .idempotencyConflict => "finance idempotency key conflicts with existing record"
  | .invoiceAlreadyPaid => "finance invoice already has a settled payment"
  | .refundExceedsPayment => "refund amount exceeds remaining payment amount"
  | .operationInProgress => "finance operation is already in progress"
  | .operationNotRetryable => "finance operation is not retryable"
  | .panicked => "runtime error: invalid memory address or nil pointer dereference"

/-- An invoice. Amounts are in the minor unit of the currency. -/
structure FinanceInvoice where
  id : String
  idempotencyKey : String
  accountUUID : String
  subscriptionUUID : String
  provider : String
  providerInvoiceID : String
  amountMinor : Int64
  currency : String
  description : String
  issuedAt : Time
  dueAt : Option Time
  servicePeriodStart : Option Time
  servicePeriodEnd : Option Time
  createdAt : Time
  deriving DecidableEq

/-- The payment of an invoice. -/
structure FinancePayment where
  id : String
  idempotencyKey : String
  invoiceID : String
  accountUUID : String
  provider : String
  providerPaymentID : String
  amountMinor : Int64
  currency : String
  paidAt : Time
  createdAt : Time
  deriving DecidableEq

/-- A refund of (a part of) a payment. -/
structure FinanceRefund where
  id : String
  idempotencyKey : String
  paymentID : String
  provider : String
  providerRefundID : String
  amountMinor : Int64
  currency : String
  reason : String
  refundedAt : Time
  createdAt : Time
  deriving DecidableEq

/-- The status of an operation. -/
inductive OperationStatus
  | pending
  | inProgress
  | succeeded
  | failed
  | reconciliationRequired
  deriving DecidableEq

/-- The spelling of a status. -/
def OperationStatus.text : OperationStatus → String
  | .pending => "pending"
  | .inProgress => "in_progress"
  | .succeeded => "succeeded"
  | .failed => "failed"
  | .reconciliationRequired => "reconcile_needed"

/-- The status an attempt may end with, from its spelling. -/
def OperationStatus.ofOutcome (text : String) : Option OperationStatus :=
  [succeeded, failed, reconciliationRequired].find? (·.text == text)

/-- An intent to move money, in the state its attempts left it in. -/
structure FinanceOperation where
  id : String
  idempotencyKey : String
  operationType : String
  targetType : String
  targetID : String
  provider : String
  providerOperationID : String
  status : OperationStatus
  attemptCount : Int
  nextAttemptAt : Option Time
  lastError : String
  request : RawMessage
  response : RawMessage
  createdAt : Time
  updatedAt : Time

/-- What happened to an operation. -/
inductive EventType
  | attemptStarted
  | attemptCheckpoint
  | attemptFinished (status : OperationStatus)
  | refundRecorded
  deriving DecidableEq

/-- An entry of the append-only history of an operation. -/
structure FinanceOperationEvent where
  id : String
  operationID : String
  attempt : Int
  eventType : EventType
  status : OperationStatus
  providerOperationID : String
  payload : RawMessage
  error : String
  occurredAt : Time

/-- The store: the accounts and their subscriptions, which the ledger reads,
    the records by identifier, and the identifiers by idempotency key. -/
structure Store where
  byID : List String
  subscriptions : Table String (List SubscriptionRef)
  financeInvoices : Table String FinanceInvoice
  financeInvoiceKeys : Table String String
  financePayments : Table String FinancePayment
  financePaymentKeys : Table String String
  financeRefunds : Table String FinanceRefund
  financeRefundKeys : Table String String
  financeOperations : Table String FinanceOperation
  financeOperationKeys : Table String String
  financeOperationEvents : Table String (List FinanceOperationEvent)

namespace Store

/-- A store with accounts and subscriptions, and no financial record. -/
def init (byID : List String) (subscriptions : Table String (List SubscriptionRef)) : Store :=
  ⟨byID, subscriptions, ∅, ∅, ∅, ∅, ∅, ∅, ∅, ∅, ∅⟩

variable (s : Store)

/-- The subscriptions of an account. -/
def subscriptionsOf (accountUUID : String) : List SubscriptionRef :=
  (s.subscriptions.lookup accountUUID).getD []

/-- The refund recorded under an idempotency key; empty when there is none. -/
def refundKey (key : String) : String := (s.financeRefundKeys.lookup key).getD ""

/-- Writing an operation, and appending to its history. -/
def putOperation (id : String) (op : FinanceOperation) (event : FinanceOperationEvent) : Store :=
  { s with
    financeOperations := s.financeOperations.insert id op
    financeOperationEvents := s.financeOperationEvents.insert event.operationID
      ((s.financeOperationEvents.lookup event.operationID).getD [] ++ [event]) }

end Store

variable [Unicode]

/-! ## Normal forms -/

/-- The identifier of a new record: the one given, or else a fresh one. -/
def financeID (env : Env) (id : String) : String :=
  if trimSpace id = "" then env.uuid.val else trimSpace id

/-- The name of a provider, in lower case; `local` when there is none. -/
def financeProvider (provider : String) : String :=
  if toLower (trimSpace provider) = "" then "local"
  else toLower (trimSpace provider)

/-- A currency code, in upper case. -/
def financeCurrency (currency : String) : String := toUpper (trimSpace currency)

/-- Three letters from `A` to `Z`. -/
def validFinanceCurrency (currency : String) : Bool :=
  currency.toList.length == 3 && currency.toList.all fun r => 'A' ≤ r && r ≤ 'Z'

/-- A message, with an empty object for no message at all. -/
def financeJSON : RawMessage → RawMessage
  | .empty => .emptyObject
  | raw => raw

/-- Two messages have the same content, as untyped values. -/
def jsonEqual (a b : RawMessage) : Bool :=
  match a.toAny, b.toAny with
  | some left, some right => left.equal right
  | _, _ => false

omit [Unicode] in
theorem jsonEqual_self (raw : RawMessage) : jsonEqual raw raw = raw.toAny.isSome := by
  rw [jsonEqual]
  cases raw.toAny with
  | none => rfl
  | some v => exact v.equal_self

/-! ## Refund requests -/

/-- The part of the request of a refund operation that the ledger reads. -/
structure RefundPayload where
  amountMinor : Int64 := 0
  currency : String := ""
  deriving DecidableEq

/-- Assigning a member of the request to the field of its name. -/
def RefundPayload.assign (field : String) (v : Json) (p : RefundPayload) : RefundPayload × Bool :=
  if field = "amount_minor" then
    ({ p with amountMinor := (v.assignInt64 p.amountMinor).1 }, (v.assignInt64 p.amountMinor).2)
  else
    ({ p with currency := (v.assignString p.currency).1 }, (v.assignString p.currency).2)

/-- The amount and the currency a refund operation asks for; none when the
    request does not give a positive amount and a currency. -/
def financeRefundRequest (operation : FinanceOperation) : Option (Int64 × String) :=
  match operation.request.decode ["amount_minor", "currency"] RefundPayload.assign {} with
  | none => none
  | some payload =>
    if payload.amountMinor ≤ 0 ∨ ¬ validFinanceCurrency (financeCurrency payload.currency) then none
    else some (payload.amountMinor, financeCurrency payload.currency)

/-- A refund operation holds its amount of the payment unless it failed. -/
def financeOperationReservesRefund (operation : FinanceOperation) : Bool :=
  operation.operationType == "refund" && operation.targetType == "payment" &&
    (operation.status == .pending || operation.status == .inProgress ||
      operation.status == .succeeded || operation.status == .reconciliationRequired)

/-- An attempt at the refund of a subscription that did not end within two
    minutes: it may be claimed again. -/
def financeRefundAttemptExpired (env : Env) (operation : FinanceOperation) : Bool :=
  operation.status == .inProgress && operation.operationType == "refund" &&
    hasPrefix operation.idempotencyKey "subscription-refund:" &&
    2 * Time.minute < env.now - operation.updatedAt

/-- A refund is the outcome of a refund operation. -/
def financeRefundMatchesOperation (operation : FinanceOperation) (refund : FinanceRefund) : Bool :=
  match financeRefundRequest operation with
  | none => false
  | some (amount, currency) =>
    financeOperationReservesRefund operation && operation.targetID == refund.paymentID &&
      operation.provider == refund.provider && amount == refund.amountMinor &&
      currency == refund.currency && refund.providerRefundID != "" &&
      (operation.providerOperationID == "" ||
        operation.providerOperationID == refund.providerRefundID)

/-! ## Facts -/

/-- The service period of an invoice is given with both ends in order, or not at all. -/
def FinanceInvoice.validServicePeriod (invoice : FinanceInvoice) : Bool :=
  match invoice.servicePeriodStart, invoice.servicePeriodEnd with
  | none, none => true
  | some start, some stop => start < stop
  | _, _ => false

/-- The fields of a new invoice, in normal form. It is issued now when no time is given. -/
def FinanceInvoice.normalized (env : Env) (invoice : FinanceInvoice) : FinanceInvoice :=
  { invoice with
    id := financeID env invoice.id
    idempotencyKey := trimSpace invoice.idempotencyKey
    accountUUID := trimSpace invoice.accountUUID
    subscriptionUUID := trimSpace invoice.subscriptionUUID
    provider := financeProvider invoice.provider
    currency := financeCurrency invoice.currency
    providerInvoiceID := trimSpace invoice.providerInvoiceID
    description := trimSpace invoice.description
    issuedAt := if invoice.issuedAt.isZero then env.now else invoice.issuedAt
    createdAt := env.now }

/-- A repeated invoice agrees with the one that is there; the time of issue
    counts when it is given. -/
def FinanceInvoice.agrees (old copy : FinanceInvoice) (issuedAtProvided : Bool) : Prop :=
  old.accountUUID = copy.accountUUID ∧ old.subscriptionUUID = copy.subscriptionUUID ∧
    old.provider = copy.provider ∧ old.providerInvoiceID = copy.providerInvoiceID ∧
    old.amountMinor = copy.amountMinor ∧ old.currency = copy.currency ∧
    old.description = copy.description ∧ copy.dueAt = old.dueAt ∧
    (issuedAtProvided → copy.issuedAt = old.issuedAt)

instance (old copy : FinanceInvoice) (b : Bool) : Decidable (old.agrees copy b) :=
  inferInstanceAs (Decidable (_ ∧ _))

/-- A new invoice in the store. -/
def Store.insertInvoice (s : Store) (copy : FinanceInvoice) : Store :=
  { s with
    financeInvoices := s.financeInvoices.insert copy.id copy
    financeInvoiceKeys := s.financeInvoiceKeys.insert copy.idempotencyKey copy.id }

/-- Creating an invoice: whether it is new, and the invoice. A repeated call
    may only add the service period the invoice did not have. -/
def createFinanceInvoice (env : Env) (s : Store) (invoice : FinanceInvoice) :
    Except FinanceError (Store × Bool × FinanceInvoice) :=
  if trimSpace invoice.idempotencyKey = "" ∨ trimSpace invoice.accountUUID = "" ∨
      invoice.amountMinor < 0 then .error .idempotencyConflict else
  let copy := invoice.normalized env
  if ¬ validFinanceCurrency copy.currency then .error .idempotencyConflict else
  if ¬ copy.validServicePeriod then .error .idempotencyConflict else
  if copy.accountUUID ∉ s.byID then .error .recordNotFound else
  if copy.subscriptionUUID ≠ "" ∧ ∀ subscription ∈ s.subscriptionsOf copy.accountUUID,
      subscription.id ≠ copy.subscriptionUUID then .error .recordNotFound else
  match s.financeInvoiceKeys.lookup copy.idempotencyKey with
  | some id =>
    match s.financeInvoices.lookup id with
    | none => .error .panicked
    | some old =>
      if ¬ old.agrees copy (!invoice.issuedAt.isZero) then .error .idempotencyConflict else
      let known (old : FinanceInvoice) : FinanceInvoice :=
        { invoice with
          id := old.id
          createdAt := old.createdAt
          servicePeriodStart := old.servicePeriodStart
          servicePeriodEnd := old.servicePeriodEnd }
      if copy.servicePeriodStart = none then .ok (s, false, known old) else
      if old.servicePeriodStart ≠ none ∨ old.servicePeriodEnd ≠ none then
        if copy.servicePeriodStart ≠ old.servicePeriodStart ∨
            copy.servicePeriodEnd ≠ old.servicePeriodEnd then .error .idempotencyConflict
        else .ok (s, false, known old)
      else
        let old := { old with
          servicePeriodStart := copy.servicePeriodStart
          servicePeriodEnd := copy.servicePeriodEnd }
        .ok ({ s with financeInvoices := s.financeInvoices.insert id old }, false, known old)
  | none =>
    if copy.id ∈ s.financeInvoices then .error .idempotencyConflict else
    if copy.providerInvoiceID ≠ "" ∧ ∃ existing ∈ s.financeInvoices.rows,
        existing.provider = copy.provider ∧
          existing.providerInvoiceID = copy.providerInvoiceID then .error .idempotencyConflict else
    .ok (s.insertInvoice copy, true, copy)

/-- The fields of a new payment, in normal form. It is paid now when no time is given. -/
def FinancePayment.normalized (env : Env) (payment : FinancePayment) : FinancePayment :=
  { payment with
    id := financeID env payment.id
    idempotencyKey := trimSpace payment.idempotencyKey
    invoiceID := trimSpace payment.invoiceID
    accountUUID := trimSpace payment.accountUUID
    provider := financeProvider payment.provider
    currency := financeCurrency payment.currency
    providerPaymentID := trimSpace payment.providerPaymentID
    paidAt := if payment.paidAt.isZero then env.now else payment.paidAt
    createdAt := env.now }

/-- A repeated payment agrees with the one that is there; the time of payment
    counts when it is given. -/
def FinancePayment.agrees (old copy : FinancePayment) (paidAtProvided : Bool) : Prop :=
  old.invoiceID = copy.invoiceID ∧ old.amountMinor = copy.amountMinor ∧
    old.currency = copy.currency ∧ old.provider = copy.provider ∧
    old.providerPaymentID = copy.providerPaymentID ∧
    (paidAtProvided → copy.paidAt = old.paidAt)

instance (old copy : FinancePayment) (b : Bool) : Decidable (old.agrees copy b) :=
  inferInstanceAs (Decidable (_ ∧ _))

/-- A new payment in the store. -/
def Store.insertPayment (s : Store) (copy : FinancePayment) : Store :=
  { s with
    financePayments := s.financePayments.insert copy.id copy
    financePaymentKeys := s.financePaymentKeys.insert copy.idempotencyKey copy.id }

/-- Recording the payment of an invoice: whether it is new, and the payment. An
    invoice is paid once, and in full. -/
def recordFinancePayment (env : Env) (s : Store) (payment : FinancePayment) :
    Except FinanceError (Store × Bool × FinancePayment) :=
  if trimSpace payment.idempotencyKey = "" ∨ payment.amountMinor ≤ 0 then
    .error .idempotencyConflict else
  let copy := payment.normalized env
  if ¬ validFinanceCurrency copy.currency then .error .idempotencyConflict else
  match s.financePaymentKeys.lookup copy.idempotencyKey with
  | some id =>
    match s.financePayments.lookup id with
    | none => .error .panicked
    | some old =>
      if ¬ old.agrees copy (!payment.paidAt.isZero) then .error .idempotencyConflict else
      .ok (s, false, { payment with id := old.id, createdAt := old.createdAt })
  | none =>
    match s.financeInvoices.lookup copy.invoiceID with
    | none => .error .idempotencyConflict
    | some invoice =>
      if invoice.accountUUID ≠ copy.accountUUID ∨ invoice.currency ≠ copy.currency ∨
          invoice.amountMinor ≠ copy.amountMinor then .error .idempotencyConflict else
      if ∃ existing ∈ s.financePayments.rows, existing.invoiceID = copy.invoiceID then
        .error .invoiceAlreadyPaid else
      if copy.id ∈ s.financePayments then .error .idempotencyConflict else
      if copy.providerPaymentID ≠ "" ∧ ∃ existing ∈ s.financePayments.rows,
          existing.provider = copy.provider ∧
            existing.providerPaymentID = copy.providerPaymentID then
        .error .idempotencyConflict else
      .ok (s.insertPayment copy, true, copy)

/-! ## Refunds -/

/-- The fields of a new refund, in normal form. It is refunded now when no time is given. -/
def FinanceRefund.normalized (env : Env) (refund : FinanceRefund) : FinanceRefund :=
  { refund with
    id := financeID env refund.id
    idempotencyKey := trimSpace refund.idempotencyKey
    paymentID := trimSpace refund.paymentID
    provider := financeProvider refund.provider
    currency := financeCurrency refund.currency
    providerRefundID := trimSpace refund.providerRefundID
    reason := trimSpace refund.reason
    refundedAt := if refund.refundedAt.isZero then env.now else refund.refundedAt
    createdAt := env.now }

/-- A repeated refund agrees with the one that is there; the time of the refund
    counts when it is given. -/
def FinanceRefund.agrees (old copy : FinanceRefund) (refundedAtProvided : Bool) : Prop :=
  old.paymentID = copy.paymentID ∧ old.amountMinor = copy.amountMinor ∧
    old.currency = copy.currency ∧ old.provider = copy.provider ∧
    old.providerRefundID = copy.providerRefundID ∧ old.reason = copy.reason ∧
    (refundedAtProvided → copy.refundedAt = old.refundedAt)

instance (old copy : FinanceRefund) (b : Bool) : Decidable (old.agrees copy b) :=
  inferInstanceAs (Decidable (_ ∧ _))

namespace Store

/-- What a refund takes of a payment, in the loop over all refunds. The refund
    `ownFact` is passed over. -/
def refundTerm (paymentID : String) (ownFact : Option String) (refund : FinanceRefund) : Int64 :=
  if refund.paymentID = paymentID ∧ some refund.id ≠ ownFact then refund.amountMinor else 0

variable (s : Store)

/-- What an operation reserves of a payment, in the loop over all operations: its amount, when it is
    not the one under `key` and its refund is not recorded yet. -/
def reservationTerm (paymentID key : String) (operation : FinanceOperation) : Int64 :=
  if operation.idempotencyKey ≠ key ∧ financeOperationReservesRefund operation ∧
      operation.targetID = paymentID ∧ s.refundKey operation.idempotencyKey = "" then
    match financeRefundRequest operation with
    | some (amount, _) => amount
    | none => 0
  else 0

/-- The amounts a capacity check adds up: what is taken of a payment, apart from
    the refund `ownFact` and the operation under `key`. -/
def capacityTerms (paymentID key : String) (ownFact : Option String) : List Int64 :=
  s.financeRefunds.rows.map (refundTerm paymentID ownFact) ++
    s.financeOperations.rows.map (s.reservationTerm paymentID key)

/-- What the operation under a key becomes when its refund is recorded: it is
    bound to the refund at the provider. -/
def bindRefund (env : Env) (copy : FinanceRefund) (id : String) (op : FinanceOperation) : Store :=
  s.putOperation id { op with providerOperationID := copy.providerRefundID }
    { id := env.eventUUID.val
      operationID := id
      attempt := op.attemptCount
      eventType := .refundRecorded
      status := op.status
      providerOperationID := copy.providerRefundID
      payload := .doc (.object [("refund_uuid", .string copy.id)])
      error := ""
      occurredAt := copy.createdAt }

/-- A new refund in the store. -/
def insertRefund (copy : FinanceRefund) : Store :=
  { s with
    financeRefunds := s.financeRefunds.insert copy.id copy
    financeRefundKeys := s.financeRefundKeys.insert copy.idempotencyKey copy.id }

end Store

/-- The operation with the key of a refund, if there is one, is the one whose
    outcome the refund is, and no other operation has that outcome. -/
def checkRefundOperation (s : Store) (copy : FinanceRefund) : Except FinanceError Unit :=
  match s.financeOperationKeys.lookup copy.idempotencyKey with
  | none => .ok ()
  | some operationID =>
    match s.financeOperations.lookup operationID with
    | none => .error .panicked
    | some operation =>
      if ¬ financeRefundMatchesOperation operation copy then .error .idempotencyConflict else
      if ∃ other ∈ s.financeOperations.rows, other.id ≠ operationID ∧
          other.provider = copy.provider ∧ other.operationType = "refund" ∧
          other.providerOperationID = copy.providerRefundID then .error .idempotencyConflict
      else .ok ()

/-- Recording a refund: whether it is new, and the refund. The operation with
    the key of the refund is bound to it. -/
def recordFinanceRefund (env : Env) (s : Store) (refund : FinanceRefund) :
    Except FinanceError (Store × Bool × FinanceRefund) :=
  if trimSpace refund.idempotencyKey = "" ∨ refund.amountMinor ≤ 0 then
    .error .idempotencyConflict else
  let copy := refund.normalized env
  if ¬ validFinanceCurrency copy.currency then .error .idempotencyConflict else
  match s.financeRefundKeys.lookup copy.idempotencyKey with
  | some id =>
    match s.financeRefunds.lookup id with
    | none => .error .panicked
    | some old =>
      if ¬ old.agrees copy (!refund.refundedAt.isZero) then .error .idempotencyConflict else
      .ok (s, false, { refund with id := old.id, createdAt := old.createdAt })
  | none =>
    match checkRefundOperation s copy with
    | .error e => .error e
    | .ok () =>
      match s.financePayments.lookup copy.paymentID with
      | none => .error .recordNotFound
      | some payment =>
        if payment.currency ≠ copy.currency then .error .recordNotFound else
        let total := Int64.sum64 (s.capacityTerms copy.paymentID copy.idempotencyKey none)
        if payment.amountMinor - total < copy.amountMinor then .error .refundExceedsPayment else
        if copy.id ∈ s.financeRefunds then .error .idempotencyConflict else
        if copy.providerRefundID ≠ "" ∧ ∃ existing ∈ s.financeRefunds.rows,
            existing.provider = copy.provider ∧
              existing.providerRefundID = copy.providerRefundID then
          .error .idempotencyConflict else
        let s := s.insertRefund copy
        match s.financeOperationKeys.lookup copy.idempotencyKey with
        | none => .ok (s, true, copy)
        | some id =>
          if id = "" then .ok (s, true, copy) else
          match s.financeOperations.lookup id with
          | none => .error .panicked
          | some op => .ok (s.bindRefund env copy id op, true, copy)

/-! ## Operations -/

/-- The fields of a request to claim an operation, in normal form. -/
def FinanceOperation.normalized (operation : FinanceOperation) : FinanceOperation :=
  { operation with
    operationType := trimSpace operation.operationType
    targetType := trimSpace operation.targetType
    targetID := trimSpace operation.targetID
    provider := financeProvider operation.provider
    request := financeJSON operation.request }

/-- What a refund operation asks for, and nothing for an operation of another type. -/
def refundTerms (operation : FinanceOperation) : Except FinanceError (Option (Int64 × String)) :=
  if operation.operationType ≠ "refund" then .ok none else
  if operation.targetType ≠ "payment" ∨ operation.targetID = "" then .error .idempotencyConflict else
  match financeRefundRequest operation with
  | none => .error .idempotencyConflict
  | some terms => .ok (some terms)

/-- A new operation with the fields of a request. -/
def FinanceOperation.opened (env : Env) (key : String) (operation : FinanceOperation) :
    FinanceOperation :=
  { operation.normalized with
    id := financeID env operation.id
    idempotencyKey := key
    status := .pending
    response := financeJSON .empty
    createdAt := env.now }

/-- The operation a claim is for, and whether it is to be attempted: the one with the key, when it
    agrees with the request and is not in progress, or a new one. -/
def claimedOperation (env : Env) (s : Store) (key : String) (operation : FinanceOperation) :
    Except FinanceError (Bool × FinanceOperation) :=
  match s.financeOperationKeys.lookup key with
  | some storedID =>
    match s.financeOperations.lookup storedID with
    | none => .error .panicked
    | some stored =>
      if stored.operationType ≠ operation.operationType ∨ stored.targetType ≠ operation.targetType ∨
          stored.targetID ≠ operation.targetID ∨ stored.provider ≠ operation.provider ∨
          ¬ jsonEqual stored.request operation.request then .error .idempotencyConflict else
      if stored.status = .inProgress ∧ ¬ financeRefundAttemptExpired env stored then
        .error .operationInProgress else
      if stored.status = .succeeded then .ok (false, stored) else
      if stored.status ≠ .pending ∧ stored.status ≠ .failed ∧
          stored.status ≠ .reconciliationRequired ∧ ¬ financeRefundAttemptExpired env stored then
        .error .operationNotRetryable else
      .ok (true, stored)
  | none =>
    let stored := operation.opened env key
    if stored.id ∈ s.financeOperations then .error .idempotencyConflict else .ok (true, stored)

/-- A refund operation fits in what is left of its payment. -/
def checkRefundCapacity (s : Store) (key : String) (operation : FinanceOperation) :
    Option (Int64 × String) → Except FinanceError Unit
  | none => .ok ()
  | some (refundAmount, refundCurrency) =>
    match s.financePayments.lookup operation.targetID with
    | none => .error .recordNotFound
    | some payment =>
      if payment.currency ≠ refundCurrency then .error .recordNotFound else
      let reserved := Int64.sum64 (s.capacityTerms payment.id key (some (s.refundKey key)))
      if payment.amountMinor - reserved < refundAmount then .error .refundExceedsPayment
      else .ok ()

section

variable (env : Env)

/-- An attempt at an operation. -/
def FinanceOperation.attempted (stored : FinanceOperation) : FinanceOperation :=
  { stored with
    attemptCount := stored.attemptCount + 1
    status := .inProgress
    updatedAt := env.now }

/-- The store with an attempt at the operation `stored`. -/
def Store.startAttempt (s : Store) (key : String) (stored : FinanceOperation) : Store :=
  { s with
    financeOperationKeys :=
      if key ∈ s.financeOperationKeys then s.financeOperationKeys
      else s.financeOperationKeys.insert key stored.id }.putOperation stored.id
    (stored.attempted env)
    { id := env.eventUUID.val
      operationID := stored.id
      attempt := (stored.attempted env).attemptCount
      eventType := .attemptStarted
      status := .inProgress
      providerOperationID := ""
      payload := stored.request
      error := ""
      occurredAt := env.now }

/-- Claiming an operation: whether it is claimed, and the operation. It is not
    when it succeeded before. -/
def beginFinanceOperation (s : Store) (operation : FinanceOperation) :
    Except FinanceError (Store × Bool × FinanceOperation) :=
  if trimSpace operation.idempotencyKey = "" ∨ trimSpace operation.operationType = "" then
    .error .idempotencyConflict else
  let key := trimSpace operation.idempotencyKey
  let operation := operation.normalized
  match refundTerms operation with
  | .error e => .error e
  | .ok terms =>
    match claimedOperation env s key operation with
    | .error e => .error e
    | .ok (false, stored) => .ok (s, false, stored)
    | .ok (true, stored) =>
      match checkRefundCapacity s key operation terms with
      | .error e => .error e
      | .ok () => .ok (s.startAttempt env key stored, true, stored.attempted env)

/-- An operation with a saved response. -/
def FinanceOperation.checkpointed (op : FinanceOperation) (response : RawMessage) :
    FinanceOperation :=
  { op with response := financeJSON response, updatedAt := env.now }

/-- Saving the point before a call of the provider. -/
def checkpointFinanceOperation (s : Store) (operationID : String) (expectedAttempt : Int)
    (response : RawMessage) : Except FinanceError Store :=
  match s.financeOperations.lookup operationID with
  | none => .error .operationNotRetryable
  | some op =>
    if op.status ≠ .inProgress ∨ op.attemptCount ≠ expectedAttempt then
      .error .operationNotRetryable else
    let op := op.checkpointed env response
    .ok (s.putOperation operationID op
      { id := env.eventUUID.val
        operationID := op.id
        attempt := op.attemptCount
        eventType := .attemptCheckpoint
        status := op.status
        providerOperationID := ""
        payload := financeJSON response
        error := ""
        occurredAt := env.now })

end

/-- What an attempt ends with: its status, the reference at the provider, its
    response, an error, and when to try again. -/
structure Outcome where
  status : String
  providerOperationID : String
  response : RawMessage
  operationErr : Option String
  nextAttemptAt : Option Time

/-- The reference at the provider an operation has after an attempt: one that it has is kept. -/
def FinanceOperation.finalProviderID (operation : FinanceOperation) (providerID : String) :
    Except FinanceError String :=
  if operation.providerOperationID = "" then .ok providerID else
  if providerID ≠ "" ∧ providerID ≠ operation.providerOperationID then .error .idempotencyConflict
  else .ok operation.providerOperationID

/-- An operation after an attempt. -/
def FinanceOperation.finished (env : Env) (operation : FinanceOperation) (status : OperationStatus)
    (providerID : String) (outcome : Outcome) : FinanceOperation :=
  { operation with
    status := if outcome.operationErr.isSome ∧ status ≠ .reconciliationRequired then .failed
      else status
    providerOperationID := providerID
    response := financeJSON outcome.response
    nextAttemptAt := outcome.nextAttemptAt
    lastError := outcome.operationErr.getD ""
    updatedAt := env.now }

/-- Ending an attempt. When an attempt is expected, it is that one. -/
def finishFinanceOperation (env : Env) (s : Store) (operationID : String) (outcome : Outcome)
    (expectedAttempt : Option Int) : Except FinanceError Store :=
  match OperationStatus.ofOutcome outcome.status with
  | none => .error .operationNotRetryable
  | some status =>
    match s.financeOperations.lookup (trimSpace operationID) with
    | none => .error .recordNotFound
    | some operation =>
      if operation.status ≠ .inProgress then .error .operationNotRetryable else
      if ∃ attempt ∈ expectedAttempt, operation.attemptCount ≠ attempt then
        .error .operationNotRetryable else
      match operation.finalProviderID (trimSpace outcome.providerOperationID) with
      | .error e => .error e
      | .ok providerID =>
        if providerID ≠ "" ∧ ∃ existing ∈ s.financeOperations.rows, existing.id ≠ operation.id ∧
            existing.provider = operation.provider ∧
            existing.operationType = operation.operationType ∧
            existing.providerOperationID = providerID then .error .idempotencyConflict else
        let op := operation.finished env status providerID outcome
        .ok (s.putOperation (trimSpace operationID) op
          { id := env.eventUUID.val
            operationID := op.id
            attempt := op.attemptCount
            eventType := .attemptFinished op.status
            status := op.status
            providerOperationID := op.providerOperationID
            payload := financeJSON outcome.response
            error := op.lastError
            occurredAt := env.now })

/-! ## Reads -/

/-- The payment with a reference at a provider. -/
def getFinancePaymentByProvider (s : Store) (provider providerPaymentID : String) :
    Except FinanceError FinancePayment :=
  if trimSpace providerPaymentID = "" then .error .recordNotFound else
  match s.financePayments.rows.find? fun payment =>
      payment.provider == financeProvider provider &&
        payment.providerPaymentID == trimSpace providerPaymentID with
  | none => .error .recordNotFound
  | some payment => .ok payment

/-- The invoice with an identifier. -/
def getFinanceInvoice (s : Store) (id : String) : Except FinanceError FinanceInvoice :=
  match s.financeInvoices.lookup (trimSpace id) with
  | none => .error .recordNotFound
  | some invoice => .ok invoice

/-- The operation with an idempotency key. -/
def getFinanceOperation (s : Store) (idempotencyKey : String) :
    Except FinanceError FinanceOperation :=
  match s.financeOperationKeys.lookup (trimSpace idempotencyKey) with
  | none => .error .recordNotFound
  | some id =>
    match s.financeOperations.lookup id with
    | none => .error .panicked
    | some op =>
      .ok { op with request := financeJSON op.request, response := financeJSON op.response }

/-! ## Runs -/

/-- A call of the ledger. -/
inductive Call
  | createFinanceInvoice (env : Env) (invoice : FinanceInvoice)
  | recordFinancePayment (env : Env) (payment : FinancePayment)
  | recordFinanceRefund (env : Env) (refund : FinanceRefund)
  | beginFinanceOperation (env : Env) (operation : FinanceOperation)
  | checkpointFinanceOperation (env : Env) (operationID : String) (expectedAttempt : Int)
      (response : RawMessage)
  | finishFinanceOperation (env : Env) (operationID : String) (outcome : Outcome)
      (expectedAttempt : Option Int)

/-- The store after a call. -/
def Call.exec (s : Store) : Call → Except FinanceError Store
  | .createFinanceInvoice env invoice => (Finance.createFinanceInvoice env s invoice).map (·.1)
  | .recordFinancePayment env payment => (Finance.recordFinancePayment env s payment).map (·.1)
  | .recordFinanceRefund env refund => (Finance.recordFinanceRefund env s refund).map (·.1)
  | .beginFinanceOperation env operation =>
    (Finance.beginFinanceOperation env s operation).map (·.1)
  | .checkpointFinanceOperation env operationID expectedAttempt response =>
    Finance.checkpointFinanceOperation env s operationID expectedAttempt response
  | .finishFinanceOperation env operationID outcome expectedAttempt =>
    Finance.finishFinanceOperation env s operationID outcome expectedAttempt

/-- The store after a call that may be refused. -/
def step (s : Store) (c : Call) : Store :=
  match c.exec s with
  | .ok s' => s'
  | .error _ => s

end Finance

end Accounts

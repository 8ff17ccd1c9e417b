import Accounts.Finance.Ledger

/-!
# The refund of a subscription

The worker that refunds the payment of a subscription at the provider
(`runSubscriptionRefund` in `api/billing_refund_operations.go`), as a program
over the finance ledger. It claims the refund operation, checks it against the
payment, the invoice and the subscription, and asks the provider for refunds of
the payment. Only when there is none, and no earlier attempt may have asked for
one, it saves a checkpoint and requests a refund. Then it validates and records
the refund, cancels the subscription and ends the attempt, whatever happened.

A step of a worker (`Worker.step`) is one call of the store, or one call of the
provider with its answer. A step that sends the request for a refund is
separate from the one that gets the answer. The answers are arbitrary
(`Reply`): a call may fail although the provider carried it out. Any number of
workers run on one store (`System`); between two steps of a worker, others may
take any number of steps, and a worker may stop anywhere.

Calls that only concern other records are taken as answers too: the referral
risk of a refund, and the access and the quota of the account.
-/

namespace Accounts.Finance

open Text FinanceError

/-! ## Refunds at the provider -/

/-- A refund, as the provider reports it. -/
structure StripeRefund where
  id : String
  status : String
  paymentIntent : Json
  amount : Int64
  currency : String
  reason : String
  created : Int64
  metadata : Table String String

/-- The key of the operation a refund belongs to, as its metadata says. -/
def StripeRefund.operationKey (refund : StripeRefund) : String :=
  (refund.metadata.lookup "finance_operation_key").getD ""

/-- The document of a refund. -/
def StripeRefund.toJson (refund : StripeRefund) : Json :=
  .object [("id", .string refund.id), ("status", .string refund.status),
    ("payment_intent", refund.paymentIntent),
    ("amount", .number { negative := refund.amount < 0, integer := refund.amount.toInt.natAbs }),
    ("currency", .string refund.currency), ("reason", .string refund.reason),
    ("created", .number { negative := refund.created < 0, integer := refund.created.toInt.natAbs }),
    ("metadata", .object (refund.metadata.entries.map fun e => (e.1, .string e.2)))]

/-- The identifier of a reference, which is given alone or with the object. -/
def customerIDFromAny : Json → String
  | .string s => trimSpace s
  | .object members => match members.reverse.lookup "id" with
    | some (.string id) => trimSpace id
    | _ => ""
  | _ => ""

/-! ## The intent of an operation -/

/-- What the request of the refund of a subscription says. -/
structure SubscriptionRefundIntent where
  paymentID : String := ""
  accountID : String := ""
  subscriptionID : String := ""
  externalID : String := ""
  paymentIntentID : String := ""
  amountMinor : Int64 := 0
  currency : String := ""

namespace SubscriptionRefundIntent

/-- The names of the members of the request. -/
def fields : List String :=
  ["payment_uuid", "account_uuid", "subscription_uuid", "subscription_external_id",
    "payment_intent_id", "amount_minor", "currency"]

/-- Assigning a member of the request to the field of its name. -/
def assign (field : String) (v : Json) (i : SubscriptionRefundIntent) :
    SubscriptionRefundIntent × Bool :=
  match field with
  | "payment_uuid" => let (x, ok) := v.assignString i.paymentID; ({ i with paymentID := x }, ok)
  | "account_uuid" => let (x, ok) := v.assignString i.accountID; ({ i with accountID := x }, ok)
  | "subscription_uuid" =>
    let (x, ok) := v.assignString i.subscriptionID; ({ i with subscriptionID := x }, ok)
  | "subscription_external_id" =>
    let (x, ok) := v.assignString i.externalID; ({ i with externalID := x }, ok)
  | "payment_intent_id" =>
    let (x, ok) := v.assignString i.paymentIntentID; ({ i with paymentIntentID := x }, ok)
  | "amount_minor" => let (x, ok) := v.assignInt64 i.amountMinor; ({ i with amountMinor := x }, ok)
  | _ => let (x, ok) := v.assignString i.currency; ({ i with currency := x }, ok)

end SubscriptionRefundIntent

/-- The idempotency key of the refund of a subscription. -/
def subscriptionRefundKey (sub : SubscriptionRef) : String := "subscription-refund:" ++ sub.id

/-- The subscriptions of an account, or the text of an error. -/
def listSubscriptionsByUser (s : Store) (userID : String) : Except String (List SubscriptionRef) :=
  if trimSpace userID = "" then .error "user not found"
  else .ok (s.subscriptionsOf (trimSpace userID))

variable [Unicode]

/-- The intent of an operation that is the refund of a payment at Stripe. -/
def checkedIntent (op : FinanceOperation) : Except String SubscriptionRefundIntent :=
  match op.request.decode SubscriptionRefundIntent.fields SubscriptionRefundIntent.assign {} with
  | none => .error idempotencyConflict.text
  | some intent =>
    if op.operationType ≠ "refund" ∨ op.targetType ≠ "payment" ∨ op.provider ≠ "stripe" ∨
        op.targetID ≠ intent.paymentID ∨ intent.accountID = "" ∨ intent.subscriptionID = "" ∨
        intent.amountMinor ≤ 0 then .error idempotencyConflict.text
    else .ok intent

/-- The payment is the one of the operation and its intent. -/
def paymentMatches (op : FinanceOperation) (intent : SubscriptionRefundIntent)
    (payment : FinancePayment) : Bool :=
  payment.id == op.targetID && payment.provider == op.provider &&
    payment.accountUUID == intent.accountID && payment.amountMinor == intent.amountMinor &&
    payment.currency == intent.currency

/-- The invoice is the one of the payment and the intent. -/
def invoiceMatches (intent : SubscriptionRefundIntent) (payment : FinancePayment)
    (invoice : FinanceInvoice) : Bool :=
  invoice.accountUUID == intent.accountID && invoice.subscriptionUUID == intent.subscriptionID &&
    invoice.provider == "stripe" && invoice.amountMinor == payment.amountMinor &&
    invoice.currency == payment.currency

section

variable (op : FinanceOperation) (intent : SubscriptionRefundIntent)

/-- The subscription is the one of the operation and its intent. -/
def subscriptionMatches (sub : SubscriptionRef) : Bool :=
  sub.id == intent.subscriptionID && sub.externalID == intent.externalID &&
    sub.provider == "stripe" && sub.kind == "subscription" &&
    op.idempotencyKey == subscriptionRefundKey sub

/-- The refund is the outcome of the operation: it carries its key, and has the
    amount and the payment of its intent. -/
def refundMatches (refund : StripeRefund) : Bool :=
  refund.operationKey == op.idempotencyKey && hasPrefix refund.id "re_" &&
    0 < refund.created && refund.amount == intent.amountMinor &&
    equalFold refund.currency intent.currency &&
    customerIDFromAny refund.paymentIntent == intent.paymentIntentID &&
    (op.providerOperationID == "" || op.providerOperationID == refund.id)

end

/-! ## The worker -/

/-- What the intent of an operation is loaded for: the query of the provider,
    the validation of the refund it reported, or that of a refund to record. -/
inductive Purpose
  | query
  | validate (refund : StripeRefund)
  | record (refund : StripeRefund) (payment : FinancePayment)

/-- The next read when the intent of an operation is loaded. -/
inductive LoadStep
  | payment
  | invoice (payment : FinancePayment)
  | subscriptions

/-- What a worker does next. -/
inductive Phase
  | begin
  | load (purpose : Purpose) (op : FinanceOperation) (step : LoadStep)
  | fetchRefund
  | fetchPage (page : Nat) (found : Option StripeRefund)
  | checkpoint
  | post
  | awaitPost
  | recordPayment (refund : StripeRefund)
  | recordOperation (refund : StripeRefund) (payment : FinancePayment)
  | recordRefund (refund : StripeRefund) (payment : FinancePayment)
  | recordInvoice (payment : FinancePayment)
  | recordRisk
  | fetchSubscription
  | cancelSubscription
  | revoke
  | finish (resultErr : Option String)

/-- A worker: the operation it was called with, and has claimed after its first
    step, and its variables. -/
structure Worker where
  op : FinanceOperation
  mayHaveSubmitted : Bool
  intent : SubscriptionRefundIntent
  refund : Option StripeRefund
  phase : Phase

/-- The answers of the outside to a step, one for each kind of call: an error,
    or what was asked for. -/
structure Reply where
  /-- The refund with an identifier, or the one that was requested. -/
  refund : Except String StripeRefund
  /-- A page of the refunds of a payment, and whether there are more. -/
  page : Except String (List StripeRefund × Bool)
  /-- The request for a refund could not be sent at all. -/
  unsent : Option String
  /-- The referral risk could not be recorded. -/
  risk : Option String
  /-- The identifier and the status of the subscription at the provider. -/
  subscription : Except String (String × String)
  /-- The subscription could not be cancelled. -/
  cancel : Option String
  /-- The time is up, or the access could not be revoked. -/
  revoke : Option String

/-- A request for a refund, as it is sent to the provider. -/
structure RefundPost where
  operationID : String
  idempotencyKey : String
  paymentIntentID : String
  amount : Int64

/-- What an earlier attempt saved about its request for a refund. -/
def previousStarted (response : RawMessage) : Option Bool :=
  (response.decode ["provider_request_started"] (fun _ v old => v.assignBool old) none).join

namespace Worker

section

variable (w : Worker)

/-- Going on with another phase. -/
def goto (phase : Phase) : Worker := { w with phase := phase }

/-- Ending the attempt with an error. -/
def fail (err : String) : Worker := w.goto (.finish (some err))

/-- The worker after it claimed the operation `op`. It must assume that an earlier attempt requested
    a refund, unless that attempt saved that it did not. -/
def claim (op : FinanceOperation) : Worker :=
  { w with
    op := op
    mayHaveSubmitted := (previousStarted op.response).getD (1 < op.attemptCount)
    phase := .load .query op .payment }

/-- The worker after the intent of `op` was loaded. -/
def loaded (op : FinanceOperation) (intent : SubscriptionRefundIntent) : Purpose → Worker
  | .query =>
    { w with
      intent := intent
      phase := if op.providerOperationID ≠ "" then .fetchRefund else .fetchPage 0 none }
  | .validate refund =>
    if ¬ refundMatches op intent refund then
      { w with refund := none }.fail idempotencyConflict.text
    else if refund.status ≠ "succeeded" then w.fail ("provider refund is " ++ refund.status)
    else w.goto (.recordPayment refund)
  | .record refund payment =>
    if ¬ refundMatches op intent refund then w.fail idempotencyConflict.text
    else w.goto (.recordRefund refund payment)

/-- What a failure to load the intent does: a refund that could not be validated is forgotten. -/
def loadFailed (err : String) : Purpose → Worker
  | .validate _ => { w with refund := none }.fail err
  | _ => w.fail err

/-- A read of `loadSubscriptionRefundIntent`. -/
def load (s : Store) (purpose : Purpose) (op : FinanceOperation) (step : LoadStep) : Worker :=
  match checkedIntent op with
  | .error e => w.loadFailed e purpose
  | .ok intent =>
    match step with
    | .payment =>
      match getFinancePaymentByProvider s "stripe" intent.paymentIntentID with
      | .error e => w.loadFailed e.text purpose
      | .ok payment =>
        if ¬ paymentMatches op intent payment then
          w.loadFailed idempotencyConflict.text purpose
        else w.goto (.load purpose op (.invoice payment))
    | .invoice payment =>
      match getFinanceInvoice s payment.invoiceID with
      | .error e => w.loadFailed e.text purpose
      | .ok invoice =>
        if ¬ invoiceMatches intent payment invoice then
          w.loadFailed idempotencyConflict.text purpose
        else w.goto (.load purpose op .subscriptions)
    | .subscriptions =>
      match listSubscriptionsByUser s intent.accountID with
      | .error e => w.loadFailed e purpose
      | .ok subs =>
        if subs.any (subscriptionMatches op intent) then w.loaded op intent purpose
        else w.loadFailed idempotencyConflict.text purpose

/-- The worker after the provider was asked for refunds of the payment. -/
def queried : Option StripeRefund → Worker
  | none => w.goto .checkpoint
  | some refund =>
    { w with
      refund := some refund
      mayHaveSubmitted := true
      phase := .load (.validate refund) w.op .payment }

end

/-- Looking through a page of refunds: all must be of the operation, and there
    must be one at most. -/
def scanPage (key : String) : Option StripeRefund → List StripeRefund →
    Except String (Option StripeRefund)
  | found, [] => .ok found
  | found, refund :: rest =>
    if refund.operationKey ≠ key ∨ found.isSome then
      .error "payment has an unassociated or duplicate provider refund; reconciliation required"
    else scanPage key (some refund) rest

/-- A page of refunds was asked for. -/
def pageFetched (w : Worker) (page : Nat) (found : Option StripeRefund) :
    Except String (List StripeRefund × Bool) → Worker
  | .error e => w.fail e
  | .ok (data, hasMore) =>
    match scanPage w.op.idempotencyKey found data with
    | .error e => w.fail e
    | .ok found =>
      if ¬ hasMore then w.queried found
      else if data.isEmpty ∨ 100 ≤ page + 1 then w.fail "incomplete provider refund history"
      else w.goto (.fetchPage (page + 1) found)

/-- What the worker saves at the end of an attempt. -/
def outcome (w : Worker) (resultErr : Option String) : Outcome where
  status := match resultErr with
    | none => OperationStatus.succeeded.text
    | some _ => OperationStatus.reconciliationRequired.text
  providerOperationID := match w.refund with
    | none => ""
    | some refund => refund.id
  response := .doc (.object [("provider_request_started", .bool w.mayHaveSubmitted),
    ("refund", match w.refund with | none => .null | some refund => refund.toJson)])
  operationErr := resultErr
  nextAttemptAt := none

end Worker

/-- A refund of a payment, as it is recorded. -/
def stripeRefundFact (refund : StripeRefund) (payment : FinancePayment) : FinanceRefund where
  id := ""
  idempotencyKey := refund.operationKey
  paymentID := payment.id
  provider := "stripe"
  providerRefundID := refund.id
  amountMinor := refund.amount
  currency := refund.currency
  reason := refund.reason
  refundedAt := Time.unix refund.created.toInt
  createdAt := 0

/-- What a step of a worker does: the store, the worker, unless it returned,
    and the request for a refund it sent. -/
structure StepResult where
  store : Store
  worker : Option Worker
  posted : Option RefundPost := none

/-- A step of a worker. -/
def Worker.step (env : Env) (reply : Reply) (s : Store) (w : Worker) : StepResult :=
  match w.phase with
  | .begin =>
    match beginFinanceOperation env s w.op with
    | .error _ => { store := s, worker := none }
    | .ok (s', false, _) => { store := s', worker := none }
    | .ok (s', true, op) => { store := s', worker := w.claim op }
  | .load purpose op step => { store := s, worker := w.load s purpose op step }
  | .fetchRefund =>
    match reply.refund with
    | .error e => { store := s, worker := w.fail e }
    | .ok refund => { store := s, worker := w.queried (some refund) }
  | .fetchPage page found => { store := s, worker := w.pageFetched page found reply.page }
  | .checkpoint =>
    if w.mayHaveSubmitted then
      { store := s
        worker := w.fail
          "previous refund outcome unknown; provider query found no matching refund" }
    else
      let w := { w with mayHaveSubmitted := true }
      match checkpointFinanceOperation env s w.op.id w.op.attemptCount
          (.doc (.object [("provider_request_started", .bool true)])) with
      | .error e => { store := s, worker := w.fail e.text }
      | .ok s' => { store := s', worker := w.goto .post }
  | .post =>
    match reply.unsent with
    | some e => { store := s, worker := w.fail e }
    | none =>
      { store := s
        worker := w.goto .awaitPost
        posted := some ⟨w.op.id, w.op.idempotencyKey, w.intent.paymentIntentID,
          w.intent.amountMinor⟩ }
  | .awaitPost =>
    match reply.refund with
    | .error e => { store := s, worker := w.fail e }
    | .ok refund => { store := s, worker := w.queried (some refund) }
  | .recordPayment refund =>
    -- `recordStripeRefund`, for a refund that was validated.
    if ¬ hasPrefix refund.id "re_" ∨
        ¬ hasPrefix (customerIDFromAny refund.paymentIntent) "pi_" ∨
        refund.amount ≤ 0 ∨ refund.created ≤ 0 then
      { store := s, worker := w.fail "Stripe settled refund has incomplete payment facts" }
    else
      match getFinancePaymentByProvider s "stripe" (customerIDFromAny refund.paymentIntent) with
      | .error e => { store := s, worker := w.fail e.text }
      | .ok payment => { store := s, worker := w.goto (.recordOperation refund payment) }
  | .recordOperation refund payment =>
    match getFinanceOperation s refund.operationKey with
    | .error e => { store := s, worker := w.fail e.text }
    | .ok op => { store := s, worker := w.goto (.load (.record refund payment) op .payment) }
  | .recordRefund refund payment =>
    match recordFinanceRefund env s (stripeRefundFact refund payment) with
    | .error e => { store := s, worker := w.fail e.text }
    | .ok (s', _, _) => { store := s', worker := w.goto (.recordInvoice payment) }
  | .recordInvoice payment =>
    match getFinanceInvoice s payment.invoiceID with
    | .error e => { store := s, worker := w.fail e.text }
    | .ok invoice =>
      { store := s
        worker := w.goto (if invoice.providerInvoiceID ≠ "" then .recordRisk
          else .fetchSubscription) }
  | .recordRisk =>
    match reply.risk with
    | some e => { store := s, worker := w.fail e }
    | none => { store := s, worker := w.goto .fetchSubscription }
  | .fetchSubscription =>
    match reply.subscription with
    | .error e => { store := s, worker := w.fail e }
    | .ok (id, status) =>
      if id ≠ w.intent.externalID then
        { store := s, worker := w.fail idempotencyConflict.text }
      else
        { store := s
          worker := w.goto (if status ≠ "canceled" then .cancelSubscription else .revoke) }
  | .cancelSubscription =>
    match reply.cancel with
    | some e => { store := s, worker := w.fail e }
    | none => { store := s, worker := w.goto .revoke }
  | .revoke => { store := s, worker := w.goto (.finish reply.revoke) }
  | .finish resultErr =>
    match finishFinanceOperation env s w.op.id (w.outcome resultErr) (some w.op.attemptCount) with
    | .error _ => { store := s, worker := none }
    | .ok s' => { store := s', worker := none }

/-! ## Any number of workers -/

/-- A store, the workers that run on it, and the requests for refunds that were
    sent to the provider. -/
structure System where
  store : Store
  workers : Table Nat Worker
  posts : List RefundPost

/-- A worker as it is called. -/
def Worker.start (op : FinanceOperation) : Worker := ⟨op, false, {}, none, .begin⟩

/-- What happens next. -/
inductive Action
  /-- A handler calls `runSubscriptionRefund` with an operation: a new one, or
      one it read before. -/
  | run (w : Nat) (op : FinanceOperation)
  /-- A worker takes a step. -/
  | move (w : Nat) (env : Env) (reply : Reply)
  /-- A worker stops. -/
  | crash (w : Nat)
  /-- Other parts of the program create invoices and record payments and refunds. -/
  | createFinanceInvoice (env : Env) (invoice : FinanceInvoice)
  | recordFinancePayment (env : Env) (payment : FinancePayment)
  | recordFinanceRefund (env : Env) (refund : FinanceRefund)

namespace System

/-- The system after a step of the worker `w`. -/
def settle (sys : System) (w : Nat) (r : StepResult) : System where
  store := r.store
  workers := Table.assign sys.workers w r.worker
  posts := sys.posts ++ r.posted.toList

/-- A step of the system. -/
def step (sys : System) : Action → System
  | .run w op =>
    if w ∈ sys.workers then sys else { sys with workers := sys.workers.insert w (.start op) }
  | .move w env reply =>
    match sys.workers.lookup w with
    | none => sys
    | some worker => sys.settle w (worker.step env reply sys.store)
  | .crash w => { sys with workers := sys.workers.erase w }
  | .createFinanceInvoice env invoice =>
    { sys with store := Finance.step sys.store (.createFinanceInvoice env invoice) }
  | .recordFinancePayment env payment =>
    { sys with store := Finance.step sys.store (.recordFinancePayment env payment) }
  | .recordFinanceRefund env refund =>
    { sys with store := Finance.step sys.store (.recordFinanceRefund env refund) }

/-- Nothing has happened yet. -/
def init (byID : List String) (subscriptions : Table String (List SubscriptionRef)) : System :=
  ⟨Store.init byID subscriptions, ∅, []⟩

end System

end Accounts.Finance

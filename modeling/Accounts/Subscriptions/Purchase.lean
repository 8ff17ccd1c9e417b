import Accounts.Quota.Annual
import Accounts.Subscriptions.Lifecycle

/-!
# Purchases of subscriptions

A purchase is reserved as an action of its account, checked once more, and sent to the
payment provider with the key of its operation (`executeSubscriptionPurchase`). As the
outcome of that call may stay unknown, the request can be sent again
(`stripeSubscriptionRetry`). Status polls ask the provider, and end the reservation of a
purchase that is expired, or is paid and has arrived in the local tables
(`reconcileSubscriptionPurchase`). Requests of all kinds take their steps in any order,
together with webhooks and the provider (`System`).

A reservation is to end only if no request was ever sent for it, or the provider says that
it is expired, or that it is paid. Then no other purchase of the account can be paid while
one is reserved (`System.Safe`). A retry breaks this if it comes while the request that
made the reservation still checks it: the one sends the purchase, and the other ends the
reservation as not submitted (`released_after_sending`). If no retry picks up a reservation
before its own request is done with it, all is well (`safe_of_patient`).
-/

namespace Accounts.Purchases

open AList List Option

open Finance (FinanceOperation)
open Lifecycle Table

/-! ## The local tables -/

/-- A subscription of an account. -/
structure LocalSubscription where
  kind : String
  planID : String
  status : String
  provider : String
  externalID : String

/-- The billing profile of an account. -/
structure BillingProfile where
  includedQuotaBytes : Int64
  pricingRuleVersion : String

/-- What webhooks write about an account: its subscriptions, its profile, and the period of
    its quota. -/
structure Local where
  subscriptions : List LocalSubscription := []
  profile : Option BillingProfile := none
  quota : Option (Option Time × Option Time) := none

/-- The loop of `currentPurchaseSubscription`: the active subscription; none at all if the
    subscriptions have to be sorted out first. -/
def currentPurchaseSubscription :
    Option LocalSubscription → List LocalSubscription → Option (Option LocalSubscription)
  | active, [] => some active
  | active, sub :: subs =>
    if sub.kind ≠ "subscription" ∨ sub.planID = "FREE" ∨
        ["canceled", "cancelled", "incomplete_expired", "expired", "refunded"].contains
          sub.status then
      currentPurchaseSubscription active subs
    else if sub.status ≠ "active" ∨ sub.provider ≠ "stripe" ∨
        ¬ Text.hasPrefix sub.externalID "sub_" ∨ active.isSome then none
    else currentPurchaseSubscription (some sub) subs

/-! ## Requests and the provider -/

/-- What is read of the stored request of a purchase. -/
structure PurchaseRequest where
  userID : String := ""
  planID : String := ""
  priceID : String := ""
  action : String := ""
  subscriptionID : String := ""
  fromPriceID : String := ""
  checkoutEmail : String := ""

/-- Assigning a member of the request to the field of its name. -/
def PurchaseRequest.assign (field : String) (v : Json) (q : PurchaseRequest) :
    PurchaseRequest × Bool :=
  if field = "userId" then
    ({ q with userID := (v.assignString q.userID).1 }, (v.assignString q.userID).2)
  else if field = "planId" then
    ({ q with planID := (v.assignString q.planID).1 }, (v.assignString q.planID).2)
  else if field = "priceId" then
    ({ q with priceID := (v.assignString q.priceID).1 }, (v.assignString q.priceID).2)
  else if field = "action" then
    ({ q with action := (v.assignString q.action).1 }, (v.assignString q.action).2)
  else if field = "subscriptionId" then
    ({ q with subscriptionID := (v.assignString q.subscriptionID).1 },
      (v.assignString q.subscriptionID).2)
  else if field = "fromPriceId" then
    ({ q with fromPriceID := (v.assignString q.fromPriceID).1 }, (v.assignString q.fromPriceID).2)
  else
    ({ q with checkoutEmail := (v.assignString q.checkoutEmail).1 },
      (v.assignString q.checkoutEmail).2)

/-- The request of a purchase. -/
def PurchaseRequest.decode [Unicode] (raw : RawMessage) : Option PurchaseRequest :=
  raw.decode ["userId", "planId", "priceId", "action", "subscriptionId", "fromPriceId",
    "checkoutEmail"] assign {}

/-- The subscriptions have changed since the purchase was quoted. -/
def PurchaseRequest.outdated (q : PurchaseRequest) (subs : List LocalSubscription) : Bool :=
  match currentPurchaseSubscription none subs with
  | none => true
  | some current =>
    q.action == "subscribe" && current.isSome || q.action == "upgrade" && current.all fun sub =>
        sub.externalID != q.subscriptionID || sub.planID != "PLUS"

/-- The proof of a quote that is stored with a request is one of the credentials in use. No
    proof depends on it. -/
class QuoteProof where
  authentic : RawMessage → Bool

/-- What the provider says about a payment. -/
inductive PaymentStatus
  | unpaid
  | paid
  /-- A checkout session that is expired, or a void invoice. -/
  | expired
  deriving DecidableEq

/-- A checkout session or an invoice at the provider. -/
structure Payment where
  id : String
  userID : String := ""
  planID : String := ""
  subscription : String := ""
  status : PaymentStatus := .unpaid

section

variable (key : String) (status : PaymentStatus) (key' : String) (payment : Payment)

include key status key' payment

/-- A payment, after the one of a key was settled. -/
def Payment.settle : Payment :=
  if key' = key ∧ payment.status = .unpaid then { payment with status := status } else payment

@[simp] theorem Payment.settle_id : (payment.settle key status key').id = payment.id := by
  rw [settle]
  split_ifs <;> rfl

end

/-- A subscription at the provider. -/
structure ProviderSubscription where
  id : String
  userID : String
  status : String
  priceID : String
  pendingUpdate : Bool := false
  period : Option Quota.Period := none

/-- The period of the quota of a subscription (`subscriptionQuotaPeriod`). -/
def subscriptionQuotaPeriod [Unicode] (plan : Annual.PricedPlan) (settled : ProviderSubscription)
    (now : Time) : Quota.Period :=
  if plan.annual then Calendar.naturalMonth now else settled.period.getD (Calendar.naturalMonth now)

/-- What a poll has read of a purchase that is paid. -/
structure Evidence where
  request : PurchaseRequest
  settled : ProviderSubscription
  subscriptions : List LocalSubscription := []
  profile : Option BillingProfile := none
  plan : Option Annual.PricedPlan := none
  quota : Option (Option Time × Option Time) := none
  now : Time := 0

/-- The purchase has arrived in the local tables. -/
def Evidence.projected [Unicode] (e : Evidence) : Bool :=
  e.subscriptions.any (fun sub => sub.externalID == e.settled.id &&
    sub.planID == e.request.planID && sub.status == "active") &&
  e.profile.any (fun profile => e.plan.any fun plan =>
    profile.includedQuotaBytes == plan.includedQuotaBytes &&
    profile.pricingRuleVersion == "plan:" ++ e.request.planID &&
    e.quota.any fun quota =>
      quota.1 == some (subscriptionQuotaPeriod plan e.settled e.now).1 &&
        quota.2 == some (subscriptionQuotaPeriod plan e.settled e.now).2)

/-- Why a reservation is ended. -/
inductive End [Unicode]
  | notSubmitted
  | expired
  | confirmed (evidence : Evidence) (projected : evidence.projected = true)

/-- The receipt of an end. -/
def End.receipt [Unicode] : End → RawMessage
  | .notSubmitted => .doc (.object [("outcome", .string "not_submitted")])
  | .expired => .doc (.object [("outcome", .string "expired")])
  | .confirmed .. => .doc (.object [("outcome", .string "webhook_confirmed")])

/-! ## Handlers -/

/-- What a request is for: a purchase with what is to be stored, a retry, or the status. -/
inductive Kind
  | execute (request : RawMessage)
  | retry
  | poll

/-- What a request does next. -/
inductive Phase [Unicode]
  /-- Reading the purchase that is not finished. -/
  | pending
  /-- Asking the provider about it. -/
  | provider (op : FinanceOperation) (q : PurchaseRequest)
  /-- Reading the local tables, after the provider said that it is paid. -/
  | subscriptions (op : FinanceOperation) (seen : Evidence)
  | profile (op : FinanceOperation) (seen : Evidence)
  | quota (op : FinanceOperation) (seen : Evidence)
  /-- Ending the reservation. -/
  | finish (op : FinanceOperation) (reason : End)
  /-- Verifying the quote. -/
  | quote
  | reserve
  /-- Checking the subscriptions after the reservation was made. -/
  | recheck (op : FinanceOperation)
  /-- Ending the reservation, as nothing was sent. -/
  | release (op : FinanceOperation)
  /-- Checking the subscriptions before the purchase is sent again. -/
  | current (op : FinanceOperation)
  | send (op : FinanceOperation)
  | await (op : FinanceOperation)
  /-- Recording what the provider has answered. -/
  | record (op : FinanceOperation) (providerID : String) (response : RawMessage)

/-- A request in progress. -/
structure Handler [Unicode] where
  user : String
  kind : Kind
  phase : Phase

/-- What a step gets from outside: how its call ends, the answers of the provider, and the
    outcome of checks on other tables. -/
structure Answer where
  outcome : Quota.Outcome := .returned
  holds : Bool := true
  subscription : Option ProviderSubscription := none
  plan : Option Annual.PricedPlan := none
  url : String := ""

/-- What a step does. -/
inductive Effect [Unicode]
  | none
  | store (s : Store)
  /-- A call that ends a reservation. -/
  | finish (s : Store) (id : String) (reason : End)
  /-- A request with the key goes to the provider. -/
  | send (key : String)

/-- A purchase can be sent again for twenty minutes, if the provider is not known to have it. -/
def retryableSubscriptionPurchase (op : FinanceOperation) (now : Time) : Bool :=
  op.providerOperationID == "" && decide (0 ≤ now - op.createdAt) &&
    decide (now - op.createdAt < 20 * Time.minute)

section

variable [Unicode]

/-- What a request does with a purchase that is not finished. -/
def Handler.found (h : Handler) (now : Time) (op : FinanceOperation) : Option Phase :=
  match h.kind with
  | .retry =>
    if retryableSubscriptionPurchase op now then
      (PurchaseRequest.decode op.request).bind fun q =>
        if q.userID = h.user then some (.current op) else none
    else none
  | _ =>
    if op.providerOperationID = "" then none else
    (PurchaseRequest.decode op.request).bind fun q =>
      if q.userID = h.user then some (.provider op q) else none

/-- What follows from the answer of the provider about a purchase. -/
def reported (user : String) (op : FinanceOperation) (q : PurchaseRequest) (payment : Payment)
    (subscription : Option ProviderSubscription) : Option Phase :=
  if Text.hasPrefix op.providerOperationID "cs_" then
    if payment.userID ≠ user ∨ payment.planID ≠ q.planID then none else
    match payment.status with
    | .expired => some (.finish op .expired)
    | .unpaid => none
    | .paid => subscription.bind fun settled =>
      if settled.id = payment.subscription ∧ settled.userID = user ∧ settled.status = "active" ∧
          settled.priceID = q.priceID ∧ ¬ settled.pendingUpdate then
        some (.subscriptions op { request := q, settled := settled })
      else none
  else if Text.hasPrefix op.providerOperationID "in_" then
    subscription.bind fun sub =>
      if sub.id ≠ q.subscriptionID ∨ sub.userID ≠ user ∨
          payment.subscription ≠ q.subscriptionID then none else
      match payment.status with
      | .paid => if sub.priceID = q.priceID ∧ ¬ sub.pendingUpdate then
          some (.subscriptions op { request := q, settled := sub }) else none
      | .expired => if sub.priceID = q.fromPriceID ∧ ¬ sub.pendingUpdate then
          some (.finish op .expired) else none
      | .unpaid => none
  else none

/-- The last check before a purchase is sent. -/
def submit [QuoteProof] (user : String) (op : FinanceOperation) : Option Phase :=
  (PurchaseRequest.decode op.request).bind fun q =>
    if q.userID = user ∧ q.checkoutEmail ≠ "" ∧ QuoteProof.authentic op.request then some (.send op)
    else none

variable (op : FinanceOperation)

/-- What is recorded of the answer to a purchase that was sent. The invoice of an upgrade may
    be known although it could not be fetched. -/
def answered (payment : Option Payment) (answer : Answer) : Phase :=
  match payment, answer.outcome with
  | some payment, .returned =>
    .record op (if answer.holds then payment.id else "")
      (.doc (.object [("id", .string payment.id), ("url", .string answer.url)]))
  | some payment, .lost =>
    .record op (if ((PurchaseRequest.decode op.request).any (·.action == "subscribe")) then ""
      else payment.id) .empty
  | _, _ => .record op "" .empty

/-- A purchase that has arrived in the local tables is ended. -/
def arrived (seen : Evidence) : Option Phase :=
  if h : seen.projected = true then some (.finish op (.confirmed seen h)) else none

end

/-- The tables, the payments by the keys of their operations, and the requests in progress;
    the keys that were sent, and why reservations were ended. -/
structure System [Unicode] where
  store : Store
  locals : Table String Local := ∅
  payments : Table String Payment := ∅
  handlers : Table Nat Handler := ∅
  sent : List String := []
  ends : Table String End := ∅

section

variable [Unicode]

/-- Accounts that never had a purchase. -/
def System.initial (users : List String) (locals : Table String Local) : System :=
  { store := { byID := users }, locals := locals }

/-- The payment with an identifier of the provider. -/
def System.payment (sys : System) (id : String) : Option Payment :=
  (rows sys.payments).find? (·.id == id)

/-- The local tables of an account. -/
def System.localOf (sys : System) (user : String) : Local := (sys.locals.lookup user).getD {}

/-- Calling the store to end a reservation. -/
def System.finishing (sys : System) (env : Env) (op : FinanceOperation) (providerID : String)
    (reason : End) (outcome : Quota.Outcome) (next : Option Phase) : Effect × Option Phase :=
  if outcome = .failed then (.none, none) else
  match updateSubscriptionPurchase env sys.store op.id providerID reason.receipt true with
  | .error _ => (.none, none)
  | .ok s => (.finish s op.id reason, if outcome = .returned then next else none)

/-- Reserving a purchase under a fresh key. -/
def reserveSubscriptionPurchase (env : Env) (keyUUID : Uuid) (s : Store) (userID : String)
    (request : RawMessage) : Except LifecycleError (Store × FinanceOperation) :=
  if "subscription-purchase:" ++ keyUUID.val ∈ s.financeOperationKeys then .error .duplicateID else
  reserveSubscriptionAction env s userID ("subscription-purchase:" ++ keyUUID.val) "purchase"
    request

variable [QuoteProof]

/-- The next step of a request, and what it does. -/
def Handler.step (h : Handler) (sys : System) (env : Env) (keyUUID : Uuid) (answer : Answer) :
    Effect × Option Phase :=
  let returned := answer.outcome == .returned
  match h.phase with
  | .pending =>
    if ¬ returned then (.none, none) else
    match sys.store.pendingSubscriptionPurchase h.user with
    | some op => (.none, h.found env.now op)
    | none => match h.kind with
      | .execute _ => (.none, some .quote)
      | _ => (.none, none)
  | .provider op q =>
    (.none, if ¬ returned then none else
      (sys.payment op.providerOperationID).bind fun payment =>
        reported h.user op q payment answer.subscription)
  | .subscriptions op seen =>
    (.none, if ¬ returned then none else
      some (.profile op { seen with subscriptions := (sys.localOf h.user).subscriptions }))
  | .profile op seen =>
    (.none, if ¬ returned then none else
      some (.quota op { seen with profile := (sys.localOf h.user).profile, plan := answer.plan }))
  | .quota op seen =>
    (.none, if ¬ returned then none else
      arrived op { seen with quota := (sys.localOf h.user).quota, now := env.now })
  | .finish op reason =>
    sys.finishing env op op.providerOperationID reason answer.outcome (match h.kind with
      | .execute _ => some .quote
      | _ => none)
  | .quote => (.none, if answer.holds then some .reserve else none)
  | .reserve => match h.kind with
    | .execute request =>
      if answer.outcome = .failed then (.none, none) else
      match reserveSubscriptionPurchase env keyUUID sys.store h.user request with
      | .error _ => (.none, none)
      | .ok (s, op) => (.store s, if returned then some (.recheck op) else none)
    | _ => (.none, none)
  | .recheck op =>
    let q := ((match h.kind with
      | .execute request => PurchaseRequest.decode request
      | _ => none).getD {})
    -- Subscriptions that cannot be read are taken for changed ones.
    (.none, if ¬ returned ∨ q.outdated (sys.localOf h.user).subscriptions then some (.release op)
      else submit h.user op)
  | .release op => sys.finishing env op "" .notSubmitted answer.outcome none
  | .current op =>
    let q := (PurchaseRequest.decode op.request).getD {}
    (.none, if ¬ returned ∨ q.outdated (sys.localOf h.user).subscriptions ∨ ¬ answer.holds then none
      else submit h.user op)
  | .send op => (.send op.idempotencyKey, some (.await op))
  | .await op => (.none, some (answered op (sys.payments.lookup op.idempotencyKey) answer))
  | .record op providerID response =>
    if answer.outcome = .failed then (.none, none) else
    match updateSubscriptionPurchase env sys.store op.id providerID response false with
    | .error _ => (.none, none)
    | .ok s => (.store s, none)

/-! ## The system -/

omit [QuoteProof] in
/-- What a step does to the system. -/
def System.apply (sys : System) : Effect → System
  | .none => sys
  | .store s => { sys with store := s }
  | .finish s id reason =>
    { sys with
      store := s
      ends := if (sys.store.financeOperations.lookup id).any unfinished then
        sys.ends.insert id reason else sys.ends }
  | .send key => { sys with sent := key :: sys.sent }

/-- What happens next. -/
inductive Action
  /-- A request arrives. -/
  | start (k : Nat) (user : String) (kind : Kind)
  /-- A request takes its next step. -/
  | move (k : Nat) (env : Env) (keyUUID : Uuid) (answer : Answer)
  /-- A request stops. -/
  | crash (k : Nat)
  /-- The provider deals with a request that was sent, once for each key. -/
  | accept (key : String) (payment : Payment)
  /-- A payment is made, or can be made no longer. -/
  | settle (key : String) (status : PaymentStatus)
  /-- Webhooks write the local tables of an account. -/
  | webhook (user : String) (tables : Local)

/-- A step of the system. -/
def System.step (sys : System) : Action → System
  | .start k user kind =>
    if k ∈ sys.handlers then sys
    else { sys with handlers := assign sys.handlers k (some ⟨user, kind, .pending⟩) }
  | .move k env keyUUID answer => match sys.handlers.lookup k with
    | none => sys
    | some h =>
      let call := h.step sys env keyUUID answer
      { sys.apply call.1 with
        handlers := assign sys.handlers k (call.2.map fun phase => { h with phase := phase }) }
  | .crash k => { sys with handlers := assign sys.handlers k none }
  | .accept key payment =>
    if key ∈ sys.sent ∧ key ∉ sys.payments ∧ payment.id ≠ "" ∧ (sys.payment payment.id).isNone then
      { sys with payments := sys.payments.insert key { payment with status := .unpaid } }
    else sys
  | .settle key status =>
    { sys with payments := mapRows (Payment.settle key status) sys.payments }
  | .webhook user tables => { sys with locals := sys.locals.insert user tables }

end

/-! ## Reservations and payments -/

section

variable [Unicode]

section

variable (sys : System) (key : String)

/-- The payment of the key has the status, and keeps it. -/
def System.Settled (status : PaymentStatus) : Prop :=
  ∃ payment, sys.payments.lookup key = some payment ∧ payment.status = status

/-- There is the reason to end the reservation of the key. -/
def System.Justified : End → Prop
  | .notSubmitted => key ∉ sys.sent
  | .expired => sys.Settled key .expired
  | .confirmed .. => sys.Settled key .paid

/-- The purchase of the key can still be paid: a request was sent, and the provider has not
    settled it. -/
def System.MayBePaid : Prop :=
  key ∈ sys.sent ∧ ∀ payment, sys.payments.lookup key = some payment → payment.status = .unpaid

end

/-- A purchase of the account. -/
structure IsPurchase (op : FinanceOperation) (userID : String) : Prop where
  operationType : op.operationType = "subscription_purchase"
  targetType : op.targetType = "account"
  targetID : op.targetID = userID

/-- A reservation ended for a reason, and while a purchase is reserved, no other purchase of
    the account can still be paid. -/
structure System.Safe (sys : System) : Prop where
  ended : ∀ {id op userID}, sys.store.financeOperations.lookup id = some op →
    IsPurchase op userID → unfinished op = false →
    ∃ reason, sys.ends.lookup id = some reason ∧ sys.Justified op.idempotencyKey reason
  single : ∀ {id id' op op' userID}, sys.store.financeOperations.lookup id = some op →
    IsPurchase op userID → unfinished op = true →
    sys.store.financeOperations.lookup id' = some op' → IsPurchase op' userID → id' ≠ id →
    ¬ sys.MayBePaid op'.idempotencyKey

/-- The reservation that a request may end as not submitted. -/
def Phase.releases : Phase → Option FinanceOperation
  | .recheck op | .release op => some op
  | _ => none

/-- The reservation that a request may send. -/
def Phase.sends : Phase → Option FinanceOperation
  | .recheck op | .current op | .send op => some op
  | _ => none

/-- A retry does not pick up a reservation while the request that made it still checks it. -/
def System.Patient (sys : System) : Action → Prop
  | .move k .. => ∀ h ∈ sys.handlers.lookup k, (h.kind matches .retry) →
    (h.phase matches .pending) → ∀ op ∈ sys.store.pendingSubscriptionPurchase h.user,
      ∀ h' ∈ rows sys.handlers, ∀ op' ∈ h'.phase.releases, op'.id ≠ op.id
  | _ => True

instance (sys : System) : (a : Action) → Decidable (sys.Patient a)
  | .move .. => inferInstanceAs (Decidable (∀ _ ∈ _, _))
  | .start .. | .crash _ | .accept .. | .settle .. | .webhook .. => .isTrue trivial

/-! ## What stays true -/

/-- The operation is stored, under its identifier and its key. -/
def System.Knows (sys : System) (op : FinanceOperation) : Prop :=
  ∃ stored, sys.store.financeOperations.lookup op.id = some stored ∧
    stored.idempotencyKey = op.idempotencyKey

/-- The provider has a payment of the key with the identifier. -/
def System.Has (sys : System) (key id : String) : Prop :=
  ∃ payment, sys.payments.lookup key = some payment ∧ payment.id = id

/-- What a request knows in a phase. -/
def Phase.Fits (sys : System) : Phase → Prop
  | .pending | .quote | .reserve => True
  | .provider op _ => sys.Knows op ∧ sys.Has op.idempotencyKey op.providerOperationID
  | .subscriptions op _ | .profile op _ | .quota op _ =>
    sys.Knows op ∧ sys.Settled op.idempotencyKey .paid
  | .finish op reason => sys.Knows op ∧ reason ≠ .notSubmitted ∧
    sys.Justified op.idempotencyKey reason
  | .recheck op | .release op | .current op | .send op | .await op => sys.Knows op
  | .record op providerID _ => sys.Knows op ∧
    (providerID ≠ "" → sys.Has op.idempotencyKey providerID)

/-- A later state: operations stay, and so do payments and what they have come to. -/
structure System.Before (sys sys' : System) : Prop where
  operations : ∀ {id op}, sys.store.financeOperations.lookup id = some op →
    ∃ op', sys'.store.financeOperations.lookup id = some op' ∧
      op'.idempotencyKey = op.idempotencyKey
  payments : ∀ {key payment}, sys.payments.lookup key = some payment →
    ∃ payment', sys'.payments.lookup key = some payment' ∧ payment'.id = payment.id ∧
      (payment.status ≠ .unpaid → payment'.status = payment.status)

variable {id : String} {reason : End} {phase : Phase}

namespace System.Before

variable {sys sys' : System} (h : sys.Before sys')

include h

theorem knows {op : FinanceOperation} (hop : sys.Knows op) : sys'.Knows op := by
  obtain ⟨_, hstored, hkey⟩ := hop
  obtain ⟨stored', hstored', hkey'⟩ := h.operations hstored
  exact ⟨stored', hstored', hkey'.trans hkey⟩

variable {key : String}

theorem has (hpayment : sys.Has key id) : sys'.Has key id := by
  obtain ⟨_, hlookup, hid⟩ := hpayment
  obtain ⟨payment', hlookup', hid', -⟩ := h.payments hlookup
  exact ⟨payment', hlookup', hid'.trans hid⟩

theorem settled {status : PaymentStatus} (hstatus : status ≠ .unpaid)
    (hsettled : sys.Settled key status) : sys'.Settled key status := by
  obtain ⟨_, hlookup, rfl⟩ := hsettled
  obtain ⟨payment', hlookup', -, hstatus'⟩ := h.payments hlookup
  exact ⟨payment', hlookup', hstatus' hstatus⟩

/-- A reason stays, unless the purchase is sent. -/
theorem justified (hjustified : sys.Justified key reason)
    (hsent : reason = .notSubmitted → key ∉ sys'.sent) : sys'.Justified key reason := by
  cases reason with
  | notSubmitted => exact hsent rfl
  | expired | confirmed => exact h.settled nofun hjustified

/-- What a request knows stays true. -/
theorem fits (hphase : phase.Fits sys) : phase.Fits sys' := by
  cases phase with
  | pending | quote | reserve => trivial
  | provider => exact ⟨h.knows hphase.1, h.has hphase.2⟩
  | subscriptions op seen | profile op seen | quota op seen =>
    exact ⟨h.knows hphase.1, h.settled nofun hphase.2⟩
  | finish =>
    exact ⟨h.knows hphase.1, hphase.2.1, h.justified hphase.2.2 fun heq => absurd heq hphase.2.1⟩
  | recheck op | release op | current op | send op | await op => exact h.knows hphase
  | record => exact ⟨h.knows hphase.1, fun hne => h.has (hphase.2 hne)⟩

end System.Before

/-- An operation is replaced by one with its key. -/
theorem System.before_replace {sys : System} {s : Store} {stored : FinanceOperation}
    (op : FinanceOperation) (hstored : sys.store.financeOperations.lookup id = some stored)
    (hoperations : s.financeOperations = sys.store.financeOperations.insert id op)
    (hkey : op.idempotencyKey = stored.idempotencyKey) (ends : Table String End) :
    sys.Before { sys with store := s, ends := ends } where
  operations := by
    intro id' op' hop'
    rw [hoperations]
    by_cases hid : id' = id
    · rw [hid, hstored] at hop'
      cases hop'
      exact ⟨op, by rw [hid]; exact lookup_insert _, hkey⟩
    · exact ⟨op', by rw [lookup_insert_ne hid]; exact hop', rfl⟩
  payments hp := ⟨_, hp, rfl, fun _ => rfl⟩

/-- The reservation may be sent by a request: no other request may end it, and it was not
    ended as not submitted. -/
def System.Sendable (sys : System) (k : Nat) (id : String) : Prop :=
  (∀ {k' h' op'}, k' ≠ k → sys.handlers.lookup k' = some h' → op' ∈ h'.phase.releases →
    op'.id ≠ id) ∧ sys.ends.lookup id ≠ some .notSubmitted

/-- The reservation may be ended by a request: it was not sent, and no other request may send
    or end it. -/
def System.Releasable (sys : System) (k : Nat) (op : FinanceOperation) : Prop :=
  op.idempotencyKey ∉ sys.sent ∧ ∀ {k' h' op'}, k' ≠ k → sys.handlers.lookup k' = some h' →
    (op' ∈ h'.phase.releases ∨ op' ∈ h'.phase.sends) → op'.id ≠ op.id

/-- The operations agree with their keys, with the payments, and with the reasons for which they
    were ended. -/
structure System.Records (sys : System) : Prop where
  gated : sys.store.Gated
  indexed : Indexed FinanceOperation.id FinanceOperation.idempotencyKey
    sys.store.financeOperations sys.store.financeOperationKeys
  sent : ∀ {key}, key ∈ sys.sent → key ∈ sys.store.financeOperationKeys
  paymentIDs : ∀ {key key' payment payment'}, sys.payments.lookup key = some payment →
    sys.payments.lookup key' = some payment' → payment.id = payment'.id → key = key'
  recorded : ∀ {id op}, sys.store.financeOperations.lookup id = some op → unfinished op = true →
    op.providerOperationID ≠ "" → sys.Has op.idempotencyKey op.providerOperationID
  ended : ∀ {id op}, sys.store.financeOperations.lookup id = some op → unfinished op = false →
    ∃ reason, sys.ends.lookup id = some reason ∧ sys.Justified op.idempotencyKey reason
  known : ∀ {id reason}, sys.ends.lookup id = some reason →
    ∃ op, sys.store.financeOperations.lookup id = some op ∧ unfinished op = false

/-- The invariant of the system. -/
structure System.Sound (sys : System) : Prop extends sys.Records where
  fits : ∀ {k h}, sys.handlers.lookup k = some h → h.phase.Fits sys
  sendable : ∀ {k h op}, sys.handlers.lookup k = some h → op ∈ h.phase.sends → sys.Sendable k op.id
  releasable : ∀ {k h op}, sys.handlers.lookup k = some h → op ∈ h.phase.releases →
    sys.Releasable k op

variable {payment : Payment}

namespace System.Sound

variable {sys : System}

/-- What the accounts see of it. -/
theorem safe (hs : sys.Sound) : sys.Safe where
  ended hop _ hfinished := hs.ended hop hfinished
  single := by
    intro _ _ op op' userID hop hpurchase hunfinished hop' hpurchase' hne hpaid
    have hreserved : ∀ {op}, IsPurchase op userID → unfinished op = true → Reserved op userID :=
      fun h hunfinished => ⟨by rw [h.operationType]; decide, h.targetType, h.targetID, hunfinished⟩
    by_cases hunfinished' : unfinished op' = true
    · refine hne ?_
      rw [← hs.gated.names hop (hreserved hpurchase hunfinished),
        hs.gated.names hop' (hreserved hpurchase' hunfinished')]
    obtain ⟨reason, -, hjustified⟩ := hs.ended hop' (by simpa using hunfinished')
    cases reason with
    | notSubmitted => exact hjustified hpaid.1
    | expired | confirmed =>
      obtain ⟨payment, hlookup, hstatus⟩ := hjustified
      cases (hpaid.2 payment hlookup).symm.trans hstatus

variable {op : FinanceOperation}

/-- What a request may end or send is known. -/
theorem knows_of_mem (hs : sys.Sound) {k : Nat} {h : Handler}
    (hlookup : sys.handlers.lookup k = some h) (hop : op ∈ h.phase.releases ∨ op ∈ h.phase.sends) :
    sys.Knows op := by
  obtain ⟨_, _, phase⟩ := h
  have hfits : phase.Fits sys := hs.fits hlookup
  cases phase <;> rcases hop with ⟨⟨⟩⟩ | ⟨⟨⟩⟩ <;> exact hfits

/-- The system goes on without its requests. -/
theorem later (hs : sys.Sound) {sys' : System} (hbefore : sys.Before sys') (hrecords : sys'.Records)
    (hhandlers : sys'.handlers = sys.handlers)
    (hsends : ∀ {k h op}, sys.handlers.lookup k = some h → op ∈ h.phase.sends →
      sys'.ends.lookup op.id ≠ some .notSubmitted)
    (hreleases : ∀ {k h op}, sys.handlers.lookup k = some h → op ∈ h.phase.releases →
      op.idempotencyKey ∉ sys'.sent) : sys'.Sound where
  toRecords := hrecords
  fits := by
    rw [hhandlers]
    exact fun hlookup => hbefore.fits (hs.fits hlookup)
  sendable := by
    rw [hhandlers]
    exact fun hlookup hop => ⟨hhandlers ▸ (hs.sendable hlookup hop).1, hsends hlookup hop⟩
  releasable := by
    rw [hhandlers]
    exact fun hlookup hop => ⟨hreleases hlookup hop, hhandlers ▸ (hs.releasable hlookup hop).2⟩

variable {s : Store} {env : Env} (hs : sys.Sound)
include hs

/-- A purchase is reserved. It was never sent, and no request has to do with it. -/
theorem reserve {keyUUID : Uuid} {userID : String} {request : RawMessage}
    (h : reserveSubscriptionPurchase env keyUUID sys.store userID request = .ok (s, op)) :
    System.Sound { sys with store := s } ∧ System.Knows { sys with store := s } op ∧
      op.idempotencyKey ∉ sys.sent ∧ op.id ∉ sys.store.financeOperations := by
  simp only [reserveSubscriptionPurchase, Except.guard_ok] at h
  obtain ⟨hkey, h⟩ := h
  rcases reserveSubscriptionAction_cases h with ⟨hne, -⟩ | ⟨hop, hnew⟩
  · rw [lookup_eq_none.2 hkey] at hne
    exact absurd rfl hne
  have hrecords := hop ▸ hnew.records
  have hopKey : op.idempotencyKey ∉ sys.store.financeOperationKeys := by rw [hop]; exact hkey
  have hunfinished : unfinished op = true := by rw [hop]; rfl
  have hprovider : op.providerOperationID = "" := by rw [hop]; rfl
  have hindexed := hs.indexed.insert hrecords.id_ne hrecords.fresh hopKey
  rw [← hrecords.operations, ← hrecords.keys] at hindexed
  have hold : ∀ {id op₀}, sys.store.financeOperations.lookup id = some op₀ →
      s.financeOperations.lookup id = some op₀ := by
    intro _ _ hop₀
    rw [hrecords.operations]
    exact lookup_insert_of_new hrecords.fresh hop₀
  have hrows : ∀ {id op₀}, s.financeOperations.lookup id = some op₀ →
      op₀ = op ∨ sys.store.financeOperations.lookup id = some op₀ := by
    intro _ _ hop₀
    rw [hrecords.operations, lookup_insert_iff] at hop₀
    exact hop₀.imp And.right And.right
  refine ⟨hs.later ?_ ⟨?_, hindexed, ?_, hs.paymentIDs, ?_, ?_, ?_⟩ rfl
    (fun hlookup hop => (hs.sendable hlookup hop).2)
    (fun hlookup hop => (hs.releasable hlookup hop).1), ?_, fun hsent => hopKey (hs.sent hsent),
    hrecords.fresh⟩
  · exact ⟨fun hop₀ => ⟨_, hold hop₀, rfl⟩, fun hp => ⟨_, hp, rfl, fun _ => rfl⟩⟩
  · exact hnew.gated hs.gated
  · intro _ hsent
    rw [hrecords.keys, mem_insert]
    exact .inr (hs.sent hsent)
  · intro _ _ hop₀ hunfinished₀ hne
    rcases hrows hop₀ with rfl | hop₀
    · exact absurd hprovider hne
    · exact hs.recorded hop₀ hunfinished₀ hne
  · intro _ _ hop₀ hfinished
    rcases hrows hop₀ with rfl | hop₀
    · cases hunfinished.symm.trans hfinished
    · exact hs.ended hop₀ hfinished
  · intro _ _ hreason
    obtain ⟨op₀, hop₀, hfinished⟩ := hs.known hreason
    exact ⟨op₀, hold hop₀, hfinished⟩
  · exact ⟨op, by rw [hrecords.operations]; exact lookup_insert _, rfl⟩

/-- What the provider answered is recorded. -/
theorem record {providerID : String} {response : RawMessage} (hop : sys.Knows op)
    (hpayment : providerID ≠ "" → sys.Has op.idempotencyKey providerID)
    (h : updateSubscriptionPurchase env sys.store op.id providerID response false = .ok s) :
    System.Sound { sys with store := s } := by
  have heffect := effect_of_call
    (a := .updateSubscriptionPurchase env op.id providerID response false) h
  have hgated := heffect.gated hs.gated
  obtain ⟨stored, hstored, hkey⟩ := hop
  cases heffect with
  | repeats eq => exact eq ▸ hs
  | ends he => cases he
  | progresses hstored' _ hunfinished eq => ?_
  subst eq
  cases hstored.symm.trans hstored'
  have hbefore : sys.Before { sys with store := { sys.store with
      financeOperations := sys.store.financeOperations.insert op.id
        (progressed stored env.now providerID response) } } :=
    before_replace (progressed stored env.now providerID response) hstored rfl rfl _
  refine hs.later hbefore ⟨hgated, hs.indexed.replace hstored rfl rfl, hs.sent, hs.paymentIDs,
    ?_, ?_, ?_⟩ rfl (fun hlookup hop => (hs.sendable hlookup hop).2)
    (fun hlookup hop => (hs.releasable hlookup hop).1)
  · intro _ _ hop₀ hunfinished₀ hne
    rcases lookup_insert_iff.1 hop₀ with ⟨rfl, rfl⟩ | ⟨-, hop₀⟩
    · exact hkey.symm ▸ hpayment hne
    · exact hs.recorded hop₀ hunfinished₀ hne
  · intro _ _ hop₀ hfinished
    rcases lookup_insert_iff.1 hop₀ with ⟨rfl, rfl⟩ | ⟨-, hop₀⟩
    · cases hfinished
    · exact hs.ended hop₀ hfinished
  intro _ _ hreason
  obtain ⟨op₀, hop₀, hfinished⟩ := hs.known hreason
  refine ⟨op₀, lookup_insert_iff.2 (.inr ⟨?_, hop₀⟩), hfinished⟩
  rintro rfl
  cases hstored.symm.trans hop₀
  cases hunfinished.symm.trans hfinished

/-- A reservation is ended for a reason. If the reason is that it was not submitted, no
    request may send it. -/
theorem finish {providerID : String} (hop : sys.Knows op)
    (hjustified : sys.Justified op.idempotencyKey reason)
    (hsends : reason = .notSubmitted → ∀ {k h op'}, sys.handlers.lookup k = some h →
      op' ∈ h.phase.sends → op'.id ≠ op.id)
    (h : updateSubscriptionPurchase env sys.store op.id providerID reason.receipt true = .ok s) :
    (sys.apply (.finish s op.id reason)).Sound := by
  have heffect := effect_of_call
    (a := .updateSubscriptionPurchase env op.id providerID reason.receipt true) h
  have hgated := heffect.gated hs.gated
  obtain ⟨stored, hstored, hkey⟩ := hop
  cases heffect with
  | repeats eq _ ended =>
    rw [apply, hstored, any_some, ended _ rfl stored hstored, eq]
    exact hs
  | @ends _ e stored' he hends => ?_
  cases he
  cases hstored.symm.trans hends.row
  rw [apply, hstored, any_some, hends.unfinished]
  have hkeys := hends.keys
  obtain ⟨finished, hoperations, hid, hopKey, hfinished⟩ : ∃ finished : FinanceOperation,
      s.financeOperations = sys.store.financeOperations.insert op.id finished ∧
        finished.id = stored.id ∧ finished.idempotencyKey = stored.idempotencyKey ∧
          unfinished finished = false :=
    ⟨_, hends.operations, rfl, rfl, unfinished_finished _ stored⟩
  have hbefore : sys.Before { sys with store := s, ends := sys.ends.insert op.id reason } :=
    before_replace finished hstored hoperations hopKey _
  have hindexed := hs.indexed.replace (w := finished) hstored hid hopKey
  rw [← hoperations, ← hkeys] at hindexed
  refine hs.later hbefore ⟨hgated, hindexed, ?_, hs.paymentIDs, ?_, ?_, ?_⟩ rfl ?_
    (fun hlookup hop => (hs.releasable hlookup hop).1)
  · intro _ hsent
    rw [hkeys]
    exact hs.sent hsent
  · intro _ _ hop₀ hunfinished₀ hne
    rw [hoperations] at hop₀
    rcases lookup_insert_iff.1 hop₀ with ⟨rfl, rfl⟩ | ⟨-, hop₀⟩
    · cases hfinished.symm.trans hunfinished₀
    · exact hs.recorded hop₀ hunfinished₀ hne
  · intro _ _ hop₀ hfinished₀
    rw [hoperations] at hop₀
    rcases lookup_insert_iff.1 hop₀ with ⟨rfl, rfl⟩ | ⟨hne, hop₀⟩
    · exact ⟨reason, lookup_insert _, (hopKey.trans hkey).symm ▸ hjustified⟩
    · obtain ⟨reason₀, hreason₀, hjustified₀⟩ := hs.ended hop₀ hfinished₀
      exact ⟨reason₀, lookup_insert_iff.2 (.inr ⟨hne, hreason₀⟩), hjustified₀⟩
  · intro _ _ hreason₀
    rw [hoperations]
    rcases lookup_insert_iff.1 hreason₀ with ⟨rfl, rfl⟩ | ⟨hne, hreason₀⟩
    · exact ⟨finished, lookup_insert _, hfinished⟩
    · obtain ⟨op₀, hop₀, hfinished₀⟩ := hs.known hreason₀
      exact ⟨op₀, lookup_insert_iff.2 (.inr ⟨hne, hop₀⟩), hfinished₀⟩
  · intro k _ _ hlookup hop₀ hreason₀
    rcases lookup_insert_iff.1 hreason₀ with ⟨hid, hreason⟩ | ⟨-, hreason₀⟩
    · exact hsends hreason.symm hlookup hop₀ hid
    · exact (hs.sendable hlookup hop₀).2 hreason₀

/-- A purchase is sent by a request that may do so. -/
theorem send {k : Nat} {h : Handler} (hlookup : sys.handlers.lookup k = some h)
    (hphase : h.phase = .send op) : (sys.apply (.send op.idempotencyKey)).Sound := by
  have hop : sys.Knows op := by
    have hfits := hs.fits hlookup
    rw [hphase] at hfits
    exact hfits
  have hsendable : sys.Sendable k op.id := by
    refine hs.sendable hlookup ?_
    rw [hphase]
    rfl
  obtain ⟨stored, hstored, hkey⟩ := hop
  refine hs.later ⟨fun hop₀ => ⟨_, hop₀, rfl⟩, fun hp => ⟨_, hp, rfl, fun _ => rfl⟩⟩
    ⟨hs.gated, hs.indexed, ?_, hs.paymentIDs, hs.recorded, ?_, hs.known⟩ rfl
    (fun hlookup hop => (hs.sendable hlookup hop).2) ?_
  · intro _ hsent
    rcases mem_cons.1 hsent with rfl | hsent
    · exact mem_of_lookup (hkey ▸ hs.indexed.of_row hstored)
    · exact hs.sent hsent
  · intro _ _ hop₀ hfinished₀
    obtain ⟨reason, hreason, hjustified⟩ := hs.ended hop₀ hfinished₀
    refine ⟨reason, hreason, ?_⟩
    cases reason with
    | expired | confirmed => exact hjustified
    | notSubmitted =>
      intro hsent
      rcases mem_cons.1 hsent with heq | hsent
      · -- Its own reservation was not ended so.
        have hid := hs.indexed.eq_of_key_eq hop₀ hstored (heq.trans hkey.symm)
        exact hsendable.2 (hid ▸ hreason)
      · exact hjustified hsent
  · intro k₀ _ _ hlookup₀ hop₀ hsent
    rcases mem_cons.1 hsent with heq | hsent
    · by_cases hk : k₀ = k
      · rw [hk, hlookup] at hlookup₀
        cases hlookup₀
        rw [hphase] at hop₀
        cases hop₀
      · obtain ⟨_, hstored₀, hkey₀⟩ := hs.knows_of_mem hlookup₀ (.inl hop₀)
        exact hsendable.1 hk hlookup₀ hop₀
          (hs.indexed.eq_of_key_eq hstored₀ hstored (hkey₀.trans (heq.trans hkey.symm)))
    · exact (hs.releasable hlookup₀ hop₀).1 hsent

/-- Payments are made or settled. -/
theorem setPayments {payments : Table String Payment}
    (hbefore : sys.Before { sys with payments := payments })
    (hids : ∀ {key key' payment payment'}, payments.lookup key = some payment →
      payments.lookup key' = some payment' → payment.id = payment'.id → key = key') :
    System.Sound { sys with payments := payments } := by
  refine hs.later hbefore ⟨hs.gated, hs.indexed, hs.sent, hids, ?_, ?_, hs.known⟩ rfl
    (fun hlookup hop => (hs.sendable hlookup hop).2)
    (fun hlookup hop => (hs.releasable hlookup hop).1)
  · exact fun hop hunfinished hne => hbefore.has (hs.recorded hop hunfinished hne)
  intro _ _ hop hfinished
  obtain ⟨reason, hreason, hjustified⟩ := hs.ended hop hfinished
  refine ⟨reason, hreason, hbefore.justified hjustified ?_⟩
  rintro rfl
  exact hjustified

/-- The provider deals with a request. -/
theorem accept {key : String} (hnew : key ∉ sys.payments)
    (hid : (sys.payment payment.id).isNone = true) :
    System.Sound { sys with payments := sys.payments.insert key payment } := by
  have hfresh : ∀ {key' payment'}, sys.payments.lookup key' = some payment' →
      payment'.id ≠ payment.id := by
    intro key' payment' hlookup heq
    rw [isNone_iff_eq_none, System.payment, find?_eq_none] at hid
    exact hid payment' (mem_rows_iff.2 ⟨key', hlookup⟩) (by simp [heq])
  refine hs.setPayments ⟨fun hop => ⟨_, hop, rfl⟩, fun {key' payment'} hlookup =>
    ⟨payment', ?_, rfl, fun _ => rfl⟩⟩ ?_
  · exact lookup_insert_of_new hnew hlookup
  intro _ _ _ _ h₁ h₂ heq
  rcases lookup_insert_iff.1 h₁ with ⟨rfl, rfl⟩ | ⟨-, hold₁⟩ <;>
    rcases lookup_insert_iff.1 h₂ with ⟨rfl, rfl⟩ | ⟨-, hold₂⟩
  · rfl
  · exact absurd heq.symm (hfresh hold₂)
  · exact absurd heq (hfresh hold₁)
  · exact hs.paymentIDs hold₁ hold₂ heq

/-- A payment is settled. -/
theorem settle (key : String) (status : PaymentStatus) :
    System.Sound { sys with payments := mapRows (Payment.settle key status) sys.payments } := by
  refine hs.setPayments ⟨fun hop => ⟨_, hop, rfl⟩, fun {key' payment} hlookup =>
    ⟨payment.settle key status key', ?_, Payment.settle_id .., fun hne => ?_⟩⟩ ?_
  · rw [lookup_mapRows, hlookup]
    rfl
  · rw [Payment.settle, if_neg fun hunpaid => hne hunpaid.2]
  intro _ _ _ _ h₁ h₂ heq
  rw [lookup_mapRows, map_eq_some_iff] at h₁ h₂
  obtain ⟨_, hp₁, rfl⟩ := h₁
  obtain ⟨_, hp₂, rfl⟩ := h₂
  exact hs.paymentIDs hp₁ hp₂ (by simpa using heq)

end System.Sound

/-! ## The steps of a request -/

variable {user : String}

/-- What is recorded is an identifier of the payment, or none. -/
theorem answered_eq (op : FinanceOperation) (payment : Option Payment) (answer : Answer) :
    ∃ providerID response, answered op payment answer = .record op providerID response ∧
      (providerID ≠ "" → ∃ p, payment = some p ∧ p.id = providerID) := by
  unfold answered
  split
  · next p _ =>
    refine ⟨_, _, rfl, fun hne => ⟨p, rfl, ?_⟩⟩
    split_ifs at hne ⊢
    · rfl
    · exact absurd rfl hne
  · next p _ =>
    refine ⟨_, _, rfl, fun hne => ⟨p, rfl, ?_⟩⟩
    split_ifs at hne ⊢
    · exact absurd rfl hne
    · rfl
  · exact ⟨_, _, rfl, fun hne => absurd rfl hne⟩

/-- The invariant, with a request that may go on to a phase. -/
structure System.Admits (sys : System) (k : Nat) (next : Option Phase) : Prop where
  sound : sys.Sound
  fits : ∀ phase ∈ next, phase.Fits sys
  sendable : ∀ phase ∈ next, ∀ op ∈ phase.sends, sys.Sendable k op.id
  releasable : ∀ phase ∈ next, ∀ op ∈ phase.releases, sys.Releasable k op

variable {next : Option Phase}

namespace System.Admits

variable {sys : System} {k : Nat}

/-- The request ends. -/
theorem ends (hs : sys.Sound) : sys.Admits k none where
  sound := hs
  fits := by simp
  sendable := by simp
  releasable := by simp

/-- The request goes on, and will neither send nor release anything. -/
theorem plain (hs : sys.Sound) (hfits : phase.Fits sys) (hsends : phase.sends = none)
    (hreleases : phase.releases = none) : sys.Admits k (some phase) := by
  refine ⟨hs, ?_, ?_, ?_⟩ <;> rintro _ ⟨⟩
  · exact hfits
  · rw [hsends]
    simp
  · rw [hreleases]
    simp

/-- The request goes on in one of two ways. -/
theorem ite {c : Prop} [Decidable c] {x y : Option Phase} (hx : c → sys.Admits k x)
    (hy : ¬ c → sys.Admits k y) : sys.Admits k (if c then x else y) := by
  split_ifs with hc
  · exact hx hc
  · exact hy hc

/-- A request goes on to another phase, or ends. -/
theorem assign (h : sys.Admits k next) (user : String) (kind : Kind) : System.Sound { sys with
      handlers := Table.assign sys.handlers k (next.map fun phase => ⟨user, kind, phase⟩) } where
  toRecords := { h.sound with }
  fits := by
    intro _ _ hlookup
    rcases lookup_assign_eq_some.1 hlookup with ⟨rfl, hx⟩ | ⟨-, hlookup⟩
    · obtain ⟨phase, hphase, rfl⟩ := map_eq_some_iff.1 hx
      exact h.fits phase hphase
    · exact h.sound.fits hlookup
  sendable := by
    intro _ _ op₁ hlookup₁ hop₁
    rcases lookup_assign_eq_some.1 hlookup₁ with ⟨rfl, hx₁⟩ | ⟨hk₁, hold₁⟩
    · obtain ⟨phase, hphase, rfl⟩ := map_eq_some_iff.1 hx₁
      have hnew := h.sendable phase hphase op₁ hop₁
      refine ⟨fun hk₂ hlookup₂ hop₂ => ?_, hnew.2⟩
      rcases lookup_assign_eq_some.1 hlookup₂ with ⟨rfl, -⟩ | ⟨-, hold₂⟩
      · exact absurd rfl hk₂
      · exact hnew.1 hk₂ hold₂ hop₂
    · have hold := h.sound.sendable hold₁ hop₁
      refine ⟨fun hk₂ hlookup₂ hop₂ => ?_, hold.2⟩
      rcases lookup_assign_eq_some.1 hlookup₂ with ⟨rfl, hx₂⟩ | ⟨-, hold₂⟩
      · obtain ⟨phase, hphase, rfl⟩ := map_eq_some_iff.1 hx₂
        exact ((h.releasable phase hphase _ hop₂).2 hk₁ hold₁ (.inr hop₁)).symm
      · exact hold.1 hk₂ hold₂ hop₂
  releasable := by
    intro _ _ op₁ hlookup₁ hop₁
    rcases lookup_assign_eq_some.1 hlookup₁ with ⟨rfl, hx₁⟩ | ⟨hk₁, hold₁⟩
    · obtain ⟨phase, hphase, rfl⟩ := map_eq_some_iff.1 hx₁
      have hnew := h.releasable phase hphase op₁ hop₁
      refine ⟨hnew.1, fun hk₂ hlookup₂ hop₂ => ?_⟩
      rcases lookup_assign_eq_some.1 hlookup₂ with ⟨rfl, -⟩ | ⟨-, hold₂⟩
      · exact absurd rfl hk₂
      · exact hnew.2 hk₂ hold₂ hop₂
    · have hold := h.sound.releasable hold₁ hop₁
      refine ⟨hold.1, fun hk₂ hlookup₂ hop₂ => ?_⟩
      rcases lookup_assign_eq_some.1 hlookup₂ with ⟨rfl, hx₂⟩ | ⟨-, hold₂⟩
      · obtain ⟨phase, hphase, rfl⟩ := map_eq_some_iff.1 hx₂
        rcases hop₂ with hop₂ | hop₂
        · exact ((h.releasable phase hphase _ hop₂).2 hk₁ hold₁ (.inl hop₁)).symm
        · exact ((h.sendable phase hphase _ hop₂).1 hk₁ hold₁ hop₁).symm
      · exact hold.2 hk₂ hold₂ hop₂

end System.Admits

/-- A step of a request keeps the invariant. -/
def System.Keeps (sys : System) (k : Nat) (call : Effect × Option Phase) : Prop :=
  (sys.apply call.1).Admits k call.2

namespace System.Keeps

variable {sys : System} {k : Nat}

theorem quiet (h : sys.Admits k next) : sys.Keeps k (.none, next) := h

theorem fails (hs : sys.Sound) : sys.Keeps k (.none, none) := .ends hs

/-- One of two things is done. -/
theorem ite {c : Prop} [Decidable c] {x y : Effect × Option Phase} (hx : c → sys.Keeps k x)
    (hy : ¬ c → sys.Keeps k y) : sys.Keeps k (if c then x else y) := by
  split_ifs with hc
  · exact hx hc
  · exact hy hc

end System.Keeps

namespace System.Sound

variable {sys : System} {k : Nat} {h : Handler} {op : FinanceOperation}

/-- A purchase that is not finished is stored, and was not ended. -/
theorem pending (hs : sys.Sound) (hop : sys.store.pendingSubscriptionPurchase user = some op) :
    sys.store.financeOperations.lookup op.id = some op ∧ unfinished op = true ∧
      sys.ends.lookup op.id = none := by
  have hmem : op ∈ rows sys.store.financeOperations := mem_of_find?_eq_some hop
  have hpending : purchasePending op user = true := by
    have hfound := find?_some hop
    exact hfound
  obtain ⟨id, hlookup⟩ := mem_rows_iff.1 hmem
  obtain rfl : op.id = id := (hs.gated.keyed hlookup).1
  have hunfinished : unfinished op = true := by
    simp only [purchasePending, Bool.and_eq_true] at hpending
    exact hpending.2
  refine ⟨hlookup, hunfinished, eq_none_iff_forall_ne_some.2 fun reason hreason => ?_⟩
  obtain ⟨_, hstored, hfinished⟩ := hs.known hreason
  cases hlookup.symm.trans hstored
  cases hunfinished.symm.trans hfinished

/-- The payment with an identifier is the one of the key. -/
theorem payment_eq (hs : sys.Sound) {key : String} (hhas : sys.Has key id)
    (hpayment : sys.payment id = some payment) : sys.payments.lookup key = some payment := by
  obtain ⟨_, hlookup⟩ := mem_rows_iff.1 (mem_of_find?_eq_some hpayment)
  have hid : (payment.id == id) = true := by
    have hfound := find?_some hpayment
    exact hfound
  obtain ⟨_, hlookup', hid'⟩ := hhas
  have hkey := hs.paymentIDs hlookup' hlookup (hid'.trans (beq_iff_eq.1 hid).symm)
  rw [hkey]
  exact hlookup

/-- The purchase that is found is not sent, if no request may end it. -/
theorem found (hs : sys.Sound) {now : Time}
    (hop : sys.store.pendingSubscriptionPurchase h.user = some op)
    (hpatient : (h.kind matches .retry) → ∀ h' ∈ rows sys.handlers,
      ∀ op' ∈ h'.phase.releases, op'.id ≠ op.id) : sys.Admits k (h.found now op) := by
  obtain ⟨hlookup, hunfinished, hends⟩ := hs.pending hop
  have hknows : sys.Knows op := ⟨op, hlookup, rfl⟩
  rcases hfound : h.found now op with _ | phase
  · exact .ends hs
  rw [Handler.found] at hfound
  split at hfound
  · next hretry =>
    split_ifs at hfound
    obtain ⟨q, -, hfound⟩ := bind_eq_some_iff.1 hfound
    split_ifs at hfound
    obtain rfl := some.inj hfound
    refine ⟨hs, ?_, ?_, ?_⟩ <;> rintro _ ⟨⟩
    · exact hknows
    · rintro _ ⟨⟩
      refine ⟨fun _ hlookup' hop' => ?_, by simp [hends]⟩
      exact hpatient (by rw [hretry]) _ (mem_rows_iff.2 ⟨_, hlookup'⟩) _ hop'
    · simp [Phase.releases]
  · -- Otherwise the provider is asked.
    split_ifs at hfound with hprovider
    obtain ⟨q, -, hfound⟩ := bind_eq_some_iff.1 hfound
    split_ifs at hfound
    obtain rfl := some.inj hfound
    exact .plain hs ⟨hknows, hs.recorded hlookup hunfinished hprovider⟩ rfl rfl

/-- A request that may send a purchase goes on to do so. -/
theorem submits [QuoteProof] (hs : sys.Sound) (hlookup : sys.handlers.lookup k = some h)
    (hop : op ∈ h.phase.sends) (hknows : sys.Knows op) : sys.Admits k (submit h.user op) := by
  rcases hsubmit : submit h.user op with _ | phase
  · exact .ends hs
  obtain ⟨q, -, hsends⟩ := bind_eq_some_iff.1 hsubmit
  split_ifs at hsends
  obtain rfl := some.inj hsends
  refine ⟨hs, ?_, ?_, ?_⟩ <;> rintro _ ⟨⟩
  · exact hknows
  · rintro _ ⟨⟩
    exact hs.sendable hlookup hop
  · simp [Phase.releases]

end System.Sound

/-- What is done with the answer of the provider. -/
theorem System.Sound.reports {sys : System} (hs : sys.Sound) {k : Nat} {op : FinanceOperation}
    (hknows : sys.Knows op) (hhas : sys.Has op.idempotencyKey op.providerOperationID)
    (user : String) (q : PurchaseRequest) (subscription : Option ProviderSubscription) :
    sys.Admits k ((sys.payment op.providerOperationID).bind fun payment =>
      reported user op q payment subscription) := by
  cases hnext : (sys.payment op.providerOperationID).bind fun payment =>
      reported user op q payment subscription with
  | none => exact .ends hs
  | some =>
    obtain ⟨payment, hpayment, hreported⟩ := bind_eq_some_iff.1 hnext
    have hlookup := hs.payment_eq hhas hpayment
    -- The provider has said that the purchase is expired, or that it is paid.
    have hexpired (hstatus : payment.status = .expired) :
        sys.Admits k (some (.finish op .expired)) :=
      .plain hs ⟨hknows, nofun, payment, hlookup, hstatus⟩ rfl rfl
    have hpaid (hstatus : payment.status = .paid) (seen) :
        sys.Admits k (some (.subscriptions op seen)) :=
      .plain hs ⟨hknows, payment, hlookup, hstatus⟩ rfl rfl
    rw [reported] at hreported
    split_ifs at hreported
    · split at hreported
      · next hstatus => exact hreported ▸ hexpired hstatus
      · cases hreported
      next hstatus =>
      obtain ⟨_, -, h⟩ := bind_eq_some_iff.1 hreported
      split_ifs at h
      exact h ▸ hpaid hstatus _
    · obtain ⟨sub, -, h⟩ := bind_eq_some_iff.1 hreported
      by_cases hsub : sub.id ≠ q.subscriptionID ∨ sub.userID ≠ user ∨
          payment.subscription ≠ q.subscriptionID
      · rw [if_pos hsub] at h
        cases h
      rw [if_neg hsub] at h
      split at h
      · next hstatus =>
        split_ifs at h
        exact h ▸ hpaid hstatus _
      · next hstatus =>
        split_ifs at h
        exact h ▸ hexpired hstatus
      · cases h

/-- A reservation is ended, or the call fails. -/
theorem System.Sound.finishing {sys : System} (hs : sys.Sound) {k : Nat} {op : FinanceOperation}
    (hknows : sys.Knows op) (hjustified : sys.Justified op.idempotencyKey reason)
    (hsends : reason = .notSubmitted → ∀ {k h op'}, sys.handlers.lookup k = some h →
      op' ∈ h.phase.sends → op'.id ≠ op.id) (env : Env) (providerID : String)
    (outcome : Quota.Outcome) (hnext : ∀ phase ∈ next, phase = .quote) :
    sys.Keeps k (sys.finishing env op providerID reason outcome next) := by
  refine .ite (fun _ => .fails hs) fun _ => ?_
  split
  · exact .fails hs
  next s h =>
  have hs' := hs.finish hknows hjustified hsends h
  refine System.Admits.ite (fun _ => ?_) fun _ => .ends hs'
  cases next with
  | none => exact .ends hs'
  | some phase =>
    obtain rfl := hnext phase rfl
    exact .plain hs' trivial rfl rfl

/-- A purchase that was just reserved is checked. No other request has to do with it. -/
theorem System.Sound.reserved {sys : System} (hs : sys.Sound) {k : Nat} {env : Env}
    {keyUUID : Uuid} {userID : String} {request : RawMessage} {s : Store} {op : FinanceOperation}
    (h : reserveSubscriptionPurchase env keyUUID sys.store userID request = .ok (s, op)) :
    System.Admits { sys with store := s } k (some (.recheck op)) := by
  obtain ⟨hs', hknows, hsent, hfresh⟩ := hs.reserve h
  have hother : ∀ {k' h' op'}, sys.handlers.lookup k' = some h' →
      (op' ∈ h'.phase.releases ∨ op' ∈ h'.phase.sends) → op'.id ≠ op.id := by
    intro _ _ _ hlookup hop' heq
    obtain ⟨stored, hstored, -⟩ := hs.knows_of_mem hlookup hop'
    exact hfresh (heq ▸ mem_of_lookup hstored)
  refine ⟨hs', ?_, ?_, ?_⟩ <;> rintro _ ⟨⟩
  · exact hknows
  · rintro _ ⟨⟩
    refine ⟨fun _ hlookup hop' => hother hlookup (.inl hop'), fun hreason => ?_⟩
    obtain ⟨stored, hstored, -⟩ := hs.known hreason
    exact hfresh (mem_of_lookup hstored)
  · rintro _ ⟨⟩
    exact ⟨hsent, fun _ hlookup hop' => hother hlookup hop'⟩

variable [QuoteProof] {sys : System}

/-- Every step of a request keeps the invariant. -/
theorem System.Sound.keeps (hs : sys.Sound) {k : Nat} {h : Handler}
    (hlookup : sys.handlers.lookup k = some h) (env : Env) (keyUUID : Uuid) (answer : Answer)
    (hpatient : sys.Patient (.move k env keyUUID answer)) :
    sys.Keeps k (h.step sys env keyUUID answer) := by
  obtain ⟨_, kind, phase⟩ := h
  have hfits : phase.Fits sys := hs.fits hlookup
  cases phase with
  | pending =>
    refine .ite (fun _ => .fails hs) fun _ => ?_
    split
    · next op hop => exact hs.found hop fun hretry => hpatient _ hlookup hretry rfl op hop
    · split
      · exact .plain hs trivial rfl rfl
      · exact .fails hs
  | provider =>
    exact .quiet (.ite (fun _ => .ends hs) fun _ => hs.reports hfits.1 hfits.2 _ _ _)
  | subscriptions | profile =>
    exact .quiet (.ite (fun _ => .ends hs) fun _ => .plain hs hfits rfl rfl)
  | quota =>
    refine .quiet (.ite (fun _ => .ends hs) fun _ => ?_)
    rw [arrived]
    split_ifs with hprojected
    · exact .plain hs ⟨hfits.1, nofun, hfits.2⟩ rfl rfl
    · exact .ends hs
  | finish =>
    refine hs.finishing hfits.1 hfits.2.2 (fun heq => absurd heq hfits.2.1) env _ _ ?_
    cases kind <;> rintro _ ⟨⟩
    rfl
  | quote => exact .quiet (.ite (fun _ => .plain hs trivial rfl rfl) fun _ => .ends hs)
  | reserve =>
    cases kind with
    | retry | poll => exact .fails hs
    | execute =>
      refine .ite (fun _ => .fails hs) fun _ => ?_
      split
      · exact .fails hs
      · next s op hreserve =>
        exact System.Admits.ite (fun _ => hs.reserved hreserve)
          fun _ => .ends (hs.reserve hreserve).1
  | recheck =>
    refine .quiet (.ite (fun _ => ?_) fun _ => hs.submits hlookup rfl hfits)
    refine ⟨hs, ?_, ?_, ?_⟩ <;> rintro _ ⟨⟩
    · exact hfits
    · simp [Phase.sends]
    · rintro _ ⟨⟩
      exact hs.releasable hlookup rfl
  | release op =>
    have hreleasable : sys.Releasable k op := hs.releasable hlookup rfl
    have hjustified : sys.Justified op.idempotencyKey .notSubmitted := hreleasable.1
    refine hs.finishing hfits hjustified (fun _ k' h' op' hlookup' hop' => ?_) env _ _ (by simp)
    by_cases hk : k' = k
    · rw [hk, hlookup] at hlookup'
      cases hlookup'
      cases hop'
    · exact hreleasable.2 hk hlookup' (.inr hop')
  | current =>
    exact .quiet (.ite (fun _ => .ends hs) fun _ => hs.submits hlookup rfl hfits)
  | send => exact System.Admits.plain (hs.send hlookup rfl) hfits rfl rfl
  | await op =>
    obtain ⟨providerID, response, hanswered, hpayment⟩ := answered_eq op
      (sys.payments.lookup op.idempotencyKey) answer
    refine .quiet ?_
    rw [hanswered]
    exact .plain hs ⟨hfits, hpayment⟩ rfl rfl
  | record =>
    refine .ite (fun _ => .fails hs) fun _ => ?_
    split
    · exact .fails hs
    · next s h => exact System.Admits.ends (hs.record hfits.1 hfits.2 h)

omit [QuoteProof] in
@[simp] theorem System.apply_handlers (effect : Effect) :
    (sys.apply effect).handlers = sys.handlers := by
  cases effect <;> rfl

/-- Every step keeps the invariant, if retries are patient. -/
theorem System.Sound.step (hs : sys.Sound) (a : Action) (hpatient : sys.Patient a) :
    (sys.step a).Sound := by
  cases a with
  | start k user kind =>
    rw [System.step]
    split_ifs
    · exact hs
    · have hadmits : sys.Admits k (some .pending) := .plain hs trivial rfl rfl
      exact hadmits.assign user kind
  | move k env keyUUID answer =>
    rw [System.step]
    split
    · exact hs
    · next h hlookup =>
      have hsound := (hs.keeps hlookup env keyUUID answer hpatient).assign h.user h.kind
      rw [apply_handlers] at hsound
      exact hsound
  | crash => exact (System.Admits.ends hs).assign "" .poll
  | accept =>
    rw [System.step]
    split_ifs with h
    · exact hs.accept h.2.1 h.2.2.2
    · exact hs
  | settle key status => exact hs.settle key status
  | webhook =>
    exact { hs with }

omit [QuoteProof] in
/-- Nothing was ever reserved. -/
theorem System.Sound.initial (users : List String) (locals : Table String Local) :
    (initial users locals).Sound where
  gated := ⟨nofun, nofun, fun h => absurd rfl h⟩
  indexed := .empty
  sent h := absurd h not_mem_nil
  paymentIDs := nofun
  recorded := nofun
  ended := nofun
  known := nofun
  fits := nofun
  sendable := nofun
  releasable := nofun

/-- If no retry picks up a reservation that the request that made it still checks, then in
    every state a reservation was ended only because nothing was ever sent for it, because it
    is expired, or because it is paid and has arrived; and no other purchase of an account
    can be paid while one is reserved. -/
theorem safe_of_patient (users : List String) (locals : Table String Local) {as : List Action}
    (h : Run.Guarded System.step System.Patient (System.initial users locals) as) :
    (Run.exec System.step (System.initial users locals) as).Safe :=
  (h.exec_induction (P := System.Sound) (fun _ a ha hs => hs.step a ha)
    (.initial users locals)).safe

end

/-! ## A purchase that is released although it was sent -/

namespace Sample

local instance : Unicode := .ascii

local instance : QuoteProof := ⟨fun _ => true⟩

/-- What is stored of the purchase. -/
def request : RawMessage :=
  .doc (.object [("userId", .string "ann"), ("planId", .string "PLUS"),
    ("priceId", .string "price_1"), ("action", .string "subscribe"),
    ("checkoutEmail", .string "ann@example.com")])

/-- The store with one account. -/
def start : System := .initial ["ann"] ∅

/-- A request takes some steps, whose calls all return. -/
def moves (k : Nat) (env : Env) (keyUUID : Uuid) (n : Nat) : List Action :=
  List.replicate n (.move k env keyUUID {})

/-- The times and identifiers of two purchases. -/
def first : Env := { Env.sample 0 with uuid := ⟨"1", by decide, by decide⟩ }

def second : Env := { Env.sample 1 with uuid := ⟨"2", by decide, by decide⟩ }

/-- A purchase is reserved. Before it is checked once more, a retry sends it, and the provider
    opens a checkout. Then the subscriptions cannot be read, and the reservation is ended. The
    account reserves another purchase. -/
def hurried : List Action :=
  .start 0 "ann" (.execute request) :: moves 0 first first.uuid 3 ++
  .start 1 "ann" .retry :: moves 1 first first.uuid 3 ++
  [.accept "subscription-purchase:1" { id := "cs_1", userID := "ann", planID := "PLUS" },
    .move 0 first first.uuid { outcome := .failed }, .move 0 first first.uuid {}] ++
  .start 2 "ann" (.execute request) :: moves 2 second second.uuid 3

/-- The checkout of the first purchase is open, while the second one is reserved. -/
theorem released_after_sending : ¬ (Run.exec System.step start hurried).Safe := by
  set sys := Run.exec System.step start hurried with hsys
  have hpurchase : ∀ id ∈ ["1", "2"], (sys.store.financeOperations.lookup id).any (fun op =>
      op.operationType = "subscription_purchase" ∧ op.targetType = "account" ∧
        op.targetID = "ann" ∧ op.idempotencyKey = "subscription-purchase:" ++ id ∧
        (unfinished op = true ↔ id = "2")) = true := by
    decide +kernel
  have hpaid : "subscription-purchase:1" ∈ sys.sent ∧
      ∀ payment ∈ sys.payments.lookup "subscription-purchase:1", payment.status = .unpaid := by
    decide +kernel
  intro hsafe
  obtain ⟨op, hop, h⟩ := (Option.any_eq_true _ _).1 (hpurchase "1" (by simp))
  obtain ⟨_, hop', h'⟩ := (Option.any_eq_true _ _).1 (hpurchase "2" (by simp))
  simp only [decide_eq_true_eq] at h h'
  obtain ⟨htype, htarget, hid, hkey, -⟩ := h
  obtain ⟨htype', htarget', hid', -, hunfinished⟩ := h'
  refine hsafe.single hop' ⟨htype', htarget', hid'⟩ (hunfinished.2 trivial) hop
    ⟨htype, htarget, hid⟩ (by decide) ?_
  rw [hkey]
  exact hpaid

/-- The answer to a purchase is lost. A retry sends it again and gets the checkout, which
    expires, and a poll ends the reservation. The account purchases again. -/
def patient : List Action :=
  .start 0 "ann" (.execute request) :: moves 0 first first.uuid 5 ++
  [.move 0 first first.uuid { outcome := .failed }, .move 0 first first.uuid {}] ++
  .start 1 "ann" .retry :: moves 1 first first.uuid 3 ++
  .accept "subscription-purchase:1" { id := "cs_1", userID := "ann", planID := "PLUS" } ::
  moves 1 first first.uuid 2 ++
  [.settle "subscription-purchase:1" .expired, .start 2 "ann" .poll] ++
  moves 2 first first.uuid 3 ++
  .start 3 "ann" (.execute request) :: moves 3 second second.uuid 5

/-- The first purchase is ended and the second one is sent. -/
theorem safe_of_patient_sample : (Run.exec System.step start patient).sent =
        ["subscription-purchase:2", "subscription-purchase:1", "subscription-purchase:1"] ∧
      ((Run.exec System.step start patient).ends.lookup "1").any (· matches .expired) ∧
      (Run.exec System.step start patient).Safe :=
  ⟨by decide +kernel, by decide +kernel, safe_of_patient ["ann"] ∅ (by decide +kernel)⟩

end Sample

end Accounts.Purchases

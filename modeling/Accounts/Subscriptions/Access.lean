import Accounts.Quota.Accounting
import Accounts.Referrals.Store

/-!
# Access by subscription

Whether an account keeps what it subscribed to is decided from its subscriptions,
its quota state and the validity an administrator gave it, at every sync and by a
sweep (`api/subscription_validity.go`). The decision is `downgrades`.

A subscription runs until the end of its last period that was paid for by a
verified invoice, with the days added for referrals (`referralExtensionEnd`). If
there is no such invoice, the end that the payment provider gave counts
(`subscriptionEffectivePeriodEnd`). A payment that was refunded, or whose invoice
is at risk, does not count.

One subscription that runs is enough to keep the access. The others matter only if
there is none (`downgrades_iff`).
-/

namespace Accounts.Subscriptions

open Finance Quota Text Table

/-- How a time is read from a text (`time.Parse` with `time.RFC3339`). No proof depends on it. -/
class RFC3339 where
  parse : String → Option Time

/-- A subscription of an account, as it is stored. -/
structure Subscription where
  id : String
  provider : String
  kind : String
  status : String
  metadata : List (String × Any) := []
  createdAt : Time := 0
  updatedAt : Time := 0
  cancelledAt : Option Time := none
  externalID : String := ""

/-- What is on record about payments and referrals. `proofs` are the invoices that
    were verified later. -/
structure Evidence where
  finance : Finance.Store
  proofs : List String := []
  referrals : Referrals.Store

/-- What the decision reads of an account. -/
structure Account where
  validFrom : Option Time := none
  validUntil : Option Time := none
  quota : Option AccountQuotaState := none
  subscriptions : List Subscription := []

/-! ## Paid periods -/

namespace Evidence

variable (e : Evidence)

/-- The invoice was verified, when it was recorded or later. -/
def verified (invoice : FinanceInvoice) : Bool :=
  invoice.description == "Verified XConnect subscription invoice" ||
    invoice.description == "Verified XConnect inviter subscription invoice" ||
    e.proofs.contains invoice.id

/-- A verified invoice for a period of the subscription. -/
def covers (subscriptionUUID : String) (invoice : FinanceInvoice) : Bool :=
  invoice.subscriptionUUID == subscriptionUUID && invoice.provider == "stripe" &&
    e.verified invoice &&
    match invoice.servicePeriodStart, invoice.servicePeriodEnd with
    | some start, some stop => decide (start < stop)
    | _, _ => false

/-- A payment of the invoice that counts: not refunded, with no risk. -/
def settles (invoice : FinanceInvoice) (payment : FinancePayment) : Bool :=
  payment.invoiceID == invoice.id && payment.provider == "stripe" &&
    !(rows e.finance.financeRefunds).any (·.paymentID == payment.id) &&
    !e.referrals.atRisk invoice.providerInvoiceID

variable (subscriptionUUID : String)

/-- The period of the invoice was paid for. -/
def paid (invoice : FinanceInvoice) : Bool :=
  e.covers subscriptionUUID invoice && (rows e.finance.financePayments).any (e.settles invoice)

/-- The ends of the periods that were paid for. -/
def paidEnds : List Time :=
  ((rows e.finance.financeInvoices).filter (e.paid subscriptionUUID)).filterMap (·.servicePeriodEnd)

/-- The days added to the subscription. -/
def extensionDays : Int :=
  total (fun extension : Referrals.SubscriptionExtension =>
    if extension.subscriptionUUID = subscriptionUUID ∧ extension.status = .applied then
      (extension.days : Int) else 0) e.referrals.extensions

/-- The end of the last period that was paid for, with the days added. -/
def referralExtensionEnd : Option Time :=
  (e.paidEnds subscriptionUUID).max?.map (· + e.extensionDays subscriptionUUID * Time.day)

end Evidence

/-- A time among the metadata of a subscription; the zero time if there is none. -/
def subscriptionMetaTime [RFC3339] (metadata : List (String × Any)) (key : String) : Time :=
  match metadata.lookup key with
  | some (.string value) => (RFC3339.parse (trimSpace value)).getD 0
  | _ => 0

/-- The end of a subscription; the zero time if it is not known. -/
def subscriptionEffectivePeriodEnd [RFC3339] (e : Evidence) (sub : Subscription) : Time :=
  let base := subscriptionMetaTime sub.metadata "expiresAt"
  match e.referralExtensionEnd sub.id with
  | some extended => if extended.isZero then base else extended
  | none => base

/-! ## The decision -/

/-- The access grace for failed payments. -/
def subscriptionGracePeriod : Int := 14 * Time.day

/-- How long a subscription may be without a period. -/
def missingStripePeriodRetryWindow : Int := 24 * Time.hour

/-- The end of the day of a time, in UTC. -/
def endOfDay (t : Time) : Time := Time.truncate t Time.day + Time.day

/-- The last day of the validity given to the account is over. -/
def subscriptionValidityExpired (account : Account) (now : Time) : Bool :=
  account.validUntil.any fun stop => decide (endOfDay stop ≤ now)

/-- The validity given to the account holds. -/
def subscriptionValidityActive (account : Account) (now : Time) : Bool :=
  account.validUntil.any fun stop =>
    !account.validFrom.any (fun start => decide (now < start)) && decide (now < endOfDay stop)

/-- When the account ran into arrears, if it is known. -/
def arrearsSince (quota : Option AccountQuotaState) : Option Time :=
  quota.bind fun quota => if quota.arrears then quota.arrearsSince else none

/-- The account is in arrears for longer than the grace. -/
def paymentGraceExpired (quota : Option AccountQuotaState) (now : Time) : Bool :=
  (arrearsSince quota).any fun since => decide (since + subscriptionGracePeriod ≤ now)

/-- A subscription without a period is too old to wait for one. -/
def missingStripePeriodRetryExpired (sub : Subscription) (now : Time) : Bool :=
  let firstObserved := if sub.createdAt.isZero then sub.updatedAt else sub.createdAt
  !firstObserved.isZero && decide (firstObserved + missingStripePeriodRetryWindow ≤ now)

/-- What a subscription says about the access of its account. -/
inductive Standing
  /-- Nothing: it is of another kind, or in another state. -/
  | silent
  /-- The access is kept. -/
  | runs
  /-- The access is not kept by it. -/
  | lapsed
  deriving DecidableEq

/-- A subscription with an end that is not known yet, or is not over. -/
def standingUntil (sub : Subscription) (periodEnd now : Time) : Standing :=
  if periodEnd.isZero then
    if missingStripePeriodRetryExpired sub now then .lapsed else .runs
  else if now < periodEnd then .runs else .lapsed

section

variable [Unicode]

/-- One round of the loop over the subscriptions. -/
def Subscription.standing (sub : Subscription) (quota : Option AccountQuotaState)
    (periodEnd now : Time) : Standing :=
  if ¬ equalFold (trimSpace sub.provider) "stripe" ∨
      ¬ equalFold (trimSpace sub.kind) "subscription" then .silent else
  let status := toLower (trimSpace sub.status)
  if status = "active" ∨ status = "trialing" then
    -- An account in arrears keeps an ended subscription during the grace.
    if ¬ periodEnd.isZero ∧ (arrearsSince quota).isSome ∧ ¬ paymentGraceExpired quota now then .runs
    else standingUntil sub periodEnd now
  else if status = "past_due" then
    if ¬ periodEnd.isZero ∧ now < periodEnd then .runs
    else if paymentGraceExpired quota now then .lapsed
    else .runs
  else if status = "canceling" ∨ status = "cancelled" ∨ status = "canceled" then
    standingUntil sub (if periodEnd.isZero then sub.cancelledAt.getD 0 else periodEnd) now
  else .silent

/-- The loop over the subscriptions: whether the account is to be downgraded, or
    none if its access is kept by one of them. -/
def sweep (quota : Option AccountQuotaState) (periodEnd : Subscription → Time) (now : Time) :
    Bool → List Subscription → Option Bool
  | shouldDowngrade, [] => some shouldDowngrade
  | shouldDowngrade, sub :: subs =>
    match sub.standing quota (periodEnd sub) now with
    | .runs => none
    | .lapsed => sweep quota periodEnd now true subs
    | .silent => sweep quota periodEnd now shouldDowngrade subs

variable [RFC3339] (e : Evidence) (account : Account) (now : Time)

/-- The account loses its access (`reconcileSubscriptionAccessAt`). -/
def downgrades : Bool :=
  match sweep account.quota (subscriptionEffectivePeriodEnd e) now
      (subscriptionValidityExpired account now || paymentGraceExpired account.quota now)
      account.subscriptions with
  | none => false
  | some shouldDowngrade => !subscriptionValidityActive account now && shouldDowngrade

/-- The subscription keeps the access of the account. -/
def Subscription.keeps (sub : Subscription) : Bool :=
  sub.standing account.quota (subscriptionEffectivePeriodEnd e sub) now == .runs

end

/-! ## Which subscriptions count -/

theorem standingUntil_ne_silent {sub : Subscription} {now : Time} (t : Time) :
    standingUntil sub t now ≠ .silent := by
  rw [standingUntil]
  split_ifs <;> simp

variable [Unicode]

/-- Whether a subscription counts does not depend on its end. -/
theorem standing_eq_silent_iff (sub : Subscription) (quota : Option AccountQuotaState)
    (t t' now : Time) :
    sub.standing quota t now = .silent ↔ sub.standing quota t' now = .silent := by
  simp only [Subscription.standing]
  split_ifs <;> simp [standingUntil_ne_silent]

/-- The loop ends early if a subscription runs. Otherwise, it finds the lapsed ones. -/
theorem sweep_eq (quota : Option AccountQuotaState) (periodEnd : Subscription → Time) (now : Time)
    (shouldDowngrade : Bool) (subs : List Subscription) :
    sweep quota periodEnd now shouldDowngrade subs =
      if subs.any (fun sub => sub.standing quota (periodEnd sub) now == .runs) then none
      else some (shouldDowngrade ||
        subs.any fun sub => sub.standing quota (periodEnd sub) now == .lapsed) := by
  induction subs generalizing shouldDowngrade with
  | nil => simp [sweep]
  | cons sub _ ih =>
    rw [sweep, List.any_cons, List.any_cons]
    cases sub.standing quota (periodEnd sub) now with
    | runs => rfl
    | lapsed => exact (ih true).trans (by simp)
    | silent => exact ih shouldDowngrade

variable [RFC3339]

/-- The account loses its access exactly if no subscription keeps it, no validity given to it holds,
    and there is a reason: the validity or the grace is over, or a subscription has lapsed. -/
theorem downgrades_iff (e : Evidence) (account : Account) (now : Time) :
    downgrades e account now = true ↔
      account.subscriptions.any (Subscription.keeps e account now) = false ∧
        subscriptionValidityActive account now = false ∧
        (subscriptionValidityExpired account now = true ∨
          paymentGraceExpired account.quota now = true ∨
          ∃ sub ∈ account.subscriptions,
            sub.standing account.quota (subscriptionEffectivePeriodEnd e sub) now ≠ .silent) := by
  rw [downgrades, sweep_eq]
  cases hkeeps : account.subscriptions.any (Subscription.keeps e account now) with
  | true =>
    unfold Subscription.keeps at hkeeps
    simp [hkeeps]
  | false =>
    unfold Subscription.keeps at hkeeps
    simp only [hkeeps, Bool.false_eq_true, if_false, Bool.and_eq_true, Bool.not_eq_true',
      Bool.or_eq_true, List.any_eq_true, beq_iff_eq, true_and, or_assoc]
    -- No subscription runs: one that is not silent has lapsed.
    refine and_congr_right fun _ => or_congr_right (or_congr_right (exists_congr fun sub =>
      and_congr_right fun hsub => ?_))
    have hnot := List.any_eq_false.1 hkeeps sub hsub
    rw [beq_iff_eq] at hnot
    cases hstanding : sub.standing account.quota (subscriptionEffectivePeriodEnd e sub) now with
    | silent => simp
    | runs => exact absurd hstanding hnot
    | lapsed => simp

end Accounts.Subscriptions

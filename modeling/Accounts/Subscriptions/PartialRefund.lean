import Accounts.Base.Run
import Accounts.Subscriptions.Withdrawal

/-!
# Partial refunds and access

A refund is recorded as a fact of the ledger, together with a risk for the invoice
of its payment, which holds back referral rewards (`recordStripeRefund` in
`api/stripe_finance.go`). A refund of a part of the payment is meant to leave the
access of the account as it is.

The end of a subscription does not look at the amount of a refund, though: a payment
with any refund does not count for it, nor does an invoice at risk. So a refund has
the effect of taking the payment away, with the days added for a reward of its
invoice (`Evidence.without`, `recordRefund_ok`). The access is kept
exactly if a validity given to the account holds, if no subscription kept it before,
or if one keeps it on what is left (`keeps_iff_supported`), and a refund of one cent
can end it (`cent_ends_access`).
-/

namespace Accounts.Subscriptions

open Finance Referrals Text Except Table Subscription

/-! ## Recording a refund -/

/-- Why a refund is not recorded. -/
inductive RefundError
  | finance (e : FinanceError)
  | referral (e : ReferralError)

/-- The invoice of the payment that a refund is of. -/
def Evidence.refundedInvoice (e : Evidence) (refund : FinanceRefund) :
    Except FinanceError FinanceInvoice :=
  match e.finance.financePayments.lookup (trimSpace refund.paymentID) with
  | none => .error .recordNotFound
  | some payment => getFinanceInvoice e.finance payment.invoiceID

/-- The risk that is recorded with a refund. -/
def refundRisk (refund : FinanceRefund) (invoice : FinanceInvoice) : ReferralPaymentRisk where
  sourceKey := "stripe-refund:" ++ refund.providerRefundID
  providerInvoiceID := invoice.providerInvoiceID
  type := .refund
  reason := "Stripe settled refund"
  occurredAt := refund.refundedAt

/-- Recording a refund, and the risk for the invoice if it has a reference at the provider. -/
def Evidence.recordRefund [Unicode] (env : Env) (e : Evidence) (refund : FinanceRefund) :
    Except RefundError Evidence :=
  match recordFinanceRefund env e.finance refund with
  | .error err => .error (.finance err)
  | .ok recorded =>
    match e.refundedInvoice refund with
    | .error err => .error (.finance err)
    | .ok invoice =>
      if invoice.providerInvoiceID = "" then .ok { e with finance := recorded.1 } else
      match recordReferralRisk e.referrals (refundRisk refund invoice) with
      | .error err => .error (.referral err)
      | .ok referrals => .ok { e with finance := recorded.1, referrals := referrals }

/-- What was refunded of a payment is less than its amount. -/
def Evidence.partlyRefunded (e : Evidence) (paymentID : String) : Bool :=
  (e.finance.financePayments.lookup paymentID).any fun payment =>
    decide (total (fun refund : FinanceRefund =>
      if refund.paymentID = paymentID then refund.amountMinor.toInt else 0)
      e.finance.financeRefunds < payment.amountMinor.toInt)

/-! ## What is left -/

/-- A risk is recorded with the refund for the invoice: it has the reference of the
    refunded one, and the refund is not among the risks yet. -/
def Evidence.newlyAtRisk (e : Evidence) (refund : FinanceRefund)
    (refunded invoice : FinanceInvoice) : Bool :=
  refunded.providerInvoiceID != "" &&
    (decide ((refundRisk refund refunded).sourceKey ∉ e.referrals.risks) &&
      refunded.providerInvoiceID == invoice.providerInvoiceID)

/-- The days added to subscriptions, without those for the reward of an invoice. -/
def withoutReward (s : Referrals.Store) (invoice : FinanceInvoice) :
    Table String SubscriptionExtension :=
  if invoice.providerInvoiceID = "" then s.extensions else
  match s.rewardOf invoice.providerInvoiceID with
  | none => s.extensions
  | some reward => s.extensions.erase reward.id

/-- The evidence without the refunded payment, its invoice, and the days added for
    the reward of the invoice. -/
def Evidence.without (e : Evidence) (refund : FinanceRefund) (refunded : FinanceInvoice) :
    Evidence :=
  { e with
    finance := { e.finance with
      financeInvoices := filter
        (fun _ invoice => !e.newlyAtRisk refund refunded invoice) e.finance.financeInvoices
      financePayments := filter (fun _ payment => !(trimSpace refund.paymentID == payment.id))
        e.finance.financePayments }
    referrals := { e.referrals with extensions := withoutReward e.referrals refunded } }

section

variable [Unicode]

/-- A recorded refund is one of its payment, and there is no other new one. -/
theorem recordFinanceRefund_refunds {env : Env} {s : Finance.Store} {refund : FinanceRefund}
    {recorded : Finance.Store × Bool × FinanceRefund}
    (h : recordFinanceRefund env s refund = .ok recorded) :
    recorded.1.financeInvoices = s.financeInvoices ∧
      recorded.1.financePayments = s.financePayments ∧
      ∀ id, (rows recorded.1.financeRefunds).any (·.paymentID == id) =
        ((rows s.financeRefunds).any (·.paymentID == id) || trimSpace refund.paymentID == id) := by
  simp only [recordFinanceRefund, guard_ok] at h
  obtain ⟨-, -, h⟩ := h
  cases hkey : s.financeRefundKeys.lookup (refund.normalized env).idempotencyKey with
  | some key =>
    rcases hold : s.financeRefunds.lookup key with _ | old
    · simp only [hkey, hold, reduceCtorEq] at h
    simp only [hkey, hold, guard_ok, not_not] at h
    obtain ⟨hagree, h⟩ := h
    cases h
    refine ⟨rfl, rfl, fun id => ?_⟩
    -- The refund that is there is one of the same payment.
    have hpayment : old.paymentID = trimSpace refund.paymentID := hagree.1
    by_cases hid : trimSpace refund.paymentID = id
    · have hany : (rows s.financeRefunds).any (·.paymentID == id) = true :=
        List.any_eq_true.2 ⟨old, mem_rows_iff.2 ⟨key, hold⟩, by simp [hpayment, hid]⟩
      rw [hany, Bool.true_or]
    · simp [hid]
  | none =>
    cases hcheck : checkRefundOperation s (refund.normalized env) with
    | error => simp only [hkey, hcheck, reduceCtorEq] at h
    | ok =>
    rcases hpayment : s.financePayments.lookup (refund.normalized env).paymentID with _ | payment
    · simp only [hkey, hcheck, hpayment, reduceCtorEq] at h
    simp only [hkey, hcheck, hpayment, guard_ok] at h
    obtain ⟨-, -, hid, -, h⟩ := h
    have hrefunds : ∀ id, (rows (s.financeRefunds.insert (refund.normalized env).id
        (refund.normalized env))).any (·.paymentID == id) =
        ((rows s.financeRefunds).any (·.paymentID == id) ||
          trimSpace refund.paymentID == id) := by
      intro _
      rw [Table.rows_insert_of_notMem _ hid, List.any_cons, Bool.or_comm]
      rfl
    -- The operation with the key of the refund is bound to it.
    cases hop : (s.insertRefund (refund.normalized env)).financeOperationKeys.lookup
        (refund.normalized env).idempotencyKey with
    | none =>
      rw [hop] at h
      cases h
      exact ⟨rfl, rfl, hrefunds⟩
    | some =>
      rw [hop] at h
      dsimp only at h
      split_ifs at h with hempty
      · cases h
        exact ⟨rfl, rfl, hrefunds⟩
      · split at h
        · cases h
        next =>
        cases h
        exact ⟨rfl, rfl, hrefunds⟩

omit [Unicode] in
/-- A risk changes nothing but the risks and the days added for its reward, as far
    as they are totalled. -/
theorem recordReferralRisk_total {s s' : Referrals.Store} {risk : ReferralPaymentRisk}
    (h : recordReferralRisk s risk = .ok s') :
    (∀ invoice, s'.atRisk invoice = (s.insertRisk risk).atRisk invoice) ∧
      ∀ f : SubscriptionExtension → Int, (∀ x, x.status = .reversed → f x = 0) →
        total f s'.extensions = total f (match s.rewardOf risk.providerInvoiceID with
            | none => s.extensions
            | some reward => s.extensions.erase reward.id) := by
  have hextensions : (s.insertRisk risk).extensions = s.extensions := by
    rw [Store.insertRisk]
    split_ifs <;> rfl
  rcases recordReferralRisk_ok h with ⟨hnone, rfl⟩ | ⟨reward, hsome, htaken⟩
  · refine ⟨fun _ => rfl, fun f _ => ?_⟩
    rw [hnone, hextensions]
  · refine ⟨fun invoice => by rw [Store.atRisk, Store.atRisk, htaken.risks_eq], fun f hf => ?_⟩
    rw [hsome, htaken.total_extensions hf, hextensions]

/-- What a refund withdraws: its payment, the invoice that is at risk now, and the days for its
    reward. -/
theorem recordRefund_ok {env : Env} {e e' : Evidence} {refund : FinanceRefund}
    (h : e.recordRefund env refund = .ok e') :
    ∃ refunded, e.refundedInvoice refund = .ok refunded ∧
      Lessened e (trimSpace refund.paymentID == ·) (e.newlyAtRisk refund refunded)
        (withoutReward e.referrals refunded) e' := by
  rw [Evidence.recordRefund] at h
  cases hrecorded : recordFinanceRefund env e.finance refund with
  | error =>
    rw [hrecorded] at h
    cases h
  | ok =>
  cases hinvoice : e.refundedInvoice refund with
  | error =>
    rw [hrecorded, hinvoice] at h
    cases h
  | ok refunded =>
    rw [hrecorded, hinvoice] at h
    dsimp only at h
    obtain ⟨hinvoices, hpayments, hrefunds⟩ := recordFinanceRefund_refunds hrecorded
    refine ⟨refunded, rfl, ?_⟩
    split_ifs at h with hempty
    · -- The invoice has no reference at the provider: no risk is recorded.
      cases h
      refine ⟨rfl, hinvoices, hpayments, hrefunds, fun invoice => ?_, fun f _ => ?_⟩
      · simp [Evidence.newlyAtRisk, hempty]
      · rw [withoutReward, if_pos hempty]
    · split at h
      · cases h
      next referrals hrisk =>
      cases h
      obtain ⟨hrisks, htotal⟩ := recordReferralRisk_total hrisk
      refine ⟨rfl, hinvoices, hpayments, hrefunds, fun invoice => ?_, fun f hf => ?_⟩
      · rw [hrisks, atRisk_insertRisk, Evidence.newlyAtRisk, (bne_iff_ne).2 hempty, Bool.true_and]
        rfl
      · rw [withoutReward, if_neg hempty]
        exact htotal f hf

/-! ## Access after a refund -/

variable [RFC3339]

/-- The access does not hang on the refunded payment: a validity given to the account
    holds, no subscription keeps the access, or one keeps it without the payment. -/
def supported (e : Evidence) (refund : FinanceRefund) (account : Account) (now : Time) : Bool :=
  subscriptionValidityActive account now || !account.subscriptions.any (keeps e account now) ||
    match e.refundedInvoice refund with
    | .error _ => false
    | .ok refunded =>
      account.subscriptions.any (keeps (e.without refund refunded) account now)

/-- A refund takes the access of an account exactly if it hangs on the refunded payment. -/
theorem keeps_iff_supported {env : Env} {e e' : Evidence} {refund : FinanceRefund}
    (h : e.recordRefund env refund = .ok e') (account : Account) (now : Time) :
    (downgrades e account now = false → downgrades e' account now = false) ↔
      supported e refund account now = true := by
  obtain ⟨refunded, hrefunded, hless⟩ := recordRefund_ok h
  -- After the refund, the end of a subscription is that without the payment.
  have hkeeps : keeps e' account now = keeps (e.without refund refunded) account now := by
    funext sub
    simp only [keeps, subscriptionEffectivePeriodEnd, hless.referralExtensionEnd_eq]
    rfl
  -- The reasons for a downgrade, apart from what keeps the access, stay as they are.
  have hsilent (sub : Subscription) := standing_eq_silent_iff sub account.quota
    (subscriptionEffectivePeriodEnd e' sub) (subscriptionEffectivePeriodEnd e sub) now
  rw [← Bool.not_eq_true, ← Bool.not_eq_true, not_imp_not, downgrades_iff, downgrades_iff, hkeeps,
    supported, hrefunded]
  simp only [ne_eq, hsilent, Bool.or_eq_true, Bool.not_eq_true']
  constructor
  · intro himp
    by_contra hno
    rw [not_or, not_or, Bool.not_eq_true, Bool.not_eq_false, Bool.not_eq_true] at hno
    obtain ⟨⟨hinactive, hkept⟩, hnone⟩ := hno
    -- The subscription that kept the access is a reason for the downgrade.
    obtain ⟨sub, hsub, hruns⟩ := List.any_eq_true.1 hkept
    rw [keeps, beq_iff_eq] at hruns
    have hlost := himp ⟨hnone, hinactive, .inr (.inr ⟨sub, hsub, by simp [hruns]⟩)⟩
    rw [hkept] at hlost
    cases hlost.1
  · rintro ((hactive | hkept) | hkept) ⟨hnone, hinactive, hreason⟩
    · rw [hactive] at hinactive
      cases hinactive
    · exact ⟨hkept, hinactive, hreason⟩
    · rw [hkept] at hnone
      cases hnone

end

/-! ## A partial refund that ends the access -/

section

local instance : Unicode := Unicode.ascii

namespace Sample

/-- The end of February, as it is written. -/
local instance : RFC3339 := ⟨fun text =>
  if text = "1970-03-01T00:00:00Z" then some (Time.unix (59 * 86400)) else none⟩

/-- The verified invoice of 10.00 for a month, from one day to another. -/
def invoice (id providerInvoiceID : String) (start stop : Int) : FinanceInvoice where
  id := id
  idempotencyKey := "stripe-invoice:" ++ providerInvoiceID
  accountUUID := "ann"
  subscriptionUUID := "sub"
  provider := "stripe"
  providerInvoiceID := providerInvoiceID
  amountMinor := 1000
  currency := "USD"
  description := "Verified XConnect subscription invoice"
  issuedAt := Time.unix (start * 86400)
  dueAt := none
  servicePeriodStart := some (Time.unix (start * 86400))
  servicePeriodEnd := some (Time.unix (stop * 86400))
  createdAt := 0

/-- The payment of an invoice, on a day. -/
def payment (id invoiceID providerPaymentID : String) (day : Int) : FinancePayment where
  id := id
  idempotencyKey := "stripe-payment:" ++ invoiceID
  invoiceID := invoiceID
  accountUUID := "ann"
  provider := "stripe"
  providerPaymentID := providerPaymentID
  amountMinor := 1000
  currency := "USD"
  paidAt := Time.unix (day * 86400)
  createdAt := 0

/-- January is paid for. -/
def january : List Call :=
  [ .createFinanceInvoice (.sample 0) (invoice "january" "in_1" 0 31),
    .recordFinancePayment (.sample 0) (payment "p1" "january" "pi_1" 0)]

/-- What the calls record. -/
def recorded (calls : List Call) : Evidence where
  finance := Run.exec step
    (.init ["ann"] (AList.insert "ann" [⟨"sub", "sub_1", "stripe", "subscription"⟩] ∅)) calls
  referrals := .init ∅

/-- January and February were paid for. -/
def evidence : Evidence :=
  recorded (january ++
    [ .createFinanceInvoice (.sample 0) (invoice "february" "in_2" 31 59),
      .recordFinancePayment (.sample 0) (payment "p2" "february" "pi_2" 31)])

/-- A refund of one cent of a payment. -/
def cent (paymentID : String) : FinanceRefund where
  id := "refund"
  idempotencyKey := "stripe-refund:re_1"
  paymentID := paymentID
  provider := "stripe"
  providerRefundID := "re_1"
  amountMinor := 1
  currency := "USD"
  reason := "requested_by_customer"
  refundedAt := Time.unix (40 * 86400)
  createdAt := 0

/-- A subscription until the end of February. -/
def subscription : Subscription where
  id := "sub"
  provider := "stripe"
  kind := "subscription"
  status := "active"
  metadata := [("expiresAt", .string "1970-03-01T00:00:00Z")]

def account : Account := { subscriptions := [subscription] }

/-- In February, one cent of its payment is refunded. The account loses its access:
    what counts is the end of January. -/
theorem cent_ends_access : let now := Time.unix (41 * 86400)
    ∃ e', (evidence.recordRefund (.sample now) (cent "p2")).toOption = some e' ∧
      e'.partlyRefunded "p2" = true ∧ downgrades evidence account now = false ∧
      downgrades e' account now = true := by
  intro now
  have hrun : ((evidence.recordRefund (.sample now) (cent "p2")).toOption.any fun e' =>
      e'.partlyRefunded "p2" && !downgrades evidence account now && downgrades e' account now) =
      true := by
    decide +kernel
  obtain ⟨e', hok, h⟩ := (Option.any_eq_true _ _).1 hrun
  simp only [Bool.and_eq_true, Bool.not_eq_true'] at h
  exact ⟨e', hok, h.1.1, h.1.2, h.2⟩

/-- A refund of the payment for January leaves the access. -/
theorem keeps_iff_supported_sample : let now := Time.unix (41 * 86400)
    ∃ e', evidence.recordRefund (.sample now) (cent "p1") = .ok e' ∧
      (downgrades evidence account now = false → downgrades e' account now = false) := by
  intro now
  have hsome : ((evidence.recordRefund (.sample now) (cent "p1")).toOption).isSome = true := by
    decide +kernel
  cases hok : evidence.recordRefund (.sample now) (cent "p1") with
  | error =>
    rw [hok] at hsome
    cases hsome
  | ok e' => exact ⟨e', rfl, (keeps_iff_supported hok account now).2 (by decide +kernel)⟩

end Sample

end

end Accounts.Subscriptions

import Accounts.Referrals.Reversal
import Accounts.Subscriptions.Access

/-!
# Evidence that is withdrawn

A refund, a risk, or the reversal of a reward withdraws some of the evidence for the end of a
subscription: payments do not count any more, or invoices, or days that were added. The records
only grow by it (`Lessened`). The end that is verified is the one without the payments, the
invoices and the days (`Lessened.referralExtensionEnd_eq`), so it is not later than it was
(`referralExtensionEnd_less_le`).

The end of the subscription is another matter, as it falls back on what the provider gave if no
invoice is left (`getD_le_getD_iff`).
-/

namespace Accounts.Subscriptions

open Finance Referrals Table List Evidence

/-- The evidence without some payments and some invoices, and with other days added. -/
def Evidence.less (e : Evidence) (payments : String → Bool) (invoices : FinanceInvoice → Bool)
    (extensions : Table String SubscriptionExtension) : Evidence :=
  { e with
    finance := { e.finance with
      financeInvoices := filter (fun _ invoice => !invoices invoice) e.finance.financeInvoices
      financePayments := filter (fun _ payment => !payments payment.id) e.finance.financePayments }
    referrals := { e.referrals with extensions := extensions } }

/-- The records after some evidence was withdrawn: there is a refund of each of the payments, and
    a risk for each of the invoices. The days are those of `extensions`, as far as they are
    applied. -/
structure Lessened (e : Evidence) (payments : String → Bool) (invoices : FinanceInvoice → Bool)
    (extensions : Table String SubscriptionExtension) (e' : Evidence) : Prop where
  proofs_eq : e'.proofs = e.proofs
  invoices_eq : e'.finance.financeInvoices = e.finance.financeInvoices
  payments_eq : e'.finance.financePayments = e.finance.financePayments
  refunds : ∀ id, (rows e'.finance.financeRefunds).any (·.paymentID == id) =
    ((rows e.finance.financeRefunds).any (·.paymentID == id) || payments id)
  risks : ∀ invoice : FinanceInvoice, e'.referrals.atRisk invoice.providerInvoiceID =
    (e.referrals.atRisk invoice.providerInvoiceID || invoices invoice)
  days : ∀ f : SubscriptionExtension → Int, (∀ x, x.status = .reversed → f x = 0) →
    total f e'.referrals.extensions = total f extensions

variable {e e' : Evidence} {payments : String → Bool} {invoices : FinanceInvoice → Bool}
  {extensions : Table String SubscriptionExtension}

/-! ## The end that is verified -/

section

variable (h : Lessened e payments invoices extensions e') (subscriptionUUID : String)

include h

/-- An invoice is paid for if it is not withdrawn, by a payment that is not. -/
theorem Lessened.paid_eq (invoice : FinanceInvoice) : e'.paid subscriptionUUID invoice =
      ((e.less payments invoices extensions).paid subscriptionUUID invoice &&
        !invoices invoice) := by
  have hcovers : e'.covers subscriptionUUID invoice = e.covers subscriptionUUID invoice := by
    simp only [covers, verified, h.proofs_eq]
  have hcovers' : (e.less payments invoices extensions).covers subscriptionUUID invoice =
      e.covers subscriptionUUID invoice := rfl
  have hsettles : ∀ payment, e'.settles invoice payment =
      (!payments payment.id && (e.less payments invoices extensions).settles invoice payment &&
        !invoices invoice) := by
    intro _
    simp only [settles, h.refunds, h.risks, less, Bool.not_or]
    ac_rfl
  have hrows : rows (e.less payments invoices extensions).finance.financePayments =
      (rows e.finance.financePayments).filter fun payment => !payments payment.id := by
    rw [less, rows_filter]
  rw [paid, paid, hcovers, hcovers', h.payments_eq, hrows, any_filter,
    funext hsettles]
  cases invoices invoice with
  | true => simp
  | false => simp only [Bool.not_false, Bool.and_true]

/-- The verified end is the one without what was withdrawn. -/
theorem Lessened.referralExtensionEnd_eq : e'.referralExtensionEnd subscriptionUUID =
      (e.less payments invoices extensions).referralExtensionEnd subscriptionUUID := by
  have hends : e'.paidEnds subscriptionUUID =
      (e.less payments invoices extensions).paidEnds subscriptionUUID := by
    have hrows : rows (e.less payments invoices extensions).finance.financeInvoices =
        (rows e.finance.financeInvoices).filter fun invoice => !invoices invoice := by
      rw [less, rows_filter]
    rw [paidEnds, paidEnds, h.invoices_eq, hrows, filter_filter,
      funext (h.paid_eq subscriptionUUID)]
  have hdays : e'.extensionDays subscriptionUUID =
      (e.less payments invoices extensions).extensionDays subscriptionUUID := by
    exact h.days _ fun x hx => by simp [hx]
  rw [referralExtensionEnd, referralExtensionEnd, hends, hdays]

end

/-- What is paid for without some evidence is paid for. -/
theorem paidEnds_less {subscriptionUUID : String} {stop : Time}
    (h : stop ∈ (e.less payments invoices extensions).paidEnds subscriptionUUID) :
    stop ∈ e.paidEnds subscriptionUUID := by
  obtain ⟨invoice, hinvoice, hstop⟩ := mem_filterMap.1 h
  obtain ⟨hrow, hpaid⟩ := mem_filter.1 hinvoice
  refine mem_filterMap.2 ⟨invoice, mem_filter.2 ⟨?_, ?_⟩, hstop⟩
  · rw [less, rows_filter] at hrow
    exact (mem_filter.1 hrow).1
  rw [paid, Bool.and_eq_true, any_eq_true] at hpaid
  obtain ⟨hcovers, payment, hpayment, hsettles⟩ := hpaid
  rw [less, rows_filter] at hpayment
  exact Bool.and_eq_true_iff.2
    ⟨hcovers, any_eq_true.2 ⟨payment, (mem_filter.1 hpayment).1, hsettles⟩⟩

/-- The verified end is not later than before, if no days were added. -/
theorem referralExtensionEnd_less_le {subscriptionUUID : String} {stop : Time}
    (hdays : (e.less payments invoices extensions).extensionDays subscriptionUUID ≤
      e.extensionDays subscriptionUUID)
    (h : (e.less payments invoices extensions).referralExtensionEnd subscriptionUUID = some stop) :
    ∃ stop', e.referralExtensionEnd subscriptionUUID = some stop' ∧ stop ≤ stop' := by
  obtain ⟨last, hlast, rfl⟩ := Option.map_eq_some_iff.1 h
  have hmem := paidEnds_less (max?_mem hlast)
  -- The last period that is left was paid for before, so there was a last one.
  obtain ⟨last', hlast'⟩ := Option.isSome_iff_exists.1 (isSome_max?_of_mem hmem)
  refine ⟨_, Option.map_eq_some_iff.2 ⟨last', hlast', rfl⟩, ?_⟩
  have hle : last ≤ last' := (max?_le_iff hlast').1 le_rfl last hmem
  exact add_le_add hle (mul_le_mul_of_nonneg_right hdays (by decide))

/-- Days that are erased are not added. -/
theorem extensionDays_erase_le (e : Evidence) (rewardID subscriptionUUID : String) :
    (e.less payments invoices (e.referrals.extensions.erase rewardID)).extensionDays
      subscriptionUUID ≤ e.extensionDays subscriptionUUID := by
  rw [extensionDays, extensionDays, less]
  cases hfound : e.referrals.extensions.lookup rewardID with
  | none =>
    rw [show e.referrals.extensions.erase rewardID = e.referrals.extensions from
      AList.ext (kerase_of_notMem_keys (AList.lookup_eq_none.1 hfound))]
  | some =>
    rw [total_eq_add_erase _ hfound]
    refine le_add_of_nonneg_left ?_
    split_ifs
    · exact Int.natCast_nonneg _
    · exact le_rfl

/-! ## The end of the subscription -/

/-- The end that is verified, if it is known. -/
def Evidence.verifiedEnd (e : Evidence) (subscriptionUUID : String) : Option Time :=
  (e.referralExtensionEnd subscriptionUUID).filter fun stop => !stop.isZero

theorem subscriptionEffectivePeriodEnd_eq [RFC3339] (e : Evidence) (sub : Subscription) :
    subscriptionEffectivePeriodEnd e sub =
      (e.verifiedEnd sub.id).getD (subscriptionMetaTime sub.metadata "expiresAt") := by
  rw [subscriptionEffectivePeriodEnd, verifiedEnd]
  rcases e.referralExtensionEnd sub.id with _ | stop
  · rfl
  rw [Option.filter_some]
  by_cases hzero : stop.isZero = true
  · simp [hzero]
  · simp [hzero]

/-- The end comes from the other source than before, and that one is later. -/
def SwitchesLater (base : Time) (before after : Option Time) : Prop :=
  (∃ stop, before = some stop ∧ after = none ∧ stop < base) ∨
    ∃ stop, before = none ∧ after = some stop ∧ base < stop

/-- An end with a fallback does not become later, unless its source changes. -/
theorem getD_le_getD_iff {base : Time} {before after : Option Time}
    (h : ∀ stop, after = some stop → ∀ stop', before = some stop' → stop ≤ stop') :
    after.getD base ≤ before.getD base ↔ ¬ SwitchesLater base before after := by
  rw [SwitchesLater]
  cases before with
  | none =>
    cases after with
    | none => simp
    | some => simp
  | some stop' =>
    cases after with
    | none => simp
    | some stop => simpa using h stop rfl stop' rfl

end Accounts.Subscriptions

import Accounts.Subscriptions.PartialRefund

/-!
# The end of a subscription after a withdrawal

A refund, a risk for an invoice and the reversal of a reward should not give a subscription more
time. They take payments, invoices and days from the evidence (`Withdrawal`, `withdraw_ok`), so
the verified end comes earlier. But the verified periods are authoritative only as long as there
is one. When the last one goes, the end that the provider gave counts again, which may include a
renewal that was never paid (`refund_adds_a_month`). The end does not become later exactly if its
source does not change to a later one (`end_not_later_iff`).

The referral records are those of Postgres, or those in memory (`referral_memory.go`), where a
risk and a reversal do not take back any days.
-/

namespace Accounts.Referrals.Memory

/-- The reward is reversed. -/
def reverseReward (s : Store) (reward : ReferralReward) : Store :=
  { s with rewards := s.rewards.insert reward.id { reward with status := .reversed } }

/-- Recording a refund or a dispute, in memory. A source stands for one invoice. -/
def recordReferralRisk (s : Store) (risk : ReferralPaymentRisk) :
    Except Subscriptions.RefundError Store :=
  if Text.trimSpace risk.sourceKey = "" ∨ Text.trimSpace risk.providerInvoiceID = "" then
    .error (.referral .riskInvalid) else
  if (s.risks.lookup risk.sourceKey).any (·.providerInvoiceID != risk.providerInvoiceID) then
    .error (.finance .idempotencyConflict) else
  let s := { s with risks := s.risks.insert risk.sourceKey risk }
  match s.rewardOf risk.providerInvoiceID with
  | none => .ok s
  | some reward =>
    .ok { reverseReward s reward with
      settlements := Table.mapRows (fun _ settlement =>
        if settlement.status = .pendingReview ∧ reward.referrerUUID = settlement.referrerUUID ∧
          reward.currency = settlement.currency then
          { settlement with reason := "payment risk hold: " ++ risk.type.text }
        else settlement) s.settlements }

/-- Reversing a reward by hand, in memory. -/
def reverseReferralReward (s : Store) (rewardID sourceKey : String) :
    Except Subscriptions.RefundError Store :=
  if (s.rewardOf ("source:" ++ sourceKey)).isSome then .ok s else
  match s.rewards.lookup (Text.trimSpace rewardID) with
  | none => .error (.referral .notFound)
  | some reward => if reward.status = .reversed then .ok s else .ok (reverseReward s reward)

variable {s s' : Store}

section

variable {risk : ReferralPaymentRisk} (h : recordReferralRisk s risk = .ok s')

include h

theorem extensions_recordReferralRisk :
    s'.extensions = s.extensions ∧ s'.risks = s.risks.insert risk.sourceKey risk ∧
      ∀ old, s.risks.lookup risk.sourceKey = some old →
        old.providerInvoiceID = risk.providerInvoiceID := by
  simp only [recordReferralRisk, Except.guard_ok] at h
  obtain ⟨-, hsame, h⟩ := h
  have hold : ∀ old, s.risks.lookup risk.sourceKey = some old →
      old.providerInvoiceID = risk.providerInvoiceID := by
    intro _ hold
    simpa [hold] using hsame
  split at h
  · cases h
    exact ⟨rfl, rfl, hold⟩
  · cases h
    exact ⟨rfl, rfl, hold⟩

/-- A risk that replaces one of its source is for the same invoice. -/
theorem atRisk_recordReferralRisk (invoice : String) :
    s'.atRisk invoice = (s.atRisk invoice || risk.providerInvoiceID == invoice) := by
  obtain ⟨-, hrisks, hold⟩ := extensions_recordReferralRisk h
  rw [Bool.eq_iff_iff, Bool.or_eq_true, Store.atRisk, Store.atRisk, List.any_eq_true,
    List.any_eq_true, hrisks]
  simp only [Table.mem_rows_iff, beq_iff_eq]
  constructor
  · rintro ⟨other, ⟨key, hother⟩, hinvoice⟩
    rcases Table.lookup_insert_iff.1 hother with ⟨-, rfl⟩ | ⟨-, hother⟩
    · exact .inr hinvoice
    · exact .inl ⟨other, ⟨key, hother⟩, hinvoice⟩
  rintro (⟨other, ⟨key, hother⟩, hinvoice⟩ | hinvoice)
  · by_cases hkey : key = risk.sourceKey
    · rw [hkey] at hother
      exact ⟨risk, ⟨risk.sourceKey, AList.lookup_insert _⟩,
        (hold other hother).symm.trans hinvoice⟩
    · exact ⟨other, ⟨key, by rw [AList.lookup_insert_ne hkey, hother]⟩, hinvoice⟩
  · exact ⟨risk, ⟨risk.sourceKey, AList.lookup_insert _⟩, hinvoice⟩

end

theorem reverseReferralReward_ok {rewardID sourceKey : String}
    (h : reverseReferralReward s rewardID sourceKey = .ok s') :
    s'.extensions = s.extensions ∧ s'.risks = s.risks := by
  rw [reverseReferralReward] at h
  split_ifs at h with hsource
  · cases h
    exact ⟨rfl, rfl⟩
  split at h
  · cases h
  split_ifs at h with hreversed
  · cases h
    exact ⟨rfl, rfl⟩
  · cases h
    exact ⟨rfl, rfl⟩

end Accounts.Referrals.Memory

namespace Accounts.Subscriptions

open Finance Referrals Except Evidence Store

/-! ## Withdrawals -/

/-- What withdraws evidence: a refund, recorded alone or with the risk for its invoice, a risk,
    and the reversal of a reward; the last two in Postgres or in memory. -/
inductive Withdrawal
  | refund (refund : FinanceRefund)
  | stripeRefund (refund : FinanceRefund)
  | risk (risk : ReferralPaymentRisk)
  | reversal (rewardID sourceKey reason : String) (now : Time)
  | memoryRisk (risk : ReferralPaymentRisk)
  | memoryReversal (rewardID sourceKey : String)

/-- The evidence after a withdrawal. -/
def Evidence.withdraw [Unicode] (env : Env) (e : Evidence) :
    Withdrawal → Except RefundError Evidence
  | .refund refund =>
    match recordFinanceRefund env e.finance refund with
    | .error err => .error (.finance err)
    | .ok recorded => .ok { e with finance := recorded.1 }
  | .stripeRefund refund => e.recordRefund env refund
  | .risk risk =>
    match recordReferralRisk e.referrals risk with
    | .error err => .error (.referral err)
    | .ok referrals => .ok { e with referrals := referrals }
  | .reversal rewardID sourceKey reason now =>
    match reverseReferralReward e.referrals rewardID sourceKey reason now with
    | .error err => .error (.referral err)
    | .ok referrals => .ok { e with referrals := referrals }
  | .memoryRisk risk =>
    (Memory.recordReferralRisk e.referrals risk).map fun referrals =>
      { e with referrals := referrals }
  | .memoryReversal rewardID sourceKey =>
    (Memory.reverseReferralReward e.referrals rewardID sourceKey).map fun referrals =>
      { e with referrals := referrals }

/-- The days that are left after the reversal of the reward of an invoice. -/
def extensionsWithout (s : Referrals.Store) (providerInvoiceID : String) :
    Table String SubscriptionExtension :=
  match s.rewardOf providerInvoiceID with
  | none => s.extensions
  | some reward => s.extensions.erase reward.id

/-- The days that are left after the reversal of a reward. A reward that is reversed keeps what it
    has. -/
def extensionsWithoutReward (s : Referrals.Store) (rewardID : String) :
    Table String SubscriptionExtension :=
  match s.rewards.lookup rewardID with
  | none => s.extensions
  | some reward =>
    if reward.status = .reversed then s.extensions else s.extensions.erase reward.id

/-- The evidence that a withdrawal leaves: without the payment of a refund, the invoices at risk,
    and the days for a reward. -/
def Evidence.left (e : Evidence) : Withdrawal → Evidence
  | .refund refund =>
    e.less (Text.trimSpace refund.paymentID == ·) (fun _ => false) e.referrals.extensions
  | .stripeRefund refund =>
    match e.refundedInvoice refund with
    | .error _ => e
    | .ok refunded => e.without refund refunded
  | .risk risk =>
    e.less (fun _ => false) (fun invoice => decide (risk.sourceKey ∉ e.referrals.risks) &&
      risk.providerInvoiceID == invoice.providerInvoiceID)
      (extensionsWithout e.referrals risk.providerInvoiceID)
  | .reversal rewardID _ _ _ =>
    e.less (fun _ => false) (fun _ => false) (extensionsWithoutReward e.referrals rewardID)
  | .memoryRisk risk =>
    e.less (fun _ => false) (fun invoice => risk.providerInvoiceID == invoice.providerInvoiceID)
      e.referrals.extensions
  | .memoryReversal _ _ => e.less (fun _ => false) (fun _ => false) e.referrals.extensions

/-- Some evidence is withdrawn, and `left` is left: the records grow, and no days are added. -/
def Withdraws (e left e' : Evidence) : Prop :=
  ∃ payments invoices extensions, left = e.less payments invoices extensions ∧
    (∀ id, left.extensionDays id ≤ e.extensionDays id) ∧
    Lessened e payments invoices extensions e'

section

variable {e e' : Evidence}

theorem extensionDays_withoutReward_le {payments : String → Bool} {invoices : FinanceInvoice → Bool}
    (refunded : FinanceInvoice) (id : String) :
    (e.less payments invoices (withoutReward e.referrals refunded)).extensionDays id ≤
      e.extensionDays id := by
  rw [withoutReward]
  split_ifs with hempty
  · exact le_rfl
  · cases e.referrals.rewardOf refunded.providerInvoiceID with
    | none => exact le_rfl
    | some reward => exact extensionDays_erase_le e reward.id id

theorem withdraws_risk {risk : ReferralPaymentRisk} {referrals : Referrals.Store}
    (h : recordReferralRisk e.referrals risk = .ok referrals) :
    Withdraws e (e.left (.risk risk)) { e with referrals := referrals } := by
  obtain ⟨hrisks, htotal⟩ := recordReferralRisk_total h
  refine ⟨_, _, _, rfl, fun id => ?_, rfl, rfl, rfl, fun id => (Bool.or_false _).symm,
    fun invoice => ?_, htotal⟩
  · rw [left, extensionsWithout]
    cases e.referrals.rewardOf risk.providerInvoiceID with
    | none => exact le_rfl
    | some reward => exact extensionDays_erase_le e reward.id id
  · rw [hrisks, atRisk_insertRisk]

theorem withdraws_reversal {rewardID sourceKey reason : String} {now : Time}
    {referrals : Referrals.Store}
    (h : reverseReferralReward e.referrals rewardID sourceKey reason now = .ok referrals) :
    Withdraws e (e.left (.reversal rewardID sourceKey reason now))
      { e with referrals := referrals } := by
  rw [reverseReferralReward] at h
  split at h
  · cases h
  next reward hfound =>
  have hleft : e.left (.reversal rewardID sourceKey reason now) =
      e.less (fun _ => false) (fun _ => false)
        (if reward.status = .reversed then e.referrals.extensions
          else e.referrals.extensions.erase reward.id) := by
    rw [left, extensionsWithoutReward, hfound]
  rw [hleft]
  by_cases hreversed : reward.status = .reversed
  · rw [if_pos hreversed] at h ⊢
    cases h
    exact ⟨_, _, _, rfl, fun _ => le_rfl, rfl, rfl, rfl, fun id => (Bool.or_false _).symm,
      fun invoice => (Bool.or_false _).symm, fun _ _ => rfl⟩
  rw [if_neg hreversed] at h ⊢
  have htaken := takeBack_ok h
  refine ⟨_, _, _, rfl, extensionDays_erase_le e reward.id, rfl, rfl, rfl,
    fun id => (Bool.or_false _).symm, fun invoice => ?_, fun f hf => htaken.total_extensions hf⟩
  rw [Bool.or_false, atRisk, atRisk, htaken.risks_eq]

/-- What a withdrawal leaves. -/
theorem withdraw_ok [Unicode] {env : Env} {w : Withdrawal} (h : e.withdraw env w = .ok e') :
    Withdraws e (e.left w) e' := by
  cases w with
  | refund =>
    simp only [withdraw] at h
    split at h
    · cases h
    next recorded hrecorded =>
    cases h
    obtain ⟨hinvoices, hpayments, hrefunds⟩ := recordFinanceRefund_refunds hrecorded
    exact ⟨_, _, _, rfl, fun _ => le_rfl, rfl, hinvoices, hpayments, hrefunds,
      fun invoice => (Bool.or_false _).symm, fun _ _ => rfl⟩
  | stripeRefund refund =>
    obtain ⟨refunded, hrefunded, hless⟩ := recordRefund_ok h
    have hleft : e.left (.stripeRefund refund) = e.without refund refunded := by
      rw [left, hrefunded]
    rw [hleft]
    exact ⟨_, _, _, rfl, extensionDays_withoutReward_le refunded, hless⟩
  | risk =>
    simp only [withdraw] at h
    split at h
    · cases h
    next referrals hrisk =>
    cases h
    exact withdraws_risk hrisk
  | reversal =>
    simp only [withdraw] at h
    split at h
    · cases h
    next referrals hreversal =>
    cases h
    exact withdraws_reversal hreversal
  | memoryRisk =>
    obtain ⟨referrals, hrisk, rfl⟩ := map_eq_ok.1 h
    refine ⟨_, _, _, rfl, fun _ => le_rfl, rfl, rfl, rfl, fun id => (Bool.or_false _).symm,
      fun invoice => Memory.atRisk_recordReferralRisk hrisk _, fun f _ => ?_⟩
    rw [(Memory.extensions_recordReferralRisk hrisk).1]
  | memoryReversal =>
    obtain ⟨referrals, hreversal, rfl⟩ := map_eq_ok.1 h
    obtain ⟨hextensions, hrisks⟩ := Memory.reverseReferralReward_ok hreversal
    refine ⟨_, _, _, rfl, fun _ => le_rfl, rfl, rfl, rfl, fun id => (Bool.or_false _).symm,
      fun invoice => ?_, fun f _ => ?_⟩
    · rw [Bool.or_false, atRisk, atRisk, hrisks]
    · rw [hextensions]

/-! ## The end after a withdrawal -/

/-- A withdrawal does not move the end of a subscription to a later time exactly if it does not
    make it come from the other source, with a later end. -/
theorem end_not_later_iff [Unicode] [RFC3339] {env : Env} {w : Withdrawal}
    (h : e.withdraw env w = .ok e') (sub : Subscription) :
    subscriptionEffectivePeriodEnd e' sub ≤ subscriptionEffectivePeriodEnd e sub ↔
      ¬ SwitchesLater (subscriptionMetaTime sub.metadata "expiresAt") (e.verifiedEnd sub.id)
        ((e.left w).verifiedEnd sub.id) := by
  obtain ⟨_, _, _, hleft, hdays, hless⟩ := withdraw_ok h
  have hend : e'.verifiedEnd sub.id = (e.left w).verifiedEnd sub.id := by
    rw [verifiedEnd, verifiedEnd, hless.referralExtensionEnd_eq, hleft]
  rw [subscriptionEffectivePeriodEnd_eq, subscriptionEffectivePeriodEnd_eq, hend]
  refine getD_le_getD_iff fun stop hstop stop' hstop' => ?_
  rw [verifiedEnd, Option.filter_eq_some_iff] at hstop hstop'
  rw [hleft] at hstop hdays
  obtain ⟨_, hbefore, hle⟩ := referralExtensionEnd_less_le (hdays sub.id) hstop.1
  cases hstop'.1.symm.trans hbefore
  exact hle

end

/-! ## A refund that adds a month -/

section

local instance : Unicode := Unicode.ascii

namespace Sample

local instance : RFC3339 := ⟨fun text =>
  if text = "1970-03-01T00:00:00Z" then some (Time.unix (59 * 86400)) else none⟩

/-- January was paid for. The provider has renewed the subscription for February. -/
def renewed : Evidence := recorded january

/-- The payment for January is refunded. The end moves from the end of January to that of
    February. -/
theorem refund_adds_a_month :
    ∃ e', (renewed.withdraw (.sample 0) (.stripeRefund (cent "p1"))).toOption = some e' ∧
      subscriptionEffectivePeriodEnd renewed subscription = Time.unix (31 * 86400) ∧
      subscriptionEffectivePeriodEnd e' subscription = Time.unix (59 * 86400) := by
  have hrun : ((renewed.withdraw (.sample 0) (.stripeRefund (cent "p1"))).toOption.any fun e' =>
      subscriptionEffectivePeriodEnd renewed subscription == Time.unix (31 * 86400) &&
        subscriptionEffectivePeriodEnd e' subscription == Time.unix (59 * 86400)) = true := by
    decide +kernel
  obtain ⟨e', hok, h⟩ := (Option.any_eq_true _ _).1 hrun
  rw [Bool.and_eq_true, beq_iff_eq, beq_iff_eq] at h
  exact ⟨e', hok, h⟩

/-- If February was paid for, too, a refund of January leaves the end. -/
theorem end_not_later_iff_sample :
    ∃ e', evidence.withdraw (.sample 0) (.stripeRefund (cent "p1")) = .ok e' ∧
      subscriptionEffectivePeriodEnd e' subscription ≤
        subscriptionEffectivePeriodEnd evidence subscription := by
  have hsome : (evidence.withdraw (.sample 0) (.stripeRefund (cent "p1"))).toOption.isSome =
      true := by
    decide +kernel
  obtain ⟨e', hok⟩ := Option.isSome_iff_exists.1 hsome
  have hok := toOption_eq_some.1 hok
  refine ⟨e', hok, (end_not_later_iff hok subscription).2 ?_⟩
  have hleft : ((evidence.left (.stripeRefund (cent "p1"))).verifiedEnd subscription.id).isSome =
      true := by
    decide +kernel
  have hbefore : (evidence.verifiedEnd subscription.id).isSome = true := by decide +kernel
  rintro (⟨stop, -, hnone, -⟩ | ⟨stop, hnone, -⟩)
  · rw [hnone] at hleft
    cases hleft
  · rw [hnone] at hbefore
    cases hbefore

end Sample

end

end Accounts.Subscriptions

import Accounts.Agents.Sweep

/-!
# Access after a refund

When the payment of a subscription is refunded in full, its owner may lose the paid access
(`revokeRefundedSubscription`, in `api/entitlements.go`). The function decides by its own rules
whether another subscription still entitles the user. They are not those of the sweep
(`Store.due`): the sweep needs a reason to take the access away, which the refund of the last
subscription is not to it (`last_subscription_is_revoked`).

Where the two read the same of the other subscriptions (`Subscription.Plain`), a refund spares
what they grant (`refund_spares_others`). Otherwise it may not: a cancelled subscription is paid
until the end of its period, and is not looked at.
-/

namespace Accounts.Agents

open Quota Subscriptions Users Text List Option

/-! ## The function -/

/-- The subscription is the one that was refunded. -/
def refunded (refundedID : String) (sub : Subscription) : Bool :=
  trimSpace sub.externalID == trimSpace refundedID

/-- The first subscription with the identifier is marked as refunded. -/
def markRefunded (refundedID : String) : List Subscription → List Subscription
  | [] => []
  | sub :: subs =>
    if refunded refundedID sub then { sub with status := "refunded" } :: subs
    else sub :: markRefunded refundedID subs

/-- A validity that was given to the user holds, and they are still listed for it. -/
def activeListedSubscriptionGrant (user : User) (now : Time) : Bool :=
  subscriptionValidityActive
    { validFrom := user.subscriptionValidFrom
      validUntil := user.subscriptionValidUntil } now &&
    user.groups.contains subscriptionListedGroup

section

variable [Unicode] [RFC3339]

/-- One round of the loop over the subscriptions: whether the access is kept by it. -/
def keepsAfterRefund (quota : Option AccountQuotaState) (refundedID : String) (now : Time)
    (sub : Subscription) : Bool :=
  let graceActive := (arrearsSince quota).any fun since =>
    decide (now < since + subscriptionGracePeriod)
  if ¬ equalFold sub.provider "stripe" ∨ ¬ equalFold sub.kind "subscription" ∨
      refunded refundedID sub then false else
  let status := toLower (trimSpace sub.status)
  if status = "past_due" then (arrearsSince quota).isNone || graceActive
  else if status = "active" ∨ status = "trialing" ∨ status = "canceling" then
    let periodEnd := subscriptionMetaTime sub.metadata "expiresAt"
    periodEnd.isZero || decide (now < periodEnd) || graceActive
  else false

/-- The refund ends the access of the account. -/
def Account.losesByRefund (a : Account) (refundedID : String) (now : Time) : Bool :=
  a.subscriptions.any (refunded refundedID) && !activeListedSubscriptionGrant a.user now &&
    !a.subscriptions.any (keepsAfterRefund a.quota refundedID now)

/-- The subscription is marked, and the access of the account is taken away if it was the last
    one. -/
def revokeRefundedSubscription (env : Env) (s : Store) (a : Account) (refundedID : String) :
    Account :=
  if ¬ a.subscriptions.any (refunded refundedID) then a else
  let a := { a with subscriptions := markRefunded refundedID a.subscriptions }
  if activeListedSubscriptionGrant a.user env.now then a else
  let a := a.expireReset env.now
  if a.subscriptions.any (keepsAfterRefund a.quota refundedID env.now) then a
  else downgradeToFreePlan env s a

/-- The account without the subscription that was refunded. -/
def Account.without (a : Account) (refundedID : String) : Account :=
  { a with subscriptions := a.subscriptions.filter fun sub => !refunded refundedID sub }

/-! ## When the access is taken away -/

omit [Unicode] [RFC3339] in
theorem arrearsSince_expireReset (a : Account) (now : Time) :
    arrearsSince (a.expireReset now).quota = arrearsSince a.quota := by
  rw [Account.expireReset]
  split
  · rfl
  next q hq =>
  split
  · rfl
  · rw [hq]
    rfl

/-- What keeps the access is not changed by the mark. -/
theorem any_keepsAfterRefund_markRefunded (quota : Option AccountQuotaState) (refundedID : String)
    (now : Time) (subs : List Subscription) :
    (markRefunded refundedID subs).any (keepsAfterRefund quota refundedID now) =
      subs.any (keepsAfterRefund quota refundedID now) := by
  have hskip : ∀ sub : Subscription, refunded refundedID sub = true →
      keepsAfterRefund quota refundedID now sub = false := by
    intro _ h
    rw [keepsAfterRefund, if_pos (.inr (.inr h))]
  induction subs with
  | nil => rfl
  | cons sub _ ih =>
    rw [markRefunded]
    split_ifs with h
    · rw [any_cons, any_cons, hskip sub h, hskip _ (by exact h)]
    · rw [any_cons, any_cons, ih]

theorem keepsAfterRefund_congr {quota quota' : Option AccountQuotaState}
    (h : arrearsSince quota' = arrearsSince quota) (refundedID : String) (now : Time) :
    keepsAfterRefund quota' refundedID now = keepsAfterRefund quota refundedID now := by
  funext sub
  rw [keepsAfterRefund, keepsAfterRefund, h]

/-- The plan of an account is not what it was: its user was rewritten, or its billing profile. -/
def TakesAway (a b : Account) : Prop := ¬ (b.row = a.row ∧ b.profile = a.profile)

/-- An account that does not lose its access keeps its user and its billing profile. -/
theorem loses_of_takesAway {env : Env} {s : Store} {a : Account} {refundedID : String}
    (h : TakesAway a (revokeRefundedSubscription env s a refundedID)) :
    a.losesByRefund refundedID env.now = true := by
  by_contra hnot
  refine h ?_
  rw [revokeRefundedSubscription]
  by_cases hfound : a.subscriptions.any (refunded refundedID) = true
  swap
  · rw [if_pos hfound]
    exact ⟨rfl, rfl⟩
  rw [if_neg (not_not.2 hfound)]
  by_cases hgrant : activeListedSubscriptionGrant a.user env.now = true
  · rw [if_pos (by exact hgrant)]
    exact ⟨rfl, rfl⟩
  rw [if_neg (by exact hgrant), if_pos]
  · exact ⟨(kept_expireReset _ _).row, profile_expireReset _ _⟩
  rw [Account.losesByRefund, hfound, Bool.eq_false_iff.2 hgrant] at hnot
  have hkept := (kept_expireReset
    { a with subscriptions := markRefunded refundedID a.subscriptions } env.now).subscriptions
  rw [hkept, keepsAfterRefund_congr (arrearsSince_expireReset _ _),
    any_keepsAfterRefund_markRefunded]
  simpa using hnot

/-! ## The other subscriptions -/

/-- Both decisions read the same of the subscription, if it is of a status that counts: its provider
    and its kind have no white space around them, it is not between the end that the provider gave
    and a later one that was verified, and it does not have a period that lasts although it is
    cancelled, or overdue for too long. -/
structure Subscription.Plain (e : Evidence) (quota : Option AccountQuotaState) (now : Time)
    (sub : Subscription) : Prop where
  trimmed : sub.IsStripe →
    (sub.Renews ∨ sub.normalStatus = "canceling") ∨ sub.normalStatus = "past_due" →
    equalFold sub.provider "stripe" = true ∧ equalFold sub.kind "subscription" = true
  own : sub.Renews ∨ sub.normalStatus = "canceling" →
    (subscriptionMetaTime sub.metadata "expiresAt").isZero = false →
    subscriptionMetaTime sub.metadata "expiresAt" ≤ now → subscriptionEffectivePeriodEnd e sub ≤ now
  cancelled : sub.normalStatus = "cancelled" ∨ sub.normalStatus = "canceled" →
    ¬ sub.Lasts (subscriptionEffectivePeriodEnd e sub) now
  pastDue : sub.normalStatus = "past_due" → paymentGraceExpired quota now = true →
    ¬ now < subscriptionEffectivePeriodEnd e sub

omit [Unicode] [RFC3339] in
theorem paymentGraceExpired_of_not_active {quota : Option AccountQuotaState} {now : Time}
    (hsome : (arrearsSince quota).isSome = true)
    (h : ((arrearsSince quota).any fun since =>
      decide (now < since + subscriptionGracePeriod)) = false) :
    paymentGraceExpired quota now = true := by
  obtain ⟨since, hsince⟩ := isSome_iff_exists.1 hsome
  rw [hsince, any_some, decide_eq_false_iff_not, not_lt] at h
  rw [paymentGraceExpired, hsince, any_some]
  exact decide_eq_true h

omit [Unicode] in
/-- With an extension, an end that is known stays so. -/
theorem isZero_subscriptionEffectivePeriodEnd (e : Evidence) {sub : Subscription}
    (h : (subscriptionMetaTime sub.metadata "expiresAt").isZero = false) :
    (subscriptionEffectivePeriodEnd e sub).isZero = false := by
  rw [subscriptionEffectivePeriodEnd]
  split
  · split_ifs with hzero
    · exact h
    · exact Bool.eq_false_iff.2 hzero
  · exact h

/-- A subscription that does not keep the access after a refund does not entitle the account. -/
theorem not_entitles_of_not_keepsAfterRefund {e : Evidence} {quota : Option AccountQuotaState}
    {refundedID : String} {now : Time} {sub : Subscription}
    (hplain : Subscription.Plain e quota now sub) (hother : refunded refundedID sub = false)
    (h : keepsAfterRefund quota refundedID now sub = false) :
    ¬ sub.Entitles quota (subscriptionEffectivePeriodEnd e sub) now := by
  intro hentitles
  -- A cancelled subscription does not last.
  have hcounts : (sub.Renews ∨ sub.normalStatus = "canceling") ∨ sub.normalStatus = "past_due" := by
    rcases hentitles.granted with ⟨hrenews | hcanceling | hcancelled, hlasts⟩ | ⟨hrenews, -⟩ |
      ⟨hpast, -⟩
    · exact .inl (.inl hrenews)
    · exact .inl (.inr hcanceling)
    · exact absurd hlasts (hplain.cancelled hcancelled)
    · exact .inl (.inl hrenews)
    · exact .inr hpast
  obtain ⟨hprovider, hkind⟩ := hplain.trimmed hentitles.stripe hcounts
  rw [keepsAfterRefund, if_neg (by simp [hprovider, hkind, hother])] at h
  have hstatus : toLower (trimSpace sub.status) = sub.normalStatus := rfl
  rcases hcounts with hlook | hpast
  · -- Its period is known and over, and there is no grace.
    have hpast : sub.normalStatus ≠ "past_due" := by
      rcases hlook with (hl | hl) | hl <;> simp [hl]
    simp only [hstatus, if_neg hpast, if_pos (or_assoc.1 hlook), Bool.or_eq_false_iff] at h
    obtain ⟨⟨hgiven, hpassed⟩, hnone⟩ := h
    have hover := hplain.own hlook hgiven (not_lt.1 (of_decide_eq_false hpassed))
    have hknown := isZero_subscriptionEffectivePeriodEnd e hgiven
    rcases hentitles.granted with ⟨-, hlasts⟩ | ⟨-, -, hsome, hgrace⟩ | ⟨hdue, -⟩
    · rw [Subscription.Lasts, Subscription.lastEnd, if_neg (by simp [hknown])] at hlasts
      rcases hlasts with ⟨hzero, -⟩ | ⟨-, hlt⟩
      · rw [hknown] at hzero
        cases hzero
      · exact hlt.not_ge hover
    · rw [paymentGraceExpired_of_not_active hsome hnone] at hgrace
      cases hgrace
    · exact hpast hdue
  · simp only [hstatus, if_pos hpast, Bool.or_eq_false_iff] at h
    have hexpired := paymentGraceExpired_of_not_active
      (by simpa [isNone_iff_eq_none, isSome_iff_ne_none] using h.1) h.2
    rcases hentitles.granted with ⟨hends, -⟩ | ⟨hrenews, -⟩ | ⟨-, ⟨-, hlt⟩ | hgrace⟩
    · simp [Subscription.Ends, Subscription.Renews, hpast] at hends
    · simp [Subscription.Renews, hpast] at hrenews
    · exact hplain.pastDue hpast hexpired hlt
    · rw [hexpired] at hgrace
      cases hgrace

/-- A refund takes the access away only if no other subscription entitles the user. The sweep,
    without the refunded subscription, would take it away too, unless it has no reason, or the
    user has a validity that they are not listed for any more. -/
theorem refund_spares_others {env : Env} {s : Store} {a : Account} {refundedID : String}
    (hplain : ∀ sub ∈ a.subscriptions, refunded refundedID sub = false →
      Subscription.Plain s.evidence a.quota env.now sub)
    (h : TakesAway a (revokeRefundedSubscription env s a refundedID)) :
    (∀ sub ∈ (a.without refundedID).subscriptions,
      ¬ sub.Entitles a.quota (subscriptionEffectivePeriodEnd s.evidence sub) env.now) ∧
    (s.due (a.without refundedID) a.user env.now = true ∨
      ¬ s.Reason (a.without refundedID) a.user env.now ∨
      (ValidityHolds a.user env.now ∧ subscriptionListedGroup ∉ a.user.groups)) := by
  have h := loses_of_takesAway h
  simp only [Account.losesByRefund, Bool.and_eq_true, Bool.not_eq_true'] at h
  obtain ⟨⟨-, hgrant⟩, hnone⟩ := h
  have hentitled : ∀ sub ∈ (a.without refundedID).subscriptions,
      ¬ sub.Entitles a.quota (subscriptionEffectivePeriodEnd s.evidence sub) env.now := by
    intro sub hsub
    obtain ⟨hsub, hother⟩ := mem_filter.1 hsub
    rw [Bool.not_eq_true'] at hother
    exact not_entitles_of_not_keepsAfterRefund (hplain sub hsub hother) hother
      (Bool.eq_false_iff.2 (List.any_eq_false.1 hnone sub hsub))
  refine ⟨hentitled, ?_⟩
  by_cases hreason : s.Reason (a.without refundedID) a.user env.now
  swap
  · exact .inr (.inl hreason)
  by_cases hvalid : ValidityHolds a.user env.now
  · refine .inr (.inr ⟨hvalid, fun hlisted => ?_⟩)
    rw [activeListedSubscriptionGrant, (subscriptionValidityActive_iff rfl rfl env.now).2 hvalid,
      contains_iff_mem.2 hlisted] at hgrant
    cases hgrant
  · exact .inl ((s.due_iff _ _ env.now).2 ⟨hreason, hentitled, hvalid⟩)

end

/-! ## Refunds of one subscription -/

namespace RefundSample

local instance : StableUnicode := StableUnicode.ascii
local instance : RFC3339 :=
  ⟨fun text => if text = "1970-02-01" then some (Time.unix (31 * 86400)) else none⟩

/-- A subscription, with the end that the provider gave. -/
def subscription (id status : String) : Subscription where
  id := id
  provider := "stripe"
  kind := "subscription"
  status := status
  metadata := [("expiresAt", .string "1970-02-01")]
  externalID := id

/-- The account of a user of the Plus plan. -/
def account (subscriptions : List Subscription) : Account where
  id := "eve"
  row := .sample "eve" "eve@example.com" monthlyPlusQuotaLimitGroup "e1"
  subscriptions := subscriptions
  issued := (by decide : trimSpace "e1" ≠ "")
  tidy := (by decide : ∀ g ∈ [monthlyPlusQuotaLimitGroup], trimSpace g = g)

/-- The groups of a user of the Free plan. -/
def freeGroups : List String := [monthlyFreeQuotaLimitGroup, "segment:free"]

def store : Store where
  accounts := []
  evidence := { finance := .init [] ∅, referrals := .init ∅ }
  freePlan := none
  blacklist := []
  teams := []

/-- The refund of the last subscription ends the access. Without the subscription, the sweep would
    not. -/
theorem last_subscription_is_revoked :
    let env := Env.sample (Time.unix 86400)
    let a := account [subscription "one" "active"]
    (revokeRefundedSubscription env store a "one").row.groups = freeGroups ∧
      (reconcileSubscriptionAccessAt env store (a.without "one") a.user).row.groups =
        a.row.groups ∧ a.row.groups ≠ freeGroups := by
  decide +kernel

/-- A cancelled subscription entitles the user until the end of its period, to the sweep. The
    refund of another one ends the access. -/
example :
    let env := Env.sample (Time.unix 86400)
    let a := account [subscription "one" "active", subscription "two" "canceled"]
    (revokeRefundedSubscription env store a "one").row.groups = freeGroups ∧
      (subscription "two" "canceled").Entitles a.quota (subscriptionEffectivePeriodEnd
        store.evidence (subscription "two" "canceled")) env.now := by
  intro _ a
  refine ⟨by decide +kernel, standing_eq_runs_iff.1 ?_⟩
  decide +kernel

/-- After the end of the period of another subscription, the refund of one ends the access, and
    so would the sweep. -/
theorem refund_spares_others_over :
    let env := Env.sample (Time.unix (40 * 86400))
    let a := account [subscription "one" "active", subscription "two" "active"]
    TakesAway a (revokeRefundedSubscription env store a "one") ∧
      store.due (a.without "one") a.user env.now = true := by
  intro env a
  have htakes : TakesAway a (revokeRefundedSubscription env store a "one") := by
    intro h
    have hgroups : (revokeRefundedSubscription env store a "one").row.groups ≠ a.row.groups := by
      decide +kernel
    exact hgroups (congrArg UserRow.groups h.1)
  have hplain : ∀ sub ∈ a.subscriptions, refunded "one" sub = false →
      Subscription.Plain store.evidence a.quota env.now sub := by
    intro sub hsub hother
    have hsub' : sub = subscription "two" "active" := by
      rcases mem_cons.1 hsub with rfl | hsub
      · exact absurd hother (by decide)
      · exact mem_singleton.1 hsub
    rw [hsub']
    have hstatus : (subscription "two" "active").normalStatus = "active" := by decide +kernel
    refine ⟨fun _ _ => by decide +kernel, fun _ _ _ => by decide +kernel, ?_, ?_⟩
    · rw [hstatus]
      exact fun h => absurd h (by decide)
    · rw [hstatus]
      exact fun h => absurd h (by decide)
  refine ⟨htakes, ?_⟩
  rcases (refund_spares_others hplain htakes).2 with h | h | h
  · exact h
  · exact absurd ((store.due_iff _ _ _).1 (by decide +kernel)).reason h
  obtain ⟨⟨_, hstop, -⟩, -⟩ := h
  have hnone : a.user.subscriptionValidUntil = none := by decide +kernel
  rw [hnone] at hstop
  cases hstop

end RefundSample

end Accounts.Agents

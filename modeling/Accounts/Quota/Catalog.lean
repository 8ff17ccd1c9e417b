import Accounts.Quota.Upgrade

/-!
# Quotas that follow the catalogue

Changing a plan of the catalogue changes the quota of the accounts that have it (`UpsertBillingPlan`
of the memory store). What an account has used is not recorded: it is what is missing from its
quota, or the traffic of its period, if that is more (`Store.used`). As what is left is never
negative, a quota below the usage makes the account forget the rest of it.

So of the usage and a lower quota in between, the smaller counts from then on, unless the traffic
is more (`le_used_exec`). Changes one after the other leave the same as the last of them alone
exactly if no quota in between is below both the usage and the new quota, or the traffic gives
the usage or the new quota (`remaining_changes_iff`).
-/

namespace Accounts.Quota.Catalog

open Calendar Text Table Run

/-- A plan of the catalogue. -/
structure Plan extends BillingPlan where
  planID : String
  active : Bool := true

/-- The traffic of an account in a minute. -/
structure TrafficMinuteBucket where
  accountUUID : String
  bucketStart : Time
  totalBytes : Int64

/-- An account with a profile and a quota state, the quotas of its subscription record and the
    groups of its user. -/
structure Account where
  profile : AccountBillingProfile
  quota : AccountQuotaState
  monthlyQuotaBytes : Int64 := 0
  annualQuotaBytes : Int64 := 0
  groups : List String := []

/-- The memory store. An account without a quota state does not get one by a change. -/
structure Store where
  billingPlans : Table String Plan := ∅
  accounts : Table String Account := ∅
  trafficMinuteBuckets : Table String TrafficMinuteBucket := ∅

def subscriptionSourcePlanPrefix : String := "subscription:source-plan:"

def quotaPeriodStart (quota : AccountQuotaState) (now : Time) : Time :=
  quota.periodStart.getD (naturalMonth now).1

namespace Store

variable (s : Store) (id : String)

def adminPlanGroupBucketUsage (quota : AccountQuotaState) (now : Time) : Int64 :=
  Int64.sum64 (((rows s.trafficMinuteBuckets).filter fun bucket =>
    bucket.accountUUID == id && decide (quotaPeriodStart quota now ≤ bucket.bucketStart) &&
      quota.periodEnd.all (bucket.bucketStart < ·) && 0 < bucket.totalBytes).map (·.totalBytes))

/-- What the account has used, as far as it is known. -/
def used (now : Time) (a : Account) : Int64 :=
  let used := a.profile.includedQuotaBytes - a.quota.remainingIncludedQuota
  let bucketUsage := s.adminPlanGroupBucketUsage id a.quota now
  let used := if used < bucketUsage then bucketUsage else used
  if used < 0 then 0 else used

/-- What is left to the account under the identifier. -/
def remaining : Option Int64 := (s.accounts.lookup id).map (·.quota.remainingIncludedQuota)

end Store

section

variable [Unicode]

def subscriptionSourcePlan (groups : List String) : String :=
  match groups.find? (hasPrefix · subscriptionSourcePlanPrefix) with
  | some group => toUpper (trimPrefix group subscriptionSourcePlanPrefix)
  | none => ""

/-- The quota of the account is that of the plan, and not one that was agreed upon. -/
def Account.follows (a : Account) (plan : Plan) : Bool :=
  plan.active && subscriptionSourcePlan a.groups != "CUSTOM" &&
    a.profile.pricingRuleVersion == "plan:" ++ plan.planID &&
    (plan.planID == "FREE" || a.monthlyQuotaBytes ≤ 0 && a.annualQuotaBytes ≤ 0)

namespace Store

variable (s : Store) (id : String) (plan : Plan) (now : Time)

/-- An account gets the quota of its plan, less what it has used. -/
def sync (a : Account) : Account :=
  if a.follows plan then
    let remaining := plan.includedQuotaBytes - s.used id now a
    { a with
      profile.includedQuotaBytes := plan.includedQuotaBytes
      quota.remainingIncludedQuota := if remaining < 0 then 0 else remaining }
  else a

/-- A plan is written, under its identifier in normal form. -/
def upsertBillingPlan : Except String Store :=
  if blank plan.planID then .error "billing plan not found" else
  let stored := { plan with planID := toUpper (trimSpace plan.planID) }
  .ok { s with
    billingPlans := s.billingPlans.insert stored.planID stored
    accounts := mapRows (fun id => s.sync id stored now) s.accounts }

end Store

/-- The included quota of a plan is changed, at a time. -/
def change (plan : Plan) (s : Store) (c : Int64 × Time) : Store :=
  (s.upsertBillingPlan { plan with includedQuotaBytes := c.1 } c.2).toOption.getD s

/-- A change of the plan is one of the account under the identifier, too. -/
structure Plan.Reaches (plan : Plan) (s : Store) (id : String) (a : Account) : Prop where
  named : ¬ blank plan.planID
  lookup : s.accounts.lookup id = some a
  follows : a.follows { plan with planID := toUpper (trimSpace plan.planID) } = true

/-! ## What counts as used -/

section

omit [Unicode]

/-- What is left of a quota. -/
def left (quota used : Int64) : Int64 := if quota - used < 0 then 0 else quota - used

/-- The account with a quota, of which something was used. -/
def Account.given (a : Account) (quota used : Int64) : Account :=
  { a with
    profile.includedQuotaBytes := quota
    quota.remainingIncludedQuota := left quota used }

/-- The difference of numbers that are not negative is in range. -/
theorem toInt_sub_of_nonneg {x y : Int64} (hx : 0 ≤ x.toInt) (hy : 0 ≤ y.toInt) :
    (x - y).toInt = x.toInt - y.toInt := by
  have hlt := x.toInt_lt
  have hlt' := y.toInt_lt
  rw [Int64.toInt_sub, Int.bmod_def]
  split_ifs <;> omega

theorem toInt_left {quota used : Int64} (hquota : 0 ≤ quota.toInt) (hused : 0 ≤ used.toInt) :
    (left quota used).toInt = max 0 (quota.toInt - used.toInt) := by
  simp only [left, Int64.lt_iff_toInt_lt, apply_ite Int64.toInt,
    toInt_sub_of_nonneg hquota hused, Int64.toInt_zero]
  split_ifs <;> omega

/-- Of a lower usage as much is left exactly if it is not lower, or covers the quota. -/
theorem left_eq_left_iff {quota used used' : Int64} (hquota : 0 ≤ quota.toInt)
    (hused : 0 ≤ used.toInt) (h : used.toInt ≤ used'.toInt) :
    left quota used = left quota used' ↔ used' ≤ used ∨ quota ≤ used := by
  rw [Int64.le_iff_toInt_le, Int64.le_iff_toInt_le, ← Int64.toInt_inj, toInt_left hquota hused,
    toInt_left hquota (hused.trans h)]
  omega

variable (s : Store) (id : String) (now : Time) (a : Account)

theorem Store.toInt_used : (s.used id now a).toInt =
    max 0 (max (a.profile.includedQuotaBytes - a.quota.remainingIncludedQuota).toInt
      (s.adminPlanGroupBucketUsage id a.quota now).toInt) := by
  simp only [Store.used, Int64.lt_iff_toInt_lt, apply_ite Int64.toInt, Int64.toInt_zero]
  split_ifs <;> omega

theorem Store.used_nonneg : 0 ≤ (s.used id now a).toInt :=
  s.toInt_used id now a ▸ le_max_left _ _

/-- Throughout a period the usage is the same. -/
theorem Store.used_congr {now' : Time}
    (h : quotaPeriodStart a.quota now = quotaPeriodStart a.quota now') :
    s.used id now a = s.used id now' a := by
  rw [Store.used, Store.adminPlanGroupBucketUsage, h]
  rfl

@[simp] theorem Store.bucketUsage_given (quota used : Int64) :
    s.adminPlanGroupBucketUsage id (a.given quota used).quota now =
      s.adminPlanGroupBucketUsage id a.quota now := rfl

/-- An account with a quota counts as having used as much as before, or all of it. -/
theorem Store.toInt_used_given {quota used : Int64} (hquota : 0 ≤ quota.toInt)
    (hused : 0 ≤ used.toInt) : (s.used id now (a.given quota used)).toInt =
      max (min quota.toInt used.toInt) (s.adminPlanGroupBucketUsage id a.quota now).toInt := by
  have hleft := toInt_left hquota hused
  have hsub := toInt_sub_of_nonneg hquota (hleft ▸ le_max_left _ _)
  rw [Store.toInt_used, bucketUsage_given]
  simp only [Account.given, hsub, hleft]
  omega

end

variable {plan : Plan} {s : Store} {id : String} {a : Account}

/-- A change gives the account the new quota, and a further one reaches it. -/
theorem Plan.Reaches.change (h : plan.Reaches s id a) (c : Int64 × Time) :
    plan.Reaches (change plan s c) id (a.given c.1 (s.used id c.2 a)) := by
  refine ⟨h.named, ?_, h.follows⟩
  rw [Catalog.change, Store.upsertBillingPlan, if_neg h.named]
  refine lookup_mapRows.trans ((congrArg _ h.lookup).trans ?_)
  rw [Option.map_some, Store.sync, if_pos (by exact h.follows)]
  rfl

/-- What is left after a change. -/
theorem Plan.Reaches.remaining (h : plan.Reaches s id a) (q : Int64) (now : Time) :
    (Catalog.change plan s (q, now)).remaining id = some (left q (s.used id now a)) := by
  rw [Store.remaining, (h.change (q, now)).lookup]
  rfl

/-- The traffic stays. -/
theorem usage_change (h : plan.Reaches s id a) (c : Int64 × Time) :
    (change plan s c).adminPlanGroupBucketUsage = s.adminPlanGroupBucketUsage ∧
      (change plan s c).used = s.used := by
  have hbuckets : (change plan s c).trafficMinuteBuckets = s.trafficMinuteBuckets := by
    rw [change, Store.upsertBillingPlan, if_neg h.named]
    rfl
  have htraffic : (change plan s c).adminPlanGroupBucketUsage = s.adminPlanGroupBucketUsage := by
    funext id quota now
    rw [Store.adminPlanGroupBucketUsage, hbuckets]
    rfl
  refine ⟨htraffic, ?_⟩
  funext id now a
  rw [Store.used, htraffic]
  rfl

/-- What counts as used after changes in a period: the traffic, or the least of the usage and the
    quotas. -/
theorem le_used_exec (cs : List (Int64 × Time)) (now : Time) {s : Store} {a : Account}
    (h : plan.Reaches s id a) (hcs : ∀ c ∈ cs, 0 ≤ c.1 ∧
      quotaPeriodStart a.quota c.2 = quotaPeriodStart a.quota now) :
    ∃ b, plan.Reaches (exec (change plan) s cs) id b ∧ ∀ x,
      x ≤ (exec (change plan) s cs).used id now b ↔
        x ≤ s.adminPlanGroupBucketUsage id a.quota now ∨
          x ≤ s.used id now a ∧ ∀ c ∈ cs, x ≤ c.1 := by
  induction cs generalizing s a with
  | nil =>
    refine ⟨a, h, fun x => ?_⟩
    have hused := s.toInt_used id now a
    simp only [exec_nil, Int64.le_iff_toInt_le, List.not_mem_nil, false_imp_iff, implies_true,
      and_true]
    omega
  | cons c cs ih =>
    obtain ⟨⟨hquota, hperiod⟩, hcs⟩ := List.forall_mem_cons.1 hcs
    obtain ⟨b, hb, hle⟩ := ih (h.change c) hcs
    rw [exec_cons]
    refine ⟨b, hb, fun x => (hle x).trans ?_⟩
    have hused : x ≤ s.used id now (a.given c.1 (s.used id now a)) ↔
        x ≤ s.adminPlanGroupBucketUsage id a.quota now ∨ x ≤ s.used id now a ∧ x ≤ c.1 := by
      simp only [Int64.le_iff_toInt_le, s.toInt_used_given id now a (Int64.le_iff_toInt_le.1 hquota)
        (s.used_nonneg id now a)]
      omega
    obtain ⟨htraffic, hchange⟩ := usage_change h c
    rw [htraffic, hchange, s.used_congr id c.2 a hperiod, hused, List.forall_mem_cons,
      Store.bucketUsage_given]
    constructor
    · rintro (htraffic | ⟨htraffic | ⟨hused, hc⟩, hcs⟩)
      · exact .inl htraffic
      · exact .inl htraffic
      · exact .inr ⟨hused, hc, hcs⟩
    · rintro (htraffic | ⟨hused, hc, hcs⟩)
      · exact .inl htraffic
      · exact .inr ⟨.inr ⟨hused, hc⟩, hcs⟩

/-- Changes of the quota in a period leave the same as the last of them alone exactly if no quota
    in between is below both the usage and the new quota, or the traffic is not. -/
theorem remaining_changes_iff (h : plan.Reaches s id a) (cs : List (Int64 × Time)) (q : Int64)
    (now now' : Time) (hcs : ∀ c ∈ cs ++ [(q, now)], 0 ≤ c.1 ∧
      quotaPeriodStart a.quota c.2 = quotaPeriodStart a.quota now') :
    (exec (change plan) s (cs ++ [(q, now)])).remaining id =
        (change plan s (q, now')).remaining id ↔
      (s.used id now' a ≤ s.adminPlanGroupBucketUsage id a.quota now' ∨
        q ≤ s.adminPlanGroupBucketUsage id a.quota now') ∨
        ∀ c ∈ cs, s.used id now' a ≤ c.1 ∨ q ≤ c.1 := by
  rw [List.forall_mem_append, List.forall_mem_singleton] at hcs
  obtain ⟨hcs, (hquota : 0 ≤ q), (hperiod : _ = quotaPeriodStart a.quota now')⟩ := hcs
  obtain ⟨b, hb, hle⟩ := le_used_exec cs now h fun c hc => ⟨(hcs c hc).1, by
    rw [(hcs c hc).2, hperiod]⟩
  rw [exec_append, exec_cons, exec_nil, h.remaining, hb.remaining, Option.some_inj,
    ← s.used_congr id now a hperiod]
  have htraffic : s.adminPlanGroupBucketUsage id a.quota now' =
      s.adminPlanGroupBucketUsage id a.quota now := by
    rw [Store.adminPlanGroupBucketUsage, ← hperiod]
    rfl
  rw [htraffic]
  -- The usage can only have become smaller, and what is left is the same if it has not, or if the
  -- new quota is used up.
  have hmono : ((exec (change plan) s cs).used id now b).toInt ≤ (s.used id now a).toInt := by
    rcases (hle _).1 (Int64.le_refl _) with h | ⟨h, -⟩
    · rw [Int64.le_iff_toInt_le] at h
      rw [s.toInt_used]
      exact h.trans (le_max_of_le_right (le_max_right _ _))
    · exact Int64.le_iff_toInt_le.1 h
  rw [left_eq_left_iff (Int64.le_iff_toInt_le.1 hquota) (Store.used_nonneg ..) hmono, hle, hle]
  constructor
  · rintro ((h | ⟨-, h⟩) | h | ⟨-, h⟩)
    · exact .inl (.inl h)
    · exact .inr fun c hc => .inl (h c hc)
    · exact .inl (.inr h)
    · exact .inr fun c hc => .inr (h c hc)
  · rintro ((h | h) | h)
    · exact .inl (.inl h)
    · exact .inr (.inl h)
    · by_cases hq : q ≤ s.used id now a
      · exact .inr (.inr ⟨hq, fun c hc => (h c hc).elim (Int64.le_trans hq) (·)⟩)
      · have hlt := Int64.le_of_lt (Int64.not_le.1 hq)
        exact .inl (.inr ⟨Int64.le_refl _, fun c hc => (h c hc).elim (·) (Int64.le_trans hlt)⟩)

end

namespace Sample

local instance : Unicode := Unicode.ascii

def pro : Plan := { packageName := "", includedQuotaBytes := 10, planID := "PRO" }

/-- An account that has used all of its quota. -/
def spent : Account where
  profile := ⟨"", 10, "plan:PRO"⟩
  quota := { accountUUID := "u" }

def store : Store where
  accounts := (∅ : Table String Account).insert "u" spent

theorem reaches_store : pro.Reaches store "u" spent := ⟨by decide, rfl, by decide⟩

/-- Half of the quota is left again when it is lowered to 5 and raised to 10. -/
theorem lowered_and_raised_is_not_raised :
    ¬ ∀ (plan : Plan) (s : Store) (id : String) (a : Account) (q q' : Int64) (t : Time),
      plan.Reaches s id a → (exec (change plan) s [(q, t), (q', t)]).remaining id =
        (change plan s (q', t)).remaining id := by
  intro h
  have hsame := h pro store "u" spent 5 10 0 reaches_store
  revert hsame
  decide +kernel

/-- Two changes to quotas that are not below the usage. -/
theorem remaining_changes_iff_raised : (exec (change pro) store [(12, 0), (15, 0)]).remaining "u" =
      (change pro store (15, 0)).remaining "u" :=
  (remaining_changes_iff reaches_store [(12, 0)] 15 0 0 (by decide +kernel)).2
    (.inr (by decide +kernel))

end Sample

end Accounts.Quota.Catalog

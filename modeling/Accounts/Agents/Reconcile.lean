import Accounts.Agents.Clients

/-!
# What the first pass does to an account

Before a node gets its clients, users of the Free plan who were not active for a long time are
archived, and accounts whose subscription is over are moved to the Free plan (`reconciled`, in
`Agents.Clients`). Here it is said what this makes of an account.

Who is archived is paused (`paused_of_inactive`). Otherwise, the account is left as it is but
for its quota state (`reconcile_not_due`), or it is moved to the Free plan
(`reconcile_due`). In both cases, doing it again at the same time changes nothing about its
billing profile and its quota state (`Settled.reconcile`, `Settled.reconciled_eq`).
-/

namespace Accounts.Agents

open Calendar Quota Subscriptions Users Text List Option Account AccountQuotaState Store

/-! ## Books -/

/-- Two accounts that differ in the billing profile and the quota state only. -/
structure Account.Kept (a b : Account) : Prop where
  id : b.id = a.id
  row : b.row = a.row
  subscriptions : b.subscriptions = a.subscriptions
  membership : b.membership = a.membership
  resets : b.resets = a.resets
  usage : b.usage = a.usage

namespace Account.Kept

variable {a b c : Account}

theorem trans (h : a.Kept b) (h' : b.Kept c) : a.Kept c :=
  ⟨h'.id.trans h.id, h'.row.trans h.row, h'.subscriptions.trans h.subscriptions,
    h'.membership.trans h.membership, h'.resets.trans h.resets, h'.usage.trans h.usage⟩

/-- The user is the same. -/
theorem user [Unicode] (h : a.Kept b) : b.user = a.user := by
  rw [Account.user, Account.user, h.id, h.row]

theorem access (h : a.Kept b) (teams : List NetworkTeam) (now : Time) :
    b.access teams now = a.access teams now := by
  rw [Account.access, Account.access, h.membership]

end Account.Kept

section

variable (a : Account) (now : Time)

include a now

/-- Reading a quota state changes nothing else. -/
theorem expireReset_eq : ∃ quota, a.expireReset now = { a with quota := quota } := by
  rw [expireReset]
  split
  · exact ⟨a.quota, rfl⟩
  · split <;> exact ⟨_, rfl⟩

theorem kept_expireReset : a.Kept (a.expireReset now) := by
  obtain ⟨_, h⟩ := expireReset_eq a now
  rw [h]
  exact ⟨rfl, rfl, rfl, rfl, rfl, rfl⟩

theorem profile_expireReset : (a.expireReset now).profile = a.profile := by
  obtain ⟨_, h⟩ := expireReset_eq a now
  rw [h]

/-- No period that was reset by an administrator is over. -/
def Account.Expired : Prop := ∀ q ∈ a.quota, a.resetLeft q now = none

end

variable {now : Time}

/-- If there is no such period, reading changes nothing. -/
theorem expireReset_eq_self {a : Account} (h : a.Expired now) : a.expireReset now = a := by
  rw [expireReset]
  split
  · rfl
  · next q hq => rw [h q hq]

variable {q : AccountQuotaState}

section

variable {a : Account} {stop : Time} (hstop : q.periodEnd = some stop) (h : now < stop)

include hstop h

/-- A period that is not over. -/
theorem resetLeft_eq_none : a.resetLeft q now = none := by
  rw [resetLeft, hstop]
  cases q.periodStart with
  | none => rfl
  | some => exact if_pos h

theorem freeLeft_eq_none : a.freeLeft q now = none := by
  rw [freeLeft]
  rcases a.profile with _ | p
  · rfl
  simp only [bind_eq_bind, bind_some]
  split_ifs with hfree hlater
  · rfl
  · rfl
  · exact absurd ⟨stop, hstop, .inl h⟩ hlater

end

/-- What reading a quota state makes of it: nothing, or a month that is not over. -/
theorem quota_expireReset {a : Account} (hq : q ∈ (a.expireReset now).quota) :
    (q ∈ a.quota ∧ a.resetLeft q now = none) ∨
      ∃ old ∈ a.quota, ∃ left, q = renewedState old left now := by
  rw [expireReset] at hq
  split at hq
  · next hnone => rw [hnone] at hq; cases hq
  next old hold =>
  split at hq
  · next hleft =>
    rw [hold] at hq
    cases hq
    exact .inl ⟨hold, hleft⟩
  · next left _ => exact .inr ⟨old, hold, left, (some.inj hq).symm⟩

/-- There is none after reading. -/
theorem expired_expireReset (a : Account) (now : Time) : (a.expireReset now).Expired now := by
  intro q hq
  have hkept : (a.expireReset now).resetLeft q now = a.resetLeft q now := by
    rw [resetLeft, resetLeft, (kept_expireReset a now).resets]
  rw [hkept]
  rcases quota_expireReset hq with ⟨-, hnone⟩ | ⟨_, -, _, rfl⟩
  · exact hnone
  · exact resetLeft_eq_none rfl (lt_naturalMonth now)

/-- No month of the Free plan has begun. -/
def Account.Renewed (a : Account) (now : Time) : Prop := ∀ q ∈ a.quota, a.freeLeft q now = none

/-- The begin of a month changes the quota state only. -/
theorem ensureFreeQuotaPeriod_eq (a : Account) (user : User) (now : Time) :
    ∃ quota, a.ensureFreeQuotaPeriod user now = { a with quota := quota } := by
  rw [ensureFreeQuotaPeriod]
  split_ifs
  · exact ⟨a.quota, rfl⟩
  split
  · exact ⟨a.quota, rfl⟩
  · split <;> exact ⟨_, rfl⟩

variable {user : User}

/-- What the begin of a month makes of a quota state. -/
theorem quota_ensureFreeQuotaPeriod {a : Account}
    (hq : q ∈ (a.ensureFreeQuotaPeriod user now).quota) :
    (q ∈ a.quota ∧
        (monthlyQuotaGroup user = monthlyFreeQuotaLimitGroup → a.freeLeft q now = none)) ∨
      ∃ old ∈ a.quota, ∃ left, q = renewedState old left now := by
  rw [ensureFreeQuotaPeriod] at hq
  split_ifs at hq with hplan
  · exact .inl ⟨hq, fun h => absurd h hplan⟩
  split at hq
  · next hnone => rw [hnone] at hq; cases hq
  next old hold =>
  split at hq
  · next hleft =>
    rw [hold] at hq
    cases hq
    exact .inl ⟨hold, fun _ => hleft⟩
  · next left _ => exact .inr ⟨old, hold, left, (some.inj hq).symm⟩

/-- If no month has begun, nothing is changed. -/
theorem ensureFreeQuotaPeriod_eq_self {a : Account}
    (h : monthlyQuotaGroup user = monthlyFreeQuotaLimitGroup → a.Renewed now) :
    a.ensureFreeQuotaPeriod user now = a := by
  rw [ensureFreeQuotaPeriod]
  split_ifs with hplan
  · rfl
  · split
    · rfl
    · next q hq => rw [h (not_not.1 hplan) q hq]

/-! ## Quota states that were read -/

/-- All that changes when a quota state is read is the state. -/
theorem refreshed_eq (a : Account) (user : User) (now : Time) :
    ∃ quota, a.refreshed user now = { a with quota := quota } := by
  obtain ⟨quota, h⟩ := ensureFreeQuotaPeriod_eq a user now
  rw [refreshed, h]
  exact expireReset_eq { a with quota := quota } now

theorem kept_refreshed (a : Account) (user : User) (now : Time) :
    a.Kept (a.refreshed user now) := by
  obtain ⟨_, h⟩ := refreshed_eq a user now
  rw [h]
  exact ⟨rfl, rfl, rfl, rfl, rfl, rfl⟩

theorem profile_refreshed (a : Account) (user : User) (now : Time) :
    (a.refreshed user now).profile = a.profile := by
  obtain ⟨_, h⟩ := refreshed_eq a user now
  rw [h]

theorem expired_refreshed (a : Account) (user : User) (now : Time) :
    (a.refreshed user now).Expired now := expired_expireReset _ now

/-- A quota state that was read is the one before, or one of this month. -/
theorem quota_refreshed {a : Account} (hq : q ∈ (a.refreshed user now).quota) : (q ∈ a.quota ∧
        (monthlyQuotaGroup user = monthlyFreeQuotaLimitGroup → a.freeLeft q now = none)) ∨
      ∃ old ∈ a.quota, ∃ left, q = renewedState old left now := by
  rcases quota_expireReset hq with ⟨hq, -⟩ | ⟨mid, hmid, left, rfl⟩
  · exact quota_ensureFreeQuotaPeriod hq
  · rcases quota_ensureFreeQuotaPeriod hmid with ⟨hold, -⟩ | ⟨old, hold, _, rfl⟩
    · exact .inr ⟨mid, hold, left, rfl⟩
    · exact .inr ⟨old, hold, left, rfl⟩

theorem isSome_refreshed (a : Account) (user : User) (now : Time) :
    (a.refreshed user now).quota.isSome = a.quota.isSome := by
  rw [refreshed, expireReset, ensureFreeQuotaPeriod]
  split_ifs <;> repeat' split
  all_goals simp_all

/-- On the Free plan, a quota state that was read is of this month. -/
theorem renewed_refreshed {a : Account}
    (hplan : monthlyQuotaGroup user = monthlyFreeQuotaLimitGroup) :
    (a.refreshed user now).Renewed now := by
  intro q hq
  rcases quota_refreshed hq with ⟨-, hnone⟩ | ⟨_, -, _, rfl⟩
  · have hkept := kept_refreshed a user now
    rw [freeLeft, profile_refreshed, hkept.row, hkept.usage]
    exact hnone hplan
  · exact freeLeft_eq_none rfl (lt_naturalMonth now)

/-- A quota state that is up to date is read as it is. -/
theorem refreshed_eq_self {a : Account} (hexpired : a.Expired now)
    (hrenewed : monthlyQuotaGroup user = monthlyFreeQuotaLimitGroup → a.Renewed now) :
    a.refreshed user now = a := by
  rw [refreshed, ensureFreeQuotaPeriod_eq_self hrenewed, expireReset_eq_self hexpired]

/-- Nobody's arrears change when a quota state is read. -/
theorem arrearsSince_refreshed (a : Account) (user : User) (now : Time) :
    arrearsSince (a.refreshed user now).quota = arrearsSince a.quota := by
  have hsome := isSome_refreshed a user now
  cases hq : (a.refreshed user now).quota with
  | none =>
    rw [hq, isSome_none, eq_comm, isSome_eq_false_iff, isNone_iff_eq_none] at hsome
    rw [hsome]
  | some =>
    rcases quota_refreshed hq with ⟨hold, -⟩ | ⟨_, hold, _, rfl⟩
    · rw [mem_def.1 hold]
    · rw [mem_def.1 hold]
      rfl

/-! ## The Free plan -/

/-- The Free plan changes the billing profile and the quota state only. -/
theorem kept_provided (plan : BillingPlan) (a : Account) (now : Time) :
    a.Kept (a.provided plan now) := by
  rw [provided]
  split_ifs
  · exact kept_expireReset a now
  · exact (kept_expireReset a now).trans ⟨rfl, rfl, rfl, rfl, rfl, rfl⟩

variable {plan : BillingPlan}

/-- An account that is on the Free plan already has the period of this month. -/
theorem periodEnd_of_alreadyDowngraded {profile : Option AccountBillingProfile}
    {quota : Option AccountQuotaState} {month : Period}
    (h : alreadyDowngraded plan profile quota month = true) (hq : q ∈ quota) :
    q.periodEnd = some month.2 := by
  cases hq
  cases profile with
  | none => cases h
  | some =>
    simp only [alreadyDowngraded, Bool.and_eq_true, beq_iff_eq] at h
    exact h.2

section

variable {a : Account} (h : alreadyDowngraded plan a.profile a.quota (naturalMonth now) = true)
include h

theorem expired_of_alreadyDowngraded : a.Expired now :=
  fun _ hq => resetLeft_eq_none (periodEnd_of_alreadyDowngraded h hq) (lt_naturalMonth now)

theorem renewed_of_alreadyDowngraded : a.Renewed now :=
  fun _ hq => freeLeft_eq_none (periodEnd_of_alreadyDowngraded h hq) (lt_naturalMonth now)

/-- The Free plan is not provided twice. -/
theorem provided_eq_self : a.provided plan now = a := by
  simp only [provided, expireReset_eq_self (expired_of_alreadyDowngraded h), h, if_true]

end

/-- What is read depends on the quota state and the resets. -/
theorem quota_expireReset_congr {a b : Account} (hquota : b.quota = a.quota)
    (hresets : b.resets = a.resets) : (b.expireReset now).quota = (a.expireReset now).quota := by
  simp only [expireReset, resetLeft, hquota, hresets]
  rcases a.quota with _ | q
  · exact hquota
  dsimp only
  split
  · exact hquota
  · rfl

/-- The row of the user does not matter for what is provided. -/
theorem provided_congr {a b : Account} (hid : b.id = a.id) (hquota : b.quota = a.quota)
    (hprofile : b.profile = a.profile) (hresets : b.resets = a.resets) :
    (b.provided plan now).profile = (a.provided plan now).profile ∧
      (b.provided plan now).quota = (a.provided plan now).quota := by
  have hread : (b.expireReset now).quota = (a.expireReset now).quota :=
    quota_expireReset_congr hquota hresets
  have hprofile' : (b.expireReset now).profile = (a.expireReset now).profile := by
    rw [profile_expireReset, profile_expireReset, hprofile]
  have hid' : (b.expireReset now).id = (a.expireReset now).id := by
    rw [(kept_expireReset b now).id, (kept_expireReset a now).id, hid]
  simp only [provided, hread, hprofile', hid']
  split_ifs
  · exact ⟨hprofile', hread⟩
  · exact ⟨rfl, rfl⟩

/-! ## Paused accounts -/

/-- The access of the account is paused. -/
def Account.Paused (a : Account) : Prop := ∃ q ∈ a.quota, q.proxyAccessState = "paused"

theorem paused_paused (a : Account) (now : Time) : (a.paused now).Paused :=
  ⟨_, rfl, (by decide : trimSpace "paused" = "paused")⟩

section

variable {a : Account} (h : a.Paused)

include h

/-- A paused account is on no list. -/
theorem Account.Paused.blocked : a.blocked = true := by
  obtain ⟨q, hq, hpaused⟩ := h
  rw [Account.blocked, mem_def.1 hq, any_some, hpaused]
  simp

/-- Reading a quota state does not end a pause. -/
theorem Account.Paused.expireReset (now : Time) : (a.expireReset now).Paused := by
  obtain ⟨q, hq, hpaused⟩ := h
  rw [Account.expireReset, mem_def.1 hq]
  dsimp only
  split
  · exact ⟨q, hq, hpaused⟩
  · exact ⟨_, rfl, hpaused⟩

theorem Account.Paused.refreshed (user : User) (now : Time) : (a.refreshed user now).Paused := by
  refine Account.Paused.expireReset ?_ now
  obtain ⟨q, hq, hpaused⟩ := h
  rw [ensureFreeQuotaPeriod, mem_def.1 hq]
  split_ifs
  · exact ⟨q, hq, hpaused⟩
  · dsimp only
    split
    · exact ⟨q, hq, hpaused⟩
    · exact ⟨_, rfl, hpaused⟩

/-- The Free plan does not end it either. -/
theorem Account.Paused.provided (plan : BillingPlan) (now : Time) :
    (a.provided plan now).Paused := by
  obtain ⟨q, hq, hpaused⟩ := h.expireReset now
  rw [Account.provided]
  split_ifs
  · exact ⟨q, hq, hpaused⟩
  · refine ⟨_, rfl, ?_⟩
    simp only [stored, downgraded, mem_def.1 hq,
      getD_some, hpaused]
    decide

end

/-! ## Users that were written -/

section

variable [Unicode] (env : Env) (a : Account) (v : User)

@[simp] theorem id_updateUser : (a.updateUser env v).id = a.id := rfl

@[simp] theorem subscriptions_updateUser :
    (a.updateUser env v).subscriptions = a.subscriptions := rfl

@[simp] theorem membership_updateUser : (a.updateUser env v).membership = a.membership := rfl

@[simp] theorem resets_updateUser : (a.updateUser env v).resets = a.resets := rfl

@[simp] theorem usage_updateUser : (a.updateUser env v).usage = a.usage := rfl

@[simp] theorem profile_updateUser : (a.updateUser env v).profile = a.profile := rfl

@[simp] theorem quota_updateUser : (a.updateUser env v).quota = a.quota := rfl

end

/-- Two users that differ in their groups, their credential, and what nothing here depends on. -/
structure Alike (u v : User) : Prop where
  email : v.email = u.email
  emailVerified : v.emailVerified = u.emailVerified
  active : v.active = u.active
  archivedAt : v.archivedAt = u.archivedAt
  validFrom : v.subscriptionValidFrom = u.subscriptionValidFrom
  validUntil : v.subscriptionValidUntil = u.subscriptionValidUntil
  lastActiveAt : v.lastActiveAt = u.lastActiveAt

theorem Alike.refl (u : User) : Alike u u := ⟨rfl, rfl, rfl, rfl, rfl, rfl, rfl⟩

variable {u : User}

theorem Alike.trans {v w : User} (h : Alike u v) (h' : Alike v w) : Alike u w :=
  ⟨h'.email.trans h.email, h'.emailVerified.trans h.emailVerified, h'.active.trans h.active,
    h'.archivedAt.trans h.archivedAt, h'.validFrom.trans h.validFrom,
    h'.validUntil.trans h.validUntil, h'.lastActiveAt.trans h.lastActiveAt⟩

theorem Alike.symm {v : User} (h : Alike u v) : Alike v u :=
  ⟨h.email.symm, h.emailVerified.symm, h.active.symm, h.archivedAt.symm, h.validFrom.symm,
    h.validUntil.symm, h.lastActiveAt.symm⟩

section

variable [StableUnicode]

/-- The address of a user is in normal form. -/
theorem email_user (a : Account) : toLower (trimSpace a.user.email) = a.user.email := by
  simp [user, scanUser, normalizeUserRoleFields, trimSpace_toLower]

/-- The groups of a user are in normal form. -/
theorem groups_user (a : Account) : normalizeStringSlice a.user.groups = a.user.groups := by
  simp [user, scanUser, normalizeUserRoleFields]

theorem trimSpace_of_mem_groups {a : Account} {g : String} (hg : g ∈ a.user.groups) :
    trimSpace g = g := by
  obtain ⟨-, v, -, rfl⟩ := mem_normalizeStringSlice.1 hg
  exact trimSpace_idem v

/-- Every user has a credential. -/
theorem proxyUUID_user (a : Account) :
    trimSpace a.user.proxyUUID = a.user.proxyUUID ∧ a.user.proxyUUID ≠ "" := by
  simp only [user, scanUser, normalizeUserRoleFields, trimSpace_idem, true_and]
  exact a.issued

variable (env : Env) (a : Account) (v : User)

theorem groups_updateUser : (a.updateUser env v).user.groups = normalizeStringSlice v.groups := by
  simp [Account.user, Account.updateUser, scanUser, writtenRow, preparedUser,
    normalizeUserRoleFields]

theorem updatedAt_updateUser : (a.updateUser env v).user.updatedAt = env.now := by
  simp only [Account.user, Account.updateUser, scanUser, writtenRow, normalizeUserRoleFields]

theorem proxyUUIDExpiresAt_updateUser :
    (a.updateUser env v).user.proxyUUIDExpiresAt = v.proxyUUIDExpiresAt := by
  simp only [Account.user, Account.updateUser, scanUser, writtenRow, preparedUser,
    normalizeUserRoleFields]

variable {v}

theorem proxyUUID_updateUser (h : trimSpace v.proxyUUID ≠ "") :
    (a.updateUser env v).user.proxyUUID = trimSpace v.proxyUUID := by
  simp [Account.user, Account.updateUser, scanUser, writtenRow, preparedUser,
    normalizeUserRoleFields, h]

/-- A user is read as they were written. -/
theorem alike_updateUser (h : toLower (trimSpace v.email) = v.email) :
    Alike v (a.updateUser env v).user := by
  constructor
  all_goals simp only [Account.user, Account.updateUser, scanUser, writtenRow, preparedUser,
    normalizeUserRoleFields, getD_some, h]
  by_cases hverified : v.emailVerified = true <;> simp [hverified]

end

theorem Account.Paused.updateUser [Unicode] {a : Account} (h : a.Paused) (env : Env) (v : User) :
    (a.updateUser env v).Paused := by
  rwa [Account.Paused]

/-! ## Users of the Free plan -/

/-- The user was moved to the Free plan. -/
structure Moved (now : Time) (u v : User) : Prop extends Alike u v where
  plan : monthlyQuotaGroup v = monthlyFreeQuotaLimitGroup
  verified : accountAccessVerified v = accountAccessVerified u
  updatedAt : v.updatedAt = now
  proxyUUID : v.proxyUUID = u.proxyUUID
  proxyUUIDExpiresAt : v.proxyUUIDExpiresAt = u.proxyUUIDExpiresAt

/-- The user as they are when they have been moved to the Free plan. -/
def onFreePlan (user : User) (now : Time) : User :=
  { user with
    groups := freePlanGroups downgradedGroups user.groups
    updatedAt := now }

/-- A user who need not confirm an address need not do so on the Free plan. -/
theorem emailOptional_mem_freePlanGroups {dropped groups : List String}
    (hdropped : emailOptionalRegistrationGroup ∉ dropped)
    (htrimmed : ∀ g ∈ groups, trimSpace g = g) :
    emailOptionalRegistrationGroup ∈ freePlanGroups dropped groups ↔
      emailOptionalRegistrationGroup ∈ groups := by
  rw [freePlanGroups, normalizeGroups, mem_normalizeStringSlice]
  constructor
  · rintro ⟨-, v, hv, htrim⟩
    rcases mem_append.1 hv with hv | hv
    · rw [← htrim, htrimmed v (mem_of_mem_filter hv)]
      exact mem_of_mem_filter hv
    exfalso
    revert htrim
    rcases mem_cons.1 hv with rfl | hv
    · decide
    · rw [mem_singleton.1 hv]
      decide
  · intro h
    refine ⟨by decide, _, mem_append_left _ (mem_filter.2 ⟨h, ?_⟩), by decide⟩
    exact decide_eq_true hdropped

/-- What moves a user to the Free plan. -/
theorem moved_of_groups {dropped : List String} {v : User} (halike : Alike u v)
    (hgroups : v.groups = freePlanGroups dropped u.groups)
    (hplus : monthlyPlusQuotaLimitGroup ∈ dropped)
    (hbeta : monthlyUnlimitedBetaQuotaGroup ∈ dropped)
    (hoptional : emailOptionalRegistrationGroup ∉ dropped)
    (htrimmed : ∀ g ∈ u.groups, trimSpace g = g) (hupdated : v.updatedAt = now)
    (hproxy : v.proxyUUID = u.proxyUUID) (hexpires : v.proxyUUIDExpiresAt = u.proxyUUIDExpiresAt) :
    Moved now u v where
  toAlike := halike
  plan := monthlyQuotaGroup_freePlanGroups hgroups hplus hbeta htrimmed
  verified := by
    rw [accountAccessVerified, halike.emailVerified, hgroups]
    congr 1
    rw [Bool.eq_iff_iff, contains_iff_mem, contains_iff_mem,
      emailOptional_mem_freePlanGroups hoptional htrimmed]
  updatedAt := hupdated
  proxyUUID := hproxy
  proxyUUIDExpiresAt := hexpires

theorem moved_onFreePlan (htrimmed : ∀ g ∈ u.groups, trimSpace g = g) (now : Time) :
    Moved now u (onFreePlan u now) :=
  moved_of_groups ⟨rfl, rfl, rfl, rfl, rfl, rfl, rfl⟩ rfl (by decide) (by decide) (by decide)
    htrimmed rfl rfl rfl

section

variable [StableUnicode]

/-- Writing a user with the groups of the Free plan moves them to it. -/
theorem moved_updateUser (env : Env) (a b : Account) {dropped : List String}
    (hplus : monthlyPlusQuotaLimitGroup ∈ dropped)
    (hbeta : monthlyUnlimitedBetaQuotaGroup ∈ dropped)
    (hoptional : emailOptionalRegistrationGroup ∉ dropped) :
    Moved env.now a.user
      (b.updateUser env { a.user with groups := freePlanGroups dropped a.user.groups }).user := by
  obtain ⟨htrimmed, hne⟩ := proxyUUID_user a
  have halike := alike_updateUser env b
    (v := { a.user with groups := freePlanGroups dropped a.user.groups }) (email_user a)
  refine moved_of_groups ((Alike.refl _).trans ⟨halike.email, halike.emailVerified, halike.active,
    halike.archivedAt, halike.validFrom, halike.validUntil, halike.lastActiveAt⟩) ?_ hplus hbeta
    hoptional (fun _ => trimSpace_of_mem_groups) (updatedAt_updateUser env b _) ?_
    (proxyUUIDExpiresAt_updateUser env b _)
  · rw [groups_updateUser]
    exact normalizeStringSlice_idem _
  · rw [proxyUUID_updateUser]
    · exact htrimmed
    · exact fun h => hne (htrimmed.symm.trans h)

end

/-- Who is moved twice is moved. -/
theorem Moved.trans {v w : User} (h : Moved now u v) (h' : Moved now v w) : Moved now u w where
  toAlike := h.toAlike.trans h'.toAlike
  plan := h'.plan
  verified := h'.verified.trans h.verified
  updatedAt := h'.updatedAt
  proxyUUID := h'.proxyUUID.trans h.proxyUUID
  proxyUUIDExpiresAt := h'.proxyUUIDExpiresAt.trans h.proxyUUIDExpiresAt

/-! ## Which data the checks depend on -/

section

variable [Unicode]

/-- The end of a subscription depends on the quota state by the arrears only. -/
theorem Store.due_congr [RFC3339] (s : Store) {a b : Account} {v : User} (now : Time)
    (huser : Alike u v) (hquota : arrearsSince b.quota = arrearsSince a.quota)
    (hsubs : b.subscriptions = a.subscriptions) : s.due b v now = s.due a u now := by
  have hgrace : paymentGraceExpired b.quota now = paymentGraceExpired a.quota now := by
    rw [paymentGraceExpired, paymentGraceExpired, hquota]
  have hstanding : ∀ (sub : Subscription) (t : Time),
      sub.standing b.quota t now = sub.standing a.quota t now := by
    intro _ t
    simp only [Subscription.standing, hgrace, hquota]
  rw [due, due, Bool.eq_iff_iff, downgrades_iff, downgrades_iff]
  simp only [subscriptionValidityExpired, subscriptionValidityActive, List.any_eq_false,
    Subscription.keeps, huser.validFrom, huser.validUntil, hsubs, hgrace, hstanding]

variable [Mail] (s : Store) (scope : UserScope) (groups : List String)

/-- The list has an account by its membership, its billing profile and its quota state. -/
theorem Store.serves_congr_account (user : User) {a b : Account} (now : Time)
    (hmembership : b.membership = a.membership) (hprofile : b.profile = a.profile)
    (hquota : b.quota = a.quota) (hresets : b.resets = a.resets) :
    s.serves scope groups user b now = s.serves scope groups user a now := by
  simp only [serves, access, billingPackageName, blocked,
    quotaExhaustedForUser, hmembership, hprofile, hquota, quota_expireReset_congr hquota hresets]

/-- The list has a user by their address, their plan, and whether they are verified. -/
theorem Store.serves_congr_user {v : User} (a : Account) (now : Time) (huser : Alike u v)
    (hplan : monthlyQuotaGroup v = monthlyQuotaGroup u)
    (hunlimited : hasSubscriptionUnlimitedOverride v now = hasSubscriptionUnlimitedOverride u now)
    (hverified : accountAccessVerified v = accountAccessVerified u) :
    s.serves scope groups v a now = s.serves scope groups u a now := by
  simp only [serves, scopeAdmits, agentResourceScopeAllowsUser, effectiveAgentResourceClass,
    publicEmailOverride, blacklisted, quotaExhaustedForUser, isMonthlyQuotaLimitMember,
    isSandbox, hplan, hunlimited, hverified, huser.email, huser.active]

end

/-- Nobody on the Free plan has a plan without limit. -/
theorem hasSubscriptionUnlimitedOverride_free
    (h : monthlyQuotaGroup u = monthlyFreeQuotaLimitGroup) :
    hasSubscriptionUnlimitedOverride u now = false := by
  rw [hasSubscriptionUnlimitedOverride, h,
    show (monthlyFreeQuotaLimitGroup == monthlyPlusQuotaLimitGroup) = false by decide,
    Bool.and_false]

/-! ## Users that are not archived -/

theorem inactive_congr {teams : List NetworkTeam} {a b : Account} {v : User}
    (hmembership : b.membership = a.membership) (hactive : v.active = u.active)
    (hplan : monthlyQuotaGroup v = monthlyQuotaGroup u)
    (hlast : userLastActivity v = userLastActivity u) :
    inactive teams b v now = inactive teams a u now := by
  have haccess : b.access teams now = a.access teams now := by
    rw [access, access, hmembership]
  rw [inactive, inactive, haccess, hactive, hplan, hlast]

theorem userLastActivity_written (hnow : now.isZero = false) (h : u.updatedAt = now) :
    userLastActivity u = u.lastActiveAt.getD now := by
  rw [userLastActivity, h]
  cases u.lastActiveAt with
  | none => exact if_pos (Bool.eq_false_iff.1 hnow)
  | some => rfl

/-- Who is not archived before they are written is not archived afterwards, with the same plan. -/
theorem inactive_written {teams : List NetworkTeam} {a b : Account} {v : User}
    (hnow : now.isZero = false) (hmembership : b.membership = a.membership) (halike : Alike u v)
    (hplan : monthlyQuotaGroup v = monthlyQuotaGroup u) (hupdated : v.updatedAt = now)
    (h : inactive teams a u now = false) : inactive teams b v now = false := by
  have hlast := userLastActivity_written hnow hupdated
  cases hactive : u.lastActiveAt with
  | some =>
    rw [inactive_congr hmembership halike.active hplan, h]
    rw [hlast, halike.lastActiveAt, userLastActivity, hactive]
    rfl
  | none =>
    -- The write itself is the last activity.
    rw [halike.lastActiveAt, hactive] at hlast
    have hrecent : ¬ freeAccountArchiveAfter ≤ 0 := by decide
    simp [inactive, hlast, hrecent]

/-! ## The first pass -/

section

variable [StableUnicode] [RFC3339] {env : Env} {s : Store} {a : Account}

/-- Reading a quota state does not make an account due. -/
theorem Store.due_refreshed (s : Store) (a : Account) (user : User) (now : Time) :
    s.due (a.refreshed user now) user now = s.due a user now :=
  s.due_congr now (.refl user) (arrearsSince_refreshed a user now)
    (kept_refreshed a user now).subscriptions

/-- An account whose subscription is not over. -/
theorem reconcile_not_due (h : s.due a user env.now = false) :
    reconcileSubscriptionAccessAt env s a user = a.refreshed user env.now := by
  rw [reconcileSubscriptionAccessAt, due_refreshed, h]
  rfl

/-- What an account is when it was moved to the Free plan. -/
structure Downgraded (env : Env) (s : Store) (a b : Account) : Prop where
  moved : Moved env.now a.user b.user
  subscriptions : b.subscriptions = a.subscriptions
  membership : b.membership = a.membership
  resets : b.resets = a.resets
  profile : b.profile = ((a.refreshed a.user env.now).provided s.free env.now).profile
  quota : b.quota = ((a.refreshed a.user env.now).provided s.free env.now).quota

omit [RFC3339] in
/-- Who was given the Free plan has it. -/
theorem Downgraded.free {b : Account} (h : Downgraded env s a b) :
    alreadyDowngraded s.free b.profile b.quota (naturalMonth env.now) = true := by
  rw [h.profile, h.quota, provided]
  split_ifs with hfree
  · exact hfree
  · simp [alreadyDowngraded, freeProfile, downgraded, stored]

omit [RFC3339] in
/-- The last write of a downgrade, and what it provides. -/
theorem downgradeToFreePlan_of_written {x : Account} (hmoved : Moved env.now a.user x.user ∨
      x.user = a.user) (hid : x.id = (a.refreshed a.user env.now).id)
    (hsubs : x.subscriptions = a.subscriptions) (hmembership : x.membership = a.membership)
    (hresets : x.resets = a.resets) (hprofile : x.profile = (a.refreshed a.user env.now).profile)
    (hquota : x.quota = (a.refreshed a.user env.now).quota) :
    Downgraded env s a (downgradeToFreePlan env s x) := by
  have hplus : monthlyPlusQuotaLimitGroup ∈ downgradedGroups := by decide
  have hbeta : monthlyUnlimitedBetaQuotaGroup ∈ downgradedGroups := by decide
  have hoptional : emailOptionalRegistrationGroup ∉ downgradedGroups := by decide
  have hwritten := moved_updateUser env x x hplus hbeta hoptional
  rw [downgradeToFreePlan]
  generalize hy : x.updateUser env
    { x.user with groups := freePlanGroups downgradedGroups x.user.groups } = y at hwritten ⊢
  have hkept := kept_provided s.free y env.now
  have hresets' : y.resets = (a.refreshed a.user env.now).resets := by
    rw [← hy, resets_updateUser, hresets, (kept_refreshed a a.user env.now).resets]
  obtain ⟨hprofile', hquota'⟩ := provided_congr (a := a.refreshed a.user env.now) (b := y)
    (by rw [← hy, id_updateUser, hid]) (by rw [← hy, quota_updateUser, hquota])
    (by rw [← hy, profile_updateUser, hprofile]) hresets'
  refine ⟨?_, ?_, ?_, ?_, hprofile', hquota'⟩
  · rw [hkept.user]
    rcases hmoved with hmoved | hsame
    · exact hmoved.trans hwritten
    · rwa [hsame] at hwritten
  · rw [hkept.subscriptions, ← hy, subscriptions_updateUser, hsubs]
  · rw [hkept.membership, ← hy, membership_updateUser, hmembership]
  · rw [hkept.resets, ← hy, resets_updateUser, hresets]

/-- An account whose subscription is over is moved to the Free plan. -/
theorem reconcile_due (h : s.due a a.user env.now = true) :
    Downgraded env s a (reconcileSubscriptionAccessAt env s a a.user) := by
  have hkept := kept_refreshed a a.user env.now
  rw [reconcileSubscriptionAccessAt]
  simp only [due_refreshed, h, if_true]
  split_ifs
  · refine downgradeToFreePlan_of_written
      (.inl (moved_updateUser env a _ (by decide) (by decide) (by decide))) ?_ ?_ ?_ ?_ ?_ ?_
    · rw [id_updateUser]
    · rw [subscriptions_updateUser, hkept.subscriptions]
    · rw [membership_updateUser, hkept.membership]
    · rw [resets_updateUser, hkept.resets]
    · rw [profile_updateUser]
    · rw [quota_updateUser]
  · exact downgradeToFreePlan_of_written (.inr hkept.user) rfl hkept.subscriptions
      hkept.membership hkept.resets rfl rfl

/-- An account that is not archived is only reconciled. -/
theorem reconciled_of_not_inactive (h : inactive s.teams a a.user env.now = false) :
    reconciled env s a = reconcileSubscriptionAccessAt env s a a.user := by
  simp only [reconciled, archiveInactiveFreeUser, h, Bool.false_eq_true, if_false]

/-- A paused account stays paused. -/
theorem Account.Paused.reconcile (h : a.Paused) (user : User) :
    (reconcileSubscriptionAccessAt env s a user).Paused := by
  have hread := h.refreshed user env.now
  rw [reconcileSubscriptionAccessAt]
  split_ifs
  · exact (hread.updateUser env _ |>.updateUser env _).provided s.free env.now
  · exact (hread.updateUser env _).provided s.free env.now
  · exact hread

/-- Who is archived is paused. -/
theorem paused_of_inactive (h : inactive s.teams a a.user env.now = true) :
    (reconciled env s a).Paused := by
  simp only [reconciled, archiveInactiveFreeUser, h, if_true]
  exact (paused_paused _ _).reconcile _

/-- The first pass does not end a pause. -/
theorem Account.Paused.reconciled (h : a.Paused) : (reconciled env s a).Paused := by
  cases hinactive : inactive s.teams a a.user env.now with
  | true => exact paused_of_inactive hinactive
  | false =>
    rw [reconciled_of_not_inactive hinactive]
    exact h.reconcile _

/-! ## Accounts that the first pass leaves as they are -/

/-- The first pass finds nothing to do about the books of the account. -/
structure Settled (s : Store) (now : Time) (a : Account) : Prop where
  expired : a.Expired now
  renewed : monthlyQuotaGroup a.user = monthlyFreeQuotaLimitGroup → a.Renewed now
  free : s.due a a.user now = true →
    alreadyDowngraded s.free a.profile a.quota (naturalMonth now) = true

/-- The books of an account that is not archived are settled afterwards. -/
theorem Settled.reconcile (env : Env) (s : Store) (a : Account) :
    Settled s env.now (reconcileSubscriptionAccessAt env s a a.user) := by
  cases hdue : s.due a a.user env.now with
  | true =>
    have hfree := (reconcile_due hdue).free
    exact ⟨expired_of_alreadyDowngraded hfree, fun _ => renewed_of_alreadyDowngraded hfree,
      fun _ => hfree⟩
  | false =>
    rw [reconcile_not_due hdue]
    refine ⟨expired_refreshed _ _ _, ?_, ?_⟩
    · rw [(kept_refreshed a a.user env.now).user]
      exact renewed_refreshed
    · rw [(kept_refreshed a a.user env.now).user, due_refreshed, hdue]
      exact fun h => (Bool.false_ne_true h).elim

omit [RFC3339] in
theorem mem_groups_user {g : String} (hg : g ≠ "") : g ∈ a.user.groups ↔ g ∈ a.row.groups := by
  have hgroups : a.user.groups = normalizeStringSlice (normalizeStringSlice a.row.groups) := by
    simp only [user, scanUser, normalizeUserRoleFields]
  rw [hgroups, normalizeStringSlice_idem, mem_normalizeStringSlice]
  constructor
  · rintro ⟨-, v, hv, rfl⟩
    rwa [a.tidy v hv]
  · exact fun h => ⟨hg, g, h, a.tidy g h⟩

/-- Writing a user with the same groups leaves the books settled. -/
theorem Settled.updateUser {b : Account} {v : User} (h : Settled s env.now b)
    (hv : toLower (trimSpace v.email) = v.email) (hgroups : v.groups = a.user.groups)
    (huser : b.user = a.user ∨
      alreadyDowngraded s.free b.profile b.quota (naturalMonth env.now) = true)
    (halike : Alike a.user v) : Settled s env.now (b.updateUser env v) := by
  rcases huser with huser | hfree
  · have halike' : Alike b.user (b.updateUser env v).user :=
      (huser ▸ halike).trans (alike_updateUser env b hv)
    have hsame : (b.updateUser env v).user.groups = b.user.groups := by
      rw [groups_updateUser, hgroups, groups_user, huser]
    refine ⟨?_, fun hplan => ?_, fun hdue => ?_⟩
    · have hexpired := h.expired
      rw [Account.Expired] at hexpired ⊢
      intro q hq
      have hleft := hexpired q hq
      rw [resetLeft] at hleft ⊢
      rwa [resets_updateUser]
    · have hrenewed := h.renewed (by rwa [monthlyQuotaGroup, hsame] at hplan)
      rw [Account.Renewed] at hrenewed ⊢
      intro q hq
      have hleft := hrenewed q hq
      -- The row has the group of the Free plan if and only if it had it before.
      have hmem : monthlyFreeQuotaLimitGroup ∈ (b.updateUser env v).row.groups ↔
          monthlyFreeQuotaLimitGroup ∈ b.row.groups := by
        rw [← mem_groups_user (by decide), hsame, mem_groups_user (by decide)]
      rw [freeLeft] at hleft ⊢
      rw [profile_updateUser, usage_updateUser]
      simpa only [hmem] using hleft
    · rw [s.due_congr env.now halike' (by rw [quota_updateUser])
        (subscriptions_updateUser env b v)] at hdue
      exact h.free hdue
  · have hfree' : alreadyDowngraded s.free (b.updateUser env v).profile
        (b.updateUser env v).quota (naturalMonth env.now) = true := by
      rwa [profile_updateUser]
    exact ⟨expired_of_alreadyDowngraded hfree', fun _ => renewed_of_alreadyDowngraded hfree',
      fun _ => hfree'⟩

/-- The books of a settled account stay as they are. -/
theorem Settled.reconciled_eq (h : Settled s env.now a)
    (hinactive : inactive s.teams a a.user env.now = false) :
    (reconciled env s a).profile = a.profile ∧ (reconciled env s a).quota = a.quota ∧
      (reconciled env s a).membership = a.membership ∧ (reconciled env s a).resets = a.resets := by
  have hself := refreshed_eq_self h.expired h.renewed
  rw [reconciled_of_not_inactive hinactive]
  cases hdue : s.due a a.user env.now with
  | true =>
    have hdown := reconcile_due hdue
    have hprofile := hdown.profile
    have hquota := hdown.quota
    rw [hself, provided_eq_self (h.free hdue)] at hprofile hquota
    exact ⟨hprofile, hquota, hdown.membership, hdown.resets⟩
  | false =>
    rw [reconcile_not_due hdue, hself]
    exact ⟨rfl, rfl, rfl, rfl⟩

end

end Accounts.Agents

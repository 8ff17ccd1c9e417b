import Accounts.Agents.Reconcile

/-!
# Lists of clients that last

A node gets its clients by the users as they were read before accounts were moved to the Free
plan (`Agents.Clients`). So an account that has just been moved may be listed by the plan that
it had: then, what is stored does not entitle it, or the next call leaves it out (`Stale`,
`ClientsSample.expired_is_listed`).

This is the only way (`lasts_iff`). All clients are entitled by what is stored, and a call at
the same time returns the same list, exactly if there is no such account
(`clients_entitled_iff`).
-/

namespace Accounts.Agents

open Subscriptions Users Text List Store

/-! ## Rounds -/

section

variable [StableUnicode] [RFC3339] [Mail] {env : Env} {s : Store} {a : Account}

/-- Both passes for one account: its client, if any, and what is stored. -/
def Store.round (s : Store) (env : Env) (scope : UserScope) (groups : List String) (a : Account) :
    Option Client × Account :=
  s.serve env scope groups a.user (reconciled env s a)

/-- The account is listed by the plan that it had: its subscription is over, the user is not
    on the Free plan yet, and the list would not have them on it. The node is not for the Free
    plan, the quota of the Free plan is used up, or the user is archived by the next call. The
    user of the demonstration is written back with the plan that they had. -/
structure Stale (s : Store) (scope : UserScope) (groups : List String) (now : Time) (a : Account) :
    Prop where
  paid : monthlyQuotaGroup a.user ≠ monthlyFreeQuotaLimitGroup
  ended : s.due a a.user now = true
  listed : s.serves scope groups a.user (a.provided s.free now) now = true
  kept : (isSandbox a.user && needsRenewal a.user now) = false
  lost : scopeAdmits scope groups (a.access s.teams now) (onFreePlan a.user now)
        (billingPackageName (a.provided s.free now)) = false ∨
      quotaExhaustedForUser (a.provided s.free now) (onFreePlan a.user now) now = true ∨
      inactive s.teams a (onFreePlan a.user now) now = true

variable {scope : UserScope} {groups : List String} {user : User}

omit [RFC3339] in
/-- A user who is not listed. -/
theorem serve_of_not_serves (h : s.serves scope groups user a env.now = false) :
    s.serve env scope groups user a = (none, a) := by
  rw [serve, h]
  rfl

omit [RFC3339] in
/-- A user who is listed with a new credential. -/
theorem serve_of_renewal (h : s.serves scope groups user a env.now = true)
    (hrenew : (isSandbox user && needsRenewal user env.now) = true) :
    s.serve env scope groups user a =
      (some (clientOf (withCredential env user)), a.updateUser env (withCredential env user)) := by
  rw [serve, if_neg (not_not.2 h), if_pos hrenew]

variable {b : Account}

omit [RFC3339] in
/-- A user who is listed with the credential that they have. -/
theorem serve_of_serves (h : s.serves scope groups a.user b env.now = true)
    (hrenew : (isSandbox a.user && needsRenewal a.user env.now) = false) :
    s.serve env scope groups a.user b = (some (clientOf a.user), b) := by
  obtain ⟨htrimmed, hissued⟩ := proxyUUID_user a
  rw [← htrimmed] at hissued
  rw [serve, if_neg (not_not.2 h), if_neg (Bool.eq_false_iff.1 hrenew), if_neg hissued]

omit [RFC3339] in
/-- A user who is blocked is not listed. -/
theorem not_serves_of_paused (h : a.Paused) (now : Time) :
    s.serves scope groups user a now = false := by
  simp [serves, h.blocked]

/-- The client of a settled account that is not archived. -/
theorem Settled.round (h : Settled s env.now a)
    (hinactive : inactive s.teams a a.user env.now = false)
    (hrenew : s.serves scope groups a.user a env.now = true →
      (isSandbox a.user && needsRenewal a.user env.now) = false) :
    (s.round env scope groups a).1 =
      if s.serves scope groups a.user a env.now then some (clientOf a.user) else none := by
  obtain ⟨hprofile, hquota, hmembership, hresets⟩ := h.reconciled_eq hinactive
  have hsame := s.serves_congr_account scope groups a.user env.now hmembership hprofile hquota
    hresets
  rw [Store.round]
  cases hserves : s.serves scope groups a.user a env.now with
  | true =>
    rw [hserves] at hsame
    rw [serve_of_serves hsame (hrenew hserves)]
    rfl
  | false =>
    rw [hserves] at hsame
    rw [serve_of_not_serves hsame]
    rfl

/-! ## Users who were listed -/

variable {u v : User}

omit [RFC3339] [Mail] in
theorem isSandbox_alike (h : Alike u v) : isSandbox v = isSandbox u := by
  rw [isSandbox, isSandbox, h.email]

omit [RFC3339] [Mail] in
theorem Store.blacklisted_alike (s : Store) (h : Alike u v) :
    s.blacklisted v = s.blacklisted u := by
  rw [blacklisted, blacklisted, h.email]

variable {now : Time}

omit [RFC3339] in
/-- Who is listed with the Free plan is listed with any other. -/
theorem serves_of_moved (h : Moved now u v) (hserves : s.serves scope groups v a now = true) :
    s.serves scope groups u a now = true := by
  simp only [serves, Bool.and_eq_true, Bool.not_eq_true', scopeAdmits, Bool.or_eq_true] at hserves ⊢
  obtain ⟨⟨⟨⟨⟨⟨hnetwork, hscope⟩, hactive⟩, hblocked⟩, hblacklisted⟩, hquota⟩, hverified⟩ := hserves
  refine ⟨⟨⟨⟨⟨⟨hnetwork, ?_⟩, h.active ▸ hactive⟩, hblocked⟩, ?_⟩, ?_⟩, ?_⟩
  · refine hscope.imp (agentResourceScopeAllowsUser_of_free h.plan) fun hemail => ?_
    rwa [publicEmailOverride, h.email] at hemail
  · rwa [s.blacklisted_alike h.toAlike] at hblacklisted
  · -- The quota of the Free plan counts for its users, and may count for others.
    have hmember : isMonthlyQuotaLimitMember v now = true := by
      simp [isMonthlyQuotaLimitMember, hasSubscriptionUnlimitedOverride_free h.plan, h.plan]
    rw [quotaExhaustedForUser, hmember, Bool.true_and] at hquota
    rw [quotaExhaustedForUser, hquota, Bool.and_false]
  · rw [isSandbox_alike h.toAlike, h.verified] at hverified
    exact hverified

omit [RFC3339] in
/-- Two users of the Free plan are listed alike. -/
theorem serves_free (halike : Alike u v) (hu : monthlyQuotaGroup u = monthlyFreeQuotaLimitGroup)
    (hv : monthlyQuotaGroup v = monthlyFreeQuotaLimitGroup)
    (hverified : accountAccessVerified v = accountAccessVerified u) :
    s.serves scope groups v a now = s.serves scope groups u a now :=
  s.serves_congr_user scope groups a now halike (hv.trans hu.symm)
    (by rw [hasSubscriptionUnlimitedOverride_free hu, hasSubscriptionUnlimitedOverride_free hv])
    hverified

section

omit [StableUnicode] [RFC3339] [Mail]

section

variable (env : Env) (u : User)

theorem alike_withCredential : Alike u (withCredential env u) :=
  ⟨rfl, rfl, rfl, rfl, rfl, rfl, rfl⟩

theorem groups_withCredential : (withCredential env u).groups = u.groups :=
  rfl

theorem trimSpace_withCredential : trimSpace (withCredential env u).proxyUUID ≠ "" := by
  rw [withCredential, env.uuid.trimmed]
  exact env.uuid.nonempty

end

end

omit [RFC3339] [Mail] in
/-- The user of the demonstration keeps a new credential for a while. -/
theorem not_needsRenewal_withCredential (env : Env) (b : Account) (u : User) :
    needsRenewal (b.updateUser env (withCredential env u)).user env.now = false := by
  have huuid := trimSpace_withCredential env u
  have hlater : ¬ env.now + sandboxUUIDRotationWindow ≤ env.now := by
    have : 0 < sandboxUUIDRotationWindow := by decide
    linarith
  rw [needsRenewal, proxyUUID_updateUser env b huuid, proxyUUIDExpiresAt_updateUser,
    trimSpace_idem, beq_false_of_ne huuid]
  simp [withCredential, hlater]

/-! ## Two calls -/

/-- A settled account that is not listed as it is stored has no client. -/
theorem Settled.round_eq_none (h : Settled s env.now a)
    (hserves : s.serves scope groups a.user a env.now = false) :
    (s.round env scope groups a).1 = none := by
  cases hinactive : inactive s.teams a a.user env.now with
  | true =>
    have hpaused : (reconciled env s a).Paused := paused_of_inactive hinactive
    rw [Store.round, serve_of_not_serves (not_serves_of_paused hpaused _)]
  | false =>
    rw [h.round hinactive fun hs => absurd hs (Bool.eq_false_iff.1 hserves), hserves]
    rfl

omit [Mail] in
/-- The books of an account that is not archived are settled by the first pass. -/
theorem Settled.reconciled (h : inactive s.teams a a.user env.now = false) :
    Settled s env.now (reconciled env s a) := by
  rw [reconciled_of_not_inactive h]
  exact .reconcile env s a

omit [Mail] in
/-- What the first pass makes of an account that is not archived. -/
theorem reconciled_cases (h : inactive s.teams a a.user env.now = false) :
    (s.due a a.user env.now = false ∧ a.Kept (reconciled env s a)) ∨
      (s.due a a.user env.now = true ∧ Downgraded env s a (reconciled env s a)) := by
  rw [reconciled_of_not_inactive h]
  cases hdue : s.due a a.user env.now with
  | true => exact .inr ⟨rfl, reconcile_due hdue⟩
  | false =>
    refine .inl ⟨rfl, ?_⟩
    rw [reconcile_not_due hdue]
    exact kept_refreshed a a.user env.now

omit [RFC3339] in
/-- Who is not on the Free plan has the books of the Free plan after a downgrade. -/
theorem Downgraded.serves (h : Downgraded env s a b)
    (hplan : monthlyQuotaGroup a.user ≠ monthlyFreeQuotaLimitGroup) (user : User) :
    s.serves scope groups user b env.now =
      s.serves scope groups user (a.provided s.free env.now) env.now := by
  have hread : a.refreshed a.user env.now = a.expireReset env.now := by
    rw [Account.refreshed, ensureFreeQuotaPeriod_eq_self fun hfree => absurd hfree hplan]
  have hprovided : (a.expireReset env.now).provided s.free env.now = a.provided s.free env.now := by
    simp only [Account.provided, expireReset_eq_self (expired_expireReset a env.now)]
  have hkept := kept_provided s.free a env.now
  have hprofile := h.profile
  have hquota := h.quota
  rw [hread, hprovided] at hprofile hquota
  exact s.serves_congr_account scope groups user env.now
    (h.membership.trans hkept.membership.symm) hprofile hquota (h.resets.trans hkept.resets.symm)

omit [RFC3339] [Mail] in
/-- Who is moved to the Free plan is archived by the next call if they were not active for long. -/
theorem Downgraded.inactive (h : Downgraded env s a b) (hnow : env.now.isZero = false)
    (hv : Moved env.now a.user v) :
    inactive s.teams b b.user env.now = Agents.inactive s.teams a v env.now := by
  refine inactive_congr h.membership (h.moved.active.trans hv.active.symm)
    (h.moved.plan.trans hv.plan.symm) ?_
  rw [userLastActivity_written hnow h.moved.updatedAt, userLastActivity_written hnow hv.updatedAt,
    h.moved.lastActiveAt, hv.lastActiveAt]

/-- A call at the same time finds the client again, and the client is listed by what is stored. -/
structure Lasts (s : Store) (env env' : Env) (scope : UserScope) (groups : List String)
    (a : Account) : Prop where
  again : (s.round env' scope groups (s.round env scope groups a).2).1 =
    (s.round env scope groups a).1
  stored : ∀ client ∈ (s.round env scope groups a).1,
    clientOf (s.round env scope groups a).2.user = client ∧
      s.serves scope groups (s.round env scope groups a).2.user (s.round env scope groups a).2
        env.now = true

variable {env' : Env}

/-- A client of a settled account. -/
theorem lasts_of_settled (htime : env'.now = env.now)
    (hround : s.round env scope groups a = (some (clientOf b.user), b)) (h : Settled s env.now b)
    (hinactive : inactive s.teams b b.user env.now = false)
    (hserves : s.serves scope groups b.user b env.now = true)
    (hrenew : (isSandbox b.user && needsRenewal b.user env.now) = false) :
    Lasts s env env' scope groups a := by
  rw [← htime] at h hinactive hserves hrenew
  have hagain : (s.round env' scope groups b).1 = _ := h.round hinactive fun _ => hrenew
  rw [hserves] at hagain
  refine ⟨?_, fun client hclient => ?_⟩
  · rw [hround]
    exact hagain
  · rw [hround] at hclient ⊢
    rw [← htime]
    exact ⟨Option.some.inj hclient, hserves⟩

/-- An account without a client. -/
theorem lasts_of_none (hround : s.round env scope groups a = (none, b))
    (hagain : (s.round env' scope groups b).1 = none) : Lasts s env env' scope groups a := by
  refine ⟨?_, fun client hclient => ?_⟩
  · rw [hround]
    exact hagain
  · rw [hround] at hclient
    cases hclient

/-- Who is archived is not listed any more. -/
theorem lasts_of_inactive (h : inactive s.teams a a.user env.now = true) :
    Lasts s env env' scope groups a := by
  have hpaused : (reconciled env s a).Paused := paused_of_inactive h
  refine lasts_of_none (serve_of_not_serves (not_serves_of_paused hpaused _)) ?_
  rw [Store.round, serve_of_not_serves (not_serves_of_paused hpaused.reconciled _)]

section

variable (htime : env'.now = env.now) (hinactive : inactive s.teams a a.user env.now = false)

include htime hinactive

/-- Who is not listed is not listed with the Free plan, either. -/
theorem lasts_of_not_serves
    (h : s.serves scope groups a.user (reconciled env s a) env.now = false) :
    Lasts s env env' scope groups a := by
  have hsettled := Settled.reconciled hinactive
  refine lasts_of_none (serve_of_not_serves h) ?_
  rw [← htime] at hsettled
  refine hsettled.round_eq_none ?_
  rw [htime]
  rcases reconciled_cases hinactive with ⟨-, hkept⟩ | ⟨-, hdown⟩
  · rw [hkept.user]
    exact h
  · exact Bool.eq_false_iff.2 fun hserves =>
      Bool.eq_false_iff.1 h (serves_of_moved hdown.moved hserves)

/-- The user of the demonstration is written back with the plan that they had. -/
theorem lasts_of_renewal (hnow : env.now.isZero = false)
    (h : s.serves scope groups a.user (reconciled env s a) env.now = true)
    (hrenew : (isSandbox a.user && needsRenewal a.user env.now) = true) :
    Lasts s env env' scope groups a := by
  have hsettled := Settled.reconciled hinactive
  have hcases := reconciled_cases hinactive
  generalize hb : reconciled env s a = b at h hsettled hcases
  have hemail : toLower (trimSpace (withCredential env a.user).email) =
      (withCredential env a.user).email := email_user a
  have halike : Alike a.user (b.updateUser env (withCredential env a.user)).user :=
    (alike_withCredential env a.user).trans (alike_updateUser env b hemail)
  have hgroups : (b.updateUser env (withCredential env a.user)).user.groups = a.user.groups :=
    by rw [groups_updateUser, groups_withCredential, groups_user]
  have hplan : monthlyQuotaGroup (b.updateUser env (withCredential env a.user)).user =
      monthlyQuotaGroup a.user := by rw [monthlyQuotaGroup, hgroups, monthlyQuotaGroup]
  have hmembership : b.membership = a.membership := by
    rcases hcases with ⟨-, hkept⟩ | ⟨-, hdown⟩
    · exact hkept.membership
    · exact hdown.membership
  have hround : s.round env scope groups a = (some (clientOf
      (b.updateUser env (withCredential env a.user)).user),
      b.updateUser env (withCredential env a.user)) := by
    rw [Store.round, hb, serve_of_renewal h hrenew, clientOf, clientOf,
      proxyUUID_updateUser env b (trimSpace_withCredential env a.user), trimSpace_idem,
      (alike_updateUser env b (v := withCredential env a.user) (email_user a)).email]
  refine lasts_of_settled htime hround ?_ ?_ ?_ ?_
  · refine hsettled.updateUser hemail (groups_withCredential env a.user) ?_
      (alike_withCredential env a.user)
    rcases hcases with ⟨-, hkept⟩ | ⟨-, hdown⟩
    · exact .inl hkept.user
    · exact .inr hdown.free
  · exact inactive_written hnow ((membership_updateUser env b _).trans hmembership) halike hplan
      (updatedAt_updateUser env b _) hinactive
  · rw [s.serves_congr_account scope groups _ env.now (membership_updateUser env b _)
      (profile_updateUser env b _) (quota_updateUser env b _) (resets_updateUser env b _),
      s.serves_congr_user scope groups b env.now halike hplan ?_ ?_]
    · exact h
    · rw [hasSubscriptionUnlimitedOverride, hasSubscriptionUnlimitedOverride, hplan, hgroups,
        halike.active, halike.archivedAt, halike.validFrom, halike.validUntil]
    · rw [accountAccessVerified, accountAccessVerified, hgroups, halike.emailVerified]
  · rw [not_needsRenewal_withCredential, Bool.and_false]

/-- Who is listed, and whose subscription is not over. -/
theorem lasts_of_kept (hkept : a.Kept (reconciled env s a))
    (h : s.serves scope groups a.user (reconciled env s a) env.now = true)
    (hrenew : (isSandbox a.user && needsRenewal a.user env.now) = false) :
    Lasts s env env' scope groups a := by
  refine lasts_of_settled htime ?_ (.reconciled hinactive) ?_ ?_ ?_
  · rw [Store.round, serve_of_serves h hrenew, hkept.user]
  · rw [hkept.user, inactive_congr hkept.membership rfl rfl rfl, hinactive]
  · rw [hkept.user]
    exact h
  · rw [hkept.user]
    exact hrenew

/-- Who is listed, and moved to the Free plan, is listed with it or not. -/
theorem lasts_of_downgraded (hdown : Downgraded env s a (reconciled env s a))
    (h : s.serves scope groups a.user (reconciled env s a) env.now = true)
    (hrenew : (isSandbox a.user && needsRenewal a.user env.now) = false) :
    Lasts s env env' scope groups a ↔
      s.serves scope groups (reconciled env s a).user (reconciled env s a) env.now = true ∧
        inactive s.teams (reconciled env s a) (reconciled env s a).user env.now = false := by
  have hsettled := Settled.reconciled hinactive
  have hround : s.round env scope groups a =
      (some (clientOf (reconciled env s a).user), reconciled env s a) := by
    rw [Store.round, serve_of_serves h hrenew, clientOf, clientOf, hdown.moved.proxyUUID,
      hdown.moved.email]
  constructor
  · intro hlasts
    have hagain := hlasts.again
    rw [hround] at hagain
    have hserves := (hlasts.stored (clientOf (reconciled env s a).user) (by rw [hround]; rfl)).2
    rw [hround] at hserves
    refine ⟨hserves, Bool.eq_false_iff.2 fun harchived => ?_⟩
    rw [← htime] at harchived
    have hnone : (s.round env' scope groups (reconciled env s a)).1 = none := by
      rw [Store.round, serve_of_not_serves (not_serves_of_paused (paused_of_inactive harchived) _)]
    exact Option.some_ne_none _ (hagain.symm.trans hnone)
  · rintro ⟨hserves, hactive⟩
    refine lasts_of_settled htime hround hsettled hactive hserves ?_
    have hmoved := hdown.moved
    rw [isSandbox_alike hmoved.toAlike, needsRenewal, hmoved.proxyUUID, hmoved.proxyUUIDExpiresAt]
    exact hrenew

end

section

variable (htime : env'.now = env.now) (hnow : env.now.isZero = false)

include htime hnow

/-- An account has a client that the next call finds again, or one that it does not find. -/
theorem lasts_or_lost : Lasts s env env' scope groups a ∨
      (s.round env scope groups a).1 ≠ none ∧
        (s.round env' scope groups (s.round env scope groups a).2).1 = none := by
  cases hinactive : inactive s.teams a a.user env.now with
  | true => exact .inl (lasts_of_inactive hinactive)
  | false =>
  cases h : s.serves scope groups a.user (reconciled env s a) env.now with
  | false => exact .inl (lasts_of_not_serves htime hinactive h)
  | true =>
  cases hrenew : (isSandbox a.user && needsRenewal a.user env.now) with
  | true => exact .inl (lasts_of_renewal htime hinactive hnow h hrenew)
  | false =>
  have hsettled := Settled.reconciled hinactive
  rcases reconciled_cases hinactive with ⟨-, hkept⟩ | ⟨-, hdown⟩
  · exact .inl (lasts_of_kept htime hinactive hkept h hrenew)
  have hround : s.round env scope groups a = (some (clientOf a.user), reconciled env s a) := by
    rw [Store.round, serve_of_serves h hrenew]
  by_cases hlasts : Lasts s env env' scope groups a
  · exact .inl hlasts
  rw [lasts_of_downgraded htime hinactive hdown h hrenew, not_and_or, Bool.not_eq_true,
    Bool.not_eq_false] at hlasts
  refine .inr ⟨by rw [hround]; exact Option.some_ne_none _, ?_⟩
  rw [hround]
  rw [← htime] at hlasts hsettled
  rcases hlasts with hserves | harchived
  · exact hsettled.round_eq_none hserves
  · have hpaused : (reconciled env' s (reconciled env s a)).Paused :=
      paused_of_inactive harchived
    rw [Store.round, serve_of_not_serves (not_serves_of_paused hpaused _)]

/-- The client of an account lasts unless it is listed by the plan that the account had. -/
theorem lasts_iff : Lasts s env env' scope groups a ↔ ¬ Stale s scope groups env.now a := by
  cases hinactive : inactive s.teams a a.user env.now with
  | true =>
    refine iff_of_true (lasts_of_inactive hinactive) fun hstale => hstale.paid ?_
    simp only [inactive, Bool.and_eq_true, beq_iff_eq] at hinactive
    exact hinactive.1.1.1.2
  | false =>
  have hcases := reconciled_cases hinactive
  cases h : s.serves scope groups a.user (reconciled env s a) env.now with
  | false =>
    refine iff_of_true (lasts_of_not_serves htime hinactive h) fun hstale => ?_
    rcases hcases with ⟨hdue, -⟩ | ⟨-, hdown⟩
    · exact Bool.eq_false_iff.1 hdue hstale.ended
    · exact Bool.eq_false_iff.1 h ((hdown.serves hstale.paid _).trans hstale.listed)
  | true =>
  cases hrenew : (isSandbox a.user && needsRenewal a.user env.now) with
  | true =>
    exact iff_of_true (lasts_of_renewal htime hinactive hnow h hrenew) fun hstale =>
      Bool.eq_false_iff.1 hstale.kept hrenew
  | false =>
  rcases hcases with ⟨hdue, hkept⟩ | ⟨hdue, hdown⟩
  · exact iff_of_true (lasts_of_kept htime hinactive hkept h hrenew) fun hstale =>
      Bool.eq_false_iff.1 hdue hstale.ended
  rw [lasts_of_downgraded htime hinactive hdown h hrenew]
  by_cases hplan : monthlyQuotaGroup a.user = monthlyFreeQuotaLimitGroup
  · -- On the Free plan already: nothing changes for the user.
    refine iff_of_true ⟨?_, ?_⟩ fun hstale => hstale.paid hplan
    · rw [serves_free hdown.moved.toAlike hplan hdown.moved.plan hdown.moved.verified]
      exact h
    · exact inactive_written hnow hdown.membership hdown.moved.toAlike
        (hdown.moved.plan.trans hplan.symm) hdown.moved.updatedAt hinactive
  · have hmoved := moved_onFreePlan (u := a.user) (fun _ => trimSpace_of_mem_groups) env.now
    have hlisted := (hdown.serves hplan a.user).symm.trans h
    have hfree : s.serves scope groups (reconciled env s a).user (reconciled env s a) env.now =
        s.serves scope groups (onFreePlan a.user env.now) (a.provided s.free env.now) env.now := by
      rw [hdown.serves hplan]
      exact serves_free (hmoved.toAlike.symm.trans hdown.moved.toAlike) hmoved.plan
        hdown.moved.plan (hdown.moved.verified.trans hmoved.verified.symm)
    have hserves := hlisted
    simp only [serves, Bool.and_eq_true, Bool.not_eq_true'] at hserves
    obtain ⟨⟨⟨⟨⟨-, hactive⟩, hblocked⟩, hblacklisted⟩, -⟩, hverified⟩ := hserves
    -- On the Free plan the user is listed if the node is for them and the quota is not used up.
    rw [hfree]
    simp only [serves, hmoved.active, s.blacklisted_alike hmoved.toAlike,
      isSandbox_alike hmoved.toAlike, hmoved.verified, hactive, hblocked, hblacklisted, hverified,
      Bool.not_false, Bool.and_true]
    rw [hdown.inactive hnow hmoved, Bool.and_eq_true, Bool.not_eq_true',
      (kept_provided s.free a env.now).access]
    constructor
    · rintro ⟨⟨hscope, hquota⟩, hactive⟩ hstale
      rcases hstale.lost with hlost | hlost | hlost
      · exact Bool.eq_false_iff.1 hlost hscope
      · exact Bool.eq_false_iff.1 hquota hlost
      · exact Bool.eq_false_iff.1 hactive hlost
    · intro hstale
      by_contra hlost
      rw [not_and_or, not_and_or, Bool.not_eq_true, Bool.not_eq_false, Bool.not_eq_false, or_assoc]
        at hlost
      exact hstale ⟨hplan, hdue, hlisted, hrenew, hlost⟩

end

/-! ## The lists of two calls -/

omit [StableUnicode] [RFC3339] [Mail] in
/-- If two lists are as long as each other, none of the entries was left out. -/
theorem filterMap_eq_of_length {α β : Type} {f g : α → Option β} {l : List α}
    (h : ∀ x ∈ l, g x = f x ∨ g x = none)
    (hlength : (l.filterMap g).length = (l.filterMap f).length) : ∀ x ∈ l, g x = f x := by
  -- Leaving out entries does not make a list longer.
  have hle : ∀ l : List α, (∀ x ∈ l, g x = f x ∨ g x = none) →
      (l.filterMap g).length ≤ (l.filterMap f).length := by
    intro l h
    rw [length_filterMap_eq_countP, length_filterMap_eq_countP]
    refine countP_mono_left fun x hx hsome => ?_
    rcases h x hx with hx | hx
    · rwa [hx] at hsome
    · rw [hx] at hsome
      cases hsome
  induction l with
  | nil => exact fun x hx => absurd hx not_mem_nil
  | cons y l ih =>
    have htail := hle l fun x hx => h x (mem_cons_of_mem _ hx)
    have hy : g y = f y := by
      rcases h y mem_cons_self with hy | hy
      · exact hy
      cases hf : f y with
      | none => exact hy
      | some =>
        rw [filterMap_cons_none hy, filterMap_cons_some hf, length_cons] at hlength
        omega
    have hlength' : (l.filterMap g).length = (l.filterMap f).length := by
      cases hf : f y with
      | none =>
        rwa [filterMap_cons_none (hy.trans hf), filterMap_cons_none hf] at hlength
      | some =>
        rw [filterMap_cons_some (hy.trans hf), filterMap_cons_some hf, length_cons,
          length_cons] at hlength
        omega
    intro x hx
    rcases mem_cons.1 hx with rfl | hx
    · exact hy
    · exact ih (fun x hx => h x (mem_cons_of_mem _ hx)) hlength' x hx

section

variable (s : Store) (env : Env) (scope : UserScope) (groups : List String)

/-- What is stored after a call. -/
def Store.after : Store :=
  { s with accounts := s.accounts.map fun a => (s.round env scope groups a).2 }

/-- The clients of a call. -/
def Store.clients : List Client :=
  (s.accounts.filterMap fun a => (s.round env scope groups a).1).insertionSort
    fun x y => x.id ≤ y.id

end

theorem authorizedAgentClients_eq [Sha256] [ClientCodec] (s : Store) (env : Env)
    (hscope : agentResourceScope groups = some scope) :
    authorizedAgentClients env s groups = .ok (s.clients env scope groups,
        Sha256.hex (ClientCodec.marshal scope (s.clients env scope groups)),
        s.after env scope groups) := by
  have hnetwork : agentNetworkScope groups ≠ none := by
    intro hnone
    rw [agentResourceScope, scopeOf, hnone] at hscope
    cases hscope
  have hserved : zipWith (s.serve env scope groups) (s.accounts.map Account.user)
      (s.accounts.map (reconciled env s)) = s.accounts.map (s.round env scope groups) := by
    rw [zipWith_map, zipWith_self]
    rfl
  rw [authorizedAgentClients, if_neg hnetwork, hscope]
  dsimp only
  rw [hserved, filterMap_map, map_map]
  rfl

/-- A client is entitled to a node by what is stored: its account has the node's class or
    team, it is active and not paused, and its address is not blocked. -/
def Store.Entitled (s : Store) (scope : UserScope) (groups : List String) (client : Client)
    (now : Time) : Prop :=
  ∃ a ∈ s.accounts, clientOf a.user = client ∧
    scopeAdmits scope groups (a.access s.teams now) a.user (billingPackageName a) = true ∧
    a.user.active = true ∧ a.blocked = false ∧ s.blacklisted a.user = false

instance (s : Store) (scope : UserScope) (groups : List String) (client : Client) (now : Time) :
    Decidable (s.Entitled scope groups client now) :=
  inferInstanceAs (Decidable (∃ a ∈ s.accounts, clientOf a.user = client ∧
    scopeAdmits scope groups (a.access s.teams now) a.user (billingPackageName a) = true ∧
    a.user.active = true ∧ a.blocked = false ∧ s.blacklisted a.user = false))

/-- Two calls at the same time return the same clients exactly if every one of them lasts. -/
theorem clients_after_iff (htime : env'.now = env.now) (hnow : env.now.isZero = false) :
    (s.after env scope groups).clients env' scope groups = s.clients env scope groups ↔
      ∀ a ∈ s.accounts, Lasts s env env' scope groups a := by
  have hafter : (s.after env scope groups).clients env' scope groups =
      (s.accounts.filterMap fun a =>
        (s.round env' scope groups (s.round env scope groups a).2).1).insertionSort
          fun x y => x.id ≤ y.id := by
    rw [Store.clients, Store.after, filterMap_map]
    rfl
  rw [hafter, clients]
  constructor
  · intro hsame a ha
    have hlength := congrArg length hsame
    rw [length_insertionSort, length_insertionSort] at hlength
    have hagain := filterMap_eq_of_length (fun a _ => ?_) hlength a ha
    · rcases lasts_or_lost (a := a) htime hnow with hlasts | ⟨hsome, hnone⟩
      · exact hlasts
      · exact absurd (hagain.symm.trans hnone) hsome
    · rcases lasts_or_lost (a := a) htime hnow with hlasts | ⟨-, hnone⟩
      · exact .inl hlasts.again
      · exact .inr hnone
  · intro hlasts
    rw [filterMap_congr fun a ha => (hlasts a ha).again]

/-- Every client that is returned is entitled by what is stored then, and a call at the same
    time returns the same list, exactly if no account is listed by the plan that it had. -/
theorem clients_entitled_iff [Sha256] [ClientCodec] {s s' : Store} {env env' : Env}
    {groups : List String} {scope : UserScope} {clients : List Client} {revision : String}
    (hscope : agentResourceScope groups = some scope)
    (hcall : authorizedAgentClients env s groups = .ok (clients, revision, s'))
    (htime : env'.now = env.now) (hnow : env.now.isZero = false) :
    ((∀ client ∈ clients, s'.Entitled scope groups client env.now) ∧
        ∃ s'', authorizedAgentClients env' s' groups = .ok (clients, revision, s'')) ↔
      ∀ a ∈ s.accounts, ¬ Stale s scope groups env.now a := by
  rw [authorizedAgentClients_eq s env hscope] at hcall
  cases hcall
  simp only [← lasts_iff htime hnow]
  rw [authorizedAgentClients_eq _ env' hscope]
  constructor
  · rintro ⟨-, s'', hagain⟩
    rw [Except.ok.injEq, Prod.mk.injEq] at hagain
    exact (clients_after_iff htime hnow).1 hagain.1
  intro hlasts
  refine ⟨fun client hclient => ?_, ?_⟩
  · -- The clients that last are entitled.
    rw [clients, mem_insertionSort, mem_filterMap] at hclient
    obtain ⟨a, ha, hround⟩ := hclient
    obtain ⟨hsame, hserves⟩ := (hlasts a ha).stored client hround
    simp only [serves, Bool.and_eq_true, Bool.not_eq_true'] at hserves
    obtain ⟨⟨⟨⟨⟨hscope, hactive⟩, hblocked⟩, hblacklisted⟩, -⟩, -⟩ := hserves
    exact ⟨_, mem_map_of_mem ha, hsame, hscope, hactive, hblocked, hblacklisted⟩
  · rw [(clients_after_iff htime hnow).2 hlasts]
    exact ⟨_, rfl⟩

end

/-! ## An account that is listed by the plan that it had -/

namespace ClientsSample

local instance : StableUnicode := StableUnicode.ascii
local instance : Mail := ⟨some, fun _ => "", fun _ => none⟩
local instance : Sha256 := ⟨id⟩
local instance : RFC3339 := ⟨fun _ => none⟩
local instance : ClientCodec := ⟨fun _ _ => "", fun _ _ => ""⟩

/-- A user of the Plus plan, until the tenth day. -/
def row : UserRow :=
  { UserRow.sample "ann" "ann@example.com" monthlyPlusQuotaLimitGroup "a1" with
    subscriptionValidUntil := some (Time.unix (10 * 86400))
    lastActiveAt := some (Time.unix (9 * 86400)) }

def store : Store where
  accounts := [{
    id := "ann"
    row := row
    quota := some { accountUUID := "ann", remainingIncludedQuota := 1000 }
    profile := some ⟨"plus", 2000, "plan:PLUS"⟩
    issued := by decide
    tidy := by decide }]
  evidence := { finance := .init [] ∅, referrals := .init ∅ }
  freePlan := none
  blacklist := []
  teams := []

/-- The groups of a node for the Plus plan. -/
def groups : List String := ["resource:plus"]

theorem scope_groups : agentResourceScope groups = some { resourceClass := .plus } := by
  decide +kernel

/-- On the twelfth day, the account is listed though it is moved to the Free plan: what is
    stored does not entitle it, and the next call does not return it. -/
theorem expired_is_listed : let env := Env.sample (Time.unix (12 * 86400))
    ∃ client revision s', authorizedAgentClients env store groups = .ok ([client], revision, s') ∧
      ¬ s'.Entitled { resourceClass := .plus } groups client env.now ∧
      ∃ revision' s'', authorizedAgentClients env s' groups = .ok ([], revision', s'') := by
  intro env
  have hclients : store.clients env { resourceClass := .plus } groups =
      [{ id := "a1", email := "ann@example.com" }] := by decide +kernel
  have hagain : (store.after env { resourceClass := .plus } groups).clients env
      { resourceClass := .plus } groups = [] := by decide +kernel
  have hcall := authorizedAgentClients_eq store env scope_groups
  have hcall' := authorizedAgentClients_eq (store.after env { resourceClass := .plus } groups) env
    scope_groups
  rw [hclients] at hcall
  rw [hagain] at hcall'
  exact ⟨_, _, _, hcall, by decide +kernel, _, _, hcall'⟩

/-- On the fifth day, the account is listed by the plan that it has. -/
theorem clients_entitled_iff_paid : let env := Env.sample (Time.unix (5 * 86400))
    ∃ client revision s', authorizedAgentClients env store groups = .ok ([client], revision, s') ∧
      s'.Entitled { resourceClass := .plus } groups client env.now ∧
      ∃ s'', authorizedAgentClients env s' groups = .ok ([client], revision, s'') := by
  intro env
  have hclients : store.clients env { resourceClass := .plus } groups =
      [{ id := "a1", email := "ann@example.com" }] := by decide +kernel
  have hcall := authorizedAgentClients_eq store env scope_groups
  rw [hclients] at hcall
  have hdue : ∀ a ∈ store.accounts, store.due a a.user env.now = false := by decide +kernel
  obtain ⟨hentitled, hagain⟩ := (clients_entitled_iff scope_groups hcall rfl (by decide)).2
    fun a ha hstale => Bool.eq_false_iff.1 (hdue a ha) hstale.ended
  exact ⟨_, _, _, hcall, hentitled _ mem_cons_self, hagain⟩

end ClientsSample

end Accounts.Agents

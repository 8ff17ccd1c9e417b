import Accounts.Agents.Reconcile
import Accounts.Subscriptions.Entitlement

/-!
# The sweep over the accounts

Every minute, the access of the accounts is reconciled with their subscriptions
(`reconcileSubscriptionAccessAt`, in `api/subscription_validity.go`). Which accounts are moved to
the Free plan is said in terms of their subscriptions, in whatever order they are listed
(`Store.Due`): there is a reason, and nothing entitles the account any more (`Store.due_iff`).

A second sweep at the same time finds the books in order (`Settled.reconcile`). But if the account
is still due, the user is written again (`reconcile_twice_iff`): the version of the row goes up,
and the groups may get another order.
-/

namespace Accounts.Agents

open Calendar Quota Subscriptions Users Store

section

variable [Unicode] [RFC3339]

/-- Why an account may lose its access: a validity that was given to it is over, or the grace for
    a payment, or a subscription. -/
def Store.Reason (s : Store) (a : Account) (user : User) (now : Time) : Prop :=
  (∃ stop, user.subscriptionValidUntil = some stop ∧ endOfDay stop ≤ now) ∨
    paymentGraceExpired a.quota now = true ∨
    ∃ sub ∈ a.subscriptions, sub.Over (subscriptionEffectivePeriodEnd s.evidence sub) now

/-- A validity that was given to the user holds. -/
def ValidityHolds (user : User) (now : Time) : Prop :=
  ∃ stop, user.subscriptionValidUntil = some stop ∧ now < endOfDay stop ∧
    ∀ start, user.subscriptionValidFrom = some start → start ≤ now

/-- An account loses its access: there is a reason, no subscription entitles it, and no validity
    that was given to it holds. -/
structure Store.Due (s : Store) (a : Account) (user : User) (now : Time) : Prop where
  reason : s.Reason a user now
  entitled : ∀ sub ∈ a.subscriptions,
    ¬ sub.Entitles a.quota (subscriptionEffectivePeriodEnd s.evidence sub) now
  validity : ¬ ValidityHolds user now

omit [Unicode] [RFC3339] in
theorem subscriptionValidityActive_iff {account : Subscriptions.Account} {user : User}
    (hfrom : account.validFrom = user.subscriptionValidFrom)
    (huntil : account.validUntil = user.subscriptionValidUntil) (now : Time) :
    subscriptionValidityActive account now = true ↔ ValidityHolds user now := by
  rw [subscriptionValidityActive, Option.any_eq_true, hfrom, huntil]
  refine exists_congr fun stop => and_congr_right fun _ => ?_
  rw [Bool.and_eq_true, decide_eq_true_eq, Bool.not_eq_true', Bool.eq_false_iff, ne_eq,
    Option.any_eq_true, and_comm, not_exists]
  refine and_congr_right fun _ => forall_congr' fun start => ?_
  rw [decide_eq_true_eq, not_and, not_lt]

/-- The decision is made for this reason, in whatever order the subscriptions are listed. -/
theorem Store.due_iff (s : Store) (a : Account) (user : User) (now : Time) :
    s.due a user now = true ↔ s.Due a user now := by
  rw [due, downgrades_iff, List.any_eq_false, Bool.eq_false_iff, ne_eq,
    subscriptionValidityActive_iff rfl rfl, subscriptionValidityExpired, Option.any_eq_true]
  simp only [Subscription.keeps, beq_iff_eq, standing_eq_runs_iff, decide_eq_true_eq]
  constructor
  · rintro ⟨hnone, hinvalid, hreason⟩
    refine ⟨?_, hnone, hinvalid⟩
    rcases hreason with h | h | ⟨sub, hsub, h⟩
    · exact .inl h
    · exact .inr (.inl h)
    · rcases (standing_ne_silent_iff (hnone sub hsub)).1 h with hover | ⟨-, -, hgrace⟩
      · exact .inr (.inr ⟨sub, hsub, hover⟩)
      · exact .inr (.inl hgrace)
  · rintro ⟨hreason, hnone, hinvalid⟩
    refine ⟨hnone, hinvalid, ?_⟩
    rcases hreason with h | h | ⟨sub, hsub, h⟩
    · exact .inl h
    · exact .inr (.inl h)
    · exact .inr (.inr ⟨sub, hsub, (standing_ne_silent_iff (hnone sub hsub)).2 (.inl h)⟩)

end

/-! ## A second sweep -/

section

variable [StableUnicode] [RFC3339] {env : Env} {s : Store} {a : Account}

/-- The account is due again: it has the Free plan already, or it is due without its arrears. -/
def Store.DueAgain (s : Store) (a : Account) (now : Time) : Prop :=
  alreadyDowngraded s.free a.profile (a.refreshed a.user now).quota (naturalMonth now) = true ∨
    s.Due { a with quota := none } a.user now

theorem due_again_iff (hdue : s.due a a.user env.now = true) :
    s.due (reconcileSubscriptionAccessAt env s a a.user)
      (reconcileSubscriptionAccessAt env s a a.user).user env.now = true ↔
        s.DueAgain a env.now := by
  have hdown := reconcile_due hdue
  have hquota := hdown.quota
  simp only [Account.provided, expireReset_eq_self (expired_refreshed a a.user env.now),
    profile_refreshed] at hquota
  rw [Store.DueAgain, ← due_iff]
  by_cases hfree : alreadyDowngraded s.free a.profile (a.refreshed a.user env.now).quota
      (naturalMonth env.now) = true
  · rw [if_pos hfree] at hquota
    rw [s.due_congr env.now hdown.moved.toAlike
      ((congrArg arrearsSince hquota).trans (arrearsSince_refreshed ..)) hdown.subscriptions]
    exact iff_of_true hdue (.inl hfree)
  -- The arrears of an account that is moved to the Free plan are forgotten.
  rw [if_neg hfree] at hquota
  have harrears := congrArg arrearsSince hquota
  rw [s.due_congr (a := { a with quota := none }) (u := a.user) env.now hdown.moved.toAlike
    (by simpa [arrearsSince, AccountQuotaState.downgraded, AccountQuotaState.stored] using harrears)
    hdown.subscriptions]
  exact (or_iff_right hfree).symm

/-- The user of an account that is due is written, whatever the row has already. -/
theorem version_lt_of_due (hdue : s.due a a.user env.now = true) :
    a.row.version < (reconcileSubscriptionAccessAt env s a a.user).row.version := by
  have hdown : ∀ b : Account, (downgradeToFreePlan env s b).row.version = b.row.version + 1 := by
    intro b
    rw [downgradeToFreePlan, (kept_provided _ _ _).row]
    rfl
  rw [reconcileSubscriptionAccessAt]
  simp only [due_refreshed, hdue, if_true]
  rw [← (kept_refreshed a a.user env.now).row]
  split_ifs
  · rw [hdown]
    exact (Int.lt_succ _).trans (Int.lt_succ _)
  · rw [hdown]
    exact Int.lt_succ _

/-- An account is moved to the Free plan exactly if it is due, and otherwise its quota state is
    read. Doing it a second time at the same time changes nothing, unless it was due and is due
    again. -/
theorem reconcile_twice_iff (env : Env) (s : Store) (a : Account) :
    ((s.Due a a.user env.now → Downgraded env s a (reconcileSubscriptionAccessAt env s a a.user)) ∧
      (¬ s.Due a a.user env.now →
        reconcileSubscriptionAccessAt env s a a.user = a.refreshed a.user env.now) ∧
      reconcileSubscriptionAccessAt env s (reconcileSubscriptionAccessAt env s a a.user)
        (reconcileSubscriptionAccessAt env s a a.user).user =
          reconcileSubscriptionAccessAt env s a a.user) ↔
      ¬ (s.Due a a.user env.now ∧ s.DueAgain a env.now) := by
  rw [← due_iff]
  constructor
  · rintro ⟨-, -, hsame⟩ ⟨hdue, hagain⟩
    have hlt := version_lt_of_due ((due_again_iff hdue).2 hagain)
    rw [hsame] at hlt
    exact lt_irrefl _ hlt
  · intro h
    refine ⟨reconcile_due, fun hdue => reconcile_not_due (Bool.eq_false_iff.2 hdue), ?_⟩
    have hsettled := Settled.reconcile env s a
    rw [reconcile_not_due (Bool.eq_false_iff.2 fun hafter => ?_),
      refreshed_eq_self hsettled.expired hsettled.renewed]
    cases hdue : s.due a a.user env.now with
    | true => exact h ⟨hdue, (due_again_iff hdue).1 hafter⟩
    | false =>
      rw [reconcile_not_due hdue, (kept_refreshed a a.user env.now).user, due_refreshed, hdue]
        at hafter
      cases hafter

end

/-! ## An account of the Free plan -/

namespace SweepSample

local instance : StableUnicode := StableUnicode.ascii
local instance : RFC3339 := ⟨fun _ => none⟩

/-- A user of the Free plan, whose subscription ended when it was cancelled. -/
def account : Account where
  id := "bob"
  row := .sample "bob" "bob@example.com" monthlyFreeQuotaLimitGroup "b1"
  subscriptions :=
    [{ id := "sub"
       provider := "stripe"
       kind := "subscription"
       status := "canceled"
       cancelledAt := some (Time.unix 0) }]
  issued := (by decide : Text.trimSpace "b1" ≠ "")
  tidy := (by decide : ∀ g ∈ [monthlyFreeQuotaLimitGroup], Text.trimSpace g = g)

def store : Store where
  accounts := [account]
  evidence := { finance := .init [] ∅, referrals := .init ∅ }
  freePlan := none
  blacklist := []
  teams := []

/-- The second sweep at the same time writes the user again, with another order of the groups. -/
theorem second_sweep_writes : let env := Env.sample (Time.unix 86400)
    let once := reconcileSubscriptionAccessAt env store account account.user
    let twice := reconcileSubscriptionAccessAt env store once once.user
    (once.row.version, once.row.groups) = (1, [monthlyFreeQuotaLimitGroup, "segment:free"]) ∧
      (twice.row.version, twice.row.groups) =
        (2, ["segment:free", monthlyFreeQuotaLimitGroup]) ∧ twice ≠ once := by
  intro env once twice
  have honce : (once.row.version, once.row.groups) =
    (1, [monthlyFreeQuotaLimitGroup, "segment:free"]) := by decide +kernel
  have htwice : (twice.row.version, twice.row.groups) =
    (2, ["segment:free", monthlyFreeQuotaLimitGroup]) := by decide +kernel
  refine ⟨honce, htwice, fun h => ?_⟩
  rw [h, honce] at htwice
  exact absurd htwice (by decide)

end SweepSample

end Accounts.Agents

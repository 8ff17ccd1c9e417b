import Accounts.Agents.Entitlement
import Accounts.Base.Calendar
import Accounts.Quota.Balance
import Accounts.Subscriptions.Access
import Accounts.Users.Store

/-!
# The clients of a node

A node asks who may use it (`authorizedAgentClients`, in `api/agent_server.go`). The call
reads all users. In a first pass it archives those of the Free plan who were not active for a
long time, and moves those whose subscription is over to the Free plan. In a second pass it
lists the users that the node is for.

The second pass looks at the users as they were read at the beginning, not as the first pass
left them. The other tables it reads as they are (`Store.serve`).

An account consists of what the tables have about it. What the functions change of it besides
the row of the user is the billing profile and the quota state (`Account.Kept`).
-/

namespace Accounts.Agents

open Calendar Quota Subscriptions Users Text

/-! ## Accounts -/

/-- What the tables have about an account: the rows of the user, the quota state, the billing
    profile, the subscriptions and the team; what is left in the month after a period that
    was reset by an administrator, and the traffic of a period. Every user has a credential
    for the nodes, and groups are written without white space around them. -/
structure Account where
  id : String
  row : UserRow
  quota : Option AccountQuotaState := none
  profile : Option AccountBillingProfile := none
  subscriptions : List Subscription := []
  membership : NetworkMembership := {}
  resets : Period → Option Int64 := fun _ => none
  usage : Period → Int := fun _ => 0
  issued : trimSpace row.proxyUUID ≠ ""
  tidy : ∀ g ∈ row.groups, trimSpace g = g

/-- The tables: the accounts in the order of their creation, the evidence of payments, the
    Free plan, the addresses that are blocked, and the teams. -/
structure Store where
  accounts : List Account
  evidence : Evidence
  freePlan : Option BillingPlan
  blacklist : List String
  teams : List NetworkTeam

/-- A client of a node. -/
structure Client where
  id : String
  email : String
  flow : String := "xtls-rprx-vision"
  expiresAt : Option Time := none
  deriving DecidableEq

/-- How the revision of a list of clients is written, and that of a part of it (JSON). No
    proof depends on it. -/
class ClientCodec where
  marshal : UserScope → List Client → String
  marshalPart : String → List Client → String

/-- Why there is no list. -/
inductive ScopeError
  | network
  | resource
  | customEmails
  deriving DecidableEq

def sandboxUserEmail : String := "sandbox@svc.plus"

def sandboxUUIDRotationWindow : Int := Time.hour

def emailOptionalRegistrationGroup : String := "account:registration:email-optional"

def subscriptionUnlimitedOverrideGroup : String := "segment:subscription:unlimited"

def defaultFreeQuotaBytes : Int64 := 5 * 1024 * 1024 * 1024

section

variable [Unicode]

/-- The user of an account, as it is read. -/
def Account.user (a : Account) : User := scanUser a.id a.row

/-- The identifier that a user has after a write. -/
theorem trimSpace_preparedUser (env : Env) (user : User) :
    trimSpace (preparedUser env user).proxyUUID ≠ "" := by
  simp only [preparedUser, normalizeUserRoleFields]
  split_ifs with h
  · rw [env.uuid.trimmed]
    exact env.uuid.nonempty
  · exact h

/-- All columns of a user are written. The name and the address are those that were read, so
    that no index refuses them. -/
def Account.updateUser (env : Env) (a : Account) (user : User) : Account :=
  { a with
    row := writtenRow env (preparedUser env user) a.row
    issued := trimSpace_preparedUser env user
    tidy := fun _ hg => (mem_normalizeStringSlice.1 hg).2.elim fun v hv =>
      hv.2 ▸ trimSpace_idem v }

/-! ## Quota -/

section

omit [Unicode]

/-- The state of a month that begins, with the quota that is left. -/
def renewedState (q : AccountQuotaState) (left : Int64) (now : Time) : AccountQuotaState :=
  { q with
    remainingIncludedQuota := left
    periodStart := some (naturalMonth now).1
    periodEnd := some (naturalMonth now).2
    effectiveAt := now }

variable (a : Account)

/-- The quota that is left in the month after a period that was reset by an administrator, if
    the period is over. -/
def Account.resetLeft (q : AccountQuotaState) (now : Time) : Option Int64 := do
  let start ← q.periodStart
  let stop ← q.periodEnd
  if now < stop then none else a.resets (start, stop)

/-- Reading a quota state ends a period that was reset by an administrator
    (`GetAccountQuotaState`). -/
def Account.expireReset (now : Time) : Account :=
  match a.quota with
  | none => a
  | some q => match a.resetLeft q now with
    | none => a
    | some left => { a with quota := some (renewedState q left now) }

/-- The quota of the Free plan that is left in a month, if the period of the state is over
    (`ResetFreeQuotaPeriod`). -/
def Account.freeLeft (q : AccountQuotaState) (now : Time) : Option Int64 := do
  let p ← a.profile
  if monthlyFreeQuotaLimitGroup ∉ a.row.groups ∨ p.pricingRuleVersion ≠ "plan:FREE" then none
  else if ∃ stop ∈ q.periodEnd, now < stop ∨ (naturalMonth now).1 < stop then none
  else some (Int64.ofInt (max 0 (p.includedQuotaBytes.toInt - a.usage (naturalMonth now))))

end

section

variable (a : Account) (user : User) (now : Time)

/-- A new month of the Free plan begins (`ensureFreeQuotaPeriod`). -/
def Account.ensureFreeQuotaPeriod : Account :=
  if monthlyQuotaGroup user ≠ monthlyFreeQuotaLimitGroup then a
  else match a.quota with
    | none => a
    | some q => match a.freeLeft q now with
      | none => a
      | some left => { a with quota := some (renewedState q left now) }

/-- The quota state is read, after a new month has begun. -/
def Account.refreshed : Account :=
  (a.ensureFreeQuotaPeriod user now).expireReset now

end

omit [Unicode] in
/-- The user has paid for a plan without limit. -/
def hasSubscriptionUnlimitedOverride (user : User) (now : Time) : Bool :=
  user.active && user.archivedAt.isNone &&
    !user.subscriptionValidFrom.any (fun start => decide (now < start)) &&
    !user.subscriptionValidUntil.any (fun stop => decide (endOfDay stop ≤ now)) &&
    user.groups.contains subscriptionListedGroup &&
    user.groups.contains subscriptionUnlimitedOverrideGroup &&
    (["segment:monthly", "segment:yearly", "segment:subscription:monthly",
      "segment:subscription:yearly"].any user.groups.contains) &&
    monthlyQuotaGroup user == monthlyPlusQuotaLimitGroup

omit [Unicode] in
def isMonthlyQuotaLimitMember (user : User) (now : Time) : Bool :=
  !hasSubscriptionUnlimitedOverride user now &&
    (monthlyQuotaGroup user == monthlyFreeQuotaLimitGroup ||
      monthlyQuotaGroup user == monthlyPlusQuotaLimitGroup)

omit [Unicode] in
/-- The quota of a user is used up. -/
def quotaExhaustedForUser (a : Account) (user : User) (now : Time) : Bool :=
  isMonthlyQuotaLimitMember user now && a.profile.any fun p => decide (0 < p.includedQuotaBytes) &&
      (a.expireReset now).quota.all fun q => decide (q.remainingIncludedQuota ≤ 0)

/-! ## The first pass -/

omit [Unicode] in
/-- The access of an account to networks. -/
def Account.access (teams : List NetworkTeam) (a : Account) (now : Time) : NetworkAccess :=
  accessFromNetworkMembership a.membership teams now

omit [Unicode] in
def freeAccountArchiveAfter : Int := 100 * 24 * Time.hour

omit [Unicode] in
/-- A user of the Free plan was not active for long, and is not a member of a team. -/
def inactive (teams : List NetworkTeam) (a : Account) (user : User) (now : Time) : Bool :=
  user.active && monthlyQuotaGroup user == monthlyFreeQuotaLimitGroup &&
    !(userLastActivity user).isZero &&
    decide (freeAccountArchiveAfter ≤ now - userLastActivity user) &&
    !((a.access teams now).mode = .dedicated && (a.access teams now).allowed)

omit [Unicode] in
/-- The quota state of an account whose access is paused. -/
def Account.paused (a : Account) (now : Time) : Account :=
  let a := a.expireReset now
  { a with
    quota := some ({ a.quota.getD
        { accountUUID := a.id
          throttleState := "normal"
          suspendState := "active" } with
      proxyAccessState := "paused" }).stored }

/-- Archiving a user (`archiveInactiveFreeUser`): the account, and the copy of the user. -/
def archiveInactiveFreeUser (env : Env) (teams : List NetworkTeam) (a : Account) (user : User) :
    Account × User :=
  if inactive teams a user env.now then
    let user := { user with active := false, archivedAt := some env.now }
    ((a.updateUser env user).paused env.now, user)
  else (a, user)

section

omit [Unicode]

/-- The Free plan, or what it is by default. -/
def Store.free (s : Store) : BillingPlan :=
  s.freePlan.getD ⟨"default", defaultFreeQuotaBytes⟩

/-- The billing profile of the Free plan (`applyPlanEntitlements`). -/
def freeProfile (plan : BillingPlan) : AccountBillingProfile where
  packageName := if trimSpace plan.packageName = "" then "default"
    else trimSpace plan.packageName
  includedQuotaBytes := plan.includedQuotaBytes
  pricingRuleVersion := "plan:FREE"

/-- The billing profile and the quota state of the Free plan. -/
def Account.provided (plan : BillingPlan) (a : Account) (now : Time) : Account :=
  let a := a.expireReset now
  let month := naturalMonth now
  if alreadyDowngraded plan a.profile a.quota month then a
  else
    { a with
      profile := some (freeProfile plan)
      quota := some ((a.quota.getD { accountUUID := a.id }).downgraded
        (remainingAfterDowngrade plan a.profile a.quota month) month now).stored }

end

/-- The groups that are given up in a downgrade. -/
def downgradedGroups : List String :=
  [monthlyFreeQuotaLimitGroup, monthlyPlusQuotaLimitGroup, monthlyUnlimitedBetaQuotaGroup,
    subscriptionListedGroup, "segment:subscribed", "segment:monthly", "segment:yearly",
    "segment:subscription:monthly", "segment:subscription:yearly"]

/-- An account is moved to the Free plan (`downgradeToFreePlan`). -/
def downgradeToFreePlan (env : Env) (s : Store) (a : Account) : Account :=
  (a.updateUser env
    { a.user with groups := freePlanGroups downgradedGroups a.user.groups }).provided s.free env.now

/-- The groups that are given up before that. -/
def expiredGroups : List String :=
  [monthlyFreeQuotaLimitGroup, monthlyPlusQuotaLimitGroup, monthlyUnlimitedBetaQuotaGroup,
    "segment:subscribed", "segment:monthly", "segment:yearly"]

variable [RFC3339]

/-- The subscription of an account is over. -/
def Store.due (s : Store) (a : Account) (user : User) (now : Time) : Bool :=
  downgrades s.evidence
    { validFrom := user.subscriptionValidFrom
      validUntil := user.subscriptionValidUntil
      quota := a.quota
      subscriptions := a.subscriptions } now

section

variable (env : Env) (s : Store) (a : Account)

/-- The access of an account is reconciled with its subscriptions
    (`reconcileSubscriptionAccessAt`). -/
def reconcileSubscriptionAccessAt (user : User) : Account :=
  let a := a.refreshed user env.now
  if s.due a user env.now then
    if monthlyQuotaGroup user ≠ monthlyFreeQuotaLimitGroup then
      downgradeToFreePlan env s (a.updateUser env
        { user with groups := freePlanGroups expiredGroups user.groups })
    else downgradeToFreePlan env s a
  else a

/-- What the first pass does to an account. -/
def reconciled : Account :=
  let (a, user) := archiveInactiveFreeUser env s.teams a a.user
  reconcileSubscriptionAccessAt env s a user

end

/-! ## The second pass -/

omit [RFC3339] in
/-- The package of an account. -/
def billingPackageName (a : Account) : String :=
  (a.profile.map fun p => toLower (trimSpace p.packageName)).getD ""

omit [Unicode] [RFC3339] in
/-- The access of an account to the nodes is paused, or the account is suspended
    (`ListProxyBlockedAccountUUIDs`). -/
def Account.blocked (a : Account) : Bool :=
  a.quota.any fun q => q.suspendState == "suspended" || q.proxyAccessState == "paused"

omit [RFC3339] in
/-- The address of a user is blocked. -/
def Store.blacklisted (s : Store) (user : User) : Bool :=
  (s.blacklist.map fun email => toLower (trimSpace email)).contains (toLower (trimSpace user.email))

omit [Unicode] [RFC3339] in
/-- The user has confirmed an address, or need not. -/
def accountAccessVerified (user : User) : Bool :=
  user.emailVerified || user.groups.contains emailOptionalRegistrationGroup

omit [RFC3339] in
/-- The user is the one of the demonstration. -/
def isSandbox (user : User) : Bool :=
  toLower (trimSpace user.email) == sandboxUserEmail

omit [Unicode] [RFC3339] in
/-- The credential of the demonstration is too old. -/
def needsRenewal (user : User) (now : Time) : Bool :=
  trimSpace user.proxyUUID == "" || user.proxyUUIDExpiresAt.all fun t => decide (t ≤ now)

omit [Unicode] [RFC3339] in
/-- The user of the demonstration with a new credential. -/
def withCredential (env : Env) (user : User) : User :=
  { user with
    proxyUUID := env.uuid.val
    proxyUUIDExpiresAt := some (env.now + sandboxUUIDRotationWindow) }

omit [RFC3339] in
/-- The client of a user. -/
def clientOf (user : User) : Client where
  id := trimSpace user.proxyUUID
  email := toLower (trimSpace user.email)

variable [Mail]

omit [RFC3339] in
/-- The checks of the loop for a copy of a user, and their account. -/
def Store.serves (s : Store) (scope : UserScope) (groups : List String) (user : User) (a : Account)
    (now : Time) : Bool :=
  scopeAdmits scope groups (a.access s.teams now) user (billingPackageName a) && user.active &&
    !a.blocked && !s.blacklisted user && !quotaExhaustedForUser a user now &&
    (isSandbox user || accountAccessVerified user)

omit [RFC3339] in
/-- One round of the loop: the client of the user, if any, and the account. The credential of
    the demonstration is renewed, and its user written back as it was read. -/
def Store.serve (s : Store) (env : Env) (scope : UserScope) (groups : List String) (user : User)
    (a : Account) : Option Client × Account :=
  if ¬ s.serves scope groups user a env.now then (none, a)
  else if isSandbox user && needsRenewal user env.now then
    (some (clientOf (withCredential env user)), a.updateUser env (withCredential env user))
  else if trimSpace user.proxyUUID = "" then (none, a)
  else (some (clientOf user), a)

variable [Sha256] [ClientCodec]

/-- The clients of a node with the groups, the revision of the list, and the tables afterwards. -/
def authorizedAgentClients (env : Env) (s : Store) (groups : List String) :
    Except ScopeError (List Client × String × Store) :=
  if agentNetworkScope groups = none then .error .network else
  match agentResourceScope groups with
  | none => .error .resource
  | some scope =>
    let users := s.accounts.map Account.user
    let accounts := s.accounts.map (reconciled env s)
    let served := List.zipWith (s.serve env scope groups) users accounts
    let clients := (served.filterMap Prod.fst).insertionSort fun x y => x.id ≤ y.id
    .ok (clients, Sha256.hex (ClientCodec.marshal scope clients),
      { s with accounts := served.map Prod.snd })

end

end Accounts.Agents

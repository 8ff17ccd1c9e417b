import Accounts.Agents.Scope
import Accounts.Users.User

/-!
# Who may use a node

A node has a scope (`Agents.Scope`), and a user has an access to networks and a plan. A user
of a team may use the nodes of that team, and no others (`networkScopeAllows`). Everybody
else may use the public nodes, according to the class that their plan gives them
(`effectiveAgentResourceClass`): the higher classes have the nodes of the lower ones, too
(`agentResourceScopeAllowsUser`, in `api/network_access.go`). Besides, a node may name users
by their email address, and a user of the Free plan may have a grant for a node that is
valid for some days (`activeAgentFreeGrant`).

What the Free plan has, every plan has (`agentResourceScopeAllowsUser_of_free`).
-/

namespace Accounts.Agents

open Text

/-! ## Access to networks -/

inductive NetworkMode
  | personal
  | dedicated
  deriving DecidableEq

/-- A team, with the time its nodes may be used. -/
structure NetworkTeam where
  id : String
  validFrom : Time
  validUntil : Time
  active : Bool
  deriving DecidableEq

/-- The team of a user. A user who was taken out of a team may be left without one, and
    still be dedicated. -/
structure NetworkMembership where
  teamID : String := ""
  dedicatedOnly : Bool := false
  deriving DecidableEq

/-- What a user has access to: the public nodes, or those of a team. -/
structure NetworkAccess where
  mode : NetworkMode
  teamID : String := ""
  allowed : Bool
  deriving DecidableEq

/-- The access of a user, by their membership. -/
def accessFromNetworkMembership (member : NetworkMembership) (teams : List NetworkTeam)
    (now : Time) : NetworkAccess :=
  if ¬ member.dedicatedOnly ∧ member.teamID = "" then { mode := .personal, allowed := true }
  else
    { mode := .dedicated
      teamID := member.teamID
      allowed := (teams.find? (·.id == member.teamID)).any fun team =>
        team.active && decide (team.validFrom ≤ now) && decide (now < team.validUntil) }

/-! ## Classes of users -/

section

variable [Unicode]

/-- The class of a user: that of a team, or of the plan. -/
def effectiveAgentResourceClass (access : NetworkAccess) (user : User) (packageName : String) :
    ResourceClass :=
  if access.mode = .dedicated then .team
  else
    let paid := monthlyQuotaGroup user = monthlyPlusQuotaLimitGroup ∨
      monthlyQuotaGroup user = monthlyUnlimitedBetaQuotaGroup
    if equalFold (trimSpace packageName) "pro" ∧ paid then .pro
    else if paid then .plus
    else .free

omit [Unicode] in
/-- The order of the public classes. -/
def ResourceClass.rank : ResourceClass → Option Nat
  | .free => some 1
  | .plus => some 2
  | .pro => some 3
  | _ => none

omit [Unicode] in
/-- A user has the pools of their class, and of the lower ones. -/
def publicAgentResourceClassAllows (poolClass userClass : ResourceClass) : Bool :=
  match userClass.rank with
  | none => false
  | some userRank =>
    if poolClass = .shared then true
    else poolClass.rank.any fun poolRank => decide (poolRank ≤ userRank)

/-- A node of the scope is for the user. -/
def agentResourceScopeAllowsUser (scope : UserScope) (access : NetworkAccess) (user : User)
    (packageName : String) : Bool :=
  if scope.resourceClass = .team then
    access.mode = .dedicated && access.teamID == scope.teamID
  else if access.mode = .dedicated then false
  else
    let c := effectiveAgentResourceClass access user packageName
    if scope.resourceClass = .custom then
      c = .plus || c = .pro || (scope.customAllowFree && c = .free)
    else publicAgentResourceClassAllows scope.resourceClass c

/-- A node of the groups is in the network of the user. -/
def networkScopeAllows (access : NetworkAccess) (groups : List String) : Bool :=
  match agentNetworkScope groups with
  | none => false
  | some team =>
    access.allowed && match access.mode with
      | .dedicated => access.teamID != "" && team == access.teamID
      | .personal => team == ""

/-! ## Addresses -/

/-- The address is one of a list. An empty list has them all. -/
def agentEmailAllowed (emails : List String) (email : String) : Bool :=
  emails.isEmpty || emails.any fun e =>
    equalFold (trimSpace e) (trimSpace email) && trimSpace e != ""

/-- The groups of a node name the address of a user. -/
def publicUnionEmailMatches [Mail] (groups : List String) (email : String) : Bool :=
  !(publicUnionEmails groups).isEmpty && agentEmailAllowed (publicUnionEmails groups) email

section

variable (scope : UserScope) (groups : List String) (access : NetworkAccess) (user : User)

/-- The node names a user of another class, who is not one of a team. -/
def publicEmailOverride [Mail] : Bool :=
  scope.resourceClass.isPublic && access.mode ≠ .dedicated &&
    publicUnionEmailMatches groups user.email

/-- The first two checks of the loop that lists the clients of a node. -/
def scopeAdmits [Mail] (packageName : String) : Bool :=
  networkScopeAllows access groups && (agentResourceScopeAllowsUser scope access user packageName ||
      publicEmailOverride scope groups access user)

end

/-! ## Grants -/

inductive GrantStatus
  | active
  | revoked
  deriving DecidableEq

/-- A grant to a user of the Free plan, for a node. -/
structure AgentFreeGrant where
  nodeID : String
  accountID : String
  status : String
  expiresAt : Time
  createdAt : Time
  updatedAt : Time

/-- How a grant is read from the text of a group (base64 and JSON). No proof depends on it. -/
class GrantCodec where
  decode : String → Option AgentFreeGrant

def agentFreeGrantGroupPrefix : String := "agent:free-grant:"

def maxAgentFreeGrantTTL : Int := 120 * Time.hour

omit [Unicode] in
/-- The name of a node that a grant may be for. -/
def validAgentFreeGrantNodeID (nodeID : String) : Bool :=
  let nodeID := trimSpace nodeID
  nodeID != "" && nodeID != "*" && decide (nodeID.utf8ByteSize ≤ 128) &&
    !containsAny nodeID ": /\t\r\n"

/-- The status of a grant, if it is one of the two. -/
def GrantStatus.parse (status : String) : Option GrantStatus :=
  let status := toLower (trimSpace status)
  if status = "active" then some .active else if status = "revoked" then some .revoked else none

/-- A grant that is read from a group: its status, and its end. A grant that was tampered
    with is none. -/
def parseAgentFreeGrantGroup [GrantCodec] (raw accountID : String) : Option (GrantStatus × Time) :=
  let rest := trimPrefix (trimSpace raw) agentFreeGrantGroupPrefix
  let nodeID := String.ofList (rest.toList.takeWhile (· ≠ ':'))
  let encoded := String.ofList ((rest.toList.dropWhile (· ≠ ':')).drop 1)
  if ¬ hasPrefix (trimSpace raw) agentFreeGrantGroupPrefix ∨ ¬ ':' ∈ rest.toList ∨
      ¬ validAgentFreeGrantNodeID nodeID ∨ encoded = "" then none else do
  let grant ← GrantCodec.decode encoded
  if grant.nodeID ≠ nodeID then none else
  let accountID := trimSpace accountID
  if accountID ≠ "" ∧ grant.accountID ≠ "" ∧ grant.accountID ≠ accountID then none else
  let owner := if accountID ≠ "" ∧ grant.accountID = "" then accountID else grant.accountID
  if trimSpace owner = "" then none else
  let status ← GrantStatus.parse grant.status
  if grant.expiresAt.isZero ∨ grant.createdAt.isZero ∨ grant.updatedAt.isZero then none else
  if grant.expiresAt - grant.updatedAt > maxAgentFreeGrantTTL + Time.minute then none else
  some (status, grant.expiresAt)

/-- The last grant of a user for a node, if all of them can be read: the groups in turn,
    with the grant found so far. -/
def grantFrom [GrantCodec] (user : User) (nodeID : String) :
    List String → Option (GrantStatus × Time) → Option (GrantStatus × Time)
  | [], found => found
  | g :: groups, found =>
    if ¬ hasPrefix (trimSpace g) (agentFreeGrantGroupPrefix ++ nodeID ++ ":") then
      grantFrom user nodeID groups found
    else match parseAgentFreeGrantGroup (trimSpace g) user.id with
      | none => none
      | some grant => grantFrom user nodeID groups (some grant)

/-- The end of the grant that a user has for a node, if it is valid. -/
def activeAgentFreeGrant [GrantCodec] (user : User) (nodeID : String) (now : Time) : Option Time :=
  if ¬ user.active ∨ user.archivedAt.isSome ∨ ¬ validAgentFreeGrantNodeID nodeID then none
  else match grantFrom user nodeID user.groups none with
    | some (.active, expiresAt) => if now < expiresAt then some expiresAt else none
    | _ => none

/-! ## What every plan has -/

variable {access : NetworkAccess}

theorem effectiveAgentResourceClass_personal (h : access.mode ≠ .dedicated) (user : User)
    (packageName : String) :
    effectiveAgentResourceClass access user packageName = .free ∨
      effectiveAgentResourceClass access user packageName = .plus ∨
      effectiveAgentResourceClass access user packageName = .pro := by
  simp only [effectiveAgentResourceClass, if_neg h]
  split_ifs
  · exact .inr (.inr rfl)
  · exact .inr (.inl rfl)
  · exact .inl rfl

/-- A node that is for a user of the Free plan is for the user with any other plan. -/
theorem agentResourceScopeAllowsUser_of_free {scope : UserScope} {user user' : User}
    {packageName packageName' : String}
    (hfree : monthlyQuotaGroup user' = monthlyFreeQuotaLimitGroup)
    (h : agentResourceScopeAllowsUser scope access user' packageName' = true) :
    agentResourceScopeAllowsUser scope access user packageName = true := by
  rw [agentResourceScopeAllowsUser] at h ⊢
  by_cases hteam : scope.resourceClass = .team
  · rwa [if_pos hteam] at h ⊢
  rw [if_neg hteam] at h ⊢
  by_cases hmode : access.mode = .dedicated
  · rwa [if_pos hmode] at h ⊢
  rw [if_neg hmode] at h ⊢
  have hclass := effectiveAgentResourceClass_personal hmode user packageName
  have hpaid : ¬ (monthlyQuotaGroup user' = monthlyPlusQuotaLimitGroup ∨
      monthlyQuotaGroup user' = monthlyUnlimitedBetaQuotaGroup) := by
    rw [hfree]
    decide
  have hclass' : effectiveAgentResourceClass access user' packageName' = .free := by
    simp only [effectiveAgentResourceClass, if_neg hmode, hpaid, and_false, if_false]
  rw [hclass'] at h
  by_cases hcustom : scope.resourceClass = .custom
  · rcases hclass with hc | hc | hc <;> simp_all
  · simp only [if_neg hcustom] at h ⊢
    -- Who has the pools of the Free plan has them with a higher plan.
    generalize scope.resourceClass = c at h ⊢
    cases c <;> rcases hclass with hc | hc | hc <;> rw [hc] <;> first | rfl | cases h

end

end Accounts.Agents

import Accounts.Agents.Scope
import Accounts.Base.Check
import Accounts.Base.Table

/-!
# Which agent a request is from

An agent authenticates with a credential, and may say in the request which node
it is, of which class and of which team (`api/agent_email_union.go`,
`api/network_access.go`, `api/team_agent_enrollments.go`). The handler decides
whether it is that node (`resolveScopedAgent`):

* a credential bound to a node is that node (`resolveNodeBoundAgent`);
* the deployment credential may enrol nodes of teams (`resolveManagedTeam`);
* any other credential is itself, or an alias, which the registry keeps
  (`resolveAgentIdentity`), of the class it declares (`declaredScope`).

The registry may have been filled by other requests, or be empty after a
restart. A refused request may have changed it all the same.
-/

namespace Accounts.Agents

open Text Table

/-! ## The registry and the enrolments -/

/-- An agent, with its groups. -/
structure Identity where
  nodeID : String := ""
  allowedEmails : List String := []
  id : String
  name : String := ""
  groups : List String
  deriving DecidableEq

/-- The agents known, by their identifier. -/
structure Registry where
  byID : Table String Identity
  keyed : ∀ {k identity}, byID.lookup k = some identity → identity.id = k

namespace Registry

/-- No agent is known, as after a restart. -/
def empty : Registry where
  byID := ∅
  keyed h := by simp at h

variable (r : Registry)

/-- An agent is written. -/
def put (identity : Identity) : Registry where
  byID := r.byID.insert identity.id identity
  keyed := forall_insert (fun _ _ => r.keyed) rfl

/-- The agents known (`Registry.Agents`). -/
def agents : List Identity := rows r.byID

/-- The agent of the identifier, which is new if there is none (`Registry.RegisterAgent`). -/
def registerAgent (agentID : String) (groups : List String) : Identity × Registry :=
  match r.byID.lookup agentID with
  | some identity => (identity, r)
  | none =>
    let identity : Identity := { id := agentID, name := agentID, groups := groups }
    (identity, r.put identity)

/-- The groups of an agent are written (`Registry.SetAgentGroups`). -/
def setAgentGroups (id : String) (groups : List String) : Registry :=
  match r.byID.lookup id with
  | none => r
  | some identity => r.put { identity with groups := groups }

end Registry

inductive EnrollmentStatus
  | pending
  | approved
  | rejected
  | revoked
  deriving DecidableEq

/-- A node of a team, or one that asks to be. -/
structure TeamAgentEnrollment where
  agentID : String
  suggestedTeamID : String
  assignedTeamID : String := ""
  status : EnrollmentStatus := .pending

/-- An identifier that a node of a team may have. -/
def validNodeID (id : String) : Bool :=
  id != "" && id != "*" && id.utf8ByteSize ≤ 253 && !containsAny id " /\t\r\n"

/-- The nodes of teams, by their identifier. -/
structure Enrollments where
  rows : Table String TeamAgentEnrollment
  keyed : ∀ {k e}, rows.lookup k = some e → e.agentID = k
  valid : ∀ {k e}, rows.lookup k = some e → validNodeID k

namespace Enrollments

def empty : Enrollments where
  rows := ∅
  keyed h := by simp at h
  valid h := by simp at h

section

variable (t : Enrollments)

/-- A node is written. -/
def put (e : TeamAgentEnrollment) (he : validNodeID e.agentID) : Enrollments where
  rows := t.rows.insert e.agentID e
  keyed := forall_insert (fun _ _ => t.keyed) rfl
  valid := forall_insert (fun _ _ => t.valid) he

/-- The enrolment of a node, which is pending if there was none (`RegisterTeamAgent`). -/
def registerTeamAgent (id suggested : String) (hid : validNodeID id) :
    TeamAgentEnrollment × Enrollments :=
  match t.rows.lookup id with
  | some e => (e, t)
  | none => (⟨id, suggested, "", .pending⟩, t.put ⟨id, suggested, "", .pending⟩ hid)

/-- The node has an enrolment. -/
def has (id : String) : Bool := (Table.rows t.rows).any (·.agentID == id)

end

theorem has_iff {t : Enrollments} {id : String} : t.has id ↔ ∃ e, t.rows.lookup id = some e := by
  simp only [has, List.any_eq_true, mem_rows_iff, beq_iff_eq]
  constructor
  · rintro ⟨e, ⟨k, hk⟩, rfl⟩
    exact ⟨e, (t.keyed hk).symm ▸ hk⟩
  · rintro ⟨e, he⟩
    exact ⟨e, ⟨id, he⟩, t.keyed he⟩

end Enrollments

/-- The marker of the nodes that were enrolled for a team. -/
def managedTeamMarker : String := "enrollment:team"

def managedTeam (groups : List String) : Bool := groups.contains managedTeamMarker

/-- The groups of an enrolled node: those of its team, once it is approved. -/
def enrollmentGroups (e : TeamAgentEnrollment) : List String :=
  if e.status = .approved then [managedTeamMarker, "team:" ++ e.assignedTeamID]
  else [managedTeamMarker, "access:dedicated-only"]

/-! ## Requests -/

/-- What a request says about the agent, in its headers and its query. -/
structure Request where
  agentID : String := ""
  queryAgentID : String := ""
  resourceClass : String := ""
  teamID : String := ""
  customAllowFree : String := ""
  allowedEmails : String := ""
  emailPolicy : String := ""

/-- A request that is refused, with its status, a code and a message. -/
structure Refusal where
  status : Nat
  code : String
  message : String
  deriving DecidableEq

/-- Whether the store fails to list or to register the nodes of teams. -/
structure Faults where
  listTeamAgents : Bool := false
  registerTeamAgent : Bool := false

/-- The request, and what the handler keeps. -/
structure Context where
  request : Request
  registry : Registry
  enrollments : Enrollments

/-- A request is resolved to `α`, or refused; the context changes in both cases. -/
abbrev Resolved (α : Type) := Except Refusal α × Context

/-- The identifier that a request asks for: that of its body, or of a header, or of the query. -/
def Request.target (request : Request) (requested : String) : String :=
  if requested ≠ "" then requested
  else if trimSpace request.agentID ≠ "" then trimSpace request.agentID
  else trimSpace request.queryAgentID

section

variable (message : String)

def scopeMismatch : Refusal := ⟨403, "agent_scope_mismatch", message⟩

def scopeForbidden : Refusal := ⟨403, "agent_scope_invalid", message⟩

def scopeInvalid : Refusal := ⟨400, "agent_scope_invalid", message⟩

def emailPolicyInvalid : Refusal := ⟨400, "agent_email_policy_invalid", message⟩

end

def enrollmentUnavailable : Refusal :=
  ⟨503, "agent_enrollment_unavailable", "team enrollment store unavailable"⟩

def boundToCredential : Refusal := scopeMismatch "agent identity is bound to its credential"

section

variable [Unicode]

/-! ## Credentials -/

/-- The credential may manage the public pools. -/
def managesPublic (credential : Identity) : Bool :=
  credential.groups.any fun g => g == "agent:configure-public" ||
    (g == "internal" && credential.id == "*" && (scopeOf credential.groups).any (·.1 == .shared))

/-- The shared credential of the deployment, which enrols the nodes of teams. -/
def deploymentCredential (credential : Identity) : Bool :=
  (scopeOf credential.groups).any (·.1 == .shared) && credential.id == "*" &&
    credential.groups.any fun g => g == "internal" || g == "agent:configure-public"

/-- The agent is a public one, and not bound to a node. -/
def Identity.isPublic (identity : Identity) : Bool :=
  agentNetworkScope identity.groups == some "" && identity.nodeID == ""

/-! ## The nodes of teams -/

def switchRefused : Refusal := scopeMismatch "registered team node cannot switch to a public scope"

/-- The deployment credential enrols a node of a team, or is refused a node of a
    team that declares another class. Other requests are not handled. -/
def resolveManagedTeam (faults : Faults) (c : Context) (credential : Identity) (requested : String) :
    Option (Resolved (Identity × TeamAgentEnrollment)) :=
  let requested := c.request.target requested
  if ¬ deploymentCredential credential then none else
  if trimSpace c.request.resourceClass ≠ "team" then
    if c.registry.agents.any fun a => a.id == requested && managedTeam a.groups then
      some (.error switchRefused, c)
    else if faults.listTeamAgents then some (.error enrollmentUnavailable, c)
    else if c.enrollments.has requested then some (.error switchRefused, c)
    else none
  else
  let suggested := trimSpace c.request.teamID
  if hid : validNodeID requested ∧ (suggested = "" ∨ isNetworkTeamID suggested) then
    if c.registry.agents.any fun a => a.id == requested && !managedTeam a.groups && !a.isPublic then
      some (.error boundToCredential, c)
    else if faults.registerTeamAgent then some (.error enrollmentUnavailable, c)
    else
    let enrolled := c.enrollments.registerTeamAgent requested suggested hid.1
    let registered := c.registry.registerAgent requested (enrollmentGroups enrolled.1)
    let identity := { registered.1 with groups := enrollmentGroups enrolled.1 }
    let registry := registered.2.setAgentGroups identity.id identity.groups
    some (.ok (identity, enrolled.1), { c with registry := registry, enrollments := enrolled.2 })
  else some (.error (scopeInvalid
    "team enrollment requires a valid node ID and optional suggested team ID"), c)

/-! ## Aliases -/

/-- The credential itself, or the alias that it asks for. A credential of a team
    has no aliases, and no alias is an agent of a team or bound to a node. -/
def resolveAgentIdentity (c : Context) (credential : Identity) (requested : String) :
    Resolved Identity :=
  match agentNetworkScope credential.groups with
  | none => (.error (scopeForbidden "agent credential has an invalid network scope"), c)
  | some team =>
    let requested := c.request.target requested
    if requested = "" ∨ requested = credential.id then (.ok credential, c) else
    if team ≠ "" then (.error boundToCredential, c) else
    if c.registry.agents.any fun a => a.id == requested && !a.isPublic then
      (.error boundToCredential, c)
    else
    let registered := c.registry.registerAgent requested credential.groups
    (.ok registered.1, { c with registry := registered.2 })

section

variable [Mail] [Sha256]

omit [Mail] [Sha256] in
/-- The groups with another class of pool. -/
def withClass (groups : List String) (name : String) : List String :=
  (groups.filter fun g => !hasPrefix (trimSpace g) agentResourceGroupPrefix) ++
    [agentResourceGroupPrefix ++ name]

/-- The class and the team that a request declares, if any, have to be those of the agent and of its
    credential. A credential that manages the public pools may choose the pool. -/
def declaredScope (request : Request) (credential identity : Identity) : Except Refusal Identity :=
  let name := trimSpace request.resourceClass
  let teamID := trimSpace request.teamID
  if name = "" ∧ teamID = "" then .ok identity else
  match ResourceClass.parse name with
  | none =>
    .error (scopeInvalid "resource class must be shared, free, plus, pro, custom or team")
  | some declared =>
    if declared ≠ .team ∧ teamID ≠ "" ∨ declared = .team ∧ teamID = "" then
      .error (scopeInvalid "team ID is required only for team nodes") else
    match agentResourceScope identity.groups with
    | none => .error (scopeForbidden "invalid registered agent scope")
    | some scope =>
      match agentResourceScope credential.groups with
      | none => .error (scopeForbidden "invalid credential scope")
      | some credentialScope =>
        let managePublic := managesPublic credential &&
          (credential.id == "*" || credential.id == identity.id)
        if managePublic ∧ credentialScope.resourceClass ≠ .team ∧ scope.resourceClass ≠ .team ∧
            declared ≠ .team then
          .ok { identity with groups := withClass identity.groups name } else
        if scope.resourceClass ≠ declared ∨ scope.teamID ≠ teamID ∨
            (¬ managePublic ∧ scope ≠ credentialScope) then
          .error (scopeMismatch ("requested class requires matching enrolled scope or " ++
            "public pool management permission")) else
        .ok identity

/-- The agent, with its enrolment if it is a node of a team. -/
def resolveScopedAgentBase (faults : Faults) (c : Context) (credential : Identity)
    (requested : String) : Resolved (Identity × Option TeamAgentEnrollment) :=
  match resolveManagedTeam faults c credential requested with
  | some (r, c) => (r.map fun (identity, e) => (identity, some e), c)
  | none =>
    match resolveAgentIdentity c credential requested with
    | (.error e, c) => (.error e, c)
    | (.ok identity, c) => ((declaredScope c.request credential identity).map (·, none), c)

/-! ## Extensions of the audience -/

def allowFree : String := "custom:allow-free"

omit [Mail] [Sha256] in
/-- The credential may open an agent to Free users: one of the team, for itself, or
    one that manages the public pools. -/
def admitsFree (credential : Identity) (id : String) (groups : List String) : Bool :=
  match scopeOf groups, scopeOf credential.groups with
  | some (c, team), some (credentialClass, credentialTeam) =>
    (c == .team && credentialClass == .team && team == credentialTeam && credential.id == id) ||
      (c != .team && credentialClass != .team && managesPublic credential &&
        (credential.id == "*" || credential.id == id))
  | _, _ => false

omit [Mail] [Sha256] in
/-- The flag that opens an agent to Free users. It is never kept from an earlier request. -/
def freeAudience (request : Request) (credential identity : Identity) : Except Refusal Identity :=
  let raw := request.customAllowFree
  if raw ≠ "" ∧ raw ≠ "true" ∧ raw ≠ "false" then
    .error (scopeInvalid "custom allow free must be true or false") else
  let groups := identity.groups.filter (· != allowFree)
  if raw ≠ "true" then .ok { identity with groups := groups } else
  if ¬ admitsFree credential identity.id groups then
    .error (scopeMismatch "Free audience requires public pool management or matching team scope") else
  .ok { identity with groups := groups ++ [allowFree] }

/-- The agent with the flag of the request. -/
def resolveScopedAgentLegacy (faults : Faults) (c : Context) (credential : Identity)
    (requested : String) : Resolved (Identity × Option TeamAgentEnrollment) :=
  match resolveScopedAgentBase faults c credential requested with
  | (.error e, c) => (.error e, c)
  | (.ok (identity, enrollment), c) =>
    ((freeAudience c.request credential identity).map (·, enrollment), c)

def noEmailsOfTeam : Refusal := emailPolicyInvalid "team nodes do not support email extensions"

omit [Unicode] [Mail] [Sha256] in
/-- A group of the extension by email. -/
def isEmailGroup (g : String) : Bool :=
  hasPrefix g unionEmailPrefix || hasPrefix g emailPolicyPrefix

section

variable (request : Request) (credential identity : Identity)

omit [Sha256] in
/-- The addresses of the request are added to the groups. -/
def emailUnion : Except Refusal Identity :=
  match Mail.unmarshal request.allowedEmails with
  | none => .error (emailPolicyInvalid "email extension must be an array")
  | some emails =>
    if ¬ managesPublic credential ∨ (credential.id ≠ "*" ∧ credential.id ≠ identity.id) then
      .error (scopeMismatch "email extension requires node configuration permission") else
    match normalizeNodeEmails emails with
    | none => .error (emailPolicyInvalid "invalid node email list")
    | some emails =>
      .ok { identity with
        groups := identity.groups ++ (emails.map (unionEmailPrefix ++ ·) ++
          [emailPolicyPrefix ++ publicEmailUnionPolicy]) }

/-- The addresses that the nodes of a public pool serve besides. -/
def emailExtension : Except Refusal Identity :=
  match agentResourceScope identity.groups with
  | none => .error (scopeForbidden "invalid node scope")
  | some scope =>
    let raw := request.allowedEmails
    let policy := request.emailPolicy
    if scope.resourceClass = .custom then .ok identity else
    if scope.resourceClass = .team then
      if raw ≠ "" ∨ policy ≠ "" then .error noEmailsOfTeam else .ok identity
    else
    let groups := identity.groups.filter (!isEmailGroup ·)
    if policy = "" ∧ raw = "" then .ok { identity with groups := groups } else
    if ¬ scope.resourceClass.isPublic ∨ policy ≠ publicEmailUnionPolicy then
      .error (emailPolicyInvalid "public email extension requires public-union-v1") else
    emailUnion request credential { identity with groups := groups }

end

/-! ## The agent -/

section

variable (faults : Faults) (c : Context) (credential : Identity) (requested : String)

/-- The node of a credential, by its class. The request does not choose the audience
    of a custom node. -/
def nodeBoundOfClass : ResourceClass → Resolved Identity
  | .custom =>
    if credential.allowedEmails = [] then
      (.error (scopeForbidden "custom node has no enrolled audience"), c) else
    (.ok credential, { c with
      request := { c.request with allowedEmails := Mail.marshal credential.allowedEmails } })
  | .team =>
    let resolved := resolveScopedAgentBase faults c credential requested
    (resolved.1.map fun (identity, _) => { identity with nodeID := credential.nodeID }, resolved.2)
  | _ => (.ok credential, c)

/-- A credential that is bound to a node. The request may not say otherwise. -/
def resolveNodeBoundAgent : Resolved Identity :=
  if [requested, c.request.agentID, c.request.queryAgentID].any fun id =>
      id != "" && trimSpace id != credential.id then
    (.error (scopeMismatch "node credential cannot select another agent"), c) else
  match agentResourceScope credential.groups with
  | none => (.error (scopeForbidden "invalid enrolled node scope"), c)
  | some scope =>
    let raw := c.request.customAllowFree
    if c.request.resourceClass ≠ "" ∧ c.request.resourceClass ≠ scope.resourceClass.text then
      (.error (scopeMismatch "node scope is bound to credential"), c) else
    if c.request.teamID ≠ "" ∧ c.request.teamID ≠ scope.teamID then
      (.error (scopeMismatch "node team is bound to credential"), c) else
    if raw ≠ "" ∧ raw ≠ "true" ∧ raw ≠ "false" then
      (.error (scopeInvalid "invalid custom Free flag"), c) else
    if raw = "true" ∧ ¬ scope.customAllowFree then
      (.error (scopeMismatch "custom Free audience is not enrolled"), c) else
    nodeBoundOfClass faults c credential requested scope.resourceClass

end

/-- The agent with its extensions. A node of a team that is not approved has none. -/
def extended (request : Request) (credential identity : Identity) :
    Option TeamAgentEnrollment → Except Refusal Identity
  | some e =>
    if e.status ≠ .approved then
      if request.allowedEmails ≠ "" ∨ request.emailPolicy ≠ "" then .error noEmailsOfTeam
      else .ok identity
    else emailExtension request credential identity
  | none => emailExtension request credential identity

/-- The agent that a request is from. -/
def resolveScopedAgent (faults : Faults) (c : Context) (credential : Identity)
    (requested : String) : Resolved Identity :=
  if credential.nodeID ≠ "" then resolveNodeBoundAgent faults c credential requested else
  match resolveScopedAgentLegacy faults c credential requested with
  | (.error e, c) => (.error e, c)
  | (.ok (identity, enrollment), c) => (extended c.request credential identity enrollment, c)

end

end

end Accounts.Agents

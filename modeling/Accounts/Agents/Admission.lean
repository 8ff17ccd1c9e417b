import Accounts.Agents.Lasting
import Accounts.Agents.Pools

/-!
# Who is offered a node, and who is admitted to it

A user is offered the nodes that they may use (`Agents.Pools`), and a node asks for the users
that may use it (`authorizedAgentClientsForIdentity`, in `api/agent_server.go`). These are two
implementations of the same rules. A node of its own addresses reports them, and sends them
when it asks; its list is made of the users whom it is for by class and address, and of those
with a grant (`forIdentity`). Apart from the checks about accounts, the list has exactly the
users whom the rules admit (`clients_listed`).

The rules are the same for both (`Node.agrees`) but for one thing: a node may send 256
addresses at most, while it is offered with any number of them
(`AdmissionSample.overfull_is_offered`). This is the only difference, and nobody in a team is
offered or admitted to a node outside of it (`Node.offered_iff_admitted`).
-/

namespace Accounts.Agents

open Users Text List Identity Store StatusSnapshot

/-! ## The clients of an identity -/

section

variable [Unicode] [Mail] [GrantCodec]

omit [Mail] in
/-- The end of the grant by which a user of the Free plan is admitted to a node. -/
def tempAdmits (groups : List String) (nodeID : String) (access : NetworkAccess) (user : User)
    (packageName : String) (now : Time) : Option Time :=
  match activeAgentFreeGrant user nodeID now with
  | none => none
  | some expiresAt =>
    if ¬ networkScopeAllows access groups ∨ access.mode = .dedicated ∨
        effectiveAgentResourceClass access user packageName ≠ .free then none
    else some expiresAt

omit [Mail] in
/-- One round of the loop over the users who may have a grant. -/
def Store.tempClient (s : Store) (groups : List String) (nodeID : String)
    (staticIDs : List String) (now : Time) (a : Account) : Option Client :=
  let user := a.user
  match tempAdmits groups nodeID (a.access s.teams now) user (billingPackageName a) now with
  | none => none
  | some expiresAt =>
    if ¬ user.active ∨ user.archivedAt.isSome ∨ a.blocked ∨ s.blacklisted user ∨
        quotaExhaustedForUser a user now ∨ ¬ accountAccessVerified user then none
    else if trimSpace user.proxyUUID = "" ∨ trimSpace user.proxyUUID ∈ staticIDs then none
    else some { clientOf user with expiresAt := some expiresAt }

omit [Mail] in
/-- The clients with a grant for the node. -/
def authorizedCustomTempFreeClients (s : Store) (identity : Identity) (staticIDs : List String)
    (now : Time) : List Client :=
  let nodeID := trimSpace identity.nodeID
  if ¬ validAgentFreeGrantNodeID nodeID then []
  else s.accounts.filterMap (s.tempClient identity.groups nodeID staticIDs now)

variable [Sha256] [Subscriptions.RFC3339] [ClientCodec]

/-- The clients of an identity, which sends the addresses that it is for. -/
def authorizedAgentClientsForIdentity (env : Env) (s : Store) (identity : Identity)
    (rawAllowedEmails : String) : Except ScopeError (List Client × String × Store) :=
  match agentResourceScope identity.groups with
  | none => .error .resource
  | some scope =>
    match authorizedAgentClients env s identity.groups with
    | .error e => .error e
    | .ok (baseClients, baseRevision, s') =>
      if scope.resourceClass ≠ .custom then .ok (baseClients, baseRevision, s') else
      match Mail.unmarshal rawAllowedEmails with
      | none => .error .customEmails
      | some allowed =>
        if allowed.length = 0 ∨ allowed.length > 256 then .error .customEmails else
        let filtered := baseClients.filter fun client => agentEmailAllowed allowed client.email
        let clients := if trimSpace identity.nodeID = "" then filtered
          else (filtered ++ authorizedCustomTempFreeClients s' identity
            (filtered.map Client.id) env.now).insertionSort fun x y => x.id ≤ y.id
        .ok (clients, Sha256.hex (ClientCodec.marshalPart baseRevision clients), s')

end

/-! ## The rules -/

section

variable [Unicode] [Mail] [GrantCodec] [Sha256]

section

variable (agent : Identity) (scope : UserScope)

omit [GrantCodec] [Sha256] in
/-- The node is for a user by its class or team, and by its addresses. -/
def Identity.admitsByScope (emails : List String) (access : NetworkAccess) (user : User)
    (packageName : String) : Bool :=
  scopeAdmits scope agent.groups access user packageName && (scope.resourceClass ≠ .custom ||
      agentEmailAllowed emails (toLower (trimSpace user.email)))

omit [Mail] [Sha256] in
/-- The node is for a user by a grant. -/
def Identity.admitsByGrant (access : NetworkAccess) (user : User) (packageName : String)
    (now : Time) : Bool :=
  scope.resourceClass = .custom && trimSpace agent.nodeID != "" &&
    (tempAdmits agent.groups (trimSpace agent.nodeID) access user packageName now).isSome

end

omit [Unicode] [GrantCodec] [Sha256] in
/-- A node of the addresses of its own sends them, and not too many. -/
def sendsEmails (scope : UserScope) (emails : List String) : Bool :=
  scope.resourceClass ≠ .custom || (!emails.isEmpty && emails.length ≤ 256)

/-- The rules by which a user is on the list of an identity that sends the addresses, other
    than those about the account. -/
def Identity.admits (agent : Identity) (emails : List String) (access : NetworkAccess) (user : User)
    (packageName : String) (now : Time) : Bool :=
  (agentResourceScope agent.groups).any fun scope =>
    sendsEmails scope emails && (agent.admitsByScope scope emails access user packageName ||
      agent.admitsByGrant scope access user packageName now)

end

/-! ## The rules and the list -/

section

variable [StableUnicode] [Subscriptions.RFC3339] [Mail] [GrantCodec] [Sha256] [ClientCodec]
  {env : Env} {s : Store} {identity : Identity} {scope : UserScope}

/-- The checks about an account. -/
def Store.cleared (s : Store) (user : User) (a : Account) (now : Time) : Bool :=
  user.active && !a.blocked && !s.blacklisted user && !quotaExhaustedForUser a user now &&
    (isSandbox user || accountAccessVerified user)

/-- The client of a user who is served. The credential of the demonstration is a new one if the
    old one is too old. -/
def servedClient (env : Env) (user : User) : Client :=
  clientOf (if isSandbox user && needsRenewal user env.now then withCredential env user else user)

/-- The addresses that a node sends. -/
def sentEmails (raw : String) : List String := (Mail.unmarshal raw).getD []

variable {groups : List String} {a : Account} {client : Client}

section

omit [GrantCodec] [Sha256] [ClientCodec]

omit [Subscriptions.RFC3339] in
theorem serves_eq (groups : List String) (user : User) (a : Account) (now : Time) :
    s.serves scope groups user a now =
      (scopeAdmits scope groups (a.access s.teams now) user (billingPackageName a) &&
        s.cleared user a now) := by
  simp only [serves, Store.cleared, Bool.and_assoc]

omit [Subscriptions.RFC3339] [Mail] in
theorem email_servedClient (env : Env) (user : User) :
    (servedClient env user).email = toLower (trimSpace user.email) := by
  rw [servedClient, clientOf]
  split_ifs
  · rw [(alike_withCredential env user).email]
  · rfl

/-- A round lists the client of a user who is served. -/
theorem fst_round : (s.round env scope groups a).1 =
    if s.serves scope groups a.user (reconciled env s a) env.now then
      some (servedClient env a.user) else none := by
  rw [Store.round, servedClient]
  cases hserves : s.serves scope groups a.user (reconciled env s a) env.now with
  | false => rw [serve_of_not_serves hserves, if_neg Bool.false_ne_true]
  | true =>
    cases hrenew : (isSandbox a.user && needsRenewal a.user env.now) with
    | true => rw [serve_of_renewal hserves hrenew, if_pos rfl, if_pos rfl]
    | false =>
      rw [serve_of_serves hserves hrenew, if_pos rfl, if_neg Bool.false_ne_true]

theorem mem_clients : client ∈ s.clients env scope groups ↔
      ∃ a ∈ s.accounts, (s.round env scope groups a).1 = some client := by
  rw [clients, mem_insertionSort, mem_filterMap]

end

/-- A list is refused if the node does not send the addresses that it must send. It has the users
    whom the node is for by class and address, and others with a grant. -/
theorem forIdentity (env : Env) (s : Store) (identity : Identity) (raw : String)
    (hscope : agentResourceScope identity.groups = some scope) :
    match authorizedAgentClientsForIdentity env s identity raw with
    | .error _ => sendsEmails scope (sentEmails raw) = false
    | .ok (clients, _, s') => sendsEmails scope (sentEmails raw) = true ∧
        ∃ staticIDs, (∀ id ∈ staticIDs, ∃ client ∈ clients, client.id = id) ∧ ∀ client,
          client ∈ clients ↔ (client ∈ s.clients env scope identity.groups ∧
              (scope.resourceClass = .custom → agentEmailAllowed (sentEmails raw) client.email)) ∨
            scope.resourceClass = .custom ∧ trimSpace identity.nodeID ≠ "" ∧
              client ∈ authorizedCustomTempFreeClients s' identity staticIDs env.now := by
  rw [authorizedAgentClientsForIdentity, hscope, authorizedAgentClients_eq s env hscope, sentEmails]
  dsimp only
  by_cases hcustom : scope.resourceClass = .custom
  swap
  · rw [if_pos hcustom]
    exact ⟨by simp [sendsEmails, hcustom], [], by simp, by simp [hcustom]⟩
  rw [if_neg (not_not.2 hcustom)]
  cases Mail.unmarshal raw with
  | none => simp [sendsEmails, hcustom]
  | some emails =>
  dsimp only [Option.getD_some]
  have hsends : sendsEmails scope emails = true ↔ ¬ (emails.length = 0 ∨ emails.length > 256) := by
    cases emails <;> simp [sendsEmails, hcustom]
  by_cases hlength : emails.length = 0 ∨ emails.length > 256
  · rw [if_pos hlength]
    exact Bool.eq_false_iff.2 (mt hsends.1 (not_not.2 hlength))
  rw [if_neg hlength]
  generalize hfiltered : (s.clients env scope identity.groups).filter
    (fun client => agentEmailAllowed emails client.email) = filtered
  refine ⟨hsends.2 hlength, filtered.map Client.id, fun id hid => ?_, fun client => ?_⟩
  · obtain ⟨client, hclient, rfl⟩ := mem_map.1 hid
    refine ⟨client, ?_, rfl⟩
    split_ifs <;> simp [hclient]
  · split_ifs with hnode <;> simp [← hfiltered, hnode, hcustom]

section

variable {staticIDs : List String} {now : Time}

omit [Subscriptions.RFC3339] [Mail] [Sha256] [ClientCodec]

/-- A client with a grant is that of a user whom the node admits by it. -/
theorem admitsByGrant_of_mem (hcustom : scope.resourceClass = .custom)
    (hnode : trimSpace identity.nodeID ≠ "")
    (h : client ∈ authorizedCustomTempFreeClients s identity staticIDs now) :
    ∃ a ∈ s.accounts, (∃ t, client = { clientOf a.user with expiresAt := some t }) ∧
      identity.admitsByGrant scope (a.access s.teams now) a.user (billingPackageName a) now := by
  rw [authorizedCustomTempFreeClients] at h
  split_ifs at h
  · obtain ⟨a, ha, hclient⟩ := mem_filterMap.1 h
    rw [tempClient] at hclient
    split at hclient
    · cases hclient
    next expiresAt hgrant =>
    split_ifs at hclient
    refine ⟨a, ha, ⟨expiresAt, (Option.some.inj hclient).symm⟩, ?_⟩
    simp [admitsByGrant, hcustom, hnode, hgrant]
  · exact absurd h not_mem_nil

/-- A user whom the node admits by a grant, and whose account has no other obstacle, is among
    the clients with a grant. -/
theorem exists_mem_of_admitsByGrant (ha : a ∈ s.accounts)
    (hadmits : identity.admitsByGrant scope (a.access s.teams now) a.user (billingPackageName a) now)
    (hcleared : s.cleared a.user a now = true) (hverified : accountAccessVerified a.user = true)
    (hstatic : trimSpace a.user.proxyUUID ∉ staticIDs) :
    ∃ client ∈ authorizedCustomTempFreeClients s identity staticIDs now,
      client.id = trimSpace a.user.proxyUUID := by
  simp only [admitsByGrant, Bool.and_eq_true] at hadmits
  obtain ⟨expiresAt, hexpires⟩ := Option.isSome_iff_exists.1 hadmits.2
  -- The grant is for a node with a valid name, and for a user who is not archived.
  have hgranted : ¬ (¬ a.user.active ∨ a.user.archivedAt.isSome ∨
      ¬ validAgentFreeGrantNodeID (trimSpace identity.nodeID)) := by
    intro hnot
    rw [tempAdmits, activeAgentFreeGrant, if_pos hnot] at hexpires
    cases hexpires
  rw [not_or, not_or, not_not] at hgranted
  obtain ⟨-, harchived, hvalid⟩ := hgranted
  simp only [Store.cleared, Bool.and_eq_true, Bool.not_eq_true'] at hcleared
  obtain ⟨⟨⟨⟨hactive, hblocked⟩, hblacklisted⟩, hquota⟩, -⟩ := hcleared
  obtain ⟨htrimmed, hissued⟩ := proxyUUID_user a
  rw [← htrimmed] at hissued
  refine ⟨{ clientOf a.user with expiresAt := some expiresAt }, ?_, by rw [clientOf]⟩
  rw [authorizedCustomTempFreeClients, if_neg hvalid]
  refine mem_filterMap.2 ⟨a, ha, ?_⟩
  rw [tempClient, hexpires]
  simp only [hactive, harchived, hblocked, hblacklisted, hquota, hverified, hissued, hstatic,
    not_true_eq_false, Bool.false_eq_true, or_self, if_false]

end

/-- What is on a list: the clients of users whom the rules admit, as they were read for the list or
    for the grants, and those of all of them whose account has no other obstacle. -/
structure Lists (env : Env) (s : Store) (identity : Identity) (emails : List String)
    (scope : UserScope) (clients : List Client) (s' : Store) : Prop where
  admits_of_mem_clients : ∀ client ∈ clients,
    (∃ a ∈ s.accounts, client = servedClient env a.user ∧
        identity.admits emails ((reconciled env s a).access s.teams env.now) a.user
          (billingPackageName (reconciled env s a)) env.now = true) ∨
      ∃ a ∈ s'.accounts, (∃ t, client = { clientOf a.user with expiresAt := some t }) ∧
        identity.admits emails (a.access s'.teams env.now) a.user (billingPackageName a) env.now = true
  mem_clients_of_admitsByScope : ∀ a ∈ s.accounts,
    identity.admitsByScope scope emails ((reconciled env s a).access s.teams env.now) a.user
        (billingPackageName (reconciled env s a)) = true →
      s.cleared a.user (reconciled env s a) env.now = true →
    servedClient env a.user ∈ clients
  mem_clients_of_admitsByGrant : ∀ a ∈ s'.accounts,
    identity.admitsByGrant scope (a.access s'.teams env.now) a.user (billingPackageName a)
        env.now = true →
      s'.cleared a.user a env.now = true → accountAccessVerified a.user = true →
    ∃ client ∈ clients, client.id = trimSpace a.user.proxyUUID

/-- The list of a node is refused exactly if the node has no class, or does not send the addresses
    that it must send. Otherwise it has the users whom the rules admit. -/
theorem clients_listed (env : Env) (s : Store) (identity : Identity) (raw : String) :
    match authorizedAgentClientsForIdentity env s identity raw with
    | .error _ => (agentResourceScope identity.groups).all (sendsEmails · (sentEmails raw) = false)
    | .ok (clients, _, s') => ∃ scope, agentResourceScope identity.groups = some scope ∧
        sendsEmails scope (sentEmails raw) = true ∧
        Lists env s identity (sentEmails raw) scope clients s' := by
  cases hscope : agentResourceScope identity.groups with
  | none =>
    rw [authorizedAgentClientsForIdentity, hscope]
    rfl
  | some scope =>
  have hlist := forIdentity env s identity raw hscope
  split at hlist
  · simpa using hlist
  next clients _ s' hcall =>
  obtain ⟨hsends, staticIDs, hids, hmem⟩ := hlist
  have hadmits : ∀ access user packageName, identity.admits (sentEmails raw) access user packageName
      env.now = (identity.admitsByScope scope (sentEmails raw) access user packageName ||
        identity.admitsByGrant scope access user packageName env.now) := by
    intro access user packageName
    rw [admits, hscope, Option.any_some, hsends, Bool.true_and]
  refine ⟨scope, rfl, hsends, fun client hclient => ?_, fun a ha hadmitted hcleared => ?_,
    fun a ha hadmitted hcleared hverified => ?_⟩
  · simp only [hadmits, Bool.or_eq_true]
    rcases (hmem client).1 hclient with ⟨hbase, hallowed⟩ | ⟨hcustom, hnode, htemp⟩
    · obtain ⟨a, ha, hround⟩ := mem_clients.1 hbase
      rw [fst_round] at hround
      split_ifs at hround with hserves
      obtain rfl := Option.some.inj hround
      rw [serves_eq, Bool.and_eq_true] at hserves
      refine .inl ⟨a, ha, rfl, .inl ?_⟩
      rw [admitsByScope, hserves.1, ← email_servedClient env]
      simpa [or_iff_not_imp_left] using hallowed
    · obtain ⟨a, ha, hclient, hgrant⟩ := admitsByGrant_of_mem hcustom hnode htemp
      exact .inr ⟨a, ha, hclient, .inr hgrant⟩
  · rw [admitsByScope, Bool.and_eq_true, ← email_servedClient env] at hadmitted
    refine (hmem _).2 (.inl ⟨mem_clients.2 ⟨a, ha, ?_⟩, ?_⟩)
    · rw [fst_round, serves_eq, hadmitted.1, hcleared, Bool.and_true, if_pos rfl]
    · simpa [or_iff_not_imp_left] using hadmitted.2
  · by_cases hstatic : trimSpace a.user.proxyUUID ∈ staticIDs
    · exact hids _ hstatic
    obtain ⟨client, htemp, hid⟩ :=
      exists_mem_of_admitsByGrant ha hadmitted hcleared hverified hstatic
    simp only [admitsByGrant, Bool.and_eq_true, decide_eq_true_eq, bne_iff_ne] at hadmitted
    exact ⟨client, (hmem client).2 (.inr ⟨hadmitted.1.1, hadmitted.1.2, htemp⟩), hid⟩

end

/-! ## Nodes that are offered -/

/-- A letter or a digit is no white space. -/
theorem isSpace_of_isTeamChar {c : Char} (h : isTeamChar c = true) : isSpace c = false := by
  have hbound : 48 ≤ c.toNat ∧ c.toNat ≤ 122 := by
    simp only [isTeamChar, Bool.or_eq_true, Bool.and_eq_true, decide_eq_true_eq, Char.le_def,
      UInt32.le_iff_toNat_le] at h
    change 97 ≤ c.toNat ∧ c.toNat ≤ 122 ∨ 48 ≤ c.toNat ∧ c.toNat ≤ 57 at h
    omega
  simp only [isSpace, Bool.or_eq_false_iff, Bool.and_eq_false_iff, decide_eq_false_iff_not,
    beq_eq_false_iff_ne]
  omega

/-- The name of a team is not blank. -/
theorem trimSpace_of_isNetworkTeamID {id : String} (h : isNetworkTeamID id = true) :
    trimSpace id ≠ "" := by
  rw [isNetworkTeamID] at h
  cases hid : id.toList with
  | nil =>
    rw [hid] at h
    cases h
  | cons c =>
    rw [hid] at h
    simp only [Bool.and_eq_true] at h
    have hc : isSpace c = false := isSpace_of_isTeamChar h.1.1
    intro hblank
    rw [trimSpace, hid, dropWhile_cons_of_neg (Bool.eq_false_iff.1 hc)] at hblank
    have hnil := congrArg String.toList hblank
    rw [String.toList_ofList] at hnil
    have hall := dropWhile_eq_nil_iff.1 (reverse_eq_nil_iff.1 hnil) c (by simp)
    exact Bool.eq_false_iff.1 hc hall

section

variable [Unicode] {groups : List String}

theorem isNetworkTeamID_of_networkScopeFrom {team team' : String} {dedicated : Bool}
    (hteam : team = "" ∨ isNetworkTeamID team = true)
    (h : networkScopeFrom groups team dedicated = some team') :
    team' = "" ∨ isNetworkTeamID team' = true := by
  induction groups generalizing team dedicated with
  | nil =>
    rw [networkScopeFrom] at h
    split_ifs at h
    cases h
    exact hteam
  | cons g _ ih =>
    simp only [networkScopeFrom] at h
    by_cases hmalformed : malformed (trimSpace g) = true
    · rw [if_pos hmalformed] at h
      cases h
    rw [if_neg hmalformed] at h
    by_cases hprefix : hasPrefix (trimSpace g) "team:" = true
    · rw [if_neg (not_not.2 hprefix)] at h
      split_ifs at h with hinvalid
      exact ih (.inr (not_not.1 (not_or.1 hinvalid).1)) h
    · rw [if_pos hprefix] at h
      exact ih hteam h

/-- A node of a team is in the network of nobody else. -/
theorem networkScopeAllows_dedicated {access : NetworkAccess} (hmode : access.mode = .dedicated)
    (h : networkScopeAllows access groups = true) :
    agentNetworkScope groups = some access.teamID ∧ access.teamID ≠ "" := by
  rw [networkScopeAllows] at h
  rcases hscope : agentNetworkScope groups with _ | team <;> simp only [hscope, reduceCtorEq] at h
  simp only [hmode, Bool.and_eq_true, bne_iff_ne, beq_iff_eq] at h
  exact ⟨congrArg some h.2.2, h.2.1⟩

variable [Mail] [Sha256]

/-- What the class of a scope says about the team. -/
theorem agentResourceScope_team {scope : UserScope} (h : agentResourceScope groups = some scope) :
    agentNetworkScope groups = some scope.teamID ∧
      (scope.resourceClass = .team ↔ scope.teamID ≠ "") := by
  rw [agentResourceScope] at h
  obtain ⟨⟨c, team⟩, hscope, rfl⟩ := Option.map_eq_some_iff.1 h
  exact scopeOf_team hscope

end

/-- A node that has reported, in a region and with an entry. The identifier that its
    credential is bound to has no white space around it. -/
structure Node [Unicode] [URLs] where
  agent : Identity
  report : StatusReport
  updatedAt : Time
  trimmed : trimSpace agent.nodeID = agent.nodeID
  reported : updatedAt.isZero = false
  role : report.role = "" ∨ report.role = "agent-proxy"
  region : toLower (trimSpace report.xray.region) ≠ ""
  entry : regionalEntryHost report.xray.entryPoint ≠ ""

namespace Node

variable [StableUnicode] [URLs] [Mail] [Sha256]

/-- What the service keeps of the node. -/
def snapshot (n : Node) : StatusSnapshot := ⟨n.agent, scopedReport n.agent n.report, n.updatedAt⟩

/-- The addresses that the node reports, and sends when it asks for its clients. -/
def emails (n : Node) : List String := n.snapshot.report.xray.allowedEmails

theorem customEmails_snapshot (n : Node) {scope : UserScope}
    (hscope : agentResourceScope n.agent.groups = some scope)
    (hcustom : scope.resourceClass = .custom) : n.snapshot.customEmails = n.emails := by
  have hpublic : ¬ ((agentResourceScope n.agent.groups).any (·.resourceClass.isPublic)) = true := by
    rw [hscope, Option.any_some, hcustom]
    exact Bool.false_ne_true
  have hemails : n.emails = if n.agent.nodeID ≠ "" then n.agent.allowedEmails
      else n.report.xray.allowedEmails := by
    rw [emails, snapshot]
    simp only [scopedReport, if_neg hpublic]
  rw [customEmails]
  split_ifs with h
  · exact (hemails.trans (if_pos h.2)).symm
  · rfl

variable [GrantCodec]

/-- What is left of the checks for a node that has reported. -/
theorem offered_snapshot (n : Node) {scope : UserScope}
    (hscope : agentResourceScope n.agent.groups = some scope) (access : NetworkAccess) (user : User)
    (packageName : String) (now : Time) :
    n.snapshot.offered access user packageName now = (networkScopeAllows access n.agent.groups &&
        (scope.resourceClass ≠ .custom || agentEmailAllowed n.snapshot.customEmails user.email ||
          tempFreeAllowed access user packageName now n.snapshot) &&
        classAllowed scope access user packageName now n.snapshot) := by
  have hrole : ¬ (n.snapshot.report.role ≠ "" ∧ n.snapshot.report.role ≠ "agent-proxy") := by
    rintro ⟨h, h'⟩
    exact n.role.elim h h'
  have hregion : ¬ (n.snapshot.region = "" ∨ n.snapshot.entry = "") :=
    not_or.2 ⟨n.region, n.entry⟩
  have hreported : ¬ n.snapshot.updatedAt.isZero = true := Bool.eq_false_iff.1 n.reported
  have hgroups : agentResourceScope n.snapshot.agent.groups = some scope := hscope
  rw [offered, hgroups]
  dsimp only
  split_ifs with hemail hnetwork
  · obtain ⟨hcustom, hnot, hgrant⟩ := hemail
    simp [hcustom, hnot, hgrant]
  · rcases hnetwork with hzero | hbad | hnetwork
    · exact absurd hzero hreported
    · exact absurd hbad hrole
    rw [show networkScopeAllows access n.agent.groups = false from Bool.eq_false_iff.2 hnetwork]
    rfl
  · rw [not_or, not_or, not_not] at hnetwork
    have hnetwork' : networkScopeAllows access n.agent.groups = true := hnetwork.2.2
    have hemail' : (scope.resourceClass ≠ .custom ||
        agentEmailAllowed n.snapshot.customEmails user.email ||
        tempFreeAllowed access user packageName now n.snapshot) = true := by
      by_cases hcustom : scope.resourceClass = .custom
      · rw [Bool.or_eq_true, Bool.or_eq_true, or_assoc]
        by_contra hnot
        rw [not_or, not_or] at hnot
        exact hemail ⟨hcustom, hnot.2⟩
      · simp [hcustom]
    rw [hnetwork', hemail', Bool.true_and, Bool.true_and]

/-- The grant of a user for a node is the same for both. -/
theorem tempFreeAllowed_snapshot (n : Node) {scope : UserScope}
    (hscope : agentResourceScope n.agent.groups = some scope)
    (hcustom : scope.resourceClass = .custom) {access : NetworkAccess}
    (hnetwork : networkScopeAllows access n.agent.groups = true) (hmode : access.mode ≠ .dedicated)
    (user : User) (packageName : String) (now : Time) :
    tempFreeAllowed access user packageName now n.snapshot =
      (!n.emails.isEmpty && n.agent.admitsByGrant scope access user packageName now) := by
  have hgrant : (tempAdmits n.agent.groups n.agent.nodeID access user packageName now).isSome =
      ((activeAgentFreeGrant user n.agent.nodeID now).isSome &&
        decide (effectiveAgentResourceClass access user packageName = .free)) := by
    rw [tempAdmits]
    cases activeAgentFreeGrant user n.agent.nodeID now with
    | none => rfl
    | some =>
      by_cases hfree : effectiveAgentResourceClass access user packageName = .free <;>
        simp [hnetwork, hmode, hfree]
  have hagent : n.snapshot.agent = n.agent := rfl
  rw [tempFreeAllowed, n.customEmails_snapshot hscope hcustom, hagent, admitsByGrant,
    n.trimmed, hgrant]
  simp only [hmode, hcustom, ne_eq, not_false_eq_true, decide_true, Bool.true_and]
  cases !n.emails.isEmpty <;> cases n.agent.nodeID != "" <;>
    cases (activeAgentFreeGrant user n.agent.nodeID now).isSome <;> simp

/-- A node is offered to the users that it is for, unless it is for no addresses at all. -/
def Agrees (n : Node) (scope : UserScope) (access : NetworkAccess) (user : User)
    (packageName : String) (now : Time) : Prop :=
  n.snapshot.offered access user packageName now =
    ((scope.resourceClass ≠ .custom || !n.emails.isEmpty) &&
      (n.agent.admitsByScope scope n.emails access user packageName ||
        n.agent.admitsByGrant scope access user packageName now))

section

variable {n : Node} {scope : UserScope} {access : NetworkAccess} {user : User}
  {packageName : String} {now : Time}
  (hscope : agentResourceScope n.agent.groups = some scope)
  (hnetwork : networkScopeAllows access n.agent.groups = true)
  (hemail : toLower (trimSpace user.email) = user.email)

include hscope hnetwork hemail

/-- The checks for a node of a team. -/
theorem agrees_team (hclass : scope.resourceClass = .team) :
    n.Agrees scope access user packageName now := by
  rw [Agrees, n.offered_snapshot hscope, hnetwork, Bool.true_and, admitsByScope,
    scopeAdmits, hnetwork, Bool.true_and, hemail]
  obtain ⟨hteam, hiff⟩ := agentResourceScope_team hscope
  have hne := hiff.1 hclass
  -- Nobody outside of the team has the node in their network.
  have hmode : access.mode = .dedicated := by
    by_contra hpersonal
    rw [networkScopeAllows, hteam] at hnetwork
    cases hmode : access.mode with
    | dedicated => exact hpersonal hmode
    | personal => simp [hmode, hne] at hnetwork
  have hsame : access.teamID = scope.teamID :=
    Option.some.inj ((networkScopeAllows_dedicated hmode hnetwork).1.symm.trans hteam)
  have hblank : trimSpace scope.teamID ≠ "" := by
    rcases isNetworkTeamID_of_networkScopeFrom (.inl rfl) hteam with hempty | hid
    · exact absurd hempty hne
    · exact trimSpace_of_isNetworkTeamID hid
  simp [classAllowed, agentResourceScopeAllowsUser, effectiveAgentResourceClass, hclass, hmode,
    hsame, hblank]

/-- The checks for a node of its own addresses. -/
theorem agrees_custom (hcustom : scope.resourceClass = .custom) (hmode : access.mode ≠ .dedicated) :
    n.Agrees scope access user packageName now := by
  rw [Agrees, n.offered_snapshot hscope, hnetwork, Bool.true_and, admitsByScope,
    scopeAdmits, hnetwork, Bool.true_and, hemail]
  have hgrant := n.tempFreeAllowed_snapshot hscope hcustom hnetwork hmode user packageName now
  have hemails := n.customEmails_snapshot hscope hcustom
  have hpublic : publicEmailOverride scope n.agent.groups access user = false := by
    simp [publicEmailOverride, hcustom, ResourceClass.isPublic]
  have hallowed : classAllowed scope access user packageName now n.snapshot =
      (!n.emails.isEmpty && (agentResourceScopeAllowsUser scope access user packageName ||
        tempFreeAllowed access user packageName now n.snapshot)) := by
    simp [classAllowed, hcustom, hemails, agentResourceScopeAllowsUser, hmode]
  rw [hallowed, hgrant, hemails, hpublic]
  simp only [hcustom, ne_eq, not_true_eq_false, decide_false, Bool.false_or, Bool.or_false]
  -- With a grant, neither the class nor the address matters.
  cases n.agent.admitsByGrant scope access user packageName now <;>
    cases agentResourceScopeAllowsUser scope access user packageName <;>
      cases agentEmailAllowed n.emails user.email <;> cases !n.emails.isEmpty <;> rfl

/-- The checks for a public node. -/
theorem agrees_public (hteam : scope.resourceClass ≠ .team)
    (hcustom : scope.resourceClass ≠ .custom) (hmode : access.mode ≠ .dedicated) :
    n.Agrees scope access user packageName now := by
  rw [Agrees, n.offered_snapshot hscope, hnetwork, Bool.true_and, admitsByScope,
    scopeAdmits, hnetwork, Bool.true_and, hemail]
  have hallowed : classAllowed scope access user packageName now n.snapshot =
      (publicAgentResourceClassAllows scope.resourceClass
          (effectiveAgentResourceClass access user packageName) ||
        publicEmailOverride scope n.agent.groups access user) := by
    rw [classAllowed]
    split
    · next h => exact absurd h hcustom
    · next h => exact absurd h hteam
    · rfl
  have hgrant : n.agent.admitsByGrant scope access user packageName now = false := by
    simp [admitsByGrant, hcustom]
  simp [hallowed, hgrant, agentResourceScopeAllowsUser, hteam, hcustom, hmode]

end

theorem agrees (n : Node) {scope : UserScope}
    (hscope : agentResourceScope n.agent.groups = some scope) (access : NetworkAccess) {user : User}
    (hemail : toLower (trimSpace user.email) = user.email) (packageName : String)
    (now : Time) : n.Agrees scope access user packageName now := by
  obtain ⟨hteam, hclass⟩ := agentResourceScope_team hscope
  cases hnetwork : networkScopeAllows access n.agent.groups with
  | false =>
    have hgrant : tempAdmits n.agent.groups (trimSpace n.agent.nodeID) access user packageName
        now = none := by
      rw [tempAdmits]
      split
      · rfl
      · exact if_pos (.inl (Bool.eq_false_iff.1 hnetwork))
    rw [Agrees, n.offered_snapshot hscope]
    simp [admitsByScope, scopeAdmits, admitsByGrant, hnetwork, hgrant]
  | true =>
    by_cases hisTeam : scope.resourceClass = .team
    · exact agrees_team hscope hnetwork hemail hisTeam
    -- A public node is in the network of nobody in a team.
    have hpersonal : access.mode ≠ .dedicated := by
      intro hmode
      obtain ⟨hallowed, hne⟩ := networkScopeAllows_dedicated hmode hnetwork
      rw [not_not.1 (hisTeam ∘ hclass.2)] at hteam
      exact hne (Option.some.inj (hallowed.symm.trans hteam))
    by_cases hcustom : scope.resourceClass = .custom
    · exact agrees_custom hscope hnetwork hemail hcustom hpersonal
    · exact agrees_public hscope hnetwork hemail hisTeam hcustom hpersonal

/-- The node is for the user, and has more addresses than a list may have. -/
def Overfull (n : Node) (access : NetworkAccess) (user : User) (packageName : String) (now : Time) :
    Prop :=
  ∃ scope, agentResourceScope n.agent.groups = some scope ∧ scope.resourceClass = .custom ∧
    256 < n.emails.length ∧
    (n.agent.admitsByScope scope n.emails access user packageName = true ∨
      n.agent.admitsByGrant scope access user packageName now = true)

/-- A node is in a pool that a user is offered exactly if the rules of its list admit the
    user, unless the node is for the user and has too many addresses. A user of a team is
    neither offered a node outside of the team nor admitted to it. -/
theorem offered_iff_admitted (n : Node) (before after : List StatusSnapshot) (id : String)
    (row : UserRow) (access : NetworkAccess) (packageName : String) (now : Time) :
    let pools := regionalPoolsForUser (before ++ n.snapshot :: after) access (scanUser id row)
      packageName now
    let admitted := n.agent.admits n.emails access (scanUser id row) packageName now
    (((∃ pool ∈ pools, n.snapshot ∈ pool.nodes) ↔ admitted = true) ↔
        ¬ n.Overfull access (scanUser id row) packageName now) ∧
      (access.mode = .dedicated → (∃ pool ∈ pools, n.snapshot ∈ pool.nodes) ∨ admitted = true →
        agentNetworkScope n.agent.groups = some access.teamID) := by
  intro pools admitted
  have hemail : toLower (trimSpace (scanUser id row).email) = (scanUser id row).email := by
    simp [scanUser, normalizeUserRoleFields, trimSpace_toLower]
  have hoffered : (∃ pool ∈ pools, n.snapshot ∈ pool.nodes) ↔
      n.snapshot.offered access (scanUser id row) packageName now = true := by
    rw [mem_regionalPoolsForUser]
    exact and_iff_right (mem_append_right _ mem_cons_self)
  simp only [hoffered, admitted, admits]
  cases hscope : agentResourceScope n.agent.groups with
  | none =>
    have hnot : n.snapshot.offered access (scanUser id row) packageName now = false := by
      have hgroups : agentResourceScope n.snapshot.agent.groups = none := hscope
      rw [offered, hgroups]
    rw [hnot, Option.any_none]
    refine ⟨iff_of_true Iff.rfl ?_, fun _ h => ?_⟩
    · rintro ⟨scope, hsome, -⟩
      rw [hscope] at hsome
      cases hsome
    · rcases h with h | h <;> cases h
  | some scope =>
    have hagrees := n.agrees hscope access hemail packageName now
    simp only [Overfull, hscope, Option.some_inj, exists_eq_left']
    rw [hagrees, Option.any_some, sendsEmails]
    constructor
    · by_cases hcustom : scope.resourceClass = .custom
      · have hempty : n.emails.isEmpty = true → ¬ 256 < n.emails.length := by
          intro h
          rw [List.isEmpty_iff.1 h]
          decide
        simp only [hcustom, ne_eq, not_true_eq_false, decide_false, Bool.false_or, Bool.and_eq_true,
          Bool.or_eq_true, Bool.not_eq_true', decide_eq_true_eq, true_and, ← not_lt]
        cases hnone : n.emails.isEmpty with
        | true => simp [hempty hnone]
        | false => by_cases hlong : 256 < n.emails.length <;> simp [hlong]
      · simp [hcustom]
    · intro hmode h
      have hrule := Bool.or_eq_true_iff.1 (h.elim (fun h => (Bool.and_eq_true_iff.1 h).2)
        fun h => (Bool.and_eq_true_iff.1 h).2)
      refine (networkScopeAllows_dedicated hmode ?_).1
      -- The rules admit nobody who does not have the node in their network.
      rcases hrule with hrule | hrule
      · rw [admitsByScope, scopeAdmits, Bool.and_eq_true, Bool.and_eq_true] at hrule
        exact hrule.1.1
      rw [admitsByGrant, Bool.and_eq_true, tempAdmits] at hrule
      split at hrule
      · cases hrule.2
      split_ifs at hrule with hnot
      · cases hrule.2
      · exact not_not.1 (not_or.1 hnot).1

end Node

/-! ## A node with too many addresses -/

namespace AdmissionSample

/-- The addresses of a node, of which the last is that of the user. -/
def emails : List String := List.replicate 256 "bob@example.com" ++ ["ann@example.com"]

local instance : StableUnicode := StableUnicode.ascii
local instance : Mail := ⟨some, fun _ => "", fun _ => some emails⟩
local instance : Sha256 := ⟨id⟩
local instance : Subscriptions.RFC3339 := ⟨fun _ => none⟩
local instance : ClientCodec := ⟨fun _ _ => "", fun _ _ => ""⟩
local instance : GrantCodec := ⟨fun _ => none⟩
local instance : URLs :=
  ⟨fun _ => some "https", fun _ => false, fun _ => "a.example", fun _ => false⟩

/-- The report of a node in a region. -/
def report : StatusReport where
  xray :=
    { allowedEmails := emails
      region := "eu"
      entryPoint := "a.example" }

/-- A node with the groups. -/
def node (groups : List String) : Node where
  agent := { id := "n1", groups := groups }
  report := report
  updatedAt := 1
  trimmed := (by decide : trimSpace "" = "")
  reported := by decide
  role := .inl rfl
  region := by decide
  entry := by decide

/-- Anybody who is not in a team. -/
def personal : NetworkAccess := { mode := .personal, allowed := true }

/-- The node is offered to a user of the Plus plan whose address it has, and its list, which is
    the one that it sends, is refused. -/
theorem overfull_is_offered : let n := node ["resource:custom"]
    let user := scanUser "ann" ClientsSample.row
    (∃ pool ∈ regionalPoolsForUser [n.snapshot] personal user "plus" 2,
        n.snapshot ∈ pool.nodes) ∧
      n.agent.admits n.emails personal user "plus" 2 = false ∧
      (authorizedAgentClientsForIdentity (.sample 2) ClientsSample.store n.agent
        "").toOption.isNone = true := by
  refine ⟨mem_regionalPoolsForUser.2 ⟨mem_cons_self, ?_⟩, ?_, ?_⟩ <;> decide +kernel

/-- The node of a team, and a user of the team. -/
theorem offered_iff_admitted_team : let n := node ["team:red"]
    let user := scanUser "ann" ClientsSample.row
    let red : NetworkAccess := { mode := .dedicated, teamID := "red", allowed := true }
    ((∃ pool ∈ regionalPoolsForUser [n.snapshot] red user "plus" 2, n.snapshot ∈ pool.nodes) ↔
        n.agent.admits n.emails red user "plus" 2 = true) ∧
      agentNetworkScope n.agent.groups = some "red" := by
  intro n _ red
  obtain ⟨hiff, hteam⟩ := n.offered_iff_admitted [] [] "ann" ClientsSample.row red "plus" 2
  refine ⟨hiff.2 ?_, hteam rfl (.inr (by decide +kernel))⟩
  rintro ⟨_, hscope, hcustom, -⟩
  have hclass : (agentResourceScope n.agent.groups).map (·.resourceClass) = some .team := by
    decide +kernel
  rw [hscope, Option.map_some, hcustom] at hclass
  cases hclass

end AdmissionSample

end Accounts.Agents

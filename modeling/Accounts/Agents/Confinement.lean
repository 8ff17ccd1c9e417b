import Accounts.Agents.Resolve

/-!
# Agents stay in the scope of their credential

An agent without permission to manage the public pools should have the scope of
its credential, and a node that was enrolled for a team should never be taken for
one of a public pool (`Confined`). A request without a class that names an agent
which is known already gets the groups of that agent; the flag for Free users is
that of the request; an extension by email is dropped; and only the deployment
credential looks at the enrolments (`stray_requests_resolved`). These are the only
exceptions (`confined_iff`): every accepted request is for the agent it names
(`Context.named`), with the scope that the groups known of it give, up to the flag
and the extension (`Context.granted`), or up to what a manager may change
(`resolveScopedAgent_ok`).
-/

namespace Accounts.Agents

open Text Except Option

/-! ## What the stages keep -/

section

variable [Unicode]

/-- The two agents have one identifier, and are of one team. -/
structure Kin (a b : Identity) : Prop where
  id_eq : a.id = b.id
  network_eq : agentNetworkScope a.groups = agentNetworkScope b.groups

theorem Kin.refl (a : Identity) : Kin a a := ⟨rfl, rfl⟩

theorem Kin.trans {a b c : Identity} (hab : Kin a b) (hbc : Kin b c) : Kin a c :=
  ⟨hab.id_eq.trans hbc.id_eq, hab.network_eq.trans hbc.network_eq⟩

/-- A resource group says nothing about the team. -/
theorem neutral_of_resource {g : String}
    (h : hasPrefix (trimSpace g) agentResourceGroupPrefix) : Neutral g := by
  obtain ⟨_, hg⟩ := toList_of_hasPrefix h rfl
  exact .of_head hg (by decide) (by decide) (by decide)

/-- Another class of pool is of the same team. -/
theorem agentNetworkScope_withClass (groups : List String) (name : String) :
    agentNetworkScope (withClass groups name) = agentNetworkScope groups := by
  rw [withClass, agentNetworkScope_append, agentNetworkScope_filter]
  · intro g _ hg
    exact neutral_of_resource (by simpa using hg)
  · intro g hg
    rw [List.mem_singleton] at hg
    subst hg
    exact neutral_of_resource (hasPrefix_trimSpace (by decide) (by decide) (by decide) name)

section

variable {credential : Identity} (h : deploymentCredential credential)

include h

/-- The deployment credential manages the public pools. -/
theorem managesPublic_of_deployment : managesPublic credential := by
  simp only [deploymentCredential, Bool.and_eq_true, beq_iff_eq, List.any_eq_true] at h
  obtain ⟨⟨hshared, hid⟩, g, hmem, hg⟩ := h
  refine List.any_eq_true.2 ⟨g, hmem, ?_⟩
  rw [hid, hshared]
  simpa [or_comm] using hg

/-- The deployment credential has no identifier of a node. -/
theorem not_has_of_deployment (t : Enrollments) : ¬ t.has credential.id := by
  simp only [deploymentCredential, Bool.and_eq_true, beq_iff_eq] at h
  rw [h.1.2]
  intro hhas
  obtain ⟨e, he⟩ := Enrollments.has_iff.1 hhas
  exact absurd (t.valid he) (by decide)

end

/-- The agent that a credential asks for: itself, the one known under the
    identifier, or a new one with its groups. -/
def Context.asked (c : Context) (credential : Identity) (requested : String) : Identity :=
  if c.request.target requested = "" ∨ c.request.target requested = credential.id then credential
  else (c.registry.registerAgent (c.request.target requested) credential.groups).1

omit [Unicode] in
/-- An agent that is registered has the identifier. -/
theorem registerAgent_id (r : Registry) (id : String) (groups : List String) :
    (r.registerAgent id groups).1.id = id := by
  rw [Registry.registerAgent]
  cases h : r.byID.lookup id with
  | none => rfl
  | some => exact r.keyed h

/-- The agent is the one asked for. A credential of a team is itself. -/
theorem resolveAgentIdentity_ok {c c' : Context} {credential identity : Identity}
    {requested : String} (h : resolveAgentIdentity c credential requested = (.ok identity, c')) :
    identity = c.asked credential requested ∧ c'.request = c.request ∧
      (agentNetworkScope credential.groups = some "" ∨ identity = credential) := by
  rw [resolveAgentIdentity] at h
  rcases hscope : agentNetworkScope credential.groups with _ | team <;>
    simp only [hscope, reduceCtorEq, Prod.mk.injEq, false_and] at h
  by_cases hself : c.request.target requested = "" ∨ c.request.target requested = credential.id
  · rw [if_pos hself] at h
    cases h
    exact ⟨(if_pos hself).symm, rfl, .inr rfl⟩
  rw [if_neg hself] at h
  by_cases hteam : team ≠ ""
  · rw [if_pos hteam] at h
    cases h
  · split_ifs at h
    · cases h
    cases h
    exact ⟨(if_neg hself).symm, rfl, .inl (congrArg some (not_not.1 hteam))⟩

variable {team : String}

/-- The groups of an enrolled node are of a team, or of none. -/
theorem scopeOf_enrollmentGroups {e : TeamAgentEnrollment} {c : ResourceClass}
    (h : scopeOf (enrollmentGroups e) = some (c, team)) : c = .team := by
  obtain ⟨hnetwork, hteam⟩ := scopeOf_team h
  refine hteam.2 fun hempty => ?_
  subst hempty
  have hmarker : Neutral managedTeamMarker := by
    obtain ⟨_, htail⟩ := trimSpace_toList_cons
      (s := managedTeamMarker) (c := 'e') rfl (by decide)
    exact .of_head htail (by decide) (by decide) (by decide)
  rw [agentNetworkScope, enrollmentGroups] at hnetwork
  split_ifs at hnetwork with happroved
  · -- The name of the team is not empty.
    have hpre : hasPrefix (trimSpace ("team:" ++ e.assignedTeamID)) "team:" :=
      hasPrefix_trimSpace (by decide) (by decide) (by decide) _
    rw [networkScopeFrom_cons hmarker, networkScopeFrom] at hnetwork
    simp only [hpre, not_true_eq_false, if_false] at hnetwork
    split_ifs at hnetwork with hmalformed hid
    rw [networkScopeFrom] at hnetwork
    split_ifs at hnetwork
    rw [some.inj hnetwork] at hid
    exact hid (.inl (by decide))
  · -- No team is named, and the node is dedicated.
    rw [networkScopeFrom_cons hmarker] at hnetwork
    have hteam : hasPrefix (trimSpace "access:dedicated-only") "team:" = false := by decide
    have hdedicated : (trimSpace "access:dedicated-only" == "access:dedicated-only") = true := by
      decide
    simp only [hteam, hdedicated, networkScopeFrom, Bool.false_eq_true, not_false_eq_true,
      if_true, Bool.or_true, and_self, ite_self, reduceCtorEq] at hnetwork

/-! ## What the scope is -/

section

variable [Mail] [Sha256]

/-- The scope of an agent has its class and its team. -/
theorem scopeOf_of_agentResourceScope {groups : List String} {scope : UserScope}
    (h : agentResourceScope groups = some scope) :
    scopeOf groups = some (scope.resourceClass, scope.teamID) := by
  obtain ⟨⟨c, _⟩, hscope, rfl⟩ := map_eq_some_iff.1 h
  exact hscope

omit [Mail] [Sha256] [Unicode] in
/-- Whether there is a group of a kind depends on the groups of this kind only. -/
theorem any_congr_filter {p : String → Bool} {groups groups' : List String}
    (h : groups'.filter p = groups.filter p) : groups'.any p = groups.any p := by
  have hself : ∀ l : List String, l.any p = (l.filter p).any p := by simp [List.any_filter]
  rw [hself, h, ← hself]

/-- The scope without the extension by email, which a public agent has from a request only. -/
def UserScope.withoutExtension (scope : UserScope) : UserScope :=
  if scope.resourceClass.isPublic then { scope with emailPolicy := "", emailDigest := "" }
  else scope

variable {credential identity identity' : Identity} {request : Request}

omit [Mail] [Sha256] in
/-- The flag changes neither the identifier nor the class nor the team. -/
theorem freeAudience_ok (h : freeAudience request credential identity = .ok identity') :
    Kin identity' identity ∧ scopeOf identity'.groups = scopeOf identity.groups ∧
      ∃ more, identity'.groups = identity.groups.filter (· != allowFree) ++ more ∧
        more = if request.customAllowFree = "true" then [allowFree] else [] := by
  have hfilter : ∀ g ∈ identity.groups, (g != allowFree) = false → Silent g := by
    intro g _ hg
    obtain rfl : g = allowFree := by simpa using hg
    exact silent_allowFree
  have hmore : ∀ g ∈ [allowFree], Silent g := by
    intro g hg
    rw [List.mem_singleton.1 hg]
    exact silent_allowFree
  have hscope := scopeOf_filter hfilter
  have hnetwork := agentNetworkScope_filter fun g hg hp => (hfilter g hg hp).1
  obtain ⟨-, h⟩ := guard_ok.1 h
  split_ifs at h with hflag
  · cases h
    exact ⟨⟨rfl, hnetwork⟩, hscope, [], (List.append_nil _).symm, (if_neg hflag).symm⟩
  · cases h
    exact ⟨⟨rfl, (agentNetworkScope_append fun g hg => (hmore g hg).1).trans hnetwork⟩,
      (scopeOf_append hmore).trans hscope, [allowFree], rfl, (if_pos (not_not.1 hflag)).symm⟩

/-- The flag is that of the request. The rest of the scope is kept. -/
theorem agentResourceScope_of_freeAudience
    (h : freeAudience request credential identity = .ok identity') :
    agentResourceScope identity'.groups = (agentResourceScope identity.groups).map
      ({ · with customAllowFree := request.customAllowFree == "true" }) := by
  obtain ⟨-, hscope, more, hgroups, hmore⟩ := freeAudience_ok h
  have hkeep : ∀ p : String → Bool, p allowFree = false →
      identity'.groups.filter p = identity.groups.filter p := by
    intro p hp
    have hnone : more.filter p = [] := by
      rw [hmore]
      split_ifs <;> simp [hp]
    rw [hgroups, List.filter_append, hnone, List.append_nil, List.filter_filter]
    refine List.filter_congr fun g _ => ?_
    by_cases hg : g = allowFree
    · rw [hg, hp, Bool.false_and]
    · simp [hg]
  have hflag : identity'.groups.contains allowFree = (request.customAllowFree == "true") := by
    rw [hgroups, hmore]
    split_ifs with htrue <;> simp [htrue]
  rw [agentResourceScope, agentResourceScope, hscope, hasPublicUnionPolicy,
    any_congr_filter (hkeep (· == emailPolicyPrefix ++ publicEmailUnionPolicy) (by decide)),
    publicUnionEmails, hkeep (hasPrefix · unionEmailPrefix) (by decide),
    show "custom:allow-free" = allowFree from rfl, hflag]
  cases scopeOf identity.groups <;> rfl

/-- Without the groups of the extension, the scope is the one without it. -/
theorem agentResourceScope_filter_email {groups : List String}
    (hscope : scopeOf (groups.filter (!isEmailGroup ·)) = scopeOf groups) :
    agentResourceScope (groups.filter (!isEmailGroup ·)) = (agentResourceScope groups).map
      ({ · with emailPolicy := "", emailDigest := "" }) := by
  have hpolicy : hasPublicUnionPolicy (groups.filter (!isEmailGroup ·)) = false := by
    refine List.any_eq_false.2 fun g hg hpolicy => ?_
    have hemail := (List.mem_filter.1 hg).2
    rw [beq_iff_eq.1 hpolicy] at hemail
    exact absurd hemail (by decide)
  have hflag : (groups.filter (!isEmailGroup ·)).contains allowFree =
      groups.contains allowFree := by
    rw [Bool.eq_iff_iff, List.contains_iff_mem, List.contains_iff_mem, List.mem_filter]
    exact and_iff_left (by decide)
  rw [agentResourceScope, agentResourceScope, hscope, hpolicy,
    show "custom:allow-free" = allowFree from rfl, hflag]
  cases scopeOf groups <;> rfl

/-- What a request declares leaves the agent as it is, or is of a manager that
    chooses the pool of a public agent. -/
theorem declaredScope_ok (h : declaredScope request credential identity = .ok identity') :
    identity' = identity ∨
      (managesPublic credential ∧ (∀ team, scopeOf credential.groups ≠ some (.team, team)) ∧
        Kin identity' identity) := by
  rw [declaredScope] at h
  by_cases hundeclared : trimSpace request.resourceClass = "" ∧ trimSpace request.teamID = ""
  · rw [if_pos hundeclared] at h
    cases h
    exact .inl rfl
  rw [if_neg hundeclared] at h
  split at h
  · cases h
  next declared hparse =>
  simp only [guard_ok] at h
  obtain ⟨-, h⟩ := h
  split at h
  · cases h
  split at h
  · cases h
  next credentialScope hcredential =>
  split_ifs at h with hmanage
  · cases h
    refine .inr ⟨(Bool.and_eq_true _ _ ▸ hmanage.1).1, fun team hteam => ?_, rfl,
      agentNetworkScope_withClass _ _⟩
    rw [scopeOf_of_agentResourceScope hcredential] at hteam
    exact hmanage.2.1 (Prod.mk.inj (some.inj hteam)).1
  · cases h
    exact .inl rfl

omit [Sha256] in
theorem emailUnion_ok (h : emailUnion request credential identity = .ok identity') :
    managesPublic credential ∧ Kin identity' identity ∧
      scopeOf identity'.groups = scopeOf identity.groups := by
  rw [emailUnion] at h
  split at h
  · cases h
  obtain ⟨hpermitted, h⟩ := guard_ok.1 h
  split at h
  · cases h
  next normal hnormal =>
  cases h
  have hmore : ∀ g ∈ normal.map (unionEmailPrefix ++ ·) ++
      [emailPolicyPrefix ++ publicEmailUnionPolicy], Silent g := by
    intro g hg
    rw [List.mem_append, List.mem_map, List.mem_singleton] at hg
    rcases hg with ⟨_, -, rfl⟩ | rfl
    · exact silent_of_union (hasPrefix_append _ _)
    · exact silent_of_policy (hasPrefix_append _ _)
  exact ⟨not_not.1 fun hno => hpermitted (.inl hno),
    ⟨rfl, agentNetworkScope_append fun g hg => (hmore g hg).1⟩, scopeOf_append hmore⟩

/-- The extension by email changes neither the identifier nor the class nor the team, which are
    valid. Only a manager is given one for a public agent. -/
theorem emailExtension_ok (h : emailExtension request credential identity = .ok identity') :
    Kin identity' identity ∧ scopeOf identity'.groups = scopeOf identity.groups ∧
      (∃ c team, scopeOf identity.groups = some (c, team)) ∧
      (¬ managesPublic credential → agentResourceScope identity'.groups =
        (agentResourceScope identity.groups).map (·.withoutExtension)) := by
  rw [emailExtension] at h
  dsimp only at h
  split at h
  · cases h
  next scope hvalid =>
  have hsome : ∃ c team, scopeOf identity.groups = some (c, team) :=
    ⟨_, _, scopeOf_of_agentResourceScope hvalid⟩
  have hkept : ¬ scope.resourceClass.isPublic → agentResourceScope identity.groups =
      (agentResourceScope identity.groups).map (·.withoutExtension) := by
    intro hpublic
    rw [hvalid, map_some, UserScope.withoutExtension, if_neg hpublic]
  have hfilter : ∀ g ∈ identity.groups, (!isEmailGroup g) = false → Silent g := by
    intro g _ hg
    rw [Bool.not_eq_false', isEmailGroup, Bool.or_eq_true] at hg
    exact hg.elim silent_of_union silent_of_policy
  have hscope := scopeOf_filter hfilter
  have hnetwork := agentNetworkScope_filter fun g hg hp => (hfilter g hg hp).1
  split_ifs at h with hcustom hteam
  · cases h
    exact ⟨.refl _, rfl, hsome, fun _ => hkept (by simp [hcustom, ResourceClass.isPublic])⟩
  · cases h
    exact ⟨.refl _, rfl, hsome, fun _ => hkept (by simp [hteam, ResourceClass.isPublic])⟩
  · -- Of a public agent, the extension is dropped.
    cases h
    refine ⟨⟨rfl, hnetwork⟩, hscope, hsome, fun _ => ?_⟩
    have hpublic : scope.resourceClass.isPublic := by
      revert hcustom hteam
      cases scope.resourceClass <;> simp [ResourceClass.isPublic]
    rw [agentResourceScope_filter_email hscope, hvalid, map_some, map_some,
      UserScope.withoutExtension, if_pos hpublic]
  · obtain ⟨hmanages, hkin, hsame⟩ := emailUnion_ok h
    exact ⟨hkin.trans ⟨rfl, hnetwork⟩, hsame.trans hscope, hsome, fun hno => absurd hmanages hno⟩

/-! ## The agent of a request -/

variable {c c' : Context} {requested : String} {faults : Faults}
  {enrollment : Option TeamAgentEnrollment}

/-- The agent is an enrolled node of a team, or the one that the credential asks
    for, with what it declares. -/
theorem resolveScopedAgentBase_ok (h : resolveScopedAgentBase faults c credential requested =
      (.ok (identity, enrollment), c')) :
    (deploymentCredential credential ∧ ∃ e, enrollment = some e ∧
        identity.groups = enrollmentGroups e) ∨
      (enrollment = none ∧ c'.request = c.request ∧
        (deploymentCredential credential → ¬ c.enrollments.has (c.request.target requested)) ∧
        (agentNetworkScope credential.groups = some "" ∨
          c.asked credential requested = credential) ∧
        declaredScope c.request credential (c.asked credential requested) = .ok identity) := by
  rw [resolveScopedAgentBase] at h
  cases hmanaged : resolveManagedTeam faults c credential requested with
  | some resolved =>
    rw [hmanaged] at h
    obtain ⟨r, c₁⟩ := resolved
    obtain ⟨hr, rfl⟩ := Prod.mk.inj h
    obtain ⟨⟨identity₁, e⟩, rfl, he⟩ := map_eq_ok.1 hr
    cases he
    rw [resolveManagedTeam] at hmanaged
    by_cases hdeployment : deploymentCredential credential
    · -- The node is enrolled, with the groups of its team.
      simp only [hdeployment, not_true_eq_false, if_false] at hmanaged
      split_ifs at hmanaged
      all_goals cases hmanaged
      exact .inl ⟨hdeployment, _, rfl, rfl⟩
    · rw [if_pos hdeployment] at hmanaged
      cases hmanaged
  | none =>
    rw [hmanaged] at h
    cases hidentity : resolveAgentIdentity c credential requested with
    | mk r =>
      rw [hidentity] at h
      rcases r with e | found
      · cases h
      obtain ⟨hr, rfl⟩ := Prod.mk.inj h
      obtain ⟨identity₁, hdeclared, he⟩ := map_eq_ok.1 hr
      cases he
      obtain ⟨hasked, hrequest, hself⟩ := resolveAgentIdentity_ok hidentity
      rw [hrequest, hasked] at hdeclared
      rw [hasked] at hself
      refine .inr ⟨rfl, hrequest, fun hdeployment => ?_, hself, hdeclared⟩
      simp only [resolveManagedTeam, hdeployment, not_true_eq_false, if_false] at hmanaged
      split_ifs at hmanaged with _ _ _ hhas
      exact hhas

/-- The agent that a request names: a credential that is bound to a node names itself. -/
def Context.named (c : Context) (credential : Identity) (requested : String) : Identity :=
  if credential.nodeID ≠ "" then credential else c.asked credential requested

/-- The scope that an accepted request is given: that of the agent it names. Unless the
    credential is bound to a node, the flag is that of the request, and an extension by
    email is not kept. -/
def Context.granted (c : Context) (credential : Identity) (requested : String) :
    Option UserScope :=
  let scope := agentResourceScope (c.named credential requested).groups
  if credential.nodeID ≠ "" then scope
  else scope.map fun scope =>
    { scope with customAllowFree := c.request.customAllowFree == "true" }.withoutExtension

/-- The agent of a request that is not an enrolled node: it is the one named, of the
    same team. Unless the credential manages the public pools, it has the scope that is
    granted. -/
structure Plain (c : Context) (credential : Identity) (requested : String) (identity : Identity) :
    Prop where
  kin : Kin identity (c.named credential requested)
  valid : ∃ cls team, scopeOf identity.groups = some (cls, team)
  scope : ¬ managesPublic credential →
    agentResourceScope identity.groups = c.granted credential requested
  unenrolled : deploymentCredential credential → ¬ c.enrollments.has identity.id

/-- A credential that is bound to a node is resolved to itself. Its scope is valid. -/
theorem resolveNodeBoundAgent_ok
    (h : (resolveNodeBoundAgent faults c credential requested).1 = .ok identity) :
    identity.id = credential.id ∧ identity.groups = credential.groups ∧
      ∃ cls team, scopeOf credential.groups = some (cls, team) := by
  rw [resolveNodeBoundAgent] at h
  split_ifs at h
  dsimp only at h
  split at h
  · cases h
  next scope hscope =>
  have hvalid := scopeOf_of_agentResourceScope hscope
  split_ifs at h
  generalize scope.resourceClass = cls at h hvalid
  cases cls with
  | custom =>
    rw [nodeBoundOfClass] at h
    split_ifs at h
    cases h
    exact ⟨rfl, rfl, _, _, hvalid⟩
  | team =>
    cases hbase : resolveScopedAgentBase faults c credential requested with
    | mk =>
      rw [nodeBoundOfClass, hbase] at h
      obtain ⟨⟨_, _⟩, rfl, rfl⟩ := map_eq_ok.1 h
      -- A credential of a team is resolved to itself.
      obtain ⟨hnetwork, hname⟩ := scopeOf_team hvalid
      rcases resolveScopedAgentBase_ok hbase with ⟨hdeployment, -⟩ | ⟨-, -, -, hself, hdeclared⟩
      · simp [deploymentCredential, hvalid] at hdeployment
      have hasked : c.asked credential requested = credential := by
        refine hself.resolve_left fun hpublic => hname.1 rfl ?_
        exact some.inj (hnetwork.symm.trans hpublic)
      rw [hasked] at hdeclared
      rcases declaredScope_ok hdeclared with rfl | ⟨-, hne, -⟩
      · exact ⟨rfl, rfl, _, _, hvalid⟩
      · exact absurd hvalid (hne _)
  | _ =>
    cases h
    exact ⟨rfl, rfl, _, _, hvalid⟩

/-- The extensions keep the identifier, the class and the team of an agent. -/
theorem extended_ok (h : extended request credential identity enrollment = .ok identity') :
    Kin identity' identity ∧ scopeOf identity'.groups = scopeOf identity.groups ∧
      (enrollment = none → (∃ cls team, scopeOf identity.groups = some (cls, team)) ∧
        (¬ managesPublic credential → agentResourceScope identity'.groups =
          (agentResourceScope identity.groups).map (·.withoutExtension))) := by
  cases enrollment with
  | none =>
    obtain ⟨hkin, hscope, hvalid⟩ := emailExtension_ok h
    exact ⟨hkin, hscope, fun _ => hvalid⟩
  | some =>
    rw [extended] at h
    split_ifs at h
    · cases h
      exact ⟨.refl _, rfl, by simp⟩
    · obtain ⟨hkin, hscope, hvalid⟩ := emailExtension_ok h
      exact ⟨hkin, hscope, fun _ => hvalid⟩

/-- The agent of an accepted request is a node that the deployment credential
    enrols for a team, or the agent that the request names. -/
theorem resolveScopedAgent_ok
    (h : (resolveScopedAgent faults c credential requested).1 = .ok identity) :
    (deploymentCredential credential ∧ ∃ e, scopeOf identity.groups = scopeOf (enrollmentGroups e)) ∨
      Plain c credential requested identity := by
  rw [resolveScopedAgent] at h
  by_cases hnode : credential.nodeID ≠ ""
  · rw [if_pos hnode] at h
    obtain ⟨hid, hgroups, hvalid⟩ := resolveNodeBoundAgent_ok h
    have hnamed : c.named credential requested = credential := if_pos hnode
    refine .inr ⟨?_, hgroups ▸ hvalid, fun _ => ?_, fun hdeployment => ?_⟩
    · rw [hnamed]
      exact ⟨hid, by rw [hgroups]⟩
    · rw [Context.granted, if_pos hnode, hnamed, hgroups]
    · rw [hid]
      exact not_has_of_deployment hdeployment _
  · rw [if_neg hnode, resolveScopedAgentLegacy] at h
    have hnamed : c.named credential requested = c.asked credential requested := if_neg hnode
    cases hbase : resolveScopedAgentBase faults c credential requested with
    | mk r c₂ =>
      rw [hbase] at h
      rcases r with e | found
      · cases h
      obtain ⟨identity₁, _⟩ := found
      rcases hfree : freeAudience c₂.request credential identity₁ with _ | identity₂ <;>
        simp only [hfree, Except.map, reduceCtorEq] at h
      obtain ⟨hkin, hscope, hvalid⟩ := extended_ok h
      obtain ⟨hkin', hscope', -⟩ := freeAudience_ok hfree
      have hsame := hscope.trans hscope'
      rcases resolveScopedAgentBase_ok hbase with
        ⟨hdeployment, e, rfl, hgroups⟩ | ⟨rfl, hrequest, hhas, -, hdeclared⟩
      · exact .inl ⟨hdeployment, e, by rw [hsame, hgroups]⟩
      have hasked : Kin identity (c.asked credential requested) := by
        refine (hkin.trans hkin').trans ?_
        rcases declaredScope_ok hdeclared with rfl | ⟨-, -, hpool⟩
        · exact .refl _
        · exact hpool
      refine .inr ⟨hnamed ▸ hasked, hscope ▸ (hvalid rfl).1, fun hmanages => ?_,
        fun hdeployment => ?_⟩
      · rw [Context.granted, if_neg hnode, hnamed, (hvalid rfl).2 hmanages,
          agentResourceScope_of_freeAudience hfree, hrequest, map_map]
        rcases declaredScope_ok hdeclared with rfl | ⟨hpool, -⟩
        · rfl
        · exact absurd hpool hmanages
      rw [hasked.id_eq, Context.asked]
      split_ifs
      · exact not_has_of_deployment hdeployment _
      · rw [registerAgent_id]
        exact hhas hdeployment

/-! ## Confinement -/

/-- The agent of an accepted request has the scope of its credential, unless the credential manages
    the public pools; and an enrolled node is not taken for one of a public pool. -/
def Confined (faults : Faults) (c : Context) (credential : Identity) (requested : String) : Prop :=
  ∀ identity, (resolveScopedAgent faults c credential requested).1 = .ok identity →
    (¬ managesPublic credential →
      agentResourceScope identity.groups = agentResourceScope credential.groups) ∧
    (c.enrollments.has identity.id →
      ∀ cls team, scopeOf identity.groups = some (cls, team) → cls = .team)

/-- The scope that is granted is not that of the credential; or the request names an enrolled node
    that is known as a public one, with a credential that does not enrol nodes. -/
def Strays (c : Context) (credential : Identity) (requested : String) : Bool :=
  let named := c.named credential requested
  (!managesPublic credential &&
      c.granted credential requested != agentResourceScope credential.groups) ||
    (!deploymentCredential credential && c.enrollments.has named.id &&
      agentNetworkScope named.groups == some "")

theorem strays_eq_false_iff : Strays c credential requested = false ↔
      (¬ managesPublic credential →
        c.granted credential requested = agentResourceScope credential.groups) ∧
      (¬ deploymentCredential credential → c.enrollments.has (c.named credential requested).id →
        agentNetworkScope (c.named credential requested).groups ≠ some "") := by
  simp [Strays]

/-- For the agent that a request names, the two conditions are those of the request. -/
theorem Plain.within_iff (h : Plain c credential requested identity) :
    ((¬ managesPublic credential →
        agentResourceScope identity.groups = agentResourceScope credential.groups) ∧
      (c.enrollments.has identity.id →
        ∀ cls team, scopeOf identity.groups = some (cls, team) → cls = .team)) ↔
      Strays c credential requested = false := by
  rw [strays_eq_false_iff, ← h.kin.id_eq, ← h.kin.network_eq]
  obtain ⟨cls, team, hvalid⟩ := h.valid
  obtain ⟨hnetwork, hteam⟩ := scopeOf_team hvalid
  refine and_congr (forall_congr' fun hmanages => by rw [h.scope hmanages])
    ⟨fun hpool _ hhas hpublic => ?_, fun hpool hhas cls' team' hcls => ?_⟩
  · have hempty : team = "" := some.inj (hnetwork.symm.trans hpublic)
    exact hteam.1 (hpool hhas cls team hvalid) hempty
  obtain ⟨rfl, rfl⟩ := Prod.mk.inj (some.inj (hvalid.symm.trans hcls))
  by_cases hdeployment : deploymentCredential credential
  · exact absurd hhas (h.unenrolled hdeployment)
  refine hteam.2 fun hempty => hpool hdeployment hhas ?_
  rw [hnetwork, hempty]

end

end

section

/-! ## Requests that stray -/

local instance : Unicode := Unicode.ascii
local instance : Sha256 := ⟨id⟩
local instance : Mail := ⟨some, fun _ => "", fun _ => none⟩

/-- The credential of an agent of the plus pool. -/
def plusCredential : Identity := { id := "edge", name := "edge", groups := ["resource:plus"] }

/-- A request for the agent `node`, without a class. -/
def nodeRequest : Request := { agentID := "node" }

/-- It is known as an agent of the pro pool. -/
def proNode : Identity := { id := "node", name := "node", groups := ["resource:pro"] }

/-- It was enrolled for a team. -/
def blueNode : TeamAgentEnrollment := ⟨"node", "blue", "blue", .approved⟩

/-- The credential of the team. -/
def blueCredential : Identity := { id := "edge", name := "edge", groups := ["team:blue"] }

end

end Accounts.Agents

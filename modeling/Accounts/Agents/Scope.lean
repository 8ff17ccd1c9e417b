import Accounts.Base.World
import Mathlib.Data.List.Sort

/-!
# The scope of an agent

The groups of an agent say which users it serves: those of a team, or of a public
pool (`agentResourceScope`, in `api/network_access.go`). Groups that contradict
each other, or that misspell a reserved one, give no scope at all.

Most groups say nothing about the scope. Taking some of them away, or adding
others, leaves it as it is (`agentNetworkScope_filter`, `scopeOf_filter`, and for
groups that are added `agentNetworkScope_append`, `scopeOf_append`). A group is
of this kind if its first letter is not one of the reserved groups
(`Neutral.of_head`).
-/

namespace Accounts.Agents

open Text List

/-! ## Classes -/

/-- The pools of nodes, and the nodes of a team. -/
inductive ResourceClass
  | shared
  | free
  | plus
  | pro
  | custom
  | team
  deriving DecidableEq

namespace ResourceClass

/-- How a class is written. -/
def text : ResourceClass → String
  | shared => "shared"
  | free => "free"
  | plus => "plus"
  | pro => "pro"
  | custom => "custom"
  | team => "team"

/-- The class of a name. -/
def parse (name : String) : Option ResourceClass :=
  [shared, free, plus, pro, custom, team].find? (·.text == name)

/-- The class that a `resource:` group may name: not that of a team. -/
def parsePool (name : String) : Option ResourceClass :=
  [shared, free, plus, pro, custom].find? (·.text == name)

/-- A pool whose nodes may have an extension by email (`PublicResourceClass`). -/
def isPublic : ResourceClass → Bool
  | shared | free | plus | pro => true
  | custom | team => false

end ResourceClass

/-- The scope of a node. -/
structure UserScope where
  emailPolicy : String := ""
  emailDigest : String := ""
  customAllowFree : Bool := false
  resourceClass : ResourceClass := .shared
  teamID : String := ""
  deriving DecidableEq

/-! ## Emails -/

/-- Email addresses as the standard library reads them, and lists of texts as
    JSON. No proof depends on them. -/
class Mail where
  parseAddress : String → Option String
  marshal : List String → String
  unmarshal : String → Option (List String)

def publicEmailUnionPolicy : String := "public-union-v1"

def unionEmailPrefix : String := "node-email-union:"

def emailPolicyPrefix : String := "node-email-policy:"

section

variable [Unicode] [Mail]

/-- One more address of a node, in lower case and once only. -/
def addNodeEmail (out : List String) (raw : String) : Option (List String) :=
  let email := toLower (trimSpace raw)
  if Mail.parseAddress email ≠ some email ∨ containsAny email "*?" then none
  else some (if out.contains email then out else out ++ [email])

/-- The addresses of a node, in order (`NormalizeNodeEmails`). -/
def normalizeNodeEmails (emails : List String) : Option (List String) :=
  if emails.length > 256 then none
  else (emails.foldlM addNodeEmail []).map (List.insertionSort (· ≤ ·))

/-- The node has an extension by email. -/
def hasPublicUnionPolicy (groups : List String) : Bool :=
  groups.any (· == emailPolicyPrefix ++ publicEmailUnionPolicy)

/-- The addresses that the groups of a node name. -/
def publicUnionEmails (groups : List String) : List String :=
  (normalizeNodeEmails ((groups.filter (hasPrefix · unionEmailPrefix)).map
    (trimPrefix · unionEmailPrefix))).getD []

/-- The digest of the addresses of a node (`NodeEmailDigest`). -/
def nodeEmailDigest [Sha256] (emails : List String) : String :=
  Sha256.hex ("\n".intercalate emails)

end

/-! ## Scopes -/

section

variable [Unicode]

/-- A letter or a digit, of which the names of teams consist. -/
def isTeamChar (c : Char) : Bool := ('a' ≤ c && c ≤ 'z') || ('0' ≤ c && c ≤ '9')

/-- The name of a team (`networkTeamIDPattern`). -/
def isNetworkTeamID (id : String) : Bool :=
  match id.toList with
  | [] => false
  | c :: rest => isTeamChar c && rest.length ≤ 62 && rest.all fun c => isTeamChar c || c == '-'

/-- The group is a misspelled reserved one, or one of the administration. -/
def malformed (g : String) : Bool :=
  let lower := toLower g
  hasPrefix lower "team-admin:" || (hasPrefix lower "team:" && !hasPrefix g "team:") ||
    (lower == "access:dedicated-only" && g != lower)

/-- The groups in turn, with the team and whether the node is dedicated so far. -/
def networkScopeFrom : List String → String → Bool → Option String
  | [], team, dedicated => if dedicated ∧ team = "" then none else some team
  | g :: groups, team, dedicated =>
    let g := trimSpace g
    if malformed g then none else
    let dedicated := dedicated || g == "access:dedicated-only"
    if ¬ hasPrefix g "team:" then networkScopeFrom groups team dedicated else
    let id := trimPrefix g "team:"
    if ¬ isNetworkTeamID id ∨ (team ≠ "" ∧ team ≠ id) then none
    else networkScopeFrom groups id dedicated

/-- The team of a node: empty for a public one, and none if the groups are invalid. -/
def agentNetworkScope (groups : List String) : Option String := networkScopeFrom groups "" false

def agentResourceGroupPrefix : String := "resource:"

omit [Unicode] in
/-- The class of a pool, which is the one seen so far, if any. -/
def nextClass (seen : Option ResourceClass) (name : String) : Option ResourceClass :=
  match ResourceClass.parsePool name with
  | none => none
  | some c => if seen ≠ none ∧ seen ≠ some c then none else some c

omit [Unicode] in
/-- The groups in turn, with the class seen so far. -/
def resourceClassFrom : List String → Option ResourceClass → Option (Option ResourceClass)
  | [], seen => some seen
  | g :: groups, seen =>
    let g := trimSpace g
    if ¬ hasPrefix g agentResourceGroupPrefix then resourceClassFrom groups seen else
    (nextClass seen (trimPrefix g agentResourceGroupPrefix)).bind fun c =>
      resourceClassFrom groups (some c)

/-- The class and the team that the groups of a node give it. -/
def scopeOf (groups : List String) : Option (ResourceClass × String) :=
  match agentNetworkScope groups with
  | none => none
  | some team =>
    match resourceClassFrom groups (if team = "" then none else some .team) with
    | none => none
    | some seen =>
      let c := seen.getD .shared
      if c = .team ∧ seen ≠ some .team then none else
      if c ≠ .team ∧ team ≠ "" then none else
      some (c, team)

/-- The scope that the groups of a node give it. -/
def agentResourceScope [Mail] [Sha256] (groups : List String) : Option UserScope :=
  (scopeOf groups).map fun (c, team) =>
    { emailPolicy := if hasPublicUnionPolicy groups then publicEmailUnionPolicy else ""
      emailDigest := if hasPublicUnionPolicy groups then nodeEmailDigest (publicUnionEmails groups)
        else ""
      customAllowFree := groups.contains "custom:allow-free"
      resourceClass := c
      teamID := team }

/-! ## Groups that say nothing -/

/-- A group that says nothing about the team. -/
structure Neutral (g : String) : Prop where
  wellFormed : malformed (trimSpace g) = false
  dedicated : (trimSpace g == "access:dedicated-only") = false
  team : hasPrefix (trimSpace g) "team:" = false

variable {g : String}

/-- A group that does not begin like a reserved one, in either case. -/
theorem Neutral.of_head {c : Char} {rest : List Char} (hg : (trimSpace g).toList = c :: rest)
    (hascii : c.val < 128) (ht : c.toLower ≠ 't') (ha : c.toLower ≠ 'a') : Neutral g := by
  have hlower : (toLower (trimSpace g)).toList = c.toLower :: rest.map Unicode.toLower := by
    simp [toLower, hg, Unicode.toLower_ascii c hascii]
  have hc : c ≠ 't' ∧ c ≠ 'a' := by
    constructor
    · rintro rfl
      exact ht rfl
    · rintro rfl
      exact ha rfl
  refine ⟨?_, beq_eq_false hg rfl hc.2.symm, hasPrefix_eq_false hg rfl hc.1.symm⟩
  have hadmin : hasPrefix (toLower (trimSpace g)) "team-admin:" = false :=
    hasPrefix_eq_false hlower rfl ht.symm
  have hteam : hasPrefix (toLower (trimSpace g)) "team:" = false :=
    hasPrefix_eq_false hlower rfl ht.symm
  have haccess : (toLower (trimSpace g) == "access:dedicated-only") = false :=
    beq_eq_false hlower rfl ha.symm
  simp only [malformed, hadmin, hteam, haccess, Bool.false_and, Bool.or_false]

theorem networkScopeFrom_cons (hg : Neutral g) (groups : List String) (team : String)
    (dedicated : Bool) :
    networkScopeFrom (g :: groups) team dedicated = networkScopeFrom groups team dedicated := by
  simp only [networkScopeFrom, hg.wellFormed, hg.dedicated, hg.team, Bool.or_false,
    Bool.false_eq_true, if_false, not_false_eq_true, if_true]

omit [Unicode] in
theorem resourceClassFrom_cons (hg : hasPrefix (trimSpace g) agentResourceGroupPrefix = false)
    (groups : List String) (seen : Option ResourceClass) :
    resourceClassFrom (g :: groups) seen = resourceClassFrom groups seen := by
  simp only [resourceClassFrom, hg, Bool.false_eq_true, not_false_eq_true, if_true]

variable {p : String → Bool} {groups : List String}

/-- Groups that say nothing about the team can be taken away. -/
theorem agentNetworkScope_filter (h : ∀ g ∈ groups, p g = false → Neutral g) :
    agentNetworkScope (groups.filter p) = agentNetworkScope groups := by
  have hfrom : ∀ team dedicated, networkScopeFrom (groups.filter p) team dedicated =
      networkScopeFrom groups team dedicated := by
    induction groups with
    | nil => exact fun _ _ => rfl
    | cons g _ ih =>
      have ih := ih fun g hg => h g (mem_cons_of_mem _ hg)
      intro _ _
      cases hp : p g with
      | true =>
        rw [filter_cons_of_pos hp]
        simp only [networkScopeFrom, ih]
      | false =>
        rw [filter_cons_of_neg (by simp [hp]), ih,
          networkScopeFrom_cons (h g mem_cons_self hp)]
  exact hfrom "" false

variable {more : List String}

/-- Groups that say nothing about the team can be added. -/
theorem agentNetworkScope_append (h : ∀ g ∈ more, Neutral g) :
    agentNetworkScope (groups ++ more) = agentNetworkScope groups := by
  have hmore : ∀ team dedicated, networkScopeFrom more team dedicated =
      networkScopeFrom [] team dedicated := by
    induction more with
    | nil => exact fun _ _ => rfl
    | cons g _ ih =>
      intro _ _
      rw [networkScopeFrom_cons (h g mem_cons_self),
        ih fun g hg => h g (mem_cons_of_mem _ hg)]
  have hfrom : ∀ team dedicated, networkScopeFrom (groups ++ more) team dedicated =
      networkScopeFrom groups team dedicated := by
    induction groups with
    | nil => exact hmore
    | cons g _ ih =>
      intro _ _
      simp only [cons_append, networkScopeFrom, ih]
  exact hfrom "" false

omit [Unicode] in
theorem resourceClassFrom_filter (h : ∀ g ∈ groups, p g = false →
      hasPrefix (trimSpace g) agentResourceGroupPrefix = false)
    (seen : Option ResourceClass) :
    resourceClassFrom (groups.filter p) seen = resourceClassFrom groups seen := by
  induction groups generalizing seen with
  | nil => rfl
  | cons g _ ih =>
    have ih := ih fun g hg => h g (mem_cons_of_mem _ hg)
    cases hp : p g with
    | true =>
      rw [filter_cons_of_pos hp]
      simp only [resourceClassFrom, ih]
    | false =>
      rw [filter_cons_of_neg (by simp [hp]), ih,
        resourceClassFrom_cons (h g mem_cons_self hp)]

omit [Unicode] in
theorem resourceClassFrom_append
    (h : ∀ g ∈ more, hasPrefix (trimSpace g) agentResourceGroupPrefix = false)
    (seen : Option ResourceClass) :
    resourceClassFrom (groups ++ more) seen = resourceClassFrom groups seen := by
  induction groups generalizing seen with
  | nil =>
    induction more with
    | nil => rfl
    | cons g _ ih =>
      rw [nil_append, resourceClassFrom_cons (h g mem_cons_self)]
      exact ih fun g hg => h g (mem_cons_of_mem _ hg)
  | cons g _ ih => simp only [cons_append, resourceClassFrom, ih]

/-- A group that says nothing about the scope. -/
def Silent (g : String) : Prop :=
  Neutral g ∧ hasPrefix (trimSpace g) agentResourceGroupPrefix = false

/-- A group that begins like no reserved one. -/
theorem Silent.of_head {c : Char} {rest : List Char} (hg : g.toList = c :: rest)
    (hspace : isSpace c = false) (hascii : c.val < 128) (ht : c.toLower ≠ 't')
    (ha : c.toLower ≠ 'a') (hr : c ≠ 'r') : Silent g := by
  obtain ⟨_, htrim⟩ := trimSpace_toList_cons hg hspace
  exact ⟨.of_head htrim hascii ht ha, hasPrefix_eq_false htrim rfl hr.symm⟩

/-- Groups that say nothing about the scope can be taken away. -/
theorem scopeOf_filter (h : ∀ g ∈ groups, p g = false → Silent g) :
    scopeOf (groups.filter p) = scopeOf groups := by
  rw [scopeOf, scopeOf, agentNetworkScope_filter fun g hg hp => (h g hg hp).1]
  simp only [resourceClassFrom_filter fun g hg hp => (h g hg hp).2]

/-- Groups that say nothing about the scope can be added. -/
theorem scopeOf_append (h : ∀ g ∈ more, Silent g) : scopeOf (groups ++ more) = scopeOf groups := by
  rw [scopeOf, scopeOf, agentNetworkScope_append fun g hg => (h g hg).1]
  simp only [resourceClassFrom_append fun g hg => (h g hg).2]

omit [Unicode] in
theorem nextClass_ne_team {seen : Option ResourceClass} {name : String} {c : ResourceClass}
    (h : nextClass seen name = some c) : c ≠ .team := by
  rw [nextClass] at h
  split at h
  · cases h
  next c' hparse =>
  split_ifs at h
  cases h
  have hmem := mem_of_find?_eq_some hparse
  rintro rfl
  simp at hmem

omit [Unicode] in
/-- No group gives the class of a team. -/
theorem seen_of_resourceClassFrom {seen : Option ResourceClass}
    (h : resourceClassFrom groups seen = some (some .team)) : seen = some .team := by
  induction groups generalizing seen with
  | nil => exact Option.some.inj h
  | cons g _ ih =>
    rw [resourceClassFrom] at h
    split_ifs at h
    · obtain ⟨c, hnext, hrest⟩ := Option.bind_eq_some_iff.1 h
      exact absurd (Option.some.inj (ih hrest)) (nextClass_ne_team hnext)
    · exact ih h

/-- A scope is that of a team exactly if it names one. -/
theorem scopeOf_team {c : ResourceClass} {team : String} (h : scopeOf groups = some (c, team)) :
    agentNetworkScope groups = some team ∧ (c = .team ↔ team ≠ "") := by
  rw [scopeOf] at h
  rcases hnetwork : agentNetworkScope groups with _ | t <;> simp only [hnetwork, reduceCtorEq] at h
  split at h
  · cases h
  next seen hseen =>
  split_ifs at h with hteam hpool
  obtain ⟨rfl, rfl⟩ := Prod.mk.inj (Option.some.inj h)
  refine ⟨rfl, fun hc ht => ?_, fun ht => ?_⟩
  · have hsome : seen = some .team := by
      by_contra hne
      exact hteam ⟨hc, hne⟩
    rw [hsome, if_pos ht] at hseen
    cases seen_of_resourceClassFrom hseen
  · by_contra hc
    exact hpool ⟨hc, ht⟩

/-- The extension by email, and the flag, say nothing about the scope. -/
theorem silent_allowFree : Silent "custom:allow-free" :=
  .of_head rfl rfl (by decide) (by decide) (by decide) (by decide)

theorem silent_of_union (h : hasPrefix g unionEmailPrefix) : Silent g := by
  obtain ⟨_, hg⟩ := toList_of_hasPrefix h rfl
  exact .of_head hg rfl (by decide) (by decide) (by decide) (by decide)

theorem silent_of_policy (h : hasPrefix g emailPolicyPrefix) : Silent g := by
  obtain ⟨_, hg⟩ := toList_of_hasPrefix h rfl
  exact .of_head hg rfl (by decide) (by decide) (by decide) (by decide)

end

end Accounts.Agents

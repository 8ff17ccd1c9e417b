import Accounts.Agents.Entitlement
import Accounts.Agents.Resolve

/-!
# The pools that a user is offered

A node reports where it is and how it is doing (`api/agent_server.go`), and the service keeps
its last report. The nodes that a user may use are offered to them in pools, one for each
region, entry and class (`regionalPoolsForUser`, in `api/agent_routes.go`).

Every pool has a list of its nodes here, which the answer to the user does not have. A node is
in a pool exactly if it passes the checks of the loop (`mem_regionalPoolsForUser`).
-/

namespace Accounts.Agents

open Table Text AList List

/-! ## Reports -/

/-- What a node reports about its proxy. -/
structure XrayStatus where
  allowedEmails : List String := []
  running : Bool := false
  clients : Int := 0
  lastSync : Option Time := none
  region : String := ""
  pool : String := ""
  entryPoint : String := ""
  openToUsers : Option Bool := none
  deriving DecidableEq

/-- What a node reports. -/
structure StatusReport where
  role : String := ""
  healthy : Bool := false
  users : Int := 0
  syncRevision : String := ""
  xray : XrayStatus := {}
  deriving DecidableEq

/-- The last report of a node. The time is zero if it has not reported. -/
structure StatusSnapshot where
  agent : Identity
  report : StatusReport := {}
  updatedAt : Time := 0
  deriving DecidableEq

/-- A URL as the standard library reads it (`url.Parse`), and which texts are addresses
    (`net.ParseIP`). No proof depends on them. -/
class URLs where
  scheme : String → Option String
  hasUser : String → Bool
  hostname : String → String
  isIP : String → Bool

/-- A part of the name of a host. -/
def isHostLabel (label : String) : Bool :=
  label != "" && !hasPrefix label "-" && !label.toList.getLast?.any (· == '-') &&
    label.toList.all fun c => ('a' ≤ c && c ≤ 'z') || ('0' ≤ c && c ≤ '9') || c == '-'

section

variable [Unicode]

/-- The host of an entry; empty if it is none. -/
def regionalEntryHost [URLs] (raw : String) : String :=
  let value := trimSpace raw
  let value := if (value.splitOn "://").length ≤ 1 then "https://" ++ value else value
  match URLs.scheme value with
  | none => ""
  | some scheme =>
    if URLs.hasUser value ∨ (scheme ≠ "http" ∧ scheme ≠ "https") then "" else
    let host := URLs.hostname value
    let host := toLower (if host.toList.getLast? = some '.' then
      String.ofList host.toList.dropLast else host)
    if host = "" ∨ host = "*" ∨ URLs.isIP host ∨ ¬ '.' ∈ host.toList then "" else
    if ((host.toList.splitOn '.').map String.ofList).all isHostLabel then host else ""

/-- The addresses of a report are those of the credential if it is bound to a node, and
    those of the groups for a public node (`reportAgentStatus`). -/
def scopedReport [Mail] [Sha256] (identity : Identity) (report : StatusReport) : StatusReport :=
  let emails :=
    if (agentResourceScope identity.groups).any (·.resourceClass.isPublic) then
      publicUnionEmails identity.groups
    else if identity.nodeID ≠ "" then identity.allowedEmails
    else report.xray.allowedEmails
  { report with xray := { report.xray with allowedEmails := emails } }

/-! ## The checks of the loop -/

section

variable (s : StatusSnapshot)

omit [Unicode] in
/-- The addresses that a node is for. -/
def StatusSnapshot.customEmails : List String :=
  if s.report.xray.allowedEmails = [] ∧ s.agent.nodeID ≠ "" then s.agent.allowedEmails
  else s.report.xray.allowedEmails

/-- The region of a node. -/
def StatusSnapshot.region : String :=
  toLower (trimSpace s.report.xray.region)

/-- The entry of a node. -/
def StatusSnapshot.entry [URLs] : String :=
  regionalEntryHost s.report.xray.entryPoint

end

variable [Mail] [GrantCodec]

omit [Mail] in
/-- The user has a grant for a node of their own addresses. -/
def tempFreeAllowed (access : NetworkAccess) (user : User) (packageName : String) (now : Time)
    (s : StatusSnapshot) : Bool :=
  access.mode ≠ .dedicated && effectiveAgentResourceClass access user packageName = .free &&
    s.agent.nodeID != "" && !s.customEmails.isEmpty &&
    (activeAgentFreeGrant user s.agent.nodeID now).isSome

/-- The class of a node is for a user. -/
def classAllowed (scope : UserScope) (access : NetworkAccess) (user : User) (packageName : String)
    (now : Time) (s : StatusSnapshot) : Bool :=
  let wantClass := effectiveAgentResourceClass access user packageName
  let wantTeam := trimSpace access.teamID
  match scope.resourceClass with
  | .custom =>
    !s.customEmails.isEmpty && (wantClass = .plus || wantClass = .pro ||
      (scope.customAllowFree && wantClass = .free) ||
      tempFreeAllowed access user packageName now s)
  | .team => wantClass = .team && wantTeam != "" && trimSpace scope.teamID == wantTeam
  | c => publicAgentResourceClassAllows c wantClass ||
      publicEmailOverride scope s.agent.groups access user

variable [Sha256] [URLs]

/-- The node is in a pool that a user is offered. A node without a valid scope has no class,
    and is in none. -/
def StatusSnapshot.offered (s : StatusSnapshot) (access : NetworkAccess) (user : User)
    (packageName : String) (now : Time) : Bool :=
  match agentResourceScope s.agent.groups with
  | none => false
  | some scope =>
    if scope.resourceClass = .custom ∧ ¬ agentEmailAllowed s.customEmails user.email ∧
        ¬ tempFreeAllowed access user packageName now s then false
    else if s.updatedAt.isZero ∨ (s.report.role ≠ "" ∧ s.report.role ≠ "agent-proxy") ∨
        ¬ networkScopeAllows access s.agent.groups then false
    else if s.region = "" ∨ s.entry = "" then false
    else classAllowed scope access user packageName now s

end

/-! ## Pools -/

/-- Why a pool is closed. -/
inductive ClosureReason
  | explicitDisabled
  | stale
  | unhealthy
  | xrayNotRunning
  deriving DecidableEq

def regionalHeartbeatTTL : Int := 5 * Time.minute

/-- A pool, with its nodes. -/
structure RegionalPool where
  isPrivate : Bool
  code : String
  entry : String
  displayName : String
  resourceClass : ResourceClass
  teamID : String
  poolCount : Nat := 0
  openToUsers : Bool := false
  closedReasons : List ClosureReason := []
  nodes : List StatusSnapshot := []

/-- A pool that is put together: the names of its nodes, and why some of them are closed. -/
structure Aggregate where
  pool : RegionalPool
  ids : List String := []
  reasons : List ClosureReason := []

section

variable (s : StatusSnapshot)

/-- The last report is recent. -/
def StatusSnapshot.fresh (now : Time) : Bool :=
  decide (s.updatedAt ≤ now) && decide (now - s.updatedAt ≤ regionalHeartbeatTTL)

/-- The node has not closed itself. -/
def StatusSnapshot.isOpen : Bool := s.report.xray.openToUsers.getD true

/-- Why a node is closed. -/
def StatusSnapshot.reasons (now : Time) : List ClosureReason :=
  (if s.isOpen then [] else [.explicitDisabled]) ++ (if s.fresh now then [] else [.stale]) ++
    (if s.report.healthy then [] else [.unhealthy]) ++
    (if s.report.xray.running then [] else [.xrayNotRunning])

end

/-- A node is put into a pool. -/
def Aggregate.add (now : Time) (g : Aggregate) (s : StatusSnapshot) : Aggregate :=
  let id := if trimSpace s.report.xray.pool = "" then s.agent.id
    else trimSpace s.report.xray.pool
  { pool :=
      { g.pool with
        displayName := if g.pool.displayName = "" then trimSpace s.agent.name
          else g.pool.displayName
        openToUsers := g.pool.openToUsers ||
          (s.isOpen && s.fresh now && s.report.healthy && s.report.xray.running)
        nodes := g.pool.nodes ++ [s] }
    ids := if id ∈ g.ids then g.ids else g.ids ++ [id]
    reasons := g.reasons ++ s.reasons now }

/-- The pool in the answer: how many nodes it has, and why it is closed. -/
def Aggregate.finish (g : Aggregate) : RegionalPool :=
  { g.pool with
    poolCount := g.ids.length
    closedReasons := if g.pool.openToUsers then [] else
      [.explicitDisabled, .stale, .unhealthy, .xrayNotRunning].filter (· ∈ g.reasons) }

section

variable [Unicode] [Mail] [GrantCodec] [Sha256] [URLs]

section

variable (s : StatusSnapshot) (scope : UserScope)

omit [GrantCodec] in
/-- The pool of a node that begins. -/
def StatusSnapshot.newPool : RegionalPool where
  isPrivate := scope.resourceClass = .custom && !s.customEmails.isEmpty
  code := s.region
  entry := s.entry
  displayName := trimSpace s.agent.name
  resourceClass := scope.resourceClass
  teamID := trimSpace scope.teamID

/-- The name under which the pool of a node is kept. -/
def StatusSnapshot.poolKey : String :=
  s.region ++ "\x00" ++ s.entry ++ "\x00" ++ scope.resourceClass.text ++ "\x00" ++
    trimSpace scope.teamID

end

/-- A node that is offered is put into its pool. -/
def place (now : Time) (groups : Table String Aggregate) (s : StatusSnapshot) :
    Table String Aggregate :=
  match agentResourceScope s.agent.groups with
  | none => groups
  | some scope =>
    groups.insert (s.poolKey scope)
      (((groups.lookup (s.poolKey scope)).getD ⟨s.newPool scope, [], []⟩).add now s)

/-- The pools that a user is offered. -/
def regionalPoolsForUser (statuses : List StatusSnapshot) (access : NetworkAccess) (user : User)
    (packageName : String) (now : Time) : List RegionalPool :=
  ((rows ((statuses.filter (·.offered access user packageName now)).foldl (place now) ∅)).map
    Aggregate.finish).insertionSort fun x y =>
      x.code < y.code ∨ (x.code = y.code ∧ x.entry ≤ y.entry)

/-! ## The nodes of the pools -/

omit [GrantCodec] in
/-- A pool keeps its nodes when one is put in. -/
theorem mem_nodes_place {now : Time} {groups : Table String Aggregate} {s x : StatusSnapshot}
    {scope : UserScope} (hscope : agentResourceScope s.agent.groups = some scope) :
    (∃ k g, (place now groups s).lookup k = some g ∧ x ∈ g.pool.nodes) ↔
      x = s ∨ ∃ k g, groups.lookup k = some g ∧ x ∈ g.pool.nodes := by
  rw [place, hscope]
  constructor
  · rintro ⟨k, g, hg, hx⟩
    rcases lookup_insert_iff.1 hg with ⟨rfl, rfl⟩ | ⟨-, hg⟩
    · rcases mem_append.1 hx with hx | hx
      · cases hold : groups.lookup (s.poolKey scope) with
        | none =>
          rw [hold] at hx
          exact absurd hx not_mem_nil
        | some g =>
          rw [hold] at hx
          exact .inr ⟨_, g, hold, hx⟩
      · exact .inl (mem_singleton.1 hx)
    · exact .inr ⟨k, g, hg, hx⟩
  · rintro (rfl | ⟨k, g, hg, hx⟩)
    · exact ⟨_, _, lookup_insert _, mem_append_right _ (mem_singleton.2 rfl)⟩
    by_cases hk : k = s.poolKey scope
    · subst hk
      refine ⟨_, _, lookup_insert _, mem_append_left _ ?_⟩
      rw [hg]
      exact hx
    · exact ⟨k, g, by rwa [lookup_insert_ne hk], hx⟩

/-- A node is in a pool that a user is offered exactly if it passes the checks. -/
theorem mem_regionalPoolsForUser {statuses : List StatusSnapshot} {access : NetworkAccess}
    {user : User} {packageName : String} {now : Time} {s : StatusSnapshot} :
    (∃ pool ∈ regionalPoolsForUser statuses access user packageName now, s ∈ pool.nodes) ↔
      s ∈ statuses ∧ s.offered access user packageName now = true := by
  -- The nodes that were placed are those in the pools.
  have hplaced : ∀ (l : List StatusSnapshot) (groups : Table String Aggregate),
      (∀ x ∈ l, x.offered access user packageName now = true) →
      ((∃ k g, (l.foldl (place now) groups).lookup k = some g ∧ s ∈ g.pool.nodes) ↔
        s ∈ l ∨ ∃ k g, groups.lookup k = some g ∧ s ∈ g.pool.nodes) := by
    intro l
    induction l with
    | nil => simp
    | cons x l ih =>
      intro groups hl
      obtain ⟨scope, hscope⟩ : ∃ scope, agentResourceScope x.agent.groups = some scope := by
        have hx := hl x mem_cons_self
        rw [StatusSnapshot.offered] at hx
        cases hscope : agentResourceScope x.agent.groups with
        | none =>
          rw [hscope] at hx
          cases hx
        | some scope => exact ⟨scope, rfl⟩
      rw [foldl_cons, ih _ fun y hy => hl y (mem_cons_of_mem _ hy),
        mem_nodes_place hscope, mem_cons]
      tauto
  have hall := hplaced (statuses.filter (·.offered access user packageName now)) ∅
    fun x hx => (mem_filter.1 hx).2
  have hempty : ¬ ∃ k g, (∅ : Table String Aggregate).lookup k = some g ∧ s ∈ g.pool.nodes := by
    simp
  rw [or_iff_left hempty, mem_filter] at hall
  rw [← hall]
  constructor
  · rintro ⟨pool, hpool, hs⟩
    rw [regionalPoolsForUser, mem_insertionSort] at hpool
    obtain ⟨g, hg, rfl⟩ := mem_map.1 hpool
    obtain ⟨k, hk⟩ := mem_rows_iff.1 hg
    exact ⟨k, g, hk, hs⟩
  · rintro ⟨k, g, hk, hs⟩
    refine ⟨g.finish, ?_, hs⟩
    rw [regionalPoolsForUser, mem_insertionSort]
    exact mem_map_of_mem (mem_rows_iff.2 ⟨k, hk⟩)

end

end Accounts.Agents

import Accounts.Agents.Entitlement
import Accounts.Users.FactorReset

/-!
# Teams and their administrators

The teams of the network and their members, in memory (`internal/store/network_teams.go`). A
team has at most as many members as its limit allows, and the administrator of a team has it
among their groups (`teams_kept`). A change of a membership leaves a user with the group of the
new team at most; a user update writes any groups (`Sample.marked_by_update`), and keeps this
so if it brings no other team (`Careful`).

Users without a team may have a membership, with an empty identifier.
-/

namespace Accounts.Teams

open Table Text FactorReset Memory List

structure NetworkTeam extends Agents.NetworkTeam where
  memberLimit : Int

structure NetworkMembership extends Agents.NetworkMembership where
  userID : String
  role : String

/-- What is read of the entry for the audit log. -/
structure AuditLog where
  action : String
  platformRoot : Bool

inductive TeamError
  | userNotFound
  | networkTeamNotFound
  | networkWithdrawalRequired
  | networkTeamFull

structure Store where
  accounts : FactorReset.Store User
  networkTeams : Table String NetworkTeam
  networkMembers : Table String NetworkMembership

def adminOf (teamID : String) : String := "team-admin:" ++ teamID

/-- The group is that of an administrator. -/
def teamRole (group : String) : Bool :=
  hasPrefix group "team-admin:" ||
    hasPrefix group "team:" && ":admin".toList.isSuffixOf group.toList

def networkMembershipGroups (groups : List String) (member : NetworkMembership) : List String :=
  let admin := member.role = "admin" ∨ groups.any fun group => teamRole group &&
    member.role == "" && member.teamID != "" &&
      (group == adminOf member.teamID || group == "team:" ++ member.teamID ++ ":admin")
  groups.filter (!teamRole ·) ++
    if admin ∧ member.teamID ≠ "" ∧ member.dedicatedOnly then [adminOf member.teamID] else []

/-- How many memberships are of the team. -/
def count (members : Table String NetworkMembership) (teamID : String) : Nat :=
  (rows members).countP (·.teamID == teamID)

def putNetworkTeam (s : Store) (team : NetworkTeam) : Except TeamError Store :=
  if team.memberLimit < count s.networkMembers team.id then .error .networkTeamFull
  else .ok { s with networkTeams := s.networkTeams.insert team.id team }

/-- A membership is written, with the groups of the user. -/
def Store.putMember (s : Store) (user : User) (member : NetworkMembership) : Store :=
  { s with
    networkMembers := s.networkMembers.insert member.userID member
    accounts := { s.accounts with
      users := s.accounts.users.insert member.userID
        { user with groups := networkMembershipGroups user.groups member } } }

def putNetworkMembership (s : Store) (member : NetworkMembership) (audit : Option AuditLog) :
    Except TeamError Store :=
  match s.accounts.users.lookup member.userID with
  | none => .error .userNotFound
  | some user =>
    if member.teamID = "" then .ok (s.putMember user member) else
    match s.networkTeams.lookup member.teamID with
    | none => .error .networkTeamNotFound
    | some team =>
      let current : Agents.NetworkMembership :=
        ((s.networkMembers.lookup member.userID).map (·.toNetworkMembership)).getD {}
      let joiningPersonal := current.teamID = "" ∧ audit.any (·.action == "network.team.member.add")
      let platformRoot := audit.any fun log =>
        log.action == "network.membership.set" && log.platformRoot
      if ¬ platformRoot ∧ team.active ∧ ((¬ current.dedicatedOnly ∧ ¬ joiningPersonal) ∨
          (current.teamID ≠ "" ∧ current.teamID ≠ member.teamID)) then
        .error .networkWithdrawalRequired
      else if team.memberLimit ≤ count (s.networkMembers.erase member.userID) member.teamID then
        .error .networkTeamFull
      else .ok (s.putMember user { member with dedicatedOnly := true })

inductive Action
  | putNetworkTeam (team : NetworkTeam)
  | putNetworkMembership (member : NetworkMembership) (audit : Option AuditLog)
  | updateUser (env : Env) (user : User)

section

variable [Unicode]

section

variable (s : Store)

/-- A call that fails leaves all as it is. -/
def step : Action → Store
  | .putNetworkTeam team => (putNetworkTeam s team).toOption.getD s
  | .putNetworkMembership member audit => (putNetworkMembership s member audit).toOption.getD s
  | .updateUser env user =>
    ((updateUser env s.accounts user).toOption.map ({ s with accounts := · })).getD s

/-- The team of the user. -/
def Store.teamOf (userID : String) : String :=
  ((s.networkMembers.lookup userID).map (·.teamID)).getD ""

/-- An update brings no group of an administrator but that of the user's team. -/
def Careful : Action → Prop
  | .updateUser _ user => ∀ group ∈ normalizeStringSlice user.groups, teamRole group →
      s.teamOf user.id ≠ "" ∧ group = adminOf (s.teamOf user.id)
  | _ => True

/-- No team has more members than its limit allows. -/
def Store.Limited : Prop :=
  ∀ id team, s.networkTeams.lookup id = some team → id ≠ "" →
    count s.networkMembers id ≤ team.memberLimit

/-- A user is an administrator of their team, at most, and only once. -/
def Store.Marked : Prop :=
  ∀ id user, s.accounts.users.lookup id = some user → ∀ group ∈ user.groups, teamRole group →
    s.teamOf id ≠ "" ∧ group = adminOf (s.teamOf id) ∧ user.groups.count group = 1

end

variable {s s' : Store} {a : Action} {group : String}

/-- What a call leaves. -/
inductive Effect (s : Store) : Action → Store → Prop
  | same {a : Action} : Effect s a s
  | team {team : NetworkTeam} (room : count s.networkMembers team.id ≤ team.memberLimit) :
      Effect s (.putNetworkTeam team) { s with networkTeams := s.networkTeams.insert team.id team }
  | member {a : Action} {user : User} {member : NetworkMembership}
      (room : member.teamID ≠ "" → ∃ team, s.networkTeams.lookup member.teamID = some team ∧
        count (s.networkMembers.erase member.userID) member.teamID < team.memberLimit) :
      Effect s a (s.putMember user member)
  | user {env : Env} {existing user : User} : Effect s (.updateUser env user) { s with
      accounts := { s.accounts with
        users := s.accounts.users.insert user.id (updated env existing user) } }

theorem effect_step (s : Store) (a : Action) : Effect s a (step s a) := by
  cases a with
  | putNetworkTeam team =>
    rw [step, putNetworkTeam]
    split_ifs with hfull
    · exact .same
    · exact .team (not_lt.1 hfull)
  | putNetworkMembership member =>
    rw [step, putNetworkMembership]
    split
    · exact .same
    split_ifs with hnone
    · exact .member fun hteam => absurd hnone hteam
    split
    · exact .same
    next team hteam =>
    dsimp only
    split_ifs with _ hfull
    · exact .same
    · exact .same
    · exact .member fun _ => ⟨team, hteam, not_le.1 hfull⟩
  | updateUser _ user =>
    rw [step, Memory.updateUser]
    split
    · exact .same
    dsimp only
    split_ifs
    · exact .same
    · exact .same
    · exact .same
    · exact .user

/-- A limit is lowered to the number of members at most, and a team that is full takes none. -/
theorem Effect.limited (h : Effect s a s') (hs : s.Limited) : s'.Limited := by
  intro id team hteam hid
  cases h with
  | same | user => exact hs id team hteam hid
  | team hroom =>
    rcases lookup_insert_iff.1 hteam with ⟨rfl, rfl⟩ | ⟨-, hold⟩
    · exact hroom
    · exact hs id team hold hid
  | @member _ _ member hroom =>
    have hless : count (s.networkMembers.erase member.userID) id ≤ count s.networkMembers id :=
      ((kerase_sublist _ _).map _).countP_le
    have hlimit := hs id team hteam hid
    rw [count] at hless
    rw [Store.putMember, count, rows_insert, countP_cons]
    split_ifs with hsame
    · obtain rfl := eq_of_beq hsame
      obtain ⟨_, hteam', hroom⟩ := hroom hid
      cases hteam.symm.trans hteam'
      rw [count] at hroom
      omega
    · omega

omit [Unicode] in
/-- A membership leaves the group of an administrator of its team, at most. -/
theorem mem_networkMembershipGroups {groups : List String} {member : NetworkMembership}
    (hgroup : group ∈ networkMembershipGroups groups member) (hrole : teamRole group) :
    member.teamID ≠ "" ∧ group = adminOf member.teamID ∧
      (networkMembershipGroups groups member).count group = 1 := by
  have hnone : group ∉ groups.filter (!teamRole ·) := by simp [hrole]
  rw [networkMembershipGroups] at hgroup ⊢
  have hmem := (mem_append.1 hgroup).resolve_left hnone
  rw [count_append, count_eq_zero_of_not_mem hnone]
  split_ifs at hmem ⊢ with hadmin
  · obtain rfl := mem_singleton.1 hmem
    exact ⟨hadmin.2.1, rfl, by simp⟩
  · cases hmem

/-- A user update writes no group of an administrator that it was not given. -/
theorem mem_of_mem_updated {env : Env} {existing user : User}
    (h : group ∈ (updated env existing user).groups) (hrole : teamRole group) :
    group ∈ normalizeStringSlice user.groups := by
  obtain ⟨hne, v, hv, rfl⟩ := mem_normalizeStringSlice.1 h
  rcases mem_append.1 hv with hv | hv
  · exact mem_normalizeStringSlice.2 ⟨hne, v, mem_of_mem_filter hv, rfl⟩
  -- The other groups are grants for nodes.
  obtain ⟨w, hw, rfl⟩ := mem_map.1 hv
  obtain ⟨_, hrest⟩ := toList_of_hasPrefix (mem_filter.1 hw).2 rfl
  rw [trimSpace_idem, teamRole, hasPrefix_eq_false hrest rfl (by decide),
    hasPrefix_eq_false hrest rfl (by decide)] at hrole
  cases hrole

/-- No call makes a user the administrator of a team other than theirs. -/
theorem Effect.marked (h : Effect s a s') (hs : s.Marked) (ha : Careful s a) : s'.Marked := by
  intro id u hu group hgroup hrole
  cases h with
  | same | team => exact hs id u hu group hgroup hrole
  | member =>
    rw [Store.teamOf, Store.putMember]
    rcases lookup_insert_iff.1 hu with ⟨rfl, rfl⟩ | ⟨hne, hold⟩
    · rw [AList.lookup_insert]
      exact mem_networkMembershipGroups hgroup hrole
    · rw [AList.lookup_insert_ne hne]
      exact hs id u hold group hgroup hrole
  | user =>
    rcases lookup_insert_iff.1 hu with ⟨rfl, rfl⟩ | ⟨-, hold⟩
    · obtain ⟨hteam, heq⟩ := ha group (mem_of_mem_updated hgroup hrole) hrole
      exact ⟨hteam, heq, count_eq_one_of_mem (nodup_normalizeStringSlice _) hgroup⟩
    · exact hs id u hold group hgroup hrole

/-- In every state that the calls reach from the users alone, no team has more members than its
    limit allows; and users are administrators of their team at most, if they are of none at
    first and user updates bring no other such groups. -/
theorem teams_kept (accounts : FactorReset.Store User) (as : List Action) :
    let start : Store := ⟨accounts, ∅, ∅⟩
    let s := Run.exec step start as
    s.Limited ∧ (start.Marked → Run.Guarded step Careful start as → s.Marked) :=
  ⟨Run.exec_induction (P := Store.Limited) (fun s a hs => (effect_step s a).limited hs)
      (fun _ _ h => by cases h) as,
    fun hstart h => h.exec_induction (P := Store.Marked)
      (fun s a ha hs => (effect_step s a).marked hs ha) hstart⟩

end

namespace Sample

local instance unicode : Unicode := .ascii

def ann : User := User.sample "ann" "" ""

/-- A user, and no team. -/
def start : Store := ⟨.init ((∅ : Table String User).insert "ann" ann) ∅, ∅, ∅⟩

theorem marked_start : start.Marked := by
  intro id u hu
  rcases lookup_insert_iff.1 hu with ⟨-, rfl⟩ | ⟨-, hold⟩
  · exact nofun
  · cases hold

/-- The user becomes the administrator of a team, and is updated with the group of it. -/
def administered : List Action :=
  [ .putNetworkTeam ⟨⟨"x", 0, Time.day, true⟩, 1⟩,
    .putNetworkMembership { userID := "ann", role := "admin", teamID := "x" }
      (some ⟨"network.membership.set", true⟩),
    .updateUser (.sample 1) { ann with groups := ["team-admin:x", "a"] }]

/-- The user is the administrator of the team, and of no other. -/
theorem teams_kept_administered : let s := Run.exec step start administered
    (s.accounts.users.lookup "ann").map (·.groups) = some ["team-admin:x", "a"] ∧ s.Limited ∧
      s.Marked := by
  obtain ⟨hlimited, hmarked⟩ := teams_kept (.init ((∅ : Table String User).insert "ann" ann) ∅)
    administered
  refine ⟨by decide +kernel, hlimited, hmarked marked_start ⟨trivial, trivial, ?_, trivial⟩⟩
  change ∀ group ∈ normalizeStringSlice ["team-admin:x", "a"], teamRole group →
    (Run.exec step start (administered.take 2)).teamOf "ann" ≠ "" ∧
      group = adminOf ((Run.exec step start (administered.take 2)).teamOf "ann")
  decide +kernel

/-- An update makes a user without a team the administrator of one. -/
theorem marked_by_update : start.Marked ∧
    ¬ (step start (.updateUser (.sample 1) { ann with groups := ["team-admin:x"] })).Marked :=
  ⟨marked_start, fun h => (h "ann" _ rfl "team-admin:x" (by decide +kernel) rfl).1 rfl⟩

end Sample

end Accounts.Teams

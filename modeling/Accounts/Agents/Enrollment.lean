import Accounts.Agents.Pools
import Accounts.Base.Run

/-!
# Decisions about the nodes of teams

A node that asks to be one of a team is enrolled, and waits for an administrator, who approves
it for a team, rejects it, or revokes an approval (`api/team_agent_enrollments.go`,
`internal/store/team_agent_enrollments.go`). Every decision gives the enrolment a new version,
which is a time. The node learns the decision as the *revision* of its list of clients
(`enrollmentRevision`), and reports the revision that it has applied.

Nothing but the version and the revision connects the three: a decision is stored if its
version is the one that was read, and a listing of the nodes compares the revision of the last
report with the enrolment. Requests and listings consist of several calls, between which others
take place (`Server.step`). What holds of every run is in `Agents.Assignment`.
-/

namespace Accounts.Agents

open Table

/-! ## Enrolments -/

/-- How a status is written. -/
def EnrollmentStatus.text : EnrollmentStatus → String
  | .pending => "pending"
  | .approved => "approved"
  | .rejected => "rejected"
  | .revoked => "revoked"

/-- An enrolment as it is stored, with who decided last, why, and its version. -/
structure Enrollment extends TeamAgentEnrollment where
  decidedBy : String := ""
  reason : String := ""
  updatedAt : Time

/-- How a time is written (`time.RFC3339Nano`). No proof depends on it. -/
class TimeFormat where
  rfc3339Nano : Time → String

/-- The revision of a decision. -/
def enrollmentRevision [Sha256] [TimeFormat] (e : Enrollment) : String :=
  "enrollment-" ++ Sha256.hex (e.agentID ++ "\x00" ++ e.status.text ++ "\x00" ++
    e.assignedTeamID ++ "\x00" ++ TimeFormat.rfc3339Nano e.updatedAt)

/-- The enrolments, by the identifier of the node. -/
structure Roster where
  rows : Table String Enrollment
  keyed : ∀ {k e}, rows.lookup k = some e → e.agentID = k
  valid : ∀ {k e}, rows.lookup k = some e → validNodeID k

/-- The two stores. -/
inductive Backend
  | memory
  | postgres

/-- Why a decision is not stored. -/
inductive DecideError
  | notFound
  | conflict
  deriving DecidableEq

def microsecond : Int := 1000

/-- The version of a decision: the time, but after the last version. -/
def Backend.nextVersion : Backend → Time → Time → Time
  | .memory, clock, old => if old < clock then clock else old + microsecond
  | .postgres, clock, old => max clock (old + microsecond)

/-- The row of a decision. The database leaves the other columns as they are. -/
def Backend.decided (b : Backend) (old next : Enrollment) (clock : Time) : Enrollment :=
  let version := b.nextVersion clock old.updatedAt
  match b with
  | .memory => { next with updatedAt := version }
  | .postgres =>
    { old with
      assignedTeamID := next.assignedTeamID
      status := next.status
      decidedBy := next.decidedBy
      reason := next.reason
      updatedAt := version }

/-- A decision is about the same node. -/
theorem agentID_decided (b : Backend) {old next : Enrollment} {clock : Time}
    (h : old.agentID = next.agentID) : (b.decided old next clock).agentID = next.agentID := by
  cases b with
  | memory => rfl
  | postgres => exact h

namespace Roster

/-- No node is enrolled. -/
def empty : Roster where
  rows := ∅
  keyed h := by simp at h
  valid h := by simp at h

/-- The enrolment of a node is written. -/
def put (t : Roster) (id : String) (e : Enrollment) (he : e.agentID = id) (hid : validNodeID id) :
    Roster where
  rows := t.rows.insert id e
  keyed := forall_insert (fun _ _ => t.keyed) he
  valid := forall_insert (fun _ _ => t.valid) hid

/-- A node asks to be enrolled (`RegisterTeamAgent`): nothing happens if it is. -/
def register (t : Roster) (id suggested : String) (hid : validNodeID id) (clock : Time) : Roster :=
  match t.rows.lookup id with
  | some _ => t
  | none =>
    t.put id
      { agentID := id
        suggestedTeamID := suggested
        updatedAt := clock } rfl hid

/-- A decision is stored, if the version is the expected one (`DecideTeamAgent`). -/
def decide (b : Backend) (t : Roster) (next : Enrollment) (expected clock : Time) :
    Except DecideError Roster :=
  match h : t.rows.lookup next.agentID with
  | none => .error (match b with | .memory => .notFound | .postgres => .conflict)
  | some old =>
    if old.updatedAt ≠ expected then .error .conflict
    else .ok (t.put next.agentID (b.decided old next clock)
      (agentID_decided b (t.keyed h)) (t.valid h))

end Roster

theorem lt_nextVersion (b : Backend) (clock old : Time) : old < b.nextVersion clock old := by
  have hlater : old < old + microsecond := lt_add_of_pos_right old (by decide)
  cases b with
  | memory =>
    rw [Backend.nextVersion]
    split_ifs with h
    · exact h
    · exact hlater
  | postgres => exact lt_max_of_lt_right hlater

/-- A decision has a later version, and is about the team and the status that it names. -/
theorem decided_fields (b : Backend) (old next : Enrollment) (clock : Time) :
    old.updatedAt < (b.decided old next clock).updatedAt ∧
      (b.decided old next clock).assignedTeamID = next.assignedTeamID ∧
      (b.decided old next clock).status = next.status := by
  have hlater := lt_nextVersion b clock old.updatedAt
  cases b with
  | memory | postgres => exact ⟨hlater, rfl, rfl⟩

/-! ## Reports -/

/-- An agent as it is kept in the database. -/
structure PersistedAgent where
  id : String
  name : String
  groups : List String
  healthy : Bool
  lastHeartbeat : Option Time
  clientsCount : Int
  syncRevision : String

/-- The agents known and their last reports (`agentserver.Registry`). -/
structure Fleet where
  registry : Registry
  statuses : Table String StatusSnapshot
  keyed : ∀ {k s}, statuses.lookup k = some s → s.agent.id = k

namespace Fleet

/-- Nobody has reported yet. -/
def fresh (registry : Registry) : Fleet where
  registry := registry
  statuses := ∅
  keyed h := by simp at h

variable (f : Fleet)

/-- The last report of an agent is written, and the agent. -/
def putStatus (s : StatusSnapshot) : Fleet where
  registry := f.registry.put s.agent
  statuses := f.statuses.insert s.agent.id s
  keyed := forall_insert (fun _ _ => f.keyed) rfl

/-- A report is kept (`ReportStatus`). -/
def reportStatus (agent : Identity) (report : StatusReport) (clock : Time) : Fleet :=
  f.putStatus ⟨agent, report, clock⟩

section

variable (id : String) (groups : List String)

/-- An agent is known from now on (`RegisterAgent`). -/
def registerAgent : Fleet :=
  { f with registry := (f.registry.registerAgent id groups).2 }

/-- The groups of an agent are written, also in its last report (`SetAgentGroups`). -/
def setAgentGroups : Fleet :=
  match f.registry.byID.lookup id, f.statuses.lookup id with
  | some identity, some s => f.putStatus { s with agent := { identity with groups := groups } }
  | _, _ => { f with registry := f.registry.setAgentGroups id groups }

end

/-- An agent that is not known yet is loaded from the database, with what is kept of its last
    report. -/
def load (a : PersistedAgent) : Fleet :=
  let identity : Identity := { id := a.id, name := a.name, groups := a.groups }
  if a.id ∈ f.registry.byID then f
  else match a.lastHeartbeat with
    | none => { f with registry := f.registry.put identity }
    | some heartbeat =>
      f.putStatus
        { agent := identity
          report :=
            { healthy := a.healthy
              users := a.clientsCount
              syncRevision := a.syncRevision
              xray := { clients := a.clientsCount } }
          updatedAt := heartbeat }

/-- The agents with their last reports (`Statuses`). -/
def snapshots : List StatusSnapshot :=
  (f.registry.agents.map fun identity =>
    (f.statuses.lookup identity.id).getD { agent := identity }).mergeSort
      fun x y => x.agent.id ≤ y.agent.id

end Fleet

/-! ## Decisions -/

/-- A decision of an administrator, as it is sent: `updatedAt` is the version it is about. -/
structure DecisionRequest where
  agentID : String
  status : String
  teamID : String
  reason : String
  updatedAt : Time

/-- Which call a decision makes next. `old` is the enrolment that it has read. -/
inductive Phase
  | list
  | teams (old : Enrollment)
  | statuses (old : Enrollment)
  | store (old : Enrollment)

/-- The enrolment that was read. -/
def Phase.old : Phase → Option Enrollment
  | .list => none
  | .teams old | .statuses old | .store old => some old

/-- A decision that is being made (`adminDecideTeamAgent`). -/
structure Deciding where
  actor : String
  request : DecisionRequest
  status : EnrollmentStatus
  reason : String
  phase : Phase := .list

/-- The statuses that an administrator may give. -/
def decidedStatus (status : String) : Option EnrollmentStatus :=
  [.approved, .rejected, .revoked].find? fun s => s.text == status

def auditReasonMaxLen : Nat := 500

/-- The checks before the first call to the store. -/
def beginDecision (actor : String) (request : DecisionRequest) : Except Refusal Deciding :=
  let reason := Text.trimSpace request.reason
  if reason = "" then
    .error ⟨400, "reason_required",
      "a reason is required for this change and is recorded in the audit log"⟩
  else if auditReasonMaxLen < reason.utf8ByteSize then
    .error ⟨400, "reason_too_long", "reason must be at most 500 characters"⟩
  else match decidedStatus request.status with
    | none => .error ⟨400, "invalid_request", "invalid approval status"⟩
    | some status =>
      .ok { actor := actor, request := request, status := status, reason := reason }

/-- What the calls of a request return: whether they fail, the teams, and the time. -/
structure Reply where
  fails : Bool := false
  teams : List String := []
  clock : Time := 0

namespace Deciding

variable (d : Deciding)

/-- The enrolments were listed. -/
def onList (rows : List Enrollment) : Except Refusal Phase :=
  match rows.find? (·.agentID == d.request.agentID) with
  | none => .error ⟨404, "agent_not_found", "team node not found"⟩
  | some old =>
    if old.updatedAt ≠ d.request.updatedAt then
      .error ⟨409, "agent_enrollment_conflict", "refresh enrollment before deciding"⟩
    else if d.status ≠ .approved then .ok (.store old)
    else if ¬ isNetworkTeamID d.request.teamID then .error ⟨400, "invalid_team", "select a team"⟩
    else .ok (.teams old)

/-- The teams were listed. -/
def onTeams (old : Enrollment) (teams : List String) : Except Refusal Phase :=
  if d.request.teamID ∉ teams then .error ⟨404, "network_target_not_found", "team not found"⟩
  else if old.status = .approved ∧ old.assignedTeamID ≠ d.request.teamID then
    .error ⟨409, "network_withdrawal_required", "revoke old assignment before changing team"⟩
  else if old.status ≠ .approved ∧ old.assignedTeamID ≠ "" then .ok (.statuses old)
  else .ok (.store old)

/-- What is stored. -/
def next (old : Enrollment) : Enrollment :=
  { old with
    status := d.status
    decidedBy := d.actor
    reason := d.reason
    assignedTeamID := if d.status = .approved then d.request.teamID else old.assignedTeamID }

end Deciding

section

variable [Sha256] [TimeFormat]

/-- The node has applied the decision, and serves nobody. -/
def cleared (old : Enrollment) (s : StatusSnapshot) : Bool :=
  s.agent.id == old.agentID && s.report.syncRevision == enrollmentRevision old &&
    s.report.users == 0 && s.report.xray.clients == 0 && s.report.healthy &&
    s.report.xray.running && s.report.xray.lastSync.any (fun t => decide (old.updatedAt < t)) &&
    decide (old.updatedAt < s.updatedAt)

/-- The last reports were read. -/
def Deciding.onStatuses (old : Enrollment) (snapshots : List StatusSnapshot) :
    Except Refusal Phase :=
  if snapshots.any (cleared old) then .ok (.store old)
  else .error ⟨409, "network_withdrawal_required",
    "wait for node to apply empty authorization before approval"⟩

/-! ## Listings -/

/-- The node runs with the clients of the decision. -/
def ready (e : Enrollment) (s : StatusSnapshot) : Bool :=
  e.status = .approved && s.report.healthy && s.report.xray.running &&
    s.report.xray.lastSync.any (fun t => decide (e.updatedAt < t)) &&
    Text.hasPrefix s.report.syncRevision (enrollmentRevision e ++ "-")

omit [Sha256] [TimeFormat] in
/-- A node that nobody may use. -/
def StatusSnapshot.withdrawn (s : StatusSnapshot) : StatusSnapshot :=
  { s with
    agent := { s.agent with groups := [managedTeamMarker, "access:dedicated-only"] }
    report := { s.report with xray := { s.report.xray with openToUsers := some false } } }

/-- One round of the loop over the last reports (`enrollmentStatusReader`). -/
def overlay (rows : Table String Enrollment) (s : StatusSnapshot) : StatusSnapshot :=
  match rows.lookup s.agent.id with
  | some e =>
    let s := { s with
      agent := { s.agent with groups := enrollmentGroups e.toTeamAgentEnrollment } }
    if ready e s then s else s.withdrawn
  | none => if managedTeam s.agent.groups then s.withdrawn else s

end

/-! ## The service -/

/-- The service: the enrolments, the agents, the decisions that are being made, and the
    listings, with the reports that they have read. `reports` are all reports so far. -/
structure Server where
  roster : Roster
  fleet : Fleet
  deciding : Table Nat Deciding := ∅
  listings : Table Nat (List StatusSnapshot) := ∅
  reports : List (String × StatusReport) := []

/-- What happens next, with what it takes from outside. -/
inductive Event
  /-- A node asks to be enrolled. -/
  | register (id suggested : String) (valid : validNodeID id) (clock : Time)
  /-- The registry takes an agent, or its groups. -/
  | registerAgent (id : String) (groups : List String)
  | setAgentGroups (id : String) (groups : List String)
  /-- A node reports. -/
  | heartbeat (agent : Identity) (report : StatusReport) (clock : Time)
  /-- The service starts again, and loads the agents. -/
  | restart (configured : Registry) (agents : List PersistedAgent)
  /-- An administrator decides: the request arrives, and makes its next call. -/
  | decide (n : Nat) (actor : String) (request : DecisionRequest)
  | proceed (n : Nat) (reply : Reply)
  /-- A listing reads the reports, and then the enrolments. -/
  | list (n : Nat)
  | listed (n : Nat)

namespace Server

/-- The service starts, with the agents of its configuration. -/
def start (configured : Registry) : Server where
  roster := .empty
  fleet := .fresh configured

variable [Sha256] [TimeFormat]

/-- The next call of a decision: the call after it, and the enrolments. None if the request is
    answered. -/
def advance (b : Backend) (s : Server) (d : Deciding) (reply : Reply) : Option Phase × Roster :=
  if reply.fails then (none, s.roster)
  else match d.phase with
    | .list => ((d.onList (rows s.roster.rows)).toOption, s.roster)
    | .teams old => ((d.onTeams old reply.teams).toOption, s.roster)
    | .statuses old => ((Deciding.onStatuses old s.fleet.snapshots).toOption, s.roster)
    | .store old =>
      match s.roster.decide b (d.next old) old.updatedAt reply.clock with
      | .error _ => (none, s.roster)
      | .ok roster => (none, roster)

/-- A step of the service. -/
def step (b : Backend) (s : Server) : Event → Server
  | .register id suggested valid clock =>
    { s with roster := s.roster.register id suggested valid clock }
  | .registerAgent id groups => { s with fleet := s.fleet.registerAgent id groups }
  | .setAgentGroups id groups => { s with fleet := s.fleet.setAgentGroups id groups }
  | .heartbeat agent report clock =>
    { s with
      fleet := s.fleet.reportStatus agent report clock
      reports := (agent.id, report) :: s.reports }
  | .restart configured agents => { s with fleet := agents.foldl Fleet.load (.fresh configured) }
  | .decide n actor request =>
    { s with deciding := s.deciding.assign n (beginDecision actor request).toOption }
  | .proceed n reply =>
    match s.deciding.lookup n with
    | none => s
    | some d =>
      let (phase, roster) := s.advance b d reply
      { s with
        roster := roster
        deciding := s.deciding.assign n (phase.map fun phase => { d with phase := phase }) }
  | .list n => { s with listings := s.listings.insert n s.fleet.snapshots }
  | .listed n => { s with listings := s.listings.erase n }

/-- The answer that a listing gets when it reads the enrolments. -/
def answer (s : Server) (n : Nat) : Option (List StatusSnapshot) :=
  (s.listings.lookup n).map (·.map (overlay s.roster.rows))

end Server

end Accounts.Agents

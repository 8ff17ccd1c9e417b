import Accounts.Base.Check
import Accounts.Base.Json
import Accounts.Base.Table
import Accounts.Base.World
import Mathlib.Data.List.Sort

/-!
# Task runs in Postgres

The control plane of task sessions (`internal/tasksession/postgres_store.go`,
`postgres_scheduler.go` and the tables of `20260810_task_session_control_plane.sql`).
A *run* waits in a queue until a worker *claims* it (`claimNext`). The claim gives the
worker a lease: a token, of which the store keeps the hash, and a *fence*, a number
that grows with every claim of the run. With both the worker renews its lease
(`renewLease`) and reports on the run (`recordTaskRunEvent`), until the lease expires
and the run may be claimed again. A user may ask to cancel a run (`requestCancel`).
What happens to the runs of a session is appended to the events of the session.

A call is one transaction: it fails and leaves the tables as they are, or succeeds.
How times and JSON are written is a parameter (`Wire`). Attempts, versions and sequence
numbers grow by one with a call; a column that is full would be an error, not a wrap.
-/

namespace Accounts.Tasks

open Text Table

/-! ## Tables -/

inductive RunState
  | queued
  | running
  | completed
  | failed
  | cancelled
  deriving DecidableEq

/-- A state as it is stored. -/
def RunState.text : RunState → String
  | .queued => "queued"
  | .running => "running"
  | .completed => "completed"
  | .failed => "failed"
  | .cancelled => "cancelled"

/-- The run is over (`runFinished`). -/
def RunState.finished : RunState → Bool
  | .completed | .failed | .cancelled => true
  | .queued | .running => false

/-- The types of the events of a run. -/
def eventRunRunning : String := "run.running"
def eventRunProgressed : String := "run.progressed"
def eventAssistantMessageCreated : String := "assistant.message.created"
def eventRunCompleted : String := "run.completed"
def eventRunFailed : String := "run.failed"
def eventRunCancelled : String := "run.cancelled"
def eventRunCancelRequested : String := "run.cancel_requested"

/-- An object, by its keys. -/
abbrev Payload := List (String × Json)

/-- The object with the value of a key written. -/
def Payload.set (payload : Payload) (key : String) (value : Json) : Payload :=
  (key, value) :: payload.filter fun member => member.1 != key

/-- How a time is written, and the length of an object: as it is sent, and as the
    database writes it. No proof depends on it. -/
class Wire where
  formatTime : Time → String
  jsonLength : Payload → Nat
  storedLength : Payload → Nat

structure Namespace where
  id : String
  accountID : String
  maxActiveRuns : Int
  lastClaimedAt : Option Time := none

structure Session where
  id : String
  accountID : String
  namespaceID : String
  snapshotVersion : Int := 0
  lastEventSeq : Int := 0
  context : Payload := []
  updatedAt : Time := 0

structure Event where
  sessionID : String
  seq : Int
  type : String
  payload : Payload
  actorID : String := ""
  clientRequestID : String := ""
  createdAt : Time

/-- A run. Its lease has an owner, the hash of a token, an end and a fence. -/
structure TaskRun where
  id : String
  accountID : String
  namespaceID : String
  sessionID : String
  clientRequestID : String := ""
  state : RunState := .queued
  priority : Int := 0
  notBefore : Time
  attempt : Nat := 0
  leaseOwner : String := ""
  leaseTokenHash : String := ""
  leaseExpires : Option Time := none
  fence : Int := 0
  bridgeRef : String := ""
  createdAt : Time
  updatedAt : Time

/-- The tables; the events are in the order they were inserted. -/
structure Store where
  namespaces : Table String Namespace
  sessions : Table String Session
  events : List Event
  runs : Table String TaskRun

/-- Why a call is refused. -/
inductive TaskError
  | alreadyExists
  | notFound
  | accountMismatch
  | payloadTooLarge
  | noEligibleTask
  | invalidInput
  | leaseConflict
  | artifactPayload
  | runFinished
  /-- An error of the database that is passed on. -/
  | database (message : String)
  deriving DecidableEq

/-! ## Payloads -/

/-- A number of a payload. -/
def jsonInt (n : Int) : Json := .number { negative := decide (n < 0), integer := n.natAbs }

section

variable [Unicode]

/-- The key of a member that holds the content of an artifact. -/
def artifactKey (key : String) : Bool :=
  let normalized := String.ofList <| (toLower (trimSpace key)).toList.filter fun c =>
    c != '_' && c != '-' && c != '.'
  ["artifactbytes", "filebytes", "filecontent", "attachmentcontent", "base64", "blob", "toollog",
    "toollogs"].contains normalized

mutual

/-- Some part of the value is the content of an artifact. -/
def containsArtifactContent : Json → Bool
  | .object members => membersContainArtifactContent members
  | .array items => itemsContainArtifactContent items
  | _ => false

def membersContainArtifactContent : List (String × Json) → Bool
  | [] => false
  | (key, value) :: members =>
    artifactKey key || containsArtifactContent value || membersContainArtifactContent members

def itemsContainArtifactContent : List Json → Bool
  | [] => false
  | item :: items => containsArtifactContent item || itemsContainArtifactContent items

end

variable [Wire]

/-- Writing an object of at most `limit` bytes (`marshalEventPayload`, `marshalContextSummary`). -/
def marshal (limit : Nat) (payload : Payload) : Except TaskError Unit :=
  if membersContainArtifactContent payload then .error .artifactPayload else
  if limit < Wire.jsonLength payload then .error .payloadTooLarge else .ok ()

/-- The payload of an event of a run. -/
def taskRunEventPayload (input : Payload) (taskRunID : String) (fence : Int) (state : RunState) :
    Payload :=
  Payload.set (Payload.set (Payload.set (Payload.set input "schemaVersion" (jsonInt 1))
    "taskRunId" (.string (trimSpace taskRunID))) "fence" (jsonInt fence))
    "state" (.string state.text)

end

/-- The payload of a request to cancel a running run. -/
def cancelRequestedPayload (taskRunID : String) : Payload :=
  [("schemaVersion", jsonInt 1), ("taskRunId", .string taskRunID),
    ("state", .string RunState.running.text)]

/-- The payload of a run that is cancelled before it starts. -/
def cancelledBeforeStartPayload (taskRunID : String) : Payload :=
  [("schemaVersion", jsonInt 1), ("taskRunId", .string taskRunID),
    ("state", .string RunState.cancelled.text), ("reason", .string "cancelled_before_start")]

/-- The run that an event is about, if its payload names one. -/
def Event.taskRunID (event : Event) : String :=
  match event.payload.lookup "taskRunId" with
  | some (.string id) => id
  | _ => ""

/-- The state of a run after an event of a type, and whether it is the last one
    (`stateForRunEvent`). -/
def stateForRunEvent (type : String) (current : RunState) : Except TaskError (RunState × Bool) :=
  let type := trimSpace type
  if type = eventRunRunning ∨ type = eventRunProgressed ∨ type = eventAssistantMessageCreated then
    .ok (current, false)
  else if type = eventRunCompleted then .ok (.completed, true)
  else if type = eventRunFailed then .ok (.failed, true)
  else if type = eventRunCancelled then .ok (.cancelled, true)
  else .error .invalidInput

/-- The hash of a token (`hashLeaseToken`). -/
def hashLeaseToken [Sha256] (token : String) : String := Sha256.hex (trimSpace token)

/-! ## Events -/

namespace Store

section

variable (s : Store)

/-- The session of an account (`lockSession`). -/
def lockSession (sessionID accountID : String) : Except TaskError Session :=
  match s.sessions.lookup sessionID with
  | none => .error .notFound
  | some session => if session.accountID = accountID then .ok session else .error .notFound

/-- The run of an account (`loadTaskRunForUpdate`). -/
def loadTaskRun (taskRunID accountID : String) : Except TaskError TaskRun :=
  match s.runs.lookup taskRunID with
  | none => .error .notFound
  | some run => if run.accountID = accountID then .ok run else .error .notFound

/-- The event of a session that a request led to. -/
def findEventByRequest (sessionID clientRequestID : String) : Option Event :=
  s.events.find? fun event =>
    event.sessionID == sessionID && event.clientRequestID == clientRequestID

/-- The first request to cancel a run. -/
def findCancelRequest (run : TaskRun) : Option Event :=
  ((s.events.filter fun event => event.sessionID == run.sessionID &&
    event.type == eventRunCancelRequested && event.taskRunID == run.id).insertionSort
      fun a b => a.seq ≤ b.seq).head?

end

variable [Unicode] [Wire]

/-- Appending an event to a session, which keeps the state of the last run
    (`insertEvent`, `updateSessionAfterEvent`). -/
def record (s : Store) (session : Session) (event : Event) (lastRunState : RunState) :
    Except TaskError Store :=
  match marshal (16 * 1024) event.payload with
  | .error e => .error e
  | .ok () =>
    if s.events.any (fun other => other.sessionID == event.sessionID && (other.seq == event.seq ||
        (event.clientRequestID != "" && other.clientRequestID == event.clientRequestID))) then
      .error .alreadyExists else
    if 16384 < Wire.storedLength event.payload then .error .payloadTooLarge else
    let context := Payload.set session.context "lastRunState" (.string lastRunState.text)
    match marshal (128 * 1024) context with
    | .error e => .error e
    | .ok () =>
      if 131072 < Wire.storedLength context then .error (.database "violates check constraint") else
      .ok { s with
        events := s.events ++ [event]
        sessions := s.sessions.insert session.id { session with
          lastEventSeq := event.seq
          snapshotVersion := session.snapshotVersion + 1
          context := context
          updatedAt := event.createdAt } }

end Store

/-! ## Claims -/

/-- The lease of the run has not expired at a time. -/
def TaskRun.leased (run : TaskRun) (now : Time) : Bool :=
  run.leaseExpires.any fun expires => decide (now < expires)

/-- The run is running, under a lease. -/
def TaskRun.active (run : TaskRun) (now : Time) : Bool := run.state == .running && run.leased now

namespace Store

variable (s : Store)

/-- The active runs of an account. -/
def activeRuns (accountID : String) (now : Time) : Nat :=
  (rows s.runs).countP fun run => run.accountID == accountID && run.active now

/-- The active runs of an account in a namespace. -/
def activeRunsIn (accountID namespaceID : String) (now : Time) : Nat :=
  (rows s.runs).countP fun run =>
    run.accountID == accountID && run.namespaceID == namespaceID && run.active now

/-- The run can be claimed: it is waiting, or its lease has expired, and its namespace
    has a place left. -/
def claimable (accountID : String) (now : Time) (run : TaskRun) : Bool :=
  run.accountID == accountID && ((run.state == .queued && decide (run.notBefore ≤ now)) ||
      (run.state == .running && !run.leased now)) &&
    (s.namespaces.lookup run.namespaceID).any fun ns =>
      decide ((s.activeRunsIn run.accountID run.namespaceID now : Int) < min ns.maxActiveRuns 2)

/-- The order of the claims: the namespace that was not claimed from for the longest
    time first, then the priority, then the age. -/
def claimOrder (a b : TaskRun) : Ordering :=
  let lastClaimed (run : TaskRun) := (s.namespaces.lookup run.namespaceID).bind (·.lastClaimedAt)
  (compare (lastClaimed a) (lastClaimed b)).then <| (compare b.priority a.priority).then <|
    (compare a.createdAt b.createdAt).then <| compare a.id b.id

/-- The run that is claimed next. Those locked by another transaction are skipped. -/
def nextRun (accountID : String) (now : Time) (locked : List String) : Option TaskRun :=
  (((rows s.runs).filter fun run =>
    s.claimable accountID now run && !locked.contains run.id).insertionSort
      fun a b => s.claimOrder a b ≠ .gt).head?

end Store

structure ClaimInput where
  accountID : String
  workerID : String
  now : Time
  maxGlobalActive : Int := 0
  leaseTTL : Int := 0

/-- The number of active runs an account may have. -/
def defaultGlobalMaxActive : Int := 5

/-- The defaults of a claim. -/
def ClaimInput.normalized (env : Env) (input : ClaimInput) : ClaimInput where
  accountID := trimSpace input.accountID
  workerID := trimSpace input.workerID
  now := if input.now.isZero then env.now else input.now
  maxGlobalActive :=
    if input.maxGlobalActive ≤ 0 ∨ defaultGlobalMaxActive < input.maxGlobalActive then
      defaultGlobalMaxActive else input.maxGlobalActive
  leaseTTL := if input.leaseTTL ≤ 0 then Time.minute else input.leaseTTL

/-- A run with a new lease. -/
def TaskRun.claimed [Sha256] (run : TaskRun) (input : ClaimInput) (token : String) : TaskRun :=
  { run with
    state := .running
    attempt := run.attempt + 1
    leaseOwner := input.workerID
    leaseTokenHash := hashLeaseToken token
    leaseExpires := some (input.now + input.leaseTTL)
    fence := run.fence + 1
    updatedAt := input.now }

/-- A run as it is returned to the worker that claimed it, with its token. -/
structure Claim where
  run : TaskRun
  token : String

section

variable [Unicode] [Wire] [Sha256]

/-- Claiming a run of an account for a worker. A fence is a 64-bit integer. -/
def claimNext (env : Env) (s : Store) (input : ClaimInput) (locked : List String) :
    Except TaskError (Store × Claim) :=
  let input := input.normalized env
  if input.accountID = "" ∨ input.workerID = "" then .error .invalidInput else
  if input.maxGlobalActive ≤ s.activeRuns input.accountID input.now then .error .noEligibleTask else
  match s.nextRun input.accountID input.now locked with
  | none => .error .noEligibleTask
  | some run =>
    if 2 ^ 63 ≤ run.fence + 1 then .error (.database "bigint out of range") else
    let claimed := run.claimed input env.uuid.val
    let s := { s with
      runs := s.runs.insert run.id claimed
      namespaces := match s.namespaces.lookup run.namespaceID with
        | some ns => if ns.accountID = input.accountID then
            s.namespaces.insert run.namespaceID { ns with lastClaimedAt := some input.now }
          else s.namespaces
        | none => s.namespaces }
    match s.lockSession run.sessionID run.accountID with
    | .error e => .error e
    | .ok session =>
      let event : Event :=
        { sessionID := run.sessionID
          seq := session.lastEventSeq + 1
          type := eventRunRunning
          payload := taskRunEventPayload
            [("leaseExpiresAt", .string (Wire.formatTime (input.now + input.leaseTTL)))] run.id
            claimed.fence .running
          actorID := input.workerID
          createdAt := input.now }
      (s.record session event .running).map fun s => (s, ⟨claimed, env.uuid.val⟩)

end

/-! ## Calls under a lease -/

structure RenewLeaseInput where
  accountID : String
  taskRunID : String
  workerID : String
  fence : Int
  leaseToken : String
  leaseTTL : Int
  now : Time

def minSchedulerLeaseTTL : Int := 10 * Time.second
def maxSchedulerLeaseTTL : Int := 10 * Time.minute

/-- A renewal, if it is well formed (`normalizeRenew`). -/
def normalizeRenew (env : Env) (input : RenewLeaseInput) : Except TaskError RenewLeaseInput :=
  let input := { input with
    accountID := trimSpace input.accountID
    taskRunID := trimSpace input.taskRunID
    workerID := trimSpace input.workerID
    leaseToken := trimSpace input.leaseToken
    now := if input.now.isZero then env.now else input.now }
  if input.accountID = "" ∨ input.taskRunID = "" ∨ input.workerID = "" ∨ input.leaseToken = "" then
    .error .invalidInput else
  if input.leaseTTL < minSchedulerLeaseTTL ∨ maxSchedulerLeaseTTL < input.leaseTTL then
    .error .invalidInput else .ok input

structure RenewLeaseResult where
  taskRun : TaskRun
  cancelRequested : Bool

/-- The lease has the fence and the token, and has not expired. -/
def TaskRun.holds [Sha256] (run : TaskRun) (fence : Int) (token : String) (now : Time) : Bool :=
  run.fence == fence && run.leased now && run.leaseTokenHash == hashLeaseToken token

/-- A run with a longer lease. -/
def TaskRun.renewed (run : TaskRun) (input : RenewLeaseInput) : TaskRun :=
  { run with leaseExpires := some (input.now + input.leaseTTL), updatedAt := input.now }

/-- Renewing the lease of a running run. -/
def renewLease [Sha256] (env : Env) (s : Store) (input : RenewLeaseInput) :
    Except TaskError (Store × RenewLeaseResult) :=
  match normalizeRenew env input with
  | .error e => .error e
  | .ok input =>
    match s.loadTaskRun input.taskRunID input.accountID with
    | .error e => .error e
    | .ok run =>
      if run.state ≠ .running ∨ run.leaseOwner ≠ input.workerID ∨
          ¬ run.holds input.fence input.leaseToken input.now then .error .leaseConflict else
      .ok ({ s with runs := s.runs.insert run.id (run.renewed input) },
        ⟨run.renewed input, (s.findCancelRequest run).isSome⟩)

structure TaskRunEventInput where
  accountID : String
  taskRunID : String
  actorID : String := ""
  clientRequestID : String
  fence : Int
  leaseToken : String
  type : String
  payload : Payload := []
  bridgeRef : String := ""
  createdAt : Time

/-- The fields of a report, trimmed. -/
def TaskRunEventInput.normalized (env : Env) (input : TaskRunEventInput) : TaskRunEventInput :=
  { input with
    accountID := trimSpace input.accountID
    taskRunID := trimSpace input.taskRunID
    actorID := trimSpace input.actorID
    clientRequestID := trimSpace input.clientRequestID
    leaseToken := trimSpace input.leaseToken
    type := trimSpace input.type
    bridgeRef := trimSpace input.bridgeRef
    createdAt := if input.createdAt.isZero then env.now else input.createdAt }

/-- A run after a report that leaves it in a state. -/
def TaskRun.reported (run : TaskRun) (input : TaskRunEventInput) (state : RunState) : TaskRun :=
  { run with
    state := state
    bridgeRef := if input.bridgeRef = "" then run.bridgeRef else input.bridgeRef
    updatedAt := input.createdAt }

structure TaskRunEventResult where
  event : Event
  taskRun : TaskRun
  snapshotVersion : Int
  lastEventSeq : Int

section

variable [Unicode] [Wire]

/-- A new event about a run, which is written with it. -/
def Store.recordRun (s : Store) (session : Session) (run : TaskRun) (event : Event) :
    Except TaskError (Store × TaskRunEventResult) :=
  (({ s with runs := s.runs.insert run.id run } : Store).record session event run.state).map
    fun s => (s, ⟨event, run, session.snapshotVersion + 1, event.seq⟩)

/-- The report of a worker on its run. A repeated report, found by its request, changes nothing. -/
def recordTaskRunEvent [Sha256] (env : Env) (s : Store) (input : TaskRunEventInput) :
    Except TaskError (Store × TaskRunEventResult) :=
  let input := input.normalized env
  if input.accountID = "" ∨ input.taskRunID = "" ∨ input.clientRequestID = "" ∨
      input.leaseToken = "" ∨ input.type = "" then .error .invalidInput else
  match stateForRunEvent input.type .running with
  | .error e => .error e
  | .ok next =>
    match s.loadTaskRun input.taskRunID input.accountID with
    | .error e => .error e
    | .ok run =>
      match s.lockSession run.sessionID input.accountID with
      | .error e => .error e
      | .ok session =>
        if ¬ run.holds input.fence input.leaseToken input.createdAt then .error .leaseConflict else
        match s.findEventByRequest run.sessionID input.clientRequestID with
        | some existing =>
          if existing.taskRunID ≠ run.id then .error .alreadyExists else
          .ok (s, ⟨existing, run, session.snapshotVersion, session.lastEventSeq⟩)
        | none =>
          if run.state ≠ .running then .error .leaseConflict else
          s.recordRun session (run.reported input next.1)
            { sessionID := run.sessionID
              seq := session.lastEventSeq + 1
              type := input.type
              payload := taskRunEventPayload input.payload run.id input.fence next.1
              actorID := input.actorID
              clientRequestID := input.clientRequestID
              createdAt := input.createdAt }

end

/-! ## Requests to cancel -/

structure CancelRunInput where
  accountID : String
  sessionID : String
  taskRunID : String
  actorID : String := ""
  clientRequestID : String
  createdAt : Time

/-- A request to cancel, if it is well formed (`normalizeCancel`). -/
def normalizeCancel (env : Env) (input : CancelRunInput) : Except TaskError CancelRunInput :=
  let accountID := trimSpace input.accountID
  let actorID := trimSpace input.actorID
  let input : CancelRunInput :=
    { accountID := accountID
      sessionID := trimSpace input.sessionID
      taskRunID := trimSpace input.taskRunID
      actorID := if actorID = "" then accountID else actorID
      clientRequestID := trimSpace input.clientRequestID
      createdAt := if input.createdAt.isZero then env.now else input.createdAt }
  if input.accountID = "" ∨ input.sessionID = "" ∨ input.taskRunID = "" ∨
      input.clientRequestID = "" then .error .invalidInput else .ok input

section

variable [Unicode] [Wire]

/-- What a request to cancel makes of a run that is not over: a run that waits is
    cancelled, and a running one is asked to end, once. -/
def Store.cancelRun (s : Store) (session : Session) (run : TaskRun) (input : CancelRunInput) :
    Except TaskError (Store × TaskRunEventResult) :=
  let event (type : String) (payload : Payload) : Event :=
    { sessionID := run.sessionID
      seq := session.lastEventSeq + 1
      type := type
      payload := payload
      actorID := input.actorID
      clientRequestID := input.clientRequestID
      createdAt := input.createdAt }
  if run.state = .queued then
    s.recordRun session { run with state := .cancelled, updatedAt := input.createdAt }
      (event eventRunCancelled (cancelledBeforeStartPayload run.id))
  else
    match s.findCancelRequest run with
    | some requested => .ok (s, ⟨requested, run, session.snapshotVersion, session.lastEventSeq⟩)
    | none =>
      s.recordRun session run (event eventRunCancelRequested (cancelRequestedPayload run.id))

/-- A user asks to cancel a run. -/
def requestCancel (env : Env) (s : Store) (input : CancelRunInput) :
    Except TaskError (Store × TaskRunEventResult) :=
  match normalizeCancel env input with
  | .error e => .error e
  | .ok input =>
    match s.lockSession input.sessionID input.accountID with
    | .error e => .error e
    | .ok session =>
      match s.loadTaskRun input.taskRunID input.accountID with
      | .error e => .error e
      | .ok run =>
        if run.sessionID ≠ input.sessionID then .error .notFound else
        match s.findEventByRequest input.sessionID input.clientRequestID with
        | some existing =>
          if existing.taskRunID ≠ run.id then .error .alreadyExists else
          .ok (s, ⟨existing, run, session.snapshotVersion, session.lastEventSeq⟩)
        | none =>
          if run.state.finished then .error .runFinished else s.cancelRun session run input

end

/-! ## New runs -/

structure EnqueueTaskRunInput where
  id : String := ""
  accountID : String
  namespaceID : String
  sessionID : String
  clientRequestID : String := ""
  priority : Int := 0
  notBefore : Time := 0
  createdAt : Time := 0

/-- A new run, as it is queued. -/
def EnqueueTaskRunInput.run (env : Env) (input : EnqueueTaskRunInput) : TaskRun :=
  let id := trimSpace input.id
  let createdAt := if input.createdAt.isZero then env.now else input.createdAt
  { id := if id = "" then env.uuid.val else id
    accountID := trimSpace input.accountID
    namespaceID := trimSpace input.namespaceID
    sessionID := trimSpace input.sessionID
    clientRequestID := trimSpace input.clientRequestID
    priority := input.priority
    notBefore := if input.notBefore.isZero then createdAt else input.notBefore
    createdAt := createdAt
    updatedAt := createdAt }

/-- Queueing a run for a session of the account. -/
def enqueueTaskRun (env : Env) (s : Store) (input : EnqueueTaskRunInput) :
    Except TaskError (Store × TaskRun) :=
  let run := input.run env
  if run.accountID = "" ∨ run.namespaceID = "" ∨ run.sessionID = "" then .error .invalidInput else
  if ¬ (s.sessions.lookup run.sessionID).any (fun session =>
      session.accountID == run.accountID && session.namespaceID == run.namespaceID) then
    .error .accountMismatch else
  if run.id ∈ s.runs ∨ (run.clientRequestID ≠ "" ∧ (rows s.runs).any (fun other =>
      other.sessionID == run.sessionID && other.clientRequestID == run.clientRequestID)) then
    .error .alreadyExists else
  .ok ({ s with runs := s.runs.insert run.id run }, run)

end Accounts.Tasks

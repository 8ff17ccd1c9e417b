import Accounts.Base.Run
import Accounts.Tasks.Postgres

/-!
# Task sessions in memory

The same control plane as in `Accounts.Tasks.Postgres`, kept in memory
(`internal/tasksession/store.go`, `scheduler.go`): namespaces and sessions are created, a user
sends messages (`appendMessage`) and other events (`appendEvent`), workers claim the runs
(`claimNext`), renew their leases (`renewLease`) and report (`recordTaskRunEvent`), and a run may
be cancelled (`requestCancel`).

It differs from the tables in what it keeps: the events are lists, one for each session, with an
index of the requests they answer (`Store.eventByRequest`), a run has its token in clear, and the
claims go round the namespaces by their identifiers, from the one that was served last
(`Store.lastClaimNamespace`). A run whose lease has expired is not claimed again.

A call holds the lock of the store: it fails and leaves the store as it is, or succeeds
(`Store.step`). The order in which Go visits the runs is a parameter of a claim.
Attempts, versions and sequence numbers grow by one with a call, and stay far below `2 ^ 63`.
-/

namespace Accounts.Tasks

open Text Table

/-- The types of the events of a message. -/
def eventMessageCreated : String := "message.created"
def eventRunQueued : String := "run.queued"

namespace Memory

/-! ## The store -/

/-- A run. Its lease has an owner, a token, an end and a fence. -/
structure TaskRun where
  id : String
  accountID : String
  namespaceID : String
  sessionID : String
  clientRequestID : String := ""
  state : RunState := .queued
  priority : Int := 0
  notBefore : Time
  attempt : Nat := 0
  leaseOwner : String := ""
  leaseToken : String := ""
  leaseExpires : Time := 0
  fence : Int := 0
  bridgeRef : String := ""
  createdAt : Time
  updatedAt : Time

/-- The maps: the namespaces of an account are also found by their slug, and the events by the key
    of their session and request. -/
structure Store where
  namespaces : Table String Namespace
  namespacesByAcct : Table (String × String) String
  sessions : Table String Session
  events : Table String (List Event)
  eventByRequest : Table String Event
  taskRuns : Table String TaskRun
  runRouting : Table String (List (String × Any))
  lastClaimNamespace : Table String String

/-- A new store. -/
def Store.init : Store := ⟨∅, ∅, ∅, ∅, ∅, ∅, ∅, ∅⟩

/-- The events of a session. -/
def Store.sessionEvents (s : Store) (sessionID : String) : List Event :=
  (s.events.lookup sessionID).getD []

/-- The key of a request. -/
def requestKey (sessionID clientRequestID : String) : String :=
  sessionID ++ "\x00" ++ clientRequestID

/-- The event names the run. -/
def names (event : Event) (taskRunID : String) : Bool :=
  match event.payload.lookup "taskRunId" with
  | some (.string id) => id == taskRunID
  | _ => false

/-! ## Namespaces and sessions -/

structure CreateNamespaceInput where
  id : String
  accountID : String
  slug : String
  maxActiveRuns : Int := 0

def defaultNamespaceMaxActive : Int := 2

def namespacePersonal : String := "personal"

/-- A new namespace of an account (`createNamespaceLocked`). -/
def createNamespace (s : Store) (input : CreateNamespaceInput) :
    Except TaskError (Store × Namespace) :=
  let id := trimSpace input.id
  let accountID := trimSpace input.accountID
  let slug := trimSpace input.slug
  if id = "" ∨ accountID = "" ∨ slug = "" then .error .accountMismatch else
  if id ∈ s.namespaces ∨ (accountID, slug) ∈ s.namespacesByAcct then .error .alreadyExists else
  let ns : Namespace :=
    { id := id
      accountID := accountID
      maxActiveRuns :=
        if input.maxActiveRuns ≤ 0 ∨ defaultNamespaceMaxActive < input.maxActiveRuns then
          defaultNamespaceMaxActive else input.maxActiveRuns }
  .ok ({ s with
    namespaces := s.namespaces.insert id ns
    namespacesByAcct := s.namespacesByAcct.insert (accountID, slug) id }, ns)

/-- The personal namespace of an account, which is created when it is first asked for. -/
def ensurePersonalNamespace (env : Env) (s : Store) (accountID : String) :
    Except TaskError (Store × Option Namespace) :=
  let accountID := trimSpace accountID
  if accountID = "" then .error .accountMismatch else
  match s.namespacesByAcct.lookup (accountID, namespacePersonal) with
  | some id => .ok (s, s.namespaces.lookup id)
  | none =>
    (createNamespace s
      { id := env.uuid.val
        accountID := accountID
        slug := namespacePersonal
        maxActiveRuns := defaultNamespaceMaxActive }).map fun r => (r.1, some r.2)

structure CreateSessionInput where
  id : String
  accountID : String
  namespaceID : String
  createdAt : Time := 0

/-- A new session in a namespace of the account. -/
def createSession (env : Env) (s : Store) (input : CreateSessionInput) :
    Except TaskError (Store × Session) :=
  if input.id ∈ s.sessions then .error .alreadyExists else
  if ¬ (s.namespaces.lookup input.namespaceID).any (·.accountID == input.accountID) then
    .error .accountMismatch else
  if trimSpace input.id = "" then .error .notFound else
  let session : Session :=
    { id := input.id
      accountID := input.accountID
      namespaceID := input.namespaceID
      updatedAt := if input.createdAt.isZero then env.now else input.createdAt }
  .ok ({ s with sessions := s.sessions.insert session.id session }, session)

/-! ## Events -/

/-- A session after an event. -/
def Session.after (session : Session) (event : Event) (context : Payload) : Session :=
  { session with
    lastEventSeq := event.seq
    snapshotVersion := session.snapshotVersion + 1
    context := context
    updatedAt := event.createdAt }

/-- An event is appended to its session, and found by its request if it has one. -/
def Store.commit (s : Store) (session : Session) (event : Event) (context : Payload) : Store :=
  { s with
    events := s.events.insert event.sessionID (s.sessionEvents event.sessionID ++ [event])
    eventByRequest := if event.clientRequestID = "" then s.eventByRequest else
      s.eventByRequest.insert (requestKey event.sessionID event.clientRequestID) event
    sessions := s.sessions.insert session.id (Session.after session event context) }

structure AppendEventInput where
  accountID : String
  sessionID : String
  actorID : String := ""
  clientRequestID : String := ""
  type : String
  payload : Payload := []
  createdAt : Time := 0

/-- A text of the payload that is not blank is kept in the context under a key
    (`updateContextSummary`). -/
def noteText (payload : Payload) (member key : String) (context : Payload) : Payload :=
  match payload.lookup member with
  | some (.string text) =>
    if trimSpace text = "" then context else Payload.set context key (.string text)
  | _ => context

section

variable [Unicode] [Wire]

/-- Appending an event to a session. A request that was answered gets the same event. -/
def appendEvent (env : Env) (s : Store) (input : AppendEventInput) :
    Except TaskError (Store × Event) :=
  match s.sessions.lookup input.sessionID with
  | none => .error .notFound
  | some session =>
    if session.accountID ≠ input.accountID then .error .accountMismatch else
    -- The key is built from the request as it came, although events are kept under trimmed ones.
    match if input.clientRequestID = "" then none else
      s.eventByRequest.lookup (requestKey input.sessionID input.clientRequestID) with
    | some event => .ok (s, event)
    | none =>
      match marshal (16 * 1024) input.payload with
      | .error e => .error e
      | .ok () =>
        let event : Event :=
          { sessionID := input.sessionID
            seq := session.lastEventSeq + 1
            type := trimSpace input.type
            payload := input.payload
            actorID := trimSpace input.actorID
            clientRequestID := trimSpace input.clientRequestID
            createdAt := if input.createdAt.isZero then env.now else input.createdAt }
        .ok (s.commit session event (noteText input.payload "summary" "summary"
          (noteText input.payload "text" "lastMessage" session.context)), event)

end

/-! ## Messages -/

/-- The longest value of a routing hint that is a text. -/
def routingStrings (key : String) : Option Nat :=
  if key ∈ ["role", "roleMode", "roleModel", "productMode", "specialty", "dataClass"] then some 512
  else if key ∈ ["projectId", "workspace"] then some 128
  else none

/-- The routing hints that refer to something by a key. -/
def routingRefs (key : String) : Bool := key == "projectId" || key == "workspace"

def routingBools (key : String) : Bool := key == "followUp" || key == "previousTurnFailed"

/-- An identifier without separators. -/
def plainKey (value : String) : Bool :=
  value.toList.all (fun c => ('a' ≤ c && c ≤ 'z') || ('A' ≤ c && c ≤ 'Z') ||
    ('0' ≤ c && c ≤ '9') || "._:-".toList.contains c) && value != "." && value != ".."

/-- A number without a fraction. -/
def wholeNumber : Any → Option Int
  | .float mantissa exponent =>
    if 0 ≤ exponent then some (mantissa * 2 ^ exponent.toNat)
    else if mantissa % 2 ^ (-exponent).toNat = 0 then some (mantissa / 2 ^ (-exponent).toNat)
    else none
  | _ => none

/-- One routing hint: kept, left out if it is blank, or refused. -/
def normalizeHint (key : String) (value : Any) : Except TaskError (List (String × Any)) :=
  match routingStrings key with
  | some longest =>
    match value with
    | .string text =>
      if longest < text.utf8ByteSize then .error .invalidInput else
      let text := trimSpace text
      if text = "" then .ok [] else
      if routingRefs key ∧ ¬ plainKey text then .error .invalidInput else .ok [(key, .string text)]
    | _ => .error .invalidInput
  | none =>
    if routingBools key then
      match value with
      | .bool flag => .ok [(key, .bool flag)]
      | _ => .error .invalidInput
    else if key = "attachments" then
      match wholeNumber value with
      | some count =>
        if count < 0 ∨ 1000 < count then .error .invalidInput else .ok [(key, .float count 0)]
      | none => .error .invalidInput
    else .error .invalidInput

/-- The routing hints of a message, if they are all well formed. -/
def normalizeRouting : List (String × Any) → Except TaskError (List (String × Any))
  | [] => .ok []
  | (key, value) :: hints =>
    match normalizeHint key value with
    | .error e => .error e
    | .ok hint => (normalizeRouting hints).map (hint ++ ·)

structure AppendMessageInput where
  accountID : String
  sessionID : String
  actorID : String := ""
  clientRequestID : String
  text : String
  routing : List (String × Any) := []
  taskRunID : String := ""
  priority : Int := 0
  notBefore : Time := 0
  createdAt : Time := 0

/-- A message with its defaults, trimmed. -/
def AppendMessageInput.normalized (env : Env) (input : AppendMessageInput) : AppendMessageInput :=
  let createdAt := if input.createdAt.isZero then env.now else input.createdAt
  let taskRunID := trimSpace input.taskRunID
  { input with
    accountID := trimSpace input.accountID
    sessionID := trimSpace input.sessionID
    actorID := trimSpace input.actorID
    clientRequestID := trimSpace input.clientRequestID
    text := trimSpace input.text
    taskRunID := if taskRunID = "" then env.uuid.val else taskRunID
    notBefore := if input.notBefore.isZero then createdAt else input.notBefore
    createdAt := createdAt }

structure MessageCommandResult where
  message : Event
  queued : Event
  taskRun : TaskRun
  snapshotVersion : Int
  lastEventSeq : Int
  existing : Bool := false

/-- The payload of a message. -/
def messageEventPayload (text taskRunID : String) : Payload :=
  [("schemaVersion", jsonInt 1), ("text", .string text), ("taskRunId", .string taskRunID)]

/-- The payload of a run that is queued. -/
def runQueuedEventPayload (taskRunID : String) : Payload :=
  [("schemaVersion", jsonInt 1), ("taskRunId", .string taskRunID),
    ("state", .string RunState.queued.text)]

/-- A message in the context of its session. -/
def messageContextValue (text taskRunID : String) (createdAt : Time) : Json :=
  .object [("id", .string taskRunID), ("role", .string "user"), ("text", .string text),
    ("timestampMs", jsonInt ((createdAt - Time.unix 0) / 1000000)), ("pending", .bool false),
    ("error", .bool false)]

section

variable [Unicode] [Wire]

/-- The context with as many of the last messages as fit. -/
def fitMessages (context : Payload) : List Json → Except TaskError Payload
  | [] => .error .payloadTooLarge
  | message :: messages =>
    let next := Payload.set context "messages" (.array (message :: messages))
    match marshal (128 * 1024) next with
    | .ok () => .ok next
    | .error .payloadTooLarge => fitMessages context messages
    | .error e => .error e

/-- The context with one more message, of the last hundred (`appendMessageToContext`). -/
def appendMessageToContext (context : Payload) (text : String) (message : Json) :
    Except TaskError Payload :=
  let next := Payload.set context "lastMessage" (.string (trimSpace text))
  let messages := (match next.lookup "messages" with
    | some (.array items) => items
    | _ => []) ++ [message]
  fitMessages next (messages.drop (messages.length - 100))

section

variable (input : AppendMessageInput) (session : Session)

/-- The run of a message. -/
def AppendMessageInput.run : TaskRun where
  id := input.taskRunID
  accountID := input.accountID
  namespaceID := session.namespaceID
  sessionID := input.sessionID
  clientRequestID := input.clientRequestID
  priority := input.priority
  notBefore := input.notBefore
  createdAt := input.createdAt
  updatedAt := input.createdAt

/-- The event of a message. -/
def AppendMessageInput.messageEvent : Event where
  sessionID := input.sessionID
  seq := session.lastEventSeq + 1
  type := eventMessageCreated
  payload := messageEventPayload input.text input.taskRunID
  actorID := input.actorID
  clientRequestID := input.clientRequestID
  createdAt := input.createdAt

/-- The event of its run, which comes next. -/
def AppendMessageInput.queuedEvent : Event where
  sessionID := input.sessionID
  seq := session.lastEventSeq + 2
  type := eventRunQueued
  payload := runQueuedEventPayload input.taskRunID
  actorID := input.actorID
  createdAt := input.createdAt

end

/-- A message whose request was answered: with the event found, if there is a run for it. -/
def replayMessage (s : Store) (sessionID : String) (session : Session) (existing : Event) :
    Except TaskError (Store × MessageCommandResult) :=
  match s.taskRuns.lookup existing.taskRunID with
  | none => .error .notFound
  | some run =>
    match (s.sessionEvents sessionID).find? fun queued =>
      queued.seq == existing.seq + 1 && queued.type == eventRunQueued with
    | none => .error .notFound
    | some queued =>
      .ok (s, ⟨existing, queued, run, session.snapshotVersion, session.lastEventSeq, true⟩)

/-- A message of a user, which queues a run. -/
def appendMessage (env : Env) (s : Store) (input : AppendMessageInput) :
    Except TaskError (Store × MessageCommandResult) :=
  let input := input.normalized env
  if input.accountID = "" ∨ input.sessionID = "" ∨ input.clientRequestID = "" ∨ input.text = "" then
    .error .invalidInput else
  match normalizeRouting input.routing with
  | .error e => .error e
  | .ok routing =>
    match s.sessions.lookup input.sessionID with
    | none => .error .notFound
    | some session =>
      if session.accountID ≠ input.accountID then .error .accountMismatch else
      match s.eventByRequest.lookup (requestKey input.sessionID input.clientRequestID) with
      | some existing => replayMessage s input.sessionID session existing
      | none =>
        if input.taskRunID ∈ s.taskRuns then .error .alreadyExists else
        match marshal (16 * 1024) (input.messageEvent session).payload with
        | .error e => .error e
        | .ok () =>
          match marshal (16 * 1024) (input.queuedEvent session).payload with
          | .error e => .error e
          | .ok () =>
            match appendMessageToContext session.context input.text
                (messageContextValue input.text input.taskRunID input.createdAt) with
            | .error e => .error e
            | .ok context =>
              let message := input.messageEvent session
              let queued := input.queuedEvent session
              let run := input.run session
              .ok ({ s with
                events := s.events.insert input.sessionID
                  (s.sessionEvents input.sessionID ++ [message, queued])
                eventByRequest := s.eventByRequest.insert
                  (requestKey input.sessionID input.clientRequestID) message
                taskRuns := s.taskRuns.insert run.id run
                runRouting := s.runRouting.insert run.id routing
                sessions := s.sessions.insert session.id { session with
                  lastEventSeq := queued.seq
                  snapshotVersion := session.snapshotVersion + 2
                  context := context
                  updatedAt := input.createdAt } },
                ⟨message, queued, run, session.snapshotVersion + 2, queued.seq, false⟩)

end

/-! ## Runs -/

/-- Queueing a run for a session of the account. -/
def enqueueTaskRun (env : Env) (s : Store) (input : EnqueueTaskRunInput) :
    Except TaskError (Store × TaskRun) :=
  if input.id ∈ s.taskRuns then .error .alreadyExists else
  if ¬ (s.sessions.lookup input.sessionID).any (fun session =>
      session.accountID == input.accountID && session.namespaceID == input.namespaceID) then
    .error .accountMismatch else
  let createdAt := if input.createdAt.isZero then env.now else input.createdAt
  let run : TaskRun :=
    { id := input.id
      accountID := input.accountID
      namespaceID := input.namespaceID
      sessionID := input.sessionID
      clientRequestID := input.clientRequestID
      priority := input.priority
      notBefore := if input.notBefore.isZero then createdAt else input.notBefore
      createdAt := createdAt
      updatedAt := createdAt }
  .ok ({ s with taskRuns := s.taskRuns.insert run.id run }, run)

/-- The defaults of a claim. -/
def claimDefaults (env : Env) (input : ClaimInput) : ClaimInput :=
  { input with
    now := if input.now.isZero then env.now else input.now
    maxGlobalActive :=
      if input.maxGlobalActive ≤ 0 ∨ defaultGlobalMaxActive < input.maxGlobalActive then
        defaultGlobalMaxActive else input.maxGlobalActive
    leaseTTL := if input.leaseTTL ≤ 0 then Time.minute else input.leaseTTL }

/-- The run waits and may start. -/
def TaskRun.ready (run : TaskRun) (accountID : String) (now : Time) : Bool :=
  run.accountID == accountID && run.state == .queued && decide (run.notBefore ≤ now)

namespace Store

section

variable (s : Store) (accountID : String)

/-- The running runs of an account. -/
def countActive : Nat :=
  (rows s.taskRuns).countP fun run => run.accountID == accountID && run.state == .running

/-- The running runs of an account in a namespace. -/
def countActiveForNamespace (namespaceID : String) : Nat :=
  (rows s.taskRuns).countP fun run =>
    run.accountID == accountID && run.namespaceID == namespaceID && run.state == .running

/-- The namespaces with a run that is ready, in the order of their identifiers. -/
def eligibleNamespaceIDs (now : Time) : List String :=
  (((((rows s.taskRuns).filter (·.ready accountID now)).map (·.namespaceID)).dedup).filter
    fun id => decide (id ∈ s.namespaces)).insertionSort (· ≤ ·)

end

/-- The runs in the order in which they are visited. -/
def visited (s : Store) (rank : String → Nat) : List TaskRun :=
  (rows s.taskRuns).insertionSort fun a b => rank a.id ≤ rank b.id

end Store

/-- One of two runs: the other only if it comes first, by its priority or its age. -/
def older (selected : Option TaskRun) (run : TaskRun) : Option TaskRun :=
  match selected with
  | none => some run
  | some best =>
    if best.priority < run.priority ∨
        (run.priority = best.priority ∧ run.createdAt < best.createdAt)
    then some run else some best

/-- The run of a namespace that is claimed first. -/
def Store.oldestEligibleRun (s : Store) (rank : String → Nat) (accountID namespaceID : String)
    (now : Time) : Option TaskRun :=
  ((s.visited rank).filter fun run =>
    run.ready accountID now && run.namespaceID == namespaceID).foldl older none

/-- The namespaces in the order in which they are tried: from the one after the last served. -/
def rotated (last : String) (ids : List String) : List String :=
  if last = "" then ids else
  match ids.idxOf? last with
  | some i => ids.rotate ((i + 1) % ids.length)
  | none => ids

section

variable (s : Store) (rank : String → Nat) (accountID : String) (now : Time)

/-- The run of a namespace that can be claimed, if the namespace has a place left. -/
def Store.candidate (namespaceID : String) : Option TaskRun :=
  match s.namespaces.lookup namespaceID with
  | none => none
  | some ns =>
    if ns.maxActiveRuns ≤ s.countActiveForNamespace accountID namespaceID then none else
    s.oldestEligibleRun rank accountID namespaceID now

/-- The run that is claimed next. -/
def Store.nextRun : Option TaskRun :=
  (rotated ((s.lastClaimNamespace.lookup accountID).getD "")
    (s.eligibleNamespaceIDs accountID now)).findSome? (s.candidate rank accountID now)

end

/-- A run with a new lease. -/
def TaskRun.claimed (run : TaskRun) (input : ClaimInput) (token : String) : TaskRun :=
  { run with
    state := .running
    attempt := run.attempt + 1
    leaseOwner := input.workerID
    leaseToken := token
    leaseExpires := input.now + input.leaseTTL
    fence := run.fence + 1
    updatedAt := input.now }

/-- Claiming a run of an account for a worker. -/
def claimNext (env : Env) (s : Store) (input : ClaimInput) (rank : String → Nat) :
    Except TaskError (Store × TaskRun) :=
  let input := claimDefaults env input
  if input.maxGlobalActive ≤ s.countActive input.accountID then .error .noEligibleTask else
  match s.nextRun rank input.accountID input.now with
  | none => .error .noEligibleTask
  | some run =>
    let claimed := run.claimed input env.uuid.val
    .ok ({ s with
      taskRuns := s.taskRuns.insert claimed.id claimed
      lastClaimNamespace := s.lastClaimNamespace.insert input.accountID run.namespaceID }, claimed)

/-! ## Calls under a lease -/

/-- The lease has the fence and the token, and has not expired. -/
def TaskRun.holds (run : TaskRun) (fence : Int) (token : String) (now : Time) : Bool :=
  run.fence == fence && run.leaseToken == token && decide (now < run.leaseExpires)

/-- A run with a longer lease. -/
def TaskRun.renewed (run : TaskRun) (input : RenewLeaseInput) : TaskRun :=
  { run with leaseExpires := input.now + input.leaseTTL, updatedAt := input.now }

/-- The first request to cancel a run. -/
def Store.findCancelRequest (s : Store) (run : TaskRun) : Option Event :=
  (s.sessionEvents run.sessionID).find? fun event =>
    event.type == eventRunCancelRequested && names event run.id

structure RenewLeaseResult where
  taskRun : TaskRun
  cancelRequested : Bool

/-- Renewing the lease of a running run. -/
def renewLease (env : Env) (s : Store) (input : RenewLeaseInput) :
    Except TaskError (Store × RenewLeaseResult) :=
  match normalizeRenew env input with
  | .error e => .error e
  | .ok input =>
    match s.taskRuns.lookup input.taskRunID with
    | none => .error .notFound
    | some run =>
      if run.accountID ≠ input.accountID then .error .notFound else
      if run.state ≠ .running ∨ run.leaseOwner ≠ input.workerID ∨
          ¬ run.holds input.fence input.leaseToken input.now then .error .leaseConflict else
      .ok ({ s with taskRuns := s.taskRuns.insert run.id (run.renewed input) },
        ⟨run.renewed input, (s.findCancelRequest run).isSome⟩)

structure TaskRunEventResult where
  event : Event
  taskRun : TaskRun
  snapshotVersion : Int
  lastEventSeq : Int

/-- A new event about a run, which is written with it. -/
def Store.recordRun (s : Store) (session : Session) (run : TaskRun) (event : Event) :
    Store × TaskRunEventResult :=
  ({ s.commit session event
      (Payload.set session.context "lastRunState" (.string run.state.text)) with
      taskRuns := s.taskRuns.insert run.id run },
    ⟨event, run, session.snapshotVersion + 1, event.seq⟩)

/-- A run after a report that leaves it in a state. -/
def TaskRun.reported (run : TaskRun) (input : TaskRunEventInput) (state : RunState) : TaskRun :=
  { run with
    state := state
    bridgeRef := if input.bridgeRef = "" then run.bridgeRef else input.bridgeRef
    updatedAt := input.createdAt }

section

variable [Unicode] [Wire]

/-- The report of a worker on its run. A repeated report, found by its request, changes nothing. -/
def recordTaskRunEvent (env : Env) (s : Store) (input : TaskRunEventInput) :
    Except TaskError (Store × TaskRunEventResult) :=
  let input := input.normalized env
  if input.accountID = "" ∨ input.taskRunID = "" ∨ input.clientRequestID = "" ∨
      input.leaseToken = "" then .error .invalidInput else
  match s.taskRuns.lookup input.taskRunID with
  | none => .error .notFound
  | some run =>
    if run.accountID ≠ input.accountID then .error .notFound else
    match s.sessions.lookup run.sessionID with
    | none => .error .notFound
    | some session =>
      if ¬ run.holds input.fence input.leaseToken input.createdAt then .error .leaseConflict else
      match s.eventByRequest.lookup (requestKey run.sessionID input.clientRequestID) with
      | some existing => .ok (s, ⟨existing, run, session.snapshotVersion, session.lastEventSeq⟩)
      | none =>
        if run.state ≠ .running then .error .leaseConflict else
        match stateForRunEvent input.type run.state with
        | .error e => .error e
        | .ok next =>
          let payload := taskRunEventPayload input.payload run.id input.fence next.1
          match marshal (16 * 1024) payload with
          | .error e => .error e
          | .ok () =>
            .ok (s.recordRun session (run.reported input next.1)
              { sessionID := run.sessionID
                seq := session.lastEventSeq + 1
                type := input.type
                payload := payload
                actorID := input.actorID
                clientRequestID := input.clientRequestID
                createdAt := input.createdAt })

end

/-! ## Requests to cancel -/

/-- What a request to cancel makes of a run that is not over: a run that waits is cancelled, and a
    running one is asked to end, once. -/
def Store.cancelRun (s : Store) (session : Session) (run : TaskRun) (input : CancelRunInput) :
    Store × TaskRunEventResult :=
  let event (type : String) (payload : Payload) : Event :=
    { sessionID := run.sessionID
      seq := session.lastEventSeq + 1
      type := type
      payload := payload
      actorID := input.actorID
      clientRequestID := input.clientRequestID
      createdAt := input.createdAt }
  if run.state = .queued then
    s.recordRun session { run with state := .cancelled, updatedAt := input.createdAt }
      (event eventRunCancelled (cancelledBeforeStartPayload run.id))
  else
    match s.findCancelRequest run with
    | some requested => (s, ⟨requested, run, session.snapshotVersion, session.lastEventSeq⟩)
    | none =>
      s.recordRun session run (event eventRunCancelRequested (cancelRequestedPayload run.id))

/-- A user asks to cancel a run. -/
def requestCancel (env : Env) (s : Store) (input : CancelRunInput) :
    Except TaskError (Store × TaskRunEventResult) :=
  match normalizeCancel env input with
  | .error e => .error e
  | .ok input =>
    match s.sessions.lookup input.sessionID with
    | none => .error .notFound
    | some session =>
      if session.accountID ≠ input.accountID then .error .notFound else
      match s.taskRuns.lookup input.taskRunID with
      | none => .error .notFound
      | some run =>
        if run.accountID ≠ input.accountID ∨ run.sessionID ≠ input.sessionID then
          .error .notFound else
        match s.eventByRequest.lookup (requestKey input.sessionID input.clientRequestID) with
        | some existing =>
          if ¬ names existing run.id then .error .alreadyExists else
          .ok (s, ⟨existing, run, session.snapshotVersion, session.lastEventSeq⟩)
        | none =>
          if run.state.finished then .error .runFinished else .ok (s.cancelRun session run input)

/-! ## The system -/

/-- A call, with what it reads from outside. `rank` is the order in which the runs are visited. -/
inductive Action
  | createNamespace (input : CreateNamespaceInput)
  | ensurePersonalNamespace (env : Env) (accountID : String)
  | createSession (env : Env) (input : CreateSessionInput)
  | appendEvent (env : Env) (input : AppendEventInput)
  | appendMessage (env : Env) (input : AppendMessageInput)
  | enqueueTaskRun (env : Env) (input : EnqueueTaskRunInput)
  | claimNext (env : Env) (input : ClaimInput) (rank : String → Nat)
  | renewLease (env : Env) (input : RenewLeaseInput)
  | recordTaskRunEvent (env : Env) (input : TaskRunEventInput)
  | requestCancel (env : Env) (input : CancelRunInput)

section

variable [Unicode] [Wire]

/-- The store after a call. -/
def Action.call (s : Store) : Action → Except TaskError Store
  | .createNamespace input => (Memory.createNamespace s input).map (·.1)
  | .ensurePersonalNamespace env accountID =>
    (Memory.ensurePersonalNamespace env s accountID).map (·.1)
  | .createSession env input => (Memory.createSession env s input).map (·.1)
  | .appendEvent env input => (Memory.appendEvent env s input).map (·.1)
  | .appendMessage env input => (Memory.appendMessage env s input).map (·.1)
  | .enqueueTaskRun env input => (Memory.enqueueTaskRun env s input).map (·.1)
  | .claimNext env input rank => (Memory.claimNext env s input rank).map (·.1)
  | .renewLease env input => (Memory.renewLease env s input).map (·.1)
  | .recordTaskRunEvent env input => (Memory.recordTaskRunEvent env s input).map (·.1)
  | .requestCancel env input => (Memory.requestCancel env s input).map (·.1)

/-- A step: a call that fails leaves the store as it is. -/
def Store.step (s : Store) (a : Action) : Store :=
  match a.call s with
  | .ok s' => s'
  | .error _ => s

end

end Memory

end Accounts.Tasks

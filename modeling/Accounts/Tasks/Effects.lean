import Accounts.Tasks.Postgres

/-!
# What the calls on task runs do

One lemma for every call of `Accounts.Tasks.Postgres` says all that follows from its success: what
was found in the tables, and what was written (`claimNext_ok`, `renewLease_ok`,
`recordTaskRunEvent_ok`, `requestCancel_ok`, `enqueueTaskRun_ok`). Events are only appended, and
the other tables change in one row (`record_ok`, `recordRun_ok`).
-/

namespace Accounts.Tasks

open Text Except Store

variable {s s' : Store}

/-! ## Rows -/

variable {accountID : String}

theorem lockSession_ok {sessionID : String} {session : Session}
    (h : s.lockSession sessionID accountID = .ok session) :
    s.sessions.lookup sessionID = some session ∧ session.accountID = accountID := by
  rw [lockSession] at h
  split at h
  · cases h
  next session' hfound =>
  split_ifs at h with haccount
  cases h
  exact ⟨hfound, haccount⟩

variable {run : TaskRun}

theorem loadTaskRun_ok {taskRunID : String} (h : s.loadTaskRun taskRunID accountID = .ok run) :
    s.runs.lookup taskRunID = some run ∧ run.accountID = accountID := by
  rw [loadTaskRun] at h
  split at h
  · cases h
  next run' hfound =>
  split_ifs at h with haccount
  cases h
  exact ⟨hfound, haccount⟩

/-- The next run is one that can be claimed. -/
theorem nextRun_ok {now : Time} {locked : List String}
    (h : s.nextRun accountID now locked = some run) :
    run ∈ Table.rows s.runs ∧ s.claimable accountID now run = true := by
  have hmem : run ∈ ((Table.rows s.runs).filter fun run =>
      s.claimable accountID now run && !locked.contains run.id).insertionSort
        fun a b => s.claimOrder a b ≠ .gt := List.mem_of_mem_head? h
  rw [List.mem_insertionSort, List.mem_filter, Bool.and_eq_true] at hmem
  exact ⟨hmem.1, hmem.2.1⟩

/-- A run that can be claimed is one of the account that waits or whose lease has expired, and its
    namespace has a place left. -/
theorem claimable_iff {now : Time} :
    s.claimable accountID now run = true ↔ run.accountID = accountID ∧
      ((run.state = .queued ∧ run.notBefore ≤ now) ∨
        (run.state = .running ∧ run.leased now = false)) ∧
      ∃ ns, s.namespaces.lookup run.namespaceID = some ns ∧
        (s.activeRunsIn run.accountID run.namespaceID now : Int) < min ns.maxActiveRuns 2 := by
  simp only [claimable, Bool.and_eq_true, Bool.or_eq_true, beq_iff_eq, decide_eq_true_eq,
    Bool.not_eq_true', Option.any_eq_true, and_assoc]

theorem not_finished_of_claimable {now : Time} (h : s.claimable accountID now run = true) :
    run.state.finished = false := by
  rcases (claimable_iff.1 h).2.1 with ⟨hstate, -⟩ | ⟨hstate, -⟩ <;> rw [hstate] <;> rfl

/-- A run that is neither over nor waits is running. -/
theorem running_of_open {state : RunState} (hopen : ¬ state.finished) (hqueued : state ≠ .queued) :
    state = .running := by
  revert hopen hqueued
  cases state <;> simp [RunState.finished]

/-! ## Events -/

/-- A session after an event. -/
def Session.after (session : Session) (event : Event) (lastRunState : RunState) : Session :=
  { session with
    lastEventSeq := event.seq
    snapshotVersion := session.snapshotVersion + 1
    context := Payload.set session.context "lastRunState" (.string lastRunState.text)
    updatedAt := event.createdAt }

section

variable [Unicode] [Wire] {session : Session} {event : Event}

/-- Recording an event appends it, and changes its session. -/
theorem record_ok {state : RunState} (h : s.record session event state = .ok s') : s' = { s with
      events := s.events ++ [event]
      sessions := s.sessions.insert session.id (session.after event state) } := by
  rw [record] at h
  split at h
  · cases h
  simp only [guard_ok] at h
  obtain ⟨-, -, h⟩ := h
  split at h
  · cases h
  obtain ⟨-, h⟩ := guard_ok.1 h
  cases h
  rfl

/-- Recording an event of a run writes the run, too. -/
theorem recordRun_ok {r : Store × TaskRunEventResult} (h : s.recordRun session run event = .ok r) :
    r = ({ s with
        runs := s.runs.insert run.id run
        events := s.events ++ [event]
        sessions := s.sessions.insert session.id (session.after event run.state) },
      ⟨event, run, session.snapshotVersion + 1, event.seq⟩) := by
  obtain ⟨_, hrecord, rfl⟩ := map_eq_ok.1 h
  rw [record_ok hrecord]

end

/-! ## Calls -/

section

variable [Sha256]

/-- The tables with a run that is leased to a worker. -/
def Store.grant (s : Store) (run : TaskRun) (input : ClaimInput) (token : String) : Store :=
  { s with
    runs := s.runs.insert run.id (run.claimed input token)
    namespaces := match s.namespaces.lookup run.namespaceID with
      | some ns => if ns.accountID = input.accountID then
          s.namespaces.insert run.namespaceID { ns with lastClaimedAt := some input.now }
        else s.namespaces
      | none => s.namespaces }

/-- The event of a claim. -/
def runningEvent [Wire] (run : TaskRun) (session : Session) (input : ClaimInput) : Event where
  sessionID := run.sessionID
  seq := session.lastEventSeq + 1
  type := eventRunRunning
  payload := taskRunEventPayload
    [("leaseExpiresAt", .string (Wire.formatTime (input.now + input.leaseTTL)))] run.id
    (run.fence + 1) .running
  actorID := input.workerID
  createdAt := input.now

variable [Unicode] [Wire] {env : Env}

/-- A claim grants the next run, if the account has a place left. -/
theorem claimNext_ok {input : ClaimInput} {locked : List String} {r : Store × Claim}
    (h : claimNext env s input locked = .ok r) :
    ∃ run session,
      (s.activeRuns (input.normalized env).accountID (input.normalized env).now : Int) <
        (input.normalized env).maxGlobalActive ∧
      s.nextRun (input.normalized env).accountID (input.normalized env).now locked = some run ∧
      s.sessions.lookup run.sessionID = some session ∧
      (s.grant run (input.normalized env) env.uuid.val).record session
        (runningEvent run session (input.normalized env)) .running = .ok r.1 ∧
      r.2 = ⟨run.claimed (input.normalized env) env.uuid.val, env.uuid.val⟩ := by
  simp only [claimNext, guard_ok, not_le] at h
  obtain ⟨-, hroom, h⟩ := h
  split at h
  · cases h
  next run hnext =>
  obtain ⟨-, h⟩ := guard_ok.1 h
  generalize hlock : lockSession _ run.sessionID run.accountID = locked at h
  cases locked with
  | error => cases h
  | ok session =>
    obtain ⟨_, hrecord, rfl⟩ := map_eq_ok.1 h
    exact ⟨run, session, hroom, hnext, (lockSession_ok hlock).1, hrecord, rfl⟩

omit [Unicode] [Wire] [Sha256] in
/-- A renewal as it is read: trimmed, with the time from the clock if it has none. -/
theorem normalizeRenew_ok {input normal : RenewLeaseInput}
    (h : normalizeRenew env input = .ok normal) :
    normal = { input with
      accountID := trimSpace input.accountID
      taskRunID := trimSpace input.taskRunID
      workerID := trimSpace input.workerID
      leaseToken := trimSpace input.leaseToken
      now := if input.now.isZero then env.now else input.now } := by
  simp only [normalizeRenew, guard_ok] at h
  exact (Except.ok.inj h.2.2).symm

omit [Unicode] [Wire] in
/-- A renewal needs the lease. -/
theorem renewLease_ok {input : RenewLeaseInput} {r : Store × RenewLeaseResult}
    (h : renewLease env s input = .ok r) :
    ∃ run normal, normalizeRenew env input = .ok normal ∧
      s.runs.lookup normal.taskRunID = some run ∧ run.state = .running ∧
      run.holds normal.fence normal.leaseToken normal.now = true ∧
      r = ({ s with runs := s.runs.insert run.id (run.renewed normal) },
        ⟨run.renewed normal, (s.findCancelRequest run).isSome⟩) := by
  rw [renewLease] at h
  split at h
  · cases h
  next normal hinput =>
  split at h
  · cases h
  next run hload =>
  simp only [guard_ok, not_or, not_not] at h
  obtain ⟨⟨hstate, -, hholds⟩, h⟩ := h
  cases h
  exact ⟨run, normal, hinput, (loadTaskRun_ok hload).1, hstate, hholds, rfl⟩

/-- The event of a report. -/
def reportEvent (run : TaskRun) (session : Session) (input : TaskRunEventInput)
    (state : RunState) : Event where
  sessionID := run.sessionID
  seq := session.lastEventSeq + 1
  type := input.type
  payload := taskRunEventPayload input.payload run.id input.fence state
  actorID := input.actorID
  clientRequestID := input.clientRequestID
  createdAt := input.createdAt

/-- A report that is not refused: its fields are there, its type is one of a run, and it has the
    lease of its run, which is one of the account. -/
structure ReportAccepted (s : Store) (input : TaskRunEventInput) (run : TaskRun)
    (session : Session) (next : RunState × Bool) : Prop where
  named : ¬ (input.accountID = "" ∨ input.taskRunID = "" ∨ input.clientRequestID = "" ∨
    input.leaseToken = "" ∨ input.type = "")
  next_ok : stateForRunEvent input.type .running = .ok next
  run_found : s.runs.lookup input.taskRunID = some run
  account : run.accountID = input.accountID
  found : s.sessions.lookup run.sessionID = some session
  session_account : session.accountID = input.accountID
  holds : run.holds input.fence input.leaseToken input.createdAt = true

/-- A report needs the lease. It is a repeated one, or writes the run, which is running. -/
theorem recordTaskRunEvent_ok {input : TaskRunEventInput} {r : Store × TaskRunEventResult}
    (h : recordTaskRunEvent env s input = .ok r) :
    ∃ run session next, ReportAccepted s (input.normalized env) run session next ∧
      ((s.findEventByRequest run.sessionID (input.normalized env).clientRequestID =
          some r.2.event ∧ r.2.event.taskRunID = run.id ∧ r.1 = s) ∨
        (s.findEventByRequest run.sessionID (input.normalized env).clientRequestID = none ∧
          run.state = .running ∧ s.recordRun session (run.reported (input.normalized env) next.1)
            (reportEvent run session (input.normalized env) next.1) = .ok r)) := by
  obtain ⟨hnamed, h⟩ := guard_ok.1 h
  generalize input.normalized env = normal at hnamed h ⊢
  split at h
  · cases h
  next next hnext =>
  split at h
  · cases h
  next run hload =>
  split at h
  · cases h
  next session hlock =>
  simp only [guard_ok, not_not] at h
  obtain ⟨hholds, h⟩ := h
  obtain ⟨hrun, haccount⟩ := loadTaskRun_ok hload
  obtain ⟨hsession, haccount'⟩ := lockSession_ok hlock
  refine ⟨run, session, next, ⟨hnamed, hnext, hrun, haccount, hsession, haccount', hholds⟩, ?_⟩
  cases hfound : s.findEventByRequest run.sessionID normal.clientRequestID with
  | some =>
    simp only [hfound, guard_ok, not_not] at h
    obtain ⟨hnames, h⟩ := h
    cases h
    exact .inl ⟨rfl, hnames, rfl⟩
  | none =>
    simp only [hfound, guard_ok, not_not] at h
    exact .inr ⟨rfl, h⟩

/-- A report whose request was used for an event of the run is answered with it. -/
theorem recordTaskRunEvent_of_found {input : TaskRunEventInput} {session : Session}
    {next : RunState × Bool} {event : Event}
    (h : ReportAccepted s (input.normalized env) run session next)
    (hfound : s.findEventByRequest run.sessionID (input.normalized env).clientRequestID =
      some event) (hnames : event.taskRunID = run.id) :
    recordTaskRunEvent env s input =
      .ok (s, ⟨event, run, session.snapshotVersion, session.lastEventSeq⟩) := by
  simp [recordTaskRunEvent, loadTaskRun, lockSession, h.named, h.next_ok, h.run_found,
    h.account, h.found, h.session_account, h.holds, hfound, hnames]

/-- The event of a request to cancel. -/
def cancelEvent (run : TaskRun) (session : Session) (input : CancelRunInput) (type : String)
    (payload : Payload) : Event where
  sessionID := run.sessionID
  seq := session.lastEventSeq + 1
  type := type
  payload := payload
  actorID := input.actorID
  clientRequestID := input.clientRequestID
  createdAt := input.createdAt

/-- What a request to cancel finds or does: an event of its request, a run that waits, which is
    cancelled, or a running one, which is asked to end. -/
inductive Cancels (s : Store) (session : Session) (run : TaskRun) (input : CancelRunInput)
    (r : Store × TaskRunEventResult) : Prop
  | repeated (found : s.findEventByRequest input.sessionID input.clientRequestID = some r.2.event)
      (named : r.2.event.taskRunID = run.id) (same : r.1 = s)
  | queued (state : run.state = .queued)
      (recorded : s.recordRun session { run with state := .cancelled, updatedAt := input.createdAt }
        (cancelEvent run session input eventRunCancelled (cancelledBeforeStartPayload run.id)) =
          .ok r)
  | requested (state : run.state = .running) (found : s.findCancelRequest run = some r.2.event)
      (same : r.1 = s)
  | running (state : run.state = .running) (recorded : s.recordRun session run
      (cancelEvent run session input eventRunCancelRequested (cancelRequestedPayload run.id)) =
        .ok r)

omit [Unicode] [Wire] [Sha256] in
/-- A request to cancel as it is read: trimmed, with the time from the clock if it has none. -/
theorem normalizeCancel_ok {input normal : CancelRunInput}
    (h : normalizeCancel env input = .ok normal) :
    normal = { accountID := trimSpace input.accountID
               sessionID := trimSpace input.sessionID
               taskRunID := trimSpace input.taskRunID
               actorID := if trimSpace input.actorID = "" then trimSpace input.accountID
                 else trimSpace input.actorID
               clientRequestID := trimSpace input.clientRequestID
               createdAt := if input.createdAt.isZero then env.now else input.createdAt } := by
  simp only [normalizeCancel, guard_ok] at h
  exact (Except.ok.inj h.2).symm

omit [Sha256] in
/-- A request to cancel is for a run of its session. -/
theorem requestCancel_ok {input : CancelRunInput} {r : Store × TaskRunEventResult}
    (h : requestCancel env s input = .ok r) :
    ∃ normal session run, normalizeCancel env input = .ok normal ∧
      s.sessions.lookup normal.sessionID = some session ∧
      s.runs.lookup normal.taskRunID = some run ∧ run.sessionID = normal.sessionID ∧
      Cancels s session run normal r := by
  rw [requestCancel] at h
  split at h
  · cases h
  next normal hinput =>
  split at h
  · cases h
  next session hlock =>
  split at h
  · cases h
  next run hload =>
  simp only [guard_ok, not_not] at h
  obtain ⟨hsession, h⟩ := h
  refine ⟨normal, session, run, hinput, (lockSession_ok hlock).1, (loadTaskRun_ok hload).1,
    hsession, ?_⟩
  cases hfound : s.findEventByRequest normal.sessionID normal.clientRequestID with
  | some =>
    simp only [hfound, guard_ok, not_not] at h
    obtain ⟨hnamed, h⟩ := h
    cases h
    exact .repeated hfound hnamed rfl
  | none =>
    simp only [hfound, guard_ok, cancelRun] at h
    obtain ⟨hopen, h⟩ := h
    split_ifs at h with hqueued
    · exact .queued hqueued h
    have hrunning := running_of_open hopen hqueued
    cases hrequested : s.findCancelRequest run with
    | some requested =>
      rw [hrequested] at h
      cases h
      exact .requested hrunning hrequested rfl
    | none =>
      rw [hrequested] at h
      exact .running hrunning h

omit [Unicode] [Wire] [Sha256] in
/-- A new run waits, for a session of its account and its namespace. -/
theorem enqueueTaskRun_ok {input : EnqueueTaskRunInput} {r : Store × TaskRun}
    (h : enqueueTaskRun env s input = .ok r) :
    (input.run env).id ∉ s.runs ∧
      (∃ session, s.sessions.lookup (input.run env).sessionID = some session ∧
        session.accountID = (input.run env).accountID ∧
        session.namespaceID = (input.run env).namespaceID) ∧
      r = ({ s with runs := s.runs.insert (input.run env).id (input.run env) }, input.run env) := by
  simp only [enqueueTaskRun, guard_ok, not_or, not_not, Option.any_eq_true,
    Bool.and_eq_true, beq_iff_eq] at h
  obtain ⟨-, hsession, ⟨hnew, -⟩, h⟩ := h
  cases h
  exact ⟨hnew, hsession, rfl⟩

end

end Accounts.Tasks

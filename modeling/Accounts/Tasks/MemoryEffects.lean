import Accounts.Tasks.Effects
import Accounts.Tasks.Memory

/-!
# What the calls on the store in memory do

One lemma for every call of `Accounts.Tasks.Memory` says what follows from its success. A call that
changes a session appends to its events (`Store.commit`), one or, for a message, two. What all of
them do to the sessions, the runs, the index of requests and the turns of the namespaces is said
once (`effect_of_call`).
-/

namespace Accounts.Tasks.Memory

open Text Except AList List

variable {s s' : Store}

/-! ## Namespaces and sessions -/

/-- A new namespace, which has an identifier, changes neither sessions nor runs. -/
structure SameRuns (s s' : Store) : Prop where
  named : "" ∉ s.namespaces → "" ∉ s'.namespaces
  sessions : s'.sessions = s.sessions
  events : s'.events = s.events
  eventByRequest : s'.eventByRequest = s.eventByRequest
  taskRuns : s'.taskRuns = s.taskRuns
  lastClaimNamespace : s'.lastClaimNamespace = s.lastClaimNamespace

theorem SameRuns.refl (s : Store) : SameRuns s s := ⟨id, rfl, rfl, rfl, rfl, rfl⟩

theorem createNamespace_ok {input : CreateNamespaceInput} {r : Store × Namespace}
    (h : createNamespace s input = .ok r) : SameRuns s r.1 := by
  simp only [createNamespace, guard_ok, not_or] at h
  obtain ⟨⟨hid, -⟩, -, h⟩ := h
  cases h
  refine ⟨fun hs => ?_, rfl, rfl, rfl, rfl, rfl⟩
  rw [mem_insert, not_or]
  exact ⟨Ne.symm hid, hs⟩

theorem ensurePersonalNamespace_ok {env : Env} {accountID : String}
    {r : Store × Option Namespace} (h : ensurePersonalNamespace env s accountID = .ok r) :
    SameRuns s r.1 := by
  obtain ⟨-, h⟩ := guard_ok.1 h
  split at h
  · cases h
    exact .refl s
  · obtain ⟨_, hr, rfl⟩ := map_eq_ok.1 h
    exact createNamespace_ok hr

/-! ## The messages of a context -/

/-- The messages of a context. -/
def contextMessages (context : Payload) : List Json :=
  match context.lookup "messages" with
  | some (.array items) => items
  | _ => []

/-- The last message is written beside the messages. -/
theorem contextMessages_last (context : Payload) (text : Json) :
    contextMessages (Payload.set context "lastMessage" text) = contextMessages context := by
  have hne : ("messages" == "lastMessage") = false := rfl
  have hlookup : (Payload.set context "lastMessage" text).lookup "messages" =
      context.lookup "messages" := by
    simp only [Payload.set, lookup_cons, hne]
    induction context with
    | nil => rfl
    | cons member _ ih =>
      obtain ⟨key, value⟩ := member
      by_cases hkey : key = "lastMessage" <;> simp [hkey, lookup_cons, hne, ih]
  simp only [contextMessages, hlookup]

section

variable [Unicode] [Wire]

/-- A context is within its limit with a list of messages. -/
def Within (context : Payload) (messages : List Json) : Prop :=
  Wire.jsonLength (Payload.set context "messages" (.array messages)) ≤ 128 * 1024

/-- Of the suffixes of a list of messages, the longest within the limit is kept. -/
theorem fitMessages_spec (context : Payload) (messages : List Json) :
    match fitMessages context messages with
    | .ok next => ∃ kept, next = Payload.set context "messages" (.array kept) ∧ kept ≠ [] ∧
        kept <:+ messages ∧ Within context kept ∧
        ∀ l, l <:+ messages → Within context l → l.length ≤ kept.length
    | .error e => e = .payloadTooLarge → ∀ l, l ≠ [] → l <:+ messages → ¬Within context l := by
  fun_induction fitMessages context messages with
  | case1 => exact fun _ l hne hl => (hne (suffix_nil.1 hl)).elim
  | case2 _ _ _ hfits =>
    simp only [marshal, guard_ok, not_lt] at hfits
    exact ⟨_, rfl, cons_ne_nil _ _, suffix_rfl, hfits.2.1, fun l hl _ => hl.length_le⟩
  | case3 message messages _ hlarge ih =>
    -- The whole list is too large: a suffix within the limit is one of the rest.
    have hrest {l : List Json} (hl : l <:+ message :: messages) (hfits : Within context l) :
        l <:+ messages := by
      obtain rfl | hl := suffix_cons_iff.1 hl
      · rw [marshal, if_neg (not_lt.2 hfits)] at hlarge
        split at hlarge <;> cases hlarge
      · exact hl
    split at ih
    · obtain ⟨kept, rfl, hne, hkept, hfits, hmax⟩ := ih
      exact ⟨kept, rfl, hne, hkept.trans (suffix_cons _ _), hfits,
        fun l hl hfits => hmax l (hrest hl hfits) hfits⟩
    · exact fun he l hne hl hfits => ih he l hne (hrest hl hfits) hfits
  | case4 _ _ _ e hne => exact fun he => (hne he).elim

/-- After a message, the messages of the context end with it and are the longest suffix of at most
    100 within the limit. The context is too large only if the message alone is. -/
theorem appendMessageToContext_longest (context : Payload) (text : String) (message : Json) :
    let last := Payload.set context "lastMessage" (.string (trimSpace text))
    let all := contextMessages context ++ [message]
    match appendMessageToContext context text message with
    | .ok next =>
        let kept := contextMessages next
        next = Payload.set last "messages" (.array kept) ∧ [message] <:+ kept ∧ kept <:+ all ∧
          kept.length ≤ 100 ∧ Within last kept ∧
          ∀ l, l <:+ all → l.length ≤ 100 → Within last l → l.length ≤ kept.length
    | .error e => e = .payloadTooLarge → ¬Within last [message] := by
  intro last all
  have hcall : appendMessageToContext context text message =
      fitMessages last (all.drop (all.length - 100)) := by
    simp only [all, ← contextMessages_last context (.string (trimSpace text))]
    rfl
  rw [hcall]
  have hnew : [message] <:+ all := suffix_append _ _
  -- A suffix of at most 100 messages is one of those tried.
  have htried {l : List Json} (hl : l <:+ all) (h : l.length ≤ 100) :
      l <:+ all.drop (all.length - 100) :=
    suffix_of_suffix_length_le hl (drop_suffix _ _) (by grind [hl.length_le])
  have hspec := fitMessages_spec last (all.drop (all.length - 100))
  split at hspec
  · obtain ⟨kept, rfl, hne, hkept, hfits, hmax⟩ := hspec
    have hall := hkept.trans (drop_suffix _ _)
    exact ⟨rfl, suffix_of_suffix_length_le hnew hall (length_pos_iff.2 hne), hall,
      hkept.length_le.trans (by grind), hfits, fun l hl hlen => hmax l (htried hl hlen)⟩
  · exact fun he => hspec he _ (cons_ne_nil _ _) (htried hnew (by simp))

/-! ## Events and messages -/

/-- The event of a call. -/
def AppendEventInput.event (env : Env) (input : AppendEventInput) (session : Session) : Event where
  sessionID := input.sessionID
  seq := session.lastEventSeq + 1
  type := trimSpace input.type
  payload := input.payload
  actorID := trimSpace input.actorID
  clientRequestID := trimSpace input.clientRequestID
  createdAt := if input.createdAt.isZero then env.now else input.createdAt

variable {env : Env}

/-- An event is appended, unless one is found for the request. -/
theorem appendEvent_ok {input : AppendEventInput} {r : Store × Event}
    (h : appendEvent env s input = .ok r) :
    ∃ session, s.sessions.lookup input.sessionID = some session ∧
      session.accountID = input.accountID ∧
      ((input.clientRequestID ≠ "" ∧ s.eventByRequest.lookup
          (requestKey input.sessionID input.clientRequestID) = some r.2 ∧ r.1 = s) ∨
        ((input.clientRequestID ≠ "" → s.eventByRequest.lookup
            (requestKey input.sessionID input.clientRequestID) = none) ∧
          r.2 = input.event env session ∧
          ∃ context, r.1 = s.commit session (input.event env session) context)) := by
  rw [appendEvent] at h
  split at h
  · cases h
  next session hsession =>
  simp only [guard_ok, not_not] at h
  obtain ⟨haccount, h⟩ := h
  refine ⟨session, hsession, haccount, ?_⟩
  split at h
  · rename_i event hfound
    cases h
    obtain ⟨hne, hfound⟩ := Option.ite_none_left_eq_some.1 hfound
    exact .inl ⟨hne, hfound, rfl⟩
  · rename_i hfound
    split at h <;> cases h
    exact .inr ⟨fun hne => (if_neg hne).symm.trans hfound, rfl, _, rfl⟩

/-- A session after a message. -/
def Session.afterMessage (session : Session) (queued : Event) (context : Payload) : Session :=
  { session with
    lastEventSeq := queued.seq
    snapshotVersion := session.snapshotVersion + 2
    context := context
    updatedAt := queued.createdAt }

/-- The store with a message, its run and the two events. -/
def Store.commitMessage (s : Store) (session : Session) (input : AppendMessageInput)
    (routing : List (String × Any)) (context : Payload) : Store :=
  { s with
    events := s.events.insert input.sessionID
      (s.sessionEvents input.sessionID ++ [input.messageEvent session, input.queuedEvent session])
    eventByRequest := s.eventByRequest.insert (requestKey input.sessionID input.clientRequestID)
      (input.messageEvent session)
    taskRuns := s.taskRuns.insert input.taskRunID (input.run session)
    runRouting := s.runRouting.insert input.taskRunID routing
    sessions := s.sessions.insert session.id
      (Session.afterMessage session (input.queuedEvent session) context) }

/-- A message that is not refused: its fields are there, its routing is well formed, and its
    session is one of the account. -/
structure AppendMessageInput.Accepted (s : Store) (input : AppendMessageInput)
    (session : Session) : Prop where
  named : ¬ (input.accountID = "" ∨ input.sessionID = "" ∨ input.clientRequestID = "" ∨
    input.text = "")
  routed : ∃ routing, normalizeRouting input.routing = .ok routing
  found : s.sessions.lookup input.sessionID = some session
  account : session.accountID = input.accountID

omit [Unicode] [Wire] in
theorem AppendMessageInput.Accepted.request {input : AppendMessageInput} {session : Session}
    (h : input.Accepted s session) : input.clientRequestID ≠ "" :=
  fun hempty => h.named (.inr (.inr (.inl hempty)))

/-- A message is appended, unless its request was answered. -/
theorem appendMessage_ok {input : AppendMessageInput} {r : Store × MessageCommandResult}
    (h : appendMessage env s input = .ok r) :
    ∃ session, (input.normalized env).Accepted s session ∧
      ((s.eventByRequest.lookup (requestKey (input.normalized env).sessionID
          (input.normalized env).clientRequestID) = some r.2.message ∧ r.1 = s) ∨
        (s.eventByRequest.lookup (requestKey (input.normalized env).sessionID
            (input.normalized env).clientRequestID) = none ∧
          (input.normalized env).taskRunID ∉ s.taskRuns ∧
          r.2.message = (input.normalized env).messageEvent session ∧
          ∃ routing context,
            r.1 = s.commitMessage session (input.normalized env) routing context)) := by
  rw [appendMessage] at h
  generalize input.normalized env = normal at h ⊢
  obtain ⟨hnamed, h⟩ := guard_ok.1 h
  split at h
  · cases h
  next routing hrouting =>
  split at h
  · cases h
  next session hsession =>
  simp only [guard_ok, not_not] at h
  obtain ⟨haccount, h⟩ := h
  refine ⟨session, ⟨hnamed, ⟨routing, hrouting⟩, hsession, haccount⟩, ?_⟩
  cases hfound : s.eventByRequest.lookup (requestKey normal.sessionID normal.clientRequestID) with
  | some =>
    simp only [hfound, replayMessage] at h
    split at h
    · cases h
    split at h <;> cases h
    exact .inl ⟨rfl, rfl⟩
  | none =>
    simp only [hfound, guard_ok] at h
    obtain ⟨hnew, h⟩ := h
    split at h
    · cases h
    split at h
    · cases h
    split at h <;> cases h
    exact .inr ⟨rfl, hnew, rfl, _, _, rfl⟩

/-! ## Runs -/

omit [Unicode] [Wire] in
/-- The run that is queued is new. -/
theorem enqueueTaskRun_ok {input : EnqueueTaskRunInput} {r : Store × TaskRun}
    (h : enqueueTaskRun env s input = .ok r) :
    r.2.id ∉ s.taskRuns ∧ r.1 = { s with taskRuns := s.taskRuns.insert r.2.id r.2 } := by
  simp only [enqueueTaskRun, guard_ok] at h
  obtain ⟨hnew, -, h⟩ := h
  cases h
  exact ⟨hnew, rfl⟩

variable {run : TaskRun}

omit [Unicode] [Wire] in
/-- The run that comes first is one of those visited. -/
theorem mem_of_foldl_older {runs : List TaskRun} {first : Option TaskRun}
    (h : runs.foldl older first = some run) : first = some run ∨ run ∈ runs := by
  induction runs generalizing first with
  | nil => exact .inl h
  | cons _ _ ih =>
    rcases ih h with hnext | hmem
    · cases first with
      | none =>
        cases hnext
        exact .inr mem_cons_self
      | some =>
        rw [older] at hnext
        split_ifs at hnext
        · cases hnext
          exact .inr mem_cons_self
        · exact .inl hnext
    · exact .inr (mem_cons_of_mem _ hmem)

variable {accountID : String} {rank : String → Nat} {now : Time}

section

omit [Unicode] [Wire]

/-- The run of a namespace that is claimed first is ready. -/
theorem oldestEligibleRun_ok {namespaceID : String}
    (h : s.oldestEligibleRun rank accountID namespaceID now = some run) :
    (∃ id, s.taskRuns.lookup id = some run) ∧ run.ready accountID now = true ∧
      run.namespaceID = namespaceID := by
  rcases mem_of_foldl_older h with hnone | hmem
  · cases hnone
  rw [mem_filter, Store.visited, mem_insertionSort, Bool.and_eq_true,
    beq_iff_eq] at hmem
  exact ⟨Table.mem_rows_iff.1 hmem.1, hmem.2⟩

/-- The next run is ready. -/
theorem nextRun_ok (h : s.nextRun rank accountID now = some run) :
    (∃ id, s.taskRuns.lookup id = some run) ∧ run.ready accountID now = true := by
  obtain ⟨_, -, hcandidate⟩ := exists_of_findSome?_eq_some h
  rw [Store.candidate] at hcandidate
  split at hcandidate
  · cases hcandidate
  split_ifs at hcandidate
  obtain ⟨hfound, hready, -⟩ := oldestEligibleRun_ok hcandidate
  exact ⟨hfound, hready⟩

theorem state_of_ready (h : run.ready accountID now = true) : run.state = .queued := by
  rw [TaskRun.ready, Bool.and_eq_true, Bool.and_eq_true, beq_iff_eq (a := run.state)] at h
  exact h.1.2

/-- A claim is of the next run. -/
theorem claimNext_ok {input : ClaimInput} {r : Store × TaskRun}
    (h : claimNext env s input rank = .ok r) :
    ∃ run, (s.countActive input.accountID : Int) < (claimDefaults env input).maxGlobalActive ∧
      s.nextRun rank input.accountID (claimDefaults env input).now = some run ∧
      r = ({ s with
        taskRuns := s.taskRuns.insert run.id (run.claimed (claimDefaults env input) env.uuid.val)
        lastClaimNamespace := s.lastClaimNamespace.insert input.accountID run.namespaceID },
        run.claimed (claimDefaults env input) env.uuid.val) := by
  simp only [claimNext, guard_ok, not_le] at h
  obtain ⟨hroom, h⟩ := h
  split at h
  · cases h
  next run hnext =>
  cases h
  exact ⟨run, hroom, hnext, rfl⟩

/-- A renewal needs the lease. -/
theorem renewLease_ok {input : RenewLeaseInput} {r : Store × RenewLeaseResult}
    (h : renewLease env s input = .ok r) :
    ∃ run normal, normalizeRenew env input = .ok normal ∧
      s.taskRuns.lookup normal.taskRunID = some run ∧ run.state = .running ∧
      run.holds normal.fence normal.leaseToken normal.now = true ∧
      r = ({ s with taskRuns := s.taskRuns.insert run.id (run.renewed normal) },
        ⟨run.renewed normal, (s.findCancelRequest run).isSome⟩) := by
  rw [renewLease] at h
  split at h
  · cases h
  next normal hinput =>
  split at h
  · cases h
  next run hrun =>
  simp only [guard_ok, not_or, not_not] at h
  obtain ⟨-, ⟨hstate, -, hholds⟩, h⟩ := h
  cases h
  exact ⟨run, normal, hinput, hrun, hstate, hholds, rfl⟩

end

/-- The event of a report. -/
def reportEvent (run : TaskRun) (session : Session) (input : TaskRunEventInput)
    (state : RunState) : Event where
  sessionID := run.sessionID
  seq := session.lastEventSeq + 1
  type := input.type
  payload := taskRunEventPayload input.payload run.id input.fence state
  actorID := input.actorID
  clientRequestID := input.clientRequestID
  createdAt := input.createdAt

/-- A report that is not refused, but for the lease: its fields are there, and its run is one of
    the account. -/
structure ReportAccepted (s : Store) (input : TaskRunEventInput) (run : TaskRun)
    (session : Session) : Prop where
  named : ¬ (input.accountID = "" ∨ input.taskRunID = "" ∨ input.clientRequestID = "" ∨
    input.leaseToken = "")
  run_found : s.taskRuns.lookup input.taskRunID = some run
  account : run.accountID = input.accountID
  found : s.sessions.lookup run.sessionID = some session

/-- A report needs the lease. It is a repeated one, or writes the run, which is running. -/
theorem recordTaskRunEvent_ok {input : TaskRunEventInput} {r : Store × TaskRunEventResult}
    (h : recordTaskRunEvent env s input = .ok r) :
    ∃ run session, ReportAccepted s (input.normalized env) run session ∧
      run.holds (input.normalized env).fence (input.normalized env).leaseToken
        (input.normalized env).createdAt = true ∧
      ((s.eventByRequest.lookup (requestKey run.sessionID
          (input.normalized env).clientRequestID) = some r.2.event ∧ r.1 = s) ∨
        (s.eventByRequest.lookup (requestKey run.sessionID
            (input.normalized env).clientRequestID) = none ∧ run.state = .running ∧
          ∃ next, stateForRunEvent (input.normalized env).type .running = .ok next ∧
            r = s.recordRun session (run.reported (input.normalized env) next.1)
              (reportEvent run session (input.normalized env) next.1))) := by
  rw [recordTaskRunEvent] at h
  generalize input.normalized env = normal at h ⊢
  obtain ⟨hnamed, h⟩ := guard_ok.1 h
  split at h
  · cases h
  next run hrun =>
  simp only [guard_ok, not_not] at h
  obtain ⟨haccount, h⟩ := h
  split at h
  · cases h
  next session hsession =>
  simp only [guard_ok, not_not] at h
  obtain ⟨hholds, h⟩ := h
  refine ⟨run, session, ⟨hnamed, hrun, haccount, hsession⟩, hholds, ?_⟩
  cases hfound : s.eventByRequest.lookup (requestKey run.sessionID normal.clientRequestID) with
  | some =>
    rw [hfound] at h
    cases h
    exact .inl ⟨rfl, rfl⟩
  | none =>
    simp only [hfound, guard_ok, not_not] at h
    obtain ⟨hstate, h⟩ := h
    rw [hstate] at h
    split at h
    · cases h
    next next hnext =>
    split at h <;> cases h
    exact .inr ⟨rfl, hstate, next, hnext, rfl⟩

/-- A report whose request was used before is answered with the event found. -/
theorem recordTaskRunEvent_of_found {input : TaskRunEventInput} {session : Session} {event : Event}
    (h : ReportAccepted s (input.normalized env) run session)
    (hholds : run.holds (input.normalized env).fence (input.normalized env).leaseToken
      (input.normalized env).createdAt = true)
    (hfound : s.eventByRequest.lookup (requestKey run.sessionID
      (input.normalized env).clientRequestID) = some event) :
    recordTaskRunEvent env s input =
      .ok (s, ⟨event, run, session.snapshotVersion, session.lastEventSeq⟩) := by
  simp [recordTaskRunEvent, h.named, h.run_found, h.account, h.found, hholds, hfound]

end

/-- The event of a request to cancel. -/
def cancelEvent (run : TaskRun) (session : Session) (input : CancelRunInput) (type : String)
    (payload : Payload) : Event where
  sessionID := run.sessionID
  seq := session.lastEventSeq + 1
  type := type
  payload := payload
  actorID := input.actorID
  clientRequestID := input.clientRequestID
  createdAt := input.createdAt

/-- A request to cancel that is for a run of its session, of its account. -/
structure CancelAccepted (s : Store) (input : CancelRunInput) (session : Session)
    (run : TaskRun) : Prop where
  found : s.sessions.lookup input.sessionID = some session
  account : session.accountID = input.accountID
  run_found : s.taskRuns.lookup input.taskRunID = some run
  run_account : run.accountID = input.accountID
  run_session : run.sessionID = input.sessionID

/-- What a request to cancel finds or does: an event of its request, a run that waits, which is
    cancelled, or a running one, which is asked to end. -/
inductive Cancels (s : Store) (session : Session) (run : TaskRun) (input : CancelRunInput)
    (r : Store × TaskRunEventResult) : Prop
  | repeated (found : s.eventByRequest.lookup
      (requestKey input.sessionID input.clientRequestID) = some r.2.event)
      (named : names r.2.event run.id = true) (same : r.1 = s)
  | queued (fresh : s.eventByRequest.lookup
      (requestKey input.sessionID input.clientRequestID) = none) (state : run.state = .queued)
      (recorded : r = s.recordRun session
        { run with state := .cancelled, updatedAt := input.createdAt }
        (cancelEvent run session input eventRunCancelled (cancelledBeforeStartPayload run.id)))
  | requested (state : run.state = .running) (found : s.findCancelRequest run = some r.2.event)
      (same : r.1 = s)
  | running (fresh : s.eventByRequest.lookup
      (requestKey input.sessionID input.clientRequestID) = none) (state : run.state = .running)
      (recorded : r = s.recordRun session run
        (cancelEvent run session input eventRunCancelRequested (cancelRequestedPayload run.id)))

/-- A request to cancel is for a run of its session. -/
theorem requestCancel_ok {env : Env} {input : CancelRunInput} {r : Store × TaskRunEventResult}
    (h : requestCancel env s input = .ok r) :
    ∃ normal session run, normalizeCancel env input = .ok normal ∧
      CancelAccepted s normal session run ∧ Cancels s session run normal r := by
  rw [requestCancel] at h
  split at h
  · cases h
  next normal hinput =>
  split at h
  · cases h
  next session hsession =>
  simp only [guard_ok, not_not] at h
  obtain ⟨haccount, h⟩ := h
  split at h
  · cases h
  next run hrun =>
  simp only [guard_ok, not_or, not_not] at h
  obtain ⟨⟨hrunAccount, hsame⟩, h⟩ := h
  refine ⟨normal, session, run, hinput, ⟨hsession, haccount, hrun, hrunAccount, hsame⟩, ?_⟩
  cases hfound : s.eventByRequest.lookup (requestKey normal.sessionID normal.clientRequestID) with
  | some =>
    simp only [hfound, guard_ok, not_not] at h
    obtain ⟨hnames, h⟩ := h
    cases h
    exact .repeated hfound hnames rfl
  | none =>
    simp only [hfound, guard_ok, Store.cancelRun] at h
    obtain ⟨hopen, h⟩ := h
    split_ifs at h with hqueued
    · exact .queued hfound hqueued (ok.inj h).symm
    have hrunning := running_of_open hopen hqueued
    cases hrequested : s.findCancelRequest run with
    | some requested =>
      rw [hrequested] at h
      cases h
      exact .requested hrunning hrequested rfl
    | none =>
      rw [hrequested] at h
      exact .running hfound hrunning (ok.inj h).symm

/-! ## All calls -/

/-- The numbers of `n` events, from the one after `last`. -/
def numbers (last : Int) (n : Nat) : List Int :=
  (List.range n).map fun i : Nat => last + ((i : Int) + 1)

/-- What a call does to the sessions and their events. -/
inductive Logs (s s' : Store) : Prop
  | same (sessions : s'.sessions = s.sessions) (events : s'.events = s.events)
  | opened (session : Session) (fresh : session.id ∉ s.sessions) (first : session.lastEventSeq = 0)
      (version : session.snapshotVersion = 0)
      (sessions : s'.sessions = s.sessions.insert session.id session)
      (events : s'.events = s.events)
  | appended (id : String) (session : Session) (new : List Event) (session' : Session)
      (found : s.sessions.lookup id = some session)
      (numbered : new.map (·.seq) = numbers session.lastEventSeq new.length)
      (same : session'.id = session.id ∧ session'.accountID = session.accountID ∧
        session'.namespaceID = session.namespaceID)
      (last : session'.lastEventSeq = session.lastEventSeq + new.length)
      (version : session'.snapshotVersion = session.snapshotVersion + new.length)
      (sessions : s'.sessions = s.sessions.insert session.id session')
      (events : s'.events = s.events.insert id (s.sessionEvents id ++ new))

/-- A run is the same in what it belongs to. -/
structure TaskRun.Same (run run' : TaskRun) : Prop where
  id : run'.id = run.id
  accountID : run'.accountID = run.accountID
  namespaceID : run'.namespaceID = run.namespaceID
  sessionID : run'.sessionID = run.sessionID

/-- What a call does to the runs: nothing, a new run, or a run that is not over is written. -/
inductive Runs (s s' : Store) : Prop
  | same (runs : s'.taskRuns = s.taskRuns)
  | added (run : TaskRun) (fresh : run.id ∉ s.taskRuns)
      (runs : s'.taskRuns = s.taskRuns.insert run.id run)
  | written (id : String) (old run : TaskRun) (found : s.taskRuns.lookup id = some old)
      (unfinished : old.state.finished = false) (same : old.Same run)
      (runs : s'.taskRuns = s.taskRuns.insert run.id run)

/-- The request of an `appendEvent` has no white space around it. -/
def Action.Trimmed : Action → Prop
  | .appendEvent _ input => trimSpace input.clientRequestID = input.clientRequestID
  | _ => True

/-- What a call does to the index of the requests: nothing, or some events are appended, the first
    of which is found by its request. -/
inductive Indexes (s : Store) (a : Action) (s' : Store) : Prop
  | same (events : s'.events = s.events) (index : s'.eventByRequest = s.eventByRequest)
  | appended (event : Event) (silent : List Event)
      (trimmed : trimSpace event.clientRequestID = event.clientRequestID)
      (quiet : ∀ other ∈ silent, other.clientRequestID = "" ∧ other.sessionID = event.sessionID)
      (fresh : a.Trimmed → event.clientRequestID ≠ "" →
        s.eventByRequest.lookup (requestKey event.sessionID event.clientRequestID) = none)
      (events : s'.events = s.events.insert event.sessionID
        (s.sessionEvents event.sessionID ++ event :: silent))
      (index : s'.eventByRequest = if event.clientRequestID = "" then s.eventByRequest else
        s.eventByRequest.insert (requestKey event.sessionID event.clientRequestID) event)

/-- The claim of an account that a call makes: the namespace of its run. -/
def Action.served (accountID : String) (s : Store) : Action → Option String
  | .claimNext env input rank =>
    if input.accountID = accountID then
      (Memory.claimNext env s input rank).toOption.map (·.2.namespaceID) else none
  | _ => none

/-- What a call that succeeds does. A namespace has an identifier, and the one served last is that of
    the last claim. -/
structure Effect (s : Store) (a : Action) (s' : Store) : Prop where
  logs : Logs s s'
  runs : Runs s s'
  index : Indexes s a s'
  named : "" ∉ s.namespaces → "" ∉ s'.namespaces
  last : ∀ accountID, s'.lastClaimNamespace.lookup accountID =
    (a.served accountID s).or (s.lastClaimNamespace.lookup accountID)

variable {a : Action}

theorem SameRuns.effect (h : SameRuns s s') (hserved : ∀ accountID, a.served accountID s = none) :
    Effect s a s' where
  logs := .same h.sessions h.events
  runs := .same h.taskRuns
  index := .same h.events h.eventByRequest
  named := h.named
  last accountID := by rw [hserved, h.lastClaimNamespace, Option.none_or]

/-- One event is appended, and a run may be written with it. -/
theorem effect_commit {session : Session} {event : Event} {context : Payload}
    {taskRuns : AList fun _ : String => TaskRun}
    (hsession : s.sessions.lookup event.sessionID = some session)
    (hseq : event.seq = session.lastEventSeq + 1)
    (htrimmed : trimSpace event.clientRequestID = event.clientRequestID)
    (hfresh : a.Trimmed → event.clientRequestID ≠ "" →
      s.eventByRequest.lookup (requestKey event.sessionID event.clientRequestID) = none)
    (hserved : ∀ accountID, a.served accountID s = none)
    (hruns : Runs s { s.commit session event context with taskRuns := taskRuns }) :
    Effect s a { s.commit session event context with taskRuns := taskRuns } where
  logs := by
    refine .appended event.sessionID session [event] (Session.after session event context) hsession
      ?_ ⟨rfl, rfl, rfl⟩ ?_ rfl rfl rfl
    · simp [numbers, hseq]
    · rw [Session.after, hseq]
      rfl
  runs := hruns
  index := .appended event [] htrimmed (fun _ h => absurd h not_mem_nil) hfresh rfl rfl
  named := id
  last accountID := by rw [hserved, Option.none_or]; rfl

theorem normalizeCancel_request {env : Env} {input normal : CancelRunInput}
    (h : normalizeCancel env input = .ok normal) :
    normal.clientRequestID = trimSpace input.clientRequestID := by
  rw [normalizeCancel_ok h]

theorem effect_of_call [Unicode] [Wire] (h : a.call s = .ok s') : Effect s a s' := by
  have hsame (r : Store) (hr : r = s) (ha : ∀ accountID, a.served accountID s = none) :
      Effect s a r := by
    rw [hr]
    exact (SameRuns.refl s).effect ha
  cases a <;> obtain ⟨r, hr, rfl⟩ := map_eq_ok.1 h
  case createNamespace =>
    exact (createNamespace_ok hr).effect fun _ => rfl
  case ensurePersonalNamespace =>
    exact (ensurePersonalNamespace_ok hr).effect fun _ => rfl
  case createSession _ input =>
    simp only [createSession, guard_ok] at hr
    obtain ⟨hnew, -, -, hr⟩ := hr
    cases hr
    exact ⟨.opened { id := input.id, accountID := _, namespaceID := _, updatedAt := _ } hnew rfl rfl
      rfl rfl, .same rfl, .same rfl rfl, id, fun _ => rfl⟩
  case appendEvent env input =>
    obtain ⟨session, hsession, -, ⟨-, -, hold⟩ | ⟨hfresh, -, context, hstore⟩⟩ := appendEvent_ok hr
    · exact hsame r.1 hold fun _ => rfl
    rw [hstore]
    refine effect_commit (a := .appendEvent env input) hsession rfl
      (trimSpace_idem input.clientRequestID) (fun ha hne => ?_) (fun _ => rfl)
      (.same rfl)
    -- The request is looked up as it came.
    have htrim : (input.event env session).clientRequestID = input.clientRequestID := ha
    rw [htrim] at hne ⊢
    exact hfresh hne
  case appendMessage env input =>
    obtain ⟨session, haccepted, ⟨-, hold⟩ | ⟨hfresh, hnew, -, _, context, hstore⟩⟩ :=
      appendMessage_ok hr
    · exact hsame r.1 hold fun _ => rfl
    rw [hstore]
    have htrimmed : trimSpace (input.normalized env).clientRequestID =
      (input.normalized env).clientRequestID := trimSpace_idem input.clientRequestID
    generalize input.normalized env = normal at haccepted hfresh hnew htrimmed ⊢
    refine ⟨?_, .added (normal.run session) hnew rfl, ?_, id, fun _ => rfl⟩
    · -- The message and its run come one after the other.
      refine .appended normal.sessionID session
        [normal.messageEvent session, normal.queuedEvent session]
        (Session.afterMessage session (normal.queuedEvent session) context)
        haccepted.found ?_ ⟨rfl, rfl, rfl⟩ rfl rfl rfl rfl
      simp [numbers, range_succ, AppendMessageInput.messageEvent,
        AppendMessageInput.queuedEvent]
    · refine .appended (normal.messageEvent session) [normal.queuedEvent session] htrimmed
        (fun other hother => ?_) (fun _ _ => hfresh) rfl (if_neg haccepted.request).symm
      rw [mem_singleton.1 hother]
      exact ⟨rfl, rfl⟩
  case enqueueTaskRun env input =>
    obtain ⟨hnew, hstore⟩ := enqueueTaskRun_ok hr
    rw [hstore]
    exact ⟨.same rfl rfl, .added _ hnew rfl, .same rfl rfl, id, fun _ => rfl⟩
  case claimNext env input _ =>
    obtain ⟨run, -, hnext, rfl⟩ := claimNext_ok hr
    obtain ⟨⟨id, hid⟩, hready⟩ := nextRun_ok hnext
    refine ⟨.same rfl rfl, .written id run (run.claimed (claimDefaults env input) env.uuid.val) hid
      (by rw [state_of_ready hready]; rfl) ⟨rfl, rfl, rfl, rfl⟩ rfl, .same rfl rfl, fun h => h,
      fun accountID => ?_⟩
    rw [Action.served]
    by_cases haccount : input.accountID = accountID
    · rw [if_pos haccount, hr]
      exact haccount ▸ lookup_insert _
    · rw [if_neg haccount]
      exact lookup_insert_ne (Ne.symm haccount)
  case renewLease =>
    obtain ⟨run, normal, -, hrun, hstate, -, rfl⟩ := renewLease_ok hr
    exact ⟨.same rfl rfl, .written normal.taskRunID run (run.renewed normal) hrun
      (by rw [hstate]; rfl) ⟨rfl, rfl, rfl, rfl⟩ rfl, .same rfl rfl, id, fun _ => rfl⟩
  case recordTaskRunEvent env input =>
    obtain ⟨run, session, haccepted, -, ⟨-, hold⟩ | ⟨hfresh, hstate, next, -, rfl⟩⟩ :=
      recordTaskRunEvent_ok hr
    · exact hsame r.1 hold fun _ => rfl
    · exact effect_commit (a := .recordTaskRunEvent env input) haccepted.found rfl
        (trimSpace_idem input.clientRequestID) (fun _ _ => hfresh) (fun _ => rfl)
        (.written _ run (run.reported _ next.1) haccepted.run_found (by rw [hstate]; rfl)
          ⟨rfl, rfl, rfl, rfl⟩ rfl)
  case requestCancel env input =>
    obtain ⟨normal, session, run, hinput, haccepted, hcancels⟩ := requestCancel_ok hr
    have hsession := haccepted.run_session ▸ haccepted.found
    have htrimmed : trimSpace normal.clientRequestID = normal.clientRequestID := by
      rw [normalizeCancel_request hinput, trimSpace_idem]
    cases hcancels with
    | repeated _ _ same | requested _ _ same => exact hsame r.1 same fun _ => rfl
    | queued fresh state recorded | running fresh state recorded =>
      rw [recorded]
      rw [← haccepted.run_session] at fresh
      exact effect_commit (a := .requestCancel env input) hsession rfl htrimmed
        (fun _ _ => fresh) (fun _ => rfl)
        (.written _ run _ haccepted.run_found (by rw [state]; rfl) (by constructor <;> rfl) rfl)

end Accounts.Tasks.Memory

import Accounts.Tasks.Sequence

/-!
# Requests that are repeated

A client that does not get an answer sends its request again, with the same identifier. The store
in memory finds the event of the first time in an index, by the session and the trimmed identifier,
and answers with it (`Indexed`).

Four calls share the index, and three of them trim the identifier first. `appendEvent` looks it up
as it came, and keeps the event under the trimmed one: a repeated call with white space around the
identifier appends a second event (`padded_request_appends_twice`). If no identifier of an
`appendEvent` has white space around it (`Action.Trimmed`), there is at most one event for a
request, and a repeated call changes nothing and is answered with the event of the first one
(`requests_answered_once`).
-/

namespace Accounts.Tasks.Memory

open Text Except AList Table List Run

variable {s s' s'' : Store}

/-! ## What stays -/

/-- The runs are found under their identifiers. -/
def Store.Keyed (s : Store) : Prop := ∀ id run, s.taskRuns.lookup id = some run → run.id = id

/-- The store later: sessions and runs stay in what they belong to, runs that are over stay as they
    are, and events stay. -/
structure Later (s s' : Store) : Prop where
  sessions : ∀ id session, s.sessions.lookup id = some session →
    ∃ session', s'.sessions.lookup id = some session' ∧ session'.accountID = session.accountID
  runs : ∀ id run, s.taskRuns.lookup id = some run →
    ∃ run', s'.taskRuns.lookup id = some run' ∧ run.Same run'
  finished : ∀ id run, s.taskRuns.lookup id = some run → run.state.finished = true →
    s'.taskRuns.lookup id = some run
  events : ∀ id, s.sessionEvents id <+: s'.sessionEvents id

theorem Later.refl (s : Store) : Later s s :=
  ⟨fun _ session h => ⟨session, h, rfl⟩, fun _ run h => ⟨run, h, rfl, rfl, rfl, rfl⟩,
    fun _ _ h _ => h, fun _ => prefix_rfl⟩

theorem TaskRun.Same.trans {a b c : TaskRun} (h : a.Same b) (h' : b.Same c) : a.Same c :=
  ⟨h'.id.trans h.id, h'.accountID.trans h.accountID, h'.namespaceID.trans h.namespaceID,
    h'.sessionID.trans h.sessionID⟩

theorem Later.trans (h : Later s s') (h' : Later s' s'') : Later s s'' := by
  refine ⟨fun id session hlookup => ?_, fun id run hlookup => ?_, fun id run hlookup hover => ?_,
    fun id => ?_⟩
  · obtain ⟨session', hlookup', haccount⟩ := h.sessions id session hlookup
    obtain ⟨session'', hlookup'', haccount'⟩ := h'.sessions id session' hlookup'
    exact ⟨session'', hlookup'', haccount'.trans haccount⟩
  · obtain ⟨run', hlookup', hsame⟩ := h.runs id run hlookup
    obtain ⟨run'', hlookup'', hsame'⟩ := h'.runs id run' hlookup'
    exact ⟨run'', hlookup'', hsame.trans hsame'⟩
  · exact h'.finished id run (h.finished id run hlookup hover) hover
  · exact (h.events id).trans (h'.events id)

theorem Runs.keyed (h : Runs s s') (hs : s.Keyed) : s'.Keyed := by
  intro id run' hlookup
  cases h with
  | same runs =>
    rw [runs] at hlookup
    exact hs id run' hlookup
  | added run fresh runs | written id' old run found unfinished same runs =>
    rw [runs] at hlookup
    exact forall_insert hs rfl hlookup

/-- A run that is over is not written. -/
theorem Runs.later (h : Runs s s') (hs : s.Keyed) {id : String} {run : TaskRun}
    (hrun : s.taskRuns.lookup id = some run) :
    ∃ run', s'.taskRuns.lookup id = some run' ∧ run.Same run' ∧
      (run.state.finished = true → run' = run) := by
  cases h with
  | same runs => exact ⟨run, by rw [runs, hrun], ⟨rfl, rfl, rfl, rfl⟩, fun _ => rfl⟩
  | added _ fresh runs =>
    exact ⟨run, runs ▸ lookup_insert_of_new fresh hrun, ⟨rfl, rfl, rfl, rfl⟩, fun _ => rfl⟩
  | written id' old new found unfinished same runs =>
    by_cases hid : id = new.id
    · -- The run that is written is this one.
      rw [hid, same.id, hs id' old found, found] at hrun
      cases hrun
      refine ⟨new, by rw [runs, hid, lookup_insert], same, fun hover => ?_⟩
      rw [unfinished] at hover
      cases hover
    · exact ⟨run, by rw [runs, lookup_insert_ne hid, hrun], ⟨rfl, rfl, rfl, rfl⟩, fun _ => rfl⟩

theorem Logs.later (h : Logs s s') (hs : s.Sequenced) {id : String} {session : Session}
    (hsession : s.sessions.lookup id = some session) :
    ∃ session', s'.sessions.lookup id = some session' ∧ session'.accountID = session.accountID := by
  cases h with
  | same sessions => exact ⟨session, by rw [sessions, hsession], rfl⟩
  | opened _ fresh _ _ sessions =>
    exact ⟨session, sessions ▸ lookup_insert_of_new fresh hsession, rfl⟩
  | appended id' old _ session' found _ same _ _ sessions =>
    by_cases hid : id = old.id
    · rw [hid, hs.keyed id' old found, found] at hsession
      cases hsession
      exact ⟨session', by rw [sessions, hid, lookup_insert], same.2.1⟩
    · exact ⟨session, by rw [sessions, lookup_insert_ne hid, hsession], rfl⟩

theorem Logs.events_le (h : Logs s s') (id : String) :
    s.sessionEvents id <+: s'.sessionEvents id := by
  cases h with
  | same _ events | opened _ _ _ _ _ events => exact sessionEvents_congr events id ▸ prefix_rfl
  | appended _ _ _ _ _ _ _ _ _ _ events =>
    rw [sessionEvents_append events]
    split_ifs with hid
    · rw [hid]
      exact prefix_append _ _
    · exact prefix_rfl

/-- The sessions and the runs are found under their identifiers, and the events are numbered. -/
structure Store.Sound (s : Store) : Prop where
  sequenced : s.Sequenced
  keyed : s.Keyed

theorem sound_init : Store.init.Sound := ⟨sequenced_init, fun _ _ h => by cases h⟩

variable {a : Action}

section

variable [Unicode] [Wire]

theorem Store.Sound.step (hs : s.Sound) (a : Action) : (s.step a).Sound ∧ Later s (s.step a) := by
  rw [Store.step]
  split
  · next s' hcall =>
    have heffect := effect_of_call hcall
    refine ⟨⟨heffect.logs.sequenced hs.sequenced, heffect.runs.keyed hs.keyed⟩,
      fun _ _ => heffect.logs.later hs.sequenced, fun id run hrun => ?_,
      fun id run hrun hover => ?_, heffect.logs.events_le⟩
    · obtain ⟨run', hrun', hsame, -⟩ := heffect.runs.later hs.keyed hrun
      exact ⟨run', hrun', hsame⟩
    · obtain ⟨run', hrun', -, heq⟩ := heffect.runs.later hs.keyed hrun
      exact heq hover ▸ hrun'
  · exact ⟨hs, .refl s⟩

/-- What stays, stays in every run. -/
theorem Store.Sound.exec (hs : s.Sound) (as : List Action) :
    (exec Store.step s as).Sound ∧ Later s (exec Store.step s as) :=
  exec_induction (P := fun s' => s'.Sound ∧ Later s s')
    (fun _ a h => ⟨(h.1.step a).1, h.2.trans (h.1.step a).2⟩) ⟨hs, .refl s⟩ as

end

/-! ## The index of the requests -/

/-- An event with a request, which is kept trimmed, is found by it. -/
structure Store.Indexed (s : Store) : Prop where
  session : ∀ id, ∀ event ∈ s.sessionEvents id, event.sessionID = id
  trimmed : ∀ id, ∀ event ∈ s.sessionEvents id,
    trimSpace event.clientRequestID = event.clientRequestID
  found : ∀ id, ∀ event ∈ s.sessionEvents id, event.clientRequestID ≠ "" →
    s.eventByRequest.lookup (requestKey id event.clientRequestID) = some event

theorem indexed_init : Store.init.Indexed := by
  constructor <;> intro id event hmem <;> cases hmem

/-- A call whose request is trimmed keeps the index. -/
theorem Indexes.indexed (h : Indexes s a s') (hs : s.Indexed) (ha : a.Trimmed) : s'.Indexed := by
  cases h with
  | same events index =>
    have hsame := sessionEvents_congr events
    refine ⟨fun id => ?_, fun id => ?_, fun id => ?_⟩
    · exact hsame id ▸ hs.session id
    · exact hsame id ▸ hs.trimmed id
    · rw [hsame, index]
      exact hs.found id
  | appended event silent trimmed quiet fresh events index =>
    have hmem : ∀ id other, other ∈ s'.sessionEvents id → other ∈ s.sessionEvents id ∨
        (id = event.sessionID ∧ (other = event ∨ other ∈ silent)) := by
      intro _ _ hother
      rw [sessionEvents_append events] at hother
      split_ifs at hother with hid
      · rw [hid]
        rcases mem_append.1 hother with hold | hnew
        · exact .inl hold
        · exact .inr ⟨rfl, mem_cons.1 hnew⟩
      · exact .inl hother
    refine ⟨fun id other hother => ?_, fun id other hother => ?_, fun id other hother hne => ?_⟩
    · rcases hmem id other hother with hold | ⟨rfl, rfl | hnew⟩
      · exact hs.session id other hold
      · rfl
      · exact (quiet other hnew).2
    · rcases hmem id other hother with hold | ⟨-, rfl | hnew⟩
      · exact hs.trimmed id other hold
      · exact trimmed
      · rw [(quiet other hnew).1]
        rfl
    · rw [index]
      rcases hmem id other hother with hold | ⟨rfl, rfl | hnew⟩
      · split_ifs with hempty
        · exact hs.found id other hold hne
        -- The new request is not one that is found, whatever its session.
        have hother := hs.found id other hold hne
        rw [lookup_insert_ne, hother]
        intro hkey
        rw [hkey, fresh ha hempty] at hother
        cases hother
      · rw [if_neg hne, lookup_insert]
      · exact absurd (quiet other hnew).1 hne

section

variable [Unicode] [Wire] {input : CancelRunInput} {session : Session} {e : Event} {run : TaskRun}

/-! ## Repeated calls -/

/-- The store after a call, and the event it answers with if it has a request. -/
def Action.answer (s : Store) : Action → Except TaskError (Store × Option Event)
  | .createNamespace input => (Memory.createNamespace s input).map fun r => (r.1, none)
  | .ensurePersonalNamespace env accountID =>
    (Memory.ensurePersonalNamespace env s accountID).map fun r => (r.1, none)
  | .createSession env input => (Memory.createSession env s input).map fun r => (r.1, none)
  | .appendEvent env input => (Memory.appendEvent env s input).map fun r => (r.1, some r.2)
  | .appendMessage env input =>
    (Memory.appendMessage env s input).map fun r => (r.1, some r.2.message)
  | .enqueueTaskRun env input => (Memory.enqueueTaskRun env s input).map fun r => (r.1, none)
  | .claimNext env input rank => (Memory.claimNext env s input rank).map fun r => (r.1, none)
  | .renewLease env input => (Memory.renewLease env s input).map fun r => (r.1, none)
  | .recordTaskRunEvent env input =>
    (Memory.recordTaskRunEvent env s input).map fun r => (r.1, some r.2.event)
  | .requestCancel env input =>
    (Memory.requestCancel env s input).map fun r => (r.1, some r.2.event)

/-- A call is answered with an event that it appends. -/
structure Creates (s : Store) (a : Action) (e : Event) : Prop where
  answered : ∃ s', a.answer s = .ok (s', some e)
  fresh : e ∉ s.sessionEvents e.sessionID
  kept : e ∈ (s.step a).sessionEvents e.sessionID

/-- A call made again: with the same input, up to white space around its request. -/
inductive Repeats : Action → Action → Prop
  | appendEvent (env env' : Env) (input : AppendEventInput) (request : String)
      (same : trimSpace request = trimSpace input.clientRequestID) :
      Repeats (.appendEvent env input) (.appendEvent env' { input with clientRequestID := request })
  | appendMessage (env env' : Env) (input : AppendMessageInput) (request : String)
      (same : trimSpace request = trimSpace input.clientRequestID) :
      Repeats (.appendMessage env input)
        (.appendMessage env' { input with clientRequestID := request })
  | recordTaskRunEvent (env env' : Env) (input : TaskRunEventInput) (request : String)
      (same : trimSpace request = trimSpace input.clientRequestID) :
      Repeats (.recordTaskRunEvent env input)
        (.recordTaskRunEvent env' { input with clientRequestID := request })
  | requestCancel (env env' : Env) (input : CancelRunInput) (request : String)
      (same : trimSpace request = trimSpace input.clientRequestID) :
      Repeats (.requestCancel env input)
        (.requestCancel env' { input with clientRequestID := request })

/-- A report comes with the lease of its run. -/
def Action.Leased (s : Store) : Action → Prop
  | .recordTaskRunEvent env input =>
    ∃ run, s.taskRuns.lookup (input.normalized env).taskRunID = some run ∧
      run.holds (input.normalized env).fence (input.normalized env).leaseToken
        (input.normalized env).createdAt = true
  | _ => True

/-- What a call that is made again needs to be answered with an event. -/
inductive Replays (s : Store) (e : Event) : Action → Prop
  | appendEvent {env : Env} {input : AppendEventInput} (session : Session)
      (found : s.sessions.lookup input.sessionID = some session)
      (account : session.accountID = input.accountID)
      (kept : e ∈ s.sessionEvents input.sessionID)
      (request : e.clientRequestID = trimSpace input.clientRequestID) :
      Replays s e (.appendEvent env input)
  | appendMessage {env : Env} {input : AppendMessageInput} (session : Session) (run : TaskRun)
      (queued : Event) (accepted : (input.normalized env).Accepted s session)
      (kept : e ∈ s.sessionEvents (input.normalized env).sessionID)
      (request : e.clientRequestID = trimSpace input.clientRequestID)
      (run_found : s.taskRuns.lookup e.taskRunID = some run)
      (queued_kept : queued ∈ s.sessionEvents (input.normalized env).sessionID)
      (next : queued.seq = e.seq + 1) (type : queued.type = eventRunQueued) :
      Replays s e (.appendMessage env input)
  | recordTaskRunEvent {env : Env} {input : TaskRunEventInput} (run : TaskRun) (session : Session)
      (accepted : ReportAccepted s (input.normalized env) run session)
      (kept : e ∈ s.sessionEvents run.sessionID)
      (request : e.clientRequestID = trimSpace input.clientRequestID) :
      Replays s e (.recordTaskRunEvent env input)
  | requestCancel {env : Env} {input : CancelRunInput} (normal : CancelRunInput)
      (session : Session) (run : TaskRun) (input_ok : normalizeCancel env input = .ok normal)
      (accepted : CancelAccepted s normal session run) (named : names e run.id = true)
      (kept : e ∈ s.sessionEvents normal.sessionID)
      (request : e.clientRequestID = trimSpace input.clientRequestID) :
      Replays s e (.requestCancel env input)

omit [Unicode] [Wire] in
theorem CancelAccepted.later (h : CancelAccepted s input session run) (hlater : Later s s') :
    ∃ session' run', CancelAccepted s' input session' run' ∧ run'.id = run.id := by
  obtain ⟨session', hfound, haccount⟩ := hlater.sessions _ _ h.found
  obtain ⟨run', hrun, hsame⟩ := hlater.runs _ _ h.run_found
  exact ⟨session', run', ⟨hfound, haccount.trans h.account, hrun,
    hsame.accountID.trans h.run_account, hsame.sessionID.trans h.run_session⟩, hsame.id⟩

omit [Unicode] [Wire] in
/-- What is needed stays. -/
theorem Replays.later (h : Replays s e a) (hlater : Later s s') : Replays s' e a := by
  cases h with
  | appendEvent _ found account kept request =>
    obtain ⟨session', hfound, haccount⟩ := hlater.sessions _ _ found
    exact .appendEvent session' hfound (haccount.trans account) ((hlater.events _).subset kept)
      request
  | appendMessage _ _ queued accepted kept request run_found queued_kept next type =>
    obtain ⟨session', hfound, haccount⟩ := hlater.sessions _ _ accepted.found
    obtain ⟨run', hrun, -⟩ := hlater.runs _ _ run_found
    exact .appendMessage session' run' queued
      ⟨accepted.named, accepted.routed, hfound, haccount.trans accepted.account⟩
      ((hlater.events _).subset kept) request hrun ((hlater.events _).subset queued_kept) next type
  | recordTaskRunEvent _ _ accepted kept request =>
    obtain ⟨run', hrun, hsame⟩ := hlater.runs _ _ accepted.run_found
    obtain ⟨session', hfound, -⟩ := hlater.sessions _ _ accepted.found
    rw [← hsame.sessionID] at hfound kept
    exact .recordTaskRunEvent run' session'
      ⟨accepted.named, hrun, hsame.accountID.trans accepted.account, hfound⟩
      ((hlater.events _).subset kept) request
  | requestCancel normal _ _ input_ok accepted named kept request =>
    obtain ⟨session', run', haccepted, hid⟩ := accepted.later hlater
    exact .requestCancel normal session' run' input_ok haccepted (hid ▸ named)
      ((hlater.events _).subset kept) request

theorem call_eq_answer (a : Action) : a.call s = (a.answer s).map (·.1) := by
  have hmap {α β : Type} (f : Store × α → β) (x : Except TaskError (Store × α)) :
      x.map (·.1) = (x.map fun r => (r.1, f r)).map (·.1) := by
    cases x <;> rfl
  cases a <;> rw [Action.call, Action.answer] <;> exact hmap _ _

theorem step_of_answer {x : Option Event} (h : a.answer s = .ok (s', x)) : s.step a = s' := by
  rw [Store.step, call_eq_answer, h]
  rfl

/-- A call that creates an event leaves what is needed to answer with it again. -/
theorem replays_of_creates (hs : s.Sound) (h : Creates s a e) : Replays (s.step a) e a := by
  obtain ⟨⟨_, hanswer⟩, hfresh, hkept⟩ := h
  have hlater := (hs.step a).2
  rw [step_of_answer hanswer] at hkept hlater ⊢
  -- The calls without a request answer with no event.
  cases a <;> obtain ⟨r, hr, heq⟩ := map_eq_ok.1 hanswer <;> cases heq
  case appendEvent input =>
    obtain ⟨session, hsession, haccount, ⟨-, -, hsame⟩ | ⟨-, hevent, -⟩⟩ := appendEvent_ok hr
    · exact absurd (hsame ▸ hkept) hfresh
    obtain ⟨session', hsession', haccount'⟩ := hlater.sessions _ _ hsession
    have hid : r.2.sessionID = input.sessionID := by rw [hevent]; rfl
    exact .appendEvent session' hsession' (haccount'.trans haccount) (hid ▸ hkept)
      (by rw [hevent]; rfl)
  case appendMessage env input =>
    obtain ⟨session, haccepted, ⟨-, hsame⟩ | ⟨-, -, hmessage, _, _, hstore⟩⟩ :=
      appendMessage_ok hr
    · exact absurd (hsame ▸ hkept) hfresh
    obtain ⟨session', hsession', haccount'⟩ := hlater.sessions _ _ haccepted.found
    rw [hmessage] at hkept ⊢
    rw [hstore] at hkept hsession' ⊢
    -- The run of the message and the event of the run are there.
    refine .appendMessage session' ((input.normalized env).run session)
      ((input.normalized env).queuedEvent session)
      ⟨haccepted.named, haccepted.routed, hsession', haccount'.trans haccepted.account⟩
      hkept rfl (lookup_insert _) ?_ (add_assoc session.lastEventSeq 1 1).symm rfl
    rw [sessionEvents_append (s := s) rfl]
    simp
  case recordTaskRunEvent =>
    obtain ⟨run, session, haccepted, -, ⟨-, hsame⟩ | ⟨-, -, _, -, hrecorded⟩⟩ :=
      recordTaskRunEvent_ok hr
    · exact absurd (hsame ▸ hkept) hfresh
    obtain ⟨run', hrun, hsame⟩ := hlater.runs _ _ haccepted.run_found
    obtain ⟨session', hfound, -⟩ := hlater.sessions _ _ haccepted.found
    have hid : r.2.event.sessionID = run'.sessionID := by
      rw [hsame.sessionID, hrecorded]
      rfl
    rw [← hsame.sessionID] at hfound
    exact .recordTaskRunEvent run' session'
      ⟨haccepted.named, hrun, hsame.accountID.trans haccepted.account, hfound⟩ (hid ▸ hkept)
      (by rw [hrecorded]; rfl)
  case requestCancel env input =>
    obtain ⟨normal, session, run, hinput, haccepted, hcancels⟩ := requestCancel_ok hr
    obtain ⟨session', run', haccepted', hid⟩ := haccepted.later hlater
    have hreplays (event : Event) (hevent : r.2.event = event)
        (hsession : event.sessionID = run.sessionID)
        (hrequest : event.clientRequestID = normal.clientRequestID)
        (hnames : names event run.id = true) :
        Replays r.1 r.2.event (.requestCancel env input) := by
      rw [hevent] at hkept ⊢
      rw [hsession, haccepted.run_session] at hkept
      exact .requestCancel normal session' run' hinput haccepted' (hid ▸ hnames) hkept
        (hrequest.trans (normalizeCancel_request hinput))
    cases hcancels with
    | repeated _ _ same | requested _ _ same => exact absurd (same ▸ hkept) hfresh
    | queued _ _ recorded | running _ _ recorded =>
      refine hreplays _ (congrArg (·.2.event) recorded) rfl rfl ?_
      exact beq_self_eq_true run.id

omit [Unicode] [Wire] in
theorem named_congr {a b c c' d : String} (hsame : c' = c)
    (h : ¬ (a = "" ∨ b = "" ∨ c = "" ∨ d = "")) : ¬ (a = "" ∨ b = "" ∨ c' = "" ∨ d = "") :=
  hsame ▸ h

/-- A call that is made again is answered with its event, and changes nothing. -/
theorem Replays.answer {a' : Action} (h : Replays s e a) (hindexed : s.Indexed)
    (hne : e.clientRequestID ≠ "") (hrepeats : Repeats a a') (htrimmed : a'.Trimmed)
    (hleased : a'.Leased s) : a'.answer s = .ok (s, some e) := by
  cases hrepeats with
  | appendEvent _ _ _ request same =>
    cases h with
    | appendEvent _ found account kept hrequest =>
      have hfound := hindexed.found _ e kept hne
      have htrim : trimSpace request = request := htrimmed
      rw [hrequest, ← same, htrim] at hfound
      rw [hrequest, ← same, htrim] at hne
      simp [Action.answer, Memory.appendEvent, found, account, hne, hfound, Except.map]
  | appendMessage _ env' input request same =>
    cases h with
    | appendMessage session run queued accepted kept hrequest run_found queued_kept next type =>
      have hkept := hindexed.found _ e kept hne
      rw [hrequest, ← same] at hkept
      have haccepted : ({ input with clientRequestID := request }.normalized env').Accepted s
          session := by
        refine ⟨?_, accepted.routed, accepted.found, accepted.account⟩
        exact named_congr same accepted.named
      have hfound : s.eventByRequest.lookup (requestKey
          ({ input with clientRequestID := request }.normalized env').sessionID
          ({ input with clientRequestID := request }.normalized env').clientRequestID) = _ := hkept
      obtain ⟨_, hrouting⟩ := haccepted.routed
      rw [Action.answer, Memory.appendMessage]
      rw [if_neg haccepted.named, hrouting, haccepted.found]
      have haccount := haccepted.account
      dsimp only at haccount ⊢
      rw [if_neg (not_not.2 haccount), hfound]
      dsimp only
      rw [replayMessage, run_found]
      dsimp only
      -- The run of the message and the event of its run are there.
      split
      · next hfind => simpa [next, type] using find?_eq_none.1 hfind queued queued_kept
      · rfl
  | recordTaskRunEvent _ env' input request same =>
    cases h with
    | recordTaskRunEvent run session accepted kept hrequest =>
      have hfound := hindexed.found _ e kept hne
      rw [hrequest, ← same] at hfound
      obtain ⟨_, hrun, hholds⟩ := hleased
      cases hrun.symm.trans accepted.run_found
      have haccepted : ReportAccepted s ({ input with clientRequestID := request }.normalized env')
          run session := by
        refine ⟨?_, accepted.run_found, accepted.account, accepted.found⟩
        exact named_congr same accepted.named
      rw [Action.answer, recordTaskRunEvent_of_found haccepted hholds hfound]
      rfl
  | requestCancel _ env' input request same =>
    cases h with
    | requestCancel normal _ _ input_ok accepted named kept hrequest =>
      have hfound := hindexed.found _ e kept hne
      rw [hrequest, ← normalizeCancel_request input_ok] at hfound
      -- The request that is made again is read in the same way.
      have hinput : normalizeCancel env' { input with clientRequestID := request } = .ok
          { normal with createdAt := if input.createdAt.isZero then env'.now else input.createdAt } := by
        simp only [normalizeCancel, guard_ok] at input_ok ⊢
        rw [← ok.inj input_ok.2]
        rw [same]
        exact ⟨input_ok.1, rfl⟩
      simp [Action.answer, Memory.requestCancel, hinput, accepted.found, accepted.account,
        accepted.run_found, accepted.run_account, accepted.run_session, hfound, named, Except.map]

theorem indexed_step (hs : s.Indexed) (ha : a.Trimmed) : (s.step a).Indexed := by
  rw [Store.step]
  split
  · next hcall => exact (effect_of_call hcall).index.indexed hs ha
  · exact hs

omit [Unicode] [Wire] in
/-- Numbered events are distinct. -/
theorem Store.Sequenced.nodup (hs : s.Sequenced) (id : String) : (s.sessionEvents id).Nodup := by
  cases hsession : s.sessions.lookup id with
  | none =>
    rw [hs.silent id hsession]
    exact nodup_nil
  | some session =>
    refine List.Nodup.of_map (fun event => event.seq) ?_
    rw [(hs.counted id session hsession).numbered]
    refine List.nodup_range.map fun i j hij => ?_
    omega

omit [Unicode] [Wire] in
/-- There is at most one event for a request in a session. -/
theorem Store.Indexed.length_le_one (hs : s.Indexed) (hseq : s.Sequenced) (id : String)
    {request : String} (hne : request ≠ "") :
    ((s.sessionEvents id).filter fun e =>
      trimSpace e.clientRequestID = request).length ≤ 1 := by
  have hall : ∀ e ∈ (s.sessionEvents id).filter fun e => trimSpace e.clientRequestID = request,
      s.eventByRequest.lookup (requestKey id request) = some e := by
    intro e he
    obtain ⟨hmem, hrequest⟩ := mem_filter.1 he
    rw [decide_eq_true_eq, hs.trimmed id e hmem] at hrequest
    rw [← hrequest]
    exact hs.found id e hmem (hrequest ▸ hne)
  have hnodup := (hseq.nodup id).filter fun e => trimSpace e.clientRequestID = request
  -- Two of them are both the event that is found.
  generalize (s.sessionEvents id).filter _ = events at hall hnodup ⊢
  match events, hall, hnodup with
  | [], _, _ => exact Nat.zero_le 1
  | [_], _, _ => exact le_refl 1
  | e :: e' :: rest, hall, hnodup =>
    have heq := (hall e (by simp)).symm.trans (hall e' (by simp))
    cases heq
    simp at hnodup

/-- A report that is answered has the lease. -/
theorem leased_of_answer {r : Store × Option Event} (h : a.answer s = .ok r) : a.Leased s := by
  cases a with
  | recordTaskRunEvent =>
    obtain ⟨r, hr, -⟩ := map_eq_ok.1 h
    obtain ⟨run, _, haccepted, hholds, -⟩ := recordTaskRunEvent_ok hr
    exact ⟨run, haccepted.run_found, hholds⟩
  | _ => exact trivial

/-- If no identifier of an `appendEvent` has white space around it, there is at most one event for
    a request in every session, and a call that is made again changes nothing. It is answered with
    the event it created, if it is not a report whose lease was lost. -/
theorem requests_answered_once (as : List Action)
    (hg : Run.Guarded Store.step (fun _ a => a.Trimmed) Store.init as) :
    (∀ id request, request ≠ "" → (((exec Store.step Store.init as).sessionEvents id).filter
        fun e => trimSpace e.clientRequestID = request).length ≤ 1) ∧
    ∀ before a after a' e, as = before ++ a :: after →
      Creates (exec Store.step Store.init before) a e → e.clientRequestID ≠ "" →
      Repeats a a' → a'.Trimmed →
        (exec Store.step Store.init as).step a' = exec Store.step Store.init as ∧
        (a'.Leased (exec Store.step Store.init as) → a'.answer (exec Store.step Store.init as) =
            .ok (exec Store.step Store.init as, some e)) := by
  have hsound := (sound_init.exec as).1
  have hindexed := hg.exec_induction (P := Store.Indexed) (fun _ _ ha hs => indexed_step hs ha)
    indexed_init
  refine ⟨fun id request hne => hindexed.length_le_one hsound.sequenced id hne, ?_⟩
  intro before a after a' e has hcreates hne hrepeats htrimmed
  have hreplays : Replays (exec Store.step Store.init as) e a := by
    have hbefore := (sound_init.exec before).1
    rw [has, exec_append]
    exact (replays_of_creates hbefore hcreates).later ((hbefore.step a).1.exec after).2
  have hanswer := hreplays.answer hindexed hne hrepeats htrimmed
  refine ⟨?_, hanswer⟩
  cases hr : a'.answer (exec Store.step Store.init as) with
  | error =>
    rw [Store.step, call_eq_answer, hr]
    rfl
  | ok => exact step_of_answer (hanswer (leased_of_answer hr))

end

namespace Sample

local instance : Unicode := Unicode.ascii
local instance : Wire := ⟨fun _ => "", List.length, List.length⟩

/-- A note in the session, with a request. -/
def note (request : String) : AppendEventInput where
  accountID := "acc"
  sessionID := "ss"
  clientRequestID := request
  type := "note"

/-- A note that is sent again with blanks around its request is appended twice. -/
theorem padded_request_appends_twice :
    Repeats (.appendEvent (.sample 1) (note "c")) (.appendEvent (.sample 2) (note " c ")) ∧
      (((exec Store.step Store.init (opened ++ [.appendEvent (.sample 1) (note "c"),
        .appendEvent (.sample 2) (note " c ")])).sessionEvents "ss").filter
          fun e => trimSpace e.clientRequestID = "c").map (·.seq) = [1, 2] := by
  refine ⟨.appendEvent _ _ (note "c") " c " ?_, ?_⟩
  · decide +kernel
  · decide +kernel

/-- A message in the session. -/
def message (request : String) : AppendMessageInput where
  accountID := "acc"
  sessionID := "ss"
  clientRequestID := request
  text := "hello"
  taskRunID := "r"

/-- The event of the message. -/
def messageWritten : Event where
  sessionID := "ss"
  seq := 1
  type := eventMessageCreated
  payload := messageEventPayload "hello" "r"
  clientRequestID := "m"
  createdAt := 1

/-- A message that is sent again with blanks around its request is answered with the first one. -/
theorem requests_answered_once_message : (Action.appendMessage (.sample 5) (message " m ")).answer
        (exec Store.step Store.init (opened ++ [.appendMessage (.sample 1) (message "m")])) =
      .ok (exec Store.step Store.init (opened ++ [.appendMessage (.sample 1) (message "m")]),
        some messageWritten) := by
  have hg : Run.Guarded Store.step (fun _ a => a.Trimmed) Store.init
      (opened ++ [.appendMessage (.sample 1) (message "m")]) := by
    simp [opened, Run.Guarded, Action.Trimmed]
  refine ((requests_answered_once _ hg).2 opened (.appendMessage (.sample 1) (message "m")) []
    (.appendMessage (.sample 5) (message " m ")) messageWritten rfl ⟨?_, ?_, ?_⟩ ?_
    (.appendMessage _ _ (message "m") " m " ?_) trivial).2 trivial
  · exact ⟨_, by rfl⟩
  · have hnone : (exec Store.step Store.init opened).sessionEvents "ss" = [] := by rfl
    exact hnone ▸ not_mem_nil
  · have hsome : ((exec Store.step Store.init opened).step
        (.appendMessage (.sample 1) (message "m"))).sessionEvents "ss" =
        [messageWritten, ((message "m").normalized (.sample 1)).queuedEvent
          { id := "ss", accountID := "acc", namespaceID := "ns", updatedAt := 1 }] := by rfl
    exact hsome ▸ mem_cons_self
  · decide +kernel
  · decide +kernel

end Sample

end Accounts.Tasks.Memory

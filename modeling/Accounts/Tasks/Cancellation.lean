import Accounts.Tasks.Lease
import Accounts.Tasks.Requests

/-!
# Requests to cancel

A user cancels a run: one that waits is cancelled at once, and for a running one an event is kept,
which its worker is told of when it renews the lease. Both stores look for the event when a lease
is renewed, not at the run, so that another worker who claims the run later is told, too.

Both first look for an event of the request, since a client may repeat it, and answer with the one
they find if it is about the run. They do not ask what kind of event it is. So a request whose
identifier was used before, for the message that queued the run or for a report of the worker, is
answered with that event, and nothing is cancelled (`cancel_is_not_recorded`).

If the event found is itself a request to cancel, and none is found for a run that waits
(`Store.Unshared`), then a run that is cancelled while it waits is never claimed, and every renewal
after a request to cancel a running one tells of it (`cancellation_heeded`).
-/

namespace Accounts.Tasks

open Text AList List Run

/-! ## The tables -/

variable {input : CancelRunInput}

section

variable {s s' : Store}

/-- There is a request to cancel a run of a session. -/
def Store.CancelRequested (s : Store) (sessionID taskRunID : String) : Prop :=
  ∃ e ∈ s.events, e.sessionID = sessionID ∧ e.type = eventRunCancelRequested ∧
    e.taskRunID = taskRunID

theorem isSome_findCancelRequest {run : TaskRun} :
    (s.findCancelRequest run).isSome = true ↔ s.CancelRequested run.sessionID run.id := by
  rw [Store.findCancelRequest, isSome_head?, ne_eq, ← length_eq_zero_iff,
    length_insertionSort, length_eq_zero_iff, filter_eq_nil_iff]
  simp only [Bool.and_eq_true, beq_iff_eq, not_forall, not_not, exists_prop, and_assoc]
  rfl

/-- The tables later: runs stay in their sessions, and events stay. -/
structure Store.Later (s s' : Store) : Prop where
  runs : ∀ id run, s.runs.lookup id = some run →
    ∃ run', s'.runs.lookup id = some run' ∧ run'.id = run.id ∧ run'.sessionID = run.sessionID
  events : s.events ⊆ s'.events

theorem Store.Later.refl (s : Store) : s.Later s :=
  ⟨fun _ run h => ⟨run, h, rfl, rfl⟩, fun _ h => h⟩

theorem Store.Later.trans {s'' : Store} (h : s.Later s') (h' : s'.Later s'') : s.Later s'' := by
  refine ⟨fun id run hrun => ?_, fun e he => h'.events (h.events he)⟩
  obtain ⟨run', hrun', hid, hsession⟩ := h.runs id run hrun
  obtain ⟨run'', hrun'', hid', hsession'⟩ := h'.runs id run' hrun'
  exact ⟨run'', hrun'', hid'.trans hid, hsession'.trans hsession⟩

theorem Store.Later.cancelRequested (h : s.Later s') {sessionID taskRunID : String}
    (hrequested : s.CancelRequested sessionID taskRunID) :
    s'.CancelRequested sessionID taskRunID := by
  obtain ⟨e, hmem, he⟩ := hrequested
  exact ⟨e, h.events hmem, he⟩

variable {id : String}

theorem Write.later [Sha256] {g : Option Grant} (h : Write s g s') (hs : s.Keyed) : s.Later s' := by
  rcases h with ⟨-, rfl⟩ | ⟨run, h⟩
  · exact .refl _
  refine ⟨fun id old hold => ?_, h.events⟩
  rw [h.runs_eq]
  by_cases hid : id = run.id
  · rw [hid] at hold ⊢
    exact ⟨run, lookup_insert _, (hs _ old hold).symm, (h.not_over old hold).2⟩
  · exact ⟨old, by rw [lookup_insert_ne hid, hold], rfl, rfl⟩

variable {r : Store × TaskRunEventResult}

section

variable [Unicode] [Wire] [Sha256]

/-- What stays, stays in every run of the system. -/
theorem System.kept {sys : System} (hs : sys.store.Keyed) (as : List Action) :
    (exec System.step sys as).store.Keyed ∧ sys.store.Later (exec System.step sys as).store ∧
      ∀ id run, sys.store.runs.lookup id = some run → run.state.finished = true →
        (exec System.step sys as).store.runs.lookup id = some run := by
  refine exec_induction (P := fun sys' : System => sys'.store.Keyed ∧
    sys.store.Later sys'.store ∧ ∀ id run, sys.store.runs.lookup id = some run →
      run.state.finished = true → sys'.store.runs.lookup id = some run) (fun sys' a h => ?_)
    ⟨hs, .refl _, fun _ _ hrun _ => hrun⟩ as
  obtain ⟨hkeyed, hlater, hover⟩ := h
  obtain ⟨g, _, hwrite, heq⟩ := step_eq hkeyed a
  rw [heq]
  exact ⟨hwrite.keyed hkeyed, hlater.trans (hwrite.later hkeyed), fun id run hrun hfinished =>
    hwrite.lookup_of_finished (hover id run hrun hfinished) hfinished⟩

end

/-- The event found for a request to cancel a run is a request to cancel, and none is found for a
    run that waits. -/
def Store.Unshared (s : Store) (input : CancelRunInput) (run : TaskRun) : Prop :=
  ∀ e, s.findEventByRequest (trimSpace input.sessionID)
      (trimSpace input.clientRequestID) = some e → e.taskRunID = run.id →
    run.state ≠ .queued ∧ (run.state = .running → e.type = eventRunCancelRequested)

section

variable [Unicode] [Wire] [Sha256]

/-- The run waited and is not claimed, or it was running and every renewal of its lease tells of
    the request to cancel it. -/
structure Store.Heeds (s : Store) (run : TaskRun) : Prop where
  queued : run.state = .queued → ∀ env input locked r,
    claimNext env s input locked = .ok r → r.2.run.id ≠ run.id
  running : run.state = .running → ∀ env input r,
    renewLease env s input = .ok r → r.2.taskRun.id = run.id → r.2.cancelRequested = true

variable {run : TaskRun} {env : Env}

omit [Sha256] in
/-- What a request to cancel leaves: a run that is over, or an event. -/
theorem requestCancel_leaves (h : requestCancel env s input = .ok r)
    (hrun : s.runs.lookup (trimSpace input.taskRunID) = some run)
    (hunshared : s.Unshared input run) :
    (run.state = .queued → ∃ run', r.1.runs.lookup run.id = some run' ∧
      run'.state.finished = true) ∧
    (run.state = .running → r.1.CancelRequested run.sessionID run.id) := by
  obtain ⟨_, _, run', hinput, -, hrun', hsession, hcancels⟩ := requestCancel_ok h
  rw [normalizeCancel_ok hinput] at hrun' hsession
  cases hrun.symm.trans hrun'
  cases hcancels with
  | repeated found named same =>
    rw [normalizeCancel_ok hinput] at found
    obtain ⟨hqueued, hrunning⟩ := hunshared _ found named
    have hevent := find?_some found
    rw [Bool.and_eq_true, beq_iff_eq] at hevent
    refine ⟨fun hstate => absurd hstate hqueued, fun hstate => ?_⟩
    rw [same]
    exact ⟨_, mem_of_find?_eq_some found, hevent.1.trans hsession.symm, hrunning hstate, named⟩
  | queued state recorded =>
    rw [recordRun_ok recorded]
    refine ⟨fun _ => ⟨_, lookup_insert _, rfl⟩, fun hstate => ?_⟩
    cases state.symm.trans hstate
  | requested state found same =>
    refine ⟨fun hstate => ?_, fun _ => ?_⟩
    · cases state.symm.trans hstate
    · rw [same]
      exact isSome_findCancelRequest.1 (by rw [found]; rfl)
  | running state recorded =>
    rw [recordRun_ok recorded]
    refine ⟨fun hstate => ?_, fun _ => ?_⟩
    · cases state.symm.trans hstate
    · exact ⟨_, mem_append_right _ (mem_singleton_self _), rfl, rfl, rfl⟩

/-- A run that is over is not claimed. -/
theorem ne_of_claimNext (hs : s.Keyed) (hrun : s.runs.lookup id = some run)
    (hover : run.state.finished = true) {input : ClaimInput} {locked : List String}
    {r : Store × Claim} (h : claimNext env s input locked = .ok r) : r.2.run.id ≠ id := by
  obtain ⟨claimed, _, -, hnext, -, -, hclaim⟩ := claimNext_ok h
  obtain ⟨hmem, hclaimable⟩ := nextRun_ok hnext
  obtain ⟨id', hlookup⟩ := Table.mem_rows_iff.1 hmem
  rw [hclaim]
  rintro rfl
  have hid : claimed.id = id' := hs id' claimed hlookup
  rw [← hid] at hlookup
  cases hlookup.symm.trans hrun
  rw [not_finished_of_claimable hclaimable] at hover
  cases hover

omit [Unicode] [Wire] in
/-- A renewal tells of a request to cancel its run. -/
theorem cancelRequested_of_renewLease (hs : s.Keyed) {input : RenewLeaseInput}
    {r : Store × RenewLeaseResult} (h : renewLease env s input = .ok r) (sessionID : String)
    (hsession : ∀ run, s.runs.lookup r.2.taskRun.id = some run → run.sessionID = sessionID)
    (hrequested : s.CancelRequested sessionID r.2.taskRun.id) : r.2.cancelRequested = true := by
  obtain ⟨run, _, -, hrun, -, -, rfl⟩ := renewLease_ok h
  have hid := hs _ run hrun
  rw [← hid] at hrun
  exact isSome_findCancelRequest.2 (hsession run hrun ▸ hrequested)

/-- A request to cancel that is not mistaken for another one is heeded from then on. -/
theorem heeds_of_requestCancel {sys : System} (hs : sys.store.Keyed)
    (h : requestCancel env sys.store input = .ok r)
    (hrun : sys.store.runs.lookup (trimSpace input.taskRunID) = some run)
    (hunshared : sys.store.Unshared input run) (after : List Action) :
    (exec System.step (sys.step (.requestCancel env input)) after).store.Heeds run := by
  have hstep : (sys.step (.requestCancel env input)).store = r.1 := by
    rw [System.step, Action.call, h]
    rfl
  obtain ⟨hqueued, hrunning⟩ := requestCancel_leaves h hrun hunshared
  have hkept := System.kept hs [.requestCancel env input]
  rw [exec_cons] at hkept
  generalize sys.step (.requestCancel env input) = sys' at hstep hkept ⊢
  obtain ⟨hkeyed, hlater, -⟩ := hkept
  obtain ⟨hkeyed', hlater', hover⟩ := System.kept hkeyed after
  rw [← hs _ run hrun] at hrun
  rw [← hstep] at hqueued hrunning
  refine ⟨fun hstate env' input' locked r' hr => ?_, fun hstate env' input' r' hr hid => ?_⟩
  · obtain ⟨run', hrun', hfinished⟩ := hqueued hstate
    exact ne_of_claimNext hkeyed' (hover run.id run' hrun' hfinished) hfinished hr
  obtain ⟨run', hrun', -, hsession⟩ := (hlater.trans hlater').runs run.id run hrun
  refine cancelRequested_of_renewLease hkeyed' hr run.sessionID (fun other hother => ?_) ?_
  · rw [hid] at hother
    cases hrun'.symm.trans hother
    exact hsession
  · rw [hid]
    exact hlater'.cancelRequested (hrunning hstate)

end

end

/-! ## The store in memory -/

namespace Memory

variable {s s' : Store}

/-- There is a request to cancel a run of a session. -/
def Store.CancelRequested (s : Store) (sessionID taskRunID : String) : Prop :=
  ∃ e ∈ s.sessionEvents sessionID, e.type = eventRunCancelRequested ∧ names e taskRunID = true

variable {run : TaskRun}

theorem isSome_findCancelRequest :
    (s.findCancelRequest run).isSome = true ↔ s.CancelRequested run.sessionID run.id := by
  rw [Store.findCancelRequest, find?_isSome]
  simp only [Bool.and_eq_true, beq_iff_eq]
  rfl

/-- The event found for a request to cancel a run is a request to cancel in its session, and none is
    found for a run that waits. -/
def Store.Unshared (s : Store) (input : CancelRunInput) (run : TaskRun) : Prop :=
  ∀ e, s.eventByRequest.lookup (requestKey (trimSpace input.sessionID)
      (trimSpace input.clientRequestID)) = some e → names e run.id = true →
    run.state ≠ .queued ∧ (run.state = .running →
      e.type = eventRunCancelRequested ∧ e ∈ s.sessionEvents run.sessionID)

/-- The run waited and is not claimed, or it was running and every renewal of its lease tells of
    the request to cancel it. -/
structure Store.Heeds (s : Store) (run : TaskRun) : Prop where
  queued : run.state = .queued → ∀ env input rank r,
    claimNext env s input rank = .ok r → r.2.id ≠ run.id
  running : run.state = .running → ∀ env input r,
    renewLease env s input = .ok r → r.2.taskRun.id = run.id → r.2.cancelRequested = true

variable {env : Env}

/-- What a request to cancel leaves: a run that is over, or an event. -/
theorem requestCancel_leaves {r : Store × TaskRunEventResult}
    (h : requestCancel env s input = .ok r)
    (hrun : s.taskRuns.lookup (trimSpace input.taskRunID) = some run)
    (hunshared : s.Unshared input run) :
    (run.state = .queued → ∃ run', r.1.taskRuns.lookup run.id = some run' ∧
      run'.state.finished = true) ∧
    (run.state = .running → r.1.CancelRequested run.sessionID run.id) := by
  obtain ⟨_, _, run', hinput, haccepted, hcancels⟩ := requestCancel_ok h
  have hrun' := haccepted.run_found
  rw [normalizeCancel_ok hinput] at hrun'
  cases hrun.symm.trans hrun'
  cases hcancels with
  | repeated found named same =>
    rw [normalizeCancel_ok hinput] at found
    obtain ⟨hqueued, hrunning⟩ := hunshared _ found named
    refine ⟨fun hstate => absurd hstate hqueued, fun hstate => ?_⟩
    rw [same]
    exact ⟨_, (hrunning hstate).2, (hrunning hstate).1, named⟩
  | queued _ state recorded =>
    rw [recorded]
    refine ⟨fun _ => ⟨_, lookup_insert _, rfl⟩, fun hstate => ?_⟩
    cases state.symm.trans hstate
  | requested state found same =>
    refine ⟨fun hstate => ?_, fun _ => ?_⟩
    · cases state.symm.trans hstate
    · rw [same]
      exact isSome_findCancelRequest.1 (by rw [found]; rfl)
  | running _ state recorded =>
    rw [recorded]
    refine ⟨fun hstate => ?_, fun _ => ?_⟩
    · cases state.symm.trans hstate
    · rw [Store.CancelRequested, sessionEvents_append (s := s) rfl, if_pos (by rfl)]
      exact ⟨_, mem_append_right _ (mem_singleton_self _), rfl, beq_self_eq_true run.id⟩

/-- A run that is over is not claimed. -/
theorem ne_of_claimNext (hs : s.Keyed) {id : String} (hrun : s.taskRuns.lookup id = some run)
    (hover : run.state.finished = true) {input : ClaimInput} {rank : String → Nat}
    {r : Store × TaskRun} (h : claimNext env s input rank = .ok r) : r.2.id ≠ id := by
  obtain ⟨claimed, -, hnext, hclaim⟩ := claimNext_ok h
  obtain ⟨⟨id', hlookup⟩, hready⟩ := nextRun_ok hnext
  rw [hclaim]
  rintro rfl
  have hid : claimed.id = id' := hs id' claimed hlookup
  rw [← hid] at hlookup
  cases hlookup.symm.trans hrun
  rw [state_of_ready hready] at hover
  cases hover

/-- A renewal tells of a request to cancel its run. -/
theorem cancelRequested_of_renewLease (hs : s.Keyed) {input : RenewLeaseInput}
    {r : Store × RenewLeaseResult} (h : renewLease env s input = .ok r) (sessionID : String)
    (hsession : ∀ run, s.taskRuns.lookup r.2.taskRun.id = some run → run.sessionID = sessionID)
    (hrequested : s.CancelRequested sessionID r.2.taskRun.id) : r.2.cancelRequested = true := by
  obtain ⟨run, _, -, hrun, -, -, rfl⟩ := renewLease_ok h
  have hid := hs _ run hrun
  rw [← hid] at hrun
  exact isSome_findCancelRequest.2 (hsession run hrun ▸ hrequested)

/-- A request to cancel that is not mistaken for another one is heeded from then on. -/
theorem heeds_of_requestCancel [Unicode] [Wire] (hs : s.Sound) {r : Store × TaskRunEventResult}
    (h : requestCancel env s input = .ok r)
    (hrun : s.taskRuns.lookup (trimSpace input.taskRunID) = some run)
    (hunshared : s.Unshared input run) (after : List Action) :
    (exec Store.step (s.step (.requestCancel env input)) after).Heeds run := by
  have hstep : s.step (.requestCancel env input) = r.1 := by
    rw [Store.step, Action.call, h]
    rfl
  obtain ⟨hqueued, hrunning⟩ := requestCancel_leaves h hrun hunshared
  have hsound := hs.step (.requestCancel env input)
  generalize s.step (.requestCancel env input) = s' at hstep hsound ⊢
  obtain ⟨hsound', hlater'⟩ := hsound.1.exec after
  rw [← hs.keyed _ run hrun] at hrun
  rw [← hstep] at hqueued hrunning
  refine ⟨fun hstate env' input' rank r' hr => ?_, fun hstate env' input' r' hr hid => ?_⟩
  · obtain ⟨run', hrun', hfinished⟩ := hqueued hstate
    exact ne_of_claimNext hsound'.keyed (hlater'.finished run.id run' hrun' hfinished) hfinished hr
  obtain ⟨run', hrun', hsame⟩ := (hsound.2.trans hlater').runs run.id run hrun
  refine cancelRequested_of_renewLease hsound'.keyed hr run.sessionID (fun other hother => ?_) ?_
  · rw [hid] at hother
    cases hrun'.symm.trans hother
    exact hsame.sessionID
  · rw [hid]
    obtain ⟨e, hmem, he⟩ := hrunning hstate
    exact ⟨e, (hlater'.events _).subset hmem, he⟩

end Memory

/-! ## Both stores -/

/-- In every run of either store, a request to cancel that succeeds, and whose identifier was not
    used for another event of the run, is heeded from then on. -/
theorem cancellation_heeded [Unicode] [Wire] [Sha256] :
    (∀ (before after : List Memory.Action) (env : Env) (input : CancelRunInput)
      (r : Memory.Store × Memory.TaskRunEventResult) (run : Memory.TaskRun),
      Memory.requestCancel env (exec Memory.Store.step .init before) input = .ok r →
      (exec Memory.Store.step .init before).taskRuns.lookup (trimSpace input.taskRunID) = some run →
      (exec Memory.Store.step .init before).Unshared input run →
      (exec Memory.Store.step .init (before ++ .requestCancel env input :: after)).Heeds run) ∧
    ∀ (s : Store), s.Keyed → ∀ (before after : List Action) (env : Env) (input : CancelRunInput)
      (r : Store × TaskRunEventResult) (run : TaskRun),
      requestCancel env (exec System.step ⟨s, []⟩ before).store input = .ok r →
      (exec System.step ⟨s, []⟩ before).store.runs.lookup (trimSpace input.taskRunID) = some run →
      (exec System.step ⟨s, []⟩ before).store.Unshared input run →
      (exec System.step ⟨s, []⟩ (before ++ .requestCancel env input :: after)).store.Heeds run := by
  refine ⟨fun before after env input r run h hrun hunshared => ?_,
    fun s hs before after env input r run h hrun hunshared => ?_⟩
  · rw [exec_append]
    exact Memory.heeds_of_requestCancel (Memory.sound_init.exec before).1 h hrun hunshared after
  · rw [exec_append]
    exact heeds_of_requestCancel (System.kept hs before).1 h hrun hunshared after

namespace Sample

local instance cancellationUnicode : Unicode := Unicode.ascii
local instance cancellationSha256 : Sha256 := ⟨id⟩
local instance cancellationWire : Wire := ⟨fun _ => "", List.length, List.length⟩

/-- A request to cancel the run. -/
def cancel (request : String) : CancelRunInput where
  accountID := "acc"
  sessionID := "ss"
  taskRunID := "r"
  clientRequestID := request
  createdAt := 3

/-- A claim of the account. -/
def claim : ClaimInput := ⟨"acc", "w", 2, 5, Time.minute⟩

/-- A renewal of the lease. -/
def renewal : RenewLeaseInput := ⟨"acc", "r", "w", 1, "uuid", Time.minute, 4⟩

/-- A report that the run goes on. -/
def progress (request : String) : TaskRunEventInput where
  accountID := "acc"
  taskRunID := "r"
  clientRequestID := request
  fence := 1
  leaseToken := "uuid"
  type := "run.progressed"
  createdAt := 2

/-- A message in the session, which queues the run. -/
def sent : List Memory.Action :=
  Memory.Sample.opened ++ [.appendMessage (.sample 1) (Memory.Sample.message "m")]

/-- A request to cancel with the identifier of the message leaves the run to be claimed, and one
    with the identifier of a report is not told when the lease is renewed, in both stores. -/
theorem cancel_is_not_recorded :
    ((Memory.requestCancel (.sample 3) (exec Memory.Store.step .init sent)
        (cancel "m")).toOption.map fun r =>
      (Memory.claimNext (.sample 4) r.1 claim fun _ => 0).toOption.map (·.2.id)) = some (some "r") ∧
    ((Memory.requestCancel (.sample 3) (exec Memory.Store.step .init (sent ++
        [.claimNext (.sample 2) claim fun _ => 0, .recordTaskRunEvent (.sample 2) (progress "p")]))
        (cancel "p")).toOption.map fun r =>
      (Memory.renewLease (.sample 4) r.1 renewal).toOption.map (·.2.cancelRequested)) =
        some (some false) ∧
    ((requestCancel (.sample 3) (exec System.step ⟨store, []⟩
        [.claimNext (.sample 2) claim [], .recordTaskRunEvent (.sample 2) (progress "p")]).store
        (cancel "p")).toOption.map fun r =>
      (renewLease (.sample 4) r.1 renewal).toOption.map (·.2.cancelRequested)) =
        some (some false) := by
  refine ⟨?_, ?_, ?_⟩
  · decide +kernel
  · decide +kernel
  · decide +kernel

/-- The run is queued and claimed. -/
def claimed : List Memory.Action :=
  Memory.Sample.opened ++
  [ .enqueueTaskRun (.sample 1)
      { id := "r", accountID := "acc", namespaceID := "ns", sessionID := "ss" },
    .claimNext (.sample 2) claim fun _ => 0]

/-- A request to cancel the running run, and a renewal after it. -/
theorem cancellation_heeded_renewed :
    ∃ r, Memory.renewLease (.sample 4) (exec Memory.Store.step .init
        (claimed ++ .requestCancel (.sample 3) (cancel "c") :: [])) renewal = .ok r ∧
      r.2.cancelRequested = true := by
  have hrun : ((exec Memory.Store.step .init claimed).taskRuns.lookup "r").any
      (fun run => run.state == .running && run.id == "r") = true := by decide +kernel
  have hcancel : (Memory.requestCancel (.sample 3) (exec Memory.Store.step .init claimed)
      (cancel "c")).toOption.isSome = true := by decide +kernel
  have hnone : ((exec Memory.Store.step .init claimed).eventByRequest.lookup
      (Memory.requestKey "ss" "c")).isNone = true := by decide +kernel
  have hrenewed : (Memory.renewLease (.sample 4) (exec Memory.Store.step .init
      (claimed ++ .requestCancel (.sample 3) (cancel "c") :: [])) renewal).toOption.any
        (·.2.taskRun.id == "r") = true := by decide +kernel
  obtain ⟨run, hlookup, hstate⟩ := (Option.any_eq_true _ _).1 hrun
  rw [Bool.and_eq_true, beq_iff_eq, beq_iff_eq] at hstate
  obtain ⟨r, hr⟩ := Option.isSome_iff_exists.1 hcancel
  obtain ⟨r', hr', hid⟩ := (Option.any_eq_true _ _).1 hrenewed
  rw [Except.toOption_eq_some] at hr hr'
  have hunshared : (exec Memory.Store.step .init claimed).Unshared (cancel "c") run := by
    intro e he
    cases (Option.isNone_iff_eq_none.1 hnone).symm.trans he
  have hheeds :=
    cancellation_heeded.1 claimed [] (.sample 3) (cancel "c") r run hr hlookup hunshared
  exact ⟨r', hr', hheeds.running hstate.1 (.sample 4) renewal r' hr'
    ((beq_iff_eq.1 hid).trans hstate.2.symm)⟩

end Sample

end Accounts.Tasks

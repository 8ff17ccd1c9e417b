import Accounts.Tasks.Cancellation

/-!
# Reports of the workers

A worker reports on its run with `recordTaskRunEvent`, and may repeat a report whose answer was
lost: both stores look for an event of the request first, and answer with the one they find. The
requests of messages and of requests to cancel are kept in the same place. The tables ask whether
the event found is about the run, the store in memory does not, and neither asks for its type.

So a report that a run is completed may be answered with another event, and the run goes on
(`completion_is_swallowed`). A report that succeeds is answered as it should be exactly if the event
found for its request, if there is one, is about the run and of the type reported, and the run is
already in the state this type leaves it in (`reports_answered_iff`).
-/

namespace Accounts.Tasks

open Text AList

/-- What a report is answered with: an event about its run and of its type. If it is the last one of
    the run, the run is left in the state of the type. -/
structure TaskRunEventInput.Answered (input : TaskRunEventInput) (event : Event)
    (state : Option RunState) : Prop where
  run : event.taskRunID = trimSpace input.taskRunID
  type : event.type = trimSpace input.type
  final : ∀ next, stateForRunEvent input.type .running = .ok (next, true) → state = some next

variable {input : TaskRunEventInput} {env : Env}

/-- A report of its own event, which leaves the run in the next state. -/
theorem answered_of_recorded {id : String} {event : Event} {next : RunState × Bool}
    (hid : id = trimSpace input.taskRunID) (htype : event.type = trimSpace input.type)
    (hpayload : event.payload = taskRunEventPayload input.payload id input.fence next.1)
    (hnext : stateForRunEvent (trimSpace input.type) .running = .ok next) :
    input.Answered event (some next.1) := by
  refine ⟨?_, htype, fun final hfinal => ?_⟩
  · rw [Event.taskRunID, hpayload, hid]
    simp [taskRunEventPayload, Payload.set, List.lookup_cons, trimSpace_idem]
  · rw [stateForRunEvent, trimSpace_idem] at hnext
    cases hnext.symm.trans hfinal
    rfl

namespace Memory

/-- A report with the lease of its run finds an event of its request. -/
def Store.Finds (s : Store) (env : Env) (input : TaskRunEventInput) (run : TaskRun)
    (event : Event) : Prop :=
  (∃ session, ReportAccepted s (input.normalized env) run session) ∧
    run.holds (input.normalized env).fence (input.normalized env).leaseToken
      (input.normalized env).createdAt = true ∧
    s.eventByRequest.lookup (requestKey run.sessionID (input.normalized env).clientRequestID) =
      some event

theorem answered_iff [Unicode] [Wire] {s : Store} (hs : s.Keyed) :
    (∀ r, recordTaskRunEvent env s input = .ok r → input.Answered r.2.event
        ((r.1.taskRuns.lookup (trimSpace input.taskRunID)).map (·.state))) ↔
      ∀ run event, s.Finds env input run event → input.Answered event (some run.state) := by
  constructor
  · rintro h run event ⟨⟨session, haccepted⟩, hholds, hfound⟩
    have hrun : s.taskRuns.lookup (trimSpace input.taskRunID) = some run := haccepted.run_found
    have hanswer := h _ (recordTaskRunEvent_of_found haccepted hholds hfound)
    rwa [hrun] at hanswer
  intro h r hr
  obtain ⟨run, session, haccepted, hholds, ⟨hfound, hsame⟩ | ⟨-, -, next, hnext, hstored⟩⟩ :=
    recordTaskRunEvent_ok hr
  · have hrun : s.taskRuns.lookup (trimSpace input.taskRunID) = some run := haccepted.run_found
    rw [hsame, hrun]
    exact h run r.2.event ⟨⟨session, haccepted⟩, hholds, hfound⟩
  · have hid : run.id = trimSpace input.taskRunID := hs _ run haccepted.run_found
    have hrun : r.1.taskRuns.lookup run.id =
        some (run.reported (input.normalized env) next.1) := by
      rw [hstored]
      exact lookup_insert _
    rw [← hid, hrun, hstored]
    exact answered_of_recorded hid rfl rfl hnext

end Memory

/-- A report with the lease of its run finds an event of its request about the run. -/
def Store.Finds [Sha256] (s : Store) (env : Env) (input : TaskRunEventInput) (run : TaskRun)
    (event : Event) : Prop :=
  (∃ session next, ReportAccepted s (input.normalized env) run session next) ∧
    s.findEventByRequest run.sessionID (input.normalized env).clientRequestID = some event ∧
    event.taskRunID = run.id

section

variable [Unicode] [Wire] [Sha256]

theorem answered_iff {s : Store} (hs : s.Keyed) :
    (∀ r, recordTaskRunEvent env s input = .ok r → input.Answered r.2.event
        ((r.1.runs.lookup (trimSpace input.taskRunID)).map (·.state))) ↔
      ∀ run event, s.Finds env input run event → input.Answered event (some run.state) := by
  constructor
  · rintro h run event ⟨⟨session, next, haccepted⟩, hfound, hnames⟩
    have hrun : s.runs.lookup (trimSpace input.taskRunID) = some run := haccepted.run_found
    have hanswer := h _ (recordTaskRunEvent_of_found haccepted hfound hnames)
    rwa [hrun] at hanswer
  intro h r hr
  obtain ⟨run, session, next, haccepted, ⟨hfound, hnames, hsame⟩ | ⟨-, -, hrecord⟩⟩ :=
    recordTaskRunEvent_ok hr
  · have hrun : s.runs.lookup (trimSpace input.taskRunID) = some run := haccepted.run_found
    rw [hsame, hrun]
    exact h run r.2.event ⟨⟨session, next, haccepted⟩, hfound, hnames⟩
  · have hid : run.id = trimSpace input.taskRunID := hs _ run haccepted.run_found
    have hrun : r.1.runs.lookup run.id = some (run.reported (input.normalized env) next.1) := by
      rw [recordRun_ok hrecord]
      exact lookup_insert _
    rw [← hid, hrun, recordRun_ok hrecord]
    exact answered_of_recorded hid rfl rfl haccepted.next_ok

/-- In every state of either store, a report that succeeds is answered with an event about its run
    and of its type, and leaves the run in the state of the type if it is the last one, exactly if
    an event that it finds for its request is such an event, and the run already is in that state. -/
theorem reports_answered_iff (env : Env) (input : TaskRunEventInput) : (∀ as : List Memory.Action,
      (∀ r, Memory.recordTaskRunEvent env (Run.exec Memory.Store.step .init as) input = .ok r →
        input.Answered r.2.event
          ((r.1.taskRuns.lookup (trimSpace input.taskRunID)).map (·.state))) ↔
      ∀ run event, (Run.exec Memory.Store.step .init as).Finds env input run event →
        input.Answered event (some run.state)) ∧
    ∀ s : Store, s.Keyed → ((∀ r, recordTaskRunEvent env s input = .ok r → input.Answered r.2.event
        ((r.1.runs.lookup (trimSpace input.taskRunID)).map (·.state))) ↔
      ∀ run event, s.Finds env input run event → input.Answered event (some run.state)) :=
  ⟨fun as => Memory.answered_iff (Memory.sound_init.exec as).1.keyed, fun _ hs => answered_iff hs⟩

end

namespace Sample

local instance reportsUnicode : Unicode := Unicode.ascii
local instance reportsSha256 : Sha256 := ⟨id⟩
local instance reportsWire : Wire := ⟨fun _ => "", List.length, List.length⟩

/-- A report that the run is completed. -/
def completion (request : String) : TaskRunEventInput :=
  { progress request with type := eventRunCompleted }

/-- The run is claimed, and goes on. -/
def progressed : Store :=
  (Run.exec System.step ⟨store, []⟩
    [.claimNext (.sample 2) claim [], .recordTaskRunEvent (.sample 2) (progress "p")]).store

/-- A completion with the request of the message that queued the run, or of a report before it, is
    answered with that event, and the run goes on. -/
theorem completion_is_swallowed :
    ((Memory.recordTaskRunEvent (.sample 3) (Run.exec Memory.Store.step .init
        (sent ++ [.claimNext (.sample 2) claim fun _ => 0])) (completion "m")).toOption.map fun r =>
      (r.2.event.type, (r.1.taskRuns.lookup "r").map (·.state))) =
        some (eventMessageCreated, some .running) ∧
    ((recordTaskRunEvent (.sample 3) progressed (completion "p")).toOption.map fun r =>
      (r.2.event.type, (r.1.runs.lookup "r").map (·.state))) =
        some (eventRunProgressed, some .running) :=
  ⟨by decide +kernel, by decide +kernel⟩

/-- A completion with a new request is recorded. -/
theorem reports_answered_iff_completion :
    ∃ r, recordTaskRunEvent (.sample 3) progressed (completion "c") = .ok r ∧
      (completion "c").Answered r.2.event ((r.1.runs.lookup "r").map (·.state)) := by
  have hok : (recordTaskRunEvent (.sample 3) progressed (completion "c")).toOption.isSome = true := by
    decide +kernel
  have hnew : progressed.events.all (·.clientRequestID != "c") = true := by decide +kernel
  obtain ⟨r, hr⟩ := Option.isSome_iff_exists.1 hok
  rw [Except.toOption_eq_some] at hr
  refine ⟨r, hr, ((reports_answered_iff _ _).2 progressed (System.kept keyed_store _).1).2
    (fun run event h => ?_) r hr⟩
  have hother := List.all_eq_true.1 hnew event (List.mem_of_find?_eq_some h.2.1)
  have hsame := List.find?_some h.2.1
  rw [Bool.and_eq_true, beq_iff_eq, beq_iff_eq] at hsame
  exact absurd hsame.2 (bne_iff_ne.1 hother)

end Sample

end Accounts.Tasks

import Accounts.Base.Run
import Accounts.Tasks.Effects

/-!
# Leases of task runs

Any number of workers claim the runs of the store, renew their leases and report,
while users cancel runs and queue new ones (`System.step`). A worker whose lease has
expired may go on, and there may be another that believes it owns the run.

The fence keeps them apart. Every write of a run either claims it, which raises its
fence, or leaves its fence and its token as they are, and no run is written once it is
over (`Write`). So the grants of a run have growing fences, the last one is that of the
row (`System.Sound`), a call with another fence or token or after the lease has expired
changes nothing (`fenced`), and a run that is over stays as it is
(`leases_fenced`).
-/

namespace Accounts.Tasks

open Except AList Table List Option

/-- A call, with what it reads from outside. `locked` are the runs that other
    transactions have locked. -/
inductive Action
  | claimNext (env : Env) (input : ClaimInput) (locked : List String)
  | renewLease (env : Env) (input : RenewLeaseInput)
  | recordTaskRunEvent (env : Env) (input : TaskRunEventInput)
  | requestCancel (env : Env) (input : CancelRunInput)
  | enqueueTaskRun (env : Env) (input : EnqueueTaskRunInput)

/-- The lease that a call is made under. -/
structure Lease where
  taskRunID : String
  fence : Int
  token : String
  now : Time

/-- The lease of a call, as the store reads it. -/
def Action.lease : Action → Option Lease
  | .renewLease env input =>
    some ⟨Text.trimSpace input.taskRunID, input.fence, Text.trimSpace input.leaseToken,
      if input.now.isZero then env.now else input.now⟩
  | .recordTaskRunEvent env input =>
    some ⟨Text.trimSpace input.taskRunID, input.fence, Text.trimSpace input.leaseToken,
      if input.createdAt.isZero then env.now else input.createdAt⟩
  | _ => none

/-- What a worker is given for a run. -/
structure Grant where
  taskRunID : String
  fence : Int
  token : String

/-- The tables, and the grants so far, the last one first. -/
structure System where
  store : Store
  grants : List Grant := []

/-- The last grant of a run. -/
def System.current (sys : System) (taskRunID : String) : Option Grant :=
  sys.grants.find? (·.taskRunID == taskRunID)

section

variable [Unicode] [Wire] [Sha256]

/-- The tables after a call, and what it grants. -/
def Action.call (s : Store) : Action → Except TaskError (Store × Option Grant)
  | .claimNext env input locked => (Tasks.claimNext env s input locked).map fun r =>
    (r.1, some ⟨r.2.run.id, r.2.run.fence, r.2.token⟩)
  | .renewLease env input => (Tasks.renewLease env s input).map fun r => (r.1, none)
  | .recordTaskRunEvent env input =>
    (Tasks.recordTaskRunEvent env s input).map fun r => (r.1, none)
  | .requestCancel env input => (Tasks.requestCancel env s input).map fun r => (r.1, none)
  | .enqueueTaskRun env input => (Tasks.enqueueTaskRun env s input).map fun r => (r.1, none)

/-- A step: the transaction of a failed call is rolled back. -/
def System.step (sys : System) (a : Action) : System :=
  match a.call sys.store with
  | .ok r => ⟨r.1, r.2.toList ++ sys.grants⟩
  | .error _ => sys

end

/-! ## What a call writes -/

/-- The runs are found under their identifiers. -/
def Store.Keyed (s : Store) : Prop := ∀ id run, s.runs.lookup id = some run → run.id = id

/-- One run is written: a new one, or one that is not over, which stays in its session. Its fence
    and its token stay as they are, unless it is granted to a worker: then its fence grows. -/
structure Writes [Sha256] (s : Store) (g : Option Grant) (run : TaskRun) (s' : Store) : Prop where
  runs_eq : s'.runs = s.runs.insert run.id run
  not_over : ∀ old, s.runs.lookup run.id = some old →
    old.state.finished = false ∧ run.sessionID = old.sessionID
  events : s.events ⊆ s'.events
  kept : g = none → ∀ old, s.runs.lookup run.id = some old →
    run.fence = old.fence ∧ run.leaseTokenHash = old.leaseTokenHash
  granted : ∀ grant, g = some grant → grant.taskRunID = run.id ∧ grant.fence = run.fence ∧
    hashLeaseToken grant.token = run.leaseTokenHash ∧
    ∀ old, s.runs.lookup run.id = some old → old.fence < run.fence

/-- What a call does to the runs, with what it grants. -/
def Write [Sha256] (s : Store) (g : Option Grant) (s' : Store) : Prop :=
  (g = none ∧ s' = s) ∨ ∃ run, Writes s g run s'

variable {s s' : Store}

/-- A run that is not over is written, and keeps its lease. -/
theorem write_of_kept [Sha256] (hs : s.Keyed) {id : String} {run run' : TaskRun}
    (hrun : s.runs.lookup id = some run) (hopen : run.state.finished = false)
    (hruns : s'.runs = s.runs.insert run.id run') (hid : run'.id = run.id)
    (hsession : run'.sessionID = run.sessionID) (hfence : run'.fence = run.fence)
    (htoken : run'.leaseTokenHash = run.leaseTokenHash) (hevents : s.events ⊆ s'.events) :
    Write s none s' := by
  have hlookup : s.runs.lookup run'.id = some run := by rw [hid, hs id run hrun, hrun]
  refine .inr ⟨run', by rw [hruns, hid], fun old hold => ?_, hevents, fun _ old hold => ?_, ?_⟩
  · exact some.inj (hlookup.symm.trans hold) ▸ ⟨hopen, hsession⟩
  · exact some.inj (hlookup.symm.trans hold) ▸ ⟨hfence, htoken⟩
  · rintro grant ⟨⟩

section

variable [Unicode] [Wire] [Sha256] {env : Env}

theorem claimNext_write (hs : s.Keyed) {input : ClaimInput} {locked : List String}
    {r : Store × Claim} (h : claimNext env s input locked = .ok r) :
    Write s (some ⟨r.2.run.id, r.2.run.fence, r.2.token⟩) r.1 := by
  obtain ⟨run, _, -, hnext, -, hrecord, hclaim⟩ := claimNext_ok h
  obtain ⟨hmem, hclaimable⟩ := nextRun_ok hnext
  obtain ⟨id, hlookup⟩ := mem_rows_iff.1 hmem
  obtain rfl := hs id run hlookup
  rw [hclaim, record_ok hrecord]
  refine .inr ⟨run.claimed (input.normalized env) env.uuid.val, rfl, ?_,
    subset_append_left _ _, ?_, ?_⟩
  · intro _ hold
    obtain rfl := some.inj (hlookup.symm.trans hold)
    exact ⟨not_finished_of_claimable hclaimable, rfl⟩
  · intro hnone
    cases hnone
  · rintro grant ⟨⟩
    refine ⟨rfl, rfl, rfl, fun old hold => ?_⟩
    obtain rfl := some.inj (hlookup.symm.trans hold)
    exact Int.lt_add_one_iff.2 le_rfl

section

variable (hs : s.Keyed) {r : Store × TaskRunEventResult}

include hs

theorem recordTaskRunEvent_write {input : TaskRunEventInput}
    (h : recordTaskRunEvent env s input = .ok r) : Write s none r.1 := by
  obtain ⟨_, _, _, haccepted, ⟨-, -, hsame⟩ | ⟨-, hstate, hrecord⟩⟩ :=
    recordTaskRunEvent_ok h
  · exact .inl ⟨rfl, hsame⟩
  · rw [recordRun_ok hrecord]
    exact write_of_kept hs haccepted.run_found (by rw [hstate]; rfl) rfl rfl rfl rfl rfl
      (subset_append_left _ _)

theorem requestCancel_write {input : CancelRunInput} (h : requestCancel env s input = .ok r) :
    Write s none r.1 := by
  obtain ⟨_, _, _, -, -, hrun, -, hcancels⟩ := requestCancel_ok h
  cases hcancels with
  | repeated _ _ same | requested _ _ same => exact .inl ⟨rfl, same⟩
  | queued state recorded | running state recorded =>
    rw [recordRun_ok recorded]
    exact write_of_kept hs hrun (by rw [state]; rfl) rfl rfl rfl rfl rfl (subset_append_left _ _)

end

omit [Unicode] [Wire] in
theorem enqueueTaskRun_write {input : EnqueueTaskRunInput} {r : Store × TaskRun}
    (h : enqueueTaskRun env s input = .ok r) : Write s none r.1 := by
  obtain ⟨hnew, -, rfl⟩ := enqueueTaskRun_ok h
  have hnone := lookup_eq_none.2 hnew
  refine .inr ⟨input.run env, rfl, fun old hold => ?_, List.Subset.refl _, fun _ old hold => ?_, ?_⟩
  · cases hnone.symm.trans hold
  · cases hnone.symm.trans hold
  · rintro grant ⟨⟩

/-- A call writes as described. -/
theorem write_of_call (hs : s.Keyed) {a : Action} {r : Store × Option Grant}
    (h : a.call s = .ok r) : Write s r.2 r.1 := by
  cases a <;> obtain ⟨_, hr, rfl⟩ := map_eq_ok.1 h
  case claimNext => exact claimNext_write hs hr
  case renewLease =>
    obtain ⟨_, _, -, hrun, hstate, -, rfl⟩ := renewLease_ok hr
    exact write_of_kept hs hrun (by rw [hstate]; rfl) rfl rfl rfl rfl rfl (List.Subset.refl _)
  case recordTaskRunEvent => exact recordTaskRunEvent_write hs hr
  case requestCancel => exact requestCancel_write hs hr
  case enqueueTaskRun => exact enqueueTaskRun_write hr

variable {run : TaskRun} {sys : System} {g : Option Grant}

/-! ## Runs of the system -/

/-- A step is a write: that of a call that fails writes nothing. -/
theorem step_eq (hs : sys.store.Keyed) (a : Action) :
    ∃ g s', Write sys.store g s' ∧ sys.step a = ⟨s', g.toList ++ sys.grants⟩ := by
  rw [System.step]
  cases hcall : a.call sys.store with
  | error => exact ⟨none, sys.store, .inl ⟨rfl, rfl⟩, rfl⟩
  | ok r => exact ⟨r.2, r.1, write_of_call hs hcall, rfl⟩

omit [Unicode] [Wire] in
/-- The runs stay under their identifiers. -/
theorem Write.keyed (h : Write s g s') (hs : s.Keyed) : s'.Keyed := by
  rcases h with ⟨-, rfl⟩ | ⟨_, h⟩
  · exact hs
  · intro _ _ hlookup
    rw [h.runs_eq] at hlookup
    exact forall_insert hs rfl hlookup

omit [Unicode] [Wire] in
/-- A run that is over is not written. -/
theorem Write.lookup_of_finished (h : Write s g s') {id : String}
    (hrun : s.runs.lookup id = some run) (hover : run.state.finished = true) :
    s'.runs.lookup id = some run := by
  rcases h with ⟨-, rfl⟩ | ⟨run', h⟩
  · exact hrun
  have hne : id ≠ run'.id := by
    rintro rfl
    rw [(h.not_over run hrun).1] at hover
    cases hover
  rw [h.runs_eq, lookup_insert_ne hne, hrun]

/-- The grants agree with the rows: those of a run have growing fences, none is past
    the fence of the row, and the last one is that of the row. -/
structure System.Sound (sys : System) : Prop where
  keyed : sys.store.Keyed
  growing : sys.grants.Pairwise fun later earlier =>
    later.taskRunID = earlier.taskRunID → earlier.fence < later.fence
  bounded : ∀ grant ∈ sys.grants, ∃ run, sys.store.runs.lookup grant.taskRunID = some run ∧
    grant.fence ≤ run.fence
  current : ∀ id grant, sys.current id = some grant →
    ∃ run, sys.store.runs.lookup id = some run ∧ run.fence = grant.fence ∧
      run.leaseTokenHash = hashLeaseToken grant.token

omit [Unicode] [Wire] in
/-- A write keeps the grants and the rows in agreement. -/
theorem Write.sound (h : Write sys.store g s') (hsys : sys.Sound) :
    System.Sound ⟨s', g.toList ++ sys.grants⟩ := by
  have hkeyed := h.keyed hsys.keyed
  rcases h with ⟨rfl, rfl⟩ | ⟨run, h⟩
  · exact hsys
  -- The row of a run is the one written, or as before.
  have hrow (id : String) : (id = run.id ∧ s'.runs.lookup id = some run) ∨
      s'.runs.lookup id = sys.store.runs.lookup id := by
    rw [h.runs_eq]
    by_cases hid : id = run.id
    · exact .inl ⟨hid, hid ▸ lookup_insert _⟩
    · exact .inr (lookup_insert_ne hid)
  have hgrows (old : TaskRun) (hold : sys.store.runs.lookup run.id = some old) :
      old.fence ≤ run.fence := by
    cases g with
    | none => exact (h.kept rfl old hold).1.ge
    | some new => exact ((h.granted new rfl).2.2.2 old hold).le
  have hbounded (grant : Grant) (hgrant : grant ∈ sys.grants) :
      ∃ run, s'.runs.lookup grant.taskRunID = some run ∧ grant.fence ≤ run.fence := by
    obtain ⟨old, hold, hle⟩ := hsys.bounded grant hgrant
    rcases hrow grant.taskRunID with ⟨hid, hrun⟩ | hsame
    · exact ⟨run, hrun, hle.trans (hgrows old (hid ▸ hold))⟩
    · exact ⟨old, hsame.trans hold, hle⟩
  cases g with
  | none =>
    refine ⟨hkeyed, hsys.growing, hbounded, fun id grant hcurrent => ?_⟩
    obtain ⟨old, hold, hfence, htoken⟩ := hsys.current id grant hcurrent
    rcases hrow id with ⟨hid, hrun⟩ | hsame
    · obtain ⟨hfence', htoken'⟩ := h.kept rfl old (hid ▸ hold)
      exact ⟨run, hrun, hfence'.trans hfence, htoken'.trans htoken⟩
    · exact ⟨old, hsame.trans hold, hfence, htoken⟩
  | some new =>
    obtain ⟨hid, hfence, htoken, hless⟩ := h.granted new rfl
    have hnew : s'.runs.lookup new.taskRunID = some run := by rw [h.runs_eq, hid, lookup_insert]
    refine ⟨hkeyed, pairwise_cons.2 ⟨fun grant hgrant hsame => ?_, hsys.growing⟩,
      fun grant hgrant => ?_, fun id grant hcurrent => ?_⟩
    · -- The fences granted before are below the new one.
      obtain ⟨old, hold, hle⟩ := hsys.bounded grant hgrant
      rw [← hsame, hid] at hold
      rw [hfence]
      exact hle.trans_lt (hless old hold)
    · rcases mem_cons.1 hgrant with rfl | hgrant
      · exact ⟨run, hnew, hfence.le⟩
      · exact hbounded grant hgrant
    · rw [System.current, toList_some, cons_append, find?_cons] at hcurrent
      by_cases hsame : new.taskRunID = id
      · rw [beq_iff_eq.2 hsame] at hcurrent
        cases hcurrent
        exact ⟨run, hsame ▸ hnew, hfence.symm, htoken.symm⟩
      rw [beq_eq_false_iff_ne.2 hsame] at hcurrent
      obtain ⟨old, hold, hagrees⟩ := hsys.current id grant hcurrent
      rcases hrow id with ⟨heq, -⟩ | hkept
      · exact absurd (hid.trans heq.symm) hsame
      · exact ⟨old, hkept.trans hold, hagrees⟩

/-- Every step keeps the grants and the rows in agreement. -/
theorem System.Sound.step (hsys : sys.Sound) (a : Action) : (sys.step a).Sound := by
  obtain ⟨g, _, hwrite, heq⟩ := step_eq hsys.keyed a
  rw [heq]
  exact hwrite.sound hsys

/-- A call under a lease with another fence or token than the row of the run has, or
    that has expired, changes nothing. -/
def Fenced (sys : System) (a : Action) : Prop :=
  ∀ lease run, a.lease = some lease → sys.store.runs.lookup lease.taskRunID = some run →
    (run.fence ≠ lease.fence ∨ run.leaseTokenHash ≠ hashLeaseToken lease.token ∨
      run.leased lease.now = false) → sys.step a = sys

theorem fenced (sys : System) (a : Action) : Fenced sys a := by
  intro lease run hlease hrun hother
  have h : run.holds lease.fence lease.token lease.now = false := by
    rw [TaskRun.holds]
    rcases hother with hfence | htoken | hexpired
    · simp [hfence]
    · simp [htoken]
    · simp [hexpired]
  -- A call under a lease that is not that of the run fails.
  rcases hcall : a.call sys.store with e | r
  · rw [System.step, hcall]
  exfalso
  cases a with
  | claimNext | requestCancel | enqueueTaskRun => cases hlease
  | renewLease =>
    obtain ⟨r', hr, -⟩ := map_eq_ok.1 hcall
    obtain ⟨run', _, hnormal, hrun', -, hholds, -⟩ := renewLease_ok hr
    rw [normalizeRenew_ok hnormal] at hrun' hholds
    cases hlease
    obtain rfl := some.inj (hrun'.symm.trans hrun)
    cases hholds.symm.trans h
  | recordTaskRunEvent =>
    obtain ⟨r', hr, -⟩ := map_eq_ok.1 hcall
    obtain ⟨run', _, _, haccepted, -⟩ := recordTaskRunEvent_ok hr
    cases hlease
    obtain rfl := some.inj (haccepted.run_found.symm.trans hrun)
    cases haccepted.holds.symm.trans h

/-- In every run of the system from tables with the rows under their identifiers: the grants of a
    run have growing fences, and the last one is that of its row; a call under another lease, or one
    that has expired, changes nothing; and a run that is over stays as it is. -/
theorem leases_fenced {s : Store} (hs : s.Keyed) (as bs : List Action) :
    let sys := Run.exec System.step ⟨s, []⟩ as
    let sys' := Run.exec System.step sys bs
    (sys.grants.Pairwise fun later earlier =>
        later.taskRunID = earlier.taskRunID → earlier.fence < later.fence) ∧
      (∀ id grant, sys.current id = some grant → ∃ run, sys.store.runs.lookup id = some run ∧
        run.fence = grant.fence ∧ run.leaseTokenHash = hashLeaseToken grant.token) ∧
      (∀ a, Fenced sys a) ∧
      ∀ id run, sys.store.runs.lookup id = some run → run.state.finished = true →
        sys'.store.runs.lookup id = some run := by
  intro sys sys'
  have hinit : System.Sound ⟨s, []⟩ :=
    ⟨hs, .nil, fun _ h => absurd h not_mem_nil, fun _ _ h => by cases h⟩
  have hsys : sys.Sound := Run.exec_induction (fun sys a hsys => hsys.step a) hinit as
  refine ⟨hsys.growing, hsys.current, fenced sys, fun id run hrun hover => ?_⟩
  have hover' : sys'.Sound ∧ sys'.store.runs.lookup id = some run := by
    refine Run.exec_induction (P := fun sys : System => sys.Sound ∧
      sys.store.runs.lookup id = some run) (fun sys a h => ⟨h.1.step a, ?_⟩) ⟨hsys, hrun⟩ bs
    obtain ⟨g, _, hwrite, heq⟩ := step_eq h.1.keyed a
    rw [heq]
    exact hwrite.lookup_of_finished h.2 hover
  exact hover'.2

end

section

namespace Sample

local instance : Unicode := Unicode.ascii
local instance : Sha256 := ⟨id⟩
local instance : Wire := ⟨fun _ => "", List.length, List.length⟩

/-- A run that waits. -/
def run : TaskRun where
  id := "r"
  accountID := "acc"
  namespaceID := "ns"
  sessionID := "ss"
  notBefore := 1
  createdAt := 1
  updatedAt := 1

def store : Store where
  namespaces := AList.insert "ns" ⟨"ns", "acc", 2, none⟩ ∅
  sessions := AList.insert "ss" { id := "ss", accountID := "acc", namespaceID := "ns" } ∅
  events := []
  runs := AList.insert "r" run ∅

/-- It is claimed for a minute, and again after two. -/
def reclaimed : List Action :=
  [ .claimNext (.sample 1) ⟨"acc", "w1", 1, 5, Time.minute⟩ [],
    .claimNext (.sample 1) ⟨"acc", "w2", 2 * Time.minute, 5, Time.minute⟩ []]

/-- The first worker reports that it is done. -/
def lateReport : Action :=
  .recordTaskRunEvent (.sample 1)
    { accountID := "acc"
      taskRunID := "r"
      clientRequestID := "c"
      fence := 1
      leaseToken := "uuid"
      type := "run.completed"
      createdAt := 2 * Time.minute + 1 }

theorem keyed_store : store.Keyed := by
  intro _ _ hlookup
  rcases lookup_insert_iff.1 hlookup with ⟨rfl, rfl⟩ | ⟨-, hlookup⟩
  · rfl
  · cases hlookup

/-- Two claims of a run, and the late report of the first worker. -/
theorem leases_fenced_reclaimed : let sys := Run.exec System.step ⟨store, []⟩ reclaimed
    sys.grants.map (·.fence) = [2, 1] ∧ Fenced sys lateReport :=
  ⟨by decide +kernel, (leases_fenced keyed_store reclaimed []).2.2.1 lateReport⟩

end Sample

end

end Accounts.Tasks

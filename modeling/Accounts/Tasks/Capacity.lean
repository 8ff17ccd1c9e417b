import Accounts.Tasks.Lease

/-!
# Capacity of the workers

An account has at most five runs under a lease at any time, and a namespace at most two, or fewer
if it is configured so. The claims see to it, which count the active runs at their time
(`claimNext`). They do not count a run whose lease has expired, so that its worker must not renew
it later: a renewal needs a lease that has not expired at its own time (`renewLease`). This is
enough if the times of the calls do not decrease (`Clocked.Timely`): an active run was active
before, or it is the one that is claimed (`within_insert`, `within_grant`).

The main result is `capacity_kept`.
-/

namespace Accounts.Tasks

open Except Table Bool TaskRun

/-! ## Limits -/

/-- The active runs in a namespace. -/
def Store.activeIn (s : Store) (namespaceID : String) (now : Time) : Nat :=
  (rows s.runs).countP fun run => run.namespaceID == namespaceID && run.active now

/-- At a time, no account has too many active runs, and no namespace. -/
structure Store.Within (s : Store) (now : Time) : Prop where
  account : ∀ accountID, (s.activeRuns accountID now : Int) ≤ 5
  namespaced : ∀ id ns, s.namespaces.lookup id = some ns →
    (s.activeIn id now : Int) ≤ min ns.maxActiveRuns 2

/-- The namespace is one of the account. -/
def Store.Owns (s : Store) (accountID namespaceID : String) : Prop :=
  ∀ ns, s.namespaces.lookup namespaceID = some ns → ns.accountID = accountID

/-- The rows belong together: runs and sessions are in namespaces of their account. -/
structure Store.Owned (s : Store) : Prop where
  keyed : s.Keyed
  runs : ∀ id run, s.runs.lookup id = some run → s.Owns run.accountID run.namespaceID
  sessions : ∀ id session, s.sessions.lookup id = some session →
    s.Owns session.accountID session.namespaceID

/-- The namespaces have the same accounts and limits. -/
def SameNamespaces (s s' : Store) : Prop :=
  ∀ id ns', s'.namespaces.lookup id = some ns' → ∃ ns, s.namespaces.lookup id = some ns ∧
    ns.accountID = ns'.accountID ∧ ns.maxActiveRuns = ns'.maxActiveRuns

variable {s s' : Store} {now : Time}

theorem sameNamespaces_of_eq (h : s'.namespaces = s.namespaces) : SameNamespaces s s' := by
  intro _ ns' hns
  rw [h] at hns
  exact ⟨ns', hns, rfl, rfl⟩

theorem sameNamespaces_grant [Sha256] (s : Store) (run : TaskRun) (input : ClaimInput)
    (token : String) : SameNamespaces s (s.grant run input token) := by
  intro _ ns' hns
  rw [Store.grant] at hns
  split at hns
  · next ns hfound =>
    split_ifs at hns
    · rcases lookup_insert_iff.1 hns with ⟨rfl, rfl⟩ | ⟨-, hns⟩
      · exact ⟨ns, hfound, rfl, rfl⟩
      · exact ⟨ns', hns, rfl, rfl⟩
    · exact ⟨ns', hns, rfl, rfl⟩
  · exact ⟨ns', hns, rfl, rfl⟩

/-! ## Time -/

/-- A run that is active later is active now. -/
theorem active_of_le {run : TaskRun} {later : Time} (hle : now ≤ later)
    (h : run.active later = true) : run.active now = true := by
  rw [active, and_eq_true] at h ⊢
  refine ⟨h.1, ?_⟩
  obtain ⟨expires, hexpires, hlt⟩ := (Option.any_eq_true _ _).1 h.2
  exact (Option.any_eq_true _ _).2
    ⟨expires, hexpires, decide_eq_true (lt_of_le_of_lt hle (of_decide_eq_true hlt))⟩

/-- The limits are kept as time passes. -/
theorem Store.Within.later (h : s.Within now) {later : Time} (hle : now ≤ later) :
    s.Within later := by
  refine ⟨fun accountID => le_trans ?_ (h.account accountID),
    fun id ns hns => le_trans ?_ (h.namespaced id ns hns)⟩
  all_goals
    refine Int.ofNat_le.2 (List.countP_mono_left fun run _ hrun => ?_)
    rw [and_eq_true] at hrun ⊢
    exact ⟨hrun.1, active_of_le hle hrun.2⟩

/-! ## Writes -/

/-- A write keeps the limits if the run is not active, or was active before. -/
theorem within_insert (run : TaskRun) (hnamespaces : SameNamespaces s s')
    (hruns : s'.runs = s.runs.insert run.id run)
    (hactive : run.active now = true → ∃ old, s.runs.lookup run.id = some old ∧
      old.active now = true ∧ old.accountID = run.accountID ∧ old.namespaceID = run.namespaceID)
    (h : s.Within now) : s'.Within now := by
  refine ⟨fun accountID => le_trans ?_ (h.account accountID), fun id ns' hns' => ?_⟩
  · rw [Store.activeRuns, hruns]
    refine Int.ofNat_le.2 (countP_insert_le fun hrun => ?_)
    rw [and_eq_true] at hrun
    obtain ⟨old, hold, hbefore, haccount, -⟩ := hactive hrun.2
    exact ⟨old, hold, by rw [haccount, hrun.1, hbefore]; rfl⟩
  · obtain ⟨ns, hns, -, hmax⟩ := hnamespaces id ns' hns'
    rw [← hmax]
    refine le_trans ?_ (h.namespaced id ns hns)
    rw [Store.activeIn, hruns]
    refine Int.ofNat_le.2 (countP_insert_le fun hrun => ?_)
    rw [and_eq_true] at hrun
    obtain ⟨old, hold, hbefore, -, hnamespace⟩ := hactive hrun.2
    exact ⟨old, hold, by rw [hnamespace, hrun.1, hbefore]; rfl⟩

/-- The active runs in a namespace are those of its account. -/
theorem activeIn_eq (hs : s.Owned) {id : String} {ns : Namespace}
    (hns : s.namespaces.lookup id = some ns) (now : Time) :
    s.activeIn id now = s.activeRunsIn ns.accountID id now := by
  refine List.countP_congr fun run hrun => ?_
  obtain ⟨key, hkey⟩ := mem_rows_iff.1 hrun
  simp only [and_eq_true, beq_iff_eq]
  constructor
  · rintro ⟨rfl, hactive⟩
    exact ⟨⟨(hs.runs key run hkey ns hns).symm, rfl⟩, hactive⟩
  · rintro ⟨⟨-, hid⟩, hactive⟩
    exact ⟨hid, hactive⟩

/-- A claim keeps the limits: it adds one run, to an account and a namespace that have a place
    left. -/
theorem within_grant [Sha256] (hs : s.Owned) {run : TaskRun} {input : ClaimInput} (token : String)
    (hrow : run ∈ rows s.runs) (hlimit : input.maxGlobalActive ≤ 5)
    (hroom : (s.activeRuns input.accountID input.now : Int) < input.maxGlobalActive)
    (hclaimable : s.claimable input.accountID input.now run = true) (h : s.Within input.now) :
    (s.grant run input token).Within input.now := by
  obtain ⟨haccount, -, ns, hns, hplace⟩ := claimable_iff.1 hclaimable
  refine ⟨fun accountID => ?_, fun id ns' hns' => ?_⟩
  · by_cases hid : run.accountID = accountID
    · have hle : (s.grant run input token).activeRuns accountID input.now ≤
          s.activeRuns accountID input.now + 1 := countP_insert_le_succ _ _ _ _
      rw [← hid, haccount] at hle ⊢
      omega
    · refine le_trans (Int.ofNat_le.2 (countP_insert_le fun hrun => ?_)) (h.account accountID)
      rw [and_eq_true, beq_iff_eq] at hrun
      exact absurd hrun.1 hid
  · obtain ⟨old, hold, -, hmax⟩ := sameNamespaces_grant s run input token id ns' hns'
    rw [← hmax]
    by_cases hid : run.namespaceID = id
    · have hle : (s.grant run input token).activeIn id input.now ≤
          s.activeIn id input.now + 1 := countP_insert_le_succ _ _ _ _
      obtain ⟨key, hkey⟩ := mem_rows_iff.1 hrow
      -- The claim has counted the runs of its account in the namespace, which are all.
      rw [← hs.runs key run hkey ns hns, hid] at hplace
      rw [hid] at hns
      rw [← activeIn_eq hs hns] at hplace
      obtain rfl := Option.some.inj (hns.symm.trans hold)
      omega
    · refine le_trans (Int.ofNat_le.2 (countP_insert_le fun hrun => ?_))
        (h.namespaced id old hold)
      rw [and_eq_true, beq_iff_eq] at hrun
      exact absurd hrun.1 hid

/-! ## Rows that belong together -/

theorem Store.Owns.same {accountID namespaceID : String} (h : s.Owns accountID namespaceID)
    (hnamespaces : SameNamespaces s s') : s'.Owns accountID namespaceID := by
  intro ns' hns'
  obtain ⟨ns, hns, howner, -⟩ := hnamespaces _ ns' hns'
  rw [← howner]
  exact h ns hns

/-- A write keeps the rows together if it is of rows that belong to their namespace. -/
theorem owned_insert (hs : s.Owned) (hnamespaces : SameNamespaces s s') (run : TaskRun)
    (hruns : s'.runs = s.runs.insert run.id run) (hrun : s.Owns run.accountID run.namespaceID)
    (hsessions : s'.sessions = s.sessions ∨ ∃ id session,
      s.Owns session.accountID session.namespaceID ∧
        s'.sessions = s.sessions.insert id session) : s'.Owned := by
  have hkept id session (h : s.sessions.lookup id = some session) :=
    (hs.sessions id session h).same hnamespaces
  refine ⟨fun id run' hrun' => ?_, fun id run' hrun' => ?_, fun id session' hsession' => ?_⟩
  · rw [hruns] at hrun'
    exact forall_insert hs.keyed rfl hrun'
  · rw [hruns] at hrun'
    exact forall_insert (fun id run h => (hs.runs id run h).same hnamespaces)
      (hrun.same hnamespaces) hrun'
  · rcases hsessions with heq | ⟨_, session, hsession, heq⟩
    · exact hkept id session' (heq ▸ hsession')
    · rw [heq] at hsession'
      exact forall_insert hkept (hsession.same hnamespaces) hsession'

/-! ## Calls in time -/

/-- The time of a claim or a renewal. -/
def Action.time : Action → Option Time
  | .claimNext env input _ => some (input.normalized env).now
  | .renewLease env input => some (if input.now.isZero then env.now else input.now)
  | _ => none

/-- The system, and the time of the last claim or renewal. -/
structure Clocked where
  sys : System
  now : Time

/-- The times do not decrease. -/
def Clocked.Timely (c : Clocked) (a : Action) : Prop := ∀ now, a.time = some now → c.now ≤ now

/-- The limits are kept at the last time, by rows that belong together. -/
structure Clocked.Fits (c : Clocked) : Prop where
  owned : c.sys.store.Owned
  within : c.sys.store.Within c.now

section

variable [Unicode] [Wire] [Sha256]

/-- A step, at its time. -/
def Clocked.step (c : Clocked) (a : Action) : Clocked := ⟨c.sys.step a, a.time.getD c.now⟩

section

variable (hs : s.Owned)

include hs

theorem fits_claimNext {env : Env} {input : ClaimInput} {locked : List String} {r : Store × Claim}
    (h : claimNext env s input locked = .ok r) (hwithin : s.Within (input.normalized env).now) :
    r.1.Owned ∧ r.1.Within (input.normalized env).now := by
  obtain ⟨run, session, hroom, hnext, hsession, hrecord, -⟩ := claimNext_ok h
  obtain ⟨hrow, hclaimable⟩ := nextRun_ok hnext
  have hlimit : (input.normalized env).maxGlobalActive ≤ 5 := by
    rw [ClaimInput.normalized]
    dsimp only [defaultGlobalMaxActive]
    split_ifs <;> omega
  have hgrant := within_grant hs env.uuid.val hrow hlimit hroom hclaimable hwithin
  obtain ⟨key, hkey⟩ := mem_rows_iff.1 hrow
  rw [record_ok hrecord]
  refine ⟨?_, hgrant.account, hgrant.namespaced⟩
  exact owned_insert hs (sameNamespaces_grant s run (input.normalized env) env.uuid.val)
    (run.claimed (input.normalized env) env.uuid.val) rfl (hs.runs key run hkey)
    (.inr ⟨_, session.after _ _, hs.sessions _ session hsession, rfl⟩)

omit [Unicode] [Wire] in
theorem fits_renewLease {env : Env} {input : RenewLeaseInput} {r : Store × RenewLeaseResult}
    (h : renewLease env s input = .ok r)
    (hwithin : s.Within (if input.now.isZero then env.now else input.now)) :
    r.1.Owned ∧ r.1.Within (if input.now.isZero then env.now else input.now) := by
  obtain ⟨run, normal, hnormal, hrun, hstate, hholds, rfl⟩ := renewLease_ok h
  rw [← hs.keyed _ run hrun] at hrun
  refine ⟨owned_insert hs (sameNamespaces_of_eq rfl) (run.renewed normal) rfl
    (hs.runs _ run hrun) (.inl rfl), within_insert (s := s) (run.renewed normal)
      (sameNamespaces_of_eq rfl) rfl (fun _ => ⟨run, hrun, ?_, rfl, rfl⟩) hwithin⟩
  -- The lease has not expired, so the run was counted.
  rw [holds, and_eq_true, and_eq_true, normalizeRenew_ok hnormal] at hholds
  rw [active, hstate, hholds.1.2]
  rfl

section

variable {r : Store × TaskRunEventResult}

omit [Sha256] in
/-- Recording an event of a run keeps the limits, if the run was active before. -/
theorem fits_recordRun {id : String} {session : Session} {run run' : TaskRun} {event : Event}
    (h : s.recordRun session run' event = .ok r) (hrun : s.runs.lookup run.id = some run)
    (hsession : s.sessions.lookup id = some session) (hid : run'.id = run.id)
    (haccount : run'.accountID = run.accountID) (hnamespace : run'.namespaceID = run.namespaceID)
    (hactive : run'.active now = true → run.active now = true) (hwithin : s.Within now) :
    r.1.Owned ∧ r.1.Within now := by
  rw [recordRun_ok h]
  have howns := hs.runs _ run hrun
  rw [← haccount, ← hnamespace] at howns
  refine ⟨owned_insert hs (sameNamespaces_of_eq rfl) run' rfl howns
    (.inr ⟨_, session.after _ _, hs.sessions _ session hsession, rfl⟩),
    within_insert (s := s) run' (sameNamespaces_of_eq rfl) rfl (fun hnow => ?_) hwithin⟩
  exact ⟨run, by rw [hid, hrun], hactive hnow, haccount.symm, hnamespace.symm⟩

omit [Sha256] in
theorem fits_requestCancel {env : Env} {input : CancelRunInput}
    (h : requestCancel env s input = .ok r) (hwithin : s.Within now) :
    r.1.Owned ∧ r.1.Within now := by
  obtain ⟨_, _, run, -, hsession, hrun, -, hcancels⟩ := requestCancel_ok h
  rw [← hs.keyed _ run hrun] at hrun
  cases hcancels with
  | repeated _ _ same | requested _ _ same =>
    rw [same]
    exact ⟨hs, hwithin⟩
  | queued _ recorded =>
    refine fits_recordRun hs recorded hrun hsession rfl rfl rfl (fun hnow => ?_) hwithin
    cases hnow
  | running _ recorded =>
    exact fits_recordRun hs recorded hrun hsession rfl rfl rfl id hwithin

end

omit [Unicode] [Wire] [Sha256] in
theorem fits_enqueueTaskRun {env : Env} {input : EnqueueTaskRunInput} {r : Store × TaskRun}
    (h : enqueueTaskRun env s input = .ok r) (hwithin : s.Within now) :
    r.1.Owned ∧ r.1.Within now := by
  obtain ⟨-, ⟨session, hsession, haccount, hnamespace⟩, rfl⟩ := enqueueTaskRun_ok h
  have howns := hs.sessions _ session hsession
  rw [haccount, hnamespace] at howns
  refine ⟨owned_insert hs (sameNamespaces_of_eq rfl) (input.run env) rfl howns (.inl rfl),
    within_insert (s := s) (input.run env) (sameNamespaces_of_eq rfl) rfl (fun hnow => ?_) hwithin⟩
  cases hnow

end

/-- A call in time keeps the limits. -/
theorem Clocked.Fits.step {c : Clocked} {a : Action} (ha : c.Timely a) (hc : c.Fits) :
    (c.step a).Fits := by
  have hle : c.now ≤ a.time.getD c.now := by
    cases hnow : a.time with
    | none => exact le_rfl
    | some now => exact ha now hnow
  have hwithin := hc.within.later hle
  rw [Clocked.step, System.step]
  rcases hcall : a.call c.sys.store with e | r
  · exact ⟨hc.owned, hwithin⟩
  suffices hboth : r.1.Owned ∧ r.1.Within (a.time.getD c.now) from ⟨hboth.1, hboth.2⟩
  cases a <;> obtain ⟨_, hr, rfl⟩ := map_eq_ok.1 hcall
  case claimNext => exact fits_claimNext hc.owned hr hwithin
  case renewLease => exact fits_renewLease hc.owned hr hwithin
  case recordTaskRunEvent =>
    obtain ⟨run, _, _, haccepted, ⟨-, -, hsame⟩ | ⟨-, hstate, hrecord⟩⟩ :=
      recordTaskRunEvent_ok hr
    · rw [hsame]
      exact ⟨hc.owned, hwithin⟩
    have hrun := haccepted.run_found
    rw [← hc.owned.keyed _ run hrun] at hrun
    refine fits_recordRun hc.owned hrecord hrun haccepted.found rfl rfl rfl (fun hnow => ?_)
      hwithin
    rw [active, and_eq_true] at hnow ⊢
    exact ⟨beq_iff_eq.2 hstate, hnow.2⟩
  case requestCancel => exact fits_requestCancel hc.owned hr hwithin
  case enqueueTaskRun => exact fits_enqueueTaskRun hc.owned hr hwithin

/-! ## The limits -/

/-- In every run of the system from tables in which no run is running, with calls in time: at the
    time of the last claim or renewal and at any later time, an account has at most five active
    runs, and a namespace at most as many as it is configured for, and two. -/
theorem capacity_kept {s : Store} (hs : s.Owned)
    (hlimits : ∀ id ns, s.namespaces.lookup id = some ns → 0 < ns.maxActiveRuns)
    (hwaiting : ∀ id run, s.runs.lookup id = some run → run.state ≠ .running) {start : Time}
    {as : List Action} (has : Run.Guarded Clocked.step Clocked.Timely ⟨⟨s, []⟩, start⟩ as)
    {now : Time} (hnow : (Run.exec Clocked.step ⟨⟨s, []⟩, start⟩ as).now ≤ now) :
    (Run.exec Clocked.step ⟨⟨s, []⟩, start⟩ as).sys.store.Within now := by
  have hzero : ∀ p : TaskRun → Bool,
      (rows s.runs).countP (fun run => p run && run.active start) = 0 := by
    intro p
    refine List.countP_eq_zero.2 fun run hrun => ?_
    obtain ⟨id, hid⟩ := mem_rows_iff.1 hrun
    rw [active, beq_eq_false_iff_ne.2 (hwaiting id run hid), Bool.false_and, Bool.and_false]
    exact Bool.false_ne_true
  -- As no run is running, the limits are kept at the start.
  have hstart : s.Within start := by
    refine ⟨fun accountID => ?_, fun id ns hns => ?_⟩
    · rw [Store.activeRuns, hzero]
      decide
    · rw [Store.activeIn, hzero]
      have hpos := hlimits id ns hns
      omega
  have hfits : (Run.exec Clocked.step ⟨⟨s, []⟩, start⟩ as).Fits :=
    has.exec_induction (P := Clocked.Fits) (fun c a ha hc => hc.step ha) ⟨hs, hstart⟩
  exact hfits.within.later hnow

end

section

namespace Sample

local instance capacityUnicode : Unicode := Unicode.ascii
local instance capacitySha256 : Sha256 := ⟨id⟩
local instance capacityWire : Wire := ⟨fun _ => "", List.length, List.length⟩

/-- A run that is queued besides the one that waits. -/
def queue (id : String) : Action :=
  .enqueueTaskRun (.sample 1)
    { id := id, accountID := "acc", namespaceID := "ns", sessionID := "ss", createdAt := 1 }

/-- Three runs wait in a namespace for two, and there are three claims within a minute. -/
def crowded : List Action :=
  [ queue "r2", queue "r3",
    .claimNext (.sample 1) ⟨"acc", "w1", 1, 5, Time.minute⟩ [],
    .claimNext (.sample 1) ⟨"acc", "w2", 2, 5, Time.minute⟩ [],
    .claimNext (.sample 1) ⟨"acc", "w3", 3, 5, Time.minute⟩ []]

/-- Two of the runs are claimed. -/
theorem capacity_kept_crowded : let c := Run.exec Clocked.step ⟨⟨store, []⟩, 0⟩ crowded
    (rows c.sys.store.runs).length = 3 ∧ c.sys.store.activeIn "ns" c.now = 2 ∧
      c.sys.store.Within c.now := by
  have howned : store.Owned := by
    refine ⟨keyed_store, fun id run hrun => ?_, fun id session hsession => ?_⟩
    · rcases lookup_insert_iff.1 hrun with ⟨-, rfl⟩ | ⟨-, hrun⟩
      · intro _ hns
        cases hns
        rfl
      · cases hrun
    · rcases lookup_insert_iff.1 hsession with ⟨-, rfl⟩ | ⟨-, hsession⟩
      · intro _ hns
        cases hns
        rfl
      · cases hsession
  have htimely : Run.Guarded Clocked.step Clocked.Timely ⟨⟨store, []⟩, 0⟩ crowded := by
    refine ⟨nofun, nofun, fun now hnow => ?_, fun now hnow => ?_, fun now hnow => ?_, trivial⟩
    · cases hnow
      decide
    · cases hnow
      decide
    · cases hnow
      decide
  refine ⟨by decide +kernel, by decide +kernel, capacity_kept howned (fun id ns hns => ?_)
    (fun id run hrun => ?_) htimely le_rfl⟩
  · rcases lookup_insert_iff.1 hns with ⟨-, rfl⟩ | ⟨-, hns⟩
    · decide
    · cases hns
  · rcases lookup_insert_iff.1 hrun with ⟨-, rfl⟩ | ⟨-, hrun⟩
    · decide
    · cases hrun

end Sample

end

end Accounts.Tasks

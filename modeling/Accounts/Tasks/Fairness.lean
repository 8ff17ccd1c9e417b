import Accounts.Base.Rotation
import Accounts.Tasks.MemoryEffects
import Mathlib.Data.List.Dedup
import Mathlib.Data.String.Basic

/-!
# The namespaces take turns

A claim takes the runs of an account from its namespaces in turn. The store in memory keeps the
namespace that was served last, and looks for it in the list of those that have a run that is
ready: the next claim goes on from there (`rotated`). A namespace that is served for its last run
leaves this list. Then the next claim starts from the front of the list again, and a namespace far
down waits although others are served twice (`front_is_served_twice`).

If the namespace served last is still in the list, or above all others in it, before every claim
of the account (`Action.InTurn`), the namespaces do take turns: between two claims from a namespace,
every other one that could be served at the claims after the first is served (`claims_fair`).
-/

namespace Accounts.Tasks.Memory

open List Run

variable {s s' : Store}

/-! ## Namespaces that can be served -/

/-- A namespace has a run that is ready, and a place left. -/
def Store.eligible (s : Store) (accountID namespaceID : String) (now : Time) : Bool :=
  decide (namespaceID ∈ s.eligibleNamespaceIDs accountID now) &&
    (s.namespaces.lookup namespaceID).any fun ns =>
      decide ((s.countActiveForNamespace accountID namespaceID : Int) < ns.maxActiveRuns)

variable {id : String} {now : Time}

/-- The namespaces are listed in the order of their identifiers. -/
theorem pairwise_eligibleNamespaceIDs (accountID : String) (now : Time) :
    (s.eligibleNamespaceIDs accountID now).Pairwise (· < ·) := by
  have hnodup : (s.eligibleNamespaceIDs accountID now).Nodup :=
    (perm_insertionSort _ _).nodup_iff.2 ((nodup_dedup _).filter _)
  have hle : (s.eligibleNamespaceIDs accountID now).Pairwise (· ≤ ·) :=
    pairwise_insertionSort _ _
  exact (hle.and hnodup).imp fun h => lt_of_le_of_ne h.1 h.2

theorem isSome_foldl_older {runs : List TaskRun} {first : Option TaskRun}
    (h : first.isSome = true ∨ runs ≠ []) : (runs.foldl older first).isSome = true := by
  induction runs generalizing first with
  | nil => exact h.resolve_right (absurd rfl)
  | cons _ _ ih =>
    refine ih (.inl ?_)
    cases first with
    | none => rfl
    | some =>
      rw [older]
      split_ifs <;> rfl

/-- What can be served has a run to claim. -/
theorem isSome_candidate {accountID : String} (rank : String → Nat)
    (h : s.eligible accountID id now = true) :
    (s.candidate rank accountID now id).isSome = true := by
  rw [Store.eligible, Bool.and_eq_true, decide_eq_true_eq, Store.eligibleNamespaceIDs,
    mem_insertionSort, mem_filter, mem_dedup, mem_map, Option.any_eq_true] at h
  obtain ⟨⟨⟨run, hmem, hid⟩, -⟩, _, hns, hroom⟩ := h
  obtain ⟨hrun, hready⟩ := mem_filter.1 hmem
  rw [Store.candidate, hns]
  dsimp only
  rw [if_neg (not_le.2 (of_decide_eq_true hroom))]
  refine isSome_foldl_older (.inr (ne_nil_of_mem (a := run) ?_))
  rw [mem_filter, Store.visited, mem_insertionSort, hready, hid, beq_self_eq_true]
  exact ⟨hrun, rfl⟩

/-- The run to claim is one of the namespace. -/
theorem candidate_namespaceID {accountID : String} {rank : String → Nat} {run : TaskRun}
    (h : s.candidate rank accountID now id = some run) : run.namespaceID = id := by
  rw [Store.candidate] at h
  split at h
  · cases h
  split_ifs at h
  exact (oldestEligibleRun_ok h).2.2

/-! ## Turns -/

variable {last : String}

/-- The claims go on after the namespace served last, if it is in the list or above it. -/
theorem rotated_turns {ids : List String} (hids : ids.Pairwise (· < ·)) (hne : last ≠ "")
    (hlast : last ∈ ids ∨ ∀ id ∈ ids, id < last) :
    (rotated last ids).Pairwise (fun y b => Rotation.Sooner b last y) ∧
      ∀ id, id ∈ rotated last ids ↔ id ∈ ids := by
  rw [rotated, if_neg hne]
  cases hindex : ids.idxOf? last with
  | none =>
    have habove := hlast.resolve_left (idxOf?_eq_none_iff.1 hindex)
    have hempty : ([] : List String).Pairwise (· < ·) := .nil
    have hturns := Rotation.pairwise_turns hids hempty (fun y hy => (habove y hy).le)
      (fun y hy => absurd hy not_mem_nil)
    exact ⟨hturns, fun id => Iff.rfl⟩
  | some i =>
    obtain ⟨hi, hget, -⟩ := idxOf?_eq_some_iff.1 hindex
    obtain ⟨l, r, rfl, hlength⟩ :
        ∃ l r, ids = (l ++ [last]) ++ r ∧ i + 1 = (l ++ [last]).length := by
      refine ⟨ids.take i, ids.drop (i + 1), ?_, by simp [hi.le]⟩
      rw [append_assoc, singleton_append, ← hget, ← drop_eq_getElem_cons hi,
        take_append_drop]
    dsimp only
    rw [rotate_mod, hlength, rotate_append_length_eq]
    obtain ⟨hl, hr, hlr⟩ := pairwise_append.1 hids
    refine ⟨Rotation.pairwise_turns hl hr (fun y hy => ?_) (fun y hy => ?_), fun id => ?_⟩
    · rcases mem_append.1 hy with hy | hy
      · exact ((pairwise_append.1 hl).2.2 y hy last (mem_singleton_self last)).le
      · exact (mem_singleton.1 hy).le
    · exact hlr last (mem_append_right l (mem_singleton_self last)) y hy
    · rw [mem_append, mem_append (s := l ++ [last]), or_comm]

/-- Before a claim of the account, the namespace served last is in the list of those that have a
    run that is ready, or above it. -/
def Action.InTurn (accountID : String) (s : Store) : Action → Prop
  | .claimNext env input _ => input.accountID = accountID →
    ∀ last, s.lastClaimNamespace.lookup accountID = some last →
      last ∈ s.eligibleNamespaceIDs accountID (claimDefaults env input).now ∨
        ∀ id ∈ s.eligibleNamespaceIDs accountID (claimDefaults env input).now, id < last
  | _ => True

/-- At a claim of the account, a namespace can be served. -/
def Action.Offers (accountID namespaceID : String) (s : Store) : Action → Prop
  | .claimNext env input _ => input.accountID = accountID →
    s.eligible accountID namespaceID (claimDefaults env input).now = true
  | _ => True

section

variable [Unicode] [Wire] {a : Action}

/-- A call that fails serves nothing. -/
theorem served_of_error {e : TaskError} (h : a.call s = .error e) (accountID : String) :
    a.served accountID s = none := by
  cases a with
  | claimNext env input rank =>
    rw [Action.call] at h
    rw [Action.served]
    cases hr : Memory.claimNext env s input rank with
    | error => split_ifs <;> rfl
    | ok =>
      rw [hr] at h
      cases h
  | _ => rfl

/-- The namespace served last is the one of the last claim. -/
theorem lastClaimNamespace_step (s : Store) (a : Action) (accountID : String) :
    (s.step a).lastClaimNamespace.lookup accountID =
      (a.served accountID s).or (s.lastClaimNamespace.lookup accountID) := by
  rw [Store.step]
  split
  · next hcall => exact (effect_of_call hcall).last accountID
  · next hcall => rw [served_of_error hcall, Option.none_or]

theorem named_step (s : Store) (a : Action) (hs : "" ∉ s.namespaces) :
    "" ∉ (s.step a).namespaces := by
  rw [Store.step]
  split
  · next hcall => exact (effect_of_call hcall).named hs
  · exact hs

variable {accountID namespaceID : String}

section

omit [Unicode] [Wire]

/-- A claim that is granted is of the next run of the account. -/
theorem served_eq_some (h : a.served accountID s = some namespaceID) :
    ∃ env input rank run, a = .claimNext env input rank ∧ input.accountID = accountID ∧
      s.nextRun rank accountID (claimDefaults env input).now = some run ∧
      run.namespaceID = namespaceID := by
  cases a with
  | claimNext env input rank =>
    rw [Action.served] at h
    split_ifs at h with haccount
    obtain ⟨r, hr, hid⟩ := Option.map_eq_some_iff.1 h
    obtain ⟨run, -, hnext, hstore⟩ := claimNext_ok (Except.toOption_eq_some.1 hr)
    rw [hstore] at hid
    exact ⟨env, input, rank, run, rfl, haccount, haccount ▸ hnext, hid⟩
  | _ => cases h

/-- A claim serves a namespace whose turn is no later than that of any other that can be served. -/
theorem served_sooner (hserved : a.served accountID s = some namespaceID)
    (hlast : s.lastClaimNamespace.lookup accountID = some last) (hne : last ≠ "")
    (hturn : a.InTurn accountID s) (hoffers : a.Offers accountID id s) :
    Rotation.Sooner id last namespaceID := by
  obtain ⟨env, input, rank, _, rfl, haccount, hnext, rfl⟩ := served_eq_some hserved
  have hid : s.eligible accountID id (claimDefaults env input).now = true := hoffers haccount
  obtain ⟨hturns, hmem⟩ :=
    rotated_turns (pairwise_eligibleNamespaceIDs accountID _) hne (hturn haccount last hlast)
  have hlisted : id ∈ rotated last (s.eligibleNamespaceIDs accountID (claimDefaults env input).now) := by
    rw [hmem]
    rw [Store.eligible, Bool.and_eq_true, decide_eq_true_eq] at hid
    exact hid.1
  rw [Store.nextRun, hlast] at hnext
  obtain ⟨y, -, hy, hsooner⟩ :=
    Rotation.exists_sooner hturns hnext hlisted (isSome_candidate rank hid)
  rwa [candidate_namespaceID hy]

/-- What is served has an identifier. -/
theorem served_ne (hs : "" ∉ s.namespaces) (hserved : a.served accountID s = some namespaceID) :
    namespaceID ≠ "" := by
  obtain ⟨_, _, _, _, -, -, hnext, rfl⟩ := served_eq_some hserved
  obtain ⟨_, -, hcandidate⟩ := exists_of_findSome?_eq_some hnext
  rw [candidate_namespaceID hcandidate]
  rintro rfl
  rw [Store.candidate, AList.lookup_eq_none.2 hs] at hcandidate
  cases hcandidate

end

/-- The namespaces that are served after `last` come in turn, as long as another one can be
    served. -/
theorem isChain_served {as : List Action} (hs : "" ∉ s.namespaces)
    (hlast : s.lastClaimNamespace.lookup accountID = some last) (hne : last ≠ "")
    (hturn : Run.Guarded Store.step (fun s a => a.InTurn accountID s) s as)
    (hoffers : Run.Guarded Store.step (fun s a => (a.served accountID s).isSome = true →
      a.Offers accountID id s) s as) :
    (last :: collect Store.step (fun s a => a.served accountID s) s as).IsChain
      (Rotation.Sooner id) := by
  induction as generalizing s last with
  | nil => exact .singleton last
  | cons a _ ih =>
    have hnext := lastClaimNamespace_step s a accountID
    rw [collect]
    cases hserved : a.served accountID s with
    | none =>
      rw [hserved, hlast] at hnext
      exact ih (named_step s a hs) hnext hne hturn.2 hoffers.2
    | some =>
      rw [hserved] at hnext
      refine isChain_cons_cons.2 ⟨?_, ?_⟩
      · exact served_sooner hserved hlast hne hturn.1 (hoffers.1 (by rw [hserved]; rfl))
      · exact ih (named_step s a hs) hnext (served_ne hs hserved) hturn.2 hoffers.2

/-- If the namespace served last is in the list or above it before every claim of the account, then
    between two claims from a namespace every other one is served, if it can be served at the claims
    after the first. -/
theorem claims_fair (accountID first other : String) (hne : first ≠ other)
    (before between : List Action) (a a' : Action)
    (hturn : Run.Guarded Store.step (fun s a => a.InTurn accountID s) Store.init
      (before ++ a :: (between ++ [a'])))
    (ha : a.served accountID (exec Store.step Store.init before) = some first)
    (ha' : a'.served accountID (exec Store.step Store.init (before ++ a :: between)) = some first)
    (hoffers : Run.Guarded Store.step (fun s a => (a.served accountID s).isSome = true →
      a.Offers accountID other s) (exec Store.step Store.init (before ++ [a]))
      (between ++ [a'])) :
    other ∈ collect Store.step (fun s a => a.served accountID s)
      (exec Store.step Store.init (before ++ [a])) between := by
  by_contra hother
  have hs : "" ∉ (exec Store.step Store.init before).namespaces :=
    exec_induction (P := fun s : Store => "" ∉ s.namespaces) named_step not_mem_nil before
  have hlast := lastClaimNamespace_step (exec Store.step Store.init before) a accountID
  have hlater := (Run.Guarded.append_iff.1 hturn).2.2
  rw [ha] at hlast
  rw [exec_append, exec_cons] at ha' hoffers hother
  have hchain := isChain_served (named_step _ a hs) hlast (served_ne hs ha) hlater hoffers
  rw [collect_append, collect, ha'] at hchain
  -- Nobody but `first` is served by the second claim, so `other` waits all the time.
  refine Rotation.notMem_of_isChain hne hchain (fun hmem => ?_) (by simp)
  rcases mem_append.1 hmem with hmem | hmem
  · exact hother hmem
  · exact hne (mem_singleton.1 hmem).symm

end

namespace Sample

local instance fairnessUnicode : Unicode := Unicode.ascii
local instance fairnessWire : Wire := ⟨fun _ => "", length, length⟩

/-- A namespace with a session, both with the same identifier. -/
def namespaced (id : String) : List Action :=
  [ .createNamespace ⟨id, "acc", id, 0⟩,
    .createSession (.sample 1) { id := id, accountID := "acc", namespaceID := id }]

/-- A run that is queued in a namespace. -/
def queue (id namespaceID : String) : Action :=
  .enqueueTaskRun (.sample 1)
    { id := id, accountID := "acc", namespaceID := namespaceID, sessionID := namespaceID }

/-- A claim of the account. -/
def claim (time : Time) : Action :=
  .claimNext (.sample time) { accountID := "acc", workerID := "w", now := time } fun _ => 0

/-- Two runs in the first of three namespaces, and one in each of the others. -/
def threeQueued : List Action :=
  namespaced "a" ++ namespaced "b" ++ namespaced "c" ++
    [queue "r1" "a", queue "r2" "a", queue "r3" "b", queue "r4" "c"]

/-- The namespace in front is served twice while the last one waits. -/
theorem front_is_served_twice : collect Store.step (fun s a => a.served "acc" s) Store.init
        (threeQueued ++ [claim 1, claim 2, claim 3]) = ["a", "b", "a"] ∧
      Run.Guarded Store.step (fun s a => a.Offers "acc" "c" s)
        (exec Store.step Store.init threeQueued) [claim 1, claim 2, claim 3] := by
  refine ⟨by decide +kernel, fun _ => ?_, fun _ => ?_, fun _ => ?_, trivial⟩
  · decide +kernel
  · decide +kernel
  · decide +kernel

/-- Two runs in each of two namespaces. -/
def twoQueued : List Action :=
  namespaced "a" ++ namespaced "c" ++
    [queue "r1" "a", queue "r2" "a", queue "r3" "c", queue "r4" "c"]

/-- The second one is served between two claims from the first. -/
theorem claims_fair_two : "c" ∈ collect Store.step (fun s a => a.served "acc" s)
      (exec Store.step Store.init (twoQueued ++ [claim 1])) [claim 2] := by
  have hturn : Run.Guarded Store.step (fun s a => a.InTurn "acc" s) Store.init
      (twoQueued ++ claim 1 :: ([claim 2] ++ [claim 3])) := by
    refine Run.Guarded.append_iff.2 ⟨?_, fun _ last hlast => ?_, fun _ last hlast => ?_,
      fun _ last hlast => ?_, trivial⟩
    · simp [twoQueued, namespaced, queue, Run.Guarded, Action.InTurn]
    · cases hlast
    · have hfirst : ((exec Store.step Store.init twoQueued).step
        (claim 1)).lastClaimNamespace.lookup "acc" = some "a" := by decide +kernel
      cases hfirst.symm.trans hlast
      exact .inl (by decide +kernel)
    · have hsecond : (((exec Store.step Store.init twoQueued).step (claim 1)).step
        (claim 2)).lastClaimNamespace.lookup "acc" = some "c" := by decide +kernel
      cases hsecond.symm.trans hlast
      exact .inl (by decide +kernel)
  refine claims_fair "acc" "a" "c" (by decide) twoQueued [claim 2] (claim 1) (claim 3) hturn
    ?_ ?_ ?_
  · decide +kernel
  · decide +kernel
  · refine ⟨fun _ _ => ?_, fun _ _ => ?_, trivial⟩
    · decide +kernel
    · decide +kernel

end Sample

end Accounts.Tasks.Memory

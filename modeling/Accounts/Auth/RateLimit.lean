import Accounts.Base.Run
import Accounts.Base.Table
import Accounts.Base.World

/-!
# The rate limiter

A counter of calls per key, in fixed windows (`internal/auth/ratelimit.go`). The first call of a key
opens a window, which allows `limit` calls, and the first call after its end opens the next one. A
limiter without a limit or a window, and a call without a key, are not limited. Windows that are
over may be swept away at any call; what a key is allowed does not depend on it (`Kept.step`).
-/

namespace Accounts.RateLimit

open AList List

structure RateWindow where
  count : Int
  endAt : Time

structure RateLimiter where
  limit : Int
  window : Int
  hits : Table String RateWindow

/-- The windows without up to 512 of those that are over, met in the order of iteration. -/
def sweep (hits : Table String RateWindow) (order : List String) (now : Time) :
    Table String RateWindow :=
  let ended := order.filter fun key => (hits.lookup key).any fun w => w.endAt < now
  Table.filter (fun key _ => key ∉ ended.take 512) hits

/-- A call of a key (`RateLimiter.Allow`). -/
def RateLimiter.allow (r : RateLimiter) (order : List String) (now : Time) (key : String) :
    RateLimiter × Bool :=
  if r.limit ≤ 0 ∨ r.window ≤ 0 ∨ key = "" then (r, true) else
  let hits := if 4096 < r.hits.keys.length then sweep r.hits order now else r.hits
  match (hits.lookup key).filter fun w => now ≤ w.endAt with
  | none => ({ r with hits := hits.insert key ⟨1, now + r.window⟩ }, true)
  | some w =>
    if r.limit ≤ w.count then ({ r with hits := hits }, false)
    else ({ r with hits := hits.insert key { w with count := w.count + 1 } }, true)

/-- A window that is not over is not swept away. -/
theorem lookup_sweep {hits : Table String RateWindow} {now : Time} {key : String} {w : RateWindow}
    (h : hits.lookup key = some w) (hrunning : now ≤ w.endAt) (order : List String) :
    (sweep hits order now).lookup key = some w := by
  refine Table.lookup_filter.2 ⟨h, decide_eq_true fun hmem => ?_⟩
  have hover := (mem_filter.1 (mem_of_mem_take hmem)).2
  simp [h, not_lt.2 hrunning] at hover

/-! ## The calls that are allowed -/

/-- A call that was allowed, with the end of the window it was counted in. -/
structure Admission where
  time : Time
  endAt : Time

/-- A limiter, with the calls of a key that it has allowed. -/
structure Watch where
  hits : Table String RateWindow := ∅
  clock : Time
  log : List Admission := []

structure Call where
  order : List String := []
  now : Time
  key : String

variable {limit window : Int} {key : String} {log : List Admission} {now : Time}

/-- A call of a limiter, whose limit and window do not change. -/
def Watch.step (limit window : Int) (key : String) (s : Watch) (call : Call) : Watch :=
  let r := RateLimiter.allow ⟨limit, window, s.hits⟩ call.order call.now call.key
  { hits := r.1.hits
    clock := call.now
    log := if call.key = key ∧ r.2 then
        ⟨call.now, (r.1.hits.lookup key).elim call.now (·.endAt)⟩ :: s.log
      else s.log }

/-- Calls counted in windows that do not overlap, `limit` at most in each. -/
structure Spaced (limit window : Int) (log : List Admission) : Prop where
  inside : ∀ a ∈ log, a.endAt ≤ a.time + window ∧ a.time ≤ a.endAt
  apart : ∀ a ∈ log, ∀ b ∈ log, a.endAt < b.endAt → a.endAt + window < b.endAt
  limited : ∀ e, log.countP (·.endAt = e) ≤ limit

/-- The window of a key after the calls of a log; one that is over may be missing. -/
def Current (window : Int) (log : List Admission) (clock : Time) : Option RateWindow → Prop
  | none => ∀ a ∈ log, a.endAt < clock
  | some w => (∀ a ∈ log, a.endAt = w.endAt ∨ a.endAt + window < w.endAt) ∧
      log.countP (·.endAt = w.endAt) = w.count ∧ w.endAt ≤ clock + window

/-- What the calls keep. -/
structure Kept (limit window : Int) (key : String) (s : Watch) : Prop where
  spaced : Spaced limit window s.log
  current : Current window s.log s.clock (s.hits.lookup key)

section

variable (hlimit : 0 < limit)

include hlimit

theorem Spaced.countP_le (h : Spaced limit window log) {p : Admission → Bool}
    (hp : ∀ a ∈ log, ∀ b ∈ log, p a → p b → a.endAt = b.endAt) : log.countP p ≤ limit := by
  by_cases hnone : ∃ a ∈ log, p a
  · obtain ⟨a, ha, hpa⟩ := hnone
    refine le_trans (Int.ofNat_le.2 (countP_mono_left fun b hb hpb => ?_)) (h.limited a.endAt)
    exact decide_eq_true (hp b hb a ha hpb hpa)
  · rw [countP_eq_zero.2 fun a ha hpa => hnone ⟨a, ha, hpa⟩]
    exact hlimit.le

/-- At most two windows meet an interval of their length. -/
theorem Spaced.countP_interval_le (h : Spaced limit window log) (t : Time) :
    log.countP (fun a => t ≤ a.time ∧ a.time ≤ t + window) ≤ 2 * limit := by
  obtain ⟨hinside, hapart, -⟩ := id h
  -- The windows that end in the interval are one, and so are those that end after it.
  rw [countP_eq_countP_filter_add _ _ fun a => a.endAt ≤ t + window, countP_filter, countP_filter]
  have hfirst := h.countP_le hlimit
    (p := fun a => decide (t ≤ a.time ∧ a.time ≤ t + window) && decide (a.endAt ≤ t + window))
    (by grind)
  have hsecond := h.countP_le hlimit
    (p := fun a => decide (t ≤ a.time ∧ a.time ≤ t + window) && !decide (a.endAt ≤ t + window))
    (by grind)
  omega

end

variable (hwindow : 0 < window)

include hwindow

/-- At a later time, with the window of the key if it is not over. -/
theorem Current.later {clock : Time} {x y : Option RateWindow} (h : Current window log clock x)
    (hclock : clock ≤ now) (hrunning : ∀ w, x = some w → now ≤ w.endAt → y = some w)
    (hy : ∀ w, y = some w → x = some w) : Current window log now y := by
  cases y with
  | none => cases x <;> grind [Current]
  | some w =>
    obtain rfl := hy w rfl
    exact ⟨h.1, h.2.1, h.2.2.trans (add_le_add_left hclock _)⟩

/-- A call counted in the window `w`. -/
theorem Kept.count {hits : Table String RateWindow} {w : RateWindow}
    (h : Spaced limit window log)
    (hold : ∀ a ∈ log, a.endAt = w.endAt ∨ a.endAt + window < w.endAt)
    (hcount : log.countP (·.endAt = w.endAt) + 1 = w.count) (hlimit : w.count ≤ limit)
    (hend : w.endAt ≤ now + window ∧ now ≤ w.endAt) :
    Kept limit window key ⟨hits.insert key w, now, ⟨now, w.endAt⟩ :: log⟩ := by
  obtain ⟨hinside, hapart, hlimited⟩ := h
  refine ⟨⟨forall_mem_cons.2 ⟨hend, hinside⟩, by grind, fun e => ?_⟩, ?_⟩
  · have := hlimited e
    rw [countP_cons]
    grind
  · rw [lookup_insert]
    exact ⟨forall_mem_cons.2 ⟨.inl rfl, hold⟩, by simpa using hcount, hend.1⟩

theorem Kept.step (hlimit : 0 < limit) (hkey : key ≠ "") {s : Watch} {call : Call}
    (hclock : s.clock ≤ call.now) (h : Kept limit window key s) :
    Kept limit window key (s.step limit window key call) := by
  obtain ⟨hits, clock, log⟩ := s
  obtain ⟨order, now, k⟩ := call
  obtain ⟨hspaced, hcurrent⟩ := h
  by_cases hfree : k = ""
  · simp only [Watch.step, RateLimiter.allow, hfree, or_true, if_true, hkey.symm, false_and, if_false]
    exact ⟨hspaced, hcurrent.later hwindow hclock (fun _ h _ => h) fun _ => id⟩
  simp only [Watch.step, RateLimiter.allow, hfree, not_le.2 hlimit, not_le.2 hwindow, or_self,
    if_false]
  generalize hswept : (if 4096 < hits.keys.length then sweep hits order now else hits) = swept
  have hfound := hcurrent.later (y := swept.lookup key) hwindow hclock (by grind [lookup_sweep])
    (by grind [sweep, Table.lookup_filter])
  by_cases hk : k = key
  · subst hk
    have hrunning := hfound.later (y := (swept.lookup k).filter fun w => now ≤ w.endAt) hwindow
      le_rfl (by grind) fun w h => (Option.filter_eq_some_iff.1 h).1
    split
    next hx =>
      rw [hx] at hrunning
      have hover (a) (ha : a ∈ log) : a.endAt < now := hrunning a ha
      have hnew : log.countP (·.endAt = now + window) = 0 := countP_eq_zero.2 (by grind)
      simp only [lookup_insert, and_self, if_true, Option.elim]
      exact .count (w := ⟨1, now + window⟩) hwindow hspaced (by grind) (by simp [hnew]) hlimit
        ⟨le_rfl, by grind⟩
    next w hx =>
      have hle := of_decide_eq_true (Option.filter_eq_some_iff.1 hx).2
      rw [hx] at hrunning
      by_cases hfull : limit ≤ w.count
      · simp only [if_pos hfull, Bool.false_eq_true, and_false, if_false]
        exact ⟨hspaced, hfound⟩
      · simp only [if_neg hfull, lookup_insert, and_self, if_true, Option.elim]
        exact .count (w := { w with count := w.count + 1 }) hwindow hspaced hrunning.1
          (by rw [hrunning.2.1]) (not_le.1 hfull) ⟨hrunning.2.2, hle⟩
  · -- The call of another key leaves the window.
    simp only [hk, false_and, if_false]
    refine ⟨hspaced, ?_⟩
    split
    · rwa [lookup_insert_ne (Ne.symm hk)]
    · split_ifs
      · exact hfound
      · rwa [lookup_insert_ne (Ne.symm hk)]

omit hwindow

/-- A limiter with a limit and a window allows a key `limit` calls in each of its windows and
    twice as many in any interval of their length, and keeps the windows that are not over. -/
theorem calls_limited (hlimit : 0 < limit) (hwindow : 0 < window) (hkey : key ≠ "") {clock : Time}
    {calls : List Call} (hcalls : Run.Guarded (Watch.step limit window key)
      (fun s call => s.clock ≤ call.now) { clock := clock } calls) :
    let log := (Run.exec (Watch.step limit window key) { clock := clock } calls).log
    (∀ e, log.countP (·.endAt = e) ≤ limit) ∧
      (∀ t, log.countP (fun a => t ≤ a.time ∧ a.time ≤ t + window) ≤ 2 * limit) ∧
      ∀ (hits : Table String RateWindow) order now k w, hits.lookup k = some w → now ≤ w.endAt →
        (sweep hits order now).lookup k = some w := by
  have hstart : Kept limit window key { clock := clock } :=
    ⟨⟨nofun, nofun, fun _ => hlimit.le⟩, nofun⟩
  have h := (hcalls.exec_induction (fun s call => Kept.step hwindow hlimit hkey) hstart).spaced
  exact ⟨h.limited, h.countP_interval_le hlimit,
    fun hits order now k w hk hrunning => lookup_sweep hk hrunning order⟩

/-- Calls in two windows. -/
theorem calls_limited_twice :
    ((Run.exec (Watch.step 1 2 "a") { clock := 0 } [{ now := 0, key := "a" },
      { now := 2, key := "a" }, { now := 3, key := "a" }]).log.countP
        (fun a => 1 ≤ a.time ∧ a.time ≤ 1 + 2) : Int) ≤ 2 * 1 :=
  (calls_limited (by decide) (by decide) (by decide) (by decide)).2.1 1

/-- Calls without a key are not limited. -/
theorem empty_key_is_unlimited :
    ¬ (Run.exec (Watch.step 1 2 "") { clock := 0 } [{ now := 0, key := "" },
      { now := 0, key := "" }, { now := 0, key := "" }]).log.countP
        (fun a => 0 ≤ a.time ∧ a.time ≤ 0 + 2) ≤ 2 * 1 := by
  decide

end Accounts.RateLimit

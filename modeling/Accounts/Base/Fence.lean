import Accounts.Base.Run
import Mathlib.Algebra.Order.Group.Int

/-!
# Attempts fenced by a shared record

A task has an action that must not happen twice, although its outcome may stay
unknown: the workers that try it may stall anywhere, crash, or overtake each
other. They share a *record*, which holds the number of the last attempt and a
mark that the action may have been started.

* A worker *claims* the task: it takes the next number, and learns from the mark
  whether an earlier attempt may have acted.
* Only a worker that knows that none has can *arm* itself: it sets the mark, on
  condition that its number is still the last one (the fence). Then it may act.
* At the end it writes back what it knows, on the same condition.

However the steps interleave, the action happens at most once
(`Safe.acts_le_one`): whoever acts has set the mark before, every later claim
sees the mark, and every earlier one is behind the fence.
-/

namespace Fence

open Function

/-- An attempt, as its worker holds it. -/
structure Attempt where
  /-- Its number. -/
  number : Int
  /-- An earlier attempt, or this one, may have acted. -/
  mayHaveActed : Bool
  /-- It is past the fence, and about to act. -/
  armed : Bool

/-- What the attempts share: the number of the last one, and the mark that the
    action may have been started. -/
structure Record where
  last : Int
  started : Bool

/-- A task: the record, when there is one, the attempts of the workers, and how
    often the action happened. -/
structure Task (W : Type*) where
  record : Option Record
  attempts : W → Option Attempt
  acts : Nat

variable {W : Type*} [DecidableEq W]

/-- A step of the task, as some worker takes it. -/
inductive Step (t : Task W) : Task W → Prop
  /-- Nothing changes. -/
  | stutter : Step t t
  /-- A worker takes a number past the last one, and heeds the mark. -/
  | claim (w : W) (n : Int) (may : Bool) (hlast : ∀ r ∈ t.record, r.last < n)
      (hmay : ∀ r ∈ t.record, r.started = true → may = true) :
      Step t { t with
        record := some ⟨n, (t.record.map Record.started).getD false⟩
        attempts := Function.update t.attempts w (some ⟨n, may, false⟩) }
  /-- A worker with the last number, which knows that none has acted, sets the mark. -/
  | arm (w : W) (n : Int) (b : Bool) (ha : t.attempts w = some ⟨n, false, false⟩)
      (hr : t.record = some ⟨n, b⟩) :
      Step t { t with
        record := some ⟨n, true⟩
        attempts := Function.update t.attempts w (some ⟨n, true, true⟩) }
  /-- A worker that is armed acts. -/
  | act (w : W) (a : Attempt) (ha : t.attempts w = some a) (harmed : a.armed = true) :
      Step t { t with
        attempts := Function.update t.attempts w (some { a with armed := false })
        acts := t.acts + 1 }
  /-- A worker goes on without acting; it may become more careful. -/
  | hold (w : W) (a : Attempt) (may : Bool) (ha : t.attempts w = some a)
      (hmay : a.mayHaveActed = true → may = true) :
      Step t { t with
        attempts := Function.update t.attempts w (some ⟨a.number, may, false⟩) }
  /-- A worker with the last number writes back what it knows, and ends. -/
  | finish (w : W) (a : Attempt) (b : Bool) (ha : t.attempts w = some a)
      (hr : t.record = some ⟨a.number, b⟩) :
      Step t { t with
        record := some ⟨a.number, a.mayHaveActed⟩
        attempts := Function.update t.attempts w none }
  /-- A worker ends. -/
  | drop (w : W) : Step t { t with attempts := Function.update t.attempts w none }

/-- The invariant of a task. -/
structure Safe (t : Task W) : Prop where
  /-- No number is past the last one. -/
  bounded : ∀ {w a}, t.attempts w = some a → ∃ r ∈ t.record, a.number ≤ r.last
  /-- No two workers have one number. -/
  distinct : ∀ {w w' a a'}, t.attempts w = some a → t.attempts w' = some a' →
    a.number = a'.number → w = w'
  /-- A worker that is about to act knows so. -/
  careful : ∀ {w a}, t.attempts w = some a → a.armed = true → a.mayHaveActed = true
  /-- A worker that is about to act is the only one, and none has acted. -/
  alone : ∀ {w a}, t.attempts w = some a → a.armed = true →
    t.acts = 0 ∧ ∀ {w' a'}, t.attempts w' = some a' → a'.armed = true → w' = w
  /-- The mark is set before anyone can act. -/
  marked : (t.acts ≠ 0 ∨ ∃ w a, t.attempts w = some a ∧ a.armed = true) →
    ∃ r ∈ t.record, r.started = true
  /-- The worker with the last number is right when it thinks that none has acted. -/
  current : ∀ {w a r}, t.attempts w = some a → a.mayHaveActed = false → t.record = some r →
    r.last = a.number → t.acts = 0 ∧ ∀ {w' a'}, t.attempts w' = some a' → a'.armed = false
  /-- The action happened at most once. -/
  acts_le_one : t.acts ≤ 1

omit [DecidableEq W] in
/-- A task nobody has tried. -/
theorem Safe.init : Safe (⟨none, fun _ => none, 0⟩ : Task W) where
  bounded h := by cases h
  distinct h := by cases h
  careful h := by cases h
  alone h := by cases h
  marked h := by simp at h
  current h := by cases h
  acts_le_one := Nat.zero_le 1

/-! ## Every step keeps a task safe -/

namespace Safe

variable {t t' : Task W}

section

variable {f : W → Option Attempt} {w : W} {x : Option Attempt} {a : Attempt}

/-- The attempts after a worker changed its own. -/
theorem update_eq_some {w' : W} :
    Function.update f w x w' = some a ↔ (w' = w ∧ x = some a) ∨ (w' ≠ w ∧ f w' = some a) := by
  by_cases h : w' = w
  · subst h
    simp
  · simp [h]

/-- Who is armed after a worker that is not changed its attempt was so before. -/
theorem of_armed {v : W} (hx : ∀ a' ∈ x, a'.armed = false) (hv : Function.update f w x v = some a)
    (harmed : a.armed = true) : f v = some a := by
  rcases update_eq_some.1 hv with ⟨-, rfl⟩ | ⟨-, hv⟩
  · rw [hx a rfl] at harmed
    cases harmed
  · exact hv

end

/-- Ending, or holding on without being armed, does no harm. -/
theorem unarmed (h : Safe t) {w : W} {x : Option Attempt}
    (hx : ∀ a' ∈ x, a'.armed = false ∧ ∃ a, t.attempts w = some a ∧ a.number = a'.number ∧
      (a.mayHaveActed = true → a'.mayHaveActed = true)) :
    Safe { t with attempts := Function.update t.attempts w x } where
  bounded hw := by
    rcases update_eq_some.1 hw with ⟨rfl, rfl⟩ | ⟨-, hw⟩
    · obtain ⟨-, a, ha, hn, -⟩ := hx _ rfl
      exact hn ▸ h.bounded ha
    · exact h.bounded hw
  distinct hw hw' hn := by
    rcases update_eq_some.1 hw with ⟨rfl, rfl⟩ | ⟨-, hv⟩ <;>
      rcases update_eq_some.1 hw' with ⟨rfl, hx'⟩ | ⟨-, hv'⟩
    · rfl
    · obtain ⟨-, a, ha, hna, -⟩ := hx _ rfl
      exact h.distinct ha hv' (hna.trans hn)
    · obtain ⟨-, a, ha, hna, -⟩ := hx _ hx'
      exact h.distinct hv ha (hn.trans hna.symm)
    · exact h.distinct hv hv' hn
  careful hw harmed := h.careful (of_armed (fun a ha => (hx a ha).1) hw harmed) harmed
  alone hw harmed := by
    have hall := h.alone (of_armed (fun a ha => (hx a ha).1) hw harmed) harmed
    exact ⟨hall.1, fun hw' harmed' =>
      hall.2 (of_armed (fun a ha => (hx a ha).1) hw' harmed') harmed'⟩
  marked hacts := by
    refine h.marked (hacts.imp_right ?_)
    rintro ⟨v, a, hv, harmed⟩
    exact ⟨v, a, of_armed (fun a ha => (hx a ha).1) hv harmed, harmed⟩
  current hw hmay hr hlast := by
    have hold : t.acts = 0 ∧ ∀ {w' a'}, t.attempts w' = some a' → a'.armed = false := by
      rcases update_eq_some.1 hw with ⟨rfl, rfl⟩ | ⟨-, hw⟩
      · obtain ⟨-, a, ha, hn, hle⟩ := hx _ rfl
        refine h.current ha ?_ hr (hlast.trans hn.symm)
        by_contra hne
        rw [hle (by simpa using hne)] at hmay
        cases hmay
      · exact h.current hw hmay hr hlast
    refine ⟨hold.1, fun hw' => ?_⟩
    rcases update_eq_some.1 hw' with ⟨-, rfl⟩ | ⟨-, hw'⟩
    · exact (hx _ rfl).1
    · exact hold.2 hw'
  acts_le_one := h.acts_le_one

variable (h : Safe t)

include h

/-- A claim: the mark tells the new attempt what it must know. -/
theorem claim {w : W} {n : Int} {may : Bool} (hlast : ∀ r ∈ t.record, r.last < n)
    (hmay : ∀ r ∈ t.record, r.started = true → may = true) :
    Safe { t with
      record := some ⟨n, (t.record.map Record.started).getD false⟩
      attempts := update t.attempts w (some ⟨n, may, false⟩) } := by
  -- The numbers of the other attempts are behind.
  have hbehind : ∀ {v a}, t.attempts v = some a → a.number < n := fun hv => by
    obtain ⟨r, hr, hle⟩ := h.bounded hv
    exact lt_of_le_of_lt hle (hlast r hr)
  have hunarmed : ∀ a ∈ some (Attempt.mk n may false), a.armed = false := by
    rintro _ ⟨⟩
    rfl
  constructor
  case bounded =>
    intro v a hv
    refine ⟨_, rfl, ?_⟩
    rcases update_eq_some.1 hv with ⟨-, he⟩ | ⟨-, hv⟩
    · cases he
      exact le_refl n
    · exact le_of_lt (hbehind hv)
  case distinct =>
    intro v _ a _ hv hv' hn
    rcases update_eq_some.1 hv with ⟨rfl, he⟩ | ⟨-, hold⟩ <;>
      rcases update_eq_some.1 hv' with ⟨rfl, he'⟩ | ⟨-, hold'⟩
    · rfl
    · cases he
      exact absurd hn.symm (ne_of_lt (hbehind hold'))
    · cases he'
      exact absurd hn (ne_of_lt (hbehind hold))
    · exact h.distinct hold hold' hn
  case careful => exact fun hv harmed => h.careful (of_armed hunarmed hv harmed) harmed
  case alone =>
    intro v a hv harmed
    have hall := h.alone (of_armed hunarmed hv harmed) harmed
    exact ⟨hall.1, fun hv' harmed' => hall.2 (of_armed hunarmed hv' harmed') harmed'⟩
  case marked =>
    intro hacts
    obtain ⟨r, hr, hstarted⟩ := h.marked (hacts.imp_right fun ⟨v, a, hv, harmed⟩ =>
      ⟨v, a, of_armed hunarmed hv harmed, harmed⟩)
    exact ⟨_, rfl, by simp [Option.mem_def.1 hr, hstarted]⟩
  case current =>
    intro v a r hv hno hr heq
    cases hr
    rcases update_eq_some.1 hv with ⟨-, he⟩ | ⟨-, hv⟩
    · -- The new attempt saw no mark, so nobody acted and nobody is about to.
      cases he
      have hunmarked : ¬ ∃ r ∈ t.record, r.started = true := by
        rintro ⟨r, hr, hstarted⟩
        exact absurd hno (by simp [hmay r hr hstarted])
      have hnone := mt h.marked hunmarked
      rw [not_or, not_not] at hnone
      refine ⟨hnone.1, fun {v' a'} hv' => ?_⟩
      rcases update_eq_some.1 hv' with ⟨-, he⟩ | ⟨-, hv'⟩
      · cases he
        rfl
      · exact Bool.eq_false_iff.2 fun harmed => hnone.2 ⟨v', a', hv', harmed⟩
    · exact absurd heq.symm (ne_of_lt (hbehind hv))
  case acts_le_one => exact h.acts_le_one

/-- Arming: only the worker with the last number can, and only when none has acted. -/
theorem arm {w : W} {n : Int} {b : Bool} (ha : t.attempts w = some ⟨n, false, false⟩)
    (hr : t.record = some ⟨n, b⟩) :
    Safe { t with
      record := some ⟨n, true⟩
      attempts := update t.attempts w (some ⟨n, true, true⟩) } := by
  have hnone : t.acts = 0 ∧ ∀ {w' a'}, t.attempts w' = some a' → a'.armed = false :=
    h.current ha rfl hr rfl
  constructor
  case bounded =>
    intro v a hv
    refine ⟨_, rfl, ?_⟩
    rcases update_eq_some.1 hv with ⟨-, he⟩ | ⟨-, hv⟩
    · cases he
      exact le_refl n
    · obtain ⟨r, hmem, hle⟩ := h.bounded hv
      rw [hr] at hmem
      cases hmem
      exact hle
  case distinct =>
    intro v _ a _ hv hv' hn
    rcases update_eq_some.1 hv with ⟨rfl, he⟩ | ⟨-, hold⟩ <;>
      rcases update_eq_some.1 hv' with ⟨rfl, he'⟩ | ⟨-, hold'⟩
    · rfl
    · cases he
      exact h.distinct ha hold' hn
    · cases he'
      exact h.distinct hold ha hn
    · exact h.distinct hold hold' hn
  case careful =>
    intro v a hv harmed
    rcases update_eq_some.1 hv with ⟨-, he⟩ | ⟨-, hv⟩
    · cases he
      rfl
    · exact h.careful hv harmed
  case alone =>
    intro v a hv harmed
    refine ⟨hnone.1, fun hv' harmed' => ?_⟩
    have honly : ∀ {v a}, update t.attempts w (some ⟨n, true, true⟩) v = some a →
        a.armed = true → v = w := fun hv harmed => by
      rcases update_eq_some.1 hv with ⟨rfl, -⟩ | ⟨-, hv⟩
      · rfl
      · rw [hnone.2 hv] at harmed
        cases harmed
    exact (honly hv' harmed').trans (honly hv harmed).symm
  case marked => exact fun _ => ⟨_, rfl, rfl⟩
  case current =>
    intro v a r hv hno hr' heq
    cases hr'
    rcases update_eq_some.1 hv with ⟨-, he⟩ | ⟨hne, hv⟩
    · cases he
      cases hno
    · exact absurd (h.distinct hv ha heq.symm) hne
  case acts_le_one => exact h.acts_le_one

section

variable {w : W} {a : Attempt} (ha : t.attempts w = some a)

include ha

/-- Acting: the worker is the only one about to, and the first. -/
theorem act (harmed : a.armed = true) :
    Safe { t with
      attempts := update t.attempts w (some { a with armed := false })
      acts := t.acts + 1 } := by
  have hzero : t.acts = 0 := (h.alone ha harmed).1
  have hunarmed : ∀ {v b}, update t.attempts w (some { a with armed := false }) v =
      some b → b.armed = false := fun {v b} hv => by
    rcases update_eq_some.1 hv with ⟨-, he⟩ | ⟨hne, hv⟩
    · cases he
      rfl
    · exact Bool.eq_false_iff.2 fun hb => hne ((h.alone ha harmed).2 hv hb)
  -- As far as the attempts go, it is as if the worker had not been armed.
  have hsafe := h.unarmed (x := some { a with armed := false }) (w := w) fun a' ha' => by
    cases ha'
    exact ⟨rfl, a, ha, rfl, id⟩
  constructor
  case bounded => exact hsafe.bounded
  case distinct => exact hsafe.distinct
  case careful => exact hsafe.careful
  case alone =>
    intro v b hv hb
    rw [hunarmed hv] at hb
    cases hb
  case marked => exact fun _ => h.marked (.inr ⟨w, a, ha, harmed⟩)
  case current =>
    intro v b r hv hno hr heq
    -- A worker with the last number that thinks nobody acted would know of none
    -- that is about to.
    rcases update_eq_some.1 hv with ⟨-, he⟩ | ⟨-, hv⟩
    · cases he
      rw [h.careful ha harmed] at hno
      cases hno
    · rw [(h.current hv hno hr heq).2 ha] at harmed
      cases harmed
  case acts_le_one => exact le_of_eq (congrArg (· + 1) hzero)

/-- Finishing: what is written back is what the worker with the last number knows. -/
theorem finish {b : Bool} (hr : t.record = some ⟨a.number, b⟩) :
    Safe { t with
      record := some ⟨a.number, a.mayHaveActed⟩
      attempts := update t.attempts w none } := by
  have hsafe := h.unarmed (x := none) (w := w) (by simp)
  constructor
  case bounded =>
    intro v c hv
    obtain ⟨r, hmem, hle⟩ := hsafe.bounded hv
    rw [hr] at hmem
    cases hmem
    exact ⟨_, rfl, hle⟩
  case distinct => exact hsafe.distinct
  case careful => exact hsafe.careful
  case alone => exact hsafe.alone
  case marked =>
    intro hacts
    by_contra hno
    have hnone := h.current ha (by simpa using hno) hr rfl
    rcases hacts with hacts | ⟨v, c, hv, hc⟩
    · exact hacts hnone.1
    · rcases update_eq_some.1 hv with ⟨-, he⟩ | ⟨-, hv⟩
      · cases he
      rw [hnone.2 hv] at hc
      cases hc
  case current =>
    intro v c r hv hno hr' heq
    cases hr'
    exact hsafe.current hv hno hr heq
  case acts_le_one => exact h.acts_le_one

end

/-- A step keeps a task safe. -/
theorem step (hstep : Step t t') : Safe t' := by
  cases hstep with
  | stutter => exact h
  | claim w n _ hlast hmay => exact h.claim hlast hmay
  | arm w n b ha hr => exact h.arm ha hr
  | act w a ha harmed => exact h.act ha harmed
  | hold w a _ ha hmay =>
    refine h.unarmed fun a' ha' => ?_
    cases ha'
    exact ⟨rfl, a, ha, rfl, hmay⟩
  | finish w a b ha hr => exact h.finish ha hr
  | drop => exact h.unarmed (by simp)

end Safe

end Fence

import Mathlib.Tactic.TypeStar

/-!
# Checks

A call that may be refused is a chain of checks, `if p then .error e else ...`,
and a result. It succeeds when none of the checks refuses it
(`guard_ok`): a successful call is taken apart into the conditions it
checked and its result.
-/

namespace Except

universe u

variable {ε α β : Type*}

section

variable {x : Except ε α}

/-- A check that does not refuse. -/
theorem guard_ok {p : Prop} [Decidable p] {e : ε} {a : α} :
    (if p then .error e else x) = .ok a ↔ ¬ p ∧ x = .ok a := by
  by_cases h : p <;> simp [h]

theorem map_eq_ok {f : α → β} {b : β} : x.map f = .ok b ↔ ∃ a, x = .ok a ∧ f a = b := by
  cases x <;> simp [Except.map]

theorem toOption_eq_some {a : α} : x.toOption = some a ↔ x = .ok a := by
  cases x <;> simp [Except.toOption]

end

/-- A computation in two parts succeeds when both do. -/
theorem bind_eq_ok {α β : Type u} {x : Except ε α} {f : α → Except ε β} {b : β} :
    (x >>= f) = .ok b ↔ ∃ a, x = .ok a ∧ f a = .ok b := by
  cases x with
  | error =>
    constructor
    · intro h
      cases h
    · rintro ⟨a, ⟨⟩, -⟩
  | ok a =>
    constructor
    · exact fun h => ⟨a, rfl, h⟩
    · rintro ⟨_, ⟨⟩, hf⟩
      exact hf

end Except

import Mathlib.Data.List.Chain
import Mathlib.Data.List.Rotate
import Mathlib.Order.Circular

/-!
# Taking turns

Items of a linear order take turns: after `x` comes the next one above it, and after the last one
the first. So the turns follow the circular order of the items, in which `sbtw x y b` says that one
who goes up from `x` meets `y` before `b`.

* `Sooner b x y`: after `x`, the turn of `y` comes no later than that of `b`;
* `pairwise_turns`: the items above `x`, and then those up to it, are in the order of their turns;
* `exists_sooner`: so the first of them that can be served is served no later than any other;
* `notMem_of_isChain`: as long as `b` waits, nobody is served twice.
-/

namespace Rotation

open List

variable {α β : Type*} [LinearOrder α]

local instance circularOrder : CircularOrder α := LinearOrder.toCircularOrder α

/-- After `x`, the turn of `y` comes no later than that of `b`. The turn of `x` itself is the last
    one. -/
def Sooner (b x y : α) : Prop := y = b ∨ x = b ∨ sbtw x y b

/-- The items above `x`, and then those up to it, are in the order of their turns. -/
theorem pairwise_turns {x : α} {l₁ l₂ : List α} (h₁ : l₁.Pairwise (· < ·))
    (h₂ : l₂.Pairwise (· < ·)) (hle : ∀ y ∈ l₁, y ≤ x) (hlt : ∀ y ∈ l₂, x < y) :
    (l₂ ++ l₁).Pairwise fun y b => Sooner b x y := by
  refine pairwise_append.2 ⟨?_, ?_, ?_⟩
  · refine h₂.imp_of_mem fun hy _ hyb => ?_
    exact .inr (.inr (.inl ⟨hlt _ hy, hyb⟩))
  · refine h₁.imp_of_mem fun _ hb hyb => ?_
    rcases (hle _ hb).eq_or_lt with heq | hbx
    · exact .inr (.inl heq.symm)
    · exact .inr (.inr (.inr (.inl ⟨hyb, hbx⟩)))
  · intro y hy b hb
    rcases (hle b hb).eq_or_lt with heq | hbx
    · exact .inr (.inl heq.symm)
    · exact .inr (.inr (.inr (.inr ⟨hbx, hlt y hy⟩)))

/-- The first item that can be served is served no later than any other. -/
theorem exists_sooner {x b : α} {l : List α} {f : α → Option β} {z : β}
    (hl : l.Pairwise fun y b => Sooner b x y) (hz : l.findSome? f = some z) (hb : b ∈ l)
    (hfb : (f b).isSome = true) : ∃ y ∈ l, f y = some z ∧ Sooner b x y := by
  obtain ⟨_, y, _, rfl, hy, hnone⟩ := findSome?_eq_some_iff.1 hz
  refine ⟨y, by simp, hy, ?_⟩
  rcases mem_append.1 hb with hb | hb
  · -- What comes before it cannot be served.
    rw [hnone b hb] at hfb
    cases hfb
  · rcases mem_cons.1 hb with rfl | hb
    · exact .inl rfl
    · exact (pairwise_cons.1 (pairwise_append.1 hl).2.1).1 b hb

/-- As long as `b` waits, those who are served lie ahead of `b`. -/
theorem sbtw_of_isChain {a b x : α} {ys : List α} (hx : x = a ∨ sbtw a x b) (hxb : x ≠ b)
    (hchain : (x :: ys).IsChain (Sooner b)) (hb : b ∉ ys) : ∀ y ∈ ys, sbtw a y b := by
  induction ys generalizing x with
  | nil => exact fun y hy => absurd hy not_mem_nil
  | cons z _ ih =>
    rw [mem_cons, not_or] at hb
    obtain ⟨hsooner, hchain⟩ := isChain_cons_cons.1 hchain
    have hz : sbtw a z b := by
      rcases hsooner with heq | heq | hxz
      · exact absurd heq.symm hb.1
      · exact absurd heq hxb
      rcases hx with rfl | hax
      · exact hxz
      · exact hax.trans_left hxz
    intro y hy
    rcases mem_cons.1 hy with rfl | hy
    · exact hz
    · exact ih (.inr hz) (Ne.symm hb.1) hchain hb.2 y hy

/-- As long as `b` waits, nobody is served twice. -/
theorem notMem_of_isChain {a b : α} {ys : List α} (hab : a ≠ b)
    (hchain : (a :: ys).IsChain (Sooner b)) (hb : b ∉ ys) : a ∉ ys :=
  fun ha => sbtw_irrefl_left (sbtw_of_isChain (.inl rfl) hab hchain hb a ha)

end Rotation

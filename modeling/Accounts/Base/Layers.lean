import Mathlib.Data.Finset.Sort
import Mathlib.Order.WellFoundedSet

/-!
# Layers

A finite set in an order in which parents precede their children, in rounds: those of the remaining
elements that have no parent among them come next (`layers`). The rounds get stuck only at a cycle
(`layers_spec`).
-/

namespace Layers

open Finset Relation

variable {α : Type*} [LinearOrder α] (parents : α → List α)

/-- The elements without a parent in the set. -/
def free (s : Finset α) : Finset α := s.filter fun x => ∀ p ∈ parents x, p ∉ s

theorem free_subset (s : Finset α) : free parents s ⊆ s := filter_subset _ _

theorem card_sdiff_free_lt {s : Finset α} (h : free parents s ≠ ∅) : #(s \ free parents s) < #s :=
  card_lt_card (sdiff_ssubset (free_subset parents s) (nonempty_iff_ne_empty.2 h))

/-- The rounds of a set, each of them sorted. -/
def layers (s : Finset α) : Option (List α) :=
  if s = ∅ then some []
  else if h : free parents s = ∅ then none
  else (layers (s \ free parents s)).map ((free parents s).sort ++ ·)
termination_by #s
decreasing_by exact card_sdiff_free_lt parents h

/-- Where every element has a parent, there is a cycle. -/
theorem exists_cycle {s : Finset α} (hs : s ≠ ∅) (hfree : free parents s = ∅) :
    ∃ x, TransGen (fun p c => p ∈ parents c) x x := by
  by_contra hacyclic
  have : IsStrictOrder α (TransGen fun p c => p ∈ parents c) :=
    { irrefl := fun x hx => hacyclic ⟨x, hx⟩ }
  have hwf : (s : Set α).WellFoundedOn (TransGen fun p c => p ∈ parents c) :=
    s.finite_toSet.wellFoundedOn
  obtain ⟨x, hx⟩ := nonempty_iff_ne_empty.2 hs
  obtain ⟨m, -, hmin⟩ := hwf.has_min Set.univ ⟨⟨x, hx⟩, trivial⟩
  have hm : m.1 ∈ free parents s :=
    mem_filter.2 ⟨m.2, fun p hp hmem => hmin ⟨p, hmem⟩ trivial (.single hp)⟩
  exact notMem_empty _ (hfree ▸ hm)

/-- The rounds list every element once, after its parents, unless there is a cycle. -/
theorem layers_spec (s : Finset α) : match layers parents s with
    | some l => l.Nodup ∧ l.toFinset = s ∧
        ∀ c ∈ l, ∀ p ∈ parents c, p ∈ s → l.idxOf p < l.idxOf c
    | none => ∃ x, TransGen (fun p c => p ∈ parents c) x x := by
  fun_induction layers parents s with
  | case1 => simp
  | case2 s hs hfree => exact exists_cycle parents hs hfree
  | case3 s _ _ ih =>
    cases hl : layers parents (s \ free parents s) with
    | none =>
      rw [hl] at ih
      exact ih
    | some l =>
      rw [hl] at ih
      obtain ⟨hnodup, hset, hfirst⟩ := ih
      have hmem (x : α) : x ∈ l ↔ x ∈ s ∧ x ∉ (free parents s).sort := by
        rw [← List.mem_toFinset, hset, mem_sdiff, mem_sort]
      refine ⟨(sort_nodup _ _).append hnodup fun x hx hxl => ((hmem x).1 hxl).2 hx, ?_,
        fun c hc p hp hps => ?_⟩
      · rw [List.toFinset_append, sort_toFinset, hset, union_sdiff_of_subset (free_subset parents s)]
      -- A child is not free, so it is in a later round.
      have hcl : c ∈ l := (List.mem_append.1 hc).resolve_left fun h =>
        (mem_filter.1 ((mem_sort _).1 h)).2 p hp hps
      rw [List.idxOf_append_of_notMem ((hmem c).1 hcl).2]
      by_cases hpf : p ∈ (free parents s).sort
      · rw [List.idxOf_append_of_mem hpf]
        exact (List.idxOf_lt_length_of_mem hpf).trans_le (Nat.le_add_right _ _)
      · rw [List.idxOf_append_of_notMem hpf]
        have hpl := List.mem_toFinset.2 ((hmem p).2 ⟨hps, hpf⟩)
        exact Nat.add_lt_add_left (hfirst c hcl p hp (hset ▸ hpl)) _

end Layers

import Accounts.Base.Layers
import Accounts.Base.Table
import Mathlib.Data.String.Basic

/-!
# The order of the business tables

A full migration writes the business tables in an order in which a table follows those its foreign
keys refer to (`businessOrder` of `internal/migrate/full_business.go`). The order is found in
rounds; they are those of `Accounts.Base.Layers`, whatever the order in which the maps are iterated
(`businessOrder_eq`).
-/

namespace Accounts.Migrate

open Layers Relation

structure BusinessForeignKey where
  parent : String

structure BusinessTable where
  foreignKeys : List BusinessForeignKey

inductive OrderError where
  | unreviewedParent
  | cycle

/-- An order of iteration over the names in a map: each of them once. -/
structure Iteration where
  range : Finset String → List String
  nodup : ∀ names, (range names).Nodup
  mem_range : ∀ {names : Finset String} {name}, name ∈ range names ↔ name ∈ names

variable (tables : Table String BusinessTable) (iteration : Iteration)

/-- The parents of the foreign keys of a table. -/
def parents (name : String) : List String :=
  match tables.lookup name with
  | some table => table.foreignKeys.map (·.parent)
  | none => []

section

variable (remaining : Finset String)

/-- The remaining tables without a parent among them, as they are met. -/
def ready : List String :=
  (iteration.range remaining).filter fun name => ∀ parent ∈ parents tables name, parent ∉ remaining

theorem toFinset_ready :
    (ready tables iteration remaining).toFinset = free (parents tables) remaining := by
  ext name
  simp [ready, free, iteration.mem_range]

theorem ready_eq_nil :
    ready tables iteration remaining = [] ↔ free (parents tables) remaining = ∅ := by
  rw [← toFinset_ready, List.toFinset_eq_empty_iff]

theorem mergeSort_ready :
    (ready tables iteration remaining).mergeSort = (free (parents tables) remaining).sort := by
  have hnodup : (ready tables iteration remaining).Nodup := (iteration.nodup remaining).filter _
  rw [← toFinset_ready tables iteration, Finset.sort, List.toFinset_val, hnodup.dedup]
  rfl

end

/-- The rounds, from the tables ordered so far. -/
def rounds (remaining : Finset String) (order : List String) : Except OrderError (List String) :=
  if remaining = ∅ then .ok order
  -- The loop over the foreign keys returns at a parent without a table.
  else if ∃ name ∈ iteration.range remaining, ∃ parent ∈ parents tables name, parent ∉ tables then
    .error .unreviewedParent
  else if h : ready tables iteration remaining = [] then .error .cycle
  else rounds (remaining \ (ready tables iteration remaining).toFinset)
    (order ++ (ready tables iteration remaining).mergeSort)
termination_by remaining.card
decreasing_by
  rw [toFinset_ready]
  exact card_sdiff_free_lt _ (mt (ready_eq_nil ..).2 h)

/-- The tables, parents first. -/
def businessOrder : Except OrderError (List String) :=
  rounds tables iteration tables.keys.toFinset []

/-- A foreign key refers to no table. -/
def Missing : Prop := ∃ child, ∃ parent ∈ parents tables child, parent ∉ tables

/-- A table is its own ancestor. -/
def Cyclic : Prop := ∃ name, TransGen (fun parent child => parent ∈ parents tables child) name name

variable {tables}

/-- Without a missing parent the rounds are the layers. -/
theorem rounds_eq (hmissing : ¬Missing tables) (remaining : Finset String) (order : List String) :
    rounds tables iteration remaining order =
      match layers (parents tables) remaining with
      | some l => .ok (order ++ l)
      | none => .error .cycle := by
  fun_induction rounds tables iteration remaining order with
  | case1 => simp [layers]
  | case2 _ _ _ h =>
    obtain ⟨child, -, h⟩ := h
    exact (hmissing ⟨child, h⟩).elim
  | case3 _ _ hne _ hready => rw [layers, if_neg hne, dif_pos ((ready_eq_nil ..).1 hready)]
  | case4 remaining _ hne _ hready ih =>
    have hlayers := layers.eq_def (parents tables) remaining
    rw [if_neg hne, dif_neg (mt (ready_eq_nil ..).2 hready)] at hlayers
    rw [ih, hlayers, toFinset_ready, mergeSort_ready]
    cases layers (parents tables) (remaining \ free (parents tables) remaining) <;> simp

theorem mem_of_parent {child parent : String} (h : parent ∈ parents tables child) :
    child ∈ tables := by
  by_contra hnew
  simp [parents, AList.lookup_eq_none.2 hnew] at h

open Classical in
/-- The order depends on the tables alone. -/
theorem businessOrder_eq : businessOrder tables iteration =
    if Missing tables then .error .unreviewedParent else
    match layers (parents tables) tables.keys.toFinset with
    | some l => .ok l
    | none => .error .cycle := by
  split_ifs with h
  · obtain ⟨child, parent, hparent, hnew⟩ := h
    have hchild := List.mem_toFinset.2 (mem_of_parent hparent)
    rw [businessOrder, rounds, if_neg (Finset.ne_empty_of_mem hchild),
      if_pos ⟨child, iteration.mem_range.2 hchild, parent, hparent, hnew⟩]
  · exact rounds_eq iteration h _ []

/-- The tables are ordered with every parent before its children, whatever the order of iteration,
    unless a parent is missing or there is a cycle. -/
theorem businessOrder_topological :
    (match businessOrder tables iteration with
      | .ok order => order.Perm tables.keys ∧
          (∀ child, ∀ parent ∈ parents tables child, order.idxOf parent < order.idxOf child) ∧
          ¬Missing tables ∧ ¬Cyclic tables
      | .error _ => Missing tables ∨ Cyclic tables) ∧
    ∀ other, businessOrder tables other = businessOrder tables iteration := by
  refine ⟨?_, fun other => by rw [businessOrder_eq, businessOrder_eq]⟩
  rw [businessOrder_eq]
  by_cases hmissing : Missing tables
  · rw [if_pos hmissing]
    exact .inl hmissing
  rw [if_neg hmissing]
  have hspec := layers_spec (parents tables) tables.keys.toFinset
  cases hl : layers (parents tables) tables.keys.toFinset with
  | none =>
    rw [hl] at hspec
    exact .inr hspec
  | some l =>
    rw [hl] at hspec
    obtain ⟨hnodup, hset, hfirst⟩ := hspec
    have hbefore {parent child : String} (h : parent ∈ parents tables child) :
        l.idxOf parent < l.idxOf child := by
      have hchild := List.mem_toFinset.2 (mem_of_parent h)
      rw [← hset, List.mem_toFinset] at hchild
      refine hfirst child hchild parent h (List.mem_toFinset.2 ?_)
      by_contra hnew
      exact hmissing ⟨child, parent, h, hnew⟩
    refine ⟨List.perm_of_nodup_nodup_toFinset_eq hnodup tables.keys_nodup hset,
      fun child parent => hbefore, hmissing, fun ⟨name, hcycle⟩ => ?_⟩
    -- Along a cycle the position would decrease.
    have hlt := hcycle.lift (p := (· < ·)) l.idxOf fun _ _ => hbefore
    rw [transGen_eq_self] at hlt
    exact lt_irrefl _ hlt

end Accounts.Migrate

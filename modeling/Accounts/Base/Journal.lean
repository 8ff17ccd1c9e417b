import Accounts.Base.Table

/-!
# Journals

A table whose rows change, and a *journal* of every row: the events of the row, in the order
in which they happened. A journal is only appended to.

* `append`: the journals with further events;
* `Kept`: every row stands in a relation to its journal, say that it is what the events add
  up to, and what is not in the table has no journal. A write keeps the journals if the event
  that is appended tells what is written: a new row (`Kept.opened`), or a row in the place of
  another (`Kept.written`). A write without an event must not change what the relation sees
  (`Kept.unnoticed`).
-/

namespace Journal

variable {K V E : Type*} [DecidableEq K]

/-- The journal of a row. It is empty as long as nothing happened. -/
def of (j : Table K (List E)) (k : K) : List E := (j.lookup k).getD []

/-- The journals with further events. -/
def append (j events : Table K (List E)) : Table K (List E) :=
  events.entries.foldl (fun j e => j.insert e.1 (of j e.1 ++ e.2)) j

section

variable (j : Table K (List E))

@[simp] theorem of_insert (k : K) (es : List E) : of (j.insert k es) k = es := by
  rw [of, AList.lookup_insert, Option.getD_some]

theorem of_insert_ne {k k' : K} (h : k' ≠ k) (es : List E) : of (j.insert k es) k' = of j k' := by
  rw [of, of, AList.lookup_insert_ne h]

end

/-- The rows are related to their journals, and there is no journal without a row. -/
structure Kept (R : V → List E → Prop) (t : Table K V) (j : Table K (List E)) : Prop where
  row : ∀ {k v}, t.lookup k = some v → R v (of j k)
  no_row : ∀ {k}, k ∉ t → of j k = []

namespace Kept

variable {R : V → List E → Prop} {t : Table K V} {j : Table K (List E)} {k : K} {v w : V} {e : E}

/-- Nothing has happened yet. -/
theorem empty : Kept R (∅ : Table K V) ∅ where
  row h := by simp at h
  no_row _ := rfl

variable (h : Kept R t j)

include h

/-- A row is written, and its journal is the one that is related to it. -/
theorem insert {es : List E} (hR : R w es) : Kept R (t.insert k w) (j.insert k es) where
  row hv := by
    rcases Table.lookup_insert_iff.1 hv with ⟨rfl, rfl⟩ | ⟨hne, hv⟩
    · rwa [of_insert]
    · rw [of_insert_ne j hne]
      exact h.row hv
  no_row hk := by
    rw [AList.mem_insert, not_or] at hk
    rw [of_insert_ne j hk.1]
    exact h.no_row hk.2

/-- A new row, with its first event. -/
theorem opened (hk : k ∉ t) (hR : R w [e]) :
    Kept R (t.insert k w) (j.insert k (of j k ++ [e])) := by
  rw [h.no_row hk]
  exact h.insert hR

/-- A row in the place of another, with an event. -/
theorem written (hv : t.lookup k = some v) (hR : ∀ {es}, R v es → R w (es ++ [e])) :
    Kept R (t.insert k w) (j.insert k (of j k ++ [e])) :=
  h.insert (hR (h.row hv))

/-- A row in the place of another that the journal does not tell apart. -/
theorem unnoticed (hv : t.lookup k = some v) (hR : ∀ {es}, R v es → R w es) :
    Kept R (t.insert k w) j where
  row := Table.forall_insert (fun _ _ => h.row) (hR (h.row hv))
  no_row hk := by
    rw [AList.mem_insert, not_or] at hk
    exact h.no_row hk.2

end Kept

end Journal

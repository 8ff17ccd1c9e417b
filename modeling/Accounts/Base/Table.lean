import Mathlib.Data.List.AList
import Mathlib.Algebra.Order.BigOperators.Group.List
import Mathlib.Tactic.Linarith

/-!
# Tables and their totals

A table maps keys to rows: a finite map, whose rows are visited in no
particular order. It is Mathlib's `AList`, with the rows of a table
(`Table.rows`) and sums over them (`Table.total`).

A table whose rows carry a second key is kept with an index of their
identifiers by that key (`Table.Indexed`).

Writing a row changes the total by what the row contributes: a row under a new
key adds its own contribution (`total_insert_of_notMem`), a row in the place of
another exchanges theirs (`total_insert_of_lookup`). What is added up row by row,
for other things that belong to the rows, is the sum over these things
(`total_group`).

A program adds up 64-bit integers, which wrap around (`sum64`). Where the exact
sum of non-negative numbers is in range, so is every partial sum in any order
of visiting the numbers: no addition wraps (`NoOverflow`).
-/

/-- A finite map from the keys `K` to the rows `V`. -/
abbrev Table (K V : Type*) := AList fun _ : K => V

namespace Table

open List Option AList

variable {K V M : Type*}

/-- The rows of a table. -/
def rows (t : Table K V) : List V := t.entries.map Sigma.snd

variable [DecidableEq K] {t : Table K V} {k : K} {v : V}

/-- The rows are those found under some key. -/
theorem mem_rows_iff : v ∈ rows t ↔ ∃ k, t.lookup k = some v := by
  simp only [rows, List.mem_map]
  constructor
  · rintro ⟨⟨k, w⟩, hm, rfl⟩
    exact ⟨k, mem_lookup_iff.2 hm⟩
  · rintro ⟨k, hk⟩
    exact ⟨⟨k, v⟩, mem_lookup_iff.1 hk, rfl⟩

/-- A row that is written comes first. -/
theorem rows_insert (v : V) : rows (t.insert k v) = v :: rows (t.erase k) := by
  rfl

/-- A row under a new key is one more. -/
theorem rows_insert_of_notMem (v : V) (h : k ∉ t) : rows (t.insert k v) = v :: rows t := by
  rw [rows, entries_insert_of_notMem h]
  rfl

/-- A row found after a write is the row written, or was there before under another key. -/
theorem lookup_insert_iff {k' : K} {v' : V} :
    (t.insert k v).lookup k' = some v' ↔ (k' = k ∧ v' = v) ∨ (k' ≠ k ∧ t.lookup k' = some v') := by
  by_cases h : k' = k
  · subst h
    simp [lookup_insert, eq_comm]
  · simp [lookup_insert_ne h, h]

/-- What holds of all rows does so after a write, if it holds of the row written. -/
theorem forall_insert {P : K → V → Prop} (h : ∀ k v, t.lookup k = some v → P k v) (hv : P k v)
    {k' : K} {v' : V} (h' : (t.insert k v).lookup k' = some v') : P k' v' := by
  rcases lookup_insert_iff.1 h' with ⟨rfl, rfl⟩ | ⟨-, hold⟩
  · exact hv
  · exact h k' v' hold

theorem exists_lookup_of_mem (h : k ∈ t) : ∃ v, t.lookup k = some v :=
  isSome_iff_exists.1 (lookup_isSome.2 h)

theorem mem_of_lookup (h : t.lookup k = some v) : k ∈ t :=
  lookup_isSome.1 (by rw [h]; rfl)

/-- A row under a new key takes no place of another. -/
theorem lookup_insert_of_new {k' : K} {w : V} (hnew : k' ∉ t) (h : t.lookup k = some v) :
    (t.insert k' w).lookup k = some v :=
  lookup_insert_iff.2 (.inr ⟨fun heq => hnew (heq ▸ mem_of_lookup h), h⟩)

/-- The table with the row of a key written, or taken away. -/
def assign (t : Table K V) (k : K) : Option V → Table K V
  | none => t.erase k
  | some v => t.insert k v

/-- The row of the key is the one written, and the others are as before. -/
theorem lookup_assign {k' : K} {x : Option V} :
    (assign t k x).lookup k' = if k' = k then x else t.lookup k' := by
  split_ifs with h
  · subst h
    cases x <;> simp [assign]
  · cases x <;> simp [assign, h]

/-- A row found after a write is the row written, or was there before under another key. -/
theorem lookup_assign_eq_some {k' : K} {x : Option V} {v : V} : (assign t k x).lookup k' = some v ↔
      (k' = k ∧ x = some v) ∨ (k' ≠ k ∧ t.lookup k' = some v) := by
  rw [lookup_assign]
  split_ifs with h <;> simp [h]

/-- The table with every row changed in place. -/
def mapRows {W : Type*} (f : K → V → W) (t : Table K V) : Table K W where
  entries := t.entries.map fun e => ⟨e.1, f e.1 e.2⟩
  nodupKeys := by
    have hkeys : (t.entries.map fun e => (⟨e.1, f e.1 e.2⟩ : Sigma fun _ : K => W)).keys =
        t.entries.keys := by
      rw [List.keys, List.map_map]
      rfl
    rw [List.NodupKeys, hkeys]
    exact t.nodupKeys

section

variable {W : Type*} {f : K → V → W}

/-- A row of the changed table is the changed row. -/
@[simp] theorem lookup_mapRows : (mapRows f t).lookup k = (t.lookup k).map (f k) := by
  ext w
  rw [map_eq_some_iff, ← mem_def, mem_lookup_iff]
  simp only [mapRows, List.mem_map]
  constructor
  · rintro ⟨⟨_, v⟩, hm, he⟩
    cases he
    exact ⟨v, mem_lookup_iff.2 hm, rfl⟩
  · rintro ⟨v, hv, rfl⟩
    exact ⟨⟨k, v⟩, mem_lookup_iff.1 hv, rfl⟩

/-- The keys are those of before. -/
@[simp] theorem mem_mapRows : k ∈ mapRows f t ↔ k ∈ t := by
  rw [← lookup_isSome, lookup_mapRows, isSome_map, lookup_isSome]

end

/-- A table none of whose rows is changed. -/
theorem mapRows_eq_self {f : K → V → V} (h : ∀ k v, t.lookup k = some v → f k v = v) :
    mapRows f t = t := by
  refine AList.ext ?_
  refine (map_congr_left ?_).trans (List.map_id _)
  rintro ⟨k, v⟩ hmem
  rw [h k v (mem_lookup_iff.2 hmem), id]

/-- The table with the rows that meet a condition. -/
def filter (p : K → V → Bool) (t : Table K V) : Table K V where
  entries := t.entries.filter fun e => p e.1 e.2
  nodupKeys := t.nodupKeys.sublist (List.filter_sublist)

/-- A row is kept if it meets the condition. -/
theorem lookup_filter {p : K → V → Bool} :
    (filter p t).lookup k = some v ↔ t.lookup k = some v ∧ p k v := by
  rw [← mem_def, mem_lookup_iff, ← mem_def, mem_lookup_iff]
  simp [filter]

omit [DecidableEq K] in
/-- The rows that are kept, if the condition is on the row. -/
theorem rows_filter (p : V → Bool) (t : Table K V) :
    rows (filter (fun _ => p) t) = (rows t).filter p := by
  rw [rows, rows, List.filter_map]
  rfl

/-- A row is taken out of its place. -/
theorem exists_rows_split (h : t.lookup k = some v) :
    ∃ l₁ l₂, rows t = l₁ ++ v :: l₂ ∧ rows (t.erase k) = l₁ ++ l₂ := by
  obtain ⟨w, l₁, l₂, -, hsplit, herase⟩ := exists_of_kerase (mem_of_lookup h)
  have hw : t.lookup k = some w := mem_lookup_iff.2 (by rw [hsplit]; simp)
  obtain rfl : w = v := some.inj (hw.symm.trans h)
  refine ⟨l₁.map Sigma.snd, l₂.map Sigma.snd, ?_, ?_⟩
  · rw [rows, hsplit, map_append, map_cons]
  · change (t.entries.kerase k).map Sigma.snd = _
    rw [herase, map_append]

/-- There are at least as many rows with a property as keys under which one is found. -/
theorem length_le_countP {p : V → Bool} {ks : List K} (hnodup : ks.Nodup)
    (h : ∀ k ∈ ks, ∃ v, t.lookup k = some v ∧ p v = true) : ks.length ≤ (rows t).countP p := by
  have hsub : ks ⊆ (t.entries.filter fun e => p e.2).map Sigma.fst := by
    intro k hk
    obtain ⟨v, hv, hp⟩ := h k hk
    exact List.mem_map.2 ⟨⟨k, v⟩, mem_filter.2 ⟨mem_lookup_iff.1 hv, hp⟩, rfl⟩
  have hlength := (subperm_of_subset hnodup hsub).length_le
  rw [length_map, ← countP_eq_length_filter] at hlength
  rwa [rows, countP_map]

/-- A row that is written adds at most one to those with a property. -/
theorem countP_insert_le_succ (t : Table K V) (k : K) (v : V) (p : V → Bool) :
    (rows (t.insert k v)).countP p ≤ (rows t).countP p + 1 := by
  have hsub : (rows (t.erase k)).Sublist (rows t) := (kerase_sublist k t.entries).map _
  rw [rows_insert, countP_cons]
  exact add_le_add (hsub.countP_le) (by split_ifs <;> decide)

/-- There are no more rows with a property, if each of them has it in the place of another that
    has. -/
theorem countP_le_of_lookup {t t' : Table K V} {p : V → Bool}
    (h : ∀ k v, t'.lookup k = some v → p v = true → ∃ old, t.lookup k = some old ∧ p old = true) :
    (rows t').countP p ≤ (rows t).countP p := by
  have hnodup : ((t'.entries.filter fun e => p e.2).map Sigma.fst).Nodup :=
    (List.filter_sublist.map Sigma.fst).nodup t'.nodupKeys
  have hlength := length_le_countP (t := t) (p := p) hnodup fun k hk => by
    obtain ⟨⟨k, v⟩, hmem, rfl⟩ := List.mem_map.1 hk
    obtain ⟨hmem, hp⟩ := mem_filter.1 hmem
    exact h k v (mem_lookup_iff.2 hmem) hp
  rw [length_map, ← countP_eq_length_filter] at hlength
  rwa [rows, countP_map]

theorem countP_insert_le {p : V → Bool}
    (h : p v = true → ∃ old, t.lookup k = some old ∧ p old = true) :
    (rows (t.insert k v)).countP p ≤ (rows t).countP p := by
  refine countP_le_of_lookup fun k' v' hv' hp => ?_
  rcases lookup_insert_iff.1 hv' with ⟨rfl, rfl⟩ | ⟨-, hold⟩
  · exact h hp
  · exact ⟨v', hold, hp⟩

/-! ## Tables with a second key -/

/-- Rows that have a mark have it alone. -/
def UniqueOn {A : Type*} (mark : V → Option A) (t : Table K V) : Prop :=
  ∀ ⦃i j v w⦄, t.lookup i = some v → t.lookup j = some w → mark v ≠ none → mark v = mark w → i = j

namespace UniqueOn

variable {A : Type*} {mark : V → Option A} {t : Table K V} {k : K} {v : V}

theorem empty : UniqueOn mark (∅ : Table K V) := fun _ _ _ _ hi => by simp at hi

/-- A row is written whose mark no other row has. -/
theorem insert (h : UniqueOn mark t)
    (hv : mark v ≠ none → ∀ j w, t.lookup j = some w → mark w = mark v → j = k) :
    UniqueOn mark (t.insert k v) := by
  intro i j x y hi hj hmark heq
  rw [lookup_insert_iff] at hi hj
  rcases hi with ⟨rfl, rfl⟩ | ⟨-, hi⟩ <;> rcases hj with ⟨rfl, rfl⟩ | ⟨-, hj⟩
  · rfl
  · exact (hv hmark j y hj heq.symm).symm
  · exact hv (heq ▸ hmark) i x hi heq
  · exact h hi hj hmark heq

/-- A row is written in the place of another with its mark. -/
theorem replace {w : V} (h : UniqueOn mark t) (hv : t.lookup k = some v) (hw : mark w = mark v) :
    UniqueOn mark (t.insert k w) :=
  h.insert fun hmark _ _ hj heq => h hj hv (heq ▸ hmark) (heq.trans hw)

end UniqueOn

/-- A table of rows that carry their own identifier and a second key, and the
    index of the identifiers by that key: the two describe the same rows. -/
structure Indexed {V : Type*} (id key : V → String) (t : Table String V)
    (keys : Table String String) : Prop where
  id_eq : ∀ {i v}, t.lookup i = some v → id v = i
  id_ne : ∀ {i v}, t.lookup i = some v → i ≠ ""
  of_row : ∀ {i v}, t.lookup i = some v → keys.lookup (key v) = some i
  of_key : ∀ {k i}, keys.lookup k = some i → ∃ v, t.lookup i = some v ∧ key v = k

namespace Indexed

variable {V : Type*} {id key : V → String} {t : Table String V} {keys : Table String String}

theorem empty : Indexed id key ∅ ∅ where
  id_eq h := by simp at h
  id_ne h := by simp at h
  of_row h := by simp at h
  of_key h := by simp at h

variable (h : Indexed id key t keys) {v : V}

include h

/-- Two rows with one key are one row. -/
theorem eq_of_key_eq {i j : String} {w : V} (hv : t.lookup i = some v) (hw : t.lookup j = some w)
    (hk : key v = key w) : i = j := by
  have hi := h.of_row hv
  rw [hk, h.of_row hw] at hi
  exact (some.inj hi).symm

/-- A row with a new identifier and a new key. -/
theorem insert (hne : id v ≠ "") (hid : id v ∉ t) (hkey : key v ∉ keys) :
    Indexed id key (t.insert (id v) v) (keys.insert (key v) (id v)) where
  id_eq := forall_insert (fun _ _ => h.id_eq) rfl
  id_ne := forall_insert (fun _ _ => h.id_ne) hne
  of_row hi := by
    rcases lookup_insert_iff.1 hi with ⟨rfl, rfl⟩ | ⟨-, hi⟩
    · exact lookup_insert _
    · exact lookup_insert_of_new hkey (h.of_row hi)
  of_key hk := by
    rcases lookup_insert_iff.1 hk with ⟨rfl, rfl⟩ | ⟨-, hk⟩
    · exact ⟨v, lookup_insert _, rfl⟩
    · obtain ⟨w, hw, rfl⟩ := h.of_key hk
      exact ⟨w, lookup_insert_of_new hid hw, rfl⟩

/-- A row in the place of another with the same identifier and the same key. -/
theorem replace {i : String} {w : V} (hv : t.lookup i = some v) (hid : id w = id v)
    (hkey : key w = key v) : Indexed id key (t.insert i w) keys where
  id_eq := forall_insert (fun _ _ => h.id_eq) (hid.trans (h.id_eq hv))
  id_ne := forall_insert (fun _ _ => h.id_ne) (h.id_ne hv)
  of_row := forall_insert (fun _ _ => h.of_row) (hkey ▸ h.of_row hv)
  of_key {k j} hk := by
    obtain ⟨u, hu, rfl⟩ := h.of_key hk
    by_cases hj : j = i
    · subst hj
      obtain rfl : u = v := some.inj (hu.symm.trans hv)
      exact ⟨w, lookup_insert _, hkey⟩
    · exact ⟨u, lookup_insert_iff.2 (.inr ⟨hj, hu⟩), rfl⟩

end Indexed

/-! ## Totals -/

section Total

variable [AddCommMonoid M]

section

variable (f : V → M)

include f

/-- The sum of `f` over the rows. -/
def total (t : Table K V) : M := ((rows t).map f).sum

omit [DecidableEq K] in
@[simp] theorem total_empty : total f (∅ : Table K V) = 0 := rfl

/-- A row under a new key adds its contribution. -/
theorem total_insert_of_notMem (v : V) (h : k ∉ t) : total f (t.insert k v) = f v + total f t := by
  rw [total, rows_insert_of_notMem v h, map_cons]
  rfl

/-- The contribution of a row leaves the total with the row. -/
theorem total_eq_add_erase (h : t.lookup k = some v) : total f t = f v + total f (t.erase k) := by
  obtain ⟨_, _, hrows, herase⟩ := exists_rows_split h
  rw [total, total, hrows, herase]
  simp only [map_append, map_cons, sum_append, sum_cons]
  exact add_left_comm _ _ _

/-- A row in the place of another exchanges their contributions. -/
theorem total_insert_of_lookup (v' : V) (h : t.lookup k = some v) :
    total f (t.insert k v') + f v = f v' + total f t := by
  have htotal : total f (t.insert k v') = f v' + total f (t.erase k) := by
    rfl
  rw [htotal, total_eq_add_erase f h, add_assoc, add_comm (f v)]

end

/-- A row that is written or taken away exchanges the contributions. -/
theorem total_assign (t : Table K V) (k : K) (x : Option V) (f : V → M) :
    total f (assign t k x) + ((t.lookup k).map f).getD 0 = (x.map f).getD 0 + total f t := by
  cases h : t.lookup k with
  | none =>
    have hk : k ∉ t := lookup_eq_none.1 h
    cases x with
    | none =>
      have herase : t.erase k = t := AList.ext (kerase_of_notMem_keys hk)
      simp [assign, herase]
    | some v => simp [assign, total_insert_of_notMem f v hk]
  | some =>
    cases x with
    | none => simp [assign, total_eq_add_erase f h, add_comm]
    | some v => simpa [assign] using total_insert_of_lookup f v h

/-- Tables with the same rows under the same keys have the same total. -/
theorem total_eq_of_lookup {t t' : Table K V} (f : V → M) (h : ∀ k, t'.lookup k = t.lookup k) :
    total f t' = total f t := by
  have hperm : t'.entries.Perm t.entries :=
    lookup_ext t'.nodupKeys t.nodupKeys fun k v => by
      change v ∈ t'.lookup k ↔ v ∈ t.lookup k
      rw [h k]
  exact ((hperm.map Sigma.snd).map f).sum_eq

/-- Functions equal on the rows have the same total. -/
theorem total_congr {f g : V → M}
    (h : ∀ k v, t.lookup k = some v → f v = g v) : total f t = total g t := by
  refine congrArg sum (map_congr_left fun v hv => ?_)
  obtain ⟨k, hk⟩ := mem_rows_iff.1 hv
  exact h k v hk

/-- Without contributions there is no total. -/
theorem total_eq_zero {f : V → M} (h : ∀ k v, t.lookup k = some v → f v = 0) : total f t = 0 := by
  rw [total_congr h]
  simp [total]

omit [DecidableEq K] in
/-- The total of sums is the sum of the totals. -/
theorem total_add (f g : V → M) (t : Table K V) :
    total (fun v => f v + g v) t = total f t + total g t :=
  sum_map_add

section Groups

variable {E : Type*} {t : Table K V} {key : V → K}
  (hkey : ∀ {k v}, t.lookup k = some v → key v = k) (p : V → Bool)

include hkey

/-- The contribution of one row, if it meets a condition. -/
theorem total_single (k : K) (x : M) :
    total (fun v => if p v then (if k = key v then x else 0) else 0) t =
      if (t.lookup k).any p then x else 0 := by
  cases hk : t.lookup k with
  | none =>
    refine total_eq_zero fun k' v hv => ?_
    have hne : k ≠ key v := by
      rintro rfl
      rw [hkey hv, hv] at hk
      cases hk
    simp [hne]
  | some =>
    have hrest : total (fun v => if p v then (if k = key v then x else 0) else 0)
        (t.erase k) = 0 := by
      refine total_eq_zero fun k' v hv => ?_
      have hk' : k' ≠ k := by
        rintro rfl
        simp at hv
      rw [lookup_erase_ne hk'] at hv
      simp [hkey hv, hk'.symm]
    rw [total_eq_add_erase _ hk, hrest, add_zero, if_pos (hkey hk).symm, any_some]

/-- Contributions that are added up by the rows they belong to are added up once each, if
    there is such a row and it meets the condition. -/
theorem total_group (l : List E) (row : E → K) (w : E → M) :
    total (fun v => if p v then (l.map fun e => if row e = key v then w e else 0).sum else 0) t =
      (l.map fun e => if (t.lookup (row e)).any p then w e else 0).sum := by
  induction l with
  | nil =>
    refine total_eq_zero fun k v _ => ?_
    simp
  | cons e l ih =>
    rw [map_cons, sum_cons, ← ih, ← total_single hkey p (row e) (w e), ← total_add]
    refine total_congr fun k v _ => ?_
    split_ifs <;> simp [*]

end Groups

namespace Indexed

variable {V : Type*} {id key : V → String} {t : Table String V} {keys : Table String String}

/-- The row with a key, apart from the others. -/
theorem total_eq_add (h : Indexed id key t keys) (f : V → M) {i : String} {v : V}
    (hv : t.lookup i = some v) :
    total f t = f v + total (fun w => if key w ≠ key v then f w else 0) t := by
  have hrest : total f (t.erase i) =
      total (fun w => if key w ≠ key v then f w else 0) (t.erase i) := by
    refine total_congr fun j w hw => ?_
    have hj : j ≠ i := by
      rintro rfl
      simp at hw
    rw [lookup_erase_ne hj] at hw
    exact (if_pos fun hk => hj (h.eq_of_key_eq hw hv hk)).symm
  rw [total_eq_add_erase f hv, total_eq_add_erase _ hv, hrest]
  simp

end Indexed

end Total

/-- A sum to which one element contributes at most. -/
theorem sum_of_unique {E : Type*} [AddCommMonoid M] {l : List E} (hl : l.Nodup) {p : E → Bool}
    {w : E → M} {x : M} (hw : ∀ e ∈ l, p e = true → w e = x)
    (hunique : ∀ e ∈ l, ∀ e' ∈ l, p e = true → p e' = true → e = e') :
    (l.map fun e => if p e then w e else 0).sum = if l.any p then x else 0 := by
  induction l with
  | nil => rfl
  | cons e l ih =>
    have hrest := ih hl.of_cons (fun a ha => hw a (mem_cons_of_mem _ ha))
      (fun a ha b hb => hunique a (mem_cons_of_mem _ ha) b (mem_cons_of_mem _ hb))
    rw [map_cons, sum_cons, hrest, any_cons]
    by_cases he : p e = true
    · -- No other element contributes.
      have hother : l.any p = false := by
        refine List.any_eq_false.2 fun a ha hpa => (nodup_cons.1 hl).1 ?_
        rw [hunique e mem_cons_self a (mem_cons_of_mem _ ha) he hpa]
        exact ha
      rw [hother, hw e mem_cons_self he, he]
      simp
    · simp [he]

/-- A total of contributions that are at most others is at most the other total. -/
theorem total_le_total {t : Table K V} {f g : V → ℤ}
    (h : ∀ k v, t.lookup k = some v → f v ≤ g v) : total f t ≤ total g t := by
  refine sum_le_sum fun v hv => ?_
  obtain ⟨k, hk⟩ := mem_rows_iff.1 hv
  exact h k v hk

end Table

/-! ## Sums of 64-bit integers -/

namespace Int64

/-- The sum a loop computes: each addition wraps around. -/
def sum64 (l : List Int64) : Int64 := l.foldl (· + ·) 0

/-- Adding up the numbers `l`, in whatever order, no partial sum wraps. -/
def NoOverflow (l : List Int64) : Prop :=
  ∀ seen rest : List Int64, (seen ++ rest).Perm l → (sum64 seen).toInt = (seen.map toInt).sum

/-- The next number is greater, unless there is none. -/
theorem lt_add_one {a : Int64} (h : a ≠ maxValue) : a < a + 1 := by
  have hmax : a.toInt ≠ 2 ^ 63 - 1 := fun heq => h (Int64.toInt_inj.1 heq)
  have hlt := Int64.toInt_lt a
  have hle := Int64.le_toInt a
  rw [Int64.lt_iff_toInt_lt, Int64.toInt_add, Int.bmod_eq_of_le]
  all_goals simp only [Int64.toInt_one]; omega

variable {l : List Int64} (hl : ∀ x ∈ l, 0 ≤ x.toInt) (h : (l.map toInt).sum < 2 ^ 63)

include hl h

/-- A sum of non-negative numbers whose exact value is in range does not wrap. -/
theorem toInt_sum64 : (sum64 l).toInt = (l.map toInt).sum := by
  -- The loop invariant: what is left, added to the accumulator, is in range.
  suffices hacc : ∀ a : Int64, 0 ≤ a.toInt → a.toInt + (l.map toInt).sum < 2 ^ 63 →
      (l.foldl (· + ·) a).toInt = a.toInt + (l.map toInt).sum by
    simpa [sum64] using hacc 0 (by decide) (by simpa using h)
  induction l with
  | nil => intro a _ _; simp
  | cons x l ih =>
    intro a _ hlt
    have hx : 0 ≤ x.toInt := hl x List.mem_cons_self
    have htail : 0 ≤ (l.map toInt).sum := List.sum_nonneg fun y hy => by
      obtain ⟨z, hz, rfl⟩ := List.mem_map.1 hy
      exact hl z (List.mem_cons_of_mem _ hz)
    rw [List.map_cons, List.sum_cons] at hlt ⊢
    have hadd : (a + x).toInt = a.toInt + x.toInt := by
      rw [Int64.toInt_add]
      exact Int.bmod_eq_of_le (by omega) (by omega)
    rw [List.foldl_cons, ih (fun y hy => hl y (List.mem_cons_of_mem _ hy)) (by omega) _ (by omega)
      (by omega), hadd, add_assoc]

/-- Non-negative numbers whose exact sum is in range never overflow. -/
theorem noOverflow_of_sum_lt : NoOverflow l := by
  intro seen rest hp
  have hmem : ∀ x ∈ seen ++ rest, 0 ≤ x.toInt := fun x hx => hl x (hp.subset hx)
  have hsum : (seen.map toInt).sum + (rest.map toInt).sum = (l.map toInt).sum := by
    rw [← List.sum_append, ← List.map_append]
    exact (hp.map toInt).sum_eq
  have hrest : 0 ≤ (rest.map toInt).sum := List.sum_nonneg fun y hy => by
    obtain ⟨z, hz, rfl⟩ := List.mem_map.1 hy
    exact hmem z (List.mem_append_right _ hz)
  exact toInt_sum64 (fun x hx => hmem x (List.mem_append_left _ hx)) (by omega)

end Int64

import Mathlib.Data.List.Basic

/-!
# Runs of a deterministic system

A system is a step function `step : S → A → S`: the action carries everything
the environment chooses (the caller's arguments, the clock, fresh identifiers,
the replies of other parties), so a run is a list of actions. A concurrent
system is of this form too: its state holds the local state of every party, and
an action says which party moves, so that a list of actions is an interleaving.

* `exec`: the state after a run;
* `exec_induction`: what every step preserves, every run preserves;
* `Guarded`: the runs all of whose actions meet a condition on the action and
  the state it is taken in. What a step preserves under the condition holds
  along every such run (`Guarded.exec_induction`), and what follows from it for
  an action holds of all actions (`Guarded.imp`);
* `Always`: the runs in all of whose states a condition holds. Where a step keeps
  the condition exactly when its action is guarded, these are the guarded runs
  (`always_iff_guarded`);
* `Occurs`: the runs one of whose actions meets a condition. What only such actions
  bring about does not hold at the end of other runs (`occurs_of_exec`);
* `collect`: what the actions of a run give, in order. What is used up when it is
  given, and stays so, is given at most once (`collect_nodup`); a part of the state
  may hold what was given last (`eq_getLast_collect`).
-/

namespace Run

open List

variable {S A : Type*} (step : S → A → S)

/-- The state after the actions `as`, taken in turn from `s`. -/
def exec (s : S) (as : List A) : S := as.foldl step s

/-- All actions of the run from `s` meet the condition `G`, each in the state it is taken in. -/
def Guarded (G : S → A → Prop) : S → List A → Prop
  | _, [] => True
  | s, a :: as => G s a ∧ Guarded G (step s a) as

instance Guarded.decidable {G : S → A → Prop} [∀ s a, Decidable (G s a)] :
    ∀ (s : S) (as : List A), Decidable (Guarded step G s as)
  | _, [] => .isTrue trivial
  | s, a :: as => @instDecidableAnd _ _ _ (decidable (step s a) as)

/-- Some action of the run from `s` meets the condition `G`, in the state it is taken in. -/
def Occurs (G : S → A → Prop) : S → List A → Prop
  | _, [] => False
  | s, a :: as => G s a ∨ Occurs G (step s a) as

/-- The condition `P` holds in all states of the run from `s`, the first and the last among them. -/
def Always (P : S → Prop) : S → List A → Prop
  | s, [] => P s
  | s, a :: as => P s ∧ Always P (step s a) as

instance Always.decidable {P : S → Prop} [DecidablePred P] :
    ∀ (s : S) (as : List A), Decidable (Always step P s as)
  | s, [] => inferInstanceAs (Decidable (P s))
  | s, a :: as => @instDecidableAnd _ _ _ (decidable (step s a) as)

variable {step}

@[simp] theorem exec_nil (s : S) : exec step s [] = s := rfl

@[simp] theorem exec_cons (s : S) (a : A) (as : List A) :
    exec step s (a :: as) = exec step (step s a) as := rfl

/-- A run in two parts goes on from the end of the first. -/
theorem exec_append (s : S) (as bs : List A) :
    exec step s (as ++ bs) = exec step (exec step s as) bs := foldl_append

/-- What every step preserves holds at the end of every run. -/
theorem exec_induction {P : S → Prop} (hstep : ∀ s a, P s → P (step s a)) {s : S} (hs : P s)
    (as : List A) : P (exec step s as) := by
  induction as generalizing s with
  | nil => exact hs
  | cons a _ ih => exact ih (hstep s a hs)

/-- What a run brings about, one of its actions does. -/
theorem occurs_of_exec {P : S → Prop} {G : S → A → Prop}
    (hstep : ∀ s a, ¬ P s → P (step s a) → G s a) {s : S} {as : List A} (hs : ¬ P s)
    (h : P (exec step s as)) : Occurs step G s as := by
  induction as generalizing s with
  | nil => exact absurd h hs
  | cons a _ ih =>
    by_cases ha : P (step s a)
    · exact .inl (hstep s a hs ha)
    · exact .inr (ih ha h)

namespace Guarded

variable {G : S → A → Prop}

/-- A run in two parts is guarded when both parts are. -/
theorem append_iff {s : S} {as bs : List A} :
    Guarded step G s (as ++ bs) ↔ Guarded step G s as ∧ Guarded step G (exec step s as) bs := by
  induction as generalizing s with
  | nil => simp [Guarded]
  | cons a _ ih => simp only [cons_append, Guarded, ih, exec_cons, and_assoc]

section

variable {P : S → Prop} (hstep : ∀ s a, G s a → P s → P (step s a)) {s : S} {as : List A}

include hstep

/-- What a step preserves under the condition holds at the end of every guarded run. -/
theorem exec_induction (hg : Guarded step G s as) (hs : P s) : P (exec step s as) := by
  induction as generalizing s with
  | nil => exact hs
  | cons a _ ih => exact ih hg.2 (hstep s a hg.1 hs)

/-- The runs guarded by one condition are guarded by another, if it follows in
    the states with an invariant. -/
theorem imp {G' : S → A → Prop} (himp : ∀ s a, G s a → P s → G' s a) (hg : Guarded step G s as)
    (hs : P s) : Guarded step G' s as := by
  induction as generalizing s with
  | nil => trivial
  | cons a _ ih => exact ⟨himp s a hg.1 hs, ih hg.2 (hstep s a hg.1 hs)⟩

end

end Guarded

namespace Always

variable {P : S → Prop} {s : S} {as : List A}

/-- The condition holds in the first state. -/
theorem first (h : Always step P s as) : P s := by
  cases as with
  | nil => exact h
  | cons => exact h.1

/-- The condition holds in the last state. -/
theorem last (h : Always step P s as) : P (exec step s as) := by
  induction as generalizing s with
  | nil => exact h
  | cons a _ ih => exact ih h.2

/-- What a step from a state with the condition preserves holds at the end. -/
theorem exec_induction {Q : S → Prop} (hstep : ∀ s a, P s → Q s → Q (step s a))
    (h : Always step P s as) (hs : Q s) : Q (exec step s as) := by
  induction as generalizing s with
  | nil => exact hs
  | cons a _ ih => exact ih h.2 (hstep s a h.1 hs)

end Always

/-- If the steps that keep the condition `P` are exactly those that meet `G`, in the states with an
    invariant `Q`, then `P` always holds exactly along the guarded runs. -/
theorem always_iff_guarded {P Q : S → Prop} {G : S → A → Prop}
    (hinv : ∀ s a, Q s → Q (step s a)) (hstep : ∀ s a, Q s → P s → (P (step s a) ↔ G s a))
    {s : S} (hQ : Q s) (hP : P s) (as : List A) : Always step P s as ↔ Guarded step G s as := by
  induction as generalizing s with
  | nil => exact iff_of_true hP trivial
  | cons a _ ih =>
    constructor
    · rintro ⟨-, htail⟩
      have hnext : P (step s a) := htail.first
      exact ⟨(hstep s a hQ hP).1 hnext, (ih (hinv s a hQ) hnext).1 htail⟩
    · rintro ⟨ha, htail⟩
      have hnext : P (step s a) := (hstep s a hQ hP).2 ha
      exact ⟨hP, (ih (hinv s a hQ) hnext).2 htail⟩

/-! ## What a run gives -/

/-- What the actions of a run give, in order. -/
def collect {K : Type*} (step : S → A → S) (out : S → A → Option K) : S → List A → List K
  | _, [] => []
  | s, a :: as => (out s a).toList ++ collect step out (step s a) as

section

variable {K : Type*} {out : S → A → Option K}

theorem collect_append (s : S) (as bs : List A) :
    collect step out s (as ++ bs) =
      collect step out s as ++ collect step out (exec step s as) bs := by
  induction as generalizing s with
  | nil => rfl
  | cons a _ ih => rw [cons_append, collect, collect, ih, exec_cons, append_assoc]

/-- A part of the state that holds what was given last. -/
theorem eq_getLast_collect {f : S → K} (hstep : ∀ s a, f (step s a) = (out s a).getD (f s)) (s : S)
    (as : List A) : f (exec step s as) = (collect step out s as).getLast?.getD (f s) := by
  induction as generalizing s with
  | nil => rfl
  | cons a _ ih =>
    rw [exec_cons, ih, hstep, collect]
    cases out s a with
    | none => rfl
    | some => rw [Option.toList_some, singleton_append, getLast?_cons, Option.getD_some,
        Option.getD_some]

end

section

variable {K : Type*} {out : S → A → Option K} {U : S → K → Prop}
  (hkeep : ∀ s a k, U s k → U (step s a) k) (hout : ∀ s a k, out s a = some k → ¬ U s k)
include hkeep hout

/-- What is used up is not given any more. -/
theorem notMem_collect {s : S} {k : K} (as : List A) (hk : U s k) : k ∉ collect step out s as := by
  induction as generalizing s with
  | nil => exact not_mem_nil
  | cons a _ ih =>
    rw [collect, mem_append, Option.mem_toList, not_or]
    exact ⟨fun hmem => hout s a k hmem hk, ih (hkeep s a k hk)⟩

/-- What is used up when it is given is given at most once. -/
theorem collect_nodup (huse : ∀ s a k, out s a = some k → U (step s a) k) (s : S)
    (as : List A) : (collect step out s as).Nodup := by
  induction as generalizing s with
  | nil => exact nodup_nil
  | cons a as ih =>
    rw [collect]
    cases hk : out s a with
    | none => exact ih _
    | some k =>
      refine nodup_cons.2 ⟨?_, ih _⟩
      exact notMem_collect hkeep hout as (huse s a k hk)

end

end Run

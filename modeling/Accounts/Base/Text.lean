import Mathlib.Data.List.DropRight
import Mathlib.Tactic.Linarith

/-!
# Text

The operations on text that programs written in Go take from their standard
library (`strings`, `unicode`), on strings as lists of characters.

Changing the case of a letter depends on the Unicode tables. They are a
parameter (`Unicode`), known on ASCII only: no proof depends on the rest.
`Unicode.ascii` changes no other letter.
-/

/-- The case tables of Unicode: the simple mappings of a character to lower and to upper case, and a
    representative of the characters equal to it up to case. -/
class Unicode where
  toLower : Char → Char
  toUpper : Char → Char
  foldCase : Char → Char
  toLower_ascii : ∀ c : Char, c.val < 128 → toLower c = c.toLower
  toUpper_ascii : ∀ c : Char, c.val < 128 → toUpper c = c.toUpper
  foldCase_ascii : ∀ c : Char, c.val < 128 → foldCase c = c.toLower

/-- Case tables that change no letter outside ASCII. -/
@[reducible] def Unicode.ascii : Unicode where
  toLower := Char.toLower
  toUpper := Char.toUpper
  foldCase := Char.toLower
  toLower_ascii _ _ := rfl
  toUpper_ascii _ _ := rfl
  foldCase_ascii _ _ := rfl

namespace Text

open List

/-- White space, as Unicode defines it (`unicode.IsSpace`). -/
def isSpace (c : Char) : Bool :=
  let n := c.toNat
  (9 ≤ n && n ≤ 13) || n == 32 || n == 0x85 || n == 0xA0 || n == 0x1680 ||
    (0x2000 ≤ n && n ≤ 0x200A) || n == 0x2028 || n == 0x2029 || n == 0x202F || n == 0x205F ||
    n == 0x3000

/-- Dropping the white space at both ends (`strings.TrimSpace`). -/
def trimSpace (s : String) : String :=
  String.ofList ((s.toList.dropWhile isSpace).reverse.dropWhile isSpace).reverse

/-- The last characters of a text that are dropped leave its first. -/
theorem dropWhile_rdropWhile {α : Type*} {p : α → Bool} {l : List α} (h : l.dropWhile p = l) :
    (l.rdropWhile p).dropWhile p = l.rdropWhile p := by
  rw [dropWhile_eq_self_iff] at h ⊢
  intro hlt
  have hpre : l.rdropWhile p <+: l := rdropWhile_prefix p l
  rw [hpre.getElem hlt]
  exact h (hlt.trans_le hpre.length_le)

/-- Trimmed text stays as it is. -/
@[simp] theorem trimSpace_idem (s : String) : trimSpace (trimSpace s) = trimSpace s := by
  have hdrop := dropWhile_rdropWhile (dropWhile_idempotent (p := isSpace) s.toList)
  have hrdrop := rdropWhile_idempotent isSpace (s.toList.dropWhile isSpace)
  simp only [trimSpace, String.toList_ofList]
  exact congrArg String.ofList ((congrArg (rdropWhile isSpace) hdrop).trans hrdrop)

/-- Trimming leaves a first character that is not white space. -/
theorem trimSpace_toList_cons {s : String} {c : Char} {rest : List Char}
    (hs : s.toList = c :: rest) (hc : isSpace c = false) :
    ∃ tail, (trimSpace s).toList = c :: tail := by
  have hdrop : s.toList.dropWhile isSpace = c :: rest := by simp [hs, hc]
  have hpre : (c :: rest).rdropWhile isSpace <+: c :: rest := rdropWhile_prefix _ _
  have htrim : (trimSpace s).toList = (c :: rest).rdropWhile isSpace := by
    rw [trimSpace, String.toList_ofList, hdrop]
    rfl
  cases h : (c :: rest).rdropWhile isSpace with
  | nil =>
    have hall := rdropWhile_eq_nil_iff.1 h c mem_cons_self
    simp [hc] at hall
  | cons d tail =>
    rw [h, cons_prefix_cons] at hpre
    exact ⟨tail, by rw [htrim, h, hpre.1]⟩

/-- Only white space, or nothing at all. -/
def blank (s : String) : Bool := trimSpace s == ""

/-- `strings.HasPrefix`. -/
def hasPrefix (s p : String) : Bool := p.toList.isPrefixOf s.toList

theorem hasPrefix_append (p x : String) : hasPrefix (p ++ x) p := by
  rw [hasPrefix, String.toList_append, isPrefixOf_iff_prefix]
  exact prefix_append _ _

section

variable {s p : String} {c d : Char} {rest tail : List Char} (hs : s.toList = c :: rest)
  (hp : p.toList = d :: tail) (h : d ≠ c)
include hs hp h

/-- A text with another first character does not have the prefix. -/
theorem hasPrefix_eq_false : hasPrefix s p = false := by
  simp [hasPrefix, hs, hp, isPrefixOf, h]

/-- Texts with different first characters differ. -/
theorem beq_eq_false : (s == p) = false := by
  rw [beq_eq_false_iff_ne]
  rintro rfl
  exact h (cons.inj (hp.symm.trans hs)).1

end

/-- A text with the prefix begins with its first character. -/
theorem toList_of_hasPrefix {s p : String} {d : Char} {tail : List Char} (h : hasPrefix s p)
    (hp : p.toList = d :: tail) : ∃ rest, s.toList = d :: rest := by
  rw [hasPrefix, hp, isPrefixOf_iff_prefix] at h
  obtain ⟨rest, hrest⟩ := h
  exact ⟨tail ++ rest, hrest.symm⟩

/-- Trimming leaves a prefix that neither begins nor ends with white space. -/
theorem hasPrefix_trimSpace {p : String} (hfirst : p.toList.dropWhile isSpace = p.toList)
    (hlast : p.toList.rdropWhile isSpace = p.toList) (hne : p.toList ≠ []) (x : String) :
    hasPrefix (trimSpace (p ++ x)) p := by
  have hdrop : (p ++ x).toList.dropWhile isSpace = p.toList ++ x.toList := by
    rw [String.toList_append, dropWhile_append, hfirst]
    simp [hne]
  rw [hasPrefix, trimSpace, String.toList_ofList, hdrop, isPrefixOf_iff_prefix,
    reverse_append, dropWhile_append]
  split_ifs
  · have hsame : (p.toList.reverse.dropWhile isSpace).reverse = p.toList := hlast
    exact ⟨[], by rw [append_nil, hsame]⟩
  · rw [reverse_append, reverse_reverse]
    exact prefix_append _ _

/-- `strings.TrimPrefix`. -/
def trimPrefix (s p : String) : String :=
  if hasPrefix s p then String.ofList (s.toList.drop p.toList.length) else s

/-- The first `n` characters. -/
def left (s : String) (n : Nat) : String := String.ofList (s.toList.take n)

/-- Some character of `s` is one of `chars` (`strings.ContainsAny`). -/
def containsAny (s chars : String) : Bool := s.toList.any (chars.toList.contains ·)

variable [Unicode]

/-- `strings.ToLower`. -/
def toLower (s : String) : String := String.ofList (s.toList.map Unicode.toLower)

/-- `strings.ToUpper`. -/
def toUpper (s : String) : String := String.ofList (s.toList.map Unicode.toUpper)

/-- Equality up to case (`strings.EqualFold`). -/
def equalFold (s t : String) : Bool :=
  s.toList.map Unicode.foldCase == t.toList.map Unicode.foldCase

end Text

/-! ## Lower case is final -/

/-- Case tables with two facts about lower case: it stays as it is, and a letter does not
    become white space. -/
class StableUnicode extends Unicode where
  toLower_toLower : ∀ c : Char, toLower (toLower c) = toLower c
  isSpace_toLower : ∀ c : Char, Text.isSpace (toLower c) = Text.isSpace c

namespace Text

/-- The code of a letter in lower case. -/
theorem toNat_toLower (c : Char) :
    c.toLower.toNat = if 65 ≤ c.toNat ∧ c.toNat ≤ 90 then c.toNat + 32 else c.toNat := by
  have hiff : (c.val ≥ 'A'.val ∧ c.val ≤ 'Z'.val) ↔ 65 ≤ c.toNat ∧ c.toNat ≤ 90 := by
    simp only [ge_iff_le, UInt32.le_iff_toNat_le]
    rfl
  delta Char.toLower
  split_ifs with h h' h'
  · have hdiff : ('a'.val - 'A'.val).toNat = 32 := rfl
    have hcode : c.val.toNat = c.toNat := rfl
    change (c.val + ('a'.val - 'A'.val)).toNat = _
    rw [UInt32.toNat_add, hdiff, hcode]
    omega
  · exact absurd (hiff.1 h) h'
  · exact absurd (hiff.2 h') h
  · rfl

end Text

/-- Case tables that change no letter outside ASCII. -/
@[reducible] def StableUnicode.ascii : StableUnicode where
  toUnicode := Unicode.ascii
  toLower_toLower c := by
    apply Char.toNat_inj.1
    change c.toLower.toLower.toNat = c.toLower.toNat
    simp only [Text.toNat_toLower]
    split_ifs <;> omega
  isSpace_toLower c := by
    change Text.isSpace c.toLower = Text.isSpace c
    simp only [Text.isSpace, Text.toNat_toLower]
    split_ifs with h
    · -- A capital letter is no white space, nor is a small one.
      rw [Bool.eq_iff_iff]
      simp only [Bool.or_eq_true, Bool.and_eq_true, decide_eq_true_eq, beq_iff_eq]
      omega
    · rfl

namespace Text

variable [StableUnicode]

/-- The order of trimming and changing the case does not matter. -/
theorem trimSpace_toLower (s : String) : trimSpace (toLower s) = toLower (trimSpace s) := by
  have hspace : isSpace ∘ Unicode.toLower = isSpace := by
    funext c
    exact StableUnicode.isSpace_toLower c
  simp only [trimSpace, toLower, String.toList_ofList, List.dropWhile_map, ← List.map_reverse,
    hspace]

@[simp] theorem toLower_toLower (s : String) : toLower (toLower s) = toLower s := by
  have hfinal : Unicode.toLower ∘ Unicode.toLower = Unicode.toLower := by
    funext c
    exact StableUnicode.toLower_toLower c
  simp only [toLower, String.toList_ofList, List.map_map, hfinal]

end Text

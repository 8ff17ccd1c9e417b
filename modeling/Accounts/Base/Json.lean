import Accounts.Base.Text

/-!
# JSON documents

A JSON document as a tree, with the members of an object in the order they are
written and numbers as they are spelled, and what Go's `encoding/json` makes of
it:

* decoding into an untyped value (`Json.toAny`): a number becomes the nearest
  64-bit float, and of several members of an object with one name the last
  counts. Decoded values are compared by content (`Any.equal`);
* decoding into a record: the members are assigned in turn, each to the field
  of its name, spelled exactly or up to case (`matchField`). A `null` leaves
  the field as it is, and a value that does not fit is an error.

The two decodings do not see the same document: members `n` and `N` are two
keys of an untyped object, and one field of a record, whose value then depends
on their order.
-/

/-- A number as it is spelled: sign, integer part, digits after the point and exponent. -/
structure JsonNumber where
  negative : Bool := false
  integer : Nat
  fraction : Option (List (Fin 10)) := none
  exponent : Option Int := none
  deriving DecidableEq

/-- A JSON document. -/
inductive Json
  | null
  | bool (b : Bool)
  | number (n : JsonNumber)
  | string (s : String)
  | array (items : List Json)
  | object (members : List (String × Json))

/-- The bytes of a message: none at all, a JSON document, or something that is
    not JSON (`json.RawMessage`). -/
inductive RawMessage
  | empty
  | malformed
  | doc (d : Json)

/-- The document of an object with no members. -/
def RawMessage.emptyObject : RawMessage := .doc (.object [])

/-- A decoded untyped value. A float is a mantissa and a binary exponent, in a
    unique form; the entries of a map are in the order of their keys. -/
inductive Any
  | nil
  | bool (b : Bool)
  | float (mantissa exponent : Int)
  | string (s : String)
  | slice (items : List Any)
  | map (entries : List (String × Any))

/-! ## Numbers -/

namespace JsonNumber

/-- The 64-bit integer a literal spells: an integer in range, without a
    fraction or an exponent (`strconv.ParseInt`). -/
def toInt64 (n : JsonNumber) : Option Int64 :=
  let value : Int := if n.negative then -n.integer else n.integer
  match n.fraction, n.exponent with
  | none, none => if -2 ^ 63 ≤ value ∧ value < 2 ^ 63 then some (Int64.ofInt value) else none
  | _, _ => none

/-- The quotient rounded to the nearest integer, a tie to the even one. -/
def roundHalfEven (num den : Nat) : Nat :=
  let q := num / den
  let r := 2 * (num % den)
  if r < den ∨ (r = den ∧ q % 2 = 0) then q else q + 1

/-- The fraction `num / den`, divided by `2 ^ e`. -/
def scale (num den : Nat) (e : Int) : Nat × Nat :=
  if 0 ≤ e then (num, den * 2 ^ e.toNat) else (num * 2 ^ (-e).toNat, den)

/-- The 64-bit float nearest to `num / den`, as a mantissa of at most 53 bits
    and an exponent of at least `-1074`; none when it is out of range. -/
def nearestFloat (num den : Nat) : Option (Nat × Int) :=
  if num = 0 then some (0, 0) else
  -- `num / den` is between `2 ^ (b - 1)` and `2 ^ (b + 1)`.
  let b : Int := Nat.log2 num - Nat.log2 den
  let wide := scale num den (b - 53)
  let e := max (if wide.1 / wide.2 < 2 ^ 53 then b - 53 else b - 52) (-1074)
  let m := roundHalfEven (scale num den e).1 (scale num den e).2
  let (m, e) := if m = 2 ^ 53 then (2 ^ 52, e + 1) else (m, e)
  if m = 0 then some (0, 0) else if 971 < e then none else some (m, e)

/-- The 64-bit float a literal spells (`strconv.ParseFloat`). -/
def toFloat (n : JsonNumber) : Option Any :=
  let digits := n.fraction.getD []
  let num := digits.foldl (fun acc d => acc * 10 + d.val) n.integer
  let exp : Int := n.exponent.getD 0 - digits.length
  (nearestFloat (num * 10 ^ exp.toNat) (10 ^ (-exp).toNat)).map fun (m, e) =>
    .float (if n.negative then -m else m) e

end JsonNumber

/-! ## Untyped values -/

namespace Any

/-- Adding an entry to a map, in the place of its key; an entry of that key
    that is already there stays. -/
def insertEntry (k : String) (v : Any) : List (String × Any) → List (String × Any)
  | [] => [(k, v)]
  | (k', v') :: rest =>
    if k = k' then (k', v') :: rest
    else if k < k' then (k, v) :: (k', v') :: rest
    else (k', v') :: insertEntry k v rest

mutual

/-- Equality of contents (`reflect.DeepEqual`). -/
def equal : Any → Any → Bool
  | .nil, .nil => true
  | .bool b, .bool b' => b == b'
  | .float m e, .float m' e' => m == m' && e == e'
  | .string s, .string s' => s == s'
  | .slice l, .slice l' => equalItems l l'
  | .map l, .map l' => equalEntries l l'
  | _, _ => false

/-- Equality of contents, item by item. -/
def equalItems : List Any → List Any → Bool
  | [], [] => true
  | v :: l, v' :: l' => equal v v' && equalItems l l'
  | _, _ => false

/-- Equality of contents, entry by entry. -/
def equalEntries : List (String × Any) → List (String × Any) → Bool
  | [], [] => true
  | (k, v) :: l, (k', v') :: l' => k == k' && equal v v' && equalEntries l l'
  | _, _ => false

end

mutual

/-- A value has its own content. -/
theorem equal_self : ∀ v : Any, v.equal v
  | .nil => rfl
  | .bool _ | .string _ => beq_self_eq_true _
  | .float _ _ => by simp [equal]
  | .slice l => equalItems_self l
  | .map l => equalEntries_self l

theorem equalItems_self : ∀ l, equalItems l l
  | [] => rfl
  | v :: l => by simp [equalItems, equal_self v, equalItems_self l]

theorem equalEntries_self : ∀ l, equalEntries l l
  | [] => rfl
  | (_, v) :: l => by simp [equalEntries, equal_self v, equalEntries_self l]

end

end Any

namespace Json

mutual

/-- Decoding into an untyped value; none when a number is out of range. -/
def toAny : Json → Option Any
  | .null => some .nil
  | .bool b => some (.bool b)
  | .number n => n.toFloat
  | .string s => some (.string s)
  | .array items => (toAnyItems items).map .slice
  | .object members => (toAnyEntries members).map .map

/-- Decoding the items of an array. -/
def toAnyItems : List Json → Option (List Any)
  | [] => some []
  | v :: l => do
    let v ← toAny v
    let l ← toAnyItems l
    return v :: l

/-- Decoding the members of an object: of the members with one name, the last counts. -/
def toAnyEntries : List (String × Json) → Option (List (String × Any))
  | [] => some []
  | (k, v) :: l => do
    let v ← toAny v
    let l ← toAnyEntries l
    return Any.insertEntry k v l

end

end Json

/-- Decoding a message into an untyped value (`json.Unmarshal`). -/
def RawMessage.toAny : RawMessage → Option Any
  | .doc d => d.toAny
  | _ => none

/-! ## Records -/

namespace Json

/-- Assigning a value to an integer field: its new value, and whether the value fits. -/
def assignInt64 (old : Int64) : Json → Int64 × Bool
  | .null => (old, true)
  | .number n => match n.toInt64 with
    | some i => (i, true)
    | none => (old, false)
  | _ => (old, false)

/-- Assigning a value to a text field. -/
def assignString (old : String) : Json → String × Bool
  | .null => (old, true)
  | .string s => (s, true)
  | _ => (old, false)

/-- Assigning a value to an optional truth value. -/
def assignBool (old : Option Bool) : Json → Option Bool × Bool
  | .null => (none, true)
  | .bool b => (some b, true)
  | _ => (old, false)

variable (fields : List String)

/-- The field a member is assigned to: the one of its name, or else the first
    of its name up to case. -/
def matchField [Unicode] (key : String) : Option String :=
  if key ∈ fields then some key else fields.find? (Text.equalFold key)

/-- Decoding the members of an object, in turn, into a record: `assign` sets
    the field of the given name, and says whether the value fits. A value that
    does not fit does not stop the decoding, but makes it fail. -/
def decodeMembers [Unicode] {R : Type} (assign : String → Json → R → R × Bool) :
    R × Bool → List (String × Json) → R × Bool :=
  List.foldl fun (r, ok) (key, v) => match matchField fields key with
    | none => (r, ok)
    | some field => ((assign field v r).1, ok && (assign field v r).2)

end Json

/-- Decoding a message into a record (`json.Unmarshal`); none when it fails. -/
def RawMessage.decode [Unicode] {R : Type} (fields : List String)
    (assign : String → Json → R → R × Bool) (zero : R) : RawMessage → Option R
  | .doc (.object members) => match Json.decodeMembers fields assign (zero, true) members with
    | (r, true) => some r
    | (_, false) => none
  | .doc .null => some zero
  | _ => none

import Accounts.Base.Text

/-!
# Keys and addresses as texts

Base64 as Go decodes it (`encoding/base64`), and network addresses
(`net/netip`). Decoding ignores line breaks, and the last bits of the last
character of a text, so that a value has several texts; encoding chooses one of
them.

How an address is written is a parameter (`Netip`); `Netip.dotted` knows the
IPv4 addresses in dotted notation only.
-/

namespace Base64

/-- The characters of the standard encoding. -/
def std : List Char := "ABCDEFGHIJKLMNOPQRSTUVWXYZabcdefghijklmnopqrstuvwxyz0123456789+/".toList

/-- The characters of the encoding that is safe in a URL. -/
def url : List Char := "ABCDEFGHIJKLMNOPQRSTUVWXYZabcdefghijklmnopqrstuvwxyz0123456789-_".toList

/-- The first byte of two characters, the second of two, and the third. -/
def byte₀ (a b : Nat) : Nat := a * 4 + b / 16
def byte₁ (b c : Nat) : Nat := b % 16 * 16 + c / 4
def byte₂ (c d : Nat) : Nat := c % 4 * 64 + d

/-- The bytes of groups of four characters. The last group may be shorter, and
    is filled up with `=` when the encoding is padded. -/
def decodeGroups (value : Char → Option Nat) (padded : Bool) : List Char → Option (List Nat)
  | [] => some []
  | [_] => none
  | [a, b] => if padded then none else do return [byte₀ (← value a) (← value b)]
  | [a, b, c] => if padded then none else do
    return [byte₀ (← value a) (← value b), byte₁ (← value b) (← value c)]
  | a :: b :: c :: d :: rest =>
    if padded && d == '=' && rest.isEmpty then
      if c == '=' then do return [byte₀ (← value a) (← value b)]
      else do return [byte₀ (← value a) (← value b), byte₁ (← value b) (← value c)]
    else do
      let bytes ← decodeGroups value padded rest
      return byte₀ (← value a) (← value b) :: byte₁ (← value b) (← value c) ::
        byte₂ (← value c) (← value d) :: bytes

/-- The bytes of a text (`Encoding.DecodeString`). -/
def decode (alphabet : List Char) (padded : Bool) (s : String) : Option (List Nat) :=
  decodeGroups (alphabet.idxOf? ·) padded (s.toList.filter fun c => c != '\n' && c != '\r')

/-- The characters of the bytes, in groups of four, with padding. -/
def encodeGroups (char : Nat → Char) : List Nat → List Char
  | [] => []
  | [x] => [char (x / 4), char (x % 4 * 16), '=', '=']
  | [x, y] => [char (x / 4), char (x % 4 * 16 + y / 16), char (y % 16 * 4), '=']
  | x :: y :: z :: rest =>
    char (x / 4) :: char (x % 4 * 16 + y / 16) :: char (y % 16 * 4 + z / 64) :: char (z % 64) ::
      encodeGroups char rest

/-- The standard text of bytes (`StdEncoding.EncodeToString`). -/
def encode (bytes : List Nat) : String :=
  String.ofList (encodeGroups (std.getD · '=') bytes)

end Base64

namespace Netip

/-- An address: a number of 32 bits, or of 128. -/
structure Addr where
  is4 : Bool
  value : Nat
  deriving DecidableEq

/-- The number of bits. -/
def Addr.bitLen (a : Addr) : Nat := if a.is4 then 32 else 128

/-- The address after this one, if there is one (`netip.Addr.Next`). -/
def Addr.next (a : Addr) : Option Addr :=
  if a.value + 1 < 2 ^ a.bitLen then some { a with value := a.value + 1 } else none

/-- An address with the number of its leading bits that are those of a network.
    The others need not be zero. -/
structure Prefix where
  addr : Addr
  bits : Nat
  deriving DecidableEq

/-- The address has the leading bits of the network (`netip.Prefix.Contains`). -/
def Prefix.contains (p : Prefix) (a : Addr) : Bool :=
  p.addr.is4 == a.is4 && p.addr.value >>> (p.addr.bitLen - p.bits) ==
    a.value >>> (p.addr.bitLen - p.bits)

/-- The first address of the network (`netip.Prefix.Masked`). -/
def Prefix.masked (p : Prefix) : Addr :=
  let free := p.addr.bitLen - p.bits
  { p.addr with value := p.addr.value >>> free <<< free }

theorem Prefix.contains_iff {p : Prefix} {a : Addr} :
    p.contains a ↔ a.is4 = p.addr.is4 ∧ p.masked.value ≤ a.value ∧
      a.value < p.masked.value + 2 ^ (p.addr.bitLen - p.bits) := by
  simp only [contains, masked, Nat.shiftRight_eq_div_pow, Nat.shiftLeft_eq, Bool.and_eq_true,
    beq_iff_eq]
  have hsize := Nat.two_pow_pos (p.addr.bitLen - p.bits)
  refine and_congr eq_comm (eq_comm.trans ((Nat.div_eq_iff hsize).trans ?_))
  omega

theorem Prefix.masked_le (p : Prefix) : p.masked.value ≤ p.addr.value :=
  (contains_iff.1 (by simp [contains] : p.contains p.addr)).2.1

end Netip

/-- How addresses are written (`netip.Addr.String`, `netip.ParsePrefix`). -/
class Netip where
  text : Netip.Addr → String
  parsePrefix : String → Option Netip.Prefix

namespace Netip

/-- The text of an address with a number of bits (`netip.Prefix.String`). -/
def Prefix.text [Netip] (p : Prefix) : String := Netip.text p.addr ++ "/" ++ toString p.bits

/-- A number in decimal digits, without leading zeros. -/
def decimal (s : List Char) : Option Nat :=
  if s = [] ∨ (s.head? = some '0' ∧ s.length ≠ 1) ∨ s.any (!·.isDigit) then none
  else some (s.foldl (fun n c => n * 10 + (c.toNat - '0'.toNat)) 0)

/-- The value of four bytes. -/
def quad : List (Option Nat) → Option Nat
  | [some a, some b, some c, some d] =>
    if a < 256 ∧ b < 256 ∧ c < 256 ∧ d < 256 then some (((a * 256 + b) * 256 + c) * 256 + d)
    else none
  | _ => none

/-- IPv4 addresses in dotted notation. -/
@[reducible] def dotted : Netip where
  text a := toString (a.value / 256 ^ 3) ++ "." ++ toString (a.value / 256 ^ 2 % 256) ++ "." ++
    toString (a.value / 256 % 256) ++ "." ++ toString (a.value % 256)
  parsePrefix s :=
    match s.toList.splitOn '/' with
    | [addr, bits] => do
      let value ← quad ((addr.splitOn '.').map decimal)
      let bits ← decimal bits
      if bits ≤ 32 then some ⟨⟨true, value⟩, bits⟩ else none
    | _ => none

end Netip

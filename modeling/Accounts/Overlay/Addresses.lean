import Accounts.Overlay.Tokens

/-!
# The addresses of the devices of a network

A device that joins gets the first address after that of the network which is neither that of the
gateway nor taken (`allocateAddress`, in `internal/overlay/repository.go`). The address of the
network is the one that its range is written with, which need not be the first of the range. A
configured gateway that cannot be read, or is outside of the range, is an error.

* `allocateAddress_iff`: for which networks a vacant address is allocated, unless there is none.
-/

namespace Accounts.Overlay

open Netip Prefix Store

section

variable [Netip]

/-- The address of the gateway: the configured one, or the one after that of the network. -/
def NetworkRecord.reserved (network : NetworkRecord) (cidr : Prefix) : Option Addr :=
  let configured := Text.trimSpace network.gatewayWireGuardAddress
  if configured = "" then cidr.addr.next else (parsePrefix configured).map (·.addr)

/-- A new device can have the address. -/
structure Store.Vacant (s : Store) (network : NetworkRecord) (cidr : Prefix) (a : Addr) : Prop where
  value_lt : a.value < 2 ^ a.bitLen
  contains : cidr.contains a
  ne_masked : a ≠ cidr.masked
  ne_gateway : some a ≠ network.reserved cidr
  addressFree : s.addressFree network.id (Netip.text a ++ "/32")

/-- What an allocation is to give: a vacant address, for one host, unless there is none. -/
def Store.Allocated (s : Store) (network : NetworkRecord) (cidr : Prefix) :
    Except OverlayError String → Prop
  | .ok address => ∃ a, s.Vacant network cidr a ∧ address = (⟨a, a.bitLen⟩ : Prefix).text
  | .error _ => ∀ a, ¬ s.Vacant network cidr a

/-- A gateway that is configured can be read, and is in the network. -/
def NetworkRecord.GatewayFits (network : NetworkRecord) (cidr : Prefix) : Prop :=
  Text.trimSpace network.gatewayWireGuardAddress = "" ∨
    ∃ gateway, parsePrefix (Text.trimSpace network.gatewayWireGuardAddress) = some gateway ∧
      cidr.contains gateway.addr

variable {s : Store} {network : NetworkRecord} {cidr : Prefix}

/-- A candidate that is passed over is not vacant, unless it is the address of the network. -/
theorem value_of_passed {a c : Addr} (hfamily : c.is4 = cidr.addr.is4)
    (hpassed : ¬ (c ≠ cidr.addr ∧ some c ≠ network.reserved cidr ∧
      s.addressFree network.id (Netip.text c ++ "/32")))
    (ha : s.Vacant network cidr a) (heq : a.value = c.value) : a.value = cidr.addr.value := by
  obtain ⟨_, _⟩ := a
  obtain rfl := (contains_iff.1 ha.contains).1.trans hfamily.symm
  cases heq
  by_contra hne
  exact hpassed ⟨fun h => hne (congrArg _ h), ha.ne_gateway, ha.addressFree⟩

/-- The search finds a vacant address after that of the network, or there is none from `c` on, but
    for the address of the network. -/
theorem findAddress_cases (s : Store) (network : NetworkRecord) {fuel : Nat} {c : Addr}
    (hfamily : c.is4 = cidr.addr.is4)
    (hc : c = cidr.addr ∨ cidr.addr.value < c.value ∧ c.value < 2 ^ c.bitLen)
    (hfuel : cidr.masked.value + 2 ^ (cidr.addr.bitLen - cidr.bits) ≤ c.value + fuel) :
    let found := s.findAddress network.id cidr (network.reserved cidr) fuel c
    (∃ a, s.Vacant network cidr a ∧ cidr.addr.value < a.value ∧
        found = some (Netip.text a ++ "/32")) ∨ found = none ∧
      ∀ a, s.Vacant network cidr a → c.value ≤ a.value → a.value = cidr.addr.value := by
  have hmasked := cidr.masked_le
  fun_induction findAddress s network.id cidr (network.reserved cidr) fuel c with
  | case1 =>
    refine .inr ⟨rfl, fun a ha hle => ?_⟩
    have hin := contains_iff.1 ha.contains
    omega
  | case2 _ c hout =>
    refine .inr ⟨rfl, fun a ha hle => ?_⟩
    have hin := contains_iff.1 ha.contains
    have hge : cidr.masked.value ≤ c.value := by rcases hc with rfl | hc <;> omega
    have hend := not_lt.1 fun hlt => hout (contains_iff.2 ⟨hfamily, hge, hlt⟩)
    omega
  | case3 _ c hin _ hvacant =>
    obtain ⟨hlt, hvalue⟩ := hc.resolve_left hvacant.1
    refine .inl ⟨c, ⟨hvalue, not_not.1 hin, ?_, hvacant.2.1, hvacant.2.2⟩, hlt, rfl⟩
    rintro rfl
    exact hlt.not_ge hmasked
  | case4 _ c _ address hpassed hnext =>
    -- There is no address after the last one.
    refine .inr ⟨rfl, fun a ha hle => value_of_passed hfamily hpassed ha ?_⟩
    have hlt := ha.value_lt
    rw [Addr.bitLen, (contains_iff.1 ha.contains).1, ← hfamily, ← Addr.bitLen] at hlt
    simp only [Addr.next, ite_eq_right_iff, reduceCtorEq, imp_false] at hnext
    omega
  | case5 _ c _ _ hpassed next hnext ih =>
    simp only [Addr.next, Option.ite_none_right_eq_some, Option.some.injEq] at hnext
    obtain ⟨hvalue, rfl⟩ := hnext
    have hlt : cidr.addr.value < c.value + 1 := by rcases hc with rfl | hc <;> omega
    refine (ih hfamily (.inr ⟨hlt, hvalue⟩) (by simp only; omega)).imp_right ?_
    refine And.imp_right fun hall a ha hle => ?_
    rcases hle.eq_or_lt with heq | hlt
    · exact value_of_passed hfamily hpassed ha heq.symm
    · exact hall a ha hlt

/-- An allocation is a search, if the gateway fits. -/
theorem allocateAddress_of_fits (s : Store) (h : parsePrefix network.cidr = some cidr)
    (hfits : network.GatewayFits cidr) : s.allocateAddress network =
      (s.findAddress network.id cidr (network.reserved cidr) (2 ^ (cidr.addr.bitLen - cidr.bits))
        cidr.addr).elim (.error .addressPoolExhausted) .ok := by
  rw [allocateAddress, h, NetworkRecord.reserved]
  dsimp only
  rcases hfits with hempty | ⟨gateway, hparse, hin⟩
  · simp only [if_pos hempty]
    cases s.findAddress network.id cidr _ _ _ <;> rfl
  by_cases hempty : Text.trimSpace network.gatewayWireGuardAddress = ""
  · simp only [if_pos hempty]
    cases s.findAddress network.id cidr _ _ _ <;> rfl
  · simp only [if_neg hempty, hparse, hin, not_true_eq_false, if_false, Option.map_some]
    cases s.findAddress network.id cidr _ _ _ <;> rfl

theorem allocateAddress_of_not_fits (s : Store) (h : parsePrefix network.cidr = some cidr)
    (hfits : ¬ network.GatewayFits cidr) : s.allocateAddress network = .error .invalidInput := by
  rw [NetworkRecord.GatewayFits, not_or] at hfits
  rw [allocateAddress, h]
  dsimp only
  rw [if_neg hfits.1]
  cases hparse : parsePrefix (Text.trimSpace network.gatewayWireGuardAddress) with
  | none => rfl
  | some gateway => exact if_pos fun hin => hfits.2 ⟨gateway, hparse, hin⟩

/-- An allocation gives a vacant address for one host unless there is none, exactly if in a network
    with a vacant address the addresses are of IPv4, the gateway fits, and one after that of the
    network is vacant. -/
theorem allocateAddress_iff (s : Store) (h : parsePrefix network.cidr = some cidr) :
    s.Allocated network cidr (s.allocateAddress network) ↔
      ((∃ a, s.Vacant network cidr a) → cidr.addr.is4 ∧ network.GatewayFits cidr ∧
        ∃ a, s.Vacant network cidr a ∧ cidr.addr.value < a.value) := by
  by_cases hfits : network.GatewayFits cidr
  swap
  · rw [allocateAddress_of_not_fits s h hfits, Store.Allocated, ← not_exists]
    exact ⟨fun hnone hsome => absurd hsome hnone, fun hall hsome => hfits (hall hsome).2.1⟩
  rw [allocateAddress_of_fits s h hfits]
  rcases findAddress_cases s network rfl (.inl rfl) (Nat.add_le_add_right cidr.masked_le _) with
    ⟨c, hc, hlt, hfound⟩ | ⟨hnone, hall⟩
  · have hfamily {a} (ha : s.Vacant network cidr a) := (contains_iff.1 ha.contains).1
    rw [hfound]
    constructor
    · rintro ⟨a, ha, htext⟩ -
      refine ⟨?_, hfits, c, hc, hlt⟩
      by_contra h6
      -- The text of an address of IPv6 for one host ends with `128`.
      have hlast := congrArg (·.toList.getLast?) htext
      simp [Prefix.text, Addr.bitLen, hfamily ha, h6,
        show Nat.toDigits 10 128 = ['1', '2', '8'] from rfl] at hlast
    · intro hright
      have h4 := (hright ⟨c, hc⟩).1
      exact ⟨c, hc, by simp [Prefix.text, Addr.bitLen, hfamily hc, h4, String.append_assoc]; rfl⟩
  · rw [hnone]
    constructor
    · intro hvacant hsome
      exact absurd hsome (not_exists.2 hvacant)
    · intro hright a ha
      obtain ⟨-, -, b, hb, hlt⟩ := hright ⟨a, ha⟩
      exact hlt.ne' (hall b hb hlt.le)

end

/-! ## A range that is not written with its first address -/

namespace Ranges

local instance : Netip := Netip.dotted

/-- A network with a range. -/
def ranging (cidr : String) : NetworkRecord := { Sample.network "net" "ann" with cidr := cidr }

/-- Of four addresses the second is vacant, but only the last is tried, that of the gateway. -/
theorem second_address_is_not_found : let network := ranging "10.0.0.2/30"
    network.valid ∧ init.Vacant network ⟨⟨true, 167772162⟩, 30⟩ ⟨true, 167772161⟩ ∧
      init.allocateAddress network = .error .addressPoolExhausted := by
  refine ⟨by decide +kernel, ⟨?_, ?_, ?_, ?_, ?_⟩, ?_⟩ <;> decide +kernel

/-- The third of four addresses is the first that is vacant. -/
theorem allocateAddress_iff_sample : let network := ranging "10.0.0.0/30"
    init.allocateAddress network = .ok "10.0.0.2/32" ∧
      init.Allocated network ⟨⟨true, 167772160⟩, 30⟩ (init.allocateAddress network) := by
  refine ⟨by decide +kernel, (allocateAddress_iff init (by decide +kernel)).2 fun _ =>
    ⟨rfl, .inl (by decide +kernel), ⟨true, 167772162⟩, ⟨?_, ?_, ?_, ?_, ?_⟩, ?_⟩⟩ <;> decide +kernel

end Ranges

end Accounts.Overlay

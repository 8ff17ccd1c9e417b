import Accounts.Overlay.Config

/-!
# Meshes

A device is told with whom it shares a mesh (`Store.oneMeshSpec`), and the gateway
what it relays (`Store.relaySpec`). Both ask the policy about either direction, so
they agree, and the order of the rules and of the devices does not matter
(`mesh_agrees`): a pair is granted if no rule denies it, and what the others accept
adds up to everything (`grants_iff`).
-/

namespace Accounts.Overlay

open List

/-! ## What the rules grant -/

section

variable (rules : List PolicyRule) (source destination : String)

/-- A rule denies the source access to the destination. -/
def Denies : Prop :=
  ∃ rule ∈ rules, rule.covers source destination ∧ rule.action = "deny"

/-- What the rules accept for a pair. -/
def accepted : List Nat :=
  (rules.filter fun rule => rule.covers source destination ∧ rule.action = "accept").map (·.mask)

end

variable {rules rules' : List PolicyRule} {a b source destination : String}

theorem grants_iff {mask : Nat} : grants source destination rules mask ↔
    ¬ Denies rules source destination ∧
      (accepted rules source destination).foldl (· ||| ·) mask = 15 := by
  induction rules generalizing mask with
  | nil => simp [grants, Denies, accepted]
  | cons _ _ ih =>
    rw [grants]
    split_ifs with hcovers hdeny haccept
    · simp [Denies, hcovers, hdeny]
    · simp [ih, Denies, accepted, hcovers, haccept]
    · simp [ih, Denies, accepted, hcovers, hdeny, haccept]
    · simp [ih, Denies, accepted, hcovers]

/-- The order of the rules does not matter: what is accepted is joined. -/
theorem grants_perm (h : rules.Perm rules') :
    grants source destination rules 0 = grants source destination rules' 0 := by
  have hdenies : Denies rules source destination ↔ Denies rules' source destination := by
    simp only [Denies, h.mem_iff]
  have haccepted : (accepted rules source destination).Perm (accepted rules' source destination) :=
    (h.filter _).map _
  rw [Bool.eq_iff_iff, grants_iff, grants_iff, hdenies, haccepted.foldl_op_eq]

variable {policy policy' : PolicyArtifact} {x y : DeviceRecord}

theorem meshPair_comm : meshPair policy x y = meshPair policy y x := by
  simp only [meshPair, bne_comm, Bool.and_assoc, Bool.and_comm (wholeDeviceAllowed policy x.id y.id)]

/-- Rules that grant no less make no fewer pairs. -/
theorem meshPair_mono (haction : policy'.defaultAction = policy.defaultAction)
    (hrules : ∀ a b, grants a b policy.rules 0 → grants a b policy'.rules 0)
    (h : meshPair policy x y) : meshPair policy' x y := by
  simp only [meshPair, wholeDeviceAllowed, haction, Bool.and_eq_true] at h ⊢
  split_ifs at h ⊢
  · exact h
  · exact ⟨⟨h.1.1, hrules _ _ h.1.2⟩, hrules _ _ h.2⟩

theorem not_denies_of_meshPair (h : meshPair policy x y) : ¬ Denies policy.rules x.id y.id := by
  simp only [meshPair, wholeDeviceAllowed, Bool.and_eq_true] at h
  split_ifs at h
  · cases h.2
  · exact (grants_iff.1 h.1.2).1

/-! ## Devices and the relay -/

variable [Netip] (s : Store) (network : NetworkRecord)

/-- The mesh of a device lists another. One that is left out is empty. -/
def Store.Lists (a b : String) : Prop :=
  ∃ device ∈ s.activeDevices network.id, device.id = a ∧
    ∃ spec, s.oneMeshSpec device network = .ok spec ∧ ∃ peer ∈ spec.getD [], peer.deviceID = b

/-- The gateway relays from a device to another. -/
def Store.Relays (a b : String) : Prop :=
  ∃ spec, s.relaySpec network = .ok spec ∧
    ∃ peer ∈ spec.getD [], peer.deviceID = a ∧ b ∈ peer.allowedPeers

/-- Two devices of the mesh are a pair. -/
def Store.Meshed (a b : String) : Prop :=
  ∃ devices policy, s.meshDevices network = .ok (devices, policy) ∧
    ∃ x ∈ devices, x.id = a ∧ ∃ y ∈ devices, meshPair policy x y ∧ y.id = b

variable {s network} {s' : Store} {network' : NetworkRecord}

theorem meshDevices_iff {devices : List DeviceRecord} :
    s.meshDevices network = .ok (devices, policy) ↔ policyArtifact network = .ok policy ∧
      (s.activeDevices network.id).filter meshCapable = devices ∧ devices.length ≤ 256 := by
  rw [Store.meshDevices]
  cases policyArtifact network with
  | error => simp
  | ok => grind

theorem oneMeshSpec_iff :
    (∃ spec, s.oneMeshSpec x network = .ok spec ∧ ∃ peer ∈ spec.getD [], peer.deviceID = b) ↔
      meshCapable x ∧ ∃ devices policy, s.meshDevices network = .ok (devices, policy) ∧
        ∃ y ∈ devices, meshPair policy x y ∧ y.id = b := by
  rw [Store.oneMeshSpec]
  split_ifs with hx
  · rcases s.meshDevices network with e | mesh
    · simp [Except.map]
    simp only [Except.map]
    generalize hpeers : map _ (mesh.1.filter (meshPair mesh.2 x)) = peers
    have hmem : (∃ peer ∈ peers, peer.deviceID = b) ↔
        ∃ y ∈ mesh.1, meshPair mesh.2 x y ∧ y.id = b := by
      simp [← hpeers, and_assoc]
    cases peers <;> simpa [hx, Prod.ext_iff] using hmem
  · simp [hx]

theorem lists_iff : s.Lists network a b ↔ s.Meshed network a b := by
  simp only [Store.Lists, Store.Meshed, oneMeshSpec_iff]
  constructor
  · rintro ⟨x, hx, hid, hcapable, devices, policy, hmesh, hpair⟩
    have hin : x ∈ devices := (meshDevices_iff.1 hmesh).2.1 ▸ mem_filter.2 ⟨hx, hcapable⟩
    exact ⟨devices, policy, hmesh, x, hin, hid, hpair⟩
  · rintro ⟨devices, policy, hmesh, x, hin, hid, hpair⟩
    obtain ⟨hx, hcapable⟩ := mem_filter.1 ((meshDevices_iff.1 hmesh).2.1 ▸ hin)
    exact ⟨x, hx, hid, hcapable, devices, policy, hmesh, hpair⟩

theorem relays_iff : s.Relays network a b ↔ s.Meshed network a b := by
  rw [Store.Relays, Store.Meshed, Store.relaySpec]
  rcases s.meshDevices network with e | mesh
  · simp [Except.map]
  simp only [Except.map]
  generalize hpeers : filter _ (map _ mesh.1) = peers
  have hmem : (∃ peer ∈ peers, peer.deviceID = a ∧ b ∈ peer.allowedPeers) ↔
      ∃ x ∈ mesh.1, x.id = a ∧ ∃ y ∈ mesh.1, meshPair mesh.2 x y ∧ y.id = b := by
    simp only [← hpeers, mem_filter, mem_map]
    grind
  cases peers <;> simpa [Prod.ext_iff] using hmem

theorem Store.Meshed.symm (h : s.Meshed network a b) : s.Meshed network b a := by
  obtain ⟨devices, policy, hmesh, x, hx, hid, y, hy, hpair, hid'⟩ := h
  exact ⟨devices, policy, hmesh, y, hy, hid', x, hx, meshPair_comm ▸ hpair, hid⟩

/-- A policy that makes no fewer pairs keeps them, also for the devices in another order. -/
theorem Store.Meshed.mono (h : s.Meshed network a b) (hpolicy : policyArtifact network = .ok policy)
    (hpolicy' : policyArtifact network' = .ok policy') (hid : network'.id = network.id)
    (hdevices : s.devices.Perm s'.devices)
    (hpairs : ∀ x y, meshPair policy x y → meshPair policy' x y) : s'.Meshed network' a b := by
  obtain ⟨_, _, hmesh, x, hx, hxa, y, hy, hpair, hyb⟩ := h
  obtain ⟨hstored, rfl, hlength⟩ := meshDevices_iff.1 hmesh
  cases hpolicy.symm.trans hstored
  have hperm : ((s.activeDevices network.id).filter meshCapable).Perm
      ((s'.activeDevices network'.id).filter meshCapable) := by
    rw [hid]
    refine List.Perm.filter _ ?_
    exact (perm_insertionSort _ _).trans ((hdevices.filter _).trans (perm_insertionSort _ _).symm)
  exact ⟨_, policy', meshDevices_iff.2 ⟨hpolicy', rfl, hperm.length_eq ▸ hlength⟩,
    x, hperm.mem_iff.1 hx, hxa, y, hperm.mem_iff.1 hy, hpairs x y hpair, hyb⟩

/-- The meshes of two devices list each other or do not, as the relay allows the pair
    or not. A denial wins, a further one adds no pair, and the order of the rules and
    the devices does not matter. -/
theorem mesh_agrees (s : Store) (network : NetworkRecord) (a b : String) :
    (s.Lists network a b ↔ s.Lists network b a) ∧
    (s.Lists network a b ↔ s.Relays network a b) ∧
    ∀ policy, policyArtifact network = .ok policy →
      (Denies policy.rules a b → ¬ s.Lists network a b) ∧
      ∀ (s' : Store) network' policy', policyArtifact network' = .ok policy' →
        network'.id = network.id → policy'.defaultAction = policy.defaultAction →
        s.devices.Perm s'.devices →
        (policy.rules.Perm policy'.rules → (s'.Lists network' a b ↔ s.Lists network a b)) ∧
        ∀ rule, rule.action = "deny" → (rule :: policy.rules).Perm policy'.rules →
          s'.Lists network' a b → s.Lists network a b := by
  simp only [lists_iff, relays_iff]
  refine ⟨⟨.symm, .symm⟩, trivial, fun policy hpolicy => ⟨?_, ?_⟩⟩
  · rintro hdenies ⟨_, _, hmesh, x, -, rfl, y, -, hpair, rfl⟩
    cases hpolicy.symm.trans (meshDevices_iff.1 hmesh).1
    exact not_denies_of_meshPair hpair hdenies
  intro _ _ _ hpolicy' hid haction hdevices
  constructor
  · intro hrules
    constructor
    · refine fun h => h.mono hpolicy' hpolicy hid.symm hdevices.symm fun x y => ?_
      exact meshPair_mono haction.symm fun a b => (grants_perm hrules.symm).le
    · refine fun h => h.mono hpolicy hpolicy' hid hdevices fun x y => ?_
      exact meshPair_mono haction fun a b => (grants_perm hrules).le
  · intro _ _ hrules h
    refine h.mono hpolicy' hpolicy hid.symm hdevices.symm fun x y => ?_
    refine meshPair_mono haction.symm fun a b hgrants => ?_
    -- A further denial grants nothing.
    rw [← grants_perm hrules, grants] at hgrants
    split_ifs at hgrants
    exact hgrants

end Accounts.Overlay

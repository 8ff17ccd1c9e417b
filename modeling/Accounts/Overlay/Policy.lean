import Accounts.Overlay.Consistency

/-!
# Policies and generations

The policy of a network is stored with a revision, and counts only if this is the
generation of the configuration of the network (`policyArtifact`). If it is not,
no configuration with a policy can be built, and no device can join.

Every call that goes to the next generation should therefore take the policy along
(`NetworkRecord.Bound`). Most do so, by `advanceNetworkGeneration`. Three do not: the
exchange of a registration, setting up a network again with another frontend of its
gateway, and bringing the stable gateway up to date (`policy_left_behind`). As long as
these meet no network with a policy, every policy stays bound (`bound_of_attentive`).
-/

namespace Accounts.Overlay

open Except Store

/-- The stored policy is for the network and its generation. -/
def NetworkRecord.Bound (network : NetworkRecord) : Prop :=
  ∀ policy ∈ network.policy,
    policy.networkID = network.id ∧ policy.revision = network.configGeneration

namespace Store

/-- All stored policies are for their networks and generations. -/
def Bound (s : Store) : Prop := ∀ k n, s.networks.lookup k = some n → n.Bound

/-- The network, if there is one, has no policy. -/
def Unruled (s : Store) (networkID : String) : Prop :=
  ∀ network ∈ s.networks.lookup networkID, network.policy = none

instance (s : Store) (networkID : String) : Decidable (s.Unruled networkID) :=
  inferInstanceAs (Decidable (∀ _ ∈ _, _))

/-- The network, if there is one, has this frontend of its gateway. -/
def SameFrontend (s : Store) (n : BootstrapNetwork) : Prop :=
  ∀ network ∈ s.networks.lookup n.id, network.gatewayFrontend = n.gatewayFrontend ∧
    network.gatewayListenSocket = n.gatewayListenSocket

instance (s : Store) (n : BootstrapNetwork) : Decidable (s.SameFrontend n) :=
  inferInstanceAs (Decidable (∀ _ ∈ _, _))

/-- The stable gateway, if there is one, is active with the key of the network. -/
def GatewaySettled (s : Store) (n : BootstrapNetwork) : Prop :=
  ∀ device ∈ s.deviceIn stableUATNetworkID stableUATGatewayID,
    device.wireGuardPublicKey = n.gatewayWireGuardKey ∧ device.status = .active

instance (s : Store) (n : BootstrapNetwork) : Decidable (s.GatewaySettled n) :=
  inferInstanceAs (Decidable (∀ _ ∈ _, _))

end Store

/-- A call that leaves no policy behind. A network with a policy is not set up again with
    another frontend, and not for a stable gateway that has to be brought up to date. No
    approved registration for it is exchanged. -/
def Action.Attentive [Unicode] (s : Store) : Action → Prop
  | .seed _ n _ _ _ => s.Unruled n.id ∨ s.SameFrontend n
  | .adminBootstrap _ n i _ _ _ =>
    s.Unruled n.id ∨ s.SameFrontend n ∧ (isStableUATGateway n i → s.GatewaySettled n)
  | .exchangeRegistration _ registrationID _ _ =>
    ∀ registration ∈ s.registrations.lookup (Text.trimSpace registrationID),
      registration.status = .approved → s.Unruled registration.networkID
  | _ => True

instance [Unicode] (s : Store) : (a : Action) → Decidable (a.Attentive s)
  | .seed .. => inferInstanceAs (Decidable (_ ∨ _))
  | .adminBootstrap .. => inferInstanceAs (Decidable (_ ∨ _))
  | .exchangeRegistration .. => inferInstanceAs (Decidable (∀ _ ∈ _, _ → _))
  | .adminCreateInvite .. | .adminUpdatePolicy .. | .adminDeleteNetwork .. => .isTrue trivial
  | .reconcileStableGateway _ | .recordRuntimeObservation .. => .isTrue trivial
  | .adminRevokeDevice .. | .register .. | .expireRegistrations .. => .isTrue trivial
  | .adminTransitionRegistration .. | .exchange .. | .mintSession .. => .isTrue trivial
  | .enrollmentConfig .. | .gatewayConfig .. | .policyArtifact .. => .isTrue trivial
  | .ackEnrollment .. | .userConfig .. | .ackUser .. => .isTrue trivial

/-! ## Bound policies -/

section

variable {α β : Type} {x : Except OverlayError α} (h : x ≠ .error .generationConflict)

include h

/-- What is computed from a result fails as the result does. -/
theorem map_ne_conflict {f : α → β} : x.map f ≠ .error .generationConflict := by
  cases x with
  | error => simpa [Except.map] using h
  | ok => simp [Except.map]

theorem bind_ne_conflict {f : α → Except OverlayError β}
    (hf : ∀ a, f a ≠ .error .generationConflict) : (x >>= f) ≠ .error .generationConflict := by
  cases x with
  | error => simpa [bind, Except.bind] using h
  | ok a => exact hf a

end

section

variable {s : Store} {network : NetworkRecord} (h : network.Bound)
include h

/-- A policy that is bound can be read. -/
theorem policyArtifact_of_bound : ∃ policy, policyArtifact network = .ok policy := by
  rw [policyArtifact]
  cases hpolicy : network.policy with
  | none => exact ⟨_, rfl⟩
  | some policy =>
    obtain ⟨hid, hrevision⟩ := h policy hpolicy
    exact ⟨policy, if_neg (by simp [hid, hrevision])⟩

/-- The generation of a network with a bound policy can advance. -/
theorem advance_of_bound (hrow : s.networks.lookup network.id = some network) :
    ∃ r, s.advanceNetworkGeneration network = .ok r := by
  have hwrite : ∀ policy, ∃ r, s.writeGeneration network policy = .ok r := by
    intro _
    rw [writeGeneration, hrow]
    exact ⟨_, if_neg (not_not.2 rfl)⟩
  rw [advanceNetworkGeneration]
  rcases hpolicy : network.policy with _ | policy
  · exact hwrite none
  obtain ⟨hid, hrevision⟩ := h policy hpolicy
  obtain ⟨r, hr⟩ := hwrite (some { policy with revision := network.configGeneration + 1 })
  exact ⟨r, (if_neg (by simp [hid, hrevision])).trans hr⟩

variable [Netip]

/-- The devices of the mesh are found, or there are too many. -/
theorem meshDevices_of_bound : s.meshDevices network ≠ .error .generationConflict := by
  obtain ⟨_, hpolicy⟩ := policyArtifact_of_bound h
  rw [meshDevices, hpolicy]
  dsimp only
  split_ifs <;> simp

variable [Sha256] [PolicyJSON] (svc : Service)

/-- The configuration of a device does not fail because of the policy. -/
theorem buildSignedConfig_of_bound (now : Time) (device : DeviceRecord) (v2 : Bool) :
    svc.buildSignedConfig s now device network v2 ≠ .error .generationConflict := by
  obtain ⟨_, hpolicy⟩ := policyArtifact_of_bound h
  rw [Service.buildSignedConfig, hpolicy]
  split_ifs
  · refine map_ne_conflict ?_
    rw [oneMeshSpec]
    split_ifs
    · exact map_ne_conflict (meshDevices_of_bound h)
    · simp
  all_goals simp

omit [PolicyJSON] in
/-- The configuration of a gateway does not fail because of the policy. -/
theorem buildGatewayConfig_of_bound (now : Time) :
    svc.buildGatewayConfig s now network ≠ .error .generationConflict := by
  have hresolve : ∀ frontend socket,
      resolveGatewayFrontend frontend socket ≠ .error .generationConflict := by
    intro _ _
    simp only [resolveGatewayFrontend]
    split_ifs <;> simp
  rw [Service.buildGatewayConfig]
  refine bind_ne_conflict ?_ fun address => bind_ne_conflict ?_ fun frontend =>
    bind_ne_conflict ?_ fun mesh => by simp [pure, Except.pure]
  · rw [NetworkRecord.gatewayAddress]
    split_ifs
    · simp
    · split
      · simp
      · split <;> simp
  · rw [Service.gatewayFrontend]
    split_ifs <;> exact hresolve _ _
  · rw [Service.gatewayMesh]
    split_ifs
    · exact map_ne_conflict (meshDevices_of_bound h)
    · simp

end

/-! ## What calls do to the policies -/

/-- The networks are as before, or have bound policies. -/
def Kept (s s' : Store) : Prop :=
  ∀ k n, s'.networks.lookup k = some n → s.networks.lookup k = some n ∨ n.Bound

namespace Kept

variable {s s' s'' : Store}

theorem of_networks (h : s'.networks = s.networks) : Kept s s' :=
  fun _ _ hn => .inl (h ▸ hn)

theorem putNetwork {n : NetworkRecord} (h : n.Bound) : Kept s (s.putNetwork n) := by
  intro k m hm
  rcases Table.lookup_insert_iff.1 hm with ⟨-, rfl⟩ | ⟨-, hm⟩
  · exact .inr h
  · exact .inl hm

theorem trans (h : Kept s s') (h' : Kept s' s'') : Kept s s'' := fun k n hn =>
  (h' k n hn).elim (h k n) .inr

theorem bound (h : Kept s s') (hs : s.Bound) : s'.Bound := fun k n hn =>
  (h k n hn).elim (hs k n) id

end Kept

section

variable {s s' : Store}

/-- A network without a policy is bound. -/
theorem NetworkRecord.Bound.of_none {n : NetworkRecord} (h : n.policy = none) : n.Bound := by
  intro _ hpolicy
  rw [h] at hpolicy
  cases hpolicy

variable {owner : String}

theorem deleteNetwork_kept {networkID : String} (h : s.deleteNetwork owner networkID = .ok s') :
    Kept s s' := by
  obtain ⟨-, h⟩ := guard_ok.1 h
  split at h
  · cases h
  simp only [guard_ok, Except.ok.injEq] at h
  obtain ⟨-, -, rfl⟩ := h
  intro k n hn
  by_cases hk : k = Text.trimSpace networkID
  · subst hk
    simp at hn
  · exact .inl (AList.lookup_erase_ne hk ▸ hn)

variable {network : NetworkRecord}

/-- The owner and the host of a network do not matter. -/
theorem NetworkRecord.Bound.repaired [Unicode] (h : network.Bound) (owner : String) :
    (network.repaired owner).Bound := by
  intro policy hpolicy
  dsimp only [NetworkRecord.repaired] at hpolicy ⊢
  exact h policy hpolicy

theorem reconcileStableGateway_kept [Unicode] (hs : s.Bound)
    {request : StableGatewayReconcileRequest} (h : s.reconcileStableGateway request = .ok s') :
    Kept s s' := by
  obtain ⟨network, owner, hnetwork, hs'⟩ := reconcileStableGateway_ok h
  have hput : Kept s (s.putNetwork (network.repaired owner)) :=
    .putNetwork ((hs _ _ hnetwork).repaired owner)
  rcases hs' with rfl | rfl
  · exact hput
  · exact hput.trans (.of_networks rfl)

theorem advanceNetworkGeneration_kept {network' : NetworkRecord} (hs : s.Keyed)
    (h : s.advanceNetworkGeneration network = .ok (s', network')) : Kept s s' := by
  obtain ⟨-, row, hrow, _, hpolicy, hs'⟩ := advanceNetworkGeneration_ok h
  have hid : row.id = network.id := hs network.id row hrow
  rw [hs']
  refine Kept.putNetwork fun p hp => ?_
  obtain ⟨hnetwork, hrevision⟩ := hpolicy p hp
  refine ⟨?_, hrevision⟩
  rw [hnetwork]
  exact hid.symm

variable {device : DeviceRecord} {tokens : NewTokens} {now : Time}

theorem adminRevokeDevice_kept {svc : Service} {pick : Nat} {deviceID : String} (hs : s.Keyed)
    (h : svc.adminRevokeDevice s now pick owner deviceID = .ok s') : Kept s s' := by
  obtain ⟨-, s₁, hs₁, hcases⟩ := adminRevokeDevice_cases h
  have hnetworks : s₁.networks = s.networks := by rw [hs₁]; rfl
  have hkeyed : s₁.Keyed := by rw [Store.Keyed, hnetworks]; exact hs
  refine (Kept.of_networks hnetworks).trans ?_
  rcases hcases with rfl | ⟨-, -, -, _, _, -, hadvance⟩
  · exact .of_networks rfl
  · exact advanceNetworkGeneration_kept hkeyed hadvance

variable {n : BootstrapNetwork}

/-- The row of a network that is set up again has the policy it had, and the generation if
    the frontend is the same. -/
theorem NetworkRecord.Bound.updated {existing : NetworkRecord} (h : existing.Bound)
    (hid : existing.id = n.id)
    (hsame : existing.policy = none ∨ existing.gatewayFrontend = n.gatewayFrontend ∧
      existing.gatewayListenSocket = n.gatewayListenSocket) : (existing.updated n).Bound := by
  rcases hsame with hnone | ⟨hfrontend, hsocket⟩
  · exact .of_none hnone
  · intro policy hpolicy
    obtain ⟨hnetwork, hrevision⟩ := h policy hpolicy
    refine ⟨hnetwork.trans hid, hrevision.trans ?_⟩
    simp [NetworkRecord.updated, hfrontend, hsocket]

theorem seed_kept [Netip] [Sha256] {i : BootstrapInvite} {joinToken opaqueToken token : String}
    (hs : s.Keyed) (hbound : s.Bound) (hsame : s.Unruled n.id ∨ s.SameFrontend n)
    (h : s.seed now n i joinToken opaqueToken = .ok (s', token)) : Kept s s' := by
  obtain ⟨invites, _, rfl, hrow⟩ := seed_ok h
  refine Kept.putNetwork (s := { s with invites := invites }) ?_
  rcases hrow with ⟨-, rfl⟩ | ⟨existing, hexisting, rfl⟩
  · exact .of_none rfl
  · refine (hbound _ _ hexisting).updated ?_ ?_
    · exact hs _ _ hexisting
    · exact hsame.imp (fun h => h existing hexisting) fun h => h existing hexisting

theorem adminBootstrap_kept [Unicode] [Netip] [Sha256] (now : Time) (n : BootstrapNetwork)
    (i : BootstrapInvite) (controllerURL joinToken opaqueToken : String) (hs : s.Keyed)
    (hbound : s.Bound)
    (hsame : (Action.adminBootstrap now n i controllerURL joinToken opaqueToken).Attentive s) :
    Kept s (s.adminBootstrap now n i controllerURL joinToken opaqueToken).2 := by
  rcases adminBootstrap_eq s now n i controllerURL joinToken opaqueToken with
    heq | ⟨s₁, token, hseed, hs'⟩
  · exact .of_networks (congrArg networks heq)
  have hkept : Kept s s₁ := seed_kept hs hbound (hsame.imp_right And.left) hseed
  rcases hs' with heq | hreconcile
  · rw [heq]
    exact hkept
  refine hkept.trans ?_
  rcases reconcileStableUATGatewayKey_cases hreconcile with
    heq | ⟨hstable, network, device, hnetwork, hdevice, hunsettled, heq⟩
  · exact .of_networks (congrArg networks heq)
  -- The gateway is not settled, so the network has no policy.
  have hid : n.id = stableUATNetworkID := by
    simp only [isStableUATGateway, Bool.and_eq_true, beq_iff_eq] at hstable
    exact hstable.1.1.1.1.1
  -- What the network is set up with is stored, with the policy it had.
  have hrow : s₁.devices = s.devices ∧ network.gatewayWireGuardKey = n.gatewayWireGuardKey ∧
      (s.Unruled n.id → network.policy = none) := by
    obtain ⟨_, _, rfl, hrow⟩ := seed_ok hseed
    rw [← hid] at hnetwork
    rcases hrow with ⟨-, rfl⟩ | ⟨existing, hexisting, rfl⟩
    · cases (AList.lookup_insert _).symm.trans hnetwork
      exact ⟨rfl, rfl, fun _ => rfl⟩
    · cases (AList.lookup_insert _).symm.trans hnetwork
      exact ⟨rfl, rfl, fun hnone => hnone existing hexisting⟩
  obtain ⟨hdevices, hkey, hnone⟩ := hrow
  have hpolicy : network.policy = none := by
    rcases hsame with hunruled | ⟨-, hsettled⟩
    · exact hnone hunruled
    · refine absurd ?_ hunsettled
      rw [hkey]
      rw [deviceIn, hdevices] at hdevice
      exact hsettled hstable device hdevice
  rw [heq]
  exact Kept.putNetwork (s := { s₁.revokeCredentials device.id (canonicalTime now) with
    devices := s₁.devices.map (network.rekeyed device.id) }) (.of_none hpolicy)

end

/-! ## All calls -/

namespace Kept

variable {s : Store} {α : Type}

theorem of_reading {f : α → Reply} (x : Except OverlayError α) : Kept s (s.reading f x).2 := by
  cases x <;> exact .of_networks rfl

theorem of_writing {f : α → Reply} {x : Except OverlayError (Store × α)}
    (hx : ∀ s' y, x = .ok (s', y) → Kept s s') : Kept s (s.writing f x).2 := by
  cases x with
  | error => exact .of_networks rfl
  | ok r => exact hx r.1 r.2 rfl

theorem of_changing {x : Except OverlayError Store} (hx : ∀ s', x = .ok s' → Kept s s') :
    Kept s (s.changing x).2 := by
  cases x with
  | error => exact .of_networks rfl
  | ok s' => exact hx s' rfl

theorem of_reply {f : α → Reply} {x : Result α} (hx : Kept s x.2) : Kept s (x.reply f).2 := by
  obtain ⟨_ | _, _⟩ := x <;> exact hx

end Kept

section

variable [Unicode] [Netip] [Sha256] [PolicyJSON] (svc : Service)

/-- An attentive call keeps the policies bound. -/
theorem call_kept {s : Store} (hs : s.Keyed) (hbound : s.Bound) {a : Action} (ha : a.Attentive s) :
    Kept s (a.call svc s).2 := by
  unfold Action.call
  cases a with
  | seed =>
    exact .of_writing fun s' y h => seed_kept hs hbound ha h
  | adminBootstrap now n i controllerURL joinToken opaqueToken =>
    exact .of_reply (adminBootstrap_kept now n i controllerURL joinToken opaqueToken hs hbound ha)
  | adminCreateInvite =>
    refine .of_writing fun s' y h => ?_
    obtain ⟨invites, rfl⟩ := adminCreateInvite_ok h
    exact .of_networks rfl
  | adminUpdatePolicy =>
    refine .of_writing fun s' y h => ?_
    obtain ⟨network, -, hid, hrevision, rfl⟩ := adminUpdatePolicy_ok h
    refine .putNetwork fun p hp => ?_
    cases hp
    exact ⟨hid, hrevision⟩
  | adminDeleteNetwork =>
    exact .of_changing fun s' h => deleteNetwork_kept h
  | reconcileStableGateway =>
    exact .of_changing fun s' h => reconcileStableGateway_kept hbound h
  | recordRuntimeObservation =>
    refine .of_changing fun s' h => ?_
    obtain ⟨_, rfl⟩ := recordRuntimeObservation_ok h
    exact .of_networks rfl
  | adminRevokeDevice =>
    exact .of_changing fun s' h => adminRevokeDevice_kept hs h
  | register =>
    refine .of_writing fun s' y h => ?_
    obtain ⟨r, -, -, rfl⟩ := register_ok h
    exact .of_networks rfl
  | expireRegistrations =>
    refine .of_changing fun s' h => ?_
    obtain ⟨registrations, rfl⟩ := expireRegistrations_ok h
    exact .of_networks rfl
  | adminTransitionRegistration now owner registrationID decision =>
    refine .of_reply ?_
    rcases adminTransitionRegistration_eq s now owner registrationID decision with
      ⟨e, s', hlapses, heq⟩ | ⟨r, -, -, -, -, -, heq⟩
    · obtain ⟨registrations, rfl⟩ := hlapses.eq
      rw [heq]
      exact .of_networks rfl
    · rw [heq]
      exact .of_networks rfl
  | exchangeRegistration now registrationID token secrets =>
    refine .of_reply ?_
    rcases exchangeRegistration_eq s svc now registrationID token secrets with
      ⟨e, s', hlapses, heq⟩ | ⟨registration, s', device, network, hfound, hstatus, -, hexchange, heq⟩
    · obtain ⟨registrations, rfl⟩ := hlapses.eq
      rw [heq]
      exact .of_networks rfl
    -- The network gets a new generation, but its policy does not.
    rw [heq]
    obtain ⟨found, _, hnetwork, -, -, rfl, htokens⟩ := exchangeApproved_ok hexchange
    obtain rfl := insertTokens_ok htokens
    exact Kept.putNetwork (s := setRegistration _ _ _)
      (.of_none (ha registration hfound hstatus found hnetwork))
  | exchange =>
    refine .of_writing fun s' r h => ?_
    obtain ⟨_, device, network, hcreate, -⟩ := exchange_ok h
    obtain ⟨invites, found, -, -, ⟨-, -, hreenrol⟩ | henrol⟩ := createDevice_cases hcreate
    · obtain rfl := insertTokens_ok hreenrol
      exact .of_networks rfl
    -- A device that joins goes with the next generation.
    simp only [enrol, bind_eq_ok] at henrol
    obtain ⟨_, hdevice, ⟨_, _⟩, hadvance, _, htokens, he⟩ := henrol
    cases he
    obtain rfl := insertDevice_ok hdevice
    obtain rfl := insertTokens_ok htokens
    have hkept := advanceNetworkGeneration_kept
      (s := { s with invites := invites, devices := s.devices ++ [device] }) hs hadvance
    exact hkept.trans (.of_networks rfl)
  | mintSession =>
    refine .of_writing fun s' r h => ?_
    obtain ⟨c, device, e, -, -, -, -, -, -, rfl⟩ := mintSession_ok hs h
    exact .of_networks rfl
  | enrollmentConfig | gatewayConfig | policyArtifact | userConfig =>
    exact .of_reading _
  | ackEnrollment =>
    refine .of_writing fun s' r h => ?_
    obtain ⟨device, network, -, hack⟩ := ackEnrollment_ok h
    exact .of_networks (ack_ok hs hack).2.1
  | ackUser =>
    refine .of_writing fun s' r h => ?_
    obtain ⟨device, network, -, hack⟩ := ackUser_ok h
    exact .of_networks (ack_ok hs hack).2.1

/-- What a policy that is bound is good for: no configuration and no new generation of a
    network fails because of its policy. -/
structure Store.Served (s : Store) : Prop where
  bound : s.Bound
  signedConfig : ∀ {networkID network}, s.networks.lookup networkID = some network →
    ∀ now device v2, svc.buildSignedConfig s now device network v2 ≠ .error .generationConflict
  gatewayConfig : ∀ {networkID network}, s.networks.lookup networkID = some network →
    ∀ now, svc.buildGatewayConfig s now network ≠ .error .generationConflict
  advances : ∀ {networkID network}, s.networks.lookup networkID = some network →
    ∃ r, s.advanceNetworkGeneration network = .ok r

/-- Along a run of attentive calls, the policy of every network is of its generation, and
    nothing fails because it is not. -/
theorem bound_of_attentive {as : List Action}
    (h : Run.Guarded (System.step svc) (fun sys a => a.Attentive sys.store) .init as) :
    (Run.exec (System.step svc) .init as).store.Served svc := by
  have hinv : (Run.exec (System.step svc) .init as).store.Keyed ∧
      (Run.exec (System.step svc) .init as).store.Bound := by
    refine h.exec_induction (P := fun sys : System => sys.store.Keyed ∧ sys.store.Bound) ?_
      ⟨fun _ _ => nofun, fun _ _ => nofun⟩
    intro _ a ha hsys
    exact ⟨(effect_call svc hsys.1 a).keyed, (call_kept svc hsys.1 hsys.2 ha).bound hsys.2⟩
  obtain ⟨hkeyed, hbound⟩ := hinv
  refine ⟨hbound, fun hnetwork now device v2 => ?_, fun hnetwork now => ?_, fun hnetwork => ?_⟩
  · exact buildSignedConfig_of_bound (hbound _ _ hnetwork) svc now device v2
  · exact buildGatewayConfig_of_bound (hbound _ _ hnetwork) svc now
  · refine advance_of_bound (hbound _ _ hnetwork) ?_
    rw [hkeyed _ _ hnetwork]
    exact hnetwork

end

/-! ## Policies that are left behind -/

/-- A policy of another revision is not bound. -/
theorem not_bound_of_revision {s : Store} (networkID : String)
    (h : (s.networks.lookup networkID).any (fun network =>
      network.policy.any (·.revision != network.configGeneration)) = true) : ¬ s.Bound := by
  intro hbound
  obtain ⟨network, hnetwork, hany⟩ := (Option.any_eq_true _ _).1 h
  obtain ⟨policy, hpolicy, hne⟩ := (Option.any_eq_true _ _).1 hany
  have heq := (hbound _ _ hnetwork policy hpolicy).2
  simp [heq] at hne

/-- Why a call was refused. -/
def Reply.refusal : Reply → Option OverlayError
  | .refused e => some e
  | _ => none

namespace Sample

local instance : Unicode := Unicode.ascii
local instance : Netip := Netip.dotted
local instance : Sha256 := ⟨id⟩
local instance : PolicyJSON := ⟨fun _ => ""⟩

/-- A key: 43 times a letter, and the padding. -/
def key (c : Char) : String := String.ofList (List.replicate 43 c ++ ['='])

/-- A network of Alice with an invitation and a policy. -/
def ruled : List Action :=
  [ .seed 0 (network "net-a" "alice") ⟨"laptop", "linux", "one", Time.day⟩ (joinToken 'A') "",
    .adminUpdatePolicy "alice" "net-a" {}]

/-- The network gets another frontend. -/
def reseeded : List Action := ruled ++
  [.seed 0 { network "net-a" "alice" with gatewayFrontend := "caddy-unix-h2c" }
    ⟨"phone", "linux", "one", Time.day⟩ (joinToken 'B') ""]

/-- A registration for the network is approved and exchanged. -/
def registered : List Action := ruled ++
  [ .register 0 ⟨"net-a", "tablet", "Tablet", "tablet.example", "linux", key 'A'⟩ "reg"
      (String.ofList (List.replicate 43 'R')),
    .adminTransitionRegistration 0 "alice" "reg" (.approve "net-a"),
    .exchangeRegistration 0 "reg" ("xrt_" ++ String.ofList (List.replicate 43 'R')) ⟨"1", "c", "e"⟩]

/-- The network of the stable gateway, with a key of the gateway. -/
def stable (c : Char) : BootstrapNetwork :=
  { network stableUATNetworkID "alice" with
    gatewayID := stableUATGatewayID
    gatewayEndpointHost := stableUATGatewayHost
    gatewayWireGuardKey := key c
    gatewayWireGuardAddress := "10.0.0.1/32" }

/-- The stable gateway is enrolled, its network gets a policy, and then another key. -/
def rekeyed : List Action :=
  let invite : BootstrapInvite := ⟨stableUATGatewayID, "linux", "gateway", Time.day⟩
  [ .seed 0 (stable 'A') invite (joinToken 'A') "",
    .exchange 0 ⟨joinToken 'A', stableUATGatewayID, "Gateway", "linux", "gw.example", key 'A',
      "gateway"⟩ ⟨"1", "c", "e"⟩,
    .adminUpdatePolicy "alice" stableUATNetworkID {},
    .adminBootstrap 0 (stable 'E') invite "https://controller.example" (joinToken 'B') ""]

/-- Each of the three calls goes to the next generation without the policy. After that, the
    invitation of the network cannot be used. -/
theorem policy_left_behind : ¬ (Run.exec (System.step {}) .init reseeded).store.Bound ∧
      ¬ (Run.exec (System.step {}) .init registered).store.Bound ∧
      ¬ (Run.exec (System.step {}) .init rekeyed).store.Bound ∧
      ((Action.exchange 0 ⟨joinToken 'A', "laptop", "Laptop", "linux", "laptop.example", key 'E',
        "one"⟩ ⟨"2", "d", "f"⟩).call {}
        (Run.exec (System.step {}) .init registered).store).1.refusal = some .generationConflict :=
  ⟨not_bound_of_revision "net-a" (by decide +kernel),
    not_bound_of_revision "net-a" (by decide +kernel),
    not_bound_of_revision stableUATNetworkID (by decide +kernel), by decide +kernel⟩

/-- A policy, a device that joins with it, and one that is revoked. -/
theorem bound_of_attentive_sample : let as := ruled ++
      [ .exchange 0 ⟨joinToken 'A', "laptop", "Laptop", "linux", "laptop.example", key 'A', "one"⟩
          ⟨"1", "c", "e"⟩,
        .adminUpdatePolicy "alice" "net-a" { defaultAction := "allow" },
        .adminRevokeDevice 0 0 "alice" "laptop",
        .seed 0 (network "net-a" "alice") ⟨"phone", "linux", "one", Time.day⟩ (joinToken 'B') ""]
    (Run.exec (System.step {}) .init as).store.Served {} := by
  intro as
  have h : Run.Guarded (System.step {}) (fun sys a => a.Attentive sys.store) .init as := by
    decide +kernel
  exact bound_of_attentive {} h

end Sample

end Accounts.Overlay

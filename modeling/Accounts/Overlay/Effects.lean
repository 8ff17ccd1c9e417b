import Accounts.Overlay.Tokens

/-!
# What the calls do to devices and tokens

What a call can do to the devices, the tokens and the acknowledgements is said
once (`Effect`): it leaves them as they are, enrols a device, opens a session,
records an acknowledgement, revokes devices, removes a network, or brings the
stable gateway back (`effect_call`). Everything that holds along a run is read
off the effects.
-/

namespace Accounts.Overlay

open Text Except Table List Store DeviceRecord

/-! ## What calls leave as it is -/

/-- A device, as far as access depends on it. -/
structure Place where
  id : String
  networkID : String
  status : DeviceStatus
  deriving DecidableEq

/-- Where a device is, and whether it is active. -/
def DeviceRecord.place (device : DeviceRecord) : Place :=
  ⟨device.id, device.networkID, device.status⟩

namespace Store

/-- The places of all devices. -/
def places (s : Store) : List Place := s.devices.map place

/-- The row of a network has its key as its identifier. -/
def Keyed (s : Store) : Prop := ∀ k n, s.networks.lookup k = some n → n.id = k

theorem Keyed.putNetwork {s : Store} (hs : s.Keyed) (n : NetworkRecord) : (s.putNetwork n).Keyed :=
  fun _ _ => forall_insert hs rfl

theorem mem_places {s : Store} {device : DeviceRecord} (h : device ∈ s.devices) :
    device.place ∈ s.places :=
  mem_map_of_mem h

end Store

/-- The devices, the tokens and the acknowledgements stay as they are. -/
structure Frame (s s' : Store) : Prop where
  places : s'.places = s.places
  credentials : s'.credentials = s.credentials
  enrollments : s'.enrollments = s.enrollments
  acks : s'.acks = s.acks
  keyed : s'.Keyed

namespace Frame

variable {s s' s'' : Store}

theorem refl (hs : s.Keyed) : Frame s s := ⟨rfl, rfl, rfl, rfl, hs⟩

theorem trans (h : Frame s s') (h' : Frame s' s'') : Frame s s'' where
  places := h'.places.trans h.places
  credentials := h'.credentials.trans h.credentials
  enrollments := h'.enrollments.trans h.enrollments
  acks := h'.acks.trans h.acks
  keyed := h'.keyed

/-- Only networks, invitations or registrations are written. -/
theorem of_devices (hs : s'.Keyed) (hdevices : s'.devices = s.devices)
    (hcredentials : s'.credentials = s.credentials) (henrollments : s'.enrollments = s.enrollments)
    (hacks : s'.acks = s.acks) : Frame s s' :=
  ⟨congrArg (map place) hdevices, hcredentials, henrollments, hacks, hs⟩

theorem putNetwork (hs : s.Keyed) (n : NetworkRecord) : Frame s (s.putNetwork n) :=
  .of_devices (hs.putNetwork n) rfl rfl rfl rfl

/-- Devices are written, but for their places. -/
theorem of_places (hs : s.Keyed) {f : DeviceRecord → DeviceRecord}
    (hf : ∀ device, (f device).place = device.place) :
    Frame s { s with devices := s.devices.map f } where
  places := by
    simp only [Store.places, map_map]
    exact map_congr_left fun device _ => hf device
  credentials := rfl
  enrollments := rfl
  acks := rfl
  keyed := hs

theorem touchDevices (hs : s.Keyed) (p : DeviceRecord → Bool) (now : Time) :
    Frame s (s.touchDevices p now) := by
  refine .of_places hs fun device => ?_
  split_ifs <;> rfl

end Frame

/-! ## What calls write -/

variable {n : BootstrapNetwork} {i : BootstrapInvite}

section Writes

variable {s s' : Store} {now : Time} {opaqueToken token : String}

/-- A network is set up with an invitation: it is new, or was set up before. -/
theorem seed_ok [Netip] [Sha256] {joinToken : String}
    (h : s.seed now n i joinToken opaqueToken = .ok (s', token)) :
    ∃ invites row, s' = { s with invites := invites }.putNetwork row ∧
      ((s.networks.lookup n.id = none ∧ row = { toBootstrapNetwork := n.withTransportDefaults }) ∨
        ∃ existing, s.networks.lookup n.id = some existing ∧
          row = existing.updated n.withTransportDefaults) := by
  simp only [seed, guard_ok] at h
  obtain ⟨-, -, h⟩ := h
  split at h
  · cases h
  next =>
  -- The defaults of the transport leave the other fields as they are.
  rw [show n.withTransportDefaults.id = n.id from rfl] at h
  cases hfound : s.networks.lookup n.id with
  | none =>
    rw [hfound] at h
    cases h
    exact ⟨_, _, rfl, .inl ⟨rfl, rfl⟩⟩
  | some existing =>
    rw [hfound] at h
    simp only [guard_ok, ok.injEq, Prod.mk.injEq] at h
    obtain ⟨-, rfl, -⟩ := h
    exact ⟨_, _, rfl, .inr ⟨existing, rfl, rfl⟩⟩

variable {owner : String}

theorem adminCreateInvite_ok [Sha256] {controllerURL : String} {request : AdminInviteRequest}
    (h : s.adminCreateInvite now owner controllerURL request opaqueToken = .ok (s', token)) :
    ∃ invites, s' = { s with invites := invites } := by
  obtain ⟨-, h⟩ := guard_ok.1 h
  split at h
  · cases h
  next =>
  obtain ⟨-, h⟩ := guard_ok.1 h
  split at h
  · cases h
  next =>
  simp only [guard_ok, ok.injEq, Prod.mk.injEq] at h
  obtain ⟨-, -, rfl, -⟩ := h
  exact ⟨_, rfl⟩

/-- A policy is stored with the generation it is for. -/
theorem adminUpdatePolicy_ok {networkID : String} {policy policy' : PolicyArtifact}
    (h : s.adminUpdatePolicy owner networkID policy = .ok (s', policy')) :
    ∃ network, s.networks.lookup (trimSpace networkID) = some network ∧
      policy'.networkID = network.id ∧ policy'.revision = network.configGeneration + 1 ∧
      s' = s.putNetwork { network with
        policy := some policy', configGeneration := network.configGeneration + 1 } := by
  simp only [adminUpdatePolicy] at h
  split at h
  · cases h
  next network hfound =>
  simp only [guard_ok, ok.injEq, Prod.mk.injEq] at h
  obtain ⟨-, -, rfl, rfl⟩ := h
  exact ⟨network, hfound, rfl, rfl, rfl⟩

/-- The network of the stable gateway gets its owner, and its devices do if it had another one. -/
theorem reconcileStableGateway_ok [Unicode] {request : StableGatewayReconcileRequest}
    (h : s.reconcileStableGateway request = .ok s') :
    ∃ network owner, s.networks.lookup stableUATNetworkID = some network ∧
      (s' = s.putNetwork (network.repaired owner) ∨
        s' = (s.putNetwork (network.repaired owner)).reown stableUATNetworkID owner) := by
  simp only [reconcileStableGateway, guard_ok] at h
  obtain ⟨-, h⟩ := h
  split at h
  · cases h
  next network hfound =>
  obtain ⟨-, h⟩ := guard_ok.1 h
  refine ⟨network, trimSpace request.ownerUserID, hfound, ?_⟩
  split_ifs at h
  · cases h
    exact .inl rfl
  · cases h
    exact .inr rfl

theorem recordRuntimeObservation_ok {networkID deviceID role : String}
    (h : s.recordRuntimeObservation now networkID deviceID role = .ok s') :
    ∃ observed, s' = s.touchDevices observed (canonicalTime now) := by
  obtain ⟨-, h⟩ := guard_ok.1 h
  split at h
  · cases h
  next =>
  simp only [guard_ok, ok.injEq] at h
  obtain ⟨-, rfl⟩ := h
  exact ⟨_, rfl⟩

/-- What a call to register declares is recorded, if the limits of the network allow it. -/
structure Registers [Sha256] (s : Store) (now : Time) (request : RegistrationRequest)
    (r : RegistrationRecord) : Prop where
  networkID : r.networkID = trimSpace request.networkID
  deviceID : r.deviceID = trimSpace request.deviceID
  platform : r.platform = trimSpace request.platform
  key : ∃ key, decodeKey (trimSpace request.wireGuardPublicKey) = some key ∧
    r.wireGuardPublicKey = Base64.encode key
  pending : r.status = .pending
  createdAt : r.createdAt = canonicalTime now
  unlimited : ¬ s.registrationLimited (canonicalTime now) r

theorem register_ok [Sha256] {request : RegistrationRequest} {registrationID : String}
    (h : s.register now request registrationID opaqueToken = .ok (s', token)) :
    ∃ r, Registers s now request r ∧ registrationID ∉ s.registrations ∧
      s' = s.setRegistration registrationID r := by
  simp only [register] at h
  split at h
  · cases h
  next publicKey hkey =>
  simp only [guard_ok] at h
  obtain ⟨-, -, h⟩ := h
  split at h
  · cases h
  next =>
  simp only [guard_ok, ok.injEq, Prod.mk.injEq] at h
  obtain ⟨-, -, hlimited, hfresh, rfl, -⟩ := h
  refine ⟨_, ?_, (not_or.1 hfresh).1, rfl⟩
  exact ⟨rfl, rfl, rfl, ⟨publicKey, hkey, rfl⟩, rfl, rfl, hlimited⟩

theorem expireRegistrations_ok (h : s.expireRegistrations now owner = .ok s') :
    ∃ registrations, s' = { s with registrations := registrations } := by
  simp only [expireRegistrations, guard_ok, ok.injEq] at h
  obtain ⟨-, rfl⟩ := h
  exact ⟨_, rfl⟩

/-- A refused call marks a registration that has expired, at most. -/
inductive Lapses (s : Store) (registrationID : String) : Store → Prop
  | same : Lapses s registrationID s
  | expired (r : RegistrationRecord) (found : s.registrations.lookup registrationID = some r)
      (status : r.status = .pending ∨ r.status = .approved) :
      Lapses s registrationID (s.setRegistration registrationID { r with status := .expired })

theorem Lapses.eq {registrationID : String} (h : Lapses s registrationID s') :
    ∃ registrations, s' = { s with registrations := registrations } := by
  cases h with
  | same | expired => exact ⟨_, rfl⟩

/-- The owner of the network decides a registration that is pending, or nothing is decided. -/
theorem adminTransitionRegistration_eq (s : Store) (now : Time) (owner registrationID : String)
    (decision : Decision) :
    (∃ e s', Lapses s (trimSpace registrationID) s' ∧
      s.adminTransitionRegistration now owner registrationID decision = (.error e, s')) ∨
    ∃ r, s.registrations.lookup (trimSpace registrationID) = some r ∧ r.status = .pending ∧
      r.ownerUserID = trimSpace owner ∧ canonicalTime now < r.expiresAt ∧
      (s.networks.lookup r.networkID).any (·.ownerUserID == trimSpace owner) ∧
      s.adminTransitionRegistration now owner registrationID decision =
        (.ok (r.decided (canonicalTime now) decision),
          s.setRegistration (trimSpace registrationID) (r.decided (canonicalTime now) decision)) := by
  simp only [adminTransitionRegistration]
  split_ifs
  · exact .inl ⟨_, s, .same, rfl⟩
  rcases hfound : s.registrations.lookup (trimSpace registrationID) with _ | r
  · exact .inl ⟨_, s, .same, rfl⟩
  dsimp only
  split_ifs with howner _ hnetwork hstatus hexpired
  · exact .inl ⟨_, s, .same, rfl⟩
  · exact .inl ⟨_, s, .same, rfl⟩
  · exact .inl ⟨_, s, .same, rfl⟩
  · exact .inl ⟨_, _, .expired r hfound (.inl (not_not.1 hstatus)), rfl⟩
  · exact .inr ⟨r, rfl, not_not.1 hstatus, not_not.1 howner, not_le.1 hexpired, hnetwork, rfl⟩
  · exact .inl ⟨_, s, .same, rfl⟩

section

variable {network network' : NetworkRecord}

/-- The next generation is written to the row of the network. -/
theorem writeGeneration_ok {policy : Option PolicyArtifact}
    (h : s.writeGeneration network policy = .ok (s', network')) :
    network'.id = network.id ∧ ∃ row, s.networks.lookup network.id = some row ∧
      s' = s.putNetwork { row with
        configGeneration := network.configGeneration + 1, policy := policy } := by
  simp only [writeGeneration] at h
  split at h
  · cases h
  next row hfound =>
  simp only [guard_ok, ok.injEq, Prod.mk.injEq] at h
  obtain ⟨-, rfl, rfl⟩ := h
  exact ⟨rfl, row, hfound, rfl⟩

/-- The policy that was read goes with the next generation. -/
theorem advanceNetworkGeneration_ok (h : s.advanceNetworkGeneration network = .ok (s', network')) :
    network'.id = network.id ∧ ∃ row, s.networks.lookup network.id = some row ∧
      ∃ policy : Option PolicyArtifact,
        (∀ p ∈ policy, p.networkID = network.id ∧ p.revision = network.configGeneration + 1) ∧
        s' = s.putNetwork { row with
          configGeneration := network.configGeneration + 1, policy := policy } := by
  simp only [advanceNetworkGeneration] at h
  cases hpolicy : network.policy with
  | none =>
    rw [hpolicy] at h
    obtain ⟨hid, row, hrow, rfl⟩ := writeGeneration_ok h
    exact ⟨hid, row, hrow, none, by simp, rfl⟩
  | some =>
    rw [hpolicy] at h
    simp only [guard_ok, not_or, not_not] at h
    obtain ⟨⟨hnetwork, -⟩, h⟩ := h
    obtain ⟨hid, row, hrow, rfl⟩ := writeGeneration_ok h
    exact ⟨hid, row, hrow, some _, by simp [hnetwork], rfl⟩

end

/-- An approved registration is exchanged for a device before it expires, or nothing but
    registrations is written. -/
theorem exchangeRegistration_eq [Netip] [Sha256] (s : Store) (svc : Service) (now : Time)
    (registrationID token : String) (secrets : Secrets) :
    (∃ e s', Lapses s (trimSpace registrationID) s' ∧
      svc.exchangeRegistration s now registrationID token secrets = (.error e, s')) ∨
    ∃ registration s' device network,
      s.registrations.lookup (trimSpace registrationID) = some registration ∧
      registration.status = .approved ∧ canonicalTime now < registration.expiresAt ∧
      s.exchangeApproved (canonicalTime now) (trimSpace registrationID) registration
        (secrets.tokens svc (canonicalTime now)) = .ok (s', device, network) ∧
      svc.exchangeRegistration s now registrationID token secrets =
        (.ok (secrets.response svc (canonicalTime now) device network), s') := by
  simp only [Service.exchangeRegistration]
  by_cases hvalid : trimSpace registrationID = "" ∨ ¬ validOpaque (trimSpace token) "xrt_"
  · rw [if_pos hvalid]
    exact .inl ⟨_, s, .same, rfl⟩
  rw [if_neg hvalid]
  rcases hfound : s.registrations.lookup (trimSpace registrationID) with _ | registration
  · exact .inl ⟨_, s, .same, rfl⟩
  dsimp only
  by_cases htoken : registration.tokenHash ≠ hashSecret (trimSpace token)
  · rw [if_pos htoken]
    exact .inl ⟨_, s, .same, rfl⟩
  rw [if_neg htoken]
  cases hstatus : registration.status with
  | rejected | consumed | expired => exact .inl ⟨_, s, .same, rfl⟩
  | pending =>
    split_ifs
    · exact .inl ⟨_, _, .expired registration hfound (.inl hstatus), rfl⟩
    · exact .inl ⟨_, s, .same, rfl⟩
  | approved =>
    split_ifs with hexpired
    · exact .inl ⟨_, _, .expired registration hfound (.inr hstatus), rfl⟩
    cases hexchange : s.exchangeApproved (canonicalTime now) (trimSpace registrationID)
        registration (secrets.tokens svc (canonicalTime now)) with
    | error e => exact .inl ⟨e, s, .same, rfl⟩
    | ok r =>
      obtain ⟨s', device, network⟩ := r
      exact .inr ⟨registration, s', device, network, rfl, hstatus, not_le.1 hexpired,
        hexchange, rfl⟩

end Writes

section Frames

variable {s s' : Store} (hs : s.Keyed)
include hs

theorem seed_frame [Netip] [Sha256] {now : Time} {joinToken opaqueToken token : String}
    (h : s.seed now n i joinToken opaqueToken = .ok (s', token)) : Frame s s' := by
  obtain ⟨_, _, rfl, -⟩ := seed_ok h
  exact .of_devices (.putNetwork hs _) rfl rfl rfl rfl

theorem reconcileStableGateway_frame [Unicode] {request : StableGatewayReconcileRequest}
    (h : s.reconcileStableGateway request = .ok s') : Frame s s' := by
  obtain ⟨network, owner, -, rfl | rfl⟩ := reconcileStableGateway_ok h
  · exact .putNetwork hs _
  have hput := Frame.putNetwork hs (network.repaired owner)
  refine hput.trans ((Frame.of_places hput.keyed fun device => ?_).trans
    (.of_devices hput.keyed rfl rfl rfl rfl))
  rw [reowned]
  split_ifs <;> rfl

end Frames

/-! ## Enrolment -/

/-- A device is enrolled: it is new, or was active in its network already. Its
    tokens are recorded. Other credentials may have been revoked. -/
structure Enrolled (s s' : Store) (deviceID networkID credentialHash enrollmentHash : String) :
    Prop where
  places : s'.places = s.places ++ [⟨deviceID, networkID, .active⟩] ∨
    (s'.places = s.places ∧ ⟨deviceID, networkID, .active⟩ ∈ s.places)
  credentials : ∀ h c, s'.credentials.lookup h = some c →
    (h = credentialHash ∧ c.deviceID = deviceID) ∨
      (h ≠ credentialHash ∧ ∃ c₀, s.credentials.lookup h = some c₀ ∧ c₀.deviceID = c.deviceID ∧
        (c₀.revokedAt ≠ none → c.revokedAt ≠ none))
  enrollments : ∀ h e, s'.enrollments.lookup h = some e →
    (h = enrollmentHash ∧ e.deviceID = deviceID) ∨
      (h ≠ enrollmentHash ∧ s.enrollments.lookup h = some e)
  acks : s'.acks = s.acks
  keyed : s'.Keyed

section Enrolment

variable {s s' : Store} {device : DeviceRecord}

theorem insertDevice_ok (h : s.insertDevice device = .ok s') :
    s' = { s with devices := s.devices ++ [device] } := by
  simp only [insertDevice, guard_ok, ok.injEq] at h
  exact h.2.symm

variable {deviceID : String} {tokens : NewTokens}

theorem insertTokens_ok (h : s.insertTokens tokens deviceID = .ok s') : s' = { s with
      credentials := s.credentials.insert tokens.credentialHash
        { tokens.credential with deviceID := deviceID }
      enrollments := s.enrollments.insert tokens.enrollmentHash
        { tokens.enrollment with deviceID := deviceID } } := by
  simp only [insertTokens, bind_eq_ok, insertCredential, insertEnrollment,
    guard_ok, ok.injEq] at h
  obtain ⟨_, ⟨-, rfl⟩, -, rfl⟩ := h
  rfl

variable {now : Time}

/-- The credentials of some devices are revoked, and no others change. -/
theorem lookup_revokeCredentials {h : String} {c : CredentialRecord}
    (hc : (s.revokeCredentials deviceID now).credentials.lookup h = some c) :
    ∃ c₀, s.credentials.lookup h = some c₀ ∧ c₀.deviceID = c.deviceID ∧
      (c₀.revokedAt ≠ none → c.revokedAt ≠ none) ∧ (c.deviceID = deviceID → c.revokedAt ≠ none) ∧
      (c.deviceID ≠ deviceID → c = c₀) := by
  simp only [revokeCredentials, lookup_mapRows, Option.map_eq_some_iff] at hc
  obtain ⟨c₀, hc₀, rfl⟩ := hc
  refine ⟨c₀, hc₀, ?_⟩
  split_ifs with hif
  · exact ⟨rfl, by simp, by simp, fun hne => absurd hif.1 hne⟩
  · exact ⟨rfl, id, fun hd hn => hif ⟨hd, hn⟩, fun _ => rfl⟩

variable {networkID : String} {s₁ : Store}

/-- Recording the tokens of a device whose place is there. -/
theorem Enrolled.of_insertTokens (h : s₁.insertTokens tokens deviceID = .ok s')
    (hkeyed : s₁.Keyed) (hplaces : s₁.places = s.places ++ [⟨deviceID, networkID, .active⟩] ∨
      (s₁.places = s.places ∧ ⟨deviceID, networkID, .active⟩ ∈ s.places))
    (hcredentials : ∀ h c, s₁.credentials.lookup h = some c →
      ∃ c₀, s.credentials.lookup h = some c₀ ∧ c₀.deviceID = c.deviceID ∧
        (c₀.revokedAt ≠ none → c.revokedAt ≠ none))
    (henrollments : s₁.enrollments = s.enrollments) (hacks : s₁.acks = s.acks) :
    Enrolled s s' deviceID networkID tokens.credentialHash tokens.enrollmentHash := by
  obtain rfl := insertTokens_ok h
  refine ⟨hplaces, fun h c hc => ?_, fun h e he => ?_, hacks, hkeyed⟩
  · rcases lookup_insert_iff.1 hc with ⟨rfl, rfl⟩ | ⟨hne, hc⟩
    · exact .inl ⟨rfl, rfl⟩
    · exact .inr ⟨hne, hcredentials h c hc⟩
  · rcases lookup_insert_iff.1 he with ⟨rfl, rfl⟩ | ⟨hne, he⟩
    · exact .inl ⟨rfl, rfl⟩
    · exact .inr ⟨hne, henrollments ▸ he⟩

/-- A device is added, and networks or registrations are written before it gets its tokens. -/
theorem Enrolled.of_insertDevice (hframe : Frame { s with devices := s.devices ++ [device] } s₁)
    (hactive : device.status = .active) (hnetwork : device.networkID = networkID)
    (h : s₁.insertTokens tokens device.id = .ok s') :
    Enrolled s s' device.id networkID tokens.credentialHash tokens.enrollmentHash := by
  refine .of_insertTokens h hframe.keyed (.inl ?_) (fun h c hc => ?_) hframe.enrollments hframe.acks
  · rw [hframe.places]
    simp [Store.places, place, hactive, hnetwork]
  · rw [hframe.credentials] at hc
    exact ⟨c, hc, rfl, id⟩

variable {network : NetworkRecord}

/-- A device found in a network. -/
theorem deviceIn_some {id : String} (h : s.deviceIn networkID id = some device) :
    device ∈ s.devices ∧ device.id = id ∧ device.networkID = networkID := by
  have hp := find?_some h
  simp only [Bool.and_eq_true, beq_iff_eq] at hp
  exact ⟨mem_of_find?_eq_some h, hp.1, hp.2⟩

theorem network_ok {id : String} (h : s.network id = .ok network) :
    s.networks.lookup id = some network := by
  simp only [Store.network] at h
  rcases hfound : s.networks.lookup id with _ | n <;> simp only [hfound, reduceCtorEq] at h
  cases h
  rfl

variable {request : ExchangeRequest}

/-- Using an invitation: an active device of the network gets new tokens, or a new one is
    enrolled. -/
theorem createDevice_cases [Netip] {tokenHash : String}
    (h : s.createDevice tokenHash request now tokens = .ok (s', device, network)) :
    ∃ invites found, s.networks.lookup device.networkID = some found ∧ device.status = .active ∧
      ((device ∈ s.devices ∧ network = found ∧
          { s with invites := invites }.reenrol device.id now tokens = .ok s') ∨
        { s with invites := invites }.enrol found device tokens = .ok (s', network)) := by
  simp only [createDevice] at h
  split at h
  · cases h
  next invite hinvite =>
  obtain ⟨-, h⟩ := guard_ok.1 h
  refine ⟨s.invites.insert tokenHash { invite with remainingUses := 0, consumedAt := some now }, ?_⟩
  generalize hs₁ : ({ s with
    invites := s.invites.insert tokenHash
      { invite with remainingUses := 0, consumedAt := some now } } : Store) = s₁ at h ⊢
  have hnetworks : s₁.networks = s.networks := by rw [← hs₁]
  have hdevices : s₁.devices = s.devices := by rw [← hs₁]
  split at h
  · cases h
  next found hnetwork =>
  obtain ⟨-, h⟩ := guard_ok.1 h
  have hfound := network_ok hnetwork
  rw [hnetworks] at hfound
  cases hexisting : s₁.deviceIn invite.networkID request.deviceID with
  | some =>
    rw [hexisting] at h
    simp only [guard_ok, map_eq_ok, Prod.mk.injEq] at h
    obtain ⟨hok, s₂, hreenrol, rfl, rfl, rfl⟩ := h
    obtain ⟨hmem, -, hplace⟩ := deviceIn_some hexisting
    refine ⟨found, hplace ▸ hfound, ?_, .inl ⟨hdevices ▸ hmem, rfl, hreenrol⟩⟩
    by_contra hne
    exact hok (.inr (.inr (.inl hne)))
  | none =>
    rw [hexisting] at h
    simp only [bind_eq_ok] at h
    obtain ⟨_, -, ⟨s₂, _⟩, henrol, he⟩ := h
    cases he
    exact ⟨found, hfound, rfl, .inr henrol⟩

theorem createDevice_enrolled [Netip] {tokenHash : String} (hs : s.Keyed)
    (h : s.createDevice tokenHash request now tokens = .ok (s', device, network)) :
    Enrolled s s' device.id network.id tokens.credentialHash tokens.enrollmentHash := by
  obtain ⟨invites, found, hfound, hactive, hcases⟩ := createDevice_cases h
  have hid : found.id = device.networkID := hs _ _ hfound
  rcases hcases with ⟨hmem, rfl, hreenrol⟩ | henrol
  · refine .of_insertTokens hreenrol hs (.inr ⟨rfl, ?_⟩) (fun h c hc => ?_) rfl rfl
    · rw [hid, ← hactive]
      exact mem_places hmem
    · obtain ⟨c₀, hc₀, hid, hrevoked, -⟩ := lookup_revokeCredentials hc
      exact ⟨c₀, hc₀, hid, hrevoked⟩
  · simp only [enrol, bind_eq_ok] at henrol
    obtain ⟨_, hdevice, ⟨_, _⟩, hadvance, _, htokens, he⟩ := henrol
    cases he
    obtain rfl := insertDevice_ok hdevice
    obtain ⟨hid', _, -, _, -, rfl⟩ := advanceNetworkGeneration_ok hadvance
    -- The invitations are no part of what is enrolled.
    exact { Enrolled.of_insertDevice (s := { s with invites := invites })
      (.putNetwork (s := { s with invites := invites, devices := s.devices ++ [device] }) hs _)
      hactive (hid.symm.trans hid'.symm) htokens with }

/-- A join token is exchanged for the device that its invitation creates. -/
theorem exchange_ok [Netip] [Sha256] {svc : Service} {secrets : Secrets} {r : ExchangeResponse}
    (h : svc.exchange s now request secrets = .ok (s', r)) :
    ∃ request' device network, s.createDevice (hashSecret request.joinToken) request'
        (canonicalTime now) (secrets.tokens svc (canonicalTime now)) = .ok (s', device, network) ∧
      r = secrets.response svc (canonicalTime now) device network := by
  simp only [Service.exchange, guard_ok] at h
  obtain ⟨-, -, h⟩ := h
  split at h
  · cases h
  next =>
  simp only [guard_ok, map_eq_ok] at h
  obtain ⟨-, ⟨_, device, network⟩, hcreate, he⟩ := h
  cases he
  exact ⟨_, device, network, hcreate, rfl⟩

/-- An approved registration is exchanged for a device of its network, which gets a new
    generation. -/
theorem exchangeApproved_ok [Netip] {registrationID : String} {registration : RegistrationRecord}
    (h : s.exchangeApproved now registrationID registration tokens = .ok (s', device, network)) :
    ∃ found address, s.networks.lookup registration.networkID = some found ∧
      found.ownerUserID = registration.ownerUserID ∧
      device = registration.device found address ∧
      network = { found with configGeneration := found.configGeneration + 1 } ∧
      (({ s with devices := s.devices ++ [device] }.setRegistration registrationID { registration with
        status := .consumed, consumedAt := some now }).putNetwork
        network).insertTokens tokens device.id = .ok s' := by
  simp only [exchangeApproved] at h
  split at h
  · cases h
  next found hnetwork =>
  simp only [guard_ok, bind_eq_ok] at h
  obtain ⟨howner, -, address, -, _, hdevice, -, _, htokens, he⟩ := h
  cases he
  obtain rfl := insertDevice_ok hdevice
  exact ⟨found, address, network_ok hnetwork, not_not.1 howner, rfl, rfl, htokens⟩

end Enrolment

/-! ## Sessions and acknowledgements -/

section Sessions

variable {s s' : Store} {device : DeviceRecord} {network : NetworkRecord} {pick : Nat}

/-- A device that a token names, with its network. -/
theorem deviceAndNetwork_ok {deviceID : String}
    (h : s.deviceAndNetwork deviceID pick = .ok (device, network)) :
    device ∈ s.devices ∧ device.id = deviceID ∧
      s.networks.lookup device.networkID = some network := by
  simp only [deviceAndNetwork] at h
  split at h
  · cases h
  next row hfirst =>
  obtain ⟨n, hn, he⟩ := map_eq_ok.1 h
  cases he
  obtain ⟨hmem, hid⟩ := mem_filter.1 (first_mem hfirst)
  exact ⟨hmem, by simpa using hid, network_ok hn⟩

variable {now : Time}

/-- The enrolment token of a device is valid: it is recorded, and not expired. -/
theorem enrolled_ok [Sha256] {token : String}
    (h : s.enrolled now pick token = .ok (device, network)) :
    ∃ e, s.enrollments.lookup (hashSecret token) = some e ∧ canonicalTime now < e.expiresAt ∧
      device ∈ s.devices ∧ device.id = e.deviceID ∧
      s.networks.lookup device.networkID = some network := by
  simp only [enrolled, enrollment] at h
  rcases he : s.enrollments.lookup (hashSecret token) with _ | e <;>
    simp only [he, reduceCtorEq] at h
  rcases hfound : s.deviceAndNetwork e.deviceID pick with _ | found <;>
    simp only [hfound, Except.map, reduceCtorEq] at h
  simp only [guard_ok, ok.injEq, Prod.mk.injEq, not_or, not_le] at h
  obtain ⟨⟨-, hvalid⟩, rfl, rfl⟩ := h
  exact ⟨e, rfl, hvalid, deviceAndNetwork_ok hfound⟩

/-- A session was opened for an active device. -/
theorem mintSession_ok [Sha256] {svc : Service} {credential clientNonce opaqueToken : String}
    {r : DeviceSessionResponse} (hs : s.Keyed)
    (h : svc.mintSession s now pick credential clientNonce opaqueToken = .ok (s', r)) :
    ∃ c device e, s.credentials.lookup (hashSecret credential) = some c ∧ c.revokedAt = none ∧
      device ∈ s.devices ∧ device.id = c.deviceID ∧ device.place = ⟨r.deviceID, r.networkID, .active⟩ ∧
      e.deviceID = r.deviceID ∧
      s' = { s with enrollments := s.enrollments.insert (hashSecret r.enrollmentToken) e } := by
  obtain ⟨-, h⟩ := guard_ok.1 h
  rcases hc : s.credentials.lookup (hashSecret credential) with _ | c <;>
    simp only [Store.credential, hc, reduceCtorEq] at h
  rcases hfound : s.deviceAndNetwork c.deviceID pick with _ | ⟨device, _⟩ <;>
    simp only [hfound, Except.map, reduceCtorEq] at h
  obtain ⟨hmem, hid, hnetwork⟩ := deviceAndNetwork_ok hfound
  simp only [guard_ok, not_or, not_not] at h
  obtain ⟨⟨hrevoked, -, hactive⟩, h⟩ := h
  obtain ⟨_, hs₁, he⟩ := map_eq_ok.1 h
  simp only [insertEnrollment, guard_ok] at hs₁
  cases hs₁.2
  cases he
  refine ⟨c, device, _, rfl, hrevoked, hmem, hid, ?_, rfl, rfl⟩
  rw [place, hactive, hs _ _ hnetwork]

variable {request : SignedConfigAckRequest} {r : SignedConfigAckResponse}

/-- An acknowledgement is of the device and the network that were found, or was recorded before. -/
theorem ack_ok (hs : s.Keyed) (h : s.ack request device network now = .ok (s', r)) :
    Frame { s with acks := s'.acks } s' ∧ s'.networks = s.networks ∧
      ((s'.acks = s.acks ∧ r.ack ∈ s.acks ∧ r.ack.deviceID = device.id) ∨
        (s'.acks = s.acks ++ [r.ack] ∧ r.ack.deviceID = device.id ∧
          r.ack.networkID = network.id)) := by
  obtain ⟨-, h⟩ := guard_ok.1 h
  cases hfind : s.acks.find? fun ack => ack.deviceID == device.id &&
      ack.generation == request.generation with
  | some =>
    rw [hfind] at h
    simp only [guard_ok, ok.injEq, Prod.mk.injEq] at h
    obtain ⟨-, rfl, rfl⟩ := h
    have hp := find?_some hfind
    simp only [Bool.and_eq_true, beq_iff_eq] at hp
    exact ⟨.touchDevices hs _ _, rfl, .inl ⟨rfl, mem_of_find?_eq_some hfind, hp.1⟩⟩
  | none =>
    rw [hfind] at h
    obtain ⟨rfl, rfl⟩ := h
    exact ⟨.touchDevices (s := { s with acks := s.acks ++ [_] }) hs _ _, rfl, .inr ⟨rfl, rfl, rfl⟩⟩

/-- A device of a user, with its network. -/
theorem userDevice_ok {userID deviceID : String}
    (h : s.userDevice userID deviceID = .ok (device, network)) :
    device ∈ s.devices ∧ s.networks.lookup device.networkID = some network := by
  simp only [userDevice] at h
  split at h
  · cases h
  rename_i row hrow
  obtain ⟨n, hn, he⟩ := map_eq_ok.1 h
  cases he
  exact ⟨mem_of_find?_eq_some hrow, network_ok hn⟩

/-- A device with an enrolment token acknowledges a configuration. -/
theorem ackEnrollment_ok [Sha256] {token : String}
    (h : s.ackEnrollment now pick token request = .ok (s', r)) :
    ∃ device network, s.enrolled now pick token = .ok (device, network) ∧
      s.ack request device network (canonicalTime now) = .ok (s', r) := by
  simp only [ackEnrollment] at h
  split at h
  · cases h
  rename_i device network henrolled
  exact ⟨device, network, henrolled, (guard_ok.1 h).2⟩

/-- A user acknowledges a configuration of one of their devices. -/
theorem ackUser_ok [Sha256] {userID : String} (h : s.ackUser now userID request = .ok (s', r)) :
    ∃ device network, s.userDevice userID request.deviceID = .ok (device, network) ∧
      s.ack request device network (canonicalTime now) = .ok (s', r) := by
  simp only [ackUser] at h
  split at h
  · cases h
  rename_i device network hdevice
  exact ⟨device, network, hdevice, (guard_ok.1 h).2⟩

end Sessions

/-! ## Revocation, removal and reactivation -/

/-- Devices of an owner were revoked: the rows of the owner's devices with the
    identifier, the credentials of the devices with the identifier, and at most
    the generation of one network with such a device. -/
structure Revoked (s s' : Store) (ownerUserID deviceID : String) : Prop where
  revocable : ∃ device ∈ s.devices, s.revocable ownerUserID deviceID device
  devices : s'.devices = s.devices.map (s.revokedRow ownerUserID deviceID)
  credentials : ∃ now, s'.credentials = (s.revokeCredentials deviceID now).credentials
  enrollments : s'.enrollments = s.enrollments
  acks : s'.acks = s.acks
  networks : s'.networks = s.networks ∨ ∃ row ∈ s.devices, row.id = deviceID ∧
    ∃ n, s'.networks = s.networks.insert row.networkID n
  keyed : s'.Keyed

/-- A network was removed, with its devices, their tokens and its
    acknowledgements. No other network had a device of the same identifiers. -/
structure Deleted (s s' : Store) (networkID : String) : Prop where
  devices : s'.devices = s.devices.filter (·.networkID != networkID)
  unshared : ∀ device ∈ s.devices, device.networkID = networkID → ∀ other ∈ s.devices,
    other.id = device.id → other.networkID = networkID
  credentials : ∀ h c, s'.credentials.lookup h = some c → s.credentials.lookup h = some c ∧
    ∀ device ∈ s.devices, device.networkID = networkID → device.id ≠ c.deviceID
  enrollments : ∀ h e, s'.enrollments.lookup h = some e → s.enrollments.lookup h = some e ∧
    ∀ device ∈ s.devices, device.networkID = networkID → device.id ≠ e.deviceID
  acks : s'.acks = s.acks.filter (·.networkID != networkID)
  keyed : s'.Keyed

/-- The stable gateway is active again, and its credentials are revoked. -/
structure Reactivated (s s' : Store) : Prop where
  places : s'.places = s.places.map fun place =>
    if place.id = stableUATGatewayID ∧ place.networkID = stableUATNetworkID then
      { place with status := .active } else place
  credentials : ∃ now, s'.credentials = (s.revokeCredentials stableUATGatewayID now).credentials
  enrollments : s'.enrollments = s.enrollments
  acks : s'.acks = s.acks
  keyed : s'.Keyed

/-- Networks or invitations are written before the gateway is active again. -/
theorem Reactivated.of_frame {s s₁ s' : Store} (h : Reactivated s₁ s') (hframe : Frame s s₁) :
    Reactivated s s' where
  places := hframe.places ▸ h.places
  credentials := by
    obtain ⟨now, hcredentials⟩ := h.credentials
    exact ⟨now, by rw [hcredentials, revokeCredentials, revokeCredentials,
      hframe.credentials]⟩
  enrollments := h.enrollments.trans hframe.enrollments
  acks := h.acks.trans hframe.acks
  keyed := h.keyed

section Removal

variable {s s' : Store}

section

variable (owner deviceID : String) (device : DeviceRecord)

/-- A revoked row is where it was. -/
theorem revokedRow_place : (s.revokedRow owner deviceID device).place =
      if s.revocable owner deviceID device then { device.place with status := .revoked }
      else device.place := by
  rw [revokedRow]
  split_ifs <;> rfl

@[simp] theorem revokedRow_id : (s.revokedRow owner deviceID device).id = device.id := by
  rw [revokedRow]
  split_ifs <;> rfl

@[simp] theorem revokedRow_networkID :
    (s.revokedRow owner deviceID device).networkID = device.networkID := by
  rw [revokedRow]
  split_ifs <;> rfl

end

variable {now : Time} {owner : String}

/-- Devices are revoked with their credentials. The network of one of them may get a new
    generation. -/
theorem adminRevokeDevice_cases {svc : Service} {pick : Nat} {deviceID : String}
    (h : svc.adminRevokeDevice s now pick owner deviceID = .ok s') :
    (∃ device ∈ s.devices, s.revocable (trimSpace owner) (trimSpace deviceID) device) ∧
      ∃ s₁, s₁ = { s with devices := s.devices.map (s.revokedRow (trimSpace owner)
          (trimSpace deviceID)) }.revokeCredentials (trimSpace deviceID)
          (canonicalTime now) ∧
        (s' = s₁ ∨ ∃ row ∈ s₁.devices, row.id = trimSpace deviceID ∧
          ∃ network network', s₁.networks.lookup row.networkID = some network ∧
            s₁.advanceNetworkGeneration network = .ok (s', network')) := by
  simp only [Service.adminRevokeDevice, guard_ok, not_not] at h
  obtain ⟨-, hany, h⟩ := h
  refine ⟨any_eq_true.1 hany, _, rfl, ?_⟩
  generalize ({ s with devices := s.devices.map (s.revokedRow (trimSpace owner)
    (trimSpace deviceID)) }.revokeCredentials (trimSpace deviceID) (canonicalTime now)) =
    s₁ at h ⊢
  split at h
  · cases h
  rename_i row hfirst
  obtain ⟨hmem, hrow⟩ := mem_filter.1 (first_mem hfirst)
  split_ifs at h
  · -- The network of the row that was found gets a new generation.
    split at h
    · cases h
    rename_i network hnetwork
    obtain ⟨⟨_, network₂⟩, hadvance, rfl⟩ := map_eq_ok.1 h
    exact .inr ⟨row, hmem, by simpa using hrow, network, network₂, network_ok hnetwork,
      hadvance⟩
  · cases h
    exact .inl rfl

variable (hs : s.Keyed)
include hs

theorem adminRevokeDevice_ok {svc : Service} {pick : Nat} {deviceID : String}
    (h : svc.adminRevokeDevice s now pick owner deviceID = .ok s') :
    Revoked s s' (trimSpace owner) (trimSpace deviceID) := by
  obtain ⟨hany, s₁, hs₁, hcases⟩ := adminRevokeDevice_cases h
  have hrevoked : Revoked s s₁ (trimSpace owner) (trimSpace deviceID) := by
    subst hs₁
    exact ⟨hany, rfl, ⟨canonicalTime now, rfl⟩, rfl, rfl, .inl rfl, hs⟩
  rcases hcases with rfl | ⟨row, hmem, hrow, network, _, hnetwork, hadvance⟩
  · exact hrevoked
  obtain ⟨-, n, hn, policy, -, rfl⟩ := advanceNetworkGeneration_ok hadvance
  have hid : n.id = row.networkID :=
    (hrevoked.keyed _ _ hn).trans (hrevoked.keyed _ _ hnetwork)
  rw [hrevoked.devices] at hmem
  obtain ⟨original, horiginal, rfl⟩ := mem_map.1 hmem
  rw [revokedRow_id] at hrow
  rw [revokedRow_networkID] at hid
  refine { hrevoked with
    networks := .inr ⟨original, horiginal, hrow, { n with
      configGeneration := network.configGeneration + 1, policy := policy }, ?_⟩
    keyed := hrevoked.keyed.putNetwork _ }
  subst hs₁
  rw [← hid]
  rfl

theorem deleteNetwork_ok {networkID : String} (h : s.deleteNetwork owner networkID = .ok s') :
    Deleted s s' (trimSpace networkID) := by
  obtain ⟨-, h⟩ := guard_ok.1 h
  split at h
  · cases h
  next =>
  simp only [guard_ok, ok.injEq] at h
  obtain ⟨-, hshared, rfl⟩ := h
  have hids : ∀ device ∈ s.devices, device.networkID = trimSpace networkID →
      ((s.devices.filter (·.networkID == trimSpace networkID)).map (·.id)).contains
        device.id = true := by
    intro _ hmem hnetwork
    rw [contains_iff_mem]
    exact mem_map_of_mem (mem_filter.2 ⟨hmem, by simpa using hnetwork⟩)
  refine ⟨rfl, fun device hmem hnetwork other hother hid => ?_, fun h c hc => ?_,
    fun h e he => ?_, rfl, fun k n hn => ?_⟩
  · by_contra hne
    refine hshared (any_eq_true.2 ⟨other, hother, ?_⟩)
    rw [hid, hids device hmem hnetwork]
    simpa using hne
  · obtain ⟨hc, hnot⟩ := lookup_filter.1 hc
    refine ⟨hc, fun device hmem hnetwork hid => ?_⟩
    rw [← hid, hids device hmem hnetwork] at hnot
    simp at hnot
  · obtain ⟨he, hnot⟩ := lookup_filter.1 he
    refine ⟨he, fun device hmem hnetwork hid => ?_⟩
    rw [← hid, hids device hmem hnetwork] at hnot
    simp at hnot
  by_cases hk : k = trimSpace networkID
  · subst hk
    simp at hn
  · rw [AList.lookup_erase_ne hk] at hn
    exact hs k n hn

omit hs in
/-- The stable gateway is left as it is, or it was not settled: it gets the key of its network,
    which gets a new generation. -/
theorem reconcileStableUATGatewayKey_cases [Unicode]
    (h : s.reconcileStableUATGatewayKey now n i = .ok s') :
    s' = s ∨ isStableUATGateway n i ∧
      ∃ network device, s.networks.lookup stableUATNetworkID = some network ∧
        s.deviceIn stableUATNetworkID stableUATGatewayID = some device ∧
        ¬ (device.wireGuardPublicKey = network.gatewayWireGuardKey ∧ device.status = .active) ∧
        s' = { s.revokeCredentials device.id (canonicalTime now) with
          devices := s.devices.map (network.rekeyed device.id) }.putNetwork
            { network with configGeneration := network.configGeneration + 1 } := by
  simp only [reconcileStableUATGatewayKey] at h
  by_cases hstable : isStableUATGateway n i
  · rw [if_neg (not_not.2 hstable)] at h
    split at h
    · cases h
    rename_i network hnetwork
    split at h
    · cases h
      exact .inl rfl
    rename_i device hdevice
    obtain ⟨-, h⟩ := guard_ok.1 h
    split_ifs at h with hsettled
    · cases h
      exact .inl rfl
    · cases h
      exact .inr ⟨hstable, network, device, hnetwork, hdevice, hsettled, rfl⟩
  · rw [if_pos hstable] at h
    cases h
    exact .inl rfl

/-- The stable gateway is left as it is, or active again. -/
theorem reconcileStableUATGatewayKey_ok [Unicode]
    (h : s.reconcileStableUATGatewayKey now n i = .ok s') :
    s' = s ∨ (isStableUATGateway n i ∧ Reactivated s s') := by
  rcases reconcileStableUATGatewayKey_cases h with
    rfl | ⟨hstable, network, device, hnetwork, hdevice, -, rfl⟩
  · exact .inl rfl
  obtain ⟨-, hid, -⟩ := deviceIn_some hdevice
  have hkey : network.id = stableUATNetworkID := hs _ _ hnetwork
  refine .inr ⟨hstable, ?_, ⟨canonicalTime now, by rw [hid]; rfl⟩, rfl, rfl, hs.putNetwork _⟩
  simp only [places, putNetwork, map_map]
  refine map_congr_left fun other _ => ?_
  simp only [Function.comp, NetworkRecord.rekeyed, hid, hkey]
  by_cases hother : other.id = stableUATGatewayID ∧ other.networkID = stableUATNetworkID
  · rw [if_pos hother, if_pos (by exact hother)]
    rfl
  · rw [if_neg hother, if_neg (by exact hother)]

end Removal

/-! ## One call -/

/-- The tokens of revoked devices are killed by revocations only. -/
theorem System.killed_eq_nil {sys : System} {a : Action} {r : Reply} (h : r ≠ .done) :
    sys.killed a r = [] := by
  cases a <;> cases r <;> first
    | rfl
    | exact absurd rfl h

section

variable [Sha256] [Unicode]

/-- What a call does to the devices, the tokens and the acknowledgements. -/
inductive Effect (s : Store) : Action → Reply → Store → Prop
  | frame {a : Action} {r : Reply} {s' : Store} (hframe : Frame s s') (hissued : r.issued = [])
      (hkilled : ∀ sys : System, sys.killed a r = []) : Effect s a r s'
  | enrolled {a : Action} {r : ExchangeResponse} {s' : Store}
      (henrolled : Enrolled s s' r.device.id r.network.id (hashSecret r.credential)
        (hashSecret r.enrollmentToken)) : Effect s a (.enrolled r) s'
  | session {a : Action} {r : DeviceSessionResponse} {s' : Store} {e : EnrollmentRecord}
      (hplace : ⟨r.deviceID, r.networkID, .active⟩ ∈ s.places) (he : e.deviceID = r.deviceID)
      (hs' : s' = { s with
        enrollments := s.enrollments.insert (hashSecret r.enrollmentToken) e })
      (hkeyed : s'.Keyed) : Effect s a (.session r) s'
  | ack {a : Action} {r : SignedConfigAckResponse} {s' : Store}
      (hframe : Frame { s with acks := s'.acks } s')
      (hacks : ∀ ack ∈ s'.acks, ack ∈ s.acks ∨ ∃ device ∈ s.devices,
        device.id = ack.deviceID ∧ device.networkID = ack.networkID) : Effect s a (.ack r) s'
  | revoked {now : Time} {pick : Nat} {owner deviceID : String} {s' : Store}
      (hrevoked : Revoked s s' (trimSpace owner) (trimSpace deviceID)) :
      Effect s (.adminRevokeDevice now pick owner deviceID) .done s'
  | deleted {owner networkID : String} {s' : Store}
      (hdeleted : Deleted s s' (trimSpace networkID)) :
      Effect s (.adminDeleteNetwork owner networkID) .done s'
  | reactivated {now : Time} {n : BootstrapNetwork} {i : BootstrapInvite}
      {controllerURL joinToken opaqueToken : String} {r : Reply} {s' : Store}
      (hstable : isStableUATGateway n i) (hreactivated : Reactivated s s')
      (hissued : r.issued = []) :
      Effect s (.adminBootstrap now n i controllerURL joinToken opaqueToken) r s'

namespace Effect

variable {s : Store} {a : Action}

/-- A refused call leaves everything as it is. -/
theorem refused {e : OverlayError} {s' : Store} (hframe : Frame s s') :
    Effect s a (.refused e) s' :=
  .frame hframe rfl fun _ => System.killed_eq_nil (by simp)

section

variable {α : Type} {f : α → Reply} (hs : s.Keyed)

include hs

theorem of_reading (hf : ∀ x, (f x).issued = []) (hdone : ∀ x, f x ≠ .done)
    (x : Except OverlayError α) : Effect s a (s.reading f x).1 (s.reading f x).2 := by
  cases x with
  | error => exact .refused (.refl hs)
  | ok x => exact .frame (.refl hs) (hf x) fun _ => System.killed_eq_nil (hdone x)

theorem of_writing {x : Except OverlayError (Store × α)}
    (hx : ∀ s' y, x = .ok (s', y) → Effect s a (f y) s') :
    Effect s a (s.writing f x).1 (s.writing f x).2 := by
  cases x with
  | error => exact .refused (.refl hs)
  | ok r => exact hx r.1 r.2 rfl

end

theorem of_changing (hs : s.Keyed) {x : Except OverlayError Store}
    (hx : ∀ s', x = .ok s' → Effect s a .done s') :
    Effect s a (s.changing x).1 (s.changing x).2 := by
  cases x with
  | error => exact .refused (.refl hs)
  | ok s' => exact hx s' rfl

end Effect

/-- An acknowledgement, of a device that was found with its network. -/
theorem effect_ack {s s' : Store} {a : Action} {request : SignedConfigAckRequest}
    {device : DeviceRecord} {network : NetworkRecord} {now : Time} {r : SignedConfigAckResponse}
    (hs : s.Keyed) (hmem : device ∈ s.devices)
    (hnetwork : s.networks.lookup device.networkID = some network)
    (h : s.ack request device network now = .ok (s', r)) : Effect s a (.ack r) s' := by
  obtain ⟨hframe, -, hacks⟩ := ack_ok hs h
  refine .ack hframe fun ack hack => ?_
  rcases hacks with ⟨heq, -⟩ | ⟨heq, hid, hnet⟩
  · exact .inl (heq ▸ hack)
  · rw [heq, mem_append, mem_singleton] at hack
    rcases hack with hack | rfl
    · exact .inl hack
    · exact .inr ⟨device, hmem, hid.symm, (hs _ _ hnetwork).symm.trans hnet.symm⟩

variable [Netip] [PolicyJSON] (svc : Service)

omit [PolicyJSON] in
/-- A network is set up, and then the stable gateway may be brought up to date. -/
theorem adminBootstrap_eq (s : Store) (now : Time) (n : BootstrapNetwork) (i : BootstrapInvite)
    (controllerURL joinToken opaqueToken : String) :
    (s.adminBootstrap now n i controllerURL joinToken opaqueToken).2 = s ∨
      ∃ s₁ token, s.seed now n i joinToken opaqueToken = .ok (s₁, token) ∧
        ((s.adminBootstrap now n i controllerURL joinToken opaqueToken).2 = s₁ ∨
          s₁.reconcileStableUATGatewayKey now n i =
            .ok (s.adminBootstrap now n i controllerURL joinToken opaqueToken).2) := by
  unfold adminBootstrap
  rcases hseed : s.seed now n i joinToken opaqueToken with e | seeded
  · exact .inl rfl
  obtain ⟨s₁, token⟩ := seeded
  refine .inr ⟨s₁, token, rfl, ?_⟩
  dsimp only
  cases hreconcile : s₁.reconcileStableUATGatewayKey now n i with
  | error => exact .inl rfl
  | ok =>
    refine .inr ?_
    split_ifs <;> rfl

/-- Every call has one of the effects. -/
theorem effect_call {s : Store} (hs : s.Keyed) (a : Action) :
    Effect s a (a.call svc s).1 (a.call svc s).2 := by
  unfold Action.call
  cases a with
  | seed =>
    exact .of_writing hs fun s' y h => .frame (seed_frame hs h) rfl fun _ => rfl
  | adminBootstrap now n i controllerURL joinToken opaqueToken =>
    have hcases := adminBootstrap_eq s now n i controllerURL joinToken opaqueToken
    dsimp only
    generalize s.adminBootstrap now n i controllerURL joinToken opaqueToken = x at hcases
    -- The stable gateway is as it was, or active again.
    replace hcases : Frame s x.2 ∨ isStableUATGateway n i ∧ Reactivated s x.2 := by
      rcases hcases with heq | ⟨_, token, hseed, heq | hreconcile⟩
      · rw [heq]
        exact .inl (.refl hs)
      · exact .inl (heq ▸ seed_frame hs hseed)
      have hframe := seed_frame hs hseed
      rcases reconcileStableUATGatewayKey_ok hframe.keyed hreconcile with
        heq | ⟨hstable, hreactivated⟩
      · exact .inl (heq ▸ hframe)
      · exact .inr ⟨hstable, hreactivated.of_frame hframe⟩
    obtain ⟨_ | _, s'⟩ := x
    · exact hcases.elim .refused fun h => .reactivated h.1 h.2 rfl
    · exact hcases.elim (fun h => .frame h rfl fun _ => rfl) fun h => .reactivated h.1 h.2 rfl
  | adminCreateInvite =>
    refine .of_writing hs fun s' y h => ?_
    obtain ⟨_, rfl⟩ := adminCreateInvite_ok h
    exact .frame (.of_devices hs rfl rfl rfl rfl) rfl fun _ => rfl
  | adminUpdatePolicy =>
    refine .of_writing hs fun s' y h => ?_
    obtain ⟨network, -, -, -, rfl⟩ := adminUpdatePolicy_ok h
    exact .frame (.putNetwork hs _) rfl fun _ => rfl
  | adminDeleteNetwork =>
    exact .of_changing hs fun s' h => .deleted (deleteNetwork_ok hs h)
  | reconcileStableGateway =>
    exact .of_changing hs fun s' h => .frame (reconcileStableGateway_frame hs h) rfl fun _ => rfl
  | recordRuntimeObservation =>
    refine .of_changing hs fun s' h => ?_
    obtain ⟨_, rfl⟩ := recordRuntimeObservation_ok h
    exact .frame (.touchDevices hs _ _) rfl fun _ => rfl
  | adminRevokeDevice =>
    exact .of_changing hs fun s' h => .revoked (adminRevokeDevice_ok hs h)
  | register =>
    refine .of_writing hs fun s' y h => ?_
    obtain ⟨r, -, -, rfl⟩ := register_ok h
    exact .frame (.of_devices hs rfl rfl rfl rfl) rfl fun _ => rfl
  | expireRegistrations =>
    refine .of_changing hs fun s' h => ?_
    obtain ⟨registrations, rfl⟩ := expireRegistrations_ok h
    exact .frame (.of_devices hs rfl rfl rfl rfl) rfl fun _ => rfl
  | adminTransitionRegistration now owner registrationID decision =>
    dsimp only
    rcases adminTransitionRegistration_eq s now owner registrationID decision with
      ⟨e, s', hlapses, heq⟩ | ⟨r, -, -, -, -, -, heq⟩
    · obtain ⟨registrations, rfl⟩ := hlapses.eq
      rw [heq]
      exact .refused (.of_devices hs rfl rfl rfl rfl)
    · rw [heq]
      exact .frame (.of_devices hs rfl rfl rfl rfl) rfl fun _ => rfl
  | exchangeRegistration now registrationID token secrets =>
    dsimp only
    rcases exchangeRegistration_eq s svc now registrationID token secrets with
      ⟨e, s', hlapses, heq⟩ | ⟨registration, s', device, network, -, -, -, hexchange, heq⟩
    · obtain ⟨registrations, rfl⟩ := hlapses.eq
      rw [heq]
      exact .refused (.of_devices hs rfl rfl rfl rfl)
    · rw [heq]
      obtain ⟨_, _, -, -, rfl, rfl, htokens⟩ := exchangeApproved_ok hexchange
      refine .enrolled (.of_insertDevice ?_ rfl rfl htokens)
      exact .of_devices (Store.Keyed.putNetwork hs _) rfl rfl rfl rfl
  | exchange =>
    refine .of_writing hs fun s' r h => ?_
    obtain ⟨_, device, network, hcreate, rfl⟩ := exchange_ok h
    exact .enrolled (createDevice_enrolled hs hcreate)
  | mintSession =>
    refine .of_writing hs fun s' r h => ?_
    obtain ⟨c, device, e, -, -, hmem, -, hplace, he, rfl⟩ := mintSession_ok hs h
    exact .session (hplace ▸ mem_places hmem) he rfl hs
  | enrollmentConfig | gatewayConfig | policyArtifact | userConfig =>
    exact .of_reading hs (fun _ => rfl) (fun _ => by simp) _
  | ackEnrollment =>
    refine .of_writing hs fun s' r h => ?_
    obtain ⟨device, network, henrolled, hack⟩ := ackEnrollment_ok h
    obtain ⟨e, -, -, hmem, -, hnetwork⟩ := enrolled_ok henrolled
    exact effect_ack hs hmem hnetwork hack
  | ackUser =>
    refine .of_writing hs fun s' r h => ?_
    obtain ⟨device, network, hdevice, hack⟩ := ackUser_ok h
    obtain ⟨hmem, hnetwork⟩ := userDevice_ok hdevice
    exact effect_ack hs hmem hnetwork hack

end

end Accounts.Overlay

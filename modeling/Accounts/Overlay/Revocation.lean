import Accounts.Overlay.Consistency

/-!
# Tokens of revoked devices

Once a device is revoked, no call with a token it was issued before should give
access (`System.Leaks`). Two calls do not look at the status of the device, and
give access with an enrolment token until it expires (`revoked_token_leaks`).
The others look at the device that a query for its identifier finds, which may
be a device of another network.

If these two calls are made with expired tokens only, and no identifier of a
revoked device is in use elsewhere or used again (`Cautious`), then no call gives
access (`no_leak_of_cautious`): the devices of all revoked tokens are revoked,
and so are the credentials (`System.Shut`).
-/

namespace Accounts.Overlay

open Text List Store

/-- The token is not one of a revoked device, or it is expired. -/
def System.spent (sys : System) (now : Time) (hash : String) : Bool :=
  !sys.dead.contains (.enrollment, hash) ||
    (sys.store.enrollments.lookup hash).all fun e => e.expiresAt ≤ canonicalTime now

/-- A device that is enrolled has no identifier of a revoked device. -/
def Reply.fresh (s : Store) : Reply → Bool
  | .enrolled r => s.devices.all fun device =>
    device.id != r.device.id || device.status == .active
  | _ => true

section

variable [Unicode] [Netip] [Sha256] [PolicyJSON] (svc : Service)

/-- A call with a token of a revoked device gives access. -/
def System.Leaks (sys : System) (a : Action) : Prop :=
  a.token.any (sys.dead.contains ·) ∧ (a.call svc sys.store).1.network.isSome

instance (sys : System) (a : Action) : Decidable (sys.Leaks svc a) :=
  inferInstanceAs (Decidable (_ ∧ _))

omit [Netip] [PolicyJSON] in
/-- What a call is made with: an expired token, where the status of the device is
    not looked at; for a revocation, an identifier of which all active devices
    are of the owner; for the stable gateway, one that was not revoked. -/
def Action.careful (sys : System) : Action → Bool
  | .enrollmentConfig now _ token _ _ _ => sys.spent now (hashSecret token)
  | .ackEnrollment now _ token _ => sys.spent now (hashSecret token)
  | .adminRevokeDevice _ _ owner deviceID => sys.store.devices.all fun device =>
    device.id != trimSpace deviceID || device.status != .active ||
      sys.store.revocable (trimSpace owner) (trimSpace deviceID) device
  | .adminBootstrap _ n i _ _ _ => !isStableUATGateway n i || sys.store.devices.all fun device =>
    device.id != stableUATGatewayID || device.status == .active
  | _ => true

/-- The calls that leave no revoked token with access. -/
def Cautious (sys : System) (a : Action) : Prop :=
  a.careful sys ∧ (a.call svc sys.store).1.fresh sys.store

instance (sys : System) (a : Action) : Decidable (Cautious svc sys a) :=
  inferInstanceAs (Decidable (_ ∧ _))

end

/-! ## The invariant -/

/-- The revoked tokens are shut out: the credentials are revoked, and so is every
    device that an enrolment token may be taken for. -/
structure System.Shut (sys : System) : Prop where
  consistent : sys.Consistent
  credentials : ∀ hash c, (.credential, hash) ∈ sys.dead →
    sys.store.credentials.lookup hash = some c → c.revokedAt ≠ none
  enrollments : ∀ hash e, (.enrollment, hash) ∈ sys.dead →
    sys.store.enrollments.lookup hash = some e →
    ∀ place ∈ sys.store.places, place.id = e.deviceID → place.status = .revoked

theorem System.Shut.init : System.init.Shut where
  consistent := .init
  credentials hash c h := by simp [System.init] at h
  enrollments hash e h := by simp [System.init] at h

/-- A token that a revocation kills is recorded for the identifier revoked. -/
theorem System.Consistent.holder_of_killed {sys : System} (h : sys.Consistent) {now : Time}
    {pick : Nat} {owner deviceID id : String} {token : Token}
    (hkilled : token ∈ sys.killed (.adminRevokeDevice now pick owner deviceID) .done)
    (hholder : sys.store.holder token = some id) : id = trimSpace deviceID := by
  simp only [System.killed, mem_map, mem_filter, any_eq_true, Bool.and_eq_true,
    beq_iff_eq] at hkilled
  obtain ⟨⟨token', place⟩, ⟨hentry, _, -, hrevocable, hplace⟩, rfl⟩ := hkilled
  obtain ⟨networkID, -, hissued⟩ := h.tokens _ _ hholder
  have hlookup : sys.issued.lookup token' = some place := AList.mem_lookup_iff.2 hentry
  obtain rfl : place = (networkID, id) := Option.some.inj (hlookup.symm.trans hissued)
  simp only [revocable, Bool.and_eq_true, beq_iff_eq] at hrevocable
  exact (Prod.mk.inj hplace).2.trans hrevocable.1.1

section

variable [Unicode] [Netip] [Sha256] [PolicyJSON] (svc : Service)

/-- The tokens of revoked devices after a call. -/
theorem System.mem_dead_step {sys : System} {a : Action} {token : Token} :
    token ∈ (sys.step svc a).dead ↔
      (token ∈ sys.dead ∨ token ∈ sys.killed a (a.call svc sys.store).1) ∧
        token ∉ (a.call svc sys.store).1.issued.map Prod.fst := by
  simp only [System.step, mem_filter, mem_append, Bool.not_eq_true', any_eq_false,
    beq_iff_eq, mem_map, not_exists, not_and]

section Effects

variable {sys : System} {a : Action} {r : Reply} {s' : Store}
  (heffect : Effect sys.store a r s') (h : sys.Shut)
include heffect h

omit [Netip] [PolicyJSON]

/-- A credential stays revoked, and those of a revoked device are revoked. -/
theorem Effect.credential_revoked {hash : String} {c : CredentialRecord}
    (hdead : (.credential, hash) ∈ sys.dead ∨ (.credential, hash) ∈ sys.killed a r)
    (hnew : (.credential, hash) ∉ r.issued.map Prod.fst)
    (hc : s'.credentials.lookup hash = some c) : c.revokedAt ≠ none := by
  cases heffect with
  | frame hframe _ hkilled =>
    replace hdead := hdead.resolve_right (by simp [hkilled])
    exact h.credentials hash c hdead (hframe.credentials ▸ hc)
  | enrolled henrolled =>
    replace hdead := hdead.resolve_right (by simp [System.killed_eq_nil])
    rcases henrolled.credentials hash c hc with ⟨rfl, -⟩ | ⟨-, c₀, hc₀, -, hrevoked⟩
    · exact absurd (by simp [Reply.issued]) hnew
    · exact hrevoked (h.credentials hash c₀ hdead hc₀)
  | session _ _ hs' =>
    subst hs'
    replace hdead := hdead.resolve_right (by simp [System.killed_eq_nil])
    exact h.credentials hash c hdead hc
  | ack hframe =>
    replace hdead := hdead.resolve_right (by simp [System.killed_eq_nil])
    rw [hframe.credentials] at hc
    exact h.credentials hash c hdead hc
  | revoked hrevoked =>
    obtain ⟨now, hcredentials⟩ := hrevoked.credentials
    rw [hcredentials] at hc
    obtain ⟨c₀, hc₀, hid, hkept, hall, -⟩ := lookup_revokeCredentials hc
    rcases hdead with hdead | hkilled
    · exact hkept (h.credentials hash c₀ hdead hc₀)
    · refine hall (h.consistent.holder_of_killed hkilled ?_)
      simp [Store.holder, hc₀, hid]
  | deleted hdeleted =>
    replace hdead := hdead.resolve_right not_mem_nil
    exact h.credentials hash c hdead (hdeleted.credentials hash c hc).1
  | reactivated _ hreactivated =>
    replace hdead := hdead.resolve_right not_mem_nil
    obtain ⟨now, hcredentials⟩ := hreactivated.credentials
    rw [hcredentials] at hc
    obtain ⟨c₀, hc₀, -, hkept, -⟩ := lookup_revokeCredentials hc
    exact hkept (h.credentials hash c₀ hdead hc₀)

/-- The devices of revoked enrolment tokens stay revoked, and those of a revoked
    device are all revoked, if the calls are cautious. -/
theorem Effect.device_revoked (hcareful : a.careful sys) (hfresh : r.fresh sys.store)
    {hash : String} {e : EnrollmentRecord}
    (hdead : (.enrollment, hash) ∈ sys.dead ∨ (.enrollment, hash) ∈ sys.killed a r)
    (hnew : (.enrollment, hash) ∉ r.issued.map Prod.fst)
    (he : s'.enrollments.lookup hash = some e) {place : Place} (hmem : place ∈ s'.places)
    (hid : place.id = e.deviceID) : place.status = .revoked := by
  cases heffect with
  | frame hframe _ hkilled =>
    replace hdead := hdead.resolve_right (by simp [hkilled])
    exact h.enrollments hash e hdead (hframe.enrollments ▸ he) place (hframe.places ▸ hmem) hid
  | enrolled henrolled =>
    replace hdead := hdead.resolve_right (by simp [System.killed_eq_nil])
    rcases henrolled.enrollments hash e he with ⟨rfl, -⟩ | ⟨-, he⟩
    · exact absurd (by simp [Reply.issued]) hnew
    have hrevoked := h.enrollments hash e hdead he
    rcases henrolled.places with hplaces | ⟨hplaces, -⟩
    · rw [hplaces, mem_append, mem_singleton] at hmem
      rcases hmem with hmem | rfl
      · exact hrevoked place hmem hid
      -- The token names a revoked device, whose identifier is not enrolled again.
      obtain ⟨networkID, hhouses, -⟩ :=
        h.consistent.tokens (.enrollment, hash) e.deviceID (by simp [Store.holder, he])
      obtain ⟨device, hdevice, -, hdeviceID⟩ := hhouses.exists_device
      have hstatus : device.status = .revoked :=
        hrevoked device.place (mem_places hdevice) hdeviceID
      have hactive := all_eq_true.1 hfresh device hdevice
      simp [hdeviceID, ← hid, hstatus] at hactive
    · exact hrevoked place (hplaces ▸ hmem) hid
  | session _ _ hs' =>
    subst hs'
    replace hdead := hdead.resolve_right (by simp [System.killed_eq_nil])
    rcases Table.lookup_insert_iff.1 he with ⟨rfl, -⟩ | ⟨-, he⟩
    · exact absurd (by simp [Reply.issued]) hnew
    · exact h.enrollments hash e hdead he place hmem hid
  | ack hframe =>
    replace hdead := hdead.resolve_right (by simp [System.killed_eq_nil])
    rw [hframe.enrollments] at he
    rw [hframe.places] at hmem
    exact h.enrollments hash e hdead he place hmem hid
  | @revoked now pick owner deviceID _ hrevoked =>
    rw [hrevoked.enrollments] at he
    obtain ⟨row, hrow, rfl⟩ := mem_map.1 hmem
    rw [hrevoked.devices] at hrow
    obtain ⟨device, hdevice, rfl⟩ := mem_map.1 hrow
    rw [revokedRow_place] at hid ⊢
    by_cases hrevocable : sys.store.revocable (trimSpace owner) (trimSpace deviceID) device
    · rw [if_pos hrevocable]
    rw [if_neg hrevocable] at hid ⊢
    rcases hdead with hdead | hkilled
    · exact h.enrollments hash e hdead he device.place (mem_places hdevice) hid
    -- All active devices with the identifier are revoked.
    have hkey : e.deviceID = trimSpace deviceID :=
      h.consistent.holder_of_killed hkilled (by simp [Store.holder, he])
    have hcovered := all_eq_true.1 hcareful device hdevice
    have hdeviceID : device.id = trimSpace deviceID := hid.trans hkey
    have hinactive : device.status ≠ .active := by
      simpa [hdeviceID, hrevocable] using hcovered
    cases hstatus : device.status with
    | active => exact absurd hstatus hinactive
    | revoked => exact hstatus
  | deleted hdeleted =>
    replace hdead := hdead.resolve_right not_mem_nil
    obtain ⟨row, hrow, rfl⟩ := mem_map.1 hmem
    rw [hdeleted.devices, mem_filter] at hrow
    exact h.enrollments hash e hdead (hdeleted.enrollments hash e he).1 row.place
      (mem_places hrow.1) hid
  | reactivated hstable hreactivated =>
    replace hdead := hdead.resolve_right not_mem_nil
    rw [hreactivated.enrollments] at he
    rw [hreactivated.places] at hmem
    obtain ⟨place, hplace, rfl⟩ := mem_map.1 hmem
    obtain ⟨device, hdevice, rfl⟩ := mem_map.1 hplace
    by_cases hgateway : device.place.id = stableUATGatewayID ∧
        device.place.networkID = stableUATNetworkID
    · -- The gateway was not revoked, so no revoked token names it.
      rw [if_pos hgateway] at hid
      have hstatus := h.enrollments hash e hdead he device.place hplace hid
      simp only [Action.careful, hstable, Bool.not_true, Bool.false_or] at hcareful
      have hactive := all_eq_true.1 hcareful device hdevice
      have hdeviceID : device.id = stableUATGatewayID := hgateway.1
      have hrevoked : device.status = .revoked := hstatus
      simp [hdeviceID, hrevoked] at hactive
    · rw [if_neg hgateway] at hid ⊢
      exact h.enrollments hash e hdead he device.place hplace hid

end Effects

section

variable {sys : System} (h : sys.Shut) {a : Action}

include h

/-- Cautious calls keep the revoked tokens shut out. -/
theorem System.Shut.step (ha : Cautious svc sys a) : (sys.step svc a).Shut := by
  have heffect := effect_call svc h.consistent.keyed a
  refine ⟨h.consistent.step svc a, fun hash c hmem hc => ?_, fun hash e hmem he place hplace hid => ?_⟩
  · obtain ⟨hdead, hnew⟩ := (System.mem_dead_step svc).1 hmem
    exact heffect.credential_revoked h hdead hnew hc
  · obtain ⟨hdead, hnew⟩ := (System.mem_dead_step svc).1 hmem
    exact heffect.device_revoked h ha.1 ha.2 hdead hnew he hplace hid

/-- While they are shut out, no cautious call gives access. -/
theorem System.Shut.not_leaks (ha : a.careful sys) : ¬ sys.Leaks svc a := by
  rintro ⟨htoken, hgranted⟩
  obtain ⟨token, htoken, hdead⟩ := (Option.any_eq_true _ _).1 htoken
  rw [contains_iff_mem] at hdead
  obtain ⟨_, hnetwork⟩ := Option.isSome_iff_exists.1 hgranted
  obtain ⟨device, hmem, hholder, hchecked, -⟩ :=
    call_granted svc h.consistent.keyed htoken hnetwork
  -- The device that an enrolment token is taken for is revoked.
  have hstatus : ∀ hash, token = (.enrollment, hash) → device.status = .revoked := by
    rintro hash rfl
    obtain ⟨e, he, hid⟩ := Option.map_eq_some_iff.1 hholder
    exact h.enrollments hash e hdead he device.place (mem_places hmem) hid.symm
  cases a with
  | mintSession =>
    cases htoken
    obtain ⟨c, hc, hvalid⟩ := hchecked
    exact h.credentials _ c hdead hc hvalid
  | enrollmentConfig | ackEnrollment =>
    cases htoken
    obtain ⟨e, he, hvalid⟩ := hchecked
    -- The token was not to be used before it expires.
    exact absurd (by simpa [Action.careful, System.spent, he, hdead] using ha) (not_le.2 hvalid)
  | gatewayConfig | policyArtifact =>
    cases htoken
    exact absurd (hchecked.symm.trans (hstatus _ rfl)) (by simp)
  | _ => cases htoken

end

/-- In every run of cautious calls, no call with a token of a revoked device gives access. -/
theorem no_leak_of_cautious {as : List Action}
    (h : Run.Guarded (System.step svc) (Cautious svc) .init as) :
    Run.Guarded (System.step svc) (fun sys a => ¬ sys.Leaks svc a) .init as :=
  h.imp (P := System.Shut) (fun _ _ ha hshut => hshut.step svc ha)
    (fun _ _ ha hshut => hshut.not_leaks svc ha.1) .init

end

/-! ## A token that outlives its device -/

section

local instance revocationUnicode : Unicode := Unicode.ascii
local instance revocationNetip : Netip := Netip.dotted
local instance revocationSha256 : Sha256 := ⟨id⟩
local instance revocationPolicyJSON : PolicyJSON := ⟨fun _ => ""⟩

/-- After a revocation, the calls that look at the status of the device are
    refused, and so are the others once the token is expired. -/
theorem no_leak_of_cautious_sample : let as := Sample.alice "laptop" ++
      [ .adminRevokeDevice 0 0 "alice" "laptop",
        .mintSession 0 0 "xdc_1.c" "nonce" "new",
        .policyArtifact 0 0 "xenr_e" 2 (policyDigest (defaultPolicyArtifact "net-a" 2)),
        .enrollmentConfig Time.hour 0 "xenr_e" "laptop" "" false ]
    Run.Guarded (System.step {}) (Cautious {}) .init as ∧
      Run.Guarded (System.step {}) (fun sys a => ¬ sys.Leaks {} a) .init as := by
  intro as
  have h : Run.Guarded (System.step {}) (Cautious {}) .init as := by decide +kernel
  exact ⟨h, no_leak_of_cautious {} h⟩

/-- A device is enrolled, and revoked. -/
def revokedLaptop : List Action :=
  Sample.alice "laptop" ++ [.adminRevokeDevice 0 0 "alice" "laptop"]

/-- Its enrolment token is still good for a configuration, and for an acknowledgement. -/
theorem revoked_token_leaks : let sys := Run.exec (System.step {}) .init revokedLaptop
    sys.Leaks {} (.enrollmentConfig 0 0 "xenr_e" "laptop" "" false) ∧
      sys.Leaks {} (.ackEnrollment 0 0 "xenr_e"
        ⟨2, configID "net-a" "laptop" 2, "laptop", Time.day⟩) := by
  decide +kernel

end

end Accounts.Overlay

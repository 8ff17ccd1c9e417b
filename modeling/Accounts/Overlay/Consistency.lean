import Accounts.Overlay.Effects

/-!
# Tokens and the devices they name

Along every run, whatever the calls, a recorded token names a device there is,
with the identifier and in the network that the token was issued for, and an
acknowledgement names a device of its network (`System.Consistent`, which every
step keeps: `System.Consistent.step`). Which device a query for the identifier finds is another
matter: devices of several networks may share one. A call that is granted with a
token found such a device, and checked it, or not (`call_granted`).
-/

namespace Accounts.Overlay

open Except List Option Store Reply

/-! ## Devices and holders -/

namespace Store

/-- The network has a device with the identifier. -/
def Houses (s : Store) (networkID id : String) : Prop :=
  ∃ place ∈ s.places, place.networkID = networkID ∧ place.id = id

theorem houses_of_mem {s : Store} {device : DeviceRecord} (h : device ∈ s.devices) :
    s.Houses device.networkID device.id :=
  ⟨device.place, mem_places h, rfl, rfl⟩

theorem Houses.exists_device {s : Store} {networkID id : String} (h : s.Houses networkID id) :
    ∃ device ∈ s.devices, device.networkID = networkID ∧ device.id = id := by
  obtain ⟨_, hmem, hnetwork, hid⟩ := h
  obtain ⟨device, hdevice, rfl⟩ := List.mem_map.1 hmem
  exact ⟨device, hdevice, hnetwork, hid⟩

/-- The identifier of the device that a token is recorded for. -/
def holder (s : Store) : Token → Option String
  | (.credential, hash) => (s.credentials.lookup hash).map (·.deviceID)
  | (.enrollment, hash) => (s.enrollments.lookup hash).map (·.deviceID)

end Store

variable {s s' : Store} {networkID id : String}

theorem Frame.houses (h : Frame s s') (hs : s.Houses networkID id) : s'.Houses networkID id := by
  rw [Store.Houses, h.places]
  exact hs

theorem Frame.holder (h : Frame s s') (token : Token) : s'.holder token = s.holder token := by
  obtain ⟨_ | _, -⟩ := token
  · rw [Store.holder, Store.holder, h.credentials]
  · rw [Store.holder, Store.holder, h.enrollments]

section Enrolled

variable {deviceID enrolledIn credentialHash enrollmentHash : String}
  (h : Enrolled s s' deviceID enrolledIn credentialHash enrollmentHash)
include h

theorem Enrolled.houses (hs : s.Houses networkID id) : s'.Houses networkID id := by
  obtain ⟨place, hmem, heq⟩ := hs
  refine ⟨place, ?_, heq⟩
  rcases h.places with hplaces | ⟨hplaces, -⟩
  · rw [hplaces]
    exact mem_append_left _ hmem
  · rwa [hplaces]

theorem Enrolled.houses_self : s'.Houses enrolledIn deviceID := by
  refine ⟨⟨deviceID, enrolledIn, .active⟩, ?_, rfl, rfl⟩
  rcases h.places with hplaces | ⟨hplaces, hmem⟩
  · rw [hplaces]
    exact mem_append_right _ (mem_singleton_self _)
  · rwa [hplaces]

/-- A token is one of the two that were recorded, or was recorded before. -/
theorem Enrolled.holder {token : Token} (hholder : s'.holder token = some id) :
    (id = deviceID ∧ (token = (.credential, credentialHash) ∨
      token = (.enrollment, enrollmentHash))) ∨
    (token ≠ (.credential, credentialHash) ∧ token ≠ (.enrollment, enrollmentHash) ∧
      s.holder token = some id) := by
  obtain ⟨_ | _, hash⟩ := token
  · obtain ⟨c, hc, rfl⟩ := map_eq_some_iff.1 hholder
    rcases h.credentials hash c hc with ⟨rfl, hid⟩ | ⟨hne, _, hc₀, hid, -⟩
    · exact .inl ⟨hid, .inl rfl⟩
    · refine .inr ⟨by simpa using hne, by simp, ?_⟩
      simp [holder, hc₀, hid]
  · obtain ⟨e, he, rfl⟩ := map_eq_some_iff.1 hholder
    rcases h.enrollments hash e he with ⟨rfl, hid⟩ | ⟨hne, he₀⟩
    · exact .inl ⟨hid, .inr rfl⟩
    · refine .inr ⟨by simp, by simpa using hne, ?_⟩
      simp [holder, he₀]

end Enrolled

/-- Revoking credentials leaves them recorded for the same devices. -/
theorem holder_of_revokeCredentials {deviceID : String} {now : Time}
    (hcredentials : s'.credentials = (s.revokeCredentials deviceID now).credentials)
    (henrollments : s'.enrollments = s.enrollments) {token : Token}
    (hholder : s'.holder token = some id) : s.holder token = some id := by
  obtain ⟨_ | _, hash⟩ := token
  · obtain ⟨c, hc, rfl⟩ := map_eq_some_iff.1 hholder
    rw [hcredentials] at hc
    obtain ⟨_, hc₀, hid, -⟩ := lookup_revokeCredentials hc
    simp [holder, hc₀, hid]
  · rw [← hholder, holder, holder, henrollments]

theorem Revoked.houses {owner deviceID : String} (h : Revoked s s' owner deviceID)
    (hs : s.Houses networkID id) : s'.Houses networkID id := by
  obtain ⟨device, hmem, hnetwork, hid⟩ := hs.exists_device
  refine ⟨(s.revokedRow owner deviceID device).place, ?_, ?_⟩
  · refine mem_places ?_
    rw [h.devices]
    exact List.mem_map_of_mem hmem
  · rw [revokedRow_place]
    split_ifs <;> exact ⟨hnetwork, hid⟩

theorem Reactivated.houses (h : Reactivated s s') (hs : s.Houses networkID id) :
    s'.Houses networkID id := by
  obtain ⟨_, hmem, heq⟩ := hs
  rw [Store.Houses, h.places]
  refine ⟨_, List.mem_map_of_mem hmem, ?_⟩
  split_ifs <;> exact heq

section

variable {deleted : String} (h : Deleted s s' deleted)

include h

theorem Deleted.houses (hs : s.Houses networkID id) (hne : networkID ≠ deleted) :
    s'.Houses networkID id := by
  obtain ⟨_, hmem, rfl, rfl⟩ := hs.exists_device
  refine houses_of_mem ?_
  rw [h.devices, mem_filter]
  exact ⟨hmem, by simpa using hne⟩

/-- The tokens that are left are of devices in other networks. -/
theorem Deleted.holder {token : Token} (hholder : s'.holder token = some id) :
    s.holder token = some id ∧ ¬ s.Houses deleted id := by
  obtain ⟨_ | _, hash⟩ := token
  · obtain ⟨c, hc, rfl⟩ := map_eq_some_iff.1 hholder
    obtain ⟨hc₀, hother⟩ := h.credentials hash c hc
    refine ⟨by simp [holder, hc₀], fun hhouses => ?_⟩
    obtain ⟨device, hmem, hnetwork, hid⟩ := hhouses.exists_device
    exact hother device hmem hnetwork hid
  · obtain ⟨e, he, rfl⟩ := map_eq_some_iff.1 hholder
    obtain ⟨he₀, hother⟩ := h.enrollments hash e he
    refine ⟨by simp [holder, he₀], fun hhouses => ?_⟩
    obtain ⟨device, hmem, hnetwork, hid⟩ := hhouses.exists_device
    exact hother device hmem hnetwork hid

end

/-! ## Runs -/

section

variable [Sha256] {token : Token} {r : Reply}

section

variable {t : Table Token (String × String)}

/-- The tokens that a reply hands out differ. -/
theorem Reply.lookup_issued {v : String × String} (h : (token, v) ∈ r.issued) :
    (r.issued.foldl (fun t entry => t.insert entry.1 entry.2) t).lookup token = some v := by
  cases r with
  | enrolled =>
    simp only [issued, mem_cons, Prod.mk.injEq, not_mem_nil, or_false] at h
    rcases h with ⟨rfl, rfl⟩ | ⟨rfl, rfl⟩
    · simp [issued]
    · simp [issued]
  | session =>
    simp only [issued, mem_singleton, Prod.mk.injEq] at h
    obtain ⟨rfl, rfl⟩ := h
    simp [issued]
  | _ => simp [issued] at h

/-- Any other token is as it was. -/
theorem Reply.lookup_not_issued (h : token ∉ r.issued.map Prod.fst) :
    (r.issued.foldl (fun t entry => t.insert entry.1 entry.2) t).lookup token = t.lookup token := by
  generalize r.issued = entries at h
  induction entries generalizing t with
  | nil => rfl
  | cons _ _ ih =>
    rw [map_cons, mem_cons, not_or] at h
    obtain ⟨hne, hrest⟩ := h
    rw [foldl_cons, ih hrest, AList.lookup_insert_ne hne]

end

variable [Unicode] {a : Action} (h : Effect s a r s')

include h

/-- A token that is recorded after a call was handed out by it, to a device
    there is, or was recorded before. -/
theorem Effect.holder (hholder : s'.holder token = some id) :
    (∃ networkID, (token, (networkID, id)) ∈ r.issued ∧ s'.Houses networkID id) ∨
      (token ∉ r.issued.map Prod.fst ∧ s.holder token = some id ∧
        ∀ networkID, s.Houses networkID id → s'.Houses networkID id) := by
  cases h with
  | frame hframe hissued =>
    refine .inr ⟨by simp [hissued], ?_, fun _ => hframe.houses⟩
    rwa [← hframe.holder]
  | enrolled henrolled =>
    rcases henrolled.holder hholder with ⟨rfl, htoken⟩ | ⟨hcredential, henrollment, hbefore⟩
    · refine .inl ⟨_, ?_, henrolled.houses_self⟩
      rcases htoken with rfl | rfl <;> simp [issued]
    · exact .inr ⟨by simp [issued, hcredential, henrollment], hbefore,
        fun _ => henrolled.houses⟩
  | @session _ r _ e hplace he hs' hkeyed =>
    subst hs'
    obtain ⟨_ | _, hash⟩ := token
    · exact .inr ⟨by simp [issued], hholder, fun _ h => h⟩
    obtain ⟨_, hlookup, rfl⟩ := map_eq_some_iff.1 hholder
    rcases Table.lookup_insert_iff.1 hlookup with ⟨rfl, rfl⟩ | ⟨hne, hlookup⟩
    · exact .inl ⟨r.networkID, by simp [issued, he], _, hplace, rfl, he.symm⟩
    · exact .inr ⟨by simpa [issued] using hne, by simp [holder, hlookup],
        fun _ h => h⟩
  | ack hframe =>
    refine .inr ⟨by simp [issued], ?_, fun _ => hframe.houses⟩
    rw [hframe.holder] at hholder
    exact hholder
  | revoked hrevoked =>
    obtain ⟨now, hcredentials⟩ := hrevoked.credentials
    exact .inr ⟨by simp [issued],
      holder_of_revokeCredentials hcredentials hrevoked.enrollments hholder,
      fun _ => hrevoked.houses⟩
  | deleted hdeleted =>
    obtain ⟨hbefore, hother⟩ := hdeleted.holder hholder
    exact .inr ⟨by simp [issued], hbefore, fun networkID hhouses =>
      hdeleted.houses hhouses fun heq => hother (heq ▸ hhouses)⟩
  | reactivated _ hreactivated hissued =>
    obtain ⟨now, hcredentials⟩ := hreactivated.credentials
    exact .inr ⟨by simp [hissued],
      holder_of_revokeCredentials hcredentials hreactivated.enrollments hholder,
      fun _ => hreactivated.houses⟩

/-- An acknowledgement that is there after a call is of a device there is, if
    this was so before the call. -/
theorem Effect.acks (hs : ∀ ack ∈ s.acks, s.Houses ack.networkID ack.deviceID) :
    ∀ ack ∈ s'.acks, s'.Houses ack.networkID ack.deviceID := by
  intro ack hmem
  cases h with
  | frame hkept | enrolled hkept | revoked hkept | reactivated _ hkept =>
    exact hkept.houses (hs ack (hkept.acks ▸ hmem))
  | session _ _ hs' =>
    subst hs'
    exact hs ack hmem
  | ack hframe hacks =>
    refine hframe.houses ?_
    rcases hacks ack hmem with hold | ⟨_, hdevice, hid, hnetwork⟩
    · exact hs ack hold
    · rw [← hid, ← hnetwork]
      exact houses_of_mem (s := { s with acks := _ }) hdevice
  | deleted hdeleted =>
    rw [hdeleted.acks, mem_filter] at hmem
    exact hdeleted.houses (hs ack hmem.1) (by simpa using hmem.2)

theorem Effect.keyed : s'.Keyed := by
  cases h with
  | session _ _ _ hkeyed => exact hkeyed
  | frame h | ack h | enrolled h | revoked h | deleted h | reactivated _ h => exact h.keyed

end

/-- Recorded tokens were issued to a device there is, and acknowledgements are of
    devices there are. -/
structure System.Consistent (sys : System) : Prop where
  keyed : sys.store.Keyed
  tokens : ∀ token id, sys.store.holder token = some id →
    ∃ networkID, sys.store.Houses networkID id ∧ sys.issued.lookup token = some (networkID, id)
  acks : ∀ ack ∈ sys.store.acks, sys.store.Houses ack.networkID ack.deviceID

theorem System.Consistent.init : System.init.Consistent where
  keyed k n h := by simp [System.init, Store.init] at h
  tokens token id h := by
    obtain ⟨_ | _, hash⟩ := token <;> simp [System.init, Store.init, Store.holder] at h
  acks ack h := by simp [System.init, Store.init] at h

/-- Every call keeps this so. -/
theorem System.Consistent.step [Unicode] [Netip] [Sha256] [PolicyJSON] (svc : Service)
    {sys : System} (h : sys.Consistent) (a : Action) : (sys.step svc a).Consistent := by
  have heffect := effect_call svc h.keyed a
  refine ⟨heffect.keyed, fun token id hholder => ?_, heffect.acks h.acks⟩
  rcases heffect.holder hholder with ⟨networkID, hissued, hhouses⟩ | ⟨hnot, hbefore, hhouses⟩
  · exact ⟨networkID, hhouses, lookup_issued hissued⟩
  · obtain ⟨networkID, hhoused, hlookup⟩ := h.tokens token id hbefore
    exact ⟨networkID, hhouses networkID hhoused, (lookup_not_issued hnot).trans hlookup⟩

/-! ## Calls with a token -/

/-- The network that a reply is about, if it gives access to one. -/
def Reply.network : Reply → Option String
  | .session r => some r.networkID
  | .config c => some c.networkID
  | .gateway c => some c.networkID
  | .policy p => some p.networkID
  | .ack r => some r.ack.networkID
  | _ => none

/-- What a call with a token makes sure of before it gives access for a device.
    Two calls do not look at the status of the device. -/
def Action.Checked [Sha256] (s : Store) (device : DeviceRecord) : Action → Prop
  | .mintSession _ _ credential _ _ =>
    ∃ c, s.credentials.lookup (hashSecret credential) = some c ∧ c.revokedAt = none
  | .enrollmentConfig now _ token _ _ _ | .ackEnrollment now _ token _ =>
    ∃ e, s.enrollments.lookup (hashSecret token) = some e ∧ canonicalTime now < e.expiresAt
  | _ => device.status = .active

/-- The token of an enrolment is held by the device it was found for. -/
theorem holder_enrollment [Sha256] {s : Store} {token id : String} {e : EnrollmentRecord}
    (he : s.enrollments.lookup (hashSecret token) = some e) (hid : id = e.deviceID) :
    s.holder (.enrollment, hashSecret token) = some id := by
  simp [holder, he, hid]

variable {network : NetworkRecord}

theorem policyArtifact_networkID {policy : PolicyArtifact}
    (h : policyArtifact network = .ok policy) : policy.networkID = network.id := by
  simp only [policyArtifact] at h
  cases hpolicy : network.policy with
  | none =>
    rw [hpolicy] at h
    cases h
    rfl
  | some =>
    rw [hpolicy] at h
    simp only [guard_ok, ok.injEq, not_or, not_not] at h
    obtain ⟨⟨hid, -⟩, rfl⟩ := h
    exact hid

section

variable {α : Type} {s : Store} {f : α → Reply} {networkID : String}

/-- A call that only reads gives access if it succeeds. -/
theorem Store.reading_network {x : Except OverlayError α}
    (h : (s.reading f x).1.network = some networkID) :
    ∃ y, x = .ok y ∧ (f y).network = some networkID := by
  cases x with
  | error => cases h
  | ok y => exact ⟨y, rfl, h⟩

theorem Store.writing_network {x : Except OverlayError (Store × α)}
    (h : (s.writing f x).1.network = some networkID) :
    ∃ s' y, x = .ok (s', y) ∧ (f y).network = some networkID := by
  cases x with
  | error => cases h
  | ok r => exact ⟨r.1, r.2, rfl, h⟩

end

section

variable [Netip] [Sha256] [PolicyJSON] (svc : Service)

/-- A configuration is of the network it was built for. -/
theorem buildSignedConfig_networkID {s : Store} {now : Time} {device : DeviceRecord} {v2 : Bool}
    {c : SignedConfig} (h : svc.buildSignedConfig s now device network v2 = .ok c) :
    c.networkID = network.id := by
  simp only [Service.buildSignedConfig] at h
  by_cases hv2 : v2 = true
  · rw [if_neg (not_not.2 hv2)] at h
    split at h
    · cases h
    next =>
    split_ifs at h
    · obtain ⟨_, -, rfl⟩ := map_eq_ok.1 h
      rfl
    · cases h
      rfl
  · rw [if_pos hv2] at h
    cases h
    rfl

variable [Unicode]

/-- A call that is granted with a token found a device that holds the token, and
    gives access to its network, or returns an acknowledgement of the device. -/
theorem call_granted {s : Store} (hs : s.Keyed) {a : Action} {token : Token} {networkID : String}
    (htoken : a.token = some token) (h : (a.call svc s).1.network = some networkID) :
    ∃ device ∈ s.devices, s.holder token = some device.id ∧ a.Checked s device ∧
      (device.networkID = networkID ∨
        ∃ ack ∈ s.acks, ack.deviceID = device.id ∧ ack.networkID = networkID) := by
  cases a with
  | mintSession =>
    cases htoken
    obtain ⟨s', r, hcall, hr⟩ := writing_network h
    obtain ⟨c, device, e, hc, hrevoked, hmem, hid, hplace, -⟩ := mintSession_ok hs hcall
    refine ⟨device, hmem, ?_, ⟨c, hc, hrevoked⟩, .inl ?_⟩
    · simp [holder, hc, hid]
    · rw [← some.inj hr]
      exact congrArg Place.networkID hplace
  | enrollmentConfig now pick token =>
    cases htoken
    obtain ⟨c, hcall, hc⟩ := reading_network h
    simp only [Service.enrollmentConfig] at hcall
    rcases henrolled : s.enrolled now pick token with _ | found <;>
      simp only [henrolled, reduceCtorEq] at hcall
    simp only [guard_ok] at hcall
    obtain ⟨e, he, hexpires, hmem, hid, hnetwork⟩ := enrolled_ok henrolled
    refine ⟨found.1, hmem, holder_enrollment he hid, ⟨e, he, hexpires⟩, .inl ?_⟩
    rw [← some.inj hc, buildSignedConfig_networkID svc hcall.2, hs _ _ hnetwork]
  | gatewayConfig now pick token =>
    cases htoken
    obtain ⟨c, hcall, hc⟩ := reading_network h
    simp only [Service.gatewayConfig] at hcall
    rcases henrolled : s.enrolled now pick token with _ | found <;>
      simp only [henrolled, reduceCtorEq] at hcall
    simp only [guard_ok, not_not, Service.buildGatewayConfig, bind_eq_ok] at hcall
    obtain ⟨hactive, -, _, -, _, -, _, -, he⟩ := hcall
    cases he
    obtain ⟨e, he, -, hmem, hid, hnetwork⟩ := enrolled_ok henrolled
    refine ⟨found.1, hmem, holder_enrollment he hid, hactive, .inl ?_⟩
    exact (hs _ _ hnetwork).symm.trans (some.inj hc)
  | policyArtifact now pick token =>
    cases htoken
    obtain ⟨_, hcall, hpolicy⟩ := reading_network h
    simp only [Store.policyArtifact] at hcall
    rcases henrolled : s.enrolled now pick token with _ | found <;>
      simp only [henrolled, reduceCtorEq] at hcall
    simp only [guard_ok, not_or, not_not] at hcall
    obtain ⟨⟨-, hactive⟩, hcall⟩ := hcall
    obtain ⟨e, he, -, hmem, hid, hnetwork⟩ := enrolled_ok henrolled
    refine ⟨found.1, hmem, holder_enrollment he hid, hactive, .inl ?_⟩
    split at hcall
    · cases hcall
    next artifact hartifact =>
    simp only [guard_ok, ok.injEq] at hcall
    obtain ⟨-, rfl⟩ := hcall
    rw [← some.inj hpolicy, policyArtifact_networkID hartifact, hs _ _ hnetwork]
  | ackEnrollment =>
    cases htoken
    obtain ⟨s', r, hcall, hr⟩ := writing_network h
    obtain ⟨device, network, henrolled, hcall⟩ := ackEnrollment_ok hcall
    obtain ⟨e, he, hexpires, hmem, hid, hnetwork⟩ := enrolled_ok henrolled
    refine ⟨device, hmem, holder_enrollment he hid, ⟨e, he, hexpires⟩, ?_⟩
    obtain ⟨-, -, ⟨-, hack, hdevice⟩ | ⟨-, -, hsame⟩⟩ := ack_ok hs hcall
    · exact .inr ⟨r.ack, hack, hdevice, some.inj hr⟩
    · refine .inl ?_
      rw [← some.inj hr, hsame, hs _ _ hnetwork]
  | _ => cases htoken

end

end Accounts.Overlay

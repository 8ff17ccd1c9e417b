import Accounts.Overlay.Consistency

/-!
# Networks of different owners

A token issued for a device of a network should give access to that network
only, and the revocation of a device by its owner should leave the networks of
others as they are (`System.Isolated`). Tokens are kept by the identifier of the
device alone, which the devices of two owners may share: then a token gives
access to either network, and a revocation reaches the credentials of both
(`shared_identifier_crosses`).

If no device is enrolled under an identifier that a device of another network
has (`Separate`), then the networks are isolated (`isolated_of_separate`): an
identifier belongs to one network (`Store.Distinct`).
-/

namespace Accounts.Overlay

open List Store

/-- The network is one of the owner. -/
def Store.owned (s : Store) (ownerUserID networkID : String) : Bool :=
  (s.networks.lookup networkID).any (·.ownerUserID == ownerUserID)

/-- The networks of others are as they were: their devices, the credentials
    issued for them, and their rows, with the generation. -/
structure Untouched (sys : System) (s' : Store) (ownerUserID : String) : Prop where
  devices : ∀ networkID, ¬ sys.store.owned ownerUserID networkID →
    s'.devices.filter (·.networkID == networkID) =
      sys.store.devices.filter (·.networkID == networkID)
  credentials : ∀ networkID, ¬ sys.store.owned ownerUserID networkID → ∀ hash deviceID,
    sys.issued.lookup (.credential, hash) = some (networkID, deviceID) →
    s'.credentials.lookup hash = sys.store.credentials.lookup hash
  networks : ∀ networkID, ¬ sys.store.owned ownerUserID networkID →
    s'.networks.lookup networkID = sys.store.networks.lookup networkID

/-- A device that is enrolled has no identifier of a device in another network. -/
def Reply.apart (s : Store) : Reply → Bool
  | .enrolled r => s.devices.all fun device =>
    device.id != r.device.id || device.networkID == r.network.id
  | _ => true

/-- An identifier belongs to one network. -/
def Store.Distinct (s : Store) : Prop :=
  ∀ networkID other id, s.Houses networkID id → s.Houses other id → networkID = other

/-- Where identifiers belong to one network, a revocation leaves the networks of
    others as they are. -/
theorem Revoked.untouched {sys : System} {s' : Store} {owner deviceID : String}
    (h : Revoked sys.store s' owner deviceID) (hconsistent : sys.Consistent)
    (hdistinct : sys.store.Distinct) : Untouched sys s' owner := by
  -- The identifier belongs to a network of the owner.
  have howned : ∀ networkID, sys.store.Houses networkID deviceID →
      sys.store.owned owner networkID := by
    intro networkID hhouses
    obtain ⟨device, hmem, hrevocable⟩ := h.revocable
    simp only [Store.revocable, Bool.and_eq_true, beq_iff_eq] at hrevocable
    obtain ⟨⟨rfl, -⟩, howner⟩ := hrevocable
    rw [hdistinct networkID device.networkID device.id hhouses (houses_of_mem hmem)]
    exact howner
  refine ⟨fun networkID hother => ?_, fun networkID hother hash id hissued => ?_,
    fun networkID hother => ?_⟩
  · have hnetwork : (fun device : DeviceRecord => device.networkID == networkID) ∘
        sys.store.revokedRow owner deviceID = fun device => device.networkID == networkID := by
      funext device
      simp
    rw [h.devices, filter_map, hnetwork]
    refine (map_congr_left fun device hmem => ?_).trans (map_id _)
    obtain rfl : device.networkID = networkID := by simpa using (mem_filter.1 hmem).2
    -- The network is one of others.
    refine if_neg fun hrevocable => ?_
    simp only [Store.revocable, Bool.and_eq_true] at hrevocable
    exact hother hrevocable.2
  · obtain ⟨_, hcredentials⟩ := h.credentials
    rw [hcredentials]
    simp only [revokeCredentials, Table.lookup_mapRows]
    rcases hc : sys.store.credentials.lookup hash with _ | c
    · rfl
    obtain ⟨housed, hhouses, hlookup⟩ :=
      hconsistent.tokens (.credential, hash) c.deviceID (by simp [holder, hc])
    obtain ⟨rfl, rfl⟩ := Prod.mk.inj (Option.some.inj (hlookup.symm.trans hissued))
    have hne : c.deviceID ≠ deviceID := by
      rintro rfl
      exact hother (howned housed hhouses)
    simp [hne]
  · rcases h.networks with hsame | ⟨row, hrow, rfl, n, hinsert⟩
    · rw [hsame]
    · have hne : networkID ≠ row.networkID := by
        rintro rfl
        exact hother (howned row.networkID (houses_of_mem hrow))
      rw [hinsert, AList.lookup_insert_ne hne]

section

variable [Unicode] [Netip] [Sha256] [PolicyJSON] (svc : Service)

/-- A call with a token gives access to the network it was issued for only, and a
    revocation leaves the networks of others as they are. -/
structure System.Isolated (sys : System) (a : Action) : Prop where
  confined : ∀ token networkID deviceID granted, a.token = some token →
    sys.issued.lookup token = some (networkID, deviceID) →
    (a.call svc sys.store).1.network = some granted → granted = networkID
  untouched : ∀ now pick owner deviceID, a = .adminRevokeDevice now pick owner deviceID →
    Untouched sys (a.call svc sys.store).2 (Text.trimSpace owner)

/-- The calls that keep the identifiers of different networks apart. -/
def Separate (sys : System) (a : Action) : Prop := (a.call svc sys.store).1.apart sys.store

instance (sys : System) (a : Action) : Decidable (Separate svc sys a) :=
  inferInstanceAs (Decidable (_ = true))

/-! ## The invariant -/

omit [Netip] [PolicyJSON] in
/-- A device that is there after a call was enrolled by it, or was there before. -/
theorem Effect.houses {s s' : Store} {a : Action} {r : Reply} (h : Effect s a r s')
    {networkID id : String} (hs' : s'.Houses networkID id) :
    s.Houses networkID id ∨ ∃ response, r = .enrolled response ∧ networkID = response.network.id ∧
        id = response.device.id := by
  obtain ⟨place, hmem, rfl, rfl⟩ := hs'
  cases h with
  | frame hframe => exact .inl ⟨place, hframe.places ▸ hmem, rfl, rfl⟩
  | @enrolled _ response _ henrolled =>
    rcases henrolled.places with hplaces | ⟨hplaces, -⟩
    · rw [hplaces, mem_append, mem_singleton] at hmem
      rcases hmem with hmem | rfl
      · exact .inl ⟨place, hmem, rfl, rfl⟩
      · exact .inr ⟨response, rfl, rfl, rfl⟩
    · exact .inl ⟨place, hplaces ▸ hmem, rfl, rfl⟩
  | session _ _ hs' =>
    subst hs'
    exact .inl ⟨place, hmem, rfl, rfl⟩
  | ack hframe =>
    rw [hframe.places] at hmem
    exact .inl ⟨place, hmem, rfl, rfl⟩
  | revoked hrevoked =>
    obtain ⟨row, hrow, rfl⟩ := mem_map.1 hmem
    rw [hrevoked.devices] at hrow
    obtain ⟨device, hdevice, rfl⟩ := mem_map.1 hrow
    refine .inl ⟨device.place, mem_places hdevice, ?_⟩
    rw [revokedRow_place]
    split_ifs <;> exact ⟨rfl, rfl⟩
  | deleted hdeleted =>
    obtain ⟨row, hrow, rfl⟩ := mem_map.1 hmem
    rw [hdeleted.devices, mem_filter] at hrow
    exact .inl (houses_of_mem hrow.1)
  | reactivated _ hreactivated =>
    rw [hreactivated.places] at hmem
    obtain ⟨before, hbefore, rfl⟩ := mem_map.1 hmem
    refine .inl ⟨before, hbefore, ?_⟩
    split_ifs <;> exact ⟨rfl, rfl⟩

/-- Separate calls keep the identifiers of networks distinct. -/
theorem Store.Distinct.step {sys : System} (h : sys.store.Distinct) (hs : sys.store.Keyed)
    {a : Action} (ha : Separate svc sys a) : (sys.step svc a).store.Distinct := by
  have heffect := effect_call svc hs a
  -- The enrolled device has an identifier of its own network.
  have hnew : ∀ response, (a.call svc sys.store).1 = .enrolled response →
      ∀ networkID, sys.store.Houses networkID response.device.id →
        networkID = response.network.id := by
    intro _ hreply _ hhouses
    obtain ⟨device, hmem, rfl, hid⟩ := hhouses.exists_device
    rw [Separate, hreply] at ha
    simpa [hid] using all_eq_true.1 ha device hmem
  intro networkID other id hhouses hother
  rcases heffect.houses hhouses with hold | ⟨r, hr, rfl, rfl⟩
  · rcases heffect.houses hother with hold' | ⟨r, hr, rfl, rfl⟩
    · exact h networkID other id hold hold'
    · exact hnew r hr networkID hold
  rcases heffect.houses hother with hold' | ⟨_, hr', rfl, -⟩
  · exact (hnew r hr other hold').symm
  · rw [hr] at hr'
    cases hr'
    rfl

/-! ## Isolation -/

/-- Where identifiers belong to one network, the networks are isolated. -/
theorem System.Consistent.isolated {sys : System} (h : sys.Consistent)
    (hdistinct : sys.store.Distinct) (a : Action) : sys.Isolated svc a where
  confined token networkID deviceID granted htoken hissued hgranted := by
    obtain ⟨device, hmem, hholder, -, hnetwork⟩ := call_granted svc h.keyed htoken hgranted
    obtain ⟨housed, hhouses, hlookup⟩ := h.tokens token device.id hholder
    obtain ⟨rfl, rfl⟩ := Prod.mk.inj (Option.some.inj (hlookup.symm.trans hissued))
    rcases hnetwork with rfl | ⟨ack, hack, hid, rfl⟩
    · exact hdistinct _ _ _ (houses_of_mem hmem) hhouses
    · exact hdistinct _ _ _ (hid ▸ h.acks ack hack) hhouses
  untouched now pick owner deviceID ha := by
    subst ha
    simp only [Action.call]
    cases hcall : svc.adminRevokeDevice sys.store now pick owner deviceID with
    | error => exact ⟨fun _ _ => rfl, fun _ _ _ _ _ => rfl, fun _ _ => rfl⟩
    | ok => exact (adminRevokeDevice_ok h.keyed hcall).untouched h hdistinct

/-- In every run of separate calls, the networks are isolated. -/
theorem isolated_of_separate {as : List Action}
    (h : Run.Guarded (System.step svc) (Separate svc) .init as) :
    Run.Guarded (System.step svc) (fun sys a => sys.Isolated svc a) .init as := by
  refine h.imp (P := fun sys => sys.Consistent ∧ sys.store.Distinct) ?_ ?_ ⟨.init, ?_⟩
  · rintro sys a ha ⟨hconsistent, hdistinct⟩
    exact ⟨hconsistent.step svc a, hdistinct.step svc hconsistent.keyed ha⟩
  · rintro sys a - ⟨hconsistent, hdistinct⟩
    exact hconsistent.isolated svc hdistinct a
  · rintro networkID other id ⟨_, hmem, -⟩ -
    simp [System.init, init, places] at hmem

end

/-! ## Two owners with a device of one name -/

section

local instance : Unicode := Unicode.ascii
local instance : Netip := Netip.dotted
local instance : Sha256 := ⟨id⟩
local instance : PolicyJSON := ⟨fun _ => ""⟩

/-- Devices of two owners with different identifiers: both get a session, and one is revoked. -/
theorem isolated_of_separate_sample : let as := Sample.alice "laptop" ++ Sample.bob "phone" ++
      [ .mintSession 0 0 "xdc_1.c" "nonce" "g",
        .enrollmentConfig 0 0 "xenr_f" "phone" "" false,
        .adminRevokeDevice 0 0 "alice" "laptop" ]
    Run.Guarded (System.step {}) (Separate {}) .init as ∧
      Run.Guarded (System.step {}) (fun sys a => sys.Isolated {} a) .init as := by
  intro as
  have h : Run.Guarded (System.step {}) (Separate {}) .init as := by decide +kernel
  exact ⟨h, isolated_of_separate {} h⟩

/-- Whichever of the two devices a query finds, a token of the other network gives access to its
    network; and the revocation of the one revokes the credential of the other. -/
theorem shared_identifier_crosses :
    let sys := Run.exec (System.step {}) .init (Sample.alice "laptop" ++ Sample.bob "laptop")
    (sys.issued.lookup (.enrollment, "xenr_f") = some ("net-b", "laptop") ∧
      ((Action.enrollmentConfig 0 0 "xenr_f" "laptop" "" false).call {} sys.store).1.network =
        some "net-a") ∧
    (sys.issued.lookup (.enrollment, "xenr_e") = some ("net-a", "laptop") ∧
      ((Action.enrollmentConfig 0 1 "xenr_e" "laptop" "" false).call {} sys.store).1.network =
        some "net-b") ∧
    (sys.issued.lookup (.credential, "xdc_2.d") = some ("net-b", "laptop") ∧
      sys.store.owned "alice" "net-b" = false ∧
      ((sys.store.credentials.lookup "xdc_2.d").map (·.revokedAt)) = some none ∧
      (((Action.adminRevokeDevice 0 0 "alice" "laptop").call {}
        sys.store).2.credentials.lookup "xdc_2.d").map (·.revokedAt) = some (some 0)) := by
  decide +kernel

end

end Accounts.Overlay

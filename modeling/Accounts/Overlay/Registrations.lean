import Accounts.Overlay.Effects

/-!
# The life of a registration

A registration is recorded, decided by the owner of its network, marked when it has
expired, and exchanged for a device. A run is any interleaving of these calls
(`RegistrationCall`), from tables without registrations.

* `registration_lifecycle`: what a call does to a registration, and which devices it makes;
* `registrations_limited`: a network never has more registrations than it may have, in
  any window of time.
-/

namespace Accounts.Overlay

open Except Text Table AList Run

/-- The calls of the life of a registration. -/
inductive RegistrationCall
  | register (now : Time) (request : RegistrationRequest) (registrationID opaqueToken : String)
  | expire (now : Time) (ownerUserID : String)
  | decide (now : Time) (ownerUserID registrationID : String) (decision : Decision)
  | exchange (now : Time) (registrationID token : String) (secrets : Secrets)

/-- The states that may follow a state of a registration. -/
inductive RegistrationStatus.Next : RegistrationStatus → RegistrationStatus → Prop
  | approved : Next .pending .approved
  | rejected : Next .pending .rejected
  | expired : Next .pending .expired
  | consumed : Next .approved .consumed
  | lapsed : Next .approved .expired

/-- The registration as it was recorded. -/
def RegistrationRecord.declared (r : RegistrationRecord) : RegistrationRecord :=
  { r with status := .pending, approvedAt := none, rejectedAt := none, consumedAt := none }

namespace RegistrationCall

/-- The time of a call. -/
def now : RegistrationCall → Time
  | register now .. | expire now .. | decide now .. | exchange now .. => now

def action : RegistrationCall → Action
  | register now request registrationID opaqueToken =>
    .register now request registrationID opaqueToken
  | expire now owner => .expireRegistrations now owner
  | decide now owner registrationID decision =>
    .adminTransitionRegistration now owner registrationID decision
  | exchange now registrationID token secrets =>
    .exchangeRegistration now registrationID token secrets

/-- What a call does to a registration. -/
inductive Moves (s : Store) (id : String) (r : RegistrationRecord) :
    RegistrationCall → RegistrationRecord → Prop
  | same (a : RegistrationCall) : Moves s id r a r
  | expired (a : RegistrationCall) (status : r.status = .pending ∨ r.status = .approved) :
      Moves s id r a { r with status := .expired }
  | decided {now : Time} {owner registrationID : String} {decision : Decision}
      (named : trimSpace registrationID = id) (status : r.status = .pending)
      (owned : r.ownerUserID = trimSpace owner) (unexpired : canonicalTime now < r.expiresAt)
      (network : (s.networks.lookup r.networkID).any (·.ownerUserID == trimSpace owner)) :
      Moves s id r (decide now owner registrationID decision)
        (r.decided (canonicalTime now) decision)
  | consumed (a : RegistrationCall) (status : r.status = .approved) :
      Moves s id r a { r with status := .consumed, consumedAt := some (canonicalTime a.now) }

section

variable {s : Store} {id : String} {a : RegistrationCall} {r r' : RegistrationRecord}

theorem Moves.declared (h : Moves s id r a r') : r'.declared = r.declared := by
  cases h with
  | same | expired | consumed => rfl
  | @decided _ _ _ decision => cases decision <;> rfl

theorem Moves.next (h : Moves s id r a r') : r' = r ∨ r.status.Next r'.status := by
  cases h with
  | same => exact .inl rfl
  | expired _ status =>
    rcases status with status | status <;> rw [status]
    · exact .inr .expired
    · exact .inr .lapsed
  | @decided _ _ _ decision _ status =>
    rw [status]
    cases decision with
    | approve => exact .inr .approved
    | reject => exact .inr .rejected
  | consumed _ status => exact .inr (status ▸ .consumed)

theorem rel_refl (s : Store) (a : RegistrationCall) (id : String) :
    Option.Rel (Moves s id · a ·) (s.registrations.lookup id) (s.registrations.lookup id) := by
  cases s.registrations.lookup id with
  | none => exact .none
  | some => exact .some (.same a)

theorem rel_insert (hfound : s.registrations.lookup id = some r) (h : Moves s id r a r')
    (id' : String) : Option.Rel (Moves s id' · a ·) (s.registrations.lookup id')
      ((s.registrations.insert id r').lookup id') := by
  by_cases hid : id' = id
  · rw [hid, hfound, lookup_insert]
    exact .some h
  · rw [lookup_insert_ne hid]
    exact rel_refl s a id'

end

variable [Netip] [Sha256] (svc : Service)

/-- The registration that a call exchanges. -/
def exchanged (s : Store) : RegistrationCall → Option String
  | exchange now registrationID token secrets =>
    (svc.exchangeRegistration s now registrationID token secrets).1.toOption.map
      fun _ => trimSpace registrationID
  | _ => none

/-- What a call does: a registration is recorded, those that there are move, or one that is
    approved and has not expired is exchanged for the device it declares. -/
inductive Effect (s : Store) (a : RegistrationCall) (s' : Store) : Prop
  | recorded (now : Time) (request : RegistrationRequest) (id token : String)
      (r : RegistrationRecord) (call : a = register now request id token)
      (registers : Registers s now request r) (fresh : id ∉ s.registrations)
      (recorded : s' = s.setRegistration id r)
  | moved (refused : a.exchanged svc s = none) (devices : s'.devices = s.devices)
      (moves : ∀ id, Option.Rel (Moves s id · a ·) (s.registrations.lookup id)
        (s'.registrations.lookup id))
  | exchanged (id : String) (r : RegistrationRecord) (network : NetworkRecord) (address : String)
      (exchanged : a.exchanged svc s = some id) (found : s.registrations.lookup id = some r)
      (approved : r.status = .approved) (unexpired : canonicalTime a.now < r.expiresAt)
      (belongs : s.networks.lookup r.networkID = some network)
      (owned : network.ownerUserID = r.ownerUserID)
      (devices : s'.devices = s.devices ++ [r.device network address])
      (consumed : s'.registrations = s.registrations.insert id { r with
        status := .consumed, consumedAt := some (canonicalTime a.now) })

theorem Effect.of_lapses {s s' : Store} {id : String} {a : RegistrationCall}
    (refused : a.exchanged svc s = none) (h : Lapses s id s') : Effect svc s a s' := by
  cases h with
  | same => exact .moved refused rfl (rel_refl s a)
  | expired r found status => exact .moved refused rfl (rel_insert found (.expired a status))

variable [Unicode] [PolicyJSON]

section

variable (s : Store) (a : RegistrationCall)

include s a

/-- The tables after a call. -/
def step : Store := (a.action.call svc s).2

theorem effect_step : Effect svc s a (step svc s a) := by
  cases a <;> simp only [step, action, Action.call]
  case register now request id token =>
    rcases h : s.register now request id token with e | ⟨s', _⟩
    · exact .moved rfl rfl (rel_refl s _)
    · obtain ⟨r, hr, hfresh, rfl⟩ := register_ok h
      exact .recorded now request id token r rfl hr hfresh rfl
  case expire now owner =>
    rcases h : s.expireRegistrations now owner with e | s'
    · exact .moved rfl rfl (rel_refl s _)
    simp only [Store.expireRegistrations, guard_ok, Except.ok.injEq] at h
    obtain ⟨-, rfl⟩ := h
    refine .moved rfl rfl fun id => ?_
    simp only [Store.changing, lookup_mapRows]
    rcases s.registrations.lookup id with _ | r
    · exact .none
    refine .some ?_
    dsimp only
    split_ifs with hexpired
    · exact .expired _ hexpired.2.1
    · exact .same _
  case decide now owner registrationID decision =>
    rcases adminTransitionRegistration_eq s now owner registrationID decision with
      ⟨e, s', hlapses, heq⟩ | ⟨r, hfound, hstatus, howner, htime, hnetwork, heq⟩
    · rw [heq]
      exact .of_lapses svc rfl hlapses
    · rw [heq]
      exact .moved rfl rfl (rel_insert hfound (.decided rfl hstatus howner htime hnetwork))
  case exchange now registrationID token secrets =>
    rcases exchangeRegistration_eq s svc now registrationID token secrets with
      ⟨e, s', hlapses, heq⟩ | ⟨r, s', device, network, hfound, hstatus, htime, hexchange, heq⟩
    · rw [heq]
      exact .of_lapses svc (by rw [exchanged, heq]; rfl) hlapses
    rw [heq]
    obtain ⟨found, address, hnetwork, howner, rfl, -, htokens⟩ := exchangeApproved_ok hexchange
    obtain rfl := insertTokens_ok htokens
    exact .exchanged (trimSpace registrationID) r found address (by rw [exchanged, heq]; rfl)
      hfound hstatus htime hnetwork howner rfl rfl

/-- A registration is recorded, or those that there are move. -/
theorem recorded_or_moved :
    (∃ now request id token r, a = register now request id token ∧ Registers s now request r ∧
      id ∉ s.registrations ∧ step svc s a = s.setRegistration id r) ∨
    ∀ id, Option.Rel (Moves s id · a ·) (s.registrations.lookup id)
      ((step svc s a).registrations.lookup id) := by
  cases effect_step svc s a with
  | recorded now request id token r call registers fresh recorded =>
    exact .inl ⟨now, request, id, token, r, call, registers, fresh, recorded⟩
  | moved _ _ moves => exact .inr moves
  | exchanged _ r _ _ _ found approved _ _ _ _ consumed =>
    rw [consumed]
    exact .inr (rel_insert found (.consumed a approved))

end

variable {svc} {s : Store} {id : String} {a : RegistrationCall} {r : RegistrationRecord}

theorem exists_moves (h : s.registrations.lookup id = some r) :
    ∃ r', (step svc s a).registrations.lookup id = some r' ∧ Moves s id r a r' := by
  rcases recorded_or_moved svc s a with ⟨_, _, _, _, r', rfl, -, hfresh, hstep⟩ | hrel
  · exact ⟨r, hstep ▸ lookup_insert_of_new hfresh h, .same _⟩
  have hmoves := hrel id
  rw [h] at hmoves
  generalize (step svc s a).registrations.lookup id = x at hmoves
  cases hmoves with
  | some hmoves => exact ⟨_, rfl, hmoves⟩

/-- A registration was recorded by the call, or was there before. -/
theorem registers_or_moves (h : (step svc s a).registrations.lookup id = some r) :
    (∃ now request token, a = register now request id token ∧ Registers s now request r ∧
      id ∉ s.registrations) ∨
    ∃ old, s.registrations.lookup id = some old ∧ Moves s id old a r := by
  rcases recorded_or_moved svc s a with ⟨now, request, _, token, _, rfl, hr, hfresh, hstep⟩ | hrel
  · rw [hstep] at h
    rcases lookup_insert_iff.1 h with ⟨rfl, rfl⟩ | ⟨-, h⟩
    · exact .inl ⟨now, request, token, rfl, hr, hfresh⟩
    · exact .inr ⟨r, h, .same _⟩
  have hmoves := hrel id
  rw [h] at hmoves
  generalize s.registrations.lookup id = x at hmoves
  cases hmoves with
  | some hmoves => exact .inr ⟨_, rfl, hmoves⟩

/-! ## Exchanges -/

section

variable (svc : Service) (id : String) (r : RegistrationRecord) (s : Store) (a : RegistrationCall)

/-- The call records the registration as it is declared in the request. -/
def Declares : Prop :=
  ∃ now request token, a = register now request id token ∧ id ∉ s.registrations ∧
    id ∈ (step svc s a).registrations ∧ r.networkID = trimSpace request.networkID ∧
    r.deviceID = trimSpace request.deviceID ∧ r.platform = trimSpace request.platform ∧
    ∃ key, decodeKey (trimSpace request.wireGuardPublicKey) = some key ∧
      r.wireGuardPublicKey = Base64.encode key

/-- The owner of the network approves the registration, before it expires. -/
def Approves : Prop :=
  ∃ now owner registrationID networkID,
    a = decide now owner registrationID (.approve networkID) ∧ trimSpace registrationID = id ∧
    trimSpace owner = r.ownerUserID ∧ canonicalTime now < r.expiresAt ∧
    (s.networks.lookup r.networkID).any (·.ownerUserID == r.ownerUserID) ∧
    (s.registrations.lookup id).any (·.status == .pending) ∧
    ((step svc s a).registrations.lookup id).any (·.status == .approved)

end

variable {as : List RegistrationCall}

section

variable (hs : s.registrations = ∅)
    (h : (exec (step svc) s as).registrations.lookup id = some r)

include hs h

theorem occurs_declares : Run.Occurs (step svc) (Declares svc id r) s as := by
  refine occurs_of_exec (P := fun s => ∃ r', s.registrations.lookup id = some r' ∧
    r'.declared = r.declared) (fun s a hnone hsome => ?_) (by simp [hs]) ⟨r, h, rfl⟩
  obtain ⟨r', hr', hsame⟩ := hsome
  rcases registers_or_moves hr' with ⟨now, request, token, rfl, hr, hfresh⟩ | ⟨old, hold, hmoves⟩
  · obtain ⟨key, hkey, hencoded⟩ := hr.key
    exact ⟨now, request, token, rfl, hfresh, mem_of_lookup hr',
      (congrArg (·.networkID) hsame).symm.trans hr.networkID,
      (congrArg (·.deviceID) hsame).symm.trans hr.deviceID,
      (congrArg (·.platform) hsame).symm.trans hr.platform, key, hkey,
      (congrArg (·.wireGuardPublicKey) hsame).symm.trans hencoded⟩
  · exact absurd ⟨old, hold, hmoves.declared.symm.trans hsame⟩ hnone

theorem occurs_approves (happroved : r.status = .approved) :
    Run.Occurs (step svc) (Approves svc id r) s as := by
  refine occurs_of_exec (P := fun s => ∃ r', s.registrations.lookup id = some r' ∧
    r'.declared = r.declared ∧ r'.status = .approved) (fun s a hnone hsome => ?_) (by simp [hs])
    ⟨r, h, rfl, happroved⟩
  obtain ⟨r', hr', hsame, hstatus⟩ := hsome
  rcases registers_or_moves hr' with ⟨_, _, _, _, hr, _⟩ | ⟨old, hold, hmoves⟩
  · rw [hr.pending] at hstatus
    cases hstatus
  have hdeclared := hmoves.declared.symm.trans hsame
  cases hmoves with
  | same => exact absurd ⟨_, hold, hdeclared, hstatus⟩ hnone
  | expired | consumed => cases hstatus
  | @decided now owner registrationID decision named status owned unexpired network =>
    cases decision with
    | reject => cases hstatus
    | approve networkID =>
      have howner : r.ownerUserID = trimSpace owner :=
        (congrArg (·.ownerUserID) hdeclared).symm.trans owned
      have hexpires : old.expiresAt = r.expiresAt := congrArg (·.expiresAt) hdeclared
      have hnetwork : old.networkID = r.networkID := congrArg (·.networkID) hdeclared
      exact ⟨now, owner, registrationID, networkID, rfl, named, howner.symm, hexpires ▸ unexpired,
        by rw [howner, ← hnetwork]; exact network, by simp [hold, status], by simp [hr', hstatus]⟩

end

variable (svc) in
/-- A call does nothing to a registration, or moves it to a next state. It makes a device only
    of a registration that was recorded so and approved by the owner of its network, and of
    each registration at most one. -/
theorem registration_lifecycle (s : Store) (as : List RegistrationCall) (a : RegistrationCall) :
    let start : Store := { s with registrations := ∅ }
    let s' := exec (step svc) start as
    (∀ id r, s'.registrations.lookup id = some r → ∃ r',
      (step svc s' a).registrations.lookup id = some r' ∧ r'.declared = r.declared ∧
        (r' = r ∨ r.status.Next r'.status)) ∧
    Effect svc s' a (step svc s' a) ∧
    (∀ id r, s'.registrations.lookup id = some r → Run.Occurs (step svc) (Declares svc id r) start as ∧
      (r.status = .approved → Run.Occurs (step svc) (Approves svc id r) start as)) ∧
    (collect (step svc) (exchanged svc) start as).Nodup := by
  refine ⟨fun id r h => ?_, effect_step svc _ a, fun id r h => ?_, ?_⟩
  · obtain ⟨r', hr', hmoves⟩ := exists_moves h
    exact ⟨r', hr', hmoves.declared, hmoves.next⟩
  · exact ⟨occurs_declares rfl h, occurs_approves rfl h⟩
  -- A registration that was exchanged is consumed, and stays so.
  refine collect_nodup (U := fun s id => ∃ r, s.registrations.lookup id = some r ∧
    r.status = .consumed) (fun s a id hused => ?_) (fun s a id hout => ?_)
    (fun s a id hout => ?_) _ as
  · obtain ⟨r, hr, hconsumed⟩ := hused
    obtain ⟨r', hr', hmoves⟩ := exists_moves hr
    rcases hmoves.next with rfl | hnext
    · exact ⟨r', hr', hconsumed⟩
    · rw [hconsumed] at hnext
      generalize r'.status = status at hnext
      cases hnext
  · cases effect_step svc s a with
    | recorded _ _ _ _ _ call | moved call => cases call ▸ hout
    | exchanged _ r _ _ exchanged found approved =>
      cases exchanged ▸ hout
      rintro ⟨r', hr', hconsumed⟩
      rw [found] at hr'
      cases hr'
      rw [approved] at hconsumed
      cases hconsumed
  · cases effect_step svc s a with
    | recorded _ _ _ _ _ call | moved call => cases call ▸ hout
    | exchanged _ r _ _ exchanged _ _ _ _ _ _ consumed =>
      cases exchanged ▸ hout
      exact ⟨_, by rw [consumed, lookup_insert], rfl⟩

/-! ## Limits -/

/-- The registrations of a network that meet a condition stay within a limit, if one that is
    recorded and meets it finds less than the limit. -/
theorem count_le {networkID : String} {p : RegistrationRecord → Bool} {limit : Nat}
    (hmoves : ∀ s id a r r', Moves s id r a r' → p r' → p r) {as : List RegistrationCall}
    (hregisters : ∀ a ∈ as, ∀ s request r, Registers s a.now request r → p r →
      r.networkID = networkID → s.countRegistrations networkID p < limit)
    (hs : s.countRegistrations networkID p ≤ limit) :
    (exec (step svc) s as).countRegistrations networkID p ≤ limit := by
  induction as generalizing s with
  | nil => exact hs
  | cons a _ ih =>
    refine ih (fun a ha => hregisters a (.tail _ ha)) ?_
    rcases recorded_or_moved svc s a with ⟨now, request, id, _, r, rfl, hr, -, hstep⟩ | hrel
    · rw [hstep]
      by_cases hp : (r.networkID == networkID && p r) = true
      · have hp' := Bool.and_eq_true_iff.1 hp
        exact (countP_insert_le_succ ..).trans
          (hregisters _ (.head _) s request r hr hp'.2 (eq_of_beq hp'.1))
      · refine (countP_insert_le ?_).trans hs
        exact fun h => absurd h hp
    · refine (countP_le_of_lookup fun id r' hr' hp => ?_).trans hs
      have hmoved := hrel id
      rw [hr'] at hmoved
      generalize s.registrations.lookup id = x at hmoved
      cases hmoved with
      | @some r _ hmoved =>
        obtain ⟨hnetwork, hp⟩ := Bool.and_eq_true_iff.1 hp
        have hsame : r'.networkID = r.networkID := congrArg (·.networkID) hmoved.declared
        exact ⟨r, rfl, Bool.and_eq_true_iff.2 ⟨hsame ▸ hnetwork, hmoves _ _ _ _ _ hmoved hp⟩⟩

/-- No window has more registrations than are counted when its last one is recorded. -/
theorem window_le {networkID : String} {t : Time} {window : Int} {limit : Nat}
    (hlimit : ∀ s now request r, Registers s now request r → s.countRegistrations r.networkID
      (fun other => Decidable.decide (canonicalTime now - window ≤ other.createdAt)) < limit)
    (hs : s.registrations = ∅) (as : List RegistrationCall) :
    (exec (step svc) s as).countRegistrations networkID (fun r =>
      Decidable.decide (t ≤ r.createdAt ∧ r.createdAt ≤ t + window)) ≤ limit := by
  refine count_le (fun _ _ _ r r' h hp => ?_) (fun a _ s request r hr hp hnetwork => ?_) ?_
  · have hsame : r'.createdAt = r.createdAt := congrArg (·.createdAt) h.declared
    rwa [hsame] at hp
  · refine lt_of_le_of_lt (List.countP_mono_left fun other _ h => ?_) (hlimit s a.now request r hr)
    simp only [decide_eq_true_eq, Bool.and_eq_true, hr.createdAt, hnetwork] at hp h ⊢
    exact ⟨h.1, (sub_le_iff_le_add.2 hp.2).trans h.2.1⟩
  · rw [Store.countRegistrations, hs]
    exact Nat.zero_le _

variable (svc) in
/-- At any moment, a network has at most 20 registrations that are pending; at most 20 are
    recorded in any 15 minutes, and 100 in any 24 hours. -/
theorem registrations_limited (s : Store) (as : List RegistrationCall) (networkID : String)
    (t : Time) :
    let s' := exec (step svc) { s with registrations := ∅ } as
    ((∀ a ∈ as, a.now ≤ t) → s'.countRegistrations networkID (·.isPending t) ≤ 20) ∧
    s'.countRegistrations networkID (fun r => Decidable.decide
      (t ≤ r.createdAt ∧ r.createdAt ≤ t + 15 * Time.minute)) ≤ 20 ∧
    s'.countRegistrations networkID (fun r => Decidable.decide
      (t ≤ r.createdAt ∧ r.createdAt ≤ t + 24 * Time.hour)) ≤ 100 := by
  have hlimits : ∀ s now request r, Registers s now request r →
      s.countRegistrations r.networkID (·.isPending (canonicalTime now)) < 20 ∧
      s.countRegistrations r.networkID (fun other => Decidable.decide
        (canonicalTime now - 15 * Time.minute ≤ other.createdAt)) < 20 ∧
      s.countRegistrations r.networkID (fun other => Decidable.decide
        (canonicalTime now - 24 * Time.hour ≤ other.createdAt)) < 100 := by
    intro s _ _ r hr
    have h := hr.unlimited
    simp only [Store.registrationLimited, Bool.or_eq_true, not_or, decide_eq_true_eq, not_le] at h
    exact ⟨h.1.1.2, h.1.2, h.2⟩
  refine ⟨fun ht => ?_, window_le (fun s now request r hr => (hlimits s now request r hr).2.1) rfl as,
    window_le (fun s now request r hr => (hlimits s now request r hr).2.2) rfl as⟩
  refine count_le (fun _ _ _ r r' h hp => ?_) (fun a ha s request r hr _ hnetwork => ?_)
    (Nat.zero_le _)
  · simp only [RegistrationRecord.isPending, Bool.and_eq_true, beq_iff_eq] at hp ⊢
    rcases h.next with rfl | hnext
    · exact hp
    · -- No state is followed by that of a pending registration.
      rw [hp.1] at hnext
      generalize r.status = status at hnext
      cases hnext
  · -- What is pending now was pending at the time of the call.
    have hnow : canonicalTime a.now ≤ t :=
      (sub_le_self _ (Int.emod_nonneg _ (by decide))).trans (ht a ha)
    refine lt_of_le_of_lt (List.countP_mono_left fun other _ h => ?_) (hlimits s a.now request r hr).1
    simp only [RegistrationRecord.isPending, Bool.and_eq_true, decide_eq_true_eq, hnetwork] at h ⊢
    exact ⟨h.1, h.2.1, hnow.trans_lt h.2.2⟩

end RegistrationCall

end Accounts.Overlay

import Accounts.Agents.Enrollment

/-!
# Which team a node is for

Nodes register and report, administrators decide, and users are shown the nodes, in any order
and with any interleaving of their calls (`Agents.Enrollment`).

The version of an enrolment only grows (`Server.Later`). So what was read for a decision is
still there, or there is a later version (`Server.Basis`), and a decision that is stored was
made about what it replaces. What a decision needs of the reports was reported, and stays
reported (`Server.Permitted`). These facts hold along every run (`Server.Sound`), and
`Server.enrolment_safe` follows from them.
-/

namespace Accounts.Agents

open Except AList Table List Option

/-! ## What a step writes -/

theorem rows_register (t : Roster) (id suggested : String) (hid : validNodeID id) (clock : Time) :
    (t.register id suggested hid clock).rows = t.rows ∨
      (t.rows.lookup id = none ∧ (t.register id suggested hid clock).rows = t.rows.insert id
        { agentID := id, suggestedTeamID := suggested, updatedAt := clock }) := by
  rw [Roster.register]
  cases h : t.rows.lookup id with
  | some => exact .inl rfl
  | none => exact .inr ⟨rfl, rfl⟩

/-- A decision is stored over the version that it expects. -/
theorem decide_ok {b : Backend} {t t' : Roster} {next : Enrollment} {expected clock : Time}
    (h : t.decide b next expected clock = .ok t') :
    ∃ old, t.rows.lookup next.agentID = some old ∧ old.updatedAt = expected ∧
      t'.rows = t.rows.insert next.agentID (b.decided old next clock) := by
  unfold Roster.decide at h
  split at h
  · cases h
  next old hold =>
  split_ifs at h with hversion
  cases h
  exact ⟨old, hold, not_not.1 hversion, rfl⟩

namespace Server

variable [Sha256] [TimeFormat] {b : Backend} {s : Server}

/-- The event stores a decision about the enrolment `old`. -/
def Stores (s : Server) (a : Event) (d : Deciding) (old : Enrollment) : Prop :=
  ∃ n reply, a = .proceed n reply ∧ s.deciding.lookup n = some d ∧ d.phase = .store old

/-- The enrolments change when a node registers, and when a decision is stored. -/
theorem roster_step (b : Backend) (s : Server) (a : Event) : (s.step b a).roster = s.roster ∨
      (∃ id suggested valid clock, a = .register id suggested valid clock ∧
        (s.step b a).roster = s.roster.register id suggested valid clock) ∨
      ∃ d old clock, s.Stores a d old ∧
        s.roster.decide b (d.next old) old.updatedAt clock = .ok (s.step b a).roster := by
  cases a with
  | register id suggested valid clock =>
    exact .inr (.inl ⟨id, suggested, valid, clock, rfl, rfl⟩)
  | proceed n reply =>
    simp only [step]
    rcases hd : s.deciding.lookup n with _ | d
    · exact .inl rfl
    simp only [advance]
    split_ifs
    · exact .inl rfl
    cases hphase : d.phase with
    | store old =>
      dsimp only
      cases hdecide : s.roster.decide b (d.next old) old.updatedAt reply.clock with
      | error => exact .inl rfl
      | ok =>
        exact .inr (.inr ⟨d, old, reply.clock, ⟨n, reply, rfl, hd, hphase⟩, hdecide⟩)
    | list | teams | statuses => exact .inl rfl
  | _ => exact .inl rfl

/-- A call of a decision changes no status, no report and no listing. -/
theorem proceed_frame (n : Nat) (reply : Reply) : (s.step b (.proceed n reply)).fleet = s.fleet ∧
      (s.step b (.proceed n reply)).reports = s.reports ∧
      (s.step b (.proceed n reply)).listings = s.listings := by
  rw [step]
  cases s.deciding.lookup n with
  | none | some => exact ⟨rfl, rfl, rfl⟩

variable {id : String}

/-- An enrolment after a step: it is as before, or new, or it was decided about the version
    that was there. -/
theorem lookup_step {a : Event} {e' : Enrollment}
    (h : (s.step b a).roster.rows.lookup id = some e') :
    s.roster.rows.lookup id = some e' ∨ (s.roster.rows.lookup id = none ∧ e'.assignedTeamID = "") ∨
      ∃ d old e clock, s.Stores a d old ∧ (d.next old).agentID = id ∧
        s.roster.rows.lookup id = some e ∧ e.updatedAt = old.updatedAt ∧
        e' = b.decided e (d.next old) clock := by
  rcases roster_step b s a with hsame | ⟨id', suggested, valid, clock, -, hreg⟩ |
    ⟨d, old, clock, hstores, hdecide⟩
  · exact .inl (hsame ▸ h)
  · rw [hreg] at h
    rcases rows_register s.roster id' suggested valid clock with hrows | ⟨hnone, hrows⟩
    · rw [hrows] at h
      exact .inl h
    · rw [hrows] at h
      rcases lookup_insert_iff.1 h with ⟨rfl, rfl⟩ | ⟨-, h⟩
      · exact .inr (.inl ⟨hnone, rfl⟩)
      · exact .inl h
  · obtain ⟨e, he, hversion, hrows⟩ := decide_ok hdecide
    rw [hrows] at h
    rcases lookup_insert_iff.1 h with ⟨rfl, rfl⟩ | ⟨-, h⟩
    · exact .inr (.inr ⟨d, old, e, clock, hstores, rfl, he, hversion, rfl⟩)
    · exact .inl h

variable {e : Enrollment}

/-- No enrolment is removed. -/
theorem exists_lookup_step (b : Backend) (a : Event) (h : s.roster.rows.lookup id = some e) :
    ∃ e', (s.step b a).roster.rows.lookup id = some e' := by
  have hmem := mem_of_lookup h
  rcases roster_step b s a with hsame | ⟨id', suggested, valid, clock, -, hreg⟩ |
    ⟨d, old, clock, -, hdecide⟩
  · exact ⟨e, hsame ▸ h⟩
  · rw [hreg]
    rcases rows_register s.roster id' suggested valid clock with hrows | ⟨-, hrows⟩
    · exact ⟨e, hrows ▸ h⟩
    · rw [hrows]
      exact exists_lookup_of_mem (mem_insert _ |>.2 (.inr hmem))
  · obtain ⟨_, -, -, hrows⟩ := decide_ok hdecide
    rw [hrows]
    exact exists_lookup_of_mem (mem_insert _ |>.2 (.inr hmem))

/-! ## Versions and reports only grow -/

/-- A later state of the service. -/
structure Later (s s' : Server) : Prop where
  rows : ∀ id e, s.roster.rows.lookup id = some e →
    ∃ e', s'.roster.rows.lookup id = some e' ∧ (e' = e ∨ e.updatedAt < e'.updatedAt)
  reports : s.reports ⊆ s'.reports

theorem later_step (b : Backend) (s : Server) (a : Event) : s.Later (s.step b a) where
  rows id e he := by
    obtain ⟨e', he'⟩ := exists_lookup_step b a he
    refine ⟨e', he', ?_⟩
    rcases lookup_step he' with hsame | ⟨hnone, -⟩ | ⟨d, old, e₀, clock, -, -, he₀, -, rfl⟩
    · exact .inl (some.inj (hsame.symm.trans he))
    · rw [hnone] at he
      cases he
    · obtain rfl := some.inj (he₀.symm.trans he)
      exact .inr (decided_fields b e₀ (d.next old) clock).1
  reports := by
    cases a with
    | heartbeat => exact subset_cons_self _ _
    | proceed n reply => rw [(proceed_frame n reply).2.1]; exact List.Subset.refl _
    | _ => exact List.Subset.refl _

/-! ## What a decision is based on -/

/-- The enrolment that a decision has read: that of the node, with the version the
    administrator has seen, and it is still there unless there is a later version. -/
structure Basis (s : Server) (d : Deciding) (old : Enrollment) : Prop where
  agentID : old.agentID = d.request.agentID
  version : old.updatedAt = d.request.updatedAt
  current : ∃ e, s.roster.rows.lookup old.agentID = some e ∧ (e = old ∨ old.updatedAt < e.updatedAt)

variable {s' : Server} {d : Deciding} {old : Enrollment}

omit [Sha256] [TimeFormat] in
theorem Basis.later (h : s.Basis d old) (hlater : s.Later s') : s'.Basis d old := by
  obtain ⟨e, he, hcurrent⟩ := h.current
  obtain ⟨e', he', hgrown⟩ := hlater.rows _ e he
  refine ⟨h.agentID, h.version, e', he', ?_⟩
  rcases hgrown with rfl | hgrown
  · exact hcurrent
  · rcases hcurrent with rfl | hcurrent
    · exact .inr hgrown
    · exact .inr (hcurrent.trans hgrown)

/-- The report says that the decision was applied, and that nobody is served. -/
structure Applied (e : Enrollment) (report : StatusReport) : Prop where
  revision : report.syncRevision = enrollmentRevision e
  users : report.users = 0
  clients : report.xray.clients = 0

/-- Another team may be assigned: the last decision has withdrawn the node from its team, and
    the node has reported that it has applied this decision. -/
def Withdrawn (s : Server) (e : Enrollment) : Prop :=
  e.status ≠ .approved ∧ ∃ report, (e.agentID, report) ∈ s.reports ∧ Applied e report

theorem Withdrawn.later (h : s.Withdrawn e) (hlater : s.Later s') : s'.Withdrawn e := by
  obtain ⟨hstatus, report, hreport, happlied⟩ := h
  exact ⟨hstatus, report, hlater.reports hreport, happlied⟩

/-- A decision may be stored over an enrolment. -/
def Permitted (s : Server) (d : Deciding) (old : Enrollment) : Prop :=
  d.status = .approved → old.assignedTeamID ≠ "" → old.assignedTeamID ≠ d.request.teamID →
    s.Withdrawn old

/-! ## Invariants -/

/-- What was reported: the report is one of those received. Agents that were only loaded do not
    run. -/
def Reported (s : Server) (snap : StatusSnapshot) : Prop :=
  snap.report.xray.running = true → (snap.agent.id, snap.report) ∈ s.reports

/-- A decision that is being made. -/
structure Founded (s : Server) (d : Deciding) : Prop where
  decided : d.status ≠ .pending
  basis : ∀ old, d.phase.old = some old → s.Basis d old
  waits : ∀ old, d.phase = .statuses old → old.status ≠ .approved
  permitted : ∀ old, d.phase = .store old → s.Permitted d old

theorem Founded.later (h : s.Founded d) (hlater : s.Later s') : s'.Founded d where
  decided := h.decided
  basis old hold := (h.basis old hold).later hlater
  waits := h.waits
  permitted old hold happroved hassigned hteam :=
    (h.permitted old hold happroved hassigned hteam).later hlater

/-- The invariant: only nodes that were decided about have a team, decisions are founded, and
    reports were received. -/
structure Sound (s : Server) : Prop where
  assigned : ∀ id e, s.roster.rows.lookup id = some e → e.assignedTeamID ≠ "" → e.status ≠ .pending
  founded : ∀ n d, s.deciding.lookup n = some d → s.Founded d
  statuses : ∀ k snap, s.fleet.statuses.lookup k = some snap → s.Reported snap
  listings : ∀ n snaps, s.listings.lookup n = some snaps → ∀ snap ∈ snaps, s.Reported snap

theorem sound_start (configured : Registry) : (start configured).Sound where
  assigned id e h := by cases h
  founded n d h := by cases h
  statuses k snap h := by cases h
  listings n snaps h := by cases h

/-! ## Reports -/

variable {snap : StatusSnapshot}

omit [Sha256] [TimeFormat] in
theorem Reported.later (h : s.Reported snap) (hlater : s.Later s') : s'.Reported snap :=
  fun hrunning => hlater.reports (h hrunning)

omit [Sha256] [TimeFormat] in
theorem reported_snapshots (h : ∀ k snap, s.fleet.statuses.lookup k = some snap → s.Reported snap)
    (hsnap : snap ∈ s.fleet.snapshots) : s.Reported snap := by
  rw [Fleet.snapshots, mem_mergeSort, List.mem_map] at hsnap
  obtain ⟨identity, -, rfl⟩ := hsnap
  cases hstatus : s.fleet.statuses.lookup identity.id with
  | none => exact fun hrunning => (Bool.false_ne_true hrunning).elim
  | some snap => exact h _ snap hstatus

variable {k : String}

omit [Sha256] [TimeFormat] in
theorem statuses_putStatus {f : Fleet} {snap' : StatusSnapshot}
    (h : (f.putStatus snap).statuses.lookup k = some snap') :
    snap' = snap ∨ f.statuses.lookup k = some snap' := by
  rcases lookup_insert_iff.1 h with ⟨rfl, rfl⟩ | ⟨-, h⟩
  · exact .inl rfl
  · exact .inr h

omit [Sha256] [TimeFormat] in
/-- What is loaded does not run. -/
theorem running_load {f : Fleet} (agents : List PersistedAgent)
    (hf : ∀ k snap, f.statuses.lookup k = some snap → snap.report.xray.running = false)
    (h : (agents.foldl Fleet.load f).statuses.lookup k = some snap) :
    snap.report.xray.running = false := by
  induction agents generalizing f with
  | nil => exact hf k snap h
  | cons a _ ih =>
    refine ih (fun k' snap' h' => ?_) h
    rw [Fleet.load] at h'
    split_ifs at h' with hknown
    · exact hf k' snap' h'
    split at h'
    · exact hf k' snap' h'
    · rcases statuses_putStatus h' with rfl | h'
      · rfl
      · exact hf k' snap' h'

/-- The reports that are kept were received. -/
theorem statuses_step (b : Backend) (a : Event) (h : s.Sound)
    (hsnap : (s.step b a).fleet.statuses.lookup k = some snap) : (s.step b a).Reported snap := by
  have hlater := later_step b s a
  have hkept : s.fleet.statuses.lookup k = some snap → (s.step b a).Reported snap :=
    fun hk => (h.statuses k snap hk).later hlater
  cases a with
  | heartbeat =>
    rcases statuses_putStatus hsnap with rfl | hsnap
    · exact fun _ => mem_cons_self
    · exact hkept hsnap
  | setAgentGroups id =>
    simp only [step, Fleet.setAgentGroups] at hsnap
    split at hsnap
    · next identity old hidentity hold =>
      rcases statuses_putStatus hsnap with rfl | hsnap
      · -- The agent is another, with the same identifier.
        intro hrunning
        have hreported := ((h.statuses id old hold).later hlater) hrunning
        rw [s.fleet.keyed hold] at hreported
        rw [s.fleet.registry.keyed hidentity]
        exact hreported
      · exact hkept hsnap
    · exact hkept hsnap
  | restart _ agents =>
    intro hrunning
    rw [running_load agents (fun k snap hk => by cases hk) hsnap] at hrunning
    cases hrunning
  | proceed n reply => exact hkept ((proceed_frame n reply).1 ▸ hsnap)
  | _ => exact hkept hsnap

/-! ## Decisions -/

omit [Sha256] [TimeFormat] in
theorem beginDecision_ok {actor : String} {request : DecisionRequest}
    (h : beginDecision actor request = .ok d) : d.status ≠ .pending ∧ d.phase = .list := by
  simp only [beginDecision, guard_ok] at h
  obtain ⟨-, -, h⟩ := h
  split at h
  · cases h
  next status hstatus =>
  cases h
  refine ⟨?_, rfl⟩
  have hmem := mem_of_find?_eq_some hstatus
  rintro rfl
  exact absurd hmem (by decide)

omit [Sha256] [TimeFormat] in
/-- A decision goes on with the enrolment of its node, in the version it is about. -/
theorem onList_ok {t : Roster} {phase : Phase} (h : d.onList (rows t.rows) = .ok phase) :
    ∃ old, phase.old = some old ∧ old.agentID = d.request.agentID ∧
      old.updatedAt = d.request.updatedAt ∧ t.rows.lookup old.agentID = some old ∧
      (∀ e, phase ≠ .statuses e) ∧ (phase = .store old → d.status ≠ .approved) := by
  rw [Deciding.onList] at h
  split at h
  · cases h
  next old hfind =>
  have hid : old.agentID = d.request.agentID := by
    simpa using find?_some hfind
  obtain ⟨k, hk⟩ := mem_rows_iff.1 (mem_of_find?_eq_some hfind)
  have hlookup : t.rows.lookup old.agentID = some old := by rwa [t.keyed hk]
  split_ifs at h with hversion hstatus hteam
  · cases h
    exact ⟨old, rfl, hid, not_not.1 hversion, hlookup, by rintro e ⟨⟩, fun _ => hstatus⟩
  · cases h
    exact ⟨old, rfl, hid, not_not.1 hversion, hlookup, by rintro e ⟨⟩, by rintro ⟨⟩⟩

/-- A decision that has its next call is founded. -/
theorem Founded.advance {reply : Reply} {phase : Phase} (h : s.Founded d) (hsound : s.Sound)
    (hphase : (s.advance b d reply).1 = some phase) : s.Founded { d with phase := phase } := by
  rw [Server.advance] at hphase
  split_ifs at hphase
  cases hd : d.phase with
  | list =>
    rw [hd] at hphase
    obtain ⟨old, hold, hid, hversion, hlookup, hwaits, hstatus⟩ :=
      onList_ok (toOption_eq_some.1 hphase)
    refine ⟨h.decided, fun old' hold' => ?_, fun e he => absurd he (hwaits e), ?_⟩
    · obtain rfl := some.inj (hold.symm.trans hold')
      exact ⟨hid, hversion, old, hlookup, .inl rfl⟩
    · rintro old' rfl happroved
      obtain rfl : old' = old := some.inj hold
      exact absurd happroved (hstatus rfl)
  | teams old =>
    rw [hd] at hphase
    have hbasis := h.basis old (by rw [hd]; rfl)
    have hok := toOption_eq_some.1 hphase
    simp only [Deciding.onTeams, guard_ok] at hok
    obtain ⟨-, hsame, hok⟩ := hok
    split_ifs at hok with hwithdrawn
    · cases hok
      refine ⟨h.decided, fun old' hold' => ?_, fun old' hold' => ?_, by rintro old' ⟨⟩⟩
      · cases hold'
        exact ⟨hbasis.agentID, hbasis.version, hbasis.current⟩
      · cases hold'
        exact hwithdrawn.1
    · cases hok
      refine ⟨h.decided, fun old' hold' => ?_, by rintro old' ⟨⟩, fun old' hold' => ?_⟩
      · cases hold'
        exact ⟨hbasis.agentID, hbasis.version, hbasis.current⟩
      -- The team is the same, or there was none.
      cases hold'
      intro _ hassigned hteam
      by_cases hstatus : old.status = .approved
      · exact absurd ⟨hstatus, hteam⟩ hsame
      · exact absurd ⟨hstatus, hassigned⟩ hwithdrawn
  | statuses old =>
    rw [hd] at hphase
    have hbasis := h.basis old (by rw [hd]; rfl)
    have hok := toOption_eq_some.1 hphase
    rw [Deciding.onStatuses] at hok
    split_ifs at hok with hcleared
    cases hok
    refine ⟨h.decided, fun old' hold' => ?_, by rintro old' ⟨⟩, fun old' hold' => ?_⟩
    · cases hold'
      exact ⟨hbasis.agentID, hbasis.version, hbasis.current⟩
    cases hold'
    intro _ _ _
    obtain ⟨snap, hsnap, hclear⟩ := List.any_eq_true.1 hcleared
    simp only [cleared, Bool.and_eq_true, beq_iff_eq] at hclear
    obtain ⟨⟨⟨⟨⟨⟨⟨hid, hrevision⟩, husers⟩, hclients⟩, -⟩, hrunning⟩, -⟩, -⟩ := hclear
    exact ⟨h.waits old hd, snap.report,
      hid ▸ reported_snapshots hsound.statuses hsnap hrunning, hrevision, husers, hclients⟩
  | store =>
    rw [hd] at hphase
    dsimp only at hphase
    split at hphase <;> cases hphase

variable {n : Nat}

/-- The decisions that are being made are founded. -/
theorem founded_step (b : Backend) (a : Event) (h : s.Sound)
    (hd : (s.step b a).deciding.lookup n = some d) : (s.step b a).Founded d := by
  have hlater := later_step b s a
  have hkept : s.deciding.lookup n = some d → (s.step b a).Founded d :=
    fun hn => (h.founded n d hn).later hlater
  cases a with
  | decide =>
    rcases lookup_assign_eq_some.1 hd with ⟨rfl, hbegin⟩ | ⟨-, hd⟩
    · obtain ⟨hstatus, hphase⟩ := beginDecision_ok (toOption_eq_some.1 hbegin)
      refine ⟨hstatus, ?_, ?_, ?_⟩
      all_goals rw [hphase]; rintro old ⟨⟩
    · exact hkept hd
  | proceed m =>
    cases hm : s.deciding.lookup m with
    | none =>
      refine hkept ?_
      simpa only [step, hm] using hd
    | some d₀ =>
      simp only [step, hm] at hd
      rcases lookup_assign_eq_some.1 hd with ⟨rfl, hphase⟩ | ⟨-, hd⟩
      · obtain ⟨_, hadvance, rfl⟩ := map_eq_some_iff.1 hphase
        exact ((h.founded _ d₀ hm).advance h hadvance).later hlater
      · exact hkept hd
  | _ => exact hkept hd

/-! ## Runs -/

/-- What a listing has read was reported. -/
theorem listings_step (b : Backend) (a : Event) (h : s.Sound) {snaps : List StatusSnapshot}
    (hsnaps : (s.step b a).listings.lookup n = some snaps) (hsnap : snap ∈ snaps) :
    (s.step b a).Reported snap := by
  have hlater := later_step b s a
  have hkept : s.listings.lookup n = some snaps → (s.step b a).Reported snap :=
    fun hn => (h.listings n snaps hn snap hsnap).later hlater
  cases a with
  | list =>
    rcases lookup_insert_iff.1 hsnaps with ⟨rfl, rfl⟩ | ⟨-, hsnaps⟩
    · exact reported_snapshots h.statuses hsnap
    · exact hkept hsnaps
  | listed m =>
    refine hkept ?_
    by_cases hm : n = m
    · rw [hm] at hsnaps
      simp [step] at hsnaps
    · rwa [step, lookup_erase_ne hm] at hsnaps
  | proceed m reply => exact hkept ((proceed_frame m reply).2.2 ▸ hsnaps)
  | _ => exact hkept hsnaps

/-- A step keeps the invariant. -/
theorem Sound.step (h : s.Sound) (b : Backend) (a : Event) : (s.step b a).Sound where
  assigned id e he hassigned := by
    rcases lookup_step he with hsame | ⟨-, hnone⟩ | ⟨d, old, e₀, clock, hstores, -, -, -, rfl⟩
    · exact h.assigned id e hsame hassigned
    · exact absurd hnone hassigned
    obtain ⟨n, _, -, hd, -⟩ := hstores
    rw [(decided_fields b e₀ (d.next old) clock).2.2]
    exact (h.founded n d hd).decided
  founded _ _ hd := founded_step b a h hd
  statuses _ _ hsnap := statuses_step b a h hsnap
  listings _ _ hsnaps _ hsnap := listings_step b a h hsnaps hsnap

/-! ## Teams -/

/-- The report says that the clients of the decision are served. -/
structure Synced (e : Enrollment) (report : StatusReport) : Prop where
  revision : Text.hasPrefix report.syncRevision (enrollmentRevision e ++ "-") = true
  lastSync : ∃ t, report.xray.lastSync = some t ∧ e.updatedAt < t

/-- A decision was stored over an enrolment: the administrator had seen this very version, and
    another team is assigned only to a node that was withdrawn from its team. -/
structure Decided (s : Server) (d : Deciding) (e e' : Enrollment) : Prop where
  agentID : d.request.agentID = e.agentID
  version : d.request.updatedAt = e.updatedAt
  later : e.updatedAt < e'.updatedAt
  reassigned : e.assignedTeamID ≠ "" → e'.assignedTeamID ≠ e.assignedTeamID →
    (e.status = .rejected ∨ e.status = .revoked) ∧ s.Withdrawn e

theorem Sound.decided (h : s.Sound) {a : Event} {clock : Time} (hstores : s.Stores a d old)
    (hid : (d.next old).agentID = id) (he : s.roster.rows.lookup id = some e)
    (hversion : e.updatedAt = old.updatedAt) : s.Decided d e (b.decided e (d.next old) clock) := by
  obtain ⟨n, _, -, hd, hphase⟩ := hstores
  have hfounded := h.founded n d hd
  have hbasis := hfounded.basis old (by rw [hphase]; rfl)
  subst hid
  -- What was read for the decision is what it replaces.
  obtain ⟨_, he', hcurrent⟩ := hbasis.current
  obtain rfl := some.inj (he.symm.trans he')
  obtain rfl := hcurrent.resolve_right fun hgrown => absurd hversion hgrown.ne'
  obtain ⟨hlater, hteam, -⟩ := decided_fields b e (d.next e) clock
  refine ⟨hbasis.agentID.symm, hbasis.version.symm, hlater, fun hassigned hother => ?_⟩
  rw [hteam, Deciding.next] at hother
  by_cases happroved : d.status = .approved
  · rw [if_pos happroved] at hother
    have hwithdrawn := hfounded.permitted e hphase happroved hassigned (Ne.symm hother)
    refine ⟨?_, hwithdrawn⟩
    have hpending := h.assigned _ e he hassigned
    cases hstatus : e.status with
    | pending => exact absurd hstatus hpending
    | approved => exact absurd hstatus hwithdrawn.1
    | rejected => exact .inl rfl
    | revoked => exact .inr rfl
  · rw [if_neg happroved] at hother
    exact absurd rfl hother

/-- A node of a team in a listing: it is enrolled, or marked. -/
def OfTeam (s : Server) (snap : StatusSnapshot) : Prop :=
  (∃ e, s.roster.rows.lookup snap.agent.id = some e) ∨ managedTeam snap.agent.groups = true

theorem Sound.listed (h : s.Sound) {snaps : List StatusSnapshot}
    (hanswer : s.answer n = some snaps) (hsnap : snap ∈ snaps) (hteam : s.OfTeam snap)
    (hopen : snap.isOpen = true) :
    ∃ e, s.roster.rows.lookup snap.agent.id = some e ∧ e.status = .approved ∧
      ∃ report, (snap.agent.id, report) ∈ s.reports ∧ Synced e report := by
  obtain ⟨read, hread, rfl⟩ := map_eq_some_iff.1 hanswer
  obtain ⟨snap₀, hsnap₀, rfl⟩ := List.mem_map.1 hsnap
  have hreported := h.listings n read hread snap₀ hsnap₀
  have hid : (overlay s.roster.rows snap₀).agent.id = snap₀.agent.id := by
    rw [overlay]
    split
    · dsimp only
      split_ifs <;> rfl
    · split_ifs <;> rfl
  rw [OfTeam, hid] at hteam
  rw [hid]
  rw [overlay] at hopen hteam
  cases hlookup : s.roster.rows.lookup snap₀.agent.id with
  | none =>
    rw [hlookup] at hopen hteam
    rcases hteam with ⟨e, he⟩ | hmarked
    · cases he
    split_ifs at hopen hmarked with hmanaged
    · cases hopen
    · exact absurd hmarked hmanaged
  | some e =>
    rw [hlookup] at hopen
    dsimp only at hopen
    split_ifs at hopen with hready
    · simp only [ready, Bool.and_eq_true, decide_eq_true_eq] at hready
      obtain ⟨⟨⟨⟨hstatus, -⟩, hrunning⟩, hsync⟩, hrevision⟩ := hready
      obtain ⟨t, ht, hlater⟩ := (Option.any_eq_true _ _).1 hsync
      exact ⟨e, rfl, hstatus, snap₀.report, hreported hrunning, hrevision, t, ht,
        of_decide_eq_true hlater⟩
    · cases hopen

/-- In every run, and with either store:
    * an enrolment is changed only by a decision about its very version, which it had when the
      decision was stored, and no enrolment is removed;
    * when a node registers, no enrolment changes;
    * another team is assigned to a node only after a rejection or a revocation was stored, and
      the node has reported that it has applied this decision and serves nobody;
    * a node of a team is listed as open only if it is approved at that time, and has reported
      that it serves the clients of this very decision. -/
theorem enrolment_safe (b : Backend) (configured : Registry) (as : List Event) (a : Event) :
    let s := Run.exec (step b) (start configured) as
    (∀ id e, s.roster.rows.lookup id = some e → ∃ e', (s.step b a).roster.rows.lookup id = some e' ∧
        (e' = e ∨ ∃ d old, s.Stores a d old ∧ s.Decided d e e')) ∧
    (∀ id suggested valid clock, a = .register id suggested valid clock →
      ∀ id' e, s.roster.rows.lookup id' = some e → (s.step b a).roster.rows.lookup id' = some e) ∧
    ∀ n snaps, s.answer n = some snaps → ∀ snap ∈ snaps, s.OfTeam snap → snap.isOpen = true →
      ∃ e, s.roster.rows.lookup snap.agent.id = some e ∧ e.status = .approved ∧
        ∃ report, (snap.agent.id, report) ∈ s.reports ∧ Synced e report := by
  intro s
  have hsound : s.Sound :=
    Run.exec_induction (fun _ a h => h.step b a) (sound_start configured) as
  have hchange : ∀ id e, s.roster.rows.lookup id = some e →
      ∃ e', (s.step b a).roster.rows.lookup id = some e' ∧
        (e' = e ∨ ∃ d old, s.Stores a d old ∧ s.Decided d e e') := by
    intro _ e he
    obtain ⟨e', he'⟩ := exists_lookup_step b a he
    refine ⟨e', he', ?_⟩
    rcases lookup_step he' with hsame | ⟨hnone, -⟩ | ⟨d, old, _, clock, hstores, hid, he₀,
      hversion, rfl⟩
    · exact .inl (some.inj (hsame.symm.trans he))
    · rw [hnone] at he
      cases he
    · obtain rfl := some.inj (he₀.symm.trans he)
      exact .inr ⟨d, old, hstores, hsound.decided hstores hid he₀ hversion⟩
  refine ⟨hchange, ?_, fun n snaps hanswer snap hsnap => hsound.listed hanswer hsnap⟩
  rintro id suggested valid clock rfl id' e he
  obtain ⟨e', he', hcases⟩ := hchange id' e he
  rcases hcases with rfl | ⟨d, old, ⟨n, _, habsurd, -⟩, -⟩
  · exact he'
  · cases habsurd

end Server

end Accounts.Agents

import Accounts.Email.Dispatch

/-!
# What a step of the dispatch can do

Every step of the system is one of a few kinds (`Effect`): a worker moves on without
writing to the queue (`Move`), one row is written under the conditions of its call, rows
are swept or cancelled, new rows appear, or a message is handed to the mail server and
answered. The invariants of the system are proved by cases on `step_effect`, and look at
no call again.
-/

namespace Accounts.Email

open Database Except AList Option Bool Function Job

/-! ## Where a worker is -/

/-- The states that end an attempt without a send. -/
def Status.unsent : Status → Bool
  | .retry | .failed | .suppressed | .cancelled => true
  | _ => false

/-- The worker is busy with a row, and has not sent it. -/
inductive Worker.Working (row : Delivery) : Worker → Prop
  | fetching : Working row (.fetching row)
  | checking (job : Job) (check : Check) (h : job.row = row) : Working row (.checking job check)
  | marking (job : Job) (h : job.row = row) : Working row (.marking job)

/-- The worker gives a row back, and has not sent it. -/
inductive Worker.Leaving (row : Delivery) : Worker → Prop
  | finishing (status : Status) (reason : String) (h : status.unsent = true) :
    Leaving row (.finishing row status reason)
  | deferring (due : Time) (reason : String) : Leaving row (.deferring row due reason)

/-- The row that the worker is busy with. -/
def Worker.row : Worker → Option Delivery
  | .idle | .claiming _ _ => none
  | .checking job _ | .marking job => some job.row
  | .fetching row | .marked row | .waiting row | .finishing row _ _ | .deferring row _ _ => some row

/-- The checks after the one of the campaign. -/
def Check.pastCampaign : Check → Bool
  | .suppression | .blacklist | .onboarding | .campaign => false
  | _ => true

/-- The checks after the one of the frequency. -/
def Check.pastFrequency : Check → Bool
  | .recipient | .profile | .footer | .preferencesLink | .unsubscribeLink | .latest => true
  | _ => false

/-- The worker has passed the check of the campaign. -/
def Worker.eligible : Worker → Bool
  | .checking _ check => check.pastCampaign
  | .marking _ => true
  | _ => false

/-- When the worker passed the check of the frequency. The checks of a transactional
    message go another way, and lead to the last write as well. -/
def Worker.checked : Worker → Option Time
  | .checking job .settings | .checking job .link =>
    if job.row.category.isSome then some job.checkedAt else none
  | .checking job check => if check.pastFrequency then some job.checkedAt else none
  | .marking job => if job.row.category.isSome then some job.checkedAt else none
  | _ => none

/-- The campaign of a row is there, and not cancelled. -/
def Database.open (db : Database) (m : Message) : Prop :=
  ∃ id c, m.campaignID = some id ∧ db.campaigns.lookup id = some c ∧ c.status ≠ .cancelled

/-- What a check lets a worker do next. -/
structure Passes (db : Database) (now : Time) (row : Delivery) (y x : Worker) : Prop where
  holds : x.Working row ∨ x.Leaving row
  eligible : x.eligible = true → row.stepID = none → y.eligible = true ∨ db.open row.toMessage
  checked : ∀ t, x.checked = some t → y.checked = some t ∨
    (t = now ∧ ∃ f, db.emailFrequencyAvailable row.userID f now = true)

section

variable {db : Database} {now : Time} {row : Delivery} {y : Worker}

theorem Passes.of_leaving {x : Worker} (h : x.Leaving row) : Passes db now row y x := by
  refine ⟨.inr h, ?_, ?_⟩ <;> cases h <;> nofun

theorem passes_finish {status : Status} (h : status.unsent = true) (reason : String) :
    Passes db now row y (finish row status reason) := by
  refine .of_leaving (.finishing _ _ ?_)
  split_ifs
  · rfl
  · exact h

variable {job : Job}

theorem passes_unprepared : Passes db now job.row y job.unprepared := by
  rw [unprepared]
  split_ifs
  · exact passes_finish rfl _
  · exact passes_finish rfl _

section

variable (h : job.row.stepID = none → y.eligible = true ∨ db.open job.row.toMessage)

include h

/-- The checks between the campaign and the frequency. -/
theorem passes_afterConsent : Passes db now job.row y job.afterConsent := by
  rw [afterConsent]
  split_ifs with hstep hcategory
  · exact ⟨.inl (.checking _ _ rfl), fun _ => h, nofun⟩
  · exact ⟨.inl (.checking _ _ rfl), fun _ => h, nofun⟩
  · refine ⟨.inl (.checking _ _ rfl), fun _ => h, ?_⟩
    simp [Worker.checked, hcategory]

theorem passes_afterSource : Passes db now job.row y job.afterSource := by
  rw [afterSource]
  split_ifs
  · exact ⟨.inl (.checking _ _ rfl), fun _ => h, nofun⟩
  · exact passes_afterConsent h

end

/-- A call before the send passes what it has checked. -/
theorem run_passes [Unicode] (reply : Reply) (check : Check) :
    Passes db now job.row (.checking job check) (job.run db now reply check) := by
  have hfinish {status : Status} (h : status.unsent = true) (reason : String) :
      Passes db now job.row (.checking job check) (finish job.row status reason) :=
    passes_finish h reason
  cases check <;> simp only [run]
  case suppression =>
    split_ifs
    · exact hfinish rfl _
    · exact hfinish rfl _
    · exact ⟨.inl (.checking _ _ rfl), nofun, nofun⟩
  case blacklist =>
    split_ifs
    · exact hfinish rfl _
    · exact hfinish rfl _
    · exact ⟨.inl (.checking _ _ rfl), nofun, nofun⟩
    · exact ⟨.inl (.checking _ _ rfl), nofun, nofun⟩
  case onboarding =>
    split_ifs with _ henabled
    · exact hfinish rfl _
    · refine passes_afterSource fun hstep => ?_
      simp [hstep] at henabled
    · exact hfinish rfl _
  case campaign =>
    split_ifs
    · exact hfinish rfl _
    rcases hc : job.row.campaignID.bind db.campaigns.lookup with _ | c
    · exact hfinish rfl _
    dsimp only
    split_ifs with hcancelled
    · exact hfinish rfl _
    · obtain ⟨id, hid, hlookup⟩ := bind_eq_some_iff.1 hc
      exact ⟨.inl (.checking _ _ rfl), fun _ _ => .inr ⟨id, c, hid, hlookup, hcancelled⟩, nofun⟩
  case audience =>
    split_ifs
    · exact hfinish rfl _
    · exact passes_afterSource fun _ => .inl rfl
    · exact hfinish rfl _
  case consent =>
    split_ifs
    · exact hfinish rfl _
    · exact passes_afterConsent fun _ => .inl rfl
    · exact hfinish rfl _
  case predecessor =>
    by_cases hfailed : reply.failed = true
    · rw [if_pos hfailed]
      exact hfinish rfl _
    rw [if_neg hfailed]
    rcases db.onboardingPredecessorSent job.row.toMessage with e | ready
    · exact hfinish rfl _
    cases ready with
    | false => exact .of_leaving (.deferring _ _)
    | true =>
      split_ifs with hcategory
      · exact ⟨.inl (.checking _ _ rfl), fun _ _ => .inl rfl, nofun⟩
      · refine ⟨.inl (.checking _ _ rfl), fun _ _ => .inl rfl, ?_⟩
        simp [Worker.checked, hcategory]
  case preferences =>
    split_ifs
    · exact hfinish rfl _
    · exact ⟨.inl (.checking _ _ rfl), fun _ _ => .inl rfl, nofun⟩
    · exact hfinish rfl _
  case frequency =>
    by_cases hfailed : reply.failed = true
    · rw [if_pos hfailed]
      exact hfinish rfl _
    rw [if_neg hfailed]
    by_cases havailable :
        db.emailFrequencyAvailable job.row.userID job.preferences.frequency now = true
    · rw [if_pos havailable]
      exact ⟨.inl (.checking _ _ rfl), fun _ _ => .inl rfl,
        fun t ht => .inr ⟨(some.inj ht).symm, _, havailable⟩⟩
    rw [if_neg havailable]
    by_cases hstep : job.row.stepID.isSome = true
    · rw [if_pos hstep]
      exact .of_leaving (.deferring _ _)
    · rw [if_neg hstep]
      exact hfinish rfl _
  case settings =>
    split_ifs
    · exact hfinish rfl _
    · exact ⟨.inl (.checking _ _ rfl), fun _ _ => .inl rfl, fun _ => .inl⟩
    · exact hfinish rfl _
  case link =>
    split_ifs
    · exact hfinish rfl _
    · exact ⟨.inl (.marking _ rfl), fun _ _ => .inl rfl, fun _ => .inl⟩
  case recipient =>
    split_ifs
    · exact ⟨.inl (.checking _ _ rfl), fun _ _ => .inl rfl, fun _ => .inl⟩
    · exact hfinish rfl _
  case profile =>
    split_ifs
    · exact passes_unprepared
    · exact ⟨.inl (.checking _ _ rfl), fun _ _ => .inl rfl, fun _ => .inl⟩
    · exact hfinish rfl _
  case footer =>
    split_ifs
    · exact ⟨.inl (.checking _ _ rfl), fun _ _ => .inl rfl, fun _ => .inl⟩
    · exact passes_unprepared
  case preferencesLink | unsubscribeLink =>
    split_ifs
    · exact passes_unprepared
    · exact ⟨.inl (.checking _ _ rfl), fun _ _ => .inl rfl, fun _ => .inl⟩
  case latest =>
    split_ifs
    · exact passes_unprepared
    · refine ⟨.inl (.marking _ rfl), fun _ _ => .inl rfl, fun t ht => .inl ?_⟩
      simp only [Worker.checked] at ht ⊢
      split_ifs at ht with hcategory
      exact ht
    · exact hfinish rfl _

/-- The account is the first thing that is looked up. -/
theorem fetched_passes [Unicode] (reply : Reply) :
    Passes db now row (.fetching row) (fetched row reply) := by
  rw [fetched]
  split_ifs
  · exact passes_finish rfl _
  rcases reply.account with _ | u
  · exact passes_finish rfl _
  dsimp only
  split_ifs
  · exact ⟨.inl (.checking _ _ rfl), nofun, nofun⟩
  · exact passes_finish rfl _

end

/-! ## Effects -/

/-- A row stays as it is, or a new one appears under a new identifier. -/
inductive Grown (id : String) : Option Delivery → Option Delivery → Prop
  | same (x : Option Delivery) : Grown id x x
  | new (r : Delivery) (hid : r.id = id) (hstatus : r.status = .queued)
    (hsource : r.campaignID ≠ none → r.stepID = none) : Grown id none (some r)

/-- The user has said that messages of a category are welcome. -/
def Database.allows (db : Database) (userID : String) (category : Category) : Bool :=
  (db.preferences.lookup userID).any (emailCategoryAllowed · category)

/-- The other tables after an event: a campaign stays cancelled, and none is cancelled;
    an address stays suppressed; the versions of preferences grow, and a consent is given
    by those who save it. -/
structure Elsewhere (db : Database) (e : Event) (db' : Database) : Prop where
  campaigns : ∀ ⦃id : String⦄ ⦃c : Campaign⦄, db.campaigns.lookup id = some c →
    ∃ c', db'.campaigns.lookup id = some c' ∧ (c'.status = .cancelled ↔ c.status = .cancelled)
  suppressions : db.suppressions ⊆ db'.suppressions
  versions : ∀ ⦃userID : String⦄ ⦃p : Preferences⦄, db.preferences.lookup userID = some p →
    ∃ p', db'.preferences.lookup userID = some p' ∧ p.version ≤ p'.version
  consent : ∀ ⦃userID : String⦄ ⦃category : Category⦄, db'.allows userID category = true →
    db.allows userID category = true ∨ ∃ p, e.action = .save userID p ∧
      emailCategoryAllowed p category = true ∧ db.saveEmailPreferences userID p = .ok db'

/-- Nothing happens elsewhere. -/
theorem Elsewhere.of_eq {db db' : Database} {e : Event} (hcampaigns : db'.campaigns = db.campaigns)
    (hsuppressions : db'.suppressions = db.suppressions)
    (hpreferences : db'.preferences = db.preferences) : Elsewhere db e db' where
  campaigns _ c hc := ⟨c, by rw [hcampaigns, hc], Iff.rfl⟩
  suppressions := by rw [hsuppressions]; exact fun _ => id
  versions _ p hp := ⟨p, by rw [hpreferences, hp], le_rfl⟩
  consent _ _ h := .inl (by rwa [Database.allows, hpreferences] at h)

/-- A worker moves on without a write to the queue. -/
inductive Move (s : System) (db : Database) (now : Time) (w : Nat) : Worker → Prop
  | stop : Move s db now w .idle
  | start (hw : s.workers w = .idle) : Move s db now w (.claiming now .sweepSending)
  | select (t : Time) (hw : s.workers w = .claiming t .select) :
    Move s db now w (.claiming t (.trying (s.db.candidates t)))
  | skip (t : Time) (c : Delivery) (cs : List Delivery)
    (hw : s.workers w = .claiming t (.trying (c :: cs))) :
    Move s db now w (.claiming t (.trying cs))
  | check (row : Delivery) (x : Worker) (hw : (s.workers w).Working row)
    (h : Passes db now row (s.workers w) x) : Move s db now w x
  | answer (row : Delivery) (status : Status) (reason : String) (hw : s.workers w = .waiting row)
    (h : status = .uncertain ∨ (status = .sent ∧ s.accepted row.leaseToken = true)) :
    Move s db now w (.finishing row status reason)

/-- What a step can do. -/
inductive Effect (s : System) (e : Event) : System → Prop
  /-- No worker moves; new rows may appear. -/
  | outside (db : Database) (operators : Nat → Option (String × Bool))
    (hrows : ∀ id, Grown id (s.db.deliveries.lookup id) (db.deliveries.lookup id))
    (hleases : db.leases = s.db.leases) (helsewhere : Elsewhere s.db e db) :
    Effect s e { s with db := db, operators := operators, clock := e.now }
  /-- A worker moves on. -/
  | move (w : Nat) (steps : Table StepID OnboardingStep) (x : Worker)
    (h : Move s { s.db with steps := steps } e.now w x) :
    Effect s e { s with
      db := { s.db with steps := steps }
      workers := update s.workers w x
      clock := e.now }
  /-- The sends of the past become uncertain. -/
  | sweepSending (w : Nat) (t : Time) (hw : s.workers w = .claiming t .sweepSending) :
    Effect s e { s with
      db := s.db.sweepSending t
      workers := update s.workers w (.claiming t .sweepProcessing)
      clock := e.now }
  /-- The claims of the past are given up. -/
  | sweepProcessing (w : Nat) (t : Time) (hw : s.workers w = .claiming t .sweepProcessing) :
    Effect s e { s with
      db := s.db.sweepProcessing t
      workers := update s.workers w (.claiming t .select)
      clock := e.now }
  /-- A row is claimed, with a new token. -/
  | claim (w : Nat) (t : Time) (c r : Delivery) (cs : List Delivery)
    (hw : s.workers w = .claiming t (.trying (c :: cs)))
    (hr : s.db.deliveries.lookup c.id = some r) (hdue : r.due t = true)
    (hlease : ∀ l, s.db.leases.lookup c.userID = some l → l.expiresAt < t) :
    Effect s e { s with
      db := { s.db with
        leases := s.db.leases.insert c.userID ⟨s.attempts.length, t + leaseTime⟩
        deliveries := s.db.deliveries.insert c.id (claimedRow r s.attempts.length t) }
      workers := update s.workers w (.fetching (claimedRow c s.attempts.length t))
      attempts := s.attempts ++ [⟨c.id, c.userID, c.category, w, .claimed, 0, 0⟩]
      clock := e.now }
  /-- A row is marked as sending. -/
  | mark (w : Nat) (job : Job) (r : Delivery) (n : Nat) (t : Time)
    (hw : s.workers w = .marking job) (hn : job.row.leaseToken = some n)
    (hr : s.db.deliveries.lookup job.row.id = some r) (hstatus : r.status = .processing)
    (htoken : r.leaseToken = some n) (huntil : r.leaseUntil = some t) (hnow : e.now < t)
    (hsuppressed : job.row.email ∉ s.db.suppressions)
    (hconsents : s.db.consents job.row.toMessage job.consentVersion = true) :
    Effect s e { s with
      db := { s.db with
        deliveries := s.db.deliveries.insert job.row.id { r with status := .sending } }
      workers := update s.workers w (.marked job.row)
      attempts := s.attempts.modify n fun a =>
        { a with progress := .marked, markedAt := e.now, epoch := s.acknowledged.count job.row.id }
      clock := e.now }
  /-- The message is handed to the mail server. -/
  | submit (w : Nat) (row : Delivery) (n : Nat) (hw : s.workers w = .marked row)
    (hn : row.leaseToken = some n) :
    Effect s e { s with
      workers := update s.workers w (.waiting row)
      attempts := s.attempts.modify n fun a => { a with progress := .submitted }
      clock := e.now }
  /-- The mail server accepts it. -/
  | accept (n : Nat) (a : Attempt) (ha : s.attempts[n]? = some a)
    (hsubmitted : a.progress = .submitted) :
    Effect s e { s with
      attempts := s.attempts.modify n fun a => { a with progress := .accepted e.now }
      clock := e.now }
  /-- The mail server refuses it, or something after it. -/
  | refuse (w : Nat) (row : Delivery) (n : Nat) (status : Status) (reason : String)
    (hw : s.workers w = .waiting row) (hn : row.leaseToken = some n)
    (hpending : s.conclusive e = true → s.accepted row.leaseToken = false)
    (hstatus : status = .retry ∨ status = .failed) :
    Effect s e { s with
      workers := update s.workers w (.finishing row status reason)
      attempts := s.attempts.modify n fun a => { a with progress := a.progress.refuse }
      clock := e.now }
  /-- The worker writes the outcome. -/
  | finish (w : Nat) (row r : Delivery) (status : Status) (reason : String) (due : Time)
    (hw : s.workers w = .finishing row status reason)
    (hr : s.db.deliveries.lookup row.id = some r) (htoken : r.leaseToken = row.leaseToken)
    (hstatus : r.status = .processing ∨ r.status = .sending) :
    Effect s e { s with
      db := { s.db with
        leases := releaseLease s.db.leases row.userID row.leaseToken
        deliveries := s.db.deliveries.insert row.id { r with
            status := status
            lastError := reason
            leaseToken := none
            leaseUntil := none
            sentAt := if status = .sent then some e.now else r.sentAt
            dueAt := if status = .retry then due else r.dueAt } }
      workers := update s.workers w .idle
      clock := e.now }
  /-- The worker puts the row off. -/
  | defer (w : Nat) (row r : Delivery) (due : Time) (reason : String)
    (hw : s.workers w = .deferring row due reason)
    (hr : s.db.deliveries.lookup row.id = some r) (htoken : r.leaseToken = row.leaseToken)
    (hstatus : r.status = .processing) :
    Effect s e { s with
      db := { s.db with
        leases := releaseLease s.db.leases row.userID row.leaseToken
        deliveries := s.db.deliveries.insert row.id { r with
            status := .retry
            dueAt := due
            attempts := r.attempts - 1
            lastError := reason
            leaseToken := none
            leaseUntil := none } }
      workers := update s.workers w .idle
      clock := e.now }
  /-- An operator retries a failed row. -/
  | reopen (id : String) (r : Delivery) (operators : Nat → Option (String × Bool))
    (hr : s.db.deliveries.lookup id = some r) (hstatus : r.status = .failed) :
    Effect s e { s with
      db := { s.db with
        deliveries := s.db.deliveries.insert id
          { r with status := .retry, dueAt := e.now, attempts := 0, lastError := "" } }
      operators := operators
      clock := e.now }
  /-- An operator retries a row whose outcome is unknown. -/
  | acknowledge (id : String) (r : Delivery) (operators : Nat → Option (String × Bool))
    (hr : s.db.deliveries.lookup id = some r) (hstatus : r.status = .uncertain) :
    Effect s e { s with
      db := { s.db with
        deliveries := s.db.deliveries.insert id
          { r with status := .retry, dueAt := e.now, attempts := 0, lastError := "" } }
      operators := operators
      acknowledged := id :: s.acknowledged
      clock := e.now }
  /-- An operator confirms the acceptance of a row whose outcome was unknown. -/
  | confirm (id : String) (r : Delivery) (he : e.action = .confirm id)
    (hr : s.db.deliveries.lookup id = some r) (hstatus : r.status = .uncertain) :
    Effect s e { s with
      db := { s.db with
        deliveries := s.db.deliveries.insert id { r with
            status := .sent
            sentAt := some e.now
            lastError := "smtp_acceptance_confirmed_by_root"
            leaseToken := none
            leaseUntil := none } }
      clock := e.now }
  /-- A campaign is cancelled, with its rows that are not being sent. -/
  | cancel (id : String) (c : Campaign) (hc : s.db.campaigns.lookup id = some c)
    (hstatus : c.status ≠ .cancelled) :
    Effect s e { s with
      db := { s.db with
        campaigns :=
          s.db.campaigns.insert id { c with status := .cancelled, version := c.version + 1 }
        deliveries := Table.mapRows (fun _ r =>
          if r.campaignID = some id ∧
              (r.status = .queued ∨ r.status = .retry ∨ r.status = .processing) then
            { r with status := .cancelled }
          else r) s.db.deliveries }
      clock := e.now }

/-! ## Every step has an effect -/

/-- The rows of the workers have tokens. -/
def System.Tokened (s : System) : Prop :=
  ∀ w row, (s.workers w).row = some row → ∃ n, row.leaseToken = some n

section

variable {s : System} {e : Event}

/-- Nothing but the time changes. -/
theorem Effect.rest : Effect s e { s with clock := e.now } :=
  .outside s.db s.operators (fun _ => .same _) rfl (.of_eq rfl rfl rfl)

theorem Effect.of_move {w : Nat} {x : Worker} (h : Move s s.db e.now w x) :
    Effect s e { s with workers := update s.workers w x, clock := e.now } :=
  .move w s.db.steps x h

/-- Only the steps change. -/
theorem listOnboardingSteps_eq (db : Database) (now : Time) :
    ∃ steps, db.listOnboardingSteps now = { db with steps := steps } := by
  have hensure (db : Database) (id : StepID) (delay : Int) :
      ∃ steps, db.ensureStep id delay now = { db with steps := steps } := by
    rw [ensureStep]
    split_ifs
    · exact ⟨db.steps, rfl⟩
    · exact ⟨_, rfl⟩
  obtain ⟨hello, hhello⟩ := hensure db .hello 0
  obtain ⟨first, hfirst⟩ := hensure { db with steps := hello } .firstSteps 24
  obtain ⟨more, hmore⟩ := hensure { db with steps := first } .discoverMore 72
  refine ⟨more, ?_⟩
  rw [listOnboardingSteps, hhello, hfirst]
  exact hmore

theorem saveOnboardingStep_ok {db db' : Database} {id : StepID} {step : OnboardingStep}
    {now : Time} (h : db.saveOnboardingStep id step now = .ok db') :
    ∃ steps, db' = { db with steps := steps } := by
  obtain ⟨-, h⟩ := guard_ok.1 h
  cases hold : db.steps.lookup id with
  | none | some =>
    rw [hold] at h
    simp only [guard_ok] at h
    cases h.2
    exact ⟨_, rfl⟩

/-- New preferences of a user. -/
theorem Elsewhere.of_preferences {db : Database} {userID : String} {p : Preferences}
    (hversion : ∀ q, db.preferences.lookup userID = some q → q.version ≤ p.version)
    (hconsent : ∀ category, emailCategoryAllowed p category = true →
      ∃ q, e.action = .save userID q ∧ emailCategoryAllowed q category = true ∧
        db.saveEmailPreferences userID q =
          .ok { db with preferences := db.preferences.insert userID p }) :
    Elsewhere db e { db with preferences := db.preferences.insert userID p } where
  campaigns _ c hc := ⟨c, hc, Iff.rfl⟩
  suppressions _ h := h
  versions u q hq := by
    by_cases hu : u = userID
    · subst hu
      exact ⟨p, lookup_insert _, hversion q hq⟩
    · exact ⟨q, (lookup_insert_ne hu).trans hq, le_rfl⟩
  consent u category h := by
    by_cases hu : u = userID
    · subst hu
      refine .inr (hconsent category ?_)
      simpa [Database.allows, lookup_insert] using h
    · refine .inl ?_
      simpa [Database.allows, lookup_insert_ne hu] using h

/-- Rows are only added. -/
theorem grown_insertEmailDeliveries (db : Database) {rows : List (Message × Time)}
    (hsource : ∀ row ∈ rows, row.1.campaignID ≠ none → row.1.stepID = none) (id : String) :
    Grown id (db.deliveries.lookup id) ((db.insertEmailDeliveries rows).deliveries.lookup id) := by
  induction rows generalizing db with
  | nil => exact .same _
  | cons row rows ih =>
    rw [insertEmailDeliveries, List.foldl_cons, ← insertEmailDeliveries]
    have hrest := ih (if db.taken row.1 then db else
      { db with deliveries := db.deliveries.insert row.1.id (newDelivery row.1 row.2) })
      fun row' hrow' => hsource row' (.tail _ hrow')
    split_ifs at hrest ⊢ with htaken
    · exact hrest
    by_cases hid : id = row.1.id
    · subst hid
      -- The identifier is not taken, and the row written under it is not written again.
      have hnone : db.deliveries.lookup row.1.id = none := by
        by_contra hsome
        exact htaken (by simp [taken, isSome_iff_ne_none.2 hsome])
      rw [lookup_insert] at hrest
      rw [hnone]
      generalize (insertEmailDeliveries _ rows).deliveries.lookup row.1.id = x at hrest
      cases hrest
      exact .new _ rfl rfl (hsource row (.head _))
    · rwa [lookup_insert_ne hid] at hrest

/-- Only deliveries are written. -/
theorem insertEmailDeliveries_eq (db : Database) (rows : List (Message × Time)) :
    ∃ deliveries, db.insertEmailDeliveries rows = { db with deliveries := deliveries } := by
  induction rows generalizing db with
  | nil => exact ⟨db.deliveries, rfl⟩
  | cons row _ ih =>
    rw [insertEmailDeliveries, List.foldl_cons]
    split_ifs
    · exact ih db
    · obtain ⟨deliveries, h⟩ := ih
        { db with deliveries := db.deliveries.insert row.1.id (newDelivery row.1 row.2) }
      exact ⟨deliveries, h⟩

/-- A campaign that is written, and was not cancelled, is not cancelled. -/
theorem Elsewhere.of_campaign {db : Database} {id : String} {c' : Campaign}
    (hold : ∀ c, db.campaigns.lookup id = some c → c.status ≠ .cancelled)
    (hnew : c'.status ≠ .cancelled) :
    Elsewhere db e { db with campaigns := db.campaigns.insert id c' } where
  campaigns k c hc := by
    by_cases hk : k = id
    · subst hk
      exact ⟨c', lookup_insert _, iff_of_false hnew (hold c hc)⟩
    · exact ⟨c, (lookup_insert_ne hk).trans hc, Iff.rfl⟩
  suppressions _ h := h
  versions _ p hp := ⟨p, hp, le_rfl⟩
  consent _ _ h := .inl h

/-- A campaign that is open stays so. -/
theorem Elsewhere.open {db db' : Database} (h : Elsewhere db e db') {m : Message}
    (hm : db.open m) : db'.open m := by
  obtain ⟨id, c, hid, hc, hopen⟩ := hm
  obtain ⟨c', hc', hiff⟩ := h.campaigns hc
  exact ⟨id, c', hid, hc', hiff.not.2 hopen⟩

/-- A refused write changes nothing, and one that is made has its effect. -/
theorem effect_write {x : Except EmailError Database}
    (h : ∀ db, x = .ok db → Effect s e { s with db := db, clock := e.now }) :
    Effect s e { s.write x with clock := e.now } := by
  cases x with
  | error => exact .rest
  | ok db => exact h db rfl

theorem effect_createCampaign (id : String) (mode : Frequency) :
    Effect s e { s.write (s.db.createEmailCampaign id mode) with clock := e.now } := by
  refine effect_write fun db h => ?_
  obtain ⟨hnew, h⟩ := guard_ok.1 h
  cases h
  refine .outside _ s.operators (fun _ => .same _) rfl (.of_campaign (fun c hc => ?_) nofun)
  exact absurd (Table.mem_of_lookup hc) hnew

theorem effect_saveCampaign (id : String) (version : Nat) (mode : Frequency) :
    Effect s e { s.write (s.db.saveEmailCampaign id version mode) with clock := e.now } := by
  refine effect_write fun db h => ?_
  rw [saveEmailCampaign] at h
  rcases hc : s.db.campaigns.lookup id with _ | c <;> simp only [hc, reduceCtorEq] at h
  split_ifs at h with hdraft
  cases h
  refine .outside _ s.operators (fun _ => .same _) rfl (.of_campaign (fun c' hc' => ?_) nofun)
  rw [← some.inj (hc.symm.trans hc'), hdraft.2]
  decide

section

variable [Unicode]

theorem effect_launch (id : String) (version : Nat) (recipients : List Recipient) :
    Effect s e { s.launch id version recipients e.now with clock := e.now } := by
  rw [System.launch]
  rcases hc : s.db.campaigns.lookup id with _ | c
  · exact .rest
  refine effect_write fun db h => ?_
  rw [queueEmailCampaign, hc] at h
  dsimp only at h
  split_ifs at h with hdraft
  cases h
  have hsource : ∀ row ∈ System.campaignRows id c.deliveryMode e.now recipients,
      row.1.campaignID ≠ none → row.1.stepID = none := by
    intro _ hrow _
    obtain ⟨u, -, rfl⟩ := List.mem_map.1 hrow
    rfl
  let queued : Database := { s.db with
    campaigns := s.db.campaigns.insert id { c with status := .queued, version := version + 1 } }
  have helsewhere : Elsewhere s.db e queued := by
    refine .of_campaign (fun c' hc' => ?_) nofun
    rw [← some.inj (hc.symm.trans hc'), hdraft.2.1]
    decide
  have hgrown := grown_insertEmailDeliveries queued hsource
  obtain ⟨_, hrows⟩ := insertEmailDeliveries_eq queued
    (System.campaignRows id c.deliveryMode e.now recipients)
  rw [hrows] at hgrown ⊢
  exact .outside _ s.operators hgrown rfl
    ⟨helsewhere.campaigns, helsewhere.suppressions, helsewhere.versions, fun _ _ h => .inl h⟩

theorem effect_enroll (user : Recipient) (createdAt : Time)
    (steps : List (String × StepID × OnboardingStep)) :
    Effect s e { s with
      db := s.db.insertEmailDeliveries (System.onboardingRows user createdAt e.now steps)
      clock := e.now } := by
  have hsource : ∀ row ∈ System.onboardingRows user createdAt e.now steps,
      row.1.campaignID ≠ none → row.1.stepID = none := by
    intro _ hrow hcampaign
    obtain ⟨x, -, rfl⟩ := List.mem_map.1 hrow
    exact absurd rfl hcampaign
  have hgrown := grown_insertEmailDeliveries s.db hsource
  obtain ⟨_, hrows⟩ := insertEmailDeliveries_eq s.db
    (System.onboardingRows user createdAt e.now steps)
  rw [hrows] at hgrown ⊢
  exact .outside _ s.operators hgrown rfl (.of_eq rfl rfl rfl)

section

omit [Unicode]

theorem effect_retry (o : Nat) : Effect s e { s.retry o e.now with clock := e.now } := by
  rw [System.retry]
  rcases s.operators o with _ | ⟨deliveryID, ackUnknown⟩
  · exact .rest
  dsimp only
  rcases h : s.db.retryEmailDelivery deliveryID ackUnknown e.now with _ | db
  · exact .outside s.db _ (fun _ => .same _) rfl (.of_eq rfl rfl rfl)
  obtain ⟨r, hr, hp, rfl⟩ := updateDelivery_ok.1 h
  simp only [or_eq_true, and_eq_true, decide_eq_true_eq] at hp
  rcases hp with hfailed | ⟨-, huncertain⟩
  · simp only [hr, any_some, hfailed]
    exact .reopen deliveryID r _ hr hfailed
  · simp only [hr, any_some, huncertain]
    exact .acknowledge deliveryID r _ hr huncertain

theorem effect_tryClaim {w : Nat} {t : Time} {c : Delivery} {cs : List Delivery}
    (hw : s.workers w = .claiming t (.trying (c :: cs))) :
    Effect s e { s.tryClaim w t c cs with clock := e.now } := by
  rw [System.tryClaim]
  rcases h : s.db.claimCandidate c s.attempts.length t with _ | db
  · exact .of_move (.skip t c cs hw)
  obtain ⟨db₁, hlease, hrow⟩ := bind_eq_ok.1 h
  -- The lease of the recipient has run out.
  have hfree : (∀ l, s.db.leases.lookup c.userID = some l → l.expiresAt < t) ∧ db₁ = { s.db with
        leases := s.db.leases.insert c.userID ⟨s.attempts.length, t + leaseTime⟩ } := by
    rw [acquireLease] at hlease
    cases hl : s.db.leases.lookup c.userID with
    | none =>
      rw [hl] at hlease
      cases hlease
      exact ⟨nofun, rfl⟩
    | some =>
      rw [hl] at hlease
      dsimp only at hlease
      split_ifs at hlease with hexpired
      cases hlease
      exact ⟨fun l' hl' => some.inj hl' ▸ hexpired, rfl⟩
  obtain ⟨hexpired, rfl⟩ := hfree
  obtain ⟨r, hr, hdue, rfl⟩ := updateDelivery_ok.1 hrow
  exact .claim w t c r cs hw hr hdue hexpired

theorem effect_mark {w : Nat} {job : Job} {n : Nat} (hw : s.workers w = .marking job)
    (hn : job.row.leaseToken = some n) :
    Effect s e { s.mark w job e.now with clock := e.now } := by
  rw [System.mark]
  rcases h : s.db.markEmailSending job.row job.consentVersion e.now with _ | db
  · exact .of_move (.check job.row _ (hw ▸ .marking job rfl) (passes_finish rfl _))
  obtain ⟨r, hr, hp, rfl⟩ := updateDelivery_ok.1 h
  simp only [and_eq_true, decide_eq_true_eq, not_eq_true', any_eq_true_iff_get,
    List.contains_eq_mem, decide_eq_false_iff_not] at hp
  obtain ⟨⟨⟨⟨⟨hstatus, htoken⟩, ⟨hsome, hnow⟩⟩, hsuppressed⟩, -⟩, hconsents⟩ := hp
  simp only [hn, getD_some]
  exact .mark w job r n _ hw hn hr hstatus (htoken.trans hn) (some_get hsome).symm hnow
    hsuppressed hconsents

/-- The answers that leave a claim as it is. -/
theorem effect_answered {w : Nat} {row : Delivery} {smtp : Smtp} (hw : s.workers w = .waiting row)
    (h : (∃ n, smtp = .code n ∧ ¬ (400 ≤ n ∧ n < 600)) ∨ smtp = .error ∨
      (smtp = .ok ∧ s.accepted row.leaseToken = true)) :
    Effect s e { s.setWorker w (answered row smtp) with clock := e.now } := by
  rcases h with ⟨n, rfl, hn⟩ | rfl | ⟨rfl, haccepted⟩
  · rw [answered, if_neg (by omega), if_neg (by omega)]
    exact .of_move (.answer row _ _ hw (.inl rfl))
  · exact .of_move (.answer row _ _ hw (.inl rfl))
  · exact .of_move (.answer row _ _ hw (.inr ⟨rfl, haccepted⟩))

theorem effect_receive {w : Nat} {row : Delivery} {n : Nat} {reply : Reply}
    (ha : e.action = .advance w reply) (hw : s.workers w = .waiting row)
    (hn : row.leaseToken = some n) :
    Effect s e { s.receive w row reply.smtp with clock := e.now } := by
  cases hsmtp : reply.smtp with
  | error => exact effect_answered hw (.inr (.inl rfl))
  | ok =>
    rw [System.receive]
    split_ifs with haccepted
    · exact effect_answered hw (.inr (.inr ⟨rfl, haccepted⟩))
    · exact .rest
  | code c =>
    rw [System.receive]
    split_ifs with hc
    · have hpending : s.conclusive e = true → s.accepted row.leaseToken = false := by
        simp [System.conclusive, ha, hw, hsmtp, hc]
      rw [hn, answered]
      split_ifs
      · exact .refuse w row n _ _ hw hn hpending (by split_ifs <;> simp)
      · exact .refuse w row n _ _ hw hn hpending (.inr rfl)
      · exact .refuse w row n _ _ hw hn hpending (.inr rfl)
      · omega
    · exact effect_answered hw (.inl ⟨c, rfl, hc⟩)

end

theorem effect_advance (htokened : s.Tokened) {w : Nat} {reply : Reply}
    (ha : e.action = .advance w reply) :
    Effect s e { s.advance w reply e.now with clock := e.now } := by
  rw [System.advance]
  cases hw : s.workers w with
  | idle => exact .of_move (.start hw)
  | claiming t stage =>
    cases stage with
    | sweepSending => exact .sweepSending w t hw
    | sweepProcessing => exact .sweepProcessing w t hw
    | select => exact .of_move (.select t hw)
    | trying cs =>
      cases cs with
      | nil => exact .of_move .stop
      | cons => exact effect_tryClaim hw
  | fetching row => exact .of_move (.check row _ (hw ▸ .fetching) (hw ▸ fetched_passes reply))
  | checking job check =>
    have hworking : (s.workers w).Working job.row := hw ▸ .checking job check rfl
    have hpasses (db : Database) :
        Passes db e.now job.row (s.workers w) (job.run db e.now reply check) := by
      rw [hw]
      exact run_passes reply check
    cases check with
    | onboarding =>
      obtain ⟨steps, hsteps⟩ := listOnboardingSteps_eq s.db e.now
      rw [hsteps]
      exact .move w steps _ (.check job.row _ hworking (hpasses _))
    | _ => exact .of_move (.check job.row _ hworking (hpasses _))
  | marking job =>
    obtain ⟨n, hn⟩ := htokened w job.row (by rw [hw]; rfl)
    exact effect_mark hw hn
  | marked row =>
    obtain ⟨n, hn⟩ := htokened w row (by rw [hw]; rfl)
    dsimp only
    rw [hn]
    exact .submit w row n hw hn
  | waiting row =>
    obtain ⟨n, hn⟩ := htokened w row (by rw [hw]; rfl)
    exact effect_receive ha hw hn
  | finishing row status reason =>
    dsimp only
    cases h : s.db.finishEmailDelivery row status reason
        (e.now + Time.minute * (row.attempts * row.attempts)) e.now with
    | error => exact .of_move .stop
    | ok =>
      obtain ⟨db₁, hupdate, rfl⟩ := map_eq_ok.1 h
      obtain ⟨r, hr, hp, rfl⟩ := updateDelivery_ok.1 hupdate
      simp only [and_eq_true, or_eq_true, decide_eq_true_eq] at hp
      exact .finish w row r status reason _ hw hr hp.1 hp.2
  | deferring row due reason =>
    dsimp only
    rcases h : s.db.deferEmailDelivery row due reason with _ | db
    · exact .of_move .stop
    obtain ⟨db₁, hupdate, rfl⟩ := map_eq_ok.1 h
    obtain ⟨r, hr, hp, rfl⟩ := updateDelivery_ok.1 hupdate
    simp only [and_eq_true, decide_eq_true_eq] at hp
    exact .defer w row r due reason hw hr hp.2 hp.1

/-- Every step has one of the effects. -/
theorem step_effect (htokened : s.Tokened) (e : Event) : Effect s e (s.step e) := by
  rw [System.step]
  cases ha : e.action with
  | advance => exact effect_advance htokened ha
  | crash => exact .of_move .stop
  | accept token =>
    rw [System.act, System.accept]
    rcases hattempt : s.attempts[token]? with _ | a
    · exact .rest
    dsimp only
    split_ifs with hsubmitted
    · exact .accept token a hattempt hsubmitted
    · exact .rest
  | checkRetry o id =>
    rw [System.act, System.checkRetry]
    cases s.db.checkRetry id with
    | error => exact .rest
    | ok _ => exact .outside s.db _ (fun _ => .same _) rfl (.of_eq rfl rfl rfl)
  | retry o => exact effect_retry o
  | confirm id =>
    refine effect_write fun db h => ?_
    obtain ⟨r, hr, hp, rfl⟩ := updateDelivery_ok.1 h
    exact .confirm id r ha hr (of_decide_eq_true hp)
  | createCampaign id mode => exact effect_createCampaign id mode
  | saveCampaign id version mode => exact effect_saveCampaign id version mode
  | launch id version recipients => exact effect_launch id version recipients
  | cancel id =>
    refine effect_write fun db h => ?_
    rw [cancelEmailCampaign] at h
    split at h
    swap
    · cases h
    next c hc =>
    split_ifs at h with hopen
    cases h
    refine .cancel id c hc ?_
    rcases hopen with hs | hs <;> rw [hs] <;> decide
  | listSteps =>
    obtain ⟨steps, hsteps⟩ := listOnboardingSteps_eq s.db e.now
    rw [System.act, hsteps]
    exact .outside _ s.operators (fun _ => .same _) rfl (.of_eq rfl rfl rfl)
  | saveStep =>
    refine effect_write fun db h => ?_
    obtain ⟨steps, rfl⟩ := saveOnboardingStep_ok h
    exact .outside _ s.operators (fun _ => .same _) rfl (.of_eq rfl rfl rfl)
  | enroll user createdAt steps => exact effect_enroll user createdAt steps
  | save _ p =>
    refine effect_write fun db h => ?_
    have hsaved := h
    rw [saveEmailPreferences] at h
    -- A save needs the version of the preferences that are there.
    split at h
    · next hnone =>
      split_ifs at h with hzero
      cases h
      refine .outside _ s.operators (fun _ => .same _) rfl (.of_preferences (fun q hq => ?_) ?_)
      · cases hnone.symm.trans hq
      · exact fun category hallowed => ⟨p, ha, hallowed, hsaved⟩
    · next q hold =>
      split_ifs at h with hversion
      cases h
      refine .outside _ s.operators (fun _ => .same _) rfl (.of_preferences (fun q' hq => ?_) ?_)
      · cases hold.symm.trans hq
        exact hversion.2.le.trans (Nat.le_succ _)
      · exact fun category hallowed => ⟨p, ha, hallowed, hsaved⟩
  | unsubscribe userID =>
    refine .outside _ s.operators (fun _ => .same _) rfl (.of_preferences (fun q hq => ?_) ?_)
    · rw [hq]
      exact Nat.le_succ _
    intro category hallowed
    cases hq : s.db.preferences.lookup userID with
    | none | some =>
      rw [hq] at hallowed
      cases category <;> cases hallowed
  | suppress =>
    refine .outside _ s.operators (fun _ => .same _) rfl ⟨fun _ c hc => ⟨c, hc, Iff.rfl⟩,
      fun x hx => List.mem_insert_of_mem hx, fun _ p hp => ⟨p, hp, le_rfl⟩, fun _ _ h => .inl h⟩

end

end

end Accounts.Email

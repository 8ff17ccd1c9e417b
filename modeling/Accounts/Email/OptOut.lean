import Accounts.Email.Frequency

/-!
# Nobody is written to who has opted out

A worker looks at the campaign, the suppressions and the preferences many steps before it
sends, and rows come back to the queue. What counts is the last write before the send,
which is conditional.

* `Effect.origin` says where a row comes from; only the last write makes it `sending`,
  and it sees the suppressions and the preferences as they are (`Origin.marked`);
* it does not see the campaign. But a worker that has passed the check of the campaign
  finds the row cancelled if the campaign was cancelled since, or claimed again by
  another worker: `System.Vetted`, an invariant of every step;
* what is cancelled or suppressed stays so, and the versions of preferences only grow
  (`Later`), so that `optOut_respected` speaks of all later steps.
-/

namespace Accounts.Email

open Database AList Table Option Run Database

/-! ## Where a row comes from -/

/-- A row after a step, and the row before it: the same, a new one, one that is claimed,
    one that is marked as sending, or one that is left in another state. -/
inductive Origin (s : System) (id : String) (r' : Delivery) : Prop
  | same (hr : s.db.deliveries.lookup id = some r')
  | new (hstatus : r'.status = .queued) (hsource : r'.campaignID ≠ none → r'.stepID = none)
  | claimed (r : Delivery) (hr : s.db.deliveries.lookup id = some r)
    (hmessage : r'.toMessage = r.toMessage) (hstatus : r'.status = .processing)
    (htoken : r'.leaseToken = some s.attempts.length)
  | marked (w : Nat) (job : Job) (r : Delivery) (hw : s.workers w = .marking job)
    (hid : job.row.id = id) (hr : s.db.deliveries.lookup id = some r)
    (hprocessing : r.status = .processing) (htoken : r.leaseToken = job.row.leaseToken)
    (hmessage : r'.toMessage = r.toMessage) (hstatus : r'.status = .sending)
    (hsuppressed : job.row.email ∉ s.db.suppressions)
    (hconsents : s.db.consents job.row.toMessage job.consentVersion = true)
  | left (r : Delivery) (hr : s.db.deliveries.lookup id = some r)
    (hmessage : r'.toMessage = r.toMessage) (hprocessing : r'.status ≠ .processing)
    (hsending : r'.status ≠ .sending)

section

variable {s s' : System} {e : Event} {w : Nat} {id : String} {r r' row : Delivery}

/-- A row is written, and the others stay. -/
theorem Origin.of_insert {k : String} {x : Delivery}
    (h : (s.db.deliveries.insert k x).lookup id = some r') (hk : Origin s k x) :
    Origin s id r' := by
  rcases lookup_insert_iff.1 h with ⟨rfl, rfl⟩ | ⟨-, h⟩
  · exact hk
  · exact .same h

theorem Effect.origin (h : s.Sound) (he : Effect s e s')
    (hr' : s'.db.deliveries.lookup id = some r') : Origin s id r' := by
  cases he with
  | outside db _ hrows =>
    have hgrown := hrows id
    rw [hr'] at hgrown
    generalize hx : s.db.deliveries.lookup id = x at hgrown
    cases hgrown with
    | same => exact .same hx
    | new _ _ hstatus hsource => exact .new hstatus hsource
  | move | submit | accept | refuse => exact .same hr'
  | sweepSending | sweepProcessing | cancel =>
    obtain ⟨r, hr, rfl⟩ := map_eq_some_iff.1 (lookup_mapRows.symm.trans hr')
    split_ifs
    · exact .left r hr rfl nofun nofun
    · exact .same hr
  | claim w t c r _ _ hr => exact .of_insert hr' (.claimed r hr rfl rfl rfl)
  | mark w job r n t hw hn hr hstatus htoken _ _ hsuppressed hconsents =>
    exact .of_insert hr' (.marked w job r hw rfl hr hstatus (htoken.trans hn.symm) rfl rfl
      hsuppressed hconsents)
  | finish w row r status _ _ hw hr =>
    -- The outcome that a worker writes is none of a row that is processed or sent.
    have hidle : status ≠ .processing ∧ status ≠ .sending := by
      obtain ⟨-, a, -, -, -, -, -, hp, -⟩ := h.holds hw rfl
      rcases hp with ⟨-, hunsent⟩ | hverdict
      · constructor <;> rintro rfl <;> cases hunsent
      · constructor <;> rintro rfl <;> exact hverdict
    exact .of_insert hr' (.left r hr rfl hidle.1 hidle.2)
  | defer _ _ r _ _ _ hr | reopen _ r _ hr | acknowledge _ r _ hr | confirm _ r _ hr =>
    exact .of_insert hr' (.left r hr rfl nofun nofun)

/-! ## What a worker has checked -/

/-- A worker that has passed the check of the campaign has it from before the step, or the
    campaign is open. -/
theorem Effect.eligible (he : Effect s e s') (hrow : (s'.workers w).row = some row)
    (heligible : (s'.workers w).eligible = true) (hstep : row.stepID = none) :
    ((s.workers w).row = some row ∧ (s.workers w).eligible = true) ∨ s'.db.open row.toMessage := by
  -- A worker that is not the one of the step stays where it is.
  have hupdate {v : Nat} {x : Worker} (hworkers : s'.workers = Function.update s.workers v x)
      (hx : w = v → x.row = some row → x.eligible = true →
        ((s.workers w).row = some row ∧ (s.workers w).eligible = true) ∨ s'.db.open row.toMessage) :
      ((s.workers w).row = some row ∧ (s.workers w).eligible = true) ∨
        s'.db.open row.toMessage := by
    rw [hworkers] at hrow heligible
    by_cases hv : w = v
    · subst hv
      rw [Function.update_self] at hrow heligible
      exact hx rfl hrow heligible
    · rw [Function.update_of_ne hv] at hrow heligible
      exact .inl ⟨hrow, heligible⟩
  cases he with
  | outside | accept | reopen | acknowledge | confirm | cancel => exact .inl ⟨hrow, heligible⟩
  | move v _ x hx =>
    refine hupdate rfl fun hv hxrow hxeligible => ?_
    subst hv
    cases hx with
    | check row' _ hworking hpasses =>
      have hsame : x.row = some row' := by
        rcases hpasses.holds with hworking' | hleaving
        · exact hworking'.row_eq.1
        · cases hleaving <;> rfl
      cases hsame.symm.trans hxrow
      rcases hpasses.eligible hxeligible hstep with hold | hopen
      · exact .inl ⟨hworking.row_eq.1, hold⟩
      · exact .inr hopen
    | _ => cases hxeligible
  | _ => exact hupdate rfl fun _ _ hx => by cases hx

/-- A campaign stays open, or it is cancelled together with its rows. -/
theorem Effect.open (he : Effect s e s') {m : Message} (hm : s.db.open m) :
    s'.db.open m ∨ ∀ id r', s'.db.deliveries.lookup id = some r' → r'.toMessage = m →
      r'.status ≠ .processing := by
  cases he with
  | outside _ _ _ _ helsewhere => exact .inl (helsewhere.open hm)
  | cancel k =>
    obtain ⟨k', c', hk', hc', hopen⟩ := hm
    by_cases hk : k' = k
    · subst hk
      refine .inr fun id r' hr' hmessage hstatus => ?_
      obtain ⟨r, -, rfl⟩ := map_eq_some_iff.1 (lookup_mapRows.symm.trans hr')
      have hcampaign : r.campaignID = some k' := by
        rw [← hk', ← hmessage]
        split_ifs <;> rfl
      split_ifs at hstatus with hcond
      exact hcond ⟨hcampaign, .inr (.inr hstatus)⟩
    · exact .inl ⟨k', c', hk', (lookup_insert_ne hk).trans hc', hopen⟩
  | _ => exact .inl hm

/-- Onboarding has no campaign; and if a worker has passed the check of the campaign and
    its claim still holds, the campaign is open. -/
structure System.Vetted (s : System) : Prop where
  sourced : ∀ ⦃id : String⦄ ⦃r : Delivery⦄, s.db.deliveries.lookup id = some r →
    r.campaignID ≠ none → r.stepID = none
  checked : ∀ ⦃w : Nat⦄ ⦃row r : Delivery⦄, (s.workers w).row = some row →
    (s.workers w).eligible = true → s.db.deliveries.lookup row.id = some r →
    r.status = .processing → r.leaseToken = row.leaseToken → row.stepID = none →
    s.db.open r.toMessage

/-- The copy that a worker has of a row is that of the message. -/
theorem System.Sound.message_eq (h : s.Sound) (hrow : (s.workers w).row = some row)
    (hr : s.db.deliveries.lookup row.id = some r) : r.toMessage = row.toMessage := by
  obtain ⟨-, -, _, -, -, -, -, -, hr₀, hmessage⟩ := (h.crew w).holds row hrow
  rw [← hmessage, some.inj (hr.symm.trans hr₀)]

theorem System.Vetted.effect (hvetted : s.Vetted) (h : s.Sound) (he : Effect s e s') :
    s'.Vetted where
  sourced id r' hr' hcampaign := by
    have hof {r : Delivery} (hr : s.db.deliveries.lookup id = some r)
        (hmessage : r'.toMessage = r.toMessage) : r'.stepID = none := by
      rw [hmessage] at hcampaign ⊢
      exact hvetted.sourced hr hcampaign
    cases he.origin h hr' with
    | same hr => exact hof hr rfl
    | new _ hsource => exact hsource hcampaign
    | claimed _ hr hmessage | marked _ _ _ _ _ hr _ _ hmessage | left _ hr hmessage =>
      exact hof hr hmessage
  checked w row r' hrow heligible hr' hstatus htoken hstep := by
    have hmessage := (h.effect he).message_eq hrow hr'
    rcases he.eligible hrow heligible hstep with ⟨hrow, heligible⟩ | hopen
    · -- The worker has passed the check before, so its row is the one that it was.
      have hr : s.db.deliveries.lookup row.id = some r' := by
        cases he.origin h hr' with
        | same hr => exact hr
        | new hother | marked _ _ _ _ _ _ _ _ _ hother => cases hother.symm.trans hstatus
        | claimed _ _ _ _ hfresh =>
          -- The token of a worker is not a new one.
          obtain ⟨n, a, -, hn, ha, -⟩ := (h.crew w).holds row hrow
          cases hn.symm.trans (htoken.symm.trans hfresh)
          simp at ha
        | left _ _ _ hprocessing => exact absurd hstatus hprocessing
      have hbefore := hvetted.checked hrow heligible hr hstatus htoken hstep
      rcases he.open hbefore with hopen | hcancelled
      · exact hopen
      · exact absurd hstatus (hcancelled _ _ hr' rfl)
    · rwa [hmessage]

theorem vetted_exec [Unicode] (t : Time) (es : List Event) :
    (exec System.step (.start t) es).Vetted := by
  refine (exec_induction (P := fun s : System => s.Sound ∧ s.Vetted) ?_ ?_ es).2
  · rintro s e ⟨hsound, hvetted⟩
    exact ⟨hsound.step e, hvetted.effect hsound (step_effect hsound.tokened e)⟩
  · refine ⟨.start t, fun _ _ hr => ?_, fun _ _ _ hrow => ?_⟩
    · simp [System.start] at hr
    · simp [System.start, Worker.row] at hrow

/-! ## What stays -/

/-- The campaign was cancelled. -/
def Database.cancelled (db : Database) (id : String) : Bool :=
  (db.campaigns.lookup id).any (·.status = .cancelled)

/-- The tables some time later. -/
structure Later (db db' : Database) : Prop where
  cancelled : ∀ id, db.cancelled id = true → db'.cancelled id = true
  suppressions : db.suppressions ⊆ db'.suppressions
  versions : ∀ ⦃userID : String⦄ ⦃p : Preferences⦄, db.preferences.lookup userID = some p →
    ∃ p', db'.preferences.lookup userID = some p' ∧ p.version ≤ p'.version

theorem Later.refl (db : Database) : Later db db :=
  ⟨fun _ h => h, fun _ h => h, fun _ p hp => ⟨p, hp, le_rfl⟩⟩

theorem Later.trans {db db' db'' : Database} (h : Later db db') (h' : Later db' db'') :
    Later db db'' where
  cancelled id hid := h'.cancelled id (h.cancelled id hid)
  suppressions _ hx := h'.suppressions (h.suppressions hx)
  versions _ p hp := by
    obtain ⟨_, hp', hle⟩ := h.versions hp
    obtain ⟨p'', hp'', hle'⟩ := h'.versions hp'
    exact ⟨p'', hp'', hle.trans hle'⟩

theorem Elsewhere.later {db db' : Database} (h : Elsewhere db e db') : Later db db' where
  cancelled id hid := by
    obtain ⟨c, hc, hcancelled⟩ := any_eq_true _ _ |>.1 hid
    obtain ⟨_, hc', hiff⟩ := h.campaigns hc
    rw [cancelled, hc']
    simpa [hiff] using hcancelled
  suppressions := h.suppressions
  versions := h.versions

theorem Effect.later (he : Effect s e s') : Later s.db s'.db := by
  cases he with
  | outside _ _ _ _ helsewhere => exact helsewhere.later
  | cancel k =>
    refine ⟨fun id hid => ?_, fun _ h => h, fun _ p hp => ⟨p, hp, le_rfl⟩⟩
    by_cases hk : id = k
    · subst hk
      rw [cancelled, lookup_insert]
      rfl
    · rw [cancelled, lookup_insert_ne hk]
      exact hid
  | _ => exact ⟨fun _ h => h, fun _ h => h, fun _ p hp => ⟨p, hp, le_rfl⟩⟩

/-- Consent is given by those who save it. -/
theorem Effect.consent (he : Effect s e s') {userID : String} {category : Category}
    (h : s'.db.allows userID category = true) :
    s.db.allows userID category = true ∨ ∃ p, e.action = .save userID p ∧
      emailCategoryAllowed p category = true ∧ s.db.saveEmailPreferences userID p = .ok s'.db := by
  cases he with
  | outside _ _ _ _ helsewhere => exact helsewhere.consent h
  | _ => exact .inl h

variable [Unicode]

/-- The tables only get later. -/
theorem later_exec (h : s.Sound) (es : List Event) : Later s.db (exec System.step s es).db := by
  refine (exec_induction (P := fun s' : System => s'.Sound ∧ Later s.db s'.db) ?_ ?_ es).2
  · rintro s' e ⟨hsound, hlater⟩
    exact ⟨hsound.step e, hlater.trans (step_effect hsound.tokened e).later⟩
  · exact ⟨h, .refl _⟩

/-- Somewhere in a run, the user saves preferences that welcome the category. -/
def Grants (s : System) (es : List Event) (userID : String) (category : Category) : Prop :=
  ∃ before e after p db', es = before ++ e :: after ∧ e.action = .save userID p ∧
    emailCategoryAllowed p category = true ∧
    (exec System.step s before).db.saveEmailPreferences userID p = .ok db'

/-- Who consents has done so before, or has saved it since. -/
theorem consent_exec (h : s.Sound) (es : List Event) {userID : String} {category : Category}
    (hallows : (exec System.step s es).db.allows userID category = true) :
    s.db.allows userID category = true ∨ Grants s es userID category := by
  induction es generalizing s with
  | nil => exact .inl hallows
  | cons e es ih =>
    rcases ih (h.step e) hallows with hnow | ⟨before, e', after, p, db', rfl, hgrant⟩
    · rcases (step_effect h.tokened e).consent hnow with hbefore | ⟨p, haction, hallowed, hsaved⟩
      · exact .inl hbefore
      · exact .inr ⟨[], e, es, p, _, rfl, haction, hallowed, hsaved⟩
    · exact .inr ⟨e :: before, e', after, p, db', rfl, hgrant⟩

/-! ## The last write before a send -/

/-- With an event, a delivery enters the sending state. -/
structure System.Enters (s : System) (e : Event) (id : String) (r : Delivery) : Prop where
  row : (s.step e).db.deliveries.lookup id = some r
  sending : r.status = .sending
  before : ∀ ⦃r₀ : Delivery⦄, s.db.deliveries.lookup id = some r₀ → r₀.status ≠ .sending

/-- When a delivery enters the sending state its campaign is not cancelled, its address is
    not suppressed, and the user consents to its category. -/
theorem System.Enters.welcome (hsound : s.Sound) (hvetted : s.Vetted) (h : s.Enters e id r) :
    (∀ campaignID, r.campaignID = some campaignID → s.db.cancelled campaignID = false) ∧
      r.email ∉ s.db.suppressions ∧
      ∀ category, r.category = some category → s.db.allows r.userID category = true := by
  cases (step_effect hsound.tokened e).origin hsound h.row with
  | same hr => exact absurd h.sending (h.before hr)
  | new hstatus | claimed _ _ _ hstatus => cases hstatus.symm.trans h.sending
  | left _ _ _ _ hsending => exact absurd h.sending hsending
  | marked w job _ hw hid hr hprocessing htoken hmessage _ hsuppressed hconsents =>
    subst hid
    have hrow : (s.workers w).row = some job.row := by rw [hw]; rfl
    have hcopy : r.toMessage = job.row.toMessage := hmessage.trans (hsound.message_eq hrow hr)
    refine ⟨fun campaignID hcampaign => ?_, ?_, fun category hcategory => ?_⟩
    · have hstep : job.row.stepID = none := by
        rw [← hcopy, hmessage]
        refine hvetted.sourced hr ?_
        rw [← hmessage, hcampaign]
        nofun
      obtain ⟨k, c, hk, hc, hopen⟩ :=
        hvetted.checked hrow (by rw [hw]; rfl) hr hprocessing htoken hstep
      rw [← hmessage, hcampaign] at hk
      cases hk
      simp [cancelled, hc, hopen]
    · rw [hcopy]
      exact hsuppressed
    · rw [hcopy] at hcategory ⊢
      rw [consents, hcategory] at hconsents
      obtain ⟨p, hp, hallowed⟩ := any_eq_true _ _ |>.1 hconsents
      rw [Bool.and_eq_true] at hallowed
      rw [allows, hp]
      exact hallowed.2

/-- However the workers, operators and users interleave, and however long ago it was: no delivery
    enters the sending state after its campaign was cancelled, after its address was suppressed, or
    when the user did not consent to its category and has not saved that since. After an unsubscribe
    the user consents to nothing, and a save that is based on an earlier version is refused. -/
theorem optOut_respected (t : Time) (es fs : List Event) :
    (∀ e id r, (exec System.step (.start t) (es ++ fs)).Enters e id r →
      (∀ campaignID, r.campaignID = some campaignID →
        (exec System.step (.start t) es).db.cancelled campaignID = false) ∧
      (∀ email, normalizeEmail email = r.email →
        (exec System.step (.start t) es).db.emailSuppressed email = false) ∧
      ∀ category, r.category = some category →
        (exec System.step (.start t) es).db.allows r.userID category = true ∨
          Grants (exec System.step (.start t) es) fs r.userID category) ∧
    ∀ now userID,
      (∀ category, (exec System.step (.start t) (es ++ [⟨now, .unsubscribe userID⟩])).db.allows
        userID category = false) ∧
      ∀ p : Preferences,
        p.version ≤ ((exec System.step (.start t) es).db.getEmailPreferences userID).version →
        (exec System.step (.start t)
            (es ++ ⟨now, .unsubscribe userID⟩ :: fs)).db.saveEmailPreferences userID p =
          .error .preferenceConflict := by
  have hsound := System.Sound.exec t es
  refine ⟨fun e id r hr => ?_, fun now userID => ?_⟩
  · obtain ⟨hcampaign, hsuppressed, hconsent⟩ := hr.welcome (.exec t _) (vetted_exec t _)
    rw [exec_append] at hcampaign hsuppressed hconsent
    have hlater := later_exec hsound fs
    refine ⟨fun campaignID hid => ?_, fun email hemail => ?_, fun category hcategory => ?_⟩
    · rw [← Bool.not_eq_true]
      intro hcancelled
      exact absurd (hlater.cancelled _ hcancelled) (by rw [hcampaign _ hid]; nofun)
    · rw [emailSuppressed, hemail, ← Bool.not_eq_true, List.contains_iff_mem]
      exact fun hmem => hsuppressed (hlater.suppressions hmem)
    · exact consent_exec hsound fs (hconsent category hcategory)
  · rw [exec_append, exec_append, exec_cons, exec_cons, exec_nil]
    generalize exec System.step (.start t) es = s at hsound ⊢
    -- After an unsubscribe nothing is welcome, and the version of the preferences is a new one.
    have hq : (s.step ⟨now, .unsubscribe userID⟩).db.preferences.lookup userID = some _ :=
      lookup_insert _
    refine ⟨fun category => ?_, fun p hp => ?_⟩
    · rw [allows, hq]
      cases s.db.preferences.lookup userID with
      | none | some => cases category <;> rfl
    obtain ⟨q', hq', hle⟩ := (later_exec (hsound.step ⟨now, .unsubscribe userID⟩) fs).versions hq
    have hstale : p.version < q'.version := by
      refine hp.trans_lt (lt_of_lt_of_le ?_ hle)
      rw [getEmailPreferences]
      cases s.db.preferences.lookup userID with
      | none => exact Nat.zero_lt_one
      | some => exact Nat.lt_succ_self _
    rw [saveEmailPreferences, hq']
    exact if_neg fun hcond => hstale.ne' hcond.2

end

namespace Sample

local instance : Unicode := Unicode.ascii

/-- The message of the sample run, as it is sent. -/
def sending : Delivery where
  id := "delivery"
  campaignID := some "campaign"
  stepID := none
  userID := "user"
  email := "user@example.com"
  category := some .productUpdates
  deliveryMode := .important
  createdAt := 2 * Time.second
  status := .sending
  attempts := 1
  dueAt := 2 * Time.second
  leaseToken := some 0
  leaseUntil := some (3 * Time.second + leaseTime)
  sentAt := none
  lastError := ""

/-- The message enters the sending state, so that its address was not suppressed when it
    was queued; and had the user unsubscribed then, preferences that were read before
    could not have been saved. -/
theorem optOut_respected_delivered :
    (exec System.step (.start 0) (delivered.take 3 ++ (delivered.drop 3).take 19)).Enters
        ⟨22 * Time.second, .advance 0 {}⟩ "delivery" sending ∧
      (exec System.step (.start 0) (delivered.take 3)).db.emailSuppressed
        "User@example.com" = false ∧
      (exec System.step (.start 0) (delivered.take 3 ++ [⟨3 * Time.second,
          .unsubscribe "user"⟩])).db.saveEmailPreferences "user"
          { version := 1, productUpdates := true } = .error .preferenceConflict := by
  have henters : (exec System.step (.start 0)
      (delivered.take 3 ++ (delivered.drop 3).take 19)).Enters
        ⟨22 * Time.second, .advance 0 {}⟩ "delivery" sending := by
    refine ⟨by decide +kernel, rfl, fun r₀ hr₀ hsending => ?_⟩
    have hprocessing : ((exec System.step (.start 0)
        (delivered.take 3 ++ (delivered.drop 3).take 19)).db.deliveries.lookup
          "delivery").map (·.status) = some .processing := by decide +kernel
    rw [hr₀, map_some, hsending] at hprocessing
    cases hprocessing
  obtain ⟨hsends, -⟩ := optOut_respected 0 (delivered.take 3) ((delivered.drop 3).take 19)
  obtain ⟨-, hunsubscribes⟩ := optOut_respected 0 (delivered.take 3) []
  exact ⟨henters, (hsends _ _ _ henters).2.1 _ (by decide +kernel),
    (hunsubscribes _ "user").2 _ (by decide +kernel)⟩

end Sample

end Accounts.Email

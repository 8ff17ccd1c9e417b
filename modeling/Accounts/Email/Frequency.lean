import Accounts.Email.Once
import Mathlib.Data.Finset.Max

/-!
# How often a user is written to

Any two marketing messages that the mail server accepts for a user are more than seven
days apart, and no thirty days contain more than three of them (`marketing_spaced`),
for all interleavings of the workers, campaigns and onboarding steps. This is as long as
no operator retries a message whose outcome is unknown, confirms one that was not
accepted, the clocks agree, and the mail server does not refuse what it has accepted. If
it does, as in its reply to `QUIT`, the message goes back to the queue and is sent again
(`Sample.denied_message_sent_again`).

The check of the frequency looks at the rows, which record a send when it is over. What
makes it sound is the lease on the recipient.

* A row that is being sent has the lease of its recipient, and so has one that is
  processed, until its time is over (`System.Paced`).
* A worker claims another row for the recipient only when that time is over, and after it
  has swept the rows: a send that was not finished is uncertain by then, and stops every
  further one.
* So while a worker has the lease, nothing is sent to the recipient behind its back, and
  what it has found out about the frequency stays so (`System.Quiet`).
-/

namespace Accounts.Email

open Database AList Table List

/-! ## Quiet recipients -/

/-- The states that count for the frequency, or may come to count. -/
def Status.active : Status → Bool
  | .processing | .sending | .uncertain | .sent => true
  | _ => false

/-- The row is a marketing message to the user that was sent since `t`. -/
def Database.SentSince (db : Database) (userID : String) (t : Time) (id : String) : Prop :=
  ∃ r u, db.deliveries.lookup id = some r ∧ r.userID = userID ∧ r.category ≠ none ∧
    r.status = .sent ∧ r.sentAt = some u ∧ t ≤ u

/-- At the time `c` the user may be sent a marketing message, and none is on its way. -/
structure System.Quiet (s : System) (userID : String) (c : Time) : Prop where
  nothing : ∀ ⦃id : String⦄ ⦃r : Delivery⦄, s.db.deliveries.lookup id = some r →
    r.userID = userID → r.category ≠ none → r.status ≠ .uncertain ∧ r.status ≠ .sending
  week : ∀ id, ¬ s.db.SentSince userID (c - 7 * Time.day) id
  month : ∀ ids : List String, ids.Nodup →
    (∀ id ∈ ids, s.db.SentSince userID (c - 30 * Time.day) id) → ids.length ≤ 2

/-- The worker with the token `n` has the row, and the lease on its recipient. -/
def System.Holding (s : System) (row : Delivery) (n : Nat) : Prop :=
  (∃ r, s.db.deliveries.lookup row.id = some r ∧ r.status = .processing ∧ r.leaseToken = some n) ∧
  ∃ u, s.db.leases.lookup row.userID = some ⟨n, u⟩

/-- What holds of a worker that claims a row, and of one that has checked the frequency. -/
structure System.Ready (s : System) (x : Worker) : Prop where
  claiming : ∀ t stage, x = .claiming t stage → t ≤ s.clock ∧ (stage ≠ .sweepSending →
    ∀ id r u, s.db.deliveries.lookup id = some r → r.status = .sending →
      r.leaseUntil = some u → t ≤ u)
  quiet : ∀ row c n, x.row = some row → x.checked = some c → row.leaseToken = some n →
    c ≤ s.clock ∧ (s.Holding row n → s.Quiet row.userID c)

/-- The message of one claim was accepted more than seven days before another one was
    marked as sending. -/
def Attempt.WeekBefore (a b : Attempt) : Prop :=
  ∃ t, a.progress = .accepted t ∧ t + 7 * Time.day < b.markedAt

/-- It was accepted in the thirty days before. -/
def Attempt.MonthBefore (a b : Attempt) : Prop :=
  ∃ t, a.progress = .accepted t ∧ t + 7 * Time.day < b.markedAt ∧ b.markedAt ≤ t + 30 * Time.day

/-- The claim is one of a marketing message to the user that may have been accepted. -/
structure Attempt.Markets (a : Attempt) (userID : String) : Prop where
  live : a.progress.live = true
  user : a.userID = userID
  category : a.category ≠ none

/-- Rows that are processed or sent have the lease of their recipient, and the workers know what
    they have found out. -/
structure System.Leased (s : System) : Prop where
  sending : ∀ ⦃id : String⦄ ⦃r : Delivery⦄, s.db.deliveries.lookup id = some r →
    r.status = .sending → ∃ n u, r.leaseToken = some n ∧ r.leaseUntil = some u ∧
      s.db.leases.lookup r.userID = some ⟨n, u⟩
  processing : ∀ ⦃id : String⦄ ⦃r : Delivery⦄, s.db.deliveries.lookup id = some r →
    r.status = .processing → ∃ n u, r.leaseToken = some n ∧ r.leaseUntil = some u ∧
      (s.db.leases.lookup r.userID = some ⟨n, u⟩ ∨ u < s.clock)
  ready : ∀ w, s.Ready (s.workers w)

/-- The claims of the delivery that may have been accepted were so before it was sent. -/
def System.Delivered (s : System) (id : String) (sentAt : Option Time) : Prop :=
  ∀ ⦃n : Nat⦄ ⦃a : Attempt⦄, s.attempts[n]? = some a → a.progress.live = true →
    a.deliveryID = id → ∃ t u, a.progress = .accepted t ∧ sentAt = some u ∧ t ≤ u

/-- The messages to a user keep their distance. -/
structure System.Paced (s : System) : Prop extends s.Leased where
  calm : s.acknowledged = []
  times : ∀ ⦃n : Nat⦄ ⦃a : Attempt⦄, s.attempts[n]? = some a → a.progress.live = true →
    a.markedAt ≤ s.clock ∧ ∀ t, a.progress = .accepted t → a.markedAt ≤ t ∧ t ≤ s.clock
  sent : ∀ ⦃id : String⦄ ⦃r : Delivery⦄, s.db.deliveries.lookup id = some r → r.status = .sent →
    s.Delivered id r.sentAt
  apart : ∀ ⦃m n : Nat⦄ ⦃a b : Attempt⦄ ⦃userID : String⦄, s.attempts[m]? = some a →
    s.attempts[n]? = some b → a.Markets userID → b.Markets userID → m ≠ n →
    a.WeekBefore b ∨ b.WeekBefore a
  month : ∀ ⦃n : Nat⦄ ⦃b : Attempt⦄ ⦃userID : String⦄, s.attempts[n]? = some b →
    b.Markets userID → ∀ ms : List Nat, ms.Nodup →
    (∀ m ∈ ms, ∃ a, s.attempts[m]? = some a ∧ a.Markets userID ∧ a.MonthBefore b) → ms.length ≤ 2

/-! ## Writes that start no attempt -/

/-- A row that counts is as before, or its send is over, or its outcome is confirmed. -/
def System.Over (s : System) (id : String) (old : Option Delivery) (r' : Delivery) : Prop :=
  old = some r' ∨ ∃ r, old = some r ∧ r'.toMessage = r.toMessage ∧
    (r.status = .sending ∨ r.status = .uncertain) ∧
    (r'.status = .uncertain ∨ r'.status = .sent ∧ s.Delivered id r'.sentAt)

/-- No send begins, and leases are only given back by those who have them. -/
structure Frame (s s' : System) : Prop where
  clock : s.clock ≤ s'.clock
  rows : ∀ ⦃id : String⦄ ⦃r' : Delivery⦄, s'.db.deliveries.lookup id = some r' →
    r'.status.active = true → s.Over id (s.db.deliveries.lookup id) r'
  keep : ∀ ⦃id : String⦄ ⦃r : Delivery⦄ ⦃n : Nat⦄ ⦃u : Time⦄,
    s'.db.deliveries.lookup id = some r → s.db.deliveries.lookup id = some r →
    r.status = .processing ∨ r.status = .sending → r.leaseToken = some n →
    s.db.leases.lookup r.userID = some ⟨n, u⟩ → s'.db.leases.lookup r.userID = some ⟨n, u⟩
  lease : ∀ ⦃userID : String⦄ ⦃l : Lease⦄, s'.db.leases.lookup userID = some l →
    s.db.leases.lookup userID = some l

variable {x : Worker}

section

variable {s s' : System} {id : String} {r : Delivery}

theorem Frame.of_busy (h : Frame s s') (hr : s'.db.deliveries.lookup id = some r)
    (hstatus : r.status = .processing ∨ r.status = .sending) :
    s.db.deliveries.lookup id = some r := by
  have hactive : r.status.active = true := by rcases hstatus with hs | hs <;> rw [hs] <;> rfl
  rcases h.rows hr hactive with hsame | ⟨_, -, -, -, hover⟩
  · exact hsame
  · rcases hstatus with hs | hs <;> simp [hs] at hover

theorem Frame.holding (h : Frame s s') {row : Delivery} {n : Nat} (hs : s'.Holding row n) :
    s.Holding row n := by
  obtain ⟨⟨r, hr, hstatus, htoken⟩, u, hlease⟩ := hs
  exact ⟨⟨r, h.of_busy hr (.inl hstatus), hstatus, htoken⟩, u, h.lease hlease⟩

/-- A recipient is as quiet as before, if nothing is sent to them. -/
theorem System.Quiet.mono {userID : String} {c : Time} (hs : s.Quiet userID c)
    (h : ∀ ⦃id : String⦄ ⦃r' : Delivery⦄, s'.db.deliveries.lookup id = some r' →
      r'.userID = userID → r'.category ≠ none → r'.status.active = true →
      r'.status ≠ .processing → s.db.deliveries.lookup id = some r') : s'.Quiet userID c := by
  have hsince (t : Time) (id : String) (hsent : s'.db.SentSince userID t id) :
      s.db.SentSince userID t id := by
    obtain ⟨r', u, hr', huser, hcategory, hstatus, hu, ht⟩ := hsent
    have hr := h hr' huser hcategory (by rw [hstatus]; rfl) (by rw [hstatus]; decide)
    exact ⟨r', u, hr, huser, hcategory, hstatus, hu, ht⟩
  refine ⟨fun id r' hr' huser hcategory => ?_, fun id hsent => hs.week id (hsince _ id hsent),
    fun ids hnodup hall => hs.month ids hnodup fun id hid => hsince _ id (hall id hid)⟩
  constructor
  · intro hstatus
    have hr := h hr' huser hcategory (by rw [hstatus]; rfl) (by rw [hstatus]; decide)
    exact (hs.nothing hr huser hcategory).1 hstatus
  · intro hstatus
    have hr := h hr' huser hcategory (by rw [hstatus]; rfl) (by rw [hstatus]; decide)
    exact (hs.nothing hr huser hcategory).2 hstatus

theorem Frame.quiet (h : Frame s s') {userID : String} {c : Time} (hs : s.Quiet userID c) :
    s'.Quiet userID c := by
  refine hs.mono fun id r' hr' huser hcategory hactive _ => ?_
  rcases h.rows hr' hactive with hr | ⟨r, hr, hmessage, hstatus, -⟩
  · exact hr
  have huser' : r.userID = userID := (congrArg Message.userID hmessage).symm.trans huser
  have hcategory' : r.category ≠ none := by
    rwa [← congrArg Message.category hmessage]
  have hquiet := hs.nothing hr huser' hcategory'
  exact absurd hstatus (not_or.2 ⟨hquiet.2, hquiet.1⟩)

theorem Frame.ready (h : Frame s s') (hx : s.Ready x) : s'.Ready x where
  claiming t stage hstage := by
    obtain ⟨hclock, hswept⟩ := hx.claiming t stage hstage
    exact ⟨hclock.trans h.clock, fun hne id r u hr hstatus hu =>
      hswept hne id r u (h.of_busy hr (.inr hstatus)) hstatus hu⟩
  quiet row c n hrow hchecked hn := by
    obtain ⟨hclock, hquiet⟩ := hx.quiet row c n hrow hchecked hn
    exact ⟨hclock.trans h.clock, fun hholding => h.quiet (hquiet (h.holding hholding))⟩

/-- Writes that start no attempt keep the leases. -/
theorem Frame.leased (hframe : Frame s s') (h : s.Leased)
    (hready : ∀ w, s'.workers w = s.workers w ∨ s'.Ready (s'.workers w)) : s'.Leased where
  sending id r hr hstatus := by
    have hold := hframe.of_busy hr (.inr hstatus)
    obtain ⟨n, u, hn, hu, hlease⟩ := h.sending hold hstatus
    exact ⟨n, u, hn, hu, hframe.keep hr hold (.inr hstatus) hn hlease⟩
  processing id r hr hstatus := by
    have hold := hframe.of_busy hr (.inl hstatus)
    obtain ⟨n, u, hn, hu, hlease | hover⟩ := h.processing hold hstatus
    · exact ⟨n, u, hn, hu, .inl (hframe.keep hr hold (.inl hstatus) hn hlease)⟩
    · exact ⟨n, u, hn, hu, .inr (hover.trans_le hframe.clock)⟩
  ready w := by
    rcases hready w with hw | hw
    · rw [hw]
      exact hframe.ready (h.ready w)
    · exact hw

theorem Frame.sent (h : Frame s s') (hr : s'.db.deliveries.lookup id = some r)
    (hstatus : r.status = .sent) :
    s.db.deliveries.lookup id = some r ∨ s.Delivered id r.sentAt := by
  rcases h.rows hr (by rw [hstatus]; rfl) with hold | ⟨_, -, -, -, huncertain | ⟨-, hsent⟩⟩
  · exact .inl hold
  · cases huncertain.symm.trans hstatus
  · exact .inr hsent

end

/-! ## Claims and their progress -/

variable {t : Time}

section

variable {p q : Progress} {now : Time} (h : p = q ∨ q.Next now p)
include h

/-- What is accepted after a step was so before, or is accepted in it. -/
theorem accepted_of_next (hp : p = .accepted t) : q = .accepted t ∨ t = now := by
  subst hp
  rcases h with heq | hnext
  · exact .inl heq.symm
  · cases hnext
    exact .inr rfl

/-- What is accepted stays so, unless it is denied. -/
theorem accepted_next (hlive : p.live = true) (hq : q = .accepted t) : p = .accepted t := by
  subst hq
  rcases h with heq | hnext
  · exact heq
  · cases hnext
    cases hlive

end

/-- Claims that get on keep their distance. -/
theorem Attempt.WeekBefore.on {a b : Attempt} {p q : Progress} {now : Time} (h : a.WeekBefore b)
    (hp : p = a.progress ∨ a.progress.Next now p) (hlive : p.live = true) :
    Attempt.WeekBefore { a with progress := p } { b with progress := q } := by
  obtain ⟨t, ht, hlt⟩ := h
  exact ⟨t, accepted_next hp hlive ht, hlt⟩

namespace System.Paced

variable {s s' : System} {w k n : Nat} {row r : Delivery} {now c : Time} {userID : String}
  {a : Attempt}

/-- There is one claim of a delivery that may have been accepted. -/
theorem once (h : s.Paced) (hsound : s.Sound) {m : Nat} {b : Attempt}
    (ha : s.attempts[m]? = some a) (hb : s.attempts[n]? = some b) (hlive : a.progress.live = true)
    (hlive' : b.progress.live = true) (hid : a.deliveryID = b.deliveryID) : m = n := by
  have hepoch {k : Nat} {c : Attempt} (hc : s.attempts[k]? = some c) : c.epoch = 0 := by
    have hle := hsound.ledger.epoch_le hc
    rwa [h.calm, count_nil, Nat.le_zero] at hle
  exact hsound.ledger.once ha hb hlive hlive' hid ((hepoch ha).trans (hepoch hb).symm)

/-- The row of such a claim is closed. -/
theorem closed (h : s.Paced) (hsound : s.Sound) (ha : s.attempts[n]? = some a)
    (hlive : a.progress.live = true) :
    ∃ r, s.db.deliveries.lookup a.deliveryID = some r ∧ r.ClosedFor n := by
  refine hsound.ledger.closed ha hlive ?_
  have hle := hsound.ledger.epoch_le ha
  rw [h.calm, count_nil] at hle ⊢
  omega

/-- A worker that neither claims nor has checked the frequency is ready. -/
theorem ready_of_busy (hrow : x.row ≠ none) (hchecked : x.checked = none) : s.Ready x where
  claiming t stage hx := by
    subst hx
    exact absurd rfl hrow
  quiet row c n _ hc := by
    rw [hchecked] at hc
    cases hc

/-- The row of a worker has a token that was drawn. -/
theorem token_lt (hsound : s.Sound) (hw : s.workers w = x) (hrow : x.row = some row)
    (hn : row.leaseToken = some n) : ∃ a, s.attempts[n]? = some a ∧ a.worker = w := by
  obtain ⟨m, a, -, hm, ha, -, hworker, -⟩ := hsound.holds hw hrow
  cases hn.symm.trans hm
  exact ⟨a, ha, hworker⟩

/-- A new claim. The lease on the recipient has run out, and since the sweep no message to
    them is being sent. -/
theorem leased_claim (h : s.Leased) (hsound : s.Sound) {c : Delivery} {cs : List Delivery}
    (hw : s.workers w = .claiming t (.trying (c :: cs)))
    (hr : s.db.deliveries.lookup c.id = some r)
    (hlease : ∀ l, s.db.leases.lookup c.userID = some l → l.expiresAt < t)
    (hclock : s.clock ≤ s'.clock) (hdeliveries : s'.db.deliveries =
      s.db.deliveries.insert c.id (claimedRow r s.attempts.length t))
    (hleases : s'.db.leases = s.db.leases.insert c.userID ⟨s.attempts.length, t + leaseTime⟩)
    (hworkers : s'.workers =
      Function.update s.workers w (.fetching (claimedRow c s.attempts.length t))) : s'.Leased := by
  obtain ⟨htime, hswept⟩ := (h.ready w).claiming t _ hw
  have huser : r.userID = c.userID := congrArg Message.userID (hsound.copy hw hr)
  -- A row is the claimed one, which is processed, or one of before.
  have hrows {id : String} {r' : Delivery} (hr' : s'.db.deliveries.lookup id = some r') :
      (id = c.id ∧ r' = claimedRow r s.attempts.length t) ∨
        (id ≠ c.id ∧ s.db.deliveries.lookup id = some r') := by
    rwa [hdeliveries, lookup_insert_iff] at hr'
  have hrows' {id : String} {r' : Delivery} (hr' : s'.db.deliveries.lookup id = some r')
      (hstatus : r'.status ≠ .processing) : s.db.deliveries.lookup id = some r' := by
    rcases hrows hr' with ⟨-, rfl⟩ | ⟨-, hold⟩
    · exact absurd rfl hstatus
    · exact hold
  refine ⟨?_, ?_, ?_⟩
  · intro id r' hr' hstatus
    have hold := hrows' hr' (by rw [hstatus]; decide)
    obtain ⟨m, u, hm, hu, hl⟩ := h.sending hold hstatus
    refine ⟨m, u, hm, hu, ?_⟩
    have hne : r'.userID ≠ c.userID := by
      intro hsame
      have hover : u < t := hlease _ (hsame ▸ hl)
      have hrunning : t ≤ u := hswept (by rintro ⟨⟩) id r' u hold hstatus hu
      exact absurd hover (not_lt.2 hrunning)
    rw [hleases, lookup_insert_ne hne, hl]
  · intro _ r' hr' hstatus
    rcases hrows hr' with ⟨rfl, rfl⟩ | ⟨-, hold⟩
    · refine ⟨_, _, rfl, rfl, .inl ?_⟩
      rw [hleases]
      exact huser ▸ lookup_insert _
    obtain ⟨m, u, hm, hu, hl | hover⟩ := h.processing hold hstatus
    · refine ⟨m, u, hm, hu, ?_⟩
      by_cases hsame : r'.userID = c.userID
      · have hover : u < t := hlease _ (hsame ▸ hl)
        exact .inr (hover.trans_le (htime.trans hclock))
      · exact .inl (by rw [hleases, lookup_insert_ne hsame, hl])
    · exact ⟨m, u, hm, hu, .inr (hover.trans_le hclock)⟩
  · intro v
    rw [hworkers]
    by_cases hv : v = w
    · subst hv
      rw [Function.update_self]
      exact ready_of_busy (Option.some_ne_none _) rfl
    rw [Function.update_of_ne hv]
    refine ⟨fun t' stage hstage => ?_, fun row c' n hrow hchecked hn => ?_⟩
    · obtain ⟨htime', hswept'⟩ := (h.ready v).claiming t' stage hstage
      exact ⟨htime'.trans hclock, fun hne id r' u hr' hstatus hu =>
        hswept' hne id r' u (hrows' hr' (by rw [hstatus]; decide)) hstatus hu⟩
    obtain ⟨hle, hquiet⟩ := (h.ready v).quiet row c' n hrow hchecked hn
    refine ⟨hle.trans hclock, fun hholding => ?_⟩
    -- The token of `v` is older than the new one.
    obtain ⟨a, ha, -⟩ := token_lt hsound rfl hrow hn
    have hnew : n ≠ s.attempts.length := (List.getElem?_eq_some_iff.1 ha).1.ne
    obtain ⟨⟨r', hr', hstatus, htoken⟩, u, hl⟩ := hholding
    have hne : row.userID ≠ c.userID := by
      intro hsame
      rw [hleases, hsame, lookup_insert] at hl
      cases hl
      exact hnew rfl
    rw [hleases, lookup_insert_ne hne] at hl
    rcases hrows hr' with ⟨-, rfl⟩ | ⟨-, hold⟩
    · exact absurd (Option.some.inj htoken).symm hnew
    exact (hquiet ⟨⟨r', hold, hstatus, htoken⟩, u, hl⟩).mono
      fun id r₁ hr₁ _ _ _ hne' => hrows' hr₁ hne'

section

variable (h : s.Paced) (hsound : s.Sound) (hquiet : s.Quiet userID c)
include h hsound hquiet

/-- Where the recipient is quiet, the message of another claim that may have been accepted
    was so, and counts since then. -/
theorem accepted_of_quiet (ha : s.attempts[n]? = some a) (hmarkets : a.Markets userID) :
    ∃ t, a.progress = .accepted t ∧ ∀ u ≤ t, s.db.SentSince userID u a.deliveryID := by
  obtain ⟨r, hr, hclosed⟩ := h.closed hsound ha hmarkets.live
  obtain ⟨_, hr', huser, hcategory⟩ := hsound.ledger.about ha
  cases hr.symm.trans hr'
  have huser' : r.userID = userID := huser.trans hmarkets.user
  have hcategory' : r.category ≠ none := hcategory ▸ hmarkets.category
  obtain ⟨huncertain, hsending⟩ := hquiet.nothing hr huser' hcategory'
  have hstatus : r.status = .sent := by
    rcases hclosed with ⟨hs, -⟩ | hs | hs
    · exact absurd hs hsending
    · exact absurd hs huncertain
    · exact hs
  obtain ⟨t, v, ht, hv, hle⟩ := h.sent hr hstatus ha hmarkets.live rfl
  exact ⟨t, ht, fun u hu => ⟨r, v, hr, huser', hcategory', hstatus, hv, hu.trans hle⟩⟩

/-- It was accepted more than a week before. -/
theorem week_before (hc : c ≤ now) (ha : s.attempts[n]? = some a) (hmarkets : a.Markets userID) :
    ∃ t, a.progress = .accepted t ∧ t + 7 * Time.day < now := by
  obtain ⟨t, ht, hsince⟩ := h.accepted_of_quiet hsound hquiet ha hmarkets
  refine ⟨t, ht, lt_of_not_ge fun hlate => hquiet.week _ (hsince _ ?_)⟩
  linarith

/-- At most two messages were accepted in the month before. -/
theorem two_before (hc : c ≤ now) {ms : List Nat} (hnodup : ms.Nodup)
    (hall : ∀ m ∈ ms, ∃ a t, s.attempts[m]? = some a ∧ a.Markets userID ∧
      a.progress = .accepted t ∧ now ≤ t + 30 * Time.day) : ms.length ≤ 2 := by
  let delivery (k : Nat) : String := (s.attempts[k]?.map (·.deliveryID)).getD ""
  have hdistinct : (ms.map delivery).Nodup := by
    refine hnodup.map_on fun k hk k' hk' heq => ?_
    obtain ⟨x, -, hx, hmx, -⟩ := hall k hk
    obtain ⟨y, -, hy, hmy, -⟩ := hall k' hk'
    simp only [delivery, hx, hy, Option.map_some, Option.getD_some] at heq
    exact h.once hsound hx hy hmx.live hmy.live heq
  have hle := hquiet.month (ms.map delivery) hdistinct fun id hin => ?_
  · rwa [length_map] at hle
  obtain ⟨k, hk, rfl⟩ := mem_map.1 hin
  obtain ⟨x, t, hx, hmx, ht, hmonth⟩ := hall k hk
  obtain ⟨_, ht', hsince⟩ := h.accepted_of_quiet hsound hquiet hx hmx
  cases ht.symm.trans ht'
  simp only [delivery, hx, Option.map_some, Option.getD_some]
  exact hsince _ (by linarith)

end

section

variable {job : Job} (hr : s.db.deliveries.lookup job.row.id = some r)
  (hmessage : r.toMessage = job.row.toMessage) (hstatus : r.status = .processing)
  (htoken : r.leaseToken = some n) (huntil : r.leaseUntil = some t)
include hr hstatus htoken huntil

omit hmessage in
/-- A claim that has not run out has the lease. -/
theorem lease_of_marking (h : s.Leased) (hnow : s.clock < t) :
    s.db.leases.lookup r.userID = some ⟨n, t⟩ := by
  obtain ⟨m, u, hm, hu, hl | hover⟩ := h.processing hr hstatus
  · cases htoken.symm.trans hm
    cases huntil.symm.trans hu
    exact hl
  · cases huntil.symm.trans hu
    exact absurd hover hnow.not_gt

include hmessage

/-- The worker that marks a marketing message has checked the frequency, and has the lease, so
    what it knows of the frequency is still so. -/
theorem quiet_of_marking (h : s.Leased) (hw : s.workers w = .marking job)
    (hn : job.row.leaseToken = some n) (hnow : s.clock < t) (hcategory : r.category ≠ none) :
    ∃ c, c ≤ s.clock ∧ s.Quiet r.userID c := by
  have huser : r.userID = job.row.userID := congrArg Message.userID hmessage
  have hsome : job.row.category.isSome = true := by
    rw [← congrArg Message.category hmessage]
    exact Option.isSome_iff_ne_none.2 hcategory
  have hchecked : (s.workers w).checked = some job.checkedAt := by
    rw [hw, Worker.checked, if_pos hsome]
  obtain ⟨hle, hq⟩ := (h.ready w).quiet job.row job.checkedAt n (by rw [hw]; rfl) hchecked hn
  have hlease := lease_of_marking hr hstatus htoken huntil h hnow
  rw [huser] at hlease ⊢
  exact ⟨job.checkedAt, hle, hq ⟨⟨r, hr, hstatus, htoken⟩, t, hlease⟩⟩

end

/-- A claim is marked as sending. Its worker has the lease. -/
theorem leased_mark (h : s.Leased) (hsound : s.Sound) {job : Job}
    (hw : s.workers w = .marking job) (hn : job.row.leaseToken = some n)
    (hr : s.db.deliveries.lookup job.row.id = some r) (hstatus : r.status = .processing)
    (htoken : r.leaseToken = some n) (huntil : r.leaseUntil = some t) (hclock : s.clock ≤ s'.clock)
    (hnow : s'.clock < t) (hdeliveries : s'.db.deliveries =
      s.db.deliveries.insert job.row.id { r with status := .sending })
    (hleases : s'.db.leases = s.db.leases)
    (hworkers : s'.workers = Function.update s.workers w (.marked job.row)) : s'.Leased := by
  have hlease := lease_of_marking hr hstatus htoken huntil h (hclock.trans_lt hnow)
  have hrows {id : String} {r' : Delivery} (hr' : s'.db.deliveries.lookup id = some r') :
      (id = job.row.id ∧ r' = { r with status := .sending }) ∨
        (id ≠ job.row.id ∧ s.db.deliveries.lookup id = some r') := by
    rwa [hdeliveries, lookup_insert_iff] at hr'
  have hrows' {id : String} {r' : Delivery} (hr' : s'.db.deliveries.lookup id = some r')
      (hs : r'.status = .processing) : s.db.deliveries.lookup id = some r' := by
    rcases hrows hr' with ⟨-, rfl⟩ | ⟨-, hold⟩
    · cases hs
    · exact hold
  refine ⟨?_, ?_, ?_⟩
  · intro _ _ hr' hs
    rw [hleases]
    rcases hrows hr' with ⟨-, rfl⟩ | ⟨-, hold⟩
    · exact ⟨n, t, htoken, huntil, hlease⟩
    · exact h.sending hold hs
  · intro _ _ hr' hs
    rw [hleases]
    obtain ⟨m, u, hm, hu, hl | hover⟩ := h.processing (hrows' hr' hs) hs
    · exact ⟨m, u, hm, hu, .inl hl⟩
    · exact ⟨m, u, hm, hu, .inr (hover.trans_le hclock)⟩
  · intro v
    rw [hworkers]
    by_cases hv : v = w
    · subst hv
      rw [Function.update_self]
      exact ready_of_busy (Option.some_ne_none _) rfl
    rw [Function.update_of_ne hv]
    refine ⟨fun t' stage hstage => ?_, fun row c m hrow hchecked hm => ?_⟩
    · obtain ⟨htime, hswept⟩ := (h.ready v).claiming t' stage hstage
      refine ⟨htime.trans hclock, fun hne id r' u hr' hs hu => ?_⟩
      rcases hrows hr' with ⟨-, rfl⟩ | ⟨-, hold⟩
      · cases huntil.symm.trans hu
        exact (htime.trans hclock).trans hnow.le
      · exact hswept hne id r' u hold hs hu
    · obtain ⟨hle, hq⟩ := (h.ready v).quiet row c m hrow hchecked hm
      refine ⟨hle.trans hclock, fun hholding => ?_⟩
      obtain ⟨⟨r', hr', hs, htoken'⟩, u, hl⟩ := hholding
      rw [hleases] at hl
      refine (hq ⟨⟨r', hrows' hr' hs, hs, htoken'⟩, u, hl⟩).mono fun id r₂ hr₂ huser _ _ _ => ?_
      rcases hrows hr₂ with ⟨-, rfl⟩ | ⟨-, hold⟩
      · -- The recipient is the same, and so is the lease: `v` has the token of `w`.
        have hsame : r.userID = row.userID := huser
        rw [← hsame, hlease] at hl
        cases hl
        obtain ⟨a, ha, hva⟩ := token_lt hsound rfl hrow hm
        obtain ⟨b, hb, hwb⟩ := token_lt hsound hw rfl hn
        cases ha.symm.trans hb
        exact absurd (hva.symm.trans hwb) hv
      · exact hold

/-- A claim of a marketing message that may have been accepted after a step was so before, or it
    is marked, and the recipient is quiet. -/
theorem markets_cases (h : s.Paced) (hsound : s.Sound) (hclock : s.clock ≤ s'.clock)
    (hgoes : Goes s s' k n a) (hmarkets : a.Markets userID) :
    (∃ b p, s.attempts[n]? = some b ∧ b.Markets userID ∧
      (p = b.progress ∨ b.progress.Next s'.clock p) ∧ a = { b with progress := p }) ∨
    (n = k ∧ a.progress = .marked ∧ a.markedAt = s'.clock ∧
      ∃ c, c ≤ s'.clock ∧ s.Quiet userID c) := by
  cases hgoes with
  | new _ hclaimed =>
    have hlive := hmarkets.live
    rw [hclaimed] at hlive
    cases hlive
  | on hb hp =>
    exact .inl ⟨_, _, hb, ⟨live_of_next hp hmarkets.live, hmarkets.user, hmarkets.category⟩, hp, rfl⟩
  | marked hb _ _ hid hw hn hr hmessage hstatus htoken huntil hnow =>
    obtain ⟨_, hr', huser, hcategory⟩ := hsound.ledger.about hb
    rw [hid] at hr'
    cases hr.symm.trans hr'
    obtain ⟨c, hc, hquiet⟩ := quiet_of_marking hr hmessage hstatus htoken huntil h.toLeased hw hn
      (hclock.trans_lt hnow) (hcategory ▸ hmarkets.category)
    rw [huser.trans hmarkets.user] at hquiet
    exact .inr ⟨rfl, rfl, rfl, c, hc.trans hclock, hquiet⟩

/-- Steps keep the distance, if they keep the leases, and what is sent was accepted. -/
theorem next (h : s.Paced) (hsound : s.Sound) (hleased : s'.Leased) (hclock : s.clock ≤ s'.clock)
    (hcalm : s'.acknowledged = []) (hgoes : ∀ n a, s'.attempts[n]? = some a → Goes s s' k n a)
    (hsent : ∀ id r, s'.db.deliveries.lookup id = some r → r.status = .sent →
      s.db.deliveries.lookup id = some r ∨ s.Delivered id r.sentAt) : s'.Paced where
  toLeased := hleased
  calm := hcalm
  times n a ha hlive := by
    cases hgoes n a ha with
    | new _ hclaimed =>
      rw [hclaimed] at hlive
      cases hlive
    | on hb hp =>
      obtain ⟨hmarked, haccepted⟩ := h.times hb (live_of_next hp hlive)
      refine ⟨hmarked.trans hclock, fun t ht => ?_⟩
      rcases accepted_of_next hp ht with hbefore | rfl
      · exact ⟨(haccepted t hbefore).1, (haccepted t hbefore).2.trans hclock⟩
      · exact ⟨hmarked.trans hclock, le_rfl⟩
    | marked => exact ⟨le_rfl, nofun⟩
  sent id r hr hstatus n a ha hlive hid := by
    have hdelivered : s.Delivered id r.sentAt := by
      rcases hsent id r hr hstatus with hold | hnew
      · exact h.sent hold hstatus
      · exact hnew
    cases hgoes n a ha with
    | new _ hclaimed =>
      rw [hclaimed] at hlive
      cases hlive
    | on hb hp =>
      obtain ⟨t, u, ht, hu, hle⟩ := hdelivered hb (live_of_next hp hlive) hid
      exact ⟨t, u, accepted_next hp hlive ht, hu, hle⟩
    | marked _ _ _ hjob _ _ _ _ _ _ _ _ hr' =>
      -- Its row is being sent.
      rw [← hjob, hid, hr] at hr'
      cases hr'
      cases hstatus
  apart m n a b userID ha hb hma hmb hne := by
    rcases h.markets_cases hsound hclock (hgoes m a ha) hma with
      ⟨a₀, p, ha₀, hma₀, hp, rfl⟩ | ⟨rfl, -, hmarked, c, hc, hquiet⟩
    · rcases h.markets_cases hsound hclock (hgoes n b hb) hmb with
        ⟨b₀, q, hb₀, hmb₀, hq, rfl⟩ | ⟨rfl, -, hmarked, c, hc, hquiet⟩
      · rcases h.apart ha₀ hb₀ hma₀ hmb₀ hne with hweek | hweek
        · exact .inl (hweek.on hp hma.live)
        · exact .inr (hweek.on hq hmb.live)
      · obtain ⟨t, ht, hlt⟩ := h.week_before hsound hquiet hc ha₀ hma₀
        exact .inl ⟨t, accepted_next hp hma.live ht, hmarked ▸ hlt⟩
    · rcases h.markets_cases hsound hclock (hgoes n b hb) hmb with
        ⟨b₀, q, hb₀, hmb₀, hq, rfl⟩ | ⟨rfl, -⟩
      · obtain ⟨t, ht, hlt⟩ := h.week_before hsound hquiet hc hb₀ hmb₀
        exact .inr ⟨t, accepted_next hq hmb.live ht, hmarked ▸ hlt⟩
      · exact absurd rfl hne
  month n b userID hb hmb ms hnodup hall := by
    -- What is accepted now was not accepted a week before something was marked.
    have hold {m : Nat} (hm : m ∈ ms) (hle : b.markedAt ≤ s'.clock) : ∃ x t,
        s.attempts[m]? = some x ∧ x.Markets userID ∧ x.progress = .accepted t ∧
          t + 7 * Time.day < b.markedAt ∧ b.markedAt ≤ t + 30 * Time.day := by
      obtain ⟨x, hx, hmx, t, ht, hweek, hmonth⟩ := hall m hm
      rcases h.markets_cases hsound hclock (hgoes m x hx) hmx with
        ⟨x₀, p, hx₀, hmx₀, hp, rfl⟩ | ⟨-, hmarked, -⟩
      · rcases accepted_of_next hp ht with hbefore | rfl
        · exact ⟨x₀, t, hx₀, hmx₀, hbefore, hweek, hmonth⟩
        · linarith
      · cases hmarked.symm.trans ht
    rcases h.markets_cases hsound hclock (hgoes n b hb) hmb with
      ⟨b₀, q, hb₀, hmb₀, hq, rfl⟩ | ⟨rfl, -, hmarked, c, hc, hquiet⟩
    · refine h.month hb₀ hmb₀ ms hnodup fun m hm => ?_
      obtain ⟨x, t, hx, hmx, ht, hweek, hmonth⟩ :=
        hold hm ((h.times hb₀ hmb₀.live).1.trans hclock)
      exact ⟨x, hx, hmx, t, ht, hweek, hmonth⟩
    · refine h.two_before hsound hquiet hc hnodup fun m hm => ?_
      obtain ⟨x, t, hx, hmx, ht, -, hmonth⟩ := hold hm hmarked.le
      exact ⟨x, t, hx, hmx, ht, hmarked ▸ hmonth⟩

end System.Paced

/-! ## Every step keeps the distance -/

/-- The step is at a time that is not in the past, no operator retries a message whose
    outcome is unknown, one who confirms a message knows that it was accepted, and the
    mail server does not refuse what it has accepted. -/
structure System.Orderly [Unicode] (s : System) (e : Event) : Prop where
  clock : s.clock ≤ e.now
  calm : (s.step e).acknowledged = s.acknowledged
  verified : ∀ id, e.action = .confirm id → s.acceptances id ≠ []
  conclusive : s.conclusive e = true

/-- The delivery that an action confirms. -/
def Action.confirmed : Action → Option String
  | .confirm id => some id
  | _ => none

instance System.Orderly.decidable [Unicode] (s : System) (e : Event) : Decidable (s.Orderly e) :=
  decidable_of_iff (s.clock ≤ e.now ∧ (s.step e).acknowledged = s.acknowledged ∧
    (∀ id ∈ e.action.confirmed, s.acceptances id ≠ []) ∧ s.conclusive e = true) <| by
    refine ⟨fun ⟨hclock, hcalm, hverified, hconclusive⟩ =>
        ⟨hclock, hcalm, fun id hid => hverified id ?_, hconclusive⟩,
      fun h => ⟨h.clock, h.calm, fun id hid => h.verified id ?_, h.conclusive⟩⟩
    · rw [hid]
      rfl
    cases haction : e.action with
    | confirm =>
      rw [haction] at hid
      cases hid
      rfl
    | _ =>
      rw [haction] at hid
      cases hid

section

variable {s s' : System} {e : Event} {w : Nat} {row r : Delivery}

/-- Rows are written, and no lease is given back. -/
theorem frame_of_rows (hclock : s.clock ≤ s'.clock)
    (hrows : ∀ ⦃id r'⦄, s'.db.deliveries.lookup id = some r' → r'.status.active = true →
      s.Over id (s.db.deliveries.lookup id) r') (hleases : s'.db.leases = s.db.leases) :
    Frame s s' where
  clock := hclock
  rows _ _ hr' := hrows hr'
  keep _ _ _ _ _ _ _ _ hl := by rwa [hleases]
  lease _ _ hl := by rwa [hleases] at hl

/-- A row is written. -/
theorem over_insert {id : String} {r' : Delivery} (hr : s.db.deliveries.lookup id = some r)
    (hmessage : r'.toMessage = r.toMessage)
    (h : r'.status.active = true → (r.status = .sending ∨ r.status = .uncertain) ∧
      (r'.status = .uncertain ∨ r'.status = .sent ∧ s.Delivered id r'.sentAt)) ⦃k : String⦄
    ⦃x : Delivery⦄ (hx : (s.db.deliveries.insert id r').lookup k = some x)
    (hactive : x.status.active = true) : s.Over k (s.db.deliveries.lookup k) x := by
  rcases lookup_insert_iff.1 hx with ⟨rfl, rfl⟩ | ⟨-, hold⟩
  · exact .inr ⟨r, hr, hmessage, h hactive⟩
  · exact .inl hold

/-- All rows are written. -/
theorem over_mapRows {f : String → Delivery → Delivery} ⦃k : String⦄ ⦃x : Delivery⦄
    (h : ∀ r, (f k r).status.active = true → s.Over k (some r) (f k r))
    (hx : (mapRows f s.db.deliveries).lookup k = some x) (hactive : x.status.active = true) :
    s.Over k (s.db.deliveries.lookup k) x := by
  rw [lookup_mapRows] at hx
  obtain ⟨r, hr, rfl⟩ := Option.map_eq_some_iff.1 hx
  rw [hr]
  exact h r hactive

/-- The worker with the token writes its row, and gives its lease back. -/
theorem frame_release (hsound : s.Sound) {P : Progress → Prop} {r' : Delivery}
    (hholds : s.Holds w row P) (hclock : s.clock ≤ s'.clock)
    (hdeliveries : s'.db.deliveries = s.db.deliveries.insert row.id r')
    (hleases : s'.db.leases = releaseLease s.db.leases row.userID row.leaseToken)
    (htoken : r'.leaseToken = none)
    (hrows : ∀ ⦃k x⦄, (s.db.deliveries.insert row.id r').lookup k = some x →
      x.status.active = true → s.Over k (s.db.deliveries.lookup k) x) : Frame s s' where
  clock := hclock
  rows id x hx := hrows (hdeliveries ▸ hx)
  keep id x n u hx hold hstatus hn hl := by
    rw [hleases, lookup_releaseLease]
    refine ⟨hl, ?_⟩
    -- Another row with the token of the worker would be the same row.
    rintro ⟨-, hsame⟩
    obtain ⟨m, a, -, hm, ha, hid, -⟩ := hholds
    obtain ⟨_, _, hn', ha', hid', -⟩ := hsound.ledger.owned hold hstatus
    cases hn.symm.trans hn'
    cases hsame.trans hm
    cases ha.symm.trans ha'
    rw [hdeliveries, ← hid'.symm.trans hid, lookup_insert] at hx
    cases hx
    rw [htoken] at hn
    cases hn
  lease userID l hl := by
    rw [hleases, lookup_releaseLease] at hl
    exact hl.1

/-- The worker `w` moves to where there is nothing to be ready for. -/
theorem ready_update (hworkers : s'.workers = Function.update s.workers w x) (hx : s'.Ready x)
    (v : Nat) : s'.workers v = s.workers v ∨ s'.Ready (s'.workers v) := by
  rw [hworkers]
  by_cases hv : v = w
  · subst hv
    rw [Function.update_self]
    exact .inr hx
  · exact .inl (Function.update_of_ne hv _ _)

theorem ready_idle : s.Ready .idle where
  claiming t stage h := by cases h
  quiet row c n h := by cases h

/-- A worker that has swept the sends goes on to claim a row. -/
theorem System.Ready.claim_on {stage stage' : Claiming} (h : s.Ready x)
    (hx : x = .claiming t stage) (hne : stage ≠ .sweepSending) : s.Ready (.claiming t stage') where
  claiming t' _ hstage := by
    cases hstage
    obtain ⟨htime, hswept⟩ := h.claiming t stage hx
    exact ⟨htime, fun _ => hswept hne⟩
  quiet _ _ _ hrow := by cases hrow

variable {n : Nat}

/-- The check of the frequency, made by the worker that has the lease. -/
theorem quiet_of_available (h : s.Paced) (hsound : s.Sound) {f : Frequency} {now : Time}
    (hholding : s.Holding row n) (h' : s.db.emailFrequencyAvailable row.userID f now = true) :
    s.Quiet row.userID now := by
  simp only [emailFrequencyAvailable, Bool.and_eq_true, Bool.not_eq_true', Bool.or_eq_false_iff,
    decide_eq_false_iff_not, any_eq_false] at h'
  obtain ⟨⟨huncertain, hweek, hmonth⟩, -⟩ := h'
  have hcount {t : Time} {ids : List String} (hnodup : ids.Nodup)
      (hall : ∀ id ∈ ids, s.db.SentSince row.userID t id) :
      ids.length ≤ s.db.sentSince row.userID t := by
    refine Table.length_le_countP hnodup fun id hid => ?_
    obtain ⟨r, u, hr, huser, hcategory, hstatus, hu, ht⟩ := hall id hid
    exact ⟨r, hr, by simp [huser, Option.isSome_iff_ne_none, hcategory, hstatus, hu, ht]⟩
  refine ⟨fun id r hr huser hcategory => ⟨?_, ?_⟩, fun id hsent => ?_, fun ids hnodup hall => ?_⟩
  · intro hstatus
    refine huncertain r (mem_rows_iff.2 ⟨id, hr⟩) ?_
    simp [huser, Option.isSome_iff_ne_none, hcategory, hstatus]
  · -- A message that is being sent would have the lease.
    intro hstatus
    obtain ⟨⟨_, hr₀, hstatus₀, htoken₀⟩, u, hl⟩ := hholding
    obtain ⟨m, _, hm, -, hl'⟩ := h.sending hr hstatus
    rw [huser, hl] at hl'
    cases hl'
    obtain ⟨n', a, hn', ha, hid, -⟩ := hsound.ledger.owned hr (.inr hstatus)
    obtain ⟨n₀, a₀, hn₀, ha₀, hid₀, -⟩ := hsound.ledger.owned hr₀ (.inl hstatus₀)
    cases hm.symm.trans hn'
    cases htoken₀.symm.trans hn₀
    cases ha.symm.trans ha₀
    rw [← hid, hid₀, hr₀] at hr
    cases hr
    rw [hstatus] at hstatus₀
    cases hstatus₀
  · have hone := hcount (nodup_singleton id) fun _ hid => mem_singleton.1 hid ▸ hsent
    exact hweek hone
  · have hle := hcount hnodup hall
    omega

/-- A worker that moves on is ready. -/
theorem ready_move (h : s.Paced) (hsound : s.Sound) {steps : Table StepID OnboardingStep}
    (hframe : Frame s s') (hclock : s'.clock = e.now)
    (hx : Move s { s.db with steps := steps } e.now w x) : s'.Ready x := by
  cases hx with
  | stop => exact ready_idle
  | start =>
    refine ⟨fun t stage hstage => ?_, fun _ _ _ hrow => by cases hrow⟩
    cases hstage
    exact ⟨hclock.ge, fun hne => absurd rfl hne⟩
  | select _ hw | skip _ _ _ hw => exact (hframe.ready (h.ready w)).claim_on hw (by rintro ⟨⟩)
  | check row x hworking hpasses =>
    have hrow : x.row = some row := by
      rcases hpasses.holds with hw | hl
      · exact hw.row_eq.1
      · cases hl <;> rfl
    refine ⟨fun t stage hstage => ?_, fun row' c n hrow' hchecked hn => ?_⟩
    · subst hstage
      cases hrow
    cases hrow.symm.trans hrow'
    rcases hpasses.checked c hchecked with hbefore | ⟨rfl, f, havailable⟩
    · exact (hframe.ready (h.ready w)).quiet row c n hworking.row_eq.1 hbefore hn
    · refine ⟨hclock.ge, fun hholding => hframe.quiet ?_⟩
      exact quiet_of_available h hsound (hframe.holding hholding) havailable
  | answer => exact System.Paced.ready_of_busy (Option.some_ne_none _) rfl

/-- A worker that leaves a row in a state that counts has sent it. -/
theorem sent_of_active {status : Status} {reason : String} {p : Progress}
    (hp : (Worker.finishing row status reason).Expects p) (hactive : status.active = true) :
    p ≠ .claimed ∧ (status = .uncertain ∨ status = .sent ∧ p.isAccepted = true) := by
  rcases hp with ⟨-, hunsent⟩ | hverdict
  · cases status <;> cases hactive <;> cases hunsent
  cases status with
  | sent =>
    refine ⟨?_, .inr ⟨rfl, hverdict⟩⟩
    rintro rfl
    cases hverdict
  | uncertain =>
    refine ⟨?_, .inl rfl⟩
    rintro rfl
    rcases hverdict with hsubmitted | haccepted
    · cases hsubmitted
    · cases haccepted
  | processing | sending => exact hverdict.elim
  | _ => cases hactive

/-- What was accepted once was accepted before the message is noted as sent. -/
theorem delivered_of_accepted (h : s.Paced) (hsound : s.Sound) {b : Attempt} {now : Time}
    (hclock : s.clock ≤ now) (hb : s.attempts[n]? = some b)
    (haccepted : b.progress.isAccepted = true) : s.Delivered b.deliveryID (some now) := by
  intro m a ha hlive hid
  have hmn := h.once hsound ha hb hlive (live_of_isAccepted haccepted) hid
  subst hmn
  cases ha.symm.trans hb
  cases hprogress : b.progress with
  | accepted t =>
    exact ⟨t, now, rfl, rfl, (((h.times ha hlive).2 t hprogress).2).trans hclock⟩
  | _ =>
    rw [hprogress] at haccepted
    cases haccepted

/-- What a sweep of the sends leaves. -/
theorem ready_sweepSending (h : s.Paced) (hw : s.workers w = .claiming t .sweepSending)
    (hclock : s.clock ≤ s'.clock)
    (hdeliveries : s'.db.deliveries = (s.db.sweepSending t).deliveries) :
    s'.Ready (.claiming t .sweepProcessing) := by
  refine ⟨fun t' stage hstage => ?_, fun _ _ _ hrow => by cases hrow⟩
  cases hstage
  refine ⟨((h.ready w).claiming t _ hw).1.trans hclock, fun _ id r u hr hstatus hu => ?_⟩
  rw [hdeliveries, sweepSending, lookup_mapRows] at hr
  obtain ⟨_, -, rfl⟩ := Option.map_eq_some_iff.1 hr
  split_ifs at hstatus hu with hcond
  by_contra hover
  exact hcond ⟨hstatus, by simpa [Delivery.expired, hu] using hover⟩

/-- Every orderly step keeps the distance. -/
theorem System.Paced.effect (h : s.Paced) (hsound : s.Sound) (hu : s.Undenied) (he : Effect s e s')
    (hclock : s.clock ≤ e.now) (hcalm : s'.acknowledged = s.acknowledged)
    (hverified : ∀ id, e.action = .confirm id → s.acceptances id ≠ []) : s'.Paced := by
  obtain ⟨k, hgoes⟩ := hsound.goes he
  -- All steps but those of a claim and a mark leave the leases to those who have them.
  have hof (hframe : Frame s s')
      (hready : ∀ w, s'.workers w = s.workers w ∨ s'.Ready (s'.workers w)) : s'.Paced :=
    h.next hsound (hframe.leased h.toLeased hready) hframe.clock (hcalm.trans h.calm) hgoes
      fun _ _ => hframe.sent
  cases he with
  | outside db _ hrows hleases =>
    refine hof (frame_of_rows hclock (fun id r' hr' hactive => .inl ?_) hleases) fun _ => .inl rfl
    have hgrown := hrows id
    rw [hr'] at hgrown
    generalize s.db.deliveries.lookup id = x at hgrown
    cases hgrown with
    | same => rfl
    | new _ _ hqueued =>
      rw [hqueued] at hactive
      cases hactive
  | move w steps x hx =>
    have hframe : Frame s { s with
        db := { s.db with steps := steps }
        workers := Function.update s.workers w x
        clock := e.now } :=
      frame_of_rows hclock (fun id r' hr' _ => .inl hr') rfl
    exact hof hframe (ready_update rfl (ready_move h hsound hframe rfl hx))
  | sweepSending w t hw =>
    refine hof (frame_of_rows hclock (fun id r' => over_mapRows fun r hactive => ?_) rfl)
      (ready_update rfl (ready_sweepSending h hw hclock rfl))
    split_ifs with hcond
    · exact .inr ⟨r, rfl, rfl, .inl hcond.1, .inl rfl⟩
    · exact .inl rfl
  | sweepProcessing w t hw =>
    have hframe : Frame s { s with
        db := s.db.sweepProcessing t
        workers := Function.update s.workers w (.claiming t .select)
        clock := e.now } := by
      refine frame_of_rows hclock (fun id r' => over_mapRows fun r hactive => ?_) rfl
      split_ifs at hactive ⊢
      · cases hactive
      · exact .inl rfl
    exact hof hframe (ready_update rfl ((hframe.ready (h.ready w)).claim_on hw (by rintro ⟨⟩)))
  | claim w t c r _ hw hr _ hlease =>
    refine h.next hsound (leased_claim h.toLeased hsound hw hr hlease hclock rfl rfl rfl) hclock
      h.calm hgoes fun id r' hr' hsent => .inl ?_
    rcases lookup_insert_iff.1 hr' with ⟨-, rfl⟩ | ⟨-, hold⟩
    · cases hsent
    · exact hold
  | mark w _ r n t hw hn hr hstatus htoken huntil hnow =>
    refine h.next hsound
      (leased_mark h.toLeased hsound hw hn hr hstatus htoken huntil hclock hnow rfl rfl rfl) hclock
      h.calm hgoes fun id r' hr' hsent => .inl ?_
    rcases lookup_insert_iff.1 hr' with ⟨-, rfl⟩ | ⟨-, hold⟩
    · cases hsent
    · exact hold
  | submit | refuse =>
    exact hof (frame_of_rows hclock (fun id r' hr' _ => .inl hr') rfl)
      (ready_update rfl (ready_of_busy (Option.some_ne_none _) rfl))
  | accept => exact hof (frame_of_rows hclock (fun id r' hr' _ => .inl hr') rfl) fun _ => .inl rfl
  | finish w _ r _ _ _ hw hr htoken hstatus =>
    have hholds := hsound.holds hw rfl
    obtain ⟨m, a, hm, ha, hid, -, hp, hiff⟩ := hsound.owned_of_holds hholds hr htoken hstatus
    refine hof (frame_release hsound hholds hclock rfl rfl rfl
      (over_insert hr rfl fun hactive => ?_)) (ready_update rfl ready_idle)
    obtain ⟨hmarked, huncertain | ⟨rfl, haccepted⟩⟩ := sent_of_active hp hactive
    all_goals
      refine ⟨.inl (hstatus.resolve_left fun hprocessing => hmarked (hiff.1 hprocessing)), ?_⟩
    · exact .inl huncertain
    · exact .inr ⟨rfl, hid ▸ delivered_of_accepted h hsound hclock ha haccepted⟩
  | defer w _ r _ _ hw hr =>
    exact hof (frame_release hsound (hsound.holds hw rfl) hclock rfl rfl rfl
      (over_insert hr rfl fun hactive => by cases hactive)) (ready_update rfl ready_idle)
  | reopen _ r _ hr =>
    exact hof (frame_of_rows hclock (over_insert hr rfl fun hactive => by cases hactive) rfl)
      fun _ => .inl rfl
  | acknowledge => exact absurd hcalm (cons_ne_self _ _)
  | confirm id r haction hr hstatus =>
    obtain ⟨m, hm⟩ := exists_mem_of_ne_nil _ (hverified id haction)
    obtain ⟨b, hb, rfl, haccepted⟩ := mem_acceptances.1 hm
    exact hof (frame_of_rows hclock (over_insert hr rfl fun _ =>
      ⟨.inr hstatus, .inr ⟨rfl, delivered_of_accepted h hsound hclock hb
        (hu.isAccepted hb haccepted)⟩⟩) rfl) fun _ => .inl rfl
  | cancel id =>
    refine hof (frame_of_rows hclock (fun id r' => over_mapRows fun r hactive => ?_) rfl)
      fun _ => .inl rfl
    split_ifs at hactive ⊢
    · cases hactive
    · exact .inl rfl

theorem System.Paced.start (t : Time) : (System.start t).Paced := by
  have hrows (id : String) : (System.start t).db.deliveries.lookup id = none :=
    AList.lookup_empty id
  have hclaims (n : Nat) : (System.start t).attempts[n]? = none := getElem?_nil
  refine ⟨⟨?_, ?_, fun _ => ready_idle⟩, rfl, ?_, ?_, ?_, ?_⟩ <;> simp [hrows, hclaims]

end

/-! ## Marketing messages to a user -/

/-- The claims of marketing messages to a user that the mail server accepted, with the
    times when it did. -/
def System.marketing (s : System) (userID : String) : List (Nat × Time) :=
  (range s.attempts.length).filterMap fun n => do
    let a ← s.attempts[n]?
    if a.userID = userID ∧ a.category ≠ none then (n, ·) <$> a.progress.acceptedAt else none

section

variable {s : System} {userID : String}

theorem markets_of_mem (hu : s.Undenied) {x : Nat × Time} (hx : x ∈ s.marketing userID) :
    ∃ a, s.attempts[x.1]? = some a ∧ a.Markets userID ∧ a.progress = .accepted x.2 := by
  obtain ⟨n, -, hx⟩ := mem_filterMap.1 hx
  obtain ⟨a, ha, hx⟩ := Option.bind_eq_some_iff.1 hx
  split_ifs at hx with hmarkets
  obtain ⟨t, ht, rfl⟩ := Option.map_eq_some_iff.1 hx
  have hprogress := hu.accepted ha ht
  exact ⟨a, ha, ⟨by rw [hprogress]; rfl, hmarkets.1, hmarkets.2⟩, hprogress⟩

/-- The claims are different ones. -/
theorem marketing_nodup : ((s.marketing userID).map Prod.fst).Nodup := by
  rw [List.Nodup, pairwise_map, System.marketing, pairwise_filterMap]
  refine nodup_range.imp fun {m n} hne x hx y hy => ?_
  have hfst {k : Nat} {z : Nat × Time} (hz : (do
        let a ← s.attempts[k]?
        if a.userID = userID ∧ a.category ≠ none then (k, ·) <$> a.progress.acceptedAt else none)
          = some z) : z.1 = k := by
    obtain ⟨a, -, hz⟩ := Option.bind_eq_some_iff.1 hz
    split_ifs at hz
    obtain ⟨u, -, rfl⟩ := Option.map_eq_some_iff.1 hz
    rfl
  rwa [hfst hx, hfst hy]

/-- A window of thirty days contains at most three of them: before the last of them is
    sent, there are at most two. -/
theorem System.Paced.month_le (h : s.Paced) (hu : s.Undenied) (t : Time) :
    ((s.marketing userID).filter fun x => t ≤ x.2 ∧ x.2 ≤ t + 30 * Time.day).length ≤ 3 := by
  generalize hl : (s.marketing userID).filter (fun x => t ≤ x.2 ∧ x.2 ≤ t + 30 * Time.day) = l
  have hmem {x : Nat × Time} (hx : x ∈ l) :
      x ∈ s.marketing userID ∧ t ≤ x.2 ∧ x.2 ≤ t + 30 * Time.day := by
    rw [← hl, mem_filter, decide_eq_true_eq] at hx
    exact hx
  have hnodup : (l.map Prod.fst).Nodup := by
    rw [← hl]
    exact marketing_nodup.sublist (filter_sublist.map _)
  by_cases hempty : l = []
  · simp [hempty]
  obtain ⟨y, hy, hlast⟩ := l.toFinset.exists_max_image Prod.snd
    (toFinset_nonempty_iff _ |>.2 hempty)
  rw [mem_toFinset] at hy
  obtain ⟨b, hb, hmb, hpb⟩ := markets_of_mem hu (hmem hy).1
  have hothers := h.month hb hmb ((l.erase y).map Prod.fst)
    (hnodup.sublist (erase_sublist.map _)) fun m hm => ?_
  · rw [length_map, length_erase_of_mem hy] at hothers
    omega
  obtain ⟨x, hx, rfl⟩ := mem_map.1 hm
  obtain ⟨hne, hx⟩ := (List.Nodup.mem_erase_iff hnodup.of_map).1 hx
  obtain ⟨hmarketing, hfrom, -⟩ := hmem hx
  obtain ⟨a, ha, hma, hpa⟩ := markets_of_mem hu hmarketing
  have hindex : x.1 ≠ y.1 := fun hsame => hne (inj_on_of_nodup_map hnodup hx hy hsame)
  have hlatest : x.2 ≤ y.2 := hlast x (mem_toFinset.2 hx)
  have hmarked := ((h.times hb hmb.live).2 _ hpb).1
  have hbefore := ((h.times ha hma.live).2 _ hpa).1
  have hend := (hmem hy).2.2
  refine ⟨a, ha, hma, x.2, hpa, ?_, by linarith⟩
  rcases h.apart ha hb hma hmb hindex with ⟨u, hu, hlt⟩ | ⟨u, hu, hlt⟩
  · cases hpa.symm.trans hu
    exact hlt
  · cases hpb.symm.trans hu
    linarith

/-- However the workers, campaigns and onboarding steps interleave, as long as no operator
    retries a message whose outcome is unknown, or confirms one that was not accepted, the
    clocks agree, and the mail server does not refuse what it has accepted: any two
    marketing messages accepted for a user are more than seven days apart, and any thirty
    days contain at most three of them. -/
theorem marketing_spaced [Unicode] (t : Time) (es : List Event)
    (h : Run.Guarded System.step System.Orderly (.start t) es) (userID : String) :
    ((Run.exec System.step (.start t) es).marketing userID).Pairwise
        (fun x y => x.2 + 7 * Time.day < y.2 ∨ y.2 + 7 * Time.day < x.2) ∧
      ∀ since : Time, (((Run.exec System.step (.start t) es).marketing userID).filter
        fun x => since ≤ x.2 ∧ x.2 ≤ since + 30 * Time.day).length ≤ 3 := by
  -- Every orderly step keeps the distance.
  obtain ⟨-, hu, hpaced⟩ := h.exec_induction (P := fun s => s.Sound ∧ s.Undenied ∧ s.Paced)
    (fun _ e he ⟨hsound, hu, hpaced⟩ =>
      have heffect := step_effect hsound.tokened e
      ⟨hsound.step e, hu.effect heffect he.conclusive,
        hpaced.effect hsound hu heffect he.clock he.calm he.verified⟩)
    ⟨.start t, .start t, .start t⟩
  refine ⟨?_, hpaced.month_le hu⟩
  refine (pairwise_map.1 marketing_nodup).imp_of_mem fun hx hy hne => ?_
  obtain ⟨a, ha, hma, hpa⟩ := markets_of_mem hu hx
  obtain ⟨b, hb, hmb, hpb⟩ := markets_of_mem hu hy
  rcases hpaced.apart ha hb hma hmb hne with ⟨t, ht, hlt⟩ | ⟨t, ht, hlt⟩
  · cases hpa.symm.trans ht
    exact .inl (hlt.trans_le ((hpaced.times hb hmb.live).2 _ hpb).1)
  · cases hpb.symm.trans ht
    exact .inr (hlt.trans_le ((hpaced.times ha hma.live).2 _ hpa).1)

end

namespace Sample

local instance : Unicode := Unicode.ascii

/-- The message of the campaign is sent. -/
def delivered : List Event := timed 0 (launched ++ sends 0 .ok)

/-- Eight days later another campaign is launched, and its message is sent. -/
def deliveredTwice : List Event :=
  delivered ++ timed (8 * Time.day) (.createCampaign "second" .important ::
    .launch "second" 1 [⟨"delivery-2", "user", "user@example.com"⟩] :: sends 1 .ok)

/-- Both messages are accepted, eight days apart. -/
theorem marketing_spaced_delivered :
    (Run.exec System.step (.start 0) deliveredTwice).marketing "user" =
        [(0, 24 * Time.second), (1, 8 * Time.day + 23 * Time.second)] ∧
      ((Run.exec System.step (.start 0) deliveredTwice).marketing "user").Pairwise
        (fun x y => x.2 + 7 * Time.day < y.2 ∨ y.2 + 7 * Time.day < x.2) ∧
      ∀ since : Time, (((Run.exec System.step (.start 0) deliveredTwice).marketing "user").filter
        fun x => since ≤ x.2 ∧ x.2 ≤ since + 30 * Time.day).length ≤ 3 :=
  ⟨by decide +kernel, marketing_spaced 0 deliveredTwice (by decide +kernel) "user"⟩

/-- The message is accepted, and `QUIT` is answered with 421. The worker takes this for a
    refusal, and sends the message again two minutes later. -/
def denied : List Event :=
  timed 0 (launched ++ sends 0 (.code 421)) ++ timed (2 * Time.minute) (sends 1 .ok)

/-- Without a retry of an operator, the user gets the message twice within two minutes. -/
theorem denied_message_sent_again :
    (Run.exec System.step (.start 0) denied).acknowledged = [] ∧
      (denied.map Event.now).Pairwise (· ≤ ·) ∧
      (Run.exec System.step (.start 0) denied).marketing "user" =
        [(0, 24 * Time.second), (1, 2 * Time.minute + 21 * Time.second)] ∧
      ¬ ((Run.exec System.step (.start 0) denied).marketing "user").Pairwise
        (fun x y => x.2 + 7 * Time.day < y.2 ∨ y.2 + 7 * Time.day < x.2) := by
  refine ⟨by decide +kernel, by decide +kernel, by decide +kernel, by decide +kernel⟩

end Sample

end Accounts.Email

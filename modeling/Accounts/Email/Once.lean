import Accounts.Email.Effects

/-!
# Every message is accepted at most once

The mail server accepts the message of a delivery at most once, and once more for every
retry of an operator who acknowledged that the outcome is unknown
(`acceptances_length_le`), if it does not refuse what it has accepted. Workers may stop
anywhere, their leases may run out while they send, and their clocks may differ.

Two invariants carry this. The *ledger* says what the tables and the claims have to do
with each other (`System.Ledger`): a row that is processed or sent has the token of a claim
of it, and as long as no retry is acknowledged a claim that was marked as sending keeps
its row away from the queue, until the mail server has refused it. The *crew* says what a
worker knows of its claim (`System.Crew`).
-/

namespace Accounts.Email

open AList Table List Option Message

/-! ## Lists of claims -/

variable {p : Progress}

section

variable {α : Type*} {l : List α} {m n : Nat} {a x : α} {f : α → α}

theorem getElem?_modify_eq_some : (l.modify n f)[m]? = some a ↔
      ∃ b, l[m]? = some b ∧ ((n = m ∧ a = f b) ∨ (n ≠ m ∧ a = b)) := by
  rw [getElem?_modify]
  by_cases h : n = m <;> cases l[m]? <;> simp [h, eq_comm]

theorem getElem?_concat_eq_some :
    (l ++ [x])[m]? = some a ↔ l[m]? = some a ∨ (m = l.length ∧ a = x) := by
  rw [getElem?_append]
  split_ifs with h
  · simp [h.ne]
  have hnone : l[m]? = none := getElem?_eq_none (Nat.not_lt.1 h)
  by_cases hm : m = l.length
  · simp [hm, eq_comm]
  · have hnone' : [x][m - l.length]? = none := getElem?_eq_none (by simp; omega)
    simp [hnone, hnone', hm]

end

/-! ## The ledger -/

/-- The mail server may have accepted the message, or may still do so, and the worker was
    not told otherwise. -/
def Progress.live : Progress → Bool
  | .marked | .submitted | .accepted _ => true
  | .claimed | .rejected | .denied _ => false

/-- The worker was told that the message is refused. -/
def Progress.isRefused : Progress → Bool
  | .rejected | .denied _ => true
  | _ => false

theorem isRefused_refuse (p : Progress) : p.refuse.isRefused = true := by
  cases p <;> rfl

/-- The row is being sent with this token, or its outcome is unknown, or it was sent. -/
def Delivery.ClosedFor (r : Delivery) (n : Nat) : Prop :=
  (r.status = .sending ∧ r.leaseToken = some n) ∨ r.status = .uncertain ∨ r.status = .sent

/-- The row has the token of a claim of it, which was marked as sending if the row was. -/
def System.Owns (s : System) (id : String) (r : Delivery) : Prop :=
  ∃ n a, r.leaseToken = some n ∧ s.attempts[n]? = some a ∧ a.deliveryID = id ∧
    (r.status = .processing ↔ a.progress = .claimed)

/-- The rows and the claims agree. -/
structure System.Ledger (s : System) : Prop where
  keyed : ∀ ⦃id : String⦄ ⦃r : Delivery⦄, s.db.deliveries.lookup id = some r → r.id = id
  owned : ∀ ⦃id : String⦄ ⦃r : Delivery⦄, s.db.deliveries.lookup id = some r →
    r.status = .processing ∨ r.status = .sending → s.Owns id r
  about : ∀ ⦃n : Nat⦄ ⦃a : Attempt⦄, s.attempts[n]? = some a →
    ∃ r, s.db.deliveries.lookup a.deliveryID = some r ∧ r.userID = a.userID ∧
      r.category = a.category
  epoch_le : ∀ ⦃n : Nat⦄ ⦃a : Attempt⦄, s.attempts[n]? = some a →
    a.epoch ≤ s.acknowledged.count a.deliveryID
  closed : ∀ ⦃n : Nat⦄ ⦃a : Attempt⦄, s.attempts[n]? = some a → a.progress.live = true →
    a.epoch = s.acknowledged.count a.deliveryID →
    ∃ r, s.db.deliveries.lookup a.deliveryID = some r ∧ r.ClosedFor n
  once : ∀ ⦃m n : Nat⦄ ⦃a b : Attempt⦄, s.attempts[m]? = some a → s.attempts[n]? = some b →
    a.progress.live = true → b.progress.live = true → a.deliveryID = b.deliveryID →
    a.epoch = b.epoch → m = n

/-! ### What a step makes of rows and claims -/

/-- What a step makes of a row. One that was closed for a claim stays so in its epoch. -/
inductive Row (s s' : System) (id : String) : Option Delivery → Option Delivery → Prop
  | same (x : Option Delivery) : Row s s' id x x
  | new (r : Delivery) (hid : r.id = id) (hstatus : r.status = .queued) : Row s s' id none (some r)
  | old (r r' : Delivery) (hmessage : r'.toMessage = r.toMessage)
    (howned : r'.status = .processing ∨ r'.status = .sending → s'.Owns id r')
    (hclosed : ∀ n a, s.attempts[n]? = some a → a.progress.live = true → a.deliveryID = id →
      a.epoch = s'.acknowledged.count id → r.ClosedFor n → r'.ClosedFor n) :
    Row s s' id (some r) (some r')

/-- How a claim that was marked as sending gets on. -/
inductive Progress.Next (now : Time) : Progress → Progress → Prop
  | submit : Next now .marked .submitted
  | accept : Next now .submitted (.accepted now)
  | refuse : Next now .submitted .rejected
  | deny (t : Time) : Next now (.accepted t) (.denied t)

/-- A worker that waits is told that its message is refused. -/
theorem next_refuse {now : Time} (h : p = .submitted ∨ p.isAccepted = true) :
    p.Next now p.refuse := by
  rcases h with rfl | haccepted
  · exact .refuse
  · cases p with
    | accepted t => exact .deny t
    | _ => cases haccepted

/-- What a step makes of a claim: it is new, it gets on, or it is `k` and is marked. -/
inductive Goes (s s' : System) (k : Nat) : Nat → Attempt → Prop
  | new {n : Nat} {a : Attempt} {r : Delivery} (hnew : s.attempts[n]? = none)
    (hclaimed : a.progress = .claimed) (hepoch : a.epoch = 0)
    (hr : s'.db.deliveries.lookup a.deliveryID = some r) (huser : r.userID = a.userID)
    (hcategory : r.category = a.category) : Goes s s' k n a
  | on {n : Nat} {a : Attempt} {p : Progress} (ha : s.attempts[n]? = some a)
    (hp : p = a.progress ∨ a.progress.Next s'.clock p) : Goes s s' k n { a with progress := p }
  | marked {a : Attempt} {w : Nat} {job : Job} {r : Delivery} {t : Time}
    (ha : s.attempts[k]? = some a) (hclaimed : a.progress = .claimed) (hworker : a.worker = w)
    (hid : a.deliveryID = job.row.id) (hw : s.workers w = .marking job)
    (hn : job.row.leaseToken = some k) (hr : s.db.deliveries.lookup job.row.id = some r)
    (hmessage : r.toMessage = job.row.toMessage) (hstatus : r.status = .processing)
    (htoken : r.leaseToken = some k) (huntil : r.leaseUntil = some t) (hnow : s'.clock < t)
    (hr' : s'.db.deliveries.lookup job.row.id = some { r with status := .sending }) :
    Goes s s' k k { a with
      progress := .marked, markedAt := s'.clock, epoch := s.acknowledged.count job.row.id }

variable {P : Progress → Prop}

section

variable {s s' : System} {id : String} {r r' : Delivery} {x : Option Delivery}

/-- A row stays, with its message. -/
theorem Row.kept (h : Row s s' id (some r) x) : ∃ r', x = some r' ∧ r'.toMessage = r.toMessage := by
  cases h with
  | same => exact ⟨r, rfl, rfl⟩
  | old _ r' hmessage => exact ⟨r', rfl, hmessage⟩

theorem Grown.row {y : Option Delivery} (h : Grown id x y) : Row s s' id x y := by
  cases h with
  | same => exact .same _
  | new r hid hstatus => exact .new r hid hstatus

/-- One row is written. -/
theorem row_insert (hr : s.db.deliveries.lookup id = some r) (h : Row s s' id (some r) (some r'))
    (k : String) :
    Row s s' k (s.db.deliveries.lookup k) ((s.db.deliveries.insert id r').lookup k) := by
  by_cases hk : k = id
  · subst hk
    rw [hr, lookup_insert]
    exact h
  · rw [lookup_insert_ne hk]
    exact .same _

/-- All rows are written. -/
theorem row_mapRows {f : String → Delivery → Delivery}
    (h : ∀ r, Row s s' id (some r) (some (f id r))) :
    Row s s' id (s.db.deliveries.lookup id) ((mapRows f s.db.deliveries).lookup id) := by
  rw [lookup_mapRows]
  cases s.db.deliveries.lookup id with
  | none => exact .same _
  | some r => exact h r

/-- A row may be closed for all claims. -/
theorem Row.close (hmessage : r'.toMessage = r.toMessage)
    (hstatus : r'.status = .uncertain ∨ r'.status = .sent) : Row s s' id (some r) (some r') := by
  refine .old r r' hmessage (fun hbusy => ?_) fun n a _ _ _ _ _ => .inr hstatus
  rcases hstatus with hs | hs <;> simp [hs] at hbusy

/-- A row that is not closed for any claim may be put into any state at rest. -/
theorem Row.of_not_closed (hmessage : r'.toMessage = r.toMessage)
    (hidle : r'.status ≠ .processing ∧ r'.status ≠ .sending) (hopen : ∀ n, ¬ r.ClosedFor n) :
    Row s s' id (some r) (some r') :=
  .old r r' hmessage (fun hbusy => absurd hbusy (not_or.2 hidle))
    fun n _ _ _ _ _ hclosed => absurd hclosed (hopen n)

theorem not_closedFor (h : r.status ≠ .sending ∧ r.status ≠ .uncertain ∧ r.status ≠ .sent)
    (n : Nat) : ¬ r.ClosedFor n := by
  rintro (⟨hs, -⟩ | hs | hs)
  · exact h.1 hs
  · exact h.2.1 hs
  · exact h.2.2 hs

variable {a : Attempt} {k n : Nat} {q : Progress} {now : Time}

/-- A claim that may have been accepted after a step is marked in it, or was so before. -/
theorem live_of_next (h : p = q ∨ q.Next now p) (hlive : p.live = true) : q.live = true := by
  rcases h with rfl | hnext
  · exact hlive
  · cases hnext <;> rfl

/-- A claim that gets on was marked before. -/
theorem claimed_iff_of_next (h : p = q ∨ q.Next now p) : q = .claimed ↔ p = .claimed := by
  rcases h with rfl | hnext
  · exact Iff.rfl
  · cases hnext <;> exact iff_of_false nofun nofun

/-- While a row is processed, none of its claims may have been accepted in this epoch. -/
theorem System.Ledger.epoch_ne (h : s.Ledger) (hr : s.db.deliveries.lookup id = some r)
    (hstatus : r.status = .processing) (ha : s.attempts[n]? = some a)
    (hlive : a.progress.live = true) (hid : a.deliveryID = id) :
    a.epoch ≠ s.acknowledged.count id := by
  subst hid
  intro hepoch
  obtain ⟨_, hr', hclosed⟩ := h.closed ha hlive hepoch
  cases hr.symm.trans hr'
  simp [Delivery.ClosedFor, hstatus] at hclosed

/-- The rows and the claims agree after a step. -/
theorem System.Ledger.next (h : s.Ledger) (hlength : s.attempts.length ≤ s'.attempts.length)
    (hcount : ∀ id, s.acknowledged.count id ≤ s'.acknowledged.count id)
    (hrows : ∀ id, Row s s' id (s.db.deliveries.lookup id) (s'.db.deliveries.lookup id))
    (hgoes : ∀ n a, s'.attempts[n]? = some a → Goes s s' k n a) : s'.Ledger where
  keyed id r' hr' := by
    have hrow := hrows id
    rw [hr'] at hrow
    generalize hx : s.db.deliveries.lookup id = x at hrow
    cases hrow with
    | same => exact h.keyed hx
    | new _ hid => exact hid
    | old r _ hmessage =>
      have hid : r'.id = r.id := congrArg Message.id hmessage
      exact hid.trans (h.keyed hx)
  owned id r' hr' hstatus := by
    have hrow := hrows id
    rw [hr'] at hrow
    generalize hx : s.db.deliveries.lookup id = x at hrow
    cases hrow with
    | same =>
      obtain ⟨n, a, htoken, ha, hid, hiff⟩ := h.owned hx hstatus
      have hlt := (List.getElem?_eq_some_iff.1 ha).1.trans_le hlength
      have ha' := getElem?_eq_getElem hlt
      refine ⟨n, _, htoken, ha', ?_⟩
      generalize s'.attempts[n] = a' at ha' ⊢
      cases hgoes n a' ha' with
      | new hnew => cases hnew.symm.trans ha
      | on hb hp =>
        cases ha.symm.trans hb
        exact ⟨hid, hiff.trans (claimed_iff_of_next hp)⟩
      | marked hb hclaimed _ hjob _ _ _ _ _ _ _ _ hrow' =>
        -- The row of a claim that is marked does not stay as it is.
        cases ha.symm.trans hb
        rw [← hjob, hid, hr'] at hrow'
        cases hrow'
        cases hiff.2 hclaimed
    | new _ _ hqueued => simp [hqueued] at hstatus
    | old r _ _ howned => exact howned hstatus
  about n a ha := by
    have hkept {n : Nat} {a : Attempt} (ha : s.attempts[n]? = some a) :
        ∃ r, s'.db.deliveries.lookup a.deliveryID = some r ∧ r.userID = a.userID ∧
          r.category = a.category := by
      obtain ⟨r, hr, huser, hcategory⟩ := h.about ha
      obtain ⟨r', hr', hmessage⟩ := (hr ▸ hrows a.deliveryID).kept
      exact ⟨r', hr', (congrArg userID hmessage).trans huser,
        (congrArg category hmessage).trans hcategory⟩
    cases hgoes n a ha with
    | new _ _ _ hr huser hcategory => exact ⟨_, hr, huser, hcategory⟩
    | on hb | marked hb =>
      have habout := hkept hb
      exact habout
  epoch_le n a ha := by
    cases hgoes n a ha with
    | new _ _ hepoch => exact hepoch ▸ Nat.zero_le _
    | on hb => exact (h.epoch_le hb).trans (hcount _)
    | marked _ _ _ hid => exact hid ▸ hcount _
  closed n a ha hlive hepoch := by
    cases hgoes n a ha with
    | new _ hclaimed =>
      rw [hclaimed] at hlive
      cases hlive
    | @on _ a p hb hp =>
      have hbefore := live_of_next hp hlive
      have hepoch' : a.epoch = s'.acknowledged.count a.deliveryID := hepoch
      obtain ⟨r, hr, hclosed⟩ := h.closed hb hbefore ((h.epoch_le hb).antisymm (hepoch' ▸ hcount _))
      have hrow := hrows a.deliveryID
      rw [hr] at hrow
      generalize s'.db.deliveries.lookup a.deliveryID = x at hrow ⊢
      cases hrow with
      | same => exact ⟨r, rfl, hclosed⟩
      | old _ r' _ _ hkeep => exact ⟨r', rfl, hkeep n a hb hbefore rfl hepoch' hclosed⟩
    | marked _ _ _ hid _ _ _ _ _ htoken _ _ hr' =>
      rw [← hid] at hr'
      exact ⟨_, hr', .inl ⟨rfl, htoken⟩⟩
  once m n a b ha hb hlive hlive' hdelivery hepoch := by
    cases hgoes m a ha with
    | new _ hclaimed =>
      rw [hclaimed] at hlive
      cases hlive
    | on hc hp =>
      cases hgoes n b hb with
      | new _ hclaimed =>
        rw [hclaimed] at hlive'
        cases hlive'
      | on hd hq =>
        exact h.once hc hd (live_of_next hp hlive) (live_of_next hq hlive') hdelivery hepoch
      | marked _ _ _ hid _ _ hr _ hstatus =>
        have hne := h.epoch_ne hr hstatus hc (live_of_next hp hlive) (hdelivery.trans hid)
        exact absurd hepoch hne
    | marked _ _ _ hid _ _ hr _ hstatus =>
      cases hgoes n b hb with
      | new _ hclaimed =>
        rw [hclaimed] at hlive'
        cases hlive'
      | on hd hq =>
        have hne := h.epoch_ne hr hstatus hd (live_of_next hq hlive') (hdelivery.symm.trans hid)
        exact absurd hepoch.symm hne
      | marked => rfl

/-! ## The crew -/

/-- The worker `w` has a claim of the row, in a state with `P`, and its copy is that of the row. -/
def System.Holds (s : System) (w : Nat) (row : Delivery) (P : Progress → Prop) : Prop :=
  ∃ n a r, row.leaseToken = some n ∧ s.attempts[n]? = some a ∧ a.deliveryID = row.id ∧
    a.worker = w ∧ P a.progress ∧ s.db.deliveries.lookup row.id = some r ∧
    r.toMessage = row.toMessage

/-- What the outcome of a send says about the claim. -/
def Verdict : Status → Progress → Prop
  | .sent, p => p.isAccepted = true
  | .uncertain, p => p = .submitted ∨ p.isAccepted = true
  | .retry, p | .failed, p => p.isRefused = true
  | _, _ => False

/-- How far the claim of a worker is. -/
def Worker.Expects : Worker → Progress → Prop
  | .marked _, p => p = .marked
  | .waiting _, p => p = .submitted ∨ p.isAccepted = true
  | .finishing _ status _, p => (p = .claimed ∧ status.unsent = true) ∨ Verdict status p
  | _, p => p = .claimed

/-- The rows that a worker goes through to claim one. -/
def Worker.candidates : Worker → List Delivery
  | .claiming _ (.trying cs) => cs
  | _ => []

/-- What a worker knows. -/
structure System.Knows (s : System) (w : Nat) (x : Worker) : Prop where
  holds : ∀ row, x.row = some row → s.Holds w row x.Expects
  copies : ∀ c ∈ x.candidates, ∃ r, s.db.deliveries.lookup c.id = some r ∧ r.toMessage = c.toMessage

/-- What the workers know is so. -/
def System.Crew (s : System) : Prop := ∀ w, s.Knows w (s.workers w)

section

variable {s s' : System} {w : Nat} {row : Delivery} {x : Worker}

theorem System.Holds.imp {Q : Progress → Prop} (h : ∀ p, P p → Q p) (hs : s.Holds w row P) :
    s.Holds w row Q := by
  obtain ⟨n, a, r, htoken, ha, hid, hworker, hp, hr, hmessage⟩ := hs
  exact ⟨n, a, r, htoken, ha, hid, hworker, h _ hp, hr, hmessage⟩

/-- The rows stay, with their messages. -/
def Kept (s s' : System) : Prop :=
  ∀ ⦃id r⦄, s.db.deliveries.lookup id = some r →
    ∃ r', s'.db.deliveries.lookup id = some r' ∧ r'.toMessage = r.toMessage

/-- The claims of a worker stay as they are. -/
def Unmoved (w : Nat) (s s' : System) : Prop :=
  ∀ ⦃n : Nat⦄ ⦃a : Attempt⦄, s.attempts[n]? = some a → a.worker = w → s'.attempts[n]? = some a

theorem System.Holds.mono (hkept : Kept s s') (hsame : Unmoved w s s') (h : s.Holds w row P) :
    s'.Holds w row P := by
  obtain ⟨n, a, r, htoken, ha, hid, hworker, hp, hr, hmessage⟩ := h
  obtain ⟨r', hr', hmessage'⟩ := hkept hr
  exact ⟨n, a, r', htoken, hsame ha hworker, hid, hworker, hp, hr', hmessage'.trans hmessage⟩

theorem System.Knows.mono (hkept : Kept s s') (hsame : Unmoved w s s') (h : s.Knows w x) :
    s'.Knows w x where
  holds row hrow := (h.holds row hrow).mono hkept hsame
  copies c hc := by
    obtain ⟨r, hr, hmessage⟩ := h.copies c hc
    obtain ⟨r', hr', hmessage'⟩ := hkept hr
    exact ⟨r', hr', hmessage'.trans hmessage⟩

/-- A worker that has no row only knows its candidates. -/
theorem System.Knows.of_copies (hrow : x.row = none)
    (hcopies : ∀ c ∈ x.candidates, ∃ r, s.db.deliveries.lookup c.id = some r ∧
      r.toMessage = c.toMessage) : s.Knows w x where
  holds row h := by
    rw [hrow] at h
    cases h
  copies := hcopies

/-- A worker that has no row and no candidates knows nothing. -/
theorem System.Knows.of_rest (hrow : x.row = none) (hcandidates : x.candidates = []) :
    s.Knows w x := by
  refine .of_copies hrow fun c h => ?_
  rw [hcandidates] at h
  cases h

/-- A worker that has a row has a claim of it. -/
theorem System.Knows.of_holds (hrow : x.row = some row) (h : s.Holds w row x.Expects) :
    s.Knows w x where
  holds row' hrow' := by
    cases hrow.symm.trans hrow'
    exact h
  copies c hc := by
    cases x with
    | claiming => cases hrow
    | _ => cases hc

theorem Worker.Working.row_eq (h : x.Working row) :
    x.row = some row ∧ x.Expects = (· = .claimed) := by
  cases h with
  | fetching => exact ⟨rfl, rfl⟩
  | checking _ _ hrow | marking _ hrow => exact ⟨congrArg some hrow, rfl⟩

/-- A worker that has passed a check still has its claim. -/
theorem System.Holds.passes {db : Database} {now : Time} {y : Worker}
    (h : s.Holds w row (· = .claimed)) (hx : Passes db now row y x) : s.Knows w x := by
  rcases hx.holds with hworking | hleaving
  · refine .of_holds hworking.row_eq.1 ?_
    rwa [hworking.row_eq.2]
  · cases hleaving with
    | finishing _ _ hstatus => exact .of_holds rfl (h.imp fun p hp => .inl ⟨hp, hstatus⟩)
    | deferring => exact .of_holds rfl h

/-- The worker `w` moves, and the claims of the others stay as they are. -/
theorem System.Crew.update (h : s.Crew) (hkept : Kept s s') (hsame : ∀ v, v ≠ w → Unmoved v s s')
    (hworkers : s'.workers = Function.update s.workers w x) (hx : s'.Knows w x) : s'.Crew := by
  intro v
  rw [hworkers]
  by_cases hv : v = w
  · subst hv
    rwa [Function.update_self]
  · rw [Function.update_of_ne hv]
    exact (h v).mono hkept (hsame v hv)

theorem Unmoved.of_eq (h : s'.attempts = s.attempts) : Unmoved w s s' :=
  fun _ _ ha _ => by rw [h, ha]

end

end

/-! ## Every step keeps the invariants -/

/-- The ledger and the crew are in order. -/
structure System.Sound (s : System) : Prop where
  ledger : s.Ledger
  crew : s.Crew

namespace System.Sound

variable {s s' : System} {e : Event} {w n : Nat} {row r : Delivery}

/-- The rows of the workers have tokens. -/
theorem tokened (h : s.Sound) : s.Tokened := by
  intro w row hrow
  obtain ⟨n, -, -, htoken, -⟩ := (h.crew w).holds row hrow
  exact ⟨n, htoken⟩

variable {x : Worker}

/-- A worker with a row has a claim of it. -/
theorem holds (h : s.Sound) (hw : s.workers w = x) (hrow : x.row = some row) :
    s.Holds w row x.Expects :=
  hw ▸ (h.crew w).holds row (hw ▸ hrow)

/-- The claim of a row that is processed or sent is the one of the worker with its token. -/
theorem owned_of_holds (h : s.Sound) (hholds : s.Holds w row P)
    (hr : s.db.deliveries.lookup row.id = some r) (htoken : r.leaseToken = row.leaseToken)
    (hstatus : r.status = .processing ∨ r.status = .sending) :
    ∃ n a, r.leaseToken = some n ∧ s.attempts[n]? = some a ∧ a.deliveryID = row.id ∧
      a.worker = w ∧ P a.progress ∧ (r.status = .processing ↔ a.progress = .claimed) := by
  obtain ⟨n, a, -, hn, ha, hid, hworker, hp, -⟩ := hholds
  obtain ⟨n', _, hn', ha', -, hiff⟩ := h.ledger.owned hr hstatus
  have hnn : n' = n := some.inj (hn'.symm.trans (htoken.trans hn))
  subst hnn
  cases ha.symm.trans ha'
  exact ⟨n', a, hn', ha, hid, hworker, hp, hiff⟩

/-- A worker that finishes a row leaves it closed, unless the mail server has refused it. -/
theorem row_finish (h : s.Sound) {status : Status} {reason : String}
    (hw : s.workers w = .finishing row status reason)
    (hr : s.db.deliveries.lookup row.id = some r) (htoken : r.leaseToken = row.leaseToken)
    (hstatus : r.status = .processing ∨ r.status = .sending) {r' : Delivery}
    (hr' : r'.status = status) (hmessage : r'.toMessage = r.toMessage) :
    Row s s' row.id (some r) (some r') := by
  obtain ⟨n, a, hn, ha, -, -, hp, hiff⟩ := h.owned_of_holds (h.holds hw rfl) hr htoken hstatus
  refine .old r r' hmessage (fun hbusy => ?_) fun m b hb hlive _ _ hclosed => ?_
  · rw [hr'] at hbusy
    rcases hp with ⟨-, hunsent⟩ | hverdict
    · rcases hbusy with rfl | rfl <;> cases hunsent
    · rcases hbusy with rfl | rfl <;> exact hverdict.elim
  -- A closed row is being sent here, and `m` is the token of the worker.
  have hsending : r.status = .sending ∧ r.leaseToken = some m := by
    rcases hclosed with hsending | huncertain | hsent
    · exact hsending
    · simp [huncertain] at hstatus
    · simp [hsent] at hstatus
  have hmn : m = n := some.inj (hsending.2.symm.trans hn)
  subst hmn
  cases ha.symm.trans hb
  have hmarked : a.progress ≠ .claimed := by
    intro hclaimed
    have hprocessing := hiff.2 hclaimed
    rw [hsending.1] at hprocessing
    cases hprocessing
  rcases hp with ⟨hclaimed, -⟩ | hverdict
  · exact absurd hclaimed hmarked
  rw [Delivery.ClosedFor, hr']
  cases status with
  | sent => exact .inr (.inr rfl)
  | uncertain => exact .inr (.inl rfl)
  | retry | failed =>
    have hrefused : a.progress.isRefused = true := hverdict
    cases hprogress : a.progress <;> simp [hprogress, Progress.isRefused, Progress.live] at *
  | _ => exact hverdict.elim

variable {now : Time}

/-- What a worker expects of a message that was handed over stays so when it is accepted. -/
theorem expects_accepted (h : x.Expects .submitted) : x.Expects (.accepted now) := by
  cases x with
  | waiting => exact .inr rfl
  | finishing _ status =>
    rcases h with ⟨hclaimed, -⟩ | hverdict
    · cases hclaimed
    refine .inr ?_
    cases status with
    | sent => rfl
    | uncertain => exact .inr rfl
    | retry | failed => cases hverdict
    | _ => exact hverdict.elim
  | _ => cases h

/-- What a worker knows stays so when a message is accepted. -/
theorem knows_accepted {a : Attempt} (ha : s.attempts[n]? = some a)
    (hsubmitted : a.progress = .submitted) (hdb : s'.db = s.db)
    (hattempts : s'.attempts = s.attempts.modify n fun a => { a with progress := .accepted now })
    (hx : s.Knows w x) : s'.Knows w x where
  holds row hrow := by
    obtain ⟨m, b, r, hm, hb, hid, hworker, hp, hr, hmessage⟩ := hx.holds row hrow
    rw [← hdb] at hr
    by_cases hnm : n = m
    · subst hnm
      cases ha.symm.trans hb
      refine ⟨n, { a with progress := .accepted now }, r, hm, ?_, hid, hworker,
        expects_accepted (hsubmitted ▸ hp), hr, hmessage⟩
      rw [hattempts]
      exact getElem?_modify_eq_some.2 ⟨a, ha, .inl ⟨rfl, rfl⟩⟩
    · refine ⟨m, b, r, hm, ?_, hid, hworker, hp, hr, hmessage⟩
      rw [hattempts]
      exact getElem?_modify_eq_some.2 ⟨b, hb, .inr ⟨hnm, rfl⟩⟩
  copies c hc := by
    rw [hdb]
    exact hx.copies c hc

/-- What a worker knows after it has moved on. -/
theorem knows_move (h : s.Sound) {db : Database} (hx : Move s db now w x) : s.Knows w x := by
  cases hx with
  | stop | start => exact .of_rest rfl rfl
  | select =>
    refine .of_copies rfl fun c hc => ?_
    have hmem : c ∈ rows s.db.deliveries := by
      have hsorted := mem_of_mem_take hc
      rw [mem_insertionSort, mem_filter] at hsorted
      exact hsorted.1
    obtain ⟨_, hid⟩ := mem_rows_iff.1 hmem
    exact ⟨c, by rw [h.ledger.keyed hid, hid], rfl⟩
  | skip t c _ hw =>
    have hknows := h.crew w
    rw [hw] at hknows
    exact .of_copies rfl fun c' hc' => hknows.copies c' (.tail _ hc')
  | check row x hworking hpasses =>
    have hholds := (h.crew w).holds row hworking.row_eq.1
    exact (hworking.row_eq.2 ▸ hholds).passes hpasses
  | answer _ _ _ hw hstatus =>
    have hholds := h.holds hw rfl
    rcases hstatus with rfl | ⟨rfl, haccepted⟩
    · exact .of_holds rfl (hholds.imp fun p hp => .inr hp)
    · obtain ⟨n, a, r, hn, ha, hid, hworker, -, hr, hmessage⟩ := hholds
      have hprogress : a.progress.isAccepted = true := by
        simpa [System.accepted, hn, ha] using haccepted
      exact .of_holds rfl ⟨n, a, r, hn, ha, hid, hworker, .inr hprogress, hr, hmessage⟩

/-- The row that a worker claims is the one it has found. -/
theorem copy (h : s.Sound) {t : Time} {c : Delivery} {cs : List Delivery}
    (hw : s.workers w = .claiming t (.trying (c :: cs)))
    (hr : s.db.deliveries.lookup c.id = some r) : r.toMessage = c.toMessage := by
  have hknows := h.crew w
  rw [hw] at hknows
  obtain ⟨_, hr', hmessage⟩ := hknows.copies c (.head _)
  cases hr.symm.trans hr'
  exact hmessage

/-- What a step makes of the rows. -/
theorem rows (h : s.Sound) (he : Effect s e s') (id : String) :
    Row s s' id (s.db.deliveries.lookup id) (s'.db.deliveries.lookup id) := by
  cases he with
  | outside _ _ hrows => exact (hrows id).row
  | sweepSending =>
    refine row_mapRows fun r => ?_
    split_ifs
    · exact .close rfl (.inl rfl)
    · exact .same _
  | sweepProcessing =>
    refine row_mapRows fun r => ?_
    split_ifs with hcond
    · exact .of_not_closed rfl ⟨nofun, nofun⟩ (not_closedFor (by rw [hcond.1]; decide))
    · exact .same _
  | claim w t c r _ _ hr hdue =>
    refine row_insert hr ?_ id
    refine .old r _ rfl (fun _ => ?_) fun n a _ _ _ _ hclosed => ?_
    · exact ⟨_, _, rfl, getElem?_concat_eq_some.2 (.inr ⟨rfl, rfl⟩), rfl, iff_of_true rfl rfl⟩
    · simp only [Delivery.due, Bool.and_eq_true, Bool.or_eq_true, decide_eq_true_eq] at hdue
      rcases hdue.1 with hs | hs <;> simp [Delivery.ClosedFor, hs] at hclosed
  | mark w _ r n t hw hn hr hstatus htoken =>
    obtain ⟨_, a, -, hn', ha, hid, -⟩ := h.holds hw rfl
    cases hn.symm.trans hn'
    refine row_insert hr ?_ id
    refine .old r _ rfl (fun _ => ?_) fun n a _ _ _ _ hclosed => ?_
    · exact ⟨n, _, htoken, getElem?_modify_eq_some.2 ⟨a, ha, .inl ⟨rfl, rfl⟩⟩, hid,
        iff_of_false nofun nofun⟩
    · simp [Delivery.ClosedFor, hstatus] at hclosed
  | finish w _ r _ _ _ hw hr htoken hstatus =>
    refine row_insert hr ?_ id
    exact h.row_finish hw hr htoken hstatus rfl rfl
  | defer _ _ _ _ _ _ hr _ hstatus | reopen _ _ _ hr hstatus =>
    refine row_insert hr ?_ id
    exact .of_not_closed rfl ⟨nofun, nofun⟩ (not_closedFor (by rw [hstatus]; decide))
  | acknowledge _ r _ hr =>
    refine row_insert hr ?_ id
    refine .old r _ rfl (fun hbusy => by simp at hbusy) fun n a ha _ hid hepoch _ => ?_
    -- A new epoch begins, and no claim is of it.
    have hle := h.ledger.epoch_le ha
    rw [hid] at hle
    rw [count_cons_self] at hepoch
    omega
  | confirm _ r _ hr =>
    refine row_insert hr ?_ id
    exact .close rfl (.inr rfl)
  | cancel =>
    refine row_mapRows fun r => ?_
    split_ifs with hcond
    · refine .of_not_closed rfl ⟨nofun, nofun⟩ (not_closedFor ?_)
      rcases hcond.2 with hs | hs | hs <;> rw [hs] <;> decide
    · exact .same _
  | _ => exact .same _

/-- A claim gets on, and the others stay as they are. -/
theorem goes_modify {a b : Attempt} {k m : Nat} (f : Progress → Progress)
    (ha : s.attempts[n]? = some a) (hp : a.progress.Next s'.clock (f a.progress))
    (hb : (s.attempts.modify n fun a => { a with progress := f a.progress })[m]? = some b) :
    Goes s s' k m b := by
  obtain ⟨c, hc, ⟨rfl, rfl⟩ | ⟨-, rfl⟩⟩ := getElem?_modify_eq_some.1 hb
  · cases ha.symm.trans hc
    exact .on ha (.inr hp)
  · exact .on hc (.inl rfl)

section

variable (h : s.Sound)

include h

/-- What a step makes of the claims. -/
theorem goes (he : Effect s e s') : ∃ k, ∀ n a, s'.attempts[n]? = some a → Goes s s' k n a := by
  cases he with
  | claim w t c r _ hw hr =>
    refine ⟨0, fun n a ha => ?_⟩
    rcases getElem?_concat_eq_some.1 ha with ha | ⟨rfl, rfl⟩
    · exact .on ha (.inl rfl)
    · have hmessage := h.copy hw hr
      exact .new (getElem?_eq_none le_rfl) rfl rfl (lookup_insert _)
        (congrArg userID hmessage) (congrArg category hmessage)
  | mark w _ r n t hw hn hr hstatus htoken huntil hnow =>
    obtain ⟨n', a, _, hn', ha, hid, hworker, hclaimed, hr', hmessage⟩ := h.holds hw rfl
    cases hn.symm.trans hn'
    cases hr.symm.trans hr'
    refine ⟨n, fun m b hb => ?_⟩
    obtain ⟨c, hc, ⟨rfl, rfl⟩ | ⟨-, rfl⟩⟩ := getElem?_modify_eq_some.1 hb
    · cases ha.symm.trans hc
      exact .marked ha hclaimed hworker hid hw hn hr hmessage hstatus htoken huntil hnow
        (lookup_insert _)
    · exact .on hc (.inl rfl)
  | submit w _ n hw hn =>
    obtain ⟨n', a, -, hn', ha, -, -, hmarked, -⟩ := h.holds hw rfl
    cases hn.symm.trans hn'
    have hmarked' : a.progress = .marked := hmarked
    exact ⟨0, fun m b => goes_modify (fun _ => .submitted) ha (hmarked' ▸ .submit)⟩
  | accept n a ha hsubmitted =>
    exact ⟨0, fun m b => goes_modify (fun _ => .accepted e.now) ha (hsubmitted ▸ .accept)⟩
  | refuse w _ n _ _ hw hn =>
    obtain ⟨n', a, -, hn', ha, -, -, hwaiting, -⟩ := h.holds hw rfl
    cases hn.symm.trans hn'
    exact ⟨0, fun m b => goes_modify .refuse ha (next_refuse hwaiting)⟩
  | _ => exact ⟨0, fun _ _ ha => .on ha (.inl rfl)⟩

/-- The worker `w` gets on with its claim, and the claims of the others stay as they are. -/
theorem crew_modify {f : Attempt → Attempt} (hkept : Kept s s') (hholds : s.Holds w row P)
    (hn : row.leaseToken = some n) (hattempts : s'.attempts = s.attempts.modify n f)
    (hf : ∀ a, (f a).deliveryID = a.deliveryID ∧ (f a).worker = a.worker)
    (hworkers : s'.workers = Function.update s.workers w x)
    (hx : s'.Holds w row (fun q => ∃ a, q = (f a).progress) → s'.Knows w x) : s'.Crew := by
  obtain ⟨_, a, r, hn', ha, hid, hworker, -, hr, hmessage⟩ := hholds
  cases hn.symm.trans hn'
  obtain ⟨r', hr', hmessage'⟩ := hkept hr
  refine h.crew.update hkept (fun v hv => ?_) hworkers (hx ?_)
  · -- A claim belongs to one worker.
    intro m b hb hworker'
    rw [hattempts, getElem?_modify_eq_some]
    refine ⟨b, hb, .inr ⟨?_, rfl⟩⟩
    rintro rfl
    cases ha.symm.trans hb
    exact hv (hworker'.symm.trans hworker)
  · refine ⟨n, f a, r', hn, ?_, (hf a).1.trans hid, (hf a).2.trans hworker, ⟨a, rfl⟩, hr',
      hmessage'.trans hmessage⟩
    rw [hattempts]
    exact getElem?_modify_eq_some.2 ⟨a, ha, .inl ⟨rfl, rfl⟩⟩

/-- What the workers know after a step. -/
theorem crew_effect (he : Effect s e s') : s'.Crew := by
  have hkept : Kept s s' := fun id _ hr => (hr ▸ h.rows he id).kept
  cases he with
  | move w _ x hx =>
    exact h.crew.update hkept (fun _ _ => .of_eq rfl) rfl
      ((h.knows_move hx).mono hkept (.of_eq rfl))
  | claim w t c r _ hw hr =>
    have hmessage := h.copy hw hr
    refine h.crew.update hkept (fun v _ n a ha _ => getElem?_concat_eq_some.2 (.inl ha)) rfl ?_
    exact .of_holds rfl ⟨_, _, _, rfl, getElem?_concat_eq_some.2 (.inr ⟨rfl, rfl⟩), rfl, rfl, rfl,
      lookup_insert _, hmessage⟩
  | mark w _ r n t hw hn =>
    exact h.crew_modify hkept (h.holds hw rfl) hn rfl (fun _ => ⟨rfl, rfl⟩) rfl fun hholds =>
      .of_holds rfl (hholds.imp fun _ ⟨_, hp⟩ => hp)
  | submit w _ n hw hn =>
    exact h.crew_modify hkept (h.holds hw rfl) hn rfl (fun _ => ⟨rfl, rfl⟩) rfl fun hholds =>
      .of_holds rfl (hholds.imp fun _ ⟨_, hp⟩ => .inl hp)
  | accept n a ha hsubmitted => exact fun v => knows_accepted ha hsubmitted rfl rfl (h.crew v)
  | refuse w _ n _ _ hw hn _ hstatus =>
    refine h.crew_modify hkept (h.holds hw rfl) hn rfl (fun _ => ⟨rfl, rfl⟩) rfl fun hholds =>
      .of_holds rfl (hholds.imp fun _ ⟨_, hp⟩ => .inr ?_)
    rcases hstatus with rfl | rfl <;> exact hp ▸ isRefused_refuse _
  | sweepSending | sweepProcessing | finish | defer =>
    exact h.crew.update hkept (fun _ _ => .of_eq rfl) rfl (.of_rest rfl rfl)
  | _ => exact fun v => (h.crew v).mono hkept (.of_eq rfl)

/-- Every step keeps the ledger and the crew in order. -/
theorem effect (he : Effect s e s') : s'.Sound := by
  obtain ⟨k, hgoes⟩ := h.goes he
  refine ⟨h.ledger.next ?_ (fun id => ?_) (h.rows he) hgoes, h.crew_effect he⟩
  · cases he <;> simp
  · cases he with
    | acknowledge => exact count_le_count_cons
    | _ => exact le_rfl

end

theorem start (t : Time) : (System.start t).Sound := by
  have hrows (id : String) : (System.start t).db.deliveries.lookup id = none :=
    lookup_empty id
  have hclaims (n : Nat) : (System.start t).attempts[n]? = none := getElem?_nil
  refine ⟨⟨?_, ?_, ?_, ?_, ?_, ?_⟩, fun _ => .of_rest rfl rfl⟩ <;> simp [hrows, hclaims]

theorem step [Unicode] (h : s.Sound) (e : Event) : (s.step e).Sound :=
  h.effect (step_effect h.tokened e)

theorem exec [Unicode] (t : Time) (es : List Event) :
    (Run.exec System.step (System.start t) es).Sound :=
  Run.exec_induction (fun _ e h => h.step e) (.start t) es

end System.Sound

/-! ## Acceptances -/

section

variable {s : System} {id : String} {n : Nat}

/-- No message that was accepted was refused afterwards. -/
def System.Undenied (s : System) : Prop :=
  ∀ ⦃n : Nat⦄ ⦃a : Attempt⦄, s.attempts[n]? = some a → ∀ t, a.progress ≠ .denied t

/-- What is accepted is not refused, as long as the mail server is conclusive. -/
theorem System.Undenied.effect {s' : System} {e : Event} (h : s.Undenied) (he : Effect s e s')
    (hconclusive : s.conclusive e = true) : s'.Undenied := by
  intro m b hb t hdenied
  cases he with
  | claim =>
    rcases getElem?_concat_eq_some.1 hb with hb | ⟨-, rfl⟩
    · exact h hb t hdenied
    · cases hdenied
  | mark | submit | accept =>
    obtain ⟨a, ha, ⟨-, rfl⟩ | ⟨-, rfl⟩⟩ := getElem?_modify_eq_some.1 hb
    · cases hdenied
    · exact h ha t hdenied
  | refuse w row k _ _ _ hk hpending =>
    obtain ⟨a, ha, ⟨rfl, rfl⟩ | ⟨-, rfl⟩⟩ := getElem?_modify_eq_some.1 hb
    · have haccepted : a.progress.isAccepted = true := by
        have hrefuse : a.progress.refuse = .denied t := hdenied
        cases hprogress : a.progress with
        | accepted => rfl
        | _ =>
          rw [hprogress] at hrefuse
          cases hrefuse
      have hno := hpending hconclusive
      simp [System.accepted, hk, ha, haccepted] at hno
    · exact h ha t hdenied
  | _ => exact h hb t hdenied

theorem System.Undenied.start (t : Time) : (System.start t).Undenied :=
  fun n a ha => by simp [System.start] at ha

theorem mem_acceptances : n ∈ s.acceptances id ↔
      ∃ a, s.attempts[n]? = some a ∧ a.deliveryID = id ∧ a.progress.acceptedAt.isSome = true := by
  rw [System.acceptances, mem_filter, mem_range]
  constructor
  · rintro ⟨-, h⟩
    cases ha : s.attempts[n]? with
    | none => simp [ha] at h
    | some a => exact ⟨a, rfl, by simpa [ha] using h⟩
  · rintro ⟨a, ha, hid, haccepted⟩
    refine ⟨(List.getElem?_eq_some_iff.1 ha).1, ?_⟩
    simp [ha, hid, haccepted]

theorem live_of_isAccepted (h : p.isAccepted = true) : p.live = true := by
  cases p with
  | accepted => rfl
  | _ => cases h

/-- A message that was accepted was not denied. -/
theorem System.Undenied.accepted {a : Attempt} {t : Time} (h : s.Undenied)
    (ha : s.attempts[n]? = some a) (ht : a.progress.acceptedAt = some t) :
    a.progress = .accepted t := by
  have hdenied := h ha
  cases hprogress : a.progress with
  | accepted =>
    rw [hprogress] at ht
    cases ht
    rfl
  | denied u => exact absurd hprogress (hdenied u)
  | _ =>
    rw [hprogress] at ht
    cases ht

/-- A claim whose message was accepted may have been so. -/
theorem System.Undenied.isAccepted {a : Attempt} (h : s.Undenied) (ha : s.attempts[n]? = some a)
    (haccepted : a.progress.acceptedAt.isSome = true) : a.progress.isAccepted = true := by
  obtain ⟨t, ht⟩ := isSome_iff_exists.1 haccepted
  rw [h.accepted ha ht]
  rfl

/-- In an epoch a message is accepted at most once. -/
theorem acceptances_length_le_of_sound (h : s.Sound) (hu : s.Undenied) (id : String) :
    (s.acceptances id).length ≤ s.acknowledged.count id + 1 := by
  let epoch (n : Nat) : Nat := (s.attempts[n]?.map (·.epoch)).getD 0
  have hinj : ∀ m ∈ s.acceptances id, ∀ n ∈ s.acceptances id, epoch m = epoch n → m = n := by
    intro m hm n hn hepoch
    obtain ⟨a, ha, haid, haccepted⟩ := mem_acceptances.1 hm
    obtain ⟨b, hb, hbid, hbccepted⟩ := mem_acceptances.1 hn
    simp only [epoch, ha, hb, map_some, getD_some] at hepoch
    exact h.ledger.once ha hb (live_of_isAccepted (hu.isAccepted ha haccepted))
      (live_of_isAccepted (hu.isAccepted hb hbccepted)) (haid.trans hbid.symm) hepoch
  have hnodup : ((s.acceptances id).map epoch).Nodup :=
    (List.nodup_range.filter _).map_on hinj
  have hsub : (s.acceptances id).map epoch ⊆ range (s.acknowledged.count id + 1) := by
    intro k hk
    obtain ⟨n, hn, rfl⟩ := List.mem_map.1 hk
    obtain ⟨a, ha, rfl, -⟩ := mem_acceptances.1 hn
    simp only [epoch, ha, map_some, getD_some, mem_range]
    exact Nat.lt_succ_of_le (h.ledger.epoch_le ha)
  have hlength := (subperm_of_subset hnodup hsub).length_le
  rwa [length_map, length_range] at hlength

/-- However the workers, the operators and the mail server interleave, and whatever their
    clocks show, the mail server accepts the message of a delivery at most once, and once
    more for every retry after acknowledging that its outcome is unknown, as long as a
    reply of 4xx or 5xx means that the message was not accepted. -/
theorem acceptances_length_le [Unicode] (t : Time) (es : List Event)
    (h : Run.Guarded System.step (fun s e => s.conclusive e = true) (.start t) es) (id : String) :
    ((Run.exec System.step (.start t) es).acceptances id).length ≤
      (Run.exec System.step (.start t) es).acknowledged.count id + 1 := by
  obtain ⟨hsound, hundenied⟩ := h.exec_induction (P := fun s => s.Sound ∧ s.Undenied)
    (fun _ e he hs => ⟨hs.1.step e, hs.2.effect (step_effect hs.1.tokened e) he⟩)
    ⟨.start t, .start t⟩
  exact acceptances_length_le_of_sound hsound hundenied id

end

namespace Sample

local instance : Unicode := Unicode.ascii

/-- An account that can be written to. -/
def account : Account := ⟨"user@example.com", true, true, 0⟩

/-- A user wants to hear of updates, and a campaign is launched for them. -/
def launched : List Action :=
  [.save "user" { productUpdates := true, frequency := .important },
    .createCampaign "campaign" .important,
    .launch "campaign" 1 [⟨"delivery", "user", "user@example.com"⟩]]

/-- A worker takes a marketing message from the queue and sends it. The mail server accepts
    it, and answers. -/
def sends (token : Nat) (smtp : Smtp) : List Action :=
  [.advance 0 {}, .advance 0 {}, .advance 0 {}, .advance 0 {}, .advance 0 {},
    .advance 0 { account := some account },
    .advance 0 {}, .advance 0 {}, .advance 0 {}, .advance 0 { yes := true },
    .advance 0 {}, .advance 0 {}, .advance 0 {},
    .advance 0 { account := some account }, .advance 0 {}, .advance 0 { yes := true },
    .advance 0 {}, .advance 0 {}, .advance 0 {},
    .advance 0 {}, .advance 0 {}, .accept token, .advance 0 { smtp := smtp }, .advance 0 {}]

/-- The actions, a second apart. -/
def timed (start : Time) (actions : List Action) : List Event :=
  actions.zipIdx.map fun x => ⟨start + x.2 * Time.second, x.1⟩

/-- The answer to a message that was accepted is lost, and an operator retries it. -/
def retried : List Event :=
  timed 0 (launched ++ sends 0 .error ++
    [.checkRetry 0 "delivery" true, .retry 0] ++ sends 1 .ok)

/-- It is accepted a second time. -/
theorem acceptances_length_le_retried :
    (Run.exec System.step (.start 0) retried).acceptances "delivery" = [0, 1] ∧
      ((Run.exec System.step (.start 0) retried).acceptances "delivery").length ≤
        (Run.exec System.step (.start 0) retried).acknowledged.count "delivery" + 1 :=
  ⟨by decide +kernel, acceptances_length_le 0 retried (by decide +kernel) "delivery"⟩

end Sample

end Accounts.Email

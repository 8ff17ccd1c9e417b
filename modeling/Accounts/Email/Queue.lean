import Accounts.Base.Calendar
import Accounts.Base.Check
import Accounts.Base.Table
import Mathlib.Data.List.Sort

/-!
# The queue of e-mail deliveries

The tables of the e-mail service (`Database`) and its calls. A delivery is a row for one
recipient. A worker claims it with a token and a lease on the recipient, marks it as
sending right before it talks to the mail server, and then finishes it; a row whose
outcome is unknown is `uncertain`, and is only sent again when an operator says so.

* the claim of a delivery (`ClaimEmailDelivery`) is in four parts, since it is no single
  transaction: the sweeps of expired rows (`sweepSending`, `sweepProcessing`), the
  selection of candidates (`candidates`), and the claim of one candidate (`claimCandidate`);
* `markEmailSending`, `finishEmailDelivery` and `deferEmailDelivery` are the writes of the
  worker that has the token, `retryEmailDelivery` and `confirmEmailAcceptance` those of an
  operator. Each of them writes one row under a condition (`updateDelivery`);
* campaigns, onboarding steps, preferences and suppressions decide who is written to.

The identifiers of claims (`uuid.NewString`) are numbers: each is drawn once.
Versions count updates from 0, and do not come near the bound `2 ^ 64` of their type.
-/

namespace Accounts.Email

open Table

/-! ## Rows -/

/-- The states of a delivery. -/
inductive Status
  | queued | retry | processing | sending | sent | failed | uncertain | suppressed | cancelled
  deriving DecidableEq, Repr

/-- What a marketing message is about, and the preference that allows it. -/
inductive Category
  | productUpdates | tutorials | offers
  deriving DecidableEq, Repr

/-- How often a user is written to, and for which users a message is. -/
inductive Frequency
  | important | monthly
  deriving DecidableEq, Repr

/-- The onboarding steps. -/
inductive StepID
  | hello | firstSteps | discoverMore
  deriving DecidableEq, Repr

/-- What a delivery is about. It never changes. The empty identifiers of a campaign and a
    step, and the empty category of a transactional message, are `none`. -/
structure Message where
  id : String
  campaignID : Option String
  stepID : Option StepID
  userID : String
  email : String
  category : Option Category
  deliveryMode : Frequency
  createdAt : Time
  deriving DecidableEq, Repr

/-- A delivery (`model.EmailDelivery`). -/
structure Delivery extends Message where
  status : Status
  attempts : Int
  dueAt : Time
  leaseToken : Option Nat
  leaseUntil : Option Time
  sentAt : Option Time
  lastError : String
  deriving DecidableEq, Repr

/-- The lease on a recipient (`model.EmailRecipientLease`). -/
structure Lease where
  token : Nat
  expiresAt : Time
  deriving DecidableEq, Repr

/-- The states of a campaign. -/
inductive CampaignStatus
  | draft | queued | cancelled
  deriving DecidableEq, Repr

/-- A campaign (`model.EmailCampaign`). -/
structure Campaign where
  version : Nat
  deliveryMode : Frequency
  status : CampaignStatus
  deriving DecidableEq, Repr

/-- An onboarding step (`model.EmailOnboardingStep`). -/
structure OnboardingStep where
  version : Nat
  enabled : Bool
  delayHours : Int
  activatedAt : Time
  deriving DecidableEq, Repr

/-- The preferences of a user. The defaults are those of a user who made no choice. -/
structure Preferences where
  productUpdates : Bool := false
  tutorials : Bool := false
  offers : Bool := false
  frequency : Frequency := .monthly
  version : Nat := 0
  deriving DecidableEq, Repr

/-- The tables: deliveries by identifier, leases and preferences by user, campaigns,
    onboarding steps, and the suppressed addresses. -/
structure Database where
  deliveries : Table String Delivery := ∅
  leases : Table String Lease := ∅
  campaigns : Table String Campaign := ∅
  steps : Table StepID OnboardingStep := ∅
  preferences : Table String Preferences := ∅
  suppressions : List String := []

/-- The errors of the calls. -/
inductive EmailError
  | queueConflict | notFound | onboardingStopped | preferenceConflict | invalidStep
  deriving DecidableEq, Repr

/-- The preference for a category (`EmailCategoryAllowed`). -/
def emailCategoryAllowed (p : Preferences) : Category → Bool
  | .productUpdates => p.productUpdates
  | .tutorials => p.tutorials
  | .offers => p.offers

/-! ## Writes of one delivery -/

/-- The lease has run out (`lease_until < now`). -/
def Delivery.expired (r : Delivery) (now : Time) : Bool := r.leaseUntil.any (· < now)

/-- The row waits for a worker, and its time has come. -/
def Delivery.due (r : Delivery) (now : Time) : Bool :=
  (r.status = .queued || r.status = .retry) && r.dueAt ≤ now

/-- The lease of a token is deleted. -/
def releaseLease (leases : Table String Lease) (userID : String) (token : Option Nat) :
    Table String Lease :=
  match leases.lookup userID with
  | some l => if some l.token = token then leases.erase userID else leases
  | none => leases

/-- The lease that is given back is the one of the token. -/
theorem lookup_releaseLease {leases : Table String Lease} {userID userID' : String}
    {token : Option Nat} {l : Lease} :
    (releaseLease leases userID token).lookup userID' = some l ↔
      leases.lookup userID' = some l ∧ ¬ (userID' = userID ∧ some l.token = token) := by
  rw [releaseLease]
  by_cases hne : userID' = userID
  · subst hne
    rcases hl : leases.lookup userID' with _ | l'
    · simp [hl]
    dsimp only
    split_ifs with htoken
    · rw [AList.lookup_erase]
      grind
    · grind
  · cases hl : leases.lookup userID with
    | none => simp [hne]
    | some =>
      dsimp only
      split_ifs <;> simp [hne]

namespace Database

variable (db : Database)

/-- One row is updated under a condition: it is a conflict when no row is affected. -/
def updateDelivery (id : String) (p : Delivery → Bool) (f : Delivery → Delivery) :
    Except EmailError Database :=
  match db.deliveries.lookup id with
  | some r =>
    if p r then .ok { db with deliveries := db.deliveries.insert id (f r) }
    else .error .queueConflict
  | none => .error .queueConflict

/-! ## Claims -/

/-- The sends whose lease has run out: their outcome is unknown. -/
def sweepSending (now : Time) : Database :=
  { db with
    deliveries := mapRows (fun _ r =>
      if r.status = .sending ∧ r.expired now then
        { r with
          status := .uncertain
          lastError := "delivery outcome unknown; verify before retry" }
      else r) db.deliveries }

/-- The rows that were claimed, and not sent, when their lease has run out. -/
def sweepProcessing (now : Time) : Database :=
  { db with
    deliveries := mapRows (fun _ r =>
      if r.status = .processing ∧ r.expired now then { r with status := .retry, dueAt := now }
      else r) db.deliveries }

/-- The first thirty rows that are due. -/
def candidates (now : Time) : List Delivery :=
  (((rows db.deliveries).filter (·.due now)).insertionSort fun a b =>
    a.dueAt < b.dueAt ∨ (a.dueAt = b.dueAt ∧ a.id ≤ b.id)).take 30

/-- How long a claim lasts. -/
def leaseTime : Int := 2 * Time.minute

/-- The lease on the recipient is taken, unless another one is still running. -/
def acquireLease (userID : String) (token : Nat) (now : Time) : Except EmailError Database :=
  match db.leases.lookup userID with
  | some l =>
    if l.expiresAt < now then
      .ok { db with leases := db.leases.insert userID ⟨token, now + leaseTime⟩ }
    else .error .queueConflict
  | none => .ok { db with leases := db.leases.insert userID ⟨token, now + leaseTime⟩ }

section

variable (candidate : Delivery) (token : Nat) (now : Time)

/-- One candidate is claimed: the lease on its recipient, and then the row. -/
def claimCandidate : Except EmailError Database :=
  (db.acquireLease candidate.userID token now).bind fun db =>
    db.updateDelivery candidate.id (·.due now) fun r =>
      { r with
        status := .processing
        leaseToken := some token
        leaseUntil := some (now + leaseTime)
        attempts := r.attempts + 1 }

/-- The row, as the worker that claimed it has it. -/
def claimedRow : Delivery :=
  { candidate with
    status := .processing
    leaseToken := some token
    leaseUntil := some (now + leaseTime)
    attempts := candidate.attempts + 1 }

end

/-! ## The worker that has the token -/

/-- The onboarding step of a row, if any, is enabled, and was so when the row was made. -/
def stepEnabled (m : Message) : Bool :=
  match m.stepID with
  | none => true
  | some id => (db.steps.lookup id).any fun step => step.enabled && step.activatedAt ≤ m.createdAt

/-- The user consents to the category of a row, and has not changed a preference since
    the version that the worker has read. -/
def consents (m : Message) (consentVersion : Nat) : Bool :=
  match m.category with
  | none => true
  | some category => (db.preferences.lookup m.userID).any fun p =>
    p.version = consentVersion && emailCategoryAllowed p category

section

variable (row : Delivery)

/-- The last write before the send (`MarkEmailSending`). -/
def markEmailSending (consentVersion : Nat) (now : Time) : Except EmailError Database :=
  db.updateDelivery row.id (fun r => r.status = .processing && r.leaseToken = row.leaseToken &&
      r.leaseUntil.any (now < ·) && !db.suppressions.contains row.email &&
      db.stepEnabled row.toMessage && db.consents row.toMessage consentVersion)
    fun r => { r with status := .sending }

/-- The outcome is written, and the lease given back (`FinishEmailDelivery`). -/
def finishEmailDelivery (status : Status) (reason : String) (due now : Time) :
    Except EmailError Database :=
  (db.updateDelivery row.id
    (fun r => r.leaseToken = row.leaseToken && (r.status = .processing || r.status = .sending))
    fun r =>
      { r with
        status := status
        lastError := reason
        leaseToken := none
        leaseUntil := none
        sentAt := if status = .sent then some now else r.sentAt
        dueAt := if status = .retry then due else r.dueAt }).map fun db =>
    { db with leases := releaseLease db.leases row.userID row.leaseToken }

/-- The row is put off, without counting the attempt (`DeferEmailDelivery`). -/
def deferEmailDelivery (due : Time) (reason : String) : Except EmailError Database :=
  (db.updateDelivery row.id (fun r => r.status = .processing && r.leaseToken = row.leaseToken)
    fun r =>
      { r with
        status := .retry
        dueAt := due
        attempts := r.attempts - 1
        lastError := reason
        leaseToken := none
        leaseUntil := none }).map fun db =>
    { db with leases := releaseLease db.leases row.userID row.leaseToken }

end

/-! ## Operators -/

/-- The checks of `RetryEmailDelivery`: the row is there, and its campaign is not cancelled. -/
def checkRetry (id : String) : Except EmailError Unit :=
  match db.deliveries.lookup id with
  | none => .error .notFound
  | some r =>
    match r.campaignID with
    | none => .ok ()
    | some campaignID =>
      match db.campaigns.lookup campaignID with
      | none => .error .notFound
      | some c => if c.status = .cancelled then .error .queueConflict else .ok ()

/-- The write of `RetryEmailDelivery`, later: a failed row, or with `ackUnknown` one whose
    outcome is unknown, is sent again. -/
def retryEmailDelivery (id : String) (ackUnknown : Bool) (now : Time) :
    Except EmailError Database :=
  db.updateDelivery id (fun r => r.status = .failed || (ackUnknown && r.status = .uncertain))
    fun r => { r with status := .retry, dueAt := now, attempts := 0, lastError := "" }

/-- The mail provider has confirmed the acceptance of a row whose outcome was unknown
    (`ConfirmEmailAcceptance`). -/
def confirmEmailAcceptance (id : String) (now : Time) : Except EmailError Database :=
  db.updateDelivery id (·.status = .uncertain) fun r =>
    { r with
      status := .sent
      sentAt := some now
      lastError := "smtp_acceptance_confirmed_by_root"
      leaseToken := none
      leaseUntil := none }

/-! ## Campaigns -/

/-- A new campaign is a draft (`CreateEmailCampaign`). -/
def createEmailCampaign (id : String) (mode : Frequency) : Except EmailError Database :=
  if id ∈ db.campaigns then .error .queueConflict
  else .ok { db with campaigns := db.campaigns.insert id ⟨1, mode, .draft⟩ }

/-- A draft is changed, on condition of its version (`SaveEmailCampaign`). -/
def saveEmailCampaign (id : String) (version : Nat) (mode : Frequency) :
    Except EmailError Database :=
  match db.campaigns.lookup id with
  | some c =>
    if c.version = version ∧ c.status = .draft then
      .ok { db with campaigns := db.campaigns.insert id ⟨version + 1, mode, .draft⟩ }
    else .error .queueConflict
  | none => .error .queueConflict

/-- A row is there already: under the identifier, or for the same campaign or step and the
    same user. -/
def taken (m : Message) : Bool :=
  (db.deliveries.lookup m.id).isSome || (rows db.deliveries).any fun r =>
      r.campaignID = m.campaignID && r.stepID = m.stepID && r.userID = m.userID

/-- A new row. -/
def newDelivery (m : Message) (due : Time) : Delivery :=
  { m with
    status := .queued
    attempts := 0
    dueAt := due
    leaseToken := none
    leaseUntil := none
    sentAt := none
    lastError := "" }

/-- The new rows are written; one that is there already is left as it is
    (`InsertEmailDeliveries`). -/
def insertEmailDeliveries (rows : List (Message × Time)) : Database :=
  rows.foldl (fun db row =>
    if db.taken row.1 then db
    else { db with deliveries := db.deliveries.insert row.1.id (newDelivery row.1 row.2) }) db

/-- None of the new rows is there already, nor the same as another one. -/
def allNew : Database → List (Message × Time) → Bool
  | _, [] => true
  | db, row :: rows => !db.taken row.1 && allNew (db.insertEmailDeliveries [row]) rows

/-- A draft is queued for its recipients, all of them or none (`QueueEmailCampaign`). -/
def queueEmailCampaign (id : String) (version : Nat) (rows : List (Message × Time)) :
    Except EmailError Database :=
  match db.campaigns.lookup id with
  | some c =>
    if c.version = version ∧ c.status = .draft ∧ db.allNew rows then
      .ok ({ db with
        campaigns := db.campaigns.insert id { c with status := .queued, version := version + 1 } }
          |>.insertEmailDeliveries rows)
    else .error .queueConflict
  | none => .error .queueConflict

/-- A campaign is cancelled, with its rows that are not being sent (`CancelEmailCampaign`). -/
def cancelEmailCampaign (id : String) : Except EmailError Database :=
  match db.campaigns.lookup id with
  | some c =>
    if c.status = .draft ∨ c.status = .queued then
      .ok { db with
        campaigns :=
          db.campaigns.insert id { c with status := .cancelled, version := c.version + 1 }
        deliveries := mapRows (fun _ r =>
          if r.campaignID = some id ∧
              (r.status = .queued ∨ r.status = .retry ∨ r.status = .processing) then
            { r with status := .cancelled }
          else r) db.deliveries }
    else .error .queueConflict
  | none => .error .queueConflict

/-! ## Onboarding -/

/-- A step is there with its defaults, unless it is there already. -/
def ensureStep (id : StepID) (delayHours : Int) (now : Time) : Database :=
  if id ∈ db.steps then db
  else { db with steps := db.steps.insert id ⟨1, true, delayHours, now⟩ }

/-- The steps are there, each with its defaults unless it was saved (`ListOnboardingSteps`). -/
def listOnboardingSteps (now : Time) : Database :=
  ((db.ensureStep .hello 0 now).ensureStep .firstSteps 24 now).ensureStep .discoverMore 72 now

/-- A step is saved, on condition of its version. It is activated anew when it is enabled
    (`SaveOnboardingStep`). -/
def saveOnboardingStep (id : StepID) (s : OnboardingStep) (now : Time) :
    Except EmailError Database :=
  if s.delayHours < 0 ∨ s.delayHours > 720 ∨ (id = .hello ∧ s.delayHours ≠ 0) ∨
      (id ≠ .hello ∧ s.delayHours < 24) then .error .invalidStep
  else
    match db.steps.lookup id with
    | some old =>
      if old.version ≠ s.version then .error .queueConflict
      else .ok { db with
        steps := db.steps.insert id { s with
          version := s.version + 1
          activatedAt := if s.enabled ∧ (!old.enabled ∨ old.activatedAt.isZero) then now
            else old.activatedAt } }
    | none =>
      if s.version ≠ 0 then .error .queueConflict
      else .ok { db with
        steps := db.steps.insert id { s with
          version := 1
          activatedAt := if s.enabled then now else 0 } }

/-- The step before another one must have been sent, if there is a row for it
    (`OnboardingPredecessorSent`). -/
def onboardingPredecessorSent (m : Message) : Except EmailError Bool :=
  let previous : Option StepID :=
    match m.stepID with
    | some .firstSteps => some .hello
    | some .discoverMore => some .firstSteps
    | _ => none
  match previous with
  | none => .ok true
  | some _ =>
    match (rows db.deliveries).find? fun r =>
        r.userID = m.userID && r.stepID = previous && r.campaignID = none with
    | none => .ok true
    | some prior =>
      if prior.status = .suppressed ∨ prior.status = .cancelled then .error .onboardingStopped
      else .ok (prior.status = .sent)

/-! ## Preferences and suppressions -/

section

variable (userID : String)

/-- The preferences of a user (`GetEmailPreferences`). -/
def getEmailPreferences : Preferences := (db.preferences.lookup userID).getD {}

/-- The preferences of a user are saved, on condition of the version they are based on:
    zero for a user who has none (`SaveEmailPreferences`). -/
def saveEmailPreferences (p : Preferences) : Except EmailError Database :=
  match db.preferences.lookup userID with
  | none =>
    if p.version = 0 then
      .ok { db with preferences := db.preferences.insert userID { p with version := 1 } }
    else .error .preferenceConflict
  | some q =>
    if p.version ≠ 0 ∧ q.version = p.version then
      .ok { db with
        preferences := db.preferences.insert userID { p with version := p.version + 1 } }
    else .error .preferenceConflict

/-- The user wants no marketing messages (`UnsubscribeEmail`). -/
def unsubscribeEmail : Database :=
  { db with
    preferences := db.preferences.insert userID (match db.preferences.lookup userID with
      | none => { version := 1 }
      | some q =>
        { q with
          productUpdates := false
          tutorials := false
          offers := false
          version := q.version + 1 }) }

/-- How many marketing messages to a user were sent since `t`. -/
def sentSince (t : Time) : Nat :=
  (rows db.deliveries).countP fun r =>
    r.userID = userID && r.category.isSome && r.status = .sent && r.sentAt.any (t ≤ ·)

/-- A user may be sent a marketing message now: none has an unknown outcome, none was sent
    in the last seven days, at most two in the last thirty, and for a monthly reader none
    in the calendar month (`EmailFrequencyAvailable`). -/
def emailFrequencyAvailable (frequency : Frequency) (now : Time) : Bool :=
  !((rows db.deliveries).any fun r =>
    r.userID = userID && r.category.isSome && r.status = .uncertain) &&
  !(decide (1 ≤ db.sentSince userID (now - 7 * Time.day)) ||
    decide (3 ≤ db.sentSince userID (now - 30 * Time.day))) &&
  !(decide (frequency = .monthly) && decide (0 < db.sentSince userID (Calendar.naturalMonth now).1))

end

section

variable [Unicode] (email : String)

/-- How addresses are written in the tables. -/
def normalizeEmail : String := Text.toLower (Text.trimSpace email)

/-- An address is suppressed (`EmailSuppressed`). -/
def emailSuppressed : Bool := db.suppressions.contains (normalizeEmail email)

/-- An address is suppressed from now on (`PutEmailSuppression`). -/
def putEmailSuppression : Database :=
  { db with suppressions := db.suppressions.insert (normalizeEmail email) }

end

/-! ## What the writes do -/

variable {db} {db' : Database} {row : Delivery} {now : Time}

theorem updateDelivery_ok {id : String} {p : Delivery → Bool} {f : Delivery → Delivery} :
    db.updateDelivery id p f = .ok db' ↔ ∃ r, db.deliveries.lookup id = some r ∧ p r = true ∧
      db' = { db with deliveries := db.deliveries.insert id (f r) } := by
  rw [updateDelivery]
  rcases hr : db.deliveries.lookup id with _ | r
  · simp
  dsimp only
  split_ifs with hp
  · constructor
    · intro h
      cases h
      exact ⟨r, rfl, hp, rfl⟩
    · rintro ⟨_, ⟨⟩, -, rfl⟩
      rfl
  · simp [hp]

end Database

end Accounts.Email

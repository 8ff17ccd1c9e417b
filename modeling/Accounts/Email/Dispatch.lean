import Accounts.Base.Run
import Accounts.Email.Queue

/-!
# The dispatch of e-mail

Any number of workers take deliveries from the queue and send them
(`dispatchEmailBatch`, `processEmailDelivery`), while operators retry, confirm and cancel,
campaigns are launched, users enrolled, and preferences change. A worker may stop for any
time before each of its calls, and it may crash (`Action.crash`): then its row stays as it
is until a sweep finds it.

* `Worker`: where a worker is. Before it sends it has a long list of checks to make
  (`Check`), each of which reads the tables, or another store (`Job.run`).
* `Attempt`: what became of a claim. The tables do not know it: the mail server may accept
  a message (`Action.accept`) long after its worker is gone. A reply with a code of 4xx or
  5xx is taken to say that the message was not accepted. It may also be the reply to
  `QUIT`, which `Send` returns after the message was accepted (`Progress.denied`); a server
  that gives no such reply is `conclusive`. Any other failure says nothing.
* `System.step`: one call of one party. A call that reads and then writes without a
  transaction is two steps. Every step has its own reading of the clock.
-/

namespace Accounts.Email

/-! ## Workers -/

/-- What a worker reads of an account. -/
structure Account where
  email : String
  active : Bool
  emailVerified : Bool
  createdAt : Time

/-- What the mail server answers, as `Send` returns it. -/
inductive Smtp
  | ok
  | code (n : Nat)
  | error

/-- What the other parties answer to a call of a worker: it may fail, an account may be
    found, and it may be asked whether an address is blacklisted, an audience still
    matches, or the settings of the sender are valid. -/
structure Reply where
  failed : Bool := false
  account : Option Account := none
  yes : Bool := false
  smtp : Smtp := .error

/-- The calls of `ClaimEmailDelivery`. -/
inductive Claiming
  | sweepSending
  | sweepProcessing
  | select
  | trying (candidates : List Delivery)

/-- The calls of `processEmailDelivery` and `prepareEmail` between the account and the
    last write. -/
inductive Check
  | suppression | blacklist | onboarding | campaign | audience | consent | predecessor
  | preferences | frequency
  | settings | link
  | recipient | profile | footer | preferencesLink | unsubscribeLink | latest
  deriving DecidableEq

/-- The variables of `processEmailDelivery`: the claimed row, the account, the delivery
    mode, the preferences, and the version of the consent. The time of the check of the
    frequency is not one of them; it is recorded for the proofs. -/
structure Job where
  row : Delivery
  user : Account
  mode : Frequency
  preferences : Preferences := {}
  consentVersion : Nat := 0
  checkedAt : Time := 0

/-- Where a worker is. -/
inductive Worker
  | idle
  | claiming (now : Time) (stage : Claiming)
  | fetching (row : Delivery)
  | checking (job : Job) (check : Check)
  | marking (job : Job)
  | marked (row : Delivery)
  | waiting (row : Delivery)
  | finishing (row : Delivery) (status : Status) (reason : String)
  | deferring (row : Delivery) (due : Time) (reason : String)

/-- The row is to be finished. After the third attempt there is no retry. -/
def finish (row : Delivery) (status : Status) (reason : String) : Worker :=
  .finishing row (if status = .retry ∧ 3 ≤ row.attempts then .failed else status) reason

namespace Job

variable (db : Database) (now : Time) (reply : Reply) (job : Job)

/-- The message could not be prepared. -/
def unprepared : Worker :=
  if 3 ≤ job.row.attempts then finish job.row .failed "preparation_failed"
  else finish job.row .retry "preparation_unavailable"

/-- The next call when the consent is settled: a message of a step waits for the step before. -/
def afterConsent : Worker :=
  if job.row.stepID.isSome then .checking job .predecessor
  else if job.row.category.isSome then .checking job .preferences
  else .checking job .settings

/-- The next call when the step or the campaign is settled. -/
def afterSource : Worker :=
  if job.row.category.isSome then .checking job .consent else afterConsent job

/-- The category of the row is allowed; a transactional message has none. -/
def allowed (p : Preferences) : Bool :=
  job.row.category.any (emailCategoryAllowed p)

/-- The account is still the one that the row is for. -/
def reachable [Unicode] (row : Delivery) (u : Account) : Bool :=
  u.active && u.emailVerified && Text.equalFold u.email row.email

/-- The account is still the one that the message was made for (`prepareEmail`). -/
def deliverable [Unicode] (row : Delivery) (u : Account) : Bool :=
  u.active && u.emailVerified &&
    (row.email == "" || Text.equalFold (Text.trimSpace u.email) row.email)

/-- One call, and what the worker does next. -/
def run [Unicode] : Check → Worker
  | .suppression =>
    if reply.failed then finish job.row .retry "suppression_lookup_unavailable"
    else if db.emailSuppressed job.user.email then
      finish job.row .suppressed "delivery_suppression"
    else .checking job .blacklist
  | .blacklist =>
    if reply.failed then finish job.row .retry "blacklist_lookup_unavailable"
    else if reply.yes then finish job.row .suppressed "email_blacklisted"
    else if job.row.stepID.isSome then .checking job .onboarding
    else .checking job .campaign
  | .onboarding =>
    if reply.failed then finish job.row .retry "onboarding_lookup_unavailable"
    else if (job.row.stepID.bind db.steps.lookup).any fun step =>
        step.enabled && !decide (job.user.createdAt < step.activatedAt) then afterSource job
    else finish job.row .cancelled "onboarding_disabled"
  | .campaign =>
    if reply.failed then finish job.row .retry "campaign_lookup_unavailable"
    else
      match job.row.campaignID.bind db.campaigns.lookup with
      | none => finish job.row .retry "campaign_lookup_unavailable"
      | some campaign =>
        if campaign.status = .cancelled then finish job.row .cancelled "campaign_cancelled"
        else .checking job .audience
  | .audience =>
    if reply.failed then finish job.row .retry "audience_lookup_unavailable"
    else if reply.yes then afterSource job
    else finish job.row .suppressed "audience_changed"
  | .consent =>
    if reply.failed then finish job.row .retry "consent_lookup_unavailable"
    else if job.allowed (db.getEmailPreferences job.row.userID) then afterConsent job
    else finish job.row .suppressed "consent_revoked"
  | .predecessor =>
    if reply.failed then finish job.row .retry "onboarding_order_unavailable"
    else
      match db.onboardingPredecessorSent job.row.toMessage with
      | .error _ => finish job.row .cancelled "previous_step_stopped"
      | .ok false => .deferring job.row (now + Time.day) "waiting_for_previous_step"
      | .ok true =>
        if job.row.category.isSome then .checking job .preferences else .checking job .settings
  | .preferences =>
    if reply.failed then finish job.row .retry "consent_lookup_unavailable"
    else if job.allowed (db.getEmailPreferences job.row.userID) then
      .checking { job with preferences := db.getEmailPreferences job.row.userID } .frequency
    else finish job.row .suppressed "consent_revoked"
  | .frequency =>
    if reply.failed then finish job.row .retry "frequency_lookup_unavailable"
    else if db.emailFrequencyAvailable job.row.userID job.preferences.frequency now then
      .checking { job with
        mode := if job.row.stepID.isSome then job.preferences.frequency else job.mode
        checkedAt := now } .recipient
    else if job.row.stepID.isSome then
      .deferring job.row (if job.preferences.frequency = .monthly then (Calendar.naturalMonth now).2
        else now + 7 * Time.day) "deferred_by_frequency"
    else finish job.row .suppressed "frequency_cap"
  | .settings =>
    if reply.failed then finish job.row .retry "sender_settings_unavailable"
    else if reply.yes then .checking job .link
    else finish job.row .failed "sender_settings_required"
  | .link =>
    if reply.failed then finish job.row .retry "preference_link_unavailable"
    else .marking job
  | .recipient =>
    if !reply.failed && reply.account.any (deliverable job.row) then .checking job .profile
    else finish job.row .suppressed "consent_or_frequency"
  | .profile =>
    let p := db.getEmailPreferences job.row.userID
    if reply.failed then unprepared job
    else if job.allowed p && decide (p.frequency = job.mode) then
      .checking { job with consentVersion := p.version } .footer
    else finish job.row .suppressed "consent_or_frequency"
  | .footer =>
    if !reply.failed && reply.yes then .checking job .preferencesLink else unprepared job
  | .preferencesLink => if reply.failed then unprepared job else .checking job .unsubscribeLink
  | .unsubscribeLink => if reply.failed then unprepared job else .checking job .latest
  | .latest =>
    if reply.failed then unprepared job
    else if (db.getEmailPreferences job.row.userID).version = job.consentVersion then .marking job
    else finish job.row .suppressed "consent_or_frequency"

end Job

/-- The account of a row was looked up. -/
def fetched [Unicode] (row : Delivery) (reply : Reply) : Worker :=
  if reply.failed then finish row .retry "account_lookup_unavailable"
  else
    match reply.account with
    | none => finish row .suppressed "account_missing"
    | some u =>
      if Job.reachable row u then
        .checking { row := row, user := u, mode := row.deliveryMode } .suppression
      else finish row .suppressed "account_or_mailbox_changed"

/-- What a worker makes of the answer of the mail server. -/
def answered (row : Delivery) : Smtp → Worker
  | .ok => finish row .sent ""
  | .code n =>
    if 400 ≤ n ∧ n < 500 then
      if row.attempts < 3 then finish row .retry "smtp_temporary_rejection"
      else finish row .failed "smtp_retry_exhausted"
    else if 500 ≤ n ∧ n < 600 then finish row .failed "smtp_rejected"
    else finish row .uncertain "smtp_outcome_unknown_verify_before_retry"
  | .error => finish row .uncertain "smtp_outcome_unknown_verify_before_retry"

/-! ## The system -/

/-- What became of a claim: the row was marked as sending, the message was handed to the
    mail server, and the server accepted or refused it. A message that was accepted is
    denied if the worker gets a refusal all the same. -/
inductive Progress
  | claimed
  | marked
  | submitted
  | accepted (t : Time)
  | rejected
  | denied (t : Time)
  deriving DecidableEq

namespace Progress

/-- The message was accepted, and not denied. -/
def isAccepted : Progress → Bool
  | accepted _ => true
  | _ => false

/-- When the message was accepted. -/
def acceptedAt : Progress → Option Time
  | accepted t | denied t => some t
  | _ => none

/-- The worker gets a refusal. -/
def refuse : Progress → Progress
  | accepted t => denied t
  | _ => rejected

end Progress

/-- A claim of a delivery. Its token is its place in the list of claims. The epoch is the
    number of acknowledged retries of the delivery when it was marked as sending. -/
structure Attempt where
  deliveryID : String
  userID : String
  category : Option Category
  worker : Nat
  progress : Progress := .claimed
  markedAt : Time := 0
  epoch : Nat := 0

/-- The tables, the workers, the retries of operators that have passed their checks, the
    claims, the acknowledged retries so far, and the last reading of a clock. -/
structure System where
  db : Database := {}
  workers : Nat → Worker := fun _ => .idle
  operators : Nat → Option (String × Bool) := fun _ => none
  attempts : List Attempt := []
  acknowledged : List String := []
  clock : Time

/-- A recipient of a campaign, with the identifier of their delivery. -/
structure Recipient where
  deliveryID : String
  userID : String
  email : String

/-- A call of some party, or what happens outside. -/
inductive Action
  | advance (w : Nat) (reply : Reply)
  | crash (w : Nat)
  | accept (token : Nat)
  | checkRetry (o : Nat) (id : String) (ackUnknown : Bool)
  | retry (o : Nat)
  | confirm (id : String)
  | createCampaign (id : String) (mode : Frequency)
  | saveCampaign (id : String) (version : Nat) (mode : Frequency)
  | launch (id : String) (version : Nat) (recipients : List Recipient)
  | cancel (id : String)
  | listSteps
  | saveStep (id : StepID) (step : OnboardingStep)
  | enroll (user : Recipient) (createdAt : Time) (steps : List (String × StepID × OnboardingStep))
  | save (userID : String) (p : Preferences)
  | unsubscribe (userID : String)
  | suppress (email : String)

/-- An action with its reading of the clock. -/
structure Event where
  now : Time
  action : Action

namespace System

variable (s : System)

/-- A worker moves. -/
def setWorker (w : Nat) (x : Worker) : System := { s with workers := Function.update s.workers w x }

/-- A claim gets on. -/
def setProgress (token : Option Nat) (f : Progress → Progress) : System :=
  match token with
  | none => s
  | some token =>
    { s with attempts := s.attempts.modify token fun a => { a with progress := f a.progress } }

/-- The tables after a call; a call that is refused changes nothing. -/
def write (x : Except EmailError Database) : System :=
  match x with
  | .ok db => { s with db := db }
  | .error _ => s

/-- The first candidate is claimed, or else the worker goes on to the next one. -/
def tryClaim (w : Nat) (t : Time) (c : Delivery) (cs : List Delivery) : System :=
  match s.db.claimCandidate c s.attempts.length t with
  | .ok db =>
    { s with
      db := db
      attempts := s.attempts ++ [Attempt.mk c.id c.userID c.category w .claimed 0 0] }.setWorker w
        (.fetching (Database.claimedRow c s.attempts.length t))
  | .error _ => s.setWorker w (.claiming t (.trying cs))

/-- The last write before the send. -/
def mark (w : Nat) (job : Job) (now : Time) : System :=
  match s.db.markEmailSending job.row job.consentVersion now with
  | .ok db =>
    { s with
      db := db
      attempts := s.attempts.modify (job.row.leaseToken.getD s.attempts.length) fun a =>
        { a with
          progress := .marked
          markedAt := now
          epoch := s.acknowledged.count job.row.id } }.setWorker w (.marked job.row)
  | .error _ => s.setWorker w (finish job.row .suppressed "eligibility_changed_before_send")

/-- The mail server has accepted the message of a claim. -/
def accepted (token : Option Nat) : Bool :=
  (token.bind (s.attempts[·]?)).any (·.progress.isAccepted)

/-- The answer of the mail server. A message that was not accepted is not confirmed. A
    refusal may come after the message was accepted, as the reply to `QUIT`. -/
def receive (w : Nat) (row : Delivery) : Smtp → System
  | .ok => if s.accepted row.leaseToken then s.setWorker w (answered row .ok) else s
  | .code n =>
    if 400 ≤ n ∧ n < 600 then
      (s.setProgress row.leaseToken .refuse).setWorker w (answered row (.code n))
    else s.setWorker w (answered row (.code n))
  | .error => s.setWorker w (answered row .error)

/-- A worker makes its next call. -/
def advance [Unicode] (w : Nat) (reply : Reply) (now : Time) : System :=
  match s.workers w with
  | .idle => s.setWorker w (.claiming now .sweepSending)
  | .claiming t .sweepSending =>
    { s with db := s.db.sweepSending t }.setWorker w (.claiming t .sweepProcessing)
  | .claiming t .sweepProcessing =>
    { s with db := s.db.sweepProcessing t }.setWorker w (.claiming t .select)
  | .claiming t .select => s.setWorker w (.claiming t (.trying (s.db.candidates t)))
  | .claiming _ (.trying []) => s.setWorker w .idle
  | .claiming t (.trying (c :: cs)) => s.tryClaim w t c cs
  | .fetching row => s.setWorker w (fetched row reply)
  | .checking job .onboarding =>
    { s with db := s.db.listOnboardingSteps now }.setWorker w
      (job.run (s.db.listOnboardingSteps now) now reply .onboarding)
  | .checking job check => s.setWorker w (job.run s.db now reply check)
  | .marking job => s.mark w job now
  | .marked row => (s.setProgress row.leaseToken fun _ => .submitted).setWorker w (.waiting row)
  | .waiting row => s.receive w row reply.smtp
  | .finishing row status reason =>
    (s.write (s.db.finishEmailDelivery row status reason
      (now + Time.minute * (row.attempts * row.attempts)) now)).setWorker w .idle
  | .deferring row due reason =>
    (s.write (s.db.deferEmailDelivery row due reason)).setWorker w .idle

/-- The mail server accepts a message that it was handed. -/
def accept (token : Nat) (now : Time) : System :=
  match s.attempts[token]? with
  | some a =>
    if a.progress = .submitted then s.setProgress (some token) fun _ => .accepted now else s
  | none => s

/-- An operator begins a retry. -/
def checkRetry (o : Nat) (id : String) (ackUnknown : Bool) : System :=
  match s.db.checkRetry id with
  | .ok _ => { s with operators := Function.update s.operators o (some (id, ackUnknown)) }
  | .error _ => s

/-- An operator ends a retry. It counts as acknowledged when the outcome was unknown. -/
def retry (o : Nat) (now : Time) : System :=
  match s.operators o with
  | none => s
  | some (id, ackUnknown) =>
    match s.db.retryEmailDelivery id ackUnknown now with
    | .error _ => { s with operators := Function.update s.operators o none }
    | .ok db =>
      { s with
        db := db
        operators := Function.update s.operators o none
        acknowledged :=
          if (s.db.deliveries.lookup id).any (·.status = .uncertain) then id :: s.acknowledged
          else s.acknowledged }

/-- The rows of a campaign (`launchEmailCampaign`). -/
def campaignRows [Unicode] (id : String) (mode : Frequency) (now : Time)
    (recipients : List Recipient) : List (Message × Time) :=
  recipients.map fun u =>
    (⟨u.deliveryID, some id, none, u.userID, Database.normalizeEmail u.email, some .productUpdates,
      mode, now⟩, now)

/-- A campaign is queued for its recipients. -/
def launch [Unicode] (id : String) (version : Nat) (recipients : List Recipient) (now : Time) :
    System :=
  match s.db.campaigns.lookup id with
  | none => s
  | some c =>
    s.write (s.db.queueEmailCampaign id version (campaignRows id c.deliveryMode now recipients))

/-- The rows of a user for the steps that were enabled when the account was created, each
    with its new identifier (`enrollEmailOnboarding`). -/
def onboardingRows [Unicode] (user : Recipient) (createdAt now : Time)
    (steps : List (String × StepID × OnboardingStep)) : List (Message × Time) :=
  (steps.filter fun x => x.2.2.enabled && !createdAt.isZero &&
    !decide (createdAt < x.2.2.activatedAt)).map fun x =>
    (⟨x.1, none, some x.2.1, user.userID, Database.normalizeEmail user.email,
      if x.2.1 = .hello then none else some .tutorials, .important, now⟩,
      createdAt + x.2.2.delayHours * Time.hour)

/-- What an action does. -/
def act [Unicode] (now : Time) : Action → System
  | .advance w reply => s.advance w reply now
  | .crash w => s.setWorker w .idle
  | .accept token => s.accept token now
  | .checkRetry o id ackUnknown => s.checkRetry o id ackUnknown
  | .retry o => s.retry o now
  | .confirm id => s.write (s.db.confirmEmailAcceptance id now)
  | .createCampaign id mode => s.write (s.db.createEmailCampaign id mode)
  | .saveCampaign id version mode => s.write (s.db.saveEmailCampaign id version mode)
  | .launch id version recipients => s.launch id version recipients now
  | .cancel id => s.write (s.db.cancelEmailCampaign id)
  | .listSteps => { s with db := s.db.listOnboardingSteps now }
  | .saveStep id step => s.write (s.db.saveOnboardingStep id step now)
  | .enroll user createdAt steps =>
    { s with db := s.db.insertEmailDeliveries (onboardingRows user createdAt now steps) }
  | .save userID p => s.write (s.db.saveEmailPreferences userID p)
  | .unsubscribe userID => { s with db := s.db.unsubscribeEmail userID }
  | .suppress email => { s with db := s.db.putEmailSuppression email }

/-- A step of the system. -/
def step [Unicode] (s : System) (e : Event) : System := { s.act e.now e.action with clock := e.now }

/-- The system before anything happens. -/
def start (t : Time) : System := { clock := t }

/-- The claims of a delivery for which the mail server accepted the message. -/
def acceptances (id : String) : List Nat :=
  (List.range s.attempts.length).filter fun n =>
    s.attempts[n]?.any fun a => a.deliveryID = id && a.progress.acceptedAt.isSome

/-- The mail server does not refuse what it has accepted: a reply of 4xx or 5xx means that
    the message was not accepted. -/
def conclusive (e : Event) : Bool :=
  match e.action with
  | .advance w reply =>
    match s.workers w, reply.smtp with
    | .waiting row, .code n => !(decide (400 ≤ n ∧ n < 600) && s.accepted row.leaseToken)
    | _, _ => true
  | _ => true

end System

end Accounts.Email

import Accounts.Base.Check
import Accounts.Finance.Ledger

/-!
# Referral rewards and their settlements

The referral programme as it is kept in Postgres
(`internal/store/referral_postgres.go` with the tables of
`sql/migrations/2026101301_referral_program.up.sql`). An invited account that
pays for the first time earns its referrer a reward. The referrer asks for the
rewards to be settled (`requestReferralSettlement`), and the settlement is
completed, reconciled with a payment made elsewhere, or rejected. A refund or a
dispute of the payment (`recordReferralRisk`) and an administrator
(`reverseReferralReward`) reverse a reward; what was paid for it is taken off the
next settlement, as a negative item.

A call is one transaction: it fails and leaves the tables as they are, or
succeeds. The payments and subscriptions of an account are read elsewhere, and
an action carries what was found.
-/

namespace Accounts.Referrals

open Text Table

/-! ## Tables -/

inductive RewardStatus
  | pending
  | eligible
  | settled
  | reversed
  deriving DecidableEq

inductive SettlementStatus
  | pendingReview
  | paid
  | rejected
  deriving DecidableEq

inductive ExtensionStatus
  | applied
  | reversed
  deriving DecidableEq

inductive RiskType
  | refund
  | dispute
  deriving DecidableEq

/-- The type of a risk as it is stored. -/
def RiskType.text : RiskType → String
  | .refund => "refund"
  | .dispute => "dispute"

/-- Who invited an account. -/
structure Referral where
  id : String
  referrerUUID : String

/-- The reward for the first payment of an invited account. -/
structure ReferralReward where
  id : String := ""
  referralID : String := ""
  providerInvoiceID : String
  referrerUUID : String := ""
  inviteeUUID : String
  planID : String
  productSlug : String
  paidMinor : Int
  rewardMinor : Int
  currency : String
  paidAt : Time := 0
  eligibleAt : Time := 0
  annualDays : Nat := 0
  status : RewardStatus := .pending

/-- A refund or a dispute of an invoice. -/
structure ReferralPaymentRisk where
  sourceKey : String
  providerInvoiceID : String
  type : RiskType
  reason : String
  occurredAt : Time

/-- What was awarded for a reward, or taken back. Nothing is recorded for a reward of no amount. -/
structure RewardEvent where
  sourceKey : String
  amountMinor : Int
  amountMinor_pos : 0 < amountMinor
  reason : String

/-- A payout of rewards. -/
structure ReferralSettlement where
  id : String
  referrerUUID : String
  currency : String
  amountMinor : Int
  status : SettlementStatus := .pendingReview
  payoutReference : String := ""
  reason : String := ""
  requestedAt : Time
  completedAt : Option Time := none

/-- Days added to a subscription for a reward. -/
structure SubscriptionExtension where
  userUUID : String
  subscriptionUUID : String
  days : Nat
  effectiveFrom : Time
  effectiveUntil : Time
  status : ExtensionStatus := .applied
  reversalSourceKey : Option String := none

/-- The tables: the referrals by the invited account, the events and the extensions by their reward
    (one of each kind), the items by their settlement and reward. -/
structure Store where
  referrals : Table String Referral
  rewards : Table String ReferralReward
  risks : Table String ReferralPaymentRisk
  awards : Table String RewardEvent
  reversals : Table String RewardEvent
  settlements : Table String ReferralSettlement
  items : Table (String × String) Int
  extensions : Table String SubscriptionExtension

/-- The tables before the first reward. -/
def Store.init (referrals : Table String Referral) : Store :=
  ⟨referrals, ∅, ∅, ∅, ∅, ∅, ∅, ∅⟩

/-- Why a call is refused. -/
inductive ReferralError
  | notFound
  | settlementUnavailable
  | settlementRisk
  | riskInvalid
  /-- A constraint of the tables does not hold. -/
  | uniqueViolation
  | checkViolation
  | outOfRange
  deriving DecidableEq

/-! ## What the queries select -/

namespace Store

section

variable (s : Store)

/-- The status of a settlement. -/
def status (settlementID : String) : Option SettlementStatus :=
  (s.settlements.lookup settlementID).map (·.status)

/-- A settlement in review or paid: its items are reserved. -/
def isOpen (settlementID : String) : Bool :=
  s.status settlementID == some .pendingReview || s.status settlementID == some .paid

/-- The invoice was refunded or disputed. -/
def atRisk (providerInvoiceID : String) : Bool :=
  (rows s.risks).any (·.providerInvoiceID == providerInvoiceID)

/-- Some item of the reward meets a condition on its settlement and its amount. -/
def hasItem (rewardID : String) (p : String → Int → Bool) : Bool :=
  s.items.entries.any fun item => item.1.2 == rewardID && p item.1.1 item.2

/-- Some positive item of the settlement meets a condition on its reward. -/
def hasPositiveReward (settlementID : String) (p : ReferralReward → Bool) : Bool :=
  s.items.entries.any fun item => item.1.1 == settlementID && decide (0 < item.2) &&
    (s.rewards.lookup item.1.2).any p

end

section

variable (s : Store) (referrerUUID currency : String)

/-- The reward can be part of a new settlement. -/
def settles (now : Time) (reward : ReferralReward) : Bool :=
  reward.referrerUUID == referrerUUID && reward.currency == currency &&
    (reward.status == .pending || reward.status == .eligible) && decide (reward.eligibleAt ≤ now) &&
    !s.atRisk reward.providerInvoiceID && !s.hasItem reward.id fun settlement _ =>
      s.isOpen settlement

/-- The rewards of a new settlement, with their amounts. -/
def eligibleItems (now : Time) : List (String × Int) :=
  ((rows s.rewards).filter (s.settles referrerUUID currency now)).map fun reward =>
    (reward.id, reward.rewardMinor)

/-- What was paid for the reward is still to be taken back. -/
def clawsBack (rewardID : String) : Bool :=
  (s.rewards.lookup rewardID).any (fun reward =>
      reward.referrerUUID == referrerUUID && reward.currency == currency) &&
    s.hasItem rewardID (fun settlement amount =>
      decide (0 < amount) && s.status settlement == some .paid) &&
    !s.hasItem rewardID fun settlement amount => decide (amount < 0) && s.isOpen settlement

/-- The reversed rewards that are taken off a new settlement, with the amounts. -/
def clawBackItems : List (String × Int) :=
  (s.reversals.entries.filter fun event => s.clawsBack referrerUUID currency event.1).map
    fun event => (event.1, -event.2.amountMinor)

end

/-- Another event has the same source. -/
def sourceTaken (s : Store) (sourceKey : String) : Bool :=
  (rows s.awards ++ rows s.reversals).any (·.sourceKey == sourceKey)

end Store

/-! ## Rewards -/

section

variable [Unicode]

/-- The plans whose first payment is rewarded. -/
def isXConnectReferralPlan (planID : String) : Bool :=
  ["PRO-MONTHLY", "PRO-YEARLY", "PRO-MONTHLY-V2", "PRO-YEARLY-V2"].contains
    (toUpper (trimSpace planID))

/-- The plans whose first payment also extends the subscription of the referrer. -/
def isXConnectAnnualReferralPlan (planID : String) : Bool :=
  ["PRO-YEARLY", "PRO-YEARLY-V2"].contains (toUpper (trimSpace planID))

/-- A reward that can be recorded. -/
def ReferralReward.valid (reward : ReferralReward) : Bool :=
  trimSpace reward.providerInvoiceID != "" && decide (0 < reward.paidMinor) &&
    reward.rewardMinor == reward.paidMinor / 10 &&
    Finance.validFinanceCurrency (toUpper (trimSpace reward.currency)) &&
    reward.productSlug == "xconnect" && isXConnectReferralPlan reward.planID

/-- A reward as it is recorded, with its defaults. -/
def ReferralReward.recorded (env : Env) (referral : Referral) (annualDays : Nat)
    (reward : ReferralReward) : ReferralReward :=
  let paidAt := if reward.paidAt.isZero then env.now else reward.paidAt
  { reward with
    id := env.uuid.val
    referralID := referral.id
    referrerUUID := referral.referrerUUID
    inviteeUUID := trimSpace reward.inviteeUUID
    currency := toUpper (trimSpace reward.currency)
    paidAt := paidAt
    eligibleAt := if reward.eligibleAt.isZero then paidAt + 7 * Time.day else reward.eligibleAt
    annualDays := annualDays
    status := .pending }

section

variable (s : Store) (reward : ReferralReward)

/-- A row of the table with the same key as the reward: its identifier, its
    referral or its invoice. -/
def Store.rewardTaken : Bool :=
  (rows s.rewards).any fun other => other.id == reward.id ||
    other.referralID == reward.referralID || other.providerInvoiceID == reward.providerInvoiceID

/-- The tables with a new reward, what was awarded for it and the days added to
    the subscription `annual`, which ends at the given time. -/
def Store.insertReward (annual : Option (String × Time)) : Except ReferralError Store :=
  let key := "award:" ++ reward.providerInvoiceID
  if 0 < reward.rewardMinor ∧ s.sourceTaken key then .error .uniqueViolation else
  .ok { s with
    rewards := s.rewards.insert reward.id reward
    awards := if h : 0 < reward.rewardMinor then
      s.awards.insert reward.id
        ⟨key, reward.rewardMinor, h, "first verified paid XConnect subscription invoice"⟩
      else s.awards
    extensions := match annual with
      | none => s.extensions
      | some (subscription, annualEnd) => s.extensions.insert reward.id
        { userUUID := reward.referrerUUID
          subscriptionUUID := subscription
          days := 30
          effectiveFrom := annualEnd
          effectiveUntil := annualEnd + 30 * Time.day } }

end

/-- The subscription that the reward extends: that of the referrer, for a yearly plan. -/
def ReferralReward.annual (reward : ReferralReward) (annual : Option (String × Time)) :
    Option (String × Time) :=
  if isXConnectAnnualReferralPlan reward.planID then annual else none

/-- Recording the reward for the first payment of an invited account; whether it was recorded comes
    with the tables. `firstPaid` says that the account has no earlier payment, `annual` is the
    subscription of the referrer that runs longest, with its end. -/
def createReferralReward (env : Env) (s : Store) (reward : ReferralReward) (firstPaid : Bool)
    (annual : Option (String × Time)) : Except ReferralError (Store × Bool) :=
  if ¬ reward.valid then .error .notFound else
  let invitee := trimSpace reward.inviteeUUID
  match s.referrals.lookup invitee with
  | none => .error .notFound
  | some referral =>
    if reward.referrerUUID ≠ "" ∧ referral.referrerUUID ≠ trimSpace reward.referrerUUID then
      .error .notFound else
    if (rows s.rewards).any (·.inviteeUUID == invitee) ∨
        s.atRisk (trimSpace reward.providerInvoiceID) then .ok (s, false) else
    if ¬ firstPaid then .ok (s, false) else
    let annual := reward.annual annual
    let recorded := reward.recorded env referral (if annual.isSome then 30 else 0)
    if s.rewardTaken recorded then .ok (s, false) else
    (s.insertReward recorded annual).map fun s => (s, true)

end

/-! ## Reversals -/

section

variable (s : Store)

/-- A reward is reversed, once; what was awarded is taken back by an event. -/
def Store.reverse (reward : ReferralReward) (sourceKey reason : String) :
    Except ReferralError Store :=
  if reward.status = .reversed then .ok s else
  let s' := { s with rewards := s.rewards.insert reward.id { reward with status := .reversed } }
  if h : 0 < reward.rewardMinor then
    if reward.id ∈ s.reversals then .ok s' else
    if s.sourceTaken sourceKey then .error .uniqueViolation else
    .ok { s' with
      reversals := s.reversals.insert reward.id ⟨sourceKey, reward.rewardMinor, h, reason⟩ }
  else .ok s'

/-- The days added for a reward are taken back. -/
def Store.reverseExtension (rewardID sourceKey : String) : Except ReferralError Store :=
  match s.extensions.lookup rewardID with
  | none => .ok s
  | some extension =>
    if extension.status ≠ .applied then .ok s else
    if (rows s.extensions).any (·.reversalSourceKey == some sourceKey) then
      .error .uniqueViolation else
    .ok { s with
      extensions := s.extensions.insert rewardID
        { extension with status := .reversed, reversalSourceKey := some sourceKey } }

/-- Changing the settlements in review that have an item of the reward with a
    condition on its amount. -/
def Store.updateInReview (rewardID : String) (p : Int → Bool)
    (f : ReferralSettlement → ReferralSettlement) : Store :=
  { s with
    settlements := mapRows (fun id settlement =>
      if settlement.status = .pendingReview ∧ s.hasItem rewardID (fun id' amount =>
        id' == id && p amount) then f settlement else settlement) s.settlements }

/-- A reward is reversed with all that was made of it: the settlements in review that have an item
    of it, with a condition on the amount, are changed, and the days added for it are taken back. -/
def Store.takeBack (reward : ReferralReward) (sourceKey reason : String) (p : Int → Bool)
    (f : ReferralSettlement → ReferralSettlement) : Except ReferralError Store := do
  let s ← s.reverse reward sourceKey reason
  (s.updateInReview reward.id p f).reverseExtension reward.id sourceKey

/-- The reward of an invoice. -/
def Store.rewardOf (providerInvoiceID : String) : Option ReferralReward :=
  (rows s.rewards).find? (·.providerInvoiceID == providerInvoiceID)

/-- The tables with a risk, which is recorded once for its source. -/
def Store.insertRisk (risk : ReferralPaymentRisk) : Store :=
  if risk.sourceKey ∈ s.risks then s else
  { s with risks := s.risks.insert risk.sourceKey risk }

/-- Recording a refund or a dispute. Settlements with the reward stay reserved. -/
def recordReferralRisk (risk : ReferralPaymentRisk) : Except ReferralError Store :=
  if trimSpace risk.sourceKey = "" ∨ trimSpace risk.providerInvoiceID = "" then
    .error .riskInvalid else
  let s := s.insertRisk risk
  match s.rewardOf risk.providerInvoiceID with
  | none => .ok s
  | some reward =>
    s.takeBack reward ("risk:" ++ risk.sourceKey) (risk.type.text ++ ": " ++ risk.reason) (0 < ·)
      fun settlement => { settlement with reason := "payment risk hold: " ++ risk.type.text }

/-- Reversing a reward by hand. Settlements in review with the reward are rejected. -/
def reverseReferralReward (rewardID sourceKey reason : String) (now : Time) :
    Except ReferralError Store :=
  match s.rewards.lookup rewardID with
  | none => .error .notFound
  | some reward =>
    if reward.status = .reversed then .ok s else
    s.takeBack reward ("manual:" ++ sourceKey) (trimSpace reason) (fun _ => true) fun settlement =>
        { settlement with
          status := .rejected
          reason := "reward reversed"
          completedAt := some now }

end

/-! ## Settlements -/

/-- Adding the items of a settlement. -/
def Store.insertItems (settlementID : String) :
    Store → List (String × Int) → Except ReferralError Store
  | s, [] => .ok s
  | s, (rewardID, amount) :: items =>
    if amount = 0 then .error .checkViolation else
    if (settlementID, rewardID) ∈ s.items then .error .uniqueViolation else
    insertItems settlementID { s with items := s.items.insert (settlementID, rewardID) amount } items

/-- Adding all that can be settled to a settlement, and what is to be taken back. -/
def Store.fill (s : Store) (settlementID referrerUUID currency : String) (now : Time) :
    Except ReferralError Store := do
  let s ← s.insertItems settlementID (s.eligibleItems referrerUUID currency now)
  s.insertItems settlementID (s.clawBackItems referrerUUID currency)

/-- Asking for a settlement of all that can be settled in a currency. -/
def requestReferralSettlement [Unicode] (env : Env) (s : Store) (referrerUUID currency : String)
    (now : Time) : Except ReferralError (Store × ReferralSettlement) :=
  let currency := toUpper (trimSpace currency)
  let amount := ((s.eligibleItems referrerUUID currency now).map Prod.snd).sum +
    ((s.clawBackItems referrerUUID currency).map Prod.snd).sum
  if amount ≤ 0 then .error .settlementUnavailable else
  if 2 ^ 63 ≤ amount then .error .outOfRange else
  if env.uuid.val ∈ s.settlements then .error .uniqueViolation else
  let settlement : ReferralSettlement :=
    { id := env.uuid.val
      referrerUUID := referrerUUID
      currency := currency
      amountMinor := amount
      requestedAt := env.now }
  let opened := { s with settlements := s.settlements.insert settlement.id settlement }
  (opened.fill settlement.id referrerUUID currency now).map fun s => (s, settlement)

/-- A paid settlement: its reference is that of no other, and its rewards are settled. -/
def Store.pay (s : Store) (settlement : ReferralSettlement) : Except ReferralError Store :=
  if s.settlements.entries.any fun other => other.1 != settlement.id &&
      other.2.status == .paid && other.2.payoutReference == settlement.payoutReference then
    .error .uniqueViolation else
  .ok { s with
    settlements := s.settlements.insert settlement.id settlement
    rewards := mapRows (fun rewardID reward =>
      if s.hasItem rewardID (fun id amount => id == settlement.id && decide (0 < amount)) ∧
        (reward.status = .pending ∨ reward.status = .eligible) then
        { reward with status := .settled } else reward) s.rewards }

section

variable (s : Store) (settlementID payoutReference : String)

/-- Completing a settlement in review with the reference of the payment. -/
def completeReferralSettlement (now : Time) : Except ReferralError (Store × ReferralSettlement) :=
  if trimSpace payoutReference = "" then .error .settlementUnavailable else
  match s.settlements.lookup settlementID with
  | none => .error .notFound
  | some settlement =>
    if settlement.status = .paid then
      if settlement.payoutReference ≠ trimSpace payoutReference then
        .error .settlementUnavailable else
      .ok (s, { settlement with completedAt := none })
    else
    if settlement.status ≠ .pendingReview then .error .settlementUnavailable else
    if s.hasPositiveReward settlementID (fun reward => s.atRisk reward.providerInvoiceID) then
      .error .settlementRisk else
    let paid := { settlement with
      id := settlementID
      status := .paid
      payoutReference := trimSpace payoutReference
      completedAt := some now }
    (s.pay paid).map fun s => (s, { paid with completedAt := none })

/-- Recording a payment that was made elsewhere for a settlement with a reversed reward. -/
def reconcileReferralSettlement (reason : String) (now : Time) :
    Except ReferralError (Store × ReferralSettlement) :=
  let payoutReference := trimSpace payoutReference
  let reason := trimSpace reason
  if payoutReference = "" ∨ reason = "" then .error .settlementUnavailable else
  match s.settlements.lookup settlementID with
  | none => .error .notFound
  | some settlement =>
    if settlement.status = .paid then
      if settlement.payoutReference ≠ payoutReference then .error .settlementUnavailable else
      .ok (s, settlement)
    else
    if ¬ s.hasPositiveReward settlementID (fun reward =>
        reward.status == .reversed || s.atRisk reward.providerInvoiceID) then
      .error .settlementUnavailable else
    let paid := { settlement with
      id := settlementID
      status := .paid
      payoutReference := payoutReference
      reason := left (settlement.reason ++ "; reconciled actual payment: " ++ reason) 1000
      completedAt := some now }
    (s.pay paid).map fun s => (s, paid)

end

/-- A payout reference is scanned as valid when the column is not null. It never
    is null: the column is declared `NOT NULL DEFAULT ''`. -/
def ReferralSettlement.payoutValid (_ : ReferralSettlement) : Bool := true

/-- Rejecting a settlement that has no payout reference. -/
def rejectReferralSettlement (s : Store) (settlementID reason : String) (now : Time) :
    Except ReferralError (Store × ReferralSettlement) :=
  let reason := trimSpace reason
  if reason = "" then .error .settlementUnavailable else
  match s.settlements.lookup settlementID with
  | none => .error .notFound
  | some settlement =>
    if settlement.status = .rejected ∧ ¬ settlement.payoutValid ∧ settlement.reason = reason then
      .ok (s, settlement)
    else if settlement.status = .pendingReview ∧ ¬ settlement.payoutValid then
      let rejected := { settlement with
        status := .rejected
        reason := left reason 1000
        completedAt := some now }
      .ok ({ s with settlements := s.settlements.insert settlementID rejected }, rejected)
    else .error .settlementUnavailable

end Accounts.Referrals

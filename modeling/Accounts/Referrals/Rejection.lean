import Accounts.Referrals.ClawBack

/-!
# Rejecting a settlement

A settlement in review that was not paid out should be rejected on request. Repeating the request
should change nothing, and the rewards of the settlement can be settled again (`Calls.Rejects`).
There is no such settlement in either store (`rejects_iff`). Postgres takes the empty payout
reference for a payout, and rejects nothing. In memory (`internal/store/referral_memory.go`) a
settlement is rejected, and the repeated request is refused, as it is not in review any more.
-/

namespace Accounts.Referrals

open Text Table

/-! ## In memory -/

namespace Memory

/-- The reward counts for a new settlement. A settlement in review or paid reserves all rewards of
    its currency. The risks are kept by their source, and looked up by the invoice. -/
def settles (s : Store) (referrerUUID currency : String) (now : Time) (reward : ReferralReward) :
    Bool :=
  reward.referrerUUID == referrerUUID && reward.currency == currency &&
    reward.status != .reversed && decide (reward.eligibleAt ≤ now) &&
    decide (reward.providerInvoiceID ∉ s.risks) &&
    !(rows s.settlements).any fun settlement =>
      settlement.referrerUUID == referrerUUID && settlement.currency == currency &&
        (settlement.status == .pendingReview || settlement.status == .paid)

/-- Asking for a settlement of all that can be settled in a currency. -/
def requestReferralSettlement [Unicode] (env : Env) (s : Store) (referrerUUID currency : String)
    (now : Time) : Except ReferralError (Store × ReferralSettlement) :=
  let currency := toUpper (trimSpace currency)
  let rewards := (rows s.rewards).filter (settles s referrerUUID currency now)
  let amount := (rewards.map (·.rewardMinor)).sum
  if amount ≤ 0 then .error .settlementUnavailable else
  let settlement : ReferralSettlement :=
    { id := env.uuid.val
      referrerUUID := referrerUUID
      currency := currency
      amountMinor := amount
      requestedAt := now }
  .ok ({ s with settlements := s.settlements.insert settlement.id settlement }, settlement)

/-- Rejecting a settlement that has no payout reference. -/
def rejectReferralSettlement (s : Store) (settlementID reason : String) (now : Time) :
    Except ReferralError (Store × ReferralSettlement) :=
  let id := trimSpace settlementID
  match s.settlements.lookup id with
  | none => .error .settlementUnavailable
  | some settlement =>
    if settlement.status ≠ .pendingReview ∨ settlement.payoutReference ≠ "" ∨
      trimSpace reason = "" then .error .settlementUnavailable else
    let rejected := { settlement with
      status := .rejected
      reason := trimSpace reason
      completedAt := some now }
    .ok ({ s with settlements := s.settlements.insert id rejected }, rejected)

end Memory

/-! ## Both stores -/

/-- What a store does about rejections: the call, the rewards that a settlement was made of, and
    those that a new settlement is made of. -/
structure Calls where
  reject : Store → String → String → Time → Except ReferralError (Store × ReferralSettlement)
  covers : Store → ReferralSettlement → ReferralReward → Bool
  settles : Store → String → String → Time → ReferralReward → Bool

/-- In memory a settlement does not say which rewards it is made of: they are all that could be
    settled at the time. -/
def Memory.calls : Calls where
  reject := Memory.rejectReferralSettlement
  covers _ settlement reward := reward.referrerUUID == settlement.referrerUUID &&
    reward.currency == settlement.currency && decide (reward.eligibleAt ≤ settlement.requestedAt)
  settles := Memory.settles

def Postgres.calls : Calls where
  reject := rejectReferralSettlement
  covers s settlement reward := s.hasItem reward.id fun id amount =>
    id == settlement.id && decide (0 < amount)
  settles := Store.settles

/-- The settlement is rejected, repeating this succeeds without a change, and the rewards that were
    not reversed can be settled again. -/
def Calls.Rejects (c : Calls) (s : Store) (id reason : String) (now : Time) : Prop :=
  ∃ r, c.reject s id reason now = .ok r ∧
    (∀ later, ∃ again, c.reject r.1 id reason later = .ok (r.1, again)) ∧
    ∀ reward ∈ rows s.rewards, reward.status ≠ .reversed → c.covers s r.2 reward →
      c.settles r.1 r.2.referrerUUID r.2.currency now reward

/-- The settlement is in review, and was not paid out. -/
def Store.inReview (s : Store) (id : String) : Bool :=
  (s.settlements.lookup id).any fun settlement =>
    settlement.status == .pendingReview && settlement.payoutReference == ""

theorem Memory.not_rejects (s : Store) (id reason : String) (now : Time) :
    ¬ Memory.calls.Rejects s id reason now := by
  rintro ⟨r, hr, hagain, -⟩
  simp only [Memory.calls, Memory.rejectReferralSettlement] at hr hagain
  rcases hfound : s.settlements.lookup (trimSpace id) with _ | settlement <;>
    simp only [hfound, reduceCtorEq, Except.guard_ok, Except.ok.injEq] at hr
  -- The settlement is rejected now, so it is not in review.
  obtain ⟨-, rfl⟩ := hr
  simp at hagain

theorem Postgres.not_rejects (s : Store) (id reason : String) (now : Time) :
    ¬ Postgres.calls.Rejects s id reason now := by
  rintro ⟨r, hr, -⟩
  exact rejectReferralSettlement_ne_ok r hr

/-- Whatever happened before, all settlements in review without a payout can be rejected in both
    stores, for any reason, if and only if there is none. -/
theorem rejects_iff (memory postgres : Store) : (∀ id reason now, trimSpace reason ≠ "" →
      (memory.inReview id → Memory.calls.Rejects memory id reason now) ∧
        (postgres.inReview id → Postgres.calls.Rejects postgres id reason now)) ↔
      ∀ id, ¬ memory.inReview id ∧ ¬ postgres.inReview id := by
  constructor
  · intro h id
    obtain ⟨hmemory, hpostgres⟩ := h id "r" 0 (by decide)
    exact ⟨fun hid => Memory.not_rejects _ _ _ _ (hmemory hid),
      fun hid => Postgres.not_rejects _ _ _ _ (hpostgres hid)⟩
  · intro h id _ _ _
    exact ⟨fun hid => absurd hid (h id).1, fun hid => absurd hid (h id).2⟩

namespace Rejections

open ClawBacks

local instance unicode : Unicode := .ascii

/-- A reward is settled in Postgres, and the same reward in memory. -/
def postgres : Store :=
  Run.exec step (.init invited) [pays (call a) "ann" "in_a" 100, settles (call s₁)]

def memory : Store :=
  let s := Run.exec step (.init invited) [pays (call a) "ann" "in_a" 100]
  ((Memory.requestReferralSettlement (call s₁) s "ref" "USD" (9 * Time.day)).toOption.map
    Prod.fst).getD s

/-- Both settlements are in review. Postgres refuses to reject its settlement; in memory it is
    rejected once. -/
theorem not_rejected : postgres.inReview "s1" ∧ memory.inReview "s1" ∧
      (rejectReferralSettlement postgres "s1" "unverified" 0).toOption.isNone ∧
      (Memory.rejectReferralSettlement memory "s1" "unverified" 0).toOption.isSome ∧
      ¬ Postgres.calls.Rejects postgres "s1" "unverified" 0 ∧
      ¬ Memory.calls.Rejects memory "s1" "unverified" 0 :=
  ⟨by decide +kernel, by decide +kernel, by decide +kernel, by decide +kernel,
    Postgres.not_rejects _ _ _ _, Memory.not_rejects _ _ _ _⟩

end Rejections

end Accounts.Referrals

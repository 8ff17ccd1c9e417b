import Accounts.Base.Run
import Accounts.Referrals.Reversal

/-!
# No reward is paid out twice

The store of the referral programme takes any calls in any order (`step`). A
reward is to be a positive item of at most one settlement in review or paid
(`Store.Exclusive`).

A new settlement takes only rewards that are not reserved by such a settlement,
and completing, rejecting and reversing reserve no more than before
(`Reviewed`). Reconciling a rejected settlement with a payment does: its rewards
were free, and may have been settled again meanwhile. So the rewards stay
exclusive exactly along the runs that reconcile no rejected settlement while one
of its rewards is reserved by another (`exclusive_iff_unshared`), and without
this a reward is paid twice (`reward_paid_twice`).
-/

namespace Accounts.Referrals

open Except AList Store

/-! ## Runs -/

/-- A call, with what it reads from outside. -/
inductive Action
  | createReferralReward (env : Env) (reward : ReferralReward) (firstPaid : Bool)
      (annual : Option (String × Time))
  | recordReferralRisk (risk : ReferralPaymentRisk)
  | requestReferralSettlement (env : Env) (referrerUUID currency : String) (now : Time)
  | completeReferralSettlement (settlementID payoutReference : String) (now : Time)
  | reconcileReferralSettlement (settlementID payoutReference reason : String) (now : Time)
  | rejectReferralSettlement (settlementID reason : String) (now : Time)
  | reverseReferralReward (rewardID sourceKey reason : String) (now : Time)

/-- The tables after a call. -/
def Action.call [Unicode] (s : Store) : Action → Except ReferralError Store
  | .createReferralReward env reward firstPaid annual =>
    (Referrals.createReferralReward env s reward firstPaid annual).map Prod.fst
  | .recordReferralRisk risk => Referrals.recordReferralRisk s risk
  | .requestReferralSettlement env referrer currency now =>
    (Referrals.requestReferralSettlement env s referrer currency now).map Prod.fst
  | .completeReferralSettlement id payout now =>
    (Referrals.completeReferralSettlement s id payout now).map Prod.fst
  | .reconcileReferralSettlement id payout reason now =>
    (Referrals.reconcileReferralSettlement s id payout reason now).map Prod.fst
  | .rejectReferralSettlement id reason now =>
    (Referrals.rejectReferralSettlement s id reason now).map Prod.fst
  | .reverseReferralReward reward key reason now =>
    Referrals.reverseReferralReward s reward key reason now

/-- A step: the transaction of a failed call is rolled back. -/
def step [Unicode] (s : Store) (a : Action) : Store :=
  match a.call s with
  | .ok s' => s'
  | .error _ => s

namespace Store

variable (s : Store)

/-- The reward is a positive item of the settlement. -/
def Pays (settlementID rewardID : String) : Prop :=
  ∃ amount, s.items.lookup (settlementID, rewardID) = some amount ∧ 0 < amount

/-- The settlement, in review or paid, has the reward as a positive item. -/
def Reserves (settlementID rewardID : String) : Prop :=
  s.isOpen settlementID ∧ s.Pays settlementID rewardID

/-- Every reward is a positive item of at most one settlement in review or paid. -/
def Exclusive : Prop :=
  ∀ rewardID id id', s.Reserves id rewardID → s.Reserves id' rewardID → id = id'

/-- Items belong to settlements. -/
def Sound : Prop :=
  ∀ id rewardID amount, s.items.lookup (id, rewardID) = some amount → s.status id ≠ none

end Store

/-- A rejected settlement is reconciled with a payment only if none of its
    rewards is reserved by another settlement. -/
def Unshared (s : Store) : Action → Prop
  | .reconcileReferralSettlement id payout reason now =>
    ∀ s' paid, reconcileReferralSettlement s id payout reason now = .ok (s', paid) →
      s.status id = some .rejected → ∀ rewardID id', s.Pays id rewardID → ¬ s.Reserves id' rewardID
  | _ => True

/-! ## Calls that reserve nothing -/

/-- The items stay as they are, and no settlement is reserved that was not in
    review before, or as it is. -/
structure Reviewed (s s' : Store) : Prop where
  items_eq : s'.items = s.items
  status : ∀ id, s'.status id = s.status id ∨
    (s.status id = some .pendingReview ∧ s'.status id ≠ none)

variable {rewardID : String}

namespace Reviewed

variable {s s' s'' : Store}

theorem refl (s : Store) : Reviewed s s := ⟨rfl, fun _ => .inl rfl⟩

theorem of_eq (hitems : s'.items = s.items) (hsettlements : s'.settlements = s.settlements) :
    Reviewed s s' :=
  ⟨hitems, fun id => .inl (by rw [Store.status, Store.status, hsettlements])⟩

theorem trans (h : Reviewed s s') (h' : Reviewed s' s'') : Reviewed s s'' where
  items_eq := h'.items_eq.trans h.items_eq
  status id := by
    rcases h.status id with hs | ⟨hpending, hsome⟩ <;>
      rcases h'.status id with hs' | ⟨hpending', hsome'⟩
    · exact .inl (hs'.trans hs)
    · exact .inr ⟨hs ▸ hpending', hsome'⟩
    · exact .inr ⟨hpending, hs' ▸ hsome⟩
    · exact .inr ⟨hpending, hsome'⟩

variable {id : String} (h : Reviewed s s')
include h

/-- Settlements in review or paid were so before. -/
theorem isOpen (ho : s'.isOpen id) : s.isOpen id := by
  rcases h.status id with hs | ⟨hpending, -⟩
  · rwa [Store.isOpen, hs] at ho
  · simp [Store.isOpen, hpending]

theorem reserves (hr : s'.Reserves id rewardID) : s.Reserves id rewardID := by
  obtain ⟨ho, amount, hi, hpos⟩ := hr
  exact ⟨h.isOpen ho, amount, h.items_eq ▸ hi, hpos⟩

theorem exclusive (hs : s.Exclusive) : s'.Exclusive :=
  fun rewardID id id' hr hr' => hs rewardID id id' (h.reserves hr) (h.reserves hr')

theorem sound (hs : s.Sound) : s'.Sound := by
  intro id rewardID amount hi
  rcases h.status id with hs' | ⟨-, hsome⟩
  · exact hs' ▸ hs id rewardID amount (h.items_eq ▸ hi)
  · exact hsome

end Reviewed

variable {s s' : Store}

/-- A reward is reversed. -/
theorem TakenBack.reviewed {reward : ReferralReward} {f : ReferralSettlement → ReferralSettlement}
    (h : TakenBack s reward f s') : Reviewed s s' where
  items_eq := h.items_eq
  status id := by
    rw [status, status]
    rcases h.settlements id with heq | ⟨_, hfound, hpending, hnew⟩
    · exact .inl (by rw [heq])
    · exact .inr ⟨by rw [hfound, Option.map_some, hpending], by simp [hnew]⟩

theorem recordReferralRisk_reviewed {risk : ReferralPaymentRisk}
    (h : recordReferralRisk s risk = .ok s') : Reviewed s s' := by
  have hrisk : Reviewed s (s.insertRisk risk) := by
    rw [insertRisk]
    split_ifs <;> exact .of_eq rfl rfl
  rcases recordReferralRisk_ok h with ⟨-, rfl⟩ | ⟨_, -, htaken⟩
  · exact hrisk
  · exact hrisk.trans htaken.reviewed

variable {key reason : String} {now : Time}

theorem reverseReferralReward_reviewed
    (h : reverseReferralReward s rewardID key reason now = .ok s') : Reviewed s s' := by
  rcases reverseReferralReward_ok h with rfl | ⟨_, f, -, htaken, -⟩
  · exact .refl _
  · exact htaken.reviewed

/-! ## Payments -/

variable {id : String} {settlement : ReferralSettlement}

/-- The statuses after a settlement was written. -/
theorem status_of_insert (h : s'.settlements = s.settlements.insert id settlement) (id' : String) :
    s'.status id' = if id' = id then some settlement.status else s.status id' := by
  rw [status, h]
  by_cases hid : id' = id
  · subst hid
    simp
  · simp [hid, status, lookup_insert_ne hid]

/-- Paying a settlement changes its own status only. -/
theorem pay_ok (h : s.pay settlement = .ok s') : s'.items = s.items ∧
      ∀ id, s'.status id = if id = settlement.id then some settlement.status else s.status id := by
  simp only [pay, guard_ok, ok.injEq] at h
  obtain ⟨-, rfl⟩ := h
  exact ⟨rfl, status_of_insert rfl⟩

/-- Paying a settlement in review reserves nothing new. -/
theorem pay_reviewed (h : s.pay settlement = .ok s')
    (hpending : s.status settlement.id = some .pendingReview) : Reviewed s s' := by
  obtain ⟨hitems, hstatus⟩ := pay_ok h
  refine ⟨hitems, fun id => ?_⟩
  by_cases hid : id = settlement.id
  · exact .inr ⟨hid ▸ hpending, by simp [hstatus, hid]⟩
  · exact .inl (by rw [hstatus, if_neg hid])

variable {payout : String} {r : ReferralSettlement}

section

variable (h : completeReferralSettlement s id payout now = .ok (s', r))

include h

/-- Completing a settlement changes nothing, or pays one in review. -/
theorem completeReferralSettlement_cases :
    s' = s ∨ ∃ settlement, s.settlements.lookup id = some settlement ∧
      settlement.status = .pendingReview ∧ s.pay { settlement with
        id := id
        status := .paid
        payoutReference := Text.trimSpace payout
        completedAt := some now } = .ok s' := by
  obtain ⟨-, h⟩ := guard_ok.1 h
  split at h
  · cases h
  next settlement hfound =>
  by_cases hpaid : settlement.status = .paid
  · simp only [if_pos hpaid, guard_ok, ok.injEq, Prod.mk.injEq] at h
    exact .inl h.2.1.symm
  · simp only [if_neg hpaid, guard_ok, map_eq_ok, Prod.mk.injEq] at h
    obtain ⟨hpending, -, _, hpay, rfl, -⟩ := h
    exact .inr ⟨settlement, hfound, not_not.1 hpending, hpay⟩

theorem completeReferralSettlement_reviewed : Reviewed s s' := by
  rcases completeReferralSettlement_cases h with rfl | ⟨_, hfound, hpending, hpay⟩
  · exact .refl _
  · exact pay_reviewed hpay (by simp [status, hfound, hpending])

end

/-- A settlement is never rejected by a call: its payout reference is not null. -/
theorem rejectReferralSettlement_ne_ok (r : Store × ReferralSettlement) :
    rejectReferralSettlement s id reason now ≠ .ok r := by
  simp only [rejectReferralSettlement, ReferralSettlement.payoutValid]
  cases s.settlements.lookup id <;> simp [guard_ok]

section

variable (h : reconcileReferralSettlement s id payout reason now = .ok (s', r))

include h

/-- Reconciling a settlement changes nothing, or pays one that was not paid. -/
theorem reconcileReferralSettlement_cases : (s.status id ≠ some .rejected ∧ s' = s) ∨
      ∃ settlement, s.settlements.lookup id = some settlement ∧ settlement.status ≠ .paid ∧
        s.pay { settlement with
          id := id
          status := .paid
          payoutReference := Text.trimSpace payout
          reason := Text.left (settlement.reason ++ "; reconciled actual payment: " ++
            Text.trimSpace reason) 1000
          completedAt := some now } = .ok s' := by
  obtain ⟨-, h⟩ := guard_ok.1 h
  split at h
  · cases h
  next settlement hfound =>
  by_cases hpaid : settlement.status = .paid
  · simp only [if_pos hpaid, guard_ok, ok.injEq, Prod.mk.injEq] at h
    exact .inl ⟨by simp [status, hfound, hpaid], h.2.1.symm⟩
  · simp only [if_neg hpaid, guard_ok, map_eq_ok, Prod.mk.injEq] at h
    obtain ⟨-, _, hpay, rfl, -⟩ := h
    exact .inr ⟨settlement, hfound, hpaid, hpay⟩

/-- A reconciled settlement was paid or in review, or it was rejected and is paid now. -/
theorem reconcileReferralSettlement_ok : (s.status id ≠ some .rejected ∧ Reviewed s s') ∨
      (s.status id = some .rejected ∧ s'.items = s.items ∧
        ∀ id', s'.status id' = if id' = id then some .paid else s.status id') := by
  rcases reconcileReferralSettlement_cases h with ⟨hne, rfl⟩ | ⟨settlement, hfound, hpaid, hpay⟩
  · exact .inl ⟨hne, .refl _⟩
  have hstatus : s.status id = some settlement.status := by simp [status, hfound]
  cases hs : settlement.status with
  | paid => exact absurd hs hpaid
  | pendingReview =>
    exact .inl ⟨by simp [hstatus, hs], pay_reviewed hpay (by rw [hstatus, hs])⟩
  | rejected => exact .inr ⟨by rw [hstatus, hs], pay_ok hpay⟩

end

/-! ## New settlements -/

/-- A reward with an item meeting the condition. -/
theorem hasItem_of_lookup {p : String → Int → Bool} {id : String} {amount : Int}
    (hi : s.items.lookup (id, rewardID) = some amount) (hp : p id amount) :
    s.hasItem rewardID p := by
  refine List.any_eq_true.2 ⟨⟨(id, rewardID), amount⟩, mem_lookup_iff.1 hi, ?_⟩
  simp [hp]

variable {referrer currency : String}

/-- The rewards of a new settlement are not reserved. -/
theorem not_isOpen_of_mem_eligibleItems {id : String} {amount amount' : Int}
    (h : (rewardID, amount) ∈ s.eligibleItems referrer currency now)
    (hi : s.items.lookup (id, rewardID) = some amount') : ¬ s.isOpen id := by
  obtain ⟨reward, hmem, he⟩ := List.mem_map.1 h
  cases he
  have hsettles := (List.mem_filter.1 hmem).2
  simp only [settles, Bool.and_eq_true, Bool.not_eq_true'] at hsettles
  intro ho
  have hitem : s.hasItem reward.id fun settlement _ => s.isOpen settlement :=
    hasItem_of_lookup hi ho
  rw [hitem] at hsettles
  exact absurd hsettles.2 (by simp)

/-- What is taken back is negative. -/
theorem neg_of_mem_clawBackItems {amount : Int}
    (h : (rewardID, amount) ∈ s.clawBackItems referrer currency) : amount < 0 := by
  obtain ⟨event, -, he⟩ := List.mem_map.1 h
  cases he
  exact Int.neg_neg_of_pos event.2.amountMinor_pos

/-! ## One step -/

/-- What a step does to the items and the settlements. -/
inductive Effect (s : Store) : Action → Store → Prop
  | review {a : Action} {s' : Store} (hreviewed : Reviewed s s') (hunshared : Unshared s a) :
      Effect s a s'
  | reopen {id payout reason : String} {now : Time} {s' : Store} {paid : ReferralSettlement}
      (hok : reconcileReferralSettlement s id payout reason now = .ok (s', paid))
      (hrejected : s.status id = some .rejected) (hitems : s'.items = s.items)
      (hstatus : ∀ id', s'.status id' = if id' = id then some .paid else s.status id') :
      Effect s (.reconcileReferralSettlement id payout reason now) s'
  | request {env : Env} {referrer currency : String} {now : Time} {id : String} {s' : Store}
      (hnew : s.status id = none)
      (hstatus : ∀ id', s'.status id' = if id' = id then some .pendingReview else s.status id')
      (hitems : ∀ id' rewardID amount, s'.items.lookup (id', rewardID) = some amount →
        s.items.lookup (id', rewardID) = some amount ∨
          (id' = id ∧ (0 < amount → ∀ id'', ¬ s.Reserves id'' rewardID))) :
      Effect s (.requestReferralSettlement env referrer currency now) s'

/-- A new settlement is in review; its items are negative, or of rewards that were not reserved. -/
theorem requestReferralSettlement_effect [Unicode] {env : Env}
    (h : requestReferralSettlement env s referrer currency now = .ok (s', r)) :
    Effect s (.requestReferralSettlement env referrer currency now) s' := by
  simp only [requestReferralSettlement, guard_ok, map_eq_ok,
    Prod.mk.injEq] at h
  obtain ⟨-, -, hnew, _, hfill, rfl, -⟩ := h
  have hnone : s.status env.uuid.val = none := by simp [status, lookup_eq_none.2 hnew]
  obtain ⟨_, hfirst, hsecond⟩ := bind_eq_ok.1 hfill
  have hset := (insertItems_ok hsecond).1
  rw [(insertItems_ok hfirst).1] at hset
  refine .request hnone (status_of_insert (congrArg settlements hset))
    fun id rewardID amount hi => ?_
  rcases mem_of_insertItems hsecond hi with hi | ⟨hid, hmem⟩
  · rcases mem_of_insertItems hfirst hi with hi | ⟨hid, hmem⟩
    · exact .inl hi
    refine .inr ⟨hid, fun _ id' hr => ?_⟩
    -- The settlements that were open are not the new one.
    have hid' : id' ≠ env.uuid.val := by
      rintro rfl
      simp [Store.Reserves, isOpen, hnone] at hr
    obtain ⟨ho, _, hi', -⟩ := hr
    refine not_isOpen_of_mem_eligibleItems hmem hi' ?_
    rwa [isOpen, status_of_insert rfl, if_neg hid']
  · exact .inr ⟨hid, fun hpos => absurd hpos (neg_of_mem_clawBackItems hmem).not_gt⟩

/-- A successful call has one of the effects. -/
theorem effect_of_call [Unicode] {a : Action} (h : a.call s = .ok s') : Effect s a s' := by
  cases a with
  | createReferralReward =>
    obtain ⟨⟨s₁, b⟩, hr, rfl⟩ := map_eq_ok.1 h
    refine .review ?_ trivial
    rcases createReferralReward_ok hr with rfl |
      ⟨recorded, -, -, -, -, -, -, -, -, -, hsettlements, hitems⟩
    · exact .refl _
    · exact .of_eq hitems hsettlements
  | recordReferralRisk => exact .review (recordReferralRisk_reviewed h) trivial
  | requestReferralSettlement =>
    obtain ⟨r, hr, rfl⟩ := map_eq_ok.1 h
    exact requestReferralSettlement_effect hr
  | completeReferralSettlement =>
    obtain ⟨r, hr, rfl⟩ := map_eq_ok.1 h
    exact .review (completeReferralSettlement_reviewed hr) trivial
  | reconcileReferralSettlement =>
    obtain ⟨⟨s₁, _⟩, hr, rfl⟩ := map_eq_ok.1 h
    rcases reconcileReferralSettlement_ok hr with ⟨hne, hreviewed⟩ | ⟨hrejected, hitems, hstatus⟩
    · exact .review hreviewed fun _ _ _ hrejected => absurd hrejected hne
    · exact .reopen hr hrejected hitems hstatus
  | rejectReferralSettlement =>
    obtain ⟨r, hr, rfl⟩ := map_eq_ok.1 h
    exact absurd hr (rejectReferralSettlement_ne_ok r)
  | reverseReferralReward =>
    exact .review (reverseReferralReward_reviewed h) trivial

/-- Every step has one of the effects. -/
theorem effect_step [Unicode] (s : Store) (a : Action) : Effect s a (step s a) := by
  cases hcall : a.call s with
  | ok =>
    rw [step, hcall]
    exact effect_of_call hcall
  | error =>
    rw [step, hcall]
    refine .review (.refl s) ?_
    cases a with
    | reconcileReferralSettlement =>
      intro _ _ hok
      rw [Action.call, hok] at hcall
      cases hcall
    | _ => trivial

namespace Effect

variable {a : Action}

/-- Items still belong to settlements. -/
theorem sound (h : Effect s a s') (hs : s.Sound) : s'.Sound := by
  intro id' rewardID amount hi
  cases h with
  | review hreviewed => exact hreviewed.sound hs id' rewardID amount hi
  | reopen _ _ hitems hstatus =>
    rw [hstatus]
    split_ifs
    · simp
    · exact hs id' rewardID amount (hitems ▸ hi)
  | request _ hstatus hitems =>
    rw [hstatus]
    split_ifs with hid
    · simp
    · rcases hitems id' rewardID amount hi with hi | ⟨he, -⟩
      · exact hs id' rewardID amount hi
      · exact absurd he hid

/-- A reconciled settlement reserves its rewards again: they stay exclusive if
    and only if no other settlement reserves one of them. -/
theorem exclusive_reopen_iff {id : String} (hrejected : s.status id = some .rejected)
    (hitems : s'.items = s.items)
    (hstatus : ∀ id', s'.status id' = if id' = id then some .paid else s.status id')
    (hexcl : s.Exclusive) :
    s'.Exclusive ↔ ∀ rewardID id', s.Pays id rewardID → ¬ s.Reserves id' rewardID := by
  have hpays : ∀ {id' rewardID}, s'.Pays id' rewardID ↔ s.Pays id' rewardID := by
    intro _ _
    rw [Store.Pays, Store.Pays, hitems]
  have hself : ∀ {rewardID}, s'.Reserves id rewardID ↔ s.Pays id rewardID := by
    simp [Store.Reserves, isOpen, hstatus, hpays]
  have hother : ∀ {id' rewardID}, id' ≠ id → (s'.Reserves id' rewardID ↔ s.Reserves id' rewardID) := by
    intro _ _ hne
    simp [Store.Reserves, isOpen, hstatus, hpays, hne]
  have hne : ∀ {id' rewardID}, s.Reserves id' rewardID → id' ≠ id := by
    rintro id' rewardID ⟨ho, -⟩ rfl
    simp [isOpen, hrejected] at ho
  constructor
  · intro h rewardID id' hp hr
    exact hne hr (h rewardID id' id ((hother (hne hr)).2 hr) (hself.2 hp))
  intro h rewardID id₁ id₂ h₁ h₂
  by_cases he₁ : id₁ = id <;> by_cases he₂ : id₂ = id
  · rw [he₁, he₂]
  · subst he₁
    exact absurd ((hother he₂).1 h₂) (h rewardID id₂ (hself.1 h₁))
  · subst he₂
    exact absurd ((hother he₁).1 h₁) (h rewardID id₁ (hself.1 h₂))
  · exact hexcl rewardID id₁ id₂ ((hother he₁).1 h₁) ((hother he₂).1 h₂)

/-- A step keeps the rewards exclusive if and only if it reconciles no rejected
    settlement with a reward that another reserves. -/
theorem exclusive_iff (h : Effect s a s') (hs : s.Sound) (hexcl : s.Exclusive) :
    s'.Exclusive ↔ Unshared s a := by
  cases h with
  | review hreviewed hunshared => exact iff_of_true (hreviewed.exclusive hexcl) hunshared
  | @request _ _ _ _ id _ hnew hstatus hitems =>
    refine iff_of_true ?_ trivial
    -- A reservation is an old one, or one of the new settlement, of a free reward.
    have hcases : ∀ {id' rewardID}, s'.Reserves id' rewardID →
        s.Reserves id' rewardID ∨ (id' = id ∧ ∀ id'', ¬ s.Reserves id'' rewardID) := by
      rintro id' rewardID ⟨ho, amount, hi, hpos⟩
      rcases hitems id' rewardID amount hi with hi | ⟨hid, hfree⟩
      · have hid : id' ≠ id := fun he => hs id' rewardID amount hi (he ▸ hnew)
        rw [isOpen, hstatus, if_neg hid] at ho
        exact .inl ⟨ho, amount, hi, hpos⟩
      · exact .inr ⟨hid, hfree hpos⟩
    intro rewardID id₁ id₂ h₁ h₂
    rcases hcases h₁ with h₁ | ⟨rfl, hfree₁⟩ <;> rcases hcases h₂ with h₂ | ⟨rfl, hfree₂⟩
    · exact hexcl rewardID id₁ id₂ h₁ h₂
    · exact absurd h₁ (hfree₂ id₁)
    · exact absurd h₂ (hfree₁ id₂)
    · rfl
  | reopen hok hrejected hitems hstatus =>
    rw [exclusive_reopen_iff hrejected hitems hstatus hexcl]
    exact ⟨fun h _ _ _ _ => h, fun h => h _ _ hok hrejected⟩

end Effect

/-! ## Runs -/

/-- Along a run from the empty tables, every reward is a positive item of at most
    one settlement in review or paid, in all states, if and only if no rejected
    settlement is reconciled while another has one of its rewards. -/
theorem exclusive_iff_unshared [Unicode] (referrals : Table String Referral) (as : List Action) :
    Run.Always step Store.Exclusive (.init referrals) as ↔
      Run.Guarded step Unshared (.init referrals) as := by
  refine Run.always_iff_guarded (Q := Store.Sound) (fun s a => (effect_step s a).sound)
    (fun s a => (effect_step s a).exclusive_iff) ?_ ?_ as
  · intro _ _ _ hi
    simp [init] at hi
  · rintro rewardID id id' ⟨-, amount, hi, -⟩
    simp [init] at hi

section

local instance : Unicode := Unicode.ascii

/-- The reward of one tenth for a first payment of 10.00 for a monthly plan. -/
def monthlyReward (inviteeUUID invoice : String) : ReferralReward :=
  { providerInvoiceID := invoice
    inviteeUUID := inviteeUUID
    planID := "PRO-MONTHLY"
    productSlug := "xconnect"
    paidMinor := 1000
    rewardMinor := 100
    currency := "USD"
    paidAt := Time.day }

/-- Two rewards are settled, and one of them is reversed, which rejects the
    settlement `s`. The other is settled again, by `t`. The settlement `s` turns
    out to be paid, and `t` is completed. -/
def doublePayment : List Action :=
  [ .createReferralReward ⟨0, ⟨"a", by decide, by decide⟩, ⟨"e", by decide, by decide⟩⟩
      (monthlyReward "ann" "in_a") true none,
    .createReferralReward ⟨0, ⟨"b", by decide, by decide⟩, ⟨"e", by decide, by decide⟩⟩
      (monthlyReward "bob" "in_b") true none,
    .requestReferralSettlement ⟨0, ⟨"s", by decide, by decide⟩, ⟨"e", by decide, by decide⟩⟩ "ref"
      "USD" (9 * Time.day),
    .reverseReferralReward "a" "k" "fraud" (9 * Time.day),
    .requestReferralSettlement ⟨0, ⟨"t", by decide, by decide⟩, ⟨"e", by decide, by decide⟩⟩ "ref"
      "USD" (10 * Time.day),
    .reconcileReferralSettlement "s" "wire-1" "paid by bank" (11 * Time.day),
    .completeReferralSettlement "t" "wire-2" (12 * Time.day)]

/-- After this run the reward `b` was paid by two settlements. -/
theorem reward_paid_twice : let referrals : Table String Referral :=
      (AList.insert "ann" ⟨"r", "ref"⟩ ∅ : Table String Referral).insert "bob" ⟨"r2", "ref"⟩
    let s := Run.exec step (.init referrals) doublePayment
    s.status "s" = some .paid ∧ s.status "t" = some .paid ∧
      s.items.lookup ("s", "b") = some 100 ∧ s.items.lookup ("t", "b") = some 100 ∧
      ¬ s.Exclusive := by
  intro _ s
  have hpaid : s.status "s" = some .paid ∧ s.status "t" = some .paid := by decide +kernel
  have hitems : s.items.lookup ("s", "b") = some 100 ∧ s.items.lookup ("t", "b") = some 100 := by
    decide +kernel
  refine ⟨hpaid.1, hpaid.2, hitems.1, hitems.2, fun h => ?_⟩
  have hreserves : s.Reserves "s" "b" := ⟨by simp [isOpen, hpaid.1], 100, hitems.1, by decide⟩
  have hreserves' : s.Reserves "t" "b" :=
    ⟨by simp [isOpen, hpaid.2], 100, hitems.2, by decide⟩
  exact absurd (h "b" "s" "t" hreserves hreserves') (by decide)

end

end Accounts.Referrals

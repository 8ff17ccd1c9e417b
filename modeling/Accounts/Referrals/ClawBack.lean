import Accounts.Referrals.Rewards

/-!
# What settlements take back

A reward that is reversed after it was paid is taken off the next settlement of its referrer,
as a negative item. The amount of a settlement is the sum of its items and positive; a
negative item is for a reversed reward that was paid, with the opposite amount; a reward is
taken off once; and what a referrer was paid in all is the sum of the rewards that were paid,
less those that were taken off (`Store.Accounted`).

This rests on settlements in review or paid having one item of each sign at most for a reward
(`Books.single`). A new settlement looks for items of such settlements. But when a rejected
settlement is reconciled with a payment, its items count again, and other settlements may
have items for the same rewards by then. The books stay right along the runs in which none
has (`accounted_of_unclaimed`); without this a reward is taken off twice (`taken_off_twice`).
-/

namespace Accounts.Referrals

open Except AList Table List Bool Store

namespace Store

section

variable (s : Store)

/-- The sum of the items of a settlement. -/
def itemTotal (settlementID : String) : Int :=
  (s.items.entries.map fun item => if item.1.1 = settlementID then item.2 else 0).sum

/-- What a referrer was paid. -/
def paidTotal (referrerUUID : String) : Int :=
  total (fun settlement =>
    if settlement.referrerUUID == referrerUUID && settlement.status == .paid then
      settlement.amountMinor else 0) s.settlements

/-- The reward was paid. -/
def paidOut (rewardID : String) : Bool :=
  s.hasItem rewardID fun settlement amount =>
    decide (0 < amount) && s.status settlement == some .paid

/-- The reward was taken off a payment. -/
def takenOff (rewardID : String) : Bool :=
  s.hasItem rewardID fun settlement amount =>
    decide (amount < 0) && s.status settlement == some .paid

/-- The rewards of a referrer that were paid, less those that were taken off. -/
def dueTotal (referrerUUID : String) : Int :=
  total (fun reward =>
    if reward.referrerUUID == referrerUUID then
      (if s.paidOut reward.id then reward.rewardMinor else 0) -
        (if s.takenOff reward.id then reward.rewardMinor else 0)
    else 0) s.rewards

end

/-- The settlements add up. -/
structure Accounted (s : Store) : Prop where
  amount : ∀ {id settlement}, s.settlements.lookup id = some settlement →
    settlement.amountMinor = s.itemTotal id ∧ 0 < settlement.amountMinor
  clawBack : ∀ {id rewardID amount}, s.items.lookup (id, rewardID) = some amount → amount < 0 →
    (∃ reward, s.rewards.lookup rewardID = some reward ∧ reward.status = .reversed) ∧
      ∃ id', s.status id' = some .paid ∧ s.items.lookup (id', rewardID) = some (-amount)
  once : ∀ {rewardID id id' amount amount'}, s.isOpen id = true → s.isOpen id' = true →
    s.items.lookup (id, rewardID) = some amount → amount < 0 →
    s.items.lookup (id', rewardID) = some amount' → amount' < 0 → id = id'
  total : ∀ referrerUUID, s.paidTotal referrerUUID = s.dueTotal referrerUUID

end Store

/-- A rejected settlement is reconciled with a payment only if no settlement in review or paid
    has an item of the same sign for one of its rewards. -/
def Unclaimed (s : Store) : Action → Prop
  | .reconcileReferralSettlement id payout reason now =>
    ∀ s' paid, reconcileReferralSettlement s id payout reason now = .ok (s', paid) →
      s.status id = some .rejected → ∀ rewardID id' amount amount',
      s.items.lookup (id, rewardID) = some amount → s.isOpen id' = true →
      s.items.lookup (id', rewardID) = some amount' → ¬ (0 < amount ↔ 0 < amount')
  | _ => True

/-! ## The books -/

/-- The amount is that of the reward; if it is negative, the reward is reversed and was paid. -/
def Store.Grounded (s : Store) (reward : ReferralReward) (amount : Int) : Prop :=
  (0 < amount ∧ amount = reward.rewardMinor) ∨
    (amount < 0 ∧ amount = -reward.rewardMinor ∧ reward.status = .reversed ∧
      ∃ id, s.status id = some .paid ∧ s.items.lookup (id, reward.id) = some reward.rewardMinor)

/-- The invariant of the tables. -/
structure Books (s : Store) : Prop where
  rewardID : ∀ {id reward}, s.rewards.lookup id = some reward → reward.id = id
  nonneg : ∀ {id reward}, s.rewards.lookup id = some reward → 0 ≤ reward.rewardMinor
  settlementID : ∀ {id settlement}, s.settlements.lookup id = some settlement → settlement.id = id
  amount : ∀ {id settlement}, s.settlements.lookup id = some settlement →
    settlement.amountMinor = s.itemTotal id ∧ 0 < settlement.amountMinor
  event : ∀ {id event}, s.reversals.lookup id = some event → ∃ reward,
    s.rewards.lookup id = some reward ∧ reward.status = .reversed ∧
      event.amountMinor = reward.rewardMinor
  item : ∀ {id rewardID amount}, s.items.lookup (id, rewardID) = some amount →
    ∃ settlement reward, s.settlements.lookup id = some settlement ∧
      s.rewards.lookup rewardID = some reward ∧
      settlement.referrerUUID = reward.referrerUUID ∧ s.Grounded reward amount
  single : ∀ {rewardID id id' amount amount'}, s.isOpen id = true → s.isOpen id' = true →
    s.items.lookup (id, rewardID) = some amount →
    s.items.lookup (id', rewardID) = some amount' → (0 < amount ↔ 0 < amount') → id = id'

variable {s s' : Store}

/-! ## The totals -/

variable {rewardID : String}

namespace Books

variable (h : Books s)

include h

/-- An item of a reward in a payment. -/
theorem eq_of_paid {item item' : Sigma fun _ : String × String => Int}
    (hitem : item ∈ s.items.entries) (hitem' : item' ∈ s.items.entries)
    (hreward : item.1.2 = item'.1.2) (hpaid : s.status item.1.1 = some .paid)
    (hpaid' : s.status item'.1.1 = some .paid) (hsign : 0 < item.2 ↔ 0 < item'.2) :
    item = item' := by
  have hopen : ∀ {id}, s.status id = some .paid → s.isOpen id = true := by
    intro _ hid
    simp [isOpen, hid]
  obtain ⟨⟨id, rewardID⟩, _⟩ := item
  obtain ⟨⟨_, rewardID'⟩, _⟩ := item'
  obtain rfl : rewardID = rewardID' := hreward
  have hlookup := mem_lookup_iff.2 hitem
  have hlookup' := mem_lookup_iff.2 hitem'
  obtain rfl := h.single (hopen hpaid) (hopen hpaid') hlookup hlookup' hsign
  exact s.items.nodupKeys.eq_of_fst_eq hitem hitem' rfl

/-- What a reward contributes to payments: its amount if it was paid, less its amount if it
    was taken off. -/
theorem net {reward : ReferralReward} (hreward : s.rewards.lookup rewardID = some reward) :
    (s.items.entries.map fun item => if item.1.2 = rewardID then
      (if s.status item.1.1 = some .paid then item.2 else 0) else 0).sum =
      (if s.paidOut rewardID then reward.rewardMinor else 0) -
        (if s.takenOff rewardID then reward.rewardMinor else 0) := by
  have hgrounded : ∀ item ∈ s.items.entries, item.1.2 = rewardID → s.Grounded reward item.2 := by
    rintro ⟨⟨_, _⟩, amount⟩ hitem rfl
    obtain ⟨settlement, _, -, hreward', -, hgrounded⟩ := h.item (mem_lookup_iff.2 hitem)
    cases hreward.symm.trans hreward'
    exact hgrounded
  -- The items of one sign in payments: there is one at most.
  have hsum (p : Int → Bool) (amount : Int)
      (hamount : ∀ x, s.Grounded reward x → p x = true → x = amount)
      (hsign : ∀ x y, p x = true → p y = true → (0 < x ↔ 0 < y)) :
      (s.items.entries.map fun item => if item.1.2 == rewardID && (p item.2 &&
        s.status item.1.1 == some .paid) then item.2 else 0).sum =
      if s.hasItem rewardID (fun settlement x => p x && s.status settlement == some .paid) then
        amount else 0 := by
    refine sum_of_unique s.items.nodupKeys.nodup ?_ ?_
    · intro item hitem hp
      simp only [and_eq_true, beq_iff_eq] at hp
      exact hamount item.2 (hgrounded item hitem hp.1) hp.2.1
    · intro _ hitem _ hitem' hp hp'
      simp only [and_eq_true, beq_iff_eq] at hp hp'
      exact h.eq_of_paid hitem hitem' (hp.1.trans hp'.1.symm) hp.2.2 hp'.2.2
        (hsign _ _ hp.2.1 hp'.2.1)
  have hpaid := hsum (fun x => 0 < x) reward.rewardMinor
    (fun x hx hp => by rcases hx with hx | hx <;> simp at hp <;> omega)
    (fun x y hx hy => iff_of_true (of_decide_eq_true hx) (of_decide_eq_true hy))
  have htaken := hsum (fun x => x < 0) (-reward.rewardMinor)
    (fun x hx hp => by rcases hx with hx | hx <;> simp at hp <;> omega)
    (fun x y hx hy => by simp at hx hy; omega)
  rw [sub_eq_add_neg, apply_ite Neg.neg, neg_zero, paidOut, takenOff, ← hpaid, ← htaken,
    ← sum_map_add]
  refine congrArg sum (map_congr_left fun item hitem => ?_)
  -- The item of the reward is positive or negative.
  by_cases hid : item.1.2 = rewardID
  · rcases hgrounded item hitem hid with ⟨hpos, -⟩ | ⟨hneg, -⟩
    · simp [hid, hpos, hpos.not_gt]
    · simp [hid, hneg, hneg.not_gt]
  · simp [hid]

/-- What a referrer was paid is the sum of the rewards that were paid, less those that were
    taken off. -/
theorem total (referrerUUID : String) : s.paidTotal referrerUUID = s.dueTotal referrerUUID := by
  have hpaid : s.paidTotal referrerUUID = (s.items.entries.map fun item =>
      if (s.settlements.lookup item.1.1).any (fun settlement =>
        settlement.referrerUUID == referrerUUID && settlement.status == .paid) then item.2
      else 0).sum := by
    rw [← total_group h.settlementID]
    refine total_congr fun id settlement hsettlement => ?_
    rw [(h.amount hsettlement).1, h.settlementID hsettlement, itemTotal]
  have hdue : s.dueTotal referrerUUID = (s.items.entries.map fun item =>
      if (s.rewards.lookup item.1.2).any (fun reward => reward.referrerUUID == referrerUUID) then
        (if s.status item.1.1 = some .paid then item.2 else 0) else 0).sum := by
    rw [← total_group h.rewardID]
    refine total_congr fun id reward hreward => ?_
    rw [h.rewardID hreward, ← h.net hreward]
  rw [hpaid, hdue]
  refine congrArg sum (map_congr_left fun item hitem => ?_)
  obtain ⟨settlement, reward, hsettlement, hreward, hreferrer, -⟩ :=
    h.item (mem_lookup_iff.2 hitem)
  rw [status, hsettlement, hreward]
  simp [hreferrer, ite_and]

/-- What the referrers see of it. -/
theorem accounted : s.Accounted where
  amount := h.amount
  clawBack := by
    intro _ rewardID _ hitem hneg
    obtain ⟨_, reward, -, hreward, -, ⟨hpos, -⟩ | ⟨-, heq, hreversed, id', hpaid, hitem'⟩⟩ :=
      h.item hitem
    · exact absurd hneg hpos.not_gt
    rw [h.rewardID hreward] at hitem'
    exact ⟨⟨reward, hreward, hreversed⟩, id', hpaid, by rw [heq, neg_neg, hitem']⟩
  once hopen hopen' hitem hneg hitem' hneg' :=
    h.single hopen hopen' hitem hitem' (iff_of_false hneg.not_gt hneg'.not_gt)
  total := h.total

end Books

/-! ## Calls that write no items -/

namespace Moved

variable {id : String}

/-- A settlement stays. -/
theorem settlement (h : Moved s s') {settlement : ReferralSettlement}
    (hsettlement : s.settlements.lookup id = some settlement) :
    ∃ settlement', s'.settlements.lookup id = some settlement' ∧
      settlement'.referrerUUID = settlement.referrerUUID := by
  rcases h.settlements id with heq | ⟨_, new, hold, hnew, -, hreferrer, -⟩
  · exact ⟨settlement, heq ▸ hsettlement, rfl⟩
  · cases hsettlement.symm.trans hold
    exact ⟨new, hnew, hreferrer⟩

/-- What was paid stays paid. -/
theorem paid (h : Moved s s') (hpaid : s.status id = some .paid) : s'.status id = some .paid := by
  rcases h.settlements id with heq | ⟨_, _, hold, -, -, -, -, hne⟩
  · rw [status, heq]
    exact hpaid
  · obtain ⟨_, hsettlement, hstatus⟩ := Option.map_eq_some_iff.1 hpaid
    cases hsettlement.symm.trans hold
    exact absurd hstatus hne

/-- A reward stays, and a reversed one is reversed. -/
theorem reward (h : Moved s s') {reward : ReferralReward}
    (hreward : s.rewards.lookup id = some reward) :
    ∃ status, s'.rewards.lookup id = some { reward with status := status } ∧
      (reward.status = .reversed → status = .reversed) := by
  rcases h.rewards id with heq | ⟨_, status, hold, hne, hnew⟩
  · exact ⟨reward.status, by rw [heq, hreward], fun h => h⟩
  · cases hreward.symm.trans hold
    exact ⟨status, hnew, fun hreversed => absurd hreversed hne⟩

/-- The books stay right, if the items of a sign of a reward that count are still those of one
    settlement. -/
theorem books (h : Moved s s') (hs : Books s)
    (hsingle : ∀ {rewardID id id' amount amount'}, s'.isOpen id = true → s'.isOpen id' = true →
      s.items.lookup (id, rewardID) = some amount →
      s.items.lookup (id', rewardID) = some amount' → (0 < amount ↔ 0 < amount') → id = id') :
    Books s' := by
  have htotal : ∀ id, s'.itemTotal id = s.itemTotal id := by
    intro _
    rw [itemTotal, itemTotal, h.items_eq]
  refine ⟨?_, ?_, ?_, ?_, ?_, ?_, ?_⟩
  · intro _ _ hreward
    obtain ⟨old, hold, hnew, -⟩ := h.exists_reward hreward
    have hid := hs.rewardID hold
    rw [hnew]
    exact hid
  · intro _ _ hreward
    obtain ⟨old, hold, hnew, -⟩ := h.exists_reward hreward
    have hnonneg := hs.nonneg hold
    rw [hnew]
    exact hnonneg
  · intro id _ hsettlement
    rcases h.settlements id with heq | ⟨old, new, hold, hnew, hid, -⟩
    · exact hs.settlementID (heq ▸ hsettlement)
    · cases hsettlement.symm.trans hnew
      exact hid (hs.settlementID hold)
  · intro id _ hsettlement
    rw [htotal]
    rcases h.settlements id with heq | ⟨old, new, hold, hnew, -, -, hamount, -⟩
    · exact hs.amount (heq ▸ hsettlement)
    · cases hsettlement.symm.trans hnew
      rw [hamount]
      exact hs.amount hold
  · intro id event hevent
    rcases h.reversals id event hevent with hold | hnew
    · obtain ⟨reward, hreward, hreversed, hamount⟩ := hs.event hold
      obtain ⟨status, hreward', hstatus⟩ := h.reward hreward
      exact ⟨_, hreward', hstatus hreversed, hamount⟩
    · exact hnew
  · intro _ _ _ hitem
    rw [h.items_eq] at hitem
    obtain ⟨settlement, reward, hsettlement, hreward, hreferrer, hgrounded⟩ := hs.item hitem
    obtain ⟨settlement', hsettlement', hreferrer'⟩ := h.settlement hsettlement
    obtain ⟨status, hreward', hstatus⟩ := h.reward hreward
    refine ⟨settlement', _, hsettlement', hreward', hreferrer'.trans hreferrer, ?_⟩
    rcases hgrounded with hpos | ⟨hneg, heq, hreversed, id', hpaid, hitem'⟩
    · exact .inl hpos
    · exact .inr ⟨hneg, heq, hstatus hreversed, id', h.paid hpaid, by rw [h.items_eq]; exact hitem'⟩
  · intro _ _ _ _ _ hopen hopen' hitem hitem' hsign
    rw [h.items_eq] at hitem hitem'
    exact hsingle hopen hopen' hitem hitem' hsign

/-- The books stay right, if no settlement counts that did not. -/
theorem books_of_reviewed (h : Moved s s') (hs : Books s) (hreviewed : Reviewed s s') : Books s' :=
  h.books hs fun hopen hopen' => hs.single (hreviewed.isOpen hopen) (hreviewed.isOpen hopen')

end Moved

/-- A risk may reverse a reward. -/
theorem recordReferralRisk_books (hs : Books s) {risk : ReferralPaymentRisk}
    (h : recordReferralRisk s risk = .ok s') : Books s' := by
  have hbooks : Books (s.insertRisk risk) := by
    rw [insertRisk]
    split_ifs
    · exact hs
    · exact ⟨hs.rewardID, hs.nonneg, hs.settlementID, hs.amount, hs.event, hs.item, hs.single⟩
  rcases recordReferralRisk_ok h with ⟨-, rfl⟩ | ⟨_, hsome, htaken⟩
  · exact hbooks
  · obtain ⟨_, hkey⟩ := mem_rows_iff.1 (rewardOf_eq_some hsome).1
    obtain rfl := hs.rewardID hkey
    refine (htaken.moved ?_ fun _ => ⟨rfl, rfl, rfl⟩).books_of_reviewed hbooks htaken.reviewed
    rw [rewards_insertRisk, hkey]

variable {now : Time} {r : ReferralSettlement}

/-- A rejected settlement is reconciled, when no other has taken its place. -/
theorem reconcileReferralSettlement_books (hs : Books s) {id payout reason : String}
    (hunclaimed : Unclaimed s (.reconcileReferralSettlement id payout reason now))
    (h : reconcileReferralSettlement s id payout reason now = .ok (s', r)) : Books s' := by
  have hmoved := reconcileReferralSettlement_moved h
  rcases reconcileReferralSettlement_ok h with ⟨-, hreviewed⟩ | ⟨hrejected, -, hstatus⟩
  · exact hmoved.books_of_reviewed hs hreviewed
  have hfree := hunclaimed _ _ h hrejected
  have hopen : ∀ {id'}, s'.isOpen id' = true → id' ≠ id → s.isOpen id' = true := by
    intro _ hopen hne
    rwa [isOpen, hstatus, if_neg hne] at hopen
  refine hmoved.books hs fun {rewardID id₁ id₂ amount₁ amount₂} hopen₁ hopen₂ hitem₁ hitem₂ hsign =>
    ?_
  by_cases he₁ : id₁ = id <;> by_cases he₂ : id₂ = id
  · rw [he₁, he₂]
  · subst he₁
    exact absurd hsign (hfree _ _ _ _ hitem₁ (hopen hopen₂ he₂) hitem₂)
  · subst he₂
    exact absurd hsign.symm (hfree _ _ _ _ hitem₂ (hopen hopen₁ he₁) hitem₁)
  · exact hs.single (hopen hopen₁ he₁) (hopen hopen₂ he₂) hitem₁ hitem₂ hsign

/-! ## New rewards and settlements -/

/-- A new reward. -/
theorem Books.insertReward (hs : Books s) {recorded : ReferralReward}
    (hnonneg : 0 ≤ recorded.rewardMinor) (htaken : s.rewardTaken recorded = false)
    (hrewards : s'.rewards = s.rewards.insert recorded.id recorded)
    (hreversals : s'.reversals = s.reversals) (hsettlements : s'.settlements = s.settlements)
    (hitems : s'.items = s.items) : Books s' := by
  have hold : ∀ {id reward}, s.rewards.lookup id = some reward →
      s'.rewards.lookup id = some reward := by
    intro _ reward hreward
    rw [hrewards, lookup_insert_iff]
    refine .inr ⟨?_, hreward⟩
    rintro rfl
    rw [rewardTaken, any_eq_false] at htaken
    exact htaken reward (mem_rows_iff.2 ⟨_, hreward⟩) (by simp [hs.rewardID hreward])
  have hstatus : ∀ id, s'.status id = s.status id := by
    intro _
    rw [status, status, hsettlements]
  refine ⟨?_, ?_, ?_, ?_, ?_, ?_, ?_⟩
  · intro _ _ hreward
    rw [hrewards] at hreward
    exact forall_insert (fun _ _ => hs.rewardID) rfl hreward
  · intro _ _ hreward
    rw [hrewards] at hreward
    exact forall_insert (fun _ _ => hs.nonneg) hnonneg hreward
  · rw [hsettlements]
    exact hs.settlementID
  · intro _ _ hsettlement
    rw [hsettlements] at hsettlement
    rw [itemTotal, hitems]
    exact hs.amount hsettlement
  · intro _ event hevent
    rw [hreversals] at hevent
    obtain ⟨reward, hreward, h⟩ := hs.event hevent
    exact ⟨reward, hold hreward, h⟩
  · intro _ _ _ hitem
    rw [hitems] at hitem
    obtain ⟨settlement, reward, hsettlement, hreward, hreferrer, hgrounded⟩ := hs.item hitem
    refine ⟨settlement, reward, by rw [hsettlements]; exact hsettlement, hold hreward, hreferrer, ?_⟩
    simp only [Store.Grounded, hstatus, hitems]
    exact hgrounded
  · simp only [isOpen, hstatus, hitems]
    exact hs.single

/-- Items are looked for among those that were added and those that were there. -/
theorem hasItem_of_entries {new : List (Sigma fun _ : String × String => Int)}
    (h : s'.items.entries = new ++ s.items.entries) {p q : String → Int → Bool}
    (hnew : ∀ item ∈ new, p item.1.1 item.2 = false)
    (hold : ∀ item ∈ s.items.entries, p item.1.1 item.2 = q item.1.1 item.2) (rewardID : String) :
    s'.hasItem rewardID p = s.hasItem rewardID q := by
  have hfalse : (new.any fun item => item.1.2 == rewardID && p item.1.1 item.2) = false := by
    refine any_eq_false.2 fun item hitem => ?_
    rw [hnew item hitem, Bool.and_false]
    exact Bool.false_ne_true
  rw [hasItem, hasItem, h, any_append, hfalse, Bool.false_or]
  rw [Bool.eq_iff_iff, any_eq_true, any_eq_true]
  exact exists_congr fun item => and_congr_right fun hitem => by rw [hold item hitem]

/-- The contribution of items that were added to a settlement. -/
theorem sum_added (id id' : String) (items : List (String × Int)) :
    ((added id items).map fun item => if item.1.1 = id' then item.2 else 0).sum =
      if id = id' then (items.map Prod.snd).sum else 0 := by
  rw [added, map_map, map_reverse]
  by_cases hid : id = id'
  · simp [hid, Function.comp_def]
  · simp [hid, Function.comp_def]

variable {referrer currency : String} {amount : Int}

/-- A reward that can be settled. -/
theorem mem_eligibleItems (h : (rewardID, amount) ∈ s.eligibleItems referrer currency now)
    (hs : Books s) :
    ∃ reward, s.rewards.lookup rewardID = some reward ∧ reward.referrerUUID = referrer ∧
      amount = reward.rewardMinor := by
  obtain ⟨reward, hmem, heq⟩ := mem_map.1 h
  cases heq
  obtain ⟨hrow, hsettles⟩ := mem_filter.1 hmem
  obtain ⟨_, hreward⟩ := mem_rows_iff.1 hrow
  obtain rfl := hs.rewardID hreward
  simp only [settles, and_eq_true, beq_iff_eq] at hsettles
  exact ⟨reward, hreward, hsettles.1.1.1.1.1, rfl⟩

/-- A reversed reward that was paid and is to be taken off. -/
theorem mem_clawBackItems (h : (rewardID, amount) ∈ s.clawBackItems referrer currency)
    (hs : Books s) :
    (∃ reward, s.rewards.lookup rewardID = some reward ∧ reward.referrerUUID = referrer ∧
      amount < 0 ∧ amount = -reward.rewardMinor ∧ reward.status = .reversed ∧
      ∃ id, s.status id = some .paid ∧ s.items.lookup (id, reward.id) = some reward.rewardMinor) ∧
      ∀ {id amount'}, s.items.lookup (id, rewardID) = some amount' → amount' < 0 →
        s.isOpen id = false := by
  have hneg := neg_of_mem_clawBackItems h
  obtain ⟨⟨id, event⟩, hmem, heq⟩ := mem_map.1 h
  cases heq
  obtain ⟨hentry, hclaws⟩ := mem_filter.1 hmem
  simp only [clawsBack, and_eq_true, not_eq_true'] at hclaws
  obtain ⟨⟨howner, hpaid⟩, hfree⟩ := hclaws
  obtain ⟨reward, hreward, hreversed, hamount⟩ := hs.event (mem_lookup_iff.2 hentry)
  rw [hreward, Option.any_some, and_eq_true, beq_iff_eq] at howner
  constructor
  · obtain ⟨⟨⟨id', _⟩, amount'⟩, hitem, hp⟩ := any_eq_true.1 hpaid
    simp only [and_eq_true, beq_iff_eq, decide_eq_true_eq] at hp
    obtain ⟨rfl, hpos, hstatus⟩ := hp
    have hitem' := mem_lookup_iff.2 hitem
    obtain ⟨-, _, -, hreward', -, hgrounded⟩ := hs.item hitem'
    cases hreward.symm.trans hreward'
    have hrewardMinor : amount' = reward.rewardMinor := by
      rcases hgrounded with ⟨-, heq⟩ | ⟨hneg', -⟩
      · exact heq
      · exact absurd hpos hneg'.not_gt
    refine ⟨reward, hreward, howner.1, hneg, by rw [hamount], hreversed, id', hstatus, ?_⟩
    rw [hs.rewardID hreward, ← hrewardMinor]
    exact hitem'
  · intro _ _ hitem' hneg'
    by_contra hopen
    have htaken : s.hasItem id (fun settlement amount =>
        decide (amount < 0) && s.isOpen settlement) = true :=
      hasItem_of_lookup hitem' (by simp [hneg', hopen])
    rw [htaken] at hfree
    cases hfree

/-- What is settled or taken off has no item of its sign in a settlement in review or paid. -/
theorem Books.unclaimed (hs : Books s) {id : String} {amount' : Int}
    (h : (rewardID, amount) ∈ s.eligibleItems referrer currency now ∨
      (rewardID, amount) ∈ s.clawBackItems referrer currency)
    (hitem : s.items.lookup (id, rewardID) = some amount') (hopen : s.isOpen id = true) :
    ¬ (0 < amount ↔ 0 < amount') := by
  intro hsign
  rcases h with hmem | hmem
  · exact not_isOpen_of_mem_eligibleItems hmem hitem hopen
  have hneg := neg_of_mem_clawBackItems hmem
  have hneg' : amount' < 0 := by
    obtain ⟨-, _, -, -, -, ⟨hpos, -⟩ | ⟨hneg', -⟩⟩ := hs.item hitem
    · exact absurd (hsign.2 hpos) hneg.not_gt
    · exact hneg'
  cases hopen.symm.trans ((mem_clawBackItems hmem hs).2 hitem hneg')

/-- The tables after a settlement was asked for, with what is paid and what is taken off. -/
structure Opened (s : Store) (settlement : ReferralSettlement) (credits debits : List (String × Int))
    (s' : Store) : Prop where
  fresh : settlement.id ∉ s.settlements
  settlements : s'.settlements = s.settlements.insert settlement.id settlement
  rewards_eq : s'.rewards = s.rewards
  reversals_eq : s'.reversals = s.reversals
  entries : s'.items.entries =
    added settlement.id debits ++ (added settlement.id credits ++ s.items.entries)
  nonzero : ∀ item ∈ credits, item.2 ≠ 0
  status : settlement.status = .pendingReview
  amount : settlement.amountMinor = (credits.map Prod.snd).sum + (debits.map Prod.snd).sum ∧
    0 < settlement.amountMinor

/-- What can be settled does not depend on a settlement without items. -/
theorem eligibleItems_eq {id : String} (hstatus : ∀ id', id' ≠ id → s'.status id' = s.status id')
    (hrewards : s'.rewards = s.rewards) (hrisks : s'.risks = s.risks) (hitems : s'.items = s.items)
    (hne : ∀ item ∈ s.items.entries, item.1.1 ≠ id) (referrer currency : String) (now : Time) :
    s'.eligibleItems referrer currency now = s.eligibleItems referrer currency now := by
  have hsettles : s'.settles referrer currency now = s.settles referrer currency now := by
    funext reward
    have hentries : s'.items.entries = [] ++ s.items.entries := by rw [hitems, nil_append]
    have hitem : s'.hasItem reward.id (fun settlement _ => s'.isOpen settlement) =
        s.hasItem reward.id fun settlement _ => s.isOpen settlement :=
      hasItem_of_entries hentries (fun _ h => absurd h not_mem_nil)
        (fun item hitem => by simp only [isOpen, hstatus _ (hne item hitem)]) reward.id
    simp only [settles, atRisk, hrisks, hitem]
  rw [eligibleItems, eligibleItems, hsettles, hrewards]

/-- What is to be taken off does not depend on a settlement in review without negative items. -/
theorem clawBackItems_eq {id : String} {items : List (String × Int)}
    (hstatus : ∀ id', s'.status id' = if id' = id then some .pendingReview else s.status id')
    (hrewards : s'.rewards = s.rewards) (hreversals : s'.reversals = s.reversals)
    (hentries : s'.items.entries = added id items ++ s.items.entries)
    (hpos : ∀ item ∈ items, 0 < item.2) (hne : ∀ item ∈ s.items.entries, item.1.1 ≠ id)
    (referrer currency : String) :
    s'.clawBackItems referrer currency = s.clawBackItems referrer currency := by
  have hclaws : s'.clawsBack referrer currency = s.clawsBack referrer currency := by
    funext rewardID
    have hpaid := hasItem_of_entries hentries
      (p := fun settlement amount => decide (0 < amount) && s'.status settlement == some .paid)
      (q := fun settlement amount => decide (0 < amount) && s.status settlement == some .paid)
      (fun item hitem => by simp [hstatus, (mem_added.1 hitem).1])
      (fun item hitem => by simp only [hstatus, if_neg (hne item hitem)]) rewardID
    have hopen := hasItem_of_entries hentries
      (p := fun settlement amount => decide (amount < 0) && s'.isOpen settlement)
      (q := fun settlement amount => decide (amount < 0) && s.isOpen settlement)
      (fun item hitem => by simp [(hpos _ (mem_added.1 hitem).2).le])
      (fun item hitem => by simp only [isOpen, hstatus, if_neg (hne item hitem)]) rewardID
    rw [clawsBack, clawsBack, hpaid, hopen, hrewards]
  rw [clawBackItems, clawBackItems, hclaws, hreversals]

/-- A settlement is opened with all that can be settled, and all that is to be taken off: its
    own items change neither. -/
theorem requestReferralSettlement_opened [Unicode] (hs : Books s) {env : Env}
    (h : requestReferralSettlement env s referrer currency now = .ok (s', r)) :
    ∃ currency', r.referrerUUID = referrer ∧
      Opened s r (s.eligibleItems referrer currency' now) (s.clawBackItems referrer currency') s' := by
  simp only [requestReferralSettlement, guard_ok, map_eq_ok,
    Prod.mk.injEq] at h
  generalize Text.toUpper (Text.trimSpace currency) = currency' at h
  obtain ⟨hpos, -, hnew, _, hfill, rfl, hr⟩ := h
  rw [hr] at hfill
  have hid : r.id = env.uuid.val := by rw [← hr]
  have hstatus : r.status = .pendingReview := by rw [← hr]
  rw [← hid] at hnew hfill
  obtain ⟨s₂, hfirst, hsecond⟩ := bind_eq_ok.1 hfill
  -- No item of the new settlement is there.
  have hne : ∀ item ∈ s.items.entries, item.1.1 ≠ r.id := by
    intro item hitem heq
    obtain ⟨settlement, -, hsettlement, -⟩ := hs.item (mem_lookup_iff.2 hitem)
    exact hnew (heq ▸ mem_of_lookup hsettlement)
  have hopened : ∀ id', status { s with settlements := s.settlements.insert r.id r } id' =
      if id' = r.id then some r.status else s.status id' :=
    status_of_insert rfl
  rw [eligibleItems_eq (fun id' hid' => (hopened id').trans (if_neg hid')) rfl rfl rfl hne] at hfirst
  obtain ⟨hs₂, hcredits, hnonzero⟩ := insertItems_ok hfirst
  have hcreditsPos : ∀ item ∈ s.eligibleItems referrer currency' now, 0 < item.2 := by
    intro item hitem
    obtain ⟨_, hreward, -, hamount⟩ := mem_eligibleItems hitem hs
    have hnonneg := hs.nonneg hreward
    have hzero := hnonzero item hitem
    omega
  have hstatus₂ : ∀ id', s₂.status id' = if id' = r.id then some .pendingReview
      else s.status id' := by
    rw [hs₂, ← hstatus]
    exact hopened
  have hdebits := clawBackItems_eq hstatus₂ (by rw [hs₂]) (by rw [hs₂]) hcredits hcreditsPos hne
    referrer currency'
  rw [hdebits] at hsecond
  obtain ⟨hs₁, hentries, -⟩ := insertItems_ok hsecond
  refine ⟨currency', by rw [← hr], hnew, ?_, ?_, ?_, ?_, hnonzero, hstatus, ?_⟩
  · rw [hs₁, hs₂]
  · rw [hs₁, hs₂]
  · rw [hs₁, hs₂]
  · rw [hentries, hcredits]
  · rw [← hr]
    exact ⟨rfl, not_le.1 hpos⟩

namespace Opened

variable {settlement : ReferralSettlement} {credits debits : List (String × Int)}

section

variable (h : Opened s settlement credits debits s')

include h

/-- The statuses after a settlement was opened. -/
theorem status_eq (id : String) :
    s'.status id = if id = settlement.id then some .pendingReview else s.status id := by
  rw [← h.status]
  exact status_of_insert h.settlements id

/-- Items that were there stay. -/
theorem lookup_old {id : String} (hitem : s.items.lookup (id, rewardID) = some amount) :
    s'.items.lookup (id, rewardID) = some amount := by
  refine mem_lookup_iff.2 ?_
  rw [h.entries]
  exact mem_append_right _ (mem_append_right _ (mem_lookup_iff.1 hitem))

/-- An item is a credit or a debit of the new settlement, or was there. -/
theorem lookup_cases {id : String} (hitem : s'.items.lookup (id, rewardID) = some amount) :
    (id = settlement.id ∧ ((rewardID, amount) ∈ credits ∨ (rewardID, amount) ∈ debits)) ∨
      s.items.lookup (id, rewardID) = some amount := by
  have hmem := mem_lookup_iff.1 hitem
  rw [h.entries, mem_append, mem_append, mem_added, mem_added] at hmem
  rcases hmem with ⟨hid, hdebit⟩ | ⟨hid, hcredit⟩ | hold
  · exact .inl ⟨hid, .inr hdebit⟩
  · exact .inl ⟨hid, .inl hcredit⟩
  · exact .inr (mem_lookup_iff.2 hold)

end

/-- The books stay right when a settlement is opened. -/
theorem books (hs : Books s) (hreferrer : settlement.referrerUUID = referrer)
    (h : Opened s settlement (s.eligibleItems referrer currency now)
      (s.clawBackItems referrer currency) s') : Books s' := by
  have hne : ∀ {id rewardID amount}, s.items.lookup (id, rewardID) = some amount →
      id ≠ settlement.id := by
    intro _ _ _ hitem heq
    obtain ⟨_, -, hold, -⟩ := hs.item hitem
    exact h.fresh (heq ▸ mem_of_lookup hold)
  have hpaid : ∀ {id}, s.status id = some .paid → s'.status id = some .paid := by
    intro _ hid
    rw [h.status_eq, if_neg, hid]
    rintro rfl
    rw [Store.status, lookup_eq_none.2 h.fresh] at hid
    cases hid
  have hopen : ∀ {id}, id ≠ settlement.id → s'.isOpen id = true → s.isOpen id = true := by
    intro _ hid hopen
    rwa [isOpen, h.status_eq, if_neg hid] at hopen
  -- The items of the new settlement.
  have hcredit : ∀ {rewardID amount},
      (rewardID, amount) ∈ s.eligibleItems referrer currency now → 0 < amount := by
    intro _ _ hmem
    obtain ⟨reward, hreward, -, hamount⟩ := mem_eligibleItems hmem hs
    have hnonneg := hs.nonneg hreward
    have hzero := h.nonzero _ hmem
    omega
  refine ⟨?_, ?_, ?_, ?_, ?_, ?_, ?_⟩
  · rw [h.rewards_eq]
    exact hs.rewardID
  · rw [h.rewards_eq]
    exact hs.nonneg
  · intro _ _ hrow
    rw [h.settlements] at hrow
    exact forall_insert (fun _ _ => hs.settlementID) rfl hrow
  · intro id row hrow
    rw [h.settlements] at hrow
    have htotal : s'.itemTotal id = (if settlement.id = id then
        ((s.clawBackItems referrer currency).map Prod.snd).sum else 0) +
        ((if settlement.id = id then ((s.eligibleItems referrer currency now).map Prod.snd).sum
          else 0) + s.itemTotal id) := by
      rw [itemTotal, h.entries, map_append, map_append, sum_append,
        sum_append, sum_added, sum_added, itemTotal]
    rcases lookup_insert_iff.1 hrow with ⟨rfl, rfl⟩ | ⟨hid, hold⟩
    · have hzero : s.itemTotal row.id = 0 := by
        refine sum_eq_zero fun x hx => ?_
        obtain ⟨item, hitem, rfl⟩ := mem_map.1 hx
        exact if_neg (hne (mem_lookup_iff.2 hitem))
      rw [htotal, if_pos rfl, if_pos rfl]
      refine ⟨?_, h.amount.2⟩
      rw [h.amount.1]
      omega
    · rw [htotal, if_neg (Ne.symm hid), if_neg (Ne.symm hid), zero_add, zero_add]
      exact hs.amount hold
  · rw [h.reversals_eq, h.rewards_eq]
    exact hs.event
  · intro id _ _ hitem
    rcases h.lookup_cases hitem with ⟨rfl, hmem⟩ | hitem
    · have hrow : s'.settlements.lookup settlement.id = some settlement := by
        rw [h.settlements, lookup_insert]
      rcases hmem with hmem | hmem
      · obtain ⟨reward, hreward, howner, hamount⟩ := mem_eligibleItems hmem hs
        exact ⟨settlement, reward, hrow, h.rewards_eq ▸ hreward, hreferrer.trans howner.symm,
          .inl ⟨hcredit hmem, hamount⟩⟩
      · obtain ⟨⟨reward, hreward, howner, hneg, hamount, hreversed, id', hpaid', hitem'⟩, -⟩ :=
          mem_clawBackItems hmem hs
        exact ⟨settlement, reward, hrow, h.rewards_eq ▸ hreward, hreferrer.trans howner.symm,
          .inr ⟨hneg, hamount, hreversed, id', hpaid hpaid', h.lookup_old hitem'⟩⟩
    · obtain ⟨row, reward, hrow, hreward, howner, hgrounded⟩ := hs.item hitem
      refine ⟨row, reward, ?_, h.rewards_eq ▸ hreward, howner, ?_⟩
      · rw [h.settlements, lookup_insert_ne (hne hitem)]
        exact hrow
      · rcases hgrounded with hpos | ⟨hneg, hamount, hreversed, id', hpaid', hitem'⟩
        · exact .inl hpos
        · exact .inr ⟨hneg, hamount, hreversed, id', hpaid hpaid', h.lookup_old hitem'⟩
  · intro _ _ _ _ _ hopen₁ hopen₂ hitem₁ hitem₂ hsign
    rcases h.lookup_cases hitem₁ with ⟨he₁, hmem₁⟩ | hold₁ <;>
      rcases h.lookup_cases hitem₂ with ⟨he₂, hmem₂⟩ | hold₂
    · rw [he₁, he₂]
    · exact absurd hsign (hs.unclaimed hmem₁ hold₂ (hopen (hne hold₂) hopen₂))
    · exact absurd hsign.symm (hs.unclaimed hmem₂ hold₁ (hopen (hne hold₁) hopen₁))
    · exact hs.single (hopen (hne hold₁) hopen₁) (hopen (hne hold₂) hopen₂) hold₁ hold₂ hsign

end Opened

/-! ## Runs -/

/-- The books stay right, if no settlement is reconciled whose place was taken. -/
theorem Books.step [Unicode] (hs : Books s) (a : Action) (hunclaimed : Unclaimed s a) :
    Books (step s a) := by
  rw [Referrals.step]
  rcases hcall : a.call s with e | s'
  · exact hs
  cases a with
  | createReferralReward =>
    obtain ⟨⟨s₁, b⟩, hok, rfl⟩ := map_eq_ok.1 hcall
    rcases createReferralReward_ok hok with hsame | ⟨_, -, hnonneg, -, -, -, htaken,
      hrewards, -, hreversals, hsettlements, hitems⟩
    · rw [hsame]
      exact hs
    · exact hs.insertReward hnonneg htaken hrewards hreversals hsettlements hitems
  | recordReferralRisk =>
    exact recordReferralRisk_books hs hcall
  | requestReferralSettlement =>
    obtain ⟨⟨s₁, r⟩, hok, rfl⟩ := map_eq_ok.1 hcall
    obtain ⟨_, hreferrer, hopened⟩ := requestReferralSettlement_opened hs hok
    exact hopened.books hs hreferrer
  | completeReferralSettlement =>
    obtain ⟨⟨s₁, r⟩, hok, rfl⟩ := map_eq_ok.1 hcall
    exact (completeReferralSettlement_moved hok).books_of_reviewed hs
      (completeReferralSettlement_reviewed hok)
  | reconcileReferralSettlement =>
    obtain ⟨⟨s₁, r⟩, hok, rfl⟩ := map_eq_ok.1 hcall
    exact reconcileReferralSettlement_books hs hunclaimed hok
  | rejectReferralSettlement =>
    obtain ⟨r, hok, -⟩ := map_eq_ok.1 hcall
    exact absurd hok (rejectReferralSettlement_ne_ok r)
  | reverseReferralReward rewardID =>
    exact (reverseReferralReward_moved hs.rewardID hcall).books_of_reviewed hs
      (reverseReferralReward_reviewed hcall)

/-- Along every run that reconciles no rejected settlement while another has an item of the
    same sign for one of its rewards, the settlements add up in all states. -/
theorem accounted_of_unclaimed [Unicode] (referrals : Table String Referral) {as : List Action}
    (h : Run.Guarded step Unclaimed (.init referrals) as) :
    (Run.exec step (.init referrals) as).Accounted := by
  refine (h.exec_induction (P := Books) (fun _ a ha hs => hs.step a ha) ?_).accounted
  refine ⟨?_, ?_, ?_, ?_, ?_, ?_, ?_⟩ <;> intros <;> simp_all [init]

/-! ## A reward that is taken off twice -/

namespace ClawBacks

local instance : Unicode := Unicode.ascii

/-- Three accounts that were invited by one. -/
def invited : Table String Referral :=
  ((AList.insert "ann" ⟨"r", "ref"⟩ ∅ : Table String Referral).insert "bob" ⟨"r2", "ref"⟩).insert
    "cyd" ⟨"r3", "ref"⟩

/-- The identifier with a text. -/
def named (val : String) (h : val ≠ "" ∧ Text.trimSpace val = val) : Uuid := ⟨val, h.1, h.2⟩

/-- The identifiers of rewards and settlements. -/
def a : Uuid := named "a" (by decide)
def b : Uuid := named "b" (by decide)
def c : Uuid := named "c" (by decide)
def s₁ : Uuid := named "s1" (by decide)
def s₂ : Uuid := named "s2" (by decide)
def s₃ : Uuid := named "s3" (by decide)

/-- What a call with a new identifier finds outside. -/
def call (uuid : Uuid) : Env := { Env.sample 0 with uuid := uuid }

/-- The first payment of an account, with the amount of its reward. -/
def pays (env : Env) (inviteeUUID invoice : String) (amount : Int) : Action :=
  .createReferralReward env
    { monthlyReward inviteeUUID invoice with paidMinor := 10 * amount, rewardMinor := amount } true
    none

/-- All rewards are settled. -/
def settles (env : Env) : Action := .requestReferralSettlement env "ref" "USD" (9 * Time.day)

/-- The reward `a` is paid, and reversed. It is taken off the settlement `s2`, which is rejected as
    its other reward is reversed, too, and off the next one. Then `s2` turns out to be paid. -/
def twice : List Action :=
  [ pays (call a) "ann" "in_a" 100,
    settles (call s₁),
    .completeReferralSettlement "s1" "wire-1" (9 * Time.day),
    .reverseReferralReward "a" "k1" "fraud" (9 * Time.day),
    pays (call b) "bob" "in_b" 200,
    settles (call s₂),
    .reverseReferralReward "b" "k2" "fraud" (9 * Time.day),
    pays (call c) "cyd" "in_c" 200,
    settles (call s₃),
    .reconcileReferralSettlement "s2" "wire-2" "paid by bank" (9 * Time.day),
    .completeReferralSettlement "s3" "wire-3" (9 * Time.day)]

/-- The referrer is paid less than the rewards that were paid, less the one taken off. -/
theorem taken_off_twice : let s := Run.exec step (.init invited) twice
    s.items.lookup ("s2", "a") = some (-100) ∧ s.items.lookup ("s3", "a") = some (-100) ∧
      s.paidTotal "ref" = 300 ∧ s.dueTotal "ref" = 400 ∧ ¬ s.Accounted := by
  intro s
  have hitems : s.items.lookup ("s2", "a") = some (-100) ∧
      s.items.lookup ("s3", "a") = some (-100) := by decide +kernel
  have htotals : s.paidTotal "ref" = 300 ∧ s.dueTotal "ref" = 400 := by decide +kernel
  refine ⟨hitems.1, hitems.2, htotals.1, htotals.2, fun h => ?_⟩
  have htotal := h.total "ref"
  cases htotal

/-- A settlement in review is held, as its reward was refunded, and turns out to be paid. The
    reward is taken off the next settlement. -/
def reconciled : List Action :=
  [ pays (call a) "ann" "in_a" 100,
    settles (call s₁),
    .recordReferralRisk ⟨"k", "in_a", .refund, "refund", 0⟩,
    .reconcileReferralSettlement "s1" "wire-1" "paid by bank" (9 * Time.day),
    pays (call b) "bob" "in_b" 200,
    settles (call s₂),
    .completeReferralSettlement "s2" "wire-2" (9 * Time.day)]

/-- The settlement that is reconciled is not rejected. -/
theorem accounted_of_unclaimed_sample :
    (Run.exec step (.init invited) reconciled).paidTotal "ref" = 200 ∧
      (Run.exec step (.init invited) reconciled).Accounted := by
  refine ⟨by decide +kernel, accounted_of_unclaimed invited ?_⟩
  have hstatus : (Run.exec step (.init invited) (reconciled.take 3)).status "s1" =
      some .pendingReview := by decide +kernel
  refine ⟨trivial, trivial, trivial, fun _ _ _ hrejected => ?_, trivial, trivial, trivial, trivial⟩
  cases hstatus.symm.trans hrejected

end ClawBacks

end Accounts.Referrals

import Accounts.Referrals.Store

/-!
# What the calls write

What becomes of the tables when a reward is reversed, by a risk or by hand
(`TakenBack`): its status is reversed and stays so, the days added for it are
taken back, and an event with its amount is recorded. What the other calls write:
a new reward (`createReferralReward_ok`), or a settlement and its items
(`insertItems_ok`).
-/

namespace Accounts.Referrals

open Except AList Table List Option Store

/-- Days that were taken back, if they were applied. -/
def SubscriptionExtension.takenBack (sourceKey : String) (extension : SubscriptionExtension) :
    SubscriptionExtension :=
  if extension.status = .applied then
    { extension with status := .reversed, reversalSourceKey := some sourceKey }
  else extension

theorem SubscriptionExtension.takenBack_status (sourceKey : String)
    (extension : SubscriptionExtension) : (extension.takenBack sourceKey).status = .reversed := by
  rw [takenBack]
  split_ifs with h
  · rfl
  · cases hstatus : extension.status with
    | applied => exact absurd hstatus h
    | reversed => rfl

/-- The tables after a reward was reversed, with `f` for the settlements that were in review. -/
structure TakenBack (s : Store) (reward : ReferralReward)
    (f : ReferralSettlement → ReferralSettlement) (s' : Store) : Prop where
  referrals_eq : s'.referrals = s.referrals
  risks_eq : s'.risks = s.risks
  items_eq : s'.items = s.items
  /-- The reward is reversed, and no other is changed. -/
  rewards : s.rewards.lookup reward.id = some reward → ∀ id, s'.rewards.lookup id =
    if id = reward.id then some { reward with status := .reversed } else s.rewards.lookup id
  /-- The days added for it are taken back. -/
  extensions : ∃ sourceKey, ∀ id, s'.extensions.lookup id =
    if id = reward.id then (s.extensions.lookup id).map (·.takenBack sourceKey)
    else s.extensions.lookup id
  /-- The event has the amount of the reward. -/
  reversals : ∀ id event, s'.reversals.lookup id = some event → s.reversals.lookup id = some event ∨
      (id = reward.id ∧ event.amountMinor = reward.rewardMinor)
  settlements : ∀ id, s'.settlements.lookup id = s.settlements.lookup id ∨
    ∃ settlement, s.settlements.lookup id = some settlement ∧
      settlement.status = .pendingReview ∧ s'.settlements.lookup id = some (f settlement)

variable {s s' : Store}

/-- What a reversal does to the reward and its event. -/
theorem reverse_ok {reward : ReferralReward} {key reason : String}
    (h : s.reverse reward key reason = .ok s') :
    s'.referrals = s.referrals ∧ s'.risks = s.risks ∧ s'.items = s.items ∧
      s'.extensions = s.extensions ∧ s'.settlements = s.settlements ∧
      (s.rewards.lookup reward.id = some reward → ∀ id, s'.rewards.lookup id =
        if id = reward.id then some { reward with status := .reversed } else s.rewards.lookup id) ∧
      ∀ id event, s'.reversals.lookup id = some event → s.reversals.lookup id = some event ∨
        (id = reward.id ∧ event.amountMinor = reward.rewardMinor) := by
  have hinsert : ∀ id, (s.rewards.insert reward.id { reward with status := .reversed }).lookup id =
      if id = reward.id then some { reward with status := .reversed } else s.rewards.lookup id := by
    intro _
    split_ifs with hid
    · rw [hid, lookup_insert]
    · rw [lookup_insert_ne hid]
  rw [Store.reverse] at h
  split_ifs at h with hreversed hpos hmem
  · -- The reward is reversed already.
    cases h
    refine ⟨rfl, rfl, rfl, rfl, rfl, fun hreward id => ?_, fun _ _ => .inl⟩
    split_ifs with hid
    · rw [hid, hreward, ← hreversed]
    · rfl
  · cases h
    exact ⟨rfl, rfl, rfl, rfl, rfl, fun _ => hinsert, fun _ _ => .inl⟩
  · cases h
    refine ⟨rfl, rfl, rfl, rfl, rfl, fun _ => hinsert, fun id event hevent => ?_⟩
    rcases lookup_insert_iff.1 hevent with ⟨hid, rfl⟩ | ⟨-, hold⟩
    · exact .inr ⟨hid, rfl⟩
    · exact .inl hold
  · cases h
    exact ⟨rfl, rfl, rfl, rfl, rfl, fun _ => hinsert, fun _ _ => .inl⟩

/-- Taking back the days added for a reward changes no other table. -/
theorem reverseExtension_ok {rewardID key : String} (h : s.reverseExtension rewardID key = .ok s') :
    ∃ extensions, s' = { s with extensions := extensions } ∧ ∀ id, extensions.lookup id =
      if id = rewardID then (s.extensions.lookup id).map (·.takenBack key)
      else s.extensions.lookup id := by
  rw [reverseExtension] at h
  cases hfound : s.extensions.lookup rewardID with
  | none =>
    rw [hfound] at h
    cases h
    refine ⟨_, rfl, fun id => ?_⟩
    split_ifs with hid
    · rw [hid, hfound, map_none]
    · rfl
  | some =>
    rw [hfound] at h
    dsimp only at h
    split_ifs at h with hstatus
    · cases h
      refine ⟨_, rfl, fun id => ?_⟩
      split_ifs with hid
      · rw [hid, hfound, map_some, SubscriptionExtension.takenBack, if_neg hstatus]
      · rfl
    · cases h
      refine ⟨_, rfl, fun id => ?_⟩
      split_ifs with hid
      · rw [not_not] at hstatus
        rw [hid, lookup_insert, hfound, map_some, SubscriptionExtension.takenBack,
          if_pos hstatus]
      · rw [lookup_insert_ne hid]

section

variable {reward : ReferralReward} {f : ReferralSettlement → ReferralSettlement}

/-- What `takeBack` does. -/
theorem takeBack_ok {key reason : String} {p : Int → Bool}
    (h : s.takeBack reward key reason p f = .ok s') : TakenBack s reward f s' := by
  obtain ⟨_, hreverse, h⟩ := bind_eq_ok.1 h
  obtain ⟨hreferrals, hrisks, hitems, hextensions, hsettlements, hrewards, hreversals⟩ :=
    reverse_ok hreverse
  obtain ⟨_, rfl, hlookup⟩ := reverseExtension_ok h
  refine ⟨hreferrals, hrisks, hitems, hrewards, ⟨key, fun id => ?_⟩, hreversals, fun id => ?_⟩
  · rw [hlookup id]
    simp only [updateInReview, hextensions]
  simp only [updateInReview, lookup_mapRows, hsettlements]
  rcases hfound : s.settlements.lookup id with _ | settlement
  · exact .inl rfl
  simp only [map_some]
  split_ifs with hpending
  · exact .inr ⟨settlement, rfl, hpending.1, rfl⟩
  · exact .inl rfl

/-- The days for the reward do not count any more. -/
theorem TakenBack.total_extensions (h : TakenBack s reward f s')
    {days : SubscriptionExtension → Int} (hdays : ∀ x, x.status = .reversed → days x = 0) :
    total days s'.extensions = total days (s.extensions.erase reward.id) := by
  obtain ⟨key, hlookup⟩ := h.extensions
  have herase : total days (s'.extensions.erase reward.id) =
      total days (s.extensions.erase reward.id) := by
    refine total_eq_of_lookup days fun id => ?_
    by_cases hid : id = reward.id
    · rw [hid, lookup_erase, lookup_erase]
    · rw [lookup_erase_ne hid, lookup_erase_ne hid, hlookup, if_neg hid]
  rw [← herase]
  -- The days for the reward, if there are any, are taken back.
  cases hfound : s.extensions.lookup reward.id with
  | none =>
    have hnone : reward.id ∉ s'.extensions :=
      lookup_eq_none.1 (by rw [hlookup, if_pos rfl, hfound, map_none])
    rw [show s'.extensions.erase reward.id = s'.extensions from
      AList.ext (kerase_of_notMem_keys hnone)]
  | some x =>
    have hsome : s'.extensions.lookup reward.id = some (x.takenBack key) := by
      rw [hlookup, if_pos rfl, hfound, map_some]
    rw [total_eq_add_erase days hsome, hdays _ (x.takenBack_status key), zero_add]

end

/-- Recording a risk reverses the reward of its invoice, if there is one. -/
theorem recordReferralRisk_ok {risk : ReferralPaymentRisk}
    (h : recordReferralRisk s risk = .ok s') :
    (s.rewardOf risk.providerInvoiceID = none ∧ s' = s.insertRisk risk) ∨
      ∃ reward, s.rewardOf risk.providerInvoiceID = some reward ∧
        TakenBack (s.insertRisk risk) reward (fun settlement =>
            { settlement with reason := "payment risk hold: " ++ risk.type.text }) s' := by
  rw [recordReferralRisk, guard_ok] at h
  obtain ⟨-, h⟩ := h
  have hreward : (s.insertRisk risk).rewardOf risk.providerInvoiceID =
      s.rewardOf risk.providerInvoiceID := by
    rw [insertRisk]
    split_ifs <;> rfl
  dsimp only at h
  rw [hreward] at h
  cases hfound : s.rewardOf risk.providerInvoiceID with
  | none =>
    rw [hfound] at h
    cases h
    exact .inl ⟨rfl, rfl⟩
  | some reward =>
    rw [hfound] at h
    exact .inr ⟨reward, rfl, takeBack_ok h⟩

/-- Reversing a reward by hand. -/
theorem reverseReferralReward_ok {rewardID key reason : String} {now : Time}
    (h : reverseReferralReward s rewardID key reason now = .ok s') :
    s' = s ∨ ∃ reward f, s.rewards.lookup rewardID = some reward ∧ TakenBack s reward f s' ∧
      ∀ settlement, (f settlement).id = settlement.id ∧
        (f settlement).referrerUUID = settlement.referrerUUID ∧
        (f settlement).amountMinor = settlement.amountMinor := by
  rw [reverseReferralReward] at h
  split at h
  · cases h
  next reward hreward =>
  split_ifs at h
  · cases h
    exact .inl rfl
  · exact .inr ⟨reward, _, hreward, takeBack_ok h, fun _ => ⟨rfl, rfl, rfl⟩⟩

/-- The invoices at risk after a risk was recorded. -/
theorem atRisk_insertRisk (s : Store) (risk : ReferralPaymentRisk) (invoice : String) :
    (s.insertRisk risk).atRisk invoice = (s.atRisk invoice || (decide (risk.sourceKey ∉ s.risks) &&
        risk.providerInvoiceID == invoice)) := by
  rw [insertRisk]
  split_ifs with hmem
  · simp [hmem]
  · simp only [atRisk, rows_insert_of_notMem _ hmem, any_cons, hmem,
      not_false_eq_true, decide_true, Bool.true_and, Bool.or_comm]

/-! ## Other calls -/

/-- A new reward: there is none for the account, and none with its invoice, and its invoice
    is not at risk. Its amount is not negative. -/
theorem createReferralReward_ok [Unicode] {env : Env} {reward : ReferralReward}
    {firstPaid b : Bool} {annual : Option (String × Time)}
    (h : createReferralReward env s reward firstPaid annual = .ok (s', b)) :
    s' = s ∨ ∃ recorded, recorded.providerInvoiceID = reward.providerInvoiceID ∧
      0 ≤ recorded.rewardMinor ∧ recorded.status = .pending ∧
      (∀ other ∈ rows s.rewards, other.inviteeUUID ≠ recorded.inviteeUUID) ∧
      s.atRisk (Text.trimSpace reward.providerInvoiceID) = false ∧
      s.rewardTaken recorded = false ∧ s'.rewards = s.rewards.insert recorded.id recorded ∧
      s'.risks = s.risks ∧ s'.reversals = s.reversals ∧ s'.settlements = s.settlements ∧
      s'.items = s.items := by
  simp only [createReferralReward, guard_ok] at h
  obtain ⟨hvalid, h⟩ := h
  have hamount : 0 ≤ reward.rewardMinor := by
    simp only [ReferralReward.valid, Bool.and_eq_true, decide_eq_true_eq, beq_iff_eq,
      not_not] at hvalid
    omega
  split at h
  · cases h
  next referral _ =>
  rw [guard_ok] at h
  obtain ⟨-, h⟩ := h
  by_cases hprior : (rows s.rewards).any
        (·.inviteeUUID == Text.trimSpace reward.inviteeUUID) = true ∨
      s.atRisk (Text.trimSpace reward.providerInvoiceID) = true
  · rw [if_pos hprior] at h
    cases h
    exact .inl rfl
  rw [if_neg hprior] at h
  rw [not_or, Bool.not_eq_true, Bool.not_eq_true, List.any_eq_false] at hprior
  by_cases hfirst : ¬ firstPaid
  · rw [if_pos hfirst] at h
    cases h
    exact .inl rfl
  rw [if_neg hfirst] at h
  generalize hrecorded : reward.recorded env referral _ = recorded at h
  have hinvitee : recorded.inviteeUUID = Text.trimSpace reward.inviteeUUID := by
    rw [← hrecorded]
    rfl
  by_cases htaken : s.rewardTaken recorded = true
  · rw [if_pos htaken] at h
    cases h
    exact .inl rfl
  rw [if_neg htaken] at h
  obtain ⟨_, hinsert, he⟩ := map_eq_ok.1 h
  cases he
  simp only [insertReward, guard_ok, ok.injEq] at hinsert
  obtain ⟨-, hs'⟩ := hinsert
  refine .inr ⟨recorded, ?_, ?_, ?_, fun other hother heq => ?_, hprior.2,
    Bool.eq_false_of_not_eq_true htaken, ?_⟩
  · rw [← hrecorded]
    rfl
  · rw [← hrecorded]
    exact hamount
  · rw [← hrecorded]
    rfl
  · exact hprior.1 other hother (beq_iff_eq.2 (heq.trans hinvitee))
  · rw [← hs']
    exact ⟨rfl, rfl, rfl, rfl, rfl⟩

/-- Items as they are added to a settlement. -/
def added (id : String) (items : List (String × Int)) : List (Sigma fun _ : String × String => Int) :=
  items.reverse.map fun item => ⟨(id, item.1), item.2⟩

variable {id : String} {items : List (String × Int)}

theorem mem_added {item : Sigma fun _ : String × String => Int} :
    item ∈ added id items ↔ item.1.1 = id ∧ (item.1.2, item.2) ∈ items := by
  simp only [added, List.mem_map, mem_reverse]
  constructor
  · rintro ⟨⟨_, _⟩, hmem, heq⟩
    cases heq
    exact ⟨rfl, hmem⟩
  · rintro ⟨rfl, hmem⟩
    exact ⟨_, hmem, rfl⟩

variable (h : s.insertItems id items = .ok s')

include h

/-- Items are all that is written, and those that were added come first. -/
theorem insertItems_ok :
    s' = { s with items := s'.items } ∧ s'.items.entries = added id items ++ s.items.entries ∧
      ∀ item ∈ items, item.2 ≠ 0 := by
  induction items generalizing s with
  | nil =>
    cases h
    exact ⟨rfl, rfl, fun _ h => absurd h not_mem_nil⟩
  | cons _ _ ih =>
    simp only [insertItems, guard_ok] at h
    obtain ⟨hne, hnew, h⟩ := h
    obtain ⟨hrest, hentries, hnonzero⟩ := ih h
    refine ⟨hrest, ?_, forall_mem_cons.2 ⟨hne, hnonzero⟩⟩
    rw [hentries, entries_insert_of_notMem hnew]
    simp [added]

/-- An item was added, or there before. -/
theorem mem_of_insertItems {rewardID : String} {amount : Int} {id' : String}
    (hitem : s'.items.lookup (id', rewardID) = some amount) :
    s.items.lookup (id', rewardID) = some amount ∨ (id' = id ∧ (rewardID, amount) ∈ items) := by
  have hmem := mem_lookup_iff.1 hitem
  rw [(insertItems_ok h).2.1, mem_append, mem_added] at hmem
  rcases hmem with hnew | hold
  · exact .inr hnew
  · exact .inl (mem_lookup_iff.2 hold)

end Accounts.Referrals

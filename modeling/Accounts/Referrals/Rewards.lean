import Accounts.Referrals.Settlement

/-!
# Rewards of refunded invoices

An invoice that was refunded or disputed earns no reward: a reward that is there when the
risk is recorded is reversed, and the risk stays recorded, so that a payment that is
reported later does not earn one (`Reporting.Effective`). An invited account and an invoice
have one reward at most.

Calls other than those that record a reward or a risk change the status of rewards at most,
and never that of a reversed one (`StatusOnly`). Two things break the rule. A risk is not
recorded if its source is that of a risk of another invoice. And an invoice with white space
around its number is looked up among the risks without it, but is stored with it. Along the
runs in which neither happens, risks are effective in any order (`effective_of_careful`);
without this they are not (`reward_of_refunded_invoice`).
-/

namespace Accounts.Referrals

open Except Table List Store

/-! ## The status of rewards -/

/-- Rewards change their status at most, and reversed ones do not. -/
structure StatusOnly (s s' : Store) : Prop where
  risks_eq : s'.risks = s.risks
  rewards : ∀ id, s'.rewards.lookup id = s.rewards.lookup id ∨ ∃ reward status,
    s.rewards.lookup id = some reward ∧ reward.status ≠ .reversed ∧
      s'.rewards.lookup id = some { reward with status := status }

variable {id : String} {reward : ReferralReward}

namespace StatusOnly

variable {s s' : Store}

theorem of_eq (hrisks : s'.risks = s.risks) (hrewards : s'.rewards = s.rewards) : StatusOnly s s' :=
  ⟨hrisks, fun _ => .inl (by rw [hrewards])⟩

theorem refl (s : Store) : StatusOnly s s := .of_eq rfl rfl

/-- A reward was there before, and a reversed one is reversed. -/
theorem exists_reward (h : StatusOnly s s') (hreward : s'.rewards.lookup id = some reward) :
    ∃ old, s.rewards.lookup id = some old ∧ reward = { old with status := reward.status } ∧
      (old.status = .reversed → reward.status = .reversed) := by
  rcases h.rewards id with heq | ⟨old, status, hold, hne, hnew⟩
  · exact ⟨reward, heq ▸ hreward, rfl, fun h => h⟩
  · cases hreward.symm.trans hnew
    exact ⟨old, hold, rfl, fun hreversed => absurd hreversed hne⟩

end StatusOnly

variable {s s' : Store}

/-- A reward that is reversed. -/
theorem TakenBack.statusOnly {f : ReferralSettlement → ReferralSettlement}
    (h : TakenBack s reward f s') (hreward : s.rewards.lookup reward.id = some reward) :
    StatusOnly s s' := by
  refine ⟨h.risks_eq, fun id => ?_⟩
  have hid := h.rewards hreward id
  split_ifs at hid with heq
  · subst heq
    by_cases hreversed : reward.status = .reversed
    · left
      rw [hid, hreward, ← hreversed]
    · exact .inr ⟨reward, .reversed, hreward, hreversed, hid⟩
  · exact .inl hid

variable {now : Time}

/-- The rewards of a settlement that is paid are settled. -/
theorem pay_statusOnly {settlement : ReferralSettlement} (h : s.pay settlement = .ok s') :
    StatusOnly s s' := by
  simp only [pay, guard_ok, ok.injEq] at h
  obtain ⟨-, rfl⟩ := h
  refine ⟨rfl, fun id => ?_⟩
  simp only [lookup_mapRows]
  rcases s.rewards.lookup id with _ | reward
  · exact .inl rfl
  rw [Option.map_some]
  split_ifs with hpaid
  · refine .inr ⟨reward, .settled, rfl, fun hreversed => ?_, rfl⟩
    rcases hpaid.2 with hstatus | hstatus <;> cases hreversed.symm.trans hstatus
  · exact .inl rfl

/-- Rewards change their status at most, and the items stay as they are. Settlements keep their
    referrer and their amount, and stay paid; an event is of a reversed reward. -/
structure Moved (s s' : Store) : Prop extends StatusOnly s s' where
  items_eq : s'.items = s.items
  settlements : ∀ id, s'.settlements.lookup id = s.settlements.lookup id ∨
    ∃ settlement settlement', s.settlements.lookup id = some settlement ∧
      s'.settlements.lookup id = some settlement' ∧ (settlement.id = id → settlement'.id = id) ∧
      settlement'.referrerUUID = settlement.referrerUUID ∧
      settlement'.amountMinor = settlement.amountMinor ∧ settlement.status ≠ .paid
  reversals : ∀ id event, s'.reversals.lookup id = some event →
    s.reversals.lookup id = some event ∨ ∃ reward, s'.rewards.lookup id = some reward ∧
      reward.status = .reversed ∧ event.amountMinor = reward.rewardMinor

theorem Moved.refl (s : Store) : Moved s s :=
  ⟨.refl s, rfl, fun _ => .inl rfl, fun _ _ => .inl⟩

/-- A reward is reversed. -/
theorem TakenBack.moved {f : ReferralSettlement → ReferralSettlement}
    (h : TakenBack s reward f s') (hreward : s.rewards.lookup reward.id = some reward)
    (hf : ∀ settlement, (f settlement).id = settlement.id ∧
      (f settlement).referrerUUID = settlement.referrerUUID ∧
      (f settlement).amountMinor = settlement.amountMinor) : Moved s s' where
  toStatusOnly := h.statusOnly hreward
  items_eq := h.items_eq
  settlements id := by
    rcases h.settlements id with heq | ⟨settlement, hsettlement, hpending, hnew⟩
    · exact .inl heq
    · obtain ⟨hid, hreferrer, hamount⟩ := hf settlement
      refine .inr ⟨settlement, f settlement, hsettlement, hnew, hid.trans, hreferrer, hamount, ?_⟩
      rw [hpending]
      decide
  reversals id event hevent := by
    rcases h.reversals id event hevent with hold | ⟨rfl, hamount⟩
    · exact .inl hold
    · exact .inr ⟨{ reward with status := .reversed }, by rw [h.rewards hreward, if_pos rfl], rfl,
        hamount⟩

/-- A settlement that was not paid is paid. -/
theorem pay_moved {old settlement : ReferralSettlement} (h : s.pay settlement = .ok s')
    (hold : s.settlements.lookup settlement.id = some old) (hne : old.status ≠ .paid)
    (hreferrer : settlement.referrerUUID = old.referrerUUID)
    (hamount : settlement.amountMinor = old.amountMinor) : Moved s s' := by
  have hstatus := pay_statusOnly h
  simp only [pay, guard_ok, ok.injEq] at h
  obtain ⟨-, rfl⟩ := h
  refine ⟨hstatus, rfl, fun id => ?_, fun _ _ => .inl⟩
  by_cases hid : id = settlement.id
  · subst hid
    exact .inr ⟨old, settlement, hold, AList.lookup_insert _, fun _ => rfl, hreferrer, hamount, hne⟩
  · exact .inl (AList.lookup_insert_ne hid)

/-- A reward is reversed by hand. -/
theorem reverseReferralReward_moved {rewardID key reason : String}
    (hkeyed : ∀ {id reward}, s.rewards.lookup id = some reward → reward.id = id)
    (h : reverseReferralReward s rewardID key reason now = .ok s') : Moved s s' := by
  rcases reverseReferralReward_ok h with rfl | ⟨reward, f, hreward, htaken, hf⟩
  · exact .refl _
  · obtain rfl := hkeyed hreward
    exact htaken.moved hreward hf

variable {r : ReferralSettlement}

theorem completeReferralSettlement_moved {payout : String}
    (h : completeReferralSettlement s id payout now = .ok (s', r)) : Moved s s' := by
  rcases completeReferralSettlement_cases h with rfl | ⟨_, hfound, hpending, hpay⟩
  · exact .refl _
  · refine pay_moved hpay hfound ?_ rfl rfl
    rw [hpending]
    decide

theorem reconcileReferralSettlement_moved {payout reason : String}
    (h : reconcileReferralSettlement s id payout reason now = .ok (s', r)) : Moved s s' := by
  rcases reconcileReferralSettlement_cases h with ⟨-, rfl⟩ | ⟨_, hfound, hpaid, hpay⟩
  · exact .refl _
  · exact pay_moved hpay hfound hpaid rfl rfl

/-! ## Reported risks -/

/-- The tables, and the invoices of the risks that calls have recorded. -/
structure Reporting where
  store : Store
  reported : List String := []

/-- The invoice of the risk that a call records. -/
def Action.reports : Action → List String
  | .recordReferralRisk risk => [risk.providerInvoiceID]
  | _ => []

/-- A step: a call that succeeds is kept in mind. -/
def Reporting.step [Unicode] (sys : Reporting) (a : Action) : Reporting :=
  match a.call sys.store with
  | .ok s => { store := s, reported := a.reports ++ sys.reported }
  | .error _ => sys

/-- A risk is effective, no matter when it was reported: the rewards of its invoice are
    reversed. An invited account and an invoice have one reward at most. -/
structure Reporting.Effective (sys : Reporting) : Prop where
  reversed : ∀ {id reward}, sys.store.rewards.lookup id = some reward →
    reward.providerInvoiceID ∈ sys.reported ∨ sys.store.atRisk reward.providerInvoiceID = true →
    reward.status = .reversed
  invitee : ∀ {id id' reward reward'}, sys.store.rewards.lookup id = some reward →
    sys.store.rewards.lookup id' = some reward' → reward.inviteeUUID = reward'.inviteeUUID →
    id = id'
  invoice : ∀ {id id' reward reward'}, sys.store.rewards.lookup id = some reward →
    sys.store.rewards.lookup id' = some reward' →
    reward.providerInvoiceID = reward'.providerInvoiceID → id = id'

/-- A reward is for an invoice whose number has no white space around it, or which is not at
    risk. The source of a risk is new, or was the source of a risk of the same invoice. -/
def Careful [Unicode] (sys : Reporting) : Action → Prop
  | .createReferralReward _ reward .. =>
    Text.trimSpace reward.providerInvoiceID = reward.providerInvoiceID ∨
      sys.store.atRisk reward.providerInvoiceID = false
  | .recordReferralRisk risk => ∀ old ∈ sys.store.risks.lookup risk.sourceKey,
    old.providerInvoiceID = risk.providerInvoiceID
  | _ => True

instance [Unicode] (sys : Reporting) : (a : Action) → Decidable (Careful sys a)
  | .createReferralReward .. => inferInstanceAs (Decidable (_ ∨ _))
  | .recordReferralRisk _ => inferInstanceAs (Decidable (∀ _ ∈ _, _))
  | .requestReferralSettlement .. | .completeReferralSettlement .. |
    .reconcileReferralSettlement .. | .rejectReferralSettlement .. |
    .reverseReferralReward .. => .isTrue trivial

/-- The reward of an invoice. -/
theorem rewardOf_eq_some {invoice : String} (h : s.rewardOf invoice = some reward) :
    reward ∈ rows s.rewards ∧ reward.providerInvoiceID = invoice := by
  have hfound := find?_some h
  exact ⟨mem_of_find?_eq_some h, beq_iff_eq.1 hfound⟩

/-- No two rewards have the same value of a field. -/
def Store.OneFor (s : Store) (f : ReferralReward → String) : Prop :=
  ∀ {id id' reward reward'}, s.rewards.lookup id = some reward →
    s.rewards.lookup id' = some reward' → f reward = f reward' → id = id'

/-- Rewards are kept by their identifiers, and an invited account and an invoice have one at
    most. -/
structure Store.OneEach (s : Store) : Prop where
  keyed : ∀ {id reward}, s.rewards.lookup id = some reward → reward.id = id
  invitee : s.OneFor (·.inviteeUUID)
  invoice : s.OneFor (·.providerInvoiceID)

theorem StatusOnly.oneFor (h : StatusOnly s s') {f : ReferralReward → String}
    (hf : ∀ reward status, f { reward with status := status } = f reward) (hs : s.OneFor f) :
    s'.OneFor f := by
  intro _ _ _ _ hreward hreward' heq
  obtain ⟨old, hold, hnew, -⟩ := h.exists_reward hreward
  obtain ⟨old', hold', hnew', -⟩ := h.exists_reward hreward'
  rw [hnew, hnew', hf old, hf old'] at heq
  exact hs hold hold' heq

/-- The status of a reward does not matter. -/
theorem StatusOnly.oneEach (h : StatusOnly s s') (hs : s.OneEach) : s'.OneEach := by
  refine ⟨?_, h.oneFor (fun _ _ => rfl) hs.invitee, h.oneFor (fun _ _ => rfl) hs.invoice⟩
  intro _ _ hreward
  obtain ⟨_, hold, hnew, -⟩ := h.exists_reward hreward
  have hid := hs.keyed hold
  rw [hnew]
  exact hid

theorem Store.OneFor.insert {f : ReferralReward → String} (hs : s.OneFor f)
    {recorded : ReferralReward} (hne : ∀ other ∈ rows s.rewards, f other ≠ f recorded)
    (hrewards : s'.rewards = s.rewards.insert recorded.id recorded) : s'.OneFor f := by
  intro id id' _ _ hreward hreward' heq
  rw [hrewards] at hreward hreward'
  rcases lookup_insert_iff.1 hreward with ⟨rfl, rfl⟩ | ⟨-, hold⟩ <;>
    rcases lookup_insert_iff.1 hreward' with ⟨rfl, rfl⟩ | ⟨-, hold'⟩
  · rfl
  · exact absurd heq.symm (hne _ (mem_rows_iff.2 ⟨id', hold'⟩))
  · exact absurd heq (hne _ (mem_rows_iff.2 ⟨id, hold⟩))
  · exact hs hold hold' heq

/-- A new reward has a new account and a new invoice. -/
theorem Store.OneEach.insert (hs : s.OneEach) {recorded : ReferralReward}
    (hinvitee : ∀ other ∈ rows s.rewards, other.inviteeUUID ≠ recorded.inviteeUUID)
    (htaken : s.rewardTaken recorded = false)
    (hrewards : s'.rewards = s.rewards.insert recorded.id recorded) : s'.OneEach := by
  refine ⟨fun {id reward} hreward => ?_, Store.OneFor.insert hs.invitee hinvitee hrewards,
    Store.OneFor.insert hs.invoice (fun other hother heq => ?_) hrewards⟩
  · rw [hrewards] at hreward
    exact forall_insert (fun _ _ => hs.keyed) rfl hreward
  · rw [rewardTaken, any_eq_false] at htaken
    exact htaken other hother (by simp [heq])

theorem rewards_insertRisk (s : Store) (risk : ReferralPaymentRisk) :
    (s.insertRisk risk).rewards = s.rewards := by
  rw [insertRisk]
  split_ifs <;> rfl

/-- A risk reverses the reward of its invoice and changes no other. -/
theorem recordReferralRisk_statusOnly {risk : ReferralPaymentRisk} (hs : s.OneEach)
    (h : recordReferralRisk s risk = .ok s') :
    StatusOnly (s.insertRisk risk) s' ∧ ∀ {id reward}, s'.rewards.lookup id = some reward →
      reward.providerInvoiceID = risk.providerInvoiceID → reward.status = .reversed := by
  rcases recordReferralRisk_ok h with ⟨hnone, rfl⟩ | ⟨reward, hsome, htaken⟩
  · refine ⟨.refl _, fun {id reward} hreward heq => ?_⟩
    rw [rewards_insertRisk] at hreward
    rw [rewardOf, find?_eq_none] at hnone
    exact absurd (beq_iff_eq.2 heq) (hnone reward (mem_rows_iff.2 ⟨id, hreward⟩))
  obtain ⟨hmem, hof⟩ := rewardOf_eq_some hsome
  obtain ⟨_, hkey⟩ := mem_rows_iff.1 hmem
  obtain rfl := hs.keyed hkey
  have hlookup : (s.insertRisk risk).rewards.lookup reward.id = some reward := by
    rw [rewards_insertRisk, hkey]
  refine ⟨htaken.statusOnly hlookup, fun {id other} hother heq => ?_⟩
  have hid := htaken.rewards hlookup id
  split_ifs at hid with hsame
  · cases hother.symm.trans hid
    rfl
  · rw [hid, rewards_insertRisk] at hother
    exact absurd (hs.invoice hother hkey (heq.trans hof.symm)) hsame

/-- The invariant: risks stay recorded. -/
structure Reporting.Sound (sys : Reporting) : Prop where
  oneEach : sys.store.OneEach
  recorded : ∀ {invoice}, invoice ∈ sys.reported → sys.store.atRisk invoice = true
  reversed : ∀ {id reward}, sys.store.rewards.lookup id = some reward →
    sys.store.atRisk reward.providerInvoiceID = true → reward.status = .reversed

namespace Reporting.Sound

variable {sys : Reporting}

theorem effective (h : sys.Sound) : sys.Effective where
  reversed hreward hrisk := h.reversed hreward (hrisk.elim h.recorded fun hrisk => hrisk)
  invitee := h.oneEach.invitee
  invoice := h.oneEach.invoice

/-- Rewards change their status at most. -/
theorem statusOnly (h : sys.Sound) {s : Store} (hs : StatusOnly sys.store s) :
    Reporting.Sound { sys with store := s } := by
  have hrisk : ∀ invoice, s.atRisk invoice = sys.store.atRisk invoice := by
    intro _
    rw [atRisk, atRisk, hs.risks_eq]
  refine ⟨hs.oneEach h.oneEach, fun hinvoice => ?_, fun hreward hat => ?_⟩
  · rw [hrisk]
    exact h.recorded hinvoice
  · obtain ⟨_, hold, hnew, hreversed⟩ := hs.exists_reward hreward
    rw [hrisk, hnew] at hat
    exact hreversed (h.reversed hold hat)

/-- A new reward, for an invoice that is not at risk. -/
theorem create (h : sys.Sound) {s : Store} {recorded : ReferralReward}
    (hinvitee : ∀ other ∈ rows sys.store.rewards, other.inviteeUUID ≠ recorded.inviteeUUID)
    (htaken : sys.store.rewardTaken recorded = false)
    (hrisk : sys.store.atRisk recorded.providerInvoiceID = false)
    (hrewards : s.rewards = sys.store.rewards.insert recorded.id recorded)
    (hrisks : s.risks = sys.store.risks) : Reporting.Sound { sys with store := s } := by
  have hat : ∀ invoice, s.atRisk invoice = sys.store.atRisk invoice := by
    intro _
    rw [atRisk, atRisk, hrisks]
  refine ⟨h.oneEach.insert hinvitee htaken hrewards, fun hreported => ?_, fun hreward hatRisk => ?_⟩
  · rw [hat]
    exact h.recorded hreported
  rw [hat] at hatRisk
  rw [hrewards] at hreward
  rcases lookup_insert_iff.1 hreward with ⟨rfl, rfl⟩ | ⟨-, hold⟩
  · cases hrisk.symm.trans hatRisk
  · exact h.reversed hold hatRisk

/-- A risk is recorded, and reverses the reward of its invoice. -/
theorem record (h : sys.Sound) {risk : ReferralPaymentRisk}
    (hcareful : ∀ old ∈ sys.store.risks.lookup risk.sourceKey,
      old.providerInvoiceID = risk.providerInvoiceID) {s : Store}
    (hs : recordReferralRisk sys.store risk = .ok s) :
    Reporting.Sound { store := s, reported := risk.providerInvoiceID :: sys.reported } := by
  obtain ⟨hstatus, hreversed⟩ := recordReferralRisk_statusOnly h.oneEach hs
  have hrisk : ∀ invoice, s.atRisk invoice = (sys.store.atRisk invoice ||
      (decide (risk.sourceKey ∉ sys.store.risks) && risk.providerInvoiceID == invoice)) := by
    intro _
    rw [← atRisk_insertRisk, atRisk, atRisk, hstatus.risks_eq]
  have honeEach : (sys.store.insertRisk risk).OneEach := by
    have hrewards := rewards_insertRisk sys.store risk
    exact ⟨hrewards ▸ h.oneEach.keyed, hrewards ▸ h.oneEach.invitee, hrewards ▸ h.oneEach.invoice⟩
  refine ⟨hstatus.oneEach honeEach, fun {invoice} hreported => ?_, fun {id reward} hreward hat => ?_⟩
  · rw [hrisk]
    rcases mem_cons.1 hreported with rfl | hreported
    · -- The risk is new, or there is one of the same invoice with its source.
      by_cases hmem : risk.sourceKey ∈ sys.store.risks
      · obtain ⟨old, hold⟩ := exists_lookup_of_mem hmem
        have hat : sys.store.atRisk old.providerInvoiceID :=
          any_eq_true.2 ⟨old, mem_rows_iff.2 ⟨_, hold⟩, beq_self_eq_true _⟩
        rw [← hcareful old hold, hat, Bool.true_or]
      · simp [hmem]
    · rw [h.recorded hreported, Bool.true_or]
  · by_cases heq : reward.providerInvoiceID = risk.providerInvoiceID
    · exact hreversed hreward heq
    obtain ⟨old, hold, hnew, hkeeps⟩ := hstatus.exists_reward hreward
    rw [rewards_insertRisk] at hold
    have hold_at : sys.store.atRisk old.providerInvoiceID = true := by
      rw [hrisk, beq_eq_false_iff_ne.2 (Ne.symm heq), Bool.and_false, Bool.or_false, hnew] at hat
      exact hat
    exact hkeeps (h.reversed hold hold_at)

/-- Every careful step keeps risks effective. -/
theorem step [Unicode] (h : sys.Sound) (a : Action) (hcareful : Careful sys a) :
    (sys.step a).Sound := by
  rw [Reporting.step]
  rcases hcall : a.call sys.store with e | s
  · exact h
  cases a with
  | createReferralReward =>
    obtain ⟨⟨s₁, b⟩, hok, rfl⟩ := map_eq_ok.1 hcall
    rcases createReferralReward_ok hok with hsame | ⟨_, hinvoice, -, -, hinvitee, htrimmed,
      htaken, hrewards, hrisks, -⟩
    · rw [hsame]
      exact h
    refine h.create hinvitee htaken ?_ hrewards hrisks
    rw [hinvoice]
    rcases hcareful with htrim | hnot
    · rwa [htrim] at htrimmed
    · exact hnot
  | recordReferralRisk => exact h.record hcareful hcall
  | requestReferralSettlement =>
    obtain ⟨⟨s₁, r⟩, hok, rfl⟩ := map_eq_ok.1 hcall
    -- A settlement and its items are all that is written.
    simp only [requestReferralSettlement, guard_ok, map_eq_ok, Prod.mk.injEq] at hok
    obtain ⟨-, -, -, _, hfill, rfl, -⟩ := hok
    obtain ⟨_, hfirst, hsecond⟩ := bind_eq_ok.1 hfill
    refine h.statusOnly (.of_eq ?_ ?_) <;> rw [(insertItems_ok hsecond).1, (insertItems_ok hfirst).1]
  | completeReferralSettlement =>
    obtain ⟨⟨s₁, r⟩, hok, rfl⟩ := map_eq_ok.1 hcall
    exact h.statusOnly (completeReferralSettlement_moved hok).toStatusOnly
  | reconcileReferralSettlement =>
    obtain ⟨⟨s₁, r⟩, hok, rfl⟩ := map_eq_ok.1 hcall
    exact h.statusOnly (reconcileReferralSettlement_moved hok).toStatusOnly
  | rejectReferralSettlement =>
    obtain ⟨r, hok, -⟩ := map_eq_ok.1 hcall
    exact absurd hok (rejectReferralSettlement_ne_ok r)
  | reverseReferralReward =>
    exact h.statusOnly (reverseReferralReward_moved h.oneEach.keyed hcall).toStatusOnly

end Reporting.Sound

/-- Along every run whose calls are careful, risks are effective in all states, whether they
    were reported before the payment or after it. -/
theorem effective_of_careful [Unicode] (referrals : Table String Referral) {as : List Action}
    (h : Run.Guarded Reporting.step Careful { store := .init referrals } as) :
    (Run.exec Reporting.step { store := .init referrals } as).Effective := by
  refine (h.exec_induction (P := Reporting.Sound) (fun _ a ha hs => hs.step a ha) ?_).effective
  refine ⟨⟨?_, ?_, ?_⟩, ?_, ?_⟩ <;> intros <;>
    simp_all [init, Store.OneFor]

/-! ## Risks that have no effect -/

namespace Risks

local instance : Unicode := Unicode.ascii

/-- A refund of an invoice. -/
def refund (sourceKey invoice : String) : Action :=
  .recordReferralRisk ⟨sourceKey, invoice, .refund, "refund", 0⟩

/-- The first payment of an account. -/
def payment (invoice : String) : Action :=
  .createReferralReward (.sample 0) (monthlyReward "ann" invoice) true none

/-- An account that was invited. -/
def invited : Table String Referral := AList.insert "ann" ⟨"r", "ref"⟩ ∅

/-- The status of the reward after some calls. -/
def statusAfter (as : List Action) : Option RewardStatus :=
  ((Run.exec Reporting.step { store := .init invited } as).store.rewards.lookup "uuid").map
    (·.status)

/-- A reward of a reported invoice is not reversed. -/
theorem not_effective {sys : Reporting} (h : (sys.store.rewards.lookup "uuid").any (fun reward =>
    reward.providerInvoiceID ∈ sys.reported ∧ reward.status = .pending) = true) :
    ¬ sys.Effective := by
  intro heffective
  obtain ⟨reward, hreward, h⟩ := (Option.any_eq_true _ _).1 h
  simp only [decide_eq_true_eq] at h
  cases h.2.symm.trans (heffective.reversed hreward (.inl h.1))

/-- A refund that has the source of another one, and one of an invoice with white space
    around its number: reported before the payment, they leave the reward as it is. Reported
    after it, they reverse it. -/
theorem reward_of_refunded_invoice :
    statusAfter [refund "k" "in_x", payment "in_a", refund "k" "in_a"] = some .reversed ∧
      ¬ (Run.exec Reporting.step { store := .init invited }
        [refund "k" "in_x", refund "k" "in_a", payment "in_a"]).Effective ∧
      statusAfter [payment " in_a", refund "k" " in_a"] = some .reversed ∧
      ¬ (Run.exec Reporting.step { store := .init invited }
        [refund "k" " in_a", payment " in_a"]).Effective :=
  ⟨by decide +kernel, not_effective (by decide +kernel), by decide +kernel,
    not_effective (by decide +kernel)⟩

/-- A refund before the payment, and one after it. -/
theorem effective_of_careful_sample : statusAfter [refund "k" "in_a", payment "in_a"] = none ∧
      statusAfter [payment "in_a", refund "k" "in_a"] = some .reversed ∧
      (Run.exec Reporting.step { store := .init invited }
        [refund "k" "in_x", payment "in_a", refund "l" "in_a"]).Effective :=
  ⟨by decide +kernel, by decide +kernel, effective_of_careful invited (by decide +kernel)⟩

end Risks

end Accounts.Referrals

import Accounts.Finance.Capacity

/-!
# A refund and its operation

A refund operation and the refund it leads to share an idempotency key. When the
refund is recorded, the operation with its key has to match it
(`financeRefundMatchesOperation`). When the operation is claimed, nothing
compares it with a refund that is there already.

* `agreeing_of_matchesFact`: in every run in which a refund operation is opened
  under the key of a recorded refund only with the terms of that refund, a refund
  and a refund operation with one key agree;
* `opened_after_refund`: an operation for another amount is opened under the key
  of a refund.
-/

namespace Accounts.Finance

open Table

section

variable [Unicode]

/-- The operation asks for the refund: of its payment, from its provider, in its
    amount and currency. -/
def FinanceOperation.AgreesWith (op : FinanceOperation) (refund : FinanceRefund) : Prop :=
  op.targetID = refund.paymentID ∧ op.provider = refund.provider ∧
    financeRefundRequest op = some (refund.amountMinor, refund.currency)

instance (op : FinanceOperation) (refund : FinanceRefund) : Decidable (op.AgreesWith refund) :=
  inferInstanceAs (Decidable (_ ∧ _))

/-- A refund and a refund operation with one idempotency key agree. -/
def Agreeing (s : Store) : Prop :=
  ∀ ⦃i j : String⦄ ⦃refund : FinanceRefund⦄ ⦃op : FinanceOperation⦄,
    s.financeRefunds.lookup i = some refund → s.financeOperations.lookup j = some op →
    op.operationType = "refund" → op.idempotencyKey = refund.idempotencyKey → op.AgreesWith refund

/-- A refund operation that is opened under the key of a recorded refund is
    opened with the terms of that refund. Calls that are refused open none. -/
def MatchesFact (s : Store) : Call → Prop
  | .beginFinanceOperation env operation =>
    let key := Text.trimSpace operation.idempotencyKey
    ((Call.beginFinanceOperation env operation).exec s).isOk →
    operation.normalized.operationType = "refund" → key ∉ s.financeOperationKeys →
      ∀ id ∈ s.financeRefundKeys.lookup key, ∀ refund ∈ s.financeRefunds.lookup id,
        operation.normalized.targetID = refund.paymentID ∧
        financeProvider operation.normalized.provider = refund.provider ∧
        financeRefundRequest operation.normalized = some (refund.amountMinor, refund.currency)
  | _ => True

instance (s : Store) : DecidablePred (MatchesFact s)
  | .beginFinanceOperation _ _ =>
    inferInstanceAs (Decidable (_ = true → _ → _ → ∀ id ∈ _, ∀ refund ∈ _, _ ∧ _ ∧ _ = _))
  | .createFinanceInvoice .. => .isTrue trivial
  | .recordFinancePayment .. => .isTrue trivial
  | .recordFinanceRefund .. => .isTrue trivial
  | .checkpointFinanceOperation .. => .isTrue trivial
  | .finishFinanceOperation .. => .isTrue trivial

/-! ## Every step -/

/-- What an operation asks for is a matter of its target, its provider and its request. -/
theorem FinanceOperation.AgreesWith.congr {op op' : FinanceOperation} {refund : FinanceRefund}
    (h : op.AgreesWith refund) (htarget : op'.targetID = op.targetID)
    (hprovider : op'.provider = op.provider) (hrequest : op'.request = op.request) :
    op'.AgreesWith refund :=
  ⟨htarget.trans h.1, hprovider.trans h.2.1, (financeRefundRequest_congr hrequest).trans h.2.2⟩

/-- A refund that is the outcome of an operation agrees with it. -/
theorem agreesWith_of_matches {op : FinanceOperation} {refund : FinanceRefund}
    (h : financeRefundMatchesOperation op refund) : op.AgreesWith refund := by
  rw [financeRefundMatchesOperation] at h
  split at h
  · cases h
  next amount currency hrequest =>
  simp only [Bool.and_eq_true, beq_iff_eq] at h
  obtain ⟨⟨⟨⟨⟨⟨-, htarget⟩, hprovider⟩, rfl⟩, rfl⟩, -⟩, -⟩ := h
  exact ⟨htarget, hprovider, hrequest⟩

/-- Writing an operation that agrees with the refund that has its key. -/
theorem agreeing_putOperation {s : Store} {id : String} {op : FinanceOperation}
    {event : FinanceOperationEvent} {keys : Table String String} (hs : Agreeing s)
    (hop : ∀ ⦃i refund⦄, s.financeRefunds.lookup i = some refund → op.operationType = "refund" →
      op.idempotencyKey = refund.idempotencyKey → op.AgreesWith refund) :
    Agreeing ({ s with financeOperationKeys := keys }.putOperation id op event) := by
  intro i j _ _ hrefund hop₁ htype hkey
  rcases lookup_insert_iff.1 hop₁ with ⟨-, rfl⟩ | ⟨-, hop₁⟩
  · exact hop hrefund htype hkey
  · exact hs hrefund hop₁ htype hkey

/-- Writing an operation whose type, key and terms are those of one that is there. -/
theorem agreeing_replaceOperation {s : Store} {id : String} {op op' : FinanceOperation}
    {event : FinanceOperationEvent} {keys : Table String String} (hs : Agreeing s)
    (hop : s.financeOperations.lookup id = some op)
    (htype : op'.operationType = op.operationType) (hkey : op'.idempotencyKey = op.idempotencyKey)
    (htarget : op'.targetID = op.targetID) (hprovider : op'.provider = op.provider)
    (hrequest : op'.request = op.request) :
    Agreeing ({ s with financeOperationKeys := keys }.putOperation id op' event) := by
  refine agreeing_putOperation hs fun i refund hrefund htype' hkey' => ?_
  rw [htype] at htype'
  rw [hkey] at hkey'
  exact (hs hrefund hop htype' hkey').congr htarget hprovider hrequest

/-- A new refund agrees with the operation that has its key, if there is one. -/
theorem agreeing_insertRefund {s : Store} {copy : FinanceRefund} (hs : Agreeing s)
    (hcopy : ∀ ⦃j op⦄, s.financeOperations.lookup j = some op → op.operationType = "refund" →
      op.idempotencyKey = copy.idempotencyKey → op.AgreesWith copy) :
    Agreeing (s.insertRefund copy) := by
  intro i j _ _ hrefund hop htype hkey
  rcases lookup_insert_iff.1 hrefund with ⟨-, rfl⟩ | ⟨-, hrefund⟩
  · exact hcopy hop htype hkey
  · exact hs hrefund hop htype hkey

section

variable {s : Store} {c : Call} (hwf : WellFormed s) (hs : Agreeing s) (hfact : MatchesFact s c)

include hwf hs hfact

theorem Agreeing.effect {s' : Store} (hok : (c.exec s).isOk) (h : Effect s c s') :
    Agreeing s' := by
  cases h with
  | unchanged | invoice | servicePeriod | payment => exact hs
  | @refund _ _ copy h hop =>
    refine agreeing_insertRefund hs fun j op hj _ hkey => absurd ?_ hop
    exact hkey ▸ mem_of_lookup (hwf.operations.of_row hj)
  | @boundRefund env _ copy id op h hkey hop hmatch =>
    refine agreeing_replaceOperation (agreeing_insertRefund hs ?_) hop rfl rfl rfl rfl rfl
    intro j _ hj _ hkey'
    -- The operation with the key of the refund is the one that matches it.
    have hkeys := hwf.operations.of_row hj
    rw [hkey', hkey] at hkeys
    obtain rfl := Option.some.inj hkeys
    obtain rfl := Option.some.inj (hop.symm.trans hj)
    exact agreesWith_of_matches hmatch
  | attempt hclaim _ =>
    cases hclaim with
    | new _ _ _ key_new key_eq _ type_eq _ target_eq request_eq _ _ provider_eq =>
      -- Only a new operation can disagree, with a refund that is there.
      refine agreeing_putOperation hs fun i refund hrefund htype hkey => ?_
      have hknown := hwf.refunds.of_row hrefund
      rw [← hkey, FinanceOperation.attempted, key_eq] at hknown
      obtain ⟨htarget, hprovider, hrequest⟩ :=
        hfact hok (type_eq.symm.trans htype) key_new i hknown refund hrefund
      refine ⟨target_eq.trans htarget, provider_eq.trans hprovider, ?_⟩
      rw [financeRefundRequest_attempted, financeRefundRequest_congr request_eq, hrequest]
    | retry _ known => exact agreeing_replaceOperation hs known rfl rfl rfl rfl rfl
  | update hop _ _ hkey htype _ htarget hrequest _ _ hprovider =>
    exact agreeing_replaceOperation hs hop htype hkey htarget hprovider hrequest

theorem Agreeing.step : Agreeing (step s c) := by
  rw [Finance.step]
  cases h : c.exec s with
  | error => exact hs
  | ok => exact hs.effect hwf hfact (by rw [h]; rfl) (effect_of_exec hwf h)

end

/-- In every run in which a refund operation is opened under the key of a recorded
    refund only with the terms of that refund, a refund and a refund operation
    with one key agree, whichever of them was there first. -/
theorem agreeing_of_matchesFact {byID : List String}
    {subscriptions : Table String (List SubscriptionRef)} {cs : List Call}
    (h : Run.Guarded step MatchesFact (Store.init byID subscriptions) cs) :
    Agreeing (Run.exec step (Store.init byID subscriptions) cs) := by
  have hagreeing := h.exec_induction (P := fun s => WellFormed s ∧ Agreeing s)
    (fun _ c hfact hs => ⟨hs.1.step c, hs.2.step hs.1 hfact⟩)
    ⟨.init byID subscriptions, fun _ _ _ _ hrefund => by simp [Store.init] at hrefund⟩
  exact hagreeing.2

end

/-! ## An operation under the key of a refund -/

section

local instance : Unicode := Unicode.ascii

/-- A payment of 100, and a refund of 30 that is recorded under the key `k1`
    without an operation. -/
def refundRecorded : List Call :=
  [.createFinanceInvoice (Env.sample 1) ⟨"inv", "inv-key", "acct", "", "stripe", "", 100, "USD", "",
      0, none, none, none, 0⟩,
    .recordFinancePayment (Env.sample 2) ⟨"pay", "pay-key", "inv", "acct", "stripe", "", 100, "USD",
      0, 0⟩,
    .recordFinanceRefund (Env.sample 3) ⟨"ref", "k1", "pay", "stripe", "re_1", 30, "USD", "", 0, 0⟩]

/-- An operation for the refund of 30 is opened under its key. -/
theorem agreeing_of_matchesFact_sample :
    Agreeing (Run.exec step (Store.init ["acct"] ∅) (refundRecorded ++
      [.beginFinanceOperation (Env.sample 4) (refundIntent "op1" "k1" 30)])) :=
  agreeing_of_matchesFact (by decide +kernel)

/-- An operation for a refund of 50 is opened under the key of the refund of 30.
    As there is a refund with its key, it reserves nothing of the payment. -/
theorem opened_after_refund : let s := Run.exec step (Store.init ["acct"] ∅) (refundRecorded ++
      [.beginFinanceOperation (Env.sample 4) (refundIntent "op1" "k1" 50)])
    ¬ Agreeing s ∧ s.reserved "pay" = 0 := by
  intro s
  have hrefund : s.financeRefunds.lookup "ref" =
      some ⟨"ref", "k1", "pay", "stripe", "re_1", 30, "USD", "", 3, 3⟩ := by decide +kernel
  have hop : (s.financeOperations.lookup "op1").map (fun op =>
      (op.operationType, op.idempotencyKey, financeRefundRequest op)) =
      some ("refund", "k1", some (50, "USD")) := by decide +kernel
  refine ⟨fun hagreeing => ?_, by decide +kernel⟩
  obtain ⟨op, hlookup, hfields⟩ := Option.map_eq_some_iff.1 hop
  obtain ⟨htype, hkey, hrequest⟩ : op.operationType = "refund" ∧ op.idempotencyKey = "k1" ∧
      financeRefundRequest op = some (50, "USD") := by simpa using hfields
  have hagrees := (hagreeing hrefund hlookup htype hkey).2.2
  rw [hrequest] at hagrees
  revert hagrees
  decide

end

end Accounts.Finance

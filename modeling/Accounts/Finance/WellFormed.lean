import Accounts.Base.Check
import Accounts.Base.Run
import Accounts.Finance.Ledger

/-!
# Well-formed ledgers

What a successful call of the ledger writes (`Effect`), and the invariant that
the records and the indexes of their keys describe the same facts
(`WellFormed`):

* `effect_of_exec`: a successful call has one of seven effects, under the
  conditions it checked;
* `wellFormed_run`: every call keeps a ledger well-formed.
-/

namespace Accounts.Finance

open Table Text Except AList FinanceOperation

variable [Unicode]

/-! ## The invariant -/

/-- The records and the indexes of their keys describe the same facts; refunds
    and refund operations are of payments in the ledger. -/
structure WellFormed (s : Store) : Prop where
  invoices : Indexed FinanceInvoice.id FinanceInvoice.idempotencyKey s.financeInvoices
    s.financeInvoiceKeys
  payments : Indexed FinancePayment.id FinancePayment.idempotencyKey s.financePayments
    s.financePaymentKeys
  refunds : Indexed FinanceRefund.id FinanceRefund.idempotencyKey s.financeRefunds
    s.financeRefundKeys
  operations : Indexed FinanceOperation.id FinanceOperation.idempotencyKey s.financeOperations
    s.financeOperationKeys
  refund_pos : ∀ {i r}, s.financeRefunds.lookup i = some r → 0 < r.amountMinor
  refund_payment : ∀ {i r}, s.financeRefunds.lookup i = some r → r.paymentID ∈ s.financePayments
  operation_refund : ∀ {i op}, s.financeOperations.lookup i = some op →
    op.operationType = "refund" → op.targetType = "payment" ∧ op.targetID ∈ s.financePayments ∧
      (financeRefundRequest op).isSome
  operation_trimmed : ∀ {i op}, s.financeOperations.lookup i = some op → trimSpace i = i

/-- A ledger without records is well-formed. -/
theorem WellFormed.init (byID : List String) (subscriptions : Table String (List SubscriptionRef)) :
    WellFormed (Store.init byID subscriptions) where
  invoices := .empty
  payments := .empty
  refunds := .empty
  operations := .empty
  refund_pos h := by simp [Store.init] at h
  refund_payment h := by simp [Store.init] at h
  operation_refund h := by simp [Store.init] at h
  operation_trimmed h := by simp [Store.init] at h

section

variable (env : Env)

include env

omit [Unicode] in
/-- A new record has an identifier. -/
theorem financeID_ne (id : String) : financeID env id ≠ "" := by
  unfold financeID
  split_ifs with h
  · exact env.uuid.nonempty
  · exact h

theorem FinanceInvoice.normalized_id_ne (invoice : FinanceInvoice) :
    (invoice.normalized env).id ≠ "" := by
  exact financeID_ne env _

theorem FinancePayment.normalized_id_ne (payment : FinancePayment) :
    (payment.normalized env).id ≠ "" := by
  exact financeID_ne env _

theorem FinanceRefund.normalized_id_ne (refund : FinanceRefund) :
    (refund.normalized env).id ≠ "" := by
  exact financeID_ne env _

end

/-! ## What a call writes -/

/-- What is checked before an invoice is added. -/
structure NewInvoice (s : Store) (copy : FinanceInvoice) : Prop where
  id_ne : copy.id ≠ ""
  id_new : copy.id ∉ s.financeInvoices
  key_new : copy.idempotencyKey ∉ s.financeInvoiceKeys
  amount_nonneg : 0 ≤ copy.amountMinor
  provider_new : copy.providerInvoiceID = "" ∨ ∀ existing ∈ s.financeInvoices.rows,
    ¬ (existing.provider = copy.provider ∧ existing.providerInvoiceID = copy.providerInvoiceID)

/-- What is checked before a payment is added. -/
structure NewPayment (s : Store) (copy : FinancePayment) : Prop where
  id_ne : copy.id ≠ ""
  id_new : copy.id ∉ s.financePayments
  key_new : copy.idempotencyKey ∉ s.financePaymentKeys
  amount_pos : 0 < copy.amountMinor
  invoice : ∃ invoice, s.financeInvoices.lookup copy.invoiceID = some invoice ∧
    invoice.accountUUID = copy.accountUUID ∧ invoice.currency = copy.currency ∧
    invoice.amountMinor = copy.amountMinor
  unpaid : ∀ existing ∈ s.financePayments.rows, existing.invoiceID ≠ copy.invoiceID
  provider_new : copy.providerPaymentID = "" ∨ ∀ existing ∈ s.financePayments.rows,
    ¬ (existing.provider = copy.provider ∧ existing.providerPaymentID = copy.providerPaymentID)

/-- What is checked before a refund is added. -/
structure NewRefund (s : Store) (copy : FinanceRefund) : Prop where
  id_ne : copy.id ≠ ""
  id_new : copy.id ∉ s.financeRefunds
  key_new : copy.idempotencyKey ∉ s.financeRefundKeys
  amount_pos : 0 < copy.amountMinor
  capacity : ∃ payment, s.financePayments.lookup copy.paymentID = some payment ∧
    payment.currency = copy.currency ∧ copy.amountMinor ≤ payment.amountMinor -
      Int64.sum64 (s.capacityTerms copy.paymentID copy.idempotencyKey none)
  provider_new : copy.providerRefundID = "" ∨ ∀ existing ∈ s.financeRefunds.rows,
    ¬ (existing.provider = copy.provider ∧ existing.providerRefundID = copy.providerRefundID)

/-- The operation an attempt is at: a new one with the fields of the request, or the one with the
    key, which agrees with the request and may be attempted again. -/
inductive Claimed (env : Env) (s : Store) (key : String) (operation : FinanceOperation) :
    FinanceOperation → Prop
  | new {stored : FinanceOperation} (id_ne : stored.id ≠ "")
      (id_trimmed : trimSpace stored.id = stored.id)
      (id_new : stored.id ∉ s.financeOperations) (key_new : key ∉ s.financeOperationKeys)
      (key_eq : stored.idempotencyKey = key) (status_eq : stored.status = .pending)
      (type_eq : stored.operationType = operation.operationType)
      (targetType_eq : stored.targetType = operation.targetType)
      (target_eq : stored.targetID = operation.targetID)
      (request_eq : stored.request = operation.request)
      (response_eq : stored.response = .emptyObject)
      (attempt_eq : stored.attemptCount = operation.attemptCount)
      (provider_eq : stored.provider = financeProvider operation.provider) :
      Claimed env s key operation stored
  | retry {stored : FinanceOperation}
      (key_known : s.financeOperationKeys.lookup key = some stored.id)
      (known : s.financeOperations.lookup stored.id = some stored)
      (key_eq : stored.idempotencyKey = key) (not_succeeded : stored.status ≠ .succeeded)
      (expired : stored.status = .inProgress → financeRefundAttemptExpired env stored)
      (type_eq : stored.operationType = operation.operationType)
      (targetType_eq : stored.targetType = operation.targetType)
      (target_eq : stored.targetID = operation.targetID)
      (provider_eq : stored.provider = operation.provider)
      (request_eq : jsonEqual stored.request operation.request) :
      Claimed env s key operation stored

/-- What is checked of a refund before an attempt: it is of a payment, and fits
    in what is left of it. -/
def RefundAdmitted (s : Store) (key : String) (operation : FinanceOperation) : Prop :=
  operation.operationType = "refund" → operation.targetType = "payment" ∧
    ∃ amount currency payment, financeRefundRequest operation = some (amount, currency) ∧
      s.financePayments.lookup operation.targetID = some payment ∧ payment.currency = currency ∧
      amount ≤ payment.amountMinor -
        Int64.sum64 (s.capacityTerms operation.targetID key (some (s.refundKey key)))

/-- The calls that record facts, and leave the attempts at operations alone. -/
def Call.recordsFact : Call → Bool
  | .createFinanceInvoice .. | .recordFinancePayment .. | .recordFinanceRefund .. => true
  | _ => false

/-- What a successful call does to the store. -/
inductive Effect (s : Store) : Call → Store → Prop
  | unchanged {c : Call} : Effect s c s
  | invoice {env : Env} {invoice copy : FinanceInvoice} (h : NewInvoice s copy) :
      Effect s (.createFinanceInvoice env invoice) (s.insertInvoice copy)
  | servicePeriod {env : Env} {invoice : FinanceInvoice} {id : String} {old : FinanceInvoice}
      {start stop : Option Time} (h : s.financeInvoices.lookup id = some old)
      (hstart : old.servicePeriodStart = none) (hstop : old.servicePeriodEnd = none)
      (hnew : start ≠ none) :
      Effect s (.createFinanceInvoice env invoice) { s with
          financeInvoices := s.financeInvoices.insert id
            { old with servicePeriodStart := start, servicePeriodEnd := stop } }
  | payment {env : Env} {payment copy : FinancePayment} (h : NewPayment s copy) :
      Effect s (.recordFinancePayment env payment) (s.insertPayment copy)
  | refund {env : Env} {refund copy : FinanceRefund} (h : NewRefund s copy)
      (hop : copy.idempotencyKey ∉ s.financeOperationKeys) :
      Effect s (.recordFinanceRefund env refund) (s.insertRefund copy)
  | boundRefund {env : Env} {refund copy : FinanceRefund} {id : String} {op : FinanceOperation}
      (h : NewRefund s copy) (hkey : s.financeOperationKeys.lookup copy.idempotencyKey = some id)
      (hop : s.financeOperations.lookup id = some op)
      (hmatch : financeRefundMatchesOperation op copy) :
      Effect s (.recordFinanceRefund env refund) ((s.insertRefund copy).bindRefund env copy id op)
  | attempt {env : Env} {operation stored : FinanceOperation}
      (hclaim : Claimed env s (trimSpace operation.idempotencyKey) operation.normalized stored)
      (hrefund : RefundAdmitted s (trimSpace operation.idempotencyKey) operation.normalized) :
      Effect s (.beginFinanceOperation env operation)
        (s.startAttempt env (trimSpace operation.idempotencyKey) stored)
  | update {c : Call} {id : String} {op op' : FinanceOperation} {event : FinanceOperationEvent}
      (hop : s.financeOperations.lookup id = some op) (hstatus : op.status = .inProgress)
      (hid : op'.id = op.id) (hkey : op'.idempotencyKey = op.idempotencyKey)
      (htype : op'.operationType = op.operationType) (htargetType : op'.targetType = op.targetType)
      (htarget : op'.targetID = op.targetID) (hrequest : op'.request = op.request)
      (hattempt : op'.attemptCount = op.attemptCount) (hcall : c.recordsFact = false)
      (hprovider : op'.provider = op.provider) :
      Effect s c (s.putOperation id op' event)

section Effects

variable {s s' : Store} {env : Env}

section

variable {inserted : Bool}

/-- What a successful `createFinanceInvoice` does. -/
theorem createFinanceInvoice_effect {invoice out : FinanceInvoice}
    (h : createFinanceInvoice env s invoice = .ok (s', inserted, out)) :
    Effect s (.createFinanceInvoice env invoice) s' := by
  simp only [createFinanceInvoice, guard_ok, not_or] at h
  obtain ⟨⟨-, -, hamount⟩, -, -, -, -, h⟩ := h
  cases hkey : s.financeInvoiceKeys.lookup (invoice.normalized env).idempotencyKey with
  | some id =>
    -- The key is known: at most a missing service period is added.
    rcases hold : s.financeInvoices.lookup id with _ | old
    · simp only [hkey, hold, reduceCtorEq] at h
    simp only [hkey, hold, guard_ok] at h
    obtain ⟨-, h⟩ := h
    split_ifs at h with hnone hperiod
    all_goals cases h
    · exact .unchanged
    · exact .unchanged
    · rw [not_or, not_not, not_not] at hperiod
      exact .servicePeriod hold hperiod.1 hperiod.2 hnone
  | none =>
    simp only [hkey, guard_ok] at h
    obtain ⟨hid, hprovider, h⟩ := h
    cases h
    refine .invoice ⟨invoice.normalized_id_ne env, hid, lookup_eq_none.1 hkey, ?_, ?_⟩
    · simpa only [FinanceInvoice.normalized] using Int64.not_lt.1 hamount
    · rw [not_and_or, not_not] at hprovider
      exact hprovider.imp_right fun hne existing hm he => hne ⟨existing, hm, he⟩

/-- What a successful `recordFinancePayment` does. -/
theorem recordFinancePayment_effect {payment out : FinancePayment}
    (h : recordFinancePayment env s payment = .ok (s', inserted, out)) :
    Effect s (.recordFinancePayment env payment) s' := by
  simp only [recordFinancePayment, guard_ok, not_or] at h
  obtain ⟨⟨-, hamount⟩, -, h⟩ := h
  cases hkey : s.financePaymentKeys.lookup (payment.normalized env).idempotencyKey with
  | some id =>
    rcases hold : s.financePayments.lookup id with _ | old
    · simp only [hkey, hold, reduceCtorEq] at h
    simp only [hkey, hold, guard_ok] at h
    obtain ⟨-, h⟩ := h
    cases h
    exact .unchanged
  | none =>
    rcases hinvoice : s.financeInvoices.lookup (payment.normalized env).invoiceID with _ | invoice
    · simp only [hkey, hinvoice, reduceCtorEq] at h
    simp only [hkey, hinvoice, guard_ok, not_or, not_not] at h
    obtain ⟨hagree, hunpaid, hid, hprovider, h⟩ := h
    cases h
    refine .payment ⟨payment.normalized_id_ne env, hid, lookup_eq_none.1 hkey, ?_,
      ⟨invoice, hinvoice, hagree⟩, fun existing hm he => hunpaid ⟨existing, hm, he⟩, ?_⟩
    · simpa only [FinancePayment.normalized] using Int64.not_le.1 hamount
    · rw [not_and_or, not_not] at hprovider
      exact hprovider.imp_right fun hne existing hm he => hne ⟨existing, hm, he⟩

/-- What a successful `recordFinanceRefund` does. -/
theorem recordFinanceRefund_effect (hs : WellFormed s) {refund out : FinanceRefund}
    (h : recordFinanceRefund env s refund = .ok (s', inserted, out)) :
    Effect s (.recordFinanceRefund env refund) s' := by
  simp only [recordFinanceRefund, guard_ok, not_or] at h
  obtain ⟨⟨-, hamount⟩, -, h⟩ := h
  cases hkey : s.financeRefundKeys.lookup (refund.normalized env).idempotencyKey with
  | some id =>
    rcases hold : s.financeRefunds.lookup id with _ | old
    · simp only [hkey, hold, reduceCtorEq] at h
    simp only [hkey, hold, guard_ok] at h
    obtain ⟨-, h⟩ := h
    cases h
    exact .unchanged
  | none =>
    cases hcheck : checkRefundOperation s (refund.normalized env) with
    | error => simp only [hkey, hcheck, reduceCtorEq] at h
    | ok =>
    rcases hpayment : s.financePayments.lookup (refund.normalized env).paymentID with _ | payment
    · simp only [hkey, hcheck, hpayment, reduceCtorEq] at h
    simp only [hkey, hcheck, hpayment, guard_ok, not_not] at h
    obtain ⟨hcurrency, hcapacity, hid, hprovider, h⟩ := h
    have hnew : NewRefund s (refund.normalized env) := by
      refine ⟨refund.normalized_id_ne env, hid, lookup_eq_none.1 hkey, ?_,
        ⟨payment, hpayment, hcurrency, Int64.not_lt.1 hcapacity⟩, ?_⟩
      · simpa only [FinanceRefund.normalized] using Int64.not_le.1 hamount
      · rw [not_and_or, not_not] at hprovider
        exact hprovider.imp_right fun hne existing hm he => hne ⟨existing, hm, he⟩
    cases hopKey : s.financeOperationKeys.lookup (refund.normalized env).idempotencyKey with
    | none =>
      simp only [Store.insertRefund, hopKey] at h
      cases h
      exact .refund hnew (lookup_eq_none.1 hopKey)
    | some =>
      -- The operation with the key has the refund for an outcome.
      obtain ⟨_, hop, -⟩ := hs.operations.of_key hopKey
      simp only [checkRefundOperation, hopKey, hop, guard_ok, not_not] at hcheck
      simp only [Store.insertRefund, hopKey, hop, hs.operations.id_ne hop, if_false] at h
      cases h
      exact .boundRefund hnew hopKey hop hcheck.1

end

omit [Unicode] in
@[simp] theorem financeJSON_empty : financeJSON .empty = .emptyObject := rfl

omit [Unicode] in
@[simp] theorem financeJSON_financeJSON (raw : RawMessage) :
    financeJSON (financeJSON raw) = financeJSON raw := by
  cases raw <;> rfl

section

variable (hs : WellFormed s) {operation : FinanceOperation}

include hs

/-- An operation that is to be attempted is a new one, or the one with the key. -/
theorem claimedOperation_ok {key : String} {stored : FinanceOperation}
    (h : claimedOperation env s key operation.normalized = .ok (true, stored)) :
    Claimed env s key operation.normalized stored := by
  unfold claimedOperation at h
  cases hkey : s.financeOperationKeys.lookup key with
  | none =>
    simp only [hkey, guard_ok, ok.injEq, Prod.mk.injEq, true_and] at h
    obtain ⟨hid, rfl⟩ := h
    refine .new ?_ ?_ hid (lookup_eq_none.1 hkey) ?_ ?_ ?_ ?_ ?_ ?_ ?_ ?_ ?_
    · simpa only [opened] using financeID_ne env _
    · rw [opened, financeID]
      split_ifs
      · exact env.uuid.trimmed
      · exact trimSpace_idem _
    all_goals simp only [opened, normalized,
      trimSpace_idem, financeJSON_financeJSON, financeJSON_empty]
  | some =>
    obtain ⟨_, hold, rfl⟩ := hs.operations.of_key hkey
    simp only [hkey, hold, guard_ok, not_or, not_and, not_not] at h
    obtain ⟨⟨htype, htargetType, htarget, hprovider, hrequest⟩, hexpired, h⟩ := h
    split_ifs at h with hsucceeded
    · cases h
    cases h
    obtain rfl := hs.operations.id_eq hold
    exact .retry hkey hold rfl hsucceeded hexpired htype htargetType htarget hprovider hrequest

/-- A refund operation that passed its checks is admitted. -/
theorem refundAdmitted_of_ok {key : String} {terms : Option (Int64 × String)}
    (hterms : refundTerms operation = .ok terms)
    (hcheck : checkRefundCapacity s key operation terms = .ok ()) :
    RefundAdmitted s key operation := by
  intro hrefund
  simp only [refundTerms, hrefund, ne_eq, not_true_eq_false, if_false, guard_ok,
    not_or, not_not] at hterms
  obtain ⟨⟨htarget, -⟩, hterms⟩ := hterms
  rcases hrequest : financeRefundRequest operation with _ | t
  · simp only [hrequest, reduceCtorEq] at hterms
  simp only [hrequest, ok.injEq] at hterms
  subst hterms
  cases hpayment : s.financePayments.lookup operation.targetID with
  | none => simp only [checkRefundCapacity, hpayment, reduceCtorEq] at hcheck
  | some payment =>
    simp only [checkRefundCapacity, hpayment, guard_ok, not_not,
      hs.payments.id_eq hpayment] at hcheck
    exact ⟨htarget, t.1, t.2, payment, rfl, rfl, hcheck.1, Int64.not_lt.1 hcheck.2.1⟩

/-- What a successful `beginFinanceOperation` does. -/
theorem beginFinanceOperation_cases {out : FinanceOperation} {claimed : Bool}
    (h : beginFinanceOperation env s operation = .ok (s', claimed, out)) :
    (claimed = false ∧ s' = s) ∨ ∃ stored, claimed = true ∧ out = stored.attempted env ∧
      s' = s.startAttempt env (trimSpace operation.idempotencyKey) stored ∧
      Claimed env s (trimSpace operation.idempotencyKey) operation.normalized stored ∧
      RefundAdmitted s (trimSpace operation.idempotencyKey) operation.normalized := by
  obtain ⟨-, h⟩ := guard_ok.1 h
  cases hterms : refundTerms operation.normalized with
  | error => simp only [hterms, reduceCtorEq] at h
  | ok terms =>
  match hclaim : claimedOperation env s (trimSpace operation.idempotencyKey)
      operation.normalized with
  | .error e => simp only [hterms, hclaim, reduceCtorEq] at h
  | .ok (false, stored) =>
    simp only [hterms, hclaim] at h
    cases h
    exact .inl ⟨rfl, rfl⟩
  | .ok (true, stored) =>
    cases hcheck : checkRefundCapacity s (trimSpace operation.idempotencyKey)
        operation.normalized terms with
    | error => simp only [hterms, hclaim, hcheck, reduceCtorEq] at h
    | ok _ =>
      simp only [hterms, hclaim, hcheck] at h
      cases h
      exact .inr ⟨stored, rfl, rfl, rfl, claimedOperation_ok hs hclaim,
        refundAdmitted_of_ok hs hterms hcheck⟩

end

omit [Unicode] in
/-- What a successful `checkpointFinanceOperation` does. -/
theorem checkpointFinanceOperation_cases {operationID : String} {attempt : Int}
    {response : RawMessage}
    (h : checkpointFinanceOperation env s operationID attempt response = .ok s') :
    ∃ op event, s.financeOperations.lookup operationID = some op ∧ op.status = .inProgress ∧
      op.attemptCount = attempt ∧
      event =
        { id := env.eventUUID.val
          operationID := op.id
          attempt := op.attemptCount
          eventType := .attemptCheckpoint
          status := op.status
          providerOperationID := ""
          payload := financeJSON response
          error := ""
          occurredAt := env.now } ∧
      s' = s.putOperation operationID (op.checkpointed env response) event := by
  rcases hop : s.financeOperations.lookup operationID with _ | op
  · simp only [checkpointFinanceOperation, hop, reduceCtorEq] at h
  simp only [checkpointFinanceOperation, hop, guard_ok, not_or, not_not,
    ok.injEq] at h
  exact ⟨op, _, rfl, h.1.1, h.1.2, rfl, h.2.symm⟩

omit [Unicode] in
/-- What a successful `finishFinanceOperation` does. -/
theorem finishFinanceOperation_cases {operationID : String} {outcome : Outcome}
    {attempt : Option Int} (h : finishFinanceOperation env s operationID outcome attempt = .ok s') :
    ∃ status op providerID event, OperationStatus.ofOutcome outcome.status = some status ∧
      s.financeOperations.lookup (trimSpace operationID) = some op ∧
      op.status = .inProgress ∧ (∀ n ∈ attempt, op.attemptCount = n) ∧
      (op.providerOperationID ≠ "" → op.providerOperationID = providerID) ∧
      event =
        { id := env.eventUUID.val
          operationID := op.id
          attempt := op.attemptCount
          eventType := .attemptFinished (op.finished env status providerID outcome).status
          status := (op.finished env status providerID outcome).status
          providerOperationID := providerID
          payload := financeJSON outcome.response
          error := (op.finished env status providerID outcome).lastError
          occurredAt := env.now } ∧
      s' = s.putOperation (trimSpace operationID) (op.finished env status providerID outcome)
        event := by
  cases hstatus : OperationStatus.ofOutcome outcome.status with
  | none => simp only [finishFinanceOperation, hstatus, reduceCtorEq] at h
  | some status =>
  rcases hop : s.financeOperations.lookup (trimSpace operationID) with _ | op
  · simp only [finishFinanceOperation, hstatus, hop, reduceCtorEq] at h
  simp only [finishFinanceOperation, hstatus, hop, guard_ok, not_not] at h
  obtain ⟨hprogress, hattempt, h⟩ := h
  cases hprovider : op.finalProviderID (trimSpace outcome.providerOperationID) with
  | error => simp only [hprovider, reduceCtorEq] at h
  | ok providerID =>
    simp only [hprovider, guard_ok, ok.injEq] at h
    refine ⟨status, op, providerID, _, rfl, rfl, hprogress, fun n hn => ?_, fun hne => ?_, rfl,
      h.2.symm⟩
    · by_contra hne
      exact hattempt ⟨n, hn, hne⟩
    · rw [finalProviderID, if_neg hne, guard_ok] at hprovider
      exact ok.inj hprovider.2

/-- A successful call has one of the effects. -/
theorem effect_of_exec (hs : WellFormed s) {c : Call} (h : c.exec s = .ok s') : Effect s c s' := by
  cases c with
  | createFinanceInvoice =>
    rw [Call.exec, map_eq_ok] at h
    obtain ⟨r, hr, rfl⟩ := h
    exact createFinanceInvoice_effect hr
  | recordFinancePayment =>
    rw [Call.exec, map_eq_ok] at h
    obtain ⟨r, hr, rfl⟩ := h
    exact recordFinancePayment_effect hr
  | recordFinanceRefund =>
    rw [Call.exec, map_eq_ok] at h
    obtain ⟨r, hr, rfl⟩ := h
    exact recordFinanceRefund_effect hs hr
  | beginFinanceOperation =>
    rw [Call.exec, map_eq_ok] at h
    obtain ⟨⟨s', _, _⟩, hr, rfl⟩ := h
    rcases beginFinanceOperation_cases hs hr with ⟨-, rfl⟩ | ⟨_, -, -, rfl, hclaim, hrefund⟩
    · exact .unchanged
    · exact .attempt hclaim hrefund
  | checkpointFinanceOperation =>
    obtain ⟨op, event, hop, hstatus, -, -, rfl⟩ := checkpointFinanceOperation_cases h
    exact .update hop hstatus rfl rfl rfl rfl rfl rfl rfl rfl rfl
  | finishFinanceOperation =>
    obtain ⟨_, op, _, event, -, hop, hstatus, -, -, -, rfl⟩ :=
      finishFinanceOperation_cases h
    exact .update hop hstatus rfl rfl rfl rfl rfl rfl rfl rfl rfl

/-- A call that is refused changes nothing. -/
theorem effect_step (hs : WellFormed s) (c : Call) : Effect s c (step s c) := by
  unfold step
  cases h : c.exec s with
  | error => exact .unchanged
  | ok => exact effect_of_exec hs h

end Effects

/-! ## Every call keeps a ledger well-formed -/

/-- What an operation asks for is in its request. -/
theorem financeRefundRequest_congr {op op' : FinanceOperation} (h : op.request = op'.request) :
    financeRefundRequest op = financeRefundRequest op' := by
  simp only [financeRefundRequest, h]

@[simp] theorem financeRefundRequest_attempted (env : Env) (op : FinanceOperation) :
    financeRefundRequest (op.attempted env) = financeRefundRequest op :=
  financeRefundRequest_congr rfl

namespace WellFormed

variable {s s' : Store} (hs : WellFormed s)
include hs

/-- A new payment. -/
theorem insertPayment {copy : FinancePayment} (h : NewPayment s copy) :
    WellFormed (s.insertPayment copy) :=
  { hs with
    payments := hs.payments.insert h.id_ne h.id_new h.key_new
    refund_payment := fun hr => mem_insert _ |>.2 (.inr (hs.refund_payment hr))
    operation_refund := fun hop ht =>
      let ⟨htype, htarget, hrequest⟩ := hs.operation_refund hop ht
      ⟨htype, mem_insert _ |>.2 (.inr htarget), hrequest⟩ }

/-- A new refund. -/
theorem insertRefund {copy : FinanceRefund} (h : NewRefund s copy) :
    WellFormed (s.insertRefund copy) := by
  refine { hs with
    refunds := hs.refunds.insert h.id_ne h.id_new h.key_new
    refund_pos := fun hr => ?_
    refund_payment := fun hr => ?_ }
  · exact forall_insert (fun _ _ => hs.refund_pos) h.amount_pos hr
  · obtain ⟨_, hpayment, -⟩ := h.capacity
    exact forall_insert (fun _ _ => hs.refund_payment) (mem_of_lookup hpayment) hr

/-- An operation written to the table, when the index of the keys describes the table then. -/
theorem insertOperation {id : String} {op : FinanceOperation} {keys : Table String String}
    {events : Table String (List FinanceOperationEvent)}
    (hindexed : Indexed FinanceOperation.id FinanceOperation.idempotencyKey
      (s.financeOperations.insert id op) keys) (htrimmed : trimSpace id = id)
    (hrefund : op.operationType = "refund" → op.targetType = "payment" ∧
      op.targetID ∈ s.financePayments ∧ (financeRefundRequest op).isSome) :
    WellFormed { s with
      financeOperations := s.financeOperations.insert id op
      financeOperationKeys := keys
      financeOperationEvents := events } := by
  refine { hs with
    operations := hindexed
    operation_refund := fun hop => ?_
    operation_trimmed := fun hop => ?_ }
  · exact forall_insert (fun _ _ => hs.operation_refund) hrefund hop
  · exact forall_insert (fun _ _ => hs.operation_trimmed) htrimmed hop

/-- An operation in the place of one with the same identity. -/
theorem replaceOperation {id : String} {op op' : FinanceOperation}
    {events : Table String (List FinanceOperationEvent)}
    (hop : s.financeOperations.lookup id = some op) (hid : op'.id = op.id)
    (hkey : op'.idempotencyKey = op.idempotencyKey) (htype : op'.operationType = op.operationType)
    (htargetType : op'.targetType = op.targetType) (htarget : op'.targetID = op.targetID)
    (hrequest : op'.request = op.request) : WellFormed { s with
      financeOperations := s.financeOperations.insert id op'
      financeOperationEvents := events } := by
  refine hs.insertOperation (hs.operations.replace hop hid hkey) (hs.operation_trimmed hop) ?_
  rw [htype, htargetType, htarget, financeRefundRequest_congr hrequest]
  exact hs.operation_refund hop

/-- An attempt at an operation. -/
theorem startAttempt {env : Env} {key : String} {operation stored : FinanceOperation}
    (hclaim : Claimed env s key operation stored) (hrefund : RefundAdmitted s key operation) :
    WellFormed (s.startAttempt env key stored) := by
  cases hclaim with
  | new id_ne id_trimmed id_new key_new key_eq status_eq type_eq targetType_eq target_eq
      request_eq =>
    refine hs.insertOperation ?_ id_trimmed ?_
    · rw [if_neg key_new, ← key_eq]
      exact hs.operations.insert (v := stored.attempted env) id_ne id_new (key_eq ▸ key_new)
    intro htype
    obtain ⟨htargetType, _, _, _, hrequest, hpayment, -⟩ :=
      hrefund (type_eq ▸ htype)
    refine ⟨targetType_eq.trans htargetType, ?_, ?_⟩
    · exact target_eq ▸ mem_of_lookup hpayment
    · rw [financeRefundRequest_attempted, financeRefundRequest_congr request_eq, hrequest]
      rfl
  | retry key_known known =>
    refine hs.insertOperation ?_ (hs.operation_trimmed known) ?_
    · rw [if_pos (mem_of_lookup key_known)]
      exact hs.operations.replace known rfl rfl
    · have hstored := hs.operation_refund known
      rwa [← financeRefundRequest_attempted env] at hstored

/-- An effect of a call keeps a ledger well-formed. -/
theorem effect {c : Call} (h : Effect s c s') : WellFormed s' := by
  cases h with
  | unchanged => exact hs
  | invoice h => exact { hs with invoices := hs.invoices.insert h.id_ne h.id_new h.key_new }
  | servicePeriod h => exact { hs with invoices := hs.invoices.replace h rfl rfl }
  | payment h => exact hs.insertPayment h
  | refund h => exact hs.insertRefund h
  | boundRefund h _ hop =>
    exact (hs.insertRefund h).replaceOperation hop rfl rfl rfl rfl rfl rfl
  | attempt hclaim hrefund => exact hs.startAttempt hclaim hrefund
  | update hop _ hid hkey htype htargetType htarget hrequest =>
    exact hs.replaceOperation hop hid hkey htype htargetType htarget hrequest

theorem step (c : Call) : WellFormed (step s c) :=
  hs.effect (effect_step hs c)

end WellFormed

/-- A ledger that starts without records is well-formed at any time. -/
theorem wellFormed_run (byID : List String) (subscriptions : Table String (List SubscriptionRef))
    (cs : List Call) : WellFormed (Run.exec Finance.step (.init byID subscriptions) cs) :=
  Run.exec_induction (fun _ c hs => hs.step c) (.init byID subscriptions) cs

end Accounts.Finance

import Accounts.Finance.WellFormed

/-!
# No payment is refunded beyond its amount

What is *taken* of a payment is the sum of its refunds (`Store.refunded`) and of
the amounts of the refund operations that may still become one
(`Store.reserved`). A refund or a refund operation is admitted when it fits in
what is left, so the sum should stay within the payment, and the 64-bit sums of
the checks should be exact (`CapacityKept`).

Every effect of a call keeps this, with one exception. A failed operation that
is claimed again is reserved with the amount of the *stored* request, but the
check is made with the amount of the request of the *call*; the two are only
compared as untyped documents, where numbers are 64-bit floats. The runs in
which such a claim asks for the stored amount (`SameAmount`) keep all payments
within their amounts.
-/

namespace Accounts.Finance

open Table List Store Env

section

variable [Unicode]

/-! ## What is taken of a payment -/

namespace Store

/-- A refund is recorded under an idempotency key. -/
def HasRefund (s : Store) (key : String) : Prop :=
  ∃ refund ∈ s.financeRefunds.rows, refund.idempotencyKey = key

instance (s : Store) (key : String) : Decidable (s.HasRefund key) :=
  inferInstanceAs (Decidable (∃ refund ∈ _, _))

/-- The sum of the refunds of a payment. -/
def refunded (s : Store) (paymentID : String) : ℤ :=
  total (fun refund => if refund.paymentID = paymentID then refund.amountMinor.toInt else 0)
    s.financeRefunds

end Store

/-- The amount a refund operation asks for. -/
def requestedAmount (operation : FinanceOperation) : ℤ :=
  match financeRefundRequest operation with
  | some (amount, _) => amount.toInt
  | none => 0

namespace Store

variable (s : Store) (paymentID : String)

/-- What an operation reserves of a payment: the amount of a refund operation
    that did not fail and has no refund yet. -/
def reservation (operation : FinanceOperation) : ℤ :=
  if financeOperationReservesRefund operation ∧ operation.targetID = paymentID ∧
      ¬ s.HasRefund operation.idempotencyKey then requestedAmount operation else 0

/-- The sum of what is reserved of a payment. -/
def reserved : ℤ :=
  total (s.reservation paymentID) s.financeOperations

/-- The sum of what is reserved of a payment, apart from the operation under a key. -/
def reservedExcept (key : String) : ℤ :=
  total (fun op => if op.idempotencyKey ≠ key then s.reservation paymentID op else 0)
    s.financeOperations

end Store

/-- No more is taken of a payment than its amount, and the sums of the capacity
    checks are exact, in whatever order the records are visited. -/
structure CapacityKept (s : Store) : Prop where
  within : ∀ {id payment}, s.financePayments.lookup id = some payment →
    s.refunded id + s.reserved id ≤ payment.amountMinor.toInt
  exact : ∀ paymentID key ownFact, Int64.NoOverflow (s.capacityTerms paymentID key ownFact)

/-- A call that claims a failed refund operation again, and is not refused, asks for the amount
    that is stored. -/
def SameAmount (s : Store) : Call → Prop
  | .beginFinanceOperation env operation =>
    ((Call.beginFinanceOperation env operation).exec s).isOk →
    ∀ id ∈ s.financeOperationKeys.lookup (Text.trimSpace operation.idempotencyKey),
    ∀ stored ∈ s.financeOperations.lookup id, stored.operationType = "refund" →
      stored.status = .failed → requestedAmount operation.normalized = requestedAmount stored
  | _ => True

instance (s : Store) : DecidablePred (SameAmount s)
  | .beginFinanceOperation _ _ =>
    inferInstanceAs (Decidable (_ = true → ∀ id ∈ _, ∀ stored ∈ _, _ → _ → _ = _))
  | .createFinanceInvoice .. => .isTrue trivial
  | .recordFinancePayment .. => .isTrue trivial
  | .recordFinanceRefund .. => .isTrue trivial
  | .checkpointFinanceOperation .. => .isTrue trivial
  | .finishFinanceOperation .. => .isTrue trivial

/-! ## The sums of the capacity checks -/

variable {op : FinanceOperation} {amount : Int64}

theorem requestedAmount_eq {currency : String}
    (h : financeRefundRequest op = some (amount, currency)) : requestedAmount op = amount.toInt := by
  simp only [requestedAmount, h]

theorem requestedAmount_nonneg (op : FinanceOperation) : 0 ≤ requestedAmount op := by
  match h : financeRefundRequest op with
  | none => simp only [requestedAmount, h, le_refl]
  | some (amount, currency) =>
    rw [requestedAmount_eq h]
    unfold financeRefundRequest at h
    split at h
    · cases h
    split_ifs at h with hvalid
    cases h
    exact le_of_lt (Int64.lt_iff_toInt_lt.1 (Int64.not_le.1 (not_or.1 hvalid).1))

variable {op' : FinanceOperation}

theorem requestedAmount_congr (h : op.request = op'.request) :
    requestedAmount op = requestedAmount op' := by
  simp only [requestedAmount, financeRefundRequest_congr h]

omit [Unicode] in
/-- Only refund operations reserve. -/
theorem operationType_of_reserves (h : financeOperationReservesRefund op = true) :
    op.operationType = "refund" := by
  simp only [financeOperationReservesRefund, Bool.and_eq_true, beq_iff_eq] at h
  exact h.1.1

theorem Store.reservation_nonneg (s : Store) (paymentID : String) (op : FinanceOperation) :
    0 ≤ s.reservation paymentID op := by
  unfold reservation
  split_ifs
  · exact requestedAmount_nonneg op
  · exact le_refl 0

theorem Store.reservedExcept_le (s : Store) (paymentID key : String) :
    s.reservedExcept paymentID key ≤ s.reserved paymentID := by
  refine total_le_total fun _ op _ => ?_
  split_ifs
  · exact le_refl _
  · exact s.reservation_nonneg paymentID op

namespace WellFormed

variable {s : Store}

theorem amount_nonneg (hs : WellFormed s) {i : String} {r : FinanceRefund}
    (h : s.financeRefunds.lookup i = some r) : 0 ≤ r.amountMinor.toInt :=
  le_of_lt (Int64.lt_iff_toInt_lt.1 (hs.refund_pos h))

/-- The index of the refunds by key tells which keys have a refund. -/
theorem hasRefund_iff (hs : WellFormed s) (key : String) : s.HasRefund key ↔ s.refundKey key ≠ "" := by
  unfold Store.HasRefund refundKey
  constructor
  · rintro ⟨r, hr, rfl⟩
    obtain ⟨i, hi⟩ := mem_rows_iff.1 hr
    rw [hs.refunds.of_row hi]
    exact hs.refunds.id_ne hi
  intro h
  cases hkey : s.financeRefundKeys.lookup key with
  | none => simp [hkey] at h
  | some i =>
    obtain ⟨r, hr, rfl⟩ := hs.refunds.of_key hkey
    exact ⟨r, mem_rows_iff.2 ⟨i, hr⟩, rfl⟩

/-- The term of an operation in a capacity check is what it reserves. -/
theorem toInt_reservationTerm (hs : WellFormed s) (paymentID key : String)
    (op : FinanceOperation) : (s.reservationTerm paymentID key op).toInt =
      if op.idempotencyKey ≠ key then s.reservation paymentID op else 0 := by
  simp only [reservationTerm, reservation, requestedAmount, hs.hasRefund_iff, not_not]
  by_cases hkey : op.idempotencyKey = key
  · simp [hkey]
  · simp only [hkey, ne_eq, not_false_eq_true, true_and, if_true]
    split_ifs
    · cases financeRefundRequest op <;> rfl
    · rfl

variable {paymentID key : String} {ownFact : Option String}

/-- The exact sum of a capacity check, of which no refund is passed over. -/
theorem sum_capacityTerms (hs : WellFormed s) (hown : ∀ i ∈ ownFact, i ∉ s.financeRefunds) :
    ((s.capacityTerms paymentID key ownFact).map Int64.toInt).sum =
      s.refunded paymentID + s.reservedExcept paymentID key := by
  rw [capacityTerms, map_append, sum_append, map_map, map_map]
  congr 1
  · refine total_congr fun i r hr => ?_
    have hne : some r.id ≠ ownFact := fun he =>
      hown r.id he.symm (hs.refunds.id_eq hr ▸ mem_of_lookup hr)
    simp only [Function.comp, refundTerm, hne, ne_eq, not_false_eq_true, and_true]
    split_ifs <;> rfl
  · exact total_congr fun i op _ => hs.toInt_reservationTerm paymentID key op

/-- The terms of a capacity check are not negative. -/
theorem capacityTerms_nonneg (hs : WellFormed s) {x : Int64}
    (hx : x ∈ s.capacityTerms paymentID key ownFact) : 0 ≤ x.toInt := by
  rcases mem_append.1 hx with hx | hx
  · obtain ⟨r, hr, rfl⟩ := mem_map.1 hx
    obtain ⟨i, hi⟩ := mem_rows_iff.1 hr
    unfold refundTerm
    split_ifs
    · exact hs.amount_nonneg hi
    · exact le_refl 0
  · obtain ⟨op, -, rfl⟩ := mem_map.1 hx
    rw [hs.toInt_reservationTerm]
    split_ifs
    · exact s.reservation_nonneg paymentID op
    · exact le_refl 0

/-- Nothing is taken of a payment that is not in the ledger. -/
theorem taken_eq_zero (hs : WellFormed s) (h : paymentID ∉ s.financePayments) :
    s.refunded paymentID + s.reserved paymentID = 0 := by
  have hrefunded : s.refunded paymentID = 0 := total_eq_zero fun i r hr => by
    refine if_neg fun hpay => h ?_
    rw [← hpay]
    exact hs.refund_payment hr
  have hreserved : s.reserved paymentID = 0 := total_eq_zero fun i op hop => by
    refine if_neg fun hres => h ?_
    rw [← hres.2.1]
    exact (hs.operation_refund hop (operationType_of_reserves hres.1)).2.1
  rw [hrefunded, hreserved, add_zero]

section

variable (hs : WellFormed s)
  (hwithin : ∀ {id payment}, s.financePayments.lookup id = some payment →
    s.refunded id + s.reserved id ≤ payment.amountMinor.toInt)
include hs hwithin

/-- In a ledger whose payments are kept within their amounts, the sum of a
    capacity check is in range. -/
theorem sum_capacityTerms_lt (paymentID key : String) (ownFact : Option String) :
    ((s.capacityTerms paymentID key ownFact).map Int64.toInt).sum < 2 ^ 63 := by
  -- The sum is at most what is taken of the payment.
  have hle : ((s.capacityTerms paymentID key ownFact).map Int64.toInt).sum ≤
      s.refunded paymentID + s.reserved paymentID := by
    rw [capacityTerms, map_append, sum_append, map_map, map_map]
    refine add_le_add (total_le_total fun i r hr => ?_) ?_
    · have hr := hs.amount_nonneg hr
      simp only [Function.comp, refundTerm]
      split_ifs with h hpay hpay
      · exact le_refl _
      · exact absurd h.1 hpay
      · exact hr
      · exact le_refl _
    · refine le_trans (le_of_eq ?_) (s.reservedExcept_le paymentID key)
      exact total_congr fun i op _ => hs.toInt_reservationTerm paymentID key op
  refine lt_of_le_of_lt hle ?_
  by_cases hp : paymentID ∈ s.financePayments
  · obtain ⟨payment, hpayment⟩ := exists_lookup_of_mem hp
    exact lt_of_le_of_lt (hwithin hpayment) (Int64.toInt_lt _)
  · rw [hs.taken_eq_zero hp]
    decide

/-- The sums of the capacity checks are exact when the payments are kept within their amounts. -/
theorem capacityKept : CapacityKept s where
  within := hwithin
  exact paymentID key ownFact := Int64.noOverflow_of_sum_lt (fun _ hx => hs.capacityTerms_nonneg hx)
    (hs.sum_capacityTerms_lt hwithin paymentID key ownFact)

end

/-- An amount that passes a capacity check fits in what is left of the payment. -/
theorem le_of_check (hs : WellFormed s) (hkept : CapacityKept s)
    (hpayment : s.financePayments.lookup paymentID = some payment)
    (hown : ∀ i ∈ ownFact, i ∉ s.financeRefunds) (hcheck : amount ≤ payment.amountMinor -
      Int64.sum64 (s.capacityTerms paymentID key ownFact)) :
    s.refunded paymentID + s.reservedExcept paymentID key + amount.toInt ≤
      payment.amountMinor.toInt := by
  have hnonneg : ∀ x ∈ s.capacityTerms paymentID key ownFact, 0 ≤ x.toInt :=
    fun x hx => hs.capacityTerms_nonneg hx
  have hsum := Int64.toInt_sum64 hnonneg
    (hs.sum_capacityTerms_lt hkept.within paymentID key ownFact)
  rw [hs.sum_capacityTerms hown] at hsum
  have hpos : 0 ≤ (Int64.sum64 (s.capacityTerms paymentID key ownFact)).toInt := by
    rw [hsum, ← hs.sum_capacityTerms hown]
    exact sum_nonneg fun y hy => by
      obtain ⟨x, hx, rfl⟩ := mem_map.1 hy
      exact hnonneg x hx
  have hle := hkept.within hpayment
  have hexcept := s.reservedExcept_le paymentID key
  have hdiff : (payment.amountMinor - Int64.sum64 (s.capacityTerms paymentID key ownFact)).toInt =
      payment.amountMinor.toInt - (Int64.sum64 (s.capacityTerms paymentID key ownFact)).toInt :=
    Int64.toInt_sub_of_le _ _ (Int64.le_iff_toInt_le.2 hpos) (Int64.le_iff_toInt_le.2 (by omega))
  have := Int64.le_iff_toInt_le.1 hcheck
  omega

/-! ## Every effect keeps the payments within their amounts -/

variable {copy : FinanceRefund}

/-- A new refund ends the reservation of the operation under its key. -/
theorem reserved_insertRefund (hs : WellFormed s) (h : NewRefund s copy) (id : String) :
    (s.insertRefund copy).reserved id = s.reservedExcept id copy.idempotencyKey := by
  refine total_congr fun i op _ => ?_
  have hhas : (s.insertRefund copy).HasRefund op.idempotencyKey ↔
      op.idempotencyKey = copy.idempotencyKey ∨ s.HasRefund op.idempotencyKey := by
    rw [(hs.insertRefund h).hasRefund_iff, hs.hasRefund_iff]
    by_cases hkey : op.idempotencyKey = copy.idempotencyKey
    · rw [hkey]
      simp [Store.refundKey, Store.insertRefund, h.id_ne]
    · simp [Store.refundKey, Store.insertRefund, AList.lookup_insert_ne hkey, hkey]
  by_cases hkey : op.idempotencyKey = copy.idempotencyKey
  · rw [if_neg (not_not.2 hkey)]
    exact if_neg fun hres => hres.2.2 (hhas.2 (.inl hkey))
  · simp only [reservation, hhas, hkey, false_or, ne_eq, not_false_eq_true, if_true]

/-- A new refund that passes the check keeps the payments within their amounts. -/
theorem within_insertRefund (hs : WellFormed s) (hkept : CapacityKept s) (h : NewRefund s copy)
    {id : String} (hpayment : s.financePayments.lookup id = some payment) :
    (s.insertRefund copy).refunded id + (s.insertRefund copy).reserved id ≤
      payment.amountMinor.toInt := by
  have hrefunded : (s.insertRefund copy).refunded id =
      (if copy.paymentID = id then copy.amountMinor.toInt else 0) + s.refunded id :=
    total_insert_of_notMem _ copy h.id_new
  rw [hrefunded, hs.reserved_insertRefund h]
  by_cases hid : copy.paymentID = id
  · subst hid
    obtain ⟨payment', hpayment', -, hcheck⟩ := h.capacity
    obtain rfl : payment' = payment := Option.some.inj (hpayment'.symm.trans hpayment)
    have hle := hs.le_of_check hkept hpayment (by simp) hcheck
    rw [if_pos rfl]
    omega
  · have hle := hkept.within hpayment
    have hexcept := s.reservedExcept_le id copy.idempotencyKey
    rw [if_neg hid]
    omega

end WellFormed

/-- An operation written in the place of one that reserves no less. -/
theorem Store.reserved_putOperation_le {s : Store} {i id : String} {event : FinanceOperationEvent}
    (hop : s.financeOperations.lookup i = some op)
    (hle : s.reservation id op' ≤ s.reservation id op) :
    (s.putOperation i op' event).reserved id ≤ s.reserved id := by
  have htotal := total_insert_of_lookup (s.reservation id) op' hop
  change total (s.reservation id) (s.financeOperations.insert i op') ≤
    total (s.reservation id) s.financeOperations
  omega

namespace WellFormed

variable {s : Store} {env : Env} {key : String} {operation stored : FinanceOperation}

/-- Of the operations under other keys, an attempt changes nothing; its own
    reserves what an operation in progress does. -/
theorem reserved_startAttempt (hs : WellFormed s) (hclaim : Claimed env s key operation stored)
    (hrefund : RefundAdmitted s key operation) (id : String) :
    (s.startAttempt env key stored).reserved id =
      s.reservation id (stored.attempted env) + s.reservedExcept id key := by
  have hkey : (stored.attempted env).idempotencyKey = key := by cases hclaim <;> assumption
  have hsplit := (hs.startAttempt hclaim hrefund).operations.total_eq_add (s.reservation id)
    (AList.lookup_insert s.financeOperations)
  refine hsplit.trans (congrArg _ ?_)
  rw [hkey]
  have hzero : ∀ op : FinanceOperation, op.idempotencyKey = key →
      (if op.idempotencyKey ≠ key then s.reservation id op else 0) = 0 :=
    fun op hop => if_neg (not_not.2 hop)
  cases hclaim with
  | new _ _ id_new =>
    refine (total_insert_of_notMem _ _ id_new).trans ?_
    rw [hzero _ hkey, zero_add]
    rfl
  | retry _ known key_eq =>
    have htotal := total_insert_of_lookup
      (fun op => if op.idempotencyKey ≠ key then s.reservation id op else 0)
      (stored.attempted env) known
    rw [hzero _ hkey, hzero _ key_eq, add_zero, zero_add] at htotal
    exact htotal

variable {payment : FinancePayment} {id : String}

/-- An attempt that passes the check, with the amount it reserves. -/
theorem within_of_admitted (hs : WellFormed s) (hkept : CapacityKept s)
    (hrefund : RefundAdmitted s key operation)
    (hpayment : s.financePayments.lookup id = some payment)
    (htype : operation.operationType = "refund") (htarget : operation.targetID = id)
    (hno : ¬ s.HasRefund key) (hamount : requestedAmount stored = requestedAmount operation) :
    s.refunded id + (requestedAmount stored + s.reservedExcept id key) ≤
      payment.amountMinor.toInt := by
  obtain ⟨-, _, _, payment', hrequest, hpayment', -, hcheck⟩ := hrefund htype
  rw [htarget] at hpayment' hcheck
  obtain rfl : payment' = payment := Option.some.inj (hpayment'.symm.trans hpayment)
  have hown : ∀ i ∈ some (s.refundKey key), i ∉ s.financeRefunds := by
    rintro i ⟨⟩ hi
    obtain ⟨r, hr⟩ := exists_lookup_of_mem hi
    exact hs.refunds.id_ne hr (not_not.1 ((hs.hasRefund_iff key).not.1 hno))
  have hle := hs.le_of_check hkept hpayment hown hcheck
  rw [hamount, requestedAmount_eq hrequest]
  omega

/-- An attempt that passes the check keeps the payments within their amounts,
    when it is checked with the amount it reserves. -/
theorem within_startAttempt (hs : WellFormed s) (hkept : CapacityKept s)
    (hclaim : Claimed env s key operation stored) (hrefund : RefundAdmitted s key operation)
    (hsame : s.financeOperations.lookup stored.id = some stored →
      stored.operationType = "refund" → stored.status = .failed →
      requestedAmount operation = requestedAmount stored)
    (hpayment : s.financePayments.lookup id = some payment) :
    (s.startAttempt env key stored).refunded id + (s.startAttempt env key stored).reserved id ≤
      payment.amountMinor.toInt := by
  rw [hs.reserved_startAttempt hclaim hrefund]
  change s.refunded id + _ ≤ _
  by_cases hres : financeOperationReservesRefund (stored.attempted env) ∧
      stored.targetID = id ∧ ¬ s.HasRefund stored.idempotencyKey
  · have htype : (stored.attempted env).operationType = "refund" := operationType_of_reserves hres.1
    change stored.operationType = "refund" at htype
    have hatt : s.reservation id (stored.attempted env) = requestedAmount stored :=
      (if_pos hres).trans (requestedAmount_congr rfl)
    cases hclaim with
    | new _ _ _ _ key_eq _ type_eq _ target_eq request_eq =>
      subst key_eq
      rw [hatt]
      exact hs.within_of_admitted hkept hrefund hpayment (type_eq ▸ htype)
        (target_eq ▸ hres.2.1) hres.2.2 (requestedAmount_congr request_eq)
    | retry _ known key_eq _ _ type_eq _ target_eq =>
      subst key_eq
      by_cases hfailed : stored.status = .failed
      · rw [hatt]
        exact hs.within_of_admitted hkept hrefund hpayment (type_eq ▸ htype)
          (target_eq ▸ hres.2.1) hres.2.2 (hsame known htype hfailed).symm
      -- It was reserved before: nothing more is taken.
      have hreserves : financeOperationReservesRefund stored = true := by
        have htargetType := (hs.operation_refund known htype).1
        simp only [financeOperationReservesRefund, htype, htargetType]
        cases hst : stored.status
        · rfl
        · rfl
        · rfl
        · exact absurd hst hfailed
        · rfl
      have heq : s.reservation id (stored.attempted env) = s.reservation id stored :=
        hatt.trans (if_pos ⟨hreserves, hres.2⟩).symm
      rw [heq]
      exact (hs.operations.total_eq_add (s.reservation id) known) ▸ hkept.within hpayment
  · have hzero : s.reservation id (stored.attempted env) = 0 := if_neg hres
    have hle := hkept.within hpayment
    have hexcept := s.reservedExcept_le id key
    omega

end WellFormed

/-- The effect of a call keeps the payments within their amounts, when a failed
    refund operation is claimed again with its own amount. -/
theorem CapacityKept.effect {s s' : Store} {c : Call} (hs : WellFormed s) (hkept : CapacityKept s)
    (hsame : SameAmount s c) (hok : (c.exec s).isOk) (h : Effect s c s') : CapacityKept s' := by
  refine (hs.effect h).capacityKept fun {id payment} hpayment => ?_
  cases h with
  | unchanged | invoice | servicePeriod => exact hkept.within hpayment
  | payment h =>
    rcases lookup_insert_iff.1 hpayment with ⟨rfl, rfl⟩ | ⟨-, hpayment⟩
    · -- A new payment has nothing taken of it.
      refine (hs.taken_eq_zero h.id_new).le.trans ?_
      exact le_of_lt (Int64.lt_iff_toInt_lt.1 h.amount_pos)
    · exact hkept.within hpayment
  | refund h => exact hs.within_insertRefund hkept h hpayment
  | boundRefund h _ hop =>
    refine le_trans (add_le_add (le_refl _) (reserved_putOperation_le hop ?_))
      (hs.within_insertRefund hkept h hpayment)
    exact le_of_eq (if_congr Iff.rfl (requestedAmount_congr rfl) rfl)
  | attempt hclaim hrefund =>
    refine hs.within_startAttempt hkept hclaim hrefund ?_ hpayment
    intro hstored htype hfailed
    cases hclaim with
    | new _ _ id_new => exact absurd (mem_of_lookup hstored) id_new
    | retry key_known known => exact hsame hok _ key_known _ known htype hfailed
  | update hop hstatus _ hkey htype htargetType htarget hrequest =>
    refine le_trans (add_le_add (le_refl _) (reserved_putOperation_le hop ?_))
      (hkept.within hpayment)
    -- An operation that is not in progress any more reserves no more than it did.
    unfold reservation
    rw [hkey, htarget, requestedAmount_congr hrequest]
    split_ifs with h' h h
    · exact le_refl _
    · refine absurd ⟨?_, h'.2⟩ h
      have hres := h'.1
      simp only [financeOperationReservesRefund, Bool.and_eq_true] at hres
      simp only [financeOperationReservesRefund, ← htype, ← htargetType, hstatus, hres.1.1, hres.1.2]
      decide
    · exact requestedAmount_nonneg _
    · exact le_refl _

/-- A call keeps the payments within their amounts, when a failed refund
    operation is claimed again with its own amount. -/
theorem CapacityKept.step {s : Store} {c : Call} (hkept : CapacityKept s) (hsame : SameAmount s c)
    (hs : WellFormed s) : WellFormed (step s c) ∧ CapacityKept (step s c) := by
  refine ⟨hs.step c, ?_⟩
  rw [Finance.step]
  cases h : c.exec s with
  | error => exact hkept
  | ok => exact hkept.effect hs hsame (by rw [h]; rfl) (effect_of_exec hs h)

/-- A ledger without records keeps its payments within their amounts. -/
theorem CapacityKept.init (byID : List String) (subscriptions : Table String (List SubscriptionRef)) :
    CapacityKept (init byID subscriptions) :=
  (WellFormed.init byID subscriptions).capacityKept fun h => by simp [Store.init] at h

/-- In every run in which a failed refund operation is claimed again only with its own amount, no
    more is taken of a payment than its amount, and the sums of the capacity checks are exact. -/
theorem capacityKept_of_sameAmount {byID : List String}
    {subscriptions : Table String (List SubscriptionRef)} {cs : List Call}
    (hsame : Run.Guarded step SameAmount (init byID subscriptions) cs) :
    CapacityKept (Run.exec step (init byID subscriptions) cs) := by
  have hkept := hsame.exec_induction (P := fun s => WellFormed s ∧ CapacityKept s)
    (fun _ _ hsame h => h.2.step hsame h.1)
    ⟨WellFormed.init byID subscriptions, CapacityKept.init byID subscriptions⟩
  exact hkept.2

end

/-! ## A refund operation that is checked with less than it reserves -/

/-- A request to refund an amount of the payment of the run below. -/
def refundIntent (id key : String) (amount : Nat) : FinanceOperation where
  id := id
  idempotencyKey := key
  operationType := "refund"
  targetType := "payment"
  targetID := "pay"
  provider := "stripe"
  providerOperationID := ""
  status := .pending
  attemptCount := 0
  nextAttemptAt := none
  lastError := ""
  request := .doc (.object [("amount_minor", .number { integer := amount }),
    ("currency", .string "USD")])
  response := .empty
  createdAt := 0
  updatedAt := 0

/-- A payment of `2 ^ 53 + 1`, and a refund operation for all of it that fails. -/
def failedRefund : List Call :=
  [.createFinanceInvoice (sample 1) ⟨"inv", "inv-key", "acct", "", "stripe", "",
      9007199254740993, "USD", "", 0, none, none, none, 0⟩,
    .recordFinancePayment (sample 2) ⟨"pay", "pay-key", "inv", "acct", "stripe", "",
      9007199254740993, "USD", 0, 0⟩,
    .beginFinanceOperation (sample 3) (refundIntent "op1" "k1" 9007199254740993),
    .finishFinanceOperation (sample 4) "op1" ⟨"failed", "", .empty, none, none⟩ none]

section

local instance : Unicode := Unicode.ascii

/-- A failed refund operation that is claimed again with its own amount. -/
theorem failedRefund_reclaimed_capacityKept :
    CapacityKept (Run.exec step (init ["acct"] ∅) (failedRefund ++
      [.beginFinanceOperation (sample 5) (refundIntent "" "k1" 9007199254740993)])) :=
  capacityKept_of_sameAmount (by decide +kernel)

/-- After a second operation took 1 of the payment, the first one is claimed
    again with `2 ^ 53`. As a float this is the stored amount `2 ^ 53 + 1`, so
    the requests agree; the amount checked fits, the amount reserved does not. -/
theorem failedRefund_reclaimed_exceeds :
    ¬ CapacityKept (Run.exec step (init ["acct"] ∅) (failedRefund ++
      [.beginFinanceOperation (sample 5) (refundIntent "op2" "k2" 1),
        .beginFinanceOperation (sample 6) (refundIntent "" "k1" 9007199254740992)])) := by
  intro hkept
  have hpayment : ((Run.exec step (init ["acct"] ∅) (failedRefund ++
      [.beginFinanceOperation (sample 5) (refundIntent "op2" "k2" 1),
        .beginFinanceOperation (sample 6) (refundIntent "" "k1" 9007199254740992)]))
      ).financePayments.lookup "pay" = some ⟨"pay", "pay-key", "inv", "acct", "stripe", "",
        9007199254740993, "USD", 2, 2⟩ := by decide +kernel
  exact absurd (hkept.within hpayment) (by decide +kernel)

end

end Accounts.Finance

import Accounts.Finance.WellFormed

/-!
# The facts of the ledger

The ledger is the only writer of invoices, payments and refunds. Whatever is called, and
whatever happens to the accounts and their subscriptions in between (`Turn`), the facts agree
with each other (`Facts`), and stay as they are, except that an invoice without a service
period may be given one (`Later`):

* `facts_kept`: both hold at any two moments of every run.
-/

namespace Accounts.Finance

open Table

/-! ## What holds of the facts -/

/-- The reference of a fact at its provider. -/
def reference (provider id : String) : Option (String × String) :=
  if id = "" then none else some (provider, id)

/-- A reference that no row of a table has. -/
theorem reference_new {V : Type*} {t : Table String V} {provider ref : V → String} {copy : V}
    {k : String} (h : ref copy = "" ∨ ∀ existing ∈ rows t,
      ¬ (provider existing = provider copy ∧ ref existing = ref copy))
    (hne : reference (provider copy) (ref copy) ≠ none) (j : String) (w : V)
    (hw : t.lookup j = some w)
    (heq : reference (provider w) (ref w) = reference (provider copy) (ref copy)) : j = k := by
  have hcopy : ref copy ≠ "" := fun hempty => hne (if_pos hempty)
  rw [reference, reference] at heq
  split_ifs at heq
  have hsame := Prod.mk.inj (Option.some_inj.1 heq)
  exact absurd hsame (h.resolve_left hcopy w (mem_rows_iff.2 ⟨j, hw⟩))

/-- The facts agree: the keys refer to the records and the records to the keys, no two facts
    of a kind have one reference at a provider, and an invoice is paid once, by its account, in
    its currency and in full. -/
structure Facts (s : Store) : Prop where
  invoices : Indexed FinanceInvoice.id FinanceInvoice.idempotencyKey s.financeInvoices
    s.financeInvoiceKeys
  payments : Indexed FinancePayment.id FinancePayment.idempotencyKey s.financePayments
    s.financePaymentKeys
  refunds : Indexed FinanceRefund.id FinanceRefund.idempotencyKey s.financeRefunds
    s.financeRefundKeys
  invoice_references : UniqueOn (fun v => reference v.provider v.providerInvoiceID)
    s.financeInvoices
  payment_references : UniqueOn (fun v => reference v.provider v.providerPaymentID)
    s.financePayments
  refund_references : UniqueOn (fun v => reference v.provider v.providerRefundID) s.financeRefunds
  paid_once : UniqueOn (fun v => some v.invoiceID) s.financePayments
  paid : ∀ ⦃i payment⦄, s.financePayments.lookup i = some payment →
    ∃ invoice, s.financeInvoices.lookup payment.invoiceID = some invoice ∧
      invoice.accountUUID = payment.accountUUID ∧ invoice.currency = payment.currency ∧
      invoice.amountMinor = payment.amountMinor

/-- An invoice is as it was, or got the service period it did not have. -/
def FinanceInvoice.Later (invoice invoice' : FinanceInvoice) : Prop :=
  invoice' = invoice ∨ invoice.servicePeriodStart = none ∧ invoice.servicePeriodEnd = none ∧
    ∃ start stop, start ≠ none ∧
      invoice' = { invoice with servicePeriodStart := start, servicePeriodEnd := stop }

/-- All facts are there, as they were. -/
structure Later (s s' : Store) : Prop where
  invoices : ∀ ⦃i invoice⦄, s.financeInvoices.lookup i = some invoice →
    ∃ invoice', s'.financeInvoices.lookup i = some invoice' ∧ invoice.Later invoice'
  payments : ∀ ⦃i payment⦄, s.financePayments.lookup i = some payment →
    s'.financePayments.lookup i = some payment
  refunds : ∀ ⦃i refund⦄, s.financeRefunds.lookup i = some refund →
    s'.financeRefunds.lookup i = some refund

/-- A service period is given once. -/
theorem FinanceInvoice.Later.trans {a b c : FinanceInvoice} (hab : a.Later b) (hbc : b.Later c) :
    a.Later c := by
  rcases hab with rfl | ⟨hstart, hstop, start, stop, hne, rfl⟩
  · exact hbc
  · rcases hbc with rfl | ⟨hnone, -⟩
    · exact .inr ⟨hstart, hstop, start, stop, hne, rfl⟩
    · exact absurd hnone hne

namespace Later

variable {s s' s'' : Store}

theorem refl (s : Store) : Later s s :=
  ⟨fun _ invoice h => ⟨invoice, h, .inl rfl⟩, fun _ _ h => h, fun _ _ h => h⟩

theorem trans (h : Later s s') (h' : Later s' s'') : Later s s'' where
  invoices i invoice hi := by
    obtain ⟨b, hb, hlater⟩ := h.invoices hi
    obtain ⟨c, hc, hlater'⟩ := h'.invoices hb
    exact ⟨c, hc, hlater.trans hlater'⟩
  payments _ _ hi := h'.payments (h.payments hi)
  refunds _ _ hi := h'.refunds (h.refunds hi)

end Later

/-! ## What a call does -/

section

variable [Unicode] {s s' : Store} {c : Call}

/-- An effect of a call keeps the facts. -/
theorem Later.effect (h : Effect s c s') : Later s s' := by
  cases h with
  | unchanged | attempt | update => exact { Later.refl s with }
  | invoice h =>
    exact { Later.refl s with
      invoices := fun _ invoice hi => ⟨invoice, lookup_insert_of_new h.id_new hi, .inl rfl⟩ }
  | payment h =>
    exact { Later.refl s with payments := fun _ _ hi => lookup_insert_of_new h.id_new hi }
  | refund h | boundRefund h =>
    exact { Later.refl s with refunds := fun _ _ hi => lookup_insert_of_new h.id_new hi }
  | @servicePeriod _ _ id old start stop hold hstart hstop hnew =>
    refine { Later.refl s with invoices := fun i invoice hi => ?_ }
    by_cases heq : i = id
    · subst heq
      cases hold.symm.trans hi
      exact ⟨_, AList.lookup_insert _, .inr ⟨hstart, hstop, start, stop, hnew, rfl⟩⟩
    · exact ⟨invoice, lookup_insert_iff.2 (.inr ⟨heq, hi⟩), .inl rfl⟩

/-- An effect of a call keeps the agreement of the facts. -/
theorem Facts.effect (hs : Facts s) (h : Effect s c s') : Facts s' := by
  cases h with
  | unchanged | attempt | update => exact { hs with }
  | invoice h =>
    exact { hs with
      invoices := hs.invoices.insert h.id_ne h.id_new h.key_new
      invoice_references := hs.invoice_references.insert (reference_new h.provider_new)
      paid := fun i payment hi =>
        let ⟨invoice, hinvoice, hagree⟩ := hs.paid hi
        ⟨invoice, lookup_insert_of_new h.id_new hinvoice, hagree⟩ }
  | @servicePeriod _ _ id old _ _ hold =>
    refine { hs with
      invoices := hs.invoices.replace hold rfl rfl
      invoice_references := hs.invoice_references.replace hold rfl
      paid := fun i payment hi => ?_ }
    obtain ⟨invoice, hinvoice, hagree⟩ := hs.paid hi
    by_cases heq : payment.invoiceID = id
    · subst heq
      cases hold.symm.trans hinvoice
      exact ⟨_, AList.lookup_insert _, hagree⟩
    · exact ⟨invoice, lookup_insert_iff.2 (.inr ⟨heq, hinvoice⟩), hagree⟩
  | payment h =>
    refine { hs with
      payments := hs.payments.insert h.id_ne h.id_new h.key_new
      payment_references := hs.payment_references.insert (reference_new h.provider_new)
      paid_once := hs.paid_once.insert fun _ j w hw heq => ?_
      paid := fun i payment hi => ?_ }
    · exact absurd (Option.some_inj.1 heq) (h.unpaid w (mem_rows_iff.2 ⟨j, hw⟩))
    · exact forall_insert (fun _ _ h => hs.paid h) h.invoice hi
  | refund h | boundRefund h =>
    exact { hs with
      refunds := hs.refunds.insert h.id_ne h.id_new h.key_new
      refund_references := hs.refund_references.insert (reference_new h.provider_new) }

/-! ## Runs -/

/-- A call of the ledger, or whatever else changes the accounts and their subscriptions. -/
inductive Turn
  | call (c : Call)
  | accounts (byID : List String) (subscriptions : Table String (List SubscriptionRef))

/-- The store after a turn. -/
def turn (s : Store) : Turn → Store
  | .call c => step s c
  | .accounts byID subscriptions => { s with byID := byID, subscriptions := subscriptions }

/-- A turn keeps the facts, and that they agree. -/
theorem facts_turn (hs : WellFormed s ∧ Facts s) (m : Turn) :
    (WellFormed (turn s m) ∧ Facts (turn s m)) ∧ Later s (turn s m) := by
  cases m with
  | accounts => exact ⟨⟨{ hs.1 with }, { hs.2 with }⟩, { Later.refl s with }⟩
  | call c =>
    have heffect := effect_step hs.1 c
    exact ⟨⟨hs.1.effect heffect, hs.2.effect heffect⟩, .effect heffect⟩

/-- From a store without financial records, along every run of the calls of the ledger, with
    whatever changes of the accounts and subscriptions in between: the facts agree, and every fact
    is at all later moments what it is, but for the service period that an invoice did not have. -/
theorem facts_kept (byID : List String) (subscriptions : Table String (List SubscriptionRef))
    (before since : List Turn) :
    let s := Run.exec turn (Store.init byID subscriptions) before
    Facts s ∧ Later s (Run.exec turn s since) := by
  have hinit : Facts (Store.init byID subscriptions) :=
    ⟨.empty, .empty, .empty, .empty, .empty, .empty, .empty, nofun⟩
  have hs := Run.exec_induction (P := fun s => WellFormed s ∧ Facts s)
    (fun s m hs => (facts_turn hs m).1) ⟨.init byID subscriptions, hinit⟩ before
  refine ⟨hs.2, ?_⟩
  -- What is later at each step is later at the end.
  refine (Run.exec_induction (P := fun s' => (WellFormed s' ∧ Facts s') ∧ Later _ s')
    (fun s' m hs' => ?_) ⟨hs, .refl _⟩ since).2
  obtain ⟨hnext, hlater⟩ := facts_turn hs'.1 m
  exact ⟨hnext, hs'.2.trans hlater⟩

end

end Accounts.Finance

import Accounts.Base.Check
import Accounts.Base.Run
import Accounts.Quota.Accounting

/-!
# The balance of an account and its ledger

The requests that write the quota state of an account (`api/billing_ops.go`,
`api/entitlements.go`, `api/annual_quota.go`): an administrator adjusts the
balance, or the plan of the account is reset, its arrears are marked, it is
moved to the Free plan, or gets its monthly allowance. Each reads the state,
changes it and writes all of it. Between its calls, other requests and top-ups
may take any number of steps; a call may fail, also after it was carried out,
and a request may stop anywhere (`System`).

The balance is to be the sum of the ledger, when no request is in progress
(`Store.Balanced`). An adjustment writes its entry and the balance in two calls,
and every request writes the balance it has read, so this can be lost in three
ways (`balance_lost`). It is kept when no adjustment stops between its two
calls, and the copy from which a request writes still has the balance that is
stored (`balanced_of_sequential`): then the balance, together with what
adjustments in progress have still to add to it, is the sum of the ledger
(`Conserved`).
-/

namespace Accounts.Quota

open Table Text AList BillingLedgerEntry Env Run AccountQuotaState Store

/-! ## Requests -/

/-- The beginning and the end of a period. -/
abbrev Period := Time × Time

/-- A plan, as far as a quota state is computed from it. -/
structure BillingPlan where
  packageName : String
  includedQuotaBytes : Int64

/-- The billing profile of an account, likewise. -/
structure AccountBillingProfile where
  packageName : String
  includedQuotaBytes : Int64
  pricingRuleVersion : String

/-- A request that writes the quota state of an account. Plans, profiles and the
    natural month are read elsewhere. -/
inductive Request
  | adminAdjustBalance (delta : ℚ)
  | resetQuotaForPlan (plan : BillingPlan) (bounds month : Period)
  | resetQuotaForPlanOnce (plan : BillingPlan) (bounds month : Period)
  | markAccountArrears
  | downgradeToFreePlan (plan : BillingPlan) (profile : Option AccountBillingProfile)
      (month : Period)
  | reconcileAnnualPlanQuotas (plan : BillingPlan) (month : Period)

/-- The requests that are not turned down, or ended without any call. -/
def Request.accepted (account : String) : Request → Bool
  | .adminAdjustBalance delta => delta ≠ 0
  | .resetQuotaForPlan .. | .markAccountArrears | .downgradeToFreePlan .. =>
    trimSpace account ≠ ""
  | _ => true

/-- What a request does next. -/
inductive Phase
  | read
  /-- Writing the entry of an adjustment of the state. -/
  | insert (state : AccountQuotaState) (delta : ℚ)
  /-- Writing the state that was made of the copy; `delta` is what the ledger has of it already. -/
  | upsert (copy state : AccountQuotaState) (delta : ℚ)

/-- A request in progress. -/
structure Worker where
  account : String
  request : Request
  phase : Phase

namespace AccountQuotaState

variable (state : AccountQuotaState)

/-- A state without arrears. -/
def cleared (now : Time) : AccountQuotaState :=
  { state with
    arrears := false
    arrearsSince := none
    throttleState := "normal"
    suspendState := "active"
    effectiveAt := now }

/-- The state of a new period. -/
def resetForPlan (plan : BillingPlan) (bounds month : Period) (now : Time) : AccountQuotaState :=
  let period := if bounds.1 < bounds.2 then bounds else month
  { state.cleared now with
    remainingIncludedQuota := plan.includedQuotaBytes
    periodStart := some period.1
    periodEnd := some period.2 }

/-- The period of a state began in a period, and ends with it. -/
def inPeriod (bounds : Period) : Bool :=
  match state.periodStart, state.periodEnd with
  | some start, some stop => bounds.1 ≤ start && start < bounds.2 && stop == bounds.2
  | _, _ => false

/-- A state that has no arrears and is neither throttled nor suspended. -/
def isClear : Bool :=
  !state.arrears && state.arrearsSince == none && state.throttleState == "normal" &&
    state.suspendState == "active"

end AccountQuotaState

section

variable (plan : BillingPlan) (profile : Option AccountBillingProfile)
    (quota : Option AccountQuotaState) (month : Period)

/-- The quota that is left when an account is moved to the Free plan: the usage
    of the paid period counts. -/
def remainingAfterDowngrade : Int64 :=
  match profile, quota with
  | some profile, some quota =>
    if profile.pricingRuleVersion = "plan:FREE" ∧ quota.periodStart.isSome ∧
        (∃ stop ∈ quota.periodEnd, stop ≤ month.1) then plan.includedQuotaBytes
    else
      let used := profile.includedQuotaBytes - quota.remainingIncludedQuota
      plan.includedQuotaBytes - (if used < 0 then 0 else used)
  | none, some quota =>
    if quota.remainingIncludedQuota < plan.includedQuotaBytes then quota.remainingIncludedQuota
    else plan.includedQuotaBytes
  | _, none => plan.includedQuotaBytes

/-- The account is on the Free plan already, in this month. -/
def alreadyDowngraded : Bool :=
  let package := if trimSpace plan.packageName = "" then "default"
    else trimSpace plan.packageName
  match profile, quota with
  | some profile, some quota =>
    profile.pricingRuleVersion == "plan:FREE" && profile.packageName == package &&
      profile.includedQuotaBytes == plan.includedQuotaBytes &&
      quota.periodStart == some month.1 && quota.periodEnd == some month.2
  | _, _ => false

end

/-- The state of an account that is moved to the Free plan. -/
def AccountQuotaState.downgraded (state : AccountQuotaState) (remaining : Int64) (month : Period)
    (now : Time) : AccountQuotaState :=
  { state with
    remainingIncludedQuota := remaining
    arrears := false
    arrearsSince := none
    throttleState := "normal"
    suspendState := if state.suspendState ≠ "suspended" then "active" else state.suspendState
    periodStart := some month.1
    periodEnd := some month.2
    effectiveAt := now }

/-- The state of an account whose payment failed. -/
def markedState (account : String) (now : Time) : Option AccountQuotaState → AccountQuotaState
  | some state => { state with arrearsSince := some (state.arrearsSince.getD now), arrears := true }
  | none =>
    { accountUUID := account
      throttleState := "normal"
      suspendState := "active"
      arrearsSince := some now
      effectiveAt := now
      arrears := true }

/-- A request after it has read the state, unless it returns. -/
def Worker.afterRead (now : Time) (w : Worker) (result : Except QuotaError AccountQuotaState) :
    Option Worker :=
  let state := result.toOption.getD { accountUUID := w.account }
  match w.request with
  | .adminAdjustBalance delta => some { w with phase := .insert state delta }
  | .resetQuotaForPlan plan bounds month =>
    some { w with phase := .upsert state (state.resetForPlan plan bounds month now) 0 }
  | .resetQuotaForPlanOnce plan bounds month =>
    if result.toOption.isSome ∧ state.inPeriod bounds then
      if state.isClear then none
      else some { w with phase := .upsert state (state.cleared now) 0 }
    else match result with
      | .ok _ | .error .notFound =>
        some { w with request := .resetQuotaForPlan plan bounds month, phase := .read }
      | .error _ => none
  | .markAccountArrears =>
    some { w with phase := .upsert state (markedState w.account now result.toOption) 0 }
  | .downgradeToFreePlan plan profile month =>
    match result with
    | .ok _ | .error .notFound =>
      if alreadyDowngraded plan profile result.toOption month then none
      else some { w with phase := .upsert state (state.downgraded
        (remainingAfterDowngrade plan profile result.toOption month) month now) 0 }
    | .error _ => none
  | .reconcileAnnualPlanQuotas plan month =>
    if ∃ stop ∈ state.periodEnd, now < stop then none
    else some { w with phase := .upsert state { state with
      remainingIncludedQuota := plan.includedQuotaBytes
      periodStart := some month.1
      periodEnd := some month.2
      effectiveAt := now } 0 }

/-- How a call of the store ends. -/
inductive Outcome
  | returned
  | failed
  /-- It is carried out, but reported as failed. -/
  | lost
  deriving DecidableEq

/-- The entry of an adjustment. -/
def adjustmentEntry (account : String) (state : AccountQuotaState) (delta : ℚ) :
    BillingLedgerEntry where
  id := ""
  accountUUID := account
  entryType := "manual_adjustment"
  amountDelta := delta
  balanceAfter := state.currentBalance + delta

/-- The next call of a request: the store, and the request unless it returns. -/
def Worker.step (env : Env) (outcome : Outcome) (s : Store) (w : Worker) : Store × Option Worker :=
  match w.phase with
  | .read => match outcome with
    | .returned => (s, w.afterRead env.now (getAccountQuotaState s w.account))
    | _ => (s, w.afterRead env.now (.error .unavailable))
  | .insert state delta =>
    if outcome = .failed then (s, none) else
    match insertBillingLedgerEntry env s (adjustmentEntry w.account state delta) with
    | .error _ => (s, none)
    | .ok s' =>
      (s', if outcome = .lost then none else some { w with phase := .upsert state { state with
        currentBalance := state.currentBalance + delta, effectiveAt := env.now } delta })
  | .upsert _ state _ =>
    (if outcome = .failed then s else upsertAccountQuotaState s state, none)

/-! ## The system -/

/-- The tables, and the requests in progress. -/
structure System where
  store : Store
  workers : Table Nat Worker

/-- What happens next. -/
inductive Action
  /-- A request arrives. -/
  | run (w : Nat) (account : String) (request : Request)
  /-- A request makes its next call. -/
  | move (w : Nat) (env : Env) (outcome : Outcome)
  /-- A request stops. -/
  | crash (w : Nat)
  /-- A top-up is credited. -/
  | creditTopUp (env : Env) (entry : BillingLedgerEntry)
  /-- Other columns of a state are written, such as the usage of the quota. -/
  | otherColumns (account : String) (state : AccountQuotaState)

section

variable [Unicode]

/-- A step of the system. -/
def System.step (sys : System) : Action → System
  | .run k account request =>
    if k ∈ sys.workers ∨ ¬ request.accepted account then sys
    else { sys with workers := sys.workers.insert k ⟨account, request, .read⟩ }
  | .move k env outcome => match sys.workers.lookup k with
    | none => sys
    | some w =>
      let (store, w') := w.step env outcome sys.store
      { store := store, workers := assign sys.workers k w' }
  | .crash k => { sys with workers := sys.workers.erase k }
  | .creditTopUp env entry => match Quota.creditTopUp env sys.store entry with
    | .ok (store, _) => { sys with store := store }
    | .error _ => sys
  | .otherColumns account state => match sys.store.accountQuotaStates.lookup account with
    | none => sys
    | some old =>
      { sys with store := { sys.store with
          accountQuotaStates := sys.store.accountQuotaStates.insert account
            { state with currentBalance := old.currentBalance } } }

end

/-! ## The balance and the ledger -/

/-- The balance of an account in its own currency. -/
def Store.balance (s : Store) (account : String) : ℚ :=
  ((s.accountQuotaStates.lookup account).map currentBalance).getD 0

/-- What an entry adds to the balance of an account. -/
def BillingLedgerEntry.amount (account : String) (e : BillingLedgerEntry) : ℚ :=
  if e.accountUUID = account ∧ e.entryType ≠ "wallet_usd" then e.amountDelta else 0

/-- The sum of the ledger of an account. -/
def Store.ledgerSum (s : Store) (account : String) : ℚ :=
  total (amount account) s.billingLedger

/-- The balance of every account is the sum of its ledger. -/
def Store.Balanced (s : Store) : Prop := ∀ account, s.balance account = s.ledgerSum account

/-- No request is in progress. -/
def System.Idle (sys : System) : Prop := sys.workers.keys = []

instance (sys : System) : Decidable sys.Idle :=
  inferInstanceAs (Decidable (sys.workers.keys = []))

/-- What a request has still to add to the balance: its entry is in the ledger. -/
def Phase.delta : Phase → ℚ
  | .upsert _ _ delta => delta
  | _ => 0

/-- The next call of a request is kept apart from the others: at a write, the copy that was read
    has the balance that is stored, and no adjustment ends with its entry written but not its
    balance. -/
def Phase.Apart (s : Store) (account : String) (outcome : Outcome) : Phase → Prop
  | .read => True
  | .insert .. => outcome ≠ .lost
  | .upsert copy _ delta =>
    if outcome = .failed then delta = 0
    else copy.currentBalance = s.balance (trimSpace account)

instance (s : Store) (account : String) (outcome : Outcome) :
    ∀ phase : Phase, Decidable (phase.Apart s account outcome)
  | .read => .isTrue trivial
  | .insert .. => inferInstanceAs (Decidable (outcome ≠ .lost))
  | .upsert .. => inferInstanceAs (Decidable (if outcome = .failed then _ else _))

/-- The step keeps requests apart. -/
def Sequential (sys : System) : Action → Prop
  | .move k _ outcome =>
    ∀ w ∈ sys.workers.lookup k, w.phase.Apart sys.store w.account outcome
  | .crash k => ∀ w ∈ sys.workers.lookup k, w.phase.delta = 0
  | _ => True

instance (sys : System) : ∀ a : Action, Decidable (Sequential sys a)
  | .move .. => inferInstanceAs (Decidable (∀ w ∈ _, _))
  | .crash .. => inferInstanceAs (Decidable (∀ w ∈ _, _))
  | .run .. | .creditTopUp .. | .otherColumns .. => .isTrue trivial

/-! ## Conservation -/

/-- The state a request is about to write is that of its account, and has the balance that was
    read, with the adjustment. -/
def Worker.Addressed (w : Worker) : Prop :=
  match w.phase with
  | .read => True
  | .insert state _ => trimSpace state.accountUUID = trimSpace w.account
  | .upsert copy state delta => trimSpace state.accountUUID = trimSpace w.account ∧
    state.currentBalance = copy.currentBalance + delta

/-- What a request has still to add to the balance of an account. -/
def Worker.pending (account : String) (w : Worker) : ℚ :=
  if trimSpace w.account = account then w.phase.delta else 0

/-- The balance, with what is pending, is the sum of the ledger. -/
structure Conserved (sys : System) : Prop where
  addressed : ∀ {k w}, sys.workers.lookup k = some w → w.Addressed
  balance_add_pending : ∀ account,
    sys.store.balance account + total (Worker.pending account) sys.workers =
      sys.store.ledgerSum account

section Calls

variable {s s' : Store} {account : String}

/-- The balances after a state was written. -/
theorem balance_insert (s : Store) (key : String) (state : AccountQuotaState)
    (ledger : Table String BillingLedgerEntry) :
    balance ⟨s.accountQuotaStates.insert key state, ledger⟩ account =
      if account = key then state.currentBalance else s.balance account := by
  unfold balance
  split_ifs with h
  · rw [h, lookup_insert]
    rfl
  · rw [lookup_insert_ne h]

/-- The sums after an entry was written. -/
theorem ledgerSum_insert {id : String} {e : BillingLedgerEntry} (h : id ∉ s.billingLedger)
    (states : Table String AccountQuotaState) :
    ledgerSum ⟨states, s.billingLedger.insert id e⟩ account =
      e.amount account + s.ledgerSum account :=
  total_insert_of_notMem _ _ h

/-- A top-up adds as much to the balance as to the ledger. -/
theorem creditTopUp_conserved [Unicode] {env : Env} {entry : BillingLedgerEntry} {duplicate : Bool}
    (h : creditTopUp env s entry = .ok (s', duplicate)) (account : String) :
    s'.balance account + s.ledgerSum account = s.balance account + s'.ledgerSum account := by
  simp only [creditTopUp, Except.guard_ok] at h
  obtain ⟨-, hcurrency, h⟩ := h
  by_cases hid : entry.id ∈ s.billingLedger
  · rw [if_pos hid] at h
    cases h
    rfl
  rw [if_neg hid] at h
  cases h
  generalize trimSpace entry.accountUUID = owner
  have hrow : (quotaRow s env owner).currentBalance = s.balance owner := by
    unfold quotaRow balance
    cases s.accountQuotaStates.lookup owner <;> rfl
  rw [balance_insert, ledgerSum_insert hid]
  by_cases hcny : toUpper (trimSpace entry.currency) = "CNY"
  · -- The entry is of the account, and not in the other wallet.
    by_cases ho : account = owner
    · subst ho
      simp only [amount, credited, hcny, hrow, if_true]
      exact add_assoc _ _ _
    · simp [amount, ho, Ne.symm ho]
  · have husd : toUpper (trimSpace entry.currency) = "USD" := by
      by_contra hne
      exact hcurrency ⟨hcny, hne⟩
    by_cases ho : account = owner
    · subst ho
      simp [amount, husd, hrow]
    · simp [amount, ho, husd]

end Calls

/-! ## Every step of a request -/

/-- A state that is written without an adjustment leaves nothing pending. -/
theorem addressed_upsert {w : Worker} {copy state : AccountQuotaState}
    (h : trimSpace state.accountUUID = trimSpace w.account)
    (hbalance : state.currentBalance = copy.currentBalance) :
    Worker.Addressed { w with phase := .upsert copy state 0 } ∧
      ∀ account, Worker.pending account { w with phase := .upsert copy state 0 } = 0 :=
  ⟨⟨h, hbalance.trans (add_zero _).symm⟩, fun _ => ite_self 0⟩

/-- A request that has read the state of its account, or could not, has nothing pending. -/
theorem afterRead_spec {now : Time} {w w' : Worker} {result : Except QuotaError AccountQuotaState}
    (hresult : ∀ state, result = .ok state → trimSpace state.accountUUID = trimSpace w.account)
    (h : w.afterRead now result = some w') :
    w'.Addressed ∧ ∀ account, w'.pending account = 0 := by
  have hstate : trimSpace (result.toOption.getD { accountUUID := w.account }).accountUUID =
      trimSpace w.account := by
    cases result with
    | error => rfl
    | ok state => exact hresult state rfl
  unfold Worker.afterRead at h
  cases hrequest : w.request <;> simp only [hrequest] at h
  case adminAdjustBalance =>
    cases h
    exact ⟨hstate, fun _ => ite_self 0⟩
  case resetQuotaForPlan =>
    cases h
    exact addressed_upsert hstate rfl
  case resetQuotaForPlanOnce =>
    split_ifs at h
    · cases h
      exact addressed_upsert hstate rfl
    · -- It goes on to reset the quota, and reads the state again.
      split at h <;> cases h <;> exact ⟨trivial, fun _ => ite_self 0⟩
  case markAccountArrears =>
    cases h
    cases result with
    | error => exact addressed_upsert rfl rfl
    | ok state => exact addressed_upsert (hresult state rfl) rfl
  case downgradeToFreePlan =>
    split at h
    · split_ifs at h
      cases h
      exact addressed_upsert hstate rfl
    · split_ifs at h
      cases h
      exact addressed_upsert hstate rfl
    · cases h
  case reconcileAnnualPlanQuotas =>
    split_ifs at h
    cases h
    exact addressed_upsert hstate rfl

/-- What is pending of a request, unless it has returned. -/
def pendingOf (account : String) (w : Option Worker) : ℚ := (w.map (Worker.pending account)).getD 0

/-- A call moves as much as it should between the balance, the ledger and what is pending. -/
structure Moved (s : Store) (w : Worker) (r : Store × Option Worker) : Prop where
  addressed : ∀ w' ∈ r.2, w'.Addressed
  conserved : ∀ account, r.1.balance account + pendingOf account r.2 + s.ledgerSum account =
    s.balance account + w.pending account + r.1.ledgerSum account

section Moves

variable {env : Env} {outcome : Outcome} {s : Store} {w : Worker}

/-- A request with nothing pending returns. -/
theorem moved_return (hw : ∀ account, w.pending account = 0) : Moved s w (s, none) where
  addressed _ h := by cases h
  conserved account := by
    rw [hw]
    rfl

theorem moved_read (hphase : w.phase = .read) : Moved s w (w.step env outcome s) := by
  have hzero : ∀ account, w.pending account = 0 := by
    simp [Worker.pending, hphase, Phase.delta]
  have hafter : ∀ result : Except QuotaError AccountQuotaState,
      (∀ state, result = .ok state → trimSpace state.accountUUID = trimSpace w.account) →
      Moved s w (s, w.afterRead env.now result) := by
    intro result hresult
    rcases h : w.afterRead env.now result with _ | w'
    · exact moved_return hzero
    obtain ⟨haddressed, hnone⟩ := afterRead_spec hresult h
    refine ⟨fun _ he => (by cases he; exact haddressed), fun account => ?_⟩
    rw [hzero, pendingOf, Option.map_some, Option.getD_some, hnone]
  simp only [Worker.step, hphase]
  cases outcome with
  | returned =>
    refine hafter _ fun state hstate => ?_
    unfold getAccountQuotaState at hstate
    split at hstate <;> cases hstate
    exact trimSpace_idem w.account
  | failed | lost => exact hafter _ fun _ h => by cases h

theorem moved_insert {state : AccountQuotaState} {delta : ℚ} (hw : w.Addressed)
    (hphase : w.phase = .insert state delta) (hlost : outcome ≠ .lost) :
    Moved s w (w.step env outcome s) := by
  rw [Worker.Addressed, hphase] at hw
  have hzero : ∀ account, w.pending account = 0 := by
    simp [Worker.pending, hphase, Phase.delta]
  simp only [Worker.step, hphase, if_neg hlost]
  by_cases hfailed : outcome = .failed
  · rw [if_pos hfailed]
    exact moved_return hzero
  rw [if_neg hfailed]
  cases hinsert : insertBillingLedgerEntry env s (adjustmentEntry w.account state delta) with
  | error => exact moved_return hzero
  | ok =>
    refine ⟨fun w' hw' => ?_, fun account => ?_⟩
    · cases hw'
      exact ⟨hw, rfl⟩
    -- An entry of an adjustment adds to the ledger, and to no balance.
    simp only [insertBillingLedgerEntry, Except.guard_ok, Except.ok.injEq] at hinsert
    obtain ⟨hid, rfl⟩ := hinsert
    have htype : trimSpace "manual_adjustment" ≠ "wallet_usd" := by decide
    have hbalance : ∀ ledger, balance ⟨s.accountQuotaStates, ledger⟩ account =
        s.balance account := fun _ => rfl
    rw [ledgerSum_insert hid s.accountQuotaStates, hzero, hbalance]
    simp [pendingOf, Worker.pending, Phase.delta, amount, adjustmentEntry, htype]
    linarith

theorem moved_upsert {copy state : AccountQuotaState} {delta : ℚ} (hw : w.Addressed)
    (hphase : w.phase = .upsert copy state delta)
    (hapart : if outcome = .failed then delta = 0
      else copy.currentBalance = s.balance (trimSpace w.account)) :
    Moved s w (w.step env outcome s) := by
  rw [Worker.Addressed, hphase] at hw
  obtain ⟨hw, hbalance⟩ := hw
  simp only [Worker.step, hphase]
  by_cases hfailed : outcome = .failed
  · rw [if_pos hfailed] at hapart ⊢
    exact moved_return fun account => by simp [Worker.pending, hphase, Phase.delta, hapart]
  rw [if_neg hfailed] at hapart ⊢
  refine ⟨fun _ h => (by cases h), fun account => ?_⟩
  rw [upsertAccountQuotaState, balance_insert, hw]
  by_cases ha : account = trimSpace w.account
  · subst ha
    simp [pendingOf, Worker.pending, hphase, Phase.delta, stored, hbalance, hapart]
    rfl
  · simp [pendingOf, Worker.pending, ha, Ne.symm ha]
    rfl

/-- A call of a request that is kept apart from the others. -/
theorem moved_step (hw : w.Addressed) (hapart : w.phase.Apart s w.account outcome) :
    Moved s w (w.step env outcome s) := by
  cases hphase : w.phase with
  | read => exact moved_read hphase
  | insert =>
    rw [hphase] at hapart
    exact moved_insert hw hphase hapart
  | upsert =>
    rw [hphase] at hapart
    exact moved_upsert hw hphase hapart

end Moves

/-! ## Every step of the system -/

namespace Conserved

variable {sys : System}

/-- A call of a request. -/
theorem moved (hsys : Conserved sys) {k : Nat} {w : Worker} {r : Store × Option Worker}
    (hw : sys.workers.lookup k = some w) (h : Moved sys.store w r) :
    Conserved ⟨r.1, assign sys.workers k r.2⟩ where
  addressed {v w'} hv := by
    rw [lookup_assign] at hv
    split_ifs at hv
    · exact h.addressed w' hv
    · exact hsys.addressed hv
  balance_add_pending account := by
    have hbefore := hsys.balance_add_pending account
    have hmove := h.conserved account
    have htotal := total_assign sys.workers k r.2 (Worker.pending account)
    rw [hw, Option.map_some, Option.getD_some] at htotal
    rw [pendingOf] at hmove
    linarith

/-- A step that keeps requests apart. -/
theorem step [Unicode] (hsys : Conserved sys) {a : Action} (ha : Sequential sys a) :
    Conserved (sys.step a) := by
  cases a with
  | run k account request =>
    by_cases hk : k ∈ sys.workers ∨ ¬ request.accepted account
    · simpa only [System.step, if_pos hk] using hsys
    simp only [System.step, if_neg hk]
    rw [not_or] at hk
    refine ⟨fun {v w} hv => ?_, fun account => ?_⟩
    · exact forall_insert (fun _ _ => hsys.addressed) (by trivial) hv
    · rw [total_insert_of_notMem _ _ hk.1]
      simpa [Worker.pending, Phase.delta] using hsys.balance_add_pending account
  | move k =>
    cases hw : sys.workers.lookup k with
    | none => simpa only [System.step, hw] using hsys
    | some w =>
      simp only [System.step, hw]
      exact hsys.moved hw (moved_step (hsys.addressed hw) (ha w hw))
  | crash k =>
    cases hw : sys.workers.lookup k with
    | none =>
      have herase : sys.workers.erase k = sys.workers :=
        AList.ext (List.kerase_of_notMem_keys (lookup_eq_none.1 hw))
      simpa only [System.step, herase] using hsys
    | some w =>
      have hzero : ∀ account, w.pending account = 0 := by
        intro _
        rw [Worker.pending, ha w hw]
        exact ite_self 0
      exact hsys.moved hw (moved_return hzero)
  | creditTopUp env entry =>
    simp only [System.step]
    rcases h : creditTopUp env sys.store entry with e | r
    · exact hsys
    refine ⟨hsys.addressed, fun account => ?_⟩
    have hcredit := creditTopUp_conserved h account
    have hbefore := hsys.balance_add_pending account
    linarith
  | otherColumns owner =>
    rcases hold : sys.store.accountQuotaStates.lookup owner with _ | old
    · simpa only [System.step, hold] using hsys
    simp only [System.step, hold]
    refine ⟨hsys.addressed, fun account => ?_⟩
    have hbalance : (if account = owner then old.currentBalance
        else sys.store.balance account) = sys.store.balance account := by
      split_ifs with ho
      · rw [ho, balance, hold]
        rfl
      · rfl
    rw [balance_insert, hbalance]
    exact hsys.balance_add_pending account

end Conserved

theorem System.Idle.workers_eq {sys : System} (h : sys.Idle) : sys.workers = ∅ :=
  AList.ext (List.map_eq_nil_iff.1 h)

/-- In a run that keeps requests apart, the balance of every account is the sum
    of its ledger whenever no request is in progress. -/
theorem balanced_of_sequential [Unicode] {sys : System} (hidle : sys.Idle)
    (hbalanced : sys.store.Balanced) {as : List Action}
    (h : Run.Guarded System.step Sequential sys as)
    (hend : (exec System.step sys as).Idle) :
    (exec System.step sys as).store.Balanced := by
  have hinit : Conserved sys := by
    refine ⟨fun {k w} hw => ?_, fun account => ?_⟩
    · rw [hidle.workers_eq] at hw
      simp at hw
    · rw [hidle.workers_eq, total_empty, add_zero]
      exact hbalanced account
  have hconserved : Conserved (exec System.step sys as) :=
    h.exec_induction (P := Conserved) (fun _ _ ha hsys => hsys.step ha) hinit
  intro account
  have hsum := hconserved.balance_add_pending account
  rw [hend.workers_eq, total_empty, add_zero] at hsum
  exact hsum

/-! ## How the balance is lost -/

/-- No account has a state, and the ledger is empty. -/
def System.init : System := ⟨⟨∅, ∅⟩, ∅⟩

section

local instance : Unicode := Unicode.ascii

/-- A top-up of the account of the runs below. -/
def sampleTopUp (id : String) (amount : ℚ) : Action :=
  .creditTopUp (sample 1)
    { id := id, accountUUID := "ann", currency := "cny", entryType := "", amountDelta := amount }

/-- A top-up, and an adjustment that is carried out. -/
theorem adjusted_balanced :
    (exec System.step System.init [sampleTopUp "t1" 10, .run 0 "ann" (.adminAdjustBalance (-3)),
      .move 0 (sample 2) .returned, .move 0 (sample 3) .returned,
      .move 0 (sample 4) .returned]).store.Balanced :=
  balanced_of_sequential (by decide) (fun _ => rfl) (by decide +kernel) (by decide +kernel)

/-- An adjustment cannot write the balance after its entry. -/
def failedWrite : List Action :=
  [.run 0 "ann" (.adminAdjustBalance 10), .move 0 (sample 2) .returned,
    .move 0 (sample 3) .returned, .move 0 (sample 4) .failed]

/-- A request writes the balance it read before a top-up. -/
def staleBalance : List Action :=
  [sampleTopUp "t1" 10, .run 0 "ann" .markAccountArrears, .move 0 (sample 2) .returned,
    sampleTopUp "t2" 5, .move 0 (sample 3) .returned]

/-- A request takes an account whose state it could not read for a new one. -/
def failedRead : List Action :=
  [sampleTopUp "t1" 10, .run 0 "ann" .markAccountArrears, .move 0 (sample 2) .failed,
    .move 0 (sample 3) .returned]

/-- After each of these runs no request is in progress, but the balance is not
    the sum of the ledger. -/
theorem balance_lost : ((exec System.step System.init failedWrite).Idle ∧
        ¬ (exec System.step System.init failedWrite).store.Balanced) ∧
      ((exec System.step System.init staleBalance).Idle ∧
        ¬ (exec System.step System.init staleBalance).store.Balanced) ∧
      ((exec System.step System.init failedRead).Idle ∧
        ¬ (exec System.step System.init failedRead).store.Balanced) := by
  have hann : ∀ s : Store, s.balance "ann" ≠ s.ledgerSum "ann" → ¬ s.Balanced :=
    fun s hne h => hne (h "ann")
  refine ⟨⟨?_, hann _ ?_⟩, ⟨?_, hann _ ?_⟩, ⟨?_, hann _ ?_⟩⟩
  all_goals decide +kernel

end

end Accounts.Quota

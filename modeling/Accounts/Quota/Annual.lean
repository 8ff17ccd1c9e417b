import Accounts.Base.Calendar
import Accounts.Quota.Balance
import Accounts.Subscriptions.Access

/-!
# The monthly allowance of annual plans

An annual plan is paid for once a year, but its quota is granted every natural month,
by a pass over all accounts that every replica makes from time to time
(`api/annual_quota.go`). For an account with such a plan, a pass reads the quota
state. If its period is over, the pass writes the state of the new month. Passes of
several replicas and the debits of usage take their steps in any order (`System`).

An account is to get the allowance of a month once, and usage that was debited after
that is to count (`System.GrantedOnce`). Two passes that both read a state before
one of them writes it break this (`granted_twice`). It holds if no pass writes over
a period that is not over at the time of the pass (`grantedOnce_of_timely`): then the
periods that are stored for an account end later and later.
-/

namespace Accounts.Annual

open Quota Subscriptions Calendar Table Text AList List Option

/-! ## One pass -/

/-- A subscription, with the plan that was subscribed to. -/
structure PlanSubscription extends Subscription where
  planID : String

/-- A plan, with the unit its price is for. -/
structure PricedPlan extends BillingPlan where
  priceUnit : String

/-- What a call reads from tables that no pass writes: the subscriptions of an account
    and the evidence of their payment, unless they cannot be read, the plans, and the
    quota that is left in the month after a period that an administrator has reset. -/
structure Directory where
  subscriptions : String → Option (List PlanSubscription)
  plans : String → Option PricedPlan
  evidence : Option Evidence
  resets : String → Period → Option Int64

/-- What a pass does next. -/
inductive Phase
  /-- Going on with the next account. -/
  | account (users : List String)
  /-- Going on with the next subscription of an account. -/
  | subscription (user : String) (subs : List PlanSubscription) (users : List String)
  /-- Writing the state of the new month. -/
  | upsert (user : String) (quota : Option AccountQuotaState) (includedQuotaBytes : Int64)
      (users : List String)

/-- A pass in progress: its time, and the number of states it has written. -/
structure Pass where
  now : Time
  reset : Nat := 0
  phase : Phase

/-- What a pass returns. -/
structure Result where
  reset : Nat
  failed : Bool

/-- A state of an account that is written, with the end of its period. -/
structure Write where
  account : String
  row : AccountQuotaState
  stop : Time
  periodEnd_eq : row.periodEnd = some stop

/-- Writing a state. -/
def Write.apply (w : Write) (s : Store) : Store :=
  { s with accountQuotaStates := s.accountQuotaStates.insert w.account w.row }

section

variable (user : String) (quota : Option AccountQuotaState) (includedQuotaBytes : Int64)
    (now : Time)

/-- The state of a new month. -/
def monthlyState : AccountQuotaState :=
  { quota.getD { accountUUID := user } with
    remainingIncludedQuota := includedQuotaBytes
    periodStart := some (naturalMonth now).1
    periodEnd := some (naturalMonth now).2
    effectiveAt := now }

/-- Writing the state of a new month, by `upsertAccountQuotaState`. -/
def monthlyWrite : Write where
  account := trimSpace (monthlyState user quota includedQuotaBytes now).accountUUID
  row := (monthlyState user quota includedQuotaBytes now).stored
  stop := (naturalMonth now).2
  periodEnd_eq := rfl

end

/-- The state of the month after a period that an administrator has reset, if the
    stored one is over. It is written by `getAccountQuotaState` before it reads. -/
def Directory.expired (dir : Directory) (s : Store) (user : String) (now : Time) : Option Write := do
  let row ← s.accountQuotaStates.lookup user
  let start ← row.periodStart
  let stop ← row.periodEnd
  let left ← dir.resets user (start, stop)
  if stop ≤ now then
    some {
      account := user
      row := { row with
        remainingIncludedQuota := left
        periodStart := some (naturalMonth now).1
        periodEnd := some (naturalMonth now).2
        effectiveAt := now }
      stop := (naturalMonth now).2
      periodEnd_eq := rfl }
  else none

/-- Reading the quota state of an account: what is written before, and the state. An
    error is taken for an account without a state. -/
def Directory.readQuota (dir : Directory) (outcome : Outcome) (s : Store) (user : String)
    (now : Time) : Option Write × Option AccountQuotaState :=
  let expired := dir.expired s user now
  match outcome with
  | .returned =>
    (expired, (getAccountQuotaState (expired.elim s (Write.apply · s)) user).toOption)
  | .lost => (expired, none)
  | .failed => (none, none)

section

variable [Unicode]

/-- The status of a subscription, as it is compared. -/
def PlanSubscription.statusText (sub : PlanSubscription) : String :=
  toLower (trimSpace sub.status)

/-- The subscriptions that are looked at. -/
def PlanSubscription.eligible (sub : PlanSubscription) : Bool :=
  equalFold sub.provider "stripe" && equalFold sub.kind "subscription" &&
    (sub.statusText == "active" || sub.statusText == "canceling" || sub.statusText == "past_due")

/-- The price of the plan is for a year. -/
def PricedPlan.annual (plan : PricedPlan) : Bool :=
  equalFold (trimSpace plan.priceUnit) "year"

/-- The subscription is paid for, or its payment may still come. -/
def PlanSubscription.serves (sub : PlanSubscription) (quota : Option AccountQuotaState)
    (periodEnd now : Time) : Bool :=
  if sub.statusText = "past_due" then
    (!periodEnd.isZero && decide (now < periodEnd)) ||
      (arrearsSince quota).any fun since => decide (now < since + subscriptionGracePeriod)
  else if periodEnd.isZero then !missingStripePeriodRetryExpired sub.toSubscription now
  else decide (now < periodEnd)

variable [RFC3339]

/-- The end of a subscription; the zero time if it is not known. What the provider says
    about a subscription that is past due may be a renewal that is not paid. -/
def PlanSubscription.periodEnd (sub : PlanSubscription) (e : Evidence) : Time :=
  if sub.statusText = "past_due" then (e.referralExtensionEnd sub.id).getD 0
  else subscriptionEffectivePeriodEnd e sub.toSubscription

/-- How a pass goes on with a subscription of an annual plan, after it has read the quota
    state of the account. -/
def Pass.afterRead (p : Pass) (dir : Directory) (user : String) (sub : PlanSubscription)
    (plan : PricedPlan) (quota : Option AccountQuotaState) (subs : List PlanSubscription)
    (users : List String) : Pass ⊕ Result :=
  match dir.evidence with
  | none => .inr ⟨p.reset, true⟩
  | some e =>
    if ¬ sub.serves quota (sub.periodEnd e) p.now then
      .inl { p with phase := .subscription user subs users }
    else if quota.any (·.periodEnd.any (p.now < ·)) then .inl { p with phase := .account users }
    else .inl { p with phase := .upsert user quota plan.includedQuotaBytes users }

/-- The next call of a pass (`ReconcileAnnualPlanQuotas`): what it writes, and how it
    goes on. `dbNow` is the clock of the database. -/
def Pass.step (dir : Directory) (dbNow : Time) (outcome : Outcome) (s : Store) (p : Pass) :
    Option Write × (Pass ⊕ Result) :=
  match p.phase with
  | .account [] => (none, .inr ⟨p.reset, false⟩)
  | .account (user :: users) => match dir.subscriptions user with
    | none => (none, .inr ⟨p.reset, true⟩)
    | some subs => (none, .inl { p with phase := .subscription user subs users })
  | .subscription _ [] users => (none, .inl { p with phase := .account users })
  | .subscription user (sub :: subs) users =>
    let next := { p with phase := .subscription user subs users }
    if ¬ sub.eligible then (none, .inl next) else
    match dir.plans sub.planID with
    | none => (none, .inl next)
    | some plan =>
      if ¬ plan.annual then (none, .inl next) else
      let read := dir.readQuota outcome s user dbNow
      (read.1, p.afterRead dir user sub plan read.2 subs users)
  | .upsert user quota includedQuotaBytes users =>
    let write := monthlyWrite user quota includedQuotaBytes p.now
    match outcome with
    | .returned => (some write, .inl { p with reset := p.reset + 1, phase := .account users })
    | .lost => (some write, .inr ⟨p.reset, true⟩)
    | .failed => (none, .inr ⟨p.reset, true⟩)

end

/-! ## The system -/

/-- The allowance of the latest month that was granted to an account, and what was used of it. -/
structure Allowance where
  stop : Time
  bytes : Int64
  used : Int64 := 0

/-- The tables, the passes in progress, and what was granted: the accounts and months, a
    month by its end, and the allowance of the latest month of an account. -/
structure System where
  store : Store
  passes : Table Nat Pass := ∅
  grants : List (String × Time) := []
  current : Table String Allowance := ∅

/-- What happens next. -/
inductive Action
  /-- A replica begins a pass at a time of its clock, with all accounts. -/
  | start (k : Nat) (now : Time) (users : List String)
  /-- A pass makes its next call. -/
  | move (k : Nat) (dir : Directory) (dbNow : Time) (outcome : Outcome)
  /-- A replica stops. -/
  | crash (k : Nat)
  /-- Usage of an account is debited. -/
  | debit (account : String) (bytes : Int64)

/-- The allowance of a month that is granted. A month before the latest one leaves what
    the account has used of the latter. -/
def System.grant (sys : System) (w : Write) : System where
  store := w.apply sys.store
  passes := sys.passes
  grants := (w.account, w.stop) :: sys.grants
  current :=
    if (sys.current.lookup w.account).any (w.stop ≤ ·.stop) then sys.current
    else sys.current.insert w.account ⟨w.stop, w.row.remainingIncludedQuota, 0⟩

/-- Usage of an account: it is taken from what is left in its state. -/
def System.debit (sys : System) (account : String) (bytes : Int64) : System :=
  { sys with
    store := { sys.store with
      accountQuotaStates := mapRows (fun key row =>
        if key = account then
          { row with remainingIncludedQuota := row.remainingIncludedQuota - bytes }
        else row) sys.store.accountQuotaStates }
    current := mapRows (fun key allowance =>
      if key = account then { allowance with used := allowance.used + bytes } else allowance)
      sys.current }

section

variable [Unicode] [RFC3339]

/-- A step of the system. -/
def System.step (sys : System) : Action → System
  | .start k now users =>
    if k ∈ sys.passes then sys
    else { sys with passes := sys.passes.insert k { now := now, phase := .account users } }
  | .move k dir dbNow outcome => match sys.passes.lookup k with
    | none => sys
    | some p =>
      let call := p.step dir dbNow outcome sys.store
      { call.1.elim sys sys.grant with passes := assign sys.passes k call.2.getLeft? }
  | .crash k => { sys with passes := sys.passes.erase k }
  | .debit account bytes => sys.debit account bytes

end

/-- Every account got the allowance of a month at most once, and has what is left of the
    latest one after its usage. -/
structure System.GrantedOnce (sys : System) : Prop where
  once : sys.grants.Nodup
  usage : ∀ {account a}, sys.current.lookup account = some a →
    ∃ row, sys.store.accountQuotaStates.lookup account = some row ∧
      row.remainingIncludedQuota = a.bytes - a.used

/-- The stored period of an account is over. -/
def EndedBy (s : Store) (account : String) (now : Time) : Prop :=
  ∀ row ∈ s.accountQuotaStates.lookup account, ∀ stop ∈ row.periodEnd, stop ≤ now

instance (s : Store) (account : String) (now : Time) : Decidable (EndedBy s account now) :=
  inferInstanceAs (Decidable (∀ _ ∈ _, ∀ _ ∈ _, _))

/-- The state that a pass is about to write. -/
def Pass.pending (p : Pass) : Option Write :=
  match p.phase with
  | .upsert user quota includedQuotaBytes _ => monthlyWrite user quota includedQuotaBytes p.now
  | _ => none

/-- An action that writes no state over a period that is not over: when a pass writes a
    state, the stored period of the account has ended by the time of the pass. -/
def Action.Timely (sys : System) : Action → Prop
  | .move k _ _ _ => ∀ p ∈ sys.passes.lookup k, ∀ w ∈ p.pending, EndedBy sys.store w.account p.now
  | _ => True

instance (sys : System) : (action : Action) → Decidable (action.Timely sys)
  | .move .. => inferInstanceAs (Decidable (∀ _ ∈ _, ∀ _ ∈ _, _))
  | .start .. | .crash _ | .debit .. => .isTrue trivial

/-! ## The periods that are stored -/

variable {s : Store} {now : Time} {w : Write}

/-- A period that was reset by an administrator is over when the next one is written. -/
theorem expired_write {dir : Directory} {user : String} (h : dir.expired s user now = some w) :
    EndedBy s w.account now ∧ w.stop = (naturalMonth now).2 := by
  rw [Directory.expired] at h
  simp only [bind_eq_bind, bind_eq_some_iff] at h
  obtain ⟨_, hrow, _, -, stop, hstop, _, -, h⟩ := h
  split_ifs at h with hle
  cases h
  refine ⟨fun row' hrow' stop' hstop' => ?_, rfl⟩
  cases hrow.symm.trans hrow'
  cases hstop.symm.trans hstop'
  exact hle

section

variable [Unicode] [RFC3339]

/-- What a pass writes: a state of a month, or one after a period that was reset. -/
theorem Pass.step_write {dir : Directory} {dbNow : Time} {outcome : Outcome} {p : Pass}
    (h : (p.step dir dbNow outcome s).1 = some w) :
    (∃ user, dir.expired s user dbNow = some w) ∨ p.pending = some w := by
  rw [Pass.step] at h
  split at h
  case h_1 | h_3 => cases h
  case h_2 => split at h <;> cases h
  case h_4 user _ _ _ _ =>
    refine .inl ⟨user, ?_⟩
    split_ifs at h
    split at h
    · cases h
    split_ifs at h
    -- Reading a state writes only the next one after a period that was reset.
    cases outcome with
    | returned | lost => exact h
    | failed => cases h
  case h_5 hphase =>
    refine .inr ?_
    rw [Pass.pending, hphase]
    cases outcome with
    | returned | lost => exact h
    | failed => cases h

end

/-! ## Once a month -/

/-- What is kept by every timely step: the stored period of an account ends with the last
    month that was granted, or later. -/
structure System.Sound (sys : System) : Prop extends sys.GrantedOnce where
  stored : ∀ {account stop}, (account, stop) ∈ sys.grants →
    ∃ row, sys.store.accountQuotaStates.lookup account = some row ∧
      ∃ last, row.periodEnd = some last ∧ stop ≤ last
  granted : ∀ {account a}, sys.current.lookup account = some a → (account, a.stop) ∈ sys.grants

namespace System.Sound

variable {sys : System} (h : sys.Sound)

include h

/-- The passes in progress do not matter. -/
theorem withPasses (passes : Table Nat Pass) : System.Sound { sys with passes := passes } :=
  ⟨⟨h.once, h.usage⟩, h.stored, h.granted⟩

/-- A month that is granted after the stored period is a new one, and the latest. -/
theorem grant (hended : EndedBy sys.store w.account now) (hstop : w.stop = (naturalMonth now).2) :
    (sys.grant w).Sound := by
  have hlater : ∀ stop, (w.account, stop) ∈ sys.grants → stop < w.stop := by
    intro _ hmem
    obtain ⟨row, hrow, last, hlast, hle⟩ := h.stored hmem
    -- The stored period had ended by now, and the month has not.
    have hlt := (hended row hrow last hlast).trans_lt (lt_naturalMonth now)
    exact hle.trans_lt (hstop ▸ hlt)
  have hcurrent : (sys.grant w).current =
      sys.current.insert w.account ⟨w.stop, w.row.remainingIncludedQuota, 0⟩ := by
    refine if_neg fun hany => ?_
    obtain ⟨a, ha, hle⟩ := (Option.any_eq_true _ _).1 hany
    exact absurd (of_decide_eq_true hle) (not_le.2 (hlater _ (h.granted ha)))
  refine ⟨⟨nodup_cons.2 ⟨fun hmem => lt_irrefl _ (hlater _ hmem), h.once⟩, ?_⟩, ?_, ?_⟩
  · intro _ a ha
    rw [hcurrent, lookup_insert_iff] at ha
    obtain ⟨rfl, rfl⟩ | ⟨hne, ha⟩ := ha
    · exact ⟨w.row, lookup_insert _, (Int64.sub_zero _).symm⟩
    · obtain ⟨row, hrow, hleft⟩ := h.usage ha
      exact ⟨row, (lookup_insert_ne hne).trans hrow, hleft⟩
  · intro account stop hmem
    by_cases heq : account = w.account
    · subst heq
      refine ⟨w.row, lookup_insert _, w.stop, w.periodEnd_eq, ?_⟩
      rcases mem_cons.1 hmem with heq | hmem
      · exact (congrArg Prod.snd heq).le
      · exact (hlater _ hmem).le
    · have hmem : (account, stop) ∈ sys.grants :=
        (mem_cons.1 hmem).resolve_left fun h => heq (congrArg Prod.fst h)
      obtain ⟨row, hrow, hlast⟩ := h.stored hmem
      exact ⟨row, (lookup_insert_ne heq).trans hrow, hlast⟩
  · intro _ a ha
    rw [hcurrent, lookup_insert_iff] at ha
    obtain ⟨rfl, rfl⟩ | ⟨-, ha⟩ := ha
    · exact mem_cons_self
    · exact mem_cons_of_mem _ (h.granted ha)

/-- Usage is taken from what is left, and leaves the periods as they are. -/
theorem debit (account : String) (bytes : Int64) : (sys.debit account bytes).Sound := by
  have hrow : ∀ key, (sys.debit account bytes).store.accountQuotaStates.lookup key =
      (sys.store.accountQuotaStates.lookup key).map fun row => if key = account then
        { row with remainingIncludedQuota := row.remainingIncludedQuota - bytes } else row :=
    fun key => lookup_mapRows
  have hcurrent : ∀ key, (sys.debit account bytes).current.lookup key =
      (sys.current.lookup key).map fun a => if key = account then
        { a with used := a.used + bytes } else a :=
    fun key => lookup_mapRows
  refine ⟨⟨h.once, ?_⟩, ?_, ?_⟩
  · intro key a ha
    rw [hcurrent, map_eq_some_iff] at ha
    obtain ⟨a, ha, rfl⟩ := ha
    obtain ⟨row, hlookup, hleft⟩ := h.usage ha
    refine ⟨_, by rw [hrow, hlookup, map_some], ?_⟩
    by_cases hkey : key = account
    · simp only [hkey, if_true, hleft, Int64.sub_sub]
    · simpa only [hkey, if_false] using hleft
  · intro _ _ hmem
    obtain ⟨row, hlookup, last, hlast, hle⟩ := h.stored hmem
    refine ⟨_, by rw [hrow, hlookup, map_some], last, ?_, hle⟩
    split_ifs <;> exact hlast
  · intro _ a ha
    rw [hcurrent, map_eq_some_iff] at ha
    obtain ⟨a, ha, rfl⟩ := ha
    have hgranted := h.granted ha
    split_ifs <;> exact hgranted

end System.Sound

section

variable [Unicode] [RFC3339]

/-- A timely step keeps what every step keeps. -/
theorem System.Sound.step {sys : System} {action : Action} (htimely : action.Timely sys)
    (h : sys.Sound) : (sys.step action).Sound := by
  cases action with
  | start =>
    rw [System.step]
    split_ifs
    · exact h
    · exact h.withPasses _
  | move k dir dbNow outcome =>
    rw [System.step]
    split
    · exact h
    next p hp =>
    have hwritten : ((p.step dir dbNow outcome sys.store).1.elim sys sys.grant).Sound := by
      rcases hwrite : (p.step dir dbNow outcome sys.store).1 with _ | w
      · exact h
      rcases Pass.step_write hwrite with ⟨_, hexpired⟩ | hpending
      · obtain ⟨hended, hstop⟩ := expired_write hexpired
        exact h.grant hended hstop
      -- A pass writes states of the month of its time.
      refine h.grant (htimely p hp w hpending) ?_
      rw [Pass.pending] at hpending
      split at hpending <;> cases hpending
      rfl
    exact hwritten.withPasses _
  | crash => exact h.withPasses _
  | debit account bytes => exact h.debit account bytes

/-- If no pass writes over a period that is not over, then every account gets the
    allowance of a month at most once, and no usage after that is undone, however the
    passes of the replicas and the debits are interleaved. -/
theorem grantedOnce_of_timely (store : Store) (actions : List Action)
    (h : Run.Guarded System.step (fun sys action => action.Timely sys) { store := store } actions) :
    (Run.exec System.step { store := store } actions).GrantedOnce := by
  have hstart : System.Sound { store := store } :=
    ⟨⟨nodup_nil, nofun⟩, nofun, nofun⟩
  exact (h.exec_induction (fun _ _ => System.Sound.step) hstart).toGrantedOnce

end

/-! ## Two replicas -/

namespace Sample

local instance : Unicode := .ascii
local instance : RFC3339 := ⟨fun _ => none⟩

/-- An account with an annual plan of 1000 bytes a month, whose subscription is new. -/
def directory : Directory where
  subscriptions _ := some [{
    id := "sub"
    provider := "stripe"
    kind := "subscription"
    status := "active"
    createdAt := Time.unix 1707990000
    planID := "annual" }]
  plans _ := some { packageName := "annual", includedQuotaBytes := 1000, priceUnit := "year" }
  evidence := some { finance := .init [] ∅, referrals := .init ∅ }
  resets _ _ := none

/-- The state of the account, with a period that ended with January of 2024. -/
def january : AccountQuotaState where
  accountUUID := "ann"
  periodStart := some (Time.unix 1704067200)
  periodEnd := some (Time.unix 1706745600)

/-- The quota state of January is stored. -/
def store : Store := ⟨AList.insert "ann" january ∅, ∅⟩

/-- Each call of a replica returns. -/
def call (k : Nat) : Action := .move k directory (Time.unix 1708000000) .returned

/-- Two passes in February that both find the period of January, and the usage of 600
    bytes after the first has written. -/
def race : List Action :=
  [ .start 1 (Time.unix 1708000000) ["ann"], .start 2 (Time.unix 1708000000) ["ann"],
    call 1, call 1, call 2, call 2, call 1, .debit "ann" 600, call 2]

/-- The allowance of February is granted twice, and the usage is undone. -/
theorem granted_twice : ¬ (Run.exec System.step { store := store } race).GrantedOnce ∧
      ((Run.exec System.step { store := store } race).store.accountQuotaStates.lookup "ann").map
        (·.remainingIncludedQuota) = some 1000 := by
  refine ⟨fun h => ?_, by decide +kernel⟩
  have honce : ¬ (Run.exec System.step { store := store } race).grants.Nodup := by decide +kernel
  exact honce h.once

/-- Two passes one after the other. -/
def sequence : List Action :=
  [ .start 1 (Time.unix 1708000000) ["ann"], call 1, call 1, call 1, .debit "ann" 600,
    .start 2 (Time.unix 1708000000) ["ann"], call 2, call 2, call 2]

/-- The second pass finds the period of February, and the usage counts. -/
theorem grantedOnce_sequence : (Run.exec System.step { store := store } sequence).GrantedOnce ∧
      ((Run.exec System.step { store := store } sequence).store.accountQuotaStates.lookup "ann").map
        (·.remainingIncludedQuota) = some 400 :=
  ⟨grantedOnce_of_timely store sequence (by decide +kernel), by decide +kernel⟩

end Sample

end Accounts.Annual

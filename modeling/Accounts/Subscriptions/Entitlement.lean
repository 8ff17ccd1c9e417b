import Accounts.Subscriptions.Access

/-!
# Which subscriptions entitle

The decision about the access of an account goes through its subscriptions in a loop, with a
branch for every status (`Subscription.standing`). Here it is said what it comes to: a
subscription runs exactly if it entitles its account (`standing_eq_runs_iff`), and one that has
lapsed is over, or its payment is overdue for too long (`standing_ne_silent_iff`).
-/

namespace Accounts.Subscriptions

open Quota Text Subscription

section

variable [Unicode]

namespace Subscription

variable (sub : Subscription)

/-- The subscription is one with the payment provider. -/
def IsStripe : Prop :=
  equalFold (trimSpace sub.provider) "stripe" = true ∧
    equalFold (trimSpace sub.kind) "subscription" = true

/-- The status, as the decision compares it. -/
def normalStatus : String := toLower (trimSpace sub.status)

/-- The subscription is to be renewed. -/
def Renews : Prop := sub.normalStatus = "active" ∨ sub.normalStatus = "trialing"

/-- The subscription is not renewed. -/
def Ends : Prop :=
  sub.normalStatus = "canceling" ∨ sub.normalStatus = "cancelled" ∨ sub.normalStatus = "canceled"

instance : Decidable sub.Ends := inferInstanceAs (Decidable (_ ∨ _))

/-- The end of the period. A cancelled subscription without one ends when it was cancelled. -/
def lastEnd (periodEnd : Time) : Time :=
  if sub.Ends ∧ periodEnd.isZero then sub.cancelledAt.getD 0 else periodEnd

/-- The period is not over, or is not known yet. -/
def Lasts (periodEnd now : Time) : Prop :=
  ((sub.lastEnd periodEnd).isZero = true ∧ missingStripePeriodRetryExpired sub now = false) ∨
    ((sub.lastEnd periodEnd).isZero = false ∧ now < sub.lastEnd periodEnd)

/-- The subscription entitles its account: its period lasts, or a payment that failed is still
    expected. -/
structure Entitles (quota : Option AccountQuotaState) (periodEnd now : Time) : Prop where
  stripe : sub.IsStripe
  granted : ((sub.Renews ∨ sub.Ends) ∧ sub.Lasts periodEnd now) ∨
    (sub.Renews ∧ periodEnd.isZero = false ∧ (arrearsSince quota).isSome ∧
      paymentGraceExpired quota now = false) ∨
    (sub.normalStatus = "past_due" ∧ ((periodEnd.isZero = false ∧ now < periodEnd) ∨
      paymentGraceExpired quota now = false))

/-- The period of the subscription is over, or was never confirmed. -/
structure Over (periodEnd now : Time) : Prop where
  stripe : sub.IsStripe
  status : sub.Renews ∨ sub.Ends
  past : ¬ sub.Lasts periodEnd now

end Subscription

variable {sub : Subscription} {quota : Option AccountQuotaState} {periodEnd now : Time}

theorem not_ends_of_renews (h : sub.Renews) : ¬ sub.Ends := by
  rcases h with h | h
  · simp [Subscription.Ends, h]
  · simp [Subscription.Ends, h]

theorem lastEnd_of_renews (h : sub.Renews) : sub.lastEnd periodEnd = periodEnd :=
  if_neg fun h' => not_ends_of_renews h h'.1

theorem standingUntil_eq_runs_iff :
    standingUntil sub (sub.lastEnd periodEnd) now = .runs ↔ sub.Lasts periodEnd now := by
  rw [standingUntil, Subscription.Lasts]
  by_cases hzero : (sub.lastEnd periodEnd).isZero = true
  · simp [hzero]
  · by_cases hlt : now < sub.lastEnd periodEnd
    · simp [hzero, hlt]
    · simp [hzero, hlt]

/-! ## The rounds of the loop, by the status -/

theorem Subscription.IsStripe.not_skipped (hs : sub.IsStripe) :
    ¬ (¬ equalFold (trimSpace sub.provider) "stripe" = true ∨
      ¬ equalFold (trimSpace sub.kind) "subscription" = true) := by
  rw [not_or, not_not, not_not]
  exact hs

theorem standing_of_not_isStripe (h : ¬ sub.IsStripe) :
    sub.standing quota periodEnd now = .silent := by
  rw [standing, if_pos]
  rwa [Subscription.IsStripe, not_and_or] at h

theorem standing_of_renews (hs : sub.IsStripe) (h : sub.Renews) : sub.standing quota periodEnd now =
      if periodEnd.isZero = false ∧ (arrearsSince quota).isSome ∧
          paymentGraceExpired quota now = false then .runs
      else standingUntil sub (sub.lastEnd periodEnd) now := by
  rw [standing, if_neg hs.not_skipped, lastEnd_of_renews h]
  simp only [Bool.not_eq_true]
  exact if_pos h

theorem standing_of_pastDue (hs : sub.IsStripe) (h : sub.normalStatus = "past_due") :
    sub.standing quota periodEnd now = if periodEnd.isZero = false ∧ now < periodEnd then .runs
      else if paymentGraceExpired quota now = true then .lapsed else .runs := by
  rw [normalStatus] at h
  rw [standing, if_neg hs.not_skipped]
  simp [h]

theorem standing_of_ends (hs : sub.IsStripe) (h : sub.Ends) :
    sub.standing quota periodEnd now = standingUntil sub (sub.lastEnd periodEnd) now := by
  have hend : sub.lastEnd periodEnd =
      if periodEnd.isZero = true then sub.cancelledAt.getD 0 else periodEnd := by
    simp [lastEnd, h]
  rw [hend, standing, if_neg hs.not_skipped]
  rcases h with h | h | h <;> rw [normalStatus] at h <;> simp [h]

theorem standing_of_other (hrenews : ¬ sub.Renews) (hends : ¬ sub.Ends)
    (hpast : sub.normalStatus ≠ "past_due") : sub.standing quota periodEnd now = .silent := by
  rw [Subscription.Renews, normalStatus] at hrenews
  rw [Subscription.Ends, normalStatus] at hends
  rw [normalStatus] at hpast
  simp [standing, hrenews, hends, hpast]

/-- A subscription runs exactly if it entitles its account. -/
theorem standing_eq_runs_iff :
    sub.standing quota periodEnd now = .runs ↔ sub.Entitles quota periodEnd now := by
  by_cases hs : sub.IsStripe
  swap
  · rw [standing_of_not_isStripe hs]
    exact ⟨fun h => (by cases h), fun h => absurd h.stripe hs⟩
  by_cases hrenews : sub.Renews
  · rw [standing_of_renews hs hrenews]
    have hpast : sub.normalStatus ≠ "past_due" := by
      rcases hrenews with h | h <;> simp [h]
    split_ifs with hgrace
    · exact iff_of_true rfl ⟨hs, .inr (.inl ⟨hrenews, hgrace⟩)⟩
    rw [standingUntil_eq_runs_iff]
    constructor
    · exact fun h => ⟨hs, .inl ⟨.inl hrenews, h⟩⟩
    intro h
    rcases h.granted with h | h | h
    · exact h.2
    · exact absurd h.2 hgrace
    · exact absurd h.1 hpast
  by_cases hends : sub.Ends
  · rw [standing_of_ends hs hends, standingUntil_eq_runs_iff]
    have hpast : sub.normalStatus ≠ "past_due" := by
      rcases hends with h | h | h <;> simp [h]
    constructor
    · exact fun h => ⟨hs, .inl ⟨.inr hends, h⟩⟩
    intro h
    rcases h.granted with h | h | h
    · exact h.2
    · exact absurd h.1 hrenews
    · exact absurd h.1 hpast
  by_cases hpast : sub.normalStatus = "past_due"
  · rw [standing_of_pastDue hs hpast]
    have hother : ¬ (sub.Renews ∨ sub.Ends) := not_or.2 ⟨hrenews, hends⟩
    split_ifs with hlasts hgrace
    · exact iff_of_true rfl ⟨hs, .inr (.inr ⟨hpast, .inl hlasts⟩)⟩
    · refine iff_of_false (by simp) fun h => ?_
      rcases h.granted with h | h | h
      · exact hother h.1
      · exact hrenews h.1
      · rcases h.2 with h | h
        · exact hlasts h
        · rw [h] at hgrace
          cases hgrace
    · exact iff_of_true rfl ⟨hs, .inr (.inr ⟨hpast, .inr (Bool.eq_false_iff.2 hgrace)⟩)⟩
  · rw [standing_of_other hrenews hends hpast]
    refine iff_of_false (by simp) fun h => ?_
    rcases h.granted with h | h | h
    · exact h.1.elim hrenews hends
    · exact hrenews h.1
    · exact hpast h.1

/-- A subscription that says something and does not entitle its account is over, or its payment
    is overdue for too long. -/
theorem standing_ne_silent_iff (h : ¬ sub.Entitles quota periodEnd now) :
    sub.standing quota periodEnd now ≠ .silent ↔ sub.Over periodEnd now ∨
      (sub.IsStripe ∧ sub.normalStatus = "past_due" ∧ paymentGraceExpired quota now = true) := by
  constructor
  · intro hsilent
    by_cases hs : sub.IsStripe
    swap
    · exact absurd (standing_of_not_isStripe hs) hsilent
    by_cases hstatus : sub.Renews ∨ sub.Ends
    · exact .inl ⟨hs, hstatus, fun hlasts => h ⟨hs, .inl ⟨hstatus, hlasts⟩⟩⟩
    rw [not_or] at hstatus
    by_cases hpast : sub.normalStatus = "past_due"
    · refine .inr ⟨hs, hpast, ?_⟩
      by_contra hgrace
      exact h ⟨hs, .inr (.inr ⟨hpast, .inr (Bool.eq_false_iff.2 hgrace)⟩)⟩
    · exact absurd (standing_of_other hstatus.1 hstatus.2 hpast) hsilent
  · rintro (hover | ⟨hs, hpast, -⟩)
    · rcases hover.status with hrenews | hends
      · rw [standing_of_renews hover.stripe hrenews]
        split_ifs
        · simp
        · exact standingUntil_ne_silent _
      · rw [standing_of_ends hover.stripe hends]
        exact standingUntil_ne_silent _
    · rw [standing_of_pastDue hs hpast]
      split_ifs <;> simp

end

end Accounts.Subscriptions

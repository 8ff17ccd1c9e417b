import Accounts.Base.World

/-!
# Months

The Gregorian calendar as Go's `time` has it, in UTC: days are counted from the first
of January of the year 1, the day of the zero time, and months from the first one of
that year. Years start from 0 here.

A day lies in its month (`firstDay_monthIndex`), and a time is before the end of its
natural month (`lt_naturalMonth`).
-/

namespace Calendar

/-- The days of the first `y` years. -/
def daysBeforeYear (y : Int) : Int := 365 * y + y / 4 - y / 100 + y / 400

/-- The year after the first `y` has a leap day. -/
def leap (y : Int) : Bool :=
  (y + 1) % 4 == 0 && ((y + 1) % 100 != 0 || (y + 1) % 400 == 0)

/-- The days of a year before its month `m`, for `0 ≤ m ≤ 12`. -/
def daysBeforeMonth (leap : Bool) (m : Int) : Int :=
  if m ≤ 0 then 0 else if m = 1 then 31 else
  (if m = 2 then 59 else if m = 3 then 90 else if m = 4 then 120 else if m = 5 then 151
    else if m = 6 then 181 else if m = 7 then 212 else if m = 8 then 243 else if m = 9 then 273
    else if m = 10 then 304 else if m = 11 then 334 else 365) + (if leap then 1 else 0)

/-- The first day of a month. -/
def firstDay (i : Int) : Int := daysBeforeYear (i / 12) + daysBeforeMonth (leap (i / 12)) (i % 12)

/-- The years before a day. -/
def yearOf (d : Int) : Int :=
  let c := min (d % 146097 / 36524) 3
  let q := (d % 146097 - 36524 * c) / 1461
  let r := (d % 146097 - 36524 * c) % 1461
  400 * (d / 146097) + 100 * c + 4 * q + min (r / 365) 3

/-- The last month up to `m` that begins before a day of the year, or on it. -/
def monthUpTo (leap : Bool) (d : Int) : Nat → Int
  | 0 => 0
  | m + 1 => if daysBeforeMonth leap (m + 1) ≤ d then m + 1 else monthUpTo leap d m

/-- The month of a day. -/
def monthIndex (d : Int) : Int :=
  12 * yearOf d + monthUpTo (leap (yearOf d)) (d - daysBeforeYear (yearOf d)) 11

/-- The month of a time: its first instant, and that of the next month (`naturalMonthPeriod`). -/
def naturalMonth (t : Time) : Time × Time :=
  (firstDay (monthIndex (t / Time.day)) * Time.day,
    firstDay (monthIndex (t / Time.day) + 1) * Time.day)

/-! ## Years -/

/-- A year has 365 days, and the leap day. -/
theorem daysBeforeYear_succ (y : Int) :
    daysBeforeYear (y + 1) = daysBeforeYear y + 365 + (if leap y then 1 else 0) := by
  have hleap : (if leap y then (1 : Int) else 0) = (y + 1) / 4 - y / 4 - ((y + 1) / 100 - y / 100) +
      ((y + 1) / 400 - y / 400) := by
    by_cases h4 : (y + 1) % 4 = 0 <;> by_cases h100 : (y + 1) % 100 = 0 <;>
      by_cases h400 : (y + 1) % 400 = 0 <;> simp [leap, h4, h100, h400] <;> omega
  rw [hleap, daysBeforeYear, daysBeforeYear]
  omega

/-- The days before a year that is given by its centuries and cycles. -/
theorem daysBeforeYear_eq {n c q k : Int} (hc : 0 ≤ c ∧ c ≤ 3) (hq : 0 ≤ q ∧ q ≤ 24)
    (hk : 0 ≤ k ∧ k ≤ 3) :
    daysBeforeYear (400 * n + 100 * c + 4 * q + k) =
      146097 * n + 36524 * c + 1461 * q + 365 * k := by
  have h4 : (400 * n + 100 * c + 4 * q + k) / 4 = 100 * n + 25 * c + q := by omega
  have h100 : (400 * n + 100 * c + 4 * q + k) / 100 = 4 * n + c := by omega
  have h400 : (400 * n + 100 * c + 4 * q + k) / 400 = n := by omega
  rw [daysBeforeYear, h4, h100, h400]
  omega

/-- A day lies in its year. -/
theorem daysBeforeYear_yearOf (d : Int) :
    daysBeforeYear (yearOf d) ≤ d ∧ d < daysBeforeYear (yearOf d + 1) := by
  rw [daysBeforeYear_succ]
  obtain ⟨n, hn⟩ : ∃ n, n = d / 146097 := ⟨_, rfl⟩
  obtain ⟨c, hc⟩ : ∃ c, c = min (d % 146097 / 36524) 3 := ⟨_, rfl⟩
  obtain ⟨q, hq⟩ : ∃ q, q = (d % 146097 - 36524 * c) / 1461 := ⟨_, rfl⟩
  obtain ⟨k, hk⟩ : ∃ k, k = min ((d % 146097 - 36524 * c) % 1461 / 365) 3 := ⟨_, rfl⟩
  have hyear : yearOf d = 400 * n + 100 * c + 4 * q + k := by
    rw [hk, hq, hc, hn]
    rfl
  have hc' : 0 ≤ c ∧ c ≤ 3 := by omega
  have hq' : 0 ≤ q ∧ q ≤ 24 := by omega
  have hk' : 0 ≤ k ∧ k ≤ 3 := by omega
  -- The last day of a cycle is the leap day of its fourth year.
  have hleap : k = 3 ∧ (d % 146097 - 36524 * c) % 1461 = 1460 → leap (yearOf d) = true := by
    rintro ⟨rfl, hlast⟩
    have hmod4 : (yearOf d + 1) % 4 = 0 := by omega
    have hmod : (yearOf d + 1) % 100 ≠ 0 ∨ (yearOf d + 1) % 400 = 0 := by omega
    simpa [leap, hmod4] using hmod
  rw [hyear, daysBeforeYear_eq hc' hq' hk', ← hyear]
  by_cases hlast : k = 3 ∧ (d % 146097 - 36524 * c) % 1461 = 1460
  · rw [if_pos (hleap hlast)]
    omega
  · split_ifs <;> omega

/-! ## Months -/

/-- The next month begins after the last day of the month, in the same year or the next. -/
theorem firstDay_succ (i : Int) :
    firstDay (i + 1) = daysBeforeYear (i / 12) + daysBeforeMonth (leap (i / 12)) (i % 12 + 1) := by
  by_cases hlast : i % 12 = 11
  · have hyear : (i + 1) / 12 = i / 12 + 1 := by omega
    have hmonth : (i + 1) % 12 = 0 := by omega
    rw [firstDay, hyear, hmonth, daysBeforeYear_succ, hlast]
    simp [daysBeforeMonth, add_assoc]
  · have hyear : (i + 1) / 12 = i / 12 := by omega
    have hmonth : (i + 1) % 12 = i % 12 + 1 := by omega
    rw [firstDay, hyear, hmonth]

/-- A day of a year lies in its month. -/
theorem monthUpTo_spec (leap : Bool) {d : Int} (h0 : 0 ≤ d) (m : Nat) :
    0 ≤ monthUpTo leap d m ∧ monthUpTo leap d m ≤ m ∧
      daysBeforeMonth leap (monthUpTo leap d m) ≤ d ∧
      (d < daysBeforeMonth leap (m + 1) → d < daysBeforeMonth leap (monthUpTo leap d m + 1)) := by
  induction m with
  | zero => exact ⟨le_rfl, le_rfl, h0, id⟩
  | succ m ih =>
    rw [monthUpTo]
    split_ifs with hle
    · exact ⟨by omega, le_rfl, hle, id⟩
    · obtain ⟨hpos, hbound, hbegin, hend⟩ := ih
      exact ⟨hpos, by omega, hbegin, fun _ => hend (not_le.1 hle)⟩

/-- A day lies in its month. -/
theorem firstDay_monthIndex (d : Int) :
    firstDay (monthIndex d) ≤ d ∧ d < firstDay (monthIndex d + 1) := by
  obtain ⟨hle, hlt⟩ := daysBeforeYear_yearOf d
  rw [daysBeforeYear_succ, add_assoc] at hlt
  change d < _ + daysBeforeMonth _ 12 at hlt
  obtain ⟨h0, h11, hmonth, hnext⟩ :=
    monthUpTo_spec (leap (yearOf d)) (d := d - daysBeforeYear (yearOf d)) (by omega) 11
  have hlast := hnext (by change _ < daysBeforeMonth _ 12; omega)
  have hyear : monthIndex d / 12 = yearOf d := by rw [monthIndex]; omega
  have hmod : monthIndex d % 12 =
      monthUpTo (leap (yearOf d)) (d - daysBeforeYear (yearOf d)) 11 := by rw [monthIndex]; omega
  rw [firstDay_succ, firstDay, hyear, hmod]
  omega

/-- A time is before the end of its month. -/
theorem lt_naturalMonth (t : Time) : t < (naturalMonth t).2 :=
  (Int.ediv_lt_iff_lt_mul (by decide)).1 (firstDay_monthIndex (t / Time.day)).2

/-- February of 2024 has a leap day. -/
example : naturalMonth (Time.unix 1708000000) = (Time.unix 1706745600, Time.unix 1709251200) := by
  decide +kernel

end Calendar

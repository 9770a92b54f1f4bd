import ServerMigration.Time.Calendar

/-!
# The calendar counts days both ways

The date of a day count is a date, and its day count is the one it was made of.  The days of four
centuries are cut into centuries, cycles of four years, years and days; the year that is computed
from them without a table is the one so found.

## Main results

* `Calendar.isDate_dateOf` : the date of a day count is a date.
* `Calendar.daysOf_dateOf` : it has this day count.
-/

namespace ServerMigration.Calendar

/-- The days of four centuries by centuries, cycles of four years, years, and days of a year; the
last year of a cycle has a leap day unless the century ends with it, or if all four centuries do. -/
theorem exists_cycles {days : Int} (h : 0 ≤ days ∧ days < 146097) : ∃ c k j t : Int,
    (0 ≤ c ∧ c ≤ 3) ∧ (0 ≤ k ∧ k ≤ 24) ∧ (0 ≤ j ∧ j ≤ 3) ∧ 0 ≤ t
      ∧ (t ≤ 364 ∨ t = 365 ∧ j = 3 ∧ (k ≤ 23 ∨ c = 3))
      ∧ days = 36524 * c + 1461 * k + 365 * j + t := by
  by_cases hlast : days = 146096
  · exact ⟨3, 24, 3, 365, by omega⟩
  · by_cases hleap : days % 36524 % 1461 = 1460
    · exact ⟨days / 36524, days % 36524 / 1461, 3, 365, by omega⟩
    · exact ⟨days / 36524, days % 36524 / 1461, days % 36524 % 1461 / 365,
        days % 36524 % 1461 % 365, by omega⟩

section

variable {days c k j t : Int} (hc : 0 ≤ c ∧ c ≤ 3) (hk : 0 ≤ k ∧ k ≤ 24) (hj : 0 ≤ j ∧ j ≤ 3)
  (ht : 0 ≤ t) (hleap : t ≤ 364 ∨ t = 365 ∧ j = 3 ∧ (k ≤ 23 ∨ c = 3))
  (h : days = 36524 * c + 1461 * k + 365 * j + t)

include hc hk hj ht hleap h

/-- The year as it is computed from the days. -/
theorem yearOfEra_eq :
    (days - days / 1460 + days / 36524 - days / 146096) / 365 = 100 * c + 4 * k + j := by
  by_cases hlast : days = 146096
  · omega
  · have hcenturies : days / 36524 = c := by omega
    have hfour : days / 146096 = 0 := by omega
    have hcycles : days / 1460 = 25 * c + k + (24 * c + k + 365 * j + t) / 1460 := by omega
    rw [hcenturies, hfour, hcycles]
    omega

omit hc ht hleap in
/-- The day of the year as it is computed from the year. -/
theorem dayOfYear_eq : days - (365 * (100 * c + 4 * k + j) + (100 * c + 4 * k + j) / 4
    - (100 * c + 4 * k + j) / 100) = t := by
  have hfour : (100 * c + 4 * k + j) / 4 = 25 * c + k := by omega
  have hhundred : (100 * c + 4 * k + j) / 100 = c := by omega
  rw [hfour, hhundred]
  omega

end

/-! ### Months -/

theorem daysInMonth_le (year : Int) (month : Nat) : daysInMonth year month ≤ 31 := by
  unfold daysInMonth
  split
  · split
    all_goals decide
  all_goals decide

section

variable {year t month : Int} (ht : 0 ≤ t ∧ t ≤ 365) (hmonth : month = (5 * t + 2) / 153)

include ht hmonth

/-- The months counted from March. -/
theorem month_cases : month = 0 ∨ month = 1 ∨ month = 2 ∨ month = 3 ∨ month = 4 ∨ month = 5
    ∨ month = 6 ∨ month = 7 ∨ month = 8 ∨ month = 9 ∨ month = 10 ∨ month = 11 := by
  omega

/-- A day of a year that begins in March, by its month and its day of the month, is a date. -/
theorem isDate_of_dayOfYear (hleap : t = 365 → isLeapYear (year + 1)) :
    isDate (if (if month < 10 then month + 3 else month - 9) ≤ 2 then year + 1 else year)
      (if month < 10 then month + 3 else month - 9).toNat
      (t - (153 * month + 2) / 5 + 1).toNat := by
  rcases month_cases ht hmonth with
    rfl | rfl | rfl | rfl | rfl | rfl | rfl | rfl | rfl | rfl | rfl | rfl
  iterate 11
    · simp [isDate, daysInMonth]
      omega
  · -- Only February needs to know whether there is a leap day.
    by_cases hlast : t = 365
    · simp [isDate, daysInMonth, hlast, hleap hlast]
    · have hdays : (28 : Nat) ≤ if isLeapYear (year + 1) then 29 else 28 := by
        split
        · decide
        · decide
      simp [isDate, daysInMonth]
      omega

/-- The day count of a date by its day of the year. -/
theorem daysOf_of_dayOfYear :
    daysOf (if (if month < 10 then month + 3 else month - 9) ≤ 2 then year + 1 else year)
      (if month < 10 then month + 3 else month - 9).toNat
      (t - (153 * month + 2) / 5 + 1).toNat
    = year / 400 * 146097
      + (365 * (year % 400) + year % 400 / 4 - year % 400 / 100 + t) - 719468 := by
  rcases month_cases ht hmonth with
    rfl | rfl | rfl | rfl | rfl | rfl | rfl | rfl | rfl | rfl | rfl | rfl
  all_goals
    simp [daysOf]
    omega

end

/-- The date of a day count is a date of that day count. -/
theorem dateOf_spec (days : Int) :
    isDate (dateOf days).1 (dateOf days).2.1 (dateOf days).2.2
      ∧ daysOf (dateOf days).1 (dateOf days).2.1 (dateOf days).2.2 = days := by
  have hera : 0 ≤ (days + 719468) % 146097 ∧ (days + 719468) % 146097 < 146097 := by omega
  obtain ⟨c, k, j, t, hc, hk, hj, ht, hlast, hdays⟩ := exists_cycles hera
  have hyear := yearOfEra_eq hc hk hj ht hlast hdays
  have hday := dayOfYear_eq hk hj hdays
  have hbound : 0 ≤ 100 * c + 4 * k + j ∧ 100 * c + 4 * k + j ≤ 399 := by omega
  have ht : 0 ≤ t ∧ t ≤ 365 := by omega
  have hend : t = 365 → (100 * c + 4 * k + j + 1) % 4 = 0
      ∧ ((100 * c + 4 * k + j + 1) % 100 ≠ 0 ∨ (100 * c + 4 * k + j + 1) % 400 = 0) := by omega
  unfold dateOf
  dsimp only
  rw [hyear, hday]
  clear hyear hdays hlast hc hk hj
  generalize 100 * c + 4 * k + j = y at hday hbound hend
  have hleap : t = 365 → isLeapYear (y + (days + 719468) / 146097 * 400 + 1) := by
    intro h
    have hend := hend h
    simp only [isLeapYear, Bool.and_eq_true, Bool.or_eq_true, decide_eq_true_eq]
    omega
  have hdiv : (y + (days + 719468) / 146097 * 400) / 400 = (days + 719468) / 146097 := by omega
  have hmod : (y + (days + 719468) / 146097 * 400) % 400 = y := by omega
  refine ⟨isDate_of_dayOfYear ht rfl hleap, ?_⟩
  rw [daysOf_of_dayOfYear ht rfl, hdiv, hmod]
  omega

/-- **The date of a day count is a date.** -/
theorem isDate_dateOf (days : Int) : isDate (dateOf days).1 (dateOf days).2.1 (dateOf days).2.2 :=
  (dateOf_spec days).1

/-- **The day count of the date of a day count is that day count.** -/
theorem daysOf_dateOf (days : Int) :
    daysOf (dateOf days).1 (dateOf days).2.1 (dateOf days).2.2 = days :=
  (dateOf_spec days).2

end ServerMigration.Calendar

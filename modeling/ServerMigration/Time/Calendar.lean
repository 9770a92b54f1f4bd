/-!
# The calendar

The proleptic Gregorian calendar: days counted from 1970-01-01, and back.  Years are reckoned from
March, so that the leap day is the last day of its year.

## Main definitions

* `Calendar.daysOf` : the day count of a date.
* `Calendar.dateOf` : the date of a day count.
* `Calendar.isDate` : whether there is such a date.
-/

namespace ServerMigration.Calendar

/-- Whether a year has a leap day. -/
def isLeapYear (year : Int) : Bool :=
  year % 4 = 0 && (year % 100 ≠ 0 || year % 400 = 0)

/-- The number of days of a month. -/
def daysInMonth (year : Int) (month : Nat) : Nat :=
  match month with
  | 2 => if isLeapYear year then 29 else 28
  | 4 | 6 | 9 | 11 => 30
  | _ => 31

/-- Whether there is such a date. -/
def isDate (year : Int) (month day : Nat) : Bool :=
  1 ≤ month && month ≤ 12 && 1 ≤ day && day ≤ daysInMonth year month

/-- The days from 1970-01-01 to a date. -/
def daysOf (year : Int) (month day : Nat) : Int :=
  let y : Int := if month ≤ 2 then year - 1 else year
  let era := y / 400
  let yearOfEra := y % 400
  let monthFromMarch : Int := (month + 9) % 12
  let dayOfYear := (153 * monthFromMarch + 2) / 5 + day - 1
  let dayOfEra := yearOfEra * 365 + yearOfEra / 4 - yearOfEra / 100 + dayOfYear
  era * 146097 + dayOfEra - 719468

/-- The date that lies so many days after 1970-01-01: year, month, day. -/
def dateOf (days : Int) : Int × Nat × Nat :=
  let shifted := days + 719468
  let era := shifted / 146097
  let dayOfEra := shifted % 146097
  let yearOfEra := (dayOfEra - dayOfEra / 1460 + dayOfEra / 36524 - dayOfEra / 146096) / 365
  let dayOfYear := dayOfEra - (365 * yearOfEra + yearOfEra / 4 - yearOfEra / 100)
  let monthFromMarch := (5 * dayOfYear + 2) / 153
  let day := dayOfYear - (153 * monthFromMarch + 2) / 5 + 1
  let month := if monthFromMarch < 10 then monthFromMarch + 3 else monthFromMarch - 9
  let year := yearOfEra + era * 400
  (if month ≤ 2 then year + 1 else year, month.toNat, day.toNat)

end ServerMigration.Calendar

import Mathlib.Data.Int.Basic

/-!
# Calendar dates

Days since 1970-01-01 and dates of the proleptic Gregorian calendar. A year is counted from March,
so that the leap day is its last one, in eras of 400 years.
-/

namespace Nek0.Library

structure CivilDate where
  year : Int
  month : Int
  day : Int
  deriving DecidableEq, Repr

namespace CivilDate

/-- Days before a month of a year that begins in March. -/
def daysBefore (month : Int) : Int := (153 * month + 2) / 5

/-- Days before a year of an era. -/
def daysBeforeYear (year : Int) : Int := 365 * year + year / 4 - year / 100

def toDays (date : CivilDate) : Int :=
  let year := if date.month ≤ 2 then date.year - 1 else date.year
  let month := if date.month ≤ 2 then date.month + 9 else date.month - 3
  year / 400 * 146097 + daysBeforeYear (year % 400) + daysBefore month + date.day - 1 - 719468

/-- The year of a day of an era. -/
def yearOfEra (day : Int) : Int :=
  let century := min (day / 36524) 3
  let ofCentury := day - 36524 * century
  let ofCycle := ofCentury - 1461 * (ofCentury / 1461)
  100 * century + 4 * (ofCentury / 1461) + min (ofCycle / 365) 3

/-- The month of a day of a year. -/
def monthOfYear (day : Int) : Int := (5 * day + 2) / 153

/-- The number of a month, counted from March, in the civil year. -/
def civilMonth (month : Int) : Int := if month < 10 then month + 3 else month - 9

def ofDays (days : Int) : CivilDate :=
  let era := (days + 719468) / 146097
  let ofEra := (days + 719468) % 146097
  let year := yearOfEra ofEra
  let ofYear := ofEra - daysBeforeYear year
  let month := monthOfYear ofYear
  { year := 400 * era + year + if civilMonth month ≤ 2 then 1 else 0
    month := civilMonth month
    day := ofYear - daysBefore month + 1 }

theorem daysBeforeYear_eq {century cycle year : Int} (low : 0 ≤ 4 * cycle + year)
    (high : 4 * cycle + year < 100) (low' : 0 ≤ year) (high' : year < 4) :
    daysBeforeYear (100 * century + 4 * cycle + year) =
      36524 * century + 1461 * cycle + 365 * year := by
  simp only [daysBeforeYear]
  omega

theorem yearOfEra_bounds {day : Int} (low : 0 ≤ day) (high : day < 146097) :
    0 ≤ yearOfEra day ∧ yearOfEra day < 400 ∧
      0 ≤ day - daysBeforeYear (yearOfEra day) ∧ day - daysBeforeYear (yearOfEra day) ≤ 365 := by
  simp only [yearOfEra]
  generalize century_eq : min (day / 36524) 3 = century
  have inCentury : 0 ≤ century ∧ century ≤ 3 ∧ 0 ≤ day - 36524 * century ∧
      day - 36524 * century ≤ 36524 := by omega
  generalize cycle_eq : (day - 36524 * century) / 1461 = cycle
  have inCycle : 0 ≤ cycle ∧ cycle ≤ 24 ∧ 0 ≤ day - 36524 * century - 1461 * cycle ∧
      day - 36524 * century - 1461 * cycle ≤ 1460 := by omega
  generalize year_eq : min ((day - 36524 * century - 1461 * cycle) / 365) 3 = year
  rw [daysBeforeYear_eq (by omega) (by omega) (by omega) (by omega)]
  omega

theorem monthOfYear_bounds {day : Int} (low : 0 ≤ day) (high : day ≤ 365) :
    0 ≤ monthOfYear day ∧ monthOfYear day ≤ 11 ∧ 0 ≤ day - daysBefore (monthOfYear day) ∧
      day - daysBefore (monthOfYear day) ≤ 30 := by
  simp only [monthOfYear, daysBefore]
  omega

/-- A day has a date within the months, not far from the year that the days of a year give. -/
theorem ofDays_bounds (days : Int) :
    1 ≤ (ofDays days).month ∧ (ofDays days).month ≤ 12 ∧ 1 ≤ (ofDays days).day ∧
      (ofDays days).day ≤ 31 ∧ 400 * ((days + 719468) / 146097) ≤ (ofDays days).year ∧
      (ofDays days).year ≤ 400 * ((days + 719468) / 146097) + 400 := by
  have dayOfEra : 0 ≤ (days + 719468) % 146097 := by omega
  have inEra := yearOfEra_bounds dayOfEra (by omega)
  have inYear := monthOfYear_bounds inEra.2.2.1 inEra.2.2.2
  simp only [ofDays, civilMonth]
  split <;> split <;> omega

theorem toDays_of_parts {era year month day : Int} (low : 0 ≤ year) (high : year < 400)
    (first : 0 ≤ month) (last : month ≤ 11) :
    toDays ⟨400 * era + year + if civilMonth month ≤ 2 then 1 else 0, civilMonth month, day⟩ =
      era * 146097 + daysBeforeYear year + daysBefore month + day - 1 - 719468 := by
  have split_year : (400 * era + year) / 400 = era ∧ (400 * era + year) % 400 = year := by omega
  by_cases early : month < 10
  · have civil : civilMonth month = month + 3 := if_pos early
    have later : ¬ month + 3 ≤ 2 := by omega
    simp only [toDays, civil, if_neg later, Int.add_zero, Int.add_sub_cancel]
    rw [split_year.1, split_year.2]
  · have civil : civilMonth month = month - 9 := if_neg early
    have first : month - 9 ≤ 2 := by omega
    simp only [toDays, civil, if_pos first, Int.add_sub_cancel, Int.sub_add_cancel]
    rw [split_year.1, split_year.2]

theorem toDays_ofDays (days : Int) : (ofDays days).toDays = days := by
  have dayOfEra : 0 ≤ (days + 719468) % 146097 := by omega
  have inEra := yearOfEra_bounds dayOfEra (by omega)
  have inYear := monthOfYear_bounds inEra.2.2.1 inEra.2.2.2
  rw [ofDays, toDays_of_parts inEra.1 inEra.2.1 inYear.1 inYear.2.1]
  omega

end CivilDate

end Nek0.Library

import Mathlib.Tactic.IntervalCases
import Underwriting.Lib.Calendar

/-! # The Gregorian calendar, day by day

A date is valid if its month has that day, and its number is the count of the days
before it, year by year and month by month, from the first day of the year 0. The
date of a day counted in eras is valid and has the number of that day.
-/

namespace Calendar

/-! ## Counting days -/

def isLeap (year : ℕ) : Bool := year % 4 = 0 && (year % 100 ≠ 0 || year % 400 = 0)

def monthLength (year : ℕ) : ℕ → ℕ
  | 1 | 3 | 5 | 7 | 8 | 10 | 12 => 31
  | 4 | 6 | 9 | 11 => 30
  | 2 => if isLeap year then 29 else 28
  | _ => 0

/-- The days of the first months of a year. -/
def daysOfMonths (year : ℕ) : ℕ → ℕ
  | 0 => 0
  | months + 1 => daysOfMonths year months + monthLength year (months + 1)

/-- The days of the years before a year. -/
def daysOfYears : ℕ → ℕ
  | 0 => 0
  | years + 1 => daysOfYears years + daysOfMonths years 12

namespace Date

structure Valid (date : Date) : Prop where
  month : 1 ≤ date.month ∧ date.month ≤ 12
  day : 1 ≤ date.day ∧ date.day ≤ monthLength date.year date.month

instance (date : Date) : Decidable date.Valid :=
  decidable_of_iff ((1 ≤ date.month ∧ date.month ≤ 12) ∧ 1 ≤ date.day ∧ date.day ≤ monthLength date.year date.month)
    ⟨fun ⟨month, day⟩ => ⟨month, day⟩, fun ⟨month, day⟩ => ⟨month, day⟩⟩

/-- The days before a date. -/
def number (date : Date) : ℕ :=
  daysOfYears date.year + daysOfMonths date.year (date.month - 1) + (date.day - 1)

end Date

/-- The number of 1970-01-01. -/
def epoch : ℕ := 719528

/-! ## Years -/

theorem daysOfMonths_twelve (year : ℕ) : daysOfMonths year 12 = if isLeap year then 366 else 365 := by
  unfold daysOfMonths
  simp only [daysOfMonths, monthLength]
  split <;> rfl

theorem isLeap_iff (year : ℕ) : isLeap year = true ↔ year % 4 = 0 ∧ (year % 100 ≠ 0 ∨ year % 400 = 0) := by
  simp [isLeap]

/-- Every fourth year is one day longer, but of the centuries only every fourth. -/
theorem daysOfYears_eq (years : ℕ) :
    daysOfYears years + (years + 99) / 100 = 365 * years + (years + 3) / 4 + (years + 399) / 400 := by
  induction years with
  | zero => rfl
  | succ years ih =>
      rw [daysOfYears, daysOfMonths_twelve]
      by_cases leap : isLeap years = true
      · rw [if_pos leap]
        rw [isLeap_iff] at leap
        omega
      · rw [if_neg leap]
        rw [isLeap_iff] at leap
        omega

theorem newYear_number (year : ℕ) : Date.number ⟨year, 1, 1⟩ = daysOfYears year := rfl

example : Date.number ⟨1970, 1, 1⟩ = epoch := by
  have years := daysOfYears_eq 1970
  rw [newYear_number, epoch]
  omega

/-- A day of an era, by its century, its four years in it, its year of these and its day
    of that year, which starts in March; the last day of a leap year is its 366th. -/
structure Place where
  century : ℕ
  cycle : ℕ
  year : ℕ
  day : ℕ
  century_le : century ≤ 3
  cycle_le : cycle ≤ 24
  year_le : year ≤ 3
  day_le : day ≤ 365
  leap : day = 365 → year = 3 ∧ (cycle < 24 ∨ century = 3)

namespace Place

def yearOfEra (p : Place) : ℕ := 100 * p.century + 4 * p.cycle + p.year

def dayOfEra (p : Place) : ℕ := 36524 * p.century + 1461 * p.cycle + 365 * p.year + p.day

theorem exists_place {dayOfEra : ℕ} (within : dayOfEra < 146097) : ∃ p : Place, p.dayOfEra = dayOfEra := by
  let century := min 3 (dayOfEra / 36524)
  let ofCentury := dayOfEra - 36524 * century
  let cycle := ofCentury / 1461
  let ofCycle := ofCentury - 1461 * cycle
  let year := min 3 (ofCycle / 365)
  refine ⟨⟨century, cycle, year, ofCycle - 365 * year, ?_, ?_, ?_, ?_, ?_⟩, ?_⟩
  all_goals
    simp only [century, ofCentury, cycle, ofCycle, year, Place.dayOfEra]
    omega

/-- The formula for the year of an era: 1460 days are one day less than four years. -/
theorem year_of_day (p : Place) : (p.dayOfEra - p.dayOfEra / 1460 + p.dayOfEra / 36524 - p.dayOfEra / 146096) / 365 =
    p.yearOfEra := by
  have centuries : p.dayOfEra / 36524 = p.century + p.dayOfEra / 146096 := by
    obtain ⟨century, cycle, year, day, century_le, cycle_le, year_le, day_le, leap⟩ := p
    simp only [dayOfEra]
    interval_cases century <;> omega
  have cycles : 25 * p.century + p.cycle ≤ p.dayOfEra / 1460 ∧
      p.dayOfEra / 1460 ≤ 25 * p.century + p.cycle + p.day ∧
      25 * p.century + p.cycle + p.day ≤ p.dayOfEra / 1460 + 364 := by
    obtain ⟨century, cycle, year, day, century_le, cycle_le, year_le, day_le, leap⟩ := p
    simp only [dayOfEra]
    omega
  have places : p.dayOfEra = 365 * p.yearOfEra + (24 * p.century + p.cycle + p.day) := by
    simp only [dayOfEra, yearOfEra]
    omega
  have days : p.dayOfEra - p.dayOfEra / 1460 + p.dayOfEra / 36524 - p.dayOfEra / 146096 =
      365 * p.yearOfEra + (25 * p.century + p.cycle + p.day - p.dayOfEra / 1460) := by omega
  rw [days, Nat.mul_add_div (by decide), Nat.div_eq_of_lt (by omega), Nat.add_zero]

theorem day_of_year (p : Place) :
    p.dayOfEra - (365 * p.yearOfEra + p.yearOfEra / 4 - p.yearOfEra / 100) = p.day := by
  obtain ⟨century, cycle, year, day, century_le, cycle_le, year_le, day_le, leap⟩ := p
  simp only [dayOfEra, yearOfEra]
  omega

end Place

/-! ## Months -/

/-- The days before a month, of a year that starts in March. -/
def marchStart (index : ℕ) : ℕ := (153 * index + 2) / 5

theorem march_bounds (day : ℕ) :
    marchStart ((5 * day + 2) / 153) ≤ day ∧ day < marchStart ((5 * day + 2) / 153 + 1) := by
  simp only [marchStart]
  omega

/-- From March to December. -/
theorem march_month {index : ℕ} (bound : index ≤ 9) (year : ℕ) :
    daysOfMonths year (index + 2) = marchStart index + 59 + (if isLeap year then 1 else 0) ∧
      monthLength year (index + 3) + marchStart index = marchStart (index + 1) := by
  interval_cases index <;> simp only [daysOfMonths, monthLength, marchStart] <;> split <;> decide

/-- January and February, of the year after. -/
theorem january_month {index : ℕ} (bound : index = 10 ∨ index = 11) (year : ℕ) :
    daysOfMonths year (index - 10) + 306 = marchStart index ∧
      monthLength year (index - 9) + marchStart index = if index = 10 then 337 else if isLeap year then 366 else 365 := by
  rcases bound with rfl | rfl
  · exact ⟨rfl, rfl⟩
  · simp only [daysOfMonths, monthLength, marchStart]
    split <;> decide

/-! ## Dates -/

/-- The years before a year of an era, and the day on which that year's March starts. -/
theorem march_number (p : Place) (era : ℕ) :
    daysOfYears (p.yearOfEra + 400 * era) + 59 + (if isLeap (p.yearOfEra + 400 * era) then 1 else 0) + p.day =
      146097 * era + p.dayOfEra + 60 := by
  have years := daysOfYears_eq (p.yearOfEra + 400 * era)
  have leap := isLeap_iff (p.yearOfEra + 400 * era)
  by_cases is_leap : isLeap (p.yearOfEra + 400 * era) = true
  · rw [if_pos is_leap]
    rw [leap] at is_leap
    clear leap
    obtain ⟨century, cycle, year, day, century_le, cycle_le, year_le, day_le, last⟩ := p
    simp only [Place.dayOfEra, Place.yearOfEra] at *
    omega
  · rw [if_neg is_leap]
    rw [leap] at is_leap
    clear leap
    obtain ⟨century, cycle, year, day, century_le, cycle_le, year_le, day_le, last⟩ := p
    simp only [Place.dayOfEra, Place.yearOfEra] at *
    omega

/-- The last day of a year that starts in March is in a leap February. -/
theorem last_day (p : Place) (era : ℕ) : p.day < if isLeap (p.yearOfEra + 400 * era + 1) then 366 else 365 := by
  have leap := isLeap_iff (p.yearOfEra + 400 * era + 1)
  have last := p.leap
  have day_le := p.day_le
  by_cases is_leap : isLeap (p.yearOfEra + 400 * era + 1) = true
  · rw [if_pos is_leap]
    omega
  · rw [if_neg is_leap]
    rw [leap] at is_leap
    have cycle_le := p.cycle_le
    simp only [Place.yearOfEra] at is_leap
    omega

theorem dateOfDay_at {n era : ℕ} {p : Place} (placed : n + 719468 = 146097 * era + p.dayOfEra)
    (within : p.dayOfEra < 146097) :
    (dateOfDay n).Valid ∧ (dateOfDay n).number = 146097 * era + p.dayOfEra + 60 := by
  have era_eq : (n + 719468) / 146097 = era := by omega
  have day_eq : (n + 719468) % 146097 = p.dayOfEra := by omega
  have number := march_number p era
  have bounds := march_bounds p.day
  have day_le := p.day_le
  have last := last_day p era
  simp only [dateOfDay, era_eq, day_eq, p.year_of_day, p.day_of_year, ← marchStart.eq_1]
  generalize index_eq : (5 * p.day + 2) / 153 = index at *
  generalize p.yearOfEra + 400 * era = year at *
  by_cases early : index < 10
  · obtain ⟨before, length⟩ := march_month (by omega : index ≤ 9) year
    generalize (if isLeap year then 1 else 0) = leapDay at *
    have month : ¬index + 3 ≤ 2 := by omega
    simp only [if_pos early, if_neg month, Nat.add_zero]
    refine ⟨⟨by dsimp only; omega, ?_⟩, ?_⟩
    · dsimp only
      omega
    · simp only [Date.number, Nat.add_sub_cancel, show index + 3 - 1 = index + 2 from rfl, before]
      omega
  · have bound : index = 10 ∨ index = 11 := by omega
    obtain ⟨before, length⟩ := january_month bound (year + 1)
    generalize (if isLeap (year + 1) then 366 else 365) = yearLength at *
    have month : index - 9 ≤ 2 := by omega
    simp only [if_neg early, if_pos month]
    refine ⟨⟨by dsimp only; omega, ?_⟩, ?_⟩
    · have within_month : p.day < if index = 10 then 337 else yearLength := by
        rcases bound with rfl | rfl
        · exact bounds.2
        · exact last
      dsimp only
      omega
    · have years : daysOfYears (year + 1) = daysOfYears year + 365 + if isLeap year then 1 else 0 := by
        rw [daysOfYears, daysOfMonths_twelve]
        split <;> rfl
      simp only [Date.number, Nat.add_sub_cancel, show index - 9 - 1 = index - 10 by omega, years]
      omega

/-- The date of a day is a date of the calendar, the one whose number is that day's. -/
theorem dateOfDay_number (n : ℕ) : (dateOfDay n).Valid ∧ (dateOfDay n).number = n + epoch := by
  have within : (n + 719468) % 146097 < 146097 := Nat.mod_lt _ (by decide)
  obtain ⟨p, placed⟩ := Place.exists_place within
  have shifted : n + 719468 = 146097 * ((n + 719468) / 146097) + p.dayOfEra := by omega
  obtain ⟨valid, number⟩ := dateOfDay_at shifted (by omega)
  refine ⟨valid, ?_⟩
  rw [number, epoch]
  omega

theorem monthLength_le {year month : ℕ} : monthLength year month ≤ 31 := by
  unfold monthLength
  split <;> (try split) <;> decide

/-- Python's dates have years of four digits. -/
theorem year_lt {n : ℕ} (known : n ≤ lastDay) : (dateOfDay n).year < 10000 := by
  obtain ⟨-, number⟩ := dateOfDay_number n
  by_contra late
  have years := daysOfYears_eq (dateOfDay n).year
  rw [Date.number] at number
  simp only [epoch, lastDay] at number known
  omega

end Calendar

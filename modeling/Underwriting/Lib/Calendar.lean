import Mathlib.Data.Nat.Notation

/-! # UTC days as calendar dates

Instants are microseconds after 1970-01-01T00:00:00Z. The proleptic Gregorian
date of a day is counted in eras of 400 years that start on 1 March, so that a
leap day is the last day of its year.
-/

namespace Calendar

def microsPerDay : ℕ := 86400000000

/-- The last day Python's `datetime` has, 9999-12-31. -/
def lastDay : ℕ := 2932896

structure Date where
  year : ℕ
  month : ℕ
  day : ℕ
  deriving DecidableEq, Repr

/-- The date of the given day after 1970-01-01. -/
def dateOfDay (n : ℕ) : Date :=
  let shifted := n + 719468
  let era := shifted / 146097
  let dayOfEra := shifted % 146097
  let yearOfEra := (dayOfEra - dayOfEra / 1460 + dayOfEra / 36524 - dayOfEra / 146096) / 365
  let dayOfYear := dayOfEra - (365 * yearOfEra + yearOfEra / 4 - yearOfEra / 100)
  let marchMonth := (5 * dayOfYear + 2) / 153
  let month := if marchMonth < 10 then marchMonth + 3 else marchMonth - 9
  { year := yearOfEra + 400 * era + if month ≤ 2 then 1 else 0
    month := month
    day := dayOfYear - (153 * marchMonth + 2) / 5 + 1 }

/-- Decimal digits, padded with zeros on the left. -/
def padded (width n : ℕ) : String :=
  let digits := (toString n).toList
  String.ofList (List.replicate (width - digits.length) '0' ++ digits)

/-- `strftime("%Y-%m-%dT%H:%M:%SZ")` at midnight. -/
def midnightText (day : ℕ) : String :=
  let date := dateOfDay day
  padded 4 date.year ++ "-" ++ padded 2 date.month ++ "-" ++ padded 2 date.day ++ "T00:00:00Z"

example : midnightText 19782 = "2024-02-29T00:00:00Z" := by decide
example : midnightText lastDay = "9999-12-31T00:00:00Z" := by decide

end Calendar

import Underwriting.Lib.DecimalText
import Underwriting.Lib.Gregorian

/-! # RFC 3339 date-times

The texts that `format: date-time` asks for: a date of the calendar, a time of day and
its offset from UTC, read field by field. The text of a midnight is read back to that
midnight.
-/

namespace Rfc3339

open Calendar (Date)

structure DateTime where
  date : Date
  hour : ℕ
  minute : ℕ
  second : ℕ
  /-- East of UTC, in minutes. -/
  offset : ℤ

/-- The full seconds since 1970-01-01T00:00:00Z. -/
def DateTime.seconds (time : DateTime) : ℤ :=
  86400 * ((time.date.number : ℤ) - Calendar.epoch) + 3600 * time.hour + 60 * time.minute + time.second -
    60 * time.offset

/-! ## Reading -/

/-- A number of that many digits, and what comes after it. -/
def digits (width : ℕ) (text : List Char) : Option (ℕ × List Char) :=
  let front := text.take width
  if front.length = width ∧ front.all Decimal.isDigit then some (Decimal.digitsValue front, text.drop width) else none

def expect (c : Char) : List Char → Option (List Char)
  | first :: rest => if first = c then some rest else none
  | [] => none

/-- `full-date` -/
def fullDate (text : List Char) : Option (Date × List Char) := do
  let (year, text) ← digits 4 text
  let (month, text) ← digits 2 (← expect '-' text)
  let (day, text) ← digits 2 (← expect '-' text)
  let date : Date := ⟨year, month, day⟩
  if date.Valid then some (date, text) else none

/-- `partial-time`; fractions of a second are dropped, and there are no leap seconds. -/
def partialTime (text : List Char) : Option ((ℕ × ℕ × ℕ) × List Char) := do
  let (hour, text) ← digits 2 text
  let (minute, text) ← digits 2 (← expect ':' text)
  let (second, text) ← digits 2 (← expect ':' text)
  let text ← match text with
    | '.' :: fraction =>
        if (fraction.takeWhile Decimal.isDigit).isEmpty then none else some (fraction.dropWhile Decimal.isDigit)
    | text => some text
  if hour ≤ 23 ∧ minute ≤ 59 ∧ second ≤ 59 then some ((hour, minute, second), text) else none

/-- `time-numoffset` after its sign, to the end. -/
def numOffset (text : List Char) : Option ℤ := do
  let (hour, text) ← digits 2 text
  let (minute, text) ← digits 2 (← expect ':' text)
  if hour ≤ 23 ∧ minute ≤ 59 ∧ text.isEmpty then some (60 * hour + minute : ℕ) else none

/-- `time-offset` -/
def timeOffset : List Char → Option ℤ
  | ['Z'] => some 0
  | '+' :: text => numOffset text
  | '-' :: text => (numOffset text).map fun offset => -offset
  | _ => none

/-- `date-time` -/
def parse (text : String) : Option DateTime := do
  let (date, text) ← fullDate text.toList
  let ((hour, minute, second), text) ← partialTime (← expect 'T' text)
  let offset ← timeOffset text
  return { date, hour, minute, second, offset }

example : (parse "2024-02-29T23:59:59.5+01:00").map DateTime.offset = some 60 := by decide
example : parse "2026-09-27" = none := by decide
example : parse "2023-02-29T00:00:00Z" = none := by decide

/-! ## Reading back -/

theorem digits_padded {width n : ℕ} (positive : 0 < width) (small : n < 10 ^ width) (rest : List Char) :
    digits width ((Calendar.padded width n).toList ++ rest) = some (n, rest) := by
  have short : (toString n).toList.length ≤ width := by
    rw [Decimal.toString_digits]
    exact (Nat.length_toDigits_le_iff (by decide) positive).mpr small
  have shown : (Calendar.padded width n).toList =
      List.replicate (width - (toString n).toList.length) '0' ++ (toString n).toList := String.toList_ofList
  have long : (Calendar.padded width n).toList.length = width := by
    rw [shown, List.length_append, List.length_replicate]
    omega
  have digital : Decimal.Digital (Calendar.padded width n).toList := by
    rw [shown]
    exact (Decimal.digital_zeros _).append (Decimal.digital_toString n)
  have value : Decimal.digitsValue (Calendar.padded width n).toList = n := by
    rw [shown, Decimal.digitsValue_zeros, Decimal.digitsValue_toString]
  rw [digits, List.take_left' long, List.drop_left' long, value]
  exact if_pos ⟨long, List.all_eq_true.mpr digital⟩

theorem fullDate_padded {date : Date} (valid : date.Valid) (year : date.year < 10000) (rest : List Char) :
    fullDate ((Calendar.padded 4 date.year).toList ++ '-' :: ((Calendar.padded 2 date.month).toList ++
      '-' :: ((Calendar.padded 2 date.day).toList ++ rest))) = some (date, rest) := by
  have month : date.month < 10 ^ 2 := Nat.lt_of_le_of_lt valid.month.2 (by decide)
  have day : date.day < 10 ^ 2 := Nat.lt_of_le_of_lt (valid.day.2.trans Calendar.monthLength_le) (by decide)
  simp only [fullDate, digits_padded (by decide : 0 < 4) year, digits_padded (by decide : 0 < 2) month,
    digits_padded (by decide : 0 < 2) day, expect, if_true, Option.bind_eq_bind, Option.bind_some]
  exact if_pos valid

theorem partialTime_midnight : partialTime ['0', '0', ':', '0', '0', ':', '0', '0', 'Z'] = some ((0, 0, 0), ['Z']) := by
  decide

theorem joined_toList (year month day : String) : (year ++ "-" ++ month ++ "-" ++ day ++ "T00:00:00Z").toList =
    year.toList ++ '-' :: (month.toList ++ '-' :: (day.toList ++
      'T' :: ['0', '0', ':', '0', '0', ':', '0', '0', 'Z'])) := by
  simp [String.toList_append]

/-- The text of a midnight is a date-time, that midnight in UTC. -/
theorem parse_midnightText {day : ℕ} (known : day ≤ Calendar.lastDay) :
    ∃ time, parse (Calendar.midnightText day) = some time ∧ time.seconds = 86400 * day := by
  obtain ⟨valid, number⟩ := Calendar.dateOfDay_number day
  have moved : ((Calendar.dateOfDay day).number : ℤ) - Calendar.epoch = day := by
    rw [number, Nat.cast_add]
    exact add_sub_cancel_right ..
  refine ⟨⟨Calendar.dateOfDay day, 0, 0, 0, 0⟩, ?_, ?_⟩
  · simp only [parse, Calendar.midnightText, joined_toList, fullDate_padded valid (Calendar.year_lt known), expect,
      if_true, partialTime_midnight, timeOffset, Option.bind_eq_bind, Option.bind_some]
    rfl
  · simp only [DateTime.seconds, moved, Nat.cast_zero, mul_zero, add_zero, sub_zero]

end Rfc3339

/-
This file holds calendar dates of the Gregorian calendar, extended to years before it, and their
text form.

`dayNumber` counts days along one line, so that dates of different years can be compared and moved
from one to another.
-/

import RecordQuery.Number.Numeral

namespace RecordQuery.Calendar

/-- Whether a year has a twenty-ninth of February. -/
def isLeapYear (year : Int) : Bool :=
  year % 4 = 0 && (year % 100 ≠ 0 || year % 400 = 0)

/-- How many days a month has; a month that does not exist has none. -/
def daysInMonth (year : Int) (month : Nat) : Nat :=
  match month with
  | 2 => if isLeapYear year then 29 else 28
  | 4 | 6 | 9 | 11 => 30
  | 1 | 3 | 5 | 7 | 8 | 10 | 12 => 31
  | _ => 0

/-- Whether a year, a month and a day name a date of the years -9999 to 9999. -/
def isDate (year : Int) (month day : Nat) : Bool :=
  -9999 ≤ year && year ≤ 9999 && 1 ≤ day && day ≤ daysInMonth year month

/-- A calendar date. -/
structure Date where
  year : Int
  month : Nat
  day : Nat
  valid : isDate year month day
deriving DecidableEq

namespace Date

/-- The date of a year, a month and a day, if there is one. -/
def ofParts? (year : Int) (month day : Nat) : Option Date :=
  if valid : isDate year month day then some ⟨year, month, day, valid⟩ else none

/-- How many days lie between a date and the first of March of the year zero. Years are taken to
begin in March, so that a leap day is the last day of its year. -/
def dayNumber (date : Date) : Int :=
  let early := date.month ≤ 2
  let year := if early then date.year - 1 else date.year
  let monthFromMarch := if early then date.month + 9 else date.month - 3
  let dayOfYear : Nat := (153 * monthFromMarch + 2) / 5 + date.day - 1
  365 * year + year.fdiv 4 - year.fdiv 100 + year.fdiv 400 + dayOfYear

/-- The date with the given day number, if it lies within the years of the calendar. -/
def ofDayNumber? (number : Int) : Option Date :=
  let era := number.fdiv 146097
  let dayOfEra := (number - era * 146097).toNat
  let yearOfEra := (dayOfEra - dayOfEra / 1460 + dayOfEra / 36524 - dayOfEra / 146096) / 365
  let dayOfYear := dayOfEra - (365 * yearOfEra + yearOfEra / 4 - yearOfEra / 100)
  let monthFromMarch := (5 * dayOfYear + 2) / 153
  let day := dayOfYear - (153 * monthFromMarch + 2) / 5 + 1
  let month := if monthFromMarch < 10 then monthFromMarch + 3 else monthFromMarch - 9
  let year := era * 400 + yearOfEra + (if month ≤ 2 then 1 else 0)
  ofParts? year month day

/-- Dates in the order of their years, months and days. -/
def order (left right : Date) : Ordering :=
  (compare left.year right.year).then
    ((compare left.month right.month).then (compare left.day right.day))

/-- Whether a date is the last day of its month. -/
def endsMonth (date : Date) : Bool :=
  date.day = daysInMonth date.year date.month

/-! ### Text -/

/-- A number written with at least `width` digits. -/
def padded (width value : Nat) : String :=
  let digits := Nat.toDigits 10 value
  String.ofList (List.replicate (width - digits.length) '0' ++ digits)

/-- A date as year, month and day, with a minus before a year before the year zero. -/
def toText (date : Date) : String :=
  (if date.year < 0 then "-" else "") ++ padded 4 date.year.natAbs ++ "-" ++
    padded 2 date.month ++ "-" ++ padded 2 date.day

end Date

/-- Reads a number of exactly `width` digits. -/
def readDigits? (width : Nat) (text : List Char) : Option (Nat × List Char) :=
  let digits := text.take width
  if digits.length = width ∧ digits.all Char.isDigit then
    some (Number.Numeral.digitsValue digits, text.drop width)
  else none

/-- Reads one given character. -/
def readChar? (expected : Char) : List Char → Option (List Char)
  | char :: rest => if char = expected then some rest else none
  | [] => none

/-- Reads a date whose year has the given sign and four digits. -/
def readDate? (negative : Bool) (text : List Char) : Option (Date × List Char) := do
  let (year, text) ← readDigits? 4 text
  let text ← readChar? '-' text
  let (month, text) ← readDigits? 2 text
  let text ← readChar? '-' text
  let (day, text) ← readDigits? 2 text
  let date ← Date.ofParts? (if negative then -(year : Int) else year) month day
  return (date, text)

/-- The date that a whole text writes. The year may have a sign. -/
def Date.ofText? (text : List Char) : Option Date :=
  let (negative, unsigned) := Number.Numeral.splitSign text
  match readDate? negative unsigned with
  | some (date, []) => some date
  | _ => none

end RecordQuery.Calendar

/-
This file writes and reads date-times in the form of RFC 3339.

The form has no year before zero and no offset with seconds or of a day and more. Text that must
show every date-time falls back on a longer form that has them all.
-/

import RecordQuery.Calendar.DateTime

namespace RecordQuery.Calendar

/-- The digits of a fraction of a second without trailing zeros. -/
def fractionDigits (nanosecond : Nat) : List Char :=
  ((Date.padded 9 nanosecond).toList.reverse.dropWhile (· = '0')).reverse

namespace DateTime

/-- Whether the form of RFC 3339 can write a date-time. -/
def isRfc3339 (value : DateTime) : Bool :=
  0 ≤ value.date.year && value.offset.natAbs < 86400 && value.offset.natAbs % 60 = 0

/-- An offset as a sign, hours and minutes. -/
def offsetText (offset : Int) : String :=
  (if offset < 0 then "-" else "+") ++ Date.padded 2 (offset.natAbs / 3600) ++ ":" ++
    Date.padded 2 (offset.natAbs / 60 % 60)

/-- A date-time in the form of RFC 3339, if that form can write it. -/
def toRfc3339? (value : DateTime) : Option String :=
  if value.isRfc3339 then
    let fraction := fractionDigits value.time.nanosecond
    some (value.date.toText ++ "T" ++ Date.padded 2 value.time.hour ++ ":" ++
      Date.padded 2 value.time.minute ++ ":" ++ Date.padded 2 value.time.second ++
      (if fraction.isEmpty then "" else "." ++ String.ofList fraction) ++
      (if value.offset = 0 then "Z" else offsetText value.offset))
  else none

/-- A date-time in the form that can write every one: the hour is not padded, the fraction has at
least one digit and the offset shows its seconds. -/
def toFullText (value : DateTime) : String :=
  let fraction := fractionDigits value.time.nanosecond
  value.date.toText ++ " " ++ toString value.time.hour ++ ":" ++
    Date.padded 2 value.time.minute ++ ":" ++ Date.padded 2 value.time.second ++ "." ++
    (if fraction.isEmpty then "0" else String.ofList fraction) ++ " " ++
    offsetText value.offset ++ ":" ++ Date.padded 2 (value.offset.natAbs % 60)

/-- The text of a date-time: RFC 3339 where it can be written, the full form elsewhere. -/
def toText (value : DateTime) : String :=
  value.toRfc3339?.getD value.toFullText

end DateTime

/-- Reads a fraction of a second, if the text starts with a point. Digits after the ninth are
dropped. -/
def readFraction? : List Char → Option (Nat × List Char)
  | '.' :: text =>
    let (digits, rest) := Number.Numeral.spanDigits text
    if digits.isEmpty then none
    else
      let kept := (digits.take 9 ++ List.replicate (9 - digits.length) '0')
      some (Number.Numeral.digitsValue kept, rest)
  | text => some (0, text)

/-- Reads an offset: the letter z in either case, or a sign, hours and minutes. -/
def readOffset? : List Char → Option (Int × List Char)
  | 'Z' :: rest => some (0, rest)
  | 'z' :: rest => some (0, rest)
  | sign :: text => do
    guard (sign = '+' || sign = '-')
    let (hours, text) ← readDigits? 2 text
    let text ← readChar? ':' text
    let (minutes, text) ← readDigits? 2 text
    guard (hours < 24 && minutes < 60)
    let size : Int := hours * 3600 + minutes * 60
    return (if sign = '-' then -size else size, text)
  | [] => none

/-- Whether a date-time is the last second of a month in UTC, where a leap second may follow. -/
def DateTime.precedesLeapSecond (value : DateTime) : Bool :=
  let day := value.utcSeconds.fdiv 86400
  value.utcSeconds - day * 86400 = 86399 &&
    match Date.ofDayNumber? day with
    | some date => date.endsMonth
    | none => false

/-- The date-time that a whole text writes in the form of RFC 3339. Any ASCII character may stand
between date and time. A leap second is read as the last nanosecond before it. -/
def DateTime.ofRfc3339? (text : List Char) : Option DateTime := do
  let (date, text) ← readDate? false text
  let text ← match text with
    | separator :: rest => if separator.toNat < 128 then some rest else none
    | [] => none
  let (hour, text) ← readDigits? 2 text
  let text ← readChar? ':' text
  let (minute, text) ← readDigits? 2 text
  let text ← readChar? ':' text
  let (second, text) ← readDigits? 2 text
  let (nanosecond, text) ← readFraction? text
  let (offset, text) ← readOffset? text
  guard text.isEmpty
  if second = 60 then
    let time ← ClockTime.ofParts? hour minute 59 999999999
    let value ← DateTime.ofParts? date time offset
    guard value.precedesLeapSecond
    return value
  else
    let time ← ClockTime.ofParts? hour minute second nanosecond
    DateTime.ofParts? date time offset

end RecordQuery.Calendar

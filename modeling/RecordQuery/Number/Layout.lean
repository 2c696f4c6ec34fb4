/-
This file writes binary numbers as text. Which digits are written is settled by
`Binary.shortest`; how they are set out is a `Layout`, one value for each text form that a number
has in this library.
-/

import RecordQuery.Number.Decimal

namespace RecordQuery.Number

/-- The decisions of a text form for numbers. -/
structure Layout where
  /-- Which of two equally short and equally near decimals is written. -/
  tie : Decimal.Tie
  /-- Whether a number whose leading digit stands at this power of ten is written without an
  exponent. -/
  positional : Int → Bool
  /-- What follows a number without an exponent that has no fractional part. -/
  wholeSuffix : String
  /-- The text of a not-a-number. -/
  notANumber : String
  /-- The text of an infinity, given whether it is negative. -/
  infinity : Bool → String

namespace Layout

/-- A run of zeros. -/
def zeros (count : Nat) : String :=
  String.ofList (List.replicate count '0')

/-- The digits of a decimal with a point where it belongs and no exponent. -/
def writePositional (layout : Layout) (decimal : Decimal) : String :=
  let digits := Nat.toDigits 10 decimal.coefficient
  if 0 ≤ decimal.exponent then
    String.ofList digits ++ zeros decimal.exponent.toNat ++ layout.wholeSuffix
  else
    let places := decimal.exponent.natAbs
    if places < digits.length then
      let whole := digits.length - places
      String.ofList (digits.take whole) ++ "." ++ String.ofList (digits.drop whole)
    else "0." ++ zeros (places - digits.length) ++ String.ofList digits

/-- One digit, a point and the other digits if there are any, and the exponent with its sign. -/
def writeExponential (decimal : Decimal) (leading : Int) : String :=
  let digits := Nat.toDigits 10 decimal.coefficient
  let fraction := digits.drop 1
  String.ofList (digits.take 1) ++
    (if fraction.isEmpty then "" else "." ++ String.ofList fraction) ++
    (if leading < 0 then "e-" else "e+") ++ toString leading.natAbs

/-- The text of a number. -/
def write {format : BinaryFormat} (layout : Layout) (number : Binary format) : String :=
  if number.isNaN then layout.notANumber
  else if number.isInfinite then layout.infinity number.negative
  else
    let decimal := number.shortest layout.tie
    let leading := decimal.exponent + digitCount decimal.coefficient - 1
    (if number.negative then "-" else "") ++
      if layout.positional leading then layout.writePositional decimal
      else writeExponential decimal leading

end Layout

end RecordQuery.Number

/-
This file reads numbers from text. Only ASCII digits are digits here, a sign may stand in front,
and nothing may be left over; blanks around a numeral are for the caller to remove.
-/

import RecordQuery.Number.Decimal

namespace RecordQuery.Number.Numeral

/-- The value of a run of digits. -/
def digitsValue (digits : List Char) : Nat :=
  digits.foldl (fun value digit => value * 10 + (digit.toNat - '0'.toNat)) 0

/-- The digits a text starts with, and the rest of it. -/
def spanDigits (text : List Char) : List Char × List Char :=
  (text.takeWhile Char.isDigit, text.dropWhile Char.isDigit)

/-- A text split after its sign, and whether that is a minus. -/
def splitSign : List Char → Bool × List Char
  | '-' :: rest => (true, rest)
  | '+' :: rest => (false, rest)
  | text => (false, text)

/-- Reads an integer of any size. -/
def integer? (text : List Char) : Option Int :=
  let (negative, digits) := splitSign text
  if digits.isEmpty || !digits.all Char.isDigit then none
  else some (if negative then -(digitsValue digits : Int) else digitsValue digits)

/-- Reads an exponent: a letter e, a sign if there is one, and at least one digit. No exponent
at all is an exponent of zero. -/
def exponent? : List Char → Option Int
  | [] => some 0
  | mark :: text => if mark = 'e' || mark = 'E' then integer? text else none

/-- Reads an unsigned decimal: digits, with a point before, among or after them, and an
exponent. -/
def decimal? (text : List Char) : Option Decimal :=
  let (whole, rest) := spanDigits text
  let (fraction, rest) := match rest with
    | '.' :: rest => spanDigits rest
    | _ => ([], rest)
  if whole.isEmpty && fraction.isEmpty then none
  else (exponent? rest).map fun exponent =>
    ⟨digitsValue (whole ++ fraction), exponent - fraction.length⟩

/-- Reads a number of a binary format: a decimal, an infinity or a not-a-number, the last two in
letters of either case. -/
def binary? (format : BinaryFormat) (text : List Char) : Option (Binary format) :=
  let (negative, unsigned) := splitSign text
  match decimal? unsigned with
  | some decimal => some (Binary.ofDecimal negative decimal)
  | none =>
    let name := String.ofList (unsigned.map Char.toLower)
    if name = "inf" || name = "infinity" then some (Binary.infinity negative)
    else if name = "nan" then
      some ⟨negative, format.infinity + format.quietBit, format.infinity_add_quietBit_lt⟩
    else none

end RecordQuery.Number.Numeral

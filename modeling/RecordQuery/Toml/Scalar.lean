/-
This file reads the values of TOML documents that have no quotes: truth values, numbers, and
moments, which are dates, times or both.

Digits may be grouped by underscores, each of which has digits on both sides. An integer is held if
it has room in 128 bits, and a float if it is not beyond its format.
-/

import RecordQuery.Calendar.Rfc3339
import RecordQuery.Number.Radix
import RecordQuery.Text.Split
import RecordQuery.Toml.Value

namespace RecordQuery.Toml

open Number Calendar

/-! ### Digits -/

/-- The digits of a number without the underscores between them. -/
def groupedDigits? (isDigit : Char → Bool) (text : List Char) : Option (List Char) :=
  let groups := Text.splitAt '_' text
  if groups.all fun group => !group.isEmpty && group.all isDigit then some groups.flatten
  else none

/-- Decimal digits. Only a zero that stands alone may come first. -/
def wholeDigits? (text : List Char) : Option (List Char) :=
  match groupedDigits? Char.isDigit text with
  | some ('0' :: _ :: _) => none
  | result => result

/-- A number with a sign. -/
def withSign (negative : Bool) (size : Nat) : Int :=
  if negative then -(size : Int) else size

/-! ### Integers -/

/-- How many digits there are behind a zero and this letter. -/
def radix? : Char → Option Nat
  | 'x' => some 16
  | 'o' => some 8
  | 'b' => some 2
  | _ => none

/-- Reads an integer in hexadecimal, octal or binary digits, which has no sign. -/
def radixInteger? : List Char → Option Int
  | '0' :: letter :: text => do
    let radix ← radix? letter
    let digits ← groupedDigits? (fun char => (Radix.digit? radix char).isSome) text
    let size ← Radix.number? radix digits
    return size
  | _ => none

/-- Reads an integer in decimal digits. -/
def decimalInteger? (text : List Char) : Option Int :=
  let (negative, digits) := Numeral.splitSign text
  (wholeDigits? digits).map fun digits => withSign negative (Numeral.digitsValue digits)

/-- An integer, if it has room in 128 bits with a sign or without. -/
def holdInteger? (value : Int) : Option Int :=
  if -(twoTo 127 : Int) ≤ value ∧ value < twoTo 128 then some value else none

/-! ### Floats -/

/-- Whether a character starts an exponent. -/
def marksExponent (char : Char) : Bool :=
  char = 'e' || char = 'E'

/-- Reads a fraction with the point in front of it. -/
def fraction? : List Char → Option (List Char)
  | [] => some []
  | _ :: digits => groupedDigits? Char.isDigit digits

/-- Reads an exponent with the letter in front of it. -/
def exponent? : List Char → Option Int
  | [] => some 0
  | _ :: text =>
    let (negative, digits) := Numeral.splitSign text
    (groupedDigits? Char.isDigit digits).map fun digits =>
      withSign negative (Numeral.digitsValue digits)

/-- Reads an unsigned decimal with a fraction, an exponent or both. -/
def decimal? (text : List Char) : Option Decimal := do
  let mantissa := text.takeWhile fun char => !marksExponent char
  let whole ← wholeDigits? (mantissa.takeWhile (· ≠ '.'))
  let fraction ← fraction? (mantissa.dropWhile (· ≠ '.'))
  let exponent ← exponent? (text.dropWhile fun char => !marksExponent char)
  return ⟨Numeral.digitsValue (whole ++ fraction), exponent - fraction.length⟩

/-- A float, if it is not beyond its format. -/
def holdFloat? (value : Double) : Option Double :=
  if value.isInfinite then none else some value

/-- Reads a float. Infinity and not-a-number have names. -/
def float? (text : List Char) : Option Value :=
  let (negative, unsigned) := Numeral.splitSign text
  match decimal? unsigned with
  | some decimal => some (.float (holdFloat? (Binary.ofDecimal negative decimal)))
  | none =>
    if unsigned = "inf".toList then some (.float (some (Binary.infinity negative)))
    else if unsigned = "nan".toList then some (.float (some Binary.invalid))
    else none

/-! ### Moments -/

/-- Reads a time: hours and minutes, and if they are given seconds with a fraction. A leap second
is allowed at any time. -/
def readTime? (text : List Char) : Option (List Char) := do
  let (hour, text) ← readDigits? 2 text
  let text ← readChar? ':' text
  let (minute, text) ← readDigits? 2 text
  guard (hour < 24 && minute < 60)
  match text with
  | ':' :: text => do
    let (second, text) ← readDigits? 2 text
    guard (second ≤ 60)
    let (_, text) ← readFraction? text
    return text
  | _ => return text

/-- Whether a text is empty or an offset from UTC. -/
def isOffset (text : List Char) : Bool :=
  text.isEmpty || match readOffset? text with
    | some (_, rest) => rest.isEmpty
    | none => false

/-- Whether a character stands between a date and a time. -/
def dividesMoment (char : Char) : Bool :=
  char = 'T' || char = 't' || char = ' '

/-- Whether a text is a date, a time, or a date and a time with an offset or without. -/
def isMoment (text : List Char) : Bool :=
  match readDate? false text with
  | some (_, []) => true
  | some (_, char :: rest) => dividesMoment char && (readTime? rest).any isOffset
  | none => (readTime? text).any List.isEmpty

/-! ### Scalars -/

/-- Reads a value that has no quotes. -/
def readScalar? (text : List Char) : Option Value :=
  if text = "true".toList then some (.bool true)
  else if text = "false".toList then some (.bool false)
  else match (decimalInteger? text).or (radixInteger? text) with
    | some value => some (.integer (holdInteger? value))
    | none => if isMoment text then some (.moment (String.ofList text)) else float? text

end RecordQuery.Toml

/-
This file goes between binary numbers and decimals, both ways.

`Binary.shortest` picks the decimal with the fewest digits that reads back to a number: it tries
one digit, two digits and so on, and on each grid looks at the two neighbours of the exact value.
If any point of a grid reads back, one of the two does, so the first grid with a hit is the
coarsest. `Binary.ofDecimal` reads a decimal, rounding its exact value once.
-/

import RecordQuery.Number.Rounding

namespace RecordQuery.Number

/-- The decimal `coefficient * 10 ^ exponent`. -/
structure Decimal where
  coefficient : Nat
  exponent : Int
deriving DecidableEq, Repr

/-- How many decimal digits a natural number has; zero has one. -/
def digitCount (value : Nat) : Nat :=
  (Nat.toDigits 10 value).length

/-- The power of ten of the leading digit of `numerator / denominator`, a positive quotient. -/
def leadingExponent (numerator denominator : Nat) : Int :=
  if denominator ≤ numerator then digitCount (numerator / denominator) - 1
  else
    let count := digitCount (denominator / numerator)
    if numerator * tenTo (count - 1) = denominator then 1 - (count : Int) else -(count : Int)

namespace Decimal

/-- Which of two equally near decimals is chosen. -/
inductive Tie where
  /-- The larger one. -/
  | up
  /-- The one whose last digit is even. -/
  | even

/-- Moves trailing zeros of a coefficient into the exponent, at most `count` of them. -/
def dropZeros : Nat → Decimal → Decimal
  | 0, decimal => decimal
  | count + 1, decimal =>
    if decimal.coefficient % 10 = 0 ∧ decimal.coefficient ≠ 0 then
      dropZeros count ⟨decimal.coefficient / 10, decimal.exponent + 1⟩
    else decimal

/-- The decimal with no trailing zero in its coefficient. -/
def reduced (decimal : Decimal) : Decimal :=
  decimal.dropZeros (digitCount decimal.coefficient)

end Decimal

namespace Binary

variable {format : BinaryFormat}

/-- The decimals that read back to a number: those between `low` and `high`, ends included only
if `closed`. The bounds and the number itself are counted in halves of the least positive
number, `denominator` of which make one. -/
structure Reach where
  low : Nat
  value : Nat
  high : Nat
  denominator : Nat
  closed : Bool

/-- The decimals that read back to a finite positive number reach half-way to its neighbours. Ties
are read as the even magnitude, so the ends belong to it exactly when its own magnitude is even. -/
def reach (number : Binary format) : Reach where
  low := format.units (number.magnitude - 1) + number.units
  value := 2 * number.units
  high := number.units + format.units (number.magnitude + 1)
  denominator := 2 * format.unitsInOne
  closed := number.magnitude % 2 = 0

/-- The point nearest to the value among the two next to it on the grid of multiples of
`10 ^ exponent`, if any of them is within reach. -/
def Reach.onGrid? (reach : Reach) (tie : Decimal.Tie) (exponent : Int) : Option Nat :=
  let scale := tenTo (-exponent).toNat
  let step := reach.denominator * tenTo exponent.toNat
  let within (point : Nat) : Bool :=
    if reach.closed then reach.low * scale ≤ point * step ∧ point * step ≤ reach.high * scale
    else reach.low * scale < point * step ∧ point * step < reach.high * scale
  let below := reach.value * scale / step
  let twice := 2 * (reach.value * scale % step)
  match within below, within (below + 1) with
  | true, false => some below
  | false, true => some (below + 1)
  | false, false => none
  | true, true =>
    if twice < step then some below
    else if step < twice then some (below + 1)
    else match tie with
      | .up => some (below + 1)
      | .even => some (below + below % 2)

/-- Tries the grids on which the value has `digits`, `digits + 1` and more digits, `attempts` of
them. -/
def Reach.search (reach : Reach) (tie : Decimal.Tie) (leading : Int) : Nat → Nat → Decimal
  | _, 0 => ⟨0, 0⟩
  | digits, attempts + 1 =>
    let exponent := leading - digits + 1
    match reach.onGrid? tie exponent with
    | some coefficient => ⟨coefficient, exponent⟩
    | none => reach.search tie leading (digits + 1) attempts

/-- More digits than any number of a format needs to be told from its neighbours. -/
def digitLimit (format : BinaryFormat) : Nat :=
  format.fractionBits / 3 + 3

/-- The decimal with the fewest digits that reads back to the size of a finite number, and of
those the nearest to it. -/
def shortest (tie : Decimal.Tie) (number : Binary format) : Decimal :=
  if number.isZero then ⟨0, 0⟩
  else
    let reach := number.reach
    let leading := leadingExponent reach.value reach.denominator
    (reach.search tie leading 1 (digitLimit format)).reduced

/-- The number nearest to a decimal. Exponents so large or so small that the answer is plain are
settled before any power of ten is formed. -/
def ofDecimal (negative : Bool) (decimal : Decimal) : Binary format :=
  let exponentRange := twoTo (format.exponentBits - 1)
  let power := decimal.exponent.natAbs
  if decimal.coefficient = 0 then zero negative
  else if 0 ≤ decimal.exponent then
    if exponentRange < 3 * power then infinity negative
    else ofQuotient negative (decimal.coefficient * tenTo power * format.unitsInOne) 1
  else if decimal.coefficient.log2 + exponentRange + format.fractionBits + 3 < 3 * power then
    zero negative
  else ofQuotient negative (decimal.coefficient * format.unitsInOne) (tenTo power)

end Binary

end RecordQuery.Number

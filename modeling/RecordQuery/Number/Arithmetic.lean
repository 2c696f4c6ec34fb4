/-
This file holds the arithmetic of binary numbers. Each operation forms its exact result in units
of the format and rounds it once.

A not-a-number operand is passed on, the left one first, and made quiet. An operation without a
result gives `Binary.invalid`.
-/

import RecordQuery.Number.Rounding

namespace RecordQuery.Number.Binary

variable {format : BinaryFormat}

/-- A not-a-number with its quiet bit set; any other number as it is. -/
def quieted (number : Binary format) : Binary format :=
  if number.isNaN then number.convert else number

/-- Adds two numbers. A sum that is exactly zero is negative only if both operands are. -/
def add (left right : Binary format) : Binary format :=
  if left.isNaN then left.quieted
  else if right.isNaN then right.quieted
  else if left.isInfinite then
    if right.isInfinite && left.negative != right.negative then invalid else left
  else if right.isInfinite then right
  else
    let sum := left.signedUnits + right.signedUnits
    if sum = 0 then zero (left.negative && right.negative)
    else ofQuotient (decide (sum < 0)) sum.natAbs 1

/-- Subtracts the right number from the left one. -/
def sub (left right : Binary format) : Binary format :=
  if right.isNaN then left.add right else left.add right.neg

/-- Multiplies two numbers. -/
def mul (left right : Binary format) : Binary format :=
  let negative := left.negative != right.negative
  if left.isNaN then left.quieted
  else if right.isNaN then right.quieted
  else if left.isInfinite || right.isInfinite then
    if left.isZero || right.isZero then invalid else infinity negative
  else ofQuotient negative (left.units * right.units) format.unitsInOne

/-- Divides the left number by the right one. -/
def div (left right : Binary format) : Binary format :=
  let negative := left.negative != right.negative
  if left.isNaN then left.quieted
  else if right.isNaN then right.quieted
  else if left.isInfinite then if right.isInfinite then invalid else infinity negative
  else if right.isInfinite then zero negative
  else if right.isZero then if left.isZero then invalid else infinity negative
  else ofQuotient negative (left.units * format.unitsInOne) right.units

/-- The square root. A root that is not whole lies strictly between two neighbouring units; the
half unit between them stands for it, since no root is close enough to a tie for the difference to
matter. -/
def sqrt (number : Binary format) : Binary format :=
  if number.isNaN then number.quieted
  else if number.isZero then number
  else if number.negative then invalid
  else if number.isInfinite then number
  else
    let square := number.units * format.unitsInOne
    let root := square.sqrt
    let between := if root * root = square then 0 else 1
    ofQuotient false (2 * root + between) 2

/-- The number, but no less than `low` and no more than `high`. A not-a-number is left as it is. -/
def clamp (number low high : Binary format) : Binary format :=
  if number.compare? low == some .lt then low
  else if number.compare? high == some .gt then high
  else number

instance : Add (Binary format) := ⟨add⟩
instance : Sub (Binary format) := ⟨sub⟩
instance : Mul (Binary format) := ⟨mul⟩
instance : Div (Binary format) := ⟨div⟩
instance : Neg (Binary format) := ⟨neg⟩

instance {value : Nat} : OfNat (Binary format) value := ⟨ofInt value⟩

/-- Two numbers have the same product in either order, unless both are not numbers. -/
theorem mul_comm_of_left {left right : Binary format} (number : left.isNaN = false) :
    left * right = right * left := by
  change left.mul right = right.mul left
  unfold mul
  by_cases other : right.isNaN
  · simp [number, other]
  · have sign : (left.negative != right.negative) = (right.negative != left.negative) := by
      cases left.negative <;> cases right.negative <;> rfl
    simp only [number, other, sign, Bool.false_eq_true, if_false, Nat.mul_comm left.units,
      Bool.or_comm left.isInfinite, Bool.or_comm left.isZero]

end RecordQuery.Number.Binary

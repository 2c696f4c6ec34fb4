/-
This file holds binary floating-point numbers as plain data: a sign and a magnitude.

The magnitude is the exponent field and the fraction field read as one number. Numbers of one
sign are then ordered as their magnitudes are, the next number up is the next magnitude up, and
every rank, order and neighbour below is a statement about natural numbers. `units` gives the
exact value of a magnitude, counted in the least positive number of the format.
-/

import RecordQuery.Number.Power

namespace RecordQuery.Number

/-- A binary interchange format: how many bits its fraction and its exponent take. -/
structure BinaryFormat where
  fractionBits : Nat
  exponentBits : Nat
  fractionBits_pos : 0 < fractionBits := by decide
  one_lt_exponentBits : 1 < exponentBits := by decide
deriving DecidableEq

namespace BinaryFormat

/-- Double precision. -/
def double : BinaryFormat where
  fractionBits := 52
  exponentBits := 11

/-- Single precision. -/
def single : BinaryFormat where
  fractionBits := 23
  exponentBits := 8

/-- The number of significands in one binade. -/
def binade (format : BinaryFormat) : Nat :=
  twoTo format.fractionBits

/-- The number of magnitudes, those that are not a number included. -/
def magnitudes (format : BinaryFormat) : Nat :=
  twoTo (format.fractionBits + format.exponentBits)

/-- The magnitude of infinity: every exponent bit set and no fraction bit. The magnitudes above
it are not numbers, those below it are finite. -/
def infinity (format : BinaryFormat) : Nat :=
  (twoTo format.exponentBits - 1) * format.binade

/-- The fraction bit that marks a quiet not-a-number. -/
def quietBit (format : BinaryFormat) : Nat :=
  twoTo (format.fractionBits - 1)

/-- How often the least positive number goes into one. -/
def unitsInOne (format : BinaryFormat) : Nat :=
  twoTo (twoTo (format.exponentBits - 1) - 2 + format.fractionBits)

/-- The exact value of a magnitude in units of the least positive number. It is also meant at
`infinity`, where it is the power of two that the format just fails to hold. -/
def units (format : BinaryFormat) (magnitude : Nat) : Nat :=
  let exponent := magnitude / format.binade
  let fraction := magnitude % format.binade
  if exponent = 0 then fraction else (format.binade + fraction) * twoTo (exponent - 1)

theorem binade_pos (format : BinaryFormat) : 0 < format.binade :=
  twoTo_pos _

theorem unitsInOne_pos (format : BinaryFormat) : 0 < format.unitsInOne :=
  twoTo_pos _

theorem magnitudes_eq (format : BinaryFormat) :
    format.magnitudes = twoTo format.exponentBits * format.binade := by
  rw [magnitudes, binade, twoTo_add, Nat.mul_comm]

/-- Infinity lies one binade below the number of magnitudes. -/
theorem infinity_add_binade (format : BinaryFormat) :
    format.infinity + format.binade = format.magnitudes := by
  have exponents : 0 < twoTo format.exponentBits := twoTo_pos _
  rw [magnitudes_eq, infinity, ← Nat.succ_mul, Nat.succ_eq_add_one, Nat.sub_add_cancel exponents]

theorem infinity_lt_magnitudes (format : BinaryFormat) : format.infinity < format.magnitudes := by
  have := format.infinity_add_binade
  have := format.binade_pos
  omega

theorem infinity_add_quietBit_lt (format : BinaryFormat) :
    format.infinity + format.quietBit < format.magnitudes := by
  have sum := format.infinity_add_binade
  have half : format.quietBit < format.binade :=
    twoTo_lt_twoTo (Nat.sub_lt format.fractionBits_pos (by decide))
  omega

end BinaryFormat

/-- A number of a binary format. Both zeros, both infinities and every not-a-number are values of
their own. -/
structure Binary (format : BinaryFormat) where
  negative : Bool
  magnitude : Nat
  magnitude_lt : magnitude < format.magnitudes
deriving DecidableEq

/-- A double-precision number. -/
abbrev Double := Binary .double

/-- A single-precision number. -/
abbrev Single := Binary .single

namespace Binary

variable {format : BinaryFormat}

/-- Zero, with the given sign. -/
def zero (negative : Bool := false) : Binary format :=
  ⟨negative, 0, twoTo_pos _⟩

/-- Infinity, with the given sign. -/
def infinity (negative : Bool := false) : Binary format :=
  ⟨negative, format.infinity, format.infinity_lt_magnitudes⟩

/-- The answer of an operation that has none: a quiet not-a-number. The standard of binary formats
leaves its sign bit open. It is set here, as it is by processors of the x86-64 family. -/
def invalid : Binary format :=
  ⟨true, format.infinity + format.quietBit, format.infinity_add_quietBit_lt⟩

/-- The greatest finite number. -/
def greatest : Binary format :=
  ⟨false, format.infinity - 1, by have := format.infinity_lt_magnitudes; omega⟩

/-- The number with the given magnitude, or the infinity of that sign if the magnitude is beyond
it. -/
def ofMagnitude (negative : Bool) (magnitude : Nat) : Binary format :=
  ⟨negative, min magnitude format.infinity, by
    have := format.infinity_lt_magnitudes
    omega⟩

/-- The number whose encoding is `bits`: the sign bit stands above the magnitude. -/
def ofBits (bits : Nat) : Binary format :=
  ⟨bits / format.magnitudes % 2 = 1, bits % format.magnitudes, Nat.mod_lt _ (twoTo_pos _)⟩

/-- The encoding of a number. -/
def toBits (number : Binary format) : Nat :=
  (if number.negative then format.magnitudes else 0) + number.magnitude

/-- Reading back the encoding of a number gives the number. -/
theorem ofBits_toBits (number : Binary format) : ofBits number.toBits = number := by
  obtain ⟨negative, magnitude, bound⟩ := number
  have positive : 0 < format.magnitudes := Nat.lt_of_le_of_lt (Nat.zero_le _) bound
  cases negative <;>
    simp [ofBits, toBits, Nat.mod_eq_of_lt bound, Nat.div_eq_of_lt bound,
      Nat.add_div_left _ positive]

/-! ### What kind of number it is -/

def isNaN (number : Binary format) : Bool :=
  format.infinity < number.magnitude

def isInfinite (number : Binary format) : Bool :=
  number.magnitude = format.infinity

def isFinite (number : Binary format) : Bool :=
  number.magnitude < format.infinity

def isZero (number : Binary format) : Bool :=
  number.magnitude = 0

/-- The exact size of a number in units of the least positive one. -/
def units (number : Binary format) : Nat :=
  format.units number.magnitude

/-- The exact value of a finite number in units of the least positive one. -/
def signedUnits (number : Binary format) : Int :=
  if number.negative then -(number.units : Int) else number.units

/-- Whether a number is finite and has no fractional part. -/
def isIntegral (number : Binary format) : Bool :=
  number.isFinite && number.units % format.unitsInOne = 0

/-- The integer part of a finite number: what is left when its fractional part is dropped. -/
def truncated (number : Binary format) : Int :=
  let whole : Nat := number.units / format.unitsInOne
  if number.negative then -(whole : Int) else whole

/-- The number without its sign. -/
def abs (number : Binary format) : Binary format :=
  { number with negative := false }

/-- The number with the opposite sign. -/
def neg (number : Binary format) : Binary format :=
  { number with negative := !number.negative }

/-! ### Order -/

/-- Where a number that is not a not-a-number stands among the others. The two zeros stand in one
place. -/
def ordinal (number : Binary format) : Int :=
  if number.negative then -(number.magnitude : Int) else number.magnitude

/-- Numeric order. A not-a-number is not ordered with anything. -/
def compare? (left right : Binary format) : Option Ordering :=
  if left.isNaN || right.isNaN then none else some (compare left.ordinal right.ordinal)

/-- Numeric equality. A not-a-number equals nothing, and the two zeros are equal. -/
def numericEq (left right : Binary format) : Bool :=
  left.compare? right == some .eq

/-- Where a number stands in the total order of encodings: the negative ones backwards, then the
positive ones, each not-a-number beyond the infinity of its sign. -/
def rank (number : Binary format) : Int :=
  if number.negative then -(number.magnitude : Int) - 1 else number.magnitude

/-- The total order of encodings. -/
def totalCompare (left right : Binary format) : Ordering :=
  compare left.rank right.rank

/-- No two numbers have the same rank. -/
theorem rank_injective {left right : Binary format} (same : left.rank = right.rank) :
    left = right := by
  obtain ⟨leftNegative, leftMagnitude, leftBound⟩ := left
  obtain ⟨rightNegative, rightMagnitude, rightBound⟩ := right
  cases leftNegative <;> cases rightNegative <;> simp [rank] at same ⊢ <;> omega

/-- Only equal numbers are level in the total order. -/
theorem totalCompare_eq_iff {left right : Binary format} :
    left.totalCompare right = .eq ↔ left = right := by
  rw [totalCompare, Int.compare_eq_eq]
  exact ⟨rank_injective, congrArg rank⟩

end Binary

end RecordQuery.Number

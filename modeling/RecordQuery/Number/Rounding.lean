/-
This file rounds exact quotients to binary numbers, to the nearest one and on a tie to the one
with an even magnitude.

Every operation of `Number/Arithmetic.lean` and every decimal that is read comes down to
`Binary.ofQuotient`: the exact result is written as a quotient of two natural numbers, counted in
units of the format, and rounded once.
-/

import RecordQuery.Number.Binary

namespace RecordQuery.Number

/-- The natural number nearest to `numerator / denominator`, the even one on a tie. -/
def nearestEven (numerator denominator : Nat) : Nat :=
  let quotient := numerator / denominator
  let twice := 2 * (numerator % denominator)
  if twice < denominator then quotient
  else if denominator < twice then quotient + 1
  else quotient + quotient % 2

/-- A whole quotient needs no rounding. -/
theorem nearestEven_mul_left (quotient denominator : Nat) (positive : 0 < denominator) :
    nearestEven (denominator * quotient) denominator = quotient := by
  simp [nearestEven, Nat.mul_div_cancel_left _ positive, positive]

/-- Rounding moves a quotient by half at most. -/
theorem nearestEven_within_half (numerator denominator : Nat) (positive : 0 < denominator) :
    2 * numerator ≤ (2 * nearestEven numerator denominator + 1) * denominator ∧
      2 * nearestEven numerator denominator * denominator ≤ 2 * numerator + denominator := by
  have division := Nat.div_add_mod numerator denominator
  have remainder := Nat.mod_lt numerator positive
  generalize numerator / denominator = quotient at *
  generalize numerator % denominator = rest at *
  have parity : quotient % 2 = 0 ∨ quotient % 2 = 1 := Nat.mod_two_eq_zero_or_one quotient
  have scaled : numerator = quotient * denominator + rest := by rw [Nat.mul_comm, division]
  have rounded : nearestEven numerator denominator = quotient ∧ 2 * rest ≤ denominator ∨
      nearestEven numerator denominator = quotient + 1 ∧ denominator ≤ 2 * rest := by
    have quotientEq : numerator / denominator = quotient := by
      rw [scaled, Nat.mul_comm, Nat.mul_add_div positive, Nat.div_eq_of_lt remainder, Nat.add_zero]
    have restEq : numerator % denominator = rest := by
      rw [scaled, Nat.mul_comm, Nat.mul_add_mod, Nat.mod_eq_of_lt remainder]
    simp only [nearestEven, quotientEq, restEq]
    split
    · exact .inl ⟨rfl, by omega⟩
    · split
      · exact .inr ⟨rfl, by omega⟩
      · rcases parity with even | odd
        · exact .inl ⟨by omega, by omega⟩
        · exact .inr ⟨by omega, by omega⟩
  rcases rounded with ⟨value, low⟩ | ⟨value, high⟩ <;> rw [value, scaled]
  · constructor
    · rw [Nat.add_mul, Nat.mul_add, Nat.mul_assoc]; omega
    · rw [Nat.mul_add, Nat.mul_assoc]; omega
  · constructor
    · rw [Nat.add_mul, Nat.mul_add, Nat.mul_add, Nat.add_mul, Nat.mul_assoc]; omega
    · rw [Nat.mul_add, Nat.mul_add, Nat.add_mul, Nat.mul_assoc]; omega

namespace Binary

variable {format : BinaryFormat}

/-- The magnitude nearest to `numerator / denominator` units. The binade that holds the quotient
fixes how coarse the format is there; a quotient that rounds up out of its binade lands on the
first magnitude of the next one. -/
def magnitudeOfQuotient (format : BinaryFormat) (numerator denominator : Nat) : Nat :=
  let above := (numerator / denominator).log2 - format.fractionBits
  above * format.binade + nearestEven numerator (denominator * twoTo above)

/-- The number nearest to `numerator / denominator` units, infinity if it is too large. -/
def ofQuotient (negative : Bool) (numerator denominator : Nat) : Binary format :=
  ofMagnitude negative (magnitudeOfQuotient format numerator denominator)

/-- The number nearest to an integer. -/
def ofInt (value : Int) : Binary format :=
  ofQuotient (decide (value < 0)) (value.natAbs * format.unitsInOne) 1

/-- The number of another format that is nearest to a number. A not-a-number keeps its sign and as
many of its leading fraction bits as there is room for, and becomes quiet. -/
def convert {target : BinaryFormat} (number : Binary format) : Binary target :=
  if number.isNaN then
    let payload := (number.magnitude - format.infinity) * target.binade / format.binade
    let quiet := payload % target.quietBit + target.quietBit
    ⟨number.negative, target.infinity + quiet, by
      have sum := target.infinity_add_binade
      have half : 2 * target.quietBit = target.binade := by
        rw [BinaryFormat.quietBit, BinaryFormat.binade, Nat.mul_comm, ← twoTo_succ,
          Nat.sub_add_cancel target.fractionBits_pos]
      have positive : 0 < target.quietBit := twoTo_pos _
      have := Nat.mod_lt payload positive
      omega⟩
  else if number.isInfinite then infinity number.negative
  else ofQuotient number.negative (number.units * target.unitsInOne) format.unitsInOne

end Binary

end RecordQuery.Number

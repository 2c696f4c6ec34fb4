/-
This file proves that binary numbers are known by their values, and whole doubles by the words they
become.

A magnitude is a significand that is doubled some times, as few as its size allows, so no two
magnitudes have the same value. Whole doubles are turned into words exactly, with one exception:
the double that is one greater than the greatest word becomes that word. It is the only one to do
so. The greatest word is odd and has more bits than a significand, and so it is no double itself.
-/

import Mathlib.Algebra.Ring.Parity
import RecordQuery.Proofs.Rounding

namespace RecordQuery.Number

/-! ### Magnitudes and their values -/

namespace BinaryFormat

variable {format : BinaryFormat}

/-- Every magnitude is that of a significand that is doubled some times. A significand of fewer bits
is not doubled at all. -/
theorem exists_significand (format : BinaryFormat) (magnitude : Nat) :
    ∃ doublings significand, significand < 2 * format.binade ∧
      (doublings = 0 ∨ format.binade ≤ significand) ∧
      magnitude = doublings * format.binade + significand ∧
      format.units magnitude = significand * twoTo doublings := by
  have rest := Nat.mod_lt magnitude format.binade_pos
  by_cases small : magnitude < format.binade
  · refine ⟨0, magnitude, by omega, .inl rfl, by omega, ?_⟩
    simp [units, Nat.div_eq_of_lt small, Nat.mod_eq_of_lt small, twoTo]
  · obtain ⟨doublings, exponent⟩ := Nat.exists_eq_add_of_lt
      (Nat.div_pos (Nat.not_lt.mp small) format.binade_pos)
    have whole : magnitude =
        doublings * format.binade + (format.binade + magnitude % format.binade) := by
      have division := Nat.div_add_mod magnitude format.binade
      rw [exponent, Nat.zero_add, Nat.mul_succ, Nat.mul_comm] at division
      omega
    refine ⟨doublings, _, by omega, .inr (Nat.le_add_right _ _), whole, ?_⟩
    rw [← Binary.units_above format doublings (Nat.le_add_right _ _) (by omega), ← whole]

/-- A significand that is doubled more often is of greater value, if it has all its bits. -/
theorem mul_twoTo_lt {fewer more smaller larger : Nat} (lt : fewer < more)
    (bounded : smaller < 2 * format.binade) (enough : format.binade ≤ larger) :
    smaller * twoTo fewer < larger * twoTo more := by
  have doubled : 2 * twoTo fewer ≤ twoTo more := by
    rw [Nat.mul_comm, ← twoTo_succ]
    exact Nat.pow_le_pow_right (by decide) lt
  calc smaller * twoTo fewer
      < 2 * format.binade * twoTo fewer := Nat.mul_lt_mul_of_pos_right bounded (twoTo_pos fewer)
    _ = format.binade * (2 * twoTo fewer) := by rw [Nat.mul_comm 2, Nat.mul_assoc]
    _ ≤ larger * twoTo more := Nat.mul_le_mul enough doubled

/-- No two magnitudes have the same value. -/
theorem units_injective : Function.Injective format.units := by
  intro first second same
  obtain ⟨doublings, significand, bounded, least, rfl, value⟩ := format.exists_significand first
  obtain ⟨otherDoublings, otherSignificand, otherBounded, otherLeast, rfl, otherValue⟩ :=
    format.exists_significand second
  rw [value, otherValue] at same
  rcases Nat.lt_trichotomy doublings otherDoublings with less | rfl | more
  · have enough := otherLeast.resolve_left (Nat.ne_zero_of_lt less)
    exact absurd same (mul_twoTo_lt less bounded enough).ne
  · rw [Nat.eq_of_mul_eq_mul_right (twoTo_pos _) same]
  · have enough := least.resolve_left (Nat.ne_zero_of_lt more)
    exact absurd same (mul_twoTo_lt more otherBounded enough).ne'

/-- An odd number that is doubled some times can only be a value if it has no more bits than a
significand. -/
theorem lt_of_units_eq_odd_mul {magnitude odd doublings : Nat} (isOdd : Odd odd)
    (value : format.units magnitude = odd * twoTo doublings) : odd < 2 * format.binade := by
  obtain ⟨own, significand, bounded, _, _, ownValue⟩ := format.exists_significand magnitude
  rw [ownValue] at value
  rcases Nat.lt_or_ge doublings own with more | enough
  · obtain ⟨further, rfl⟩ := Nat.exists_eq_add_of_lt more
    rw [Nat.add_assoc, twoTo_add, twoTo_succ, Nat.mul_comm (twoTo doublings),
      ← Nat.mul_assoc] at value
    have even : significand * (twoTo further * 2) = odd :=
      Nat.eq_of_mul_eq_mul_right (twoTo_pos doublings) value
    rw [← even, ← Nat.mul_assoc] at isOdd
    exact absurd isOdd (Nat.not_odd_iff_even.mpr (even_two.mul_left _))
  · obtain ⟨further, rfl⟩ := Nat.exists_eq_add_of_le enough
    rw [twoTo_add, Nat.mul_comm (twoTo own), ← Nat.mul_assoc] at value
    rw [Nat.eq_of_mul_eq_mul_right (twoTo_pos own) value] at bounded
    exact (Nat.le_mul_of_pos_right odd (twoTo_pos further)).trans_lt bounded

end BinaryFormat

namespace Binary

variable {format : BinaryFormat} {left right number : Binary format}

/-! ### Numeric order and equality -/

theorem numericEq_iff : left.numericEq right = true ↔
    left.isNaN = false ∧ right.isNaN = false ∧ left.ordinal = right.ordinal := by
  unfold numericEq compare?
  cases left.isNaN <;> cases right.isNaN <;> simp

theorem compare?_swap (left right : Binary format) :
    left.compare? right = (right.compare? left).map Ordering.swap := by
  unfold compare?
  rw [Bool.or_comm]
  split
  · rfl
  · exact congrArg some Std.OrientedCmp.eq_swap

theorem numericEq_comm (left right : Binary format) :
    left.numericEq right = right.numericEq left := by
  unfold numericEq
  rw [compare?_swap]
  cases right.compare? left with
  | none => rfl
  | some order => cases order <;> rfl

/-- Numbers stand in one place if they are the same or both are zero. -/
theorem ordinal_eq_iff : left.ordinal = right.ordinal ↔
    left = right ∨ left.magnitude = 0 ∧ right.magnitude = 0 := by
  obtain ⟨leftNegative, leftMagnitude, leftBound⟩ := left
  obtain ⟨rightNegative, rightMagnitude, rightBound⟩ := right
  cases leftNegative <;> cases rightNegative <;> simp [ordinal] <;> omega

theorem units_eq_zero_iff : number.units = 0 ↔ number.magnitude = 0 := by
  have zero : format.units 0 = 0 := by simp [BinaryFormat.units]
  rw [units, ← BinaryFormat.units_injective.eq_iff (a := number.magnitude), zero]

/-- Numbers of one value stand in one place. -/
theorem ordinal_eq_of_signedUnits_eq (same : left.signedUnits = right.signedUnits) :
    left.ordinal = right.ordinal := by
  unfold signedUnits at same
  unfold ordinal
  have magnitudes : left.units = right.units → left.magnitude = right.magnitude :=
    fun units => BinaryFormat.units_injective units
  have leftZero : left.units = 0 ↔ left.magnitude = 0 := units_eq_zero_iff
  have rightZero : right.units = 0 ↔ right.magnitude = 0 := units_eq_zero_iff
  cases leftSign : left.negative <;> cases rightSign : right.negative <;>
    simp [leftSign, rightSign] at same ⊢ <;> omega

/-- A whole number is a number. -/
theorem isNaN_of_isIntegral (whole : number.isIntegral = true) : number.isNaN = false := by
  have finite : number.magnitude < format.infinity :=
    of_decide_eq_true (Bool.and_eq_true_iff.mp whole).1
  exact decide_eq_false finite.not_gt

/-- A whole number has no units besides those of its integer part. -/
theorem units_div_mul (whole : number.isIntegral = true) :
    number.units / format.unitsInOne * format.unitsInOne = number.units :=
  Nat.div_mul_cancel (Nat.dvd_of_mod_eq_zero
    (of_decide_eq_true (Bool.and_eq_true_iff.mp whole).2))

/-- The value of a whole number is its integer part. -/
theorem signedUnits_of_isIntegral (whole : number.isIntegral = true) :
    number.signedUnits = number.truncated * format.unitsInOne := by
  rw [signedUnits, ← units_div_mul whole, Int.natCast_mul]
  simp only [truncated]
  cases number.negative
  · rfl
  · exact (Int.neg_mul _ _).symm

theorem natAbs_truncated (number : Binary format) :
    number.truncated.natAbs = number.units / format.unitsInOne := by
  simp only [truncated]
  cases number.negative
  · rfl
  · exact Int.natAbs_neg _

/-- An odd number has no more bits than a significand. -/
theorem natAbs_truncated_lt (whole : number.isIntegral = true)
    (isOdd : Odd number.truncated.natAbs) : number.truncated.natAbs < 2 * format.binade := by
  rw [natAbs_truncated] at isOdd ⊢
  exact BinaryFormat.lt_of_units_eq_odd_mul isOdd (units_div_mul whole).symm

/-- Whether a number is whole and what its integer part is hang on its place alone. -/
theorem isIntegral_and_truncated_congr (level : left.ordinal = right.ordinal) :
    left.isIntegral = right.isIntegral ∧ left.truncated = right.truncated := by
  rcases ordinal_eq_iff.mp level with rfl | ⟨leftZero, rightZero⟩
  · exact ⟨rfl, rfl⟩
  · have leftUnits := units_eq_zero_iff.mpr leftZero
    have rightUnits := units_eq_zero_iff.mpr rightZero
    simp [isIntegral, isFinite, truncated, leftZero, rightZero, leftUnits, rightUnits]

end Binary

/-! ### Doubles and words -/

theorem wordOfDouble?_eq_some_iff {number : Double} {word : Int64} :
    wordOfDouble? number = some word ↔
      number.isIntegral = true ∧ -9223372036854775808 ≤ number.truncated ∧
        number.truncated ≤ 9223372036854775808 ∧
        Int64.ofInt (min number.truncated Int64.maxValue.toInt) = word := by
  simp [wordOfDouble?, and_assoc]

/-- The greatest word is no double. -/
theorem truncated_ne_maxValue {number : Double} (whole : number.isIntegral = true) :
    number.truncated ≠ Int64.maxValue.toInt := by
  intro greatest
  have isOdd : Odd number.truncated.natAbs := by
    rw [greatest]
    decide
  have small := Binary.natAbs_truncated_lt whole isOdd
  rw [greatest] at small
  exact absurd small (by decide)

theorem wordOfDouble?_congr {left right : Double} (level : left.ordinal = right.ordinal) :
    wordOfDouble? left = wordOfDouble? right := by
  obtain ⟨whole, part⟩ := Binary.isIntegral_and_truncated_congr level
  rw [wordOfDouble?, wordOfDouble?, whole, part]

/-- Doubles that become one word stand in one place. -/
theorem ordinal_eq_of_wordOfDouble? {left right : Double} {word : Int64}
    (leftWord : wordOfDouble? left = some word) (rightWord : wordOfDouble? right = some word) :
    left.ordinal = right.ordinal := by
  obtain ⟨leftWhole, leftLow, leftHigh, leftSame⟩ := wordOfDouble?_eq_some_iff.mp leftWord
  obtain ⟨rightWhole, rightLow, rightHigh, rightSame⟩ := wordOfDouble?_eq_some_iff.mp rightWord
  have part : left.truncated = right.truncated := by
    have leftApart := truncated_ne_maxValue leftWhole
    have rightApart := truncated_ne_maxValue rightWhole
    have same := congrArg Int64.toInt (leftSame.trans rightSame.symm)
    have greatest : Int64.maxValue.toInt = 9223372036854775807 := rfl
    rw [Int64.toInt_ofInt_of_le, Int64.toInt_ofInt_of_le] at same
    all_goals omega
  apply Binary.ordinal_eq_of_signedUnits_eq
  rw [Binary.signedUnits_of_isIntegral leftWhole, Binary.signedUnits_of_isIntegral rightWhole, part]

/-- Both zeros become the word zero. -/
theorem wordOfDouble?_of_magnitude_eq_zero {number : Double} (zero : number.magnitude = 0) :
    wordOfDouble? number = some 0 := by
  have none : number.units = 0 := Binary.units_eq_zero_iff.mpr zero
  have whole : number.isIntegral = true := by
    simp [Binary.isIntegral, Binary.isFinite, zero, none]
    decide
  have part : number.truncated = 0 := by simp [Binary.truncated, none]
  refine wordOfDouble?_eq_some_iff.mpr ⟨whole, ?_, ?_, ?_⟩
  all_goals rw [part]; decide

end RecordQuery.Number

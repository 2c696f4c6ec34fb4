/-
This file says how far rounding moves a quotient, and what that makes of a division of integers.

The value of a magnitude grows with it, so that comparing values and comparing magnitudes come to
the same. A quotient is moved by half a step at most, and below it there are at least as many of
these steps as a binade has significands. So its relative error is at most one part in as many as
two binades have. That is too little to lift a quotient of integers over the next whole number, as
long as the dividend has no more bits than a significand: dividing two such integers and dropping
the fraction is the integer division.
-/

import RecordQuery.Proofs.WholeNumbers

namespace RecordQuery.Number

/-! ### Scaling -/

/-- A quotient is rounded in the same way, however it is written. -/
theorem nearestEven_mul_mul (numerator denominator : Nat) {factor : Nat} (positive : 0 < factor) :
    nearestEven (numerator * factor) (denominator * factor) =
      nearestEven numerator denominator := by
  unfold nearestEven
  have twice : 2 * (numerator * factor % (denominator * factor)) =
      2 * (numerator % denominator) * factor := by
    rw [Nat.mul_mod_mul_right, Nat.mul_assoc]
  simp only [twice, Nat.mul_div_mul_right _ _ positive, Nat.mul_lt_mul_right positive]

namespace BinaryFormat

variable {format : BinaryFormat}

/-! ### The order of magnitudes -/

/-- Greater magnitudes have greater values. -/
theorem units_strictMono (format : BinaryFormat) : StrictMono format.units := by
  intro smaller larger lt
  obtain ⟨doublings, significand, bounded, least, rfl, value⟩ := format.exists_significand smaller
  obtain ⟨otherDoublings, otherSignificand, otherBounded, otherLeast, rfl, otherValue⟩ :=
    format.exists_significand larger
  rw [value, otherValue]
  rcases Nat.lt_trichotomy doublings otherDoublings with less | rfl | more
  · exact mul_twoTo_lt less bounded (otherLeast.resolve_left (Nat.ne_zero_of_lt less))
  · exact Nat.mul_lt_mul_of_pos_right (Nat.lt_of_add_lt_add_left lt) (twoTo_pos doublings)
  · have enough := least.resolve_left (Nat.ne_zero_of_lt more)
    have binades := Nat.mul_le_mul_right format.binade more
    rw [Nat.succ_mul] at binades
    omega

/-- The value of a magnitude that is at most one binade beyond its own. -/
theorem units_mul_binade_add (format : BinaryFormat) {coarseness significand : Nat}
    (enough : coarseness = 0 ∨ format.binade ≤ significand)
    (bounded : significand ≤ 2 * format.binade) :
    format.units (coarseness * format.binade + significand) =
      significand * twoTo coarseness := by
  rcases Nat.eq_or_lt_of_le bounded with rfl | less
  · have next : coarseness * format.binade + 2 * format.binade =
        (coarseness + 1) * format.binade + format.binade := by
      rw [Nat.add_mul, Nat.one_mul, Nat.add_assoc, ← Nat.two_mul]
    have within : format.binade < 2 * format.binade := by
      have := format.binade_pos
      omega
    rw [next, Binary.units_above format (coarseness + 1) (Nat.le_refl _) within, twoTo_succ,
      Nat.mul_comm 2, Nat.mul_assoc, Nat.mul_comm 2]
  · by_cases reached : format.binade ≤ significand
    · exact Binary.units_above format coarseness reached less
    · obtain rfl := enough.resolve_right reached
      have small := Nat.not_le.mp reached
      rw [Nat.zero_mul, Nat.zero_add]
      simp [units, Nat.div_eq_of_lt small, Nat.mod_eq_of_lt small, twoTo]

end BinaryFormat

namespace Binary

variable {format : BinaryFormat} {numerator denominator otherNumerator otherDenominator : Nat}

theorem magnitudeOfQuotient_mul_mul (format : BinaryFormat) (numerator denominator : Nat)
    {factor : Nat} (positive : 0 < factor) :
    magnitudeOfQuotient format (numerator * factor) (denominator * factor) =
      magnitudeOfQuotient format numerator denominator := by
  unfold magnitudeOfQuotient
  rw [Nat.mul_div_mul_right _ _ positive]
  simp only [Nat.mul_right_comm denominator factor, nearestEven_mul_mul _ _ positive]

/-- Of two quotients the greater one never has the smaller magnitude, however they are written. -/
theorem magnitudeOfQuotient_le_of_cross (positive : 0 < denominator)
    (otherPositive : 0 < otherDenominator)
    (le : numerator * otherDenominator ≤ otherNumerator * denominator) :
    magnitudeOfQuotient format numerator denominator ≤
      magnitudeOfQuotient format otherNumerator otherDenominator := by
  rw [← magnitudeOfQuotient_mul_mul format numerator denominator otherPositive,
    ← magnitudeOfQuotient_mul_mul format otherNumerator otherDenominator positive,
    Nat.mul_comm otherDenominator]
  exact magnitudeOfQuotient_mono (Nat.mul_pos positive otherPositive) le

/-! ### The error of rounding -/

/-- The value of a rounded quotient is a whole number of the steps around it. -/
theorem units_magnitudeOfQuotient_eq (format : BinaryFormat) (numerator : Nat)
    (positive : 0 < denominator) :
    format.units (magnitudeOfQuotient format numerator denominator) =
      nearestEven numerator (stepAt format numerator denominator) *
        twoTo (coarseness format numerator denominator) := by
  rw [magnitudeOfQuotient_eq]
  refine format.units_mul_binade_add ?_ (nearestEven_stepAt_le format numerator positive)
  exact (Nat.eq_zero_or_pos _).imp_right (binade_le_nearestEven_stepAt positive)

/-- A quotient is rounded by one part in as many as two binades have significands, or it lies in the
first two binades. -/
theorem units_magnitudeOfQuotient_le (format : BinaryFormat) (numerator : Nat)
    (positive : 0 < denominator) :
    2 * format.binade * (format.units (magnitudeOfQuotient format numerator denominator) *
        denominator) ≤ (2 * format.binade + 1) * numerator ∨
      format.units (magnitudeOfQuotient format numerator denominator) ≤ 2 * format.binade := by
  have value := units_magnitudeOfQuotient_eq format numerator positive
  rcases Nat.eq_zero_or_pos (coarseness format numerator denominator) with fine | coarse
  · right
    rw [value, fine]
    exact (Nat.mul_one _).trans_le (nearestEven_stepAt_le format numerator positive)
  · left
    have step := stepAt_pos format numerator positive
    obtain ⟨_, high⟩ := nearestEven_within_half numerator _ step
    have steps := mul_binade_le positive coarse
    have scaled : format.units (magnitudeOfQuotient format numerator denominator) * denominator =
        nearestEven numerator (stepAt format numerator denominator) *
          stepAt format numerator denominator := by
      rw [value, stepAt, Nat.mul_assoc, Nat.mul_comm denominator]
    rw [scaled]
    generalize stepAt format numerator denominator = size at *
    calc 2 * format.binade * (nearestEven numerator size * size)
        = format.binade * (2 * nearestEven numerator size * size) := by
          rw [Nat.mul_comm 2, Nat.mul_assoc, ← Nat.mul_assoc 2]
      _ ≤ format.binade * (2 * numerator + size) := Nat.mul_le_mul_left _ high
      _ = 2 * format.binade * numerator + size * format.binade := by
          rw [Nat.mul_add, Nat.mul_left_comm, Nat.mul_assoc, Nat.mul_comm size]
      _ ≤ 2 * format.binade * numerator + numerator := Nat.add_le_add_left steps _
      _ = (2 * format.binade + 1) * numerator := (Nat.succ_mul _ _).symm

/-! ### Quotients of integers -/

/-- Integers that are not too great are doubles. -/
theorem units_magnitudeOfQuotient_unitsInOne {size : Nat}
    (bounded : size ≤ 2 * BinaryFormat.double.binade) :
    BinaryFormat.double.units
        (magnitudeOfQuotient .double (size * BinaryFormat.double.unitsInOne) 1) =
      size * BinaryFormat.double.unitsInOne :=
  units_magnitudeOfQuotient (twoTo_coarseness_dvd bounded _)

/-- Rounding does not lower a quotient of integers beneath the last whole number, which is a double
itself. -/
theorem le_units_of_integers {size count : Nat} (positive : 0 < count)
    (bounded : size < 2 * BinaryFormat.double.binade) :
    size / count * BinaryFormat.double.unitsInOne ≤ BinaryFormat.double.units
      (magnitudeOfQuotient .double (size * BinaryFormat.double.unitsInOne) count) := by
  have wholeBounded : size / count ≤ 2 * BinaryFormat.double.binade :=
    (Nat.div_le_self size count).trans bounded.le
  rw [← units_magnitudeOfQuotient_unitsInOne wholeBounded]
  refine (BinaryFormat.units_strictMono _).monotone
    (magnitudeOfQuotient_le_of_cross Nat.one_pos positive ?_)
  rw [Nat.mul_one, Nat.mul_right_comm]
  exact Nat.mul_le_mul_right _ (Nat.div_mul_le_self size count)

/-- Rounding does not lift a quotient of integers over the next whole number, for the error is too
small. -/
theorem units_of_integers_lt {size count : Nat} (positive : 0 < count)
    (bounded : size < 2 * BinaryFormat.double.binade) :
    BinaryFormat.double.units
        (magnitudeOfQuotient .double (size * BinaryFormat.double.unitsInOne) count) <
      (size / count + 1) * BinaryFormat.double.unitsInOne := by
  by_contra lifted
  have reached := Nat.not_lt.mp lifted
  rcases units_magnitudeOfQuotient_le .double (size * BinaryFormat.double.unitsInOne) positive
    with near | small
  · have next : size + 1 ≤ (size / count + 1) * count :=
      (Nat.div_lt_iff_lt_mul positive).mp (Nat.lt_succ_self (size / count))
    generalize 2 * BinaryFormat.double.binade = steps at bounded near
    have scaled : steps * (size + 1) * BinaryFormat.double.unitsInOne ≤
        (steps + 1) * size * BinaryFormat.double.unitsInOne := by
      calc steps * (size + 1) * BinaryFormat.double.unitsInOne
          ≤ steps * ((size / count + 1) * count) * BinaryFormat.double.unitsInOne :=
            Nat.mul_le_mul_right _ (Nat.mul_le_mul_left _ next)
        _ = steps * ((size / count + 1) * BinaryFormat.double.unitsInOne * count) := by
            rw [Nat.mul_assoc, Nat.mul_right_comm (size / count + 1)]
        _ ≤ steps * (BinaryFormat.double.units (magnitudeOfQuotient .double
              (size * BinaryFormat.double.unitsInOne) count) * count) :=
            Nat.mul_le_mul_left _ (Nat.mul_le_mul_right _ reached)
        _ ≤ (steps + 1) * (size * BinaryFormat.double.unitsInOne) := near
        _ = (steps + 1) * size * BinaryFormat.double.unitsInOne := (Nat.mul_assoc ..).symm
    have cancelled := Nat.le_of_mul_le_mul_right scaled BinaryFormat.double.unitsInOne_pos
    rw [Nat.mul_succ, Nat.succ_mul] at cancelled
    exact absurd bounded (Nat.not_lt.mpr (Nat.le_of_add_le_add_left cancelled))
  · have tiny : 2 * BinaryFormat.double.binade < BinaryFormat.double.unitsInOne := by
      decide +kernel
    have whole : BinaryFormat.double.unitsInOne ≤
        (size / count + 1) * BinaryFormat.double.unitsInOne :=
      Nat.le_mul_of_pos_left _ (Nat.succ_pos _)
    exact absurd (whole.trans (reached.trans small)) (Nat.not_le.mpr tiny)

/-- So the whole part of a quotient of integers is that of the integer division. -/
theorem units_of_integers_div {size count : Nat} (positive : 0 < count)
    (bounded : size < 2 * BinaryFormat.double.binade) :
    BinaryFormat.double.units
        (magnitudeOfQuotient .double (size * BinaryFormat.double.unitsInOne) count) /
      BinaryFormat.double.unitsInOne = size / count :=
  Nat.div_eq_of_lt_le (le_units_of_integers positive bounded)
    (units_of_integers_lt positive bounded)

end Binary

end RecordQuery.Number

/-
This file proves where operations on binary numbers round nothing.

A finite number is its own value, rounded. So an operation gives its exact result if that is a
number of the format: the count of no more things than a significand can tell apart, the product
with one, the sum with zero, and every single-precision number in double precision. A quotient of
counts is then rounded only once. What is not a number stays so in all of these.
-/

import RecordQuery.Number.Arithmetic
import RecordQuery.Proofs.Exactness

namespace RecordQuery.Number.Binary

variable {format target : BinaryFormat} {number left right : Binary format}

/-! ### Numbers among the results -/

theorem isNaN_ofMagnitude (format : BinaryFormat) (negative : Bool) (magnitude : Nat) :
    (ofMagnitude negative magnitude : Binary format).isNaN = false :=
  decide_eq_false (Nat.min_le_right _ _).not_gt

/-- Rounding always gives a number. -/
theorem isNaN_ofQuotient (format : BinaryFormat) (negative : Bool) (numerator denominator : Nat) :
    (ofQuotient negative numerator denominator : Binary format).isNaN = false :=
  isNaN_ofMagnitude format negative _

theorem isNaN_zero (format : BinaryFormat) (negative : Bool) :
    (zero negative : Binary format).isNaN = false :=
  decide_eq_false (Nat.not_lt_zero _)

theorem isNaN_infinity (format : BinaryFormat) (negative : Bool) :
    (infinity negative : Binary format).isNaN = false :=
  decide_eq_false (Nat.lt_irrefl _)

/-- Numbers are finite or infinite. -/
theorem isFinite_of_isNaN_of_isInfinite (isNumber : number.isNaN = false)
    (bounded : number.isInfinite = false) : number.isFinite = true :=
  decide_eq_true (Nat.lt_of_le_of_ne (Nat.not_lt.mp (of_decide_eq_false isNumber))
    (of_decide_eq_false bounded))

theorem eq_of_negative_of_magnitude (signs : left.negative = right.negative)
    (magnitudes : left.magnitude = right.magnitude) : left = right := by
  obtain ⟨leftNegative, leftMagnitude, leftBound⟩ := left
  obtain ⟨rightNegative, rightMagnitude, rightBound⟩ := right
  obtain rfl : leftNegative = rightNegative := signs
  obtain rfl : leftMagnitude = rightMagnitude := magnitudes
  rfl

/-- A finite number is its own value, rounded. -/
theorem ofQuotient_units (finite : number.isFinite = true) :
    ofQuotient number.negative number.units 1 = number := by
  have below : number.magnitude < format.infinity := of_decide_eq_true finite
  refine eq_of_negative_of_magnitude rfl ?_
  show min (magnitudeOfQuotient format (format.units number.magnitude) 1) format.infinity = _
  rw [magnitudeOfQuotient_units, Nat.min_eq_left below.le]

/-- It does not matter in which fraction of units the value is written. -/
theorem ofQuotient_units_mul (finite : number.isFinite = true) {factor : Nat}
    (positive : 0 < factor) :
    ofQuotient number.negative (number.units * factor) factor = number := by
  have rescaled := magnitudeOfQuotient_mul_mul format number.units 1 positive
  rw [Nat.one_mul] at rescaled
  rw [ofQuotient, rescaled]
  exact ofQuotient_units finite

/-! ### Counts -/

section Counts

variable {size count : Nat}
  (room : 2 * format.binade * format.unitsInOne < format.units format.infinity)
include room

theorem units_magnitudeOfQuotient_count (bounded : count ≤ 2 * format.binade) :
    format.units (magnitudeOfQuotient format (count * format.unitsInOne) 1) =
        count * format.unitsInOne ∧
      count * format.unitsInOne < format.units format.infinity :=
  ⟨units_magnitudeOfQuotient (twoTo_coarseness_dvd bounded _),
    (Nat.mul_le_mul_right _ bounded).trans_lt room⟩

/-- A count that is not too great is a number of the format. -/
theorem units_ofInt_count (bounded : count ≤ 2 * format.binade) :
    (ofInt count : Binary format).units = count * format.unitsInOne := by
  obtain ⟨value, below⟩ := units_magnitudeOfQuotient_count room bounded
  rw [← value] at below
  exact (units_ofQuotient below).trans value

theorem isFinite_ofInt_count (bounded : count ≤ 2 * format.binade) :
    (ofInt count : Binary format).isFinite = true := by
  rw [isFinite_iff_units_lt, units_ofInt_count room bounded]
  exact (units_magnitudeOfQuotient_count room bounded).2

/-- The quotient of two counts is their ratio, rounded once. -/
theorem ofInt_div_ofInt (sizeBounded : size ≤ 2 * format.binade)
    (countBounded : count ≤ 2 * format.binade) (positive : 0 < count) :
    (ofInt size / ofInt count : Binary format) =
      ofQuotient false (size * format.unitsInOne) count := by
  have divisor := units_ofInt_count room countBounded
  have notZero : (ofInt count : Binary format).units ≠ 0 := by
    rw [divisor]
    exact (Nat.mul_pos positive format.unitsInOne_pos).ne'
  rw [div_of_isFinite (isFinite_ofInt_count room sizeBounded)
    (isFinite_ofInt_count room countBounded) notZero, divisor, units_ofInt_count room sizeBounded]
  exact congrArg (ofMagnitude false)
    (magnitudeOfQuotient_mul_mul format _ count format.unitsInOne_pos)

end Counts

/-- Single precision has room for all counts up to two to the power of twenty-four. -/
theorem single_room : 2 * BinaryFormat.single.binade * BinaryFormat.single.unitsInOne <
    BinaryFormat.single.units BinaryFormat.single.infinity := by
  decide +kernel

/-! ### One and zero -/

theorem isZero_one : (1 : Single).isZero = false := by
  decide +kernel

theorem units_one : (1 : Single).units = BinaryFormat.single.unitsInOne := by
  decide +kernel

/-- One times a number is that number. -/
theorem one_mul_of_isNaN {number : Single} (isNumber : number.isNaN = false) :
    1 * number = number := by
  change (1 : Single).mul number = number
  have one : (1 : Single).isNaN = false ∧ (1 : Single).isInfinite = false ∧
      (1 : Single).negative = false := by
    decide +kernel
  obtain ⟨isNumberToo, finite, positive⟩ := one
  unfold mul
  simp only [isNumberToo, isNumber, finite, positive, isZero_one, Bool.false_eq_true, if_false,
    Bool.false_or, Bool.false_bne]
  cases infinite : number.isInfinite with
  | true =>
    have notZero : number.isZero = false := by
      rw [isZero, of_decide_eq_true infinite]
      exact decide_eq_false (infinity_pos .single).ne'
    simp only [notZero, Bool.false_eq_true, if_true, if_false]
    exact eq_of_negative_of_magnitude rfl (of_decide_eq_true infinite).symm
  | false =>
    have bounded := isFinite_of_isNaN_of_isInfinite isNumber infinite
    rw [if_neg Bool.false_ne_true, units_one, Nat.mul_comm]
    exact ofQuotient_units_mul bounded BinaryFormat.single.unitsInOne_pos

/-- The value of a number has its sign, unless it is zero. -/
theorem decide_signedUnits_neg (notZero : number.signedUnits ≠ 0) :
    decide (number.signedUnits < 0) = number.negative := by
  unfold signedUnits at notZero ⊢
  cases sign : number.negative with
  | true =>
    rw [sign, if_pos rfl] at notZero
    rw [if_pos rfl]
    exact decide_eq_true (by omega)
  | false =>
    exact decide_eq_false (Int.not_lt.mpr (Int.natCast_nonneg _))

theorem isNaN_of_magnitude_eq_zero (isZero : number.magnitude = 0) : number.isNaN = false :=
  decide_eq_false (by omega)

theorem isInfinite_of_magnitude_eq_zero (isZero : number.magnitude = 0) :
    number.isInfinite = false :=
  decide_eq_false (isZero.trans_ne (infinity_pos format).ne)

theorem isFinite_of_magnitude_eq_zero (isZero : number.magnitude = 0) : number.isFinite = true :=
  isFinite_of_isNaN_of_isInfinite (isNaN_of_magnitude_eq_zero isZero)
    (isInfinite_of_magnitude_eq_zero isZero)

theorem signedUnits_of_magnitude_eq_zero (isZero : number.magnitude = 0) :
    number.signedUnits = 0 := by
  rw [← Int.natAbs_eq_zero, natAbs_signedUnits]
  exact units_eq_zero_iff.mpr isZero

/-- A sum that comes to the value of a number is that number, unless it is the negative zero. -/
theorem rounded_signedUnits (finite : number.isFinite = true)
    (notNegativeZero : number.negative = true → number.magnitude ≠ 0) (negative : Bool) :
    (if number.signedUnits = 0 then zero (number.negative && negative)
      else ofQuotient (decide (number.signedUnits < 0)) number.signedUnits.natAbs 1) = number := by
  by_cases none : number.signedUnits = 0
  · have magnitude : number.magnitude = 0 := by
      rw [← units_eq_zero_iff, ← natAbs_signedUnits, none]
      rfl
    have positive : number.negative = false :=
      Bool.eq_false_of_not_eq_true fun negative => notNegativeZero negative magnitude
    rw [if_pos none, positive]
    exact eq_of_negative_of_magnitude positive.symm magnitude.symm
  · rw [if_neg none, natAbs_signedUnits, decide_signedUnits_neg none]
    exact ofQuotient_units finite

/-- Zero added to a number changes nothing, unless the number is the negative zero. -/
theorem zero_add_of_isNaN {number : Binary format} (isNumber : number.isNaN = false)
    (notNegativeZero : number.negative = true → number.magnitude ≠ 0) :
    zero + number = number := by
  have nothing : (zero : Binary format).magnitude = 0 := rfl
  cases infinite : number.isInfinite with
  | true =>
    change zero.add number = number
    simp only [add, isNaN_zero, isNumber, isInfinite_of_magnitude_eq_zero nothing, infinite,
      Bool.false_eq_true, if_true, if_false]
  | false =>
    have finite := isFinite_of_isNaN_of_isInfinite isNumber infinite
    rw [add_of_isFinite (isFinite_of_magnitude_eq_zero nothing) finite,
      signedUnits_of_magnitude_eq_zero nothing, Int.zero_add, Bool.and_comm]
    exact rounded_signedUnits finite notNegativeZero _

/-! ### From single to double precision -/

theorem negative_convert (number : Binary format) :
    (number.convert : Binary target).negative = number.negative := by
  unfold convert
  split
  · rfl
  · split <;> rfl

/-- What is not a number is not one in another format either. -/
theorem isNaN_convert (number : Binary format) :
    (number.convert : Binary target).isNaN = number.isNaN := by
  unfold convert
  split
  · rename_i notNumber
    have quiet : 0 < target.quietBit := twoTo_pos _
    rw [notNumber]
    refine decide_eq_true ?_
    show target.infinity < target.infinity + (_ + target.quietBit)
    omega
  · rename_i isNumber
    rw [Bool.eq_false_of_not_eq_true isNumber]
    split
    · exact isNaN_infinity target _
    · exact isNaN_ofQuotient target _ _ _

theorem isNaN_quieted (number : Binary format) : number.quieted.isNaN = number.isNaN := by
  unfold quieted
  split
  · exact isNaN_convert number
  · rfl

/-- What is not a number on the right is not one in a sum. -/
theorem isNaN_add_of_right (notNumber : right.isNaN = true) : (left + right).isNaN = true := by
  change (left.add right).isNaN = true
  unfold add
  split
  · rename_i leftNotNumber
    exact (isNaN_quieted left).trans leftNotNumber
  · exact (isNaN_quieted right).trans notNumber

/-- What is not a number on the right is not one in a product. -/
theorem isNaN_mul_of_right (notNumber : right.isNaN = true) : (left * right).isNaN = true := by
  change (left.mul right).isNaN = true
  unfold mul
  dsimp only
  split
  · rename_i leftNotNumber
    exact (isNaN_quieted left).trans leftNotNumber
  · exact (isNaN_quieted right).trans notNumber

/-- How many doublings the least single-precision number is greater than the least double-precision
one. -/
theorem unitsInOne_double :
    BinaryFormat.double.unitsInOne = BinaryFormat.single.unitsInOne * twoTo 925 := by
  decide +kernel

/-- A finite single-precision number is a double. -/
theorem units_convert {number : Single} (finite : number.isFinite = true) :
    (number.convert : Double).units = number.units * twoTo 925 ∧
      (number.convert : Double).isFinite = true := by
  obtain ⟨doublings, significand, bounded, _, _, value⟩ :=
    BinaryFormat.single.exists_significand number.magnitude
  have wide : significand ≤ 2 * BinaryFormat.double.binade :=
    bounded.le.trans (by decide)
  have exact : BinaryFormat.double.units (magnitudeOfQuotient .double
      (number.units * twoTo 925) 1) = number.units * twoTo 925 := by
    refine units_magnitudeOfQuotient ?_
    rw [units, value, Nat.mul_assoc, ← twoTo_add]
    exact twoTo_coarseness_dvd wide _
  have below : number.units * twoTo 925 <
      BinaryFormat.double.units BinaryFormat.double.infinity := by
    refine (Nat.mul_lt_mul_of_pos_right (isFinite_iff_units_lt.mp finite) (twoTo_pos _)).trans_le ?_
    decide +kernel
  have rescaled : (number.convert : Double) =
      ofQuotient number.negative (number.units * twoTo 925) 1 := by
    have same := magnitudeOfQuotient_mul_mul .double (number.units * twoTo 925) 1
      BinaryFormat.single.unitsInOne_pos
    rw [Nat.one_mul, Nat.mul_right_comm, Nat.mul_assoc, ← unitsInOne_double] at same
    unfold convert
    rw [isNaN_of_isFinite finite, isInfinite_of_isFinite finite]
    exact congrArg (ofMagnitude number.negative) same
  have units : (number.convert : Double).units = number.units * twoTo 925 := by
    rw [← exact] at below
    rw [rescaled, units_ofQuotient below, exact]
  refine ⟨units, isFinite_iff_units_lt.mpr ?_⟩
  rwa [units]

/-- Every single-precision number is a double. -/
theorem exact_convert {number : Single} (isNumber : number.isNaN = false) :
    (number.convert : Double).exact = number.exact := by
  cases infinite : number.isInfinite with
  | true =>
    have same : (number.convert : Double) = infinity number.negative := by
      unfold convert
      rw [isNumber, infinite]
      rfl
    rw [same, exact, exact, infinite]
    rfl
  | false =>
    have bounded := isFinite_of_isNaN_of_isInfinite isNumber infinite
    obtain ⟨units, finite⟩ := units_convert bounded
    have value : (number.convert : Double).signedUnits =
        number.signedUnits * (twoTo 925 : Nat) := by
      rw [signedUnits, signedUnits, negative_convert, units, Int.natCast_mul]
      split
      · exact (Int.neg_mul _ _).symm
      · rfl
    have factor : ((twoTo 925 : Nat) : ℚ) ≠ 0 := Nat.cast_ne_zero.mpr (twoTo_pos _).ne'
    rw [exact, exact, infinite, isInfinite_of_isFinite finite, value, unitsInOne_double]
    push_cast
    rw [mul_div_mul_right _ _ factor]

end RecordQuery.Number.Binary

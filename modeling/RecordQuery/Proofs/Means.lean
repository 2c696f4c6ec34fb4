/-
This file says what doubles come to that are added one after the other and divided by their number.

Words are too small to take a sum of doubles to infinity: once the sum is great enough, they are
lost in rounding, however many there are. So there is always a mean. And as long as no sum on the way
has more bits than a significand, nothing is rounded before the division, and the mean without its
fraction is that of the integers.
-/

import Mathlib.Algebra.BigOperators.Group.List.Basic
import Mathlib.Algebra.Ring.Int.Defs
import Mathlib.Data.List.Induction
import RecordQuery.Proofs.Quotients

namespace RecordQuery.Number

namespace Binary

variable {format : BinaryFormat} {number : Binary format}

/-! ### Finite numbers -/

theorem isNaN_of_isFinite (finite : number.isFinite = true) : number.isNaN = false :=
  decide_eq_false (of_decide_eq_true finite).not_gt

theorem isInfinite_of_isFinite (finite : number.isFinite = true) : number.isInfinite = false :=
  decide_eq_false (of_decide_eq_true finite).ne

theorem isFinite_iff_units_lt :
    number.isFinite = true ↔ number.units < format.units format.infinity :=
  decide_eq_true_iff.trans (format.units_strictMono.lt_iff_lt).symm

theorem natAbs_signedUnits (number : Binary format) : number.signedUnits.natAbs = number.units := by
  unfold signedUnits
  split
  · exact Int.natAbs_neg _
  · rfl

theorem units_ofQuotient_le (format : BinaryFormat) (negative : Bool)
    (numerator denominator : Nat) :
    (ofQuotient negative numerator denominator : Binary format).units ≤
      format.units (magnitudeOfQuotient format numerator denominator) :=
  format.units_strictMono.monotone (Nat.min_le_left _ _)

/-- A quotient that is rounded to a finite number is not held to infinity. -/
theorem units_ofQuotient {negative : Bool} {numerator denominator : Nat}
    (finite : format.units (magnitudeOfQuotient format numerator denominator) <
      format.units format.infinity) :
    (ofQuotient negative numerator denominator : Binary format).units =
      format.units (magnitudeOfQuotient format numerator denominator) :=
  congrArg format.units (Nat.min_eq_left (format.units_strictMono.lt_iff_lt.mp finite).le)

/-- An integer is never rounded beyond infinity. -/
theorem isFinite_or_isInfinite_ofInt (format : BinaryFormat) (value : Int) :
    (ofInt value : Binary format).isFinite = true ∨
      (ofInt value : Binary format).isInfinite = true :=
  (Nat.lt_or_eq_of_le (Nat.min_le_right _ _)).imp decide_eq_true decide_eq_true

/-- The sum of two finite numbers is their exact sum, rounded once. -/
theorem add_of_isFinite {left right : Binary format} (leftFinite : left.isFinite = true)
    (rightFinite : right.isFinite = true) :
    left + right =
      if left.signedUnits + right.signedUnits = 0 then zero (left.negative && right.negative)
      else ofQuotient (decide (left.signedUnits + right.signedUnits < 0))
        (left.signedUnits + right.signedUnits).natAbs 1 := by
  change left.add right = _
  unfold add
  simp only [isNaN_of_isFinite leftFinite, isNaN_of_isFinite rightFinite,
    isInfinite_of_isFinite leftFinite, isInfinite_of_isFinite rightFinite, Bool.false_eq_true,
    if_false]

/-- Numbers that are finite are divided by rounding their exact quotient, if the divisor is not
zero. -/
theorem div_of_isFinite {left right : Binary format} (leftFinite : left.isFinite = true)
    (rightFinite : right.isFinite = true) (notZero : right.units ≠ 0) :
    left / right = ofQuotient (left.negative != right.negative) (left.units * format.unitsInOne)
      right.units := by
  have apart : right.isZero = false :=
    decide_eq_false fun zero => notZero (units_eq_zero_iff.mpr zero)
  change left.div right = _
  unfold div
  simp only [isNaN_of_isFinite leftFinite, isNaN_of_isFinite rightFinite,
    isInfinite_of_isFinite leftFinite, isInfinite_of_isFinite rightFinite, apart,
    Bool.false_eq_true, if_false]

/-! ### Sums that stay in bounds -/

/-- Whether a double is no greater in size than a power of two. -/
def AtMost (exponent : Nat) (number : Double) : Prop :=
  number.units ≤ twoTo exponent * BinaryFormat.double.unitsInOne

/-- Infinity is far beyond any sum of words. -/
theorem mul_unitsInOne_lt_infinity {size : Nat} (bounded : size ≤ twoTo 117) :
    size * BinaryFormat.double.unitsInOne <
      BinaryFormat.double.units BinaryFormat.double.infinity :=
  (Nat.mul_le_mul_right _ bounded).trans_lt (by decide +kernel)

theorem AtMost.isFinite {number : Double} (bounded : AtMost 117 number) :
    number.isFinite = true :=
  isFinite_iff_units_lt.mpr (bounded.trans_lt (mul_unitsInOne_lt_infinity (Nat.le_refl _)))

/-- A rounded number of units is no greater than what a greater number of them is rounded to. -/
theorem units_ofQuotient_one_le (negative : Bool) {size bound : Nat} (le : size ≤ bound) :
    (ofQuotient negative size 1 : Double).units ≤
      BinaryFormat.double.units (magnitudeOfQuotient .double bound 1) :=
  (units_ofQuotient_le .double negative size 1).trans
    ((BinaryFormat.units_strictMono _).monotone (magnitudeOfQuotient_mono Nat.one_pos le))

theorem atMost_ofInt {value : Int} (bounded : value.natAbs ≤ twoTo 63) :
    AtMost 63 (ofInt value) := by
  have exact : BinaryFormat.double.units (magnitudeOfQuotient .double
      (twoTo 63 * BinaryFormat.double.unitsInOne) 1) =
        twoTo 63 * BinaryFormat.double.unitsInOne := by
    decide +kernel
  exact (units_ofQuotient_one_le _ (Nat.mul_le_mul_right _ bounded)).trans_eq exact

/-- What is so small beside a sum that rounding loses it cannot take the sum beyond its bound. -/
theorem AtMost.add_of_lost {bound small : Nat} {total number : Double}
    (room : twoTo bound * BinaryFormat.double.unitsInOne <
      BinaryFormat.double.units BinaryFormat.double.infinity)
    (le : small ≤ bound)
    (lost : BinaryFormat.double.units (magnitudeOfQuotient .double
      ((twoTo bound + twoTo small) * BinaryFormat.double.unitsInOne) 1) =
        twoTo bound * BinaryFormat.double.unitsInOne)
    (totalBounded : AtMost bound total) (isSmall : AtMost small number) :
    AtMost bound (total + number) := by
  have numberBounded : AtMost bound number :=
    isSmall.trans (Nat.mul_le_mul_right _ (Nat.pow_le_pow_right (by decide) le))
  have finite {other : Double} (bounded : AtMost bound other) : other.isFinite = true :=
    isFinite_iff_units_lt.mpr (bounded.trans_lt room)
  have size : (total.signedUnits + number.signedUnits).natAbs ≤
      (twoTo bound + twoTo small) * BinaryFormat.double.unitsInOne := by
    refine (Int.natAbs_add_le _ _).trans ?_
    rw [natAbs_signedUnits, natAbs_signedUnits, Nat.add_mul]
    exact Nat.add_le_add totalBounded isSmall
  rw [add_of_isFinite (finite totalBounded) (finite numberBounded)]
  split
  · exact (units_eq_zero_iff.mpr rfl).trans_le (Nat.zero_le _)
  · exact (units_ofQuotient_one_le _ size).trans_eq lost

/-- A word that is added to a sum as great as this is lost. -/
theorem AtMost.add {total number : Double} (bounded : AtMost 117 total)
    (isWord : AtMost 63 number) : AtMost 117 (total + number) :=
  bounded.add_of_lost (mul_unitsInOne_lt_infinity (Nat.le_refl _)) (by decide) (by decide +kernel)
    isWord

/-- The sum of some words, added one after the other to a double that is not too great. -/
theorem atMost_foldl_add {numbers : List Int} (words : ∀ number ∈ numbers, number.natAbs ≤ twoTo 63)
    {start : Double} (bounded : AtMost 117 start) :
    AtMost 117 (numbers.foldl (fun total number => total + ofInt number) start) := by
  induction numbers generalizing start with
  | nil => exact bounded
  | cons number numbers inductionHypothesis =>
    obtain ⟨word, words⟩ := List.forall_mem_cons.mp words
    exact inductionHypothesis words (bounded.add (atMost_ofInt word))

/-! ### Sums that are exact -/

/-- Whether a double is an integer. -/
def IsInteger (value : Int) (number : Double) : Prop :=
  number.isFinite = true ∧ number.signedUnits = value * BinaryFormat.double.unitsInOne

theorem IsInteger.units {value : Int} {number : Double} (integer : IsInteger value number) :
    number.units = value.natAbs * BinaryFormat.double.unitsInOne := by
  rw [← natAbs_signedUnits, integer.2, Int.natAbs_mul, Int.natAbs_natCast]

/-- An integer has the sign of its double, unless it is zero. -/
theorem IsInteger.eq_ite {value : Int} {number : Double} (integer : IsInteger value number) :
    value = if number.negative then -(value.natAbs : Int) else value.natAbs := by
  have exact := integer.2
  rw [signedUnits, integer.units, Int.natCast_mul] at exact
  refine Int.eq_of_mul_eq_mul_right
    (Int.natCast_ne_zero.mpr BinaryFormat.double.unitsInOne_pos.ne') ?_
  rw [← exact]
  split
  · exact (Int.neg_mul _ _).symm
  · rfl

theorem isInteger_ofInt {value : Int} (bounded : value.natAbs ≤ 2 * BinaryFormat.double.binade) :
    IsInteger value (ofInt value) := by
  have exact := signedUnits_ofInt bounded
  refine ⟨isFinite_iff_units_lt.mpr ?_, exact⟩
  rw [← natAbs_signedUnits, exact, Int.natAbs_mul, Int.natAbs_natCast]
  exact mul_unitsInOne_lt_infinity (bounded.trans (by decide))

theorem isInteger_zero (negative : Bool) : IsInteger 0 (zero negative) := by
  cases negative <;> exact ⟨by decide +kernel, by decide +kernel⟩

theorem mul_unitsInOne_neg_iff (format : BinaryFormat) {value : Int} :
    value * format.unitsInOne < 0 ↔ value < 0 := by
  have scaled : value * format.unitsInOne < 0 * format.unitsInOne ↔ value < 0 :=
    Int.mul_lt_mul_right (Int.natCast_pos.mpr format.unitsInOne_pos)
  rwa [Int.zero_mul] at scaled

/-- A number of whole units is rounded as the integer is. -/
theorem ofQuotient_mul_unitsInOne (format : BinaryFormat) (value : Int) :
    (ofQuotient (decide (value * format.unitsInOne < 0)) (value * format.unitsInOne).natAbs 1 :
      Binary format) = ofInt value := by
  rw [ofInt, Int.natAbs_mul, Int.natAbs_natCast]
  exact congrArg (ofQuotient · _ 1) (decide_eq_decide.mpr (mul_unitsInOne_neg_iff format))

/-- A sum of integers is exact if it has no more bits than a significand. -/
theorem IsInteger.add {left right : Double} {first second : Int} (former : IsInteger first left)
    (latter : IsInteger second right)
    (bounded : (first + second).natAbs ≤ 2 * BinaryFormat.double.binade) :
    IsInteger (first + second) (left + right) := by
  have sum : left.signedUnits + right.signedUnits =
      (first + second) * BinaryFormat.double.unitsInOne := by
    rw [former.2, latter.2, Int.add_mul]
  rw [add_of_isFinite former.1 latter.1, sum]
  split
  · rename_i cancelled
    have unit : (BinaryFormat.double.unitsInOne : Int) ≠ 0 :=
      Int.natCast_ne_zero.mpr BinaryFormat.double.unitsInOne_pos.ne'
    rw [(Int.mul_eq_zero.mp cancelled).resolve_right unit]
    exact isInteger_zero _
  · rw [ofQuotient_mul_unitsInOne]
    exact isInteger_ofInt bounded

/-- Whether some integers, their number and each one of their sums on the way have no more bits than
a significand. -/
structure StaysExact (numbers : List Int) : Prop where
  countable : numbers.length ≤ 2 * BinaryFormat.double.binade
  each : ∀ number ∈ numbers, number.natAbs < 2 * BinaryFormat.double.binade
  onTheWay : ∀ passed, passed <+: numbers → passed.sum.natAbs < 2 * BinaryFormat.double.binade

/-- One integer alone has no other sums on the way. -/
theorem staysExact_singleton {number : Int}
    (bounded : number.natAbs < 2 * BinaryFormat.double.binade) : StaysExact [number] := by
  have one : 1 ≤ 2 * BinaryFormat.double.binade := by decide
  refine ⟨one, List.forall_mem_singleton.mpr bounded, fun passed isPrefix => ?_⟩
  rcases List.prefix_cons_iff.mp isPrefix with rfl | ⟨later, rfl, isNil⟩
  · decide
  · rwa [List.prefix_nil.mp isNil, List.sum_singleton]

/-- The sum of such integers is exact. -/
theorem StaysExact.isInteger_foldl_add {numbers : List Int} (exact : StaysExact numbers) :
    IsInteger numbers.sum (numbers.foldl (fun total number => total + ofInt number) zero) := by
  induction numbers using List.reverseRecOn with
  | nil => exact isInteger_zero false
  | append_singleton numbers number inductionHypothesis =>
    obtain ⟨each, last⟩ := List.forall_mem_append.mp exact.each
    have whole := exact.onTheWay _ List.prefix_rfl
    have earlier : StaysExact numbers :=
      { countable := (List.prefix_append numbers [number]).length_le.trans exact.countable
        each
        onTheWay := fun passed isPrefix =>
          exact.onTheWay passed (isPrefix.trans (List.prefix_append _ _)) }
    rw [List.sum_append, List.sum_singleton] at whole ⊢
    rw [List.foldl_append]
    exact (inductionHypothesis earlier).add
      (isInteger_ofInt (List.forall_mem_singleton.mp last).le) whole.le

/-! ### Division by a number of things -/

/-- No count is rounded to less than one. -/
theorem unitsInOne_le_units_ofInt {count : Nat} (positive : 0 < count) :
    BinaryFormat.double.unitsInOne ≤ (ofInt count : Double).units := by
  have one := @units_magnitudeOfQuotient_unitsInOne 1 (by decide)
  rw [Nat.one_mul] at one
  have belowInfinity : BinaryFormat.double.unitsInOne <
      BinaryFormat.double.units BinaryFormat.double.infinity := by
    have below := @mul_unitsInOne_lt_infinity 1 (by decide)
    rwa [Nat.one_mul] at below
  have atLeast : magnitudeOfQuotient .double BinaryFormat.double.unitsInOne 1 ≤
      magnitudeOfQuotient .double ((count : Int).natAbs * BinaryFormat.double.unitsInOne) 1 :=
    magnitudeOfQuotient_mono Nat.one_pos (Nat.le_mul_of_pos_left _ positive)
  have infinity : magnitudeOfQuotient .double BinaryFormat.double.unitsInOne 1 ≤
      BinaryFormat.double.infinity :=
    (BinaryFormat.units_strictMono _).le_iff_le.mp (one.trans_le belowInfinity.le)
  exact one.ge.trans
    ((BinaryFormat.units_strictMono _).monotone (Nat.le_min.mpr ⟨atLeast, infinity⟩))

/-- The quotient of a finite number and a count is finite. -/
theorem AtMost.div {total : Double} (bounded : AtMost 117 total) {count : Nat}
    (positive : 0 < count) : (total / ofInt count).isFinite = true := by
  have one := unitsInOne_le_units_ofInt positive
  rcases isFinite_or_isInfinite_ofInt .double count with finite | infinite
  · rw [div_of_isFinite bounded.isFinite finite ((BinaryFormat.unitsInOne_pos _).trans_le one).ne']
    have quotient : total.units * BinaryFormat.double.unitsInOne * 1 ≤
        twoTo 117 * BinaryFormat.double.unitsInOne * (ofInt count : Double).units := by
      rw [Nat.mul_one]
      exact Nat.mul_le_mul bounded one
    have least := @magnitudeOfQuotient_le_of_cross .double _ _ _ _
      ((BinaryFormat.unitsInOne_pos _).trans_le one) Nat.one_pos quotient
    have belowInfinity : BinaryFormat.double.units (magnitudeOfQuotient .double
        (twoTo 117 * BinaryFormat.double.unitsInOne) 1) <
          BinaryFormat.double.units BinaryFormat.double.infinity := by
      decide +kernel
    exact isFinite_iff_units_lt.mpr (((units_ofQuotient_le ..).trans
      ((BinaryFormat.units_strictMono _).monotone least)).trans_lt belowInfinity)
  · change (total.div _).isFinite = true
    unfold Binary.div
    have notNaN : (ofInt count : Double).isNaN = false :=
      decide_eq_false (of_decide_eq_true infinite).not_gt
    simp only [isNaN_of_isFinite bounded.isFinite, notNaN, isInfinite_of_isFinite bounded.isFinite,
      infinite, Bool.false_eq_true, if_false, if_true]
    rfl

/-- The whole part of a quotient of two integers is that of the integer division. -/
theorem units_ofQuotient_of_integers_div (negative : Bool) {size count : Nat} (positive : 0 < count)
    (bounded : size < 2 * BinaryFormat.double.binade) :
    (ofQuotient negative (size * BinaryFormat.double.unitsInOne * BinaryFormat.double.unitsInOne)
        (count * BinaryFormat.double.unitsInOne) : Double).units / BinaryFormat.double.unitsInOne =
      size / count := by
  have rescaled : magnitudeOfQuotient .double
      (size * BinaryFormat.double.unitsInOne * BinaryFormat.double.unitsInOne)
      (count * BinaryFormat.double.unitsInOne) =
        magnitudeOfQuotient .double (size * BinaryFormat.double.unitsInOne) count :=
    magnitudeOfQuotient_mul_mul _ _ _ (BinaryFormat.unitsInOne_pos _)
  have next : size / count + 1 ≤ 2 * BinaryFormat.double.binade :=
    (Nat.div_le_self _ _).trans_lt bounded
  have finite := (units_of_integers_lt positive bounded).trans
    (mul_unitsInOne_lt_infinity (next.trans (by decide)))
  rw [← rescaled] at finite
  rw [units_ofQuotient finite, rescaled, units_of_integers_div positive bounded]

/-- The quotient of an integer and a count, without its fraction, is that of the integers. -/
theorem IsInteger.truncated_div {total : Double} {value : Int} (integer : IsInteger value total)
    (bounded : value.natAbs < 2 * BinaryFormat.double.binade) {count : Nat} (positive : 0 < count)
    (countBounded : count ≤ 2 * BinaryFormat.double.binade) :
    (total / ofInt count).truncated = value.tdiv count := by
  have divisor : IsInteger count (ofInt count) := isInteger_ofInt countBounded
  have notZero : (ofInt count : Double).units ≠ 0 :=
    ((BinaryFormat.unitsInOne_pos _).trans_le (unitsInOne_le_units_ofInt positive)).ne'
  have quotient := div_of_isFinite integer.1 divisor.1 notZero
  rw [integer.units, divisor.units, Int.natAbs_natCast] at quotient
  have size : (total / ofInt count).units / BinaryFormat.double.unitsInOne =
      value.natAbs / count := by
    rw [quotient, units_ofQuotient_of_integers_div _ positive bounded]
  have sign : (total / ofInt count).negative = total.negative := by
    rw [quotient]
    exact Bool.bne_false _
  rw [truncated, size, sign]
  conv_rhs => rw [integer.eq_ite]
  split
  · rw [Int.neg_tdiv, Int.ofNat_tdiv]
  · rw [Int.ofNat_tdiv]

/-! ### Means -/

/-- The mean of some integers, as it is formed in double precision. -/
def meanOf (numbers : List Int) : Double :=
  numbers.foldl (fun total number => total + ofInt number) zero / ofInt numbers.length

/-- There is a mean of words, however many they are. -/
theorem isFinite_meanOf {numbers : List Int} (words : ∀ number ∈ numbers, number.natAbs ≤ twoTo 63)
    (notEmpty : numbers ≠ []) : (meanOf numbers).isFinite = true := by
  have bounded : AtMost 117 (zero : Double) := (units_eq_zero_iff.mpr rfl).trans_le (Nat.zero_le _)
  exact (atMost_foldl_add words bounded).div (List.length_pos_iff.mpr notEmpty)

/-- The mean without its fraction is that of the integers, if their sum is exact. -/
theorem StaysExact.truncated_meanOf {numbers : List Int} (exact : StaysExact numbers)
    (notEmpty : numbers ≠ []) :
    (meanOf numbers).truncated = numbers.sum.tdiv numbers.length :=
  exact.isInteger_foldl_add.truncated_div (exact.onTheWay _ List.prefix_rfl)
    (List.length_pos_iff.mpr notEmpty) exact.countable

end Binary

end RecordQuery.Number

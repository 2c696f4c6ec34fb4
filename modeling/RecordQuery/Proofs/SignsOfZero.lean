/-
This file proves that the signs of zeros in a vector do not matter for its distances.

Numbers stand in one place if they are the same or both are zero. Products with such numbers stand
in one place too, and their squares are the same. The sums that distances come from begin with a
zero that is not negative, and no sum of it with others is the negative zero. So it changes nothing
whether a positive or a negative zero is added, and two vectors of which the components stand in the
same places have the same distance from every other, bit for bit.
-/

import RecordQuery.Proofs.Distances
import RecordQuery.Proofs.Similarities
import RecordQuery.Value.Basic

namespace RecordQuery

open Number

namespace Number.Binary

variable {format : BinaryFormat} {left right number factor total : Binary format}

/-! ### Operations on zeros -/

/-- The product with a zero is a zero, unless the other factor is not a number or infinite. -/
theorem mul_of_magnitude_eq_zero (factor : Binary format) (isZero : number.magnitude = 0) :
    factor * number =
      if factor.isNaN then factor.quieted
      else if factor.isInfinite then invalid
      else zero (factor.negative != number.negative) := by
  change factor.mul number = _
  have zero : number.isZero = true := decide_eq_true isZero
  unfold mul
  simp only [isNaN_of_magnitude_eq_zero isZero, isInfinite_of_magnitude_eq_zero isZero, zero,
    units_eq_zero_iff.mpr isZero, Bool.false_eq_true, if_false, Bool.or_false, Bool.or_true,
    if_true, Nat.mul_zero, ofQuotient, magnitudeOfQuotient_zero]
  rfl

/-- Adding a zero changes nothing, unless the other number is the negative zero. -/
theorem add_of_magnitude_eq_zero (isZero : number.magnitude = 0)
    (notNegativeZero : total.negative = true → total.magnitude ≠ 0) :
    total + number = if total.isNaN then total.quieted else total := by
  cases notNumber : total.isNaN with
  | true =>
    change total.add number = total.quieted
    unfold add
    rw [if_pos notNumber]
  | false =>
    cases infinite : total.isInfinite with
    | true =>
      change total.add number = total
      unfold add
      simp only [notNumber, infinite, isNaN_of_magnitude_eq_zero isZero,
        isInfinite_of_magnitude_eq_zero isZero, Bool.false_eq_true, if_false, if_true,
        Bool.false_and]
    | false =>
      have finite := isFinite_of_isNaN_of_isInfinite notNumber infinite
      rw [add_of_isFinite finite (isFinite_of_magnitude_eq_zero isZero),
        signedUnits_of_magnitude_eq_zero isZero, Int.add_zero]
      exact rounded_signedUnits finite notNegativeZero _

/-! ### Numbers in one place -/

theorem ordinal_eq_of_magnitude (leftZero : left.magnitude = 0) (rightZero : right.magnitude = 0) :
    left.ordinal = right.ordinal :=
  ordinal_eq_iff.mpr (.inr ⟨leftZero, rightZero⟩)

theorem ordinal_convert_congr {left right : Single} (same : left.ordinal = right.ordinal) :
    (left.convert : Double).ordinal = (right.convert : Double).ordinal := by
  rcases ordinal_eq_iff.mp same with rfl | ⟨leftZero, rightZero⟩
  · rfl
  · have converted {number : Single} (isZero : number.magnitude = 0) :
        (number.convert : Double).magnitude = 0 := by
      rw [← units_eq_zero_iff, (units_convert (isFinite_of_magnitude_eq_zero isZero)).1,
        units_eq_zero_iff.mpr isZero, Nat.zero_mul]
    exact ordinal_eq_of_magnitude (converted leftZero) (converted rightZero)

theorem ordinal_mul_congr (factor : Binary format) (same : left.ordinal = right.ordinal) :
    (factor * left).ordinal = (factor * right).ordinal := by
  rcases ordinal_eq_iff.mp same with rfl | ⟨leftZero, rightZero⟩
  · rfl
  · rw [mul_of_magnitude_eq_zero factor leftZero, mul_of_magnitude_eq_zero factor rightZero]
    split
    · rfl
    · split
      · rfl
      · exact ordinal_eq_of_magnitude rfl rfl

/-- A square has no sign. -/
theorem mul_self_congr (same : left.ordinal = right.ordinal) : left * left = right * right := by
  rcases ordinal_eq_iff.mp same with rfl | ⟨leftZero, rightZero⟩
  · rfl
  · have square {number : Binary format} (isZero : number.magnitude = 0) :
        number * number = zero := by
      rw [mul_of_magnitude_eq_zero number isZero, isNaN_of_magnitude_eq_zero isZero,
        isInfinite_of_magnitude_eq_zero isZero, bne_self_eq_false]
      rfl
    rw [square leftZero, square rightZero]

theorem add_congr (notNegativeZero : total.negative = true → total.magnitude ≠ 0)
    (same : left.ordinal = right.ordinal) : total + left = total + right := by
  rcases ordinal_eq_iff.mp same with rfl | ⟨leftZero, rightZero⟩
  · rfl
  · rw [add_of_magnitude_eq_zero leftZero notNegativeZero,
      add_of_magnitude_eq_zero rightZero notNegativeZero]

end Number.Binary

namespace Cosine

open Binary

variable {sums : Sums} {vector query other : List Single}

/-! ### Vectors in one place -/

theorem Sums.add_congr (notNegativeZero : sums.product.negative = true →
      sums.product.magnitude ≠ 0) (component : Single) {left right : Single}
    (same : left.ordinal = right.ordinal) :
    sums.add (component, left) = sums.add (component, right) := by
  have converted := ordinal_convert_congr same
  have product := Binary.add_congr notNegativeZero (ordinal_mul_congr component.convert converted)
  unfold Sums.add
  dsimp only
  rw [product, mul_self_congr converted]

/-- Sums that begin with no negative zero do not tell two vectors apart of which the components
stand in the same places. -/
theorem Sums.foldl_congr (notNegativeZero : sums.product.negative = true →
      sums.product.magnitude ≠ 0) (same : Value.sameComponents query other = true) :
    (vector.zip query).foldl Sums.add sums = (vector.zip other).foldl Sums.add sums := by
  induction query generalizing vector other sums with
  | nil =>
    cases other with
    | nil => rfl
    | cons => contradiction
  | cons left query inductionHypothesis =>
    cases other with
    | nil => contradiction
    | cons right other =>
      obtain ⟨first, rest⟩ := Bool.and_eq_true_iff.mp same
      cases vector with
      | nil => rfl
      | cons component vector =>
        rw [List.zip_cons_cons, List.zip_cons_cons, List.foldl_cons, List.foldl_cons,
          ← Sums.add_congr notNegativeZero component (numericEq_iff.mp first).2.2]
        exact inductionHypothesis (magnitude_add_ne_zero notNegativeZero) rest

theorem length_eq_of_sameComponents (same : Value.sameComponents query other = true) :
    query.length = other.length := by
  induction query generalizing other with
  | nil =>
    cases other with
    | nil => rfl
    | cons => contradiction
  | cons left query inductionHypothesis =>
    cases other with
    | nil => contradiction
    | cons right other =>
      exact congrArg (· + 1) (inductionHypothesis (Bool.and_eq_true_iff.mp same).2)

/-- Vectors with the same components are at the same distance from every other. -/
theorem distance_congr (same : Value.sameComponents query other = true)
    (vector : Option (List Single)) :
    distance vector (some query) = distance vector (some other) := by
  have positive : ({} : Sums).product.negative = false := rfl
  cases vector with
  | none => rfl
  | some vector =>
    unfold distance
    dsimp only
    rw [length_eq_of_sameComponents same, Sums.foldl_congr (fun negative => ?_) same]
    rw [positive] at negative
    contradiction

end Cosine

end RecordQuery

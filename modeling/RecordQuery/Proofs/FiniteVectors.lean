/-
This file proves that vectors of finite components have a similarity, and that it lies between minus
one and one.

The sums over such vectors stay finite, however long the vectors are: no product of two
single-precision numbers is greater than two to the power of 256, and beside a sum that is great
enough such products are lost in rounding. The sums of squares are not negative, so their product
has a square root. So no operation on the way is one without a result, and what comes out is a
number.
-/

import RecordQuery.Proofs.Distances

namespace RecordQuery

open Number

namespace Number.Binary

variable {format : BinaryFormat} {left right number : Binary format}

/-! ### Operations with a result -/

/-- The sum of numbers that are not negative is not negative. -/
theorem negative_add (leftFinite : left.isFinite = true) (rightFinite : right.isFinite = true)
    (leftPositive : left.negative = false) (rightPositive : right.negative = false) :
    (left + right).negative = false := by
  have leftSign : 0 ≤ left.signedUnits := by
    rw [signedUnits, leftPositive]
    exact Int.natCast_nonneg _
  have rightSign : 0 ≤ right.signedUnits := by
    rw [signedUnits, rightPositive]
    exact Int.natCast_nonneg _
  rw [add_of_isFinite leftFinite rightFinite, leftPositive]
  split
  · rfl
  · exact decide_eq_false (Int.not_lt.mpr (Int.add_nonneg leftSign rightSign))

theorem isNaN_mul_of_isFinite (leftFinite : left.isFinite = true)
    (rightFinite : right.isFinite = true) : (left * right).isNaN = false := by
  rw [mul_of_isFinite leftFinite rightFinite]
  exact isNaN_ofQuotient format _ _ _

theorem negative_mul (leftFinite : left.isFinite = true) (rightFinite : right.isFinite = true) :
    (left * right).negative = (left.negative != right.negative) := by
  rw [mul_of_isFinite leftFinite rightFinite]
  rfl

/-- A number that is not negative has a square root. -/
theorem isNaN_sqrt_of_positive (isNumber : number.isNaN = false)
    (positive : number.negative = false) : number.sqrt.isNaN = false := by
  unfold sqrt
  rw [isNumber, positive]
  simp only [Bool.false_eq_true, if_false]
  split
  · exact isNumber
  · split
    · exact isNumber
    · exact isNaN_ofQuotient format _ _ _

/-- A finite number can be divided by any other that is not zero. -/
theorem isNaN_div_of_isFinite (finite : left.isFinite = true) (isNumber : right.isNaN = false)
    (notZero : right.isZero = false) : (left / right).isNaN = false := by
  change (left.div right).isNaN = false
  unfold div
  simp only [isNaN_of_isFinite finite, isInfinite_of_isFinite finite, isNumber, notZero,
    Bool.false_eq_true, if_false]
  split
  · exact isNaN_zero format _
  · exact isNaN_ofQuotient format _ _ _

/-! ### Sums of products -/

theorem AtMost.isFinite_of_great {number : Double} (bounded : AtMost 310 number) :
    number.isFinite = true :=
  isFinite_iff_units_lt.mpr (bounded.trans_lt (by decide +kernel))

/-- A product that is added to a sum as great as this is lost. -/
theorem AtMost.add_product {total product : Double} (bounded : AtMost 310 total)
    (isProduct : AtMost 256 product) : AtMost 310 (total + product) :=
  bounded.add_of_lost (by decide +kernel) (by decide) (by decide +kernel) isProduct

/-- No product of single-precision numbers is greater than this. -/
theorem atMost_mul_convert {left right : Single} (leftFinite : left.isFinite = true)
    (rightFinite : right.isFinite = true) :
    AtMost 256 ((left.convert : Double) * right.convert) := by
  have bounded {number : Single} (finite : number.isFinite = true) :
      number.units * twoTo 925 ≤ twoTo 128 * BinaryFormat.double.unitsInOne :=
    (Nat.mul_le_mul_right _ (isFinite_iff_units_lt.mp finite).le).trans (by decide +kernel)
  have product := Nat.mul_le_mul (bounded leftFinite) (bounded rightFinite)
  obtain ⟨leftUnits, leftDouble⟩ := units_convert leftFinite
  obtain ⟨rightUnits, rightDouble⟩ := units_convert rightFinite
  have greatest : BinaryFormat.double.units (magnitudeOfQuotient .double
      (twoTo 128 * BinaryFormat.double.unitsInOne * (twoTo 128 * BinaryFormat.double.unitsInOne))
      BinaryFormat.double.unitsInOne) ≤ twoTo 256 * BinaryFormat.double.unitsInOne := by
    decide +kernel
  rw [AtMost, mul_of_isFinite leftDouble rightDouble, leftUnits, rightUnits]
  exact ((units_ofQuotient_le ..).trans ((BinaryFormat.units_strictMono _).monotone
    (magnitudeOfQuotient_mono (BinaryFormat.unitsInOne_pos _) product))).trans greatest

end Number.Binary

namespace Cosine

open Binary

/-- Whether the sums over two vectors are finite, with squares that are not negative. -/
structure Sums.Bounded (sums : Sums) : Prop where
  product : AtMost 310 sums.product
  leftSquare : AtMost 310 sums.leftSquare
  rightSquare : AtMost 310 sums.rightSquare
  leftPositive : sums.leftSquare.negative = false
  rightPositive : sums.rightSquare.negative = false

variable {sums : Sums}

theorem Sums.bounded_start : Sums.Bounded {} :=
  have nothing : AtMost 310 (0 : Double) := by
    unfold AtMost
    decide +kernel
  ⟨nothing, nothing, nothing, rfl, rfl⟩

/-- One more pair of finite components leaves the sums within their bounds. -/
theorem Sums.Bounded.add (bounded : sums.Bounded) {components : Single × Single}
    (leftFinite : components.1.isFinite = true) (rightFinite : components.2.isFinite = true) :
    (sums.add components).Bounded := by
  have product {left right : Single} (leftFinite : left.isFinite = true)
      (rightFinite : right.isFinite = true) :
      ((left.convert : Double) * right.convert).isFinite = true :=
    isFinite_iff_units_lt.mpr ((atMost_mul_convert leftFinite rightFinite).trans_lt
      (by decide +kernel))
  have square {component : Single} (finite : component.isFinite = true) :
      ((component.convert : Double) * component.convert).negative = false := by
    have double := (units_convert finite).2
    rw [negative_mul double double, bne_self_eq_false]
  exact
    { product := bounded.product.add_product (atMost_mul_convert leftFinite rightFinite)
      leftSquare := bounded.leftSquare.add_product (atMost_mul_convert leftFinite leftFinite)
      rightSquare := bounded.rightSquare.add_product (atMost_mul_convert rightFinite rightFinite)
      leftPositive := negative_add bounded.leftSquare.isFinite_of_great
        (product leftFinite leftFinite) bounded.leftPositive (square leftFinite)
      rightPositive := negative_add bounded.rightSquare.isFinite_of_great
        (product rightFinite rightFinite) bounded.rightPositive (square rightFinite) }

/-- The sums over two vectors of finite components are finite, however long these are. -/
theorem Sums.Bounded.foldl (bounded : sums.Bounded) {components : List (Single × Single)}
    (finite : ∀ pair ∈ components, pair.1.isFinite = true ∧ pair.2.isFinite = true) :
    (components.foldl Sums.add sums).Bounded := by
  induction components generalizing sums with
  | nil => exact bounded
  | cons pair components inductionHypothesis =>
    obtain ⟨⟨leftFinite, rightFinite⟩, later⟩ := List.forall_mem_cons.mp finite
    exact inductionHypothesis (bounded.add leftFinite rightFinite) later

theorem Sums.Bounded.isNaN_distance (bounded : sums.Bounded) : sums.distance.isNaN = false := by
  have leftFinite := bounded.leftSquare.isFinite_of_great
  have rightFinite := bounded.rightSquare.isFinite_of_great
  have normNumber : ((sums.leftSquare * sums.rightSquare).sqrt).isNaN = false := by
    refine isNaN_sqrt_of_positive (isNaN_mul_of_isFinite leftFinite rightFinite) ?_
    rw [negative_mul leftFinite rightFinite, bounded.leftPositive, bounded.rightPositive]
    rfl
  unfold Sums.distance
  dsimp only
  split
  · decide +kernel
  · rename_i notZero
    have quotient := isNaN_div_of_isFinite bounded.product.isFinite_of_great normNumber
      (Bool.eq_false_of_not_eq_true notZero)
    have ends : (-1 : Double).isNaN = false ∧ (1 : Double).isNaN = false ∧
        (-1 : Double).ordinal ≤ (1 : Double).ordinal ∧ (2 : Single).isFinite = true ∧
        (0 : Single).isFinite = true ∧ (0 : Single).ordinal = 0 := by
      decide +kernel
    obtain ⟨lowNumber, highNumber, inOrder, twoFinite, zeroFinite, zeroPlace⟩ := ends
    obtain ⟨above, below⟩ := ordinal_clamp quotient lowNumber highNumber inOrder
    obtain ⟨positive, bounded⟩ := convert_one_sub_bounds above below
    exact isNaN_of_isFinite
      (isFinite_of_between zeroFinite twoFinite (zeroPlace.trans_le positive) bounded)

/-- The similarity of vectors of finite components is a number between minus one and one. -/
theorem similarity_bounds {left right : List Single} (same : left.length = right.length)
    (leftFinite : ∀ component ∈ left, component.isFinite = true)
    (rightFinite : ∀ component ∈ right, component.isFinite = true) :
    (-1 : Single).ordinal ≤ (similarity (some left) (some right)).ordinal ∧
      (similarity (some left) (some right)).ordinal ≤ (1 : Single).ordinal := by
  have bounded : ((left.zip right).foldl Sums.add {}).Bounded :=
    Sums.bounded_start.foldl fun pair member =>
      ⟨leftFinite _ (List.of_mem_zip member).1, rightFinite _ (List.of_mem_zip member).2⟩
  have ends : (1 : Single).isFinite = true ∧ (2 : Single).isFinite = true ∧
      (0 : Single).isFinite = true ∧ (0 : Single).ordinal = 0 ∧
      (-1 : Single).ordinal = (1 - 2 : Single).ordinal ∧
      (1 - 0 : Single).ordinal = (1 : Single).ordinal := by
    decide +kernel
  obtain ⟨oneFinite, twoFinite, zeroFinite, zeroPlace, least, greatest⟩ := ends
  obtain ⟨positive, below⟩ := Sums.distance_bounds bounded.isNaN_distance
  have above := zeroPlace.trans_le positive
  have finite := isFinite_of_between zeroFinite twoFinite above below
  rw [similarity, distance_of_length_eq same]
  exact ⟨least.trans_le (ordinal_sub_anti oneFinite finite twoFinite below),
    (ordinal_sub_anti oneFinite zeroFinite finite above).trans_eq greatest⟩

end Cosine

end RecordQuery

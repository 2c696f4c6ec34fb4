/-
This file says what a distance can be, and that it does not matter which of two vectors comes first.

Vectors that can be compared are no further apart than two, so that only those that cannot are at
the greatest distance. If two vectors change places, the sums over their components do too: the
squares of one are those of the other, bit for bit, and the products are formed of the same factors.
A product of two numbers is the same in either order. Only if neither factor is a number can it be
told which came first, for then the product repeats it; but in both orders the product is not a
number, and so is all that is formed of it.
-/

import Mathlib.Data.List.Zip
import RecordQuery.Cosine
import RecordQuery.Proofs.RoundedOrder

namespace RecordQuery

open Number

namespace Number.Binary

variable {format target : BinaryFormat} {left right otherLeft otherRight number low high :
  Binary format}

/-! ### What is not a number -/

theorem isNaN_add_of_left (notNumber : left.isNaN = true) : (left + right).isNaN = true := by
  change (left.add right).isNaN = true
  unfold add
  rw [if_pos notNumber]
  exact (isNaN_quieted left).trans notNumber

theorem isNaN_mul_of_left (notNumber : left.isNaN = true) : (left * right).isNaN = true := by
  change (left.mul right).isNaN = true
  unfold mul
  dsimp only
  rw [if_pos notNumber]
  exact (isNaN_quieted left).trans notNumber

theorem isNaN_sub_of_right (notNumber : right.isNaN = true) : (left - right).isNaN = true := by
  change (left.sub right).isNaN = true
  unfold sub
  rw [if_pos notNumber]
  exact isNaN_add_of_right notNumber

theorem isNaN_div_of_left (notNumber : left.isNaN = true) : (left / right).isNaN = true := by
  change (left.div right).isNaN = true
  unfold div
  dsimp only
  rw [if_pos notNumber]
  exact (isNaN_quieted left).trans notNumber

theorem isNaN_div_of_right (notNumber : right.isNaN = true) : (left / right).isNaN = true := by
  change (left.div right).isNaN = true
  unfold div
  dsimp only
  split
  · rename_i leftNotNumber
    exact (isNaN_quieted left).trans leftNotNumber
  · exact (isNaN_quieted right).trans notNumber

theorem isNaN_sqrt (notNumber : number.isNaN = true) : number.sqrt.isNaN = true := by
  unfold sqrt
  rw [if_pos notNumber]
  exact (isNaN_quieted number).trans notNumber

/-- There is nothing to hold where there is no number. -/
theorem clamp_of_isNaN (notNumber : number.isNaN = true) (low high : Binary format) :
    number.clamp low high = number := by
  have unordered (bound : Binary format) : number.compare? bound = none := by
    unfold compare?
    rw [notNumber, Bool.true_or, if_pos rfl]
  unfold clamp
  rw [unordered, unordered]
  rfl

/-! ### Results that are alike -/

/-- Whether two results are the same, or neither is a number. -/
def Alike (left right : Binary format) : Prop :=
  left = right ∨ left.isNaN = true ∧ right.isNaN = true

theorem Alike.refl (number : Binary format) : number.Alike number :=
  .inl rfl

/-- An operation that passes on what is not a number has results that are alike. -/
theorem Alike.map {operation : Binary format → Binary target}
    (passesOn : ∀ {number : Binary format}, number.isNaN = true → (operation number).isNaN = true)
    (alike : left.Alike right) : (operation left).Alike (operation right) :=
  alike.imp (congrArg operation) (And.imp passesOn passesOn)

/-- So does an operation on two numbers that passes on either. -/
theorem Alike.map₂ {operation : Binary format → Binary format → Binary target}
    (passesLeft : ∀ {left right : Binary format}, left.isNaN = true →
      (operation left right).isNaN = true)
    (passesRight : ∀ {left right : Binary format}, right.isNaN = true →
      (operation left right).isNaN = true)
    (lefts : left.Alike otherLeft) (rights : right.Alike otherRight) :
    (operation left right).Alike (operation otherLeft otherRight) := by
  rcases lefts with rfl | ⟨leftNotNumber, otherNotNumber⟩
  · exact rights.map passesRight
  · exact .inr ⟨passesLeft leftNotNumber, passesLeft otherNotNumber⟩

/-- Both orders of multiplication have results that are alike. -/
theorem mul_alike_comm (left right : Binary format) : (left * right).Alike (right * left) := by
  cases notNumber : left.isNaN with
  | false => exact .inl (mul_comm_of_left notNumber)
  | true => exact .inr ⟨isNaN_mul_of_left notNumber, isNaN_mul_of_right notNumber⟩

/-- Results that are alike are both zero or neither. -/
theorem Alike.isZero_eq (alike : left.Alike right) : left.isZero = right.isZero := by
  have notZero {number : Binary format} (notNumber : number.isNaN = true) :
      number.isZero = false :=
    decide_eq_false (Nat.ne_zero_of_lt (of_decide_eq_true notNumber))
  rcases alike with rfl | ⟨leftNotNumber, rightNotNumber⟩
  · rfl
  · rw [notZero leftNotNumber, notZero rightNotNumber]

end Number.Binary

namespace Cosine

open Binary

variable {left right : Option (List Single)} {sums swapped : Sums}

/-! ### Both orders of two vectors -/

/-- Whether the sums over two vectors are those over the same vectors in the other order. -/
structure Sums.Mirror (sums swapped : Sums) : Prop where
  product : sums.product.Alike swapped.product
  leftSquare : sums.leftSquare = swapped.rightSquare
  rightSquare : sums.rightSquare = swapped.leftSquare

theorem Sums.Mirror.add (mirror : sums.Mirror swapped) (components : Single × Single) :
    (sums.add components).Mirror (swapped.add components.swap) where
  product := mirror.product.map₂ isNaN_add_of_left isNaN_add_of_right (mul_alike_comm _ _)
  leftSquare := congrArg (· + _) mirror.leftSquare
  rightSquare := congrArg (· + _) mirror.rightSquare

/-- The sums over two vectors change places with the vectors. -/
theorem Sums.Mirror.foldl (mirror : sums.Mirror swapped) (components : List (Single × Single)) :
    (components.foldl Sums.add sums).Mirror
      ((components.map Prod.swap).foldl Sums.add swapped) := by
  induction components generalizing sums swapped with
  | nil => exact mirror
  | cons pair components inductionHypothesis => exact inductionHypothesis (mirror.add pair)

theorem Sums.Mirror.distance (mirror : sums.Mirror swapped) :
    sums.distance.Alike swapped.distance := by
  have norms : ((sums.leftSquare * sums.rightSquare).sqrt).Alike
      (swapped.leftSquare * swapped.rightSquare).sqrt := by
    rw [mirror.leftSquare, mirror.rightSquare]
    exact (mul_alike_comm _ _).map isNaN_sqrt
  have held {number : Double} (notNumber : number.isNaN = true) :
      (number.clamp (-1) 1).isNaN = true := by
    rw [clamp_of_isNaN notNumber, notNumber]
  have taken {number : Double} (notNumber : number.isNaN = true) :
      ((1 - number : Double).convert : Single).isNaN = true :=
    (isNaN_convert _).trans (isNaN_sub_of_right notNumber)
  have cosines := (mirror.product.map₂ isNaN_div_of_left isNaN_div_of_right norms).map held
  unfold Sums.distance
  dsimp only
  rw [norms.isZero_eq]
  split
  · exact .refl 1
  · exact @Alike.map _ _ _ _ (fun cosine => ((1 - cosine : Double).convert : Single)) taken cosines

/-- It does not matter which of two vectors comes first. -/
theorem distance_alike_comm (left right : Option (List Single)) :
    (distance left right).Alike (distance right left) := by
  cases left with
  | none => cases right <;> exact .refl _
  | some left =>
    cases right with
    | none => exact .refl _
    | some right =>
      have pairs : right.zip left = (left.zip right).map Prod.swap :=
        (List.zip_swap left right).symm
      have mirror : Sums.Mirror {} {} := ⟨.refl _, rfl, rfl⟩
      unfold distance
      simp only [@eq_comm _ right.length, pairs]
      split
      · exact (mirror.foldl _).distance
      · exact .refl _

/-! ### How far apart vectors can be -/

/-- What can be converted to a number is one. -/
theorem Sums.isNaN_quotient {sums : Sums} (isNumber : sums.distance.isNaN = false)
    (notZero : (sums.leftSquare * sums.rightSquare).sqrt.isZero = false) :
    (sums.product / (sums.leftSquare * sums.rightSquare).sqrt).isNaN = false := by
  by_contra notNumber
  have notNumber := Bool.eq_true_of_not_eq_false notNumber
  have passed : sums.distance.isNaN = true := by
    unfold Sums.distance
    dsimp only
    rw [notZero, if_neg Bool.false_ne_true, isNaN_convert, clamp_of_isNaN notNumber]
    exact isNaN_sub_of_right notNumber
  rw [isNumber] at passed
  contradiction

/-- One minus a number that is held between minus one and one lies between zero and two. -/
theorem convert_one_sub_bounds {cosine : Double} (above : (-1 : Double).ordinal ≤ cosine.ordinal)
    (below : cosine.ordinal ≤ (1 : Double).ordinal) :
    0 ≤ ((1 - cosine : Double).convert : Single).ordinal ∧
      ((1 - cosine : Double).convert : Single).ordinal ≤ (2 : Single).ordinal := by
  have ends : (-1 : Double).isFinite = true ∧ (1 : Double).isFinite = true ∧
      (0 : Double).isFinite = true ∧ (2 : Double).isFinite = true := by
    decide +kernel
  obtain ⟨lowFinite, highFinite, zeroFinite, twoFinite⟩ := ends
  have places : (0 : Double).ordinal = (1 - 1 : Double).ordinal ∧
      (1 - -1 : Double).ordinal = (2 : Double).ordinal ∧
      ((0 : Double).convert : Single).ordinal = 0 ∧
      ((2 : Double).convert : Single).ordinal = (2 : Single).ordinal := by
    decide +kernel
  obtain ⟨least, greatest, leastConverted, greatestConverted⟩ := places
  have finite := isFinite_of_between lowFinite highFinite above below
  have low := least.trans_le (ordinal_sub_anti highFinite finite highFinite below)
  have high := (ordinal_sub_anti highFinite lowFinite finite above).trans_eq greatest
  have bounded := isFinite_of_between zeroFinite twoFinite low high
  rw [← leastConverted, ← greatestConverted]
  exact ⟨ordinal_convert_mono zeroFinite bounded low, ordinal_convert_mono bounded twoFinite high⟩

/-- A distance that belongs to some sums lies between zero and two, if it is a number. -/
theorem Sums.distance_bounds {sums : Sums} (isNumber : sums.distance.isNaN = false) :
    0 ≤ sums.distance.ordinal ∧ sums.distance.ordinal ≤ (2 : Single).ordinal := by
  cases norm : (sums.leftSquare * sums.rightSquare).sqrt.isZero with
  | true =>
    have one : sums.distance = 1 := by
      unfold Sums.distance
      dsimp only
      rw [norm, if_pos rfl]
    rw [one]
    decide +kernel
  | false =>
    have ends : (-1 : Double).isNaN = false ∧ (1 : Double).isNaN = false ∧
        (-1 : Double).ordinal ≤ (1 : Double).ordinal := by
      decide +kernel
    obtain ⟨lowNumber, highNumber, inOrder⟩ := ends
    obtain ⟨above, below⟩ :=
      ordinal_clamp (Sums.isNaN_quotient isNumber norm) lowNumber highNumber inOrder
    have held : sums.distance = ((1 - (sums.product /
        (sums.leftSquare * sums.rightSquare).sqrt).clamp (-1) 1 : Double).convert : Single) := by
      unfold Sums.distance
      dsimp only
      rw [norm, if_neg Bool.false_ne_true]
    rw [held]
    exact convert_one_sub_bounds above below

/-- Whether two vectors are there and have the same length. -/
def Comparable (left right : Option (List Single)) : Prop :=
  ∃ leftComponents rightComponents, left = some leftComponents ∧ right = some rightComponents ∧
    leftComponents.length = rightComponents.length

theorem distance_of_length_eq {left right : List Single} (same : left.length = right.length) :
    distance (some left) (some right) = ((left.zip right).foldl Sums.add {}).distance :=
  if_pos same

/-- Just the vectors that cannot be compared are at the greatest distance. -/
theorem distance_eq_greatestDistance_iff :
    distance left right = greatestDistance ↔ ¬ Comparable left right := by
  constructor
  · rintro greatest ⟨leftComponents, rightComponents, rfl, rfl, same⟩
    rw [distance_of_length_eq same] at greatest
    have isNumber : greatestDistance.isNaN = false := by decide +kernel
    have bounded := Sums.distance_bounds (greatest ▸ isNumber)
    rw [greatest] at bounded
    revert bounded
    decide +kernel
  · intro apart
    cases left with
    | none => rfl
    | some left =>
      cases right with
      | none => rfl
      | some right => exact if_neg fun same => apart ⟨left, right, rfl, rfl, same⟩

/-- Distances and similarities of two vectors are the same in either order, bit for bit, or not a
number in both, whether the vectors are there or not, whatever their lengths and components. Vectors
are at the greatest distance, which is the greatest single-precision number, just if one of them is
absent or they differ in length. -/
theorem distance_symmetric (left right : Option (List Single)) :
    (distance left right).Alike (distance right left) ∧
      (similarity left right).Alike (similarity right left) ∧
      (distance left right = Binary.greatest ↔ ¬ Comparable left right) :=
  ⟨distance_alike_comm left right, (distance_alike_comm left right).map isNaN_sub_of_right,
    distance_eq_greatestDistance_iff⟩

end Cosine

end RecordQuery

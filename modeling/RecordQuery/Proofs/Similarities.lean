/-
This file says what a similarity can be.

It is one minus a distance, and so it is never the negative zero. If no component of two vectors is
a not-a-number, then a similarity that is not a number comes from an operation without a result: a
difference of infinities, or a quotient of them. All such operations give one and the same answer,
and all operations pass it on.
-/

import RecordQuery.Cosine
import RecordQuery.Proofs.Unrounded

namespace RecordQuery

open Number

namespace Number.Binary

variable {format target : BinaryFormat} {left right number low high : Binary format}

/-! ### Sums -/

theorem magnitude_ne_zero_of_isNaN (notNumber : number.isNaN = true) : number.magnitude ≠ 0 :=
  Nat.ne_zero_of_lt (of_decide_eq_true notNumber)

theorem magnitude_ne_zero_of_isInfinite (infinite : number.isInfinite = true) :
    number.magnitude ≠ 0 := by
  rw [of_decide_eq_true infinite]
  exact (infinity_pos format).ne'

/-- What the sum of two numbers can be. -/
inductive IsSumOf (left right : Binary format) : Binary format → Prop where
  | leftNaN (notNumber : left.isNaN = true) : IsSumOf left right left.quieted
  | rightNaN (notNumber : right.isNaN = true) : IsSumOf left right right.quieted
  | opposed : IsSumOf left right invalid
  | leftInfinite (infinite : left.isInfinite = true) : IsSumOf left right left
  | rightInfinite (infinite : right.isInfinite = true) : IsSumOf left right right
  | cancelled (opposite : left.signedUnits + right.signedUnits = 0) :
    IsSumOf left right (zero (left.negative && right.negative))
  | rounded (negative : Bool) {size : Nat} (notZero : size ≠ 0) :
    IsSumOf left right (ofQuotient negative size 1)

theorem isSumOf_add (left right : Binary format) : IsSumOf left right (left + right) := by
  change IsSumOf left right (left.add right)
  unfold add
  split
  · exact .leftNaN ‹_›
  · split
    · exact .rightNaN ‹_›
    · split
      · split
        · exact .opposed
        · exact .leftInfinite ‹_›
      · split
        · exact .rightInfinite ‹_›
        · dsimp only
          split
          · exact .cancelled ‹_›
          · exact .rounded _ (mt Int.natAbs_eq_zero.mp ‹_›)

theorem magnitudeOfQuotient_one_ne_zero (format : BinaryFormat) {size : Nat} (notZero : size ≠ 0) :
    magnitudeOfQuotient format size 1 ≠ 0 := by
  have wide : 1 < format.binade :=
    Nat.one_lt_two_pow_iff.mpr format.fractionBits_pos.ne'
  have one : format.units 1 = 1 := by
    simp [BinaryFormat.units, Nat.div_eq_of_lt wide, Nat.mod_eq_of_lt wide]
  have least : magnitudeOfQuotient format 1 1 = 1 := by
    conv_lhs => arg 2; rw [← one]
    exact magnitudeOfQuotient_units format 1
  have atLeast : magnitudeOfQuotient format 1 1 ≤ magnitudeOfQuotient format size 1 :=
    magnitudeOfQuotient_mono Nat.one_pos (Nat.pos_of_ne_zero notZero)
  omega

/-- A sum with a number that is not the negative zero is not that either. -/
theorem magnitude_add_ne_zero (notNegativeZero : left.negative = true → left.magnitude ≠ 0)
    (negative : (left + right).negative = true) : (left + right).magnitude ≠ 0 := by
  have infinity := infinity_pos format
  have isSum := isSumOf_add left right
  generalize left + right = sum at isSum negative ⊢
  cases isSum with
  | leftNaN notNumber =>
    exact magnitude_ne_zero_of_isNaN ((isNaN_quieted left).trans notNumber)
  | rightNaN notNumber =>
    exact magnitude_ne_zero_of_isNaN ((isNaN_quieted right).trans notNumber)
  | opposed =>
    show format.infinity + format.quietBit ≠ 0
    omega
  | leftInfinite infinite | rightInfinite infinite => exact magnitude_ne_zero_of_isInfinite infinite
  | cancelled opposite =>
    -- Both are negative, so neither can make up for the other.
    obtain ⟨leftNegative, rightNegative⟩ := Bool.and_eq_true_iff.mp negative
    rw [signedUnits, signedUnits, leftNegative, rightNegative, if_pos rfl, if_pos rfl] at opposite
    have units : left.units = 0 := by omega
    exact absurd (units_eq_zero_iff.mp units) (notNegativeZero leftNegative)
  | @rounded _ size notZero =>
    have least := magnitudeOfQuotient_one_ne_zero format notZero
    show min (magnitudeOfQuotient format size 1) format.infinity ≠ 0
    omega

/-- One minus a number is never the negative zero. -/
theorem magnitude_one_sub_ne_zero {number : Single} (negative : (1 - number).negative = true) :
    (1 - number).magnitude ≠ 0 := by
  have difference : 1 - number = 1 + number ∨ 1 - number = 1 + number.neg := by
    change (1 : Single).sub number = _ ∨ (1 : Single).sub number = _
    unfold sub
    split
    · exact .inl rfl
    · exact .inr rfl
  have notZero : (1 : Single).magnitude ≠ 0 := by decide +kernel
  rcases difference with same | same <;> rw [same] at negative ⊢ <;>
    exact magnitude_add_ne_zero (fun _ => notZero) negative

/-! ### Operations without a result -/

/-- Whether a number, in case it is not one, is the answer of an operation without a result. -/
def Untainted (number : Binary format) : Prop :=
  number.isNaN = true → number = invalid

theorem untainted_of_isNaN (isNumber : number.isNaN = false) : number.Untainted := by
  intro notNumber
  rw [isNumber] at notNumber
  contradiction

theorem untainted_ofInt (format : BinaryFormat) (value : Int) :
    (ofInt value : Binary format).Untainted :=
  untainted_of_isNaN (isNaN_ofQuotient format _ _ _)

theorem untainted_invalid : (invalid : Binary format).Untainted :=
  fun _ => rfl

/-- The answer of an operation without a result is the same in every format. -/
theorem convert_invalid : (invalid : Binary format).convert = (invalid : Binary target) := by
  have half (format : BinaryFormat) : 2 * format.quietBit = format.binade := by
    rw [BinaryFormat.quietBit, BinaryFormat.binade, Nat.mul_comm, ← twoTo_succ,
      Nat.sub_add_cancel format.fractionBits_pos]
  have notNumber : (invalid : Binary format).isNaN = true :=
    decide_eq_true (Nat.lt_add_of_pos_right (twoTo_pos _))
  have payload : (format.infinity + format.quietBit - format.infinity) * target.binade /
      format.binade = target.quietBit := by
    have positive : 0 < format.quietBit := twoTo_pos _
    rw [Nat.add_sub_cancel_left, ← half target, ← half format, Nat.mul_left_comm,
      Nat.mul_div_mul_left _ _ (by decide), Nat.mul_div_cancel_left _ positive]
  refine eq_of_negative_of_magnitude (negative_convert _) ?_
  unfold convert
  rw [if_pos notNumber]
  show target.infinity + ((format.infinity + format.quietBit - format.infinity) * target.binade /
    format.binade % target.quietBit + target.quietBit) = target.infinity + target.quietBit
  rw [payload, Nat.mod_self, Nat.zero_add]

/-- An operation passes on what it is given, if that is not a number. -/
theorem Untainted.convert (untainted : number.Untainted) :
    (number.convert : Binary target).Untainted := by
  intro notNumber
  rw [isNaN_convert] at notNumber
  rw [untainted notNumber, convert_invalid]

theorem Untainted.quieted (untainted : number.Untainted) : number.quieted.Untainted := by
  unfold Binary.quieted
  split
  · exact untainted.convert
  · exact untainted

theorem untainted_of_isInfinite (infinite : number.isInfinite = true) : number.Untainted :=
  untainted_of_isNaN (decide_eq_false (of_decide_eq_true infinite).le.not_gt)

theorem Untainted.add (leftUntainted : left.Untainted) (rightUntainted : right.Untainted) :
    (left + right).Untainted := by
  have isSum := isSumOf_add left right
  generalize left + right = sum at isSum ⊢
  cases isSum with
  | leftNaN => exact leftUntainted.quieted
  | rightNaN => exact rightUntainted.quieted
  | opposed => exact untainted_invalid
  | leftInfinite infinite | rightInfinite infinite => exact untainted_of_isInfinite infinite
  | cancelled => exact untainted_of_isNaN (isNaN_zero format _)
  | rounded => exact untainted_of_isNaN (isNaN_ofQuotient format _ _ _)

theorem Untainted.sub (leftUntainted : left.Untainted) (rightUntainted : right.Untainted) :
    (left - right).Untainted := by
  change (left.sub right).Untainted
  unfold Binary.sub
  split
  · exact leftUntainted.add rightUntainted
  · rename_i isNumber
    exact leftUntainted.add (untainted_of_isNaN (Bool.eq_false_of_not_eq_true isNumber))

theorem Untainted.mul (leftUntainted : left.Untainted) (rightUntainted : right.Untainted) :
    (left * right).Untainted := by
  change (left.mul right).Untainted
  unfold Binary.mul
  dsimp only
  split
  · exact leftUntainted.quieted
  · split
    · exact rightUntainted.quieted
    · split
      · split
        · exact untainted_invalid
        · exact untainted_of_isNaN (isNaN_infinity format _)
      · exact untainted_of_isNaN (isNaN_ofQuotient format _ _ _)

theorem Untainted.div (leftUntainted : left.Untainted) (rightUntainted : right.Untainted) :
    (left / right).Untainted := by
  change (left.div right).Untainted
  unfold Binary.div
  dsimp only
  split
  · exact leftUntainted.quieted
  · split
    · exact rightUntainted.quieted
    · split
      · split
        · exact untainted_invalid
        · exact untainted_of_isNaN (isNaN_infinity format _)
      · split
        · exact untainted_of_isNaN (isNaN_zero format _)
        · split
          · split
            · exact untainted_invalid
            · exact untainted_of_isNaN (isNaN_infinity format _)
          · exact untainted_of_isNaN (isNaN_ofQuotient format _ _ _)

theorem Untainted.sqrt (untainted : number.Untainted) : number.sqrt.Untainted := by
  unfold Binary.sqrt
  split
  · exact untainted.quieted
  · split
    · exact untainted
    · split
      · exact untainted_invalid
      · split
        · exact untainted
        · exact untainted_of_isNaN (isNaN_ofQuotient format _ _ _)

theorem Untainted.clamp (untainted : number.Untainted) (lowUntainted : low.Untainted)
    (highUntainted : high.Untainted) : (number.clamp low high).Untainted := by
  unfold Binary.clamp
  split
  · exact lowUntainted
  · split
    · exact highUntainted
    · exact untainted

end Number.Binary

/-! ### Similarities -/

namespace Cosine

/-- Whether no sum over two vectors is tainted. -/
structure Sums.Untainted (sums : Sums) : Prop where
  product : sums.product.Untainted
  leftSquare : sums.leftSquare.Untainted
  rightSquare : sums.rightSquare.Untainted

theorem Sums.Untainted.add {sums : Sums} (untainted : sums.Untainted)
    {components : Single × Single} (leftNumber : components.1.isNaN = false)
    (rightNumber : components.2.isNaN = false) : (sums.add components).Untainted := by
  have left : (components.1.convert : Double).Untainted :=
    (Binary.untainted_of_isNaN leftNumber).convert
  have right : (components.2.convert : Double).Untainted :=
    (Binary.untainted_of_isNaN rightNumber).convert
  exact
    { product := untainted.product.add (left.mul right)
      leftSquare := untainted.leftSquare.add (left.mul left)
      rightSquare := untainted.rightSquare.add (right.mul right) }

theorem Sums.Untainted.foldl {sums : Sums} (untainted : sums.Untainted)
    {components : List (Single × Single)}
    (numbers : ∀ pair ∈ components, pair.1.isNaN = false ∧ pair.2.isNaN = false) :
    (components.foldl Sums.add sums).Untainted := by
  induction components generalizing sums with
  | nil => exact untainted
  | cons pair components inductionHypothesis =>
    obtain ⟨⟨leftNumber, rightNumber⟩, later⟩ := List.forall_mem_cons.mp numbers
    exact inductionHypothesis (untainted.add leftNumber rightNumber) later

theorem Sums.Untainted.distance {sums : Sums} (untainted : sums.Untainted) :
    sums.distance.Untainted := by
  have one : (1 : Double).Untainted := Binary.untainted_ofInt .double 1
  have minusOne : (-1 : Double).Untainted := Binary.untainted_of_isNaN (by decide +kernel)
  unfold Sums.distance
  dsimp only
  split
  · exact Binary.untainted_ofInt .single 1
  · refine (one.sub (Binary.Untainted.clamp ?_ minusOne one)).convert
    exact untainted.product.div (untainted.leftSquare.mul untainted.rightSquare).sqrt

/-- The similarity of vectors without a not-a-number in them is a number or what an operation
without a result gives. -/
theorem untainted_similarity {stored : Option (List Single)} {query : List Single}
    (storedNumbers : ∀ components, stored = some components →
      ∀ component ∈ components, component.isNaN = false)
    (queryNumbers : ∀ component ∈ query, component.isNaN = false) :
    (similarity stored (some query)).Untainted := by
  have one : (1 : Single).Untainted := Binary.untainted_ofInt .single 1
  have greatest : greatestDistance.Untainted := Binary.untainted_of_isNaN (by decide +kernel)
  refine one.sub ?_
  cases stored with
  | none => exact greatest
  | some components =>
    show Binary.Untainted (if components.length = query.length then
      ((components.zip query).foldl Sums.add {}).distance else greatestDistance)
    split
    · have nothing : (0 : Double).Untainted := Binary.untainted_ofInt .double 0
      have empty : Sums.Untainted {} := ⟨nothing, nothing, nothing⟩
      refine (empty.foldl fun pair member => ?_).distance
      exact ⟨storedNumbers components rfl _ (List.of_mem_zip member).1,
        queryNumbers _ (List.of_mem_zip member).2⟩
    · exact greatest

end Cosine

end RecordQuery

/-
This file says how operations on binary numbers keep order.

Each operation rounds its exact result once, and rounding never puts one quotient above another that
is greater. So the sum of finite numbers grows with what is added, a product with the exact product
of its factors, and a number of another format with the number. A number that is held between two
others stands between them.
-/

import RecordQuery.Proofs.Unrounded

namespace RecordQuery.Number.Binary

variable {format target : BinaryFormat} {left right otherLeft otherRight number low high :
  Binary format}

/-! ### Places -/

theorem ordinal_neg (number : Binary format) : number.neg.ordinal = -number.ordinal := by
  unfold ordinal neg
  cases number.negative <;> simp

/-- A number between the infinities is finite. -/
theorem isFinite_of_ordinal (above : -(format.infinity : Int) < number.ordinal)
    (below : number.ordinal < format.infinity) : number.isFinite = true := by
  refine decide_eq_true ?_
  unfold ordinal at above below
  split at below <;> rename_i sign
  · rw [if_pos sign] at above
    omega
  · omega

/-- What stands in no other place than a finite number is finite. -/
theorem isFinite_of_between (lowFinite : low.isFinite = true) (highFinite : high.isFinite = true)
    (above : low.ordinal ≤ number.ordinal) (below : number.ordinal ≤ high.ordinal) :
    number.isFinite = true := by
  have lowBound : low.magnitude < format.infinity := of_decide_eq_true lowFinite
  have highBound : high.magnitude < format.infinity := of_decide_eq_true highFinite
  have lowPlace : -(low.magnitude : Int) ≤ low.ordinal := by unfold ordinal; split <;> omega
  have highPlace : high.ordinal ≤ high.magnitude := by unfold ordinal; split <;> omega
  exact isFinite_of_ordinal (by omega) (by omega)

/-! ### Rounded results -/

theorem magnitudeOfQuotient_zero (format : BinaryFormat) (denominator : Nat) :
    magnitudeOfQuotient format 0 denominator = 0 := by
  simp [magnitudeOfQuotient, nearestEven]

/-- Of two exact results the greater one is never rounded to the earlier place. -/
theorem ordinal_ofQuotient_mono {negative otherNegative : Bool} {size otherSize denominator : Nat}
    (positive : 0 < denominator)
    (le : (if negative then -(size : Int) else size) ≤
      if otherNegative then -(otherSize : Int) else otherSize) :
    (ofQuotient negative size denominator : Binary format).ordinal ≤
      (ofQuotient otherNegative otherSize denominator : Binary format).ordinal := by
  have rounded {smaller larger : Nat} (sizes : smaller ≤ larger) :
      min (magnitudeOfQuotient format smaller denominator) format.infinity ≤
        min (magnitudeOfQuotient format larger denominator) format.infinity :=
    min_le_min_right _ (magnitudeOfQuotient_mono positive sizes)
  have place (negative : Bool) (size : Nat) :
      (ofQuotient negative size denominator : Binary format).ordinal =
        if negative then -((min (magnitudeOfQuotient format size denominator) format.infinity : Nat)
          : Int) else (min (magnitudeOfQuotient format size denominator) format.infinity : Nat) :=
    rfl
  rw [place, place]
  cases negative <;> cases otherNegative <;>
    simp only [Bool.false_eq_true, if_true, if_false] at le ⊢
  · exact Int.ofNat_le.mpr (rounded (Int.ofNat_le.mp le))
  · obtain rfl : size = 0 := by omega
    obtain rfl : otherSize = 0 := by omega
    rw [magnitudeOfQuotient_zero, Nat.zero_min]
    exact le_rfl
  · omega
  · exact Int.neg_le_neg (Int.ofNat_le.mpr (rounded (by omega)))

/-- A sum of finite numbers stands where the exact sum is rounded to. -/
theorem ordinal_add (leftFinite : left.isFinite = true) (rightFinite : right.isFinite = true) :
    (left + right).ordinal =
      (ofQuotient (decide (left.signedUnits + right.signedUnits < 0))
        (left.signedUnits + right.signedUnits).natAbs 1 : Binary format).ordinal := by
  rw [add_of_isFinite leftFinite rightFinite]
  split
  · rename_i cancelled
    have place : (zero (left.negative && right.negative) : Binary format).ordinal = 0 := by
      cases left.negative && right.negative <;> rfl
    have rounded : (ofQuotient false 0 1 : Binary format).ordinal = 0 := by
      show ((min (magnitudeOfQuotient format 0 1) format.infinity : Nat) : Int) = 0
      rw [magnitudeOfQuotient_zero, Nat.zero_min]
      rfl
    rw [cancelled, place]
    exact rounded.symm
  · rfl

/-- The greater what is added, the greater the sum. -/
theorem ordinal_add_mono (leftFinite : left.isFinite = true) (rightFinite : right.isFinite = true)
    (otherLeftFinite : otherLeft.isFinite = true) (otherRightFinite : otherRight.isFinite = true)
    (leftLe : left.ordinal ≤ otherLeft.ordinal) (rightLe : right.ordinal ≤ otherRight.ordinal) :
    (left + right).ordinal ≤ (otherLeft + otherRight).ordinal := by
  have whole (value : Int) :
      (if decide (value < 0) then -(value.natAbs : Int) else value.natAbs) = value := by
    split <;> rename_i sign
    · have := of_decide_eq_true sign
      omega
    · have := of_decide_eq_false (Bool.eq_false_of_not_eq_true sign)
      omega
  rw [ordinal_add leftFinite rightFinite, ordinal_add otherLeftFinite otherRightFinite]
  refine ordinal_ofQuotient_mono Nat.one_pos ?_
  rw [whole, whole]
  exact Int.add_le_add (signedUnits_le_signedUnits_iff.mpr leftLe)
    (signedUnits_le_signedUnits_iff.mpr rightLe)

theorem sub_of_isFinite (finite : right.isFinite = true) : left - right = left + right.neg := by
  change left.sub right = left.add right.neg
  unfold sub
  rw [isNaN_of_isFinite finite]
  rfl

/-- The greater what is taken away, the less is left. -/
theorem ordinal_sub_anti (leftFinite : left.isFinite = true) (rightFinite : right.isFinite = true)
    (otherFinite : otherRight.isFinite = true) (le : right.ordinal ≤ otherRight.ordinal) :
    (left - otherRight).ordinal ≤ (left - right).ordinal := by
  have opposite : otherRight.neg.ordinal ≤ right.neg.ordinal := by
    rw [ordinal_neg, ordinal_neg]
    exact Int.neg_le_neg le
  rw [sub_of_isFinite rightFinite, sub_of_isFinite otherFinite]
  exact ordinal_add_mono leftFinite otherFinite leftFinite rightFinite le_rfl opposite

theorem mul_of_isFinite (leftFinite : left.isFinite = true) (rightFinite : right.isFinite = true) :
    left * right = ofQuotient (left.negative != right.negative) (left.units * right.units)
      format.unitsInOne := by
  change left.mul right = _
  unfold mul
  simp only [isNaN_of_isFinite leftFinite, isNaN_of_isFinite rightFinite,
    isInfinite_of_isFinite leftFinite, isInfinite_of_isFinite rightFinite, Bool.false_eq_true,
    Bool.or_false, if_false]

/-- The greater the exact product, the greater the product. -/
theorem ordinal_mul_mono (leftFinite : left.isFinite = true) (rightFinite : right.isFinite = true)
    (otherLeftFinite : otherLeft.isFinite = true) (otherRightFinite : otherRight.isFinite = true)
    (le : left.signedUnits * right.signedUnits ≤ otherLeft.signedUnits * otherRight.signedUnits) :
    (left * right).ordinal ≤ (otherLeft * otherRight).ordinal := by
  have product (left right : Binary format) :
      (if left.negative != right.negative then -((left.units * right.units : Nat) : Int)
        else (left.units * right.units : Nat)) = left.signedUnits * right.signedUnits := by
    unfold signedUnits
    cases left.negative <;> cases right.negative <;> simp
  rw [mul_of_isFinite leftFinite rightFinite, mul_of_isFinite otherLeftFinite otherRightFinite]
  refine ordinal_ofQuotient_mono format.unitsInOne_pos ?_
  rwa [product, product]

theorem convert_of_isFinite (finite : number.isFinite = true) :
    (number.convert : Binary target) =
      ofQuotient number.negative (number.units * target.unitsInOne) format.unitsInOne := by
  unfold convert
  rw [isNaN_of_isFinite finite, isInfinite_of_isFinite finite]
  rfl

/-- The greater the number, the greater it is in another format. -/
theorem ordinal_convert_mono (leftFinite : left.isFinite = true)
    (rightFinite : right.isFinite = true) (le : left.ordinal ≤ right.ordinal) :
    (left.convert : Binary target).ordinal ≤ (right.convert : Binary target).ordinal := by
  have scaled (number : Binary format) :
      (if number.negative then -((number.units * target.unitsInOne : Nat) : Int)
        else (number.units * target.unitsInOne : Nat)) =
          number.signedUnits * target.unitsInOne := by
    unfold signedUnits
    cases number.negative <;> simp
  rw [convert_of_isFinite leftFinite, convert_of_isFinite rightFinite]
  refine ordinal_ofQuotient_mono format.unitsInOne_pos ?_
  rw [scaled, scaled]
  exact Int.mul_le_mul_of_nonneg_right (signedUnits_le_signedUnits_iff.mpr le)
    (Int.natCast_nonneg _)

/-! ### Bounds -/

/-- What is held between two numbers stands between them. -/
theorem ordinal_clamp (isNumber : number.isNaN = false) (lowNumber : low.isNaN = false)
    (highNumber : high.isNaN = false) (le : low.ordinal ≤ high.ordinal) :
    low.ordinal ≤ (number.clamp low high).ordinal ∧
      (number.clamp low high).ordinal ≤ high.ordinal := by
  unfold clamp compare?
  simp only [isNumber, lowNumber, highNumber, Bool.or_false, Bool.false_eq_true, if_false]
  split
  · exact ⟨le_rfl, le⟩
  · rename_i notBelow
    have above : low.ordinal ≤ number.ordinal := by simpa [Int.compare_eq_lt] using notBelow
    split
    · exact ⟨le, le_rfl⟩
    · rename_i notAbove
      exact ⟨above, by simpa [Int.compare_eq_gt] using notAbove⟩

end RecordQuery.Number.Binary

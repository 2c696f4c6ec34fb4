/-
This file proves that rounding keeps the order of numbers, and where it loses nothing.

A quotient is rounded in its own binade, and one that rounds up out of it lands on the first
magnitude of the next. So rounding never puts one quotient above another that is greater, but it can
put both in one place. It does not do so with integers that are no greater than two to the power of
one more than the fraction bits: each of those is a number of the format. Above that, not every
integer is one.
-/

import Mathlib.Algebra.Ring.Nat
import Mathlib.Data.Nat.Log
import Mathlib.Data.Set.Function
import RecordQuery.Number.Word

namespace RecordQuery.Number

/-! ### Rounding to a natural number -/

/-- Half a step is the most that rounding moves a quotient, so two quotients that change places
were the same. -/
theorem nearestEven_mono {denominator smaller larger : Nat} (positive : 0 < denominator)
    (le : smaller ≤ larger) :
    nearestEven smaller denominator ≤ nearestEven larger denominator := by
  by_contra crossed
  have above : nearestEven larger denominator + 1 ≤ nearestEven smaller denominator :=
    Nat.not_le.mp crossed
  have step := Nat.mul_le_mul_right denominator above
  obtain ⟨_, low⟩ := nearestEven_within_half smaller denominator positive
  obtain ⟨high, _⟩ := nearestEven_within_half larger denominator positive
  have same : smaller = larger := by
    rw [Nat.add_mul, Nat.mul_assoc] at high
    rw [Nat.mul_assoc] at low
    rw [Nat.add_mul] at step
    omega
  rw [same] at crossed
  exact crossed le_rfl

namespace Binary

variable {format : BinaryFormat} {numerator denominator smaller larger : Nat}

/-! ### The binade of a quotient -/

/-- How many binades a quotient of units lies above those that hold every natural number. -/
def coarseness (format : BinaryFormat) (numerator denominator : Nat) : Nat :=
  (numerator / denominator).log2 - format.fractionBits

/-- The size of a step between magnitudes around a quotient, times the denominator. -/
def stepAt (format : BinaryFormat) (numerator denominator : Nat) : Nat :=
  denominator * twoTo (coarseness format numerator denominator)

theorem magnitudeOfQuotient_eq (format : BinaryFormat) (numerator denominator : Nat) :
    magnitudeOfQuotient format numerator denominator =
      coarseness format numerator denominator * format.binade +
        nearestEven numerator (stepAt format numerator denominator) :=
  rfl

theorem coarseness_mono (format : BinaryFormat) (denominator : Nat) (le : smaller ≤ larger) :
    coarseness format smaller denominator ≤ coarseness format larger denominator := by
  unfold coarseness
  rw [Nat.log2_eq_log_two, Nat.log2_eq_log_two]
  exact Nat.sub_le_sub_right (Nat.log_mono_right (Nat.div_le_div_right le)) _

theorem stepAt_pos (format : BinaryFormat) (numerator : Nat) (positive : 0 < denominator) :
    0 < stepAt format numerator denominator :=
  Nat.mul_pos positive (twoTo_pos _)

/-- A quotient has fewer steps than two binades have significands. -/
theorem lt_mul_binade (format : BinaryFormat) (numerator : Nat) (positive : 0 < denominator) :
    numerator < stepAt format numerator denominator * (2 * format.binade) := by
  have bounded : numerator / denominator <
      twoTo (coarseness format numerator denominator) * (2 * format.binade) := by
    calc numerator / denominator < twoTo ((numerator / denominator).log2 + 1) := Nat.lt_log2_self
      _ ≤ twoTo (coarseness format numerator denominator + (format.fractionBits + 1)) :=
        Nat.pow_le_pow_right (by decide) (by unfold coarseness; omega)
      _ = _ := by rw [twoTo_add, twoTo_succ, Nat.mul_comm 2]; rfl
  rw [Nat.div_lt_iff_lt_mul positive] at bounded
  rwa [stepAt, Nat.mul_assoc, Nat.mul_comm]

/-- A quotient that lies above the first binades has as many steps as a binade has significands. -/
theorem mul_binade_le (positive : 0 < denominator)
    (coarse : 0 < coarseness format numerator denominator) :
    stepAt format numerator denominator * format.binade ≤ numerator := by
  have exponent : (numerator / denominator).log2 =
      coarseness format numerator denominator + format.fractionBits := by
    unfold coarseness at coarse ⊢
    omega
  have nonzero : numerator / denominator ≠ 0 := by
    intro zero
    rw [coarseness, zero, Nat.log2_zero, Nat.zero_sub] at coarse
    exact absurd coarse (Nat.lt_irrefl 0)
  have reached : twoTo (coarseness format numerator denominator) * format.binade ≤
      numerator / denominator := by
    rw [BinaryFormat.binade, ← twoTo_add, ← exponent]
    exact Nat.log2_self_le nonzero
  rw [Nat.le_div_iff_mul_le positive] at reached
  rwa [stepAt, Nat.mul_assoc, Nat.mul_comm]

/-! ### Order -/

theorem nearestEven_stepAt_le (format : BinaryFormat) (numerator : Nat)
    (positive : 0 < denominator) :
    nearestEven numerator (stepAt format numerator denominator) ≤ 2 * format.binade := by
  have step := stepAt_pos format numerator positive
  have whole := nearestEven_mul_left (2 * format.binade) _ step
  exact (nearestEven_mono step (lt_mul_binade format numerator positive).le).trans_eq whole

theorem binade_le_nearestEven_stepAt (positive : 0 < denominator)
    (coarse : 0 < coarseness format numerator denominator) :
    format.binade ≤ nearestEven numerator (stepAt format numerator denominator) := by
  have step := stepAt_pos format numerator positive
  have whole := nearestEven_mul_left format.binade _ step
  exact whole.symm.trans_le (nearestEven_mono step (mul_binade_le positive coarse))

/-- Of two quotients the greater one never has the smaller magnitude. -/
theorem magnitudeOfQuotient_mono (positive : 0 < denominator) (le : smaller ≤ larger) :
    magnitudeOfQuotient format smaller denominator ≤
      magnitudeOfQuotient format larger denominator := by
  rw [magnitudeOfQuotient_eq, magnitudeOfQuotient_eq]
  rcases Nat.eq_or_lt_of_le (coarseness_mono format denominator le) with same | further
  · have sameStep : stepAt format smaller denominator = stepAt format larger denominator := by
      rw [stepAt, stepAt, same]
    rw [same, sameStep]
    exact Nat.add_le_add_left (nearestEven_mono (stepAt_pos format larger positive) le) _
  · have upper := nearestEven_stepAt_le format smaller positive
    have lower := binade_le_nearestEven_stepAt positive (Nat.zero_lt_of_lt further)
    have binades := Nat.mul_le_mul_right format.binade further
    rw [Nat.succ_mul] at binades
    omega

/-- Rounding integers keeps their order. -/
theorem rank_ofInt_mono {smaller larger : Int} (le : smaller ≤ larger) :
    (ofInt smaller : Binary format).rank ≤ (ofInt larger : Binary format).rank := by
  have magnitudes : ∀ {low high : Int}, low.natAbs ≤ high.natAbs →
      (ofInt low : Binary format).magnitude ≤ (ofInt high : Binary format).magnitude := by
    intro low high sizes
    have rounded := @magnitudeOfQuotient_mono format 1 _ _ Nat.one_pos
      (Nat.mul_le_mul_right format.unitsInOne sizes)
    exact Nat.le_min.mpr ⟨(Nat.min_le_left _ _).trans rounded, Nat.min_le_right _ _⟩
  have sign : ∀ value : Int, (ofInt value : Binary format).negative = decide (value < 0) :=
    fun _ => rfl
  unfold rank
  rw [sign, sign]
  by_cases smallerNegative : smaller < 0
  · by_cases largerNegative : larger < 0
    · have sizes := @magnitudes larger smaller (by omega)
      rw [decide_eq_true smallerNegative, decide_eq_true largerNegative, if_pos rfl, if_pos rfl]
      omega
    · rw [decide_eq_true smallerNegative, decide_eq_false largerNegative, if_pos rfl,
        if_neg Bool.false_ne_true]
      omega
  · have sizes := @magnitudes smaller larger (by omega)
    rw [decide_eq_false smallerNegative, decide_eq_false (by omega : ¬ larger < 0),
      if_neg Bool.false_ne_true, if_neg Bool.false_ne_true]
    exact Int.ofNat_le.mpr sizes

/-! ### Integers that are numbers of the format -/

theorem units_above (format : BinaryFormat) (coarseness : Nat) {significand : Nat}
    (enough : format.binade ≤ significand) (bounded : significand < 2 * format.binade) :
    format.units (coarseness * format.binade + significand) =
      significand * twoTo coarseness := by
  obtain ⟨fraction, rfl⟩ := Nat.exists_eq_add_of_le enough
  have small : fraction < format.binade := by omega
  have parts : coarseness * format.binade + (format.binade + fraction) =
      format.binade * (coarseness + 1) + fraction := by
    rw [Nat.mul_succ, Nat.mul_comm, Nat.add_assoc]
  have exponent : (coarseness * format.binade + (format.binade + fraction)) / format.binade =
      coarseness + 1 := by
    rw [parts, Nat.mul_add_div format.binade_pos, Nat.div_eq_of_lt small, Nat.add_zero]
  have rest : (coarseness * format.binade + (format.binade + fraction)) % format.binade =
      fraction := by
    rw [parts, Nat.mul_add_mod, Nat.mod_eq_of_lt small]
  simp only [BinaryFormat.units, exponent, rest, Nat.succ_ne_zero, if_false, Nat.add_sub_cancel]

/-- A number of units that is a whole number of steps is the value of its magnitude. -/
theorem units_magnitudeOfQuotient {size : Nat}
    (divides : twoTo (coarseness format size 1) ∣ size) :
    format.units (magnitudeOfQuotient format size 1) = size := by
  obtain ⟨significand, whole⟩ := divides
  have step : stepAt format size 1 = twoTo (coarseness format size 1) := Nat.one_mul _
  have rounded : nearestEven size (stepAt format size 1) = significand := by
    rw [step]
    exact (congrArg (nearestEven · _) whole).trans (nearestEven_mul_left _ _ (twoTo_pos _))
  have bounded : significand < 2 * format.binade := by
    have steps := lt_mul_binade format size Nat.one_pos
    rw [step] at steps
    exact Nat.lt_of_mul_lt_mul_left (whole.symm.trans_lt steps)
  rw [magnitudeOfQuotient_eq, rounded]
  by_cases enough : format.binade ≤ significand
  · rw [units_above format _ enough bounded, Nat.mul_comm]
    exact whole.symm
  · have fine : coarseness format size 1 = 0 := by
      refine Nat.eq_zero_of_not_pos fun coarse => enough ?_
      have steps := mul_binade_le Nat.one_pos coarse
      rw [step] at steps
      exact Nat.le_of_mul_le_mul_left (steps.trans_eq whole) (twoTo_pos _)
    rw [fine, twoTo, Nat.pow_eq, Nat.pow_zero, Nat.one_mul] at whole
    have small := Nat.not_le.mp enough
    rw [fine, Nat.zero_mul, Nat.zero_add, whole]
    simp only [BinaryFormat.units, Nat.div_eq_of_lt small, Nat.mod_eq_of_lt small, if_true]

/-- An integer that is not too great is a whole number of the steps around it. -/
theorem twoTo_coarseness_dvd {significand : Nat} (bounded : significand ≤ 2 * format.binade)
    (shift : Nat) :
    twoTo (coarseness format (significand * twoTo shift) 1) ∣ significand * twoTo shift := by
  have greatest : 2 * format.binade = twoTo (format.fractionBits + 1) := Nat.mul_comm _ _
  rw [greatest] at bounded
  rcases Nat.eq_or_lt_of_le bounded with rfl | less
  · rw [← twoTo_add, coarseness, Nat.div_one]
    refine Nat.pow_dvd_pow 2 ?_
    rw [twoTo, Nat.pow_eq, Nat.log2_two_pow]
    exact Nat.sub_le _ _
  · have below : significand * twoTo shift < 2 ^ (format.fractionBits + 1 + shift) := by
      rw [Nat.pow_add]
      exact Nat.mul_lt_mul_of_pos_right less (twoTo_pos shift)
    have exponent : (significand * twoTo shift).log2 < format.fractionBits + 1 + shift := by
      rw [Nat.log2_eq_log_two]
      exact Nat.log_lt_of_lt_pow' (by omega) below
    refine Nat.dvd_mul_left_of_dvd (Nat.pow_dvd_pow 2 ?_) significand
    rw [coarseness, Nat.div_one]
    omega

/-- Integers that are not too great are far from infinity. -/
theorem magnitudeOfQuotient_le_infinity {size : Nat}
    (bounded : size ≤ 2 * BinaryFormat.double.binade) :
    magnitudeOfQuotient .double (size * BinaryFormat.double.unitsInOne) 1 ≤
      BinaryFormat.double.infinity :=
  (magnitudeOfQuotient_mono Nat.one_pos (Nat.mul_le_mul_right _ bounded)).trans
    (by decide +kernel)

/-- An integer that keeps its size in rounding keeps its value. -/
theorem signedUnits_ofInt_of_units {value : Int}
    (size : (ofInt value : Binary format).units = value.natAbs * format.unitsInOne) :
    (ofInt value : Binary format).signedUnits = value * format.unitsInOne := by
  rw [signedUnits, size]
  by_cases negative : value < 0
  · rw [show (ofInt value : Binary format).negative = true from decide_eq_true negative,
      if_pos rfl, Int.natCast_mul, ← Int.neg_mul, Int.ofNat_natAbs_of_nonpos negative.le,
      Int.neg_neg]
  · rw [show (ofInt value : Binary format).negative = false from decide_eq_false negative,
      if_neg Bool.false_ne_true, Int.natCast_mul, Int.natAbs_of_nonneg (Int.not_lt.mp negative)]

/-- An integer that is not too great is a double. -/
theorem signedUnits_ofInt {value : Int}
    (bounded : value.natAbs ≤ 2 * BinaryFormat.double.binade) :
    (ofInt value : Double).signedUnits = value * BinaryFormat.double.unitsInOne := by
  have finite : (ofInt value : Double).magnitude = magnitudeOfQuotient .double
      (value.natAbs * BinaryFormat.double.unitsInOne) 1 :=
    Nat.min_eq_left (magnitudeOfQuotient_le_infinity bounded)
  refine signedUnits_ofInt_of_units ?_
  rw [units, finite]
  exact units_magnitudeOfQuotient (twoTo_coarseness_dvd bounded _)

end Binary

/-! ### Words -/

/-- Words are rounded to doubles in their order. -/
theorem rank_wordToDouble_mono {smaller larger : Int64} (le : smaller ≤ larger) :
    (wordToDouble smaller).rank ≤ (wordToDouble larger).rank :=
  Binary.rank_ofInt_mono (Int64.le_iff_toInt_le.mp le)

/-- Words that are rounded apart stand in the order of their doubles. -/
theorem rank_wordToDouble_le_iff {words : Set Int64} (apart : words.InjOn wordToDouble)
    {word other : Int64} (member : word ∈ words) (otherMember : other ∈ words) :
    (wordToDouble word).rank ≤ (wordToDouble other).rank ↔ word ≤ other := by
  refine ⟨fun le => ?_, rank_wordToDouble_mono⟩
  rcases Int64.le_total word other with inOrder | reversed
  · exact inOrder
  · have level := Int.le_antisymm le (rank_wordToDouble_mono reversed)
    rw [apart member otherMember (Binary.rank_injective level)]
    exact Int64.le_refl other

/-- Words of at most two to the power of fifty-three are doubles, each another one. -/
theorem injOn_wordToDouble :
    Set.InjOn wordToDouble {word : Int64 | word.toInt.natAbs ≤ 2 ^ 53} := by
  intro word bounded other otherBounded same
  have units := congrArg Binary.signedUnits same
  rw [wordToDouble, wordToDouble, Binary.signedUnits_ofInt bounded,
    Binary.signedUnits_ofInt otherBounded] at units
  have nonzero : (BinaryFormat.double.unitsInOne : Int) ≠ 0 :=
    Int.natCast_ne_zero.mpr BinaryFormat.double.unitsInOne_pos.ne'
  exact Int64.toInt_inj.mp (Int.eq_of_mul_eq_mul_right nonzero units)

/-- Above that, two words can be rounded to one double. -/
theorem wordToDouble_eq_of_odd : wordToDouble 9007199254740993 = wordToDouble 9007199254740992 := by
  decide +kernel

end RecordQuery.Number

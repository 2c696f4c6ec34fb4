/-
This file says which number a value is, exactly, and how words and doubles become one another.

A finite number of a binary format is rational, and the infinities lie beyond all rational numbers.
Of two numbers that are not not-a-numbers, the one in the later place is the greater one, and those
in one place are the same. A double that is the same number as a word becomes that word, and the
word becomes a double in the same place. Only one double becomes a word that is another number: the
double nearest to the greatest word is greater than it by one, and it becomes that word.
-/

import Mathlib.Algebra.Order.Field.Basic
import Mathlib.Algebra.Order.Field.Rat
import Mathlib.Data.Rat.Cast.Order
import Mathlib.Order.WithBotTop
import RecordQuery.Proofs.Means
import RecordQuery.Value.Basic

namespace RecordQuery

open Number

namespace Number

namespace Binary

variable {format : BinaryFormat} {left right number : Binary format}

/-! ### Binary numbers -/

/-- The number that a binary number is: a rational one or an infinity. -/
def exact (number : Binary format) : WithBotTop ℚ :=
  if number.isInfinite then if number.negative then ⊥ else ⊤
  else ((number.signedUnits / format.unitsInOne : ℚ) : WithBotTop ℚ)

/-- Values are in the order of their places. -/
theorem signedUnits_le_signedUnits_iff :
    left.signedUnits ≤ right.signedUnits ↔ left.ordinal ≤ right.ordinal := by
  have sizes : left.units ≤ right.units ↔ left.magnitude ≤ right.magnitude :=
    format.units_strictMono.le_iff_le
  have sizesBack : right.units ≤ left.units ↔ right.magnitude ≤ left.magnitude :=
    format.units_strictMono.le_iff_le
  have leftZero : left.units = 0 ↔ left.magnitude = 0 := units_eq_zero_iff
  have rightZero : right.units = 0 ↔ right.magnitude = 0 := units_eq_zero_iff
  unfold signedUnits ordinal
  cases left.negative <;> cases right.negative <;>
    simp only [Bool.false_eq_true, if_true, if_false] <;> omega

theorem unitsInOne_cast_pos (format : BinaryFormat) : (0 : ℚ) < format.unitsInOne :=
  Nat.cast_pos.mpr format.unitsInOne_pos

theorem infinity_pos (format : BinaryFormat) : 0 < format.infinity := by
  have exponents : 1 < twoTo format.exponentBits :=
    Nat.one_lt_two_pow (Nat.ne_zero_of_lt format.one_lt_exponentBits)
  exact Nat.mul_pos (Nat.sub_pos_of_lt exponents) format.binade_pos

/-- Numbers are in the order of their places, infinities included. -/
theorem exact_le_exact_iff (leftNumber : left.isNaN = false) (rightNumber : right.isNaN = false) :
    left.exact ≤ right.exact ↔ left.ordinal ≤ right.ordinal := by
  have leftBound : left.magnitude ≤ format.infinity :=
    Nat.not_lt.mp (of_decide_eq_false leftNumber)
  have rightBound : right.magnitude ≤ format.infinity :=
    Nat.not_lt.mp (of_decide_eq_false rightNumber)
  have positive := infinity_pos format
  by_cases leftInfinite : left.magnitude = format.infinity
  · -- An infinity has the place at its end to itself.
    cases leftSign : left.negative <;> cases rightSign : right.negative <;>
      by_cases rightInfinite : right.magnitude = format.infinity <;>
      simp [exact, isInfinite, ordinal, leftInfinite, rightInfinite, leftSign, rightSign] <;> omega
  · by_cases rightInfinite : right.magnitude = format.infinity
    · cases leftSign : left.negative <;> cases rightSign : right.negative <;>
        simp [exact, isInfinite, ordinal, leftInfinite, rightInfinite, leftSign, rightSign] <;>
        omega
    · have scaled : (left.signedUnits / format.unitsInOne : ℚ) ≤
          right.signedUnits / format.unitsInOne ↔ left.signedUnits ≤ right.signedUnits := by
        rw [div_le_div_iff_of_pos_right (unitsInOne_cast_pos format), Int.cast_le]
      rw [← signedUnits_le_signedUnits_iff, ← scaled]
      simp [exact, isInfinite, leftInfinite, rightInfinite]

/-- Numbers are the same if they stand in one place. -/
theorem exact_eq_exact_iff (leftNumber : left.isNaN = false) (rightNumber : right.isNaN = false) :
    left.exact = right.exact ↔ left.ordinal = right.ordinal := by
  rw [le_antisymm_iff, exact_le_exact_iff leftNumber rightNumber,
    exact_le_exact_iff rightNumber leftNumber, Int.le_antisymm_iff]

/-- A number is an integer if it is whole and its integer part is that integer. -/
theorem exact_eq_intCast_iff (notNaN : number.isNaN = false) {value : Int} :
    number.exact = ((value : ℚ) : WithBotTop ℚ) ↔
      number.isIntegral = true ∧ number.truncated = value := by
  have nonzero : (format.unitsInOne : Int) ≠ 0 := Int.natCast_ne_zero.mpr format.unitsInOne_pos.ne'
  have scaled : (number.signedUnits / format.unitsInOne : ℚ) = value ↔
      number.signedUnits = value * format.unitsInOne := by
    rw [div_eq_iff (unitsInOne_cast_pos format).ne']
    exact_mod_cast Iff.rfl
  by_cases infinite : number.isInfinite = true
  · have notWhole : number.isIntegral = false := by
      simp [isIntegral, isFinite, of_decide_eq_true infinite]
    cases sign : number.negative <;>
      simp [exact, infinite, notWhole, sign, (WithBotTop.coe_ne_bot _).symm,
        (WithBotTop.coe_ne_top _).symm]
  · have finite : number.isFinite = true := by
      simp [isNaN, isInfinite, isFinite] at *
      omega
    rw [exact, if_neg infinite, WithBotTop.coe_injective.eq_iff, scaled]
    constructor
    · intro whole
      have size : number.units = value.natAbs * format.unitsInOne := by
        rw [← natAbs_signedUnits, whole, Int.natAbs_mul, Int.natAbs_natCast]
      have integral : number.isIntegral = true := by
        simp [isIntegral, finite, size]
      rw [signedUnits_of_isIntegral integral] at whole
      exact ⟨integral, Int.eq_of_mul_eq_mul_right nonzero whole⟩
    · rintro ⟨integral, rfl⟩
      exact signedUnits_of_isIntegral integral

/-! ### Rounding what needs no rounding -/

/-- The value of a magnitude is rounded to that magnitude. -/
theorem magnitudeOfQuotient_units (format : BinaryFormat) (magnitude : Nat) :
    magnitudeOfQuotient format (format.units magnitude) 1 = magnitude := by
  obtain ⟨doublings, significand, bounded, _, _, value⟩ := format.exists_significand magnitude
  refine BinaryFormat.units_injective (units_magnitudeOfQuotient ?_)
  rw [value]
  exact twoTo_coarseness_dvd bounded.le doublings

/-- The integer that a number is has its place when it is rounded. -/
theorem ordinal_ofInt_of_exact (notNaN : number.isNaN = false) {value : Int}
    (same : number.exact = ((value : ℚ) : WithBotTop ℚ)) :
    (ofInt value : Binary format).ordinal = number.ordinal := by
  obtain ⟨integral, rfl⟩ := (exact_eq_intCast_iff notNaN).mp same
  have size : number.truncated.natAbs * format.unitsInOne = number.units := by
    rw [natAbs_truncated, units_div_mul integral]
  have finite : number.magnitude < format.infinity :=
    of_decide_eq_true (Bool.and_eq_true_iff.mp integral).1
  apply ordinal_eq_of_signedUnits_eq
  rw [signedUnits_of_isIntegral integral]
  refine signedUnits_ofInt_of_units ?_
  show format.units (min (magnitudeOfQuotient format (_ * format.unitsInOne) 1) format.infinity) = _
  rw [size, units, magnitudeOfQuotient_units, Nat.min_eq_left finite.le]

end Binary

/-! ### Words -/

/-- The double nearest to the greatest word, which is greater than it by one. -/
def pastWords : Double :=
  wordToDouble Int64.maxValue

theorem wordOfDouble?_pastWords : wordOfDouble? pastWords = some Int64.maxValue := by
  decide +kernel

theorem isNaN_pastWords : pastWords.isNaN = false := by
  decide +kernel

theorem exact_pastWords :
    pastWords.exact = (((9223372036854775808 : Int) : ℚ) : WithBotTop ℚ) :=
  (Binary.exact_eq_intCast_iff isNaN_pastWords).mpr ⟨by decide +kernel, by decide +kernel⟩

/-- A double becomes the word that it is. The double past the greatest word becomes that word. -/
theorem wordOfDouble?_eq_some_iff_exact {number : Double} {word : Int64} :
    wordOfDouble? number = some word ↔
      number.isNaN = false ∧ number.exact = ((word.toInt : ℚ) : WithBotTop ℚ) ∨
        number = pastWords ∧ word = Int64.maxValue := by
  have greatest : Int64.maxValue.toInt = 9223372036854775807 := rfl
  have least : Int64.minValue.toInt = -9223372036854775808 := rfl
  constructor
  · intro found
    obtain ⟨whole, low, high, rfl⟩ := wordOfDouble?_eq_some_iff.mp found
    have notNaN := Binary.isNaN_of_isIntegral whole
    by_cases inside : number.truncated ≤ Int64.maxValue.toInt
    · left
      refine ⟨notNaN, (Binary.exact_eq_intCast_iff notNaN).mpr ⟨whole, ?_⟩⟩
      rw [Int.min_eq_left inside, Int64.toInt_ofInt_of_le]
      all_goals omega
    · right
      have beyond : number.truncated = 9223372036854775808 := by omega
      have same : number.exact = pastWords.exact :=
        ((Binary.exact_eq_intCast_iff notNaN).mpr ⟨whole, beyond⟩).trans exact_pastWords.symm
      have level := (Binary.exact_eq_exact_iff notNaN isNaN_pastWords).mp same
      have notZero : pastWords.magnitude ≠ 0 := by decide +kernel
      refine ⟨(Binary.ordinal_eq_iff.mp level).resolve_right fun zero => notZero zero.2, ?_⟩
      rw [Int.min_eq_right (Int.le_of_not_le inside), Int64.ofInt_toInt]
  · rintro (⟨notNaN, same⟩ | ⟨rfl, rfl⟩)
    · obtain ⟨whole, part⟩ := (Binary.exact_eq_intCast_iff notNaN).mp same
      have low := word.minValue_le_toInt
      have high := word.toInt_le
      refine wordOfDouble?_eq_some_iff.mpr ⟨whole, by omega, by omega, ?_⟩
      rw [part, Int.min_eq_left high, Int64.ofInt_toInt]
    · exact wordOfDouble?_pastWords

/-- What becomes a word is a number. -/
theorem isNaN_of_wordOfDouble? {number : Double} {word : Int64}
    (becomes : wordOfDouble? number = some word) : number.isNaN = false :=
  Binary.isNaN_of_isIntegral (wordOfDouble?_eq_some_iff.mp becomes).1

/-- The word that a double becomes is rounded to the place of that double. -/
theorem ordinal_wordToDouble {number : Double} {word : Int64}
    (found : wordOfDouble? number = some word) : (wordToDouble word).ordinal = number.ordinal := by
  rcases wordOfDouble?_eq_some_iff_exact.mp found with ⟨notNaN, same⟩ | ⟨rfl, rfl⟩
  · exact Binary.ordinal_ofInt_of_exact notNaN same
  · rfl

theorem isNaN_wordToDouble (word : Int64) : (wordToDouble word).isNaN = false := by
  rcases Binary.isFinite_or_isInfinite_ofInt .double word.toInt with finite | infinite
  · exact Binary.isNaN_of_isFinite finite
  · exact decide_eq_false (of_decide_eq_true infinite).not_gt

end Number

namespace Value

/-! ### Numeric values -/

/-- The number that a value is, if it is one. -/
def quantity? : Value → Option (WithBotTop ℚ)
  | int value => some (value.toInt : ℚ)
  | float value => if value.isNaN then none else some value.exact
  | _ => none

/-- Whether two values are one number. -/
def SameNumber (left right : Value) : Prop :=
  ∃ number, left.quantity? = some number ∧ right.quantity? = some number

/-- Whether two values count as one number: they are, or they are the greatest word and the double
past it. -/
inductive CountAsOne : Value → Value → Prop where
  | same {left right : Value} : SameNumber left right → CountAsOne left right
  | past : CountAsOne (int Int64.maxValue) (float pastWords)
  | pastBack : CountAsOne (float pastWords) (int Int64.maxValue)

theorem SameNumber.symm {left right : Value} (same : SameNumber left right) :
    SameNumber right left := by
  obtain ⟨number, leftExact, rightExact⟩ := same
  exact ⟨number, rightExact, leftExact⟩

theorem CountAsOne.comm {left right : Value} : CountAsOne left right ↔ CountAsOne right left := by
  constructor <;> rintro (same | _) <;>
    first | exact .same same.symm | exact .past | exact .pastBack

theorem quantity?_float_eq_some_iff {value : Double} {number : WithBotTop ℚ} :
    (float value).quantity? = some number ↔ value.isNaN = false ∧ value.exact = number := by
  simp [quantity?]

/-- The greatest word and the double past it are different numbers. -/
theorem not_sameNumber_past : ¬ SameNumber (int Int64.maxValue) (float pastWords) := by
  rintro ⟨value, wordExact, doubleExact⟩
  obtain rfl := Option.some.inj wordExact
  have same := (quantity?_float_eq_some_iff.mp doubleExact).2
  rw [exact_pastWords] at same
  have values : (9223372036854775808 : Int) = Int64.maxValue.toInt :=
    Int.cast_injective (WithBotTop.coe_injective same)
  exact absurd values (by decide)

/-- A word and a double count as one number just if the double becomes the word. -/
theorem countAsOne_int_float_iff {word : Int64} {number : Double} :
    CountAsOne (int word) (float number) ↔ wordOfDouble? number = some word := by
  rw [wordOfDouble?_eq_some_iff_exact]
  constructor
  · rintro (⟨value, wordExact, numberExact⟩ | _)
    · obtain ⟨notNaN, same⟩ := quantity?_float_eq_some_iff.mp numberExact
      exact .inl ⟨notNaN, same.trans (Option.some.inj wordExact).symm⟩
    · exact .inr ⟨rfl, rfl⟩
  · rintro (⟨notNaN, same⟩ | ⟨rfl, rfl⟩)
    · exact .same ⟨_, rfl, quantity?_float_eq_some_iff.mpr ⟨notNaN, same⟩⟩
    · exact .past

theorem countAsOne_int_int_iff {left right : Int64} :
    CountAsOne (int left) (int right) ↔ left = right := by
  constructor
  · rintro ⟨number, leftExact, rightExact⟩
    have same := Option.some.inj (leftExact.trans rightExact.symm)
    exact Int64.toInt_inj.mp (Int.cast_injective (WithBotTop.coe_injective same))
  · rintro rfl
    exact .same ⟨_, rfl, rfl⟩

/-- Two doubles count as one number just if they are equal. -/
theorem countAsOne_float_float_iff {left right : Double} :
    CountAsOne (float left) (float right) ↔ left.numericEq right = true := by
  rw [Binary.numericEq_iff]
  constructor
  · rintro ⟨number, leftExact, rightExact⟩
    obtain ⟨leftNumber, rfl⟩ := quantity?_float_eq_some_iff.mp leftExact
    obtain ⟨rightNumber, same⟩ := quantity?_float_eq_some_iff.mp rightExact
    exact ⟨leftNumber, rightNumber,
      (Binary.exact_eq_exact_iff leftNumber rightNumber).mp same.symm⟩
  · rintro ⟨leftNumber, rightNumber, level⟩
    have same := (Binary.exact_eq_exact_iff leftNumber rightNumber).mpr level
    exact .same ⟨_, quantity?_float_eq_some_iff.mpr ⟨leftNumber, rfl⟩,
      quantity?_float_eq_some_iff.mpr ⟨rightNumber, same.symm⟩⟩

end Value

end RecordQuery

/-
This file proves that the order of values and their loose sameness fit together.

Values of one kind are in an order, integers and floats taken as one kind. Where two values are in
an order, they are level in it just if they are loosely the same, and what comes before a value comes
before all that comes after it. That is not plain where integers and floats meet. Two integers are
compared as they are, and an integer and a float as doubles, so that different integers can be level
with one float. But rounding never takes an integer past another. So numbers come in the order of
their doubles, and of two integers with one double the lesser comes first, which is an order again.
-/

import RecordQuery.Proofs.Exactness
import RecordQuery.Proofs.Keys
import RecordQuery.Value.Order

namespace RecordQuery

open Number Calendar

/-! ### Orders of kinds -/

instance : Std.TransCmp Date.order :=
  inferInstanceAs (Std.TransCmp
    (compareLex (compareOn Date.year) (compareLex (compareOn Date.month) (compareOn Date.day))))

instance : Std.TransCmp DateTime.order :=
  inferInstanceAs (Std.TransCmp (compareOn DateTime.instant))

instance : Std.TransCmp Uuid.order :=
  inferInstanceAs (Std.TransCmp (compareOn Uuid.number))

instance : Std.LawfulEqCmp Date.order where
  eq_of_compare := Key.eq_of_dateOrder_eq

instance : Std.LawfulEqCmp Uuid.order where
  eq_of_compare {left right} level := by
    obtain ⟨left, _⟩ := left
    obtain ⟨right, _⟩ := right
    obtain rfl : left = right := Nat.compare_eq_eq.mp level
    rfl

namespace Number

theorem Binary.compare?_eq_lt_iff {format : BinaryFormat} {left right : Binary format} :
    left.compare? right = some .lt ↔
      left.isNaN = false ∧ right.isNaN = false ∧ left.ordinal < right.ordinal := by
  unfold compare?
  cases left.isNaN <;> cases right.isNaN <;> simp [Int.compare_eq_lt]

theorem Binary.ordinal_le_of_rank_le {format : BinaryFormat} {left right : Binary format}
    (le : left.rank ≤ right.rank) : left.ordinal ≤ right.ordinal := by
  unfold rank at le
  unfold ordinal
  cases leftSign : left.negative <;> cases rightSign : right.negative <;>
    simp [leftSign, rightSign] at le ⊢ <;> omega

/-- Rounding never takes a word past another. -/
theorem ordinal_wordToDouble_mono {smaller larger : Int64} (le : smaller.toInt ≤ larger.toInt) :
    (wordToDouble smaller).ordinal ≤ (wordToDouble larger).ordinal :=
  Binary.ordinal_le_of_rank_le (Binary.rank_ofInt_mono le)

end Number

namespace Value

variable {left right first second third : Value}

/-! ### Turning sides -/

theorem sameComponents_comm (lefts rights : List Single) :
    sameComponents lefts rights = sameComponents rights lefts := by
  induction lefts generalizing rights with
  | nil => cases rights <;> rfl
  | cons left lefts inductionHypothesis =>
    cases rights with
    | nil => rfl
    | cons right rights =>
      exact congrArg₂ and (Binary.numericEq_comm left right) (inductionHypothesis rights)

mutual

theorem same_comm (left right : Value) : left.same right = right.same left := by
  cases left with
  | list lefts =>
    cases right with
    | list rights => exact sameItems_comm lefts rights
    | _ => rfl
  | map lefts =>
    cases right with
    | map rights => exact sameFields_comm lefts rights
    | _ => rfl
  | vector lefts =>
    cases right with
    | vector rights => exact sameComponents_comm lefts rights
    | _ => rfl
  | float left =>
    cases right with
    | float right => exact Binary.numericEq_comm left right
    | _ => rfl
  | _ => cases right <;> first | rfl | exact decide_eq_decide.mpr eq_comm

theorem sameItems_comm (lefts rights : List Value) :
    sameItems lefts rights = sameItems rights lefts := by
  cases lefts with
  | nil => cases rights <;> rfl
  | cons left lefts =>
    cases rights with
    | nil => rfl
    | cons right rights => exact congrArg₂ and (same_comm left right) (sameItems_comm lefts rights)

theorem sameFields_comm (lefts rights : List (String × Value)) :
    sameFields lefts rights = sameFields rights lefts := by
  match lefts, rights with
  | [], [] | [], _ :: _ | _ :: _, [] => rfl
  | (leftName, left) :: lefts, (rightName, right) :: rights =>
    have names : decide (leftName = rightName) = decide (rightName = leftName) :=
      decide_eq_decide.mpr eq_comm
    rw [sameFields, sameFields, names, same_comm left right, sameFields_comm lefts rights]

end

theorem looselySame_comm (left right : Value) : left.looselySame right = right.looselySame left := by
  cases left with
  | int left => cases right <;> first | rfl | exact same_comm _ _
  | float left => cases right <;> first | rfl | exact same_comm _ _
  | _ => cases right <;> exact same_comm _ _

theorem compare?_swap (left right : Value) :
    right.compare? left = (left.compare? right).map Ordering.swap := by
  cases left with
  | int | float =>
    cases right with
    | int => first | exact congrArg some Std.OrientedCmp.eq_swap | exact Binary.compare?_swap _ _
    | float => exact Binary.compare?_swap _ _
    | _ => rfl
  | _ => cases right <;> first | rfl | exact congrArg some Std.OrientedCmp.eq_swap

/-! ### Being level -/

/-- Values that are in an order are level in it just if they are loosely the same. -/
theorem eq_iff_looselySame {order : Ordering} (compared : left.compare? right = some order) :
    order = .eq ↔ left.looselySame right = true := by
  have numbers {left right : Double} (compared : left.compare? right = some order) :
      order = .eq ↔ left.numericEq right = true := by
    rw [Binary.numericEq, compared, beq_iff_eq, Option.some_inj]
  cases left <;> cases right <;> try contradiction
  case int.float | float.float => exact numbers compared
  case float.int left right =>
    show _ ↔ (wordToDouble right).numericEq left = true
    rw [Binary.numericEq_comm]
    exact numbers compared
  all_goals
    rw [← Option.some.inj compared]
    refine Iff.trans ?_ decide_eq_true_iff.symm
  case int.int => rw [Int.compare_eq_eq, Int64.toInt_inj]
  case dateTime.dateTime => exact Int.compare_eq_eq
  case bool.bool | text.text | date.date | uuid.uuid => exact Std.LawfulEqCmp.compare_eq_iff_eq

/-! ### Coming before -/

/-- Whether two values are words and the first is less than the second. -/
def WordsBefore : Value → Value → Prop
  | int left, int right => left.toInt < right.toInt
  | _, _ => False

theorem WordsBefore.trans (former : first.WordsBefore second)
    (latter : second.WordsBefore third) : first.WordsBefore third := by
  cases first <;> cases second <;> cases third <;> try contradiction
  exact Int.lt_trans former latter

/-- Numbers come in the order of their doubles, and of two words with one double the lesser comes
first. -/
theorem compare?_eq_lt_iff_of_numbers {leftDouble rightDouble : Double}
    (leftNumber : left.number? = some leftDouble) (rightNumber : right.number? = some rightDouble) :
    left.compare? right = some .lt ↔ leftDouble.isNaN = false ∧ rightDouble.isNaN = false ∧
      (leftDouble.ordinal < rightDouble.ordinal ∨
        leftDouble.ordinal = rightDouble.ordinal ∧ left.WordsBefore right) := by
  cases left <;> cases right <;> try contradiction
  all_goals
    obtain rfl := Option.some.inj leftNumber
    obtain rfl := Option.some.inj rightNumber
  case int.int left right =>
    have forth : left.toInt ≤ right.toInt → _ := ordinal_wordToDouble_mono
    have back : right.toInt ≤ left.toInt → _ := ordinal_wordToDouble_mono
    simp only [compare?, Option.some_inj, Int.compare_eq_lt, isNaN_wordToDouble, true_and,
      WordsBefore]
    omega
  all_goals simp only [compare?, Binary.compare?_eq_lt_iff, WordsBefore, and_false, or_false]

theorem kindRank_eq_of_compare? {order : Ordering} (compared : left.compare? right = some order) :
    left.kindRank = right.kindRank := by
  cases left <;> cases right <;> first | rfl | contradiction

theorem exists_number?_iff {value : Value} :
    (∃ double, value.number? = some double) ↔ value.kindRank = 2 := by
  cases value <;> simp [number?, kindRank]

theorem compare?_lt_trans_of_numbers {firstDouble secondDouble thirdDouble : Double}
    (firstNumber : first.number? = some firstDouble)
    (secondNumber : second.number? = some secondDouble)
    (thirdNumber : third.number? = some thirdDouble)
    (former : first.compare? second = some .lt) (latter : second.compare? third = some .lt) :
    first.compare? third = some .lt := by
  rw [compare?_eq_lt_iff_of_numbers firstNumber secondNumber] at former
  rw [compare?_eq_lt_iff_of_numbers secondNumber thirdNumber] at latter
  obtain ⟨firstThere, _, former⟩ := former
  obtain ⟨_, thirdThere, latter⟩ := latter
  refine (compare?_eq_lt_iff_of_numbers firstNumber thirdNumber).mpr ⟨firstThere, thirdThere, ?_⟩
  rcases former with former | ⟨formerLevel, formerWords⟩
  · rcases latter with latter | ⟨latterLevel, _⟩ <;> exact .inl (by omega)
  · rcases latter with latter | ⟨latterLevel, latterWords⟩
    · exact .inl (by omega)
    · exact .inr ⟨formerLevel.trans latterLevel, formerWords.trans latterWords⟩

/-- What comes before a value comes before all that comes after it. -/
theorem compare?_lt_trans (former : first.compare? second = some .lt)
    (latter : second.compare? third = some .lt) : first.compare? third = some .lt := by
  have formerKind := kindRank_eq_of_compare? former
  have latterKind := kindRank_eq_of_compare? latter
  by_cases numbers : second.kindRank = 2
  · obtain ⟨_, firstNumber⟩ := exists_number?_iff.mpr (formerKind.trans numbers)
    obtain ⟨_, secondNumber⟩ := exists_number?_iff.mpr numbers
    obtain ⟨_, thirdNumber⟩ := exists_number?_iff.mpr (latterKind.symm.trans numbers)
    exact compare?_lt_trans_of_numbers firstNumber secondNumber thirdNumber former latter
  · cases second with
    | int | float => exact absurd rfl numbers
    | null | vector | list | map => cases first <;> contradiction
    | _ =>
      cases first <;> try contradiction
      cases third <;> try contradiction
      exact congrArg some
        (Std.TransCmp.lt_trans (Option.some.inj former) (Option.some.inj latter))

/-- The order of values is turned around with its sides, and so is loose sameness. Values that are in
an order are level just if they are loosely the same. And what comes before a value comes before all
that comes after it, integers and floats taken together. -/
theorem compare?_coheres :
    (∀ left right : Value, right.compare? left = (left.compare? right).map Ordering.swap) ∧
      (∀ left right : Value, right.looselySame left = left.looselySame right) ∧
      (∀ (left right : Value) (order : Ordering), left.compare? right = some order →
        (order = .eq ↔ left.looselySame right = true)) ∧
      ∀ first second third : Value, first.compare? second = some .lt →
        second.compare? third = some .lt → first.compare? third = some .lt :=
  ⟨compare?_swap, fun left right => looselySame_comm right left,
    fun _ _ _ compared => eq_iff_looselySame compared,
    fun _ _ _ former latter => compare?_lt_trans former latter⟩

/-- Two words around a double that is neither of them, both too great to be doubles. The lesser one is
rounded down, and is loosely the same as the double that it becomes. -/
theorem compare?_coheres_of_rounded :
    let word := int 9007199254740993
    let double := float (Binary.ofInt 9007199254740994)
    let next := int 9007199254740995
    let rounded := float (Binary.ofInt 9007199254740992)
    word.compare? double = some .lt ∧ double.compare? next = some .lt ∧
      word.compare? next = some .lt ∧ word.compare? rounded = some .eq ∧
      word.looselySame rounded = true := by
  intro word double next rounded
  obtain ⟨_, _, level, consistent⟩ := compare?_coheres
  have former : word.compare? double = some .lt := by decide +kernel
  have latter : double.compare? next = some .lt := by decide +kernel
  have compared : word.compare? rounded = some .eq := by decide +kernel
  exact ⟨former, latter, consistent word double next former latter, compared,
    (level word rounded .eq compared).mp rfl⟩

end Value

end RecordQuery

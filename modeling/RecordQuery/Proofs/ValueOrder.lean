/-
This file proves that the order in which values are sorted is a total preorder: of two values one
comes first or they are level, and what comes first does so consistently.

The order is read off three things that a value shows: the rank of its kind, numbers, and a text.
Values of every kind show all three, empty where the kind has no use for them, and two values are
ordered by the first of the three in which they differ.
-/

import RecordQuery.Number.Arithmetic
import RecordQuery.Value.Order

namespace RecordQuery.Value

open Number Calendar

/-! ### What values show -/

/-- The numbers by which a value is ordered among those of its rank. Integers and floats show where
they stand among the doubles. -/
def orderNumbers : Value → List Int
  | bool value => [if value then 1 else 0]
  | int value => [(wordToDouble value).rank]
  | float value => [value.rank]
  | date value => [value.year, value.month, value.day]
  | dateTime value => [value.instant]
  | uuid value => [value.number]
  | null | text _ | vector _ | list _ | map _ => []

/-- The text by which a value is ordered among those of its rank. -/
def orderText : Value → String
  | text value => value
  | _ => ""

/-- The order of two values by what they show. -/
def compareShown : Value → Value → Ordering :=
  compareLex (compareOn kindRank) (compareLex (compareOn orderNumbers) (compareOn orderText))

instance : Std.TransCmp compareShown :=
  inferInstanceAs (Std.TransCmp (compareLex _ (compareLex _ _)))

/-! ### Values are sorted by what they show -/

theorem compare_natCast (left right : Nat) :
    compare (left : Int) (right : Int) = compare left right := by
  simp only [compare, compareOfLessAndEq, Int.ofNat_lt, Int.ofNat_inj]

theorem compare_truthNumber (left right : Bool) :
    compare (if left then 1 else 0 : Int) (if right then 1 else 0) = compare left right := by
  cases left <;> cases right <;> rfl

/-- Across ranks the rank decides. -/
theorem totalCompare_of_kindRank_ne {left right : Value}
    (apart : left.kindRank ≠ right.kindRank) :
    left.totalCompare right = compare left.kindRank right.kindRank := by
  cases left <;> cases right <;> first | rfl | exact absurd rfl apart

/-- Within a rank the numbers decide, and after them the text. -/
theorem totalCompare_of_kindRank_eq {left right : Value}
    (level : left.kindRank = right.kindRank) :
    left.totalCompare right =
      (compare left.orderNumbers right.orderNumbers).then
        (compare left.orderText right.orderText) := by
  cases left <;> cases right <;> simp [kindRank] at level
  all_goals
    simp [totalCompare, compare?, kindRank, number?, orderNumbers, orderText,
      List.compare_cons_cons, Binary.totalCompare, DateTime.order, Uuid.order, Date.order,
      compare_natCast, compare_truthNumber]

theorem totalCompare_eq_compareShown (left right : Value) :
    left.totalCompare right = compareShown left right := by
  show _ = (compare left.kindRank right.kindRank).then _
  by_cases level : left.kindRank = right.kindRank
  · rw [totalCompare_of_kindRank_eq level, level, Std.ReflOrd.compare_self]
    rfl
  · rw [totalCompare_of_kindRank_ne level]
    have uneven : compare left.kindRank right.kindRank ≠ .eq :=
      fun even => level (Std.LawfulEqOrd.eq_of_compare even)
    cases order : compare left.kindRank right.kindRank with
    | lt | gt => rfl
    | eq => contradiction

/-- Sorting follows a total preorder. -/
instance : Std.TransCmp totalCompare := by
  have same : totalCompare = compareShown :=
    funext fun left => funext fun right => totalCompare_eq_compareShown left right
  rw [same]
  infer_instance

/-- No other kind comes before that of null. -/
theorem kindRank_null_lt {value : Value} (there : value ≠ null) :
    null.kindRank < value.kindRank := by
  cases value with
  | null => contradiction
  | _ => exact Nat.succ_pos _

/-- The order in which values are sorted is turned around with its sides, what comes first does so
consistently, and null comes before everything else. -/
theorem totalCompare_is_total_preorder :
    (∀ left right : Value, right.totalCompare left = (left.totalCompare right).swap) ∧
      (∀ first second third : Value, first.totalCompare second ≠ .gt →
        second.totalCompare third ≠ .gt → first.totalCompare third ≠ .gt) ∧
      ∀ value : Value, value ≠ null → null.totalCompare value = .lt := by
  refine ⟨fun left right => Std.OrientedCmp.eq_swap, fun first second third former latter => ?_,
    fun value there => ?_⟩
  · have before := Ordering.isLE_iff_ne_gt.mpr former
    have after := Ordering.isLE_iff_ne_gt.mpr latter
    exact Ordering.isLE_iff_ne_gt.mp (Std.TransCmp.isLE_trans before after)
  · have first := kindRank_null_lt there
    rw [totalCompare_of_kindRank_ne (Nat.ne_of_lt first)]
    exact Nat.compare_eq_lt.mpr first

/-- A not-a-number with its sign bit set comes before the greatest word, which is level with the
double past it, and null comes before all three. -/
theorem totalCompare_is_total_preorder_of_numbers :
    let invalid := float Binary.invalid
    let word := int Int64.maxValue
    let double := float (Binary.ofInt 9223372036854775808)
    invalid.totalCompare word ≠ .gt ∧ word.totalCompare double ≠ .gt ∧
      invalid.totalCompare double ≠ .gt ∧ null.totalCompare invalid = .lt := by
  intro invalid word double
  obtain ⟨_, consistent, nullFirst⟩ := totalCompare_is_total_preorder
  have former : invalid.totalCompare word ≠ .gt := by decide +kernel
  have latter : word.totalCompare double ≠ .gt := by decide +kernel
  have there : invalid ≠ null := fun same => Value.noConfusion same
  exact ⟨former, latter, consistent invalid word double former latter, nullFirst invalid there⟩

end RecordQuery.Value

/-
This file reads evaluation backwards: what the parts of a predicate must have evaluated to, given
the answer or the fault of the whole. Conjunctions and disjunctions go from left to right and no
further than needed, so each answer also tells how far the evaluation came.

It also compares an operator with its negation. The two never hold of the same operands; that one
of them holds is only certain where the operator decides, which an order does not do on null, on
not-a-number and across kinds.
-/

import RecordQuery.Predicate.Evaluate
import RecordQuery.Proofs.Outcome

namespace RecordQuery

namespace Predicate

variable {record : Record} {inner left right : Predicate} {error : EvaluationError}

/-! ### Compound predicates -/

theorem evaluate_negation (record : Record) (inner : Predicate) :
    (negation inner).evaluate record = (inner.evaluate record).map (!·) :=
  rfl

theorem evaluate_negation_eq_ok_iff {answer : Bool} :
    (negation inner).evaluate record = .ok answer ↔ inner.evaluate record = .ok (!answer) := by
  rw [evaluate_negation, map_eq_ok_iff]
  refine ⟨fun ⟨held, evaluated, opposite⟩ => ?_, fun evaluated => ⟨!answer, evaluated, ?_⟩⟩
  · rw [evaluated, ← opposite, Bool.not_not]
  · exact Bool.not_not answer

theorem evaluate_negation_eq_error_iff :
    (negation inner).evaluate record = .error error ↔ inner.evaluate record = .error error := by
  rw [evaluate_negation, map_eq_error_iff]

/-- The right side is only evaluated if the left side holds. -/
theorem evaluate_conjunction (record : Record) (left right : Predicate) :
    (conjunction left right).evaluate record =
      (left.evaluate record).bind fun held =>
        bif held then right.evaluate record else .ok false := by
  rw [evaluate]
  cases left.evaluate record with
  | error fault => rfl
  | ok held => cases held <;> rfl

theorem evaluate_conjunction_eq_true_iff :
    (conjunction left right).evaluate record = .ok true ↔
      left.evaluate record = .ok true ∧ right.evaluate record = .ok true := by
  rw [evaluate_conjunction, bind_eq_ok_iff]
  refine ⟨fun ⟨held, leftHeld, rest⟩ => ?_, fun ⟨leftHeld, rest⟩ => ⟨true, leftHeld, rest⟩⟩
  cases held with
  | false => exact absurd (Except.ok.inj rest) Bool.false_ne_true
  | true => exact ⟨leftHeld, rest⟩

theorem evaluate_conjunction_eq_false_iff :
    (conjunction left right).evaluate record = .ok false ↔
      left.evaluate record = .ok false ∨
        left.evaluate record = .ok true ∧ right.evaluate record = .ok false := by
  rw [evaluate_conjunction, bind_eq_ok_iff]
  refine ⟨fun ⟨held, leftHeld, rest⟩ => ?_, fun rejected => ?_⟩
  · cases held with
    | false => exact .inl leftHeld
    | true => exact .inr ⟨leftHeld, rest⟩
  · rcases rejected with leftRejected | ⟨leftHeld, rightRejected⟩
    · exact ⟨false, leftRejected, rfl⟩
    · exact ⟨true, leftHeld, rightRejected⟩

theorem evaluate_conjunction_eq_error_iff :
    (conjunction left right).evaluate record = .error error ↔
      left.evaluate record = .error error ∨
        left.evaluate record = .ok true ∧ right.evaluate record = .error error := by
  rw [evaluate_conjunction, bind_eq_error_iff]
  refine or_congr_right ⟨fun ⟨held, leftHeld, rest⟩ => ?_,
    fun ⟨leftHeld, rest⟩ => ⟨true, leftHeld, rest⟩⟩
  cases held with
  | false => contradiction
  | true => exact ⟨leftHeld, rest⟩

/-- The right side is only evaluated if the left side does not hold. -/
theorem evaluate_disjunction (record : Record) (left right : Predicate) :
    (disjunction left right).evaluate record =
      (left.evaluate record).bind fun held =>
        bif held then .ok true else right.evaluate record := by
  rw [evaluate]
  cases left.evaluate record with
  | error fault => rfl
  | ok held => cases held <;> rfl

theorem evaluate_disjunction_eq_true_iff :
    (disjunction left right).evaluate record = .ok true ↔
      left.evaluate record = .ok true ∨
        left.evaluate record = .ok false ∧ right.evaluate record = .ok true := by
  rw [evaluate_disjunction, bind_eq_ok_iff]
  refine ⟨fun ⟨held, leftHeld, rest⟩ => ?_, fun accepted => ?_⟩
  · cases held with
    | false => exact .inr ⟨leftHeld, rest⟩
    | true => exact .inl leftHeld
  · rcases accepted with leftAccepted | ⟨leftRejected, rightAccepted⟩
    · exact ⟨true, leftAccepted, rfl⟩
    · exact ⟨false, leftRejected, rightAccepted⟩

theorem evaluate_disjunction_eq_false_iff :
    (disjunction left right).evaluate record = .ok false ↔
      left.evaluate record = .ok false ∧ right.evaluate record = .ok false := by
  rw [evaluate_disjunction, bind_eq_ok_iff]
  refine ⟨fun ⟨held, leftHeld, rest⟩ => ?_, fun ⟨leftRejected, rest⟩ => ⟨false, leftRejected, rest⟩⟩
  cases held with
  | false => exact ⟨leftHeld, rest⟩
  | true => exact absurd (Except.ok.inj rest).symm Bool.false_ne_true

theorem evaluate_disjunction_eq_error_iff :
    (disjunction left right).evaluate record = .error error ↔
      left.evaluate record = .error error ∨
        left.evaluate record = .ok false ∧ right.evaluate record = .error error := by
  rw [evaluate_disjunction, bind_eq_error_iff]
  refine or_congr_right ⟨fun ⟨held, leftHeld, rest⟩ => ?_,
    fun ⟨leftRejected, rest⟩ => ⟨false, leftRejected, rest⟩⟩
  cases held with
  | false => exact ⟨leftHeld, rest⟩
  | true => contradiction

/-! ### Short-circuiting and opposites

A predicate is the opposite of another on a record if it evaluates as its negation does, faults
included. De Morgan's laws keep the order of the parts, so they also keep which fault comes
first. -/

theorem evaluate_negation_negation :
    (negation (negation inner)).evaluate record = inner.evaluate record := by
  rw [evaluate_negation, evaluate_negation]
  cases inner.evaluate record with
  | error fault => rfl
  | ok held => exact congrArg _ (Bool.not_not held)

theorem evaluate_disjunction_of_opposites {left' right' : Predicate}
    (leftOpposite : left'.evaluate record = (negation left).evaluate record)
    (rightOpposite : right'.evaluate record = (negation right).evaluate record) :
    (disjunction left' right').evaluate record =
      (negation (conjunction left right)).evaluate record := by
  rw [evaluate_disjunction, leftOpposite, rightOpposite, evaluate_negation, evaluate_negation,
    evaluate_negation, evaluate_conjunction]
  cases left.evaluate record with
  | error fault => rfl
  | ok held => cases held <;> rfl

theorem evaluate_conjunction_of_opposites {left' right' : Predicate}
    (leftOpposite : left'.evaluate record = (negation left).evaluate record)
    (rightOpposite : right'.evaluate record = (negation right).evaluate record) :
    (conjunction left' right').evaluate record =
      (negation (disjunction left right)).evaluate record := by
  rw [evaluate_conjunction, leftOpposite, rightOpposite, evaluate_negation, evaluate_negation,
    evaluate_negation, evaluate_disjunction]
  cases left.evaluate record with
  | error fault => rfl
  | ok held => cases held <;> rfl

end Predicate

/-! ### An operator and its negation -/

namespace Comparison

/-- Whether it can be told if an operator holds of what was read and a value, so that it holds
exactly where its negation does not. Equality can be told of all plain values, null included, and
an order only of two values that have one. Of a nested record one can tell whether it is null. -/
def Decides (operator : Comparison) (value : Value) : Slot → Prop
  | .value left => operator.isOrdering →
      left.isNull = false ∧ value.isNull = false ∧ (left.compare? value).isSome
  | .present => (operator = equal ∨ operator = notEqual) ∧ value.isNull
  | .unreachable _ => False

/-- An order holds of two values that have one, and only if it allows that one. -/
theorem ofValues_of_isOrdering {operator : Comparison} (ordering : operator.isOrdering)
    (left right : Value) :
    operator.ofValues left right =
      (!left.isNull && !right.isNull && (left.compare? right).any operator.holds) := by
  unfold ofValues
  cases left.isNull <;> cases right.isNull <;> cases operator <;>
    first
    | contradiction
    | (cases left.compare? right <;> rfl)

/-- Equality is sameness of values, null included. -/
theorem equal_ofValues (left right : Value) :
    equal.ofValues left right = left.looselySame right := by
  cases left <;> cases right <;> rfl

theorem ofValues_notEqual (left right : Value) :
    notEqual.ofValues left right = !equal.ofValues left right := by
  unfold ofValues
  cases left.isNull <;> cases right.isNull <;> rfl

theorem isOrdering_negate (operator : Comparison) :
    operator.negate.isOrdering = operator.isOrdering := by
  cases operator <;> rfl

/-- An operator that asks for no order holds of two values exactly where its negation does
not. -/
theorem ofValues_negate_of_not_isOrdering {operator : Comparison}
    (unordered : operator.isOrdering = false) (left right : Value) :
    operator.negate.ofValues left right = !operator.ofValues left right := by
  cases operator with
  | equal => exact ofValues_notEqual left right
  | notEqual => rw [ofValues_notEqual, Bool.not_not]; rfl
  | greater | greaterOrEqual | less | lessOrEqual => contradiction

/-- Where an operator decides, it holds exactly if its negation does not. -/
theorem ofSlot_negate_of_decides {operator : Comparison} {slot : Slot} {value : Value}
    (decides : operator.Decides value slot) :
    operator.negate.ofSlot slot value = !operator.ofSlot slot value := by
  cases slot with
  | unreachable hop => exact decides.elim
  | present =>
    obtain ⟨rfl | rfl, null⟩ := decides <;> simp [ofSlot, negate, null]
  | value left =>
    show operator.negate.ofValues left value = !operator.ofValues left value
    cases ordering : operator.isOrdering with
    | false => exact ofValues_negate_of_not_isOrdering ordering left value
    | true =>
      obtain ⟨leftThere, valueThere, compared⟩ := decides ordering
      obtain ⟨order, compared⟩ := Option.isSome_iff_exists.mp compared
      rw [ofValues_of_isOrdering ((isOrdering_negate operator).trans ordering),
        ofValues_of_isOrdering ordering, leftThere, valueThere, compared]
      exact holds_negate operator order

/-- An operator and its negation never both hold, whatever was read. -/
theorem ofSlot_negate_eq_false {operator : Comparison} {slot : Slot} {value : Value}
    (holds : operator.ofSlot slot value = true) :
    operator.negate.ofSlot slot value = false := by
  cases slot with
  | unreachable hop => rfl
  | present =>
    simp only [ofSlot, Bool.and_eq_true, decide_eq_true_eq] at holds
    rw [holds.1]
    rfl
  | value left =>
    change operator.ofValues left value = true at holds
    show operator.negate.ofValues left value = false
    cases ordering : operator.isOrdering with
    | false => rw [ofValues_negate_of_not_isOrdering ordering, holds, Bool.not_true]
    | true =>
      rw [ofValues_of_isOrdering ordering] at holds
      rw [ofValues_of_isOrdering ((isOrdering_negate operator).trans ordering)]
      cases compared : left.compare? value with
      | none => simp
      | some order =>
        simp only [compared, Option.any_some, Bool.and_eq_true] at holds
        simp [holds_negate, holds.2]

end Comparison

end RecordQuery

/-
This file proves that the normal form of a predicate has that form, and compares the two on one
record.

The two functions that make up the normal form are the two polarities of one walk, so every fact
about them is proved for both at once, by induction on the predicate. Pushing negations inward
keeps the order of the leaves, and with it which fault comes first. What it does not keep is the
answer of a negated order on null or not-a-number, where neither the operator nor its negation
holds. There the normal form is the stricter one.
-/

import Mathlib.Algebra.Ring.Parity
import RecordQuery.Predicate.NormalForm
import RecordQuery.Proofs.Evaluation

namespace RecordQuery

/-! ### Samples -/

/-- The person that some steps lead to is younger than eighteen. -/
def Sample.isMinor (through : List Step) : Predicate :=
  .comparison ⟨⟨through, ⟨⟨"Age", "Person", true, .int⟩, 0, .scalar .int⟩⟩, .field⟩ .less (.int 18)

/-- The step to the parent of a person. -/
def Sample.parent : Step :=
  ⟨⟨"Parent", "Person", true, .record "Person"⟩, 1, .record 0⟩

/-- A person and the parent are not both younger than eighteen. -/
def Sample.notBothMinors : Predicate :=
  .negation (.conjunction (isMinor []) (isMinor [parent]))

namespace Predicate

/-! ### The form -/

/-- Both polarities of the walk lead to normal form. -/
theorem isNormal_polarities (predicate : Predicate) :
    predicate.normalize.IsNormal ∧ predicate.negated.IsNormal := by
  induction predicate with
  | const value => exact ⟨.const value, .const (!value)⟩
  | comparison operand operator value =>
    exact ⟨.comparison operand operator value, .comparison operand operator.negate value⟩
  | text path test needle => exact ⟨.text path test needle, .notText path test needle⟩
  | member path keys => exact ⟨.member path keys, .notMember path keys⟩
  | anyItem path value => exact ⟨.anyItem path value, .notAnyItem path value⟩
  | negation inner inductionHypothesis => exact inductionHypothesis.symm
  | conjunction left right leftHypothesis rightHypothesis =>
    exact ⟨.conjunction leftHypothesis.1 rightHypothesis.1,
      .disjunction leftHypothesis.2 rightHypothesis.2⟩
  | disjunction left right leftHypothesis rightHypothesis =>
    exact ⟨.disjunction leftHypothesis.1 rightHypothesis.1,
      .conjunction leftHypothesis.2 rightHypothesis.2⟩

/-! ### Leaves -/

/-- The leaves of a predicate from left to right, each with the number of negations it stands
under, counting as many above the predicate itself as said. -/
def leavesUnder (above : Nat) : Predicate → List (Nat × Predicate)
  | negation inner => leavesUnder (above + 1) inner
  | conjunction left right => leavesUnder above left ++ leavesUnder above right
  | disjunction left right => leavesUnder above left ++ leavesUnder above right
  | const value => [(above, const value)]
  | comparison operand operator value => [(above, comparison operand operator value)]
  | text path test needle => [(above, text path test needle)]
  | member path keys => [(above, member path keys)]
  | anyItem path value => [(above, anyItem path value)]

/-- The leaves of a predicate from left to right, each with the number of negations it stands
under. -/
def leaves (predicate : Predicate) : List (Nat × Predicate) :=
  predicate.leavesUnder 0

/-- Whether, on a record, the comparisons among some leaves that stand under an odd number of
negations decide. Such a comparison takes the opposite operator in the normal form. An operand
that fails has nothing to decide. -/
def FlippedDecide (record : Record) (leaves : List (Nat × Predicate)) : Prop :=
  ∀ (above : Nat) (operand : Operand) (operator : Comparison) (value : Value) (slot : Slot),
    (above, comparison operand operator value) ∈ leaves → Odd above →
      operand.evaluate record = .ok slot → operator.Decides value slot

theorem flippedDecide_append {record : Record} {first second : List (Nat × Predicate)}
    (decide : FlippedDecide record (first ++ second)) :
    FlippedDecide record first ∧ FlippedDecide record second := by
  refine ⟨fun above operand operator value slot member => ?_,
    fun above operand operator value slot member => ?_⟩
  · exact decide above operand operator value slot (List.mem_append_left second member)
  · exact decide above operand operator value slot (List.mem_append_right first member)

/-! ### The normal form keeps answers that are decided -/

/-- A comparison whose operator decides on what its operand reads as has the answer of its
negation with the opposite operator. -/
theorem evaluate_comparison_negate {record : Record} {operand : Operand} {operator : Comparison}
    {value : Value}
    (decides : ∀ slot, operand.evaluate record = .ok slot → operator.Decides value slot) :
    (comparison operand operator.negate value).evaluate record =
      (negation (comparison operand operator value)).evaluate record := by
  simp only [evaluate]
  cases read : operand.evaluate record with
  | error fault => rfl
  | ok slot =>
    have opposite := Comparison.ofSlot_negate_of_decides (decides slot read)
    simp only [Except.map, opposite]

/-- Under an even number of negations the normal form evaluates as the predicate, and under an odd
number the normal form of its negation evaluates as its negation. -/
theorem evaluate_polarities (record : Record) (predicate : Predicate) (above : Nat)
    (decide : FlippedDecide record (predicate.leavesUnder above)) :
    (Even above → predicate.normalize.evaluate record = predicate.evaluate record) ∧
      (Odd above →
        predicate.negated.evaluate record = (negation predicate).evaluate record) := by
  induction predicate generalizing above with
  | const value => exact ⟨fun _ => rfl, fun _ => rfl⟩
  | text path test needle => exact ⟨fun _ => rfl, fun _ => rfl⟩
  | member path keys => exact ⟨fun _ => rfl, fun _ => rfl⟩
  | anyItem path value => exact ⟨fun _ => rfl, fun _ => rfl⟩
  | comparison operand operator value =>
    refine ⟨fun _ => rfl, fun odd => ?_⟩
    exact evaluate_comparison_negate fun slot read =>
      decide above operand operator value slot List.mem_cons_self odd read
  | negation inner inductionHypothesis =>
    obtain ⟨evenCase, oddCase⟩ := inductionHypothesis (above + 1) decide
    refine ⟨fun even => oddCase even.add_one, fun odd => ?_⟩
    rw [evaluate_negation_negation]
    exact evenCase odd.add_one
  | conjunction left right leftHypothesis rightHypothesis =>
    obtain ⟨decideLeft, decideRight⟩ := flippedDecide_append decide
    obtain ⟨leftEven, leftOdd⟩ := leftHypothesis above decideLeft
    obtain ⟨rightEven, rightOdd⟩ := rightHypothesis above decideRight
    refine ⟨fun even => ?_, fun odd => ?_⟩
    · simp only [normalize, evaluate, leftEven even, rightEven even]
    · exact evaluate_disjunction_of_opposites (leftOdd odd) (rightOdd odd)
  | disjunction left right leftHypothesis rightHypothesis =>
    obtain ⟨decideLeft, decideRight⟩ := flippedDecide_append decide
    obtain ⟨leftEven, leftOdd⟩ := leftHypothesis above decideLeft
    obtain ⟨rightEven, rightOdd⟩ := rightHypothesis above decideRight
    refine ⟨fun even => ?_, fun odd => ?_⟩
    · simp only [normalize, evaluate, leftEven even, rightEven even]
    · exact evaluate_conjunction_of_opposites (leftOdd odd) (rightOdd odd)

/-- If every comparison under an odd number of negations decides on a record, the normal form of a
predicate evaluates as the predicate, to the same answer or the same fault. -/
theorem normalize_evaluate {record : Record} {predicate : Predicate}
    (decide : FlippedDecide record predicate.leaves) :
    predicate.normalize.evaluate record = predicate.evaluate record :=
  (evaluate_polarities record predicate 0 decide).1 Even.zero

/-- Of a person of seventeen whose parent is unknown, the normal form fails as the predicate does:
both have to go on to the parent. -/
theorem normalize_evaluate_of_notBothMinors :
    FlippedDecide [.value (.int 17), .absent] Sample.notBothMinors.leaves ∧
      Sample.notBothMinors.normalize.evaluate [.value (.int 17), .absent] =
        Sample.notBothMinors.evaluate [.value (.int 17), .absent] ∧
      Sample.notBothMinors.evaluate [.value (.int 17), .absent] =
        .error (.unguardedNullHop "Parent.Age" "Parent") := by
  have decide : FlippedDecide [.value (.int 17), .absent] Sample.notBothMinors.leaves := by
    intro above operand operator value slot member _ read
    rcases List.mem_cons.mp member with leaf | member
    · cases leaf
      cases read
      exact fun _ => ⟨rfl, rfl, rfl⟩
    · cases List.mem_singleton.mp member
      cases read
  exact ⟨decide, normalize_evaluate decide, rfl⟩

/-! ### The normal form is never laxer -/

/-- A record on which the opposite operator holds is one on which the comparison does not. -/
theorem evaluate_comparison_ne_true {record : Record} {operand : Operand} {operator : Comparison}
    {value : Value}
    (opposite : (comparison operand operator.negate value).evaluate record = .ok true) :
    (comparison operand operator value).evaluate record ≠ .ok true := by
  intro held
  rw [evaluate, map_eq_ok_iff] at opposite held
  obtain ⟨slot, read, holds⟩ := held
  obtain ⟨same, readAgain, opposite⟩ := opposite
  rw [Except.ok.inj (readAgain.symm.trans read),
    Comparison.ofSlot_negate_eq_false holds] at opposite
  contradiction

/-- Where the normal form holds, the predicate is not false, and where the normal form of the
negation holds, it is not true. Either may still fail. -/
theorem normalize_stricter (record : Record) (predicate : Predicate) :
    (predicate.normalize.evaluate record = .ok true →
        predicate.evaluate record ≠ .ok false) ∧
      (predicate.negated.evaluate record = .ok true →
        predicate.evaluate record ≠ .ok true) := by
  induction predicate with
  | const value => cases value <;> simp [normalize, negated, evaluate]
  | text | member | anyItem =>
    refine ⟨fun held rejected => ?_, fun held accepted => ?_⟩
    · rw [normalize, rejected] at held
      contradiction
    · rw [negated, evaluate_negation_eq_ok_iff, accepted] at held
      contradiction
  | comparison operand operator value =>
    refine ⟨fun held rejected => ?_, evaluate_comparison_ne_true⟩
    rw [normalize, rejected] at held
    contradiction
  | negation inner inductionHypothesis =>
    refine ⟨fun held rejected => ?_, fun held accepted => ?_⟩
    · exact inductionHypothesis.2 held (evaluate_negation_eq_ok_iff.mp rejected)
    · exact inductionHypothesis.1 held (evaluate_negation_eq_ok_iff.mp accepted)
  | conjunction left right leftHypothesis rightHypothesis =>
    refine ⟨fun held rejected => ?_, fun held accepted => ?_⟩
    · obtain ⟨leftHeld, rightHeld⟩ := evaluate_conjunction_eq_true_iff.mp held
      rcases evaluate_conjunction_eq_false_iff.mp rejected with leftRejected | ⟨_, rightRejected⟩
      · exact leftHypothesis.1 leftHeld leftRejected
      · exact rightHypothesis.1 rightHeld rightRejected
    · obtain ⟨leftAccepted, rightAccepted⟩ := evaluate_conjunction_eq_true_iff.mp accepted
      rcases evaluate_disjunction_eq_true_iff.mp held with leftHeld | ⟨_, rightHeld⟩
      · exact leftHypothesis.2 leftHeld leftAccepted
      · exact rightHypothesis.2 rightHeld rightAccepted
  | disjunction left right leftHypothesis rightHypothesis =>
    refine ⟨fun held rejected => ?_, fun held accepted => ?_⟩
    · obtain ⟨leftRejected, rightRejected⟩ := evaluate_disjunction_eq_false_iff.mp rejected
      rcases evaluate_disjunction_eq_true_iff.mp held with leftHeld | ⟨_, rightHeld⟩
      · exact leftHypothesis.1 leftHeld leftRejected
      · exact rightHypothesis.1 rightHeld rightRejected
    · obtain ⟨leftHeld, rightHeld⟩ := evaluate_conjunction_eq_true_iff.mp held
      rcases evaluate_disjunction_eq_true_iff.mp accepted with leftAccepted | ⟨_, rightAccepted⟩
      · exact leftHypothesis.2 leftHeld leftAccepted
      · exact rightHypothesis.2 rightHeld rightAccepted

/-! ### The two normal forms exclude each other -/

/-- The normal forms of a predicate and of its negation never both hold. Neither need hold, and
either may fail where the other holds. -/
theorem not_normalize_and_negated (record : Record) (predicate : Predicate) :
    ¬ (predicate.normalize.evaluate record = .ok true ∧
      predicate.negated.evaluate record = .ok true) := by
  induction predicate with
  | const value => cases value <;> simp [normalize, negated, evaluate]
  | text | member | anyItem =>
    rintro ⟨held, opposite⟩
    rw [normalize] at held
    rw [negated, evaluate_negation_eq_ok_iff, held] at opposite
    contradiction
  | comparison operand operator value =>
    rintro ⟨held, opposite⟩
    exact evaluate_comparison_ne_true opposite held
  | negation inner inductionHypothesis =>
    rintro ⟨held, opposite⟩
    exact inductionHypothesis ⟨opposite, held⟩
  | conjunction left right leftHypothesis rightHypothesis =>
    rintro ⟨held, opposite⟩
    obtain ⟨leftHeld, rightHeld⟩ := evaluate_conjunction_eq_true_iff.mp held
    rcases evaluate_disjunction_eq_true_iff.mp opposite with leftOpposite | ⟨_, rightOpposite⟩
    · exact leftHypothesis ⟨leftHeld, leftOpposite⟩
    · exact rightHypothesis ⟨rightHeld, rightOpposite⟩
  | disjunction left right leftHypothesis rightHypothesis =>
    rintro ⟨held, opposite⟩
    obtain ⟨leftOpposite, rightOpposite⟩ := evaluate_conjunction_eq_true_iff.mp opposite
    rcases evaluate_disjunction_eq_true_iff.mp held with leftHeld | ⟨_, rightHeld⟩
    · exact leftHypothesis ⟨leftHeld, leftOpposite⟩
    · exact rightHypothesis ⟨rightHeld, rightOpposite⟩

end Predicate

end RecordQuery

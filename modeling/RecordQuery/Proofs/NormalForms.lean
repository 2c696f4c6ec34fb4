/-
This file proves that normal forms are just the predicates that normalizing leaves as they are.

Both polarities of the walk come to rest after one pass: walking on from where either of them ends
adds nothing to it. So normalizing twice is normalizing once, and to negate a normal form twice
gives it back. The leaves are never moved. Each of them only meets the negations above it, of which
it matters whether they are odd in number: a constant and a comparison take a negation up and
become their opposites, and the other tests keep one above them.
-/

import RecordQuery.Proofs.Polarity

namespace RecordQuery.Predicate

/-! ### Normal forms come to rest -/

theorem IsNormal.normalize_eq {predicate : Predicate} (normal : predicate.IsNormal) :
    predicate.normalize = predicate := by
  induction normal with
  | const | comparison | text | member | anyItem | notText | notMember | notAnyItem => rfl
  | conjunction _ _ leftHypothesis rightHypothesis
  | disjunction _ _ leftHypothesis rightHypothesis =>
    rw [normalize, leftHypothesis, rightHypothesis]

theorem normalize_eq_self_iff {predicate : Predicate} :
    predicate.normalize = predicate ↔ predicate.IsNormal := by
  refine ⟨fun same => ?_, IsNormal.normalize_eq⟩
  rw [← same]
  exact predicate.isNormal_polarities.1

/-- Either polarity of the walk, taken on from the normal form in the negative polarity, ends where
the walk itself would have ended. -/
theorem negated_polarities (predicate : Predicate) :
    predicate.normalize.negated = predicate.negated ∧
      predicate.negated.negated = predicate.normalize := by
  induction predicate with
  | const value => exact ⟨rfl, congrArg const (Bool.not_not value)⟩
  | comparison operand operator value =>
    exact ⟨rfl, congrArg (comparison operand · value) operator.negate_negate⟩
  | text | member | anyItem => exact ⟨rfl, rfl⟩
  | negation inner inductionHypothesis => exact inductionHypothesis.symm
  | conjunction left right leftHypothesis rightHypothesis
  | disjunction left right leftHypothesis rightHypothesis =>
    simp only [normalize, negated, leftHypothesis, rightHypothesis, and_self]

/-! ### What becomes of the leaves -/

/-- What becomes of a leaf that stands under some negations, and under how many it stands then. Only
constants and comparisons change, and only under an odd number. -/
def settle : Nat × Predicate → Nat × Predicate
  | (above, const value) => (0, const (if Odd above then !value else value))
  | (above, comparison operand operator value) =>
    (0, comparison operand (if Odd above then operator.negate else operator) value)
  | (above, leaf) => (above % 2, leaf)

/-- The walk settles the leaves and keeps their order, in the polarity that the negations above it
call for. -/
theorem leaves_polarities (predicate : Predicate) (above : Nat) :
    (Even above → predicate.normalize.leaves = (predicate.leavesUnder above).map settle) ∧
      (Odd above → predicate.negated.leaves = (predicate.leavesUnder above).map settle) := by
  induction predicate generalizing above with
  | const | comparison =>
    refine ⟨fun even => ?_, fun odd => ?_⟩
    · simp [normalize, leaves, leavesUnder, settle, Nat.not_odd_iff_even.mpr even]
    · simp [negated, leaves, leavesUnder, settle, odd]
  | text | member | anyItem =>
    refine ⟨fun even => ?_, fun odd => ?_⟩
    · simp [normalize, leaves, leavesUnder, settle, Nat.even_iff.mp even]
    · simp [negated, leaves, leavesUnder, settle, Nat.odd_iff.mp odd]
  | negation inner inductionHypothesis =>
    obtain ⟨evenCase, oddCase⟩ := inductionHypothesis (above + 1)
    exact ⟨fun even => oddCase even.add_one, fun odd => evenCase odd.add_one⟩
  | conjunction left right leftHypothesis rightHypothesis
  | disjunction left right leftHypothesis rightHypothesis =>
    obtain ⟨leftEven, leftOdd⟩ := leftHypothesis above
    obtain ⟨rightEven, rightOdd⟩ := rightHypothesis above
    rw [leavesUnder, List.map_append]
    refine ⟨fun even => ?_, fun odd => ?_⟩
    · rw [← leftEven even, ← rightEven even]
      rfl
    · rw [← leftOdd odd, ← rightOdd odd]
      rfl

/-- Normalizing leads to normal form and leaves nothing but normal forms as it is, so that a second
pass changes nothing. It keeps the leaves in their order and only settles each of them. To normalize
the negation of a normal form, twice over, gives the normal form back. -/
theorem normalize_comes_to_rest (predicate : Predicate) :
    predicate.normalize.IsNormal ∧
      (predicate.normalize = predicate ↔ predicate.IsNormal) ∧
      predicate.normalize.normalize = predicate.normalize ∧
      predicate.normalize.leaves = predicate.leaves.map settle ∧
      (negation (negation predicate).normalize).normalize = predicate.normalize := by
  have normal := predicate.isNormal_polarities.1
  have settled := (predicate.leaves_polarities 0).1 Even.zero
  have involutive := predicate.negated_polarities.2
  exact ⟨normal, normalize_eq_self_iff, normal.normalize_eq, settled, involutive⟩

end RecordQuery.Predicate

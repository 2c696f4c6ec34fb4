/-
This file proves where an operator and its negation are complements of each other.

Equality and its negation are so for all values that are not null. An order can only be told of
two values of one kind that has an order, and of no not-a-number. Of all others neither the operator
nor its negation holds, so that the negation is not the complement. It is just there that the normal
form of a negated comparison, which takes the negated operator, has another answer than the
predicate.
-/

import RecordQuery.Proofs.Coherence
import RecordQuery.Proofs.Lifting
import RecordQuery.Proofs.Polarity

namespace RecordQuery

open Number

/-! ### Values in an order -/

namespace Value

/-- Whether a value has a place among those of its kind. Null, vectors, lists and maps are of kinds
without an order, and a not-a-number is in no order. -/
def hasPlace : Value → Bool
  | null | vector _ | list _ | map _ => false
  | float value => !value.isNaN
  | bool _ | int _ | text _ | date _ | dateTime _ | uuid _ => true

/-- Whether two values are in an order: they are of one kind, integers and floats taken as one, and
both have a place in it. -/
def AreOrdered (left right : Value) : Prop :=
  left.kindRank = right.kindRank ∧ left.hasPlace = true ∧ right.hasPlace = true

theorem isSome_compare?_iff {left right : Value} :
    (left.compare? right).isSome = true ↔ left.AreOrdered right := by
  unfold AreOrdered
  cases left <;> cases right <;>
    simp [compare?, kindRank, hasPlace, Binary.compare?, isNaN_wordToDouble]

/-- Two floats are in an order if neither is a not-a-number. -/
theorem areOrdered_floats {left right : Double} :
    (float left).AreOrdered (float right) ↔ left.isNaN = false ∧ right.isNaN = false := by
  simp [AreOrdered, kindRank, hasPlace]

end Value

/-! ### Operators -/

namespace Comparison

variable {operator : Comparison} {left right : Value}

/-- An operator that asks for an order does not hold of values that are in none. -/
theorem ofValues_of_not_areOrdered (ordering : operator.isOrdering = true)
    (apart : ¬ left.AreOrdered right) : operator.ofValues left right = false := by
  have incomparable : left.compare? right = none :=
    Option.not_isSome_iff_eq_none.mp fun compared => apart (Value.isSome_compare?_iff.mp compared)
  rw [ofValues_of_isOrdering ordering, incomparable]
  exact Bool.and_false _

/-- The negation of an operator is its complement on two values that are not null just if it asks
for no order or they are in one. -/
theorem ofValues_negate_iff (leftThere : left ≠ .null) (rightThere : right ≠ .null) :
    operator.negate.ofValues left right = !operator.ofValues left right ↔
      operator.isOrdering = false ∨ left.AreOrdered right := by
  constructor
  · intro complement
    cases ordering : operator.isOrdering with
    | false => exact .inl rfl
    | true =>
      refine .inr (by_contra fun apart => ?_)
      have negated := (isOrdering_negate operator).trans ordering
      rw [ofValues_of_not_areOrdered ordering apart,
        ofValues_of_not_areOrdered negated apart] at complement
      contradiction
  · rintro (unordered | ordered)
    · exact ofValues_negate_of_not_isOrdering unordered left right
    · have decides : operator.Decides right (.value left) := fun _ =>
        ⟨Value.isNull_eq_false_iff.mpr leftThere, Value.isNull_eq_false_iff.mpr rightThere,
          Value.isSome_compare?_iff.mpr ordered⟩
      exact ofSlot_negate_of_decides decides

end Comparison

/-! ### Negated comparisons -/

/-- On a record where its operand reads as a value, the normal form of a negated comparison, which
takes the negation of the operator, has the answer of the predicate just if that is the complement
there. -/
theorem Predicate.normalize_evaluate_iff_complement {operand : Operand} {operator : Comparison}
    {left right : Value} {record : Record} (read : operand.evaluate record = .ok (.value left)) :
    (negation (comparison operand operator right)).normalize.evaluate record =
        (negation (comparison operand operator right)).evaluate record ↔
      operator.negate.ofValues left right = !operator.ofValues left right := by
  have normal : (negation (comparison operand operator right)).normalize.evaluate record =
      .ok (operator.negate.ofValues left right) := by
    rw [normalize, negated, evaluate, read]
    rfl
  have plain : (negation (comparison operand operator right)).evaluate record =
      .ok (!operator.ofValues left right) := by
    rw [evaluate, evaluate, read]
    rfl
  rw [normal, plain, Except.ok.injEq]

/-- The level of a reading. -/
def Sample.level : Operand :=
  ⟨⟨[], ⟨⟨"Level", "Reading", false, .float⟩, 0, .scalar .float⟩⟩, .field⟩

namespace Comparison

/-- Of two values that are not null the negation of an operator holds just where the operator does
not, if it asks for no order or they are in one. Otherwise neither of them holds. And just as long,
the normal form of a negated comparison of the two has the answer of the predicate. -/
theorem negate_complements_where_ordered {operator : Comparison} {left right : Value}
    (leftThere : left ≠ .null) (rightThere : right ≠ .null) :
    ((operator.negate.ofValues left right = true ↔ operator.ofValues left right = false) ↔
        operator.isOrdering = false ∨ left.AreOrdered right) ∧
      (operator.isOrdering = true → ¬ left.AreOrdered right →
        operator.ofValues left right = false ∧ operator.negate.ofValues left right = false) ∧
      ∀ (operand : Operand) (record : Record), operand.evaluate record = .ok (.value left) →
        ((Predicate.negation (.comparison operand operator right)).normalize.evaluate record =
            (Predicate.negation (.comparison operand operator right)).evaluate record ↔
          operator.isOrdering = false ∨ left.AreOrdered right) := by
  have complement : operator.negate.ofValues left right = !operator.ofValues left right ↔
      operator.isOrdering = false ∨ left.AreOrdered right :=
    ofValues_negate_iff leftThere rightThere
  refine ⟨?_, fun ordering apart => ⟨?_, ?_⟩, fun operand record read => ?_⟩
  · rw [← complement, ← Bool.not_eq_true', ← Bool.eq_iff_iff]
  · exact ofValues_of_not_areOrdered ordering apart
  · exact ofValues_of_not_areOrdered ((isOrdering_negate operator).trans ordering) apart
  · exact (Predicate.normalize_evaluate_iff_complement read).trans complement

/-- Two levels against the number one. Of the one that is not a number neither the order nor its
negation holds, and the normal form differs there. -/
theorem negate_complements_where_ordered_of_levels :
    let one : Value := .float 1
    let two : Value := .float 2
    let broken : Value := .float Binary.invalid
    let notBelow : Predicate := .negation (.comparison Sample.level .less one)
    (one ≠ .null ∧ two ≠ .null ∧ broken ≠ .null) ∧
      (Sample.level.evaluate [.value two] = .ok (.value two) ∧
        Sample.level.evaluate [.value broken] = .ok (.value broken)) ∧
      (two.AreOrdered one ∧
        (less.negate.ofValues two one = true ↔ less.ofValues two one = false) ∧
        notBelow.normalize.evaluate [.value two] = notBelow.evaluate [.value two]) ∧
      ¬ broken.AreOrdered one ∧ less.ofValues broken one = false ∧
        less.negate.ofValues broken one = false ∧
        notBelow.normalize.evaluate [.value broken] ≠ notBelow.evaluate [.value broken] := by
  intro one two broken notBelow
  have there (level : Double) : Value.float level ≠ .null := Value.noConfusion
  have read (level : Double) :
      Sample.level.evaluate [.value (.float level)] = .ok (.value (.float level)) := rfl
  have ordered : two.AreOrdered one := Value.areOrdered_floats.mpr (by decide +kernel)
  have apart : ¬ broken.AreOrdered one := fun ordered =>
    Bool.noConfusion (Value.areOrdered_floats.mp ordered).1
  obtain ⟨complement, _, normal⟩ :=
    @negate_complements_where_ordered less two one (there 2) (there 1)
  obtain ⟨_, neither, brokenNormal⟩ :=
    @negate_complements_where_ordered less broken one (there Binary.invalid) (there 1)
  obtain ⟨below, atLeast⟩ := neither rfl apart
  refine ⟨⟨there 1, there 2, there _⟩, ⟨read 2, read _⟩,
    ⟨ordered, complement.mpr (.inr ordered), ?_⟩, apart, below, atLeast, fun same => ?_⟩
  · exact (normal Sample.level [.value two] (read 2)).mpr (.inr ordered)
  · rcases (brokenNormal Sample.level [.value broken] (read _)).mp same with unordered | ordered
    · exact Bool.noConfusion unordered
    · exact apart ordered

/-- The negation of an operator is not its complement on all values that are not null: a
not-a-number is neither less than a number nor greater than or equal to it. -/
theorem not_negate_complements :
    ¬ ∀ (operator : Comparison) (left right : Value), left ≠ .null → right ≠ .null →
      (operator.negate.ofValues left right = true ↔ operator.ofValues left right = false) := by
  intro complement
  have below : less.ofValues (.float Binary.invalid) (.float 1) = false := by decide +kernel
  have notBelow : less.negate.ofValues (.float Binary.invalid) (.float 1) = false := by
    decide +kernel
  have held := (complement less (.float Binary.invalid) (.float 1) Value.noConfusion
    Value.noConfusion).mpr below
  exact Bool.noConfusion (notBelow.symm.trans held)

end Comparison

end RecordQuery

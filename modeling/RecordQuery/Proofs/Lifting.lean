/-
This file proves that comparisons are lifted to null, and false out of reach.

Operators stand for relations of values that are not null. They are lifted to null as if it were one
more value: it equals itself and nothing else, and it is in no order. A record at the end of a path
counts as a value that is not null. But where a record on the way is missing, there is nothing to
compare, and every comparison is false, so that its negation is true there.
-/

import RecordQuery.Proofs.Comparing
import RecordQuery.Proofs.Constants

namespace RecordQuery

/-! ### Operators lifted to null -/

theorem Value.isNull_eq_false_iff {value : Value} : value.isNull = false ↔ value ≠ .null := by
  cases value <;> simp [isNull]

namespace Comparison

/-- Whether two values are in the relation that an operator stands for. -/
def Relates : Comparison → Value → Value → Prop
  | equal, left, right => left.looselySame right = true
  | notEqual, left, right => left.looselySame right = false
  | greater, left, right => left.compare? right = some .gt
  | greaterOrEqual, left, right => left.compare? right = some .gt ∨ left.compare? right = some .eq
  | less, left, right => left.compare? right = some .lt
  | lessOrEqual, left, right => left.compare? right = some .lt ∨ left.compare? right = some .eq

/-- Whether two values are in the relation that an operator stands for, lifted to null. -/
inductive Lifts : Comparison → Value → Value → Prop where
  | bothNull : Lifts equal .null .null
  | leftNull {right : Value} : right ≠ .null → Lifts notEqual .null right
  | rightNull {left : Value} : left ≠ .null → Lifts notEqual left .null
  | related {operator : Comparison} {left right : Value} : left ≠ .null → right ≠ .null →
      operator.Relates left right → Lifts operator left right

variable {operator : Comparison} {left right : Value}

theorem ofValues_null_left (rightThere : right ≠ .null) :
    operator.ofValues .null right = decide (operator = notEqual) := by
  unfold ofValues
  rw [Value.isNull_eq_false_iff.mpr rightThere]
  rfl

theorem ofValues_null_right (leftThere : left ≠ .null) :
    operator.ofValues left .null = decide (operator = notEqual) := by
  unfold ofValues
  rw [Value.isNull_eq_false_iff.mpr leftThere]
  rfl

/-- Of two values that are not null an operator holds if they are in its relation. -/
theorem ofValues_eq_true_iff_relates (leftThere : left ≠ .null) (rightThere : right ≠ .null) :
    operator.ofValues left right = true ↔ operator.Relates left right := by
  unfold ofValues
  rw [Value.isNull_eq_false_iff.mpr leftThere, Value.isNull_eq_false_iff.mpr rightThere]
  cases operator with
  | equal | notEqual => simp [Relates]
  | greater | greaterOrEqual | less | lessOrEqual =>
    simp only [Relates]
    cases left.compare? right with
    | none => simp
    | some order => cases order <;> simp [holds]

/-- Of any two values an operator holds if they are in its relation, lifted to null. -/
theorem ofValues_eq_true_iff_lifts :
    operator.ofValues left right = true ↔ operator.Lifts left right := by
  constructor
  · intro holds
    by_cases leftNull : left = .null <;> by_cases rightNull : right = .null
    · subst leftNull rightNull
      obtain rfl : operator = equal := of_decide_eq_true holds
      exact .bothNull
    · subst leftNull
      rw [ofValues_null_left rightNull] at holds
      obtain rfl := of_decide_eq_true holds
      exact .leftNull rightNull
    · subst rightNull
      rw [ofValues_null_right leftNull] at holds
      obtain rfl := of_decide_eq_true holds
      exact .rightNull leftNull
    · have relates := (ofValues_eq_true_iff_relates leftNull rightNull).mp holds
      exact .related leftNull rightNull relates
  · intro lifts
    cases lifts with
    | bothNull => rfl
    | leftNull rightThere => exact ofValues_null_left rightThere
    | rightNull leftThere => exact ofValues_null_right leftThere
    | related leftThere rightThere relates =>
      exact (ofValues_eq_true_iff_relates leftThere rightThere).mpr relates

end Comparison

/-! ### Comparisons on records -/

section

variable {schema : Schema} {text : String} {path : Path} {record inner : Record}

/-- Only a path that is registered as that of a record reads as present. -/
theorem Path.kind_of_present (resolved : schema.resolve text = .ok path)
    (read : path.read record = .present) : ∃ name, path.kind = .record name := by
  obtain ⟨number, _, content, _⟩ := read_eq_present_iff.mp read
  obtain ⟨_, _, takes⟩ := Schema.walks_of_resolve resolved
  refine ⟨(schema.shape number).name, ?_⟩
  rw [kind, takes.kind, content]
  rfl

/-- Where a path can be read, an operator holds of what it reads as and a constant of its kind if
the plain value of the path and the constant are in its relation, lifted to null. -/
theorem Comparison.ofSlot_read_eq_true_iff_lifts {operator : Comparison} {value constant : Value}
    (resolved : schema.resolve text = .ok path)
    (reached : Path.follow path.through record = some inner)
    (converted : path.convertConstant value = .ok constant) :
    operator.ofSlot (path.read record) constant = true ↔
      operator.Lifts (path.get schema record) constant := by
  cases read : path.read record with
  | value held =>
    rw [path.get_of_value schema read]
    exact ofValues_eq_true_iff_lifts
  | present =>
    obtain ⟨name, isRecord⟩ := path.kind_of_present resolved read
    obtain ⟨number, nested, _, _, whole⟩ := path.get_of_present schema read
    rw [Path.convertConstant_eq_ok_iff, isRecord] at converted
    rw [whole, Kind.eq_null_of_convert?_record converted, ← ofValues_eq_true_iff_lifts]
    simp [ofSlot, ofValues, Schema.projectShape, Value.isNull]
  | unreachable hop =>
    have gone := Path.follow_eq_none_iff.mpr ⟨hop, read⟩
    rw [reached] at gone
    contradiction

theorem Schema.follow_eq_none_iff_firstAbsent (resolved : schema.resolve text = .ok path) :
    Path.follow path.through record = none ↔ ∃ hop, path.FirstAbsent schema record hop := by
  simp only [Path.follow_eq_none_iff, read_eq_unreachable_iff resolved]

end

/-- A comparison that can be built compares the field at the end of its path with the constant,
converted to the kind of the field. It is false on a record that lacks a record on the way, and its
negation is true there, as it stands and in normal form. On any other record it has an answer, and
holds if what the field reads as and the constant are in the relation of the operator, lifted to
null. -/
theorem Condition.compare_lifts {schema : Schema} {operator : Comparison} {text : String}
    {value : Value} {predicate : Predicate}
    (built : (compare operator text value).toPredicate schema = .ok predicate) :
    ∃ path constant, schema.resolve text = .ok path ∧ value.convert? path.kind = some constant ∧
      ∀ record,
        ((∃ hop, path.FirstAbsent schema record hop) →
          predicate.evaluate record = .ok false ∧
            (Predicate.negation predicate).evaluate record = .ok true ∧
            (Predicate.negation predicate).normalize.evaluate record = .ok true) ∧
        ((¬∃ hop, path.FirstAbsent schema record hop) →
          ∃ answer, predicate.evaluate record = .ok answer ∧
            (answer = true ↔ operator.Lifts (path.get schema record) constant)) := by
  obtain ⟨path, constant, resolved, converted, guarded⟩ := exists_of_toPredicate_compare built
  obtain ⟨_, same, shields⟩ :=
    Schema.guarded_shields resolved (.comparison ⟨path, .field⟩ operator constant)
  obtain rfl := Except.ok.inj (guarded.symm.trans same)
  refine ⟨path, constant, resolved, Path.convertConstant_eq_ok_iff.mp converted, fun record => ?_⟩
  rw [← Schema.follow_eq_none_iff_firstAbsent resolved]
  constructor
  · intro gone
    have rejected : predicate.evaluate record = .ok false := by
      rw [shields.evaluate, gone]
      rfl
    refine ⟨rejected, Predicate.evaluate_negation_eq_ok_iff.mpr rejected, ?_⟩
    rw [Predicate.normalize, shields.negated, gone]
    rfl
  · intro there
    obtain ⟨inner, reached⟩ := Option.ne_none_iff_exists'.mp there
    refine ⟨operator.ofSlot (path.read record) constant, ?_,
      Comparison.ofSlot_read_eq_true_iff_lifts resolved reached converted⟩
    rw [shields.evaluate, reached]
    exact (Predicate.realizesAlong_comparison path operator constant).evaluate reached

/-- That the weight of the third node is not three is false of a chain of two nodes. It is true of a
chain of three whose third node has no weight. -/
theorem Condition.compare_lifts_of_chain :
    ∃ path predicate, Sample.nodes.resolve "next.next.weight" = .ok path ∧
      (compare .notEqual "next.next.weight" (.text "3")).toPredicate Sample.nodes =
        .ok predicate ∧
      path.FirstAbsent Sample.nodes Sample.chain 1 ∧
      predicate.evaluate Sample.chain = .ok false ∧
      (Predicate.negation predicate).normalize.evaluate Sample.chain = .ok true ∧
      predicate.evaluate [.value (.text "first"), .value .null, .record Sample.chain] =
        .ok true := by
  have built : (compare .notEqual "next.next.weight" (.text "3")).toPredicate Sample.nodes =
      .ok _ := rfl
  obtain ⟨path, constant, resolved, converted, answers⟩ := compare_lifts built
  have same : path = _ := (Except.ok.inj resolved).symm
  subst same
  have absent := (Schema.read_eq_unreachable_iff resolved).mp
    (show Path.read _ Sample.chain = .unreachable 1 from rfl)
  obtain ⟨rejected, _, opposite⟩ := (answers Sample.chain).1 ⟨1, absent⟩
  refine ⟨_, _, resolved, built, absent, rejected, opposite, ?_⟩
  obtain ⟨answer, evaluated, lifts⟩ :=
    (answers [.value (.text "first"), .value .null, .record Sample.chain]).2 (by
      rw [← Schema.follow_eq_none_iff_firstAbsent resolved]
      exact Option.some_ne_none _)
  rw [evaluated, lifts.mpr]
  refine .leftNull ?_
  obtain rfl := Option.some.inj converted
  simp

end RecordQuery

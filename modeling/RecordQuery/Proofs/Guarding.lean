/-
This file proves that guards shield what they stand before. The guard of a path is the conjunction,
from the outermost record inward, of the tests that the records on the way are there. Each test
reads through the records before it, so it must only be reached where they are there, and the
order of evaluation sees to that.

Pushing a negation inward turns the conjunction into a disjunction of the opposite tests. There a
record that is missing makes its opposite test hold, which ends the evaluation as well. So a
condition does not read through a missing record in either polarity, and what is built from
conditions does not in any.
-/

import RecordQuery.Predicate.Condition
import RecordQuery.Predicate.NormalForm
import RecordQuery.Proofs.Evaluation
import RecordQuery.Proofs.Reading
import RecordQuery.Proofs.Resolution

namespace RecordQuery

/-! ### Tests that a record is there -/

/-- A field that holds a record reads as that record's presence. -/
theorem Operand.evaluate_record_field {path : Path} {record inner : Record} {number : Nat}
    (reached : Path.follow path.through record = some inner)
    (content : path.leaf.content = .record number) :
    (Operand.mk path .field).evaluate record =
      .ok (if (path.leaf.nested? inner).isSome then .present else .value .null) := by
  simp only [evaluate, Path.read_of_follow reached, Step.read, content]
  cases path.leaf.nested? inner with
  | none => rfl
  | some nested => rfl

namespace Predicate

variable {record inner : Record} {number : Nat}

/-- The test that a record is there holds if it is. -/
theorem evaluate_presence (path : Path) (reached : Path.follow path.through record = some inner)
    (content : path.leaf.content = .record number) :
    (comparison ⟨path, .field⟩ .notEqual .null).evaluate record =
      .ok (path.leaf.nested? inner).isSome := by
  rw [evaluate, Operand.evaluate_record_field reached content]
  cases path.leaf.nested? inner with
  | none => rfl
  | some nested => rfl

/-- The opposite test holds if the record is not there. -/
theorem evaluate_absence (path : Path) (reached : Path.follow path.through record = some inner)
    (content : path.leaf.content = .record number) :
    (comparison ⟨path, .field⟩ .equal .null).evaluate record =
      .ok (path.leaf.nested? inner).isNone := by
  rw [evaluate, Operand.evaluate_record_field reached content]
  cases path.leaf.nested? inner with
  | none => rfl
  | some nested => rfl

/-! ### Guards -/

/-- Whether a predicate holds of exactly the records on which some steps can be followed, its
negated normal form holds of exactly the others, and neither ever fails. -/
structure Guards (guard : Predicate) (steps : List Step) : Prop where
  holds : ∀ record, guard.evaluate record = .ok (Path.follow steps record).isSome
  normal : guard.normalize = guard
  opposite : ∀ record, guard.negated.evaluate record = .ok (Path.follow steps record).isNone

/-- What a guard may be: none where there are no steps. -/
def GuardsOrNone (steps : List Step) : Option Predicate → Prop
  | none => steps = []
  | some guard => guard.Guards steps

/-- The test of the next record completes a guard of those before it. -/
theorem Guards.conjunction {guard : Predicate} {depth : Nat} {path : Path}
    (inside : depth < path.through.length)
    (content : path.through[depth].content = .record number)
    (guards : guard.Guards (path.through.take depth)) :
    (Predicate.conjunction guard
      (comparison ⟨path.upTo depth inside, .field⟩ .notEqual .null)).Guards
        (path.through.take (depth + 1)) := by
  refine ⟨fun record => ?_, ?_, fun record => ?_⟩
  · rw [Path.follow_take_succ inside]
    cases reached : Path.follow (path.through.take depth) record with
    | none =>
      rw [Option.bind_none, Option.isSome_none, evaluate_conjunction_eq_false_iff, guards.holds,
        reached]
      exact .inl rfl
    | some inner =>
      rw [evaluate, guards.holds, reached]
      exact evaluate_presence (path.upTo depth inside) reached content
  · rw [normalize, guards.normal, normalize]
  · rw [Path.follow_take_succ inside]
    cases reached : Path.follow (path.through.take depth) record with
    | none =>
      rw [Option.bind_none, Option.isNone_none, negated, evaluate_disjunction_eq_true_iff,
        guards.opposite, reached]
      exact .inl rfl
    | some inner =>
      rw [negated, evaluate, guards.opposite, reached]
      exact evaluate_absence (path.upTo depth inside) reached content

/-- The test of the outermost record is a guard of the first step. -/
theorem guards_first {path : Path} (inside : 0 < path.through.length)
    (content : path.through[0].content = .record number) :
    (comparison ⟨path.upTo 0 inside, .field⟩ .notEqual .null).Guards (path.through.take 1) := by
  refine ⟨fun record => ?_, rfl, fun record => ?_⟩
  · rw [Path.follow_take_succ inside]
    exact evaluate_presence (path.upTo 0 inside) rfl content
  · rw [Path.follow_take_succ inside]
    exact evaluate_absence (path.upTo 0 inside) rfl content

end Predicate

namespace Schema

open Predicate

variable {schema : Schema}

theorem guardFrom_append (guard : Option Predicate) (first second : List String) :
    schema.guardFrom guard (first ++ second) =
      (schema.guardFrom guard first).bind fun guard => schema.guardFrom guard second := by
  induction first generalizing guard with
  | nil => rfl
  | cons text texts inductionHypothesis =>
    rw [List.cons_append, guardFrom, guardFrom]
    cases schema.presence text with
    | error fault => rfl
    | ok test => exact inductionHypothesis _

/-- The guard of a resolved path can always be built, and guards the steps on the way. -/
theorem guardFrom_prefixTexts {text : String} {path : Path}
    (resolved : schema.resolve text = .ok path) :
    ∃ guard, schema.guardFrom none path.prefixTexts = .ok guard ∧
      GuardsOrNone path.through guard := by
  obtain ⟨finish, leads, leaf⟩ := walks_of_resolve resolved
  have upTo (depth : Nat) (within : depth ≤ path.through.length) :
      ∃ guard, schema.guardFrom none ((List.range depth).map fun depth =>
          Path.joinNames (path.hops.take (depth + 1))) = .ok guard ∧
        GuardsOrNone (path.through.take depth) guard := by
    induction depth with
    | zero => exact ⟨none, rfl, rfl⟩
    | succ depth inductionHypothesis =>
      have inside : depth < path.through.length := within
      obtain ⟨_, number, _, content⟩ := leads.takes_of_mem (List.getElem_mem inside)
      obtain ⟨guard, built, guards⟩ := inductionHypothesis (Nat.le_of_lt inside)
      have test : schema.presence (Path.joinNames (path.hops.take (depth + 1))) =
          .ok (comparison ⟨path.upTo depth inside, .field⟩ .notEqual .null) := by
        rw [presence, resolveAny, resolve_prefix resolved depth inside]
        rfl
      rw [List.range_succ, List.map_append, guardFrom_append, built]
      simp only [List.map_cons, List.map_nil, Except.bind, guardFrom, test]
      refine ⟨_, rfl, ?_⟩
      cases guard with
      | none =>
        have first : depth = 0 := by
          rcases List.take_eq_nil_iff.mp guards with zero | empty
          · exact zero
          · simp [empty] at inside
        subst first
        exact guards_first inside content
      | some guard => exact Guards.conjunction inside content guards
  have whole := upTo path.through.length (Nat.le_refl _)
  rwa [List.take_length] at whole

end Schema

/-! ### Behind a guard -/

/-- The operands of the comparisons in a predicate, from left to right. -/
def Predicate.operands : Predicate → List Operand
  | negation inner => operands inner
  | conjunction left right => operands left ++ operands right
  | disjunction left right => operands left ++ operands right
  | comparison operand _ _ => [operand]
  | const _ => []
  | text _ _ _ => []
  | member _ _ => []
  | anyItem _ _ => []

/-- Whether a predicate is another behind the guard of some steps. It evaluates as the other where
the steps can be followed, and is false elsewhere without a fault, in both polarities. -/
structure Predicate.Shields (steps : List Step) (built inner : Predicate) : Prop where
  evaluate : ∀ record, built.evaluate record =
    if (Path.follow steps record).isSome then inner.evaluate record else .ok false
  normalize : ∀ record, built.normalize.evaluate record =
    if (Path.follow steps record).isSome then inner.normalize.evaluate record else .ok false
  negated : ∀ record, built.negated.evaluate record =
    if (Path.follow steps record).isSome then inner.negated.evaluate record else .ok true
  operands : ∀ operand ∈ inner.operands, operand ∈ built.operands

/-- A predicate can always be guarded by a resolved path. -/
theorem Schema.guarded_shields {schema : Schema} {text : String} {path : Path}
    (resolved : schema.resolve text = .ok path) (inner : Predicate) :
    ∃ built, schema.guarded path inner = .ok built ∧
      Predicate.Shields path.through built inner := by
  obtain ⟨guard, guardBuilt, guards⟩ := guardFrom_prefixTexts resolved
  rw [guarded, guardBuilt]
  refine ⟨_, rfl, ?_⟩
  cases guard with
  | none =>
    have empty : path.through = [] := guards
    rw [empty]
    exact ⟨fun record => rfl, fun record => rfl, fun record => rfl, fun operand member => member⟩
  | some guard =>
    have guards : guard.Guards path.through := guards
    refine ⟨fun record => ?_, fun record => ?_, fun record => ?_, fun operand member => ?_⟩
    · rw [Predicate.evaluate, guards.holds]
      cases Path.follow path.through record <;> rfl
    · rw [Predicate.normalize, guards.normal, Predicate.evaluate, guards.holds]
      cases Path.follow path.through record <;> rfl
    · rw [Predicate.negated, Predicate.evaluate, guards.opposite]
      cases Path.follow path.through record <;> rfl
    · exact List.mem_append_right _ member

end RecordQuery

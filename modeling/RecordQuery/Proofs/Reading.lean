/-
This file relates reading a path to following its steps from record to record. Where all records on
the way are there, a path reads as its last step reads the innermost of them. Where one is not, the
path cannot be read.

A path that can be read leaves an operand only two faults of its own: a part of a text that the
text is too short for, and the size of the least integer, which is beyond the integers.
-/

import RecordQuery.Predicate.Evaluate
import RecordQuery.Proofs.Outcome

namespace RecordQuery

/-! ### Following steps -/

namespace Path

/-- The record that some steps lead to, if every record on the way is there. -/
def follow : List Step → Record → Option Record
  | [], record => some record
  | step :: steps, record => (step.nested? record).bind (follow steps)

theorem follow_append (first second : List Step) (record : Record) :
    follow (first ++ second) record = (follow first record).bind (follow second) := by
  induction first generalizing record with
  | nil => rfl
  | cons step steps inductionHypothesis =>
    rw [List.cons_append, follow, follow, Option.bind_assoc]
    exact congrArg _ (funext inductionHypothesis)

theorem follow_take_succ {steps : List Step} {depth : Nat} (inside : depth < steps.length)
    (record : Record) :
    follow (steps.take (depth + 1)) record =
      (follow (steps.take depth) record).bind steps[depth].nested? := by
  rw [List.take_succ_eq_append_getElem inside, follow_append]
  refine congrArg _ (funext fun inner => ?_)
  exact Option.bind_fun_some (steps[depth].nested? inner)

end Path

/-- The last step of a path always reads as something. -/
theorem Step.read_cases (step : Step) (record : Record) :
    step.read record = .present ∨ ∃ value, step.read record = .value value := by
  unfold Step.read
  cases step.content with
  | scalar kind => exact .inr ⟨_, rfl⟩
  | record number =>
    cases step.nested? record with
    | none => exact .inr ⟨.null, rfl⟩
    | some inner => exact .inl rfl

namespace Path

theorem readThrough_of_follow {leaf : Step} {through : List Step} {record inner : Record}
    (reached : follow through record = some inner) :
    readThrough leaf through record = leaf.read inner := by
  induction through generalizing record with
  | nil =>
    have same : record = inner := Option.some.inj reached
    rw [readThrough, same]
  | cons step steps inductionHypothesis =>
    rw [follow] at reached
    obtain ⟨next, there, reached⟩ := Option.bind_eq_some_iff.mp reached
    rw [readThrough, there]
    simp only [inductionHypothesis reached]
    rcases leaf.read_cases inner with present | ⟨value, read⟩
    · rw [present]
      rfl
    · rw [read]
      rfl

theorem read_of_follow {path : Path} {record inner : Record}
    (reached : follow path.through record = some inner) :
    path.read record = path.leaf.read inner :=
  readThrough_of_follow reached

/-- A path whose records on the way are all there can be read. -/
theorem readReachable_of_follow {path : Path} {record inner : Record}
    (reached : follow path.through record = some inner) :
    path.readReachable record = .ok (path.leaf.read inner) := by
  rw [readReachable, read_of_follow reached]
  rcases path.leaf.read_cases inner with present | ⟨value, read⟩
  · rw [present]
  · rw [read]

end Path

/-! ### The faults of operands -/

namespace Operand

/-- The faults that an operand has on a record whose field can be read. -/
inductive Fails (operand : Operand) (record : Record) : EvaluationError → Prop where
  /-- The part of the text reaches beyond its end. -/
  | outOfRange {start length : UInt64} {text : String} :
      operand.view = .substring start length →
        operand.path.read record = .value (.text text) →
          text.toList.length < start.toNat + length.toNat →
            Fails operand record
              (.substringOutOfRange operand.path.toText start length text.toList.length)
  /-- The size of the least integer is no integer. -/
  | overflow : operand.view = .absolute →
      operand.path.read record = .value (.int Int64.minValue) →
        Fails operand record (.overflow operand.path.toText)

theorem fails_of_apply {operand : Operand} {record : Record} {value : Value}
    (read : operand.path.read record = .value value) {error : EvaluationError}
    (failed : operand.view.apply operand.path value = .error error) :
    operand.Fails record error := by
  cases view : operand.view with
  | field | date | cosine query => simp [view, View.apply] at failed
  | absolute =>
    cases value with
    | int number =>
      simp only [view, View.apply, View.absoluteOf] at failed
      split at failed
      · rename_i least
        rw [least] at read
        cases failed
        exact .overflow view read
      · contradiction
    | _ => simp [view, View.apply, View.absoluteOf] at failed
  | substring start length =>
    cases value with
    | text characters =>
      simp only [view, View.apply, View.substringOf] at failed
      split at failed
      · rename_i short
        cases failed
        exact .outOfRange view read short
      · contradiction
    | _ => simp [view, View.apply, View.substringOf] at failed

/-- An operand whose records on the way are all there fails only by a fault of its own. -/
theorem fails_of_follow {operand : Operand} {record inner : Record}
    (reached : Path.follow operand.path.through record = some inner) {error : EvaluationError}
    (failed : operand.evaluate record = .error error) : operand.Fails record error := by
  have read := Path.read_of_follow reached
  unfold evaluate at failed
  split at failed
  · contradiction
  · rcases operand.path.leaf.read_cases inner with present | ⟨value, leafRead⟩
    · rw [read, present] at failed
      contradiction
    · rw [leafRead] at read
      rw [read] at failed
      refine fails_of_apply read ?_
      cases value with
      | null => contradiction
      | _ => exact map_eq_error_iff.mp failed

end Operand

end RecordQuery

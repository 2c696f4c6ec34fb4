/-
This file says what comparisons with constants amount to, once they are built.

A comparison stands behind the guard of its path. So it asks nothing where a record on the way is
missing, and is false there. Everywhere else it compares what the path reads as with the converted
constant. That is also what it does in normal form, and so a comparison that can be built is a test
of records, which has an answer on every one of them.
-/

import RecordQuery.Proofs.Conditions
import RecordQuery.Proofs.Filtering
import RecordQuery.Proofs.Walking

namespace RecordQuery

/-- Whether a predicate is a test, as it stands and in normal form: it has the answer of the test on
every record. -/
structure Predicate.Realizes (predicate : Predicate) (test : Record → Bool) : Prop where
  evaluate : ∀ record, predicate.evaluate record = .ok (test record)
  normalize : ∀ record, predicate.normalize.evaluate record = .ok (test record)

namespace Predicate.Realizes

variable {predicate left right : Predicate} {test other leftTest rightTest : Record → Bool}

theorem congr (realizes : predicate.Realizes test) (same : ∀ record, test record = other record) :
    predicate.Realizes other := by
  rwa [← show test = other from funext same]

theorem conjunction (realizesLeft : left.Realizes leftTest)
    (realizesRight : right.Realizes rightTest) :
    (Predicate.conjunction left right).Realizes
      fun record => leftTest record && rightTest record := by
  refine ⟨fun record => ?_, fun record => ?_⟩
  · rw [evaluate_conjunction, realizesLeft.evaluate, realizesRight.evaluate]
    cases leftTest record <;> rfl
  · rw [Predicate.normalize, evaluate_conjunction, realizesLeft.normalize, realizesRight.normalize]
    cases leftTest record <;> rfl

theorem disjunction (realizesLeft : left.Realizes leftTest)
    (realizesRight : right.Realizes rightTest) :
    (Predicate.disjunction left right).Realizes
      fun record => leftTest record || rightTest record := by
  refine ⟨fun record => ?_, fun record => ?_⟩
  · rw [evaluate_disjunction, realizesLeft.evaluate, realizesRight.evaluate]
    cases leftTest record <;> rfl
  · rw [Predicate.normalize, evaluate_disjunction, realizesLeft.normalize, realizesRight.normalize]
    cases leftTest record <;> rfl

end Predicate.Realizes

/-! ### Behind the guard -/

/-- Whether a predicate in normal form is a test where a path can be followed, a test which is false
where the path cannot be. -/
structure Predicate.RealizesAlong (path : Path) (core : Predicate) (test : Record → Bool) :
    Prop where
  evaluate : ∀ {record inner : Record}, Path.follow path.through record = some inner →
    core.evaluate record = .ok (test record)
  normal : core.normalize = core
  beyond : ∀ {record : Record} {hop : Nat}, path.read record = .unreachable hop →
    test record = false

section

variable {schema : Schema} {text : String} {path : Path} {record inner : Record}

/-- Behind the guard of its path it is that test everywhere. -/
theorem Predicate.RealizesAlong.guarded {core : Predicate} {test : Record → Bool}
    (along : core.RealizesAlong path test) (resolved : schema.resolve text = .ok path) :
    ∃ predicate, schema.guarded path core = .ok predicate ∧ predicate.Realizes test := by
  obtain ⟨predicate, built, shields⟩ := Schema.guarded_shields resolved core
  have answers (record : Record) : (if (Path.follow path.through record).isSome then
      core.evaluate record else .ok false) = .ok (test record) := by
    cases reached : Path.follow path.through record with
    | some inner => exact along.evaluate reached
    | none =>
      obtain ⟨hop, read⟩ := Path.follow_eq_none_iff.mp reached
      exact congrArg Except.ok (along.beyond read).symm
  refine ⟨predicate, built, fun record => ?_, fun record => ?_⟩
  · rw [shields.evaluate, answers]
  · rw [shields.normalize, along.normal, answers]

theorem Predicate.RealizesAlong.conjunction {left right : Predicate}
    {leftTest rightTest : Record → Bool} (leftAlong : left.RealizesAlong path leftTest)
    (rightAlong : right.RealizesAlong path rightTest) :
    (Predicate.conjunction left right).RealizesAlong path
      fun record => leftTest record && rightTest record := by
  refine ⟨fun {record inner} reached => ?_, ?_, fun {record hop} unread => ?_⟩
  · rw [evaluate_conjunction, leftAlong.evaluate reached, rightAlong.evaluate reached]
    cases leftTest record <;> rfl
  · rw [normalize, leftAlong.normal, rightAlong.normal]
  · rw [leftAlong.beyond unread, Bool.false_and]

/-- A field that can be reached is compared as it reads. -/
theorem Operand.evaluate_field (reached : Path.follow path.through record = some inner) :
    (Operand.mk path .field).evaluate record = .ok (path.read record) := by
  unfold evaluate
  rw [Path.read_of_follow reached]
  rcases path.leaf.read_cases inner with present | ⟨value, read⟩
  · rw [present]
  · rw [read]
    cases value <;> rfl

theorem Predicate.realizesAlong_comparison (path : Path) (operator : Comparison)
    (constant : Value) :
    (comparison ⟨path, .field⟩ operator constant).RealizesAlong path
      fun record => operator.ofSlot (path.read record) constant := by
  refine ⟨fun {record inner} reached => ?_, rfl, fun {record hop} unread => ?_⟩
  · rw [Predicate.evaluate, Operand.evaluate_field reached]
    rfl
  · rw [unread]
    rfl

end

/-! ### Conditions -/

section

variable {schema : Schema} {text : String} {path : Path}

theorem Schema.resolveSuited_of_suits {suits : Kind → Bool}
    (resolved : schema.resolve text = .ok path) (suited : suits path.kind = true)
    (unsuited : String → Kind → ResolutionError) :
    schema.resolveSuited text suits unsuited = .ok path :=
  resolveSuited_eq_ok_iff.mpr ⟨resolved, suited⟩

theorem Schema.resolveAny_of_resolve (resolved : schema.resolve text = .ok path) :
    schema.resolveAny text = .ok path :=
  mapError_eq_ok_iff.mpr resolved

namespace Condition

/-- A comparison is built from the converted constant. -/
theorem toPredicate_compare (operator : Comparison) (resolved : schema.resolve text = .ok path)
    (suited : operator.isOrdering = true → path.kind.isOrdered = true) (value : Value) :
    (compare operator text value).toPredicate schema =
      (path.convertConstant value).bind fun constant =>
        schema.guarded path (.comparison ⟨path, .field⟩ operator constant) := by
  rw [toPredicate]
  split
  · rename_i ordering
    rw [Schema.resolveSuited_of_suits resolved (suited ordering)]
    rfl
  · rw [Schema.resolveAny_of_resolve resolved]
    rfl

/-- A comparison that has a field to compare and a constant to compare it with can be built, and
tests what the field reads as. -/
theorem compare_realizes {value constant : Value} (operator : Comparison)
    (resolved : schema.resolve text = .ok path)
    (suited : operator.isOrdering = true → path.kind.isOrdered = true)
    (converted : path.convertConstant value = .ok constant) :
    ∃ predicate, (compare operator text value).toPredicate schema = .ok predicate ∧
      predicate.Realizes fun record => operator.ofSlot (path.read record) constant := by
  obtain ⟨predicate, built, realizes⟩ :=
    (Predicate.realizesAlong_comparison path operator constant).guarded resolved
  refine ⟨predicate, ?_, realizes⟩
  rw [toPredicate_compare operator resolved suited]
  exact bind_eq_ok_iff.mpr ⟨constant, converted, built⟩

/-- A range that has a field to compare and constants to compare it with can be built, and tests
that what the field reads as lies between them. -/
theorem between_realizes {low high least greatest : Value}
    (resolved : schema.resolve text = .ok path) (suited : path.kind.isOrdered = true)
    (lowConverted : path.convertConstant low = .ok least)
    (highConverted : path.convertConstant high = .ok greatest) :
    ∃ predicate, (between text low high).toPredicate schema = .ok predicate ∧
      predicate.Realizes fun record =>
        Comparison.greaterOrEqual.ofSlot (path.read record) least &&
          Comparison.lessOrEqual.ofSlot (path.read record) greatest := by
  have core := (Predicate.realizesAlong_comparison path .greaterOrEqual least).conjunction
    (Predicate.realizesAlong_comparison path .lessOrEqual greatest)
  obtain ⟨predicate, built, realizes⟩ := core.guarded resolved
  refine ⟨predicate, ?_, realizes⟩
  rw [toPredicate, Schema.resolveSuited_of_suits resolved suited]
  exact bind_eq_ok_iff.mpr ⟨_, rfl, bind_eq_ok_iff.mpr ⟨_, lowConverted,
    bind_eq_ok_iff.mpr ⟨_, highConverted, built⟩⟩⟩

end Condition

end

/-! ### Filters -/

/-- A filter by a test keeps the rows that pass it, and fails where the query before it does. -/
theorem Query.materialize_filter_eq_map {Label : Type} {predicate : Predicate}
    {test : Record → Bool} (realizes : predicate.Realizes test) (query : Query Label) :
    (query.filter predicate).materialize =
      query.materialize.map (List.filter fun row => test row.record) := by
  refine Source.materialize_push_of_run (fun rows => ?_) query.source
  refine Stage.filterRows_eq_ok_iff.mpr ⟨fun row _ => ⟨_, realizes.normalize row.record⟩, ?_⟩
  refine List.filter_congr fun row _ => ?_
  rw [Predicate.accepts, realizes.normalize row.record]

theorem Query.materialize_filter_of_realizes {Label : Type} {query : Query Label}
    {predicate : Predicate} {test : Record → Bool} {rows : List (Row Label)}
    (realizes : predicate.Realizes test) (ran : query.materialize = .ok rows) :
    (query.filter predicate).materialize = .ok (rows.filter fun row => test row.record) := by
  rw [query.materialize_filter_eq_map realizes, ran]
  rfl

end RecordQuery

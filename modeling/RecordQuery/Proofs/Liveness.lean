/-
This file says which records are live.

A setting names up to two flags, by paths to fields. One must read as true and the other as false. A
flag that has no name, no field or no truth value at its path does not matter, and where neither
does, all records are live. The test of live records can always be built, and it has an answer on
all records: a flag that is null or out of reach makes a record not live.
-/

import RecordQuery.Proofs.Comparing

namespace RecordQuery

/-! ### Flags -/

/-- The truth value in a slot, if it holds one. -/
def Slot.truth? : Slot → Option Bool
  | value (.bool truth) => some truth
  | _ => none

/-- Only the same truth value equals a truth value. -/
theorem Comparison.equal_ofSlot_bool (slot : Slot) (expected : Bool) :
    Comparison.equal.ofSlot slot (.bool expected) = (slot.truth? == some expected) := by
  cases slot with
  | present | unreachable => rfl
  | value value => cases value <;> rfl

/-- Whether a test is what a predicate tests, or where there is no predicate, whether all records
pass the test. -/
def Predicate.Realized (test : Record → Bool) : Option Predicate → Prop
  | some predicate => predicate.Realizes test
  | none => ∀ record, test record = true

theorem Schema.resolve?_eq_some_iff {schema : Schema} {text : String} {path : Path} :
    schema.resolve? text = some path ↔ schema.resolve text = .ok path := by
  unfold resolve?
  cases schema.resolve text <;> simp [Except.toOption]

namespace SoftDelete

variable {schema : Schema}

/-- Whether a flag reads as expected on a record, if it is the name of a truth value. -/
def flagPasses (schema : Schema) (field : Option String) (expected : Bool) (record : Record) :
    Bool :=
  match field.bind schema.resolve? with
  | some path => path.kind != .bool || (path.read record).truth? == some expected
  | none => true

/-- Whether a record is live. -/
def passes (guard : SoftDelete) (schema : Schema) (record : Record) : Bool :=
  flagPasses schema guard.activeField true record &&
    flagPasses schema guard.archivedField false record

/-- The name of a field is found again under the names that fields are registered with. -/
theorem resolve_toText_of_bind {field : Option String} {path : Path}
    (found : field.bind schema.resolve? = some path) : schema.resolve path.toText = .ok path := by
  obtain ⟨text, _, resolved⟩ := Option.bind_eq_some_iff.mp found
  exact Schema.resolve_joinNames (Schema.walks_of_resolve (Schema.resolve?_eq_some_iff.mp resolved))

/-- The test of a flag can always be built, if it is one. -/
theorem flagPredicate_realized (schema : Schema) (field : Option String) (expected : Bool) :
    ∃ test, flagPredicate schema field expected = .ok test ∧
      Predicate.Realized (flagPasses schema field expected) test := by
  unfold flagPredicate flagPasses
  cases found : field.bind schema.resolve? with
  | none => exact ⟨none, rfl, fun _ => rfl⟩
  | some path =>
    dsimp only
    by_cases isBool : path.kind = .bool
    · have converted : path.convertConstant (.bool expected) = .ok (.bool expected) := by
        simp only [Path.convertConstant, Path.convertTo, isBool, Value.convert?]
      obtain ⟨predicate, built, realizes⟩ := Condition.compare_realizes .equal
        (resolve_toText_of_bind found) (fun ordering => by contradiction) converted
      refine ⟨some predicate, ?_, realizes.congr fun record => ?_⟩
      · rw [if_pos isBool, built]
        rfl
      · rw [Comparison.equal_ofSlot_bool, isBool]
        rfl
    · refine ⟨none, if_neg isBool, fun record => ?_⟩
      exact Bool.or_eq_true_iff.mpr (.inl (bne_iff_ne.mpr isBool))

/-- The test that a record is live can always be built, unless all are. -/
theorem livePredicate_realized (guard : SoftDelete) (schema : Schema) :
    ∃ test, guard.livePredicate schema = .ok test ∧
      Predicate.Realized (guard.passes schema) test := by
  obtain ⟨active, activeBuilt, activeRealized⟩ :=
    flagPredicate_realized schema guard.activeField true
  obtain ⟨archived, archivedBuilt, archivedRealized⟩ :=
    flagPredicate_realized schema guard.archivedField false
  refine ⟨_, bind_eq_ok_iff.mpr ⟨active, activeBuilt,
    bind_eq_ok_iff.mpr ⟨archived, archivedBuilt, rfl⟩⟩, ?_⟩
  cases active with
  | none =>
    have allActive : ∀ record, flagPasses schema guard.activeField true record = true :=
      activeRealized
    cases archived with
    | none =>
      have allThere : ∀ record, flagPasses schema guard.archivedField false record = true :=
        archivedRealized
      exact fun record => Bool.and_eq_true_iff.mpr ⟨allActive record, allThere record⟩
    | some archived =>
      have realizes : archived.Realizes (flagPasses schema guard.archivedField false) :=
        archivedRealized
      refine realizes.congr fun record => ?_
      rw [passes, allActive, Bool.true_and]
  | some active =>
    have realizes : active.Realizes (flagPasses schema guard.activeField true) := activeRealized
    cases archived with
    | none =>
      have allThere : ∀ record, flagPasses schema guard.archivedField false record = true :=
        archivedRealized
      refine realizes.congr fun record => ?_
      rw [passes, allThere, Bool.and_true]
    | some archived => exact realizes.conjunction archivedRealized

end SoftDelete

/-- A query whose live records are asked for comes to those of its rows that are live. -/
theorem Query.exists_filterLive {Label : Type} {query : Query Label} {rows : List (Row Label)}
    (guard : SoftDelete) (ran : query.materialize = .ok rows) :
    ∃ live, query.filterLive guard = .ok live ∧ live.schema = query.schema ∧
      live.materialize = .ok (rows.filter fun row => guard.passes query.schema row.record) := by
  obtain ⟨test, built, realized⟩ := guard.livePredicate_realized query.schema
  refine ⟨_, map_eq_ok_iff.mpr ⟨test, built, rfl⟩, ?_⟩
  cases test with
  | none =>
    have all : ∀ record, guard.passes query.schema record = true := realized
    refine ⟨rfl, ?_⟩
    rw [List.filter_eq_self.mpr fun row _ => all row.record]
    exact ran
  | some predicate => exact ⟨rfl, materialize_filter_of_realizes realized ran⟩

end RecordQuery

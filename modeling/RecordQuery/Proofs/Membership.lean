/-
This file proves that membership is a disjunction of equalities.

Whether the key of a field is among those of some constants is asked of a set of keys, and whether
the field equals one of them is asked of each constant in turn. The two agree where the field reads
as null or as a value of its kind, because the constants are of that kind too, and values of one
keyable kind are as distinct as their keys.
-/

import RecordQuery.Proofs.Comparing
import RecordQuery.Proofs.Keys

namespace RecordQuery

/-! ### Disjunctions of several predicates -/

/-- The disjunction of some predicates, from left to right. Without any it is false. -/
def Predicate.anyOf : List Predicate → Predicate
  | [] => const false
  | first :: rest => rest.foldl disjunction first

namespace Predicate.Realizes

variable {Parameter : Type} {test : Parameter → Record → Bool} {predicates : List Predicate}
  {parameters : List Parameter}

theorem foldl_disjunction {first : Predicate} {firstTest : Record → Bool}
    (realizes : first.Realizes firstTest)
    (each : List.Forall₂ (fun predicate parameter => predicate.Realizes (test parameter)) predicates
      parameters) :
    (predicates.foldl Predicate.disjunction first).Realizes fun record =>
      firstTest record || parameters.any (test · record) := by
  induction each generalizing first firstTest with
  | nil => exact realizes.congr fun record => (Bool.or_false _).symm
  | cons second _ inductionHypothesis =>
    exact (inductionHypothesis (realizes.disjunction second)).congr fun record =>
      Bool.or_assoc _ _ _

/-- The disjunction of some tests is the test whether one of them passes. -/
theorem anyOf
    (each : List.Forall₂ (fun predicate parameter => predicate.Realizes (test parameter)) predicates
      parameters) :
    (Predicate.anyOf predicates).Realizes fun record => parameters.any (test · record) := by
  cases each with
  | nil => exact ⟨fun record => rfl, fun record => rfl⟩
  | cons first rest => exact first.foldl_disjunction rest

end Predicate.Realizes

/-! ### Membership as it is built -/

/-- The key of a field that can be reached is looked up in the set. -/
theorem Predicate.realizesAlong_member (path : Path) (keys : KeySet) :
    (member path keys).RealizesAlong path fun record => hasMember keys (path.read record) := by
  refine ⟨fun {record inner} reached => ?_, rfl, fun {record hop} unread => ?_⟩
  · rw [Predicate.evaluate, Path.readReachable_of_follow reached, Path.read_of_follow reached]
    rfl
  · rw [unread]
    rfl

section

variable {schema : Schema} {text : String} {path : Path} {values constants : List Value}

/-- What stands behind a guard can be built if what it is built from can be found. -/
theorem Schema.exists_bind_guarded_eq_error_iff {Part : Type}
    (resolved : schema.resolve text = .ok path) {part : Except QueryError Part}
    {core : Part → Predicate} :
    (∃ fault, (part.bind fun part => schema.guarded path (core part)) = .error fault) ↔
      ∃ fault, part = .error fault := by
  refine exists_congr fun fault => bind_eq_error_iff.trans (or_iff_left ?_)
  rintro ⟨part, _, failed⟩
  obtain ⟨built, guarded, _⟩ := Schema.guarded_shields resolved (core part)
  rw [guarded] at failed
  contradiction

namespace Condition

theorem toPredicate_isIn (resolved : schema.resolve text = .ok path)
    (keyable : path.kind.isKeyable = true) (values : List Value) :
    (isIn text values).toPredicate schema =
      (path.convertKeys [] values).bind fun keys => schema.guarded path (.member path keys) := by
  rw [toPredicate, Schema.resolveSuited_of_suits resolved keyable]
  rfl

/-- Membership that has constants to look for can be built, and tests whether what the field reads
as has the key of one of them. -/
theorem isIn_realizes (resolved : schema.resolve text = .ok path)
    (keyable : path.kind.isKeyable = true)
    (converted : values.mapM path.convertConstant = .ok constants) :
    ∃ predicate, (isIn text values).toPredicate schema = .ok predicate ∧
      predicate.Realizes fun record => Predicate.hasMember
        (KeySet.ofList (constants.filterMap Key.ofValue?)) (path.read record) := by
  obtain ⟨predicate, built, realizes⟩ := (Predicate.realizesAlong_member path
    (KeySet.ofList (constants.filterMap Key.ofValue?))).guarded resolved
  refine ⟨predicate, ?_, realizes⟩
  rw [toPredicate_isIn resolved keyable, Path.convertKeys_eq_map, converted]
  exact built

/-- Equalities with several constants can be built, and each of them tests what the field reads
as. -/
theorem equals_realize (resolved : schema.resolve text = .ok path)
    (converted : values.mapM path.convertConstant = .ok constants) :
    ∃ predicates,
      values.mapM (fun value => (compare .equal text value).toPredicate schema) = .ok predicates ∧
        List.Forall₂ (fun predicate constant => predicate.Realizes fun record =>
          Comparison.equal.ofSlot (path.read record) constant) predicates constants := by
  rw [mapM_eq_ok_iff] at converted
  simp only [mapM_eq_ok_iff]
  induction converted with
  | nil => exact ⟨[], .nil, .nil⟩
  | cons first _ inductionHypothesis =>
    obtain ⟨predicate, built, realizes⟩ := compare_realizes .equal resolved nofun first
    obtain ⟨predicates, rest, realize⟩ := inductionHypothesis
    exact ⟨predicate :: predicates, .cons built rest, .cons realizes realize⟩

end Condition

/-! ### Membership by keys and by equality -/

/-- A value of a keyable kind has the key of one of some constants of that kind just if it equals
one of them. -/
theorem Predicate.hasMember_eq_any {kind : Kind} (keyable : kind.isKeyable = true)
    (admitted : ∀ constant ∈ constants, kind.admits constant = true)
    {value : Value} (valueAdmitted : kind.admits value = true)
    (ordered : value.hasNaN = false ∨ ∀ constant ∈ constants, constant.hasNaN = false) :
    hasMember (KeySet.ofList (constants.filterMap Key.ofValue?)) (.value value) =
      constants.any fun constant => Comparison.equal.ofSlot (.value value) constant := by
  have keys : constants.filterMap Key.ofValue? = constants.map Key.ofValue := by
    rw [← List.filterMap_eq_map]
    exact List.filterMap_congr fun constant member =>
      Key.ofValue?_of_admits keyable (admitted constant member)
  have agree (constant : Value) (member : constant ∈ constants) :
      (Key.ofValue constant).same (Key.ofValue value) =
        Comparison.equal.ofValues value constant := by
    rw [Key.same_comm, Comparison.equal_ofValues,
      Value.looselySame_of_admits valueAdmitted (admitted constant member)]
    exact Key.same_ofValue keyable valueAdmitted (admitted constant member)
      (ordered.imp_right fun numbers => numbers constant member)
  rw [hasMember, Key.ofValue?_of_admits keyable valueAdmitted, Option.any_some, KeySet.ofList,
    KeySet.contains_foldl_insert, keys, List.any_map, Bool.eq_iff_iff]
  simp only [KeySet.contains, List.any_nil, Bool.false_or, List.any_eq_true, Function.comp_apply]
  refine exists_congr fun constant => and_congr_right fun member => ?_
  rw [agree constant member]
  rfl

/-- Membership in some constants can be built just if equality with each of them can be. On a record
whose field reads as null or as a value of its kind, it then has the answer of the disjunction of
these equalities, unless there are not-a-numbers both in the field and in the constants. -/
theorem Condition.isIn_evaluates_as_anyOf_equals (resolved : schema.resolve text = .ok path)
    (keyable : path.kind.isKeyable = true) (values : List Value) :
    ((∃ fault, (isIn text values).toPredicate schema = .error fault) ↔
        ∃ value ∈ values, ∃ fault, (compare .equal text value).toPredicate schema = .error fault) ∧
      ∀ constants, values.mapM path.convertConstant = .ok constants →
        ∃ membership equalities, (isIn text values).toPredicate schema = .ok membership ∧
          values.mapM (fun value => (compare .equal text value).toPredicate schema) =
            .ok equalities ∧
          ∀ record, path.kind.admits (path.get schema record) = true →
            (path.get schema record).hasNaN = false ∨
              (∀ constant ∈ constants, constant.hasNaN = false) →
            ∃ answer, membership.evaluate record = .ok answer ∧
              (Predicate.anyOf equalities).evaluate record = .ok answer := by
  constructor
  · have built (value : Value) := toPredicate_compare .equal resolved nofun value
    rw [toPredicate_isIn resolved keyable, Schema.exists_bind_guarded_eq_error_iff resolved]
    simp only [built, Schema.exists_bind_guarded_eq_error_iff resolved, Path.convertKeys_eq_map,
      map_eq_error_iff, exists_mapM_eq_error_iff]
  · intro constants converted
    obtain ⟨membership, built, realizes⟩ := isIn_realizes resolved keyable converted
    obtain ⟨equalities, equalsBuilt, realize⟩ := equals_realize resolved converted
    refine ⟨membership, equalities, built, equalsBuilt, fun record admitted ordered => ?_⟩
    refine ⟨_, realizes.evaluate record, ?_⟩
    rw [(Predicate.Realizes.anyOf realize).evaluate record]
    refine congrArg Except.ok ?_
    cases read : path.read record with
    | value value =>
      rw [path.get_of_value schema read] at admitted ordered
      exact (Predicate.hasMember_eq_any keyable (path.admits_of_mapM_convertConstant converted)
        admitted ordered).symm
    | present => simp [Comparison.ofSlot, Predicate.hasMember]
    | unreachable hop => simp [Comparison.ofSlot, Predicate.hasMember]

end

/-- Sensors that have some levels and may have a twin. -/
def Sample.sensors : Schema :=
  ⟨[⟨"Sensor", [⟨"Levels", true, .scalar (.list .float)⟩, ⟨"Twin", true, .record 0⟩]⟩]⟩

/-- A sensor without levels, whose twin has a level of negative zero and a missing one. -/
def Sample.twinned : Record :=
  [.value .null, .record [.value (.list [.float (-0), .null]), .absent]]

/-- The levels of a twin, a negative zero and a missing one, are among some lists of words. -/
theorem Condition.isIn_evaluates_as_anyOf_equals_of_twin :
    ∃ path membership equalities,
      Sample.sensors.resolve "twin.levels" = .ok path ∧ path.kind = .list .float ∧
        (isIn "twin.levels" [.null, .list [.int 0, .null]]).toPredicate Sample.sensors =
          .ok membership ∧
        [Value.null, .list [.int 0, .null]].mapM
          (fun value => (compare .equal "twin.levels" value).toPredicate Sample.sensors) =
            .ok equalities ∧
        membership.evaluate Sample.twinned = .ok true ∧
        (Predicate.anyOf equalities).evaluate Sample.twinned = .ok true := by
  have resolved : Sample.sensors.resolve "twin.levels" = .ok _ := rfl
  obtain ⟨_, each⟩ := isIn_evaluates_as_anyOf_equals resolved rfl [.null, .list [.int 0, .null]]
  obtain ⟨membership, equalities, built, equalsBuilt, answers⟩ := each _ rfl
  obtain ⟨answer, first, second⟩ := answers Sample.twinned rfl (.inl (by decide +kernel))
  have same : membership = _ := (Except.ok.inj built).symm
  have holds : membership.accepts Sample.twinned = true := by
    rw [same]
    decide +kernel
  obtain rfl : answer = true := Except.ok.inj (first.symm.trans (Predicate.accepts_iff.mp holds))
  exact ⟨_, membership, equalities, resolved, rfl, built, equalsBuilt, first, second⟩

end RecordQuery

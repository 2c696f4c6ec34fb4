/-
This file proves what can go wrong with the predicates that are built from conditions. A condition
puts the guard of its path before a core that reads through nothing but that path. The core is
only reached where the path can be read, so that what fails is an operand of its own: a part of a
text that the text is too short for, or the size of the least integer.

The same is true of the opposite of each condition, so it survives the connectives in any nesting
and the way to normal form, where any condition may come to stand as its opposite.
-/

import RecordQuery.Proofs.Guarding
import RecordQuery.Sample.Product

namespace RecordQuery

namespace Predicate

variable {record inner : Record}

/-! ### What a predicate fails with -/

/-- Whether a predicate fails on a record with no other faults than some operands have there. -/
def FailsOnlyBy (operands : List Operand) (record : Record) (predicate : Predicate) : Prop :=
  ∀ error, predicate.evaluate record = .error error →
    ∃ operand ∈ operands, operand.Fails record error

theorem failsOnlyBy_of_eq_ok {operands : List Operand} {predicate : Predicate} {answer : Bool}
    (answered : predicate.evaluate record = .ok answer) :
    predicate.FailsOnlyBy operands record := by
  intro error failed
  rw [answered] at failed
  contradiction

theorem FailsOnlyBy.mono {fewer more : List Operand} {predicate : Predicate}
    (fails : predicate.FailsOnlyBy fewer record) (subset : ∀ operand ∈ fewer, operand ∈ more) :
    predicate.FailsOnlyBy more record := by
  intro error failed
  obtain ⟨operand, member, fault⟩ := fails error failed
  exact ⟨operand, subset operand member, fault⟩

theorem FailsOnlyBy.negation {operands : List Operand} {predicate : Predicate}
    (fails : predicate.FailsOnlyBy operands record) :
    (Predicate.negation predicate).FailsOnlyBy operands record := by
  intro error failed
  exact fails error (evaluate_negation_eq_error_iff.mp failed)

theorem FailsOnlyBy.conjunction {first second : List Operand} {left right : Predicate}
    (leftFails : left.FailsOnlyBy first record) (rightFails : right.FailsOnlyBy second record) :
    (Predicate.conjunction left right).FailsOnlyBy (first ++ second) record := by
  intro error failed
  rcases evaluate_conjunction_eq_error_iff.mp failed with leftFailed | ⟨_, rightFailed⟩
  · exact leftFails.mono (fun _ member => List.mem_append_left _ member) error leftFailed
  · exact rightFails.mono (fun _ member => List.mem_append_right _ member) error rightFailed

theorem FailsOnlyBy.disjunction {first second : List Operand} {left right : Predicate}
    (leftFails : left.FailsOnlyBy first record) (rightFails : right.FailsOnlyBy second record) :
    (Predicate.disjunction left right).FailsOnlyBy (first ++ second) record := by
  intro error failed
  rcases evaluate_disjunction_eq_error_iff.mp failed with leftFailed | ⟨_, rightFailed⟩
  · exact leftFails.mono (fun _ member => List.mem_append_left _ member) error leftFailed
  · exact rightFails.mono (fun _ member => List.mem_append_right _ member) error rightFailed

theorem failsOnlyBy_comparison {operand : Operand} {operator : Comparison} {value : Value}
    (reached : Path.follow operand.path.through record = some inner) :
    (comparison operand operator value).FailsOnlyBy [operand] record := by
  intro error failed
  rw [evaluate, map_eq_error_iff] at failed
  exact ⟨operand, List.mem_cons_self, Operand.fails_of_follow reached failed⟩

/-! ### Shelter -/

/-- Whether a predicate, its normal form and the normal form of its negation all fail on a record
with no other faults than the operands of the predicate have there. -/
structure Sheltered (predicate : Predicate) (record : Record) : Prop where
  evaluate : predicate.FailsOnlyBy predicate.operands record
  normalize : predicate.normalize.FailsOnlyBy predicate.operands record
  negated : predicate.negated.FailsOnlyBy predicate.operands record

/-- A leaf that has an answer is sheltered, if its negation is all that becomes of it. -/
theorem sheltered_of_eq_ok {predicate : Predicate}
    (answered : ∃ answer, predicate.evaluate record = .ok answer)
    (same : predicate.normalize = predicate) (opposite : predicate.negated = negation predicate) :
    predicate.Sheltered record := by
  obtain ⟨answer, answered⟩ := answered
  refine ⟨failsOnlyBy_of_eq_ok answered, ?_, ?_⟩
  · rw [same]
    exact failsOnlyBy_of_eq_ok answered
  · rw [opposite]
    exact (failsOnlyBy_of_eq_ok answered).negation

theorem sheltered_comparison {operand : Operand} {operator : Comparison} {value : Value}
    (reached : Path.follow operand.path.through record = some inner) :
    (comparison operand operator value).Sheltered record :=
  ⟨failsOnlyBy_comparison reached, failsOnlyBy_comparison reached, failsOnlyBy_comparison reached⟩

theorem Sheltered.negation {predicate : Predicate} (sheltered : predicate.Sheltered record) :
    (Predicate.negation predicate).Sheltered record :=
  ⟨sheltered.evaluate.negation, sheltered.negated, sheltered.normalize⟩

theorem Sheltered.conjunction {left right : Predicate} (leftSheltered : left.Sheltered record)
    (rightSheltered : right.Sheltered record) :
    (Predicate.conjunction left right).Sheltered record :=
  ⟨leftSheltered.evaluate.conjunction rightSheltered.evaluate,
    leftSheltered.normalize.conjunction rightSheltered.normalize,
    leftSheltered.negated.disjunction rightSheltered.negated⟩

theorem Sheltered.disjunction {left right : Predicate} (leftSheltered : left.Sheltered record)
    (rightSheltered : right.Sheltered record) :
    (Predicate.disjunction left right).Sheltered record :=
  ⟨leftSheltered.evaluate.disjunction rightSheltered.evaluate,
    leftSheltered.normalize.disjunction rightSheltered.normalize,
    leftSheltered.negated.conjunction rightSheltered.negated⟩

/-! ### Cores -/

/-- Whether every leaf of a predicate reads through the same path. -/
def ReadsOnly (path : Path) : Predicate → Prop
  | const _ => True
  | negation inner => ReadsOnly path inner
  | conjunction left right => ReadsOnly path left ∧ ReadsOnly path right
  | disjunction left right => ReadsOnly path left ∧ ReadsOnly path right
  | comparison operand _ _ => operand.path = path
  | text other _ _ => other = path
  | member other _ => other = path
  | anyItem other _ => other = path

/-- What reads through one path only is sheltered where that path can be read. -/
theorem sheltered_of_readsOnly {path : Path}
    (reached : Path.follow path.through record = some inner) {predicate : Predicate}
    (reads : predicate.ReadsOnly path) : predicate.Sheltered record := by
  induction predicate with
  | const value =>
    exact ⟨failsOnlyBy_of_eq_ok rfl, failsOnlyBy_of_eq_ok rfl, failsOnlyBy_of_eq_ok rfl⟩
  | negation predicate inductionHypothesis => exact (inductionHypothesis reads).negation
  | conjunction left right leftHypothesis rightHypothesis =>
    exact (leftHypothesis reads.1).conjunction (rightHypothesis reads.2)
  | disjunction left right leftHypothesis rightHypothesis =>
    exact (leftHypothesis reads.1).disjunction (rightHypothesis reads.2)
  | comparison operand operator value =>
    have same : operand.path = path := reads
    rw [← same] at reached
    exact sheltered_comparison reached
  | text other test needle | member other keys | anyItem other value =>
    have same : other = path := reads
    refine sheltered_of_eq_ok ?_ rfl rfl
    rw [evaluate, same, Path.readReachable_of_follow reached]
    exact ⟨_, rfl⟩

/-- A core is sheltered behind the guard of its path wherever records are missing. -/
theorem Shields.sheltered {path : Path} {built core : Predicate}
    (shields : Shields path.through built core) (reads : core.ReadsOnly path)
    (record : Record) : built.Sheltered record := by
  have plain := shields.evaluate record
  have normal := shields.normalize record
  have opposite := shields.negated record
  cases reached : Path.follow path.through record with
  | none =>
    rw [reached] at plain normal opposite
    exact ⟨failsOnlyBy_of_eq_ok plain, failsOnlyBy_of_eq_ok normal, failsOnlyBy_of_eq_ok opposite⟩
  | some inner =>
    rw [reached] at plain normal opposite
    have sheltered := sheltered_of_readsOnly reached reads
    refine ⟨fun error failed => ?_, fun error failed => ?_, fun error failed => ?_⟩
    · exact sheltered.evaluate.mono shields.operands error (plain.symm.trans failed)
    · exact sheltered.normalize.mono shields.operands error (normal.symm.trans failed)
    · exact sheltered.negated.mono shields.operands error (opposite.symm.trans failed)

/-- Whether a predicate is a core that reads through one path, behind the guard of that path. -/
inductive HasGuardedCore (schema : Schema) (predicate : Predicate) : Prop where
  | intro {text : String} {path : Path} {core : Predicate} :
      schema.resolve text = .ok path → schema.guarded path core = .ok predicate →
        core.ReadsOnly path → HasGuardedCore schema predicate

theorem HasGuardedCore.sheltered {schema : Schema} {predicate : Predicate}
    (guarded : predicate.HasGuardedCore schema) (record : Record) :
    predicate.Sheltered record := by
  obtain ⟨resolved, made, reads⟩ := guarded
  obtain ⟨built, same, shields⟩ := Schema.guarded_shields resolved _
  rw [Except.ok.inj (made.symm.trans same)]
  exact shields.sheltered reads record

end Predicate

/-! ### Conditions -/

namespace Schema

variable {schema : Schema} {text : String} {path : Path}

/-- Whether a path is refused with a fault, be it that it does not resolve, or that the kind at its
end does not suit. -/
def Refuses (schema : Schema) (text : String) (suits : Kind → Bool)
    (unsuited : String → Kind → ResolutionError) (fault : ResolutionError) : Prop :=
  schema.resolve text = .error fault ∨
    ∃ path, schema.resolve text = .ok path ∧ suits path.kind = false ∧
      fault = unsuited path.toText path.kind

theorem resolveSuited_eq_ok_iff {suits : Kind → Bool}
    {unsuited : String → Kind → ResolutionError} :
    schema.resolveSuited text suits unsuited = .ok path ↔
      schema.resolve text = .ok path ∧ suits path.kind = true := by
  unfold resolveSuited
  cases schema.resolve text with
  | error fault => simp
  | ok found =>
    rw [Except.ok.injEq]
    dsimp only
    split
    · rename_i suited
      rw [Except.ok.injEq]
      exact ⟨fun same => ⟨same, same ▸ suited⟩, And.left⟩
    · rename_i unsuited
      refine iff_of_false (by simp) ?_
      rintro ⟨rfl, suited⟩
      exact unsuited suited

theorem resolve_of_resolveSuited {suits : Kind → Bool}
    {unsuited : String → Kind → ResolutionError}
    (resolved : schema.resolveSuited text suits unsuited = .ok path) :
    schema.resolve text = .ok path :=
  (resolveSuited_eq_ok_iff.mp resolved).1

theorem resolveSuited_eq_error_iff {suits : Kind → Bool}
    {unsuited : String → Kind → ResolutionError} {error : QueryError} :
    schema.resolveSuited text suits unsuited = .error error ↔
      ∃ fault, schema.Refuses text suits unsuited fault ∧ error = .resolution fault := by
  unfold resolveSuited Refuses
  cases resolved : schema.resolve text with
  | error fault =>
    refine ⟨fun failed => ⟨fault, .inl rfl, (Except.error.inj failed).symm⟩, ?_⟩
    rintro ⟨other, same | ⟨path, found, _⟩, rfl⟩
    · rw [Except.error.inj same]
    · contradiction
  | ok path =>
    dsimp only
    cases suited : suits path.kind with
    | true =>
      refine ⟨fun failed => by contradiction, ?_⟩
      rintro ⟨fault, failed | ⟨other, found, unsuitable, _⟩, _⟩
      · contradiction
      · rw [← Except.ok.inj found, suited] at unsuitable
        contradiction
    | false =>
      refine ⟨fun failed => ⟨_, .inr ⟨path, rfl, suited, rfl⟩, (Except.error.inj failed).symm⟩, ?_⟩
      rintro ⟨fault, failed | ⟨other, found, _, rfl⟩, rfl⟩
      · contradiction
      · rw [← Except.ok.inj found]
        rfl

theorem resolve_of_resolveAny (resolved : schema.resolveAny text = .ok path) :
    schema.resolve text = .ok path := by
  rwa [resolveAny, mapError_eq_ok_iff] at resolved

end Schema

/-- A comparison that can be built has a field to compare and a constant to compare it with. -/
theorem Condition.exists_of_toPredicate_compare {schema : Schema} {operator : Comparison}
    {text : String} {value : Value} {predicate : Predicate}
    (built : (compare operator text value).toPredicate schema = .ok predicate) :
    ∃ path constant, schema.resolve text = .ok path ∧ path.convertConstant value = .ok constant ∧
      schema.guarded path (.comparison ⟨path, .field⟩ operator constant) = .ok predicate := by
  rw [toPredicate] at built
  split at built
  · obtain ⟨path, resolved, built⟩ := bind_eq_ok_iff.mp built
    obtain ⟨constant, converted, built⟩ := bind_eq_ok_iff.mp built
    exact ⟨path, constant, Schema.resolve_of_resolveSuited resolved, converted, built⟩
  · obtain ⟨path, resolved, built⟩ := bind_eq_ok_iff.mp built
    obtain ⟨constant, converted, built⟩ := bind_eq_ok_iff.mp built
    exact ⟨path, constant, Schema.resolve_of_resolveAny resolved, converted, built⟩

/-- Every condition becomes a core behind the guard of the path it names. -/
theorem Condition.hasGuardedCore {schema : Schema} {condition : Condition} {predicate : Predicate}
    (built : condition.toPredicate schema = .ok predicate) : predicate.HasGuardedCore schema := by
  cases condition with
  | text | notText | substringEquals | vectorDistanceLessThan | dateEquals =>
    obtain ⟨path, resolved, built⟩ := bind_eq_ok_iff.mp built
    exact .intro (Schema.resolve_of_resolveSuited resolved) built rfl
  | compare operator text value =>
    obtain ⟨path, constant, resolved, _, built⟩ := exists_of_toPredicate_compare built
    exact .intro resolved built rfl
  | isIn text values =>
    obtain ⟨path, resolved, built⟩ := bind_eq_ok_iff.mp built
    obtain ⟨keys, _, built⟩ := bind_eq_ok_iff.mp built
    exact .intro (Schema.resolve_of_resolveSuited resolved) built rfl
  | between text low high =>
    obtain ⟨path, resolved, built⟩ := bind_eq_ok_iff.mp built
    obtain ⟨least, _, built⟩ := bind_eq_ok_iff.mp built
    obtain ⟨greatest, _, built⟩ := bind_eq_ok_iff.mp built
    exact .intro (Schema.resolve_of_resolveSuited resolved) built ⟨rfl, rfl⟩
  | absoluteLessThan text threshold =>
    obtain ⟨path, resolved, built⟩ := bind_eq_ok_iff.mp built
    split at built
    · exact .intro (Schema.resolve_of_resolveSuited resolved) built rfl
    · contradiction
  | anyEquals text value =>
    obtain ⟨path, resolved, built⟩ := bind_eq_ok_iff.mp built
    split at built
    · obtain ⟨converted, _, built⟩ := bind_eq_ok_iff.mp built
      exact .intro (Schema.resolve_of_resolveAny resolved) built rfl
    · contradiction

namespace SoftDelete

variable {schema : Schema} {predicate : Predicate}

/-- The test of a flag is a condition like others. -/
theorem hasGuardedCore_of_flagPredicate {field : Option String} {expected : Bool}
    (built : flagPredicate schema field expected = .ok (some predicate)) :
    predicate.HasGuardedCore schema := by
  unfold flagPredicate at built
  split at built
  · cases built
  · rename_i path found
    split at built
    · obtain ⟨test, made, same⟩ := map_eq_ok_iff.mp built
      rw [← Option.some.inj same]
      exact Condition.hasGuardedCore made
    · cases built

/-- The test that a record is live is sheltered whichever flags its shape has. -/
theorem sheltered_of_livePredicate {guard : SoftDelete}
    (built : guard.livePredicate schema = .ok (some predicate)) (record : Record) :
    predicate.Sheltered record := by
  obtain ⟨active, activeBuilt, built⟩ := bind_eq_ok_iff.mp built
  obtain ⟨archived, archivedBuilt, built⟩ := bind_eq_ok_iff.mp built
  have live := Except.ok.inj built
  cases active with
  | none =>
    cases archived with
    | none => contradiction
    | some archived =>
      have same : archived = predicate := Option.some.inj live
      rw [← same]
      exact (hasGuardedCore_of_flagPredicate archivedBuilt).sheltered record
  | some active =>
    have activeSheltered := (hasGuardedCore_of_flagPredicate activeBuilt).sheltered record
    cases archived with
    | none =>
      have same : active = predicate := Option.some.inj live
      rw [← same]
      exact activeSheltered
    | some archived =>
      have same : .conjunction active archived = predicate := Option.some.inj live
      rw [← same]
      exact activeSheltered.conjunction
        ((hasGuardedCore_of_flagPredicate archivedBuilt).sheltered record)

/-- Whether none of the flags is a truth value of a schema, so that nothing tells live records from
others. -/
def IsIdle (guard : SoftDelete) (schema : Schema) : Prop :=
  ∀ field ∈ [guard.activeField, guard.archivedField], ∀ path,
    field.bind schema.resolve? = some path → path.kind ≠ .bool

theorem flagPredicate_eq_none_iff {field : Option String} {expected : Bool} :
    flagPredicate schema field expected = .ok none ↔
      ∀ path, field.bind schema.resolve? = some path → path.kind ≠ .bool := by
  unfold flagPredicate
  split
  · rename_i missing
    simp [missing]
  · rename_i path found
    split
    · rename_i isBool
      refine ⟨fun built => ?_, fun notBool => absurd isBool (notBool path found)⟩
      obtain ⟨test, _, same⟩ := map_eq_ok_iff.mp built
      contradiction
    · rename_i notBool
      refine ⟨fun _ other foundOther => ?_, fun _ => rfl⟩
      rwa [← Option.some.inj (found.symm.trans foundOther)]

theorem livePredicate_eq_none_iff {guard : SoftDelete} :
    guard.livePredicate schema = .ok none ↔ guard.IsIdle schema := by
  have idle : guard.IsIdle schema ↔ flagPredicate schema guard.activeField true = .ok none ∧
      flagPredicate schema guard.archivedField false = .ok none := by
    simp [IsIdle, flagPredicate_eq_none_iff]
  rw [idle]
  refine ⟨fun built => ?_, fun ⟨active, archived⟩ => ?_⟩
  · obtain ⟨active, activeBuilt, built⟩ := bind_eq_ok_iff.mp built
    obtain ⟨archived, archivedBuilt, built⟩ := bind_eq_ok_iff.mp built
    have live := Except.ok.inj built
    cases active <;> cases archived <;> first | exact ⟨activeBuilt, archivedBuilt⟩ | contradiction
  · rw [livePredicate, active, archived]
    rfl

end SoftDelete

/-! ### Connectives -/

/-- A product in a category, if in any. -/
def Sample.productIn (category : Option Category) : Record :=
  Product.toRecord { Product.new 1 "Keyboard" 129 with category := category }

/-- The category above that of a product has a name with some text in a place, and both are
there. -/
def Sample.underWarehouse : Predicate :=
  let category : Step := ⟨⟨"Category", "Product", true, .record "Category"⟩, 6, .record 1⟩
  let parent : Step := ⟨⟨"Parent", "Category", true, .record "Category"⟩, 1, .record 1⟩
  let name : Step := ⟨⟨"Name", "Category", false, .text⟩, 0, .scalar .text⟩
  .conjunction
    (.conjunction (.comparison ⟨⟨[], category⟩, .field⟩ .notEqual .null)
      (.comparison ⟨⟨[category], parent⟩, .field⟩ .notEqual .null))
    (.comparison ⟨⟨[category, parent], name⟩, .substring 4 9⟩ .equal (.text "warehouse"))

theorem Sample.toPredicate_underWarehouse :
    (Condition.substringEquals "category.parent.name" 4 9 "warehouse").toPredicate Product.schema =
      .ok underWarehouse :=
  rfl

namespace Predicate

/-- What can be built on a schema from conditions, tests that a record is live, and
connectives. -/
inductive Built (schema : Schema) : Predicate → Prop where
  | condition {condition : Condition} {predicate : Predicate} :
      condition.toPredicate schema = .ok predicate → Built schema predicate
  | live {guard : SoftDelete} {predicate : Predicate} :
      guard.livePredicate schema = .ok (some predicate) → Built schema predicate
  | negation {inner : Predicate} : Built schema inner → Built schema (.negation inner)
  | conjunction {left right : Predicate} :
      Built schema left → Built schema right → Built schema (.conjunction left right)
  | disjunction {left right : Predicate} :
      Built schema left → Built schema right → Built schema (.disjunction left right)

/-- What is built is sheltered on every record, whichever of its records are missing. -/
theorem Built.sheltered {schema : Schema} {predicate : Predicate} (built : Built schema predicate)
    (record : Record) : predicate.Sheltered record := by
  induction built with
  | condition made => exact (Condition.hasGuardedCore made).sheltered record
  | live made => exact SoftDelete.sheltered_of_livePredicate made record
  | negation _ inductionHypothesis => exact inductionHypothesis.negation
  | conjunction _ _ leftHypothesis rightHypothesis =>
    exact leftHypothesis.conjunction rightHypothesis
  | disjunction _ _ leftHypothesis rightHypothesis =>
    exact leftHypothesis.disjunction rightHypothesis

/-- What is built never reads through a missing record, neither as it stands nor in normal form.
All it can fail with is a fault that one of its operands has on the record: a part beyond the end of
a text, or the size of the least integer. -/
theorem built_fails_only_by_operands {schema : Schema} {predicate : Predicate}
    (built : Built schema predicate) (record : Record) :
    ∀ form ∈ [predicate, predicate.normalize],
      (∀ path hop, form.evaluate record ≠ .error (.unguardedNullHop path hop)) ∧
        ∀ error, form.evaluate record = .error error →
          ∃ operand ∈ predicate.operands, operand.Fails record error := by
  intro form member
  have fails : form.FailsOnlyBy predicate.operands record := by
    have either : form = predicate ∨ form = predicate.normalize := by simpa using member
    rcases either with rfl | rfl
    · exact (built.sheltered record).evaluate
    · exact (built.sheltered record).normalize
  refine ⟨fun path hop failed => ?_, fails⟩
  obtain ⟨operand, _, fault⟩ := fails _ failed
  cases fault

/-- The opposite of a guarded condition holds of a product that has no category, and fails on one
only because the text is too short. -/
theorem built_fails_only_by_operands_of_underWarehouse :
    (negation Sample.underWarehouse).Built Sample.Product.schema ∧
      (∀ form ∈ [negation Sample.underWarehouse, (negation Sample.underWarehouse).normalize],
        (∀ path hop, form.evaluate (Sample.productIn (some Sample.keyboards)) ≠
          .error (.unguardedNullHop path hop)) ∧
        ∀ error, form.evaluate (Sample.productIn (some Sample.keyboards)) = .error error →
          ∃ operand ∈ (negation Sample.underWarehouse).operands,
            operand.Fails (Sample.productIn (some Sample.keyboards)) error) ∧
      (negation Sample.underWarehouse).normalize.evaluate
          (Sample.productIn (some Sample.keyboards)) =
        .error (.substringOutOfRange "Category.Parent.Name" 4 9 8) ∧
      (negation Sample.underWarehouse).normalize.evaluate (Sample.productIn none) = .ok true :=
  ⟨.negation (.condition Sample.toPredicate_underWarehouse),
    built_fails_only_by_operands (.negation (.condition Sample.toPredicate_underWarehouse)) _,
    rfl, rfl⟩

end Predicate

end RecordQuery

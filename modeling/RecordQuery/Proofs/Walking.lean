/-
This file proves that reading a path at one go comes to the same as going along it hop by hop.

The path to a hop is a path of its own. Going hop by hop, one reads these paths, the shortest first:
each tells whether the record at its end is there. A path cannot be read just where one of them comes
to a record that is not there, and the hop it names is that of the first. So a test of a path without
a guard fails there, and says which record was missing; elsewhere it has only the faults of its
operand.
-/

import RecordQuery.Proofs.Canonical

namespace RecordQuery

/-! ### Where steps end -/

theorem Slot.beyondHop_eq_unreachable_iff {slot : Slot} {hop : Nat} :
    slot.beyondHop = .unreachable hop ↔ ∃ before, hop = before + 1 ∧ slot = .unreachable before := by
  cases slot with
  | value held => exact iff_of_false nofun nofun
  | present => exact iff_of_false nofun nofun
  | unreachable before =>
    refine ⟨fun same => ⟨before, (Slot.unreachable.inj same).symm, rfl⟩, ?_⟩
    rintro ⟨_, rfl, same⟩
    rw [Slot.unreachable.inj same]
    rfl

/-- The last step of a path can always be read. -/
theorem Step.read_ne_unreachable (step : Step) (record : Record) (hop : Nat) :
    step.read record ≠ .unreachable hop := by
  rcases step.read_cases record with present | ⟨value, read⟩
  · rw [present]
    nofun
  · rw [read]
    nofun

/-- A step reads as present if it leads to a record that is there. -/
theorem Step.read_eq_present_iff (step : Step) (record : Record) :
    step.read record = .present ↔
      ∃ number nested, step.content = .record number ∧ step.nested? record = some nested := by
  unfold read
  cases step.content with
  | scalar kind => simp
  | record number => cases step.nested? record <;> simp

/-- A step to a record is null if the record is not there. -/
theorem Step.read_eq_null_iff {step : Step} {number : Nat} (content : step.content = .record number)
    (record : Record) : step.read record = .value .null ↔ step.nested? record = none := by
  unfold read
  rw [content]
  cases step.nested? record <;> simp

/-- A step that reads as a value is that as a plain value. -/
theorem Step.get_of_read (schema : Schema) {step : Step} {record : Record} {value : Value}
    (read : step.read record = .value value) : step.get schema record = value := by
  unfold Step.read at read
  unfold Step.get
  cases content : step.content with
  | scalar kind =>
    rw [content] at read
    exact Slot.value.inj read
  | record number =>
    rw [content] at read
    cases nested : step.nested? record with
    | none => simpa [nested] using read
    | some found => simp [nested] at read

namespace Path

variable {path : Path} {record inner : Record} {hop : Nat}

/-- Steps that can be followed can be followed up to any depth. -/
theorem exists_follow_take {steps : List Step} (reached : follow steps record = some inner)
    (depth : Nat) : ∃ between, follow (steps.take depth) record = some between := by
  rw [← List.take_append_drop depth steps, follow_append] at reached
  obtain ⟨between, before, _⟩ := Option.bind_eq_some_iff.mp reached
  exact ⟨between, before⟩

/-- A path cannot be read if the steps on the way lead to a record that is not there, and names the
hop of that one. -/
theorem readThrough_eq_unreachable_iff {leaf : Step} {through : List Step} :
    readThrough leaf through record = .unreachable hop ↔
      ∃ (inside : hop < through.length) (inner : Record),
        follow (through.take hop) record = some inner ∧ through[hop].nested? inner = none := by
  induction through generalizing record hop with
  | nil =>
    refine iff_of_false (leaf.read_ne_unreachable record hop) ?_
    rintro ⟨inside, _⟩
    exact absurd inside (Nat.not_lt_zero hop)
  | cons step steps inductionHypothesis =>
    rw [readThrough]
    cases there : step.nested? record with
    | none =>
      cases hop with
      | zero => exact iff_of_true rfl ⟨Nat.zero_lt_succ _, record, rfl, there⟩
      | succ hop =>
        refine iff_of_false (fun read => ?_) ?_
        · exact absurd (Slot.unreachable.inj read).symm (Nat.succ_ne_zero hop)
        · rintro ⟨_, inner, reached, _⟩
          rw [List.take_succ_cons, follow, there] at reached
          contradiction
    | some next =>
      rw [Slot.beyondHop_eq_unreachable_iff]
      cases hop with
      | zero =>
        refine iff_of_false ?_ ?_
        · rintro ⟨before, same, _⟩
          contradiction
        · rintro ⟨_, inner, reached, gone⟩
          obtain rfl : record = inner := Option.some.inj reached
          rw [List.getElem_cons_zero, there] at gone
          contradiction
      | succ hop =>
        rw [List.take_succ_cons, follow, there, Option.bind_some]
        refine ⟨?_, ?_⟩
        · rintro ⟨_, same, read⟩
          obtain ⟨inside, gone⟩ := inductionHypothesis.mp (Nat.succ.inj same ▸ read)
          exact ⟨Nat.succ_lt_succ inside, gone⟩
        · rintro ⟨inside, gone⟩
          exact ⟨hop, rfl, inductionHypothesis.mpr ⟨Nat.lt_of_succ_lt_succ inside, gone⟩⟩

theorem exists_unreachable_of_follow (leaf : Step) {through : List Step}
    (gone : follow through record = none) :
    ∃ hop, readThrough leaf through record = .unreachable hop := by
  induction through generalizing record with
  | nil => contradiction
  | cons step steps inductionHypothesis =>
    rw [follow] at gone
    rw [readThrough]
    cases there : step.nested? record with
    | none => exact ⟨0, rfl⟩
    | some next =>
      rw [there] at gone
      obtain ⟨hop, read⟩ := inductionHypothesis gone
      exact ⟨hop + 1, Slot.beyondHop_eq_unreachable_iff.mpr ⟨hop, rfl, read⟩⟩

/-- The steps on the way cannot be followed just where the path cannot be read. -/
theorem follow_eq_none_iff :
    follow path.through record = none ↔ ∃ hop, path.read record = .unreachable hop := by
  refine ⟨exists_unreachable_of_follow path.leaf, fun ⟨hop, unread⟩ => ?_⟩
  cases reached : follow path.through record with
  | none => rfl
  | some inner =>
    rw [read_of_follow reached] at unread
    exact absurd unread (path.leaf.read_ne_unreachable inner hop)

theorem follow_steps (path : Path) (record : Record) :
    follow path.steps record = (follow path.through record).bind path.leaf.nested? := by
  rw [steps, follow_append]
  exact congrArg _ (funext fun inner => Option.bind_fun_some (path.leaf.nested? inner))

/-- A path reads as present if it ends at a record that all its steps lead to. -/
theorem read_eq_present_iff :
    path.read record = .present ↔
      ∃ number nested, path.leaf.content = .record number ∧
        follow path.steps record = some nested := by
  rw [follow_steps]
  cases reached : follow path.through record with
  | none =>
    obtain ⟨hop, unread⟩ := follow_eq_none_iff.mp reached
    simp [unread]
  | some inner =>
    rw [read_of_follow reached, Option.bind_some]
    exact path.leaf.read_eq_present_iff inner

theorem getThrough_eq (schema : Schema) (leaf : Step) (through : List Step) (record : Record) :
    getThrough schema leaf through record =
      ((follow through record).map (leaf.get schema)).getD .null := by
  induction through generalizing record with
  | nil => rfl
  | cons step steps inductionHypothesis =>
    rw [getThrough, follow]
    cases step.nested? record with
    | none => rfl
    | some next => exact inductionHypothesis next

/-- A path that cannot be read is null as a plain value. -/
theorem get_of_unreachable (schema : Schema) (read : path.read record = .unreachable hop) :
    path.get schema record = .null := by
  rw [get, getThrough_eq, follow_eq_none_iff.mpr ⟨hop, read⟩]
  rfl

/-- A path that reads as a value is that as a plain value. -/
theorem get_of_value (schema : Schema) {value : Value} (read : path.read record = .value value) :
    path.get schema record = value := by
  rw [get, getThrough_eq]
  cases reached : follow path.through record with
  | none =>
    obtain ⟨hop, unread⟩ := follow_eq_none_iff.mp reached
    rw [unread] at read
    contradiction
  | some inner =>
    rw [read_of_follow reached] at read
    exact Step.get_of_read schema read

/-- A path that reads as present is all of the record at its end as a plain value. -/
theorem get_of_present (schema : Schema) (read : path.read record = .present) :
    ∃ number nested, path.leaf.content = .record number ∧
      follow path.steps record = some nested ∧
        path.get schema record = schema.projectShape number nested := by
  obtain ⟨number, nested, content, reached⟩ := read_eq_present_iff.mp read
  refine ⟨number, nested, content, reached, ?_⟩
  rw [follow_steps] at reached
  obtain ⟨inner, before, last⟩ := Option.bind_eq_some_iff.mp reached
  rw [get, getThrough_eq, before]
  show path.leaf.get schema inner = _
  simp only [Step.get, content, last]

theorem steps_upTo (depth : Nat) (inside : depth < path.through.length) :
    (path.upTo depth inside).steps = path.through.take (depth + 1) :=
  (List.take_succ_eq_append_getElem inside).symm

end Path

/-! ### Hop by hop -/

/-- Whether a text is a path that reads as this on a record. -/
def Schema.Reads (schema : Schema) (text : String) (record : Record) (slot : Slot) : Prop :=
  ∃ path, schema.resolve text = .ok path ∧ path.read record = slot

/-- Whether the record at a hop of a path, not the last hop, is the first on the way that is not
there: the path to it is null, and the paths to those before it read as present. -/
structure Path.FirstAbsent (schema : Schema) (path : Path) (record : Record) (hop : Nat) : Prop where
  onTheWay : hop < path.hops.length - 1
  before : ∀ earlier < hop, schema.Reads (path.textThrough earlier) record .present
  absent : schema.Reads (path.textThrough hop) record (.value .null)

namespace Schema

variable {schema : Schema} {text : String} {path : Path} {record : Record}

theorem reads_textThrough_iff (resolved : schema.resolve text = .ok path) {depth : Nat}
    (inside : depth < path.through.length) {slot : Slot} :
    schema.Reads (path.textThrough depth) record slot ↔
      (path.upTo depth inside).read record = slot := by
  have resolves := (resolve_prefixTexts resolved inside).2.1
  refine ⟨fun ⟨other, found, read⟩ => ?_, fun read => ⟨_, resolves, read⟩⟩
  rw [resolves, Except.ok.injEq] at found
  rwa [found]

/-- The path to a hop reads as present if the steps up to that hop can be followed. -/
theorem reads_present_iff (resolved : schema.resolve text = .ok path) {depth : Nat}
    (inside : depth < path.through.length) :
    schema.Reads (path.textThrough depth) record .present ↔
      ∃ nested, Path.follow (path.through.take (depth + 1)) record = some nested := by
  obtain ⟨_, _, number, content, _⟩ := resolve_prefixTexts resolved inside
  rw [reads_textThrough_iff resolved inside, Path.read_eq_present_iff, path.steps_upTo]
  exact ⟨fun ⟨_, nested, _, reached⟩ => ⟨nested, reached⟩,
    fun ⟨nested, reached⟩ => ⟨number, nested, content, reached⟩⟩

/-- The path to a hop is null if the steps before that hop lead to a record without the one at the
hop. -/
theorem reads_null_iff (resolved : schema.resolve text = .ok path) {depth : Nat}
    (inside : depth < path.through.length) :
    schema.Reads (path.textThrough depth) record (.value .null) ↔
      ∃ inner, Path.follow (path.through.take depth) record = some inner ∧
        path.through[depth].nested? inner = none := by
  obtain ⟨_, _, number, content, _⟩ := resolve_prefixTexts resolved inside
  rw [reads_textThrough_iff resolved inside]
  cases reached : Path.follow (path.through.take depth) record with
  | none =>
    have gone : Path.follow (path.upTo depth inside).through record = none := reached
    obtain ⟨hop, unread⟩ := Path.follow_eq_none_iff.mp gone
    simp [unread]
  | some inner =>
    have read : (path.upTo depth inside).read record = path.through[depth].read inner :=
      Path.read_of_follow reached
    rw [read]
    refine (Step.read_eq_null_iff content inner).trans ⟨fun gone => ⟨inner, rfl, gone⟩, ?_⟩
    rintro ⟨_, same, gone⟩
    exact Option.some.inj same ▸ gone

/-- A path cannot be read just where a record on the way is not there, and names the hop of the first
that is not. -/
theorem read_eq_unreachable_iff (resolved : schema.resolve text = .ok path) {hop : Nat} :
    path.read record = .unreachable hop ↔ path.FirstAbsent schema record hop := by
  refine Path.readThrough_eq_unreachable_iff.trans ⟨fun ⟨inside, inner, reached, gone⟩ => ?_, ?_⟩
  · refine ⟨?_, fun earlier before => ?_, (reads_null_iff resolved inside).mpr ⟨inner, reached, gone⟩⟩
    · rwa [Path.hops_length, Nat.add_sub_cancel]
    · obtain ⟨between, followed⟩ := Path.exists_follow_take reached (earlier + 1)
      rw [List.take_take, Nat.min_eq_left before] at followed
      exact (reads_present_iff resolved (Nat.lt_trans before inside)).mpr ⟨between, followed⟩
  · rintro ⟨onTheWay, _, absent⟩
    rw [Path.hops_length, Nat.add_sub_cancel] at onTheWay
    exact ⟨onTheWay, (reads_null_iff resolved onTheWay).mp absent⟩

end Schema

/-! ### Tests without a guard -/

/-- Whether a view shows a part of the field itself, and so needs it to be in reach. The distance of
a vector can always be told. -/
def View.NeedsField : View → Prop
  | .cosine _ => False
  | _ => True

namespace Operand

variable {operand : Operand} {record : Record}

theorem evaluate_of_unreachable (needs : operand.view.NeedsField) {hop : Nat}
    (read : operand.path.read record = .unreachable hop) :
    operand.evaluate record = .error (operand.path.unguarded hop) := by
  unfold evaluate
  cases view : operand.view with
  | cosine query =>
    rw [view] at needs
    exact needs.elim
  | _ => simp only [read]

theorem Fails.evaluate {error : EvaluationError} (fails : operand.Fails record error) :
    operand.evaluate record = .error error := by
  cases fails with
  | outOfRange view read short =>
    simp only [Operand.evaluate, view, read, View.apply, View.substringOf, if_pos short]
    rfl
  | overflow view read =>
    simp only [Operand.evaluate, view, read, View.apply, View.absoluteOf, if_pos]
    rfl

/-- An operand fails if a record on the way is not there, and else only by a fault of its own. -/
theorem evaluate_eq_error_iff (needs : operand.view.NeedsField) {error : EvaluationError} :
    operand.evaluate record = .error error ↔
      (∃ hop, operand.path.read record = .unreachable hop ∧ error = operand.path.unguarded hop) ∨
        operand.Fails record error := by
  refine ⟨fun failed => ?_, ?_⟩
  · cases reached : Path.follow operand.path.through record with
    | none =>
      obtain ⟨hop, read⟩ := Path.follow_eq_none_iff.mp reached
      rw [evaluate_of_unreachable needs read] at failed
      exact .inl ⟨hop, read, (Except.error.inj failed).symm⟩
    | some inner => exact .inr (fails_of_follow reached failed)
  · rintro (⟨hop, read, rfl⟩ | fails)
    · exact evaluate_of_unreachable needs read
    · exact fails.evaluate

end Operand

namespace Predicate

/-- Whether a predicate is one test of what a path leads to, with nothing to guard it. -/
inductive Tests (path : Path) : Predicate → Prop where
  | comparison {view : View} (needs : view.NeedsField) (operator : Comparison) (value : Value) :
      Tests path (.comparison ⟨path, view⟩ operator value)
  | text (test : TextTest) (needle : String) : Tests path (.text path test needle)
  | member (keys : KeySet) : Tests path (.member path keys)
  | anyItem (value : Value) : Tests path (.anyItem path value)

end Predicate

theorem Path.readReachable_eq_error_iff {path : Path} {record : Record} {error : EvaluationError} :
    path.readReachable record = .error error ↔
      ∃ hop, path.read record = .unreachable hop ∧ error = path.unguarded hop := by
  unfold readReachable
  cases path.read record with
  | value held => simp
  | present => simp
  | unreachable hop => simp [eq_comm]

/-- A test fails if a record on the way is not there, and else only by a fault of its operand. -/
theorem Predicate.Tests.evaluate_eq_error_iff {path : Path} {predicate : Predicate}
    (tests : predicate.Tests path) {record : Record} {error : EvaluationError} :
    predicate.evaluate record = .error error ↔
      (∃ hop, path.read record = .unreachable hop ∧ error = path.unguarded hop) ∨
        ∃ operand ∈ predicate.operands, operand.Fails record error := by
  cases tests with
  | @comparison view needs operator value =>
    rw [Predicate.evaluate, map_eq_error_iff, Operand.evaluate_eq_error_iff needs, operands]
    simp only [List.mem_singleton, exists_eq_left]
  | text | member | anyItem =>
    rw [Predicate.evaluate, map_eq_error_iff, Path.readReachable_eq_error_iff, operands]
    refine (or_iff_left ?_).symm
    rintro ⟨_, among, _⟩
    exact List.not_mem_nil among

/-! ### Reading and walking -/

/-- A chain of two nodes. -/
def Sample.chain : Record :=
  [.value (.text "head"), .value (.int 3), .record [.value (.text "tail"), .value .null, .absent]]

/-- A resolved path cannot be read just where a record on the way is not there, names the hop of the
first that is not, and is then null as a plain value. Where it reads as a value, it is that as a
plain value, and where it reads as present, it is all of the record that it leads to. A test of it
without a guard fails just where a record on the way is not there, which it tells by the shortest
path to one, or where its operand has a fault of its own. -/
theorem Schema.read_walks {schema : Schema} {text : String} {path : Path}
    (resolved : schema.resolve text = .ok path) (record : Record) :
    (∀ hop, path.read record = .unreachable hop ↔ path.FirstAbsent schema record hop) ∧
      (∀ hop, path.FirstAbsent schema record hop → path.get schema record = .null) ∧
      (∀ value, path.read record = .value value → path.get schema record = value) ∧
      (path.read record = .present →
        ∃ number nested, path.leaf.content = .record number ∧
          Path.follow path.steps record = some nested ∧
          path.get schema record =
            .map (schema.projectFields (schema.shape number).fields nested)) ∧
      ∀ predicate, Predicate.Tests path predicate → ∀ error,
        predicate.evaluate record = .error error ↔
          (∃ hop, path.FirstAbsent schema record hop ∧
            error = .unguardedNullHop path.toText (path.textThrough hop)) ∨
          ∃ operand ∈ predicate.operands, operand.Fails record error := by
  refine ⟨fun hop => read_eq_unreachable_iff resolved, fun hop absent => ?_,
    fun value read => path.get_of_value schema read, path.get_of_present schema,
    fun predicate tests error => ?_⟩
  · exact path.get_of_unreachable schema ((read_eq_unreachable_iff resolved).mpr absent)
  · rw [tests.evaluate_eq_error_iff]
    simp only [read_eq_unreachable_iff resolved]
    rfl

/-- The third node of a chain of two is the first that is not there. -/
theorem Schema.read_walks_of_chain :
    ∃ path, Sample.nodes.resolve "next.next.label" = .ok path ∧
      path.FirstAbsent Sample.nodes Sample.chain 1 ∧
      path.get Sample.nodes Sample.chain = .null ∧
      (Predicate.text path .contains "a").evaluate Sample.chain =
        .error (.unguardedNullHop "Next.Next.Label" "Next.Next") := by
  refine ⟨_, rfl, ?_⟩
  obtain ⟨unreachable, null, _, _, fails⟩ :=
    read_walks (show Sample.nodes.resolve "next.next.label" = .ok _ from rfl) Sample.chain
  have absent := (unreachable 1).mp rfl
  exact ⟨absent, null 1 absent, (fails _ (.text .contains "a") _).mpr (.inl ⟨1, absent, rfl⟩)⟩

end RecordQuery

/-
This file says which records a filter keeps. A source runs its stages in their order, so a filter
sees what the stages before it leave, and of that it keeps, in order, the records on which the
normal form of its predicate holds.

A filter is put into normal form before it runs, which can only make it stricter: a record that
the predicate rejects is never let in, and no record passes both a filter and its negation. A
record can fail to pass either, if a field that is ordered by reads as null.
-/

import RecordQuery.Proofs.Polarity
import RecordQuery.Query.Run

namespace RecordQuery

variable {Label : Type}

/-- Whether a predicate holds of a record. It does not where it fails. -/
def Predicate.accepts (predicate : Predicate) (record : Record) : Bool :=
  match predicate.evaluate record with
  | .ok held => held
  | .error _ => false

theorem Predicate.accepts_iff {predicate : Predicate} {record : Record} :
    predicate.accepts record = true ↔ predicate.evaluate record = .ok true := by
  unfold accepts
  cases predicate.evaluate record <;> simp

/-- Whether a predicate has an answer on every one of some rows. -/
def Predicate.AnswersAll (predicate : Predicate) (rows : List (Row Label)) : Prop :=
  ∀ row ∈ rows, ∃ held, predicate.evaluate row.record = .ok held

/-- A predicate has an answer on all rows, or there is a first one on which it fails. -/
theorem Predicate.answersAll_or_fault (predicate : Predicate) (rows : List (Row Label)) :
    predicate.AnswersAll rows ∨
      ∃ before row after fault, rows = before ++ row :: after ∧ predicate.AnswersAll before ∧
        predicate.evaluate row.record = .error fault := by
  induction rows with
  | nil => exact .inl fun row member => absurd member List.not_mem_nil
  | cons first rows inductionHypothesis =>
    cases evaluated : predicate.evaluate first.record with
    | error fault =>
      exact .inr ⟨[], first, rows, fault, rfl, fun row member => absurd member List.not_mem_nil,
        evaluated⟩
    | ok held =>
      have withFirst : ∀ {others : List (Row Label)}, predicate.AnswersAll others →
          predicate.AnswersAll (first :: others) := fun answers =>
        List.forall_mem_cons.mpr ⟨⟨held, evaluated⟩, answers⟩
      rcases inductionHypothesis with answers | ⟨before, row, after, fault, rfl, answers, failed⟩
      · exact .inl (withFirst answers)
      · exact .inr ⟨first :: before, row, after, fault, rfl, withFirst answers, failed⟩

/-! ### Running stages -/

namespace Stage

theorem runAll_append (rows : List (Row Label)) (first second : List Stage) :
    runAll rows (first ++ second) = (runAll rows first).bind fun rows => runAll rows second := by
  induction first generalizing rows with
  | nil => rfl
  | cons stage stages inductionHypothesis =>
    simp only [List.cons_append, runAll]
    cases stage.run rows with
    | error fault => rfl
    | ok left => exact inductionHypothesis left

theorem runAll_singleton (rows : List (Row Label)) (stage : Stage) :
    runAll rows [stage] = stage.run rows := by
  rw [runAll]
  cases stage.run rows <;> rfl

/-- A filter that gets to its end keeps the rows that its predicate accepts, in their order. -/
theorem filterRows_eq_filter {predicate : Predicate} {rows kept : List (Row Label)}
    (ran : filterRows predicate rows = .ok kept) :
    kept = rows.filter fun row => predicate.accepts row.record := by
  induction rows generalizing kept with
  | nil => exact (Except.ok.inj ran).symm
  | cons row rows inductionHypothesis =>
    rw [filterRows] at ran
    rw [List.filter_cons, Predicate.accepts]
    split at ran
    · contradiction
    · rename_i accepted
      obtain ⟨later, ran, same⟩ := map_eq_ok_iff.mp ran
      rw [accepted, ← same, inductionHypothesis ran]
      rfl
    · rename_i rejected
      rw [rejected, inductionHypothesis ran]
      rfl

/-- A filter gets past the rows on which its predicate has an answer. -/
theorem filterRows_append {predicate : Predicate} {before : List (Row Label)}
    (answers : predicate.AnswersAll before) (after : List (Row Label)) :
    filterRows predicate (before ++ after) =
      (filterRows predicate after).map
        ((before.filter fun row => predicate.accepts row.record) ++ ·) := by
  induction before with
  | nil => exact (id_map (filterRows predicate after)).symm
  | cons row before inductionHypothesis =>
    obtain ⟨⟨held, evaluated⟩, answers⟩ := List.forall_mem_cons.mp answers
    rw [List.cons_append, filterRows, evaluated, inductionHypothesis answers, List.filter_cons,
      Predicate.accepts, evaluated]
    cases held <;> cases filterRows predicate after <;> rfl

theorem filterRows_of_answersAll {predicate : Predicate} {rows : List (Row Label)}
    (answers : predicate.AnswersAll rows) :
    filterRows predicate rows =
      .ok (rows.filter fun row => predicate.accepts row.record) := by
  have appended := filterRows_append answers []
  rw [List.append_nil] at appended
  rw [appended, filterRows]
  exact congrArg Except.ok (List.append_nil _)

/-- The first row on which its predicate fails ends a filter. -/
theorem filterRows_of_fault {predicate : Predicate} {before after : List (Row Label)}
    {row : Row Label} {fault : EvaluationError} (answers : predicate.AnswersAll before)
    (failed : predicate.evaluate row.record = .error fault) :
    filterRows predicate (before ++ row :: after) = .error fault := by
  rw [filterRows_append answers, filterRows, failed]
  rfl

/-- A filter keeps what its predicate accepts if the predicate has an answer everywhere, and else
fails. -/
theorem filterRows_eq_ok_iff {predicate : Predicate} {rows kept : List (Row Label)} :
    filterRows predicate rows = .ok kept ↔
      predicate.AnswersAll rows ∧ kept = rows.filter fun row => predicate.accepts row.record := by
  refine ⟨fun ran => ⟨?_, filterRows_eq_filter ran⟩, fun ⟨answers, same⟩ => ?_⟩
  · rcases predicate.answersAll_or_fault rows with
      answers | ⟨before, row, after, fault, rfl, answers, failed⟩
    · exact answers
    · rw [filterRows_of_fault answers failed] at ran
      contradiction
  · rw [same]
    exact filterRows_of_answersAll answers

end Stage

namespace Source

/-- A stage that is recorded last runs on what comes out of the others. -/
theorem materialize_push (source : Source Label) (stage : Stage) :
    (source.push stage).materialize = source.materialize.bind fun rows =>
      (stage.run rows).mapError QueryError.evaluation := by
  have selected : (source.push stage).select = source.select.bind fun rows =>
      (stage.run rows).mapError QueryError.evaluation := by
    simp only [select, push, Stage.runAll_append]
    cases Stage.runAll source.dataset.rows source.stages with
    | error fault => rfl
    | ok rows => exact congrArg _ (Stage.runAll_singleton rows stage)
  unfold materialize
  cases service : source.service with
  | memory => simpa [push, service] using selected
  | remote failure =>
    cases failure with
    | none => simpa [push, service] using selected
    | some message => simp [push, service, Except.bind]

/-- A stage that cannot fail changes what comes out. -/
theorem materialize_push_of_run {stage : Stage} {change : List (Row Label) → List (Row Label)}
    (runs : ∀ rows, stage.run rows = .ok (change rows)) (source : Source Label) :
    (source.push stage).materialize = source.materialize.map change := by
  rw [materialize_push]
  cases source.materialize with
  | error fault => rfl
  | ok rows =>
    show (stage.run rows).mapError QueryError.evaluation = _
    rw [runs]
    rfl

end Source

namespace Query

theorem materialize_filter_eq_ok_iff {query : Query Label} {predicate : Predicate}
    {kept : List (Row Label)} :
    (query.filter predicate).materialize = .ok kept ↔
      ∃ rows, query.materialize = .ok rows ∧
        Stage.filterRows predicate.normalize rows = .ok kept := by
  have pushed : (query.filter predicate).materialize = query.materialize.bind fun rows =>
      (Stage.filterRows predicate.normalize rows).mapError QueryError.evaluation :=
    Source.materialize_push query.source (.filter predicate.normalize)
  simp only [pushed, bind_eq_ok_iff, mapError_eq_ok_iff]

/-- A filter keeps, of what comes before it, what the normal form of its predicate accepts. -/
theorem materialize_filter {query : Query Label} {predicate : Predicate} {kept : List (Row Label)}
    (ran : (query.filter predicate).materialize = .ok kept) :
    ∃ rows, query.materialize = .ok rows ∧
      kept = rows.filter fun row => predicate.normalize.accepts row.record := by
  obtain ⟨rows, before, ran⟩ := materialize_filter_eq_ok_iff.mp ran
  exact ⟨rows, before, Stage.filterRows_eq_filter ran⟩

theorem normalize_of_mem_filter {query : Query Label} {predicate : Predicate}
    {kept : List (Row Label)} (ran : (query.filter predicate).materialize = .ok kept)
    {row : Row Label} (member : row ∈ kept) :
    predicate.normalize.evaluate row.record = .ok true := by
  obtain ⟨rows, _, same⟩ := materialize_filter ran
  rw [same] at member
  exact Predicate.accepts_iff.mp (List.mem_filter.mp member).2

end Query

/-! ### A field that is null -/

/-- Records of one number, which may be missing. -/
def Sample.ages : Query String :=
  .ofDataset
    { schema := ⟨[⟨"Person", [⟨"Age", true, .scalar .int⟩]⟩]⟩
      rows :=
        [⟨"Brian", [.value (.int 17)]⟩,
          ⟨"Gil", [.value .null]⟩,
          ⟨"Dana", [.value (.int 30)]⟩] }

/-! ### What filters keep -/

/-- Where a predicate and its normal form both have an answer, the normal form only holds if the
predicate does. So a filter can drop a record that its predicate accepts, but what it keeps its
predicate does not reject. -/
theorem filter_drops_and_never_admits :
    (∀ (predicate : Predicate) (record : Record) (original rewritten : Bool),
        predicate.evaluate record = .ok original →
          predicate.normalize.evaluate record = .ok rewritten →
            rewritten = true → original = true) ∧
      (∀ (Label : Type) (query : Query Label) (predicate : Predicate) (kept : List (Row Label)),
        (query.filter predicate).materialize = .ok kept →
          ∀ row ∈ kept, predicate.evaluate row.record ≠ .ok false) ∧
      ∃ (query : Query String) (predicate : Predicate) (rows kept : List (Row String))
          (row : Row String),
        query.materialize = .ok rows ∧ row ∈ rows ∧ predicate.evaluate row.record = .ok true ∧
          (query.filter predicate).materialize = .ok kept ∧ row ∉ kept := by
  refine ⟨fun predicate record original rewritten evaluated normalized held => ?_,
    fun Label query predicate kept ran row member => ?_, ?_⟩
  · subst held
    cases original with
    | true => rfl
    | false => exact absurd evaluated ((predicate.normalize_stricter record).1 normalized)
  · exact (predicate.normalize_stricter row.record).1 (Query.normalize_of_mem_filter ran member)
  · -- Null is not less than eighteen, so the negation accepts it, but neither is it more.
    refine ⟨Sample.ages, .negation (Sample.isMinor []), _, _, ⟨"Gil", [.value .null]⟩, rfl, ?_, rfl,
      rfl, ?_⟩
    · simp [Sample.ages, Query.ofDataset, Query.ofSource, Source.ofDataset]
    · simp

/-- No record passes both a filter and its negation, whatever is null, not a number, of another
kind or fails. -/
theorem filter_excludes_negation (predicate : Predicate) :
    (∀ record : Record, ¬ (predicate.normalize.evaluate record = .ok true ∧
        (Predicate.negation predicate).normalize.evaluate record = .ok true)) ∧
      ∀ (Label : Type) (query : Query Label) (kept others : List (Row Label)),
        (query.filter predicate).materialize = .ok kept →
          (query.filter (.negation predicate)).materialize = .ok others →
            ∀ row ∈ kept, ∀ other ∈ others, row.record ≠ other.record := by
  refine ⟨predicate.not_normalize_and_negated, ?_⟩
  intro Label query kept others ran ranOthers row member other memberOther same
  have held := Query.normalize_of_mem_filter ran member
  have opposite := Query.normalize_of_mem_filter ranOthers memberOther
  rw [← same] at opposite
  exact predicate.not_normalize_and_negated row.record ⟨held, opposite⟩

/-- Of three people, one is younger than eighteen, one is not, and the one whose age is missing
passes neither filter. -/
theorem filter_excludes_negation_of_isMinor :
    (Sample.ages.filter (Sample.isMinor [])).materialize = .ok [⟨"Brian", [.value (.int 17)]⟩] ∧
      (Sample.ages.filter (.negation (Sample.isMinor []))).materialize =
        .ok [⟨"Dana", [.value (.int 30)]⟩] ∧
      ([.value (.int 17)] : Record) ≠ [.value (.int 30)] :=
  ⟨rfl, rfl, (filter_excludes_negation (Sample.isMinor [])).2 String Sample.ages _ _ rfl rfl
    _ List.mem_cons_self _ List.mem_cons_self⟩

end RecordQuery

/-
This file proves that filters one after the other are a filter for the conjunction, and when their
order does not matter.

Two filters run one after the other: the second one sees only what the first one keeps, after the
first one has seen every row. A conjunction goes over each row once, and asks its right side only
where its left side holds. Both ask the same of the same rows, in another order. So they fail on
the same queries, although they may meet different faults first, and else keep the same rows.
-/

import RecordQuery.Proofs.Filtering

namespace RecordQuery

variable {Label : Type}

/-! ### Samples -/

/-- The age of a person is known. -/
def Sample.hasAge : Predicate :=
  .disjunction (isMinor []) (.negation (isMinor []))

/-- A person has a parent. -/
def Sample.hasParent : Predicate :=
  .comparison ⟨⟨[], parent⟩, .field⟩ .notEqual .null

/-- A person without a parent. -/
def Sample.lone : Query String :=
  .ofDataset
    { schema := ⟨[⟨"Person", [⟨"Age", true, .scalar .int⟩, ⟨"Parent", true, .record 0⟩]⟩]⟩
      rows := [⟨"Hal", [.value (.int 50), .absent]⟩] }

/-! ### Conjunctions on many rows -/

namespace Predicate

variable {left right : Predicate}

theorem accepts_conjunction (left right : Predicate) (record : Record) :
    (conjunction left right).accepts record = (left.accepts record && right.accepts record) := by
  rw [Bool.eq_iff_iff, Bool.and_eq_true, accepts_iff, accepts_iff, accepts_iff,
    evaluate_conjunction_eq_true_iff]

/-- A conjunction has an answer where its left side has one and, if that side holds, its right side
has one too. -/
theorem answers_conjunction_iff {record : Record} :
    (∃ held, (conjunction left right).evaluate record = .ok held) ↔
      (∃ held, left.evaluate record = .ok held) ∧
        (left.accepts record = true → ∃ held, right.evaluate record = .ok held) := by
  rw [accepts_iff, evaluate_conjunction]
  cases evaluated : left.evaluate record with
  | error fault =>
    refine ⟨fun ⟨held, answered⟩ => ?_, fun ⟨⟨held, answered⟩, _⟩ => ?_⟩ <;> contradiction
  | ok held =>
    cases held with
    | false =>
      refine ⟨fun _ => ⟨⟨false, rfl⟩, fun holds => ?_⟩, fun _ => ⟨false, rfl⟩⟩
      exact absurd (Except.ok.inj holds) Bool.false_ne_true
    | true => exact ⟨fun answered => ⟨⟨true, rfl⟩, fun _ => answered⟩, fun parts => parts.2 rfl⟩

/-- A conjunction asks its right side of the rows that its left side keeps, and of no others. -/
theorem answersAll_conjunction_iff {rows : List (Row Label)} :
    (conjunction left right).AnswersAll rows ↔
      left.AnswersAll rows ∧
        right.AnswersAll (rows.filter fun row => left.accepts row.record) := by
  refine ⟨fun answers => ⟨fun row member => ?_, fun row member => ?_⟩,
    fun ⟨answersLeft, answersRight⟩ row member => ?_⟩
  · exact (answers_conjunction_iff.mp (answers row member)).1
  · obtain ⟨member, accepted⟩ := List.mem_filter.mp member
    exact (answers_conjunction_iff.mp (answers row member)).2 accepted
  · refine answers_conjunction_iff.mpr ⟨answersLeft row member, fun accepted => ?_⟩
    exact answersRight row (List.mem_filter.mpr ⟨member, accepted⟩)

end Predicate

namespace Stage

/-- To filter for a conjunction is to filter for its left side and what is kept for its right
side. -/
theorem filterRows_conjunction_eq_ok_iff {left right : Predicate} {rows kept : List (Row Label)} :
    filterRows (.conjunction left right) rows = .ok kept ↔
      ∃ passed, filterRows left rows = .ok passed ∧ filterRows right passed = .ok kept := by
  have accepted : (rows.filter fun row => (Predicate.conjunction left right).accepts row.record) =
      (rows.filter fun row => left.accepts row.record).filter
        fun row => right.accepts row.record := by
    rw [List.filter_filter]
    refine List.filter_congr fun row _ => ?_
    rw [Predicate.accepts_conjunction, Bool.and_comm]
  simp only [filterRows_eq_ok_iff, Predicate.answersAll_conjunction_iff, accepted]
  refine ⟨fun ⟨⟨answersLeft, answersRight⟩, same⟩ =>
    ⟨_, ⟨answersLeft, rfl⟩, answersRight, same⟩, ?_⟩
  rintro ⟨passed, ⟨answersLeft, rfl⟩, answersRight, same⟩
  exact ⟨⟨answersLeft, answersRight⟩, same⟩

end Stage

namespace Query

variable {query : Query Label} {first second : Predicate}

/-! ### Filters one after the other -/

/-- A filter for a conjunction keeps what filters for its sides keep one after the other. -/
theorem materialize_filter_conjunction_eq_ok_iff {kept : List (Row Label)} :
    (query.filter (.conjunction first second)).materialize = .ok kept ↔
      ((query.filter first).filter second).materialize = .ok kept := by
  have distributes : (Predicate.conjunction first second).normalize =
      .conjunction first.normalize second.normalize := rfl
  simp only [materialize_filter_eq_ok_iff, distributes, Stage.filterRows_conjunction_eq_ok_iff]
  constructor
  · rintro ⟨rows, ran, passed, before, after⟩
    exact ⟨passed, ⟨rows, ran, before⟩, after⟩
  · rintro ⟨passed, ⟨rows, ran, before⟩, after⟩
    exact ⟨rows, ran, passed, before, after⟩

/-- Filters whose normal forms both have an answer on all that comes before them keep what both
accept. -/
theorem materialize_filter_filter {rows : List (Row Label)} (ran : query.materialize = .ok rows)
    (answersFirst : first.normalize.AnswersAll rows)
    (answersSecond : second.normalize.AnswersAll rows) :
    ((query.filter first).filter second).materialize =
      .ok (rows.filter fun row =>
        second.normalize.accepts row.record && first.normalize.accepts row.record) := by
  have passed : (query.filter first).materialize =
      .ok (rows.filter fun row => first.normalize.accepts row.record) :=
    materialize_filter_eq_ok_iff.mpr ⟨rows, ran, Stage.filterRows_of_answersAll answersFirst⟩
  refine materialize_filter_eq_ok_iff.mpr ⟨_, passed, ?_⟩
  have answers : second.normalize.AnswersAll
      (rows.filter fun row => first.normalize.accepts row.record) := fun row member =>
    answersSecond row (List.mem_filter.mp member).1
  rw [Stage.filterRows_of_answersAll answers, List.filter_filter]

/-- Two filters one after the other keep what one filter for the conjunction keeps, or fail if it
does. Where neither fails on any row that comes before them, they keep the same rows in either
order. -/
theorem filters_conjoin (query : Query Label) (first second : Predicate) :
    ((∃ kept, ((query.filter first).filter second).materialize = .ok kept ∧
          (query.filter (.conjunction first second)).materialize = .ok kept) ∨
        ∃ fault other, ((query.filter first).filter second).materialize = .error fault ∧
          (query.filter (.conjunction first second)).materialize = .error other) ∧
      ∀ rows, query.materialize = .ok rows → first.normalize.AnswersAll rows →
        second.normalize.AnswersAll rows →
          ∃ kept, ((query.filter first).filter second).materialize = .ok kept ∧
            ((query.filter second).filter first).materialize = .ok kept := by
  constructor
  · cases staged : ((query.filter first).filter second).materialize with
    | ok kept => exact .inl ⟨kept, rfl, materialize_filter_conjunction_eq_ok_iff.mpr staged⟩
    | error fault =>
      cases fused : (query.filter (.conjunction first second)).materialize with
      | ok kept =>
        rw [materialize_filter_conjunction_eq_ok_iff, staged] at fused
        contradiction
      | error other => exact .inr ⟨fault, other, rfl, rfl⟩
  · intro rows ran answersFirst answersSecond
    refine ⟨_, materialize_filter_filter ran answersFirst answersSecond, ?_⟩
    rw [materialize_filter_filter ran answersSecond answersFirst]
    simp only [Bool.and_comm]

/-- Of three people, one without an age, those that have one and those that are younger than
eighteen can be asked for in either order. -/
theorem filters_conjoin_of_hasAge :
    ∃ kept, ((Sample.ages.filter Sample.hasAge).filter (Sample.isMinor [])).materialize = .ok kept ∧
      ((Sample.ages.filter (Sample.isMinor [])).filter Sample.hasAge).materialize = .ok kept := by
  have answersFirst : Sample.hasAge.normalize.AnswersAll Sample.ages.source.dataset.rows :=
    (Stage.filterRows_eq_ok_iff.mp rfl).1
  have answersSecond : (Sample.isMinor []).normalize.AnswersAll Sample.ages.source.dataset.rows :=
    (Stage.filterRows_eq_ok_iff.mp rfl).1
  exact (filters_conjoin Sample.ages Sample.hasAge (Sample.isMinor [])).2 _ rfl answersFirst
    answersSecond

/-- A filter that fails without another one before it cannot trade places with it. -/
example :
    ((Sample.lone.filter Sample.hasParent).filter (Sample.isMinor [Sample.parent])).materialize =
        .ok [] ∧
      ((Sample.lone.filter (Sample.isMinor [Sample.parent])).filter Sample.hasParent).materialize =
        .error (.evaluation (.unguardedNullHop "Parent.Age" "Parent")) :=
  ⟨rfl, rfl⟩

end Query

end RecordQuery

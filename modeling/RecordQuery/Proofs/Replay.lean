/-
This file proves that recording stages and replaying them later comes to the same as carrying out
every call at once.

What calls come to when they are carried out at once is a relation of its own, `Eager`, which knows
of no record of stages: a filter leaves the rows on which it holds or fails on the first row on which
it has no answer, a page leaves the rows in its places, and an ordering together with all the
refinements that follow it is one stable sort. Replaying has the one outcome that this relation
allows. So a row that an earlier call dropped cannot make a later one fail.
-/

import Mathlib.Data.List.Basic
import RecordQuery.Proofs.Filtering
import RecordQuery.Proofs.Sorting
import RecordQuery.Proofs.Staging

namespace RecordQuery

variable {Label : Type}

/-! ### Carrying out effects at once -/

/-- The rows in some places, counted from zero: those from a place on, as many as asked for. -/
def rowsAt (skip take : Nat) (rows : List (Row Label)) : List (Row Label) :=
  (List.range' skip take).filterMap fun place => rows[place]?

/-- What some rows come to if effects are carried out at once, one after the other. -/
inductive Eager : List (Row Label) → List Effect →
    Except EvaluationError (List (Row Label)) → Prop where
  | done (rows : List (Row Label)) : Eager rows [] (.ok rows)
  | filter {predicate : Predicate} {rows : List (Row Label)} {effects : List Effect}
      {outcome : Except EvaluationError (List (Row Label))}
      (answers : predicate.normalize.AnswersAll rows)
      (later : Eager (rows.filter fun row => predicate.normalize.accepts row.record) effects
        outcome) :
      Eager rows (.filter predicate :: effects) outcome
  /-- The first row without an answer ends everything. -/
  | fault {predicate : Predicate} {before after : List (Row Label)} {row : Row Label}
      {effects : List Effect} {error : EvaluationError}
      (answers : predicate.normalize.AnswersAll before)
      (failed : predicate.normalize.evaluate row.record = .error error) :
      Eager (before ++ row :: after) (.filter predicate :: effects) (.error error)
  | page {skip take : Nat} {rows : List (Row Label)} {effects : List Effect}
      {outcome : Except EvaluationError (List (Row Label))}
      (later : Eager (rowsAt skip take rows) effects outcome) :
      Eager rows (.page skip take :: effects) outcome
  /-- An ordering is carried out with every refinement of it, whether there are any or not. -/
  | ordering {key : SortKey} {keys : List SortKey} {rows sorted : List (Row Label)}
      {effects : List Effect} {outcome : Except EvaluationError (List (Row Label))}
      (whole : ∀ refinement, effects.head? ≠ some (.refine refinement))
      (stable : StablySorted (SortKey.lexicographicOn (key :: keys) Row.record) rows sorted)
      (later : Eager sorted effects outcome) :
      Eager rows (.order key :: (keys.map .refine ++ effects)) outcome

theorem rowsAt_eq (skip take : Nat) (rows : List (Row Label)) :
    rowsAt skip take rows = (rows.drop skip).take take := by
  induction take generalizing skip with
  | zero => rfl
  | succ take inductionHypothesis =>
    have later := inductionHypothesis (skip + 1)
    rw [rowsAt] at later
    rw [rowsAt, List.range'_succ, List.filterMap_cons, later]
    cases place : rows[skip]? with
    | none =>
      have beyond : rows.length ≤ skip := List.getElem?_eq_none_iff.mp place
      rw [List.drop_eq_nil_of_le beyond, List.drop_eq_nil_of_le (Nat.le_succ_of_le beyond),
        List.take_nil, List.take_nil]
    | some row =>
      obtain ⟨inside, here⟩ := List.getElem?_eq_some_iff.mp place
      rw [List.drop_eq_getElem_cons inside, here, List.take_succ_cons]

/-! ### Stages that orderings record -/

namespace Source

/-- A refinement lengthens the ordering that is recorded last, or records one of its own if none
is. -/
theorem thenBy_cases (source : Source Label) (key : SortKey) :
    (∃ (earlier : Source Label) (keys : List SortKey), source = earlier.push (.order keys) ∧
        source.thenBy key = earlier.push (.order (keys ++ [key]))) ∨
      source.thenBy key = source.push (.order [key]) := by
  obtain ⟨dataset, service, stages⟩ := source
  rcases List.eq_nil_or_concat' stages with rfl | ⟨earlier, last, rfl⟩
  · exact .inr rfl
  · cases last with
    | order keys =>
      exact .inl ⟨⟨dataset, service, earlier⟩, keys, rfl,
        thenBy_push_order ⟨dataset, service, earlier⟩ keys key⟩
    | filter | skip | take =>
      right
      refine congrArg (Source.mk dataset service) ((refine_append key earlier _).trans ?_)
      rw [List.append_assoc]
      rfl

theorem materialize_push_order (source : Source Label) (keys : List SortKey) :
    (source.push (.order keys)).materialize =
      source.materialize.map (SortKey.sort keys Row.record) :=
  materialize_push_of_run (fun _ => rfl) source

end Source

/-! ### Effects on what comes out -/

namespace Query

variable {query : Query Label} {rows : List (Row Label)}

theorem materialize_enact_filter (query : Query Label) (predicate : Predicate) :
    (query.enact (.filter predicate)).materialize = query.materialize.bind fun rows =>
      (Stage.filterRows predicate.normalize rows).mapError QueryError.evaluation :=
  Source.materialize_push query.source (.filter predicate.normalize)

theorem materialize_enact_page (query : Query Label) (skip take : Nat) :
    (query.enact (.page skip take)).materialize = query.materialize.map (rowsAt skip take) := by
  have skipped : (query.source.push (.skip skip)).materialize =
      query.source.materialize.map (List.drop skip) :=
    Source.materialize_push_of_run (fun _ => rfl) query.source
  have taken : (query.enact (.page skip take)).materialize =
      (query.source.push (.skip skip)).materialize.map (List.take take) :=
    Source.materialize_push_of_run (fun _ => rfl) (query.source.push (.skip skip))
  rw [taken, skipped]
  show _ = query.source.materialize.map _
  cases query.source.materialize with
  | error fault => rfl
  | ok rows => exact congrArg Except.ok (rowsAt_eq skip take rows).symm

/-- An ordering and its refinements are recorded as one stage. -/
theorem enact_refinements (source : Source Label) (first keys : List SortKey) :
    (keys.map Effect.refine).foldl enact ⟨source.push (.order first), true⟩ =
      ⟨source.push (.order (first ++ keys)), true⟩ := by
  induction keys generalizing first with
  | nil => rw [List.append_nil]; rfl
  | cons key keys inductionHypothesis =>
    have refined : enact ⟨source.push (.order first), true⟩ (.refine key) =
        ⟨source.push (.order (first ++ [key])), true⟩ :=
      congrArg (Query.mk · true) (Source.thenBy_push_order source first key)
    rw [List.map_cons, List.foldl_cons, refined, inductionHypothesis, List.append_assoc]
    rfl

theorem materialize_enact_chain (query : Query Label) (key : SortKey) (keys : List SortKey) :
    ((keys.map Effect.refine).foldl enact (query.enact (.order key))).materialize =
      query.materialize.map (SortKey.sort (key :: keys) Row.record) := by
  have recorded := enact_refinements query.source [key] keys
  exact (congrArg materialize recorded).trans
    (Source.materialize_push_order query.source (key :: keys))

/-- What follows a failure fails as it did. -/
theorem materialize_enact_of_error {error : QueryError} (failed : query.materialize = .error error)
    (effect : Effect) : (query.enact effect).materialize = .error error := by
  cases effect with
  | filter predicate =>
    rw [materialize_enact_filter, failed]
    rfl
  | page skip take =>
    rw [materialize_enact_page, failed]
    rfl
  | order key =>
    have ordered := materialize_enact_chain query key []
    rw [failed] at ordered
    exact ordered
  | refine key =>
    show (query.source.thenBy key).materialize = .error error
    rcases Source.thenBy_cases query.source key with ⟨earlier, keys, before, after⟩ | after
    · have failedEarlier : earlier.materialize = .error error := by
        have failed : query.source.materialize = .error error := failed
        rwa [before, Source.materialize_push_order, map_eq_error_iff] at failed
      rw [after, Source.materialize_push_order, failedEarlier]
      rfl
    · rw [after, Source.materialize_push_order, map_eq_error_iff]
      exact failed

theorem materialize_foldl_enact_of_error {error : QueryError} (effects : List Effect)
    (failed : query.materialize = .error error) :
    (effects.foldl enact query).materialize = .error error := by
  induction effects generalizing query with
  | nil => exact failed
  | cons effect effects inductionHypothesis =>
    exact inductionHypothesis (materialize_enact_of_error failed effect)

end Query

/-! ### Replaying and carrying out at once -/

namespace Eager

variable {rows : List (Row Label)} {effects : List Effect}
  {outcome other : Except EvaluationError (List (Row Label))}

/-- What effects come to at once, a query comes to that has recorded them. -/
theorem materialize (eager : Eager rows effects outcome) {query : Query Label}
    (ran : query.materialize = .ok rows) :
    (effects.foldl Query.enact query).materialize = outcome.mapError QueryError.evaluation := by
  induction eager generalizing query with
  | done rows => exact ran
  | @filter predicate rows effects outcome answers later inductionHypothesis =>
    refine inductionHypothesis ?_
    rw [Query.materialize_enact_filter, ran]
    show (Stage.filterRows predicate.normalize rows).mapError _ = _
    rw [Stage.filterRows_of_answersAll answers]
    rfl
  | @fault predicate before after row effects error answers failed =>
    refine Query.materialize_foldl_enact_of_error effects ?_
    rw [Query.materialize_enact_filter, ran]
    show (Stage.filterRows predicate.normalize (before ++ row :: after)).mapError _ = _
    rw [Stage.filterRows_of_fault answers failed]
    rfl
  | @page skip take rows effects outcome later inductionHypothesis =>
    refine inductionHypothesis ?_
    rw [Query.materialize_enact_page, ran]
    rfl
  | @ordering key keys rows sorted effects outcome whole stable later inductionHypothesis =>
    rw [List.foldl_cons, List.foldl_append]
    refine inductionHypothesis ?_
    rw [Query.materialize_enact_chain, ran]
    have only := (SortKey.stablySorted_sort (key :: keys) Row.record rows).unique stable
    exact congrArg Except.ok only

/-- Effects come to one outcome at most. -/
theorem unique (first : Eager rows effects outcome) (second : Eager rows effects other) :
    other = outcome := by
  have ran : (Query.ofDataset ⟨⟨[]⟩, rows⟩).materialize = .ok rows := rfl
  have same := (second.materialize ran).symm.trans (first.materialize ran)
  exact mapError_injective QueryError.evaluation.inj same

/-- Admissible effects are some refinements, none if there is nothing to refine, and after them
effects that come to something on any rows. -/
theorem exists_after_refinements {ordered : Bool} (admissible : Effect.Admissible ordered effects) :
    ∃ keys later, effects = keys.map Effect.refine ++ later ∧ (ordered = false → keys = []) ∧
      (∀ refinement, later.head? ≠ some (.refine refinement)) ∧
        ∀ rows : List (Row Label), ∃ outcome, Eager rows later outcome := by
  induction effects generalizing ordered with
  | nil => exact ⟨[], [], rfl, fun _ => rfl, nofun, fun rows => ⟨_, .done rows⟩⟩
  | cons effect effects inductionHypothesis =>
    obtain ⟨allowed, admissible⟩ := admissible
    obtain ⟨keys, later, rfl, unrefined, whole, outcomes⟩ := inductionHypothesis admissible
    cases effect with
    | refine key =>
      have isOrdered : ordered = true := allowed rfl
      refine ⟨key :: keys, later, rfl, fun unordered => ?_, whole, outcomes⟩
      rw [isOrdered] at unordered
      contradiction
    | order key =>
      refine ⟨[], _, rfl, fun _ => rfl, nofun, fun rows => ?_⟩
      obtain ⟨outcome, eager⟩ := outcomes (SortKey.sort (key :: keys) Row.record rows)
      exact ⟨outcome, .ordering whole (SortKey.stablySorted_sort (key :: keys) _ rows) eager⟩
    | filter predicate =>
      rw [unrefined rfl]
      refine ⟨[], _, rfl, fun _ => rfl, nofun, fun rows => ?_⟩
      rcases predicate.normalize.answersAll_or_fault rows with
        answers | ⟨before, row, after, error, rfl, answers, failed⟩
      · obtain ⟨outcome, eager⟩ :=
          outcomes (rows.filter fun row => predicate.normalize.accepts row.record)
        exact ⟨outcome, .filter answers eager⟩
      · exact ⟨.error error, .fault answers failed⟩
    | page skip take =>
      rw [unrefined rfl]
      refine ⟨[], _, rfl, fun _ => rfl, nofun, fun rows => ?_⟩
      obtain ⟨outcome, eager⟩ := outcomes (rowsAt skip take rows)
      exact ⟨outcome, .page eager⟩

/-- Effects come to something if there is an ordering for every refinement among them. -/
theorem exists_of_admissible (admissible : Effect.Admissible false effects)
    (rows : List (Row Label)) : ∃ outcome, Eager rows effects outcome := by
  obtain ⟨keys, later, rfl, unrefined, _, outcomes⟩ :=
    @exists_after_refinements Label effects false admissible
  rw [unrefined rfl]
  exact outcomes rows

/-- A failure comes from a row that the effects before the failing filter have left. -/
theorem fault_present {error : EvaluationError} (eager : Eager rows effects (.error error)) :
    ∃ before predicate after left row, effects = before ++ .filter predicate :: after ∧
      Eager rows before (.ok left) ∧ row ∈ left ∧
        predicate.normalize.evaluate row.record = .error error := by
  generalize failed : Except.error error = outcome at eager
  induction eager with
  | done rows => contradiction
  | @fault predicate before after row effects error answers evaluated =>
    cases failed
    exact ⟨[], predicate, effects, before ++ row :: after, row, rfl, .done _, by simp, evaluated⟩
  | @filter predicate rows effects outcome answers later inductionHypothesis =>
    obtain ⟨before, failing, after, left, row, rfl, upTo, member, evaluated⟩ :=
      inductionHypothesis failed
    exact ⟨.filter predicate :: before, failing, after, left, row, rfl, .filter answers upTo,
      member, evaluated⟩
  | @page skip take rows effects outcome later inductionHypothesis =>
    obtain ⟨before, failing, after, left, row, rfl, upTo, member, evaluated⟩ :=
      inductionHypothesis failed
    exact ⟨.page skip take :: before, failing, after, left, row, rfl, .page upTo, member,
      evaluated⟩
  | @ordering key keys rows sorted effects outcome whole stable later inductionHypothesis =>
    obtain ⟨before, failing, after, left, row, rfl, upTo, member, evaluated⟩ :=
      inductionHypothesis failed
    refine ⟨.order key :: (keys.map .refine ++ before), failing, after, left, row, ?_,
      .ordering ?_ stable upTo, member, evaluated⟩
    · rw [List.cons_append, List.append_assoc]
    · -- What follows the chain begins as before, or is over.
      cases before with
      | nil => nofun
      | cons first before => exact whole

end Eager

/-! ### Replaying -/

/-- Calls that take the second of the points in the order of both numbers, of those whose first
number is less than three. The filter for live records has nothing to go by. -/
def Sample.secondPoint : List Call :=
  [.filterBy (.compare .less "X" (.int 3)), .orderBy "X" .ascending, .filterLive .standard,
    .thenBy "Y" .ascending, .paginate 1 1]

/-- The step to the first number of a point. -/
def Sample.toX : Step :=
  ⟨⟨"X", "Point", false, .int⟩, 0, .scalar .int⟩

/-- The step to the second number of a point. -/
def Sample.toY : Step :=
  ⟨⟨"Y", "Point", false, .int⟩, 1, .scalar .int⟩

/-- The effects of those calls. -/
def Sample.secondPointEffects : List Effect :=
  [.filter (.comparison ⟨⟨[], toX⟩, .field⟩ .less (.int 3)),
    .order ⟨.field ⟨[], toX⟩, .ascending, .primary⟩,
    .refine ⟨.field ⟨[], toY⟩, .ascending, .thenBy⟩, .page 1 1]

/-- What comes out of a query that calls have made is what the calls come to if each is carried out
at once, be it rows or a fault. A fault is always that of a row which the calls before it have
left. -/
theorem materialize_eq_eager {dataset : Dataset Label} {calls : List Call} {query : Query Label}
    (made : (Query.ofDataset dataset).callAll calls = .ok query) :
    ∃ effects outcome, Call.effects dataset.schema calls = .ok effects ∧
      Eager dataset.rows effects outcome ∧
      (∀ other, Eager dataset.rows effects other → other = outcome) ∧
      query.materialize = outcome.mapError QueryError.evaluation ∧
      ∀ error, outcome = .error error →
        ∃ before predicate after rows row, effects = before ++ .filter predicate :: after ∧
          Eager dataset.rows before (.ok rows) ∧ row ∈ rows ∧
            predicate.normalize.evaluate row.record = .error error := by
  obtain ⟨effects, checked, admissible, rfl⟩ := Query.callAll_eq_ok made
  obtain ⟨outcome, eager⟩ := Eager.exists_of_admissible admissible dataset.rows
  refine ⟨effects, outcome, checked, eager, fun other => eager.unique, eager.materialize rfl, ?_⟩
  rintro error rfl
  exact eager.fault_present

/-- The second of the points comes out as if the filter, the two orderings as one sort and the page
were carried out at once. -/
theorem materialize_eq_eager_of_secondPoint :
    ∃ query, (Query.ofDataset Sample.points).callAll Sample.secondPoint = .ok query ∧
      ∃ outcome, Eager Sample.points.rows Sample.secondPointEffects outcome ∧
        query.materialize = outcome.mapError QueryError.evaluation := by
  refine ⟨_, rfl, ?_⟩
  obtain ⟨effects, outcome, checked, eager, _, ran, _⟩ :=
    @materialize_eq_eager _ Sample.points Sample.secondPoint _ rfl
  have same : Sample.secondPointEffects = effects := Except.ok.inj checked
  exact ⟨outcome, same ▸ eager, ran⟩

end RecordQuery

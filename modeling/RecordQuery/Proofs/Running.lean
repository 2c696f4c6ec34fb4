/-
This file proves that the ways of running a query come to the same.

A terminal can be run on a source in memory, which counts, sums, averages and groups by itself, on
a remote one, which leaves all that to the query, or it can be awaited. Whichever it is, a terminal
checks its path, has the rows come out, and works on them. What it does with the rows is its plan.
All three ways follow the plan, so they differ in nothing, faults included.
-/

import RecordQuery.Proofs.Calls
import RecordQuery.Proofs.Filtering
import RecordQuery.Query.Run

namespace RecordQuery

open Number

variable {Label Result : Type}

/-! ### Terminals -/

/-- A way to run a query, by what it results in. -/
inductive Terminal (Label : Type) : Type → Type 1 where
  | materialize : Terminal Label (List (Row Label))
  | count : Terminal Label Nat
  | any : Terminal Label Bool
  | sum (Amount : Type) [Numeric Amount] (path : String) : Terminal Label Amount
  | average (Amount : Type) [Numeric Amount] (path : String) : Terminal Label (Option Amount)
  | groupBy (path : String) : Terminal Label (List (Group (Row Label)))
  | distinctBy (path : String) : Terminal Label (List (Row Label))
  | selectFields (paths : List String) : Terminal Label (List Projection)
  | hybridRanking (textScore : Row Label → Single) (path : String) (vector : List Single)
      (weights : Weights) : Terminal Label (List (Row Label))
  | orderByScore (score : Row Label → Single) (descending : Bool) :
      Terminal Label (List (Row Label))

namespace Query

/-- Runs a query at once. -/
def run (query : Query Label) : Terminal Label Result → Except QueryError Result
  | .materialize => query.materialize
  | .count => query.count
  | .any => query.any
  | @Terminal.sum _ Amount _ path => query.sum Amount path
  | @Terminal.average _ Amount _ path => query.average Amount path
  | .groupBy path => query.groupBy path
  | .distinctBy path => query.distinctBy path
  | .selectFields paths => query.selectFields paths
  | .hybridRanking textScore path vector weights =>
    query.hybridRanking textScore path vector weights
  | .orderByScore score descending => query.orderByScore score descending

/-- Awaits a query. -/
def await (query : Query Label) (cancellation : Cancellation) :
    Terminal Label Result → Except QueryError Result
  | .materialize => query.awaitRows cancellation
  | .count => query.awaitCount cancellation
  | .any => query.awaitAny cancellation
  | @Terminal.sum _ Amount _ path => query.awaitSum Amount path cancellation
  | @Terminal.average _ Amount _ path => query.awaitAverage Amount path cancellation
  | .groupBy path => query.awaitGroupBy path cancellation
  | .distinctBy path => query.awaitDistinctBy path cancellation
  | .selectFields paths => query.awaitSelectFields paths cancellation
  | .hybridRanking textScore path vector weights =>
    query.awaitHybridRanking textScore path vector weights cancellation
  | .orderByScore score descending => query.awaitOrderByScore score descending cancellation

end Query

/-! ### Plans -/

/-- What a terminal does with the rows that come out, once its path has been checked. -/
def Terminal.plan (query : Query Label) :
    Terminal Label Result → Except QueryError (List (Row Label) → Except QueryError Result)
  | materialize => .ok .ok
  | count => .ok fun rows => .ok rows.length
  | any => .ok fun rows => .ok (0 < rows.length)
  | sum Amount path => (Aggregate.numericPath Amount query.schema path).map Query.sumOf
  | average Amount path => (Aggregate.numericPath Amount query.schema path).map Query.averageOf
  | groupBy path =>
    (query.keyablePath path).map fun path rows => .ok (Grouping.groupBy (query.keyAt path) rows)
  | distinctBy path =>
    (query.keyablePath path).map fun path rows => .ok (Grouping.distinctBy (query.keyAt path) rows)
  | selectFields paths => .ok fun rows => .ok (query.projectAll paths rows)
  | hybridRanking textScore path vector weights =>
    (query.vectorPath path).map fun path rows =>
      .ok (Ranking.hybridRank textScore path vector weights rows)
  | orderByScore score descending => .ok fun rows => .ok (Ranking.rankByScore score descending rows)

namespace Source

theorem count_eq (source : Source Label) : source.count = source.materialize.map List.length := by
  unfold count materialize
  cases service : source.service with
  | memory => rfl
  | remote failure => rfl

/-- One row is enough to tell that any come out. -/
theorem materialize_take_one (source : Source Label) :
    ((source.take 1).materialize.map fun rows => !rows.isEmpty) =
      source.materialize.map fun rows => decide (0 < rows.length) := by
  have taken : (source.take 1).materialize = source.materialize.map (List.take 1) :=
    materialize_push_of_run (fun _ => rfl) source
  rw [taken]
  cases source.materialize with
  | error fault => rfl
  | ok rows => cases rows <;> rfl

theorem any_eq (source : Source Label) :
    source.any = source.materialize.map fun rows => decide (0 < rows.length) := by
  rw [any, count_eq, ← materialize_take_one]
  cases (source.take 1).materialize with
  | error fault => rfl
  | ok rows => cases rows <;> rfl

end Source

namespace Query

/-- Running at once follows the plan, whatever the source does by itself. -/
theorem run_eq_plan (query : Query Label) (terminal : Terminal Label Result) :
    query.run terminal = (terminal.plan query).bind query.materialize.bind := by
  obtain ⟨⟨dataset, service, stages⟩, ordered⟩ := query
  cases terminal with
  | materialize => exact bind_ok.symm
  | count => exact Source.count_eq _
  | any => exact (Source.any_eq _).trans map_eq_bind
  | sum | average | groupBy =>
    -- The source forms the result in memory and leaves it to the query elsewhere, both from the rows.
    refine Eq.trans ?_ bind_map.symm
    cases service with
    | memory => rfl
    | remote failure => rfl
  | distinctBy | hybridRanking => exact bind_map.symm
  | selectFields | orderByScore => exact map_eq_bind

/-- Awaiting follows the plan, with the rows that come out if the caller has not given up. -/
theorem await_eq_plan (query : Query Label) (cancellation : Cancellation)
    (terminal : Terminal Label Result) :
    query.await cancellation terminal =
      (terminal.plan query).bind (query.awaitRows cancellation).bind := by
  cases terminal with
  | materialize => exact bind_ok.symm
  | any =>
    cases cancellation with
    | already => rfl
    | never => exact (Source.materialize_take_one query.source).trans map_eq_bind
  | count | selectFields | orderByScore => exact map_eq_bind
  | sum | average | groupBy | distinctBy | hybridRanking => exact bind_map.symm

/-! ### Moving records elsewhere -/

/-- The same query of the same records, which are somewhere else. -/
def relocate (service : Service) (query : Query Label) : Query Label :=
  ⟨{ query.source with service := service }, query.ordered⟩

theorem call_relocate (query : Query Label) (service : Service) (call : Call) :
    (query.relocate service).call call = (query.call call).map (relocate service) := by
  obtain ⟨source, ordered⟩ := query
  cases call with
  | filter | paginate => rfl
  | filterBy | orderBy | orderBySimilarity =>
    refine Eq.trans ?_ map_map.symm
    rfl
  | thenBy | thenBySimilarity =>
    cases ordered with
    | false => rfl
    | true =>
      refine Eq.trans ?_ map_map.symm
      rfl
  | filterLive guard =>
    refine Eq.trans ?_ map_map.symm
    refine congrArg (Except.map · _) (funext fun predicate => ?_)
    cases predicate <;> rfl

theorem attemptAll_relocate (query : Query Label) (service : Service) (calls : List Call) :
    (query.relocate service).attemptAll calls = (query.attemptAll calls).relocate service := by
  induction calls generalizing query with
  | nil => rfl
  | cons call calls inductionHypothesis =>
    have tried : (query.relocate service).attempt call = (query.attempt call).relocate service := by
      rw [attempt, attempt, call_relocate]
      cases query.call call <;> rfl
    show ((query.relocate service).attempt call).attemptAll calls = _
    rw [tried, inductionHypothesis]
    rfl

theorem plan_relocate (query : Query Label) (service : Service) (terminal : Terminal Label Result) :
    terminal.plan (query.relocate service) = terminal.plan query := by
  cases terminal <;> rfl

end Query

/-! ### All ways of running come to the same -/

/-- Whatever calls are tried on a dataset, every terminal comes to the same on a source in memory,
on a remote one that does not fail, and awaited to the end on either. Counting comes to the number
of rows that come out, and telling whether there are any to whether that number is positive. Both
fail just where the rows do not come out, and as they do. -/
theorem ways_of_running_agree (dataset : Dataset Label) (calls : List Call) :
    let memory := (Query.ofDataset dataset).attemptAll calls
    let remote := (Query.ofSource (.ofDataset dataset (.remote none))).attemptAll calls
    (∀ (Result : Type) (terminal : Terminal Label Result),
        remote.run terminal = memory.run terminal ∧
          memory.await .never terminal = memory.run terminal ∧
            remote.await .never terminal = memory.run terminal) ∧
      memory.count = memory.materialize.map List.length ∧
      memory.any = memory.count.map (fun number => decide (0 < number)) ∧
      ∀ error, (memory.count = .error error ↔ memory.materialize = .error error) ∧
        (memory.any = .error error ↔ memory.materialize = .error error) := by
  intro memory remote
  have inMemory : memory = memory.relocate .memory :=
    (Query.ofDataset dataset).attemptAll_relocate .memory calls
  have elsewhere : remote = memory.relocate (.remote none) :=
    (Query.ofDataset dataset).attemptAll_relocate (.remote none) calls
  have materialize : remote.materialize = memory.materialize := by
    rw [elsewhere, inMemory]
    rfl
  have counted : memory.count = memory.materialize.map List.length := Source.count_eq memory.source
  have anyCounted : memory.any = memory.materialize.map fun rows => decide (0 < rows.length) :=
    Source.any_eq memory.source
  refine ⟨fun Result terminal => ?_, counted, ?_, fun error => ?_⟩
  · have plan : terminal.plan remote = terminal.plan memory := by
      rw [elsewhere, Query.plan_relocate]
    have awaited : ∀ query : Query Label, query.await .never terminal = query.run terminal :=
      fun query => (query.await_eq_plan .never terminal).trans (query.run_eq_plan terminal).symm
    have ran : remote.run terminal = memory.run terminal := by
      rw [Query.run_eq_plan, Query.run_eq_plan, plan, materialize]
    exact ⟨ran, awaited memory, (awaited remote).trans ran⟩
  · rw [anyCounted, counted, map_map]
  · rw [anyCounted, counted, map_eq_error_iff, map_eq_error_iff]
    exact ⟨Iff.rfl, Iff.rfl⟩

end RecordQuery

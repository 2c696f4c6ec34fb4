/-
This file holds sources of records: a dataset, and the stages that have been recorded on it.

Nothing runs while stages are recorded. Running a source replays them in their order over the
records. A source in memory also answers sums, averages and groupings itself; a remote one leaves
them to the query and may fail altogether.
-/

import RecordQuery.Aggregate
import RecordQuery.Grouping
import RecordQuery.Predicate.Evaluate
import RecordQuery.SortKey

namespace RecordQuery

/-- One recorded step of a source. -/
inductive Stage where
  | filter (predicate : Predicate)
  | order (keys : List SortKey)
  | skip (count : Nat)
  | take (count : Nat)

/-- Records and the schema they follow. -/
structure Dataset (Label : Type) where
  schema : Schema
  rows : List (Row Label)

/-- Where the records of a source are. -/
inductive Service where
  | memory
  /-- Out of reach of the program. With a message, every run fails with it. -/
  | remote (failure : Option String)

/-- A source of records. -/
structure Source (Label : Type) where
  dataset : Dataset Label
  service : Service
  /-- The recorded stages, the first one first. -/
  stages : List Stage

namespace Stage

/-- The records on which a predicate holds. The first fault ends the search. -/
def filterRows {Label : Type} (predicate : Predicate) :
    List (Row Label) → Except EvaluationError (List (Row Label))
  | [] => .ok []
  | row :: rows =>
    match predicate.evaluate row.record with
    | .error error => .error error
    | .ok true => (filterRows predicate rows).map (row :: ·)
    | .ok false => filterRows predicate rows

/-- Runs one stage. -/
def run {Label : Type} (rows : List (Row Label)) : Stage → Except EvaluationError (List (Row Label))
  | filter predicate => filterRows predicate rows
  | order keys => .ok (SortKey.sort keys Row.record rows)
  | skip count => .ok (rows.drop count)
  | take count => .ok (rows.take count)

/-- Runs some stages one after the other. -/
def runAll {Label : Type} : List (Row Label) → List Stage →
    Except EvaluationError (List (Row Label))
  | rows, [] => .ok rows
  | rows, stage :: stages =>
    match stage.run rows with
    | .error error => .error error
    | .ok rows => runAll rows stages

end Stage

namespace Source

variable {Label : Type}

/-- A source in memory without stages. -/
def ofDataset (dataset : Dataset Label) (service : Service := .memory) : Source Label :=
  ⟨dataset, service, []⟩

/-- How many records lie behind a source, whatever its stages. -/
def backingSize (source : Source Label) : Nat :=
  source.dataset.rows.length

/-! ### Recording stages -/

/-- Records a stage. -/
def push (source : Source Label) (stage : Stage) : Source Label :=
  { source with stages := source.stages ++ [stage] }

def filter (source : Source Label) (predicate : Predicate) : Source Label :=
  source.push (.filter predicate)

/-- Begins a new ordering. -/
def orderBy (source : Source Label) (key : SortKey) : Source Label :=
  source.push (.order [key])

/-- The stages with a key that refines the ordering at their end, or begins one there. -/
def refine (key : SortKey) : List Stage → List Stage
  | [] => [.order [key]]
  | [.order keys] => [.order (keys ++ [key])]
  | stage :: stages => stage :: refine key stages

/-- Refines the ordering recorded last. -/
def thenBy (source : Source Label) (key : SortKey) : Source Label :=
  { source with stages := refine key source.stages }

def skip (source : Source Label) (count : Nat) : Source Label :=
  source.push (.skip count)

def take (source : Source Label) (count : Nat) : Source Label :=
  source.push (.take count)

/-! ### Running -/

/-- The records that come out of the stages. -/
def select (source : Source Label) : Except QueryError (List (Row Label)) :=
  (Stage.runAll source.dataset.rows source.stages).mapError QueryError.evaluation

/-- Runs a source. -/
def materialize (source : Source Label) : Except QueryError (List (Row Label)) :=
  match source.service with
  | .remote (some message) => .error (.source message)
  | _ => source.select

/-- How many records come out. -/
def count (source : Source Label) : Except QueryError Nat :=
  match source.service with
  | .memory => source.select.map List.length
  | .remote _ => source.materialize.map List.length

/-- Whether any record comes out. One is enough to tell. -/
def any (source : Source Label) : Except QueryError Bool :=
  (source.take 1).count.map (0 < ·)

/-- The grouping that a source makes itself, if it makes any. -/
def groupBy? (source : Source Label) (path : Path) :
    Option (Except QueryError (List (Group (Row Label)))) :=
  match source.service with
  | .memory => some (source.materialize.map
      (Grouping.groupBy fun row => Grouping.keyAt source.dataset.schema path row.record))
  | .remote _ => none

/-- The sum that a source forms itself, if it forms any. -/
def sum? {Total : Type} [Numeric Total] (source : Source Label) (path : Path) :
    Option (Except QueryError Total) :=
  match source.service with
  | .memory => some (source.select.bind fun rows =>
      (Aggregate.sum path (rows.map Row.record)).mapError QueryError.evaluation)
  | .remote _ => none

/-- The average that a source forms itself, if it forms any. -/
def average? {Total : Type} [Numeric Total] (source : Source Label) (path : Path) :
    Option (Except QueryError (Option Total)) :=
  match source.service with
  | .memory => some (source.select.bind fun rows =>
      (Aggregate.average path (rows.map Row.record)).mapError QueryError.evaluation)
  | .remote _ => none

end Source

end RecordQuery

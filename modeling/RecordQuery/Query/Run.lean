/-
This file runs queries.

Every way of running checks its path first, then runs the source, then works on the records that
come out. Sums, averages and groupings are left to a source that can form them itself.

A query can also be awaited. The caller may then have given up already, which is noticed after the
path is checked and before the source is run. What is awaited is always formed from the records and
never left to the source.
-/

import RecordQuery.Projection
import RecordQuery.Query.Basic
import RecordQuery.Ranking

namespace RecordQuery

open Number

/-- Whether the caller of an awaited query has given up. -/
inductive Cancellation where
  | never
  | already
deriving DecidableEq

namespace Query

variable {Label : Type}

/-- The path to a vector field. -/
def vectorPath (query : Query Label) (path : String) : Except QueryError Path :=
  query.schema.resolveSuited path (· = .vector) .notVector

/-- The path to a field with keys. -/
def keyablePath (query : Query Label) (path : String) : Except QueryError Path :=
  Grouping.keyablePath query.schema path

/-- The key of a row by a path. -/
def keyAt (query : Query Label) (path : Path) (row : Row Label) : Key :=
  Grouping.keyAt query.schema path row.record

/-- The sum of a field over some rows. -/
def sumOf {Total : Type} [Numeric Total] (path : Path) (rows : List (Row Label)) :
    Except QueryError Total :=
  (Aggregate.sum path (rows.map Row.record)).mapError QueryError.evaluation

/-- The average of a field over some rows. -/
def averageOf {Total : Type} [Numeric Total] (path : Path) (rows : List (Row Label)) :
    Except QueryError (Option Total) :=
  (Aggregate.average path (rows.map Row.record)).mapError QueryError.evaluation

/-- Some rows, projected onto some paths. -/
def projectAll (query : Query Label) (paths : List String) (rows : List (Row Label)) :
    List Projection :=
  let projector := Projector.ofPaths query.schema paths
  rows.map fun row => projector.project query.schema row.record

/-! ### Running at once -/

/-- The rows that come out. -/
def materialize (query : Query Label) : Except QueryError (List (Row Label)) :=
  query.source.materialize

def count (query : Query Label) : Except QueryError Nat :=
  query.source.count

def any (query : Query Label) : Except QueryError Bool :=
  query.source.any

/-- The sum of a numeric field, nulls aside. -/
def sum (Total : Type) [Numeric Total] (query : Query Label) (path : String) :
    Except QueryError Total := do
  let path ← Aggregate.numericPath Total query.schema path
  match query.source.sum? path with
  | some total => total
  | none => query.materialize.bind (sumOf path)

/-- The average of a numeric field, nulls aside. -/
def average (Total : Type) [Numeric Total] (query : Query Label) (path : String) :
    Except QueryError (Option Total) := do
  let path ← Aggregate.numericPath Total query.schema path
  match query.source.average? path with
  | some mean => mean
  | none => query.materialize.bind (averageOf path)

/-- The rows grouped by the key of a field. -/
def groupBy (query : Query Label) (path : String) :
    Except QueryError (List (Group (Row Label))) := do
  let path ← query.keyablePath path
  match query.source.groupBy? path with
  | some groups => groups
  | none => query.materialize.map (Grouping.groupBy (query.keyAt path))

/-- The first row of each key of a field. -/
def distinctBy (query : Query Label) (path : String) : Except QueryError (List (Row Label)) := do
  let path ← query.keyablePath path
  query.materialize.map (Grouping.distinctBy (query.keyAt path))

/-- The rows projected onto some paths. -/
def selectFields (query : Query Label) (paths : List String) :
    Except QueryError (List Projection) :=
  query.materialize.map (query.projectAll paths)

/-- The rows ranked by text and vector together. -/
def hybridRanking (query : Query Label) (textScore : Row Label → Single) (path : String)
    (vector : List Single) (weights : Weights) : Except QueryError (List (Row Label)) := do
  let path ← query.vectorPath path
  query.materialize.map (Ranking.hybridRank textScore path vector weights)

/-- The rows ranked by a score. -/
def orderByScore (query : Query Label) (score : Row Label → Single) (descending : Bool) :
    Except QueryError (List (Row Label)) :=
  query.materialize.map (Ranking.rankByScore score descending)

/-- The rows whose keys match some values, ranked by the scores that another engine gave their
keys. -/
def fullTextSearch (query : Query Label) (path : String) (matching : List Value)
    (scores : List (Key × Single)) : Except QueryError (List (Row Label)) := do
  let path ← query.keyablePath path
  query.materialize.map
    (Ranking.rankByKeyScores query.schema path (matching.map Key.ofValue) scores)

/-! ### Awaiting -/

/-- The rows that come out, unless the caller has given up. -/
def awaitRows (query : Query Label) : Cancellation → Except QueryError (List (Row Label))
  | .already => .error .cancelled
  | .never => query.source.materialize

def awaitCount (query : Query Label) (cancellation : Cancellation) : Except QueryError Nat :=
  (query.awaitRows cancellation).map List.length

def awaitAny (query : Query Label) (cancellation : Cancellation) : Except QueryError Bool :=
  ((ofSource (query.source.take 1)).awaitRows cancellation).map fun rows => !rows.isEmpty

def awaitSum (Total : Type) [Numeric Total] (query : Query Label) (path : String)
    (cancellation : Cancellation) : Except QueryError Total := do
  let path ← Aggregate.numericPath Total query.schema path
  (query.awaitRows cancellation).bind (sumOf path)

def awaitAverage (Total : Type) [Numeric Total] (query : Query Label) (path : String)
    (cancellation : Cancellation) : Except QueryError (Option Total) := do
  let path ← Aggregate.numericPath Total query.schema path
  (query.awaitRows cancellation).bind (averageOf path)

def awaitGroupBy (query : Query Label) (path : String) (cancellation : Cancellation) :
    Except QueryError (List (Group (Row Label))) := do
  let path ← query.keyablePath path
  (query.awaitRows cancellation).map (Grouping.groupBy (query.keyAt path))

def awaitDistinctBy (query : Query Label) (path : String) (cancellation : Cancellation) :
    Except QueryError (List (Row Label)) := do
  let path ← query.keyablePath path
  (query.awaitRows cancellation).map (Grouping.distinctBy (query.keyAt path))

def awaitSelectFields (query : Query Label) (paths : List String) (cancellation : Cancellation) :
    Except QueryError (List Projection) :=
  (query.awaitRows cancellation).map (query.projectAll paths)

def awaitHybridRanking (query : Query Label) (textScore : Row Label → Single) (path : String)
    (vector : List Single) (weights : Weights) (cancellation : Cancellation) :
    Except QueryError (List (Row Label)) := do
  let path ← query.vectorPath path
  (query.awaitRows cancellation).map (Ranking.hybridRank textScore path vector weights)

def awaitOrderByScore (query : Query Label) (score : Row Label → Single) (descending : Bool)
    (cancellation : Cancellation) : Except QueryError (List (Row Label)) :=
  (query.awaitRows cancellation).map (Ranking.rankByScore score descending)

end Query

end RecordQuery

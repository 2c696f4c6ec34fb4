/-
This file holds queries: a source, and whether its last step left an ordering that can be refined.

Every step gives a new query and leaves the old one as it is. Paths and constants are checked when
a step is added, before any record is read. Only orderings and their refinements leave a query
ordered; every other step ends the ordering.
-/

import RecordQuery.Predicate.NormalForm
import RecordQuery.Query.Source

namespace RecordQuery

open Number

/-- A query over records with labels. -/
structure Query (Label : Type) where
  source : Source Label
  ordered : Bool

namespace Query

variable {Label : Type}

/-- The query for everything in a source. -/
def ofSource (source : Source Label) : Query Label :=
  ⟨source, false⟩

/-- The query for everything in a dataset in memory. -/
def ofDataset (dataset : Dataset Label) : Query Label :=
  ofSource (.ofDataset dataset)

/-- The schema of the records. -/
def schema (query : Query Label) : Schema :=
  query.source.dataset.schema

/-! ### Filters -/

/-- Keeps the records on which a predicate holds. The predicate is put into normal form first. -/
def filter (query : Query Label) (predicate : Predicate) : Query Label :=
  ofSource (query.source.filter predicate.normalize)

/-- Keeps the records that meet a condition. -/
def filterBy (query : Query Label) (condition : Condition) : Except QueryError (Query Label) :=
  (condition.toPredicate query.schema).map query.filter

/-- Keeps the live records. Where nothing tells live records from others, the query stays as it
is. -/
def filterLive (query : Query Label) (guard : SoftDelete) : Except QueryError (Query Label) :=
  (guard.livePredicate query.schema).map fun predicate =>
    match predicate with
    | some predicate => query.filter predicate
    | none => query

/-! ### Orderings -/

/-- Begins a new ordering by a key. -/
def orderedBy (query : Query Label) (key : SortKey) : Query Label :=
  ⟨query.source.orderBy key, true⟩

/-- Refines the ordering by a key. -/
def refinedBy (query : Query Label) (key : SortKey) : Query Label :=
  ⟨query.source.thenBy key, true⟩

/-- Begins a new ordering by a field. -/
def orderBy (query : Query Label) (path : String) (direction : Direction) :
    Except QueryError (Query Label) :=
  (SortKey.byField query.schema path direction .primary).map query.orderedBy

/-- Refines the ordering by a field. -/
def thenBy (query : Query Label) (path : String) (direction : Direction) :
    Except QueryError (Query Label) :=
  if query.ordered then
    (SortKey.byField query.schema path direction .thenBy).map query.refinedBy
  else .error (.orderingState .thenBy)

/-- Begins a new ordering by similarity to a vector. -/
def orderBySimilarity (query : Query Label) (path : String) (vector : List Single)
    (direction : Direction) : Except QueryError (Query Label) :=
  (SortKey.bySimilarity query.schema path vector direction .primary).map query.orderedBy

/-- Refines the ordering by similarity to a vector. -/
def thenBySimilarity (query : Query Label) (path : String) (vector : List Single)
    (direction : Direction) : Except QueryError (Query Label) :=
  if query.ordered then
    (SortKey.bySimilarity query.schema path vector direction .thenBy).map query.refinedBy
  else .error (.orderingState .thenByVectorSimilarity)

/-! ### Pages -/

/-- Passes over some records and keeps some of those that follow. -/
def paginate (query : Query Label) (skip take : Nat) : Query Label :=
  ofSource ((query.source.skip skip).take take)

end Query

end RecordQuery

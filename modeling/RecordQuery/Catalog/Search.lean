/-
This file searches a catalog, and sums up groups of its products.

A search first narrows the catalog by filters. Then it ranks what is left: by text and vector
together if a vector is given, by text alone if only a query is given, and otherwise by price. Only
then is the ranking cut to the number of products asked for.
-/

import RecordQuery.Catalog.Product
import RecordQuery.Query.Run

namespace RecordQuery.Catalog

open Number

/-- What is searched for, and how the answer is shown. -/
structure Search where
  query : Option String
  vector : Option (List Single)
  /-- The name of the category of a product or of the category above it. -/
  category : Option String
  minPrice : Option Double
  maxPrice : Option Double
  /-- Whether to drop products that are inactive or archived. -/
  live : Bool
  /-- How many products are shown at most. -/
  topK : Nat
  /-- The paths of the fields that are shown. -/
  fields : List String

namespace Search

/-- The search without any filter or query. -/
def everything : Search where
  query := none
  vector := none
  category := none
  minPrice := none
  maxPrice := none
  live := false
  topK := 10
  fields := ["Sku", "Name", "Price", "Category.Name"]

/-- The test that a product or its category's parent has the given category name. -/
def categoryPredicate (schema : Schema) (category : String) : Except QueryError Predicate := do
  let direct ← (Condition.compare .equal "Category.Name" (.text category)).toPredicate schema
  let parent ← (Condition.compare .equal "Category.Parent.Name" (.text category)).toPredicate schema
  return .disjunction direct parent

/-- The condition that the bounds on the price make, if there are any. -/
def priceCondition? (search : Search) : Option Condition :=
  match search.minPrice, search.maxPrice with
  | some low, some high => some (.between "Price" (.float low) (.float high))
  | some low, none => some (.compare .greaterOrEqual "Price" (.float low))
  | none, some high => some (.compare .lessOrEqual "Price" (.float high))
  | none, none => none

/-- Narrows a query by the filters of a search. -/
def narrow (search : Search) (guard : SoftDelete) (query : Query Product) :
    Except QueryError (Query Product) := do
  let query ← if search.live then query.filterLive guard else .ok query
  let query ← match search.category with
    | some category => (categoryPredicate query.schema category).map query.filter
    | none => .ok query
  match search.priceCondition? with
  | some condition => query.filterBy condition
  | none => .ok query

/-- Whether nothing is asked for in words. -/
def hasBlankQuery (search : Search) : Bool :=
  (Text.trim (search.query.getD "").toList).isEmpty

/-- How well a product matches the words of a search. -/
def textScore (search : Search) (row : Row Product) : Single :=
  row.label.textScore (search.query.getD "")

/-- Ranks the products that a narrowed query lets through. -/
def rank (search : Search) (weights : Weights) (query : Query Product)
    (cancellation : Cancellation) : Except QueryError (List (Row Product)) :=
  match search.vector with
  | some vector => query.awaitHybridRanking search.textScore "Embedding" vector weights cancellation
  | none =>
    if search.hasBlankQuery then do
      let query ← query.orderBy "Price" .ascending
      let query ← query.thenBy "Name" .ascending
      (query.paginate 0 search.topK).awaitRows cancellation
    else
      (query.awaitOrderByScore search.textScore true cancellation).map fun rows =>
        rows.filter fun row => (search.textScore row).compare? 0 == some .gt

/-- Searches a catalog. -/
def run (search : Search) (settings : Settings) (products : List Product)
    (cancellation : Cancellation) : Except QueryError (List Projection) := do
  let query ← search.narrow settings.softDelete (.ofDataset (dataset products))
  let ranked ← search.rank settings.weights query cancellation
  return query.projectAll search.fields (ranked.take search.topK)

end Search

/-- One group of products summed up. -/
structure GroupSummary where
  key : Value
  count : Nat
  averagePrice : Option Double

/-- A summary as one value. -/
def GroupSummary.toValue (summary : GroupSummary) : Value :=
  .map
    [("key", summary.key),
      ("count", .int (Int64.ofInt summary.count)),
      ("average_price", match summary.averagePrice with
        | some price => .float price
        | none => .null)]

namespace Search

/-- Sums up one group. -/
def summarizeGroup (path : Path) (group : Group (Row Product)) : Except QueryError GroupSummary :=
  (Query.averageOf path group.items).map fun average =>
    ⟨group.key.toValue, group.items.length, average⟩

/-- Groups the products that the filters of a search let through, and sums up each group. -/
def summarize (search : Search) (settings : Settings) (products : List Product) (path : String) :
    Except QueryError (List GroupSummary) := do
  let query ← search.narrow settings.softDelete (.ofDataset (dataset products))
  let price ← Aggregate.numericPath Double query.schema "Price"
  let groups ← query.groupBy path
  groups.mapM (summarizeGroup price)

end Search

end RecordQuery.Catalog

/-
This file sorts records by keys: fields, or the similarity of a vector field to a given vector.

Sorting is stable, so records that are level in every key keep the order they came in.
-/

import RecordQuery.Cosine
import RecordQuery.Predicate.Condition
import RecordQuery.Value.Order

namespace RecordQuery

open Number

inductive Direction where
  | ascending
  | descending
deriving DecidableEq

/-- An order as seen in a direction. -/
def Direction.apply : Direction → Ordering → Ordering
  | ascending, order => order
  | descending, order => order.swap

/-- The part a key plays in an ordering. -/
inductive SortStage where
  /-- It begins a new ordering. -/
  | primary
  /-- It breaks the ties of the keys before it. -/
  | thenBy
deriving DecidableEq

/-- What records are ordered by. -/
inductive SortSubject where
  | field (path : Path)
  /-- The cosine similarity of a vector to the one given. -/
  | similarity (path : Path) (query : List Single)

/-- A sort key. -/
structure SortKey where
  subject : SortSubject
  direction : Direction
  stage : SortStage

namespace SortKey

/-- The key for a field, whose kind must be ordered. -/
def byField (schema : Schema) (path : String) (direction : Direction) (stage : SortStage) :
    Except QueryError SortKey :=
  (schema.resolveSuited path Kind.isOrdered .notComparable).map fun path =>
    ⟨.field path, direction, stage⟩

/-- The key for the similarity of a vector field to a vector. -/
def bySimilarity (schema : Schema) (path : String) (query : List Single) (direction : Direction)
    (stage : SortStage) : Except QueryError SortKey :=
  (schema.resolveSuited path (· = .vector) .notVector).map fun path =>
    ⟨.similarity path query, direction, stage⟩

/-- What a record is ordered by. A field that is out of reach is null. -/
def valueOn (key : SortKey) (record : Record) : Value :=
  match key.subject with
  | .field path => (path.read record).valueOrNull
  | .similarity path query =>
    .float (Cosine.similarity (path.read record).valueOrNull.vector? (some query)).convert

/-- The order of two values of a key. -/
def compareValues (key : SortKey) (left right : Value) : Ordering :=
  key.direction.apply (left.totalCompare right)

/-- The display of a key. -/
def toText (key : SortKey) : String :=
  (match key.subject with
    | .field path => path.toText
    | .similarity path query =>
      "cosine_similarity(" ++ path.toText ++ ", " ++ vectorText query ++ ")") ++
  match key.direction with
  | .ascending => " asc"
  | .descending => " desc"

/-- The display of a key with its part. -/
def toDebugText (key : SortKey) : String :=
  "SortKey(" ++ key.toText ++ ", " ++
    (match key.stage with
      | .primary => "Primary"
      | .thenBy => "ThenBy") ++ ")"

/-- The order of two lists of key values: that of the first pair that is not level. -/
def compareAll : List SortKey → List Value → List Value → Ordering
  | key :: keys, left :: lefts, right :: rights =>
    (key.compareValues left right).then (compareAll keys lefts rights)
  | _, _, _ => .eq

/-- Sorts items by keys, given the record of each. Every key is read once per item. -/
def sort {Item : Type} (keys : List SortKey) (recordOf : Item → Record) (items : List Item) :
    List Item :=
  if keys.isEmpty then items
  else
    let decorated := items.map fun item => (keys.map (·.valueOn (recordOf item)), item)
    let sorted := decorated.mergeSort fun left right => compareAll keys left.1 right.1 != .gt
    sorted.map Prod.snd

end SortKey

end RecordQuery

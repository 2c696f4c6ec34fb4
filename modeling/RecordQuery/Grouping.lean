/-
This file puts records into groups by the key of a field, and picks one record of each.

Groups stand in the order in which their keys first occur, and the records of a group in the order
they came in.
-/

import RecordQuery.Predicate.Condition

namespace RecordQuery

/-- The records that share a key. -/
structure Group (Item : Type) where
  key : Key
  items : List Item

namespace Grouping

/-- The path to a field whose values have keys. -/
def keyablePath (schema : Schema) (path : String) : Except QueryError Path :=
  schema.resolveSuited path Kind.isKeyable .notKeyable

/-- The key of a record by a path. A field out of reach or without a key counts as null. -/
def keyAt (schema : Schema) (path : Path) (record : Record) : Key :=
  Key.ofValue (path.get schema record)

/-- Adds an item to the group of its key, or starts that group behind the others. -/
def addItem {Item : Type} (key : Key) (item : Item) : List (Group Item) → List (Group Item)
  | [] => [⟨key, [item]⟩]
  | group :: groups =>
    if group.key.same key then { group with items := group.items ++ [item] } :: groups
    else group :: addItem key item groups

/-- The groups of a list of items. -/
def groupBy {Item : Type} (keyOf : Item → Key) (items : List Item) : List (Group Item) :=
  items.foldl (fun groups item => addItem (keyOf item) item groups) []

/-- The items whose keys have not been seen before. -/
def distinctFrom {Item : Type} (keyOf : Item → Key) : List Key → List Item → List Item
  | _, [] => []
  | seen, item :: items =>
    if seen.any (·.same (keyOf item)) then distinctFrom keyOf seen items
    else item :: distinctFrom keyOf (keyOf item :: seen) items

/-- The first item of each key. -/
def distinctBy {Item : Type} (keyOf : Item → Key) (items : List Item) : List Item :=
  distinctFrom keyOf [] items

end Grouping

end RecordQuery

/-
This file holds keys: what values are grouped, matched and told apart by.

A key is a value reduced to its identity. Whole floats become integers, the two zeros become one,
and vectors and maps have no key. `Key.order` is total, and keys that are level in it are the same
key.
-/

import RecordQuery.Value.Text

namespace RecordQuery

open Number Calendar

/-- A key. -/
inductive Key where
  | null
  | bool (value : Bool)
  | int (value : Int64)
  /-- A number that is not whole, or beyond the words. -/
  | decimal (value : Double)
  | text (value : String)
  | date (value : Date)
  | dateTime (value : DateTime)
  | uuid (value : Uuid)
  | composite (items : List Key)

namespace Key

/-- The key of a number: a word if it is whole and in range. Both zeros are, so they share one
key. -/
def ofDouble (number : Double) : Key :=
  match wordOfDouble? number with
  | some word => int word
  | none => decimal number

mutual

/-- The key of a value, if it has one. -/
def ofValue? : Value → Option Key
  | .null => some null
  | .bool value => some (bool value)
  | .int value => some (int value)
  | .float value => some (ofDouble value)
  | .text value => some (text value)
  | .date value => some (date value)
  | .dateTime value => some (dateTime value)
  | .uuid value => some (uuid value)
  | .list items => (ofItems? items).map composite
  | .vector _ => none
  | .map _ => none

/-- The keys of the items of a list, if all have one. -/
def ofItems? : List Value → Option (List Key)
  | [] => some []
  | item :: items =>
    match ofValue? item, ofItems? items with
    | some key, some keys => some (key :: keys)
    | _, _ => none

end

/-- The key of a value. A value without a key of its own has that of null. -/
def ofValue (value : Value) : Key :=
  (ofValue? value).getD null

mutual

/-- The value that shows a key. -/
def toValue : Key → Value
  | null => .null
  | bool value => .bool value
  | int value => .int value
  | decimal value => .float value
  | text value => .text value
  | date value => .date value
  | dateTime value => .dateTime value
  | uuid value => .uuid value
  | composite items => .list (itemsToValues items)

/-- The values that show the parts of a key. -/
def itemsToValues : List Key → List Value
  | [] => []
  | key :: keys => key.toValue :: itemsToValues keys

end

/-- The display of a key is that of its value. -/
def toText (key : Key) : String :=
  key.toValue.toText

/-- The place of a key's kind among the kinds of keys. -/
def kindRank : Key → Nat
  | null => 0
  | bool _ => 1
  | int _ => 2
  | decimal _ => 3
  | text _ => 4
  | date _ => 5
  | dateTime _ => 6
  | uuid _ => 7
  | composite _ => 8

mutual

/-- The total order of keys: by kind, then by value, and part by part in composite keys. -/
def order : Key → Key → Ordering
  | bool left, bool right => compare left right
  | int left, int right => compare left.toInt right.toInt
  | decimal left, decimal right => left.totalCompare right
  | text left, text right => compare left right
  | date left, date right => left.order right
  | dateTime left, dateTime right => left.order right
  | uuid left, uuid right => left.order right
  | composite left, composite right => orderItems left right
  | left, right => compare left.kindRank right.kindRank

/-- Lists of keys in the order of their first parts that differ, a shorter list before its
continuations. -/
def orderItems : List Key → List Key → Ordering
  | [], [] => .eq
  | [], _ :: _ => .lt
  | _ :: _, [] => .gt
  | left :: lefts, right :: rights => (order left right).then (orderItems lefts rights)

end

mutual

/-- Whether two keys are the same. -/
def same : Key → Key → Bool
  | null, null => true
  | bool left, bool right => left = right
  | int left, int right => left = right
  | decimal left, decimal right => left.totalCompare right == .eq
  | text left, text right => left = right
  | date left, date right => left = right
  | dateTime left, dateTime right => left.sameInstant right
  | uuid left, uuid right => left = right
  | composite left, composite right => sameItems left right
  | _, _ => false

/-- Whether two lists of keys are the same part by part. -/
def sameItems : List Key → List Key → Bool
  | [], [] => true
  | left :: lefts, right :: rights => same left right && sameItems lefts rights
  | _, _ => false

end

end Key

/-- A set of keys, each once and in their order. -/
abbrev KeySet := List Key

namespace KeySet

/-- A set with one more key. A key that is there already stays as it is. -/
def insert (key : Key) : KeySet → KeySet
  | [] => [key]
  | first :: rest =>
    match key.order first with
    | .lt => key :: first :: rest
    | .eq => first :: rest
    | .gt => first :: insert key rest

/-- The set of the keys of a list. -/
def ofList (keys : List Key) : KeySet :=
  keys.foldl (fun set key => insert key set) []

/-- Whether a key is in a set. -/
def contains (set : KeySet) (key : Key) : Bool :=
  set.any fun member => member.same key

end KeySet

end RecordQuery

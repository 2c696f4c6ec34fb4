/-
This file orders values in two ways.

`Value.compare?` is the order that predicates use: it is there only between values of one kind,
integers and floats taken as one kind. `Value.totalCompare` is the order that sorting uses: null
first, then by kind, then by value, with values that cannot be compared level with each other.
-/

import RecordQuery.Value.Basic

namespace RecordQuery.Value

open Number Calendar

/-- The order of two values of compatible kinds. -/
def compare? : Value → Value → Option Ordering
  | bool left, bool right => some (compare left right)
  | int left, int right => some (compare left.toInt right.toInt)
  | int left, float right => (wordToDouble left).compare? right
  | float left, int right => left.compare? (wordToDouble right)
  | float left, float right => left.compare? right
  | text left, text right => some (compare left right)
  | date left, date right => some (left.order right)
  | dateTime left, dateTime right => some (left.order right)
  | uuid left, uuid right => some (left.order right)
  | _, _ => none

/-- The place of a value's kind among the kinds. -/
def kindRank : Value → Nat
  | null => 0
  | bool _ => 1
  | int _ | float _ => 2
  | text _ => 3
  | date _ => 4
  | dateTime _ => 5
  | uuid _ => 6
  | vector _ => 7
  | list _ => 8
  | map _ => 9

/-- The order in which values are sorted. Numbers are compared as doubles, in their total order. -/
def totalCompare (left right : Value) : Ordering :=
  match left.number?, right.number? with
  | some left, some right => left.totalCompare right
  | _, _ => (left.compare? right).getD (compare left.kindRank right.kindRank)

end RecordQuery.Value

/-
This file holds the values that fields read as, and when two of them are the same.

Sameness is not equality of terms: a not-a-number is not even the same as itself, the two zeros
are the same number, and date-times are the same if their instants are.
-/

import RecordQuery.Calendar.DateTime
import RecordQuery.Kind
import RecordQuery.Number.Word
import RecordQuery.Uuid

namespace RecordQuery

open Number Calendar

/-- A value. -/
inductive Value where
  | null
  | bool (value : Bool)
  | int (value : Int64)
  | float (value : Double)
  | text (value : String)
  | date (value : Date)
  | dateTime (value : DateTime)
  | uuid (value : Uuid)
  | vector (components : List Single)
  | list (items : List Value)
  /-- A nested record, its fields in the order of registration. -/
  | map (fields : List (String × Value))
deriving Inhabited

namespace Value

def isNull : Value → Bool
  | null => true
  | _ => false

/-- The text of a textual value. -/
def text? : Value → Option String
  | text value => some value
  | _ => none

/-- The number of a numeric value. -/
def number? : Value → Option Double
  | int value => some (wordToDouble value)
  | float value => some value
  | _ => none

/-- The components of a vector. -/
def vector? : Value → Option (List Single)
  | vector components => some components
  | _ => none

/-- The name of the kind of a value. Lists and maps are named without their contents. -/
def kindName : Value → String
  | null => "null"
  | bool _ => Kind.bool.toText
  | int _ => Kind.int.toText
  | float _ => Kind.float.toText
  | text _ => Kind.text.toText
  | date _ => Kind.date.toText
  | dateTime _ => Kind.dateTime.toText
  | uuid _ => Kind.uuid.toText
  | vector _ => Kind.vector.toText
  | list _ => "list"
  | map _ => "map"

/-- Whether two vectors have the same components. -/
def sameComponents : List Single → List Single → Bool
  | [], [] => true
  | left :: lefts, right :: rights => left.numericEq right && sameComponents lefts rights
  | _, _ => false

mutual

/-- Whether two values are the same. -/
def same : Value → Value → Bool
  | null, null => true
  | bool left, bool right => left = right
  | int left, int right => left = right
  | float left, float right => left.numericEq right
  | text left, text right => left = right
  | date left, date right => left = right
  | dateTime left, dateTime right => left.sameInstant right
  | uuid left, uuid right => left = right
  | vector left, vector right => sameComponents left right
  | list left, list right => sameItems left right
  | map left, map right => sameFields left right
  | _, _ => false

/-- Whether two lists have the same items in the same places. -/
def sameItems : List Value → List Value → Bool
  | [], [] => true
  | left :: lefts, right :: rights => same left right && sameItems lefts rights
  | _, _ => false

/-- Whether two records have the same fields in the same order. -/
def sameFields : List (String × Value) → List (String × Value) → Bool
  | [], [] => true
  | (leftName, left) :: lefts, (rightName, right) :: rights =>
    leftName = rightName && same left right && sameFields lefts rights
  | _, _ => false

end

/-- Sameness with integers and floats taken as one domain of numbers: an integer meets a float as
the double nearest to it. -/
def looselySame : Value → Value → Bool
  | int left, float right => (wordToDouble left).numericEq right
  | float left, int right => (wordToDouble right).numericEq left
  | left, right => left.same right

end Value

end RecordQuery

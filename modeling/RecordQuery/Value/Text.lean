/-
This file writes values for people to read, in messages and in the display of predicates.
-/

import RecordQuery.Calendar.Rfc3339
import RecordQuery.Number.Layout
import RecordQuery.Text.Quoted
import RecordQuery.Value.Basic

namespace RecordQuery.Value

open Number

/-- Numbers are shown without an exponent, and whole ones without a point. Of two equally near
decimals the larger one is shown. -/
def displayLayout : Layout where
  tie := .up
  positional := fun _ => true
  wholeSuffix := ""
  notANumber := "NaN"
  infinity := fun negative => if negative then "-inf" else "inf"

/-- Texts one after the other with a comma between them. -/
def commaSeparated (texts : List String) : String :=
  ", ".intercalate texts

mutual

/-- The display of a value. -/
def toText : Value → String
  | null => "null"
  | bool value => if value then "true" else "false"
  | int value => toString value.toInt
  | float value => displayLayout.write value
  | text value => Text.quote value
  | date value => value.toText
  | dateTime value => value.toText
  | uuid value => value.toText
  | vector components => "vector[" ++ toString components.length ++ "]"
  | list items => "[" ++ commaSeparated (itemTexts items) ++ "]"
  | map fields => "\x7b" ++ commaSeparated (fieldTexts fields) ++ "\x7d"

/-- The displays of the items of a list. -/
def itemTexts : List Value → List String
  | [] => []
  | item :: items => item.toText :: itemTexts items

/-- The fields of a record, each as its name and the display of its value. -/
def fieldTexts : List (String × Value) → List String
  | [] => []
  | (name, value) :: fields => (name ++ ": " ++ value.toText) :: fieldTexts fields

end

end RecordQuery.Value

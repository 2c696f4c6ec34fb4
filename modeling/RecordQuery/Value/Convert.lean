/-
This file converts the constants of a query to the kind of the field they are compared with.

Null converts to every kind. Text is read as a number, a truth value, a date, a date-time or an
identifier, white space at its ends aside. Other values convert only where nothing is lost.
-/

import RecordQuery.Calendar.Rfc3339
import RecordQuery.Number.Numeral
import RecordQuery.Text.Blank
import RecordQuery.Value.Basic

namespace RecordQuery

open Number Calendar Text

/-- Reads the words true and false. -/
def readBool? (text : List Char) : Option Bool :=
  if text = ['t', 'r', 'u', 'e'] then some true
  else if text = ['f', 'a', 'l', 's', 'e'] then some false
  else none

namespace Value

/-- Reads a value of a kind from a text without white space at its ends. -/
def ofText? (kind : Kind) (text : List Char) : Option Value :=
  match kind with
  | .int => ((Numeral.integer? text).bind wordOfInt?).map int
  | .float => (Numeral.binary? .double text).map float
  | .bool => (readBool? text).map bool
  | .date => (Date.ofText? text).map date
  | .dateTime => (DateTime.ofRfc3339? text).map dateTime
  | .uuid => (Uuid.ofText? text).map uuid
  | _ => none

/-- Converts a value to a kind, if it has a counterpart there. -/
def convert? : Kind → Value → Option Value
  | _, null => some null
  | .bool, bool value => some (bool value)
  | .int, int value => some (int value)
  | .int, float value => (wordOfDouble? value).map int
  | .float, float value => some (float value)
  | .float, int value => some (float (wordToDouble value))
  | .text, text value => some (text value)
  | .text, int value => some (text (toString value.toInt))
  | .date, date value => some (date value)
  | .date, dateTime value => some (date value.date)
  | .dateTime, dateTime value => some (dateTime value)
  | .uuid, uuid value => some (uuid value)
  | .vector, vector value => some (vector value)
  | .list item, list items => (items.mapM (convert? item)).map list
  | kind, text value => ofText? kind (trim value.toList)
  | _, _ => none

end Value

end RecordQuery

/-
This file reads the timestamps of a catalog: date-times in the form of RFC 3339, and bare dates,
which stand for midnight UTC.
-/

import RecordQuery.Calendar.Rfc3339
import RecordQuery.Text.Blank

namespace RecordQuery.Catalog

open Calendar

/-- A text that is no timestamp, without white space at its ends. -/
structure TimestampError where
  text : String
deriving DecidableEq

def TimestampError.message (error : TimestampError) : String :=
  "'" ++ error.text ++ "' is neither an RFC 3339 timestamp nor a YYYY-MM-DD date."

/-- Reads a timestamp, white space at its ends aside. -/
def readTimestamp (text : String) : Except TimestampError DateTime :=
  let trimmed := Text.trim text.toList
  match DateTime.ofRfc3339? trimmed with
  | some value => .ok value
  | none =>
    match Date.ofText? trimmed with
    | some date => .ok (.midnight date)
    | none => .error ⟨String.ofList trimmed⟩

end RecordQuery.Catalog

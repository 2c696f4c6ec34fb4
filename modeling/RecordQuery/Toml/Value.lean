/-
This file holds what a TOML document states, in the way it is written: values, names with dots, and
the statements that give values to names and open tables.

A moment is a date, a time or both; nothing here asks for more than its text. A number that is too
great to be held is still a number, and spoils a document only if somebody looks at it.
-/

import RecordQuery.Number.Binary

namespace RecordQuery.Toml

open Number

/-- A name behind the names of the tables that lead to it. -/
structure DottedName where
  path : List String
  name : String

/-- A value as it is written. A number is missing if it is too great to be held. -/
inductive Value where
  | text (content : String)
  | bool (value : Bool)
  | integer (value : Option Int)
  | float (value : Option Double)
  | moment (text : String)
  | array (items : List Value)
  /-- A table between braces. -/
  | table (entries : List (DottedName × Value))

/-- A statement of a document. -/
inductive Statement where
  | assign (name : DottedName) (value : Value)
  /-- Opens a table for the assignments that follow. -/
  | openTable (name : DottedName)
  /-- Opens a further table of an array of tables. -/
  | openFurther (name : DottedName)

end RecordQuery.Toml

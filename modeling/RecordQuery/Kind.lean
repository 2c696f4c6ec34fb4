/-
This file holds the kinds of values that a field of a record can be registered with.
-/

namespace RecordQuery

/-- What a field holds. -/
inductive Kind where
  | bool
  | int
  | float
  | text
  | date
  | dateTime
  | uuid
  | vector
  | list (item : Kind)
  /-- A nested record of the shape with this name. -/
  | record (name : String)
deriving DecidableEq, Inhabited

namespace Kind

/-- Whether values of a kind can be compared by less and greater. -/
def isOrdered : Kind → Bool
  | bool | int | float | text | date | dateTime | uuid => true
  | vector | list _ | record _ => false

/-- Whether values of a kind are numbers. -/
def isNumeric : Kind → Bool
  | int | float => true
  | _ => false

/-- Whether values of a kind can name a group. -/
def isKeyable : Kind → Bool
  | list item => item.isKeyable
  | kind => kind.isOrdered

/-- Whether a kind is that of nested records. -/
def isRecord : Kind → Bool
  | record _ => true
  | _ => false

/-- The name of a kind, as it stands in messages. -/
def toText : Kind → String
  | bool => "bool"
  | int => "int"
  | float => "float"
  | text => "text"
  | date => "date"
  | dateTime => "datetime"
  | uuid => "uuid"
  | vector => "vector"
  | list item => "list<" ++ item.toText ++ ">"
  | record name => "record " ++ name

/-- The constructor of a kind with its arguments, as a path shows its last field. -/
def toDebugText (quote : String → String) : Kind → String
  | bool => "Bool"
  | int => "Int"
  | float => "Float"
  | text => "Text"
  | date => "Date"
  | dateTime => "DateTime"
  | uuid => "Uuid"
  | vector => "Vector"
  | list item => "List(" ++ item.toDebugText quote ++ ")"
  | record name => "Record(" ++ quote name ++ ")"

end Kind

end RecordQuery

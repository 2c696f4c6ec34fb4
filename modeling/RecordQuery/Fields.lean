/-
This file holds what a document gives for the fields of a structure, and how fields that may be left
out are read.
-/

namespace RecordQuery.Fields

/-- The values given for some fields, in the order of the fields. -/
abbrev Given (Source : Type) := List (Option Source)

variable {Source Item : Type}

/-- Nothing is given for any of these fields. -/
def nothing (fields : List String) : Given Source :=
  fields.map fun _ => none

/-- Values that are given in the order of the fields, the first fields first. Values behind the last
field are left out. -/
def byPlace (fields : List String) (values : List Source) : Given Source :=
  (values.take fields.length).map some ++ List.replicate (fields.length - values.length) none

/-- Reads a field that must be given. -/
def required? (read : Source → Option Item) (given : Option Source) : Option Item :=
  given.bind read

/-- Reads a field. What is not given has a default. -/
def defaulted? (read : Source → Option Item) (default : Item) : Option Source → Option Item
  | some value => read value
  | none => some default

end RecordQuery.Fields

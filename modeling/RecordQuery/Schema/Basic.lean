/-
This file holds schemas, the shapes of records, and the records themselves.

A schema is a family of shapes that refer to each other by number, so a shape may hold records of
its own kind at any depth. The first shape is that of the records that are queried. A record is a
list of cells in the order of the fields of its shape; cells that are missing read as null.
-/

import RecordQuery.Value.Basic

namespace RecordQuery

/-- What a field holds: a plain value of a kind, or a record of the shape with this number. -/
inductive Content where
  | scalar (kind : Kind)
  | record (shape : Nat)
deriving DecidableEq

/-- A field of a shape. -/
structure Field where
  name : String
  nullable : Bool
  content : Content
deriving DecidableEq

/-- The fields of one type of record, in the order of their registration. -/
structure Shape where
  name : String
  fields : List Field
deriving DecidableEq

/-- A family of shapes. -/
structure Schema where
  shapes : List Shape

/-- What stands in one field of a record. -/
inductive Cell where
  /-- A plain value. -/
  | value (value : Value)
  /-- The place of a nested record that is not there. -/
  | absent
  /-- A nested record. -/
  | record (cells : List Cell)

/-- A record: its cells in the order of the fields of its shape. -/
abbrev Record := List Cell

/-- A record and the label it is told from others by. -/
structure Row (Label : Type) where
  label : Label
  record : Record

namespace Schema

/-- The shape with a number. A number that no shape has stands for a shape without fields. -/
def shape (schema : Schema) (number : Nat) : Shape :=
  schema.shapes[number]?.getD ⟨"", []⟩

/-- The shape of the records that are queried. -/
def root (schema : Schema) : Shape :=
  schema.shape 0

/-- The kind that a field is registered with. -/
def kindOf (schema : Schema) : Content → Kind
  | .scalar kind => kind
  | .record number => .record (schema.shape number).name

end Schema

namespace Record

/-- The plain value in a place. What is no plain value reads as null. -/
def scalarAt (record : Record) (place : Nat) : Value :=
  match record[place]? with
  | some (.value value) => value
  | _ => .null

/-- The nested record in a place, if there is one. -/
def nestedAt? (record : Record) (place : Nat) : Option Record :=
  match record[place]? with
  | some (.record cells) => some cells
  | _ => none

end Record

namespace Schema

mutual

/-- The fields of a record with their values, nested records included. -/
def projectFields (schema : Schema) : List Field → List Cell → List (String × Value)
  | fields, [] => fields.map fun field => (field.name, .null)
  | [], _ :: _ => []
  | field :: fields, cell :: cells =>
    (field.name, projectCell schema field.content cell) :: projectFields schema fields cells

/-- The value of a cell. A nested record is a map of all its fields, an absent one null. -/
def projectCell (schema : Schema) : Content → Cell → Value
  | .scalar _, .value value => value
  | .record number, .record cells => .map (projectFields schema (schema.shape number).fields cells)
  | _, _ => .null

end

/-- A record of the shape with a number as a map of all its fields. -/
def projectShape (schema : Schema) (number : Nat) (record : Record) : Value :=
  .map (schema.projectFields (schema.shape number).fields record)

/-- A whole record as a map of all its fields. -/
def project (schema : Schema) (record : Record) : Value :=
  schema.projectShape 0 record

end Schema

end RecordQuery

/-
This file holds paths: the fields one goes through, from a record to a field of it or of a record
nested in it. A path is given as names with points between them and resolved against a schema.

A resolved path has one hop per name. It reads a record hop by hop, and if a record on the way is
not there, it says at which hop.
-/

import RecordQuery.Error
import RecordQuery.Schema.Basic
import RecordQuery.Text.Quoted
import RecordQuery.Text.Split

namespace RecordQuery

open Text

/-- One resolved name of a path. -/
structure Hop where
  name : String
  /-- The name of the shape that has the field. -/
  host : String
  nullable : Bool
  kind : Kind
deriving DecidableEq

/-- A hop, where its field stands in the record, and what the field holds. -/
structure Step where
  hop : Hop
  place : Nat
  content : Content

/-- A resolved path: the nested records it goes through, and the field it ends at. -/
structure Path where
  through : List Step
  leaf : Step

/-- What reading a path on a record gives. -/
inductive Slot where
  | value (value : Value)
  /-- A nested record that is there. -/
  | present
  /-- The record at this hop, counted from zero, is not there. -/
  | unreachable (hop : Nat)

namespace Shape

/-- The first field of a name in any case, and its place. -/
def field? (shape : Shape) (name : List Char) : Option (Field × Nat) :=
  shape.fields.zipIdx.find? fun (field, _) => sameIgnoringCase field.name.toList name

end Shape

namespace Schema

/-- The step for one name in the shape with a number. -/
def step? (schema : Schema) (number : Nat) (name : List Char) : Except ResolutionError Step :=
  let shape := schema.shape number
  match shape.field? name with
  | none => .error (.unknownField (String.ofList name) shape.name)
  | some (field, place) =>
    let hop : Hop :=
      { name := field.name, host := shape.name, nullable := field.nullable,
        kind := schema.kindOf field.content }
    .ok ⟨hop, place, field.content⟩

/-- Resolves a list of names, the first of them given on its own, from the shape with a number. -/
def resolveNames (schema : Schema) (number : Nat) (name : List Char) :
    List (List Char) → Except ResolutionError Path
  | [] => (schema.step? number name).map fun step => ⟨[], step⟩
  | next :: rest =>
    match schema.step? number name with
    | .error error => .error error
    | .ok step =>
      match step.content with
      | .scalar kind => .error (.unknownField (String.ofList next) kind.toText)
      | .record inner =>
        (resolveNames schema inner next rest).map fun path =>
          { path with through := step :: path.through }

/-- Resolves a path against the shape of the records that are queried. -/
def resolve (schema : Schema) (path : String) : Except ResolutionError Path :=
  let names := splitAt '.' path.toList
  if names.any List.isEmpty then .error (.emptyPath path)
  else match names with
    | [] => .error (.emptyPath path)
    | name :: rest => schema.resolveNames 0 name rest

/-- The path, if it resolves. -/
def resolve? (schema : Schema) (path : String) : Option Path :=
  (schema.resolve path).toOption

end Schema

namespace Step

/-- The nested record that a step leads to, if it is there. -/
def nested? (step : Step) (record : Record) : Option Record :=
  record.nestedAt? step.place

/-- Reads the last step of a path. -/
def read (step : Step) (record : Record) : Slot :=
  match step.content with
  | .scalar _ => .value (record.scalarAt step.place)
  | .record _ => if (step.nested? record).isSome then .present else .value .null

/-- Reads the last step of a path as a plain value. -/
def get (schema : Schema) (step : Step) (record : Record) : Value :=
  match step.content with
  | .scalar _ => record.scalarAt step.place
  | .record number =>
    match step.nested? record with
    | some inner => schema.projectShape number inner
    | none => .null

end Step

/-- What was read one hop further down. -/
def Slot.beyondHop : Slot → Slot
  | unreachable hop => unreachable (hop + 1)
  | slot => slot

namespace Path

/-- The steps of a path, the last one included. -/
def steps (path : Path) : List Step :=
  path.through ++ [path.leaf]

/-- The hops of a path. -/
def hops (path : Path) : List Hop :=
  path.steps.map Step.hop

/-- The names of some hops with points between them. -/
def joinNames (hops : List Hop) : String :=
  ".".intercalate (hops.map Hop.name)

/-- The path as text, in the names that its fields are registered with. -/
def toText (path : Path) : String :=
  joinNames path.hops

/-- The kind of the field that the path ends at. -/
def kind (path : Path) : Kind :=
  path.leaf.hop.kind

/-- Whether a path goes through nested records. -/
def isMultiHop (path : Path) : Bool :=
  !path.through.isEmpty

/-- The paths to the records on the way, the shortest first, as text. -/
def prefixTexts (path : Path) : List String :=
  (List.range path.through.length).map fun depth => joinNames (path.hops.take (depth + 1))

/-- The part of a path up to a hop, as text. -/
def textThrough (path : Path) (hop : Nat) : String :=
  joinNames (path.hops.take (hop + 1))

/-- Whether two paths have the same hops. -/
def same (left right : Path) : Bool :=
  left.hops = right.hops

/-- Reads the last step after going through the others. -/
def readThrough (leaf : Step) : List Step → Record → Slot
  | [], record => leaf.read record
  | step :: steps, record =>
    match step.nested? record with
    | some inner => (readThrough leaf steps inner).beyondHop
    | none => .unreachable 0

/-- Reads a path on a record. -/
def read (path : Path) (record : Record) : Slot :=
  readThrough path.leaf path.through record

/-- Reads the last step after going through the others as a plain value. -/
def getThrough (schema : Schema) (leaf : Step) : List Step → Record → Value
  | [], record => leaf.get schema record
  | step :: steps, record =>
    match step.nested? record with
    | some inner => getThrough schema leaf steps inner
    | none => .null

/-- Reads a path on a record as a plain value. What is not there is null, and a nested record is a
map of its fields. -/
def get (schema : Schema) (path : Path) (record : Record) : Value :=
  getThrough schema path.leaf path.through record

/-- A path with the kind at its end, spelled out. -/
def toDebugText (path : Path) : String :=
  "FieldPath \x7b path: " ++ quote path.toText ++ ", leaf: " ++ path.kind.toDebugText quote ++
    " \x7d"

end Path

/-- The value in a slot. Where there is none, null stands for it. -/
def Slot.valueOrNull : Slot → Value
  | value held => held
  | present => .null
  | unreachable _ => .null

end RecordQuery

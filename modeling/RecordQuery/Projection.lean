/-
This file projects records onto columns named by paths.

Every path asked for gets its column, in the order they are asked for and as often. A path that
does not resolve is a column of nulls.
-/

import RecordQuery.Schema.Path
import RecordQuery.Value.Json

namespace RecordQuery

/-- One projected record: the paths asked for and their values. -/
structure Projection where
  columns : List (String × Value)

namespace Projection

/-- The value of the first column of a name. -/
def get? (projection : Projection) (name : String) : Option Value :=
  (projection.columns.find? fun column => column.1 = name).map Prod.snd

/-- How many columns there are. -/
def size (projection : Projection) : Nat :=
  projection.columns.length

/-- The columns as one value, names repeated if they are. -/
def toValue (projection : Projection) : Value :=
  .map projection.columns

end Projection

/-- The columns of a projection and the paths that read them. -/
structure Projector where
  columns : List (String × Option Path)

namespace Projector

/-- Resolves the columns asked for. -/
def ofPaths (schema : Schema) (paths : List String) : Projector :=
  ⟨paths.map fun path => (path, schema.resolve? path)⟩

/-- Projects one record. -/
def project (schema : Schema) (projector : Projector) (record : Record) : Projection :=
  ⟨projector.columns.map fun (name, path) =>
    (name, match path with
      | some path => path.get schema record
      | none => .null)⟩

end Projector

end RecordQuery

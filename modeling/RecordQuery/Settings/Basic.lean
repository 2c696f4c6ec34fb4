/-
This file holds the settings of a catalog and the rules they must keep.
-/

import RecordQuery.Number.Arithmetic
import RecordQuery.Text.Blank

namespace RecordQuery

open Number

/-- How much the text score and the vector similarity count in a ranking by both. -/
structure Weights where
  text : Single
  vector : Single
deriving DecidableEq

namespace Weights

/-- One half. -/
def half : Single :=
  1 / 2

/-- The weights where none are given: both count alike. -/
def standard : Weights :=
  ⟨half, half⟩

end Weights

/-- The names of the fields that tell live records from deleted ones. A name that is left out
switches off its half of the guard. -/
structure SoftDelete where
  activeField : Option String
  archivedField : Option String
deriving DecidableEq

/-- The field names where none are given. -/
def SoftDelete.standard : SoftDelete :=
  ⟨some "IsActive", some "IsArchived"⟩

/-- The settings of a catalog. -/
structure Settings where
  logLevel : String
  weights : Weights
  softDelete : SoftDelete
deriving DecidableEq

/-- Why settings cannot be used. -/
inductive SettingsError where
  | blankLogLevel
  /-- The weight with this label is not finite. -/
  | weightNotFinite (label : String)
  | weightOutOfRange (label : String)
  | bothWeightsZero
  /-- The field with this label names a field of a nested record. -/
  | nestedField (label field : String)
deriving DecidableEq

def SettingsError.message : SettingsError → String
  | blankLogLevel => "Invalid quarry config: service.log_level must be non-empty."
  | weightNotFinite label => "Invalid quarry config: " ++ label ++ " must be a finite number."
  | weightOutOfRange label => "Invalid quarry config: " ++ label ++ " must be in the range 0.0-1.0."
  | bothWeightsZero =>
    "Invalid quarry config: ranking.text_weight and ranking.vector_weight must not both be zero."
  | nestedField label field =>
    "Invalid quarry config: " ++ label ++ " must name a top-level field, got '" ++ field ++ "'."

namespace Settings

/-- A weight must be a finite number from zero to one. -/
def checkWeight (label : String) (weight : Single) : Except SettingsError Unit :=
  if !weight.isFinite then .error (.weightNotFinite label)
  else if weight.compare? 0 == some .lt || weight.compare? 1 == some .gt then
    .error (.weightOutOfRange label)
  else .ok ()

/-- The name of a guard field must not lead into a nested record. -/
def checkField (label : String) : Option String → Except SettingsError Unit
  | some field => if '.' ∈ field.toList then .error (.nestedField label field) else .ok ()
  | none => .ok ()

/-- Checks the rules in their order and reports the first that is broken. -/
def validate (settings : Settings) : Except SettingsError Unit := do
  if (Text.trim settings.logLevel.toList).isEmpty then throw .blankLogLevel
  checkWeight "ranking.text_weight" settings.weights.text
  checkWeight "ranking.vector_weight" settings.weights.vector
  if settings.weights.text.isZero && settings.weights.vector.isZero then throw .bothWeightsZero
  checkField "soft_delete.active_field" settings.softDelete.activeField
  checkField "soft_delete.archived_field" settings.softDelete.archivedField

/-- A blank field name counts as none. -/
def dropBlank : Option String → Option String
  | some field => if (Text.trim field.toList).isEmpty then none else some field
  | none => none

/-- The settings without blank field names. -/
def tidy (settings : Settings) : Settings :=
  { settings with
    softDelete :=
      { activeField := dropBlank settings.softDelete.activeField
        archivedField := dropBlank settings.softDelete.archivedField } }

end Settings

end RecordQuery

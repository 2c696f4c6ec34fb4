/-
This file reads the settings of a catalog from a TOML document.

A section is a table, or an array of its fields in their order; a moment is a section without any
field. Names that are not fields are passed over, as long as every number in their values can be
held.
-/

import RecordQuery.Fields
import RecordQuery.Settings.Basic
import RecordQuery.Toml.Statement
import RecordQuery.Toml.Table

namespace RecordQuery

open Number Toml Fields

namespace Settings

/-! ### Plain values -/

def readText? : Item → Option String
  | .text content => some content
  | _ => none

/-- Reads a weight. An integer must have room in 64 bits, with a sign or without. -/
def readWeight? : Item → Option Single
  | .float value => value.map fun value => value.convert
  | .integer (some value) =>
    if -(twoTo 63 : Int) ≤ value ∧ value < twoTo 64 then some (Binary.ofInt value) else none
  | _ => none

/-! ### Sections -/

/-- The values that a table gives for fields with these names. -/
def entriesFor? (fields : List String) (entries : Entries) : Option (Given Item) :=
  if entries.all fun (name, item) => fields.contains name || item.isSound then
    some (fields.map fun field => List.lookup field entries)
  else none

/-- The values that a section gives for fields with these names: by name, or by place. -/
def fieldsFor? (fields : List String) : Item → Option (Given Item)
  | .table _ entries => entriesFor? fields entries
  | .array items => some (byPlace fields items)
  | .tables latest earlier =>
    some (byPlace fields ((latest :: earlier).reverse.map (Item.table .header)))
  | .moment _ => some (nothing fields)
  | _ => none

/-- Reads the section of the service: its log level. -/
def readService? (part : Item) : Option String := do
  match ← fieldsFor? ["log_level"] part with
  | [logLevel] => required? readText? logLevel
  | _ => none

/-- Reads the section of the ranking: its weights. -/
def readWeights? (part : Item) : Option Weights := do
  match ← fieldsFor? ["text_weight", "vector_weight"] part with
  | [text, vector] =>
    return ⟨← defaulted? readWeight? Weights.standard.text text,
      ← defaulted? readWeight? Weights.standard.vector vector⟩
  | _ => none

/-- Reads the section of the guard: the names of its fields. -/
def readSoftDelete? (part : Item) : Option SoftDelete := do
  match ← fieldsFor? ["active_field", "archived_field"] part with
  | [active, archived] =>
    let standard := SoftDelete.standard
    return ⟨← defaulted? (fun item => (readText? item).map some) standard.activeField active,
      ← defaulted? (fun item => (readText? item).map some) standard.archivedField archived⟩
  | _ => none

/-- The settings that the entries of a document give. -/
def ofEntries? (entries : Entries) : Option Settings := do
  match ← entriesFor? ["service", "ranking", "soft_delete"] entries with
  | [service, ranking, guarded] =>
    return ⟨← required? readService? service,
      ← defaulted? readWeights? Weights.standard ranking,
      ← defaulted? readSoftDelete? SoftDelete.standard guarded⟩
  | _ => none

/-- The settings that a whole document gives, as they are written. -/
def ofText? (text : String) : Option Settings := do
  ofEntries? (← entriesOf? (← statements? text))

end Settings

/-! ### Files -/

/-- Why there are no settings in a file. -/
inductive SettingsFileError where
  | unreadable
  | notToml
  | invalid (error : SettingsError)
deriving DecidableEq

/-- The message about the file with the given name. -/
def SettingsFileError.message (file : String) : SettingsFileError → String
  | unreadable => "Cannot read quarry config " ++ file ++ "."
  | notToml => "Quarry config " ++ file ++ " is not valid TOML."
  | invalid error => error.message

/-- The settings in a file with the given content, tidied and checked. -/
def Settings.load (content : Option String) : Except SettingsFileError Settings :=
  match content with
  | none => .error .unreadable
  | some text =>
    match Settings.ofText? text with
    | none => .error .notToml
    | some written =>
      let settings := written.tidy
      match settings.validate with
      | .ok _ => .ok settings
      | .error error => .error (.invalid error)

end RecordQuery

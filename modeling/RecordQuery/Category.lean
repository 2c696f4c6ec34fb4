/-
This file holds categories, each of which may stand under another, and how they are read as
records.
-/

import RecordQuery.Schema.Basic

namespace RecordQuery

/-- A category. -/
inductive Category where
  /-- One that stands under no other. -/
  | top (name : String)
  | under (name : String) (parent : Category)

namespace Category

/-- The category of some names, the innermost first. -/
def ofNames? : List String → Option Category
  | [] => none
  | name :: names =>
    match ofNames? names with
    | some parent => some (under name parent)
    | none => some (top name)

def name : Category → String
  | top name => name
  | under name _ => name

/-- The category that a category stands under. -/
def parent? : Category → Option Category
  | top _ => none
  | under _ parent => some parent

/-- The fields of a category, in a schema where this shape has the given number. -/
def shape (number : Nat) : Shape where
  name := "Category"
  fields :=
    [⟨"Name", false, .scalar .text⟩,
      ⟨"Parent", true, .record number⟩]

/-- A category as a record. -/
def toCell : Category → Cell
  | top name => .record [.value (.text name), .absent]
  | under name parent => .record [.value (.text name), parent.toCell]

end Category

/-- The cell of a category that may be missing. -/
def Category.optionalCell : Option Category → Cell
  | some category => category.toCell
  | none => .absent

namespace Cell

/-- The cell of a value that may be missing. -/
def optional {Item : Type} (toValue : Item → Value) : Option Item → Cell
  | some item => .value (toValue item)
  | none => .value .null

/-- The cell of a list of texts. -/
def texts (items : List String) : Cell :=
  .value (.list (items.map Value.text))

end Cell

end RecordQuery

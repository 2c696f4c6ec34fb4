/-
This file builds the tables that the statements of a TOML document describe.

A name is given a value only once. A table may be opened once by a header of its own, and only if it
does not come from an assignment; names with dots may go on only with tables that such names have
made, or that stand empty on the way to others, and never into a table in braces. Where an array of
tables is on the way, its last table is meant.
-/

import RecordQuery.Toml.Value

namespace RecordQuery.Toml

open Number

/-- Where a table comes from. -/
inductive Origin where
  /-- The document itself, or a header that opens the table. -/
  | header
  /-- The way to a table with a header of its own. -/
  | implied
  /-- The dots of an assigned name. -/
  | dotted
  /-- Braces. -/
  | braces
deriving DecidableEq

/-- What a name of a table stands for. -/
inductive Item where
  | text (content : String)
  | bool (value : Bool)
  | integer (value : Option Int)
  | float (value : Option Double)
  | moment (text : String)
  | array (items : List Item)
  | table (origin : Origin) (entries : List (String × Item))
  /-- An array of tables that headers opened one by one, the last one first. -/
  | tables (latest : List (String × Item)) (earlier : List (List (String × Item)))

/-- What the names of a table stand for. -/
abbrev Entries := List (String × Item)

/-- A table with the way it came about. -/
structure Table where
  origin : Origin
  entries : Entries

/-- The entries of a table with something else for one name. -/
def Entries.put (entries : Entries) (name : String) (item : Item) : Entries :=
  match entries with
  | [] => [(name, item)]
  | (other, held) :: rest =>
    if other = name then (name, item) :: rest else (other, held) :: Entries.put rest name item

namespace Table

/-- Whether dots of assigned names may lead into a table. -/
def isOpen (table : Table) : Bool :=
  table.origin = .implied || table.origin = .dotted

/-- Changes the table at the end of a path. Tables that are missing on the way are made. The path
may come from the dots of an assigned name. -/
def alter? (dots : Bool) (change : Table → Option Table) : List String → Table → Option Table
  | [], table => change table
  | name :: path, table => do
    let item ← match table.entries.lookup name with
      | none =>
        (alter? dots change path ⟨if dots then .dotted else .implied, []⟩).map fun inner =>
          Item.table inner.origin inner.entries
      | some (.table origin entries) =>
        let inner : Table := ⟨origin, entries⟩
        if origin = .braces || (dots && !inner.isOpen) then none
        else
          (alter? dots change path inner).map fun inner => Item.table inner.origin inner.entries
      | some (.tables latest earlier) =>
        (alter? dots change path ⟨.header, latest⟩).map fun inner =>
          Item.tables inner.entries earlier
      | some _ => none
    return ⟨table.origin, Entries.put table.entries name item⟩

/-- Gives a value to a name that has none. Dots must lead to a table that dots have made. -/
def assign? (name : DottedName) (item : Item) : Table → Option Table :=
  alter? true
    (fun table =>
      if !name.path.isEmpty && table.origin ≠ .dotted then none
      else match table.entries.lookup name.name with
        | none => some ⟨table.origin, table.entries.put name.name item⟩
        | some _ => none)
    name.path

/-- Opens a table by a header. -/
def openTable? (name : DottedName) : Table → Option Table :=
  alter? false
    (fun table =>
      match table.entries.lookup name.name with
      | none => some ⟨table.origin, table.entries.put name.name (.table .header [])⟩
      | some (.table .implied entries) =>
        some ⟨table.origin, table.entries.put name.name (.table .header entries)⟩
      | some _ => none)
    name.path

/-- Opens a further table of an array of tables. -/
def openFurther? (name : DottedName) : Table → Option Table :=
  alter? false
    (fun table =>
      match table.entries.lookup name.name with
      | none => some ⟨table.origin, table.entries.put name.name (.tables [] [])⟩
      | some (.tables latest earlier) =>
        some ⟨table.origin, table.entries.put name.name (.tables [] (latest :: earlier))⟩
      | some _ => none)
    name.path

end Table

/-! ### Values -/

mutual

/-- What a value stands for, if no name in braces is given two values. -/
def Value.toItem? : Value → Option Item
  | .text content => some (.text content)
  | .bool value => some (.bool value)
  | .integer value => some (.integer value)
  | .float value => some (.float value)
  | .moment text => some (.moment text)
  | .array items => (itemsOf? items).map .array
  | .table entries =>
    (assignAll? entries ⟨.braces, []⟩).map fun table => .table .braces table.entries

/-- What several values stand for. -/
def itemsOf? : List Value → Option (List Item)
  | [] => some []
  | value :: values =>
    match value.toItem?, itemsOf? values with
    | some item, some items => some (item :: items)
    | _, _ => none

/-- Assigns the entries of a table in braces one after another. -/
def assignAll? : List (DottedName × Value) → Table → Option Table
  | [], table => some table
  | (name, value) :: rest, table =>
    match value.toItem?.bind fun item => table.assign? name item with
    | some table => assignAll? rest table
    | none => none

end

/-! ### Soundness -/

mutual

/-- Whether every number in an item can be held. -/
def Item.isSound : Item → Bool
  | .integer value => value.isSome
  | .float value => value.isSome
  | .array items => areSound items
  | .table _ entries => entriesAreSound entries
  | .tables latest earlier => entriesAreSound latest && tablesAreSound earlier
  | _ => true

/-- Whether every number in some items can be held. -/
def areSound : List Item → Bool
  | [] => true
  | item :: items => item.isSound && areSound items

/-- Whether every number in a table can be held. -/
def entriesAreSound : List (String × Item) → Bool
  | [] => true
  | (_, item) :: entries => item.isSound && entriesAreSound entries

/-- Whether every number in some tables can be held. -/
def tablesAreSound : List (List (String × Item)) → Bool
  | [] => true
  | entries :: tables => entriesAreSound entries && tablesAreSound tables

end

/-! ### Documents -/

/-- A document that is being built: its table, and the path to the table that is open. -/
structure Draft where
  table : Table
  path : List String

/-- The document without any statement. -/
def Draft.empty : Draft :=
  ⟨⟨.header, []⟩, []⟩

/-- Carries out a statement. -/
def Draft.state? (draft : Draft) : Statement → Option Draft
  | .assign name value => do
    let item ← value.toItem?
    let table ← draft.table.alter? false (Table.assign? name item) draft.path
    return ⟨table, draft.path⟩
  | .openTable name => do
    return ⟨← draft.table.openTable? name, name.path ++ [name.name]⟩
  | .openFurther name => do
    return ⟨← draft.table.openFurther? name, name.path ++ [name.name]⟩

/-- The entries of the document that some statements describe. -/
def entriesOf? (statements : List Statement) : Option Entries :=
  (statements.foldlM Draft.state? Draft.empty).map fun draft => draft.table.entries

end RecordQuery.Toml

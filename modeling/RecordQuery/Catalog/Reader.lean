/-
This file reads the products of a catalog from a JSON document.

A product is an object, or an array of its fields in their order. Members that are not fields are
passed over, whatever they hold; a field that comes twice, is missing without a value to stand for
it, or holds the wrong thing spoils the catalog. Categories may be nested only so deep.
-/

import RecordQuery.Catalog.Product
import RecordQuery.Catalog.Timestamp
import RecordQuery.Fields
import RecordQuery.Json.Numeric

namespace RecordQuery.Catalog

open Number Calendar Json Fields

/-! ### Plain values -/

def readText? : Document → Option String
  | .text content => content
  | _ => none

def readBool? : Document → Option Bool
  | .bool value => some value
  | _ => none

/-- Reads a number of a binary format. -/
def readBinary? {format : BinaryFormat} : Document → Option (Binary format)
  | .number text => text.value?.map Json.Numeric.toBinary
  | _ => none

/-- Reads a signed word. -/
def readWord? : Document → Option Int64
  | .number text => (text.value?.bind Json.Numeric.toInt?).bind wordOfInt?
  | _ => none

def readUuid? (document : Document) : Option Uuid :=
  (readText? document).bind fun text => Uuid.ofText? text.toList

def readListedAt? (document : Document) : Option DateTime :=
  (readText? document).bind fun text => (readTimestamp text).toOption

/-- Reads an array of items. -/
def readArray? {Item : Type} (read : Document → Option Item) : Document → Option (List Item)
  | .array items => items.mapM read
  | _ => none

/-- Reads something that may be null. -/
def readNullable? {Item : Type} (read : Document → Option Item) : Document → Option (Option Item)
  | .null => some none
  | document => (read document).map some

/-! ### Fields -/

/-- The values that the members of an object give for fields with these names. Every member must
have a name, and no field may be given twice. -/
def membersFor? (fields : List String) : List (Option String × Document) → Option (Given Document)
  | [] => some (nothing fields)
  | (none, _) :: _ => none
  | (some name, document) :: members =>
    match membersFor? fields members with
    | none => none
    | some given =>
      match fields.idxOf? name with
      | none => some given
      | some place =>
        match given[place]? with
        | some none => some (given.set place (some document))
        | _ => none

/-- The values that a document gives for fields with these names: by name, or by place. -/
def fieldsFor? (fields : List String) : Document → Option (Given Document)
  | .object members => membersFor? fields members
  | .array items => if items.length ≤ fields.length then some (byPlace fields items) else none
  | _ => none

/-! ### Categories and products -/

/-- The names of the fields of a category. -/
def categoryFields : List String := ["name", "parent"]

/-- Reads a category. The catalog, the product and every category on the way take one level. -/
def readCategory? : Nat → Document → Option Category
  | 0, _ => none
  | levels + 1, document => do
    match ← fieldsFor? categoryFields document with
    | [name, parent] =>
      let name ← required? readText? name
      let parent ← defaulted? (readNullable? (readCategory? levels)) none parent
      return match parent with
        | some parent => .under name parent
        | none => .top name
    | _ => none

/-- How many levels of a catalog may be open at once. -/
def greatestDepth : Nat := 127

/-- The names of the fields of a product. -/
def productFields : List String :=
  ["id", "sku", "name", "description", "price", "stock", "category", "tags", "embedding",
    "is_active", "is_archived", "listed_at"]

/-- Reads a product. -/
def readProduct? (document : Document) : Option Product := do
  match ← fieldsFor? productFields document with
  | [id, sku, name, description, price, stock, category, tags, embedding, isActive, isArchived,
      listedAt] =>
    let id ← required? readUuid? id
    let sku ← required? readText? sku
    let name ← required? readText? name
    let description ← defaulted? (readNullable? readText?) none description
    let price ← required? readBinary? price
    let stock ← defaulted? readWord? 0 stock
    let category ← defaulted? (readNullable? (readCategory? (greatestDepth - 2))) none category
    let tags ← defaulted? (readArray? readText?) [] tags
    let embedding ← defaulted? (readNullable? (readArray? readBinary?)) none embedding
    let isActive ← defaulted? readBool? true isActive
    let isArchived ← defaulted? readBool? false isArchived
    let listedAt ← required? readListedAt? listedAt
    return ⟨id, sku, name, description, price, stock, category, tags, embedding, isActive,
      isArchived, listedAt⟩
  | _ => none

/-- Reads the products of a catalog. -/
def readProducts? (text : String) : Option (List Product) :=
  (Document.ofText? text).bind (readArray? readProduct?)

end RecordQuery.Catalog

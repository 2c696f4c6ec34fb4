/-
This file holds the products of a catalog, how they are read as records, and how well they match a
textual query.
-/

import RecordQuery.Category
import RecordQuery.Query.Source

namespace RecordQuery.Catalog

open Number Calendar

/-- A product of a catalog. -/
structure Product where
  id : Uuid
  sku : String
  name : String
  description : Option String
  price : Double
  stock : Int64
  category : Option Category
  tags : List String
  embedding : Option (List Single)
  isActive : Bool
  isArchived : Bool
  listedAt : DateTime

/-- The shapes of products and categories. -/
def schema : Schema where
  shapes :=
    [⟨"Product",
        [⟨"Id", false, .scalar .uuid⟩,
          ⟨"Sku", false, .scalar .text⟩,
          ⟨"Name", false, .scalar .text⟩,
          ⟨"Description", true, .scalar .text⟩,
          ⟨"Price", false, .scalar .float⟩,
          ⟨"Stock", false, .scalar .int⟩,
          ⟨"Category", true, .record 1⟩,
          ⟨"Tags", false, .scalar (.list .text)⟩,
          ⟨"Embedding", true, .scalar .vector⟩,
          ⟨"IsActive", false, .scalar .bool⟩,
          ⟨"IsArchived", false, .scalar .bool⟩,
          ⟨"ListedAt", false, .scalar .dateTime⟩]⟩,
      Category.shape 1]

namespace Product

/-- A product as a record. -/
def toRecord (product : Product) : Record :=
  [.value (.uuid product.id),
    .value (.text product.sku),
    .value (.text product.name),
    .optional .text product.description,
    .value (.float product.price),
    .value (.int product.stock),
    Category.optionalCell product.category,
    .texts product.tags,
    .optional .vector product.embedding,
    .value (.bool product.isActive),
    .value (.bool product.isArchived),
    .value (.dateTime product.listedAt)]

/-- The text in which a query is looked for: the name, the description and the tags in lower case,
with spaces between them. -/
def searchText (product : Product) : List Char :=
  let parts := product.name :: product.description.getD "" :: product.tags
  Text.lower (" ".intercalate parts).toList

/-- The words of a query in lower case. -/
def queryTerms (query : String) : List (List Char) :=
  (Text.words query.toList).map Text.lower

/-- The share of the words of a query that are found in a product, in whatever case. -/
def textScore (product : Product) (query : String) : Single :=
  let terms := queryTerms query
  if terms.isEmpty then 0
  else
    let text := product.searchText
    let hits := (terms.filter fun term => Text.containsText term text).length
    Binary.ofInt hits / Binary.ofInt terms.length

end Product

/-- Some products as a dataset, each labelled by itself. -/
def dataset (products : List Product) : Dataset Product :=
  ⟨schema, products.map fun product => ⟨product, product.toRecord⟩⟩

end RecordQuery.Catalog

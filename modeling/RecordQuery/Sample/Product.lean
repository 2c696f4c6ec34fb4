/-
This file holds sample products over a tree of categories of two levels, one of them without a
category.
-/

import RecordQuery.Sample.Person

namespace RecordQuery.Sample

open Number Calendar

structure Product where
  id : Uuid
  code : Int64
  name : String
  description : Option String
  price : Double
  stock : Int64
  category : Option Category
  embedding : Option (List Single)
  isActive : Bool
  createdAt : DateTime

namespace Product

/-- An active product that is out of stock and has nothing else. -/
def new (number : Nat) (name : String) (price : Double) : Product where
  id := .ofNat (4096 + number)
  code := Int64.ofInt (number * 100)
  name := name
  description := none
  price := price
  stock := 0
  category := none
  embedding := none
  isActive := true
  createdAt := sinceEpoch (number * 3600)

/-- The shapes of products and categories. -/
def schema : Schema where
  shapes :=
    [⟨"Product",
        [⟨"Id", false, .scalar .uuid⟩,
          ⟨"Code", false, .scalar .int⟩,
          ⟨"Name", false, .scalar .text⟩,
          ⟨"Description", true, .scalar .text⟩,
          ⟨"Price", false, .scalar .float⟩,
          ⟨"Stock", false, .scalar .int⟩,
          ⟨"Category", true, .record 1⟩,
          ⟨"Embedding", true, .scalar .vector⟩,
          ⟨"IsActive", false, .scalar .bool⟩,
          ⟨"CreatedAt", false, .scalar .dateTime⟩]⟩,
      Category.shape 1]

/-- A product as a record. -/
def toRecord (product : Product) : Record :=
  [.value (.uuid product.id),
    .value (.int product.code),
    .value (.text product.name),
    .optional .text product.description,
    .value (.float product.price),
    .value (.int product.stock),
    Category.optionalCell product.category,
    .optional .vector product.embedding,
    .value (.bool product.isActive),
    .value (.dateTime product.createdAt)]

/-- Some products as a dataset, labelled by their names. -/
def dataset (products : List Product) : Dataset String :=
  ⟨schema, products.map fun product => ⟨product.name, product.toRecord⟩⟩

end Product

/-- The category that the keyboards below stand in. -/
def keyboards : Category :=
  .under "Keyboards" (.top "Hardware")

/-- Five products. -/
def products : List Product :=
  [{ Product.new 1 "Mechanical keyboard" 129 with
      description := some "Tactile switches, aluminium frame"
      stock := 12
      category := some keyboards
      embedding := some [decimal 9 1, decimal 1 1, 0] },
    { Product.new 2 "Rust in Action" (decimal 395 1) with
      description := some "Systems programming with Rust"
      stock := 40
      category := some (.top "Books")
      embedding := some [0, decimal 2 1, decimal 9 1] },
    { Product.new 3 "USB hub" 24 with
      category := some (.top "Hardware")
      embedding := some [decimal 6 1, decimal 6 1, decimal 1 1]
      isActive := false },
    { Product.new 4 "Gift card" 50 with
      stock := 500 },
    { Product.new 5 "Low-profile keyboard" 89 with
      description := some "Slim keyboard for travel"
      stock := 7
      category := some keyboards
      embedding := some [decimal 8 1, 0, decimal 2 1] }]

end RecordQuery.Sample

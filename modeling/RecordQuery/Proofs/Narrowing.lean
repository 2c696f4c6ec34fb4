/-
This file says which products of a catalog a search lets through.

A search may ask for live products, for a category, and for prices between bounds. Its filters are
the conjunction of what it asks for, and nothing else: they can always be built, on any catalog and
with any settings, and they have an answer on every product. A product without a category, or whose
category stands under no other, is just in none of the categories that it lacks.
-/

import RecordQuery.Catalog.Search
import RecordQuery.Proofs.Liveness
import RecordQuery.Proofs.WholeNumbers

namespace RecordQuery

open Number

/-! ### Prices -/

/-- Whether a number is at most another. A not-a-number is neither above nor below any. -/
def Number.Binary.atMost {format : BinaryFormat} (left right : Binary format) : Bool :=
  (left.compare? right).any (· != .gt)

theorem Number.Binary.atMost_of_isNaN {format : BinaryFormat} {left right : Binary format}
    (unordered : left.isNaN = true ∨ right.isNaN = true) : left.atMost right = false := by
  unfold atMost compare?
  rw [if_pos (Bool.or_eq_true_iff.mpr unordered)]
  rfl

theorem Comparison.lessOrEqual_ofSlot_float (price bound : Double) :
    Comparison.lessOrEqual.ofSlot (.value (.float price)) (.float bound) = price.atMost bound :=
  ofValues_of_isOrdering (show lessOrEqual.isOrdering = true from rfl) (.float price) (.float bound)

theorem Comparison.greaterOrEqual_ofSlot_float (price bound : Double) :
    Comparison.greaterOrEqual.ofSlot (.value (.float price)) (.float bound) =
      bound.atMost price := by
  have ordered : greaterOrEqual.ofSlot (.value (.float price)) (.float bound) =
      (price.compare? bound).any greaterOrEqual.holds :=
    ofValues_of_isOrdering (show greaterOrEqual.isOrdering = true from rfl) (.float price)
      (.float bound)
  rw [ordered, Binary.atMost, Binary.compare?_swap bound]
  cases price.compare? bound with
  | none => rfl
  | some order => cases order <;> rfl

namespace Catalog

/-! ### What a search asks for -/

/-- Whether the category of a product, or the category above that, has a name. -/
def Product.isIn (product : Product) (name : String) : Bool :=
  product.category.any fun category =>
    category.name == name || category.parent?.any fun parent => parent.name == name

namespace Search

/-- Whether a search lets products of a price through. -/
def admitsPrice (search : Search) (price : Double) : Bool :=
  search.minPrice.all (fun low => low.atMost price) &&
    search.maxPrice.all fun high => price.atMost high

/-- Whether a search lets a product through. -/
def admits (search : Search) (guard : SoftDelete) (product : Product) : Bool :=
  (!search.live || guard.passes schema product.toRecord) &&
    (search.category.all product.isIn && search.admitsPrice product.price)

/-- A bound that is not a number lets nothing through. -/
theorem admits_of_isNaN {search : Search} {bound : Double}
    (asked : search.minPrice = some bound ∨ search.maxPrice = some bound)
    (unordered : bound.isNaN = true) (guard : SoftDelete) (product : Product) :
    search.admits guard product = false := by
  have refused : search.admitsPrice product.price = false := by
    unfold admitsPrice
    rcases asked with low | high
    · rw [low, Option.all_some, Binary.atMost_of_isNaN (.inl unordered), Bool.false_and]
    · rw [high, Option.all_some, Binary.atMost_of_isNaN (.inr unordered), Bool.and_false]
  rw [admits, refused, Bool.and_false, Bool.and_false]

end Search

/-! ### Paths to what is asked for -/

/-- The path to the price of a product. -/
def pricePath : Path :=
  ⟨[], ⟨⟨"Price", "Product", false, .float⟩, 4, .scalar .float⟩⟩

/-- The step from a product to its category. -/
def toCategory : Step :=
  ⟨⟨"Category", "Product", true, .record "Category"⟩, 6, .record 1⟩

/-- The step from a category to the one above it. -/
def toParent : Step :=
  ⟨⟨"Parent", "Category", true, .record "Category"⟩, 1, .record 1⟩

/-- The step from a category to its name. -/
def toName : Step :=
  ⟨⟨"Name", "Category", false, .text⟩, 0, .scalar .text⟩

/-- The path to the name of a product's category. -/
def categoryNamePath : Path :=
  ⟨[toCategory], toName⟩

/-- The path to the name of the category above that. -/
def parentNamePath : Path :=
  ⟨[toCategory, toParent], toName⟩

theorem equal_ofSlot_categoryName (product : Product) (name : String) :
    Comparison.equal.ofSlot (categoryNamePath.read product.toRecord) (.text name) =
      product.category.any fun category => category.name == name := by
  unfold Product.toRecord
  rcases product.category with none | top | under <;> rfl

theorem equal_ofSlot_parentName (product : Product) (name : String) :
    Comparison.equal.ofSlot (parentNamePath.read product.toRecord) (.text name) =
      product.category.any fun category =>
        category.parent?.any fun parent => parent.name == name := by
  unfold Product.toRecord
  rcases product.category with none | top | ⟨name, top | under⟩ <;> rfl

/-! ### Filters -/

/-- Whether a query comes to some products of a catalog. -/
structure ComesTo (query : Query Product) (products : List Product) : Prop where
  schema : query.schema = Catalog.schema
  ran : query.materialize = .ok (dataset products).rows

variable {query : Query Product} {products : List Product}

theorem comesTo_ofDataset (products : List Product) :
    ComesTo (.ofDataset (dataset products)) products :=
  ⟨rfl, rfl⟩

/-- The rows of a catalog that pass a test are the rows of the products that do. -/
theorem filter_rows (products : List Product) (test : Record → Bool) :
    ((dataset products).rows.filter fun row => test row.record) =
      (dataset (products.filter fun product => test product.toRecord)).rows :=
  List.filter_map

theorem ComesTo.all (comesTo : ComesTo query products) {admits : Product → Bool}
    (all : ∀ product, admits product = true) : ComesTo query (products.filter admits) := by
  rwa [List.filter_eq_self.mpr fun product _ => all product]

theorem ComesTo.filter (comesTo : ComesTo query products) {predicate : Predicate}
    {test : Record → Bool} {admits : Product → Bool} (realizes : predicate.Realizes test)
    (same : ∀ product, test product.toRecord = admits product) :
    ComesTo (query.filter predicate) (products.filter admits) := by
  refine ⟨comesTo.schema, ?_⟩
  rw [Query.materialize_filter_of_realizes realizes comesTo.ran, filter_rows]
  simp only [same]

namespace Search

variable (search : Search)

/-- Keeps the live products of a query, if a search asks for them. -/
def keepLive (guard : SoftDelete) (query : Query Product) : Except QueryError (Query Product) :=
  if search.live then query.filterLive guard else .ok query

/-- Keeps the products in a category, if a search asks for one. -/
def keepCategory (query : Query Product) : Except QueryError (Query Product) :=
  match search.category with
  | some category => (categoryPredicate query.schema category).map query.filter
  | none => .ok query

/-- Keeps the products between two prices, as far as a search asks for them. -/
def keepPrices (query : Query Product) : Except QueryError (Query Product) :=
  match search.priceCondition? with
  | some condition => query.filterBy condition
  | none => .ok query

theorem narrow_eq (guard : SoftDelete) (query : Query Product) :
    search.narrow guard query =
      (search.keepLive guard query).bind fun live =>
        (search.keepCategory live).bind search.keepPrices := by
  unfold narrow keepLive keepCategory
  cases search.live <;> cases search.category <;> rfl

theorem keepLive_comesTo (guard : SoftDelete) (comesTo : ComesTo query products) :
    ∃ narrowed, search.keepLive guard query = .ok narrowed ∧
      ComesTo narrowed (products.filter fun product =>
        !search.live || guard.passes schema product.toRecord) := by
  unfold keepLive
  cases search.live with
  | false => exact ⟨query, rfl, comesTo.all fun _ => rfl⟩
  | true =>
    obtain ⟨live, made, sameSchema, ran⟩ := Query.exists_filterLive guard comesTo.ran
    rw [comesTo.schema, filter_rows] at ran
    exact ⟨live, made, sameSchema.trans comesTo.schema, ran⟩

theorem categoryPredicate_realizes (name : String) :
    ∃ predicate, categoryPredicate schema name = .ok predicate ∧
      predicate.Realizes fun record =>
        Comparison.equal.ofSlot (categoryNamePath.read record) (.text name) ||
          Comparison.equal.ofSlot (parentNamePath.read record) (.text name) := by
  have toCategoryName : schema.resolve "Category.Name" = .ok categoryNamePath := rfl
  have toParentName : schema.resolve "Category.Parent.Name" = .ok parentNamePath := rfl
  have equality : Comparison.equal.isOrdering ≠ true := Bool.noConfusion
  obtain ⟨direct, directBuilt, direct⟩ := Condition.compare_realizes .equal toCategoryName
    (absurd · equality) (show categoryNamePath.convertConstant (.text name) = .ok _ from rfl)
  obtain ⟨above, aboveBuilt, above⟩ := Condition.compare_realizes .equal toParentName
    (absurd · equality) (show parentNamePath.convertConstant (.text name) = .ok _ from rfl)
  refine ⟨_, ?_, direct.disjunction above⟩
  rw [categoryPredicate, directBuilt, aboveBuilt]
  rfl

theorem keepCategory_comesTo (comesTo : ComesTo query products) :
    ∃ narrowed, search.keepCategory query = .ok narrowed ∧
      ComesTo narrowed (products.filter fun product => search.category.all product.isIn) := by
  unfold keepCategory
  cases search.category with
  | none => exact ⟨query, rfl, comesTo.all fun _ => rfl⟩
  | some name =>
    obtain ⟨predicate, built, realizes⟩ := categoryPredicate_realizes name
    refine ⟨query.filter predicate, ?_, comesTo.filter realizes fun product => ?_⟩
    · rw [comesTo.schema]
      exact map_eq_ok_iff.mpr ⟨predicate, built, rfl⟩
    · rw [equal_ofSlot_categoryName, equal_ofSlot_parentName]
      cases found : product.category <;> simp [Product.isIn, found]

/-- Whether a condition can be built and tests the price of a product by the bounds of a search. -/
def TestsPrice (condition : Condition) : Prop :=
  ∃ predicate test, condition.toPredicate schema = .ok predicate ∧ predicate.Realizes test ∧
    ∀ product : Product, test product.toRecord = search.admitsPrice product.price

/-- The bounds of a search make a condition on the price, unless there are none. -/
theorem priceCondition?_cases :
    (∃ condition, search.priceCondition? = some condition ∧ search.TestsPrice condition) ∨
      search.priceCondition? = none ∧ ∀ price, search.admitsPrice price = true := by
  have toPrice : schema.resolve "Price" = .ok pricePath := rfl
  have converted (bound : Double) : pricePath.convertConstant (.float bound) = .ok (.float bound) :=
    rfl
  have reads (product : Product) :
      pricePath.read product.toRecord = .value (.float product.price) := rfl
  unfold TestsPrice priceCondition? admitsPrice
  cases search.minPrice with
  | none =>
    cases search.maxPrice with
    | none => exact .inr ⟨rfl, fun _ => rfl⟩
    | some high =>
      obtain ⟨predicate, built, realizes⟩ :=
        Condition.compare_realizes .lessOrEqual toPrice (fun _ => rfl) (converted high)
      refine .inl ⟨_, rfl, predicate, _, built, realizes, fun product => ?_⟩
      rw [reads, Comparison.lessOrEqual_ofSlot_float]
      rfl
  | some low =>
    cases search.maxPrice with
    | none =>
      obtain ⟨predicate, built, realizes⟩ :=
        Condition.compare_realizes .greaterOrEqual toPrice (fun _ => rfl) (converted low)
      refine .inl ⟨_, rfl, predicate, _, built, realizes, fun product => ?_⟩
      rw [reads, Comparison.greaterOrEqual_ofSlot_float]
      exact (Bool.and_true _).symm
    | some high =>
      obtain ⟨predicate, built, realizes⟩ :=
        Condition.between_realizes toPrice rfl (converted low) (converted high)
      refine .inl ⟨_, rfl, predicate, _, built, realizes, fun product => ?_⟩
      rw [reads, Comparison.greaterOrEqual_ofSlot_float, Comparison.lessOrEqual_ofSlot_float]
      rfl

theorem keepPrices_comesTo (comesTo : ComesTo query products) :
    ∃ narrowed, search.keepPrices query = .ok narrowed ∧
      ComesTo narrowed (products.filter fun product => search.admitsPrice product.price) := by
  unfold keepPrices
  rcases search.priceCondition?_cases with ⟨condition, made, tests⟩ | ⟨unbounded, all⟩
  · obtain ⟨predicate, test, built, realizes, same⟩ := tests
    rw [made]
    refine ⟨query.filter predicate, ?_, comesTo.filter realizes same⟩
    show (condition.toPredicate query.schema).map query.filter = _
    rw [comesTo.schema]
    exact map_eq_ok_iff.mpr ⟨predicate, built, rfl⟩
  · rw [unbounded]
    exact ⟨query, rfl, comesTo.all fun product => all product.price⟩

/-- Narrowing a catalog never fails, and lets just those products through that the search admits. -/
theorem exists_narrow (guard : SoftDelete) (products : List Product) :
    ∃ narrowed, search.narrow guard (.ofDataset (dataset products)) = .ok narrowed ∧
      ComesTo narrowed (products.filter (search.admits guard)) := by
  obtain ⟨live, madeLive, comesToLive⟩ := search.keepLive_comesTo guard (comesTo_ofDataset products)
  obtain ⟨within, madeWithin, comesToWithin⟩ := search.keepCategory_comesTo comesToLive
  obtain ⟨priced, madePriced, comesToPriced⟩ := search.keepPrices_comesTo comesToWithin
  refine ⟨priced, ?_, ?_⟩
  · rw [narrow_eq]
    exact bind_eq_ok_iff.mpr ⟨live, madeLive, bind_eq_ok_iff.mpr ⟨within, madeWithin, madePriced⟩⟩
  · have conjoined (product : Product) : search.admits guard product =
        (search.admitsPrice product.price && search.category.all product.isIn &&
          (!search.live || guard.passes schema product.toRecord)) := by
      rw [admits, Bool.and_comm, Bool.and_comm (search.category.all _)]
    rw [List.filter_filter, List.filter_filter] at comesToPriced
    rwa [funext conjoined]

end Search

end Catalog

end RecordQuery

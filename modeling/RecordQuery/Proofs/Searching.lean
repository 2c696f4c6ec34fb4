/-
This file proves that a search ranks first and cuts last.

What a search shows are the first products of a ranking, as many as it asks for. The ranking itself
does not depend on their number. It is a stable sort of the products that the filters let through:
by text and vector together if there is a vector, by text if there are words only, and otherwise by
price and name. Products that no word is found in are left out if there are words only, and before
the cut.
-/

import RecordQuery.Proofs.Narrowing
import RecordQuery.Proofs.Paging
import RecordQuery.Proofs.Ranking

namespace RecordQuery.Catalog

open Number

/-! ### Rankings of products -/

namespace Search

/-- How well a product matches the words of a search. -/
def wordScore (search : Search) (product : Product) : Single :=
  product.textScore (search.query.getD "")

/-- How well a product matches the words and the vector of a search together. -/
def mixedScore (search : Search) (weights : Weights) (vector : List Single) (product : Product) :
    Single :=
  weights.text * search.wordScore product +
    weights.vector * Cosine.similarity product.embedding (some vector)

/-- Whether any of the words of a search is found in a product. -/
def matchesWords (search : Search) (product : Product) : Bool :=
  (search.wordScore product).compare? 0 == some .gt

/-- Products in the order of their prices, and of their names where these are level. -/
def compareByPrice (left right : Product) : Ordering :=
  ((Value.float left.price).totalCompare (.float right.price)).then
    ((Value.text left.name).totalCompare (.text right.name))

/-- Whether products are ranked as a search wants it, whatever number of them it asks for. -/
inductive Ranks (search : Search) (weights : Weights) (admitted ranked : List Product) : Prop where
  | byBoth {vector : List Single} : search.vector = some vector →
      StablySorted (Ranking.compareBy (search.mixedScore weights vector) true) admitted ranked →
        Ranks search weights admitted ranked
  | byWords : search.vector = none → search.hasBlankQuery = false →
      StablySorted (Ranking.compareBy search.wordScore true) (admitted.filter search.matchesWords)
        ranked → Ranks search weights admitted ranked
  | byPrice : search.vector = none → search.hasBlankQuery = true →
      StablySorted compareByPrice admitted ranked → Ranks search weights admitted ranked

/-- The path to the name of a product. -/
def namePath : Path :=
  ⟨[], ⟨⟨"Name", "Product", false, .text⟩, 2, .scalar .text⟩⟩

/-- The path to the vector of a product. -/
def embeddingPath : Path :=
  ⟨[], ⟨⟨"Embedding", "Product", true, .vector⟩, 8, .scalar .vector⟩⟩

/-- The key for the price of a product. -/
def priceKey : SortKey :=
  ⟨.field pricePath, .ascending, .primary⟩

/-- The key for the name of a product, which breaks the ties of the price. -/
def nameKey : SortKey :=
  ⟨.field namePath, .ascending, .thenBy⟩

/-- The ranking of some products. -/
def ranking (search : Search) (weights : Weights) (admitted : List Product) : List Product :=
  match search.vector with
  | some vector => Ranking.rankByScore (search.mixedScore weights vector) true admitted
  | none =>
    if search.hasBlankQuery then SortKey.sort [priceKey, nameKey] Product.toRecord admitted
    else (Ranking.rankByScore search.wordScore true admitted).filter search.matchesWords

variable {search : Search} {weights : Weights} {admitted : List Product}

theorem lexicographicOn_priceKey :
    SortKey.lexicographicOn [priceKey, nameKey] Product.toRecord = compareByPrice := by
  funext left right
  show (Ordering.then _ (Ordering.then _ .eq)) = compareByPrice left right
  rw [Ordering.then_eq]
  rfl

theorem ranks_ranking (search : Search) (weights : Weights) (admitted : List Product) :
    search.Ranks weights admitted (search.ranking weights admitted) := by
  unfold ranking
  split
  · rename_i vector given
    exact .byBoth given (Ranking.stablySorted_rankByScore _ true admitted)
  · rename_i noVector
    split
    · rename_i blank
      refine .byPrice noVector blank ?_
      rw [← lexicographicOn_priceKey]
      exact SortKey.stablySorted_sort [priceKey, nameKey] Product.toRecord admitted
    · rename_i notBlank
      have stable := Ranking.stablySorted_rankByScore search.wordScore true admitted
      exact .byWords noVector (Bool.eq_false_iff.mpr notBlank) (stable.filter search.matchesWords)

/-! ### Running a search -/

/-- The row of a product. -/
def rowOf (product : Product) : Row Product :=
  ⟨product, product.toRecord⟩

variable {query : Query Product}

theorem vector?_embedding (product : Product) :
    (embeddingPath.read product.toRecord).valueOrNull.vector? = product.embedding := by
  unfold Product.toRecord
  cases product.embedding <;> rfl

/-- A query that comes to some products can be sorted by their prices and names, and cut. -/
theorem materialize_cheapest (comesTo : ComesTo query admitted) (count : Nat) :
    ∃ priced named, query.orderBy "Price" .ascending = .ok priced ∧
      priced.thenBy "Name" .ascending = .ok named ∧
        (named.paginate 0 count).materialize =
          .ok ((SortKey.sort [priceKey, nameKey] Row.record (admitted.map rowOf)).take count) := by
  refine ⟨query.orderedBy priceKey, (query.orderedBy priceKey).refinedBy nameKey, ?_, ?_, ?_⟩
  · rw [Query.orderBy, SortKey.byField, comesTo.schema]
    rfl
  · show (SortKey.byField query.schema "Name" .ascending .thenBy).map _ = _
    rw [SortKey.byField, comesTo.schema]
    rfl
  · have sorted : ((query.orderedBy priceKey).refinedBy nameKey).materialize =
        query.materialize.map (SortKey.sort [priceKey, nameKey] Row.record) :=
      Query.materialize_enact_chain query priceKey [nameKey]
    rw [Query.materialize_paginate, sorted, comesTo.ran]
    rfl

/-- The rows that a search ranks begin as the ranking does, as far as the search asks for it. -/
theorem rank_comesTo (search : Search) (weights : Weights) (comesTo : ComesTo query admitted) :
    ∃ rows, search.rank weights query .never = .ok rows ∧
      rows.take search.topK = ((search.ranking weights admitted).take search.topK).map rowOf := by
  have awaited : query.awaitRows .never = .ok (admitted.map rowOf) := comesTo.ran
  unfold rank ranking
  cases search.vector with
  | some vector =>
    have found : query.vectorPath "Embedding" = .ok embeddingPath := by
      rw [Query.vectorPath, comesTo.schema]
      rfl
    have scores (product : Product) : Ranking.hybridScore weights (search.textScore (rowOf product))
        embeddingPath vector product.toRecord = search.mixedScore weights vector product := by
      rw [Ranking.hybridScore, vector?_embedding]
      rfl
    refine ⟨_, bind_eq_ok_iff.mpr ⟨embeddingPath, found, map_eq_ok_iff.mpr ⟨_, awaited, rfl⟩⟩, ?_⟩
    rw [Ranking.hybridRank, Ranking.rankByScore_map, ← List.map_take]
    exact congrArg (fun score =>
      ((Ranking.rankByScore score true admitted).take search.topK).map rowOf) (funext scores)
  | none =>
    dsimp only
    cases search.hasBlankQuery with
    | true =>
      obtain ⟨priced, named, byPrice, byName, ran⟩ := materialize_cheapest comesTo search.topK
      refine ⟨_, bind_eq_ok_iff.mpr ⟨priced, byPrice, bind_eq_ok_iff.mpr ⟨named, byName, ran⟩⟩, ?_⟩
      rw [List.take_take, Nat.min_self, SortKey.sort_map, ← List.map_take]
      rfl
    | false =>
      refine ⟨_, map_eq_ok_iff.mpr ⟨_, map_eq_ok_iff.mpr ⟨_, awaited, rfl⟩, rfl⟩, ?_⟩
      rw [Ranking.rankByScore_map, List.filter_map, ← List.map_take]
      rfl

/-- A product as a search shows it. -/
def shown (search : Search) (product : Product) : Projection :=
  (Projector.ofPaths schema search.fields).project schema product.toRecord

/-- The ranking of the products of a catalog that a search admits. -/
def rankingOf (search : Search) (settings : Settings) (products : List Product) : List Product :=
  search.ranking settings.weights (products.filter (search.admits settings.softDelete))

/-- A search that nobody gives up on never fails, and shows the first products of its ranking. -/
theorem run_eq (search : Search) (settings : Settings) (products : List Product) :
    search.run settings products .never =
      .ok (((search.rankingOf settings products).take search.topK).map search.shown) := by
  obtain ⟨query, narrowed, comesTo⟩ := search.exists_narrow settings.softDelete products
  obtain ⟨rows, ranked, first⟩ := search.rank_comesTo settings.weights comesTo
  refine bind_eq_ok_iff.mpr ⟨query, narrowed, bind_eq_ok_iff.mpr ⟨rows, ranked, ?_⟩⟩
  rw [first, Query.projectAll, comesTo.schema, List.map_map]
  rfl

/-- A search as it is, but for how many products it asks for. -/
def askingFor (search : Search) (count : Nat) : Search :=
  { search with topK := count }

/-- A ranking never has more products than the catalog. -/
theorem Ranks.length_le {ranked : List Product} (ranks : search.Ranks weights admitted ranked) :
    ranked.length ≤ admitted.length := by
  cases ranks with
  | byBoth _ stable | byPrice _ _ stable => exact stable.perm.length_eq.le
  | byWords _ _ stable => exact stable.perm.length_eq.le.trans (List.length_filter_le _ _)

/-- A search has one ranking of the products that it is narrowed to, whatever number of them it asks
for. Asked for as many products as the catalog has, or for more, it shows the whole ranking. Asked
for fewer, it shows the first of these. -/
theorem run_cuts_ranking (search : Search) (settings : Settings) (products : List Product) :
    ∃ query narrowed ranked,
      search.narrow settings.softDelete (.ofDataset (dataset products)) = .ok query ∧
        query.materialize = .ok (narrowed.map rowOf) ∧
        search.Ranks settings.weights narrowed ranked ∧
        ∀ enough, products.length ≤ enough →
          (search.askingFor enough).run settings products .never = .ok (ranked.map search.shown) ∧
            ∀ count, (search.askingFor count).run settings products .never =
              .ok ((ranked.map search.shown).take count) := by
  obtain ⟨query, narrowed, comesTo⟩ := search.exists_narrow settings.softDelete products
  have ranks := search.ranks_ranking settings.weights
    (products.filter (search.admits settings.softDelete))
  have ran (count : Nat) : (search.askingFor count).run settings products .never =
      .ok (((search.rankingOf settings products).take count).map search.shown) :=
    run_eq (search.askingFor count) settings products
  refine ⟨query, _, search.rankingOf settings products, narrowed, comesTo.ran, ranks,
    fun enough covers => ⟨?_, fun count => ?_⟩⟩
  · have short : (search.rankingOf settings products).length ≤ enough :=
      (ranks.length_le.trans (List.length_filter_le _ _)).trans covers
    rw [ran, List.take_of_length_le short]
  · rw [ran, List.map_take]

end Search

end RecordQuery.Catalog

/-
This file proves that the filters of a catalog are exact, and that summaries of it account for every
product once.

A search shows, and a summary counts, the products that the filters let through and no others.
Neither can fail in the filters. A summary has one entry for every key that these products have at
some field, and its counts add up to their number.
-/

import RecordQuery.Proofs.Grouping
import RecordQuery.Proofs.Running
import RecordQuery.Proofs.Searching
import RecordQuery.Proofs.Traversal

namespace RecordQuery

open Number

/-- Groups come from the rows of a query, by the key of a field. -/
theorem Query.groupBy_eq_ok {Label : Type} {query : Query Label} {text : String}
    {rows : List (Row Label)} {groups : List (Group (Row Label))}
    (ran : query.materialize = .ok rows) (grouped : query.groupBy text = .ok groups) :
    ∃ path, query.schema.resolve text = .ok path ∧
      groups = Grouping.groupBy (query.keyAt path) rows := by
  have planned := query.run_eq_plan (Terminal.groupBy text)
  rw [ran, Terminal.plan, bind_map] at planned
  obtain ⟨path, found, same⟩ := bind_eq_ok_iff.mp (planned.symm.trans grouped)
  exact ⟨path, Schema.resolve_of_resolveSuited found, (Except.ok.inj same).symm⟩

namespace Catalog

/-- Whether a summary is that of a group. -/
structure Summarizes (group : Group (Row Product)) (summary : GroupSummary) : Prop where
  key : summary.key = group.key.toValue
  count : summary.count = group.items.length
  average : Query.averageOf pricePath group.items = .ok summary.averagePrice

/-- Whether some summaries account for every one of some products: they are those of the groups that
the products make by their keys at a field, no two show the same key, and together they count every
product once. -/
structure Accounts (path : Path) (products : List Product) (groups : List (Group (Row Product)))
    (summaries : List GroupSummary) : Prop where
  partitions : Grouping.Partitions (fun row => Grouping.keyAt schema path row.record)
    (products.map Search.rowOf) groups
  summarized : List.Forall₂ Summarizes groups summaries
  distinct : (summaries.map GroupSummary.key).Nodup
  total : (summaries.map GroupSummary.count).sum = products.length

theorem summarizeGroup_eq_ok {group : Group (Row Product)} {summary : GroupSummary}
    (made : Search.summarizeGroup pricePath group = .ok summary) : Summarizes group summary := by
  obtain ⟨average, averaged, rfl⟩ := map_eq_ok_iff.mp made
  exact ⟨rfl, rfl, averaged⟩

section

variable {groups : List (Group (Row Product))} {summaries : List GroupSummary}

theorem keys_of_summarized (summarized : List.Forall₂ Summarizes groups summaries) :
    summaries.map GroupSummary.key = (Grouping.keys groups).map Key.toValue := by
  induction summarized with
  | nil => rfl
  | cons first _ inductionHypothesis => exact congrArg₂ List.cons first.key inductionHypothesis

theorem counts_of_summarized (summarized : List.Forall₂ Summarizes groups summaries) :
    (summaries.map GroupSummary.count).sum = Grouping.size groups := by
  induction summarized with
  | nil => rfl
  | cons first _ inductionHypothesis => exact congrArg₂ (· + ·) first.count inductionHypothesis

/-- Keys that are not the same are shown as different values. -/
theorem nodup_of_apart {keys : List Key}
    (apart : keys.Pairwise fun former latter => former.same latter = false) :
    (keys.map Key.toValue).Nodup := by
  refine List.pairwise_map.mpr (apart.imp fun {former latter} differ shown => ?_)
  rw [Key.eq_of_toValue_eq shown, Key.same_refl] at differ
  contradiction

end

/-- A summary that is made accounts for every product that the search admits. -/
theorem Search.accounts_of_summarize {search : Search} {settings : Settings}
    {products : List Product} {text : String} {summaries : List GroupSummary}
    (made : search.summarize settings products text = .ok summaries) :
    ∃ path groups, schema.resolve text = .ok path ∧
      Accounts path (products.filter (search.admits settings.softDelete)) groups summaries := by
  obtain ⟨query, narrowed, comesTo⟩ := search.exists_narrow settings.softDelete products
  obtain ⟨same, narrowedToo, made⟩ := bind_eq_ok_iff.mp made
  obtain rfl : query = same := Except.ok.inj (narrowed.symm.trans narrowedToo)
  obtain ⟨price, found, made⟩ := bind_eq_ok_iff.mp made
  obtain ⟨groups, grouped, made⟩ := bind_eq_ok_iff.mp made
  have priced : pricePath = price := by
    rw [comesTo.schema] at found
    exact Except.ok.inj found
  subst priced
  obtain ⟨path, resolved, rfl⟩ := Query.groupBy_eq_ok comesTo.ran grouped
  rw [comesTo.schema] at resolved
  have keyed : query.keyAt path = fun row => Grouping.keyAt schema path row.record := by
    funext row
    rw [Query.keyAt, comesTo.schema]
  rw [keyed] at made
  have partitions := Grouping.partitions_groupBy
    (fun row : Row Product => Grouping.keyAt schema path row.record)
    ((products.filter (search.admits settings.softDelete)).map rowOf)
  have summarized := (mapM_eq_ok_iff.mp made).imp fun _ _ => summarizeGroup_eq_ok
  refine ⟨path, _, resolved, partitions, summarized, ?_, ?_⟩
  · rw [keys_of_summarized summarized]
    exact nodup_of_apart partitions.apart
  · rw [counts_of_summarized summarized]
    exact (Grouping.size_groupBy _ _).trans (List.length_map _)

/-- The filters of a search are exact and never fail, whatever catalog, settings and search.
Narrowing comes to just the products that the search admits, in their order, and so does a search
that nobody gives up on come to a result. A bound on the price that is not a number admits nothing.
A summary that is made accounts for every product that is admitted. -/
theorem Search.narrows_exactly (search : Search) (settings : Settings) (products : List Product) :
    (∃ query, search.narrow settings.softDelete (.ofDataset (dataset products)) = .ok query ∧
        query.materialize =
          .ok ((products.filter (search.admits settings.softDelete)).map rowOf)) ∧
      (∃ shown, search.run settings products .never = .ok shown) ∧
      (∀ bound : Double, search.minPrice = some bound ∨ search.maxPrice = some bound →
        bound.isNaN = true → products.filter (search.admits settings.softDelete) = []) ∧
      ∀ text summaries, search.summarize settings products text = .ok summaries →
        ∃ path groups, schema.resolve text = .ok path ∧
          Accounts path (products.filter (search.admits settings.softDelete)) groups summaries := by
  obtain ⟨query, narrowed, comesTo⟩ := search.exists_narrow settings.softDelete products
  refine ⟨⟨query, narrowed, comesTo.ran⟩, ⟨_, search.run_eq settings products⟩, ?_, ?_⟩
  · intro bound asked unordered
    refine List.filter_eq_nil_iff.mpr fun product _ => ?_
    rw [admits_of_isNaN asked unordered]
    exact Bool.false_ne_true
  · exact fun text summaries made => accounts_of_summarize made

end Catalog

end RecordQuery

/-
This file proves that filters and orderings trade places.

An ordering and the refinements that follow it are a chain, which sorts once by all its keys.
Sorting changes neither which rows there are nor on which of them a predicate has an answer, and it
keeps rows that are level in the order they came in, whichever others are dropped. So a filter
before a chain and the same filter after it come to the same rows in the same order. They also fail
alike, although each may come upon another faulty row first.
-/

import RecordQuery.Proofs.Replay

namespace RecordQuery

variable {Label : Type}

/-! ### Samples -/

/-- The order of points from the right to the left, and from the bottom up where they are level. -/
def Sample.fromTheRight : List Call :=
  [.orderBy "X" .descending, .thenBy "Y" .ascending]

/-- A point lies to the left of three. -/
def Sample.leftOfThree : Predicate :=
  .comparison ⟨⟨[], toX⟩, .field⟩ .less (.int 3)

/-! ### Chains -/

/-- Whether some calls are an ordering and, after it, refinements of it. -/
def Call.IsChain : List Call → Prop
  | [] => False
  | first :: later => first.role = .ordering ∧ ∀ call ∈ later, call.role = .refinement

/-- The effects of a chain are an ordering and refinements of it. -/
theorem Call.IsChain.effects {schema : Schema} {chain : List Call} {effects : List Effect}
    (isChain : Call.IsChain chain) (checked : Call.effects schema chain = .ok effects) :
    ∃ (key : SortKey) (keys : List SortKey), effects = .order key :: keys.map Effect.refine := by
  cases chain with
  | nil => exact isChain.elim
  | cons first later =>
    obtain ⟨begins, refining⟩ := isChain
    obtain ⟨effect, checkedFirst, rest⟩ := bind_eq_ok_iff.mp checked
    obtain ⟨effects, checkedLater, rfl⟩ := map_eq_ok_iff.mp rest
    obtain ⟨keys, rfl⟩ := Call.effects_of_refinements refining checkedLater
    cases effect with
    | none =>
      obtain ⟨guard, rfl, _⟩ := Call.effect?_eq_none_iff.mp checkedFirst
      contradiction
    | some effect =>
      have role := (Call.role_of_effect? checkedFirst).1.trans begins
      cases effect with
      | order key => exact ⟨key, keys, rfl⟩
      | filter | page | refine => contradiction

namespace Query

variable {query : Query Label}

/-- A call that finds the ordering it needs fails in its checks or not at all. -/
theorem call_eq_map_effect? {call : Call}
    (allowed : call.role = .refinement → query.ordered = true) :
    query.call call = (call.effect? query.schema).map query.enactAny := by
  cases checked : call.effect? query.schema with
  | ok effect => exact call_eq_ok_iff.mpr ⟨effect, checked, allowed, rfl⟩
  | error fault =>
    cases call with
    | filter | paginate => contradiction
    | filterBy | filterLive | orderBy | orderBySimilarity =>
      exact map_eq_error_iff.mpr (map_eq_error_iff.mp checked)
    | thenBy | thenBySimilarity =>
      exact (if_pos (allowed rfl)).trans (map_eq_error_iff.mpr (map_eq_error_iff.mp checked))

/-- The query that some calls make, where all that can go wrong is a check. -/
def enactChecked (query : Query Label) (calls : List Call) : Except QueryError (Query Label) :=
  (Call.effects query.schema calls).map fun effects => effects.foldl enact query

theorem enactChecked_cons (call : Call) (calls : List Call) :
    query.enactChecked (call :: calls) =
      (call.effect? query.schema).bind fun effect => (query.enactAny effect).enactChecked calls := by
  unfold enactChecked
  rw [Call.effects]
  cases call.effect? query.schema with
  | error fault => rfl
  | ok effect =>
    show ((Call.effects query.schema calls).map _).map _ = (Call.effects _ calls).map _
    rw [map_map, enactAny_schema]
    cases effect <;> rfl

/-- An ordering or a refinement, once it is checked, leaves a query that is ordered. -/
theorem enactAny_ordered {call : Call} {effect : Option Effect}
    (checked : call.effect? query.schema = .ok effect) (sorts : call.role.leavesOrdered = true) :
    (query.enactAny effect).ordered = true := by
  cases effect with
  | none =>
    obtain ⟨guard, rfl, _⟩ := Call.effect?_eq_none_iff.mp checked
    contradiction
  | some effect =>
    rw [← (Call.role_of_effect? checked).1] at sorts
    exact (enact_ordered query effect).trans sorts

/-- Calls only fail in their checks if the first one finds the ordering it needs and those after it
only fail in theirs. -/
theorem callAll_cons_eq_enactChecked {call : Call} {calls : List Call}
    (allowed : call.role = .refinement → query.ordered = true)
    (later : ∀ effect, call.effect? query.schema = .ok effect →
      (query.enactAny effect).callAll calls = (query.enactAny effect).enactChecked calls) :
    query.callAll (call :: calls) = query.enactChecked (call :: calls) := by
  rw [callAll, call_eq_map_effect? allowed, bind_map, enactChecked_cons]
  cases checked : call.effect? query.schema with
  | error fault => rfl
  | ok effect => exact later effect checked

theorem callAll_refinements {calls : List Call} (refining : ∀ call ∈ calls, call.role = .refinement)
    (ordered : query.ordered = true) : query.callAll calls = query.enactChecked calls := by
  induction calls generalizing query with
  | nil => rfl
  | cons call calls inductionHypothesis =>
    obtain ⟨refines, refining⟩ := List.forall_mem_cons.mp refining
    refine callAll_cons_eq_enactChecked (fun _ => ordered) fun effect checked => ?_
    exact inductionHypothesis refining (enactAny_ordered checked (by rw [refines]; rfl))

/-- A chain only fails in its checks, whatever query it is called on. -/
theorem callAll_chain {chain : List Call} (isChain : Call.IsChain chain) (query : Query Label) :
    query.callAll chain = query.enactChecked chain := by
  cases chain with
  | nil => exact isChain.elim
  | cons first later =>
    obtain ⟨begins, refining⟩ := isChain
    refine callAll_cons_eq_enactChecked (fun refines => ?_) fun effect checked => ?_
    · rw [begins] at refines
      contradiction
    · exact callAll_refinements refining (enactAny_ordered checked (by rw [begins]; rfl))

/-- What follows a chain comes to a result if the checks of the chain succeed and it comes to that
result on the query that the keys of the chain make. -/
theorem callAll_chain_bind_eq_ok_iff {Result : Type} {chain : List Call}
    (isChain : Call.IsChain chain) (query : Query Label)
    {work : Query Label → Except QueryError Result} {result : Result} :
    (query.callAll chain).bind work = .ok result ↔
      ∃ (key : SortKey) (keys : List SortKey),
        Call.effects query.schema chain = .ok (.order key :: keys.map Effect.refine) ∧
          work ((keys.map Effect.refine).foldl enact (query.enact (.order key))) = .ok result := by
  rw [callAll_chain isChain, enactChecked, bind_map, bind_eq_ok_iff]
  constructor
  · rintro ⟨effects, checked, ran⟩
    obtain ⟨key, keys, rfl⟩ := isChain.effects checked
    exact ⟨key, keys, checked, ran⟩
  · rintro ⟨key, keys, checked, ran⟩
    exact ⟨_, checked, ran⟩

end Query

/-! ### Filters before and after -/

section

variable {predicate : Predicate} {keys : List SortKey} {rows others sorted : List (Row Label)}

/-- Whether a predicate has an answer on all rows does not depend on their order. -/
theorem Predicate.answersAll_perm (exchanged : rows.Perm others) :
    predicate.AnswersAll rows ↔ predicate.AnswersAll others :=
  forall_congr' fun _ => imp_congr_left exchanged.mem_iff

/-- Whether a predicate has an answer on all of some rows, and what it accepts of them, stably
sorted by some keys, is this. -/
def Predicate.KeepsSorted (predicate : Predicate) (keys : List SortKey)
    (rows sorted : List (Row Label)) : Prop :=
  predicate.AnswersAll rows ∧
    StablySorted (SortKey.lexicographicOn keys Row.record)
      (rows.filter fun row => predicate.accepts row.record) sorted

theorem Stage.filterRows_then_sort_eq_ok_iff :
    (filterRows predicate rows).map (SortKey.sort keys Row.record) = .ok sorted ↔
      predicate.KeepsSorted keys rows sorted := by
  rw [Predicate.KeepsSorted, SortKey.stablySorted_iff, map_eq_ok_iff]
  simp only [filterRows_eq_ok_iff]
  constructor
  · rintro ⟨_, ⟨answers, rfl⟩, same⟩
    exact ⟨answers, same⟩
  · rintro ⟨answers, same⟩
    exact ⟨_, ⟨answers, rfl⟩, same⟩

theorem Stage.sort_then_filterRows_eq_ok_iff :
    filterRows predicate (SortKey.sort keys Row.record rows) = .ok sorted ↔
      predicate.KeepsSorted keys rows sorted := by
  have exchanged := (SortKey.stablySorted_sort keys Row.record rows).perm
  rw [Predicate.KeepsSorted, SortKey.stablySorted_iff, filterRows_eq_ok_iff, SortKey.sort_filter,
    Predicate.answersAll_perm exchanged, eq_comm]

end

namespace Query

variable {chain : List Call} {predicate : Predicate} {sorted : List (Row Label)}

/-- Whether the checks of a chain succeed, a query comes to rows on all of which a filter has an
answer, and what it keeps of them, stably sorted by the keys of the chain, is this. -/
def SortsKept (query : Query Label) (predicate : Predicate) (chain : List Call)
    (sorted : List (Row Label)) : Prop :=
  ∃ (key : SortKey) (keys : List SortKey),
    Call.effects query.schema chain = .ok (.order key :: keys.map Effect.refine) ∧
      ∃ rows, query.materialize = .ok rows ∧
        predicate.normalize.KeepsSorted (key :: keys) rows sorted

theorem filter_then_chain_eq_ok_iff (isChain : Call.IsChain chain) (query : Query Label) :
    ((query.filter predicate).callAll chain).bind materialize = .ok sorted ↔
      query.SortsKept predicate chain sorted := by
  rw [callAll_chain_bind_eq_ok_iff isChain]
  refine exists₂_congr fun key keys => and_congr_right fun _ => ?_
  simp only [materialize_enact_chain, map_eq_ok_iff, materialize_filter_eq_ok_iff,
    ← Stage.filterRows_then_sort_eq_ok_iff]
  constructor
  · rintro ⟨kept, ⟨rows, ran, passed⟩, same⟩
    exact ⟨rows, ran, kept, passed, same⟩
  · rintro ⟨rows, ran, kept, passed, same⟩
    exact ⟨kept, ⟨rows, ran, passed⟩, same⟩

theorem chain_then_filter_eq_ok_iff (isChain : Call.IsChain chain) (query : Query Label) :
    ((query.callAll chain).bind fun ordered => (ordered.filter predicate).materialize) =
        .ok sorted ↔ query.SortsKept predicate chain sorted := by
  rw [callAll_chain_bind_eq_ok_iff isChain]
  refine exists₂_congr fun key keys => and_congr_right fun _ => ?_
  simp only [materialize_enact_chain, map_eq_ok_iff, materialize_filter_eq_ok_iff,
    ← Stage.sort_then_filterRows_eq_ok_iff]
  constructor
  · rintro ⟨_, ⟨rows, ran, rfl⟩, passed⟩
    exact ⟨rows, ran, passed⟩
  · rintro ⟨rows, ran, passed⟩
    exact ⟨_, ⟨rows, ran, rfl⟩, passed⟩

/-- A filter before a chain and the same filter after it come to the same rows in the same order, or
both fail. They come to something just where the checks of the chain succeed, the query comes to
rows, and the filter has an answer on all of these. -/
theorem filter_commutes_with_chain (isChain : Call.IsChain chain) (query : Query Label)
    (predicate : Predicate) :
    ((∃ sorted, ((query.filter predicate).callAll chain).bind materialize = .ok sorted ∧
          ((query.callAll chain).bind fun ordered => (ordered.filter predicate).materialize) =
            .ok sorted) ∨
        ∃ fault other, ((query.filter predicate).callAll chain).bind materialize = .error fault ∧
          ((query.callAll chain).bind fun ordered => (ordered.filter predicate).materialize) =
            .error other) ∧
      ∀ sorted, ((query.filter predicate).callAll chain).bind materialize = .ok sorted ↔
        query.SortsKept predicate chain sorted := by
  refine ⟨?_, fun sorted => filter_then_chain_eq_ok_iff isChain query⟩
  cases before : ((query.filter predicate).callAll chain).bind materialize with
  | ok sorted =>
    have kept := (filter_then_chain_eq_ok_iff isChain query).mp before
    exact .inl ⟨sorted, rfl, (chain_then_filter_eq_ok_iff isChain query).mpr kept⟩
  | error fault =>
    cases after : (query.callAll chain).bind fun ordered => (ordered.filter predicate).materialize with
    | ok sorted =>
      have kept := (chain_then_filter_eq_ok_iff isChain query).mp after
      rw [(filter_then_chain_eq_ok_iff isChain query).mpr kept] at before
      contradiction
    | error other => exact .inr ⟨fault, other, rfl, rfl⟩

/-- Of points that are sorted by one number, the greatest first, and by the other where they are
level, the same ones are left, whether those beyond three are dropped before or after. -/
theorem filter_commutes_with_chain_of_points :
    Call.IsChain Sample.fromTheRight ∧
      ∃ sorted, (((ofDataset Sample.points).filter Sample.leftOfThree).callAll
          Sample.fromTheRight).bind materialize = .ok sorted ∧
        (((ofDataset Sample.points).callAll Sample.fromTheRight).bind
          fun ordered => (ordered.filter Sample.leftOfThree).materialize) = .ok sorted := by
  have isChain : Call.IsChain Sample.fromTheRight := ⟨rfl, List.forall_mem_singleton.mpr rfl⟩
  refine ⟨isChain, ?_⟩
  rcases (filter_commutes_with_chain isChain (ofDataset Sample.points) Sample.leftOfThree).1 with
    same | ⟨_, _, failed, _⟩
  · exact same
  · contradiction

end Query

end RecordQuery

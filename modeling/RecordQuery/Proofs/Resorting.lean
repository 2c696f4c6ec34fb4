/-
This file proves that beginning an ordering anew refines it by the one before.

A stable sort leaves items that are level in the order they came in. So where items are sorted by
one order and then by another, the first decides between those that are level in the second, just as
if it broke the ties of the second. A chain of an ordering and its refinements therefore comes to
the same rows in the same order as orderings by the same keys, each begun anew, the last key first.
-/

import RecordQuery.Proofs.Reordering
import RecordQuery.Proofs.Traversal

namespace RecordQuery

open Number

/-! ### Sorting twice -/

section

variable {Item : Type} {first second : Item → Item → Ordering} {items middle sorted : List Item}

/-- The items that are level in two orders are those of one class that are level in the other. -/
theorem levelWith_compareLex (item : Item) (items : List Item) :
    levelWith (compareLex first second) item items =
      levelWith second item (levelWith first item items) := by
  simp only [levelWith, List.filter_filter, compareLex, Ordering.then_eq_eq, Bool.decide_and,
    Bool.and_comm]

/-- To sort stably by one order what is sorted stably by another is to sort by the one and to break
its ties by the other. -/
theorem StablySorted.sortedAgain [Std.TransCmp first] (inner : StablySorted second items middle)
    (outer : StablySorted first middle sorted) :
    StablySorted (compareLex first second) items sorted := by
  refine ⟨outer.perm.trans inner.perm, ?_, fun item => ?_⟩
  · refine List.pairwise_iff_forall_sublist.mpr fun {former latter} inTurn after => ?_
    have notAfter := List.pairwise_iff_forall_sublist.mp outer.ordered inTurn
    rcases Ordering.then_eq_gt.mp after with firstAfter | ⟨level, secondAfter⟩
    · exact notAfter firstAfter
    · -- Items that are level in the outer order stand as they stood in between.
      have self : first former former = .eq := Std.ReflCmp.compare_self
      have inClass : [former, latter].Sublist (levelWith first former sorted) := by
        have both : ∀ other ∈ [former, latter], decide (first former other = .eq) = true := by
          simp [self, level]
        exact List.filter_eq_self.mpr both ▸ inTurn.filter _
      rw [outer.stable former] at inClass
      exact List.pairwise_iff_forall_sublist.mp inner.ordered
        (inClass.trans List.filter_sublist) secondAfter
  · calc levelWith (compareLex first second) item sorted
      _ = levelWith second item (levelWith first item middle) := by
        rw [levelWith_compareLex, outer.stable item]
      _ = levelWith first item (levelWith second item middle) := levelWith_filter item _ middle
      _ = levelWith second item (levelWith first item items) := by
        rw [inner.stable item]
        exact (levelWith_filter item _ items).symm
      _ = levelWith (compareLex first second) item items := (levelWith_compareLex item items).symm

end

namespace SortKey

variable {Item : Type}

theorem lexicographic_append (keys others : List SortKey) (left right : Record) :
    lexicographic (keys ++ others) left right =
      (lexicographic keys left right).then (lexicographic others left right) := by
  induction keys with
  | nil => rfl
  | cons key keys inductionHypothesis =>
    rw [List.cons_append, lexicographic, lexicographic, inductionHypothesis, Ordering.then_assoc]

/-- Keys break the ties of those before them, whether they sort together or beforehand. -/
theorem sort_append (keys others : List SortKey) (recordOf : Item → Record) (items : List Item) :
    sort (keys ++ others) recordOf items = sort keys recordOf (sort others recordOf items) := by
  refine stablySorted_iff.mp ?_
  have same : @lexicographicOn Item (keys ++ others) recordOf =
      compareLex (lexicographicOn keys recordOf) (lexicographicOn others recordOf) :=
    funext₂ fun left right => lexicographic_append keys others (recordOf left) (recordOf right)
  rw [same]
  exact (stablySorted_sort others recordOf items).sortedAgain
    (stablySorted_sort keys recordOf (sort others recordOf items))

/-- A key that plays another part. -/
def inStage (stage : SortStage) (key : SortKey) : SortKey :=
  { key with stage := stage }

theorem lexicographic_map_inStage (stage : SortStage) (keys : List SortKey) (left right : Record) :
    lexicographic (keys.map (inStage stage)) left right = lexicographic keys left right := by
  induction keys with
  | nil => rfl
  | cons key keys inductionHypothesis =>
    rw [List.map_cons, lexicographic, lexicographic, inductionHypothesis]
    rfl

/-- The part that later keys play is the same for sorting as that of the first one. -/
theorem sort_cons_map_inStage (stage : SortStage) (key : SortKey) (keys : List SortKey)
    (recordOf : Item → Record) (items : List Item) :
    sort (key :: keys.map (inStage stage)) recordOf items = sort (key :: keys) recordOf items := by
  have same : @lexicographicOn Item (key :: keys.map (inStage stage)) recordOf =
      lexicographicOn (key :: keys) recordOf := by
    funext left right
    exact congrArg _ (lexicographic_map_inStage stage keys (recordOf left) (recordOf right))
  rw [sort_eq_mergeSort, sort_eq_mergeSort, same]

end SortKey

/-! ### Choices of keys -/

/-- What rows can be sorted by: a field, or the similarity of a vector field to a vector. -/
inductive SortChoice where
  | field (path : String) (direction : Direction)
  | similarity (path : String) (vector : List Single) (direction : Direction)

namespace SortChoice

/-- The primary key of a choice. -/
def key (schema : Schema) : SortChoice → Except QueryError SortKey
  | field path direction => SortKey.byField schema path direction .primary
  | similarity path vector direction => SortKey.bySimilarity schema path vector direction .primary

/-- The call that begins an ordering. -/
def begins : SortChoice → Call
  | field path direction => .orderBy path direction
  | similarity path vector direction => .orderBySimilarity path vector direction

/-- The call that goes on with an ordering. -/
def refines : SortChoice → Call
  | field path direction => .thenBy path direction
  | similarity path vector direction => .thenBySimilarity path vector direction

/-- The calls that order by the first of some choices and refine that by the others in turn. -/
def chain : List SortChoice → List Call
  | [] => []
  | first :: later => first.begins :: later.map refines

variable {schema : Schema} {choices : List SortChoice}

theorem effect?_begins (choice : SortChoice) :
    choice.begins.effect? schema = (choice.key schema).map fun key => some (.order key) := by
  cases choice <;> rfl

theorem effect?_refines (choice : SortChoice) :
    choice.refines.effect? schema =
      (choice.key schema).map fun key => some (.refine (key.inStage .thenBy)) := by
  cases choice with
  | field path direction =>
    rw [refines, key, Call.effect?, SortKey.byField, SortKey.byField, map_map, map_map]
    rfl
  | similarity path vector direction =>
    rw [refines, key, Call.effect?, SortKey.bySimilarity, SortKey.bySimilarity, map_map, map_map]
    rfl

/-- Calls that are checked as keys of choices have the effects of these keys. -/
theorem effects_map {callOf : SortChoice → Call} {effectOf : SortKey → Effect}
    (each : ∀ choice, (callOf choice).effect? schema =
      (choice.key schema).map fun key => some (effectOf key)) (choices : List SortChoice) :
    Call.effects schema (choices.map callOf) =
      (choices.mapM (key schema)).map (List.map effectOf) := by
  induction choices with
  | nil => rfl
  | cons choice choices inductionHypothesis =>
    rw [List.map_cons, Call.effects, each, inductionHypothesis, List.mapM_cons]
    cases choice.key schema with
    | error fault => rfl
    | ok key => cases choices.mapM (SortChoice.key schema) <;> rfl

/-- Keys can be had of choices in reverse just as in their order. -/
theorem mapM_key_reverse_eq_ok_iff {keys : List SortKey} :
    choices.reverse.mapM (key schema) = .ok keys.reverse ↔
      choices.mapM (key schema) = .ok keys := by
  rw [mapM_eq_ok_iff, mapM_eq_ok_iff, List.forall₂_reverse_iff]

end SortChoice

/-! ### Orderings begun anew -/

namespace Query

variable {Label : Type}

/-- Calls that begin orderings only fail in their checks. -/
theorem callAll_orderings {calls : List Call} (ordering : ∀ call ∈ calls, call.role = .ordering)
    (query : Query Label) : query.callAll calls = query.enactChecked calls := by
  induction calls generalizing query with
  | nil => rfl
  | cons call calls inductionHypothesis =>
    obtain ⟨begins, ordering⟩ := List.forall_mem_cons.mp ordering
    refine callAll_cons_eq_enactChecked (fun refines => ?_) fun effect _ =>
      inductionHypothesis ordering (query.enactAny effect)
    rw [begins] at refines
    contradiction

/-- Orderings that are begun one after the other sort by their keys, the last key first. -/
theorem materialize_orderings (query : Query Label) (keys : List SortKey) :
    ((keys.map Effect.order).foldl enact query).materialize =
      query.materialize.map (SortKey.sort keys.reverse Row.record) := by
  induction keys generalizing query with
  | nil => exact (id_map query.materialize).symm
  | cons key keys inductionHypothesis =>
    have ordered := materialize_enact_chain query key []
    rw [List.map_cons, List.foldl_cons, inductionHypothesis]
    rw [List.map_nil, List.foldl_nil] at ordered
    rw [ordered, map_map, List.reverse_cons]
    exact congrArg (query.materialize.map ·) (funext fun rows =>
      (SortKey.sort_append keys.reverse [key] Row.record rows).symm)

open SortChoice

theorem callAll_begins (query : Query Label) (choices : List SortChoice) :
    query.callAll (choices.map begins) =
      (choices.mapM (SortChoice.key query.schema)).map fun keys =>
        (keys.map Effect.order).foldl enact query := by
  have ordering : ∀ call ∈ choices.map begins, call.role = .ordering :=
    List.forall_mem_map.mpr fun choice _ => by cases choice <;> rfl
  rw [callAll_orderings ordering, enactChecked, effects_map effect?_begins, map_map]

/-- The effects of an ordering by the first of some keys, refined by the others in turn. -/
def chainEffects : List SortKey → List Effect
  | [] => []
  | key :: keys => .order key :: keys.map fun key => .refine (key.inStage .thenBy)

theorem callAll_chain_choices (query : Query Label) (choices : List SortChoice) :
    query.callAll (chain choices) =
      (choices.mapM (SortChoice.key query.schema)).map fun keys =>
        (chainEffects keys).foldl enact query := by
  cases choices with
  | nil => rfl
  | cons first later =>
    have isChain : Call.IsChain (chain (first :: later)) :=
      ⟨by cases first <;> rfl, List.forall_mem_map.mpr fun choice _ => by cases choice <;> rfl⟩
    rw [callAll_chain isChain, chain, enactChecked, Call.effects, effect?_begins,
      effects_map effect?_refines, List.mapM_cons]
    cases first.key query.schema with
    | error fault => rfl
    | ok key => cases later.mapM (SortChoice.key query.schema) <;> rfl

/-- An ordering and its refinements sort by their keys, the first key first. -/
theorem materialize_chainEffects (query : Query Label) (keys : List SortKey) :
    ((chainEffects keys).foldl enact query).materialize =
      query.materialize.map (SortKey.sort keys Row.record) := by
  cases keys with
  | nil => exact (id_map query.materialize).symm
  | cons key keys =>
    have chained := materialize_enact_chain query key (keys.map (SortKey.inStage .thenBy))
    rw [List.map_map] at chained
    exact chained.trans (congrArg (query.materialize.map ·) (funext fun rows =>
      SortKey.sort_cons_map_inStage .thenBy key keys Row.record rows))

/-- Rows that are ordered by some keys, ties of the first broken by the next and so on, come out in
the same order if orderings by the same keys are begun one after the other, the last key first. Both
come to the stable sort by the keys, or to the fault of the query. Where there is no key for a
choice, both sequences of calls fail, each with the fault of the choice that it comes to first. -/
theorem chain_eq_orderings_in_reverse (query : Query Label) (choices : List SortChoice) :
    (∃ keys refined reordered, choices.mapM (SortChoice.key query.schema) = .ok keys ∧
        query.callAll (chain choices) = .ok refined ∧
        query.callAll (choices.reverse.map begins) = .ok reordered ∧
        refined.materialize = query.materialize.map (SortKey.sort keys Row.record) ∧
        reordered.materialize = refined.materialize) ∨
      ∃ fault other, choices.mapM (SortChoice.key query.schema) = .error fault ∧
        choices.reverse.mapM (SortChoice.key query.schema) = .error other ∧
        query.callAll (chain choices) = .error fault ∧
        query.callAll (choices.reverse.map begins) = .error other := by
  rw [callAll_chain_choices, callAll_begins]
  cases built : choices.mapM (SortChoice.key query.schema) with
  | ok keys =>
    have reversed := mapM_key_reverse_eq_ok_iff.mpr built
    refine .inl ⟨keys, _, (keys.reverse.map Effect.order).foldl enact query, rfl, rfl,
      congrArg (Except.map _) reversed, materialize_chainEffects query keys, ?_⟩
    rw [materialize_orderings, List.reverse_reverse, materialize_chainEffects]
  | error fault =>
    obtain ⟨choice, member, refused⟩ := exists_mapM_eq_error_iff.mp ⟨fault, built⟩
    obtain ⟨other, failed⟩ :=
      exists_mapM_eq_error_iff.mpr ⟨choice, List.mem_reverse.mpr member, refused⟩
    exact .inr ⟨fault, other, rfl, failed, rfl, congrArg (Except.map _) failed⟩

/-- With two choices, an ordering that is refined stands against two orderings. -/
example (first second : SortChoice) :
    (chain [first, second], [first, second].reverse.map begins) =
      ([first.begins, second.refines], [second.begins, first.begins]) := rfl

end Query

end RecordQuery

/-
This file holds the calls that make one query from another as data, alone and in sequences.

A call is first checked, its path and constants against the schema, and then has at most one effect
on the query. Calls differ in what they check, but there are only four effects. What a call can do
is said once, by the effects, and everything about sequences of calls is derived from that.
-/

import RecordQuery.Proofs.Outcome
import RecordQuery.Query.Basic

namespace RecordQuery

open Number

/-- A call that makes a query from a query. -/
inductive Call where
  | filter (predicate : Predicate)
  | filterBy (condition : Condition)
  | filterLive (guard : SoftDelete)
  | orderBy (path : String) (direction : Direction)
  | thenBy (path : String) (direction : Direction)
  | orderBySimilarity (path : String) (vector : List Single) (direction : Direction)
  | thenBySimilarity (path : String) (vector : List Single) (direction : Direction)
  | paginate (skip take : Nat)

/-- What a call does to a query once it is checked. -/
inductive Effect where
  /-- It keeps the records on which a predicate holds. -/
  | filter (predicate : Predicate)
  /-- It begins an ordering. -/
  | order (key : SortKey)
  /-- It goes on with the ordering before it. -/
  | refine (key : SortKey)
  | page (skip take : Nat)

/-- What a call or an effect is to the ordering of a query. -/
inductive Role where
  /-- It takes records away, and there is nothing to go on with after it. -/
  | restriction
  /-- It begins an ordering. -/
  | ordering
  /-- It goes on with an ordering. -/
  | refinement
deriving DecidableEq

/-- Whether there is an ordering to go on with after a role. -/
def Role.leavesOrdered : Role → Bool
  | restriction => false
  | ordering | refinement => true

def Call.role : Call → Role
  | filter _ | filterBy _ | filterLive _ | paginate _ _ => .restriction
  | orderBy _ _ | orderBySimilarity _ _ _ => .ordering
  | thenBy _ _ | thenBySimilarity _ _ _ => .refinement

namespace Effect

def role : Effect → Role
  | filter _ | page _ _ => .restriction
  | order _ => .ordering
  | refine _ => .refinement

/-- Whether the key of an effect, if it has one, knows the part that it plays. -/
def KeyInPlace : Effect → Prop
  | order key => key.stage = .primary
  | refine key => key.stage = .thenBy
  | filter _ | page _ _ => True

/-- Whether some effects can be had in turn: a refinement only where there is an ordering. -/
def Admissible : Bool → List Effect → Prop
  | _, [] => True
  | ordered, effect :: effects =>
    (effect.role = .refinement → ordered = true) ∧ Admissible effect.role.leavesOrdered effects

end Effect

namespace Query

variable {Label : Type}

/-! ### Effects on queries -/

/-- The query after an effect. -/
def enact (query : Query Label) : Effect → Query Label
  | .filter predicate => query.filter predicate
  | .order key => query.orderedBy key
  | .refine key => query.refinedBy key
  | .page skip take => query.paginate skip take

@[simp] theorem enact_ordered (query : Query Label) (effect : Effect) :
    (query.enact effect).ordered = effect.role.leavesOrdered := by
  cases effect <;> rfl

@[simp] theorem enact_schema (query : Query Label) (effect : Effect) :
    (query.enact effect).schema = query.schema := by
  cases effect <;> rfl

end Query

namespace Call

/-- Checks a call. The effect it is to have is its result; a filter for live records has none if
nothing tells live records from others. -/
def effect? (schema : Schema) : Call → Except QueryError (Option Effect)
  | filter predicate => .ok (some (.filter predicate))
  | filterBy condition =>
    (condition.toPredicate schema).map fun predicate => some (.filter predicate)
  | filterLive guard => (guard.livePredicate schema).map fun predicate => predicate.map .filter
  | orderBy path direction =>
    (SortKey.byField schema path direction .primary).map fun key => some (.order key)
  | thenBy path direction =>
    (SortKey.byField schema path direction .thenBy).map fun key => some (.refine key)
  | orderBySimilarity path vector direction =>
    (SortKey.bySimilarity schema path vector direction .primary).map fun key => some (.order key)
  | thenBySimilarity path vector direction =>
    (SortKey.bySimilarity schema path vector direction .thenBy).map fun key => some (.refine key)
  | paginate skip take => .ok (some (.page skip take))

/-- Checks some calls. The effects they are to have are the result. -/
def effects (schema : Schema) : List Call → Except QueryError (List Effect)
  | [] => .ok []
  | call :: calls =>
    (call.effect? schema).bind fun effect =>
      (effects schema calls).map fun later => effect.toList ++ later

end Call

namespace SortKey

variable {schema : Schema} {path : String} {direction : Direction} {stage : SortStage}
  {key : SortKey}

theorem stage_of_byField (built : byField schema path direction stage = .ok key) :
    key.stage = stage := by
  obtain ⟨resolved, _, rfl⟩ := map_eq_ok_iff.mp built
  rfl

theorem stage_of_bySimilarity {vector : List Single}
    (built : bySimilarity schema path vector direction stage = .ok key) : key.stage = stage := by
  obtain ⟨resolved, _, rfl⟩ := map_eq_ok_iff.mp built
  rfl

end SortKey

/-- An effect has the role of its call, and its key knows the part that it plays. -/
theorem Call.role_of_effect? {schema : Schema} {call : Call} {effect : Effect}
    (checked : call.effect? schema = .ok (some effect)) :
    effect.role = call.role ∧ effect.KeyInPlace := by
  cases call with
  | filter | paginate =>
    cases checked
    exact ⟨rfl, trivial⟩
  | filterBy condition =>
    obtain ⟨predicate, _, same⟩ := map_eq_ok_iff.mp checked
    cases same
    exact ⟨rfl, trivial⟩
  | filterLive guard =>
    obtain ⟨predicate, _, same⟩ := map_eq_ok_iff.mp checked
    obtain ⟨predicate, _, rfl⟩ := Option.map_eq_some_iff.mp same
    exact ⟨rfl, trivial⟩
  | orderBy | thenBy =>
    obtain ⟨key, built, same⟩ := map_eq_ok_iff.mp checked
    cases same
    exact ⟨rfl, SortKey.stage_of_byField built⟩
  | orderBySimilarity | thenBySimilarity =>
    obtain ⟨key, built, same⟩ := map_eq_ok_iff.mp checked
    cases same
    exact ⟨rfl, SortKey.stage_of_bySimilarity built⟩

/-- Only a filter for live records may come to nothing. -/
theorem Call.effect?_eq_none_iff {schema : Schema} {call : Call} :
    call.effect? schema = .ok none ↔
      ∃ guard, call = .filterLive guard ∧ guard.livePredicate schema = .ok none := by
  refine ⟨fun checked => ?_, ?_⟩
  · cases call with
    | filterLive guard =>
      obtain ⟨predicate, built, same⟩ := map_eq_ok_iff.mp checked
      cases predicate with
      | none => exact ⟨guard, rfl, built⟩
      | some predicate => contradiction
    | filter | paginate => cases checked
    | filterBy | orderBy | thenBy | orderBySimilarity | thenBySimilarity =>
      obtain ⟨built, _, same⟩ := map_eq_ok_iff.mp checked
      contradiction
  · rintro ⟨guard, rfl, idle⟩
    exact map_eq_ok_iff.mpr ⟨none, idle, rfl⟩

/-- Calls that only refine an ordering have only refinements for effects. -/
theorem Call.effects_of_refinements {schema : Schema} {calls : List Call} {effects : List Effect}
    (refining : ∀ call ∈ calls, call.role = .refinement)
    (checked : Call.effects schema calls = .ok effects) :
    ∃ keys : List SortKey, effects = keys.map Effect.refine := by
  induction calls generalizing effects with
  | nil => exact ⟨[], (Except.ok.inj checked).symm⟩
  | cons call calls inductionHypothesis =>
    obtain ⟨first, checkedFirst, rest⟩ := bind_eq_ok_iff.mp checked
    obtain ⟨later, checkedLater, rfl⟩ := map_eq_ok_iff.mp rest
    obtain ⟨keys, rfl⟩ := inductionHypothesis
      (fun other member => refining other (List.mem_cons_of_mem call member)) checkedLater
    have refines := refining call List.mem_cons_self
    cases first with
    | none =>
      obtain ⟨guard, rfl, _⟩ := Call.effect?_eq_none_iff.mp checkedFirst
      contradiction
    | some effect =>
      have role := (Call.role_of_effect? checkedFirst).1.trans refines
      cases effect with
      | refine key => exact ⟨key :: keys, rfl⟩
      | filter | page | order => contradiction

namespace Query

variable {Label : Type}

/-! ### One call -/

/-- Makes a call. -/
def call (query : Query Label) : Call → Except QueryError (Query Label)
  | .filter predicate => .ok (query.filter predicate)
  | .filterBy condition => query.filterBy condition
  | .filterLive guard => query.filterLive guard
  | .orderBy path direction => query.orderBy path direction
  | .thenBy path direction => query.thenBy path direction
  | .orderBySimilarity path vector direction => query.orderBySimilarity path vector direction
  | .thenBySimilarity path vector direction => query.thenBySimilarity path vector direction
  | .paginate skip take => .ok (query.paginate skip take)

/-- The query after the effect of a call, or the query as it is if there is none. -/
def enactAny (query : Query Label) : Option Effect → Query Label
  | some effect => query.enact effect
  | none => query

/-- A call without an ordering to go on with fails if it is to refine one. -/
theorem refining_eq_ok_iff {query next : Query Label} {refinement : Refinement}
    {built : Except QueryError SortKey} :
    (if query.ordered then built.map query.refinedBy else .error (.orderingState refinement)) =
        .ok next ↔
      ∃ key, built = .ok key ∧ query.ordered = true ∧ query.refinedBy key = next := by
  cases ordered : query.ordered with
  | false => simp
  | true => simp [map_eq_ok_iff]

/-- A call that succeeds has been checked and has its effect, for which there is an ordering if it
needs one. -/
theorem call_eq_ok_iff {query next : Query Label} {call : Call} :
    query.call call = .ok next ↔
      ∃ effect, call.effect? query.schema = .ok effect ∧
        (call.role = .refinement → query.ordered = true) ∧ next = query.enactAny effect := by
  cases call with
  | filter | paginate =>
    refine ⟨fun made => ⟨_, rfl, nofun, (Except.ok.inj made).symm⟩, ?_⟩
    rintro ⟨effect, checked, _, rfl⟩
    cases checked
    rfl
  | filterBy condition =>
    refine ⟨fun made => ?_, ?_⟩
    · obtain ⟨predicate, built, rfl⟩ := map_eq_ok_iff.mp made
      exact ⟨_, map_eq_ok_iff.mpr ⟨predicate, built, rfl⟩, nofun, rfl⟩
    · rintro ⟨effect, checked, _, rfl⟩
      obtain ⟨predicate, built, rfl⟩ := map_eq_ok_iff.mp checked
      exact map_eq_ok_iff.mpr ⟨predicate, built, rfl⟩
  | filterLive guard =>
    refine ⟨fun made => ?_, ?_⟩
    · obtain ⟨predicate, built, rfl⟩ := map_eq_ok_iff.mp made
      refine ⟨_, map_eq_ok_iff.mpr ⟨predicate, built, rfl⟩, nofun, ?_⟩
      cases predicate <;> rfl
    · rintro ⟨effect, checked, _, rfl⟩
      obtain ⟨predicate, built, rfl⟩ := map_eq_ok_iff.mp checked
      refine map_eq_ok_iff.mpr ⟨predicate, built, ?_⟩
      cases predicate <;> rfl
  | orderBy | orderBySimilarity =>
    refine ⟨fun made => ?_, ?_⟩
    · obtain ⟨key, built, rfl⟩ := map_eq_ok_iff.mp made
      exact ⟨_, map_eq_ok_iff.mpr ⟨key, built, rfl⟩, nofun, rfl⟩
    · rintro ⟨effect, checked, _, rfl⟩
      obtain ⟨key, built, rfl⟩ := map_eq_ok_iff.mp checked
      exact map_eq_ok_iff.mpr ⟨key, built, rfl⟩
  | thenBy | thenBySimilarity =>
    refine ⟨fun made => ?_, ?_⟩
    · obtain ⟨key, built, ordered, rfl⟩ := refining_eq_ok_iff.mp made
      exact ⟨_, map_eq_ok_iff.mpr ⟨key, built, rfl⟩, fun _ => ordered, rfl⟩
    · rintro ⟨effect, checked, ordered, rfl⟩
      obtain ⟨key, built, rfl⟩ := map_eq_ok_iff.mp checked
      exact refining_eq_ok_iff.mpr ⟨key, built, ordered rfl, rfl⟩

@[simp] theorem enactAny_schema (query : Query Label) (effect : Option Effect) :
    (query.enactAny effect).schema = query.schema := by
  cases effect with
  | none => rfl
  | some effect => exact enact_schema query effect

/-! ### Sequences of calls -/

/-- Makes some calls in turn, up to the first that fails. -/
def callAll (query : Query Label) : List Call → Except QueryError (Query Label)
  | [] => .ok query
  | call :: calls => (query.call call).bind fun next => next.callAll calls

/-- Tries a call. If it fails, the query stays as it is. -/
def attempt (query : Query Label) (call : Call) : Query Label :=
  match query.call call with
  | .ok next => next
  | .error _ => query

/-- Tries some calls in turn. -/
def attemptAll (query : Query Label) (calls : List Call) : Query Label :=
  calls.foldl attempt query

/-- What every successful call preserves, every sequence of calls preserves. -/
theorem attemptAll_induction {Holds : Query Label → Prop}
    (preserved : ∀ {query next : Query Label} {call : Call},
      query.call call = .ok next → Holds query → Holds next)
    {query : Query Label} (holds : Holds query) (calls : List Call) :
    Holds (query.attemptAll calls) := by
  induction calls generalizing query with
  | nil => exact holds
  | cons call calls inductionHypothesis =>
    show Holds ((query.attempt call).attemptAll calls)
    apply inductionHypothesis
    unfold attempt
    split
    · rename_i made
      exact preserved made holds
    · exact holds

/-- Calls that all succeed have their effects in turn, and there is an ordering for every one that
needs one. -/
theorem callAll_eq_ok {query last : Query Label} {calls : List Call}
    (made : query.callAll calls = .ok last) :
    ∃ effects, Call.effects query.schema calls = .ok effects ∧
      Effect.Admissible query.ordered effects ∧ last = effects.foldl enact query := by
  induction calls generalizing query with
  | nil => exact ⟨[], rfl, trivial, (Except.ok.inj made).symm⟩
  | cons call calls inductionHypothesis =>
    obtain ⟨next, first, rest⟩ := bind_eq_ok_iff.mp made
    obtain ⟨effect, checked, ordered, rfl⟩ := call_eq_ok_iff.mp first
    obtain ⟨later, checkedLater, admissible, rfl⟩ := inductionHypothesis rest
    rw [enactAny_schema] at checkedLater
    refine ⟨effect.toList ++ later, ?_, ?_, ?_⟩
    · rw [Call.effects, checked, checkedLater]
      rfl
    · cases effect with
      | none => exact admissible
      | some effect =>
        have sameRole := (Call.role_of_effect? checked).1
        refine ⟨fun refining => ordered (sameRole ▸ refining), ?_⟩
        exact enact_ordered query effect ▸ admissible
    · cases effect <;> rfl

end Query

end RecordQuery

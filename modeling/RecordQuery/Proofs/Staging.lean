/-
This file proves what calls record, and when they leave an ordering that can be refined.

A query keeps two accounts of its orderings: the stages of its source, and whether it is ordered.
Calls keep the two in step. So a refinement always finds the ordering that it is to refine at the
end of the stages, and never has to begin one of its own.

A restriction ends an ordering, with one exception: a filter for live records where nothing tells
live records from others takes nothing away, records nothing, and leaves the ordering in place.
-/

import RecordQuery.Proofs.Calls
import RecordQuery.Proofs.Conditions
import RecordQuery.Proofs.Polarity

namespace RecordQuery

variable {Label : Type}

/-! ### Samples -/

/-- Records of two numbers. -/
def Sample.points : Dataset String where
  schema := ⟨[⟨"Point", [⟨"X", false, .scalar .int⟩, ⟨"Y", false, .scalar .int⟩]⟩]⟩
  rows :=
    [⟨"a", [.value (.int 3), .value (.int 1)]⟩,
      ⟨"b", [.value (.int 1), .value (.int 2)]⟩,
      ⟨"c", [.value (.int 2), .value (.int 1)]⟩,
      ⟨"d", [.value (.int 1), .value (.int 1)]⟩]

/-! ### The stage of an ordering -/

namespace Source

theorem refine_append (key : SortKey) (earlier : List Stage) (stage : Stage) :
    refine key (earlier ++ [stage]) = earlier ++ refine key [stage] := by
  induction earlier with
  | nil => rfl
  | cons first earlier inductionHypothesis =>
    cases earlier with
    | nil => cases first <;> rfl
    | cons second earlier =>
      cases first <;> exact congrArg (_ :: ·) inductionHypothesis

/-- A refinement of the ordering recorded last makes it a longer one. -/
theorem thenBy_push_order (source : Source Label) (keys : List SortKey) (key : SortKey) :
    (source.push (.order keys)).thenBy key = source.push (.order (keys ++ [key])) :=
  congrArg (Source.mk source.dataset source.service)
    (refine_append key source.stages (.order keys))

end Source

/-! ### What calls record -/

/-- Whether a stage is as calls record it. A filter is in normal form. An ordering begins with a
primary key, and all keys after it break ties. -/
def Stage.WellFormed : Stage → Prop
  | filter predicate => predicate.IsNormal
  | order keys => ∃ key refinements, keys = key :: refinements ∧ key.stage = .primary ∧
      ∀ refinement ∈ refinements, refinement.stage = .thenBy
  | skip _ | take _ => True

namespace Query

variable {query next : Query Label}

/-- Whether the two accounts that a query keeps of its orderings are in step, and its stages are as
calls record them. -/
structure WellStaged (query : Query Label) : Prop where
  ordered_iff : query.ordered = true ↔ ∃ keys, query.source.stages.getLast? = some (.order keys)
  stages : ∀ stage ∈ query.source.stages, stage.WellFormed

theorem wellStaged_ofDataset (dataset : Dataset Label) : (ofDataset dataset).WellStaged :=
  ⟨⟨nofun, nofun⟩, nofun⟩

/-- A stage is recorded rightly if the query is said to be ordered just where it is an ordering. -/
theorem wellStaged_push {source : Source Label} {stage : Stage} {ordered : Bool}
    (stages : ∀ earlier ∈ source.stages, earlier.WellFormed) (wellFormed : stage.WellFormed)
    (isOrder : ordered = true ↔ ∃ keys, stage = .order keys) :
    WellStaged ⟨source.push stage, ordered⟩ := by
  refine ⟨?_, fun recorded member => ?_⟩
  · show ordered = true ↔ ∃ keys, (source.stages ++ [stage]).getLast? = some (.order keys)
    rw [isOrder, List.getLast?_append, List.getLast?_singleton, Option.some_or]
    exact exists_congr fun keys => Option.some_inj.symm
  · rcases List.mem_append.mp member with earlier | last
    · exact stages recorded earlier
    · exact List.mem_singleton.mp last ▸ wellFormed

/-- The ordering of a query that is ordered is the last stage of its source. -/
theorem WellStaged.exists_order (staged : query.WellStaged) (ordered : query.ordered = true) :
    ∃ (earlier : Source Label) (keys : List SortKey),
      query.source = earlier.push (.order keys) := by
  obtain ⟨keys, last⟩ := staged.ordered_iff.mp ordered
  obtain ⟨earlier, stages⟩ := List.getLast?_eq_some_iff.mp last
  exact ⟨⟨query.source.dataset, query.source.service, earlier⟩, keys,
    congrArg (Source.mk query.source.dataset query.source.service) stages⟩

/-- Effects record stages rightly if their keys know the parts that they play and no refinement
stands without an ordering. -/
theorem WellStaged.enact (staged : query.WellStaged) {effect : Effect}
    (inPlace : effect.KeyInPlace) (ordered : effect.role = .refinement → query.ordered = true) :
    (query.enact effect).WellStaged := by
  cases effect with
  | filter predicate =>
    exact wellStaged_push staged.stages predicate.isNormal_polarities.1 ⟨nofun, nofun⟩
  | order key =>
    have alone : (Stage.order [key]).WellFormed := ⟨key, [], rfl, inPlace, nofun⟩
    exact wellStaged_push staged.stages alone ⟨fun _ => ⟨[key], rfl⟩, fun _ => rfl⟩
  | page skip take =>
    have skipped : WellStaged ⟨query.source.push (.skip skip), false⟩ :=
      wellStaged_push staged.stages trivial ⟨nofun, nofun⟩
    exact wellStaged_push skipped.stages trivial ⟨nofun, nofun⟩
  | refine key =>
    -- The stage to refine is the last one, and the only one that changes.
    obtain ⟨earlier, keys, source⟩ := staged.exists_order (ordered rfl)
    have recorded : ∀ stage ∈ earlier.stages ++ [.order keys], stage.WellFormed := by
      have stages := staged.stages
      rwa [source] at stages
    obtain ⟨first, refinements, rfl, isPrimary, areThenBy⟩ :=
      recorded _ List.mem_concat_self
    have longer : (Stage.order (first :: refinements ++ [key])).WellFormed := by
      refine ⟨first, refinements ++ [key], rfl, isPrimary, fun refinement member => ?_⟩
      rcases List.mem_append.mp member with before | last
      · exact areThenBy refinement before
      · exact List.mem_singleton.mp last ▸ inPlace
    show WellStaged ⟨query.source.thenBy key, true⟩
    rw [source, Source.thenBy_push_order]
    exact wellStaged_push (fun stage member => recorded stage (List.mem_append_left _ member))
      longer ⟨fun _ => ⟨_, rfl⟩, fun _ => rfl⟩

theorem WellStaged.call {call : Call} (made : query.call call = .ok next)
    (staged : query.WellStaged) : next.WellStaged := by
  obtain ⟨effect, checked, ordered, rfl⟩ := call_eq_ok_iff.mp made
  cases effect with
  | none => exact staged
  | some effect =>
    obtain ⟨sameRole, inPlace⟩ := Call.role_of_effect? checked
    exact staged.enact inPlace fun refining => ordered (sameRole ▸ refining)

/-- A refinement that succeeds makes the ordering in the last stage longer. -/
theorem WellStaged.refinement {call : Call} (staged : query.WellStaged)
    (isRefinement : call.role = .refinement) (made : query.call call = .ok next) :
    ∃ (earlier : Source Label) (keys : List SortKey) (key : SortKey),
      query.source = earlier.push (.order keys) ∧
        next.source = earlier.push (.order (keys ++ [key])) := by
  obtain ⟨effect, checked, ordered, rfl⟩ := call_eq_ok_iff.mp made
  obtain ⟨earlier, keys, source⟩ := staged.exists_order (ordered isRefinement)
  cases effect with
  | none =>
    obtain ⟨guard, rfl, _⟩ := Call.effect?_eq_none_iff.mp checked
    contradiction
  | some effect =>
    have sameRole := (Call.role_of_effect? checked).1
    rw [isRefinement] at sameRole
    cases effect with
    | filter | order | page => contradiction
    | refine key =>
      refine ⟨earlier, keys, key, source, ?_⟩
      rw [← Source.thenBy_push_order, ← source]
      rfl

end Query

/-- Whatever calls are tried on a dataset, the query that they leave is ordered just where the last
stage is an ordering, every ordering begins with a primary key which others refine, and every
filter is in normal form. A refinement makes the ordering in the last stage longer. -/
theorem wellStaged_attemptAll (dataset : Dataset Label) (calls : List Call) :
    ((Query.ofDataset dataset).attemptAll calls).WellStaged ∧
      ∀ call next, call.role = .refinement →
        ((Query.ofDataset dataset).attemptAll calls).call call = .ok next →
          ∃ (earlier : Source Label) (keys : List SortKey) (key : SortKey),
            ((Query.ofDataset dataset).attemptAll calls).source = earlier.push (.order keys) ∧
              next.source = earlier.push (.order (keys ++ [key])) := by
  have staged : ((Query.ofDataset dataset).attemptAll calls).WellStaged :=
    Query.attemptAll_induction Query.WellStaged.call (Query.wellStaged_ofDataset dataset) calls
  exact ⟨staged, fun call next isRefinement made => staged.refinement isRefinement made⟩

/-- The ordering of points by one number is refined by the other. -/
theorem wellStaged_attemptAll_of_points :
    ∃ next, ((Query.ofDataset Sample.points).attemptAll [.orderBy "X" .ascending]).call
        (.thenBy "Y" .ascending) = .ok next ∧
      ∃ (earlier : Source String) (keys : List SortKey) (key : SortKey),
        ((Query.ofDataset Sample.points).attemptAll [.orderBy "X" .ascending]).source =
            earlier.push (.order keys) ∧
          next.source = earlier.push (.order (keys ++ [key])) :=
  ⟨_, rfl, (wellStaged_attemptAll Sample.points [.orderBy "X" .ascending]).2
    (.thenBy "Y" .ascending) _ rfl rfl⟩

/-! ### Where orderings end -/

/-- Whether a call is a filter for live records in a schema where nothing tells live records from
others. -/
def Call.IsIdle (schema : Schema) : Call → Prop
  | filterLive guard => guard.IsIdle schema
  | _ => False

theorem Call.isIdle_iff {schema : Schema} {call : Call} :
    call.IsIdle schema ↔ call.effect? schema = .ok none := by
  rw [Call.effect?_eq_none_iff]
  refine ⟨fun idle => ?_, ?_⟩
  · cases call with
    | filterLive guard => exact ⟨guard, rfl, SoftDelete.livePredicate_eq_none_iff.mpr idle⟩
    | filter | filterBy | orderBy | thenBy | orderBySimilarity | thenBySimilarity | paginate =>
      exact idle.elim
  · rintro ⟨guard, rfl, idle⟩
    exact SoftDelete.livePredicate_eq_none_iff.mp idle

/-- A path never fails for want of an ordering. -/
theorem Schema.resolveSuited_ne_orderingState {schema : Schema} {text : String}
    {suits : Kind → Bool} {unsuited : String → Kind → ResolutionError} {method : Refinement} :
    schema.resolveSuited text suits unsuited ≠ .error (.orderingState method) := by
  intro failed
  obtain ⟨fault, _, same⟩ := Schema.resolveSuited_eq_error_iff.mp failed
  contradiction

namespace Query

variable {query next : Query Label}

/-- Whether a query has no ordering for refinements to go on with, which all fail for that reason
whatever they bring. -/
def RefusesRefinements (query : Query Label) : Prop :=
  (∀ path direction, query.thenBy path direction = .error (.orderingState .thenBy)) ∧
    ∀ path vector direction, query.thenBySimilarity path vector direction =
      .error (.orderingState .thenByVectorSimilarity)

/-- Whether no refinement of a query fails for want of an ordering, whatever it brings. -/
def AdmitsRefinements (query : Query Label) : Prop :=
  (∀ path direction method, query.thenBy path direction ≠ .error (.orderingState method)) ∧
    ∀ path vector direction method,
      query.thenBySimilarity path vector direction ≠ .error (.orderingState method)

theorem refusesRefinements_of_unordered (unordered : query.ordered = false) :
    query.RefusesRefinements := by
  refine ⟨fun path direction => ?_, fun path vector direction => ?_⟩
  · rw [thenBy, unordered]
    rfl
  · rw [thenBySimilarity, unordered]
    rfl

theorem admitsRefinements_of_ordered (ordered : query.ordered = true) :
    query.AdmitsRefinements := by
  -- All that is left to fail is the path, which is a fault of another kind.
  refine ⟨fun path direction method failed => ?_, fun path vector direction method failed => ?_⟩
  · rw [thenBy, if_pos ordered, map_eq_error_iff, SortKey.byField, map_eq_error_iff] at failed
    exact Schema.resolveSuited_ne_orderingState failed
  · rw [thenBySimilarity, if_pos ordered, map_eq_error_iff, SortKey.bySimilarity,
      map_eq_error_iff] at failed
    exact Schema.resolveSuited_ne_orderingState failed

theorem AdmitsRefinements.not_refusesRefinements (admits : query.AdmitsRefinements) :
    ¬ query.RefusesRefinements :=
  fun refuses => admits.1 "" .ascending .thenBy (refuses.1 "" .ascending)

/-- Refinements are admitted where there is an ordering, and nowhere else. -/
theorem admitsRefinements_iff : query.AdmitsRefinements ↔ query.ordered = true := by
  refine ⟨fun admits => ?_, admitsRefinements_of_ordered⟩
  by_contra unordered
  exact admits.not_refusesRefinements
    (refusesRefinements_of_unordered (eq_false_of_ne_true unordered))

/-- Refinements are refused for want of an ordering, and for no other reason. -/
theorem refusesRefinements_iff : query.RefusesRefinements ↔ query.ordered = false := by
  refine ⟨fun refuses => ?_, refusesRefinements_of_unordered⟩
  by_contra ordered
  exact (admitsRefinements_of_ordered (eq_true_of_ne_false ordered)).not_refusesRefinements refuses

/-- Whether one of some calls, tried in turn, begins an ordering. -/
def BeginsOrdering (query : Query Label) (calls : List Call) : Prop :=
  ∃ before call after begun, calls = before ++ call :: after ∧ call.role = .ordering ∧
    (query.attemptAll before).call call = .ok begun

/-- A call that succeeds leaves the ordering that its role says, unless it is idle. -/
theorem call_cases {call : Call} (made : query.call call = .ok next) :
    call.IsIdle query.schema ∧ next = query ∨
      ¬ call.IsIdle query.schema ∧ next.ordered = call.role.leavesOrdered := by
  obtain ⟨effect, checked, _, rfl⟩ := call_eq_ok_iff.mp made
  rw [Call.isIdle_iff, checked]
  cases effect with
  | none => exact .inl ⟨rfl, rfl⟩
  | some effect =>
    refine .inr ⟨nofun, ?_⟩
    rw [← (Call.role_of_effect? checked).1]
    exact enact_ordered query effect

/-- A call that begins an ordering is never idle, so that the query which it leaves is ordered. -/
theorem ordered_of_ordering {call : Call} (isOrdering : call.role = .ordering)
    (made : query.call call = .ok next) : next.ordered = true := by
  rcases call_cases made with ⟨idle, _⟩ | ⟨_, leaves⟩
  · obtain ⟨guard, rfl, _⟩ := Call.effect?_eq_none_iff.mp (Call.isIdle_iff.mp idle)
    contradiction
  · rw [leaves, isOrdering, Role.leavesOrdered]

/-- Calls among which none begins an ordering leave none where there was none. -/
theorem ordered_of_attemptAll {calls : List Call} (unordered : query.ordered = false)
    (noOrdering : ¬ query.BeginsOrdering calls) : (query.attemptAll calls).ordered = false := by
  induction calls generalizing query with
  | nil => exact unordered
  | cons call calls inductionHypothesis =>
    have later : ¬ (query.attempt call).BeginsOrdering calls := by
      rintro ⟨before, begins, after, begun, rfl, isOrdering, made⟩
      exact noOrdering ⟨call :: before, begins, after, begun, rfl, isOrdering, made⟩
    refine inductionHypothesis ?_ later
    unfold attempt
    split
    · rename_i next made
      rcases call_cases made with ⟨_, rfl⟩ | ⟨_, leaves⟩
      · exact unordered
      · cases role : call.role with
        | restriction => rw [leaves, role, Role.leavesOrdered]
        | ordering => exact absurd ⟨[], call, calls, next, rfl, role, made⟩ noOrdering
        | refinement =>
          -- It would have needed an ordering.
          obtain ⟨_, _, ordered, _⟩ := call_eq_ok_iff.mp made
          rw [ordered role] at unordered
          contradiction
    · exact unordered

end Query

/-- A restriction ends an ordering. All refinements are then refused until a call begins another,
after which the query is ordered again and none is refused for want of an ordering. Only a filter
for live records where nothing tells live records from others leaves the query, and its ordering, as
they are. -/
theorem restriction_ends_ordering {query next : Query Label} {call : Call}
    (isRestriction : call.role = .restriction) (made : query.call call = .ok next) :
    (call.IsIdle query.schema → next = query) ∧
      (¬ call.IsIdle query.schema →
        next.ordered = false ∧
          (∀ calls, ¬ next.BeginsOrdering calls → (next.attemptAll calls).RefusesRefinements) ∧
            ∀ calls begins begun, begins.role = .ordering →
              (next.attemptAll calls).call begins = .ok begun →
                begun.ordered = true ∧ begun.AdmitsRefinements) := by
  rcases Query.call_cases made with ⟨idle, same⟩ | ⟨busy, leaves⟩
  · exact ⟨fun _ => same, fun busy => absurd idle busy⟩
  · rw [isRestriction] at leaves
    refine ⟨fun idle => absurd idle busy, fun _ => ⟨leaves, fun calls noOrdering => ?_, ?_⟩⟩
    · exact Query.refusesRefinements_iff.mpr (Query.ordered_of_attemptAll leaves noOrdering)
    · intro calls begins begun isOrdering began
      have ordered := Query.ordered_of_ordering isOrdering began
      exact ⟨ordered, Query.admitsRefinements_iff.mpr ordered⟩

/-- A page of points in order is not in order, and stays so after a filter and a refinement of
nothing. An ordering of what is left can be refined. -/
theorem restriction_ends_ordering_of_points :
    let tried := [Call.filter (.const true), .thenBy "Y" .ascending]
    ∃ query next, (Query.ofDataset Sample.points).orderBy "X" .ascending = .ok query ∧
      query.ordered = true ∧ query.call (.paginate 0 2) = .ok next ∧ next.ordered = false ∧
        (next.attemptAll tried).RefusesRefinements ∧
          ∃ begun, (next.attemptAll tried).call (.orderBy "Y" .ascending) = .ok begun ∧
            begun.ordered = true ∧ begun.AdmitsRefinements := by
  intro tried
  refine ⟨_, _, rfl, rfl, rfl, ?_⟩
  obtain ⟨unordered, refuses, admits⟩ :=
    (@restriction_ends_ordering _ _ _ (.paginate 0 2) rfl rfl).2 id
  refine ⟨unordered, refuses tried ?_, _, rfl, admits tried (.orderBy "Y" .ascending) _ rfl rfl⟩
  rintro ⟨before, call, after, begun, parts, isOrdering, _⟩
  have member : call ∈ tried := parts ▸ List.mem_append_right before List.mem_cons_self
  simp only [tried, List.mem_cons, List.not_mem_nil, or_false] at member
  rcases member with rfl | rfl <;> contradiction

/-- Not every restriction ends an ordering: nothing tells live points from others, so that a filter
for live ones leaves their ordering in place. -/
theorem not_all_restrictions_end_ordering :
    ¬ ∀ (dataset : Dataset String) (calls : List Call) (call : Call) (next : Query String),
      call.role = .restriction →
        ((Query.ofDataset dataset).attemptAll calls).call call = .ok next →
          next.ordered = false := by
  intro ends
  have ended := ends Sample.points [.orderBy "X" .ascending] (.filterLive .standard) _ rfl rfl
  contradiction

end RecordQuery

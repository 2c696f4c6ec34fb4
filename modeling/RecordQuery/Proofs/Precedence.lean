/-
This file proves in which order the causes of a failure count.

Several things can be wrong with a request at once: its path, the caller, who may have given up, the
source, a filter on some record, and what an aggregate makes of the records. `Wrong` says of each cause
by itself when something is wrong and what, whatever else there is. A request fails just where
something is wrong, and always for the first cause. So a fault of the path hides all others, even from
a caller who has given up, and no stage that is recorded on a failing source can hide its failure.
-/

import RecordQuery.Proofs.Conditions
import RecordQuery.Proofs.Running
import RecordQuery.Proofs.Walking

namespace RecordQuery

open Number

variable {Label Result : Type}

/-! ### Requests -/

/-- What can be asked of a query: a terminal, at once or awaited, or a search by full text, which
cannot be awaited. -/
inductive Request (Label : Type) : Type → Type 1 where
  | atOnce {Result : Type} (terminal : Terminal Label Result) : Request Label Result
  | awaited {Result : Type} (terminal : Terminal Label Result) (cancellation : Cancellation) :
      Request Label Result
  | fullTextSearch (path : String) (matching : List Value) (scores : List (Key × Single)) :
      Request Label (List (Row Label))

/-- What a query answers to a request. -/
def Query.answer (query : Query Label) : Request Label Result → Except QueryError Result
  | .atOnce terminal => query.run terminal
  | .awaited terminal cancellation => query.await cancellation terminal
  | .fullTextSearch path matching scores => query.fullTextSearch path matching scores

/-- What is asked of the path of a request, and the fault of one that resolves but does not suit. -/
structure Requirement where
  path : String
  suits : Kind → Bool
  unsuited : String → Kind → ResolutionError

/-- What a terminal asks of its path, if it has one. Nothing is asked of the paths of a projection,
which are columns of nulls if they do not resolve. -/
def Terminal.requirement? : Terminal Label Result → Option Requirement
  | @sum _ Amount _ path => some ⟨path, Numeric.accepts Amount, .notNumeric⟩
  | @average _ Amount _ path => some ⟨path, Numeric.accepts Amount, .notNumeric⟩
  | groupBy path | distinctBy path => some ⟨path, Kind.isKeyable, .notKeyable⟩
  | hybridRanking _ path _ _ => some ⟨path, (· = .vector), .notVector⟩
  | materialize | count | any | selectFields _ | orderByScore _ _ => none

/-- Whether the aggregate that a terminal forms of some rows, if it forms one, has a fault. -/
def Terminal.AggregateFails (schema : Schema) (rows : List (Row Label)) (fault : EvaluationError) :
    Terminal Label Result → Prop
  | @sum _ Amount _ path => ∃ resolved, schema.resolve path = .ok resolved ∧
      (Aggregate.sum resolved (rows.map Row.record) : Except _ Amount) = .error fault
  | @average _ Amount _ path => ∃ resolved, schema.resolve path = .ok resolved ∧
      (Aggregate.average resolved (rows.map Row.record) : Except _ (Option Amount)) = .error fault
  | _ => False

namespace Request

def requirement? : Request Label Result → Option Requirement
  | atOnce terminal => terminal.requirement?
  | awaited terminal _ => terminal.requirement?
  | fullTextSearch path _ _ => some ⟨path, Kind.isKeyable, .notKeyable⟩

/-- Whether the caller has given up. Nobody can give up what is run at once. -/
def cancellation : Request Label Result → Cancellation
  | awaited _ cancellation => cancellation
  | atOnce _ | fullTextSearch _ _ _ => .never

def AggregateFails (schema : Schema) (rows : List (Row Label)) (fault : EvaluationError) :
    Request Label Result → Prop
  | atOnce terminal => terminal.AggregateFails schema rows fault
  | awaited terminal _ => terminal.AggregateFails schema rows fault
  | fullTextSearch _ _ _ => False

/-- What a request does with the rows that come out, once its path has been checked. -/
def plan (query : Query Label) :
    Request Label Result → Except QueryError (List (Row Label) → Except QueryError Result)
  | atOnce terminal => terminal.plan query
  | awaited terminal _ => terminal.plan query
  | fullTextSearch path matching scores =>
    (query.keyablePath path).map fun path rows =>
      .ok (Ranking.rankByKeyScores query.schema path (matching.map Key.ofValue) scores rows)

end Request

/-- Every request follows its plan, with the rows that come out if the caller has not given up. -/
theorem Query.answer_eq_plan (query : Query Label) (request : Request Label Result) :
    query.answer request =
      (request.plan query).bind (query.awaitRows request.cancellation).bind := by
  cases request with
  | atOnce terminal => exact query.run_eq_plan terminal
  | awaited terminal cancellation => exact query.await_eq_plan cancellation terminal
  | fullTextSearch path matching scores => exact bind_map.symm

/-! ### Faults of paths and of aggregates -/

section Plans

variable {query : Query Label} {work : List (Row Label) → Except QueryError Result}
  {error : QueryError}

/-- Whether a path does not meet what is asked of it, and for what fault. -/
def Requirement.Unmet (schema : Schema) (requirement : Requirement) (fault : ResolutionError) :
    Prop :=
  schema.Refuses requirement.path requirement.suits requirement.unsuited fault

/-- Whether what is asked of a path, if anything is, is not met for some error. -/
def Requirement.Fails (schema : Schema) (requirement? : Option Requirement) (error : QueryError) :
    Prop :=
  ∃ requirement fault, requirement? = some requirement ∧ requirement.Unmet schema fault ∧
    error = .resolution fault

theorem Requirement.fails_none {schema : Schema} : ¬ Fails schema none error :=
  fun ⟨_, _, isNone, _⟩ => nomatch isNone

theorem Requirement.resolveSuited_eq_error_iff {schema : Schema} (requirement : Requirement) :
    schema.resolveSuited requirement.path requirement.suits requirement.unsuited = .error error ↔
      Fails schema (some requirement) error := by
  rw [Schema.resolveSuited_eq_error_iff]
  refine ⟨fun ⟨fault, refuses, same⟩ => ⟨requirement, fault, rfl, refuses, same⟩, ?_⟩
  rintro ⟨other, fault, same, unmet, rfl⟩
  rw [← Option.some.inj same] at unmet
  exact ⟨fault, unmet, rfl⟩

theorem Terminal.plan_eq_error_iff {terminal : Terminal Label Result} :
    terminal.plan query = .error error ↔
      Requirement.Fails query.schema terminal.requirement? error := by
  cases terminal with
  | materialize | count | any | selectFields | orderByScore =>
    exact ⟨nofun, fun fails => absurd fails Requirement.fails_none⟩
  | sum _ path | average _ path =>
    exact map_eq_error_iff.trans
      (Requirement.resolveSuited_eq_error_iff ⟨path, Numeric.accepts _, .notNumeric⟩)
  | groupBy path | distinctBy path =>
    exact map_eq_error_iff.trans
      (Requirement.resolveSuited_eq_error_iff ⟨path, Kind.isKeyable, .notKeyable⟩)
  | hybridRanking textScore path =>
    exact map_eq_error_iff.trans
      (Requirement.resolveSuited_eq_error_iff ⟨path, (· = .vector), .notVector⟩)

/-- What a terminal does with rows fails just where its aggregate does. -/
theorem Terminal.work_eq_error_iff {terminal : Terminal Label Result}
    (planned : terminal.plan query = .ok work) {rows : List (Row Label)} :
    work rows = .error error ↔
      ∃ fault, terminal.AggregateFails query.schema rows fault ∧ error = .evaluation fault := by
  cases terminal with
  | materialize | count | any | selectFields | orderByScore =>
    rw [← Except.ok.inj planned]
    exact ⟨nofun, fun ⟨_, fails, _⟩ => fails.elim⟩
  | groupBy | distinctBy | hybridRanking =>
    obtain ⟨path, _, rfl⟩ := map_eq_ok_iff.mp planned
    exact ⟨nofun, fun ⟨_, fails, _⟩ => fails.elim⟩
  | sum | average =>
    obtain ⟨path, suited, rfl⟩ := map_eq_ok_iff.mp planned
    have resolved := Schema.resolve_of_resolveSuited suited
    refine mapError_eq_error_iff.trans (exists_congr fun fault => and_congr_left fun _ => ?_)
    refine ⟨fun failed => ⟨path, resolved, failed⟩, fun ⟨other, found, failed⟩ => ?_⟩
    rwa [Except.ok.inj (resolved.symm.trans found)]

namespace Request

variable {request : Request Label Result}

theorem plan_eq_error_iff :
    request.plan query = .error error ↔
      Requirement.Fails query.schema request.requirement? error := by
  cases request with
  | atOnce terminal | awaited terminal => exact Terminal.plan_eq_error_iff
  | fullTextSearch path =>
    exact map_eq_error_iff.trans
      (Requirement.resolveSuited_eq_error_iff ⟨path, Kind.isKeyable, .notKeyable⟩)

theorem work_eq_error_iff (planned : request.plan query = .ok work) {rows : List (Row Label)} :
    work rows = .error error ↔
      ∃ fault, request.AggregateFails query.schema rows fault ∧ error = .evaluation fault := by
  cases request with
  | atOnce terminal | awaited terminal => exact Terminal.work_eq_error_iff planned
  | fullTextSearch =>
    obtain ⟨path, _, rfl⟩ := map_eq_ok_iff.mp planned
    exact ⟨nofun, fun ⟨_, fails, _⟩ => fails.elim⟩

end Request

end Plans

/-! ### Faults of stages -/

namespace Stage

variable {rows : List (Row Label)} {fault : EvaluationError}

/-- Whether a fault is the first that some stages come upon: a filter has it on the first row, of
those that the stages before it leave, on which its predicate has no answer. -/
def FirstFault (rows : List (Row Label)) (stages : List Stage) (fault : EvaluationError) : Prop :=
  ∃ before predicate after passed row later, stages = before ++ .filter predicate :: after ∧
    runAll rows before = .ok (passed ++ row :: later) ∧ predicate.AnswersAll passed ∧
      predicate.evaluate row.record = .error fault

/-- Only filters can fail, on the first row on which their predicate has no answer. -/
theorem run_eq_error_iff {stage : Stage} :
    stage.run rows = .error fault ↔
      ∃ predicate passed row later, stage = .filter predicate ∧ rows = passed ++ row :: later ∧
        predicate.AnswersAll passed ∧ predicate.evaluate row.record = .error fault := by
  refine ⟨fun failed => ?_, ?_⟩
  · cases stage with
    | order | skip | take => contradiction
    | filter predicate =>
      rw [run] at failed
      rcases predicate.answersAll_or_fault rows with
        answers | ⟨passed, row, later, found, rfl, answers, evaluated⟩
      · rw [filterRows_of_answersAll answers] at failed
        contradiction
      · rw [filterRows_of_fault answers evaluated] at failed
        rw [Except.error.inj failed] at evaluated
        exact ⟨predicate, passed, row, later, rfl, rfl, answers, evaluated⟩
  · rintro ⟨predicate, passed, row, later, rfl, rfl, answers, evaluated⟩
    exact filterRows_of_fault answers evaluated

theorem runAll_eq_error_iff {stages : List Stage} :
    runAll rows stages = .error fault ↔ FirstFault rows stages fault := by
  refine ⟨fun failed => ?_, ?_⟩
  · induction stages generalizing rows with
    | nil => contradiction
    | cons stage stages inductionHypothesis =>
      cases ran : stage.run rows with
      | error found =>
        have same : found = fault := by
          rw [runAll, ran] at failed
          exact Except.error.inj failed
        obtain ⟨predicate, passed, row, later, rfl, rfl, first⟩ := run_eq_error_iff.mp (same ▸ ran)
        exact ⟨[], predicate, stages, passed, row, later, rfl, rfl, first⟩
      | ok left =>
        rw [runAll, ran] at failed
        obtain ⟨before, predicate, after, passed, row, later, rfl, upTo, first⟩ :=
          inductionHypothesis failed
        refine ⟨stage :: before, predicate, after, passed, row, later, rfl, ?_, first⟩
        rw [runAll, ran]
        exact upTo
  · rintro ⟨before, predicate, after, passed, row, later, rfl, upTo, answers, evaluated⟩
    have failed : (filter predicate).run (passed ++ row :: later) = .error fault :=
      filterRows_of_fault answers evaluated
    rw [runAll_append, upTo]
    show runAll (passed ++ row :: later) (.filter predicate :: after) = _
    rw [runAll, failed]

end Stage

/-! ### What a source keeps -/

namespace Query

variable {source : Source Label} {query : Query Label}

/-- What can be made of a source, by calls on a query of it and by stages that are recorded on the
source itself. -/
inductive GrowsFrom (source : Source Label) : Query Label → Prop where
  | start : GrowsFrom source (ofSource source)
  | call {query next : Query Label} {call : Call} :
      GrowsFrom source query → query.call call = .ok next → GrowsFrom source next
  | push {query : Query Label} (stage : Stage) :
      GrowsFrom source query → GrowsFrom source (ofSource (query.source.push stage))
  | thenBy {query : Query Label} (key : SortKey) :
      GrowsFrom source query → GrowsFrom source (ofSource (query.source.thenBy key))

theorem enactAny_keeps (query : Query Label) (effect : Option Effect) :
    (query.enactAny effect).source.dataset = query.source.dataset ∧
      (query.enactAny effect).source.service = query.source.service := by
  cases effect with
  | none => exact ⟨rfl, rfl⟩
  | some effect => cases effect <;> exact ⟨rfl, rfl⟩

/-- Whatever is made of a source, its records stay, and so does its failure if it fails. -/
theorem GrowsFrom.keeps (grows : query.GrowsFrom source) :
    query.source.dataset = source.dataset ∧ query.source.service = source.service := by
  induction grows with
  | start => exact ⟨rfl, rfl⟩
  | push stage _ inductionHypothesis => exact inductionHypothesis
  | thenBy key _ inductionHypothesis => exact inductionHypothesis
  | call _ made inductionHypothesis =>
    obtain ⟨effect, _, _, rfl⟩ := call_eq_ok_iff.mp made
    obtain ⟨dataset, service⟩ := enactAny_keeps _ effect
    exact ⟨dataset.trans inductionHypothesis.1, service.trans inductionHypothesis.2⟩

end Query

/-! ### Causes -/

/-- What can be wrong with a request. -/
inductive Cause where
  | path
  | cancellation
  | source
  | stages
  | aggregate

namespace Cause

/-- All causes, in the order in which they count. -/
def order : List Cause :=
  [path, cancellation, source, stages, aggregate]

variable {wrong : Cause → QueryError → Prop} {cause : Cause} {causes : List Cause}
  {error : QueryError}

/-- Whether an error is that of the first of some causes for which anything is wrong. -/
def FirstOf (causes : List Cause) (wrong : Cause → QueryError → Prop) (error : QueryError) : Prop :=
  ∃ before cause after, causes = before ++ cause :: after ∧ wrong cause error ∧
    ∀ earlier ∈ before, ∀ other, ¬ wrong earlier other

theorem firstOf_singleton : FirstOf [cause] wrong error ↔ wrong cause error := by
  refine ⟨fun ⟨before, counts, after, split, isWrong, _⟩ => ?_, fun isWrong => ?_⟩
  · cases before with
    | nil =>
      obtain ⟨rfl, _⟩ := List.cons.inj split
      exact isWrong
    | cons head before => exact absurd (List.cons.inj split).2.symm (by simp)
  · exact ⟨[], cause, [], rfl, isWrong, List.forall_mem_nil _⟩

/-- Where one computation follows another, what is wrong with the first one counts before what is
wrong with the second. -/
theorem bind_eq_error_iff_firstOf {Input Output : Type} {first : Except QueryError Input}
    {next : Input → Except QueryError Output}
    (fails : ∀ other, first = .error other ↔ wrong cause other)
    (later : ∀ input, first = .ok input → (next input = .error error ↔ FirstOf causes wrong error)) :
    first.bind next = .error error ↔ FirstOf (cause :: causes) wrong error := by
  rw [bind_eq_error_iff]
  refine ⟨?_, fun ⟨before, counts, after, split, isWrong, earlier⟩ => ?_⟩
  · rintro (early | ⟨input, result, late⟩)
    · exact ⟨[], cause, causes, rfl, (fails error).mp early, List.forall_mem_nil _⟩
    · obtain ⟨before, counts, after, rfl, isWrong, earlier⟩ := (later input result).mp late
      refine ⟨cause :: before, counts, after, rfl, isWrong, List.forall_mem_cons.mpr ⟨?_, earlier⟩⟩
      intro other isWrong
      rw [(fails other).mpr isWrong] at result
      contradiction
  · cases before with
    | nil =>
      obtain ⟨rfl, _⟩ := List.cons.inj split
      exact .inl ((fails error).mpr isWrong)
    | cons head before =>
      obtain ⟨rfl, rest⟩ := List.cons.inj split
      obtain ⟨nothing, earlier⟩ := List.forall_mem_cons.mp earlier
      cases result : first with
      | error found => exact absurd ((fails found).mp result) (nothing found)
      | ok input =>
        exact .inr ⟨input, rfl, (later input result).mpr
          ⟨before, counts, after, rest, isWrong, earlier⟩⟩

end Cause

/-! ### Checks -/

/-- Fails if the caller has given up. -/
def Cancellation.check : Cancellation → Except QueryError Unit
  | already => .error .cancelled
  | never => .ok ()

/-- Fails if the records cannot be had. -/
def Service.check : Service → Except QueryError Unit
  | remote (some message) => .error (.source message)
  | remote none | memory => .ok ()

theorem Cancellation.check_eq_error_iff {cancellation : Cancellation} {error : QueryError} :
    cancellation.check = .error error ↔ cancellation = .already ∧ error = .cancelled := by
  cases cancellation with
  | never => exact ⟨nofun, fun given => nomatch given.1⟩
  | already => exact ⟨fun failed => ⟨rfl, (Except.error.inj failed).symm⟩, fun given => given.2 ▸ rfl⟩

theorem Service.check_eq_error_iff {service : Service} {error : QueryError} :
    service.check = .error error ↔
      ∃ message, service = .remote (some message) ∧ error = .source message := by
  unfold check
  split
  · refine ⟨fun failed => ⟨_, rfl, (Except.error.inj failed).symm⟩, fun ⟨_, same, isSource⟩ => ?_⟩
    cases same
    exact isSource ▸ rfl
  · exact ⟨nofun, fun ⟨_, same, _⟩ => nomatch same⟩
  · exact ⟨nofun, fun ⟨_, same, _⟩ => nomatch same⟩

/-- Rows come out if the caller has not given up and they can be had. -/
theorem Query.awaitRows_bind (query : Query Label) (cancellation : Cancellation)
    (work : List (Row Label) → Except QueryError Result) :
    (query.awaitRows cancellation).bind work =
      cancellation.check.bind fun _ => query.source.service.check.bind fun _ =>
        query.source.select.bind work := by
  obtain ⟨⟨dataset, service, stages⟩, ordered⟩ := query
  cases cancellation with
  | already => rfl
  | never =>
    cases service with
    | memory => rfl
    | remote failure => cases failure <;> rfl

/-! ### The first cause -/

/-- What is wrong with a request of a source on which stages have been recorded, cause by cause and
whatever the other causes are. -/
def Request.Wrong (request : Request Label Result) (source : Source Label) (stages : List Stage) :
    Cause → QueryError → Prop
  | .path, error => Requirement.Fails source.dataset.schema request.requirement? error
  | .cancellation, error => request.cancellation = .already ∧ error = .cancelled
  | .source, error => ∃ message, source.service = .remote (some message) ∧ error = .source message
  | .stages, error =>
    ∃ fault, Stage.FirstFault source.dataset.rows stages fault ∧ error = .evaluation fault
  | .aggregate, error =>
    ∃ rows fault, Stage.runAll source.dataset.rows stages = .ok rows ∧
      request.AggregateFails source.dataset.schema rows fault ∧ error = .evaluation fault

/-- Whatever is made of a source, a request fails just where something is wrong, and then for the
first cause: its path, then a caller who has given up, then the failure of the source, then the
first fault that a stage comes upon, and last the fault of an aggregate. -/
theorem Query.fails_by_first_cause {source : Source Label} {query : Query Label}
    (grows : query.GrowsFrom source) (request : Request Label Result) (error : QueryError) :
    query.answer request = .error error ↔
      Cause.FirstOf Cause.order (request.Wrong source query.source.stages) error := by
  obtain ⟨dataset, service⟩ := grows.keeps
  have schema : query.schema = source.dataset.schema := congrArg Dataset.schema dataset
  rw [answer_eq_plan]
  refine Cause.bind_eq_error_iff_firstOf (fun other => ?_) fun work planned => ?_
  · rw [Request.plan_eq_error_iff, schema]
    rfl
  rw [awaitRows_bind]
  refine Cause.bind_eq_error_iff_firstOf (fun other => Cancellation.check_eq_error_iff) fun _ _ => ?_
  refine Cause.bind_eq_error_iff_firstOf (fun other => ?_) fun _ _ => ?_
  · rw [Service.check_eq_error_iff, service]
    rfl
  refine Cause.bind_eq_error_iff_firstOf (fun other => ?_) fun rows ran => ?_
  · rw [Source.select, mapError_eq_error_iff, dataset]
    exact exists_congr fun fault => and_congr_left fun _ => Stage.runAll_eq_error_iff
  rw [Source.select, mapError_eq_ok_iff, dataset] at ran
  rw [Cause.firstOf_singleton, Request.work_eq_error_iff planned, schema]
  refine ⟨?_, ?_⟩
  · rintro ⟨fault, fails, same⟩
    exact ⟨rows, fault, ran, fails, same⟩
  · rintro ⟨others, fault, ranOthers, fails, same⟩
    rw [← Except.ok.inj (ran.symm.trans ranOthers)] at fails
    exact ⟨fault, fails, same⟩

/-- A chain of nodes, somewhere. -/
def Sample.chains (service : Service) : Source String :=
  .ofDataset ⟨nodes, [⟨"chain", chain⟩]⟩ service

/-- The same out of reach. -/
def Sample.outage : Source String :=
  chains (.remote (some "offline"))

/-- A filter by a part of a text that the label of the chain is too short for. -/
def Sample.byLongLabel : Call :=
  .filterBy (.substringEquals "label" 4 9 "warehouse")

/-- The sum of a field, awaited. -/
def Sample.total (path : String) (cancellation : Cancellation) : Request String Int64 :=
  .awaited (.sum Int64 path) cancellation

/-- A caller who has given up waiting for a source that fails, with a filter that would fail too, is
told that the field to sum does not exist. Where it exists, the caller has given up, and one who has
not is told that the source fails. -/
theorem Query.fails_by_first_cause_of_outage :
    ∃ query, (Query.ofSource Sample.outage).call Sample.byLongLabel = .ok query ∧
      query.answer (Sample.total "Color" .already) =
        .error (.resolution (.unknownField "Color" "Node")) ∧
      Cause.FirstOf Cause.order
        ((Sample.total "Weight" .already).Wrong Sample.outage query.source.stages) .cancelled ∧
      Cause.FirstOf Cause.order
        ((Sample.total "Weight" .never).Wrong Sample.outage query.source.stages)
          (.source "offline") := by
  refine ⟨_, rfl, ?_⟩
  have grows := @GrowsFrom.call _ Sample.outage _ _ Sample.byLongLabel .start rfl
  refine ⟨(fails_by_first_cause grows _ _).mpr ?_, (fails_by_first_cause grows _ _).mp rfl,
    (fails_by_first_cause grows _ _).mp rfl⟩
  exact ⟨[], .path, _, rfl, ⟨_, _, rfl, .inl rfl, rfl⟩, List.forall_mem_nil _⟩

/-- In memory it is the filter that fails. -/
example : ((Query.ofSource (Sample.chains .memory)).call Sample.byLongLabel).bind
    (fun query => query.answer (Sample.total "Weight" .never)) =
      .error (.evaluation (.substringOutOfRange "Label" 4 9 4)) := rfl

end RecordQuery

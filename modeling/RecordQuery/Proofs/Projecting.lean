/-
This file proves that a path reads what a whole record shows under the same names.

A path goes straight to its field, past all others. Showing a record instead makes a map of every
field, and of every record nested in it. Looking up the registered names of a path in that map, one
after the other, comes to what the path reads. A name that stands twice shows its first field, as
it does in a path, and what is not there is null all the way down. So the columns that are selected
from a query could be looked up in its whole records.
-/

import RecordQuery.Proofs.Walking
import RecordQuery.Query.Run

namespace RecordQuery

variable {schema : Schema} {number : Nat} {record : Record}

/-! ### Looking up names in a value -/

/-- What some names lead to in a value of maps: each is looked up in what the one before it has led
to, and the first entry of a name counts. Whatever is looked up in null is null. -/
def Value.lookup? : List String → Value → Option Value
  | [], value => some value
  | _ :: _, .null => some .null
  | name :: names, .map fields =>
    (fields.find? fun field => field.1 = name).bind fun field => lookup? names field.2
  | _ :: _, _ => none

theorem Value.lookup?_null (names : List String) : lookup? names .null = some .null := by
  cases names <;> rfl

/-! ### The fields that are shown -/

namespace Schema

/-- What a place of a record shows, as a field with this content. A cell that is missing shows
null. -/
def shownAt (schema : Schema) (record : Record) (content : Content) (place : Nat) : Value :=
  (record[place]?.map (schema.projectCell content)).getD .null

/-- Every field is shown in its own place, whether the record has a cell for it or not. -/
theorem getElem?_projectFields (schema : Schema) (fields : List Field) (record : Record)
    (place : Nat) :
    (schema.projectFields fields record)[place]? =
      fields[place]?.map fun field => (field.name, schema.shownAt record field.content place) := by
  induction fields generalizing record place with
  | nil => cases record <;> rfl
  | cons field fields inductionHypothesis =>
    cases record with
    | nil =>
      rw [projectFields, List.getElem?_map]
      rfl
    | cons cell cells =>
      rw [projectFields]
      cases place with
      | zero => rfl
      | succ place => exact inductionHypothesis cells place

/-- The first field of a name in any case is also the first that is shown under its own name. -/
theorem find?_projectFields {shape : Shape} {name : List Char} {field : Field} {place : Nat}
    (found : shape.FirstNamed name field place) (schema : Schema) (record : Record) :
    ((schema.projectFields shape.fields record).find? fun shown => shown.1 = field.name) =
      some (field.name, schema.shownAt record field.content place) := by
  have stands := schema.getElem?_projectFields shape.fields record
  rw [List.find?_eq_some_iff_getElem]
  refine ⟨decide_eq_true rfl, place, ?_⟩
  have there := stands place
  rw [found.there, Option.map_some, List.getElem?_eq_some_iff] at there
  obtain ⟨inside, shown⟩ := there
  refine ⟨inside, shown, fun earlier before => ?_⟩
  have standsEarlier := stands earlier
  rw [List.getElem?_eq_getElem (Nat.lt_trans before inside), eq_comm, Option.map_eq_some_iff]
    at standsEarlier
  obtain ⟨other, otherThere, otherShown⟩ := standsEarlier
  rw [← otherShown, Bool.not_eq_true', decide_eq_false_iff_not]
  intro (same : other.name = field.name)
  exact found.first earlier before other otherThere (same ▸ found.named)

end Schema

/-- The last step of a path reads what its place shows. -/
theorem Step.get_eq_shownAt (schema : Schema) (step : Step) (record : Record) :
    step.get schema record = schema.shownAt record step.content step.place := by
  unfold get nested? Record.scalarAt Record.nestedAt? Schema.shownAt
  cases step.content <;> cases record[step.place]? with
  | none => rfl
  | some cell => cases cell <;> rfl

/-! ### The names of a path -/

namespace Schema

/-- Looking up the name of a step leads to what the step reads. -/
theorem lookup?_of_takes {step : Step} (takes : schema.Takes number step) (record : Record)
    (names : List String) :
    (schema.projectShape number record).lookup? (step.hop.name :: names) =
      (step.get schema record).lookup? names := by
  obtain ⟨field, place, found, same⟩ := step?_eq_ok_iff.mp takes.found
  have name : step.hop.name = field.name := congrArg (fun step => step.hop.name) same
  have shown : step.get schema record = schema.shownAt record field.content place := by
    rw [Step.get_eq_shownAt, same]
    rfl
  rw [projectShape, Value.lookup?, name, find?_projectFields found, shown]
  rfl

/-- Looking up the names of a walk one after the other leads to what the walk reads. -/
theorem lookup?_of_leads {start finish : Nat} {through : List Step} {leaf : Step}
    (leads : schema.Leads start through finish) (takes : schema.Takes finish leaf)
    (record : Record) :
    (schema.projectShape start record).lookup?
        ((through ++ [leaf]).map fun step => step.hop.name) =
      some (Path.getThrough schema leaf through record) := by
  induction leads generalizing record with
  | here number => exact lookup?_of_takes takes record []
  | @through start inner finish step steps first content later inductionHypothesis =>
    rw [List.cons_append, List.map_cons, lookup?_of_takes first, Step.get, content,
      Path.getThrough]
    cases step.nested? record with
    | none => exact Value.lookup?_null _
    | some nested => exact inductionHypothesis takes nested

theorem lookup?_of_resolve {text : String} {path : Path}
    (resolved : schema.resolve text = .ok path) (record : Record) :
    (schema.project record).lookup? (path.hops.map Hop.name) = some (path.get schema record) := by
  obtain ⟨finish, leads, leaf⟩ := walks_of_resolve resolved
  rw [Path.hops, List.map_map]
  exact lookup?_of_leads leads leaf record

end Schema

/-! ### Columns -/

/-- Whether a column is the one for a path that was asked for: it has the path for its name, just
as it was given, and the value that the names of the path lead to in the whole record, or null if it
is no path. -/
structure Schema.Shows (schema : Schema) (record : Record) (text : String)
    (column : String × Value) : Prop where
  named : column.1 = text
  resolved : ∀ path, schema.resolve text = .ok path →
    (schema.project record).lookup? (path.hops.map Hop.name) = some column.2
  unresolved : ∀ error, schema.resolve text = .error error → column.2 = .null

theorem Projector.shows_project (schema : Schema) (paths : List String) (record : Record) :
    List.Forall₂ (schema.Shows record) paths
      ((ofPaths schema paths).project schema record).columns := by
  rw [project, ofPaths, List.map_map, List.forall₂_map_right_iff, List.forall₂_same]
  refine fun text _ => ⟨rfl, fun path resolved => ?_, fun error failed => ?_⟩
  · rw [Schema.lookup?_of_resolve resolved]
    simp [Schema.resolve?, resolved, Except.toOption]
  · simp [Schema.resolve?, failed, Except.toOption]

/-- Two chains of nodes. The second has one node, with a cell for its label only. -/
def Sample.longAndShort (service : Service) : Query String :=
  .ofSource (.ofDataset ⟨nodes, [⟨"long", chain⟩, ⟨"short", [.value (.text "head")]⟩]⟩ service)

namespace Query

/-- A path reads from a record what its registered names lead to, one after the other, in the map of
the whole record. So what is selected from a query has a row for each of its rows, and in it a
column for each path that was asked for, in that order and as often, with the value that the path
leads to in the whole record, or null for what is no path. -/
theorem selectFields_shows {Label : Type} (query : Query Label) (paths : List String) :
    (∀ (text : String) (path : Path), query.schema.resolve text = .ok path → ∀ record : Record,
        (query.schema.project record).lookup? (path.hops.map Hop.name) =
          some (path.get query.schema record)) ∧
      (∀ rows, query.materialize = .ok rows →
        ∃ projections, query.selectFields paths = .ok projections ∧
          List.Forall₂ (fun (row : Row Label) (projection : Projection) =>
            List.Forall₂ (query.schema.Shows row.record) paths projection.columns)
              rows projections) ∧
      ∀ error, query.materialize = .error error → query.selectFields paths = .error error := by
  refine ⟨fun text path resolved record => Schema.lookup?_of_resolve resolved record,
    fun rows ran => ⟨query.projectAll paths rows, ?_, ?_⟩, fun error failed => ?_⟩
  · rw [selectFields, ran]
    rfl
  · rw [projectAll, List.forall₂_map_right_iff, List.forall₂_same]
    exact fun row _ => Projector.shows_project query.schema paths row.record
  · rw [selectFields, failed]
    rfl

/-- The text of the second node is looked up by its registered name, which is not the field that has
that name in capitals. A column is shown as often as it is asked for. -/
theorem selectFields_shows_of_longAndShort :
    (Sample.nodes.project Sample.chain).lookup? ["Next", "Label"] = some (.text "tail") ∧
      (∃ projections, (Sample.longAndShort .memory).selectFields
            ["next.LABEL", "Color", "next.LABEL"] = .ok projections ∧
          projections.map Projection.columns =
            [[("next.LABEL", .text "tail"), ("Color", .null), ("next.LABEL", .text "tail")],
              [("next.LABEL", .null), ("Color", .null), ("next.LABEL", .null)]] ∧
          List.Forall₂ (fun (row : Row String) (projection : Projection) =>
            List.Forall₂ (Sample.nodes.Shows row.record) ["next.LABEL", "Color", "next.LABEL"]
              projection.columns) (Sample.longAndShort .memory).source.dataset.rows projections) ∧
      (Sample.longAndShort (.remote (some "offline"))).selectFields ["Label"] =
        .error (.source "offline") := by
  obtain ⟨reads, shows, _⟩ :=
    selectFields_shows (Sample.longAndShort .memory) ["next.LABEL", "Color", "next.LABEL"]
  refine ⟨reads "next.label" _ rfl Sample.chain, ?_,
    (selectFields_shows (Sample.longAndShort (.remote (some "offline"))) ["Label"]).2.2 _ rfl⟩
  obtain ⟨projections, selected, columns⟩ := shows _ rfl
  exact ⟨projections, selected, Except.ok.inj selected ▸ rfl, columns⟩

end Query

end RecordQuery

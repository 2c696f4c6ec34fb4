/-
This file says which paths resolve, and what is wrong with those that do not.

A path names fields between points. The first name is looked up in the shape of the records that are
queried, and each later one in the shape of the records that the field before it holds. A name finds
the first field that is called so in any case. `Finds` and `Misses` say where that leads, without a
word on paths or faults; a path resolves just where all names find their fields, and the fault of one
that does not is the first name that finds none.

Names are looked up only if none of them is empty. So a path with an empty name is refused for that,
even if a name before it is unknown.
-/

import Mathlib.Data.List.Forall2
import RecordQuery.Proofs.Resolution

namespace RecordQuery

open Text

/-! ### Fields by their names -/

namespace Shape

variable {shape : Shape} {name : List Char} {field : Field} {place : Nat}

/-- Whether a field stands in a place of a shape and is the first that has a name in any case. -/
structure FirstNamed (shape : Shape) (name : List Char) (field : Field) (place : Nat) : Prop where
  there : shape.fields[place]? = some field
  named : sameIgnoringCase field.name.toList name
  first : ∀ earlier < place, ∀ other, shape.fields[earlier]? = some other →
    ¬ sameIgnoringCase other.name.toList name

/-- Whether no field of a shape has a name in any case. -/
def Lacks (shape : Shape) (name : List Char) : Prop :=
  ∀ field ∈ shape.fields, ¬ sameIgnoringCase field.name.toList name

theorem field?_eq_some_iff :
    shape.field? name = some (field, place) ↔ shape.FirstNamed name field place := by
  rw [field?, List.find?_eq_some_iff_getElem]
  refine ⟨?_, fun found => ?_⟩
  · rintro ⟨named, index, inside, entry, first⟩
    rw [List.getElem_zipIdx, Nat.zero_add, Prod.mk.injEq] at entry
    obtain ⟨there, rfl⟩ := entry
    rw [List.length_zipIdx] at inside
    refine ⟨List.getElem?_eq_some_iff.mpr ⟨inside, there⟩, named, fun earlier before other => ?_⟩
    intro stands called
    obtain ⟨_, same⟩ := List.getElem?_eq_some_iff.mp stands
    simpa [List.getElem_zipIdx, same, called] using first earlier before
  · obtain ⟨inside, there⟩ := List.getElem?_eq_some_iff.mp found.there
    refine ⟨found.named, place, by rwa [List.length_zipIdx], ?_, fun earlier before => ?_⟩
    · rw [List.getElem_zipIdx, Nat.zero_add, there]
    · have notNamed := found.first earlier before _
        (List.getElem?_eq_getElem (Nat.lt_trans before inside))
      simpa [List.getElem_zipIdx] using notNamed

theorem field?_eq_none_iff : shape.field? name = none ↔ shape.Lacks name := by
  rw [field?, List.find?_eq_none]
  refine ⟨fun notNamed field member => ?_, fun lacks entry member => ?_⟩
  · obtain ⟨place, inside, there⟩ := List.getElem_of_mem member
    refine notNamed (field, place) (List.mem_iff_getElem.mpr ⟨place, ?_, ?_⟩)
    · rwa [List.length_zipIdx]
    · rw [List.getElem_zipIdx, Nat.zero_add, there]
  · exact lacks entry.1 (List.fst_mem_of_mem_zipIdx member)

end Shape

/-! ### Names one after the other -/

/-- A field that a name has found, the shape that has it, and its place there. -/
structure Found where
  host : Shape
  field : Field
  place : Nat

namespace Found

/-- What a path tells of a field. -/
def hop (schema : Schema) (found : Found) : Hop :=
  { name := found.field.name, host := found.host.name, nullable := found.field.nullable,
    kind := schema.kindOf found.field.content }

/-- What a path keeps of a field, to read it by. -/
def step (schema : Schema) (found : Found) : Step :=
  ⟨found.hop schema, found.place, found.field.content⟩

end Found

/-- A path is its steps. -/
theorem Path.eq_of_steps_eq {path other : Path} (same : path.steps = other.steps) :
    path = other := by
  obtain ⟨through, leaf⟩ := path
  obtain ⟨otherThrough, otherLeaf⟩ := other
  obtain ⟨sameThrough, sameLeaf⟩ := List.append_inj' same rfl
  exact congrArg₂ Path.mk sameThrough (List.singleton_inj.mp sameLeaf)

namespace Schema

variable {schema : Schema} {number : Nat} {name : List Char} {rest : List (List Char)}

/-- Whether some names, looked up one after the other from the shape with a number, find these
fields. Every field but the last must hold records, in whose shape the next name is looked up. -/
inductive Finds (schema : Schema) : Nat → List (List Char) → List Found → Prop where
  | last {number place : Nat} {name : List Char} {field : Field}
      (found : (schema.shape number).FirstNamed name field place) :
      Finds schema number [name] [⟨schema.shape number, field, place⟩]
  | through {number place inner : Nat} {name : List Char} {names : List (List Char)}
      {field : Field} {later : List Found}
      (found : (schema.shape number).FirstNamed name field place)
      (content : field.content = .record inner) (beyond : Finds schema inner names later) :
      Finds schema number (name :: names) (⟨schema.shape number, field, place⟩ :: later)

/-- Whether the first of some names that cannot be looked up is this one, and in what. -/
inductive Misses (schema : Schema) : Nat → List (List Char) → List Char → String → Prop where
  | unknown {number : Nat} {name : List Char} {names : List (List Char)}
      (lacks : (schema.shape number).Lacks name) :
      Misses schema number (name :: names) name (schema.shape number).name
  /-- A plain value has no fields. -/
  | beyondValue {number place : Nat} {name next : List Char} {names : List (List Char)}
      {field : Field} {kind : Kind} (found : (schema.shape number).FirstNamed name field place)
      (content : field.content = .scalar kind) :
      Misses schema number (name :: next :: names) next kind.toText
  | later {number place inner : Nat} {name missing : List Char} {names : List (List Char)}
      {field : Field} {host : String} (found : (schema.shape number).FirstNamed name field place)
      (content : field.content = .record inner) (beyond : Misses schema inner names missing host) :
      Misses schema number (name :: names) missing host

/-- Each name has found a field of its own. -/
theorem Finds.forall₂ {names : List (List Char)} {found : List Found}
    (finds : schema.Finds number names found) :
    List.Forall₂ (fun name entry => entry.host.FirstNamed name entry.field entry.place)
      names found := by
  induction finds with
  | last found => exact .cons found .nil
  | through found content beyond inductionHypothesis => exact .cons found inductionHypothesis

/-! ### Resolving names -/

theorem step?_eq_ok_iff {step : Step} :
    schema.step? number name = .ok step ↔
      ∃ field place, (schema.shape number).FirstNamed name field place ∧
        step = Found.step schema ⟨schema.shape number, field, place⟩ := by
  rw [step?]
  cases entry : (schema.shape number).field? name with
  | none =>
    refine ⟨fun taken => by contradiction, ?_⟩
    rintro ⟨field, place, found, _⟩
    rw [Shape.field?_eq_some_iff.mpr found] at entry
    contradiction
  | some entry' =>
    obtain ⟨field, place⟩ := entry'
    refine ⟨fun taken => ?_, ?_⟩
    · exact ⟨field, place, Shape.field?_eq_some_iff.mp entry, (Except.ok.inj taken).symm⟩
    · rintro ⟨other, otherPlace, found, same⟩
      rw [Shape.field?_eq_some_iff.mpr found, Option.some.injEq, Prod.mk.injEq] at entry
      obtain ⟨rfl, rfl⟩ := entry
      rw [same]
      rfl

theorem step?_eq_error_iff {error : ResolutionError} :
    schema.step? number name = .error error ↔
      (schema.shape number).Lacks name ∧
        error = .unknownField (String.ofList name) (schema.shape number).name := by
  rw [step?, ← Shape.field?_eq_none_iff]
  cases entry : (schema.shape number).field? name with
  | none =>
    refine ⟨fun refused => ⟨rfl, (Except.error.inj refused).symm⟩, ?_⟩
    rintro ⟨_, rfl⟩
    rfl
  | some found =>
    refine ⟨fun refused => by contradiction, ?_⟩
    rintro ⟨missing, _⟩
    contradiction

/-- What names resolve to is made of the fields that they find. -/
theorem finds_of_resolveNames {path : Path}
    (resolved : schema.resolveNames number name rest = .ok path) :
    ∃ found, schema.Finds number (name :: rest) found ∧
      path.steps = found.map (Found.step schema) := by
  induction rest generalizing number name path with
  | nil =>
    rw [resolveNames, map_eq_ok_iff] at resolved
    obtain ⟨step, taken, rfl⟩ := resolved
    obtain ⟨field, place, found, rfl⟩ := step?_eq_ok_iff.mp taken
    exact ⟨_, .last found, rfl⟩
  | cons next rest inductionHypothesis =>
    rw [resolveNames] at resolved
    cases taken : schema.step? number name with
    | error fault => simp [taken] at resolved
    | ok step =>
      obtain ⟨field, place, found, rfl⟩ := step?_eq_ok_iff.mp taken
      cases content : field.content with
      | scalar kind => simp [taken, Found.step, content] at resolved
      | record inner =>
        simp only [taken, Found.step, content, map_eq_ok_iff] at resolved
        obtain ⟨beyond, later, rfl⟩ := resolved
        obtain ⟨others, finds, steps⟩ := inductionHypothesis later
        refine ⟨_, .through found content finds, ?_⟩
        rw [List.map_cons, ← steps, Found.step, content]
        rfl

/-- Names that all find their fields resolve. -/
theorem Finds.resolveNames {names : List (List Char)} {found : List Found}
    (finds : schema.Finds number names found) :
    ∃ name rest path, names = name :: rest ∧ schema.resolveNames number name rest = .ok path ∧
      path.steps = found.map (Found.step schema) := by
  induction finds with
  | @last number place name field found =>
    refine ⟨name, [], ⟨[], _⟩, rfl, ?_, rfl⟩
    rw [Schema.resolveNames, step?_eq_ok_iff.mpr ⟨field, place, found, rfl⟩]
    rfl
  | @through number place inner name names field later found content beyond inductionHypothesis =>
    obtain ⟨next, rest, path, rfl, resolved, steps⟩ := inductionHypothesis
    refine ⟨name, next :: rest, { path with through := _ :: path.through }, rfl, ?_,
      congrArg (_ :: ·) steps⟩
    rw [Schema.resolveNames, step?_eq_ok_iff.mpr ⟨field, place, found, rfl⟩]
    simp only [Found.step, content, resolved]
    rfl

/-- The fault of names that do not resolve is the first of them that cannot be looked up. -/
theorem misses_of_resolveNames {error : ResolutionError}
    (failed : schema.resolveNames number name rest = .error error) :
    ∃ missing host, schema.Misses number (name :: rest) missing host ∧
      error = .unknownField (String.ofList missing) host := by
  induction rest generalizing number name with
  | nil =>
    rw [Schema.resolveNames, map_eq_error_iff] at failed
    obtain ⟨lacks, rfl⟩ := step?_eq_error_iff.mp failed
    exact ⟨_, _, .unknown lacks, rfl⟩
  | cons next rest inductionHypothesis =>
    rw [Schema.resolveNames] at failed
    cases taken : schema.step? number name with
    | error fault =>
      obtain ⟨lacks, rfl⟩ := step?_eq_error_iff.mp taken
      rw [taken] at failed
      exact ⟨_, _, .unknown lacks, (Except.error.inj failed).symm⟩
    | ok step =>
      obtain ⟨field, place, found, rfl⟩ := step?_eq_ok_iff.mp taken
      cases content : field.content with
      | scalar kind =>
        simp only [taken, Found.step, content, Except.error.injEq] at failed
        exact ⟨_, _, .beyondValue found content, failed.symm⟩
      | record inner =>
        simp only [taken, Found.step, content, map_eq_error_iff] at failed
        obtain ⟨missing, host, misses, same⟩ := inductionHypothesis failed
        exact ⟨missing, host, .later found content misses, same⟩

/-- Names of which one cannot be looked up do not resolve. -/
theorem Misses.resolveNames {names : List (List Char)} {missing : List Char} {host : String}
    (misses : schema.Misses number names missing host) :
    ∃ name rest, names = name :: rest ∧ schema.resolveNames number name rest =
      .error (.unknownField (String.ofList missing) host) := by
  induction misses with
  | @unknown number name names lacks =>
    refine ⟨name, names, rfl, ?_⟩
    have refused := step?_eq_error_iff.mpr ⟨lacks, rfl⟩
    cases names with
    | nil =>
      rw [Schema.resolveNames, refused]
      rfl
    | cons next rest => rw [Schema.resolveNames, refused]
  | @beyondValue number place name next names field kind found content =>
    refine ⟨name, next :: names, rfl, ?_⟩
    rw [Schema.resolveNames, step?_eq_ok_iff.mpr ⟨field, place, found, rfl⟩]
    simp only [Found.step, content]
  | @later number place inner name missing names field host found content beyond
      inductionHypothesis =>
    obtain ⟨next, rest, rfl, failed⟩ := inductionHypothesis
    refine ⟨name, next :: rest, rfl, ?_⟩
    rw [Schema.resolveNames, step?_eq_ok_iff.mpr ⟨field, place, found, rfl⟩]
    simp only [Found.step, content, failed]
    rfl

/-! ### Resolving paths -/

/-- The names in a path: what stands between its points. -/
def namesIn (text : String) : List (List Char) :=
  text.toList.splitOn '.'

theorem exists_namesIn_eq_cons (text : String) : ∃ name rest, namesIn text = name :: rest :=
  List.exists_cons_of_ne_nil (List.splitOn_ne_nil '.' text.toList)

theorem resolve_of_emptyName {text : String} (empty : [] ∈ namesIn text) :
    schema.resolve text = .error (.emptyPath text) := by
  have refused : (namesIn text).any List.isEmpty = true := List.any_eq_true.mpr ⟨[], empty, rfl⟩
  simp only [resolve, splitAt_eq_splitOn]
  exact if_pos refused

theorem resolve_of_named {text : String} (named : [] ∉ namesIn text)
    (names : namesIn text = name :: rest) :
    schema.resolve text = schema.resolveNames 0 name rest := by
  have allNamed : (namesIn text).any List.isEmpty = false := by
    rw [List.any_eq_false]
    intro part member
    rw [List.isEmpty_iff]
    rintro rfl
    exact named member
  rw [namesIn] at allNamed names
  rw [names] at allNamed
  simp only [resolve, splitAt_eq_splitOn, names, allNamed, Bool.false_eq_true, if_false]

variable {text : String}

theorem resolve_eq_ok_iff {path : Path} :
    schema.resolve text = .ok path ↔
      [] ∉ namesIn text ∧ ∃ found, schema.Finds 0 (namesIn text) found ∧
        path.steps = found.map (Found.step schema) := by
  by_cases empty : [] ∈ namesIn text
  · rw [resolve_of_emptyName empty]
    exact iff_of_false nofun fun named => named.1 empty
  · obtain ⟨name, rest, names⟩ := exists_namesIn_eq_cons text
    rw [resolve_of_named empty names, names]
    refine ⟨fun resolved => ⟨names ▸ empty, finds_of_resolveNames resolved⟩, ?_⟩
    rintro ⟨_, found, finds, steps⟩
    obtain ⟨_, _, other, same, resolved, otherSteps⟩ := finds.resolveNames
    obtain ⟨rfl, rfl⟩ := List.cons.inj same
    rw [resolved, Path.eq_of_steps_eq (steps.trans otherSteps.symm)]

theorem resolve_eq_error_iff {error : ResolutionError} :
    schema.resolve text = .error error ↔
      [] ∈ namesIn text ∧ error = .emptyPath text ∨
        [] ∉ namesIn text ∧ ∃ missing host, schema.Misses 0 (namesIn text) missing host ∧
          error = .unknownField (String.ofList missing) host := by
  by_cases empty : [] ∈ namesIn text
  · rw [resolve_of_emptyName empty, Except.error.injEq, eq_comm]
    exact ⟨fun same => .inl ⟨empty, same⟩, fun refused => refused.elim And.right fun named =>
      absurd empty named.1⟩
  · obtain ⟨name, rest, names⟩ := exists_namesIn_eq_cons text
    rw [resolve_of_named empty names]
    refine ⟨fun failed => .inr ⟨empty, ?_⟩, fun refused => ?_⟩
    · obtain ⟨missing, host, misses, same⟩ := misses_of_resolveNames failed
      exact ⟨missing, host, names ▸ misses, same⟩
    · rcases refused with ⟨isEmpty, _⟩ | ⟨_, missing, host, misses, rfl⟩
      · exact absurd isEmpty empty
      · obtain ⟨_, _, same, failed⟩ := misses.resolveNames
        obtain ⟨rfl, rfl⟩ := List.cons.inj (names.symm.trans same)
        exact failed

end Schema

/-- Nodes of a chain. A node has two fields whose names differ only in case, and only the first of
them can be found. -/
def Sample.nodes : Schema :=
  ⟨[⟨"Node", [⟨"Label", false, .scalar .text⟩, ⟨"Weight", true, .scalar .int⟩,
    ⟨"Next", true, .record 0⟩, ⟨"LABEL", false, .scalar .int⟩]⟩]⟩

/-- A path in which a name is empty is refused for that. Any other resolves just where its names,
looked up one after the other, all find their fields, and fails by the first that cannot be looked
up where there is one. A resolved path has one hop for each name, which tells of the field that the
name has found, and ends in the kind of the last. -/
theorem Schema.resolve_finds_or_misses (schema : Schema) (text : String) :
    (∀ error, schema.resolve text = .error error ↔
      [] ∈ namesIn text ∧ error = .emptyPath text ∨
        [] ∉ namesIn text ∧ ∃ missing host, schema.Misses 0 (namesIn text) missing host ∧
          error = .unknownField (String.ofList missing) host) ∧
      (∀ path, schema.resolve text = .ok path ↔
        [] ∉ namesIn text ∧ ∃ found, schema.Finds 0 (namesIn text) found ∧
          path.steps = found.map (Found.step schema)) ∧
      ∀ path, schema.resolve text = .ok path →
        ∃ found last, schema.Finds 0 (namesIn text) found ∧
          List.Forall₂ (fun name entry => entry.host.FirstNamed name entry.field entry.place)
            (namesIn text) found ∧
          path.hops = found.map (Found.hop schema) ∧
          path.hops.length = (namesIn text).length ∧
          found.getLast? = some last ∧ path.kind = schema.kindOf last.field.content := by
  refine ⟨fun error => resolve_eq_error_iff, fun path => resolve_eq_ok_iff, fun path resolved => ?_⟩
  obtain ⟨_, found, finds, steps⟩ := resolve_eq_ok_iff.mp resolved
  have hops : path.hops = found.map (Found.hop schema) := by
    rw [Path.hops, steps, List.map_map]
    rfl
  have oneEach := finds.forall₂
  have leaf : (found.map (Found.step schema)).getLast? = some path.leaf := by
    rw [← steps, Path.steps, List.getLast?_append, List.getLast?_singleton, Option.some_or]
  rw [List.getLast?_map, Option.map_eq_some_iff] at leaf
  obtain ⟨last, isLast, leaf⟩ := leaf
  refine ⟨found, last, finds, oneEach, hops, ?_, isLast, ?_⟩
  · rw [hops, List.length_map, oneEach.length_eq]
  · rw [Path.kind, ← leaf]
    rfl

/-- The text of the second node of a chain is found by two names in any case, and both fields belong
to nodes. -/
theorem Schema.resolve_finds_or_misses_of_nextLabel :
    ∃ path found last, Sample.nodes.resolve "next.label" = .ok path ∧
      Sample.nodes.Finds 0 (namesIn "next.label") found ∧
      path.hops = [⟨"Next", "Node", true, .record "Node"⟩, ⟨"Label", "Node", false, .text⟩] ∧
      path.hops = found.map (Found.hop Sample.nodes) ∧ found.getLast? = some last ∧
      path.kind = Sample.nodes.kindOf last.field.content := by
  obtain ⟨found, last, finds, _, hops, _, isLast, kind⟩ :=
    (Sample.nodes.resolve_finds_or_misses "next.label").2.2 _ rfl
  exact ⟨_, found, last, rfl, finds, rfl, hops, isLast, kind⟩

/-- An empty name is worse than an unknown one before it. -/
example : Sample.nodes.resolve "Color..Label" = .error (.emptyPath "Color..Label") := rfl

/-- A plain value has no fields. -/
example : Sample.nodes.resolve "Label.Length" = .error (.unknownField "Length" "text") := rfl

end RecordQuery

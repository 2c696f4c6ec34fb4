/-
This file proves that paths are stable: a resolved path, written out in the names that its fields
are registered with, resolves to itself, and so does each of its beginnings.

A name finds the first field that is called so in any case. Looking up the registered name of that
field finds it again, since names that differ only in case have the same first field. A name that
was looked up is not empty and has no point in it, so the points of a written path are exactly
those between its names.
-/

import RecordQuery.Proofs.Outcome
import RecordQuery.Schema.Path

namespace RecordQuery

open Text

/-! ### Names -/

namespace Text

theorem splitAt_eq_splitOn (separator : Char) (text : List Char) :
    splitAt separator text = text.splitOn separator := by
  induction text with
  | nil => rfl
  | cons char rest inductionHypothesis =>
    rw [splitAt, List.splitOn_cons_eq_if_modifyHead, inductionHypothesis]
    by_cases same : char = separator
    · simp [same]
    · rw [if_neg same, if_neg (by simpa using same)]
      cases parts : rest.splitOn separator with
      | nil => exact absurd parts (List.splitOn_ne_nil separator rest)
      | cons part later => rfl

theorem splitAt_ne_nil (separator : Char) (text : List Char) : splitAt separator text ≠ [] := by
  rw [splitAt_eq_splitOn]
  exact List.splitOn_ne_nil separator text

/-- Splitting a text gives parts without the separator. -/
theorem notMem_of_mem_splitAt {separator : Char} {text part : List Char}
    (member : part ∈ splitAt separator text) : separator ∉ part := by
  induction text generalizing part with
  | nil =>
    rw [splitAt, List.mem_singleton] at member
    simp [member]
  | cons char rest inductionHypothesis =>
    rw [splitAt] at member
    by_cases same : char = separator
    · rw [if_pos same] at member
      rcases List.mem_cons.mp member with rfl | later
      · exact List.not_mem_nil
      · exact inductionHypothesis later
    · rw [if_neg same] at member
      cases parts : splitAt separator rest with
      | nil => exact absurd parts (splitAt_ne_nil separator rest)
      | cons first later =>
        simp only [parts] at member
        rcases List.mem_cons.mp member with rfl | inLater
        · have inRest : separator ∉ first :=
            inductionHypothesis (by rw [parts]; exact List.mem_cons_self)
          simp [Ne.symm same, inRest]
        · exact inductionHypothesis (by rw [parts]; exact List.mem_cons_of_mem first inLater)

/-- No capital letter has the point for its small letter. -/
theorem toLower_eq_point_iff (char : Char) : char.toLower = '.' ↔ char = '.' := by
  unfold Char.toLower
  split
  · rename_i capital
    have range : 65 ≤ char.val.toNat ∧ char.val.toNat ≤ 90 := by
      simpa [UInt32.le_iff_toNat_le] using capital
    refine iff_of_false (fun lowered => ?_) (fun same => ?_)
    · have code : (char.val.toNat + 32) % 2 ^ 32 = 46 := by
        simpa [UInt32.toNat_add] using congrArg (UInt32.toNat ∘ Char.val) lowered
      omega
    · have code : char.val.toNat = 46 := congrArg (UInt32.toNat ∘ Char.val) same
      omega
  · rfl

theorem point_mem_map_toLower_iff (name : List Char) :
    '.' ∈ name.map Char.toLower ↔ '.' ∈ name := by
  simp [List.mem_map, toLower_eq_point_iff]

/-- Names that differ only in case both have a point, or neither has. -/
theorem point_mem_congr {left right : List Char} (same : sameIgnoringCase left right) :
    '.' ∈ left ↔ '.' ∈ right := by
  rw [sameIgnoringCase, decide_eq_true_eq] at same
  rw [← point_mem_map_toLower_iff left, same, point_mem_map_toLower_iff]

end Text

/-! ### Steps by their registered names -/

theorem Shape.field?_congr {left right : List Char} (same : sameIgnoringCase left right)
    (shape : Shape) : shape.field? left = shape.field? right := by
  rw [sameIgnoringCase, decide_eq_true_eq] at same
  simp only [Shape.field?, sameIgnoringCase, same]

namespace Schema

variable {schema : Schema}

/-- Whether a step is the one that its own registered name leads to, in the shape with a number,
and that name can stand between the points of a path. -/
structure Takes (schema : Schema) (number : Nat) (step : Step) : Prop where
  found : schema.step? number step.hop.name.toList = .ok step
  nonempty : step.hop.name.toList ≠ []
  undotted : '.' ∉ step.hop.name.toList

theorem step?_congr {left right : List Char} (same : sameIgnoringCase left right) (number : Nat)
    {step : Step} (found : schema.step? number left = .ok step) :
    schema.step? number right = .ok step := by
  rw [step?, Shape.field?_congr same] at found
  rw [step?]
  cases field : (schema.shape number).field? right with
  | none => simp [field] at found
  | some entry => simpa [field] using found

/-- The name that led to a step differs from its registered name only in case. -/
theorem sameIgnoringCase_of_step? {number : Nat} {name : List Char} {step : Step}
    (found : schema.step? number name = .ok step) :
    sameIgnoringCase step.hop.name.toList name := by
  rw [step?] at found
  cases field : (schema.shape number).field? name with
  | none => simp [field] at found
  | some entry =>
    obtain ⟨entry, place⟩ := entry
    have same := List.find?_some field
    simp only [field, Except.ok.injEq] at found
    subst found
    exact same

theorem takes_of_step? {number : Nat} {name : List Char} {step : Step}
    (found : schema.step? number name = .ok step) (nonempty : name ≠ [])
    (undotted : '.' ∉ name) : schema.Takes number step := by
  have same := sameIgnoringCase_of_step? found
  have lowered : step.hop.name.toList.map Char.toLower = name.map Char.toLower := by
    simpa [sameIgnoringCase] using same
  have back : sameIgnoringCase name step.hop.name.toList := by
    rw [sameIgnoringCase, lowered, decide_eq_true_eq]
  refine ⟨step?_congr back number found, fun empty => ?_,
    (not_congr (point_mem_congr same)).mpr undotted⟩
  rw [empty, List.map_nil, eq_comm, List.map_eq_nil_iff] at lowered
  exact nonempty lowered

/-! ### Walks through shapes -/

/-- Whether some steps lead from the shape with a number to that with another, each in the shape
of the records that the one before it holds. -/
inductive Leads (schema : Schema) : Nat → List Step → Nat → Prop where
  | here (number : Nat) : Leads schema number [] number
  | through {start inner finish : Nat} {step : Step} {steps : List Step} :
      schema.Takes start step → step.content = .record inner →
        Leads schema inner steps finish → Leads schema start (step :: steps) finish

/-- Whether a path is written in registered names all along, from the shape with a number. -/
def Walks (schema : Schema) (start : Nat) (path : Path) : Prop :=
  ∃ finish, schema.Leads start path.through finish ∧ schema.Takes finish path.leaf

/-- Every beginning of a walk is a walk. -/
theorem Leads.split {start finish : Nat} {before after : List Step}
    (leads : schema.Leads start (before ++ after) finish) :
    ∃ middle, schema.Leads start before middle ∧ schema.Leads middle after finish := by
  induction before generalizing start with
  | nil => exact ⟨start, .here start, leads⟩
  | cons step steps inductionHypothesis =>
    cases leads with
    | through takes content later =>
      obtain ⟨middle, first, second⟩ := inductionHypothesis later
      exact ⟨middle, .through takes content first, second⟩

theorem walks_of_resolveNames {number : Nat} {name : List Char} {rest : List (List Char)}
    {path : Path} (resolved : schema.resolveNames number name rest = .ok path)
    (nonempty : ∀ part ∈ name :: rest, part ≠ []) (undotted : ∀ part ∈ name :: rest, '.' ∉ part) :
    schema.Walks number path := by
  induction rest generalizing number name path with
  | nil =>
    rw [resolveNames, map_eq_ok_iff] at resolved
    obtain ⟨step, found, same⟩ := resolved
    rw [← same]
    exact ⟨number, .here number, takes_of_step? found (nonempty name List.mem_cons_self)
      (undotted name List.mem_cons_self)⟩
  | cons next rest inductionHypothesis =>
    rw [resolveNames] at resolved
    cases found : schema.step? number name with
    | error fault => simp [found] at resolved
    | ok step =>
      have takes := takes_of_step? found (nonempty name List.mem_cons_self)
        (undotted name List.mem_cons_self)
      simp only [found] at resolved
      cases content : step.content with
      | scalar kind => simp [content] at resolved
      | record inner =>
        simp only [content, map_eq_ok_iff] at resolved
        obtain ⟨beyond, later, same⟩ := resolved
        obtain ⟨finish, leads, leaf⟩ := inductionHypothesis later
          (fun part member => nonempty part (List.mem_cons_of_mem name member))
          (fun part member => undotted part (List.mem_cons_of_mem name member))
        rw [← same]
        exact ⟨finish, .through takes content leads, leaf⟩

/-- Resolving gives walks from the first shape. -/
theorem walks_of_resolve {text : String} {path : Path}
    (resolved : schema.resolve text = .ok path) : schema.Walks 0 path := by
  simp only [resolve] at resolved
  split at resolved
  · contradiction
  · rename_i allNamed
    have named : ∀ part ∈ splitAt '.' text.toList, part ≠ [] := by
      rintro part member rfl
      exact allNamed (List.any_eq_true.mpr ⟨[], member, rfl⟩)
    split at resolved
    · contradiction
    · rename_i name rest parts
      rw [parts] at named
      refine walks_of_resolveNames resolved named fun part member => ?_
      exact notMem_of_mem_splitAt (by rw [parts]; exact member)

/-! ### Walks resolve to themselves -/

/-- The registered names of some steps. -/
def namesOf (steps : List Step) : List (List Char) :=
  steps.map fun step => step.hop.name.toList

theorem resolveNames_of_leads {start finish : Nat} {through : List Step} {leaf : Step}
    (leads : schema.Leads start through finish) (takes : schema.Takes finish leaf) :
    ∃ name rest, namesOf (through ++ [leaf]) = name :: rest ∧
      schema.resolveNames start name rest = .ok ⟨through, leaf⟩ := by
  induction leads with
  | here number =>
    refine ⟨leaf.hop.name.toList, [], rfl, ?_⟩
    rw [resolveNames, takes.found]
    rfl
  | @through start inner finish step steps first content later inductionHypothesis =>
    obtain ⟨name, rest, names, resolved⟩ := inductionHypothesis takes
    refine ⟨step.hop.name.toList, name :: rest, congrArg _ names, ?_⟩
    rw [resolveNames, first.found]
    simp only [content, resolved]
    rfl

/-- All steps on the way are written in registered names and lead to nested records. -/
theorem Leads.takes_of_mem {start finish : Nat} {through : List Step}
    (leads : schema.Leads start through finish) {step : Step} (member : step ∈ through) :
    ∃ number inner, schema.Takes number step ∧ step.content = .record inner := by
  induction leads with
  | here number => cases member
  | @through start inner finish first steps takes content later inductionHypothesis =>
    rcases List.mem_cons.mp member with rfl | inLater
    · exact ⟨start, inner, takes, content⟩
    · exact inductionHypothesis inLater

theorem Walks.takes_of_mem {start : Nat} {path : Path} (walks : schema.Walks start path)
    {step : Step} (member : step ∈ path.steps) : ∃ number, schema.Takes number step := by
  obtain ⟨finish, leads, leaf⟩ := walks
  rcases List.mem_append.mp member with onTheWay | atTheEnd
  · obtain ⟨number, inner, takes, content⟩ := leads.takes_of_mem onTheWay
    exact ⟨number, takes⟩
  · rw [List.mem_singleton.mp atTheEnd]
    exact ⟨finish, leaf⟩

/-- Splitting the text of a walk at its points gives back its names. -/
theorem splitAt_joinNames {start : Nat} {path : Path} (walks : schema.Walks start path) :
    splitAt '.' (Path.joinNames path.hops).toList = namesOf path.steps := by
  have names : (path.hops.map Hop.name).map String.toList = namesOf path.steps := by
    simp [Path.hops, namesOf, Function.comp_def]
  have point : ".".toList = ['.'] := rfl
  rw [Path.joinNames, String.toList_intercalate, names, point, splitAt_eq_splitOn]
  refine List.splitOn_intercalate '.' ?_ ?_
  · intro name member
    obtain ⟨step, stepMember, rfl⟩ := List.mem_map.mp member
    obtain ⟨number, takes⟩ := walks.takes_of_mem stepMember
    exact takes.undotted
  · simp [namesOf, Path.steps]

/-- A walk, written out, resolves to itself. -/
theorem resolve_joinNames {path : Path} (walks : schema.Walks 0 path) :
    schema.resolve (Path.joinNames path.hops) = .ok path := by
  have named : (namesOf path.steps).any List.isEmpty = false := by
    rw [List.any_eq_false]
    intro part member
    obtain ⟨step, stepMember, rfl⟩ := List.mem_map.mp member
    obtain ⟨number, takes⟩ := walks.takes_of_mem stepMember
    rw [List.isEmpty_iff]
    exact takes.nonempty
  have parts := splitAt_joinNames walks
  obtain ⟨finish, leads, leaf⟩ := walks
  obtain ⟨name, rest, names, resolved⟩ := resolveNames_of_leads leads leaf
  rw [show namesOf path.steps = name :: rest from names] at named parts
  simp only [resolve, parts, named, resolved, Bool.false_eq_true, if_false]

end Schema

namespace Path

/-- The path to the record that a step on the way leads to. -/
def upTo (path : Path) (depth : Nat) (inside : depth < path.through.length) : Path :=
  ⟨path.through.take depth, path.through[depth]⟩

theorem hops_upTo (path : Path) (depth : Nat) (inside : depth < path.through.length) :
    (path.upTo depth inside).hops = path.hops.take (depth + 1) := by
  have shorter : depth + 1 ≤ path.through.length := inside
  rw [hops, hops, steps, steps, upTo, ← List.map_take, List.take_append_of_le_length shorter,
    List.take_succ_eq_append_getElem inside]

end Path

namespace Schema

variable {schema : Schema}

/-- Every beginning of a walk that ends at a record is a walk. -/
theorem Walks.upTo {start : Nat} {path : Path} (walks : schema.Walks start path) (depth : Nat)
    (inside : depth < path.through.length) : schema.Walks start (path.upTo depth inside) := by
  obtain ⟨finish, leads, leaf⟩ := walks
  have parts : path.through =
      path.through.take depth ++ path.through[depth] :: path.through.drop (depth + 1) := by
    rw [List.getElem_cons_drop, List.take_append_drop]
  rw [parts] at leads
  obtain ⟨middle, before, later⟩ := leads.split
  cases later with
  | through takes content beyond => exact ⟨middle, before, takes⟩

/-- The beginnings of a resolved path, written out, resolve to themselves. -/
theorem resolve_prefix {text : String} {path : Path} (resolved : schema.resolve text = .ok path)
    (depth : Nat) (inside : depth < path.through.length) :
    schema.resolve (Path.joinNames (path.hops.take (depth + 1))) =
      .ok (path.upTo depth inside) := by
  rw [← Path.hops_upTo path depth inside]
  exact resolve_joinNames ((walks_of_resolve resolved).upTo depth inside)

end Schema

end RecordQuery

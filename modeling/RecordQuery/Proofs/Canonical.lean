/-
This file proves that paths have one form that is their own. Whatever case a path is given in, it
resolves to the same path, and what that is written as resolves to it once more.

The text of a path is what predicates are compared and displayed by, and its beginnings are what
guards are built from. So both go back from hops to texts and resolve these again. With names that
occur twice, names that differ only in case and shapes that hold themselves, the second lookup still
lands on the same field at every depth. A guard can therefore be built for every resolved path.
-/

import RecordQuery.Proofs.Guarding
import RecordQuery.Proofs.Lookup

namespace RecordQuery

open Text

/-! ### Names in another case -/

namespace Text

theorem sameIgnoringCase_iff {left right : List Char} :
    sameIgnoringCase left right ↔ left.map Char.toLower = right.map Char.toLower :=
  decide_eq_true_iff

theorem sameIgnoringCase_congr {left right : List Char} (same : sameIgnoringCase left right)
    (name : List Char) : sameIgnoringCase name left = sameIgnoringCase name right := by
  rw [sameIgnoringCase, sameIgnoringCase, sameIgnoringCase_iff.mp same]

/-- Lower case leaves the points of a text where they are. -/
theorem splitAt_map_toLower (text : List Char) :
    splitAt '.' (text.map Char.toLower) = (splitAt '.' text).map (List.map Char.toLower) := by
  induction text with
  | nil => rfl
  | cons char rest inductionHypothesis =>
    rw [List.map_cons, splitAt, splitAt, inductionHypothesis]
    by_cases point : char = '.'
    · rw [if_pos point, if_pos ((toLower_eq_point_iff char).mpr point)]
      rfl
    · rw [if_neg point, if_neg ((toLower_eq_point_iff char).not.mpr point)]
      cases splitAt '.' rest <;> rfl

end Text

theorem Shape.FirstNamed.congr {shape : Shape} {name another : List Char} {field : Field}
    {place : Nat} (found : shape.FirstNamed name field place)
    (same : sameIgnoringCase name another) : shape.FirstNamed another field place := by
  refine ⟨found.there, ?_, fun earlier before other stands => ?_⟩
  · rw [← sameIgnoringCase_congr same]
    exact found.named
  · rw [← sameIgnoringCase_congr same]
    exact found.first earlier before other stands

namespace Schema

variable {schema : Schema} {text other : String} {path : Path}

/-- Names find the same fields in any case. -/
theorem Finds.congr {number : Nat} {names others : List (List Char)} {found : List Found}
    (finds : schema.Finds number names found)
    (same : List.Forall₂ (fun name another => sameIgnoringCase name another) names others) :
    schema.Finds number others found := by
  induction finds generalizing others with
  | last found =>
    cases same with
    | cons first rest =>
      cases rest
      exact .last (found.congr first)
  | through found content beyond inductionHypothesis =>
    cases same with
    | cons first rest => exact .through (found.congr first) content (inductionHypothesis rest)

/-- Texts that differ only in case have names that differ only in case. -/
theorem namesIn_congr (same : sameIgnoringCase text.toList other.toList) :
    List.Forall₂ (fun name another => sameIgnoringCase name another) (namesIn text)
      (namesIn other) := by
  have lowered : (namesIn text).map (List.map Char.toLower) =
      (namesIn other).map (List.map Char.toLower) := by
    rw [namesIn, namesIn, ← splitAt_eq_splitOn, ← splitAt_eq_splitOn, ← splitAt_map_toLower,
      ← splitAt_map_toLower, sameIgnoringCase_iff.mp same]
  rw [← List.forall₂_eq_eq_eq, List.forall₂_map_left_iff, List.forall₂_map_right_iff] at lowered
  exact lowered.imp fun name another same => sameIgnoringCase_iff.mpr same

theorem emptyName_congr {names others : List (List Char)}
    (same : List.Forall₂ (fun name another => sameIgnoringCase name another) names others)
    (empty : [] ∈ others) : [] ∈ names := by
  induction same with
  | nil => exact empty
  | cons first rest inductionHypothesis =>
    rcases List.mem_cons.mp empty with rfl | later
    · rw [sameIgnoringCase_iff, List.map_nil, List.map_eq_nil_iff] at first
      exact first ▸ List.mem_cons_self
    · exact List.mem_cons_of_mem _ (inductionHypothesis later)

/-- A path resolves as it does in any other case. -/
theorem resolve_congr (resolved : schema.resolve text = .ok path)
    (same : sameIgnoringCase text.toList other.toList) : schema.resolve other = .ok path := by
  obtain ⟨named, found, finds, steps⟩ := resolve_eq_ok_iff.mp resolved
  have names := namesIn_congr same
  exact resolve_eq_ok_iff.mpr
    ⟨fun empty => named (emptyName_congr names empty), found, finds.congr names, steps⟩

/-! ### Paths as they are written -/

theorem Takes.kind {number : Nat} {step : Step} (takes : schema.Takes number step) :
    step.hop.kind = schema.kindOf step.content := by
  obtain ⟨field, place, _, same⟩ := step?_eq_ok_iff.mp takes.found
  rw [same]
  rfl

end Schema

theorem Path.hops_length (path : Path) : path.hops.length = path.through.length + 1 := by
  rw [hops, List.length_map, steps, List.length_append, List.length_singleton]

/-- The beginnings of a resolved path resolve to just these beginnings, and end at records. -/
theorem Schema.resolve_prefixTexts {schema : Schema} {text : String} {path : Path}
    (resolved : schema.resolve text = .ok path) {depth : Nat} (inside : depth < path.through.length) :
    path.prefixTexts[depth]? = some (path.textThrough depth) ∧
      schema.resolve (path.textThrough depth) = .ok (path.upTo depth inside) ∧
      ∃ number, (path.upTo depth inside).leaf.content = .record number ∧
        (path.upTo depth inside).kind = .record (schema.shape number).name := by
  obtain ⟨finish, leads, _⟩ := walks_of_resolve resolved
  obtain ⟨_, number, takes, content⟩ := leads.takes_of_mem (List.getElem_mem inside)
  refine ⟨?_, resolve_prefix resolved depth inside, number, content, ?_⟩
  · rw [Path.prefixTexts, List.getElem?_map, List.getElem?_range inside]
    rfl
  · show path.through[depth].hop.kind = _
    rw [takes.kind, content]
    rfl

/-- A resolved path, written out in the names of its fields, resolves to itself, and in any other
case what it was given as does. Each of its beginnings ends at a record and resolves to the hops
that it is written from. So a guard of the path can always be built. -/
theorem Schema.resolve_stable {schema : Schema} {text : String} {path : Path}
    (resolved : schema.resolve text = .ok path) :
    schema.resolve path.toText = .ok path ∧
      (∀ other : String, sameIgnoringCase text.toList other.toList →
        schema.resolve other = .ok path) ∧
      path.prefixTexts.length = path.hops.length - 1 ∧
      (∀ depth, depth < path.hops.length - 1 →
        ∃ beginning before number, path.prefixTexts[depth]? = some beginning ∧
          schema.resolve beginning = .ok before ∧ before.hops = path.hops.take (depth + 1) ∧
          before.leaf.content = .record number ∧
          before.kind = .record (schema.shape number).name) ∧
      ∀ predicate, ∃ built, schema.guarded path predicate = .ok built := by
  refine ⟨resolve_joinNames (walks_of_resolve resolved), fun other same => resolve_congr resolved same,
    ?_, fun depth before => ?_, fun predicate => ?_⟩
  · rw [Path.hops_length, Path.prefixTexts, List.length_map, List.length_range, Nat.add_sub_cancel]
  · rw [Path.hops_length, Nat.add_sub_cancel] at before
    obtain ⟨listed, resolves, number, content, kind⟩ := resolve_prefixTexts resolved before
    exact ⟨_, _, number, listed, resolves, path.hops_upTo depth before, content, kind⟩
  · obtain ⟨built, guarded, _⟩ := guarded_shields resolved predicate
    exact ⟨built, guarded⟩

/-- The label of the third node of a chain is one path in any case. -/
theorem Schema.resolve_stable_of_nextNextLabel :
    ∃ path, Sample.nodes.resolve "next.next.label" = .ok path ∧ path.toText = "Next.Next.Label" ∧
      Sample.nodes.resolve "Next.Next.Label" = .ok path ∧
      Sample.nodes.resolve "NEXT.next.LABEL" = .ok path ∧
      ∃ built, Sample.nodes.guarded path (.text path .contains "a") = .ok built := by
  refine ⟨_, rfl, rfl, ?_⟩
  obtain ⟨again, anyCase, _, _, guards⟩ :=
    resolve_stable (show Sample.nodes.resolve "next.next.label" = .ok _ from rfl)
  exact ⟨again, anyCase "NEXT.next.LABEL" rfl, guards _⟩

end RecordQuery

/-
This file says which values a kind admits, and proves that constants are converted to what the kind
admits.

A field that is registered with a kind should read as null or as a value of that kind, and a list
should hold such values only. Nothing checks that on records. Constants are checked when they are
converted, so whatever a field is compared with is of its kind. What has been converted to a kind is
left as it is when it is converted to that kind again. No records come of it: there are constants of
the kind of a record, but none besides null.
-/

import RecordQuery.Predicate.Condition
import RecordQuery.Proofs.Traversal

namespace RecordQuery

open Number

namespace Kind

/-- Whether a value is null or of a kind, and if it is a list, whether all its items are. -/
def admits : Kind → Value → Bool
  | _, .null => true
  | .bool, .bool _ => true
  | .int, .int _ => true
  | .float, .float _ => true
  | .text, .text _ => true
  | .date, .date _ => true
  | .dateTime, .dateTime _ => true
  | .uuid, .uuid _ => true
  | .vector, .vector _ => true
  | .list item, .list items => items.all item.admits
  | .record _, .map _ => true
  | _, _ => false

theorem admits_of_ofText? {kind : Kind} {text : List Char} {constant : Value}
    (read : Value.ofText? kind text = some constant) : kind.admits constant = true := by
  unfold Value.ofText? at read
  cases kind with
  | text | vector | list | record => contradiction
  | bool | int | float | date | dateTime | uuid =>
    obtain ⟨_, _, rfl⟩ := Option.map_eq_some_iff.mp read
    rfl

/-- Constants are converted to what the kind admits. -/
theorem admits_of_convert? {kind : Kind} {value constant : Value}
    (converted : value.convert? kind = some constant) : kind.admits constant = true := by
  induction kind generalizing value constant with
  | int =>
    cases value with
    | text characters => exact admits_of_ofText? converted
    | float number =>
      obtain ⟨word, _, rfl⟩ := Option.map_eq_some_iff.mp converted
      rfl
    | _ => cases converted <;> rfl
  | text => cases value <;> cases converted <;> rfl
  | bool | float | date | dateTime | uuid | vector | record =>
    cases value with
    | text characters => exact admits_of_ofText? converted
    | _ => cases converted <;> rfl
  | list item inductionHypothesis =>
    cases value with
    | text characters => exact admits_of_ofText? converted
    | list items =>
      obtain ⟨constants, each, rfl⟩ := Option.map_eq_some_iff.mp converted
      exact List.all_eq_true.mpr
        (forall_mem_of_forall₂ (mapM_eq_some_iff.mp each) inductionHypothesis)
    | _ => cases converted <;> rfl

/-- Nothing but null is converted to a record. -/
theorem eq_null_of_convert?_record {name : String} {value constant : Value}
    (converted : value.convert? (.record name) = some constant) : constant = .null := by
  cases value <;> cases converted
  rfl

/-! ### Converting again -/

theorem convert?_self_of_ofText? {kind : Kind} {text : List Char} {constant : Value}
    (read : Value.ofText? kind text = some constant) : constant.convert? kind = some constant := by
  unfold Value.ofText? at read
  cases kind with
  | text | vector | list | record => contradiction
  | bool | int | float | date | dateTime | uuid =>
    obtain ⟨_, _, rfl⟩ := Option.map_eq_some_iff.mp read
    rfl

/-- Items that are left as they are make up a list that is left as it is. -/
theorem convert?_list_self {item : Kind} {items : List Value}
    (each : ∀ value ∈ items, value.convert? item = some value) :
    (Value.list items).convert? (.list item) = some (.list items) := by
  have traversed : items.mapM (Value.convert? item) = some items :=
    mapM_eq_some_iff.mpr (List.forall₂_same.mpr each)
  rw [Value.convert?, traversed, Option.map_some]

/-- A constant is left as it is when it is converted again. -/
theorem convert?_self_of_convert? {kind : Kind} {value constant : Value}
    (converted : value.convert? kind = some constant) :
    constant.convert? kind = some constant := by
  induction kind generalizing value constant with
  | int =>
    cases value with
    | text characters => exact convert?_self_of_ofText? converted
    | float number =>
      obtain ⟨word, _, rfl⟩ := Option.map_eq_some_iff.mp converted
      rfl
    | _ => cases converted <;> rfl
  | text => cases value <;> cases converted <;> rfl
  | bool | float | date | dateTime | uuid | vector | record =>
    cases value with
    | text characters => exact convert?_self_of_ofText? converted
    | _ => cases converted <;> rfl
  | list item inductionHypothesis =>
    cases value with
    | text characters => exact convert?_self_of_ofText? converted
    | list items =>
      obtain ⟨constants, each, rfl⟩ := Option.map_eq_some_iff.mp converted
      exact convert?_list_self
        (forall_mem_of_forall₂ (mapM_eq_some_iff.mp each) inductionHypothesis)
    | _ => cases converted <;> rfl

/-- A constant is null or of its kind, with all its items at every depth, and is left as it is when
it is converted again. The only constant of a record is null, which only null is converted to, and a
map is converted to nothing. -/
theorem convert?_lands_and_stays (kind : Kind) (value : Value) :
    (∀ constant, value.convert? kind = some constant →
        kind.admits constant = true ∧ constant.convert? kind = some constant) ∧
      (∀ name constant, value.convert? (.record name) = some constant ↔
        value = .null ∧ constant = .null) ∧
      ∀ fields, (Value.map fields).convert? kind = none := by
  refine ⟨fun constant converted => ?_, fun name constant => ⟨fun converted => ?_, ?_⟩,
    fun fields => ?_⟩
  · exact ⟨admits_of_convert? converted, convert?_self_of_convert? converted⟩
  · refine ⟨?_, eq_null_of_convert?_record converted⟩
    cases value <;> first | rfl | contradiction
  · rintro ⟨rfl, rfl⟩
    rfl
  · cases kind <;> rfl

/-- Texts and missing values in lists in a list become words and stay missing. -/
theorem convert?_lands_and_stays_of_nested :
    let value := Value.list [.list [.text " 7 ", .null, .int 5], .null]
    let constant := Value.list [.list [.int 7, .null, .int 5], .null]
    value.convert? (.list (.list .int)) = some constant ∧
      (list (list int)).admits constant = true ∧
      constant.convert? (.list (.list .int)) = some constant := by
  intro value constant
  have converted : value.convert? (.list (.list .int)) = some constant := rfl
  exact ⟨converted, (convert?_lands_and_stays _ value).1 constant converted⟩

end Kind

namespace Path

variable {path : Path} {value constant : Value}

theorem convertConstant_eq_ok_iff :
    path.convertConstant value = .ok constant ↔ value.convert? path.kind = some constant := by
  unfold convertConstant convertTo
  cases value.convert? path.kind <;> simp

theorem admits_of_mapM_convertConstant {values constants : List Value}
    (converted : values.mapM path.convertConstant = .ok constants) :
    ∀ constant ∈ constants, path.kind.admits constant = true :=
  forall_mem_of_forall₂ (mapM_eq_ok_iff.mp converted) fun converted =>
    Kind.admits_of_convert? (convertConstant_eq_ok_iff.mp converted)

/-- The keys of constants are put into a set once all of them are converted. -/
theorem convertKeys_eq_map (path : Path) (keys : KeySet) (values : List Value) :
    path.convertKeys keys values =
      (values.mapM path.convertConstant).map fun constants =>
        (constants.filterMap Key.ofValue?).foldl (fun keys key => KeySet.insert key keys) keys := by
  induction values generalizing keys with
  | nil => rfl
  | cons value values inductionHypothesis =>
    rw [convertKeys, List.mapM_cons]
    cases path.convertConstant value with
    | error fault => rfl
    | ok constant =>
      dsimp only
      rw [inductionHypothesis]
      cases values.mapM path.convertConstant with
      | error fault => rfl
      | ok constants =>
        refine congrArg Except.ok ?_
        simp only [List.filterMap_cons]
        cases Key.ofValue? constant <;> rfl

end Path

end RecordQuery

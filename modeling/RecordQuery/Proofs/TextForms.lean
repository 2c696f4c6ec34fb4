/-
This file proves which values have a JSON text, and that every value has a display.

The two are written by the same walk through lists and nested records. Both leave date-times to the
form of RFC 3339, which has none for some of them. There the JSON text breaks off, and with it the
text of everything around it, while the display falls back on a longer form. So a display could only
fail where a date-time has no form at all, and that does not happen.
-/

import RecordQuery.Key
import RecordQuery.Projection
import RecordQuery.Proofs.CalendarText

namespace RecordQuery

open Calendar

/-! ### Date-times without a form -/

namespace Calendar.DateTime

/-- Whether RFC 3339 has no form for a date-time: the year on its clock has more than four digits or
a sign, or its offset has seconds, or is a day or more. -/
def IsUnwritable (value : DateTime) : Prop :=
  ¬ (0 ≤ value.date.year ∧ value.date.year ≤ 9999) ∨ value.offset % 60 ≠ 0 ∨
    24 * 60 * 60 ≤ value.offset.natAbs

theorem toRfc3339?_eq_none_iff {value : DateTime} :
    value.toRfc3339? = none ↔ value.IsUnwritable := by
  have fourDigits := value.date.natAbs_year_lt
  unfold toRfc3339? isRfc3339 IsUnwritable
  simp only [ite_eq_right_iff, reduceCtorEq, imp_false, Bool.and_eq_true, decide_eq_true_eq]
  omega

/-- The text of a date-time as two attempts: at the form of RFC 3339, and at the full form if that
one fails. -/
def attempt? (value : DateTime) : Option String :=
  value.toRfc3339?.or (some value.toFullText)

theorem attempt?_eq (value : DateTime) : value.attempt? = some value.toText := by
  unfold attempt? toText
  cases value.toRfc3339? <;> rfl

end Calendar.DateTime

/-! ### Where date-times occur -/

/-- Where a date-time occurs in a value: it is that value, or occurs in an item of a list or in a
field of a nested record. -/
inductive Value.Holds (found : DateTime) : Value → Prop where
  | self : Holds found (.dateTime found)
  | item {item : Value} {items : List Value} : item ∈ items → Holds found item →
      Holds found (.list items)
  | field {field : String × Value} {fields : List (String × Value)} : field ∈ fields →
      Holds found field.2 → Holds found (.map fields)

/-- Where a date-time occurs in a key: it is that key, or occurs in a part of a composite one. -/
inductive Key.Holds (found : DateTime) : Key → Prop where
  | self : Holds found (.dateTime found)
  | part {part : Key} {parts : List Key} : part ∈ parts → Holds found part →
      Holds found (.composite parts)

namespace Key

theorem itemsToValues_eq_map (keys : List Key) : itemsToValues keys = keys.map toValue := by
  induction keys with
  | nil => rfl
  | cons key keys inductionHypothesis => rw [itemsToValues, inductionHypothesis, List.map_cons]

variable {found : DateTime}

mutual

theorem holds_of_toValue {key : Key} (holds : key.toValue.Holds found) : key.Holds found := by
  cases key with
  | dateTime value =>
    cases holds
    exact .self
  | composite parts =>
    obtain _ | ⟨member, holds⟩ := holds
    obtain ⟨part, inParts, holds⟩ := exists_part_of_itemsToValues member holds
    exact .part inParts holds
  | _ => contradiction

theorem exists_part_of_itemsToValues {keys : List Key} {value : Value}
    (member : value ∈ itemsToValues keys) (holds : value.Holds found) :
    ∃ key ∈ keys, key.Holds found := by
  cases keys with
  | nil => contradiction
  | cons key keys =>
    rcases List.mem_cons.mp member with rfl | member
    · exact ⟨key, List.mem_cons_self, holds_of_toValue holds⟩
    · obtain ⟨other, inKeys, holds⟩ := exists_part_of_itemsToValues member holds
      exact ⟨other, List.mem_cons_of_mem key inKeys, holds⟩

end

/-- A date-time occurs in a key just if it does in the value that shows the key. -/
theorem holds_toValue_iff {key : Key} : key.toValue.Holds found ↔ key.Holds found := by
  refine ⟨holds_of_toValue, fun holds => ?_⟩
  induction holds with
  | self => exact .self
  | part member _ inductionHypothesis =>
    rw [toValue, itemsToValues_eq_map]
    exact .item (List.mem_map_of_mem member) inductionHypothesis

end Key

/-! ### Forms that fail by their parts -/

namespace Value

/-- Whether a value is neither a date-time nor made of other values. -/
def isPlain : Value → Bool
  | dateTime _ | list _ | map _ => false
  | _ => true

/-- A way of writing values that fails with date-times, and with lists and nested records if it
fails with something in them. -/
structure FailsByParts (failing : DateTime → Prop) (fails : Value → Prop) : Prop where
  plain : ∀ value, isPlain value = true → ¬ fails value
  dateTime : ∀ value, fails (.dateTime value) ↔ failing value
  list : ∀ items, fails (.list items) ↔ ∃ item ∈ items, fails item
  map : ∀ fields, fails (.map fields) ↔ ∃ field ∈ fields, fails field.2

namespace FailsByParts

variable {failing : DateTime → Prop} {fails : Value → Prop}

/-- What is around a date-time fails with it. -/
theorem of_holds (byParts : FailsByParts failing fails) {found : DateTime} {value : Value}
    (holds : value.Holds found) (failed : failing found) : fails value := by
  induction holds with
  | self => exact (byParts.dateTime found).mpr failed
  | item member _ inductionHypothesis => exact (byParts.list _).mpr ⟨_, member, inductionHypothesis⟩
  | field member _ inductionHypothesis => exact (byParts.map _).mpr ⟨_, member, inductionHypothesis⟩

mutual

theorem exists_holds (byParts : FailsByParts failing fails) {value : Value}
    (failed : fails value) : ∃ found, value.Holds found ∧ failing found := by
  cases value with
  | dateTime value => exact ⟨value, .self, (byParts.dateTime value).mp failed⟩
  | list items =>
    obtain ⟨item, member, failed⟩ := (byParts.list items).mp failed
    obtain ⟨found, holds, failed⟩ := byParts.exists_holds_of_mem member failed
    exact ⟨found, .item member holds, failed⟩
  | map fields =>
    obtain ⟨field, member, failed⟩ := (byParts.map fields).mp failed
    obtain ⟨found, holds, failed⟩ := byParts.exists_holds_of_field_mem member failed
    exact ⟨found, .field member holds, failed⟩
  | _ => exact absurd failed (byParts.plain _ rfl)

theorem exists_holds_of_mem (byParts : FailsByParts failing fails) {item : Value}
    {items : List Value} (member : item ∈ items) (failed : fails item) :
    ∃ found, item.Holds found ∧ failing found := by
  cases items with
  | nil => contradiction
  | cons first rest =>
    rcases List.mem_cons.mp member with rfl | member
    · exact byParts.exists_holds failed
    · exact byParts.exists_holds_of_mem member failed

theorem exists_holds_of_field_mem (byParts : FailsByParts failing fails) {field : String × Value}
    {fields : List (String × Value)} (member : field ∈ fields) (failed : fails field.2) :
    ∃ found, field.2.Holds found ∧ failing found := by
  match fields, member with
  | (name, value) :: rest, member =>
    rcases List.mem_cons.mp member with rfl | member
    · exact byParts.exists_holds failed
    · exact byParts.exists_holds_of_field_mem member failed

end

/-- Such a way of writing fails just with the values in which a date-time occurs that it fails
with. -/
theorem iff_holds (byParts : FailsByParts failing fails) (value : Value) :
    fails value ↔ ∃ found, value.Holds found ∧ failing found :=
  ⟨byParts.exists_holds, fun ⟨_, holds, failed⟩ => byParts.of_holds holds failed⟩

end FailsByParts

/-! ### JSON texts -/

theorem toJson?_eq_none_iff {value : Value} : value.toJson? = none ↔ value.toDraft.whole = false := by
  unfold toJson? Json.Draft.text?
  cases value.toDraft.whole <;> simp

theorem whole_itemsToDraft (separator : String) (items : List Value) :
    (itemsToDraft separator items).whole = items.all fun item => item.toDraft.whole := by
  induction items generalizing separator with
  | nil => rfl
  | cons item items inductionHypothesis =>
    rw [itemsToDraft, Json.Draft.whole_followedBy, Json.Draft.whole_followedBy,
      inductionHypothesis, List.all_cons]
    rfl

theorem whole_fieldsToDraft (separator : String) (fields : List (String × Value)) :
    (fieldsToDraft separator fields).whole = fields.all fun field => field.2.toDraft.whole := by
  induction fields generalizing separator with
  | nil => rfl
  | cons field fields inductionHypothesis =>
    rw [fieldsToDraft, Json.Draft.whole_followedBy, Json.Draft.whole_followedBy,
      inductionHypothesis, List.all_cons]
    rfl

/-- What stands between two brackets is whole if it is whole without them. -/
theorem whole_enclosed (opening closing : String) (inner : Json.Draft) :
    (((Json.Draft.done opening).followedBy inner).followedBy (.done closing)).whole =
      inner.whole := by
  rw [Json.Draft.whole_followedBy, Json.Draft.whole_followedBy]
  exact Bool.and_true _

/-- The JSON text of a value breaks off at the date-times without a form, and nowhere else. -/
theorem failsByParts_toJson? :
    FailsByParts (fun found => found.toRfc3339? = none) (fun value => value.toJson? = none) where
  plain value plain := by
    rw [toJson?_eq_none_iff]
    cases value <;> first | contradiction | exact Bool.noConfusion
  dateTime value := by
    rw [toJson?_eq_none_iff, toDraft]
    cases value.toRfc3339? <;> simp [Json.Draft.done, Json.Draft.broken]
  list items := by
    simp only [toJson?_eq_none_iff]
    rw [toDraft, whole_enclosed, whole_itemsToDraft, List.all_eq_false]
    simp
  map fields := by
    simp only [toJson?_eq_none_iff]
    rw [toDraft, whole_enclosed, whole_fieldsToDraft, List.all_eq_false]
    simp

/-! ### Displays -/

mutual

/-- The display of a value, with date-times left to a way of writing them that may fail. -/
def display? (write? : DateTime → Option String) : Value → Option String
  | dateTime value => write? value
  | list items =>
    (displayItems? write? items).map fun texts => "[" ++ commaSeparated texts ++ "]"
  | map fields =>
    (displayFields? write? fields).map fun texts => "\x7b" ++ commaSeparated texts ++ "\x7d"
  | value => some value.toText

/-- The displays of the items of a list, one after the other until one fails. -/
def displayItems? (write? : DateTime → Option String) : List Value → Option (List String)
  | [] => some []
  | item :: items =>
    (display? write? item).bind fun text => (displayItems? write? items).map (text :: ·)

/-- The fields of a record, each as its name and the display of its value, until one fails. -/
def displayFields? (write? : DateTime → Option String) :
    List (String × Value) → Option (List String)
  | [] => some []
  | (name, value) :: fields =>
    (display? write? value).bind fun text =>
      (displayFields? write? fields).map ((name ++ ": " ++ text) :: ·)

end

mutual

/-- The display of a value is written with the texts of its date-times. -/
theorem display?_eq_toText {write? : DateTime → Option String}
    (writes : ∀ found, write? found = some found.toText) (value : Value) :
    value.display? write? = some value.toText := by
  cases value with
  | dateTime value => exact writes value
  | list items => rw [display?, displayItems?_eq_itemTexts writes items]; rfl
  | map fields => rw [display?, displayFields?_eq_fieldTexts writes fields]; rfl
  | _ => rfl

theorem displayItems?_eq_itemTexts {write? : DateTime → Option String}
    (writes : ∀ found, write? found = some found.toText) (items : List Value) :
    displayItems? write? items = some (itemTexts items) := by
  cases items with
  | nil => rfl
  | cons item items =>
    rw [displayItems?, display?_eq_toText writes item, displayItems?_eq_itemTexts writes items]
    rfl

theorem displayFields?_eq_fieldTexts {write? : DateTime → Option String}
    (writes : ∀ found, write? found = some found.toText) (fields : List (String × Value)) :
    displayFields? write? fields = some (fieldTexts fields) := by
  match fields with
  | [] => rfl
  | (name, value) :: fields =>
    rw [displayFields?, display?_eq_toText writes value,
      displayFields?_eq_fieldTexts writes fields]
    rfl

end

theorem displayItems?_eq_none_iff {write? : DateTime → Option String} {items : List Value} :
    displayItems? write? items = none ↔ ∃ item ∈ items, item.display? write? = none := by
  induction items with
  | nil => simp [displayItems?]
  | cons item items inductionHypothesis =>
    simp only [displayItems?, List.mem_cons, exists_eq_or_imp, ← inductionHypothesis]
    cases item.display? write? <;> simp

theorem displayFields?_eq_none_iff {write? : DateTime → Option String}
    {fields : List (String × Value)} :
    displayFields? write? fields = none ↔ ∃ field ∈ fields, field.2.display? write? = none := by
  induction fields with
  | nil => simp [displayFields?]
  | cons field fields inductionHypothesis =>
    simp only [displayFields?, List.mem_cons, exists_eq_or_imp, ← inductionHypothesis]
    cases field.2.display? write? <;> simp

/-- A display fails just with the date-times in it. -/
theorem failsByParts_display? (write? : DateTime → Option String) :
    FailsByParts (fun found => write? found = none)
      (fun value => value.display? write? = none) where
  plain value plain := by
    cases value <;> first | contradiction | exact Option.some_ne_none _
  dateTime _ := Iff.rfl
  list items := by rw [display?, Option.map_eq_none_iff, displayItems?_eq_none_iff]
  map fields := by rw [display?, Option.map_eq_none_iff, displayFields?_eq_none_iff]

end Value

/-! ### What can be written -/

/-- A value or a key has no JSON text just if a date-time occurs in it that RFC 3339 has no form for,
and a projected row has none just if one of its columns has none. A display that knew only that form
would fail with the same values; with the full form to fall back on no display fails. -/
theorem texts_fail_by_dateTimes :
    (∀ value : Value, value.toJson? = none ↔
      ∃ found, value.Holds found ∧ found.IsUnwritable) ∧
    (∀ key : Key, key.toValue.toJson? = none ↔ ∃ found, key.Holds found ∧ found.IsUnwritable) ∧
    (∀ projection : Projection, projection.toValue.toJson? = none ↔
      ∃ column ∈ projection.columns, column.2.toJson? = none) ∧
    (∀ value : Value, value.display? DateTime.toRfc3339? = none ↔ value.toJson? = none) ∧
    (∀ value : Value, value.display? DateTime.attempt? = some value.toText) ∧
    ∀ key : Key, key.toValue.display? DateTime.attempt? = some key.toText := by
  have json (value : Value) : value.toJson? = none ↔
      ∃ found, value.Holds found ∧ found.toRfc3339? = none :=
    Value.failsByParts_toJson?.iff_holds value
  have writable (value : Value) : value.toJson? = none ↔
      ∃ found, value.Holds found ∧ found.IsUnwritable := by
    simp only [json, DateTime.toRfc3339?_eq_none_iff]
  refine ⟨writable, fun key => ?_, fun projection => ?_, fun value => ?_, fun value => ?_,
    fun key => ?_⟩
  · simp only [writable, Key.holds_toValue_iff]
  · exact Value.failsByParts_toJson?.map projection.columns
  · exact ((Value.failsByParts_display? _).iff_holds value).trans (json value).symm
  · exact value.display?_eq_toText DateTime.attempt?_eq
  · exact key.toValue.display?_eq_toText DateTime.attempt?_eq

end RecordQuery

/-
This file proves that a key is the key of the value that shows it, and which values have no key.

A key forgets how a number was written: a whole double has the key of a word, and both zeros have
that of zero. What it shows is a value that it forgets nothing of, so to show a key and to take the
key of that gives the key back, through lists at any depth. Vectors and maps have no key, and one of
them anywhere in a list leaves the whole list without one. Nothing else is without a key.
-/

import RecordQuery.Proofs.Identity

namespace RecordQuery

open Number

/-- Whether a value is a vector or a map, or a list that holds one at some depth. -/
inductive Value.LacksIdentity : Value → Prop
  | vector (components : List Single) : LacksIdentity (.vector components)
  | map (fields : List (String × Value)) : LacksIdentity (.map fields)
  | list {items : List Value} {item : Value} :
      item ∈ items → LacksIdentity item → LacksIdentity (.list items)

namespace Key

/-! ### Keys of what keys show -/

theorem ofValue?_toValue_ofDouble (number : Double) :
    ofValue? (ofDouble number).toValue = some (ofDouble number) := by
  cases becomes : wordOfDouble? number with
  | some word =>
    have key : ofDouble number = int word := by rw [ofDouble, becomes]
    rw [key]
    rfl
  | none =>
    have key : ofDouble number = decimal number := by rw [ofDouble, becomes]
    rw [key]
    exact congrArg some key

mutual

/-- What shows the key of a value has that key. -/
theorem ofValue?_toValue {value : Value} {key : Key} (keyed : ofValue? value = some key) :
    ofValue? key.toValue = some key := by
  cases value with
  | float number =>
    obtain rfl := Option.some.inj keyed
    exact ofValue?_toValue_ofDouble number
  | list items =>
    obtain ⟨keys, found, rfl⟩ := Option.map_eq_some_iff.mp keyed
    exact Option.map_eq_some_iff.mpr ⟨keys, ofItems?_itemsToValues found, rfl⟩
  | vector | map => contradiction
  | _ =>
    obtain rfl := Option.some.inj keyed
    rfl

theorem ofItems?_itemsToValues {items : List Value} {keys : List Key}
    (keyed : ofItems? items = some keys) : ofItems? (itemsToValues keys) = some keys := by
  cases items with
  | nil =>
    obtain rfl := Option.some.inj keyed
    rfl
  | cons item items =>
    obtain ⟨first, rest, firstKeyed, restKeyed, rfl⟩ := ofItems?_cons_eq_some_iff.mp keyed
    exact ofItems?_cons_eq_some_iff.mpr
      ⟨first, rest, ofValue?_toValue firstKeyed, ofItems?_itemsToValues restKeyed, rfl⟩

end

/-! ### Values without a key -/

theorem ofItems?_cons_eq_none_iff {item : Value} {items : List Value} :
    ofItems? (item :: items) = none ↔ ofValue? item = none ∨ ofItems? items = none := by
  rw [ofItems?]
  cases ofValue? item <;> cases ofItems? items <;> simp

/-- One item without a key leaves a list without one. -/
theorem ofItems?_eq_none_of_mem {item : Value} {items : List Value} (member : item ∈ items)
    (unkeyed : ofValue? item = none) : ofItems? items = none := by
  induction member with
  | head => exact ofItems?_cons_eq_none_iff.mpr (.inl unkeyed)
  | tail _ _ inductionHypothesis => exact ofItems?_cons_eq_none_iff.mpr (.inr inductionHypothesis)

theorem ofValue?_eq_none_of_lacksIdentity {value : Value} (lacks : value.LacksIdentity) :
    ofValue? value = none := by
  induction lacks with
  | vector | map => rfl
  | list member _ inductionHypothesis =>
    exact Option.map_eq_none_iff.mpr (ofItems?_eq_none_of_mem member inductionHypothesis)

mutual

theorem lacksIdentity_of_ofValue?_eq_none {value : Value} (unkeyed : ofValue? value = none) :
    value.LacksIdentity := by
  cases value with
  | vector components => exact .vector components
  | map fields => exact .map fields
  | list items =>
    obtain ⟨item, member, lacks⟩ :=
      exists_lacksIdentity_of_ofItems?_eq_none (Option.map_eq_none_iff.mp unkeyed)
    exact .list member lacks
  | _ => contradiction

theorem exists_lacksIdentity_of_ofItems?_eq_none {items : List Value}
    (unkeyed : ofItems? items = none) : ∃ item ∈ items, item.LacksIdentity := by
  cases items with
  | nil => contradiction
  | cons item items =>
    rcases ofItems?_cons_eq_none_iff.mp unkeyed with first | rest
    · exact ⟨item, List.mem_cons_self, lacksIdentity_of_ofValue?_eq_none first⟩
    · obtain ⟨other, member, lacks⟩ := exists_lacksIdentity_of_ofItems?_eq_none rest
      exact ⟨other, List.mem_cons_of_mem item member, lacks⟩

end

/-- What shows the key of a value has that very key again. A value is without a key just if it is a
vector or a map, or a list that holds one at some depth. -/
theorem ofValue?_retracts (value : Value) :
    (∀ key, ofValue? value = some key → ofValue? key.toValue = some key) ∧
      (ofValue? value = none ↔ value.LacksIdentity) :=
  ⟨fun _ keyed => ofValue?_toValue keyed,
    lacksIdentity_of_ofValue?_eq_none, ofValue?_eq_none_of_lacksIdentity⟩

/-- The key of a list in a list, with a double, a negative zero and a missing value in it, shows
words and a missing value, and is the key of these. A vector in the place of the double would leave
no key. -/
theorem ofValue?_retracts_of_nested :
    let value := Value.list [.list [.float 2, .float (-0)], .null]
    let shown := Value.list [.list [.int 2, .int 0], .null]
    ∃ key, ofValue? value = some key ∧ key.toValue = shown ∧ ofValue? shown = some key ∧
      ofValue? (.list [.list [.vector [], .float (-0)], .null]) = none := by
  intro value shown
  have two : wordOfDouble? 2 = some 2 := by decide +kernel
  have zero : wordOfDouble? (-0) = some 0 := by decide +kernel
  have keyed : ofValue? value = some (composite [composite [int 2, int 0], null]) := by
    simp [value, ofValue?, ofItems?, ofDouble, two, zero]
  refine ⟨_, keyed, rfl, (ofValue?_retracts value).1 _ keyed, (ofValue?_retracts _).2.mpr ?_⟩
  exact .list List.mem_cons_self (.list List.mem_cons_self (.vector []))

end Key

end RecordQuery

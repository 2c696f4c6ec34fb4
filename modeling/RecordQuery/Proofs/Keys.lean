/-
This file proves that keys tell values of one kind apart just as sameness does.

A field of a keyable kind should read as null or as a value of that kind, and all such values have
keys. Numbers are where keys and values differ in form. A whole double has the key of a word, so the
two zeros share theirs, and so do doubles and words of one value; no other doubles are brought
together that way. It is only not-a-numbers that are told apart by sameness and not by keys, and for
that there must be one on both sides.

A set of keys finds a key just if one of the keys that were put into it is the same.
-/

import RecordQuery.Proofs.Constants
import RecordQuery.Proofs.Grouping
import RecordQuery.Proofs.WholeNumbers

namespace RecordQuery

open Number Calendar

/-! ### Not-a-numbers in values -/

namespace Value

mutual

/-- Whether there is a not-a-number anywhere in a value. -/
def hasNaN : Value → Bool
  | float value => value.isNaN
  | vector components => components.any Binary.isNaN
  | list items => itemsHaveNaN items
  | map fields => fieldsHaveNaN fields
  | _ => false

/-- Whether there is a not-a-number anywhere in some values. -/
def itemsHaveNaN : List Value → Bool
  | [] => false
  | item :: items => item.hasNaN || itemsHaveNaN items

/-- Whether there is a not-a-number anywhere in some fields. -/
def fieldsHaveNaN : List (String × Value) → Bool
  | [] => false
  | (_, value) :: fields => value.hasNaN || fieldsHaveNaN fields

end

/-- Among values of one kind there is nothing loose about sameness. -/
theorem looselySame_of_admits {kind : Kind} {left right : Value}
    (leftAdmitted : kind.admits left = true) (rightAdmitted : kind.admits right = true) :
    left.looselySame right = left.same right := by
  cases left with
  | int =>
    cases right with
    | float => cases kind <;> contradiction
    | _ => rfl
  | float =>
    cases right with
    | int => cases kind <;> contradiction
    | _ => rfl
  | _ => rfl

end Value

namespace Key

/-! ### Keys of doubles -/

/-- Two doubles have the same key just if they become the same word, or none and are the same. -/
theorem same_ofDouble_iff {left right : Double} : (ofDouble left).same (ofDouble right) = true ↔
    wordOfDouble? left = wordOfDouble? right ∧ (wordOfDouble? left = none → left = right) := by
  unfold ofDouble
  cases wordOfDouble? left with
  | none =>
    cases wordOfDouble? right with
    | none => simp [same, Binary.totalCompare_eq_iff]
    | some word => simp [same]
  | some word => cases wordOfDouble? right <;> simp [same]

/-- Two doubles, at least one of them a number, have the same key just if they are equal. -/
theorem same_ofDouble {left right : Double} (ordered : left.isNaN = false ∨ right.isNaN = false) :
    (ofDouble left).same (ofDouble right) = left.numericEq right := by
  rw [Bool.eq_iff_iff, same_ofDouble_iff, Binary.numericEq_iff]
  constructor
  · rintro ⟨words, apart⟩
    cases leftWord : wordOfDouble? left with
    | none =>
      obtain rfl := apart leftWord
      exact ⟨ordered.elim id id, ordered.elim id id, rfl⟩
    | some word =>
      have rightWord := words.symm.trans leftWord
      exact ⟨Binary.isNaN_of_isIntegral (wordOfDouble?_eq_some_iff.mp leftWord).1,
        Binary.isNaN_of_isIntegral (wordOfDouble?_eq_some_iff.mp rightWord).1,
        ordinal_eq_of_wordOfDouble? leftWord rightWord⟩
  · rintro ⟨_, _, level⟩
    refine ⟨wordOfDouble?_congr level, fun beyond => ?_⟩
    rcases Binary.ordinal_eq_iff.mp level with same | ⟨zero, _⟩
    · exact same
    · rw [wordOfDouble?_of_magnitude_eq_zero zero] at beyond
      contradiction

theorem null_same_ofDouble (number : Double) : null.same (ofDouble number) = false := by
  unfold ofDouble
  cases wordOfDouble? number <;> rfl

/-! ### Keys of values of one kind -/

theorem ofValue?_list {items : List Value}
    (each : ∀ item ∈ items, ofValue? item = some (ofValue item)) :
    ofValue? (.list items) = some (composite (items.map ofValue)) := by
  have found : ofItems? items = some (items.map ofValue) := by
    induction items with
    | nil => rfl
    | cons item items inductionHypothesis =>
      obtain ⟨first, rest⟩ := List.forall_mem_cons.mp each
      rw [ofItems?, first, inductionHypothesis rest, List.map_cons]
  rw [ofValue?, found, Option.map_some]

/-- What a keyable kind admits has a key. -/
theorem ofValue?_of_admits {kind : Kind} (keyable : kind.isKeyable = true) {value : Value}
    (admitted : kind.admits value = true) : ofValue? value = some (ofValue value) := by
  induction kind generalizing value with
  | vector | record => contradiction
  | bool | int | float | text | date | dateTime | uuid =>
    cases value <;> first | contradiction | rfl
  | list item inductionHypothesis =>
    cases value with
    | null => rfl
    | list items =>
      have each : ∀ value ∈ items, ofValue? value = some (ofValue value) := fun value member =>
        inductionHypothesis keyable (List.all_eq_true.mp admitted value member)
      rw [ofValue, ofValue?_list each]
      rfl
    | _ => contradiction

theorem sameItems_map_ofValue {lefts rights : List Value}
    (ordered : Value.itemsHaveNaN lefts = false ∨ Value.itemsHaveNaN rights = false)
    (each : ∀ left ∈ lefts, ∀ right ∈ rights, left.hasNaN = false ∨ right.hasNaN = false →
      (ofValue left).same (ofValue right) = left.same right) :
    sameItems (lefts.map ofValue) (rights.map ofValue) = Value.sameItems lefts rights := by
  induction lefts generalizing rights with
  | nil => cases rights <;> rfl
  | cons left lefts inductionHypothesis =>
    cases rights with
    | nil => rfl
    | cons right rights =>
      simp only [Value.itemsHaveNaN, Bool.or_eq_false_iff] at ordered
      simp only [List.forall_mem_cons] at each
      obtain ⟨⟨first, _⟩, rest⟩ := each
      have later := inductionHypothesis (ordered.imp And.right And.right) fun left member =>
        (rest left member).2
      exact congrArg₂ and (first (ordered.imp And.left And.left)) later

/-- Values of one keyable kind have the same key just if they are the same, unless there are
not-a-numbers in both. -/
theorem same_ofValue {kind : Kind} (keyable : kind.isKeyable = true) {left right : Value}
    (leftAdmitted : kind.admits left = true) (rightAdmitted : kind.admits right = true)
    (ordered : left.hasNaN = false ∨ right.hasNaN = false) :
    (ofValue left).same (ofValue right) = left.same right := by
  induction kind generalizing left right with
  | vector | record => contradiction
  | bool | int | text | date | dateTime | uuid =>
    cases left <;> cases right <;> first | contradiction | rfl
  | float =>
    cases left <;> cases right <;> try contradiction
    case null.null => rfl
    case null.float number => exact null_same_ofDouble number
    case float.null number => exact (same_comm _ _).trans (null_same_ofDouble number)
    case float.float => exact same_ofDouble ordered
  | list item inductionHypothesis =>
    have itemKeyable : item.isKeyable = true := keyable
    have keyed {items : List Value} (admitted : item.list.admits (.list items) = true) :
        ofValue (.list items) = composite (items.map ofValue) := by
      rw [ofValue, ofValue?_list, Option.getD_some]
      exact fun value member =>
        ofValue?_of_admits itemKeyable (List.all_eq_true.mp admitted value member)
    cases left <;> cases right <;> try contradiction
    case null.null => rfl
    case null.list items => rw [keyed rightAdmitted]; rfl
    case list.null items => rw [keyed leftAdmitted]; rfl
    case list.list lefts rights =>
      rw [keyed leftAdmitted, keyed rightAdmitted]
      refine sameItems_map_ofValue ordered fun left leftIn right rightIn => ?_
      exact inductionHypothesis itemKeyable (List.all_eq_true.mp leftAdmitted left leftIn)
        (List.all_eq_true.mp rightAdmitted right rightIn)

/-! ### The order of keys -/

theorem eq_of_dateOrder_eq {left right : Date} (level : left.order right = .eq) : left = right := by
  obtain ⟨leftYear, leftMonth, leftDay⟩ := left
  obtain ⟨rightYear, rightMonth, rightDay⟩ := right
  simp [Date.order, Ordering.then_eq_eq] at level
  simp [level]

mutual

/-- Keys that are level in the order are the same. -/
theorem same_of_order_eq {left right : Key} (level : left.order right = .eq) :
    left.same right = true := by
  cases left <;> cases right <;> try contradiction
  case null.null => rfl
  case bool.bool => exact decide_eq_true (Std.LawfulEqOrd.eq_of_compare level)
  case int.int => exact decide_eq_true (Int64.toInt_inj.mp (Int.compare_eq_eq.mp level))
  case decimal.decimal => exact beq_iff_eq.mpr level
  case text.text => exact decide_eq_true (Std.LawfulEqOrd.eq_of_compare level)
  case date.date => exact decide_eq_true (eq_of_dateOrder_eq level)
  case dateTime.dateTime => exact decide_eq_true (Int.compare_eq_eq.mp level)
  case uuid.uuid left right =>
    obtain ⟨left, _⟩ := left
    obtain ⟨right, _⟩ := right
    obtain rfl : left = right := Nat.compare_eq_eq.mp level
    exact decide_eq_true rfl
  case composite.composite => exact sameItems_of_orderItems_eq level

theorem sameItems_of_orderItems_eq {lefts rights : List Key}
    (level : orderItems lefts rights = .eq) : sameItems lefts rights = true := by
  cases lefts with
  | nil =>
    cases rights with
    | nil => rfl
    | cons => contradiction
  | cons left lefts =>
    cases rights with
    | nil => contradiction
    | cons right rights =>
      obtain ⟨first, rest⟩ := Ordering.then_eq_eq.mp level
      exact Bool.and_eq_true_iff.mpr ⟨same_of_order_eq first, sameItems_of_orderItems_eq rest⟩

end

end Key

/-! ### Sets of keys -/

namespace KeySet

theorem contains_insert (key other : Key) (set : KeySet) :
    (set.insert key).contains other = (key.same other || set.contains other) := by
  induction set with
  | nil => rfl
  | cons first rest inductionHypothesis =>
    rw [insert]
    cases order : key.order first with
    | lt => rfl
    | eq =>
      have level := Key.same_congr (Key.same_of_order_eq order) other
      simp only [contains, List.any_cons, level, Bool.or_self_left]
    | gt =>
      simp only [contains, List.any_cons] at inductionHypothesis ⊢
      rw [inductionHypothesis, Bool.or_left_comm]

/-- After some keys are put into it, a set has what it had and what is the same as one of them. -/
theorem contains_foldl_insert (keys : List Key) (set : KeySet) (other : Key) :
    (keys.foldl (fun set key => insert key set) set).contains other =
      (set.contains other || keys.any (·.same other)) := by
  induction keys generalizing set with
  | nil => exact (Bool.or_false _).symm
  | cons key keys inductionHypothesis =>
    rw [List.foldl_cons, inductionHypothesis, contains_insert, List.any_cons,
      Bool.or_comm (key.same other), Bool.or_assoc]

end KeySet

end RecordQuery

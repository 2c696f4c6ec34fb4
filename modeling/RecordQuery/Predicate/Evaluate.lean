/-
This file evaluates predicates on records.

Conjunctions and disjunctions are evaluated from the left and no further than needed, so a test on
the left can keep one on the right from reading through a record that is not there.
-/

import RecordQuery.Cosine
import RecordQuery.Predicate.Basic
import RecordQuery.Text.LowerCase
import RecordQuery.Text.Search
import RecordQuery.Value.Order

namespace RecordQuery

open Number Text

/-- The fault of a path that was read through an absent record. -/
def Path.unguarded (path : Path) (hop : Nat) : EvaluationError :=
  .unguardedNullHop path.toText (path.textThrough hop)

/-- What a path reads as, unless a record on the way is absent. -/
def Path.readReachable (path : Path) (record : Record) : Except EvaluationError Slot :=
  match path.read record with
  | .unreachable hop => .error (path.unguarded hop)
  | slot => .ok slot

/-- Whether a text passes a test. -/
def TextTest.passes (test : TextTest) (text needle : String) : Bool :=
  match test with
  | contains => containsText needle.toList text.toList
  | containsIgnoreCase => containsText needle.toList (lower text.toList)
  | startsWith => needle.toList.isPrefixOf text.toList
  | endsWith => needle.toList.isSuffixOf text.toList

namespace View

/-- The size of a number; other values stay as they are. -/
def absoluteOf (path : Path) : Value → Except EvaluationError Value
  | .int value =>
    if value = Int64.minValue then .error (.overflow path.toText) else .ok (.int value.abs)
  | .float value => .ok (.float value.abs)
  | value => .ok value

/-- A part of a text; other values stay as they are. The part must lie within the text. -/
def substringOf (path : Path) (start length : UInt64) : Value → Except EvaluationError Value
  | .text value =>
    let characters := value.toList
    if characters.length < start.toNat + length.toNat then
      .error (.substringOutOfRange path.toText start length characters.length)
    else .ok (.text (String.ofList ((characters.drop start.toNat).take length.toNat)))
  | value => .ok value

/-- The date of a date-time; other values stay as they are. -/
def dateOf : Value → Value
  | .dateTime value => .date value.date
  | value => value

/-- What a view shows of a value that is not null. -/
def apply (view : View) (path : Path) (value : Value) : Except EvaluationError Value :=
  match view with
  | field => .ok value
  | absolute => absoluteOf path value
  | substring start length => substringOf path start length value
  | date => .ok (dateOf value)
  | cosine _ => .ok value

end View

namespace Operand

/-- The distance of the vector in a slot from another. -/
def distanceIn (query : List Single) : Slot → Single
  | .value value => Cosine.distance value.vector? (some query)
  | .present => Cosine.greatestDistance
  | .unreachable _ => Cosine.greatestDistance

/-- What an operand reads as. A distance can always be told; everything else fails if a record on
the way is absent. -/
def evaluate (operand : Operand) (record : Record) : Except EvaluationError Slot :=
  match operand.view with
  | .cosine query =>
    .ok (.value (.float (distanceIn query (operand.path.read record)).convert))
  | view =>
    match operand.path.read record with
    | .unreachable hop => .error (operand.path.unguarded hop)
    | .present => .ok .present
    | .value .null => .ok (.value .null)
    | .value value => (view.apply operand.path value).map Slot.value

end Operand

namespace Comparison

/-- Whether an operator holds of two values. Null equals null and nothing else, and is in no
order. -/
def ofValues (comparison : Comparison) (left right : Value) : Bool :=
  match left.isNull, right.isNull with
  | true, true => comparison = equal
  | true, false => comparison = notEqual
  | false, true => comparison = notEqual
  | false, false =>
    match comparison with
    | equal => left.looselySame right
    | notEqual => !left.looselySame right
    | comparison =>
      match left.compare? right with
      | some order => comparison.holds order
      | none => false

/-- Whether an operator holds of what was read and a value. Of a nested record it can only be told
that it is not null. -/
def ofSlot (comparison : Comparison) (slot : Slot) (value : Value) : Bool :=
  match slot with
  | .value left => comparison.ofValues left value
  | .present => comparison = notEqual && value.isNull
  | .unreachable _ => false

end Comparison

namespace Predicate

/-- Whether a text test passes on what was read. -/
def passesText (test : TextTest) (needle : String) : Slot → Bool
  | .value (.text value) => test.passes value needle
  | _ => false

/-- Whether the key of what was read is in a set. -/
def hasMember (keys : KeySet) : Slot → Bool
  | .value value => (Key.ofValue? value).any keys.contains
  | _ => false

/-- Whether a list that was read has an item that is the same as a value. -/
def hasItem (value : Value) : Slot → Bool
  | .value (.list items) => items.any fun item => item.looselySame value
  | _ => false

/-- Whether a predicate holds of a record. -/
def evaluate (record : Record) : Predicate → Except EvaluationError Bool
  | const value => .ok value
  | negation inner => (evaluate record inner).map (!·)
  | conjunction left right =>
    match evaluate record left with
    | .error error => .error error
    | .ok false => .ok false
    | .ok true => evaluate record right
  | disjunction left right =>
    match evaluate record left with
    | .error error => .error error
    | .ok true => .ok true
    | .ok false => evaluate record right
  | comparison operand operator value =>
    (operand.evaluate record).map fun slot => operator.ofSlot slot value
  | text path test needle => (path.readReachable record).map (passesText test needle)
  | member path keys => (path.readReachable record).map (hasMember keys)
  | anyItem path value => (path.readReachable record).map (hasItem value)

end Predicate

end RecordQuery

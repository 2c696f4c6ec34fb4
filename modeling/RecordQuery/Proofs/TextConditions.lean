/-
This file says what conditions on texts amount to, once they are built.

A test of a text that has a field of text can always be built. Behind the guard of its path it asks
whether a needle stands in the text: anywhere, at the beginning or at the end. The needle and the
text are both put into lower case first if case is ignored. Whether they are then compared as
characters or as bytes makes no difference.
-/

import RecordQuery.Proofs.Encoding
import RecordQuery.Proofs.FloatConstants

namespace RecordQuery

open Text

/-! ### Where a needle stands -/

namespace TextTest

/-- Whether one text stands in another where a test wants it. -/
def Stands {Symbol : Type} (test : TextTest) (needle text : List Symbol) : Prop :=
  match test with
  | contains | containsIgnoreCase => needle <:+: text
  | startsWith => needle <+: text
  | endsWith => needle <:+ text

/-- A text as a test compares it. -/
def prepared (test : TextTest) (text : List Char) : List Char :=
  match test with
  | containsIgnoreCase => lower text
  | _ => text

theorem passes_iff {test : TextTest} {text needle : String} :
    test.passes text needle = true ↔ test.Stands needle.toList (test.prepared text.toList) := by
  cases test with
  | contains | containsIgnoreCase => exact containsText_iff
  | startsWith => exact List.isPrefixOf_iff_prefix
  | endsWith => exact List.isSuffixOf_iff_suffix

/-- A needle stands in a text as bytes where it stands in it as characters. -/
theorem stands_encode_iff {test : TextTest} {needle text : List Char} :
    test.Stands (encode needle) (encode text) ↔ test.Stands needle text := by
  cases test with
  | contains | containsIgnoreCase => exact encode_infix_iff
  | startsWith => exact encode_prefix_iff
  | endsWith => exact encode_suffix_iff

end TextTest

theorem Predicate.passesText_eq_true_iff {test : TextTest} {needle : String} {slot : Slot} :
    passesText test needle slot = true ↔
      ∃ leaf : String, slot = .value (.text leaf) ∧
        test.Stands needle.toList (test.prepared leaf.toList) := by
  unfold passesText
  split
  · rename_i leaf
    rw [TextTest.passes_iff]
    constructor
    · intro stands
      exact ⟨leaf, rfl, stands⟩
    · rintro ⟨other, same, stands⟩
      obtain rfl := Value.text.inj (Slot.value.inj same)
      exact stands
  · rename_i noText
    refine iff_of_false Bool.false_ne_true ?_
    rintro ⟨leaf, rfl, _⟩
    exact noText leaf rfl

/-- A field that can be reached is tested as it reads. -/
theorem Predicate.realizesAlong_text (path : Path) (test : TextTest) (needle : String) :
    (text path test needle).RealizesAlong path
      fun record => passesText test needle (path.read record) := by
  refine ⟨fun {record inner} reached => ?_, rfl, fun {record hop} unread => ?_⟩
  · rw [Predicate.evaluate, Path.readReachable_of_follow reached, Path.read_of_follow reached]
    rfl
  · rw [unread]
    rfl

/-! ### Conditions on texts -/

namespace Condition

variable {schema : Schema} {text : String} {path : Path} {normal : Bool} {record : Record}

theorem toList_needleFor (test : TextTest) (needle : String) :
    (needleFor test needle).toList = test.prepared needle.toList := by
  cases test with
  | containsIgnoreCase => exact String.toList_ofList
  | _ => rfl

/-- A condition on a text matches the records whose text has the needle where the test wants it. -/
theorem matches_text_iff (resolved : schema.resolve text = .ok path) (isText : path.kind = .text)
    (test : TextTest) (needle : String) :
    (Condition.text test text needle).Matches schema normal record ↔
      ∃ leaf : String, path.read record = .value (.text leaf) ∧
        test.Stands (test.prepared needle.toList) (test.prepared leaf.toList) := by
  obtain ⟨predicate, built, realizes⟩ :=
    (Predicate.realizesAlong_text path test (needleFor test needle)).guarded resolved
  have toPredicate : (Condition.text test text needle).toPredicate schema = .ok predicate := by
    rw [Condition.toPredicate,
      Schema.resolveSuited_of_suits resolved (decide_eq_true isText)]
    exact built
  rw [matches_iff_of_realizes toPredicate realizes, Predicate.passesText_eq_true_iff,
    toList_needleFor]

/-- On a text it is asked where the needle stands in it. -/
theorem matches_text_iff_of_read {leaf : String} (resolved : schema.resolve text = .ok path)
    (isText : path.kind = .text) (read : path.read record = .value (.text leaf)) (test : TextTest)
    (needle : String) :
    (Condition.text test text needle).Matches schema normal record ↔
      test.Stands (test.prepared needle.toList) (test.prepared leaf.toList) := by
  rw [matches_text_iff resolved isText, read]
  constructor
  · rintro ⟨other, same, stands⟩
    obtain rfl := Value.text.inj (Slot.value.inj same)
    exact stands
  · intro stands
    exact ⟨leaf, rfl, stands⟩

/-- A text contains a needle just if the needle occurs in it. -/
theorem matches_contains_iff_occurs {leaf : String} (resolved : schema.resolve text = .ok path)
    (isText : path.kind = .text) (read : path.read record = .value (.text leaf)) (needle : String) :
    (Condition.text .contains text needle).Matches schema normal record ↔
      needle.toList <:+: leaf.toList :=
  matches_text_iff_of_read resolved isText read .contains needle

end Condition

end RecordQuery

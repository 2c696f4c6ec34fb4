/-
This file proves that the tests of a text agree with its parts.

A part of a text is named by the places of its characters, and asking for one that does not lie
within the text is a fault. A needle occurs in a text if it equals one of its parts, and the text
begins or ends with it if that part is the first or the last one of the length of the needle.
-/

import RecordQuery.Proofs.TextConditions

namespace RecordQuery

open Text

/-! ### Parts of a text -/

namespace Text

/-- Whether a text has another in it from a place on, symbol by symbol. -/
def HasAt {Symbol : Type} (text : List Symbol) (start : Nat) (part : List Symbol) : Prop :=
  ∀ place (inside : place < part.length), text[place + start]? = some part[place]

variable {Symbol : Type} {text part : List Symbol} {start : Nat}

/-- The part of a text of some length from a place on is another text if that has this length and
stands there. -/
theorem take_drop_eq_iff {length : Nat} (fits : start + length ≤ text.length) :
    (text.drop start).take length = part ↔ part.length = length ∧ HasAt text start part := by
  have stands : HasAt text start part ↔ part <+: text.drop start := by
    rw [List.prefix_iff_getElem?]
    simp only [HasAt, List.getElem?_drop, Nat.add_comm]
  have partLength : ((text.drop start).take length).length = length := by
    rw [List.length_take, List.length_drop]
    omega
  rw [stands, List.prefix_iff_eq_take]
  constructor
  · rintro rfl
    exact ⟨partLength, by rw [partLength]⟩
  · rintro ⟨rfl, same⟩
    exact same.symm

theorem prefix_iff_hasAt : part <+: text ↔ part.length ≤ text.length ∧ HasAt text 0 part := by
  refine ⟨fun begins => ⟨begins.length_le, List.prefix_iff_getElem?.mp begins⟩, ?_⟩
  rintro ⟨_, held⟩
  exact List.prefix_iff_getElem?.mpr held

theorem suffix_iff_hasAt :
    part <:+ text ↔
      part.length ≤ text.length ∧ HasAt text (text.length - part.length) part := by
  rw [List.suffix_iff_getElem?]
  refine and_congr_right fun fits => ?_
  simp only [HasAt, Nat.add_sub_assoc fits]

theorem infix_iff_hasAt :
    part <:+: text ↔ ∃ start, start + part.length ≤ text.length ∧ HasAt text start part := by
  simp only [List.infix_iff_getElem?, HasAt, Nat.add_comm part.length]

end Text

/-! ### Asking for a part -/

/-- Whether a condition can be built and then has an outcome on a record, as it stands or in normal
form. -/
def Condition.ComesTo (schema : Schema) (normal : Bool) (record : Record) (condition : Condition)
    (outcome : Except EvaluationError Bool) : Prop :=
  ∃ predicate, condition.toPredicate schema = .ok predicate ∧
    (if normal then predicate.normalize else predicate).evaluate record = outcome

/-- A comparison of a part of a text compares it if it is there, and is a fault otherwise. -/
theorem Predicate.evaluate_substring {path : Path} {record : Record} {leaf : String}
    (read : path.read record = .value (.text leaf)) (start length : UInt64) (expected : String) :
    (comparison ⟨path, .substring start length⟩ .equal (.text expected)).evaluate record =
      if leaf.length < start.toNat + length.toNat then
        .error (.substringOutOfRange path.toText start length leaf.length)
      else .ok (decide ((leaf.toList.drop start.toNat).take length.toNat = expected.toList)) := by
  unfold evaluate Operand.evaluate
  simp only [read, View.apply, View.substringOf, String.length_toList]
  split
  · rfl
  · refine congrArg Except.ok (decide_eq_decide.mpr ?_)
    rw [← String.toList_inj, String.toList_ofList]

namespace Condition

variable {schema : Schema} {text : String} {path : Path} {normal : Bool} {record : Record}

/-- A condition that is one predicate behind the guard of a path has the outcome of that predicate
where the path can be followed, and is false elsewhere. -/
theorem comesTo_iff_of_guarded {condition : Condition} {core : Predicate}
    {outcome : Except EvaluationError Bool} (resolved : schema.resolve text = .ok path)
    (guarded : condition.toPredicate schema = schema.guarded path core)
    (normalForm : core.normalize = core) :
    condition.ComesTo schema normal record outcome ↔
      (if (Path.follow path.through record).isSome then core.evaluate record else .ok false) =
        outcome := by
  obtain ⟨predicate, built, shields⟩ := Schema.guarded_shields resolved core
  have answers : (if normal then predicate.normalize else predicate).evaluate record =
      if (Path.follow path.through record).isSome then core.evaluate record else .ok false := by
    cases normal with
    | true => exact (shields.normalize record).trans (by rw [normalForm])
    | false => exact shields.evaluate record
  rw [← guarded] at built
  constructor
  · rintro ⟨other, builtToo, evaluated⟩
    obtain rfl : predicate = other := Except.ok.inj (built.symm.trans builtToo)
    exact answers.symm.trans evaluated
  · intro same
    exact ⟨predicate, built, answers.trans same⟩

theorem comesTo_substringEquals_iff {outcome : Except EvaluationError Bool}
    (resolved : schema.resolve text = .ok path) (isText : path.kind = .text)
    (start length : UInt64) (expected : String) :
    (substringEquals text start length expected).ComesTo schema normal record outcome ↔
      (if (Path.follow path.through record).isSome then
        (Predicate.comparison ⟨path, .substring start length⟩ .equal (.text expected)).evaluate
          record
      else .ok false) = outcome := by
  refine comesTo_iff_of_guarded resolved ?_ rfl
  rw [toPredicate, Schema.resolveSuited_of_suits resolved (decide_eq_true isText)]
  rfl

section

variable {leaf : String} (resolved : schema.resolve text = .ok path) (isText : path.kind = .text)
  (read : path.read record = .value (.text leaf))

include resolved isText read

theorem comesTo_substringEquals_of_text {outcome : Except EvaluationError Bool}
    (start length : UInt64) (expected : String) :
    (substringEquals text start length expected).ComesTo schema normal record outcome ↔
      (if leaf.length < start.toNat + length.toNat then
        .error (.substringOutOfRange path.toText start length leaf.length)
      else .ok (decide ((leaf.toList.drop start.toNat).take length.toNat = expected.toList))) =
        outcome := by
  have reached : (Path.follow path.through record).isSome := by
    rw [Option.isSome_iff_ne_none, ne_eq, Path.follow_eq_none_iff, read]
    rintro ⟨hop, same⟩
    contradiction
  rw [comesTo_substringEquals_iff resolved isText, if_pos reached,
    Predicate.evaluate_substring read]

/-- Asking for a part of a text is a fault exactly if the part does not lie within the text. -/
theorem substringEquals_fails_iff (start length : UInt64) (expected : String)
    (error : EvaluationError) :
    (substringEquals text start length expected).ComesTo schema normal record (.error error) ↔
      leaf.length < start.toNat + length.toNat ∧
        error = .substringOutOfRange path.toText start length leaf.length := by
  rw [comesTo_substringEquals_of_text resolved isText read]
  split
  · rename_i short
    rw [Except.error.injEq, and_iff_right short, eq_comm]
  · rename_i fits
    exact iff_of_false (by simp) fun failed => fits failed.1

/-- A part that lies within the text is compared with what is expected, character by character. -/
theorem substringEquals_answers {start length : UInt64} (expected : String)
    (fits : start.toNat + length.toNat ≤ leaf.length) :
    ∃ answer, (substringEquals text start length expected).ComesTo schema normal record
        (.ok answer) ∧
      (answer = true ↔
        expected.length = length.toNat ∧ HasAt leaf.toList start.toNat expected.toList) := by
  refine ⟨_, (comesTo_substringEquals_of_text resolved isText read start length expected).mpr
    (if_neg (Nat.not_lt.mpr fits)), ?_⟩
  rw [decide_eq_true_iff, take_drop_eq_iff fits, String.length_toList]

/-- A part matches if it lies within the text and is what is expected. -/
theorem matches_substringEquals_iff (start length : UInt64) (expected : String) :
    (substringEquals text start length expected).Matches schema normal record ↔
      start.toNat + length.toNat ≤ leaf.length ∧ expected.length = length.toNat ∧
        HasAt leaf.toList start.toNat expected.toList := by
  refine (comesTo_substringEquals_of_text resolved isText read start length expected).trans ?_
  split
  · rename_i short
    exact iff_of_false (by simp) fun held => Nat.not_le.mpr short held.1
  · rename_i fits
    rw [Except.ok.injEq, decide_eq_true_iff, and_iff_right (Nat.not_lt.mp fits),
      take_drop_eq_iff (Nat.not_lt.mp fits), String.length_toList]

/-- A part of the length of a needle matches where the needle stands in the text. -/
theorem matches_substringEquals_ofNat_iff (counted : leaf.length < UInt64.size) {start : Nat}
    {needle : String} (fits : start + needle.length ≤ leaf.length) :
    (substringEquals text (.ofNat start) (.ofNat needle.length) needle).Matches schema normal
        record ↔
      HasAt leaf.toList start needle.toList := by
  have startWord : (UInt64.ofNat start).toNat = start := UInt64.toNat_ofNat_of_lt' (by omega)
  have lengthWord : (UInt64.ofNat needle.length).toNat = needle.length :=
    UInt64.toNat_ofNat_of_lt' (by omega)
  rw [matches_substringEquals_iff resolved isText read, startWord, lengthWord, and_iff_right fits,
    and_iff_right rfl]

/-- A text contains a needle if one of its parts of that length is the needle. -/
theorem matches_contains_iff (counted : leaf.length < UInt64.size) (needle : String) :
    (Condition.text .contains text needle).Matches schema normal record ↔
      ∃ start : UInt64, start.toNat + needle.length ≤ leaf.length ∧
        (substringEquals text start (.ofNat needle.length) needle).Matches schema normal
          record := by
  rw [matches_contains_iff_occurs resolved isText read, infix_iff_hasAt, String.length_toList,
    String.length_toList]
  constructor
  · rintro ⟨start, fits, held⟩
    have word : (UInt64.ofNat start).toNat = start := UInt64.toNat_ofNat_of_lt' (by omega)
    exact ⟨.ofNat start, word.symm ▸ fits,
      (matches_substringEquals_ofNat_iff resolved isText read counted fits).mpr held⟩
  · rintro ⟨start, fits, matched⟩
    refine ⟨start.toNat, fits, ?_⟩
    have word : UInt64.ofNat start.toNat = start := UInt64.ofNat_toNat
    rw [← word] at matched
    exact (matches_substringEquals_ofNat_iff resolved isText read counted fits).mp matched

/-- A text begins with a needle if its first part of that length is the needle. -/
theorem matches_startsWith_iff (counted : leaf.length < UInt64.size) (needle : String) :
    (Condition.text .startsWith text needle).Matches schema normal record ↔
      needle.length ≤ leaf.length ∧
        (substringEquals text 0 (.ofNat needle.length) needle).Matches schema normal record := by
  have begins : (Condition.text .startsWith text needle).Matches schema normal record ↔
      needle.toList <+: leaf.toList :=
    matches_text_iff_of_read resolved isText read .startsWith needle
  rw [begins, prefix_iff_hasAt, String.length_toList, String.length_toList]
  refine and_congr_right fun fits => ?_
  exact (matches_substringEquals_ofNat_iff resolved isText read counted (by omega)).symm

/-- A text ends with a needle if its last part of that length is the needle. -/
theorem matches_endsWith_iff (counted : leaf.length < UInt64.size) (needle : String) :
    (Condition.text .endsWith text needle).Matches schema normal record ↔
      needle.length ≤ leaf.length ∧
        (substringEquals text (.ofNat (leaf.length - needle.length)) (.ofNat needle.length)
          needle).Matches schema normal record := by
  have ends : (Condition.text .endsWith text needle).Matches schema normal record ↔
      needle.toList <:+ leaf.toList :=
    matches_text_iff_of_read resolved isText read .endsWith needle
  rw [ends, suffix_iff_hasAt, String.length_toList, String.length_toList]
  refine and_congr_right fun fits => ?_
  exact (matches_substringEquals_ofNat_iff resolved isText read counted (by omega)).symm

end

/-- Where there is no text, because the field is null or a record on the way is absent, no part is
asked for, and the condition is false. -/
theorem substringEquals_of_null (resolved : schema.resolve text = .ok path)
    (isText : path.kind = .text)
    (noText : path.read record = .value .null ∨ ∃ hop, path.read record = .unreachable hop)
    (start length : UInt64) (expected : String) :
    (substringEquals text start length expected).ComesTo schema normal record (.ok false) := by
  rw [comesTo_substringEquals_iff resolved isText]
  split
  · rename_i reached
    obtain read | unread := noText
    · unfold Predicate.evaluate Operand.evaluate
      simp only [read]
      rfl
    · rw [← Path.follow_eq_none_iff] at unread
      rw [unread] at reached
      contradiction
  · rfl

/-- On a text of no more characters than words can count, the text contains a needle exactly if one
of its parts of that length is the needle, and begins or ends with the needle exactly if the first
or the last one is. The same is told by the bytes of the two. A part that does not lie within the
text is a fault, whichever words name it; any other is compared with what is expected, character by
character; and where there is no text, the condition is false. All this is so whether conditions
stand as they are or in normal form. -/
theorem texts_agree_with_parts (resolved : schema.resolve text = .ok path)
    (isText : path.kind = .text) (normal : Bool) (record : Record) :
    (∀ leaf : String, path.read record = .value (.text leaf) →
      (leaf.length < UInt64.size → ∀ needle : String,
        ((Condition.text .contains text needle).Matches schema normal record ↔
          ∃ start : UInt64, start.toNat + needle.length ≤ leaf.length ∧
            (substringEquals text start (.ofNat needle.length) needle).Matches schema normal
              record) ∧
        ((Condition.text .startsWith text needle).Matches schema normal record ↔
          needle.length ≤ leaf.length ∧
            (substringEquals text 0 (.ofNat needle.length) needle).Matches schema normal record) ∧
        ((Condition.text .endsWith text needle).Matches schema normal record ↔
          needle.length ≤ leaf.length ∧
            (substringEquals text (.ofNat (leaf.length - needle.length)) (.ofNat needle.length)
              needle).Matches schema normal record)) ∧
      (∀ test needle, test ≠ .containsIgnoreCase →
        ((Condition.text test text needle).Matches schema normal record ↔
          test.Stands (encode needle.toList) (encode leaf.toList))) ∧
      ∀ start length : UInt64, ∀ expected : String,
        (∀ error,
          (substringEquals text start length expected).ComesTo schema normal record
            (.error error) ↔
          leaf.length < start.toNat + length.toNat ∧
            error = .substringOutOfRange path.toText start length leaf.length) ∧
        (start.toNat + length.toNat ≤ leaf.length →
          ∃ answer, (substringEquals text start length expected).ComesTo schema normal record
              (.ok answer) ∧
            (answer = true ↔ expected.length = length.toNat ∧
              HasAt leaf.toList start.toNat expected.toList))) ∧
    ((path.read record = .value .null ∨ ∃ hop, path.read record = .unreachable hop) →
      ∀ start length : UInt64, ∀ expected : String,
        (substringEquals text start length expected).ComesTo schema normal record
          (.ok false)) := by
  refine ⟨fun leaf read => ⟨fun counted needle => ?_, fun test needle sensitive => ?_,
    fun start length expected => ?_⟩, substringEquals_of_null resolved isText⟩
  · exact ⟨matches_contains_iff resolved isText read counted needle,
      matches_startsWith_iff resolved isText read counted needle,
      matches_endsWith_iff resolved isText read counted needle⟩
  · have plain (text : List Char) : test.prepared text = text := by
      cases test with
      | containsIgnoreCase => contradiction
      | _ => rfl
    rw [matches_text_iff_of_read resolved isText read, plain, plain, TextTest.stands_encode_iff]
  · exact ⟨substringEquals_fails_iff resolved isText read start length expected,
      substringEquals_answers resolved isText read expected⟩

/-- A text of four characters and ten bytes ends with its last part and has none past its end,
also if the words that name it add up to a small one. -/
theorem texts_agree_with_parts_of_wideCharacters :
    let record : Record := [.value (.text "aé漢𝄞"), .value .null, .absent]
    (Condition.text .endsWith "label" "漢𝄞").Matches Sample.nodes true record ∧
      (substringEquals "label" 2 2 "漢𝄞").Matches Sample.nodes true record ∧
      (substringEquals "label" (.ofNat (UInt64.size - 1)) 2 "a").ComesTo Sample.nodes true record
        (.error (.substringOutOfRange "Label" (.ofNat (UInt64.size - 1)) 2 4)) ∧
      (substringEquals "label" 4 0 "").ComesTo Sample.nodes true record (.ok true) ∧
      (substringEquals "next.label" 0 1 "a").ComesTo Sample.nodes true record (.ok false) := by
  intro record
  have resolved : Sample.nodes.resolve "label" = .ok _ := rfl
  obtain ⟨onText, _⟩ := texts_agree_with_parts resolved rfl true record
  obtain ⟨tests, bytes, parts⟩ := onText "aé漢𝄞" rfl
  have ends : (Condition.text .endsWith "label" "漢𝄞").Matches Sample.nodes true record :=
    (bytes .endsWith "漢𝄞" (by decide)).mpr
      (show encode "漢𝄞".toList <:+ encode "aé漢𝄞".toList by decide)
  have last := ((tests (by decide) "漢𝄞").2.2.mp ends).2
  obtain ⟨answer, nothing, held⟩ := (parts 4 0 "").2 (by decide)
  rw [held.mpr ⟨rfl, fun place inside => absurd inside (Nat.not_lt_zero place)⟩] at nothing
  have further : Sample.nodes.resolve "next.label" = .ok _ := rfl
  obtain ⟨_, beyond⟩ := texts_agree_with_parts further rfl true record
  exact ⟨ends, last, ((parts (.ofNat (UInt64.size - 1)) 2 "a").1 _).mpr ⟨by decide, rfl⟩, nothing,
    beyond (.inr ⟨0, rfl⟩) 0 1 "a"⟩

end Condition

end RecordQuery

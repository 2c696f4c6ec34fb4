/-
This file says when a needle that occurs in a text is also found there with case ignored.

The needle is put into lower case when the condition is built, and the text when it is evaluated.
The two agree wherever the capital sigmas of the needle have the form in the text that they have in
the needle alone. A needle that settles the forms of its sigmas is found wherever it occurs. Any
other occurs in some text without being found there.
-/

import RecordQuery.Proofs.FinalSigma
import RecordQuery.Proofs.TextConditions

namespace RecordQuery

open Text

/-! ### Records with a given text -/

theorem getElem?_replicate_absent (place : Nat) (cell : Cell) :
    (List.replicate place Cell.absent ++ [cell])[place]? = some cell := by
  rw [List.getElem?_append_right (List.length_replicate.le), List.length_replicate, Nat.sub_self]
  rfl

/-- Some steps lead to any given record from some other. -/
theorem Path.exists_follow (through : List Step) (inner : Record) :
    ∃ record, Path.follow through record = some inner := by
  induction through with
  | nil => exact ⟨inner, rfl⟩
  | cons step steps inductionHypothesis =>
    obtain ⟨next, reached⟩ := inductionHypothesis
    refine ⟨List.replicate step.place Cell.absent ++ [.record next], ?_⟩
    rw [Path.follow, Step.nested?, Record.nestedAt?, getElem?_replicate_absent]
    exact reached

/-- A path of a plain kind reads as any given value on some record. -/
theorem Path.exists_read_eq_text {schema : Schema} {text : String} {path : Path}
    (resolved : schema.resolve text = .ok path) (isText : path.kind = .text) (leaf : String) :
    ∃ record, path.read record = .value (.text leaf) := by
  obtain ⟨record, reached⟩ := Path.exists_follow path.through
    (List.replicate path.leaf.place Cell.absent ++ [.value (.text leaf)])
  refine ⟨record, ?_⟩
  obtain ⟨_, _, takes⟩ := Schema.walks_of_resolve resolved
  rw [Path.kind, takes.kind] at isText
  rw [Path.read_of_follow reached, Step.read]
  cases content : path.leaf.content with
  | scalar kind =>
    simp only [Record.scalarAt, getElem?_replicate_absent]
  | record number =>
    rw [content] at isText
    contradiction

/-! ### Ignoring case -/

namespace Condition

variable {schema : Schema} {text : String} {path : Path} {normal : Bool} {record : Record}

/-- With case ignored, a text contains a needle just if the lower case of the one contains that of
the other. -/
theorem matches_containsIgnoreCase_iff {leaf : String} (resolved : schema.resolve text = .ok path)
    (isText : path.kind = .text) (read : path.read record = .value (.text leaf)) (needle : String) :
    (Condition.text .containsIgnoreCase text needle).Matches schema normal record ↔
      lower needle.toList <:+: lower leaf.toList :=
  matches_text_iff_of_read resolved isText read .containsIgnoreCase needle

/-- A needle that occurs in a text where its capital sigmas have the forms that they have in the
needle alone is found there with case ignored. So a needle that settles the forms of its sigmas is
found by ignoring case on every record whose text contains it. For any other needle there is a text
that contains it and in which it is not found by ignoring case. -/
theorem ignoring_case_keeps_matches (resolved : schema.resolve text = .ok path)
    (isText : path.kind = .text) (needle : String) :
    (∀ normal record leaf before after, path.read record = .value (.text leaf) →
      leaf.toList = before ++ needle.toList ++ after → KeepsForms before needle.toList after →
      (Condition.text .contains text needle).Matches schema normal record ∧
        (Condition.text .containsIgnoreCase text needle).Matches schema normal record) ∧
    (SettlesForms needle.toList → ∀ normal record,
      (Condition.text .contains text needle).Matches schema normal record →
        (Condition.text .containsIgnoreCase text needle).Matches schema normal record) ∧
    (¬SettlesForms needle.toList → ∃ leaf : String,
      (∃ record, path.read record = .value (.text leaf)) ∧
        ∀ normal record, path.read record = .value (.text leaf) →
          (Condition.text .contains text needle).Matches schema normal record ∧
            ¬(Condition.text .containsIgnoreCase text needle).Matches schema normal record) := by
  refine ⟨fun normal record leaf before after read whole keeps => ⟨?_, ?_⟩,
    fun settles normal record matched => ?_, fun unsettled => ?_⟩
  · rw [matches_contains_iff_occurs resolved isText read, whole]
    exact ⟨before, after, rfl⟩
  · rw [matches_containsIgnoreCase_iff resolved isText read, whole]
    exact lower_infix_of_keepsForms keeps
  · obtain ⟨leaf, read, occurs⟩ := (matches_text_iff resolved isText .contains needle).mp matched
    exact (matches_containsIgnoreCase_iff resolved isText read needle).mpr
      (settlesForms_iff.mp settles leaf.toList occurs)
  · simp only [settlesForms_iff, not_forall] at unsettled
    obtain ⟨leaf, occurs, missed⟩ := unsettled
    refine ⟨String.ofList leaf, Path.exists_read_eq_text resolved isText _,
      fun normal record read => ⟨?_, ?_⟩⟩
    · rw [matches_contains_iff_occurs resolved isText read, String.toList_ofList]
      exact occurs
    · rw [matches_containsIgnoreCase_iff resolved isText read, String.toList_ofList]
      exact missed

/-- The neighbours of the sigma within the needle settle that it is final, so that the needle is
found with case ignored. -/
theorem ignoring_case_keeps_matches_of_endOfWord :
    let record : Record := [.value (.text "ΝΟΜΟΣ ΑΡΧΑΙΟΣ"), .value .null, .absent]
    (Condition.text .contains "label" "ΟΣ Α").Matches Sample.nodes true record ∧
      (Condition.text .containsIgnoreCase "label" "ΟΣ Α").Matches Sample.nodes true record := by
  intro record
  have resolved : Sample.nodes.resolve "label" = .ok _ := rfl
  obtain ⟨_, settled, _⟩ := ignoring_case_keeps_matches resolved rfl "ΟΣ Α"
  have settles : SettlesForms ['Ο', 'Σ', ' ', 'Α'] := by
    intro left right whole
    obtain ⟨rfl, _, rfl⟩ := (List.append_cons_inj_of_notMem (by decide) (by decide)).mp
      (show ['Ο'] ++ 'Σ' :: [' ', 'Α'] = left ++ 'Σ' :: right from whole)
    exact .between (show neighbor? ['Ο'] = some 'Ο' by decide +kernel)
      (show neighbor? [' ', 'Α'] = some ' ' by decide +kernel)
  have matched : (Condition.text .contains "label" "ΟΣ Α").Matches Sample.nodes true record :=
    (matches_contains_iff_occurs resolved rfl rfl "ΟΣ Α").mpr (by decide)
  exact ⟨matched, settled settles true record matched⟩

/-- Ignoring case can lose a match: "ΑΣ" occurs in "ΑΣΑ", but alone it ends in a final sigma. -/
theorem not_all_matches_kept_ignoring_case :
    let record : Record := [.value (.text "ΑΣΑ"), .value .null, .absent]
    (Condition.text .contains "label" "ΑΣ").Matches Sample.nodes false record ∧
      ¬(Condition.text .containsIgnoreCase "label" "ΑΣ").Matches Sample.nodes false record := by
  intro record
  have resolved : Sample.nodes.resolve "label" = .ok _ := rfl
  rw [matches_contains_iff_occurs resolved rfl rfl, matches_containsIgnoreCase_iff resolved rfl rfl]
  exact ⟨by decide, by decide +kernel⟩

end Condition

end RecordQuery

/-
This file says what the words of a text are, and where words are found that are put into lower case.

The words of a text are its pieces between white space, empty ones aside. Lower case never makes
white space of another character. Only a final sigma depends on what stands around it, and a space
ends what it depends on just as the end of a text does, for a space has no case and is not passed
over. So texts with spaces between them are put into lower case one by one, and a text without
spaces is found in them together just where it is found in one of them.
-/

import RecordQuery.Proofs.FinalSigma
import RecordQuery.Text.Blank
import RecordQuery.Text.Search

namespace RecordQuery.Text

variable {char : Char} {text word needle first second : List Char} {parts : List (List Char)}

/-! ### Words -/

/-- A scan for words finds the pieces between white space, the letters that it has passed being part
of the first. -/
theorem wordsFrom_eq (letters text : List Char) :
    wordsFrom letters text =
      (text.splitOnPPrepend isBlank letters).filter fun piece => !piece.isEmpty := by
  induction text generalizing letters with
  | nil =>
    rw [wordsFrom, List.splitOnPPrepend_nil]
    cases letters <;> simp
  | cons char text inductionHypothesis =>
    rw [wordsFrom, List.splitOnPPrepend_cons_eq_if, List.splitOnP_eq_splitOnPPrepend,
      inductionHypothesis, inductionHypothesis]
    cases isBlank char <;> cases letters <;> simp

/-- The words of a text are its pieces between white space, empty ones aside. -/
theorem words_eq (text : List Char) :
    words text = (text.splitOnP isBlank).filter fun piece => !piece.isEmpty :=
  wordsFrom_eq [] text

theorem wordsFrom_eq_nil_iff {letters : List Char} :
    wordsFrom letters text = [] ↔ letters = [] ∧ ∀ char ∈ text, isBlank char = true := by
  induction text generalizing letters with
  | nil => cases letters <;> simp [wordsFrom]
  | cons char text inductionHypothesis =>
    rw [wordsFrom, List.forall_mem_cons]
    cases blank : isBlank char with
    | false => simp [inductionHypothesis]
    | true => cases letters <;> simp [inductionHypothesis]

/-- A text has no words if it is all white space. -/
theorem words_eq_nil_iff : words text = [] ↔ ∀ char ∈ text, isBlank char = true := by
  rw [words, wordsFrom_eq_nil_iff, and_iff_right rfl]

theorem not_isBlank_of_mem_wordsFrom {letters : List Char}
    (passed : ∀ letter ∈ letters, isBlank letter = false) (member : word ∈ wordsFrom letters text) :
    ∀ char ∈ word, isBlank char = false := by
  have unfinished : ∀ letter ∈ letters.reverse, isBlank letter = false :=
    fun letter inLetters => passed letter (List.mem_reverse.mp inLetters)
  induction text generalizing letters with
  | nil =>
    rw [wordsFrom] at member
    split at member
    · exact absurd member List.not_mem_nil
    · rwa [List.mem_singleton.mp member]
  | cons char text inductionHypothesis =>
    have fresh := @inductionHypothesis [] (List.forall_mem_nil _)
    rw [wordsFrom] at member
    split at member
    · rename_i visible
      have longer : ∀ letter ∈ char :: letters, isBlank letter = false :=
        List.forall_mem_cons.mpr ⟨Bool.not_eq_true' _ ▸ visible, passed⟩
      exact inductionHypothesis longer member
        fun letter inLetters => longer letter (List.mem_reverse.mp inLetters)
    · split at member
      · exact fresh member (List.forall_mem_nil _)
      · rcases List.mem_cons.mp member with rfl | later
        · exact unfinished
        · exact fresh later (List.forall_mem_nil _)

/-- No word holds white space. -/
theorem not_isBlank_of_mem_words (member : word ∈ words text) :
    ∀ char ∈ word, isBlank char = false :=
  not_isBlank_of_mem_wordsFrom (List.forall_mem_nil _) member

/-! ### Lower case and white space -/

/-- No range of lower case letters meets a range of white space. -/
theorem lowerRanges_apart : ∀ range ∈ lowerRanges, ∀ blanks ∈ blankRanges,
    range.last + range.shift < blanks.first ∨ blanks.last < range.first + range.shift := by
  decide +kernel

theorem blankRanges_pos : ∀ blanks ∈ blankRanges, 0 < blanks.first := by
  decide

theorem isBlank_toLower_of_ascii :
    ∀ code < 0x80, isBlank (Char.ofNat code).toLower = isBlank (Char.ofNat code) := by
  decide +kernel

/-- A code point is that of its character, unless no character has it. -/
theorem toNat_ofNat_cases (code : Nat) :
    (Char.ofNat code).toNat = code ∨ (Char.ofNat code).toNat = 0 := by
  by_cases valid : code.isValidChar
  · rw [Char.ofNat, dif_pos valid]
    exact .inl rfl
  · rw [Char.ofNat, dif_neg valid]
    exact .inr rfl

/-- The lower case of a single character is no white space, unless the character is. -/
theorem not_isBlank_lowerChar (visible : isBlank char = false) :
    isBlank (lowerChar char) = false := by
  unfold lowerChar
  split
  · rename_i ascii
    have same := isBlank_toLower_of_ascii char.toNat ascii
    rwa [Char.ofNat_toNat, visible] at same
  · split
    · rename_i range found
      have member := List.mem_of_find?_eq_some found
      have within := List.find?_some found
      simp only [LowerRange.contains, Bool.and_eq_true, decide_eq_true_eq] at within
      rw [isBlank, inRanges, List.any_eq_false]
      intro blanks blankMember
      have apart := lowerRanges_apart range member blanks blankMember
      have positive := blankRanges_pos blanks blankMember
      have lowered := toNat_ofNat_cases (char.toNat + range.shift).toNat
      simp only [CharRange.contains, Bool.and_eq_true, decide_eq_true_eq]
      omega
    · exact visible

/-- Lower case makes no white space of other characters. -/
theorem not_isBlank_of_mem_lower (visible : ∀ char ∈ text, isBlank char = false) :
    ∀ char ∈ lower text, isBlank char = false := by
  unfold lower
  generalize [] = before
  induction text generalizing before with
  | nil => exact List.forall_mem_nil _
  | cons char text inductionHypothesis =>
    obtain ⟨here, later⟩ := List.forall_mem_cons.mp visible
    rw [lowerFrom]
    refine List.forall_mem_append.mpr ⟨?_, inductionHypothesis later _⟩
    unfold lowerAt
    split
    · split <;> exact List.forall_mem_singleton.mpr (by decide)
    · split
      · exact List.forall_mem_cons.mpr ⟨by decide, List.forall_mem_singleton.mpr (by decide)⟩
      · exact List.forall_mem_singleton.mpr (not_isBlank_lowerChar here)

/-! ### Texts with spaces between them -/

/-- Nothing beyond a space is a neighbour of what stands before it. -/
theorem meetsCased_append_space (text rest : List Char) :
    meetsCased (text ++ ' ' :: rest) = meetsCased text := by
  have space : neighbor? (' ' :: rest) = some ' ' := by
    have counts : isCaseIgnorable ' ' = false := by decide +kernel
    rw [neighbor?, List.dropWhile_cons, counts]
    rfl
  have uncased : isCased ' ' = false := by decide +kernel
  rw [meetsCased_eq, meetsCased_eq, neighbor?_append, space]
  cases neighbor? text with
  | some char => rfl
  | none => exact uncased

theorem isFinal_append_space_left (before after rest : List Char) :
    isFinal (before ++ ' ' :: rest) after = isFinal before after := by
  rw [isFinal, isFinal, meetsCased_append_space]

theorem isFinal_append_space_right (before after rest : List Char) :
    isFinal before (after ++ ' ' :: rest) = isFinal before after := by
  rw [isFinal, isFinal, meetsCased_append_space]

/-- Texts with a space between them are put into lower case one by one. -/
theorem lower_append_space (first second : List Char) :
    lower (first ++ ' ' :: second) = lower first ++ ' ' :: lower second := by
  have former : lowerBetween [] first (' ' :: second) = lower first := by
    rw [lower_eq]
    refine lowerBetween_congr fun left right _ => ?_
    simpa only [List.append_nil] using isFinal_append_space_right left.reverse right second
  have latter : lowerBetween (' ' :: first.reverse) second [] = lower second := by
    rw [lower_eq]
    refine lowerBetween_congr fun left right _ => ?_
    simpa only [List.append_nil] using isFinal_append_space_left left.reverse right first.reverse
  have space (before after : List Char) : lowerAt before ' ' after = [' '] := rfl
  rw [lower_eq, lowerBetween_append, List.append_nil, List.append_nil, former, lowerBetween, latter,
    space]
  rfl

theorem lower_intercalate (parts : List (List Char)) :
    lower ([' '].intercalate parts) = [' '].intercalate (parts.map lower) := by
  induction parts with
  | nil => rfl
  | cons part parts inductionHypothesis =>
    cases parts with
    | nil => rw [List.map_singleton, List.intercalate_singleton, List.intercalate_singleton]
    | cons next parts =>
      rw [List.map_cons, List.map_cons, List.intercalate_cons_cons, List.intercalate_cons_cons,
        ← List.map_cons, ← inductionHypothesis, List.append_assoc, List.append_assoc]
      exact lower_append_space part _

/-- A text without spaces that is found across a space is found on one side of it. -/
theorem infix_append_space_iff (free : ' ' ∉ needle) :
    needle <:+: first ++ ' ' :: second ↔ needle <:+: first ∨ needle <:+: second := by
  have empty {part : List Char} (atSpace : part <+: ' ' :: second) (inNeedle : part ⊆ needle) :
      part = [] := by
    rcases List.prefix_cons_iff.mp atSpace with isNil | ⟨rest, rfl, _⟩
    · exact isNil
    · exact absurd (inNeedle List.mem_cons_self) free
  rw [List.infix_append_iff, List.infix_cons_iff]
  constructor
  · rintro (inFirst | (atSpace | inSecond) | ⟨left, right, rfl, atEnd, atSpace⟩)
    · exact .inl inFirst
    · rw [empty atSpace (List.Subset.refl _)]
      exact .inl List.nil_infix
    · exact .inr inSecond
    · rw [empty atSpace (List.subset_append_right _ _), List.append_nil]
      exact .inl atEnd.isInfix
  · rintro (inFirst | inSecond)
    · exact .inl inFirst
    · exact .inr (.inl (.inr inSecond))

/-- A text without spaces is found in texts with spaces between them just if it is found in one of
these. -/
theorem infix_intercalate_iff (free : ' ' ∉ needle) (part : List Char) (parts : List (List Char)) :
    needle <:+: [' '].intercalate (part :: parts) ↔
      ∃ other ∈ part :: parts, needle <:+: other := by
  induction parts generalizing part with
  | nil => simp [List.intercalate_singleton]
  | cons next parts inductionHypothesis =>
    rw [List.intercalate_cons_cons, List.append_assoc, List.singleton_append,
      infix_append_space_iff free, inductionHypothesis]
    exact (List.exists_mem_cons_iff _ part _).symm

end RecordQuery.Text

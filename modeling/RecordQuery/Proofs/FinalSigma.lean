/-
This file says when the lower case of a text survives in a longer one.

The lower case of a character depends on what stands around it for one character only: the capital
sigma, which takes its final form where a cased character precedes it and none follows. The
neighbours that decide are the nearest that are not case-ignorable. If a text has such neighbours
for each of its sigmas, what surrounds the text does not count. If it lacks them for one, one letter
before or after the text changes a form, and then the lower case of the longer text has fewer sigmas
of one form than that of the text alone.
-/

import RecordQuery.Text.LowerCase
import Mathlib.Data.List.Infix

namespace RecordQuery.Text

/-! ### The form of a capital sigma -/

/-- Whether a capital sigma takes its final form between two texts, the first of them given last
character first. -/
def isFinal (before after : List Char) : Bool :=
  meetsCased before && !meetsCased after

/-- The lower case of a capital sigma. -/
def sigma (final : Bool) : Char :=
  if final then 'ς' else 'σ'

theorem lowerAt_sigma (before after : List Char) :
    lowerAt before 'Σ' after = [sigma (isFinal before after)] := by
  rw [lowerAt, if_pos rfl, isFinal, sigma]
  split <;> rfl

/-- The lower case of any other character does not depend on its neighbours. -/
theorem lowerAt_of_ne {char : Char} (other : char ≠ 'Σ') (before after before' after' : List Char) :
    lowerAt before char after = lowerAt before' char after' := by
  rw [lowerAt, lowerAt, if_neg other, if_neg other]

/-! ### Texts inside of texts -/

/-- The lower case of a text between two others, the first of them given last character first. -/
def lowerBetween (before : List Char) : List Char → List Char → List Char
  | [], _ => []
  | char :: rest, after =>
    lowerAt before char (rest ++ after) ++ lowerBetween (char :: before) rest after

theorem lowerBetween_append (before first second after : List Char) :
    lowerBetween before (first ++ second) after =
      lowerBetween before first (second ++ after) ++
        lowerBetween (first.reverse ++ before) second after := by
  induction first generalizing before with
  | nil => rfl
  | cons char first inductionHypothesis =>
    simp only [List.cons_append, lowerBetween, inductionHypothesis, List.append_assoc,
      List.reverse_cons, List.nil_append]

theorem lowerFrom_eq (before text : List Char) :
    lowerFrom before text = lowerBetween before text [] := by
  induction text generalizing before with
  | nil => rfl
  | cons char text inductionHypothesis =>
    rw [lowerFrom, lowerBetween, inductionHypothesis, List.append_nil]

theorem lower_eq (text : List Char) : lower text = lowerBetween [] text [] :=
  lowerFrom_eq [] text

/-- The lower case of a text that stands in another. -/
theorem lower_append_append (before text after : List Char) :
    lower (before ++ text ++ after) =
      lowerBetween [] before (text ++ after) ++ lowerBetween before.reverse text after ++
        lowerBetween (text.reverse ++ before.reverse) after [] := by
  simp only [lower_eq, lowerBetween_append, List.append_nil, List.append_assoc]

/-! ### The capital sigmas of a text -/

/-- Whether something holds of each capital sigma of a text, of what stands before it in the text,
last character first, and of what stands after it. -/
def EachSigma (holds : List Char → List Char → Prop) (text : List Char) : Prop :=
  ∀ left right, text = left ++ 'Σ' :: right → holds left.reverse right

namespace EachSigma

variable {holds : List Char → List Char → Prop} {first second : List Char}

theorem left (each : EachSigma holds (first ++ second)) :
    EachSigma (fun before after => holds before (after ++ second)) first := by
  rintro before after rfl
  exact each before (after ++ second) (by simp)

theorem right (each : EachSigma holds (first ++ second)) :
    EachSigma (fun before after => holds (before ++ first.reverse) after) second := by
  rintro before after rfl
  rw [← List.reverse_append]
  exact each (first ++ before) after (by simp)

end EachSigma

section

variable {text before after before' after' : List Char}

/-- Texts around a text which leave the forms of its sigmas the same leave its lower case the
same. -/
theorem lowerBetween_congr
    (same : EachSigma (fun left right => isFinal (left ++ before) (right ++ after) =
      isFinal (left ++ before') (right ++ after')) text) :
    lowerBetween before text after = lowerBetween before' text after' := by
  induction text generalizing before before' with
  | nil => rfl
  | cons char text inductionHypothesis =>
    have rest : EachSigma _ text := EachSigma.right (show EachSigma _ ([char] ++ text) from same)
    simp only [List.reverse_cons, List.reverse_nil, List.nil_append, List.append_assoc,
      List.singleton_append] at rest
    rw [lowerBetween, lowerBetween, inductionHypothesis rest]
    by_cases isSigma : char = 'Σ'
    · subst isSigma
      have form := same [] text rfl
      rw [lowerAt_sigma, lowerAt_sigma]
      exact congrArg (fun final => [sigma final] ++ _) form
    · rw [lowerAt_of_ne isSigma]

theorem count_singleton_sigma (final form : Bool) :
    [sigma form].count (sigma final) = if form = final then 1 else 0 := by
  cases final <;> cases form <;> rfl

/-- Texts around a text which take a form from some of its sigmas, and give it to none, leave no
more of that form in its lower case. -/
theorem count_lowerBetween_le {final : Bool}
    (fewer : EachSigma (fun left right => isFinal (left ++ before') (right ++ after') = final →
      isFinal (left ++ before) (right ++ after) = final) text) :
    (lowerBetween before' text after').count (sigma final) ≤
      (lowerBetween before text after).count (sigma final) := by
  induction text generalizing before before' with
  | nil => exact le_rfl
  | cons char text inductionHypothesis =>
    have rest : EachSigma _ text :=
      EachSigma.right (show EachSigma _ ([char] ++ text) from fewer)
    simp only [List.reverse_cons, List.reverse_nil, List.nil_append, List.append_assoc,
      List.singleton_append] at rest
    rw [lowerBetween, lowerBetween, List.count_append, List.count_append]
    refine Nat.add_le_add ?_ (inductionHypothesis rest)
    by_cases isSigma : char = 'Σ'
    · subst isSigma
      rw [lowerAt_sigma, lowerAt_sigma, count_singleton_sigma, count_singleton_sigma]
      split
      · rename_i form
        exact (if_pos (fewer [] text rfl form)).ge
      · exact Nat.zero_le _
    · rw [lowerAt_of_ne isSigma]

theorem count_lowerBetween_sigma (final : Bool) (before left right after : List Char) :
    (lowerBetween before (left ++ 'Σ' :: right) after).count (sigma final) =
      (lowerBetween before left ('Σ' :: (right ++ after))).count (sigma final) +
        ((if isFinal (left.reverse ++ before) (right ++ after) = final then 1 else 0) +
          (lowerBetween ('Σ' :: (left.reverse ++ before)) right after).count (sigma final)) := by
  rw [lowerBetween_append, lowerBetween, List.count_append, List.count_append, lowerAt_sigma,
    count_singleton_sigma, List.cons_append]

/-- If they do take the form from one, they leave less of it. -/
theorem count_lowerBetween_lt {final : Bool}
    (fewer : EachSigma (fun left right => isFinal (left ++ before') (right ++ after') = final →
      isFinal (left ++ before) (right ++ after) = final) text) {left right : List Char}
    (whole : text = left ++ 'Σ' :: right)
    (was : isFinal (left.reverse ++ before) (right ++ after) = final)
    (changed : isFinal (left.reverse ++ before') (right ++ after') ≠ final) :
    (lowerBetween before' text after').count (sigma final) <
      (lowerBetween before text after).count (sigma final) := by
  subst whole
  have onLeft := fewer.left
  have onRight := (EachSigma.right (show EachSigma _ (['Σ'] ++ right) from fewer.right))
  simp only [List.append_assoc, List.cons_append, List.reverse_cons, List.reverse_nil,
    List.nil_append] at onLeft onRight
  have lefts := count_lowerBetween_le onLeft
  have rights := count_lowerBetween_le onRight
  rw [count_lowerBetween_sigma, count_lowerBetween_sigma, if_pos was, if_neg changed]
  omega

end

/-! ### Settled forms -/

/-- The first character of a text that is not case-ignorable. -/
def neighbor? (text : List Char) : Option Char :=
  (text.dropWhile isCaseIgnorable).head?

theorem neighbor?_append (first second : List Char) :
    neighbor? (first ++ second) = (neighbor? first).or (neighbor? second) := by
  rw [neighbor?, neighbor?, neighbor?, List.dropWhile_append]
  cases first.dropWhile isCaseIgnorable <;> rfl

theorem meetsCased_eq (text : List Char) : meetsCased text = (neighbor? text).any isCased := by
  rw [meetsCased, neighbor?]
  cases text.dropWhile isCaseIgnorable <;> rfl

theorem meetsCased_append {text : List Char} (meets : meetsCased text = true) (rest : List Char) :
    meetsCased (text ++ rest) = true := by
  rw [meetsCased_eq] at meets
  rw [meetsCased_eq, neighbor?_append]
  cases next : neighbor? text with
  | some char => rwa [next] at meets
  | none =>
    rw [next] at meets
    contradiction

/-- More text before a sigma makes it final, but never takes the final form from it. -/
theorem isFinal_append_left {before after : List Char} (final : isFinal before after = true)
    (rest : List Char) : isFinal (before ++ rest) after = true := by
  rw [isFinal, Bool.and_eq_true] at final ⊢
  exact ⟨meetsCased_append final.1 rest, final.2⟩

/-- More text after a sigma takes the final form from it, but never makes it final. -/
theorem isFinal_of_append_right {before after rest : List Char}
    (final : isFinal before (after ++ rest) = true) : isFinal before after = true := by
  rw [isFinal, Bool.and_eq_true] at final ⊢
  refine ⟨final.1, ?_⟩
  by_contra meets
  rw [Bool.not_eq_true, Bool.not_eq_false'] at meets
  rw [meetsCased_append meets rest] at final
  exact absurd final.2 Bool.false_ne_true

/-- Whether the form of a capital sigma between two texts is settled, whatever stands beyond them:
it has neighbours on both sides, or one before it without case, or one after it that is cased. -/
inductive Settled (before after : List Char) : Prop where
  | between {previous next : Char} (hasPrevious : neighbor? before = some previous)
      (hasNext : neighbor? after = some next)
  | uncased {previous : Char} (hasPrevious : neighbor? before = some previous)
      (uncased : isCased previous = false)
  | cased {next : Char} (hasNext : neighbor? after = some next) (cased : isCased next = true)

theorem isFinal_append_of_settled {before after : List Char} (settled : Settled before after)
    (beyondBefore beyondAfter : List Char) :
    isFinal (before ++ beyondBefore) (after ++ beyondAfter) = isFinal before after := by
  simp only [isFinal, meetsCased_eq, neighbor?_append]
  cases settled with
  | between hasPrevious hasNext => rw [hasPrevious, hasNext, Option.some_or, Option.some_or]
  | uncased hasPrevious uncased => simp [hasPrevious, uncased]
  | cased hasNext cased => simp [hasNext, cased]

/-- One letter on one side changes a form that is not settled. -/
theorem isFinal_cases_of_not_settled {before after : List Char}
    (unsettled : ¬Settled before after) :
    (isFinal before after = true ∧ isFinal before (after ++ ['a']) = false) ∨
      (isFinal before after = false ∧ isFinal (before ++ ['a']) after = true) := by
  have letter : neighbor? ['a'] = some 'a' := by decide +kernel
  have cased : isCased 'a' = true := by decide +kernel
  simp only [isFinal, meetsCased_eq, neighbor?_append, letter]
  cases hasPrevious : neighbor? before with
  | some previous =>
    have previousCased : isCased previous = true := by
      by_contra uncased
      exact unsettled (.uncased hasPrevious (Bool.not_eq_true _ ▸ uncased))
    have noNext : neighbor? after = none := by
      by_contra next
      obtain ⟨next, hasNext⟩ := Option.ne_none_iff_exists'.mp next
      exact unsettled (.between hasPrevious hasNext)
    exact .inl (by simp [noNext, previousCased, cased])
  | none =>
    have nextUncased : (neighbor? after).any isCased = false := by
      rw [Option.any_eq_false]
      intro next hasNext
      by_contra nextCased
      exact unsettled (.cased hasNext (Bool.not_eq_false _ ▸ nextCased))
    exact .inr (by simp [nextUncased, cased])

/-- Whether the form of each capital sigma of a text is settled within it. -/
def SettlesForms : List Char → Prop :=
  EachSigma Settled

/-- Whether the capital sigmas of a text have the forms between two others that they have in the
text alone. -/
def KeepsForms (before text after : List Char) : Prop :=
  EachSigma (fun left right =>
    isFinal (left ++ before.reverse) (right ++ after) = isFinal left right) text

theorem SettlesForms.keepsForms {text : List Char} (settles : SettlesForms text)
    (before after : List Char) : KeepsForms before text after :=
  fun left right whole => isFinal_append_of_settled (settles left right whole) before.reverse after

/-- A text whose sigmas keep their forms is found in lower case where it stands. -/
theorem lower_infix_of_keepsForms {before text after : List Char}
    (keeps : KeepsForms before text after) : lower text <:+: lower (before ++ text ++ after) := by
  have same : lowerBetween before.reverse text after = lower text := by
    rw [lower_eq]
    refine lowerBetween_congr fun left right whole => ?_
    simpa only [List.append_nil] using keeps left right whole
  rw [lower_append_append, same]
  exact ⟨_, _, rfl⟩

/-- A text is not found in lower case if what surrounds it takes a form from one of its sigmas,
gives it to none, and has none of that form itself. -/
theorem not_lower_infix_of_fewer {before text after left right : List Char} {final : Bool}
    (around : (lowerBetween [] before (text ++ after)).count (sigma final) +
      (lowerBetween (text.reverse ++ before.reverse) after []).count (sigma final) = 0)
    (fewer : EachSigma (fun left right =>
      isFinal (left ++ before.reverse) (right ++ after) = final → isFinal left right = final) text)
    (whole : text = left ++ 'Σ' :: right) (was : isFinal left.reverse right = final)
    (changed : isFinal (left.reverse ++ before.reverse) (right ++ after) ≠ final) :
    ¬lower text <:+: lower (before ++ text ++ after) := by
  intro occurs
  have counts := occurs.sublist.count_le (sigma final)
  have less : (lowerBetween before.reverse text after).count (sigma final) <
      (lowerBetween [] text []).count (sigma final) :=
    count_lowerBetween_lt (by simpa only [List.append_nil] using fewer) whole
      (by simpa only [List.append_nil] using was) changed
  rw [lower_append_append, lower_eq, List.count_append, List.count_append] at counts
  omega

/-- Ignoring case, a text is found wherever it stands just if the forms of its sigmas are settled.
Otherwise one letter on one side is enough to hide it. -/
theorem settlesForms_iff {text : List Char} :
    SettlesForms text ↔ ∀ whole, text <:+: whole → lower text <:+: lower whole := by
  constructor
  · rintro settles _ ⟨before, after, rfl⟩
    exact lower_infix_of_keepsForms (settles.keepsForms before after)
  · intro found left right whole
    by_contra unsettled
    obtain ⟨was, changed⟩ | ⟨was, changed⟩ := isFinal_cases_of_not_settled unsettled
    · have fewer : EachSigma (fun left right =>
          isFinal (left ++ [].reverse) (right ++ ['a']) = true →
            isFinal left right = true) text := by
        intro left right _ final
        exact isFinal_of_append_right (List.append_nil _ ▸ final)
      refine not_lower_infix_of_fewer rfl fewer whole was ?_
        (found ([] ++ text ++ ['a']) ⟨[], ['a'], rfl⟩)
      simpa using changed
    · have fewer : EachSigma (fun left right =>
          isFinal (left ++ ['a'].reverse) (right ++ []) = false →
            isFinal left right = false) text := by
        intro left right _ medial
        by_contra final
        rw [Bool.not_eq_false] at final
        rw [List.append_nil, isFinal_append_left final] at medial
        contradiction
      refine not_lower_infix_of_fewer rfl fewer whole was ?_
        (found (['a'] ++ text ++ []) ⟨['a'], [], rfl⟩)
      simpa using changed

end RecordQuery.Text

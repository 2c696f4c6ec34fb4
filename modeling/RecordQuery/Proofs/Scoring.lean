/-
This file says what a ranking by scores is.

Numeric order is partial: what is not a number is neither above nor below anything, and the two
zeros are one number. The orders of scores are total all the same, for they put what is not a number
behind all numbers and on one level, whichever way the numbers run. So a ranking has two parts: the
items whose scores are numbers, sorted by these, and behind them all others as they came. Items of
equal scores stay in the order they came in. There is only one such list.
-/

import RecordQuery.Proofs.Exactness
import RecordQuery.Proofs.Ranking

namespace RecordQuery.Ranking

open Number

variable {Item : Type} {score : Item → Single} {descending : Bool} {items ranked : List Item}
  {left right : Single}

/-! ### Orders of scores -/

/-- Whether a number may come before another in a direction. -/
def MayPrecede (descending : Bool) (former latter : Single) : Prop :=
  if descending then latter.exact ≤ former.exact else former.exact ≤ latter.exact

theorem compareScores_of_numbers (leftNumber : left.isNaN = false)
    (rightNumber : right.isNaN = false) :
    compareScores descending left right =
      if descending then compare right.ordinal left.ordinal
      else compare left.ordinal right.ordinal := by
  have leftPlace : placeOf left = left.ordinal := by
    rw [placeOf, leftNumber, if_neg Bool.false_ne_true]
  have rightPlace : placeOf right = right.ordinal := by
    rw [placeOf, rightNumber, if_neg Bool.false_ne_true]
  cases descending with
  | true =>
    show compareDescending left right = _
    rw [compareDescending_eq, leftNumber, rightNumber, leftPlace, rightPlace]
    rfl
  | false =>
    show compareAscending left right = _
    rw [compareAscending_eq, leftNumber, rightNumber, leftPlace, rightPlace]
    rfl

/-- Scores that are not numbers are level with each other and come after all numbers. -/
theorem compareScores_of_isNaN (apart : left.isNaN = true ∨ right.isNaN = true) :
    compareScores descending left right = compare left.isNaN right.isNaN := by
  unfold compareScores compareDescending compareAscending
  cases descending <;> cases leftKind : left.isNaN <;> cases rightKind : right.isNaN <;>
    simp_all <;> rfl

/-- A score may come before another that is not a number, and a number before one that it does not
have to follow. -/
theorem compareScores_ne_gt_iff : compareScores descending left right ≠ .gt ↔
    right.isNaN = true ∨
      left.isNaN = false ∧ right.isNaN = false ∧ MayPrecede descending left right := by
  cases leftKind : left.isNaN with
  | true =>
    have place : compare true right.isNaN ≠ .gt ↔ right.isNaN = true := by
      cases right.isNaN <;> decide
    rw [compareScores_of_isNaN (.inl leftKind), leftKind, place]
    simp
  | false =>
    cases rightKind : right.isNaN with
    | true =>
      have place : compare false true ≠ .gt := by decide
      rw [compareScores_of_isNaN (.inr rightKind), leftKind, rightKind]
      simp [place]
    | false =>
      rw [compareScores_of_numbers leftKind rightKind]
      unfold MayPrecede
      cases descending with
      | true => simp [Binary.exact_le_exact_iff rightKind leftKind, Int.compare_eq_gt]
      | false => simp [Binary.exact_le_exact_iff leftKind rightKind, Int.compare_eq_gt]

/-- Scores are level if they are equal, or neither is a number. -/
theorem compareScores_eq_iff : compareScores descending left right = .eq ↔
    left.isNaN = true ∧ right.isNaN = true ∨ left.numericEq right = true := by
  rw [Binary.numericEq_iff]
  cases leftKind : left.isNaN with
  | true =>
    have place : compare true right.isNaN = .eq ↔ right.isNaN = true := by
      cases right.isNaN <;> decide
    rw [compareScores_of_isNaN (.inl leftKind), leftKind, place]
    simp
  | false =>
    cases rightKind : right.isNaN with
    | true =>
      have place : compare false true ≠ .eq := by decide
      rw [compareScores_of_isNaN (.inr rightKind), leftKind, rightKind]
      simp [place]
    | false =>
      rw [compareScores_of_numbers leftKind rightKind]
      cases descending with
      | true => simp [@eq_comm Int right.ordinal]
      | false => simp

/-! ### Two parts of a list -/

/-- A list in which nothing that passes a test follows anything that fails it is what passes,
followed by what fails. -/
theorem eq_filter_append_filter {keep : Item → Bool} (ordered : items.Pairwise fun former latter =>
    keep latter = true → keep former = true) :
    items = items.filter keep ++ items.filter fun item => !keep item := by
  induction items with
  | nil => rfl
  | cons head rest inductionHypothesis =>
    obtain ⟨first, later⟩ := List.pairwise_cons.mp ordered
    cases kept : keep head with
    | true =>
      rw [List.filter_cons_of_pos kept, List.filter_cons_of_neg (by simp [kept]), List.cons_append,
        ← inductionHypothesis later]
    | false =>
      have none : rest.filter keep = [] := by
        refine List.filter_eq_nil_iff.mpr fun item member passes => ?_
        rw [first item member passes] at kept
        contradiction
      have all : (rest.filter fun item => !keep item) = rest := by
        conv_rhs => rw [inductionHypothesis later, none, List.nil_append]
      rw [List.filter_cons_of_neg (by simp [kept]), List.filter_cons_of_pos (by simp [kept]), none,
        all, List.nil_append]

/-! ### Rankings -/

/-- Whether a list ranks some items by their scores. -/
structure RanksBy (score : Item → Single) (descending : Bool) (items ranked : List Item) :
    Prop where
  /-- It has the same items. -/
  perm : ranked.Perm items
  /-- Behind all items whose scores are numbers come the others, as they came. -/
  nansLast : ranked = (ranked.filter fun item => !(score item).isNaN) ++
    items.filter fun item => (score item).isNaN
  /-- Scores that are numbers are in order. -/
  inOrder : (ranked.filter fun item => !(score item).isNaN).Pairwise fun former latter =>
    MayPrecede descending (score former) (score latter)
  /-- Items of equal scores are as they came. -/
  stable : ∀ item, (ranked.filter fun other => (score item).numericEq (score other)) =
    items.filter fun other => (score item).numericEq (score other)

/-- What is level with an item whose score is not a number is all such items. -/
theorem levelWith_of_isNaN {item : Item} (notNumber : (score item).isNaN = true)
    (items : List Item) :
    levelWith (compareBy score descending) item items =
      items.filter fun other => (score other).isNaN := by
  refine List.filter_congr fun other _ => Bool.eq_iff_iff.mpr ?_
  rw [decide_eq_true_iff, compareBy, compareScores_eq_iff, Binary.numericEq_iff, notNumber]
  simp

/-- What is level with an item whose score is a number is all items of that score. -/
theorem levelWith_of_number {item : Item} (isNumber : (score item).isNaN = false)
    (items : List Item) :
    levelWith (compareBy score descending) item items =
      items.filter fun other => (score item).numericEq (score other) := by
  refine List.filter_congr fun other _ => Bool.eq_iff_iff.mpr ?_
  rw [decide_eq_true_iff, compareBy, compareScores_eq_iff, isNumber]
  simp

/-- No score equals one that is not a number. -/
theorem filter_numericEq_of_isNaN {item : Item} (notNumber : (score item).isNaN = true)
    (items : List Item) :
    (items.filter fun other => (score item).numericEq (score other)) = [] := by
  refine List.filter_eq_nil_iff.mpr fun other _ equal => ?_
  rw [(Binary.numericEq_iff.mp equal).1] at notNumber
  contradiction

/-- A stable sort by scores keeps the items whose scores are not numbers as they came. -/
theorem filter_isNaN_of_stablySorted
    (sorted : StablySorted (compareBy score descending) items ranked) :
    (ranked.filter fun item => (score item).isNaN) =
      items.filter fun item => (score item).isNaN := by
  by_cases some : ∃ item, (score item).isNaN = true
  · obtain ⟨item, notNumber⟩ := some
    have same := sorted.stable item
    rwa [levelWith_of_isNaN notNumber, levelWith_of_isNaN notNumber] at same
  · have none (items : List Item) : (items.filter fun item => (score item).isNaN) = [] :=
      List.filter_eq_nil_iff.mpr fun item _ notNumber => some ⟨item, notNumber⟩
    rw [none, none]

theorem ranksBy_of_stablySorted
    (sorted : StablySorted (compareBy score descending) items ranked) :
    RanksBy score descending items ranked where
  perm := sorted.perm
  nansLast := by
    have parts := @eq_filter_append_filter Item ranked (fun item => !(score item).isNaN) <| by
      refine sorted.ordered.imp fun {former latter} ordered latterNumber => ?_
      rcases compareScores_ne_gt_iff.mp ordered with notNumber | ⟨isNumber, _, _⟩
      · rw [notNumber] at latterNumber
        contradiction
      · rw [isNumber]
        rfl
    simp only [Bool.not_not] at parts
    rwa [filter_isNaN_of_stablySorted sorted] at parts
  inOrder := by
    refine List.pairwise_filter.mpr (sorted.ordered.imp fun {former latter} ordered => ?_)
    intro _ isNumber
    rcases compareScores_ne_gt_iff.mp ordered with notNumber | ⟨_, _, inOrder⟩
    · rw [notNumber] at isNumber
      contradiction
    · exact inOrder
  stable := by
    intro item
    cases kind : (score item).isNaN with
    | true => rw [filter_numericEq_of_isNaN kind, filter_numericEq_of_isNaN kind]
    | false =>
      rw [← levelWith_of_number kind, ← levelWith_of_number kind]
      exact sorted.stable item

theorem isNaN_of_mem_numbers {item : Item}
    (member : item ∈ items.filter fun item => !(score item).isNaN) : (score item).isNaN = false :=
  (Bool.not_eq_true' _).mp (List.mem_filter.mp member).2

theorem stablySorted_of_ranksBy (ranks : RanksBy score descending items ranked) :
    StablySorted (compareBy score descending) items ranked where
  perm := ranks.perm
  ordered := by
    rw [ranks.nansLast]
    refine List.pairwise_append.mpr ⟨?_, ?_, ?_⟩
    · refine List.Pairwise.imp_of_mem (fun {former latter} inFormer inLatter inOrder => ?_)
        ranks.inOrder
      exact compareScores_ne_gt_iff.mpr
        (.inr ⟨isNaN_of_mem_numbers inFormer, isNaN_of_mem_numbers inLatter, inOrder⟩)
    · refine List.pairwise_of_forall_mem_list fun former _ latter inLatter => ?_
      exact compareScores_ne_gt_iff.mpr (.inl (List.mem_filter.mp inLatter).2)
    · intro former _ latter inLatter
      exact compareScores_ne_gt_iff.mpr (.inl (List.mem_filter.mp inLatter).2)
  stable := by
    intro item
    cases kind : (score item).isNaN with
    | true =>
      rw [levelWith_of_isNaN kind, levelWith_of_isNaN kind]
      conv_lhs => rw [ranks.nansLast]
      simp [List.filter_append, List.filter_filter]
    | false =>
      rw [levelWith_of_number kind, levelWith_of_number kind]
      exact ranks.stable item

theorem ranksBy_rankByScore (score : Item → Single) (descending : Bool) (items : List Item) :
    RanksBy score descending items (rankByScore score descending items) :=
  ranksBy_of_stablySorted (stablySorted_rankByScore score descending items)

/-- A list has only one ranking by some scores. -/
theorem RanksBy.unique {other : List Item} (first : RanksBy score descending items ranked)
    (second : RanksBy score descending items other) : ranked = other :=
  (stablySorted_of_ranksBy first).unique (stablySorted_of_ranksBy second)

/-- Rankings of the same items agree if the scores of these do. -/
theorem rankByScore_congr {other : Item → Single}
    (same : ∀ item ∈ items, score item = other item) (descending : Bool) :
    rankByScore score descending items = rankByScore other descending items := by
  have scored : (items.map fun item => (score item, item)) =
      items.map fun item => (other item, item) :=
    List.map_congr_left fun item member => by rw [same item member]
  rw [rankByScore, rankByScore, scored]

/-- It does not matter whether items are ranked before some of them are dropped, or after. -/
theorem rankByScore_filter (score : Item → Single) (descending : Bool) (keep : Item → Bool)
    (items : List Item) :
    rankByScore score descending (items.filter keep) =
      (rankByScore score descending items).filter keep :=
  (stablySorted_rankByScore score descending (items.filter keep)).unique
    ((stablySorted_rankByScore score descending items).filter keep)

/-- Both orders of scores are total, with the numbers in front. A ranking by scores is the one list
of the same items in which those whose scores are not numbers come last, as they came; the others
are in the order of their scores, the zeros being one number; and items of equal scores are as they
came. This holds of any scores and in both directions. -/
theorem rankByScore_eq_iff_ranksBy (score : Item → Single) (descending : Bool) (items : List Item) :
    Std.TransCmp compareDescending ∧ Std.TransCmp compareAscending ∧
      (∀ left right, compareScores descending left right ≠ .gt ↔ right.isNaN = true ∨
        left.isNaN = false ∧ right.isNaN = false ∧ MayPrecede descending left right) ∧
      ∀ ranked, rankByScore score descending items = ranked ↔
        RanksBy score descending items ranked := by
  refine ⟨inferInstanceAs (Std.TransCmp (compareScores true)),
    inferInstanceAs (Std.TransCmp (compareScores false)),
    fun _ _ => compareScores_ne_gt_iff, fun ranked => ?_⟩
  constructor
  · rintro rfl
    exact ranksBy_rankByScore score descending items
  · exact (ranksBy_rankByScore score descending items).unique

end RecordQuery.Ranking

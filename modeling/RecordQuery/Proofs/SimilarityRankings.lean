/-
This file compares the two ways of ranking rows by the similarity of a vector.

One sorts the similarities, taken as doubles, in the total order of encodings; the other ranks them
as scores. Numbers are in the same order either way: single-precision numbers are doubles, and no
similarity is the negative zero, on which the two orders differ. What is not a number comes last as
a score, but in the total order it stands beyond the infinity of its sign, so that without a sign
bit it comes first. Vectors without a not-a-number in them never have such a similarity: theirs are
numbers or the answer of an invalid operation, whose sign bit `Binary.invalid` sets.
-/

import RecordQuery.Proofs.Replay
import RecordQuery.Proofs.Scoring
import RecordQuery.Proofs.Similarities

namespace RecordQuery

open Number

namespace Number.Binary

variable {format : BinaryFormat} {left right : Binary format}

/-! ### The total order -/

/-- Numbers are in the total order as they are, but for the negative zero. -/
theorem rank_le_rank_iff (leftNumber : left.isNaN = false) (rightNumber : right.isNaN = false)
    (notNegativeZero : right.negative = true → right.magnitude ≠ 0) :
    left.rank ≤ right.rank ↔ left.exact ≤ right.exact := by
  rw [exact_le_exact_iff leftNumber rightNumber]
  unfold rank ordinal
  cases leftSign : left.negative <;> cases rightSign : right.negative <;>
    simp [rightSign] at notNegativeZero ⊢ <;> omega

/-- What is not a number and has its sign bit set comes before all others. -/
theorem rank_lt_rank_of_negative (notNumber : left.isNaN = true) (negative : left.negative = true)
    (apart : right.isNaN = false ∨ right.negative = false) : left.rank < right.rank := by
  have beyond : format.infinity < left.magnitude := of_decide_eq_true notNumber
  unfold rank
  rw [negative, if_pos rfl]
  cases rightSign : right.negative with
  | true =>
    have within : ¬ format.infinity < right.magnitude :=
      of_decide_eq_false (apart.resolve_right (by simp [rightSign]))
    rw [if_pos rfl]
    omega
  | false =>
    rw [if_neg Bool.false_ne_true]
    omega

/-- What is not a number and has no sign bit comes behind all others. -/
theorem rank_lt_rank_of_positive (notNumber : right.isNaN = true)
    (positive : right.negative = false) (apart : left.isNaN = false ∨ left.negative = true) :
    left.rank < right.rank := by
  have beyond : format.infinity < right.magnitude := of_decide_eq_true notNumber
  unfold rank
  rw [positive, if_neg Bool.false_ne_true]
  cases leftSign : left.negative with
  | true =>
    rw [if_pos rfl]
    omega
  | false =>
    have within : ¬ format.infinity < left.magnitude :=
      of_decide_eq_false (apart.resolve_right (by simp [leftSign]))
    rw [if_neg Bool.false_ne_true]
    omega

theorem magnitude_convert_ne_zero {number : Single} (isNumber : number.isNaN = false)
    (notZero : number.magnitude ≠ 0) : (number.convert : Double).magnitude ≠ 0 := by
  cases infinite : number.isInfinite with
  | true =>
    refine magnitude_ne_zero_of_isInfinite ?_
    unfold convert
    rw [isNumber, infinite]
    exact decide_eq_true rfl
  | false =>
    intro zero
    have units := (units_convert (isFinite_of_isNaN_of_isInfinite isNumber infinite)).1
    rw [units_eq_zero_iff.mpr zero] at units
    exact notZero (units_eq_zero_iff.mp
      ((Nat.mul_eq_zero.mp units.symm).resolve_right (twoTo_pos _).ne'))

/-- As doubles, single-precision numbers are in the total order as they are, but for the negative
zero. -/
theorem rank_convert_le_iff {left right : Single} (leftNumber : left.isNaN = false)
    (rightNumber : right.isNaN = false)
    (notNegativeZero : right.negative = true → right.magnitude ≠ 0) :
    (left.convert : Double).rank ≤ (right.convert : Double).rank ↔ left.exact ≤ right.exact := by
  rw [rank_le_rank_iff, exact_convert leftNumber, exact_convert rightNumber]
  · rw [isNaN_convert, leftNumber]
  · rw [isNaN_convert, rightNumber]
  · rw [negative_convert]
    exact fun negative => magnitude_convert_ne_zero rightNumber (notNegativeZero negative)

end Number.Binary

namespace Path

variable {path : Path} {vector : List Single} {record : Record}

/-! ### Similarities of records -/

/-- The similarity of the vector in a record to a given one. -/
def similarityOn (path : Path) (vector : List Single) (record : Record) : Single :=
  Cosine.similarity (path.read record).valueOrNull.vector? (some vector)

/-- Where the similarity of a record stands in the total order of doubles. -/
def similarityRank (path : Path) (vector : List Single) (record : Record) : Int :=
  ((path.similarityOn vector record).convert : Double).rank

/-- The similarity of a record as a score, with a text score of zero that has no weight. -/
def similarityScore (path : Path) (vector : List Single) (record : Record) : Single :=
  Ranking.hybridScore ⟨0, 1⟩ 0 path vector record

theorem magnitude_similarityOn_ne_zero
    (negative : (path.similarityOn vector record).negative = true) :
    (path.similarityOn vector record).magnitude ≠ 0 :=
  Binary.magnitude_one_sub_ne_zero negative

/-- A similarity that is a number is the score as it is. -/
theorem similarityScore_of_number (isNumber : (path.similarityOn vector record).isNaN = false) :
    path.similarityScore vector record = path.similarityOn vector record := by
  have nothing : (0 : Single) * 0 = Binary.zero := by decide +kernel
  show (0 : Single) * 0 + 1 * path.similarityOn vector record = _
  rw [nothing, Binary.one_mul_of_isNaN isNumber,
    Binary.zero_add_of_isNaN isNumber magnitude_similarityOn_ne_zero]

/-- A similarity that is not a number is not one as a score either. -/
theorem isNaN_similarityScore (path : Path) (vector : List Single) (record : Record) :
    (path.similarityScore vector record).isNaN = (path.similarityOn vector record).isNaN := by
  cases kind : (path.similarityOn vector record).isNaN with
  | false => rw [similarityScore_of_number kind, kind]
  | true => exact Binary.isNaN_add_of_right (Binary.isNaN_mul_of_right kind)

end Path

namespace Ranking

variable {Label : Type} {path : Path} {vector : List Single} {rows : List (Row Label)}

/-! ### Both rankings -/

/-- The rows sorted by similarity, the most similar first. -/
def sortedBySimilarity (path : Path) (vector : List Single) (rows : List (Row Label)) :
    List (Row Label) :=
  SortKey.sort [⟨.similarity path vector, .descending, .primary⟩] Row.record rows

/-- The rows ranked by similarity as a score. -/
def scoredBySimilarity (path : Path) (vector : List Single) (rows : List (Row Label)) :
    List (Row Label) :=
  hybridRank (fun _ => 0) path vector ⟨0, 1⟩ rows

/-- Whether the similarity of a row is a number. -/
def hasNumber (path : Path) (vector : List Single) (row : Row Label) : Bool :=
  !(path.similarityOn vector row.record).isNaN

/-- Rows are sorted by the ranks of their similarities. -/
theorem lexicographicOn_similarity (left right : Row Label) :
    SortKey.lexicographicOn [⟨.similarity path vector, .descending, .primary⟩] Row.record left
        right =
      compare (path.similarityRank vector right.record)
        (path.similarityRank vector left.record) := by
  have swapped : compare (path.similarityRank vector right.record)
      (path.similarityRank vector left.record) =
        (compare (path.similarityRank vector left.record)
          (path.similarityRank vector right.record)).swap := Std.OrientedCmp.eq_swap
  rw [swapped]
  exact Ordering.then_eq

/-- Whichever row comes first has the similarity of the higher rank, or of the same. -/
theorem pairwise_sortedBySimilarity (path : Path) (vector : List Single) (rows : List (Row Label)) :
    (sortedBySimilarity path vector rows).Pairwise fun former latter =>
      path.similarityRank vector latter.record ≤ path.similarityRank vector former.record := by
  refine (SortKey.stablySorted_sort _ Row.record rows).ordered.imp fun {former latter} ordered => ?_
  rw [lexicographicOn_similarity] at ordered
  exact Int.compare_ne_gt.mp ordered

/-- Rows in the order of the ranks of their similarities stay as they are. -/
theorem sortedBySimilarity_of_pairwise (ordered : rows.Pairwise fun former latter =>
      path.similarityRank vector latter.record ≤ path.similarityRank vector former.record) :
    sortedBySimilarity path vector rows = rows := by
  refine SortKey.sort_of_pairwise (ordered.imp fun {former latter} inOrder => ?_)
  rw [lexicographicOn_similarity]
  exact Int.compare_ne_gt.mpr inOrder

/-- Lists are sorted in the same way by tests that agree on their items. -/
theorem mergeSort_congr {Item : Type} {first second : Item → Item → Bool} {items : List Item}
    (same : ∀ left ∈ items, ∀ right ∈ items, first left right = second left right) :
    items.mergeSort first = items.mergeSort second := by
  have mapped := List.map_mergeSort (f := id) same
  rwa [List.map_id, List.map_id] at mapped

/-- To rank by the similarity as a score is to rank by the similarity. -/
theorem scoredBySimilarity_eq (path : Path) (vector : List Single) (rows : List (Row Label)) :
    scoredBySimilarity path vector rows =
      rankByScore (fun row => path.similarityOn vector row.record) true rows := by
  have same : compareBy (fun row : Row Label => path.similarityScore vector row.record) true =
      compareBy (fun row => path.similarityOn vector row.record) true := by
    funext left right
    show compareScores true (path.similarityScore vector left.record)
      (path.similarityScore vector right.record) = compareScores true
        (path.similarityOn vector left.record) (path.similarityOn vector right.record)
    by_cases apart : (path.similarityOn vector left.record).isNaN = true ∨
        (path.similarityOn vector right.record).isNaN = true
    · have apartAsScores := apart
      rw [← Path.isNaN_similarityScore, ← Path.isNaN_similarityScore path] at apartAsScores
      rw [compareScores_of_isNaN apart, compareScores_of_isNaN apartAsScores,
        Path.isNaN_similarityScore, Path.isNaN_similarityScore]
    · obtain ⟨leftNumber, rightNumber⟩ := not_or.mp apart
      rw [Path.similarityScore_of_number (Bool.eq_false_of_not_eq_true leftNumber),
        Path.similarityScore_of_number (Bool.eq_false_of_not_eq_true rightNumber)]
  show rankByScore (fun row : Row Label => path.similarityScore vector row.record) true rows = _
  rw [rankByScore_eq_mergeSort, rankByScore_eq_mergeSort, same]

/-- Similarities that are numbers are in the same order as doubles and as scores. -/
theorem lexicographicOn_ne_gt_iff {left right : Row Label}
    (leftNumber : hasNumber path vector left = true)
    (rightNumber : hasNumber path vector right = true) :
    SortKey.lexicographicOn [⟨.similarity path vector, .descending, .primary⟩] Row.record left
        right ≠ .gt ↔
      compareBy (fun row => path.similarityOn vector row.record) true left right ≠ .gt := by
  have leftKind := (Bool.not_eq_true' _).mp leftNumber
  have rightKind := (Bool.not_eq_true' _).mp rightNumber
  rw [lexicographicOn_similarity, Int.compare_ne_gt, compareBy, compareScores_ne_gt_iff, leftKind,
    rightKind, Path.similarityRank, Path.similarityRank,
    Binary.rank_convert_le_iff rightKind leftKind Path.magnitude_similarityOn_ne_zero]
  simp [MayPrecede]

/-- Both rankings have the rows whose similarities are numbers in the same order. -/
theorem filter_hasNumber_eq (path : Path) (vector : List Single) (rows : List (Row Label)) :
    (sortedBySimilarity path vector rows).filter (hasNumber path vector) =
      (scoredBySimilarity path vector rows).filter (hasNumber path vector) := by
  rw [sortedBySimilarity, ← SortKey.sort_filter, SortKey.sort_eq_mergeSort, scoredBySimilarity_eq,
    ← rankByScore_filter, rankByScore_eq_mergeSort]
  refine mergeSort_congr fun left inLeft right inRight => ?_
  rw [Bool.eq_iff_iff, bne_iff_ne, bne_iff_ne]
  exact lexicographicOn_ne_gt_iff (List.mem_filter.mp inLeft).2 (List.mem_filter.mp inRight).2

theorem ranksBy_scoredBySimilarity (path : Path) (vector : List Single) (rows : List (Row Label)) :
    RanksBy (fun row => path.similarityOn vector row.record) true rows
      (scoredBySimilarity path vector rows) := by
  rw [scoredBySimilarity_eq]
  exact ranksBy_rankByScore _ true rows

/-- As a score, a similarity that is not a number comes last. -/
theorem scoredBySimilarity_eq_append (path : Path) (vector : List Single)
    (rows : List (Row Label)) :
    scoredBySimilarity path vector rows =
      (scoredBySimilarity path vector rows).filter (hasNumber path vector) ++
        rows.filter fun row => !hasNumber path vector row := by
  simp only [hasNumber, Bool.not_not]
  exact (ranksBy_scoredBySimilarity path vector rows).nansLast

/-! ### Similarities that are not numbers -/

/-- Whether the similarity of a row is not a number and has no sign bit. -/
def hasPositiveNaN (path : Path) (vector : List Single) (row : Row Label) : Bool :=
  (path.similarityOn vector row.record).isNaN && !(path.similarityOn vector row.record).negative

/-- Whether the similarity of a row is not a number and has its sign bit set. -/
def hasNegativeNaN (path : Path) (vector : List Single) (row : Row Label) : Bool :=
  (path.similarityOn vector row.record).isNaN && (path.similarityOn vector row.record).negative

/-- A similarity that is not a number has a sign bit or none. -/
theorem hasNegativeNaN_eq (path : Path) (vector : List Single) (row : Row Label) :
    hasNegativeNaN path vector row =
      (!hasNumber path vector row && !hasPositiveNaN path vector row) := by
  unfold hasNegativeNaN hasNumber hasPositiveNaN
  cases (path.similarityOn vector row.record).isNaN <;>
    cases (path.similarityOn vector row.record).negative <;> rfl

theorem hasPositiveNaN_of_hasNumber {row : Row Label}
    (isNumber : hasNumber path vector row = true) : hasPositiveNaN path vector row = false := by
  rw [hasPositiveNaN, (Bool.not_eq_true' _).mp isNumber, Bool.false_and]

/-- Without a sign bit, what is not a number ranks above all else. -/
theorem similarityRank_lt_of_hasPositiveNaN {former latter : Row Label}
    (apart : hasPositiveNaN path vector former = false)
    (positive : hasPositiveNaN path vector latter = true) :
    path.similarityRank vector former.record < path.similarityRank vector latter.record := by
  obtain ⟨notNumber, sign⟩ := Bool.and_eq_true_iff.mp positive
  refine Binary.rank_lt_rank_of_positive ?_ ?_ ?_
  · rw [Binary.isNaN_convert, notNumber]
  · rw [Binary.negative_convert, (Bool.not_eq_true' _).mp sign]
  · rw [Binary.isNaN_convert, Binary.negative_convert]
    simpa [hasPositiveNaN, or_iff_not_imp_left] using apart

/-- With its sign bit set, what is not a number ranks below all else. -/
theorem similarityRank_lt_of_hasNegativeNaN {former latter : Row Label}
    (negative : hasNegativeNaN path vector former = true)
    (apart : hasNegativeNaN path vector latter = false) :
    path.similarityRank vector former.record < path.similarityRank vector latter.record := by
  obtain ⟨notNumber, sign⟩ := Bool.and_eq_true_iff.mp negative
  refine Binary.rank_lt_rank_of_negative ?_ ?_ ?_
  · rw [Binary.isNaN_convert, notNumber]
  · rw [Binary.negative_convert, sign]
  · rw [Binary.isNaN_convert, Binary.negative_convert]
    simpa [hasNegativeNaN, or_iff_not_imp_left] using apart

theorem similarityRank_lt_of_hasNumber {former latter : Row Label}
    (notNumber : hasNumber path vector former = false)
    (notPositive : hasPositiveNaN path vector former = false)
    (isNumber : hasNumber path vector latter = true) :
    path.similarityRank vector former.record < path.similarityRank vector latter.record := by
  refine similarityRank_lt_of_hasNegativeNaN ?_ ?_
  · rw [hasNegativeNaN_eq, notNumber, notPositive]
    rfl
  · rw [hasNegativeNaN_eq, isNumber]
    rfl

/-- In the total order, similarities that are not numbers come before all numbers without a sign bit
and behind them with it. -/
theorem sortedBySimilarity_eq_append (path : Path) (vector : List Single)
    (rows : List (Row Label)) :
    sortedBySimilarity path vector rows =
      (sortedBySimilarity path vector rows).filter (hasPositiveNaN path vector) ++
        (sortedBySimilarity path vector rows).filter (hasNumber path vector) ++
        (sortedBySimilarity path vector rows).filter (hasNegativeNaN path vector) := by
  have ordered := pairwise_sortedBySimilarity path vector rows
  generalize sortedBySimilarity path vector rows = sorted at ordered ⊢
  have leading := @eq_filter_append_filter _ sorted (hasPositiveNaN path vector) <| by
    refine ordered.imp fun {former latter} inOrder positive => ?_
    by_contra apart
    have before := similarityRank_lt_of_hasPositiveNaN (Bool.eq_false_of_not_eq_true apart) positive
    exact absurd inOrder before.not_ge
  have rest := @eq_filter_append_filter _ (sorted.filter fun row => !hasPositiveNaN path vector row)
    (hasNumber path vector) <| by
      refine List.pairwise_filter.mpr (ordered.imp fun {former latter} inOrder => ?_)
      intro kept _ isNumber
      by_contra notNumber
      have before := similarityRank_lt_of_hasNumber (Bool.eq_false_of_not_eq_true notNumber)
        ((Bool.not_eq_true' _).mp kept) isNumber
      exact absurd inOrder before.not_ge
  have numbers : ((sorted.filter fun row => !hasPositiveNaN path vector row).filter
      (hasNumber path vector)) = sorted.filter (hasNumber path vector) := by
    rw [List.filter_filter]
    refine List.filter_congr fun row _ => ?_
    cases kind : hasNumber path vector row with
    | true => rw [hasPositiveNaN_of_hasNumber kind]; rfl
    | false => rfl
  have trailing : ((sorted.filter fun row => !hasPositiveNaN path vector row).filter
      fun row => !hasNumber path vector row) = sorted.filter (hasNegativeNaN path vector) := by
    rw [List.filter_filter]
    exact List.filter_congr fun row _ => (hasNegativeNaN_eq path vector row).symm
  rw [numbers, trailing] at rest
  rw [List.append_assoc, ← rest]
  exact leading

/-- Both rankings are the same just if the similarities that are not numbers are in the total order
as they come, and those of them without a sign bit find no number to come before. -/
theorem sortedBySimilarity_eq_scoredBySimilarity_iff :
    sortedBySimilarity path vector rows = scoredBySimilarity path vector rows ↔
      ((rows.filter fun row => !hasNumber path vector row).Pairwise fun former latter =>
          path.similarityRank vector latter.record ≤ path.similarityRank vector former.record) ∧
        ((∀ row ∈ rows, hasPositiveNaN path vector row = false) ∨
          ∀ row ∈ rows, hasNumber path vector row = false) := by
  have ordered := pairwise_sortedBySimilarity path vector rows
  constructor
  · intro same
    rw [same, scoredBySimilarity_eq_append] at ordered
    obtain ⟨_, others, across⟩ := List.pairwise_append.mp ordered
    refine ⟨others, ?_⟩
    by_contra mixed
    simp only [not_or, not_forall, exists_prop, Bool.not_eq_false] at mixed
    obtain ⟨⟨other, inRows, positive⟩, row, member, isNumber⟩ := mixed
    have before :=
      similarityRank_lt_of_hasPositiveNaN (hasPositiveNaN_of_hasNumber isNumber) positive
    have notNumber : (!hasNumber path vector other) = true := by
      rw [Bool.not_eq_true', Bool.eq_false_iff]
      intro otherNumber
      rw [hasPositiveNaN_of_hasNumber otherNumber] at positive
      contradiction
    have inScored : row ∈ scoredBySimilarity path vector rows :=
      (ranksBy_scoredBySimilarity path vector rows).perm.mem_iff.mpr member
    have after := across row (List.mem_filter.mpr ⟨inScored, isNumber⟩) other
      (List.mem_filter.mpr ⟨inRows, notNumber⟩)
    exact absurd after before.not_ge
  · rintro ⟨others, apart⟩
    have perm : (sortedBySimilarity path vector rows).Perm rows :=
      (SortKey.stablySorted_sort _ Row.record rows).perm
    have parts := @eq_filter_append_filter _ (sortedBySimilarity path vector rows)
      (hasNumber path vector) <| by
        refine ordered.imp_of_mem fun {former latter} inFormer inLatter inOrder isNumber => ?_
        by_contra notNumber
        rcases apart with nonePositive | noneNumber
        · have before := similarityRank_lt_of_hasNumber (Bool.eq_false_of_not_eq_true notNumber)
            (nonePositive former (perm.mem_iff.mp inFormer)) isNumber
          exact absurd inOrder before.not_ge
        · rw [noneNumber latter (perm.mem_iff.mp inLatter)] at isNumber
          contradiction
    have stay : ((sortedBySimilarity path vector rows).filter fun row =>
        !hasNumber path vector row) = rows.filter fun row => !hasNumber path vector row := by
      rw [sortedBySimilarity, ← SortKey.sort_filter]
      exact sortedBySimilarity_of_pairwise others
    rw [stay, filter_hasNumber_eq] at parts
    exact parts.trans (scoredBySimilarity_eq_append path vector rows).symm

/-- Vectors without a not-a-number in them are ranked in the same way. This rests on the sign bit of
`Binary.invalid`, the only similarity of theirs that is not a number. -/
theorem sortedBySimilarity_eq_of_numbers
    (stored : ∀ row ∈ rows, ∀ components, (path.read row.record).valueOrNull.vector? =
      some components → ∀ component ∈ components, component.isNaN = false)
    (query : ∀ component ∈ vector, component.isNaN = false) :
    sortedBySimilarity path vector rows = scoredBySimilarity path vector rows := by
  have untainted : ∀ row ∈ rows, hasNumber path vector row = false →
      path.similarityOn vector row.record = Binary.invalid := by
    intro row member notNumber
    rw [hasNumber, Bool.not_eq_false'] at notNumber
    exact Cosine.untainted_similarity (stored row member) query notNumber
  refine sortedBySimilarity_eq_scoredBySimilarity_iff.mpr ⟨?_, .inl fun row member => ?_⟩
  · refine List.pairwise_of_forall_mem_list fun former inFormer latter inLatter => ?_
    obtain ⟨formerIn, formerKind⟩ := List.mem_filter.mp inFormer
    obtain ⟨latterIn, latterKind⟩ := List.mem_filter.mp inLatter
    rw [Path.similarityRank, Path.similarityRank,
      untainted former formerIn ((Bool.not_eq_true' _).mp formerKind),
      untainted latter latterIn ((Bool.not_eq_true' _).mp latterKind)]
  · cases kind : hasNumber path vector row with
    | true => exact hasPositiveNaN_of_hasNumber kind
    | false =>
      rw [hasPositiveNaN, untainted row member kind]
      rfl

end Ranking

namespace Query

variable {Label : Type} {query : Query Label} {text : String} {path : Path}
  {rows : List (Row Label)}

/-! ### Queries -/

theorem exists_orderBySimilarity (resolved : query.vectorPath text = .ok path)
    (ran : query.materialize = .ok rows) (vector : List Single) :
    ∃ ordered, query.orderBySimilarity text vector .descending = .ok ordered ∧
      ordered.materialize = .ok (Ranking.sortedBySimilarity path vector rows) := by
  refine ⟨query.orderedBy ⟨.similarity path vector, .descending, .primary⟩, ?_, ?_⟩
  · rw [vectorPath] at resolved
    rw [orderBySimilarity, SortKey.bySimilarity, resolved]
    rfl
  · show (query.source.push _).materialize = _
    rw [Source.materialize_push_order]
    show query.materialize.map _ = _
    rw [ran]
    rfl

theorem hybridRanking_eq (resolved : query.vectorPath text = .ok path)
    (ran : query.materialize = .ok rows) (vector : List Single) :
    query.hybridRanking (fun _ => 0) text vector ⟨0, 1⟩ =
      .ok (Ranking.scoredBySimilarity path vector rows) := by
  rw [hybridRanking, resolved, ran]
  rfl

/-- Rows are ranked by the similarity of a vector in two ways: as an ordering, the most similar
first, and as a score that is all of the weight. Both succeed where the query does, if the path is
one to a vector. The second ranks them by their similarities, the highest first and what is not a
number last. The first has those that are numbers in the same order, but the others without a sign
bit before these and only those with one behind them. So both agree just if the similarities that
are not numbers come in the total order already, and those without a sign bit have no number to come
before. This is always so where no vector has a not-a-number in it, whether vectors are missing,
differ in length, are zero or infinite. That last part rests on the sign bit of `Binary.invalid`, a
similarity that infinite vectors may have: were it clear, such vectors would come first in the first
ranking. -/
theorem similarity_rankings_agree_on_numbers (resolved : query.vectorPath text = .ok path)
    (ran : query.materialize = .ok rows) (vector : List Single) :
    ∃ ordered sorted scored,
      query.orderBySimilarity text vector .descending = .ok ordered ∧
      ordered.materialize = .ok sorted ∧
      query.hybridRanking (fun _ => 0) text vector ⟨0, 1⟩ = .ok scored ∧
      Ranking.RanksBy (fun row => path.similarityOn vector row.record) true rows scored ∧
      sorted.Perm rows ∧
      sorted.filter (Ranking.hasNumber path vector) =
        scored.filter (Ranking.hasNumber path vector) ∧
      sorted = sorted.filter (Ranking.hasPositiveNaN path vector) ++
        sorted.filter (Ranking.hasNumber path vector) ++
        sorted.filter (Ranking.hasNegativeNaN path vector) ∧
      (sorted = scored ↔
        ((rows.filter fun row => !Ranking.hasNumber path vector row).Pairwise
          fun former latter =>
            path.similarityRank vector latter.record ≤ path.similarityRank vector former.record) ∧
        ((∀ row ∈ rows, Ranking.hasPositiveNaN path vector row = false) ∨
          ∀ row ∈ rows, Ranking.hasNumber path vector row = false)) ∧
      ((∀ row ∈ rows, ∀ components, (path.read row.record).valueOrNull.vector? = some components →
          ∀ component ∈ components, component.isNaN = false) →
        (∀ component ∈ vector, component.isNaN = false) → sorted = scored) := by
  obtain ⟨ordered, ordering, materialized⟩ := exists_orderBySimilarity resolved ran vector
  exact ⟨ordered, _, _, ordering, materialized, hybridRanking_eq resolved ran vector,
    Ranking.ranksBy_scoredBySimilarity path vector rows,
    (SortKey.stablySorted_sort _ Row.record rows).perm,
    Ranking.filter_hasNumber_eq path vector rows,
    Ranking.sortedBySimilarity_eq_append path vector rows,
    Ranking.sortedBySimilarity_eq_scoredBySimilarity_iff,
    Ranking.sortedBySimilarity_eq_of_numbers⟩

end Query

/-- Points with a vector that may be missing. -/
def Sample.positions : Schema :=
  ⟨[⟨"Point", [⟨"V", true, .scalar .vector⟩]⟩]⟩

/-- A point with a vector. -/
def Sample.pointAt (label : String) (components : List Single) : Row String :=
  ⟨label, [.value (.vector components)]⟩

/-- A point without a vector. -/
def Sample.nowhere : Row String :=
  ⟨"nowhere", [.value .null]⟩

/-- An infinite vector, none, zero and one. -/
def Sample.scattered : List (Row String) :=
  [pointAt "infinite" [Binary.infinity], nowhere, pointAt "zero" [0], pointAt "one" [1]]

/-- The most similar point comes first, the one without a vector after all others that have a
similarity, and last the infinite one, whose similarity is `Binary.invalid` with its sign bit
set. -/
theorem Query.similarity_rankings_agree_on_numbers_of_scattered :
    let query := ofDataset ⟨Sample.positions, Sample.scattered⟩
    ∃ ordered, query.orderBySimilarity "V" [1] .descending = .ok ordered ∧
      ordered.materialize = .ok Sample.scattered.reverse ∧
      query.hybridRanking (fun _ => 0) "V" [1] ⟨0, 1⟩ = .ok Sample.scattered.reverse := by
  intro query
  have resolved : query.vectorPath "V" = .ok _ := rfl
  have ran : query.materialize = .ok Sample.scattered := rfl
  obtain ⟨ordered, sorted, scored, ordering, materialized, ranking, ranks, _, _, _, _, agree⟩ :=
    similarity_rankings_agree_on_numbers resolved ran [1]
  have order : scored = Sample.scattered.reverse := by
    refine (Ranking.stablySorted_of_ranksBy ranks).unique (stablySorted_of_pairwise_lt ?_ ?_)
    · exact List.reverse_perm _
    · decide +kernel
  have same := agree ?_ (by decide)
  · rw [same, order] at materialized
    rw [order] at ranking
    exact ⟨ordered, ordering, materialized, ranking⟩
  · have number {component : Single} (isNumber : component.isNaN = false) :
        ∀ components, some [component] = some components →
          ∀ other ∈ components, other.isNaN = false := by
      intro components found
      rw [← Option.some.inj found]
      exact List.forall_mem_singleton.mpr isNumber
    refine List.forall_mem_cons.mpr ⟨number (by decide), List.forall_mem_cons.mpr ⟨?_,
      List.forall_mem_cons.mpr ⟨number (by decide), List.forall_mem_singleton.mpr
        (number (by decide))⟩⟩⟩
    intro components missing
    exact absurd missing.symm (Option.some_ne_none components)

/-- A point with a not-a-number whose sign bit is not set. -/
def Sample.broken : Row String :=
  pointAt "broken" [Binary.invalid.neg]

/-- The two rankings do not agree on all vectors: where one component is a not-a-number without a
sign bit, the point comes before the most similar one in one ranking, and last in the other. -/
theorem Query.not_similarity_rankings_agree :
    ¬ ∀ (rows : List (Row String)) (vector : List Single) (ordered : Query String),
      (ofDataset ⟨Sample.positions, rows⟩).orderBySimilarity "V" vector .descending = .ok ordered →
        ordered.materialize =
          (ofDataset ⟨Sample.positions, rows⟩).hybridRanking (fun _ => 0) "V" vector ⟨0, 1⟩ := by
  intro agree
  have resolved : (ofDataset ⟨Sample.positions,
      [Sample.pointAt "one" [1], Sample.broken]⟩).vectorPath "V" = .ok _ := rfl
  obtain ⟨ordered, ordering, materialized⟩ := exists_orderBySimilarity resolved rfl [1]
  have same := agree _ [1] ordered ordering
  rw [materialized, hybridRanking_eq resolved rfl, Except.ok.injEq,
    Ranking.sortedBySimilarity_eq_scoredBySimilarity_iff] at same
  rcases same.2 with nonePositive | noneNumber
  · have broken := nonePositive Sample.broken (.tail _ (.head _))
    revert broken
    decide +kernel
  · have one := noneNumber (Sample.pointAt "one" [1]) (.head _)
    revert one
    decide +kernel

end RecordQuery

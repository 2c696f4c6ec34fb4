/-
This file says when a ranking by text and vector together puts rows without a usable vector last.

A row whose vector is missing, or has another length than the query, gets the similarity of the
greatest distance. What it adds to the score is far below zero, but it is multiplied by the weight
of vectors and stands beside the text score. So rows without a vector come last just if the best
score that they can have is below the worst score of a row with one: a full text score with the
least similarity against no text score and the opposite direction. Every weight above two to the
power of minus 128 does it. Weights at or below that are too small, if the text has the full weight.
-/

import RecordQuery.Proofs.FiniteVectors
import RecordQuery.Proofs.SimilarityRankings
import RecordQuery.Settings.Basic

namespace RecordQuery

open Number

/-! ### Shares -/

namespace Number.Binary

variable {share number : Single}

/-- Whether a number lies between zero and one. -/
def IsShare (number : Single) : Prop :=
  number.isNaN = false ∧ ((0 : ℚ) : WithBotTop ℚ) ≤ number.exact ∧
    number.exact ≤ ((1 : ℚ) : WithBotTop ℚ)

theorem isFinite_zero : (0 : Single).isFinite = true := by
  decide

theorem isFinite_one : (1 : Single).isFinite = true := by
  decide

theorem isFinite_opposite : (-1 : Single).isFinite = true := by
  decide

theorem ordinal_zero : (0 : Single).ordinal = 0 := by
  decide

theorem isFinite_of_share_bounds (above : 0 ≤ number.ordinal)
    (below : number.ordinal ≤ (1 : Single).ordinal) : number.isFinite = true :=
  isFinite_of_between isFinite_zero isFinite_one (ordinal_zero.trans_le above) below

theorem isShare_iff :
    number.IsShare ↔ 0 ≤ number.ordinal ∧ number.ordinal ≤ (1 : Single).ordinal := by
  have zeroNumber := isNaN_of_isFinite isFinite_zero
  have oneNumber := isNaN_of_isFinite isFinite_one
  have zero : (0 : Single).exact = ((0 : ℚ) : WithBotTop ℚ) := by
    have exact := (@exact_eq_intCast_iff _ _ zeroNumber 0).mpr (by decide)
    rwa [Int.cast_zero] at exact
  have one : (1 : Single).exact = ((1 : ℚ) : WithBotTop ℚ) := by
    have exact := (@exact_eq_intCast_iff _ _ oneNumber 1).mpr (by decide)
    rwa [Int.cast_one] at exact
  unfold IsShare
  rw [← zero, ← one]
  constructor
  · rintro ⟨isNumber, above, below⟩
    rw [exact_le_exact_iff zeroNumber isNumber, ordinal_zero] at above
    exact ⟨above, (exact_le_exact_iff isNumber oneNumber).mp below⟩
  · rintro ⟨above, below⟩
    have isNumber := isNaN_of_isFinite (isFinite_of_share_bounds above below)
    refine ⟨isNumber, (exact_le_exact_iff zeroNumber isNumber).mpr ?_,
      (exact_le_exact_iff isNumber oneNumber).mpr below⟩
    rwa [ordinal_zero]

theorem IsShare.isFinite (isShare : share.IsShare) : share.isFinite = true :=
  isFinite_of_share_bounds (isShare_iff.mp isShare).1 (isShare_iff.mp isShare).2

theorem IsShare.signedUnits_bounds (isShare : share.IsShare) :
    0 ≤ share.signedUnits ∧ share.signedUnits ≤ (1 : Single).signedUnits := by
  have zero : (0 : Single).signedUnits = 0 := by decide
  obtain ⟨above, below⟩ := isShare_iff.mp isShare
  rw [← ordinal_zero] at above
  exact ⟨zero.symm.trans_le (signedUnits_le_signedUnits_iff.mpr above),
    signedUnits_le_signedUnits_iff.mpr below⟩

/-- A share of a finite number is finite. -/
theorem IsShare.isFinite_mul (isShare : share.IsShare) (finite : number.isFinite = true) :
    (share * number).isFinite = true := by
  have one : (1 : Single).signedUnits = BinaryFormat.single.unitsInOne := by decide
  have bounded : share.units * number.units ≤ number.units * BinaryFormat.single.unitsInOne := by
    rw [Nat.mul_comm]
    refine Nat.mul_le_mul_left _ ?_
    obtain ⟨above, below⟩ := isShare.signedUnits_bounds
    have size := natAbs_signedUnits share
    omega
  have whole : BinaryFormat.single.units (magnitudeOfQuotient .single
      (number.units * BinaryFormat.single.unitsInOne) BinaryFormat.single.unitsInOne) =
        number.units := by
    have rescaled := magnitudeOfQuotient_mul_mul .single number.units 1
      BinaryFormat.single.unitsInOne_pos
    rw [Nat.one_mul] at rescaled
    rw [rescaled, units, magnitudeOfQuotient_units]
  rw [mul_of_isFinite isShare.isFinite finite]
  refine isFinite_iff_units_lt.mpr (((units_ofQuotient_le ..).trans
    ((BinaryFormat.units_strictMono _).monotone (magnitudeOfQuotient_mono
      BinaryFormat.single.unitsInOne_pos bounded))).trans_lt ?_)
  rw [whole]
  exact isFinite_iff_units_lt.mp finite

end Number.Binary

/-! ### Weights -/

namespace Settings

/-- A weight is accepted if it is a number between zero and one. -/
theorem checkWeight_eq_ok_iff {label : String} {weight : Single} :
    checkWeight label weight = .ok () ↔ weight.IsShare := by
  unfold checkWeight
  cases finite : weight.isFinite with
  | false =>
    have notShare : ¬ weight.IsShare := fun isShare => by
      rw [isShare.isFinite] at finite
      contradiction
    simp [notShare]
  | true =>
    rw [Binary.isShare_iff]
    unfold Binary.compare?
    simp [Binary.isNaN_of_isFinite finite, Binary.isNaN_of_isFinite Binary.isFinite_zero,
      Binary.isNaN_of_isFinite Binary.isFinite_one, Binary.ordinal_zero, Int.compare_eq_lt,
      Int.compare_eq_gt]

/-- The weights of settings that are accepted are numbers between zero and one. -/
theorem isShare_of_validate {settings : Settings} (valid : settings.validate = .ok ()) :
    settings.weights.text.IsShare ∧ settings.weights.vector.IsShare := by
  unfold validate at valid
  dsimp only at valid
  split at valid
  · contradiction
  · obtain ⟨_, text, checked⟩ := bind_eq_ok_iff.mp valid
    obtain ⟨_, vector, _⟩ := bind_eq_ok_iff.mp checked
    exact ⟨checkWeight_eq_ok_iff.mp text, checkWeight_eq_ok_iff.mp vector⟩

end Settings

/-- The similarity of a vector that cannot be compared. -/
def Cosine.leastSimilarity : Single :=
  1 - greatestDistance

theorem Cosine.isFinite_leastSimilarity : leastSimilarity.isFinite = true := by
  decide

open Number.Binary (isFinite_zero isFinite_one isFinite_opposite ordinal_zero)
open Cosine (isFinite_leastSimilarity)

namespace Weights

/-- The score that a text score and a similarity come to. -/
def blend (weights : Weights) (textScore similarity : Single) : Single :=
  weights.text * textScore + weights.vector * similarity

/-- Whether both weights lie between zero and one. -/
structure AreShares (weights : Weights) : Prop where
  text : weights.text.IsShare
  vector : weights.vector.IsShare

/-- Whether the best score without a vector is below the worst score with one. -/
def SinkMissing (weights : Weights) : Prop :=
  (weights.blend 1 Cosine.leastSimilarity).exact < (weights.blend 0 (-1)).exact

variable {weights otherWeights : Weights} {textScore similarity otherTextScore otherSimilarity :
  Single}

theorem AreShares.isNaN_blend (shares : weights.AreShares) (textFinite : textScore.isFinite = true)
    (vectorFinite : similarity.isFinite = true) :
    (weights.blend textScore similarity).isNaN = false := by
  rw [blend, Binary.add_of_isFinite (shares.text.isFinite_mul textFinite)
    (shares.vector.isFinite_mul vectorFinite)]
  split
  · exact Binary.isNaN_zero .single _
  · exact Binary.isNaN_ofQuotient .single _ _ _

/-- The more text and vector each add to it, the higher the score. -/
theorem AreShares.ordinal_blend_mono (shares : weights.AreShares)
    (otherShares : otherWeights.AreShares) (textFinite : textScore.isFinite = true)
    (vectorFinite : similarity.isFinite = true) (otherTextFinite : otherTextScore.isFinite = true)
    (otherVectorFinite : otherSimilarity.isFinite = true)
    (text : weights.text.signedUnits * textScore.signedUnits ≤
      otherWeights.text.signedUnits * otherTextScore.signedUnits)
    (vector : weights.vector.signedUnits * similarity.signedUnits ≤
      otherWeights.vector.signedUnits * otherSimilarity.signedUnits) :
    (weights.blend textScore similarity).ordinal ≤
      (otherWeights.blend otherTextScore otherSimilarity).ordinal :=
  Binary.ordinal_add_mono (shares.text.isFinite_mul textFinite)
    (shares.vector.isFinite_mul vectorFinite) (otherShares.text.isFinite_mul otherTextFinite)
    (otherShares.vector.isFinite_mul otherVectorFinite)
    (Binary.ordinal_mul_mono shares.text.isFinite textFinite otherShares.text.isFinite
      otherTextFinite text)
    (Binary.ordinal_mul_mono shares.vector.isFinite vectorFinite otherShares.vector.isFinite
      otherVectorFinite vector)

/-- With the same weights, a score grows with the text score and the similarity. -/
theorem AreShares.ordinal_blend_le (shares : weights.AreShares)
    (textFinite : textScore.isFinite = true) (vectorFinite : similarity.isFinite = true)
    (otherTextFinite : otherTextScore.isFinite = true)
    (otherVectorFinite : otherSimilarity.isFinite = true)
    (text : textScore.ordinal ≤ otherTextScore.ordinal)
    (vector : similarity.ordinal ≤ otherSimilarity.ordinal) :
    (weights.blend textScore similarity).ordinal ≤
      (weights.blend otherTextScore otherSimilarity).ordinal :=
  shares.ordinal_blend_mono shares textFinite vectorFinite otherTextFinite otherVectorFinite
    (Int.mul_le_mul_of_nonneg_left (Binary.signedUnits_le_signedUnits_iff.mpr text)
      shares.text.signedUnits_bounds.1)
    (Int.mul_le_mul_of_nonneg_left (Binary.signedUnits_le_signedUnits_iff.mpr vector)
      shares.vector.signedUnits_bounds.1)

theorem AreShares.sinkMissing_iff (shares : weights.AreShares) :
    weights.SinkMissing ↔
      (weights.blend 1 Cosine.leastSimilarity).ordinal < (weights.blend 0 (-1)).ordinal := by
  rw [SinkMissing, lt_iff_not_ge, lt_iff_not_ge, Binary.exact_le_exact_iff
    (shares.isNaN_blend isFinite_zero isFinite_opposite)
    (shares.isNaN_blend isFinite_one isFinite_leastSimilarity)]

/-! ### How much weight is enough -/

/-- The greatest weight that is too small beside a full text weight. -/
def faintest : Single :=
  ⟨false, 2097152, by decide⟩

/-- The next weight above it. -/
def aboveFaintest : Single :=
  ⟨false, 2097153, by decide⟩

/-- Two to the power of minus 23, a weight in the middle of those that are enough. -/
def middling : Single :=
  ⟨false, 872415232, by decide⟩

theorem exact_faintest : faintest.exact = ((1 / twoTo 128 : ℚ) : WithBotTop ℚ) := by
  have parts : faintest.isInfinite = false ∧ faintest.signedUnits = 2097152 ∧
      BinaryFormat.single.unitsInOne = 2097152 * twoTo 128 := by
    decide
  obtain ⟨finite, units, one⟩ := parts
  rw [Binary.exact, finite, if_neg Bool.false_ne_true, units, one]
  push_cast
  rw [div_mul_cancel_left₀ (by norm_num), one_div]

theorem isShare_ends : (0 : Single).IsShare ∧ (1 : Single).IsShare :=
  ⟨Binary.isShare_iff.mpr (by decide), Binary.isShare_iff.mpr (by decide +kernel)⟩

/-- The best score without a vector grows with the weight of the text and falls with that of
vectors. -/
theorem AreShares.ordinal_without_le (shares : weights.AreShares)
    (otherShares : otherWeights.AreShares)
    (text : weights.text.ordinal ≤ otherWeights.text.ordinal)
    (vector : otherWeights.vector.ordinal ≤ weights.vector.ordinal) :
    (weights.blend 1 Cosine.leastSimilarity).ordinal ≤
      (otherWeights.blend 1 Cosine.leastSimilarity).ordinal := by
  have signs : 0 ≤ (1 : Single).signedUnits ∧ Cosine.leastSimilarity.signedUnits ≤ 0 := by
    decide
  exact shares.ordinal_blend_mono otherShares isFinite_one isFinite_leastSimilarity isFinite_one
    isFinite_leastSimilarity
    (Int.mul_le_mul_of_nonneg_right (Binary.signedUnits_le_signedUnits_iff.mpr text) signs.1)
    (Int.mul_le_mul_of_nonpos_right (Binary.signedUnits_le_signedUnits_iff.mpr vector) signs.2)

/-- The worst score with a vector falls with the weight of vectors, whatever that of the text. -/
theorem AreShares.ordinal_opposite_le (shares : weights.AreShares)
    (otherShares : otherWeights.AreShares)
    (vector : otherWeights.vector.ordinal ≤ weights.vector.ordinal) :
    (weights.blend 0 (-1)).ordinal ≤ (otherWeights.blend 0 (-1)).ordinal := by
  have signs : (0 : Single).signedUnits = 0 ∧ (-1 : Single).signedUnits ≤ 0 := by decide
  refine shares.ordinal_blend_mono otherShares isFinite_zero isFinite_opposite isFinite_zero
    isFinite_opposite ?_
    (Int.mul_le_mul_of_nonpos_right (Binary.signedUnits_le_signedUnits_iff.mpr vector) signs.2)
  rw [signs.1, Int.mul_zero, Int.mul_zero]

/-- For a range of weights it is enough to look at its ends: the least of them has to push the best
score without a vector down far enough, and the greatest one to leave the worst score with a vector
above it. -/
theorem AreShares.sinkMissing_of_range (shares : weights.AreShares) {least greatest : Single}
    (leastShare : least.IsShare) (greatestShare : greatest.IsShare)
    (above : least.ordinal ≤ weights.vector.ordinal)
    (below : weights.vector.ordinal ≤ greatest.ordinal)
    (apart : (blend ⟨1, least⟩ 1 Cosine.leastSimilarity).ordinal <
      (blend ⟨0, greatest⟩ 0 (-1)).ordinal) : weights.SinkMissing := by
  obtain ⟨zeroShare, oneShare⟩ := isShare_ends
  have without := @AreShares.ordinal_without_le _ ⟨1, least⟩ shares ⟨oneShare, leastShare⟩
    (Binary.isShare_iff.mp shares.text).2 above
  have within := @AreShares.ordinal_opposite_le ⟨0, greatest⟩ _ ⟨zeroShare, greatestShare⟩ shares
    below
  exact shares.sinkMissing_iff.mpr (without.trans_lt (apart.trans_le within))

theorem AreShares.faintest_lt_iff (shares : weights.AreShares) :
    ((1 / twoTo 128 : ℚ) : WithBotTop ℚ) < weights.vector.exact ↔
      faintest.ordinal < weights.vector.ordinal := by
  have isNumber : faintest.isNaN = false := by decide
  rw [← exact_faintest, lt_iff_not_ge, lt_iff_not_ge,
    Binary.exact_le_exact_iff shares.vector.1 isNumber]

/-- Every vector weight above two to the power of minus 128 is enough. -/
theorem AreShares.sinkMissing_of_lt (shares : weights.AreShares)
    (enough : ((1 / twoTo 128 : ℚ) : WithBotTop ℚ) < weights.vector.exact) :
    weights.SinkMissing := by
  -- Both ends of one range would be too far apart: beside the least weight, the scores without a
  -- vector are not yet below minus one.
  have leastShare : aboveFaintest.IsShare := Binary.isShare_iff.mpr (by decide)
  have middleShare : middling.IsShare := Binary.isShare_iff.mpr (by decide)
  have leastLe : aboveFaintest.ordinal ≤ weights.vector.ordinal := shares.faintest_lt_iff.mp enough
  rcases Int.le_total weights.vector.ordinal middling.ordinal with below | above
  · exact shares.sinkMissing_of_range leastShare middleShare leastLe below (by decide)
  · exact shares.sinkMissing_of_range middleShare isShare_ends.2 above
      (Binary.isShare_iff.mp shares.vector).2 (by decide)

/-- Beside a full text weight, no other vector weight is. -/
theorem AreShares.lt_of_sinkMissing (shares : weights.AreShares) (full : weights.text = 1)
    (sink : weights.SinkMissing) :
    ((1 / twoTo 128 : ℚ) : WithBotTop ℚ) < weights.vector.exact := by
  obtain ⟨zeroShare, oneShare⟩ := isShare_ends
  have faintestShare : faintest.IsShare := Binary.isShare_iff.mpr (by decide)
  rw [shares.faintest_lt_iff]
  by_contra small
  have without := @AreShares.ordinal_without_le ⟨1, faintest⟩ weights ⟨oneShare, faintestShare⟩
    shares (congrArg Binary.ordinal full).ge (Int.not_lt.mp small)
  have within := @AreShares.ordinal_opposite_le weights ⟨1, 0⟩ shares ⟨oneShare, zeroShare⟩
    (ordinal_zero.trans_le (Binary.isShare_iff.mp shares.vector).1)
  have apart : (blend ⟨1, 0⟩ 0 (-1)).ordinal ≤
      (blend ⟨1, faintest⟩ 1 Cosine.leastSimilarity).ordinal := by
    decide
  exact absurd (shares.sinkMissing_iff.mp sink)
    (Int.not_lt.mpr (within.trans (apart.trans without)))

end Weights

namespace Ranking

variable {Label : Type} {path : Path} {query : List Single} {weights : Weights}
  {textScore : Row Label → Single} {row : Row Label}

/-! ### Rankings with missing vectors -/

/-- Whether the vector of a row is missing or has another length than the query. -/
def LacksVector (path : Path) (query : List Single) (row : Row Label) : Prop :=
  ¬ Cosine.Comparable (path.read row.record).valueOrNull.vector? (some query)

/-- Whether a row has a vector of finite components and the length of the query. -/
def HasVector (path : Path) (query : List Single) (row : Row Label) : Prop :=
  ∃ components, (path.read row.record).valueOrNull.vector? = some components ∧
    components.length = query.length ∧ ∀ component ∈ components, component.isFinite = true

/-- Whether weights rank no row without a vector before one with a vector, whatever the rows, their
text scores, and the query. -/
def MissingLast (weights : Weights) : Prop :=
  ∀ (Label : Type) (textScore : Row Label → Single) (path : Path) (query : List Single)
    (rows : List (Row Label)), (∀ row ∈ rows, (textScore row).IsShare) →
    (∀ component ∈ query, component.isFinite = true) →
    (hybridRank textScore path query weights rows).Pairwise fun former latter =>
      LacksVector path query former → ¬ HasVector path query latter

theorem hybridScore_eq_blend (weights : Weights) (textScore : Single) (path : Path)
    (query : List Single) (record : Record) :
    hybridScore weights textScore path query record =
      weights.blend textScore (path.similarityOn query record) :=
  rfl

/-- Every row without a vector has the least similarity. -/
theorem LacksVector.similarityOn_eq (lacks : LacksVector path query row) :
    path.similarityOn query row.record = Cosine.leastSimilarity :=
  congrArg (1 - ·) (Cosine.distance_eq_greatestDistance_iff.mpr lacks)

theorem LacksVector.isNaN_hybridScore (lacks : LacksVector path query row)
    (shares : weights.AreShares) (scored : (textScore row).IsShare) :
    (hybridScore weights (textScore row) path query row.record).isNaN = false := by
  rw [hybridScore_eq_blend, lacks.similarityOn_eq]
  exact shares.isNaN_blend scored.isFinite isFinite_leastSimilarity

/-- The score of a row without a vector is at most the one that goes with a full text score. -/
theorem LacksVector.ordinal_hybridScore_le (lacks : LacksVector path query row)
    (shares : weights.AreShares) (scored : (textScore row).IsShare) :
    (hybridScore weights (textScore row) path query row.record).ordinal ≤
      (weights.blend 1 Cosine.leastSimilarity).ordinal := by
  rw [hybridScore_eq_blend, lacks.similarityOn_eq]
  exact shares.ordinal_blend_le scored.isFinite isFinite_leastSimilarity isFinite_one
    isFinite_leastSimilarity (Binary.isShare_iff.mp scored).2 le_rfl

theorem HasVector.similarityOn_bounds (has : HasVector path query row)
    (finite : ∀ component ∈ query, component.isFinite = true) :
    (-1 : Single).ordinal ≤ (path.similarityOn query row.record).ordinal ∧
      (path.similarityOn query row.record).ordinal ≤ (1 : Single).ordinal := by
  obtain ⟨components, found, same, componentsFinite⟩ := has
  rw [Path.similarityOn, found]
  exact Cosine.similarity_bounds same componentsFinite finite

theorem HasVector.isFinite_similarityOn (has : HasVector path query row)
    (finite : ∀ component ∈ query, component.isFinite = true) :
    (path.similarityOn query row.record).isFinite = true := by
  obtain ⟨above, below⟩ := has.similarityOn_bounds finite
  exact Binary.isFinite_of_between isFinite_opposite isFinite_one above below

/-- The score of a row with a vector is at least the one of an opposite vector without a text
score. -/
theorem HasVector.le_ordinal_hybridScore (has : HasVector path query row)
    (finite : ∀ component ∈ query, component.isFinite = true) (shares : weights.AreShares)
    (scored : (textScore row).IsShare) :
    (weights.blend 0 (-1)).ordinal ≤
      (hybridScore weights (textScore row) path query row.record).ordinal := by
  rw [hybridScore_eq_blend]
  exact shares.ordinal_blend_le isFinite_zero isFinite_opposite scored.isFinite
    (has.isFinite_similarityOn finite)
    (ordinal_zero.trans_le (Binary.isShare_iff.mp scored).1) (has.similarityOn_bounds finite).1

/-- Where the best score without a vector is below the worst one with it, no row without a vector
comes before one with it. -/
theorem missingLast_of_sinkMissing (shares : weights.AreShares) (sink : weights.SinkMissing) :
    MissingLast weights := by
  intro Label textScore path query rows scored finite
  have ranked := stablySorted_rankByScore
    (fun row => hybridScore weights (textScore row) path query row.record) true rows
  refine ranked.ordered.imp_of_mem fun {former latter} inFormer inLatter ordered lacks has => ?_
  have formerScored := scored former (ranked.perm.mem_iff.mp inFormer)
  have latterScored := scored latter (ranked.perm.mem_iff.mp inLatter)
  have formerNumber := lacks.isNaN_hybridScore shares formerScored
  rcases compareScores_ne_gt_iff.mp ordered with notNumber | ⟨_, latterNumber, notAfter⟩
  · have latterNumber :
        (hybridScore weights (textScore latter) path query latter.record).isNaN = false :=
      shares.isNaN_blend latterScored.isFinite (has.isFinite_similarityOn finite)
    rw [latterNumber] at notNumber
    contradiction
  · have inOrder := (Binary.exact_le_exact_iff latterNumber formerNumber).mp notAfter
    have below := lacks.ordinal_hybridScore_le shares formerScored
    have above := has.le_ordinal_hybridScore finite shares latterScored
    exact absurd (shares.sinkMissing_iff.mp sink)
      (Int.not_lt.mpr (above.trans (inOrder.trans below)))

end Ranking

/-- The place of the vector of a point. -/
def Sample.place : Path :=
  ⟨[], ⟨⟨"V", "Point", true, .vector⟩, 0, .scalar .vector⟩⟩

/-- A point without a vector, and behind it one in the opposite direction of the query. -/
def Sample.opposed : List (Row String) :=
  [nowhere, pointAt "opposite" [-1]]

/-- The full text score for the point without a vector, and none for others. -/
def Sample.scoreNowhere (row : Row String) : Single :=
  if row.label = nowhere.label then 1 else 0

namespace Ranking

variable {weights : Weights}

/-- Otherwise a row without a vector stays before one in the opposite direction of the query. -/
theorem sinkMissing_of_missingLast (shares : weights.AreShares) (last : MissingLast weights) :
    weights.SinkMissing := by
  by_contra stays
  have scored : ∀ row ∈ Sample.opposed, (Sample.scoreNowhere row).IsShare :=
    List.forall_mem_cons.mpr ⟨Weights.isShare_ends.2,
      List.forall_mem_singleton.mpr Weights.isShare_ends.1⟩
  have opposite : Cosine.similarity (some [-1]) (some [1]) = (-1 : Single) := by decide +kernel
  have notAfter : compareScores true (weights.blend 1 Cosine.leastSimilarity)
      (weights.blend 0 (-1)) ≠ .gt :=
    compareScores_ne_gt_iff.mpr (.inr ⟨shares.isNaN_blend isFinite_one isFinite_leastSimilarity,
      shares.isNaN_blend isFinite_zero isFinite_opposite, not_lt.mp stays⟩)
  have asTheyCame : hybridRank Sample.scoreNowhere Sample.place [1] weights Sample.opposed =
      Sample.opposed := by
    rw [hybridRank, rankByScore_eq_mergeSort]
    refine List.mergeSort_of_pairwise (List.pairwise_pair.mpr (bne_iff_ne.mpr ?_))
    rw [← opposite] at notAfter
    exact notAfter
  have ordered := last String Sample.scoreNowhere Sample.place [1] Sample.opposed scored
    (List.forall_mem_singleton.mpr isFinite_one)
  rw [asTheyCame] at ordered
  refine List.pairwise_pair.mp ordered ?_
    ⟨[-1], rfl, rfl, List.forall_mem_singleton.mpr isFinite_opposite⟩
  rintro ⟨components, _, missing, _⟩
  exact Option.some_ne_none components missing.symm

/-- Rows without a vector come last just if the best score that they can have is below the worst
score of a row with one. -/
theorem missingLast_iff (shares : weights.AreShares) :
    MissingLast weights ↔ weights.SinkMissing :=
  ⟨sinkMissing_of_missingLast shares, missingLast_of_sinkMissing shares⟩

end Ranking

namespace Settings

/-- With weights that are accepted, rows without a usable vector come last just if a full text score
with the least similarity comes to less than no text score with the opposite direction. So it is
with every vector weight above two to the power of minus 128, and where the text has the full
weight, with no other. -/
theorem missing_vectors_rank_last {settings : Settings} (valid : settings.validate = .ok ()) :
    (Ranking.MissingLast settings.weights ↔ settings.weights.SinkMissing) ∧
      (((1 / twoTo 128 : ℚ) : WithBotTop ℚ) < settings.weights.vector.exact →
        Ranking.MissingLast settings.weights) ∧
      (settings.weights.text = 1 → (Ranking.MissingLast settings.weights ↔
        ((1 / twoTo 128 : ℚ) : WithBotTop ℚ) < settings.weights.vector.exact)) := by
  obtain ⟨text, vector⟩ := isShare_of_validate valid
  have shares : settings.weights.AreShares := ⟨text, vector⟩
  have decided := Ranking.missingLast_iff shares
  exact ⟨decided, fun enough => decided.mpr (shares.sinkMissing_of_lt enough),
    fun full => ⟨fun last => shares.lt_of_sinkMissing full (decided.mp last),
      fun enough => decided.mpr (shares.sinkMissing_of_lt enough)⟩⟩

/-- The settings where none are given, but for the weights. -/
def weighted (weights : Weights) : Settings :=
  ⟨"info", weights, .standard⟩

/-- Beside a full text weight, the next weight above two to the power of minus 128 is enough. -/
theorem missing_vectors_rank_last_of_aboveFaintest :
    (weighted ⟨1, Weights.aboveFaintest⟩).validate = .ok () ∧
      Ranking.MissingLast ⟨1, Weights.aboveFaintest⟩ := by
  have valid : (weighted ⟨1, Weights.aboveFaintest⟩).validate = .ok () := by decide
  obtain ⟨text, vector⟩ := isShare_of_validate valid
  have shares : Weights.AreShares ⟨1, Weights.aboveFaintest⟩ := ⟨text, vector⟩
  have enough : ((1 / twoTo 128 : ℚ) : WithBotTop ℚ) < Weights.aboveFaintest.exact :=
    shares.faintest_lt_iff.mpr (by decide)
  exact ⟨valid, ((missing_vectors_rank_last valid).2.2 rfl).mpr enough⟩

/-- A positive weight alone is not: the faintest one leaves a row without a vector before one with
a vector. -/
theorem not_missing_vectors_rank_last :
    ¬ ∀ settings : Settings, settings.validate = .ok () →
      ((0 : ℚ) : WithBotTop ℚ) < settings.weights.vector.exact →
      Ranking.MissingLast settings.weights := by
  intro always
  have valid : (weighted ⟨1, Weights.faintest⟩).validate = .ok () := by decide
  obtain ⟨text, vector⟩ := isShare_of_validate valid
  have shares : Weights.AreShares ⟨1, Weights.faintest⟩ := ⟨text, vector⟩
  have positive : ((0 : ℚ) : WithBotTop ℚ) < Weights.faintest.exact := by
    rw [Weights.exact_faintest, WithBotTop.coe_lt_coe]
    norm_num [twoTo]
  have sink := shares.sinkMissing_iff.mp
    ((Ranking.missingLast_iff shares).mp (always _ valid positive))
  revert sink
  decide

end Settings

end RecordQuery

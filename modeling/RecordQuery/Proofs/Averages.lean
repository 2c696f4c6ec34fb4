/-
This file says what the average of a field of integers is, above all where the mean leaves the type
of the result.

An average is formed in double precision, whatever the type of the result, so that integers of any
size can go into it. In the end it loses its fraction and is held to the bounds of the type. So
there is an average wherever there is an integer, and a mean beyond the type gives the bound on its
side. That is unlike a sum: among integers with such a mean there is one that the type does not hold,
and their sum is an overflow.
-/

import Mathlib.Algebra.Order.BigOperators.Group.List
import Mathlib.Algebra.Order.Ring.Int
import RecordQuery.Proofs.Means
import RecordQuery.Proofs.SumFaults

namespace RecordQuery

open Number

variable {Label : Type}

/-! ### Bounds of a type of totals -/

/-- A type of totals that drops the fraction of an average and holds it to its bounds. -/
class HeldTotal (Total : Type) [Numeric Total] extends WholeTotal Total where
  toInt_ofDouble (mean : Double) :
    toInt (Numeric.ofDouble mean) = clampInt least greatest mean.truncated

/-- What is held to bounds lies between them. -/
theorem le_clampInt_and_clampInt_le {low high : Int} (ordered : low ≤ high) (value : Int) :
    low ≤ clampInt low high value ∧ clampInt low high value ≤ high :=
  ⟨Int.le_max_left _ _, Int.max_le.mpr ⟨ordered, Int.min_le_left _ _⟩⟩

theorem clampInt_of_le {low high value : Int} (ordered : low ≤ high) (above : high ≤ value) :
    clampInt low high value = high := by
  rw [clampInt, Int.min_eq_left above, Int.max_eq_right ordered]

theorem clampInt_of_ge {low high value : Int} (below : value ≤ low) :
    clampInt low high value = low :=
  Int.max_eq_left ((Int.min_le_right _ _).trans below)

/-- Words that stand for just the integers between two bounds stand for what is held to them. -/
theorem toInt_ofInt_clampInt {Word : Type} {toInt : Word → Int} {ofInt : Int → Word}
    {low high : Int} (ordered : low ≤ high)
    (holds : ∀ number, (∃ word, toInt word = number) ↔ low ≤ number ∧ number ≤ high)
    (back : ∀ word, ofInt (toInt word) = word) (value : Int) :
    toInt (ofInt (clampInt low high value)) = clampInt low high value := by
  obtain ⟨word, same⟩ := (holds _).mpr (le_clampInt_and_clampInt_le ordered value)
  rw [← same, back]

instance : HeldTotal Int32 where
  toInt_ofDouble mean :=
    toInt_ofInt_clampInt (by decide) (fun _ => exists_int32_iff) Int32.ofInt_toInt mean.truncated

instance : HeldTotal Int64 where
  toInt_ofDouble mean :=
    toInt_ofInt_clampInt (by decide) (fun _ => exists_int64_iff) Int64.ofInt_toInt mean.truncated

section

variable {Total : Type} [Numeric Total] [WholeTotal Total]

/-- Whether the mean of some integers is beyond the greatest total by one or more. -/
def MeanAbove (Total : Type) [Numeric Total] [WholeTotal Total] (numbers : List Int) : Prop :=
  numbers.length * (WholeTotal.greatest Total + 1) ≤ numbers.sum

/-- Whether the mean of some integers is beneath the least total by one or more. -/
def MeanBelow (Total : Type) [Numeric Total] [WholeTotal Total] (numbers : List Int) : Prop :=
  numbers.sum ≤ numbers.length * (WholeTotal.least Total - 1)

theorem least_le_greatest : WholeTotal.least Total ≤ WholeTotal.greatest Total := by
  have zero : Fits Total 0 := fits_iff.mpr ⟨Numeric.zero, WholeTotal.toInt_zero⟩
  exact zero.1.trans zero.2

/-- Integers with such a mean do not add up, for not each of them is a total. -/
theorem not_addsUp_of_mean {numbers : List Int} (notEmpty : numbers ≠ [])
    (beyond : MeanAbove Total numbers ∨ MeanBelow Total numbers) : ¬ AddsUp Total 0 numbers := by
  intro adds
  have some : 0 < numbers.length := List.length_pos_iff.mpr notEmpty
  rcases beyond with above | below
  · have most := List.sum_le_card_nsmul numbers _ fun number member => (adds.each number member).2
    rw [nsmul_eq_mul] at most
    rw [MeanAbove, Int.mul_add, Int.mul_one] at above
    omega
  · have least := List.card_nsmul_le_sum numbers _ fun number member => (adds.each number member).1
    rw [nsmul_eq_mul] at least
    rw [MeanBelow, Int.mul_sub, Int.mul_one] at below
    omega

/-- A mean above all totals, held to their bounds, is the greatest one. -/
theorem MeanAbove.clampInt_eq {numbers : List Int} (above : MeanAbove Total numbers)
    (notEmpty : numbers ≠ []) :
    clampInt (WholeTotal.least Total) (WholeTotal.greatest Total)
      (numbers.sum.tdiv numbers.length) = WholeTotal.greatest Total := by
  have some : (0 : Int) < numbers.length := Int.natCast_pos.mpr (List.length_pos_iff.mpr notEmpty)
  have quotient := Int.tdiv_le_tdiv some above
  rw [Int.mul_tdiv_cancel_left _ some.ne'] at quotient
  exact clampInt_of_le least_le_greatest ((Int.le_add_one (Int.le_refl _)).trans quotient)

/-- A mean beneath all totals, held to their bounds, is the least one. -/
theorem MeanBelow.clampInt_eq {numbers : List Int} (below : MeanBelow Total numbers)
    (notEmpty : numbers ≠ []) :
    clampInt (WholeTotal.least Total) (WholeTotal.greatest Total)
      (numbers.sum.tdiv numbers.length) = WholeTotal.least Total := by
  have some : (0 : Int) < numbers.length := Int.natCast_pos.mpr (List.length_pos_iff.mpr notEmpty)
  have quotient := Int.tdiv_le_tdiv some below
  rw [Int.mul_tdiv_cancel_left _ some.ne'] at quotient
  exact clampInt_of_ge (quotient.trans (Int.sub_le_self _ Int.one_nonneg))

/-- Whether a total is the mean of some integers, held to the bounds of its type. Where nothing on
the way has more bits than a significand, this is their exact mean. -/
structure IsHeldMean (numbers : List Int) (mean : Total) : Prop where
  held : WholeTotal.toInt mean =
    clampInt (WholeTotal.least Total) (WholeTotal.greatest Total) (Binary.meanOf numbers).truncated
  exact : Binary.StaysExact numbers → WholeTotal.toInt mean =
    clampInt (WholeTotal.least Total) (WholeTotal.greatest Total)
      (numbers.sum.tdiv numbers.length)
  above : Binary.StaysExact numbers → MeanAbove Total numbers →
    WholeTotal.toInt mean = WholeTotal.greatest Total
  below : Binary.StaysExact numbers → MeanBelow Total numbers →
    WholeTotal.toInt mean = WholeTotal.least Total

end

theorem isHeldMean_ofDouble {Total : Type} [Numeric Total] [HeldTotal Total] {numbers : List Int}
    (notEmpty : numbers ≠ []) :
    IsHeldMean numbers (Numeric.ofDouble (Binary.meanOf numbers) : Total) := by
  have held := @HeldTotal.toInt_ofDouble Total _ _ (Binary.meanOf numbers)
  have whole (stays : Binary.StaysExact numbers) :
      WholeTotal.toInt (Numeric.ofDouble (Binary.meanOf numbers) : Total) =
        clampInt (WholeTotal.least Total) (WholeTotal.greatest Total)
          (numbers.sum.tdiv numbers.length) := by
    rw [held, stays.truncated_meanOf notEmpty]
  exact
    { held
      exact := whole
      above := fun stays above => (whole stays).trans (above.clampInt_eq notEmpty)
      below := fun stays below => (whole stays).trans (below.clampInt_eq notEmpty) }

/-! ### Averages of a field -/

/-- The integers that a path leads to are words. -/
theorem Path.words_integersOn (path : Path) {rows : List (Row Label)} :
    ∀ number ∈ path.integersOn rows, number.natAbs ≤ twoTo 63 := by
  intro number member
  obtain ⟨row, _, leads⟩ := List.mem_filterMap.mp member
  obtain ⟨word, _, rfl⟩ := Option.map_eq_some_iff.mp leads
  have low := word.minValue_le_toInt
  have high := word.toInt_le
  have least : Int64.minValue.toInt = -9223372036854775808 := rfl
  have greatest : Int64.maxValue.toInt = 9223372036854775807 := rfl
  have bound : twoTo 63 = 9223372036854775808 := by decide
  omega

namespace Aggregate

/-- What runs up is the sum of the integers as doubles, and their number. -/
theorem runFrom_eq {path : Path} {rows : List (Row Label)}
    (within : ∀ row ∈ rows, path.LeadsWithin Set.univ row.record) (running : Running) :
    runFrom path running (rows.map Row.record) =
      .ok ⟨(path.integersOn rows).foldl (fun total number => total + Binary.ofInt number)
        running.total, running.count + (path.integersOn rows).length⟩ := by
  induction rows generalizing running with
  | nil => rfl
  | cons row rows inductionHypothesis =>
    obtain ⟨first, within⟩ := List.forall_mem_cons.mp within
    rw [List.map_cons, runFrom, Path.leaf?_of_leadsWithin first, Path.integersOn,
      List.filterMap_cons]
    cases path.integerOn row.record with
    | none => exact inductionHypothesis within running
    | some number =>
      refine (inductionHypothesis within _).trans ?_
      show Except.ok (⟨_, running.count + 1 + _⟩ : Running) = .ok ⟨_, running.count + (_ + 1)⟩
      rw [Nat.add_assoc, Nat.add_comm 1]
      rfl

/-- The mean of integers is held to the type of the result. -/
theorem average_eq {Total : Type} [Numeric Total] {path : Path} {rows : List (Row Label)}
    (within : ∀ row ∈ rows, path.LeadsWithin Set.univ row.record)
    (found : path.integersOn rows ≠ []) :
    average path (rows.map Row.record) =
      .ok (some (Numeric.ofDouble (Binary.meanOf (path.integersOn rows)) : Total)) := by
  have start : (0 : Double) = Binary.zero := by decide +kernel
  have counted : (path.integersOn rows).length ≠ 0 := List.length_eq_zero_iff.not.mpr found
  have finite := Binary.isFinite_meanOf path.words_integersOn found
  unfold Binary.meanOf at finite ⊢
  simp only [average, runFrom_eq within, Nat.zero_add, counted, start, finite, if_true, if_false]

/-- The average of a field of integers never overflows. It is their mean, held to the bounds of the
type of the result, also where the mean is beyond that type and their sum is an overflow. -/
theorem average_held_to_bounds {Total : Type} [Numeric Total] [HeldTotal Total] {path : Path}
    {rows : List (Row Label)} (isInteger : path.kind = .int)
    (within : ∀ row ∈ rows, path.LeadsWithin Set.univ row.record)
    (found : path.integersOn rows ≠ []) :
    (∃ mean : Total, average path (rows.map Row.record) = .ok (some mean) ∧
        IsHeldMean (path.integersOn rows) mean) ∧
      (MeanAbove Total (path.integersOn rows) ∨ MeanBelow Total (path.integersOn rows) →
        (sum path (rows.map Row.record) : Except _ Total) = .error (.overflow path.toText)) := by
  refine ⟨⟨_, average_eq within found, isHeldMean_ofDouble found⟩, fun beyond => ?_⟩
  have outcome := sumFrom_sumsTo isInteger within (Numeric.zero : Total)
  rw [WholeTotal.toInt_zero] at outcome
  exact outcome.of_not_addsUp (not_addsUp_of_mean found beyond)

end Aggregate

/-! ### A mean that is beyond its type -/

/-- A record of an integer that is one greater than the greatest word of 32 bits. -/
def Sample.exceeding : List (Row Nat) :=
  [⟨0, [.value (.int 2147483648)]⟩]

theorem Sample.exceeding_within :
    ∀ row ∈ exceeding, reading.LeadsWithin Set.univ row.record :=
  List.forall_mem_singleton.mpr (.int (Set.mem_univ _))

theorem Sample.exceeding_above : MeanAbove Int32 (reading.integersOn exceeding) := by
  unfold MeanAbove
  decide

/-- The average of this record is the greatest word, its sum is an overflow. -/
theorem Aggregate.average_held_to_bounds_of_exceeding :
    Sample.reading.kind = .int ∧
      (∀ row ∈ Sample.exceeding, Sample.reading.LeadsWithin Set.univ row.record) ∧
      Sample.reading.integersOn Sample.exceeding ≠ [] ∧
      (∃ mean : Int32, average Sample.reading (Sample.exceeding.map Row.record) = .ok (some mean) ∧
        mean.toInt = Int32.maxValue.toInt) ∧
      (sum Sample.reading (Sample.exceeding.map Row.record) : Except _ Int32) =
        .error (.overflow "Reading") := by
  have isInteger : Sample.reading.kind = .int := rfl
  have found : Sample.reading.integersOn Sample.exceeding ≠ [] := List.cons_ne_nil _ _
  obtain ⟨⟨mean, averaged, isMean⟩, sums⟩ :=
    @average_held_to_bounds _ Int32 _ _ _ _ isInteger Sample.exceeding_within found
  have greatest := isMean.above (Binary.staysExact_singleton (by decide)) Sample.exceeding_above
  exact ⟨isInteger, Sample.exceeding_within, found, ⟨mean, averaged, greatest⟩,
    sums (.inl Sample.exceeding_above)⟩

/-- So it is not true that a mean beyond the type of the result makes the average overflow. -/
theorem Aggregate.not_average_overflows :
    ¬ ∀ (path : Path) (rows : List (Row Nat)), path.kind = .int →
      (∀ row ∈ rows, path.LeadsWithin Set.univ row.record) → path.integersOn rows ≠ [] →
        MeanAbove Int32 (path.integersOn rows) ∨ MeanBelow Int32 (path.integersOn rows) →
          (average path (rows.map Row.record) : Except _ (Option Int32)) =
            .error (.overflow path.toText) := by
  intro overflows
  have found : Sample.reading.integersOn Sample.exceeding ≠ [] := List.cons_ne_nil _ _
  have overflow := overflows Sample.reading Sample.exceeding rfl Sample.exceeding_within found
    (.inl Sample.exceeding_above)
  have averaged : (average Sample.reading (Sample.exceeding.map Row.record) :
      Except _ (Option Int32)) = .ok (some 2147483647) := by
    decide +kernel
  rw [averaged] at overflow
  injection overflow

end RecordQuery

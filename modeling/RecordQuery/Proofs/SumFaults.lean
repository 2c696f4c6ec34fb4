/-
This file says when the sum of a field of integers comes out, and if it does not, which record ends
it and with which fault.

Records are added one after the other. One of them ends the sum if its value is no integer, if its
integer is not one of the type of the result, or if the total on the way leaves that type with it.
The first record that does so gives the fault, whatever comes after it. A sum that no record ends is
exact.
-/

import Mathlib.Data.List.Induction
import RecordQuery.Proofs.Totals

namespace RecordQuery

open Number

variable {Label : Type}

/-! ### Values that are no integers -/

/-- Only integers have the name of their kind. -/
theorem Value.kindName_ne_of_integer?_eq_none {value : Value} (noInteger : value.integer? = none) :
    value.kindName ≠ Kind.int.toText := by
  cases value with
  | int number => contradiction
  | _ => simp only [kindName, Kind.toText]; decide

/-- A type of totals that holds whole numbers and takes no other values than integers. -/
class IntegerTotal (Total : Type) [Numeric Total] extends WholeTotal Total where
  ofValue?_eq_none {value : Value} :
    value.integer? = none → (Numeric.ofValue? value : Option Total) = none

instance : IntegerTotal Int32 where
  ofValue?_eq_none := by
    intro value noInteger
    cases value with
    | int number => contradiction
    | _ => rfl

instance : IntegerTotal Int64 where
  ofValue?_eq_none := by
    intro value noInteger
    cases value with
    | int number => contradiction
    | _ => rfl

/-- A path leads to an integer, to null or nowhere, or to a value of another kind. -/
theorem Path.leadsWithin_or_drifted (path : Path) (record : Record) :
    path.LeadsWithin Set.univ record ∨
      ∃ value, path.read record = .value value ∧ value ≠ .null ∧ value.integer? = none := by
  unfold LeadsWithin
  cases read : path.read record with
  | present | unreachable => exact .inl .null
  | value value =>
    cases value with
    | null => exact .inl .null
    | int number => exact .inl (.int (Set.mem_univ number))
    | _ => exact .inr ⟨_, rfl, Value.noConfusion, rfl⟩

theorem Path.read_of_integerOn {path : Path} {record : Record} {number : Int64}
    (leads : path.integerOn record = some number) : path.read record = .value (.int number) := by
  unfold integerOn at leads
  cases read : path.read record with
  | present | unreachable =>
    rw [read] at leads
    contradiction
  | value value =>
    rw [read] at leads
    cases value with
    | int other => rw [Option.some.inj leads]
    | _ => contradiction

theorem Path.integersOn_append_singleton (path : Path) (rows : List (Row Label)) (row : Row Label) :
    path.integersOn (rows ++ [row]) =
      path.integersOn rows ++ ((path.integerOn row.record).map Int64.toInt).toList := by
  unfold integersOn
  rw [List.filterMap_append, List.filterMap_cons]
  cases path.integerOn row.record <;> rfl

theorem Aggregate.leaf?_of_read {path : Path} {record : Record} {value : Value}
    (read : path.read record = .value value) (notNull : value ≠ .null) :
    leaf? path record = some value := by
  unfold leaf?
  rw [read]
  cases value <;> first | contradiction | rfl

/-! ### Integers in turn -/

section

variable {Total : Type} [Numeric Total] [WholeTotal Total]

/-- One more integer can be added if it is of the type of the totals and the total with it is. -/
theorem addsUp_append_singleton {start number : Int} {numbers : List Int} :
    AddsUp Total start (numbers ++ [number]) ↔
      AddsUp Total start numbers ∧ Fits Total number ∧
        Fits Total (start + numbers.sum + number) := by
  have whole : (numbers ++ [number]).sum = numbers.sum + number := by
    rw [List.sum_append, List.sum_singleton]
  refine ⟨fun adds => ?_, fun ⟨adds, fits, total⟩ => ⟨?_, fun passed isPrefix => ?_⟩⟩
  · obtain ⟨each, last⟩ := List.forall_mem_append.mp adds.each
    refine ⟨⟨each, fun passed isPrefix => ?_⟩, List.forall_mem_singleton.mp last, ?_⟩
    · exact adds.onTheWay passed (isPrefix.trans (List.prefix_append _ _))
    · rw [Int.add_assoc, ← whole]
      exact adds.onTheWay _ List.prefix_rfl
  · exact List.forall_mem_append.mpr ⟨adds.each, List.forall_mem_singleton.mpr fits⟩
  · rcases List.prefix_concat_iff.mp isPrefix with rfl | earlier
    · rwa [whole, ← Int.add_assoc]
    · exact adds.onTheWay passed earlier

theorem SumsTo.of_addsUp {path : Path} {start : Int} {numbers : List Int}
    {outcome : Except EvaluationError Total} (sums : SumsTo path start numbers outcome)
    (adds : AddsUp Total start numbers) :
    ∃ total, outcome = .ok total ∧ WholeTotal.toInt total = start + numbers.sum := by
  cases sums with
  | total _ exact => exact ⟨_, rfl, exact⟩
  | overflow fails => exact absurd adds fails

theorem SumsTo.of_not_addsUp {path : Path} {start : Int} {numbers : List Int}
    {outcome : Except EvaluationError Total} (sums : SumsTo path start numbers outcome)
    (fails : ¬ AddsUp Total start numbers) : outcome = .error (.overflow path.toText) := by
  cases sums with
  | total adds _ => exact absurd adds fails
  | overflow _ => rfl

/-- Why a value that is not null ends a sum which has come to a total: it is of another kind than
its field, or it is an integer that does not fit, or with it the total does not. -/
inductive EndsSum (Total : Type) [Numeric Total] [WholeTotal Total] (path : Path) (total : Int) :
    Value → EvaluationError → Prop where
  | drifted {value : Value} : value.integer? = none →
      EndsSum Total path total value (.kindMismatch path.toText .int value.kindName)
  | tooLarge {number : Int64} : ¬ Fits Total number.toInt →
      EndsSum Total path total (.int number) (.overflow path.toText)
  | leaves {number : Int64} : Fits Total number.toInt → ¬ Fits Total (total + number.toInt) →
      EndsSum Total path total (.int number) (.overflow path.toText)

/-- Whether a path leads to integers or to nothing on all of some rows, and the integers can be
added up. -/
structure Sums (Total : Type) [Numeric Total] [WholeTotal Total] (path : Path)
    (rows : List (Row Label)) : Prop where
  within : ∀ row ∈ rows, path.LeadsWithin Set.univ row.record
  adds : AddsUp Total 0 (path.integersOn rows)

/-- Whether one of some rows ends the sum of those before it with a fault. -/
def FirstEnds (Total : Type) [Numeric Total] [WholeTotal Total] (path : Path)
    (rows : List (Row Label)) (fault : EvaluationError) : Prop :=
  ∃ before row after value, rows = before ++ row :: after ∧ Sums Total path before ∧
    path.read row.record = .value value ∧ value ≠ .null ∧
      EndsSum Total path (path.integersOn before).sum value fault

theorem FirstEnds.append {path : Path} {rows : List (Row Label)} {fault : EvaluationError}
    (ends : FirstEnds Total path rows fault) (row : Row Label) :
    FirstEnds Total path (rows ++ [row]) fault := by
  obtain ⟨before, ending, after, value, rfl, sums, found⟩ := ends
  exact ⟨before, ending, after ++ [row], value, by simp, sums, found⟩

/-- A row that leads to an integer or to nothing adds to a sum or ends it. -/
theorem Sums.append_or_firstEnds {path : Path} {rows : List (Row Label)}
    (sums : Sums Total path rows) {row : Row Label}
    (within : path.LeadsWithin Set.univ row.record) :
    Sums Total path (rows ++ [row]) ∨ ∃ fault, FirstEnds Total path (rows ++ [row]) fault := by
  have withinAll : ∀ other ∈ rows ++ [row], path.LeadsWithin Set.univ other.record :=
    List.forall_mem_append.mpr ⟨sums.within, List.forall_mem_singleton.mpr within⟩
  have appended := path.integersOn_append_singleton rows row
  cases leads : path.integerOn row.record with
  | none =>
    rw [leads] at appended
    refine .inl ⟨withinAll, ?_⟩
    rw [appended]
    exact (List.append_nil _).symm ▸ sums.adds
  | some number =>
    rw [leads] at appended
    have read := path.read_of_integerOn leads
    by_cases fits : Fits Total number.toInt
    · by_cases total : Fits Total ((path.integersOn rows).sum + number.toInt)
      · refine .inl ⟨withinAll, ?_⟩
        rw [appended]
        refine addsUp_append_singleton.mpr ⟨sums.adds, fits, ?_⟩
        rwa [Int.zero_add]
      · exact .inr ⟨_, rows, row, [], _, rfl, sums, read, Value.noConfusion, .leaves fits total⟩
    · exact .inr ⟨_, rows, row, [], _, rfl, sums, read, Value.noConfusion, .tooLarge fits⟩

/-- Rows can be added up, or one of them ends the sum of those before it. -/
theorem sums_or_firstEnds (path : Path) (rows : List (Row Label)) :
    Sums Total path rows ∨ ∃ fault, FirstEnds Total path rows fault := by
  induction rows using List.reverseRecOn with
  | nil =>
    have zero : Fits Total 0 := fits_iff.mpr ⟨Numeric.zero, WholeTotal.toInt_zero⟩
    exact .inl ⟨List.forall_mem_nil _, addsUp_nil.mpr zero⟩
  | append_singleton rows row inductionHypothesis =>
    rcases inductionHypothesis with sums | ⟨fault, ends⟩
    · rcases path.leadsWithin_or_drifted row.record with within | ⟨value, read, notNull, drifted⟩
      · exact sums.append_or_firstEnds within
      · exact .inr ⟨_, rows, row, [], value, rfl, sums, read, notNull, .drifted drifted⟩
    · exact .inr ⟨fault, ends.append row⟩

end

/-! ### Sums and their faults -/

namespace Aggregate

/-- A sum over some records and others is the sum over the others, begun with that over the
first. -/
theorem sumFrom_append {Total : Type} [Numeric Total] (path : Path) (start : Total)
    (records others : List Record) :
    sumFrom path start (records ++ others) =
      (sumFrom path start records).bind fun total => sumFrom path total others := by
  induction records generalizing start with
  | nil => rfl
  | cons record records inductionHypothesis =>
    rw [List.cons_append, sumFrom, sumFrom]
    cases leaf? path record with
    | none => exact inductionHypothesis start
    | some value =>
      dsimp only
      cases (numberOf path value : Except _ Total) with
      | error fault => rfl
      | ok number =>
        dsimp only
        cases Numeric.add? start number with
        | none => rfl
        | some next => exact inductionHypothesis next

section

variable {Total : Type} [Numeric Total] [IntegerTotal Total] {path : Path}

/-- A value that ends a sum fails with its fault, whatever comes after it. -/
theorem sumFrom_of_endsSum (isInteger : path.kind = .int) {total : Total} {record : Record}
    {value : Value} {fault : EvaluationError} (found : leaf? path record = some value)
    (ends : EndsSum Total path (WholeTotal.toInt total) value fault) (others : List Record) :
    sumFrom path total (record :: others) = .error fault := by
  rw [sumFrom, found]
  cases ends with
  | drifted noInteger =>
    have failed : (numberOf path value : Except _ Total) = .error (mismatch path value) := by
      rw [numberOf, IntegerTotal.ofValue?_eq_none noInteger, isInteger]
      exact if_neg (Value.kindName_ne_of_integer?_eq_none noInteger)
    simp only [failed, mismatch, isInteger]
  | @tooLarge number tooLarge =>
    rcases @numberOf_int Total _ _ path isInteger number with ⟨_, failed⟩ | ⟨held, same, _⟩
    · simp only [failed]
    · exact absurd (fits_iff.mpr ⟨held, same⟩) tooLarge
  | @leaves number fits leaves =>
    rcases @numberOf_int Total _ _ path isInteger number with ⟨tooLarge, _⟩ | ⟨held, same, read⟩
    · exact absurd fits tooLarge
    · rcases add?_cases total held with ⟨_, failed⟩ | ⟨next, exact, _⟩
      · simp only [read, failed]
      · rw [same] at exact
        exact absurd (fits_iff.mpr ⟨next, exact⟩) leaves

/-- The sum over rows that can be added up is exact. -/
theorem sum_of_sums (isInteger : path.kind = .int) {rows : List (Row Label)}
    (sums : Sums Total path rows) :
    ∃ total : Total, sum path (rows.map Row.record) = .ok total ∧
      WholeTotal.toInt total = (path.integersOn rows).sum := by
  have outcome := sumFrom_sumsTo isInteger sums.within (Numeric.zero : Total)
  rw [WholeTotal.toInt_zero] at outcome
  obtain ⟨total, summed, exact⟩ := outcome.of_addsUp sums.adds
  exact ⟨total, summed, exact.trans (Int.zero_add _)⟩

/-- The first row that ends a sum gives its fault. -/
theorem sum_of_firstEnds (isInteger : path.kind = .int) {rows : List (Row Label)}
    {fault : EvaluationError} (ends : FirstEnds Total path rows fault) :
    (sum path (rows.map Row.record) : Except _ Total) = .error fault := by
  obtain ⟨before, row, after, value, rfl, sums, read, notNull, endsSum⟩ := ends
  obtain ⟨total, summed, exact⟩ := @sum_of_sums _ Total _ _ path isInteger before sums
  rw [← exact] at endsSum
  rw [List.map_append, List.map_cons, sum, sumFrom_append]
  refine bind_eq_error_iff.mpr (.inr ⟨total, summed, ?_⟩)
  exact sumFrom_of_endsSum isInteger (leaf?_of_read read notNull) endsSum _

/-- A sum of a field of integers comes out if all that is there is integers and nulls, and each of
the integers and each total on the way is one of the type of the result. It is then exact. Otherwise
the first row that stands against this gives the fault, which is an overflow unless its value is of
another kind. -/
theorem sum_exact_or_first_fault (isInteger : path.kind = .int) (rows : List (Row Label)) :
    (∀ total : Total, sum path (rows.map Row.record) = .ok total ↔
        Sums Total path rows ∧ WholeTotal.toInt total = (path.integersOn rows).sum) ∧
      (∀ fault, (sum path (rows.map Row.record) : Except _ Total) = .error fault ↔
        FirstEnds Total path rows fault) ∧
      ((∀ row ∈ rows, path.LeadsWithin Set.univ row.record) → ¬ Sums Total path rows →
        (sum path (rows.map Row.record) : Except _ Total) = .error (.overflow path.toText)) := by
  refine ⟨fun total => ⟨fun summed => ?_, fun ⟨sums, exact⟩ => ?_⟩,
    fun fault => ⟨fun failed => ?_, sum_of_firstEnds isInteger⟩, fun within fails => ?_⟩
  · rcases @sums_or_firstEnds _ Total _ _ path rows with sums | ⟨fault, ends⟩
    · obtain ⟨other, summedToo, exact⟩ := @sum_of_sums _ Total _ _ path isInteger rows sums
      rw [summed] at summedToo
      exact ⟨sums, Except.ok.inj summedToo ▸ exact⟩
    · rw [sum_of_firstEnds isInteger ends] at summed
      contradiction
  · obtain ⟨other, summed, exactToo⟩ := @sum_of_sums _ Total _ _ path isInteger rows sums
    rw [summed, WholeTotal.toInt_injective (exactToo.trans exact.symm)]
  · rcases @sums_or_firstEnds _ Total _ _ path rows with sums | ⟨other, ends⟩
    · obtain ⟨total, summed, _⟩ := @sum_of_sums _ Total _ _ path isInteger rows sums
      rw [summed] at failed
      contradiction
    · rw [sum_of_firstEnds isInteger ends] at failed
      exact Except.error.inj failed ▸ ends
  · have outcome := sumFrom_sumsTo isInteger within (Numeric.zero : Total)
    rw [WholeTotal.toInt_zero] at outcome
    exact outcome.of_not_addsUp fun adds => fails ⟨within, adds⟩

end

end Aggregate

/-- Records of which the second has null and the last a text for its integer. -/
def Sample.drifting : List (Row Nat) :=
  [⟨0, [.value (.int 2147483647)]⟩, ⟨1, [.value .null]⟩, ⟨2, [.value (.int 1)]⟩,
    ⟨3, [.value (.text "seven")]⟩]

/-- Of these records, the third is too much for a total of 32 bits. A total of 64 bits gets as far
as the text. -/
theorem Aggregate.sum_exact_or_first_fault_of_drifting :
    Sample.reading.kind = .int ∧
      FirstEnds Int32 Sample.reading Sample.drifting (.overflow "Reading") ∧
      FirstEnds Int64 Sample.reading Sample.drifting (.kindMismatch "Reading" .int "text") := by
  have isInteger : Sample.reading.kind = .int := rfl
  have narrow : (sum Sample.reading (Sample.drifting.map Row.record) : Except _ Int32) =
      .error (.overflow "Reading") := rfl
  have wide : (sum Sample.reading (Sample.drifting.map Row.record) : Except _ Int64) =
      .error (.kindMismatch "Reading" .int "text") := rfl
  exact ⟨isInteger, ((sum_exact_or_first_fault isInteger Sample.drifting).2.1 _).mp narrow,
    ((sum_exact_or_first_fault isInteger Sample.drifting).2.1 _).mp wide⟩

end RecordQuery

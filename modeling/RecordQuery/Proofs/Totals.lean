/-
This file says what the order of records has to do with the sum of a field of integers.

A sum is formed in the type of the result, one record after the other. It needs every integer to be
of that type, and every total on the way as well. Only the last of these totals is the same in every
order. So a sum can fail in one order, because a total on the way leaves the type, and come out in
another. Where both come out they are equal, and where the integers above zero and those below it
can each be summed by themselves, no order fails.
-/

import Mathlib.Algebra.BigOperators.Group.List.Basic
import Mathlib.Algebra.Ring.Int.Defs
import RecordQuery.Proofs.Integers
import RecordQuery.Proofs.Reordering
import RecordQuery.Proofs.Running

namespace RecordQuery

open Number

variable {Label : Type}

/-! ### Types of whole numbers -/

/-- A type of totals that holds the integers between two bounds and no others. -/
class WholeTotal (Total : Type) [Numeric Total] where
  toInt : Total → Int
  least : Int
  greatest : Int
  exists_toInt_iff {number : Int} :
    (∃ total, toInt total = number) ↔ least ≤ number ∧ number ≤ greatest
  toInt_injective : Function.Injective toInt
  toInt_zero : toInt Numeric.zero = 0
  accepts_int : Numeric.accepts Total .int = true
  ofValue?_eq_some_iff {number : Int64} {total : Total} :
    Numeric.ofValue? (.int number) = some total ↔ toInt total = number.toInt
  add?_eq_some_iff {left right total : Total} :
    Numeric.add? left right = some total ↔ toInt total = toInt left + toInt right

theorem exists_int32_iff {number : Int} :
    (∃ word : Int32, word.toInt = number) ↔
      Int32.minValue.toInt ≤ number ∧ number ≤ Int32.maxValue.toInt := by
  constructor
  · rintro ⟨word, rfl⟩
    exact ⟨word.minValue_le_toInt, word.toInt_le⟩
  · rintro ⟨low, high⟩
    exact ⟨Int32.ofInt number, Int32.toInt_ofInt_of_le low (Int.lt_add_one_of_le high)⟩

theorem exists_int64_iff {number : Int} :
    (∃ word : Int64, word.toInt = number) ↔
      Int64.minValue.toInt ≤ number ∧ number ≤ Int64.maxValue.toInt := by
  constructor
  · rintro ⟨word, rfl⟩
    exact ⟨word.minValue_le_toInt, word.toInt_le⟩
  · rintro ⟨low, high⟩
    exact ⟨Int64.ofInt number, Int64.toInt_ofInt_of_le low (Int.lt_add_one_of_le high)⟩

/-- A test that passes just the integers that some word stands for finds that word. -/
theorem some_ofInt_iff {Word : Type} {toInt : Word → Int} {ofInt : Int → Word} {number : Int}
    {word : Word} {within : Prop} [Decidable within]
    (holds : (∃ word, toInt word = number) ↔ within) (back : ∀ word, ofInt (toInt word) = word) :
    (if within then some (ofInt number) else none) = some word ↔ toInt word = number := by
  refine ⟨fun found => ?_, fun same => ?_⟩
  · split at found
    · rename_i inside
      obtain ⟨other, rfl⟩ := holds.mpr inside
      rw [← Option.some.inj found, back]
    · contradiction
  · rw [if_pos (holds.mp ⟨word, same⟩), ← same, back]

theorem some_int32_iff {number : Int} {word : Int32} :
    (if inRange Int32.minValue.toInt Int32.maxValue.toInt number then some (Int32.ofInt number)
      else none) = some word ↔ word.toInt = number := by
  refine some_ofInt_iff (exists_int32_iff.trans ?_) Int32.ofInt_toInt
  rw [inRange, Bool.and_eq_true, decide_eq_true_iff, decide_eq_true_iff]

theorem wordOfInt?_eq_some_iff {number : Int} {word : Int64} :
    wordOfInt? number = some word ↔ word.toInt = number :=
  some_ofInt_iff exists_int64_iff Int64.ofInt_toInt

instance : WholeTotal Int32 where
  toInt := Int32.toInt
  least := Int32.minValue.toInt
  greatest := Int32.maxValue.toInt
  exists_toInt_iff := exists_int32_iff
  toInt_injective := fun _ _ => Int32.toInt_inj.mp
  toInt_zero := rfl
  accepts_int := rfl
  ofValue?_eq_some_iff := some_int32_iff
  add?_eq_some_iff := some_int32_iff

instance : WholeTotal Int64 where
  toInt := Int64.toInt
  least := Int64.minValue.toInt
  greatest := Int64.maxValue.toInt
  exists_toInt_iff := exists_int64_iff
  toInt_injective := fun _ _ => Int64.toInt_inj.mp
  toInt_zero := rfl
  accepts_int := rfl
  ofValue?_eq_some_iff := by
    intro number total
    show some number = some total ↔ _
    rw [Option.some_inj, ← Int64.toInt_inj, eq_comm]
  add?_eq_some_iff := wordOfInt?_eq_some_iff

/-! ### Adding up -/

section

variable {Total : Type} [Numeric Total] [WholeTotal Total]

/-- Whether a type of totals holds an integer. -/
def Fits (Total : Type) [Numeric Total] [WholeTotal Total] (number : Int) : Prop :=
  WholeTotal.least Total ≤ number ∧ number ≤ WholeTotal.greatest Total

theorem fits_iff {number : Int} :
    Fits Total number ↔ ∃ total : Total, WholeTotal.toInt total = number :=
  WholeTotal.exists_toInt_iff.symm

/-- Whether some integers can be added to a total in their order: each of them, and each total on
the way, is one that the type of totals holds. -/
structure AddsUp (Total : Type) [Numeric Total] [WholeTotal Total] (start : Int)
    (numbers : List Int) : Prop where
  each : ∀ number ∈ numbers, Fits Total number
  onTheWay : ∀ passed, passed <+: numbers → Fits Total (start + passed.sum)

theorem AddsUp.start {start : Int} {numbers : List Int} (adds : AddsUp Total start numbers) :
    Fits Total start := by
  have first := adds.onTheWay [] List.nil_prefix
  rwa [List.sum_nil, Int.add_zero] at first

theorem addsUp_nil {start : Int} : AddsUp Total start [] ↔ Fits Total start := by
  refine ⟨AddsUp.start, fun fits => ⟨List.forall_mem_nil _, fun passed isPrefix => ?_⟩⟩
  rwa [List.prefix_nil.mp isPrefix, List.sum_nil, Int.add_zero]

theorem addsUp_cons {start number : Int} {numbers : List Int} :
    AddsUp Total start (number :: numbers) ↔
      Fits Total start ∧ Fits Total number ∧ AddsUp Total (start + number) numbers := by
  refine ⟨fun adds => ?_, fun ⟨fits, first, adds⟩ => ⟨?_, fun passed isPrefix => ?_⟩⟩
  · obtain ⟨fits, each⟩ := List.forall_mem_cons.mp adds.each
    refine ⟨adds.start, fits, each, fun passed isPrefix => ?_⟩
    have longer := adds.onTheWay (number :: passed) (List.cons_prefix_cons.mpr ⟨rfl, isPrefix⟩)
    rwa [List.sum_cons, ← Int.add_assoc] at longer
  · exact List.forall_mem_cons.mpr ⟨first, adds.each⟩
  · rcases List.prefix_cons_iff.mp isPrefix with rfl | ⟨later, rfl, inRest⟩
    · rwa [List.sum_nil, Int.add_zero]
    · rw [List.sum_cons, ← Int.add_assoc]
      exact adds.onTheWay later inRest

end

/-! ### Sums of a field -/

namespace Path

/-- The integers that a path leads to on some rows, in their order. Rows on which it leads to none
are passed over. -/
def integersOn (path : Path) (rows : List (Row Label)) : List Int :=
  rows.filterMap fun row => (path.integerOn row.record).map Int64.toInt

/-- What counts of a row is the integer that a path leads to, if nothing but integers and nulls is
there. -/
theorem leaf?_of_leadsWithin {path : Path} {record : Record}
    (within : path.LeadsWithin Set.univ record) :
    Aggregate.leaf? path record = (path.integerOn record).map Value.int := by
  unfold LeadsWithin at within
  unfold Aggregate.leaf? integerOn
  cases read : path.read record with
  | present | unreachable => rfl
  | value value =>
    rw [read] at within
    cases within <;> rfl

end Path

section

variable {Total : Type} [Numeric Total] [WholeTotal Total]

/-- What some integers come to if they are added to a total in their order: the exact total, if they
can be added up, and else an overflow on behalf of a path. -/
inductive SumsTo (path : Path) (start : Int) (numbers : List Int) :
    Except EvaluationError Total → Prop where
  | total {total : Total} : AddsUp Total start numbers →
      WholeTotal.toInt total = start + numbers.sum → SumsTo path start numbers (.ok total)
  | overflow : ¬ AddsUp Total start numbers →
      SumsTo path start numbers (.error (.overflow path.toText))

theorem SumsTo.cons {path : Path} {start held next : Total} {numbers : List Int}
    {outcome : Except EvaluationError Total}
    (sums : SumsTo path (WholeTotal.toInt next) numbers outcome)
    (total : WholeTotal.toInt next = WholeTotal.toInt start + WholeTotal.toInt held) :
    SumsTo path (WholeTotal.toInt start) (WholeTotal.toInt held :: numbers) outcome := by
  have adds : AddsUp Total (WholeTotal.toInt start) (WholeTotal.toInt held :: numbers) ↔
      AddsUp Total (WholeTotal.toInt next) numbers := by
    rw [addsUp_cons, total]
    have fits (total : Total) : Fits Total (WholeTotal.toInt total) := fits_iff.mpr ⟨total, rfl⟩
    exact ⟨fun adds => adds.2.2, fun adds => ⟨fits start, fits held, adds⟩⟩
  cases sums with
  | total addsUp exact =>
    refine .total (adds.mpr addsUp) ?_
    rw [exact, total, List.sum_cons, Int.add_assoc]
  | overflow fails => exact .overflow fun addsUp => fails (adds.mp addsUp)

/-- An integer that the type of totals does not hold is an overflow. -/
theorem numberOf_int {path : Path} (isInteger : path.kind = .int) (number : Int64) :
    (¬ Fits Total number.toInt ∧
        (Aggregate.numberOf path (.int number) : Except _ Total) = .error (.overflow path.toText)) ∨
      ∃ held : Total, WholeTotal.toInt held = number.toInt ∧
        Aggregate.numberOf path (.int number) = .ok held := by
  unfold Aggregate.numberOf
  cases found : (Numeric.ofValue? (.int number) : Option Total) with
  | none =>
    refine .inl ⟨fun fits => ?_, if_pos (by rw [isInteger]; rfl)⟩
    obtain ⟨held, same⟩ := fits_iff.mp fits
    rw [WholeTotal.ofValue?_eq_some_iff.mpr same] at found
    contradiction
  | some held => exact .inr ⟨held, WholeTotal.ofValue?_eq_some_iff.mp found, rfl⟩

/-- What is added next either leaves the type of totals or gives the next total. -/
theorem add?_cases (start number : Total) :
    (¬ Fits Total (WholeTotal.toInt start + WholeTotal.toInt number) ∧
        Numeric.add? start number = none) ∨
      ∃ next : Total, WholeTotal.toInt next = WholeTotal.toInt start + WholeTotal.toInt number ∧
        Numeric.add? start number = some next := by
  cases added : Numeric.add? start number with
  | none =>
    refine .inl ⟨fun fits => ?_, rfl⟩
    obtain ⟨next, same⟩ := fits_iff.mp fits
    rw [WholeTotal.add?_eq_some_iff.mpr same] at added
    contradiction
  | some next => exact .inr ⟨next, WholeTotal.add?_eq_some_iff.mp added, rfl⟩

/-- A sum of integers is formed in their order. -/
theorem sumFrom_sumsTo {path : Path} (isInteger : path.kind = .int) {rows : List (Row Label)}
    (within : ∀ row ∈ rows, path.LeadsWithin Set.univ row.record) (start : Total) :
    SumsTo path (WholeTotal.toInt start) (path.integersOn rows)
      (Aggregate.sumFrom path start (rows.map Row.record)) := by
  induction rows generalizing start with
  | nil =>
    exact .total (addsUp_nil.mpr (fits_iff.mpr ⟨start, rfl⟩)) (Int.add_zero _).symm
  | cons row rows inductionHypothesis =>
    obtain ⟨first, within⟩ := List.forall_mem_cons.mp within
    rw [List.map_cons, Aggregate.sumFrom, Path.leaf?_of_leadsWithin first, Path.integersOn,
      List.filterMap_cons]
    cases path.integerOn row.record with
    | none => exact inductionHypothesis within start
    | some number =>
      show SumsTo path _ (number.toInt :: path.integersOn rows) _
      rcases @numberOf_int Total _ _ path isInteger number with
        ⟨tooLarge, failed⟩ | ⟨held, same, found⟩
      · simp only [Option.map_some, failed]
        exact .overflow fun adds => tooLarge (addsUp_cons.mp adds).2.1
      · simp only [Option.map_some, found]
        rw [← same]
        rcases add?_cases start held with ⟨left, failed⟩ | ⟨next, total, added⟩
        · simp only [failed]
          exact .overflow fun adds => left (addsUp_cons.mp adds).2.2.start
        · simp only [added]
          exact (inductionHypothesis within next).cons total

end

/-! ### Integers in another order -/

section

variable {Total : Type} [Numeric Total] [WholeTotal Total] {numbers others passed : List Int}

/-- Whatever integers are left out, the others come to no more than those above zero and to no less
than those below it. -/
theorem sum_between_of_sublist (sublist : passed.Sublist numbers) :
    (numbers.filter (· < 0)).sum ≤ passed.sum ∧ passed.sum ≤ (numbers.filter (0 < ·)).sum := by
  induction sublist with
  | slnil => exact ⟨Int.le_refl _, Int.le_refl _⟩
  | cons number _ inductionHypothesis | cons_cons number _ inductionHypothesis =>
    simp only [List.filter_cons, decide_eq_true_eq]
    split <;> split <;> grind

/-- Whether the bounds of a type of totals tell by themselves if some integers add up to a total of
it: one of them is beyond the bounds, or their total is, or neither those above zero nor those below
it leave the bounds together. -/
def Settled (Total : Type) [Numeric Total] [WholeTotal Total] (numbers : List Int) : Prop :=
  (∃ number ∈ numbers, ¬ Fits Total number) ∨ ¬ Fits Total numbers.sum ∨
    (Fits Total (numbers.filter (0 < ·)).sum ∧ Fits Total (numbers.filter (· < 0)).sum)

/-- If that is settled, totals on the way do not matter. -/
theorem addsUp_iff_of_settled (settled : Settled Total numbers) :
    AddsUp Total 0 numbers ↔ (∀ number ∈ numbers, Fits Total number) ∧ Fits Total numbers.sum := by
  have total : AddsUp Total 0 numbers → Fits Total numbers.sum := fun adds => by
    have whole := adds.onTheWay numbers List.prefix_rfl
    rwa [Int.zero_add] at whole
  refine ⟨fun adds => ⟨adds.each, total adds⟩, fun fit => ⟨fit.1, fun passed isPrefix => ?_⟩⟩
  rcases settled with ⟨number, member, beyond⟩ | beyond | ⟨above, below⟩
  · exact absurd (fit.1 number member) beyond
  · exact absurd fit.2 beyond
  · rw [Int.zero_add]
    have between := sum_between_of_sublist isPrefix.sublist
    exact ⟨below.1.trans between.1, between.2.trans above.2⟩

theorem Settled.perm (settled : Settled Total numbers) (exchanged : others.Perm numbers) :
    Settled Total others := by
  unfold Settled
  rw [exchanged.sum_eq, (exchanged.filter _).sum_eq, (exchanged.filter _).sum_eq]
  refine settled.imp_left ?_
  rintro ⟨number, member, beyond⟩
  exact ⟨number, exchanged.mem_iff.mpr member, beyond⟩

/-- If that is settled for some integers, it comes out the same in every order. -/
theorem addsUp_perm_of_settled (settled : Settled Total numbers) (exchanged : others.Perm numbers) :
    AddsUp Total 0 others ↔ AddsUp Total 0 numbers := by
  rw [addsUp_iff_of_settled settled, addsUp_iff_of_settled (settled.perm exchanged),
    exchanged.sum_eq]
  exact and_congr_left' (forall_congr' fun _ => imp_congr_left exchanged.mem_iff)

/-- Integers that come to the same total are the same sum if both lists of them add up, or neither.
-/
theorem SumsTo.eq_iff {path : Path} {start : Int} {first second : Except EvaluationError Total}
    (sums : SumsTo path start numbers first) (again : SumsTo path start others second)
    (same : others.sum = numbers.sum) :
    second = first ↔ (AddsUp Total start others ↔ AddsUp Total start numbers) := by
  cases sums with
  | total adds exact =>
    cases again with
    | total addsToo exactToo =>
      refine iff_of_true (congrArg Except.ok (WholeTotal.toInt_injective ?_))
        (iff_of_true addsToo adds)
      rw [exact, exactToo, same]
    | overflow fails =>
      exact iff_of_false (fun same => by cases same) fun both => fails (both.mpr adds)
  | overflow fails =>
    cases again with
    | total addsToo =>
      exact iff_of_false (fun same => by cases same) fun both => fails (both.mp addsToo)
    | overflow failsToo => exact iff_of_true rfl (iff_of_false failsToo fails)

end

/-! ### Sums of sorted records -/

namespace Query

section

variable {Total : Type} [Numeric Total] [WholeTotal Total] {query ordered : Query Label}
  {text : String} {path : Path} {rows : List (Row Label)}

/-- The sum of a field of integers is formed from the rows that come out. -/
theorem sum_eq_bind (query : Query Label) (resolved : query.schema.resolve text = .ok path)
    (isInteger : path.kind = .int) :
    query.sum Total text = query.materialize.bind (sumOf path) := by
  have accepted : Numeric.accepts Total path.kind = true := by
    rw [isInteger]
    exact WholeTotal.accepts_int
  have numeric : Aggregate.numericPath Total query.schema text = .ok path :=
    Schema.resolveSuited_of_suits resolved accepted .notNumeric
  have ran := query.run_eq_plan (Terminal.sum Total text)
  rwa [Terminal.plan, numeric] at ran

/-- Whether the sum of a field over a query is what the integers there come to, added up from zero
in the order of the rows. -/
def AddsInOrder (Total : Type) [Numeric Total] [WholeTotal Total] (query : Query Label)
    (text : String) (path : Path) (rows : List (Row Label)) : Prop :=
  ∃ outcome : Except EvaluationError Total, SumsTo path 0 (path.integersOn rows) outcome ∧
    query.sum Total text = outcome.mapError QueryError.evaluation

theorem HoldsIntegers.addsInOrder (holds : query.HoldsIntegers Set.univ text path rows) :
    query.AddsInOrder Total text path rows := by
  have sums := sumFrom_sumsTo holds.isInteger holds.within (Numeric.zero : Total)
  rw [WholeTotal.toInt_zero] at sums
  refine ⟨_, sums, ?_⟩
  rw [sum_eq_bind query holds.resolved holds.isInteger, holds.ran]
  rfl

/-- A chain sorts the rows that come out and changes nothing else. -/
theorem materialize_of_chain {chain : List Call} (isChain : Call.IsChain chain)
    (made : query.callAll chain = .ok ordered) :
    ordered.schema = query.schema ∧
      ∃ keys, ordered.materialize = query.materialize.map (SortKey.sort keys Row.record) := by
  obtain ⟨effects, checked, _, rfl⟩ := callAll_eq_ok made
  obtain ⟨key, keys, rfl⟩ := isChain.effects checked
  have recorded := enact_refinements query.source [key] keys
  exact ⟨(congrArg schema recorded :), key :: keys, materialize_enact_chain query key keys⟩

/-- Whether an ordering of a query comes to some rows in another order, and both sum a field of
integers, each in its own order: to the same unless the integers and the totals on the way are all
of the type of the result in just one of the two orders. -/
structure SumsSorted (Total : Type) [Numeric Total] [WholeTotal Total] (query ordered : Query Label)
    (text : String) (path : Path) (rows sorted : List (Row Label)) : Prop where
  ran : ordered.materialize = .ok sorted
  perm : sorted.Perm rows
  before : query.AddsInOrder Total text path rows
  after : ordered.AddsInOrder Total text path sorted
  same_iff : ordered.sum Total text = query.sum Total text ↔
    (AddsUp Total 0 (path.integersOn sorted) ↔ AddsUp Total 0 (path.integersOn rows))
  settled : Settled Total (path.integersOn rows) → ordered.sum Total text = query.sum Total text

/-- Two queries that come to the same rows in different orders sum them alike. -/
theorem HoldsIntegers.sumsSorted {sorted : List (Row Label)}
    (holds : query.HoldsIntegers Set.univ text path rows)
    (holdsToo : ordered.HoldsIntegers Set.univ text path sorted) (exchanged : sorted.Perm rows) :
    query.SumsSorted Total ordered text path rows sorted := by
  have before : query.AddsInOrder Total text path rows := holds.addsInOrder
  have after : ordered.AddsInOrder Total text path sorted := holdsToo.addsInOrder
  have integers : (path.integersOn sorted).Perm (path.integersOn rows) := exchanged.filterMap _
  have same : ordered.sum Total text = query.sum Total text ↔
      (AddsUp Total 0 (path.integersOn sorted) ↔ AddsUp Total 0 (path.integersOn rows)) := by
    obtain ⟨first, sums, summed⟩ := before
    obtain ⟨second, again, summedToo⟩ := after
    rw [← sums.eq_iff again integers.sum_eq, summed, summedToo]
    exact ⟨mapError_injective QueryError.evaluation.inj, congrArg _⟩
  exact ⟨holdsToo.ran, exchanged, before, after, same,
    fun settled => same.mpr (addsUp_perm_of_settled settled integers)⟩

/-- A query and what a chain of orderings makes of it come to the same sum of a field of integers,
or to the same fault, unless the integers and the totals on the way are all of the type of the
result in just one of the two orders. Then that order comes to the exact sum and the other one
overflows. None of this happens where the bounds of the type settle whether the integers add
up. -/
theorem sum_of_chain {chain : List Call} (isChain : Call.IsChain chain)
    (made : query.callAll chain = .ok ordered) (resolved : query.schema.resolve text = .ok path)
    (isInteger : path.kind = .int) :
    (∀ fault, query.materialize = .error fault →
        query.sum Total text = .error fault ∧ ordered.sum Total text = .error fault) ∧
      ∀ rows, query.materialize = .ok rows →
        (∀ row ∈ rows, path.LeadsWithin Set.univ row.record) →
          ∃ sorted, query.SumsSorted Total ordered text path rows sorted := by
  obtain ⟨sameSchema, keys, sorts⟩ := materialize_of_chain isChain made
  have resolvedToo : ordered.schema.resolve text = .ok path := by rw [sameSchema, resolved]
  refine ⟨fun fault failed => ?_, fun rows ran within => ?_⟩
  · rw [sum_eq_bind query resolved isInteger, sum_eq_bind ordered resolvedToo isInteger, sorts,
      failed]
    exact ⟨rfl, rfl⟩
  · have exchanged := (SortKey.stablySorted_sort keys Row.record rows).perm
    have ranToo : ordered.materialize = .ok (SortKey.sort keys Row.record rows) := by
      rw [sorts, ran]
      rfl
    have withinToo : ∀ row ∈ SortKey.sort keys Row.record rows,
        path.LeadsWithin Set.univ row.record :=
      fun row member => within row (exchanged.mem_iff.mp member)
    exact ⟨_, HoldsIntegers.sumsSorted ⟨resolved, isInteger, ran, within⟩
      ⟨resolvedToo, isInteger, ranToo, withinToo⟩ exchanged⟩

end

/-- Integers of both signs that stay far from the bounds add up to the same in every order. -/
theorem sum_of_chain_of_measured :
    let query := Sample.measured [2, -5, 4]
    let ordered := query.orderedBy (SortKey.primary Sample.reading .ascending)
    Call.IsChain [.orderBy "Reading" .ascending] ∧
      query.callAll [.orderBy "Reading" .ascending] = .ok ordered ∧
        query.schema.resolve "Reading" = .ok Sample.reading ∧ Sample.reading.kind = .int ∧
          (∃ rows, query.materialize = .ok rows ∧
            ∀ row ∈ rows, Sample.reading.LeadsWithin Set.univ row.record) ∧
            ordered.sum Int32 "Reading" = query.sum Int32 "Reading" := by
  intro query ordered
  have isChain : Call.IsChain [.orderBy "Reading" .ascending] := ⟨rfl, List.forall_mem_nil _⟩
  have made : query.callAll [.orderBy "Reading" .ascending] = .ok ordered := rfl
  have resolved : query.schema.resolve "Reading" = .ok Sample.reading := rfl
  have within : ∀ row ∈ query.source.dataset.rows, Sample.reading.LeadsWithin Set.univ row.record :=
    List.forall_mem_map.mpr fun _ _ => .int (Set.mem_univ _)
  refine ⟨isChain, made, resolved, rfl, ⟨_, rfl, within⟩, ?_⟩
  obtain ⟨sorted, sums⟩ : ∃ sorted,
      query.SumsSorted Int32 ordered "Reading" Sample.reading query.source.dataset.rows sorted :=
    (sum_of_chain isChain made resolved rfl).2 _ rfl within
  -- Six and minus five are both within the bounds.
  exact sums.settled (.inr (.inr ⟨⟨by decide, by decide⟩, ⟨by decide, by decide⟩⟩))

/-- Not every ordering leaves a sum as it is. One after the greatest integer is too much, even if
minus one comes next. Sorted, these three come to the greatest integer. -/
theorem not_sum_of_ordered_eq :
    ¬ ∀ (readings : List Int64) (ordered : Query Int64),
      (Sample.measured readings).orderBy "Reading" .ascending = .ok ordered →
        ordered.sum Int64 "Reading" = (Sample.measured readings).sum Int64 "Reading" := by
  intro same
  have overflows : (Sample.measured [Int64.maxValue, 1, -1]).sum Int64 "Reading" =
      .error (.evaluation (.overflow "Reading")) := rfl
  have strict : (Sample.measured [-1, 1, Int64.maxValue]).source.dataset.rows.Pairwise
      fun former latter => SortKey.lexicographicOn [SortKey.primary Sample.reading .ascending]
        Row.record former latter = .lt :=
    List.pairwise_map.mpr (by decide +kernel)
  have sorts : SortKey.sort [SortKey.primary Sample.reading .ascending] Row.record
      (Sample.measured [Int64.maxValue, 1, -1]).source.dataset.rows =
        (Sample.measured [-1, 1, Int64.maxValue]).source.dataset.rows :=
    SortKey.stablySorted_iff.mp (stablySorted_of_pairwise_lt
      (List.Perm.map _ (List.reverse_perm [Int64.maxValue, 1, -1])) strict)
  have ran : ((Sample.measured [Int64.maxValue, 1, -1]).orderedBy
      (SortKey.primary Sample.reading .ascending)).materialize =
        .ok (Sample.measured [-1, 1, Int64.maxValue]).source.dataset.rows := by
    rw [← sorts]
    rfl
  have unlike := same [Int64.maxValue, 1, -1] ((Sample.measured [Int64.maxValue, 1, -1]).orderedBy
    (SortKey.primary Sample.reading .ascending)) rfl
  have total : (sumOf Sample.reading (Sample.measured [-1, 1, Int64.maxValue]).source.dataset.rows :
      Except QueryError Int64) = .ok Int64.maxValue := rfl
  rw [overflows, @sum_eq_bind _ Int64 _ _ _ Sample.reading _ rfl rfl, ran, Except.bind, total]
    at unlike
  cases unlike

end Query

end RecordQuery

/-
This file says what sums and averages make of values that are not of the kind their field is
registered with.

A sum takes the values that the type of its result can be made from, and an average takes all
numbers. The first value of another kind is reported. Before it, and without it, nothing can go
wrong but an overflow. Whole numbers are made from integers only, so their sums report every value
that is no integer. Binary numbers are made from integers and floats alike. Their sums, and all
averages, therefore do not tell whether a field of integers holds floats, or the other way round.
-/

import RecordQuery.Proofs.Constants
import RecordQuery.Proofs.SumFaults

namespace RecordQuery

open Number

/-! ### Values outside some kinds -/

/-- Whether a value is of none of some kinds. -/
def Value.OutsideOf (kinds : Kind → Bool) (value : Value) : Prop :=
  ∀ kind, kinds kind = true → kind.admits value = false

namespace Value

variable {value : Value} {kind : Kind}

/-- A value that is not of a numeric kind does not have its name. -/
theorem kindName_ne_of_admits_eq_false (numeric : kind.isNumeric = true)
    (drifted : kind.admits value = false) : value.kindName ≠ kind.toText := by
  cases kind <;> try contradiction
  all_goals cases value <;> first | contradiction | (simp only [kindName, Kind.toText]; decide)

/-- A value is outside the numeric kinds if it has no number. -/
theorem outsideOf_isNumeric_iff (notNull : value ≠ .null) :
    value.OutsideOf Kind.isNumeric ↔ value.number? = none := by
  constructor
  · intro outside
    have noInteger : Kind.int.admits value = false := outside .int rfl
    have noFloat : Kind.float.admits value = false := outside .float rfl
    cases value <;> first | rfl | contradiction
  · intro noNumber kind numeric
    cases kind <;> cases value <;> first | rfl | contradiction

theorem ne_null_of_outsideOf {kinds : Kind → Bool} (outside : value.OutsideOf kinds)
    (accepted : kinds kind = true) : value ≠ .null := by
  rintro rfl
  have drifted := outside kind accepted
  unfold Kind.admits at drifted
  contradiction

end Value

/-- A type of totals that takes all values of the kinds that it accepts, unless they are too large
for it, and no other values. -/
class KindedTotal (Total : Type) [Numeric Total] : Prop where
  isNumeric_of_accepts {kind : Kind} :
    Numeric.accepts Total kind = true → kind.isNumeric = true
  ofValue?_of_outsideOf {value : Value} :
    value.OutsideOf (Numeric.accepts Total) → (Numeric.ofValue? value : Option Total) = none
  kindName_of_tooLarge {value : Value} {kind : Kind} :
    value ≠ .null → ¬ value.OutsideOf (Numeric.accepts Total) →
      (Numeric.ofValue? value : Option Total) = none → Numeric.accepts Total kind = true →
        value.kindName = kind.toText

/-- Types of totals that accept integers only are of this sort. -/
theorem KindedTotal.of_integers {Total : Type} [Numeric Total] [IntegerTotal Total]
    (integers : ∀ kind, Numeric.accepts Total kind = decide (kind = .int)) : KindedTotal Total := by
  have only {kind : Kind} (accepted : Numeric.accepts Total kind = true) : kind = .int := by
    rw [integers] at accepted
    exact of_decide_eq_true accepted
  refine ⟨fun accepted => ?_, fun {value} outside => ?_,
    fun {value kind} notNull inside _ accepted => ?_⟩
  · rw [only accepted]
    rfl
  · have drifted : Kind.int.admits value = false := outside .int ((integers _).trans (by decide))
    refine IntegerTotal.ofValue?_eq_none ?_
    cases value <;> first | rfl | contradiction
  · obtain rfl := only accepted
    cases value with
    | null => exact absurd rfl notNull
    | int => rfl
    | _ =>
      refine absurd (fun kind accepted => ?_) inside
      rw [only accepted]
      rfl

instance : KindedTotal Int32 :=
  .of_integers fun _ => rfl

instance : KindedTotal Int64 :=
  .of_integers fun _ => rfl

instance {format : BinaryFormat} : KindedTotal (Binary format) where
  isNumeric_of_accepts accepted := accepted
  ofValue?_of_outsideOf {value} outside := by
    have numeric : Kind.isNumeric .int = true := rfl
    have noNumber := (Value.outsideOf_isNumeric_iff (Value.ne_null_of_outsideOf outside numeric)).mp
      outside
    exact Option.map_eq_none_iff.mpr noNumber
  kindName_of_tooLarge notNull inside tooLarge _ := by
    have noNumber := Option.map_eq_none_iff.mp tooLarge
    exact absurd ((Value.outsideOf_isNumeric_iff notNull).mpr noNumber) inside

/-! ### Records that lead outside -/

namespace Path

variable {path : Path} {kinds : Kind → Bool} {kind : Kind} {record : Record}
  {records before : List Record} {value : Value}

/-- Whether a path leads to a value outside some kinds. Null is no such value. -/
def LeadsOutside (kinds : Kind → Bool) (path : Path) (record : Record) (value : Value) : Prop :=
  Aggregate.leaf? path record = some value ∧ value.OutsideOf kinds

/-- Whether a path leads outside some kinds on none of some records. -/
def StaysInside (kinds : Kind → Bool) (path : Path) (records : List Record) : Prop :=
  ∀ record ∈ records, ∀ value, ¬ path.LeadsOutside kinds record value

/-- Whether a value is the first one outside some kinds that a path leads to on some records, after
some of these. -/
def FirstOutside (kinds : Kind → Bool) (path : Path) (records before : List Record)
    (value : Value) : Prop :=
  ∃ record after, records = before ++ record :: after ∧ path.StaysInside kinds before ∧
    path.LeadsOutside kinds record value

theorem staysInside_or_firstOutside (kinds : Kind → Bool) (path : Path) (records : List Record) :
    path.StaysInside kinds records ∨
      ∃ before value, path.FirstOutside kinds records before value := by
  induction records with
  | nil => exact .inl (List.forall_mem_nil _)
  | cons record records inductionHypothesis =>
    by_cases outside : ∃ value, path.LeadsOutside kinds record value
    · obtain ⟨value, leads⟩ := outside
      exact .inr ⟨[], value, record, records, rfl, List.forall_mem_nil _, leads⟩
    · rw [not_exists] at outside
      rcases inductionHypothesis with inside | ⟨before, value, other, after, rfl, inside, leads⟩
      · exact .inl (List.forall_mem_cons.mpr ⟨outside, inside⟩)
      · exact .inr ⟨record :: before, value, other, after, rfl,
          List.forall_mem_cons.mpr ⟨outside, inside⟩, leads⟩

/-- A path as if its field were registered with another kind. -/
def registeredAs (kind : Kind) (path : Path) : Path :=
  { path with leaf := { path.leaf with hop := { path.leaf.hop with kind := kind } } }

theorem toText_registeredAs (kind : Kind) (path : Path) :
    (path.registeredAs kind).toText = path.toText := by
  simp [toText, joinNames, hops, steps, registeredAs]

/-- What a path reads as has nothing to do with the kind that its field is registered with. -/
theorem read_registeredAs (kind : Kind) (path : Path) (record : Record) :
    (path.registeredAs kind).read record = path.read record := by
  unfold read registeredAs
  induction path.through generalizing record with
  | nil => rfl
  | cons step steps inductionHypothesis =>
    unfold readThrough
    cases step.nested? record with
    | none => rfl
    | some inner => exact congrArg Slot.beyondHop (inductionHypothesis inner)

theorem leaf?_registeredAs (kind : Kind) (path : Path) (record : Record) :
    Aggregate.leaf? (path.registeredAs kind) record = Aggregate.leaf? path record := by
  rw [Aggregate.leaf?, Aggregate.leaf?, read_registeredAs]

end Path

namespace Aggregate

variable {path : Path} {kinds : Kind → Bool} {kind : Kind} {record : Record}
  {records before : List Record} {value : Value}

theorem ne_null_of_leaf? (found : leaf? path record = some value) : value ≠ .null := by
  rintro rfl
  unfold leaf? at found
  cases read : path.read record with
  | value held =>
    rw [read] at found
    cases held <;> cases found
  | present | unreachable =>
    rw [read] at found
    contradiction

/-! ### Sums -/

section

variable {Total : Type} [Numeric Total] [KindedTotal Total]

theorem numberOf_of_outsideOf (accepted : Numeric.accepts Total path.kind = true)
    (outside : value.OutsideOf (Numeric.accepts Total)) :
    (numberOf path value : Except _ Total) = .error (mismatch path value) := by
  rw [numberOf, KindedTotal.ofValue?_of_outsideOf outside]
  exact if_neg (Value.kindName_ne_of_admits_eq_false (KindedTotal.isNumeric_of_accepts accepted)
    (outside path.kind accepted))

/-- The number of a value of the accepted kinds does not depend on which of them the field is
registered with. -/
theorem numberOf_of_not_outsideOf (accepted : Numeric.accepts Total path.kind = true)
    (notNull : value ≠ .null) (inside : ¬ value.OutsideOf (Numeric.accepts Total)) :
    (numberOf path value : Except _ Total) =
      (Numeric.ofValue? value).elim (.error (.overflow path.toText)) .ok := by
  unfold numberOf
  cases held : (Numeric.ofValue? value : Option Total) with
  | some number => rfl
  | none => exact if_pos (KindedTotal.kindName_of_tooLarge notNull inside held accepted)

theorem sumFrom_of_leadsOutside (accepted : Numeric.accepts Total path.kind = true)
    (leads : path.LeadsOutside (Numeric.accepts Total) record value) (total : Total)
    (others : List Record) :
    sumFrom path total (record :: others) = .error (mismatch path value) := by
  have failed : (numberOf path value : Except _ Total) = .error (mismatch path value) :=
    numberOf_of_outsideOf accepted leads.2
  rw [sumFrom, leads.1]
  simp only [failed]

/-- The first value outside the accepted kinds ends a sum, unless the values before it do. -/
theorem sum_of_firstOutside (accepted : Numeric.accepts Total path.kind = true)
    (first : path.FirstOutside (Numeric.accepts Total) records before value) :
    (sum path records : Except _ Total) =
      (sum path before : Except _ Total).bind fun _ => .error (mismatch path value) := by
  obtain ⟨record, after, rfl, _, leads⟩ := first
  rw [sum, sumFrom_append]
  exact congrArg _ (funext fun total => sumFrom_of_leadsOutside accepted leads total after)

/-- Values of the accepted kinds only end a sum by an overflow. -/
theorem eq_overflow_of_sumFrom (accepted : Numeric.accepts Total path.kind = true)
    (inside : path.StaysInside (Numeric.accepts Total) records) {total : Total}
    {fault : EvaluationError} (failed : sumFrom path total records = .error fault) :
    fault = .overflow path.toText := by
  induction records generalizing total with
  | nil => contradiction
  | cons record records inductionHypothesis =>
    obtain ⟨first, rest⟩ := List.forall_mem_cons.mp inside
    rw [sumFrom] at failed
    cases found : leaf? path record with
    | none =>
      rw [found] at failed
      exact inductionHypothesis rest failed
    | some value =>
      have read := numberOf_of_not_outsideOf accepted (ne_null_of_leaf? found)
        fun outside => first value ⟨found, outside⟩
      simp only [found, read] at failed
      -- Either the value is too large for the type of the result, or the total with it is.
      cases held : (Numeric.ofValue? value : Option Total) with
      | none =>
        rw [held] at failed
        exact (Except.error.inj failed).symm
      | some number =>
        simp only [held, Option.elim_some] at failed
        cases next : Numeric.add? total number with
        | none =>
          rw [next] at failed
          exact (Except.error.inj failed).symm
        | some other =>
          rw [next] at failed
          exact inductionHypothesis rest failed

/-- Which of the accepted kinds the field is registered with does not count in a sum. -/
theorem sumFrom_registeredAs (accepted : Numeric.accepts Total path.kind = true)
    (other : Numeric.accepts Total kind = true)
    (inside : path.StaysInside (Numeric.accepts Total) records) (total : Total) :
    sumFrom (path.registeredAs kind) total records = sumFrom path total records := by
  induction records generalizing total with
  | nil => rfl
  | cons record records inductionHypothesis =>
    obtain ⟨first, rest⟩ := List.forall_mem_cons.mp inside
    rw [sumFrom, sumFrom, path.leaf?_registeredAs, path.toText_registeredAs]
    cases found : leaf? path record with
    | none => exact inductionHypothesis rest total
    | some value =>
      have notNull := ne_null_of_leaf? found
      have within : ¬ value.OutsideOf (Numeric.accepts Total) :=
        fun outside => first value ⟨found, outside⟩
      have read : (numberOf (path.registeredAs kind) value : Except _ Total) =
          numberOf path value := by
        rw [numberOf_of_not_outsideOf accepted notNull within,
          numberOf_of_not_outsideOf other notNull within, path.toText_registeredAs]
      simp only [read, inductionHypothesis rest]

end

/-! ### Averages -/

/-- A run over some records and others is the run over the others, begun with that over the
first. -/
theorem runFrom_append (path : Path) (running : Running) (records others : List Record) :
    runFrom path running (records ++ others) =
      (runFrom path running records).bind fun later => runFrom path later others := by
  induction records generalizing running with
  | nil => rfl
  | cons record records inductionHypothesis =>
    rw [List.cons_append, runFrom, runFrom]
    cases leaf? path record with
    | none => exact inductionHypothesis running
    | some value =>
      dsimp only
      cases value.number? with
      | none => rfl
      | some number => exact inductionHypothesis _

theorem runFrom_of_leadsOutside (leads : path.LeadsOutside Kind.isNumeric record value)
    (running : Running) (others : List Record) :
    runFrom path running (record :: others) = .error (mismatch path value) := by
  have noNumber := (Value.outsideOf_isNumeric_iff (ne_null_of_leaf? leads.1)).mp leads.2
  rw [runFrom, leads.1]
  simp only [noNumber]

/-- Numbers never end a run, and the kind that the field is registered with does not count in it. -/
theorem exists_runFrom_of_staysInside (inside : path.StaysInside Kind.isNumeric records)
    (running : Running) :
    ∃ later, runFrom path running records = .ok later ∧
      ∀ kind, runFrom (path.registeredAs kind) running records = .ok later := by
  induction records generalizing running with
  | nil => exact ⟨running, rfl, fun _ => rfl⟩
  | cons record records inductionHypothesis =>
    obtain ⟨first, rest⟩ := List.forall_mem_cons.mp inside
    simp only [runFrom, Path.leaf?_registeredAs]
    cases found : leaf? path record with
    | none => exact inductionHypothesis rest running
    | some value =>
      have within : ¬ value.OutsideOf Kind.isNumeric := fun outside => first value ⟨found, outside⟩
      rw [Value.outsideOf_isNumeric_iff (ne_null_of_leaf? found)] at within
      obtain ⟨number, held⟩ := Option.ne_none_iff_exists'.mp within
      simp only [held]
      exact inductionHypothesis rest _

section

variable {Total : Type} [Numeric Total]

/-- The first value that is no number ends an average, whatever comes before it. -/
theorem average_of_firstOutside (first : path.FirstOutside Kind.isNumeric records before value) :
    (average path records : Except _ (Option Total)) = .error (mismatch path value) := by
  obtain ⟨record, after, rfl, inside, leads⟩ := first
  obtain ⟨later, ran, _⟩ := exists_runFrom_of_staysInside inside {}
  have failed : runFrom path {} (before ++ record :: after) = .error (mismatch path value) := by
    rw [runFrom_append, ran]
    exact runFrom_of_leadsOutside leads later after
  simp only [average, failed]

/-- Numbers only end an average by an overflow. -/
theorem eq_overflow_of_average (inside : path.StaysInside Kind.isNumeric records)
    {fault : EvaluationError} (failed : (average path records : Except _ (Option Total)) =
      .error fault) : fault = .overflow path.toText := by
  obtain ⟨later, ran, _⟩ := exists_runFrom_of_staysInside inside {}
  simp only [average, ran] at failed
  split at failed
  · contradiction
  · split at failed
    · contradiction
    · exact (Except.error.inj failed).symm

/-- Which kind the field is registered with does not count in an average. -/
theorem average_registeredAs (inside : path.StaysInside Kind.isNumeric records) (kind : Kind) :
    (average (path.registeredAs kind) records : Except _ (Option Total)) =
      average path records := by
  obtain ⟨later, ran, same⟩ := exists_runFrom_of_staysInside inside {}
  simp only [average, ran, same, path.toText_registeredAs]

end

/-! ### What is reported and what is not -/

/-- Whether a fold reports the first value outside some kinds once it has passed the records before
it. Where there is no such value, it should fail by nothing but an overflow, and not depend on which
of these kinds its field is registered with. -/
structure ReportsOutside {Result Passed : Type} (kinds : Kind → Bool) (path : Path)
    (passes : List Record → Except EvaluationError Passed)
    (fold : Path → List Record → Except EvaluationError Result) : Prop where
  outside : ∀ {records before value}, path.FirstOutside kinds records before value →
    fold path records = (passes before).bind fun _ => .error (mismatch path value)
  inside : ∀ {records fault}, path.StaysInside kinds records → fold path records = .error fault →
    fault = .overflow path.toText
  alike : ∀ {records kind}, path.StaysInside kinds records → kinds kind = true →
    fold (path.registeredAs kind) records = fold path records

/-- A sum reports the first value that is outside the kinds which the type of the result accepts,
unless the values before it overflow. An average reports the first value that has no number, in any
case. Where the type accepts no kind but that of the field, a sum so reports all that is not of that
kind. But what drifts among the kinds that are accepted, or among numbers in an average, is not
reported: the result is that of a field which is registered with the other kind. -/
theorem reports_outside {Total : Type} [Numeric Total] [KindedTotal Total] {schema : Schema}
    {text : String} {path : Path} (accepted : numericPath Total schema text = .ok path) :
    ReportsOutside (Numeric.accepts Total) path (@sum Total _ path) (@sum Total _) ∧
      ReportsOutside Kind.isNumeric path (fun _ => .ok ()) (@average Total _) ∧
      (∀ kinds records, path.StaysInside kinds records ∨
        ∃ before value, path.FirstOutside kinds records before value) ∧
      ∀ value : Value, value ≠ .null →
        (value.OutsideOf Kind.isNumeric ↔ value.number? = none) ∧
        (value.OutsideOf (Numeric.accepts Total) → path.kind.admits value = false) ∧
        ((∀ kind, Numeric.accepts Total kind = true → kind = path.kind) →
          path.kind.admits value = false → value.OutsideOf (Numeric.accepts Total)) := by
  have accepts : Numeric.accepts Total path.kind = true :=
    (Schema.resolveSuited_eq_ok_iff.mp accepted).2
  refine ⟨⟨sum_of_firstOutside accepts, ?_, ?_⟩, ⟨average_of_firstOutside, ?_, ?_⟩,
    fun kinds => path.staysInside_or_firstOutside kinds,
    fun value notNull => ⟨Value.outsideOf_isNumeric_iff notNull, ?_, ?_⟩⟩
  · exact fun inside => eq_overflow_of_sumFrom accepts inside
  · exact fun inside other => sumFrom_registeredAs accepts other inside _
  · exact fun inside => eq_overflow_of_average inside
  · exact fun inside _ => average_registeredAs inside _
  · exact fun outside => outside path.kind accepts
  · intro only drifted kind taken
    rw [only kind taken]
    exact drifted

end Aggregate

/-- The text among these records is reported by a sum of 64 bits and by an average of 32 bits. A sum
of 32 bits overflows before it comes to the text. -/
theorem Aggregate.reports_outside_of_drifting :
    let records := Sample.drifting.map Row.record
    numericPath Int64 (Sample.measured []).schema "Reading" = .ok Sample.reading ∧
      numericPath Int32 (Sample.measured []).schema "Reading" = .ok Sample.reading ∧
      (sum Sample.reading records : Except _ Int64) =
        .error (.kindMismatch "Reading" .int "text") ∧
      (sum Sample.reading records : Except _ Int32) = .error (.overflow "Reading") ∧
      (average Sample.reading records : Except _ (Option Int32)) =
        .error (.kindMismatch "Reading" .int "text") := by
  intro records
  have wide : numericPath Int64 (Sample.measured []).schema "Reading" = .ok Sample.reading := rfl
  have narrow : numericPath Int32 (Sample.measured []).schema "Reading" = .ok Sample.reading := rfl
  have first {kinds : Kind → Bool} (integers : kinds .int = true)
      (outside : (Value.text "seven").OutsideOf kinds) :
      Sample.reading.FirstOutside kinds records (records.take 3) (.text "seven") := by
    have inside {record : Record} {number : Int64}
        (found : leaf? Sample.reading record = some (.int number)) (value : Value) :
        ¬ Sample.reading.LeadsOutside kinds record value := by
      rintro ⟨foundToo, beyond⟩
      obtain rfl := Option.some.inj (found.symm.trans foundToo)
      have drifted := beyond .int integers
      contradiction
    have nothing (value : Value) : ¬ Sample.reading.LeadsOutside kinds [.value .null] value := by
      rintro ⟨found, _⟩
      contradiction
    refine ⟨[.value (.text "seven")], [], rfl, ?_, rfl, outside⟩
    exact List.forall_mem_cons.mpr ⟨inside rfl, List.forall_mem_cons.mpr ⟨nothing,
      List.forall_mem_singleton.mpr (inside rfl)⟩⟩
  obtain ⟨sums, _⟩ := reports_outside wide
  obtain ⟨_, averages, _⟩ := reports_outside narrow
  refine ⟨wide, narrow, ?_, rfl, ?_⟩
  · refine (sums.outside (first rfl fun kind taken => ?_)).trans rfl
    rw [of_decide_eq_true taken]
    rfl
  · have noNumber : (Value.text "seven").OutsideOf Kind.isNumeric :=
      (Value.outsideOf_isNumeric_iff Value.noConfusion).mpr rfl
    exact averages.outside (first rfl noNumber)

/-- An average of integers may come out although there is a float among them. -/
theorem Aggregate.not_all_drift_reported :
    ¬ ∀ (schema : Schema) (text : String) (path : Path) (records : List Record),
      numericPath Int64 schema text = .ok path →
        (∃ record ∈ records, ∃ value, leaf? path record = some value ∧
          path.kind.admits value = false) →
        ∃ fault, (average path records : Except _ (Option Int64)) = .error fault := by
  intro reported
  have accepted : numericPath Int64 (Sample.measured []).schema "Reading" = .ok Sample.reading :=
    rfl
  obtain ⟨fault, failed⟩ := reported _ _ _ [[.value (.float 1)]] accepted
    ⟨_, List.mem_cons_self, _, rfl, rfl⟩
  have averaged : (average Sample.reading [[.value (.float 1)]] : Except _ (Option Int64)) =
      .ok (some 1) := by
    decide +kernel
  rw [averaged] at failed
  contradiction

end RecordQuery

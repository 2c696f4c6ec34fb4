/-
This file says for which integers sorting follows their exact order.

Filters compare two integers as they are. Sorting compares all numbers as doubles, integers with
integers too. So integers that are rounded to the same double are level: the one that came first
stays first, and a refinement may exchange the two. Rounding keeps the order of integers, so that
this is all that can go wrong: sorting is exact on just those sets of integers of which no two are
rounded to the same double. Integers of at most two to the power of fifty-three make up such a set.
-/

import Mathlib.Data.List.Perm.Basic
import RecordQuery.Proofs.Comparing
import RecordQuery.Proofs.Replay
import RecordQuery.Proofs.Rounding

namespace RecordQuery

open Number

variable {Label : Type} {numbers : Set Int64}

/-! ### Integers at the end of a path -/

/-- The integer that a value is, if it is one. -/
def Value.integer? : Value → Option Int64
  | int number => some number
  | _ => none

/-- Whether a value is null or one of some integers. -/
inductive Value.Within (numbers : Set Int64) : Value → Prop where
  | null : Within numbers .null
  | int {number : Int64} (member : number ∈ numbers) : Within numbers (.int number)

namespace Path

/-- The integer that a path leads to on a record, if it leads to one. -/
def integerOn (path : Path) (record : Record) : Option Int64 :=
  (path.read record).valueOrNull.integer?

/-- Whether a path leads to null or to one of some integers on a record. What is out of reach is
null. -/
def LeadsWithin (path : Path) (numbers : Set Int64) (record : Record) : Prop :=
  (path.read record).valueOrNull.Within numbers

end Path

/-- Whether a place that may be missing does not come after another. Missing ones come first. -/
def NotAfter : Option Int → Option Int → Prop
  | none, _ => True
  | some _, none => False
  | some former, some latter => former ≤ latter

/-- Whether one place that may be missing can stand before another in a direction. -/
def Direction.InOrder : Direction → Option Int → Option Int → Prop
  | ascending, former, latter => NotAfter former latter
  | descending, former, latter => NotAfter latter former

theorem NotAfter.antisymm {former latter : Option Int} (forth : NotAfter former latter)
    (back : NotAfter latter former) : former = latter := by
  cases former with
  | none =>
    cases latter with
    | none => rfl
    | some latter => exact back.elim
  | some former =>
    cases latter with
    | none => exact forth.elim
    | some latter => exact congrArg some (Int.le_antisymm forth back)

theorem Direction.InOrder.antisymm {direction : Direction} {former latter : Option Int}
    (forth : direction.InOrder former latter) (back : direction.InOrder latter former) :
    former = latter := by
  cases direction with
  | ascending => exact NotAfter.antisymm forth back
  | descending => exact NotAfter.antisymm back forth

/-! ### Sorting by integers -/

namespace Query

/-- Whether a text is the path to a field of integers, and a query comes to rows that have one of
some integers there, or null. -/
structure HoldsIntegers (query : Query Label) (numbers : Set Int64) (text : String) (path : Path)
    (rows : List (Row Label)) : Prop where
  resolved : query.schema.resolve text = .ok path
  isInteger : path.kind = .int
  ran : query.materialize = .ok rows
  within : ∀ row ∈ rows, path.LeadsWithin numbers row.record

/-- Whether an ordering comes to some rows in the order of their places, and whatever refines it
exchanges none but rows of the same place. -/
structure ListsBy (ordered : Query Label) (placeOf : Record → Option Int) (direction : Direction)
    (rows sorted : List (Row Label)) : Prop where
  ran : ordered.materialize = .ok sorted
  perm : sorted.Perm rows
  inOrder : (sorted.map fun row => placeOf row.record).Pairwise direction.InOrder
  refined : ∀ (calls : List Call) (last : Query Label), (∀ call ∈ calls, call.role = .refinement) →
    ordered.callAll calls = .ok last →
      ∃ resorted, last.materialize = .ok resorted ∧ resorted.Perm sorted ∧
        (resorted.map fun row => placeOf row.record) = sorted.map fun row => placeOf row.record

/-- Whether a query can be filtered by a condition and then comes to these rows. -/
def Keeps (query : Query Label) (condition : Condition) (kept : List (Row Label)) : Prop :=
  ∃ filtered, query.filterBy condition = .ok filtered ∧ filtered.materialize = .ok kept

end Query

/-- Whether a field of integers sorts rows by a place that integers have, whichever of some integers
the rows have there, if any. -/
def SortsBy (place : Int64 → Int) (numbers : Set Int64) : Prop :=
  ∀ (Label : Type) (query : Query Label) (text : String) (path : Path) (rows : List (Row Label)),
    query.HoldsIntegers numbers text path rows → ∀ direction,
      ∃ ordered sorted, query.orderBy text direction = .ok ordered ∧
        ordered.ListsBy (fun record => (path.integerOn record).map place) direction rows sorted

/-- Whether filters by a field of integers keep the rows that have a smaller integer there, or a
greater one, than the given one. -/
def FiltersBySize (numbers : Set Int64) : Prop :=
  ∀ (Label : Type) (query : Query Label) (text : String) (path : Path) (rows : List (Row Label)),
    query.HoldsIntegers numbers text path rows → ∀ number : Int64,
      query.Keeps (.compare .less text (.int number))
          (rows.filter fun row => (path.integerOn row.record).any (· < number)) ∧
        query.Keeps (.compare .greater text (.int number))
          (rows.filter fun row => (path.integerOn row.record).any (number < ·))

/-- The place at which integers are sorted: that of the nearest double. -/
def roundedPlace (number : Int64) : Int :=
  (wordToDouble number).rank

theorem Query.HoldsIntegers.resolveSuited {query : Query Label} {text : String} {path : Path}
    {rows : List (Row Label)} (holds : query.HoldsIntegers numbers text path rows) :
    query.schema.resolveSuited text Kind.isOrdered .notComparable = .ok path :=
  Schema.resolveSuited_of_suits holds.resolved (by rw [holds.isInteger]; rfl) _

/-! ### Orderings -/

/-- A way of giving places to some integers that agrees with how they are rounded. -/
def Agrees (place : Int64 → Int) (numbers : Set Int64) : Prop :=
  ∀ former ∈ numbers, ∀ latter ∈ numbers,
    roundedPlace former ≤ roundedPlace latter ↔ place former ≤ place latter

section

variable {place : Int64 → Int} {path : Path} {rows : List (Row Label)}

theorem Value.totalCompare_ne_gt_iff (agrees : Agrees place numbers) {left right : Value}
    (leftWithin : left.Within numbers) (rightWithin : right.Within numbers) :
    left.totalCompare right ≠ .gt ↔
      NotAfter (left.integer?.map place) (right.integer?.map place) := by
  cases leftWithin with
  | null =>
    refine iff_of_true ?_ trivial
    cases rightWithin <;> exact Ordering.noConfusion
  | int leftMember =>
    cases rightWithin with
    | null => exact iff_of_false (fun notGreater => notGreater rfl) id
    | int rightMember =>
      exact Int.compare_ne_gt.trans (agrees _ leftMember _ rightMember)

namespace SortKey

/-- The key for a field in a direction. -/
def primary (path : Path) (direction : Direction) : SortKey :=
  ⟨.field path, direction, .primary⟩

theorem compareOn_primary_ne_gt_iff (agrees : Agrees place numbers) (direction : Direction)
    {left right : Record} (leftWithin : path.LeadsWithin numbers left)
    (rightWithin : path.LeadsWithin numbers right) :
    (primary path direction).compareOn left right ≠ .gt ↔
      direction.InOrder ((path.integerOn left).map place) ((path.integerOn right).map place) := by
  cases direction with
  | ascending => exact Value.totalCompare_ne_gt_iff agrees leftWithin rightWithin
  | descending =>
    have reversed : (primary path .descending).compareOn left right =
        (path.read right).valueOrNull.totalCompare (path.read left).valueOrNull :=
      Std.OrientedCmp.eq_swap.symm
    rw [reversed]
    exact Value.totalCompare_ne_gt_iff agrees rightWithin leftWithin

/-- Whatever breaks its ties, a key for integers puts their places in order. -/
theorem pairwise_inOrder_sort (agrees : Agrees place numbers)
    (within : ∀ row ∈ rows, path.LeadsWithin numbers row.record) (direction : Direction)
    (keys : List SortKey) :
    ((sort (primary path direction :: keys) Row.record rows).map
      fun row => (path.integerOn row.record).map place).Pairwise direction.InOrder := by
  have stable := stablySorted_sort (primary path direction :: keys) Row.record rows
  rw [List.pairwise_map]
  refine stable.ordered.imp_of_mem fun {former latter} formerMember latterMember notAfter => ?_
  refine (compareOn_primary_ne_gt_iff agrees direction
    (within former (stable.perm.subset formerMember))
    (within latter (stable.perm.subset latterMember))).mp fun after => notAfter ?_
  show ((primary path direction).compareOn former.record latter.record).then _ = .gt
  rw [after]
  rfl

end SortKey

namespace Query

variable {query : Query Label}

/-- An ordering and what refines it are one sort. -/
theorem materialize_refinements {key : SortKey} {calls : List Call} {last : Query Label}
    (refining : ∀ call ∈ calls, call.role = .refinement)
    (made : (query.enact (.order key)).callAll calls = .ok last)
    (ran : query.materialize = .ok rows) :
    ∃ keys, last.materialize = .ok (SortKey.sort (key :: keys) Row.record rows) := by
  obtain ⟨effects, checked, _, rfl⟩ := callAll_eq_ok made
  obtain ⟨keys, rfl⟩ := Call.effects_of_refinements refining checked
  refine ⟨keys, ?_⟩
  rw [materialize_enact_chain, ran]
  rfl

theorem listsBy_of_agrees (agrees : Agrees place numbers) (ran : query.materialize = .ok rows)
    (within : ∀ row ∈ rows, path.LeadsWithin numbers row.record) (direction : Direction) :
    (query.enact (.order (SortKey.primary path direction))).ListsBy
      (fun record => (path.integerOn record).map place) direction rows
      (SortKey.sort [SortKey.primary path direction] Row.record rows) := by
  have inOrder := SortKey.pairwise_inOrder_sort agrees within direction
  have perm (keys : List SortKey) :=
    (SortKey.stablySorted_sort (SortKey.primary path direction :: keys) Row.record rows).perm
  refine ⟨?_, perm [], inOrder [], fun calls last refining made => ?_⟩
  · have ordered := materialize_enact_chain query (SortKey.primary path direction) []
    rw [ran] at ordered
    exact ordered
  · obtain ⟨keys, ranLast⟩ := materialize_refinements refining made ran
    have exchanged := (perm keys).trans (perm []).symm
    refine ⟨_, ranLast, exchanged, ?_⟩
    -- The places are the same and in order in both lists, so they are the same list.
    exact List.Perm.eq_of_pairwise (fun _ _ _ _ forth back => forth.antisymm back) (inOrder keys)
      (inOrder []) (exchanged.map _)

end Query

/-- A field of integers sorts rows by every place that agrees with how the integers are rounded. -/
theorem sortsBy_of_agrees (agrees : Agrees place numbers) : SortsBy place numbers := by
  intro Label query text path rows holds direction
  refine ⟨query.enact (.order (SortKey.primary path direction)), _, ?_,
    Query.listsBy_of_agrees agrees holds.ran holds.within direction⟩
  rw [Query.orderBy, SortKey.byField, holds.resolveSuited]
  rfl

end

/-! ### Filters -/

section

variable {path : Path} {record : Record} {operator : Comparison}

/-- An order holds of null and an integer in no case, and of two integers as they are. -/
theorem Comparison.ofValues_int (ordering : operator.isOrdering = true) {value : Value}
    (within : value.Within numbers) (number : Int64) :
    operator.ofValues value (.int number) =
      value.integer?.any fun integer => operator.holds (compare integer.toInt number.toInt) := by
  cases within <;> cases operator <;> first | rfl | contradiction

/-- Where a path leads to no integer, be it to null or nowhere, no order holds of it. -/
theorem Comparison.ofSlot_int (ordering : operator.isOrdering = true)
    (within : path.LeadsWithin numbers record) (number : Int64) :
    operator.ofSlot (path.read record) (.int number) =
      (path.integerOn record).any fun integer =>
        operator.holds (compare integer.toInt number.toInt) := by
  unfold Path.LeadsWithin at within
  unfold Path.integerOn
  cases read : path.read record with
  | unreachable hop => rfl
  | present => cases operator <;> rfl
  | value value =>
    rw [read] at within
    exact ofValues_int ordering within number

namespace Query

variable {query : Query Label} {text : String} {rows : List (Row Label)}

/-- A filter by the order of a field of integers keeps the rows whose integers are in that order. -/
theorem HoldsIntegers.keeps (holds : query.HoldsIntegers numbers text path rows)
    (ordering : operator.isOrdering = true) (number : Int64) :
    query.Keeps (.compare operator text (.int number))
      (rows.filter fun row => (path.integerOn row.record).any fun integer =>
        operator.holds (compare integer.toInt number.toInt)) := by
  have suited : path.kind.isOrdered = true := by rw [holds.isInteger]; rfl
  have converted : path.convertConstant (.int number) = .ok (.int number) := by
    simp only [Path.convertConstant, Path.convertTo, holds.isInteger, Value.convert?]
  obtain ⟨predicate, built, realizes⟩ :=
    Condition.compare_realizes operator holds.resolved (fun _ => suited) converted
  refine ⟨query.filter predicate, map_eq_ok_iff.mpr ⟨predicate, built, rfl⟩, ?_⟩
  rw [materialize_filter_of_realizes realizes holds.ran]
  refine congrArg Except.ok (List.filter_congr fun row member => ?_)
  exact Comparison.ofSlot_int ordering (holds.within row member) number

end Query

end

theorem Comparison.less_holds_compare (integer number : Int64) :
    Comparison.less.holds (compare integer.toInt number.toInt) = decide (integer < number) := by
  rw [Bool.eq_iff_iff, decide_eq_true_iff, Int64.lt_iff_toInt_lt, ← Int.compare_eq_lt]
  exact beq_iff_eq

theorem Comparison.greater_holds_compare (integer number : Int64) :
    Comparison.greater.holds (compare integer.toInt number.toInt) = decide (number < integer) := by
  rw [Bool.eq_iff_iff, decide_eq_true_iff, Int64.lt_iff_toInt_lt, ← Int.compare_eq_gt]
  exact beq_iff_eq

/-- Filters compare integers as they are, whatever they are rounded to. -/
theorem filtersBySize (numbers : Set Int64) : FiltersBySize numbers := by
  intro Label query text path rows holds number
  constructor
  · have kept := holds.keeps (show Comparison.less.isOrdering = true from rfl) number
    simpa only [Comparison.less_holds_compare] using kept
  · have kept := holds.keeps (show Comparison.greater.isOrdering = true from rfl) number
    simpa only [Comparison.greater_holds_compare] using kept

/-! ### Which integers are sorted exactly -/

/-- Integers that are rounded apart are sorted by their size. -/
theorem sortsBy_toInt_of_injOn (apart : numbers.InjOn wordToDouble) :
    SortsBy Int64.toInt numbers := by
  refine sortsBy_of_agrees fun former formerMember latter latterMember => ?_
  exact (rank_wordToDouble_le_iff apart formerMember latterMember).trans Int64.le_iff_toInt_le

/-- Records of one integer each. -/
def Sample.measured (readings : List Int64) : Query Int64 :=
  .ofDataset
    { schema := ⟨[⟨"Measurement", [⟨"Reading", false, .scalar .int⟩]⟩]⟩
      rows := readings.map fun reading => ⟨reading, [.value (.int reading)]⟩ }

/-- The path to the integer. -/
def Sample.reading : Path :=
  ⟨[], ⟨⟨"Reading", "Measurement", false, .int⟩, 0, .scalar .int⟩⟩

/-- Two integers that are rounded to the same double are level, so that sorting leaves them as they
come. -/
theorem SortKey.sort_measured {first second : Int64}
    (same : wordToDouble first = wordToDouble second) (direction : Direction) :
    sort [primary Sample.reading direction] Row.record
        (Sample.measured [first, second]).source.dataset.rows =
      (Sample.measured [first, second]).source.dataset.rows := by
  have level : (Value.int first).totalCompare (.int second) = .eq :=
    Binary.totalCompare_eq_iff.mpr same
  refine sort_of_pairwise (List.pairwise_pair.mpr ?_)
  show (direction.apply ((Value.int first).totalCompare (.int second))).then .eq ≠ .gt
  rw [level]
  cases direction <;> exact Ordering.noConfusion

/-- Where integers are sorted by their size, two of them that are rounded to the same double are the
same, since they stay as they come in either order. -/
theorem SortsBy.injOn (sorts : SortsBy Int64.toInt numbers) : numbers.InjOn wordToDouble := by
  have inOrder : ∀ {first second : Int64}, first ∈ numbers → second ∈ numbers →
      wordToDouble first = wordToDouble second → first.toInt ≤ second.toInt := by
    intro first second member secondMember same
    have within : ∀ row ∈ (Sample.measured [first, second]).source.dataset.rows,
        Sample.reading.LeadsWithin numbers row.record :=
      List.forall_mem_cons.mpr ⟨.int member, List.forall_mem_singleton.mpr (.int secondMember)⟩
    obtain ⟨ordered, sorted, made, lists⟩ := sorts Int64 (Sample.measured [first, second])
      "reading" Sample.reading _ ⟨rfl, rfl, rfl, within⟩ .ascending
    cases made
    have stays : sorted = (Sample.measured [first, second]).source.dataset.rows :=
      (Except.ok.inj lists.ran).symm.trans (SortKey.sort_measured same .ascending)
    have listed := lists.inOrder
    rw [stays] at listed
    have pair : NotAfter (some first.toInt) (some second.toInt) := List.pairwise_pair.mp listed
    exact pair
  exact fun first member second secondMember same => Int64.toInt_inj.mp
    (Int.le_antisymm (inOrder member secondMember same) (inOrder secondMember member same.symm))

/-- Whether integers are sorted by their size, null before all of them, which is the order that
filters go by. -/
def OrdersExactly (numbers : Set Int64) : Prop :=
  SortsBy Int64.toInt numbers ∧ FiltersBySize numbers

/-- A field of integers sorts rows by the doubles nearest to the integers. That is the exact order
of those sets of integers of which no two are rounded to the same double, and of no others. Integers
of at most two to the power of fifty-three are such a set. -/
theorem ordersExactly_iff_injOn (numbers : Set Int64) :
    SortsBy roundedPlace Set.univ ∧
      (OrdersExactly numbers ↔ numbers.InjOn wordToDouble) ∧
        ((∀ number ∈ numbers, number.toInt.natAbs ≤ 2 ^ 53) → OrdersExactly numbers) := by
  have sufficient (apart : numbers.InjOn wordToDouble) : OrdersExactly numbers :=
    ⟨sortsBy_toInt_of_injOn apart, filtersBySize numbers⟩
  have rounded : Agrees roundedPlace Set.univ := fun _ _ _ _ => Iff.rfl
  exact ⟨sortsBy_of_agrees rounded, ⟨fun orders => orders.1.injOn, sufficient⟩,
    fun bounded => sufficient (injOn_wordToDouble.mono bounded)⟩

/-- All integers of at most two to the power of fifty-three are sorted exactly. -/
theorem ordersExactly_of_bounded :
    OrdersExactly {number : Int64 | number.toInt.natAbs ≤ 2 ^ 53} :=
  (ordersExactly_iff_injOn _).2.2 fun _ bounded => bounded

/-- Not all integers are sorted exactly: the one after two to the power of fifty-three is rounded to
that power. -/
theorem not_ordersExactly_univ : ¬ OrdersExactly Set.univ := by
  intro orders
  have same : (9007199254740993 : Int64) = 9007199254740992 :=
    orders.1.injOn (Set.mem_univ _) (Set.mem_univ _) wordToDouble_eq_of_odd
  contradiction

end RecordQuery

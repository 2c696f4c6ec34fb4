/-
This file proves that predicates that are the same hold of the same records.

Sameness compares the hops of paths, but not the places they read at, takes the two zeros for one
number, and goes by the instants of date-times. It is coarser than equality, and not-a-numbers are
not even the same as themselves. All the same it is a congruence: whatever a value is compared with,
it makes no difference which of several same values it is. Two resolved paths with the same hops are
equal, for the names of the hops resolve again. So predicates that are the same, part by part, come
to the same answers and the same faults, and so do their normal forms.
-/

import RecordQuery.Predicate.NormalForm
import RecordQuery.Proofs.Evaluation
import RecordQuery.Proofs.Grouping
import RecordQuery.Proofs.Resolution
import RecordQuery.Proofs.SignsOfZero

namespace RecordQuery

open Number

/-! ### Numbers and vectors -/

namespace Number.Binary

variable {format : BinaryFormat} {left right : Binary format}

/-- Equal numbers compare in the same way with every other. -/
theorem compare?_congr (level : left.numericEq right = true) (other : Binary format) :
    other.compare? left = other.compare? right := by
  obtain ⟨leftNumber, rightNumber, place⟩ := numericEq_iff.mp level
  rw [compare?, compare?, leftNumber, rightNumber, place]

theorem numericEq_congr (level : left.numericEq right = true) (other : Binary format) :
    other.numericEq left = other.numericEq right :=
  congrArg (fun order => order == some Ordering.eq) (compare?_congr level other)

end Number.Binary

namespace Value

variable {left right : Value}

theorem sameComponents_congr {lefts rights : List Single}
    (level : sameComponents lefts rights = true) (others : List Single) :
    sameComponents others lefts = sameComponents others rights := by
  induction lefts generalizing rights others with
  | nil =>
    cases rights with
    | nil => rfl
    | cons => contradiction
  | cons left lefts inductionHypothesis =>
    cases rights with
    | nil => contradiction
    | cons right rights =>
      obtain ⟨first, rest⟩ := Bool.and_eq_true_iff.mp level
      cases others with
      | nil => rfl
      | cons other others =>
        exact congrArg₂ and (Binary.numericEq_congr first other) (inductionHypothesis rest others)

/-! ### Values -/

mutual

/-- The same values are the same as those that one of them is the same as. -/
theorem same_congr {left right : Value} (level : left.same right = true) (other : Value) :
    other.same left = other.same right := by
  cases left with
  | list lefts =>
    cases right with
    | list rights =>
      cases other with
      | list others => exact sameItems_congr level others
      | _ => rfl
    | _ => contradiction
  | map lefts =>
    cases right with
    | map rights =>
      cases other with
      | map others => exact sameFields_congr level others
      | _ => rfl
    | _ => contradiction
  | vector lefts =>
    cases right with
    | vector rights =>
      cases other with
      | vector others => exact sameComponents_congr level others
      | _ => rfl
    | _ => contradiction
  | float left =>
    cases right with
    | float right =>
      cases other with
      | float other => exact Binary.numericEq_congr level other
      | _ => rfl
    | _ => contradiction
  | dateTime left =>
    cases right with
    | dateTime right =>
      have instants : left.instant = right.instant := of_decide_eq_true level
      cases other with
      | dateTime other => exact congrArg (fun instant => decide (other.instant = instant)) instants
      | _ => rfl
    | _ => contradiction
  | null | bool | int | text | date | uuid =>
    cases right <;> first | contradiction | rfl | rw [of_decide_eq_true level]

theorem sameItems_congr {lefts rights : List Value} (level : sameItems lefts rights = true)
    (others : List Value) : sameItems others lefts = sameItems others rights := by
  cases lefts with
  | nil =>
    cases rights with
    | nil => rfl
    | cons => contradiction
  | cons left lefts =>
    cases rights with
    | nil => contradiction
    | cons right rights =>
      obtain ⟨first, rest⟩ := Bool.and_eq_true_iff.mp level
      cases others with
      | nil => rfl
      | cons other others =>
        exact congrArg₂ and (same_congr first other) (sameItems_congr rest others)

theorem sameFields_congr {lefts rights : List (String × Value)}
    (level : sameFields lefts rights = true) (others : List (String × Value)) :
    sameFields others lefts = sameFields others rights := by
  match lefts, rights, level with
  | [], [], _ => rfl
  | (leftName, left) :: lefts, (rightName, right) :: rights, level =>
    obtain ⟨first, rest⟩ := Bool.and_eq_true_iff.mp level
    obtain ⟨names, values⟩ := Bool.and_eq_true_iff.mp first
    cases others with
    | nil => rfl
    | cons other others =>
      rw [sameFields, sameFields, of_decide_eq_true names, same_congr values other.2,
        sameFields_congr rest others]

end

theorem isNull_congr (level : left.same right = true) : left.isNull = right.isNull := by
  cases left <;> cases right <;> first | contradiction | rfl

theorem looselySame_congr (level : left.same right = true) (other : Value) :
    other.looselySame left = other.looselySame right := by
  cases left with
  | int left =>
    cases right with
    | int right => rw [of_decide_eq_true level]
    | _ => contradiction
  | float left =>
    cases right with
    | float right =>
      cases other with
      | int other => exact Binary.numericEq_congr level (wordToDouble other)
      | _ => exact same_congr level _
    | _ => contradiction
  | _ =>
    cases right <;> first | contradiction | (cases other <;> exact same_congr level _)

/-- The same values are in the same order with every other. -/
theorem compare?_congr (level : left.same right = true) (other : Value) :
    other.compare? left = other.compare? right := by
  cases left with
  | float left =>
    cases right with
    | float right =>
      cases other with
      | int other => exact Binary.compare?_congr level (wordToDouble other)
      | float other => exact Binary.compare?_congr level other
      | _ => rfl
    | _ => contradiction
  | dateTime left =>
    cases right with
    | dateTime right =>
      have instants : left.instant = right.instant := of_decide_eq_true level
      cases other with
      | dateTime other =>
        exact congrArg (fun instant => some (compare other.instant instant)) instants
      | _ => rfl
    | _ => contradiction
  | null | vector | list | map =>
    cases right <;> first | contradiction | (cases other <;> rfl)
  | bool | int | text | date | uuid =>
    cases right <;> first | contradiction | rw [of_decide_eq_true level]

end Value

/-- Operators do not tell the same constants apart. -/
theorem Comparison.ofSlot_congr {left right : Value} (level : left.same right = true)
    (operator : Comparison) (slot : Slot) :
    operator.ofSlot slot left = operator.ofSlot slot right := by
  cases slot with
  | value value =>
    show operator.ofValues value left = operator.ofValues value right
    unfold ofValues
    rw [Value.isNull_congr level, Value.looselySame_congr level, Value.compare?_congr level]
  | present =>
    show (decide (operator = notEqual) && left.isNull) = _
    rw [Value.isNull_congr level]
    rfl
  | unreachable hop => rfl

theorem KeySet.contains_congr {lefts rights : KeySet} (level : lefts.same rights = true)
    (key : Key) : lefts.contains key = rights.contains key := by
  induction lefts generalizing rights with
  | nil =>
    cases rights with
    | nil => rfl
    | cons => contradiction
  | cons left lefts inductionHypothesis =>
    cases rights with
    | nil => contradiction
    | cons right rights =>
      obtain ⟨first, rest⟩ := Bool.and_eq_true_iff.mp level
      exact congrArg₂ or (Key.same_congr first key) (inductionHypothesis rest)

/-! ### Paths and operands -/

/-- Resolved paths with the same hops are equal. -/
theorem Schema.eq_of_same {schema : Schema} {left right : Path} {leftText rightText : String}
    (leftResolved : schema.resolve leftText = .ok left)
    (rightResolved : schema.resolve rightText = .ok right) (same : left.same right = true) :
    left = right := by
  have hops : left.hops = right.hops := of_decide_eq_true same
  have leftAgain := schema.resolve_joinNames (walks_of_resolve leftResolved)
  rw [hops, schema.resolve_joinNames (walks_of_resolve rightResolved)] at leftAgain
  exact (Except.ok.inj leftAgain).symm

theorem Operand.distanceIn_congr {query other : List Single}
    (same : Value.sameComponents query other = true) (slot : Slot) :
    distanceIn query slot = distanceIn other slot := by
  cases slot with
  | value value => exact Cosine.distance_congr same value.vector?
  | present | unreachable => rfl

/-- The same views of one path read as the same. -/
theorem Operand.evaluate_congr {left right : View} (same : left.same right = true) (path : Path)
    (record : Record) :
    (Operand.mk path left).evaluate record = (Operand.mk path right).evaluate record := by
  cases left with
  | cosine query =>
    cases right with
    | cosine other =>
      show Except.ok (Slot.value (.float (distanceIn query (path.read record)).convert)) = _
      rw [distanceIn_congr same]
      rfl
    | _ => contradiction
  | substring start length =>
    cases right with
    | substring otherStart otherLength =>
      obtain ⟨starts, lengths⟩ := Bool.and_eq_true_iff.mp same
      rw [of_decide_eq_true starts, of_decide_eq_true lengths]
    | _ => contradiction
  | field | absolute | date => cases right <;> first | contradiction | rfl

/-! ### Predicates -/

namespace Predicate

/-- The paths that a predicate reads. -/
def paths : Predicate → List Path
  | const _ => []
  | negation inner => inner.paths
  | conjunction left right | disjunction left right => left.paths ++ right.paths
  | comparison operand _ _ => [operand.path]
  | text path _ _ | member path _ | anyItem path _ => [path]

/-- Whether all paths that a predicate reads come from a schema. -/
def IsResolved (schema : Schema) (predicate : Predicate) : Prop :=
  ∀ path ∈ predicate.paths, ∃ text, schema.resolve text = .ok path

variable {schema : Schema} {left right : Predicate}

theorem eq_of_same_paths {leftPath rightPath : Path}
    (leftResolved : ∀ path ∈ [leftPath], ∃ text, schema.resolve text = .ok path)
    (rightResolved : ∀ path ∈ [rightPath], ∃ text, schema.resolve text = .ok path)
    (same : leftPath.same rightPath = true) : leftPath = rightPath := by
  obtain ⟨leftText, leftResolved⟩ := leftResolved leftPath List.mem_cons_self
  obtain ⟨rightText, rightResolved⟩ := rightResolved rightPath List.mem_cons_self
  exact Schema.eq_of_same leftResolved rightResolved same

theorem hasMember_congr {keys others : KeySet} (level : keys.same others = true) :
    hasMember keys = hasMember others := by
  have contained : keys.contains = others.contains := funext (KeySet.contains_congr level)
  funext slot
  cases slot with
  | value value => exact congrArg (Option.any · (Key.ofValue? value)) contained
  | present | unreachable => rfl

theorem hasItem_congr {value other : Value} (level : value.same other = true) :
    hasItem value = hasItem other := by
  have alike : (fun item : Value => item.looselySame value) = fun item => item.looselySame other :=
    funext (Value.looselySame_congr level)
  funext slot
  cases slot with
  | value held =>
    cases held with
    | list items => exact congrArg items.any alike
    | _ => rfl
  | present | unreachable => rfl

/-- The same predicates come to the same on every record, answers and faults alike. -/
theorem evaluate_congr (leftResolved : left.IsResolved schema)
    (rightResolved : right.IsResolved schema) (same : left.same right = true) (record : Record) :
    left.evaluate record = right.evaluate record := by
  induction left generalizing right with
  | const value =>
    cases right with
    | const other => rw [of_decide_eq_true same]
    | _ => contradiction
  | negation inner inductionHypothesis =>
    cases right with
    | negation other =>
      rw [evaluate_negation, evaluate_negation,
        @inductionHypothesis other leftResolved rightResolved same]
    | _ => contradiction
  | conjunction left left' leftHypothesis rightHypothesis =>
    cases right with
    | conjunction right right' =>
      obtain ⟨firsts, seconds⟩ := Bool.and_eq_true_iff.mp same
      obtain ⟨leftFirst, leftSecond⟩ := List.forall_mem_append.mp leftResolved
      obtain ⟨rightFirst, rightSecond⟩ := List.forall_mem_append.mp rightResolved
      rw [evaluate_conjunction, evaluate_conjunction, leftHypothesis leftFirst rightFirst firsts,
        rightHypothesis leftSecond rightSecond seconds]
    | _ => contradiction
  | disjunction left left' leftHypothesis rightHypothesis =>
    cases right with
    | disjunction right right' =>
      obtain ⟨firsts, seconds⟩ := Bool.and_eq_true_iff.mp same
      obtain ⟨leftFirst, leftSecond⟩ := List.forall_mem_append.mp leftResolved
      obtain ⟨rightFirst, rightSecond⟩ := List.forall_mem_append.mp rightResolved
      rw [evaluate_disjunction, evaluate_disjunction, leftHypothesis leftFirst rightFirst firsts,
        rightHypothesis leftSecond rightSecond seconds]
    | _ => contradiction
  | comparison operand operator value =>
    cases right with
    | comparison other otherOperator otherValue =>
      obtain ⟨leftSides, values⟩ := Bool.and_eq_true_iff.mp same
      obtain ⟨operands, operators⟩ := Bool.and_eq_true_iff.mp leftSides
      obtain ⟨views, paths⟩ := Bool.and_eq_true_iff.mp operands
      obtain ⟨path, view⟩ := operand
      obtain ⟨otherPath, otherView⟩ := other
      obtain rfl : path = otherPath := eq_of_same_paths leftResolved rightResolved paths
      obtain rfl : operator = otherOperator := of_decide_eq_true operators
      rw [evaluate, evaluate, Operand.evaluate_congr views]
      exact congrArg (Except.map · _) (funext fun slot => Comparison.ofSlot_congr values _ slot)
    | _ => contradiction
  | text path test needle =>
    cases right with
    | text otherPath otherTest otherNeedle =>
      obtain ⟨tests, needles⟩ := Bool.and_eq_true_iff.mp same
      obtain ⟨paths, tests⟩ := Bool.and_eq_true_iff.mp tests
      rw [eq_of_same_paths leftResolved rightResolved paths, of_decide_eq_true tests,
        of_decide_eq_true needles]
    | _ => contradiction
  | member path keys =>
    cases right with
    | member otherPath otherKeys =>
      obtain ⟨paths, sets⟩ := Bool.and_eq_true_iff.mp same
      rw [evaluate, evaluate, hasMember_congr sets,
        eq_of_same_paths leftResolved rightResolved paths]
    | _ => contradiction
  | anyItem path value =>
    cases right with
    | anyItem otherPath otherValue =>
      obtain ⟨paths, values⟩ := Bool.and_eq_true_iff.mp same
      rw [evaluate, evaluate, hasItem_congr values,
        eq_of_same_paths leftResolved rightResolved paths]
    | _ => contradiction

/-- Normal forms of the same predicates are the same, in either polarity. -/
theorem normalize_congr (same : left.same right = true) :
    left.normalize.same right.normalize = true ∧ left.negated.same right.negated = true := by
  induction left generalizing right with
  | const value =>
    cases right with
    | const other =>
      rw [of_decide_eq_true same]
      exact ⟨decide_eq_true rfl, decide_eq_true rfl⟩
    | _ => contradiction
  | negation inner inductionHypothesis =>
    cases right with
    | negation other => exact (inductionHypothesis same).symm
    | _ => contradiction
  | conjunction left left' leftHypothesis rightHypothesis
  | disjunction left left' leftHypothesis rightHypothesis =>
    cases right <;> try contradiction
    obtain ⟨firsts, seconds⟩ := Bool.and_eq_true_iff.mp same
    obtain ⟨firstNormal, firstNegated⟩ := leftHypothesis firsts
    obtain ⟨secondNormal, secondNegated⟩ := rightHypothesis seconds
    exact ⟨Bool.and_eq_true_iff.mpr ⟨firstNormal, secondNormal⟩,
      Bool.and_eq_true_iff.mpr ⟨firstNegated, secondNegated⟩⟩
  | comparison operand operator value =>
    cases right with
    | comparison other otherOperator otherValue =>
      obtain ⟨leftSides, values⟩ := Bool.and_eq_true_iff.mp same
      obtain ⟨operands, operators⟩ := Bool.and_eq_true_iff.mp leftSides
      have opposites : operator.negate = otherOperator.negate :=
        congrArg Comparison.negate (of_decide_eq_true operators)
      exact ⟨same, Bool.and_eq_true_iff.mpr ⟨Bool.and_eq_true_iff.mpr
        ⟨operands, decide_eq_true opposites⟩, values⟩⟩
    | _ => contradiction
  | text | member | anyItem => cases right <;> first | contradiction | exact ⟨same, same⟩

/-- Resolved predicates that are the same have the same answer, or the same fault, on every record,
and their normal forms are the same. -/
theorem same_predicates_hold_alike (leftResolved : left.IsResolved schema)
    (rightResolved : right.IsResolved schema) (same : left.same right = true) :
    (∀ record, left.evaluate record = right.evaluate record) ∧
      left.normalize.same right.normalize = true :=
  ⟨evaluate_congr leftResolved rightResolved same, (normalize_congr same).1⟩

end Predicate

/-- Readings with a level, the times they are marked at and a place, each of which may follow
another. -/
def Sample.readings : Schema :=
  ⟨[⟨"Reading", [⟨"Level", false, .scalar .float⟩, ⟨"Marks", false, .scalar (.list .dateTime)⟩,
    ⟨"Place", false, .scalar .vector⟩, ⟨"Previous", true, .record 0⟩]⟩]⟩

/-- The path to a field of a reading or of the one before it. -/
def Sample.readingPath (earlier : Bool) (name : String) (place : Nat) (kind : Kind) : Path :=
  ⟨if earlier then [⟨⟨"Previous", "Reading", true, .record "Reading"⟩, 3, .record 0⟩] else [],
    ⟨⟨name, "Reading", false, kind⟩, place, .scalar kind⟩⟩

/-- Whether a reading has a level above a zero and the direction of a place, or the one before it is
marked at a time. -/
def Sample.marked (zero : Double) (component : Single) (time : Calendar.DateTime) : Predicate :=
  .disjunction
    (.negation (.disjunction
      (.comparison ⟨readingPath false "Level" 0 .float, .field⟩ .lessOrEqual (.float zero))
      (.comparison ⟨readingPath false "Place" 2 .vector, .cosine [1, component]⟩ .greater
        (.float zero))))
    (.anyItem (readingPath true "Marks" 1 (.list .dateTime)) (.dateTime time))

/-- Neither the signs of zeros nor the clocks that show a time make a difference, whether there is
an answer or a fault. -/
theorem Predicate.same_predicates_hold_alike_of_marked :
    let noon : Calendar.DateTime := ⟨⟨2024, 2, 29, rfl⟩, ⟨12, 0, 0, 0, by decide, by decide,
      by decide, by decide⟩, 0, by decide⟩
    let evening : Calendar.DateTime := ⟨⟨2024, 2, 29, rfl⟩, ⟨21, 0, 0, 0, by decide, by decide,
      by decide, by decide⟩, 32400, by decide⟩
    let left := Sample.marked 0 0 noon
    let right := Sample.marked (Binary.zero true) (Binary.zero true) evening
    let start : Record := [.value (.float 0), .value .null, .value (.vector [2, 0]), .absent]
    left.same right = true ∧ left.toText ≠ right.toText ∧
      left.evaluate start = .error (.unguardedNullHop "Previous.Marks" "Previous") ∧
      (∀ record, left.evaluate record = right.evaluate record) ∧
      left.normalize.same right.normalize = true := by
  intro noon evening left right start
  have resolved (predicate : Predicate) (paths : predicate.paths = left.paths) :
      predicate.IsResolved Sample.readings := by
    rw [IsResolved, paths]
    exact List.forall_mem_cons.mpr ⟨⟨"level", rfl⟩, List.forall_mem_cons.mpr ⟨⟨"PLACE", rfl⟩,
      List.forall_mem_singleton.mpr ⟨"previous.marks", rfl⟩⟩⟩
  have same : left.same right = true := by decide +kernel
  exact ⟨same, by decide +kernel, by decide +kernel,
    same_predicates_hold_alike (resolved left rfl) (resolved right rfl) same⟩

end RecordQuery

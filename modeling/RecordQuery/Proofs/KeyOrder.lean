/-
This file proves that the order of keys is linear, with sameness as its equality.

Keys of one kind are in the order of that kind, and keys of different kinds in the order of their
kinds. So the laws of the order are those of the kinds. Only composite keys ask for more: they are
in the order of the first parts in which they differ, and that such orders are transitive rests on
parts that are level being interchangeable. Hence the first lemma: keys that are the same are in the
same order with every other key, as they are the same as the same keys.
-/

import RecordQuery.Proofs.Coherence

namespace RecordQuery

open Number Calendar

instance {format : BinaryFormat} : Std.TransCmp (@Binary.totalCompare format) :=
  inferInstanceAs (Std.TransCmp (compareOn Binary.rank))

namespace Key

variable {left right first second third : Key}

/-! ### Turning sides -/

mutual

/-- The order of two keys is turned around with its sides. -/
theorem order_swap (left right : Key) : right.order left = (left.order right).swap := by
  cases left with
  | composite lefts =>
    cases right with
    | composite rights => exact orderItems_swap lefts rights
    | _ => rfl
  | _ => cases right <;> first | rfl | (rw [order, order]; exact Std.OrientedCmp.eq_swap)

theorem orderItems_swap (lefts rights : List Key) :
    orderItems rights lefts = (orderItems lefts rights).swap := by
  cases lefts with
  | nil => cases rights <;> rfl
  | cons left lefts =>
    cases rights with
    | nil => rfl
    | cons right rights =>
      rw [orderItems, orderItems, order_swap left right, orderItems_swap lefts rights,
        Ordering.swap_then]

end

/-! ### Sameness is being level -/

mutual

/-- Keys that are the same are in the same order with all keys. -/
theorem order_congr {left right : Key} (level : left.same right = true) (other : Key) :
    left.order other = right.order other := by
  cases left with
  | composite lefts =>
    cases right with
    | composite rights =>
      cases other with
      | composite others => exact orderItems_congr level others
      | _ => rfl
    | _ => contradiction
  | dateTime left =>
    cases right with
    | dateTime right =>
      have instants : left.instant = right.instant := of_decide_eq_true level
      cases other with
      | dateTime other => exact congrArg (compare · other.instant) instants
      | _ => rfl
    | _ => contradiction
  | decimal left =>
    cases right with
    | decimal right => rw [Binary.totalCompare_eq_iff.mp (beq_iff_eq.mp level)]
    | _ => contradiction
  | null | bool | int | text | date | uuid =>
    cases right <;> first | contradiction | rfl | rw [of_decide_eq_true level]

theorem orderItems_congr {lefts rights : List Key} (level : sameItems lefts rights = true)
    (others : List Key) : orderItems lefts others = orderItems rights others := by
  cases lefts with
  | nil =>
    cases rights with
    | nil => rfl
    | cons => contradiction
  | cons left lefts =>
    cases rights with
    | nil => contradiction
    | cons right rights =>
      obtain ⟨first, rest⟩ := Bool.and_eq_true_iff.mp level
      cases others with
      | nil => rfl
      | cons other others =>
        exact congrArg₂ Ordering.then (order_congr first other) (orderItems_congr rest others)

end

/-- Every key is level with itself. -/
theorem order_self (key : Key) : key.order key = .eq := by
  have turned := order_swap key key
  cases order : key.order key with
  | eq => rfl
  | lt | gt =>
    rw [order] at turned
    contradiction

/-- Keys are level just if they are the same. -/
theorem order_eq_iff_same : left.order right = .eq ↔ left.same right = true := by
  refine ⟨same_of_order_eq, fun level => ?_⟩
  rw [order_congr level, order_self]

/-- A key is in the same order with keys that are level. -/
theorem order_congr_right (level : left.order right = .eq) (key : Key) :
    key.order left = key.order right := by
  rw [order_swap left key, order_swap right key, order_congr (order_eq_iff_same.mp level)]

/-! ### Coming before -/

/-- Across kinds the place of the kind decides. -/
theorem order_of_kindRank_ne (apart : left.kindRank ≠ right.kindRank) :
    left.order right = compare left.kindRank right.kindRank := by
  cases left <;> cases right <;> first | rfl | exact absurd rfl apart

theorem kindRank_le_of_order_lt (before : left.order right = .lt) :
    left.kindRank ≤ right.kindRank := by
  by_cases apart : left.kindRank = right.kindRank
  · exact Nat.le_of_eq apart
  · rw [order_of_kindRank_ne apart] at before
    exact Nat.le_of_lt (Nat.compare_eq_lt.mp before)

theorem order_lt_of_kindRank_lt (before : left.kindRank < right.kindRank) :
    left.order right = .lt := by
  rw [order_of_kindRank_ne (Nat.ne_of_lt before), Nat.compare_eq_lt]
  exact before

mutual

/-- What comes before a key comes before all that comes after it. -/
theorem order_lt_trans {first second third : Key} (former : first.order second = .lt)
    (latter : second.order third = .lt) : first.order third = .lt := by
  have formerRank := kindRank_le_of_order_lt former
  have latterRank := kindRank_le_of_order_lt latter
  by_cases apart : first.kindRank < third.kindRank
  · exact order_lt_of_kindRank_lt apart
  -- All three are of one kind then.
  have formerKind : first.kindRank = second.kindRank := by omega
  have latterKind : second.kindRank = third.kindRank := by omega
  cases first <;> cases second <;> simp [kindRank] at formerKind
  all_goals cases third <;> simp [kindRank] at latterKind
  case null.null.null => contradiction
  case composite.composite.composite => exact orderItems_lt_trans former latter
  all_goals
    rw [order] at former latter ⊢
    exact Std.TransCmp.lt_trans former latter

theorem orderItems_lt_trans {firsts seconds thirds : List Key}
    (former : orderItems firsts seconds = .lt) (latter : orderItems seconds thirds = .lt) :
    orderItems firsts thirds = .lt := by
  cases firsts with
  | nil =>
    cases thirds with
    | nil => cases seconds <;> contradiction
    | cons => rfl
  | cons first firsts =>
    cases seconds with
    | nil => contradiction
    | cons second seconds =>
      cases thirds with
      | nil => contradiction
      | cons third thirds =>
        rw [orderItems, Ordering.then_eq_lt] at former latter ⊢
        rcases former with former | ⟨formerLevel, formerRest⟩
        · rcases latter with latter | ⟨latterLevel, _⟩
          · exact .inl (order_lt_trans former latter)
          · exact .inl (order_congr_right latterLevel first ▸ former)
        · have congr := order_congr (order_eq_iff_same.mp formerLevel) third
          rcases latter with latter | ⟨latterLevel, latterRest⟩
          · exact .inl (congr.trans latter)
          · exact .inr ⟨congr.trans latterLevel, orderItems_lt_trans formerRest latterRest⟩

end

/-! ### Keys as elements of sets -/

instance : BEq Key where
  beq := same

theorem beq_eq_same (left right : Key) : (left == right) = left.same right :=
  rfl

instance : EquivBEq Key where
  rfl := same_refl _
  symm level := (same_comm _ _).trans level
  trans former latter := (same_congr former _).trans latter

instance : Std.LawfulBEqCmp order where
  compare_eq_iff_beq := order_eq_iff_same

instance : Std.TransCmp order where
  eq_swap := order_swap _ _
  isLE_trans {first second third} former latter := by
    cases formerOrder : first.order second with
    | gt => exact absurd former (by rw [formerOrder]; decide)
    | eq =>
      rw [order_congr (order_eq_iff_same.mp formerOrder)]
      exact latter
    | lt =>
      cases latterOrder : second.order third with
      | gt => exact absurd latter (by rw [latterOrder]; decide)
      | eq =>
        rw [← order_congr_right latterOrder]
        exact former
      | lt =>
        rw [order_lt_trans formerOrder latterOrder]
        rfl

end Key

end RecordQuery

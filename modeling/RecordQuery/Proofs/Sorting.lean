/-
This file says what a stable sort is and proves that there is only one.

A stable sort has the items of the list it is given, none before one that it should follow, and
items that are level in the order they came in. That last part is said class by class: the items
that are level with a given one are the same list before and after. Sorting by keys is the stable
sort by the first key, its ties broken by the second, and so on, each in its own direction.
-/

import RecordQuery.Proofs.ValueOrder
import RecordQuery.SortKey

namespace RecordQuery

variable {Item : Type} {order : Item → Item → Ordering} {items sorted left right : List Item}

/-- What orders the places of items orders the items. -/
theorem transCmp_on {Place : Type} (placeOf : Item → Place) (order : Place → Place → Ordering)
    [Std.TransCmp order] :
    Std.TransCmp fun left right => order (placeOf left) (placeOf right) where
  eq_swap := Std.OrientedCmp.eq_swap
  isLE_trans := Std.TransCmp.isLE_trans

/-! ### Stable sorts -/

/-- The items of a list that are level with an item. -/
def levelWith (order : Item → Item → Ordering) (item : Item) (items : List Item) : List Item :=
  items.filter fun other => order item other = .eq

/-- Whether a list is another one, sorted stably. -/
structure StablySorted (order : Item → Item → Ordering) (items sorted : List Item) : Prop where
  perm : sorted.Perm items
  ordered : sorted.Pairwise fun former latter => order former latter ≠ .gt
  stable : ∀ item, levelWith order item sorted = levelWith order item items

theorem mem_of_levelWith_eq [Std.TransCmp order] {item : Item} (member : item ∈ left)
    (classes : levelWith order item left = levelWith order item right) : item ∈ right := by
  have self : order item item = .eq := Std.ReflCmp.compare_self
  have inClass : item ∈ levelWith order item left := by simp [levelWith, member, self]
  rw [classes] at inClass
  exact (List.mem_filter.mp inClass).1

/-- No item of a sorted list comes before its head. -/
theorem isLE_of_mem_cons [Std.TransCmp order] {head item : Item} {rest : List Item}
    (ordered : (head :: rest).Pairwise fun former latter => order former latter ≠ .gt)
    (member : item ∈ head :: rest) : (order head item).isLE = true := by
  rcases List.mem_cons.mp member with rfl | member
  · exact Std.ReflCmp.isLE_rfl
  · exact Ordering.ne_gt_iff_isLE.mp (List.rel_of_pairwise_cons ordered member)

/-- A sorted list is determined by its classes. -/
theorem eq_of_levelWith_eq [Std.TransCmp order]
    (leftOrdered : left.Pairwise fun former latter => order former latter ≠ .gt)
    (rightOrdered : right.Pairwise fun former latter => order former latter ≠ .gt)
    (classes : ∀ item, levelWith order item left = levelWith order item right) :
    left = right := by
  induction left generalizing right with
  | nil =>
    cases right with
    | nil => rfl
    | cons second right =>
      exact absurd (mem_of_levelWith_eq List.mem_cons_self (classes second).symm) List.not_mem_nil
  | cons first left inductionHypothesis =>
    cases right with
    | nil =>
      exact absurd (mem_of_levelWith_eq List.mem_cons_self (classes first)) List.not_mem_nil
    | cons second right =>
      have inLeft : second ∈ first :: left :=
        mem_of_levelWith_eq List.mem_cons_self (classes second).symm
      have inRight : first ∈ second :: right :=
        mem_of_levelWith_eq List.mem_cons_self (classes first)
      have level : order first second = .eq := Std.OrientedCmp.isLE_antisymm
        (isLE_of_mem_cons leftOrdered inLeft) (isLE_of_mem_cons rightOrdered inRight)
      have self : order first first = .eq := Std.ReflCmp.compare_self
      -- Both heads come first in the class of the left one, which is the same in both lists.
      have heads : first = second := by
        have same := classes first
        simp only [levelWith, List.filter_cons, self, level, decide_true, if_true] at same
        exact (List.cons.inj same).1
      subst heads
      have tails : ∀ item, levelWith order item left = levelWith order item right := by
        intro item
        have same := classes item
        simp only [levelWith, List.filter_cons] at same ⊢
        split at same
        · exact (List.cons.inj same).2
        · exact same
      rw [inductionHypothesis leftOrdered.of_cons rightOrdered.of_cons tails]

/-- A list has only one stable sort. -/
theorem StablySorted.unique [Std.TransCmp order] (first : StablySorted order items left)
    (second : StablySorted order items right) : left = right :=
  eq_of_levelWith_eq first.ordered second.ordered fun item =>
    (first.stable item).trans (second.stable item).symm

theorem levelWith_filter (item : Item) (keep : Item → Bool) (items : List Item) :
    levelWith order item (items.filter keep) = (levelWith order item items).filter keep := by
  simp only [levelWith, List.filter_filter, Bool.and_comm]

/-- What a test keeps of a stably sorted list is the stable sort of what it keeps of the list. -/
theorem StablySorted.filter (stable : StablySorted order items sorted) (keep : Item → Bool) :
    StablySorted order (items.filter keep) (sorted.filter keep) := by
  refine ⟨stable.perm.filter keep, stable.ordered.filter keep, fun item => ?_⟩
  rw [levelWith_filter, levelWith_filter, stable.stable item]

/-- A class holds one item at most where each item stands strictly before those that follow it. -/
theorem levelWith_of_pairwise_lt [Std.TransCmp order] (item : Item)
    (strict : items.Pairwise fun former latter => order former latter = .lt) :
    levelWith order item items = [] ∨ ∃ only, levelWith order item items = [only] := by
  have level : ∀ other ∈ levelWith order item items, order item other = .eq :=
    fun other member => of_decide_eq_true (List.mem_filter.mp member).2
  have before : (levelWith order item items).Pairwise
      fun former latter => order former latter = .lt := strict.filter _
  cases found : levelWith order item items with
  | nil => exact .inl rfl
  | cons first rest =>
    cases rest with
    | nil => exact .inr ⟨first, rfl⟩
    | cons second rest =>
      rw [found] at level before
      have even : order first second = .eq := Std.TransCmp.eq_trans
        (Std.OrientedCmp.eq_symm (level first List.mem_cons_self))
        (level second (List.mem_cons_of_mem first List.mem_cons_self))
      rw [List.rel_of_pairwise_cons before List.mem_cons_self] at even
      contradiction

/-- Where there are no ties, any list in order is a stable sort. -/
theorem stablySorted_of_pairwise_lt [Std.TransCmp order] (perm : sorted.Perm items)
    (strict : sorted.Pairwise fun former latter => order former latter = .lt) :
    StablySorted order items sorted := by
  refine ⟨perm, strict.imp fun {_ _} before after => ?_, fun item => ?_⟩
  · rw [before] at after
    contradiction
  · have exchanged : (levelWith order item sorted).Perm (levelWith order item items) :=
      perm.filter _
    rcases levelWith_of_pairwise_lt item strict with none | ⟨only, single⟩
    · rw [none] at exchanged ⊢
      exact exchanged.nil_eq
    · rw [single] at exchanged ⊢
      exact List.singleton_perm.mp exchanged

/-! ### Merge sort is stable -/

theorem bne_gt_iff_isLE {first second : Item} :
    (order first second != .gt) = true ↔ (order first second).isLE = true := by
  rw [bne_iff_ne, Ne, Ordering.ne_gt_iff_isLE]

theorem bne_gt_trans [Std.TransCmp order] (first second third : Item)
    (former : (order first second != .gt) = true) (latter : (order second third != .gt) = true) :
    (order first third != .gt) = true := by
  rw [bne_gt_iff_isLE] at former latter ⊢
  exact Std.TransCmp.isLE_trans former latter

theorem bne_gt_total [Std.TransCmp order] (first second : Item) :
    ((order first second != .gt) || (order second first != .gt)) = true := by
  have swapped : order second first = (order first second).swap := Std.OrientedCmp.eq_swap
  rw [Bool.or_eq_true, bne_gt_iff_isLE, bne_gt_iff_isLE, swapped]
  cases order first second <;> simp

/-- A class is sorted as it stands, so that sorting all items leaves it as it is. -/
theorem levelWith_sublist_mergeSort [Std.TransCmp order] (item : Item) (items : List Item) :
    (levelWith order item items).Sublist
      (levelWith order item (items.mergeSort fun left right => order left right != .gt)) := by
  have classOrdered : (levelWith order item items).Pairwise
      fun former latter => (order former latter != .gt) = true := by
    refine List.pairwise_of_forall_mem_list fun former inFormer latter inLatter => ?_
    have formerLevel := of_decide_eq_true (List.mem_filter.mp inFormer).2
    have latterLevel := of_decide_eq_true (List.mem_filter.mp inLatter).2
    rw [Std.TransCmp.eq_trans (Std.OrientedCmp.eq_symm formerLevel) latterLevel]
    rfl
  have sublist :=
    List.sublist_mergeSort bne_gt_trans bne_gt_total classOrdered List.filter_sublist
  have filtered := sublist.filter fun other => decide (order item other = .eq)
  simp only [levelWith, List.filter_filter, Bool.and_self] at filtered ⊢
  exact filtered

theorem stablySorted_mergeSort [Std.TransCmp order] (items : List Item) :
    StablySorted order items (items.mergeSort fun left right => order left right != .gt) := by
  have perm := List.mergeSort_perm items fun left right => order left right != .gt
  refine ⟨perm, ?_, fun item => ?_⟩
  · have pairwise : (items.mergeSort fun left right => order left right != .gt).Pairwise
        fun former latter => (order former latter != .gt) = true :=
      List.pairwise_mergeSort bne_gt_trans bne_gt_total items
    exact pairwise.imp fun {_ _} notAfter => bne_iff_ne.mp notAfter
  · -- A class survives in the result, which has no more of it.
    have sameLength := (perm.filter fun other => decide (order item other = .eq)).length_eq
    exact ((levelWith_sublist_mergeSort item items).eq_of_length sameLength.symm).symm

/-! ### Sorting by keys -/

namespace SortKey

variable {key : SortKey} {keys : List SortKey}

instance : Std.TransCmp key.compareValues := by
  cases direction : key.direction with
  | ascending =>
    have same : key.compareValues = Value.totalCompare := by
      funext left right
      rw [compareValues, direction, Direction.apply]
    rw [same]
    infer_instance
  | descending =>
    have same : key.compareValues = fun left right => Value.totalCompare right left := by
      funext left right
      have swapped : right.totalCompare left = (left.totalCompare right).swap :=
        Std.OrientedCmp.eq_swap
      rw [compareValues, direction, Direction.apply, swapped]
    rw [same]
    infer_instance

/-- The order of two records by a key. -/
def compareOn (key : SortKey) (left right : Record) : Ordering :=
  key.compareValues (key.valueOn left) (key.valueOn right)

instance : Std.TransCmp key.compareOn :=
  transCmp_on key.valueOn key.compareValues

/-- The order of two records by several keys: that of the first key in which they are not level. -/
def lexicographic : List SortKey → Record → Record → Ordering
  | [], _, _ => .eq
  | key :: keys, left, right => (key.compareOn left right).then (lexicographic keys left right)

instance : Std.TransCmp (lexicographic keys) := by
  induction keys with
  | nil => exact { eq_swap := rfl, isLE_trans := fun _ _ => rfl }
  | cons key keys inductionHypothesis =>
    exact inferInstanceAs (Std.TransCmp (compareLex key.compareOn (lexicographic keys)))

/-- Records are compared in the same way by the values that were read for their keys. -/
theorem compareAll_valueOn (keys : List SortKey) (left right : Record) :
    compareAll keys (keys.map (·.valueOn left)) (keys.map (·.valueOn right)) =
      lexicographic keys left right := by
  induction keys with
  | nil => rfl
  | cons key keys inductionHypothesis =>
    rw [List.map_cons, List.map_cons, compareAll, inductionHypothesis]
    rfl

/-- The order of two items by the records they hold. -/
def lexicographicOn (keys : List SortKey) (recordOf : Item → Record) (left right : Item) :
    Ordering :=
  lexicographic keys (recordOf left) (recordOf right)

instance (recordOf : Item → Record) : Std.TransCmp (lexicographicOn keys recordOf) :=
  transCmp_on recordOf (lexicographic keys)

/-- Reading the keys beforehand changes nothing about the sort, nor does leaving out a sort
without keys. -/
theorem sort_eq_mergeSort (keys : List SortKey) (recordOf : Item → Record) (items : List Item) :
    sort keys recordOf items =
      items.mergeSort fun left right => lexicographicOn keys recordOf left right != .gt := by
  cases keys with
  | nil =>
    have level : items.Pairwise fun left right =>
        (lexicographicOn [] recordOf left right != .gt) = true :=
      List.pairwise_of_forall_mem_list fun _ _ _ _ => rfl
    exact (List.mergeSort_of_pairwise level).symm
  | cons key keys =>
    simp only [sort, List.isEmpty_cons, Bool.false_eq_true, if_false]
    rw [List.map_mergeSort (s := fun left right =>
      lexicographicOn (key :: keys) recordOf left right != .gt), List.map_map]
    · exact congrArg (List.mergeSort · _) (List.map_id items)
    · intro left inLeft right inRight
      obtain ⟨leftItem, _, rfl⟩ := List.mem_map.mp inLeft
      obtain ⟨rightItem, _, rfl⟩ := List.mem_map.mp inRight
      rw [compareAll_valueOn]
      rfl

/-- Sorting by keys is the stable sort by their lexicographic order. -/
theorem stablySorted_sort (keys : List SortKey) (recordOf : Item → Record) (items : List Item) :
    StablySorted (lexicographicOn keys recordOf) items (sort keys recordOf items) := by
  rw [sort_eq_mergeSort]
  exact stablySorted_mergeSort items

theorem stablySorted_iff {recordOf : Item → Record} :
    StablySorted (lexicographicOn keys recordOf) items sorted ↔
      sort keys recordOf items = sorted :=
  ⟨(stablySorted_sort keys recordOf items).unique, fun same =>
    same ▸ stablySorted_sort keys recordOf items⟩

/-- It does not matter whether items are sorted before some of them are dropped, or after. -/
theorem sort_filter (keys : List SortKey) (recordOf : Item → Record) (keep : Item → Bool)
    (items : List Item) :
    sort keys recordOf (items.filter keep) = (sort keys recordOf items).filter keep :=
  (stablySorted_sort keys recordOf (items.filter keep)).unique
    ((stablySorted_sort keys recordOf items).filter keep)

/-- Items are sorted as what they are turned into is. -/
theorem sort_map {Source : Type} (keys : List SortKey) (recordOf : Item → Record)
    (change : Source → Item) (sources : List Source) :
    sort keys recordOf (sources.map change) =
      (sort keys (fun source => recordOf (change source)) sources).map change := by
  rw [sort_eq_mergeSort, sort_eq_mergeSort]
  exact (List.map_mergeSort (f := change) fun _ _ _ _ => rfl).symm

/-- Items that are in order stay as they are. -/
theorem sort_of_pairwise {recordOf : Item → Record} (ordered : items.Pairwise
    fun former latter => lexicographicOn keys recordOf former latter ≠ .gt) :
    sort keys recordOf items = items := by
  rw [sort_eq_mergeSort]
  exact List.mergeSort_of_pairwise (ordered.imp fun {_ _} notAfter => bne_iff_ne.mpr notAfter)

end SortKey

end RecordQuery

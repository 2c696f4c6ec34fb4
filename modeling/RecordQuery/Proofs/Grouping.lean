/-
This file proves that grouping is a partition.

Sameness of keys is an equivalence. So the groups of a list stand for its classes: no two groups
have the same key, each one holds just the items with its key, in the order they came in, and every
item is in one of them. A group begins with the item that it takes its key from.
-/

import Mathlib.Algebra.Ring.Nat
import Mathlib.Data.List.Induction
import RecordQuery.Grouping

namespace RecordQuery

/-! ### Sameness of keys -/

namespace Key

mutual

theorem same_refl : ∀ key : Key, key.same key = true
  | null => rfl
  | bool _ | int _ | text _ | date _ | uuid _ | dateTime _ => decide_eq_true rfl
  | decimal _ => beq_iff_eq.mpr (Number.Binary.totalCompare_eq_iff.mpr rfl)
  | composite keys => sameItems_refl keys

theorem sameItems_refl : ∀ keys : List Key, sameItems keys keys = true
  | [] => rfl
  | key :: keys => Bool.and_eq_true_iff.mpr ⟨same_refl key, sameItems_refl keys⟩

end

mutual

/-- Keys that are the same are the same as the same keys. -/
theorem same_congr {left right : Key} (level : left.same right = true) (other : Key) :
    left.same other = right.same other := by
  cases left with
  | composite lefts =>
    cases right with
    | composite rights =>
      cases other with
      | composite others => exact sameItems_congr level others
      | _ => rfl
    | _ => contradiction
  | dateTime left =>
    cases right with
    | dateTime right =>
      have instants : left.instant = right.instant := of_decide_eq_true level
      cases other with
      | dateTime other => exact congrArg (fun instant => decide (instant = other.instant)) instants
      | _ => rfl
    | _ => contradiction
  | decimal left =>
    cases right with
    | decimal right => rw [Number.Binary.totalCompare_eq_iff.mp (beq_iff_eq.mp level)]
    | _ => contradiction
  | null | bool | int | text | date | uuid =>
    cases right <;> first | contradiction | rfl | rw [of_decide_eq_true level]

theorem sameItems_congr {lefts rights : List Key} (level : sameItems lefts rights = true)
    (others : List Key) : sameItems lefts others = sameItems rights others := by
  cases lefts with
  | nil =>
    cases rights with
    | nil => rfl
    | cons => contradiction
  | cons left lefts =>
    cases rights with
    | nil => contradiction
    | cons right rights =>
      obtain ⟨first, rest⟩ := Bool.and_eq_true_iff.mp level
      cases others with
      | nil => rfl
      | cons other others =>
        exact congrArg₂ and (same_congr first other) (sameItems_congr rest others)

end

mutual

/-- Keys are told apart by the values that show them. -/
theorem eq_of_toValue_eq {left right : Key} (shown : left.toValue = right.toValue) :
    left = right := by
  cases left with
  | composite lefts =>
    cases right with
    | composite rights => exact congrArg composite (eq_of_itemsToValues_eq (Value.list.inj shown))
    | _ => contradiction
  | _ => cases right <;> first | contradiction | (cases shown; rfl)

theorem eq_of_itemsToValues_eq {lefts rights : List Key}
    (shown : itemsToValues lefts = itemsToValues rights) : lefts = rights := by
  cases lefts with
  | nil =>
    cases rights with
    | nil => rfl
    | cons => contradiction
  | cons left lefts =>
    cases rights with
    | nil => contradiction
    | cons right rights =>
      obtain ⟨first, rest⟩ := List.cons.inj shown
      exact congrArg₂ List.cons (eq_of_toValue_eq first) (eq_of_itemsToValues_eq rest)

end

theorem same_comm (left right : Key) : left.same right = right.same left := by
  rw [Bool.eq_iff_iff]
  refine ⟨fun level => ?_, fun level => ?_⟩
  · rw [← same_congr level, same_refl]
  · rw [← same_congr level, same_refl]

end Key

/-! ### Groups -/

namespace Grouping

variable {Item : Type} {keyOf : Item → Key} {key : Key} {item : Item} {items : List Item}
  {group : Group Item} {groups : List (Group Item)}

/-- The keys of some groups. -/
def keys (groups : List (Group Item)) : List Key :=
  groups.map Group.key

/-- Whether some groups are the classes of some items: their keys are not the same, and each group
has just the items with its key and takes the key from the first of them. -/
structure Partitions (keyOf : Item → Key) (items : List Item) (groups : List (Group Item)) :
    Prop where
  apart : (keys groups).Pairwise fun former latter => former.same latter = false
  holds : ∀ group ∈ groups, group.items = items.filter fun item => group.key.same (keyOf item)
  begins : ∀ group ∈ groups, group.items.head?.map keyOf = some group.key
  covers : ∀ item ∈ items, ∃ key ∈ keys groups, key.same (keyOf item) = true

/-- An item is in the group that has its key. -/
theorem Partitions.mem_iff (partitions : Partitions keyOf items groups) (inGroups : group ∈ groups)
    (member : item ∈ items) : item ∈ group.items ↔ group.key.same (keyOf item) = true := by
  rw [partitions.holds group inGroups, List.mem_filter]
  exact and_iff_right member

/-- An item joins the group of its key, or its key is put behind the others. -/
theorem keys_addItem (key : Key) (item : Item) (groups : List (Group Item)) :
    keys (addItem key item groups) =
      if (keys groups).any (·.same key) then keys groups else keys groups ++ [key] := by
  induction groups with
  | nil => rfl
  | cons group groups inductionHypothesis =>
    rw [addItem]
    cases joins : group.key.same key with
    | true =>
      have known : (keys (group :: groups)).any (·.same key) = true :=
        List.any_eq_true.mpr ⟨group.key, List.mem_cons_self, joins⟩
      rw [if_pos known]
      rfl
    | false =>
      show group.key :: keys (addItem key item groups) =
        if (group.key.same key || (keys groups).any (·.same key)) then group.key :: keys groups
        else group.key :: (keys groups ++ [key])
      rw [inductionHypothesis, joins, Bool.false_or, apply_ite (group.key :: ·)]

theorem keys_addItem_pairwise
    (apart : (keys groups).Pairwise fun former latter => former.same latter = false) (item : Item) :
    (keys (addItem key item groups)).Pairwise fun former latter => former.same latter = false := by
  rw [keys_addItem]
  split
  · exact apart
  · rename_i fresh
    refine List.pairwise_append.mpr ⟨apart, List.pairwise_singleton _ _, fun former member => ?_⟩
    refine List.forall_mem_singleton.mpr (Bool.eq_false_iff.mpr fun level => fresh ?_)
    exact List.any_eq_true.mpr ⟨former, member, level⟩

theorem exists_mem_keys_addItem (key : Key) (item : Item) (groups : List (Group Item)) :
    (∀ former ∈ keys groups, former ∈ keys (addItem key item groups)) ∧
      ∃ former ∈ keys (addItem key item groups), former.same key = true := by
  rw [keys_addItem]
  split
  · rename_i known
    exact ⟨fun _ member => member, List.any_eq_true.mp known⟩
  · refine ⟨fun _ member => List.mem_append_left _ member, key, ?_, key.same_refl⟩
    exact List.mem_append_right _ List.mem_cons_self

theorem begins_addItem (item : Item)
    (begins : ∀ group ∈ groups, group.items.head?.map keyOf = some group.key) :
    ∀ group ∈ addItem (keyOf item) item groups, group.items.head?.map keyOf = some group.key := by
  induction groups with
  | nil => exact List.forall_mem_singleton.mpr rfl
  | cons group groups inductionHypothesis =>
    obtain ⟨first, rest⟩ := List.forall_mem_cons.mp begins
    rw [addItem]
    split
    · refine List.forall_mem_cons.mpr ⟨?_, rest⟩
      obtain ⟨head, found, same⟩ := Option.map_eq_some_iff.mp first
      show (group.items ++ [item]).head?.map keyOf = some group.key
      rw [List.head?_append, found, ← same]
      rfl
    · exact List.forall_mem_cons.mpr ⟨first, inductionHypothesis rest⟩

/-- The group that an item joins has its key, and no other group does. -/
theorem holds_addItem (item : Item)
    (apart : (keys groups).Pairwise fun former latter => former.same latter = false)
    (holds : ∀ group ∈ groups, group.items = items.filter fun item => group.key.same (keyOf item))
    (covers : ∀ former ∈ items, (keyOf item).same (keyOf former) = true →
      ∃ key ∈ keys groups, key.same (keyOf item) = true) :
    ∀ group ∈ addItem (keyOf item) item groups,
      group.items = (items ++ [item]).filter fun item => group.key.same (keyOf item) := by
  induction groups with
  | nil =>
    refine List.forall_mem_singleton.mpr ?_
    have none : items.filter (fun former => (keyOf item).same (keyOf former)) = [] := by
      refine List.filter_eq_nil_iff.mpr fun former member level => ?_
      obtain ⟨key, inEmpty, _⟩ := covers former member level
      exact List.not_mem_nil inEmpty
    rw [List.filter_append, none, List.filter_cons, if_pos (keyOf item).same_refl]
    rfl
  | cons group groups inductionHypothesis =>
    obtain ⟨first, rest⟩ := List.forall_mem_cons.mp holds
    obtain ⟨apartFirst, apart⟩ := List.pairwise_cons.mp apart
    rw [addItem]
    cases joins : group.key.same (keyOf item) with
    | true =>
      refine List.forall_mem_cons.mpr ⟨?_, fun other member => ?_⟩
      · show group.items ++ [item] = _
        rw [List.filter_append, ← first, List.filter_cons, if_pos joins]
        rfl
      · have differs : other.key.same (keyOf item) = false := by
          rw [Key.same_comm, ← Key.same_congr joins]
          exact apartFirst other.key (List.mem_map_of_mem member)
        rw [List.filter_append, ← rest other member, List.filter_cons, differs]
        exact (List.append_nil other.items).symm
    | false =>
      refine List.forall_mem_cons.mpr ⟨?_, ?_⟩
      · rw [List.filter_append, ← first, List.filter_cons, joins]
        exact (List.append_nil group.items).symm
      · refine inductionHypothesis apart rest fun former member level => ?_
        obtain ⟨key, inKeys, same⟩ := covers former member level
        rcases List.mem_cons.mp inKeys with rfl | later
        · rw [joins] at same
          contradiction
        · exact ⟨key, later, same⟩

/-- Groups that are the classes of some items, once one more item is added, are the classes of these
and that one. -/
theorem Partitions.addItem (partitions : Partitions keyOf items groups) (item : Item) :
    Partitions keyOf (items ++ [item]) (addItem (keyOf item) item groups) := by
  obtain ⟨kept, joined⟩ := exists_mem_keys_addItem (keyOf item) item groups
  refine ⟨keys_addItem_pairwise partitions.apart item, ?_, begins_addItem item partitions.begins,
    fun other member => ?_⟩
  · refine holds_addItem item partitions.apart partitions.holds fun former member level => ?_
    obtain ⟨key, inKeys, same⟩ := partitions.covers former member
    refine ⟨key, inKeys, ?_⟩
    rw [Key.same_congr same, Key.same_comm, level]
  · rcases List.mem_append.mp member with earlier | new
    · obtain ⟨key, inKeys, same⟩ := partitions.covers other earlier
      exact ⟨key, kept key inKeys, same⟩
    · rw [List.mem_singleton.mp new]
      exact joined

theorem groupBy_append_singleton (keyOf : Item → Key) (items : List Item) (item : Item) :
    groupBy keyOf (items ++ [item]) = addItem (keyOf item) item (groupBy keyOf items) := by
  rw [groupBy, List.foldl_append]
  rfl

/-- Grouping finds the classes of items by their keys. -/
theorem partitions_groupBy (keyOf : Item → Key) (items : List Item) :
    Partitions keyOf items (groupBy keyOf items) := by
  induction items using List.reverseRecOn with
  | nil =>
    exact ⟨.nil, List.forall_mem_nil _, List.forall_mem_nil _, List.forall_mem_nil _⟩
  | append_singleton items item inductionHypothesis =>
    rw [groupBy_append_singleton]
    exact inductionHypothesis.addItem item

/-! ### Sizes -/

/-- How many items some groups have together. -/
def size (groups : List (Group Item)) : Nat :=
  (groups.map fun group => group.items.length).sum

theorem size_addItem (key : Key) (item : Item) (groups : List (Group Item)) :
    size (addItem key item groups) = size groups + 1 := by
  induction groups with
  | nil => rfl
  | cons group groups inductionHypothesis =>
    rw [addItem]
    split
    · simp only [size, List.map_cons, List.sum_cons, List.length_append, List.length_singleton]
      omega
    · simp only [size, List.map_cons, List.sum_cons] at inductionHypothesis ⊢
      omega

/-- No item is lost and none is counted twice. -/
theorem size_groupBy (keyOf : Item → Key) (items : List Item) :
    size (groupBy keyOf items) = items.length := by
  induction items using List.reverseRecOn with
  | nil => rfl
  | append_singleton items item inductionHypothesis =>
    rw [groupBy_append_singleton, size_addItem, inductionHypothesis, List.length_append]
    rfl

end Grouping

end RecordQuery

/-
This file proves that groups are a stable partition, and that picking one item of each key picks the
heads of the groups.

Two scans of the items, one that fills groups and one that only remembers the keys it has seen, find
the same items: those before which no item has the same key. They are the heads of the groups, and
the groups stand in their order. So what is picked has no two items of one key, and picking again
changes nothing.
-/

import Mathlib.Data.List.Pairwise
import RecordQuery.Proofs.Grouping
import RecordQuery.Proofs.Walking

namespace RecordQuery.Grouping

variable {Item : Type} {keyOf : Item → Key} {key : Key} {item : Item} {items : List Item}
  {group : Group Item} {groups : List (Group Item)}

/-! ### First occurrences -/

/-- Whether one of some items has a key. -/
def occurs (keyOf : Item → Key) (key : Key) (items : List Item) : Bool :=
  items.any fun item => (keyOf item).same key

/-- The items before which no item has the same key. -/
def firsts (keyOf : Item → Key) (items : List Item) : List Item :=
  (items.zipIdx.filter fun placed => !occurs keyOf (keyOf placed.1) (items.take placed.2)).map
    Prod.fst

/-- An item is the first of its key, or its key has been there before. -/
theorem firsts_append_singleton (keyOf : Item → Key) (items : List Item) (item : Item) :
    firsts keyOf (items ++ [item]) =
      firsts keyOf items ++ if occurs keyOf (keyOf item) items then [] else [item] := by
  have earlier : ∀ placed ∈ items.zipIdx,
      (items ++ [item]).take placed.2 = items.take placed.2 := by
    intro placed member
    have inside : placed.2 < 0 + items.length := (List.mem_zipIdx member).2.1
    exact List.take_append_of_le_length (by omega)
  have kept : (items.zipIdx.filter fun placed =>
      !occurs keyOf (keyOf placed.1) ((items ++ [item]).take placed.2)) =
        items.zipIdx.filter fun placed => !occurs keyOf (keyOf placed.1) (items.take placed.2) :=
    List.filter_congr fun placed member => by rw [earlier placed member]
  rw [firsts, List.zipIdx_append, List.filter_append, kept, List.map_append, ← firsts]
  simp only [List.zipIdx_singleton, List.filter_cons, Nat.zero_add, List.take_left]
  cases occurs keyOf (keyOf item) items <;> rfl

/-! ### The heads of groups -/

/-- The first items of some groups, where they have one. -/
def heads (groups : List (Group Item)) : List (Option Item) :=
  groups.map fun group => group.items.head?

theorem exists_head_of_begins (begins : group.items.head?.map keyOf = some group.key) :
    ∃ head rest, group.items = head :: rest ∧ keyOf head = group.key := by
  obtain ⟨head, found, same⟩ := Option.map_eq_some_iff.mp begins
  obtain ⟨rest, parts⟩ := List.head?_eq_some_iff.mp found
  exact ⟨head, rest, parts, same⟩

/-- An item that starts a group is the head of it, and one that joins a group leaves its head in
place. -/
theorem heads_addItem (key : Key) (item : Item)
    (begins : ∀ group ∈ groups, group.items.head?.map keyOf = some group.key) :
    heads (addItem key item groups) =
      heads groups ++ if (keys groups).any (·.same key) then [] else [some item] := by
  induction groups with
  | nil => rfl
  | cons group groups inductionHypothesis =>
    obtain ⟨first, begins⟩ := List.forall_mem_cons.mp begins
    rw [addItem, keys, List.map_cons, List.any_cons]
    cases joins : group.key.same key with
    | true =>
      obtain ⟨head, rest, parts, _⟩ := exists_head_of_begins first
      simp [heads, parts]
    | false =>
      rw [Bool.false_or]
      exact congrArg (group.items.head? :: ·) (inductionHypothesis begins)

/-- A key is that of a group if it has occurred. -/
theorem Partitions.any_keys (partitions : Partitions keyOf items groups) (key : Key) :
    (keys groups).any (·.same key) = occurs keyOf key items := by
  rw [Bool.eq_iff_iff, occurs, List.any_eq_true, List.any_eq_true]
  constructor
  · rintro ⟨former, inKeys, same⟩
    obtain ⟨group, member, rfl⟩ := List.mem_map.mp inKeys
    obtain ⟨head, rest, parts, begins⟩ := exists_head_of_begins (partitions.begins group member)
    have inGroup : head ∈ group.items := parts ▸ List.mem_cons_self
    rw [partitions.holds group member] at inGroup
    exact ⟨head, (List.mem_filter.mp inGroup).1, begins ▸ same⟩
  · rintro ⟨item, member, same⟩
    obtain ⟨former, inKeys, level⟩ := partitions.covers item member
    exact ⟨former, inKeys, (Key.same_congr level key).trans same⟩

/-- The heads of the groups are the first items of their keys. -/
theorem heads_groupBy (keyOf : Item → Key) (items : List Item) :
    heads (groupBy keyOf items) = (firsts keyOf items).map some := by
  induction items using List.reverseRecOn with
  | nil => rfl
  | append_singleton items item inductionHypothesis =>
    have partitions := partitions_groupBy keyOf items
    rw [groupBy_append_singleton, heads_addItem _ _ partitions.begins, inductionHypothesis,
      partitions.any_keys, firsts_append_singleton, List.map_append]
    cases occurs keyOf (keyOf item) items <;> rfl

/-- The keys of the groups are those of the first items. -/
theorem keys_groupBy (keyOf : Item → Key) (items : List Item) :
    keys (groupBy keyOf items) = (firsts keyOf items).map keyOf := by
  have begins : (heads (groupBy keyOf items)).map (Option.map keyOf) =
      (keys (groupBy keyOf items)).map some := by
    rw [heads, keys, List.map_map, List.map_map]
    exact List.map_congr_left (partitions_groupBy keyOf items).begins
  rw [heads_groupBy, List.map_map] at begins
  exact ((List.map_inj_right fun _ _ => Option.some.inj).mp (List.map_map.trans begins)).symm

/-! ### Picking one item of each key -/

/-- Whether an item is picked at the end depends on the keys that have been seen and on those of the
items before it. -/
theorem distinctFrom_append_singleton (seen : List Key) (items : List Item) (item : Item) :
    distinctFrom keyOf seen (items ++ [item]) =
      distinctFrom keyOf seen items ++
        if seen.any (·.same (keyOf item)) || occurs keyOf (keyOf item) items then []
        else [item] := by
  induction items generalizing seen with
  | nil => simp [distinctFrom, occurs]
  | cons first items inductionHypothesis =>
    rw [List.cons_append, distinctFrom, distinctFrom, inductionHypothesis, inductionHypothesis]
    have unfolded : occurs keyOf (keyOf item) (first :: items) =
        ((keyOf first).same (keyOf item) || occurs keyOf (keyOf item) items) := rfl
    rw [unfolded]
    cases known : seen.any (·.same (keyOf first)) with
    | true =>
      -- An item with a key that has been seen adds no key to them.
      obtain ⟨former, member, level⟩ := List.any_eq_true.mp known
      have absorbed : (keyOf first).same (keyOf item) = true →
          seen.any (·.same (keyOf item)) = true := fun same =>
        List.any_eq_true.mpr ⟨former, member, (Key.same_congr level (keyOf item)).trans same⟩
      rw [← Bool.or_assoc, Bool.or_eq_left_iff_imp.mpr absorbed]
      rfl
    | false =>
      rw [List.any_cons, Bool.or_assoc, Bool.or_left_comm]
      rfl

/-- What is picked are the first items of their keys. -/
theorem distinctBy_eq_firsts (keyOf : Item → Key) (items : List Item) :
    distinctBy keyOf items = firsts keyOf items := by
  induction items using List.reverseRecOn with
  | nil => rfl
  | append_singleton items item inductionHypothesis =>
    rw [distinctBy, distinctFrom_append_singleton, firsts_append_singleton, ← inductionHypothesis]
    rfl

/-- Items of different keys are all picked. -/
theorem distinctFrom_of_pairwise {seen : List Key}
    (fresh : ∀ item ∈ items, seen.any (·.same (keyOf item)) = false)
    (apart : items.Pairwise fun former latter => (keyOf former).same (keyOf latter) = false) :
    distinctFrom keyOf seen items = items := by
  induction items generalizing seen with
  | nil => rfl
  | cons first items inductionHypothesis =>
    obtain ⟨freshFirst, fresh⟩ := List.forall_mem_cons.mp fresh
    obtain ⟨apartFirst, apart⟩ := List.pairwise_cons.mp apart
    have later : ∀ item ∈ items, (keyOf first :: seen).any (·.same (keyOf item)) = false := by
      intro item member
      rw [List.any_cons, apartFirst item member, fresh item member, Bool.false_or]
    rw [distinctFrom, if_neg (Bool.eq_false_iff.mp freshFirst), inductionHypothesis later apart]

/-- The first items of their keys have different keys. -/
theorem pairwise_firsts (keyOf : Item → Key) (items : List Item) :
    (firsts keyOf items).Pairwise fun former latter =>
      (keyOf former).same (keyOf latter) = false := by
  have apart := (partitions_groupBy keyOf items).apart
  rwa [keys_groupBy, List.pairwise_map] at apart

/-- Picking from what has been picked picks all of it. -/
theorem distinctBy_distinctBy (keyOf : Item → Key) (items : List Item) :
    distinctBy keyOf (distinctBy keyOf items) = distinctBy keyOf items := by
  refine distinctFrom_of_pairwise (fun _ _ => rfl) ?_
  rw [distinctBy_eq_firsts]
  exact pairwise_firsts keyOf items

/-! ### Stable partitions -/

/-- Whether some groups hold every one of some items once, each group the items of one key in the
order they came in, and stand in the order in which their keys first occur. -/
structure StablyPartitions (keyOf : Item → Key) (items : List Item) (groups : List (Group Item)) :
    Prop extends Partitions keyOf items groups where
  nonempty : ∀ group ∈ groups, group.items ≠ []
  inOrder : keys groups = (firsts keyOf items).map keyOf
  once : (groups.flatMap Group.items).Perm items
  inOne : ∀ item ∈ items, ∃! group, group ∈ groups ∧ item ∈ group.items

theorem flatMap_addItem_perm (key : Key) (item : Item) (groups : List (Group Item)) :
    ((addItem key item groups).flatMap Group.items).Perm
      (groups.flatMap Group.items ++ [item]) := by
  induction groups with
  | nil => exact .refl [item]
  | cons group groups inductionHypothesis =>
    rw [addItem]
    split
    · rw [List.flatMap_cons, List.flatMap_cons, List.append_assoc, List.append_assoc]
      exact List.perm_append_comm.append_left group.items
    · rw [List.flatMap_cons, List.flatMap_cons, List.append_assoc]
      exact inductionHypothesis.append_left group.items

theorem flatMap_groupBy_perm (keyOf : Item → Key) (items : List Item) :
    ((groupBy keyOf items).flatMap Group.items).Perm items := by
  induction items using List.reverseRecOn with
  | nil => exact .refl []
  | append_singleton items item inductionHypothesis =>
    rw [groupBy_append_singleton]
    exact (flatMap_addItem_perm _ item _).trans (inductionHypothesis.append_right [item])

/-- No two groups that are the classes of some items hold the same one. -/
theorem Partitions.existsUnique (partitions : Partitions keyOf items groups)
    (member : item ∈ items) : ∃! group, group ∈ groups ∧ item ∈ group.items := by
  obtain ⟨key, inKeys, same⟩ := partitions.covers item member
  obtain ⟨group, inGroups, rfl⟩ := List.mem_map.mp inKeys
  have holdsItem := (partitions.mem_iff inGroups member).mpr same
  refine ⟨group, ⟨inGroups, holdsItem⟩, fun other ⟨otherIn, holds⟩ => ?_⟩
  have otherSame := (partitions.mem_iff otherIn member).mp holds
  have apart : groups.Pairwise fun former latter => former.key.same latter.key = false :=
    List.pairwise_map.mp partitions.apart
  have symmetric : Std.Symm fun former latter : Group Item => former.key.same latter.key = false :=
    ⟨fun former latter apart => (Key.same_comm latter.key former.key).trans apart⟩
  by_contra differs
  have level : other.key.same group.key = true := by
    rw [Key.same_congr otherSame, Key.same_comm, same]
  rw [apart.forall otherIn inGroups differs] at level
  contradiction

theorem stablyPartitions_groupBy (keyOf : Item → Key) (items : List Item) :
    StablyPartitions keyOf items (groupBy keyOf items) := by
  have partitions := partitions_groupBy keyOf items
  refine ⟨partitions, fun group member => ?_, keys_groupBy keyOf items,
    flatMap_groupBy_perm keyOf items, fun _ => partitions.existsUnique⟩
  obtain ⟨head, rest, parts, _⟩ := exists_head_of_begins (partitions.begins group member)
  rw [parts]
  exact List.cons_ne_nil head rest

/-! ### The key of a field -/

/-- The key that a record has by a path: that of the value which the path leads to. Where the path
leads nowhere, to a record, or to a value without a key, it is the key of null. -/
def keyOn (path : Path) (record : Record) : Key :=
  match path.read record with
  | .value value => (Key.ofValue? value).getD .null
  | .present | .unreachable _ => .null

theorem keyAt_eq_keyOn (schema : Schema) (path : Path) (record : Record) :
    keyAt schema path record = keyOn path record := by
  rw [keyAt, keyOn, Key.ofValue]
  cases read : path.read record with
  | value value => rw [path.get_of_value schema read]
  | present =>
    obtain ⟨number, nested, _, _, whole⟩ := path.get_of_present schema read
    rw [whole]
    rfl
  | unreachable hop =>
    rw [path.get_of_unreachable schema read]
    rfl

/-- Grouping rows by a field partitions them stably by its keys, that of null among them, and what
is picked of the rows are the heads of the groups, in the order of the groups. Picking again changes
nothing. -/
theorem groupBy_stable_distinctBy_heads {Label : Type} (schema : Schema) (path : Path)
    (rows : List (Row Label)) :
    let keyOf := fun row : Row Label => keyAt schema path row.record
    (∀ row, keyOf row = keyOn path row.record) ∧
      StablyPartitions keyOf rows (groupBy keyOf rows) ∧
      heads (groupBy keyOf rows) = (distinctBy keyOf rows).map some ∧
      distinctBy keyOf (distinctBy keyOf rows) = distinctBy keyOf rows := by
  intro keyOf
  refine ⟨fun row => keyAt_eq_keyOn schema path row.record, stablyPartitions_groupBy keyOf rows, ?_,
    distinctBy_distinctBy keyOf rows⟩
  rw [heads_groupBy, distinctBy_eq_firsts]

end RecordQuery.Grouping

/-
This file proves that equality, order and hash of keys agree, and that tables which find keys by
their hashes therefore take the same keys for one as sets which find them by their order.

Doubles in keys are equal if the total order has them level, and are hashed by their encodings. The
total order is that of the encodings, so these agree for every double, whether it is a number or
not. For the other keys the hash follows the shape of the key, as sameness does.

Grouping, picking one record of each group, ranking by the scores of keys and testing for membership
are said elsewhere by sameness alone. Here they are done with hash tables, whatever the hasher, and
with search trees, and the results are the same.
-/

import Mathlib.Data.List.Induction
import RecordQuery.Hashing
import RecordQuery.Predicate.Evaluate
import RecordQuery.Proofs.KeyOrder
import RecordQuery.Ranking
import RecordQuery.Sample.Person

namespace RecordQuery

open Number Calendar Hashing

/-! ### What is fed for a double -/

theorem Number.Binary.toBits_lt {format : BinaryFormat} (number : Binary format) :
    number.toBits < 2 * format.magnitudes := by
  have bound := number.magnitude_lt
  unfold Binary.toBits
  split <;> omega

/-- The same is fed for two doubles just if the total order has them level. -/
theorem Hashing.decimalData_eq_iff {left right : Double} :
    decimalData left = decimalData right ↔ left.totalCompare right = .eq := by
  rw [Binary.totalCompare_eq_iff]
  refine ⟨fun fed => ?_, congrArg decimalData⟩
  have words : UInt64.ofNat left.toBits = UInt64.ofNat right.toBits :=
    Datum.bits.inj (List.cons.inj fed).1
  have encodings := congrArg UInt64.toNat words
  rw [UInt64.toNat_ofNat_of_lt' left.toBits_lt, UInt64.toNat_ofNat_of_lt' right.toBits_lt]
    at encodings
  rw [← Binary.ofBits_toBits left, encodings, Binary.ofBits_toBits]

/-! ### What is fed for a key -/

namespace Key

theorem length_eq_of_sameItems {lefts rights : List Key}
    (level : sameItems lefts rights = true) : lefts.length = rights.length := by
  induction lefts generalizing rights with
  | nil =>
    cases rights with
    | nil => rfl
    | cons => contradiction
  | cons left lefts inductionHypothesis =>
    cases rights with
    | nil => contradiction
    | cons right rights =>
      exact congrArg (· + 1) (inductionHypothesis (Bool.and_eq_true_iff.mp level).2)

variable {feeds : Feeds}

mutual

/-- The same is fed for keys that are the same. -/
theorem data_of_same (byInstant : feeds.GoByInstant) {left right : Key}
    (level : left.same right = true) : left.data feeds = right.data feeds := by
  cases left with
  | composite lefts =>
    cases right with
    | composite rights =>
      rw [data, data, length_eq_of_sameItems level, itemsData_of_sameItems byInstant level]
      rfl
    | _ => contradiction
  | dateTime left =>
    cases right with
    | dateTime right => rw [data, data, byInstant left right level]; rfl
    | _ => contradiction
  | decimal left =>
    cases right with
    | decimal right => rw [Binary.totalCompare_eq_iff.mp (beq_iff_eq.mp level)]
    | _ => contradiction
  | null | bool | int | text | date | uuid =>
    cases right <;> first | contradiction | rfl | rw [of_decide_eq_true level]

theorem itemsData_of_sameItems (byInstant : feeds.GoByInstant) {lefts rights : List Key}
    (level : sameItems lefts rights = true) : itemsData feeds lefts = itemsData feeds rights := by
  cases lefts with
  | nil =>
    cases rights with
    | nil => rfl
    | cons => contradiction
  | cons left lefts =>
    cases rights with
    | nil => contradiction
    | cons right rights =>
      obtain ⟨first, rest⟩ := Bool.and_eq_true_iff.mp level
      rw [itemsData, itemsData, data_of_same byInstant first, itemsData_of_sameItems byInstant rest]

end

/-! ### Sets of keys -/

/-- The same keys are the same as keys that are the same. -/
theorem same_congr_right {key other : Key} (level : key.same other = true) :
    (fun former : Key => former.same key) = fun former => former.same other := by
  funext former
  rw [same_comm, same_congr level, same_comm]

theorem contains_hashSet [Hashable Key] [LawfulHashable Key] (keys : List Key) (key : Key) :
    (Std.HashSet.ofList keys).contains key = keys.any (·.same key) :=
  Std.HashSet.contains_ofList.trans List.any_beq'.symm

theorem contains_treeSet (keys : List Key) (key : Key) :
    (Std.TreeSet.ofList keys order).contains key = keys.any (·.same key) :=
  Std.TreeSet.contains_ofList.trans List.any_beq'.symm

end Key

theorem KeySet.contains_ofList (keys : List Key) (key : Key) :
    (KeySet.ofList keys).contains key = keys.any (·.same key) :=
  contains_foldl_insert keys [] key

/-! ### Groups found through a table -/

namespace Grouping

variable {Item : Type} {keyOf : Item → Key} {key : Key} {item : Item} {groups : List (Group Item)}

/-- A group with one more item. -/
def push (item : Item) (group : Group Item) : Group Item :=
  { group with items := group.items ++ [item] }

theorem addItem_of_findIdx?_eq_some {place : Nat} (item : Item)
    (found : (keys groups).findIdx? (·.same key) = some place) :
    addItem key item groups = groups.modify place (push item) := by
  induction groups generalizing place with
  | nil => contradiction
  | cons group groups inductionHypothesis =>
    rw [keys, List.map_cons, List.findIdx?_cons] at found
    rw [addItem]
    split at found
    · rename_i joins
      obtain rfl := Option.some.inj found
      rw [if_pos joins]
      rfl
    · rename_i passes
      obtain ⟨later, foundLater, rfl⟩ := Option.map_eq_some_iff.mp found
      rw [if_neg passes, inductionHypothesis foundLater]
      rfl

theorem addItem_of_findIdx?_eq_none (item : Item)
    (fresh : (keys groups).findIdx? (·.same key) = none) :
    addItem key item groups = groups ++ [⟨key, [item]⟩] := by
  induction groups with
  | nil => rfl
  | cons group groups inductionHypothesis =>
    rw [List.findIdx?_eq_none_iff, keys, List.map_cons, List.forall_mem_cons] at fresh
    obtain ⟨passes, rest⟩ := fresh
    rw [addItem, passes, inductionHypothesis (List.findIdx?_eq_none_iff.mpr rest)]
    rfl

variable [Hashable Key]

/-- Groups, and a table of the places where the groups of keys stand. -/
structure PlacedGroups (Item : Type) [Hashable Key] where
  groups : List (Group Item) := []
  places : Std.HashMap Key Nat := ∅

/-- Adds an item to the group that stands in the place of its key. For a key without a place a group
is started behind the others, and its place is noted. -/
def PlacedGroups.addItem (key : Key) (item : Item) (placed : PlacedGroups Item) :
    PlacedGroups Item :=
  match placed.places[key]? with
  | some place => { placed with groups := placed.groups.modify place (push item) }
  | none => ⟨placed.groups ++ [⟨key, [item]⟩], placed.places.insert key placed.groups.length⟩

/-- Adds some items, one after another, to the groups of their keys. -/
def PlacedGroups.addItems (keyOf : Item → Key) (placed : PlacedGroups Item) (items : List Item) :
    PlacedGroups Item :=
  items.foldl (fun placed item => addItem (keyOf item) item placed) placed

/-- The groups of a list of items, the group of each item being found through a table. -/
def groupByTable (keyOf : Item → Key) (items : List Item) : List (Group Item) :=
  (PlacedGroups.addItems keyOf {} items).groups

namespace PlacedGroups

variable {placed : PlacedGroups Item}

/-- Whether a table has just the keys of the groups, each with the place of its group. -/
def IsPlaced (placed : PlacedGroups Item) : Prop :=
  ∀ key : Key, placed.places[key]? = (keys placed.groups).findIdx? (·.same key)

theorem groups_addItem (isPlaced : placed.IsPlaced) (key : Key) (item : Item) :
    (placed.addItem key item).groups = Grouping.addItem key item placed.groups := by
  have found := isPlaced key
  unfold addItem
  split
  · rename_i place known
    exact (addItem_of_findIdx?_eq_some item (found.symm.trans known)).symm
  · rename_i fresh
    exact (addItem_of_findIdx?_eq_none item (found.symm.trans fresh)).symm

theorem places_addItem (key : Key) (item : Item) (placed : PlacedGroups Item) :
    (placed.addItem key item).places =
      if placed.places[key]?.isSome then placed.places
      else placed.places.insert key placed.groups.length := by
  unfold addItem
  split <;> rename_i found <;> rw [found] <;> rfl

/-- The table stays right when an item is added: a new key has its place behind the others, and so
have the keys that are the same, none of which had a place before. -/
theorem IsPlaced.addItem [LawfulHashable Key] (isPlaced : placed.IsPlaced) (key : Key)
    (item : Item) : (placed.addItem key item).IsPlaced := by
  intro other
  rw [groups_addItem isPlaced, keys_addItem, places_addItem, isPlaced key, List.findIdx?_isSome]
  split
  · exact isPlaced other
  · rename_i fresh
    rw [Std.HashMap.getElem?_insert, Key.beq_eq_same, List.findIdx?_append,
      List.findIdx?_singleton, ← isPlaced other]
    cases level : key.same other with
    | true =>
      have absent : placed.places[other]? = none := by
        rw [isPlaced other, ← Key.same_congr_right level, ← Option.not_isSome_iff_eq_none,
          List.findIdx?_isSome]
        exact fresh
      rw [absent]
      simp [keys]
    | false => exact (Option.or_none).symm

theorem IsPlaced.groups_addItems [LawfulHashable Key] (isPlaced : placed.IsPlaced)
    (keyOf : Item → Key) (items : List Item) : (placed.addItems keyOf items).groups =
      items.foldl (fun groups item => Grouping.addItem (keyOf item) item groups) placed.groups := by
  induction items generalizing placed with
  | nil => rfl
  | cons item items inductionHypothesis =>
    rw [List.foldl_cons, ← groups_addItem isPlaced]
    exact inductionHypothesis (isPlaced.addItem (keyOf item) item)

end PlacedGroups

/-- An item finds the same group through a table as by sameness. -/
theorem groupByTable_eq_groupBy [LawfulHashable Key] (keyOf : Item → Key) (items : List Item) :
    groupByTable keyOf items = groupBy keyOf items := by
  have placed : ({} : PlacedGroups Item).IsPlaced := fun _ => Std.HashMap.getElem?_empty
  exact placed.groups_addItems keyOf items

/-! ### One item of each key -/

/-- The items whose keys are not in a set yet. -/
def distinctFromSet (keyOf : Item → Key) : Std.HashSet Key → List Item → List Item
  | _, [] => []
  | seen, item :: items =>
    if seen.contains (keyOf item) then distinctFromSet keyOf seen items
    else item :: distinctFromSet keyOf (seen.insert (keyOf item)) items

/-- The first item of each key, the keys that have been seen being kept in a set. -/
def distinctBySet (keyOf : Item → Key) (items : List Item) : List Item :=
  distinctFromSet keyOf ∅ items

theorem distinctFromSet_eq_distinctFrom [LawfulHashable Key] {set : Std.HashSet Key}
    {seen : List Key} (holds : ∀ key, set.contains key = seen.any (·.same key))
    (items : List Item) : distinctFromSet keyOf set items = distinctFrom keyOf seen items := by
  induction items generalizing set seen with
  | nil => rfl
  | cons item items inductionHypothesis =>
    have grown : ∀ key, (set.insert (keyOf item)).contains key =
        (keyOf item :: seen).any (·.same key) := by
      intro key
      rw [Std.HashSet.contains_insert, holds, List.any_cons]
      rfl
    rw [distinctFromSet, distinctFrom, holds, inductionHypothesis holds, inductionHypothesis grown]

theorem distinctBySet_eq_distinctBy [LawfulHashable Key] (keyOf : Item → Key) (items : List Item) :
    distinctBySet keyOf items = distinctBy keyOf items :=
  distinctFromSet_eq_distinctFrom (fun _ => Std.HashSet.contains_empty) items

end Grouping

/-! ### Scores of keys -/

namespace Ranking

variable [Hashable Key]

/-- Keeps the records whose key is in a set and ranks them by the scores that a table has for their
keys, the highest first. -/
def rankByTable {Label : Type} (schema : Schema) (path : Path) (matching : Std.HashSet Key)
    (scores : Std.HashMap Key Single) (rows : List (Row Label)) : List (Row Label) :=
  rankScored compareDescending <| rows.filterMap fun row =>
    (Key.ofValue? (path.get schema row.record)).bind fun key =>
      if matching.contains key then some (scores.getD key 0, row) else none

theorem getD_ofList [LawfulHashable Key] (scores : List (Key × Single)) (key : Key) :
    (Std.HashMap.ofList scores).getD key 0 = scoreOf scores key := by
  rw [Std.HashMap.ofList_eq_insertMany_empty]
  induction scores using List.reverseRecOn with
  | nil => exact Std.HashMap.getD_empty
  | append_singleton scores entry inductionHypothesis =>
    obtain ⟨own, score⟩ := entry
    rw [Std.HashMap.insertMany_append, Std.HashMap.insertMany_list_singleton,
      Std.HashMap.getD_insert, Key.beq_eq_same, inductionHypothesis, scoreOf, scoreOf,
      List.reverse_append, List.reverse_singleton, List.singleton_append, List.find?_cons]
    cases own.same key <;> rfl

theorem rankByTable_eq_rankByKeyScores [LawfulHashable Key] {Label : Type} (schema : Schema)
    (path : Path) (matching : List Key) (scores : List (Key × Single)) (rows : List (Row Label)) :
    rankByTable schema path (.ofList matching) (.ofList scores) rows =
      rankByKeyScores schema path matching scores rows := by
  simp only [rankByTable, rankByKeyScores, Key.contains_hashSet, getD_ofList]

end Ranking

/-! ### Membership -/

/-- Whether the key of what was read is in a search tree. -/
def Predicate.hasMemberInTree (keys : Std.TreeSet Key Key.order) : Slot → Bool
  | .value value => (Key.ofValue? value).any keys.contains
  | _ => false

theorem Predicate.hasMemberInTree_eq_hasMember (keys : List Key) (slot : Slot) :
    hasMemberInTree (.ofList keys Key.order) slot = hasMember (KeySet.ofList keys) slot := by
  have found : (Std.TreeSet.ofList keys Key.order).contains = (KeySet.ofList keys).contains := by
    funext key
    rw [Key.contains_treeSet, KeySet.contains_ofList]
  cases slot with
  | value value => exact congrArg (Key.ofValue? value).any found
  | _ => rfl

/-! ### Equality, order and hash together -/

/-- Whether equality, order and hash of a type agree. The order is linear with the equality as its
own, and the same is fed to a hasher for what is equal. -/
structure Hashing.Coheres {Element : Type} (same : Element → Element → Bool)
    (order : Element → Element → Ordering) (data : Element → List Datum) : Prop where
  same_iff : ∀ left right, same left right = true ↔ order left right = .eq
  swap : ∀ left right, order right left = (order left right).swap
  trans : ∀ first second third, order first second ≠ .gt → order second third ≠ .gt →
    order first third ≠ .gt
  data_eq : ∀ left right, same left right = true → data left = data right

theorem Hashing.coheres_of_transCmp {Element : Type} {same : Element → Element → Bool}
    {order : Element → Element → Ordering} {data : Element → List Datum} [Std.TransCmp order]
    (same_iff : ∀ left right, same left right = true ↔ order left right = .eq)
    (data_eq : ∀ left right, same left right = true → data left = data right) :
    Coheres same order data where
  same_iff := same_iff
  swap _ _ := Std.OrientedCmp.eq_swap
  trans first second third former latter := by
    have before := Ordering.isLE_iff_ne_gt.mpr former
    have after := Ordering.isLE_iff_ne_gt.mpr latter
    exact Ordering.isLE_iff_ne_gt.mp (Std.TransCmp.isLE_trans before after)
  data_eq := data_eq

namespace Key

/-- Whether those keys count as one that are the same, wherever keys are looked up by their hashes
or by their order: in sets, in groups, among the keys seen before, among keys with scores and among
those of a predicate. -/
structure IdentifiedBySameness [Hashable Key] : Prop where
  hashed (keys : List Key) (key : Key) :
    (Std.HashSet.ofList keys).contains key = keys.any (·.same key)
  ordered (keys : List Key) (key : Key) :
    (Std.TreeSet.ofList keys order).contains key = keys.any (·.same key)
  grouped {Item : Type} (keyOf : Item → Key) (items : List Item) :
    Grouping.groupByTable keyOf items = Grouping.groupBy keyOf items
  distinct {Item : Type} (keyOf : Item → Key) (items : List Item) :
    Grouping.distinctBySet keyOf items = Grouping.distinctBy keyOf items
  ranked {Label : Type} (schema : Schema) (path : Path) (matching : List Key)
    (scores : List (Key × Single)) (rows : List (Row Label)) :
    Ranking.rankByTable schema path (.ofList matching) (.ofList scores) rows =
      Ranking.rankByKeyScores schema path matching scores rows
  member (keys : List Key) (slot : Slot) :
    Predicate.hasMemberInTree (.ofList keys order) slot =
      Predicate.hasMember (KeySet.ofList keys) slot

theorem identifiedBySameness [Hashable Key] [LawfulHashable Key] : IdentifiedBySameness where
  hashed := contains_hashSet
  ordered := contains_treeSet
  grouped := Grouping.groupByTable_eq_groupBy
  distinct := Grouping.distinctBySet_eq_distinctBy
  ranked := Ranking.rankByTable_eq_rankByKeyScores
  member := Predicate.hasMemberInTree_eq_hasMember

theorem lawfulHashable (byInstant : feeds.GoByInstant) (hasher : Hasher) :
    @LawfulHashable Key _ (hashable feeds hasher) :=
  let _ := hashable feeds hasher
  ⟨fun _ _ level => congrArg hasher (data_of_same byInstant level)⟩

/-- Equality, order and hash of the doubles in keys agree, and so do those of keys, if date-times
are fed by their instants. What is fed for doubles even tells apart whatever the order does. So,
whatever the hasher, hash tables and ordered sets take the same keys for one. -/
theorem equality_order_and_hash_agree {feeds : Feeds} (byInstant : feeds.GoByInstant) :
    Coheres (fun left right : Double => left.totalCompare right == .eq) Binary.totalCompare
        decimalData ∧
      (∀ left right : Double, decimalData left = decimalData right →
        left.totalCompare right = .eq) ∧
      Coheres same order (data feeds) ∧
      ∀ hasher : Hasher, @IdentifiedBySameness (hashable feeds hasher) := by
  refine ⟨coheres_of_transCmp (fun _ _ => beq_iff_eq) fun left right level => ?_,
    fun _ _ => decimalData_eq_iff.mp,
    coheres_of_transCmp (fun _ _ => order_eq_iff_same.symm) fun _ _ => data_of_same byInstant,
    fun hasher => ?_⟩
  · exact decimalData_eq_iff.mpr (beq_iff_eq.mp level)
  · have := lawfulHashable byInstant hasher
    exact @identifiedBySameness (hashable feeds hasher) this

end Key

/-- What is fed for an instant: its day in UTC and the nanoseconds since the day began. -/
def Sample.instantData (instant : Int) : List Datum :=
  let day := instant.fdiv 86400000000000
  [.half (Int32.ofInt day), .bits (UInt64.ofNat (instant - day * 86400000000000).toNat)]

/-- Dates are fed by their days, date-times by their instants and identifiers by their bytes. -/
def Sample.feeds : Feeds where
  date date := [.half (Int32.ofInt date.dayNumber)]
  dateTime value := Sample.instantData value.instant
  uuid uuid :=
    [.length 16,
      .bytes ((List.range 16).map fun place => UInt8.ofNat (uuid.number >>> (8 * (15 - place))))]

/-- A hasher that does no more than count. -/
def Sample.counter : Hasher :=
  fun data => UInt64.ofNat data.length

/-- The epoch on a clock that is some hours ahead of UTC. -/
def Sample.epochOn (ahead : Fin 12) : DateTime where
  date := epoch.date
  time := { ClockTime.midnight with hour := ahead.val, hour_lt := by omega }
  offset := 3600 * ahead.val
  offset_le := by unfold greatestOffset; omega

/-- A key with the epoch and, within another composite key, a not-a-number with a payload. -/
def Sample.epochKey (ahead : Fin 12) : Key :=
  .composite [.dateTime (epochOn ahead), .composite [.decimal (.ofBits 9221120237041090561)]]

/-- The keys of two clocks are the same, level, fed alike and in one group. -/
theorem Key.equality_order_and_hash_agree_of_clocks :
    let left := Sample.epochKey 0
    let right := Sample.epochKey 1
    Sample.feeds.GoByInstant ∧ Sample.epochOn 0 ≠ Sample.epochOn 1 ∧ left.same right = true ∧
      left.order right = .eq ∧ left.data Sample.feeds = right.data Sample.feeds ∧
      (@Grouping.groupByTable _ (hashable Sample.feeds Sample.counter) id [left, right]).map
        (fun group => group.items.length) = [2] := by
  intro left right
  have byInstant : Sample.feeds.GoByInstant := fun left right level =>
    congrArg Sample.instantData (of_decide_eq_true level)
  obtain ⟨_, _, keys, identified⟩ := equality_order_and_hash_agree byInstant
  have level : left.same right = true := by decide +kernel
  refine ⟨byInstant, by decide, level, (keys.same_iff left right).mp level,
    keys.data_eq left right level, ?_⟩
  have grouped := @(identified Sample.counter).grouped
  rw [grouped]
  decide +kernel

end RecordQuery

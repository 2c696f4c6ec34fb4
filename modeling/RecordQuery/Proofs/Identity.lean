/-
This file proves which values share a key, and what that makes of queries that go by keys.

Numbers share a key just if they count as one: if they are the same number, whichever form they
have, or if they are the greatest word and the double past it. Lists share a key if they do so item
by item, however deeply they are nested, and any other values if they are the same. Groups, picks of
one row of each key and searches for values bring rows together just as their keys do. They keep
different numbers apart, but for those two, and they never part what is one number.
-/

import RecordQuery.Proofs.Distinct
import RecordQuery.Proofs.Exactness
import RecordQuery.Proofs.Membership
import RecordQuery.Proofs.Running
import RecordQuery.Value.Order

namespace RecordQuery

open Number

/-! ### Values that are alike -/

namespace Value

mutual

/-- Whether two values are alike, given which numbers count as one: lists are compared item by item,
and everything besides numbers and lists by sameness. -/
def AlikeBy (one : Value → Value → Prop) : Value → Value → Prop
  | list lefts, list rights => ItemsAlikeBy one lefts rights
  | left, right =>
    if left.number?.isSome && right.number?.isSome then one left right else left.same right = true

/-- Whether the items of two lists are alike, each with the one in its place. -/
def ItemsAlikeBy (one : Value → Value → Prop) : List Value → List Value → Prop
  | [], [] => True
  | left :: lefts, right :: rights => AlikeBy one left right ∧ ItemsAlikeBy one lefts rights
  | _, _ => False

end

theorem kindRank_eq_of_alikeBy {one : Value → Value → Prop} {left right : Value}
    (alike : left.AlikeBy one right) : left.kindRank = right.kindRank := by
  cases left <;> cases right <;> first | rfl | contradiction

/-- A number has a key. -/
theorem exists_key_of_quantity? {value : Value} (number : value.quantity?.isSome = true) :
    ∃ key, Key.ofValue? value = some key ∧ value.number?.isSome = true ∧ value.hasNaN = false := by
  cases value with
  | int word => exact ⟨_, rfl, rfl, rfl⟩
  | float double =>
    refine ⟨_, rfl, rfl, ?_⟩
    rw [quantity?] at number
    by_contra unordered
    rw [hasNaN, Bool.not_eq_false] at unordered
    rw [if_pos unordered] at number
    contradiction
  | _ => contradiction

/-- What a value is keyed by: itself if it has a key, and null if it has none. -/
def keyedAs (value : Value) : Value :=
  if (Key.ofValue? value).isSome then value else null

theorem ofValue?_keyedAs (value : Value) :
    Key.ofValue? value.keyedAs = some (Key.ofValue value) := by
  unfold keyedAs Key.ofValue
  cases keyed : Key.ofValue? value with
  | some key => exact keyed
  | none => rfl

theorem hasNaN_keyedAs {value : Value} (ordered : value.hasNaN = false) :
    value.keyedAs.hasNaN = false := by
  unfold keyedAs
  split
  · exact ordered
  · rfl

end Value

namespace Key

/-! ### Keys of numbers -/

theorem ofDouble_cases (number : Double) :
    (∃ word, ofDouble number = int word) ∨ ofDouble number = decimal number := by
  unfold ofDouble
  cases wordOfDouble? number with
  | some word => exact .inl ⟨word, rfl⟩
  | none => exact .inr rfl

theorem int_same_ofDouble_iff {word : Int64} {number : Double} :
    (int word).same (ofDouble number) = true ↔ wordOfDouble? number = some word := by
  unfold ofDouble
  cases wordOfDouble? number with
  | some other => simp [same, eq_comm]
  | none => simp [same]

/-! ### Keys of values -/

/-- A key shows a value of the kind that it is the key of, numbers being one kind. -/
theorem kindRank_toValue {value : Value} {key : Key} (keyed : ofValue? value = some key) :
    key.toValue.kindRank = value.kindRank := by
  cases value with
  | float number =>
    obtain rfl := Option.some.inj keyed
    rcases ofDouble_cases number with ⟨word, made⟩ | made <;> rw [made] <;> rfl
  | list items =>
    obtain ⟨keys, _, rfl⟩ := Option.map_eq_some_iff.mp keyed
    rfl
  | vector | map => contradiction
  | _ =>
    obtain rfl := Option.some.inj keyed
    rfl

theorem kindRank_toValue_eq_of_same {left right : Key} (level : left.same right = true) :
    left.toValue.kindRank = right.toValue.kindRank := by
  cases left <;> cases right <;> first | rfl | contradiction

/-- Numbers of any two forms have the same key just if they count as one. -/
theorem same_iff_countAsOne {left right : Value} {leftKey rightKey : Key}
    (leftKeyed : ofValue? left = some leftKey) (rightKeyed : ofValue? right = some rightKey)
    (leftNumber : left.number?.isSome = true) (rightNumber : right.number?.isSome = true)
    (ordered : left.hasNaN = false ∨ right.hasNaN = false) :
    leftKey.same rightKey = true ↔ left.CountAsOne right := by
  cases left with
  | int word =>
    obtain rfl := Option.some.inj leftKeyed
    cases right with
    | int other =>
      obtain rfl := Option.some.inj rightKeyed
      rw [Value.countAsOne_int_int_iff]
      exact decide_eq_true_iff
    | float number =>
      obtain rfl := Option.some.inj rightKeyed
      rw [Value.countAsOne_int_float_iff, int_same_ofDouble_iff]
    | _ => contradiction
  | float number =>
    obtain rfl := Option.some.inj leftKeyed
    cases right with
    | int word =>
      obtain rfl := Option.some.inj rightKeyed
      rw [same_comm, int_same_ofDouble_iff, Value.CountAsOne.comm, Value.countAsOne_int_float_iff]
    | float other =>
      obtain rfl := Option.some.inj rightKeyed
      rw [same_ofDouble ordered, Value.countAsOne_float_float_iff]
    | _ => contradiction
  | _ => contradiction

theorem ofItems?_cons_eq_some_iff {item : Value} {items : List Value} {keys : List Key} :
    ofItems? (item :: items) = some keys ↔
      ∃ first rest, ofValue? item = some first ∧ ofItems? items = some rest ∧
        keys = first :: rest := by
  rw [ofItems?]
  cases ofValue? item <;> cases ofItems? items <;> simp [eq_comm]

mutual

/-- Keys are the same just if their values are alike, unless there are not-a-numbers in both. -/
theorem same_iff_alikeBy {left right : Value} {leftKey rightKey : Key}
    (leftKeyed : ofValue? left = some leftKey) (rightKeyed : ofValue? right = some rightKey)
    (ordered : left.hasNaN = false ∨ right.hasNaN = false) :
    leftKey.same rightKey = true ↔ left.AlikeBy Value.CountAsOne right := by
  by_cases ranks : left.kindRank = right.kindRank
  · cases left <;> cases right <;> simp [Value.kindRank] at ranks <;> try contradiction
    case list.list lefts rights =>
      obtain ⟨leftKeys, leftFound, rfl⟩ := Option.map_eq_some_iff.mp leftKeyed
      obtain ⟨rightKeys, rightFound, rfl⟩ := Option.map_eq_some_iff.mp rightKeyed
      exact sameItems_iff_itemsAlikeBy leftFound rightFound ordered
    case int.int | int.float | float.int | float.float =>
      exact same_iff_countAsOne leftKeyed rightKeyed rfl rfl ordered
    -- Besides numbers and lists, keys of one rank are compared as their values are.
    all_goals
      obtain rfl := Option.some.inj leftKeyed
      obtain rfl := Option.some.inj rightKeyed
      exact Iff.rfl
  · -- Across ranks there are neither alike values nor keys that are the same.
    refine iff_of_false (fun level => ranks ?_)
      fun alike => ranks (Value.kindRank_eq_of_alikeBy alike)
    rw [← kindRank_toValue leftKeyed, ← kindRank_toValue rightKeyed,
      kindRank_toValue_eq_of_same level]

theorem sameItems_iff_itemsAlikeBy {lefts rights : List Value} {leftKeys rightKeys : List Key}
    (leftKeyed : ofItems? lefts = some leftKeys) (rightKeyed : ofItems? rights = some rightKeys)
    (ordered : Value.itemsHaveNaN lefts = false ∨ Value.itemsHaveNaN rights = false) :
    sameItems leftKeys rightKeys = true ↔ Value.ItemsAlikeBy Value.CountAsOne lefts rights := by
  cases lefts with
  | nil =>
    obtain rfl := Option.some.inj leftKeyed
    cases rights with
    | nil =>
      obtain rfl := Option.some.inj rightKeyed
      exact iff_of_true rfl trivial
    | cons right rights =>
      obtain ⟨rightFirst, rightRest, _, _, rfl⟩ := ofItems?_cons_eq_some_iff.mp rightKeyed
      exact iff_of_false Bool.false_ne_true id
  | cons left lefts =>
    obtain ⟨leftFirst, leftRest, leftFound, leftsFound, rfl⟩ :=
      ofItems?_cons_eq_some_iff.mp leftKeyed
    cases rights with
    | nil =>
      obtain rfl := Option.some.inj rightKeyed
      exact iff_of_false Bool.false_ne_true id
    | cons right rights =>
      obtain ⟨rightFirst, rightRest, rightFound, rightsFound, rfl⟩ :=
        ofItems?_cons_eq_some_iff.mp rightKeyed
      simp only [Value.itemsHaveNaN, Bool.or_eq_false_iff] at ordered
      have first := same_iff_alikeBy leftFound rightFound (ordered.imp And.left And.left)
      have rest := sameItems_iff_itemsAlikeBy leftsFound rightsFound
        (ordered.imp And.right And.right)
      exact Bool.and_eq_true_iff.trans (and_congr first rest)

end

/-- Values with or without keys are counted as having the same one just if what they are keyed by is
alike. -/
theorem same_ofValue_iff_alikeBy {left right : Value}
    (ordered : left.hasNaN = false ∨ right.hasNaN = false) :
    (ofValue left).same (ofValue right) = true ↔
      left.keyedAs.AlikeBy Value.CountAsOne right.keyedAs :=
  same_iff_alikeBy left.ofValue?_keyedAs right.ofValue?_keyedAs
    (ordered.imp Value.hasNaN_keyedAs Value.hasNaN_keyedAs)

end Key

/-! ### Records told apart -/

namespace Grouping

variable {Item : Type} {keyOf : Item → Key} {items : List Item} {groups : List (Group Item)}

/-- Two items are in one group if they have the same key. -/
theorem Partitions.share_iff (partitions : Partitions keyOf items groups) {left right : Item}
    (leftIn : left ∈ items) (rightIn : right ∈ items) :
    (∃ group ∈ groups, left ∈ group.items ∧ right ∈ group.items) ↔
      (keyOf left).same (keyOf right) = true := by
  constructor
  · rintro ⟨group, inGroups, holdsLeft, holdsRight⟩
    rw [← Key.same_congr ((partitions.mem_iff inGroups leftIn).mp holdsLeft)]
    exact (partitions.mem_iff inGroups rightIn).mp holdsRight
  · intro level
    obtain ⟨key, inKeys, same⟩ := partitions.covers left leftIn
    obtain ⟨group, inGroups, rfl⟩ := List.mem_map.mp inKeys
    refine ⟨group, inGroups, (partitions.mem_iff inGroups leftIn).mpr same, ?_⟩
    exact (partitions.mem_iff inGroups rightIn).mpr ((Key.same_congr same _).trans level)

theorem distinctFrom_sublist (seen : List Key) (items : List Item) :
    (distinctFrom keyOf seen items).Sublist items := by
  induction items generalizing seen with
  | nil => exact .slnil
  | cons item items inductionHypothesis =>
    rw [distinctFrom]
    split
    · exact (inductionHypothesis seen).cons item
    · exact (inductionHypothesis _).cons_cons item

/-- Every key is that of an item that is picked. -/
theorem exists_mem_distinctBy {item : Item} (member : item ∈ items) :
    ∃ picked ∈ distinctBy keyOf items, (keyOf picked).same (keyOf item) = true := by
  obtain ⟨key, inKeys, same⟩ := (partitions_groupBy keyOf items).covers item member
  rw [keys_groupBy, ← distinctBy_eq_firsts] at inKeys
  obtain ⟨picked, inPicked, rfl⟩ := List.mem_map.mp inKeys
  exact ⟨picked, inPicked, same⟩

end Grouping

/-- A row is found if it is there and its key is among those that match. -/
theorem Ranking.mem_rankByKeyScores_iff {Label : Type} {schema : Schema} {path : Path}
    {matching : List Key} {scores : List (Key × Single)} {rows : List (Row Label)}
    {row : Row Label} :
    row ∈ rankByKeyScores schema path matching scores rows ↔
      row ∈ rows ∧ ∃ key, Key.ofValue? (path.get schema row.record) = some key ∧
        ∃ other ∈ matching, other.same key = true := by
  have scored : ∀ entry : Single × Row Label, entry ∈ (rows.filterMap fun row =>
      (Key.ofValue? (path.get schema row.record)).bind fun key =>
        if matching.any (·.same key) then some (scoreOf scores key, row) else none) ↔
      entry.2 ∈ rows ∧ ∃ key, Key.ofValue? (path.get schema entry.2.record) = some key ∧
        matching.any (·.same key) = true ∧ scoreOf scores key = entry.1 := by
    intro entry
    rw [List.mem_filterMap]
    simp [Option.bind_eq_some_iff, Prod.ext_iff]
  rw [rankByKeyScores, rankScored, List.mem_map]
  simp only [List.mem_mergeSort, scored]
  constructor
  · rintro ⟨entry, ⟨member, key, keyed, matched, _⟩, rfl⟩
    exact ⟨member, key, keyed, List.any_eq_true.mp matched⟩
  · rintro ⟨member, key, keyed, matched⟩
    exact ⟨(scoreOf scores key, row), ⟨member, key, keyed, List.any_eq_true.mpr matched, rfl⟩, rfl⟩

namespace Query

variable {Label : Type}

/-- Whether a query tells its rows apart by what they show just as far as this is not alike: in the
groups that it forms, in the rows that it picks one of each, and in those that it finds for some
values. Nothing is said of two rows that both show a not-a-number. -/
structure TellsApartBy (alike : Value → Value → Prop) (query : Query Label) (text : String)
    (shown : Row Label → Value) (rows : List (Row Label)) : Prop where
  groups : ∃ groups, query.groupBy text = .ok groups ∧
    ∀ left ∈ rows, ∀ right ∈ rows, (shown left).hasNaN = false ∨ (shown right).hasNaN = false →
      ((∃ group ∈ groups, left ∈ group.items ∧ right ∈ group.items) ↔
        alike (shown left).keyedAs (shown right).keyedAs)
  picks : ∃ picked, query.distinctBy text = .ok picked ∧ picked.Sublist rows ∧
    (picked.Pairwise fun former latter =>
      (shown former).hasNaN = false ∨ (shown latter).hasNaN = false →
        ¬ alike (shown former).keyedAs (shown latter).keyedAs) ∧
    ∀ row ∈ rows, (shown row).hasNaN = false →
      ∃ former ∈ picked, alike (shown former).keyedAs (shown row).keyedAs
  finds : ∀ matching scores, ∃ found, query.fullTextSearch text matching scores = .ok found ∧
    ∀ row, (shown row).hasNaN = false →
      (row ∈ found ↔ row ∈ rows ∧ (Key.ofValue? (shown row)).isSome = true ∧
        ∃ value ∈ matching, alike value.keyedAs (shown row))

/-- What a query does with keys is to tell its rows apart by what they are keyed by. -/
theorem tellsApartBy {query : Query Label} {text : String} {path : Path} {rows : List (Row Label)}
    (keyable : query.keyablePath text = .ok path) (ran : query.materialize = .ok rows) :
    query.TellsApartBy (Value.AlikeBy Value.CountAsOne) text
      (fun row => path.get query.schema row.record) rows := by
  have grouped : query.groupBy text = .ok (Grouping.groupBy (query.keyAt path) rows) := by
    refine (query.run_eq_plan (Terminal.groupBy text)).trans ?_
    rw [ran, Terminal.plan, keyable]
    rfl
  have picked : query.distinctBy text = .ok (Grouping.distinctBy (query.keyAt path) rows) := by
    rw [distinctBy, keyable, ran]
    rfl
  have found (matching : List Value) (scores : List (Key × Single)) :
      query.fullTextSearch text matching scores = .ok (Ranking.rankByKeyScores query.schema path
        (matching.map Key.ofValue) scores rows) := by
    rw [fullTextSearch, keyable, ran]
    rfl
  refine ⟨⟨_, grouped, fun left leftIn right rightIn ordered => ?_⟩,
    ⟨_, picked, Grouping.distinctFrom_sublist [] rows, ?_, fun row member ordered => ?_⟩,
    fun matching scores => ⟨_, found matching scores, fun row ordered => ?_⟩⟩
  · rw [(Grouping.partitions_groupBy (query.keyAt path) rows).share_iff leftIn rightIn]
    exact Key.same_ofValue_iff_alikeBy ordered
  · rw [Grouping.distinctBy_eq_firsts]
    refine (Grouping.pairwise_firsts (query.keyAt path) rows).imp fun apart ordered alike => ?_
    exact absurd ((Key.same_ofValue_iff_alikeBy ordered).mpr alike) (Bool.eq_false_iff.mp apart)
  · obtain ⟨former, inPicked, level⟩ :
        ∃ former ∈ Grouping.distinctBy (query.keyAt path) rows, _ :=
      Grouping.exists_mem_distinctBy member
    exact ⟨former, inPicked, (Key.same_ofValue_iff_alikeBy (.inr ordered)).mp level⟩
  · rw [Ranking.mem_rankByKeyScores_iff, Option.isSome_iff_exists, ← exists_and_right]
    refine and_congr_right fun _ => exists_congr fun key => and_congr_right fun keyed => ?_
    simp only [List.mem_map, exists_exists_and_eq_and]
    refine exists_congr fun value => and_congr_right fun _ => ?_
    exact Key.same_iff_alikeBy value.ofValue?_keyedAs keyed (.inr ordered)

/-- Numbers have keys, and these are the same just if the numbers count as one. Of other values that
have keys, at most one of them with a not-a-number in it, the keys are the same just if the values
are alike, numbers within lists included. A query forms its groups, picks one row of each key and
finds rows for some values accordingly. -/
theorem keys_identify_numbers {query : Query Label} {text : String} {path : Path}
    {rows : List (Row Label)} (keyable : query.keyablePath text = .ok path)
    (ran : query.materialize = .ok rows) :
    (∀ left right : Value, left.quantity?.isSome = true → right.quantity?.isSome = true →
      ∃ leftKey rightKey, Key.ofValue? left = some leftKey ∧ Key.ofValue? right = some rightKey ∧
        (leftKey.same rightKey = true ↔ left.CountAsOne right)) ∧
    (∀ (left right : Value) (leftKey rightKey : Key), Key.ofValue? left = some leftKey →
      Key.ofValue? right = some rightKey → left.hasNaN = false ∨ right.hasNaN = false →
        (leftKey.same rightKey = true ↔ left.AlikeBy Value.CountAsOne right)) ∧
    query.TellsApartBy (Value.AlikeBy Value.CountAsOne) text
      (fun row => path.get query.schema row.record) rows := by
  refine ⟨fun left right leftExact rightExact => ?_, fun _ _ _ _ => Key.same_iff_alikeBy,
    tellsApartBy keyable ran⟩
  obtain ⟨leftKey, leftKeyed, leftNumber, ordered⟩ := Value.exists_key_of_quantity? leftExact
  obtain ⟨rightKey, rightKeyed, rightNumber, _⟩ := Value.exists_key_of_quantity? rightExact
  exact ⟨leftKey, rightKey, leftKeyed, rightKeyed,
    Key.same_iff_countAsOne leftKeyed rightKeyed leftNumber rightNumber (.inl ordered)⟩

end Query

/-- Two sensors whose only level is zero, as a word and as a negative double. -/
def Sample.zeroes : List (Row String) :=
  [⟨"word", [.value (.list [.int 0]), .absent]⟩,
    ⟨"double", [.value (.list [.float (-0)]), .absent]⟩]

/-- The two are in one group. -/
theorem Query.keys_identify_numbers_of_zeroes :
    let query := ofDataset ⟨Sample.sensors, Sample.zeroes⟩
    ∃ path groups, query.keyablePath "Levels" = .ok path ∧
      query.materialize = .ok Sample.zeroes ∧ query.groupBy "Levels" = .ok groups ∧
        ∃ group ∈ groups, ∀ row ∈ Sample.zeroes, row ∈ group.items := by
  intro query
  have keyable : query.keyablePath "Levels" = .ok _ := rfl
  have ran : query.materialize = .ok Sample.zeroes := rfl
  obtain ⟨_, _, apart⟩ := keys_identify_numbers keyable ran
  obtain ⟨groups, grouped, shares⟩ := apart.groups
  have alike : (Value.list [.int 0]).AlikeBy Value.CountAsOne (.list [.float (-0)]) :=
    ⟨Value.countAsOne_int_float_iff.mpr (by decide +kernel), trivial⟩
  have wordKeyed : (Value.list [.int 0]).keyedAs = .list [.int 0] := if_pos rfl
  have doubleKeyed : (Value.list [.float (-0)]).keyedAs = .list [.float (-0)] := if_pos rfl
  rw [← wordKeyed, ← doubleKeyed] at alike
  have wordIn : (⟨"word", _⟩ : Row String) ∈ Sample.zeroes := List.mem_cons_self
  have doubleIn : (⟨"double", _⟩ : Row String) ∈ Sample.zeroes := .tail _ (.head _)
  obtain ⟨group, member, first, second⟩ :=
    (shares _ wordIn _ doubleIn (.inl rfl)).mpr alike
  refine ⟨_, groups, keyable, ran, grouped, group, member, ?_⟩
  exact List.forall_mem_cons.mpr ⟨first, List.forall_mem_singleton.mpr second⟩

/-- The keys of different numbers may be the same. -/
theorem Key.not_all_identify_exactly :
    ¬ ∀ left right : Value, left.quantity?.isSome = true → right.quantity?.isSome = true →
      ((ofValue left).same (ofValue right) = true ↔ left.SameNumber right) := by
  intro exactly
  have level {word : Int64} {number : Double} (becomes : wordOfDouble? number = some word) :
      (ofValue (.int word)).same (ofValue (.float number)) = true :=
    int_same_ofDouble_iff.mpr becomes
  have number : (Value.float pastWords).quantity?.isSome = true :=
    Option.isSome_iff_exists.mpr ⟨_, Value.quantity?_float_eq_some_iff.mpr ⟨isNaN_pastWords, rfl⟩⟩
  exact Value.not_sameNumber_past ((exactly _ _ rfl number).mp (level wordOfDouble?_pastWords))

end RecordQuery

/-
This file proves that rankings are stable sorts.

Both orders of scores are total, although numeric order is not: a score that is not a number comes
behind all that are, in either direction, and is level with others of its kind. So a ranking by
scores is determined by them. It is the only list of the same items in which no item comes before
one of a better score, and items of level scores stay in the order they came in.
-/

import RecordQuery.Proofs.Sorting
import RecordQuery.Ranking

namespace RecordQuery.Ranking

open Number

variable {Item : Type}

/-! ### Orders of scores -/

/-- The place of a score among the numbers. -/
def placeOf (score : Single) : Int :=
  if score.isNaN then 0 else score.ordinal

/-- Numbers come first, the higher ones before the lower ones. -/
theorem compareDescending_eq (left right : Single) :
    compareDescending left right =
      (compare left.isNaN right.isNaN).then (compare (placeOf right) (placeOf left)) := by
  unfold compareDescending placeOf Binary.compare?
  cases left.isNaN <;> cases right.isNaN <;> rfl

/-- Numbers come first, the lower ones before the higher ones. -/
theorem compareAscending_eq (left right : Single) :
    compareAscending left right =
      (compare left.isNaN right.isNaN).then (compare (placeOf left) (placeOf right)) := by
  unfold compareAscending placeOf Binary.compare?
  cases left.isNaN <;> cases right.isNaN <;> rfl

/-- The order of scores that are ranked in a direction. -/
def compareScores (descending : Bool) : Single → Single → Ordering :=
  if descending then compareDescending else compareAscending

instance : Std.TransCmp fun left right : Single => compare left.isNaN right.isNaN :=
  transCmp_on Binary.isNaN compare

instance : Std.TransCmp fun left right => compare (placeOf left) (placeOf right) :=
  transCmp_on placeOf compare

instance (descending : Bool) : Std.TransCmp (compareScores descending) := by
  cases descending with
  | true =>
    have same : compareScores true = compareLex
        (fun left right : Single => compare left.isNaN right.isNaN)
        (fun left right => compare (placeOf right) (placeOf left)) := by
      funext left right
      exact compareDescending_eq left right
    rw [same]
    infer_instance
  | false =>
    have same : compareScores false = compareLex
        (fun left right : Single => compare left.isNaN right.isNaN)
        (fun left right => compare (placeOf left) (placeOf right)) := by
      funext left right
      exact compareAscending_eq left right
    rw [same]
    infer_instance

/-! ### Rankings -/

/-- The order of two items by their scores. -/
def compareBy (score : Item → Single) (descending : Bool) (left right : Item) : Ordering :=
  compareScores descending (score left) (score right)

instance (score : Item → Single) (descending : Bool) : Std.TransCmp (compareBy score descending) :=
  transCmp_on score (compareScores descending)

/-- Scoring the items beforehand changes nothing about the ranking. -/
theorem rankByScore_eq_mergeSort (score : Item → Single) (descending : Bool) (items : List Item) :
    rankByScore score descending items =
      items.mergeSort fun left right => compareBy score descending left right != .gt := by
  rw [rankByScore, rankScored,
    List.map_mergeSort (s := fun left right => compareBy score descending left right != .gt),
    List.map_map]
  · exact congrArg (List.mergeSort · _) (List.map_id items)
  · intro left inLeft right inRight
    obtain ⟨leftItem, _, rfl⟩ := List.mem_map.mp inLeft
    obtain ⟨rightItem, _, rfl⟩ := List.mem_map.mp inRight
    rfl

/-- Ranking by scores is the stable sort by their order. -/
theorem stablySorted_rankByScore (score : Item → Single) (descending : Bool) (items : List Item) :
    StablySorted (compareBy score descending) items (rankByScore score descending items) := by
  rw [rankByScore_eq_mergeSort]
  exact stablySorted_mergeSort items

/-- Items are ranked as what they are turned into is. -/
theorem rankByScore_map {Source : Type} (score : Item → Single) (descending : Bool)
    (change : Source → Item) (sources : List Source) :
    rankByScore score descending (sources.map change) =
      (rankByScore (fun source => score (change source)) descending sources).map change := by
  rw [rankByScore_eq_mergeSort, rankByScore_eq_mergeSort]
  exact (List.map_mergeSort (f := change) fun _ _ _ _ => rfl).symm

end RecordQuery.Ranking

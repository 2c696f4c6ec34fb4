/-
This file ranks items by scores that the source of the records cannot compute itself.

Every ranking is stable, and a score that is not a number ranks behind all that are, whichever way
the ranking runs.
-/

import RecordQuery.Cosine
import RecordQuery.Grouping
import RecordQuery.Settings.Basic

namespace RecordQuery.Ranking

open Number

/-- The order of two scores, the higher one first. -/
def compareDescending (left right : Single) : Ordering :=
  match left.isNaN, right.isNaN with
  | true, true => .eq
  | true, false => .gt
  | false, true => .lt
  | false, false => (right.compare? left).getD .eq

/-- The order of two scores, the lower one first. -/
def compareAscending (left right : Single) : Ordering :=
  match left.isNaN, right.isNaN with
  | true, true => .eq
  | true, false => .gt
  | false, true => .lt
  | false, false => (left.compare? right).getD .eq

/-- Ranks items that have their scores beside them. -/
def rankScored {Item : Type} (order : Single → Single → Ordering) (scored : List (Single × Item)) :
    List Item :=
  (scored.mergeSort fun left right => order left.1 right.1 != .gt).map Prod.snd

/-- Ranks items by their scores. -/
def rankByScore {Item : Type} (score : Item → Single) (descending : Bool) (items : List Item) :
    List Item :=
  rankScored (if descending then compareDescending else compareAscending)
    (items.map fun item => (score item, item))

/-- The score of a record by text and vector together. -/
def hybridScore (weights : Weights) (textScore : Single) (path : Path) (query : List Single)
    (record : Record) : Single :=
  let similarity := Cosine.similarity (path.read record).valueOrNull.vector? (some query)
  weights.text * textScore + weights.vector * similarity

/-- Ranks records by text and vector together, the best first. -/
def hybridRank {Label : Type} (textScore : Row Label → Single) (path : Path) (query : List Single)
    (weights : Weights) (rows : List (Row Label)) : List (Row Label) :=
  rankByScore (fun row => hybridScore weights (textScore row) path query row.record) true rows

/-- The score of a key in a table. Of several entries the last one counts, and a key without an
entry scores zero. -/
def scoreOf (scores : List (Key × Single)) (key : Key) : Single :=
  match scores.reverse.find? fun entry => entry.1.same key with
  | some (_, score) => score
  | none => 0

/-- Keeps the records whose key is among some keys and ranks them by the scores of their keys, the
highest first. -/
def rankByKeyScores {Label : Type} (schema : Schema) (path : Path) (matching : List Key)
    (scores : List (Key × Single)) (rows : List (Row Label)) : List (Row Label) :=
  rankScored compareDescending <| rows.filterMap fun row =>
    (Key.ofValue? (path.get schema row.record)).bind fun key =>
      if matching.any (·.same key) then some (scoreOf scores key, row) else none

end RecordQuery.Ranking

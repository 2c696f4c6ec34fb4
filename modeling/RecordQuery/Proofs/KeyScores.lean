/-
This file says which rows a search with scores of another engine finds, and in which order.

The search keys, keeps, scores and ranks in one pass, but it comes to two steps: it keeps the rows
whose leaf has one of the keys that match, and ranks these by the scores of their keys. A leaf that
is out of reach has the key of null, and a key without a score has the score zero. What matches has
a part in this by its keys alone, and the table of scores by the scores that it gives to these.
-/

import RecordQuery.Proofs.Identity
import RecordQuery.Proofs.Lifting
import RecordQuery.Proofs.Scoring

namespace RecordQuery

open Number

/-! ### Tables of scores -/

namespace Ranking

variable {scores : List (Key × Single)} {key other : Key} {score : Single}

/-- The score that a table gives to a key: that of the last entry for it, or zero without an
entry. -/
inductive Gives (scores : List (Key × Single)) (key : Key) : Single → Prop where
  | entry {earlier later : List (Key × Single)} {own : Key} {score : Single}
      (found : scores = earlier ++ (own, score) :: later) (level : own.same key = true)
      (last : ∀ entry ∈ later, entry.1.same key = false) : Gives scores key score
  | missing (absent : ∀ entry ∈ scores, entry.1.same key = false) : Gives scores key 0

theorem gives_scoreOf (scores : List (Key × Single)) (key : Key) :
    Gives scores key (scoreOf scores key) := by
  unfold scoreOf
  split
  · rename_i own score found
    obtain ⟨level, later, earlier, reversed, last⟩ := List.find?_eq_some_iff_append.mp found
    have split : scores = earlier.reverse ++ (own, score) :: later.reverse := by
      rw [← List.reverse_reverse scores, reversed]
      simp
    refine .entry split level fun entry member => ?_
    exact (Bool.not_eq_true' _).mp (last entry (List.mem_reverse.mp member))
  · rename_i none
    refine .missing fun entry member => ?_
    exact Bool.eq_false_of_not_eq_true
      (List.find?_eq_none.mp none entry (List.mem_reverse.mpr member))

/-- A table gives every key one score. -/
theorem gives_iff : Gives scores key score ↔ scoreOf scores key = score := by
  constructor
  · intro gives
    cases gives with
    | @entry earlier later own score found level last =>
      have first : (scores.reverse.find? fun entry => entry.1.same key) = some (own, score) := by
        refine List.find?_eq_some_iff_append.mpr ⟨level, later.reverse, earlier.reverse, ?_, ?_⟩
        · rw [found]
          simp
        · intro entry member
          rw [last entry (List.mem_reverse.mp member)]
          rfl
      rw [scoreOf, first]
    | missing absent =>
      have none : (scores.reverse.find? fun entry => entry.1.same key) = none := by
        refine List.find?_eq_none.mpr fun entry member => ?_
        rw [absent entry (List.mem_reverse.mp member)]
        exact Bool.false_ne_true
      rw [scoreOf, none]
  · rintro rfl
    exact gives_scoreOf scores key

/-- Keys that are the same have the same score. -/
theorem scoreOf_congr (level : key.same other = true) :
    scoreOf scores key = scoreOf scores other := by
  have entries : (fun entry : Key × Single => entry.1.same key) =
      fun entry => entry.1.same other := by
    funext entry
    rw [Key.same_comm, Key.same_congr level, Key.same_comm]
  rw [scoreOf, scoreOf, entries]

end Ranking

/-! ### Keys of rows -/

/-- Whether a key is that of one of some values. -/
def Key.isAmong (key : Key) (values : List Value) : Bool :=
  values.any fun value => (Key.ofValue value).same key

theorem Key.isAmong_iff {key : Key} {values : List Value} :
    key.isAmong values = true ↔ ∃ value ∈ values, (Key.ofValue value).same key = true :=
  List.any_eq_true

/-- Whether some values have all keys that some others have. -/
def Key.Covers (values others : List Value) : Prop :=
  ∀ other ∈ others, ∃ value ∈ values, (Key.ofValue value).same (Key.ofValue other) = true

theorem Key.isAmong_of_covers {key : Key} {values others : List Value}
    (covers : Key.Covers values others) (among : key.isAmong others = true) :
    key.isAmong values = true := by
  obtain ⟨other, member, level⟩ := Key.isAmong_iff.mp among
  obtain ⟨value, inValues, same⟩ := covers other member
  refine Key.isAmong_iff.mpr ⟨value, inValues, ?_⟩
  rwa [Key.same_congr same]

theorem Key.isAmong_eq_of_covers {values others : List Value} (covers : Key.Covers values others)
    (coversBack : Key.Covers others values) (key : Key) :
    key.isAmong others = key.isAmong values :=
  Bool.eq_iff_iff.mpr ⟨Key.isAmong_of_covers covers, Key.isAmong_of_covers coversBack⟩

/-- Values that are the same number have the same key, in whatever form. -/
theorem Key.same_ofValue_of_sameNumber {left right : Value} (same : left.SameNumber right) :
    (Key.ofValue left).same (Key.ofValue right) = true := by
  obtain ⟨number, leftExact, rightExact⟩ := same
  obtain ⟨leftKey, leftKeyed, leftNumber, ordered⟩ :=
    Value.exists_key_of_quantity? (Option.isSome_iff_exists.mpr ⟨_, leftExact⟩)
  obtain ⟨rightKey, rightKeyed, rightNumber, _⟩ :=
    Value.exists_key_of_quantity? (Option.isSome_iff_exists.mpr ⟨_, rightExact⟩)
  rw [Key.ofValue, Key.ofValue, leftKeyed, rightKeyed]
  exact (Key.same_iff_countAsOne leftKeyed rightKeyed leftNumber rightNumber (.inl ordered)).mpr
    (.same ⟨number, leftExact, rightExact⟩)

namespace Path

/-- The key of the leaf that a path leads to, if the leaf has one. Out of reach it is that of
null. -/
def leafKey? (path : Path) (record : Record) : Option Key :=
  Key.ofValue? (path.read record).valueOrNull

/-- Whether the leaf of a path has the key of one of some values. -/
def matchesOn (path : Path) (matching : List Value) (record : Record) : Bool :=
  (path.leafKey? record).any (·.isAmong matching)

/-- The score that a table gives to the leaf of a path. -/
def scoreOn (path : Path) (scores : List (Key × Single)) (record : Record) : Single :=
  ((path.leafKey? record).map (Ranking.scoreOf scores)).getD 0

end Path

variable {Label : Type} {query : Query Label} {text : String} {path : Path}
  {rows : List (Row Label)}

/-- A path to a field with keys reads the same in both ways. -/
theorem Query.get_of_keyable (keyable : query.keyablePath text = .ok path) (record : Record) :
    path.get query.schema record = (path.read record).valueOrNull := by
  obtain ⟨resolved, suits⟩ := Schema.resolveSuited_eq_ok_iff.mp keyable
  cases read : path.read record with
  | value value => exact path.get_of_value _ read
  | unreachable hop => exact path.get_of_unreachable _ read
  | present =>
    obtain ⟨name, isRecord⟩ := path.kind_of_present resolved read
    rw [isRecord] at suits
    contradiction

/-- A search with scores keeps the rows that match and ranks them. -/
theorem Ranking.rankByKeyScores_eq (keyable : query.keyablePath text = .ok path)
    (matching : List Value) (scores : List (Key × Single)) (rows : List (Row Label)) :
    rankByKeyScores query.schema path (matching.map Key.ofValue) scores rows =
      rankByScore (fun row => path.scoreOn scores row.record) true
        (rows.filter fun row => path.matchesOn matching row.record) := by
  have scored (row : Row Label) :
      ((Key.ofValue? (path.get query.schema row.record)).bind fun key =>
        if (matching.map Key.ofValue).any (·.same key) then some (scoreOf scores key, row)
        else none) =
      if path.matchesOn matching row.record then some (path.scoreOn scores row.record, row)
      else none := by
    rw [Query.get_of_keyable keyable, Path.matchesOn, Path.scoreOn, Path.leafKey?]
    cases Key.ofValue? (path.read row.record).valueOrNull with
    | none => rfl
    | some key =>
      simp only [Option.bind_some, Option.any_some, List.any_map]
      rfl
  unfold rankByKeyScores rankByScore
  rw [funext scored, ← List.filterMap_filter, List.filterMap_eq_map']
  rfl

namespace Path

variable {matching : List Value} {record : Record}

theorem matchesOn_iff : path.matchesOn matching record = true ↔
    ∃ key, path.leafKey? record = some key ∧
      ∃ value ∈ matching, (Key.ofValue value).same key = true := by
  rw [matchesOn, Option.any_eq_true]
  exact exists_congr fun key => and_congr_right fun _ => Key.isAmong_iff

theorem scoreOn_of_leafKey? (scores : List (Key × Single)) {key : Key}
    (keyed : path.leafKey? record = some key) :
    path.scoreOn scores record = Ranking.scoreOf scores key := by
  rw [scoreOn, keyed]
  rfl

/-- What a table says of keys that do not match has no part in the scores of those that do. -/
theorem scoreOn_congr {scores others : List (Key × Single)}
    (agree : ∀ value ∈ matching, Ranking.scoreOf others (Key.ofValue value) =
      Ranking.scoreOf scores (Key.ofValue value))
    (found : path.matchesOn matching record = true) :
    path.scoreOn others record = path.scoreOn scores record := by
  obtain ⟨key, keyed, value, member, level⟩ := matchesOn_iff.mp found
  rw [scoreOn_of_leafKey? others keyed, scoreOn_of_leafKey? scores keyed,
    ← Ranking.scoreOf_congr level, ← Ranking.scoreOf_congr level, agree value member]

end Path

namespace Query

theorem fullTextSearch_eq (keyable : query.keyablePath text = .ok path)
    (ran : query.materialize = .ok rows) (matching : List Value) (scores : List (Key × Single)) :
    query.fullTextSearch text matching scores =
      .ok (Ranking.rankByScore (fun row => path.scoreOn scores row.record) true
        (rows.filter fun row => path.matchesOn matching row.record)) := by
  rw [← Ranking.rankByKeyScores_eq keyable, fullTextSearch, keyable, ran]
  rfl

/-- A search with scores of another engine succeeds where the query does, if its path is one to a
field with keys. It finds the rows whose leaf has the key of a value that matches, each as often as
it is there, and ranks them by the scores that the table gives to their keys, the highest first.
Values with the same keys find the same, in the same order, and one number has one key in all its
forms; so do tables that give the same scores to the keys that match. -/
theorem fullTextSearch_ranks_matches (keyable : query.keyablePath text = .ok path)
    (ran : query.materialize = .ok rows) (matching : List Value) (scores : List (Key × Single)) :
    ∃ found, query.fullTextSearch text matching scores = .ok found ∧
      Ranking.RanksBy (fun row => path.scoreOn scores row.record) true
        (rows.filter fun row => path.matchesOn matching row.record) found ∧
      (∀ record, path.matchesOn matching record = true ↔ ∃ key, path.leafKey? record = some key ∧
        ∃ value ∈ matching, (Key.ofValue value).same key = true) ∧
      (∀ record key, path.leafKey? record = some key → ∀ score,
        Ranking.Gives scores key score ↔ path.scoreOn scores record = score) ∧
      (∀ others : List Value, Key.Covers matching others → Key.Covers others matching →
        query.fullTextSearch text others scores = .ok found) ∧
      (∀ left right : Value, left.SameNumber right →
        (Key.ofValue left).same (Key.ofValue right) = true) ∧
      ∀ others : List (Key × Single), (∀ value ∈ matching,
        Ranking.scoreOf others (Key.ofValue value) = Ranking.scoreOf scores (Key.ofValue value)) →
          query.fullTextSearch text matching others = .ok found := by
  refine ⟨_, fullTextSearch_eq keyable ran matching scores, Ranking.ranksBy_rankByScore _ _ _,
    fun _ => Path.matchesOn_iff, ?_, ?_, fun _ _ => Key.same_ofValue_of_sameNumber, ?_⟩
  · intro record key keyed score
    rw [Path.scoreOn_of_leafKey? scores keyed]
    exact Ranking.gives_iff
  · intro others covers coversBack
    have same : path.matchesOn others = path.matchesOn matching := by
      funext record
      unfold Path.matchesOn
      rw [funext (Key.isAmong_eq_of_covers covers coversBack)]
    rw [fullTextSearch_eq keyable ran, same]
  · intro others agree
    rw [fullTextSearch_eq keyable ran]
    refine congrArg Except.ok (Ranking.rankByScore_congr (fun row member => ?_) true)
    exact Path.scoreOn_congr agree (List.mem_filter.mp member).2

end Query

/-- A node that leads to another one of some weight. -/
def Sample.nodeTo (label : String) (weight : Value) : Row String :=
  ⟨label, [.value (.text label), .value .null,
    .record [.value (.text ""), .value weight, .absent]]⟩

/-- A node that leads to none. -/
def Sample.lastNode : Row String :=
  ⟨"last", [.value (.text "last"), .value (.int 2), .absent]⟩

/-- Three nodes that lead to others, and the last one. -/
def Sample.linked : List (Row String) :=
  [nodeTo "two" (.int 2), nodeTo "five" (.int 5), nodeTo "three" (.int 3), lastNode]

/-- Scores for weights: a negative one, one that is not a number and one for a weight that is not
searched for. Null has no score. -/
def Sample.weightScores : List (Key × Single) :=
  [(.int 2, -1), (.int 5, Binary.invalid), (.int 3, 9)]

/-- Null scores zero and comes before the negative score, what is not a number comes last. The same
is found by a double in place of a word and a vector in place of null, and by a table in which the
score of a weight is given twice. -/
theorem Query.fullTextSearch_ranks_matches_of_linked :
    let query := ofDataset ⟨Sample.nodes, Sample.linked⟩
    let found := [Sample.lastNode, Sample.nodeTo "two" (.int 2), Sample.nodeTo "five" (.int 5)]
    query.fullTextSearch "Next.Weight" [.int 2, .null, .int 5] Sample.weightScores = .ok found ∧
      query.fullTextSearch "Next.Weight" [.int 5, .float 2, .vector [], .float 2]
        Sample.weightScores = .ok found ∧
      query.fullTextSearch "Next.Weight" [.int 2, .null, .int 5]
        [(.int 2, 7), (.int 5, Binary.invalid), (.int 2, -1)] = .ok found := by
  intro query found
  have keyable : query.keyablePath "Next.Weight" = .ok _ := rfl
  have ran : query.materialize = .ok Sample.linked := rfl
  obtain ⟨ranked, searched, ranks, _, _, byKeys, oneNumber, byScores⟩ :=
    fullTextSearch_ranks_matches keyable ran [.int 2, .null, .int 5] Sample.weightScores
  change Ranking.RanksBy _ true
    [Sample.nodeTo "two" (.int 2), Sample.nodeTo "five" (.int 5), Sample.lastNode] ranked at ranks
  have order : ranked = found := by
    refine (Ranking.stablySorted_of_ranksBy ranks).unique (stablySorted_of_pairwise_lt ?_ ?_)
    · exact @List.perm_append_comm _ [Sample.lastNode] _
    · decide +kernel
  rw [order] at searched byKeys byScores
  have two : (Key.ofValue (.float 2)).same (Key.ofValue (.int 2)) = true := by
    refine oneNumber (.float 2) (.int 2) ⟨((2 : Int) : ℚ), ?_, rfl⟩
    have number : (2 : Double).isNaN = false := by decide +kernel
    exact Value.quantity?_float_eq_some_iff.mpr ⟨number,
      (Binary.exact_eq_intCast_iff number).mpr ⟨by decide +kernel, by decide +kernel⟩⟩
  have twoBack : (Key.ofValue (.int 2)).same (Key.ofValue (.float 2)) = true := by
    rwa [Key.same_comm]
  have covers : Key.Covers [.int 2, .null, .int 5] [.int 5, .float 2, .vector [], .float 2] :=
    List.forall_mem_cons.mpr ⟨⟨.int 5, by simp, rfl⟩,
      List.forall_mem_cons.mpr ⟨⟨.int 2, by simp, twoBack⟩,
        List.forall_mem_cons.mpr ⟨⟨.null, by simp, rfl⟩,
          List.forall_mem_singleton.mpr ⟨.int 2, by simp, twoBack⟩⟩⟩⟩
  have coversBack : Key.Covers [.int 5, .float 2, .vector [], .float 2] [.int 2, .null, .int 5] :=
    List.forall_mem_cons.mpr ⟨⟨.float 2, by simp, two⟩,
      List.forall_mem_cons.mpr ⟨⟨.vector [], by simp, rfl⟩,
        List.forall_mem_singleton.mpr ⟨.int 5, by simp, rfl⟩⟩⟩
  exact ⟨searched, byKeys _ covers coversBack, byScores _ (by decide +kernel)⟩

end RecordQuery

/-
This file proves that pages cover a query exactly once.

A page passes over some rows and keeps some of those that follow. Every page replays the query from
its start, so that pages taken one after the other fit together only because every replay comes to
the same rows in the same order. Put end to end, the pages of one size are the whole query. A page
of a page is a page again, and a query that fails has no page that does not.
-/

import Mathlib.Algebra.Order.Floor.Div
import Mathlib.GroupTheory.GroupAction.Ring
import RecordQuery.Proofs.Replay

namespace RecordQuery

variable {Label : Type}

/-! ### Pages of a list -/

/-- The first pages of some size, end to end, are the rows that they have places for. -/
theorem flatMap_pages (size count : Nat) (rows : List (Row Label)) :
    (List.range count).flatMap (fun number => (rows.drop (number * size)).take size) =
      rows.take (count * size) := by
  induction count with
  | zero => rw [Nat.zero_mul, List.take_zero, List.range_zero, List.flatMap_nil]
  | succ count inductionHypothesis =>
    rw [List.range_succ, List.flatMap_append, List.flatMap_singleton, inductionHypothesis,
      Nat.succ_mul, List.take_add]

/-- What a page keeps of another lies further on by what it passes over, and ends where the first
of the two ends. -/
theorem page_of_page (skip take further fewer : Nat) (rows : List (Row Label)) :
    ((((rows.drop skip).take take).drop further).take fewer) =
      (rows.drop (skip + further)).take (min fewer (take - further)) := by
  rw [List.drop_take, List.drop_drop, List.take_take]

namespace Query

/-! ### Pages of a query -/

theorem materialize_paginate (query : Query Label) (skip take : Nat) :
    (query.paginate skip take).materialize =
      query.materialize.map fun rows => (rows.drop skip).take take := by
  have paged : (query.paginate skip take).materialize =
      query.materialize.map (rowsAt skip take) := materialize_enact_page query skip take
  rw [paged, funext (rowsAt_eq skip take)]

theorem materialize_paginate_paginate (query : Query Label) (skip take further fewer : Nat) :
    ((query.paginate skip take).paginate further fewer).materialize =
      (query.paginate (skip + further) (min fewer (take - further))).materialize := by
  rw [materialize_paginate, materialize_paginate, materialize_paginate, map_map,
    ← funext (page_of_page skip take further fewer)]

/-- The pages of one size hold every row of a query once: as many pages as it takes, put end to
end, are all that the query comes to, and those after them are empty. A page of a page is the page
that begins as far on as both pass over and ends with the first of them to end. If the query fails,
so does every page of it, in the same way. -/
theorem pages_cover (query : Query Label) :
    (∀ (rows : List (Row Label)) (size : Nat), query.materialize = .ok rows → 0 < size →
        ∃ page : Nat → List (Row Label),
          (∀ number, (query.paginate (number * size) size).materialize = .ok (page number)) ∧
            (List.range (rows.length ⌈/⌉ size)).flatMap page = rows ∧
            ∀ number, rows.length ⌈/⌉ size ≤ number → page number = []) ∧
      (∀ skip take further fewer : Nat,
        ((query.paginate skip take).paginate further fewer).materialize =
          (query.paginate (skip + further) (min fewer (take - further))).materialize) ∧
      ∀ error : QueryError, query.materialize = .error error →
        ∀ skip take : Nat, (query.paginate skip take).materialize = .error error := by
  refine ⟨fun rows size ran positive => ?_, query.materialize_paginate_paginate,
    fun error failed skip take => materialize_enact_of_error failed (.page skip take)⟩
  have enough : ∀ count, rows.length ⌈/⌉ size ≤ count → rows.length ≤ count * size := by
    intro count covered
    rw [Nat.mul_comm]
    exact (ceilDiv_le_iff_le_mul positive).mp covered
  refine ⟨fun number => (rows.drop (number * size)).take size, fun number => ?_, ?_,
    fun number later => ?_⟩
  · rw [materialize_paginate, ran]
    rfl
  · rw [flatMap_pages]
    exact List.take_of_length_le (enough _ le_rfl)
  · show (rows.drop (number * size)).take size = []
    rw [List.drop_eq_nil_of_le (enough number later), List.take_nil]

/-- Four points fill two pages of three, the second of which is short. Out of reach, they have no
page at all. -/
theorem pages_cover_points :
    (∃ page : Nat → List (Row String),
        (∀ number, ((Query.ofDataset Sample.points).paginate (number * 3) 3).materialize =
            .ok (page number)) ∧
          (List.range (Sample.points.rows.length ⌈/⌉ 3)).flatMap page = Sample.points.rows ∧
          ∀ number, Sample.points.rows.length ⌈/⌉ 3 ≤ number → page number = []) ∧
      ∀ skip take : Nat,
        ((Query.ofSource (.ofDataset Sample.points (.remote (some "closed")))).paginate skip
            take).materialize = .error (.source "closed") :=
  ⟨(pages_cover (Query.ofDataset Sample.points)).1 Sample.points.rows 3 rfl
      (Nat.zero_lt_succ 2),
    (pages_cover (Query.ofSource (.ofDataset Sample.points (.remote (some "closed"))))).2.2 _ rfl⟩

end Query

end RecordQuery

/-
This file says what a query for live records comes to.

A flag is a name that leads to a truth value. Names that lead nowhere or to something else are no
flags, whatever records hold there. The test of live records exists just if there is a flag, and it
has an answer on every record: yes if the flag for active records reads as true and the one for
archived records as false, as far as they are flags. A flag that is null or out of reach reads as
neither. So a query for live records keeps these in their order and fails only where the query
itself does, and where there is no flag, it is the query itself.
-/

import RecordQuery.Proofs.Liveness
import RecordQuery.Proofs.Running

namespace RecordQuery

/-- A truth value in a slot is what it reads as. -/
theorem Slot.truth?_eq_some_iff {slot : Slot} {truth : Bool} :
    slot.truth? = some truth ↔ slot = .value (.bool truth) := by
  cases slot with
  | present | unreachable => simp [truth?]
  | value value => cases value <;> simp [truth?]

namespace SoftDelete

variable {guard : SoftDelete} {schema : Schema} {field : Option String} {expected : Bool}
  {record : Record} {path : Path}

/-! ### Flags -/

/-- Whether a name leads to a truth value, which is at a path. -/
def NamesFlag (schema : Schema) (field : Option String) (path : Path) : Prop :=
  ∃ name, field = some name ∧ schema.resolve name = .ok path ∧ path.kind = .bool

theorem namesFlag_iff : NamesFlag schema field path ↔
    field.bind schema.resolve? = some path ∧ path.kind = .bool := by
  rw [Option.bind_eq_some_iff]
  constructor
  · rintro ⟨name, named, resolved, isBool⟩
    exact ⟨⟨name, named, Schema.resolve?_eq_some_iff.mpr resolved⟩, isBool⟩
  · rintro ⟨⟨name, named, resolved⟩, isBool⟩
    exact ⟨name, named, Schema.resolve?_eq_some_iff.mp resolved, isBool⟩

/-- There is nothing to tell live records by just if there is no flag. -/
theorem isIdle_iff : guard.IsIdle schema ↔ ∀ path,
    ¬ NamesFlag schema guard.activeField path ∧ ¬ NamesFlag schema guard.archivedField path := by
  simp only [IsIdle, namesFlag_iff, List.forall_mem_cons, List.not_mem_nil, false_imp_iff,
    implies_true, and_true, not_and, forall_and]

theorem flagPasses_iff : flagPasses schema field expected record = true ↔
    ∀ path, NamesFlag schema field path → path.read record = .value (.bool expected) := by
  simp only [namesFlag_iff, ← Slot.truth?_eq_some_iff]
  unfold flagPasses
  cases field.bind schema.resolve? with
  | none => simp
  | some path =>
    by_cases isBool : path.kind = .bool
    · simp [isBool]
    · simp [isBool, bne_iff_ne.mpr isBool]

/-! ### Live records -/

/-- Whether the flags of a record say that it is live. -/
structure IsLive (guard : SoftDelete) (schema : Schema) (record : Record) : Prop where
  active : ∀ path, NamesFlag schema guard.activeField path →
    path.read record = .value (.bool true)
  archived : ∀ path, NamesFlag schema guard.archivedField path →
    path.read record = .value (.bool false)

theorem passes_iff : guard.passes schema record = true ↔ guard.IsLive schema record := by
  rw [passes, Bool.and_eq_true_iff, flagPasses_iff, flagPasses_iff]
  exact ⟨fun parts => ⟨parts.1, parts.2⟩, fun live => ⟨live.active, live.archived⟩⟩

instance : Decidable (guard.IsLive schema record) :=
  decidable_of_iff _ passes_iff

theorem passes_eq : guard.passes schema record = decide (guard.IsLive schema record) :=
  Bool.eq_iff_iff.mpr (passes_iff.trans decide_eq_true_iff.symm)

/-- A record is not live if one of its flags is null, out of reach, or anything else that is no
truth value. -/
theorem not_isLive_of_truth? (flag : NamesFlag schema guard.activeField path ∨
    NamesFlag schema guard.archivedField path) (unread : (path.read record).truth? = none) :
    ¬ guard.IsLive schema record := by
  intro live
  rcases flag with active | archived
  · rw [live.active path active] at unread
    exact absurd unread (Option.some_ne_none true)
  · rw [live.archived path archived] at unread
    exact absurd unread (Option.some_ne_none false)

/-! ### Queries -/

/-- The test of live records can always be built, and there is none just if no name is that of a
flag. It has an answer on every record, whether the record is live, which no record is that has
something other than a truth value in a flag. A query for live records keeps just these, in order,
of what comes out without it, and fails where that does. Where there is no test, every terminal
comes to the same on it as on the query itself. -/
theorem live_records_are_kept (guard : SoftDelete) (schema : Schema) :
    ∃ test, guard.livePredicate schema = .ok test ∧
      (test = none ↔ ∀ path, ¬ NamesFlag schema guard.activeField path ∧
        ¬ NamesFlag schema guard.archivedField path) ∧
      (∀ predicate, test = some predicate → ∀ record,
        predicate.evaluate record = .ok (decide (guard.IsLive schema record))) ∧
      (∀ path record, NamesFlag schema guard.activeField path ∨
          NamesFlag schema guard.archivedField path →
        (path.read record).truth? = none → ¬ guard.IsLive schema record) ∧
      ∀ (Label : Type) (query : Query Label), query.schema = schema →
        ∃ live, query.filterLive guard = .ok live ∧
          live.materialize = query.materialize.map
            (List.filter fun row => decide (guard.IsLive schema row.record)) ∧
          (test = none → ∀ (Result : Type) (terminal : Terminal Label Result),
            live.run terminal = query.run terminal ∧
              ∀ cancellation, live.await cancellation terminal =
                query.await cancellation terminal) := by
  obtain ⟨test, built, realized⟩ := guard.livePredicate_realized schema
  refine ⟨test, built, ?_, fun predicate found record => ?_,
    fun path record flag unread => not_isLive_of_truth? flag unread, fun Label query same => ?_⟩
  · rw [← isIdle_iff, ← livePredicate_eq_none_iff, built, Except.ok.injEq]
  · rw [found] at realized
    have realizes : predicate.Realizes (guard.passes schema) := realized
    rw [realizes.evaluate, passes_eq]
  · rw [← same] at built realized ⊢
    refine ⟨_, map_eq_ok_iff.mpr ⟨test, built, rfl⟩, ?_⟩
    simp only [← passes_eq]
    cases test with
    | none =>
      have all : ∀ record, guard.passes query.schema record = true := realized
      have whole : (List.filter fun row : Row Label => guard.passes query.schema row.record) = id :=
        funext fun rows => List.filter_eq_self.mpr fun row _ => all row.record
      refine ⟨?_, fun _ Result terminal => ⟨rfl, fun _ => rfl⟩⟩
      rw [whole]
      exact (id_map query.materialize).symm
    | some predicate =>
      refine ⟨query.materialize_filter_eq_map realized, fun missing => ?_⟩
      contradiction

end SoftDelete

/-- Accounts whose flags may be null, one of them in the owner, who may not be there. -/
def Sample.accounts : Schema :=
  ⟨[⟨"Account", [⟨"Archived", true, .scalar .bool⟩, ⟨"Owner", true, .record 1⟩]⟩,
    ⟨"Owner", [⟨"Active", true, .scalar .bool⟩]⟩]⟩

/-- An account with an owner. -/
def Sample.account (label : String) (archived active : Value) : Row String :=
  ⟨label, [.value archived, .record [.value active]]⟩

/-- An account without an owner. -/
def Sample.orphan : Row String :=
  ⟨"orphan", [.value (.bool false), .absent]⟩

/-- A record is not live if a flag is null or out of reach. -/
theorem SoftDelete.live_records_are_kept_of_accounts :
    let guard : SoftDelete := ⟨some "owner.ACTIVE", some "archived"⟩
    let live := Sample.account "live" (.bool false) (.bool true)
    ∃ query, (Query.ofDataset ⟨Sample.accounts, [Sample.orphan, live,
        Sample.account "archived" (.bool true) (.bool true),
        Sample.account "unknown" .null (.bool true),
        Sample.account "undecided" (.bool false) .null, live]⟩).filterLive guard = .ok query ∧
      query.materialize = .ok [live, live] := by
  intro guard live
  obtain ⟨test, _, _, _, _, queries⟩ := live_records_are_kept guard Sample.accounts
  obtain ⟨query, kept, materialized, _⟩ := queries String (Query.ofDataset ⟨Sample.accounts, _⟩) rfl
  exact ⟨query, kept, materialized⟩

end RecordQuery

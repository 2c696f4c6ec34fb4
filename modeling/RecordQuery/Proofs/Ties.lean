/-
This file says what sorting by keys comes to, key by key.

Two records tie if they are level in every key, which is the same in both directions. One precedes
another if there is a key that puts it first, and the two tie on the keys before that one. Sorting
lets items precede those that follow them or tie with them, and leaves those that tie in the order
they came in. There is only one such list.
-/

import RecordQuery.Proofs.Sorting

namespace RecordQuery.SortKey

variable {key : SortKey} {keys : List SortKey} {left right : Record}

/-! ### Ties and precedence -/

/-- Whether two records are level in every key. -/
def Tie (keys : List SortKey) (left right : Record) : Prop :=
  ∀ key ∈ keys, (key.valueOn left).totalCompare (key.valueOn right) = .eq

instance : Decidable (Tie keys left right) :=
  inferInstanceAs (Decidable (∀ key ∈ keys, _ = Ordering.eq))

/-- Whether a key puts one record strictly before another: the one with the lesser value, or with
the greater one if the key is descending. -/
def PutsFirst (key : SortKey) (left right : Record) : Prop :=
  (key.valueOn left).totalCompare (key.valueOn right) =
    match key.direction with
    | .ascending => .lt
    | .descending => .gt

/-- Whether one record stands strictly before another by the first key in which they are not
level. -/
def Precedes (keys : List SortKey) (left right : Record) : Prop :=
  ∃ before key after, keys = before ++ key :: after ∧ Tie before left right ∧
    key.PutsFirst left right

theorem compareOn_eq_eq_iff : key.compareOn left right = .eq ↔
    (key.valueOn left).totalCompare (key.valueOn right) = .eq := by
  unfold compareOn compareValues
  cases key.direction with
  | ascending => exact Iff.rfl
  | descending => exact Ordering.swap_eq_eq

theorem compareOn_eq_lt_iff : key.compareOn left right = .lt ↔ key.PutsFirst left right := by
  unfold compareOn compareValues PutsFirst
  cases key.direction with
  | ascending => exact Iff.rfl
  | descending => exact Ordering.swap_eq_lt

theorem lexicographic_eq_eq_iff : lexicographic keys left right = .eq ↔ Tie keys left right := by
  induction keys with
  | nil => simp [lexicographic, Tie]
  | cons key keys inductionHypothesis =>
    rw [lexicographic, Ordering.then_eq_eq, compareOn_eq_eq_iff, inductionHypothesis]
    simp only [Tie, List.forall_mem_cons]

/-- The first key decides, or there is a tie on it and the others decide. -/
theorem precedes_cons_iff : Precedes (key :: keys) left right ↔
    key.PutsFirst left right ∨
      (key.valueOn left).totalCompare (key.valueOn right) = .eq ∧ Precedes keys left right := by
  constructor
  · rintro ⟨before, decisive, after, same, tie, first⟩
    cases before with
    | nil =>
      obtain ⟨rfl, _⟩ := List.cons.inj same
      exact .inl first
    | cons other before =>
      obtain ⟨rfl, rfl⟩ := List.cons.inj same
      obtain ⟨level, tie⟩ := List.forall_mem_cons.mp tie
      exact .inr ⟨level, before, decisive, after, rfl, tie, first⟩
  · rintro (first | ⟨level, before, decisive, after, rfl, tie, first⟩)
    · exact ⟨[], key, keys, rfl, by simp [Tie], first⟩
    · exact ⟨key :: before, decisive, after, rfl, List.forall_mem_cons.mpr ⟨level, tie⟩, first⟩

theorem lexicographic_eq_lt_iff :
    lexicographic keys left right = .lt ↔ Precedes keys left right := by
  induction keys with
  | nil => simp [lexicographic, Precedes]
  | cons key keys inductionHypothesis =>
    rw [lexicographic, Ordering.then_eq_lt, compareOn_eq_lt_iff, compareOn_eq_eq_iff,
      inductionHypothesis, precedes_cons_iff]

theorem lexicographic_ne_gt_iff : lexicographic keys left right ≠ .gt ↔
    Precedes keys left right ∨ Tie keys left right := by
  rw [← lexicographic_eq_lt_iff, ← lexicographic_eq_eq_iff]
  cases lexicographic keys left right <;> simp

theorem levelWith_lexicographicOn {Item : Type} (recordOf : Item → Record) (item : Item)
    (items : List Item) :
    levelWith (lexicographicOn keys recordOf) item items =
      items.filter fun other => Tie keys (recordOf item) (recordOf other) := by
  simp only [levelWith, lexicographicOn, lexicographic_eq_eq_iff]

/-! ### Sorting by keys -/

/-- Sorting by keys is to rearrange the items so that of any two the former precedes the latter or
ties with it, and to keep the items that tie in the order they came in. That leaves no choice.
Without keys nothing is rearranged. -/
theorem sort_eq_iff_keeps_ties {Item : Type} (keys : List SortKey) (recordOf : Item → Record)
    (items sorted : List Item) :
    (sort keys recordOf items = sorted ↔
      sorted.Perm items ∧
        (sorted.Pairwise fun former latter =>
          Precedes keys (recordOf former) (recordOf latter) ∨
            Tie keys (recordOf former) (recordOf latter)) ∧
        ∀ item, (sorted.filter fun other => Tie keys (recordOf item) (recordOf other)) =
          items.filter fun other => Tie keys (recordOf item) (recordOf other)) ∧
      sort [] recordOf items = items := by
  refine ⟨?_, rfl⟩
  simp only [← stablySorted_iff, ← lexicographic_ne_gt_iff, ← levelWith_lexicographicOn]
  constructor
  · intro sorts
    exact ⟨sorts.perm, sorts.ordered, sorts.stable⟩
  · rintro ⟨perm, ordered, stable⟩
    exact ⟨perm, ordered, stable⟩

end RecordQuery.SortKey

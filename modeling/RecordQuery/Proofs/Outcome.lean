/-
This file reads computations that can fail backwards. The outcome of the whole, be it a result or a
fault, tells the outcomes of the parts.
-/

namespace RecordQuery

variable {Fault Other Input Output : Type} {first : Except Fault Input}

/-- What follows a computation gives a result only if the computation does. -/
theorem bind_eq_ok_iff {next : Input → Except Fault Output} {output : Output} :
    first.bind next = .ok output ↔ ∃ input, first = .ok input ∧ next input = .ok output := by
  refine ⟨fun ran => ?_, fun ⟨input, result, ran⟩ => ?_⟩
  · cases first with
    | error fault => contradiction
    | ok input => exact ⟨input, rfl, ran⟩
  · rw [result]
    exact ran

/-- The whole fails if the computation does, or if what follows its result does. -/
theorem bind_eq_error_iff {next : Input → Except Fault Output} {fault : Fault} :
    first.bind next = .error fault ↔
      first = .error fault ∨ ∃ input, first = .ok input ∧ next input = .error fault := by
  refine ⟨fun ran => ?_, fun failed => ?_⟩
  · cases first with
    | error fault => exact .inl (congrArg _ (Except.error.inj ran))
    | ok input => exact .inr ⟨input, rfl, ran⟩
  · rcases failed with early | ⟨input, result, late⟩
    · rw [early]
      rfl
    · rw [result]
      exact late

theorem map_eq_ok_iff {change : Input → Output} {output : Output} :
    first.map change = .ok output ↔ ∃ input, first = .ok input ∧ change input = output := by
  refine ⟨fun mapped => ?_, fun ⟨input, result, changed⟩ => ?_⟩
  · cases first with
    | error fault => contradiction
    | ok input => exact ⟨input, rfl, Except.ok.inj mapped⟩
  · rw [result, ← changed]
    rfl

theorem map_eq_error_iff {change : Input → Output} {fault : Fault} :
    first.map change = .error fault ↔ first = .error fault := by
  refine ⟨fun mapped => ?_, fun failed => ?_⟩
  · cases first with
    | error fault => exact congrArg _ (Except.error.inj mapped)
    | ok input => contradiction
  · rw [failed]
    rfl

theorem map_eq_bind {change : Input → Output} :
    first.map change = first.bind fun input => .ok (change input) := by
  cases first <;> rfl

theorem bind_ok : first.bind .ok = first := by
  cases first <;> rfl

theorem bind_map {Middle : Type} {change : Input → Middle} {next : Middle → Except Fault Output} :
    (first.map change).bind next = first.bind fun input => next (change input) := by
  cases first <;> rfl

theorem map_map {Middle : Type} {change : Input → Middle} {again : Middle → Output} :
    (first.map change).map again = first.map fun input => again (change input) := by
  cases first <;> rfl

/-- A computation whose faults are put in other words has the same results. -/
theorem mapError_eq_ok_iff {change : Fault → Other} {input : Input} :
    first.mapError change = .ok input ↔ first = .ok input := by
  refine ⟨fun mapped => ?_, fun result => ?_⟩
  · cases first with
    | error fault => contradiction
    | ok found => exact congrArg _ (Except.ok.inj mapped)
  · rw [result]
    rfl

theorem mapError_eq_error_iff {change : Fault → Other} {error : Other} :
    first.mapError change = .error error ↔ ∃ fault, first = .error fault ∧ error = change fault := by
  refine ⟨fun mapped => ?_, fun ⟨fault, failed, same⟩ => ?_⟩
  · cases first with
    | error fault => exact ⟨fault, rfl, (Except.error.inj mapped).symm⟩
    | ok input => contradiction
  · rw [failed, same]
    rfl

/-- Other words for the faults that tell them apart lose nothing. -/
theorem mapError_injective {change : Fault → Other}
    (apart : ∀ {fault other : Fault}, change fault = change other → fault = other)
    {second : Except Fault Input} (same : first.mapError change = second.mapError change) :
    first = second := by
  cases first <;> cases second
  · exact congrArg _ (apart (Except.error.inj same))
  · contradiction
  · contradiction
  · exact congrArg _ (Except.ok.inj same)

end RecordQuery

/-
This file reads traversals of lists backwards. A traversal carries out one computation after the
other and gives a result for each item. It has results if every computation has one, and fails if
one of them fails.
-/

import Mathlib.Data.List.Forall2
import RecordQuery.Proofs.Outcome

namespace RecordQuery

variable {Fault Input Output : Type} {inputs : List Input} {outputs : List Output}

/-- What holds of each result that an item can have holds of all results of a list. -/
theorem forall_mem_of_forall₂ {Gives : Input → Output → Prop} {Holds : Output → Prop}
    (each : List.Forall₂ Gives inputs outputs)
    (holds : ∀ {input output}, Gives input output → Holds output) :
    ∀ output ∈ outputs, Holds output := by
  induction each with
  | nil => simp
  | cons first _ inductionHypothesis =>
    exact List.forall_mem_cons.mpr ⟨holds first, inductionHypothesis⟩

/-- Computations in turn give results if each of them does. -/
theorem mapM_eq_ok_iff {work : Input → Except Fault Output} :
    inputs.mapM work = .ok outputs ↔
      List.Forall₂ (fun input output => work input = .ok output) inputs outputs := by
  induction inputs generalizing outputs with
  | nil =>
    rw [List.mapM_nil, List.forall₂_nil_left_iff]
    exact ⟨fun same => (Except.ok.inj same).symm, fun same => congrArg Except.ok same.symm⟩
  | cons input inputs inductionHypothesis =>
    rw [List.mapM_cons, List.forall₂_cons_left_iff]
    constructor
    · intro ran
      obtain ⟨output, first, ran⟩ := bind_eq_ok_iff.mp ran
      obtain ⟨later, rest, same⟩ := bind_eq_ok_iff.mp ran
      exact ⟨output, later, first, inductionHypothesis.mp rest, (Except.ok.inj same).symm⟩
    · rintro ⟨output, later, first, rest, rfl⟩
      exact bind_eq_ok_iff.mpr ⟨output, first,
        bind_eq_ok_iff.mpr ⟨later, inductionHypothesis.mpr rest, rfl⟩⟩

/-- Computations in turn fail if one of them does. -/
theorem exists_mapM_eq_error_iff {work : Input → Except Fault Output} :
    (∃ fault, inputs.mapM work = .error fault) ↔
      ∃ input ∈ inputs, ∃ fault, work input = .error fault := by
  induction inputs with
  | nil => simp [List.mapM_nil, pure, Except.pure]
  | cons input inputs inductionHypothesis =>
    simp only [List.mapM_cons, List.mem_cons, exists_eq_or_imp, ← inductionHypothesis]
    cases first : work input with
    | error fault => exact iff_of_true ⟨fault, rfl⟩ (.inl ⟨fault, rfl⟩)
    | ok output =>
      cases rest : inputs.mapM work with
      | error fault => exact iff_of_true ⟨fault, rfl⟩ (.inr ⟨fault, rfl⟩)
      | ok outputs =>
        refine iff_of_false ?_ ?_
        · rintro ⟨fault, failed⟩
          contradiction
        · rintro (⟨fault, failed⟩ | ⟨fault, failed⟩) <;> contradiction

/-- Computations in turn give results if none of them fails. -/
theorem exists_mapM_eq_ok_iff {work : Input → Except Fault Output} :
    (∃ outputs, inputs.mapM work = .ok outputs) ↔
      ∀ input ∈ inputs, ∃ output, work input = .ok output := by
  constructor
  · rintro ⟨outputs, ran⟩ input member
    cases worked : work input with
    | ok output => exact ⟨output, rfl⟩
    | error fault =>
      obtain ⟨_, failed⟩ := exists_mapM_eq_error_iff.mpr ⟨input, member, fault, worked⟩
      rw [ran] at failed
      contradiction
  · intro each
    cases ran : inputs.mapM work with
    | ok outputs => exact ⟨outputs, rfl⟩
    | error fault =>
      obtain ⟨input, member, _, failed⟩ := exists_mapM_eq_error_iff.mp ⟨fault, ran⟩
      obtain ⟨output, worked⟩ := each input member
      rw [worked] at failed
      contradiction

/-- Something holds of a result if it holds of what one of the items results in. -/
theorem exists_mem_iff_of_mapM_eq_ok {work : Input → Except Fault Output} {Holds : Output → Prop}
    (ran : inputs.mapM work = .ok outputs) :
    (∃ output ∈ outputs, Holds output) ↔
      ∃ input ∈ inputs, ∃ output, work input = .ok output ∧ Holds output := by
  rw [mapM_eq_ok_iff] at ran
  induction ran with
  | nil => simp
  | cons first _ inductionHypothesis => simp [first, inductionHypothesis]

/-- Items in turn have counterparts if each of them has one. -/
theorem mapM_eq_some_iff {work : Input → Option Output} :
    inputs.mapM work = some outputs ↔
      List.Forall₂ (fun input output => work input = some output) inputs outputs := by
  induction inputs generalizing outputs with
  | nil =>
    rw [List.mapM_nil, List.forall₂_nil_left_iff]
    exact ⟨fun same => (Option.some.inj same).symm, fun same => congrArg some same.symm⟩
  | cons input inputs inductionHypothesis =>
    rw [List.mapM_cons, List.forall₂_cons_left_iff]
    constructor
    · intro ran
      obtain ⟨output, first, ran⟩ := Option.bind_eq_some_iff.mp ran
      obtain ⟨later, rest, same⟩ := Option.bind_eq_some_iff.mp ran
      exact ⟨output, later, first, inductionHypothesis.mp rest, (Option.some.inj same).symm⟩
    · rintro ⟨output, later, first, rest, rfl⟩
      exact Option.bind_eq_some_iff.mpr ⟨output, first,
        Option.bind_eq_some_iff.mpr ⟨later, inductionHypothesis.mpr rest, rfl⟩⟩

end RecordQuery

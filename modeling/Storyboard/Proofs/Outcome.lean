/-
This file opens computations that may fail.
-/

import Mathlib.Data.List.Forall2

namespace Storyboard

variable {ε α β : Type}

/-- A sequence succeeds when both of its steps do. -/
theorem bind_eq_ok (first : Except ε α) (next : α → Except ε β) (result : β) :
    first >>= next = .ok result ↔ ∃ value, first = .ok value ∧ next value = .ok result := by
  cases first <;> simp [bind, Except.bind]

/-- A computation whose result passes a test has a result. -/
theorem exists_of_any (first : Except ε α) (test : α → Bool) (passes : first.toOption.any test) :
    ∃ result, first = .ok result ∧ test result := by
  cases first with
  | error => simp [Except.toOption] at passes
  | ok result => exact ⟨result, rfl, passes⟩

/-- A changed result comes from a result. -/
theorem map_eq_ok (change : α → β) (first : Except ε α) (result : β) :
    change <$> first = .ok result ↔ ∃ value, first = .ok value ∧ change value = result := by
  cases first <;> simp [Functor.map, Except.map]

@[simp] theorem pure_eq_ok (value result : α) : (pure value : Except ε α) = .ok result ↔ value = result := by
  simp [pure, Except.pure]

/-- A sequence of steps that all succeed succeeds. -/
theorem bind_isOk {first : Except ε α} {next : α → Except ε β} (succeeds : ∃ value, first = .ok value)
    (continues : ∀ value, first = .ok value → ∃ result, next value = .ok result) :
    ∃ result, first >>= next = .ok result := by
  obtain ⟨value, reached⟩ := succeeds
  obtain ⟨result, ended⟩ := continues value reached
  exact ⟨result, (bind_eq_ok first next result).mpr ⟨value, reached, ended⟩⟩

@[simp] theorem mapError_ok {ε' : Type} (change : ε → ε') (result : α) :
    (Except.ok result : Except ε α).mapError change = .ok result :=
  rfl

@[simp] theorem mapError_error {ε' : Type} (change : ε → ε') (fault : ε) :
    (Except.error fault : Except ε α).mapError change = .error (change fault) :=
  rfl

/-- A change of the faults keeps every result. -/
theorem mapError_eq_ok {ε' : Type} (change : ε → ε') (first : Except ε α) (result : α) :
    first.mapError change = .ok result ↔ first = .ok result := by
  cases first <;> simp

/-- A list of steps that all succeed succeeds. -/
theorem mapM_isOk {step : α → Except ε β} {values : List α}
    (succeeds : ∀ value ∈ values, ∃ result, step value = .ok result) : ∃ results, values.mapM step = .ok results := by
  induction values with
  | nil => exact ⟨[], rfl⟩
  | cons value rest ih =>
      obtain ⟨result, first⟩ := succeeds value (by simp)
      obtain ⟨results, others⟩ := ih fun other member => succeeds other (by simp [member])
      exact ⟨result :: results, by simp [first, others, bind, Except.bind, pure, Except.pure]⟩

/-- A list of steps succeeds with one result for each value, in order. -/
theorem mapM_eq_ok {step : α → Except ε β} {values : List α} {results : List β} :
    values.mapM step = .ok results ↔ List.Forall₂ (fun value result => step value = .ok result) values results := by
  induction values generalizing results with
  | nil =>
      rw [List.mapM_nil, pure_eq_ok, List.forall₂_nil_left_iff]
      exact eq_comm
  | cons value rest ih =>
      simp only [List.mapM_cons, bind_eq_ok, pure_eq_ok, ih, List.forall₂_cons_left_iff]
      constructor
      · rintro ⟨first, reached, others, later, rfl⟩
        exact ⟨first, others, reached, later, rfl⟩
      · rintro ⟨first, others, reached, later, rfl⟩
        exact ⟨first, reached, others, later, rfl⟩

/-- Each step of a list that succeeds has a result. -/
theorem isOk_of_mapM {step : α → Except ε β} {values : List α} {results : List β}
    (success : values.mapM step = .ok results) {value : α} (member : value ∈ values) :
    ∃ result, step value = .ok result := by
  induction mapM_eq_ok.mp success with
  | nil => simp at member
  | @cons first result rest others reached later ih =>
      rcases List.mem_cons.mp member with rfl | inside
      · exact ⟨result, reached⟩
      · exact ih (mapM_eq_ok.mpr later) inside

/-- Each result of a list of steps is the result of one of them. -/
theorem exists_of_mem_mapM {step : α → Except ε β} {values : List α} {results : List β}
    (success : values.mapM step = .ok results) {result : β} (member : result ∈ results) :
    ∃ value ∈ values, step value = .ok result := by
  induction mapM_eq_ok.mp success with
  | nil => simp at member
  | @cons value first rest others reached later ih =>
      rcases List.mem_cons.mp member with rfl | inside
      · exact ⟨value, by simp, reached⟩
      · obtain ⟨other, found, result⟩ := ih (mapM_eq_ok.mpr later) inside
        exact ⟨other, by simp [found], result⟩

/-- What each step takes over from its value, the results take over from the values in order. -/
theorem map_of_mapM {γ : Type} {step : α → Except ε β} {ofResult : β → γ} {ofValue : α → γ} {values : List α}
    {results : List β} (each : ∀ value result, step value = .ok result → ofResult result = ofValue value)
    (success : values.mapM step = .ok results) : results.map ofResult = values.map ofValue := by
  induction mapM_eq_ok.mp success with
  | nil => rfl
  | @cons value first rest others reached later ih =>
      rw [List.map_cons, List.map_cons, each value first reached, ih (mapM_eq_ok.mpr later)]

end Storyboard

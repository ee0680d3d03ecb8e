/-
This file opens checked values: what is known of a value that passed, and which values pass.
-/

import Storyboard.Schema.Scalar

namespace Storyboard

variable {α β : Type}

namespace Checked

@[simp] theorem map_valid (change : α → β) (value : α) :
    change <$> Checked.valid value = Checked.valid (change value) := rfl

@[simp] theorem seq_valid (change : α → β) (value : α) :
    Checked.valid change <*> Checked.valid value = Checked.valid (change value) := rfl

@[simp] theorem under_valid (step : Step) (value : α) : (Checked.valid value).under step = .valid value := rfl

/-- A changed value passed when the value did. -/
@[simp] theorem map_eq_valid (change : α → β) (checked : Checked α) (result : β) :
    change <$> checked = .valid result ↔ ∃ value, checked = .valid value ∧ change value = result := by
  cases checked with
  | valid value => simp
  | invalid issues =>
      show Checked.invalid issues = .valid result ↔ _
      simp

/-- An applied function passed when both of its sides did. -/
@[simp] theorem seq_eq_valid (change : Checked (α → β)) (checked : Checked α) (result : β) :
    change <*> checked = .valid result ↔
      ∃ function value, change = .valid function ∧ checked = .valid value ∧ function value = result := by
  show apply change checked = .valid result ↔ _
  cases change with
  | valid function => cases checked <;> simp [apply]
  | invalid issues => simp [apply]

@[simp] theorem under_eq_valid (step : Step) (checked : Checked α) (value : α) :
    checked.under step = .valid value ↔ checked = .valid value := by
  cases checked <;> simp [under]

@[simp] theorem andThen_eq_valid (checked : Checked α) (check : α → Checked β) (result : β) :
    checked.andThen check = .valid result ↔ ∃ value, checked = .valid value ∧ check value = .valid result := by
  cases checked <;> simp [andThen]

@[simp] theorem toExcept_eq_ok (checked : Checked α) (result : α) :
    checked.toExcept = .ok result ↔ checked = .valid result := by
  cases checked <;> simp [toExcept]

@[simp] theorem fail_ne_valid (kind : IssueKind) (input : Json) (value : α) :
    (fail kind input : Checked α) ≠ .valid value := by
  simp [fail]

/-- What each value that passes satisfies, all values of a list satisfy. -/
theorem forall_of_eachFrom {satisfies : α → Prop} {check : Json → Checked α}
    (each : ∀ input value, check input = .valid value → satisfies value) {position : Nat} {inputs : List Json}
    {values : List α} (passed : eachFrom check position inputs = .valid values) :
    ∀ value ∈ values, satisfies value := by
  induction inputs generalizing position values with
  | nil =>
      obtain rfl : [] = values := by simpa [eachFrom] using passed
      simp
  | cons input rest ih =>
      simp only [eachFrom, seq_eq_valid, map_eq_valid, under_eq_valid] at passed
      obtain ⟨-, others, ⟨first, onFirst, rfl⟩, onOthers, rfl⟩ := passed
      intro value member
      rcases List.mem_cons.mp member with rfl | later
      · exact each input value onFirst
      · exact ih onOthers value later

/-- A list of values passes when each of them does. -/
theorem eachFrom_map {write : α → Json} {read : α → β} {check : Json → Checked β} {values : List α}
    (each : ∀ value ∈ values, check (write value) = .valid (read value)) (position : Nat) :
    eachFrom check position (values.map write) = .valid (values.map read) := by
  induction values generalizing position with
  | nil => rfl
  | cons value rest ih =>
      have first := each value (by simp)
      have others := ih (fun other member => each other (by simp [member])) (position + 1)
      simp [eachFrom, first, others]

end Checked

namespace Schema

theorem mem_of_lookup {fields : List (String × Json)} {name : String} {value : Json}
    (given : fields.lookup name = some value) : (name, value) ∈ fields := by
  obtain ⟨before, after, rfl, -⟩ := List.lookup_eq_some_iff.mp given
  exact List.mem_append_right _ (List.mem_cons_self ..)

/-- A field that is found is among those of the object. -/
theorem mem_of_find? {fields : List (String × Json)} {name : FieldName} {found : String × Json}
    (given : find? fields name = some found) : found ∈ fields := by
  unfold find? at given
  split at given
  · rename_i value preferred
    obtain rfl := Option.some.inj given
    exact mem_of_lookup preferred
  · obtain ⟨value, other, rfl⟩ := Option.map_eq_some_iff.mp given
    exact mem_of_lookup other

/-- A field that may be missing has the default or a value of the object that passes. -/
theorem fieldOr_eq_valid {fields : List (String × Json)} {name : FieldName} {default : α} {check : Json → Checked α}
    {value : α} (passed : fieldOr fields name default check = .valid value) :
    value = default ∨ ∃ field ∈ fields, check field.2 = .valid value := by
  unfold fieldOr at passed
  split at passed
  · rename_i key input found
    exact .inr ⟨(key, input), mem_of_find? found, (Checked.under_eq_valid _ _ _).mp passed⟩
  · exact .inl (Checked.valid.inj passed).symm

/-- What the default and each value that passes satisfy, a field satisfies that may be missing. -/
theorem fieldOr_satisfies {satisfies : α → Prop} {fields : List (String × Json)} {name : FieldName} {default : α}
    {check : Json → Checked α} {value : α} (passed : fieldOr fields name default check = .valid value)
    (onDefault : satisfies default) (each : ∀ input value, check input = .valid value → satisfies value) :
    satisfies value := by
  rcases fieldOr_eq_valid passed with rfl | ⟨field, -, checked⟩
  · exact onDefault
  · exact each field.2 value checked

/-- What each value that passes satisfies, a field satisfies that must be there. -/
theorem required_satisfies {satisfies : α → Prop} {fields : List (String × Json)} {name : FieldName}
    {check : Json → Checked α} {value : α} (passed : required fields name check = .valid value)
    (each : ∀ input value, check input = .valid value → satisfies value) : satisfies value := by
  unfold required at passed
  split at passed
  · exact each _ _ ((Checked.under_eq_valid _ _ _).mp passed)
  · simp at passed

/-- What each value that passes satisfies, an optional value satisfies when it is not null. -/
theorem optional_satisfies {satisfies : α → Prop} {check : Json → Checked α} {input : Json} {found : Option α}
    (passed : optional check input = .valid found)
    (each : ∀ input value, check input = .valid value → satisfies value) : ∀ value ∈ found, satisfies value := by
  unfold optional at passed
  split at passed
  · cases passed
    simp
  · obtain ⟨value, checked, rfl⟩ := (Checked.map_eq_valid _ _ _).mp passed
    intro other same
    exact Option.mem_some.mp same ▸ each input value checked

/-- What each value that passes satisfies, all values of a list satisfy. -/
theorem list_satisfies {satisfies : α → Prop} {check : Json → Checked α} {input : Json} {values : List α}
    (passed : list check input = .valid values)
    (each : ∀ input value, check input = .valid value → satisfies value) : ∀ value ∈ values, satisfies value := by
  unfold list at passed
  split at passed
  · exact Checked.forall_of_eachFrom each passed
  · simp at passed

/-- What all values of a model satisfy, a value satisfies that passes as one. -/
theorem model_satisfies {satisfies : α → Prop} {name : String} {check : List (String × Json) → Checked α}
    {input : Json} {value : α} (passed : model name check input = .valid value)
    (each : ∀ fields value, check fields = .valid value → satisfies value) : satisfies value := by
  unfold model at passed
  split at passed
  · exact each _ _ passed
  · simp at passed

/-- A number violates none of the bounds. -/
def Bounds.Admits (bounds : Bounds) (value : Double) : Prop := bounds.violationByDouble? value = none

/-- A number within bounds is admitted by them. -/
theorem admits_of_doubleWithin {bounds : Bounds} {input : Json} {value : Double}
    (passed : doubleWithin bounds input = .valid value) : bounds.Admits value := by
  obtain ⟨checked, -, within⟩ := (Checked.andThen_eq_valid _ _ _).mp passed
  split at within
  · simp at within
  · cases within
    assumption

/-- An admitted number passes. -/
theorem doubleWithin_double {bounds : Bounds} {value : Double} (admitted : bounds.Admits value) :
    doubleWithin bounds (.double value) = .valid value := by
  unfold Bounds.Admits at admitted
  simp [doubleWithin, double, Checked.andThen, admitted]

/-- A whole number within bounds violates none of them. -/
theorem violationByWhole?_of_wholeWithin {bounds : Bounds} {input : Json} {value : Int}
    (passed : wholeWithin bounds input = .valid value) : bounds.violationByWhole? value = none := by
  obtain ⟨checked, -, within⟩ := (Checked.andThen_eq_valid _ _ _).mp passed
  split at within
  · simp at within
  · cases within
    assumption

/-- A whole number that violates no bound passes. -/
theorem wholeWithin_int {bounds : Bounds} {value : Int} (admitted : bounds.violationByWhole? value = none) :
    wholeWithin bounds (.int value) = .valid value := by
  simp [wholeWithin, whole, Checked.andThen, admitted]

theorem length_of_textOfAtLeast {least : Nat} {input : Json} {value : String}
    (passed : textOfAtLeast least input = .valid value) : least ≤ value.length := by
  obtain ⟨checked, -, long⟩ := (Checked.andThen_eq_valid _ _ _).mp passed
  split at long
  · simp at long
  · cases long
    omega

theorem textOfAtLeast_string {least : Nat} {value : String} (long : least ≤ value.length) :
    textOfAtLeast least (.string value) = .valid value := by
  simp [textOfAtLeast, text, Checked.andThen, Nat.not_lt.mpr long]

end Schema

end Storyboard

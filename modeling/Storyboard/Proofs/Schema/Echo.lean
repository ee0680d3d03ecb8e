/-
This file states that the issues of a value quote the value itself or parts of it, and nothing else.
-/

import Storyboard.Proofs.Schema.Checked

namespace Storyboard

/-- A value stands in another one, at any depth. -/
inductive Json.IsPart : Json → Json → Prop where
  | self (value : Json) : IsPart value value
  | item {part item : Json} {items : List Json} (among : item ∈ items) (inside : IsPart part item) :
      IsPart part (.array items)
  | field {part value : Json} {name : String} {fields : List (String × Json)} (among : (name, value) ∈ fields)
      (inside : IsPart part value) : IsPart part (.object fields)

namespace Json

theorem IsPart.trans {inner middle outer : Json} (inside : IsPart inner middle) (within : IsPart middle outer) :
    IsPart inner outer := by
  induction within with
  | self => exact inside
  | item among _ ih => exact .item among ih
  | field among _ ih => exact .field among ih

theorem itemsFinite_iff (items : List Json) : itemsFinite items ↔ ∀ item ∈ items, item.isFinite := by
  induction items with
  | nil => simp [itemsFinite]
  | cons item rest ih => rw [itemsFinite, Bool.and_eq_true, ih, List.forall_mem_cons]

theorem fieldsFinite_iff (fields : List (String × Json)) :
    fieldsFinite fields ↔ ∀ field ∈ fields, field.2.isFinite := by
  induction fields with
  | nil => simp [fieldsFinite]
  | cons field rest ih => rw [fieldsFinite, Bool.and_eq_true, ih, List.forall_mem_cons]

/-- The parts of a value without infinite numbers have none. -/
theorem IsPart.isFinite {part value : Json} (inside : IsPart part value) (finite : value.isFinite) :
    part.isFinite := by
  induction inside with
  | self => exact finite
  | item among _ ih => exact ih ((itemsFinite_iff _).mp (by rwa [Json.isFinite] at finite) _ among)
  | field among _ ih => exact ih ((fieldsFinite_iff _).mp (by rwa [Json.isFinite] at finite) _ among)

end Json

variable {α β : Type}

/-- Whatever the issues of a checked value quote is a part of an input. -/
def Checked.Echoes (input : Json) (checked : Checked α) : Prop := ∀ issue ∈ checked.issues, issue.input.IsPart input

namespace Checked

variable {input : Json}

theorem echoes_valid (value : α) : Echoes input (.valid value) := nofun

theorem echoes_fail (kind : IssueKind) : Echoes input (.fail kind input : Checked α) :=
  List.forall_mem_singleton.mpr (.self input)

/-- What quotes parts of a part quotes parts of the whole. -/
theorem Echoes.within {part : Json} {checked : Checked α} (echoes : Echoes part checked) (inside : part.IsPart input) :
    Echoes input checked :=
  fun issue member => (echoes issue member).trans inside

theorem echoes_elim (found : Option α) (kind : IssueKind) : Echoes input (found.elim (.fail kind input) .valid) := by
  cases found with
  | none => exact echoes_fail kind
  | some value => exact echoes_valid value

theorem Echoes.map {checked : Checked α} (echoes : Echoes input checked) (change : α → β) :
    Echoes input (change <$> checked) := by
  cases checked <;> exact echoes

theorem Echoes.seq {change : Checked (α → β)} {checked : Checked α} (first : Echoes input change)
    (second : Echoes input checked) : Echoes input (change <*> checked) := by
  cases change with
  | valid => cases checked <;> exact second
  | invalid issues =>
      intro issue member
      rcases List.mem_append.mp member with before | after
      · exact first issue before
      · exact second issue after

theorem Echoes.under {checked : Checked α} (echoes : Echoes input checked) (step : Step) :
    Echoes input (checked.under step) := by
  cases checked with
  | valid => exact echoes
  | invalid issues => exact List.forall_mem_map.mpr echoes

theorem Echoes.andThen {checked : Checked α} {check : α → Checked β} (first : Echoes input checked)
    (second : ∀ value, checked = .valid value → Echoes input (check value)) : Echoes input (checked.andThen check) := by
  cases checked with
  | valid value => exact second value rfl
  | invalid issues => exact first

theorem echoes_eachFrom {check : Json → Checked α} (echoes : ∀ item, Echoes item (check item)) (position : Nat)
    {items : List Json} (among : ∀ item ∈ items, item.IsPart input) : Echoes input (eachFrom check position items) := by
  induction items generalizing position with
  | nil => exact echoes_valid []
  | cons item rest ih =>
      obtain ⟨first, others⟩ := List.forall_mem_cons.mp among
      exact (((echoes item).within first).under _).map _ |>.seq (ih (position + 1) others)

end Checked

namespace Schema

open Checked

theorem echoes_text (input : Json) : Echoes input (text input) := by
  unfold text
  split
  · exact echoes_valid _
  · exact echoes_fail _

theorem echoes_textOfAtLeast (least : Nat) (input : Json) : Echoes input (textOfAtLeast least input) := by
  refine (echoes_text input).andThen fun value _ => ?_
  split
  · exact echoes_fail _
  · exact echoes_valid _

theorem echoes_double (input : Json) : Echoes input (double input) := by
  unfold double
  split
  · exact echoes_valid _
  · dsimp only
    split
    · exact echoes_valid _
    · exact echoes_fail _
  · exact echoes_valid _
  · exact echoes_elim _ _
  · exact echoes_fail _

theorem echoes_whole (input : Json) : Echoes input (whole input) := by
  unfold whole
  split
  · exact echoes_valid _
  · exact echoes_valid _
  · split
    · exact echoes_fail _
    split
    · exact echoes_fail _
    · exact echoes_elim _ _
  · split
    · exact echoes_valid _
    · exact echoes_fail _
  · exact echoes_fail _

theorem echoes_flag (input : Json) : Echoes input (flag input) := by
  unfold flag
  split
  · exact echoes_valid _
  · split
    · exact echoes_elim _ _
    · exact echoes_fail _
  · split
    · exact echoes_elim _ _
    · exact echoes_fail _
  · exact echoes_elim _ _
  · exact echoes_fail _

theorem echoes_doubleWithin (bounds : Bounds) (input : Json) : Echoes input (doubleWithin bounds input) := by
  refine (echoes_double input).andThen fun value _ => ?_
  split
  · exact echoes_fail _
  · exact echoes_valid _

theorem echoes_wholeWithin (bounds : Bounds) (input : Json) : Echoes input (wholeWithin bounds input) := by
  refine (echoes_whole input).andThen fun value _ => ?_
  split
  · exact echoes_fail _
  · exact echoes_valid _

section Composed

variable {check : Json → Checked α} (echoes : ∀ input, Echoes input (check input))

include echoes

theorem echoes_optional (input : Json) : Echoes input (optional check input) := by
  unfold optional
  split
  · exact echoes_valid _
  · exact (echoes input).map _

theorem echoes_list (input : Json) : Echoes input (list check input) := by
  unfold list
  split
  · exact echoes_eachFrom echoes 0 fun item among => .item among (.self item)
  · exact echoes_fail _

theorem echoes_fieldOr (fields : List (String × Json)) (name : FieldName) (default : α) :
    Echoes (.object fields) (fieldOr fields name default check) := by
  unfold fieldOr
  split
  · rename_i key value given
    exact ((echoes value).within (.field (mem_of_find? given) (.self value))).under _
  · exact echoes_valid _

theorem echoes_required (fields : List (String × Json)) (name : FieldName) :
    Echoes (.object fields) (required fields name check) := by
  unfold required
  split
  · rename_i key value given
    exact ((echoes value).within (.field (mem_of_find? given) (.self value))).under _
  · exact (echoes_fail _).under _

end Composed

theorem echoes_model {check : List (String × Json) → Checked α}
    (echoes : ∀ fields, Echoes (.object fields) (check fields)) (name : String) (input : Json) :
    Echoes input (model name check input) := by
  unfold model
  split
  · exact echoes _
  · exact echoes_fail _

end Schema

end Storyboard

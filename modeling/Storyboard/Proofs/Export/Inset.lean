/-
This file states that the lines of elements inside a script start no statement, whatever texts they hold.
-/

import Storyboard.Export.Rendering
import Storyboard.Proofs.Export.Statement
import Storyboard.Proofs.Markup.SingleLine

namespace Storyboard

open Text

namespace Script

/-- Each line end of a text has a margin behind it. -/
def IsInset (text : String) : Prop := isInset text.toList

theorem isInset_text {text : String} (flat : IsFlat text) : IsInset text := isInset_of_flat flat

theorem isInset_join {first later : String} (before : IsInset first) (after : IsInset later) :
    IsInset (first ++ later) := by
  rw [IsInset, String.toList_append]
  exact isInset_append before after

theorem isInset_intercalate {separator : String} (flat : IsFlat separator) {texts : List String}
    (each : ∀ text ∈ texts, IsInset text) : IsInset (separator.intercalate texts) :=
  intercalate_induction (show IsInset "" from rfl) (fun _ _ => isInset_join) (isInset_text flat) each

/-- An inset text behind one that starts in a margin has no statement. -/
theorem statements_behind {opening : List Char} (quiet : isQuiet opening) (filled : opening.isEmpty = false)
    {text : String} (inset : IsInset text) : statements (String.ofList opening ++ text) = [] := by
  rw [isQuiet, Bool.and_eq_true, Option.all_eq_true] at quiet
  rw [statements, String.toList_append, String.toList_ofList]
  refine statementsOf_of_isInset (isInset_append quiet.1 inset) fun character starts => quiet.2 character ?_
  cases opening with
  | nil => simp at filled
  | cons first rest => exact starts

/-- An inset text behind blanks has no statement. -/
theorem statements_behindBlanks (count : Nat) {text : String} (inset : IsInset text) :
    statements (String.ofList (List.replicate (count + 1) ' ') ++ text) = [] := by
  have flat : '\n' ∉ List.replicate (count + 1) ' ' := fun member =>
    absurd (List.eq_of_mem_replicate member) (by decide)
  refine statements_behind ?_ rfl inset
  rw [isQuiet, isInset_of_flat flat, List.replicate_succ]
  rfl

end Script

open Script

namespace Markup

/-- A safe text may have one line end, which the closing quote follows. -/
theorem isInset_of_isSafeText {characters : List Char} (safe : isSafeText characters) :
    isInset (characters ++ ['"']) := by
  have flat {characters : List Char} (kept : characters.all isSafe) : '\n' ∉ characters := by
    intro member
    exact absurd (List.all_eq_true.mp kept _ member) (by simp [isSafe_lineEnd])
  rcases (isSafeText_iff characters).mp safe with kept | ⟨front, kept, rfl⟩
  · exact isInset_append (isInset_of_flat (flat kept)) (by decide)
  · rw [List.append_assoc]
    exact isInset_append (isInset_of_flat (flat kept)) (by decide)

/-- A script attribute is inset. -/
theorem isInset_scriptAttribute {name : String} (flat : IsFlat name) (value : Json) :
    IsInset (scriptAttribute name value) := by
  have literal : IsInset (name ++ "=\x7b" ++ value.compact ++ "\x7d") :=
    isInset_text (isFlat_append (isFlat_append (isFlat_append flat (by decide)) value.isFlat_compact) (by decide))
  cases value with
  | string text =>
      rw [scriptAttribute]
      split
      · rename_i safe
        have quoted : IsInset (text ++ "\"") := by
          rw [IsInset, String.toList_append]
          exact isInset_of_isSafeText safe
        have opened : IsInset (name ++ "=\"") := isInset_text (isFlat_append flat (by decide))
        rw [String.append_assoc]
        exact isInset_join opened quoted
      · exact literal
  | _ => exact literal

end Markup

open Markup

namespace Element

variable {format : Format} {element : Element}

/-- The attributes of a legible element inside a script are inset. -/
theorem isInset_attributes (script : format.dialect = .script) (legible : IsLegible format element) :
    ∀ text ∈ attributes format element, IsInset text := by
  have basic : IsBasicText (Declaration.scriptAttribute element.style) :=
    Declaration.isBasicText_scriptAttribute fun declaration member =>
      isBasicText_of_isName (legible.style declaration member)
  have styled := isInset_text basic.isFlat
  rw [attributes_of_script script, List.forall_mem_append, List.forall_mem_cons, List.forall_mem_cons,
    List.forall_mem_singleton, List.forall_mem_map]
  exact ⟨⟨isInset_scriptAttribute (by decide) _, isInset_scriptAttribute (by decide) _, styled⟩,
    fun prop member => isInset_scriptAttribute (isBasicText_of_isName (legible.props prop member).2.1).isFlat _⟩

/-- The tags and the text of a legible element inside a script are inset. -/
theorem isInset_parts (script : format.dialect = .script) (legible : IsLegible format element) :
    PartsSatisfy IsInset format element where
  start := by
    have inside : IsInset (" ".intercalate (attributes format element)) :=
      isInset_intercalate (by decide) (isInset_attributes script legible)
    have tag := isInset_text (isBasicText_startOf legible.tag).isFlat
    exact isInset_join (isInset_join tag inside) (isInset_text (by decide))
  text text _ := by
    rw [script]
    exact isInset_text (isBasicText_scriptText text).isFlat
  stop := isInset_text (isBasicText_endTag legible.tag).isFlat

/-- The lines of legible elements inside a script are inset. -/
theorem isInset_allLines (script : format.dialect = .script) {forest : Forest Element}
    (legible : ∀ element ∈ Forest.preorder forest, IsLegible format element) :
    ∀ line ∈ allLines format forest, IsInset line := by
  have joinable : IsJoinable IsInset := {
    nothing := rfl
    pad := isInset_text (by decide)
    together := fun _ _ => isInset_join }
  apply forall_allLines joinable
  exact fun element member => isInset_parts script (legible element member)

end Element

/-- The text of a screen that is set off from the margin has no statement. -/
theorem Rendering.statements_screenText {rendering : Rendering} (script : rendering.format.dialect = .script)
    {screen : RenderedScreen}
    (legible : ∀ element ∈ Forest.preorder screen.elements, element.IsLegible rendering.format) (depth : Nat) :
    statements (rendering.screenText screen (depth + 1)) = [] := by
  have joined := statements_intercalate 0
    ((screen.lines rendering.format).map (String.ofList (List.replicate (2 * (depth + 1)) ' ') ++ ·))
  refine Eq.trans joined (List.flatMap_eq_nil_iff.mpr ?_)
  rw [List.forall_mem_map]
  exact fun line member =>
    statements_behindBlanks (2 * depth + 1) (Element.isInset_allLines script legible line member)

end Storyboard

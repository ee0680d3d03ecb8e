/-
This file states that the components of renderings, whose screens are drawn alike but for the places of single elements,
are told apart by these places.
-/

import Storyboard.Export.ScriptExport
import Storyboard.Proofs.Markup.Legible

namespace Storyboard

/-- In a joined text the separator stands behind each piece before a given one, and before each piece behind it. -/
theorem toList_intercalate_append_cons (separator : String) (front : List String) (piece : String)
    (behind : List String) :
    (separator.intercalate (front ++ piece :: behind)).toList =
      front.flatMap (·.toList ++ separator.toList) ++
        (piece.toList ++ behind.flatMap (separator.toList ++ ·.toList)) := by
  rw [String.toList_intercalate]
  induction front with
  | nil => rw [List.nil_append, List.map_cons, intercalate_cons, List.flatMap_map, List.flatMap_nil, List.nil_append]
  | cons first rest ih =>
      have filled : rest ++ piece :: behind ≠ [] := by simp
      obtain ⟨next, others, split⟩ := List.exists_cons_of_ne_nil filled
      rw [split] at ih
      rw [List.cons_append, split, List.map_cons, List.map_cons, List.intercalate_cons_cons, ← List.map_cons, ih]
      simp only [List.flatMap_cons, List.append_assoc]

/-- Of lines, those before a given one stand before it, each with its end. -/
theorem toList_unlines_append_cons (front : List String) (line : String) (behind : List String) :
    (unlines (front ++ line :: behind)).toList = front.flatMap (·.toList ++ "\n".toList) ++
      (line.toList ++ (behind.flatMap ("\n".toList ++ ·.toList) ++ "\n".toList)) := by
  rw [unlines, String.toList_append, toList_intercalate_append_cons, List.append_assoc, List.append_assoc]

/-- Items whose texts are told apart, whatever follows, are told apart when their texts follow each other. -/
theorem eq_of_flatMap_append_eq {α : Type} {relation : α → α → Prop} {text : α → List Char}
    (apart : ∀ {left right rest more}, relation left right → text left ++ rest = text right ++ more →
      left = right ∧ rest = more)
    {lefts rights : List α} (related : List.Forall₂ relation lefts rights) {rest more : List Char}
    (same : lefts.flatMap text ++ rest = rights.flatMap text ++ more) : lefts = rights := by
  induction related with
  | nil => rfl
  | cons first _ ih =>
      rw [List.flatMap_cons, List.append_assoc, List.flatMap_cons, List.append_assoc] at same
      obtain ⟨rfl, others⟩ := apart first same
      rw [ih others]

namespace Declaration

/-- The entries of a script tell the declarations of a layer from different places apart. -/
theorem ofLayer_eq_of_map_scriptEntry_eq {layer : Layer} {left right : Origin}
    (same : (ofLayer layer left).map scriptEntry = (ofLayer layer right).map scriptEntry) :
    ofLayer layer left = ofLayer layer right := by
  obtain ⟨further, -, split⟩ := exists_further layer
  obtain ⟨across, down⟩ : pixels (layer.layout.x.subtract left.x) = pixels (layer.layout.x.subtract right.x) ∧
      pixels (layer.layout.y.subtract left.y) = pixels (layer.layout.y.subtract right.y) := by
    simpa [split, scriptEntry] using same
  rw [split, split, across, down]

/-- A text that depends on a place holds it only in the style of a layer, which ends before a blank or a tag's end. -/
def IsStyled (layer : Layer) (text : Origin → String) : Prop :=
  ∃ front next behind, (next = ' ' ∨ next = '>') ∧ ∀ origin,
    (text origin).toList = front ++ ((scriptAttribute (ofLayer layer origin)).toList ++ next :: behind)

namespace IsStyled

variable {layer : Layer} {text : Origin → String} (styled : IsStyled layer text)

include styled

theorem congr {other : Origin → String} (same : ∀ origin, text origin = other origin) : IsStyled layer other :=
  funext same ▸ styled

theorem surrounded (before after : String) : IsStyled layer fun origin => before ++ text origin ++ after := by
  obtain ⟨front, next, behind, ends, spelled⟩ := styled
  refine ⟨before.toList ++ front, next, behind ++ after.toList, ends, fun origin => ?_⟩
  rw [String.toList_append, String.toList_append, spelled]
  simp only [List.append_assoc, List.cons_append]

theorem intercalate (separator : String) (front behind : List String) :
    IsStyled layer fun origin => separator.intercalate (front ++ text origin :: behind) := by
  obtain ⟨before, next, after, ends, spelled⟩ := styled
  refine ⟨front.flatMap (·.toList ++ separator.toList) ++ before, next,
    after ++ behind.flatMap (separator.toList ++ ·.toList), ends, fun origin => ?_⟩
  rw [toList_intercalate_append_cons, spelled]
  simp only [List.append_assoc, List.cons_append]

/-- A text tells the declarations from different places apart, whatever follows. -/
theorem eq_of_append_eq {left right : Origin} {rest more : List Char}
    (same : (text left).toList ++ rest = (text right).toList ++ more) :
    ofLayer layer left = ofLayer layer right ∧ rest = more := by
  obtain ⟨front, next, behind, ends, spelled⟩ := styled
  have written (origin : Origin) := Markup.writes_scriptStyle (by simp [ofLayer])
    fun declaration member => isName_scriptName _ (ofLayer_property layer origin declaration member)
  -- The reader of attributes stops right behind the style, so that it gives the entries and what follows.
  have read (origin : Origin) (after : List Char) :=
    (written origin).reads (next :: (behind ++ after)) (by simpa using ends)
  simp only [spelled, List.append_assoc, List.cons_append] at same
  have onLeft := read left rest
  rw [List.append_cancel_left same, read right more] at onLeft
  obtain ⟨meaning, after⟩ := Prod.mk.inj (Option.some.inj onLeft)
  have entries := Markup.Value.entries.inj (Prod.mk.inj meaning).2
  exact ⟨(ofLayer_eq_of_map_scriptEntry_eq entries).symm, (List.append_cancel_left (List.cons.inj after).2).symm⟩

end IsStyled

end Declaration

/-- In the start tag of a script the place of a layer stands in its style alone. -/
theorem Element.isStyled_startTag {format : Format} (script : format.dialect = .script) (options : ExportOptions)
    (layer : Layer) (hasChildren : Bool) :
    Declaration.IsStyled layer fun origin => startTag format (ofLayer format options origin layer hasChildren) := by
  let unplaced := ofLayer format options .zero layer hasChildren
  let opening := (attributes format unplaced).take 2
  let further := (attributes format unplaced).drop 3
  have split (origin : Origin) : attributes format (ofLayer format options origin layer hasChildren) =
      opening ++ Declaration.scriptAttribute (Declaration.ofLayer layer origin) :: further := by
    simp only [opening, further, attributes, script]
    rfl
  obtain ⟨next, behind, ends, ending⟩ : ∃ next behind, (next = ' ' ∨ next = '>') ∧
      further.flatMap (" ".toList ++ ·.toList) ++ ['>'] = next :: behind := by
    cases further with
    | nil => exact ⟨'>', [], .inr rfl, rfl⟩
    | cons first others => exact ⟨' ', _, .inl rfl, rfl⟩
  refine ⟨("<" ++ unplaced.tag ++ " ").toList ++ opening.flatMap (·.toList ++ " ".toList), next, behind, ends,
    fun origin => ?_⟩
  show (startTag format (ofLayer format options origin layer hasChildren)).toList = _
  rw [startTag, split, String.toList_append, String.toList_append, toList_intercalate_append_cons, ← ending]
  simp only [List.append_assoc]
  rfl

namespace RenderedScreen

/-- Screens that are drawn alike but for the place of their only element. -/
inductive IsShifted (format : Format) (options : ExportOptions) : RenderedScreen → RenderedScreen → Prop where
  /-- A screen stays as it is. -/
  | same (screen : RenderedScreen) : IsShifted format options screen screen
  /-- The element of a layer without children counts its place from elsewhere. -/
  | moved (screen : RenderedScreen) (layer : Layer) (left right : Origin) : IsShifted format options
      { screen with elements := [.leaf (Element.ofLayer format options left layer false)] }
      { screen with elements := [.leaf (Element.ofLayer format options right layer false)] }

end RenderedScreen

namespace ScriptExport

variable {rendering : Rendering}

/-- In the function for a screen with a single element, the place of this element stands in its style alone. -/
theorem isStyled_screenFunction (script : rendering.format.dialect = .script) (screen : RenderedScreen)
    (options : ExportOptions) (layer : Layer) :
    Declaration.IsStyled layer fun origin => screenFunction rendering { screen with
      elements := [.leaf (Element.ofLayer rendering.format options origin layer false)] } := by
  let unplaced := Element.ofLayer rendering.format options .zero layer false
  let text := (unplaced.text?.map rendering.format.dialect.writeText).getD ""
  have line := (Element.isStyled_startTag script options layer false).surrounded
    (String.ofList (List.replicate (2 * 3) ' ')) (text ++ Element.endTag unplaced)
  have shown : Declaration.IsStyled layer fun origin => rendering.screenText { screen with
      elements := [.leaf (Element.ofLayer rendering.format options origin layer false)] } 3 := by
    refine line.congr fun origin => ?_
    rw [Rendering.screenText, RenderedScreen.lines, Element.allLines, Tree.leaf, Element.lines]
    simp only [Element.allLines, List.append_nil, List.isEmpty_nil, if_true, List.map_cons, List.map_nil,
      String.intercalate_singleton, String.append_assoc]
    rfl
  exact shown.intercalate "\n"
    ["function " ++ screenName screen.index ++ "() \x7b",
      "  return (",
      "    <div className=\"screen-content\" " ++ Declaration.scriptAttribute screen.style ++ ">"]
    ["    </div>", "  );", r"}"]

/-- The functions for screens that are drawn alike tell the places of their elements apart, whatever follows. -/
theorem eq_of_screenFunction_append_eq (script : rendering.format.dialect = .script) {options : ExportOptions}
    {left right : RenderedScreen} (shifted : left.IsShifted rendering.format options right) {rest more : List Char}
    (same : (screenFunction rendering left).toList ++ rest = (screenFunction rendering right).toList ++ more) :
    left = right ∧ rest = more := by
  cases shifted with
  | same screen => exact ⟨rfl, List.append_cancel_left same⟩
  | moved screen layer left right =>
      obtain ⟨style, others⟩ := (isStyled_screenFunction script screen options layer).eq_of_append_eq same
      refine ⟨?_, others⟩
      rw [Element.ofLayer, Element.ofLayer, style]

/-- A component has the functions for its screens behind its imports. -/
theorem exists_component (rendering : Rendering) : ∃ closing, (component rendering).content = unlines (
    ([r"import React, { useEffect, useState } from 'react';"] ++
      rendering.imports.map (fun (component, slug) => importLine component slug) ++ [""]) ++
    "\n\n".intercalate (rendering.screens.map (screenFunction rendering)) :: closing) :=
  ⟨_, congrArg unlines (List.append_cons _ "" _)⟩

/-- The functions for screens that are drawn alike differ, whatever follows, unless the screens are the same. -/
theorem eq_of_screenFunctions_append_eq (script : rendering.format.dialect = .script) {options : ExportOptions}
    {left right : List RenderedScreen}
    (shifted : List.Forall₂ (RenderedScreen.IsShifted rendering.format options) left right) {rest more : List Char}
    (same : ("\n\n".intercalate (left.map (screenFunction rendering))).toList ++ rest =
      ("\n\n".intercalate (right.map (screenFunction rendering))).toList ++ more) : left = right := by
  cases shifted with
  | nil => rfl
  | cons first others =>
      have joined (screen : RenderedScreen) :=
        toList_intercalate_append_cons "\n\n" [] (screenFunction rendering screen)
      simp only [List.flatMap_nil, List.nil_append] at joined
      rw [List.map_cons, List.map_cons, joined, joined, List.flatMap_map, List.flatMap_map, List.append_assoc,
        List.append_assoc] at same
      obtain ⟨rfl, behind⟩ := eq_of_screenFunction_append_eq script first same
      refine congrArg _ (eq_of_flatMap_append_eq (fun pair equal => ?_) others behind)
      rw [List.append_assoc, List.append_assoc] at equal
      exact eq_of_screenFunction_append_eq script pair (List.append_cancel_left equal)

/-- Renderings whose screens are drawn alike have the same component only when the screens are the same. -/
theorem screens_eq_of_component_eq {other : Rendering} (script : rendering.format.dialect = .script)
    (format : rendering.format = other.format) (imports : rendering.imports = other.imports) {options : ExportOptions}
    (shifted : List.Forall₂ (RenderedScreen.IsShifted rendering.format options) rendering.screens other.screens)
    (same : component rendering = component other) : rendering.screens = other.screens := by
  have alike : screenFunction other = screenFunction rendering := by
    funext screen
    rw [screenFunction, screenFunction, Rendering.screenText, Rendering.screenText, format]
  obtain ⟨closing, spelled⟩ := exists_component rendering
  obtain ⟨otherClosing, otherSpelled⟩ := exists_component other
  rw [← same, spelled, ← imports, alike] at otherSpelled
  have content := congrArg String.toList otherSpelled
  rw [toList_unlines_append_cons, toList_unlines_append_cons] at content
  exact eq_of_screenFunctions_append_eq script shifted (List.append_cancel_left content)

end ScriptExport

end Storyboard

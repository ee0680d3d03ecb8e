/-
This file reads back the statements of the modules of an export in script components.
-/

import Storyboard.Proofs.Export.Inset
import Storyboard.Proofs.Export.Orderly

namespace Storyboard

open Text Script

namespace ScriptExport

variable {rendering : Rendering}

def screenNames (rendering : Rendering) : List String := (List.range rendering.screens.length).map screenName

theorem map_screenName (orderly : rendering.IsOrderly) :
    rendering.screens.map (screenName ·.index) = screenNames rendering := by
  rw [screenNames, ← orderly.indices, List.map_map]
  rfl

/-- A name is taken when it is reserved, imported or the name of a screen. -/
theorem mem_takenNames_iff (orderly : rendering.IsOrderly) (name : String) :
    name ∈ takenNames rendering ↔
      name ∈ reservedNames ∨ name ∈ rendering.imports.map (·.1) ∨ name ∈ screenNames rendering := by
  rw [takenNames, map_screenName orderly, List.mem_append, List.mem_append, or_assoc]

/-- The function for a screen is one statement. -/
theorem statements_screenFunction (orderly : rendering.IsOrderly) {screen : RenderedScreen}
    (among : screen ∈ rendering.screens) :
    statements (screenFunction rendering screen) = [.function (screenName screen.index)] := by
  have opening := statements_function (isIdentifier_screenName screen.index)
  have styled : IsFlat (Declaration.scriptAttribute screen.style) := IsBasicText.isFlat <|
    Declaration.isBasicText_scriptAttribute fun declaration member =>
      Markup.isBasicText_of_isName (orderly.styled screen among declaration member)
  have frame : statements ("    <div className=\"screen-content\" " ++ Declaration.scriptAttribute screen.style ++
      ">") = [] := by
    rw [String.append_assoc]
    exact statements_behind (by decide) rfl (isInset_text (isFlat_append styled (by decide)))
  have inside : statements (rendering.screenText screen 3) = [] :=
    Rendering.statements_screenText orderly.script (orderly.legible screen among) 2
  refine (statements_intercalate 0 _).trans ?_
  rw [List.flatMap_cons, opening, List.flatMap_eq_nil_iff.mpr]
  · rfl
  · refine forall_quiet_cons (by decide) (List.forall_mem_cons.mpr ⟨frame, List.forall_mem_cons.mpr ⟨inside, ?_⟩⟩)
    iterate 3 refine forall_quiet_cons (by decide) ?_
    simp

/-- The functions for all screens are one statement each. -/
theorem statements_screenFunctions (orderly : rendering.IsOrderly) :
    statements ("\n\n".intercalate (rendering.screens.map (screenFunction rendering))) =
      (screenNames rendering).map .function := by
  refine (statements_intercalate 1 _).trans ?_
  rw [List.flatMap_map, ← map_screenName orderly, List.map_map, List.map_eq_flatMap]
  exact List.flatMap_congr fun screen among => statements_screenFunction orderly among

/-- The imports of the main component, each of one name. -/
def importStatements (rendering : Rendering) : List Statement :=
  rendering.imports.map fun (component, slug) => .imports [component] (Format.designSystemPackage ++ "/" ++ slug)

theorem statements_importLines (orderly : rendering.IsOrderly) :
    (rendering.imports.map fun (component, slug) => importLine component slug).flatMap statements =
      importStatements rendering := by
  have plain : ∀ rule ∈ Rule.all, isIdentifier rule.category ∧
      ∀ character ∈ rule.importSlug.toList, isUnquoted character := by
    have all : Rule.all.all fun rule => isIdentifier rule.category && rule.importSlug.toList.all isUnquoted := by decide
    simpa only [List.all_eq_true, Bool.and_eq_true] using all
  rw [importStatements, List.flatMap_map, List.map_eq_flatMap]
  refine List.flatMap_congr fun imported member => ?_
  obtain ⟨rule, among, rfl⟩ := orderly.ruled imported member
  exact statements_importLine (plain rule among).1 (plain rule among).2

/-- The line that lists the functions for screens. -/
theorem statements_screens (orderly : rendering.IsOrderly) :
    statements ("const screens = [" ++ ", ".intercalate (rendering.screens.map (screenName ·.index)) ++ "];") =
      [.binding "screens" (screenNames rendering)] := by
  rw [map_screenName orderly]
  refine statements_list fun name member => ?_
  obtain ⟨index, -, rfl⟩ := List.mem_map.mp member
  exact isIdentifier_screenName index

/-- A line that counts the screens inside the main component. -/
theorem statements_move (move : Navigation.Move) {opening : List Char} (quiet : isQuiet opening)
    (filled : opening.isEmpty = false) :
    statements (String.ofList opening ++ move.expression.text "index" "screenCount" ++ ");") = [] := by
  have flat : IsFlat (move.expression.text "index" "screenCount") := by cases move <;> decide
  rw [String.append_assoc]
  exact statements_behind quiet filled (isInset_text (isFlat_append flat (by decide)))

/-- The statements of the main component of a rendering. -/
def declarations (rendering : Rendering) : List Statement :=
  .imports ["React", "useEffect", "useState"] "react" ::
    (importStatements rendering ++ ((screenNames rendering).map .function ++
      [.binding "screens" (screenNames rendering), .exported (exportName rendering)]))

/--
The statements of the main component are its imports, a function for each screen, the list of these functions, and the
component that is exported.
-/
theorem statements_component (orderly : rendering.IsOrderly) (named : isIdentifier (exportName rendering)) :
    statements (component rendering).content = declarations rendering := by
  have first : statements r"import React, { useEffect, useState } from 'react';" =
      [.imports ["React", "useEffect", "useState"] "react"] := (statements_ofList _).trans (by decide)
  have nothing : statements "" = [] := rfl
  delta component
  dsimp only
  rw [statements_unlines, List.flatMap_append, List.flatMap_append, List.flatMap_singleton, first,
    statements_importLines orderly, List.flatMap_cons, List.flatMap_cons, List.flatMap_cons, List.flatMap_cons,
    List.flatMap_cons, List.flatMap_cons, nothing, statements_screenFunctions orderly, statements_screens orderly,
    statements_exported named, List.flatMap_eq_nil_iff.mpr]
  · simp only [declarations, List.nil_append, List.cons_append]
  -- Behind the opening line all lines start in a margin, the two that count the screens after a fixed part of theirs.
  iterate 3 refine forall_quiet_cons (by decide) ?_
  refine List.forall_mem_cons.mpr ⟨statements_move .next (by decide) rfl, ?_⟩
  refine List.forall_mem_cons.mpr ⟨statements_move .previous (by decide) rfl, ?_⟩
  iterate 25 refine forall_quiet_cons (by decide) ?_
  simp

/-- The source from which the main component is imported. -/
def componentSource (rendering : Rendering) : String := "./components/" ++ rendering.componentName ++ ".jsx"

theorem toList_componentSource (rendering : Rendering) : (componentSource rendering).toList =
    "./components/".toList ++ (rendering.componentName.toList ++ ".jsx".toList) := by
  delta componentSource
  rw [String.toList_append, String.toList_append, List.append_assoc]

/-- The line that imports the main component. -/
theorem statements_importComponent (orderly : rendering.IsOrderly) (named : isIdentifier (exportName rendering)) :
    statements s!"import {exportName rendering} from './components/{rendering.componentName}.jsx';" =
      [.imports [exportName rendering] (componentSource rendering)] := by
  have inside : ∀ character ∈ (componentSource rendering).toList, isUnquoted character := by
    rw [toList_componentSource, List.forall_mem_append, List.forall_mem_append]
    exact ⟨List.all_eq_true.mp (by decide), isUnquoted_of_isIdentifier orderly.named, List.all_eq_true.mp (by decide)⟩
  have opening : " from './components/".toList = " from '".toList ++ "./components/".toList := by decide
  have closing : ".jsx';".toList = ".jsx".toList ++ "';".toList := by decide
  refine statements_default named inside ?_
  change ("import " ++ exportName rendering ++ " from './components/" ++ rendering.componentName ++ ".jsx';").toList = _
  rw [toList_componentSource]
  simp only [String.toList_append, opening, closing, List.append_assoc]

/-- The statements of the script that mounts the main component are its imports. -/
theorem statements_entryScript (orderly : rendering.IsOrderly) (named : isIdentifier (exportName rendering)) :
    statements (entryScript rendering).content =
      [.imports ["React"] "react", .imports ["ReactDOM"] "react-dom/client",
        .imports [exportName rendering] (componentSource rendering)] ++
        (if rendering.options.includeStyles then [.imports [] "./index.css"] else []) := by
  have first : statements "import React from 'react';" = [.imports ["React"] "react"] :=
    (statements_ofList _).trans (by decide)
  have second : statements "import ReactDOM from 'react-dom/client';" = [.imports ["ReactDOM"] "react-dom/client"] :=
    (statements_ofList _).trans (by decide)
  have sheet : (if rendering.options.includeStyles then ["import './index.css';"] else []).flatMap statements =
      if rendering.options.includeStyles then [.imports [] "./index.css"] else [] := by
    split
    · exact (List.flatMap_singleton ..).trans ((statements_ofList _).trans (by decide))
    · rfl
  have mount : statements "ReactDOM.createRoot(document.getElementById('root')).render(" = [] :=
    (statements_ofList _).trans (by decide)
  have shown : statements s!"    <{exportName rendering} />" = [] := by
    change statements ("    <" ++ exportName rendering ++ " />") = []
    rw [String.append_assoc]
    exact statements_behind (by decide) rfl (isInset_text (isFlat_append (isFlat_of_isIdentifier named) (by decide)))
  delta entryScript
  dsimp only
  rw [statements_unlines, List.flatMap_append, List.flatMap_append, List.flatMap_cons, List.flatMap_cons,
    List.flatMap_singleton, first, second, statements_importComponent orderly named, sheet,
    List.flatMap_eq_nil_iff.mpr]
  · exact List.append_nil _
  · refine forall_quiet_cons (by decide) (List.forall_mem_cons.mpr ⟨mount, ?_⟩)
    refine forall_quiet_cons (by decide) (List.forall_mem_cons.mpr ⟨shown, ?_⟩)
    iterate 2 refine forall_quiet_cons (by decide) ?_
    simp

end ScriptExport

end Storyboard

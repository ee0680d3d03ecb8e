/-
This file states what the renderings of designs in script components are made of.
-/

import Storyboard.Proofs.Export.Imports
import Storyboard.Proofs.Export.ScriptLine
import Storyboard.Proofs.Export.Visibility

namespace Storyboard

open Script

/-- What a rendering in script components is made of: elements that can be read back, and imports by the rules. -/
structure Rendering.IsOrderly (rendering : Rendering) : Prop where
  script : rendering.format.dialect = .script
  named : isIdentifier rendering.componentName
  indices : rendering.screens.map (·.index) = List.range rendering.screens.length
  styled : ∀ screen ∈ rendering.screens, ∀ declaration ∈ screen.style,
    Markup.isName (Declaration.scriptName declaration.property)
  filled : ∀ screen ∈ rendering.screens, screen.elements ≠ []
  legible : ∀ screen ∈ rendering.screens, ∀ element ∈ Forest.preorder screen.elements,
    element.IsLegible rendering.format
  ruled : ∀ imported ∈ rendering.imports, ∃ rule ∈ Rule.all, imported = (rule.category, rule.importSlug)
  distinct : (rendering.imports.map (·.1)).Nodup

/-- The components that are imported are those of rules. -/
theorem Rendering.IsOrderly.mem_categories {rendering : Rendering} (orderly : rendering.IsOrderly) :
    ∀ name ∈ rendering.imports.map (·.1), name ∈ Rule.all.map (·.category) := by
  rw [List.forall_mem_map]
  intro imported member
  obtain ⟨rule, among, rfl⟩ := orderly.ruled imported member
  exact List.mem_map_of_mem among

variable (design : Design) {format : Format} (options : ExportOptions)

/-- The layers that are drawn of a design are layers of it. -/
theorem Design.drawnLayers_subset : design.drawnLayers ⊆ design.layers := by
  intro layer member
  obtain ⟨screen, among, drawn⟩ := List.mem_flatMap.mp member
  exact Forest.mem_preorder_of_mem among (screen.drawnLayers_sublist.subset drawn)

/-- A design that is classified afresh has the same drawn layers, each with its classification. -/
theorem Design.drawnLayers_classified :
    design.classified.drawnLayers = design.drawnLayers.map Layer.classified := by
  rw [drawnLayers, drawnLayers, classified, Forest.map_eq_map, List.flatMap_map, List.map_flatMap]
  exact List.flatMap_congr fun screen _ => Node.drawnLayers_map Layer.classified (fun _ => rfl) screen

/-- Of a design that is classified afresh, a rule decides which component a drawn layer becomes. -/
theorem Design.exists_rule_of_drawn {layer : Layer} (drawn : layer ∈ design.classified.drawnLayers)
    (bound : layer.classification.isDesignSystem) :
    ∃ rule ∈ Rule.all, ∃ features, layer.classification = rule.classification features := by
  have inside := design.classified.drawnLayers_subset drawn
  rw [Design.layers, Design.classified, Forest.preorder_map, List.mem_map] at inside
  obtain ⟨source, -, rfl⟩ := inside
  obtain ⟨rule, among, same⟩ := Features.exists_rule (.ofLayer source) bound
  exact ⟨rule, among, _, same⟩

/-- A screen shows something. -/
theorem Node.shown_ne_nil (screen : Node) : screen.shown ≠ [] := by
  unfold shown
  split
  · simp
  · assumption

/-- The screens of a rendering are counted from zero. -/
theorem Design.map_index_render (design : Design) (format : Format) (options : ExportOptions) :
    (design.render format options).screens.map (·.index) =
      List.range (design.render format options).screens.length := by
  change (design.screens.mapIdx (Node.render format options)).map (·.index) =
    List.range (design.screens.mapIdx (Node.render format options)).length
  refine List.ext_getElem (by simp) fun index onLeft onRight => ?_
  rw [List.getElem_map, List.getElem_range, List.getElem_mapIdx]
  rfl

/-- In script components, the rendering of a design that is classified afresh is made of what can be read back. -/
theorem Design.isOrderly_render (script : format.dialect = .script) (name : String) :
    (design.classified.render format { options with componentName := ComponentName.ofText name }).IsOrderly := by
  have drawn := design.classified.elements_render format { options with componentName := ComponentName.ofText name }
  exact {
    script
    named := ComponentName.isIdentifier_ofText name
    indices := Design.map_index_render _ _ _
    styled := by
      intro screen among declaration member
      obtain ⟨index, bounded, rfl⟩ := List.mem_mapIdx.mp among
      exact Declaration.isName_scriptName _ (Declaration.ofScreen_property _ declaration member)
    filled := by
      intro screen among
      obtain ⟨index, bounded, rfl⟩ := List.mem_mapIdx.mp among
      exact mt List.map_eq_nil_iff.mp (Node.shown_ne_nil _)
    legible := by
      intro screen among element member
      obtain ⟨layer, inside, draws⟩ :=
        exists_of_forall₂_right drawn (List.mem_flatMap.mpr ⟨screen, among, member⟩)
      refine Element.isLegible_of_ruled (fun bound => ?_) draws
      exact design.exists_rule_of_drawn inside (Bool.and_eq_true_iff.mp bound).2
    ruled := by
      intro imported member
      obtain ⟨layer, inside, given, -⟩ := design.classified.exists_of_mem_imports format _ member
      obtain ⟨slug, found, rfl⟩ := Layer.exists_of_componentImport? given
      have bound : layer.classification.isDesignSystem := by rw [Classification.isDesignSystem, found]; rfl
      obtain ⟨rule, among, features, same⟩ := design.exists_rule_of_drawn inside bound
      rw [same] at found ⊢
      exact ⟨rule, among, by rw [Option.some.inj found]; rfl⟩
    distinct := (firstImports_collects _).distinct }

end Storyboard

/-
This file states which nodes of a design are drawn, and that all of them are visible with everything above them exactly
when all screens are.
-/

import Mathlib.Data.List.Flatten
import Storyboard.Conversion
import Storyboard.Proofs.Export.Drawing
import Storyboard.Proofs.Tree.Lineage

namespace Storyboard

namespace Node

/-- The nodes below a screen that are visible, with all nodes between them and the screen. -/
def visibleBelow (screen : Node) : List (Lineage Layer) :=
  (Forest.lineages [] screen.children).filter (·.all (·.visible))

/--
The nodes for which elements are drawn: those below the screen that are visible with all nodes in between, or the
screen itself when no child of it is visible.
-/
def drawnLineages (screen : Node) : List (Lineage Layer) :=
  if screen.children.any (·.value.visible) then screen.visibleBelow.map (·.below [screen.value])
  else [⟨screen.value, []⟩]

theorem visibleBelow_eq (screen : Node) :
    screen.visibleBelow = Forest.lineages [] (Forest.prune (·.visible) screen.children) :=
  (Forest.lineages_prune rfl screen.children).symm

theorem value_visibleBelow (screen : Node) :
    screen.visibleBelow.map (·.value) = Forest.preorder (Forest.prune (·.visible) screen.children) := by
  rw [visibleBelow_eq, Forest.value_lineages]

/-- The drawn layers of a screen are those of the nodes that are drawn. -/
theorem value_drawnLineages (screen : Node) : screen.drawnLineages.map (·.value) = screen.drawnLayers := by
  have pruned := Forest.prune_eq_map_filter (·.visible) screen.children
  rw [drawnLineages, drawnLayers, shown]
  split
  · rename_i visible
    obtain ⟨child, inside, onTop⟩ := List.any_eq_true.mp visible
    have kept : child ∈ screen.children.filter (·.value.visible) := List.mem_filter.mpr ⟨inside, onTop⟩
    split
    · rename_i none
      rw [none] at kept
      exact absurd kept List.not_mem_nil
    · simp only [List.map_map, Function.comp_def, Lineage.value_below]
      rw [value_visibleBelow, pruned, Forest.preorder_eq_flatMap, List.flatMap_map]
  · rename_i hidden
    have none : screen.children.filter (·.value.visible) = [] := by simpa [List.filter_eq_nil_iff] using hidden
    obtain ⟨layer, children⟩ := screen
    rw [Tree.children_node] at none pruned
    rw [Tree.children_node, none, List.flatMap_singleton, Tree.prune, Tree.preorder, pruned, none]
    rfl

/-- The nodes that are drawn are among those of the screen. -/
theorem drawnLineages_sublist (screen : Node) : screen.drawnLineages.Sublist (screen.lineages []) := by
  obtain ⟨layer, children⟩ := screen
  rw [drawnLineages, Tree.lineages]
  split
  · have inside := Forest.lineages_append [] [layer] children
    rw [List.nil_append] at inside
    rw [inside]
    exact (List.filter_sublist.map _).cons _
  · exact List.singleton_sublist.mpr List.mem_cons_self

/-- What is drawn of a screen is part of its layers. -/
theorem drawnLayers_sublist (screen : Node) : screen.drawnLayers.Sublist screen.preorder := by
  rw [← value_drawnLineages, ← Tree.value_lineages [] screen]
  exact screen.drawnLineages_sublist.map _

/-- What is drawn of a visible screen is visible with everything above it, and what is drawn of another one is not. -/
theorem all_drawnLineages {screen : Node} {lineage : Lineage Layer} (member : lineage ∈ screen.drawnLineages) :
    lineage.all (·.visible) = screen.value.visible := by
  rw [drawnLineages] at member
  split at member
  · obtain ⟨inside, visible, rfl⟩ := List.mem_map.mp member
    simp [(List.mem_filter.mp visible).2]
  · obtain rfl := List.mem_singleton.mp member
    simp [Lineage.all]

/-- Something is drawn of every screen. -/
theorem exists_mem_drawnLineages (screen : Node) : ∃ lineage, lineage ∈ screen.drawnLineages := by
  rw [drawnLineages]
  split
  · rename_i visible
    obtain ⟨child, inside, onTop⟩ := List.any_eq_true.mp visible
    have kept : ⟨child.value, []⟩ ∈ screen.visibleBelow :=
      List.mem_filter.mpr ⟨Forest.mem_lineages_of_mem inside [], by rw [Lineage.all, onTop]; rfl⟩
    exact ⟨_, List.mem_map_of_mem kept⟩
  · exact ⟨_, List.mem_singleton_self _⟩

end Node

namespace Design

/-- All nodes of a design with those above them. -/
def lineages (design : Design) : List (Lineage Layer) := Forest.lineages [] design.screens

/-- The nodes of a design for which elements are drawn, with those above them. -/
def drawnLineages (design : Design) : List (Lineage Layer) := design.screens.flatMap Node.drawnLineages

/-- The elements of a rendering are drawn for the nodes that are drawn, one for each and in the same order. -/
theorem elements_render_drawnLineages (design : Design) (format : Format) (options : ExportOptions) :
    List.Forall₂ (fun lineage element => Element.Draws format options lineage.value element) design.drawnLineages
      (design.render format options).elements := by
  have drawn := design.elements_render format options
  have values : design.drawnLineages.map (·.value) = design.drawnLayers := by
    rw [drawnLineages, drawnLayers, List.map_flatMap]
    exact List.flatMap_congr fun screen _ => Node.value_drawnLineages screen
  rwa [← values, List.forall₂_map_left_iff] at drawn

/-- Everything that is drawn is visible with all nodes above it exactly when all screens are visible. -/
theorem all_drawnLineages_iff (design : Design) :
    (∀ lineage ∈ design.drawnLineages, lineage.all (·.visible)) ↔ ∀ screen ∈ design.screens, screen.value.visible := by
  constructor
  · intro visible screen among
    obtain ⟨lineage, drawn⟩ := screen.exists_mem_drawnLineages
    rw [← Node.all_drawnLineages drawn]
    exact visible lineage (List.mem_flatMap.mpr ⟨screen, among, drawn⟩)
  · intro visible lineage member
    obtain ⟨screen, among, drawn⟩ := List.mem_flatMap.mp member
    rw [Node.all_drawnLineages drawn]
    exact visible screen among

theorem drawnLineages_sublist (design : Design) : design.drawnLineages.Sublist design.lineages := by
  rw [drawnLineages, lineages, Forest.lineages_eq_flatMap]
  exact List.Sublist.flatMap_right _ fun screen _ => screen.drawnLineages_sublist

/--
The elements of a design that is built from a source are drawn for the nodes that are drawn, one for each and in the
same order. These nodes are all visible with everything above them exactly when all screens are visible. A raw document
gives no other screens.
-/
theorem draws_visible_iff {config : Config} {source : Json} {design : Design}
    (built : Design.ofSource config source = .ok design) (format : Format) (options : ExportOptions) :
    design.drawnLineages.Sublist design.lineages ∧
      List.Forall₂ (fun lineage element => Element.Draws format options lineage.value element) design.drawnLineages
        (design.render format options).elements ∧
      ((∀ lineage ∈ design.drawnLineages, lineage.all (·.visible)) ↔
        ∀ screen ∈ design.screens, screen.value.visible) ∧
      (Exchange.isExchangeForm source = false → ∀ screen ∈ design.screens, screen.value.visible) := by
  refine ⟨design.drawnLineages_sublist, design.elements_render_drawnLineages format options,
    design.all_drawnLineages_iff, fun raw screen among => ?_⟩
  rw [ofSource, raw, if_neg Bool.false_ne_true] at built
  have visible := Document.visible_of_normalize ((mapError_eq_ok _ _ _).mp built)
  exact visible screen.value (Forest.mem_preorder_of_mem among screen.value_mem_preorder)

/-- A stage with a chair and with an actor behind a curtain that is not visible. -/
def curtained : Json :=
  .object [("screens", .array [.object [
    ("id", .string "stage"),
    ("type", .string "FRAME"),
    ("children", .array [
      .object [
        ("id", .string "curtain"),
        ("type", .string "GROUP"),
        ("visible", .bool false),
        ("children", .array [.object [("id", .string "actor"), ("type", .string "TEXT")]])],
      .object [("id", .string "chair"), ("type", .string "RECTANGLE")]])]])]

/-- On a visible screen nothing is drawn of what is not visible, nor of what is below it. -/
theorem draws_visible_curtained :
    ∃ design, Design.ofSource .standard curtained = .ok design ∧
      (design.render .html {}).elements.map (·.nodeId) = ["chair"] ∧
        ∀ lineage ∈ design.drawnLineages, lineage.all (·.visible) := by
  obtain ⟨design, built, holds⟩ := exists_of_any (Design.ofSource .standard curtained) (fun design =>
    (design.render .html {}).elements.map (·.nodeId) = ["chair"] && design.screens.all (·.value.visible))
    (by decide +kernel)
  obtain ⟨listed, visible⟩ := Bool.and_eq_true_iff.mp holds
  obtain ⟨-, -, iff, -⟩ := draws_visible_iff built .html {}
  exact ⟨design, built, of_decide_eq_true listed, iff.mpr (List.all_eq_true.mp visible)⟩

/-- A screen that is not visible. -/
def veiled : Json :=
  .object [("screens", .array [.object [
    ("id", .string "veil"),
    ("type", .string "FRAME"),
    ("visible", .bool false)]])]

/-- A screen is drawn although it is not visible. -/
theorem draws_veiled :
    ∃ design rendering, Design.ofSource .standard veiled = .ok design ∧
      Conversion.rendering design .html {} = .ok rendering ∧ (∀ layer ∈ design.layers, layer.visible = false) ∧
        ∃ element ∈ rendering.elements, element.nodeId = "veil" := by
  obtain ⟨design, built, holds⟩ := exists_of_any (Design.ofSource .standard veiled) (fun design =>
    design.isDrawable .html && (design.layers.all (!·.visible) &&
      (design.render .html {}).elements.any (·.nodeId = "veil"))) (by decide +kernel)
  obtain ⟨drawable, holds⟩ := Bool.and_eq_true_iff.mp holds
  obtain ⟨hidden, drawn⟩ := Bool.and_eq_true_iff.mp holds
  refine ⟨design, design.render .html {}, built, ?_, by simpa using hidden, by simpa using drawn⟩
  rw [Conversion.rendering, if_pos drawable]

end Design

end Storyboard

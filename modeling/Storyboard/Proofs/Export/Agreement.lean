/-
This file states that all formats draw the same nodes: the plain ones with the same elements, and the design system with
elements that stand for these.
-/

import Storyboard.Proofs.Export.Visibility
import Storyboard.Proofs.Markup.Agreement

namespace Storyboard

/-- Two lists that are changed item by item have related items when the changes of each item are related. -/
theorem forall₂_mapIdx {α β γ : Type} {relation : β → γ → Prop} {left : Nat → α → β} {right : Nat → α → γ}
    (each : ∀ index item, relation (left index item) (right index item)) (items : List α) :
    List.Forall₂ relation (items.mapIdx left) (items.mapIdx right) := by
  induction items generalizing left right with
  | nil => exact .nil
  | cons item rest ih =>
      rw [List.mapIdx_cons, List.mapIdx_cons]
      exact .cons (each 0 item) (ih fun index => each (index + 1))

variable {format : Format}

namespace Node

theorem shownOrigin_eq_zero (plain : format ≠ .moneyview) (screen : Node) : screen.shownOrigin format = .zero := by
  rw [shownOrigin, Element.childOrigin_eq_self plain]
  exact ite_self _

/-- The plain formats draw a screen alike. -/
theorem render_eq_html (plain : format ≠ .moneyview) (options : ExportOptions) :
    Node.render format options = Node.render .html options := by
  have alike : Node.element format options .zero = Node.element .html options .zero :=
    funext (element_eq_html plain options .zero)
  funext index screen
  rw [render, render, shownOrigin_eq_zero plain, shownOrigin_eq_zero (by decide), alike]

theorem isScreenDrawable_eq_html (plain : format ≠ .moneyview) :
    Node.isScreenDrawable format = Node.isScreenDrawable .html := by
  funext screen
  rw [isScreenDrawable, isScreenDrawable, shownOrigin_eq_zero plain, shownOrigin_eq_zero (by decide)]
  congr 2
  funext node
  exact isDrawable_eq_html plain .zero node

end Node

/-- Only components of a design system are imported. -/
theorem Layer.componentImport?_eq_none (plain : format ≠ .moneyview) :
    Layer.componentImport? format = fun _ => none := by
  funext layer
  rw [componentImport?, (Format.isPlain plain).1, if_neg Bool.false_ne_true]

/-- A design is drawn alike in all plain formats, or in none of them. -/
theorem Conversion.rendering_eq_html (plain : format ≠ .moneyview) (design : Design) (options : ExportOptions) :
    rendering design format options =
      (rendering design .html options).map fun rendering => { rendering with format } := by
  have alike : design.render format options = { design.render .html options with format } := by
    simp only [Design.render, Node.render_eq_html plain, Layer.componentImport?_eq_none plain,
      @Layer.componentImport?_eq_none .html (by decide)]
  rw [rendering, rendering, Design.isDrawable, Design.isDrawable, Node.isScreenDrawable_eq_html plain, alike]
  split <;> rfl

/-- A screen in a design system stands for a plain one. -/
structure RenderedScreen.Adapts (plain adapted : RenderedScreen) : Prop where
  index : adapted.index = plain.index
  layer : adapted.layer = plain.layer
  style : adapted.style = plain.style
  elements : List.Forall₂ Element.AdaptsTree plain.elements adapted.elements

theorem Node.adapts_render (options : ExportOptions) (index : Nat) (screen : Node) :
    RenderedScreen.Adapts (screen.render .html options index) (screen.render .moneyview options index) where
  index := rfl
  layer := rfl
  style := rfl
  elements := by
    rw [render, render, List.forall₂_map_left_iff, List.forall₂_map_right_iff, List.forall₂_same]
    exact fun node _ => adapts_element options _ _ node

/-- The ids of the elements of a screen, each element before those below it. -/
def RenderedScreen.nodeIds (screen : RenderedScreen) : List String := (Forest.preorder screen.elements).map (·.nodeId)

/-- The elements of a screen have the ids of the nodes that are drawn. -/
theorem Node.nodeIds_render (format : Format) (options : ExportOptions) (index : Nat) (screen : Node) :
    (screen.render format options index).nodeIds = screen.drawnLineages.map (·.value.id) := by
  have drawn := preorder_render format options index screen
  have ids : List.Forall₂ (· = ·) ((Forest.preorder (screen.render format options index).elements).map (·.nodeId))
      (screen.drawnLayers.map (·.id)) := by
    rw [List.forall₂_map_left_iff, List.forall₂_map_right_iff]
    refine drawn.flip.imp fun element layer drawn => ?_
    obtain ⟨origin, hasChildren, rfl⟩ := drawn
    rfl
  rw [List.forall₂_eq_eq_eq, ← value_drawnLineages, List.map_map] at ids
  exact ids

/--
The plain formats draw a design alike, or fail alike, and the screens of the design system stand for theirs. In every
format the elements of a screen have the ids of the nodes below it that are visible with all nodes in between, each one
once and before those below it, or the id of the screen itself when no child of it is visible.
-/
theorem Design.render_agrees (design : Design) (options : ExportOptions) :
    Conversion.rendering design .react options =
        (Conversion.rendering design .html options).map (fun rendering => { rendering with format := .react }) ∧
      Conversion.rendering design .vue options =
        (Conversion.rendering design .html options).map (fun rendering => { rendering with format := .vue }) ∧
      List.Forall₂ RenderedScreen.Adapts (design.render .html options).screens
        (design.render .moneyview options).screens ∧
      ∀ format, (design.render format options).screens.map RenderedScreen.nodeIds = design.screens.map fun screen =>
        if screen.children.any (·.value.visible) then screen.visibleBelow.map (·.value.id) else [screen.value.id] := by
  refine ⟨Conversion.rendering_eq_html (by decide) design options,
    Conversion.rendering_eq_html (by decide) design options,
    forall₂_mapIdx (Node.adapts_render options) design.screens, fun format => ?_⟩
  have onScreen : ∀ index screen, (Node.render format options index screen).nodeIds =
      if screen.children.any (·.value.visible) then screen.visibleBelow.map (·.value.id) else [screen.value.id] := by
    intro index screen
    rw [Node.nodeIds_render, Node.drawnLineages]
    split
    · simp only [List.map_map, Function.comp_def, Lineage.value_below]
    · rfl
  refine List.ext_getElem (by simp [Design.render]) fun index inside _ => ?_
  simp only [Design.render, List.getElem_map, List.getElem_mapIdx]
  exact onScreen index _

end Storyboard

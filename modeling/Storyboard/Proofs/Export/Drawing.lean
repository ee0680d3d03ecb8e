/-
This file states which layers of a design are drawn, and when a design can be drawn at all.
-/

import Storyboard.Export.Rendering
import Storyboard.Proofs.Document.InView
import Storyboard.Proofs.Markup.Drawn

namespace Storyboard

/-- All elements of a rendering in order. -/
def Rendering.elements (rendering : Rendering) : List Element :=
  rendering.screens.flatMap fun screen => Forest.preorder screen.elements

/-- The layers of a design for which elements are drawn. -/
def Design.drawnLayers (design : Design) : List Layer := design.screens.flatMap Node.drawnLayers

/-- Lists that are related item by item are related when they are put together. -/
theorem forall₂_flatMap_mapIdx {α β γ δ : Type} {relation : γ → δ → Prop} {left : α → List γ} (right : β → List δ)
    {change : Nat → α → β} (each : ∀ index item, List.Forall₂ relation (left item) (right (change index item)))
    (items : List α) : List.Forall₂ relation (items.flatMap left) ((items.mapIdx change).flatMap right) := by
  induction items generalizing change with
  | nil => exact .nil
  | cons item rest ih =>
      rw [List.flatMap_cons, List.mapIdx_cons, List.flatMap_cons]
      exact List.rel_append (each 0 item) (ih fun index => each (index + 1))

namespace Node

variable (format : Format) (options : ExportOptions)

/-- The elements of nodes that are shown are drawn for them and for what is visible below them. -/
theorem preorder_map_element (origin : Origin) (nodes : List Node) :
    List.Forall₂ (Element.Draws format options) (nodes.flatMap fun node => (node.prune (·.visible)).preorder)
      (Forest.preorder (nodes.map (Node.element format options origin))) := by
  induction nodes with
  | nil => exact .nil
  | cons node rest ih =>
      rw [List.flatMap_cons, List.map_cons, Forest.preorder]
      exact List.rel_append (preorder_element format options origin node) ih

/-- The elements of a screen are drawn for its drawn layers, one for each and in the same order. -/
theorem preorder_render (index : Nat) (screen : Node) :
    List.Forall₂ (Element.Draws format options) screen.drawnLayers
      (Forest.preorder (screen.render format options index).elements) :=
  preorder_map_element format options _ screen.shown

section Map

variable (change : Layer → Layer) (unseen : ∀ layer, (change layer).visible = layer.visible) (screen : Node)

include unseen

/-- A change that is not seen in the visibility of layers shows the same nodes, each with the change. -/
theorem shown_map : shown (Tree.map change screen) = screen.shown.map (Tree.map change) := by
  have visible : (fun child : Node => child.value.visible) ∘ Tree.map change = fun child => child.value.visible := by
    funext child
    rw [Function.comp_apply, Tree.value_map, unseen]
  have children : (Tree.map change screen).children = List.map (Tree.map change) screen.children := by
    obtain ⟨layer, children⟩ := screen
    exact Forest.map_eq_map change children
  rw [shown, shown, children, List.filter_map, visible]
  cases screen.children.filter (·.value.visible) <;> rfl

/-- The same layers are drawn, each with the change. -/
theorem drawnLayers_map : drawnLayers (Tree.map change screen) = screen.drawnLayers.map change := by
  rw [drawnLayers, drawnLayers, shown_map change unseen, List.flatMap_map, List.map_flatMap]
  apply List.flatMap_congr
  intro node _
  rw [Tree.prune_map unseen, Tree.preorder_map]

end Map

/-- When all layers of a screen are visible, its children are drawn, or the screen itself when it has none. -/
theorem drawnLayers_eq {screen : Node} (visible : ∀ layer ∈ screen.preorder, layer.visible) :
    screen.drawnLayers = if screen.children.isEmpty then [screen.value] else Forest.preorder screen.children := by
  have inside : ∀ child ∈ screen.children, ∀ layer ∈ child.preorder, layer.visible :=
    fun child among layer member => visible layer (Tree.mem_preorder_of_mem_children among member)
  obtain ⟨value, children⟩ := screen
  have kept : children.filter (·.value.visible) = children :=
    List.filter_eq_self.mpr fun child among => inside child among _ child.value_mem_preorder
  rw [drawnLayers, shown, Tree.children_node, kept]
  cases children with
  | nil => rfl
  | cons child rest =>
      rw [if_neg (by simp), Forest.preorder_eq_flatMap]
      refine List.flatMap_congr fun node among => ?_
      rw [Tree.prune_eq_self node (inside node among)]

end Node

/-- The elements of a rendering are drawn for the drawn layers of the design, one for each and in the same order. -/
theorem Design.elements_render (design : Design) (format : Format) (options : ExportOptions) :
    List.Forall₂ (Element.Draws format options) design.drawnLayers (design.render format options).elements :=
  forall₂_flatMap_mapIdx (fun screen : RenderedScreen => Forest.preorder screen.elements)
    (Node.preorder_render format options) design.screens

/-- A place that is given by binary64 numbers. -/
def Origin.IsDouble (origin : Origin) : Prop := ∃ x y : Double, origin = ⟨.double x, .double y⟩

theorem Origin.isDouble_zero : Origin.zero.IsDouble := ⟨.zero, .zero, rfl⟩

namespace Layer.IsMeasured

variable {layer : Layer} {origin : Origin}

theorem areWritable (measured : layer.IsMeasured) (placed : origin.IsDouble) :
    Declaration.areWritable layer origin := by
  obtain ⟨⟨x, y, width, height, rotation, opacity, layout⟩, fontSize⟩ := measured
  obtain ⟨left, top, rfl⟩ := placed
  have sizes : layer.styles.textStyle?.all (·.fontSize.hasCounterpart) := by
    cases given : layer.styles.textStyle? with
    | none => rfl
    | some style => exact fontSize style given
  rw [Declaration.areWritable, sizes, Bool.and_true, layout]
  rfl

theorem areScreenWritable (measured : layer.IsMeasured) : Declaration.areScreenWritable layer := by
  obtain ⟨⟨x, y, width, height, rotation, opacity, layout⟩, -⟩ := measured
  simp [Declaration.areScreenWritable, layout, Number.hasCounterpart]

/-- The children of a layer are placed from a place that is given by binary64 numbers, too. -/
theorem childOrigin_isDouble (measured : layer.IsMeasured) (format : Format) (placed : origin.IsDouble) :
    (Element.childOrigin format origin layer).IsDouble := by
  obtain ⟨⟨x, y, width, height, rotation, opacity, layout⟩, -⟩ := measured
  rw [Element.childOrigin]
  split
  · exact ⟨x, y, by rw [Origin.ofLayout, layout]⟩
  · exact placed

end Layer.IsMeasured

mutual

/-- A node can be drawn when its numbers and those below it can. -/
theorem Node.isDrawable_of_isMeasured (format : Format) {origin : Origin} (placed : origin.IsDouble) :
    ∀ node : Tree Layer, (∀ layer ∈ node.preorder, layer.IsMeasured) → Node.isDrawable format origin node
  | .node layer children, measured => by
      have onTop : layer.IsMeasured := measured layer (by simp [Tree.preorder])
      have below := Node.areDrawable_of_isMeasured format (onTop.childOrigin_isDouble format placed) children
        fun other member => measured other (by simp [Tree.preorder, member])
      rw [Node.isDrawable, onTop.areWritable placed, below, Bool.and_self]

/-- Nodes can be drawn when their numbers and those below them can. -/
theorem Node.areDrawable_of_isMeasured (format : Format) {origin : Origin} (placed : origin.IsDouble) :
    ∀ nodes : List (Tree Layer), (∀ layer ∈ Forest.preorder nodes, layer.IsMeasured) →
      Node.areDrawable format origin nodes
  | [], _ => rfl
  | node :: rest, measured => by
      have first := Node.isDrawable_of_isMeasured format placed node
        fun other member => measured other (by simp [Forest.preorder, member])
      have others := Node.areDrawable_of_isMeasured format placed rest
        fun other member => measured other (by simp [Forest.preorder, member])
      rw [Node.areDrawable, first, others, Bool.or_true, Bool.and_self]

end

/-- A screen can be drawn when all of its numbers can. -/
theorem Node.isScreenDrawable_of_isMeasured (format : Format) {screen : Node}
    (measured : ∀ layer ∈ screen.preorder, layer.IsMeasured) : screen.isScreenDrawable format := by
  have onTop : screen.value.IsMeasured := measured _ screen.value_mem_preorder
  have placed : (screen.shownOrigin format).IsDouble := by
    rw [shownOrigin]
    split
    · exact Origin.isDouble_zero
    · exact onTop.childOrigin_isDouble format Origin.isDouble_zero
  have onShown : ∀ node ∈ screen.shown, ∀ layer ∈ node.preorder, layer.IsMeasured := by
    intro node among
    rw [shown] at among
    split at among
    · rw [List.mem_singleton.mp among]
      exact measured
    · have inside : node ∈ screen.children := (List.mem_filter.mp among).1
      exact fun layer member => measured layer (Tree.mem_preorder_of_mem_children inside member)
  rw [isScreenDrawable, onTop.areScreenWritable, Bool.true_and, List.all_eq_true]
  exact fun node among => Node.isDrawable_of_isMeasured format placed node (onShown node among)

end Storyboard

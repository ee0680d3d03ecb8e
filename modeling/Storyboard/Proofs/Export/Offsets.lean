/-
This file states from where elements are placed: inside a design system from the corner of the nearest card or dialog
above them, and in all other formats from the corner of the document.
-/

import Storyboard.Proofs.Export.Visibility
import Storyboard.Proofs.Markup.Legible

namespace Storyboard

namespace Origin

/-- The corner of the nearest card or dialog among the layers above a node, or that of the document without one. -/
def ofNearest (above : List Layer) : Origin :=
  match above.find? (·.classification.category ∈ ["Card", "Dialog"]) with
  | some layer => .ofLayout layer.layout
  | none => .zero

/-- The place from which nodes below some layers are placed in a format. -/
def under (format : Format) (above : List Layer) : Origin := if format = .moneyview then ofNearest above else .zero

theorem under_nil (format : Format) : under format [] = .zero := by
  rw [under]
  exact ite_self _

/-- A layer passes on the place that it has itself, unless it is a card or a dialog. -/
theorem childOrigin_under (format : Format) (above : List Layer) (layer : Layer) :
    Element.childOrigin format (under format above) layer = under format (layer :: above) := by
  cases format with
  | moneyview =>
      show (if layer.classification.category ∈ ["Card", "Dialog"] then ofLayout layer.layout else ofNearest above) =
        ofNearest (layer :: above)
      rw [ofNearest, ofNearest, List.find?_cons]
      by_cases rebased : layer.classification.category ∈ ["Card", "Dialog"]
      · rw [if_pos rebased, decide_eq_true rebased]
      · rw [if_neg rebased, decide_eq_false rebased]
  | html | react | vue => rfl

end Origin

/-- The declarations that say how far a layer is from its origin. -/
def Declaration.offsets (layer : Layer) (origin : Origin) : List Declaration :=
  [⟨"left", pixels (layer.layout.x.subtract origin.x)⟩, ⟨"top", pixels (layer.layout.y.subtract origin.y)⟩]

/-- A layer says once how far it is from its origin. -/
theorem Declaration.filter_ofLayer (layer : Layer) (origin : Origin) :
    (ofLayer layer origin).filter (·.property ∈ ["left", "top"]) = offsets layer origin := by
  obtain ⟨further, onFurther, split⟩ := Declaration.exists_further layer
  have elsewhere : ∀ property ∈ furtherProperties, property ∉ ["left", "top"] := by decide
  have aside : further.filter (·.property ∈ ["left", "top"]) = [] := by
    rw [List.filter_eq_nil_iff]
    intro declaration member
    rw [decide_eq_true_eq]
    exact elsewhere _ (onFurther declaration member)
  rw [split, List.filter_append, aside, List.append_nil]
  rfl

/--
An element is drawn for a node and, unless the node is a screen, is placed from the corner of the nearest card or dialog
above the node.
-/
structure Element.IsPlaced (format : Format) (lineage : Lineage Layer) (element : Element) : Prop where
  nodeId : element.nodeId = lineage.value.id
  style : lineage.above ≠ [] → element.style.filter (·.property ∈ ["left", "top"]) =
    Declaration.offsets lineage.value (.under format lineage.above)

namespace Node

variable (format : Format) (options : ExportOptions)

theorem isPlaced_ofLayer (above : List Layer) (layer : Layer) (hasChildren : Bool) :
    Element.IsPlaced format ⟨layer, above⟩
      (Element.ofLayer format options (.under format above) layer hasChildren) where
  nodeId := rfl
  style _ := Declaration.filter_ofLayer layer _

mutual

/-- The elements of a node that stands below some layers are placed from the nearest card or dialog among them. -/
theorem isPlaced_element (above : List Layer) : ∀ node : Tree Layer,
    List.Forall₂ (Element.IsPlaced format) ((node.prune (·.visible)).lineages above)
      (Node.element format options (.under format above) node).preorder
  | .node layer children => by
      have below := isPlaced_elements (layer :: above) children
      rw [Tree.prune, Tree.lineages, Node.element, Tree.preorder, Origin.childOrigin_under]
      exact .cons (isPlaced_ofLayer format options above layer _) below

/-- The elements of nodes side by side are placed from the nearest card or dialog among the layers above them. -/
theorem isPlaced_elements (above : List Layer) : ∀ nodes : List (Tree Layer),
    List.Forall₂ (Element.IsPlaced format) (Forest.lineages above (Forest.prune (·.visible) nodes))
      (Forest.preorder (Node.elements format options (.under format above) nodes))
  | [] => .nil
  | node :: rest => by
      have others := isPlaced_elements above rest
      rw [Forest.prune, Node.elements]
      split
      · rw [Forest.lineages, Forest.preorder]
        exact List.rel_append (isPlaced_element above node) others
      · exact others

end

/-- A screen with a visible child shows its visible children, from its own corner when it is a card or a dialog. -/
theorem elements_render (index : Nat) {screen : Node} (visible : screen.children.any (·.value.visible)) :
    (screen.render format options index).elements =
      Node.elements format options (.under format [screen.value]) screen.children := by
  obtain ⟨child, inside, shown⟩ := List.any_eq_true.mp visible
  have kept : child ∈ screen.children.filter (·.value.visible) := List.mem_filter.mpr ⟨inside, shown⟩
  have origin : screen.shownOrigin format = .under format [screen.value] := by
    rw [shownOrigin, if_neg (by simp [List.ne_nil_of_mem inside]), ← Origin.childOrigin_under, Origin.under_nil]
  rw [elements_eq_map_filter, render, Node.shown, origin]
  split
  · rename_i none
    rw [none] at kept
    exact absurd kept List.not_mem_nil
  · rfl

section Hidden

variable {screen : Node} (hidden : screen.children.filter (·.value.visible) = [])

include hidden

/-- A screen without a visible child shows itself. -/
theorem shown_of_hidden : screen.shown = [screen] := by
  rw [shown, hidden]

/-- A node without a visible child is one element. -/
theorem element_of_hidden (origin : Origin) :
    Node.element format options origin screen = .leaf (Element.ofLayer format options origin screen.value false) := by
  obtain ⟨layer, children⟩ := screen
  rw [Tree.children_node] at hidden
  rw [Node.element, elements_eq_map_filter, hidden]
  rfl

/-- A screen without a visible child is drawn as one element. -/
theorem elements_render_of_hidden (index : Nat) : (screen.render format options index).elements =
    [.leaf (Element.ofLayer format options (screen.shownOrigin format) screen.value false)] := by
  rw [render, shown_of_hidden hidden, List.map_singleton, element_of_hidden format options hidden]

end Hidden

/-- The elements of a screen are placed as the nodes that they are drawn for. -/
theorem isPlaced_render (index : Nat) (screen : Node) :
    List.Forall₂ (Element.IsPlaced format) screen.drawnLineages
      (Forest.preorder (screen.render format options index).elements) := by
  rw [drawnLineages]
  by_cases visible : screen.children.any (·.value.visible)
  · have below := Forest.lineages_append [] [screen.value] (Forest.prune (·.visible) screen.children)
    rw [if_pos visible, visibleBelow_eq, ← below, elements_render format options index visible]
    exact isPlaced_elements format options [screen.value] screen.children
  · have hidden : screen.children.filter (·.value.visible) = [] := by simpa [List.filter_eq_nil_iff] using visible
    rw [if_neg visible, elements_render_of_hidden format options hidden]
    exact .cons ⟨rfl, fun inside => absurd rfl inside⟩ .nil

end Node

/--
In every format the elements of a design are drawn for the nodes that are drawn, one for each and in the same order. The
element of a node below a screen says once how far the node is from its origin: in a design system the corner of the
nearest card or dialog above it, the screen included, and in other formats always that of the document.
-/
theorem Design.offsets_from_nearest (design : Design) (format : Format) (options : ExportOptions) :
    design.drawnLineages.Sublist design.lineages ∧
      List.Forall₂ (Element.IsPlaced format) design.drawnLineages (design.render format options).elements := by
  constructor
  · exact design.drawnLineages_sublist
  · exact forall₂_flatMap_mapIdx (fun screen : RenderedScreen => Forest.preorder screen.elements)
      (Node.isPlaced_render format options) design.screens

end Storyboard

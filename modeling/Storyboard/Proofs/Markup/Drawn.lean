/-
This file states that the elements of a node are those of its visible layers, one for each and in the same order.
-/

import Mathlib.Data.List.Forall2
import Storyboard.Markup.Element
import Storyboard.Proofs.Tree.Forest

namespace Storyboard

/-- Each item on the left of related lists has a partner on the right. -/
theorem exists_of_forall₂_left {α β : Type} {relation : α → β → Prop} {left : List α} {right : List β}
    (related : List.Forall₂ relation left right) {item : α} (member : item ∈ left) :
    ∃ partner ∈ right, relation item partner := by
  induction related with
  | nil => simp at member
  | cons first _ ih =>
      rcases List.mem_cons.mp member with rfl | inside
      · exact ⟨_, List.mem_cons_self, first⟩
      · obtain ⟨partner, among, pair⟩ := ih inside
        exact ⟨partner, List.mem_cons_of_mem _ among, pair⟩

/-- Each item on the right of related lists has a partner on the left. -/
theorem exists_of_forall₂_right {α β : Type} {relation : α → β → Prop} {left : List α} {right : List β}
    (related : List.Forall₂ relation left right) {item : β} (member : item ∈ right) :
    ∃ partner ∈ left, relation partner item := by
  have turned : List.Forall₂ (flip relation) right left := List.Forall₂.flip related
  exact exists_of_forall₂_left turned member

/-- An element is drawn for a layer, from some origin. -/
def Element.Draws (format : Format) (options : ExportOptions) (layer : Layer) (element : Element) : Prop :=
  ∃ origin hasChildren, element = Element.ofLayer format options origin layer hasChildren

mutual

/-- The elements of a node are drawn for its layer and the visible layers below it. -/
theorem Node.preorder_element (format : Format) (options : ExportOptions) (origin : Origin) :
    ∀ node : Tree Layer, List.Forall₂ (Element.Draws format options) (node.prune (·.visible)).preorder
      (Node.element format options origin node).preorder
  | .node layer children => by
      have below := Node.preorder_elements format options (Element.childOrigin format origin layer) children
      rw [Tree.prune, Tree.preorder, Node.element, Tree.preorder]
      exact .cons ⟨_, _, rfl⟩ below

/-- The elements of nodes side by side are drawn for their visible layers. -/
theorem Node.preorder_elements (format : Format) (options : ExportOptions) (origin : Origin) :
    ∀ nodes : List (Tree Layer), List.Forall₂ (Element.Draws format options)
      (Forest.preorder (Forest.prune (·.visible) nodes)) (Forest.preorder (Node.elements format options origin nodes))
  | [] => .nil
  | node :: rest => by
      have others := Node.preorder_elements format options origin rest
      rw [Forest.prune, Node.elements]
      split
      · rw [Forest.preorder, Forest.preorder]
        exact List.rel_append (Node.preorder_element format options origin node) others
      · exact others

end

/-- The elements of nodes side by side are those of the visible ones. -/
theorem Node.elements_eq_map_filter (format : Format) (options : ExportOptions) (origin : Origin) (nodes : List Node) :
    Node.elements format options origin nodes =
      (nodes.filter (·.value.visible)).map (Node.element format options origin) := by
  induction nodes with
  | nil => rfl
  | cons node rest ih =>
      rw [Node.elements, List.filter_cons, ih]
      split <;> rfl

/-- Each element of a node is drawn for one of its layers. -/
theorem Node.exists_of_mem_element {format : Format} {options : ExportOptions} {origin : Origin} {node : Node}
    {element : Element} (member : element ∈ (Node.element format options origin node).preorder) :
    ∃ layer ∈ node.preorder, Element.Draws format options layer element := by
  obtain ⟨layer, inside, drawn⟩ := exists_of_forall₂_right (Node.preorder_element format options origin node) member
  exact ⟨layer, (Tree.preorder_prune_sublist _ node).subset inside, drawn⟩

end Storyboard

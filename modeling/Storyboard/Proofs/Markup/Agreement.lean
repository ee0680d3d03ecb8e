/-
This file compares the elements of a node in two formats: the plain formats share them, and the components of a design
system keep their shape.
-/

import Storyboard.Proofs.Markup.Drawn

namespace Storyboard

variable {format : Format}

namespace Format

/-- Only one format makes components of nodes, and places children from the corner of their parent. -/
theorem isPlain (plain : format ≠ .moneyview) : format.bindsComponents = false ∧ format.rebasedCategories = [] := by
  cases format with
  | moneyview => exact absurd rfl plain
  | html | react | vue => exact ⟨rfl, rfl⟩

end Format

namespace Element

theorem childOrigin_eq_self (plain : format ≠ .moneyview) (origin : Origin) (layer : Layer) :
    childOrigin format origin layer = origin := by
  rw [childOrigin, (Format.isPlain plain).2, if_neg List.not_mem_nil]

/-- The plain formats share the element of a layer. -/
theorem ofLayer_eq_html (plain : format ≠ .moneyview) (options : ExportOptions) (origin : Origin) (layer : Layer)
    (hasChildren : Bool) :
    ofLayer format options origin layer hasChildren = ofLayer .html options origin layer hasChildren := by
  have unbound : isBound format layer = isBound .html layer := by
    rw [isBound, (Format.isPlain plain).1]
    rfl
  simp only [ofLayer, tagOf, textOf?, propsOf, unbound]

end Element

mutual

/-- The plain formats share the element of a node. -/
theorem Node.element_eq_html (plain : format ≠ .moneyview) (options : ExportOptions) (origin : Origin) :
    ∀ node : Tree Layer, Node.element format options origin node = Node.element .html options origin node
  | .node layer children => by
      rw [Node.element, Node.element, Element.childOrigin_eq_self plain, Element.childOrigin_eq_self (by decide),
        Node.elements_eq_html plain, Element.ofLayer_eq_html plain]

/-- The plain formats share the elements of nodes side by side. -/
theorem Node.elements_eq_html (plain : format ≠ .moneyview) (options : ExportOptions) (origin : Origin) :
    ∀ nodes : List (Tree Layer), Node.elements format options origin nodes = Node.elements .html options origin nodes
  | [] => rfl
  | node :: rest => by
      rw [Node.elements, Node.elements, Node.element_eq_html plain, Node.elements_eq_html plain]

end

mutual

/-- A node can be drawn in all plain formats or in none. -/
theorem Node.isDrawable_eq_html (plain : format ≠ .moneyview) (origin : Origin) :
    ∀ node : Tree Layer, Node.isDrawable format origin node = Node.isDrawable .html origin node
  | .node layer children => by
      rw [Node.isDrawable, Node.isDrawable, Element.childOrigin_eq_self plain,
        Element.childOrigin_eq_self (by decide), Node.areDrawable_eq_html plain]

/-- Nodes side by side can be drawn in all plain formats or in none. -/
theorem Node.areDrawable_eq_html (plain : format ≠ .moneyview) (origin : Origin) :
    ∀ nodes : List (Tree Layer), Node.areDrawable format origin nodes = Node.areDrawable .html origin nodes
  | [] => rfl
  | node :: rest => by
      rw [Node.areDrawable, Node.areDrawable, Node.isDrawable_eq_html plain, Node.areDrawable_eq_html plain]

end

/-- Two declarations agree unless they say how far a layer is from its origin. -/
structure Declaration.Agrees (left right : Declaration) : Prop where
  property : left.property = right.property
  value : left.property ≠ "left" → left.property ≠ "top" → left.value = right.value

theorem Declaration.Agrees.refl (declaration : Declaration) : declaration.Agrees declaration := ⟨rfl, fun _ _ => rfl⟩

/-- The declarations of a layer agree, from wherever it is placed. -/
theorem Declaration.agrees_ofLayer (layer : Layer) (origin other : Origin) :
    List.Forall₂ Declaration.Agrees (Declaration.ofLayer layer origin) (Declaration.ofLayer layer other) := by
  refine .cons (.refl _) (.cons ⟨rfl, fun aside => absurd rfl aside⟩ (.cons ⟨rfl, fun _ aside => absurd rfl aside⟩ ?_))
  exact List.forall₂_same.mpr fun declaration _ => .refl declaration

/-- An element of a design system stands for a plain one, which has no properties. -/
structure Element.Adapts (hasChildren : Bool) (plain adapted : Element) : Prop where
  nodeId : adapted.nodeId = plain.nodeId
  classes : adapted.classes = plain.classes
  style : List.Forall₂ Declaration.Agrees plain.style adapted.style
  /-- Only where the plain element has neither text nor children, another text may stand in. -/
  text : plain.text?.isSome ∨ hasChildren → adapted.text? = plain.text?
  props : plain.props = []

/-- The element of a layer in a design system stands for the plain one, from wherever the two are placed. -/
theorem Element.adapts_ofLayer (options : ExportOptions) (origin other : Origin) (layer : Layer) (hasChildren : Bool) :
    Adapts hasChildren (ofLayer .html options origin layer hasChildren)
      (ofLayer .moneyview options other layer hasChildren) where
  nodeId := rfl
  classes := rfl
  style := Declaration.agrees_ofLayer layer origin other
  text kept := by
    change textOf? .moneyview layer hasChildren = textOf? .html layer hasChildren
    rw [textOf?, textOf?]
    split
    · rfl
    · rename_i blank
      rcases kept with filled | inside
      · simp [ofLayer, textOf?, blank, isBound, Format.bindsComponents] at filled
      · simp [inside]
  props := rfl

/-- Trees of elements have the same shape, and each element stands for the plain one at its place. -/
inductive Element.AdaptsTree : Tree Element → Tree Element → Prop
  | node {plain adapted : Element} {children others : Forest Element} :
      Element.Adapts (!children.isEmpty) plain adapted → List.Forall₂ AdaptsTree children others →
        AdaptsTree (.node plain children) (.node adapted others)

theorem isEmpty_eq_of_forall₂ {α β : Type} {relation : α → β → Prop} {left : List α} {right : List β}
    (related : List.Forall₂ relation left right) : left.isEmpty = right.isEmpty := by
  cases related <;> rfl

mutual

/-- The elements of a node in a design system stand for the plain ones. -/
theorem Node.adapts_element (options : ExportOptions) (origin other : Origin) :
    ∀ node : Tree Layer,
      Element.AdaptsTree (Node.element .html options origin node) (Node.element .moneyview options other node)
  | .node layer children => by
      have below := Node.adapts_elements options (Element.childOrigin .html origin layer)
        (Element.childOrigin .moneyview other layer) children
      rw [Node.element, Node.element]
      rw [← isEmpty_eq_of_forall₂ below]
      exact .node (Element.adapts_ofLayer options origin other layer _) below

/-- The elements of nodes side by side in a design system stand for the plain ones. -/
theorem Node.adapts_elements (options : ExportOptions) (origin other : Origin) :
    ∀ nodes : List (Tree Layer), List.Forall₂ Element.AdaptsTree (Node.elements .html options origin nodes)
      (Node.elements .moneyview options other nodes)
  | [] => .nil
  | node :: rest => by
      have others := Node.adapts_elements options origin other rest
      rw [Node.elements, Node.elements]
      split
      · exact .cons (Node.adapts_element options origin other node) others
      · exact others

end

end Storyboard

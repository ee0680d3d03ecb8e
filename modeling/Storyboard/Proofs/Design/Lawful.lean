/-
This file states that every node of a design that is built from a source obeys the rules for new nodes, although
children are given to nodes after they are made.
-/

import Storyboard.Proofs.Design.Complete

namespace Storyboard

variable {config : Config}

/-- The channels of a paint fit into a byte, and its alpha value lies between zero and one. -/
structure Paint.IsLawful (paint : Paint) : Prop where
  red : paint.red ≤ 255
  green : paint.green ≤ 255
  blue : paint.blue ≤ 255
  alpha : Double.zero.atMost paint.alpha ∧ paint.alpha.atMost .one

/-- A layer has an id, no negative size, an opacity and paints in range, and what its type asks for. -/
structure Layer.IsLawful (layer : Layer) : Prop where
  id : layer.id ≠ ""
  width : Number.zero.atMost layer.layout.width
  height : Number.zero.atMost layer.layout.height
  opacity : Number.zero.atMost layer.layout.opacity ∧ layer.layout.opacity.atMost .one
  fills : ∀ paint ∈ layer.styles.fills, paint.IsLawful
  strokes : ∀ paint ∈ layer.styles.strokes, paint.IsLawful
  textStyle : layer.type = .text → layer.styles.textStyle?.isSome
  component : layer.type.isComponent → layer.content.isComponent

/-- The layer of a node is lawful, and text has no children. -/
structure Node.IsLawful (node : Node) : Prop where
  layer : node.value.IsLawful
  leaf : node.value.type = .text → node.children = []

namespace Number

theorem zero_atMost_double (value : Double) : zero.atMost (.double value) = Double.zero.atMost value := by
  have place : zero.place? = Double.zero.place? := by
    rw [zero, place?, Int.zero_mul]
    rfl
  rw [atMost, zero_less_double, Double.atMost, same, Double.same, place]
  rfl

theorem double_atMost_one (value : Double) : (Number.double value).atMost one = value.atMost .one := by
  have place : one.place? = Double.one.place? := by
    rw [one, place?, Int.one_mul, Double.one_eq]
    rfl
  rw [atMost, less, same, Double.atMost, Double.less, Double.same, place]
  rfl

/-- A number from zero on is not negative. -/
theorem not_isNegative {value : Number} (above : zero.atMost value) : value.isNegative = false := by
  rw [isNegative, Bool.eq_false_iff]
  intro below
  have circular := less_of_atMost_of_less above below
  simp [zero] at circular

end Number

/-- A complete paint is lawful. -/
theorem Paint.IsComplete.isLawful {paint : Paint} (complete : paint.IsComplete) : paint.IsLawful :=
  ⟨complete.within.red, complete.within.green, complete.within.blue,
    (unitBounds_admits_iff _).mp complete.within.alpha⟩

/-- A layer with a layout and paints within bounds is lawful when it has what its type asks for. -/
theorem Layer.isLawful_of_conforms {layer : Layer} (named : 1 ≤ layer.id.length) (layout : layer.layout.Conforms)
    (fills : ∀ paint ∈ layer.styles.fills, paint.IsComplete)
    (strokes : ∀ paint ∈ layer.styles.strokes, paint.IsComplete)
    (textStyle : layer.type = .text → layer.styles.textStyle?.isSome)
    (component : layer.type.isComponent → layer.content.isComponent) : layer.IsLawful := by
  obtain ⟨x, y, width, height, rotation, opacity, same, wide, high, shown⟩ := layout
  refine ⟨?_, ?_, ?_, ?_, fun paint member => (fills paint member).isLawful,
    fun paint member => (strokes paint member).isLawful, textStyle, component⟩
  · intro empty
    simp [empty] at named
  · rw [same, Number.zero_atMost_double]
    exact (sizeBounds_admits_iff width).mp wide
  · rw [same, Number.zero_atMost_double]
    exact (sizeBounds_admits_iff height).mp high
  · rw [same, Number.zero_atMost_double, Number.double_atMost_one]
    exact (unitBounds_admits_iff opacity).mp shown

/-- The layer of a record is lawful when it has an id. -/
theorem Record.layer_isLawful {record : Record} {type : NodeType} {id : String} (named : 1 ≤ id.length)
    {layer : Layer} (made : record.layer type id config = .ok layer) : layer.IsLawful := by
  obtain ⟨layout, fills, strokes, -, -, text⟩ := layer_isPainted made
  exact Layer.isLawful_of_conforms ((layer_id made).symm ▸ named) layout fills strokes
    (fun isText => Option.isSome_iff_ne_none.mpr (text isText)) (layer_isMarked made)

/-- A layer that is read from a form within bounds is lawful. -/
theorem LayerForm.Conforms.isLawful {form : LayerForm} (conforms : form.Conforms) (config : Config) :
    (form.layer config).IsLawful := by
  refine Layer.isLawful_of_conforms conforms.id conforms.layout (fun paint member => ?_) (fun paint member => ?_)
    (fun isText => ?_) fun isComponent => ?_
  · obtain ⟨given, inside, rfl⟩ := List.mem_map.mp member
    exact (conforms.styles.fills given inside).isComplete
  · obtain ⟨given, inside, rfl⟩ := List.mem_map.mp member
    exact (conforms.styles.strokes given inside).isComplete
  · have given : form.type = .text := isText
    simp only [LayerForm.layer, given, if_true]
    split <;> rfl
  · have marked : form.type.isComponent = true := isComponent
    simp [LayerForm.layer, marked]

namespace Node

/-- A lawful node passes the checks that are made when a node is made anew. -/
theorem IsLawful.make {node : Node} (lawful : node.IsLawful) :
    node.value.layout.check = .ok node.value.layout ∧ Node.make node.value node.children = .ok node := by
  obtain ⟨layer, children⟩ := node
  obtain ⟨⟨named, wide, high, -, -, -, styled, marked⟩, leaf⟩ := lawful
  simp only [Tree.value_node, Tree.children_node] at *
  have noFault : NodeFault.of? layer (!children.isEmpty) = none := by
    have filled : layer.id.isEmpty = false := by simpa [String.isEmpty_iff] using named
    have hasStyle : ¬(layer.type = .text ∧ layer.styles.textStyle?.isNone) := by
      rintro ⟨isText, missing⟩
      have given := styled isText
      rw [Option.isNone_iff_eq_none] at missing
      simp [missing] at given
    have isLeaf : ¬(layer.type = .text ∧ (!children.isEmpty) = true) := by
      rintro ⟨isText, below⟩
      simp [leaf isText] at below
    have isMarked : ¬(layer.type.isComponent ∧ ¬layer.content.isComponent) := fun ⟨isComponent, unmarked⟩ =>
      unmarked (marked isComponent)
    rw [NodeFault.of?, if_neg (by simp [filled]), if_neg hasStyle, if_neg isLeaf, if_neg isMarked]
  refine ⟨?_, by rw [Node.make, noFault]⟩
  rw [Layout.check, Layout.hasProperSize, Number.not_isNegative wide, Number.not_isNegative high]
  rfl

end Node

namespace Design

/-- All layers of a design that is built from a source are lawful. -/
theorem layer_isLawful {source : Json} {design : Design} (built : ofSource config source = .ok design) :
    ∀ layer ∈ design.layers, layer.IsLawful := by
  intro layer member
  rcases ofSource_inView built with ⟨listed, conforms⟩ | ⟨-, normalized⟩
  · obtain ⟨form, among, rfl⟩ := List.mem_map.mp (listed ▸ member)
    exact (conforms form among).isLawful config
  · obtain ⟨record, -, type, path, named, made⟩ := Document.exists_record_of_normalize normalized member
    exact Record.layer_isLawful (Record.idAt_length named) made

/--
Every node of a design that is built from a source is lawful, so that it could be made anew with the children it has.
-/
theorem isLawful_ofSource {source : Json} {design : Design} (built : ofSource config source = .ok design) :
    ∀ node ∈ Forest.subtrees design.screens, Node.IsLawful node ∧
      node.value.layout.check = .ok node.value.layout ∧ Node.make node.value node.children = .ok node := by
  intro node member
  have lawful : Node.IsLawful node :=
    ⟨layer_isLawful built node.value (Forest.value_mem_preorder_of_mem_subtrees member),
      textIsLeaf_ofSource built node member⟩
  exact ⟨lawful, lawful.make⟩

end Design

/-- A screen out of all bounds with a text above a frame, an unmarked instance, and a group that it hosts later. -/
def Document.excessive : Json :=
  .object [("children", .array [
    .object [("id", .string "screen"), ("type", .string "FRAME"), ("opacity", .int 7),
      ("absoluteBoundingBox", square 0 0 100),
      ("children", .array [
        .object [("type", .string "TEXT"), ("characters", .string "Hello"),
          ("children", .array [.object [("type", .string "FRAME"), ("absoluteBoundingBox", square 0 0 50)]])],
        .object [("type", .string "INSTANCE"), ("fills", .array [
          .object [("type", .string "SOLID"), ("opacity", .int 3),
            ("color", .object [("r", .int 2), ("g", .int (-1)), ("b", .int 1)])]])]])],
    .object [("id", .string "near"), ("type", .string "GROUP"), ("absoluteBoundingBox", square 10 10 5)]])]

theorem Design.isLawful_ofSource_excessive :
    ∃ design, Design.ofSource .standard Document.excessive = .ok design ∧
      (Forest.subtrees design.screens).map (·.children.length) = [3, 0, 0, 0] ∧
        ∀ node ∈ Forest.subtrees design.screens, Node.IsLawful node ∧
          node.value.layout.check = .ok node.value.layout ∧ Node.make node.value node.children = .ok node := by
  obtain ⟨design, built, found⟩ := exists_of_any (Design.ofSource .standard Document.excessive)
    (fun design => decide ((Forest.subtrees design.screens).map (·.children.length) = [3, 0, 0, 0])) (by decide +kernel)
  exact ⟨design, built, of_decide_eq_true found, Design.isLawful_ofSource built⟩

end Storyboard

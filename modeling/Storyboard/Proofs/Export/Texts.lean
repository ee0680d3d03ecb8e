/-
This file states which texts of a raw document are drawn: those of all layers, unless a screen with text has children.
-/

import Mathlib.Data.List.Flatten
import Storyboard.Proofs.Export.Visibility

namespace Storyboard

/-- Lists that are each part of another make up the same list only when each of them is all of the other. -/
theorem flatMap_eq_iff_of_sublist {α β : Type} {left right : α → List β} {items : List α}
    (part : ∀ item ∈ items, (left item).Sublist (right item)) :
    items.flatMap left = items.flatMap right ↔ ∀ item ∈ items, left item = right item := by
  refine ⟨fun same => ?_, List.flatMap_congr⟩
  induction items with
  | nil => simp
  | cons item rest ih =>
      rw [List.forall_mem_cons] at part ⊢
      obtain ⟨first, later⟩ := part
      rw [List.flatMap_cons, List.flatMap_cons] at same
      -- Neither part makes up for what the other lacks, so that both have the same length as what they are part of.
      have total := congrArg List.length same
      have others := (List.Sublist.flatMap_right rest later).length_le
      rw [List.length_append, List.length_append] at total
      have long : (left item).length = (right item).length := by
        have short := first.length_le
        omega
      obtain ⟨onFirst, onRest⟩ := List.append_inj same long
      exact ⟨onFirst, ih later onRest⟩

/-- An element stands for a layer and shows its text. -/
structure Element.Shows (layer : Layer) (element : Element) : Prop where
  nodeId : element.nodeId = layer.id
  text : layer.content.hasText → element.text? = some layer.content.text

theorem Element.Draws.shows {format : Format} {options : ExportOptions} {layer : Layer} {element : Element}
    (drawn : Element.Draws format options layer element) : element.Shows layer := by
  obtain ⟨origin, hasChildren, rfl⟩ := drawn
  exact ⟨rfl, fun filled => by rw [ofLayer, textOf?, if_pos filled]⟩

/-- All layers of a screen that pass a test are drawn unless the screen itself passes and has children. -/
theorem Node.filter_drawnLayers_eq_iff {screen : Node} (visible : ∀ layer ∈ screen.preorder, layer.visible)
    (test : Layer → Bool) :
    screen.drawnLayers.filter test = screen.preorder.filter test ↔ (test screen.value → screen.children = []) := by
  rw [drawnLayers_eq visible]
  obtain ⟨layer, children⟩ := screen
  cases children with
  | nil => simp [Tree.preorder, Forest.preorder]
  | cons child rest =>
      rw [Tree.children_node, List.isEmpty_cons, if_neg Bool.false_ne_true, Tree.preorder, Tree.value_node]
      by_cases passes : test layer
      · simp [List.filter_cons_of_pos passes, passes]
      · simp [List.filter_cons_of_neg passes, passes]

/-- When all layers are visible, those that pass a test are drawn unless a screen passes that has children. -/
theorem Design.filter_drawnLayers_eq_iff {design : Design} (visible : ∀ layer ∈ design.layers, layer.visible)
    (test : Layer → Bool) :
    design.drawnLayers.filter test = design.layers.filter test ↔
      ∀ screen ∈ design.screens, test screen.value → screen.children = [] := by
  have onScreen : ∀ screen ∈ design.screens, ∀ layer ∈ screen.preorder, layer.visible :=
    fun screen among layer member => visible layer (Forest.mem_preorder_of_mem among member)
  rw [drawnLayers, layers, Forest.preorder_eq_flatMap, List.filter_flatMap, List.filter_flatMap,
    flatMap_eq_iff_of_sublist fun screen _ => screen.drawnLayers_sublist.filter test]
  exact forall₂_congr fun screen among => Node.filter_drawnLayers_eq_iff (onScreen screen among) test

namespace Document

/-- The design of a raw document can be drawn when the default font size can. -/
theorem isDrawable_of_normalize {config : Config} {raw : Json} {design : Design}
    (built : normalize config raw = .ok design) (default : config.defaultFontSize.hasCounterpart) (format : Format) :
    design.isDrawable format := by
  rw [Design.isDrawable, List.all_eq_true]
  refine fun screen among => Node.isScreenDrawable_of_isMeasured format fun layer member => ?_
  have listed : layer ∈ design.layers := Forest.mem_preorder_of_mem among member
  obtain ⟨record, -, type, path, -, made⟩ := exists_record_of_normalize built listed
  exact record.layer_isMeasured default made

/--
The design of a raw document can be drawn when the default font size can. There is one element for each drawn layer, in
the same order and with the text of the layer. All layers with text are drawn exactly when no screen with text has
children.
-/
theorem normalize_draws_texts {config : Config} {raw : Json} {design : Design}
    (built : normalize config raw = .ok design) (format : Format) (options : ExportOptions) :
    (config.defaultFontSize.hasCounterpart →
        Conversion.rendering design format options = .ok (design.render format options)) ∧
      List.Forall₂ Element.Shows design.drawnLayers (design.render format options).elements ∧
      (design.drawnLayers.filter (·.content.hasText) = design.layers.filter (·.content.hasText) ↔
        ∀ screen ∈ design.screens, screen.value.content.hasText → screen.children = []) := by
  refine ⟨fun default => ?_, ?_, ?_⟩
  · rw [Conversion.rendering, if_pos (isDrawable_of_normalize built default format)]
  · exact (design.elements_render format options).imp fun _ _ drawn => drawn.shows
  · exact Design.filter_drawnLayers_eq_iff (visible_of_normalize built) (·.content.hasText)

/-- A page with a note and a titled frame that holds a line. -/
def letter : Json :=
  .object [("children", .array [.object [
    ("id", .string "page"),
    ("type", .string "FRAME"),
    ("absoluteBoundingBox", square 0 0 300),
    ("children", .array [
      .object [("id", .string "note"), ("type", .string "TEXT"), ("characters", .string "Dear all")],
      .object [
        ("id", .string "frame"),
        ("type", .string "FRAME"),
        ("characters", .string "News"),
        ("absoluteBoundingBox", square 0 50 200),
        ("children", .array [
          .object [("id", .string "line"), ("type", .string "TEXT"), ("characters", .string "Nothing")]])]])]])]

/-- Texts below a screen are all drawn, also those of layers that have children. -/
theorem normalize_letter :
    ∃ design, normalize .standard letter = .ok design ∧ design.texts = ["Dear all", "News", "Nothing"] ∧
      Conversion.rendering design .html {} = .ok (design.render .html {}) ∧
        List.Forall₂ Element.Shows design.drawnLayers (design.render .html {}).elements ∧
        design.drawnLayers.filter (·.content.hasText) = design.layers.filter (·.content.hasText) := by
  obtain ⟨design, built, holds⟩ := exists_of_any (normalize .standard letter) (fun design =>
    design.texts == ["Dear all", "News", "Nothing"] && design.screens.all (!·.value.content.hasText))
    (by decide +kernel)
  obtain ⟨listed, plain⟩ := Bool.and_eq_true_iff.mp holds
  obtain ⟨drawable, shown, complete⟩ := normalize_draws_texts built .html {}
  refine ⟨design, built, beq_iff_eq.mp listed, drawable rfl, shown, complete.mpr fun screen among filled => ?_⟩
  have blank := List.all_eq_true.mp plain screen among
  simp [filled] at blank

/-- A box with text and a small box in its corner, which is found in the second pass. -/
def labelled : Json :=
  .object [("children", .array [
    .object [
      ("id", .string "box"),
      ("type", .string "RECTANGLE"),
      ("characters", .string "Hello"),
      ("absoluteBoundingBox", square 0 0 300)],
    .object [("id", .string "corner"), ("absoluteBoundingBox", square 10 10 8)]])]

/-- The text of a screen is not drawn when the screen has a child. -/
theorem normalize_labelled :
    ∃ design rendering, normalize .standard labelled = .ok design ∧ design.texts = ["Hello"] ∧
      Conversion.rendering design .html {} = .ok rendering ∧
        ∀ element ∈ rendering.elements, element.nodeId ≠ "box" ∧ element.text? ≠ some "Hello" := by
  obtain ⟨design, built, holds⟩ := exists_of_any (normalize .standard labelled) (fun design =>
    design.texts == ["Hello"] && (design.render .html {}).elements.all fun element =>
      element.nodeId ≠ "box" && element.text? ≠ some "Hello") (by decide +kernel)
  obtain ⟨listed, missing⟩ := Bool.and_eq_true_iff.mp holds
  refine ⟨design, design.render .html {}, built, beq_iff_eq.mp listed, ?_, by simpa using missing⟩
  rw [Conversion.rendering, if_pos (isDrawable_of_normalize built rfl .html)]

end Document

end Storyboard

/-
This file states that a design is exported and counted alike whether its classifications are stored or computed when
they are asked for.
-/

import Mathlib.Data.List.Basic
import Storyboard.Conversion
import Storyboard.Proofs.Export.Drawing
import Storyboard.Proofs.Export.Parts

namespace Storyboard

namespace Layer

/-- A layer holds no classification but the one that is computed for it. -/
def IsCurrent (layer : Layer) : Prop :=
  layer.classification? = none ∨ layer.classification? = some layer.classify

theorem isCurrent_classified (layer : Layer) : layer.classified.IsCurrent := .inr rfl

/-- A layer that holds the classification that counts for it. -/
def annotated (layer : Layer) : Layer := { layer with classification? := some layer.classification }

/-- The computed classification counts for a current layer. -/
theorem IsCurrent.classified_eq {layer : Layer} (current : layer.IsCurrent) : layer.classified = layer.annotated := by
  have counts : layer.classification = layer.classify := by
    rcases current with none | stored
    · rw [classification, none, Option.getD_none]
    · rw [classification, stored, Option.getD_some]
  rw [classified, annotated, counts]

end Layer

namespace Node

/-- A node that holds the classifications that count for it and for what is below it. -/
def annotated (node : Node) : Node := node.map Layer.annotated

@[simp] theorem value_annotated (node : Node) : node.annotated.value = node.value.annotated := Tree.value_map _ node

theorem children_annotated (node : Node) : node.annotated.children = List.map annotated node.children := by
  obtain ⟨layer, children⟩ := node
  exact Forest.map_eq_map Layer.annotated children

variable (format : Format) (options : ExportOptions)

mutual

/-- The element of a node does not depend on where classifications come from. -/
theorem element_annotated (origin : Origin) :
    ∀ node : Node, Node.element format options origin node.annotated = Node.element format options origin node
  | .node layer children => by
      have below := elements_annotated (Element.childOrigin format origin layer) children
      rw [annotated, Tree.map, Node.element, Node.element, ← below]
      rfl

/-- The elements of nodes side by side do not depend on where classifications come from. -/
theorem elements_annotated (origin : Origin) : ∀ nodes : List Node,
    Node.elements format options origin (Forest.map Layer.annotated nodes) = Node.elements format options origin nodes
  | [] => rfl
  | node :: rest => by
      have first := element_annotated origin node
      have others := elements_annotated origin rest
      rw [annotated] at first
      rw [Forest.map, Node.elements, Node.elements, first, others, Tree.value_map]
      rfl

end

mutual

/-- Whether a node can be drawn does not depend on where classifications come from. -/
theorem isDrawable_annotated (origin : Origin) :
    ∀ node : Node, Node.isDrawable format origin node.annotated = Node.isDrawable format origin node
  | .node layer children => by
      have below := areDrawable_annotated (Element.childOrigin format origin layer) children
      rw [annotated, Tree.map, Node.isDrawable, Node.isDrawable, ← below]
      rfl

/-- Whether nodes side by side can be drawn does not depend on where classifications come from. -/
theorem areDrawable_annotated (origin : Origin) : ∀ nodes : List Node,
    Node.areDrawable format origin (Forest.map Layer.annotated nodes) = Node.areDrawable format origin nodes
  | [] => rfl
  | node :: rest => by
      have first := isDrawable_annotated origin node
      have others := areDrawable_annotated origin rest
      rw [annotated] at first
      rw [Forest.map, Node.areDrawable, Node.areDrawable, first, others, Tree.value_map]
      rfl

end

/-- A screen shows the same nodes, each with the classifications that count. -/
theorem shown_annotated (screen : Node) : screen.annotated.shown = screen.shown.map annotated :=
  shown_map Layer.annotated (fun _ => rfl) screen

theorem shownOrigin_annotated (screen : Node) : screen.annotated.shownOrigin format = screen.shownOrigin format := by
  rw [shownOrigin, shownOrigin, children_annotated, List.isEmpty_map, value_annotated]
  rfl

/-- The same layers are drawn, each with the classification that counts. -/
theorem drawnLayers_annotated (screen : Node) :
    screen.annotated.drawnLayers = screen.drawnLayers.map Layer.annotated :=
  drawnLayers_map Layer.annotated (fun _ => rfl) screen

/-- A screen is drawn alike, for a layer that holds the classification that counts. -/
theorem render_annotated (index : Nat) (screen : Node) : screen.annotated.render format options index =
    { screen.render format options index with layer := screen.value.annotated } := by
  have alike : Node.element format options (screen.shownOrigin format) ∘ annotated =
      Node.element format options (screen.shownOrigin format) :=
    funext (element_annotated format options _)
  rw [render, render, shown_annotated, shownOrigin_annotated, List.map_map, value_annotated, alike]
  rfl

theorem isScreenDrawable_annotated (screen : Node) :
    screen.annotated.isScreenDrawable format = screen.isScreenDrawable format := by
  have alike : Node.isDrawable format (screen.shownOrigin format) ∘ annotated =
      Node.isDrawable format (screen.shownOrigin format) :=
    funext (isDrawable_annotated format _)
  rw [isScreenDrawable, isScreenDrawable, shown_annotated, shownOrigin_annotated, List.all_map, value_annotated, alike]
  rfl

end Node

/-- A screen that is drawn, for a layer that is changed. -/
def RenderedScreen.changeLayer (change : Layer → Layer) (screen : RenderedScreen) : RenderedScreen :=
  { screen with layer := change screen.layer }

/-- What is drawn in an export, for layers that are changed. -/
def Rendering.changeLayers (change : Layer → Layer) (rendering : Rendering) : Rendering :=
  { rendering with screens := rendering.screens.map (RenderedScreen.changeLayer change) }

/-- Files are written from what is drawn on screens, and not from the layers that these are drawn for. -/
theorem Rendering.files_changeLayers (change : Layer → Layer) (rendering : Rendering) :
    (rendering.changeLayers change).files = rendering.files := by
  have main : (rendering.changeLayers change).mainFiles = rendering.mainFiles := by
    obtain ⟨format, options, screens, imports⟩ := rendering
    cases format with
    | html =>
        simp only [changeLayers, mainFiles, MarkupExport.page, List.flatMap_map, List.length_map]
        rfl
    | vue =>
        simp only [changeLayers, mainFiles, TemplateExport.component, List.flatMap_map, List.length_map]
        rfl
    | react | moneyview =>
        simp only [changeLayers, mainFiles, ScriptExport.component, ScriptExport.entryScript, ScriptExport.exportName,
          ScriptExport.takenNames, List.map_map]
        rfl
  have readme (paths : List String) : (rendering.changeLayers change).readme paths = rendering.readme paths := by
    simp only [changeLayers, Rendering.readme, List.length_map]
    rfl
  rw [files_eq, files_eq, withDescription, withDescription, main, readme]
  rfl

/-- A design that holds the classifications that count for its layers. -/
def Design.annotated (design : Design) : Design := { design with screens := design.screens.map Node.annotated }

namespace Design

/-- The computed classifications count for the current layers of a design. -/
theorem classified_eq_annotated {design : Design} (current : ∀ layer ∈ design.layers, layer.IsCurrent) :
    design.classified = design.annotated := by
  have screens : Forest.map Layer.classified design.screens = design.screens.map Node.annotated :=
    (Forest.map_congr design.screens fun layer member => (current layer member).classified_eq).trans
      (Forest.map_eq_map Layer.annotated design.screens)
  rw [classified, screens, annotated]

/-- A design is drawn alike, for layers that hold the classifications that count. -/
theorem render_annotated (design : Design) (format : Format) (options : ExportOptions) :
    design.annotated.render format options = (design.render format options).changeLayers Layer.annotated := by
  have screens : (design.screens.map Node.annotated).mapIdx (Node.render format options) =
      (design.screens.mapIdx (Node.render format options)).map (RenderedScreen.changeLayer Layer.annotated) := by
    refine List.ext_getElem (by simp) fun index before after => ?_
    simp [Node.render_annotated]
    rfl
  have layers : (design.screens.map Node.annotated).flatMap Node.drawnLayers =
      (design.screens.flatMap Node.drawnLayers).map Layer.annotated := by
    rw [List.flatMap_map, List.map_flatMap]
    exact List.flatMap_congr fun screen _ => screen.drawnLayers_annotated
  rw [render, annotated, screens, layers, List.filterMap_map]
  rfl

theorem isDrawable_annotated (design : Design) (format : Format) :
    design.annotated.isDrawable format = design.isDrawable format := by
  have alike : Node.isScreenDrawable format ∘ Node.annotated = Node.isScreenDrawable format :=
    funext (Node.isScreenDrawable_annotated format)
  rw [isDrawable, annotated, List.all_map, alike, isDrawable]

theorem layers_annotated (design : Design) : design.annotated.layers = design.layers.map Layer.annotated := by
  rw [layers, layers, ← Forest.preorder_map, Forest.map_eq_map]
  rfl

theorem categoryCounts_annotated (design : Design) : design.annotated.categoryCounts = design.categoryCounts := by
  rw [categoryCounts, categoryCounts, layers_annotated, List.map_map]
  rfl

end Design

def Design.unclassified (design : Design) : Design :=
  { design with screens := Forest.map Layer.unclassified design.screens }

namespace Conversion

/-- A design gives the same files when the classifications that count are stored, or fails alike. -/
theorem emit_annotated (design : Design) (format : Format) (options : ExportOptions) :
    emit design.annotated format options = emit design format options := by
  have files : design.annotated.files format options = design.files format options := by
    rw [Design.files, Design.render_annotated, Rendering.files_changeLayers, Design.files]
  have empty : design.annotated.screens.isEmpty = design.screens.isEmpty := List.isEmpty_map
  rw [emit, emit, empty, design.isDrawable_annotated, files]

/--
A design that is classified afresh differs from the design in classifications alone. Each of its layers holds the
classification that is computed for it, so that it stays the same when it is classified once more. If no layer of the
design holds another classification, both give the same files in every format, whatever is chosen, or fail alike, and
both have as many layers in each category.
-/
theorem emit_classified (design : Design) :
    design.classified.unclassified = design.unclassified ∧
      (∀ layer ∈ design.classified.layers, layer.classification? = some layer.classify) ∧
      design.classified.classified = design.classified ∧
      ((∀ layer ∈ design.layers, layer.IsCurrent) →
        (∀ format options, emit design.classified format options = emit design format options) ∧
          design.classified.categoryCounts = design.categoryCounts) := by
  refine ⟨?_, ?_, ?_, fun current => ⟨fun format options => ?_, ?_⟩⟩
  · rw [Design.unclassified, Design.classified, Forest.map_map]
    rfl
  · intro layer member
    rw [Design.layers, Design.classified, Forest.preorder_map] at member
    obtain ⟨source, -, rfl⟩ := List.mem_map.mp member
    rfl
  · rw [Design.classified, Design.classified, Forest.map_map]
    rfl
  · rw [Design.classified_eq_annotated current, emit_annotated]
  · rw [Design.classified_eq_annotated current, Design.categoryCounts_annotated]

/-- A dialog that is classified, with a note in it that is not. -/
def halfClassified : Design where
  screens := [.node
    (Layer.classified {
      id := "dialog"
      type := .frame
      layout := { Layout.empty with width := .whole 320, height := .whole 240 } })
    [.leaf { id := "note", type := .text, layout := .empty, content := { text := "Are you sure?" } }]]

/-- Stored and computed classifications may stand side by side. -/
theorem emit_classified_half :
    (∀ layer ∈ halfClassified.layers, layer.IsCurrent) ∧
      emit halfClassified.classified .moneyview {} = emit halfClassified .moneyview {} ∧
      halfClassified.classified.categoryCounts = halfClassified.categoryCounts := by
  have current : ∀ layer ∈ halfClassified.layers, layer.IsCurrent := by
    simp only [Design.layers, halfClassified, Forest.preorder, Tree.leaf, Tree.preorder, List.append_nil,
      List.forall_mem_cons]
    refine ⟨Layer.isCurrent_classified _, Or.inl ?_, List.forall_mem_nil _⟩
    rfl
  have same := (emit_classified halfClassified).2.2.2 current
  exact ⟨current, same.1 .moneyview {}, same.2⟩

end Conversion

end Storyboard

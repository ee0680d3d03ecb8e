/-
This file states what hidden nodes change of an export: nothing but, inside a design system, the place of a screen whose
children are all hidden.
-/

import Storyboard.Proofs.Export.Agreement
import Storyboard.Proofs.Export.Files
import Storyboard.Proofs.Export.Offsets
import Storyboard.Proofs.Export.Shift
import Storyboard.Proofs.Number.Unit

namespace Storyboard

theorem Number.canMeet_self (value : Number) : value.canMeet value := by
  cases value <;> rfl

theorem Number.hasCounterpart_subtract_self (value : Number) : (value.subtract value).hasCounterpart := by
  cases value with
  | whole value =>
      show (Double.ofInt (value - value)).isFinite
      rw [Int.sub_self, Double.ofInt_zero]
      rfl
  | double value => rfl

/-- A layer that can be written from some place can be written from its own corner. -/
theorem Declaration.areWritable_ofLayout {layer : Layer} {origin : Origin} (writable : areWritable layer origin) :
    areWritable layer (.ofLayout layer.layout) := by
  simp only [areWritable, Origin.ofLayout, List.all_cons, List.all_nil, Bool.and_eq_true] at writable ⊢
  obtain ⟨⟨-, -, -, sizes⟩, text⟩ := writable
  exact ⟨⟨⟨Number.canMeet_self _, Number.canMeet_self _⟩, Number.hasCounterpart_subtract_self _,
    Number.hasCounterpart_subtract_self _, sizes⟩, text⟩

namespace Node

variable (format : Format) (options : ExportOptions)

mutual

/-- The element of a node does without what is hidden below it. -/
theorem element_prune (origin : Origin) :
    ∀ node : Node, Node.element format options origin (node.prune (·.visible)) = Node.element format options origin node
  | .node layer children => by
      rw [Tree.prune, Node.element, Node.element, elements_prune _ children]

/-- The elements of nodes side by side do without those that are hidden. -/
theorem elements_prune (origin : Origin) : ∀ nodes : List Node,
    Node.elements format options origin (Forest.prune (·.visible) nodes) = Node.elements format options origin nodes
  | [] => rfl
  | node :: rest => by
      have others := elements_prune origin rest
      rw [Forest.prune, Node.elements]
      split
      · rename_i visible
        rw [Node.elements, Tree.value_prune, if_pos visible, element_prune origin node, others]
      · exact others

end

mutual

/-- What is hidden below a node does not keep it from being drawn. -/
theorem isDrawable_prune (origin : Origin) :
    ∀ node : Node, Node.isDrawable format origin (node.prune (·.visible)) = Node.isDrawable format origin node
  | .node layer children => by
      rw [Tree.prune, Node.isDrawable, Node.isDrawable, areDrawable_prune _ children]

/-- Hidden nodes do not keep those beside them from being drawn. -/
theorem areDrawable_prune (origin : Origin) : ∀ nodes : List Node,
    Node.areDrawable format origin (Forest.prune (·.visible) nodes) = Node.areDrawable format origin nodes
  | [] => rfl
  | node :: rest => by
      have others := areDrawable_prune origin rest
      rw [Forest.prune, Node.areDrawable]
      split
      · rename_i visible
        rw [Node.areDrawable, Tree.value_prune, isDrawable_prune origin node, others]
      · rename_i hidden
        rw [others, eq_false_of_ne_true hidden, Bool.not_false, Bool.true_or, Bool.true_and]

end

/-- A screen without the nodes below it that are hidden, and without what is below them. -/
def withoutHidden (screen : Node) : Node := screen.prune (·.visible)

@[simp] theorem value_withoutHidden (screen : Node) : screen.withoutHidden.value = screen.value :=
  Tree.value_prune _ screen

theorem children_withoutHidden (screen : Node) :
    screen.withoutHidden.children = (screen.children.filter (·.value.visible)).map withoutHidden := by
  obtain ⟨layer, children⟩ := screen
  exact Forest.prune_eq_map_filter _ children

/-- A screen shows the same nodes when hidden ones are gone, each without what is hidden below it. -/
theorem shown_withoutHidden (screen : Node) : screen.withoutHidden.shown = screen.shown.map withoutHidden := by
  have all : ∀ child ∈ screen.withoutHidden.children, child.value.visible := by
    rw [children_withoutHidden]
    intro child member
    obtain ⟨source, inside, rfl⟩ := List.mem_map.mp member
    rw [value_withoutHidden]
    exact (List.mem_filter.mp inside).2
  rw [shown, shown, List.filter_eq_self.mpr all, children_withoutHidden]
  cases screen.children.filter (·.value.visible) <;> rfl

/-- The same layers are drawn on a screen when hidden nodes are gone. -/
theorem drawnLayers_withoutHidden (screen : Node) : screen.withoutHidden.drawnLayers = screen.drawnLayers := by
  rw [drawnLayers, shown_withoutHidden, List.flatMap_map, drawnLayers]
  exact List.flatMap_congr fun node _ => congrArg Tree.preorder (Tree.prune_prune _ node)

/-- Without hidden nodes, a screen is drawn as before but for the place of what it shows. -/
theorem render_withoutHidden (index : Nat) (screen : Node) :
    screen.withoutHidden.render format options index =
      { screen.render format options index with
        elements := screen.shown.map (Node.element format options (screen.withoutHidden.shownOrigin format)) } := by
  rw [render, render, value_withoutHidden, shown_withoutHidden, List.map_map]
  simp only [Function.comp_def, withoutHidden, element_prune]

/-- Without hidden nodes, a screen can be drawn as before but for the place of what it shows. -/
theorem isScreenDrawable_withoutHidden (screen : Node) :
    screen.withoutHidden.isScreenDrawable format = (Declaration.areScreenWritable screen.value &&
      screen.shown.all (Node.isDrawable format (screen.withoutHidden.shownOrigin format))) := by
  rw [isScreenDrawable, value_withoutHidden, shown_withoutHidden, List.all_map]
  simp only [Function.comp_def, withoutHidden, isDrawable_prune]

/-- A screen as it is drawn when it shows nothing but itself, placed from an origin. -/
def renderAlone (index : Nat) (screen : Node) (origin : Origin) : RenderedScreen where
  index
  layer := screen.value
  style := Declaration.ofScreen screen.value
  elements := [.leaf (Element.ofLayer format options origin screen.value false)]

/-- A screen is deserted when it has children but none that is visible. -/
structure IsDeserted (screen : Node) : Prop where
  filled : screen.children ≠ []
  hidden : ∀ child ∈ screen.children, child.value.visible = false

namespace IsDeserted

variable {screen : Node} (deserted : screen.IsDeserted)

include deserted

theorem filter_children : screen.children.filter (·.value.visible) = [] := by
  simpa [List.filter_eq_nil_iff] using deserted.hidden

/-- A deserted screen is placed from its own corner when it is a card or a dialog of a design system. -/
theorem shownOrigin_eq : screen.shownOrigin format = Element.childOrigin format .zero screen.value := by
  rw [shownOrigin, if_neg (by simpa using deserted.filled)]

/-- A screen that was deserted is placed from the corner of the document when its hidden children are gone. -/
theorem shownOrigin_withoutHidden_eq : screen.withoutHidden.shownOrigin format = .zero := by
  rw [shownOrigin, children_withoutHidden, deserted.filter_children]
  rfl

/-- A deserted screen can be drawn when its own numbers can be written. -/
theorem isDrawable_eq (origin : Origin) :
    Node.isDrawable format origin screen = Declaration.areWritable screen.value origin := by
  -- The hidden children are taken out first, since they do not count for it.
  have none := children_withoutHidden screen
  rw [deserted.filter_children] at none
  obtain ⟨layer, children⟩ := screen
  rw [withoutHidden, Tree.prune, Tree.children_node] at none
  rw [← isDrawable_prune, Tree.prune, Node.isDrawable, none]
  exact Bool.and_true _

theorem render_eq (index : Nat) : screen.render format options index =
    screen.renderAlone format options index (Element.childOrigin format .zero screen.value) := by
  have elements := elements_render_of_hidden format options deserted.filter_children index
  rw [deserted.shownOrigin_eq] at elements
  rw [renderAlone, ← elements, render]

theorem render_withoutHidden_eq (index : Nat) : screen.withoutHidden.render format options index =
    screen.renderAlone format options index .zero := by
  have alone := shown_of_hidden deserted.filter_children
  have element := element_of_hidden format options deserted.filter_children
  rw [render_withoutHidden, alone, List.map_singleton, element, deserted.shownOrigin_withoutHidden_eq, render,
    renderAlone]

theorem isScreenDrawable_eq : screen.isScreenDrawable format = (Declaration.areScreenWritable screen.value &&
    Declaration.areWritable screen.value (Element.childOrigin format .zero screen.value)) := by
  have alone := shown_of_hidden deserted.filter_children
  rw [isScreenDrawable, alone, deserted.shownOrigin_eq, List.all_cons, deserted.isDrawable_eq, List.all_nil,
    Bool.and_true]

theorem isScreenDrawable_withoutHidden_eq : screen.withoutHidden.isScreenDrawable format =
    (Declaration.areScreenWritable screen.value && Declaration.areWritable screen.value .zero) := by
  have alone := shown_of_hidden deserted.filter_children
  rw [isScreenDrawable_withoutHidden, alone, deserted.shownOrigin_withoutHidden_eq, List.all_cons,
    deserted.isDrawable_eq, List.all_nil, Bool.and_true]

end IsDeserted

section Inhabited

variable {screen : Node} (inhabited : ¬screen.IsDeserted)

include inhabited

/-- What a screen shows stays in its place when hidden nodes are gone, unless the screen is deserted. -/
theorem shownOrigin_withoutHidden : screen.withoutHidden.shownOrigin format = screen.shownOrigin format := by
  have same : screen.withoutHidden.children.isEmpty = screen.children.isEmpty := by
    rw [children_withoutHidden, List.isEmpty_map, Bool.eq_iff_iff, List.isEmpty_iff, List.isEmpty_iff]
    refine ⟨fun none => ?_, fun none => by rw [none, List.filter_nil]⟩
    by_contra filled
    exact inhabited ⟨filled, by simpa [List.filter_eq_nil_iff] using none⟩
  rw [shownOrigin, same, value_withoutHidden, shownOrigin]

theorem render_withoutHidden_of_inhabited (index : Nat) :
    screen.withoutHidden.render format options index = screen.render format options index := by
  rw [render_withoutHidden, shownOrigin_withoutHidden format inhabited]
  rfl

theorem isScreenDrawable_withoutHidden_of_inhabited :
    screen.withoutHidden.isScreenDrawable format = screen.isScreenDrawable format := by
  rw [isScreenDrawable_withoutHidden, shownOrigin_withoutHidden format inhabited]
  rfl

end Inhabited

/-- Without hidden nodes, a screen is drawn as before but for the place of its only element. -/
theorem isShifted_render (index : Nat) (screen : Node) :
    (screen.withoutHidden.render format options index).IsShifted format options
      (screen.render format options index) := by
  by_cases deserted : screen.IsDeserted
  · rw [deserted.render_withoutHidden_eq, deserted.render_eq]
    exact .moved (screen.renderAlone format options index .zero) screen.value _ _
  · rw [render_withoutHidden_of_inhabited format options deserted]
    exact .same _

end Node

/-- A layer is drawn alike from its own corner and from that of the document. -/
structure Declaration.AreAnchored (layer : Layer) : Prop where
  writable : areWritable layer .zero
  same : ofLayer layer (.ofLayout layer.layout) = ofLayer layer .zero

/-- It makes no difference for a screen whether it is placed as one with hidden children or as one with none. -/
def Node.IsSettled (format : Format) (screen : Node) : Prop :=
  screen.IsDeserted → screen.value.classification.category ∈ format.rebasedCategories →
    Declaration.AreAnchored screen.value

namespace Node

variable {format : Format} {screen : Node}

/-- A settled screen is drawn as before when hidden nodes are gone. -/
theorem IsSettled.render_withoutHidden (settled : screen.IsSettled format) (options : ExportOptions) (index : Nat) :
    screen.withoutHidden.render format options index = screen.render format options index := by
  by_cases deserted : screen.IsDeserted
  · rw [deserted.render_withoutHidden_eq, deserted.render_eq, Element.childOrigin]
    split
    · rename_i rebased
      rw [renderAlone, renderAlone, Element.ofLayer, Element.ofLayer, (settled deserted rebased).same]
    · rfl
  · exact render_withoutHidden_of_inhabited format options deserted index

/-- A settled screen can be drawn as before when hidden nodes are gone. -/
theorem IsSettled.isScreenDrawable_withoutHidden (settled : screen.IsSettled format)
    (drawable : screen.isScreenDrawable format) : screen.withoutHidden.isScreenDrawable format := by
  by_cases deserted : screen.IsDeserted
  · rw [deserted.isScreenDrawable_eq, Element.childOrigin] at drawable
    rw [deserted.isScreenDrawable_withoutHidden_eq]
    split at drawable
    · rename_i rebased
      rw [(Bool.and_eq_true_iff.mp drawable).1, (settled deserted rebased).writable]
      rfl
    · exact drawable
  · rwa [isScreenDrawable_withoutHidden_of_inhabited format deserted]

/-- A screen that can be drawn without its hidden nodes can be drawn with them. -/
theorem isScreenDrawable_of_withoutHidden (drawable : screen.withoutHidden.isScreenDrawable format) :
    screen.isScreenDrawable format := by
  by_cases deserted : screen.IsDeserted
  · rw [deserted.isScreenDrawable_withoutHidden_eq] at drawable
    rw [deserted.isScreenDrawable_eq, Element.childOrigin]
    split
    · obtain ⟨onScreen, onLayer⟩ := Bool.and_eq_true_iff.mp drawable
      exact Bool.and_eq_true_iff.mpr ⟨onScreen, Declaration.areWritable_ofLayout onLayer⟩
    · exact drawable
  · rwa [isScreenDrawable_withoutHidden_of_inhabited format deserted] at drawable

/-- A screen is settled when it can be drawn without its hidden nodes and is then drawn as before. -/
theorem isSettled_of_render_eq {options : ExportOptions} {index : Nat}
    (drawable : screen.withoutHidden.isScreenDrawable format)
    (same : screen.withoutHidden.render format options index = screen.render format options index) :
    screen.IsSettled format := by
  intro deserted rebased
  rw [deserted.isScreenDrawable_withoutHidden_eq, Bool.and_eq_true] at drawable
  rw [deserted.render_withoutHidden_eq, deserted.render_eq, Element.childOrigin, if_pos rebased] at same
  have elements := (List.cons.inj (congrArg RenderedScreen.elements same)).1
  exact ⟨drawable.2, (congrArg (·.value.style) elements).symm⟩

end Node

/-- A design without the hidden nodes below its screens, and without what is below them. -/
def Design.withoutHidden (design : Design) : Design :=
  { design with screens := design.screens.map Node.withoutHidden }

namespace Design

variable {design : Design} {format : Format}

/-- Hidden nodes use no components. -/
theorem imports_withoutHidden (design : Design) (format : Format) (options : ExportOptions) :
    (design.withoutHidden.render format options).imports = (design.render format options).imports := by
  rw [render, render, withoutHidden, List.flatMap_map]
  simp only [Node.drawnLayers_withoutHidden]

theorem isDrawable_of_withoutHidden (drawable : design.withoutHidden.isDrawable format) : design.isDrawable format := by
  rw [isDrawable, withoutHidden, List.all_map, List.all_eq_true] at drawable
  exact List.all_eq_true.mpr fun screen among => Node.isScreenDrawable_of_withoutHidden (drawable screen among)

theorem isDrawable_withoutHidden (settled : ∀ screen ∈ design.screens, screen.IsSettled format)
    (drawable : design.isDrawable format) : design.withoutHidden.isDrawable format := by
  rw [isDrawable, List.all_eq_true] at drawable
  rw [isDrawable, withoutHidden, List.all_map]
  refine List.all_eq_true.mpr fun screen among => ?_
  exact (settled screen among).isScreenDrawable_withoutHidden (drawable screen among)

theorem screens_withoutHidden (design : Design) (format : Format) (options : ExportOptions) :
    (design.withoutHidden.render format options).screens =
      design.screens.mapIdx fun index screen => screen.withoutHidden.render format options index := by
  refine List.ext_getElem (by simp [render, withoutHidden]) fun index before after => ?_
  simp [render, withoutHidden]

/-- A design whose screens are settled is drawn as before when hidden nodes are gone. -/
theorem render_withoutHidden (settled : ∀ screen ∈ design.screens, screen.IsSettled format) (options : ExportOptions) :
    design.withoutHidden.render format options = design.render format options := by
  have screens : (design.withoutHidden.render format options).screens = (design.render format options).screens := by
    rw [screens_withoutHidden]
    refine List.mapIdx_eq_mapIdx_iff.mpr fun index inside => ?_
    exact (settled _ (List.getElem_mem inside)).render_withoutHidden options index
  have imports := design.imports_withoutHidden format options
  rw [render] at screens imports ⊢
  simp only at screens imports
  rw [screens, imports]
  rfl

/-- A design is written alike without its hidden nodes only when its screens are settled. -/
theorem isSettled_of_files_eq {options : ExportOptions} (drawable : design.withoutHidden.isDrawable format)
    (same : design.withoutHidden.files format options = design.files format options) :
    ∀ screen ∈ design.screens, screen.IsSettled format := by
  intro screen among
  cases format with
  | moneyview =>
      let rest := design.withoutHidden.render .moneyview options
      let whole := design.render .moneyview options
      -- Of the files, the third one is the component, and it alone holds the screens.
      have component : ScriptExport.component rest = ScriptExport.component whole :=
        Option.some.inj (congrArg (·[2]?) same)
      have shifted : List.Forall₂ (RenderedScreen.IsShifted .moneyview options) rest.screens whole.screens := by
        rw [screens_withoutHidden]
        exact forall₂_mapIdx (Node.isShifted_render .moneyview options) design.screens
      have format : rest.format = whole.format := rfl
      have imports : rest.imports = whole.imports := design.imports_withoutHidden .moneyview options
      have screens := ScriptExport.screens_eq_of_component_eq rfl format imports shifted component
      obtain ⟨index, inside, rfl⟩ := List.getElem_of_mem among
      rw [isDrawable, withoutHidden, List.all_map] at drawable
      rw [screens_withoutHidden] at screens
      exact Node.isSettled_of_render_eq (List.all_eq_true.mp drawable _ among)
        (List.mapIdx_eq_mapIdx_iff.mp screens index inside)
  | html | react | vue => exact fun _ rebased => absurd rebased List.not_mem_nil

end Design

namespace Conversion

variable {design : Design} {format : Format} {options : ExportOptions} {files : List File}

/-- A design from which the same files come without its hidden nodes has settled screens. -/
theorem isSettled_of_emit_eq_ok (emitted : emit design format options = .ok files)
    (rest : emit design.withoutHidden format options = .ok files) :
    ∀ screen ∈ design.screens, screen.IsSettled format := by
  obtain ⟨-, -, written⟩ := emit_eq_ok.mp emitted
  obtain ⟨-, drawable, same⟩ := emit_eq_ok.mp rest
  exact Design.isSettled_of_files_eq drawable (same.trans written.symm)

/-- A design whose screens are settled gives the same files without its hidden nodes. -/
theorem emit_withoutHidden_of_isSettled (settled : ∀ screen ∈ design.screens, screen.IsSettled format)
    (emitted : emit design format options = .ok files) : emit design.withoutHidden format options = .ok files := by
  obtain ⟨filled, drawable, written⟩ := emit_eq_ok.mp emitted
  refine emit_eq_ok.mpr ⟨List.isEmpty_map.trans filled, Design.isDrawable_withoutHidden settled drawable, ?_⟩
  rw [← written, Design.files, Design.render_withoutHidden settled options, Design.files]

/-- A design from which no files come fails in the same way without its hidden nodes. -/
theorem emit_withoutHidden_of_error {failure : Failure} (failed : emit design format options = .error failure) :
    emit design.withoutHidden format options = .error failure := by
  have empty : design.withoutHidden.screens.isEmpty = design.screens.isEmpty := List.isEmpty_map
  rw [emit] at failed
  rw [emit, empty]
  split at failed
  · rename_i none
    rw [if_pos none]
    exact failed
  · rename_i filled
    split at failed
    · cases failed
    · rename_i hindered
      rw [if_neg filled, if_neg fun rest => hindered (Design.isDrawable_of_withoutHidden rest)]
      exact failed

/--
The files of a design are the same without its hidden nodes exactly when every screen is settled: inside a design
system, a card or a dialog with children that are all hidden is written from its own corner as from that of the
document. A design without files fails in the same way in any case.
-/
theorem emit_withoutHidden_iff (design : Design) (format : Format) (options : ExportOptions) :
    emit design.withoutHidden format options = emit design format options ↔
      ∀ files, emit design format options = .ok files → ∀ screen ∈ design.screens, screen.IsSettled format := by
  cases outcome : emit design format options with
  | error failure => exact iff_of_true (emit_withoutHidden_of_error outcome) nofun
  | ok files =>
      refine ⟨fun rest _ _ => isSettled_of_emit_eq_ok outcome rest, fun settled => ?_⟩
      exact emit_withoutHidden_of_isSettled (settled files rfl) outcome

/-- A dialog away from the corner of the document, with nothing in it but a ghost that is not visible. -/
def haunted : Json :=
  .object [("screens", .array [.object [
    ("id", .string "dialog"),
    ("type", .string "FRAME"),
    ("layout", .object [("x", .int 40), ("width", .int 320), ("height", .int 240)]),
    ("children", .array [.object [
      ("id", .string "ghost"),
      ("type", .string "GROUP"),
      ("visible", .bool false)]])]])]

/-- The dialog is placed from elsewhere when the ghost is gone. -/
theorem emit_withoutHidden_haunted :
    ∃ design files, Design.ofSource .standard haunted = .ok design ∧ emit design .moneyview {} = .ok files ∧
      emit design.withoutHidden .moneyview {} ≠ .ok files := by
  obtain ⟨design, built, holds⟩ := exists_of_any (Design.ofSource .standard haunted) (fun design =>
    design.isDrawable .moneyview && design.screens.any fun screen =>
      (!screen.children.isEmpty && screen.children.all (!·.value.visible)) &&
        (screen.value.classification.category ∈ Format.moneyview.rebasedCategories &&
          Declaration.ofLayer screen.value (.ofLayout screen.value.layout) ≠ Declaration.ofLayer screen.value .zero))
    (by decide +kernel)
  obtain ⟨drawable, somewhere⟩ := Bool.and_eq_true_iff.mp holds
  obtain ⟨screen, among, facts⟩ := List.any_eq_true.mp somewhere
  obtain ⟨deserted, rebased, differ⟩ : screen.IsDeserted ∧
      screen.value.classification.category ∈ Format.moneyview.rebasedCategories ∧
      Declaration.ofLayer screen.value (.ofLayout screen.value.layout) ≠ Declaration.ofLayer screen.value .zero := by
    simp only [Bool.and_eq_true, decide_eq_true_eq] at facts
    obtain ⟨⟨filled, hidden⟩, rebased, differ⟩ := facts
    exact ⟨⟨by simpa using filled, by simpa using hidden⟩, rebased, differ⟩
  have emitted : emit design .moneyview {} = .ok (design.files .moneyview {}) :=
    emit_eq_ok.mpr ⟨List.isEmpty_eq_false_iff_exists_mem.mpr ⟨screen, among⟩, drawable, rfl⟩
  refine ⟨design, _, built, emitted, fun rest => differ ?_⟩
  exact (isSettled_of_emit_eq_ok emitted rest screen among deserted rebased).same

end Conversion

end Storyboard

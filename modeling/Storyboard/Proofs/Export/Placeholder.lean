/-
This file states where the markup of a design names the class of images.
-/

import Storyboard.Export.Emit
import Storyboard.Proofs.Export.Orderly

namespace Storyboard

namespace Element

theorem isClassCharacter_hyphenate (afterOther : Bool) (characters : List Char) :
    ∀ character ∈ hyphenate afterOther characters, isClassCharacter character := by
  induction characters generalizing afterOther with
  | nil => nofun
  | cons first rest ih =>
      rw [hyphenate]
      split
      · rename_i kept
        exact List.forall_mem_cons.mpr ⟨kept, ih false⟩
      · split
        · exact ih true
        · exact List.forall_mem_cons.mpr ⟨rfl, ih true⟩

/-- The class that stands for a node is made of characters for class names. -/
theorem isClassCharacter_className (nodeId : String) :
    ∀ character ∈ (className nodeId).toList, isClassCharacter character := by
  rw [className, String.toList_append, List.forall_mem_append]
  refine ⟨List.all_eq_true.mp (by decide), ?_⟩
  split
  · exact List.all_eq_true.mp (by decide)
  · rw [String.toList_ofList]
    exact fun character member => isClassCharacter_hyphenate _ _ _ (Text.mem_of_mem_trimBy member)

/-- Neither dialect escapes what stands in a list of class names. -/
theorem escape_of_isClassCharacter {character : Char} (plain : isClassCharacter character ∨ character = ' ') :
    Markup.escapeAttributeCharacter character = [character] ∧ Markup.isSafe character := by
  have bounded : character.toNat < 0x80 := by
    rcases plain with inside | rfl
    · rcases Bool.or_eq_true_iff.mp inside with inside | hyphen
      · rcases Bool.or_eq_true_iff.mp inside with alphanumeric | underscore
        · exact Markup.toNat_lt_of_isAlphanum alphanumeric
        · exact of_decide_eq_true underscore ▸ by decide
      · exact of_decide_eq_true hyphen ▸ by decide
    · decide
  revert plain
  exact Markup.of_forall_lt bounded (by decide +kernel)

/-- A list of class names is written as it is in each dialect. -/
theorem writeAttribute_of_isClassCharacter (dialect : Dialect) (name : String) {text : String}
    (plain : ∀ character ∈ text.toList, isClassCharacter character ∨ character = ' ') :
    dialect.writeAttribute name (.string text) = name ++ "=\"" ++ text ++ "\"" := by
  have each : ∀ character ∈ text.toList,
      Markup.escapeAttributeCharacter character = [character] ∧ Markup.isSafe character := fun character member =>
    escape_of_isClassCharacter (plain character member)
  cases dialect with
  | markup =>
      have kept : Markup.escapeAttribute text = text := by
        rw [Markup.escapeAttribute, List.flatMap_congr fun character member => (each character member).1,
          List.flatMap_singleton', String.ofList_toList]
      change name ++ "=\"" ++ Markup.escapeAttribute text ++ "\"" = _
      rw [kept]
  | script =>
      have safe : Markup.isSafeText text.toList := (Markup.isSafeText_iff _).mpr
        (.inl (List.all_eq_true.mpr fun character member => (each character member).2))
      change (if Markup.isSafeText text.toList then _ else _) = _
      rw [if_pos safe]

theorem intercalate_classesOf (options : ExportOptions) (layer : Layer) :
    " ".intercalate (classesOf options layer) = "node " ++ className layer.id ++
      (if options.includeImages && layer.content.hasImage then " " ++ imageClass else "") := by
  have opening : "node " = "node" ++ " " := by decide
  rw [classesOf, opening]
  split <;> simp [String.intercalate_cons_cons, String.append_assoc]

/-- The start tag of the element of a layer, as far as to the class that stands for its node. -/
def opening (format : Format) (layer : Layer) : String :=
  "<" ++ tagOf format layer ++ " " ++ format.dialect.classAttribute ++ "=\"node " ++ className layer.id

theorem startTag_eq (format : Format) (element : Element) : startTag format element = "<" ++ element.tag ++ " " ++
    format.dialect.writeAttribute format.dialect.classAttribute (.string (" ".intercalate element.classes)) ++
      (" " ++ " ".intercalate (attributes format element).tail ++ ">") := by
  simp only [startTag, attributes, List.cons_append, List.nil_append, String.intercalate_cons_cons, List.tail_cons,
    String.append_assoc]

theorem isClassCharacter_classesOf (options : ExportOptions) (layer : Layer) :
    ∀ character ∈ (" ".intercalate (classesOf options layer)).toList, isClassCharacter character ∨ character = ' ' := by
  have known {text : String} (all : text.toList.all fun character => isClassCharacter character || character = ' ') :
      ∀ character ∈ text.toList, isClassCharacter character ∨ character = ' ' := by simpa using all
  rw [intercalate_classesOf, String.toList_append, String.toList_append, List.forall_mem_append,
    List.forall_mem_append]
  refine ⟨⟨known (by decide), fun character member => .inl (isClassCharacter_className _ character member)⟩, ?_⟩
  split <;> exact known (by decide)

/-- In a start tag nothing but the classes depends on the options. -/
theorem startTag_ofLayer (format : Format) (options : ExportOptions) (origin : Origin) (layer : Layer)
    (hasChildren : Bool) : startTag format (ofLayer format options origin layer hasChildren) =
      opening format layer ++ (if options.includeImages && layer.content.hasImage then " " ++ imageClass else "") ++
        "\"" ++
          (" " ++ " ".intercalate (attributes format (ofLayer format {} origin layer hasChildren)).tail ++ ">") := by
  have tail : (attributes format (ofLayer format options origin layer hasChildren)).tail =
      (attributes format (ofLayer format {} origin layer hasChildren)).tail := rfl
  have classes : format.dialect.writeAttribute format.dialect.classAttribute
      (.string (" ".intercalate (ofLayer format options origin layer hasChildren).classes)) =
        format.dialect.classAttribute ++ "=\"" ++ " ".intercalate (classesOf options layer) ++ "\"" :=
    writeAttribute_of_isClassCharacter format.dialect _ (isClassCharacter_classesOf options layer)
  have split : "=\"node " = "=\"" ++ "node " := by decide
  rw [startTag_eq, tail, classes, intercalate_classesOf, opening, split]
  simp only [String.append_assoc, ofLayer]

end Element

/--
Texts that are the same, but for start tags that hold the class of images in the left one: those of the elements of some
layers, one for each and in the same order.
-/
inductive Marked (format : Format) : List Layer → String → String → Prop where
  | same (text : String) : Marked format [] text text
  | tag (layer : Layer) : Marked format [layer] (Element.opening format layer ++ (" " ++ Element.imageClass) ++ "\"")
      (Element.opening format layer ++ "\"")
  | append {layers others : List Layer} {left right after behind : String} :
      Marked format layers left right → Marked format others after behind →
      Marked format (layers ++ others) (left ++ after) (right ++ behind)

/-- Lines side by side are the same, but for start tags that hold the class of images in the left ones. -/
inductive MarkedLines (format : Format) : List Layer → List String → List String → Prop where
  | nil : MarkedLines format [] [] []
  | cons {layers others : List Layer} {left right : String} {after behind : List String} :
      Marked format layers left right → MarkedLines format others after behind →
      MarkedLines format (layers ++ others) (left :: after) (right :: behind)

section Closure

variable {format : Format} {layers others : List Layer}

namespace Marked

variable {left right : String}

theorem front (text : String) (marked : Marked format layers left right) :
    Marked format layers (text ++ left) (text ++ right) :=
  (same text).append marked

theorem behind (marked : Marked format layers left right) (text : String) :
    Marked format layers (left ++ text) (right ++ text) := by
  have longer := marked.append (same text)
  rwa [List.append_nil] at longer

end Marked

namespace MarkedLines

variable {left right after behind : List String}

theorem same (lines : List String) : MarkedLines format [] lines lines := by
  induction lines with
  | nil => exact .nil
  | cons line lines ih => exact .cons (.same line) ih

theorem append (marked : MarkedLines format layers left right) (more : MarkedLines format others after behind) :
    MarkedLines format (layers ++ others) (left ++ after) (right ++ behind) := by
  induction marked with
  | nil => exact more
  | cons line _ ih =>
      rw [List.append_assoc]
      exact .cons line ih

theorem append_same (marked : MarkedLines format layers left right) (lines : List String) :
    MarkedLines format layers (left ++ lines) (right ++ lines) := by
  have longer := marked.append (same lines)
  rwa [List.append_nil] at longer

theorem same_append (lines : List String) (marked : MarkedLines format layers left right) :
    MarkedLines format layers (lines ++ left) (lines ++ right) :=
  (same lines).append marked

/-- A line that is marked may stand among others. -/
theorem around {line other : String} (front behind : List String) (marked : Marked format layers line other) :
    MarkedLines format layers (front ++ line :: behind) (front ++ other :: behind) := by
  have lines := cons marked (same behind)
  rw [List.append_nil] at lines
  exact lines.same_append front

theorem eq_nil (marked : MarkedLines format layers [] behind) : layers = [] := by
  cases marked
  rfl

theorem map_append (pad : String) (marked : MarkedLines format layers left right) :
    MarkedLines format layers (left.map (pad ++ ·)) (right.map (pad ++ ·)) := by
  induction marked with
  | nil => exact .nil
  | cons line _ ih => exact .cons (line.front pad) ih

theorem intercalate (separator : String) (marked : MarkedLines format layers left right) :
    Marked format layers (separator.intercalate left) (separator.intercalate right) := by
  induction marked with
  | nil => exact .same _
  | cons line more ih =>
      cases more with
      | nil =>
          rw [List.append_nil, String.intercalate_singleton, String.intercalate_singleton]
          exact line
      | cons =>
          rw [String.intercalate_cons_cons, String.intercalate_cons_cons, String.append_assoc, String.append_assoc]
          exact line.append (ih.front separator)

theorem unlines (marked : MarkedLines format layers left right) :
    Marked format layers (Storyboard.unlines left) (Storyboard.unlines right) :=
  (marked.intercalate "\n").behind "\n"

end MarkedLines

end Closure

section Elements

variable {marking plain : ExportOptions}

/-- The start tags of the element of a layer are marked if the layer has an image. -/
theorem Element.marked_startTag (marks : marking.includeImages) (bare : plain.includeImages = false)
    (format : Format) (origin : Origin) (layer : Layer) (hasChildren : Bool) :
    Marked format ([layer].filter (·.content.hasImage))
      (startTag format (ofLayer format marking origin layer hasChildren))
      (startTag format (ofLayer format plain origin layer hasChildren)) := by
  rw [startTag_ofLayer, startTag_ofLayer, marks, bare, Bool.true_and, Bool.false_and, if_neg Bool.false_ne_true,
    String.append_empty, List.filter_singleton]
  cases layer.content.hasImage with
  | false =>
      rw [if_neg Bool.false_ne_true, String.append_empty]
      exact .same _
  | true => exact (Marked.tag layer).behind _

mutual

/-- The lines of the element of a node are marked for the visible layers that have an image. -/
theorem Node.markedLines_element (marks : marking.includeImages) (bare : plain.includeImages = false)
    (format : Format) (origin : Origin) : ∀ node : Tree Layer,
    MarkedLines format ((node.prune (·.visible)).preorder.filter (·.content.hasImage))
      (Element.lines format (Node.element format marking origin node))
      (Element.lines format (Node.element format plain origin node))
  | .node layer children => by
      have below := Node.markedLines_elements marks bare format (Element.childOrigin format origin layer) children
      have empty : (Node.elements format plain (Element.childOrigin format origin layer) children).isEmpty =
          (Node.elements format marking (Element.childOrigin format origin layer) children).isEmpty := by
        rw [Node.elements_eq_map_filter, Node.elements_eq_map_filter, List.isEmpty_map, List.isEmpty_map]
      have own := Element.marked_startTag marks bare format origin layer
        (!(Node.elements format marking (Element.childOrigin format origin layer) children).isEmpty)
      rw [Tree.prune, Tree.preorder, ← List.singleton_append, List.filter_append, Node.element, Node.element,
        Element.lines, Element.lines, empty]
      generalize Node.elements format marking (Element.childOrigin format origin layer) children = drawn at *
      generalize Node.elements format plain (Element.childOrigin format origin layer) children = others at *
      split
      · rename_i alone
        obtain rfl := List.isEmpty_iff.mp alone
        obtain rfl := List.isEmpty_iff.mp empty
        rw [below.eq_nil, List.append_nil]
        exact .around [] [] ((own.behind _).behind _)
      · refine (MarkedLines.cons own ?_).append_same _
        exact ((MarkedLines.same _).append below).map_append "  "

/-- The lines of the elements of nodes side by side are marked for the visible layers that have an image. -/
theorem Node.markedLines_elements (marks : marking.includeImages) (bare : plain.includeImages = false)
    (format : Format) (origin : Origin) : ∀ nodes : List (Tree Layer),
    MarkedLines format ((Forest.preorder (Forest.prune (·.visible) nodes)).filter (·.content.hasImage))
      (Element.allLines format (Node.elements format marking origin nodes))
      (Element.allLines format (Node.elements format plain origin nodes))
  | [] => .nil
  | node :: rest => by
      have others := Node.markedLines_elements marks bare format origin rest
      rw [Forest.prune, Node.elements, Node.elements]
      split
      · rw [Forest.preorder, List.filter_append, Element.allLines, Element.allLines]
        exact (Node.markedLines_element marks bare format origin node).append others
      · exact others

end

/-- The lines of a screen are marked for the drawn layers that have an image. -/
theorem Node.markedLines_render (marks : marking.includeImages) (bare : plain.includeImages = false)
    (format : Format) (index : Nat) (screen : Node) :
    MarkedLines format (screen.drawnLayers.filter (·.content.hasImage))
      ((screen.render format marking index).lines format) ((screen.render format plain index).lines format) := by
  have nodes (origin : Origin) (nodes : List Node) :
      MarkedLines format ((nodes.flatMap fun node => (node.prune (·.visible)).preorder).filter (·.content.hasImage))
        (Element.allLines format (nodes.map (Node.element format marking origin)))
        (Element.allLines format (nodes.map (Node.element format plain origin))) := by
    induction nodes with
    | nil => exact .nil
    | cons node rest ih =>
        rw [List.flatMap_cons, List.filter_append, List.map_cons, List.map_cons, Element.allLines, Element.allLines]
        exact (Node.markedLines_element marks bare format origin node).append ih
  exact nodes _ screen.shown

end Elements

/-- The drawn layers of a design that have an image. -/
def Design.imageLayers (design : Design) : List Layer := design.drawnLayers.filter (·.content.hasImage)

/-- Screens whose texts are marked side by side are marked when they are put together. -/
theorem MarkedLines.flatMap_render {format : Format} {marking plain : ExportOptions}
    {left right : RenderedScreen → List String}
    (each : ∀ (index : Nat) (screen : Node), MarkedLines format (screen.drawnLayers.filter (·.content.hasImage))
      (left (screen.render format marking index)) (right (screen.render format plain index))) (design : Design) :
    MarkedLines format design.imageLayers ((design.render format marking).screens.flatMap left)
      ((design.render format plain).screens.flatMap right) := by
  have all {draw other : Nat → Node → RenderedScreen} (each : ∀ (index : Nat) (screen : Node),
      MarkedLines format (screen.drawnLayers.filter (·.content.hasImage)) (left (draw index screen))
        (right (other index screen))) (screens : List Node) :
      MarkedLines format (screens.flatMap fun screen => screen.drawnLayers.filter (·.content.hasImage))
        ((screens.mapIdx draw).flatMap left) ((screens.mapIdx other).flatMap right) := by
    induction screens generalizing draw other with
    | nil => exact .nil
    | cons screen rest ih =>
        rw [List.flatMap_cons, List.mapIdx_cons, List.mapIdx_cons, List.flatMap_cons, List.flatMap_cons]
        exact (each 0 screen).append (ih fun index => each (index + 1))
  rw [Design.imageLayers, Design.drawnLayers, List.filter_flatMap]
  exact all each design.screens

namespace Design

variable (design : Design) (options : ExportOptions)

theorem length_screens_render (format : Format) :
    (design.render format options).screens.length = design.screens.length :=
  List.length_mapIdx

/-- The names of the functions for screens. -/
theorem map_screenName_render (format : Format) :
    (design.render format options).screens.map (ScriptExport.screenName ·.index) =
      (List.range design.screens.length).map ScriptExport.screenName := by
  have indices := design.map_index_render format options
  rw [length_screens_render] at indices
  rw [← indices, List.map_map]
  rfl

/-- The main component is exported under the same name with images and without. -/
theorem exportName_render (format : Format) :
    ScriptExport.exportName (design.render format { options with includeImages := true }) =
      ScriptExport.exportName (design.render format { options with includeImages := false }) := by
  have taken : ScriptExport.takenNames (design.render format { options with includeImages := true }) =
      ScriptExport.takenNames (design.render format { options with includeImages := false }) := by
    rw [ScriptExport.takenNames, ScriptExport.takenNames, map_screenName_render, map_screenName_render]
    rfl
  rw [ScriptExport.exportName, ScriptExport.exportName, taken]
  rfl

/-- The script that mounts the main component is the same with images and without. -/
theorem entryScript_render (format : Format) :
    ScriptExport.entryScript (design.render format { options with includeImages := true }) =
      ScriptExport.entryScript (design.render format { options with includeImages := false }) := by
  have named := design.exportName_render options format
  delta ScriptExport.entryScript
  dsimp only
  rw [named]
  rfl

/-- The text of a screen is marked at every depth. -/
theorem marked_screenText (format : Format) (index depth : Nat) (screen : Node) :
    Marked format (screen.drawnLayers.filter (·.content.hasImage))
      ((design.render format { options with includeImages := true }).screenText
        (screen.render format { options with includeImages := true } index) depth)
      ((design.render format { options with includeImages := false }).screenText
        (screen.render format { options with includeImages := false } index) depth) :=
  ((Node.markedLines_render rfl rfl format index screen).map_append _).intercalate "\n"

theorem marked_page : Marked .html design.imageLayers
    (MarkupExport.page (design.render .html { options with includeImages := true })).content
    (MarkupExport.page (design.render .html { options with includeImages := false })).content := by
  delta MarkupExport.page
  dsimp only
  rw [length_screens_render, length_screens_render]
  refine MarkedLines.unlines (.append_same (.append_same (.same_append _ (.around [_, _, _] _ ?_)) _) _)
  refine MarkedLines.intercalate "\n" (MarkedLines.flatMap_render (fun index screen => ?_) design)
  exact .around [_, _] [_, _] (design.marked_screenText options .html index 4 screen)

theorem marked_template : Marked .vue design.imageLayers
    (TemplateExport.component (design.render .vue { options with includeImages := true })).content
    (TemplateExport.component (design.render .vue { options with includeImages := false })).content := by
  delta TemplateExport.component
  dsimp only
  rw [length_screens_render, length_screens_render]
  refine MarkedLines.unlines (.around [_, _] _ ?_)
  refine MarkedLines.intercalate "\n" (MarkedLines.flatMap_render (fun index screen => ?_) design)
  exact .around [_, _] [_, _] (design.marked_screenText options .vue index 4 screen)

theorem marked_component (format : Format) : Marked format design.imageLayers
    (ScriptExport.component (design.render format { options with includeImages := true })).content
    (ScriptExport.component (design.render format { options with includeImages := false })).content := by
  have named := design.exportName_render options format
  delta ScriptExport.component
  dsimp only
  rw [map_screenName_render, map_screenName_render, named]
  refine MarkedLines.unlines (.same_append _ (.around [_] _ ?_))
  rw [List.map_eq_flatMap, List.map_eq_flatMap]
  refine MarkedLines.intercalate "\n\n" (MarkedLines.flatMap_render (fun index screen => ?_) design)
  refine .around [] [] (MarkedLines.intercalate "\n" ?_)
  exact .around [_, _, _] [_, _, _] (design.marked_screenText options format index 3 screen)

end Design

end Storyboard

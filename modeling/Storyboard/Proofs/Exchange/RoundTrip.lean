/-
This file states that complete designs come back from their exchange form, unless they are too deep to be read.
-/

import Storyboard.Proofs.Design.Complete
import Storyboard.Proofs.Exchange.Issues

namespace Storyboard

open Schema

namespace Exchange

/-- A layout within bounds is read as it was written. -/
theorem layoutOf_layoutJson {layout : Layout} (conforms : layout.Conforms) :
    model "LayoutModel" layoutOf (layoutJson layout) = .valid layout := by
  obtain ⟨x, y, width, height, rotation, opacity, rfl, wide, high, shown⟩ := conforms
  have free (value : Double) : Bounds.Admits {} value := rfl
  simp [model, layoutJson, layoutOf, numberOr, fieldOr, find?, FieldName.single, List.lookup_cons, doubleJson,
    Number.toDouble, doubleWithin_double, wide, high, shown, free]

/-- A paint within bounds is read as its form. -/
theorem paintOf_paintJson {paint : Paint} (within : paint.form.Conforms) :
    model "PaintModel" paintOf (paintJson paint) = .valid paint.form := by
  obtain ⟨red, green, blue, alpha, weight⟩ := within
  simp only [Paint.form] at red green blue alpha weight
  simp [model, paintJson, paintOf, channelOf, required, fieldOr, find?, FieldName.single, List.lookup_cons,
    wholeWithin_int (channelBounds_whole red), wholeWithin_int (channelBounds_whole green),
    wholeWithin_int (channelBounds_whole blue), doubleWithin_double alpha, doubleWithin_double weight,
    Schema.optional, Json.isNull, text, Paint.form]

/-- A complete text style is read as its form. -/
theorem textStyleOf_textStyleJson {style : TextStyle} (complete : style.IsComplete) :
    model "TextStyleModel" textStyleOf (textStyleJson style) = .valid style.form := by
  obtain ⟨-, ⟨size, sized, large⟩, weight, weighed, heavy⟩ := complete
  have onSize := doubleWithin_double ((fontBounds_admits_iff size).mpr large)
  have onWeight := wholeWithin_int ((fontBounds_whole_iff weight).mpr heavy)
  simp [model, textStyleJson, textStyleOf, fieldOr, find?, List.lookup_cons, doubleJson, wholeJson, sized, weighed,
    Number.toDouble, Number.truncated, Except.toOption, onSize, onWeight, Schema.optional, Json.isNull, text, double,
    TextStyle.form]

/-- Paints within bounds are read as their forms. -/
theorem list_paintJson {paints : List Paint} (complete : ∀ paint ∈ paints, paint.IsComplete) :
    list (model "PaintModel" paintOf) (.array (paints.map paintJson)) = .valid (paints.map Paint.form) :=
  Checked.eachFrom_map (fun paint member => paintOf_paintJson (complete paint member).within) 0

theorem stylesOf_stylesJson {layer : Layer} (complete : layer.IsComplete) :
    model "StylesModel" stylesOf (stylesJson layer.styles) = .valid layer.styles.form := by
  have fills := list_paintJson complete.fills
  have strokes := list_paintJson complete.strokes
  have radius := doubleWithin_double complete.cornerRadius
  have style : Schema.optional (model "TextStyleModel" textStyleOf) (layer.styles.textStyle?.elim .null textStyleJson) =
      .valid (layer.styles.textStyle?.map TextStyle.form) := by
    cases styled : layer.styles.textStyle? with
    | none => rfl
    | some style =>
        have read := textStyleOf_textStyleJson (complete.textStyle style styled)
        simp [Schema.optional, read, show (textStyleJson style).isNull = false from rfl]
  simp [model, stylesJson, stylesOf, fieldOr, find?, FieldName.single, List.lookup_cons, fills, strokes, radius, style,
    Styles.form]

/-- Content is read as it was written. -/
theorem contentOf_contentJson (content : Content) :
    model "MetadataModel" contentOf (contentJson content) = .valid content := by
  simp [model, contentJson, contentOf, fieldOr, find?, List.lookup_cons, text, flag]

/-- A classification is read as it was written. -/
theorem classificationOf_classificationJson (classification? : Option Classification) :
    Schema.optional (model "ClassificationModel" classificationOf)
      (classification?.elim .null classificationJson) = .valid classification? := by
  cases classification? with
  | none => rfl
  | some classification =>
      obtain ⟨category, props, importSlug?, rule⟩ := classification
      cases importSlug? <;>
        simp [model, classificationJson, classificationOf, required, fieldOr, find?, FieldName.single, List.lookup_cons,
          text, anyObject, Schema.optional, optionalText, Json.isNull]

/-- The children in the fields of a layer are its children. -/
theorem childrenOf_layerJson (depth : Nat) (layer : Layer) (inputs : List Json) :
    ∃ fields, layerJson layer inputs = .object fields ∧
      childrenOf depth fields = (nodesFrom depth 0 inputs).under (.field "children") := by
  refine ⟨_, rfl, ?_⟩
  simp [childrenOf, nodeListOf]

/-- A complete layer is read as its form, with the trees of its children. -/
theorem nodeOf_layerJson {depth : Nat} (shallow : depth < depthBound) {layer : Layer} (complete : layer.IsComplete)
    {inputs : List Json} {trees : List (Tree LayerForm)} (below : nodesFrom (depth + 1) 0 inputs = .valid trees) :
    nodeOf depth (layerJson layer inputs) = .valid (.node layer.form trees) := by
  have layout := layoutOf_layoutJson complete.layout
  have styles := stylesOf_stylesJson complete
  have content := contentOf_contentJson layer.content
  have classification := classificationOf_classificationJson layer.classification?
  have id := textOfAtLeast_string complete.id
  obtain ⟨fields, same, children⟩ := childrenOf_layerJson (depth + 1) layer inputs
  obtain rfl := Json.object.inj same
  rw [layerJson, nodeOf, if_neg (Nat.not_le.mpr shallow), children, below]
  simp [required, fieldOr, find?, FieldName.single, List.lookup_cons, layout, styles, content, classification, id, text,
    flag, typeOf, Json.string?, NodeType.ofWord?_word, Layer.form]

/-- A layer is read only above the depth bound, and together with its children. -/
theorem nodeOf_layerJson_valid {depth : Nat} {layer : Layer} {inputs : List Json} {tree : Tree LayerForm}
    (passed : nodeOf depth (layerJson layer inputs) = .valid tree) :
    depth < depthBound ∧ ∃ trees, nodesFrom (depth + 1) 0 inputs = .valid trees := by
  obtain ⟨fields, same, children⟩ := childrenOf_layerJson (depth + 1) layer inputs
  rw [same, nodeOf] at passed
  split at passed
  · simp at passed
  · rename_i shallow
    simp only [Checked.seq_eq_valid, Checked.map_eq_valid, children, Checked.under_eq_valid] at passed
    obtain ⟨-, -, ⟨-, trees, -, below, -⟩, -⟩ := passed
    exact ⟨Nat.not_le.mp shallow, trees, below⟩

/-- Complete nodes can be written. -/
theorem writeNodes_isOk {nodes : List Node} (complete : Node.AllComplete nodes) :
    ∃ written, writeNodes nodes = .ok written := by
  obtain ⟨layers, -⟩ := (Node.allComplete_iff nodes).mp complete
  exact (writeNodes_isOk_iff nodes).mpr fun layer member => layerIssues_eq_nil (layers layer member)

mutual

/-- A complete node that is written is read as the tree of its forms, when it ends above the depth bound. -/
theorem nodeOf_writeNode (depth : Nat) :
    ∀ (node : Tree Layer) (written : Json), Node.IsComplete node → writeNode node = .ok written →
      depth + node.depth ≤ depthBound → nodeOf depth written = .valid (node.map Layer.form)
  | .node layer children, written, ⟨complete, _, below⟩, made, shallow => by
      obtain ⟨-, inputs, onChildren, rfl⟩ := (writeNode_eq_ok _ _ _).mp made
      rw [Tree.depth] at shallow
      have read := nodesFrom_writeNodes (depth + 1) 0 children inputs below onChildren (by omega)
      rw [Tree.map]
      exact nodeOf_layerJson (by omega) complete read

/-- Complete nodes that are written are read as the trees of their forms, when they end above the depth bound. -/
theorem nodesFrom_writeNodes (depth position : Nat) :
    ∀ (nodes : List (Tree Layer)) (written : List Json), Node.AllComplete nodes → writeNodes nodes = .ok written →
      depth + Forest.depth nodes ≤ depthBound →
        nodesFrom depth position written = .valid (Forest.map Layer.form nodes)
  | [], written, _, made, _ => by
      obtain rfl : [] = written := by simpa [writeNodes] using made
      rfl
  | node :: rest, written, ⟨complete, others⟩, made, shallow => by
      obtain ⟨first, onFirst, inputs, onOthers, rfl⟩ := (writeNodes_cons_eq_ok _ _ _).mp made
      rw [Forest.depth] at shallow
      have left := nodeOf_writeNode depth node first complete onFirst (by omega)
      have right := nodesFrom_writeNodes depth (position + 1) rest inputs others onOthers (by omega)
      simp [nodesFrom, left, right, Forest.map]

end

mutual

/-- A written node that is read ends above the depth bound. -/
theorem depth_le_of_nodeOf (depth : Nat) :
    ∀ (node : Tree Layer) (written : Json) (tree : Tree LayerForm), writeNode node = .ok written →
      nodeOf depth written = .valid tree → depth + node.depth ≤ depthBound
  | .node layer children, written, tree, made, read => by
      obtain ⟨-, inputs, onChildren, rfl⟩ := (writeNode_eq_ok _ _ _).mp made
      obtain ⟨shallow, trees, below⟩ := nodeOf_layerJson_valid read
      have bounded := depth_le_of_nodesFrom (depth + 1) 0 (by omega) children inputs trees onChildren below
      rw [Tree.depth]
      omega

/-- Written nodes that are read end above the depth bound. -/
theorem depth_le_of_nodesFrom (depth position : Nat) (room : depth ≤ depthBound) :
    ∀ (nodes : List (Tree Layer)) (written : List Json) (trees : List (Tree LayerForm)),
      writeNodes nodes = .ok written → nodesFrom depth position written = .valid trees →
        depth + Forest.depth nodes ≤ depthBound
  | [], _, _, _, _ => by simpa [Forest.depth] using room
  | node :: rest, written, trees, made, read => by
      obtain ⟨first, onFirst, inputs, onOthers, rfl⟩ := (writeNodes_cons_eq_ok _ _ _).mp made
      simp only [nodesFrom, Checked.seq_eq_valid, Checked.map_eq_valid, Checked.under_eq_valid] at read
      obtain ⟨-, others, ⟨tree, left, rfl⟩, right, rfl⟩ := read
      have top := depth_le_of_nodeOf depth node first tree onFirst left
      have below := depth_le_of_nodesFrom depth (position + 1) room rest inputs others onOthers right
      rw [Forest.depth]
      omega

end

end Exchange

/-- A configuration whose limit reaches a depth lets children come into view at all levels above it. -/
theorem Config.allows_of_atMost {config : Config} {depth level : Nat}
    (reaches : (Number.whole depth).atMost config.maxDepth) (above : level + 1 < depth) : config.allows level := by
  have deeper : ((level : Int) + 1) < depth := by exact_mod_cast above
  simp [Config.allows, Number.not_atMost_of_lt reaches deeper]

mutual

/-- The forms of a complete node give it back when there is room for its children. -/
theorem LayerForm.node_form {config : Config} (depth : Nat) :
    ∀ node : Tree Layer, Node.IsComplete node →
      (∀ level : Nat, level + 1 < depth + node.depth → config.allows level) →
        LayerForm.node config depth (node.map Layer.form) = node ∧
          LayerForm.truncations config depth (node.map Layer.form) = []
  | .node layer children, ⟨complete, leaf, below⟩, room => by
      have restored := complete.layer_form config
      cases children with
      | nil =>
          simp [Tree.map, Forest.map, LayerForm.node, LayerForm.nodes, LayerForm.truncations,
            LayerForm.allTruncations, restored]
      | cons child rest =>
          have notText : layer.form.type ≠ .text := fun isText => by simp at leaf; exact leaf isText
          have allowed : config.allows depth := room depth (by
            have positive := child.depth_pos
            simp only [Tree.depth, Forest.depth]
            omega)
          have opens : config.opens layer.form.type depth := by simp [Config.opens, notText, allowed]
          have read := LayerForm.nodes_form (depth + 1) (child :: rest) below fun level inside => room level (by
            rw [Tree.depth]
            omega)
          rw [Tree.map, LayerForm.node, LayerForm.truncations, if_pos opens, if_pos opens, restored, read.1, read.2]
          exact ⟨rfl, rfl⟩

/-- The forms of complete nodes give them back when there is room for their children. -/
theorem LayerForm.nodes_form {config : Config} (depth : Nat) :
    ∀ nodes : List (Tree Layer), Node.AllComplete nodes →
      (∀ level : Nat, level + 1 < depth + Forest.depth nodes → config.allows level) →
        LayerForm.nodes config depth (Forest.map Layer.form nodes) = nodes ∧
          LayerForm.allTruncations config depth (Forest.map Layer.form nodes) = []
  | [], _, _ => by simp [Forest.map, LayerForm.nodes, LayerForm.allTruncations]
  | node :: rest, ⟨complete, others⟩, room => by
      have first := LayerForm.node_form depth node complete fun level inside => room level (by
        rw [Forest.depth]
        omega)
      have later := LayerForm.nodes_form depth rest others fun level inside => room level (by
        rw [Forest.depth]
        omega)
      simp [Forest.map, LayerForm.nodes, LayerForm.allTruncations, first, later]

end

/-- The design of the forms of complete screens holds those screens, and nothing is reported. -/
theorem Design.ofForms_form {config : Config} {screens : List Node} (complete : Node.AllComplete screens)
    (reaches : (Number.whole (Forest.depth screens)).atMost config.maxDepth) :
    Design.ofForms config (Forest.map Layer.form screens) = { screens } := by
  obtain ⟨restored, silent⟩ := LayerForm.nodes_form 0 screens complete fun level inside =>
    Config.allows_of_atMost reaches (by omega)
  rw [Design.ofForms, restored, silent]

namespace Exchange

/-- A source holds one page: it is the page itself, or a list of it alone. -/
def IsPageOf (inputs : List Json) (source : Json) : Prop :=
  source = .object [("screens", .array inputs)] ∨ source = .array [.object [("screens", .array inputs)]]

/-- A page alone or in a list is in exchange form. -/
theorem IsPageOf.isExchangeForm {inputs : List Json} {source : Json} (given : IsPageOf inputs source) :
    isExchangeForm source := by
  rcases given with rfl | rfl <;> simp [Exchange.isExchangeForm, isPage, Json.field, Json.items?]

/-- The screens of a page alone or in a list are its inputs. -/
theorem IsPageOf.screensOf_eq_valid {inputs : List Json} {source : Json} (given : IsPageOf inputs source)
    (forms : List (Tree LayerForm)) : screensOf source = .valid forms ↔ nodesFrom 0 0 inputs = .valid forms := by
  have pages : pagesOf source = [.object [("screens", .array inputs)]] := by
    rcases given with rfl | rfl <;> rfl
  have page (trees : List (Tree LayerForm)) :
      model "ASTPageModel" pageOf (.object [("screens", .array inputs)]) = .valid trees ↔
        nodesFrom 0 0 inputs = .valid trees := by
    simp [model, pageOf, required, find?, FieldName.single, nodeListOf]
  constructor
  · intro read
    simp only [screensOf, pages, Checked.eachFrom, Checked.seq_eq_valid, Checked.map_eq_valid,
      Checked.under_eq_valid, page] at read
    obtain ⟨-, ⟨-, none, ⟨trees, read, rfl⟩, empty, rfl⟩, rfl⟩ := read
    cases empty
    simpa using read
  · intro read
    simp [screensOf, pages, Checked.eachFrom, (page forms).mpr read]

/-- A page holds the screens as they are written. -/
theorem writePage_eq_ok (screens : List Node) (written : Json) :
    writePage screens = .ok written ↔
      ∃ inputs, writeNodes screens = .ok inputs ∧ .object [("screens", .array inputs)] = written := by
  simp only [writePage, bind_eq_ok, pure_eq_ok]

end Exchange

mutual

/-- Classifying the layers of a node keeps it complete. -/
theorem Node.isComplete_classified :
    ∀ node : Tree Layer, Node.IsComplete node → Node.IsComplete (node.map Layer.classified)
  | .node layer children, ⟨complete, leaf, below⟩ => by
      refine ⟨complete.classified _, fun isText => ?_, Node.allComplete_classified children below⟩
      have none : children = [] := leaf isText
      rw [none, Forest.map]

/-- Classifying the layers of nodes keeps them complete. -/
theorem Node.allComplete_classified :
    ∀ nodes : List (Tree Layer), Node.AllComplete nodes → Node.AllComplete (Forest.map Layer.classified nodes)
  | [], _ => trivial
  | node :: rest, ⟨complete, others⟩ =>
      ⟨Node.isComplete_classified node complete, Node.allComplete_classified rest others⟩

end

namespace Design

/-- Complete screens that are not too deep are read from their page as they were, and nothing is reported. -/
theorem ofSource_page {config : Config} {screens : List Node} (complete : Node.AllComplete screens)
    (reaches : (Number.whole (Forest.depth screens)).atMost config.maxDepth)
    (shallow : Forest.depth screens ≤ Exchange.depthBound) {inputs : List Json}
    (written : Exchange.writeNodes screens = .ok inputs) {source : Json} (given : Exchange.IsPageOf inputs source) :
    ofSource config source = .ok { screens } := by
  have nodes := Exchange.nodesFrom_writeNodes 0 0 screens inputs complete written (by omega)
  have read := (given.screensOf_eq_valid _).mpr nodes
  rw [ofSource, if_pos given.isExchangeForm, Exchange.read, read]
  simp [Checked.map, Checked.toExcept, ofForms_form complete reaches]

/-- Screens below the depth bound are written but not read. -/
theorem ofSource_deepPage (config : Config) {screens : List Node} (deep : Exchange.depthBound < Forest.depth screens)
    {inputs : List Json} (written : Exchange.writeNodes screens = .ok inputs) {source : Json}
    (given : Exchange.IsPageOf inputs source) :
    ∃ issues, ofSource config source = .error (.pages issues) := by
  rw [ofSource, if_pos given.isExchangeForm, Exchange.read]
  cases read : Exchange.screensOf source with
  | valid forms =>
      have nodes := (given.screensOf_eq_valid forms).mp read
      have bounded := Exchange.depth_le_of_nodesFrom 0 0 (Nat.zero_le _) screens inputs forms written nodes
      omega
  | invalid issues => exact ⟨issues, rfl⟩

/--
A design that is built from a source under sound defaults can be written, also when it is classified. If no screen is
too deep to be read, its page gives the same screens back without a report, alone or in a list and under any limit
that reaches its depth.
-/
theorem ofSource_writePage {config : Config} (sound : config.HasSoundDefaults) {source : Json} {design : Design}
    (built : ofSource config source = .ok design) (shallow : design.depth ≤ Exchange.depthBound) {again : Config}
    (reaches : (Number.whole design.depth).atMost again.maxDepth) {screens : List Node}
    (chosen : screens = design.screens ∨ screens = design.classified.screens) :
    ∃ page, Exchange.writePage screens = .ok page ∧
      ofSource again page = .ok { screens } ∧ ofSource again (.array [page]) = .ok { screens } := by
  have given := allComplete_ofSource sound built
  obtain ⟨complete, same⟩ : Node.AllComplete screens ∧ Forest.depth screens = design.depth := by
    rcases chosen with rfl | rfl
    · exact ⟨given, rfl⟩
    · exact ⟨Node.allComplete_classified _ given, Forest.depth_map _ _⟩
  obtain ⟨inputs, written⟩ := Exchange.writeNodes_isOk complete
  rw [← same] at reaches shallow
  exact ⟨_, (Exchange.writePage_eq_ok _ _).mpr ⟨inputs, written, rfl⟩,
    ofSource_page complete reaches shallow written (.inl rfl),
    ofSource_page complete reaches shallow written (.inr rfl)⟩

end Design

/-- The standard defaults can stand in an exchange form. -/
theorem Config.standard_hasSoundDefaults : Config.standard.HasSoundDefaults where
  font := by decide +kernel
  size := ⟨.ofInt 14, rfl, by decide +kernel⟩
  weight := ⟨400, rfl, by decide⟩

/-- A frame with a group on it comes back as it was, under a limit that just reaches its depth. -/
theorem Design.ofSource_writePage_paired :
    Config.standard.HasSoundDefaults ∧ ∃ design page, Design.ofSource .standard Document.paired = .ok design ∧
      design.depth ≤ Exchange.depthBound ∧ (Number.whole design.depth).atMost Config.shallow.maxDepth ∧
        Exchange.writePage design.classified.screens = .ok page ∧
          Design.ofSource .shallow page = .ok { screens := design.classified.screens } ∧
            Design.ofSource .shallow (.array [page]) = .ok { screens := design.classified.screens } := by
  obtain ⟨design, built, deep⟩ := exists_of_any (Design.ofSource .standard Document.paired) (·.depth = 2)
    (by decide +kernel)
  have two : design.depth = 2 := of_decide_eq_true deep
  have reaches : (Number.whole design.depth).atMost Config.shallow.maxDepth := by
    rw [two]
    decide +kernel
  have shallow : design.depth ≤ Exchange.depthBound := by
    rw [two]
    decide
  obtain ⟨page, written, read⟩ :=
    Design.ofSource_writePage Config.standard_hasSoundDefaults built shallow reaches (.inr rfl)
  exact ⟨Config.standard_hasSoundDefaults, design, page, built, shallow, reaches, written, read⟩

/-- Limits under which screens may be deeper than any that is read from an exchange form. -/
def Config.lofty : Config := { maxDepth := .whole 300 }

/-- Texts on 255 levels make a design within the limit of 300, whose page does not give it back. -/
theorem Design.ofSource_writePage_nested :
    Config.lofty.HasSoundDefaults ∧ ∃ source design page, source = .object [("children", .array (Document.nested 255))] ∧
      Design.ofSource .lofty source = .ok design ∧ (Number.whole design.depth).atMost Config.lofty.maxDepth ∧
        Exchange.writePage design.screens = .ok page ∧
          Design.ofSource .lofty page ≠ .ok { screens := design.screens } := by
  have standard := Config.standard_hasSoundDefaults
  have sound : Config.lofty.HasSoundDefaults := ⟨standard.font, standard.size, standard.weight⟩
  have weighed : ∃ weight, Config.lofty.defaultFontWeight.truncated = .ok weight := ⟨400, rfl⟩
  have limit : Config.lofty.maxDepth = .whole 300 := rfl
  have room (level : Nat) (inside : level < 254) : Config.lofty.allows level := by
    rw [Config.allows_eq limit, decide_eq_true_eq]
    omega
  obtain ⟨design, normalized, deep⟩ := Document.normalize_nested weighed 254 room (by decide +kernel)
  let source : Json := .object [("children", .array (Document.nested 255))]
  have raw : Exchange.isExchangeForm source = false := by
    simp [source, Exchange.isExchangeForm, Exchange.isPage, Json.field, List.lookup_cons, Json.items?]
  have built : Design.ofSource .lofty source = .ok design := by
    rw [Design.ofSource, raw, if_neg Bool.false_ne_true, mapError_eq_ok]
    exact normalized
  have reaches : (Number.whole design.depth).atMost Config.lofty.maxDepth := by
    rw [deep, limit]
    decide +kernel
  obtain ⟨inputs, written⟩ := Exchange.writeNodes_isOk (Design.allComplete_ofSource sound built)
  have below : Exchange.depthBound < Forest.depth design.screens := by
    have same : Forest.depth design.screens = 255 := deep
    rw [same, Exchange.depthBound]
    omega
  obtain ⟨issues, refused⟩ := Design.ofSource_deepPage .lofty below written (.inl rfl)
  refine ⟨sound, source, design, _, rfl, built, reaches,
    (Exchange.writePage_eq_ok _ _).mpr ⟨inputs, written, rfl⟩, ?_⟩
  rw [refused]
  simp

end Storyboard

/-
This file states that the elements of nodes are read back from their lines, whatever ids, names, styles and texts
the nodes hold.
-/

import Storyboard.Classify.Annotate
import Storyboard.Proofs.Markup.Drawn
import Storyboard.Proofs.Markup.Lines

namespace Storyboard

open Markup

namespace Declaration

/-- The properties that the declarations of layers set. -/
def layerProperties : List String :=
  ["position", "left", "top", "width", "height", "transform", "opacity", "color", "background-color", "border",
    "border-radius", "font-family", "font-size", "font-weight", "text-align", "letter-spacing", "white-space"]

/-- Each of these properties has a script name. -/
theorem isName_scriptName : ∀ property ∈ layerProperties, isName (scriptName property) := by
  decide

/-- The properties that are set behind the place and the size of a layer. -/
def furtherProperties : List String := layerProperties.drop 5

theorem ofEffects_property (layout : Layout) :
    ∀ declaration ∈ ofEffects layout, declaration.property ∈ furtherProperties := by
  refine List.forall_mem_append.mpr ⟨?_, ?_⟩
  · split <;> simp [furtherProperties, layerProperties]
  · split <;> simp [furtherProperties, layerProperties]

theorem ofPaints_property (type : NodeType) (styles : Styles) :
    ∀ declaration ∈ ofPaints type styles, declaration.property ∈ furtherProperties := by
  refine List.forall_mem_append.mpr ⟨List.forall_mem_append.mpr ⟨?_, ?_⟩, ?_⟩
  · cases styles.fill? <;> by_cases isText : type = .text <;> simp [furtherProperties, layerProperties, isText]
  · cases styles.stroke? <;> simp [furtherProperties, layerProperties]
  · split <;> simp [furtherProperties, layerProperties]

theorem ofTextStyle_property (style : TextStyle) :
    ∀ declaration ∈ ofTextStyle style, declaration.property ∈ furtherProperties := by
  refine List.forall_mem_append.mpr ⟨List.forall_mem_append.mpr ⟨?_, ?_⟩, ?_⟩
  · simp [furtherProperties, layerProperties]
  · split <;> simp [furtherProperties, layerProperties]
  · simp [furtherProperties, layerProperties]

/-- Only the first declarations of a layer, its place and its size, depend on where it is placed from. -/
theorem exists_further (layer : Layer) : ∃ further : List Declaration,
    (∀ declaration ∈ further, declaration.property ∈ furtherProperties) ∧ ∀ origin, ofLayer layer origin =
      [⟨"position", "absolute"⟩,
        ⟨"left", pixels (layer.layout.x.subtract origin.x)⟩,
        ⟨"top", pixels (layer.layout.y.subtract origin.y)⟩,
        ⟨"width", pixels layer.layout.width⟩,
        ⟨"height", pixels layer.layout.height⟩] ++ further := by
  have onEffects := ofEffects_property layer.layout
  have onPaints := ofPaints_property layer.type layer.styles
  refine ⟨_, ?_, fun origin => (List.append_assoc _ _ _).trans (List.append_assoc _ _ _)⟩
  refine List.forall_mem_append.mpr ⟨onEffects, List.forall_mem_append.mpr ⟨onPaints, ?_⟩⟩
  cases layer.styles.textStyle? with
  | none => simp
  | some style => exact ofTextStyle_property style

/-- The declarations of a layer set these properties alone. -/
theorem ofLayer_property (layer : Layer) (origin : Origin) :
    ∀ declaration ∈ ofLayer layer origin, declaration.property ∈ layerProperties := by
  obtain ⟨further, onFurther, split⟩ := exists_further layer
  rw [split]
  refine List.forall_mem_append.mpr ⟨by simp [layerProperties], fun declaration member => ?_⟩
  exact List.mem_of_mem_drop (onFurther declaration member)

/-- The declarations of a screen set some of these properties. -/
theorem ofScreen_property (layer : Layer) :
    ∀ declaration ∈ ofScreen layer, declaration.property ∈ layerProperties := by
  refine List.forall_mem_append.mpr ⟨by simp [layerProperties], ?_⟩
  cases layer.styles.fill? with
  | none => simp
  | some fill => by_cases isText : layer.type = .text <;> simp [layerProperties, isText]

end Declaration

namespace Rule

/-- The category of a rule can stand as a tag. -/
theorem isName_category : ∀ rule ∈ all, isName rule.category := by
  decide

/-- The names of the properties that rules give. -/
def propNames : List String :=
  ["children", "variant", "size", "placeholder", "name", "checked", "open", "value", "min", "max", "active"]

theorem isName_propNames : ∀ name ∈ propNames, isName name := by
  decide

/-- Rules give texts, truth values and a few whole numbers. -/
def isPlain : Json → Bool
  | .string _ | .bool _ => true
  | .int value => value ∈ [0, 50, 100]
  | _ => false

theorem isLiteral_of_isPlain {value : Json} (plain : isPlain value) : IsLiteral value := by
  cases value with
  | string text => exact isLiteral_string text
  | bool value => exact isLiteral_bool value
  | int value => exact isLiteral_whole value (of_decide_eq_true plain)
  | _ => simp [isPlain] at plain

/-- The properties that a rule gives have such names and values, whatever the features are. -/
theorem props_plain : ∀ rule ∈ all, ∀ features : Features, ∀ prop ∈ rule.props features,
    prop.1 ∈ propNames ∧ isPlain prop.2 := by
  intro rule member features
  simp only [all, List.mem_cons, List.not_mem_nil, or_false] at member
  rcases member with rfl | rfl | rfl | rfl | rfl | rfl | rfl | rfl | rfl | rfl | rfl | rfl | rfl
  all_goals simp [button, card, typography, textField, icon, checkbox, chip, dialog, list, radioButton, slider, tab,
    toggle, propNames, isPlain, Features.textOr]

end Rule

/-- Features that are classified for the design system are classified by a rule. -/
theorem Features.exists_rule (features : Features) (bound : features.classify.isDesignSystem) :
    ∃ rule ∈ Rule.all, features.classify = rule.classification features := by
  unfold Features.classify at bound ⊢
  cases found : Rule.all.find? (·.applies features) with
  | none => simp [found, Classification.isDesignSystem] at bound
  | some rule => exact ⟨rule, List.mem_of_find?_eq_some found, rfl⟩

namespace Element

variable {format : Format} {options : ExportOptions} {layer : Layer} {element : Element}

/-- Only a script binds components. -/
theorem dialect_of_isBound (bound : isBound format layer) : format.dialect = .script := by
  cases format with
  | moneyview => rfl
  | _ => simp [isBound, Format.bindsComponents] at bound

/-- Elements are legible, whatever their layers hold, when a rule decides which component a layer becomes. -/
theorem isLegible_of_ruled (ruled : isBound format layer → ∃ rule ∈ Rule.all, ∃ features,
    layer.classification = rule.classification features) (drawn : Draws format options layer element) :
    IsLegible format element := by
  obtain ⟨origin, hasChildren, rfl⟩ := drawn
  have onTag : isName (tagOf format layer) := by
    rw [tagOf]
    split
    · rename_i bound
      obtain ⟨rule, member, features, same⟩ := ruled bound
      exact same ▸ Rule.isName_category rule member
    · split <;> decide
  have onProps : ∀ prop ∈ propsOf format layer, format.dialect = .script ∧ isName prop.1 ∧ IsLiteral prop.2 := by
    intro prop member
    rw [propsOf] at member
    split at member
    · rename_i bound
      obtain ⟨rule, among, features, same⟩ := ruled bound
      rw [same] at member
      obtain ⟨named, plain⟩ := Rule.props_plain rule among features prop (List.mem_of_mem_filter member)
      exact ⟨dialect_of_isBound bound, Rule.isName_propNames _ named, Rule.isLiteral_of_isPlain plain⟩
    · simp at member
  have onText : format.dialect = .markup → ∀ text ∈ textOf? format layer hasChildren, Text.isFilled text := by
    intro plain text given
    rw [textOf?] at given
    split at given
    · rename_i filled
      obtain rfl := Option.mem_some.mp given
      exact filled
    · split at given
      · rename_i bound
        rw [Bool.and_eq_true] at bound
        simp [dialect_of_isBound bound.1] at plain
      · simp at given
  exact {
    tag := onTag
    props := onProps
    styled := by simp [ofLayer, Declaration.ofLayer]
    style := fun declaration member =>
      Declaration.isName_scriptName _ (Declaration.ofLayer_property layer origin declaration member)
    text := onText }

/-- An element without properties is marked exactly when it has text in a template. -/
theorem marked_iff (plain : format.dialect = .markup) (none : element.props = []) :
    ("v-pre", .bare) ∈ (element.asTag format).attributes ↔ format = .vue ∧ element.text?.isSome := by
  cases given : element.text? with
  | none => simp [asTag, styleValue, plain, none, given]
  | some text =>
      cases format with
      | html => simp [asTag, styleValue, Format.dialect, Format.textMarker?, none]
      | vue => simp [asTag, styleValue, Format.dialect, Format.textMarker?, none, given]
      | _ => simp [Format.dialect] at plain

end Element

namespace Node

variable {format : Format}

/--
In plain markup the lines of any node are read back as its elements, with the same nesting and order: each with its tag,
its classes, its id, its style, and its text without the blanks around it. A marker tells exactly which elements of a
template have text.
-/
theorem markup_recovers_elements (plain : format.dialect = .markup) (options : ExportOptions) (origin : Origin)
    (node : Node) :
    let tree := Node.element format options origin node
    read? .markup ("\n".intercalate (Element.lines format tree)) = some [tree.map (Element.asTag format)] ∧
      ∀ element ∈ tree.preorder,
        ("v-pre", .bare) ∈ (element.asTag format).attributes ↔ format = .vue ∧ element.text?.isSome := by
  intro tree
  have legible : ∀ element ∈ tree.preorder, element.IsLegible format := by
    intro element member
    obtain ⟨layer, -, drawn⟩ := exists_of_mem_element member
    refine Element.isLegible_of_ruled (fun bound => ?_) drawn
    simp [Element.dialect_of_isBound bound] at plain
  refine ⟨plain ▸ Element.read?_lines legible, fun element member => ?_⟩
  have none : element.props = [] := by
    refine List.eq_nil_iff_forall_not_mem.mpr fun prop inside => ?_
    simp [((legible element member).props prop inside).1] at plain
  exact Element.marked_iff plain none

/-- Texts that look like markup, on a node with a child. -/
def hostile : Node := .node {
    id := "\" onclick=\""
    type := .rectangle
    name := "--><script>"
    layout := { Layout.empty with width := .whole 120, height := .whole 40 }
    styles := { fills := [⟨0, 0, 0, .one, "red\"></div>&quot;", .zero⟩] }
    content := { text := " </div><b>&amp;\n\x7b\x7bx\x7d\x7d" } } [
  Tree.leaf {
    id := "\x7b'\\\n"
    type := .text
    layout := .empty
    styles := { textStyle? := some ⟨"a\" b", .whole 14, .whole 400, "left;\x7d", .zero⟩ }
    content := { text := "\"\x7d</Button> \u00e9😀 &lt;" } }]

/-- Texts that look like markup open and close nothing in a template. -/
theorem markup_recovers_hostile : Format.vue.dialect = .markup ∧
    (let tree := Node.element .vue {} .zero hostile
    read? .markup ("\n".intercalate (Element.lines .vue tree)) = some [tree.map (Element.asTag .vue)] ∧
      ∀ element ∈ tree.preorder,
        ("v-pre", .bare) ∈ (element.asTag .vue).attributes ↔ Format.vue = .vue ∧ element.text?.isSome) :=
  ⟨rfl, markup_recovers_elements rfl {} .zero hostile⟩

/--
Inside a script the lines of any node that is classified afresh are read back as its elements, with the same nesting and
order: each with its tag, its classes, its id, its properties and its text, and with a script name for each property of
its style.
-/
theorem script_recovers_elements (script : format.dialect = .script) (options : ExportOptions) (origin : Origin)
    (node : Node) :
    let tree := Node.element format options origin (Tree.map Layer.classified node)
    read? .script ("\n".intercalate (Element.lines format tree)) = some [tree.map (Element.asTag format)] := by
  intro tree
  have legible : ∀ element ∈ tree.preorder, element.IsLegible format := by
    intro element member
    obtain ⟨layer, inside, drawn⟩ := exists_of_mem_element member
    rw [Tree.preorder_map, List.mem_map] at inside
    obtain ⟨source, -, rfl⟩ := inside
    refine Element.isLegible_of_ruled (fun bound => ?_) drawn
    obtain ⟨-, bound⟩ := Bool.and_eq_true_iff.mp bound
    obtain ⟨rule, among, same⟩ := Features.exists_rule (.ofLayer source) bound
    exact ⟨rule, among, _, same⟩
  exact script ▸ Element.read?_lines legible

/-- Texts that look like markup open and close nothing among components. -/
theorem script_recovers_hostile : Format.moneyview.dialect = .script ∧
    (let tree := Node.element .moneyview {} .zero (Tree.map Layer.classified hostile)
    read? .script ("\n".intercalate (Element.lines .moneyview tree)) =
      some [tree.map (Element.asTag .moneyview)]) :=
  ⟨rfl, script_recovers_elements rfl {} .zero hostile⟩

end Node

end Storyboard

/-
This file states when the lines of designs in script components are single lines. Ids alone can break them.
-/

import Storyboard.Proofs.Export.Inset
import Storyboard.Proofs.Export.Placeholder

namespace Storyboard

open Markup Text

namespace Rule

/-- The texts that rules give to properties, apart from those for children. -/
def fixedTexts : List String :=
  ["primary", "large", "medium", "elevated", "body1", "Enter text...", "outlined", "default-icon", "filled"]

theorem not_slipsThrough_fixedTexts : ∀ text ∈ fixedTexts, ¬SlipsThrough text := by
  decide +kernel

/-- A rule gives no other texts, whatever the features are, unless they are for children. -/
theorem mem_fixedTexts : ∀ rule ∈ all, ∀ features : Features, ∀ prop ∈ rule.props features,
    prop.1 ≠ "children" → ∀ text, prop.2 = .string text → text ∈ fixedTexts := by
  intro rule member features
  simp only [all, List.mem_cons, List.not_mem_nil, or_false] at member
  rcases member with rfl | rfl | rfl | rfl | rfl | rfl | rfl | rfl | rfl | rfl | rfl | rfl | rfl
  all_goals simp [button, card, typography, textField, icon, checkbox, chip, dialog, list, radioButton, slider, tab,
    toggle, fixedTexts]
  -- The size of a button is the only text that depends on the features.
  cases Condition.holds features (.higherThan 50) <;> simp

end Rule

namespace Element

variable {format : Format} {options : ExportOptions} {layer : Layer} {element : Element}

/-- Of a layer nothing slips through but its id, when a rule decides which component it becomes. -/
theorem isGuarded_of_ruled (ruled : isBound format layer → ∃ rule ∈ Rule.all, ∃ features,
    layer.classification = rule.classification features) (drawn : Draws format options layer element) :
    element.IsGuarded := by
  obtain ⟨origin, hasChildren, rfl⟩ := drawn
  constructor
  · apply List.all_eq_true.mpr
    intro character member
    exact (escape_of_isClassCharacter (isClassCharacter_classesOf options layer character member)).2
  · intro prop member text given
    change prop ∈ propsOf format layer at member
    rw [propsOf] at member
    split at member
    · rename_i bound
      obtain ⟨rule, among, features, same⟩ := ruled bound
      rw [same] at member
      obtain ⟨inside, other⟩ := List.mem_filter.mp member
      exact Rule.not_slipsThrough_fixedTexts text
        (Rule.mem_fixedTexts rule among features prop inside (of_decide_eq_true other) text given)
    · cases member

end Element

namespace Design

variable {format : Format}

/--
Inside a script a text is written as it is when all of its characters are safe, and else as a literal, unless it is made
of safe characters with one line end behind them. For every design that is classified afresh, the lines of its screens
are single lines exactly when no id of a drawn layer is such a text.
-/
theorem isSingleLine_lines_iff (script : format.dialect = .script) (design : Design) (options : ExportOptions) :
    (∀ name text, scriptAttribute name (.string text) =
        (if text.toList.all isSafe then name ++ "=\"" ++ text ++ "\""
        else name ++ "=\x7b" ++ Json.stringText text ++ "\x7d") ↔
      ¬SlipsThrough text) ∧
    ((∀ screen ∈ (design.classified.render format options).screens, ∀ line ∈ screen.lines format, IsSingleLine line) ↔
      ∀ layer ∈ design.drawnLayers, ¬SlipsThrough layer.id) := by
  have drawn := design.classified.elements_render format options
  have ruled (layer : Layer) (inside : layer ∈ design.classified.drawnLayers) (bound : Element.isBound format layer) :=
    design.exists_rule_of_drawn inside (Bool.and_eq_true_iff.mp bound).2
  refine ⟨scriptAttribute_eq_iff, ?_⟩
  have onScreen (screen : RenderedScreen) (among : screen ∈ (design.classified.render format options).screens) :
      (∀ line ∈ screen.lines format, IsSingleLine line) ↔
        ∀ element ∈ Forest.preorder screen.elements, ¬SlipsThrough element.nodeId := by
    have source (element : Element) (member : element ∈ Forest.preorder screen.elements) :=
      exists_of_forall₂_right drawn (List.mem_flatMap.mpr ⟨screen, among, member⟩)
    apply Element.isSingleLine_allLines_iff script
    · intro element member
      obtain ⟨layer, inside, draws⟩ := source element member
      exact Element.isLegible_of_ruled (ruled layer inside) draws
    · intro element member
      obtain ⟨layer, inside, draws⟩ := source element member
      exact Element.isGuarded_of_ruled (ruled layer inside) draws
  calc (∀ screen ∈ (design.classified.render format options).screens, ∀ line ∈ screen.lines format, IsSingleLine line)
      ↔ ∀ element ∈ (design.classified.render format options).elements, ¬SlipsThrough element.nodeId := by
        rw [Rendering.elements, List.forall_mem_flatMap]
        exact forall₂_congr onScreen
    _ ↔ ∀ layer ∈ design.classified.drawnLayers, ¬SlipsThrough layer.id := by
        constructor
        · intro whole layer inside
          obtain ⟨_, member, _, _, rfl⟩ := exists_of_forall₂_left drawn inside
          exact whole _ member
        · intro whole element member
          obtain ⟨layer, inside, _, _, rfl⟩ := exists_of_forall₂_right drawn member
          exact whole layer inside
    _ ↔ ∀ layer ∈ design.drawnLayers, ¬SlipsThrough layer.id := by
        rw [design.drawnLayers_classified, List.forall_mem_map]
        rfl

/-- An id with a line end behind a quote and a brace breaks no line. -/
theorem isSingleLine_lines_hostile : Format.react.dialect = .script ∧
    ∀ screen ∈ (Design.classified ⟨[Node.hostile], []⟩ |>.render .react {}).screens,
      ∀ line ∈ screen.lines .react, IsSingleLine line :=
  ⟨rfl, (isSingleLine_lines_iff rfl ⟨[Node.hostile], []⟩ {}).2.mpr (by decide +kernel)⟩

/-- A screen whose id ends a line. -/
def torn : Json := .object [("screens", .array [.object [("id", .string "a\n"), ("type", .string "FRAME")]])]

/-- The line of a screen breaks in two where its id ends a line. -/
theorem not_isSingleLine_torn :
    scriptAttribute "data-node-id" (.string "a\n") = "data-node-id=\"a\n\"" ∧ ¬"a\n".toList.all isSafe ∧
      ∃ design rendering, Design.ofSource .standard torn = .ok design ∧
        Conversion.rendering design.classified .react {} = .ok rendering ∧
        ∃ screen ∈ rendering.screens, ∃ line ∈ screen.lines .react, ¬IsSingleLine line := by
  obtain ⟨design, built, holds⟩ := exists_of_any (Design.ofSource .standard torn) (fun design =>
    design.classified.isDrawable .react && (design.classified.render .react {}).screens.any fun screen =>
      (screen.lines .react).any fun line => !decide (IsSingleLine line)) (by decide +kernel)
  obtain ⟨drawable, broken⟩ := Bool.and_eq_true_iff.mp holds
  refine ⟨by decide +kernel, by decide +kernel, design, design.classified.render .react {}, built, ?_,
    by simpa using broken⟩
  rw [Conversion.rendering, if_pos drawable]

end Design

end Storyboard

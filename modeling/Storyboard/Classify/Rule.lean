/-
This file states the rules by which nodes stand for parts of a design system.
-/

import Storyboard.Design.Layer

namespace Storyboard

/-- A classification depends on these features of a node alone. -/
structure Features where
  type : NodeType
  width : Number
  height : Number
  hasText : Bool
  hasBackground : Bool
  text : String := ""
  name : String := ""

namespace Features

/-- The features of a layer. Blank text does not count. -/
def ofLayer (layer : Layer) : Features where
  type := layer.type
  width := layer.layout.width
  height := layer.layout.height
  hasText := layer.content.hasText
  hasBackground := layer.styles.fill?.isSome
  text := if layer.content.hasText then layer.content.text else ""
  name := layer.name

/-- The text, or another one when there is none. -/
def textOr (features : Features) (other : String) : Json :=
  .string (if features.text.isEmpty then other else features.text)

end Features

/-- A condition on the features of a node. -/
inductive Condition where
  | isType (type : NodeType)
  | hasText
  | hasNoText
  | hasBackground
  | widerThan (bound : Int)
  | narrowerThan (bound : Int)
  | higherThan (bound : Int)
  | lowerThan (bound : Int)
  deriving DecidableEq, Repr

namespace Condition

/-- The condition holds for features. Sizes are compared exactly. -/
def holds (features : Features) : Condition → Bool
  | .isType type => features.type = type
  | .hasText => features.hasText
  | .hasNoText => !features.hasText
  | .hasBackground => features.hasBackground
  | .widerThan bound => (Number.whole bound).less features.width
  | .narrowerThan bound => features.width.less (.whole bound)
  | .higherThan bound => (Number.whole bound).less features.height
  | .lowerThan bound => features.height.less (.whole bound)

def isOnWidth : Condition → Bool
  | .widerThan _ | .narrowerThan _ => true
  | _ => false

def isOnHeight : Condition → Bool
  | .higherThan _ | .lowerThan _ => true
  | _ => false

def allHold (features : Features) (conditions : List Condition) : Bool := conditions.all (holds features)

/-- The conditions up to the first one that fails. -/
def lookedAt (features : Features) : List Condition → List Condition
  | [] => []
  | condition :: rest => condition :: if condition.holds features then lookedAt features rest else []

/-- The conditions that are looked at up to the first list in which all hold. -/
def lookedAtInTurn (features : Features) : List (List Condition) → List Condition
  | [] => []
  | conditions :: rest =>
      lookedAt features conditions ++
        if allHold features conditions then [] else lookedAtInTurn features rest

end Condition

/-- A rule puts the nodes with certain features into a category. -/
structure Rule where
  name : String
  category : String
  importSlug : String
  /-- The rule applies when all conditions of one of these lists hold. -/
  alternatives : List (List Condition)
  props : Features → List (String × Json)

namespace Rule

/-- Large rectangles with text are buttons. -/
def button : Rule where
  name := "button"
  category := "Button"
  importSlug := "button"
  alternatives := [[.isType .rectangle, .hasText, .widerThan 80, .higherThan 30]]
  props features := [
    ("children", features.textOr "Button"),
    ("variant", .string "primary"),
    ("size", .string (if Condition.holds features (.higherThan 50) then "large" else "medium"))]

/-- Wide frames with a background are cards. -/
def card : Rule where
  name := "card"
  category := "Card"
  importSlug := "card"
  alternatives := [[.isType .frame, .hasBackground, .widerThan 200]]
  props features := [("children", features.textOr "Card Content"), ("variant", .string "elevated")]

/-- Whatever has text is typography. -/
def typography : Rule where
  name := "typography"
  category := "Typography"
  importSlug := "typography"
  alternatives := [[.isType .text], [.hasText]]
  props features := [("children", features.textOr features.name), ("variant", .string "body1")]

/-- Wide and low rectangles without text are text fields. -/
def textField : Rule where
  name := "text_field"
  category := "TextField"
  importSlug := "text-field"
  alternatives := [[.isType .rectangle, .widerThan 150, .lowerThan 50, .hasNoText]]
  props _ := [("placeholder", .string "Enter text..."), ("variant", .string "outlined")]

/-- Vectors and whatever is small are icons. -/
def icon : Rule where
  name := "icon"
  category := "Icon"
  importSlug := "icon"
  alternatives := [[.isType .vector], [.narrowerThan 50, .lowerThan 50]]
  props _ := [("name", .string "default-icon")]

/-- Tiny rectangles are checkboxes. -/
def checkbox : Rule where
  name := "checkbox"
  category := "Checkbox"
  importSlug := "checkbox"
  alternatives := [[.isType .rectangle, .narrowerThan 30, .lowerThan 30]]
  props _ := [("checked", .bool false)]

/-- Small rectangles with text are chips. -/
def chip : Rule where
  name := "chip"
  category := "Chip"
  importSlug := "chip"
  alternatives := [[.isType .rectangle, .hasText, .narrowerThan 100, .lowerThan 40]]
  props features := [("children", features.textOr "Chip"), ("variant", .string "filled")]

/-- Large frames are dialogs. -/
def dialog : Rule where
  name := "dialog"
  category := "Dialog"
  importSlug := "dialog"
  alternatives := [[.isType .frame, .widerThan 300, .higherThan 200]]
  props features := [("open", .bool true), ("children", features.textOr "Dialog Content")]

/-- High frames are lists. -/
def list : Rule where
  name := "list"
  category := "List"
  importSlug := "list"
  alternatives := [[.isType .frame, .higherThan 100]]
  props _ := [("children", .string "List Item")]

/-- Tiny ellipses are radio buttons. -/
def radioButton : Rule where
  name := "radio_button"
  category := "RadioButton"
  importSlug := "radio-button"
  alternatives := [[.isType .ellipse, .narrowerThan 30, .lowerThan 30]]
  props _ := [("checked", .bool false)]

/-- Flat rectangles are sliders. -/
def slider : Rule where
  name := "slider"
  category := "Slider"
  importSlug := "slider"
  alternatives := [[.isType .rectangle, .widerThan 100, .lowerThan 20]]
  props _ := [("value", .int 50), ("min", .int 0), ("max", .int 100)]

/-- Middling rectangles with text are tabs. -/
def tab : Rule where
  name := "tab"
  category := "Tab"
  importSlug := "tab"
  alternatives := [[.isType .rectangle, .hasText, .narrowerThan 150, .lowerThan 50]]
  props features := [("children", features.textOr "Tab"), ("active", .bool false)]

/-- Short rectangles are toggles. -/
def toggle : Rule where
  name := "toggle"
  category := "Toggle"
  importSlug := "toggle"
  alternatives := [[.isType .rectangle, .narrowerThan 60, .lowerThan 30]]
  props _ := [("checked", .bool false)]

/-- All rules. Their order counts, since the conditions overlap. -/
def all : List Rule :=
  [button, card, typography, textField, icon, checkbox, chip, dialog, list, radioButton, slider, tab, toggle]

/-- A rule applies to features when one of its alternatives does. -/
def applies (rule : Rule) (features : Features) : Bool :=
  rule.alternatives.any (Condition.allHold features)

def classification (rule : Rule) (features : Features) : Classification where
  category := rule.category
  props := rule.props features
  importSlug? := some rule.importSlug
  rule := rule.name

end Rule

/-- The first rule that applies decides. Without one, a node is a plain container. -/
def Features.classify (features : Features) : Classification :=
  match Rule.all.find? (·.applies features) with
  | some rule => rule.classification features
  | none => {
      category := "Container"
      props := [("children", features.textOr (if features.name.isEmpty then "Element" else features.name))] }

/-- The conditions that are looked at up to the rule that decides. -/
def Features.conditionsLookedAt (features : Features) : List Condition :=
  Condition.lookedAtInTurn features (Rule.all.flatMap (·.alternatives))

/-- The width is looked at before a rule decides. -/
def Features.needsWidth (features : Features) : Bool := features.conditionsLookedAt.any Condition.isOnWidth

/-- The height is looked at before a rule decides. -/
def Features.needsHeight (features : Features) : Bool := features.conditionsLookedAt.any Condition.isOnHeight

/-- The classification of a layer, computed afresh. -/
def Layer.classify (layer : Layer) : Classification := (Features.ofLayer layer).classify

/-- The classification that a layer holds, or the one computed for it. -/
def Layer.classification (layer : Layer) : Classification := layer.classification?.getD layer.classify

end Storyboard

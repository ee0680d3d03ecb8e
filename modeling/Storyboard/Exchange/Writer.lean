/-
This file writes designs in their exchange form, which refuses values out of bounds.
-/

import Storyboard.Exchange.Reader

namespace Storyboard

namespace Exchange

open Schema

/-- The issue of a number out of bounds. -/
def numberIssue (name : String) (bounds : Bounds) (value : Number) : List Issue :=
  ((doubleWithin bounds value.json).under (.field name)).issues

/-- The issue of a number that is not whole or out of bounds. -/
def wholeIssue (name : String) (bounds : Bounds) (value : Number) : List Issue :=
  ((wholeWithin bounds value.json).under (.field name)).issues

def layoutIssues (layout : Layout) : List Issue :=
  numberIssue "x" {} layout.x ++
    numberIssue "y" {} layout.y ++
    numberIssue "width" sizeBounds layout.width ++
    numberIssue "height" sizeBounds layout.height ++
    numberIssue "rotation" {} layout.rotation ++
    numberIssue "opacity" unitBounds layout.opacity

def paintIssues (paint : Paint) : List Issue :=
  wholeIssue "r" channelBounds (.whole paint.red) ++
    wholeIssue "g" channelBounds (.whole paint.green) ++
    wholeIssue "b" channelBounds (.whole paint.blue) ++
    numberIssue "alpha" unitBounds (.double paint.alpha) ++
    numberIssue "weight" sizeBounds (.double paint.weight)

def textStyleIssues (style : TextStyle) : List Issue :=
  numberIssue "font_size" fontBounds style.fontSize ++ wholeIssue "font_weight" fontBounds style.fontWeight

def cornerIssues (styles : Styles) : List Issue :=
  numberIssue "corner_radius" sizeBounds (.double styles.cornerRadius)

/-- The issues of the first part of a layer that has any. -/
def layerIssues (layer : Layer) : List Issue :=
  let parts :=
    [layoutIssues layer.layout] ++ layer.styles.fills.map paintIssues ++
      layer.styles.strokes.map paintIssues ++
      layer.styles.textStyle?.toList.map textStyleIssues ++ [cornerIssues layer.styles]
  (parts.find? (!·.isEmpty)).getD []

/-- A number as a binary64 value. -/
def doubleJson (value : Number) : Json := .double value.toDouble

/-- A number as a whole value, which it is when it has no issue. -/
def wholeJson (value : Number) : Json := value.truncated.toOption.elim .null .int

/-- A text or null. -/
def optionalText : Option String → Json
  | some text => .string text
  | none => .null

def layoutJson (layout : Layout) : Json := .object [
  ("x", doubleJson layout.x),
  ("y", doubleJson layout.y),
  ("width", doubleJson layout.width),
  ("height", doubleJson layout.height),
  ("rotation", doubleJson layout.rotation),
  ("opacity", doubleJson layout.opacity)]

def paintJson (paint : Paint) : Json := .object [
  ("r", .int paint.red),
  ("g", .int paint.green),
  ("b", .int paint.blue),
  ("alpha", .double paint.alpha),
  ("css", .string paint.css),
  ("weight", .double paint.weight)]

def textStyleJson (style : TextStyle) : Json := .object [
  ("fontFamily", .string style.fontFamily),
  ("fontSize", doubleJson style.fontSize),
  ("fontWeight", wholeJson style.fontWeight),
  ("textAlign", .string style.textAlign),
  ("letterSpacing", .double style.letterSpacing)]

def stylesJson (styles : Styles) : Json := .object [
  ("fills", .array (styles.fills.map paintJson)),
  ("strokes", .array (styles.strokes.map paintJson)),
  ("cornerRadius", .double styles.cornerRadius),
  ("textStyle", styles.textStyle?.elim .null textStyleJson)]

def contentJson (content : Content) : Json := .object [
  ("textContent", .string content.text),
  ("hasImage", .bool content.hasImage),
  ("isComponent", .bool content.isComponent)]

def classificationJson (classification : Classification) : Json := .object [
  ("category", .string classification.category),
  ("props", .object classification.props),
  ("importSlug", optionalText classification.importSlug?),
  ("rule", .string classification.rule)]

/-- A layer with its children in exchange form. -/
def layerJson (layer : Layer) (children : List Json) : Json := .object [
  ("id", .string layer.id),
  ("type", .string layer.type.word),
  ("name", .string layer.name),
  ("visible", .bool layer.visible),
  ("layout", layoutJson layer.layout),
  ("styles", stylesJson layer.styles),
  ("metadata", contentJson layer.content),
  ("children", .array children),
  ("classification", layer.classification?.elim .null classificationJson)]

mutual

/-- Writes a node, unless some part of it is out of bounds. -/
def writeNode : Tree Layer → Except (List Issue) Json
  | .node layer children =>
      match layerIssues layer with
      | [] => do return layerJson layer (← writeNodes children)
      | issues => .error issues

def writeNodes : List (Tree Layer) → Except (List Issue) (List Json)
  | [] => .ok []
  | node :: rest => do
      let first ← writeNode node
      return first :: (← writeNodes rest)

end

/-- Writes screens as a page. -/
def writePage (screens : List Node) : Except (List Issue) Json := do
  return .object [("screens", .array (← writeNodes screens))]

end Exchange

end Storyboard

/-
This file makes the layer of a raw record, where malformed fields fall back to defaults.
-/

import Storyboard.Config
import Storyboard.Design.Layer
import Storyboard.Document.Paints
import Storyboard.Document.Record

namespace Storyboard.Record

/-- A positive number, or a default. -/
def positiveOr (value default : Double) : Double := if Double.zero.less value then value else default

def strokeWeight (record : Record) : Except NumberFault Double := do
  return positiveOr (← Measure.ofJson (record.get "strokeWeight") .one) .one

def cornerRadius (record : Record) : Except NumberFault Double := do
  return positiveOr (← Measure.ofJson (record.get "cornerRadius") .zero) .zero

/-- The ways in which text is aligned. -/
def alignments : List String := ["left", "center", "right", "justify"]

def alignmentOf (word : String) : String :=
  let small := Text.toSmall word
  let align := if small = "justified" then "justify" else small
  if align ∈ alignments then align else "left"

def alignment (value : Json) : Except NumberFault String := do
  return alignmentOf (← value.word "left")

/-- The font family in a text style, or the fallback. -/
def fontFamily (style : List (String × Json)) (config : Config) : String :=
  match Json.field style "fontFamily" with
  | .string family => if Text.isFilled family then family else config.fallbackFont
  | _ => config.fallbackFont

/-- The font size in a text style, when it is positive, or the default. -/
def fontSize (style : List (String × Json)) (config : Config) : Except NumberFault Number := do
  let size := (← Measure.ofJson? (Json.field style "fontSize")).elim config.defaultFontSize .double
  return if size.atMost .zero then config.defaultFontSize else size

/-- The whole part of the font weight in a text style, when it is positive, or the default. -/
def fontWeight (style : List (String × Json)) (config : Config) : Except NumberFault Number := do
  let given := (← Measure.ofJson? (Json.field style "fontWeight")).elim config.defaultFontWeight .double
  let weight ← given.truncated
  return if weight ≤ 0 then config.defaultFontWeight else .whole weight

def textStyle (record : Record) (config : Config) : Except NumberFault TextStyle := do
  let style := (record.get "style").fields?.getD []
  let fontSize ← fontSize style config
  let fontWeight ← fontWeight style config
  let textAlign ← alignment (Json.field style "textAlignHorizontal")
  let letterSpacing ← Measure.ofJson (Json.field style "letterSpacing") .zero
  return {
    fontFamily := Text.trim (fontFamily style config)
    fontSize
    fontWeight
    textAlign
    letterSpacing }

/-- The styles of a record, with a text style if it is text. -/
def styles (record : Record) (isText : Bool) (config : Config) : Except NumberFault Styles := do
  let fills ← Paints.ofJson (record.get "fills") .zero
  let weight ← record.strokeWeight
  let strokes ← Paints.ofJson (record.get "strokes") weight
  let cornerRadius ← record.cornerRadius
  let textStyle? ← if isText then some <$> record.textStyle config else pure none
  return { fills, strokes, cornerRadius, textStyle? }

/-- The box around a record, if there is one. -/
def box (record : Record) : List (String × Json) :=
  match record.get "absoluteBoundingBox", record.get "boundingBox" with
  | .object fields, _ => fields
  | _, .object fields => fields
  | _, _ => []

/-- The layout of a record. A negative size counts as none, and the opacity stays between zero and one. -/
def layout (record : Record) : Except NumberFault Layout := do
  let box := record.box
  let opacity ← Measure.ofJson (record.get "opacity") .one
  let x ← Measure.ofJson (Json.field box "x") .zero
  let y ← Measure.ofJson (Json.field box "y") .zero
  let width ← Measure.ofJson (Json.field box "width") .zero
  let height ← Measure.ofJson (Json.field box "height") .zero
  let rotation ← Measure.ofJson (record.get "rotation") .zero
  return {
    x := .double x
    y := .double y
    width := .double (Double.larger .zero width)
    height := .double (Double.larger .zero height)
    rotation := .double rotation
    opacity := .double opacity.clampUnit }

/-- The text of a record, where a number is written out. -/
def text (record : Record) : Except NumberFault String :=
  match record.get "characters" with
  | .string text => .ok text
  | .int value => (Json.int value).written
  | .double value => (Json.double value).written
  | _ => .ok ""

def name (record : Record) : String := (record.get "name").string?.getD ""

/-- The id that a record gives itself: a text that is not empty, or a whole number. -/
def id? (record : Record) : Except NumberFault (Option String) :=
  match record.get "id" with
  | .string id => .ok (if id.isEmpty then none else some id)
  | .int id => some <$> (Json.int id).written
  | _ => .ok none

def layer (record : Record) (type : NodeType) (id : String) (config : Config) : Except NumberFault Layer := do
  let text ← record.text
  let layout ← record.layout
  let styles ← record.styles (type = .text || !text.isEmpty) config
  let hasImage ← Paints.hasImage (record.get "fills")
  return {
    id
    type
    name := record.name
    layout
    styles
    content := {
      text
      hasImage
      isComponent := type.isComponent }
    visible := !record.isHidden }

end Storyboard.Record

namespace Storyboard

/-- A layer counts when it has text or colour, or is large enough. -/
def Layer.isVisual (layer : Layer) (config : Config) : Bool :=
  layer.content.hasText || layer.styles.hasColor ||
    (config.minVisualSize.less layer.layout.width && config.minVisualSize.less layer.layout.height)

end Storyboard

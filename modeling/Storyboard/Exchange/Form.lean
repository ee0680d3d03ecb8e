/-
This file defines the exchange form of designs, in which defaults may be left out.
-/

import Storyboard.Config
import Storyboard.Design.Node

namespace Storyboard

/-- A paint whose written form may be left out. -/
structure PaintForm where
  red : Nat
  green : Nat
  blue : Nat
  alpha : Double
  css? : Option String
  weight : Double

/-- A text style whose font may be left out. -/
structure TextStyleForm where
  fontFamily? : Option String := none
  fontSize? : Option Double := none
  fontWeight? : Option Int := none
  textAlign : String := "left"
  letterSpacing : Double := .zero

structure StylesForm where
  fills : List PaintForm := []
  strokes : List PaintForm := []
  cornerRadius : Double := .zero
  textStyle? : Option TextStyleForm := none

structure LayerForm where
  id : String
  type : NodeType
  name : String
  visible : Bool
  layout : Layout
  styles : StylesForm
  content : Content
  classification? : Option Classification

/-- A paint, whose written form is made from its channels when it is left out. -/
def PaintForm.paint (form : PaintForm) : Paint :=
  let computed := Paint.colorText form.red form.green form.blue form.alpha
  { red := form.red
    green := form.green
    blue := form.blue
    alpha := form.alpha
    css := match form.css? with
      | some css => if css.isEmpty then computed else css
      | none => computed
    weight := form.weight }

/-- A text style, where what is left out takes its default. -/
def TextStyleForm.textStyle (form : TextStyleForm) (config : Config) : TextStyle where
  fontFamily := match form.fontFamily? with
    | some family => if family.isEmpty then config.fallbackFont else family
    | none => config.fallbackFont
  fontSize := form.fontSize?.elim config.defaultFontSize .double
  fontWeight := form.fontWeight?.elim config.defaultFontWeight .whole
  textAlign := form.textAlign
  letterSpacing := form.letterSpacing

/-- A layer. Text has a text style in any case, and components are marked as such. -/
def LayerForm.layer (form : LayerForm) (config : Config) : Layer where
  id := form.id
  type := form.type
  name := form.name
  layout := form.layout
  styles := {
    fills := form.styles.fills.map PaintForm.paint
    strokes := form.styles.strokes.map PaintForm.paint
    cornerRadius := form.styles.cornerRadius
    textStyle? := match form.styles.textStyle? with
      | some style => some (style.textStyle config)
      | none => if form.type = .text then some (TextStyleForm.textStyle {} config) else none }
  content := { form.content with isComponent := form.content.isComponent || form.type.isComponent }
  visible := form.visible
  classification? := form.classification?

mutual

/-- The node of a tree in exchange form, without the children that lie too deep. -/
def LayerForm.node (config : Config) (depth : Nat) : Tree LayerForm → Tree Layer
  | .node form children =>
      .node (form.layer config)
        (if config.opens form.type depth then LayerForm.nodes config (depth + 1) children else [])

/-- The nodes of several trees in exchange form. -/
def LayerForm.nodes (config : Config) (depth : Nat) : List (Tree LayerForm) → List (Tree Layer)
  | [] => []
  | tree :: rest => LayerForm.node config depth tree :: LayerForm.nodes config depth rest

end

mutual

/-- A diagnostic for each node whose children lie too deep. -/
def LayerForm.truncations (config : Config) (depth : Nat) : Tree LayerForm → List Diagnostic
  | .node form children =>
      if config.opens form.type depth then LayerForm.allTruncations config (depth + 1) children
      else if form.type = .text ∨ children.isEmpty then []
      else [.depthExceeded form.id (depth + 1) config.maxDepth children.length]

/-- The diagnostics of several trees. -/
def LayerForm.allTruncations (config : Config) (depth : Nat) : List (Tree LayerForm) → List Diagnostic
  | [] => []
  | tree :: rest => LayerForm.truncations config depth tree ++ LayerForm.allTruncations config depth rest

end

/-- The design of screens in exchange form. -/
def Design.ofForms (config : Config) (screens : List (Tree LayerForm)) : Design where
  screens := LayerForm.nodes config 0 screens
  diagnostics := LayerForm.allTruncations config 0 screens

end Storyboard

/-
This file defines the layers of a design: what a node holds apart from its children.
-/

import Storyboard.Design.Layout
import Storyboard.Design.NodeType
import Storyboard.Design.Styles
import Storyboard.Json.Basic
import Storyboard.Text.Blank

namespace Storyboard

/-- What a node shows apart from its styles. -/
structure Content where
  text : String := ""
  hasImage : Bool := false
  isComponent : Bool := false
  deriving DecidableEq, Repr, Inhabited

/-- Blank text does not count as text. -/
def Content.hasText (content : Content) : Bool := Text.isFilled content.text

/-- The part of a design system that a node stands for, and the rule that says so. -/
structure Classification where
  category : String
  props : List (String × Json)
  importSlug? : Option String := none
  rule : String := "default"
  deriving Inhabited

/-- A category with a slug can be imported from the design system. -/
def Classification.isDesignSystem (classification : Classification) : Bool := classification.importSlug?.isSome

/-- What a node holds apart from its children. -/
structure Layer where
  id : String
  type : NodeType
  name : String := ""
  layout : Layout
  styles : Styles := {}
  content : Content := {}
  visible : Bool := true
  classification? : Option Classification := none
  deriving Inhabited

/-- Drops the classification. -/
def Layer.unclassified (layer : Layer) : Layer := { layer with classification? := none }

end Storyboard

/-
This file defines nodes, the checks on new nodes, and whole designs.
-/

import Storyboard.Design.Diagnostic
import Storyboard.Design.Layer
import Storyboard.Tree

namespace Storyboard

/-- A node is a layer with the nodes below it. -/
abbrev Node : Type := Tree Layer

/-- Why a node cannot be made. -/
inductive NodeFault where
  /-- The word for a type, as it is quoted in messages, stands for none. -/
  | unknownType (quoted : String)
  | negativeSize
  | missingId (type : NodeType)
  | missingTextStyle (id : String)
  | textWithChildren (id : String)
  | unmarkedComponent (type : NodeType) (id : String)
  deriving DecidableEq, Repr

def NodeFault.message : NodeFault → String
  | .unknownType quoted => s!"{quoted} is not a valid NodeType"
  | .negativeSize => "Layout dimensions must be non-negative"
  | .missingId type => s!"{type.word} node requires an id"
  | .missingTextStyle id => s!"TEXT node {id} requires a text style"
  | .textWithChildren id => s!"TEXT node {id} cannot have children"
  | .unmarkedComponent type id => s!"{type.word} node {id} must be marked as a component"

/-- Refuses a layout with a negative size. -/
def Layout.check (layout : Layout) : Except NodeFault Layout :=
  if layout.hasProperSize then .ok layout else .error .negativeSize

/-- The first fault of a new node, if there is any. -/
def NodeFault.of? (layer : Layer) (hasChildren : Bool) : Option NodeFault :=
  if layer.id.isEmpty then some (.missingId layer.type)
  else if layer.type = .text ∧ layer.styles.textStyle?.isNone then some (.missingTextStyle layer.id)
  else if layer.type = .text ∧ hasChildren then some (.textWithChildren layer.id)
  else if layer.type.isComponent ∧ ¬layer.content.isComponent then
    some (.unmarkedComponent layer.type layer.id)
  else none

/-- Makes a node unless it has a fault. -/
def Node.make (layer : Layer) (children : List Node) : Except NodeFault Node :=
  match NodeFault.of? layer (!children.isEmpty) with
  | some fault => .error fault
  | none => .ok (.node layer children)

/-- A design holds screens and what was reported while it was built. -/
structure Design where
  screens : List Node
  diagnostics : List Diagnostic := []
  deriving Inhabited

namespace Design

/-- All layers, each one before those below it. -/
def layers (design : Design) : List Layer := Forest.preorder design.screens

def elementCount (design : Design) : Nat := Forest.size design.screens

def screenCount (design : Design) : Nat := design.screens.length

/-- The greatest depth of a screen. -/
def depth (design : Design) : Nat := Forest.depth design.screens

/-- The text of every layer that has some. -/
def texts (design : Design) : List String :=
  (design.layers.filter (·.content.hasText)).map (·.content.text)

end Design

end Storyboard

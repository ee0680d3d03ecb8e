/-
This file defines the closed set of node types.
-/

namespace Storyboard

/-- Every node of a design has one of these types. -/
inductive NodeType where
  | frame
  | text
  | rectangle
  | ellipse
  | vector
  | group
  | component
  | componentInstance
  deriving DecidableEq, Repr, Inhabited

namespace NodeType

/-- All types, in the order in which they are listed in messages. -/
def all : List NodeType :=
  [.frame, .text, .rectangle, .ellipse, .vector, .group, .component, .componentInstance]

def word : NodeType → String
  | .frame => "FRAME"
  | .text => "TEXT"
  | .rectangle => "RECTANGLE"
  | .ellipse => "ELLIPSE"
  | .vector => "VECTOR"
  | .group => "GROUP"
  | .component => "COMPONENT"
  | .componentInstance => "INSTANCE"

def ofWord? (word : String) : Option NodeType := all.find? (·.word = word)

theorem ofWord?_word (type : NodeType) : ofWord? type.word = some type := by
  cases type <;> decide +kernel

/-- Components and their instances are marked as components. -/
def isComponent : NodeType → Bool
  | .component | .componentInstance => true
  | _ => false

/-- Shapes are drawn without children of their own. -/
def isShape : NodeType → Bool
  | .rectangle | .ellipse | .vector => true
  | _ => false

end NodeType

end Storyboard

/-
This file changes the nodes of a design and moves them about.
-/

import Storyboard.Design.Node

namespace Storyboard

/-- A new value for one part of a layer. -/
inductive LayerChange where
  | name (name : String)
  | visible (visible : Bool)
  | layout (layout : Layout)
  | text (text : String)
  | classification (classification? : Option Classification)

namespace Layer

/-- Makes one change, unless a new size is negative. -/
def apply (layer : Layer) : LayerChange → Except NodeFault Layer
  | .name name => .ok { layer with name }
  | .visible visible => .ok { layer with visible }
  | .layout layout => do return { layer with layout := ← layout.check }
  | .text text => .ok { layer with content := { layer.content with text } }
  | .classification classification? => .ok { layer with classification? }

/-- Makes changes up to the first one that is refused. -/
def applyAll (layer : Layer) : List LayerChange → Layer × Option NodeFault
  | [] => (layer, none)
  | change :: rest =>
      match layer.apply change with
      | .ok changed => changed.applyAll rest
      | .error fault => (layer, some fault)

end Layer

namespace Design

/-- The first node of an id, where each node comes before those below it. -/
def node? (design : Design) (id : String) : Option Node :=
  Forest.find? (·.id = id) design.screens

/-- Puts other nodes in the place of the first node of an id. -/
def replaceNode? (design : Design) (id : String) (replacement : Node → List Node) : Option Design :=
  (Forest.replaceFirst? (·.id = id) replacement design.screens).map fun screens => { design with screens }

/-- Changes the layer of the first node of an id. -/
def changeLayer? (design : Design) (id : String) (change : Layer → Layer) : Option Design :=
  design.replaceNode? id fun node => [.node (change node.value) node.children]

/-- The first node of an inner id lies at or below the first node of an id. -/
def encloses (design : Design) (id innerId : String) : Bool :=
  match design.node? id with
  | none => false
  | some node =>
      innerId ∉ (design.layers.map (·.id)).takeWhile (· ≠ id) && innerId ∈ node.preorder.map (·.id)

/-- Adds a node after the children of the first node of an id, or after the screens when there is none. -/
def attach (design : Design) (node : Node) (parentId? : Option String) : Design :=
  let attached? := do
    design.replaceNode? (← parentId?) fun parent => [.node parent.value (parent.children ++ [node])]
  attached?.getD { design with screens := design.screens ++ [node] }

/-- Takes out the first node of an id and adds it elsewhere. A node that is to stand inside itself is lost. -/
def move? (design : Design) (id : String) (parentId? : Option String) : Option Design := do
  let node ← design.node? id
  let without ← design.replaceNode? id fun _ => []
  return if parentId?.any (design.encloses id) then without else without.attach node parentId?

end Design

end Storyboard

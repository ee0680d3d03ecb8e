/-
This file arranges the outline of a document into nodes: records that do not count are dropped, and what
is left below them moves up.
-/

import Storyboard.Design.Node
import Storyboard.Document.Layer

namespace Storyboard

/-- Where a record stands: the name of its root, and the positions of the children on the way down. -/
structure Path where
  root : String
  steps : List Nat := []
  deriving DecidableEq, Repr

namespace Path

def child (path : Path) (index : Nat) : Path := { path with steps := path.steps ++ [index] }

def text (path : Path) : String := ".".intercalate (path.root :: path.steps.map toString)

/-- The path of a root, by its position. -/
def ofIndex (index : Nat) : Path := { root := toString index }

end Path

/-- The id of a record, which its path gives when it has none of its own. -/
def Record.idAt (record : Record) (path : Path) : Except NumberFault String := do
  return (← record.id?).getD ("auto-" ++ path.text)

/-- The layer of a record that stands at a path. -/
def Record.layerAt (record : Record) (type : NodeType) (path : Path) (config : Config) :
    Except NumberFault Layer := do
  record.layer type (← record.idAt path) config

mutual

/--
The nodes of an outline. A record whose layer does not count gives way to the nodes below it, and a
container always does.
-/
def Outline.arrange (config : Config) (path : Path) (depth : Nat) :
    Outline → Except NumberFault (List Node)
  | .node record children =>
      match record.role with
      | .ignored => .ok []
      | .container => Outline.arrangeFrom config path depth 0 children
      | .shown type => do
          let layer ← record.layerAt type path config
          let below ←
            if config.opens type depth then Outline.arrangeFrom config path (depth + 1) 0 children
            else pure []
          return if layer.isVisual config then [.node layer below] else below
      | .unwritten => .error .tooLong

/-- The nodes of the children of a record, from a position on. -/
def Outline.arrangeFrom (config : Config) (path : Path) (depth index : Nat) :
    List Outline → Except NumberFault (List Node)
  | [] => .ok []
  | child :: rest => do
      let first ← Outline.arrange config (path.child index) depth child
      let others ← Outline.arrangeFrom config path depth (index + 1) rest
      return first ++ others

end

mutual

/-- A diagnostic for each record whose children lie too deep to come into view. -/
def Outline.truncations (config : Config) (path : Path) (depth : Nat) :
    Outline → Except NumberFault (List Diagnostic)
  | .node record children =>
      match record.role with
      | .ignored => .ok []
      | .container => Outline.truncationsFrom config path depth 0 children
      | .shown type =>
          if config.opens type depth then Outline.truncationsFrom config path (depth + 1) 0 children
          else if type = .text ∨ children.isEmpty then .ok []
          else do return [.depthExceeded (← record.idAt path) (depth + 1) config.maxDepth children.length]
      | .unwritten => .error .tooLong

/-- The diagnostics for the children of a record, from a position on. -/
def Outline.truncationsFrom (config : Config) (path : Path) (depth index : Nat) :
    List Outline → Except NumberFault (List Diagnostic)
  | [] => .ok []
  | child :: rest => do
      let first ← Outline.truncations config (path.child index) depth child
      let others ← Outline.truncationsFrom config path depth (index + 1) rest
      return first ++ others

end

namespace Document

/-- The nodes of the roots, from a position on. -/
def arrangeRoots (config : Config) (index : Nat) : List Outline → Except NumberFault (List Node)
  | [] => .ok []
  | root :: rest => do
      let first ← Outline.arrange config (.ofIndex index) 0 root
      let others ← arrangeRoots config (index + 1) rest
      return first ++ others

/-- The diagnostics for the roots, from a position on. -/
def truncationsOfRoots (config : Config) (index : Nat) : List Outline → Except NumberFault (List Diagnostic)
  | [] => .ok []
  | root :: rest => do
      let first ← Outline.truncations config (.ofIndex index) 0 root
      let others ← truncationsOfRoots config (index + 1) rest
      return first ++ others

end Document

/--
The node of an outline itself, if it counts. The first node stands for it when it has its id and stands
alone.
-/
def Outline.node? (config : Config) (path : Path) (outline : Outline) : Except NumberFault (Option Node) :=
  match outline.value.role with
  | .shown _ => do
      match ← Outline.arrange config path 0 outline with
      | [node] => return if node.value.id = (← outline.value.idAt path) then some node else none
      | _ => return none
  | .unwritten => .error .tooLong
  | _ => .ok none

end Storyboard

/-
This file defines raw records: the nodes of a document before anything is known about their fields.
-/

import Storyboard.Design.NodeType
import Storyboard.Json.Basic
import Storyboard.Text.Case
import Storyboard.Tree

namespace Storyboard

/-- The fields of a raw node. -/
structure Record where
  fields : List (String × Json)
  deriving Inhabited

/-- A raw node with the raw nodes below it. -/
abbrev Outline : Type := Tree Record

/-- What a record is to the design. -/
inductive Role where
  /-- A container takes no place of its own, and its children stand in for it. -/
  | container
  /-- A record that is not drawn, with all that is below it. -/
  | ignored
  | shown (type : NodeType)
  /-- A record whose type cannot be written out is looked at no further. -/
  | unwritten
  deriving DecidableEq, Repr

namespace Role

/-- Containers that take no place of their own. -/
def containerWords : List String := ["DOCUMENT", "CANVAS", "SECTION"]

/-- Nodes that are not drawn. -/
def ignoredWords : List String := ["SLICE", "STICKY", "CONNECTOR", "SHAPE_WITH_TEXT", "STAMP", "WIDGET"]

/-- Nodes that are drawn as vectors. -/
def vectorWords : List String := ["LINE", "STAR", "REGULAR_POLYGON", "POLYGON", "BOOLEAN_OPERATION", "ARROW"]

/-- The role that a word in capitals stands for. An unknown word makes a group. -/
def ofCapitals (word : String) : Role :=
  if word ∈ containerWords then .container
  else if word ∈ ignoredWords then .ignored
  else if word ∈ vectorWords then .shown .vector
  else if word = "COMPONENT_SET" then .shown .component
  else .shown ((NodeType.ofWord? word).getD .group)

/-- The role that the value of a type field stands for. -/
def ofValue (value : Json) : Role :=
  match value.word "" with
  | .ok word => ofCapitals (Text.toCapitals word)
  | .error _ => .unwritten

end Role

namespace Record

/-- A field, or null when it is missing. -/
def get (record : Record) (name : String) : Json := Json.field record.fields name

/-- Only the word false hides a record. -/
def isHidden (record : Record) : Bool := (record.get "visible").isFalse

/-- The role of a record. A hidden one is ignored, once its type is written out. -/
def role (record : Record) : Role :=
  match Role.ofValue (record.get "type") with
  | .unwritten => .unwritten
  | role => if record.isHidden then .ignored else role

end Record

mutual

/-- The outline of an object, whose children are the objects in its list of children. -/
def Outline.ofJson? : Json → Option Outline
  | .object fields => some (.node ⟨fields⟩ (Outline.childrenOf fields))
  | _ => none

/-- The children in the fields of an object. -/
def Outline.childrenOf : List (String × Json) → List Outline
  | [] => []
  | (name, value) :: rest => if name = "children" then Outline.ofItems value else Outline.childrenOf rest

/-- The outlines of the objects in an array. -/
def Outline.ofItems : Json → List Outline
  | .array items => Outline.ofList items
  | _ => []

def Outline.ofList : List Json → List Outline
  | [] => []
  | item :: rest =>
      match Outline.ofJson? item with
      | some outline => outline :: Outline.ofList rest
      | none => Outline.ofList rest

end

end Storyboard

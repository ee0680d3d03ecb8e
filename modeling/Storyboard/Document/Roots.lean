/-
This file finds the top nodes of a raw document.
-/

import Storyboard.Document.Record

namespace Storyboard

/-- Why a document has no top nodes. -/
inductive ShapeFault where
  | notAnObject (kind : String)
  | noChildren
  | unknownFields (names : List String)
  deriving DecidableEq, Repr

namespace Document

/-- An entry of a map of nodes holds a node under its field for the document. -/
def entryOutline? (entry : Json) : Option Outline := do
  Outline.ofJson? (Json.field (← entry.fields?) "document")

/-- The nodes of a map, when all entries that are not null hold one and there is at least one. -/
def entryOutlines? (fields : List (String × Json)) : Option (List Outline) :=
  let entries := (fields.map (·.2)).filter (!·.isNull)
  if entries.isEmpty then none else entries.mapM entryOutline?

def maxListedNames : Nat := 20

/-- The names of fields in the order of their code points. -/
def sortedNames (fields : List (String × Json)) : List String :=
  ((fields.map (·.1)).mergeSort fun left right => decide (left ≤ right)).take maxListedNames

/--
The top nodes stand in the children of the document, in the children of the whole, or in a map of nodes,
which may be wrapped.
-/
def roots (raw : Json) : Except ShapeFault (List Outline) :=
  match raw with
  | .object fields =>
      match Json.field fields "document" with
      | .object inner =>
          match Json.field inner "children" with
          | .array items => .ok (Outline.ofList items)
          | _ => .error .noChildren
      | _ =>
          match Json.field fields "children" with
          | .array items => .ok (Outline.ofList items)
          | _ =>
              let wrapped := match Json.field fields "nodes" with
                | .object entries =>
                    if entries.all (·.2.isNull) then some [] else entryOutlines? entries
                | _ => none
              match wrapped.or (entryOutlines? fields) with
              | some outlines => .ok outlines
              | none => .error (.unknownFields (sortedNames fields))
  | other => .error (.notAnObject other.kindName)

end Document

end Storyboard

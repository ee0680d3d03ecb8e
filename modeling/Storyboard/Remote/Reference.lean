/-
This file reads references to designs from share links.
-/

import Storyboard.Text.Percent

namespace Storyboard.Remote

/-- A reference names a file and possibly one of its nodes. -/
structure Reference where
  fileKey : String
  nodeId? : Option String := none
  deriving DecidableEq, Repr

namespace Reference

/-- The first answer of a reader at any position of a text. -/
def firstOf? {α : Type} (read? : List Char → Option α) : List Char → Option α
  | [] => read? []
  | character :: rest =>
      match read? (character :: rest) with
      | some answer => some answer
      | none => firstOf? read? rest

/-- The characters after a mark in front. -/
def after? (mark : String) (characters : List Char) : Option (List Char) :=
  if mark.toList.isPrefixOf characters then some (characters.drop mark.length) else none

/-- The parts of a link in front of a file key. -/
def fileMarks : List String := ["/file/", "/design/", "/proto/"]

/-- A file key right after its mark. -/
def readFileKey? (characters : List Char) : Option String := do
  let rest ← fileMarks.firstM (after? · characters)
  let key := rest.takeWhile Char.isAlphanum
  if key.isEmpty then none else some (String.ofList key)

/-- A character that ends a parameter. -/
def endsParameter (character : Char) : Bool := character = '&' || character = '#'

/-- A node id right after its mark. -/
def readNodeId? : List Char → Option String
  | [] => none
  | character :: rest => do
      let text ← if character = '?' ∨ endsParameter character then after? "node-id=" rest else none
      let value := text.takeWhile (!endsParameter ·)
      if value.isEmpty then none else some (String.ofList value)

/-- A node id as a link writes it, where hyphens stand for colons. -/
def decodeNodeId (text : String) : String :=
  String.ofList ((Text.Percent.decode text).toList.map fun character =>
    if character = '-' then ':' else character)

def ofLink? (link : String) : Option Reference := do
  let fileKey ← firstOf? readFileKey? link.toList
  return { fileKey, nodeId? := (firstOf? readNodeId? link.toList).map decodeNodeId }

end Reference

end Storyboard.Remote

/-
This file writes text and attribute values for markup.
-/

import Storyboard.Json.Printer
import Storyboard.Text.Word

namespace Storyboard.Markup

/-- One character of text between tags. -/
def escapeTextCharacter : Char → List Char
  | '&' => "&amp;".toList
  | '<' => "&lt;".toList
  | '>' => "&gt;".toList
  | character => [character]

/-- Text between tags. -/
def escapeText (text : String) : String := String.ofList (text.toList.flatMap escapeTextCharacter)

/-- One character of a quoted attribute value. -/
def escapeAttributeCharacter : Char → List Char
  | '"' => "&quot;".toList
  | character => escapeTextCharacter character

/-- A quoted attribute value. -/
def escapeAttribute (text : String) : String :=
  String.ofList (text.toList.flatMap escapeAttributeCharacter)

/-- An attribute with a quoted value. The value true is written as the name alone. -/
def plainAttribute (name : String) : Json → String
  | .bool true => name
  | value => name ++ "=\"" ++ escapeAttribute value.plainText ++ "\""

/-- A character that a script attribute may hold as it is. -/
def isSafe (character : Char) : Bool :=
  Text.isWord character || character ∈ [' ', '.', ':', '/', '-']

/-- A text that a script attribute may hold as it is. One line end may stand behind it. -/
def isSafeText (characters : List Char) : Bool :=
  match characters.reverse with
  | '\n' :: rest => rest.all isSafe
  | reversed => reversed.all isSafe

/-- A script attribute: a quoted value as it is, or a literal in braces. -/
def scriptAttribute (name : String) (value : Json) : String :=
  let literal := name ++ "=\x7b" ++ value.compact ++ "\x7d"
  match value with
  | .string text => if isSafeText text.toList then name ++ "=\"" ++ text ++ "\"" else literal
  | _ => literal

/-- Text as a literal in braces, which is never read as markup. -/
def scriptText (text : String) : String := "\x7b" ++ Json.stringText text ++ "\x7d"

end Storyboard.Markup

/-
This file defines a reader of written markup: start tags with their attributes, end tags, and text.
-/

import Storyboard.Export.Format
import Storyboard.Json.Reader
import Storyboard.Tree

namespace Storyboard.Markup

/-- What is read of an attribute besides its name. -/
inductive Value where
  /-- The name stands alone. -/
  | bare
  /-- A text between quotes, or a literal in braces. -/
  | plain (value : Json)
  /-- Names with their texts, as an object literal in braces. -/
  | entries (entries : List (String × String))

/-- A tag with its attributes, and the text right behind it. -/
structure Tag where
  name : String
  attributes : List (String × Value)
  text? : Option String := none

/-- Markup is a sequence of these. -/
inductive Token where
  | start (name : String) (attributes : List (String × Value))
  | stop (name : String)
  | text (text : String)

/-- Reads items one after another with blanks before each, and gives what is left after them and their blanks. -/
def repeatedly {α : Type} (step : List Char → Option (α × List Char)) (characters : List Char) :
    List α × List Char :=
  let visible := characters.dropWhile Text.isBlank
  match step visible with
  | none => ([], visible)
  | some (item, after) =>
      if _ : after.length < visible.length then
        let (items, left) := repeatedly step after
        (item :: items, left)
      else ([], visible)
termination_by characters.length
decreasing_by exact Nat.lt_of_lt_of_le ‹_› (List.dropWhile_sublist _).length_le

def isNameCharacter (character : Char) : Bool := character.isAlphanum || character = '-'

def readName? (characters : List Char) : Option (String × List Char) :=
  match characters.takeWhile isNameCharacter with
  | [] => none
  | name => some (String.ofList name, characters.dropWhile isNameCharacter)

/-- Reads the characters up to a quote. -/
def readQuoted? (characters : List Char) : Option (List Char × List Char) :=
  match characters.dropWhile (· ≠ '"') with
  | [] => none
  | _ :: after => some (characters.takeWhile (· ≠ '"'), after)

/-- Puts characters in the place of the entities that stand for them. -/
def decode : List Char → List Char
  | [] => []
  | '&' :: 'a' :: 'm' :: 'p' :: ';' :: rest => '&' :: decode rest
  | '&' :: 'l' :: 't' :: ';' :: rest => '<' :: decode rest
  | '&' :: 'g' :: 't' :: ';' :: rest => '>' :: decode rest
  | '&' :: 'q' :: 'u' :: 'o' :: 't' :: ';' :: rest => '"' :: decode rest
  | character :: rest => character :: decode rest

/-- Reads a JSON value. -/
def readLiteral? (characters : List Char) : Option (Json × List Char) :=
  match Json.readValue (2 * characters.length + 1) characters.length characters with
  | .ok read => some read
  | .error _ => none

/-- Reads a name with the JSON string after its colon. -/
def readField? (characters : List Char) : Option ((String × String) × List Char) :=
  match readName? characters with
  | some (name, ':' :: rest) =>
      match readLiteral? (rest.dropWhile Text.isBlank) with
      | some (.string text, after) => some ((name, text), after)
      | _ => none
  | _ => none

/-- Reads an entry after a comma. -/
def readNextField? : List Char → Option ((String × String) × List Char)
  | ',' :: rest => readField? (rest.dropWhile Text.isBlank)
  | _ => none

/-- Reads entries between commas, up to the braces that close the object and the attribute. -/
def readFields? (characters : List Char) : Option (List (String × String) × List Char) :=
  match readField? (characters.dropWhile Text.isBlank) with
  | some (first, after) =>
      match repeatedly readNextField? after with
      | (others, '\x7d' :: '\x7d' :: left) => some (first :: others, left)
      | _ => none
  | none => none

/-- Reads what stands behind the name of an attribute. -/
def readValue? : Dialect → List Char → Option (Value × List Char)
  | .markup, '=' :: '"' :: rest =>
      (readQuoted? rest).map fun (text, left) => (.plain (.string (String.ofList (decode text))), left)
  | .markup, left => some (.bare, left)
  | .script, '=' :: '"' :: rest =>
      (readQuoted? rest).map fun (text, left) => (.plain (.string (String.ofList text)), left)
  | .script, '=' :: '\x7b' :: '\x7b' :: rest =>
      (readFields? rest).map fun (entries, left) => (.entries entries, left)
  | .script, '=' :: '\x7b' :: rest =>
      match readLiteral? rest with
      | some (value, '\x7d' :: left) => some (.plain value, left)
      | _ => none
  | .script, _ => none

def readAttribute? (dialect : Dialect) (characters : List Char) : Option ((String × Value) × List Char) :=
  match readName? characters with
  | some (name, after) => (readValue? dialect after).map fun (value, left) => ((name, value), left)
  | none => none

/-- Reads text: without the blanks around it in plain markup, and as a literal in braces inside a script. -/
def readText? : Dialect → List Char → Option (String × List Char)
  | .markup, characters =>
      match characters.takeWhile (· ≠ '<') with
      | [] => none
      | text => some (Text.trim (String.ofList (decode text)), characters.dropWhile (· ≠ '<'))
  | .script, '\x7b' :: rest =>
      match readLiteral? rest with
      | some (.string text, '\x7d' :: left) => some (text, left)
      | _ => none
  | .script, _ => none

def readToken? (dialect : Dialect) : List Char → Option (Token × List Char)
  | '<' :: '/' :: rest =>
      match readName? rest with
      | some (name, '>' :: left) => some (.stop name, left)
      | _ => none
  | '<' :: rest =>
      match readName? rest with
      | some (name, after) =>
          match repeatedly (readAttribute? dialect) after with
          | (attributes, '>' :: left) => some (.start name attributes, left)
          | _ => none
      | none => none
  | characters => (readText? dialect characters).map fun (text, left) => (.text text, left)

/--
Puts tokens together to trees. The open tags come innermost first, each with the trees before it, last first, and so
do the trees in the innermost one. Text stands right behind its start tag, and an end tag closes the tag of its name.
-/
def nest? : (opened : List (Tag × Forest Tag)) → (done : Forest Tag) → List Token → Option (Forest Tag)
  | [], done, [] => some done.reverse
  | _ :: _, _, [] => none
  | opened, done, .start name attributes :: rest => nest? ((⟨name, attributes, none⟩, done) :: opened) [] rest
  | (⟨name, attributes, none⟩, before) :: opened, [], .text text :: rest =>
      nest? ((⟨name, attributes, some text⟩, before) :: opened) [] rest
  | _, _, .text _ :: _ => none
  | (tag, before) :: opened, done, .stop name :: rest =>
      if name = tag.name then nest? opened (.node tag done.reverse :: before) rest else none
  | [], _, .stop _ :: _ => none

/-- Reads markup, which must be tokens throughout that nest. -/
def read? (dialect : Dialect) (text : String) : Option (Forest Tag) :=
  match repeatedly (readToken? dialect) text.toList with
  | (tokens, []) => nest? [] [] tokens
  | _ => none

end Storyboard.Markup

/-
This file prints JSON in plain characters, on one line or indented.
-/

import Storyboard.Json.Basic

namespace Storyboard.Json

/-- The escape of a unit of sixteen bits. -/
def unitEscape (code : Nat) : List Char := '\\' :: 'u' :: Text.hexText 4 code

/-- One character of a string. Beyond plain characters each unit of sixteen bits is escaped. -/
def escapeCharacter (character : Char) : List Char :=
  let code := character.toNat
  if character = '"' then ['\\', '"']
  else if character = '\\' then ['\\', '\\']
  else if code = 0x0A then ['\\', 'n']
  else if code = 0x0D then ['\\', 'r']
  else if code = 0x09 then ['\\', 't']
  else if code = 0x08 then ['\\', 'b']
  else if code = 0x0C then ['\\', 'f']
  else if 0x20 ≤ code && code < 0x80 && code ≠ 0x7F then [character]
  else if code < 0x10000 then unitEscape code
  else
    unitEscape (0xD800 + (code - 0x10000) / 0x400) ++ unitEscape (0xDC00 + (code - 0x10000) % 0x400)

/-- A string between double quotes. -/
def stringText (text : String) : String :=
  String.ofList ('"' :: text.toList.flatMap escapeCharacter ++ ['"'])

mutual

/-- A value on one line. -/
def compact : Json → String
  | .null => "null"
  | .bool value => if value then "true" else "false"
  | .int value => toString value
  | .double value => NumberLayout.script.text value
  | .string value => stringText value
  | .array items => "[" ++ ", ".intercalate (compactItems items) ++ "]"
  | .object fields => "\x7b" ++ ", ".intercalate (compactFields fields) ++ "\x7d"

/-- The items of an array, each on one line. -/
def compactItems : List Json → List String
  | [] => []
  | item :: rest => compact item :: compactItems rest

/-- The fields of an object, each on one line. -/
def compactFields : List (String × Json) → List String
  | [] => []
  | (name, value) :: rest => (stringText name ++ ": " ++ compact value) :: compactFields rest

end

/-- Puts entries on lines of their own, two spaces deeper than the brackets around them. -/
def block (opening closing : String) (depth : Nat) (entries : List String) : String :=
  if entries.isEmpty then opening ++ closing
  else
    let pad := "\n" ++ String.ofList (List.replicate (2 * depth + 2) ' ')
    opening ++ pad ++ ("," ++ pad).intercalate entries ++ "\n" ++
      String.ofList (List.replicate (2 * depth) ' ') ++ closing

mutual

/-- A value with every item and field on a line of its own. -/
def indented (depth : Nat) : Json → String
  | .array items => block "[" "]" depth (indentedItems (depth + 1) items)
  | .object fields => block "\x7b" "\x7d" depth (indentedFields (depth + 1) fields)
  | value => value.compact

/-- The items of an array at a depth. -/
def indentedItems (depth : Nat) : List Json → List String
  | [] => []
  | item :: rest => indented depth item :: indentedItems depth rest

/-- The fields of an object at a depth. -/
def indentedFields (depth : Nat) : List (String × Json) → List String
  | [] => []
  | (name, value) :: rest =>
      (stringText name ++ ": " ++ indented depth value) :: indentedFields depth rest

end

end Storyboard.Json

/-
This file reads JSON text and tells where malformed text goes wrong.
-/

import Storyboard.Json.Basic
import Storyboard.Number.Numeral

namespace Storyboard.Json

/-- Why text is no JSON. -/
inductive ReadFault where
  /-- The text goes wrong at this offset. -/
  | malformed (offset : Nat)
  /-- A whole number has more digits than a reader takes. -/
  | numberTooLong
  /-- A value lies in more arrays and objects than a reader takes. -/
  | nestedTooDeep
  /-- An escape stands for half of a character on its own, which no text holds. -/
  | halfCharacter
  deriving DecidableEq, Repr

/-- Inside the reader an offset is the count of characters left. -/
inductive Stop where
  | malformed (left : Nat)
  | numberTooLong
  | nestedTooDeep
  | halfCharacter

/-- A reader gives a value and the characters after it. -/
abbrev Step (α : Type) : Type := Except Stop (α × List Char)

/-- Text goes wrong before these characters. -/
def stopAt {α : Type} (characters : List Char) : Except Stop α :=
  .error (.malformed characters.length)

/-- Spaces, tabs and line ends may stand between tokens. -/
def isSpace (character : Char) : Bool := character ∈ [' ', '\t', '\n', '\r']

def skipSpace (characters : List Char) : List Char := characters.dropWhile isSpace

/-- Reads exactly four hexadecimal digits. -/
def readUnit? : List Char → Option Nat
  | a :: b :: c :: d :: _ => do
      let first ← Text.hexValue? a
      let second ← Text.hexValue? b
      let third ← Text.hexValue? c
      let fourth ← Text.hexValue? d
      pure (((first * 16 + second) * 16 + third) * 16 + fourth)
  | _ => none

/-- The upper half of a code point in two units. -/
def isHighUnit (unit : Nat) : Bool := 0xD800 ≤ unit && unit < 0xDC00

/-- The lower half of a code point in two units. -/
def isLowUnit (unit : Nat) : Bool := 0xDC00 ≤ unit && unit < 0xE000

/-- The character of a unit that stands on its own, in front of the characters that are left. -/
def wholeUnit (unit : Nat) (rest : List Char) : Step Char :=
  if isHighUnit unit || isLowUnit unit then .error .halfCharacter else .ok (Char.ofNat unit, rest)

/-- Reads the units of an escape, given the characters after the escape letter and those from it on. -/
def readUnits (letterOn afterLetter : List Char) : Step Char :=
  -- The four digits are followed by a closing quote at least.
  if (afterLetter.drop 4).isEmpty then stopAt letterOn
  else match readUnit? afterLetter with
    | none => stopAt letterOn
    | some unit =>
        let rest := afterLetter.drop 4
        match rest with
        | '\\' :: 'u' :: second =>
            if isHighUnit unit ∧ !(second.drop 4).isEmpty then
              match readUnit? second with
              | none => stopAt ('u' :: second)
              | some lower =>
                  if isLowUnit lower then
                    .ok (Char.ofNat (0x10000 + (unit - 0xD800) * 0x400 + (lower - 0xDC00)), second.drop 4)
                  else wholeUnit unit rest
            else wholeUnit unit rest
        | _ => wholeUnit unit rest

/-- The character of a short escape. -/
def shortEscape? : Char → Option Char
  | '"' => some '"'
  | '\\' => some '\\'
  | '/' => some '/'
  | 'b' => some '\x08'
  | 'f' => some '\x0c'
  | 'n' => some '\n'
  | 'r' => some '\r'
  | 't' => some '\t'
  | _ => none

/-- Reads an escape, given the characters from its backslash on. -/
def readEscape (quoteOn backslashOn : List Char) : List Char → Step Char
  | [] => stopAt quoteOn
  | 'u' :: rest => readUnits ('u' :: rest) rest
  | letter :: rest =>
      match shortEscape? letter with
      | some character => .ok (character, rest)
      | none => stopAt backslashOn

/-- Reads a string up to its closing quote, where `done` holds what is read, last first. -/
def readString (quoteOn : List Char) : (fuel : Nat) → (done : List Char) → List Char → Step String
  | 0, _, _ => stopAt quoteOn
  | _, _, [] => stopAt quoteOn
  | fuel + 1, done, character :: rest =>
      if character = '"' then .ok (String.ofList done.reverse, rest)
      else if character = '\\' then
        match readEscape quoteOn (character :: rest) rest with
        | .error stop => .error stop
        | .ok (escaped, after) => readString quoteOn fuel (escaped :: done) after
      else if character.toNat < 0x20 then stopAt (character :: rest)
      else readString quoteOn fuel (character :: done) rest

/-- Reads a fraction, if a point with a digit follows. -/
def readFraction : List Char → List Char × List Char
  | '.' :: rest =>
      match Numeral.takeDigits rest with
      | ([], _) => ([], '.' :: rest)
      | (digits, after) => (digits, after)
  | characters => ([], characters)

/-- Reads a number after its sign. A number with neither fraction nor exponent is whole. -/
def readNumber (start : List Char) (negative : Bool) (characters : List Char) : Step Json :=
  let (whole, afterWhole) := match characters with
    | '0' :: rest => (['0'], rest)
    | _ => Numeral.takeDigits characters
  if whole.isEmpty then stopAt start
  else
    let (fraction, afterFraction) := readFraction afterWhole
    let (exponent, rest) := Numeral.takeExponent afterFraction
    if fraction.isEmpty ∧ exponent.isNone then
      if maxDigits < whole.length then .error .numberTooLong
      else
        let value : Int := Numeral.digitsValue whole
        .ok (.int (if negative then -value else value), rest)
    else
      let digits := Numeral.digitsValue (whole ++ fraction)
      .ok (.double (Double.ofDecimal negative digits (exponent.getD 0 - fraction.length)), rest)

/-- Reads a word or a number. -/
def readScalar (characters : List Char) : Step Json :=
  match characters with
  | 'n' :: 'u' :: 'l' :: 'l' :: rest => .ok (.null, rest)
  | 't' :: 'r' :: 'u' :: 'e' :: rest => .ok (.bool true, rest)
  | 'f' :: 'a' :: 'l' :: 's' :: 'e' :: rest => .ok (.bool false, rest)
  | 'N' :: 'a' :: 'N' :: rest => .ok (.double .nan, rest)
  | 'I' :: 'n' :: 'f' :: 'i' :: 'n' :: 'i' :: 't' :: 'y' :: rest => .ok (.double (.infinite false), rest)
  | '-' :: 'I' :: 'n' :: 'f' :: 'i' :: 'n' :: 'i' :: 't' :: 'y' :: rest => .ok (.double (.infinite true), rest)
  | '-' :: rest => readNumber characters true rest
  | _ => readNumber characters false characters

mutual

/--
Reads a value, where `fuel` is more than twice the count of characters that are left, and `room` counts the
arrays and objects that may be opened inside each other.
-/
def readValue : (fuel room : Nat) → List Char → Step Json
  | 0, _, characters => stopAt characters
  | fuel + 1, _, '"' :: rest =>
      match readString ('"' :: rest) fuel [] rest with
      | .error stop => .error stop
      | .ok (text, after) => .ok (.string text, after)
  | _ + 1, 0, '[' :: _ => .error .nestedTooDeep
  | _ + 1, 0, '\x7b' :: _ => .error .nestedTooDeep
  | fuel + 1, room + 1, '[' :: rest =>
      match skipSpace rest with
      | ']' :: after => .ok (.array [], after)
      | inside => readItems fuel room [] inside
  | fuel + 1, room + 1, '\x7b' :: rest =>
      match skipSpace rest with
      | '\x7d' :: after => .ok (.object [], after)
      | inside => readFields fuel room [] inside
  | _ + 1, _, characters => readScalar characters

/-- Reads the items of an array up to its end, where `done` holds those already read, last first. -/
def readItems : (fuel room : Nat) → (done : List Json) → List Char → Step Json
  | 0, _, _, characters => stopAt characters
  | fuel + 1, room, done, characters =>
      match readValue fuel room characters with
      | .error stop => .error stop
      | .ok (item, after) =>
          match skipSpace after with
          | ']' :: rest => .ok (.array (item :: done).reverse, rest)
          | ',' :: rest => readItems fuel room (item :: done) (skipSpace rest)
          | other => stopAt other

/-- Reads the fields of an object up to its end. A repeated name keeps its place and takes the last value. -/
def readFields : (fuel room : Nat) → (done : List (String × Json)) → List Char → Step Json
  | 0, _, _, characters => stopAt characters
  | fuel + 1, room, done, '"' :: nameOn =>
      match readString ('"' :: nameOn) fuel [] nameOn with
      | .error stop => .error stop
      | .ok (name, afterName) =>
          match skipSpace afterName with
          | ':' :: valueOn =>
              match readValue fuel room (skipSpace valueOn) with
              | .error stop => .error stop
              | .ok (value, afterValue) =>
                  let fields := putField done name value
                  match skipSpace afterValue with
                  | '\x7d' :: rest => .ok (.object fields, rest)
                  | ',' :: rest => readFields fuel room fields (skipSpace rest)
                  | other => stopAt other
          | other => stopAt other
  | _ + 1, _, _, characters => stopAt characters

end

/-- Reads a text that holds one value and space around it. -/
def readCharacters (room : Nat) (characters : List Char) : Except ReadFault Json :=
  let fault := fun stop : Stop => match stop with
    | .malformed left => ReadFault.malformed (characters.length - left)
    | .numberTooLong => .numberTooLong
    | .nestedTooDeep => .nestedTooDeep
    | .halfCharacter => .halfCharacter
  match readValue (2 * characters.length + 1) room (skipSpace characters) with
  | .error stop => .error (fault stop)
  | .ok (value, after) =>
      match skipSpace after with
      | [] => .ok value
      | rest => .error (fault (.malformed rest.length))

/-- Reads a text, in which a bracket may stand wherever a character does. -/
def read (text : String) : Except ReadFault Json := readCharacters text.length text.toList

/-- The most arrays and objects inside each other in a text that is transferred. -/
def maxNesting : Nat := 940

/-- Reads a text that came as bytes, where a byte order mark in front is no part of it. -/
def readTransferred (text : String) : Except ReadFault Json :=
  match text.toList with
  | '\uFEFF' :: rest => readCharacters maxNesting rest
  | characters => readCharacters maxNesting characters

end Storyboard.Json

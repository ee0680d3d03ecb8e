/-
This file encodes and decodes text in addresses.
-/

import Storyboard.Text.Utf8

namespace Storyboard.Text.Percent

/-- Characters that stand for themselves in every part of an address. -/
def isUnreserved (character : Char) : Bool :=
  character.isAlphanum || character ∈ ['-', '.', '_', '~']

/-- A byte as a percent sign and two capital digits. -/
def escapeByte (byte : UInt8) : List Char :=
  '%' :: (hexText 2 byte.toNat).map Char.toUpper

/-- Encodes a value of a query, where a space becomes a plus sign. -/
def encodeQuery (text : String) : String :=
  String.ofList (text.toList.flatMap fun character =>
    if isUnreserved character then [character]
    else if character = ' ' then ['+']
    else (Utf8.encodeCode character.toNat).flatMap escapeByte)

/-- A character that a query holds as it is. -/
def isQueryCharacter (character : Char) : Bool :=
  0x20 < character.toNat && character.toNat < 0x7F && !(character ∈ ['"', '#', '<', '>'])

/-- Escapes whatever a query cannot hold. Escapes that are there already stay. -/
def escapeQuery (text : List Char) : String :=
  String.ofList (text.flatMap fun character =>
    if isQueryCharacter character then [character]
    else (Utf8.encodeCode character.toNat).flatMap escapeByte)

/-- The bytes of text in plain characters, with every escape of two digits decoded. -/
def decodeBytes : List Char → List UInt8
  | '%' :: high :: low :: rest =>
      match hexValue? high, hexValue? low with
      | some upper, some lower => UInt8.ofNat (16 * upper + lower) :: decodeBytes rest
      | _, _ => UInt8.ofNat '%'.toNat :: decodeBytes (high :: low :: rest)
  | character :: rest => UInt8.ofNat character.toNat :: decodeBytes rest
  | [] => []

/-- Characters of the first 128 code points. -/
def isPlain (character : Char) : Bool := character.toNat < 0x80

/--
Decodes escapes. Each longest run of plain characters is decoded on its own, so that the bytes of one
character never reach over another character.
-/
def decodeRuns : (fuel : Nat) → List Char → List Char
  | 0, characters => characters
  | fuel + 1, characters =>
      let run := characters.takeWhile isPlain
      match characters.dropWhile isPlain with
      | [] => Utf8.repair (decodeBytes run)
      | character :: rest => Utf8.repair (decodeBytes run) ++ character :: decodeRuns fuel rest

/-- Decodes the escapes of a text. -/
def decode (text : String) : String :=
  String.ofList (decodeRuns text.length.succ text.toList)

end Storyboard.Text.Percent

/-
This file quotes text for messages.
-/

import Storyboard.Text.Hex
import Storyboard.Text.Printable

namespace Storyboard.Text.Quoted

/-- The escape of a character that does not stand for itself. -/
def escapeCode (code : Nat) : List Char :=
  if code < 0x100 then '\\' :: 'x' :: hexText 2 code
  else if code < 0x10000 then '\\' :: 'u' :: hexText 4 code
  else '\\' :: 'U' :: hexText 8 code

/-- One character between quotes. -/
def encodeCharacter (quote character : Char) : List Char :=
  if character = quote ∨ character = '\\' then ['\\', character]
  else if character = '\n' then ['\\', 'n']
  else if character = '\r' then ['\\', 'r']
  else if character = '\t' then ['\\', 't']
  else if isPrintable character then [character]
  else escapeCode character.toNat

/-- Single quotes serve unless the text holds one of them and no double quote. -/
def quoteFor (characters : List Char) : Char :=
  if '\'' ∈ characters ∧ '"' ∉ characters then '"' else '\''

/-- Text between quotes, with what is not printable escaped. -/
def encode (text : String) : String :=
  let quote := quoteFor text.toList
  String.ofList (quote :: text.toList.flatMap (encodeCharacter quote) ++ [quote])

end Storyboard.Text.Quoted

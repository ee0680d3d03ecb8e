/-
This file reads the loosely written numbers of raw records.
-/

import Storyboard.Json.Basic
import Storyboard.Number.Basic
import Storyboard.Number.Numeral
import Storyboard.Text.Blank
import Storyboard.Text.Digit

namespace Storyboard.Measure

/-- Characters of the first 128 code points. -/
def isPlain (character : Char) : Bool := character.toNat < 0x80

/-- The blanks that may stand around a number in plain characters. -/
def isPlainBlank (character : Char) : Bool :=
  character = ' ' || (0x09 ≤ character.toNat && character.toNat ≤ 0x0D)

/-- The plain counterpart of a character: blanks become spaces, and digits of any script plain digits. -/
def plainCharacter? (character : Char) : Option Char :=
  if character.toNat < 0x7F then some character
  else if Text.isBlank character then some ' '
  else (Text.digitValue? character).map fun value => Char.ofNat (0x30 + value)

/-- A text in plain characters, where one with other characters may still hold a number. -/
def plainText? (characters : List Char) : Option (List Char) :=
  if characters.all isPlain then some characters else characters.mapM plainCharacter?

/-- The number that a text holds. -/
def ofText? (text : String) : Option Double := do
  let plain ← plainText? text.toList
  let digits ← Numeral.joinDigits? ' ' (Text.trimBy isPlainBlank plain)
  Numeral.double? digits

def finite? (value : Double) : Option Double := if value.isFinite then some value else none

/--
The number that a value stands for, if it is a finite one. A whole number too large for any finite one
is refused.
-/
def ofJson? : Json → Except NumberFault (Option Double)
  | .int value =>
      let nearest := Double.ofInt value
      if nearest.isFinite then .ok (some nearest) else .error .tooLarge
  | .double value => .ok (finite? value)
  | .string text => .ok ((ofText? text).bind finite?)
  | _ => .ok none

/-- The number that a value stands for, or a default. -/
def ofJson (value : Json) (default : Double) : Except NumberFault Double := do
  return (← ofJson? value).getD default

end Storyboard.Measure

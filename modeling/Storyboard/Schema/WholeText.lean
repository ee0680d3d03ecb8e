/-
This file reads whole numbers from text, where more ways to write one are understood than in JSON.
-/

import Storyboard.Number.Numeral
import Storyboard.Schema.Issue
import Storyboard.Text.Blank

namespace Storyboard.Schema

/-- White space around a number. The separators of information are not among it. -/
def isWhiteSpace (character : Char) : Bool :=
  Text.isBlank character && !(0x1C ≤ character.toNat && character.toNat ≤ 0x1F)

/-- Drops underscores, which stand neither at an end nor side by side. -/
def withoutUnderscores? (characters : List Char) : Option (List Char) :=
  if characters.head? = some '_' ∨ characters.getLast? = some '_' then none
  else if (characters.zip characters.tail).any (· = ('_', '_')) then none
  else some (characters.filter (· ≠ '_'))

namespace WholeText

/-- Drops a plus in front, unless a minus follows it. -/
def withoutPlus : List Char → List Char
  | '+' :: '-' :: rest => '+' :: '-' :: rest
  | '+' :: rest => rest
  | characters => characters

/--
What stands behind zeros and underscores: a digit or a minus, or a point with the last character before
it, or that character alone at the end.
-/
def behindZeros? (last : Char) : List Char → Option (List Char)
  | [] => some [last]
  | character :: rest =>
      if character = '0' ∨ character = '_' then behindZeros? character rest
      else if character = '.' then some (last :: character :: rest)
      else if character = '-' ∨ character.isDigit then some (character :: rest)
      else none

/-- Drops zeros in front. Only a digit or a minus may stand there. -/
def withoutLeadingZeros? : List Char → Option (List Char)
  | [] => none
  | character :: rest =>
      if character = '0' then behindZeros? character rest
      else if character = '-' ∨ character.isDigit then some (character :: rest)
      else none

/-- Drops a point with the zeros behind it, of which there must be one. -/
def withoutZeroFraction (characters : List Char) : List Char :=
  match characters.span (· ≠ '.') with
  | (whole, '.' :: '0' :: fraction) => if fraction.all (· = '0') then whole else characters
  | _ => characters

/-- The most characters of a number, its sign among them. -/
def maxCharacters : Nat := 4300

/-- Reads digits behind an optional minus. A zero in front stands alone. -/
def plain (characters : List Char) : Except IssueKind Int :=
  let (negative, unsigned) := match characters with
    | '-' :: rest => (true, rest)
    | _ => (false, characters)
  let (digits, rest) := match unsigned with
    | '0' :: rest => (['0'], rest)
    | _ => Numeral.takeDigits unsigned
  let magnitude : Int := Numeral.digitsValue digits
  if maxCharacters < digits.length + (if negative then 1 else 0) then .error .oversizedWhole
  else if digits.isEmpty || !rest.isEmpty then .error .unreadableWhole
  else .ok (if negative then -magnitude else magnitude)

def read (text : String) : Except IssueKind Int :=
  match withoutLeadingZeros? (withoutPlus (Text.trimBy isWhiteSpace text.toList)) with
  | none => .error .unreadableWhole
  | some characters =>
      let whole := withoutZeroFraction characters
      plain ((withoutUnderscores? whole).getD whole)

end WholeText

end Storyboard.Schema

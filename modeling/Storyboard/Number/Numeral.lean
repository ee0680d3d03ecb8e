/-
This file reads numbers that are written in decimal digits.
-/

import Storyboard.Number.Double

namespace Storyboard.Numeral

/-- Splits off the decimal digits in front. -/
def takeDigits (characters : List Char) : List Char × List Char := characters.span Char.isDigit

def digitsValue (digits : List Char) : Nat :=
  digits.foldl (fun value digit => value * 10 + (digit.toNat - 0x30)) 0

/-- Splits off a sign, where a missing sign counts as plus. -/
def takeSign : List Char → Bool × List Char
  | '-' :: rest => (true, rest)
  | '+' :: rest => (false, rest)
  | characters => (false, characters)

/-- Splits off an exponent, if its letter is followed by a number. -/
def takeExponent (characters : List Char) : Option Int × List Char :=
  match characters with
  | letter :: rest =>
      if letter = 'e' ∨ letter = 'E' then
        let (negative, digitsOn) := takeSign rest
        match takeDigits digitsOn with
        | ([], _) => (none, characters)
        | (digits, after) =>
            (some (if negative then -(digitsValue digits : Int) else digitsValue digits), after)
      else (none, characters)
  | [] => (none, characters)

/-- Splits off a point with the digits that follow, of which there may be none. -/
def takeFraction : List Char → List Char × List Char
  | '.' :: rest => takeDigits rest
  | characters => ([], characters)

/-- The number that a word stands for. -/
def wordValue? (negative : Bool) (characters : List Char) : Option Double :=
  let word := String.ofList (characters.map Char.toLower)
  if word = "inf" ∨ word = "infinity" then some (.infinite negative)
  else if word = "nan" then some .nan
  else none

/-- Reads a text that is one number: a sign, digits around a point, an exponent, or a word. -/
def double? (characters : List Char) : Option Double :=
  let (negative, unsigned) := takeSign characters
  match wordValue? negative unsigned with
  | some value => some value
  | none =>
      let (whole, afterWhole) := takeDigits unsigned
      let (fraction, afterFraction) := takeFraction afterWhole
      let (exponent, rest) := takeExponent afterFraction
      if (whole.isEmpty && fraction.isEmpty) || !rest.isEmpty then none
      else some (.ofDecimal negative (digitsValue (whole ++ fraction)) (exponent.getD 0 - fraction.length))

/-- Drops the underscores, each of which must stand between two digits. -/
def joinDigits? (previous : Char) : List Char → Option (List Char)
  | [] => some []
  | '_' :: digit :: rest =>
      if previous.isDigit && digit.isDigit then (joinDigits? digit rest).map (digit :: ·) else none
  | '_' :: [] => none
  | character :: rest => (joinDigits? character rest).map (character :: ·)

end Storyboard.Numeral

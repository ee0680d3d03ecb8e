/-
This file writes binary64 numbers in decimal: with the fewest digits that read back, or to three places.
-/

import Storyboard.Number.Double

namespace Storyboard

/-- A decimal stands for its digits times a power of ten. -/
structure Decimal where
  digits : Nat
  exponent : Int
  deriving DecidableEq, Repr

namespace Double

/-- The reals that round to a number, in quarter steps, with both ends. -/
structure Neighbourhood where
  lower : Nat
  upper : Nat
  /-- The ends round to the number as well. -/
  closed : Bool

/-- The neighbourhood is half as wide below a power of two, and closed for an even significand. -/
def neighbourhood (steps : Nat) : Neighbourhood :=
  let gap := twoTo (shiftFor steps)
  let gapBelow := if steps = twoTo 52 * gap ∧ 1 < gap then gap / 2 else gap
  { lower := 4 * steps - 2 * gapBelow
    upper := 4 * steps + 2 * gap
    closed := steps / gap % 2 = 0 }

/-- A quotient of quarter steps lies in the neighbourhood. -/
def Neighbourhood.holds (range : Neighbourhood) (numerator denominator : Nat) : Bool :=
  if range.closed then
    decide (range.lower * denominator ≤ numerator ∧ numerator ≤ range.upper * denominator)
  else
    decide (range.lower * denominator < numerator ∧ numerator < range.upper * denominator)

/-- A power of ten as a quotient. -/
def powerOfTen (exponent : Int) : Nat × Nat :=
  if 0 ≤ exponent then (tenTo exponent.toNat, 1) else (1, tenTo exponent.natAbs)

/-- The power of ten is at most the magnitude. -/
def reachesPower (steps : Nat) (exponent : Int) : Bool :=
  let (numerator, denominator) := powerOfTen exponent
  numerator * stepsPerUnit ≤ steps * denominator

/-- The exponent of the leading decimal digit of a positive magnitude. -/
def leadingExponent (steps : Nat) : Int :=
  let estimate := ((steps.log2 : Int) - 1074) * 1233 / 4096
  if reachesPower steps (estimate + 1) then estimate + 1
  else if reachesPower steps estimate then estimate
  else estimate - 1

/-- The decimals of one grid that lie next to a magnitude, the nearer one that reads back. -/
def onGrid? (steps : Nat) (exponent : Int) : Option Nat :=
  let (numerator, denominator) := powerOfTen exponent
  let unit := numerator * stepsPerUnit
  let below := steps * denominator / unit
  let rest := steps * denominator % unit
  let range := neighbourhood steps
  let reads := fun digits : Nat => range.holds (4 * digits * unit) denominator
  let aboveIsNearer := unit < 2 * rest ∨ (unit = 2 * rest ∧ below % 2 = 1)
  match reads below, reads (below + 1) with
  | true, true => some (if aboveIsNearer then below + 1 else below)
  | true, false => some below
  | false, true => some (below + 1)
  | false, false => none

/-- Tries grids of more and more digits. -/
def shortestFrom (steps : Nat) (leading : Int) : (tries : Nat) → (places : Nat) → Decimal
  | 0, places => ⟨roundQuotient steps stepsPerUnit, leading - places⟩
  | tries + 1, places =>
      match onGrid? steps (leading - places) with
      | some digits => ⟨digits, leading - places⟩
      | none => shortestFrom steps leading tries (places + 1)

/-- The decimal of fewest digits that reads back as a positive magnitude, the nearest of those. -/
def shortest (steps : Nat) : Decimal := shortestFrom steps (leadingExponent steps) 17 0

end Double

/-- The digits of a natural number, most significant first. -/
def decimalDigits (value : Nat) : List Char := (Nat.repr value).toList

def dropTrailingZeros (digits : List Char) : List Char :=
  (digits.reverse.dropWhile (· = '0')).reverse

/-- How numbers of unbounded size are written: where positional text ends, and the words for the rest. -/
structure NumberLayout where
  /-- The least exponent of the leading digit in positional text. -/
  positionalFrom : Int
  /-- The first exponent of the leading digit past positional text. -/
  positionalBelow : Int
  /-- The least number of digits of a written exponent. -/
  exponentWidth : Nat
  undefinedWord : String
  infiniteWord : String

namespace NumberLayout

/-- Values in messages and markup use lower case words. -/
def plain : NumberLayout := ⟨-4, 16, 2, "nan", "inf"⟩

/-- Script literals use the words of the script language. -/
def script : NumberLayout := ⟨-4, 16, 2, "NaN", "Infinity"⟩

/-- The exponent with its sign, padded with zeros. -/
def exponentText (layout : NumberLayout) (exponent : Int) : List Char :=
  let digits := decimalDigits exponent.natAbs
  (if exponent < 0 then '-' else '+') ::
    (List.replicate (layout.exponentWidth - digits.length) '0' ++ digits)

/-- Writes digits whose first one has the given exponent. -/
def digitsText (layout : NumberLayout) (digits : List Char) (leading : Int) : List Char :=
  if layout.positionalFrom ≤ leading ∧ leading < layout.positionalBelow then
    if leading < 0 then
      ['0', '.'] ++ List.replicate (leading.natAbs - 1) '0' ++ digits
    else
      let whole := leading.toNat + 1
      let fraction := digits.drop whole
      digits.take whole ++ List.replicate (whole - digits.length) '0' ++ ['.'] ++
        (if fraction.isEmpty then ['0'] else fraction)
  else
    let fraction := digits.drop 1
    digits.take 1 ++ (if fraction.isEmpty then [] else '.' :: fraction) ++ 'e' ::
      layout.exponentText leading

/-- Writes a number with the fewest digits that read back. -/
def text (layout : NumberLayout) : Double → String
  | .nan => layout.undefinedWord
  | .infinite negative => if negative then "-" ++ layout.infiniteWord else layout.infiniteWord
  | .finite negative steps _ =>
      let body :=
        if steps = 0 then ['0', '.', '0']
        else
          let decimal := Double.shortest steps
          let digits := decimalDigits decimal.digits
          layout.digitsText (dropTrailingZeros digits) (decimal.exponent + digits.length - 1)
      String.ofList (if negative then '-' :: body else body)

end NumberLayout

namespace Double

/-- The places that styles keep. -/
def stylePlaces : Nat := 3

/-- The nearest count of thousandths of a magnitude, a half going to the even count. -/
def thousandths (steps : Nat) : Nat := roundQuotient (steps * tenTo stylePlaces) stepsPerUnit

/-- Rounds a number to three decimal places. -/
def roundPlaces : Double → Double
  | .finite negative steps _ => ofDecimal negative (thousandths steps) (-stylePlaces)
  | value => value

/-- Writes a count of thousandths with a point and three places. -/
def placesText (count : Nat) : List Char :=
  let fraction := decimalDigits (count % tenTo stylePlaces)
  decimalDigits (count / tenTo stylePlaces) ++ '.' ::
    (List.replicate (stylePlaces - fraction.length) '0' ++ fraction)

/-- Drops one point at the end. -/
def dropTrailingPoint (digits : List Char) : List Char :=
  (digits.reverse.dropWhile (· = '.')).reverse

/--
Writes a number for a style: whole numbers without a point, others with at most three places and no
zeros at their end. A number that rounds to nothing has no sign.
-/
def styleText : Double → String
  | .nan => NumberLayout.plain.undefinedWord
  | .infinite negative => NumberLayout.plain.text (.infinite negative)
  | .finite negative steps _ =>
      let magnitude :=
        if steps % stepsPerUnit = 0 then decimalDigits (steps / stepsPerUnit)
        else dropTrailingPoint (dropTrailingZeros (placesText (thousandths steps)))
      String.ofList (if negative ∧ magnitude ≠ ['0'] then '-' :: magnitude else magnitude)

end Double

end Storyboard

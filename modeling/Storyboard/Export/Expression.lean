/-
This file defines the arithmetic expressions with which the script of a prototype counts its screens.
-/

namespace Storyboard.Navigation

/-- An expression over the current position and the number of screens. -/
inductive Expression where
  | index
  | count
  | literal (value : Nat)
  | sum (left right : Expression)
  | difference (left right : Expression)
  | remainder (left right : Expression)
  deriving DecidableEq, Repr

namespace Expression

/-- Sums and differences bind less than remainders, and remainders less than single operands. -/
def level : Expression → Nat
  | .index | .count | .literal _ => 0
  | .remainder .. => 1
  | .sum .. | .difference .. => 2

/-- Text in parentheses, where they are needed. -/
def grouped (needed : Bool) (text : String) : String := if needed then "(" ++ text ++ ")" else text

/-- The written form, with names for the position and the number of screens, and no needless parentheses. -/
def text (index count : String) : Expression → String
  | .index => index
  | .count => count
  | .literal value => toString value
  | .sum left right =>
      left.text index count ++ " + " ++ grouped (1 < right.level) (right.text index count)
  | .difference left right =>
      left.text index count ++ " - " ++ grouped (1 < right.level) (right.text index count)
  | .remainder left right =>
      grouped (1 < left.level) (left.text index count) ++ " % " ++
        grouped (0 < right.level) (right.text index count)

/-- The value that a browser computes. A remainder has the sign of the number that is divided. -/
def value (index count : Int) : Expression → Int
  | .index => index
  | .count => count
  | .literal value => value
  | .sum left right => left.value index count + right.value index count
  | .difference left right => left.value index count - right.value index count
  | .remainder left right => (left.value index count).tmod (right.value index count)

end Expression

end Storyboard.Navigation

/-
This file defines the paints and the text style of a node.
-/

import Storyboard.Number.Basic

namespace Storyboard

/-- A solid colour as it is written in a style sheet, with the weight of its line. -/
structure Paint where
  red : Nat
  green : Nat
  blue : Nat
  alpha : Double
  css : String
  weight : Double := .zero
  deriving DecidableEq, Inhabited

/-- Writes a colour of three channels and an alpha value. -/
def Paint.colorText (red green blue : Nat) (alpha : Double) : String :=
  s!"rgba({red}, {green}, {blue}, {alpha.styleText})"

/-- How text is set. -/
structure TextStyle where
  fontFamily : String
  fontSize : Number
  fontWeight : Number
  textAlign : String := "left"
  letterSpacing : Double := .zero
  deriving DecidableEq, Inhabited

/-- What a node is painted with. -/
structure Styles where
  fills : List Paint := []
  strokes : List Paint := []
  cornerRadius : Double := .zero
  textStyle? : Option TextStyle := none
  deriving DecidableEq, Inhabited

namespace Styles

/-- The first fill. -/
def fill? (styles : Styles) : Option Paint := styles.fills.head?

/-- The first stroke. -/
def stroke? (styles : Styles) : Option Paint := styles.strokes.head?

/-- There is a fill or a stroke. -/
def hasColor (styles : Styles) : Bool := !styles.fills.isEmpty || !styles.strokes.isEmpty

end Styles

end Storyboard

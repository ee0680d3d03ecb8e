/-
This file resolves the paints of raw records.
-/

import Storyboard.Design.Styles
import Storyboard.Document.Measure
import Storyboard.Text.Case

namespace Storyboard.Paints

def channelMax : Nat := 255

def half : Double := .ofDecimal false 5 (-1)

/-- A fraction as a colour channel, where a half is rounded up. -/
def channel (fraction : Double) : Nat :=
  (((fraction.clampUnit.multiply (.ofInt channelMax)).add half).floor?.getD 0).toNat

/-- The channels of a colour and its alpha value. -/
structure Channels where
  red : Nat
  green : Nat
  blue : Nat
  alpha : Double
  deriving DecidableEq

/-- A colour as it is written in a style sheet. -/
def Channels.css (channels : Channels) : String :=
  Paint.colorText channels.red channels.green channels.blue channels.alpha

/-- The channels of a raw colour under an opacity. A missing channel is dark, a missing alpha value full. -/
def channels (color opacity : Json) : Except NumberFault Channels := do
  let fields := color.fields?.getD []
  let alpha ← Measure.ofJson (Json.field fields "a") .one
  let opacity ← Measure.ofJson opacity .one
  let red ← Measure.ofJson (Json.field fields "r") .zero
  let green ← Measure.ofJson (Json.field fields "g") .zero
  let blue ← Measure.ofJson (Json.field fields "b") .zero
  return {
    red := channel red
    green := channel green
    blue := channel blue
    alpha := (alpha.clampUnit.multiply opacity.clampUnit).roundPlaces }

/-- The word of a raw paint for its type, in capitals. -/
def typeWord (fields : List (String × Json)) : Except NumberFault String := do
  return Text.toCapitals (← (Json.field fields "type").word "")

/-- A solid paint with a colour. -/
def solid? (fields : List (String × Json)) (weight : Double) : Except NumberFault (Option Paint) :=
  match Json.field fields "color" with
  | .object color => do
      let resolved ← channels (.object color) (Json.field fields "opacity")
      return some {
        red := resolved.red
        green := resolved.green
        blue := resolved.blue
        alpha := resolved.alpha
        css := resolved.css
        weight }
  | _ => .ok none

/-- A visible solid paint with a colour. Any other value is passed over. -/
def paint? (value : Json) (weight : Double) : Except NumberFault (Option Paint) :=
  match value with
  | .object fields =>
      if (Json.field fields "visible").isFalse then .ok none
      else do
        if (← typeWord fields) = "SOLID" then solid? fields weight else return none
  | _ => .ok none

/-- The paints in a raw list. -/
def ofJson (paints : Json) (weight : Double) : Except NumberFault (List Paint) := do
  return (← (paints.items?.getD []).mapM (paint? · weight)).filterMap id

/-- The first paint in a raw list, without any weight. -/
def first? (paints : Json) : Except NumberFault (Option Paint) := do
  return (← ofJson paints .zero).head?

/-- A raw paint is an image, even when it is not visible. -/
def isImage : Json → Except NumberFault Bool
  | .object fields => do return (← typeWord fields) = "IMAGE"
  | _ => .ok false

/-- Some paint in a raw list is an image. None is looked at after the first image. -/
def hasImage (paints : Json) : Except NumberFault Bool := (paints.items?.getD []).anyM isImage

end Storyboard.Paints

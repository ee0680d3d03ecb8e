/-
This file defines the place and the size of a node.
-/

import Storyboard.Number.Basic

namespace Storyboard

/-- Where a node lies, how large it is, and how it is turned and faded. -/
structure Layout where
  x : Number
  y : Number
  width : Number
  height : Number
  rotation : Number := .double .zero
  opacity : Number := .double .one
  deriving DecidableEq, Inhabited

namespace Layout

/-- The layout of a node without any place or size. -/
def empty : Layout := { x := .double .zero, y := .double .zero, width := .double .zero, height := .double .zero }

def area (layout : Layout) : Number := layout.width.multiply layout.height

/-- A point lies in the box, whose edges belong to it. -/
def contains (layout : Layout) (x y : Number) : Bool :=
  layout.x.atMost x && x.atMost (layout.x.add layout.width) &&
    layout.y.atMost y && y.atMost (layout.y.add layout.height)

/-- The product of width and height can be formed. -/
def hasArea (layout : Layout) : Bool := layout.width.canMeet layout.height

/-- The far edges can be formed as far as they are needed to tell whether a point lies in the box. -/
def canLocate (layout : Layout) (x y : Number) : Bool :=
  !layout.x.atMost x ||
    layout.x.canMeet layout.width &&
      (!x.atMost (layout.x.add layout.width) || !layout.y.atMost y || layout.y.canMeet layout.height)

/-- No size is negative. -/
def hasProperSize (layout : Layout) : Bool := !layout.width.isNegative && !layout.height.isNegative

end Layout

end Storyboard

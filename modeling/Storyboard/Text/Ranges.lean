/-
This file defines membership of a character in ranges of code points.
-/

namespace Storyboard.Text

/-- A code point lies in one of the ranges, both ends included. -/
def inRanges (ranges : List (Nat × Nat)) (code : Nat) : Bool :=
  ranges.any fun (first, last) => first ≤ code && code ≤ last

end Storyboard.Text

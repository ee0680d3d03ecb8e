/-
This file adds nodes to a document in which few were found.
-/

import Storyboard.Document.Reached

namespace Storyboard.Fallback

/--
The layers that are large enough and whose id is new, where each one found makes its own id known.
-/
def candidates (config : Config) (known : List String) : List Sighting → Except NumberFault (List Layer)
  | [] => .ok []
  | sighting :: rest => do
      let id ← sighting.id
      if id ∈ known then candidates config known rest
      else do
        let layer ← sighting.layer config
        if layer.layout.area.atMost config.fallbackMinArea then candidates config known rest
        else return layer :: (← candidates config (id :: known) rest)

/-- Reading order goes from top to bottom, and from left to right on the same height. -/
def readsBefore (left right : Layer) : Bool :=
  left.layout.y.less right.layout.y ||
    (left.layout.y.same right.layout.y && left.layout.x.atMost right.layout.x)

/-- The position of the first screen that takes an added layer: not text, and around its corner. -/
def host? (config : Config) (screens : List Node) (layer : Layer) : Option Nat :=
  if Number.one.less config.maxDepth then
    screens.findIdx? fun screen =>
      decide (screen.value.type ≠ .text) && screen.value.layout.contains layer.layout.x layer.layout.y
  else none

/-- Puts each added layer after the children of its screen, or after all screens when it has none. -/
def merge (config : Config) (screens : List Node) (added : List Layer) : List Node :=
  let hosted := screens.mapIdx fun index screen =>
    let taken := added.filter (host? config screens · = some index)
    .node screen.value (screen.children ++ taken.map Tree.leaf)
  hosted ++ (added.filter (host? config screens · = none)).map Tree.leaf

end Storyboard.Fallback

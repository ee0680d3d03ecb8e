/-
This file classifies whole designs and counts their categories.
-/

import Storyboard.Classify.Rule
import Storyboard.Design.Node

namespace Storyboard

/-- A layer with its classification computed afresh. -/
def Layer.classified (layer : Layer) : Layer := { layer with classification? := some layer.classify }

/-- A design whose layers are all classified afresh. -/
def Design.classified (design : Design) : Design :=
  { design with screens := Forest.map Layer.classified design.screens }

/-- Counts the occurrences of each name, in the order of the names. -/
def countNames (names : List String) : List (String × Nat) :=
  let distinct := (names.mergeSort fun left right => decide (left ≤ right)).eraseDups
  distinct.map fun name => (name, names.count name)

def Design.categoryCounts (design : Design) : List (String × Nat) :=
  countNames (design.layers.map (·.classification.category))

end Storyboard

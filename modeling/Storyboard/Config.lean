/-
This file defines the limits and defaults under which designs are built.
-/

import Storyboard.Design.NodeType
import Storyboard.Number.Basic

namespace Storyboard

/-- Why limits are refused. -/
inductive ConfigFault where
  | depthTooSmall
  | negativeThreshold
  deriving DecidableEq, Repr

def ConfigFault.message : ConfigFault → String
  | .depthTooSmall => "max_depth must be at least 1"
  | .negativeThreshold => "low_yield_threshold must be non-negative"

/-- The first fault of two limits, if there is any. -/
def ConfigFault.of? (maxDepth lowYieldThreshold : Number) : Option ConfigFault :=
  if maxDepth.less .one then some .depthTooSmall
  else if lowYieldThreshold.isNegative then some .negativeThreshold
  else none

/-- The limits and defaults under which designs are built. -/
structure Config where
  /-- The greatest depth of a screen. -/
  maxDepth : Number := .whole 10
  /-- A second pass runs when fewer nodes are found. -/
  lowYieldThreshold : Number := .whole 5
  /-- A node without text or colour counts when it is larger than this in both directions. -/
  minVisualSize : Number := .double (.ofInt 10)
  /-- The second pass takes nodes of a greater area. -/
  fallbackMinArea : Number := .double (.ofInt 16)
  fallbackFont : String := "Inter"
  defaultFontSize : Number := .double (.ofInt 14)
  defaultFontWeight : Number := .whole 400
  hasNoFault : ConfigFault.of? maxDepth lowYieldThreshold = none := by decide +kernel
  deriving DecidableEq

namespace Config

/-- The limits and defaults that hold unless others are set. -/
def standard : Config := {}

instance : Inhabited Config := ⟨.standard⟩

/-- Sets the two limits of a configuration, after checking both. -/
def withLimits (config : Config) (maxDepth lowYieldThreshold : Number) : Except ConfigFault Config :=
  match outcome : ConfigFault.of? maxDepth lowYieldThreshold with
  | some fault => .error fault
  | none => .ok { config with maxDepth, lowYieldThreshold, hasNoFault := outcome }

/-- Some depth is left for children at a depth. -/
def allows (config : Config) (depth : Nat) : Bool := !config.maxDepth.atMost (.whole (depth + 1))

/-- The children of a node at this depth come into view. Text has none. -/
def opens (config : Config) (type : NodeType) (depth : Nat) : Bool :=
  type ≠ .text && config.allows depth

end Config

end Storyboard

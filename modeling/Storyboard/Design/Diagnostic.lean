/-
This file defines the diagnostics that stand beside a design.
-/

import Storyboard.Json.Basic

namespace Storyboard

/-- A diagnostic reports what was cut or added while a design was built. -/
inductive Diagnostic where
  /-- The children of a node lie deeper than allowed. -/
  | depthExceeded (nodeId : String) (depth : Nat) (maxDepth : Number) (truncatedChildren : Nat)
  /-- Few nodes were found, so that a second pass added some. -/
  | lowYield (primaryCount : Nat) (threshold : Number) (fallbackIds : List String)
  deriving DecidableEq

namespace Diagnostic

/-- The word for the kind of diagnostic. -/
def code : Diagnostic → String
  | .depthExceeded .. => "depth_exceeded"
  | .lowYield .. => "low_yield"

def message : Diagnostic → String
  | .depthExceeded nodeId _ maxDepth truncatedChildren =>
      s!"Node {nodeId} exceeds max depth {maxDepth.plainText}; {truncatedChildren} children truncated"
  | .lowYield primaryCount threshold fallbackIds =>
      s!"Primary pass found {primaryCount} elements (threshold {threshold.plainText}); " ++
        s!"fallback pass added {fallbackIds.length}"

/-- The counts of a diagnostic. -/
def details : Diagnostic → List (String × Json)
  | .depthExceeded nodeId depth maxDepth truncatedChildren =>
      [("node_id", .string nodeId), ("depth", .int depth), ("max_depth", maxDepth.json),
        ("truncated_children", .int truncatedChildren)]
  | .lowYield primaryCount threshold fallbackIds =>
      [("primary_count", .int primaryCount), ("threshold", threshold.json),
        ("fallback_count", .int fallbackIds.length)]

end Diagnostic

end Storyboard

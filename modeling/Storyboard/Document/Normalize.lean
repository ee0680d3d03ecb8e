/-
This file builds designs from raw documents.
-/

import Storyboard.Document.Fallback
import Storyboard.Document.Roots

namespace Storyboard

/-- Why a raw document gives no design. -/
inductive DocumentFault where
  | shape (fault : ShapeFault)
  /-- Nothing was found below this many roots. -/
  | nothingFound (roots : Nat)
  | number (fault : NumberFault)
  deriving DecidableEq, Repr

namespace Document

/--
The design of the roots. When few nodes are found, a second pass adds some, and the number that was asked for is written
out.
-/
def designOf (config : Config) (roots : List Outline) : Except NumberFault Design := do
  let screens ← arrangeRoots config 0 roots
  let truncations ← truncationsOfRoots config 0 roots
  let primaryCount := Forest.size screens
  if (Number.whole primaryCount).less config.lowYieldThreshold then
    let known := (Forest.preorder screens).map (·.id)
    let found ← Fallback.candidates config known (reachedOfRoots config 0 roots)
    let _ ← config.lowYieldThreshold.json.written
    let added := found.mergeSort Fallback.readsBefore
    return {
      screens := Fallback.merge config screens added
      diagnostics :=
        truncations ++ [.lowYield primaryCount config.lowYieldThreshold (added.map (·.id))] }
  else return { screens, diagnostics := truncations }

/-- The design of a raw document, which has at least one screen. -/
def normalize (config : Config) (raw : Json) : Except DocumentFault Design := do
  let roots ← (roots raw).mapError .shape
  let design ← (designOf config roots).mapError .number
  if design.screens.isEmpty then .error (.nothingFound roots.length)
  else return design

end Document

end Storyboard

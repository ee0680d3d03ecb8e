/-
This file defines drafts: designs that are worked on, in which one place may stand empty.
-/

import Storyboard.Conversion
import Storyboard.Design.Arguments

namespace Storyboard

/-- An empty place stands after the screens, or after the children of the first node of an id. -/
inductive Vacancy where
  | amongScreens
  | below (parentId : String)
  deriving DecidableEq, Repr

/-- A draft has an empty place after a node was moved that does not exist. -/
structure Draft where
  design : Design
  vacancy? : Option Vacancy := none
  deriving Inhabited

namespace Draft

/-- The design of a draft that has no empty place. -/
def whole (draft : Draft) : Except Failure Design :=
  if draft.vacancy?.isNone then .ok draft.design else .error .missingNode

/-- The ids of the nodes before the empty place. -/
def idsInReach (draft : Draft) : List String :=
  let ids := draft.design.layers.map (·.id)
  match draft.vacancy? with
  | some (.below parentId) =>
      let parentSize := (draft.design.node? parentId).elim 0 fun parent => parent.preorder.length
      ids.take ((ids.takeWhile (· ≠ parentId)).length + parentSize)
  | _ => ids

/-- The first node of an id, if there is one. Behind the empty place none is found. -/
def node? (draft : Draft) (id : String) : Except Failure (Option Node) :=
  if id ∈ draft.idsInReach then .ok (draft.design.node? id)
  else if draft.vacancy?.isSome then .error .missingNode
  else .ok none

/-- The empty place lies below the first node of an id. -/
def isEmptyBelow (draft : Draft) (id : String) : Bool :=
  match draft.vacancy? with
  | some (.below parentId) => draft.design.encloses id parentId
  | _ => false

/-- The empty place is met when the design is drawn. -/
def isEmptyWhereDrawn (draft : Draft) : Bool :=
  match draft.vacancy? with
  | none => false
  | some .amongScreens => true
  | some (.below parentId) =>
      draft.design.screens.any fun screen =>
        screen.value.id = parentId || screen.drawnLayers.any (·.id = parentId)

/-- The reason why changes to a node that does not exist are refused. A new layout is looked at first. -/
def refusal? : List LayerChange → Option Failure
  | [] => none
  | .layout layout :: _ => some (if layout.hasProperSize then .missingNode else .node .negativeSize)
  | _ => some .missingNode

/-- Changes the first node of an id. Changes before a refused one stay. -/
def change (draft : Draft) (id : String) (changes : List LayerChange) : Draft × Except Failure (Option Node) :=
  match draft.node? id with
  | .error failure => (draft, .error failure)
  | .ok none => (draft, (refusal? changes).elim (.ok none) .error)
  | .ok (some node) =>
      let (layer, fault?) := node.value.applyAll changes
      let changed := (draft.design.changeLayer? id fun _ => layer).getD draft.design
      let answer := match fault? with
        | some fault => .error (.node fault)
        | none => if draft.isEmptyBelow id then .error .missingNode else .ok (some (.node layer node.children))
      ({ draft with design := changed }, answer)

/-- Makes changes that are given by name, up to the first value that does not fit. -/
def changeByName (draft : Draft) (id : String) (fields : List (String × Json)) :
    Draft × Except Failure (Option Node) :=
  let changes := LayerChange.ofFields fields
  let (changed, answer) := draft.change id ((changes.takeWhile (·.isSome)).filterMap fun change => change)
  if changes.all (·.isSome) then (changed, answer) else (changed, answer.bind fun _ => .error .unfitting)

/--
Moves the first node of an id below another one, or after the screens when that one does not exist. A node
that does not exist leaves an empty place.
-/
def move (draft : Draft) (id : String) (parentId? : Option String) : Draft × Except Failure Design :=
  match draft.whole with
  | .error failure => (draft, .error failure)
  | .ok design =>
      match design.move? id parentId? with
      | some moved => ({ design := moved }, .ok moved)
      | none =>
          let vacancy := match parentId?.filter (design.node? · |>.isSome) with
            | some parentId => .below parentId
            | none => .amongScreens
          ({ design, vacancy? := some vacancy }, .error .missingNode)

def files (draft : Draft) (format : Format) (options : ExportOptions) : Except Failure (List File) :=
  if draft.isEmptyWhereDrawn then .error .missingNode else Conversion.emit draft.design format options

/-- A draft as it is drawn. -/
def rendering (draft : Draft) (format : Format) (options : ExportOptions) : Except Failure Rendering :=
  if draft.isEmptyWhereDrawn then .error .missingNode else Conversion.rendering draft.design format options

/-- Writes the screens of a draft in exchange form and reads them back as a new design. -/
def exchanged (draft : Draft) (config : Config) (asList : Bool) : Except Failure Design := do
  let page ← (Exchange.writePage (← draft.whole).screens).mapError .invalid
  Design.ofSource config (if asList then .array [page] else page)

end Draft

end Storyboard

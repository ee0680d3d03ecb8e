/-
This file lists the records of a document that come into view, without regard to whether they count.
-/

import Storyboard.Document.Arrange

namespace Storyboard

/-- A record that comes into view, with its type and its path. -/
structure Sighting where
  record : Record
  type : NodeType
  path : Path

namespace Sighting

/-- The id of the record. Its type is written out before. -/
def id (sighting : Sighting) : Except NumberFault String :=
  if sighting.record.role = .unwritten then .error .tooLong else sighting.record.idAt sighting.path

def layer (sighting : Sighting) (config : Config) : Except NumberFault Layer := do
  sighting.record.layer sighting.type (← sighting.id) config

variable {sighting : Sighting} (config : Config)

theorem layer_eq_layerAt (written : sighting.record.role ≠ .unwritten) :
    sighting.layer config = sighting.record.layerAt sighting.type sighting.path config := by
  rw [layer, id, if_neg written]
  rfl

theorem layer_of_unwritten (unwritten : sighting.record.role = .unwritten) :
    sighting.layer config = .error .tooLong := by
  rw [layer, id, if_pos unwritten]
  rfl

end Sighting

mutual

/--
The records of an outline that come into view, each one before those below it. A record whose type cannot be written
out ends every pass that comes to it.
-/
def Outline.reached (config : Config) (path : Path) (depth : Nat) : Outline → List Sighting
  | .node record children =>
      match record.role with
      | .ignored => []
      | .container => Outline.reachedFrom config path depth 0 children
      | .shown type =>
          { record, type, path } ::
            if config.opens type depth then Outline.reachedFrom config path (depth + 1) 0 children
            else []
      | .unwritten => [{ record, type := .group, path }]

/-- The records below a record that come into view, from a position on. -/
def Outline.reachedFrom (config : Config) (path : Path) (depth index : Nat) : List Outline → List Sighting
  | [] => []
  | child :: rest =>
      Outline.reached config (path.child index) depth child ++
        Outline.reachedFrom config path depth (index + 1) rest

end

/-- The records of the roots that come into view, from a position on. -/
def Document.reachedOfRoots (config : Config) (index : Nat) : List Outline → List Sighting
  | [] => []
  | root :: rest =>
      Outline.reached config (.ofIndex index) 0 root ++ Document.reachedOfRoots config (index + 1) rest

end Storyboard

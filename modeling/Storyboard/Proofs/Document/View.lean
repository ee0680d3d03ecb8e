/-
This file keeps the records in view in the shape of their outline, and states that an arrangement consists of their
layers in this shape, where those that do not count are taken out.
-/

import Storyboard.Document.Reached
import Storyboard.Proofs.Tree.Traverse

namespace Storyboard

mutual

/-- The records of an outline that come into view, each one above those that come into view below it. -/
def Outline.view (config : Config) (path : Path) (depth : Nat) : Outline → Forest Sighting
  | .node record children =>
      match record.role with
      | .ignored => []
      | .container => Outline.viewFrom config path depth 0 children
      | .shown type =>
          [.node { record, type, path }
            (if config.opens type depth then Outline.viewFrom config path (depth + 1) 0 children else [])]
      | .unwritten => [.leaf { record, type := .group, path }]

/-- The records that come into view among the children of a record, from a position on. -/
def Outline.viewFrom (config : Config) (path : Path) (depth index : Nat) : List Outline → Forest Sighting
  | [] => []
  | child :: rest =>
      Outline.view config (path.child index) depth child ++ Outline.viewFrom config path depth (index + 1) rest

end

/-- The records that come into view among roots, from a position on. -/
def Document.viewOfRoots (config : Config) (index : Nat) : List Outline → Forest Sighting
  | [] => []
  | root :: rest => Outline.view config (.ofIndex index) 0 root ++ Document.viewOfRoots config (index + 1) rest

mutual

/-- The view of an outline holds the records in view in their order. -/
theorem Outline.preorder_view (config : Config) (path : Path) (depth : Nat) :
    ∀ outline : Outline, Forest.preorder (outline.view config path depth) = outline.reached config path depth
  | .node record children => by
      rw [Outline.view, Outline.reached]
      cases role : record.role with
      | ignored => rfl
      | container => exact Outline.preorder_viewFrom config path depth 0 children
      | shown type =>
          simp only [Forest.preorder, Tree.preorder, List.append_nil]
          by_cases opens : config.opens type depth
          · rw [if_pos opens, if_pos opens, Outline.preorder_viewFrom config path (depth + 1) 0 children]
          · rw [if_neg opens, if_neg opens, Forest.preorder]
      | unwritten => rfl

/-- The view of the children of a record holds those in view in their order. -/
theorem Outline.preorder_viewFrom (config : Config) (path : Path) (depth index : Nat) :
    ∀ outlines : List Outline, Forest.preorder (Outline.viewFrom config path depth index outlines) =
      Outline.reachedFrom config path depth index outlines
  | [] => rfl
  | child :: rest => by
      rw [Outline.viewFrom, Outline.reachedFrom, Forest.preorder_append,
        Outline.preorder_view config (path.child index) depth child,
        Outline.preorder_viewFrom config path depth (index + 1) rest]

end

theorem Document.preorder_viewOfRoots (config : Config) (index : Nat) (outlines : List Outline) :
    Forest.preorder (viewOfRoots config index outlines) = reachedOfRoots config index outlines := by
  induction outlines generalizing index with
  | nil => rfl
  | cons root rest ih =>
      rw [viewOfRoots, reachedOfRoots, Forest.preorder_append, Outline.preorder_view, ih (index + 1)]

/-- The nodes of records in view: their layers in the same shape, without those that do not count. -/
def Sighting.nodes (config : Config) (sightings : Forest Sighting) : Except NumberFault (List Node) :=
  Forest.sieve (·.isVisual config) <$> Forest.traverse (·.layer config) sightings

/-- The nodes of two lists of records in view stand side by side. -/
theorem Sighting.nodes_append (config : Config) (left right : Forest Sighting) :
    nodes config (left ++ right) = (do
      let first ← nodes config left
      let others ← nodes config right
      return first ++ others) := by
  simp [nodes, Forest.traverse_append]

/-- A record in view gives its layer above the nodes below it, or these nodes alone when it does not count. -/
theorem Sighting.nodes_singleton (config : Config) (sighting : Sighting) (below : Forest Sighting) :
    nodes config [.node sighting below] = (do
      let layer ← sighting.layer config
      let inner ← nodes config below
      return if layer.isVisual config then [.node layer inner] else inner) := by
  simp only [nodes, Forest.traverse_singleton, Tree.traverse, map_bind, bind_assoc, pure_bind, map_pure,
    Forest.sieve_singleton, Tree.sieve, bind_map_left]

open Sighting

mutual

/-- An arrangement consists of the nodes of the records in view. -/
theorem Outline.arrange_eq (config : Config) (path : Path) (depth : Nat) :
    ∀ outline : Outline, outline.arrange config path depth = nodes config (outline.view config path depth)
  | .node record children => by
      rw [Outline.arrange, Outline.view]
      cases role : record.role with
      | ignored => rfl
      | container => exact Outline.arrangeFrom_eq config path depth 0 children
      | shown type =>
          rw [nodes_singleton, layer_eq_layerAt config (by simp [role])]
          by_cases opens : config.opens type depth
          · simp only [if_pos opens, Outline.arrangeFrom_eq config path (depth + 1) 0 children]
          · simp only [if_neg opens]
            rfl
      | unwritten =>
          rw [Tree.leaf, nodes_singleton, layer_of_unwritten config role]
          rfl

/-- An arrangement of the children of a record consists of the nodes of those in view. -/
theorem Outline.arrangeFrom_eq (config : Config) (path : Path) (depth index : Nat) :
    ∀ outlines : List Outline, Outline.arrangeFrom config path depth index outlines =
      nodes config (Outline.viewFrom config path depth index outlines)
  | [] => rfl
  | child :: rest => by
      rw [Outline.arrangeFrom, Outline.viewFrom, nodes_append, Outline.arrange_eq config (path.child index) depth child,
        Outline.arrangeFrom_eq config path depth (index + 1) rest]

end

theorem Document.arrangeRoots_eq (config : Config) (index : Nat) (outlines : List Outline) :
    arrangeRoots config index outlines = nodes config (viewOfRoots config index outlines) := by
  induction outlines generalizing index with
  | nil => rfl
  | cons root rest ih => rw [arrangeRoots, viewOfRoots, nodes_append, Outline.arrange_eq, ih (index + 1)]

/-- A record in view counts when its layer can be made and counts. -/
def Sighting.counts (config : Config) (sighting : Sighting) : Bool :=
  (sighting.layer config).toOption.any (·.isVisual config)

end Storyboard

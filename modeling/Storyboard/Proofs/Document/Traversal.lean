/-
This file compares the two ways through an outline: the arrangement into nodes, and the list of the records
that come into view.
-/

import Storyboard.Proofs.Document.Convertible
import Storyboard.Proofs.Document.View

namespace Storyboard

/-- The layers of the records in view that count, in their order. -/
def Sighting.visualLayers (config : Config) (sightings : List Sighting) : Except NumberFault (List Layer) := do
  return (← sightings.mapM (·.layer config)).filter (·.isVisual config)

namespace Sighting

/-- The nodes of records in view hold the layers of those that count. -/
theorem preorder_nodes (config : Config) (sightings : Forest Sighting) :
    Forest.preorder <$> nodes config sightings = visualLayers config (Forest.preorder sightings) := by
  simp only [nodes, visualLayers, ← Forest.preorder_traverse, Functor.map_map, Forest.preorder_sieve,
    bind_pure_comp]

end Sighting

open Sighting

/-- The nodes of an outline hold the layers of the records in view that count. -/
theorem Outline.preorder_arrange (config : Config) (path : Path) (depth : Nat) (outline : Outline) :
    Forest.preorder <$> outline.arrange config path depth =
      visualLayers config (outline.reached config path depth) := by
  rw [Outline.arrange_eq, preorder_nodes, Outline.preorder_view]

mutual

/-- The records in view are records of the outline. -/
theorem Outline.record_mem_preorder (config : Config) (path : Path) (depth : Nat) :
    ∀ (outline : Outline) (sighting : Sighting), sighting ∈ outline.reached config path depth →
      sighting.record ∈ outline.preorder
  | .node record children, sighting, member => by
      rw [Outline.reached] at member
      rw [Tree.preorder, List.mem_cons]
      cases role : record.role with
      | ignored => simp [role] at member
      | container =>
          rw [role] at member
          exact .inr (Outline.record_mem_preorderFrom config path depth 0 children sighting member)
      | shown type =>
          simp only [role, List.mem_cons] at member
          rcases member with same | below
          · exact .inl (same ▸ rfl)
          · by_cases opens : config.opens type depth
            · rw [if_pos opens] at below
              exact .inr (Outline.record_mem_preorderFrom config path (depth + 1) 0 children sighting below)
            · simp [opens] at below
      | unwritten =>
          simp only [role, List.mem_singleton] at member
          exact .inl (member ▸ rfl)

/-- The records in view among the children of a record are records below it. -/
theorem Outline.record_mem_preorderFrom (config : Config) (path : Path) (depth index : Nat) :
    ∀ (outlines : List Outline) (sighting : Sighting),
      sighting ∈ Outline.reachedFrom config path depth index outlines →
        sighting.record ∈ Forest.preorder outlines
  | [], sighting, member => by simp [Outline.reachedFrom] at member
  | child :: rest, sighting, member => by
      rw [Outline.reachedFrom, List.mem_append] at member
      rw [Forest.preorder, List.mem_append]
      rcases member with first | later
      · exact .inl (Outline.record_mem_preorder config (path.child index) depth child sighting first)
      · exact .inr (Outline.record_mem_preorderFrom config path depth (index + 1) rest sighting later)

end

/-- No record of an outline holds a whole number that is too large to convert. -/
def Outline.IsConvertible (outline : Outline) : Prop :=
  ∀ record ∈ outline.preorder, Json.fieldsConvertible record.fields

instance (outline : Outline) : Decidable outline.IsConvertible :=
  inferInstanceAs (Decidable (∀ record ∈ outline.preorder, Json.fieldsConvertible record.fields))

/-- The layers of a convertible outline can be made. -/
theorem Outline.visualLayers_isOk {config : Config} {outline : Outline} (convertible : outline.IsConvertible)
    (default : ∃ weight, config.defaultFontWeight.truncated = .ok weight) (path : Path) (depth : Nat) :
    ∃ layers, visualLayers config (outline.reached config path depth) = .ok layers := by
  have each : ∀ sighting ∈ outline.reached config path depth, ∃ layer, sighting.layer config = .ok layer := by
    intro sighting member
    have inside := Outline.record_mem_preorder config path depth outline sighting member
    exact Sighting.layer_isOk (convertible sighting.record inside) default
  exact bind_isOk (mapM_isOk each) fun layers _ => ⟨_, rfl⟩

/--
The nodes of an outline, each one before those below it, hold exactly the layers of the records in view that
count, in the same order and with the same ids. An outline with convertible numbers has such nodes.
-/
theorem Outline.arrange_lists_visualLayers (config : Config) (path : Path) (depth : Nat) (outline : Outline) :
    Forest.preorder <$> outline.arrange config path depth =
        visualLayers config (outline.reached config path depth) ∧
      (outline.IsConvertible → (∃ weight, config.defaultFontWeight.truncated = .ok weight) →
        ∃ nodes, outline.arrange config path depth = .ok nodes ∧
          visualLayers config (outline.reached config path depth) = .ok (Forest.preorder nodes)) := by
  have same := Outline.preorder_arrange config path depth outline
  refine ⟨same, fun convertible default => ?_⟩
  obtain ⟨layers, made⟩ := Outline.visualLayers_isOk convertible default path depth
  obtain ⟨nodes, arranged, listed⟩ := (map_eq_ok _ _ _).mp (same.trans made)
  exact ⟨nodes, arranged, listed ▸ made⟩

/-- A group without colour gives way to a text in a section, and to nothing for a hidden record. -/
def Outline.hoisted : Outline :=
  .node ⟨[("type", .string "GROUP")]⟩ [
    .node ⟨[("type", .string "SECTION")]⟩ [
      .node ⟨[("type", .string "TEXT"), ("characters", .string "Hello"), ("opacity", .int 1)]⟩ []],
    .node ⟨[("type", .string "FRAME"), ("visible", .bool false)]⟩ []]

theorem Outline.arrange_hoisted :
    Outline.hoisted.IsConvertible ∧ Config.standard.defaultFontWeight.truncated = .ok 400 ∧
      ∃ nodes, Outline.hoisted.arrange .standard (.ofIndex 0) 0 = .ok nodes ∧
        visualLayers .standard (Outline.hoisted.reached .standard (.ofIndex 0) 0) = .ok (Forest.preorder nodes) :=
  have convertible : Outline.hoisted.IsConvertible := by decide +kernel
  ⟨convertible, rfl,
    (Outline.arrange_lists_visualLayers .standard (.ofIndex 0) 0 Outline.hoisted).2 convertible ⟨400, rfl⟩⟩

end Storyboard

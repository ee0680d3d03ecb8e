/-
This file states once what an arrangement of nodes is built from, so that whatever each step keeps holds of the whole.
-/

import Storyboard.Document.Normalize
import Storyboard.Proofs.Outcome

namespace Storyboard

/--
A property of the nodes at a depth is kept by every step of an arrangement. A layer that counts is put on top of
the nodes below it, and otherwise these nodes move up to its depth.
-/
structure Outline.IsKept (config : Config) (holds : Nat → List Node → Prop) : Prop where
  nil : ∀ depth, holds depth []
  append : ∀ depth left right, holds depth left → holds depth right → holds depth (left ++ right)
  node : ∀ (depth : Nat) (record : Record) (path : Path) (type : NodeType) (layer : Layer) (below : List Node),
    record.layerAt type path config = .ok layer →
      (if config.opens type depth then holds (depth + 1) below else below = []) → holds depth [.node layer below]
  hoist : ∀ (depth : Nat) (type : NodeType) (below : List Node), config.opens type depth →
    holds (depth + 1) below → holds depth below

namespace Outline.IsKept

variable {config : Config} {holds : Nat → List Node → Prop}

mutual

/-- A property that is kept holds of the nodes of an outline. -/
theorem arrange (kept : IsKept config holds) (path : Path) (depth : Nat) :
    ∀ (outline : Outline) (nodes : List Node), outline.arrange config path depth = .ok nodes → holds depth nodes
  | .node record children, nodes, arranged => by
      rw [Outline.arrange] at arranged
      cases role : record.role with
      | ignored =>
          obtain rfl : [] = nodes := by simpa [role] using arranged
          exact kept.nil depth
      | container =>
          rw [role] at arranged
          exact arrangeFrom kept path depth 0 children nodes arranged
      | shown type =>
          by_cases opens : config.opens type depth
          · simp only [role, if_pos opens, bind_eq_ok, pure_eq_ok] at arranged
            obtain ⟨layer, made, below, reached, rfl⟩ := arranged
            have deeper := arrangeFrom kept path (depth + 1) 0 children below reached
            split
            · exact kept.node depth record path type layer below made (by rwa [if_pos opens])
            · exact kept.hoist depth type below opens deeper
          · simp only [role, if_neg opens, bind_eq_ok, pure_eq_ok] at arranged
            obtain ⟨layer, made, below, rfl, rfl⟩ := arranged
            split
            · exact kept.node depth record path type layer [] made (by rw [if_neg opens])
            · exact kept.nil depth
      | unwritten => simp [role] at arranged

/-- A property that is kept holds of the nodes of the children of a record. -/
theorem arrangeFrom (kept : IsKept config holds) (path : Path) (depth index : Nat) :
    ∀ (outlines : List Outline) (nodes : List Node),
      Outline.arrangeFrom config path depth index outlines = .ok nodes → holds depth nodes
  | [], nodes, arranged => by
      obtain rfl : [] = nodes := by simpa [Outline.arrangeFrom] using arranged
      exact kept.nil depth
  | child :: rest, nodes, arranged => by
      simp only [Outline.arrangeFrom, bind_eq_ok, pure_eq_ok] at arranged
      obtain ⟨first, onFirst, others, onOthers, rfl⟩ := arranged
      have left := arrange kept (path.child index) depth child first onFirst
      have right := arrangeFrom kept path depth (index + 1) rest others onOthers
      exact kept.append depth first others left right

end

/-- A property that is kept holds of the screens of the first pass. -/
theorem arrangeRoots (kept : IsKept config holds) {index : Nat} {outlines : List Outline} {screens : List Node}
    (arranged : Document.arrangeRoots config index outlines = .ok screens) : holds 0 screens := by
  induction outlines generalizing index screens with
  | nil =>
      obtain rfl : [] = screens := by simpa [Document.arrangeRoots] using arranged
      exact kept.nil 0
  | cons root rest ih =>
      simp only [Document.arrangeRoots, bind_eq_ok, pure_eq_ok] at arranged
      obtain ⟨first, onFirst, others, onOthers, rfl⟩ := arranged
      exact kept.append 0 first others (kept.arrange (.ofIndex index) 0 root first onFirst) (ih onOthers)

end Outline.IsKept

mutual

/-- An outline that is arranged into nodes has its diagnostics. -/
theorem Outline.truncations_isOk (config : Config) (path : Path) (depth : Nat) :
    ∀ (outline : Outline) (nodes : List Node), outline.arrange config path depth = .ok nodes →
      ∃ found, outline.truncations config path depth = .ok found
  | .node record children, nodes, arranged => by
      rw [Outline.arrange] at arranged
      rw [Outline.truncations]
      cases role : record.role with
      | ignored => exact ⟨[], rfl⟩
      | container =>
          rw [role] at arranged
          exact Outline.truncationsFrom_isOk config path depth 0 children nodes arranged
      | shown type =>
          by_cases opens : config.opens type depth
          · simp only [role, if_pos opens, bind_eq_ok] at arranged ⊢
            obtain ⟨layer, -, below, reached, -⟩ := arranged
            exact Outline.truncationsFrom_isOk config path (depth + 1) 0 children below reached
          · simp only [role, if_neg opens, bind_eq_ok] at arranged ⊢
            obtain ⟨layer, made, -⟩ := arranged
            split
            · exact ⟨[], rfl⟩
            · obtain ⟨id, named, -⟩ := (bind_eq_ok _ _ _).mp made
              exact ⟨_, by rw [named]; rfl⟩
      | unwritten => simp [role] at arranged

/-- The children of a record that are arranged into nodes have their diagnostics. -/
theorem Outline.truncationsFrom_isOk (config : Config) (path : Path) (depth index : Nat) :
    ∀ (outlines : List Outline) (nodes : List Node),
      Outline.arrangeFrom config path depth index outlines = .ok nodes →
        ∃ found, Outline.truncationsFrom config path depth index outlines = .ok found
  | [], _, _ => ⟨[], rfl⟩
  | child :: rest, nodes, arranged => by
      simp only [Outline.arrangeFrom, bind_eq_ok] at arranged
      obtain ⟨first, onFirst, others, onOthers, -⟩ := arranged
      refine bind_isOk (Outline.truncations_isOk config (path.child index) depth child first onFirst) fun _ _ => ?_
      exact bind_isOk (Outline.truncationsFrom_isOk config path depth (index + 1) rest others onOthers) fun _ _ =>
        ⟨_, rfl⟩

end

/-- Roots that are arranged into screens have their diagnostics. -/
theorem Document.truncationsOfRoots_isOk {config : Config} {index : Nat} {outlines : List Outline}
    {screens : List Node} (arranged : arrangeRoots config index outlines = .ok screens) :
    ∃ found, truncationsOfRoots config index outlines = .ok found := by
  induction outlines generalizing index screens with
  | nil => exact ⟨[], rfl⟩
  | cons root rest ih =>
      simp only [arrangeRoots, bind_eq_ok] at arranged
      obtain ⟨first, onFirst, others, onOthers, -⟩ := arranged
      refine bind_isOk (Outline.truncations_isOk config (.ofIndex index) 0 root first onFirst) fun _ _ => ?_
      exact bind_isOk (ih onOthers) fun _ _ => ⟨_, rfl⟩

end Storyboard

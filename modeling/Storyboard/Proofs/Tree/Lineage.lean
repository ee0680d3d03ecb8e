/-
This file lists the values of a forest together with the values above each of them, and states what pruning keeps.
-/

import Storyboard.Proofs.Tree.Forest

namespace Storyboard

variable {α : Type}

/-- A value of a forest with the values above it, the nearest one first. -/
structure Lineage (α : Type) where
  value : α
  above : List α

namespace Lineage

/-- A test holds of a value and of all values above it. -/
def all (keeps : α → Bool) (lineage : Lineage α) : Bool := keeps lineage.value && lineage.above.all keeps

/-- A value of a forest that stands below further values. -/
def below (above : List α) (lineage : Lineage α) : Lineage α := { lineage with above := lineage.above ++ above }

@[simp] theorem value_below (above : List α) (lineage : Lineage α) : (lineage.below above).value = lineage.value := rfl

@[simp] theorem all_below (keeps : α → Bool) (above : List α) (lineage : Lineage α) :
    (lineage.below above).all keeps = (lineage.all keeps && above.all keeps) := by
  simp [all, below, Bool.and_assoc]

end Lineage

mutual

/-- The values of a tree with those above them, where the tree itself stands below some values. -/
def Tree.lineages (above : List α) : Tree α → List (Lineage α)
  | .node value children => ⟨value, above⟩ :: Forest.lineages (value :: above) children

/-- The values of a forest with those above them. -/
def Forest.lineages (above : List α) : Forest α → List (Lineage α)
  | [] => []
  | tree :: rest => tree.lineages above ++ Forest.lineages above rest

end

mutual

/-- The lineages of a tree are those of its values in order, each one once. -/
theorem Tree.value_lineages (above : List α) : ∀ tree : Tree α, (tree.lineages above).map (·.value) = tree.preorder
  | .node value children => by
      rw [Tree.lineages, Tree.preorder, List.map_cons, Forest.value_lineages]

/-- The lineages of a forest are those of its values in order, each one once. -/
theorem Forest.value_lineages (above : List α) :
    ∀ forest : Forest α, (Forest.lineages above forest).map (·.value) = Forest.preorder forest
  | [] => rfl
  | tree :: rest => by
      rw [Forest.lineages, Forest.preorder, List.map_append, Tree.value_lineages, Forest.value_lineages]

end

mutual

/-- What stands above a tree stands above all of its values. -/
theorem Tree.lineages_append (near far : List α) :
    ∀ tree : Tree α, tree.lineages (near ++ far) = (tree.lineages near).map (·.below far)
  | .node value children => by
      have inside := Forest.lineages_append (value :: near) far children
      rw [List.cons_append] at inside
      rw [Tree.lineages, Tree.lineages, List.map_cons, inside]
      rfl

/-- What stands above a forest stands above all of its values. -/
theorem Forest.lineages_append (near far : List α) :
    ∀ forest : Forest α, Forest.lineages (near ++ far) forest = (Forest.lineages near forest).map (·.below far)
  | [] => rfl
  | tree :: rest => by
      rw [Forest.lineages, Forest.lineages, List.map_append, Tree.lineages_append, Forest.lineages_append]

end

mutual

/-- Below a value that fails a test, no lineage passes it as a whole. -/
theorem Tree.filter_lineages_eq_nil {keeps : α → Bool} {above : List α} (fails : above.all keeps = false) :
    ∀ tree : Tree α, (tree.lineages above).filter (·.all keeps) = []
  | .node value children => by
      have inside : (value :: above).all keeps = false := by rw [List.all_cons, fails, Bool.and_false]
      rw [Tree.lineages, List.filter_cons, Forest.filter_lineages_eq_nil inside children, Lineage.all, fails,
        Bool.and_false, if_neg Bool.false_ne_true]

/-- Below a value that fails a test, no lineage of a forest passes it as a whole. -/
theorem Forest.filter_lineages_eq_nil {keeps : α → Bool} {above : List α} (fails : above.all keeps = false) :
    ∀ forest : Forest α, (Forest.lineages above forest).filter (·.all keeps) = []
  | [] => rfl
  | tree :: rest => by
      rw [Forest.lineages, List.filter_append, Tree.filter_lineages_eq_nil fails, Forest.filter_lineages_eq_nil fails,
        List.append_nil]

end

mutual

/-- Pruning keeps the values that pass a test with all values above them, when the top does. -/
theorem Tree.lineages_prune {keeps : α → Bool} {above : List α} (passes : above.all keeps) :
    ∀ tree : Tree α, keeps tree.value → (tree.prune keeps).lineages above = (tree.lineages above).filter (·.all keeps)
  | .node value children, kept => by
      have top : keeps value := kept
      have inside : (value :: above).all keeps := by rw [List.all_cons, top, passes, Bool.and_self]
      rw [Tree.prune, Tree.lineages, Tree.lineages, List.filter_cons, Lineage.all, top, passes, Bool.and_self,
        if_pos rfl, Forest.lineages_prune inside children]

/-- Pruning a forest keeps the values that pass a test with all values above them. -/
theorem Forest.lineages_prune {keeps : α → Bool} {above : List α} (passes : above.all keeps) :
    ∀ forest : Forest α,
      Forest.lineages above (Forest.prune keeps forest) = (Forest.lineages above forest).filter (·.all keeps)
  | [] => rfl
  | .node value children :: rest => by
      rw [Forest.prune, Forest.lineages, List.filter_append, ← Forest.lineages_prune passes rest]
      by_cases kept : keeps value
      · rw [Tree.value_node, if_pos kept, Forest.lineages, Tree.lineages_prune passes (.node value children) kept]
      · have inside : (value :: above).all keeps = false := by
          rw [List.all_cons, Bool.eq_false_iff.mpr kept, Bool.false_and]
        rw [Tree.value_node, if_neg kept, Tree.lineages, List.filter_cons, Lineage.all, Bool.eq_false_iff.mpr kept,
          Bool.false_and, if_neg Bool.false_ne_true, Forest.filter_lineages_eq_nil inside, List.nil_append]

end

/-- The lineages of a forest are those of its trees in order. -/
theorem Forest.lineages_eq_flatMap (above : List α) (forest : Forest α) :
    Forest.lineages above forest = forest.flatMap (Tree.lineages above) := by
  induction forest with
  | nil => rfl
  | cons tree rest ih => rw [Forest.lineages, ih, List.flatMap_cons]

/-- Nothing further stands above the top of a tree. -/
theorem Forest.mem_lineages_of_mem {forest : Forest α} {tree : Tree α} (among : tree ∈ forest) (above : List α) :
    ⟨tree.value, above⟩ ∈ Forest.lineages above forest := by
  rw [Forest.lineages_eq_flatMap]
  refine List.mem_flatMap.mpr ⟨tree, among, ?_⟩
  cases tree
  rw [Tree.lineages]
  exact List.mem_cons_self

mutual

/-- What stands above a value of a tree is a value of the tree, or stands above the whole tree. -/
theorem Tree.above_subset {above : List α} {lineage : Lineage α} :
    ∀ tree : Tree α, lineage ∈ tree.lineages above → lineage.above ⊆ tree.preorder ++ above
  | .node value children, member => by
      rw [Tree.lineages, List.mem_cons] at member
      rw [Tree.preorder]
      rcases member with rfl | inside
      · exact List.subset_append_right _ _
      · have below := Forest.above_subset children inside
        grind

/-- What stands above a value of a forest is a value of the forest, or stands above the whole of it. -/
theorem Forest.above_subset {above : List α} {lineage : Lineage α} :
    ∀ forest : Forest α, lineage ∈ Forest.lineages above forest →
      lineage.above ⊆ Forest.preorder forest ++ above
  | [], member => absurd member List.not_mem_nil
  | tree :: rest, member => by
      rw [Forest.lineages, List.mem_append] at member
      rw [Forest.preorder]
      rcases member with first | later
      · have inside := Tree.above_subset tree first
        grind
      · have inside := Forest.above_subset rest later
        grind

end

/-- A value that stands in a forest is one of its values, and so are those above it. -/
theorem Forest.subset_of_mem_lineages {forest : Forest α} {lineage : Lineage α}
    (member : lineage ∈ Forest.lineages [] forest) :
    lineage.value ∈ Forest.preorder forest ∧ lineage.above ⊆ Forest.preorder forest := by
  have above := Forest.above_subset forest member
  rw [List.append_nil] at above
  exact ⟨Forest.value_lineages [] forest ▸ List.mem_map_of_mem member, above⟩

end Storyboard

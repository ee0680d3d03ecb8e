/-
This file lists the trees that lie anywhere in a forest.
-/

import Storyboard.Proofs.Tree.Forest

namespace Storyboard

variable {α : Type}

mutual

/-- A tree with all trees below its top, each one before those below its own top. -/
def Tree.subtrees : Tree α → List (Tree α)
  | .node value children => .node value children :: Forest.subtrees children

/-- The trees at any level of a forest. -/
def Forest.subtrees : Forest α → List (Tree α)
  | [] => []
  | tree :: rest => tree.subtrees ++ Forest.subtrees rest

end

@[simp] theorem Tree.subtrees_leaf (value : α) : (Tree.leaf value).subtrees = [.leaf value] := by
  simp [Tree.leaf, Tree.subtrees, Forest.subtrees]

/-- The trees of two forests side by side stand side by side. -/
@[simp] theorem Forest.subtrees_append (left right : Forest α) :
    Forest.subtrees (left ++ right) = Forest.subtrees left ++ Forest.subtrees right := by
  induction left with
  | nil => rfl
  | cons tree rest ih => rw [List.cons_append, Forest.subtrees, Forest.subtrees, ih, List.append_assoc]

@[simp] theorem Forest.subtrees_leaves (values : List α) :
    Forest.subtrees (values.map Tree.leaf) = values.map Tree.leaf := by
  induction values with
  | nil => rfl
  | cons value rest ih => rw [List.map_cons, Forest.subtrees, Tree.subtrees_leaf, ih, List.singleton_append]

mutual

/-- The values on top of the trees within a tree are its values. -/
theorem Tree.map_value_subtrees : ∀ tree : Tree α, tree.subtrees.map Tree.value = tree.preorder
  | .node value children => by
      rw [Tree.subtrees, Tree.preorder, List.map_cons, Forest.map_value_subtrees, Tree.value_node]

/-- The values on top of the trees within a forest are its values. -/
theorem Forest.map_value_subtrees :
    ∀ forest : Forest α, (Forest.subtrees forest).map Tree.value = Forest.preorder forest
  | [] => rfl
  | tree :: rest => by
      rw [Forest.subtrees, Forest.preorder, List.map_append, Tree.map_value_subtrees, Forest.map_value_subtrees]

end

/-- The tree to which positions of children lead from the top of a tree. -/
def Tree.at? : Tree α → List Nat → Option (Tree α)
  | tree, [] => some tree
  | tree, index :: steps => tree.children[index]?.bind (Tree.at? · steps)

/-- The lists of trees that stand side by side: the forest itself, and the children of every tree within it. -/
def Forest.rows (forest : Forest α) : List (Forest α) := forest :: (Forest.subtrees forest).map Tree.children

theorem Forest.value_mem_preorder_of_mem_subtrees {forest : Forest α} {tree : Tree α}
    (inside : tree ∈ Forest.subtrees forest) : tree.value ∈ Forest.preorder forest := by
  rw [← Forest.map_value_subtrees]
  exact List.mem_map_of_mem inside

end Storyboard

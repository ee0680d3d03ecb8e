/-
This file states how the functions on trees act on forests that are put together.
-/

import Storyboard.Tree

namespace Storyboard

variable {α β : Type}

@[simp] theorem Tree.value_node (value : α) (children : Forest α) : (Tree.node value children).value = value := rfl

@[simp] theorem Tree.children_node (value : α) (children : Forest α) :
    (Tree.node value children).children = children := rfl

@[simp] theorem Tree.value_prune (keeps : α → Bool) (tree : Tree α) : (tree.prune keeps).value = tree.value := by
  cases tree
  rfl

@[simp] theorem Tree.preorder_leaf (value : α) : (Tree.leaf value).preorder = [value] := by
  simp [Tree.leaf, Tree.preorder, Forest.preorder]

@[simp] theorem Tree.depth_leaf (value : α) : (Tree.leaf value).depth = 1 := by
  simp [Tree.leaf, Tree.depth, Forest.depth]

theorem Tree.depth_pos (tree : Tree α) : 1 ≤ tree.depth := by
  cases tree
  rw [Tree.depth]
  omega

/-- The values of two forests side by side stand side by side. -/
@[simp] theorem Forest.preorder_append (left right : Forest α) :
    Forest.preorder (left ++ right) = Forest.preorder left ++ Forest.preorder right := by
  induction left with
  | nil => simp [Forest.preorder]
  | cons tree rest ih => simp [Forest.preorder, ih]

@[simp] theorem Forest.preorder_leaves (values : List α) :
    Forest.preorder (values.map Tree.leaf) = values := by
  induction values with
  | nil => simp [Forest.preorder]
  | cons value rest ih => simp [Forest.preorder, ih]

/-- Of two forests side by side, the deeper one counts. -/
@[simp] theorem Forest.depth_append (left right : Forest α) :
    Forest.depth (left ++ right) = max (Forest.depth left) (Forest.depth right) := by
  induction left with
  | nil => simp [Forest.depth]
  | cons tree rest ih => simp [Forest.depth, ih, Nat.max_assoc]

theorem Forest.depth_leaves_le (values : List α) : Forest.depth (values.map Tree.leaf) ≤ 1 := by
  induction values with
  | nil => simp [Forest.depth]
  | cons value rest ih =>
      rw [List.map_cons, Forest.depth, Tree.depth_leaf]
      omega

/-- A forest is as shallow as each of its trees. -/
theorem Forest.depth_le_iff (forest : Forest α) (bound : Nat) :
    Forest.depth forest ≤ bound ↔ ∀ tree ∈ forest, tree.depth ≤ bound := by
  induction forest with
  | nil => simp [Forest.depth]
  | cons tree rest ih => rw [Forest.depth, Nat.max_le, ih, List.forall_mem_cons]

@[simp] theorem Forest.prune_append (keeps : α → Bool) (left right : Forest α) :
    Forest.prune keeps (left ++ right) = Forest.prune keeps left ++ Forest.prune keeps right := by
  induction left with
  | nil => simp [Forest.prune]
  | cons tree rest ih => by_cases kept : keeps tree.value <;> simp [Forest.prune, kept, ih]

/-- Leaves that all fail the test are gone. -/
theorem Forest.prune_leaves {keeps : α → Bool} {values : List α}
    (dropped : ∀ value ∈ values, keeps value = false) : Forest.prune keeps (values.map Tree.leaf) = [] := by
  induction values with
  | nil => simp [Forest.prune]
  | cons value rest ih =>
      have first := dropped value (by simp)
      simp [Forest.prune, Tree.leaf, Tree.value, first, ih fun other member => dropped other (by simp [member])]

mutual

/-- A tree stays as it is when the test holds of all its values. -/
theorem Tree.prune_eq_self {keeps : α → Bool} :
    ∀ tree : Tree α, (∀ value ∈ tree.preorder, keeps value = true) → tree.prune keeps = tree
  | .node value children, kept => by
      have below := Forest.prune_eq_self children fun other member => kept other (by simp [Tree.preorder, member])
      rw [Tree.prune, below]

/-- A forest stays as it is when the test holds of all its values. -/
theorem Forest.prune_eq_self {keeps : α → Bool} :
    ∀ forest : Forest α, (∀ value ∈ Forest.preorder forest, keeps value = true) →
      Forest.prune keeps forest = forest
  | [], _ => by simp [Forest.prune]
  | .node value children :: rest, kept => by
      have top : keeps value = true := kept value (by simp [Forest.preorder, Tree.preorder])
      have first := Tree.prune_eq_self (.node value children) fun other member =>
        kept other (by simp [Forest.preorder, member])
      have others := Forest.prune_eq_self rest fun other member => kept other (by simp [Forest.preorder, member])
      simp [Forest.prune, Tree.value, top, first, others]

end

@[simp] theorem Forest.map_append (change : α → β) (left right : Forest α) :
    Forest.map change (left ++ right) = Forest.map change left ++ Forest.map change right := by
  induction left with
  | nil => simp [Forest.map]
  | cons tree rest ih => simp [Forest.map, ih]

mutual

/-- Changing the values of a tree keeps its depth. -/
theorem Tree.depth_map (change : α → β) : ∀ tree : Tree α, (tree.map change).depth = tree.depth
  | .node value children => by simp [Tree.map, Tree.depth, Forest.depth_map change children]

/-- Changing the values of a forest keeps its depth. -/
theorem Forest.depth_map (change : α → β) :
    ∀ forest : Forest α, Forest.depth (Forest.map change forest) = Forest.depth forest
  | [] => by simp [Forest.map, Forest.depth]
  | tree :: rest => by
      simp [Forest.map, Forest.depth, Tree.depth_map change tree, Forest.depth_map change rest]

end

mutual

/-- Dropping trees leaves the other values in order. -/
theorem Tree.preorder_prune_sublist (keeps : α → Bool) :
    ∀ tree : Tree α, (tree.prune keeps).preorder.Sublist tree.preorder
  | .node value children => by
      rw [Tree.prune, Tree.preorder, Tree.preorder]
      exact (Forest.preorder_prune_sublist keeps children).cons_cons value

/-- Dropping trees of a forest leaves the other values in order. -/
theorem Forest.preorder_prune_sublist (keeps : α → Bool) :
    ∀ forest : Forest α, (Forest.preorder (Forest.prune keeps forest)).Sublist (Forest.preorder forest)
  | [] => .refl _
  | tree :: rest => by
      have others := Forest.preorder_prune_sublist keeps rest
      rw [Forest.prune, Forest.preorder]
      split
      · exact (Tree.preorder_prune_sublist keeps tree).append others
      · exact others.trans (List.sublist_append_right _ _)

end

mutual

/-- The values of a changed tree are the changed values. -/
theorem Tree.preorder_map (change : α → β) : ∀ tree : Tree α, (tree.map change).preorder = tree.preorder.map change
  | .node value children => by
      rw [Tree.map, Tree.preorder, Tree.preorder, Forest.preorder_map, List.map_cons]

/-- The values of a changed forest are the changed values. -/
theorem Forest.preorder_map (change : α → β) :
    ∀ forest : Forest α, Forest.preorder (Forest.map change forest) = (Forest.preorder forest).map change
  | [] => rfl
  | tree :: rest => by
      rw [Forest.map, Forest.preorder, Forest.preorder, Tree.preorder_map, Forest.preorder_map, List.map_append]

end

mutual

/-- Two changes of the values of a tree are one. -/
theorem Tree.map_map {γ : Type} (first : α → β) (second : β → γ) :
    ∀ tree : Tree α, (tree.map first).map second = tree.map (second ∘ first)
  | .node value children => by
      rw [Tree.map, Tree.map, Tree.map, Forest.map_map first second children]
      rfl

/-- Two changes of the values of a forest are one. -/
theorem Forest.map_map {γ : Type} (first : α → β) (second : β → γ) :
    ∀ forest : Forest α, Forest.map second (Forest.map first forest) = Forest.map (second ∘ first) forest
  | [] => rfl
  | tree :: rest => by
      rw [Forest.map, Forest.map, Forest.map, Tree.map_map first second tree, Forest.map_map first second rest]

end

mutual

/-- Changes that agree on the values of a tree give the same tree. -/
theorem Tree.map_congr {left right : α → β} :
    ∀ tree : Tree α, (∀ value ∈ tree.preorder, left value = right value) → tree.map left = tree.map right
  | .node value children, agree => by
      have below := Forest.map_congr children fun other member => agree other (by simp [Tree.preorder, member])
      rw [Tree.map, Tree.map, agree value (by simp [Tree.preorder]), below]

/-- Changes that agree on the values of a forest give the same forest. -/
theorem Forest.map_congr {left right : α → β} :
    ∀ forest : Forest α, (∀ value ∈ Forest.preorder forest, left value = right value) →
      Forest.map left forest = Forest.map right forest
  | [], _ => rfl
  | tree :: rest, agree => by
      have first := Tree.map_congr tree fun other member => agree other (by simp [Forest.preorder, member])
      have others := Forest.map_congr rest fun other member => agree other (by simp [Forest.preorder, member])
      rw [Forest.map, Forest.map, first, others]

end

/-- A forest is changed tree by tree. -/
theorem Forest.map_eq_map (change : α → β) (forest : Forest α) :
    Forest.map change forest = List.map (Tree.map change) forest := by
  induction forest with
  | nil => rfl
  | cons tree rest ih => rw [Forest.map, ih, List.map_cons]

@[simp] theorem Tree.value_map (change : α → β) (tree : Tree α) : (tree.map change).value = change tree.value := by
  cases tree
  rfl

mutual

/-- A test that does not see a change drops the same trees before and after it. -/
theorem Tree.prune_map {change : α → β} {before : α → Bool} {after : β → Bool}
    (unseen : ∀ value, after (change value) = before value) :
    ∀ tree : Tree α, (tree.map change).prune after = (tree.prune before).map change
  | .node value children => by
      rw [Tree.map, Tree.prune, Tree.prune, Tree.map, Forest.prune_map unseen children]

/-- A test that does not see a change drops the same trees of a forest before and after it. -/
theorem Forest.prune_map {change : α → β} {before : α → Bool} {after : β → Bool}
    (unseen : ∀ value, after (change value) = before value) :
    ∀ forest : Forest α, Forest.prune after (Forest.map change forest) = Forest.map change (Forest.prune before forest)
  | [] => rfl
  | tree :: rest => by
      have others := Forest.prune_map unseen rest
      rw [Forest.map, Forest.prune, Forest.prune, Tree.value_map, unseen]
      split
      · rw [Forest.map, Tree.prune_map unseen tree, others]
      · exact others

end

theorem Tree.value_mem_preorder (tree : Tree α) : tree.value ∈ tree.preorder := by
  cases tree
  simp [Tree.preorder]

/-- The values of a forest are those of its trees in order. -/
theorem Forest.preorder_eq_flatMap (forest : Forest α) :
    Forest.preorder forest = forest.flatMap Tree.preorder := by
  induction forest with
  | nil => rfl
  | cons tree rest ih => rw [Forest.preorder, ih, List.flatMap_cons]

/-- Only a forest without trees holds no value. -/
theorem Forest.preorder_eq_nil_iff {forest : Forest α} : Forest.preorder forest = [] ↔ forest = [] := by
  cases forest with
  | nil => simp [Forest.preorder]
  | cons tree rest => cases tree; simp [Forest.preorder, Tree.preorder]

/-- The values of the trees of a forest are values of the forest. -/
theorem Forest.mem_preorder_of_mem {forest : Forest α} {tree : Tree α} (among : tree ∈ forest) {value : α}
    (member : value ∈ tree.preorder) : value ∈ Forest.preorder forest := by
  rw [Forest.preorder_eq_flatMap]
  exact List.mem_flatMap.mpr ⟨tree, among, member⟩

/-- The values of the trees below the top are values of the tree. -/
theorem Tree.mem_preorder_of_mem_children {tree child : Tree α} (inside : child ∈ tree.children) {value : α}
    (member : value ∈ child.preorder) : value ∈ tree.preorder := by
  obtain ⟨top, children⟩ := tree
  rw [Tree.preorder]
  exact List.mem_cons_of_mem top (Forest.mem_preorder_of_mem inside member)

mutual

/-- Nothing is left to drop in a pruned tree. -/
@[simp] theorem Tree.prune_prune (keeps : α → Bool) : ∀ tree : Tree α, (tree.prune keeps).prune keeps = tree.prune keeps
  | .node value children => by
      rw [Tree.prune, Tree.prune, Forest.prune_prune keeps children]

/-- Nothing is left to drop in a pruned forest. -/
@[simp] theorem Forest.prune_prune (keeps : α → Bool) :
    ∀ forest : Forest α, Forest.prune keeps (Forest.prune keeps forest) = Forest.prune keeps forest
  | [] => rfl
  | tree :: rest => by
      rw [Forest.prune]
      split
      · rename_i kept
        rw [Forest.prune, Tree.value_prune, if_pos kept, Tree.prune_prune keeps tree, Forest.prune_prune keeps rest]
      · exact Forest.prune_prune keeps rest

end

/-- Pruning drops the trees whose top fails a test, and prunes the others. -/
theorem Forest.prune_eq_map_filter (keeps : α → Bool) (forest : Forest α) :
    Forest.prune keeps forest = (forest.filter (keeps ·.value)).map (Tree.prune keeps) := by
  induction forest with
  | nil => rfl
  | cons tree rest ih =>
      rw [Forest.prune, List.filter_cons, ih]
      split <;> rfl

end Storyboard

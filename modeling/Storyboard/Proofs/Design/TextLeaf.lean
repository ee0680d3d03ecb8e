/-
This file states that no text of a design has children, as text is not opened and hosts nothing.
-/

import Storyboard.Proofs.Design.Depth
import Storyboard.Proofs.Tree.Subtrees

namespace Storyboard

variable {config : Config}

/-- No text at any level of the nodes has children. -/
def Node.TextIsLeaf (nodes : List Node) : Prop :=
  ∀ node ∈ Forest.subtrees nodes, node.value.type = .text → node.children = []

namespace Node

/-- Nodes side by side keep text without children when both sides do. -/
theorem textIsLeaf_append (left right : List Node) :
    TextIsLeaf (left ++ right) ↔ TextIsLeaf left ∧ TextIsLeaf right := by
  simp only [TextIsLeaf, Forest.subtrees_append, List.mem_append, or_imp, forall_and]

/-- A node keeps text without children when it has none itself or is no text, and the nodes below it do. -/
theorem textIsLeaf_node (layer : Layer) (children : List Node) :
    TextIsLeaf [.node layer children] ↔ (layer.type = .text → children = []) ∧ TextIsLeaf children := by
  simp [TextIsLeaf, Forest.subtrees, Tree.subtrees]

theorem textIsLeaf_leaves (layers : List Layer) : TextIsLeaf (layers.map Tree.leaf) := by
  intro node member
  rw [Forest.subtrees_leaves] at member
  obtain ⟨layer, -, rfl⟩ := List.mem_map.mp member
  exact fun _ => rfl

/-- A list of nodes keeps text without children when each of them does. -/
theorem textIsLeaf_iff (nodes : List Node) : TextIsLeaf nodes ↔ ∀ node ∈ nodes, TextIsLeaf [node] := by
  induction nodes with
  | nil => simp [TextIsLeaf, Forest.subtrees]
  | cons node rest ih =>
      rw [← List.singleton_append, textIsLeaf_append, ih, List.singleton_append, List.forall_mem_cons]

end Node

/-- Arranged nodes keep text without children, as text is not opened. -/
theorem Outline.isKept_textIsLeaf : Outline.IsKept config fun _ nodes => Node.TextIsLeaf nodes where
  nil depth node member := by simp [Forest.subtrees] at member
  append depth left right onLeft onRight := (Node.textIsLeaf_append left right).mpr ⟨onLeft, onRight⟩
  node depth record path type layer below made passes := by
    rw [Node.textIsLeaf_node]
    split at passes
    · rename_i opens
      refine ⟨fun isText => ?_, passes⟩
      obtain rfl : type = .text := (Record.layer_type (Record.layerAt_eq_ok_iff.mp made).2).symm.trans isText
      simp [Config.opens] at opens
    · subst passes
      exact ⟨fun _ => rfl, by simp [Node.TextIsLeaf, Forest.subtrees]⟩
  hoist depth type below opens passes := passes

/-- Screens keep text without children when layers are merged into them, since no text hosts any. -/
theorem Fallback.textIsLeaf_merge {screens : List Node} (leaf : Node.TextIsLeaf screens) (added : List Layer) :
    Node.TextIsLeaf (Fallback.merge config screens added) := by
  rw [Node.textIsLeaf_iff] at leaf ⊢
  intro node member
  rcases mem_merge member with ⟨index, ⟨layer, children⟩, found, rfl⟩ | ⟨layer, homeless, rfl⟩
  · obtain ⟨top, below⟩ := (Node.textIsLeaf_node layer children).mp (leaf _ (List.mem_of_getElem? found))
    refine (Node.textIsLeaf_node _ _).mpr ⟨fun isText => ?_,
      (Node.textIsLeaf_append _ _).mpr ⟨below, Node.textIsLeaf_leaves _⟩⟩
    -- A host is never text, and so text takes no layer in.
    have none : takenAt config screens added index = [] := by
      rw [List.eq_nil_iff_forall_not_mem]
      intro other taken
      obtain ⟨⟨screen, same, -, notText, -⟩, -⟩ := host?_eq_some (mem_takenAt taken).2
      obtain rfl := Option.some.inj (found.symm.trans same)
      exact notText isText
    simp [none, top isText]
  · exact Node.textIsLeaf_leaves [layer]

theorem Document.textIsLeaf_normalize {raw : Json} {design : Design} (built : normalize config raw = .ok design) :
    Node.TextIsLeaf design.screens := by
  obtain ⟨outlines, -, success, -⟩ := normalize_eq_ok built
  obtain ⟨screens, truncations, arranged, -, passes⟩ := designOf_eq_ok success
  have leaf := Outline.isKept_textIsLeaf.arrangeRoots arranged
  split at passes
  · obtain ⟨found, -, -, rfl⟩ := passes
    exact Fallback.textIsLeaf_merge leaf _
  · subst passes
    exact leaf

mutual

/-- A node that is read from its exchange form keeps text without children, as text is not opened. -/
theorem LayerForm.textIsLeaf_node (depth : Nat) :
    ∀ tree : Tree LayerForm, Node.TextIsLeaf [LayerForm.node config depth tree]
  | .node form children => by
      rw [LayerForm.node, Node.textIsLeaf_node]
      split
      · rename_i opens
        refine ⟨fun isText => ?_, LayerForm.textIsLeaf_nodes (depth + 1) children⟩
        have same : form.type = .text := isText
        simp [Config.opens, same] at opens
      · exact ⟨fun _ => rfl, by simp [Node.TextIsLeaf, Forest.subtrees]⟩

/-- Nodes that are read from their exchange form keep text without children. -/
theorem LayerForm.textIsLeaf_nodes (depth : Nat) :
    ∀ trees : List (Tree LayerForm), Node.TextIsLeaf (LayerForm.nodes config depth trees)
  | [] => by simp [Node.TextIsLeaf, Forest.subtrees, LayerForm.nodes]
  | tree :: rest => by
      rw [LayerForm.nodes, ← List.singleton_append, Node.textIsLeaf_append]
      exact ⟨LayerForm.textIsLeaf_node depth tree, LayerForm.textIsLeaf_nodes depth rest⟩

end

/-- No text of a design that is built from a source has children. -/
theorem Design.textIsLeaf_ofSource {source : Json} {design : Design}
    (built : Design.ofSource config source = .ok design) : Node.TextIsLeaf design.screens := by
  rcases Design.ofSource_eq_ok built with ⟨forms, -, rfl⟩ | normalized
  · exact LayerForm.textIsLeaf_nodes 0 forms
  · exact Document.textIsLeaf_normalize normalized

end Storyboard

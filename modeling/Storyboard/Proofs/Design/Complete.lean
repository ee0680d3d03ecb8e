/-
This file states that every design that is built from a source is complete: each of its layers is, and no text has
children.
-/

import Storyboard.Proofs.Design.TextLeaf
import Storyboard.Proofs.Document.InView
import Storyboard.Proofs.Document.RecordForm
import Storyboard.Proofs.Exchange.InView

namespace Storyboard

mutual

/-- All layers of a node are complete, and no text among them has children. -/
def Node.IsComplete : Tree Layer → Prop
  | .node layer children => layer.IsComplete ∧ (layer.type = .text → children = []) ∧ Node.AllComplete children

def Node.AllComplete : List (Tree Layer) → Prop
  | [] => True
  | node :: rest => Node.IsComplete node ∧ Node.AllComplete rest

end

mutual

/-- A node is complete exactly when its layers are and no text among them has children. -/
theorem Node.isComplete_iff : ∀ node : Tree Layer,
    Node.IsComplete node ↔ (∀ layer ∈ node.preorder, layer.IsComplete) ∧ Node.TextIsLeaf [node]
  | .node layer children => by
      rw [Node.IsComplete, Node.allComplete_iff children, Node.textIsLeaf_node, Tree.preorder, List.forall_mem_cons]
      exact ⟨fun ⟨top, leaf, below, under⟩ => ⟨⟨top, below⟩, leaf, under⟩,
        fun ⟨⟨top, below⟩, leaf, under⟩ => ⟨top, leaf, below, under⟩⟩

/-- Nodes are complete exactly when their layers are and no text among them has children. -/
theorem Node.allComplete_iff : ∀ nodes : List (Tree Layer),
    Node.AllComplete nodes ↔ (∀ layer ∈ Forest.preorder nodes, layer.IsComplete) ∧ Node.TextIsLeaf nodes
  | [] => by simp [Node.AllComplete, Forest.preorder, Node.TextIsLeaf, Forest.subtrees]
  | node :: rest => by
      have split : Node.TextIsLeaf (node :: rest) ↔ Node.TextIsLeaf [node] ∧ Node.TextIsLeaf rest :=
        Node.textIsLeaf_append [node] rest
      rw [Node.AllComplete, Node.isComplete_iff node, Node.allComplete_iff rest, Forest.preorder,
        List.forall_mem_append, split]
      exact and_and_and_comm

end

variable {config : Config}

/-- A whole number is written with at least one character. -/
theorem Json.written_int_length {value : Int} {text : String} (written : (Json.int value).written = .ok text) :
    1 ≤ text.length := by
  rw [written_of_isWritable (isWritable_of_written written)] at written
  obtain rfl : toString value = text := Except.ok.inj written
  cases value with
  | ofNat magnitude => exact Nat.length_repr_pos
  | negSucc magnitude =>
      have signed : (toString (Int.negSucc magnitude)).length = "-".length + (magnitude + 1).repr.length := by
        simp [toString, Int.repr]
      rw [signed]
      exact Nat.le_trans (by decide : 1 ≤ "-".length) (Nat.le_add_right _ _)

/-- The id that a record gives itself is not empty. -/
theorem Record.id?_length {record : Record} {id : String} (own : record.id? = .ok (some id)) : 1 ≤ id.length := by
  unfold Record.id? at own
  split at own
  · split at own
    · simp at own
    · rename_i filled
      obtain rfl := Option.some.inj (Except.ok.inj own)
      rw [String.isEmpty_iff] at filled
      exact Nat.pos_of_ne_zero fun none => filled (String.length_eq_zero_iff.mp none)
  · obtain ⟨text, written, same⟩ := (map_eq_ok _ _ _).mp own
    exact Option.some.inj same ▸ Json.written_int_length written
  · simp at own

/-- A record is given an id that is not empty in any case. -/
theorem Record.idAt_length {record : Record} {path : Path} {id : String} (named : record.idAt path = .ok id) :
    1 ≤ id.length := by
  obtain ⟨own?, own, same⟩ := (bind_eq_ok _ _ _).mp named
  obtain rfl := (pure_eq_ok _ _).mp same
  cases own? with
  | none =>
      rw [Option.getD_none, String.length_append]
      exact Nat.le_trans (by decide : 1 ≤ "auto-".length) (Nat.le_add_right _ _)
  | some id => exact Record.id?_length own

/-- Every design that is built from a source under sound defaults is complete. -/
theorem Design.allComplete_ofSource (sound : config.HasSoundDefaults) {source : Json} {design : Design}
    (built : Design.ofSource config source = .ok design) : Node.AllComplete design.screens := by
  refine (Node.allComplete_iff design.screens).mpr ⟨fun layer member => ?_, Design.textIsLeaf_ofSource built⟩
  rcases Design.ofSource_inView built with ⟨listed, conforms⟩ | ⟨-, normalized⟩
  · have inside : layer ∈ design.layers := member
    obtain ⟨form, among, rfl⟩ := List.mem_map.mp (listed ▸ inside)
    exact (conforms form among).isComplete sound
  · obtain ⟨record, -, type, path, named, made⟩ := Document.exists_record_of_normalize normalized member
    exact Record.layer_isComplete sound (Record.idAt_length named) made

end Storyboard

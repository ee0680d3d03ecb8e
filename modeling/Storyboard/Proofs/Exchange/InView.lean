/-
This file lists the forms of an exchange form that come into view, which the layers of its design are made of.
-/

import Storyboard.Proofs.Design.Depth
import Storyboard.Proofs.Exchange.Reading

namespace Storyboard

variable {config : Config}

mutual

/-- The forms of a tree that come into view, each one before those below it. -/
def LayerForm.inView (config : Config) (depth : Nat) : Tree LayerForm → List LayerForm
  | .node form children =>
      form :: if config.opens form.type depth then LayerForm.allInView config (depth + 1) children else []

/-- The forms of several trees that come into view. -/
def LayerForm.allInView (config : Config) (depth : Nat) : List (Tree LayerForm) → List LayerForm
  | [] => []
  | tree :: rest => LayerForm.inView config depth tree ++ LayerForm.allInView config depth rest

end

/-- The forms in view of a source in exchange form. A raw document has none. -/
def Exchange.formsInView (config : Config) (source : Json) : List LayerForm :=
  if isExchangeForm source then
    ((screensOf source).map (LayerForm.allInView config 0)).toExcept.toOption.getD []
  else []

namespace LayerForm

mutual

/-- The layers of a node are those of the forms in view. -/
theorem preorder_node (depth : Nat) :
    ∀ tree : Tree LayerForm, (node config depth tree).preorder = (inView config depth tree).map (·.layer config)
  | .node form children => by
      rw [node, inView, Tree.preorder, List.map_cons]
      split
      · rw [preorder_nodes]
      · rfl

/-- The layers of several nodes are those of the forms in view. -/
theorem preorder_nodes (depth : Nat) :
    ∀ trees : List (Tree LayerForm),
      Forest.preorder (nodes config depth trees) = (allInView config depth trees).map (·.layer config)
  | [] => rfl
  | tree :: rest => by
      rw [nodes, allInView, Forest.preorder, preorder_node, preorder_nodes, List.map_append]

end

mutual

/-- The forms in view are forms of the tree. -/
theorem inView_subset (depth : Nat) : ∀ tree : Tree LayerForm, inView config depth tree ⊆ tree.preorder
  | .node form children => by
      rw [inView, Tree.preorder]
      refine List.cons_subset_cons form ?_
      split
      · exact allInView_subset (depth + 1) children
      · exact List.nil_subset _

/-- The forms in view are forms of the trees. -/
theorem allInView_subset (depth : Nat) :
    ∀ trees : List (Tree LayerForm), allInView config depth trees ⊆ Forest.preorder trees
  | [] => List.Subset.refl _
  | tree :: rest => by
      rw [allInView, Forest.preorder]
      exact List.append_subset.mpr ⟨List.Subset.trans (inView_subset depth tree) (List.subset_append_left _ _),
        List.Subset.trans (allInView_subset depth rest) (List.subset_append_right _ _)⟩

end

end LayerForm

namespace Exchange

theorem conforms_of_screensOf {source : Json} {forms : List (Tree LayerForm)}
    (passed : screensOf source = .valid forms) : ∀ form ∈ Forest.preorder forms, form.Conforms := by
  obtain ⟨pages, checked, rfl⟩ := (Checked.map_eq_valid _ _ _).mp passed
  have each : ∀ page ∈ pages, ∀ form ∈ Forest.preorder page, form.Conforms :=
    Checked.forall_of_eachFrom (fun _ _ given => Schema.model_satisfies given fun _ _ page =>
      Schema.required_satisfies page fun input trees => conforms_of_nodeListOf 0 input trees) checked
  clear passed checked
  induction pages with
  | nil => simp [Forest.preorder]
  | cons page rest ih =>
      intro form member
      rw [List.flatten_cons, Forest.preorder_append, List.mem_append] at member
      rcases member with inside | later
      · exact each page (by simp) form inside
      · exact ih (fun other among => each other (by simp [among])) form later

end Exchange

/-- A source gives the design of the forms in its exchange form, or of a raw document without any. -/
theorem Design.ofSource_inView {source : Json} {design : Design} (built : Design.ofSource config source = .ok design) :
    (design.layers = (Exchange.formsInView config source).map (·.layer config) ∧
        ∀ form ∈ Exchange.formsInView config source, form.Conforms) ∨
      Exchange.formsInView config source = [] ∧ Document.normalize config source = .ok design := by
  unfold Design.ofSource at built
  unfold Exchange.formsInView
  split at built
  · rename_i exchanged
    obtain ⟨forms, passed, rfl⟩ := Exchange.read_eq_ok ((mapError_eq_ok _ _ _).mp built)
    rw [if_pos exchanged, passed]
    left
    exact ⟨LayerForm.preorder_nodes 0 forms, fun form member =>
      Exchange.conforms_of_screensOf passed form (LayerForm.allInView_subset 0 forms member)⟩
  · rename_i raw
    rw [if_neg raw]
    exact .inr ⟨rfl, (mapError_eq_ok _ _ _).mp built⟩

end Storyboard

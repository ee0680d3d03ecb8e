/-
This file defines how values are taken out of a forest so that what is below them moves up, and states that the values
that are left keep their order and stand above each other as before.
-/

import Storyboard.Proofs.Tree.Lineage

namespace Storyboard

variable {α : Type}

mutual

/-- What is left of a tree when a value that fails a test gives way to the trees below it. -/
def Tree.sieve (keeps : α → Bool) : Tree α → Forest α
  | .node value children =>
      if keeps value then [.node value (Forest.sieve keeps children)] else Forest.sieve keeps children

/-- What is left of a forest when the values that fail a test give way to the trees below them. -/
def Forest.sieve (keeps : α → Bool) : Forest α → Forest α
  | [] => []
  | tree :: rest => tree.sieve keeps ++ Forest.sieve keeps rest

end

@[simp] theorem Forest.sieve_append (keeps : α → Bool) (left right : Forest α) :
    Forest.sieve keeps (left ++ right) = Forest.sieve keeps left ++ Forest.sieve keeps right := by
  induction left with
  | nil => rfl
  | cons tree rest ih => rw [List.cons_append, Forest.sieve, Forest.sieve, ih, List.append_assoc]

@[simp] theorem Forest.sieve_singleton (keeps : α → Bool) (tree : Tree α) :
    Forest.sieve keeps [tree] = tree.sieve keeps := by
  rw [Forest.sieve, Forest.sieve, List.append_nil]

@[simp] theorem Forest.lineages_of_append (above : List α) (left right : Forest α) :
    Forest.lineages above (left ++ right) = Forest.lineages above left ++ Forest.lineages above right := by
  simp only [Forest.lineages_eq_flatMap, List.flatMap_append]

/-- A value with those values above it that pass a test. -/
def Lineage.sieve (keeps : α → Bool) (lineage : Lineage α) : Lineage α :=
  { lineage with above := lineage.above.filter keeps }

mutual

/-- The values that are left of a tree stand below those values that stood above them and are left. -/
theorem Tree.lineages_sieve (keeps : α → Bool) (above : List α) :
    ∀ tree : Tree α, Forest.lineages (above.filter keeps) (tree.sieve keeps) =
      ((tree.lineages above).filter (keeps ·.value)).map (Lineage.sieve keeps)
  | .node value children => by
      have below := Forest.lineages_sieve keeps (value :: above) children
      rw [Tree.sieve, Tree.lineages, List.filter_cons]
      by_cases kept : keeps value
      · rw [List.filter_cons_of_pos kept] at below
        rw [if_pos kept, if_pos kept, Forest.lineages, Tree.lineages, below, Forest.lineages, List.append_nil,
          List.map_cons]
        rfl
      · rw [List.filter_cons_of_neg kept] at below
        rw [if_neg kept, if_neg kept, below]

/-- The values that are left of a forest stand below those values that stood above them and are left. -/
theorem Forest.lineages_sieve (keeps : α → Bool) (above : List α) :
    ∀ forest : Forest α, Forest.lineages (above.filter keeps) (Forest.sieve keeps forest) =
      ((Forest.lineages above forest).filter (keeps ·.value)).map (Lineage.sieve keeps)
  | [] => rfl
  | tree :: rest => by
      rw [Forest.sieve, Forest.lineages, Forest.lineages_of_append, Tree.lineages_sieve, Forest.lineages_sieve,
        List.filter_append, List.map_append]

end

/-- The values that are left are those that pass the test, in their order. -/
theorem Forest.preorder_sieve (keeps : α → Bool) (forest : Forest α) :
    Forest.preorder (Forest.sieve keeps forest) = (Forest.preorder forest).filter keeps := by
  have listed := congrArg (List.map Lineage.value) (Forest.lineages_sieve keeps [] forest)
  rw [List.filter_nil, Forest.value_lineages, List.map_map] at listed
  rw [listed, ← Forest.value_lineages [] forest, List.filter_map]
  rfl

end Storyboard

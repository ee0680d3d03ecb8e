/-
This file changes every value of a forest by a step that may fail, and states that taking values out before or after
makes no difference.
-/

import Storyboard.Proofs.Outcome
import Storyboard.Proofs.Tree.Sieve

namespace Storyboard

variable {ε α β γ : Type}

mutual

/-- Changes the values of a tree one after the other, each one before those below it. -/
def Tree.traverse (step : α → Except ε β) : Tree α → Except ε (Tree β)
  | .node value children => do
      let changed ← step value
      let below ← Forest.traverse step children
      return .node changed below

/-- Changes the values of a forest one after the other. -/
def Forest.traverse (step : α → Except ε β) : Forest α → Except ε (Forest β)
  | [] => .ok []
  | tree :: rest => do
      let first ← tree.traverse step
      let others ← Forest.traverse step rest
      return first :: others

end

/-- Two forests side by side are changed one after the other. -/
theorem Forest.traverse_append (step : α → Except ε β) (left right : Forest α) :
    Forest.traverse step (left ++ right) = (do
      let first ← Forest.traverse step left
      let others ← Forest.traverse step right
      return first ++ others) := by
  induction left with
  | nil => exact (bind_pure _).symm
  | cons tree rest ih => simp [Forest.traverse, ih]

theorem Forest.traverse_singleton (step : α → Except ε β) (tree : Tree α) :
    Forest.traverse step [tree] = (do return [← tree.traverse step]) :=
  rfl

mutual

/-- Steps that agree on the values of a tree change it in the same way. -/
theorem Tree.traverse_congr {step other : α → Except ε β} :
    ∀ tree : Tree α, (∀ value ∈ tree.preorder, step value = other value) → tree.traverse step = tree.traverse other
  | .node value children, same => by
      have below := Forest.traverse_congr children fun inner member => same inner (by simp [Tree.preorder, member])
      rw [Tree.traverse, Tree.traverse, same value (by simp [Tree.preorder]), below]

/-- Steps that agree on the values of a forest change it in the same way. -/
theorem Forest.traverse_congr {step other : α → Except ε β} :
    ∀ forest : Forest α, (∀ value ∈ Forest.preorder forest, step value = other value) →
      Forest.traverse step forest = Forest.traverse other forest
  | [], _ => rfl
  | tree :: rest, same => by
      have first := Tree.traverse_congr tree fun value member => same value (by simp [Forest.preorder, member])
      have others := Forest.traverse_congr rest fun value member => same value (by simp [Forest.preorder, member])
      rw [Forest.traverse, Forest.traverse, first, others]

end

mutual

/-- A step changes the values of a changed tree as both changes together do. -/
theorem Tree.traverse_map (step : β → Except ε γ) (change : α → β) :
    ∀ tree : Tree α, (tree.map change).traverse step = tree.traverse (step ∘ change)
  | .node value children => by
      rw [Tree.map, Tree.traverse, Tree.traverse, Forest.traverse_map step change children]
      rfl

/-- A step changes the values of a changed forest as both changes together do. -/
theorem Forest.traverse_map (step : β → Except ε γ) (change : α → β) :
    ∀ forest : Forest α, Forest.traverse step (Forest.map change forest) = Forest.traverse (step ∘ change) forest
  | [] => rfl
  | tree :: rest => by
      rw [Forest.map, Forest.traverse, Forest.traverse, Tree.traverse_map step change tree,
        Forest.traverse_map step change rest]

end

mutual

/-- The values of a tree are changed in their order. -/
theorem Tree.preorder_traverse (step : α → Except ε β) :
    ∀ tree : Tree α, Tree.preorder <$> tree.traverse step = tree.preorder.mapM step
  | .node value children => by
      simp only [Tree.traverse, Tree.preorder, List.mapM_cons, ← Forest.preorder_traverse step children, map_bind,
        map_pure, bind_map_left]

/-- The values of a forest are changed in their order. -/
theorem Forest.preorder_traverse (step : α → Except ε β) :
    ∀ forest : Forest α, Forest.preorder <$> Forest.traverse step forest = (Forest.preorder forest).mapM step
  | [] => rfl
  | tree :: rest => by
      simp only [Forest.traverse, Forest.preorder, List.mapM_append, ← Tree.preorder_traverse step tree,
        ← Forest.preorder_traverse step rest, map_bind, map_pure, bind_map_left]

end

/-- A value stays when it is changed into one that passes a test. -/
def staysAs (step : α → Except ε β) (keeps : β → Bool) (value : α) : Bool := (step value).toOption.any keeps

mutual

/-- The values that stay can be taken out of a tree before it is changed as well as afterwards. -/
theorem Tree.traverse_sieve {step : α → Except ε β} (keeps : β → Bool) :
    ∀ (tree : Tree α) (changed : Tree β), tree.traverse step = .ok changed →
      Forest.traverse step (tree.sieve (staysAs step keeps)) = .ok (changed.sieve keeps)
  | .node value children, changed, success => by
      simp only [Tree.traverse, bind_eq_ok, pure_eq_ok] at success
      obtain ⟨result, reached, below, inside, rfl⟩ := success
      have sieved := Forest.traverse_sieve keeps children below inside
      have stays : staysAs step keeps value = keeps result := by rw [staysAs, reached]; rfl
      rw [Tree.sieve, Tree.sieve, stays]
      by_cases kept : keeps result
      · rw [if_pos kept, if_pos kept, Forest.traverse, Tree.traverse, reached, sieved]
        rfl
      · rw [if_neg kept, if_neg kept, sieved]

/-- The values that stay can be taken out of a forest before it is changed as well as afterwards. -/
theorem Forest.traverse_sieve {step : α → Except ε β} (keeps : β → Bool) :
    ∀ (forest : Forest α) (changed : Forest β), Forest.traverse step forest = .ok changed →
      Forest.traverse step (Forest.sieve (staysAs step keeps) forest) = .ok (Forest.sieve keeps changed)
  | [], changed, success => by
      obtain rfl : [] = changed := by simpa [Forest.traverse] using success
      rfl
  | tree :: rest, changed, success => by
      simp only [Forest.traverse, bind_eq_ok, pure_eq_ok] at success
      obtain ⟨first, onFirst, others, onOthers, rfl⟩ := success
      rw [Forest.sieve, Forest.sieve, Forest.traverse_append, Tree.traverse_sieve keeps tree first onFirst,
        Forest.traverse_sieve keeps rest others onOthers]
      rfl

end

end Storyboard

/-
This file defines trees of values and forests of trees.
-/

namespace Storyboard

/-- A tree holds a value and any number of trees below it. -/
inductive Tree (α : Type) where
  | node (value : α) (children : List (Tree α))

/-- Trees side by side. -/
abbrev Forest (α : Type) : Type := List (Tree α)

namespace Tree

variable {α : Type}

instance [Inhabited α] : Inhabited (Tree α) := ⟨.node default []⟩

/-- The value on top of a tree. -/
def value : Tree α → α
  | .node value _ => value

/-- The trees below the top. -/
def children : Tree α → Forest α
  | .node _ children => children

/-- A tree with nothing below its top. -/
def leaf (value : α) : Tree α := .node value []

end Tree

variable {α β : Type}

mutual

/-- The values of a tree, each one before those below it. -/
def Tree.preorder : Tree α → List α
  | .node value children => value :: Forest.preorder children

/-- The values of a forest in order. -/
def Forest.preorder : Forest α → List α
  | [] => []
  | tree :: rest => tree.preorder ++ Forest.preorder rest

end

mutual

/-- The number of values on the longest way down. -/
def Tree.depth : Tree α → Nat
  | .node _ children => 1 + Forest.depth children

/-- The greatest depth of the trees, or zero when there are none. -/
def Forest.depth : Forest α → Nat
  | [] => 0
  | tree :: rest => max tree.depth (Forest.depth rest)

end

mutual

def Tree.map (change : α → β) : Tree α → Tree β
  | .node value children => .node (change value) (Forest.map change children)

def Forest.map (change : α → β) : Forest α → Forest β
  | [] => []
  | tree :: rest => tree.map change :: Forest.map change rest

end

mutual

/-- Drops the trees below the top whose value fails a test, with all that is below them. -/
def Tree.prune (keeps : α → Bool) : Tree α → Tree α
  | .node value children => .node value (Forest.prune keeps children)

/-- Drops the trees whose value fails a test, at every level. -/
def Forest.prune (keeps : α → Bool) : Forest α → Forest α
  | [] => []
  | tree :: rest =>
      if keeps tree.value then tree.prune keeps :: Forest.prune keeps rest
      else Forest.prune keeps rest

end

mutual

/-- The first tree whose top satisfies a test, where each one comes before those below it. -/
def Tree.find? (test : α → Bool) : Tree α → Option (Tree α)
  | .node value children =>
      if test value then some (.node value children) else Forest.find? test children

/-- The first tree of a forest, at any level, whose top satisfies a test. -/
def Forest.find? (test : α → Bool) : Forest α → Option (Tree α)
  | [] => none
  | tree :: rest => (tree.find? test).or (Forest.find? test rest)

end

mutual

/-- Puts other trees in the place of the first one whose top satisfies a test. -/
def Tree.replaceFirst? (test : α → Bool) (replacement : Tree α → Forest α) : Tree α → Option (Forest α)
  | .node value children =>
      if test value then some (replacement (.node value children))
      else (Forest.replaceFirst? test replacement children).map fun children => [.node value children]

/-- Puts other trees in the place of the first one of a forest, at any level. -/
def Forest.replaceFirst? (test : α → Bool) (replacement : Tree α → Forest α) : Forest α → Option (Forest α)
  | [] => none
  | tree :: rest =>
      match tree.replaceFirst? test replacement with
      | some trees => some (trees ++ rest)
      | none => (Forest.replaceFirst? test replacement rest).map (tree :: ·)

end

/-- The number of values in a forest. -/
def Forest.size (forest : Forest α) : Nat := (Forest.preorder forest).length

end Storyboard

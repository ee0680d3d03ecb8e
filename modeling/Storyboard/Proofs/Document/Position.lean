/-
This file states that no two records in view stand at the same place, nor at places with the same written form.
-/

import Storyboard.Document.Reached

namespace Storyboard

theorem toDigits_injective {left right : Nat} (same : Nat.toDigits 10 left = Nat.toDigits 10 right) : left = right := by
  have digits := congrArg (Nat.ofDigitChars 10 · 0) same
  simpa [Nat.ofDigitChars_toDigits] using digits

theorem toString_injective {left right : Nat} (same : toString left = toString right) : left = right := by
  refine toDigits_injective ?_
  rw [← Nat.toList_repr, ← Nat.toList_repr]
  exact congrArg String.toList same

namespace Path

variable {upper lower path : Path} {index : Nat}

/-- The root of a path is named by its position. -/
def IsIndexed (path : Path) : Prop := ∃ index : Nat, path.root = toString index

/-- The parts of a path that stand between the points of its written form. -/
def pieces (path : Path) : List (List Char) := path.root.toList :: path.steps.map (Nat.toDigits 10)

theorem toList_text (path : Path) : path.text.toList = ['.'].intercalate path.pieces := by
  have digits : String.toList ∘ toString = Nat.toDigits 10 := funext fun _ => Nat.toList_repr
  simp [text, pieces, String.toList_intercalate, digits]

theorem point_not_mem_digits (value : Nat) : '.' ∉ Nat.toDigits 10 value := by
  intro member
  have isDigit := Nat.isDigit_of_mem_toDigits (by decide) (by decide) member
  exact absurd isDigit (by decide)

/-- The written form of a path falls apart into its parts. -/
theorem splitOn_text (indexed : path.IsIndexed) : path.text.toList.splitOn '.' = path.pieces := by
  obtain ⟨index, named⟩ := indexed
  rw [toList_text]
  refine List.splitOn_intercalate '.' (fun piece member => ?_) (by simp [pieces])
  rw [pieces, named, List.mem_cons, List.mem_map] at member
  rcases member with rfl | ⟨step, -, rfl⟩
  · exact Nat.toList_repr ▸ point_not_mem_digits index
  · exact point_not_mem_digits step

/-- Paths from the roots are told apart by their written forms. -/
theorem eq_of_text_eq {left right : Path} (onLeft : left.IsIndexed) (onRight : right.IsIndexed)
    (same : left.text = right.text) : left = right := by
  have parts : left.pieces = right.pieces := by rw [← splitOn_text onLeft, ← splitOn_text onRight, same]
  obtain ⟨leftRoot, leftSteps⟩ := left
  obtain ⟨rightRoot, rightSteps⟩ := right
  obtain ⟨roots, steps⟩ := List.cons.inj parts
  obtain rfl : leftRoot = rightRoot := String.toList_inj.mp roots
  obtain rfl : leftSteps = rightSteps := List.map_inj_right (fun _ _ => toDigits_injective) |>.mp steps
  rfl

/-- A path leads down from another one, or is the same. -/
def Extends (lower upper : Path) : Prop := ∃ steps, lower = { upper with steps := upper.steps ++ steps }

theorem Extends.refl (path : Path) : path.Extends path := ⟨[], by simp⟩

theorem Extends.of_child (extended : lower.Extends (upper.child index)) : lower.Extends upper := by
  obtain ⟨steps, rfl⟩ := extended
  exact ⟨index :: steps, by simp [child]⟩

/-- A path below a child is not that of the parent. -/
theorem Extends.ne (extended : lower.Extends (upper.child index)) : upper ≠ lower := by
  obtain ⟨steps, rfl⟩ := extended
  intro same
  have long := congrArg (·.steps.length) same
  simp [child] at long

/-- A path leads down through one child alone. -/
theorem Extends.index_unique {other : Nat} (first : lower.Extends (upper.child index))
    (second : lower.Extends (upper.child other)) : index = other := by
  obtain ⟨steps, rfl⟩ := first
  obtain ⟨others, same⟩ := second
  have parts := congrArg Path.steps same
  simp only [child, List.append_assoc, List.append_cancel_left_eq, List.singleton_append, List.cons.injEq] at parts
  exact parts.1

/-- A path leads down from one root alone. -/
theorem Extends.root_unique {other : Nat} (first : lower.Extends (.ofIndex index))
    (second : lower.Extends (.ofIndex other)) : index = other := by
  obtain ⟨steps, rfl⟩ := first
  obtain ⟨others, same⟩ := second
  exact toString_injective (congrArg Path.root same)

end Path

mutual

/-- The records in view in an outline stand at its path or below it. -/
theorem Outline.extends_of_mem_reached (config : Config) (path : Path) (depth : Nat) :
    ∀ (outline : Outline) (sighting : Sighting), sighting ∈ outline.reached config path depth →
      sighting.path.Extends path
  | .node record children, sighting, member => by
      rw [Outline.reached] at member
      cases role : record.role with
      | ignored => simp [role] at member
      | container =>
          rw [role] at member
          obtain ⟨position, -, below⟩ := Outline.extends_of_mem_reachedFrom config path depth 0 children sighting member
          exact below.of_child
      | shown type =>
          simp only [role, List.mem_cons] at member
          rcases member with same | member
          · exact same ▸ .refl path
          · split at member
            · obtain ⟨position, -, below⟩ :=
                Outline.extends_of_mem_reachedFrom config path (depth + 1) 0 children sighting member
              exact below.of_child
            · simp at member
      | unwritten =>
          simp only [role, List.mem_singleton] at member
          exact member ▸ .refl path

/-- The records in view among the children of a record stand at the path of a child or below it. -/
theorem Outline.extends_of_mem_reachedFrom (config : Config) (path : Path) (depth index : Nat) :
    ∀ (outlines : List Outline) (sighting : Sighting),
      sighting ∈ Outline.reachedFrom config path depth index outlines →
        ∃ position, index ≤ position ∧ sighting.path.Extends (path.child position)
  | [], sighting, member => by simp [Outline.reachedFrom] at member
  | child :: rest, sighting, member => by
      rw [Outline.reachedFrom, List.mem_append] at member
      rcases member with first | later
      · exact ⟨index, Nat.le_refl index,
          Outline.extends_of_mem_reached config (path.child index) depth child sighting first⟩
      · obtain ⟨position, further, below⟩ :=
          Outline.extends_of_mem_reachedFrom config path depth (index + 1) rest sighting later
        exact ⟨position, by omega, below⟩

end

def Sighting.Apart (left right : Sighting) : Prop := left.path ≠ right.path

mutual

/-- No two records in view in an outline stand at the same place. -/
theorem Outline.pairwise_apart_reached (config : Config) (path : Path) (depth : Nat) :
    ∀ outline : Outline, (outline.reached config path depth).Pairwise Sighting.Apart
  | .node record children => by
      rw [Outline.reached]
      cases role : record.role with
      | ignored => exact .nil
      | container => exact Outline.pairwise_apart_reachedFrom config path depth 0 children
      | shown type =>
          dsimp only
          split
          · refine .cons (fun sighting member => ?_)
              (Outline.pairwise_apart_reachedFrom config path (depth + 1) 0 children)
            obtain ⟨position, -, below⟩ :=
              Outline.extends_of_mem_reachedFrom config path (depth + 1) 0 children sighting member
            exact below.ne
          · exact List.pairwise_singleton _ _
      | unwritten => exact List.pairwise_singleton _ _

/-- No two records in view among the children of a record stand at the same place. -/
theorem Outline.pairwise_apart_reachedFrom (config : Config) (path : Path) (depth index : Nat) :
    ∀ outlines : List Outline, (Outline.reachedFrom config path depth index outlines).Pairwise Sighting.Apart
  | [] => .nil
  | child :: rest => by
      rw [Outline.reachedFrom, List.pairwise_append]
      refine ⟨Outline.pairwise_apart_reached config (path.child index) depth child,
        Outline.pairwise_apart_reachedFrom config path depth (index + 1) rest, fun left first right later same => ?_⟩
      have onFirst := Outline.extends_of_mem_reached config (path.child index) depth child left first
      obtain ⟨position, further, onLater⟩ :=
        Outline.extends_of_mem_reachedFrom config path depth (index + 1) rest right later
      rw [← same] at onLater
      have equal := onFirst.index_unique onLater
      omega

end

namespace Document

/-- The records in view stand at the path of a root or below it. -/
theorem extends_of_mem_reachedOfRoots {config : Config} {index : Nat} {outlines : List Outline} {sighting : Sighting}
    (member : sighting ∈ reachedOfRoots config index outlines) :
    ∃ position, index ≤ position ∧ sighting.path.Extends (.ofIndex position) := by
  induction outlines generalizing index with
  | nil => simp [reachedOfRoots] at member
  | cons root rest ih =>
      rw [reachedOfRoots, List.mem_append] at member
      rcases member with first | later
      · exact ⟨index, Nat.le_refl index, Outline.extends_of_mem_reached config _ 0 root sighting first⟩
      · obtain ⟨position, further, below⟩ := ih later
        exact ⟨position, by omega, below⟩

/-- No two records in view in a document stand at the same place. -/
theorem pairwise_apart_reachedOfRoots (config : Config) (index : Nat) (outlines : List Outline) :
    (reachedOfRoots config index outlines).Pairwise Sighting.Apart := by
  induction outlines generalizing index with
  | nil => exact .nil
  | cons root rest ih =>
      rw [reachedOfRoots, List.pairwise_append]
      refine ⟨Outline.pairwise_apart_reached config _ 0 root, ih (index + 1), fun left first right later same => ?_⟩
      have onFirst := Outline.extends_of_mem_reached config _ 0 root left first
      obtain ⟨position, further, onLater⟩ := extends_of_mem_reachedOfRoots later
      rw [← same] at onLater
      have equal := onFirst.root_unique onLater
      omega

/-- The places of the records in view are told apart by their written forms. -/
theorem pairwise_text_reachedOfRoots (config : Config) (outlines : List Outline) :
    (reachedOfRoots config 0 outlines).Pairwise fun left right => left.path.text ≠ right.path.text := by
  have indexed : ∀ sighting ∈ reachedOfRoots config 0 outlines, sighting.path.IsIndexed := by
    intro sighting member
    obtain ⟨position, -, steps, placed⟩ := extends_of_mem_reachedOfRoots member
    exact ⟨position, by rw [placed]; rfl⟩
  refine (pairwise_apart_reachedOfRoots config 0 outlines).imp_of_mem fun onLeft onRight apart same => ?_
  exact apart (Path.eq_of_text_eq (indexed _ onLeft) (indexed _ onRight) same)

end Document

end Storyboard

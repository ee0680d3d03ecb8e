/-
This file states what is left of a text whose ends are dropped: it starts and ends with characters that are kept, and
nothing between them is lost.
-/

import Mathlib.Data.List.DropRight
import Mathlib.Data.List.Infix
import Storyboard.Text.Blank

namespace Storyboard

section Ends

variable {α : Type} {drops : α → Bool} {item : α}

/-- What is dropped at the start ends at an item that is kept, if not before. -/
theorem dropWhile_append_cons (keeps : drops item = false) (front rest : List α) :
    (front ++ item :: rest).dropWhile drops = front.dropWhile drops ++ item :: rest := by
  rw [List.dropWhile_append]
  split
  · rename_i gone
    rw [List.isEmpty_iff.mp gone, List.dropWhile_cons_of_neg (by simp [keeps]), List.nil_append]
  · rfl

/-- What is dropped at the end starts behind an item that is kept, if not later. -/
theorem rdropWhile_append_cons (keeps : drops item = false) (front rest : List α) :
    (front ++ item :: rest).rdropWhile drops = front ++ item :: rest.rdropWhile drops := by
  induction rest using List.reverseRecOn with
  | nil => exact List.rdropWhile_concat_neg _ _ _ (by simp [keeps])
  | append_singleton rest last ih =>
      rw [← List.cons_append, ← List.append_assoc, List.rdropWhile_concat, List.rdropWhile_concat]
      split
      · exact ih
      · simp

end Ends

namespace Text

variable {drops : Char → Bool} {character : Char}

theorem isInfix_trimBy (drops : Char → Bool) (characters : List Char) : trimBy drops characters <:+: characters :=
  (List.rdropWhile_prefix drops _).isInfix.trans (List.dropWhile_suffix drops).isInfix

/-- What is left of a trimmed text is part of it. -/
theorem mem_of_mem_trimBy {characters : List Char} (member : character ∈ trimBy drops characters) :
    character ∈ characters :=
  (isInfix_trimBy drops characters).subset member

/-- A trimmed text starts with a character that is kept. -/
theorem head?_trimBy (drops : Char → Bool) (characters : List Char) :
    ∀ first ∈ (trimBy drops characters).head?, drops first = false := by
  intro first start
  obtain ⟨dropped, parts⟩ := List.rdropWhile_prefix drops (characters.dropWhile drops)
  have kept := List.head?_dropWhile_not drops characters
  have same : (characters.dropWhile drops).head? = some first := by
    rw [← parts, List.head?_append]
    exact congrArg (Option.or · _) start
  rw [same] at kept
  exact kept

/-- A trimmed text ends with a character that is kept. -/
theorem getLast?_trimBy (drops : Char → Bool) (characters : List Char) :
    ∀ last ∈ (trimBy drops characters).getLast?, drops last = false := by
  intro last ending
  have filled : trimBy drops characters ≠ [] := by
    intro none
    rw [none] at ending
    cases ending
  rw [List.getLast?_eq_some_getLast filled] at ending
  obtain rfl := Option.mem_some.mp ending
  exact Bool.eq_false_iff.mpr (List.rdropWhile_last_not drops _ filled)

/-- A text that starts and ends with characters that are kept stays as it is. -/
theorem trimBy_eq_self {characters : List Char} (start : ∀ first ∈ characters.head?, drops first = false)
    (ending : ∀ last ∈ characters.getLast?, drops last = false) : trimBy drops characters = characters := by
  have front : characters.dropWhile drops = characters := by
    cases characters with
    | nil => rfl
    | cons first rest => exact List.dropWhile_cons_of_neg (by simp [start first rfl])
  show (characters.dropWhile drops).rdropWhile drops = characters
  rw [front, List.rdropWhile_eq_self_iff]
  intro filled
  simp [ending _ (List.getLast?_eq_some_getLast filled)]

/-- All characters that are kept are left. -/
theorem filter_trimBy (characters : List Char) :
    (trimBy drops characters).filter (!drops ·) = characters.filter (!drops ·) := by
  have lost {run : List Char} (inside : ∀ character ∈ run, drops character) : run.filter (!drops ·) = [] := by
    apply List.filter_eq_nil_iff.mpr
    intro character member
    simp [inside character member]
  have front : (characters.dropWhile drops).filter (!drops ·) = characters.filter (!drops ·) := by
    conv_rhs => rw [← List.takeWhile_append_dropWhile (p := drops) (l := characters)]
    rw [List.filter_append, lost (List.all_eq_true.mp List.all_takeWhile), List.nil_append]
  rw [← front]
  conv_rhs => rw [← List.rdropWhile_append_rtakeWhile (p := drops) (l := characters.dropWhile drops)]
  rw [List.filter_append, lost fun _ => List.mem_rtakeWhile_imp, List.append_nil]
  rfl

/-- A character that would be dropped at an end is left where it stands between two that are kept. -/
theorem mem_trimBy_iff (dropped : drops character) (characters : List Char) :
    character ∈ trimBy drops characters ↔ ∃ before after, characters = before ++ character :: after ∧
      (∃ first ∈ before, drops first = false) ∧ ∃ last ∈ after, drops last = false := by
  constructor
  · intro member
    obtain ⟨before, after, inside⟩ := List.append_of_mem member
    obtain ⟨front, back, whole⟩ := isInfix_trimBy drops characters
    have start := head?_trimBy drops characters
    have ending := getLast?_trimBy drops characters
    rw [inside] at start ending whole
    have neighbours : (∃ first ∈ before, drops first = false) ∧ ∃ last ∈ after, drops last = false := by
      constructor
      · cases before with
        | nil => simp [start character rfl] at dropped
        | cons first rest => exact ⟨first, by simp, start first rfl⟩
      · rcases List.eq_nil_or_concat after with rfl | ⟨rest, last, rfl⟩
        · simp [ending character (by simp)] at dropped
        · rw [List.concat_eq_append, ← List.cons_append, ← List.append_assoc, List.getLast?_concat] at ending
          exact ⟨last, by simp, ending last rfl⟩
    obtain ⟨⟨first, onLeft, keepsFirst⟩, last, onRight, keepsLast⟩ := neighbours
    refine ⟨front ++ before, after ++ back, by simp [← whole], ⟨first, ?_, keepsFirst⟩, last, ?_, keepsLast⟩
    · exact List.mem_append_right front onLeft
    · exact List.mem_append_left back onRight
  · rintro ⟨before, after, rfl, ⟨first, onLeft, keepsFirst⟩, last, onRight, keepsLast⟩
    obtain ⟨start, left, rfl⟩ := List.append_of_mem onLeft
    obtain ⟨right, ending, rfl⟩ := List.append_of_mem onRight
    have split : trimBy drops ((start ++ first :: left) ++ character :: (right ++ last :: ending)) =
        (start.dropWhile drops ++ first :: left) ++ character :: (right ++ last :: ending.rdropWhile drops) := by
      have front := dropWhile_append_cons keepsFirst start (left ++ character :: (right ++ last :: ending))
      have back := rdropWhile_append_cons keepsLast (start.dropWhile drops ++ first :: left ++ character :: right)
        ending
      simp only [List.append_assoc, List.cons_append] at front back ⊢
      rw [← back, ← front]
      rfl
    rw [split]
    simp

/-- What is dropped at the ends of a text may be longer there. -/
theorem trimBy_surrounded {left right : List Char} (before : ∀ character ∈ left, drops character)
    (after : ∀ character ∈ right, drops character) (middle : List Char) :
    trimBy drops (left ++ (middle ++ right)) = trimBy drops middle := by
  rw [trimBy, trimBy, List.dropWhile_append_of_pos before, List.dropWhile_append]
  split
  · rename_i empty
    have gone : right.dropWhile drops = [] := by
      rw [← List.append_nil right, List.dropWhile_append_of_pos after, List.dropWhile_nil]
    rw [gone, List.isEmpty_iff.mp empty]
  · rw [List.reverse_append, List.dropWhile_append_of_pos (by simpa using after)]

end Text

end Storyboard

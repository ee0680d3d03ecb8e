/-
This file states that the name of a main component can be declared in a script, and that exactly the names of its kind
stay as they are.
-/

import Storyboard.Export.Options
import Storyboard.Proofs.Export.Statement

namespace Storyboard

open Script

namespace Script

/-- The words that a module cannot declare. -/
def keywords : List String := [
  "arguments", "await", "break", "case", "catch", "class", "const", "continue", "debugger", "default", "delete", "do",
  "else", "enum", "eval", "export", "extends", "false", "finally", "for", "function", "if", "implements", "import", "in",
  "instanceof", "interface", "let", "new", "null", "package", "private", "protected", "public", "return", "static",
  "super", "switch", "this", "throw", "true", "try", "typeof", "var", "void", "while", "with", "yield"]

/-- An identifier that a module can declare. -/
structure IsDeclarable (name : String) : Prop where
  named : isIdentifier name
  free : name ∉ keywords

end Script

namespace ComponentName

/-- A name of plain letters and digits that starts with a capital. -/
structure IsProper (name : String) : Prop where
  filled : name ≠ ""
  plain : ∀ character ∈ name.toList, character.isAlphanum
  capital : ∀ first ∈ name.toList.head?, first.isUpper

theorem isProper_ofList {first : Char} {rest : List Char} (capital : first.isUpper)
    (plain : ∀ character ∈ first :: rest, character.isAlphanum) : IsProper (String.ofList (first :: rest)) where
  filled same := by
    have nothing := congrArg String.toList same
    rw [String.toList_ofList] at nothing
    exact List.cons_ne_nil _ _ nothing
  plain := by
    rw [String.toList_ofList]
    exact plain
  capital := by
    rw [String.toList_ofList, List.head?_cons]
    rintro _ ⟨⟩
    exact capital

theorem isProper_fallback : IsProper fallback :=
  isProper_ofList rfl (List.all_eq_true.mp (by decide))

/-- A letter becomes a capital. -/
theorem isUpper_toUpper {character : Char} (plain : character.isAlphanum) (letter : character.isDigit = false) :
    character.toUpper.isUpper := by
  have bounded := Markup.toNat_lt_of_isAlphanum plain
  revert plain letter
  exact Markup.of_forall_lt bounded (by decide)

theorem isAlphanum_of_isUpper {character : Char} (capital : character.isUpper) : character.isAlphanum := by
  have letter : character.isAlpha := (Bool.or_eq_true _ _).mpr (.inl capital)
  exact (Bool.or_eq_true _ _).mpr (.inl letter)

/-- A capital is no digit, and it has no other capital. -/
theorem toUpper_of_isUpper {character : Char} (capital : character.isUpper) :
    character.isDigit = false ∧ character.toUpper = character := by
  have bounded := Markup.toNat_lt_of_isAlphanum (isAlphanum_of_isUpper capital)
  revert capital
  exact Markup.of_forall_lt bounded (by decide)

/-- A text makes a name of plain letters and digits that starts with a capital. -/
theorem isProper_ofText (text : String) : IsProper (ofText text) := by
  unfold ofText
  cases filtered : text.toList.filter Char.isAlphanum with
  | nil => exact isProper_fallback
  | cons first rest =>
      have plain : ∀ character ∈ first :: rest, character.isAlphanum := fun character member =>
        List.of_mem_filter (filtered ▸ member)
      dsimp only
      split
      · have capital : 'S'.isUpper := rfl
        have front : ∀ character ∈ "Screen".toList, character.isAlphanum := List.all_eq_true.mp (by decide)
        exact isProper_ofList capital (List.forall_mem_append.mpr ⟨front, plain⟩)
      · rename_i letter
        rw [List.forall_mem_cons] at plain
        have capital := isUpper_toUpper plain.1 (eq_false_of_ne_true letter)
        exact isProper_ofList capital (List.forall_mem_cons.mpr ⟨isAlphanum_of_isUpper capital, plain.2⟩)

example : ["my-widget", "3d view", "***"].map ofText = ["Mywidget", "Screen3dview", "FigmaPrototype"] := by
  decide +kernel

section Proper

variable {name : String} (proper : IsProper name)

include proper

/-- The letters and digits of a name, of which there is a first one. -/
theorem IsProper.exists_cons : ∃ first rest, name.toList = first :: rest ∧ first.isUpper := by
  cases spelled : name.toList with
  | nil => exact absurd (String.toList_eq_nil_iff.mp spelled) proper.filled
  | cons first rest => exact ⟨first, rest, rfl, proper.capital first (spelled ▸ rfl)⟩

/-- A proper name stays as it is. -/
theorem IsProper.ofText_eq_self : ofText name = name := by
  obtain ⟨first, rest, spelled, capital⟩ := proper.exists_cons
  have kept : name.toList.filter Char.isAlphanum = first :: rest :=
    (List.filter_eq_self.mpr proper.plain).trans spelled
  obtain ⟨letter, same⟩ := toUpper_of_isUpper capital
  rw [ofText, kept]
  dsimp only
  rw [letter, if_neg Bool.false_ne_true, capitalized, same, ← spelled, String.ofList_toList]

/-- A proper name is an identifier, as it does not start with a digit. -/
theorem IsProper.isIdentifier : isIdentifier name := by
  obtain ⟨first, rest, spelled, capital⟩ := proper.exists_cons
  rw [Script.isIdentifier, Bool.and_eq_true]
  constructor
  · rw [spelled, List.head?_cons, Option.any_some, (toUpper_of_isUpper capital).1]
    rfl
  · rw [List.all_eq_true]
    intro character member
    rw [isIdentifierCharacter, proper.plain character member]
    rfl

/-- A proper name is no keyword, as those are written in small letters. -/
theorem IsProper.isDeclarable : IsDeclarable name where
  named := proper.isIdentifier
  free member := by
    have small : ∀ word ∈ keywords, word.toList.head?.any Char.isUpper = false := by decide
    obtain ⟨first, rest, spelled, capital⟩ := proper.exists_cons
    have start := small name member
    rw [spelled, List.head?_cons, Option.any_some, capital] at start
    exact absurd start (by decide)

end Proper

/-- Exactly the proper names stay as they are. -/
theorem ofText_eq_self_iff (name : String) : ofText name = name ↔ IsProper name :=
  ⟨fun same => same ▸ isProper_ofText name, IsProper.ofText_eq_self⟩

/-- The name of a component is an identifier. -/
theorem isIdentifier_ofText (text : String) : isIdentifier (ofText text) := (isProper_ofText text).isIdentifier

end ComponentName

end Storyboard

/-
This file reads back the lines of script components that declare names, and states that these names are identifiers.
-/

import Storyboard.Proofs.Document.Position
import Storyboard.Proofs.Export.ComponentName
import Storyboard.Proofs.Export.Fresh

namespace Storyboard

open Text Script

namespace ScriptExport

theorem isIdentifier_append {first later : String} (named : isIdentifier first)
    (known : ∀ character ∈ later.toList, isIdentifierCharacter character) : isIdentifier (first ++ later) := by
  rw [isIdentifier, Bool.and_eq_true] at named
  rw [isIdentifier, String.toList_append, List.all_append, named.2, Bool.true_and, Bool.and_eq_true]
  refine ⟨?_, List.all_eq_true.mpr known⟩
  obtain ⟨start, starts, letter⟩ := (Option.any_eq_true _ _).mp named.1
  rw [List.head?_append, starts]
  exact letter

theorem isIdentifier_lengthened {name : String} (named : isIdentifier name) (count : Nat) :
    isIdentifier (lengthened name count) := by
  induction count generalizing name with
  | zero => exact named
  | succ count ih => exact ih (isIdentifier_append named (List.all_eq_true.mp (by decide)))

theorem toList_screenName (index : Nat) : (screenName index).toList = "Screen".toList ++ Nat.toDigits 10 index := by
  rw [← Nat.toList_repr]
  exact String.toList_append

theorem isIdentifier_screenName (index : Nat) : isIdentifier (screenName index) := by
  refine isIdentifier_append (by decide) fun character member => ?_
  have listed : character ∈ Nat.toDigits 10 index := by
    rw [← Nat.toList_repr]
    exact member
  have digit := Nat.isDigit_of_mem_toDigits (by decide) (by decide) listed
  simp [isIdentifierCharacter, Char.isAlphanum, digit]

/-- The names of screens differ. -/
theorem screenName_injective : Function.Injective screenName := by
  intro left right same
  have spelled := congrArg String.toList same
  rw [toList_screenName, toList_screenName] at spelled
  exact toDigits_injective (List.append_cancel_left spelled)

/-- A line that opens a function declares the name behind its first word. -/
theorem statements_opening {word name : String} {make : String → Statement}
    (known : (word, fun characters => make (leadingIdentifier characters)) ∈ forms) (named : isIdentifier name) :
    statements (word ++ name ++ "() \x7b") = [make name] := by
  have flat : IsFlat (name ++ "() \x7b") := isFlat_append (isFlat_of_isIdentifier named) (by decide)
  have declared : leadingIdentifier (name.toList ++ "() \x7b".toList) = name :=
    leadingIdentifier_append named (ends_cons (by decide) _)
  rw [String.append_assoc, statements_line known flat, String.toList_append, declared]

theorem statements_function {name : String} (named : isIdentifier name) :
    statements ("function " ++ name ++ "() \x7b") = [.function name] := by
  have known : ("function ", readFunction) ∈ forms := by simp [forms]
  exact statements_opening known named

theorem statements_exported {name : String} (named : isIdentifier name) :
    statements ("export default function " ++ name ++ "() \x7b") = [.exported name] := by
  have known : ("export default function ", readExported) ∈ forms := by simp [forms]
  exact statements_opening known named

/-- The line that lists the screens binds a name and uses those in the list. -/
theorem statements_list {names : List String} (named : ∀ name ∈ names, isIdentifier name) :
    statements ("const screens = [" ++ ", ".intercalate names ++ "];") = [.binding "screens" names] := by
  have known : ("const ", readBinding) ∈ forms := by simp [forms]
  have flat : IsFlat ("screens = [" ++ ", ".intercalate names ++ "];") :=
    isFlat_append (isFlat_append (by decide) (isFlat_intercalate (by decide) fun name member =>
      isFlat_of_isIdentifier (named name member))) (by decide)
  have spelled : ("screens = [" ++ ", ".intercalate names ++ "];").toList =
      "screens = ".toList ++ '[' :: ((", ".intercalate names).toList ++ ']' :: [';']) := by
    have opening : "screens = [".toList = "screens = ".toList ++ ['['] := by decide
    rw [String.toList_append, String.toList_append, opening, List.append_assoc, List.append_assoc]
    rfl
  have listed : identifiers ("screens = [" ++ ", ".intercalate names ++ "];").toList = "screens" :: names := by
    rw [spelled, identifiers_append_cons _ (by decide), identifiers_append_cons _ (by decide),
      identifiers_intercalate named]
    exact congrArg ("screens" :: ·) (List.append_nil names)
  have line := statements_line known flat
  rw [readBinding, listed, ← String.append_assoc, ← String.append_assoc] at line
  exact line

/-- A line that imports what another module exports. -/
theorem statements_default {name source : String} (named : isIdentifier name)
    (inside : ∀ character ∈ source.toList, isUnquoted character) {text : String}
    (spelled : text.toList =
      "import ".toList ++ (name.toList ++ (" from '".toList ++ (source.toList ++ "';".toList)))) :
    statements text = [.imports [name] source] := by
  have before : ∀ character ∈ name.toList ++ " from ".toList, isUnquoted character :=
    List.forall_mem_append.mpr ⟨isUnquoted_of_isIdentifier named, List.all_eq_true.mp (by decide)⟩
  have words : identifiers (name.toList ++ " from ".toList) = [name, "from"] := by
    refine (identifiers_append_cons name.toList (by decide) "from ".toList).trans ?_
    rw [identifiers_of_isIdentifier named]
    rfl
  rw [statements_import before inside (by rw [spelled, List.append_assoc]; rfl), words, String.ofList_toList]
  rfl

/-- A line that imports a component of the design system. -/
theorem statements_importLine {component slug : String} (named : isIdentifier component)
    (plain : ∀ character ∈ slug.toList, isUnquoted character) :
    statements (importLine component slug) = [.imports [component] (Format.designSystemPackage ++ "/" ++ slug)] := by
  have before : ∀ character ∈ "\x7b ".toList ++ (component.toList ++ " \x7d from ".toList), isUnquoted character :=
    List.forall_mem_append.mpr ⟨List.all_eq_true.mp (by decide),
      List.forall_mem_append.mpr ⟨isUnquoted_of_isIdentifier named, List.all_eq_true.mp (by decide)⟩⟩
  have inside : ∀ character ∈ (Format.designSystemPackage ++ "/" ++ slug).toList, isUnquoted character := by
    rw [String.toList_append, List.forall_mem_append]
    exact ⟨List.all_eq_true.mp (by decide), plain⟩
  have words : identifiers ("\x7b ".toList ++ (component.toList ++ " \x7d from ".toList)) = [component, "from"] := by
    refine (identifiers_cons (by decide) _).trans ((identifiers_cons (by decide) _).trans ?_)
    refine (identifiers_append_cons component.toList (by decide) "\x7d from ".toList).trans ?_
    rw [identifiers_of_isIdentifier named]
    rfl
  have spelled : (importLine component slug).toList = "import ".toList ++ (("\x7b ".toList ++ (component.toList ++
      " \x7d from ".toList)) ++ '\'' :: ((Format.designSystemPackage ++ "/" ++ slug).toList ++ '\'' :: [';'])) := by
    have opening : "import \x7b ".toList = "import ".toList ++ "\x7b ".toList := by decide
    have closing : " \x7d from '".toList = " \x7d from ".toList ++ ['\''] := by decide
    delta importLine
    simp only [String.toList_append, opening, closing, List.append_assoc]
    rfl
  rw [statements_import before inside spelled, words, String.ofList_toList]
  rfl

end ScriptExport

end Storyboard

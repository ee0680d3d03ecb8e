/-
This file states that values are written on one line, in basic characters.
-/

import Storyboard.Json.Printer
import Storyboard.Proofs.Number.Written

namespace Storyboard

/-- A text without line ends. -/
def Text.IsFlat (text : String) : Prop := '\n' ∉ text.toList

instance (text : String) : Decidable (Text.IsFlat text) := inferInstanceAs (Decidable ('\n' ∉ text.toList))

namespace Text

/-- The characters at which a text breaks into lines. -/
def lineBreaks : List Char :=
  ['\n', '\x0b', '\x0c', '\x0d', '\x1c', '\x1d', '\x1e', '\x85', '\u2028', '\u2029']

def IsSingleLine (text : String) : Prop := ∀ character ∈ text.toList, character ∉ lineBreaks

instance (text : String) : Decidable (IsSingleLine text) :=
  List.decidableBAll (fun character => character ∉ lineBreaks) text.toList

/-- A basic character is a space or a visible one among the first 128 characters. -/
def isBasic (character : Char) : Bool := 0x20 ≤ character.toNat && character.toNat < 0x7F

def IsBasicText (text : String) : Prop := text.toList.all isBasic

instance (text : String) : Decidable (IsBasicText text) := inferInstanceAs (Decidable (text.toList.all isBasic = true))

/-- What holds for texts and a separator holds for the joined text when it holds for texts put together. -/
theorem intercalate_induction {holds : String → Prop} (nothing : holds "")
    (together : ∀ first later, holds first → holds later → holds (first ++ later)) {separator : String}
    (between : holds separator) {texts : List String} (each : ∀ text ∈ texts, holds text) :
    holds (separator.intercalate texts) := by
  induction texts with
  | nil => exact nothing
  | cons text others ih =>
      rw [List.forall_mem_cons] at each
      cases others with
      | nil =>
          rw [String.intercalate_singleton]
          exact each.1
      | cons other rest =>
          rw [String.intercalate_cons_cons]
          exact together _ _ (together _ _ each.1 between) (ih each.2)

theorem isFlat_append {first later : String} (before : IsFlat first) (after : IsFlat later) :
    IsFlat (first ++ later) := by
  rw [IsFlat, String.toList_append, List.mem_append, not_or]
  exact ⟨before, after⟩

theorem isFlat_intercalate {separator : String} (between : IsFlat separator) {texts : List String}
    (each : ∀ text ∈ texts, IsFlat text) : IsFlat (separator.intercalate texts) :=
  intercalate_induction (by decide) (fun _ _ => isFlat_append) between each

theorem isSingleLine_append_iff (first later : String) :
    IsSingleLine (first ++ later) ↔ IsSingleLine first ∧ IsSingleLine later := by
  rw [IsSingleLine, String.toList_append, List.forall_mem_append]
  rfl

theorem isSingleLine_append {first later : String} (before : IsSingleLine first) (after : IsSingleLine later) :
    IsSingleLine (first ++ later) := (isSingleLine_append_iff first later).mpr ⟨before, after⟩

theorem isBasicText_append {first later : String} (before : IsBasicText first) (after : IsBasicText later) :
    IsBasicText (first ++ later) := by
  rw [IsBasicText, String.toList_append, List.all_append, Bool.and_eq_true]
  exact ⟨before, after⟩

/-- A basic text stays basic between two others. -/
theorem isBasicText_enclosed {front middle back : String} (before : IsBasicText front) (inside : IsBasicText middle)
    (after : IsBasicText back) : IsBasicText (front ++ middle ++ back) :=
  isBasicText_append (isBasicText_append before inside) after

theorem isBasicText_intercalate {separator : String} (between : IsBasicText separator) {texts : List String}
    (each : ∀ text ∈ texts, IsBasicText text) : IsBasicText (separator.intercalate texts) :=
  intercalate_induction (by decide) (fun _ _ => isBasicText_append) between each

theorem IsBasicText.isSingleLine {text : String} (basic : IsBasicText text) : IsSingleLine text := by
  intro character member breaking
  have refused : lineBreaks.all (!isBasic ·) := by decide
  have kept := List.all_eq_true.mp basic character member
  simpa [kept] using List.all_eq_true.mp refused character breaking

theorem IsSingleLine.isFlat {text : String} (single : IsSingleLine text) : IsFlat text :=
  fun member => single _ member (by decide)

theorem IsBasicText.isFlat {text : String} (basic : IsBasicText text) : IsFlat text := basic.isSingleLine.isFlat

/-- Numeric characters are basic. -/
theorem isBasicText_of_isNumeric {text : String} (numeric : ∀ character ∈ text.toList, isNumeric character) :
    IsBasicText text := by
  apply List.all_eq_true.mpr
  intro character member
  rcases Bool.or_eq_true_iff.mp (numeric character member) with alphanumeric | sign
  · have bounds := code_of_isAlphanum alphanumeric
    simp only [isBasic, Bool.and_eq_true, decide_eq_true_eq]
    omega
  · have signs : ['.', '-', '+'].all isBasic := by decide
    exact List.all_eq_true.mp signs character (of_decide_eq_true sign)

theorem all_isBasic_hexText (width value : Nat) : (hexText width value).all isBasic := by
  have basic : ∀ digit < 16, isBasic (hexDigit digit) := by decide
  induction width generalizing value with
  | zero => rfl
  | succ width ih =>
      rw [hexText, List.all_append, ih, Bool.true_and, List.all_cons, List.all_nil, Bool.and_true]
      exact basic _ (Nat.mod_lt _ (by decide))

end Text

namespace Json

open Text

theorem all_isBasic_unitEscape (code : Nat) : (unitEscape code).all isBasic := by
  rw [unitEscape, List.all_cons, List.all_cons, all_isBasic_hexText]
  decide

/-- Each character is escaped, unless it is basic itself. -/
theorem all_isBasic_escapeCharacter (character : Char) : (escapeCharacter character).all isBasic := by
  have branch {condition : Prop} [Decidable condition] {first second : List Char}
      (before : condition → first.all isBasic) (after : second.all isBasic) :
      (if condition then first else second).all isBasic := by
    split
    · rename_i holds
      exact before holds
    · exact after
  have fixed {escape : List Char} (basic : escape.all isBasic) {condition : Prop} : condition → escape.all isBasic :=
    fun _ => basic
  have plain (bounds : 0x20 ≤ character.toNat && character.toNat < 0x80 && character.toNat ≠ 0x7F) :
      [character].all isBasic := by
    simp only [Bool.and_eq_true, decide_eq_true_eq] at bounds
    simp only [List.all_cons, List.all_nil, isBasic, Bool.and_true, Bool.and_eq_true, decide_eq_true_eq]
    omega
  have units (high low : Nat) : (unitEscape high ++ unitEscape low).all isBasic := by
    rw [List.all_append, all_isBasic_unitEscape, all_isBasic_unitEscape, Bool.and_self]
  -- All branches are fixed escapes but the last three: the character itself, and one escaped unit or two.
  exact branch (fixed (by decide)) (branch (fixed (by decide)) (branch (fixed (by decide)) (branch (fixed (by decide))
    (branch (fixed (by decide)) (branch (fixed (by decide)) (branch (fixed (by decide)) (branch plain
      (branch (fixed (all_isBasic_unitEscape _)) (units _ _)))))))))

theorem isBasicText_stringText (text : String) : IsBasicText (stringText text) := by
  have body : (text.toList.flatMap escapeCharacter).all isBasic := by
    rw [List.all_flatMap, List.all_eq_true]
    exact fun character _ => all_isBasic_escapeCharacter character
  rw [IsBasicText, stringText, String.toList_ofList, List.cons_append, List.all_cons, List.all_append, body]
  decide

mutual

/-- A value is written in basic characters. -/
theorem isBasicText_compact : ∀ value : Json, IsBasicText value.compact
  | .null => by decide
  | .bool value => by cases value <;> decide
  | .int value => isBasicText_of_isNumeric (isNumeric_toString_int value)
  | .double value => isBasicText_of_isNumeric
      (NumberLayout.isNumeric_text (List.all_eq_true.mp (by decide)) (List.all_eq_true.mp (by decide)) value)
  | .string value => isBasicText_stringText value
  | .array items => by
      have comma : IsBasicText ", " := by decide
      have inside := isBasicText_intercalate comma (isBasicText_compactItems items)
      rw [compact]
      exact isBasicText_enclosed (by decide) inside (by decide)
  | .object fields => by
      have comma : IsBasicText ", " := by decide
      have inside := isBasicText_intercalate comma (isBasicText_compactFields fields)
      rw [compact]
      exact isBasicText_enclosed (by decide) inside (by decide)

theorem isBasicText_compactItems : ∀ items : List Json, ∀ text ∈ compactItems items, IsBasicText text
  | [] => by simp [compactItems]
  | item :: rest => by
      rw [compactItems, List.forall_mem_cons]
      exact ⟨isBasicText_compact item, isBasicText_compactItems rest⟩

theorem isBasicText_compactFields : ∀ fields : List (String × Json), ∀ text ∈ compactFields fields, IsBasicText text
  | [] => by simp [compactFields]
  | (name, value) :: rest => by
      rw [compactFields, List.forall_mem_cons]
      have colon : IsBasicText ": " := by decide
      have written := isBasicText_enclosed (isBasicText_stringText name) colon (isBasicText_compact value)
      exact ⟨written, isBasicText_compactFields rest⟩

end

/-- A value is written on one line. -/
theorem isFlat_compact (value : Json) : IsFlat value.compact := value.isBasicText_compact.isFlat

end Json

end Storyboard

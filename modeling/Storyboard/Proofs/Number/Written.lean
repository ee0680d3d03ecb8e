/-
This file states which characters the texts of numbers are made of.
-/

import Storyboard.Number.Basic

namespace Storyboard

/-- Letters, digits, signs and points, of which the texts of numbers are made. -/
def isNumeric (character : Char) : Bool := character.isAlphanum || character ∈ ['.', '-', '+']

/-- Plain letters and digits lie between the first digit and the last letter. -/
theorem code_of_isAlphanum {character : Char} (inside : character.isAlphanum) :
    0x30 ≤ character.toNat ∧ character.toNat ≤ 0x7A := by
  delta Char.isAlphanum Char.isAlpha Char.isUpper Char.isLower Char.isDigit at inside
  simp only [Bool.or_eq_true, Bool.and_eq_true, decide_eq_true_eq, UInt32.le_iff_toNat_le, ge_iff_le] at inside
  change ((0x41 ≤ character.toNat ∧ character.toNat ≤ 0x5A) ∨ (0x61 ≤ character.toNat ∧ character.toNat ≤ 0x7A)) ∨
    (0x30 ≤ character.toNat ∧ character.toNat ≤ 0x39) at inside
  omega

theorem isNumeric_of_isDigit {character : Char} (digit : character.isDigit) : isNumeric character := by
  simp [isNumeric, Char.isAlphanum, digit]

theorem isNumeric_decimalDigits (value : Nat) : ∀ character ∈ decimalDigits value, isNumeric character := by
  intro character member
  rw [decimalDigits, Nat.toList_repr] at member
  exact isNumeric_of_isDigit (Nat.isDigit_of_mem_toDigits (by decide) (by decide) member)

theorem isNumeric_zeros (count : Nat) : ∀ character ∈ List.replicate count '0', isNumeric character := by
  intro character member
  rw [List.eq_of_mem_replicate member]
  decide

/-- A sign keeps digits numeric. -/
theorem isNumeric_signed {negative : Prop} [Decidable negative] {body : List Char}
    (numeric : ∀ character ∈ body, isNumeric character) :
    ∀ character ∈ (if negative then '-' :: body else body), isNumeric character := by
  split
  · exact List.forall_mem_cons.mpr ⟨by decide, numeric⟩
  · exact numeric

/-- What is left of a text when its end is dropped is part of it. -/
theorem mem_of_mem_dropEnd {test : Char → Bool} {characters : List Char} {character : Char}
    (member : character ∈ (characters.reverse.dropWhile test).reverse) : character ∈ characters := by
  have inside := (List.dropWhile_sublist test).subset (List.mem_reverse.mp member)
  exact List.mem_reverse.mp inside

namespace NumberLayout

variable {layout : NumberLayout}

theorem isNumeric_exponentText (exponent : Int) :
    ∀ character ∈ layout.exponentText exponent, isNumeric character := by
  refine List.forall_mem_cons.mpr ⟨?_, List.forall_mem_append.mpr ⟨isNumeric_zeros _, isNumeric_decimalDigits _⟩⟩
  split <;> decide

/-- Digits with a point or an exponent are numeric. -/
theorem isNumeric_digitsText {digits : List Char} (numeric : ∀ character ∈ digits, isNumeric character)
    (leading : Int) : ∀ character ∈ layout.digitsText digits leading, isNumeric character := by
  have taken (count : Nat) : ∀ character ∈ digits.take count, isNumeric character := fun character member =>
    numeric character (List.mem_of_mem_take member)
  have dropped (count : Nat) : ∀ character ∈ digits.drop count, isNumeric character := fun character member =>
    numeric character (List.mem_of_mem_drop member)
  have point : ∀ character ∈ ['.'], isNumeric character := List.all_eq_true.mp (by decide)
  unfold digitsText
  dsimp only
  split
  · split
    · exact List.forall_mem_append.mpr ⟨List.forall_mem_append.mpr
        ⟨List.all_eq_true.mp (by decide), isNumeric_zeros _⟩, numeric⟩
    · refine List.forall_mem_append.mpr ⟨List.forall_mem_append.mpr ⟨List.forall_mem_append.mpr
        ⟨taken _, isNumeric_zeros _⟩, point⟩, ?_⟩
      split
      · exact List.all_eq_true.mp (by decide)
      · exact dropped _
  · refine List.forall_mem_append.mpr ⟨List.forall_mem_append.mpr ⟨taken 1, ?_⟩,
      List.forall_mem_cons.mpr ⟨by decide, isNumeric_exponentText leading⟩⟩
    split
    · simp
    · exact List.forall_mem_cons.mpr ⟨by decide, dropped 1⟩

/-- The text of a number is numeric when the words for numbers beyond all bounds are. -/
theorem isNumeric_text (word : ∀ character ∈ layout.undefinedWord.toList, isNumeric character)
    (bound : ∀ character ∈ layout.infiniteWord.toList, isNumeric character) (value : Double) :
    ∀ character ∈ (layout.text value).toList, isNumeric character := by
  cases value with
  | nan => exact word
  | infinite negative =>
      cases negative with
      | false => exact bound
      | true =>
          have signed : (layout.text (.infinite true)).toList = '-' :: layout.infiniteWord.toList := by
            rw [text, if_pos rfl, String.toList_append]
            rfl
          rw [signed]
          exact List.forall_mem_cons.mpr ⟨by decide, bound⟩
  | finite negative steps fits =>
      have digits (count : Nat) : ∀ character ∈ dropTrailingZeros (decimalDigits count), isNumeric character :=
        fun character member => isNumeric_decimalDigits count character (mem_of_mem_dropEnd member)
      rw [text, String.toList_ofList]
      refine isNumeric_signed ?_
      split
      · exact List.all_eq_true.mp (by decide)
      · exact isNumeric_digitsText (digits _) _

end NumberLayout

namespace Double

theorem isNumeric_placesText (count : Nat) : ∀ character ∈ placesText count, isNumeric character :=
  List.forall_mem_append.mpr ⟨isNumeric_decimalDigits _, List.forall_mem_cons.mpr ⟨by decide,
    List.forall_mem_append.mpr ⟨isNumeric_zeros _, isNumeric_decimalDigits _⟩⟩⟩

/-- A number in a style is numeric. -/
theorem isNumeric_styleText (value : Double) : ∀ character ∈ value.styleText.toList, isNumeric character := by
  cases value with
  | nan => exact List.all_eq_true.mp (by decide)
  | infinite negative => cases negative <;> exact List.all_eq_true.mp (by decide)
  | finite negative steps fits =>
      rw [styleText, String.toList_ofList]
      refine isNumeric_signed ?_
      split
      · exact isNumeric_decimalDigits _
      · exact fun character member =>
          isNumeric_placesText _ character (mem_of_mem_dropEnd (mem_of_mem_dropEnd member))

end Double

theorem isNumeric_toString_int (value : Int) : ∀ character ∈ (toString value).toList, isNumeric character := by
  cases value with
  | ofNat magnitude => exact isNumeric_decimalDigits magnitude
  | negSucc magnitude =>
      have spelled : (toString (Int.negSucc magnitude)).toList = '-' :: decimalDigits (magnitude + 1) := by
        simp [toString, Int.repr, decimalDigits]
      rw [spelled]
      exact List.forall_mem_cons.mpr ⟨by decide, isNumeric_decimalDigits _⟩

namespace Number

theorem isNumeric_styleText (value : Number) : ∀ character ∈ value.styleText.toList, isNumeric character := by
  cases value with
  | whole value => exact isNumeric_toString_int value
  | double value => exact value.isNumeric_styleText

theorem isNumeric_plainText (value : Number) : ∀ character ∈ value.plainText.toList, isNumeric character := by
  cases value with
  | whole value => exact isNumeric_toString_int value
  | double value =>
      exact NumberLayout.isNumeric_text (List.all_eq_true.mp (by decide)) (List.all_eq_true.mp (by decide)) value

end Number

end Storyboard

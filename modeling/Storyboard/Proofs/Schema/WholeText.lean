/-
This file states that a whole number that is read from a text can be written out again: it has no more digits than the
text may have characters.
-/

import Mathlib.Algebra.GroupWithZero.Nat
import Mathlib.Data.List.TakeDrop
import Mathlib.Data.List.TakeWhile
import Storyboard.Json.Basic
import Storyboard.Proofs.Schema.Checked

namespace Storyboard

namespace Numeral

/-- The digits in front are digits. -/
theorem isDigit_of_mem_takeDigits {characters : List Char} {digit : Char} (member : digit ∈ (takeDigits characters).1) :
    digit.isDigit := by
  rw [takeDigits, List.span_eq_takeWhile_dropWhile] at member
  exact List.mem_takeWhile_imp member

/-- Digits behind a value have less than one more of it in their place. -/
theorem foldl_lt {digits : List Char} (plain : ∀ digit ∈ digits, digit.isDigit) (value : Nat) :
    digits.foldl (fun value digit => value * 10 + (digit.toNat - 0x30)) value < (value + 1) * 10 ^ digits.length := by
  induction digits generalizing value with
  | nil => simp
  | cons digit rest ih =>
      obtain ⟨top, others⟩ := List.forall_mem_cons.mp plain
      have small : digit.toNat - 0x30 ≤ 9 := by
        simp only [Char.isDigit, Bool.and_eq_true, decide_eq_true_eq, UInt32.le_iff_toNat_le] at top
        have most : digit.toNat ≤ 57 := top.2
        omega
      rw [List.foldl_cons, List.length_cons, Nat.pow_succ']
      refine Nat.lt_of_lt_of_le (ih others _) ?_
      rw [← Nat.mul_assoc]
      exact Nat.mul_le_mul_right _ (by omega)

/-- The value of digits has no more of them. -/
theorem digitsValue_lt {digits : List Char} (plain : ∀ digit ∈ digits, digit.isDigit) :
    digitsValue digits < 10 ^ digits.length := by
  rw [digitsValue]
  simpa using foldl_lt plain 0

end Numeral

namespace Schema

namespace WholeText

/-- A whole number that is read is that of some digits, no more of them than a text may have, under a sign. -/
theorem plain_eq_ok {characters : List Char} {value : Int} (success : plain characters = .ok value) :
    ∃ digits : List Char, (∀ digit ∈ digits, digit.isDigit) ∧ digits.length ≤ maxCharacters ∧
      value.natAbs = Numeral.digitsValue digits := by
  unfold plain at success
  split at success
  rename_i negative unsigned _
  split at success
  rename_i digits rest taken
  have areDigits : ∀ digit ∈ digits, digit.isDigit := by
    split at taken
    · obtain ⟨rfl, -⟩ := Prod.mk.inj taken
      simp
    · intro digit member
      rw [show digits = (Numeral.takeDigits unsigned).1 by rw [taken]] at member
      exact Numeral.isDigit_of_mem_takeDigits member
  dsimp only at success
  by_cases long : maxCharacters < digits.length + if negative then 1 else 0
  · rw [if_pos long] at success
    nomatch success
  have short : digits.length ≤ maxCharacters := Nat.le_trans (Nat.le_add_right _ _) (Nat.not_lt.mp long)
  rw [if_neg long] at success
  by_cases broken : digits.isEmpty || !rest.isEmpty
  · rw [if_pos broken] at success
    nomatch success
  rw [if_neg broken] at success
  obtain rfl := Except.ok.inj success
  refine ⟨digits, areDigits, short, ?_⟩
  cases negative <;> simp

/-- A whole number that is read from a text can be written out. -/
theorem fitsDigits_of_read {text : String} {value : Int} (success : read text = .ok value) : Json.fitsDigits value := by
  unfold read at success
  split at success
  · simp at success
  obtain ⟨digits, areDigits, short, same⟩ := plain_eq_ok success
  have bounded : value.natAbs < 10 ^ Json.maxDigits := by
    rw [same]
    exact (Numeral.digitsValue_lt areDigits).trans_le (Nat.pow_le_pow_right (by decide) short)
  exact decide_eq_true ((Nat.length_toDigits_le_iff (by decide) (by decide)).mpr bounded)

end WholeText

/-- A text that passes as a whole number gives one that can be written out. -/
theorem fitsDigits_of_whole_string {text : String} {value : Int} (passed : whole (.string text) = .valid value) :
    Json.fitsDigits value := by
  simp only [whole] at passed
  split at passed
  · rename_i checked success
    exact Checked.valid.inj passed ▸ WholeText.fitsDigits_of_read success
  · simp at passed

end Schema

end Storyboard

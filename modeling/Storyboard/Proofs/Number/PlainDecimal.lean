/-
This file states that numbers in styles are written as plain decimals: whole numbers exactly, and others off by at most
half of the last place that styles keep.
-/

import Mathlib.Algebra.Order.Field.Rat
import Mathlib.Algebra.Order.Ring.Abs
import Mathlib.Data.List.DropRight
import Mathlib.Tactic.FieldSimp
import Mathlib.Tactic.Linarith
import Storyboard.Proofs.Number.Unit
import Storyboard.Proofs.Number.Written
import Storyboard.Proofs.Text.Trim

namespace Storyboard

/-- Only the number zero is written with a zero in front. -/
theorem toDigits_eq_zero_of_head? {value : Nat} (leading : (Nat.toDigits 10 value).head? = some '0') :
    Nat.toDigits 10 value = ['0'] := by
  induction value using Nat.strong_induction_on with
  | _ value ih =>
      by_cases single : value < 10
      · rw [Nat.toDigits_of_lt_base single] at leading ⊢
        rw [List.head?_cons, Option.some.injEq] at leading
        rw [leading]
      · rw [Nat.toDigits_of_base_le (by decide) (by omega),
          List.head?_append_of_ne_nil _ Nat.toDigits_ne_nil] at leading
        have front := ih (value / 10) (by omega) leading
        have none : value / 10 = 0 := by
          rw [← Nat.ofDigitChars_ten_toDigits (n := value / 10), front]
          rfl
        omega

/-- A decimal as it is written: its sign, the digits of its whole part, and its places behind the point. -/
@[ext]
structure PlainDecimal where
  negative : Bool
  whole : List Char
  places : List Char
  isDigit_whole : ∀ digit ∈ whole, digit.isDigit
  whole_ne_nil : whole ≠ []
  /-- A zero in front stands alone. -/
  leading : whole.head? = some '0' → whole = ['0']
  isDigit_places : ∀ digit ∈ places, digit.isDigit
  length_places : places.length ≤ 3
  trailing : places.getLast? ≠ some '0'
  /-- Zero has no sign. -/
  signed : negative → whole ≠ ['0'] ∨ places ≠ []

namespace PlainDecimal

/-- The characters behind the sign. There is a point only in front of places. -/
def unsigned (decimal : PlainDecimal) : List Char :=
  decimal.whole ++ if decimal.places.isEmpty then [] else '.' :: decimal.places

def text (decimal : PlainDecimal) : String :=
  String.ofList (if decimal.negative then '-' :: decimal.unsigned else decimal.unsigned)

/-- The number that all digits stand for, without the point. -/
def digits (decimal : PlainDecimal) : Nat := Nat.ofDigitChars 10 (decimal.whole ++ decimal.places) 0

/-- The number that a decimal stands for. -/
def value (decimal : PlainDecimal) : ℚ :=
  (if decimal.negative then -1 else 1) * (decimal.digits / 10 ^ decimal.places.length)

theorem unsigned_of_places_eq_nil {decimal : PlainDecimal} (none : decimal.places = []) :
    decimal.unsigned = decimal.whole := by
  rw [unsigned, none, List.isEmpty_nil, if_pos rfl, List.append_nil]

theorem unsigned_of_places_ne_nil {decimal : PlainDecimal} (some : decimal.places ≠ []) :
    decimal.unsigned = decimal.whole ++ '.' :: decimal.places := by
  rw [unsigned, if_neg (by simpa using some)]

/-- The whole part ends where the digits do. -/
theorem span_unsigned (decimal : PlainDecimal) :
    decimal.unsigned.takeWhile Char.isDigit = decimal.whole ∧
      (decimal.unsigned.dropWhile Char.isDigit).drop 1 = decimal.places := by
  rw [unsigned, List.takeWhile_append_of_pos decimal.isDigit_whole, List.dropWhile_append_of_pos decimal.isDigit_whole]
  split
  · rename_i none
    simp [List.isEmpty_iff.mp none]
  · rw [List.takeWhile_cons_of_neg (by decide), List.dropWhile_cons_of_neg (by decide)]
    simp

/-- Behind the sign stands a digit. -/
theorem unsigned_ne_minus (decimal : PlainDecimal) (rest : List Char) : decimal.unsigned ≠ '-' :: rest := by
  intro same
  obtain ⟨first, others, filled⟩ := List.exists_cons_of_ne_nil decimal.whole_ne_nil
  have digit := decimal.isDigit_whole first (by simp [filled])
  rw [unsigned, filled, List.cons_append, List.cons.injEq] at same
  rw [same.1] at digit
  exact absurd digit (by decide)

/-- A text is the text of one decimal at most. -/
theorem text_injective : Function.Injective text := by
  intro left right same
  rw [text, text, String.ofList_inj] at same
  have alike : left.negative = right.negative ∧ left.unsigned = right.unsigned := by
    cases onLeft : left.negative <;> cases onRight : right.negative <;>
      simp only [onLeft, onRight, if_true, Bool.false_eq_true, if_false] at same
    · exact ⟨rfl, same⟩
    · exact absurd same (left.unsigned_ne_minus _)
    · exact absurd same.symm (right.unsigned_ne_minus _)
    · exact ⟨rfl, (List.cons.inj same).2⟩
  ext1
  · exact alike.1
  · rw [← left.span_unsigned.1, alike.2, right.span_unsigned.1]
  · rw [← left.span_unsigned.2, alike.2, right.span_unsigned.2]

/-- The three places of a count of thousandths behind its whole part. -/
def threePlaces (count : Nat) : List Char :=
  let fraction := Nat.toDigits 10 (count % 1000)
  List.replicate (3 - fraction.length) '0' ++ fraction

theorem length_threePlaces (count : Nat) : (threePlaces count).length = 3 := by
  have short : (Nat.toDigits 10 (count % 1000)).length ≤ 3 :=
    (Nat.length_toDigits_le_iff (by decide) (by decide)).mpr (Nat.mod_lt _ (by decide))
  rw [threePlaces, List.length_append, List.length_replicate]
  omega

theorem ofDigitChars_threePlaces (count : Nat) : Nat.ofDigitChars 10 (threePlaces count) 0 = count % 1000 := by
  rw [threePlaces, Nat.ofDigitChars_append, Nat.ofDigitChars_replicate_zero, Nat.mul_zero,
    Nat.ofDigitChars_ten_toDigits]

theorem isDigit_threePlaces (count : Nat) : ∀ digit ∈ threePlaces count, digit.isDigit := by
  intro digit member
  rcases List.mem_append.mp member with zero | inside
  · rw [List.eq_of_mem_replicate zero]
    rfl
  · exact Nat.isDigit_of_mem_toDigits (by decide) (by decide) inside

/-- The zeros that are dropped at the end stood for factors of ten. -/
theorem ofDigitChars_dropTrailingZeros (digits : List Char) :
    Nat.ofDigitChars 10 digits 0 = 10 ^ (digits.length - (dropTrailingZeros digits).length) *
      Nat.ofDigitChars 10 (dropTrailingZeros digits) 0 := by
  have parts : dropTrailingZeros digits ++ digits.rtakeWhile (· = '0') = digits := List.rdropWhile_append_rtakeWhile
  have zeros : digits.rtakeWhile (· = '0') = List.replicate (digits.rtakeWhile (· = '0')).length '0' := by
    apply List.eq_replicate_of_mem
    intro zero member
    simpa using List.mem_rtakeWhile_imp member
  have lengths := congrArg List.length parts
  rw [List.length_append] at lengths
  have count : digits.length - (dropTrailingZeros digits).length = (digits.rtakeWhile (· = '0')).length := by omega
  rw [count, ← Nat.ofDigitChars_replicate_zero, ← zeros, ← Nat.ofDigitChars_append, parts]

theorem length_dropTrailingZeros_le (digits : List Char) : (dropTrailingZeros digits).length ≤ digits.length :=
  (List.rdropWhile_prefix _ digits).length_le

theorem getLast?_dropTrailingZeros (digits : List Char) : (dropTrailingZeros digits).getLast? ≠ some '0' := by
  intro zero
  have filled : dropTrailingZeros digits ≠ [] := by
    intro none
    rw [none] at zero
    cases zero
  have last := List.rdropWhile_last_not (· = '0') digits filled
  rw [List.getLast?_eq_some_getLast filled, Option.some.injEq] at zero
  exact last (decide_eq_true zero)

/-- The digits of a count of thousandths, without the zeros at its end, stand for the count. -/
theorem thousandths_eq (count : Nat) :
    count = 10 ^ (3 - (dropTrailingZeros (threePlaces count)).length) *
      Nat.ofDigitChars 10 (Nat.toDigits 10 (count / 1000) ++ dropTrailingZeros (threePlaces count)) 0 := by
  have places := ofDigitChars_dropTrailingZeros (threePlaces count)
  have short := length_dropTrailingZeros_le (threePlaces count)
  rw [ofDigitChars_threePlaces, length_threePlaces] at places
  rw [length_threePlaces] at short
  rw [Nat.ofDigitChars_append, Nat.ofDigitChars_ten_toDigits, Nat.ofDigitChars_eq_ofDigitChars_zero, Nat.mul_add,
    ← places, ← Nat.mul_assoc, ← Nat.pow_add, Nat.sub_add_cancel short]
  omega

/-- The decimal of a count of thousandths. -/
def ofThousandths (negative : Bool) (count : Nat) : PlainDecimal where
  negative := negative && decide (count ≠ 0)
  whole := Nat.toDigits 10 (count / 1000)
  places := dropTrailingZeros (threePlaces count)
  isDigit_whole _ member := Nat.isDigit_of_mem_toDigits (by decide) (by decide) member
  whole_ne_nil := Nat.toDigits_ne_nil
  leading := toDigits_eq_zero_of_head?
  isDigit_places digit member := isDigit_threePlaces count digit (mem_of_mem_dropEnd member)
  length_places := Nat.le_trans (length_dropTrailingZeros_le _) (Nat.le_of_eq (length_threePlaces count))
  trailing := getLast?_dropTrailingZeros _
  signed minus := by
    by_contra none
    rw [not_or, not_not, not_not] at none
    have zero := thousandths_eq count
    rw [none.1, none.2] at zero
    simp [zero, Nat.ofDigitChars] at minus

theorem value_ofThousandths (negative : Bool) (count : Nat) :
    (ofThousandths negative count).value = (if negative then -1 else 1) * (count / 1000) := by
  have exact : ((ofThousandths negative count).digits : ℚ) / 10 ^ (ofThousandths negative count).places.length =
      count / 1000 := by
    have scale : (10 : ℚ) ^ (3 - (ofThousandths negative count).places.length) *
        10 ^ (ofThousandths negative count).places.length = 1000 := by
      rw [← pow_add, Nat.sub_add_cancel (ofThousandths negative count).length_places]
      norm_num
    have digits : (count : ℚ) = 10 ^ (3 - (ofThousandths negative count).places.length) *
        (ofThousandths negative count).digits := by
      exact_mod_cast thousandths_eq count
    rw [digits, ← scale]
    field_simp
  rw [value, exact]
  by_cases zero : count = 0
  · simp [zero]
  · simp [ofThousandths, zero]

end PlainDecimal

namespace Double

open PlainDecimal

/-- Zeros at the end are dropped up to a point. -/
theorem dropTrailingZeros_append (front rest : List Char) :
    dropTrailingZeros (front ++ '.' :: rest) = front ++ '.' :: dropTrailingZeros rest :=
  rdropWhile_append_cons (by decide) front rest

/-- A count of thousandths is written with its three places. -/
theorem placesText_eq (count : Nat) :
    placesText count = Nat.toDigits 10 (count / 1000) ++ '.' :: threePlaces count := by
  simp only [placesText, threePlaces, decimalDigits, Nat.toList_repr]
  rfl

/-- A digit at the end stays. -/
theorem dropTrailingPoint_eq_self {digits : List Char} (last : ∀ digit ∈ digits.getLast?, digit.isDigit) :
    dropTrailingPoint digits = digits := by
  apply List.rdropWhile_eq_self_iff.mpr
  intro filled point
  have digit := last _ (List.getLast?_eq_some_getLast filled)
  rw [of_decide_eq_true point] at digit
  exact absurd digit (by decide)

theorem dropTrailingPoint_concat {digits : List Char} (last : ∀ digit ∈ digits.getLast?, digit.isDigit) :
    dropTrailingPoint (digits ++ ['.']) = digits :=
  (List.rdropWhile_concat_pos _ _ _ (by decide)).trans (dropTrailingPoint_eq_self last)

/-- Without zeros and a point at its end, this is the text of the decimal behind its sign. -/
theorem dropTrailing_placesText (negative : Bool) (count : Nat) :
    dropTrailingPoint (dropTrailingZeros (placesText count)) = (ofThousandths negative count).unsigned := by
  let decimal := ofThousandths negative count
  have spelled : dropTrailingZeros (placesText count) = decimal.whole ++ '.' :: decimal.places := by
    rw [placesText_eq, dropTrailingZeros_append]
    rfl
  rw [spelled]
  by_cases none : decimal.places = []
  · rw [unsigned_of_places_eq_nil none, none]
    apply dropTrailingPoint_concat
    intro digit last
    exact decimal.isDigit_whole digit (List.mem_of_getLast? last)
  · rw [unsigned_of_places_ne_nil none]
    apply dropTrailingPoint_eq_self
    intro digit last
    rw [List.getLast?_append_of_ne_nil _ (by simp), List.getLast?_cons_of_ne_nil none] at last
    exact decimal.isDigit_places digit (List.mem_of_getLast? last)

/-- A rounded quotient is off by at most a half. -/
theorem roundQuotient_near (numerator : Nat) {denominator : Nat} (positive : 0 < denominator) :
    2 * numerator ≤ 2 * (roundQuotient numerator denominator * denominator) + denominator ∧
      2 * (roundQuotient numerator denominator * denominator) ≤ 2 * numerator + denominator := by
  have parts := Nat.div_add_mod' numerator denominator
  have rest := Nat.mod_lt numerator positive
  have next : (numerator / denominator + 1) * denominator = numerator / denominator * denominator + denominator :=
    Nat.succ_mul _ _
  unfold roundQuotient
  dsimp only
  split
  · omega
  · split
    · omega
    · rcases Nat.mod_two_eq_zero_or_one (numerator / denominator) with even | odd
      · rw [even, Nat.add_zero]
        omega
      · rw [odd]
        omega

/-- A number of whole units has a thousand thousandths in each. -/
theorem thousandths_of_whole {steps : Nat} (whole : steps % stepsPerUnit = 0) :
    thousandths steps = 1000 * (steps / stepsPerUnit) := by
  have parts := Nat.div_add_mod' steps stepsPerUnit
  rw [whole, Nat.add_zero] at parts
  have numerator : steps * tenTo stylePlaces = 1000 * (steps / stepsPerUnit) * stepsPerUnit := by
    rw [Nat.mul_assoc, parts, Nat.mul_comm]
    rfl
  rw [thousandths, numerator, roundQuotient, Nat.mul_mod_left, Nat.mul_div_cancel _ stepsPerUnit_pos]
  simp [stepsPerUnit_pos]

/-- The decimal of a whole number has no places. -/
theorem unsigned_ofThousandths_mul (negative : Bool) (whole : Nat) :
    (ofThousandths negative (1000 * whole)).unsigned = Nat.toDigits 10 whole := by
  have none : (ofThousandths negative (1000 * whole)).places = [] := by
    show dropTrailingZeros (threePlaces (1000 * whole)) = []
    rw [threePlaces, Nat.mul_mod_right]
    rfl
  rw [unsigned_of_places_eq_nil none]
  show Nat.toDigits 10 (1000 * whole / 1000) = _
  rw [Nat.mul_div_cancel_left _ (by decide)]

/-- Only nothing is written as zero. -/
theorem unsigned_ofThousandths_eq_zero_iff (negative : Bool) (count : Nat) :
    (ofThousandths negative count).unsigned = ['0'] ↔ count = 0 := by
  constructor
  · intro zero
    have digits := (ofThousandths negative count).span_unsigned
    rw [zero] at digits
    have parts := thousandths_eq count
    rw [show Nat.toDigits 10 (count / 1000) = ['0'] from digits.1.symm,
      show dropTrailingZeros (threePlaces count) = [] from digits.2.symm] at parts
    rw [parts]
    rfl
  · rintro rfl
    exact unsigned_ofThousandths_mul negative 0

/-- A finite number is written as the decimal of its thousandths, whether it is whole or not. -/
theorem styleText_finite (negative : Bool) (steps : Nat) (fits : Fits steps) :
    (finite negative steps fits).styleText = (ofThousandths negative (thousandths steps)).text := by
  have magnitude : (if steps % stepsPerUnit = 0 then decimalDigits (steps / stepsPerUnit)
      else dropTrailingPoint (dropTrailingZeros (placesText (thousandths steps)))) =
        (ofThousandths negative (thousandths steps)).unsigned := by
    split
    · rename_i whole
      rw [thousandths_of_whole whole, unsigned_ofThousandths_mul, decimalDigits, Nat.toList_repr]
    · exact dropTrailing_placesText negative _
  have sign : (negative = true ∧ (ofThousandths negative (thousandths steps)).unsigned ≠ ['0']) =
      ((ofThousandths negative (thousandths steps)).negative = true) := by
    rw [ne_eq, unsigned_ofThousandths_eq_zero_iff]
    simp [ofThousandths]
  rw [styleText, magnitude, text]
  simp only [sign]

/-- The exact value of a finite number. -/
def toRat : Double → ℚ
  | .finite negative steps _ => signedSteps negative steps / stepsPerUnit
  | _ => 0

/-- A count of thousandths is off by at most half of one when it is a rounded quotient of steps and their unit. -/
theorem abs_sub_le_of_rounded {count steps unit : Nat} (positive : 0 < unit)
    (lower : 2 * (steps * 1000) ≤ 2 * (count * unit) + unit) (upper : 2 * (count * unit) ≤ 2 * (steps * 1000) + unit) :
    |(count / 1000 : ℚ) - steps / unit| ≤ 1 / 2000 := by
  have some : (0 : ℚ) < unit := Nat.cast_pos.mpr positive
  have below : 2 * ((steps : ℚ) * 1000) ≤ 2 * (count * unit) + unit := by exact_mod_cast lower
  have above : 2 * ((count : ℚ) * unit) ≤ 2 * (steps * 1000) + unit := by exact_mod_cast upper
  have common : (count / 1000 : ℚ) - steps / unit = (count * unit - steps * 1000) / (1000 * unit) := by
    field_simp
  rw [common, abs_le, div_le_iff₀ (by linarith), le_div_iff₀ (by linarith)]
  constructor <;> linarith

/-- The thousandths of a magnitude are off by at most half of one. -/
theorem thousandths_near (steps : Nat) : |(thousandths steps / 1000 : ℚ) - steps / stepsPerUnit| ≤ 1 / 2000 := by
  obtain ⟨lower, upper⟩ := roundQuotient_near (steps * 1000) stepsPerUnit_pos
  exact abs_sub_le_of_rounded stepsPerUnit_pos lower upper

/-- Whole units have exact thousandths. -/
theorem thousandths_div_of_whole {steps : Nat} (whole : steps % stepsPerUnit = 0) :
    (thousandths steps / 1000 : ℚ) = steps / stepsPerUnit := by
  have positive : (stepsPerUnit : ℚ) ≠ 0 := Nat.cast_ne_zero.mpr stepsPerUnit_pos.ne'
  have parts : steps / stepsPerUnit * stepsPerUnit = steps := Nat.div_mul_cancel (Nat.dvd_of_mod_eq_zero whole)
  rw [thousandths_of_whole whole, eq_div_iff positive, Nat.cast_mul, Nat.cast_ofNat,
    mul_div_cancel_left₀ _ (by norm_num), ← Nat.cast_mul, parts]

theorem toRat_finite (negative : Bool) (steps : Nat) (fits : Fits steps) :
    (finite negative steps fits).toRat = (if negative then -1 else 1) * (steps / stepsPerUnit) := by
  rw [toRat, signedSteps]
  cases negative
  · rw [if_neg Bool.false_ne_true, if_neg Bool.false_ne_true, Int.cast_natCast, one_mul]
  · rw [if_pos rfl, if_pos rfl, Int.cast_neg, Int.cast_natCast, neg_div, neg_one_mul]

/-- A number is whole when no step is left over. -/
theorem mod_of_toRat_eq {negative : Bool} {steps : Nat} {fits : Fits steps} {whole : ℤ}
    (same : (finite negative steps fits).toRat = whole) : steps % stepsPerUnit = 0 := by
  have positive : (stepsPerUnit : ℚ) ≠ 0 := by exact_mod_cast stepsPerUnit_pos.ne'
  rw [toRat, div_eq_iff positive] at same
  have signed : signedSteps negative steps = whole * stepsPerUnit := by exact_mod_cast same
  have multiple : (stepsPerUnit : ℤ) ∣ signedSteps negative steps := ⟨whole, by rw [signed, Int.mul_comm]⟩
  have size : (signedSteps negative steps).natAbs = steps := by
    cases negative <;> simp [signedSteps]
  have divides := Int.natCast_dvd.mp multiple
  rw [size] at divides
  exact Nat.mod_eq_zero_of_dvd divides

/--
A finite number in a style is the text of one plain decimal. This stands for the number itself when the number is whole,
and is off by at most half of a thousandth otherwise.
-/
theorem styleText_plainDecimal {value : Double} (defined : value.isFinite) :
    ∃ decimal : PlainDecimal, (∀ other : PlainDecimal, other.text = value.styleText ↔ other = decimal) ∧
      |decimal.value - value.toRat| ≤ 1 / 2000 ∧
      ∀ whole : ℤ, value.toRat = whole → decimal.value = whole := by
  cases value with
  | finite negative steps fits =>
      have difference : (ofThousandths negative (thousandths steps)).value - (finite negative steps fits).toRat =
          (if negative then -1 else 1) * (thousandths steps / 1000 - steps / stepsPerUnit) := by
        rw [value_ofThousandths, toRat_finite, mul_sub]
      use ofThousandths negative (thousandths steps)
      refine ⟨fun other => ?_, ?_, fun whole same => ?_⟩
      · rw [styleText_finite]
        exact text_injective.eq_iff
      · have sign : |(if negative then -1 else 1 : ℚ)| = 1 := by cases negative <;> simp
        rw [difference, abs_mul, sign, one_mul]
        exact thousandths_near steps
      · have none := thousandths_div_of_whole (mod_of_toRat_eq same)
        rw [none, sub_self, mul_zero] at difference
        rw [← same]
        exact sub_eq_zero.mp difference
  | _ => simp [isFinite] at defined

/-- A number half way between two thousandths gets the even one, and keeps its sign. -/
theorem styleText_plainDecimal_tie :
    (ofDecimal true 625 (-4)).isFinite ∧ (ofDecimal true 625 (-4)).styleText = "-0.062" ∧
      ∃ decimal : PlainDecimal, (∀ other : PlainDecimal, other.text = (ofDecimal true 625 (-4)).styleText ↔
          other = decimal) ∧
        |decimal.value - (ofDecimal true 625 (-4)).toRat| ≤ 1 / 2000 ∧
        ∀ whole : ℤ, (ofDecimal true 625 (-4)).toRat = whole → decimal.value = whole := by
  have defined : (ofDecimal true 625 (-4)).isFinite := by decide +kernel
  exact ⟨defined, by decide +kernel, styleText_plainDecimal defined⟩

end Double

end Storyboard

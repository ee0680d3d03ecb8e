/-
This file bounds rounded quotients: a quotient at most a binary64 magnitude rounds to at most that magnitude.
-/

import Storyboard.Number.Double

namespace Storyboard.Double

/-- A quotient at most a whole number rounds to at most that number. -/
theorem roundQuotient_le_of_le {numerator denominator bound : Nat} (positive : 0 < denominator)
    (bounded : numerator ≤ bound * denominator) : roundQuotient numerator denominator ≤ bound := by
  have quotient : numerator / denominator ≤ bound := Nat.div_le_of_le_mul (by rwa [Nat.mul_comm])
  by_cases exact : numerator / denominator = bound
  · have rest : numerator % denominator = 0 := by
      have split := Nat.div_add_mod numerator denominator
      rw [exact, Nat.mul_comm] at split
      omega
    simp [roundQuotient, rest, positive, exact]
  · have close := roundQuotient_le numerator denominator
    omega

/-- Every magnitude is less than two to the power of 1024. -/
theorem Fits.lt {steps : Nat} (fits : Fits steps) : steps < twoTo 2098 := by
  obtain ⟨significand, shift, rfl, bounded, inRange⟩ := fits
  calc significand * twoTo shift < twoTo 53 * twoTo shift := Nat.mul_lt_mul_of_pos_right bounded (twoTo_pos shift)
    _ = twoTo (53 + shift) := (twoTo_add 53 shift).symm
    _ ≤ twoTo 2098 := twoTo_le_twoTo (by omega)

/-- The grid of a magnitude is at least as coarse as that of any lesser quotient. -/
theorem Fits.shift_dvd {steps whole : Nat} (fits : Fits steps) (bounded : whole ≤ steps) :
    twoTo (shiftFor whole) ∣ steps := by
  obtain ⟨significand, shift, rfl, small, -⟩ := fits
  by_cases low : whole.log2 ≤ 52
  · exact ⟨significand * twoTo shift, by simp [shiftFor, Nat.sub_eq_zero_of_le low, twoTo]⟩
  have nonzero : whole ≠ 0 := by
    rintro rfl
    simp at low
  have order : twoTo whole.log2 < twoTo (53 + shift) := by
    calc twoTo whole.log2 ≤ whole := Nat.log2_self_le nonzero
      _ ≤ significand * twoTo shift := bounded
      _ < twoTo 53 * twoTo shift := Nat.mul_lt_mul_of_pos_right small (twoTo_pos shift)
      _ = twoTo (53 + shift) := (twoTo_add 53 shift).symm
  have finer : shiftFor whole ≤ shift := by
    have exponents := twoTo_lt_twoTo_iff.mp order
    unfold shiftFor
    omega
  have parts : twoTo shift = twoTo (shift - shiftFor whole) * twoTo (shiftFor whole) := by
    rw [← twoTo_add]
    congr 1
    omega
  exact ⟨significand * twoTo (shift - shiftFor whole), by rw [parts]; ac_rfl⟩

/-- A quotient rounds to a number with its sign, finite or not. -/
theorem ofQuotient_cases (negative : Bool) (numerator denominator : Nat) :
    (∃ steps fits, ofQuotient negative numerator denominator = .finite negative steps fits) ∨
      ofQuotient negative numerator denominator = .infinite negative := by
  by_cases inRange : roundQuotient numerator (denominator * twoTo (shiftFor (numerator / denominator))) *
      twoTo (shiftFor (numerator / denominator)) < twoTo 2098
  · exact .inl ⟨_, _, by rw [ofQuotient]; exact dif_pos inRange⟩
  · exact .inr (by rw [ofQuotient]; exact dif_neg inRange)

/-- A quotient at most a magnitude rounds to a finite number of at most that magnitude. -/
theorem ofQuotient_le {bound numerator denominator : Nat} (fits : Fits bound) (positive : 0 < denominator)
    (bounded : numerator ≤ bound * denominator) (negative : Bool) :
    ∃ steps fits, ofQuotient negative numerator denominator = .finite negative steps fits ∧ steps ≤ bound := by
  have whole : numerator / denominator ≤ bound := Nat.div_le_of_le_mul (by rwa [Nat.mul_comm])
  obtain ⟨multiple, grid⟩ := fits.shift_dvd whole
  have rounded : roundQuotient numerator (denominator * twoTo (shiftFor (numerator / denominator))) ≤ multiple := by
    refine roundQuotient_le_of_le (Nat.mul_pos positive (twoTo_pos _)) (Nat.le_trans bounded (Nat.le_of_eq ?_))
    rw [grid]
    ac_rfl
  have small : roundQuotient numerator (denominator * twoTo (shiftFor (numerator / denominator))) *
      twoTo (shiftFor (numerator / denominator)) ≤ bound := by
    rw [grid, Nat.mul_comm (twoTo _) multiple]
    exact Nat.mul_le_mul_right _ rounded
  have inRange := Nat.lt_of_le_of_lt small fits.lt
  exact ⟨_, _, by rw [ofQuotient]; exact dif_pos inRange, small⟩

/-- A quotient is rounded to at least its whole part. -/
theorem div_le_roundQuotient (numerator denominator : Nat) :
    numerator / denominator ≤ roundQuotient numerator denominator := by
  unfold roundQuotient
  dsimp only
  split
  · exact Nat.le_refl _
  · split <;> omega

/-- A count of steps that rounds to a finite number is less than twice the count that is past all of them. -/
theorem lt_of_isFinite_ofQuotient {negative : Bool} {steps : Nat} (finite : (ofQuotient negative steps 1).isFinite) :
    steps < 2 * twoTo 2098 := by
  by_cases none : steps = 0
  · exact none ▸ Nat.mul_pos (by decide) (twoTo_pos 2098)
  have inRange : roundQuotient steps (twoTo (shiftFor steps)) * twoTo (shiftFor steps) < twoTo 2098 := by
    simp only [ofQuotient, Nat.div_one, Nat.one_mul] at finite
    split at finite
    · assumption
    · simp [isFinite] at finite
  have unit : twoTo (shiftFor steps) ≤ steps :=
    Nat.le_trans (twoTo_le_twoTo (Nat.sub_le _ _)) (Nat.log2_self_le none)
  have whole : 1 ≤ steps / twoTo (shiftFor steps) := (Nat.one_le_div_iff (twoTo_pos _)).mpr unit
  have cut := Nat.mul_le_mul_right (twoTo (shiftFor steps)) (div_le_roundQuotient steps (twoTo (shiftFor steps)))
  calc steps < (steps / twoTo (shiftFor steps) + 1) * twoTo (shiftFor steps) :=
        Nat.lt_mul_of_div_lt (Nat.lt_succ_self _) (twoTo_pos _)
    _ ≤ 2 * (steps / twoTo (shiftFor steps)) * twoTo (shiftFor steps) := Nat.mul_le_mul_right _ (by omega)
    _ ≤ 2 * twoTo 2098 := by rw [Nat.mul_assoc]; omega

/-- A whole number with a finite counterpart is below two to the power of 1025. -/
theorem natAbs_lt_of_isFinite_ofInt {value : Int} (finite : (ofInt value).isFinite) : value.natAbs < twoTo 1025 := by
  have steps := lt_of_isFinite_ofQuotient finite
  have scale : 2 * twoTo 2098 = twoTo 1025 * stepsPerUnit := by rw [stepsPerUnit, ← twoTo_succ, ← twoTo_add]
  rw [scale] at steps
  exact Nat.lt_of_mul_lt_mul_right steps

end Storyboard.Double

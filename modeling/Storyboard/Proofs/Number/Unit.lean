/-
This file bounds the numbers that are kept between zero and one, and what is computed from them.
-/

import Storyboard.Number.Decimal
import Storyboard.Proofs.Number.Rounding

namespace Storyboard.Double

theorem stepsPerUnit_pos : 0 < stepsPerUnit := twoTo_pos 1074

theorem stepsPerUnit_eq : stepsPerUnit = 2 * twoTo 1073 := by rw [stepsPerUnit, twoTo_succ]

theorem fits_unit : Fits stepsPerUnit := ⟨1, 1074, by rw [stepsPerUnit, Nat.one_mul], by decide, by decide⟩

/-- Zero is exactly zero. -/
theorem ofInt_zero : ofInt 0 = zero := by
  simp [ofInt, ofQuotient, zero, roundQuotient, twoTo_pos]

/-- One is exactly one. -/
theorem one_eq : one = .finite false stepsPerUnit fits_unit := by decide +kernel

theorem isFinite_one : one.isFinite := by
  rw [one_eq]
  rfl

/-- Magnitudes without a sign have the order of their steps. -/
@[simp] theorem atMost_finite {left right : Nat} (leftFits : Fits left) (rightFits : Fits right) :
    (finite false left leftFits).atMost (.finite false right rightFits) = decide (left ≤ right) := by
  rw [Bool.eq_iff_iff]
  simp [atMost, less, same, place?, Place.less, signedSteps]
  omega

theorem zero_less_one : zero.less one := by
  rw [one_eq]
  simp only [zero, less, place?, Place.less, signedSteps, Bool.false_eq_true, if_false, decide_eq_true_eq]
  exact Int.ofNat_lt.mpr stepsPerUnit_pos

theorem zero_atMost_one : zero.atMost one := by
  rw [one_eq, zero, atMost_finite]
  exact decide_eq_true (Nat.zero_le _)

theorem one_atMost_one : one.atMost one := by
  rw [one_eq, atMost_finite]
  exact decide_eq_true (Nat.le_refl _)

/-- A finite number that is clamped has no sign and is at most one. -/
theorem clampUnit_eq {value : Double} (defined : value.isFinite) :
    ∃ steps fits, value.clampUnit = .finite false steps fits ∧ steps ≤ stepsPerUnit := by
  have lowest : ∃ steps fits, zero = .finite false steps fits ∧ steps ≤ stepsPerUnit :=
    ⟨0, fits_zero, rfl, Nat.zero_le _⟩
  unfold clampUnit smaller
  split
  · rename_i below
    cases value with
    | finite negative steps fits =>
        simp only [less, one_eq, place?, Place.less, decide_eq_true_eq] at below
        unfold larger
        split
        · rename_i above
          simp only [less, zero, place?, Place.less, decide_eq_true_eq] at above
          cases negative with
          | false =>
              simp only [signedSteps, Bool.false_eq_true, if_false] at below
              exact ⟨steps, fits, rfl, by omega⟩
          | true =>
              simp only [signedSteps, Bool.false_eq_true, if_false, if_true] at above
              omega
        · exact lowest
    | _ => simp [isFinite] at defined
  · rw [larger, if_pos zero_less_one]
    exact ⟨_, fits_unit, one_eq, Nat.le_refl _⟩

/-- A magnitude times a fraction of one is at most the magnitude. -/
theorem multiply_le {fraction steps : Nat} (small : fraction ≤ stepsPerUnit) (fractionFits : Fits fraction)
    (fits : Fits steps) :
    ∃ product productFits, (finite false fraction fractionFits).multiply (.finite false steps fits) =
      .finite false product productFits ∧ product ≤ steps := by
  have bounded : fraction * steps ≤ steps * stepsPerUnit := by
    rw [Nat.mul_comm steps]
    exact Nat.mul_le_mul_right steps small
  rw [multiply]
  exact ofQuotient_le fits stepsPerUnit_pos bounded _

/-- A sum of magnitudes is at most any magnitude that it does not exceed before it is rounded. -/
theorem add_le {left right bound : Nat} (leftFits : Fits left) (rightFits : Fits right) (fits : Fits bound)
    (bounded : left + right ≤ bound) :
    ∃ sum sumFits, (finite false left leftFits).add (.finite false right rightFits) = .finite false sum sumFits ∧
      sum ≤ bound := by
  have sign : (if (left : Int) + right = 0 then (false && false) else decide ((left : Int) + right < 0)) = false := by
    split
    · rfl
    · exact decide_eq_false (by omega)
  have size : ((left : Int) + right).natAbs ≤ bound * 1 := by omega
  simp only [add, signedSteps, Bool.false_eq_true, if_false, ofSteps, sign]
  exact ofQuotient_le fits Nat.one_pos size false

/-- The whole part of a magnitude. -/
theorem floor?_finite {steps : Nat} (fits : Fits steps) :
    (finite false steps fits).floor? = some ((steps / stepsPerUnit : Nat) : Int) := by
  have whole := Int.fdiv_eq_ediv_of_nonneg (steps : Int) (Int.natCast_nonneg stepsPerUnit)
  simp only [floor?, signedSteps, Bool.false_eq_true, if_false, whole]
  rfl

/-- A number at most one is still at most one when it is rounded to three places. -/
theorem roundPlaces_le {steps : Nat} (fits : Fits steps) (small : steps ≤ stepsPerUnit) :
    ∃ rounded roundedFits, (finite false steps fits).roundPlaces = .finite false rounded roundedFits ∧
      rounded ≤ stepsPerUnit := by
  have scaled : steps * tenTo stylePlaces ≤ tenTo stylePlaces * stepsPerUnit := by
    rw [Nat.mul_comm]
    exact Nat.mul_le_mul_left _ small
  have few : thousandths steps ≤ tenTo stylePlaces := roundQuotient_le_of_le stepsPerUnit_pos scaled
  have bounded : thousandths steps * stepsPerUnit ≤ stepsPerUnit * tenTo stylePlaces := by
    rw [Nat.mul_comm stepsPerUnit]
    exact Nat.mul_le_mul_right _ few
  have positive : 0 < tenTo stylePlaces := by decide
  rw [roundPlaces, ofDecimal]
  split
  · exact ⟨0, fits_zero, rfl, Nat.zero_le _⟩
  · have places : (-(stylePlaces : Int)).natAbs = stylePlaces := rfl
    rw [if_neg (by decide), if_neg (by decide), places]
    exact ofQuotient_le fits_unit positive bounded false

end Storyboard.Double

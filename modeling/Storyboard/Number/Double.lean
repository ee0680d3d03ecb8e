/-
This file defines binary64 numbers as whole counts of their smallest step.
-/

import Storyboard.Number.Power

namespace Storyboard

/-- A magnitude of `steps` smallest steps has a significand of at most 53 bits and a bounded shift. -/
def Double.Fits (steps : Nat) : Prop :=
  ∃ significand shift : Nat, steps = significand * twoTo shift ∧ significand < twoTo 53 ∧ shift ≤ 2045

/-- A binary64 number counts its magnitude in steps of two to the power of minus 1074. -/
inductive Double where
  | nan
  | infinite (negative : Bool)
  | finite (negative : Bool) (steps : Nat) (fits : Double.Fits steps)
  deriving DecidableEq

namespace Double

/-- One is this many steps. -/
def stepsPerUnit : Nat := twoTo 1074

theorem fits_zero : Fits 0 := ⟨0, 0, by decide, by decide, by decide⟩

/-- Zero without a sign. -/
def zero : Double := .finite false 0 fits_zero

instance : Inhabited Double := ⟨zero⟩

/-- Rounds a quotient to the nearest whole number, and a half to the even neighbour. -/
def roundQuotient (numerator denominator : Nat) : Nat :=
  let whole := numerator / denominator
  let rest := numerator % denominator
  if 2 * rest < denominator then whole
  else if denominator < 2 * rest then whole + 1
  else whole + whole % 2

theorem roundQuotient_le (numerator denominator : Nat) :
    roundQuotient numerator denominator ≤ numerator / denominator + 1 := by
  unfold roundQuotient
  dsimp only
  split
  · omega
  · split <;> omega

/-- A quotient of this size keeps 53 bits when so many low bits are dropped. -/
def shiftFor (whole : Nat) : Nat := whole.log2 - 52

theorem div_shift_lt (whole : Nat) : whole / twoTo (shiftFor whole) < twoTo 53 := by
  rw [Nat.div_lt_iff_lt_mul (twoTo_pos _), ← twoTo_add]
  refine Nat.lt_of_lt_of_le (lt_twoTo_log2_add_one whole) (twoTo_le_twoTo ?_)
  unfold shiftFor
  omega

theorem fits_shifted {significand shift : Nat} (bounded : significand ≤ twoTo 53)
    (inRange : significand * twoTo shift < twoTo 2098) : Fits (significand * twoTo shift) := by
  by_cases isZero : significand = 0
  · exact ⟨0, 0, by simp [isZero], by decide, by decide⟩
  by_cases small : significand < twoTo 53
  · by_cases low : shift ≤ 2045
    · exact ⟨significand, shift, rfl, small, low⟩
    · have split : significand * twoTo shift = significand * twoTo (shift - 2045) * twoTo 2045 := by
        rw [Nat.mul_assoc, ← twoTo_add]
        congr 2
        omega
      refine ⟨significand * twoTo (shift - 2045), 2045, split, ?_, Nat.le_refl _⟩
      rw [split] at inRange
      refine Nat.lt_of_mul_lt_mul_right (a := twoTo 2045) ?_
      rw [← twoTo_add]
      exact inRange
  · have exact : significand = twoTo 53 := by omega
    subst exact
    rw [← twoTo_add] at inRange
    have low : 53 + shift < 2098 := twoTo_lt_twoTo_iff.mp inRange
    refine ⟨twoTo 52, shift + 1, ?_, by decide, by omega⟩
    rw [← twoTo_add, ← twoTo_add]
    congr 1
    omega

/-- Rounds a quotient of steps to the nearest number, a tie to the even significand. -/
def ofQuotient (negative : Bool) (numerator denominator : Nat) : Double :=
  let whole := numerator / denominator
  let shift := shiftFor whole
  let significand := roundQuotient numerator (denominator * twoTo shift)
  if inRange : significand * twoTo shift < twoTo 2098 then
    .finite negative (significand * twoTo shift) (fits_shifted (by
      refine Nat.le_trans (roundQuotient_le _ _) ?_
      rw [← Nat.div_div_eq_div_mul]
      exact div_shift_lt _) inRange)
  else .infinite negative

/-- Rounds a whole count of steps, where `negativeZero` gives the sign of a count of none. -/
def ofSteps (steps : Int) (negativeZero : Bool) : Double :=
  ofQuotient (if steps = 0 then negativeZero else decide (steps < 0)) steps.natAbs 1

/-- Rounds a whole number. -/
def ofInt (value : Int) : Double :=
  ofQuotient (decide (value < 0)) (value.natAbs * stepsPerUnit) 1

/--
Rounds a decimal with the given digits and power of ten. A power from 342 on is past every number,
and a magnitude below the step two to the power of minus 1076 rounds to zero.
-/
def ofDecimal (negative : Bool) (digits : Nat) (exponent : Int) : Double :=
  if digits = 0 ∨ digits.log2 + 1077 + 3 * exponent ≤ 0 then .finite negative 0 fits_zero
  else if 342 ≤ exponent then .infinite negative
  else if 0 ≤ exponent then ofQuotient negative (digits * tenTo exponent.toNat * stepsPerUnit) 1
  else ofQuotient negative (digits * stepsPerUnit) (tenTo exponent.natAbs)

/-- A number is finite when it is neither infinite nor undefined. -/
def isFinite : Double → Bool
  | .finite .. => true
  | _ => false

/-- The count of steps of a finite number, with its sign. -/
def signedSteps (negative : Bool) (steps : Nat) : Int :=
  if negative then -(steps : Int) else steps

/-- Turns the sign around. -/
def negate : Double → Double
  | .nan => .nan
  | .infinite negative => .infinite !negative
  | .finite negative steps fits => .finite (!negative) steps fits

/-- Adds and rounds once. -/
def add : Double → Double → Double
  | .nan, _ => .nan
  | _, .nan => .nan
  | .infinite left, .infinite right => if left = right then .infinite left else .nan
  | .infinite left, .finite .. => .infinite left
  | .finite .., .infinite right => .infinite right
  | .finite left steps _, .finite right moreSteps _ =>
      ofSteps (signedSteps left steps + signedSteps right moreSteps) (left && right)

/-- Subtracts and rounds once. -/
def subtract (left right : Double) : Double := left.add right.negate

/-- Multiplies and rounds once. -/
def multiply : Double → Double → Double
  | .nan, _ => .nan
  | _, .nan => .nan
  | .infinite left, .infinite right => .infinite (left != right)
  | .infinite left, .finite right steps _ => if steps = 0 then .nan else .infinite (left != right)
  | .finite left steps _, .infinite right => if steps = 0 then .nan else .infinite (left != right)
  | .finite left steps _, .finite right moreSteps _ =>
      ofQuotient (left != right) (steps * moreSteps) stepsPerUnit

/-- The greatest whole number at or below a finite number. -/
def floor? : Double → Option Int
  | .finite negative steps _ => some (Int.fdiv (signedSteps negative steps) stepsPerUnit)
  | _ => none

/-- A finite number is whole when no step is left over. -/
def isWhole : Double → Bool
  | .finite _ steps _ => steps % stepsPerUnit = 0
  | _ => false

end Double

/-- A place on the extended number line, finite places counted in steps. -/
inductive Place where
  | lowest
  | inner (steps : Int)
  | highest
  deriving DecidableEq

namespace Place

/-- The order of the line. -/
def less : Place → Place → Bool
  | .lowest, .lowest => false
  | .lowest, _ => true
  | .inner left, .inner right => left < right
  | .inner _, .highest => true
  | _, _ => false

end Place

namespace Double

/-- Every number but the undefined one has a place on the line. -/
def place? : Double → Option Place
  | .nan => none
  | .infinite negative => some (if negative then .lowest else .highest)
  | .finite negative steps _ => some (.inner (signedSteps negative steps))

/-- A comparison with the undefined number never holds. -/
def less (left right : Double) : Bool :=
  match left.place?, right.place? with
  | some lower, some upper => lower.less upper
  | _, _ => false

/-- Equality of places, so that both zeros are equal. -/
def same (left right : Double) : Bool :=
  match left.place?, right.place? with
  | some lower, some upper => lower = upper
  | _, _ => false

/-- At most, which also fails for the undefined number. -/
def atMost (left right : Double) : Bool := left.less right || left.same right

/-- The right number when it is greater, else the left one. -/
def larger (left right : Double) : Double := if left.less right then right else left

/-- The right number when it is less, else the left one. -/
def smaller (left right : Double) : Double := if right.less left then right else left

def one : Double := ofInt 1

/-- Keeps a number between zero and one. -/
def clampUnit (value : Double) : Double := larger zero (smaller one value)

end Double

end Storyboard

/-
This file states which operations keep numbers finite or at least defined.
-/

import Storyboard.Number.Basic
import Storyboard.Proofs.Number.Rounding

namespace Storyboard.Double

theorem isFinite_zero : zero.isFinite := rfl

theorem isFinite_larger {left right : Double} (onLeft : left.isFinite) (onRight : right.isFinite) :
    (larger left right).isFinite := by
  unfold larger
  split
  · exact onRight
  · exact onLeft

/-- A finite number is defined. -/
theorem ne_nan_of_isFinite {value : Double} (finite : value.isFinite) : Number.double value ≠ .double .nan := by
  rintro same
  cases same
  simp [isFinite] at finite

/-- The product of finite numbers is defined, though it may be infinite. -/
theorem multiply_ne_nan {left right : Double} (onLeft : left.isFinite) (onRight : right.isFinite) :
    left.multiply right ≠ .nan := by
  cases left with
  | finite leftNegative leftSteps leftFits =>
      cases right with
      | finite rightNegative rightSteps rightFits =>
          rw [multiply]
          rcases ofQuotient_cases (leftNegative != rightNegative) (leftSteps * rightSteps) stepsPerUnit with
            ⟨steps, fits, rounded⟩ | rounded <;> simp [rounded]
      | _ => simp [isFinite] at onRight
  | _ => simp [isFinite] at onLeft

end Storyboard.Double

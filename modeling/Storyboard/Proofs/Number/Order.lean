/-
This file states the order of numbers through their places on the extended line.
-/

import Storyboard.Number.Basic

namespace Storyboard

namespace Place

theorem less_irrefl (place : Place) : place.less place = false := by
  cases place <;> simp [less]

theorem less_trans {first second third : Place} (lower : first.less second) (upper : second.less third) :
    first.less third := by
  cases first <;> cases second <;> cases third <;> simp_all [less]
  omega

/-- Of two places, one is less than the other unless they are equal. -/
theorem less_or_eq_or_less (left right : Place) : left.less right ∨ left = right ∨ right.less left := by
  cases left <;> cases right <;> simp [less]
  omega

/-- A place at most another is not greater. -/
theorem less_of_not_atMost {left right : Place} (notLess : left.less right = false) (different : left ≠ right) :
    right.less left := by
  rcases less_or_eq_or_less left right with less | same | greater
  · simp [less] at notLess
  · exact absurd same different
  · exact greater

/-- A place at or past another one is not at or before a place less than that. -/
theorem not_atMost_of_less {lower upper place : Place} (order : lower.less upper)
    (above : upper.less place ∨ upper = place) : place.less lower = false ∧ place ≠ lower := by
  have further : lower.less place := by
    rcases above with above | rfl
    · exact less_trans order above
    · exact order
  refine ⟨Bool.eq_false_iff.mpr fun below => ?_, ?_⟩
  · have circle := less_trans further below
    rw [less_irrefl] at circle
    exact Bool.false_ne_true circle
  · rintro rfl
    rw [less_irrefl] at further
    exact Bool.false_ne_true further

end Place

namespace Number

/-- Only the undefined number has no place. -/
theorem exists_place {value : Number} (defined : value ≠ .double .nan) : ∃ place, value.place? = some place := by
  cases value with
  | whole value => exact ⟨_, rfl⟩
  | double value =>
      cases value with
      | nan => exact absurd rfl defined
      | infinite negative => exact ⟨_, rfl⟩
      | finite negative steps fits => exact ⟨_, rfl⟩

theorem whole_ne_nan (value : Int) : Number.whole value ≠ .double .nan := by
  rintro ⟨⟩

variable {left right : Number} {lower upper : Place}

theorem less_eq (onLeft : left.place? = some lower) (onRight : right.place? = some upper) :
    left.less right = lower.less upper := by
  simp [less, onLeft, onRight]

theorem same_eq (onLeft : left.place? = some lower) (onRight : right.place? = some upper) :
    left.same right = decide (lower = upper) := by
  simp [same, onLeft, onRight]

theorem atMost_eq (onLeft : left.place? = some lower) (onRight : right.place? = some upper) :
    left.atMost right = (lower.less upper || decide (lower = upper)) := by
  simp [atMost, less_eq onLeft onRight, same_eq onLeft onRight]

/-- Whole numbers have the order of the integers. -/
@[simp] theorem less_whole (left right : Int) : (Number.whole left).less (.whole right) = decide (left < right) := by
  have positive : (0 : Int) < Double.stepsPerUnit := by exact_mod_cast twoTo_pos 1074
  simp only [less, place?, Place.less, Int.mul_lt_mul_right positive]

@[simp] theorem atMost_whole (left right : Int) :
    (Number.whole left).atMost (.whole right) = decide (left ≤ right) := by
  have positive : (0 : Int) < Double.stepsPerUnit := by exact_mod_cast twoTo_pos 1074
  have nonzero : (Double.stepsPerUnit : Int) ≠ 0 := by omega
  rw [atMost, less_whole]
  simp only [same, place?, Place.inner.injEq, Int.mul_eq_mul_right_iff nonzero]
  rw [Bool.eq_iff_iff]
  simp
  omega

/-- A number that is at least some whole number is not at most a lesser one. -/
theorem not_atMost_of_lt {value : Number} {lower upper : Int} (above : (whole upper).atMost value)
    (order : lower < upper) : value.atMost (whole lower) = false := by
  have defined : value ≠ .double .nan := by
    rintro rfl
    exact Bool.false_ne_true above
  obtain ⟨place, located⟩ := exists_place defined
  obtain ⟨low, onLower⟩ := exists_place (whole_ne_nan lower)
  obtain ⟨high, onUpper⟩ := exists_place (whole_ne_nan upper)
  have wholes : low.less high := by
    rw [← less_eq onLower onUpper, less_whole]
    exact decide_eq_true order
  rw [atMost_eq onUpper located, Bool.or_eq_true, decide_eq_true_eq] at above
  rw [atMost_eq located onLower, Bool.or_eq_false_iff, decide_eq_false_iff_not]
  exact Place.not_atMost_of_less wholes above

/-- The whole number zero stands where zero does. -/
theorem zero_less_double (value : Double) : zero.less (.double value) = Double.zero.less value := by
  have place : zero.place? = Double.zero.place? := by
    rw [zero, place?, Int.zero_mul]
    rfl
  unfold less Double.less
  rw [place]
  rfl

/-- Of two numbers with a place, the one that is not at most the other is greater. -/
theorem less_of_not_atMost (leftDefined : left ≠ .double .nan) (rightDefined : right ≠ .double .nan)
    (greater : left.atMost right = false) : right.less left := by
  obtain ⟨lower, onLeft⟩ := exists_place leftDefined
  obtain ⟨upper, onRight⟩ := exists_place rightDefined
  rw [atMost_eq onLeft onRight, Bool.or_eq_false_iff, decide_eq_false_iff_not] at greater
  rw [less_eq onRight onLeft]
  exact Place.less_of_not_atMost greater.1 greater.2

/-- No number is at most the undefined one. -/
theorem atMost_nan (left : Number) : left.atMost (.double .nan) = false := by
  cases left with
  | whole value => rfl
  | double value => cases value <;> rfl

theorem atMost_of_less (order : left.less right) : left.atMost right := by
  rw [atMost, order, Bool.true_or]

/-- Two numbers of which one is at most the other have places in this order. -/
theorem exists_places_of_atMost (order : left.atMost right) :
    ∃ lower upper, left.place? = some lower ∧ right.place? = some upper ∧ (lower.less upper ∨ lower = upper) := by
  have leftDefined : left ≠ .double .nan := by
    rintro rfl
    exact Bool.false_ne_true order
  have rightDefined : right ≠ .double .nan := by
    rintro rfl
    exact Bool.false_ne_true ((atMost_nan left).symm.trans order)
  obtain ⟨lower, onLeft⟩ := exists_place leftDefined
  obtain ⟨upper, onRight⟩ := exists_place rightDefined
  rw [atMost_eq onLeft onRight, Bool.or_eq_true, decide_eq_true_eq] at order
  exact ⟨lower, upper, onLeft, onRight, order⟩

theorem less_of_atMost_of_less {middle : Number} (first : left.atMost middle) (second : middle.less right) :
    left.less right := by
  obtain ⟨lower, between, onLeft, onMiddle, order⟩ := exists_places_of_atMost first
  obtain ⟨same, upper, again, onRight, -⟩ := exists_places_of_atMost (atMost_of_less second)
  obtain rfl : between = same := Option.some.inj (onMiddle.symm.trans again)
  rw [less_eq onMiddle onRight] at second
  rw [less_eq onLeft onRight]
  rcases order with below | rfl
  · exact Place.less_trans below second
  · exact second

/-- A number that is at most another is not greater. -/
theorem not_less_of_atMost (order : left.atMost right) : right.less left = false := by
  rw [← Bool.not_eq_true]
  intro greater
  have circle := less_of_atMost_of_less order greater
  obtain ⟨place, -, onLeft, -⟩ := exists_places_of_atMost order
  rw [less_eq onLeft onLeft, Place.less_irrefl] at circle
  exact Bool.false_ne_true circle

theorem atMost_trans {middle : Number} (first : left.atMost middle) (second : middle.atMost right) :
    left.atMost right := by
  obtain ⟨between, upper, onMiddle, onRight, order⟩ := exists_places_of_atMost second
  rcases order with below | rfl
  · have less : middle.less right := by rwa [less_eq onMiddle onRight]
    exact atMost_of_less (less_of_atMost_of_less first less)
  · obtain ⟨lower, same, onLeft, again, order⟩ := exists_places_of_atMost first
    obtain rfl : between = same := Option.some.inj (onMiddle.symm.trans again)
    rwa [atMost_eq onLeft onRight, Bool.or_eq_true, decide_eq_true_eq]

/-- Only numbers with a place are compared. -/
theorem ne_nan_of_less (order : left.less right) : left ≠ .double .nan ∧ right ≠ .double .nan := by
  obtain ⟨lower, upper, onLeft, onRight, -⟩ := exists_places_of_atMost (atMost_of_less order)
  constructor
  · rintro rfl
    cases onLeft
  · rintro rfl
    cases onRight

/-- Of two numbers with a place, the one that is not greater is at most the other. -/
theorem atMost_of_not_less (leftDefined : left ≠ .double .nan) (rightDefined : right ≠ .double .nan)
    (notLess : right.less left = false) : left.atMost right := by
  rw [← Bool.not_eq_false]
  intro greater
  rw [less_of_not_atMost leftDefined rightDefined greater] at notLess
  exact Bool.false_ne_true notLess.symm

theorem less_of_less_of_atMost {middle : Number} (first : left.less middle) (second : middle.atMost right) :
    left.less right := by
  obtain ⟨between, upper, onMiddle, onRight, order⟩ := exists_places_of_atMost second
  obtain ⟨lower, same, onLeft, again, -⟩ := exists_places_of_atMost (atMost_of_less first)
  obtain rfl : between = same := Option.some.inj (onMiddle.symm.trans again)
  rw [less_eq onLeft onMiddle] at first
  rw [less_eq onLeft onRight]
  rcases order with below | rfl
  · exact Place.less_trans first below
  · exact first

/-- A number that is at least some whole number is greater than a lesser one. -/
theorem less_of_lt {value : Number} {lower upper : Int} (above : (whole upper).atMost value) (order : lower < upper) :
    (whole lower).less value := by
  have defined : value ≠ .double .nan := by
    rintro rfl
    exact Bool.false_ne_true above
  exact less_of_not_atMost defined (whole_ne_nan lower) (not_atMost_of_lt above order)

variable {value : Number} {lower upper : Int}

/-- A number that is less than some whole number is less than a greater one. -/
theorem less_whole_of_le (below : value.less (whole lower)) (order : lower ≤ upper) : value.less (whole upper) :=
  less_of_less_of_atMost below (by rw [atMost_whole, decide_eq_true order])

/-- A number that is at least some whole number is not less than a lesser one. -/
theorem not_less_whole_of_atMost (above : (whole upper).atMost value) (order : lower ≤ upper) :
    value.less (whole lower) = false :=
  not_less_of_atMost (atMost_trans (by rw [atMost_whole, decide_eq_true order]) above)

/-- A number that is at most some whole number is not greater than a greater one. -/
theorem not_whole_less_of_atMost (below : value.atMost (whole lower)) (order : lower ≤ upper) :
    (whole upper).less value = false :=
  not_less_of_atMost (atMost_trans below (by rw [atMost_whole, decide_eq_true order]))

end Number

end Storyboard

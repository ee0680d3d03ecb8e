/-
This file defines the powers of two and ten.
-/

namespace Storyboard

def twoTo (exponent : Nat) : Nat := Nat.pow 2 exponent

def tenTo (exponent : Nat) : Nat := Nat.pow 10 exponent

theorem twoTo_pos (exponent : Nat) : 0 < twoTo exponent := Nat.two_pow_pos exponent

theorem twoTo_add (first second : Nat) : twoTo (first + second) = twoTo first * twoTo second :=
  Nat.pow_add 2 first second

theorem twoTo_succ (exponent : Nat) : twoTo (exponent + 1) = 2 * twoTo exponent := Nat.pow_succ'

theorem twoTo_le_twoTo {lower upper : Nat} (order : lower ≤ upper) : twoTo lower ≤ twoTo upper :=
  Nat.pow_le_pow_right (by decide) order

theorem twoTo_lt_twoTo_iff {lower upper : Nat} : twoTo lower < twoTo upper ↔ lower < upper :=
  Nat.pow_lt_pow_iff_right (by decide)

theorem lt_twoTo_log2_add_one (value : Nat) : value < twoTo (value.log2 + 1) := Nat.lt_log2_self

end Storyboard

/-
This file defines the numbers of a design: whole numbers kept as such, and binary64 numbers.
-/

import Storyboard.Number.Decimal

namespace Storyboard

/-- Why a number cannot be converted or written out. -/
inductive NumberFault where
  /-- A whole number has no finite binary64 counterpart. -/
  | tooLarge
  /-- A whole number has more digits than are written out. -/
  | tooLong
  /-- The undefined number has no whole part. -/
  | undefinedWhole
  /-- An infinite number has no whole part. -/
  | infiniteWhole
  deriving DecidableEq, Repr

def NumberFault.message : NumberFault → String
  | .tooLarge => "int too large to convert to float"
  | .tooLong =>
      "Exceeds the limit (4300 digits) for integer string conversion; " ++
        "use sys.set_int_max_str_digits() to increase the limit"
  | .undefinedWhole => "cannot convert float NaN to integer"
  | .infiniteWhole => "cannot convert float infinity to integer"

/-- The whole part of a number, cut toward zero. -/
def Double.truncate (value : Double) : Except NumberFault Int :=
  match value with
  | .nan => .error .undefinedWhole
  | .infinite _ => .error .infiniteWhole
  | .finite negative steps _ => .ok (Int.tdiv (Double.signedSteps negative steps) Double.stepsPerUnit)

/-- A measure of a design keeps whole numbers apart. -/
inductive Number where
  | whole (value : Int)
  | double (value : Double)
  deriving DecidableEq

namespace Number

instance : Inhabited Number := ⟨.double .zero⟩

/-- The nearest binary64 number, which is infinite for a whole number that is too large. -/
def toDouble : Number → Double
  | .whole value => Double.ofInt value
  | .double value => value

/-- A number has a binary64 counterpart unless it is a whole number that is too large. -/
def hasCounterpart : Number → Bool
  | .whole value => (Double.ofInt value).isFinite
  | .double _ => true

/-- Two numbers can enter an operation: whole ones do as they are, others through their counterparts. -/
def canMeet : Number → Number → Bool
  | .whole _, .whole _ => true
  | left, right => left.hasCounterpart && right.hasCounterpart

/-- The whole part of a number, cut toward zero. -/
def truncated : Number → Except NumberFault Int
  | .whole value => .ok value
  | .double value => value.truncate

/-- The exact place on the number line. -/
def place? : Number → Option Place
  | .whole value => some (.inner (value * Double.stepsPerUnit))
  | .double value => value.place?

/-- Less than, compared exactly. -/
def less (left right : Number) : Bool :=
  match left.place?, right.place? with
  | some lower, some upper => lower.less upper
  | _, _ => false

/-- Equality of places. -/
def same (left right : Number) : Bool :=
  match left.place?, right.place? with
  | some lower, some upper => lower = upper
  | _, _ => false

/-- At most, compared exactly. -/
def atMost (left right : Number) : Bool := left.less right || left.same right

/-- Whole numbers stay whole under an operation, and mixed ones become binary64. -/
def combine (onWhole : Int → Int → Int) (onDouble : Double → Double → Double) : Number → Number → Number
  | .whole left, .whole right => .whole (onWhole left right)
  | left, right => .double (onDouble left.toDouble right.toDouble)

def add : Number → Number → Number := combine (· + ·) Double.add

def subtract : Number → Number → Number := combine (· - ·) Double.subtract

def multiply : Number → Number → Number := combine (· * ·) Double.multiply

def zero : Number := .whole 0

def one : Number := .whole 1

/-- A number is negative when it is less than zero. -/
def isNegative (value : Number) : Bool := value.less zero

/-- Writes a number for a style. -/
def styleText : Number → String
  | .whole value => toString value
  | .double value => value.styleText

/-- Writes a number with the fewest digits that read back. -/
def plainText : Number → String
  | .whole value => toString value
  | .double value => NumberLayout.plain.text value

end Number

end Storyboard

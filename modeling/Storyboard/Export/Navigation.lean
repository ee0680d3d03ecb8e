/-
This file defines how a prototype moves between its screens.
-/

import Storyboard.Export.Expression

namespace Storyboard.Navigation

/-- A move to the next screen or to the previous one. -/
inductive Move where
  | next
  | previous
  deriving DecidableEq, Repr

/-- There is no screen to move to. -/
inductive Fault where
  | noScreens
  deriving DecidableEq, Repr

def Fault.message : Fault → String
  | .noScreens => "Navigation requires at least one screen"

/-- The position after a move, which wraps around. -/
def Move.apply (move : Move) (count index : Int) : Except Fault Int :=
  if count < 1 then .error .noScreens
  else match move with
    | .next => .ok ((index + 1).fmod count)
    | .previous => .ok ((index - 1 + count).fmod count)

/-- The positions after each of several moves. -/
def positions (count : Int) (index : Int) : List Move → Except Fault (List Int)
  | [] => .ok []
  | move :: rest => do
      let after ← move.apply count index
      return after :: (← positions count after rest)

/-- The expression for the position after a move, which for a screen never divides a negative number. -/
def Move.expression : Move → Expression
  | .next => .remainder (.sum .index (.literal 1)) .count
  | .previous => .remainder (.sum (.difference .index (.literal 1)) .count) .count

end Storyboard.Navigation

/-
This file defines checked values, which collect the issues of all their parts.
-/

import Storyboard.Schema.Issue

namespace Storyboard

/-- A value that passed all checks, or the issues of those that it failed. -/
inductive Checked (α : Type) where
  | valid (value : α)
  | invalid (issues : List Issue)

namespace Checked

variable {α β : Type}

def issues : Checked α → List Issue
  | .valid _ => []
  | .invalid issues => issues

def map (change : α → β) : Checked α → Checked β
  | .valid value => .valid (change value)
  | .invalid issues => .invalid issues

/-- Applies a checked function, where the issues of both sides are kept in order. -/
def apply (change : Checked (α → β)) (value : Checked α) : Checked β :=
  match change, value with
  | .valid change, .valid value => .valid (change value)
  | .valid _, .invalid issues => .invalid issues
  | .invalid issues, other => .invalid (issues ++ other.issues)

instance : Applicative Checked where
  pure := .valid
  seq change value := apply change (value ())

/-- Checks the value further, if it passed so far. -/
def andThen (value : Checked α) (check : α → Checked β) : Checked β :=
  match value with
  | .valid value => check value
  | .invalid issues => .invalid issues

/-- A single issue with a value itself. -/
def fail (kind : IssueKind) (input : Json) : Checked α := .invalid [{ place := [], kind, input }]

/-- The checked value lies below a step. -/
def under (step : Step) : Checked α → Checked α
  | .valid value => .valid value
  | .invalid issues => .invalid (issues.map fun issue => { issue with place := step :: issue.place })

/-- Checks each value of a list at its position. -/
def eachFrom (check : Json → Checked α) (position : Nat) : List Json → Checked (List α)
  | [] => .valid []
  | value :: rest => (· :: ·) <$> (check value).under (.index position) <*> eachFrom check (position + 1) rest

/-- The value, or the issues as an error. -/
def toExcept : Checked α → Except (List Issue) α
  | .valid value => .ok value
  | .invalid issues => .error issues

end Checked

end Storyboard

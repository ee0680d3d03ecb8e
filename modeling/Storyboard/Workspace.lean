/-
This file keeps drafts under names while they are worked on.
-/

import Storyboard.Draft

namespace Storyboard

/-- Drafts under names. -/
structure Workspace where
  drafts : List (String × Draft) := []
  deriving Inhabited

namespace Workspace

def draft (workspace : Workspace) (name : String) : Except Failure Draft :=
  (workspace.drafts.lookup name).elim (.error (.unknownName name)) .ok

/-- Keeps a draft under a name, in place of any other one. -/
def keep (workspace : Workspace) (name : String) (draft : Draft) : Workspace :=
  { drafts := (name, draft) :: workspace.drafts.filter (·.1 ≠ name) }

/-- Takes a step that may change the draft under a name. -/
def update {α : Type} (workspace : Workspace) (name : String) (step : Draft → Draft × Except Failure α) :
    Workspace × Except Failure α :=
  match workspace.draft name with
  | .error failure => (workspace, .error failure)
  | .ok draft =>
      let (changed, answer) := step draft
      (workspace.keep name changed, answer)

end Workspace

end Storyboard

/-
This file defines the headers of requests and replies.
-/

namespace Storyboard

/-- Headers in their order. The case of a name does not count. -/
abbrev Headers : Type := List (String × String)

/-- The first header of a name, which is given in small letters. -/
def Headers.get? (headers : Headers) (name : String) : Option String :=
  (headers.find? fun (key, _) => String.ofList (key.toList.map Char.toLower) = name).map (·.2)

end Storyboard

/-
This file answers browsers that ask whether a page may call the service.
-/

import Storyboard.Server.Message

namespace Storyboard.Server.Preflight

/-- The methods that a page may use. -/
def methods : List String := ["DELETE", "GET", "HEAD", "OPTIONS", "PATCH", "POST", "PUT"]

/-- What is wrong with a call of a method from an origin. -/
def objections (origins : List String) (origin method : String) : List String :=
  (if origin ∈ origins then [] else ["origin"]) ++ (if method ∈ methods then [] else ["method"])

/-- The answer to a request that only asks for permission. -/
def response? (origins : List String) (request : Request) : Option Response := do
  let origin ← request.headers.get? "origin"
  let method ← request.headers.get? "access-control-request-method"
  guard (request.method = "OPTIONS")
  let objections := objections origins origin method
  let headers := [("content-type", "text/plain; charset=utf-8")]
  return if objections.isEmpty then ⟨200, headers, .text "OK"⟩
    else ⟨400, headers, .text ("Disallowed CORS " ++ ", ".intercalate objections)⟩

end Storyboard.Server.Preflight

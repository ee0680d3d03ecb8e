/-
This file defines requests, responses, and refusals, which become responses.
-/

import Storyboard.Failure
import Storyboard.Headers

namespace Storyboard.Server

structure Request where
  method : String
  path : String
  headers : Headers
  body : String

def Request.id? (request : Request) : Option String :=
  ["x-request-id", "x-correlation-id"].findSome? fun name =>
    (request.headers.get? name).filter (!·.isEmpty)

/-- What a response holds. -/
inductive Content where
  | json (value : Json)
  | archive (archive : Archive)
  | text (text : String)

structure Response where
  status : Nat
  headers : Headers
  content : Content

def Response.json (status : Nat) (value : Json) : Response :=
  ⟨status, [("content-type", "application/json")], .json value⟩

/-- A response of a single remark. -/
def Response.remark (status : Nat) (remark : String) : Response :=
  .json status (.object [("detail", .string remark)])

/-- Why a request is refused. -/
inductive Refusal where
  /-- The body of the request is not as it should be. -/
  | badRequest (issues : List Issue)
  /-- The body cannot be parsed for another reason than its grammar. -/
  | unreadableBody
  | failed (cause : Failure)
  /-- The service itself goes wrong. -/
  | internal
  /-- The body escapes half of a character on its own. What comes of that is not described. -/
  | halfCharacter

namespace Refusal

/-- The service itself went wrong. -/
def internalResponse (path id : String) : Response :=
  .json 500 (.object [
    ("error", .string "internal_error"),
    ("path", .string path),
    ("request_id", .string id)])

/-- An issue without the value that it is about. -/
def issueSummary (issue : Issue) : Json :=
  .object ((issue.json.fields?.getD []).filter (·.1 ≠ "input"))

def explained (status : Nat) (code message : String) (details : Json) (id : String) : Response :=
  .json status (.object [
    ("error", .string code),
    ("message", .string message),
    ("details", details),
    ("request_id", .string id)])

/-- The response to a cause. Details with a number that is not finite cannot be sent. -/
def failedResponse (path id : String) (cause : Failure) : Response :=
  match cause.report? with
  | some report =>
      if report.details.isFinite then explained report.status report.code report.message report.details id
      else internalResponse path id
  | none => internalResponse path id

/-- The response to a request that is refused, unless the request or a remote reply holds half of a character. -/
def response? (path id : String) : Refusal → Option Response
  | .badRequest issues =>
      some (explained 422 "validation_error" "Invalid request payload" (.array (issues.map issueSummary)) id)
  | .unreadableBody => some (.remark 400 "There was an error parsing the body")
  | .failed (.fetching .halfCharacter) => none
  | .failed cause => some (failedResponse path id cause)
  | .internal => some (internalResponse path id)
  | .halfCharacter => none

end Refusal

end Storyboard.Server

/-
This file fetches documents from the remote service.
-/

import Storyboard.Headers
import Storyboard.Json.Reader
import Storyboard.Remote.Address
import Storyboard.Remote.Reference

namespace Storyboard.Remote

/-- A call to the remote service. -/
structure Call where
  address : Address
  token : String
  deriving DecidableEq, Repr

/-- What comes of a call. -/
inductive Reply where
  | timedOut
  | unreachable
  | answered (status : Nat) (headers : Headers) (body : String)

/-- Why a document cannot be fetched. -/
inductive FetchFault where
  | timedOut (path : String)
  | unreachable (path : String)
  | tokenRejected
  | notFound (path : String)
  | rateLimited (retryAfter? : Option String)
  | refused (status : Nat) (body : String)
  | malformedBody
  | unexpectedBody
  /-- The document is nested too deep to be read, which the caller does not learn. -/
  | unreadableBody
  /-- The document escapes half of a character on its own. What comes of that is not described. -/
  | halfCharacter
  deriving DecidableEq, Repr

namespace FetchFault

/-- The status with which the fault is reported. -/
def status : FetchFault → Nat
  | .timedOut _ => 504
  | .notFound _ => 404
  | .rateLimited _ => 429
  | _ => 502

/-- The word for the kind of fault. -/
def code : FetchFault → String
  | .timedOut _ => "figma_timeout"
  | .notFound _ => "figma_not_found"
  | .rateLimited _ => "figma_rate_limited"
  | _ => "figma_upstream_error"

def message : FetchFault → String
  | .timedOut _ => "Figma API request timed out"
  | .unreachable _ => "Figma API connection failed"
  | .tokenRejected => "Figma API rejected the access token"
  | .notFound _ => "Figma file or node not found"
  | .rateLimited _ => "Figma API rate limit exceeded"
  | .refused status _ => s!"Figma API error {status}"
  | .malformedBody => "Figma API returned invalid JSON"
  | .unexpectedBody => "Figma API returned an unexpected payload"
  | .unreadableBody => "Figma API returned JSON nested too deep"
  | .halfCharacter => "Figma API returned half of a character"

/-- Faults that are reported as such. The rest are faults of the service itself. -/
def isReported (fault : FetchFault) : Bool := fault ∉ [.unreadableBody, .halfCharacter]

def details : FetchFault → Json
  | .timedOut path | .unreachable path | .notFound path => .object [("path", .string path)]
  | .tokenRejected => .object [("status_code", .int 403)]
  | .rateLimited retryAfter? => .object [("retry_after", retryAfter?.elim .null .string)]
  | .refused status body => .object [("status_code", .int status), ("body", .string body)]
  | .malformedBody | .unexpectedBody | .unreadableBody | .halfCharacter => .null

end FetchFault

/-- The most characters of a body that a fault quotes. -/
def maxQuotedCharacters : Nat := 200

/-- The document in a reply to a call for a path. -/
def Reply.document (path : String) : Reply → Except FetchFault Json
  | .timedOut => .error (.timedOut path)
  | .unreachable => .error (.unreachable path)
  | .answered status headers body =>
      if status = 403 then .error .tokenRejected
      else if status = 404 then .error (.notFound path)
      else if status = 429 then .error (.rateLimited (headers.get? "retry-after"))
      else if status ≠ 200 then
        .error (.refused status (String.ofList (body.toList.take maxQuotedCharacters)))
      else match Json.readTransferred body with
        | .error .nestedTooDeep => .error .unreadableBody
        | .error .halfCharacter => .error .halfCharacter
        | .error _ => .error .malformedBody
        | .ok document => if document.isObject then .ok document else .error .unexpectedBody

def filePath (fileKey : String) : String := "/v1/files/" ++ fileKey

def nodesPath (fileKey : String) : String := filePath fileKey ++ "/nodes"

/-- What a call asks for: a path, with parameters. -/
structure Target where
  path : String
  parameters : List (String × String) := []

namespace Target

def file (fileKey : String) : Target := { path := filePath fileKey }

def nodes (fileKey : String) (nodeIds : List String) : Target :=
  { path := nodesPath fileKey, parameters := [("ids", ",".intercalate nodeIds)] }

/-- What a reference points at. -/
def ofReference (reference : Reference) : Target :=
  match reference.nodeId? with
  | some nodeId => if nodeId.isEmpty then file reference.fileKey else nodes reference.fileKey [nodeId]
  | none => file reference.fileKey

end Target

/-- A client knows its token and the base address of the service. -/
structure Client where
  token : String
  base : String
  deriving DecidableEq, Repr

namespace Client

/-- The call for a target, unless its path is no part of an address. -/
def call? (client : Client) (target : Target) : Option Call :=
  (Address.make? client.base target.path target.parameters).map fun address =>
    { address, token := client.token }

end Client

end Storyboard.Remote

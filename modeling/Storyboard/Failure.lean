/-
This file collects the causes for which the service refuses work, and how each one is reported.
-/

import Storyboard.Archive.Stored
import Storyboard.Config
import Storyboard.Document.Normalize
import Storyboard.Export.Format
import Storyboard.Json.Pairs
import Storyboard.Remote.Client
import Storyboard.Schema.Issue

namespace Storyboard

/-- A cause for which the service refuses work. -/
inductive Failure where
  | shape (fault : ShapeFault)
  /-- The exchange form of a design is malformed. -/
  | pages (issues : List Issue)
  | badLink
  | linkNotText
  | nothingFound (roots : Nat)
  | nothingToEmit
  | unsupportedFormat (format : Json)
  /-- A value that is used as text is not one. -/
  | notText
  | packing (fault : PackFault)
  | unpacking (fault : Stored.Fault)
  | notConfigured
  | fetching (fault : Remote.FetchFault)
  | badAddress
  /-- A token with other than plain characters cannot be sent. -/
  | unsendableToken
  | documentTooLarge (maxBytes : Int)
  /-- Options, settings or values of a design violate their rules. -/
  | invalid (issues : List Issue)
  | optionsNotObject
  | optionsNotPairs (fault : PairFault)
  /-- Values given by name lack one that is needed, have one too many, or one of a wrong kind. -/
  | unfitting
  | config (fault : ConfigFault)
  | unknownConfigName (name : String)
  | number (fault : NumberFault)
  | node (fault : NodeFault)
  | unknownName (name : String)
  /-- A node stands where none was found. -/
  | missingNode

/-- A failure as it is reported to a caller. -/
structure Report where
  status : Nat
  code : String
  message : String
  details : Json

def Issue.json (issue : Issue) : Json := .object [
  ("type", .string issue.kind.code),
  ("loc", .array (issue.place.map fun step =>
    match step with
    | .field name => .string name
    | .index position => .int position)),
  ("msg", .string issue.kind.message),
  ("input", issue.input)]

namespace ShapeFault

def message : ShapeFault → String
  | .noChildren => "Design document has no children list"
  | _ => "Unrecognized design document shape"

def details : ShapeFault → Json
  | .notAnObject kind => .object [("received", .string kind)]
  | .noChildren => .object [("field", .string "document.children")]
  | .unknownFields names => .object [("keys", .array (names.map .string))]

end ShapeFault

namespace Stored.Fault

/-- Faults that are reported as such. The rest are faults of the service itself. -/
def isReported : Stored.Fault → Bool
  | .negativeOffset _ | .endOfData | .unsupported | .encrypted => false
  | _ => true

end Stored.Fault

namespace Failure

/-- The report of a shape that is not understood. -/
def shapeReport (message : String) (details : Json) : Report := ⟨400, "input_shape", message, details⟩

/-- The report of a failure, if the caller learns of its cause. -/
def report? : Failure → Option Report
  | .shape fault => some (shapeReport fault.message fault.details)
  | .pages issues =>
      some (shapeReport "Invalid AST payload" (.object [("errors", .array (issues.map Issue.json))]))
  | .badLink =>
      some (shapeReport "Invalid Figma URL: could not extract file key"
        (.object [("supported", .array (Remote.Reference.fileMarks.map .string))]))
  | .nothingFound roots =>
      some ⟨422, "empty_design", "No visual elements found in design", .object [("roots", .int roots)]⟩
  | .nothingToEmit => some ⟨422, "empty_design", "Nothing to emit: design has no screens", .null⟩
  | .unsupportedFormat format =>
      some ⟨400, "unsupported_format", "Unsupported format: " ++ format.plainText, .object [
        ("format", format),
        ("supported", .array (Format.all.map (.string ·.name)))]⟩
  | .packing fault =>
      if fault.isReported then
        some ⟨500, "archive_io", "Failed to build archive", .object [
          ("member", .string fault.path),
          ("reason", .string fault.reason)]⟩
      else none
  | .unpacking fault =>
      if fault.isReported then
        some ⟨500, "archive_io", "Failed to read archive", .object [("reason", .string fault.message)]⟩
      else none
  | .notConfigured =>
      some ⟨400, "figma_not_configured", "Figma access not configured", .object [
        ("hint", .string "Set FIGMA_ACCESS_TOKEN on the API service.")]⟩
  | .fetching fault =>
      if fault.isReported then some ⟨fault.status, fault.code, fault.message, fault.details⟩ else none
  | .documentTooLarge maxBytes =>
      some ⟨413, "document_too_large", "Design document exceeds size limit", .object [
        ("max_bytes", .int maxBytes)]⟩
  | _ => none

/-- A failure to build a design of a raw document. -/
def ofDocument : DocumentFault → Failure
  | .shape fault => .shape fault
  | .nothingFound roots => .nothingFound roots
  | .number fault => .number fault

end Failure

end Storyboard

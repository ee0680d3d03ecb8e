/-
This file reads the bodies of requests and checks what they ask for.
-/

import Storyboard.Conversion
import Storyboard.Json.Reader
import Storyboard.Server.Message
import Storyboard.Text.Case

namespace Storyboard.Server

/-- The content type without its parameters. -/
def mediaType (contentType : String) : String :=
  Text.toSmall (Text.trim (String.ofList (contentType.toList.takeWhile (· ≠ ';'))))

/-- The content type stands for JSON. -/
def isJsonType (contentType : String) : Bool :=
  match Text.parts '/' (mediaType contentType) with
  | ["application", kind] => kind = "json" || kind.endsWith "+json"
  | _ => false

/-- The value of a body. A body of another type than JSON counts as its text. -/
def Request.value? (request : Request) : Except Refusal (Option Json) :=
  if request.body.isEmpty then .ok none
  else if !isJsonType ((request.headers.get? "content-type").getD "") then .ok (some (.string request.body))
  else
    match Json.readTransferred request.body with
    | .ok value => .ok (some value)
    | .error (.malformed offset) =>
        .error (.badRequest [⟨[.field "body", .index offset], .malformedText, .string request.body⟩])
    | .error .halfCharacter => .error .halfCharacter
    | .error _ => .error .unreadableBody

/-- The fields of an object. -/
def attributes {α : Type} (check : List (String × Json) → Checked α) (value : Json) : Checked α :=
  match value with
  | .object fields => check fields
  | _ => .fail .notAttributes value

/-- Checks the body of a request, which must be there. -/
def checkBody {α : Type} (check : List (String × Json) → Checked α) (value? : Option Json) :
    Except Refusal α :=
  let checked := match value? with
    | some value => attributes check value
    | none => .fail .missing .null
  (checked.under (.field "body")).toExcept.mapError .badRequest

/-- An object that can be a document. -/
def documentObject (value : Json) : Checked Json :=
  if value.isObject then .valid value else .fail .notObject value

/-- A document, which is an object or a list of objects. The issues name both alternatives. -/
def document (value : Json) : Checked Json :=
  let asObject := (documentObject value).under (.field "dict[str,any]")
  let asList := (Schema.list documentObject value).under (.field "list[dict[str,any]]")
  match asObject, asList with
  | .valid _, _ | _, .valid _ => .valid value
  | .invalid first, .invalid second => .invalid (first ++ second)

/-- The link of a request, without white space around it. -/
def link (value : Json) : Checked String :=
  (Schema.textOfAtLeast 1 value).andThen fun text =>
    let trimmed := Text.trim text
    if trimmed.isEmpty then .fail (.rejected "figmaUrl must not be blank") value else .valid trimmed

def documentField (fields : List (String × Json)) : Checked Json :=
  Schema.required fields (.single "document") document

def optionsField (fields : List (String × Json)) : Checked ExportOptions :=
  Schema.fieldOr fields (.single "options") {} (attributes ExportOptions.ofFields)

def linkField (fields : List (String × Json)) : Checked String :=
  Schema.required fields ⟨"figmaUrl", "figma_url"⟩ link

end Storyboard.Server

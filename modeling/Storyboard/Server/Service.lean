/-
This file answers requests.
-/

import Storyboard.Remote.Fetch
import Storyboard.Server.Body
import Storyboard.Server.Preflight
import Storyboard.Server.Route

namespace Storyboard.Server

/-- What the service depends on. -/
structure Service where
  /-- The variables from which the settings are read. -/
  environment : List (String × String)
  access : Remote.Access
  /-- The identifier of a request that carries none. -/
  newId : String
  /-- The origins from which a browser may call. -/
  origins : List String := Settings.developmentOrigins

/-- A response or a refusal, with the remote calls that were made. -/
structure Outcome where
  calls : List Remote.Call := []
  result : Except Refusal Response

namespace Service

/-- The settings, without which nothing works. -/
def settings (service : Service) : Except Refusal Settings :=
  (Settings.ofEnvironment service.environment).toExcept.mapError fun _ => .internal

/-- The limits and defaults of the settings. -/
def config (settings : Settings) : Except Refusal Config :=
  settings.config.mapError fun _ => .internal

/-- A character that counts as a digit of a length. -/
def isLengthDigit (character : Char) : Bool :=
  character.isDigit || character ∈ ['¹', '²', '³']

/-- Refuses a request that is too long by its own account. -/
def checkLength (settings : Settings) (request : Request) : Except Refusal Unit :=
  let length := ((request.headers.get? "content-length").getD "").toList
  if length.isEmpty || !length.all isLengthDigit then .ok ()
  else if !length.all Char.isDigit || Json.maxDigits < length.length then .error .internal
  else if settings.maxDocumentBytes < Numeral.digitsValue length then
    .error (.failed (.documentTooLarge settings.maxDocumentBytes))
  else .ok ()

/-- Tells that the service is well, and how it is set. -/
def healthResponse (settings : Settings) : Response :=
  let version := settings.buildVersion?.getD ""
  .json 200 (.object [
    ("status", .string "ok"),
    ("build_version", .string (if version.isEmpty then "dev" else version)),
    ("max_depth", .int settings.maxDepth),
    ("low_yield_threshold", .int settings.lowYieldThreshold),
    ("figma_configured", .bool (Remote.nonEmpty? settings.accessToken?).isSome)])

def formatsResponse : Response :=
  .json 200 (.object [("formats", .array (Format.all.map (.string ·.name)))])

def analysisResponse (config : Config) (source : Json) : Except Failure Response := do
  let analysis ← Analysis.ofSource config source
  return .json 200 (← analysis.json).withFiniteNumbers

def archiveResponse (conversion : Conversion) (options : ExportOptions) : Response where
  status := 200
  headers := [
    ("content-type", "application/zip"),
    ("content-disposition",
      "attachment; filename=\"" ++ options.componentName ++ "-" ++ conversion.format.name ++ ".zip\""),
    ("x-figma-export-format", conversion.format.name),
    ("x-figma-export-screens", toString conversion.design.screenCount),
    ("x-figma-export-diagnostics", toString conversion.design.diagnostics.length)]
  content := .archive conversion.archive

def convert (config : Config) (format : String) (options : ExportOptions) (source : Json) :
    Except Failure Response := do
  let format ← Format.ofValue (.string format)
  let conversion ← Conversion.ofDesign (← Design.ofSource config source) format options
  return archiveResponse conversion options

/-- Fetches what a link points at. An unknown format is refused before. -/
def fetch (service : Service) (settings : Settings) (format link : String) : Remote.Fetched :=
  match Format.ofValue (.string format) *> service.access.client settings with
  | .error failure => { result := .error failure }
  | .ok client => service.access.fetchLink client link

/-- Exports what a link points at. -/
def convertLink (service : Service) (settings : Settings) (format : String) (value? : Option Json) : Outcome :=
  match checkBody (fun fields => Prod.mk <$> linkField fields <*> optionsField fields) value? with
  | .error refusal => { result := .error refusal }
  | .ok (link, options) =>
      let fetched := service.fetch settings format link
      { calls := fetched.calls
        result := do
          let source ← fetched.result.mapError .failed
          (convert (← config settings) format options source).mapError .failed }

/-- Takes a route that needs a body, after the body is read and its length is checked. -/
def answerPost (service : Service) (route : Route) (request : Request) : Outcome :=
  let opened : Except Refusal (Option Json × Settings) := do
    let value? ← request.value?
    let settings ← service.settings
    checkLength settings request
    return (value?, settings)
  match opened with
  | .error refusal => { result := .error refusal }
  | .ok (value?, settings) =>
      match route with
      | .convertLink format => service.convertLink settings format value?
      | .convert format => {
          result := do
            let (source, options) ←
              checkBody (fun fields => Prod.mk <$> documentField fields <*> optionsField fields) value?
            (convert (← config settings) format options source).mapError .failed }
      | _ => {
          result := do
            let source ← checkBody documentField value?
            (analysisResponse (← config settings) source).mapError .failed }

def take (service : Service) (route : Route) (request : Request) : Outcome :=
  match route with
  | .health => { result := healthResponse <$> service.settings }
  | .formats => { result := .ok formatsResponse }
  | _ => service.answerPost route request

/-- The path of a request without its query. -/
def barePath (request : Request) : String := String.ofList (request.path.toList.takeWhile (· ≠ '?'))

/-- A path as it stands in an address, which holds no fragment, tabs and line ends. -/
def shownPath (path : String) : String :=
  String.ofList ((path.toList.takeWhile (· ≠ '#')).filter (· ∉ ['\t', '\r', '\n']))

/--
Answers a request, and tells which remote calls were made. No answer is given to what escapes half of a character on its
own.
-/
def answer? (service : Service) (request : Request) : Option (Response × List Remote.Call) :=
  let path := barePath request
  match Preflight.response? service.origins request, Route.ofPath? path with
  | some response, _ => some (response, [])
  | none, none =>
      some (if Route.isMisspelt path then ⟨307, [], .text ""⟩ else .remark 404 "Not Found", [])
  | none, some route =>
      if route.method ≠ request.method then some (.remark 405 "Method Not Allowed", [])
      else
        let outcome := service.take route request
        let id := request.id?.getD service.newId
        let response? := match outcome.result with
          | .ok response => some response
          | .error refusal => refusal.response? (shownPath path) id
        response?.map (·, outcome.calls)

end Service

end Storyboard.Server

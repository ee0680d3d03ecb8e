/-
This file reads the settings of the service from its environment.
-/

import Storyboard.Config
import Storyboard.Schema.Scalar
import Storyboard.Text.Blank
import Storyboard.Text.Case

namespace Storyboard

structure Settings where
  environment : String := "development"
  buildVersion? : Option String := none
  maxDepth : Int := 10
  lowYieldThreshold : Int := 5
  minVisualSize : Double := .ofInt 10
  fallbackMinArea : Double := .ofInt 16
  fallbackFont : String := "Inter"
  defaultFontSize : Double := .ofInt 14
  defaultFontWeight : Int := 400
  maxDocumentMegabytes : Int := 25
  accessToken? : Option String := none
  apiBase : String := "https://api.figma.com"
  httpTimeout : Double := .ofInt 60
  webOrigin? : Option String := none
  logLevel : String := "INFO"
  deriving Inhabited

namespace Settings

/-- The names of the variables, in the order of the settings. -/
def names : List String := [
  "FIGMA_EXPORT_ENV",
  "FIGMA_EXPORT_BUILD_VERSION",
  "FIGMA_EXPORT_MAX_DEPTH",
  "FIGMA_EXPORT_LOW_YIELD_THRESHOLD",
  "FIGMA_EXPORT_MIN_VISUAL_SIZE",
  "FIGMA_EXPORT_FALLBACK_MIN_AREA",
  "FIGMA_EXPORT_FALLBACK_FONT",
  "FIGMA_EXPORT_DEFAULT_FONT_SIZE",
  "FIGMA_EXPORT_DEFAULT_FONT_WEIGHT",
  "FIGMA_EXPORT_MAX_DOCUMENT_MB",
  "FIGMA_ACCESS_TOKEN",
  "FIGMA_API_BASE",
  "FIGMA_HTTP_TIMEOUT",
  "WEB_ORIGIN",
  "LOG_LEVEL"]

/-- The variables that are set, under their proper names. Case does not count in an environment. -/
def given (environment : List (String × String)) : List (String × Json) :=
  names.filterMap fun name =>
    (environment.reverse.find? fun (key, _) => Text.toSmall key = Text.toSmall name).map fun (_, value) =>
      (name, .string value)

/-- The settings of which each one is well formed. -/
def ofGiven (given : List (String × Json)) : Checked Settings :=
  let defaults : Settings := {}
  let field {α : Type} (name : String) (default : α) (check : Json → Checked α) : Checked α :=
    Schema.fieldOr given (.single name) default check
  Settings.mk <$>
    field "FIGMA_EXPORT_ENV" defaults.environment Schema.text <*>
    field "FIGMA_EXPORT_BUILD_VERSION" none (Schema.optional Schema.text) <*>
    field "FIGMA_EXPORT_MAX_DEPTH" defaults.maxDepth Schema.whole <*>
    field "FIGMA_EXPORT_LOW_YIELD_THRESHOLD" defaults.lowYieldThreshold Schema.whole <*>
    field "FIGMA_EXPORT_MIN_VISUAL_SIZE" defaults.minVisualSize Schema.double <*>
    field "FIGMA_EXPORT_FALLBACK_MIN_AREA" defaults.fallbackMinArea Schema.double <*>
    field "FIGMA_EXPORT_FALLBACK_FONT" defaults.fallbackFont Schema.text <*>
    field "FIGMA_EXPORT_DEFAULT_FONT_SIZE" defaults.defaultFontSize Schema.double <*>
    field "FIGMA_EXPORT_DEFAULT_FONT_WEIGHT" defaults.defaultFontWeight Schema.whole <*>
    field "FIGMA_EXPORT_MAX_DOCUMENT_MB" defaults.maxDocumentMegabytes Schema.whole <*>
    field "FIGMA_ACCESS_TOKEN" none (Schema.optional Schema.text) <*>
    field "FIGMA_API_BASE" defaults.apiBase Schema.text <*>
    field "FIGMA_HTTP_TIMEOUT" defaults.httpTimeout Schema.double <*>
    field "WEB_ORIGIN" none (Schema.optional Schema.text) <*>
    field "LOG_LEVEL" defaults.logLevel Schema.text

/-- The names of the settings that must be positive and are not. -/
def notPositive (settings : Settings) : List String :=
  [("FIGMA_EXPORT_MAX_DEPTH", decide (settings.maxDepth ≤ 0)),
    ("FIGMA_EXPORT_LOW_YIELD_THRESHOLD", decide (settings.lowYieldThreshold ≤ 0)),
    ("FIGMA_EXPORT_DEFAULT_FONT_SIZE", settings.defaultFontSize.atMost .zero),
    ("FIGMA_EXPORT_MAX_DOCUMENT_MB", decide (settings.maxDocumentMegabytes ≤ 0))].filterMap
    fun (name, isBad) => if isBad then some name else none

/-- What is wrong with settings that are well formed each. -/
def rejection? (settings : Settings) : Option String :=
  if !settings.notPositive.isEmpty then
    some ("Settings must be positive: " ++ ", ".intercalate settings.notPositive)
  else if settings.minVisualSize.less .zero || settings.fallbackMinArea.less .zero then
    some "Size thresholds must be non-negative"
  else none

def ofEnvironment (environment : List (String × String)) : Checked Settings :=
  let given := given environment
  (ofGiven given).andThen fun settings =>
    match settings.rejection? with
    | some reason => .fail (.rejected reason) (.object given)
    | none => .valid settings

/-- The limits and defaults under which designs are built. -/
def config (settings : Settings) : Except ConfigFault Config :=
  let config : Config := { Config.standard with
    minVisualSize := .double settings.minVisualSize
    fallbackMinArea := .double settings.fallbackMinArea
    fallbackFont := settings.fallbackFont
    defaultFontSize := .double settings.defaultFontSize
    defaultFontWeight := .whole settings.defaultFontWeight }
  config.withLimits (.whole settings.maxDepth) (.whole settings.lowYieldThreshold)

def maxDocumentBytes (settings : Settings) : Int := settings.maxDocumentMegabytes * 1024 * 1024

/-- The origins from which a browser may call during development. -/
def developmentOrigins : List String := [
  "http://localhost:3000",
  "http://127.0.0.1:3000",
  "http://localhost:5173",
  "http://127.0.0.1:5173"]

/-- The origins from which a browser may call. -/
def origins (settings : Settings) : List String :=
  let listed := settings.webOrigin?.getD ""
  if !listed.isEmpty then ((Text.parts ',' listed).map Text.trim).filter (!·.isEmpty)
  else if Text.toSmall settings.environment = "production" then []
  else developmentOrigins

end Settings

end Storyboard

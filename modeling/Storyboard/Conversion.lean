/-
This file converts designs to exports and analyses them.
-/

import Storyboard.Archive.Basic
import Storyboard.Classify.Annotate
import Storyboard.Exchange.Writer
import Storyboard.Export.Emit
import Storyboard.Failure

namespace Storyboard

/-- The design of a source, which is a raw document or a design in exchange form. -/
def Design.ofSource (config : Config) (source : Json) : Except Failure Design :=
  if Exchange.isExchangeForm source then (Exchange.read config source).mapError .pages
  else (Document.normalize config source).mapError .ofDocument

/-- The format that a value asks for. -/
def Format.ofValue (value : Json) : Except Failure Format :=
  match value with
  | .string name => (Format.ofName? name).elim (.error (.unsupportedFormat value)) .ok
  | other => if other.isAbsent then .error (.unsupportedFormat value) else .error .notText

namespace ExportOptions

/-- The most characters of a component name as it is asked for. -/
def maxNameCharacters : Nat := 128

def ofFields (fields : List (String × Json)) : Checked ExportOptions :=
  let defaults : ExportOptions := {}
  (fun includeStyles minify includeImages name =>
    { includeStyles, minify, includeImages, componentName := ComponentName.ofText name }) <$>
    Schema.fieldOr fields ⟨"includeStyles", "include_styles"⟩ defaults.includeStyles Schema.flag <*>
    Schema.fieldOr fields (.single "minify") defaults.minify Schema.flag <*>
    Schema.fieldOr fields ⟨"includeImages", "include_images"⟩ defaults.includeImages Schema.flag <*>
    Schema.fieldOr fields ⟨"componentName", "component_name"⟩ defaults.componentName
      (Schema.textOfAtMost maxNameCharacters)

/-- The options that a value asks for: null for the defaults, an object, or pairs of a name and a value. -/
def ofValue (value : Json) : Except Failure ExportOptions :=
  match value with
  | .null => .ok {}
  | .object fields => (ofFields fields).toExcept.mapError .invalid
  | other =>
      match other.parts? with
      | none => .error .optionsNotObject
      | some pairs => do
          let fields ← (Json.putPairs [] 0 pairs).mapError .optionsNotPairs
          (ofFields fields).toExcept.mapError .invalid

end ExportOptions

/-- An export of a design. -/
structure Conversion where
  format : Format
  design : Design
  files : List File
  archive : Archive

namespace Conversion

def pack (files : List File) : Except Failure Archive :=
  (Archive.pack (files.map fun file => (file.path, .ofString file.content))).mapError .packing

/-- A design as it is drawn, unless some number in it is too large to be written. -/
def rendering (design : Design) (format : Format) (options : ExportOptions) : Except Failure Rendering :=
  if design.isDrawable format then .ok (design.render format options) else .error (.number .tooLarge)

/-- The files of a design, which must have a screen. -/
def emit (design : Design) (format : Format) (options : ExportOptions) : Except Failure (List File) :=
  if design.screens.isEmpty then .error .nothingToEmit
  else if design.isDrawable format then .ok (design.files format options)
  else .error (.number .tooLarge)

/-- The export of a design, which is classified afresh. -/
def ofDesign (design : Design) (format : Format) (options : ExportOptions) : Except Failure Conversion := do
  let design := design.classified
  let files ← emit design format options
  return { format, design, files, archive := ← pack files }

/-- The export of a source. The format is looked at first, then the options, then the source. -/
def ofSource (config : Config) (source format options : Json) : Except Failure Conversion := do
  let format ← Format.ofValue format
  let options ← ExportOptions.ofValue options
  ofDesign (← Design.ofSource config source) format options

end Conversion

/-- What is known of a design. -/
structure Analysis where
  design : Design
  texts : List String
  categories : List (String × Nat)
  hasShapes : Bool

namespace Analysis

/-- The analysis of a design, which is classified afresh. -/
def ofDesign (design : Design) : Analysis :=
  let design := design.classified
  { design
    texts := design.texts
    categories := design.categoryCounts
    hasShapes := design.layers.any (·.type.isShape) }

def ofSource (config : Config) (source : Json) : Except Failure Analysis := do
  return ofDesign (← Design.ofSource config source)

def hasText (analysis : Analysis) : Bool := !analysis.texts.isEmpty

def hasIcons (analysis : Analysis) : Bool := 0 < ((analysis.categories.lookup "Icon").getD 0)

def diagnosticJson (diagnostic : Diagnostic) : Json := .object [
  ("code", .string diagnostic.code),
  ("message", .string diagnostic.message),
  ("details", .object diagnostic.details)]

/-- An analysis as a value, with the screens in exchange form. -/
def json (analysis : Analysis) : Except Failure Json := do
  let screens ← (Exchange.writeNodes analysis.design.screens).mapError .invalid
  return .object [
    ("screen_count", .int analysis.design.screenCount),
    ("element_count", .int analysis.design.elementCount),
    ("texts", .array (analysis.texts.map .string)),
    ("categories", .object (analysis.categories.map fun (name, count) => (name, .int count))),
    ("has_text", .bool analysis.hasText),
    ("has_shapes", .bool analysis.hasShapes),
    ("has_icons", .bool analysis.hasIcons),
    ("diagnostics", .array (analysis.design.diagnostics.map diagnosticJson)),
    ("screens", .array screens)]

end Analysis

end Storyboard

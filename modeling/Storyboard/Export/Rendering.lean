/-
This file defines rendered screens and the files that every export has.
-/

import Storyboard.Export.Stylesheet
import Storyboard.Markup.Element

namespace Storyboard

structure File where
  path : String
  content : String
  deriving DecidableEq, Repr, Inhabited

/-- A screen as it is drawn. -/
structure RenderedScreen where
  index : Nat
  layer : Layer
  style : List Declaration
  elements : List (Tree Element)

/-- A design as it is drawn in a format. -/
structure Rendering where
  format : Format
  options : ExportOptions
  screens : List RenderedScreen
  /-- The components that are used, each with the place that it is imported from. -/
  imports : List (String × String)

namespace RenderedScreen

/-- The name of a screen, which its position gives when it has none of its own. -/
def name (screen : RenderedScreen) : String :=
  if screen.layer.name.isEmpty then s!"Screen {screen.index + 1}" else screen.layer.name

def lines (format : Format) (screen : RenderedScreen) : List String :=
  Element.allLines format screen.elements

end RenderedScreen

namespace Node

/-- The nodes that a screen shows: its visible children, or itself when there are none. -/
def shown (screen : Node) : List Node :=
  match screen.children.filter (·.value.visible) with
  | [] => [screen]
  | children => children

/-- The origin of what a screen shows. -/
def shownOrigin (format : Format) (screen : Node) : Origin :=
  if screen.children.isEmpty then .zero else Element.childOrigin format .zero screen.value

/-- The layers that are drawn on a screen. -/
def drawnLayers (screen : Node) : List Layer :=
  screen.shown.flatMap fun node => (node.prune (·.visible)).preorder

def render (format : Format) (options : ExportOptions) (index : Nat) (screen : Node) : RenderedScreen where
  index
  layer := screen.value
  style := Declaration.ofScreen screen.value
  elements := screen.shown.map (Node.element format options (screen.shownOrigin format))

end Node

/-- The first place that is given for each component. -/
def firstImports (found : List (String × String)) : List (String × String) :=
  found.foldl (fun imports (category, slug) =>
    if imports.any (·.1 = category) then imports else imports ++ [(category, slug)]) []

/-- The component that a layer is drawn as, with the place that it is imported from. -/
def Layer.componentImport? (format : Format) (layer : Layer) : Option (String × String) :=
  if format.bindsComponents then
    layer.classification.importSlug?.map fun slug => (layer.classification.category, slug)
  else none

def Design.render (design : Design) (format : Format) (options : ExportOptions) : Rendering where
  format
  options
  screens := design.screens.mapIdx (Node.render format options)
  imports := firstImports
    ((design.screens.flatMap Node.drawnLayers).filterMap (Layer.componentImport? format))

/-- Every number in a screen and in what it shows can be written. -/
def Node.isScreenDrawable (format : Format) (screen : Node) : Bool :=
  Declaration.areScreenWritable screen.value &&
    screen.shown.all (Node.isDrawable format (screen.shownOrigin format))

/-- Every number that is drawn can be written. -/
def Design.isDrawable (design : Design) (format : Format) : Bool :=
  design.screens.all (Node.isScreenDrawable format)

namespace Rendering

/-- The name of the main component. -/
def componentName (rendering : Rendering) : String := rendering.options.componentName

/-- The lines of a screen at a depth of indentation. -/
def screenText (rendering : Rendering) (screen : RenderedScreen) (depth : Nat) : String :=
  let pad := String.ofList (List.replicate (2 * depth) ' ')
  "\n".intercalate ((screen.lines rendering.format).map (pad ++ ·))

/-- The packages of an object of versions. -/
def versions (packages : List (String × String)) : Json :=
  .object (packages.map fun (name, version) => (name, .string version))

def manifest (rendering : Rendering) : Json :=
  let format := rendering.format
  .object <|
    [("name", .string ("figma-prototype-" ++ format.name)),
      ("private", .bool true),
      ("version", .string "1.0.0"),
      ("type", .string "module"),
      ("description", .string s!"{rendering.componentName} exported as {format.label}"),
      ("scripts", .object [
        ("dev", .string "vite"),
        ("build", .string "vite build"),
        ("preview", .string "vite preview")])] ++
    (if format.dependencies.isEmpty then [] else [("dependencies", versions format.dependencies)]) ++
    [("devDependencies", versions format.devDependencies)]

def manifestFile (rendering : Rendering) : File where
  path := "package.json"
  content := Json.indented 0 rendering.manifest ++ "\n"

/-- The path of the file that describes an export. -/
def readmePath : String := "README.md"

/-- The description of an export with its list of files. -/
def readme (rendering : Rendering) (paths : List String) : String :=
  let label := rendering.format.label
  unlines <|
    [s!"# {rendering.componentName} ({label})",
      "",
      s!"Prototype with {rendering.screens.length} screen(s) exported as {label} code.",
      "",
      "## Getting started",
      "",
      "1. Install dependencies:",
      "   ```bash",
      "   npm install",
      "   ```",
      "2. Start the development server:",
      "   ```bash",
      "   npm run dev",
      "   ```",
      "3. Open the URL shown in the terminal.",
      "",
      "## Navigation",
      "",
      "Use the Previous / Next controls to move between screens. Navigation wraps",
      "around: Next on the last screen returns to the first one.",
      "",
      "## Files",
      ""] ++
    (paths ++ [readmePath]).map fun path => "- `" ++ path ++ "`"

/-- Adds the manifest and the description to the files of an export. -/
def withDescription (rendering : Rendering) (files : List File) : List File :=
  let described := files ++ [rendering.manifestFile]
  described ++ [⟨readmePath, rendering.readme (described.map (·.path))⟩]

/-- The style sheet of an export, if it has one. -/
def stylesheetFiles (rendering : Rendering) (path : String) (kind : Stylesheet.Kind) : List File :=
  let options := rendering.options
  if options.includeStyles then [⟨path, Stylesheet.text kind options.includeImages options.minify⟩] else []

/-- The page that loads a script. -/
def entryPage (rendering : Rendering) (mountId entry : String) : File where
  path := "index.html"
  content := unlines [
    "<!DOCTYPE html>",
    r#"<html lang="en">"#,
    "<head>",
    r#"  <meta charset="UTF-8">"#,
    r#"  <meta name="viewport" content="width=device-width, initial-scale=1.0">"#,
    "  <title>" ++ Markup.escapeText rendering.componentName ++ "</title>",
    "</head>",
    "<body>",
    "  <div id=\"" ++ mountId ++ "\"></div>",
    "  <script type=\"module\" src=\"" ++ entry ++ "\"></script>",
    "</body>",
    "</html>"]

end Rendering

end Storyboard

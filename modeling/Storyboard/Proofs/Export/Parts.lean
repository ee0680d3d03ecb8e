/-
This file takes an export apart: the files that are written from what is drawn, the style sheet, the files for tools,
and the description of all of them.
-/

import Storyboard.Export.Emit

namespace Storyboard

namespace Format

def stylesheetPath : Format → String
  | .html => "styles.css"
  | .vue => "src/style.css"
  | .react | .moneyview => "src/index.css"

def stylesheetKind : Format → Stylesheet.Kind
  | .html | .vue | .react => .plain
  | .moneyview => .utility

/-- The files with settings for tools. -/
def toolFiles : Format → List File
  | .html => []
  | .vue => [TemplateExport.bundlerFile]
  | .react => [ScriptExport.bundlerFile]
  | .moneyview => [ScriptExport.bundlerFile, ScriptExport.utilityFile, ScriptExport.processorFile]

end Format

namespace Rendering

/-- The files that are written from what is drawn. -/
def mainFiles (rendering : Rendering) : List File :=
  match rendering.format with
  | .html => [MarkupExport.page rendering]
  | .vue => [
      rendering.entryPage "app" "/src/main.js",
      TemplateExport.entryScript rendering,
      TemplateExport.root rendering,
      TemplateExport.component rendering]
  | .react | .moneyview => [
      rendering.entryPage "root" "/src/main.jsx",
      ScriptExport.entryScript rendering,
      ScriptExport.component rendering]

/-- The style sheet of an export in its place, if there is one. -/
def stylesheet (rendering : Rendering) : List File :=
  rendering.stylesheetFiles rendering.format.stylesheetPath rendering.format.stylesheetKind

/-- An export describes its main files, its style sheet and its files for tools. -/
theorem files_eq (rendering : Rendering) : rendering.files =
    rendering.withDescription (rendering.mainFiles ++ (rendering.stylesheet ++ rendering.format.toolFiles)) := by
  obtain ⟨format, options, screens, imports⟩ := rendering
  rw [← List.append_assoc]
  cases format with
  | html =>
      dsimp only [Format.toolFiles]
      rw [List.append_nil]
      rfl
  | vue | react | moneyview => rfl

/-- The files that are no main file and no style sheet: those for tools, and the manifest. -/
def closingFiles (rendering : Rendering) : List File := rendering.format.toolFiles ++ [rendering.manifestFile]

theorem map_path_closingFiles (rendering : Rendering) :
    rendering.closingFiles.map (·.path) = rendering.format.toolFiles.map (·.path) ++ ["package.json"] :=
  List.map_append

/-- The files of an export one by one, with the description of all others at the end. -/
theorem files_eq_append (rendering : Rendering) : rendering.files =
    rendering.mainFiles ++ (rendering.stylesheet ++ (rendering.closingFiles ++
      [⟨readmePath, rendering.readme (rendering.mainFiles.map (·.path) ++
        (rendering.stylesheet.map (·.path) ++ rendering.closingFiles.map (·.path)))⟩])) := by
  rw [files_eq, withDescription, closingFiles]
  simp only [List.append_assoc, List.map_append]

theorem mem_files_of_mem_mainFiles {rendering : Rendering} {file : File} (member : file ∈ rendering.mainFiles) :
    file ∈ rendering.files := by
  rw [files_eq, withDescription]
  exact List.mem_append_left _ (List.mem_append_left _ (List.mem_append_left _ member))

end Rendering

end Storyboard

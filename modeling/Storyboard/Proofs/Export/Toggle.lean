/-
This file states that the options of an export change what they are for and nothing else: whether the style sheet is
small, whether there is one, and whether layers with images are marked.
-/

import Storyboard.Proofs.Export.Files
import Storyboard.Proofs.Export.Parts
import Storyboard.Proofs.Export.Placeholder

namespace Storyboard

/-- Two texts are the same, but for a line that is in the left one only. -/
def LosesLine (line left right : String) : Prop :=
  ∃ front behind, (front = "" ∨ ∃ lines, front = lines ++ "\n") ∧
    left = front ++ (line ++ "\n" ++ behind) ∧ right = front ++ behind

theorem unlines_cons (line : String) {lines : List String} (more : lines ≠ []) :
    unlines (line :: lines) = line ++ "\n" ++ unlines lines := by
  rw [unlines, String.intercalate_cons_of_ne_nil more, String.append_assoc]
  rfl

/-- A line among others is the one that is lost. -/
theorem losesLine_unlines (line : String) (front : List String) {behind : List String} (more : behind ≠ []) :
    LosesLine line (unlines (front ++ line :: behind)) (unlines (front ++ behind)) := by
  induction front with
  | nil => exact ⟨"", unlines behind, .inl rfl, by rw [List.nil_append, unlines_cons line more]; rfl, rfl⟩
  | cons first front ih =>
      obtain ⟨before, after, bound, left, right⟩ := ih
      refine ⟨first ++ "\n" ++ before, after, .inr ?_, ?_, ?_⟩
      · rcases bound with rfl | ⟨lines, rfl⟩
        · exact ⟨first, String.append_empty⟩
        · exact ⟨first ++ "\n" ++ lines, String.append_assoc.symm⟩
      · rw [List.cons_append, unlines_cons first (by simp), left, ← String.append_assoc]
      · rw [List.cons_append, unlines_cons first (by simp [more]), right, ← String.append_assoc]

/-- A line that depends on a switch is lost when this is turned off. -/
theorem losesLine_switch (line : String) (front : List String) {behind : List String} (more : behind ≠ []) :
    LosesLine line (unlines (front ++ ((if true then [line] else []) ++ behind)))
      (unlines (front ++ ((if false then [line] else []) ++ behind))) :=
  losesLine_unlines line front more

section Agreement

/-- A path under which contents may differ, with what holds of them. -/
abbrev Exception := String × (String → String → Prop)

/-- Two files have the same path, and the same content unless this path is excepted. -/
def File.AgreesBut (exceptions : List Exception) (file other : File) : Prop :=
  file.path = other.path ∧
    (∀ exception ∈ exceptions, file.path = exception.1 → exception.2 file.content other.content) ∧
    (file.path ∉ exceptions.map (·.1) → file.content = other.content)

/-- The files of two exports under the same paths, one by one. -/
def AgreeBut (exceptions : List Exception) : List File → List File → Prop :=
  List.Forall₂ (File.AgreesBut exceptions)

variable {exceptions : List Exception}

theorem File.agreesBut_of_eq {file other : File} (same : file = other) (unlisted : file.path ∉ exceptions.map (·.1)) :
    File.AgreesBut exceptions file other := by
  subst same
  refine ⟨rfl, fun exception member path => ?_, fun _ => rfl⟩
  exact absurd (List.mem_map.mpr ⟨exception, member, path.symm⟩) unlisted

theorem File.agreesBut_of_mem {file other : File} {related : String → String → Prop}
    (distinct : (exceptions.map (·.1)).Nodup) (listed : (file.path, related) ∈ exceptions)
    (same : file.path = other.path) (holds : related file.content other.content) :
    File.AgreesBut exceptions file other := by
  refine ⟨same, fun exception member path => ?_, fun unlisted => absurd (List.mem_map_of_mem listed) unlisted⟩
  obtain rfl := List.inj_on_of_nodup_map distinct listed member path
  exact holds

theorem agreeBut_self {files : List File} (unlisted : ∀ path ∈ files.map (·.path), path ∉ exceptions.map (·.1)) :
    AgreeBut exceptions files files :=
  List.forall₂_same.mpr fun _ member => File.agreesBut_of_eq rfl (unlisted _ (List.mem_map_of_mem member))

theorem AgreeBut.map_path {files others : List File} (agree : AgreeBut exceptions files others) :
    files.map (·.path) = others.map (·.path) := by
  induction agree with
  | nil => rfl
  | cons first _ ih => rw [List.map_cons, List.map_cons, first.1, ih]

end Agreement

namespace Format

/-- The path of the file that loads the style sheet. -/
def referrerPath : Format → String
  | .html => "index.html"
  | .vue => "src/main.js"
  | .react | .moneyview => "src/main.jsx"

/-- The line that loads the style sheet. -/
def stylesheetLine : Format → String
  | .html => r#"  <link rel="stylesheet" href="styles.css">"#
  | .vue => "import './style.css';"
  | .react | .moneyview => "import './index.css';"

/-- The path of the file with the elements of an export. -/
def markupPath (format : Format) (name : String) : String :=
  (format.componentEnding?.map (componentPath name)).getD "index.html"

/-- Apart from the page, no file with a fixed path holds elements. -/
theorem ne_markupPath (format : Format) (name : String) {path : String}
    (known : path ∈ format.openingPaths ++ format.closingPaths) (other : path ≠ "index.html") :
    path ≠ format.markupPath name := by
  rw [markupPath]
  cases format.componentEnding? with
  | none => exact other
  | some ending =>
      rintro rfl
      exact componentPath_notMem format name ending known

end Format

/-- The line of a description that lists a file. -/
def listingLine (path : String) : String := "- `" ++ path ++ "`"

/-- The lines about the style sheet: one that lists it and one that loads it. -/
def Format.stylesheetMentions (format : Format) : List Exception := [
  (Rendering.readmePath, LosesLine (listingLine format.stylesheetPath)),
  (format.referrerPath, LosesLine format.stylesheetLine)]

/-- An export with a style sheet, and one that lacks it and the lines about it. -/
def LosesStylesheet (format : Format) (styled plain : List File) : Prop :=
  ∃ front sheet behind, styled = front ++ sheet :: behind ∧ sheet.path = format.stylesheetPath ∧
    format.stylesheetPath ∉ plain.map (·.path) ∧ AgreeBut format.stylesheetMentions (front ++ behind) plain

/-- Two attempts that come to related files, or to the same failure. -/
def Alike (related : List File → List File → Prop) : Except Failure (List File) → Except Failure (List File) → Prop
  | .ok files, .ok others => related files others
  | .error failure, .error other => failure = other
  | _, _ => False

/-- What is drawn in an export with other options. -/
def Rendering.withOptions (rendering : Rendering) (options : ExportOptions) : Rendering := { rendering with options }

section Elements

variable {left right : ExportOptions}

mutual

/-- Of all options, only the one for images matters for elements. -/
theorem Node.element_congr (same : left.includeImages = right.includeImages) (format : Format) (origin : Origin) :
    ∀ node : Tree Layer, Node.element format left origin node = Node.element format right origin node
  | .node layer children => by
      rw [Node.element, Node.element, Node.elements_congr same, Element.ofLayer, Element.ofLayer, Element.classesOf,
        Element.classesOf, same]

theorem Node.elements_congr (same : left.includeImages = right.includeImages) (format : Format) (origin : Origin) :
    ∀ nodes : List (Tree Layer), Node.elements format left origin nodes = Node.elements format right origin nodes
  | [] => rfl
  | node :: rest => by
      rw [Node.elements, Node.elements, Node.element_congr same, Node.elements_congr same]

end

end Elements

/-- Apart from images, a design is drawn alike with all options. -/
theorem Design.render_withOptions (design : Design) (format : Format) (left right : ExportOptions)
    (same : left.includeImages = right.includeImages) :
    design.render format left = (design.render format right).withOptions left := by
  have screens : Node.render format left = Node.render format right := by
    funext index screen
    have elements : Node.element format left (screen.shownOrigin format) =
        Node.element format right (screen.shownOrigin format) :=
      funext (Node.element_congr same format _)
    rw [Node.render, Node.render, elements]
  rw [Design.render, screens]
  rfl

namespace Rendering

variable {exceptions : List Exception}

/-- The files for tools and those that describe an export hold no styles and no elements. -/
theorem ne_of_mem_closing (rendering : Rendering) (name : String) {path : String}
    (member : path ∈ rendering.closingFiles.map (·.path) ++ [readmePath]) :
    path ≠ rendering.format.stylesheetPath ∧ path ≠ rendering.format.markupPath name := by
  have fixed : ∀ format : Format, ∀ path ∈ format.toolFiles.map (·.path) ++ ["package.json"] ++ [readmePath],
      path ∈ format.openingPaths ++ format.closingPaths ∧ path ≠ format.stylesheetPath ∧ path ≠ "index.html" := by
    intro format
    cases format <;> decide
  rw [map_path_closingFiles] at member
  obtain ⟨known, sheet, page⟩ := fixed rendering.format path member
  exact ⟨sheet, rendering.format.ne_markupPath name known page⟩

/-- Two exports agree when their main files and their style sheets do, as the others are the same. -/
theorem agreeBut_files {left right : Rendering} (main : AgreeBut exceptions left.mainFiles right.mainFiles)
    (sheet : AgreeBut exceptions left.stylesheet right.stylesheet) (closing : left.closingFiles = right.closingFiles)
    (readme : left.readme = right.readme)
    (unlisted : ∀ path ∈ right.closingFiles.map (·.path) ++ [readmePath], path ∉ exceptions.map (·.1)) :
    AgreeBut exceptions left.files right.files := by
  rw [List.forall_mem_append, List.forall_mem_singleton] at unlisted
  rw [files_eq_append, files_eq_append, main.map_path, sheet.map_path, closing, readme]
  refine List.rel_append main (List.rel_append sheet (List.rel_append (agreeBut_self unlisted.1) ?_))
  exact .cons (File.agreesBut_of_eq rfl unlisted.2) .nil

/-- Style sheets may hold anything when their path is excepted. -/
theorem agreeBut_stylesheet {left right : Rendering} (same : left.format = right.format)
    (styled : left.options.includeStyles = right.options.includeStyles) (distinct : (exceptions.map (·.1)).Nodup)
    (listed : (right.format.stylesheetPath, fun _ _ => True) ∈ exceptions) :
    AgreeBut exceptions left.stylesheet right.stylesheet := by
  rw [stylesheet, stylesheet, stylesheetFiles, stylesheetFiles, same, styled]
  split
  · exact .cons (File.agreesBut_of_mem distinct listed rfl trivial) .nil
  · exact .nil

/-- An export has the same files in a small form and in a readable one, but for what the style sheet holds. -/
theorem agreeBut_minify (rendering : Rendering) (options : ExportOptions) :
    AgreeBut [(rendering.format.stylesheetPath, fun _ _ => True)]
      (rendering.withOptions { options with minify := true }).files
      (rendering.withOptions { options with minify := false }).files := by
  have trivially (files : List File) : AgreeBut [(rendering.format.stylesheetPath, fun _ _ => True)] files files := by
    refine List.forall₂_same.mpr fun file _ => ⟨rfl, fun exception member _ => ?_, fun _ => rfl⟩
    obtain rfl := List.mem_singleton.mp member
    trivial
  have main : (rendering.withOptions { options with minify := true }).mainFiles =
      (rendering.withOptions { options with minify := false }).mainFiles := by
    obtain ⟨format, _, screens, imports⟩ := rendering
    cases format <;> rfl
  have sheet : AgreeBut [(rendering.format.stylesheetPath, fun _ _ => True)]
      (rendering.withOptions { options with minify := true }).stylesheet
      (rendering.withOptions { options with minify := false }).stylesheet :=
    agreeBut_stylesheet rfl rfl (List.nodup_singleton _) List.mem_cons_self
  refine agreeBut_files (main ▸ trivially _) sheet rfl rfl fun path member => ?_
  exact mt List.mem_singleton.mp (ne_of_mem_closing _ "" member).1

section Stylesheet

variable (rendering : Rendering) (options : ExportOptions)

/-- An export with its style sheet, or without one. -/
abbrev styled (included : Bool) : Rendering := rendering.withOptions { options with includeStyles := included }

/-- A description lacks the line of a file that it does not list. -/
theorem losesLine_readme (path : String) (front behind : List String) :
    LosesLine (listingLine path) (rendering.readme (front ++ path :: behind)) (rendering.readme (front ++ behind)) := by
  obtain ⟨header, described⟩ : ∃ header, ∀ paths,
      rendering.readme paths = unlines (header ++ (paths ++ [readmePath]).map listingLine) := ⟨_, fun _ => rfl⟩
  have more : (behind ++ [readmePath]).map listingLine ≠ [] := by simp
  have lines := losesLine_unlines (listingLine path) (header ++ front.map listingLine) more
  rw [List.append_assoc, List.append_assoc, ← List.map_cons, ← List.map_append, ← List.map_append] at lines
  rwa [described, described, List.append_assoc, List.append_assoc]

theorem losesLine_page : LosesLine (Format.stylesheetLine .html)
    (MarkupExport.page (rendering.styled options true)).content
    (MarkupExport.page (rendering.styled options false)).content := by
  delta MarkupExport.page
  dsimp only
  simp only [List.append_assoc]
  exact losesLine_switch _ _ (List.cons_ne_nil _ _)

theorem losesLine_mountTemplate : LosesLine (Format.stylesheetLine .vue)
    (TemplateExport.entryScript (rendering.styled options true)).content
    (TemplateExport.entryScript (rendering.styled options false)).content := by
  delta TemplateExport.entryScript
  dsimp only
  simp only [List.append_assoc]
  exact losesLine_switch _ _ (List.cons_ne_nil _ _)

theorem losesLine_mountScript : LosesLine (Format.stylesheetLine .react)
    (ScriptExport.entryScript (rendering.styled options true)).content
    (ScriptExport.entryScript (rendering.styled options false)).content := by
  delta ScriptExport.entryScript
  dsimp only
  simp only [List.append_assoc]
  exact losesLine_switch _ _ (List.cons_ne_nil _ _)

theorem nodup_stylesheetMentions (format : Format) : (format.stylesheetMentions.map (·.1)).Nodup := by
  cases format <;> decide

/-- The main files agree, but for the line that loads the style sheet. -/
theorem agreeBut_mainFiles : AgreeBut rendering.format.stylesheetMentions
    (rendering.styled options true).mainFiles
    (rendering.styled options false).mainFiles := by
  have component (format : Format) (ending : String) :
      componentPath options.componentName ending ∉ format.stylesheetMentions.map (·.1) := by
    have listed : format.stylesheetMentions.map (·.1) ⊆ format.openingPaths ++ format.closingPaths := by
      cases format <;> decide
    exact fun member => componentPath_notMem format _ ending (listed member)
  have page (format : Format) : format ≠ .html → "index.html" ∉ format.stylesheetMentions.map (·.1) := by
    cases format <;> decide
  have referrer (format : Format) {file other : File} (path : file.path = format.referrerPath)
      (same : file.path = other.path) (line : LosesLine format.stylesheetLine file.content other.content) :
      File.AgreesBut format.stylesheetMentions file other :=
    File.agreesBut_of_mem (nodup_stylesheetMentions format) (path ▸ List.mem_cons_of_mem _ List.mem_cons_self) same line
  obtain ⟨format, _, screens, imports⟩ := rendering
  cases format with
  | html => exact .cons (referrer .html rfl rfl (losesLine_page _ options)) .nil
  | vue =>
      have root : "src/App.vue" ∉ (Format.stylesheetMentions .vue).map (·.1) := by decide
      exact .cons (File.agreesBut_of_eq rfl (page .vue (by decide))) <|
        .cons (referrer .vue rfl rfl (losesLine_mountTemplate _ options)) <|
        .cons (File.agreesBut_of_eq rfl root) <|
        .cons (File.agreesBut_of_eq rfl (component .vue ".vue")) .nil
  | react | moneyview =>
      exact .cons (File.agreesBut_of_eq rfl (page .react (by decide))) <|
        .cons (referrer .react rfl rfl (losesLine_mountScript _ options)) <|
        .cons (File.agreesBut_of_eq rfl (component .react ".jsx")) .nil

/-- An export without a style sheet lacks this file, the line that lists it and the line that loads it. -/
theorem losesStylesheet :
    LosesStylesheet rendering.format (rendering.styled options true).files (rendering.styled options false).files := by
  obtain ⟨sheet, path, sheets⟩ : ∃ sheet : File, sheet.path = rendering.format.stylesheetPath ∧
      (rendering.styled options true).stylesheet = [sheet] := ⟨_, rfl, rfl⟩
  have main := agreeBut_mainFiles rendering options
  have spelled := (rendering.styled options true).files_eq_append
  rw [sheets, main.map_path, List.singleton_append] at spelled
  have unlisted : ∀ format : Format, ∀ path ∈ format.toolFiles.map (·.path) ++ ["package.json"],
      path ∉ format.stylesheetMentions.map (·.1) := by
    intro format
    cases format <;> decide
  have agree : AgreeBut rendering.format.stylesheetMentions ((rendering.styled options true).mainFiles ++
      ((rendering.styled options true).closingFiles ++ [⟨readmePath, (rendering.styled options true).readme
        ((rendering.styled options false).mainFiles.map (·.path) ++
          ([sheet].map (·.path) ++ (rendering.styled options true).closingFiles.map (·.path)))⟩]))
      (rendering.styled options false).files := by
    rw [files_eq_append (rendering.styled options false), List.map_singleton, path]
    refine List.rel_append main (List.rel_append (agreeBut_self ?_) (.cons ?_ .nil))
    · rw [map_path_closingFiles]
      exact unlisted rendering.format
    · exact File.agreesBut_of_mem (nodup_stylesheetMentions _) List.mem_cons_self rfl (losesLine_readme _ _ _ _)
  have distinct := (rendering.styled options true).nodup_paths
  refine ⟨_, sheet, _, spelled, path, ?_, agree⟩
  rw [spelled, List.map_append, List.map_cons, List.nodup_middle, ← List.map_append, path, agree.map_path] at distinct
  exact (List.nodup_cons.mp distinct).1

end Stylesheet

end Rendering

/-- What is excepted from agreement when images are turned off: the style sheet, and marks in the file with elements. -/
def Design.imageExceptions (design : Design) (format : Format) (options : ExportOptions) : List Exception := [
  (format.stylesheetPath, fun _ _ => True),
  (format.markupPath options.componentName, Marked format design.imageLayers)]

section Images

variable (design : Design) (options : ExportOptions)

theorem Design.nodup_imageExceptions (format : Format) :
    ((design.imageExceptions format options).map (·.1)).Nodup := by
  have fixed : ∀ format : Format, format.stylesheetPath ∈ format.openingPaths ++ format.closingPaths ∧
      format.stylesheetPath ≠ "index.html" := by
    intro format
    cases format <;> decide
  have apart := format.ne_markupPath options.componentName (fixed format).1 (fixed format).2
  exact List.nodup_cons.mpr ⟨mt List.mem_singleton.mp apart, List.nodup_singleton _⟩

variable {format : Format} {path : String}

theorem Design.notMem_imageExceptions (sheet : path ≠ format.stylesheetPath)
    (markup : path ≠ format.markupPath options.componentName) :
    path ∉ (design.imageExceptions format options).map (·.1) := by
  simp [imageExceptions, sheet, markup]

/-- The main files agree, but for marks in the one with elements. -/
theorem Design.agreeBut_mainFiles (format : Format) : AgreeBut (design.imageExceptions format options)
    (design.render format { options with includeImages := true }).mainFiles
    (design.render format { options with includeImages := false }).mainFiles := by
  have marked {format : Format} {file other : File} (path : file.path = format.markupPath options.componentName)
      (same : file.path = other.path) (marks : Marked format design.imageLayers file.content other.content) :
      File.AgreesBut (design.imageExceptions format options) file other :=
    File.agreesBut_of_mem (design.nodup_imageExceptions options format)
      (path ▸ List.mem_cons_of_mem _ List.mem_cons_self) same marks
  have fixed {format : Format} {path : String} (opening : path ∈ format.openingPaths)
      (own : format.componentEnding?.isSome) : path ∉ (design.imageExceptions format options).map (·.1) := by
    have sheet : ∀ format : Format, format.stylesheetPath ∉ format.openingPaths := by
      intro format
      cases format <;> decide
    refine design.notMem_imageExceptions options (fun same => sheet format (same ▸ opening)) ?_
    obtain ⟨ending, own⟩ := Option.isSome_iff_exists.mp own
    rw [Format.markupPath, own]
    rintro rfl
    exact componentPath_notMem format _ ending (List.mem_append_left _ opening)
  cases format with
  | html => exact .cons (marked rfl rfl (design.marked_page options)) .nil
  | vue =>
      have opening : ∀ path ∈ Format.openingPaths .vue, path ∉ (design.imageExceptions .vue options).map (·.1) :=
        fun _ listed => fixed listed rfl
      rw [Format.openingPaths, List.forall_mem_cons, List.forall_mem_cons, List.forall_mem_singleton] at opening
      exact .cons (File.agreesBut_of_eq rfl opening.1) <| .cons (File.agreesBut_of_eq rfl opening.2.1) <|
        .cons (File.agreesBut_of_eq rfl opening.2.2) <| .cons (marked rfl rfl (design.marked_template options)) .nil
  | react | moneyview =>
      have opening : ∀ path ∈ Format.openingPaths .react, path ∉ (design.imageExceptions .react options).map (·.1) :=
        fun _ listed => fixed listed rfl
      rw [Format.openingPaths, List.forall_mem_cons, List.forall_mem_singleton] at opening
      exact .cons (File.agreesBut_of_eq rfl opening.1) <|
        .cons (File.agreesBut_of_eq (design.entryScript_render options _) opening.2) <|
        .cons (marked rfl rfl (design.marked_component options _)) .nil

/-- Without images an export agrees with one that has them, but for the style sheet and for marks of elements. -/
theorem Design.agreeBut_includeImages (format : Format) : AgreeBut (design.imageExceptions format options)
    (design.files format { options with includeImages := true })
    (design.files format { options with includeImages := false }) := by
  have distinct := design.nodup_imageExceptions options format
  have readme : (design.render format { options with includeImages := true }).readme =
      (design.render format { options with includeImages := false }).readme := by
    delta Rendering.readme
    dsimp only
    rw [length_screens_render, length_screens_render]
    rfl
  have sheet : AgreeBut (design.imageExceptions format options)
      (design.render format { options with includeImages := true }).stylesheet
      (design.render format { options with includeImages := false }).stylesheet :=
    Rendering.agreeBut_stylesheet rfl rfl distinct List.mem_cons_self
  refine Rendering.agreeBut_files (design.agreeBut_mainFiles options format) sheet rfl readme fun path member => ?_
  have apart := Rendering.ne_of_mem_closing _ options.componentName member
  exact design.notMem_imageExceptions options apart.1 apart.2

end Images

namespace Conversion

variable (design : Design) (format : Format) (options : ExportOptions)

theorem alike_emit {related : List File → List File → Prop} {left right : ExportOptions}
    (files : related (design.files format left) (design.files format right)) :
    Alike related (emit design format left) (emit design format right) := by
  rw [emit, emit]
  split
  · rfl
  · split
    · exact files
    · rfl

/--
An export has the same files in a small form and in a readable one, but for what its style sheet holds. Without a style
sheet it lacks this file, the line that lists it and the line that loads it. Without images, start tags of layers that
have one lack a class, and the style sheet may hold something else. Designs that cannot be exported fail alike.
-/
theorem emit_options_independent :
    Alike (AgreeBut [(format.stylesheetPath, fun _ _ => True)])
        (emit design format { options with minify := true }) (emit design format { options with minify := false }) ∧
      Alike (LosesStylesheet format)
        (emit design format { options with includeStyles := true })
        (emit design format { options with includeStyles := false }) ∧
      Alike (AgreeBut (design.imageExceptions format options))
        (emit design format { options with includeImages := true })
        (emit design format { options with includeImages := false }) := by
  have drawn (left : ExportOptions) (same : left.includeImages = options.includeImages) :
      design.files format left = ((design.render format options).withOptions left).files := by
    rw [Design.files, design.render_withOptions format left options same]
  refine ⟨alike_emit _ _ ?_, alike_emit _ _ ?_, alike_emit _ _ (design.agreeBut_includeImages options format)⟩
  · rw [drawn { options with minify := true } rfl, drawn { options with minify := false } rfl]
    exact (design.render format options).agreeBut_minify options
  · rw [drawn { options with includeStyles := true } rfl, drawn { options with includeStyles := false } rfl]
    exact (design.render format options).losesStylesheet options

end Conversion

end Storyboard

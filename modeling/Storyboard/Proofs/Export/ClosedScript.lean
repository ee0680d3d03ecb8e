/-
This file states that the scripts of an export declare each name once and use declared names alone, whatever the
design holds and whatever the main component is called.
-/

import Storyboard.Export.Emit
import Storyboard.Proofs.Export.ScriptModule

namespace Storyboard

open Text Script

namespace ScriptExport

variable {rendering : Rendering}

/-- What a screen shows is read back from its text in the script. -/
theorem read?_screenText (orderly : rendering.IsOrderly) {screen : RenderedScreen}
    (among : screen ∈ rendering.screens) :
    Markup.read? .script (rendering.screenText screen 3) =
      some (Forest.map (Element.asTag rendering.format) screen.elements) := by
  have blank : ∀ character ∈ List.replicate 6 ' ', Text.isBlank character := List.all_eq_true.mp (by decide)
  have read := Element.read?_allLines blank (orderly.filled screen among) (orderly.legible screen among)
  rw [orderly.script] at read
  exact read

/-- Reserved names and the components of the design system are no names of screens. -/
theorem screenName_ne {name : String} (known : name ∈ reservedNames ++ Rule.all.map (·.category)) (index : Nat) :
    screenName index ≠ name := by
  have all : ∀ name ∈ reservedNames ++ Rule.all.map (·.category), ¬"Screen".toList <+: name.toList := by decide
  rintro rfl
  exact all _ known (toList_screenName index ▸ List.prefix_append _ _)

/-- The names that are taken differ. -/
theorem nodup_takenNames (orderly : rendering.IsOrderly) :
    (reservedNames ++ (rendering.imports.map (·.1) ++ screenNames rendering)).Nodup := by
  have categories : ∀ rule ∈ Rule.all, rule.category ∉ reservedNames := by decide
  have screens : (screenNames rendering).Nodup := List.nodup_range.map screenName_injective
  have apart : ∀ name ∈ reservedNames ++ Rule.all.map (·.category), name ∉ screenNames rendering := by
    intro name known member
    obtain ⟨index, -, same⟩ := List.mem_map.mp member
    exact screenName_ne known index same
  rw [List.nodup_append', List.nodup_append']
  refine ⟨by decide, ⟨orderly.distinct, screens, fun name onLeft onRight => ?_⟩, fun name onLeft onRight => ?_⟩
  · exact apart name (List.mem_append_right _ (orderly.mem_categories name onLeft)) onRight
  · rcases List.mem_append.mp onRight with imported | shown
    · obtain ⟨rule, among, rfl⟩ := List.mem_map.mp (orderly.mem_categories name imported)
      exact categories rule among onLeft
    · exact apart name (List.mem_append_left _ onLeft) shown

/-- The exported name is free. -/
theorem exists_exportName (rendering : Rendering) :
    ∃ count, exportName rendering = lengthened rendering.componentName count ∧
      (∀ fewer < count, lengthened rendering.componentName fewer ∈ takenNames rendering) ∧
        exportName rendering ∉ takenNames rendering := by
  obtain ⟨count, found, clashes, free⟩ := exists_freshName_free (takenNames rendering) rendering.componentName
  have same : exportName rendering = lengthened rendering.componentName count := found
  exact ⟨count, same, clashes, same ▸ free⟩

/-- The path that a source beside a script leads to: the directory of the script with the source behind its dot. -/
def sourcePath (path source : String) : String :=
  String.ofList ((path.toList.reverse.dropWhile (· ≠ '/')).reverse ++ source.toList.drop 2)

section Files

/-- The paths of an export in script components, apart from that of the main component. -/
def fixedPaths : List String :=
  ["index.html", "src/main.jsx", "src/index.css", "vite.config.js", "tailwind.config.js", "postcss.config.js",
    "package.json", "README.md"]

/-- No fixed path leads to a component. -/
theorem not_prefix_fixedPaths : ∀ path ∈ fixedPaths, ¬"src/components/".toList <+: path.toList := by
  decide

theorem toList_componentPath (rendering : Rendering) : (componentPath rendering).toList =
    "src/components/".toList ++ (rendering.componentName.toList ++ ".jsx".toList) := by
  change ("src/components/" ++ rendering.componentName ++ ".jsx").toList = _
  rw [String.toList_append, String.toList_append, List.append_assoc]

/-- The source of the main component leads to its path. -/
theorem sourcePath_componentSource (rendering : Rendering) :
    sourcePath (entryScript rendering).path (componentSource rendering) = componentPath rendering := by
  have directory : ("src/main.jsx".toList.reverse.dropWhile (· ≠ '/')).reverse = "src/".toList := by decide
  have onward : ("./components/".toList ++ (rendering.componentName.toList ++ ".jsx".toList)).drop 2 =
      "components/".toList ++ (rendering.componentName.toList ++ ".jsx".toList) := by
    have opening : "./components/".toList = '.' :: '/' :: "components/".toList := by decide
    rw [opening]
    rfl
  have together : "src/components/".toList = "src/".toList ++ "components/".toList := by decide
  change String.ofList (("src/main.jsx".toList.reverse.dropWhile (· ≠ '/')).reverse ++ _) = _
  rw [← String.toList_inj, toList_componentSource, toList_componentPath, directory, onward, together,
    List.append_assoc]
  exact String.toList_ofList

/-- Files hold the scripts of a rendering, and apart from the main component they stand at fixed paths. -/
structure HoldScripts (rendering : Rendering) (files : List File) : Prop where
  entryScript : entryScript rendering ∈ files
  component : component rendering ∈ files
  fixed : ∀ file ∈ files, file = ScriptExport.component rendering ∨ file.path ∈ fixedPaths

theorem holdScripts_sources (rendering : Rendering) (kind : Stylesheet.Kind) :
    HoldScripts rendering (sources rendering kind) where
  entryScript := by simp [sources]
  component := by simp [sources]
  fixed := by
    have sheets : ∀ file ∈ rendering.stylesheetFiles "src/index.css" kind, file.path ∈ fixedPaths := by
      rw [Rendering.stylesheetFiles]
      split <;> simp [fixedPaths]
    rw [sources, List.forall_mem_append, List.forall_mem_cons, List.forall_mem_cons, List.forall_mem_singleton]
    exact ⟨⟨.inr (by simp [fixedPaths, Rendering.entryPage]), .inr (by simp [fixedPaths, ScriptExport.entryScript]),
      .inl rfl⟩, fun file member => .inr (sheets file member)⟩

theorem HoldScripts.append {files others : List File} (hold : HoldScripts rendering files)
    (fixed : ∀ file ∈ others, file.path ∈ fixedPaths) : HoldScripts rendering (files ++ others) where
  entryScript := List.mem_append_left _ hold.entryScript
  component := List.mem_append_left _ hold.component
  fixed := List.forall_mem_append.mpr ⟨hold.fixed, fun file member => .inr (fixed file member)⟩

theorem HoldScripts.withDescription {files : List File} (hold : HoldScripts rendering files) :
    HoldScripts rendering (rendering.withDescription files) := by
  refine (hold.append ?_).append ?_
  · simp [fixedPaths, Rendering.manifestFile]
  · simp [fixedPaths, Rendering.readmePath]

/-- The files of an export hold its scripts. -/
theorem holdScripts_files (script : rendering.format.dialect = .script) : HoldScripts rendering rendering.files := by
  rw [Rendering.files]
  cases given : rendering.format with
  | html => simp [given, Format.dialect] at script
  | vue => simp [given, Format.dialect] at script
  | react =>
      have fixed : ∀ file ∈ [bundlerFile], file.path ∈ fixedPaths := by simp [fixedPaths, bundlerFile]
      exact ((holdScripts_sources rendering .plain).append fixed).withDescription
  | moneyview =>
      have fixed : ∀ file ∈ [bundlerFile, utilityFile, processorFile], file.path ∈ fixedPaths := by
        simp [fixedPaths, bundlerFile, utilityFile, processorFile]
      exact ((holdScripts_sources rendering .utility).append fixed).withDescription

/-- The file at the path of the main component is this component, and no other. -/
theorem path_eq_iff (script : rendering.format.dialect = .script) :
    ∀ file ∈ rendering.files, file.path = componentPath rendering ↔ file = component rendering := by
  intro file member
  refine ⟨fun same => ?_, fun same => by rw [same]; rfl⟩
  rcases (holdScripts_files script).fixed file member with found | fixed
  · exact found
  · refine absurd ?_ (not_prefix_fixedPaths file.path fixed)
    rw [same, toList_componentPath]
    exact List.prefix_append _ _

end Files

theorem names_declarations (rendering : Rendering) :
    (declarations rendering).flatMap Statement.names =
      ["React", "useEffect", "useState"] ++ (rendering.imports.map (·.1) ++
        (screenNames rendering ++ ["screens", exportName rendering])) := by
  have imported : (importStatements rendering).flatMap Statement.names = rendering.imports.map (·.1) := by
    rw [importStatements, List.flatMap_map, List.map_eq_flatMap]
    rfl
  have shown : ((screenNames rendering).map Statement.function).flatMap Statement.names = screenNames rendering := by
    rw [List.flatMap_map]
    exact List.flatMap_singleton' _
  rw [declarations, List.flatMap_cons, List.flatMap_append, List.flatMap_append, imported, shown]
  rfl

/-- The names that the main component declares differ, as the exported one is free. -/
theorem nodup_names (orderly : rendering.IsOrderly) : ((declarations rendering).flatMap Statement.names).Nodup := by
  obtain ⟨-, -, -, free⟩ := exists_exportName rendering
  rw [mem_takenNames_iff orderly] at free
  have taken := nodup_takenNames orderly
  have kept : ["React", "useEffect", "useState", "screens"].Sublist reservedNames := by decide
  -- The list of screens is declared last but one, and so it moves to the front before the exported name comes in.
  have fixed : (["React", "useEffect", "useState"] ++ "screens" ::
      (rendering.imports.map (·.1) ++ screenNames rendering)).Nodup := taken.sublist (kept.append_right _)
  rw [List.nodup_middle, List.nodup_cons] at fixed
  have unused : exportName rendering ∉ "screens" :: (["React", "useEffect", "useState"] ++
      (rendering.imports.map (·.1) ++ screenNames rendering)) := by
    have reserved : "screens" :: ["React", "useEffect", "useState"] ⊆ reservedNames := by decide
    intro member
    rw [← List.cons_append, List.mem_append, List.mem_append] at member
    exact free (member.imp_left (reserved ·))
  rw [List.mem_cons, not_or] at unused
  rw [names_declarations, ← List.append_assoc, ← List.append_assoc, List.append_assoc _ _ (screenNames rendering),
    List.nodup_append_comm, List.cons_append, List.singleton_append, List.nodup_cons, List.nodup_cons, List.mem_cons,
    not_or]
  exact ⟨⟨Ne.symm unused.1, fixed.1⟩, unused.2, fixed.2⟩

/-- The names that the main component declares are identifiers. -/
theorem isIdentifier_of_mem_names (orderly : rendering.IsOrderly) :
    ∀ name ∈ (declarations rendering).flatMap Statement.names, isIdentifier name := by
  obtain ⟨count, found, -⟩ := exists_exportName rendering
  have categories : ∀ name ∈ Rule.all.map (·.category), isIdentifier name := by decide
  have imported : ∀ name ∈ rendering.imports.map (·.1), isIdentifier name := fun name member =>
    categories name (orderly.mem_categories name member)
  have shown : ∀ name ∈ screenNames rendering, isIdentifier name := by
    rw [screenNames, List.forall_mem_map]
    exact fun index _ => isIdentifier_screenName index
  have exported : ∀ name ∈ ["screens", exportName rendering], isIdentifier name := by
    rw [found, List.forall_mem_cons, List.forall_mem_singleton]
    exact ⟨by decide, isIdentifier_lengthened orderly.named count⟩
  rw [names_declarations, List.forall_mem_append, List.forall_mem_append, List.forall_mem_append]
  exact ⟨by decide, imported, shown, exported⟩

/--
The scripts of a rendering declare each name once, and what they use is declared. The main component is exported under
the first longer name that is free. Each tag is a plain one or an imported component, and each import is used and goes
with the rule for its category. The script that mounts the main component imports it from the file where it is.
-/
structure IsClosed (rendering : Rendering) : Prop where
  first : ∃ count, exportName rendering = lengthened rendering.componentName count ∧
    ∀ fewer < count, lengthened rendering.componentName fewer ∈ takenNames rendering
  free : exportName rendering ∉ reservedNames ∧ exportName rendering ∉ rendering.imports.map (·.1) ∧
    ∀ index < rendering.screens.length, exportName rendering ≠ screenName index
  declared : statements (component rendering).content = declarations rendering
  named : ∀ name ∈ (declarations rendering).flatMap Statement.names, isIdentifier name
  distinct : ((declarations rendering).flatMap Statement.names).Nodup
  markup : ∀ screen ∈ rendering.screens, Markup.read? .script (rendering.screenText screen 3) =
    some (Forest.map (Element.asTag rendering.format) screen.elements)
  tags : ∀ element ∈ rendering.elements, element.tag ∈ ["p", "div"] ∨ element.tag ∈ rendering.imports.map (·.1)
  imports : ∀ imported ∈ rendering.imports, (∃ rule ∈ Rule.all, imported = (rule.category, rule.importSlug)) ∧
    ∃ element ∈ rendering.elements, element.tag = imported.1
  entry : statements (entryScript rendering).content =
    [.imports ["React"] "react", .imports ["ReactDOM"] "react-dom/client",
      .imports [exportName rendering] (componentSource rendering)] ++
      (if rendering.options.includeStyles then [.imports [] "./index.css"] else [])
  mounted : entryScript rendering ∈ rendering.files ∧ component rendering ∈ rendering.files ∧
    ∀ file ∈ rendering.files, file.path = sourcePath (entryScript rendering).path (componentSource rendering) ↔
      file = component rendering

end ScriptExport

open ScriptExport

/--
In script components, whatever a design holds that is classified afresh, whatever is chosen and whatever the main
component is called, the scripts of its rendering declare each name once and use declared names alone.
-/
theorem Design.isClosed_render (design : Design) {format : Format} (script : format.dialect = .script)
    (options : ExportOptions) (name : String) :
    IsClosed (design.classified.render format { options with componentName := ComponentName.ofText name }) := by
  have orderly := design.isOrderly_render options script name
  obtain ⟨count, found, clashes, free⟩ := exists_exportName
    (design.classified.render format { options with componentName := ComponentName.ofText name })
  have named : isIdentifier (exportName
      (design.classified.render format { options with componentName := ComponentName.ofText name })) :=
    found ▸ isIdentifier_lengthened orderly.named count
  rw [mem_takenNames_iff orderly, not_or, not_or] at free
  obtain ⟨unreserved, unimported, unshown⟩ := free
  have held := holdScripts_files orderly.script
  exact {
    first := ⟨count, found, clashes⟩
    free := ⟨unreserved, unimported, fun index bounded same =>
      unshown (same ▸ List.mem_map_of_mem (List.mem_range.mpr bounded))⟩
    declared := statements_component orderly named
    named := isIdentifier_of_mem_names orderly
    distinct := nodup_names orderly
    markup := fun screen among => read?_screenText orderly among
    tags := design.classified.tag_mem_imports format _
    imports := fun imported member => by
      obtain ⟨layer, -, -, used⟩ := design.classified.exists_of_mem_imports format _ member
      exact ⟨orderly.ruled imported member, used⟩
    entry := statements_entryScript orderly named
    mounted := ⟨held.entryScript, held.component, by
      rw [sourcePath_componentSource]
      exact path_eq_iff orderly.script⟩ }

/-- A screen with a button, a second screen with a text, and a hidden part. -/
def Design.buttoned : Design where
  screens := [
    .node { id := "page", type := .frame, layout := .empty } [
      .leaf {
        id := "press"
        type := .rectangle
        layout := { Layout.empty with width := .whole 120, height := .whole 40 }
        content := { text := "Press" } },
      .leaf { id := "list", type := .frame, visible := false, layout := { Layout.empty with height := .whole 120 } }],
    .leaf { id := "note", type := .text, layout := .empty, content := { text := "import x from 'y'" } }]

/-- A main component that is called like an imported component gives way. -/
theorem Design.isClosed_render_buttoned : Format.moneyview.dialect = .script ∧
    (let rendering := buttoned.classified.render .moneyview { componentName := ComponentName.ofText "Button" }
    rendering.imports = [("Button", "button"), ("Typography", "typography")] ∧
      exportName rendering = "ButtonPrototype" ∧ IsClosed rendering) := by
  refine ⟨rfl, by decide +kernel, by decide +kernel, ?_⟩
  exact buttoned.isClosed_render rfl {} "Button"

end Storyboard

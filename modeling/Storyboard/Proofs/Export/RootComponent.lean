/-
This file reads components that stand in files of their own, and states when the root component of an export is told
apart from the one that it shows.
-/

import Storyboard.Proofs.Export.ClosedScript
import Storyboard.Proofs.Export.Files
import Storyboard.Proofs.Export.Parts

namespace Storyboard

open Text Script

/-- What a component in a file of its own says of components. -/
structure SingleFile where
  /-- The names of the tags that its template opens. -/
  tags : List String
  imports : List Statement
  /-- The name that it declares for itself. -/
  name? : Option String
  /-- The components that its template may use. -/
  registered : List String
  deriving DecidableEq, Repr

namespace SingleFile

/-- The lines between the first one that opens a section and the next one that closes it. -/
def sectionLines (opening closing : String) (lines : List (List Char)) : List (List Char) :=
  ((lines.dropWhile (· ≠ opening.toList)).drop 1).takeWhile (· ≠ closing.toList)

/-- The names of the tags that a line opens. -/
def openedTags (line : List Char) : List String :=
  ((line.splitOn '<').tail.map leadingIdentifier).filter (· ≠ "")

/-- The value of a property on a line of its own, for a component that lists its properties one step in. -/
def property? (key : String) (lines : List (List Char)) : Option (List Char) :=
  lines.findSome? ("  " ++ key ++ ": ").toList.isPrefixOf?

/-- The text between the first single quotes. -/
def quoted (characters : List Char) : String :=
  String.ofList (((characters.dropWhile (· ≠ '\'')).drop 1).takeWhile (· ≠ '\''))

/-- Reads a component line by line. -/
def read (text : String) : SingleFile :=
  let lines := text.toList.splitOn '\n'
  let script := sectionLines "<script>" "</script>" lines
  { tags := (sectionLines "<template>" "</template>" lines).flatMap openedTags
    imports := script.filterMap statement?
    name? := (property? "name" script).map quoted
    registered := ((property? "components" script).map identifiers).getD [] }

/-- A section holds the lines between the two that mark it. -/
theorem sectionLines_eq {opening closing : String} (front inside behind : List (List Char))
    (before : opening.toList ∉ front) (within : closing.toList ∉ inside) :
    sectionLines opening closing (front ++ opening.toList :: (inside ++ closing.toList :: behind)) = inside := by
  have marks (mark : String) (others : List (List Char)) :
      ∀ line ∈ (mark.toList :: others).head?, decide (line ≠ mark.toList) = false := ends_cons (by simp) others
  have apart {mark : String} {lines : List (List Char)} (absent : mark.toList ∉ lines) :
      ∀ line ∈ lines, decide (line ≠ mark.toList) := fun line member =>
    decide_eq_true fun same => absent (same ▸ member)
  rw [sectionLines, dropWhile_append_of_ends (apart before) (marks opening _), List.drop_one, List.tail_cons,
    takeWhile_append_of_ends (apart within) (marks closing _)]

end SingleFile

/-- Lines without further ends are the lines of their text, in front of an empty one. -/
theorem splitOn_unlines {lines : List String} (filled : lines ≠ []) (flat : ∀ line ∈ lines, IsFlat line) :
    (unlines lines).toList.splitOn '\n' = lines.map String.toList ++ [[]] := by
  have ended : (unlines lines).toList = ['\n'].intercalate (lines.map String.toList) ++ '\n' :: [] := by
    rw [unlines, String.toList_append, String.toList_intercalate]
    rfl
  have parted := List.splitOn_intercalate '\n' (List.forall_mem_map.mpr flat) (by simpa using filled)
  rw [ended, List.splitOn_append_cons_self, parted]
  rfl

namespace TemplateExport

section Root

/-- The line of the template of a root component. -/
def tagLine (name : String) : String := "  <" ++ name ++ " />"

/-- The line by which a root component imports the one that it shows. -/
def importLine (name : String) : String := "import " ++ name ++ " from './components/" ++ name ++ ".vue';"

/-- The line by which a root component registers the one that it shows. -/
def registerLine (name : String) : String := "  components: \x7b " ++ name ++ " \x7d,"

def rootLines (name : String) : List String := [
  "<template>",
  tagLine name,
  "</template>",
  "",
  "<script>",
  importLine name,
  "",
  r"export default {",
  "  name: 'App',",
  registerLine name,
  r"};",
  "</script>"]

theorem content_root (rendering : Rendering) :
    (root rendering).content = unlines (rootLines rendering.componentName) := rfl

theorem toList_tagLine (name : String) : (tagLine name).toList = "  <".toList ++ (name.toList ++ " />".toList) := by
  delta tagLine
  rw [String.toList_append, String.toList_append, List.append_assoc]

theorem toList_importLine (name : String) : (importLine name).toList =
    "import ".toList ++ (name.toList ++ (" from './components/".toList ++ (name.toList ++ ".vue';".toList))) := by
  delta importLine
  simp only [String.toList_append, List.append_assoc]

theorem toList_registerLine (name : String) : (registerLine name).toList =
    "  components: ".toList ++ ("\x7b ".toList ++ (name.toList ++ " \x7d,".toList)) := by
  have opening : "  components: \x7b ".toList = "  components: ".toList ++ "\x7b ".toList := by decide
  delta registerLine
  rw [String.toList_append, String.toList_append, opening, List.append_assoc, List.append_assoc]

/-- The lines of the script of a root component. -/
def scriptLines (name : String) : List (List Char) := [
  (importLine name).toList,
  [],
  r"export default {".toList,
  "  name: 'App',".toList,
  (registerLine name).toList,
  r"};".toList]

/-- No line of the template or of the script marks a section. -/
theorem head?_ne (name : String) : ∀ line ∈ (tagLine name).toList :: scriptLines name, line.head? ≠ some '<' := by
  have visible {first : Char} (rest : List Char) (other : first ≠ '<') : (first :: rest).head? ≠ some '<' :=
    fun same => other (Option.some.inj same)
  simp only [scriptLines, List.forall_mem_cons, toList_tagLine, toList_importLine, toList_registerLine]
  exact ⟨visible _ (by decide), visible _ (by decide), by decide, by decide, by decide, visible _ (by decide),
    by decide, List.forall_mem_nil _⟩

theorem property?_name (name : String) : SingleFile.property? "name" (scriptLines name) = some "'App',".toList := by
  rw [SingleFile.property?, scriptLines, toList_importLine]
  rfl

theorem property?_components (name : String) : SingleFile.property? "components" (scriptLines name) =
    some ("\x7b ".toList ++ (name.toList ++ " \x7d,".toList)) := by
  rw [SingleFile.property?, scriptLines, toList_importLine, toList_registerLine]
  rfl

variable {name : String} (named : isIdentifier name)

include named

theorem isFlat_rootLines : ∀ line ∈ rootLines name, IsFlat line := by
  have flat := isFlat_of_isIdentifier named
  have tag : IsFlat (tagLine name) := isFlat_append (isFlat_append (by decide) flat) (by decide)
  have imported : IsFlat (importLine name) :=
    isFlat_append (isFlat_append (isFlat_append (isFlat_append (by decide) flat) (by decide)) flat) (by decide)
  have registered : IsFlat (registerLine name) := isFlat_append (isFlat_append (by decide) flat) (by decide)
  simp only [rootLines, List.forall_mem_cons]
  exact ⟨by decide, tag, by decide, by decide, by decide, imported, by decide, by decide, by decide, registered,
    by decide, by decide, List.forall_mem_nil _⟩

theorem openedTags_tagLine : SingleFile.openedTags (tagLine name).toList = [name] := by
  have spelled : "  <".toList ++ (name.toList ++ " />".toList) = "  ".toList ++ '<' :: (name.toList ++ " />".toList) :=
    rfl
  have inside : '<' ∉ name.toList ++ " />".toList := by
    rw [List.mem_append, not_or]
    exact ⟨fun member => absurd (forall_of_isIdentifier named _ member) (by decide), by decide⟩
  have leading : leadingIdentifier (name.toList ++ " />".toList) = name :=
    leadingIdentifier_append named (ends_cons (by decide) _)
  have filled : name ≠ "" := fun nothing => absurd named (nothing ▸ by decide)
  rw [SingleFile.openedTags, toList_tagLine, spelled, List.splitOn_append_cons_self,
    List.splitOn_eq_singleton inside, List.splitOn_eq_singleton (by decide), List.singleton_append, List.tail_cons,
    List.map_singleton, leading]
  exact List.filter_cons_of_pos (decide_eq_true filled)

theorem statement?_importLine :
    statement? (importLine name).toList = some (.imports [name] ("./components/" ++ name ++ ".vue")) := by
  have inside : ∀ character ∈ ("./components/" ++ name ++ ".vue").toList, isUnquoted character := by
    rw [String.toList_append, String.toList_append, List.forall_mem_append, List.forall_mem_append]
    exact ⟨⟨List.all_eq_true.mp (by decide), isUnquoted_of_isIdentifier named⟩, List.all_eq_true.mp (by decide)⟩
  have opening : " from './components/".toList = " from '".toList ++ "./components/".toList := by decide
  have closing : ".vue';".toList = ".vue".toList ++ "';".toList := by decide
  have line : statements (importLine name) = [.imports [name] ("./components/" ++ name ++ ".vue")] := by
    refine ScriptExport.statements_default named inside ?_
    simp only [toList_importLine, String.toList_append, opening, closing, List.append_assoc]
  have flat : IsFlat (importLine name) := isFlat_rootLines named _ (by simp [rootLines])
  rw [statements, statementsOf_of_flat flat] at line
  exact Option.toList_eq_singleton_iff.mp line

/-- The names between the braces of a line that registers a component. -/
theorem identifiers_registerLine : identifiers ("\x7b ".toList ++ (name.toList ++ " \x7d,".toList)) = [name] := by
  refine (identifiers_cons (by decide) _).trans ((identifiers_cons (by decide) _).trans ?_)
  refine (identifiers_append_cons name.toList (by decide) "\x7d,".toList).trans ?_
  rw [identifiers_of_isIdentifier named]
  rfl

theorem filterMap_scriptLines :
    (scriptLines name).filterMap statement? = [.imports [name] ("./components/" ++ name ++ ".vue")] := by
  have registering : statement? (registerLine name).toList = none := by
    refine statement?_eq_none fun character first => ?_
    rw [toList_registerLine] at first
    obtain rfl : ' ' = character := Option.some.inj first
    rfl
  have quiet : ∀ line ∈ (scriptLines name).tail, statement? line = none := by
    simp only [scriptLines, List.tail_cons, List.forall_mem_cons]
    exact ⟨by decide, by decide, by decide, registering, by decide, List.forall_mem_nil _⟩
  refine (List.filterMap_cons_some (statement?_importLine named)).trans ?_
  exact congrArg _ (List.filterMap_eq_nil_iff.mpr quiet)

/-- A root component shows a component and nothing else. -/
theorem read_rootLines : SingleFile.read (unlines (rootLines name)) = {
    tags := [name]
    imports := [.imports [name] ("./components/" ++ name ++ ".vue")]
    name? := some "App"
    registered := [name] } := by
  have filled : rootLines name ≠ [] := List.cons_ne_nil _ _
  have lines := splitOn_unlines filled (isFlat_rootLines named)
  have unmarked {mark : List Char} (marks : mark.head? = some '<') {lines : List (List Char)}
      (part : lines ⊆ (tagLine name).toList :: scriptLines name) : mark ∉ lines :=
    fun member => head?_ne name _ (part member) marks
  have drawn : [(tagLine name).toList] ⊆ (tagLine name).toList :: scriptLines name :=
    List.cons_subset_cons _ (List.nil_subset _)
  have template : SingleFile.sectionLines "<template>" "</template>" ((rootLines name).map String.toList ++ [[]]) =
      [(tagLine name).toList] :=
    SingleFile.sectionLines_eq [] _ _ List.not_mem_nil (unmarked rfl drawn)
  have front : "<script>".toList ∉ ["<template>".toList] ++ [(tagLine name).toList] ++ ["</template>".toList, []] := by
    rw [List.mem_append, List.mem_append, not_or, not_or]
    exact ⟨⟨by decide, unmarked rfl drawn⟩, by decide⟩
  have script : SingleFile.sectionLines "<script>" "</script>" ((rootLines name).map String.toList ++ [[]]) =
      scriptLines name :=
    SingleFile.sectionLines_eq _ _ _ front (unmarked rfl (List.subset_cons_self _ _))
  rw [SingleFile.read, lines, template, script, filterMap_scriptLines named, property?_name, property?_components]
  simp only [List.flatMap_singleton, openedTags_tagLine named, Option.map_some, identifiers_registerLine named]
  rfl

end Root

/-- The root component of an export shows the component with the screens and nothing else. -/
theorem read_root (rendering : Rendering) (named : isIdentifier rendering.componentName) :
    SingleFile.read (root rendering).content = {
      tags := [rendering.componentName]
      imports := [.imports [rendering.componentName] ("./components/" ++ rendering.componentName ++ ".vue")]
      name? := some "App"
      registered := [rendering.componentName] } :=
  (congrArg SingleFile.read (content_root rendering)).trans (read_rootLines named)

/-- The root component and the one with the screens are files of an export. -/
theorem mem_files (rendering : Rendering) (template : rendering.format = .vue) :
    root rendering ∈ rendering.files ∧ component rendering ∈ rendering.files := by
  obtain ⟨format, options, screens, imports⟩ := rendering
  cases template
  exact ⟨Rendering.mem_files_of_mem_mainFiles (by simp [Rendering.mainFiles]),
    Rendering.mem_files_of_mem_mainFiles (by simp [Rendering.mainFiles])⟩

/-- The source from which a root component imports leads to the path of the component. -/
theorem sourcePath_importLine (name : String) :
    ScriptExport.sourcePath "src/App.vue" ("./components/" ++ name ++ ".vue") =
      Storyboard.componentPath name ".vue" := by
  have directory : ("src/App.vue".toList.reverse.dropWhile (· ≠ '/')).reverse = "src/".toList := by decide
  have onward : ("./components/" ++ name ++ ".vue").toList.drop 2 =
      "components/".toList ++ (name.toList ++ ".vue".toList) := by
    have opening : "./components/".toList = '.' :: '/' :: "components/".toList := by decide
    rw [String.toList_append, String.toList_append, opening, List.append_assoc]
    rfl
  have together : "src/components/".toList = "src/".toList ++ "components/".toList := by decide
  rw [← String.toList_inj, ScriptExport.sourcePath, directory, onward, String.toList_ofList,
    Storyboard.toList_componentPath, together, List.append_assoc]

end TemplateExport

/-- Two letters have the capital that names of root components start with. -/
theorem ComponentName.toUpper_eq_iff {character : Char} (plain : character.isAlphanum)
    (letter : character.isDigit = false) : character.toUpper = 'A' ↔ character = 'A' ∨ character = 'a' := by
  have bounded := Markup.toNat_lt_of_isAlphanum plain
  revert plain letter
  exact Markup.of_forall_lt bounded (by decide)

/-- The letters and digits that make a component name the one that root components declare. -/
theorem ComponentName.ofText_eq_app_iff (text : String) :
    ofText text = "App" ↔ text.toList.filter Char.isAlphanum ∈ ["App".toList, "app".toList] := by
  unfold ofText
  cases filtered : text.toList.filter Char.isAlphanum with
  | nil => decide
  | cons first rest =>
      have kept : first.isAlphanum := List.of_mem_filter (filtered ▸ List.mem_cons_self)
      have listed : first :: rest ∈ ["App".toList, "app".toList] ↔
          (first = 'A' ∨ first = 'a') ∧ rest = "pp".toList := by
        simp [or_and_right]
      rw [listed]
      dsimp only
      split
      · rename_i digit
        refine iff_of_false (fun same => ?_) fun both => ?_
        · have spelled := congrArg String.toList same
          rw [String.toList_ofList] at spelled
          exact absurd (List.cons.inj spelled).1 (by decide)
        · rcases both.1 with rfl | rfl <;> exact absurd digit (by decide)
      · rename_i letter
        rw [← toUpper_eq_iff kept (eq_false_of_ne_true letter), ← String.toList_inj, String.toList_ofList]
        exact List.cons_eq_cons

/-- The root component of an export declares a name of its own, and shows one component only, from one of its files. -/
def Shows (files : List File) (own shown : String) : Prop :=
  ∃ root ∈ files, root.path = "src/App.vue" ∧ ∃ source,
    SingleFile.read root.content = {
      tags := [shown]
      imports := [.imports [shown] source]
      name? := some own
      registered := [shown] } ∧
    ScriptExport.sourcePath root.path source ∈ files.map (·.path)

/-- The root component of an export is told apart from the one that it shows by its name. -/
def IsToldApart (files : List File) : Prop := ∃ own shown, Shows files own shown ∧ shown ≠ own

namespace Conversion

variable {design : Design} {options : ExportOptions} {name : String} {files : List File}

/-- In an export with a template, the root component shows the component with the screens. -/
theorem shows_iff
    (emitted : emit design .vue { options with componentName := ComponentName.ofText name } = .ok files)
    (own shown : String) : Shows files own shown ↔ own = "App" ∧ shown = ComponentName.ofText name := by
  have distinct := map_fst_texts files ▸ nodup_texts emitted
  obtain ⟨-, -, rfl⟩ := emit_eq_ok.mp emitted
  obtain ⟨inside, component⟩ := TemplateExport.mem_files
    (design.render .vue { options with componentName := ComponentName.ofText name }) rfl
  have read := TemplateExport.read_root
    (design.render .vue { options with componentName := ComponentName.ofText name })
    (ComponentName.isIdentifier_ofText name)
  constructor
  · rintro ⟨root, member, path, source, reads, -⟩
    obtain rfl : root = _ := List.inj_on_of_nodup_map distinct member inside path
    have both := read.symm.trans reads
    simp only [SingleFile.mk.injEq, List.cons.injEq, Option.some.injEq] at both
    exact ⟨both.2.2.1.symm, both.1.1.symm⟩
  · rintro ⟨rfl, rfl⟩
    refine ⟨_, inside, rfl, _, read, List.mem_map.mpr ⟨_, component, ?_⟩⟩
    exact (TemplateExport.sourcePath_importLine _).symm

/--
The root component of an export with a template shows the component with the screens, which it imports from the file
where this is. The two have different names unless the letters and digits that the component is called by are `App` or
`app`.
-/
theorem isToldApart_iff
    (emitted : emit design .vue { options with componentName := ComponentName.ofText name } = .ok files) :
    Shows files "App" (ComponentName.ofText name) ∧
      (IsToldApart files ↔ name.toList.filter Char.isAlphanum ∉ ["App".toList, "app".toList]) := by
  have shown := shows_iff emitted
  refine ⟨(shown _ _).mpr ⟨rfl, rfl⟩, ?_⟩
  rw [← ComponentName.ofText_eq_app_iff, IsToldApart]
  constructor
  · rintro ⟨own, other, shows, apart⟩
    obtain ⟨rfl, rfl⟩ := (shown own other).mp shows
    exact apart
  · exact fun apart => ⟨"App", _, (shown _ _).mpr ⟨rfl, rfl⟩, apart⟩

/-- A component whose name holds more than that of the root component is told apart from it. -/
theorem isToldApart_blank : ∃ files,
    emit blank .vue { minify := true, componentName := ComponentName.ofText "« app » 2" } = .ok files ∧
      Shows files "App" "App2" ∧ IsToldApart files := by
  have emitted : emit blank .vue { minify := true, componentName := ComponentName.ofText "« app » 2" } =
    .ok (blank.files .vue { minify := true, componentName := ComponentName.ofText "« app » 2" }) :=
    emit_eq_ok.mpr ⟨rfl, by decide, rfl⟩
  have apart := @isToldApart_iff blank { minify := true } _ _ emitted
  have name : ComponentName.ofText "« app » 2" = "App2" := by decide +kernel
  exact ⟨_, emitted, name ▸ apart.1, apart.2.mpr (by decide +kernel)⟩

/-- A component with the name of the root component is not told apart from it. -/
theorem not_isToldApart_app : ∃ files,
    emit blank .vue { componentName := ComponentName.ofText "App" } = .ok files ∧
      Shows files "App" "App" ∧ ¬ IsToldApart files := by
  have emitted : emit blank .vue { componentName := ComponentName.ofText "App" } =
    .ok (blank.files .vue { componentName := ComponentName.ofText "App" }) :=
    emit_eq_ok.mpr ⟨rfl, by decide, rfl⟩
  have name : ComponentName.ofText "App" = "App" := by decide +kernel
  have shown := @shows_iff blank {} _ _ emitted
  refine ⟨_, emitted, (shown _ _).mpr ⟨rfl, name.symm⟩, ?_⟩
  rintro ⟨own, other, shows, apart⟩
  obtain ⟨rfl, rfl⟩ := (shown own other).mp shows
  exact apart name

end Conversion

end Storyboard

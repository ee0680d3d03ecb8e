/-
This file lists the paths of the files of an export, and states that each export comes out of its archive as it was.
-/

import Mathlib.Algebra.GroupWithZero.Nat
import Storyboard.Conversion
import Storyboard.Proofs.Archive.RoundTrip
import Storyboard.Proofs.Export.Parts
import Storyboard.Proofs.Export.ScriptLine
import Storyboard.Proofs.Schema.Checked

namespace Storyboard

open Text Script

namespace Archive

theorem isMemberPath_iff (path : String) : IsMemberPath path ↔
    isSafePath path ∧ path.toList.getLast? ≠ some '/' ∧ '\x00' ∉ path.toList := by
  rw [isSafePath_iff]
  exact ⟨fun ⟨safe, file, plain⟩ => ⟨safe, file, plain⟩, fun ⟨safe, file, plain⟩ => ⟨safe, file, plain⟩⟩

instance (path : String) : Decidable (IsMemberPath path) := decidable_of_iff' _ (isMemberPath_iff path)

end Archive

/-- The paths in front of that of the main component. -/
def Format.openingPaths : Format → List String
  | .html => ["index.html"]
  | .vue => ["index.html", "src/main.js", "src/App.vue"]
  | .react | .moneyview => ["index.html", "src/main.jsx"]

/-- The paths behind that of the main component. -/
def Format.closingPaths : Format → List String
  | .html => ["styles.css", "package.json", "README.md"]
  | .vue => ["src/style.css", "vite.config.js", "package.json", "README.md"]
  | .react => ["src/index.css", "vite.config.js", "package.json", "README.md"]
  | .moneyview =>
      ["src/index.css", "vite.config.js", "tailwind.config.js", "postcss.config.js", "package.json", "README.md"]

/-- The ending of the file of the main component, if it has a file of its own. -/
def Format.componentEnding? : Format → Option String
  | .html => none
  | .vue => some ".vue"
  | .react | .moneyview => some ".jsx"

def componentPath (name ending : String) : String := "src/components/" ++ name ++ ending

/-- The paths of an export that has all files. -/
def Format.paths (format : Format) (name : String) : List String :=
  format.openingPaths ++ ((format.componentEnding?.map (componentPath name)).toList ++ format.closingPaths)

namespace Rendering

/-- The main files of an export end with its component, if this has a file of its own. -/
theorem map_path_mainFiles (rendering : Rendering) : rendering.mainFiles.map (·.path) =
    rendering.format.openingPaths ++
      (rendering.format.componentEnding?.map (componentPath rendering.componentName)).toList := by
  obtain ⟨format, options, screens, imports⟩ := rendering
  cases format <;> rfl

/-- An export has the files of its format, where the style sheet may be left out. -/
theorem map_path_files (rendering : Rendering) : rendering.files.map (·.path) =
    rendering.format.openingPaths ++
      ((rendering.format.componentEnding?.map (componentPath rendering.componentName)).toList ++
        rendering.format.closingPaths.drop (if rendering.options.includeStyles then 0 else 1)) := by
  have closing (description : File) (readme : description.path = readmePath) :
      (rendering.stylesheet ++ (rendering.closingFiles ++ [description])).map (·.path) =
        rendering.format.closingPaths.drop (if rendering.options.includeStyles then 0 else 1) := by
    obtain ⟨format, ⟨includeStyles, minify, includeImages, name⟩, screens, imports⟩ := rendering
    rw [List.map_append, List.map_append, List.map_singleton, readme]
    cases format <;> cases includeStyles <;> rfl
  rw [files_eq_append, List.map_append, map_path_mainFiles, List.append_assoc, closing _ rfl]

theorem sublist_paths (rendering : Rendering) :
    (rendering.files.map (·.path)).Sublist (rendering.format.paths rendering.componentName) := by
  rw [map_path_files, Format.paths]
  exact ((List.drop_sublist _ _).append_left _).append_left _

end Rendering

theorem toList_componentPath (name ending : String) : (componentPath name ending).toList =
    "src/components/".toList ++ (name.toList ++ ending.toList) := by
  change ("src/components/" ++ name ++ ending).toList = _
  rw [String.toList_append, String.toList_append, List.append_assoc]

/-- The path of a component does not stand among the other ones. -/
theorem componentPath_notMem (format : Format) (name ending : String) :
    componentPath name ending ∉ format.openingPaths ++ format.closingPaths := by
  have apart : ∀ format : Format, ∀ path ∈ format.openingPaths ++ format.closingPaths,
      ¬"src/components/".toList <+: path.toList := by
    intro format
    cases format <;> decide
  intro member
  refine apart format _ member ?_
  rw [toList_componentPath]
  exact List.prefix_append _ _

/-- The paths of an export differ. -/
theorem Format.nodup_paths (format : Format) (name : String) : (format.paths name).Nodup := by
  have fixed : (format.openingPaths ++ format.closingPaths).Nodup := by cases format <;> decide
  have apart := componentPath_notMem format name
  rw [paths]
  cases format.componentEnding? with
  | none => exact fixed
  | some ending => exact List.nodup_middle.mpr (List.nodup_cons.mpr ⟨apart ending, fixed⟩)

theorem Rendering.nodup_paths (rendering : Rendering) : (rendering.files.map (·.path)).Nodup :=
  (rendering.format.nodup_paths rendering.componentName).sublist rendering.sublist_paths

section Component

variable {name ending : String} (named : isIdentifier name) (known : ending ∈ [".jsx", ".vue"])

include named known in
/-- The file of a component has plain characters in its name, and it stands in no further directory. -/
theorem plain_of_mem_fileName {character : Char} (inside : character ∈ name.toList ++ ending.toList) :
    character ≠ '/' ∧ character ≠ '\x00' ∧ character.toNat < 0x80 := by
  have endings : ∀ ending ∈ [".jsx", ".vue"], ending.toList.all fun character =>
      character ≠ '/' ∧ character ≠ '\x00' ∧ character.toNat < 0x80 := by decide
  rcases List.mem_append.mp inside with first | last
  · rw [isIdentifier, Bool.and_eq_true, List.all_eq_true] at named
    have kept := named.2 character first
    refine ⟨fun same => ?_, fun same => ?_, ?_⟩
    · rw [same] at kept
      exact absurd kept (by decide)
    · rw [same] at kept
      exact absurd kept (by decide)
    · rw [isIdentifierCharacter, Bool.or_eq_true, Bool.or_eq_true, decide_eq_true_eq, decide_eq_true_eq] at kept
      rcases kept with (word | rfl) | rfl
      · exact Markup.toNat_lt_of_isAlphanum word
      · decide
      · decide
  · exact of_decide_eq_true (List.all_eq_true.mp (endings ending known) character last)

include named known in
/-- A component stands two directories down. -/
theorem splitOn_componentPath : (componentPath name ending).toList.splitOn '/' =
    ["src".toList, "components".toList, name.toList ++ ending.toList] := by
  have joined : (componentPath name ending).toList =
      ['/'].intercalate ["src".toList, "components".toList, name.toList ++ ending.toList] := by
    have directories : "src/components/".toList = "src".toList ++ '/' :: ("components".toList ++ ['/']) := by decide
    rw [toList_componentPath, directories]
    simp [List.intercalate]
  rw [joined]
  refine List.splitOn_intercalate '/' ?_ (List.cons_ne_nil _ _)
  simp only [List.forall_mem_cons]
  exact ⟨by decide, by decide, fun inside => (plain_of_mem_fileName named known inside).1 rfl, nofun⟩

include named known in
/-- A component has a path that is stored as it is. -/
theorem isMemberPath_componentPath : Archive.IsMemberPath (componentPath name ending) where
  filled same := by
    have nothing := toList_componentPath name ending
    rw [same] at nothing
    exact absurd nothing (by simp)
  relative := by
    rw [toList_componentPath, List.head?_append]
    simp
  level := by
    rw [splitOn_componentPath named known]
    have long : ∀ ending ∈ [".jsx", ".vue"], 2 < ending.toList.length := by decide
    simp only [List.mem_cons, List.not_mem_nil, or_false, not_or]
    refine ⟨by decide, by decide, fun same => ?_⟩
    have two := congrArg List.length same
    rw [List.length_append] at two
    have more := long ending known
    simp only [List.length_cons, List.length_nil] at two
    omega
  file := by
    rw [toList_componentPath, List.getLast?_append, List.getLast?_append]
    rcases List.mem_cons.mp known with rfl | other
    · simp
    · obtain rfl := List.mem_singleton.mp other
      simp
  plain := by
    rw [toList_componentPath, List.mem_append]
    rintro (fixed | inside)
    · exact absurd fixed (by decide)
    · exact (plain_of_mem_fileName named known inside).2.1 rfl

include named known in
/-- The path of a component is as long as its name, with the directories and the ending. -/
theorem length_componentPath : (Utf8.encodeString (componentPath name ending)).length = name.length + 19 := by
  have plain : ∀ character ∈ (componentPath name ending).toList, character.toNat < 0x80 := by
    have directories : "src/components/".toList.all (·.toNat < 0x80) := by decide
    rw [toList_componentPath, List.forall_mem_append]
    exact ⟨fun character inside => of_decide_eq_true (List.all_eq_true.mp directories character inside),
      fun character inside => (plain_of_mem_fileName named known inside).2.2⟩
  have endings : ∀ ending ∈ [".jsx", ".vue"], ending.toList.length = 4 := by decide
  have directories : "src/components/".toList.length = 15 := by decide
  rw [Utf8.length_encodeString plain, ← String.length_toList, ← String.length_toList, toList_componentPath,
    List.length_append, List.length_append, endings ending known, directories]
  omega

end Component

/-- The longest name of a component that has a file of its own. -/
def maxComponentName : Nat := Archive.maxNameBytes - 19

theorem Format.mem_endings {format : Format} {ending : String} (own : ending ∈ format.componentEnding?) :
    ending ∈ [".jsx", ".vue"] := by
  have all : ∀ format : Format, ∀ ending ∈ format.componentEnding?, ending ∈ [".jsx", ".vue"] := by
    intro format
    cases format <;> decide
  exact all format ending own

/-- All paths of an export are stored as they are. -/
theorem Format.isMemberPath {format : Format} {name path : String} (named : isIdentifier name)
    (among : path ∈ format.paths name) : Archive.IsMemberPath path ∧
      (name.length ≤ maxComponentName → (Utf8.encodeString path).length ≤ Archive.maxNameBytes) := by
  have fixed : ∀ format : Format, ∀ path ∈ format.openingPaths ++ format.closingPaths,
      Archive.IsMemberPath path ∧ (Utf8.encodeString path).length ≤ Archive.maxNameBytes := by
    intro format
    cases format <;> decide +kernel
  rw [paths, List.mem_append, List.mem_append] at among
  have always {path : String} (listed : path ∈ format.openingPaths ++ format.closingPaths) :
      Archive.IsMemberPath path ∧
        (name.length ≤ maxComponentName → (Utf8.encodeString path).length ≤ Archive.maxNameBytes) :=
    (fixed format path listed).imp_right fun short _ => short
  rcases among with opening | component | closing
  · exact always (List.mem_append_left _ opening)
  · obtain ⟨ending, present, rfl⟩ := Option.map_eq_some_iff.mp (Option.mem_toList.mp component)
    refine ⟨isMemberPath_componentPath named (mem_endings present), fun short => ?_⟩
    rw [length_componentPath named (mem_endings present)]
    have limit : maxComponentName + 19 = Archive.maxNameBytes := by decide
    omega
  · exact always (List.mem_append_right _ closing)

namespace ExportOptions

theorem exists_name_of_ofFields {fields : List (String × Json)} {options : ExportOptions}
    (given : ofFields fields = .valid options) : ∃ name, options.componentName = ComponentName.ofText name := by
  simp only [ofFields, Checked.seq_eq_valid, Checked.map_eq_valid] at given
  obtain ⟨_, name, ⟨_, _, ⟨_, _, ⟨_, -, rfl⟩, -, rfl⟩, -, rfl⟩, -, rfl⟩ := given
  exact ⟨name, rfl⟩

/-- The component name of asked options is made of a text. -/
theorem exists_name {value : Json} {options : ExportOptions} (asked : ofValue value = .ok options) :
    ∃ name, options.componentName = ComponentName.ofText name := by
  have checked {fields : List (String × Json)}
      (given : (ofFields fields).toExcept.mapError Failure.invalid = .ok options) :
      ∃ name, options.componentName = ComponentName.ofText name :=
    exists_name_of_ofFields ((Checked.toExcept_eq_ok _ _).mp ((mapError_eq_ok _ _ _).mp given))
  unfold ofValue at asked
  split at asked
  · obtain rfl := Except.ok.inj asked
    exact ⟨ComponentName.fallback, by decide⟩
  · exact checked asked
  · split at asked
    · nomatch asked
    · obtain ⟨fields, -, given⟩ := (bind_eq_ok _ _ _).mp asked
      exact checked given

end ExportOptions

namespace Conversion

/-- The texts of files under their paths. -/
def texts (files : List File) : List (String × String) := files.map fun file => (file.path, file.content)

/-- The files of an export are stored as they are, and come out of its archive again. -/
structure IsLossless (conversion : Conversion) : Prop where
  stored : Archive.IsFileMap (texts conversion.files)
  unpacked : conversion.archive.unpack = .ok (texts conversion.files)

section Design

variable {design : Design} {format : Format} {options : ExportOptions} {files : List File}

theorem emit_eq_ok : emit design format options = .ok files ↔
    design.screens.isEmpty = false ∧ design.isDrawable format ∧ design.files format options = files := by
  rw [emit]
  split
  · simp [*]
  · split <;> simp [*]

theorem sublist_paths (emitted : emit design format options = .ok files) :
    (files.map (·.path)).Sublist (format.paths options.componentName) := by
  obtain ⟨-, -, rfl⟩ := emit_eq_ok.mp emitted
  exact Rendering.sublist_paths (design.render format options)

theorem map_fst_texts (files : List File) : (texts files).map (·.1) = files.map (·.path) := by
  rw [texts, List.map_map]
  rfl

/-- The paths of emitted files differ. -/
theorem nodup_texts (emitted : emit design format options = .ok files) : ((texts files).map (·.1)).Nodup := by
  obtain ⟨-, -, rfl⟩ := emit_eq_ok.mp emitted
  rw [map_fst_texts]
  exact (design.render format options).nodup_paths

/-- The paths of emitted files are stored as they are. -/
theorem isMemberPath_texts (emitted : emit design format options = .ok files)
    (named : isIdentifier options.componentName) : ∀ file ∈ texts files, Archive.IsMemberPath file.1 ∧
      (options.componentName.length ≤ maxComponentName →
        (Utf8.encodeString file.1).length ≤ Archive.maxNameBytes) := by
  intro file member
  have listed : file.1 ∈ files.map (·.path) := map_fst_texts files ▸ List.mem_map_of_mem member
  exact Format.isMemberPath named ((sublist_paths emitted).mem listed)

theorem pack_eq_ok (archive : Archive) : pack files = .ok archive ↔
    Archive.pack ((texts files).map fun file => (file.1, .ofString file.2)) = .ok archive := by
  rw [pack, mapError_eq_ok, texts, List.map_map]
  rfl

theorem ofDesign_eq_ok (conversion : Conversion) : ofDesign design format options = .ok conversion ↔
    ∃ files archive, emit design.classified format options = .ok files ∧ pack files = .ok archive ∧
      conversion = ⟨format, design.classified, files, archive⟩ := by
  simp only [ofDesign, bind_eq_ok, pure_eq_ok]
  constructor
  · rintro ⟨files, emitted, archive, packed, rfl⟩
    exact ⟨files, archive, emitted, packed, rfl⟩
  · rintro ⟨files, archive, emitted, packed, rfl⟩
    exact ⟨files, emitted, archive, packed, rfl⟩

/-- An export that is accepted comes out of its archive as it was. -/
theorem isLossless_ofDesign {conversion : Conversion} (accepted : ofDesign design format options = .ok conversion)
    (named : isIdentifier options.componentName) : conversion.IsLossless := by
  obtain ⟨files, archive, emitted, packed, rfl⟩ := (ofDesign_eq_ok conversion).mp accepted
  have paths := fun file member => (isMemberPath_texts emitted named file member).1
  obtain ⟨fits, rfl⟩ := (Archive.pack_texts paths archive).mp ((pack_eq_ok archive).mp packed)
  have distinct := nodup_texts emitted
  exact ⟨⟨distinct, paths, fun file member => (fits file member).1, fun file member => (fits file member).2⟩,
    Archive.unpack_members distinct⟩

end Design

theorem isLossless_ofSource {config : Config} {source format options : Json} {conversion : Conversion}
    (accepted : ofSource config source format options = .ok conversion) : conversion.IsLossless := by
  simp only [ofSource, bind_eq_ok] at accepted
  obtain ⟨format, -, options, asked, design, -, accepted⟩ := accepted
  obtain ⟨name, same⟩ := ExportOptions.exists_name asked
  exact isLossless_ofDesign accepted (same ▸ ComponentName.isIdentifier_ofText name)

/--
Texts come out of an archive as they were packed, in the same order. Each export that is accepted is stored under paths
that are kept as they are, and comes out of its archive as it was. Whatever its component is called, an export is
accepted unless the name or one of its texts is too long to be stored.
-/
theorem unpack_pack :
    (∀ files, Archive.IsFileMap files → ∃ archive,
      Archive.pack (files.map fun file => (file.1, .ofString file.2)) = .ok archive ∧ archive.unpack = .ok files) ∧
    (∀ design format (options : ExportOptions) name conversion,
      ofDesign design format { options with componentName := ComponentName.ofText name } = .ok conversion →
        conversion.IsLossless) ∧
    (∀ config source format options conversion,
      ofSource config source format options = .ok conversion → conversion.IsLossless) ∧
    ∀ design format (options : ExportOptions) name files,
      emit design.classified format { options with componentName := ComponentName.ofText name } = .ok files →
        (ComponentName.ofText name).length ≤ maxComponentName →
        (∀ file ∈ files, (Utf8.encodeString file.content).length ≤ Archive.maxContentBytes) →
          ∃ conversion, conversion.files = files ∧
            ofDesign design format { options with componentName := ComponentName.ofText name } = .ok conversion := by
  refine ⟨fun files map => ?_, fun design format options name conversion accepted => ?_,
    fun config source format options conversion accepted => isLossless_ofSource accepted,
    fun design format options name files emitted short bounded => ?_⟩
  · have fits := fun file member => And.intro (map.short file member) (map.bounded file member)
    exact ⟨_, (Archive.pack_texts map.paths _).mpr ⟨fits, rfl⟩, Archive.unpack_members map.distinct⟩
  · exact isLossless_ofDesign accepted (ComponentName.isIdentifier_ofText name)
  · have paths := isMemberPath_texts emitted (ComponentName.isIdentifier_ofText name)
    have contents : ∀ file ∈ texts files, (Utf8.encodeString file.2).length ≤ Archive.maxContentBytes :=
      List.forall_mem_map.mpr bounded
    have packed := (Archive.pack_texts (fun file member => (paths file member).1) _).mpr
      ⟨fun file member => ⟨(paths file member).2 short, contents file member⟩, rfl⟩
    exact ⟨_, rfl, (ofDesign_eq_ok _).mpr ⟨files, _, emitted, (pack_eq_ok _).mpr packed, rfl⟩⟩

/-- The bytes of lines are at most those of each line with its end, and of the last end. -/
theorem utf8ByteSize_unlines (lines : List String) :
    (unlines lines).utf8ByteSize ≤ (lines.map (·.utf8ByteSize + 1)).sum + 1 := by
  have ending : "\n".utf8ByteSize = 1 := by decide
  have joined : ("\n".intercalate lines).utf8ByteSize ≤ (lines.map (·.utf8ByteSize + 1)).sum := by
    induction lines with
    | nil => exact Nat.le_refl 0
    | cons line rest ih =>
        cases rest with
        | nil =>
            rw [String.intercalate_singleton, List.map_singleton, List.sum_singleton]
            exact Nat.le_succ _
        | cons other rest =>
            rw [String.intercalate_cons_cons, String.utf8ByteSize_append, String.utf8ByteSize_append, ending,
              List.map_cons, List.sum_cons]
            omega
  rw [unlines, String.utf8ByteSize_append, ending]
  omega

/-- A design of one empty screen. -/
def blank : Design where
  screens := [.leaf { id := "page", type := .frame, layout := .empty }]

/-- Texts with accents come out of an archive, and a blank design out of an export without a style sheet. -/
theorem unpack_pack_blank :
    (∃ archive, Archive.pack ([("notes/été.txt", "“9 lives” 🐈"), ("empty", "")].map fun file =>
        (file.1, .ofString file.2)) = .ok archive ∧
      archive.unpack = .ok [("notes/été.txt", "“9 lives” 🐈"), ("empty", "")]) ∧
    ∃ conversion, conversion.IsLossless ∧ ofDesign blank .html
      { includeStyles := false, componentName := ComponentName.ofText "9 lives" } = .ok conversion := by
  have map : Archive.IsFileMap [("notes/été.txt", "“9 lives” 🐈"), ("empty", "")] :=
    ⟨by decide +kernel, by decide +kernel, by decide +kernel, by decide +kernel⟩
  let rendering := blank.classified.render .html
    { includeStyles := false, componentName := ComponentName.ofText "9 lives" }
  let files := [MarkupExport.page rendering, rendering.manifestFile,
    ⟨Rendering.readmePath, rendering.readme ["index.html", "package.json"]⟩]
  have emitted : emit blank.classified .html
      { includeStyles := false, componentName := ComponentName.ofText "9 lives" } = .ok files := rfl
  have bounded : ∀ file ∈ files, (Utf8.encodeString file.content).length ≤ Archive.maxContentBytes := by
    simp only [Utf8.length_encodeString_eq, files, List.forall_mem_cons]
    -- The lines of a text are measured one by one, as joining them takes too long.
    exact ⟨(utf8ByteSize_unlines _).trans (by decide +kernel), by decide +kernel,
      (utf8ByteSize_unlines _).trans (by decide +kernel), nofun⟩
  obtain ⟨conversion, -, accepted⟩ :=
    unpack_pack.2.2.2 blank .html { includeStyles := false } "9 lives" files emitted (by decide) bounded
  exact ⟨unpack_pack.1 _ map, conversion, unpack_pack.2.1 _ _ _ _ _ accepted, accepted⟩

end Conversion

end Storyboard

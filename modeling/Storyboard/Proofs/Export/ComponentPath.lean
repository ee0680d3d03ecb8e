/-
This file states that the main component of an export has a path of its own, whatever the component is called.
-/

import Storyboard.Proofs.Export.Files

namespace Storyboard

open Script ComponentName

theorem componentPath_injective (name : String) : Function.Injective (componentPath name) := by
  intro left right same
  have spelled := congrArg String.toList same
  rw [toList_componentPath, toList_componentPath] at spelled
  exact String.toList_inj.mp (List.append_cancel_left (List.append_cancel_left spelled))

/--
The paths of an export hold that of its component, if this has a file of its own, at one place only. The path of the
component leads down from each directory to the next.
-/
structure PlacesComponent (format : Format) (paths : List String) (name : String) : Prop where
  placed : ∀ ending, componentPath name ending ∈ paths ↔ ending ∈ format.componentEnding?
  apart : ∀ ending before after, paths = before ++ componentPath name ending :: after →
    componentPath name ending ∉ before ++ after
  filled : ∀ ending ∈ format.componentEnding?, [] ∉ (componentPath name ending).toList.splitOn '/'
  level : ∀ ending ∈ format.componentEnding?, ['.', '.'] ∉ (componentPath name ending).toList.splitOn '/'

namespace Rendering

variable (rendering : Rendering)

/-- Of the paths of components with a name, an export holds the one with the ending of its format. -/
theorem componentPath_mem_iff (ending : String) :
    componentPath rendering.componentName ending ∈ rendering.files.map (·.path) ↔
      ending ∈ rendering.format.componentEnding? := by
  have apart := componentPath_notMem rendering.format rendering.componentName ending
  rw [List.mem_append, not_or] at apart
  rw [map_path_files, List.mem_append, List.mem_append, Option.mem_toList]
  constructor
  · rintro (opening | own | closing)
    · exact absurd opening apart.1
    · obtain ⟨other, present, same⟩ := Option.map_eq_some_iff.mp own
      exact componentPath_injective _ same ▸ present
    · exact absurd (List.mem_of_mem_drop closing) apart.2
  · exact fun present => .inr (.inl (Option.mem_map_of_mem _ present))

/-- A component whose name is an identifier has a path of its own. -/
theorem placesComponent (named : isIdentifier rendering.componentName) :
    PlacesComponent rendering.format (rendering.files.map (·.path)) rendering.componentName where
  placed := rendering.componentPath_mem_iff
  apart ending before after split := by
    have distinct := rendering.nodup_paths
    rw [split] at distinct
    exact (List.nodup_cons.mp (List.nodup_middle.mp distinct)).1
  filled ending own := by
    have last : ending.toList ≠ [] := by
      have all : ∀ ending ∈ [".jsx", ".vue"], ending.toList ≠ [] := by decide
      exact all ending (Format.mem_endings own)
    rw [splitOn_componentPath named (Format.mem_endings own)]
    simp [last]
  level ending own := (isMemberPath_componentPath named (Format.mem_endings own)).level

end Rendering

namespace Conversion

/--
Whatever text asks for a component name, the name holds plain letters and digits only and starts with a capital, so that
a script can declare it. A name of this kind stays as it is, and no other one does. The component has a path of its own
in every export of a format in which it has a file of its own.
-/
theorem emit_placesComponent :
    (∀ text, IsProper (ofText text) ∧ ofText (ofText text) = ofText text ∧ IsDeclarable (ofText text)) ∧
    (∀ name, ofText name = name ↔ IsProper name) ∧
    (∀ value options, ExportOptions.ofValue value = .ok options →
      ofText options.componentName = options.componentName) ∧
    ∀ design format (options : ExportOptions) name files,
      emit design format { options with componentName := ofText name } = .ok files →
        PlacesComponent format (files.map (·.path)) (ofText name) := by
  have settled (text : String) : ofText (ofText text) = ofText text := (isProper_ofText text).ofText_eq_self
  refine ⟨fun text => ?_, ofText_eq_self_iff, fun value options asked => ?_,
    fun design format options name files emitted => ?_⟩
  · have proper := isProper_ofText text
    exact ⟨proper, settled text, proper.isDeclarable⟩
  · obtain ⟨name, same⟩ := ExportOptions.exists_name asked
    rw [same, settled]
  · obtain ⟨-, -, rfl⟩ := emit_eq_ok.mp emitted
    exact (design.render format { options with componentName := ofText name }).placesComponent
      (isIdentifier_ofText name)

/-- A text that looks like a path makes a name, and the component has its place in the directory of components. -/
theorem emit_placesComponent_climbing :
    (∃ options, ExportOptions.ofValue (.object [("componentName", .string "../7 Größen/")]) = .ok options ∧
      ofText options.componentName = options.componentName) ∧
    ∃ files, emit blank .vue { componentName := ofText "../7 Größen/" } = .ok files ∧
      PlacesComponent .vue (files.map (·.path)) "Screen7Gren" ∧
      "src/components/Screen7Gren.vue" ∈ files.map (·.path) := by
  have asked : ExportOptions.ofValue (.object [("componentName", .string "../7 Größen/")]) =
      .ok { componentName := ofText "../7 Größen/" } := rfl
  obtain ⟨files, emitted⟩ : ∃ files, emit blank .vue { componentName := ofText "../7 Größen/" } = .ok files :=
    ⟨_, emit_eq_ok.mpr ⟨rfl, by decide, rfl⟩⟩
  have name : ofText "../7 Größen/" = "Screen7Gren" := by decide +kernel
  have places := emit_placesComponent.2.2.2 blank .vue {} "../7 Größen/" files emitted
  rw [name] at places
  exact ⟨⟨_, asked, emit_placesComponent.2.2.1 _ _ asked⟩, files, emitted, places, (places.placed ".vue").mpr rfl⟩

end Conversion

end Storyboard

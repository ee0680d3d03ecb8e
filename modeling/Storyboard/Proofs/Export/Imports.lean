/-
This file states that the components of the design system that a rendering imports are those that its elements use.
-/

import Mathlib.Data.List.Induction
import Mathlib.Data.List.Nodup
import Storyboard.Proofs.Export.Drawing
import Storyboard.Proofs.Markup.Legible

namespace Storyboard

/-- Imports give one place for each component that was found, and nothing else. -/
structure CollectsImports (found imports : List (String × String)) : Prop where
  distinct : (imports.map (·.1)).Nodup
  subset : imports ⊆ found
  complete : ∀ item ∈ found, item.1 ∈ imports.map (·.1)

theorem CollectsImports.step {found imports : List (String × String)} (collects : CollectsImports found imports)
    (item : String × String) :
    CollectsImports (found ++ [item])
      (if imports.any (·.1 = item.1) then imports else imports ++ [item]) := by
  have given : imports.any (·.1 = item.1) ↔ item.1 ∈ imports.map (·.1) := by simp
  split
  · rename_i known
    refine ⟨collects.distinct, fun other member => List.mem_append_left _ (collects.subset member), ?_⟩
    rw [List.forall_mem_append, List.forall_mem_singleton]
    exact ⟨collects.complete, given.mp known⟩
  · rename_i unknown
    rw [given] at unknown
    refine ⟨?_, ?_, ?_⟩
    · rw [List.map_append, List.map_singleton, ← List.concat_eq_append]
      exact List.Nodup.concat unknown collects.distinct
    · exact List.append_subset.mpr ⟨fun other member => List.mem_append_left _ (collects.subset member), by simp⟩
    · rw [List.forall_mem_append, List.forall_mem_singleton, List.map_append]
      exact ⟨fun other member => List.mem_append_left _ (collects.complete other member), by simp⟩

/-- The first places that are found are such imports. -/
theorem firstImports_collects (found : List (String × String)) : CollectsImports found (firstImports found) := by
  induction found using List.reverseRecOn with
  | nil => exact ⟨List.nodup_nil, List.Subset.refl _, by simp⟩
  | append_singleton found item ih =>
      have stepped := ih.step item
      rw [firstImports, List.foldl_append]
      exact stepped

/-- A layer imports the component of its category. -/
theorem Layer.exists_of_componentImport? {format : Format} {layer : Layer} {imported : String × String}
    (given : layer.componentImport? format = some imported) :
    ∃ slug, layer.classification.importSlug? = some slug ∧ imported = (layer.classification.category, slug) := by
  rw [componentImport?] at given
  split at given
  · obtain ⟨slug, found, rfl⟩ := Option.map_eq_some_iff.mp given
    exact ⟨slug, found, rfl⟩
  · simp at given

namespace Element

variable {format : Format} {options : ExportOptions} {layer : Layer} {element : Element}

/-- The tag of an element is that of its layer: a plain one, or a component that the layer imports. -/
theorem Draws.tag_cases (drawn : Draws format options layer element) :
    (element.tag ∈ ["p", "div"] ∧ layer.componentImport? format = none) ∨
      ∃ slug, layer.componentImport? format = some (element.tag, slug) := by
  obtain ⟨origin, hasChildren, rfl⟩ := drawn
  change (tagOf format layer ∈ _ ∧ _) ∨ ∃ slug, _ = some (tagOf format layer, slug)
  rw [tagOf, isBound, Layer.componentImport?]
  cases format.bindsComponents with
  | false =>
      refine .inl ⟨?_, rfl⟩
      rw [Bool.false_and, if_neg Bool.false_ne_true]
      split <;> simp
  | true =>
      cases given : layer.classification.importSlug? with
      | none =>
          refine .inl ⟨?_, rfl⟩
          rw [Classification.isDesignSystem, given, if_neg (by simp)]
          split <;> simp
      | some slug =>
          refine .inr ⟨slug, ?_⟩
          rw [Classification.isDesignSystem, given]
          rfl

end Element

namespace Design

variable (design : Design) (format : Format) (options : ExportOptions)

/-- Each tag of a rendering is a plain one or an imported component. -/
theorem tag_mem_imports : ∀ element ∈ (design.render format options).elements,
    element.tag ∈ ["p", "div"] ∨ element.tag ∈ (design.render format options).imports.map (·.1) := by
  intro element member
  obtain ⟨layer, inside, drawn⟩ := exists_of_forall₂_right (design.elements_render format options) member
  refine drawn.tag_cases.imp (·.1) fun ⟨slug, given⟩ => ?_
  exact (firstImports_collects _).complete (element.tag, slug) (List.mem_filterMap.mpr ⟨layer, inside, given⟩)

/-- Each import is that of a drawn layer, whose element uses it. -/
theorem exists_of_mem_imports {imported : String × String}
    (member : imported ∈ (design.render format options).imports) :
    ∃ layer ∈ design.drawnLayers, layer.componentImport? format = some imported ∧
      ∃ element ∈ (design.render format options).elements, element.tag = imported.1 := by
  obtain ⟨layer, inside, given⟩ := List.mem_filterMap.mp ((firstImports_collects _).subset member)
  obtain ⟨element, among, drawn⟩ := exists_of_forall₂_left (design.elements_render format options) inside
  refine ⟨layer, inside, given, element, among, ?_⟩
  rcases drawn.tag_cases with ⟨-, none⟩ | ⟨slug, same⟩
  · simp [none] at given
  · rw [same, Option.some.injEq] at given
    exact congrArg Prod.fst given

end Design

end Storyboard

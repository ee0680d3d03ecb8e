/-
This file states that every layer of a raw document's design is made of a record in view, so that it is visible and its
numbers can be drawn.
-/

import Storyboard.Proofs.Document.Answer

namespace Storyboard

/-- A record that is shown is not hidden. -/
theorem Record.isHidden_of_shown {record : Record} {type : NodeType} (shown : record.role = .shown type) :
    record.isHidden = false := by
  cases hidden : record.isHidden with
  | false => rfl
  | true =>
      rw [Record.role, hidden] at shown
      split at shown <;> simp at shown

/-- A record in view is shown, unless its type cannot be written out. -/
def Sighting.IsShown (sighting : Sighting) : Prop :=
  sighting.record.role = .shown sighting.type ∨ sighting.record.role = .unwritten

mutual

/-- The records of an outline that come into view are shown as far as their types can be written out. -/
theorem Outline.isShown_of_mem_reached (config : Config) (path : Path) (depth : Nat) :
    ∀ (outline : Outline) (sighting : Sighting), sighting ∈ outline.reached config path depth → sighting.IsShown
  | .node record children, sighting, member => by
      rw [Outline.reached] at member
      cases role : record.role with
      | ignored => simp [role] at member
      | container =>
          rw [role] at member
          exact Outline.isShown_of_mem_reachedFrom config path depth 0 children sighting member
      | shown type =>
          simp only [role, List.mem_cons] at member
          rcases member with rfl | below
          · exact .inl role
          · by_cases opens : config.opens type depth
            · rw [if_pos opens] at below
              exact Outline.isShown_of_mem_reachedFrom config path (depth + 1) 0 children sighting below
            · simp [opens] at below
      | unwritten =>
          simp only [role, List.mem_singleton] at member
          subst member
          exact .inr role

/-- The records that come into view among the children of a record are shown likewise. -/
theorem Outline.isShown_of_mem_reachedFrom (config : Config) (path : Path) (depth index : Nat) :
    ∀ (outlines : List Outline) (sighting : Sighting),
      sighting ∈ Outline.reachedFrom config path depth index outlines → sighting.IsShown
  | [], sighting, member => by simp [Outline.reachedFrom] at member
  | child :: rest, sighting, member => by
      rw [Outline.reachedFrom, List.mem_append] at member
      rcases member with first | later
      · exact Outline.isShown_of_mem_reached config (path.child index) depth child sighting first
      · exact Outline.isShown_of_mem_reachedFrom config path depth (index + 1) rest sighting later

end

namespace Document

theorem isShown_of_mem_reachedOfRoots {config : Config} {index : Nat} {outlines : List Outline}
    {sighting : Sighting} (member : sighting ∈ reachedOfRoots config index outlines) : sighting.IsShown := by
  induction outlines generalizing index with
  | nil => simp [reachedOfRoots] at member
  | cons root rest ih =>
      rw [reachedOfRoots, List.mem_append] at member
      rcases member with first | later
      · exact Outline.isShown_of_mem_reached config _ 0 root sighting first
      · exact ih later

/-- The layers of the screens of the first pass are layers of records in view. -/
theorem exists_sighting_of_arrangeRoots {config : Config} {outlines : List Outline} {screens : List Node}
    (arranged : arrangeRoots config 0 outlines = .ok screens) :
    ∀ layer ∈ Forest.preorder screens, ∃ sighting ∈ reachedOfRoots config 0 outlines,
      sighting.layer config = .ok layer := by
  intro layer member
  have listed := preorder_arrangeRoots config 0 outlines
  rw [arranged] at listed
  obtain ⟨made, each, kept⟩ := (bind_eq_ok _ _ _).mp listed.symm
  rw [← (pure_eq_ok _ _).mp kept] at member
  exact exists_of_mem_mapM each (List.mem_filter.mp member).1

/-- The layers of a design are layers of records in view, those of the second pass as well. -/
theorem exists_sighting_of_designOf {config : Config} {outlines : List Outline} {design : Design}
    (success : designOf config outlines = .ok design) :
    ∀ layer ∈ design.layers, ∃ sighting ∈ reachedOfRoots config 0 outlines, sighting.layer config = .ok layer := by
  intro layer member
  obtain ⟨screens, truncations, arranged, -, result⟩ := designOf_eq_ok success
  have first := exists_sighting_of_arrangeRoots arranged
  split at result
  · obtain ⟨found, reached, -, rfl⟩ := result
    have merged := (Fallback.preorder_merge_perm config screens (found.mergeSort Fallback.readsBefore)).subset member
    rcases List.mem_append.mp merged with primary | added
    · exact first layer primary
    · have inside : layer ∈ found := List.mem_mergeSort.mp added
      obtain ⟨-, -, sighting, among, made⟩ := (Fallback.candidates_eq_ok reached).2 layer inside
      exact ⟨sighting, among, made⟩
  · obtain rfl := result
    exact first layer member

/-- The layers of the design of a raw document are made of records that are not hidden, each under its own id. -/
theorem exists_record_of_normalize {config : Config} {raw : Json} {design : Design}
    (built : normalize config raw = .ok design) {layer : Layer} (member : layer ∈ design.layers) :
    ∃ record : Record, record.isHidden = false ∧ ∃ type path, record.idAt path = .ok layer.id ∧
      record.layer type layer.id config = .ok layer := by
  obtain ⟨outlines, -, success, -⟩ := normalize_eq_ok built
  obtain ⟨sighting, among, made⟩ := exists_sighting_of_designOf success layer member
  obtain ⟨written, placed⟩ := Sighting.layer_eq_ok_iff.mp made
  have shown := (isShown_of_mem_reachedOfRoots among).resolve_right written
  exact ⟨sighting.record, Record.isHidden_of_shown shown, _, _, Record.layerAt_eq_ok_iff.mp placed⟩

/-- All layers of the design of a raw document are visible. -/
theorem visible_of_normalize {config : Config} {raw : Json} {design : Design}
    (built : normalize config raw = .ok design) : ∀ layer ∈ design.layers, layer.visible := by
  intro layer member
  obtain ⟨record, shown, type, path, -, made⟩ := exists_record_of_normalize built member
  obtain ⟨text, layout, styles, hasImage, -, -, -, -, same⟩ := Record.layer_eq_ok made
  simp [congrArg Layer.visible same, shown]

end Document

/-- The numbers of a layer can be drawn from any place. -/
structure Layer.IsMeasured (layer : Layer) : Prop where
  layout : ∃ x y width height rotation opacity : Double, layer.layout = {
    x := .double x
    y := .double y
    width := .double width
    height := .double height
    rotation := .double rotation
    opacity := .double opacity }
  fontSize : ∀ style ∈ layer.styles.textStyle?, style.fontSize.hasCounterpart

namespace Record

variable {record : Record} {config : Config}

/-- A font size can be drawn when the default can. -/
theorem fontSize_hasCounterpart (default : config.defaultFontSize.hasCounterpart) {style : List (String × Json)}
    {size : Number} (made : fontSize style config = .ok size) : size.hasCounterpart := by
  simp only [fontSize, bind_eq_ok, pure_eq_ok] at made
  obtain ⟨given, -, rfl⟩ := made
  split
  · exact default
  · cases given with
    | none => exact default
    | some number => rfl

/-- The layer of a record can be drawn when the default font size can. -/
theorem layer_isMeasured (default : config.defaultFontSize.hasCounterpart) {type : NodeType} {id : String}
    {layer : Layer} (made : record.layer type id config = .ok layer) : layer.IsMeasured := by
  obtain ⟨text, layout, styles, hasImage, -, placed, painted, -, rfl⟩ := layer_eq_ok made
  obtain ⟨x, y, width, height, rotation, opacity, -, rfl⟩ := layout_eq_ok placed
  obtain ⟨fills, weight, strokes, radius, -, -, -, -, styled⟩ := styles_eq_ok painted
  refine ⟨⟨x, y, _, _, rotation, _, rfl⟩, fun style given => ?_⟩
  split at styled
  · obtain ⟨own, set, rfl⟩ := styled
    obtain rfl := Option.mem_some.mp given
    obtain ⟨size, weight, word, spacing, sized, -, -, rfl⟩ := textStyle_eq_ok set
    exact fontSize_hasCounterpart default sized
  · obtain rfl := styled
    simp at given

end Record

end Storyboard

/-
This file states what the second pass adds to a design in which few nodes were found.
-/

import Storyboard.Document.Normalize
import Storyboard.Proofs.Document.Placement
import Storyboard.Proofs.Document.RecordLayer

namespace Storyboard

namespace Fallback

variable {config : Config}

/-- The added layers have new and distinct ids, are large enough, and are layers of records in view. -/
theorem candidates_eq_ok {known : List String} {sightings : List Sighting} {found : List Layer}
    (success : candidates config known sightings = .ok found) :
    (found.map (·.id)).Nodup ∧ ∀ layer ∈ found, layer.id ∉ known ∧
      layer.layout.area.atMost config.fallbackMinArea = false ∧
        ∃ sighting ∈ sightings, sighting.layer config = .ok layer := by
  induction sightings generalizing known found with
  | nil =>
      obtain rfl : [] = found := by simpa [candidates] using success
      simp
  | cons sighting rest ih =>
      -- A record that is passed over leaves the same known ids for the rest.
      have later {found : List Layer} (passed : candidates config known rest = .ok found) :
          (found.map (·.id)).Nodup ∧ ∀ layer ∈ found, layer.id ∉ known ∧
            layer.layout.area.atMost config.fallbackMinArea = false ∧
              ∃ other ∈ sighting :: rest, other.layer config = .ok layer := by
        refine ⟨(ih passed).1, fun layer member => ?_⟩
        obtain ⟨new, large, other, inside, made⟩ := (ih passed).2 layer member
        exact ⟨new, large, other, by simp [inside], made⟩
      rw [candidates] at success
      obtain ⟨id, named, success⟩ := (bind_eq_ok _ _ _).mp success
      split at success
      · exact later success
      rename_i new
      obtain ⟨layer, made, success⟩ := (bind_eq_ok _ _ _).mp success
      split at success
      · exact later success
      rename_i large
      obtain ⟨others, reached, same⟩ := (bind_eq_ok _ _ _).mp success
      obtain rfl := (pure_eq_ok _ _).mp same
      have sameId : layer.id = id := Except.ok.inj ((Sighting.id_eq_ok_of_layer made).symm.trans named)
      obtain ⟨distinct, facts⟩ := ih reached
      refine ⟨?_, ?_⟩
      · rw [List.map_cons, List.nodup_cons]
        refine ⟨fun repeated => ?_, distinct⟩
        obtain ⟨other, inside, equal⟩ := List.mem_map.mp repeated
        exact (facts other inside).1 (by simp [equal, sameId])
      · intro other member
        rcases List.mem_cons.mp member with same | inside
        · exact same ▸ ⟨sameId ▸ new, by simpa using large, sighting, by simp, made⟩
        · obtain ⟨unknown, wide, source, among, built⟩ := facts other inside
          exact ⟨fun member => unknown (by simp [member]), wide, source, by simp [among], built⟩

/-- Reading order compares any two layers whose corners are defined. -/
theorem readsBefore_total {left right : Layer}
    (onLeft : left.layout.x ≠ .double .nan ∧ left.layout.y ≠ .double .nan)
    (onRight : right.layout.x ≠ .double .nan ∧ right.layout.y ≠ .double .nan) :
    readsBefore left right || readsBefore right left := by
  obtain ⟨leftX, placeLeftX⟩ := Number.exists_place onLeft.1
  obtain ⟨leftY, placeLeftY⟩ := Number.exists_place onLeft.2
  obtain ⟨rightX, placeRightX⟩ := Number.exists_place onRight.1
  obtain ⟨rightY, placeRightY⟩ := Number.exists_place onRight.2
  simp only [readsBefore, Number.less_eq placeLeftY placeRightY, Number.less_eq placeRightY placeLeftY,
    Number.same_eq placeLeftY placeRightY, Number.same_eq placeRightY placeLeftY,
    Number.atMost_eq placeLeftX placeRightX, Number.atMost_eq placeRightX placeLeftX]
  rcases Place.less_or_eq_or_less leftY rightY with above | level | below
  · simp [above]
  · rcases Place.less_or_eq_or_less leftX rightX with nearer | same | further
    · simp [level, nearer]
    · simp [level, same]
    · simp [level, further]
  · simp [below]

/-- Reading order is transitive among layers whose corners are defined. -/
theorem readsBefore_trans {first second third : Layer}
    (onFirst : first.layout.x ≠ .double .nan ∧ first.layout.y ≠ .double .nan)
    (onSecond : second.layout.x ≠ .double .nan ∧ second.layout.y ≠ .double .nan)
    (onThird : third.layout.x ≠ .double .nan ∧ third.layout.y ≠ .double .nan)
    (lower : readsBefore first second) (upper : readsBefore second third) : readsBefore first third := by
  obtain ⟨firstX, placeFirstX⟩ := Number.exists_place onFirst.1
  obtain ⟨firstY, placeFirstY⟩ := Number.exists_place onFirst.2
  obtain ⟨secondX, placeSecondX⟩ := Number.exists_place onSecond.1
  obtain ⟨secondY, placeSecondY⟩ := Number.exists_place onSecond.2
  obtain ⟨thirdX, placeThirdX⟩ := Number.exists_place onThird.1
  obtain ⟨thirdY, placeThirdY⟩ := Number.exists_place onThird.2
  simp only [readsBefore, Number.less_eq placeFirstY placeSecondY, Number.same_eq placeFirstY placeSecondY,
    Number.atMost_eq placeFirstX placeSecondX, Number.less_eq placeSecondY placeThirdY,
    Number.same_eq placeSecondY placeThirdY, Number.atMost_eq placeSecondX placeThirdX,
    Number.less_eq placeFirstY placeThirdY, Number.same_eq placeFirstY placeThirdY,
    Number.atMost_eq placeFirstX placeThirdX, Bool.or_eq_true, Bool.and_eq_true, decide_eq_true_eq] at *
  rcases lower with above | ⟨rfl, nearer⟩
  · rcases upper with higher | ⟨rfl, -⟩
    · exact .inl (Place.less_trans above higher)
    · exact .inl above
  · rcases upper with below | ⟨rfl, further⟩
    · exact .inl below
    · refine .inr ⟨rfl, ?_⟩
      rcases nearer with nearer | rfl
      · rcases further with further | rfl
        · exact .inl (Place.less_trans nearer further)
        · exact .inl nearer
      · exact further

/-- Sorting puts layers whose corners are defined into reading order. -/
theorem pairwise_readsBefore {layers : List Layer}
    (defined : ∀ layer ∈ layers, layer.layout.x ≠ .double .nan ∧ layer.layout.y ≠ .double .nan) :
    (layers.mergeSort readsBefore).Pairwise (readsBefore · ·) := by
  -- The order is total on layers with defined corners alone, so the sorting is done among those.
  let order (left right : { layer : Layer // layer.layout.x ≠ .double .nan ∧ layer.layout.y ≠ .double .nan }) :=
    readsBefore left.val right.val
  have trans (first second third) : order first second → order second third → order first third :=
    readsBefore_trans first.property second.property third.property
  have total (left right) : order left right || order right left :=
    readsBefore_total left.property right.property
  have sorted := List.pairwise_mergeSort trans total (layers.attachWith _ defined)
  have same : ((layers.attachWith _ defined).mergeSort order).map Subtype.val =
      ((layers.attachWith _ defined).map Subtype.val).mergeSort readsBefore :=
    List.map_mergeSort fun _ _ _ _ => rfl
  rw [List.attachWith_map_subtype_val] at same
  rw [← same, List.pairwise_map]
  exact sorted

/-- A layer is added under one of the given ids, and is larger than the least area when that is defined. -/
def IsAdded (config : Config) (ids : List String) (layer : Layer) : Prop :=
  layer.id ∈ ids ∧ (config.fallbackMinArea ≠ .double .nan → config.fallbackMinArea.less layer.layout.area)

/-- A result supplements screens by leaves under new ids, which stand below their hosts or after all screens. -/
structure Supplements (config : Config) (screens : List Node) (ids : List String) (result : List Node) : Prop where
  distinct : ids.Nodup
  new : ∀ layer ∈ Forest.preorder screens, layer.id ∉ ids
  /-- Besides the layers of the screens, the result holds one layer for each id. -/
  complete : ((Forest.preorder result).map (·.id)).Perm ((Forest.preorder screens).map (·.id) ++ ids)
  /-- Without the added layers the screens are as they were. -/
  restored : Forest.prune (fun layer => layer.id ∉ ids) result = screens
  /-- Each screen keeps its place, and after its children stand the layers that it is the first to accept. -/
  hosted : ∀ (index : Nat) (screen : Node), screens[index]? = some screen → ∃ taken : List Layer,
    result[index]? = some (.node screen.value (screen.children ++ taken.map Tree.leaf)) ∧
      taken.Pairwise (readsBefore · ·) ∧ ∀ layer ∈ taken, IsAdded config ids layer ∧
        Accepts config layer screen ∧
          ∀ earlier < index, ∀ other, screens[earlier]? = some other → ¬Accepts config layer other
  /-- The layers that no screen accepts stand after all screens. -/
  trailing : ∃ rest : List Layer, result.drop screens.length = rest.map Tree.leaf ∧
    rest.Pairwise (readsBefore · ·) ∧ ∀ layer ∈ rest, IsAdded config ids layer ∧
      ∀ screen ∈ screens, ¬Accepts config layer screen

/-- Layers in reading order with new and distinct ids supplement the screens into which they are merged. -/
theorem supplements_merge {screens : List Node} {added : List Layer} (sorted : added.Pairwise (readsBefore · ·))
    (distinct : (added.map (·.id)).Nodup)
    (new : ∀ layer ∈ added, layer.id ∉ (Forest.preorder screens).map (·.id))
    (large : ∀ layer ∈ added, IsAdded config (added.map (·.id)) layer) :
    Supplements config screens (added.map (·.id)) (merge config screens added) where
  distinct := distinct
  new layer member repeated := by
    obtain ⟨other, inside, same⟩ := List.mem_map.mp repeated
    exact new other inside (List.mem_map.mpr ⟨layer, member, same.symm⟩)
  complete := by
    simpa using (preorder_merge_perm config screens added).map (·.id)
  restored := by
    refine prune_merge (fun layer member => ?_) (fun layer member => ?_)
    · refine decide_eq_true fun repeated => ?_
      obtain ⟨other, inside, same⟩ := List.mem_map.mp repeated
      exact new other inside (List.mem_map.mpr ⟨layer, member, same.symm⟩)
    · exact decide_eq_false (not_not_intro (List.mem_map.mpr ⟨layer, member, rfl⟩))
  hosted index screen found := by
    refine ⟨takenAt config screens added index, getElem?_merge found, sorted.filter _, fun layer member => ?_⟩
    obtain ⟨inside, place⟩ := mem_takenAt member
    obtain ⟨⟨other, same, accepted⟩, first⟩ := host?_eq_some place
    obtain rfl : screen = other := Option.some.inj (found.symm.trans same)
    exact ⟨large layer inside, accepted, first⟩
  trailing := by
    refine ⟨unplaced config screens added, drop_merge, sorted.filter _, fun layer member => ?_⟩
    obtain ⟨inside, place⟩ := mem_unplaced member
    exact ⟨large layer inside, host?_eq_none place⟩

end Fallback

mutual

/-- Depth is all that the first pass reports. -/
theorem Outline.truncations_code (config : Config) (path : Path) (depth : Nat) :
    ∀ (outline : Outline) (found : List Diagnostic), outline.truncations config path depth = .ok found →
      ∀ diagnostic ∈ found, diagnostic.code = "depth_exceeded"
  | .node record children, found, reported => by
      rw [Outline.truncations] at reported
      cases role : record.role with
      | ignored =>
          obtain rfl : [] = found := by simpa [role] using reported
          simp
      | container =>
          rw [role] at reported
          exact Outline.truncationsFrom_code config path depth 0 children found reported
      | shown type =>
          simp only [role] at reported
          split at reported
          · exact Outline.truncationsFrom_code config path (depth + 1) 0 children found reported
          · split at reported
            · obtain rfl : [] = found := by simpa using reported
              simp
            · obtain ⟨id, -, rfl⟩ := by simpa only [bind_eq_ok, pure_eq_ok] using reported
              rw [List.forall_mem_singleton]
              rfl
      | unwritten => simp [role] at reported

/-- Depth is all that the first pass reports of the children of a record. -/
theorem Outline.truncationsFrom_code (config : Config) (path : Path) (depth index : Nat) :
    ∀ (outlines : List Outline) (found : List Diagnostic),
      Outline.truncationsFrom config path depth index outlines = .ok found →
        ∀ diagnostic ∈ found, diagnostic.code = "depth_exceeded"
  | [], found, reported => by
      obtain rfl : [] = found := by simpa [Outline.truncationsFrom] using reported
      simp
  | child :: rest, found, reported => by
      simp only [Outline.truncationsFrom, bind_eq_ok, pure_eq_ok] at reported
      obtain ⟨first, onFirst, others, onOthers, rfl⟩ := reported
      rw [List.forall_mem_append]
      exact ⟨Outline.truncations_code config (path.child index) depth child first onFirst,
        Outline.truncationsFrom_code config path depth (index + 1) rest others onOthers⟩

end

namespace Document

theorem truncationsOfRoots_code {config : Config} {index : Nat} {outlines : List Outline} {found : List Diagnostic}
    (reported : truncationsOfRoots config index outlines = .ok found) :
    ∀ diagnostic ∈ found, diagnostic.code = "depth_exceeded" := by
  induction outlines generalizing index found with
  | nil =>
      obtain rfl : [] = found := by simpa [truncationsOfRoots] using reported
      simp
  | cons root rest ih =>
      simp only [truncationsOfRoots, bind_eq_ok, pure_eq_ok] at reported
      obtain ⟨first, onFirst, others, onOthers, rfl⟩ := reported
      rw [List.forall_mem_append]
      exact ⟨Outline.truncations_code config _ 0 root first onFirst, ih onOthers⟩

/-- The screens that the first pass finds in a raw document. -/
def primary (config : Config) (raw : Json) : Except DocumentFault (List Node) := do
  let outlines ← (roots raw).mapError .shape
  (arrangeRoots config 0 outlines).mapError .number

/-- A design of roots holds the screens of the first pass, or those with what the second pass found. -/
theorem designOf_eq_ok {config : Config} {outlines : List Outline} {design : Design}
    (success : designOf config outlines = .ok design) :
    ∃ screens truncations, arrangeRoots config 0 outlines = .ok screens ∧
      truncationsOfRoots config 0 outlines = .ok truncations ∧
        if (Number.whole (Forest.size screens)).less config.lowYieldThreshold then
          ∃ found, Fallback.candidates config ((Forest.preorder screens).map (·.id))
              (reachedOfRoots config 0 outlines) = .ok found ∧ config.lowYieldThreshold.json.isWritable ∧
            design = {
              screens := Fallback.merge config screens (found.mergeSort Fallback.readsBefore)
              diagnostics := truncations ++
                [.lowYield (Forest.size screens) config.lowYieldThreshold
                  ((found.mergeSort Fallback.readsBefore).map (·.id))] }
        else design = { screens, diagnostics := truncations } := by
  obtain ⟨screens, arranged, success⟩ := (bind_eq_ok _ _ _).mp success
  obtain ⟨truncations, reported, success⟩ := (bind_eq_ok _ _ _).mp success
  refine ⟨screens, truncations, arranged, reported, ?_⟩
  dsimp only at success
  split at success
  · rename_i few
    rw [if_pos few]
    obtain ⟨found, reached, success⟩ := (bind_eq_ok _ _ _).mp success
    obtain ⟨asked, written, same⟩ := (bind_eq_ok _ _ _).mp success
    exact ⟨found, reached, Json.isWritable_of_written written, ((pure_eq_ok _ _).mp same).symm⟩
  · rename_i enough
    rw [if_neg enough]
    exact ((pure_eq_ok _ _).mp success).symm

/-- When the first pass finds few nodes, what the second pass finds is merged into its screens. -/
theorem designOf_of_few {config : Config} {outlines : List Outline} {screens : List Node}
    {truncations : List Diagnostic} {found : List Layer} (arranged : arrangeRoots config 0 outlines = .ok screens)
    (reported : truncationsOfRoots config 0 outlines = .ok truncations)
    (few : (Number.whole (Forest.size screens)).less config.lowYieldThreshold)
    (reached : Fallback.candidates config ((Forest.preorder screens).map (·.id)) (reachedOfRoots config 0 outlines) =
      .ok found) (asked : config.lowYieldThreshold.json.isWritable) :
    designOf config outlines = .ok {
      screens := Fallback.merge config screens (found.mergeSort Fallback.readsBefore)
      diagnostics := truncations ++ [.lowYield (Forest.size screens) config.lowYieldThreshold
        ((found.mergeSort Fallback.readsBefore).map (·.id))] } := by
  rw [designOf, arranged, reported]
  refine (if_pos few).trans ((bind_eq_ok _ _ _).mpr ⟨found, reached, ?_⟩)
  rw [Json.written_of_isWritable asked]
  rfl

/-- A raw document with a design has roots, and the design of the roots has a screen. -/
theorem normalize_eq_ok {config : Config} {raw : Json} {design : Design} (built : normalize config raw = .ok design) :
    ∃ outlines, roots raw = .ok outlines ∧ designOf config outlines = .ok design ∧ design.screens ≠ [] := by
  simp only [normalize, bind_eq_ok, mapError_eq_ok] at built
  obtain ⟨outlines, found, made, success, ended⟩ := built
  split at ended
  · simp at ended
  · rename_i filled
    obtain rfl := (pure_eq_ok _ _).mp ended
    exact ⟨outlines, found, success, by simpa using filled⟩

/--
When the first pass finds few nodes, the last diagnostic alone tells of the second pass, and its ids are those
of the layers that supplement the screens of the first one.
-/
theorem normalize_supplements {config : Config} {raw : Json} {design : Design} {screens : List Node}
    (built : normalize config raw = .ok design) (first : primary config raw = .ok screens)
    (few : (Number.whole (Forest.size screens)).less config.lowYieldThreshold) :
    ∃ (truncations : List Diagnostic) (ids : List String),
      design.diagnostics = truncations ++ [.lowYield (Forest.size screens) config.lowYieldThreshold ids] ∧
        (∀ diagnostic ∈ truncations, diagnostic.code = "depth_exceeded") ∧
          Forest.size screens + ids.length = design.elementCount ∧
            Fallback.Supplements config screens ids design.screens := by
  obtain ⟨outlines, found, success, -⟩ := normalize_eq_ok built
  obtain ⟨arranged, truncations, same, reported, rest⟩ := designOf_eq_ok success
  obtain rfl : arranged = screens := by
    simp only [primary, found, mapError_ok, bind_eq_ok, Except.ok.injEq] at first
    obtain ⟨others, rfl, again⟩ := first
    rw [same] at again
    exact Except.ok.inj again
  rw [if_pos few] at rest
  obtain ⟨candidates, reached, -, rfl⟩ := rest
  obtain ⟨distinct, facts⟩ := Fallback.candidates_eq_ok reached
  have placed : ∀ layer ∈ candidates, layer.layout.x ≠ .double .nan ∧ layer.layout.y ≠ .double .nan ∧
      layer.layout.area ≠ .double .nan := by
    intro layer member
    obtain ⟨-, -, sighting, -, made⟩ := facts layer member
    exact Record.layer_isPlaced (Sighting.layer_eq_ok made)
  refine ⟨_, _, rfl, truncationsOfRoots_code reported, ?_, ?_⟩
  · simp [Design.elementCount, Fallback.size_merge]
  · refine Fallback.supplements_merge ?_ ?_ ?_ ?_
    · exact Fallback.pairwise_readsBefore fun layer member =>
        ⟨(placed layer member).1, (placed layer member).2.1⟩
    · exact ((List.mergeSort_perm _ _).map _).nodup_iff.mpr distinct
    · intro layer member
      exact (facts layer (List.mem_mergeSort.mp member)).1
    · intro layer member
      have inside := List.mem_mergeSort.mp member
      refine ⟨List.mem_map.mpr ⟨layer, member, rfl⟩, fun defined => ?_⟩
      exact Number.less_of_not_atMost (placed layer inside).2.2 defined (facts layer inside).2.1

/-- A square box with its corner at a place. -/
def square (x y size : Int) : Json :=
  .object [("x", .int x), ("y", .int y), ("width", .int size), ("height", .int size)]

/-- A frame and two small groups, of which one stands on the frame. -/
def sparse : Json :=
  .object [("children", .array [
    .object [("id", .string "screen"), ("type", .string "FRAME"), ("absoluteBoundingBox", square 0 0 100)],
    .object [("id", .string "far"), ("type", .string "GROUP"), ("absoluteBoundingBox", square 200 200 6)],
    .object [("id", .string "near"), ("type", .string "GROUP"), ("absoluteBoundingBox", square 10 10 5)]])]

theorem normalize_sparse :
    ∃ design screens, normalize .standard sparse = .ok design ∧ primary .standard sparse = .ok screens ∧
      (Number.whole (Forest.size screens)).less Config.standard.lowYieldThreshold ∧
        ∃ (truncations : List Diagnostic) (ids : List String),
          design.diagnostics =
              truncations ++ [.lowYield (Forest.size screens) Config.standard.lowYieldThreshold ids] ∧
            (∀ diagnostic ∈ truncations, diagnostic.code = "depth_exceeded") ∧
              Forest.size screens + ids.length = design.elementCount ∧
                Fallback.Supplements .standard screens ids design.screens := by
  obtain ⟨design, built, -⟩ := exists_of_any (normalize .standard sparse) (fun _ => true) (by decide +kernel)
  obtain ⟨screens, first, few⟩ := exists_of_any (primary .standard sparse)
    (fun screens => (Number.whole (Forest.size screens)).less Config.standard.lowYieldThreshold) (by decide +kernel)
  exact ⟨design, screens, built, first, few, normalize_supplements built first few⟩

/-- Limits in which the least area is not defined. -/
def unbounded : Config := { Config.standard with fallbackMinArea := .double .nan }

/-- A square of one point without colour. -/
def dot : Json :=
  .object [("children", .array [
    .object [("id", .string "dot"), ("absoluteBoundingBox", square 0 0 1)]])]

/-- Without a defined least area, a layer is added whose area is not greater than it. -/
theorem normalize_dot :
    ∃ design, normalize unbounded dot = .ok design ∧ primary unbounded dot = .ok [] ∧
      (Number.whole 0).less unbounded.lowYieldThreshold ∧
        ∃ layer ∈ Forest.preorder design.screens, unbounded.fallbackMinArea.less layer.layout.area = false := by
  obtain ⟨design, built, added⟩ := exists_of_any (normalize unbounded dot) (fun design =>
    (Forest.preorder design.screens).any (unbounded.fallbackMinArea.less ·.layout.area = false)) (by decide +kernel)
  obtain ⟨screens, first, none⟩ := exists_of_any (primary unbounded dot) List.isEmpty (by decide +kernel)
  exact ⟨design, built, List.isEmpty_iff.mp none ▸ first, by decide +kernel, by simpa using added⟩

end Document

end Storyboard

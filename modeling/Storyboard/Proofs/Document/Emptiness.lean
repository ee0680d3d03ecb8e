/-
This file states when nothing is found in a document: no record in view counts, and where few are asked for, none is
large enough for the second pass either.
-/

import Storyboard.Proofs.Document.Answer

namespace Storyboard

/-- Nothing counts when each record in view has a layer that does not count. -/
theorem Sighting.visualLayers_eq_nil_iff {config : Config} {sightings : List Sighting} :
    visualLayers config sightings = .ok [] ↔
      ∀ sighting ∈ sightings, ∃ layer, sighting.layer config = .ok layer ∧ layer.isVisual config = false := by
  simp only [visualLayers, bind_eq_ok, pure_eq_ok]
  induction sightings with
  | nil => simp
  | cons sighting rest ih =>
      simp only [List.mapM_cons, bind_eq_ok, pure_eq_ok, List.forall_mem_cons, ← ih]
      constructor
      · rintro ⟨layers, ⟨first, made, others, each, rfl⟩, hidden⟩
        rw [List.filter_eq_nil_iff, List.forall_mem_cons, Bool.not_eq_true] at hidden
        exact ⟨⟨first, made, hidden.1⟩, others, each, List.filter_eq_nil_iff.mpr hidden.2⟩
      · rintro ⟨⟨first, made, unseen⟩, others, each, hidden⟩
        exact ⟨first :: others, ⟨first, made, others, each, rfl⟩, by rw [List.filter_cons, unseen, hidden]; rfl⟩

namespace Fallback

/-- The second pass takes a layer whose area is not at most the least area. -/
def takes (config : Config) (layer : Layer) : Bool := !layer.layout.area.atMost config.fallbackMinArea

/-- When no id is known yet, the second pass finds nothing exactly when it takes no layer of a record in view. -/
theorem candidates_eq_nil_iff {config : Config} {sightings : List Sighting} :
    candidates config [] sightings = .ok [] ↔
      ∀ sighting ∈ sightings, ∃ layer, sighting.layer config = .ok layer ∧ takes config layer = false := by
  simp only [takes, Bool.not_eq_false']
  induction sightings with
  | nil => simp [candidates]
  | cons sighting rest ih =>
      rw [List.forall_mem_cons, ← ih, candidates]
      constructor
      · intro success
        obtain ⟨id, -, success⟩ := (bind_eq_ok _ _ _).mp success
        rw [if_neg List.not_mem_nil] at success
        obtain ⟨layer, made, success⟩ := (bind_eq_ok _ _ _).mp success
        split at success
        · rename_i small
          exact ⟨⟨layer, made, small⟩, success⟩
        · obtain ⟨others, -, same⟩ := (bind_eq_ok _ _ _).mp success
          simp at same
      · rintro ⟨⟨layer, made, small⟩, later⟩
        refine (bind_eq_ok _ _ _).mpr ⟨layer.id, Sighting.id_eq_ok_of_layer made, ?_⟩
        rw [if_neg List.not_mem_nil]
        exact (bind_eq_ok _ _ _).mpr ⟨layer, made, by rw [if_pos small, later]⟩

/-- Nothing comes of merging exactly when there are no screens and nothing is added. -/
theorem merge_eq_nil_iff {config : Config} {screens : List Node} {added : List Layer} :
    merge config screens added = [] ↔ screens = [] ∧ added = [] := by
  have merged := preorder_merge_perm config screens added
  rw [← Forest.preorder_eq_nil_iff, ← @Forest.preorder_eq_nil_iff _ screens, ← List.append_eq_nil_iff]
  exact ⟨fun empty => List.nil_perm.mp (empty ▸ merged), fun empty => List.perm_nil.mp (empty ▸ merged)⟩

end Fallback

namespace Document

/-- Each record in view has a layer, and this layer fails a test. -/
def NoneInView (config : Config) (outlines : List Outline) (test : Layer → Bool) : Prop :=
  ∀ sighting ∈ reachedOfRoots config 0 outlines, ∃ layer, sighting.layer config = .ok layer ∧ test layer = false

variable {config : Config} {outlines : List Outline}

instance (test : Layer → Bool) : Decidable (NoneInView config outlines test) :=
  decidable_of_iff ((reachedOfRoots config 0 outlines).all fun sighting =>
    (sighting.layer config).toOption.any (!test ·)) <| by
      rw [NoneInView, List.all_eq_true]
      refine forall₂_congr fun sighting member => ?_
      cases sighting.layer config <;> simp [Except.toOption]

/-- The first pass finds nothing exactly when no layer in view counts. -/
theorem arrangeRoots_eq_nil_iff :
    arrangeRoots config 0 outlines = .ok [] ↔ NoneInView config outlines (·.isVisual config) := by
  rw [NoneInView, ← Sighting.visualLayers_eq_nil_iff, ← preorder_arrangeRoots, map_eq_ok]
  simp only [Forest.preorder_eq_nil_iff, exists_eq_right]

/--
The design of roots has no screen when no layer in view counts, and if a second pass runs, it takes none and the number
that was asked for can be written out.
-/
theorem designOf_isEmpty_iff :
    (∃ design, designOf config outlines = .ok design ∧ design.screens = []) ↔
      NoneInView config outlines (·.isVisual config) ∧
        ((Number.whole 0).less config.lowYieldThreshold →
          NoneInView config outlines (Fallback.takes config) ∧ config.lowYieldThreshold.json.isWritable) := by
  rw [← arrangeRoots_eq_nil_iff]
  constructor
  · rintro ⟨design, success, empty⟩
    obtain ⟨screens, truncations, arranged, -, result⟩ := designOf_eq_ok success
    split at result
    · obtain ⟨found, reached, writable, rfl⟩ := result
      obtain ⟨rfl, unsorted⟩ := Fallback.merge_eq_nil_iff.mp empty
      obtain rfl : found = [] := List.nil_perm.mp (unsorted ▸ List.mergeSort_perm found _)
      exact ⟨arranged, fun _ => ⟨Fallback.candidates_eq_nil_iff.mp reached, writable⟩⟩
    · rename_i enough
      subst result
      obtain rfl : screens = [] := empty
      exact ⟨arranged, fun few => absurd few enough⟩
  · rintro ⟨arranged, untaken⟩
    obtain ⟨truncations, reported⟩ := truncationsOfRoots_isOk arranged
    by_cases few : (Number.whole 0).less config.lowYieldThreshold
    · obtain ⟨small, writable⟩ := untaken few
      have reached := Fallback.candidates_eq_nil_iff.mpr small
      exact ⟨_, designOf_of_few arranged reported few reached writable,
        Fallback.merge_eq_nil_iff.mpr ⟨rfl, List.mergeSort_nil⟩⟩
    · exact ⟨_, (bind_eq_ok _ _ _).mpr ⟨[], arranged, (bind_eq_ok _ _ _).mpr ⟨truncations, reported, if_neg few⟩⟩,
        rfl⟩

variable {raw : Json}

/-- A document is refused as empty exactly when the design of its roots has no screen. -/
theorem normalize_eq_nothingFound (found : roots raw = .ok outlines) :
    normalize config raw = .error (.nothingFound outlines.length) ↔
      ∃ design, designOf config outlines = .ok design ∧ design.screens = [] := by
  cases made : designOf config outlines with
  | error fault => simp [normalize, found, made, bind, Except.bind]
  | ok design =>
      by_cases empty : design.screens = []
      · simp [normalize, found, made, bind, Except.bind, empty]
      · simp [normalize, found, made, bind, Except.bind, empty, pure, Except.pure]

/-- The second pass takes what is larger than the least area when that is defined. -/
theorem noneInView_takes_iff (defined : config.fallbackMinArea ≠ .double .nan) :
    NoneInView config outlines (Fallback.takes config) ↔
      NoneInView config outlines (config.fallbackMinArea.less ·.layout.area) := by
  refine forall₂_congr fun sighting member => exists_congr fun layer => and_congr_right fun made => ?_
  have placed := (Record.layer_isPlaced (Sighting.layer_eq_ok made)).2.2
  rw [Fallback.takes, Bool.not_eq_false']
  refine ⟨Number.not_less_of_atMost, fun small => ?_⟩
  by_contra large
  rw [Bool.not_eq_true] at large
  exact Bool.false_ne_true (small.symm.trans (Number.less_of_not_atMost placed defined large))

/-- The second pass takes every layer when the least area is not defined. -/
theorem noneInView_takes_nan_iff (undefined : config.fallbackMinArea = .double .nan) :
    NoneInView config outlines (Fallback.takes config) ↔ reachedOfRoots config 0 outlines = [] := by
  simp [NoneInView, Fallback.takes, undefined, Number.atMost_nan, List.eq_nil_iff_forall_not_mem]

/--
Where at least one node is asked for, a document is refused as empty exactly when no layer in view counts and none is
larger than the least area, or when nothing is in view if that area is not defined, and the number that was asked for
can be written out. Where none is asked for, it is refused exactly when no layer in view counts. All records in view
have layers when their values can be used.
-/
theorem normalize_eq_nothingFound_iff (config : Config) (found : roots raw = .ok outlines) :
    ((Number.whole 1).atMost config.lowYieldThreshold → config.fallbackMinArea ≠ .double .nan →
      (normalize config raw = .error (.nothingFound outlines.length) ↔
        (NoneInView config outlines (·.isVisual config) ∧
          NoneInView config outlines (config.fallbackMinArea.less ·.layout.area)) ∧
            config.lowYieldThreshold.json.isWritable)) ∧
    ((Number.whole 1).atMost config.lowYieldThreshold → config.fallbackMinArea = .double .nan →
      (normalize config raw = .error (.nothingFound outlines.length) ↔
        reachedOfRoots config 0 outlines = [] ∧ config.lowYieldThreshold.json.isWritable)) ∧
    (config.lowYieldThreshold.same (.whole 0) →
      (normalize config raw = .error (.nothingFound outlines.length) ↔
        NoneInView config outlines (·.isVisual config))) ∧
    ((∃ weight, config.defaultFontWeight.truncated = .ok weight) →
      (∀ value ∈ measuresOfRoots config outlines, Measure.isReadable value) →
        ∀ sighting ∈ reachedOfRoots config 0 outlines, ∃ layer, sighting.layer config = .ok layer) := by
  rw [normalize_eq_nothingFound found, designOf_isEmpty_iff]
  refine ⟨fun asked defined => ?_, fun asked undefined => ?_, fun unasked => ?_, fun default => layers_isOk default⟩
  · have few := Number.less_of_lt asked Int.zero_lt_one
    simp only [few, forall_const, noneInView_takes_iff defined, and_assoc]
  · have few := Number.less_of_lt asked Int.zero_lt_one
    simp only [few, forall_const, noneInView_takes_nan_iff undefined]
    exact ⟨And.right, fun empty => ⟨by simp [NoneInView, empty.1], empty⟩⟩
  · have enough : (Number.whole 0).less config.lowYieldThreshold = false :=
      Number.not_less_of_atMost (by rw [Number.atMost, unasked, Bool.or_true])
    simp only [enough, Bool.false_eq_true, false_imp_iff, and_true]

/-- Limits under which no second pass runs. -/
def contented : Config := { lowYieldThreshold := .whole 0 }

/-- The roots of a document that holds a dot. -/
def dots : List Outline := [.node ⟨[("id", .string "dot"), ("absoluteBoundingBox", square 0 0 1)]⟩ []]

theorem roots_dot : roots dot = .ok dots := by rfl

/-- A dot without colour is refused with and without a second pass, unless the least area is not defined. -/
theorem normalize_dot_eq_nothingFound : roots dot = .ok dots ∧
    ((Number.whole 1).atMost Config.standard.lowYieldThreshold ∧ Config.standard.fallbackMinArea ≠ .double .nan ∧
      normalize .standard dot = .error (.nothingFound 1)) ∧
    ((Number.whole 1).atMost unbounded.lowYieldThreshold ∧ unbounded.fallbackMinArea = .double .nan ∧
      normalize unbounded dot ≠ .error (.nothingFound 1)) ∧
    (contented.lowYieldThreshold.same (.whole 0) ∧ normalize contented dot = .error (.nothingFound 1)) ∧
    (Config.standard.defaultFontWeight.truncated = .ok 400 ∧
      (∀ value ∈ measuresOfRoots .standard dots, Measure.isReadable value) ∧
        ∀ sighting ∈ reachedOfRoots .standard 0 dots, ∃ layer, sighting.layer .standard = .ok layer) := by
  have asked : (Number.whole 1).atMost Config.standard.lowYieldThreshold := by decide +kernel
  have defined : Config.standard.fallbackMinArea ≠ .double .nan := by decide +kernel
  have unasked : contented.lowYieldThreshold.same (.whole 0) := by decide +kernel
  have readable : ∀ value ∈ measuresOfRoots .standard dots, Measure.isReadable value :=
    List.all_eq_true.mp (by decide +kernel)
  obtain ⟨bounded, -, -, layers⟩ := normalize_eq_nothingFound_iff .standard roots_dot
  obtain ⟨-, boundless, -, -⟩ := normalize_eq_nothingFound_iff unbounded roots_dot
  obtain ⟨-, -, single, -⟩ := normalize_eq_nothingFound_iff contented roots_dot
  refine ⟨roots_dot, ⟨asked, defined, (bounded asked defined).mpr (by decide +kernel)⟩,
    ⟨asked, rfl, fun refused => ?_⟩, ⟨unasked, (single unasked).mpr (by decide +kernel)⟩, rfl, readable,
    layers ⟨400, rfl⟩ readable⟩
  have empty := congrArg List.length ((boundless asked rfl).mp refused).1
  exact absurd empty (by decide +kernel)

/-- Without a defined least area a dot is not refused, although it does not count and is not larger than that area. -/
theorem normalize_dot_ne_nothingFound : roots dot = .ok dots ∧
    (Number.whole 1).atMost unbounded.lowYieldThreshold ∧ NoneInView unbounded dots (·.isVisual unbounded) ∧
      NoneInView unbounded dots (unbounded.fallbackMinArea.less ·.layout.area) ∧
        ∀ count, normalize unbounded dot ≠ .error (.nothingFound count) := by
  obtain ⟨design, built, -⟩ := exists_of_any (normalize unbounded dot) (fun _ => true) (by decide +kernel)
  refine ⟨roots_dot, by decide +kernel, by decide +kernel, by decide +kernel, fun count refused => ?_⟩
  simp [built] at refused

end Document

end Storyboard

/-
This file states that the ids of a design are distinct when those that the records in view give themselves are.
-/

import Storyboard.Proofs.Document.InView
import Storyboard.Proofs.Document.Position

namespace Storyboard

/-- An id looks like those that are made from a place. -/
def Record.looksMade (id : String) : Bool := "auto-".toList.isPrefixOf id.toList

theorem Record.looksMade_append (place : String) : looksMade ("auto-" ++ place) := by
  rw [looksMade, List.isPrefixOf_iff_prefix, String.toList_append]
  exact List.prefix_append _ _

/-- The id that a record gives itself, when it can be written out. -/
def Record.ownId? (record : Record) : Option String := record.id?.toOption.join

namespace Sighting

/-- A record has its own id, or one that is made from its place. -/
theorem id_eq_ok {sighting : Sighting} {id : String} (named : sighting.id = .ok id) :
    sighting.record.ownId? = some id ∨ sighting.record.ownId? = none ∧ id = "auto-" ++ sighting.path.text := by
  rw [Sighting.id] at named
  split at named
  · simp at named
  obtain ⟨own, given, same⟩ := (bind_eq_ok _ _ _).mp named
  obtain rfl := (pure_eq_ok _ _).mp same
  rw [Record.ownId?, given]
  cases own with
  | none => exact .inr ⟨rfl, rfl⟩
  | some own => exact .inl rfl

/-- Two records at different places have different ids, when their own ids differ and do not look made. -/
theorem id_ne {left right : Sighting} (apart : left.path.text ≠ right.path.text)
    (distinct : ∀ id ∈ left.record.ownId?, ∀ other ∈ right.record.ownId?, id ≠ other)
    (onLeft : ∀ id ∈ left.record.ownId?, Record.looksMade id = false)
    (onRight : ∀ id ∈ right.record.ownId?, Record.looksMade id = false) {id : String} (named : left.id = .ok id) :
    right.id ≠ .ok id := by
  intro also
  rcases id_eq_ok named with own | ⟨-, rfl⟩
  · rcases id_eq_ok also with second | ⟨-, rfl⟩
    · exact distinct id own id second rfl
    · exact Bool.false_ne_true ((onLeft _ own).symm.trans (Record.looksMade_append _))
  · rcases id_eq_ok also with second | ⟨-, same⟩
    · exact Bool.false_ne_true ((onRight _ second).symm.trans (Record.looksMade_append _))
    · exact apart (String.append_right_inj _ |>.mp same)

/-- Records of which no two have the same id. -/
def HaveDistinctIds (sightings : List Sighting) : Prop :=
  (sightings.map (·.id)).Pairwise fun left right => ∀ id, left = .ok id → right ≠ .ok id

/-- The ids of records at different places are distinct, when their own ids are and do not look made. -/
theorem haveDistinctIds {sightings : List Sighting}
    (apart : sightings.Pairwise fun left right => left.path.text ≠ right.path.text)
    (distinct : (sightings.filterMap (·.record.ownId?)).Nodup)
    (unlike : ∀ id ∈ sightings.filterMap (·.record.ownId?), Record.looksMade id = false) :
    HaveDistinctIds sightings := by
  have own : ∀ sighting ∈ sightings, ∀ id ∈ sighting.record.ownId?, Record.looksMade id = false :=
    fun sighting member id given => unlike id (List.mem_filterMap.mpr ⟨sighting, member, given⟩)
  rw [List.Nodup, List.pairwise_filterMap] at distinct
  rw [HaveDistinctIds, List.pairwise_map]
  refine (apart.and distinct).imp_of_mem fun onLeft onRight facts id named => ?_
  exact id_ne facts.1 facts.2 (own _ onLeft) (own _ onRight) named

/-- The layers that count have distinct ids when the records in view have. -/
theorem nodup_ids_visualLayers {config : Config} {sightings : List Sighting} {layers : List Layer}
    (distinct : HaveDistinctIds sightings) (made : visualLayers config sightings = .ok layers) :
    (layers.map (·.id)).Nodup := by
  obtain ⟨all, each, kept⟩ := (bind_eq_ok _ _ _).mp made
  obtain rfl := (pure_eq_ok _ _).mp kept
  have same : all.map (fun layer => Except.ok layer.id) = sightings.map (·.id) :=
    map_of_mapM (fun sighting layer made => (id_eq_ok_of_layer made).symm) each
  rw [HaveDistinctIds, ← same, List.pairwise_map] at distinct
  rw [List.Nodup, List.pairwise_map]
  refine List.Pairwise.filter _ (distinct.imp fun differ same => ?_)
  exact differ _ rfl (congrArg _ same.symm)

end Sighting

namespace Document

/-- The ids that the records in view of a raw document give themselves. -/
def ownIds (config : Config) (raw : Json) : List String :=
  match roots raw with
  | .ok outlines => (reachedOfRoots config 0 outlines).filterMap (·.record.ownId?)
  | .error _ => []

/-- The screens of the first pass have distinct ids when the records in view have. -/
theorem nodup_ids_arrangeRoots {config : Config} {outlines : List Outline} {screens : List Node}
    (distinct : Sighting.HaveDistinctIds (reachedOfRoots config 0 outlines))
    (arranged : arrangeRoots config 0 outlines = .ok screens) : ((Forest.preorder screens).map (·.id)).Nodup := by
  have listed := preorder_arrangeRoots config 0 outlines
  rw [arranged] at listed
  exact Sighting.nodup_ids_visualLayers distinct listed.symm

/-- The second pass adds new ids alone, so that ids that were distinct stay so. -/
theorem nodup_ids_merge {config : Config} {screens : List Node} {sightings : List Sighting} {found : List Layer}
    (distinct : ((Forest.preorder screens).map (·.id)).Nodup)
    (reached : Fallback.candidates config ((Forest.preorder screens).map (·.id)) sightings = .ok found) :
    ((Forest.preorder (Fallback.merge config screens (found.mergeSort Fallback.readsBefore))).map (·.id)).Nodup := by
  obtain ⟨new, facts⟩ := Fallback.candidates_eq_ok reached
  have merged := (Fallback.preorder_merge_perm config screens (found.mergeSort Fallback.readsBefore)).map (·.id)
  rw [merged.nodup_iff, List.map_append, List.nodup_append]
  refine ⟨distinct, ((List.mergeSort_perm _ _).map _).nodup_iff.mpr new, fun id first other second same => ?_⟩
  obtain ⟨layer, member, rfl⟩ := List.mem_map.mp second
  exact (facts layer (List.mem_mergeSort.mp member)).1 (same ▸ first)

/--
When the ids that the records in view give themselves are distinct and none looks made from a place, the ids of the
design are distinct, also those that are made and those of the second pass.
-/
theorem nodup_ids_normalize {config : Config} {raw : Json} {design : Design}
    (built : normalize config raw = .ok design) (distinct : (ownIds config raw).Nodup)
    (unlike : ∀ id ∈ ownIds config raw, Record.looksMade id = false) : (design.layers.map (·.id)).Nodup := by
  obtain ⟨outlines, found, success, -⟩ := normalize_eq_ok built
  rw [ownIds, found] at distinct unlike
  have ids := Sighting.haveDistinctIds (pairwise_text_reachedOfRoots config outlines) distinct unlike
  obtain ⟨screens, truncations, arranged, -, result⟩ := designOf_eq_ok success
  have first := nodup_ids_arrangeRoots ids arranged
  split at result
  · obtain ⟨added, reached, -, rfl⟩ := result
    exact nodup_ids_merge first reached
  · obtain rfl := result
    exact first

/-- A page with an id on a canvas, on which a wrapper without size holds a text and a small box stands beside it. -/
def unnamed : Json :=
  .object [("children", .array [
    .object [("type", .string "CANVAS"), ("children", .array [
      .object [
        ("id", .string "page"),
        ("type", .string "FRAME"),
        ("absoluteBoundingBox", square 0 0 300),
        ("children", .array [
          .object [("children", .array [.object [("type", .string "TEXT"), ("characters", .string "Hello")]])],
          .object [("absoluteBoundingBox", square 10 10 5)]])]])],
    .object [("id", .int 3), ("characters", .string "Three")]])]

/-- Made ids of both passes stand beside given ones. -/
theorem nodup_ids_normalize_unnamed :
    ∃ design, normalize .standard unnamed = .ok design ∧
      design.layers.map (·.id) = ["page", "auto-0.0.0.0", "auto-0.0.1", "3"] ∧
        ownIds .standard unnamed = ["page", "3"] ∧ (design.layers.map (·.id)).Nodup := by
  obtain ⟨design, built, listed⟩ := exists_of_any (normalize .standard unnamed) (fun design =>
    design.layers.map (·.id) = ["page", "auto-0.0.0.0", "auto-0.0.1", "3"]) (by decide +kernel)
  have own : ownIds .standard unnamed = ["page", "3"] := by decide +kernel
  refine ⟨design, built, of_decide_eq_true listed, own, nodup_ids_normalize built ?_ ?_⟩
  · rw [own]
    decide
  · rw [own]
    decide +kernel

end Document

end Storyboard

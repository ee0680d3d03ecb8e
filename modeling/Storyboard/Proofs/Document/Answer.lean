/-
This file states when a raw document is answered: with a design that has a screen, or by a refusal of its shape or of a
document in which nothing is found. Only a whole number that is too large to be read, or too long to be written out,
prevents an answer.
-/

import Storyboard.Proofs.Document.Arrangement
import Storyboard.Proofs.Document.Supplement
import Storyboard.Proofs.Document.Traversal

namespace Storyboard

/-- The layers of records in view read the values of all these records. -/
theorem Sighting.visualLayers_reads {config : Config}
    (default : ∃ weight, config.defaultFontWeight.truncated = .ok weight) (sightings : List Sighting) :
    Reads (sightings.flatMap Sighting.measures) (visualLayers config sightings) :=
  (Reads.mapM fun sighting _ => sighting.layer_reads default).bind_ok _

/-- The search for candidates succeeds when the layers of all records in view can be made. -/
theorem Fallback.candidates_isOk {config : Config} {sightings : List Sighting}
    (made : ∀ sighting ∈ sightings, ∃ layer, sighting.layer config = .ok layer) (known : List String) :
    ∃ found, candidates config known sightings = .ok found := by
  induction sightings generalizing known with
  | nil => exact ⟨[], rfl⟩
  | cons sighting rest ih =>
      have later := ih fun other member => made other (by simp [member])
      obtain ⟨layer, drawn⟩ := made sighting (by simp)
      rw [candidates]
      refine bind_isOk ⟨layer.id, Sighting.id_eq_ok_of_layer drawn⟩ fun id _ => ?_
      split
      · exact later known
      · refine bind_isOk ⟨layer, drawn⟩ fun layer _ => ?_
        split
        · exact later known
        · exact bind_isOk (later _) fun others _ => ⟨_, rfl⟩

namespace Document

/-- The screens of the first pass hold the layers of the records in view that count. -/
theorem preorder_arrangeRoots (config : Config) (index : Nat) (outlines : List Outline) :
    Forest.preorder <$> arrangeRoots config index outlines =
      Sighting.visualLayers config (reachedOfRoots config index outlines) := by
  rw [arrangeRoots_eq, Sighting.preorder_nodes, preorder_viewOfRoots]

/-- The values that are used in the records of roots that come into view. -/
def measuresOfRoots (config : Config) (outlines : List Outline) : List Measure :=
  (reachedOfRoots config 0 outlines).flatMap Sighting.measures

/-- The layers of all records in view can be made when all values there can be used. -/
theorem layers_isOk {config : Config} (default : ∃ weight, config.defaultFontWeight.truncated = .ok weight)
    {outlines : List Outline} (readable : ∀ value ∈ measuresOfRoots config outlines, Measure.isReadable value) :
    ∀ sighting ∈ reachedOfRoots config 0 outlines, ∃ layer, sighting.layer config = .ok layer := by
  intro sighting member
  exact (sighting.layer_reads default).isOk fun value inside =>
    readable value (List.mem_flatMap.mpr ⟨sighting, member, inside⟩)

/-- The first pass uses the values of the records in view. -/
theorem arrangeRoots_reads {config : Config} (default : ∃ weight, config.defaultFontWeight.truncated = .ok weight)
    (outlines : List Outline) : Reads (measuresOfRoots config outlines) (arrangeRoots config 0 outlines) := by
  rw [← Reads.map_iff Forest.preorder, preorder_arrangeRoots]
  exact Sighting.visualLayers_reads default _

/-- The layers of all records in view can be made when the first pass succeeds. -/
theorem layers_isOk_of_arrangeRoots {config : Config} {outlines : List Outline} {screens : List Node}
    (arranged : arrangeRoots config 0 outlines = .ok screens) :
    ∀ sighting ∈ reachedOfRoots config 0 outlines, ∃ layer, sighting.layer config = .ok layer := by
  have listed := preorder_arrangeRoots config 0 outlines
  rw [arranged] at listed
  obtain ⟨layers, each, -⟩ := (bind_eq_ok _ _ _).mp listed.symm
  intro sighting member
  exact isOk_of_mapM each member

/-- The second pass writes out how many nodes were asked for, when it runs. -/
def askedMeasures (config : Config) (outlines : List Outline) : List Measure :=
  match arrangeRoots config 0 outlines with
  | .ok screens =>
      if (Number.whole (Forest.size screens)).less config.lowYieldThreshold then
        [.word config.lowYieldThreshold.json]
      else []
  | .error _ => []

/-- A design of roots uses the values of the records in view, and then what the second pass writes out. -/
theorem designOf_reads {config : Config} (default : ∃ weight, config.defaultFontWeight.truncated = .ok weight)
    (outlines : List Outline) :
    Reads (measuresOfRoots config outlines ++ askedMeasures config outlines) (designOf config outlines) := by
  refine (arrangeRoots_reads default outlines).bind fun screens arranged => ?_
  obtain ⟨truncations, reported⟩ := truncationsOfRoots_isOk arranged
  obtain ⟨found, reached⟩ := Fallback.candidates_isOk (layers_isOk_of_arrangeRoots arranged)
    ((Forest.preorder screens).map (·.id))
  rw [askedMeasures, arranged, reported]
  dsimp only [bind, Except.bind]
  split
  · rw [reached]
    exact (Json.written_reads _).bind_ok _
  · exact .ok _

/-- The values that are used for a design of a raw document. -/
def measures (config : Config) (raw : Json) : List Measure :=
  match roots raw with
  | .ok outlines => measuresOfRoots config outlines ++ askedMeasures config outlines
  | .error _ => []

/-- A raw document is answered by a design with a screen, or by one of the refusals that are meant for it. -/
def IsAnswered (outcome : Except DocumentFault Design) : Prop :=
  (∃ design, outcome = .ok design ∧ design.screens ≠ []) ∨ (∃ fault, outcome = .error (.shape fault)) ∨
    ∃ roots, outcome = .error (.nothingFound roots)

/-- A document whose values can be used is answered. -/
theorem isAnswered_normalize {config : Config} (default : ∃ weight, config.defaultFontWeight.truncated = .ok weight)
    {raw : Json} (readable : ∀ value ∈ measures config raw, Measure.isReadable value) :
    IsAnswered (normalize config raw) := by
  cases found : roots raw with
  | error fault => exact .inr (.inl ⟨fault, by simp [normalize, found, bind, Except.bind]⟩)
  | ok outlines =>
      rw [measures, found] at readable
      obtain ⟨design, made⟩ := (designOf_reads default outlines).isOk readable
      by_cases empty : design.screens = []
      · exact .inr (.inr ⟨outlines.length, by simp [normalize, found, made, bind, Except.bind, empty]⟩)
      · exact .inl ⟨design, by simp [normalize, found, made, bind, Except.bind, empty, pure, Except.pure], empty⟩

/-- A document in which some value cannot be used is refused for the first such value. -/
theorem normalize_eq_error {config : Config} (default : ∃ weight, config.defaultFontWeight.truncated = .ok weight)
    {raw : Json} {fault : NumberFault} (first : (measures config raw).findSome? Measure.fault? = some fault) :
    normalize config raw = .error (.number fault) := by
  cases found : roots raw with
  | error other => simp [measures, found] at first
  | ok outlines =>
      rw [measures, found] at first
      have failed := (designOf_reads default outlines).fails fault first
      simp [normalize, found, failed, bind, Except.bind]

/--
Under a whole default weight, a raw document is answered exactly when every value that is used can be: no whole number
that is read as a number is too large, and none that is written out has too many digits. Otherwise this is the fault.
-/
theorem normalize_isAnswered_iff {config : Config} {weight : Int} (whole : config.defaultFontWeight = .whole weight)
    (raw : Json) :
    (IsAnswered (normalize config raw) ↔ ∀ value ∈ measures config raw, Measure.isReadable value) ∧
      (¬IsAnswered (normalize config raw) →
        ∃ fault ∈ [NumberFault.tooLarge, .tooLong], normalize config raw = .error (.number fault)) := by
  have default : ∃ weight, config.defaultFontWeight.truncated = .ok weight := ⟨weight, by rw [whole]; rfl⟩
  cases first : (measures config raw).findSome? Measure.fault? with
  | none =>
      have readable := Reads.findSome?_eq_none_iff.mp first
      have answered := isAnswered_normalize default readable
      exact ⟨⟨fun _ => readable, fun _ => answered⟩, fun refused => absurd answered refused⟩
  | some fault =>
      have refused := normalize_eq_error default first
      refine ⟨⟨fun answered => ?_, fun readable => ?_⟩, fun _ => ⟨fault, Measure.fault_mem first, refused⟩⟩
      · rw [refused] at answered
        simp [IsAnswered] at answered
      · rw [Reads.findSome?_eq_none_iff.mpr readable] at first
        nomatch first

/-- A node in which hardly any field is of its kind. -/
def muddled : Json := .object [("children", .array [.object [
  ("id", .array []),
  ("type", .int 7),
  ("opacity", .string "wide"),
  ("absoluteBoundingBox", .object [("x", .object []), ("width", .double (.infinite false)), ("height", .bool true)]),
  ("fills", .array [
    .int 3,
    .object [("type", .string "SOLID"), ("color", .object [("r", .null), ("a", .double .nan)])]]),
  ("characters", .string "Hello"),
  ("style", .object [("fontSize", .string "-"), ("fontWeight", .double .nan)])]])]

/-- Fields of other kinds give way to defaults. -/
theorem normalize_muddled : Config.standard.defaultFontWeight = .whole 400 ∧
    (∀ value ∈ measures .standard muddled, Measure.isReadable value) ∧ IsAnswered (normalize .standard muddled) :=
  have readable : ∀ value ∈ measures .standard muddled, Measure.isReadable value :=
    List.all_eq_true.mp (by decide +kernel)
  ⟨rfl, readable, (normalize_isAnswered_iff rfl muddled).1.mpr readable⟩

/-- A node whose opacity is the whole number two to the power of 1024. -/
def oversized : Json := .object [("children", .array [.object [
  ("id", .string "dot"),
  ("opacity", .int (twoTo 1024))]])]

/-- A whole number past all finite binary64 numbers is a fault where a number is read. -/
theorem normalize_oversized :
    normalize .standard oversized = .error (.number .tooLarge) ∧ ¬IsAnswered (normalize .standard oversized) := by
  have fault : normalize .standard oversized = .error (.number .tooLarge) :=
    normalize_eq_error ⟨400, rfl⟩ (by decide +kernel)
  refine ⟨fault, fun answered => ?_⟩
  rw [fault] at answered
  simp [IsAnswered] at answered

/-- A whole number with one digit too many is a fault where it is written out as an id. -/
example : normalize .standard (.object [("children", .array [.object [("id", .int (tenTo 4300))]])]) =
    .error (.number .tooLong) :=
  normalize_eq_error ⟨400, rfl⟩ (by decide +kernel)

end Document

end Storyboard

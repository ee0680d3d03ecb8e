/-
This file views outlines without regard to where their records stand, and states that the screens of records with an id
of their own depend on nothing else.
-/

import Storyboard.Proofs.Document.Arrangement
import Storyboard.Proofs.Document.Supplement
import Storyboard.Proofs.Document.View

namespace Storyboard

/-- A field is found among those whose names pass a test when its own name does. -/
theorem Json.field_filter (keeps : String → Bool) {name : String} (kept : keeps name)
    (fields : List (String × Json)) : field (fields.filter (keeps ·.1)) name = field fields name := by
  rw [field, field]
  congr 1
  induction fields with
  | nil => rfl
  | cons entry rest ih =>
      obtain ⟨key, value⟩ := entry
      rw [List.filter_cons, List.lookup_cons]
      by_cases keeping : keeps key
      · rw [if_pos keeping, List.lookup_cons, ih]
      · have different : (name == key) = false := beq_eq_false_iff_ne.mpr fun same => keeping (same ▸ kept)
        rw [if_neg keeping, different]
        exact ih

namespace Record

/-- The names of the fields in which other records stand. -/
def holderNames : List String := ["children", "document"]

/-- A record without the fields in which other records stand. -/
def own (record : Record) : Record := ⟨record.fields.filter (·.1 ∉ holderNames)⟩

/-- Every other field is kept. -/
theorem get_own (record : Record) {name : String} (kept : name ∉ holderNames) :
    record.own.get name = record.get name :=
  Json.field_filter (fun key => key ∉ holderNames) (decide_eq_true kept) record.fields

variable (record : Record)

theorem isHidden_own : record.own.isHidden = record.isHidden := by
  rw [isHidden, isHidden, record.get_own (by decide)]

theorem role_own : record.own.role = record.role := by
  rw [role, role, isHidden_own, record.get_own (by decide)]

theorem id?_own : record.own.id? = record.id? := by
  rw [id?, id?, record.get_own (by decide)]

theorem text_own : record.own.text = record.text := by
  rw [text, text, record.get_own (by decide)]

theorem box_own : record.own.box = record.box := by
  rw [box, box, record.get_own (by decide), record.get_own (by decide)]

theorem layout_own : record.own.layout = record.layout := by
  simp (disch := decide) only [layout, box_own, get_own]

theorem styles_own (isText : Bool) (config : Config) :
    record.own.styles isText config = record.styles isText config := by
  simp (disch := decide) only [styles, strokeWeight, cornerRadius, textStyle, get_own]

/-- The layer of a record is made of its own fields. -/
theorem layer_own (type : NodeType) (id : String) (config : Config) :
    record.own.layer type id config = record.layer type id config := by
  simp (disch := decide) only [layer, text_own, layout_own, styles_own, name, isHidden_own, get_own]

end Record

namespace Sighting

/-- A record in view with its own fields, as if it stood on top. -/
def plain (sighting : Sighting) : Sighting :=
  { record := sighting.record.own, type := sighting.type, path := .ofIndex 0 }

/-- A record in view gives itself an id, which need not be one that can be written out. -/
def IsNamed (sighting : Sighting) : Prop := sighting.record.id? ≠ .ok none

instance (sighting : Sighting) : Decidable sighting.IsNamed :=
  inferInstanceAs (Decidable (sighting.record.id? ≠ .ok none))

theorem isNamed_plain {sighting : Sighting} : sighting.plain.IsNamed ↔ sighting.IsNamed := by
  rw [IsNamed, IsNamed, plain, Record.id?_own]

variable {sighting : Sighting} {config : Config}

theorem id_plain (named : sighting.IsNamed) : sighting.plain.id = sighting.id := by
  simp only [id, plain, Record.role_own, Record.idAt, Record.id?_own]
  cases given : sighting.record.id? with
  | error fault => rfl
  | ok own =>
      cases own with
      | none => exact absurd given named
      | some name => rfl

/-- The layer of a record with an id of its own does not depend on where it stands. -/
theorem layer_plain (named : sighting.IsNamed) : sighting.plain.layer config = sighting.layer config := by
  rw [layer, layer, id_plain named]
  simp only [plain, Record.layer_own]

theorem nodes_map_plain {view : Forest Sighting} (named : ∀ sighting ∈ Forest.preorder view, sighting.IsNamed) :
    nodes config (Forest.map plain view) = nodes config view := by
  have same : Forest.traverse (·.plain.layer config) view = Forest.traverse (·.layer config) view :=
    Forest.traverse_congr view fun sighting member => layer_plain (named sighting member)
  rw [nodes, nodes, Forest.traverse_map, ← same]
  rfl

end Sighting

namespace Fallback

theorem candidates_map_plain {config : Config} {sightings : List Sighting}
    (named : ∀ sighting ∈ sightings, sighting.IsNamed) (known : List String) :
    candidates config known (sightings.map Sighting.plain) = candidates config known sightings := by
  induction sightings generalizing known with
  | nil => rfl
  | cons sighting rest ih =>
      obtain ⟨top, later⟩ := List.forall_mem_cons.mp named
      simp only [List.map_cons, candidates, Sighting.id_plain top, Sighting.layer_plain top, ih later]

end Fallback

namespace Outline

mutual

/-- The view of an outline, of which only the own fields of the records are kept. -/
def plainView (config : Config) (depth : Nat) : Outline → Forest Sighting
  | .node record children =>
      match record.role with
      | .ignored => []
      | .container => plainViewFrom config depth children
      | .shown type =>
          [.node { record := record.own, type, path := .ofIndex 0 }
            (if config.opens type depth then plainViewFrom config (depth + 1) children else [])]
      | .unwritten => [.leaf { record := record.own, type := .group, path := .ofIndex 0 }]

/-- The view of outlines side by side, of which only the own fields of the records are kept. -/
def plainViewFrom (config : Config) (depth : Nat) : List Outline → Forest Sighting
  | [] => []
  | outline :: rest => plainView config depth outline ++ plainViewFrom config depth rest

end

mutual

theorem map_plain_view (config : Config) (path : Path) (depth : Nat) :
    ∀ outline : Outline, Forest.map Sighting.plain (outline.view config path depth) = outline.plainView config depth
  | .node record children => by
      rw [view, plainView]
      cases role : record.role with
      | ignored => rfl
      | container => exact map_plain_viewFrom config path depth 0 children
      | shown type =>
          by_cases opens : config.opens type depth
          · simp only [if_pos opens, Forest.map, Tree.map, map_plain_viewFrom config path (depth + 1) 0 children]
            rfl
          · simp only [if_neg opens, Forest.map, Tree.map]
            rfl
      | unwritten => rfl

theorem map_plain_viewFrom (config : Config) (path : Path) (depth index : Nat) :
    ∀ outlines : List Outline, Forest.map Sighting.plain (viewFrom config path depth index outlines) =
      plainViewFrom config depth outlines
  | [] => rfl
  | child :: rest => by
      rw [viewFrom, plainViewFrom, Forest.map_append, map_plain_view config (path.child index) depth child,
        map_plain_viewFrom config path depth (index + 1) rest]

end

theorem plainViewFrom_append (config : Config) (depth : Nat) (left right : List Outline) :
    plainViewFrom config depth (left ++ right) =
      plainViewFrom config depth left ++ plainViewFrom config depth right := by
  induction left with
  | nil => rfl
  | cons outline rest ih => rw [List.cons_append, plainViewFrom, plainViewFrom, ih, List.append_assoc]

/-- Outlines side by side that look the same at every depth, apart from where their records stand. -/
def Alike (left right : List Outline) : Prop :=
  ∀ config depth, plainViewFrom config depth left = plainViewFrom config depth right

namespace Alike

variable {left right : List Outline}

theorem refl (outlines : List Outline) : Alike outlines outlines := fun _ _ => rfl

theorem append {others ones : List Outline} (first : Alike left right) (second : Alike others ones) :
    Alike (left ++ others) (right ++ ones) := by
  intro config depth
  rw [plainViewFrom_append, plainViewFrom_append, first, second]

/-- A container looks like what it holds. -/
theorem container {record : Record} (role : record.role = .container) (children : List Outline) :
    Alike children [.node record children] := by
  intro config depth
  rw [plainViewFrom, plainView, role, plainViewFrom, List.append_nil]

/-- Records with the same own fields look alike when what stands below them does. -/
theorem node {record other : Record} (same : record.own = other.own) (below : Alike left right) :
    Alike [.node record left] [.node other right] := by
  intro config depth
  have role : record.role = other.role := by rw [← record.role_own, same, other.role_own]
  simp only [plainViewFrom, plainView, role, same, below config]

end Alike

end Outline

/-- A fault without the number of roots below which nothing was found. -/
def DocumentFault.uncounted : DocumentFault → DocumentFault
  | .nothingFound _ => .nothingFound 0
  | fault => fault

namespace Document

open Sighting

theorem map_plain_viewOfRoots (config : Config) (index : Nat) (outlines : List Outline) :
    Forest.map plain (viewOfRoots config index outlines) = Outline.plainViewFrom config 0 outlines := by
  induction outlines generalizing index with
  | nil => rfl
  | cons root rest ih =>
      rw [viewOfRoots, Outline.plainViewFrom, Forest.map_append, Outline.map_plain_view, ih (index + 1)]

variable {config : Config} {outlines others : List Outline}

/-- The screens that both passes make of the records in view. -/
def screensOf (config : Config) (view : Forest Sighting) : Except NumberFault (List Node) := do
  let screens ← nodes config view
  if (Number.whole (Forest.size screens)).less config.lowYieldThreshold then
    let known := (Forest.preorder screens).map (·.id)
    let found ← Fallback.candidates config known (Forest.preorder view)
    let _ ← config.lowYieldThreshold.json.written
    return Fallback.merge config screens (found.mergeSort Fallback.readsBefore)
  else return screens

/-- The screens of a design are made of the records in view. -/
theorem screens_designOf (config : Config) (outlines : List Outline) :
    (·.screens) <$> designOf config outlines = screensOf config (viewOfRoots config 0 outlines) := by
  rw [designOf, screensOf, ← arrangeRoots_eq, preorder_viewOfRoots]
  cases arranged : arrangeRoots config 0 outlines with
  | error fault => rfl
  | ok screens =>
      obtain ⟨truncations, found⟩ := truncationsOfRoots_isOk arranged
      rw [found]
      dsimp only [bind, Except.bind]
      split
      · cases Fallback.candidates config ((Forest.preorder screens).map (·.id)) (reachedOfRoots config 0 outlines) with
        | error fault => rfl
        | ok found => cases config.lowYieldThreshold.json.written <;> rfl
      · rfl

/-- Where records stand makes no difference to the screens when all records in view give themselves an id. -/
theorem screensOf_map_plain {view : Forest Sighting} (named : ∀ sighting ∈ Forest.preorder view, sighting.IsNamed) :
    screensOf config (Forest.map plain view) = screensOf config view := by
  simp only [screensOf, nodes_map_plain named, Forest.preorder_map, Fallback.candidates_map_plain named]

/-- Roots that look like roots in which all records in view give themselves an id are of the same kind. -/
theorem isNamed_of_alike (alike : Outline.Alike outlines others)
    (named : ∀ sighting ∈ reachedOfRoots config 0 outlines, sighting.IsNamed) :
    ∀ sighting ∈ reachedOfRoots config 0 others, sighting.IsNamed := by
  intro sighting member
  have same : (reachedOfRoots config 0 others).map plain = (reachedOfRoots config 0 outlines).map plain := by
    simp only [← preorder_viewOfRoots, ← Forest.preorder_map, map_plain_viewOfRoots, alike config 0]
  obtain ⟨other, inside, equal⟩ := List.mem_map.mp (same ▸ List.mem_map_of_mem member)
  rw [← isNamed_plain, ← equal, isNamed_plain]
  exact named other inside

/-- Roots that look alike give the same screens when all records in view give themselves an id. -/
theorem screens_designOf_of_alike (alike : Outline.Alike outlines others)
    (named : ∀ sighting ∈ reachedOfRoots config 0 outlines, sighting.IsNamed) :
    (·.screens) <$> designOf config others = (·.screens) <$> designOf config outlines := by
  have also := isNamed_of_alike alike named
  rw [← preorder_viewOfRoots] at named also
  rw [screens_designOf, screens_designOf, ← screensOf_map_plain named, ← screensOf_map_plain also,
    map_plain_viewOfRoots, map_plain_viewOfRoots, alike config 0]

/-- What comes of a raw document: its screens, or why it has none, apart from the number of its roots. -/
def outcome (config : Config) (raw : Json) : Except DocumentFault (List Node) :=
  ((·.screens) <$> normalize config raw).mapError DocumentFault.uncounted

/-- The screens of roots are what comes of a document, unless there are none. -/
def outcomeOf (screens : Except NumberFault (List Node)) : Except DocumentFault (List Node) := do
  let screens ← screens.mapError .number
  if screens.isEmpty then .error (.nothingFound 0)
  else return screens

/-- What comes of a document depends on its roots. -/
theorem outcome_eq (config : Config) (raw : Json) :
    outcome config raw = (do
      let outlines ← (roots raw).mapError .shape
      outcomeOf ((·.screens) <$> designOf config outlines)) := by
  rw [outcome, normalize]
  cases roots raw with
  | error fault => rfl
  | ok outlines =>
      cases made : designOf config outlines with
      | error fault => simp [made, outcomeOf, bind, Except.bind, DocumentFault.uncounted]
      | ok design =>
          by_cases empty : design.screens = []
          · simp [made, outcomeOf, bind, Except.bind, empty, DocumentFault.uncounted]
          · simp [made, outcomeOf, bind, Except.bind, empty, pure, Except.pure]

end Document

end Storyboard

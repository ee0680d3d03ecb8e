/-
This file reads layouts, classifications and changes of layers from values that are given by name.
-/

import Storyboard.Design.Edit

namespace Storyboard

/-- A number as it is given, where a flag counts as zero or one. -/
def Number.ofJson? : Json → Option Number
  | .int value => some (.whole value)
  | .double value => some (.double value)
  | .bool value => some (if value then .one else .zero)
  | _ => none

/-- All names that are needed are given, and no others than those and the optional ones. -/
def areNamesFit (needed optional : List String) (fields : List (String × Json)) : Bool :=
  needed.all (fun name => fields.any (·.1 = name)) && fields.all (fun field => field.1 ∈ needed ++ optional)

/-- The layout that is given by name. Only its turn and its fading may be left out. -/
def Layout.ofFields? (fields : List (String × Json)) : Option Layout := do
  if !areNamesFit ["x", "y", "width", "height"] ["rotation", "opacity"] fields then none
  else
    let number := fun name => Number.ofJson? (Json.field fields name)
    let numberOr := fun name default => (fields.lookup name).elim (some default) Number.ofJson?
    return {
      x := ← number "x"
      y := ← number "y"
      width := ← number "width"
      height := ← number "height"
      rotation := ← numberOr "rotation" (.double .zero)
      opacity := ← numberOr "opacity" (.double .one) }

/-- The classification that is given by name. Only its slug and its rule may be left out. -/
def Classification.ofFields? (fields : List (String × Json)) : Option Classification := do
  if !areNamesFit ["category", "props"] ["import_slug", "rule"] fields then none
  else
    let slug := Json.field fields "import_slug"
    return {
      category := ← (Json.field fields "category").string?
      props := ← (Json.field fields "props").fields?
      importSlug? := ← if slug.isNull then some none else some <$> slug.string?
      rule := ← (fields.lookup "rule").elim (some "default") Json.string? }

namespace LayerChange

/-- The change to a named part of a layer, if the value fits it. -/
def ofField? (name : String) (value : Json) : Option LayerChange :=
  match name with
  | "name" => value.string?.map .name
  | "visible" => some (.visible !value.isAbsent)
  | "layout" => (value.fields?.bind Layout.ofFields?).map .layout
  | "text" => value.string?.map .text
  | _ =>
      if value.isNull then some (.classification none)
      else (value.fields?.bind Classification.ofFields?).map fun given => .classification (some given)

/-- The parts of a layer that can be changed, in the order in which changes are made. -/
def partNames : List String := ["name", "visible", "layout", "text", "classification"]

/-- The changes that are given by name, none for a value that does not fit. -/
def ofFields (fields : List (String × Json)) : List (Option LayerChange) :=
  partNames.filterMap fun name => (fields.lookup name).map (ofField? name)

end LayerChange

end Storyboard

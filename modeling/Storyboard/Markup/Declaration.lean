/-
This file defines the style declarations of layers and screens.
-/

import Storyboard.Design.Layer
import Storyboard.Markup.Escape
import Storyboard.Text.Case

namespace Storyboard

/-- A declaration gives a property a value. -/
structure Declaration where
  property : String
  value : String
  deriving DecidableEq, Repr, Inhabited

/-- A point from which places are counted. -/
structure Origin where
  x : Number
  y : Number
  deriving DecidableEq

namespace Origin

/-- The origin of a screen. -/
def zero : Origin := ⟨.double .zero, .double .zero⟩

/-- The corner of a layout. -/
def ofLayout (layout : Layout) : Origin := ⟨layout.x, layout.y⟩

end Origin

namespace Declaration

def pixels (value : Number) : String := value.styleText ++ "px"

/-- Characters that would end a quoted font family or its declaration. -/
def isFontBreaking (character : Char) : Bool :=
  character ∈ [';', '\'', '"', '\x7b', '\x7d', '<', '>', '\\']

/-- A font family between quotes, or a general one when nothing is left of it. -/
def fontFamily (family : String) : String :=
  let kept := Text.trimBy Text.isBlank (family.toList.filter (!isFontBreaking ·))
  if kept.isEmpty then "sans-serif" else String.ofList ('\'' :: kept ++ ['\''])

def ofTextStyle (style : TextStyle) : List Declaration :=
  [⟨"font-family", fontFamily style.fontFamily⟩,
    ⟨"font-size", pixels style.fontSize⟩,
    ⟨"font-weight", style.fontWeight.plainText⟩,
    ⟨"text-align", style.textAlign⟩] ++
  (if style.letterSpacing.same .zero then [] else
    [⟨"letter-spacing", pixels (.double style.letterSpacing)⟩]) ++
  [⟨"white-space", "pre-wrap"⟩]

/-- The declarations of a turned or faded layout. -/
def ofEffects (layout : Layout) : List Declaration :=
  (if layout.rotation.same .zero then [] else
    [⟨"transform", "rotate(" ++ layout.rotation.styleText ++ "deg)"⟩]) ++
  (if layout.opacity.same .one then [] else [⟨"opacity", layout.opacity.styleText⟩])

/-- The declarations of paints and corners. The fill of text is its colour. -/
def ofPaints (type : NodeType) (styles : Styles) : List Declaration :=
  (match styles.fill? with
    | some fill => [⟨if type = .text then "color" else "background-color", fill.css⟩]
    | none => []) ++
  (match styles.stroke? with
    | some stroke => [⟨"border", pixels (.double stroke.weight) ++ " solid " ++ stroke.css⟩]
    | none => []) ++
  (if Double.zero.less styles.cornerRadius then
    [⟨"border-radius", pixels (.double styles.cornerRadius)⟩] else [])

/-- The declarations of a layer, which is placed from an origin. -/
def ofLayer (layer : Layer) (origin : Origin) : List Declaration :=
  [⟨"position", "absolute"⟩,
    ⟨"left", pixels (layer.layout.x.subtract origin.x)⟩,
    ⟨"top", pixels (layer.layout.y.subtract origin.y)⟩,
    ⟨"width", pixels layer.layout.width⟩,
    ⟨"height", pixels layer.layout.height⟩] ++
  ofEffects layer.layout ++ ofPaints layer.type layer.styles ++
  (match layer.styles.textStyle? with
    | some style => ofTextStyle style
    | none => [])

/-- The declarations of a screen, which holds places from its own corner. -/
def ofScreen (screen : Layer) : List Declaration :=
  [⟨"position", "relative"⟩,
    ⟨"width", pixels screen.layout.width⟩,
    ⟨"height", pixels screen.layout.height⟩] ++
  (match screen.styles.fill? with
    | some fill => if screen.type = .text then [] else [⟨"background-color", fill.css⟩]
    | none => [])

/-- Every number in the declarations of a layer can be written. -/
def areWritable (layer : Layer) (origin : Origin) : Bool :=
  let layout := layer.layout
  layout.x.canMeet origin.x && layout.y.canMeet origin.y &&
    [layout.x.subtract origin.x, layout.y.subtract origin.y, layout.width, layout.height,
      layout.rotation, layout.opacity].all (·.hasCounterpart) &&
    layer.styles.textStyle?.all (·.fontSize.hasCounterpart)

/-- Every number in the declarations of a screen can be written. -/
def areScreenWritable (screen : Layer) : Bool :=
  screen.layout.width.hasCounterpart && screen.layout.height.hasCounterpart

/-- A declaration as a property with any value. -/
def entry (declaration : Declaration) : String × Json := (declaration.property, .string declaration.value)

/-- Properties with their values on one line. -/
def entriesText (entries : List (String × Json)) : String :=
  "; ".intercalate (entries.map fun (property, value) => property ++ ":" ++ value.plainText)

/-- Declarations on one line. -/
def listText (declarations : List Declaration) : String := entriesText (declarations.map entry)

/-- Splits at every hyphen. -/
def splitHyphens : List Char → List (List Char)
  | [] => [[]]
  | character :: rest =>
      match splitHyphens rest with
      | [] => [[character]]
      | part :: parts => if character = '-' then [] :: part :: parts else (character :: part) :: parts

/-- A property name as a script identifier, where each hyphen gives way to a capital. -/
def scriptName (property : String) : String :=
  match splitHyphens property.toList with
  | [] => ""
  | first :: parts => String.ofList (first ++ parts.flatMap Text.capitalize)

/-- Properties with their values as an attribute. -/
def plainEntries (entries : List (String × Json)) : String :=
  Markup.plainAttribute "style" (.string (entriesText entries))

/-- Properties with their values as an object literal. -/
def objectText (entries : List (String × Json)) : String :=
  let written := entries.map fun (property, value) => scriptName property ++ ": " ++ value.compact
  "\x7b " ++ ", ".intercalate written ++ " \x7d"

/-- Properties with their values as a script attribute. -/
def scriptEntries (entries : List (String × Json)) : String :=
  "style=\x7b" ++ objectText entries ++ "\x7d"

/-- Declarations as the value of an attribute. -/
def plainAttribute (declarations : List Declaration) : String := plainEntries (declarations.map entry)

/-- Declarations as a script attribute. -/
def scriptAttribute (declarations : List Declaration) : String := scriptEntries (declarations.map entry)

end Declaration

end Storyboard

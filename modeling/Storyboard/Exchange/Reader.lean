/-
This file reads designs from their exchange form and collects the issues of malformed ones.
-/

import Storyboard.Exchange.Form
import Storyboard.Schema.Scalar

namespace Storyboard.Exchange

open Schema

def channelMax : Nat := 255

/-- Bounds of sizes and weights. -/
def sizeBounds : Bounds := { atLeast? := some 0 }

/-- Bounds of opacities. -/
def unitBounds : Bounds := { atLeast? := some 0, atMost? := some 1 }

def channelBounds : Bounds := { atLeast? := some 0, atMost? := some channelMax }

def fontBounds : Bounds := { above? := some 0 }

/-- A number that may be missing. -/
def numberOr (fields : List (String × Json)) (name : FieldName) (default : Double) (bounds : Bounds) :
    Checked Number :=
  .double <$> fieldOr fields name default (doubleWithin bounds)

def layoutOf (fields : List (String × Json)) : Checked Layout :=
  (fun x y width height rotation opacity => { x, y, width, height, rotation, opacity }) <$>
    numberOr fields (.single "x") .zero {} <*>
    numberOr fields (.single "y") .zero {} <*>
    numberOr fields (.single "width") .zero sizeBounds <*>
    numberOr fields (.single "height") .zero sizeBounds <*>
    numberOr fields (.single "rotation") .zero {} <*>
    numberOr fields (.single "opacity") .one unitBounds

def channelOf (fields : List (String × Json)) (name : String) : Checked Nat :=
  Int.toNat <$> required fields (.single name) (wholeWithin channelBounds)

def paintOf (fields : List (String × Json)) : Checked PaintForm :=
  PaintForm.mk <$>
    channelOf fields "r" <*>
    channelOf fields "g" <*>
    channelOf fields "b" <*>
    fieldOr fields (.single "alpha") .one (doubleWithin unitBounds) <*>
    fieldOr fields (.single "css") none (optional text) <*>
    fieldOr fields (.single "weight") .zero (doubleWithin sizeBounds)

def textStyleOf (fields : List (String × Json)) : Checked TextStyleForm :=
  TextStyleForm.mk <$>
    fieldOr fields ⟨"fontFamily", "font_family"⟩ none (optional text) <*>
    fieldOr fields ⟨"fontSize", "font_size"⟩ none (optional (doubleWithin fontBounds)) <*>
    fieldOr fields ⟨"fontWeight", "font_weight"⟩ none (optional (wholeWithin fontBounds)) <*>
    fieldOr fields ⟨"textAlign", "text_align"⟩ "left" text <*>
    fieldOr fields ⟨"letterSpacing", "letter_spacing"⟩ .zero double

def stylesOf (fields : List (String × Json)) : Checked StylesForm :=
  StylesForm.mk <$>
    fieldOr fields (.single "fills") [] (list (model "PaintModel" paintOf)) <*>
    fieldOr fields (.single "strokes") [] (list (model "PaintModel" paintOf)) <*>
    fieldOr fields ⟨"cornerRadius", "corner_radius"⟩ .zero (doubleWithin sizeBounds) <*>
    fieldOr fields ⟨"textStyle", "text_style"⟩ none (optional (model "TextStyleModel" textStyleOf))

def contentOf (fields : List (String × Json)) : Checked Content :=
  Content.mk <$>
    fieldOr fields ⟨"textContent", "text_content"⟩ "" text <*>
    fieldOr fields ⟨"hasImage", "has_image"⟩ false flag <*>
    fieldOr fields ⟨"isComponent", "is_component"⟩ false flag

/-- An object with any fields. -/
def anyObject : Json → Checked (List (String × Json))
  | .object fields => .valid fields
  | value => .fail .notObject value

def classificationOf (fields : List (String × Json)) : Checked Classification :=
  Classification.mk <$>
    required fields (.single "category") text <*>
    fieldOr fields (.single "props") [] anyObject <*>
    fieldOr fields ⟨"importSlug", "import_slug"⟩ none (optional text) <*>
    fieldOr fields (.single "rule") "default" text

def typeOf (value : Json) : Checked NodeType :=
  match value.string?.bind NodeType.ofWord? with
  | some type => .valid type
  | none => .fail .unknownType value

/-- The first depth at which nodes are no longer checked. Screens have depth zero. -/
def depthBound : Nat := 254

mutual

/-- A node at a depth with its children. -/
def nodeOf (depth : Nat) : Json → Checked (Tree LayerForm)
  | .object fields =>
      if depthBound ≤ depth then .fail .tooDeep (.object fields)
      else
        (fun id type name visible layout styles content children classification? =>
          Tree.node { id, type, name, visible, layout, styles, content, classification? } children) <$>
          required fields (.single "id") (textOfAtLeast 1) <*>
          required fields (.single "type") typeOf <*>
          fieldOr fields (.single "name") "" text <*>
          fieldOr fields (.single "visible") true flag <*>
          fieldOr fields (.single "layout") .empty (model "LayoutModel" layoutOf) <*>
          fieldOr fields (.single "styles") {} (model "StylesModel" stylesOf) <*>
          fieldOr fields (.single "metadata") {} (model "MetadataModel" contentOf) <*>
          childrenOf (depth + 1) fields <*>
          fieldOr fields (.single "classification") none
            (optional (model "ClassificationModel" classificationOf))
  | value => if depthBound ≤ depth then .fail .tooDeep value else .fail (.notModel "ASTNodeModel") value

def childrenOf (depth : Nat) : List (String × Json) → Checked (List (Tree LayerForm))
  | [] => .valid []
  | (name, value) :: rest =>
      if name = "children" then (nodeListOf depth value).under (.field "children")
      else childrenOf depth rest

def nodeListOf (depth : Nat) : Json → Checked (List (Tree LayerForm))
  | .array items => nodesFrom depth 0 items
  | value => .fail .notList value

/-- Nodes from a position on. -/
def nodesFrom (depth position : Nat) : List Json → Checked (List (Tree LayerForm))
  | [] => .valid []
  | item :: rest =>
      (· :: ·) <$> (nodeOf depth item).under (.index position) <*> nodesFrom depth (position + 1) rest

end

def pageOf (fields : List (String × Json)) : Checked (List (Tree LayerForm)) :=
  required fields (.single "screens") (nodeListOf 0)

/-- A page is an object with a list of screens. -/
def isPage (value : Json) : Bool :=
  match value with
  | .object fields => (Json.field fields "screens").items?.isSome
  | _ => false

/-- The exchange form of a design is a page, or a list of pages that is not empty. -/
def isExchangeForm (value : Json) : Bool :=
  match value with
  | .array pages => !pages.isEmpty && pages.all isPage
  | page => isPage page

/-- The pages of a value, where a single page counts as a list of one. -/
def pagesOf : Json → List Json
  | .array pages => pages
  | page => [page]

def screensOf (value : Json) : Checked (List (Tree LayerForm)) :=
  List.flatten <$> Checked.eachFrom (model "ASTPageModel" pageOf) 0 (pagesOf value)

def read (config : Config) (value : Json) : Except (List Issue) Design :=
  ((screensOf value).map (Design.ofForms config)).toExcept

end Storyboard.Exchange

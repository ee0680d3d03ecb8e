/-
This file turns nodes into elements of markup and writes them in lines.
-/

import Storyboard.Classify.Rule
import Storyboard.Design.Node
import Storyboard.Export.Format
import Storyboard.Export.Options

namespace Storyboard

/-- What an element holds apart from its children. -/
structure Element where
  tag : String
  nodeId : String
  classes : List String
  style : List Declaration
  text? : Option String
  props : List (String × Json)

namespace Element

/-- A character that a class name may hold. -/
def isClassCharacter (character : Char) : Bool :=
  character.isAlphanum || character = '_' || character = '-'

/-- Each longest run of other characters becomes a hyphen. -/
def hyphenate : (afterOther : Bool) → List Char → List Char
  | _, [] => []
  | afterOther, character :: rest =>
      if isClassCharacter character then character :: hyphenate false rest
      else if afterOther then hyphenate true rest
      else '-' :: hyphenate true rest

/-- The class that stands for a node. -/
def className (nodeId : String) : String :=
  let kept := Text.trimBy (· = '-') (hyphenate false nodeId.toList)
  "node-" ++ (if kept.isEmpty then "x" else String.ofList kept)

/-- The class of elements in place of an image. -/
def imageClass : String := "image-placeholder"

def classesOf (options : ExportOptions) (layer : Layer) : List String :=
  ["node", className layer.id] ++
    (if options.includeImages && layer.content.hasImage then [imageClass] else [])

/-- A layer becomes a component when the format binds components and its category can be imported. -/
def isBound (format : Format) (layer : Layer) : Bool :=
  format.bindsComponents && layer.classification.isDesignSystem

def tagOf (format : Format) (layer : Layer) : String :=
  if isBound format layer then layer.classification.category
  else if layer.type = .text then "p" else "div"

/-- The text of a layer. A component without text and children shows the text of its properties. -/
def textOf? (format : Format) (layer : Layer) (hasChildren : Bool) : Option String :=
  if layer.content.hasText then some layer.content.text
  else if isBound format layer && !hasChildren then
    (layer.classification.props.lookup "children").map Json.plainText
  else none

/-- The properties of a component, apart from the one for its children. -/
def propsOf (format : Format) (layer : Layer) : List (String × Json) :=
  if isBound format layer then layer.classification.props.filter (·.1 ≠ "children") else []

def ofLayer (format : Format) (options : ExportOptions) (origin : Origin) (layer : Layer) (hasChildren : Bool) :
    Element where
  tag := tagOf format layer
  nodeId := layer.id
  classes := classesOf options layer
  style := Declaration.ofLayer layer origin
  text? := textOf? format layer hasChildren
  props := propsOf format layer

/-- The origin for the children of a layer. -/
def childOrigin (format : Format) (origin : Origin) (layer : Layer) : Origin :=
  if layer.classification.category ∈ format.rebasedCategories then .ofLayout layer.layout else origin

end Element

mutual

/-- The element of a node with the elements of its visible children. -/
def Node.element (format : Format) (options : ExportOptions) (origin : Origin) : Tree Layer → Tree Element
  | .node layer children =>
      let below := Node.elements format options (Element.childOrigin format origin layer) children
      .node (Element.ofLayer format options origin layer (!below.isEmpty)) below

/-- The elements of the visible nodes. -/
def Node.elements (format : Format) (options : ExportOptions) (origin : Origin) :
    List (Tree Layer) → List (Tree Element)
  | [] => []
  | node :: rest =>
      if node.value.visible then
        Node.element format options origin node :: Node.elements format options origin rest
      else Node.elements format options origin rest

end

mutual

/-- Every number in the element of a node, and in those below it, can be written. -/
def Node.isDrawable (format : Format) (origin : Origin) : Tree Layer → Bool
  | .node layer children =>
      Declaration.areWritable layer origin &&
        Node.areDrawable format (Element.childOrigin format origin layer) children

/-- Every number in the elements of the visible nodes can be written. -/
def Node.areDrawable (format : Format) (origin : Origin) : List (Tree Layer) → Bool
  | [] => true
  | node :: rest =>
      (!node.value.visible || Node.isDrawable format origin node) && Node.areDrawable format origin rest

end

namespace Element

def attributes (format : Format) (element : Element) : List String :=
  let dialect := format.dialect
  [dialect.writeAttribute dialect.classAttribute (.string (" ".intercalate element.classes)),
    dialect.writeAttribute "data-node-id" (.string element.nodeId),
    dialect.writeStyle element.style] ++
  element.props.map (fun (name, value) => dialect.writeAttribute name value) ++
  (if element.text?.isSome then format.textMarker?.toList else [])

def startTag (format : Format) (element : Element) : String :=
  "<" ++ element.tag ++ " " ++ " ".intercalate (attributes format element) ++ ">"

def endTag (element : Element) : String := "</" ++ element.tag ++ ">"

/-- Two spaces set a line below the one before. -/
def indent (line : String) : String := "  " ++ line

end Element

mutual

/-- The lines of an element. Without children it takes one line. -/
def Element.lines (format : Format) : Tree Element → List String
  | .node element children =>
      let text := element.text?.map format.dialect.writeText
      if children.isEmpty then
        [Element.startTag format element ++ text.getD "" ++ Element.endTag element]
      else
        Element.startTag format element ::
          (text.toList ++ Element.allLines format children).map Element.indent ++
            [Element.endTag element]

/-- The lines of several elements. -/
def Element.allLines (format : Format) : List (Tree Element) → List String
  | [] => []
  | element :: rest => Element.lines format element ++ Element.allLines format rest

end

end Storyboard

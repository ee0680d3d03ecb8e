/-
This file states that the lines of elements are read back as these elements, however deep they are set.
-/

import Storyboard.Markup.Element
import Storyboard.Proofs.Markup.Nesting
import Storyboard.Proofs.Markup.Pieces

namespace Storyboard

open Markup

namespace Element

/-- The style of an element as it is read back. -/
def styleValue (dialect : Dialect) (style : List Declaration) : Value :=
  match dialect with
  | .markup => .plain (.string (Declaration.listText style))
  | .script => .entries (style.map Declaration.scriptEntry)

/-- An element as it is read back: its tag, its attributes in order, and its text. -/
def asTag (format : Format) (element : Element) : Tag where
  name := element.tag
  attributes :=
    [(format.dialect.classAttribute, .plain (.string (" ".intercalate element.classes))),
      ("data-node-id", .plain (.string element.nodeId)),
      ("style", styleValue format.dialect element.style)] ++
    element.props.map (fun prop => (prop.1, .plain prop.2)) ++
    (if element.text?.isSome then format.textMarker?.toList.map (·, .bare) else [])
  text? := element.text?.map (heard format.dialect)

/--
An element has a proper name, and so have its properties and the script names of its style. Only a script has
properties, and blank text is no text in plain markup.
-/
structure IsLegible (format : Format) (element : Element) : Prop where
  tag : isName element.tag
  props : ∀ prop ∈ element.props, format.dialect = .script ∧ isName prop.1 ∧ IsLiteral prop.2
  styled : element.style ≠ []
  style : ∀ declaration ∈ element.style, isName declaration.scriptEntry.1
  text : format.dialect = .markup → ∀ text ∈ element.text?, Text.isFilled text

variable {format : Format} {element : Element}

/-- The attribute of a text without its value is read back. -/
theorem writes_string (dialect : Dialect) {name : String} (named : isName name) (text : String) :
    Writes dialect (dialect.writeAttribute name (.string text)) (name, .plain (.string text)) := by
  cases dialect with
  | markup => exact writes_plainAttribute named text
  | script => exact writes_scriptAttribute named (isLiteral_string text)

/-- The style of an element is read back. -/
theorem writes_style (dialect : Dialect) {style : List Declaration} (styled : style ≠ [])
    (named : ∀ declaration ∈ style, isName declaration.scriptEntry.1) :
    Writes dialect (dialect.writeStyle style) ("style", styleValue dialect style) := by
  cases dialect with
  | markup => exact writes_plainAttribute (by decide) (Declaration.listText style)
  | script => exact writes_scriptStyle styled named

/-- The properties of a component are read back. -/
theorem writes_props {dialect : Dialect} {props : List (String × Json)}
    (legible : ∀ prop ∈ props, dialect = .script ∧ isName prop.1 ∧ IsLiteral prop.2) :
    List.Forall₂ (Writes dialect) (props.map fun (name, value) => dialect.writeAttribute name value)
      (props.map fun prop => (prop.1, .plain prop.2)) := by
  rw [List.forall₂_map_left_iff, List.forall₂_map_right_iff, List.forall₂_same]
  intro prop member
  obtain ⟨rfl, named, literal⟩ := legible prop member
  exact writes_scriptAttribute named literal

/-- The marker of literal text is read back. -/
theorem writes_marker (format : Format) (marked : Bool) :
    List.Forall₂ (Writes format.dialect) (if marked then format.textMarker?.toList else [])
      (if marked then format.textMarker?.toList.map (·, .bare) else []) := by
  cases marked with
  | false => exact .nil
  | true =>
      cases format with
      | vue => exact .cons (writes_bare (by decide)) .nil
      | _ => exact .nil

/-- The attributes of a legible element are read back. -/
theorem writes_attributes (legible : IsLegible format element) :
    List.Forall₂ (Writes format.dialect) (attributes format element) (asTag format element).attributes := by
  have named : isName format.dialect.classAttribute := by cases format <;> decide
  have onClasses := writes_string format.dialect named (" ".intercalate element.classes)
  have onId := writes_string format.dialect (show isName "data-node-id" by decide) element.nodeId
  have onStyle := writes_style format.dialect legible.styled legible.style
  have base := List.Forall₂.cons onClasses (.cons onId (.cons onStyle .nil))
  exact List.rel_append (List.rel_append base (writes_props legible.props)) (writes_marker format _)

/-- A start tag is read back as a token. -/
theorem repeatedly_startTag (legible : IsLegible format element) (rest : List Char) :
    repeatedly (readToken? format.dialect) ((startTag format element).toList ++ rest) =
      ahead [.start element.tag (asTag format element).attributes] (repeatedly (readToken? format.dialect) rest) := by
  have written := writes_attributes legible
  cases texts : attributes format element with
  | nil => simp [attributes] at texts
  | cons text others =>
      rw [texts] at written
      have spelled : (startTag format element).toList ++ rest = '<' :: (element.tag.toList ++
          ((text :: others).flatMap (fun text => ' ' :: text.toList) ++ '>' :: rest)) := by
        rw [startTag, texts]
        simp [String.toList_intercalate, intercalate_cons, List.flatMap_map]
      rw [spelled]
      refine repeatedly_item (ends_cons (by decide) _) (readToken?_start legible.tag written rest) ?_
      simp only [List.length_cons, List.length_append]
      omega

/-- An end tag is read back as a token. -/
theorem repeatedly_endTag {element : Element} (named : isName element.tag) (dialect : Dialect) (rest : List Char) :
    repeatedly (readToken? dialect) ((endTag element).toList ++ rest) =
      ahead [.stop element.tag] (repeatedly (readToken? dialect) rest) := by
  have spelled : (endTag element).toList ++ rest = '<' :: '/' :: (element.tag.toList ++ '>' :: rest) := by
    simp [endTag]
  rw [spelled]
  refine repeatedly_item (ends_cons (by decide) _) (readToken?_stop dialect named rest) ?_
  simp only [List.length_cons, List.length_append]
  omega

/-- The text of an element, if it has some, is read back as a token before the next tag. -/
theorem repeatedly_text? (legible : IsLegible format element) {rest : List Char} (next : LeadsToTag rest) :
    repeatedly (readToken? format.dialect)
        (((element.text?.map format.dialect.writeText).getD "").toList ++ rest) =
      ahead ((asTag format element).text?.toList.map .text) (repeatedly (readToken? format.dialect) rest) := by
  cases given : element.text? with
  | none => simp [asTag, given]
  | some text =>
      have filled : format.dialect = .markup → Text.isFilled text := fun plain => legible.text plain text given
      simpa [asTag, given] using repeatedly_writeText filled next

/-- Lines as they follow each other, each with the same blanks in front. -/
def spread (pad : List Char) (lines : List String) : List Char :=
  lines.flatMap fun line => '\n' :: (pad ++ line.toList)

@[simp] theorem spread_append (pad : List Char) (first later : List String) :
    spread pad (first ++ later) = spread pad first ++ spread pad later :=
  List.flatMap_append

/-- Lines that are set deeper have two more blanks in front. -/
theorem spread_indent (pad : List Char) (lines : List String) :
    spread pad (lines.map indent) = spread (pad ++ [' ', ' ']) lines := by
  rw [spread, spread, List.flatMap_map]
  simp [indent]

/-- A line is read after the blanks in front of it. -/
theorem repeatedly_spread {α : Type} {step : List Char → Option (α × List Char)} {pad : List Char}
    (blank : ∀ character ∈ pad, Text.isBlank character) (line : String) (rest : List Char) :
    repeatedly step (spread pad [line] ++ rest) = repeatedly step (line.toList ++ rest) := by
  rw [spread, List.flatMap_singleton, List.cons_append, List.append_assoc, repeatedly_blank (by decide),
    repeatedly_blanks blank]

/-- The text of an element on a line of its own is read back, too. -/
theorem repeatedly_textLine (legible : IsLegible format element) {pad : List Char}
    (blank : ∀ character ∈ pad, Text.isBlank character) {rest : List Char} (next : LeadsToTag rest) :
    repeatedly (readToken? format.dialect)
        (spread pad (element.text?.map format.dialect.writeText).toList ++ rest) =
      ahead ((asTag format element).text?.toList.map .text) (repeatedly (readToken? format.dialect) rest) := by
  have read := repeatedly_text? legible next
  cases given : element.text? with
  | none => simp [asTag, given, spread]
  | some text =>
      rw [given] at read
      rw [Option.map_some, Option.toList_some, repeatedly_spread blank]
      exact read

/-- The first line of an element starts with its tag. -/
theorem lines_eq_cons (format : Format) (tree : Tree Element) :
    ∃ tail others, Element.lines format tree = String.ofList ('<' :: tail) :: others := by
  obtain ⟨element, children⟩ := tree
  have opened (line : String) : startTag format element ++ line = String.ofList ('<' :: (element.tag.toList ++
      (" " ++ " ".intercalate (attributes format element) ++ ">" ++ line).toList)) := by
    rw [← String.toList_inj, String.toList_ofList]
    simp [startTag]
  rw [Element.lines]
  split
  · rw [String.append_assoc, opened]
    exact ⟨_, _, rfl⟩
  · rw [← String.append_empty (s := startTag format element), opened]
    exact ⟨_, _, rfl⟩

/-- The lines of an element lead to its tag. -/
theorem leadsToTag_lines {pad : List Char} (blank : ∀ character ∈ pad, Text.isBlank character) (format : Format)
    (tree : Tree Element) (rest : List Char) : LeadsToTag (spread pad (Element.lines format tree) ++ rest) := by
  have broken : ∀ character ∈ '\n' :: pad, Text.isBlank character := by
    rw [List.forall_mem_cons]
    exact ⟨by decide, blank⟩
  obtain ⟨tail, others, lines⟩ := lines_eq_cons format tree
  refine ⟨'\n' :: pad, tail ++ (spread pad others ++ rest), broken, ?_⟩
  rw [lines, spread, List.flatMap_cons, ← spread, String.toList_ofList]
  simp only [List.cons_append, List.append_assoc]

/-- The lines of several elements lead to the tag of the first one. -/
theorem leadsToTag_allLines {pad : List Char} (blank : ∀ character ∈ pad, Text.isBlank character) (format : Format)
    {forest : Forest Element} (filled : forest ≠ []) (rest : List Char) :
    LeadsToTag (spread pad (Element.allLines format forest) ++ rest) := by
  obtain ⟨tree, others, rfl⟩ := List.exists_cons_of_ne_nil filled
  rw [Element.allLines, spread_append, List.append_assoc]
  exact leadsToTag_lines blank format tree _

theorem leadsToTag_endTag (element : Element) (rest : List Char) : LeadsToTag ((endTag element).toList ++ rest) := by
  refine ⟨[], '/' :: (element.tag.toList ++ '>' :: rest), by simp, ?_⟩
  simp [endTag]

mutual

/-- The lines of a tree of legible elements are read as the tokens of what is written. -/
theorem repeatedly_lines {pad : List Char} (blank : ∀ character ∈ pad, Text.isBlank character) (rest : List Char) :
    ∀ tree : Tree Element, (∀ element ∈ tree.preorder, IsLegible format element) →
      repeatedly (readToken? format.dialect) (spread pad (Element.lines format tree) ++ rest) =
        ahead (treeTokens (tree.map (asTag format))) (repeatedly (readToken? format.dialect) rest)
  | .node element children, legible => by
      have onTop : IsLegible format element := legible element (by simp [Tree.preorder])
      have deeper : ∀ character ∈ pad ++ [' ', ' '], Text.isBlank character :=
        List.forall_mem_append.mpr
          ⟨blank, List.forall_mem_cons.mpr ⟨by decide, List.forall_mem_singleton.mpr (by decide)⟩⟩
      have onChildren : ∀ element ∈ Forest.preorder children, IsLegible format element :=
        fun other member => legible other (by simp [Tree.preorder, member])
      rw [Element.lines]
      split
      · rename_i single
        obtain rfl : children = [] := List.isEmpty_iff.mp single
        rw [repeatedly_spread blank, String.toList_append, String.toList_append, List.append_assoc, List.append_assoc,
          repeatedly_startTag onTop, repeatedly_text? onTop (leadsToTag_endTag element rest),
          repeatedly_endTag onTop.tag, ahead_ahead, ahead_ahead]
        simp only [Tree.map, Forest.map, treeTokens, forestTokens, asTag, List.nil_append, List.cons_append]
      · rename_i several
        have filled : children ≠ [] := fun none => several (List.isEmpty_iff.mpr none)
        have below := repeatedly_allLines deeper (spread pad [endTag element] ++ rest) children onChildren
        have next : LeadsToTag (spread (pad ++ [' ', ' ']) (Element.allLines format children) ++
            (spread pad [endTag element] ++ rest)) := leadsToTag_allLines deeper format filled _
        rw [← List.singleton_append, spread_append, spread_append, spread_indent, spread_append, List.append_assoc,
          List.append_assoc, List.append_assoc, repeatedly_spread blank, repeatedly_startTag onTop,
          repeatedly_textLine onTop deeper next, below, repeatedly_spread blank, repeatedly_endTag onTop.tag,
          ahead_ahead, ahead_ahead, ahead_ahead]
        simp only [Tree.map, treeTokens, asTag, List.nil_append, List.cons_append, List.append_assoc]

/-- The lines of trees side by side are read as their tokens. -/
theorem repeatedly_allLines {pad : List Char} (blank : ∀ character ∈ pad, Text.isBlank character)
    (rest : List Char) :
    ∀ forest : Forest Element, (∀ element ∈ Forest.preorder forest, IsLegible format element) →
      repeatedly (readToken? format.dialect) (spread pad (Element.allLines format forest) ++ rest) =
        ahead (forestTokens (Forest.map (asTag format) forest)) (repeatedly (readToken? format.dialect) rest)
  | [], _ => rfl
  | tree :: others, legible => by
      have onTree : ∀ element ∈ tree.preorder, IsLegible format element :=
        fun other member => legible other (by simp [Forest.preorder, member])
      have onOthers : ∀ element ∈ Forest.preorder others, IsLegible format element :=
        fun other member => legible other (by simp [Forest.preorder, member])
      rw [Element.allLines, spread_append, List.append_assoc, repeatedly_lines blank _ tree onTree,
        repeatedly_allLines blank rest others onOthers, ahead_ahead, Forest.map, forestTokens]

end

/-- The lines of legible elements, set off by any blanks, are read back as these elements. -/
theorem read?_allLines {pad : List Char} (blank : ∀ character ∈ pad, Text.isBlank character)
    {forest : Forest Element} (filled : forest ≠ [])
    (legible : ∀ element ∈ Forest.preorder forest, IsLegible format element) :
    read? format.dialect ("\n".intercalate ((allLines format forest).map (String.ofList pad ++ ·))) =
      some (Forest.map (asTag format) forest) := by
  have scanned := repeatedly_allLines blank [] forest legible
  have ended : repeatedly (readToken? format.dialect) [] = ([], []) :=
    repeatedly_end (by simp) (by cases format <;> rfl)
  obtain ⟨tree, others, rfl⟩ := List.exists_cons_of_ne_nil filled
  obtain ⟨tail, more, lines⟩ := lines_eq_cons format tree
  have joined : spread pad (allLines format (tree :: others)) ++ [] =
      '\n' :: ("\n".intercalate ((allLines format (tree :: others)).map (String.ofList pad ++ ·))).toList := by
    rw [allLines, lines]
    simp [spread, String.toList_intercalate, intercalate_cons, List.flatMap_map]
  rw [joined, repeatedly_blank (by decide), ended] at scanned
  refine read?_of_tokens ?_
  rw [scanned]
  simp [ahead]

/-- The lines of a tree of legible elements are read back as this tree. -/
theorem read?_lines {tree : Tree Element} (legible : ∀ element ∈ tree.preorder, IsLegible format element) :
    read? format.dialect ("\n".intercalate (Element.lines format tree)) = some [tree.map (asTag format)] := by
  have nothing : ∀ character ∈ ([] : List Char), Text.isBlank character := by simp
  have single : ∀ element ∈ Forest.preorder [tree], IsLegible format element := by simpa [Forest.preorder] using legible
  have read := read?_allLines nothing (List.cons_ne_nil tree []) single
  simpa [allLines, Forest.map] using read

end Element

end Storyboard

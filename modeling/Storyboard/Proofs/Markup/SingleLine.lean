/-
This file states which parts of elements inside a script can hold a line break. No part can but an attribute that is
written as it is.
-/

import Storyboard.Proofs.Json.OneLine
import Storyboard.Proofs.Markup.Lines
import Storyboard.Proofs.Tree.Forest

namespace Storyboard

open Text

/-- A joined text stands on a single line when its separator and all of its parts do. -/
theorem Text.isSingleLine_intercalate_iff {separator : String} (between : IsSingleLine separator)
    (texts : List String) : IsSingleLine (separator.intercalate texts) ↔ ∀ text ∈ texts, IsSingleLine text := by
  induction texts with
  | nil => exact iff_of_true (by nofun) (by nofun)
  | cons first others ih =>
      cases others with
      | nil => rw [String.intercalate_singleton, List.forall_mem_singleton]
      | cons next rest =>
          rw [String.intercalate_cons_cons, isSingleLine_append_iff, isSingleLine_append_iff, ih, and_iff_left between]
          exact List.forall_mem_cons.symm

namespace Markup

/-- A text of safe characters with a line end behind them. It counts as safe, too. -/
def SlipsThrough (text : String) : Prop := ∃ safe : List Char, safe.all isSafe ∧ text.toList = safe ++ ['\n']

variable {text : String}

theorem SlipsThrough.not_all_isSafe (slips : SlipsThrough text) : ¬text.toList.all isSafe := by
  obtain ⟨safe, -, same⟩ := slips
  rw [same, List.all_append, List.all_cons, isSafe_lineEnd]
  simp

/-- A text slips through when it counts as safe and holds a character that is not. -/
theorem slipsThrough_iff (text : String) :
    SlipsThrough text ↔ isSafeText text.toList ∧ ¬text.toList.all isSafe := by
  rw [isSafeText_iff]
  constructor
  · intro slips
    exact ⟨.inr slips, slips.not_all_isSafe⟩
  · rintro ⟨safe | slips, refused⟩
    · exact absurd safe refused
    · exact slips

instance (text : String) : Decidable (SlipsThrough text) := decidable_of_iff' _ (slipsThrough_iff text)

theorem SlipsThrough.not_isSingleLine (slips : SlipsThrough text) : ¬IsSingleLine text := by
  obtain ⟨safe, -, same⟩ := slips
  intro single
  exact single '\n' (by simp [same]) (by decide)

/-- No safe character breaks a line. -/
theorem isSingleLine_of_isSafe (safe : text.toList.all isSafe) : IsSingleLine text := by
  have refused : lineBreaks.all (!isSafe ·) := by decide +kernel
  intro character member breaking
  have kept := List.all_eq_true.mp safe character member
  simpa [kept] using List.all_eq_true.mp refused character breaking

theorem scriptAttribute_string (name text : String) : scriptAttribute name (.string text) =
    if isSafeText text.toList then name ++ "=\"" ++ text ++ "\""
    else name ++ "=\x7b" ++ Json.stringText text ++ "\x7d" := rfl

/-- A text is written as it is when all of its characters are safe, and else as a literal, unless it slips through. -/
theorem scriptAttribute_eq_iff (name text : String) :
    scriptAttribute name (.string text) =
        (if text.toList.all isSafe then name ++ "=\"" ++ text ++ "\""
        else name ++ "=\x7b" ++ Json.stringText text ++ "\x7d") ↔
      ¬SlipsThrough text := by
  rw [scriptAttribute_string]
  by_cases safe : text.toList.all isSafe
  · have whole : ¬SlipsThrough text := fun slips => slips.not_all_isSafe safe
    rw [if_pos ((isSafeText_iff _).mpr (.inl safe)), if_pos safe]
    exact iff_of_true rfl whole
  · rw [if_neg safe, slipsThrough_iff, and_iff_left safe]
    split
    · rename_i counts
      apply iff_of_false _ (not_not_intro counts)
      intro same
      -- Behind the name and the sign the two forms start with different characters.
      have characters := congrArg String.toList same
      simp at characters
    · rename_i refused
      exact iff_of_true rfl refused

/-- An attribute stands on a single line, unless its text slips through. -/
theorem isSingleLine_scriptAttribute_iff {name : String} (named : IsSingleLine name) (value : Json) :
    IsSingleLine (scriptAttribute name value) ↔ ∀ text, value = .string text → ¬SlipsThrough text := by
  have literal (value : Json) : IsSingleLine (name ++ "=\x7b" ++ value.compact ++ "\x7d") := by
    have braced : IsBasicText ("=\x7b" ++ (value.compact ++ "\x7d")) :=
      isBasicText_append (by decide) (isBasicText_append value.isBasicText_compact (by decide))
    rw [String.append_assoc, String.append_assoc]
    exact isSingleLine_append named braced.isSingleLine
  cases value with
  | string text =>
      rw [scriptAttribute_string]
      simp only [Json.string.injEq, forall_eq']
      split
      · rename_i safe
        have quote : IsSingleLine "\"" := IsBasicText.isSingleLine (by decide)
        have sign : IsSingleLine "=\"" := IsBasicText.isSingleLine (by decide)
        rw [isSingleLine_append_iff, isSingleLine_append_iff, isSingleLine_append_iff, and_iff_left quote,
          and_iff_right ⟨named, sign⟩]
        refine ⟨fun single slips => slips.not_isSingleLine single, fun whole => ?_⟩
        exact isSingleLine_of_isSafe (((isSafeText_iff _).mp safe).resolve_right whole)
      · rename_i refused
        exact iff_of_true (literal (.string text)) fun slips => refused ((isSafeText_iff _).mpr (.inr slips))
  | _ => exact iff_of_true (literal _) nofun

theorem isBasicText_of_isName {name : String} (named : isName name) : IsBasicText name := by
  apply List.all_eq_true.mpr
  intro character member
  have bounds := code_of_isNameCharacter (List.all_eq_true.mp (Bool.and_eq_true_iff.mp named).2 character member)
  simp only [isBasic, Bool.and_eq_true, decide_eq_true_eq]
  omega

/-- A text inside a script is written in basic characters. -/
theorem isBasicText_scriptText (text : String) : IsBasicText (scriptText text) :=
  isBasicText_enclosed (by decide) (Json.isBasicText_stringText text) (by decide)

end Markup

open Markup

/-- Declarations in a script are written in basic characters when their names are. -/
theorem Declaration.isBasicText_scriptAttribute {declarations : List Declaration}
    (named : ∀ declaration ∈ declarations, IsBasicText (scriptName declaration.property)) :
    IsBasicText (scriptAttribute declarations) := by
  have colon : IsBasicText ": " := by decide
  have comma : IsBasicText ", " := by decide
  have written : ∀ text ∈ (declarations.map entry).map (fun pair => scriptName pair.1 ++ ": " ++ pair.2.compact),
      IsBasicText text := by
    rw [List.map_map, List.forall_mem_map]
    intro declaration member
    exact isBasicText_enclosed (named declaration member) colon (Json.isBasicText_compact _)
  have joined := isBasicText_intercalate comma written
  exact isBasicText_enclosed (by decide) (isBasicText_enclosed (by decide) joined (by decide)) (by decide)

namespace Element

variable {format : Format} {element : Element}

/-- Inside a script the attributes are the classes, the id, the style and the properties. -/
theorem attributes_of_script (script : format.dialect = .script) (element : Element) :
    attributes format element =
      [scriptAttribute "className" (.string (" ".intercalate element.classes)),
        scriptAttribute "data-node-id" (.string element.nodeId), Declaration.scriptAttribute element.style] ++
      element.props.map fun prop => scriptAttribute prop.1 prop.2 := by
  have unmarked : format.textMarker? = none := by cases format <;> first | rfl | simp [Format.dialect] at script
  rw [attributes, script, unmarked, Option.toList_none, ite_self, List.append_nil]
  rfl

theorem isBasicText_startOf {tag : String} (named : isName tag) : IsBasicText ("<" ++ tag ++ " ") :=
  isBasicText_enclosed (by decide) (isBasicText_of_isName named) (by decide)

theorem isBasicText_endTag (named : isName element.tag) : IsBasicText (endTag element) :=
  isBasicText_enclosed (by decide) (isBasicText_of_isName named) (by decide)

/-- A property of texts that holds for the tags and the text of an element. -/
structure PartsSatisfy (holds : String → Prop) (format : Format) (element : Element) : Prop where
  start : holds (startTag format element)
  text : ∀ text ∈ element.text?, holds (format.dialect.writeText text)
  stop : holds (endTag element)

/-- A property of texts that holds for no text, for the blanks of a deeper line, and for texts put together. -/
structure IsJoinable (holds : String → Prop) : Prop where
  nothing : holds ""
  pad : holds "  "
  together : ∀ first later, holds first → holds later → holds (first ++ later)

mutual

/-- What holds for the parts of elements holds for their lines. -/
theorem forall_lines {holds : String → Prop} (joinable : IsJoinable holds) :
    ∀ tree : Tree Element, (∀ element ∈ tree.preorder, PartsSatisfy holds format element) →
      ∀ line ∈ lines format tree, holds line
  | .node element children, each => by
      have onTop : PartsSatisfy holds format element := each element (by simp [Tree.preorder])
      have below := forall_allLines joinable children fun other member => each other (by simp [Tree.preorder, member])
      have onText : ∀ text ∈ (element.text?.map format.dialect.writeText).toList, holds text := by
        intro text member
        obtain ⟨source, given, rfl⟩ := Option.map_eq_some_iff.mp (Option.mem_toList.mp member)
        exact onTop.text source given
      have together {first later : String} := joinable.together first later
      rw [lines]
      split
      · have single : holds ((element.text?.map format.dialect.writeText).getD "") := by
          cases given : element.text? with
          | none => exact joinable.nothing
          | some text => exact onTop.text text given
        rw [List.forall_mem_singleton]
        exact together (together onTop.start single) onTop.stop
      · rw [List.cons_append, List.forall_mem_cons, List.forall_mem_append, List.forall_mem_map,
          List.forall_mem_append, List.forall_mem_singleton]
        have deeper {line : String} (inside : holds line) : holds (indent line) := together joinable.pad inside
        exact ⟨onTop.start, ⟨fun line member => deeper (onText line member),
          fun line member => deeper (below line member)⟩, onTop.stop⟩

/-- What holds for the parts of elements side by side holds for their lines. -/
theorem forall_allLines {holds : String → Prop} (joinable : IsJoinable holds) :
    ∀ forest : Forest Element, (∀ element ∈ Forest.preorder forest, PartsSatisfy holds format element) →
      ∀ line ∈ allLines format forest, holds line
  | [], _ => by simp [allLines]
  | tree :: others, each => by
      rw [allLines, List.forall_mem_append]
      exact ⟨forall_lines joinable tree fun other member => each other (by simp [Forest.preorder, member]),
        forall_allLines joinable others fun other member => each other (by simp [Forest.preorder, member])⟩

end

/-- A text stands in one of some lines. -/
def StandsIn (text : String) (written : List String) : Prop :=
  ∃ line ∈ written, ∃ before after, line = before ++ text ++ after

mutual

/-- The start tag of each element stands in a line. -/
theorem startTag_standsIn_lines : ∀ tree : Tree Element, ∀ element ∈ tree.preorder,
    StandsIn (startTag format element) (lines format tree)
  | .node value children, element, member => by
      rw [Tree.preorder, List.mem_cons] at member
      rw [lines]
      split
      · rename_i none
        obtain rfl := List.isEmpty_iff.mp none
        obtain rfl := member.resolve_right (by simp [Forest.preorder])
        exact ⟨_, List.mem_singleton_self _, "", _, by rw [String.empty_append, String.append_assoc]⟩
      · rcases member with rfl | inside
        · exact ⟨startTag format element, by simp, "", "", by simp⟩
        · obtain ⟨line, among, before, after, rfl⟩ := startTag_standsIn_allLines children element inside
          refine ⟨indent (before ++ startTag format element ++ after), ?_, "  " ++ before, after, ?_⟩
          · have below := List.mem_append_right (value.text?.map format.dialect.writeText).toList among
            exact List.mem_cons_of_mem _ (List.mem_append_left _ (List.mem_map_of_mem below))
          · simp [indent, String.append_assoc]

theorem startTag_standsIn_allLines : ∀ forest : Forest Element, ∀ element ∈ Forest.preorder forest,
    StandsIn (startTag format element) (allLines format forest)
  | [], element, member => by simp [Forest.preorder] at member
  | tree :: others, element, member => by
      rw [allLines]
      rcases List.mem_append.mp member with first | later
      · obtain ⟨line, among, parts⟩ := startTag_standsIn_lines tree element first
        exact ⟨line, List.mem_append_left _ among, parts⟩
      · obtain ⟨line, among, parts⟩ := startTag_standsIn_allLines others element later
        exact ⟨line, List.mem_append_right _ among, parts⟩

end

/-- Neither the classes of an element nor the properties of its component slip through. -/
structure IsGuarded (element : Element) : Prop where
  classes : (" ".intercalate element.classes).toList.all isSafe
  props : ∀ prop ∈ element.props, ∀ text, prop.2 = .string text → ¬SlipsThrough text

/-- The start tag of an element stands on a single line, unless its id slips through. -/
theorem isSingleLine_startTag_iff (script : format.dialect = .script) (legible : IsLegible format element)
    (guarded : element.IsGuarded) : IsSingleLine (startTag format element) ↔ ¬SlipsThrough element.nodeId := by
  have fixed {text : String} (written : IsBasicText text) : IsSingleLine text := written.isSingleLine
  have tag : IsSingleLine ("<" ++ element.tag ++ " ") := fixed (isBasicText_startOf legible.tag)
  have classes : IsSingleLine (scriptAttribute "className" (.string (" ".intercalate element.classes))) := by
    rw [isSingleLine_scriptAttribute_iff (fixed (by decide))]
    rintro _ ⟨⟩ slips
    exact slips.not_all_isSafe guarded.classes
  have style : IsSingleLine (Declaration.scriptAttribute element.style) := fixed
    (Declaration.isBasicText_scriptAttribute fun declaration member =>
      isBasicText_of_isName (legible.style declaration member))
  have props : ∀ prop ∈ element.props, IsSingleLine (scriptAttribute prop.1 prop.2) := by
    intro prop member
    rw [isSingleLine_scriptAttribute_iff (fixed (isBasicText_of_isName (legible.props prop member).2.1))]
    exact guarded.props prop member
  have blank : IsSingleLine " " := fixed (by decide)
  have bracket : IsSingleLine ">" := fixed (by decide)
  rw [startTag, isSingleLine_append_iff, isSingleLine_append_iff, and_iff_right tag, and_iff_left bracket,
    isSingleLine_intercalate_iff blank, attributes_of_script script, List.forall_mem_append, List.forall_mem_cons,
    List.forall_mem_cons, List.forall_mem_singleton, List.forall_mem_map, and_iff_right classes,
    and_iff_left style, and_iff_left props, isSingleLine_scriptAttribute_iff (fixed (by decide))]
  simp

/-- The other parts of an element stand on single lines, whatever its text is. -/
theorem isSingleLine_parts_iff (script : format.dialect = .script) (legible : IsLegible format element)
    (guarded : element.IsGuarded) :
    PartsSatisfy IsSingleLine format element ↔ ¬SlipsThrough element.nodeId := by
  rw [← isSingleLine_startTag_iff script legible guarded]
  refine ⟨PartsSatisfy.start, fun start => ⟨start, fun text _ => ?_, ?_⟩⟩
  · rw [script]
    exact (isBasicText_scriptText text).isSingleLine
  · exact (isBasicText_endTag legible.tag).isSingleLine

/-- Elements inside a script stand on single lines, unless an id slips through. -/
theorem isSingleLine_allLines_iff (script : format.dialect = .script) {forest : Forest Element}
    (legible : ∀ element ∈ Forest.preorder forest, IsLegible format element)
    (guarded : ∀ element ∈ Forest.preorder forest, element.IsGuarded) :
    (∀ line ∈ allLines format forest, IsSingleLine line) ↔
      ∀ element ∈ Forest.preorder forest, ¬SlipsThrough element.nodeId := by
  constructor
  · intro single element member
    rw [← isSingleLine_startTag_iff script (legible element member) (guarded element member)]
    obtain ⟨line, among, before, after, rfl⟩ := startTag_standsIn_allLines forest element member
    have whole := single _ among
    rw [isSingleLine_append_iff, isSingleLine_append_iff] at whole
    exact whole.1.2
  · intro whole
    have joinable : IsJoinable IsSingleLine := {
      nothing := nofun
      pad := IsBasicText.isSingleLine (by decide)
      together := fun _ _ => isSingleLine_append }
    apply forall_allLines joinable
    intro element member
    exact (isSingleLine_parts_iff script (legible element member) (guarded element member)).mpr (whole element member)

end Element

end Storyboard

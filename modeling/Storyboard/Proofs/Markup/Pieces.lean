/-
This file states that the pieces of written markup are read back: attributes, tags and text, whatever they hold.
-/

import Mathlib.Data.List.Forall2
import Storyboard.Proofs.Markup.Scanning

namespace Storyboard

/-- In a joined list the separator stands before each piece but the first. -/
theorem intercalate_cons {α : Type} (separator piece : List α) (others : List (List α)) :
    separator.intercalate (piece :: others) = piece ++ others.flatMap (separator ++ ·) := by
  induction others generalizing piece with
  | nil => simp
  | cons other rest ih =>
      rw [List.intercalate_cons_cons, ih other, List.flatMap_cons, List.append_assoc, List.append_assoc]

/-- A declaration with a script name for its property. -/
def Declaration.scriptEntry (declaration : Declaration) : String × String :=
  (scriptName declaration.property, declaration.value)

namespace Markup

/-- An attribute is written as a text that is read back before a blank and before the end of the tag. -/
structure Writes (dialect : Dialect) (text : String) (meaning : String × Value) : Prop where
  visible : ∃ first rest, text.toList = first :: rest ∧ Text.isBlank first = false
  reads : ∀ after, (∀ character ∈ after.head?, character = ' ' ∨ character = '>') →
    readAttribute? dialect (text.toList ++ after) = some (meaning, after)

/-- What stands behind the equals sign is read as the value of a name. -/
theorem writes_of_value {dialect : Dialect} {name : String} (named : isName name) {value : Value} {text : String}
    {tail : List Char} (spelled : text.toList = name.toList ++ '=' :: tail)
    (read : ∀ after, readValue? dialect ('=' :: (tail ++ after)) = some (value, after)) :
    Writes dialect text (name, value) where
  visible := by
    obtain ⟨first, others, characters, inside⟩ := exists_of_isName named
    exact ⟨first, others ++ '=' :: tail, by simp [spelled, characters], isBlank_of_isNameCharacter inside⟩
  reads after _ := by
    rw [readAttribute?, spelled, List.append_assoc, List.cons_append,
      readName?_append named (ends_cons (by decide) _)]
    dsimp only
    rw [read after, Option.map_some]

/-- A name that stands alone is read back. -/
theorem writes_bare {name : String} (named : isName name) : Writes .markup name (name, .bare) where
  visible := by
    obtain ⟨first, others, characters, inside⟩ := exists_of_isName named
    exact ⟨first, others, characters, isBlank_of_isNameCharacter inside⟩
  reads after ends := by
    have separated : ∀ character ∈ after.head?, isNameCharacter character = false := by
      intro character member
      rcases ends character member with rfl | rfl <;> decide
    have noValue : readValue? .markup after = some (.bare, after) := by
      rw [readValue?.eq_def]
      split
      · rename_i rest _
        rcases ends '=' rfl with wrong | wrong <;> simp at wrong
      · rfl
      all_goals simp_all
    rw [readAttribute?, readName?_append named separated]
    dsimp only
    rw [noValue, Option.map_some]

/-- A text between quotes is read back in plain markup. -/
theorem writes_plainAttribute {name : String} (named : isName name) (text : String) :
    Writes .markup (plainAttribute name (.string text)) (name, .plain (.string text)) := by
  have spelled : (plainAttribute name (.string text)).toList =
      name.toList ++ '=' :: ('"' :: text.toList.flatMap escapeAttributeCharacter ++ ['"']) := by
    simp [plainAttribute, escapeAttribute, Json.plainText]
  refine writes_of_value named spelled fun after => ?_
  rw [List.cons_append, List.cons_append, List.append_assoc, List.singleton_append, readValue?,
    readQuoted?_append fun _ => ne_quote_of_mem_escapeAttribute, Option.map_some]
  dsimp only
  rw [decode_escapeAttribute, String.ofList_toList]

theorem isSafe_lineEnd : isSafe '\n' = false := by
  decide +kernel

/-- A safe text holds safe characters only, or these with one line end behind them. -/
theorem isSafeText_iff (characters : List Char) : isSafeText characters ↔
    characters.all isSafe ∨ ∃ safe : List Char, safe.all isSafe ∧ characters = safe ++ ['\n'] := by
  unfold isSafeText
  split
  · rename_i rest reversed
    obtain rfl : characters = rest.reverse ++ ['\n'] := by
      rw [← List.reverse_reverse characters, reversed, List.reverse_cons]
    rw [List.all_append, List.all_reverse, List.all_cons, isSafe_lineEnd, Bool.false_and, Bool.and_false]
    simp
  · rename_i other
    rw [List.all_reverse, or_iff_left]
    rintro ⟨safe, -, rfl⟩
    exact other safe.reverse (by simp)

/-- A safe text holds no quotes. -/
theorem ne_quote_of_isSafeText {text : List Char} (safe : isSafeText text) : ∀ character ∈ text, character ≠ '"' := by
  have refused : isSafe '"' = false := by decide +kernel
  have clean {characters : List Char} (kept : characters.all isSafe) : ∀ character ∈ characters, character ≠ '"' := by
    rintro character member rfl
    exact absurd (List.all_eq_true.mp kept _ member) (by simp [refused])
  rcases (isSafeText_iff text).mp safe with kept | ⟨front, kept, rfl⟩
  · exact clean kept
  · exact List.forall_mem_append.mpr ⟨clean kept, List.forall_mem_singleton.mpr (by decide)⟩

/-- A value is written so that it is read back before a closing brace, and opens none itself. -/
structure IsLiteral (value : Json) : Prop where
  opens : ∃ first rest, value.compact.toList = first :: rest ∧ first ≠ '\x7b'
  reads : ∀ after, readLiteral? (value.compact.toList ++ '\x7d' :: after) = some (value, '\x7d' :: after)

theorem isLiteral_string (text : String) : IsLiteral (.string text) where
  opens := ⟨'"', text.toList.flatMap Json.escapeCharacter ++ ['"'], by simp [Json.compact, Json.stringText], by decide⟩
  reads after := by rw [Json.compact, readLiteral?_stringText]

theorem isLiteral_bool (value : Bool) : IsLiteral (.bool value) := by
  cases value
  · exact ⟨⟨'f', _, rfl, by decide⟩, fun _ => rfl⟩
  · exact ⟨⟨'t', _, rfl, by decide⟩, fun _ => rfl⟩

/-- The whole numbers that rules give to components. -/
theorem isLiteral_whole : ∀ value ∈ [0, 50, 100], IsLiteral (.int value) := by
  intro value member
  simp only [List.mem_cons, List.not_mem_nil, or_false] at member
  rcases member with rfl | rfl | rfl
  · exact ⟨⟨'0', _, rfl, by decide⟩, fun _ => rfl⟩
  · exact ⟨⟨'5', _, rfl, by decide⟩, fun _ => rfl⟩
  · exact ⟨⟨'1', _, rfl, by decide⟩, fun _ => rfl⟩

/-- A value is read back inside a script, whether it is written between quotes or in braces. -/
theorem writes_scriptAttribute {name : String} (named : isName name) {value : Json} (literal : IsLiteral value) :
    Writes .script (scriptAttribute name value) (name, .plain value) := by
  have braced : Writes .script (name ++ "=\x7b" ++ value.compact ++ "\x7d") (name, .plain value) := by
    have spelled : (name ++ "=\x7b" ++ value.compact ++ "\x7d").toList =
        name.toList ++ '=' :: ('\x7b' :: value.compact.toList ++ ['\x7d']) := by simp
    refine writes_of_value named spelled fun after => ?_
    obtain ⟨first, others, characters, noBrace⟩ := literal.opens
    have read := literal.reads after
    rw [List.cons_append, List.cons_append, List.append_assoc, List.singleton_append]
    rw [characters, List.cons_append] at read ⊢
    rw [readValue?]
    · simp only [read]
    · exact fun rest same => noBrace (List.cons.inj same).1
  cases value with
  | string text =>
      rw [scriptAttribute]
      split
      · rename_i safe
        have spelled : (name ++ "=\"" ++ text ++ "\"").toList =
            name.toList ++ '=' :: ('"' :: text.toList ++ ['"']) := by simp
        refine writes_of_value named spelled fun after => ?_
        rw [List.cons_append, List.cons_append, List.append_assoc, List.singleton_append, readValue?,
          readQuoted?_append (ne_quote_of_isSafeText safe), Option.map_some]
        dsimp only
        rw [String.ofList_toList]
      · exact braced
  | _ => exact braced

/-- An entry of an object literal. -/
def entryText (name text : String) : String := name ++ ": " ++ Json.stringText text

/-- An entry is read back. -/
theorem readField?_entryText {name : String} (named : isName name) (text : String) (rest : List Char) :
    readField? ((entryText name text).toList ++ rest) = some ((name, text), rest) := by
  have spelled : (entryText name text).toList ++ rest =
      name.toList ++ ':' :: ([' '] ++ ((Json.stringText text).toList ++ rest)) := by
    simp [entryText]
  have visible : ∀ character ∈ ((Json.stringText text).toList ++ rest).head?, Text.isBlank character = false := by
    rw [Json.toList_stringText]
    exact ends_cons (by decide) _
  rw [readField?, spelled, readName?_append named (ends_cons (by decide) _)]
  simp only
  rw [List.singleton_append, List.dropWhile_cons_of_pos (by decide), dropWhile_eq_self visible,
    readLiteral?_stringText]

/-- An entry behind a blank is read back. -/
theorem readField?_behindBlank {name : String} (named : isName name) (text : String) (rest : List Char) :
    readField? ((' ' :: ((entryText name text).toList ++ rest)).dropWhile Text.isBlank) =
      some ((name, text), rest) := by
  obtain ⟨first, others, characters, inside⟩ := exists_of_isName named
  have visible : ∀ character ∈ ((entryText name text).toList ++ rest).head?, Text.isBlank character = false := by
    simpa [entryText, characters] using isBlank_of_isNameCharacter inside
  rw [List.dropWhile_cons_of_pos (by decide), dropWhile_eq_self visible, readField?_entryText named]

/-- Entries, each behind a comma. -/
def furtherText (entries : List (String × String)) : List Char :=
  entries.flatMap fun entry => ',' :: ' ' :: (entryText entry.1 entry.2).toList

/-- Entries behind commas are read back up to a closing brace. -/
theorem repeatedly_furtherText {entries : List (String × String)} (named : ∀ entry ∈ entries, isName entry.1)
    (left : List Char) :
    repeatedly readNextField? (furtherText entries ++ ' ' :: '\x7d' :: left) = (entries, '\x7d' :: left) := by
  induction entries with
  | nil =>
      rw [furtherText, List.flatMap_nil, List.nil_append, repeatedly_blank (by decide)]
      exact repeatedly_end (ends_cons (by decide) _) rfl
  | cons entry others ih =>
      obtain ⟨name, text⟩ := entry
      have first (rest : List Char) :
          readNextField? (',' :: ' ' :: ((entryText name text).toList ++ rest)) = some ((name, text), rest) :=
        readField?_behindBlank (named (name, text) (by simp)) text rest
      have later := ih fun other member => named other (by simp [member])
      rw [furtherText, List.flatMap_cons, List.append_assoc, List.cons_append, List.cons_append, ← furtherText]
      refine (repeatedly_item (ends_cons (by decide) _) (first _) ?_).trans ?_
      · simp only [List.length_cons, List.length_append]
        omega
      · rw [later]
        rfl

/-- The entries of an object literal are read back up to the two braces that close it and its attribute. -/
theorem readFields?_append (first : String × String) (others : List (String × String))
    (named : ∀ entry ∈ first :: others, isName entry.1) (after : List Char) :
    readFields? (' ' :: ((entryText first.1 first.2).toList ++
      (furtherText others ++ ' ' :: '\x7d' :: '\x7d' :: after))) = some (first :: others, after) := by
  have onFirst : isName first.1 := named first (by simp)
  have onOthers : ∀ entry ∈ others, isName entry.1 := fun entry member => named entry (by simp [member])
  have later := repeatedly_furtherText onOthers ('\x7d' :: after)
  rw [readFields?, readField?_behindBlank onFirst]
  simp only [later]

/-- The style of an element is read back inside a script, with a script name for each property. -/
theorem writes_scriptStyle {declarations : List Declaration} (filled : declarations ≠ [])
    (named : ∀ declaration ∈ declarations, isName declaration.scriptEntry.1) :
    Writes .script (Declaration.scriptAttribute declarations)
      ("style", .entries (declarations.map Declaration.scriptEntry)) := by
  obtain ⟨first, others, rfl⟩ := List.exists_cons_of_ne_nil filled
  let written := (entryText first.scriptEntry.1 first.scriptEntry.2).toList ++
    (furtherText (others.map Declaration.scriptEntry) ++ [' ', '\x7d', '\x7d'])
  have spelled : (Declaration.scriptAttribute (first :: others)).toList =
      "style".toList ++ '=' :: '\x7b' :: '\x7b' :: ' ' :: written := by
    have object : Declaration.objectText ((first :: others).map Declaration.entry) =
        "\x7b " ++ ", ".intercalate ((first :: others).map fun declaration =>
          entryText declaration.scriptEntry.1 declaration.scriptEntry.2) ++ " \x7d" := by
      rw [Declaration.objectText, List.map_map]
      rfl
    rw [Declaration.scriptAttribute, Declaration.scriptEntries, object]
    simp [String.toList_intercalate, intercalate_cons, furtherText, written, List.flatMap_map]
  refine writes_of_value (by decide) spelled fun after => ?_
  have read := readFields?_append first.scriptEntry (others.map Declaration.scriptEntry) (by simpa using named) after
  simp only [written, List.cons_append, List.append_assoc, List.nil_append, readValue?]
  rw [read, Option.map_some, List.map_cons]

/-- An end tag is read back. -/
theorem readToken?_stop (dialect : Dialect) {name : String} (named : isName name) (rest : List Char) :
    readToken? dialect ('<' :: '/' :: (name.toList ++ '>' :: rest)) = some (.stop name, rest) := by
  have read : readName? (name.toList ++ '>' :: rest) = some (name, '>' :: rest) :=
    readName?_append named (ends_cons (by decide) _)
  rw [readToken?]
  simp only [read]

/-- Attributes behind blanks are read back up to the end of the tag. -/
theorem repeatedly_attributes {dialect : Dialect} {texts : List String} {attributes : List (String × Value)}
    (written : List.Forall₂ (Writes dialect) texts attributes) (rest : List Char) :
    repeatedly (readAttribute? dialect) (texts.flatMap (fun text => ' ' :: text.toList) ++ '>' :: rest) =
      (attributes, '>' :: rest) := by
  induction written with
  | nil => exact repeatedly_end (ends_cons (by decide) _) rfl
  | @cons text meaning texts attributes single _ ih =>
      have separated : ∀ character ∈ (texts.flatMap (fun text => ' ' :: text.toList) ++ '>' :: rest).head?,
          character = ' ' ∨ character = '>' := by
        cases texts <;> simp
      obtain ⟨first, others, characters, visible⟩ := single.visible
      have read := single.reads _ separated
      rw [List.flatMap_cons, List.append_assoc, List.cons_append, repeatedly_blank (by decide)]
      refine (repeatedly_item ?_ read ?_).trans ?_
      · rw [characters]
        exact ends_cons visible _
      · simp only [characters, List.length_cons, List.length_append]
        omega
      · rw [ih]
        rfl

/-- A start tag is read back with its attributes. -/
theorem readToken?_start {dialect : Dialect} {name : String} (named : isName name) {text : String}
    {texts : List String} {attributes : List (String × Value)}
    (written : List.Forall₂ (Writes dialect) (text :: texts) attributes) (rest : List Char) :
    readToken? dialect ('<' :: (name.toList ++
      ((text :: texts).flatMap (fun text => ' ' :: text.toList) ++ '>' :: rest))) =
      some (.start name attributes, rest) := by
  have read : readName? (name.toList ++ ((text :: texts).flatMap (fun text => ' ' :: text.toList) ++ '>' :: rest)) =
      some (name, (text :: texts).flatMap (fun text => ' ' :: text.toList) ++ '>' :: rest) :=
    readName?_append named (ends_cons (by decide) _)
  rw [readToken?]
  · simp only [read, repeatedly_attributes written]
  · intro others same
    obtain ⟨first, inside, characters, plain⟩ := exists_of_isName named
    rw [characters, List.cons_append] at same
    obtain rfl := (List.cons.inj same).1
    exact absurd plain (by decide)

/-- Only blanks stand before the next tag. -/
def LeadsToTag (characters : List Char) : Prop :=
  ∃ pad rest, (∀ character ∈ pad, Text.isBlank character) ∧ characters = pad ++ '<' :: rest

/-- What is read of a text: in plain markup the blanks around it are lost. -/
def heard : Dialect → String → String
  | .markup, text => Text.trim text
  | .script, text => text

/-- Escaped text is made of characters that open no tag. -/
theorem ne_open_of_mem_escapeText {text : List Char} {character : Char}
    (member : character ∈ text.flatMap escapeTextCharacter) : character ≠ '<' := by
  obtain ⟨source, -, inside⟩ := List.mem_flatMap.mp member
  rintro rfl
  obtain ⟨kept, rfl⟩ | entity := mem_escapeTextCharacter inside
  · exact absurd kept (by decide)
  · exact absurd entity (by decide)

/-- A visible character is escaped to visible ones. -/
theorem exists_of_escapeTextCharacter {character : Char} (visible : Text.isBlank character = false) :
    ∃ first others, escapeTextCharacter character = first :: others ∧ Text.isBlank first = false := by
  unfold escapeTextCharacter
  split
  · exact ⟨'&', _, rfl, by decide⟩
  · exact ⟨'&', _, rfl, by decide⟩
  · exact ⟨'&', _, rfl, by decide⟩
  · exact ⟨character, [], rfl, visible⟩

/-- Blanks are written as they are. -/
theorem escapeText_blanks {pad : List Char} (blank : ∀ character ∈ pad, Text.isBlank character) :
    pad.flatMap escapeTextCharacter = pad := by
  induction pad with
  | nil => rfl
  | cons character rest ih =>
      have first := blank character (by simp)
      have single : escapeTextCharacter character = [character] := by
        unfold escapeTextCharacter
        split
        · exact absurd first (by decide)
        · exact absurd first (by decide)
        · exact absurd first (by decide)
        · rfl
      rw [List.flatMap_cons, single, ih fun other member => blank other (by simp [member]), List.singleton_append]

/-- The blanks behind a text are lost with its own. -/
theorem trim_decode (text : List Char) {pad : List Char} (blank : ∀ character ∈ pad, Text.isBlank character) :
    Text.trim (String.ofList (decode (text.flatMap escapeTextCharacter ++ pad))) = Text.trim (String.ofList text) := by
  have nothing : ∀ character ∈ ([] : List Char), Text.isBlank character := by simp
  have onPad : decode pad = pad := by
    have same := decode_escapeText pad []
    rwa [escapeText_blanks blank, List.append_nil, decode, List.append_nil] at same
  have lost := Text.trimBy_surrounded nothing blank text
  rw [Text.trim, Text.trim, decode_escapeText, onPad, String.toList_ofList, String.toList_ofList]
  exact congrArg String.ofList lost

/-- Text that starts with a visible character is read up to the next tag. -/
theorem readToken?_escapeText {first : Char} (visible : Text.isBlank first = false) (others : List Char)
    {pad : List Char} (blank : ∀ character ∈ pad, Text.isBlank character) (more : List Char) :
    readToken? .markup ((first :: others).flatMap escapeTextCharacter ++ pad ++ '<' :: more) =
      some (.text (Text.trim (String.ofList (first :: others))), '<' :: more) := by
  obtain ⟨start, tail, spelled, -⟩ := exists_of_escapeTextCharacter visible
  have inside : ∀ character ∈ (first :: others).flatMap escapeTextCharacter ++ pad, decide (character ≠ '<') := by
    intro character member
    refine decide_eq_true ?_
    rcases List.mem_append.mp member with escaped | padding
    · exact ne_open_of_mem_escapeText escaped
    · rintro rfl
      exact absurd (blank '<' padding) (by decide)
  have ends : ∀ character ∈ ('<' :: more).head?, decide (character ≠ '<') = false := ends_cons (by decide) _
  have opens : start ≠ '<' := by
    refine of_decide_eq_true (inside start ?_)
    simp [spelled]
  have read : readText? .markup ((first :: others).flatMap escapeTextCharacter ++ pad ++ '<' :: more) =
      some (Text.trim (String.ofList (first :: others)), '<' :: more) := by
    rw [readText?, takeWhile_append_of_ends inside ends, dropWhile_append_of_ends inside ends]
    split
    · rename_i empty
      simp [spelled] at empty
    · rw [trim_decode _ blank]
  rw [List.flatMap_cons, spelled, List.cons_append, List.cons_append, List.cons_append] at read ⊢
  rw [readToken?]
  · rw [read, Option.map_some]
  · exact fun _ same => opens (List.cons.inj same).1
  · exact fun _ same => opens (List.cons.inj same).1

/-- Text in plain markup is read up to the next tag, without the blanks around it. -/
theorem repeatedly_escapeText {text : String} (filled : Text.isFilled text) {rest : List Char}
    (next : LeadsToTag rest) :
    repeatedly (readToken? .markup) ((escapeText text).toList ++ rest) =
      ahead [.text (Text.trim text)] (repeatedly (readToken? .markup) rest) := by
  obtain ⟨pad, more, blank, rfl⟩ := next
  have nothing : ∀ character ∈ ([] : List Char), Text.isBlank character := by simp
  have before : ∀ character ∈ text.toList.takeWhile Text.isBlank, Text.isBlank character :=
    List.all_eq_true.mp List.all_takeWhile
  have parts : text.toList = text.toList.takeWhile Text.isBlank ++ text.toList.dropWhile Text.isBlank :=
    List.takeWhile_append_dropWhile.symm
  have head := List.head?_dropWhile_not Text.isBlank text.toList
  cases start : text.toList.dropWhile Text.isBlank with
  | nil =>
      rw [start, List.append_nil] at parts
      rw [← parts] at before
      simp [Text.isFilled, List.all_eq_true.mpr before] at filled
  | cons first others =>
      rw [start] at head parts
      have lost := Text.trimBy_surrounded before nothing (first :: others)
      have same : Text.trim (String.ofList (first :: others)) = Text.trim text := by
        rw [Text.trim, Text.trim, String.toList_ofList, ← lost, List.append_nil, ← parts]
      have read := readToken?_escapeText head others blank more
      obtain ⟨shown, tail, spelled, visible⟩ := exists_of_escapeTextCharacter head
      rw [same] at read
      rw [escapeText, String.toList_ofList, parts, List.flatMap_append, escapeText_blanks before, List.append_assoc,
        repeatedly_blanks before, repeatedly_blanks blank, ← List.append_assoc]
      refine repeatedly_item ?_ read ?_
      · simpa [spelled] using visible
      · simp only [List.flatMap_cons, spelled, List.length_cons, List.length_append]
        omega

/-- A literal in braces is read as the text that it stands for. -/
theorem repeatedly_scriptText (text : String) (rest : List Char) :
    repeatedly (readToken? .script) ((scriptText text).toList ++ rest) =
      ahead [.text text] (repeatedly (readToken? .script) rest) := by
  have spelled : (scriptText text).toList ++ rest =
      '\x7b' :: ((Json.stringText text).toList ++ '\x7d' :: rest) := by simp [scriptText]
  have read : readToken? .script ('\x7b' :: ((Json.stringText text).toList ++ '\x7d' :: rest)) =
      some (.text text, rest) := by
    rw [readToken?]
    · simp only [readText?, readLiteral?_stringText, Option.map_some]
    · simp
    · simp
  rw [spelled]
  refine repeatedly_item (ends_cons (by decide) _) read ?_
  simp only [List.length_cons, List.length_append]
  omega

/-- The part of a text that is not lost is read back before the next tag. -/
theorem repeatedly_writeText {dialect : Dialect} {text : String} (filled : dialect = .markup → Text.isFilled text)
    {rest : List Char} (next : LeadsToTag rest) :
    repeatedly (readToken? dialect) ((dialect.writeText text).toList ++ rest) =
      ahead [.text (heard dialect text)] (repeatedly (readToken? dialect) rest) := by
  cases dialect with
  | markup => exact repeatedly_escapeText (filled rfl) next
  | script => exact repeatedly_scriptText text rest

end Markup

end Storyboard

/-
This file reads the statements at the top level of a script. Each of them starts a line, and lines that start with
anything but a letter belong to the statement before them.
-/

import Mathlib.Data.List.Infix
import Storyboard.Export.Stylesheet
import Storyboard.Proofs.Json.OneLine
import Storyboard.Proofs.Markup.Scanning

namespace Storyboard.Script

open Text

/-- A statement at the top level of a script. -/
inductive Statement where
  | imports (names : List String) (source : String)
  | function (name : String)
  | binding (name : String) (uses : List String)
  | exported (name : String)
  deriving DecidableEq, Repr

/-- The names that a statement declares. -/
def Statement.names : Statement → List String
  | .imports names _ => names
  | .function name | .binding name _ | .exported name => [name]

def isIdentifierCharacter (character : Char) : Bool :=
  character.isAlphanum || character = '_' || character = '$'

def leadingIdentifier (characters : List Char) : String := String.ofList (characters.takeWhile isIdentifierCharacter)

def identifiers (characters : List Char) : List String :=
  ((characters.splitOnP (!isIdentifierCharacter ·)).filter (!·.isEmpty)).map String.ofList

/-- Reads names with a word behind them, if there are any, and a source between single quotes. -/
def readImport (characters : List Char) : Statement :=
  let words := identifiers (characters.takeWhile (· ≠ '\''))
  let source := ((characters.dropWhile (· ≠ '\'')).drop 1).takeWhile (· ≠ '\'')
  .imports words.dropLast (String.ofList source)

/-- Reads a name with all that its value uses. -/
def readBinding (characters : List Char) : Statement :=
  .binding ((identifiers characters).headD "") (identifiers characters).tail

/-- Reads the name of a function. -/
def readFunction (characters : List Char) : Statement := .function (leadingIdentifier characters)

/-- Reads the name of a function that other scripts import. -/
def readExported (characters : List Char) : Statement := .exported (leadingIdentifier characters)

/-- The words with which statements start, each with the way to read what comes after it. -/
def forms : List (String × (List Char → Statement)) := [
  ("import ", readImport),
  ("export default function ", readExported),
  ("function ", readFunction),
  ("const ", readBinding),
  ("let ", readBinding),
  ("var ", readBinding)]

/-- The statement that starts a line, if any does. -/
def statement? (line : List Char) : Option Statement :=
  forms.findSome? fun (word, read) => (word.toList.isPrefixOf? line).map read

/-- The statements among characters. -/
def statementsOf (characters : List Char) : List Statement := (characters.splitOn '\n').filterMap statement?

def statements (text : String) : List Statement := statementsOf text.toList

theorem statements_ofList (characters : List Char) :
    statements (String.ofList characters) = statementsOf characters := by
  rw [statements, String.toList_ofList]

/-- The statements before and after the end of a line make up the whole. -/
theorem statementsOf_append_cons (first later : List Char) :
    statementsOf (first ++ '\n' :: later) = statementsOf first ++ statementsOf later := by
  rw [statementsOf, List.splitOn_append_cons_self, List.filterMap_append, statementsOf, statementsOf]

theorem statementsOf_ends (count : Nat) (later : List Char) :
    statementsOf (List.replicate count '\n' ++ later) = statementsOf later := by
  induction count with
  | zero => rfl
  | succ count ih =>
      have joined := statementsOf_append_cons [] (List.replicate count '\n' ++ later)
      rw [List.nil_append] at joined
      rw [List.replicate_succ, List.cons_append, joined, ih]
      rfl

/-- Texts with line ends between them have the statements of all. -/
theorem statements_intercalate (ends : Nat) (texts : List String) :
    statements ((String.ofList (List.replicate (ends + 1) '\n')).intercalate texts) = texts.flatMap statements := by
  induction texts with
  | nil => rfl
  | cons text others ih =>
      cases others with
      | nil => rw [String.intercalate_singleton, List.flatMap_singleton]
      | cons other rest =>
          rw [String.intercalate_cons_cons, List.flatMap_cons, ← ih, statements, String.toList_append,
            String.toList_append, String.toList_ofList, List.append_assoc, List.replicate_succ, List.cons_append,
            statementsOf_append_cons, statementsOf_ends, ← List.replicate_succ, statements, statements]

/-- Lines have the statements of all. -/
theorem statements_unlines (lines : List String) : statements (unlines lines) = lines.flatMap statements := by
  have ended : (unlines lines).toList = ("\n".intercalate lines).toList ++ ['\n'] := by
    rw [unlines, String.toList_append]
    rfl
  rw [statements, ended, statementsOf_append_cons]
  have joined := statements_intercalate 0 lines
  rw [statements] at joined
  exact (congrArg (· ++ statementsOf []) joined).trans (List.append_nil _)

/-- What has no line end has at most one statement. -/
theorem statementsOf_of_flat {characters : List Char} (flat : '\n' ∉ characters) :
    statementsOf characters = (statement? characters).toList := by
  rw [statementsOf, List.splitOn_eq_singleton flat]
  cases found : statement? characters <;> simp [found]

/-- A word with which a statement starts decides how the rest of the line is read. -/
theorem statement?_append : ∀ form ∈ forms, ∀ rest, statement? (form.1.toList ++ rest) = some (form.2 rest) := by
  intro form member rest
  simp only [forms, List.mem_cons, List.not_mem_nil, or_false] at member
  rcases member with rfl | rfl | rfl | rfl | rfl | rfl
  all_goals rfl

/-- A line that starts with such a word is one statement. -/
theorem statements_line {word rest : String} {read : List Char → Statement} (known : (word, read) ∈ forms)
    (flat : IsFlat rest) : statements (word ++ rest) = [read rest.toList] := by
  have plain : ∀ form ∈ forms, IsFlat form.1 := by decide
  have whole : IsFlat (word ++ rest) := isFlat_append (plain _ known) flat
  rw [statements, statementsOf_of_flat whole, String.toList_append, statement?_append _ known, Option.toList_some]

section Identifiers

/-- A text that is an identifier. It starts with no digit. -/
def isIdentifier (name : String) : Bool :=
  name.toList.head?.any (!·.isDigit) && name.toList.all isIdentifierCharacter

variable {name : String}

theorem forall_of_isIdentifier (named : isIdentifier name) :
    ∀ character ∈ name.toList, isIdentifierCharacter character := by
  rw [isIdentifier, Bool.and_eq_true, List.all_eq_true] at named
  exact named.2

theorem toList_ne_nil_of_isIdentifier (named : isIdentifier name) : name.toList ≠ [] := by
  intro nothing
  rw [isIdentifier, nothing] at named
  exact absurd named (by decide)

theorem isFlat_of_isIdentifier (named : isIdentifier name) : IsFlat name :=
  fun member => absurd (forall_of_isIdentifier named _ member) (by decide)

theorem leadingIdentifier_append (named : isIdentifier name) {rest : List Char}
    (ends : ∀ character ∈ rest.head?, isIdentifierCharacter character = false) :
    leadingIdentifier (name.toList ++ rest) = name := by
  rw [leadingIdentifier, takeWhile_append_of_ends (forall_of_isIdentifier named) ends, String.ofList_toList]

theorem identifiers_append_cons (first : List Char) {separator : Char}
    (apart : isIdentifierCharacter separator = false) (later : List Char) :
    identifiers (first ++ separator :: later) = identifiers first ++ identifiers later := by
  rw [identifiers, List.splitOnP_append_cons first later (by simp [apart]), List.filter_append, List.map_append,
    identifiers, identifiers]

theorem identifiers_cons {separator : Char} (apart : isIdentifierCharacter separator = false) (later : List Char) :
    identifiers (separator :: later) = identifiers later :=
  identifiers_append_cons [] apart later

theorem identifiers_of_isIdentifier (named : isIdentifier name) : identifiers name.toList = [name] := by
  have whole : name.toList.splitOnP (!isIdentifierCharacter ·) = [name.toList] :=
    List.splitOnP_eq_singleton fun character member => by simp [forall_of_isIdentifier named character member]
  have filled : [name.toList].filter (!·.isEmpty) = [name.toList] :=
    List.filter_cons_of_pos (by simpa using toList_ne_nil_of_isIdentifier named)
  rw [identifiers, whole, filled, List.map_singleton, String.ofList_toList]

/-- Identifiers between commas are those identifiers. -/
theorem identifiers_intercalate {names : List String} (named : ∀ name ∈ names, isIdentifier name) :
    identifiers (", ".intercalate names).toList = names := by
  induction names with
  | nil => rfl
  | cons name others ih =>
      rw [List.forall_mem_cons] at named
      cases others with
      | nil => rw [String.intercalate_singleton, identifiers_of_isIdentifier named.1]
      | cons other rest =>
          have spelled : (", ".intercalate (name :: other :: rest)).toList =
              name.toList ++ ',' :: (' ' :: (", ".intercalate (other :: rest)).toList) := by
            rw [String.intercalate_cons_cons, String.toList_append, String.toList_append, List.append_assoc]
            rfl
          rw [spelled, identifiers_append_cons _ (by decide), identifiers_cons (by decide), ih named.2,
            identifiers_of_isIdentifier named.1]
          rfl

end Identifiers

section Imports

/-- A character that ends neither a source nor a line. -/
def isUnquoted (character : Char) : Bool := character ≠ '\'' && character ≠ '\n'

theorem isUnquoted_of_isIdentifier {name : String} (named : isIdentifier name) :
    ∀ character ∈ name.toList, isUnquoted character := by
  intro character member
  have inside := forall_of_isIdentifier named character member
  rw [isUnquoted, Bool.and_eq_true, decide_eq_true_eq, decide_eq_true_eq]
  constructor <;> rintro rfl <;> exact absurd inside (by decide)

variable {clause source : List Char}

/-- What stands in front of the source is read as names, and the source as it is. -/
theorem readImport_quoted (before : ∀ character ∈ clause, isUnquoted character)
    (inside : ∀ character ∈ source, isUnquoted character) (rest : List Char) :
    readImport (clause ++ '\'' :: (source ++ '\'' :: rest)) =
      .imports (identifiers clause).dropLast (String.ofList source) := by
  have plain {characters : List Char} (unquoted : ∀ character ∈ characters, isUnquoted character) :
      ∀ character ∈ characters, decide (character ≠ '\'') := fun character member =>
    (Bool.and_eq_true_iff.mp (unquoted character member)).1
  have quote (more : List Char) : ∀ character ∈ ('\'' :: more).head?, decide (character ≠ '\'') = false := by simp
  rw [readImport, takeWhile_append_of_ends (plain before) (quote _), dropWhile_append_of_ends (plain before) (quote _),
    List.drop_one, List.tail_cons, takeWhile_append_of_ends (plain inside) (quote _)]

/-- A line that imports from a source names the words in front of it but the last one. -/
theorem statements_import (before : ∀ character ∈ clause, isUnquoted character)
    (inside : ∀ character ∈ source, isUnquoted character) {text : String}
    (spelled : text.toList = "import ".toList ++ (clause ++ '\'' :: (source ++ '\'' :: [';']))) :
    statements text = [.imports (identifiers clause).dropLast (String.ofList source)] := by
  have plain {characters : List Char} (unquoted : ∀ character ∈ characters, isUnquoted character) :
      '\n' ∉ characters := fun member => absurd (unquoted _ member) (by decide)
  have known : ("import ", readImport) ∈ forms := by simp [forms]
  have flat : IsFlat (String.ofList (clause ++ '\'' :: (source ++ '\'' :: [';']))) := by
    simp [IsFlat, plain before, plain inside]
  have whole : text = "import " ++ String.ofList (clause ++ '\'' :: (source ++ '\'' :: [';'])) := by
    rw [← String.toList_inj, spelled, String.toList_append]
    exact congrArg ("import ".toList ++ ·) String.toList_ofList.symm
  rw [whole, statements_line known flat, String.toList_ofList, readImport_quoted before inside]

end Imports

/-- A character with which no statement starts. -/
def isMargin (character : Char) : Bool := !character.isAlpha

/-- Each word with which a statement starts begins with a letter. -/
theorem forms_alpha : ∀ form ∈ forms, form.1.toList.head?.any Char.isAlpha := by
  decide

/-- No statement starts in a margin. -/
theorem statement?_eq_none {line : List Char} (margin : ∀ character ∈ line.head?, isMargin character) :
    statement? line = none := by
  rw [statement?, List.findSome?_eq_none_iff]
  rintro ⟨word, read⟩ member
  rw [Option.map_eq_none_iff, Option.eq_none_iff_forall_ne_some]
  intro rest found
  have letter := forms_alpha _ member
  rw [List.isPrefixOf?_eq_some_iff_append_eq] at found
  obtain ⟨first, starts, alpha⟩ := (Option.any_eq_true _ _).mp letter
  have outside := margin first (by rw [← found, List.head?_append, starts]; rfl)
  simp [isMargin, alpha] at outside

/-- Each line end has a margin behind it. -/
def isInset : List Char → Bool
  | [] => true
  | '\n' :: rest => rest.head?.any isMargin && isInset rest
  | _ :: rest => isInset rest

theorem isInset_cons {character : Char} (visible : character ≠ '\n') (rest : List Char) :
    isInset (character :: rest) = isInset rest := by
  rw [isInset]
  simp [visible]

theorem isInset_of_flat {characters : List Char} (flat : '\n' ∉ characters) : isInset characters := by
  induction characters with
  | nil => rfl
  | cons character rest ih =>
      rw [List.mem_cons, not_or] at flat
      rw [isInset_cons (Ne.symm flat.1)]
      exact ih flat.2

theorem isInset_append {first later : List Char} (before : isInset first) (after : isInset later) :
    isInset (first ++ later) := by
  induction first with
  | nil => exact after
  | cons character rest ih =>
      by_cases ending : character = '\n'
      · subst ending
        rw [isInset, Bool.and_eq_true] at before
        obtain ⟨next, starts, margin⟩ := (Option.any_eq_true _ _).mp before.1
        rw [List.cons_append, isInset, Bool.and_eq_true, List.head?_append, starts]
        exact ⟨margin, ih before.2⟩
      · rw [isInset_cons ending] at before
        rw [List.cons_append, isInset_cons ending]
        exact ih before

/-- The first line starts as the text does. -/
theorem head?_of_splitOn {characters first : List Char} {others : List (List Char)}
    (split : characters.splitOn '\n' = first :: others) : ∀ character ∈ first.head?, character ∈ characters.head? := by
  cases characters with
  | nil =>
      obtain ⟨rfl, -⟩ := List.cons_eq_cons.mp split
      simp
  | cons character rest =>
      rw [List.splitOn_cons_eq_if_modifyHead] at split
      split at split
      · obtain ⟨rfl, -⟩ := List.cons_eq_cons.mp split
        simp
      · obtain ⟨onward, more, below⟩ := List.exists_cons_of_ne_nil (List.splitOn_ne_nil '\n' rest)
        rw [below, List.modifyHead_cons] at split
        obtain ⟨rfl, -⟩ := List.cons_eq_cons.mp split
        simp

/-- Behind the first line of an inset text, all lines start in a margin. -/
theorem margin_of_isInset {characters : List Char} (inset : isInset characters) :
    ∀ line ∈ (characters.splitOn '\n').tail, ∀ character ∈ line.head?, isMargin character := by
  induction characters with
  | nil => simp
  | cons character rest ih =>
      -- A line end puts the first line of the rest behind it, and any other character joins that line.
      obtain ⟨first, others, below⟩ := List.exists_cons_of_ne_nil (List.splitOn_ne_nil '\n' rest)
      rw [List.splitOn_cons_eq_if_modifyHead]
      by_cases ending : character = '\n'
      · subst ending
        rw [isInset, Bool.and_eq_true] at inset
        rw [if_pos (beq_self_eq_true '\n'), List.tail_cons, below, List.forall_mem_cons]
        refine ⟨fun start member => ?_, by simpa [below] using ih inset.2⟩
        obtain ⟨next, starts, margin⟩ := (Option.any_eq_true _ _).mp inset.1
        have same := head?_of_splitOn below start member
        rw [starts, Option.mem_some] at same
        exact same ▸ margin
      · rw [isInset_cons ending] at inset
        rw [if_neg (by simpa using ending), below, List.modifyHead_cons, List.tail_cons]
        simpa [below] using ih inset

/-- An inset text that starts in a margin has no statement. -/
theorem statementsOf_of_isInset {characters : List Char} (inset : isInset characters)
    (starts : ∀ character ∈ characters.head?, isMargin character) : statementsOf characters = [] := by
  obtain ⟨first, others, split⟩ := List.exists_cons_of_ne_nil (List.splitOn_ne_nil '\n' characters)
  have behind := margin_of_isInset inset
  rw [split, List.tail_cons] at behind
  rw [statementsOf, split, List.filterMap_eq_nil_iff, List.forall_mem_cons]
  exact ⟨statement?_eq_none fun character member => starts character (head?_of_splitOn split character member),
    fun line among => statement?_eq_none (behind line among)⟩

/-- An inset text that starts in a margin. -/
def isQuiet (characters : List Char) : Bool := isInset characters && characters.head?.all isMargin

/-- Quiet lines in front of lines without statements have none, either. -/
theorem forall_quiet_cons {characters : List Char} (quiet : isQuiet characters) {others : List String}
    (none : ∀ text ∈ others, statements text = []) :
    ∀ text ∈ String.ofList characters :: others, statements text = [] := by
  rw [isQuiet, Bool.and_eq_true, Option.all_eq_true] at quiet
  rw [List.forall_mem_cons, statements_ofList]
  exact ⟨statementsOf_of_isInset quiet.1 quiet.2, none⟩

end Storyboard.Script

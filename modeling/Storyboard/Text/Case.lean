/-
This file defines changes of letter case.
-/

import Storyboard.Text.CaseTable

namespace Storyboard.Text

/-- The counterpart of a code point in a table of runs. -/
def shifted? (runs : List CaseRun) (code : Nat) : Option Nat :=
  (runs.find? fun run =>
    run.first ≤ code && code ≤ run.last && (code - run.first) % run.stride = 0).map fun run =>
      ((code : Int) + run.shift).toNat

/-- The form of a character given by a table of runs and one of expansions. -/
def caseForm (runs : List CaseRun) (expansions : List (Nat × List Nat)) (character : Char) : List Char :=
  match expansions.lookup character.toNat with
  | some codes => codes.map Char.ofNat
  | none => [(shifted? runs character.toNat).elim character Char.ofNat]

/-- The small form of a character on its own. -/
def smallForm (character : Char) : List Char :=
  if character.toNat < 0x80 then [character.toLower] else caseForm smallRuns smallExpansions character

def titleForm (character : Char) : List Char :=
  if character.toNat < 0x80 then [character.toUpper] else caseForm titleRuns titleExpansions character

/-- Some marks stand inside a word without ending it. -/
def isCaseIgnorable (character : Char) : Bool :=
  if character.toNat < 0x80 then character ∈ ['\'', '.', ':', '^', '`']
  else inRanges caseIgnorableRanges character.toNat

/-- Some characters are letters with a case. -/
def isCased (character : Char) : Bool :=
  if character.toNat < 0x80 then character.isAlpha else inRanges casedRanges character.toNat

/-- The first character past the marks inside a word is a letter with a case. -/
def meetsCased (characters : List Char) : Bool :=
  ((characters.dropWhile isCaseIgnorable).head?.map isCased).getD false

/-- The small form of characters, where `before` holds those already read, the last one first. -/
def smallLetters (before : List Char) : List Char → List Char
  | [] => []
  | character :: rest =>
      let form :=
        -- A capital sigma that ends a word has a small form of its own.
        if character = 'Σ' then (if meetsCased before && !meetsCased rest then ['ς'] else ['σ'])
        else smallForm character
      form ++ smallLetters (character :: before) rest

/-- Text in small letters. -/
def toSmall (text : String) : String := String.ofList (smallLetters [] text.toList)

/-- Text whose first character is in title form and whose rest is in small letters. -/
def capitalize : List Char → List Char
  | [] => []
  | first :: rest => titleForm first ++ smallLetters [first] rest

/--
The capital form of a character as far as it consists of plain letters. All other characters stay,
which is enough to compare with names in plain letters.
-/
def plainCapital (character : Char) : List Char :=
  match character with
  | 'ı' => ['I']
  | 'ſ' => ['S']
  | 'ß' => ['S', 'S']
  | 'ﬀ' => ['F', 'F']
  | 'ﬁ' => ['F', 'I']
  | 'ﬂ' => ['F', 'L']
  | 'ﬃ' => ['F', 'F', 'I']
  | 'ﬄ' => ['F', 'F', 'L']
  | 'ﬅ' => ['S', 'T']
  | 'ﬆ' => ['S', 'T']
  | other => [other.toUpper]

/-- Text in capitals, to be compared with a name in plain letters. -/
def toCapitals (text : String) : String := String.ofList (text.toList.flatMap plainCapital)

end Storyboard.Text

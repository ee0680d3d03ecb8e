/-
This file states when the quoted string of a font family is whole. A line end between two characters of the family
breaks it off.
-/

import Storyboard.Markup.Declaration
import Storyboard.Proofs.Text.Trim

namespace Storyboard.Declaration

open Text

/-- The line ends of style sheets. -/
def endsLine (character : Char) : Bool := character ∈ ['\n', '\x0d', '\x0c']

/-- A character that stands for itself in a quoted string. -/
def isQuotable (character : Char) : Bool := !(character ∈ ['\'', '"', '\\']) && !endsLine character

/-- A quoted string of a style sheet, which ends at its last character and not before. -/
def IsStringToken (text : String) : Prop :=
  ∃ inside : List Char, inside.all isQuotable ∧ text.toList = '\'' :: (inside ++ ['\''])

/-- The ways in which a quoted string of a style sheet can end. -/
inductive StringEnd where
  /-- The string ends at its quote, and these characters follow. -/
  | closed (behind : List Char)
  /-- The string breaks off in front of these characters, which start with a line end. -/
  | broken (behind : List Char)
  /-- The string takes up all that follows. -/
  | unclosed

/-- Reads what stands behind the first quote of a string, where a character behind a backslash is passed over. -/
def readString : (escaped : Bool) → List Char → StringEnd
  | _, [] => .unclosed
  | true, _ :: rest => readString false rest
  | false, character :: rest =>
      if character = '\'' then .closed rest
      else if endsLine character then .broken (character :: rest)
      else readString (character = '\\') rest

/-- Reads a string at its first quote. -/
def stringEnd? : List Char → Option StringEnd
  | [] => none
  | first :: rest => if first = '\'' then some (readString false rest) else none

/-- A string is read up to its last quote when its characters stand for themselves. -/
theorem readString_closed {inside : List Char} (clean : inside.all isQuotable) (behind : List Char) :
    readString false (inside ++ '\'' :: behind) = .closed behind := by
  induction inside with
  | nil => rfl
  | cons character rest ih =>
      obtain ⟨first, others⟩ := Bool.and_eq_true_iff.mp clean
      obtain ⟨quote, line⟩ : character ∉ ['\'', '"', '\\'] ∧ endsLine character = false := by
        simpa [isQuotable] using first
      simp only [List.mem_cons, not_or] at quote
      rw [List.cons_append, readString, if_neg quote.1, line, if_neg (by simp), decide_eq_false quote.2.2.1]
      exact ih others

/-- A string without quotes and backslashes breaks off at a line end. -/
theorem readString_broken {inside : List Char} (plain : ∀ character ∈ inside, character ≠ '\'' ∧ character ≠ '\\')
    (line : ∃ character ∈ inside, endsLine character) :
    ∃ rest, ∀ behind, readString false (inside ++ behind) = .broken (rest ++ behind) := by
  induction inside with
  | nil => simp at line
  | cons character rest ih =>
      obtain ⟨⟨quote, escape⟩, others⟩ := List.forall_mem_cons.mp plain
      cases ends : endsLine character with
      | true =>
          refine ⟨character :: rest, fun behind => ?_⟩
          rw [List.cons_append, readString, if_neg quote, if_pos ends]
      | false =>
          obtain ⟨last, member, ending⟩ := line
          have inner : last ∈ rest := by
            rcases List.mem_cons.mp member with rfl | inner
            · simp [ends] at ending
            · exact inner
          obtain ⟨left, reads⟩ := ih others ⟨last, inner, ending⟩
          refine ⟨left, fun behind => ?_⟩
          rw [List.cons_append, readString, if_neg quote, ends, if_neg (by simp), decide_eq_false escape]
          exact reads behind

/-- What is left of a font family between its quotes. -/
def fontName (family : String) : List Char := trimBy isBlank (family.toList.filter (!isFontBreaking ·))

theorem fontFamily_eq (family : String) : fontFamily family =
    if (fontName family).isEmpty then "sans-serif" else String.ofList ('\'' :: fontName family ++ ['\'']) := rfl

/-- A character that is left of a font family wherever it stands. -/
def isSolid (character : Char) : Bool := !isFontBreaking character && !isBlank character

/-- A line end stands between two characters of a font family that are left of it. -/
def HasInnerLineEnd (family : String) : Prop :=
  ∃ before line after, family.toList = before ++ line :: after ∧ endsLine line ∧ before.any isSolid ∧ after.any isSolid

/-- Line ends are dropped at the ends of a font family only. -/
theorem plain_of_endsLine {character : Char} (ends : endsLine character) :
    isBlank character ∧ isFontBreaking character = false := by
  have each : ['\n', '\x0d', '\x0c'].all fun line => isBlank line && !isFontBreaking line := by decide
  simpa using List.all_eq_true.mp each character (of_decide_eq_true ends)

/-- The line ends that are left of a font family are those between characters that are left of it. -/
theorem exists_mem_fontName_iff (family : String) :
    (∃ character ∈ fontName family, endsLine character) ↔ HasInnerLineEnd family := by
  constructor
  · rintro ⟨line, member, ends⟩
    obtain ⟨before, after, parts, ⟨first, onLeft, shown⟩, last, onRight, visible⟩ :=
      (mem_trimBy_iff (plain_of_endsLine ends).1 _).mp member
    obtain ⟨front, back, whole, rfl, backParts⟩ := List.filter_eq_append_iff.mp parts
    obtain ⟨middle, behind, rfl, -, -, rfl⟩ := List.filter_eq_cons_iff.mp backParts
    obtain ⟨inFront, keepsFirst⟩ := List.mem_filter.mp onLeft
    obtain ⟨inBack, keepsLast⟩ := List.mem_filter.mp onRight
    refine ⟨front ++ middle, line, behind, by simp [whole], ends, ?_, ?_⟩
    · exact List.any_eq_true.mpr ⟨first, List.mem_append_left _ inFront, by simpa [isSolid, shown] using keepsFirst⟩
    · exact List.any_eq_true.mpr ⟨last, inBack, by simpa [isSolid, visible] using keepsLast⟩
  · rintro ⟨before, line, after, whole, ends, onLeft, onRight⟩
    obtain ⟨blank, keeps⟩ := plain_of_endsLine ends
    have solid {side : List Char} (inSide : side.any isSolid) :
        ∃ character ∈ side.filter (!isFontBreaking ·), isBlank character = false := by
      obtain ⟨character, member, both⟩ := List.any_eq_true.mp inSide
      obtain ⟨kept, shown⟩ := Bool.and_eq_true_iff.mp both
      exact ⟨character, List.mem_filter.mpr ⟨member, kept⟩, by simpa using shown⟩
    refine ⟨line, (mem_trimBy_iff blank _).mpr ⟨_, _, ?_, solid onLeft, solid onRight⟩, ends⟩
    rw [whole, List.filter_append, List.filter_cons_of_pos (by simp [keeps])]

/-- What is left of a font family holds neither quotes nor backslashes. -/
theorem plain_fontName (family : String) :
    ∀ character ∈ fontName family, character ∉ ['\'', '"', '\\'] := by
  intro character member breaking
  have each : ['\'', '"', '\\'].all isFontBreaking := by decide
  have kept := (List.mem_filter.mp (mem_of_mem_trimBy member)).2
  simp [List.all_eq_true.mp each character breaking] at kept

/-- A font family that is named is written between quotes. -/
theorem toList_fontFamily {family : String} (named : fontName family ≠ []) :
    (fontFamily family).toList = '\'' :: (fontName family ++ ['\'']) := by
  rw [fontFamily_eq, if_neg (by simpa using named), String.toList_ofList]
  rfl

theorem ne_general_of_named {family : String} (named : fontName family ≠ []) : fontFamily family ≠ "sans-serif" := by
  intro same
  have first : (fontFamily family).toList.head? = some 's' := by rw [same]; rfl
  rw [toList_fontFamily named] at first
  cases first

theorem fontFamily_of_unnamed {family : String} (unnamed : fontName family = []) :
    fontFamily family = "sans-serif" := by
  rw [fontFamily_eq, unnamed]
  rfl

/-- What is left of a font family stands for itself between quotes when it holds no line end. -/
theorem all_isQuotable_iff (family : String) : (fontName family).all isQuotable ↔ ¬HasInnerLineEnd family := by
  rw [← exists_mem_fontName_iff, List.all_eq_true]
  constructor
  · rintro clean ⟨line, member, ends⟩
    have quotable := clean line member
    simp [isQuotable, ends] at quotable
  · intro none character member
    have line : endsLine character = false := Bool.eq_false_iff.mpr fun ends => none ⟨character, member, ends⟩
    have plain := plain_fontName family character member
    simp only [isQuotable, line, Bool.not_false, Bool.and_true, Bool.not_eq_true', decide_eq_false_iff_not]
    exact plain

theorem isStringToken_iff {family : String} (named : fontName family ≠ []) :
    IsStringToken (fontFamily family) ↔ (fontName family).all isQuotable := by
  rw [IsStringToken, toList_fontFamily named]
  constructor
  · rintro ⟨inside, clean, same⟩
    rwa [List.append_cancel_right (List.cons.inj same).2]
  · intro clean
    exact ⟨fontName family, clean, rfl⟩

/-- A named font family is read up to its last quote, or breaks off at a line end and leaves this quote behind. -/
theorem stringEnd?_fontFamily {family : String} (named : fontName family ≠ []) :
    (¬HasInnerLineEnd family → ∀ behind,
      stringEnd? ((fontFamily family).toList ++ behind) = some (.closed behind)) ∧
    (HasInnerLineEnd family → ∃ rest, ∀ behind,
      stringEnd? ((fontFamily family).toList ++ behind) = some (.broken (rest ++ '\'' :: behind))) := by
  have start (behind : List Char) : stringEnd? ((fontFamily family).toList ++ behind) =
      some (readString false (fontName family ++ '\'' :: behind)) := by
    rw [toList_fontFamily named, List.cons_append, List.append_assoc]
    rfl
  constructor
  · intro whole behind
    rw [start, readString_closed ((all_isQuotable_iff family).mpr whole)]
  · intro inner
    have plain : ∀ character ∈ fontName family, character ≠ '\'' ∧ character ≠ '\\' := by
      intro character member
      have both := plain_fontName family character member
      simp only [List.mem_cons, not_or] at both
      exact ⟨both.1, both.2.2.1⟩
    obtain ⟨rest, breaks⟩ := readString_broken plain ((exists_mem_fontName_iff family).mpr inner)
    exact ⟨rest, fun behind => by rw [start, breaks]⟩

/--
A font family is written as the general one or as a whole quoted string, unless a line end stands between two characters
that are left of it. A whole string is read up to its last quote, whatever follows. Any other string breaks off at a
line end, and its last quote is left to start a further string.
-/
theorem fontFamily_whole_iff (family : String) :
    (fontFamily family = "sans-serif" ∨ IsStringToken (fontFamily family) ↔ ¬HasInnerLineEnd family) ∧
    (∀ behind, fontFamily family = "sans-serif" ∨
        stringEnd? ((fontFamily family).toList ++ behind) = some (.closed behind) ↔ ¬HasInnerLineEnd family) ∧
    ((∃ rest, ∀ behind, stringEnd? ((fontFamily family).toList ++ behind) = some (.broken (rest ++ '\'' :: behind))) ↔
      HasInnerLineEnd family) := by
  rcases eq_or_ne (fontName family) [] with unnamed | named
  · have general := fontFamily_of_unnamed unnamed
    have whole : ¬HasInnerLineEnd family := (all_isQuotable_iff family).mp (by simp [unnamed])
    refine ⟨by simp [general, whole], by simp [general, whole], ?_⟩
    apply iff_of_false _ whole
    rintro ⟨rest, breaks⟩
    have unread : stringEnd? ((fontFamily family).toList ++ []) = none := by
      rw [general]
      rfl
    rw [breaks] at unread
    cases unread
  · have different := ne_general_of_named named
    obtain ⟨closed, broken⟩ := stringEnd?_fontFamily named
    refine ⟨?_, fun behind => ?_, ?_⟩
    · rw [or_iff_right different, isStringToken_iff named, all_isQuotable_iff]
    · rw [or_iff_right different]
      refine ⟨fun reads inner => ?_, fun whole => closed whole behind⟩
      obtain ⟨rest, breaks⟩ := broken inner
      rw [breaks] at reads
      cases reads
    · refine ⟨fun ⟨rest, breaks⟩ => ?_, broken⟩
      by_contra whole
      have reads := closed whole []
      rw [breaks] at reads
      cases reads

/-- A line end between two words breaks a font family off. -/
theorem fontFamily_torn :
    ¬(fontFamily "Open\nSans" = "sans-serif" ∨ IsStringToken (fontFamily "Open\nSans")) := by
  have named : fontName "Open\nSans" = "Open\nSans".toList := by decide
  rw [or_iff_right (ne_general_of_named (by simp [named])), isStringToken_iff (by simp [named]), named]
  decide

end Storyboard.Declaration

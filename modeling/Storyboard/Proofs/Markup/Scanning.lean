/-
This file states how the reader of markup passes over blanks, and that it reads back names, escaped text and literals.
-/

import Storyboard.Proofs.Json.WrittenString
import Storyboard.Proofs.Markup.Reader
import Storyboard.Proofs.Number.Written
import Storyboard.Proofs.Text.Trim

namespace Storyboard

section Runs

variable {α : Type} {test : α → Bool} {run rest : List α}

/-- A list ends a run at once when its first item fails the test. -/
theorem ends_cons {first : α} (fails : test first = false) (rest : List α) :
    ∀ item ∈ (first :: rest).head?, test item = false := by
  intro item same
  obtain rfl := Option.mem_some.mp same
  exact fails

/-- Nothing is dropped in front of an item that fails the test. -/
theorem dropWhile_eq_self (ends : ∀ item ∈ rest.head?, test item = false) : rest.dropWhile test = rest := by
  cases rest with
  | nil => rfl
  | cons item rest => simp [ends item rfl]

/-- A run is dropped up to where it ends. -/
theorem dropWhile_append_of_ends (inside : ∀ item ∈ run, test item)
    (ends : ∀ item ∈ rest.head?, test item = false) : (run ++ rest).dropWhile test = rest := by
  rw [List.dropWhile_append_of_pos inside, dropWhile_eq_self ends]

/-- A run is taken up to where it ends. -/
theorem takeWhile_append_of_ends (inside : ∀ item ∈ run, test item)
    (ends : ∀ item ∈ rest.head?, test item = false) : (run ++ rest).takeWhile test = run := by
  rw [List.takeWhile_append_of_pos inside]
  cases rest with
  | nil => simp
  | cons item rest => simp [ends item rfl]

/-- What is taken from a list ends at an item that fails the test, if not before. -/
theorem takeWhile_append_cons {item : α} (fails : test item = false) (run rest : List α) :
    (run ++ item :: rest).takeWhile test = run.takeWhile test := by
  induction run with
  | nil => exact List.takeWhile_cons_of_neg (by simp [fails])
  | cons first run ih => rw [List.cons_append, List.takeWhile_cons, List.takeWhile_cons, ih]

end Runs

namespace Markup

section Repeatedly

variable {α : Type} {step : List Char → Option (α × List Char)}

/-- Items in front of those that are read. -/
def ahead (items : List α) (read : List α × List Char) : List α × List Char := (items ++ read.1, read.2)

@[simp] theorem ahead_nil (read : List α × List Char) : ahead [] read = read := rfl

@[simp] theorem ahead_ahead (first later : List α) (read : List α × List Char) :
    ahead first (ahead later read) = ahead (first ++ later) read := by
  simp [ahead]

/-- Blanks in front are passed over. -/
theorem repeatedly_blanks {pad : List Char} (blank : ∀ character ∈ pad, Text.isBlank character)
    (characters : List Char) : repeatedly step (pad ++ characters) = repeatedly step characters := by
  rw [repeatedly, repeatedly, List.dropWhile_append_of_pos blank]

theorem repeatedly_blank {character : Char} (blank : Text.isBlank character) (characters : List Char) :
    repeatedly step (character :: characters) = repeatedly step characters := by
  rw [repeatedly, repeatedly, List.dropWhile_cons_of_pos blank]

/-- An item that is read in front comes first. -/
theorem repeatedly_item {characters after : List Char} {item : α}
    (visible : ∀ character ∈ characters.head?, Text.isBlank character = false)
    (read : step characters = some (item, after)) (shorter : after.length < characters.length) :
    repeatedly step characters = ahead [item] (repeatedly step after) := by
  rw [repeatedly, dropWhile_eq_self visible]
  simp only [read, dif_pos shorter, ahead, List.singleton_append]

/-- The reading ends where no item is found. -/
theorem repeatedly_end {characters : List Char}
    (visible : ∀ character ∈ characters.head?, Text.isBlank character = false) (stuck : step characters = none) :
    repeatedly step characters = ([], characters) := by
  rw [repeatedly, dropWhile_eq_self visible]
  simp only [stuck]

end Repeatedly

/-- A text that can stand as a name. -/
def isName (name : String) : Bool := !name.toList.isEmpty && name.toList.all isNameCharacter

/-- Names are made of plain visible characters. -/
theorem code_of_isNameCharacter {character : Char} (inside : isNameCharacter character) :
    0x2D ≤ character.toNat ∧ character.toNat ≤ 0x7A := by
  rcases Bool.or_eq_true_iff.mp inside with alphanumeric | hyphen
  · have bounds := code_of_isAlphanum alphanumeric
    omega
  · rw [of_decide_eq_true hyphen]
    decide

/-- Plain letters and digits are among the first 128 characters. -/
theorem toNat_lt_of_isAlphanum {character : Char} (inside : character.isAlphanum) : character.toNat < 0x80 := by
  have bounds := code_of_isAlphanum inside
  omega

/-- What all of the first 128 characters have been tried for holds of each of them. -/
@[elab_as_elim]
theorem of_forall_lt {holds : Char → Prop} {character : Char} (bounded : character.toNat < 0x80)
    (all : ∀ code < 0x80, holds (Char.ofNat code)) : holds character := by
  have tried := all character.toNat bounded
  rwa [Char.ofNat_toNat] at tried

/-- No blank stands in a name. -/
theorem isBlank_of_isNameCharacter {character : Char} (inside : isNameCharacter character) :
    Text.isBlank character = false := by
  obtain ⟨low, high⟩ := code_of_isNameCharacter inside
  simp only [Text.isBlank, Bool.or_eq_false_iff, Bool.and_eq_false_iff, decide_eq_false_iff_not]
  omega

/-- A name starts with one of its characters. -/
theorem exists_of_isName {name : String} (named : isName name) :
    ∃ first rest, name.toList = first :: rest ∧ isNameCharacter first := by
  simp only [isName, Bool.and_eq_true, List.all_eq_true] at named
  cases characters : name.toList with
  | nil => simp [characters] at named
  | cons first rest => exact ⟨first, rest, rfl, named.2 first (by simp [characters])⟩

/-- A name is read up to the character that does not belong to it. -/
theorem readName?_append {name : String} (named : isName name) {rest : List Char}
    (ends : ∀ character ∈ rest.head?, isNameCharacter character = false) :
    readName? (name.toList ++ rest) = some (name, rest) := by
  obtain ⟨first, others, characters, -⟩ := exists_of_isName named
  simp only [isName, Bool.and_eq_true, List.all_eq_true] at named
  rw [readName?, takeWhile_append_of_ends named.2 ends, dropWhile_append_of_ends named.2 ends]
  split
  · rename_i empty
    simp [characters] at empty
  · rw [String.ofList_toList]

/-- A text without quotes is read up to the quote behind it. -/
theorem readQuoted?_append {text : List Char} (clean : ∀ character ∈ text, character ≠ '"') (rest : List Char) :
    readQuoted? (text ++ '"' :: rest) = some (text, rest) := by
  have inside : ∀ character ∈ text, decide (character ≠ '"') := by simpa using clean
  have ends : ∀ character ∈ ('"' :: rest).head?, decide (character ≠ '"') = false := by simp
  rw [readQuoted?, dropWhile_append_of_ends inside ends, takeWhile_append_of_ends inside ends]

/-- A character that starts no entity stands for itself. -/
theorem decode_cons {character : Char} (plain : character ≠ '&') (rest : List Char) :
    decode (character :: rest) = character :: decode rest := by
  rw [decode] <;> simp [plain]

/-- The entities of written text are decoded. -/
theorem decode_escapeText (text rest : List Char) :
    decode (text.flatMap escapeTextCharacter ++ rest) = text ++ decode rest := by
  induction text with
  | nil => rfl
  | cons character others ih =>
      rw [List.flatMap_cons, List.append_assoc, List.cons_append, ← ih]
      unfold escapeTextCharacter
      split
      · rfl
      · rfl
      · rfl
      · rename_i noAmpersand _ _
        exact decode_cons noAmpersand _

/-- The entities of a written attribute are decoded. -/
theorem decode_escapeAttribute (text : List Char) : decode (text.flatMap escapeAttributeCharacter) = text := by
  induction text with
  | nil => rfl
  | cons character others ih =>
      rw [List.flatMap_cons]
      unfold escapeAttributeCharacter
      split
      · exact congrArg _ ih
      · have single := decode_escapeText [character] (others.flatMap escapeAttributeCharacter)
        rw [List.flatMap_cons, List.flatMap_nil, List.append_nil, ih] at single
        exact single

/-- A character of written text is one that is written as it is, or belongs to an entity. -/
theorem mem_escapeTextCharacter {source character : Char} (inside : character ∈ escapeTextCharacter source) :
    escapeTextCharacter source = [source] ∧ character = source ∨ character ∈ "&amp;&lt;&gt;".toList := by
  unfold escapeTextCharacter at inside ⊢
  split at inside
  · exact .inr (List.mem_append_left "&lt;&gt;".toList inside)
  · exact .inr (List.mem_append_right "&amp;".toList (List.mem_append_left "&gt;".toList inside))
  · exact .inr (List.mem_append_right "&amp;&lt;".toList inside)
  · exact .inl ⟨rfl, List.mem_singleton.mp inside⟩

/-- No quote stands in a written attribute. -/
theorem ne_quote_of_mem_escapeAttribute {text : List Char} {character : Char}
    (member : character ∈ text.flatMap escapeAttributeCharacter) : character ≠ '"' := by
  obtain ⟨source, -, inside⟩ := List.mem_flatMap.mp member
  rintro rfl
  unfold escapeAttributeCharacter at inside
  split at inside
  · simp at inside
  · rename_i noQuote
    obtain ⟨-, same⟩ | entity := mem_escapeTextCharacter inside
    · exact noQuote same.symm
    · exact absurd entity (by decide)

/-- A written string is read as a literal. -/
theorem readLiteral?_stringText (text : String) (rest : List Char) :
    readLiteral? ((Json.stringText text).toList ++ rest) = some (.string text, rest) := by
  rw [readLiteral?, Json.readValue_stringText text _ rest (by omega)]

end Markup

end Storyboard

/-
This file states that a written JSON string is read back, whatever characters it holds and whatever follows it.
-/

import Storyboard.Json.Printer
import Storyboard.Json.Reader

namespace Storyboard

namespace Text

theorem hexValue?_hexDigit {value : Nat} (small : value < 16) : hexValue? (hexDigit value) = some value := by
  have all : ∀ value < 16, hexValue? (hexDigit value) = some value := by decide
  exact all value small

theorem length_hexText (width value : Nat) : (hexText width value).length = width := by
  induction width generalizing value with
  | zero => rfl
  | succ width ih => rw [hexText, List.length_append, ih, List.length_singleton]

end Text

namespace Json

/-- Four digits give their unit back. -/
theorem readUnit?_hexText {unit : Nat} (bounded : unit < 0x10000) (rest : List Char) :
    readUnit? (Text.hexText 4 unit ++ rest) = some unit := by
  have digit (value : Nat) : Text.hexValue? (Text.hexDigit (value % 16)) = some (value % 16) :=
    Text.hexValue?_hexDigit (Nat.mod_lt _ (by decide))
  simp only [Text.hexText, List.nil_append, List.cons_append, readUnit?, digit, Option.bind_eq_bind, Option.bind_some,
    Option.pure_def, Option.some.injEq]
  omega

theorem drop_hexText (unit : Nat) (rest : List Char) : (Text.hexText 4 unit ++ rest).drop 4 = rest :=
  List.drop_left' (Text.length_hexText 4 unit)

/-- A unit that is a character of its own gives that character. -/
theorem readUnits_hexText {character : Char} (single : character.toNat < 0x10000) (letterOn : List Char)
    {rest : List Char} (more : rest ≠ []) :
    readUnits letterOn (Text.hexText 4 character.toNat ++ rest) = .ok (character, rest) := by
  have whole : isHighUnit character.toNat = false ∧ isLowUnit character.toNat = false := by
    have valid : character.toNat < 0xD800 ∨ 0xDFFF < character.toNat ∧ character.toNat < 0x110000 := character.valid
    simp only [isHighUnit, isLowUnit, Bool.and_eq_false_iff, decide_eq_false_iff_not]
    omega
  have given : wholeUnit character.toNat rest = .ok (character, rest) := by
    rw [wholeUnit, whole.1, whole.2, Char.ofNat_toNat]
    rfl
  rw [readUnits, drop_hexText, if_neg (by simpa using more), readUnit?_hexText single]
  dsimp only
  split
  · rw [if_neg (by simp [whole.1]), given]
  · rw [given]

/-- Two units give the character that they are the halves of. -/
theorem readUnits_pair {character : Char} (large : 0x10000 ≤ character.toNat) (letterOn : List Char)
    {rest : List Char} (more : rest ≠ []) :
    readUnits letterOn (Text.hexText 4 (0xD800 + (character.toNat - 0x10000) / 0x400) ++
      (unitEscape (0xDC00 + (character.toNat - 0x10000) % 0x400) ++ rest)) = .ok (character, rest) := by
  have valid : character.toNat < 0xD800 ∨ 0xDFFF < character.toNat ∧ character.toNat < 0x110000 := character.valid
  have upper : 0xD800 + (character.toNat - 0x10000) / 0x400 < 0xDC00 := by omega
  have lower : (character.toNat - 0x10000) % 0x400 < 0x400 := Nat.mod_lt _ (by decide)
  have isHigh : isHighUnit (0xD800 + (character.toNat - 0x10000) / 0x400) := by
    simp only [isHighUnit, Bool.and_eq_true, decide_eq_true_eq]
    omega
  have isLow : isLowUnit (0xDC00 + (character.toNat - 0x10000) % 0x400) := by
    simp only [isLowUnit, Bool.and_eq_true, decide_eq_true_eq]
    omega
  have joined : 0x10000 + (0xD800 + (character.toNat - 0x10000) / 0x400 - 0xD800) * 0x400 +
      (0xDC00 + (character.toNat - 0x10000) % 0x400 - 0xDC00) = character.toNat := by omega
  rw [readUnits, drop_hexText, readUnit?_hexText (by omega), if_neg (by simp [unitEscape])]
  simp only [unitEscape, List.cons_append, drop_hexText]
  rw [if_pos ⟨isHigh, by simpa using more⟩, readUnit?_hexText (by omega)]
  simp only [isLow, if_true, joined, Char.ofNat_toNat]

/-- A written character is read back, when more characters follow. -/
theorem readString_escapeCharacter (quoteOn : List Char) (fuel : Nat) (done : List Char) (character : Char)
    {rest : List Char} (more : rest ≠ []) :
    readString quoteOn (fuel + 1) done (escapeCharacter character ++ rest) =
      readString quoteOn fuel (character :: done) rest := by
  have escaped {escape : List Char} (read : ∀ backslashOn,
      readEscape quoteOn backslashOn (escape ++ rest) = .ok (character, rest)) :
      readString quoteOn (fuel + 1) done ('\\' :: escape ++ rest) =
        readString quoteOn fuel (character :: done) rest := by
    rw [List.cons_append, readString, if_neg (by decide), if_pos rfl, read]
  have short {code : Nat} (found : character.toNat = code) : character = Char.ofNat code := by
    rw [← found, Char.ofNat_toNat]
  unfold escapeCharacter
  dsimp only
  split
  · rename_i quote
    exact escaped fun _ => by rw [quote]; rfl
  split
  · rename_i backslash
    exact escaped fun _ => by rw [backslash]; rfl
  split
  · rename_i code
    exact escaped fun _ => by rw [short code]; rfl
  split
  · rename_i code
    exact escaped fun _ => by rw [short code]; rfl
  split
  · rename_i code
    exact escaped fun _ => by rw [short code]; rfl
  split
  · rename_i code
    exact escaped fun _ => by rw [short code]; rfl
  split
  · rename_i code
    exact escaped fun _ => by rw [short code]; rfl
  split
  · rename_i noQuote noBackslash _ _ _ _ _ plain
    simp only [Bool.and_eq_true, decide_eq_true_eq] at plain
    rw [List.singleton_append, readString, if_neg noQuote, if_neg noBackslash, if_neg (by omega)]
  split
  · rename_i single
    refine escaped fun _ => ?_
    rw [List.cons_append, readEscape]
    exact readUnits_hexText single _ more
  · rename_i large
    rw [unitEscape, List.cons_append]
    refine escaped fun _ => ?_
    rw [List.cons_append, List.cons_append, List.append_assoc, readEscape]
    exact readUnits_pair (by omega) _ more

/-- A written string is read up to the quote that closes it. -/
theorem readString_flatMap (quoteOn rest : List Char) :
    ∀ (characters done : List Char) (fuel : Nat), characters.length < fuel →
      readString quoteOn fuel done (characters.flatMap escapeCharacter ++ '"' :: rest) =
        .ok (String.ofList (done.reverse ++ characters), rest)
  | _, _, 0, room => absurd room (Nat.not_lt_zero _)
  | [], done, fuel + 1, _ => by simp [readString]
  | character :: others, done, fuel + 1, room => by
      have later := readString_flatMap quoteOn rest others (character :: done) fuel (by simpa using room)
      rw [List.flatMap_cons, List.append_assoc, readString_escapeCharacter _ _ _ _ (by simp), later]
      simp

/-- A written character takes up at least one character. -/
theorem length_escapeCharacter_pos (character : Char) : 1 ≤ (escapeCharacter character).length := by
  unfold escapeCharacter
  dsimp only
  repeat' split
  all_goals simp [unitEscape]

theorem length_le_flatMap (characters : List Char) :
    characters.length ≤ (characters.flatMap escapeCharacter).length := by
  induction characters with
  | nil => simp
  | cons character rest ih =>
      have first := length_escapeCharacter_pos character
      rw [List.flatMap_cons, List.length_append, List.length_cons]
      omega

theorem toList_stringText (text : String) (rest : List Char) :
    (stringText text).toList ++ rest = '"' :: (text.toList.flatMap escapeCharacter ++ '"' :: rest) := by
  rw [stringText, String.toList_ofList, List.cons_append, List.cons_append, List.append_assoc, List.singleton_append]

/-- A written string is read as a value, and what follows is left. -/
theorem readValue_stringText (text : String) (room : Nat) (rest : List Char) {fuel : Nat}
    (enough : ((stringText text).toList ++ rest).length ≤ fuel) :
    readValue fuel room ((stringText text).toList ++ rest) = .ok (.string text, rest) := by
  have short := length_le_flatMap text.toList
  rw [toList_stringText] at enough ⊢
  simp only [List.length_cons, List.length_append] at enough
  obtain ⟨less, rfl⟩ : ∃ less, fuel = less + 1 := ⟨fuel - 1, by omega⟩
  have inside := readString_flatMap ('"' :: (text.toList.flatMap escapeCharacter ++ '"' :: rest)) rest text.toList []
    less (by omega)
  rw [readValue, inside, List.reverse_nil, List.nil_append, String.ofList_toList]

end Json

end Storyboard

/-
This file states that decoding an encoded text gives the text back.
-/

import Storyboard.Proofs.Markup.Scanning
import Storyboard.Proofs.Text.Utf8
import Storyboard.Text.Percent

namespace Storyboard.Text.Percent

/-- A character that stands for itself, or else the escapes of its bytes. -/
def encodeCharacter (character : Char) : List Char :=
  if isUnreserved character then [character] else (Utf8.encodeCode character.toNat).flatMap escapeByte

/-- Encodes a text for any part of an address. -/
def encode (text : String) : String := String.ofList (text.toList.flatMap encodeCharacter)

/-- The capital digit of a value is read as this value, and stands for itself. -/
theorem capitalDigit {value : Nat} (small : value < 16) :
    hexValue? (hexDigit value).toUpper = some value ∧ isUnreserved (hexDigit value).toUpper := by
  have all : ∀ value < 16,
      hexValue? (hexDigit value).toUpper = some value ∧ isUnreserved (hexDigit value).toUpper := by decide
  exact all value small

theorem escapeByte_eq (byte : UInt8) :
    escapeByte byte = ['%', (hexDigit (byte.toNat / 16)).toUpper, (hexDigit (byte.toNat % 16)).toUpper] := by
  have bounded := byte.toNat_lt
  have high : byte.toNat / 16 % 16 = byte.toNat / 16 := Nat.mod_eq_of_lt (by omega)
  rw [escapeByte, hexText, hexText, hexText, high]
  rfl

/-- Characters that stand for themselves are plain, and none of them is a percent sign. -/
theorem isPlain_of_isUnreserved {character : Char} (inside : isUnreserved character) :
    isPlain character ∧ character ≠ '%' := by
  rcases Bool.or_eq_true_iff.mp inside with alphanumeric | mark
  · refine ⟨decide_eq_true (Markup.toNat_lt_of_isAlphanum alphanumeric), ?_⟩
    rintro rfl
    exact absurd alphanumeric (by decide)
  · have all : ['-', '.', '_', '~'].all fun character => isPlain character && character ≠ '%' := by decide
    simpa using List.all_eq_true.mp all character (of_decide_eq_true mark)

/-- An encoded text consists of characters that stand for themselves, and of percent signs. -/
theorem forall_mem_encode (text : String) :
    ∀ character ∈ (encode text).toList, isUnreserved character ∨ character = '%' := by
  intro character member
  rw [encode, String.toList_ofList] at member
  obtain ⟨source, -, member⟩ := List.mem_flatMap.mp member
  rw [encodeCharacter] at member
  split at member
  · rename_i unreserved
    exact .inl (List.eq_of_mem_singleton member ▸ unreserved)
  · obtain ⟨byte, -, member⟩ := List.mem_flatMap.mp member
    have bounded := byte.toNat_lt
    rw [escapeByte_eq] at member
    rcases List.mem_cons.mp member with rfl | member
    · exact .inr rfl
    rcases List.mem_cons.mp member with rfl | member
    · exact .inl (capitalDigit (by omega)).2
    · exact .inl (List.eq_of_mem_singleton member ▸ (capitalDigit (by omega)).2)

variable (rest : List Char)

/-- An escape is read as its byte. -/
theorem decodeBytes_escapeByte (byte : UInt8) : decodeBytes (escapeByte byte ++ rest) = byte :: decodeBytes rest := by
  have bounded := byte.toNat_lt
  have high := (capitalDigit (show byte.toNat / 16 < 16 by omega)).1
  have low := (capitalDigit (show byte.toNat % 16 < 16 by omega)).1
  have whole : 16 * (byte.toNat / 16) + byte.toNat % 16 = byte.toNat := by omega
  rw [escapeByte_eq]
  simp only [List.cons_append, List.nil_append, decodeBytes, high, low, whole, UInt8.ofNat_toNat]

theorem decodeBytes_flatMap (bytes : List UInt8) :
    decodeBytes (bytes.flatMap escapeByte ++ rest) = bytes ++ decodeBytes rest := by
  induction bytes with
  | nil => rfl
  | cons byte bytes ih => rw [List.flatMap_cons, List.append_assoc, decodeBytes_escapeByte, ih, List.cons_append]

/-- A character other than a percent sign is read as its own byte. -/
theorem decodeBytes_cons {character : Char} (other : character ≠ '%') :
    decodeBytes (character :: rest) = UInt8.ofNat character.toNat :: decodeBytes rest := by
  rw [decodeBytes]
  simp [other]

/-- An encoded character is read as its bytes. -/
theorem decodeBytes_encodeCharacter (character : Char) :
    decodeBytes (encodeCharacter character ++ rest) = Utf8.encodeCode character.toNat ++ decodeBytes rest := by
  rw [encodeCharacter]
  split
  · rename_i unreserved
    have plain := isPlain_of_isUnreserved unreserved
    rw [List.singleton_append, decodeBytes_cons _ plain.2, Utf8.encodeCode, if_pos (of_decide_eq_true plain.1),
      List.singleton_append]
  · exact decodeBytes_flatMap rest _

/-- Decoding an encoded text gives the text back. -/
theorem decode_encode (text : String) : decode (encode text) = text := by
  have plain : ∀ character ∈ (encode text).toList, isPlain character := fun character member =>
    (forall_mem_encode text character member).elim (fun unreserved => (isPlain_of_isUnreserved unreserved).1)
      fun percent => percent ▸ rfl
  have bytes (characters : List Char) : decodeBytes (characters.flatMap encodeCharacter) =
      characters.flatMap fun character => Utf8.encodeCode character.toNat := by
    induction characters with
    | nil => rfl
    | cons character characters ih =>
        rw [List.flatMap_cons, decodeBytes_encodeCharacter, ih, List.flatMap_cons]
  have run : (encode text).toList.takeWhile isPlain = text.toList.flatMap encodeCharacter := by
    rw [List.takeWhile_eq_self_iff.mpr plain, encode, String.toList_ofList]
  rw [decode, decodeRuns, List.dropWhile_eq_nil_iff.mpr plain, run, bytes, Utf8.repair_flatMap, String.ofList_toList]

end Storyboard.Text.Percent

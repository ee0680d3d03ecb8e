/-
This file states that every text has bytes, and that decoding or repairing these bytes gives the text back.
-/

import Mathlib.Algebra.BigOperators.Group.List.Basic
import Mathlib.Data.List.TakeWhile
import Storyboard.Text.Utf8

namespace Storyboard.Text.Utf8

/-- A character is no surrogate and lies below the end of the code points. -/
theorem toNat_valid (character : Char) :
    character.toNat < 0xD800 ∨ 0xDFFF < character.toNat ∧ character.toNat < 0x110000 :=
  character.valid

theorem isSurrogate_toNat (character : Char) : isSurrogate character.toNat = false := by
  have valid := toNat_valid character
  rw [isSurrogate, Bool.and_eq_false_iff, decide_eq_false_iff_not, decide_eq_false_iff_not]
  omega

/-- Every text has bytes. -/
theorem encode_toNat (text : String) : encode (text.toList.map Char.toNat) = .ok (encodeString text) := by
  have none : surrogateRun? (text.toList.map Char.toNat) = none := by
    have nothing : (text.toList.map Char.toNat).dropWhile (!isSurrogate ·) = [] := by
      rw [List.dropWhile_eq_nil_iff, List.forall_mem_map]
      intro character _
      rw [isSurrogate_toNat, Bool.not_false]
    rw [surrogateRun?, nothing]
  rw [encode, none, List.flatMap_map]
  rfl

section Lead

variable {code : Nat} (rest : List UInt8)

theorem toNat_ofNat (small : code < 0x100) : (UInt8.ofNat code).toNat = code := by
  rw [UInt8.toNat_ofNat']
  exact Nat.mod_eq_of_lt small

/-- A byte after the leading one adds its six bits. -/
theorem continueLead_trailing {least greatest : Nat} (high length trailing value : Nat)
    (lower : least ≤ 0x80 + value % 0x40) (upper : 0x80 + value % 0x40 ≤ greatest) :
    continueLead least greatest high length (trailing + 1) (UInt8.ofNat (0x80 + value % 0x40) :: rest) =
      continueLead 0x80 0xBF (high * 0x40 + value % 0x40) (length + 1) trailing rest := by
  have byte : (UInt8.ofNat (0x80 + value % 0x40)).toNat = 0x80 + value % 0x40 := toNat_ofNat (by omega)
  have bits : (0x80 + value % 0x40) % 0x40 = value % 0x40 := by omega
  rw [continueLead, byte, if_pos ⟨lower, upper⟩, bits]

/-- The leading byte of a sequence tells how the bytes behind it are read. -/
theorem lead_of_sequence {form : Sequence} (large : 0x80 ≤ code) (small : code < 0x100)
    (known : sequence? code = some form) :
    lead (UInt8.ofNat code) rest = continueLead form.secondFrom form.secondTo form.high 1 form.trailing rest := by
  have beyond : ¬UInt8.ofNat code < 0x80 := by
    rw [UInt8.lt_iff_toNat_lt, toNat_ofNat small]
    exact Nat.not_lt.mpr large
  rw [lead, if_neg beyond, toNat_ofNat small, known]

theorem lead_one (upper : code < 0x80) : lead (UInt8.ofNat code) rest = .scalar code 1 := by
  have byte : (UInt8.ofNat code).toNat = code := toNat_ofNat (by omega)
  have small : UInt8.ofNat code < 0x80 := by
    rw [UInt8.lt_iff_toNat_lt, byte]
    exact upper
  rw [lead, if_pos small, byte]

theorem lead_two (lower : 0x80 ≤ code) (upper : code < 0x800) :
    lead (UInt8.ofNat (0xC0 + code / 0x40)) (UInt8.ofNat (0x80 + code % 0x40) :: rest) = .scalar code 2 := by
  have known : sequence? (0xC0 + code / 0x40) = some ⟨1, code / 0x40, 0x80, 0xBF⟩ := by
    rw [sequence?, if_neg (by omega), if_pos (by omega), Nat.add_sub_cancel_left]
  have whole : code / 0x40 * 0x40 + code % 0x40 = code := by omega
  rw [lead_of_sequence _ (by omega) (by omega) known]
  dsimp only
  rw [continueLead_trailing _ _ _ _ _ (by omega) (by omega), whole, continueLead]

theorem lead_three (lower : 0x800 ≤ code) (upper : code < 0x10000) (valid : code < 0xD800 ∨ 0xDFFF < code) :
    lead (UInt8.ofNat (0xE0 + code / 0x1000)) (UInt8.ofNat (0x80 + code / 0x40 % 0x40) ::
      UInt8.ofNat (0x80 + code % 0x40) :: rest) = .scalar code 3 := by
  have known : sequence? (0xE0 + code / 0x1000) = some ⟨2, code / 0x1000,
      if 0xE0 + code / 0x1000 = 0xE0 then 0xA0 else 0x80, if 0xE0 + code / 0x1000 = 0xED then 0x9F else 0xBF⟩ := by
    rw [sequence?, if_neg (by omega), if_neg (by omega), if_pos (by omega), Nat.add_sub_cancel_left]
  have whole : (code / 0x1000 * 0x40 + code / 0x40 % 0x40) * 0x40 + code % 0x40 = code := by omega
  rw [lead_of_sequence _ (by omega) (by omega) known]
  dsimp only
  -- The second byte is bounded from below so that shorter sequences serve, and from above to keep surrogates out.
  rw [continueLead_trailing _ _ _ _ _ (by split <;> omega) (by split <;> omega),
    continueLead_trailing _ _ _ _ _ (by omega) (by omega), whole, continueLead]

theorem lead_four (lower : 0x10000 ≤ code) (upper : code < 0x110000) :
    lead (UInt8.ofNat (0xF0 + code / 0x40000)) (UInt8.ofNat (0x80 + code / 0x1000 % 0x40) ::
      UInt8.ofNat (0x80 + code / 0x40 % 0x40) :: UInt8.ofNat (0x80 + code % 0x40) :: rest) = .scalar code 4 := by
  have known : sequence? (0xF0 + code / 0x40000) = some ⟨3, code / 0x40000,
      if 0xF0 + code / 0x40000 = 0xF0 then 0x90 else 0x80,
      if 0xF0 + code / 0x40000 = 0xF4 then 0x8F else 0xBF⟩ := by
    rw [sequence?, if_neg (by omega), if_neg (by omega), if_neg (by omega), if_pos (by omega),
      Nat.add_sub_cancel_left]
  have whole : ((code / 0x40000 * 0x40 + code / 0x1000 % 0x40) * 0x40 + code / 0x40 % 0x40) * 0x40 +
      code % 0x40 = code := by omega
  rw [lead_of_sequence _ (by omega) (by omega) known]
  dsimp only
  rw [continueLead_trailing _ _ _ _ _ (by split <;> omega) (by split <;> omega),
    continueLead_trailing _ _ _ _ _ (by omega) (by omega), continueLead_trailing _ _ _ _ _ (by omega) (by omega),
    whole, continueLead]

end Lead

/-- The bytes of a character are read as this character, whatever comes behind them. -/
theorem lead_encodeCode (character : Char) (rest : List UInt8) :
    ∃ byte tail, encodeCode character.toNat = byte :: tail ∧
      lead byte (tail ++ rest) = .scalar character.toNat (tail.length + 1) := by
  have valid := toNat_valid character
  simp only [encodeCode, Nat.div_one]
  split
  · rename_i one
    exact ⟨_, _, rfl, lead_one rest one⟩
  split
  · rename_i several two
    exact ⟨_, _, rfl, lead_two rest (by omega) two⟩
  split
  · rename_i many three
    exact ⟨_, _, rfl, lead_three rest (by omega) three (by omega)⟩
  · rename_i most
    exact ⟨_, _, rfl, lead_four rest (by omega) (by omega)⟩

/-- Decoding goes on behind the bytes of a text, as long as there is fuel for each of its characters. -/
theorem decodeFrom_flatMap (text : List Char) {fuel : Nat} (fuelled : text.length ≤ fuel) (position : Nat)
    (done : List Char) :
    decodeFrom fuel position done (text.flatMap fun character => encodeCode character.toNat) =
      .ok (done.reverse ++ text) := by
  induction text generalizing fuel position done with
  | nil =>
      rw [List.append_nil]
      cases fuel <;> rfl
  | cons character text ih =>
      obtain ⟨fuel, rfl⟩ : ∃ less, fuel = less + 1 := ⟨fuel - 1, by simp only [List.length_cons] at fuelled; omega⟩
      obtain ⟨byte, tail, bytes, read⟩ :=
        lead_encodeCode character (text.flatMap fun character => encodeCode character.toNat)
      rw [List.flatMap_cons, bytes, List.cons_append, decodeFrom, read]
      dsimp only
      rw [Nat.add_sub_cancel, List.drop_left, Char.ofNat_toNat, ih (Nat.le_of_succ_le_succ fuelled),
        List.reverse_cons, List.append_assoc, List.singleton_append]

theorem length_encodeCode (character : Char) : (encodeCode character.toNat).length = character.utf8Size := by
  have within (limit : UInt32) : character.val ≤ limit ↔ character.toNat < limit.toNat + 1 := by
    rw [UInt32.le_iff_toNat_le, Nat.lt_succ_iff]
    rfl
  have size : character.utf8Size =
      if character.toNat < 0x80 then 1 else if character.toNat < 0x800 then 2
      else if character.toNat < 0x10000 then 3 else 4 := by
    simp only [Char.utf8Size, within]
    rfl
  rw [size, encodeCode]
  split
  · rfl
  split
  · rfl
  split <;> rfl

/-- The bytes of a text are as many as a string counts. -/
theorem length_encodeString_eq (text : String) : (encodeString text).length = text.utf8ByteSize := by
  have each (characters : List Char) : (characters.flatMap fun character => encodeCode character.toNat).length =
      (String.ofList characters).utf8ByteSize := by
    induction characters with
    | nil => rfl
    | cons character rest ih =>
        rw [List.flatMap_cons, List.length_append, ih, length_encodeCode, ← List.singleton_append,
          String.ofList_append, String.utf8ByteSize_append, ← String.singleton_eq_ofList,
          String.utf8ByteSize_singleton]
  rw [encodeString, each, String.ofList_toList]

/-- A text of plain characters has one byte for each of them. -/
theorem length_encodeString {text : String} (plain : ∀ character ∈ text.toList, character.toNat < 0x80) :
    (encodeString text).length = text.length := by
  have each : ∀ character ∈ text.toList, (encodeCode character.toNat).length = 1 := by
    intro character member
    rw [encodeCode, if_pos (plain character member), List.length_singleton]
  rw [encodeString, List.length_flatMap, List.map_congr_left each, List.map_const', List.sum_replicate_nat,
    Nat.mul_one, String.length_toList]

/-- Repairing agrees with decoding wherever decoding meets no fault. -/
theorem repairFrom_of_decodeFrom {fuel position : Nat} {done text : List Char} {bytes : List UInt8}
    (decoded : decodeFrom fuel position done bytes = .ok text) : repairFrom fuel done bytes = text := by
  induction fuel generalizing position done bytes with
  | zero => exact Except.ok.inj decoded
  | succ fuel ih =>
      cases bytes with
      | nil => exact Except.ok.inj decoded
      | cons byte rest =>
          rw [decodeFrom] at decoded
          rw [repairFrom]
          cases read : lead byte rest with
          | scalar code length =>
              rw [read] at decoded
              exact ih decoded
          | fault kind length =>
              rw [read] at decoded
              nomatch decoded

/-- A text has at least as many bytes as characters. -/
theorem length_le_flatMap (text : List Char) :
    text.length ≤ (text.flatMap fun character => encodeCode character.toNat).length := by
  rw [List.length_flatMap]
  have each : ∀ length ∈ text.map fun character => (encodeCode character.toNat).length, 1 ≤ length := by
    rw [List.forall_mem_map]
    intro character _
    obtain ⟨byte, tail, bytes, -⟩ := lead_encodeCode character []
    rw [bytes, List.length_cons]
    exact Nat.le_add_left 1 _
  have total := List.length_le_sum_of_one_le _ each
  rwa [List.length_map] at total

/-- Decoding the bytes of a text gives the text back. -/
theorem decode_encodeString (text : String) : decode (encodeString text) = .ok text.toList :=
  decodeFrom_flatMap text.toList (length_le_flatMap text.toList) 0 []

/-- The bytes of a text need no repair. -/
theorem repair_flatMap (text : List Char) :
    repair (text.flatMap fun character => encodeCode character.toNat) = text :=
  repairFrom_of_decodeFrom (decodeFrom_flatMap text (length_le_flatMap text) 0 [])

end Storyboard.Text.Utf8

/-
This file states which files can be packed, and under which names they are stored.
-/

import Mathlib.Data.List.TakeWhile
import Storyboard.Failure
import Storyboard.Proofs.Outcome

namespace Storyboard.Archive

/-- A name that leads to a place inside the directory to which an archive is unpacked. -/
structure IsSafeName (name : String) : Prop where
  filled : name ≠ ""
  relative : name.toList.head? ≠ some '/'
  level : ['.', '.'] ∉ name.toList.splitOn '/'

theorem segments_eq_splitOn (characters : List Char) : segments characters = characters.splitOn '/' := by
  induction characters with
  | nil => rfl
  | cons character rest ih =>
      have filled := List.splitOnP_ne_nil (· == '/') rest
      rw [segments, ih, List.splitOn, List.splitOn, List.splitOnP_cons_eq_if_modifyHead]
      cases parts : rest.splitOnP (· == '/') with
      | nil => exact absurd parts filled
      | cons segment others => simp only [beq_iff_eq, List.modifyHead_cons]

theorem isSafePath_iff (path : String) : isSafePath path ↔ IsSafeName path := by
  rw [isSafePath, Bool.and_eq_true, Bool.and_eq_true, Bool.not_eq_true', decide_eq_true_eq, decide_eq_true_eq,
    segments_eq_splitOn, ← Bool.not_eq_true, String.isEmpty_iff]
  exact ⟨fun ⟨⟨filled, relative⟩, level⟩ => ⟨filled, relative, level⟩,
    fun safe => ⟨⟨safe.filled, safe.relative⟩, safe.level⟩⟩

/-- A path is stored as it is unless it holds a null character. -/
theorem storedName_eq_self (path : String) : storedName path = path ↔ '\x00' ∉ path.toList := by
  rw [storedName, ← String.toList_inj, String.toList_ofList, List.takeWhile_eq_self_iff]
  simp only [ne_eq, decide_not, Bool.not_eq_true', decide_eq_false_iff_not]
  exact ⟨fun none member => none _ member rfl, fun none character member same => none (same ▸ member)⟩

/-- The parts in which bytes are written make up the bytes. -/
theorem flatten_chunks (bytes : List UInt8) : (chunks bytes).flatten = bytes := by
  have first : ∀ count, ((List.range count).map fun index =>
      (bytes.drop (index * chunkSize)).take chunkSize).flatten = bytes.take (count * chunkSize) := by
    intro count
    induction count with
    | zero => rw [Nat.zero_mul, List.take_zero]; rfl
    | succ count ih =>
        rw [List.range_succ, List.map_append, List.flatten_append, ih, List.map_singleton, List.flatten_singleton,
          Nat.succ_mul, List.take_add]
  have enough : bytes.length ≤ (bytes.length + chunkSize - 1) / chunkSize * chunkSize := by
    rw [chunkSize]
    omega
  rw [chunks, first, List.take_of_length_le enough]

structure IsPackable (path : String) (payload : Payload) : Prop where
  safe : IsSafeName path
  encodable : ∃ bytes, payload.encode = .ok bytes ∧ bytes.length ≤ maxContentBytes
  short : (Text.Utf8.encodeString (storedName path)).length ≤ maxNameBytes

/-- The member that a packed file becomes. -/
structure IsStored (file : String × Payload) (member : Member) : Prop where
  packable : IsPackable file.1 file.2
  name : member.name = storedName file.1
  bytes : file.2.encode = .ok member.bytes

section File

variable {path : String} {payload : Payload}

theorem writeMember_eq_ok (bytes : List UInt8) (member : Member) : writeMember path bytes = .ok member ↔
    (Text.Utf8.encodeString (storedName path)).length ≤ maxNameBytes ∧ bytes.length ≤ maxContentBytes ∧
      member = ⟨storedName path, bytes⟩ := by
  rw [writeMember, flatten_chunks]
  dsimp only
  split
  · rename_i long
    simp [Nat.not_le.mpr long]
  split
  · rename_i long
    simp [Nat.not_le.mpr long]
  · rename_i name content
    simp [Nat.not_lt.mp name, Nat.not_lt.mp content, eq_comm]

/-- A file becomes a member with the stored name and the bytes of the file. -/
theorem packFile_eq_ok (member : Member) :
    packFile path payload = .ok member ↔ IsStored (path, payload) member := by
  rw [packFile]
  split
  · rename_i escapes
    rw [Bool.not_eq_true', ← Bool.not_eq_true, isSafePath_iff] at escapes
    exact ⟨nofun, fun stored => absurd stored.packable.safe escapes⟩
  rename_i safe
  rw [Bool.not_eq_true', Bool.not_eq_false, isSafePath_iff] at safe
  cases encoded : payload.encode with
  | error run => exact ⟨nofun, fun stored => nomatch encoded.symm.trans stored.bytes⟩
  | ok bytes =>
      dsimp only
      rw [writeMember_eq_ok]
      constructor
      · rintro ⟨short, bounded, rfl⟩
        exact ⟨⟨safe, ⟨bytes, encoded, bounded⟩, short⟩, rfl, encoded⟩
      · rintro ⟨⟨_, ⟨others, same, bounded⟩, short⟩, name, content⟩
        obtain rfl : bytes = others := Except.ok.inj (encoded.symm.trans same)
        exact ⟨short, bounded, by rw [← name, Except.ok.inj (encoded.symm.trans content)]⟩

end File

section Files

variable (files : List (String × Payload))

/-- An archive holds one member for each file, in order. -/
theorem pack_eq_ok (archive : Archive) : pack files = .ok archive ↔ List.Forall₂ IsStored files archive.members := by
  simp only [pack, bind_eq_ok, pure_eq_ok, mapM_eq_ok, packFile_eq_ok]
  constructor
  · rintro ⟨members, packed, rfl⟩
    exact packed
  · intro packed
    exact ⟨archive.members, packed, rfl⟩

end Files

end Storyboard.Archive

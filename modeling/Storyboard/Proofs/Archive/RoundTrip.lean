/-
This file states that texts come out of an archive as they were packed.
-/

import Mathlib.Data.List.Nodup
import Storyboard.Proofs.Archive.Packing
import Storyboard.Proofs.Text.Utf8

namespace Storyboard.Archive

/-- A path that is stored as it is, and that leads to a file. -/
structure IsMemberPath (path : String) : Prop extends IsSafeName path where
  file : path.toList.getLast? ≠ some '/'
  plain : '\x00' ∉ path.toList

/-- Texts under distinct paths, none of them too long to be stored. -/
structure IsFileMap (files : List (String × String)) : Prop where
  distinct : (files.map (·.1)).Nodup
  paths : ∀ file ∈ files, IsMemberPath file.1
  short : ∀ file ∈ files, (Text.Utf8.encodeString file.1).length ≤ maxNameBytes
  bounded : ∀ file ∈ files, (Text.Utf8.encodeString file.2).length ≤ maxContentBytes

/-- The member in which a text is stored. -/
def memberOf (file : String × String) : Member := ⟨file.1, Text.Utf8.encodeString file.2⟩

theorem eraseDups_eq_self {names : List String} (distinct : names.Nodup) : names.eraseDups = names := by
  induction names with
  | nil => rfl
  | cons name rest ih =>
      obtain ⟨fresh, distinct⟩ := List.nodup_cons.mp distinct
      have others : rest.filter (fun other => !other == name) = rest := by
        rw [List.filter_eq_self]
        intro other member
        rw [Bool.not_eq_true', beq_eq_false_iff_ne]
        exact ne_of_mem_of_not_mem member fresh
      rw [List.eraseDups_cons, others, ih distinct]

/-- Under distinct names each member is found by its own. -/
theorem find?_name {archive : Archive} (distinct : (archive.members.map (·.name)).Nodup) {member : Member}
    (among : member ∈ archive.members) : archive.find? member.name = some member := by
  cases found : archive.find? member.name with
  | none =>
      have missed := List.find?_eq_none.mp found member (List.mem_reverse.mpr among)
      simp at missed
  | some other =>
      have same : other.name = member.name := by simpa using List.find?_some found
      have listed := List.mem_reverse.mp (List.mem_of_find?_eq_some found)
      rw [List.inj_on_of_nodup_map distinct listed among same]

theorem encode_ofString (content : String) :
    (Payload.ofString content).encode = .ok (Text.Utf8.encodeString content) :=
  Text.Utf8.encode_toNat content

/-- A text under a path that is stored as it is becomes a member unless one of the two is too long. -/
theorem isStored_text {file : String × String} (path : IsMemberPath file.1) (member : Member) :
    IsStored (file.1, .ofString file.2) member ↔ ((Text.Utf8.encodeString file.1).length ≤ maxNameBytes ∧
      (Text.Utf8.encodeString file.2).length ≤ maxContentBytes) ∧ member = memberOf file := by
  have same := (storedName_eq_self file.1).mpr path.plain
  have encoded := encode_ofString file.2
  constructor
  · rintro ⟨⟨-, ⟨bytes, content, bounded⟩, short⟩, name, written⟩
    obtain rfl := Except.ok.inj (encoded.symm.trans content)
    exact ⟨⟨same ▸ short, bounded⟩, by rw [memberOf, Except.ok.inj (encoded.symm.trans written), ← same, ← name]⟩
  · rintro ⟨⟨short, bounded⟩, rfl⟩
    exact ⟨⟨path.toIsSafeName, ⟨_, encoded, bounded⟩, same.symm ▸ short⟩, same.symm, encoded⟩

/-- Texts under paths that are stored as they are become members unless one of them is too long. -/
theorem pack_texts {files : List (String × String)} (paths : ∀ file ∈ files, IsMemberPath file.1)
    (archive : Archive) : pack (files.map fun file => (file.1, .ofString file.2)) = .ok archive ↔
      (∀ file ∈ files, (Text.Utf8.encodeString file.1).length ≤ maxNameBytes ∧
        (Text.Utf8.encodeString file.2).length ≤ maxContentBytes) ∧ archive = ⟨files.map memberOf⟩ := by
  obtain ⟨members⟩ := archive
  rw [pack_eq_ok, List.forall₂_map_left_iff, Archive.mk.injEq]
  dsimp only
  induction files generalizing members with
  | nil => simp
  | cons file rest ih =>
      obtain ⟨path, paths⟩ := List.forall_mem_cons.mp paths
      rw [List.forall₂_cons_left_iff, List.forall_mem_cons, List.map_cons]
      simp only [ih paths, isStored_text path]
      constructor
      · rintro ⟨_, _, ⟨fits, rfl⟩, ⟨later, rfl⟩, rfl⟩
        exact ⟨⟨fits, later⟩, rfl⟩
      · rintro ⟨⟨fits, later⟩, rfl⟩
        exact ⟨_, _, ⟨fits, rfl⟩, ⟨later, rfl⟩, rfl⟩

/-- Texts come out of an archive as they were packed, and in the same order. -/
theorem unpack_members {files : List (String × String)} (distinct : (files.map (·.1)).Nodup) :
    unpack ⟨files.map memberOf⟩ = .ok files := by
  have named : ((files.map memberOf).map (·.name)) = files.map (·.1) := by
    rw [List.map_map]
    rfl
  have each : ∀ file ∈ files, unpackName ⟨files.map memberOf⟩ file.1 = .ok file := by
    intro file among
    have found : find? ⟨files.map memberOf⟩ file.1 = some (memberOf file) :=
      find?_name (named ▸ distinct) (List.mem_map_of_mem among)
    rw [unpackName, found]
    dsimp only
    rw [memberOf, Text.Utf8.decode_encodeString]
    change Except.ok (file.1, String.ofList file.2.toList) = _
    rw [String.ofList_toList]
  rw [unpack, names, named, eraseDups_eq_self distinct, mapM_eq_ok, List.forall₂_map_left_iff, List.forall₂_same]
  exact each

end Storyboard.Archive

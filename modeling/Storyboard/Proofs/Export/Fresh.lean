/-
This file states that the name of a main component is lengthened until it is free, and that this comes to an end.
-/

import Mathlib.Data.List.Nodup
import Mathlib.Data.List.Perm.Subperm
import Storyboard.Export.ScriptExport

namespace Storyboard.ScriptExport

/-- A name that is lengthened a number of times. -/
def lengthened (name : String) : (count : Nat) → String
  | 0 => name
  | count + 1 => lengthened (name ++ "Prototype") count

theorem length_lengthened (name : String) (count : Nat) :
    (lengthened name count).length = name.length + 9 * count := by
  induction count generalizing name with
  | zero => rfl
  | succ count ih =>
      have longer : (name ++ "Prototype").length = name.length + 9 := by rw [String.length_append]; rfl
      rw [lengthened, ih, longer]
      omega

/-- The longer names of a name differ. -/
theorem lengthened_injective (name : String) : Function.Injective (lengthened name) := by
  intro left right same
  have lengths := congrArg String.length same
  rw [length_lengthened, length_lengthened] at lengths
  omega

variable {taken : List String}

/-- The search stops at the first longer name that is free, or when there are no more tries. -/
theorem exists_freshName (taken : List String) (tries : Nat) (name : String) :
    ∃ count ≤ tries, freshName taken tries name = lengthened name count ∧
      (∀ fewer < count, lengthened name fewer ∈ taken) ∧
        (count < tries → lengthened name count ∉ taken) := by
  -- A clash leaves one try less for the next longer name, whose own longer names are those of the first.
  induction tries generalizing name with
  | zero => exact ⟨0, Nat.le_refl 0, rfl, by simp, by simp⟩
  | succ tries ih =>
      rw [freshName]
      split
      · rename_i clash
        obtain ⟨count, within, found, before, free⟩ := ih (name ++ "Prototype")
        refine ⟨count + 1, by omega, found, fun fewer less => ?_, fun left => free (by omega)⟩
        cases fewer with
        | zero => exact clash
        | succ fewer => exact before fewer (by omega)
      · rename_i free
        exact ⟨0, by omega, rfl, by simp, fun _ => free⟩

/-- Among the longer names there are at most as many taken ones in a row as there are taken names. -/
theorem length_le_of_taken {name : String} {count : Nat} (clashes : ∀ fewer < count, lengthened name fewer ∈ taken) :
    count ≤ taken.length := by
  have distinct : ((List.range count).map (lengthened name)).Nodup :=
    List.nodup_range.map (lengthened_injective name)
  have inside : (List.range count).map (lengthened name) ⊆ taken := by
    intro longer member
    obtain ⟨fewer, less, rfl⟩ := List.mem_map.mp member
    exact clashes fewer (List.mem_range.mp less)
  have bounded := (List.subperm_of_subset distinct inside).length_le
  rwa [List.length_map, List.length_range] at bounded

/-- With as many tries as there are taken names, the search ends at the first longer name that is free. -/
theorem exists_freshName_free (taken : List String) (name : String) :
    ∃ count, freshName taken taken.length name = lengthened name count ∧
      (∀ fewer < count, lengthened name fewer ∈ taken) ∧ lengthened name count ∉ taken := by
  obtain ⟨count, -, found, clashes, free⟩ := exists_freshName taken taken.length name
  refine ⟨count, found, clashes, fun clash => ?_⟩
  have more : ∀ fewer < count + 1, lengthened name fewer ∈ taken := by
    intro fewer less
    rcases Nat.lt_succ_iff_lt_or_eq.mp less with before | rfl
    · exact clashes fewer before
    · exact clash
  have bounded := length_le_of_taken more
  exact free (by omega) clash

end Storyboard.ScriptExport

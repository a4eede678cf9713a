import EnvRegistry.Proofs.Relations.Delta
import Mathlib.Data.Set.SymmDiff

/-! # A delta is no larger than it has to be

    Whoever removes a set of keys from `current`, adds another, and arrives at
    `desired`, has removed every key that is in `current` alone and added every
    key that is in `desired` alone.  `Delta.between` consists of just these, so it
    is the least of all the changes that lead from one set to the other
    (`between_exact`), and `delta` finds it whenever there is something to change
    (`delta_exact`).

    The statements are about sets in the mathematical sense (`KeySet.toSet`), in
    which a change need not even be finite. -/

namespace EnvRegistry

variable {κ : Type} [Ord κ]

/-! ## Section 1: The set that a set of keys stands for -/

/-- The keys, as a set in the mathematical sense. -/
def KeySet.toSet (s : KeySet κ) : Set κ := {k | k ∈ s}

theorem KeySet.toSet_inj [Std.OrientedOrd κ] {s t : KeySet κ} : s.toSet = t.toSet ↔ s = t := by
  constructor
  · intro h
    exact ext_mem (Set.ext_iff.mp h)
  · rintro rfl
    rfl

namespace Relations

/-! ## Section 2: The least change -/

/-- The delta leads from `current` to `desired`, and every change that does so contains it. -/
structure Delta.Exact (d : Delta κ) (desired current : KeySet κ) : Prop where
  disjoint : d.toRemove.toSet ∩ d.toAdd.toSet = ∅
  nonempty : d.toRemove.toSet.Nonempty ∨ d.toAdd.toSet.Nonempty
  removed : d.toRemove.toSet ⊆ current.toSet
  added : d.toAdd.toSet ∩ current.toSet = ∅
  reaches : current.toSet \ d.toRemove.toSet ∪ d.toAdd.toSet = desired.toSet
  least : ∀ removed added : Set κ, current.toSet \ removed ∪ added = desired.toSet →
    d.toRemove.toSet ⊆ removed ∧ d.toAdd.toSet ⊆ added

variable [DecidableEq κ]

section Between

variable (desired current : KeySet κ)

theorem Delta.toSet_toRemove_between :
    (between desired current).toRemove.toSet = current.toSet \ desired.toSet :=
  Set.ext fun _ => mem_toRemove_between

theorem Delta.toSet_toAdd_between :
    (between desired current).toAdd.toSet = desired.toSet \ current.toSet :=
  Set.ext fun _ => mem_toAdd_between

variable {desired current}

/-- A change that leads to `desired` removes what is not desired, and adds what is missing. -/
theorem Delta.between_least {removed added : Set κ}
    (h : current.toSet \ removed ∪ added = desired.toSet) :
    (between desired current).toRemove.toSet ⊆ removed ∧
      (between desired current).toAdd.toSet ⊆ added := by
  rw [toSet_toRemove_between, toSet_toAdd_between]
  constructor
  · have hkept : current.toSet \ removed ⊆ desired.toSet := h ▸ Set.subset_union_left
    exact Set.sdiff_subset_comm.mp hkept
  · have hfrom : desired.toSet ⊆ current.toSet ∪ added :=
      h ▸ Set.union_subset_union_left added Set.sdiff_subset
    exact Set.sdiff_subset_iff.mpr hfrom

/-- What takes one set to another is exact, unless they are the same. -/
theorem Delta.between_exact (hne : desired.toSet ≠ current.toSet) :
    (between desired current).Exact desired current := by
  constructor
  case least =>
    intro removed added h
    exact between_least h
  all_goals simp only [toSet_toRemove_between, toSet_toAdd_between]
  case disjoint => exact disjoint_sdiff_sdiff.inter_eq
  case nonempty =>
    rw [← Set.union_nonempty]
    exact Set.symmDiff_nonempty.mpr hne.symm
  case removed => exact Set.sdiff_subset
  case added => exact Set.disjoint_sdiff_left.inter_eq
  case reaches =>
    -- Of the current keys those stay that are desired as well.
    have hkept : current.toSet \ (current.toSet \ desired.toSet) = desired.toSet ∩ current.toSet :=
      sdiff_sdiff_right_self.trans (inf_comm _ _)
    rw [hkept, Set.inter_union_sdiff]

end Between

/-! ## Section 3: The delta that the program computes -/

variable [Std.TransOrd κ] [Std.LawfulEqOrd κ]

/-- Counting the keys of the union and of the intersection tells whether two sets have the same
keys.  `delta` finds nothing to change if they have, and otherwise the least change that leads from
one to the other. -/
theorem delta_exact (desired current : KeySet κ) :
    ((KeySet.union [desired, current]).size ≤ (KeySet.intersection [desired, current]).size ↔
        desired.toSet = current.toSet) ∧
      (delta desired current = none ↔ desired.toSet = current.toSet) ∧
      ∀ d, delta desired current = some d → d.Exact desired current := by
  rw [delta_eq, KeySet.size_union_le_iff, KeySet.toSet_inj]
  by_cases heq : desired = current
  · simp [heq]
  · have hne : desired.toSet ≠ current.toSet := fun h => heq (KeySet.toSet_inj.mp h)
    rw [if_neg heq]
    refine ⟨Iff.rfl, iff_of_false nofun heq, ?_⟩
    rintro d ⟨⟩
    exact Delta.between_exact hne

/-- Repetitions and order in the lists do not count; of what differs, two ids go and one comes. -/
theorem delta_exact_sample :
    delta (.ofList [4, 2, 4]) (.ofList [3, 1, 2]) =
        some (⟨.ofList [1, 3], .ofList [4]⟩ : Delta UInt32) ∧
      (⟨.ofList [1, 3], .ofList [4]⟩ : Delta UInt32).Exact (.ofList [4, 2, 4]) (.ofList [3, 1, 2]) ∧
      delta (.ofList ["prod", "edge", "prod"]) (.ofList ["edge", "prod"]) = none := by
  have hdiffer : delta (.ofList [4, 2, 4]) (.ofList [3, 1, 2]) =
      some (⟨.ofList [1, 3], .ofList [4]⟩ : Delta UInt32) := rfl
  have hsame : KeySet.ofList ["prod", "edge", "prod"] = KeySet.ofList ["edge", "prod"] := by decide
  refine ⟨hdiffer, (delta_exact _ _).2.2 _ hdiffer, ?_⟩
  exact (delta_exact _ _).2.1.mpr (KeySet.toSet_inj.mpr hsame)

end Relations

end EnvRegistry

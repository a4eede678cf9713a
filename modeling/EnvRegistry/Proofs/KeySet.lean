import EnvRegistry.KeySet
import Mathlib.Data.List.Perm.Subperm

/-! # Sets of keys through their members

    A set is its members: two sets with the same members are equal, and the number
    of members compares sets that lie in each other. -/

namespace EnvRegistry.KeySet

variable {κ : Type} [Ord κ]

/-! ## Section 1: Members determine the set -/

section Oriented

variable [Std.OrientedOrd κ]

theorem nodup_toList (s : KeySet κ) : s.toList.Nodup := by
  refine s.ascending.imp ?_
  intro a b hlt heq
  subst heq
  have hrefl : compare a a = .eq := Std.ReflCmp.compare_self
  rw [hrefl] at hlt
  cases hlt

/-- Sets with the same members are equal. -/
theorem ext_mem {s t : KeySet κ} (h : ∀ k, k ∈ s ↔ k ∈ t) : s = t := by
  have hperm : s.toList.Perm t.toList :=
    (List.perm_ext_iff_of_nodup s.nodup_toList t.nodup_toList).mpr h
  apply ext_toList
  refine List.Perm.eq_of_pairwise ?_ s.ascending t.ascending hperm
  intro a b _ _ hab hba
  exact absurd hba (Std.OrientedCmp.not_lt_of_lt hab)

theorem eq_empty_iff {s : KeySet κ} : s = empty ↔ ∀ k, ¬ k ∈ s := by
  constructor
  · rintro rfl k
    exact not_mem_empty
  · intro h
    exact ext_mem fun k => ⟨fun hk => absurd hk (h k), fun hk => absurd hk not_mem_empty⟩

omit [Std.OrientedOrd κ] in
theorem isEmpty_iff_eq_empty {s : KeySet κ} : s.isEmpty = true ↔ s = empty := by
  rw [isEmpty, List.isEmpty_iff]
  exact ⟨fun h => ext_toList h, fun h => h ▸ rfl⟩

theorem isEmpty_iff {s : KeySet κ} : s.isEmpty = true ↔ ∀ k, ¬ k ∈ s :=
  isEmpty_iff_eq_empty.trans eq_empty_iff

theorem size_le_of_subset {s t : KeySet κ} (h : ∀ k, k ∈ s → k ∈ t) : s.size ≤ t.size :=
  (List.subperm_of_subset s.nodup_toList fun k hk => h k hk).length_le

/-- Of two sets of which one lies in the other, only equal ones have equally many members. -/
theorem eq_of_subset_of_size_le {s t : KeySet κ} (h : ∀ k, k ∈ s → k ∈ t)
    (hsize : t.size ≤ s.size) : s = t := by
  have hsub := List.subperm_of_subset s.nodup_toList fun k hk => h k hk
  have hperm := hsub.perm_of_length_le hsize
  exact ext_mem fun k => hperm.mem_iff

end Oriented

/-! ## Section 2: Members of the operations on several sets -/

section Ordered

variable [Std.TransOrd κ] [Std.LawfulEqOrd κ]

theorem mem_foldl_insertMany {k : κ} {sets : List (KeySet κ)} {acc : KeySet κ} :
    k ∈ sets.foldl (fun acc s => acc.insertMany s.toList) acc ↔
      k ∈ acc ∨ ∃ s ∈ sets, k ∈ s := by
  induction sets generalizing acc with
  | nil => simp
  | cons s sets ih =>
    rw [List.foldl_cons, ih, mem_insertMany, ← mem_iff]
    simp only [List.mem_cons, exists_eq_or_imp]
    constructor
    · rintro ((h | h) | h)
      · exact .inr (.inl h)
      · exact .inl h
      · exact .inr (.inr h)
    · rintro (h | h | h)
      · exact .inl (.inr h)
      · exact .inl (.inl h)
      · exact .inr h

@[simp] theorem mem_union {k : κ} {sets : List (KeySet κ)} :
    k ∈ union sets ↔ ∃ s ∈ sets, k ∈ s := by
  rw [union, mem_foldl_insertMany]
  simp

end Ordered

section Decidable

variable [DecidableEq κ]

theorem mem_foldl_filter {k : κ} {sets : List (KeySet κ)} {acc : KeySet κ} :
    k ∈ sets.foldl (fun acc t => acc.filter t.contains) acc ↔ k ∈ acc ∧ ∀ t ∈ sets, k ∈ t := by
  induction sets generalizing acc with
  | nil => simp
  | cons s sets ih =>
    rw [List.foldl_cons, ih, mem_filter, contains_iff, List.forall_mem_cons, and_assoc]

@[simp] theorem mem_intersection {k : κ} {s : KeySet κ} {rest : List (KeySet κ)} :
    k ∈ intersection (s :: rest) ↔ k ∈ s ∧ ∀ t ∈ rest, k ∈ t :=
  mem_foldl_filter

theorem mem_foldl_eraseMany {k : κ} {sets : List (KeySet κ)} {acc : KeySet κ} :
    k ∈ sets.foldl (fun acc t => acc.eraseMany t.toList) acc ↔
      k ∈ acc ∧ ∀ t ∈ sets, ¬ k ∈ t := by
  induction sets generalizing acc with
  | nil => simp
  | cons s sets ih =>
    rw [List.foldl_cons, ih, mem_eraseMany, ← mem_iff, List.forall_mem_cons, and_assoc]

@[simp] theorem mem_difference {k : κ} {s : KeySet κ} {rest : List (KeySet κ)} :
    k ∈ difference (s :: rest) ↔ k ∈ s ∧ ∀ t ∈ rest, ¬ k ∈ t :=
  mem_foldl_eraseMany

end Decidable

/-! ## Section 3: Counting two sets -/

section Two

variable {k : κ} {s t : KeySet κ}

theorem mem_union_pair [Std.TransOrd κ] [Std.LawfulEqOrd κ] :
    k ∈ union [s, t] ↔ k ∈ s ∨ k ∈ t := by
  simp

variable [DecidableEq κ]

theorem mem_intersection_pair : k ∈ intersection [s, t] ↔ k ∈ s ∧ k ∈ t := by
  simp

/-- The union of two sets always has the keys of their intersection; it has no more of them only if
the sets are the same. -/
theorem size_union_le_iff [Std.TransOrd κ] [Std.LawfulEqOrd κ] :
    (union [s, t]).size ≤ (intersection [s, t]).size ↔ s = t := by
  constructor
  · intro hle
    have hsub : ∀ k, k ∈ intersection [s, t] → k ∈ union [s, t] := by
      intro k hk
      exact mem_union_pair.mpr (.inl (mem_intersection_pair.mp hk).1)
    have heq := eq_of_subset_of_size_le hsub hle
    have hcommon : ∀ k, k ∈ s ∨ k ∈ t → k ∈ s ∧ k ∈ t := by
      intro k hk
      rw [← mem_union_pair, ← heq] at hk
      exact mem_intersection_pair.mp hk
    refine ext_mem fun k => ⟨fun hs => ?_, fun ht => ?_⟩
    · exact (hcommon k (.inl hs)).2
    · exact (hcommon k (.inr ht)).1
  · rintro rfl
    refine size_le_of_subset fun k hk => ?_
    rw [mem_union_pair, or_self] at hk
    exact mem_intersection_pair.mpr ⟨hk, hk⟩

end Two

end EnvRegistry.KeySet

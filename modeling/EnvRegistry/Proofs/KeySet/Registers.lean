import EnvRegistry.Proofs.KeySet
import Mathlib.Data.Set.Card
import Mathlib.Data.Set.Lattice

/-! # Registers that hold sets of keys

    A file of registers holds a set of keys each, and every step assigns one of
    them: to a set made of a list, to itself with keys more or less, or to what
    several registers come to together.  The registers stand for sets in the
    mathematical sense, on which a step has a meaning of its own, and whatever
    steps are made, each register holds the set that they mean, and answers as
    that set does (`run_faithful`).

    A step reads the registers before it assigns one, so `mem_result` says what
    it comes to, one case for each operation, and the run follows by induction.
    How a register answers follows from its members alone (`Represents.of_mem`). -/

namespace EnvRegistry.Registers

variable {ι κ : Type} [Ord κ]

/-! ## Section 1: Model -/

/-- What a register is assigned. -/
inductive Operation (ι κ : Type) where
  /-- The set of the keys of a list. -/
  | collect (keys : List κ)
  /-- What it holds, with one key more. -/
  | add (key : κ)
  /-- What it holds, without a key. -/
  | remove (key : κ)
  /-- What it holds, with every key of a list. -/
  | extend (keys : List κ)
  /-- What another register holds. -/
  | copy (source : ι)
  | union (sources : List ι)
  | intersection (sources : List ι)
  | difference (sources : List ι)

/-- A register, and what it is assigned. -/
structure Step (ι κ : Type) where
  register : ι
  operation : Operation ι κ

/-- The members of every register. -/
def members (f : ι → KeySet κ) (r : ι) : Set κ := {k | k ∈ f r}

/-- What an operation on the register `r` means for sets. -/
def Operation.meaning (S : ι → Set κ) (r : ι) : Operation ι κ → Set κ
  | .collect keys => {k | k ∈ keys}
  | .add key => S r ∪ {key}
  | .remove key => S r \ {key}
  | .extend keys => S r ∪ {k | k ∈ keys}
  | .copy source => S source
  | .union sources => ⋃ q ∈ sources, S q
  | .intersection [] => ∅
  | .intersection (q :: rest) => S q ∩ ⋂ p ∈ rest, S p
  | .difference [] => ∅
  | .difference (q :: rest) => S q \ ⋃ p ∈ rest, S p

section

variable [DecidableEq ι]

/-- What a step means for sets. -/
def Step.meaning (s : Step ι κ) (S : ι → Set κ) : ι → Set κ :=
  Function.update S s.register (s.operation.meaning S s.register)

/-- What some steps mean, one after the other. -/
def meaning (steps : List (Step ι κ)) (S : ι → Set κ) : ι → Set κ :=
  steps.foldl (fun S s => s.meaning S) S

end

variable [DecidableEq κ] [Std.TransOrd κ] [Std.LawfulEqOrd κ]

/-- What an operation on the register `r` comes to. -/
def Operation.result (f : ι → KeySet κ) (r : ι) : Operation ι κ → KeySet κ
  | .collect keys => .ofList keys
  | .add key => (f r).insert key
  | .remove key => (f r).erase key
  | .extend keys => (f r).insertMany keys
  | .copy source => f source
  | .union sources => .union (sources.map f)
  | .intersection sources => .intersection (sources.map f)
  | .difference sources => .difference (sources.map f)

section

variable [DecidableEq ι]

/-- The registers after a step. -/
def Step.apply (s : Step ι κ) (f : ι → KeySet κ) : ι → KeySet κ :=
  Function.update f s.register (s.operation.result f s.register)

/-- The registers after some steps, one after the other. -/
def run (steps : List (Step ι κ)) (f : ι → KeySet κ) : ι → KeySet κ :=
  steps.foldl (fun f s => s.apply f) f

end

/-- The set `s` answers as the set `S` does. -/
structure Represents (s : KeySet κ) (S : Set κ) : Prop where
  contains : ∀ k, s.contains k = true ↔ k ∈ S
  /-- In whatever order the keys are enumerated, each of them comes up once, and sorted they are
  `toList`. -/
  enumerated : ∀ l : List κ, l.Perm s.toList →
    l.Nodup ∧ (∀ k, k ∈ l ↔ k ∈ S) ∧ l.mergeSort (fun a b => (compare a b).isLE) = s.toList
  ascending : s.toList.Pairwise fun a b => compare a b = .lt
  finite : S.Finite
  size : s.size = S.ncard
  isEmpty_iff : s.isEmpty = true ↔ s.size = 0

/-- The registers `f` answer as the sets `S` do, and each further step changes no register but the
one that it assigns. -/
structure Faithful [DecidableEq ι] (f : ι → KeySet κ) (S : ι → Set κ) : Prop where
  represents : ∀ r, Represents (f r) (S r)
  eq_iff : ∀ r q, f r = f q ↔ ∀ k, k ∈ S r ↔ k ∈ S q
  others : ∀ (s : Step ι κ) r, r ≠ s.register → s.apply f r = f r

/-! ## Section 2: The answers of a set -/

section Answers

variable {s : KeySet κ} {S : Set κ}

omit [DecidableEq κ] in
/-- Sorting the members of a set puts them in the order in which it lists them. -/
theorem mergeSort_of_perm {l : List κ} (h : l.Perm s.toList) :
    l.mergeSort (fun a b => (compare a b).isLE) = s.toList := by
  have hsorted : (l.mergeSort fun a b => (compare a b).isLE).Pairwise
      fun a b => (compare a b).isLE = true := by
    refine List.pairwise_mergeSort ?_ ?_ l
    · intro a b c hab hbc
      exact Std.TransCmp.isLE_trans hab hbc
    · intro a b
      have hswap : compare b a = (compare a b).swap := Std.OrientedCmp.eq_swap
      rw [hswap]
      cases compare a b <;> rfl
  have hlisted : s.toList.Pairwise fun a b => (compare a b).isLE = true := by
    refine s.ascending.imp ?_
    intro a b hab
    rw [hab]
    rfl
  have hperm := (List.mergeSort_perm l fun a b => (compare a b).isLE).trans h
  refine hperm.eq_of_pairwise ?_ hsorted hlisted
  -- Of two keys neither of which is greater, both are the same.
  intro a b _ _ hab hba
  have hswap : compare b a = (compare a b).swap := Std.OrientedCmp.eq_swap
  rw [hswap] at hba
  refine Std.LawfulEqOrd.eq_of_compare ?_
  cases hcompare : compare a b with
  | eq => rfl
  | lt =>
    rw [hcompare] at hba
    cases hba
  | gt =>
    rw [hcompare] at hab
    cases hab

/-- How a set answers follows from its members. -/
theorem Represents.of_mem (h : ∀ k, k ∈ s ↔ k ∈ S) : Represents s S := by
  have hcoe : S = ↑s.toList.toFinset := by
    ext k
    rw [← h k, Finset.mem_coe, List.mem_toFinset]
    rfl
  constructor
  case contains =>
    intro k
    rw [KeySet.contains_iff]
    exact h k
  case enumerated =>
    intro l hl
    refine ⟨hl.nodup_iff.mpr s.nodup_toList, fun k => ?_, mergeSort_of_perm hl⟩
    rw [hl.mem_iff]
    exact h k
  case ascending => exact s.ascending
  case finite =>
    rw [hcoe]
    exact Finset.finite_toSet _
  case size =>
    rw [hcoe, Set.ncard_coe_finset, List.toFinset_card_of_nodup s.nodup_toList]
    rfl
  case isEmpty_iff =>
    rw [KeySet.isEmpty, KeySet.size, List.isEmpty_iff, List.length_eq_zero_iff]

end Answers

/-! ## Section 3: Steps and runs -/

/-- An operation has the members that it means. -/
theorem mem_result (o : Operation ι κ) (f : ι → KeySet κ) (r : ι) (k : κ) :
    k ∈ o.result f r ↔ k ∈ o.meaning (members f) r := by
  cases o with
  | collect keys => exact KeySet.mem_ofList
  | add key => exact KeySet.mem_insert.trans or_comm
  | remove key => exact KeySet.mem_erase
  | extend keys => exact KeySet.mem_insertMany.trans or_comm
  | copy source => exact Iff.rfl
  | union sources => simp [Operation.result, Operation.meaning, members]
  | intersection sources =>
    cases sources with
    | nil => exact iff_of_false KeySet.not_mem_empty (Set.notMem_empty k)
    | cons q rest => simp [Operation.result, Operation.meaning, members]
  | difference sources =>
    cases sources with
    | nil => exact iff_of_false KeySet.not_mem_empty (Set.notMem_empty k)
    | cons q rest => simp [Operation.result, Operation.meaning, members]

section Run

variable [DecidableEq ι]

/-- A step does to the registers what it means for their members. -/
theorem members_apply (s : Step ι κ) (f : ι → KeySet κ) :
    members (s.apply f) = s.meaning (members f) := by
  funext r
  ext k
  show k ∈ Function.update f s.register _ r ↔ k ∈ Function.update (members f) s.register _ r
  by_cases hr : r = s.register
  · subst hr
    rw [Function.update_self, Function.update_self]
    exact mem_result s.operation f s.register k
  · rw [Function.update_of_ne hr, Function.update_of_ne hr]
    exact Iff.rfl

/-- A run does to the registers what its steps mean for their members. -/
theorem members_run (steps : List (Step ι κ)) (f : ι → KeySet κ) :
    members (run steps f) = meaning steps (members f) := by
  induction steps generalizing f with
  | nil => rfl
  | cons s rest ih =>
    show members (run rest (s.apply f)) = meaning rest (s.meaning (members f))
    rw [ih, members_apply]

/-- Whatever steps are made, each register holds the set that they mean and answers as that set
does, and no step changes a register but the one that it assigns. -/
theorem run_faithful (steps : List (Step ι κ)) (f : ι → KeySet κ) :
    Faithful (run steps f) (meaning steps (members f)) := by
  have hmem : ∀ r k, k ∈ run steps f r ↔ k ∈ meaning steps (members f) r := by
    intro r k
    rw [← members_run]
    exact Iff.rfl
  constructor
  case represents =>
    intro r
    exact .of_mem (hmem r)
  case eq_iff =>
    intro r q
    simp only [← hmem]
    constructor
    · intro heq k
      rw [heq]
    · exact KeySet.ext_mem
  case others =>
    intro s r hr
    exact Function.update_of_ne hr _ _

/-- Every operation once or more on four registers, some of which are assigned what they hold
themselves. -/
def sampleSteps (a b c : κ) : List (Step Nat κ) :=
  [⟨0, .collect [b, a, b]⟩, ⟨1, .collect [a]⟩, ⟨1, .add c⟩, ⟨2, .difference [0, 1]⟩,
    ⟨3, .copy 2⟩, ⟨3, .extend [c, b]⟩, ⟨0, .union [0, 1, 0]⟩, ⟨1, .intersection [1, 0, 3]⟩,
    ⟨3, .remove b⟩, ⟨2, .intersection []⟩]

end Run

/-- A run with words for keys, and one with numbers. -/
theorem run_faithful_sample :
    (Faithful (run (sampleSteps "edge" "prod" "rack") fun _ => .empty)
        (meaning (sampleSteps "edge" "prod" "rack") (members fun _ => .empty)) ∧
      [0, 1, 2, 3].map (fun r =>
        (run (sampleSteps "edge" "prod" "rack") (fun _ => .empty) r).toList) =
        [["edge", "prod", "rack"], ["rack"], [], ["rack"]]) ∧
    (Faithful (run (sampleSteps (4 : UInt32) 7 5) fun _ => .empty)
        (meaning (sampleSteps (4 : UInt32) 7 5) (members fun _ => .empty)) ∧
      [0, 1, 2, 3].map (fun r => (run (sampleSteps (4 : UInt32) 7 5) (fun _ => .empty) r).toList) =
        [[4, 5, 7], [5], [], [5]]) :=
  ⟨⟨run_faithful _ _, by decide⟩, ⟨run_faithful _ _, by decide⟩⟩

end EnvRegistry.Registers

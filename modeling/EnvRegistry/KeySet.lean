/-! # Finite sets of keys

    `KeySet κ` is a finite set over an ordered key type, held as its strictly
    ascending list of keys.  The order is part of the type, so two sets with the
    same members are equal, and listing a set always gives its keys in ascending
    order, each once.

    `union`, `intersection` and `difference` take any number of sets.  The union,
    intersection or difference of no sets at all is empty, and a difference is the
    first set without the keys found in any of the others. -/

namespace EnvRegistry

/-- A finite set of keys. -/
structure KeySet (κ : Type) [Ord κ] where
  /-- The keys, in ascending order. -/
  toList : List κ
  ascending : toList.Pairwise (fun a b => compare a b = .lt)

namespace KeySet

variable {κ : Type} [Ord κ]

instance [DecidableEq κ] : DecidableEq (KeySet κ) := fun s t =>
  decidable_of_iff (s.toList = t.toList) ⟨fun h => by cases s; cases t; simp_all, fun h => h ▸ rfl⟩

theorem ext_toList {s t : KeySet κ} (h : s.toList = t.toList) : s = t := by
  cases s; cases t; simp_all

/-- The set without members. -/
def empty : KeySet κ := ⟨[], .nil⟩

instance : EmptyCollection (KeySet κ) := ⟨empty⟩

instance : Inhabited (KeySet κ) := ⟨empty⟩

instance : Membership κ (KeySet κ) := ⟨fun s k => k ∈ s.toList⟩

instance [DecidableEq κ] (k : κ) (s : KeySet κ) : Decidable (k ∈ s) :=
  inferInstanceAs (Decidable (k ∈ s.toList))

/-- Whether `k` is a member. -/
def contains [DecidableEq κ] (s : KeySet κ) (k : κ) : Bool := decide (k ∈ s)

/-- The number of members. -/
def size (s : KeySet κ) : Nat := s.toList.length

/-- Whether there is no member. -/
def isEmpty (s : KeySet κ) : Bool := s.toList.isEmpty

/-- The members that satisfy `p`. -/
def filter (s : KeySet κ) (p : κ → Bool) : KeySet κ :=
  ⟨s.toList.filter p, s.ascending.filter p⟩

/-- The set without `k`; a key that is no member changes nothing. -/
def erase [DecidableEq κ] (s : KeySet κ) (k : κ) : KeySet κ := s.filter (fun x => x ≠ k)

/-- The set without any key of `l`. -/
def eraseMany [DecidableEq κ] (s : KeySet κ) (l : List κ) : KeySet κ := l.foldl erase s

/-! ## Insertion -/

/-- Places `k` in an ascending list, unless it is there already. -/
def insertSorted (k : κ) : List κ → List κ
  | [] => [k]
  | x :: xs =>
    match compare k x with
    | .lt => k :: x :: xs
    | .eq => x :: xs
    | .gt => x :: insertSorted k xs

theorem mem_insertSorted [Std.LawfulEqOrd κ] {k y : κ} {l : List κ} :
    y ∈ insertSorted k l ↔ y = k ∨ y ∈ l := by
  induction l with
  | nil => simp [insertSorted]
  | cons x xs ih =>
    simp only [insertSorted]
    split
    · simp
    · rename_i h
      have := Std.LawfulEqOrd.eq_of_compare h
      subst this
      simp
    · simp only [List.mem_cons, ih]
      constructor <;> (rintro (h | h | h) <;> simp [h])

theorem pairwise_insertSorted [Std.TransOrd κ] [Std.LawfulEqOrd κ] (k : κ) {l : List κ}
    (h : l.Pairwise (fun a b => compare a b = .lt)) :
    (insertSorted k l).Pairwise (fun a b => compare a b = .lt) := by
  induction l with
  | nil => simp [insertSorted]
  | cons x xs ih =>
    have ⟨hx, hxs⟩ := List.pairwise_cons.mp h
    simp only [insertSorted]
    split
    · rename_i hk
      refine List.pairwise_cons.mpr ⟨fun y hy => ?_, h⟩
      rcases List.mem_cons.mp hy with rfl | hy
      · exact hk
      · exact Std.TransCmp.lt_trans hk (hx y hy)
    · exact h
    · rename_i hk
      refine List.pairwise_cons.mpr ⟨fun y hy => ?_, ih hxs⟩
      rcases mem_insertSorted.mp hy with rfl | hy
      · exact Std.OrientedCmp.lt_of_gt hk
      · exact hx y hy

section Ordered

variable [Std.TransOrd κ] [Std.LawfulEqOrd κ]

/-- The set with `k` added. -/
def insert (s : KeySet κ) (k : κ) : KeySet κ :=
  ⟨insertSorted k s.toList, pairwise_insertSorted k s.ascending⟩

/-- The set with every key of `l` added. -/
def insertMany (s : KeySet κ) (l : List κ) : KeySet κ := l.foldl insert s

/-- The set of the keys of `l`; repeated keys count once. -/
def ofList (l : List κ) : KeySet κ := empty.insertMany l

/-! ## Several sets at once -/

/-- The keys of at least one of the sets. -/
def union (sets : List (KeySet κ)) : KeySet κ :=
  sets.foldl (fun acc s => acc.insertMany s.toList) empty

end Ordered

/-- The keys of every one of the sets; of no sets, the empty set.  Each further set leaves only its
own keys. -/
def intersection [DecidableEq κ] : List (KeySet κ) → KeySet κ
  | [] => empty
  | s :: rest => rest.foldl (fun acc t => acc.filter t.contains) s

/-- The keys of the first set that are in none of the others.  Each further set takes its keys
away. -/
def difference [DecidableEq κ] : List (KeySet κ) → KeySet κ
  | [] => empty
  | s :: rest => rest.foldl (fun acc t => acc.eraseMany t.toList) s

/-! ## Members of each operation -/

theorem mem_iff {k : κ} {s : KeySet κ} : k ∈ s ↔ k ∈ s.toList := Iff.rfl

@[simp] theorem not_mem_empty {k : κ} : ¬ k ∈ (empty : KeySet κ) := by simp [mem_iff, empty]

@[simp] theorem contains_iff [DecidableEq κ] {k : κ} {s : KeySet κ} :
    s.contains k = true ↔ k ∈ s := by
  simp [contains]

@[simp] theorem mem_filter {k : κ} {s : KeySet κ} {p : κ → Bool} :
    k ∈ s.filter p ↔ k ∈ s ∧ p k = true := by simp [mem_iff, filter]

@[simp] theorem mem_erase [DecidableEq κ] {k x : κ} {s : KeySet κ} :
    k ∈ s.erase x ↔ k ∈ s ∧ k ≠ x := by simp [erase]

@[simp] theorem mem_eraseMany [DecidableEq κ] {k : κ} {s : KeySet κ} {l : List κ} :
    k ∈ s.eraseMany l ↔ k ∈ s ∧ ¬ k ∈ l := by
  induction l generalizing s with
  | nil => simp [eraseMany]
  | cons x xs ih =>
    have hcons : s.eraseMany (x :: xs) = (s.erase x).eraseMany xs := rfl
    rw [hcons, ih, mem_erase, List.mem_cons, not_or, and_assoc]

section Ordered

variable [Std.TransOrd κ] [Std.LawfulEqOrd κ]

@[simp] theorem mem_insert {k x : κ} {s : KeySet κ} : k ∈ s.insert x ↔ k = x ∨ k ∈ s :=
  mem_insertSorted

@[simp] theorem mem_insertMany {k : κ} {s : KeySet κ} {l : List κ} :
    k ∈ s.insertMany l ↔ k ∈ l ∨ k ∈ s := by
  induction l generalizing s with
  | nil => simp [insertMany]
  | cons x xs ih =>
    have : s.insertMany (x :: xs) = (s.insert x).insertMany xs := rfl
    simp only [this, ih, mem_insert, List.mem_cons, or_assoc]
    exact or_left_comm

@[simp] theorem mem_ofList {k : κ} {l : List κ} : k ∈ ofList l ↔ k ∈ l := by simp [ofList]

end Ordered

end KeySet

end EnvRegistry

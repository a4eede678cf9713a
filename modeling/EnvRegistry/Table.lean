/-! # Tables keyed by 32-bit ids

    `Table α` maps ids to values and keeps its entries in ascending order of their
    ids, each id at most once.  The order is part of the type: two tables that
    answer every look-up alike are equal (`Table.ext_get?`), and listing a table
    goes through it by ascending id. -/

namespace EnvRegistry

/-- A map from ids to values, in ascending order of the ids. -/
structure Table (α : Type) where
  /-- The entries, in ascending order of their ids. -/
  entries : List (UInt32 × α)
  ascending : entries.Pairwise (fun a b => a.1 < b.1)

namespace Table

variable {α : Type}

/-- The table without entries. -/
def empty : Table α := ⟨[], .nil⟩

instance : EmptyCollection (Table α) := ⟨empty⟩

instance : Inhabited (Table α) := ⟨empty⟩

/-- The value under `id`. -/
def get? (t : Table α) (id : UInt32) : Option α := t.entries.lookup id

/-- Whether some value is held under `id`. -/
def contains (t : Table α) (id : UInt32) : Bool := (t.get? id).isSome

/-- The values, by ascending id. -/
def values (t : Table α) : List α := t.entries.map (·.2)

/-- The ids, ascending. -/
def ids (t : Table α) : List UInt32 := t.entries.map (·.1)

/-- The greatest id. -/
def lastId? (t : Table α) : Option UInt32 := t.ids.getLast?

/-- Places a value in an ascending list of entries, over an earlier one with the same id. -/
def insertSorted (id : UInt32) (a : α) : List (UInt32 × α) → List (UInt32 × α)
  | [] => [(id, a)]
  | e :: es =>
    if id < e.1 then (id, a) :: e :: es
    else if id = e.1 then (id, a) :: es
    else e :: insertSorted id a es

theorem fst_mem_insertSorted {id : UInt32} {a : α} {l : List (UInt32 × α)} {e : UInt32 × α}
    (h : e ∈ insertSorted id a l) : e = (id, a) ∨ e ∈ l := by
  induction l with
  | nil => simpa [insertSorted] using h
  | cons x xs ih =>
    simp only [insertSorted] at h
    split at h
    · simpa using h
    · split at h
      · rcases List.mem_cons.mp h with h | h <;> simp [h]
      · rcases List.mem_cons.mp h with h | h
        · simp [h]
        · rcases ih h with h | h <;> simp [h]

theorem pairwise_insertSorted (id : UInt32) (a : α) {l : List (UInt32 × α)}
    (h : l.Pairwise (fun a b => a.1 < b.1)) :
    (insertSorted id a l).Pairwise (fun a b => a.1 < b.1) := by
  induction l with
  | nil => simp [insertSorted]
  | cons x xs ih =>
    have ⟨hx, hxs⟩ := List.pairwise_cons.mp h
    simp only [insertSorted]
    split
    · rename_i hlt
      refine List.pairwise_cons.mpr ⟨fun y hy => ?_, h⟩
      rcases List.mem_cons.mp hy with rfl | hy
      · exact hlt
      · exact UInt32.lt_trans hlt (hx y hy)
    · split
      · rename_i heq
        subst heq
        exact List.pairwise_cons.mpr ⟨fun y hy => hx y hy, hxs⟩
      · rename_i hge hne
        refine List.pairwise_cons.mpr ⟨fun y hy => ?_, ih hxs⟩
        rcases fst_mem_insertSorted hy with rfl | hy
        · simp only [UInt32.lt_iff_toNat_lt] at hge ⊢
          have : id.toNat ≠ x.1.toNat := fun h => hne (UInt32.toNat_inj.mp h)
          omega
        · exact hx y hy

/-- The table with `a` under `id`, in place of any earlier value there. -/
def insert (t : Table α) (id : UInt32) (a : α) : Table α :=
  ⟨insertSorted id a t.entries, pairwise_insertSorted id a t.ascending⟩

/-- The table of the given entries; of two with the same id the later one counts. -/
def ofList (l : List (UInt32 × α)) : Table α := l.foldl (fun t e => t.insert e.1 e.2) empty

/-- Every value lies under the id that `key` gives it. -/
def Keyed (key : α → UInt32) (t : Table α) : Prop := ∀ id a, t.get? id = some a → key a = id

/-! ## Look-ups after each operation -/

theorem lookup_cons (j : UInt32) (e : UInt32 × α) (l : List (UInt32 × α)) :
    (e :: l).lookup j = if j = e.1 then some e.2 else l.lookup j := by
  obtain ⟨id, a⟩ := e
  by_cases h : j = id
  · simp [h]
  · have : (j == id) = false := by simp [h]
    simp [List.lookup_cons, h, this]

theorem lookup_insertSorted (id j : UInt32) (a : α) (l : List (UInt32 × α)) :
    (insertSorted id a l).lookup j = if j = id then some a else l.lookup j := by
  induction l with
  | nil => simp [insertSorted, lookup_cons]
  | cons x xs ih =>
    simp only [insertSorted]
    split
    · simp [lookup_cons]
    · split
      · rename_i heq
        subst heq
        simp only [lookup_cons]
        split <;> rfl
      · rename_i hne
        simp only [lookup_cons, ih]
        by_cases hx : j = x.1
        · subst hx
          simp [Ne.symm hne]
        · simp [hx]

@[simp] theorem get?_empty (id : UInt32) : (empty : Table α).get? id = none := rfl

/-- Reading after writing: the written id holds the new value and no other id changes. -/
@[simp] theorem get?_insert (t : Table α) (id j : UInt32) (a : α) :
    (t.insert id a).get? j = if j = id then some a else t.get? j :=
  lookup_insertSorted id j a t.entries

theorem keyed_empty (key : α → UInt32) : (empty : Table α).Keyed key := by
  intro id a h
  simp at h

/-- Writing a value under its own id leaves every value under its own id. -/
theorem Keyed.insert {key : α → UInt32} {t : Table α} (h : t.Keyed key) (a : α) :
    (t.insert (key a) a).Keyed key := by
  intro id b hb
  rw [get?_insert] at hb
  split at hb
  · next heq =>
    cases hb
    exact heq.symm
  · exact h id b hb

theorem lookup_eq_some_iff {l : List (UInt32 × α)} (h : l.Pairwise (fun a b => a.1 < b.1))
    {id : UInt32} {a : α} : l.lookup id = some a ↔ (id, a) ∈ l := by
  induction l with
  | nil => simp
  | cons x xs ih =>
    have ⟨hx, hxs⟩ := List.pairwise_cons.mp h
    by_cases hid : id = x.1
    · subst hid
      simp only [lookup_cons, if_true, Option.some.injEq, List.mem_cons]
      constructor
      · rintro rfl; exact .inl rfl
      · rintro (h | h)
        · exact (congrArg Prod.snd h).symm
        · exact absurd (hx _ h) (by simp)
    · simp only [lookup_cons, if_neg hid, ih hxs, List.mem_cons]
      constructor
      · exact .inr
      · rintro (h | h)
        · exact absurd (congrArg Prod.fst h) hid
        · exact h

theorem get?_eq_some_iff {t : Table α} {id : UInt32} {a : α} :
    t.get? id = some a ↔ (id, a) ∈ t.entries := lookup_eq_some_iff t.ascending

/-- Tables that answer every look-up alike are equal. -/
theorem ext_get? {t u : Table α} (h : ∀ id, t.get? id = u.get? id) : t = u := by
  have hp : t.entries.Perm u.entries := by
    refine (List.perm_ext_iff_of_nodup ?_ ?_).mpr fun e => ?_
    · exact t.ascending.imp fun hlt heq => by subst heq; simp at hlt
    · exact u.ascending.imp fun hlt heq => by subst heq; simp at hlt
    · rw [← get?_eq_some_iff (t := t), ← get?_eq_some_iff (t := u), h]
  have he : t.entries = u.entries :=
    @List.Perm.eq_of_pairwise _ (fun a b => a.1 < b.1) _ _
      (fun a b _ _ h₁ h₂ => absurd (UInt32.lt_trans h₁ h₂) (by simp)) t.ascending u.ascending hp
  cases t; cases u; simp_all

end Table

end EnvRegistry

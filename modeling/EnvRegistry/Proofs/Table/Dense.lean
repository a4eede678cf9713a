import EnvRegistry.Proofs.Table

/-! # Tables without gaps

    A table is dense if its ids are `1`, `2`, `3` and so on up to their number.
    Writing over a value leaves the ids as they are (`ids_insert_of_contains`),
    and a value under the next id comes last (`ids_insert_nextId`), so both leave
    a dense table dense.  The next id of a dense table is one more than the
    number of its ids, as long as there is such an id (`Dense.toNat_nextId`). -/

namespace EnvRegistry.Table

variable {α : Type} {t : Table α} {id : UInt32}

/-- The ids are the numbers from one on, without gaps. -/
def Dense (t : Table α) : Prop := t.ids.map UInt32.toNat = List.range' 1 t.ids.length

/-! ## Section 1: The ids of a table -/

theorem ids_ascending (t : Table α) : t.ids.Pairwise (· < ·) := List.pairwise_map.mpr t.ascending

theorem mem_ids : id ∈ t.ids ↔ t.contains id = true := by
  rw [contains_iff, ids, List.mem_map]
  constructor
  · rintro ⟨⟨j, a⟩, he, rfl⟩
    exact ⟨a, get?_eq_some_iff.mpr he⟩
  · rintro ⟨a, ha⟩
    exact ⟨(id, a), get?_eq_some_iff.mp ha, rfl⟩

/-- The ids of a table are determined by which they are. -/
theorem ids_eq {l : List UInt32} (hl : l.Pairwise (· < ·)) (h : ∀ j, j ∈ t.ids ↔ j ∈ l) :
    t.ids = l := by
  have hdistinct : ∀ {l : List UInt32}, l.Pairwise (· < ·) → l.Nodup := fun hl =>
    hl.imp fun hlt heq => absurd (heq ▸ hlt) (UInt32.lt_irrefl _)
  have hperm : t.ids.Perm l :=
    (List.perm_ext_iff_of_nodup (hdistinct t.ids_ascending) (hdistinct hl)).mpr h
  exact hperm.eq_of_pairwise (fun a b _ _ hab hba => absurd (UInt32.lt_trans hab hba)
    (UInt32.lt_irrefl _)) t.ids_ascending hl

theorem mem_ids_insert (t : Table α) (id : UInt32) (a : α) (j : UInt32) :
    j ∈ (t.insert id a).ids ↔ j = id ∨ j ∈ t.ids := by
  rw [mem_ids, mem_ids, contains, contains, get?_insert]
  by_cases hj : j = id
  · simp [hj]
  · simp [hj]

/-- Writing over a value takes no new id. -/
theorem ids_insert_of_contains (h : t.contains id = true) (a : α) :
    (t.insert id a).ids = t.ids := by
  refine ids_eq t.ids_ascending fun j => ?_
  rw [mem_ids_insert]
  constructor
  · rintro (rfl | hj)
    · exact mem_ids.mpr h
    · exact hj
  · exact .inr

/-- The next id is greater than any that is taken. -/
theorem lt_nextId (h : nextId t.lastId? = .ok id) {j : UInt32} (hj : j ∈ t.ids) : j < id := by
  obtain ⟨last, hlast, hle⟩ := le_lastId? t.ids_ascending hj
  rw [lastId?, hlast, nextId_eq_ok, Option.getD_some] at h
  rw [UInt32.le_iff_toNat_le] at hle
  rw [UInt32.lt_iff_toNat_lt]
  omega

theorem insertSorted_last (a : α) {l : List (UInt32 × α)} (h : ∀ e ∈ l, e.1 < id) :
    insertSorted id a l = l ++ [(id, a)] := by
  induction l with
  | nil => rfl
  | cons e l ih =>
    obtain ⟨hlt, hrest⟩ := List.forall_mem_cons.mp h
    have hne : id ≠ e.1 := by
      intro heq
      exact absurd (heq ▸ hlt) (UInt32.lt_irrefl _)
    rw [insertSorted, if_neg (UInt32.lt_asymm hlt), if_neg hne, ih hrest, List.cons_append]

/-- A value under the next id comes last. -/
theorem entries_insert_nextId (h : nextId t.lastId? = .ok id) (a : α) :
    (t.insert id a).entries = t.entries ++ [(id, a)] :=
  insertSorted_last a fun _ he => lt_nextId h (List.mem_map_of_mem he)

theorem ids_insert_nextId (h : nextId t.lastId? = .ok id) (a : α) :
    (t.insert id a).ids = t.ids ++ [id] := by
  rw [ids, entries_insert_nextId h, List.map_append]
  rfl

theorem lastId?_insert_nextId (h : nextId t.lastId? = .ok id) (a : α) :
    (t.insert id a).lastId? = some id := by
  rw [lastId?, ids_insert_nextId h, List.getLast?_concat]

/-! ## Section 2: Dense tables -/

theorem dense_empty : (empty : Table α).Dense := rfl

/-- With the greatest id taken there is no next one. -/
theorem nextId_last (h : t.lastId? = some 4294967295) :
    nextId t.lastId? = .error (.persistence .idsExhausted) := by
  rw [h]
  rfl

namespace Dense

/-- The last id of a dense table is the number of its ids. -/
theorem lastId? (h : t.Dense) : (t.lastId?.getD 0).toNat = t.ids.length := by
  have hlast : (t.ids.map UInt32.toNat).getLast? = t.lastId?.map UInt32.toNat := List.getLast?_map
  rw [h, List.getLast?_range'] at hlast
  cases hid : t.lastId? with
  | none =>
    rw [hid] at hlast
    by_cases hnone : t.ids.length = 0
    · rw [hnone]
      rfl
    · rw [if_neg hnone] at hlast
      cases hlast
  | some last =>
    rw [hid] at hlast
    by_cases hnone : t.ids.length = 0
    · rw [if_pos hnone] at hlast
      cases hlast
    · rw [if_neg hnone] at hlast
      have hsame := Option.some.inj hlast
      show last.toNat = t.ids.length
      omega

/-- The next id is one more than the number of ids. -/
theorem toNat_nextId (h : t.Dense) (hid : nextId t.lastId? = .ok id) :
    id.toNat = t.ids.length + 1 := by
  rw [nextId_eq_ok.mp hid, h.lastId?]

/-- There is a next id unless all of them are taken. -/
theorem eq_of_nextId_error {e : RegistryError} (h : t.Dense)
    (he : nextId t.lastId? = .error e) :
    e = .persistence .idsExhausted ∧ t.ids.length = 4294967295 := by
  obtain ⟨hfull, rfl⟩ := nextId_eq_error.mp he
  rw [h.lastId?] at hfull
  exact ⟨rfl, hfull⟩

/-- A value under the next id leaves no gap. -/
theorem insert_nextId (h : t.Dense) (hid : nextId t.lastId? = .ok id) (a : α) :
    (t.insert id a).Dense := by
  have hnext := h.toNat_nextId hid
  unfold Dense at h ⊢
  calc (t.insert id a).ids.map UInt32.toNat
      = List.range' 1 t.ids.length ++ [id.toNat] := by
        rw [ids_insert_nextId hid, List.map_append, h, List.map_singleton]
    _ = List.range' 1 (t.ids.length + 1) := by
        rw [List.range'_concat, hnext, Nat.one_mul, Nat.add_comm 1]
    _ = List.range' 1 (t.insert id a).ids.length := by
        rw [ids_insert_nextId hid, List.length_append, List.length_singleton]

/-- Neither writing over a value nor adding one under the next id leaves a gap. -/
theorem insert (h : t.Dense) (hid : t.contains id = true ∨ nextId t.lastId? = .ok id) (a : α) :
    (t.insert id a).Dense := by
  rcases hid with hold | hnew
  · unfold Dense at h ⊢
    rwa [ids_insert_of_contains hold]
  · exact h.insert_nextId hnew a

end Dense

/-- Neither of them takes an id away. -/
theorem ids_prefix_insert (hid : t.contains id = true ∨ nextId t.lastId? = .ok id) (a : α) :
    t.ids <+: (t.insert id a).ids := by
  rcases hid with hold | hnew
  · exact ⟨[], by rw [List.append_nil, ids_insert_of_contains hold]⟩
  · rw [ids_insert_nextId hnew]
    exact List.prefix_append _ _

end EnvRegistry.Table

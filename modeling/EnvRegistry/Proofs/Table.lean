import EnvRegistry.Store.Basic
import EnvRegistry.Table

/-! # Tables under a change of every value

    `Table.map` changes every value of a table and leaves the ids alone.  What
    an operation does to a table is either one `insert` or one `map`, and the
    lemmas of this module say what the table answers afterwards.

    The id that `nextId` gives for a table is new to it. -/

namespace EnvRegistry.Table

variable {α β γ : Type}

/-! ## Section 1: Changing every value -/

/-- The table with `f` applied to every value. -/
def map (f : α → β) (t : Table α) : Table β :=
  ⟨t.entries.map fun e => (e.1, f e.2), List.pairwise_map.mpr t.ascending⟩

@[simp] theorem get?_map (f : α → β) (t : Table α) (id : UInt32) :
    (t.map f).get? id = (t.get? id).map f := by
  show (t.entries.map fun e => (e.1, f e.2)).lookup id = (t.entries.lookup id).map f
  induction t.entries with
  | nil => rfl
  | cons e es ih =>
    rw [List.map_cons, lookup_cons, lookup_cons, ih]
    split <;> rfl

@[simp] theorem contains_map (f : α → β) (t : Table α) (id : UInt32) :
    (t.map f).contains id = t.contains id := by
  simp [contains]

@[simp] theorem values_map (f : α → β) (t : Table α) : (t.map f).values = t.values.map f := by
  simp [values, map, Function.comp_def]

@[simp] theorem lastId?_map (f : α → β) (t : Table α) : (t.map f).lastId? = t.lastId? := by
  simp [lastId?, ids, map, Function.comp_def]

theorem map_insert (f : α → β) (t : Table α) (id : UInt32) (a : α) :
    (t.insert id a).map f = (t.map f).insert id (f a) := by
  apply ext_get?
  intro j
  simp only [get?_map, get?_insert]
  split <;> rfl

/-- What lies under different ids can be put there in either order. -/
theorem insert_comm (t : Table α) {id id' : UInt32} (h : id ≠ id') (a a' : α) :
    (t.insert id a).insert id' a' = (t.insert id' a').insert id a := by
  apply ext_get?
  intro j
  simp only [get?_insert]
  by_cases hj : j = id
  · rw [if_pos hj, if_pos hj, if_neg (hj ▸ h)]
  · rw [if_neg hj, if_neg hj]

theorem map_map (g : β → γ) (f : α → β) (t : Table α) : (t.map f).map g = t.map (g ∘ f) := by
  apply ext_get?
  intro j
  simp only [get?_map, Option.map_map]

theorem map_eq_self {f : α → α} {t : Table α} (h : ∀ id a, t.get? id = some a → f a = a) :
    t.map f = t := by
  apply ext_get?
  intro j
  rw [get?_map]
  cases hj : t.get? j with
  | none => rfl
  | some a => simp only [Option.map_some, h j a hj]

/-- Writing one value is changing every value, if the change touches no other value. -/
theorem insert_eq_map {f : α → α} {t : Table α} {id : UInt32} {a : α} (ha : t.get? id = some a)
    (hf : ∀ j b, j ≠ id → t.get? j = some b → f b = b) : t.insert id (f a) = t.map f := by
  apply ext_get?
  intro j
  rw [get?_insert, get?_map]
  by_cases hj : j = id
  · rw [if_pos hj, hj, ha]
    rfl
  · -- The change touches no other value.
    rw [if_neg hj]
    cases hb : t.get? j with
    | none => rfl
    | some b => rw [Option.map_some, hf j b hj hb]

/-- Equal tables of images under an injective function are images of equal tables. -/
theorem map_injective {f : α → β} (hf : ∀ a b, f a = f b → a = b) {t u : Table α}
    (h : t.map f = u.map f) : t = u := by
  apply ext_get?
  intro j
  have hj := congrArg (·.get? j) h
  simp only [get?_map] at hj
  exact Option.map_injective (fun a b => hf a b) hj

/-! ## Section 2: Ids and values -/

theorem contains_iff {t : Table α} {id : UInt32} :
    t.contains id = true ↔ ∃ a, t.get? id = some a := by
  rw [contains, Option.isSome_iff_exists]

theorem mem_values {t : Table α} {a : α} : a ∈ t.values ↔ ∃ id, t.get? id = some a := by
  simp only [values, List.mem_map, get?_eq_some_iff, Prod.exists]
  constructor
  · rintro ⟨id, b, h, rfl⟩
    exact ⟨id, h⟩
  · rintro ⟨id, h⟩
    exact ⟨id, a, h, rfl⟩

/-- A value of a table with values under their own ids is found under its id. -/
theorem Keyed.mem_values {key : α → UInt32} {t : Table α} (h : t.Keyed key) {a : α} :
    a ∈ t.values ↔ t.get? (key a) = some a := by
  rw [Table.mem_values]
  constructor
  · rintro ⟨id, ha⟩
    rw [h id a ha]
    exact ha
  · intro ha
    exact ⟨key a, ha⟩

theorem Keyed.map {key : α → UInt32} {key' : β → UInt32} {t : Table α} (h : t.Keyed key) {f : α → β}
    (hf : ∀ a, key' (f a) = key a) : (t.map f).Keyed key' := by
  intro id b hb
  rw [get?_map, Option.map_eq_some_iff] at hb
  obtain ⟨a, ha, rfl⟩ := hb
  rw [hf a]
  exact h id a ha

/-! ## Section 3: New ids -/

theorem le_lastId? {l : List UInt32} (h : l.Pairwise (· < ·)) {id : UInt32} (hid : id ∈ l) :
    ∃ last, l.getLast? = some last ∧ id ≤ last := by
  induction l generalizing id with
  | nil => cases hid
  | cons x xs ih =>
    have ⟨hx, hxs⟩ := List.pairwise_cons.mp h
    cases xs with
    | nil =>
      rw [List.mem_singleton] at hid
      exact ⟨x, rfl, by rw [hid]; exact UInt32.le_refl x⟩
    | cons y ys =>
      rw [List.getLast?_cons_cons]
      rcases List.mem_cons.mp hid with rfl | hid
      · obtain ⟨last, hlast, hle⟩ := ih hxs List.mem_cons_self
        have hlt := UInt32.lt_of_lt_of_le (hx y List.mem_cons_self) hle
        exact ⟨last, hlast, UInt32.le_of_lt hlt⟩
      · exact ih hxs hid

/-- The next id is one more than the last one taken. -/
theorem nextId_eq_ok {last : Option UInt32} {id : UInt32} :
    nextId last = .ok id ↔ id.toNat = (last.getD 0).toNat + 1 := by
  unfold nextId
  simp only
  split
  · next hlt =>
    constructor
    · intro h
      cases h
      exact UInt32.toNat_ofNat_of_lt' hlt
    · intro h
      rw [← h, UInt32.ofNat_toNat]
  · next hfull =>
    refine iff_of_false nofun fun h => hfull ?_
    rw [← h]
    exact id.toNat_lt

/-- There is a next id unless the last one taken is the greatest. -/
theorem nextId_eq_error {last : Option UInt32} {e : RegistryError} :
    nextId last = .error e ↔
      (last.getD 0).toNat = 4294967295 ∧ e = .persistence .idsExhausted := by
  have hsize : UInt32.size = 4294967296 := rfl
  have hlt := (last.getD 0).toNat_lt
  unfold nextId
  simp only
  split
  · refine iff_of_false nofun ?_
    rintro ⟨hlast, -⟩
    omega
  · constructor
    · intro h
      cases h
      exact ⟨by omega, rfl⟩
    · rintro ⟨-, rfl⟩
      rfl

/-- The next id is not taken. -/
theorem get?_nextId {t : Table α} {id : UInt32} (h : nextId t.lastId? = .ok id) :
    t.get? id = none := by
  cases ha : t.get? id with
  | none => rfl
  | some a =>
    -- It would be at most the last one taken, but it is one more.
    have hmem : id ∈ t.ids := List.mem_map.mpr ⟨(id, a), get?_eq_some_iff.mp ha, rfl⟩
    have hasc : t.ids.Pairwise (· < ·) := List.pairwise_map.mpr t.ascending
    obtain ⟨last, hlast, hle⟩ := le_lastId? hasc hmem
    rw [lastId?, hlast, nextId_eq_ok, Option.getD_some] at h
    rw [UInt32.le_iff_toNat_le] at hle
    omega

/-- The next id is not taken, whatever is done to the values. -/
theorem get?_nextId_map {f : α → β} {t : Table α} {id : UInt32}
    (h : nextId (t.map f).lastId? = .ok id) : t.get? id = none :=
  Option.map_eq_none_iff.mp ((get?_map f t id).symm.trans (get?_nextId h))

end EnvRegistry.Table

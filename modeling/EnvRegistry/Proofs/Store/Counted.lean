import EnvRegistry.Proofs.Store.Views

/-! # Stores that count

    `Counted σ` is the store `σ` with a count of the reads and of the writes that
    were asked of it, whether they succeeded or not.  Counting has no part in what
    the store does (`Counted.storeMap`), so it says of any store how often an
    operation reads and writes.  A store in memory counts by itself, and it counts
    alike (`MemoryStore.counted_storeMap`). -/

namespace EnvRegistry

/-! ## Section 1: Model -/

/-- A store and what was asked of it so far. -/
structure Counted (σ : Type) where
  store : σ
  reads : Nat := 0
  writes : Nat := 0

namespace Counted

variable {σ τ α β : Type}

/-- An operation that counts as one read. -/
def reading (m : StoreM σ α) : StoreM (Counted σ) α := fun c =>
  ((m c.store).1, { store := (m c.store).2, reads := c.reads + 1, writes := c.writes })

/-- An operation that counts as one write. -/
def writing (m : StoreM σ α) : StoreM (Counted σ) α := fun c =>
  ((m c.store).1, { store := (m c.store).2, reads := c.reads, writes := c.writes + 1 })

instance [RelationStore σ] : RelationStore (Counted σ) where
  environment id := reading (RelationStore.environment id)
  updateEnvironment e := writing (RelationStore.updateEnvironment e)
  tag id := reading (RelationStore.tag id)
  updateTag t := writing (RelationStore.updateTag t)
  edgeGroup id := reading (RelationStore.edgeGroup id)
  edgeGroups := reading RelationStore.edgeGroups
  updateEdgeGroup g := writing (RelationStore.updateEdgeGroup g)
  createTag name := writing (RelationStore.createTag name)
  createEdgeGroup name := writing (RelationStore.createEdgeGroup name)

/-- The image of the store, with so many more reads and writes counted. -/
def map (φ : σ → τ) (reads writes : Nat) (c : Counted σ) : Counted τ :=
  { store := φ c.store, reads := c.reads + reads, writes := c.writes + writes }

/-! ## Section 2: Counting changes nothing -/

/-- The store does not see that it is counted. -/
theorem storeMap [RelationStore σ] : StoreMap (store : Counted σ → σ) where
  environment _ _ := rfl
  updateEnvironment _ _ := rfl
  tag _ _ := rfl
  updateTag _ _ := rfl
  edgeGroup _ _ := rfl
  edgeGroups _ := rfl
  updateEdgeGroup _ _ := rfl
  createTag _ _ := rfl
  createEdgeGroup _ _ := rfl

section Map

variable {φ : σ → τ} (reads writes : Nat)

theorem carries_reading {f : α → β} {m : StoreM σ α} {n : StoreM τ β} (h : Carries φ f m n) :
    Carries (map φ reads writes) f (reading m) (reading n) := by
  intro c
  unfold reading map
  rw [h c.store, Nat.add_right_comm]

theorem commutes_writing {m : StoreM σ α} {n : StoreM τ α} (h : Commutes φ m n) :
    Commutes (map φ reads writes) (writing m) (writing n) := by
  intro c
  unfold writing map
  rw [h c.store, Nat.add_right_comm c.writes]

end Map

/-- A read writes nothing. -/
theorem reading_maintains {P : σ → Prop} {Q : RegistryError → Prop} {m : StoreM σ α}
    (hm : Maintains P Q m) (writes : Nat) :
    Maintains (fun c : Counted σ => P c.store ∧ c.writes = writes) Q (reading m) := by
  rintro c ⟨hP, hwrites⟩
  obtain ⟨hP', hQ⟩ := hm c.store hP
  exact ⟨⟨hP', hwrites⟩, hQ⟩

end Counted

/-! ## Section 3: The store in memory -/

namespace MemoryStore

variable {α : Type}

/-- What the store holds and rejects, and what it has counted. -/
def counted (s : MemoryStore) : Counted Shelf :=
  { store := s.shelf, reads := s.reads, writes := s.writes }

theorem commutes_reading {m : StoreM MemoryStore α} {n : StoreM Shelf α} (h : Commutes shelf m n)
    (hcount : ∀ s, (m s).2.reads = s.reads + 1 ∧ (m s).2.writes = s.writes) :
    Commutes counted m (Counted.reading n) := by
  intro s
  unfold Counted.reading counted
  rw [h s, (hcount s).1, (hcount s).2]

theorem commutes_writing {m : StoreM MemoryStore α} {n : StoreM Shelf α} (h : Commutes shelf m n)
    (hcount : ∀ s, (m s).2.reads = s.reads ∧ (m s).2.writes = s.writes + 1) :
    Commutes counted m (Counted.writing n) := by
  intro s
  unfold Counted.writing counted
  rw [h s, (hcount s).1, (hcount s).2]

section Records

variable (kind : EntityKind) (table : MemoryStore → Table α)

theorem readRecord_counts (id : UInt32) (s : MemoryStore) :
    (readRecord kind table id s).2.reads = s.reads + 1 ∧
      (readRecord kind table id s).2.writes = s.writes := by
  rw [readRecord_apply]
  exact ⟨rfl, rfl⟩

theorem replaceRecord_counts (id : UInt32) {put : MemoryStore → MemoryStore}
    (hput : ∀ s, (put s).reads = s.reads ∧ (put s).writes = s.writes) (s : MemoryStore) :
    (replaceRecord kind table id put s).2.reads = s.reads ∧
      (replaceRecord kind table id put s).2.writes = s.writes + 1 := by
  rw [replaceRecord_apply]
  split
  · exact ⟨rfl, rfl⟩
  · split
    · exact hput s.countWrite
    · exact ⟨rfl, rfl⟩

theorem addRecord_counts (make : UInt32 → α) {put : MemoryStore → α → MemoryStore}
    (hput : ∀ s a, (put s a).reads = s.reads ∧ (put s a).writes = s.writes) (s : MemoryStore) :
    (addRecord table make put s).2.reads = s.reads ∧
      (addRecord table make put s).2.writes = s.writes + 1 := by
  rw [addRecord_apply]
  split
  · exact hput s.countWrite _
  · exact ⟨rfl, rfl⟩

end Records

theorem edgeGroups_state (s : MemoryStore) :
    ((RelationStore.edgeGroups : StoreM MemoryStore _) s).2 = s.countRead := by
  obtain ⟨_, _, _, _, _, failingScan, _, _, _, _, _⟩ := s
  cases failingScan with
  | true => rfl
  | false => rfl

theorem edgeGroups_counts (s : MemoryStore) :
    ((RelationStore.edgeGroups : StoreM MemoryStore _) s).2.reads = s.reads + 1 ∧
      ((RelationStore.edgeGroups : StoreM MemoryStore _) s).2.writes = s.writes := by
  rw [edgeGroups_state]
  exact ⟨rfl, rfl⟩

/-- The store counts as it would be counted. -/
theorem counted_storeMap : StoreMap counted where
  environment id := commutes_reading (storeMap.environment id) (readRecord_counts _ _ id)
  updateEnvironment e := commutes_writing (storeMap.updateEnvironment e)
    (replaceRecord_counts _ _ _ fun _ => ⟨rfl, rfl⟩)
  tag id := commutes_reading (storeMap.tag id) (readRecord_counts _ _ id)
  updateTag t := commutes_writing (storeMap.updateTag t)
    (replaceRecord_counts _ _ _ fun _ => ⟨rfl, rfl⟩)
  edgeGroup id := commutes_reading (storeMap.edgeGroup id) (readRecord_counts _ _ id)
  edgeGroups := commutes_reading storeMap.edgeGroups edgeGroups_counts
  updateEdgeGroup g := commutes_writing (storeMap.updateEdgeGroup g)
    (replaceRecord_counts _ _ _ fun _ => ⟨rfl, rfl⟩)
  createTag name := commutes_writing (storeMap.createTag name)
    (addRecord_counts _ _ fun _ _ => ⟨rfl, rfl⟩)
  createEdgeGroup name := commutes_writing (storeMap.createEdgeGroup name)
    (addRecord_counts _ _ fun _ _ => ⟨rfl, rfl⟩)

end MemoryStore

end EnvRegistry

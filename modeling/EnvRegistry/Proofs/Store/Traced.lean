import EnvRegistry.Proofs.Store.Counted

/-! # Stores that keep a record of their calls

    `Traced σ` is the store `σ` with a list of the calls that were made of it, in
    order, whether they succeeded or not.  Keeping the list has no part in what
    the store does (`Traced.storeMap`), so it says of any store what an operation
    asks of it, and in what order.

    The counts of a store in memory are the tally of its calls
    (`MemoryStore.counts_eq`). -/

namespace EnvRegistry

/-! ## Section 1: Model -/

/-- A call of an operation of a store. -/
inductive StoreCall where
  | environment (id : EnvironmentId)
  | updateEnvironment (e : Environment)
  | tag (id : TagId)
  | updateTag (t : Tag)
  | edgeGroup (id : EdgeGroupId)
  | edgeGroups
  | updateEdgeGroup (g : EdgeGroup)
  | createTag (name : String)
  | createEdgeGroup (name : String)
  deriving DecidableEq, Inhabited

namespace StoreCall

/-- Whether the call is a read.  Otherwise it is a write. -/
def isRead : StoreCall → Bool
  | .environment _ | .tag _ | .edgeGroup _ | .edgeGroups => true
  | _ => false

/-- Whether the call is about tags. -/
def onTags : StoreCall → Bool
  | .tag _ | .updateTag _ | .createTag _ => true
  | _ => false

/-- The tag that is written over another. -/
def writtenTag? : StoreCall → Option Tag
  | .updateTag t => some t
  | _ => none

/-- The edge group that is written over another. -/
def writtenEdgeGroup? : StoreCall → Option EdgeGroup
  | .updateEdgeGroup g => some g
  | _ => none

/-- The number of reads among some calls. -/
def reads (calls : List StoreCall) : Nat := calls.countP isRead

/-- The number of writes among some calls. -/
def writes (calls : List StoreCall) : Nat := calls.countP fun c => !c.isRead

@[simp] theorem reads_append (calls later : List StoreCall) :
    reads (calls ++ later) = reads calls + reads later := List.countP_append

@[simp] theorem writes_append (calls later : List StoreCall) :
    writes (calls ++ later) = writes calls + writes later := List.countP_append

end StoreCall

/-- A store and the calls that were made of it so far. -/
structure Traced (σ : Type) where
  store : σ
  calls : List StoreCall := []

namespace Traced

variable {σ τ α : Type}

/-- An operation that is one call. -/
def calling (c : StoreCall) (m : StoreM σ α) : StoreM (Traced σ) α := fun t =>
  ((m t.store).1, ⟨(m t.store).2, t.calls ++ [c]⟩)

instance [RelationStore σ] : RelationStore (Traced σ) where
  environment id := calling (.environment id) (RelationStore.environment id)
  updateEnvironment e := calling (.updateEnvironment e) (RelationStore.updateEnvironment e)
  tag id := calling (.tag id) (RelationStore.tag id)
  updateTag t := calling (.updateTag t) (RelationStore.updateTag t)
  edgeGroup id := calling (.edgeGroup id) (RelationStore.edgeGroup id)
  edgeGroups := calling .edgeGroups RelationStore.edgeGroups
  updateEdgeGroup g := calling (.updateEdgeGroup g) (RelationStore.updateEdgeGroup g)
  createTag name := calling (.createTag name) (RelationStore.createTag name)
  createEdgeGroup name := calling (.createEdgeGroup name) (RelationStore.createEdgeGroup name)

/-- The image of the store, of which the same calls were made. -/
def map (φ : σ → τ) (t : Traced σ) : Traced τ := ⟨φ t.store, t.calls⟩

/-- The store with its calls counted, beside those that were counted before. -/
def tally (reads writes : Nat) (t : Traced σ) : Counted σ :=
  ⟨t.store, reads + StoreCall.reads t.calls, writes + StoreCall.writes t.calls⟩

/-! ## Section 2: Keeping the list changes nothing -/

variable [RelationStore σ]

/-- The store does not see that its calls are listed. -/
theorem storeMap : StoreMap (store : Traced σ → σ) where
  environment _ _ := rfl
  updateEnvironment _ _ := rfl
  tag _ _ := rfl
  updateTag _ _ := rfl
  edgeGroup _ _ := rfl
  edgeGroups _ := rfl
  updateEdgeGroup _ _ := rfl
  createTag _ _ := rfl
  createEdgeGroup _ _ := rfl

section Map

variable [RelationStore τ] {φ : σ → τ}

omit [RelationStore σ] [RelationStore τ] in
theorem commutes_calling {m : StoreM σ α} {n : StoreM τ α} (h : Commutes φ m n) (c : StoreCall) :
    Commutes (map φ) (calling c m) (calling c n) := by
  intro t
  unfold calling map
  rw [h t.store]

/-- A map between stores keeps the calls. -/
theorem map_storeMap (h : StoreMap φ) : StoreMap (map φ) where
  environment id := commutes_calling (h.environment id) _
  updateEnvironment e := commutes_calling (h.updateEnvironment e) _
  tag id := commutes_calling (h.tag id) _
  updateTag t := commutes_calling (h.updateTag t) _
  edgeGroup id := commutes_calling (h.edgeGroup id) _
  edgeGroups := commutes_calling h.edgeGroups _
  updateEdgeGroup g := commutes_calling (h.updateEdgeGroup g) _
  createTag name := commutes_calling (h.createTag name) _
  createEdgeGroup name := commutes_calling (h.createEdgeGroup name) _

end Map

section Tally

variable (reads writes : Nat)

omit [RelationStore σ] in
theorem commutes_reading {c : StoreCall} (hc : c.isRead = true) (m : StoreM σ α) :
    Commutes (tally reads writes) (calling c m) (Counted.reading m) := by
  intro t
  have hreads : StoreCall.reads (t.calls ++ [c]) = StoreCall.reads t.calls + 1 := by
    simp [StoreCall.reads, hc]
  have hwrites : StoreCall.writes (t.calls ++ [c]) = StoreCall.writes t.calls := by
    simp [StoreCall.writes, hc]
  unfold Counted.reading calling tally
  rw [hreads, hwrites, Nat.add_assoc]

omit [RelationStore σ] in
theorem commutes_writing {c : StoreCall} (hc : c.isRead = false) (m : StoreM σ α) :
    Commutes (tally reads writes) (calling c m) (Counted.writing m) := by
  intro t
  have hreads : StoreCall.reads (t.calls ++ [c]) = StoreCall.reads t.calls := by
    simp [StoreCall.reads, hc]
  have hwrites : StoreCall.writes (t.calls ++ [c]) = StoreCall.writes t.calls + 1 := by
    simp [StoreCall.writes, hc]
  unfold Counted.writing calling tally
  rw [hreads, hwrites, Nat.add_assoc]

/-- A store that counts counts the calls. -/
theorem tally_storeMap : StoreMap (tally reads writes : Traced σ → Counted σ) where
  environment _ := commutes_reading reads writes rfl _
  updateEnvironment _ := commutes_writing reads writes rfl _
  tag _ := commutes_reading reads writes rfl _
  updateTag _ := commutes_writing reads writes rfl _
  edgeGroup _ := commutes_reading reads writes rfl _
  edgeGroups := commutes_reading reads writes rfl _
  updateEdgeGroup _ := commutes_writing reads writes rfl _
  createTag _ := commutes_writing reads writes rfl _
  createEdgeGroup _ := commutes_writing reads writes rfl _

end Tally

end Traced

/-! ## Section 3: The store in memory -/

/-- A store in memory has counted the calls that a program made of it. -/
theorem MemoryStore.counts_eq {α : Type} {m : StoreM (Traced MemoryStore) α}
    {n : StoreM (Counted Shelf) α}
    (h : ∀ {φ : Traced MemoryStore → Counted Shelf}, StoreMap φ → Commutes φ m n)
    {s s' : MemoryStore} {result : Except RegistryError α} {calls : List StoreCall}
    (hrun : m ⟨s, []⟩ = (result, ⟨s', calls⟩)) :
    s'.reads = s.reads + StoreCall.reads calls ∧ s'.writes = s.writes + StoreCall.writes calls := by
  -- What the store has counted is seen before and after as a tally of its calls.
  have hcounted := h (Traced.storeMap.comp counted_storeMap) ⟨s, []⟩
  have htallied := h ((Traced.map_storeMap storeMap).comp
    (Traced.tally_storeMap s.reads s.writes)) ⟨s, []⟩
  rw [hrun] at hcounted htallied
  have hsame : s'.counted = Traced.tally s.reads s.writes (Traced.map shelf ⟨s', calls⟩) :=
    (Prod.mk.inj (hcounted.symm.trans htallied)).2
  exact ⟨congrArg Counted.reads hsame, congrArg Counted.writes hsame⟩

end EnvRegistry

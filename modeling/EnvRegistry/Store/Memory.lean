import EnvRegistry.Store.Basic
import EnvRegistry.Table

/-! # A store in memory

    `MemoryStore` holds its records in three tables.  It counts the reads and writes
    asked of it, also those that fail, and can be told to reject some of them, so
    that one can watch what an operation does when its store fails halfway. -/

namespace EnvRegistry

/-- A store in memory.  Every record lies under its own id. -/
structure MemoryStore where
  environments : Table Environment := .empty
  tags : Table Tag := .empty
  edgeGroups : Table EdgeGroup := .empty
  /-- The records whose reads are rejected. -/
  failingReads : List (EntityKind × UInt32) := []
  /-- The records whose writes are rejected. -/
  failingWrites : List (EntityKind × UInt32) := []
  /-- Whether listing the edge groups is rejected. -/
  failingScan : Bool := false
  /-- The number of reads so far. -/
  reads : Nat := 0
  /-- The number of writes so far. -/
  writes : Nat := 0
  environmentsKeyed : environments.Keyed Environment.id := by exact Table.keyed_empty _
  tagsKeyed : tags.Keyed Tag.id := by exact Table.keyed_empty _
  edgeGroupsKeyed : edgeGroups.Keyed EdgeGroup.id := by exact Table.keyed_empty _

namespace MemoryStore

instance : Inhabited MemoryStore := ⟨{}⟩

/-! ## Outside the store's operations

    None of these counts as a read or write. -/

/-- The store with an environment under its id. -/
def insertEnvironment (s : MemoryStore) (e : Environment) : MemoryStore :=
  { s with
    environments := s.environments.insert e.id e
    environmentsKeyed := s.environmentsKeyed.insert e }

/-- The store with a tag under its id. -/
def insertTag (s : MemoryStore) (t : Tag) : MemoryStore :=
  { s with tags := s.tags.insert t.id t, tagsKeyed := s.tagsKeyed.insert t }

/-- The store with an edge group under its id. -/
def insertEdgeGroup (s : MemoryStore) (g : EdgeGroup) : MemoryStore :=
  { s with
    edgeGroups := s.edgeGroups.insert g.id g
    edgeGroupsKeyed := s.edgeGroupsKeyed.insert g }

/-- The store that rejects reads of a record. -/
def rejectReads (s : MemoryStore) (kind : EntityKind) (id : UInt32) : MemoryStore :=
  { s with failingReads := (kind, id) :: s.failingReads }

/-- The store that rejects writes to a record. -/
def rejectWrites (s : MemoryStore) (kind : EntityKind) (id : UInt32) : MemoryStore :=
  { s with failingWrites := (kind, id) :: s.failingWrites }

/-- The store that rejects listing the edge groups. -/
def rejectScan (s : MemoryStore) : MemoryStore := { s with failingScan := true }

/-- The store with nothing counted yet. -/
def resetCounts (s : MemoryStore) : MemoryStore := { s with reads := 0, writes := 0 }

/-! ## The operations -/

/-- Counts a read of a record, and rejects it if it is to be rejected. -/
def checkRead (kind : EntityKind) (id : UInt32) : StoreM MemoryStore Unit := do
  modify fun s => { s with reads := s.reads + 1 }
  if (kind, id) ∈ (← get).failingReads then
    throw (.persistence (.readRejected kind id))

/-- Counts a write to a record, and rejects it if it is to be rejected. -/
def checkWrite (kind : EntityKind) (id : UInt32) : StoreM MemoryStore Unit := do
  modify fun s => { s with writes := s.writes + 1 }
  if (kind, id) ∈ (← get).failingWrites then
    throw (.persistence (.writeRejected kind id))

/-- Reads the record under an id. -/
def readRecord {α : Type} (kind : EntityKind) (table : MemoryStore → Table α) (id : UInt32) :
    StoreM MemoryStore α := do
  checkRead kind id
  match (table (← get)).get? id with
  | some a => return a
  | none => throw (.notFound kind id)

/-- Writes over the record under an id, which has to be there. -/
def replaceRecord {α : Type} (kind : EntityKind) (table : MemoryStore → Table α) (id : UInt32)
    (put : MemoryStore → MemoryStore) : StoreM MemoryStore Unit := do
  checkWrite kind id
  if (table (← get)).contains id then modify put else throw (.notFound kind id)

/-- Adds a record under the next free id, which counts as one write. -/
def addRecord {α : Type} (table : MemoryStore → Table α) (make : UInt32 → α)
    (put : MemoryStore → α → MemoryStore) : StoreM MemoryStore α := do
  modify fun s => { s with writes := s.writes + 1 }
  let id ← liftExcept (nextId (table (← get)).lastId?)
  modify (put · (make id))
  return make id
where
  /-- An outcome that does not depend on the store. -/
  liftExcept {β : Type} (r : Except RegistryError β) : StoreM MemoryStore β :=
    match r with
    | .ok b => return b
    | .error e => throw e

instance : RelationStore MemoryStore where
  environment := readRecord .environment (·.environments)
  updateEnvironment e := replaceRecord .environment (·.environments) e.id (·.insertEnvironment e)
  tag := readRecord .tag (·.tags)
  updateTag t := replaceRecord .tag (·.tags) t.id (·.insertTag t)
  edgeGroup := readRecord .edgeGroup (·.edgeGroups)
  edgeGroups := do
    modify fun s => { s with reads := s.reads + 1 }
    let s ← get
    if s.failingScan then throw (.persistence .scanRejected)
    return s.edgeGroups.values
  updateEdgeGroup g := replaceRecord .edgeGroup (·.edgeGroups) g.id (·.insertEdgeGroup g)
  createTag name := addRecord (·.tags) (fun id => { id, name }) insertTag
  createEdgeGroup name := addRecord (·.edgeGroups) (fun id => { id, name }) insertEdgeGroup

end MemoryStore

end EnvRegistry

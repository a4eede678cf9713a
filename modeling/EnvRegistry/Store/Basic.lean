import EnvRegistry.Error

/-! # Stores of records

    `RelationStore σ` is what the rest of the registry asks of a store whose state
    is `σ`.  An operation that fails leaves in the state what it had done before. -/

namespace EnvRegistry

/-- An operation on a store: it may fail, and it keeps what it wrote before failing. -/
abbrev StoreM (σ : Type) := ExceptT RegistryError (StateM σ)

/-- The operations of a store. -/
class RelationStore (σ : Type) where
  environment : EnvironmentId → StoreM σ Environment
  updateEnvironment : Environment → StoreM σ Unit
  tag : TagId → StoreM σ Tag
  updateTag : Tag → StoreM σ Unit
  edgeGroup : EdgeGroupId → StoreM σ EdgeGroup
  /-- All edge groups, ascending by id. -/
  edgeGroups : StoreM σ (List EdgeGroup)
  updateEdgeGroup : EdgeGroup → StoreM σ Unit
  /-- Adds a tag under the next free id. -/
  createTag : String → StoreM σ Tag
  /-- Adds an edge group under the next free id. -/
  createEdgeGroup : String → StoreM σ EdgeGroup

namespace RelationStore

variable {σ : Type} [RelationStore σ]

/-- Reads a tag, changes it and writes it back under the id it then has. -/
def mutateTag (id : TagId) (f : Tag → Tag) : StoreM σ Unit := do
  let tag ← RelationStore.tag id
  RelationStore.updateTag (f tag)

/-- Reads an edge group, changes it and writes it back under the id it then has. -/
def mutateEdgeGroup (id : EdgeGroupId) (f : EdgeGroup → EdgeGroup) : StoreM σ Unit := do
  let group ← RelationStore.edgeGroup id
  RelationStore.updateEdgeGroup (f group)

end RelationStore

/-- The id after the last one taken. -/
def nextId (last : Option UInt32) : Except RegistryError UInt32 :=
  let n := (last.getD 0).toNat + 1
  if n < UInt32.size then .ok (UInt32.ofNat n) else .error (.persistence .idsExhausted)

end EnvRegistry

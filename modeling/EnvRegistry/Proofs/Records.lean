import EnvRegistry.Proofs.Relations.Apply
import EnvRegistry.Proofs.Store.Views

/-! # What a store means

    `Records` are three tables of records, each under its own id.  A store
    holds records (`MemoryStore.Holds`, `Database.Holds`) if all of them can be
    read and none of them is rejected, and what an update does to such a store
    is a function on records (`Records.updated`). -/

namespace EnvRegistry

open Relations

/-! ## Section 1: Model -/

/-- Tables of records, each under its own id. -/
structure Records where
  environments : Table Environment := .empty
  tags : Table Tag := .empty
  edgeGroups : Table EdgeGroup := .empty
  environmentsKeyed : environments.Keyed Environment.id := by exact Table.keyed_empty _
  tagsKeyed : tags.Keyed Tag.id := by exact Table.keyed_empty _
  edgeGroupsKeyed : edgeGroups.Keyed EdgeGroup.id := by exact Table.keyed_empty _

namespace Records

/-- The shelf with the records. -/
def shelf (R : Records) : Shelf where
  environments := R.environments.map .ok
  tags := R.tags.map .ok
  edgeGroups := R.edgeGroups.map .ok

/-- The edge groups that an environment is in. -/
def memberships (R : Records) (id : EnvironmentId) : KeySet EdgeGroupId :=
  Relations.memberships R.edgeGroups.values id

/-- The records with an environment under its id. -/
def putEnvironment (R : Records) (e : Environment) : Records :=
  { R with
    environments := R.environments.insert e.id e
    environmentsKeyed := R.environmentsKeyed.insert e }

/-- The records with a tag under its id. -/
def putTag (R : Records) (t : Tag) : Records :=
  { R with tags := R.tags.insert t.id t, tagsKeyed := R.tagsKeyed.insert t }

/-- The records with an edge group under its id. -/
def putEdgeGroup (R : Records) (g : EdgeGroup) : Records :=
  { R with
    edgeGroups := R.edgeGroups.insert g.id g
    edgeGroupsKeyed := R.edgeGroupsKeyed.insert g }

/-- The records after an environment changed its tags and its edge groups. -/
def related (R : Records) (id : EnvironmentId) (tags : Delta TagId)
    (edgeGroups : Delta EdgeGroupId) :
    Records :=
  { R with
    tags := R.tags.map (tags.onTag id)
    tagsKeyed := R.tagsKeyed.map (tags.onTag_id id)
    edgeGroups := R.edgeGroups.map (edgeGroups.onEdgeGroup id)
    edgeGroupsKeyed := R.edgeGroupsKeyed.map (edgeGroups.onEdgeGroup_id id) }

/-- The records after an update that changed something. -/
def updated (R : Records) (u : Update) (e : Environment) : Records :=
  (R.related e.id (u.tagDelta e) (u.edgeGroupDelta (R.memberships e.id))).putEnvironment
    (u.applyTo e)

end Records

/-- The records of a store. -/
def MemoryStore.records (s : MemoryStore) : Records where
  environments := s.environments
  tags := s.tags
  edgeGroups := s.edgeGroups
  environmentsKeyed := s.environmentsKeyed
  tagsKeyed := s.tagsKeyed
  edgeGroupsKeyed := s.edgeGroupsKeyed

/-- The store holds the records, and rejects nothing. -/
def MemoryStore.Holds (s : MemoryStore) (R : Records) : Prop := s.shelf = R.shelf

/-- The texts of the database stand for the records. -/
def Database.Holds (db : Database) (R : Records) : Prop := db.shelf = R.shelf

/-! ## Section 2: The shelf with the records -/

namespace Records

variable {R : Records}

theorem own_shelf (R : Records) : R.shelf.Own where
  environments := Rack.own_of_keyed R.environmentsKeyed rfl
  tags := Rack.own_of_keyed R.tagsKeyed rfl
  edgeGroups := Rack.own_of_keyed R.edgeGroupsKeyed rfl

theorem scan_shelf (R : Records) : R.shelf.scan = .ok R.edgeGroups.values :=
  Shelf.scan_ok.mpr ⟨rfl, Table.values_map _ _⟩

theorem memberships_shelf (R : Records) (id : EnvironmentId) :
    R.shelf.memberships id = R.memberships id := by
  rw [Shelf.memberships, Shelf.groups_of_scan R.scan_shelf, memberships]

/-- On a shelf with records a record is found or is not there. -/
theorem look_eq {α : Type} {k : Rack α} {t : Table α} (ht : k.get R.shelf = t.map .ok)
    (id : UInt32) :
    k.look R.shelf id = match t.get? id with
      | some a => .ok a
      | none => .error (.notFound k.kind id) := by
  have hreads : (k.kind, id) ∉ R.shelf.failingReads := List.not_mem_nil
  rw [Rack.look, if_neg hreads, ht, Table.get?_map]
  cases t.get? id with
  | none => rfl
  | some a => rfl

theorem look_ok {α : Type} {k : Rack α} {t : Table α} (ht : k.get R.shelf = t.map .ok) {id : UInt32}
    {a : α} : k.look R.shelf id = .ok a ↔ t.get? id = some a := by
  rw [look_eq ht]
  cases t.get? id with
  | none => simp
  | some b => simp

theorem look_error {α : Type} {k : Rack α} {t : Table α} (ht : k.get R.shelf = t.map .ok)
    {id : UInt32} {err : RegistryError} (h : k.look R.shelf id = .error err) :
    t.get? id = none ∧ err = .notFound k.kind id := by
  rw [look_eq ht] at h
  cases hget : t.get? id with
  | none =>
    rw [hget] at h
    cases h
    exact ⟨rfl, rfl⟩
  | some b =>
    rw [hget] at h
    cases h

theorem open_iff {α : Type} {k : Rack α} {t : Table α} (ht : k.get R.shelf = t.map .ok)
    {id : UInt32} : k.Open R.shelf id ↔ t.get? id ≠ none := by
  have hwrites : (k.kind, id) ∉ R.shelf.failingWrites := List.not_mem_nil
  unfold Rack.Open
  rw [look_eq ht]
  cases t.get? id with
  | none => simp
  | some a => simp [hwrites]

theorem shelf_putEnvironment (R : Records) (e : Environment) :
    (R.putEnvironment e).shelf = Rack.environments.put e R.shelf := by
  unfold putEnvironment shelf
  rw [Table.map_insert]
  rfl

theorem shelf_putTag (R : Records) (t : Tag) :
    (R.putTag t).shelf = Rack.tags.put t R.shelf := by
  unfold putTag shelf
  rw [Table.map_insert]
  rfl

theorem shelf_putEdgeGroup (R : Records) (g : EdgeGroup) :
    (R.putEdgeGroup g).shelf = Rack.edgeGroups.put g R.shelf := by
  unfold putEdgeGroup shelf
  rw [Table.map_insert]
  rfl

theorem shelf_related (R : Records) (id : EnvironmentId) (tags : Delta TagId)
    (edgeGroups : Delta EdgeGroupId) :
    (R.related id tags edgeGroups).shelf = R.shelf.related id tags edgeGroups := by
  have htags : ∀ f : Tag → Tag,
      ((R.tags.map f).map .ok : Table (Cell Tag)) = (R.tags.map .ok).map (Except.map f) := by
    intro f
    rw [Table.map_map, Table.map_map]
    rfl
  have hgroups : ∀ f : EdgeGroup → EdgeGroup, ((R.edgeGroups.map f).map .ok :
      Table (Cell EdgeGroup)) = (R.edgeGroups.map .ok).map (Except.map f) := by
    intro f
    rw [Table.map_map, Table.map_map]
    rfl
  unfold related shelf
  rw [htags, hgroups]
  rfl

/-! ## Section 3: Edge groups of an environment -/

theorem mem_memberships {id : EnvironmentId} {g : EdgeGroupId} :
    g ∈ R.memberships id ↔ ∃ group, R.edgeGroups.get? g = some group ∧ id ∈ group.members := by
  unfold memberships Relations.memberships
  rw [KeySet.mem_ofList, List.mem_map]
  constructor
  · rintro ⟨group, hgroup, rfl⟩
    obtain ⟨hvalue, hmember⟩ := List.mem_filter.mp hgroup
    exact ⟨group, R.edgeGroupsKeyed.mem_values.mp hvalue, List.contains_iff_mem.mp hmember⟩
  · rintro ⟨group, hgroup, hmember⟩
    refine ⟨group, List.mem_filter.mpr ⟨?_, List.contains_iff_mem.mpr hmember⟩, ?_⟩
    · exact Table.mem_values.mpr ⟨g, hgroup⟩
    · exact R.edgeGroupsKeyed g group hgroup

end Records

/-! ## Section 4: Writing records -/

namespace Database

variable {db : Database} {R : Records}

theorem holds_empty : ({} : Database).Holds {} := rfl

theorem Holds.putEnvironment (h : db.Holds R) (e : Environment) :
    (db.putEnvironment e).Holds (R.putEnvironment e) := by
  unfold Holds
  rw [shelf_putEnvironment, Records.shelf_putEnvironment, h]

theorem Holds.putTag (h : db.Holds R) (t : Tag) : (db.putTag t).Holds (R.putTag t) := by
  unfold Holds
  rw [shelf_putTag, Records.shelf_putTag, h]

theorem Holds.putEdgeGroup (h : db.Holds R) (g : EdgeGroup) :
    (db.putEdgeGroup g).Holds (R.putEdgeGroup g) := by
  unfold Holds
  rw [shelf_putEdgeGroup, Records.shelf_putEdgeGroup, h]

theorem Holds.environment (h : db.Holds R) {id : EnvironmentId} {e : Environment} :
    db.environment id = .ok e ↔ R.environments.get? id = some e := by
  rw [environment_eq, h]
  exact Records.look_ok rfl

theorem Holds.tag (h : db.Holds R) {id : TagId} {t : Tag} :
    db.tag id = .ok t ↔ R.tags.get? id = some t := by
  rw [tag_eq, h]
  exact Records.look_ok rfl

theorem Holds.edgeGroup (h : db.Holds R) {id : EdgeGroupId} {g : EdgeGroup} :
    db.edgeGroup id = .ok g ↔ R.edgeGroups.get? id = some g := by
  rw [edgeGroup_eq, h]
  exact Records.look_ok rfl

/-- A database that holds records holds them under their own ids. -/
theorem Holds.own (h : db.Holds R) : db.Own where
  environments id e he := R.environmentsKeyed id e (h.environment.mp he)
  tags id t ht := R.tagsKeyed id t (h.tag.mp ht)
  edgeGroups id g hg := R.edgeGroupsKeyed id g (h.edgeGroup.mp hg)

end Database

end EnvRegistry

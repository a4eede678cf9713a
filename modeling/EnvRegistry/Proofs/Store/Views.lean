import EnvRegistry.Database
import EnvRegistry.Proofs.Record.RoundTrip
import EnvRegistry.Proofs.Store.Shelf
import EnvRegistry.Proofs.Store.Simulation
import EnvRegistry.Store.Memory

/-! # The two stores as shelves

    `MemoryStore.shelf` forgets the counts and `Database.shelf` decodes every
    text.  Both maps commute with every operation of the stores. -/

namespace EnvRegistry

/-! ## Section 1: The store in memory -/

namespace MemoryStore

/-- The records of the store and what it rejects. -/
def shelf (s : MemoryStore) : Shelf where
  environments := s.environments.map .ok
  tags := s.tags.map .ok
  edgeGroups := s.edgeGroups.map .ok
  failingReads := s.failingReads
  failingWrites := s.failingWrites
  failingScan := s.failingScan

/-- The store with one more read counted. -/
def countRead (s : MemoryStore) : MemoryStore := { s with reads := s.reads + 1 }

/-- The store with one more write counted. -/
def countWrite (s : MemoryStore) : MemoryStore := { s with writes := s.writes + 1 }

@[simp] theorem shelf_countRead (s : MemoryStore) : s.countRead.shelf = s.shelf := rfl

@[simp] theorem shelf_countWrite (s : MemoryStore) : s.countWrite.shelf = s.shelf := rfl

section Records

variable {α : Type}

theorem readRecord_apply (kind : EntityKind) (table : MemoryStore → Table α) (id : UInt32)
    (s : MemoryStore) :
    readRecord kind table id s = (if (kind, id) ∈ s.failingReads then
        .error (.persistence (.readRejected kind id))
      else match (table s.countRead).get? id with
        | some a => .ok a
        | none => .error (.notFound kind id), s.countRead) := by
  have hcheck : checkRead kind id s = ((if (kind, id) ∈ s.failingReads then throw _ else pure () :
    StoreM MemoryStore Unit) s.countRead) := rfl
  by_cases hread : (kind, id) ∈ s.failingReads
  · rw [if_pos hread, StoreM.throw_apply] at hcheck
    rw [readRecord, StoreM.bind_error hcheck, if_pos hread]
  · rw [if_neg hread, StoreM.pure_apply] at hcheck
    rw [readRecord, StoreM.bind_ok hcheck, StoreM.bind_ok (StoreM.get_apply _), if_neg hread]
    cases (table s.countRead).get? id with
    | none => rfl
    | some a => rfl

theorem replaceRecord_apply (kind : EntityKind) (table : MemoryStore → Table α) (id : UInt32)
    (put : MemoryStore → MemoryStore) (s : MemoryStore) :
    replaceRecord kind table id put s = if (kind, id) ∈ s.failingWrites then
        (.error (.persistence (.writeRejected kind id)), s.countWrite)
      else if (table s.countWrite).contains id then (.ok (), put s.countWrite)
      else (.error (.notFound kind id), s.countWrite) := by
  have hcheck : checkWrite kind id s = ((if (kind, id) ∈ s.failingWrites then throw _ else pure () :
    StoreM MemoryStore Unit) s.countWrite) := rfl
  by_cases hwrite : (kind, id) ∈ s.failingWrites
  · rw [if_pos hwrite, StoreM.throw_apply] at hcheck
    rw [replaceRecord, StoreM.bind_error hcheck, if_pos hwrite]
  · rw [if_neg hwrite, StoreM.pure_apply] at hcheck
    rw [replaceRecord, StoreM.bind_ok hcheck, StoreM.bind_ok (StoreM.get_apply _), if_neg hwrite]
    split
    · rfl
    · rfl

theorem addRecord_apply (table : MemoryStore → Table α) (make : UInt32 → α)
    (put : MemoryStore → α → MemoryStore) (s : MemoryStore) :
    addRecord table make put s = match nextId (table s.countWrite).lastId? with
      | .ok id => (.ok (make id), put s.countWrite (make id))
      | .error e => (.error e, s.countWrite) := by
  have hcount : (modify fun s => { s with writes := s.writes + 1 } : StoreM MemoryStore PUnit) s =
    (.ok ⟨⟩, s.countWrite) := rfl
  rw [addRecord, StoreM.bind_ok hcount, StoreM.bind_ok (StoreM.get_apply _)]
  cases nextId (table s.countWrite).lastId? with
  | ok id => rfl
  | error e => rfl

variable {k : Rack α} {table : MemoryStore → Table α}
  (htable : ∀ s, k.get s.shelf = (table s).map .ok)

include htable

theorem commutes_read (id : UInt32) :
    Commutes shelf (readRecord k.kind table id) (k.read id) := by
  intro s
  have hget : (k.get s.shelf).get? id = ((table s.countRead).get? id).map .ok := by
    rw [← shelf_countRead, htable, Table.get?_map]
  have hreads : s.shelf.failingReads = s.failingReads := rfl
  rw [readRecord_apply, Rack.read, Rack.look, hget, hreads, shelf_countRead]
  cases (table s.countRead).get? id with
  | none => rfl
  | some a => rfl

theorem commutes_replace {a : α} {put : MemoryStore → MemoryStore}
    (hput : ∀ s, (put s).shelf = k.put a s.shelf) :
    Commutes shelf (replaceRecord k.kind table (k.key a) put) (k.replace a) := by
  intro s
  have hcontains : (k.get s.shelf).contains (k.key a) =
      (table s.countWrite).contains (k.key a) := by
    rw [← shelf_countWrite, htable, Table.contains_map]
  have hwrites : s.shelf.failingWrites = s.failingWrites := rfl
  rw [replaceRecord_apply, Rack.replace, hcontains, hwrites]
  split
  · rfl
  · split
    · rw [hput, shelf_countWrite]
    · rfl

theorem commutes_add {make : UInt32 → α} {put : MemoryStore → α → MemoryStore}
    (hput : ∀ s a, (put s a).shelf = k.put a s.shelf) :
    Commutes shelf (addRecord table make put) (k.add make) := by
  intro s
  have hlast : (k.get s.shelf).lastId? = (table s.countWrite).lastId? := by
    rw [← shelf_countWrite, htable, Table.lastId?_map]
  rw [addRecord_apply, Rack.add, hlast]
  cases nextId (table s.countWrite).lastId? with
  | ok id => exact congrArg (Prod.mk _) (hput s.countWrite (make id)).symm
  | error e => rfl

end Records

theorem shelf_insertEnvironment (s : MemoryStore) (e : Environment) :
    (s.insertEnvironment e).shelf = Rack.environments.put e s.shelf := by
  show { s.shelf with environments := (s.environments.insert e.id e).map .ok } = _
  rw [Table.map_insert]
  rfl

theorem shelf_insertTag (s : MemoryStore) (t : Tag) :
    (s.insertTag t).shelf = Rack.tags.put t s.shelf := by
  show { s.shelf with tags := (s.tags.insert t.id t).map .ok } = _
  rw [Table.map_insert]
  rfl

theorem shelf_insertEdgeGroup (s : MemoryStore) (g : EdgeGroup) :
    (s.insertEdgeGroup g).shelf = Rack.edgeGroups.put g s.shelf := by
  show { s.shelf with edgeGroups := (s.edgeGroups.insert g.id g).map .ok } = _
  rw [Table.map_insert]
  rfl

theorem commutes_edgeGroups :
    Commutes shelf RelationStore.edgeGroups (RelationStore.edgeGroups : StoreM Shelf _) := by
  intro s
  have hvalues : s.shelf.edgeGroups.values.mapM id = .ok s.edgeGroups.values :=
    mapM_cells.mpr (Table.values_map _ _)
  show (s.shelf.scan, s.shelf) = _
  rw [Shelf.scan, hvalues]
  obtain ⟨_, _, _, _, _, failingScan, _, _, _, _, _⟩ := s
  cases failingScan with
  | true => rfl
  | false => rfl

/-- Forgetting the counts commutes with every operation. -/
theorem storeMap : StoreMap shelf where
  environment := commutes_read (k := .environments) fun _ => rfl
  updateEnvironment e := commutes_replace (k := .environments) (fun _ => rfl)
    (shelf_insertEnvironment · e)
  tag := commutes_read (k := .tags) fun _ => rfl
  updateTag t := commutes_replace (k := .tags) (fun _ => rfl) (shelf_insertTag · t)
  edgeGroup := commutes_read (k := .edgeGroups) fun _ => rfl
  edgeGroups := commutes_edgeGroups
  updateEdgeGroup g := commutes_replace (k := .edgeGroups) (fun _ => rfl)
    (shelf_insertEdgeGroup · g)
  createTag _ := commutes_add (k := .tags) (fun _ => rfl) shelf_insertTag
  createEdgeGroup _ := commutes_add (k := .edgeGroups) (fun _ => rfl) shelf_insertEdgeGroup

theorem own_shelf (s : MemoryStore) : s.shelf.Own where
  environments := Rack.own_of_keyed s.environmentsKeyed rfl
  tags := Rack.own_of_keyed s.tagsKeyed rfl
  edgeGroups := Rack.own_of_keyed s.edgeGroupsKeyed rfl

theorem groups_shelf (s : MemoryStore) : s.shelf.groups = s.edgeGroups.values := by
  show (s.edgeGroups.map .ok).values.filterMap Except.toOption = _
  rw [Table.values_map, List.filterMap_map]
  exact List.filterMap_some

theorem memberships_shelf (s : MemoryStore) (id : EnvironmentId) :
    s.shelf.memberships id = Relations.memberships s.edgeGroups.values id := by
  rw [Shelf.memberships, groups_shelf]

end MemoryStore

/-! ## Section 2: The database -/

namespace Database

/-- What a text stands for. -/
def cell {α : Type} (d : Json.Decoder α) (text : String) : Cell α :=
  (Json.decodeText d text).mapError .undecodable

/-- The records of the database.  Nothing is rejected. -/
def shelf (db : Database) : Shelf where
  environments := db.environments.map (cell (Environment.decoder .text))
  tags := db.tags.map (cell (Tag.decoder .text))
  edgeGroups := db.edgeGroups.map (cell (EdgeGroup.decoder .text))

section Records

variable {α : Type} {k : Rack α} {d : Json.Decoder α} {table : Database → Table String}

theorem decodeRecord_eq (text : String) :
    decodeRecord d text = (cell d text).mapError .persistence := by
  unfold decodeRecord cell
  cases Json.decodeText d text with
  | error e => rfl
  | ok a => rfl

theorem mapM_decodeRecord (texts : List String) :
    texts.mapM (decodeRecord d) = ((texts.map (cell d)).mapM id).mapError .persistence := by
  induction texts with
  | nil => rfl
  | cons text texts ih =>
    rw [List.map_cons, List.mapM_cons, List.mapM_cons, decodeRecord_eq, ih]
    cases cell d text with
    | error fault => rfl
    | ok a =>
      show _ = Except.mapError _ ((texts.map (cell d)).mapM id >>= fun l => pure (a :: l))
      cases (texts.map (cell d)).mapM id with
      | error fault => rfl
      | ok l => rfl

variable (htable : ∀ db, k.get (shelf db) = (table db).map (cell d))

include htable

theorem look_shelf (db : Database) (id : UInt32) :
    k.look db.shelf id = readRecord k.kind d (table db) id := by
  have hreads : (k.kind, id) ∉ db.shelf.failingReads := List.not_mem_nil
  rw [Rack.look, if_neg hreads, htable, Table.get?_map, readRecord]
  cases (table db).get? id with
  | none => rfl
  | some text => exact (decodeRecord_eq text).symm

theorem commutes_query (id : UInt32) :
    Commutes shelf (query fun db => readRecord k.kind d (table db) id) (k.read id) := by
  intro db
  rw [Rack.read, look_shelf htable]
  rfl

theorem commutes_replace {a : α} {put : Database → Database}
    (hput : ∀ db, (put db).shelf = k.put a db.shelf) :
    Commutes shelf (replaceRecord k.kind table (k.key a) put) (k.replace a) := by
  intro db
  have hwrites : (k.kind, k.key a) ∉ db.shelf.failingWrites := List.not_mem_nil
  rw [replaceRecord, StoreM.bind_ok (StoreM.get_apply db), Rack.replace, if_neg hwrites, htable,
    Table.contains_map]
  split
  · exact congrArg (Prod.mk _) (hput db).symm
  · rfl

theorem commutes_add {make : UInt32 → α} {put : Database → α → Database}
    (hput : ∀ db a, (put db a).shelf = k.put a db.shelf) :
    Commutes shelf (addRecord table make put) (k.add make) := by
  intro db
  have hlast : (k.get db.shelf).lastId? = (table db).lastId? := by
    rw [htable, Table.lastId?_map]
  have hquery : (query fun db => nextId (table db).lastId? : StoreM Database UInt32) db =
    (nextId (table db).lastId?, db) := rfl
  rw [Rack.add, hlast]
  cases hid : nextId (table db).lastId? with
  | error e =>
    rw [hid] at hquery
    rw [addRecord, StoreM.bind_error hquery]
  | ok id =>
    rw [hid] at hquery
    rw [addRecord, StoreM.bind_ok hquery]
    exact congrArg (Prod.mk _) (hput db (make id)).symm

end Records

theorem shelf_putEnvironment (db : Database) (e : Environment) :
    (db.putEnvironment e).shelf = Rack.environments.put e db.shelf := by
  have hcell : cell (Environment.decoder .text) e.toJson.compact = .ok e := by
    rw [cell, Environment.decodeText_toJson]
    rfl
  unfold putEnvironment shelf
  rw [Table.map_insert, hcell]
  rfl

theorem shelf_putTag (db : Database) (t : Tag) :
    (db.putTag t).shelf = Rack.tags.put t db.shelf := by
  have hcell : cell (Tag.decoder .text) t.toJson.compact = .ok t := by
    rw [cell, Tag.decodeText_toJson]
    rfl
  unfold putTag shelf
  rw [Table.map_insert, hcell]
  rfl

theorem shelf_putEdgeGroup (db : Database) (g : EdgeGroup) :
    (db.putEdgeGroup g).shelf = Rack.edgeGroups.put g db.shelf := by
  have hcell : cell (EdgeGroup.decoder .text) g.toJson.compact = .ok g := by
    rw [cell, EdgeGroup.decodeText_toJson]
    rfl
  unfold putEdgeGroup shelf
  rw [Table.map_insert, hcell]
  rfl

theorem scan_shelf (db : Database) : db.shelf.scan = db.allEdgeGroups := by
  show (db.shelf.edgeGroups.values.mapM id).mapError _ = db.edgeGroups.values.mapM _
  rw [mapM_decodeRecord, shelf, Table.values_map]

/-- Decoding every text commutes with every operation. -/
theorem storeMap : StoreMap shelf where
  environment := commutes_query (k := .environments) fun _ => rfl
  updateEnvironment e := commutes_replace (k := .environments) (fun _ => rfl)
    (shelf_putEnvironment · e)
  tag := commutes_query (k := .tags) fun _ => rfl
  updateTag t := commutes_replace (k := .tags) (fun _ => rfl) (shelf_putTag · t)
  edgeGroup := commutes_query (k := .edgeGroups) fun _ => rfl
  edgeGroups := fun db => congrArg (Prod.mk · db.shelf) (scan_shelf db)
  updateEdgeGroup g := commutes_replace (k := .edgeGroups) (fun _ => rfl) (shelf_putEdgeGroup · g)
  createTag _ := commutes_add (k := .tags) (fun _ => rfl) shelf_putTag
  createEdgeGroup _ := commutes_add (k := .edgeGroups) (fun _ => rfl) shelf_putEdgeGroup

/-! ## Section 3: What a database answers -/

/-- Every record that decodes lies under its own id. -/
structure Own (db : Database) : Prop where
  environments : ∀ id e, db.environment id = .ok e → e.id = id
  tags : ∀ id t, db.tag id = .ok t → t.id = id
  edgeGroups : ∀ id g, db.edgeGroup id = .ok g → g.id = id

theorem environment_eq (db : Database) (id : EnvironmentId) :
    db.environment id = Rack.environments.look db.shelf id :=
  (look_shelf (k := .environments) (fun _ => rfl) db id).symm

theorem tag_eq (db : Database) (id : TagId) : db.tag id = Rack.tags.look db.shelf id :=
  (look_shelf (k := .tags) (fun _ => rfl) db id).symm

theorem edgeGroup_eq (db : Database) (id : EdgeGroupId) :
    db.edgeGroup id = Rack.edgeGroups.look db.shelf id :=
  (look_shelf (k := .edgeGroups) (fun _ => rfl) db id).symm

theorem Own.shelf {db : Database} (h : db.Own) : db.shelf.Own where
  environments id e he := by
    refine h.environments id e ?_
    rw [environment_eq]
    exact Rack.look_ok.mpr ⟨List.not_mem_nil, he⟩
  tags id t ht := by
    refine h.tags id t ?_
    rw [tag_eq]
    exact Rack.look_ok.mpr ⟨List.not_mem_nil, ht⟩
  edgeGroups id g hg := by
    refine h.edgeGroups id g ?_
    rw [edgeGroup_eq]
    exact Rack.look_ok.mpr ⟨List.not_mem_nil, hg⟩

end Database

end EnvRegistry

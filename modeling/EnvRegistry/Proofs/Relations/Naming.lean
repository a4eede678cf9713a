import EnvRegistry.Proofs.Database.Ids

/-! # Records that a request names

    A request may name tags and edge groups that are yet to be created.  Either
    store creates the tags first and then the edge groups, each under the id
    after the last one, until all of them are there or the ids are used up
    (`createNamed_creates`).

    A table has room for as many records as there are ids after its last one,
    and what is added to it are the first names for which there is room.  This
    is said of one loop in `Single.loop`, by induction on the names: a table
    that gains one record has room for one less.  A loop over tags leaves the
    edge groups alone, so the second loop starts with the room that there was. -/

namespace EnvRegistry

/-! ## Section 1: Model -/

/-- How many ids there are after the last one. -/
def Table.room {α : Type} (t : Table α) : Nat := 4294967295 - (t.lastId?.getD 0).toNat

namespace Relations

/-- The table `t'` is `t` with a record for every name at its end, under the ids that follow. -/
structure Appends {α : Type} (make : UInt32 → String → α) (names : List String) (ids : List UInt32)
    (t t' : Table α) : Prop where
  follow : ids.map UInt32.toNat = List.range' ((t.lastId?.getD 0).toNat + 1) names.length
  entries : t'.entries = t.entries ++ List.zipWith (fun id name => (id, make id name)) ids names

/-- How a store keeps tags and edge groups, and what else it keeps. -/
structure Keeping (σ β γ δ : Type) where
  tags : σ → Table β
  edgeGroups : σ → Table γ
  others : σ → δ
  /-- What is kept of a tag. -/
  ofTag : Tag → β
  /-- What is kept of an edge group. -/
  ofEdgeGroup : EdgeGroup → γ

namespace Keeping

variable {σ β γ δ : Type} (k : Keeping σ β γ δ)

/-- What is kept of a tag without members. -/
def newTag (id : TagId) (name : String) : β := k.ofTag { id, name, members := .empty }

/-- What is kept of an edge group without members. -/
def newEdgeGroup (id : EdgeGroupId) (name : String) : γ :=
  k.ofEdgeGroup { id, name, members := [] }

/-- What creating the records that a request names comes to: `result` and the store `s'`. -/
structure Creates (request : Request) (s : σ) (result : Except RegistryError Request) (s' : σ) :
    Prop where
  ok_iff : (∃ resolved, result = .ok resolved) ↔
    request.createTags.length ≤ (k.tags s).room ∧
      request.createEdgeGroups.length ≤ (k.edgeGroups s).room
  /-- All records are created, and their ids stand in the request in place of the names. -/
  ok : ∀ resolved, result = .ok resolved → ∃ tagIds groupIds,
    Appends k.newTag request.createTags tagIds (k.tags s) (k.tags s') ∧
    Appends k.newEdgeGroup request.createEdgeGroups groupIds (k.edgeGroups s) (k.edgeGroups s') ∧
    resolved = { request with
      tags := request.tags ++ tagIds
      edgeGroups := request.edgeGroups ++ groupIds
      createTags := []
      createEdgeGroups := [] }
  error : ∀ err, result = .error err → err = .persistence .idsExhausted
  /-- There is no room for all tags. -/
  tagsFull : (k.tags s).room < request.createTags.length →
    (∃ ids, Appends k.newTag (request.createTags.take (k.tags s).room) ids (k.tags s) (k.tags s')) ∧
    k.edgeGroups s' = k.edgeGroups s
  /-- There is room for all tags, but not for all edge groups. -/
  edgeGroupsFull : request.createTags.length ≤ (k.tags s).room →
    (k.edgeGroups s).room < request.createEdgeGroups.length →
    (∃ ids, Appends k.newTag request.createTags ids (k.tags s) (k.tags s')) ∧
    ∃ ids, Appends k.newEdgeGroup (request.createEdgeGroups.take (k.edgeGroups s).room) ids
      (k.edgeGroups s) (k.edgeGroups s')
  others : k.others s' = k.others s

end Keeping

end Relations

/-- A store in memory keeps the records themselves, beside the environments, what it rejects and the
number of reads. -/
def MemoryStore.keeping : Relations.Keeping MemoryStore Tag EdgeGroup
    (Table Environment × List (EntityKind × UInt32) × List (EntityKind × UInt32) × Bool × Nat) where
  tags := MemoryStore.tags
  edgeGroups := MemoryStore.edgeGroups
  others s := (s.environments, s.failingReads, s.failingWrites, s.failingScan, s.reads)
  ofTag t := t
  ofEdgeGroup g := g

/-- A database keeps texts. -/
def Database.keeping : Relations.Keeping Database String String (Table String) where
  tags := Database.tags
  edgeGroups := Database.edgeGroups
  others := Database.environments
  ofTag t := t.toJson.compact
  ofEdgeGroup g := g.toJson.compact

namespace Relations

/-- A record is created under the next id if there is one, and nothing else changes. -/
structure Single {σ α β δ : Type} (create : String → StoreM σ α) (make : UInt32 → String → α)
    (keep : α → β) (table : σ → Table β) (others : σ → δ) : Prop where
  added : ∀ name s id, nextId (table s).lastId? = .ok id → ∃ s',
    create name s = (.ok (make id name), s') ∧
      table s' = (table s).insert id (keep (make id name)) ∧ others s' = others s
  full : ∀ name s err, nextId (table s).lastId? = .error err → ∃ s',
    create name s = (.error err, s') ∧ table s' = table s ∧ others s' = others s

/-! ## Section 2: Room -/

section Room

variable {α : Type} {t t' : Table α} {make : UInt32 → String → α} {names : List String}
  {ids : List UInt32}

theorem room_of_error {err : RegistryError} (h : nextId t.lastId? = .error err) : t.room = 0 := by
  have hfull := (Table.nextId_eq_error.mp h).1
  rw [Table.room, hfull]

/-- A record takes up the room of one. -/
theorem room_insert {id : UInt32} (h : nextId t.lastId? = .ok id) (a : α) :
    t.room = (t.insert id a).room + 1 := by
  have hnext := Table.nextId_eq_ok.mp h
  have hlt := id.toNat_lt
  rw [Table.room, Table.room, Table.lastId?_insert_nextId h, Option.getD_some]
  omega

theorem Appends.nil (make : UInt32 → String → α) (t : Table α) : Appends make [] [] t t :=
  ⟨rfl, (List.append_nil _).symm⟩

/-- One record is added, and others after it. -/
theorem Appends.cons {id : UInt32} {name : String} (hid : nextId t.lastId? = .ok id)
    (h : Appends make names ids (t.insert id (make id name)) t') :
    Appends make (name :: names) (id :: ids) t t' where
  follow := by
    have hrest := h.follow
    rw [Table.lastId?_insert_nextId hid, Option.getD_some] at hrest
    rw [List.map_cons, hrest, List.length_cons, List.range'_succ, ← Table.nextId_eq_ok.mp hid]
  entries := by
    rw [h.entries, Table.entries_insert_nextId hid, List.append_assoc]
    rfl

end Room

/-! ## Section 3: One loop -/

section Loop

variable {σ α β δ : Type} {create : String → StoreM σ α} {make : UInt32 → String → α}
  {keep : α → β} {table : σ → Table β} {others : σ → δ}

/-- A loop that creates a record for every name stops when there is no more room. -/
theorem Single.loop (h : Single create make keep table others) (key : α → UInt32)
    (loop : List String → StoreM σ (List UInt32)) (hkey : ∀ id name, key (make id name) = id)
    (hnil : loop [] = pure []) (hcons : ∀ name rest, loop (name :: rest) =
      create name >>= fun a => loop rest >>= fun ids => pure (key a :: ids))
    (names : List String) (s : σ) : ∃ ids s',
      Appends (fun id name => keep (make id name)) (names.take (table s).room) ids (table s)
        (table s') ∧
      others s' = others s ∧
      loop names s = (if names.length ≤ (table s).room then .ok ids
        else .error (.persistence .idsExhausted), s') := by
  -- Each id depends on the record before it, so the induction goes through all stores.
  induction names generalizing s with
  | nil =>
    refine ⟨[], s, ?_, rfl, ?_⟩
    · rw [List.take_nil]
      exact .nil _ _
    · rw [hnil, List.length_nil, if_pos (Nat.zero_le _)]
      rfl
  | cons name rest ih =>
    cases hid : nextId (table s).lastId? with
    | error err =>
      obtain ⟨s', hrun, htable, hothers⟩ := h.full name s err hid
      have hroom := room_of_error hid
      refine ⟨[], s', ?_, hothers, ?_⟩
      · rw [hroom, htable]
        exact .nil _ _
      · obtain ⟨-, rfl⟩ := Table.nextId_eq_error.mp hid
        rw [hcons, StoreM.bind_error hrun, hroom, List.length_cons,
          if_neg (Nat.not_add_one_le_zero _)]
    | ok id =>
      obtain ⟨s₁, hrun, htable, hothers⟩ := h.added name s id hid
      obtain ⟨ids, s', happends, hothers', hrest⟩ := ih s₁
      have hroom := room_insert hid (keep (make id name))
      rw [← htable] at hroom
      refine ⟨id :: ids, s', ?_, hothers'.trans hothers, ?_⟩
      · rw [hroom, List.take_succ_cons]
        rw [htable] at happends ⊢
        exact happends.cons hid
      · -- There is room for the names if there is room for the others after the first.
        rw [hcons, StoreM.bind_ok hrun, hroom, List.length_cons]
        simp only [Nat.succ_le_succ_iff]
        by_cases hfits : rest.length ≤ (table s₁).room
        · rw [if_pos hfits] at hrest ⊢
          rw [StoreM.bind_ok hrest, hkey]
          rfl
        · rw [if_neg hfits] at hrest ⊢
          rw [StoreM.bind_error hrest]

end Loop

/-! ## Section 4: Both loops -/

section Both

variable {σ β γ δ : Type} [RelationStore σ] {k : Keeping σ β γ δ}

/-- The store keeps tags and edge groups in this way when it creates them. -/
structure Keeping.Lawful (k : Keeping σ β γ δ) : Prop where
  tag : Single RelationStore.createTag (fun id name => { id, name }) k.ofTag k.tags
    fun s => (k.edgeGroups s, k.others s)
  edgeGroup : Single RelationStore.createEdgeGroup (fun id name => { id, name }) k.ofEdgeGroup
    k.edgeGroups fun s => (k.tags s, k.others s)

theorem Keeping.Lawful.creates (h : k.Lawful) (request : Request) (s : σ) :
    k.Creates request s (createNamed request s).1 (createNamed request s).2 := by
  obtain ⟨tagIds, s₁, htags, hothers, hrun⟩ := h.tag.loop Tag.id createTags (fun _ _ => rfl)
    rfl (fun _ _ => rfl) request.createTags s
  obtain ⟨hgroups, hothers⟩ := Prod.mk.inj hothers
  -- The tags come first: if there is no room for them, no edge group is begun.
  by_cases hroom : request.createTags.length ≤ (k.tags s).room
  case neg =>
    rw [if_neg hroom] at hrun
    have hfails : createNamed request s = (.error (.persistence .idsExhausted), s₁) := by
      rw [createNamed, StoreM.bind_error hrun]
    rw [hfails]
    exact {
      ok_iff := iff_of_false nofun fun hfits => hroom hfits.1
      ok := nofun
      error := fun _ herr => (Except.error.inj herr).symm
      tagsFull := fun _ => ⟨⟨tagIds, htags⟩, hgroups⟩
      edgeGroupsFull := fun hfits => absurd hfits hroom
      others := hothers }
  case pos =>
    rw [if_pos hroom] at hrun
    rw [List.take_of_length_le hroom] at htags
    obtain ⟨groupIds, s₂, hedgeGroups, hothers', hrun'⟩ := h.edgeGroup.loop EdgeGroup.id
      createEdgeGroups (fun _ _ => rfl) rfl (fun _ _ => rfl) request.createEdgeGroups s₁
    obtain ⟨htags', hothers'⟩ := Prod.mk.inj hothers'
    -- The first loop has left the edge groups alone, and the second one leaves the tags alone.
    rw [hgroups] at hedgeGroups hrun'
    rw [← htags'] at htags
    by_cases hroom' : request.createEdgeGroups.length ≤ (k.edgeGroups s).room
    case neg =>
      rw [if_neg hroom'] at hrun'
      have hfails : createNamed request s = (.error (.persistence .idsExhausted), s₂) := by
        rw [createNamed, StoreM.bind_ok hrun, StoreM.bind_error hrun']
      rw [hfails]
      exact {
        ok_iff := iff_of_false nofun fun hfits => hroom' hfits.2
        ok := nofun
        error := fun _ herr => (Except.error.inj herr).symm
        tagsFull := fun hfull => absurd hroom (Nat.not_le_of_lt hfull)
        edgeGroupsFull := fun _ _ => ⟨⟨tagIds, htags⟩, ⟨groupIds, hedgeGroups⟩⟩
        others := hothers'.trans hothers }
    case pos =>
      rw [if_pos hroom'] at hrun'
      rw [List.take_of_length_le hroom'] at hedgeGroups
      have hsucceeds : createNamed request s = (.ok { request with
          tags := request.tags ++ tagIds
          edgeGroups := request.edgeGroups ++ groupIds
          createTags := []
          createEdgeGroups := [] }, s₂) := by
        rw [createNamed, StoreM.bind_ok hrun, StoreM.bind_ok hrun']
        rfl
      rw [hsucceeds]
      exact {
        ok_iff := iff_of_true ⟨_, rfl⟩ ⟨hroom, hroom'⟩
        ok := fun _ hok => ⟨tagIds, groupIds, htags, hedgeGroups, (Except.ok.inj hok).symm⟩
        error := nofun
        tagsFull := fun hfull => absurd hroom (Nat.not_le_of_lt hfull)
        edgeGroupsFull := fun _ hfull => absurd hroom' (Nat.not_le_of_lt hfull)
        others := hothers'.trans hothers }

end Both

/-! ## Section 5: Both stores -/

section Stores

variable {α δ : Type} {make : UInt32 → String → α}

theorem single_memory {table : MemoryStore → Table α} {put : MemoryStore → α → MemoryStore}
    {others : MemoryStore → δ}
    (hcount : ∀ s, table s.countWrite = table s ∧ others s.countWrite = others s)
    (hput : ∀ s id name, table (put s (make id name)) = (table s).insert id (make id name) ∧
      others (put s (make id name)) = others s) :
    Single (fun name => MemoryStore.addRecord table (make · name) put) make (fun a => a) table
      others where
  added name s id hid := by
    obtain ⟨htable, hothers⟩ := hput s.countWrite id name
    rw [(hcount s).1] at htable
    rw [(hcount s).2] at hothers
    refine ⟨put s.countWrite (make id name), ?_, htable, hothers⟩
    rw [MemoryStore.addRecord_apply, (hcount s).1, hid]
  full name s err herr := by
    refine ⟨s.countWrite, ?_, hcount s⟩
    rw [MemoryStore.addRecord_apply, (hcount s).1, herr]

theorem single_database {table : Database → Table String} {put : Database → α → Database}
    {text : α → String} {others : Database → δ}
    (hput : ∀ db id name, table (put db (make id name)) =
      (table db).insert id (text (make id name)) ∧
      others (put db (make id name)) = others db) :
    Single (fun name => Database.addRecord table (make · name) put) make text table others where
  added name db id hid := by
    refine ⟨put db (make id name), ?_, hput db id name⟩
    rw [Database.addRecord_apply, hid]
  full name db err herr := by
    refine ⟨db, ?_, rfl, rfl⟩
    rw [Database.addRecord_apply, herr]

theorem lawful_memory : MemoryStore.keeping.Lawful where
  tag := single_memory (fun _ => ⟨rfl, rfl⟩) fun _ _ _ => ⟨rfl, rfl⟩
  edgeGroup := single_memory (fun _ => ⟨rfl, rfl⟩) fun _ _ _ => ⟨rfl, rfl⟩

theorem lawful_database : Database.keeping.Lawful where
  tag := single_database fun _ _ _ => ⟨rfl, rfl⟩
  edgeGroup := single_database fun _ _ _ => ⟨rfl, rfl⟩

/-- In memory and in a database, whatever they hold and whatever the ids of it are, exactly those
records that a request names are created for which there are ids.  A batch that finds no id for one
of its names leaves the database as it was, and no one is told. -/
theorem createNamed_creates (request : Request) :
    (∀ s : MemoryStore, MemoryStore.keeping.Creates request s (createNamed request s).1
      (createNamed request s).2) ∧
    ∀ db : Database,
      Database.keeping.Creates request db (createNamed request db).1 (createNamed request db).2 ∧
      ∀ {ρ : Type} (v : Nat → Visiting) (r : Refresher ρ) (ids : List EnvironmentId) (d : ρ),
        db.tags.room < request.createTags.length ∨
            db.edgeGroups.room < request.createEdgeGroups.length →
          Database.assign v r ids request (db, d) =
            (.error (.persistence .idsExhausted), (db, d)) := by
  refine ⟨lawful_memory.creates request, fun db => ⟨lawful_database.creates request db, ?_⟩⟩
  intro ρ v r ids d hfull
  have hcreates := lawful_database.creates request db
  rcases hrun : createNamed request db with ⟨err | resolved, db'⟩
  · rw [hrun] at hcreates
    obtain rfl := hcreates.error err rfl
    refine Database.committing_error (t := (db', [])) ?_ r d
    rw [Relations.assign, StoreM.bind_error (onStore_apply hrun [])]
  · rw [hrun] at hcreates
    obtain ⟨htags, hgroups⟩ := hcreates.ok_iff.mp ⟨resolved, rfl⟩
    rcases hfull with hfull | hfull
    · exact absurd htags (Nat.not_le_of_lt hfull)
    · exact absurd hgroups (Nat.not_le_of_lt hfull)

/-- There is one more id for tags. -/
def almostFull : MemoryStore := ({} : MemoryStore).insertTag { id := 4294967294, name := "x" }

/-- Two tags where there is room for one, and a tag where there is room for none. -/
theorem createNamed_creates_almostFull :
    (MemoryStore.keeping.Creates { createTags := ["a", "b"], createEdgeGroups := ["g"] } almostFull
        (createNamed { createTags := ["a", "b"], createEdgeGroups := ["g"] } almostFull).1
        (createNamed { createTags := ["a", "b"], createEdgeGroups := ["g"] } almostFull).2 ∧
      (createNamed { createTags := ["a", "b"], createEdgeGroups := ["g"] }
        almostFull).2.tags.values =
        [{ id := 4294967294, name := "x" }, { id := 4294967295, name := "a" }]) ∧
    Database.assign (fun _ => .ascending) .silent [1] { createTags := ["z"] } (Database.full, ()) =
      (.error (.persistence .idsExhausted), (Database.full, ())) := by
  have hfull : Database.full.tags.room < ["z"].length := by decide
  exact ⟨⟨(createNamed_creates _).1 almostFull, by decide⟩,
    ((createNamed_creates { createTags := ["z"] }).2 Database.full).2 _ .silent [1] () (.inl hfull)⟩

end Stores

end Relations

end EnvRegistry

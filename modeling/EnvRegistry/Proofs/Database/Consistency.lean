import EnvRegistry.Proofs.Database.Inside
import EnvRegistry.Proofs.Records.Consistent

/-! # The records of a database always agree

    Whatever is done to a database that starts out empty, its records agree with
    each other (`consistent_after`).  The invariant is `Sound`: the texts stand
    for records, and these are consistent.  An operation inside a transaction
    need only keep it if it succeeds (`Keeps`), for what a transaction that fails
    has written is discarded (`Sound.atomically`). -/

namespace EnvRegistry.Database

open Relations

variable {ρ : Type}

/-! ## Section 1: Model -/

/-- An operation on the records.  Those downstream have the state `ρ`, and each operation may tell
them in its own way. -/
inductive Step (ρ : Type) where
  | createEnvironment (name : String) (group : Option GroupId) (tags : List TagId)
  | createTag (name : String)
  | createEdgeGroup (name : String)
  | update (v : Visiting) (r : Refresher ρ) (id : EnvironmentId) (u : Update)
  | assign (v : Nat → Visiting) (r : Refresher ρ) (ids : List EnvironmentId) (request : Request)

/-- The step inside a transaction. -/
def Step.inside : Step ρ → RunM Database ρ Unit
  | .createEnvironment name group tags => do
    let _ ← onStore (insertEnvironment name group tags)
  | .createTag name => do
    let _ ← onStore (RelationStore.createTag name)
  | .createEdgeGroup name => do
    let _ ← onStore (RelationStore.createEdgeGroup name)
  | .update v r id u => do
    let _ ← Relations.update v r id u
  | .assign v r ids request => do
    let _ ← Relations.assign v r ids request

/-- Steps one after the other, up to the first that fails. -/
def insideAll : List (Step ρ) → RunM Database ρ Unit
  | [] => return
  | s :: rest => do
    s.inside
    insideAll rest

/-- What a call of the database leaves, whether it fails or not. -/
def Step.call : Step ρ → Database × ρ → Database × ρ
  | .createEnvironment name group tags, s =>
      (onStore (Database.createEnvironment name group tags) s).2
  | .createTag name, s => (onStore (Database.createTag name) s).2
  | .createEdgeGroup name, s => (onStore (Database.createEdgeGroup name) s).2
  | .update v r id u, s => (Database.update v r id u s).2
  | .assign v r ids request, s => (Database.assign v r ids request s).2

/-- Keeps what an operation wrote if it succeeds, and discards it if it fails.  What those
downstream were told is not taken back. -/
def atomically {α : Type} (m : RunM Database ρ α) : RunM Database ρ α := fun (db, d) =>
  match m (db, d) with
  | (.ok a, s) => (.ok a, s)
  | (.error e, (_, d')) => (.error e, (db, d'))

/-- An operation on a database. -/
inductive Operation (ρ : Type) where
  | call (s : Step ρ)
  /-- Several steps in one transaction, which ends with the first that fails. -/
  | transaction (steps : List (Step ρ))
  /-- Closing and opening again, which is a transaction that writes nothing. -/
  | reopen

/-- What an operation leaves, whether it fails or not. -/
def Operation.run : Operation ρ → Database × ρ → Database × ρ
  | .call s, t => s.call t
  | .transaction steps, t => (atomically (insideAll steps) t).2
  | .reopen, t => (atomically (return () : RunM Database ρ Unit) t).2

/-- What some operations leave, one after the other. -/
def after (history : List (Operation ρ)) (t : Database × ρ) : Database × ρ :=
  history.foldl (fun t o => o.run t) t

/-- The records of a database agree with each other. -/
structure Consistent (db : Database) : Prop where
  /-- Every record can be read, and lies under its own id. -/
  environments : ∀ id, db.environments.contains id = true →
      ∃ e, db.environment id = .ok e ∧ e.id = id
  tags : ∀ id, db.tags.contains id = true → ∃ t, db.tag id = .ok t ∧ t.id = id
  edgeGroups : ∀ id, db.edgeGroups.contains id = true → ∃ g, db.edgeGroup id = .ok g ∧ g.id = id
  /-- A tag lists exactly the environments that wear it. -/
  listed : ∀ t tag id, db.tag t = .ok tag →
    (id ∈ tag.members ↔ ∃ e, db.environment id = .ok e ∧ t ∈ e.tagIds)
  /-- Every tag that is worn is there. -/
  worn : ∀ id e t, db.environment id = .ok e → t ∈ e.tagIds → ∃ tag, db.tag t = .ok tag
  /-- Every member of an edge group is there. -/
  members : ∀ g group id, db.edgeGroup g = .ok group → id ∈ group.members →
    ∃ e, db.environment id = .ok e
  /-- No edge group lists an environment twice. -/
  nodup : ∀ g group, db.edgeGroup g = .ok group → group.members.Nodup
  /-- Every environment lies in a group. -/
  grouped : ∀ id e, db.environment id = .ok e → e.groupId ≠ GroupId.unset

/-! ## Section 2: Operations that keep the invariant -/

/-- The shelf holds records that agree with each other. -/
def ShelfSound (s : Shelf) : Prop := ∃ R : Records, s = R.shelf ∧ R.Consistent

/-- The texts of the database stand for records that agree with each other. -/
def Sound (db : Database) : Prop := ∃ R, db.Holds R ∧ R.Consistent

/-- A run that succeeds leaves a sound database sound. -/
def Keeps {α : Type} (m : RunM Database ρ α) : Prop :=
  ∀ db d a s, Sound db → m (db, d) = (.ok a, s) → Sound s.1

namespace Keeps

variable {α β : Type}

theorem pure (a : α) : Keeps (pure a : RunM Database ρ α) := by
  intro db d b s hdb h
  cases h
  exact hdb

theorem bind {m : RunM Database ρ α} {k : α → RunM Database ρ β} (hm : Keeps m)
    (hk : ∀ a, Keeps (k a)) : Keeps (m >>= k) := by
  intro db d b s hdb h
  obtain ⟨a, s₁, hrun, hrest⟩ := StoreM.bind_eq_ok.mp h
  exact hk a s₁.1 s₁.2 b s (hm db d a s₁ hdb hrun) hrest

theorem onStore {m : StoreM Database α}
    (h : ∀ db a db', Sound db → m db = (.ok a, db') → Sound db') :
    Keeps (onStore m : RunM Database ρ α) := by
  intro db d a s hdb hrun
  rcases hm : m db with ⟨result, db'⟩
  rw [Relations.onStore, hm] at hrun
  cases hrun
  exact h db a db' hdb hm

/-- Looking something up changes nothing. -/
theorem query {f : Database → Except RegistryError α} :
    Keeps (Relations.onStore (query f) : RunM Database ρ α) := by
  refine onStore fun db a db' hdb h => ?_
  have hstate : db = db' := (Prod.mk.inj h).2
  rwa [← hstate]

end Keeps

theorem update_keeps (v : Visiting) (r : Refresher ρ) (id : EnvironmentId) (u : Update) :
    Keeps (Relations.update v r id u) := by
  rintro db d o ⟨db', d'⟩ ⟨R, hR, hconsistent⟩ h
  obtain ⟨e, he, hfree, -, hdb'⟩ := update_ok_records storeMap hR h
  have hid : e.id = id := R.environmentsKeyed id e he
  rw [← hid] at he
  cases ho : o.changed with
  | false =>
    rw [ho] at hdb'
    exact ⟨R, hdb', hconsistent⟩
  | true =>
    rw [ho] at hdb'
    exact ⟨R.updated u e, hdb', hconsistent.updated he hfree⟩

theorem ShelfSound.putTag (s : Shelf) (id : TagId) (name : String) (h : ShelfSound s)
    (hid : nextId s.tags.lastId? = .ok id) : ShelfSound (Rack.tags.put { id, name } s) := by
  obtain ⟨R, rfl, hconsistent⟩ := h
  exact ⟨_, (R.shelf_putTag _).symm, hconsistent.putTag (Table.get?_nextId_map hid) name⟩

theorem ShelfSound.putEdgeGroup (s : Shelf) (id : EdgeGroupId) (name : String) (h : ShelfSound s)
    (_ : nextId s.edgeGroups.lastId? = .ok id) :
      ShelfSound (Rack.edgeGroups.put { id, name } s) := by
  obtain ⟨R, rfl, hconsistent⟩ := h
  exact ⟨_, (R.shelf_putEdgeGroup _).symm, hconsistent.putEdgeGroup id name⟩

/-- Adding a record of some kind. -/
theorem add_keeps {α : Type} {k : Rack α} {m : StoreM Database α} {make : UInt32 → α}
    (hm : Commutes shelf m (k.add make)) (hput : ∀ s id, ShelfSound s →
      nextId (k.get s).lastId? = .ok id → ShelfSound (k.put (make id) s)) :
    Keeps (onStore m : RunM Database ρ α) := by
  refine .onStore fun db a db' hdb h => ?_
  have hsound := (add_maintains hput db.shelf hdb).1
  rw [hm db, h] at hsound
  exact hsound

theorem createTag_keeps (name : String) :
    Keeps (onStore (RelationStore.createTag name) : RunM Database ρ Tag) :=
  add_keeps (storeMap.createTag name) fun s id => ShelfSound.putTag s id name

theorem createEdgeGroup_keeps (name : String) :
    Keeps (onStore (RelationStore.createEdgeGroup name) : RunM Database ρ EdgeGroup) :=
  add_keeps (storeMap.createEdgeGroup name) fun s id => ShelfSound.putEdgeGroup s id name

theorem createNamed_keeps (request : Request) :
    Keeps (onStore (createNamed request) : RunM Database ρ Request) := by
  refine .onStore fun db a db' hdb h => ?_
  rcases createNamed_cases (P := ShelfSound) ShelfSound.putTag ShelfSound.putEdgeGroup
      request hdb with
    ⟨err, db₁, _, hrun⟩ | ⟨resolved, db₁, hdb₁, hrun⟩
  · rw [hrun] at h
    cases h
  · rw [hrun] at h
    cases h
    exact hdb₁

theorem assignEach_keeps (v : Nat → Visiting) (r : Refresher ρ) (request : Request)
    (ids : List EnvironmentId) : Keeps (assignEach v r request ids) := by
  have hgroups : ∀ id,
      Keeps (onStore (Relations.environmentEdgeGroups id) : RunM Database ρ _) := by
    intro id
    refine .onStore fun db a db' hdb h => ?_
    rw [environmentEdgeGroups_apply] at h
    have hstate : db = db' := (Prod.mk.inj h).2
    rwa [← hstate]
  induction ids generalizing v with
  | nil => exact .pure []
  | cons id rest ih =>
    have hone : Keeps (assignOne (v 0) r request id) :=
      Keeps.query.bind fun e => (hgroups id).bind fun groups =>
        (update_keeps (v 0) r id _).bind fun _ => .pure _
    exact hone.bind fun _ => (ih _).bind fun _ => .pure _

theorem assign_keeps (v : Nat → Visiting) (r : Refresher ρ) (ids : List EnvironmentId)
    (request : Request) : Keeps (Relations.assign v r ids request) :=
  (createNamed_keeps request).bind fun resolved => assignEach_keeps v r resolved ids

/-! ## Section 3: New environments -/

/-- A new environment is listed in its tags, and then put under its id. -/
theorem insertEnvironment_apply (name : String) (group : Option GroupId) (tags : List TagId)
    (db : Database) :
    insertEnvironment name group tags db = match nextId db.environments.lastId? with
      | .error err => (.error err, db)
      | .ok id => match listInTags id tags db with
        | (.error err, db') => (.error err, db')
        | (.ok (), db') =>
          let e : Environment := {
            id, name
            groupId := (GroupId.requested? group).getD GroupId.unassigned
            tagIds := tags.eraseDups }
          (.ok e, db'.putEnvironment e) := by
  have hquery : (query fun db => nextId db.environments.lastId? : StoreM Database UInt32) db =
    (nextId db.environments.lastId?, db) := rfl
  cases hid : nextId db.environments.lastId? with
  | error err =>
    rw [hid] at hquery
    exact StoreM.bind_error hquery
  | ok id =>
    rw [hid] at hquery
    rw [insertEnvironment, StoreM.bind_ok hquery, StoreM.bind_apply]
    dsimp only
    rcases listInTags id tags db with ⟨err | ⟨⟩, db'⟩
    · rfl
    · rfl

theorem listInTags_eq (id : EnvironmentId) (tags : List TagId) :
    listInTags id tags = visitAll (RelationStore.mutateTag · (·.addMember id)) tags := by
  induction tags with
  | nil => rfl
  | cons t rest ih => rw [listInTags, visitAll, ih]

/-- An environment is listed in all its tags, if they are there, however often a tag is named. -/
theorem listInTags_cases {db : Database} {R : Records} (hR : db.Holds R) (id : EnvironmentId)
    (tags : List TagId) :
    (∃ err db', listInTags id tags db = (.error err, db')) ∨
      (∀ t ∈ tags, R.tags.get? t ≠ none) ∧ ∃ db',
        db'.Holds (R.related id ⟨.empty, .ofList tags⟩ .nothing) ∧
        listInTags id tags db = (.ok (), db') := by
  -- A tag may be named twice, but it is a set that the environment is put in.
  have hcommutes := Commutes.visitAll (fun t => storeMap.mutateTag t (·.addMember id)) tags db
  rw [← listInTags_eq, hR] at hcommutes
  rcases hrun : listInTags id tags db with ⟨result, db'⟩
  rw [hrun] at hcommutes
  have hrepeat : tags.Nodup ∨ ∀ t : Tag, (t.addMember id).addMember id = t.addMember id :=
    .inr fun t => addMember_addMember t id
  rcases visitAll_mutate (k := .tags) (·.addMember id) (fun _ => rfl) hrepeat R.own_shelf.tags with
    ⟨hopen, hshelf⟩ | ⟨_, done, err, _, _, hshelf⟩
  · obtain ⟨hresult, hdb'⟩ : .ok () = result ∧ _ = db'.shelf :=
      Prod.mk.inj (hshelf.symm.trans hcommutes)
    rw [← hresult]
    refine .inr ⟨fun t ht => (Records.open_iff (k := .tags) rfl).mp (hopen t ht), db', ?_, rfl⟩
    show db'.shelf = _
    rw [← hdb', Records.shelf_related, related_nothing]
    refine Rack.tags.change_congr fun t => ?_
    simp only [Rack.only, Delta.onTag, Delta.on, KeySet.not_mem_empty, if_false, KeySet.mem_ofList]
    rfl
  · obtain ⟨hresult, -⟩ : .error err = result ∧ _ = db'.shelf :=
      Prod.mk.inj (hshelf.symm.trans hcommutes)
    rw [← hresult]
    exact .inl ⟨err, db', rfl⟩

theorem insertEnvironment_keeps (name : String) (group : Option GroupId) (tags : List TagId) :
    Keeps (onStore (insertEnvironment name group tags) : RunM Database ρ Environment) := by
  refine .onStore fun db e db' hdb h => ?_
  obtain ⟨R, hR, hconsistent⟩ := hdb
  obtain ⟨id, db₁, hquery, h⟩ := StoreM.bind_eq_ok.mp h
  obtain ⟨hid, rfl⟩ : nextId db.environments.lastId? = .ok id ∧ db = db₁ := Prod.mk.inj hquery
  obtain ⟨_, db₂, hlist, h⟩ := StoreM.bind_eq_ok.mp h
  rcases listInTags_cases hR id tags with ⟨err, db₃, hrun⟩ | ⟨hstored, db₃, hdb₃, hrun⟩
  · rw [hrun] at hlist
    cases hlist
  · rw [hrun] at hlist
    cases hlist
    cases h
    have hlast : db.environments.lastId? = R.environments.lastId? := by
      have hshelf := congrArg (fun s => s.environments.lastId?) hR
      simpa only [shelf, Records.shelf, Table.lastId?_map] using hshelf
    rw [hlast] at hid
    have hgrouped : (GroupId.requested? group).getD GroupId.unassigned ≠ GroupId.unset := by
      cases hg : GroupId.requested? group with
      | none => decide
      | some g => exact Records.requested?_ne_unset hg
    refine ⟨_, hdb₃.putEnvironment _, ?_⟩
    exact hconsistent.create (Table.get?_nextId hid) rfl hstored hgrouped

/-! ## Section 4: Every operation -/

theorem inside_keeps (s : Step ρ) : Keeps s.inside := by
  cases s with
  | createEnvironment name group tags =>
    exact (insertEnvironment_keeps name group tags).bind fun _ => .pure ()
  | createTag name => exact (createTag_keeps name).bind fun _ => .pure ()
  | createEdgeGroup name => exact (createEdgeGroup_keeps name).bind fun _ => .pure ()
  | update v r id u => exact (update_keeps v r id u).bind fun _ => .pure ()
  | assign v r ids request => exact (assign_keeps v r ids request).bind fun _ => .pure ()

theorem insideAll_keeps (steps : List (Step ρ)) : Keeps (insideAll steps) := by
  induction steps with
  | nil => exact .pure ()
  | cons s rest ih => exact (inside_keeps s).bind fun _ => ih

section Atomically

variable {α : Type}

/-- On the database alone, a transaction is `transaction`. -/
theorem onStore_transaction (m : StoreM Database α) :
    (onStore (transaction m) : RunM Database ρ α) = atomically (onStore m) := by
  funext t
  rw [onStore, atomically, onStore, transaction]
  rcases m t.1 with ⟨_ | _, _⟩
  · rfl
  · rfl

/-- What a transaction with a queue leaves is written before the queue is passed on. -/
theorem committing_database (r : Refresher ρ) (m : RunM Database (List Environment) α)
    (t : Database × ρ) : (committing r m t).2.1 = (atomically m (t.1, [])).2.1 := by
  rw [committing, atomically]
  rcases m (t.1, []) with ⟨_ | _, _, _⟩
  · rfl
  · rfl

/-- A transaction leaves a sound database sound, whether it fails or not. -/
theorem Sound.atomically {m : RunM Database ρ α} (hm : Keeps m) {t : Database × ρ}
    (ht : Sound t.1) : Sound (atomically m t).2.1 := by
  obtain ⟨db, d⟩ := t
  rcases hrun : m (db, d) with ⟨e | a, s⟩
  · rw [Database.atomically, hrun]
    exact ht
  · rw [Database.atomically, hrun]
    exact hm db d a s ht hrun

end Atomically

/-- What a call leaves in the database is what a step in a transaction of its own leaves there,
where those downstream may be a queue. -/
theorem Step.call_database (s : Step ρ) (t : Database × ρ) :
    ∃ (ρ' : Type) (s' : Step ρ') (d' : ρ'),
      (s.call t).1 = (Database.atomically s'.inside (t.1, d')).2.1 := by
  -- What a step answers does not matter for what it leaves.
  have hforget : ∀ {ρ' α : Type} (m : RunM Database ρ' α) (t : Database × ρ'),
      (Database.atomically (m >>= fun _ => pure ()) t).2.1 = (Database.atomically m t).2.1 := by
    intro ρ' α m t
    rw [Database.atomically, Database.atomically, StoreM.bind_apply]
    rcases m t with ⟨_ | _, _, _⟩
    · rfl
    · rfl
  cases s with
  | createEnvironment name group tags =>
    refine ⟨ρ, .createEnvironment name group tags, t.2, ?_⟩
    rw [Step.inside, hforget, ← onStore_transaction]
    rfl
  | createTag name =>
    refine ⟨ρ, .createTag name, t.2, ?_⟩
    rw [Step.inside, hforget, ← onStore_transaction]
    rfl
  | createEdgeGroup name =>
    refine ⟨ρ, .createEdgeGroup name, t.2, ?_⟩
    rw [Step.inside, hforget, ← onStore_transaction]
    rfl
  -- These two queue their refreshes inside and pass them on once the transaction is kept.
  | update v r id u =>
    refine ⟨_, .update v Refresher.enqueue id u, [], ?_⟩
    rw [Step.inside, hforget]
    exact committing_database r _ t
  | assign v r ids request =>
    refine ⟨_, .assign v Refresher.enqueue ids request, [], ?_⟩
    rw [Step.inside, hforget]
    exact committing_database r _ t

theorem Sound.call (s : Step ρ) {t : Database × ρ} (ht : Sound t.1) : Sound (s.call t).1 := by
  obtain ⟨ρ', s', d', hcall⟩ := s.call_database t
  rw [hcall]
  exact Sound.atomically (t := (t.1, d')) (inside_keeps s') ht

theorem Sound.run (o : Operation ρ) {t : Database × ρ} (ht : Sound t.1) : Sound (o.run t).1 := by
  cases o with
  | call s => exact ht.call s
  | transaction steps => exact ht.atomically (insideAll_keeps steps)
  | reopen => exact ht.atomically (.pure ())

theorem Sound.after (history : List (Operation ρ)) {t : Database × ρ} (ht : Sound t.1) :
    Sound (after history t).1 := by
  induction history generalizing t with
  | nil => exact ht
  | cons o rest ih => exact ih (ht.run o)

/-! ## Section 5: Sound databases -/

/-- A text that the database holds stands for one of the records. -/
theorem Holds.stored {db : Database} {R : Records} (h : db.Holds R) {α : Type} {k : Rack α}
    {d : Json.Decoder α} {texts : Table String} {t : Table α}
    (htexts : k.get db.shelf = texts.map (cell d))
    (ht : k.get R.shelf = t.map .ok) {id : UInt32} (hid : texts.contains id = true) :
    ∃ a, t.get? id = some a := by
  have hcells : (k.get db.shelf).contains id = (k.get R.shelf).contains id := by rw [h]
  rw [htexts, ht, Table.contains_map, Table.contains_map, hid] at hcells
  exact Table.contains_iff.mp hcells.symm

theorem Sound.consistent {db : Database} (h : Sound db) : Consistent db := by
  obtain ⟨R, hR, hconsistent⟩ := h
  constructor
  case environments =>
    intro id hid
    obtain ⟨e, he⟩ := hR.stored (k := .environments) rfl rfl hid
    exact ⟨e, hR.environment.mpr he, R.environmentsKeyed id e he⟩
  case tags =>
    intro id hid
    obtain ⟨t, ht⟩ := hR.stored (k := .tags) rfl rfl hid
    exact ⟨t, hR.tag.mpr ht, R.tagsKeyed id t ht⟩
  case edgeGroups =>
    intro id hid
    obtain ⟨g, hg⟩ := hR.stored (k := .edgeGroups) rfl rfl hid
    exact ⟨g, hR.edgeGroup.mpr hg, R.edgeGroupsKeyed id g hg⟩
  case listed =>
    intro t tag id htag
    rw [hconsistent.listed t tag id (hR.tag.mp htag)]
    simp only [hR.environment]
  case worn =>
    intro id e t he ht
    have hstored := hconsistent.worn id e t (hR.environment.mp he) ht
    obtain ⟨tag, htag⟩ := Option.ne_none_iff_exists'.mp hstored
    exact ⟨tag, hR.tag.mpr htag⟩
  case members =>
    intro g group id hgroup hmember
    have hstored := hconsistent.members g group id (hR.edgeGroup.mp hgroup) hmember
    obtain ⟨e, he⟩ := Option.ne_none_iff_exists'.mp hstored
    exact ⟨e, hR.environment.mpr he⟩
  case nodup =>
    intro g group hgroup
    exact hconsistent.nodup g group (hR.edgeGroup.mp hgroup)
  case grouped =>
    intro id e he
    exact hconsistent.grouped id e (hR.environment.mp he)

/-- Whatever is done to a database that starts out empty, its records agree with each other. -/
theorem consistent_after (history : List (Operation ρ)) (d : ρ) :
    Consistent (after history ({}, d)).1 := by
  have hempty : Sound {} := ⟨{}, holds_empty, Records.consistent_empty⟩
  exact (Sound.after history (t := ({}, d)) hempty).consistent

end EnvRegistry.Database

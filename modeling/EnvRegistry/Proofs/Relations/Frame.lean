import EnvRegistry.Proofs.Database.Commit
import EnvRegistry.Proofs.Store.Without

/-! # Other environments are left alone

    An update of an environment and a request for some environments leave alone
    whatever belongs to others, wherever they stop (`spares_others`): no record is
    lost, new records are those that the request creates, and with the
    environments concerned taken out every record is what it was.

    The invariant is an equation between shelves without these environments
    (`Shelf.without`).  A step of an update changes only the mention of its own
    environment, so it does not show on either side, and no step need succeed for
    that. -/

namespace EnvRegistry

open Relations

/-! ## Section 1: Model -/

namespace Relations

/-- What has become of the table `t` in the table `t'`, when the records of `made` were created
meanwhile. -/
structure Spared {α : Type} (same : α → α → Prop) (t made t' : Table (Cell α)) : Prop where
  /-- No record is lost, and each is the same in what matters. -/
  kept : ∀ id a, t.get? id = some (.ok a) → ∃ a', t'.get? id = some (.ok a') ∧ same a a'
  /-- What could not be read still cannot be read, for the same reason. -/
  unreadable : ∀ id fault, t.get? id = some (.error fault) → t'.get? id = some (.error fault)
  /-- A record that is new is one of those that were created. -/
  new : ∀ id cell, t.get? id = none → t'.get? id = some cell →
    ∃ a a', made.get? id = some (.ok a) ∧ cell = .ok a' ∧ same a a'

/-- What has become of the shelf `s` in the shelf `s'`, when the records of `made` were created
meanwhile and only the relations of the environments `ids` have changed. -/
structure Spares (ids : List EnvironmentId) (s made s' : Shelf) : Prop where
  /-- Other environments are as they were. -/
  others : ∀ id, id ∉ ids → s'.environments.get? id = s.environments.get? id
  /-- No environment is lost or new, and all have kept their ids and their names. -/
  environments : Spared (fun e e' => e'.id = e.id ∧ e'.name = e.name)
    s.environments s.environments s'.environments
  /-- Other environments are in the same tags as before, and in none of the new ones. -/
  tags : Spared (fun t t' => t'.id = t.id ∧ t'.name = t.name ∧
    ∀ id, id ∉ ids → (id ∈ t'.members ↔ id ∈ t.members)) s.tags made.tags s'.tags
  /-- Other environments are in the same edge groups, as often and in the same order. -/
  edgeGroups : Spared (fun g g' => g'.id = g.id ∧ g'.name = g.name ∧
    g'.members.filter (· ∉ ids) = g.members.filter (· ∉ ids)) s.edgeGroups made.edgeGroups
    s'.edgeGroups

/-- Whatever an update or a request comes to on a store, it spares other environments; `φ` says what
the store holds. -/
structure Considerate {σ : Type} [RelationStore σ] (φ : σ → Shelf) (s : σ) : Prop where
  update : ∀ {ρ : Type} (v : Visiting) (r : Refresher ρ) (d : ρ) (id : EnvironmentId) (u : Update),
    Spares [id] (φ s) (φ s) (φ (update v r id u (s, d)).2.1)
  /-- The records that a request creates. -/
  created : ∀ request, Made request (φ s) (φ (createNamed request s).2)
  assign : ∀ {ρ : Type} (v : Nat → Visiting) (r : Refresher ρ) (d : ρ) (ids : List EnvironmentId)
    (request : Request),
    Spares ids (φ s) (φ (createNamed request s).2) (φ (assign v r ids request (s, d)).2.1)

end Relations

/-! ## Section 2: What equal remains say -/

namespace Relations

section Cells

variable {α : Type} {g : α → α} {t made t' : Table (Cell α)}

/-- Records are the same in what matters if what is left of them is the same. -/
theorem Spared.of_map {new : UInt32 → α → Prop} {same : α → α → Prop}
    (hsame : ∀ a a', g a' = g a → same a a') (hmade : Grown new t made)
    (h : t'.map (Except.map g) = made.map (Except.map g)) : Spared same t made t' where
  kept id a ha := by
    -- What was there before is not touched by what was created.
    have hstill : made.get? id = some (.ok a) := by
      rw [hmade.kept id (by rw [ha]; nofun), ha]
    rcases Shelf.cells_of_map h id with ⟨hnone, -⟩ | ⟨_, herror, -⟩ | ⟨b, a', hb, ha', hg⟩
    · rw [hstill] at hnone
      cases hnone
    · rw [hstill] at herror
      cases herror
    · rw [hstill] at hb
      cases hb
      exact ⟨a', ha', hsame _ _ hg⟩
  unreadable id fault hfault := by
    have hstill : made.get? id = some (.error fault) := by
      rw [hmade.kept id (by rw [hfault]; nofun), hfault]
    rcases Shelf.cells_of_map h id with ⟨hnone, -⟩ | ⟨_, herror, herror'⟩ | ⟨b, _, hb, -⟩
    · rw [hstill] at hnone
      cases hnone
    · rw [hstill] at herror
      cases herror
      exact herror'
    · rw [hstill] at hb
      cases hb
  new id cell hnone hcell := by
    rcases Shelf.cells_of_map h id with ⟨-, hnone'⟩ | ⟨fault, herror, -⟩ | ⟨a, a', ha, ha', hg⟩
    · rw [hcell] at hnone'
      cases hnone'
    · -- What was created can be read.
      obtain ⟨_, -, h⟩ := hmade.made id _ hnone herror
      cases h
    · rw [hcell] at ha'
      cases ha'
      exact ⟨a, a', ha, rfl, hsame _ _ hg⟩

end Cells

/-- Shelves of which the same is left without some environments differ only in the relations of
these. -/
theorem Spares.of_without {ids : List EnvironmentId} {request : Request} {s made s' : Shelf}
    (hown : s.Own) (hmade : Made request s made) (h : s'.without ids = made.without ids) :
    Spares ids s made s' where
  others id hid := by
    have henv := congrArg Shelf.environments h
    rw [← hmade.environments]
    rcases Shelf.cells_of_map henv id with
      ⟨hnone, hnone'⟩ | ⟨_, herror, herror'⟩ | ⟨e, e', he, he', hg⟩
    · rw [hnone, hnone']
    · rw [herror, herror']
    · have hstored : s.environments.get? id = some (.ok e) := by rw [← hmade.environments, he]
      -- Nothing is taken out of an environment that is not one of them, so it stays what it was.
      have hkey : e.id = id := hown.environments id e hstored
      have hkey' : e'.id = id := by rw [← e'.without_id ids, hg, e.without_id, hkey]
      have hsame : e' = e := by
        rw [← Environment.without_of_not_mem (e := e') (by rwa [hkey']), hg,
          Environment.without_of_not_mem (by rwa [hkey])]
      rw [he, he', hsame]
  environments := by
    rw [← hmade.environments]
    have hgrown : Grown (fun _ _ => True) made.environments made.environments := .refl _
    refine .of_map (fun e e' hg => ⟨?_, ?_⟩) hgrown (congrArg Shelf.environments h)
    · rw [← e'.without_id ids, hg, e.without_id]
    · rw [← e'.without_name ids, hg, e.without_name]
  tags := by
    refine .of_map (fun t t' hg => ?_) hmade.tags (congrArg Shelf.tags h)
    obtain ⟨hid, hname, -⟩ := Tag.mk.inj hg
    refine ⟨hid, hname, fun id hid => ?_⟩
    have hmem : id ∈ (t'.without ids).members ↔ id ∈ (t.without ids).members := by rw [hg]
    rwa [Tag.mem_without, Tag.mem_without, and_iff_left hid, and_iff_left hid] at hmem
  edgeGroups := by
    exact .of_map (fun g g' hg => EdgeGroup.mk.inj hg) hmade.edgeGroups
      (congrArg Shelf.edgeGroups h)

end Relations

/-! ## Section 3: What every run leaves -/

namespace Shelf

variable {s : Shelf} {ids : List EnvironmentId}

/-- Nothing that an update does shows where its environment is missing. -/
theorem applyUpdate_maintains {id : EnvironmentId} (hid : id ∈ ids) (v : Visiting) (u : Update)
    (s₀ : Shelf) : Maintains (fun s : Shelf => s.Own ∧ s.without ids = s₀.without ids)
      (fun _ => True) (applyUpdate v id u) := by
  rintro s ⟨hown, hleft⟩
  refine ⟨?_, fun _ _ => trivial⟩
  rcases applyUpdate_cases hown v id u with
    ⟨err, -, hrun⟩ | ⟨e, hread, ⟨-, hrun⟩ | ⟨-, tags, edgeGroups, err, -, -, -, -, hrun⟩⟩
  · rw [hrun]
    exact ⟨hown, hleft⟩
  · have hstored := (Rack.look_ok.mp hread).2
    have he : e.id = id := hown.environments id e hstored
    rw [hrun]
    refine ⟨hown.updated u e, ?_⟩
    unfold Shelf.updated
    simp only
    split
    · rw [without_put e (u.applyTo e) (by rwa [he]) (by rwa [he]) rfl rfl, he,
        without_related hid, hleft]
    · rw [he, without_related hid, hleft]
  · have he : e.id = id := hown.environments id e (Rack.look_ok.mp hread).2
    rw [hrun]
    refine ⟨hown.related _ _ _, ?_⟩
    rw [he, without_related hid, hleft]

theorem createNamed_own (hown : s.Own) (request : Request) : (createNamed request s).2.Own :=
  (createNamed_maintains (Q := RegistryError.OfStore)
    (fun _ _ => add_maintains (k := .tags) fun _ _ h _ => h.putTag _)
    (fun _ _ => add_maintains (k := .edgeGroups) fun _ _ h _ => h.putEdgeGroup _) s hown).1

/-- Nothing that a request does shows where its environments are missing, but for the records that
it creates. -/
theorem assign_without {ρ : Type} (hown : s.Own) (v : Nat → Visiting) (r : Refresher ρ) (d : ρ)
    (ids : List EnvironmentId) (request : Request) :
    (assign v r ids request (s, d)).2.1.without ids = (createNamed request s).2.without ids := by
  have hcreated := createNamed_own hown request
  rcases hrun : createNamed request s with ⟨err | resolved, s₁⟩
  · have hassign : assign v r ids request (s, d) = (.error err, (s₁, d)) :=
      StoreM.bind_error (onStore_apply hrun d)
    rw [hassign]
  · have hassign : assign v r ids request (s, d) = assignEach v r resolved ids (s₁, d) :=
      StoreM.bind_ok (onStore_apply hrun d)
    rw [hrun] at hcreated
    rw [hassign]
    have hupdate : ∀ v, ∀ id ∈ ids, ∀ u, Maintains
        (fun s : Shelf => s.Own ∧ s.without ids = s₁.without ids) (fun _ => True)
        (applyUpdate v id u) := fun v _ hid u => applyUpdate_maintains hid v u s₁
    exact (assignEach_maintains (fun _ _ h => ⟨h, fun _ _ => trivial⟩)
      (fun _ h => ⟨h, fun _ _ => trivial⟩) hupdate v r resolved (s₁, d) ⟨hcreated, rfl⟩).1.2

end Shelf

/-- An update and a request spare other environments on every store that looks like a shelf whose
records lie under their own ids. -/
theorem Relations.Considerate.of_storeMap {σ : Type} [RelationStore σ] {φ : σ → Shelf}
    (hφ : StoreMap φ) {s : σ} (hown : (φ s).Own) : Considerate φ s where
  update v r d id u := by
    have hmaintains := Shelf.applyUpdate_maintains (List.mem_singleton_self id) v u (φ s)
    have hleft := (hmaintains (φ s) ⟨hown, rfl⟩).1.2
    rw [hφ.applyUpdate v id u s, ← update_store v r id u s d] at hleft
    exact .of_without hown (.refl {} _) hleft
  created request := by
    have hmade := createNamed_made request (φ s)
    rwa [hφ.createNamed request s] at hmade
  assign v r d ids request := by
    have hleft := Shelf.assign_without hown v r d ids request
    have hmade := createNamed_made request (φ s)
    have hrun : Relations.assign v r ids request (φ s, d) = _ := hφ.assign v r ids request (s, d)
    rw [hrun, hφ.createNamed request s] at hleft
    rw [hφ.createNamed request s] at hmade
    exact .of_without hown hmade hleft

/-! ## Section 4: The texts of other environments -/

namespace Database

section Maintains

variable {P : Database → Prop} {Q : RegistryError → Prop} {α : Type}

theorem query_maintains (f : Database → Except RegistryError α) :
    Maintains P (fun _ => True) (query f) := fun _ h => ⟨h, fun _ _ => trivial⟩

theorem replaceRecord_maintains {kind : EntityKind} {table : Database → Table String} {id : UInt32}
    {put : Database → Database} (h : ∀ db, P db → P (put db)) :
    Maintains P (fun _ => True) (replaceRecord kind table id put) := by
  intro db hdb
  refine ⟨?_, fun _ _ => trivial⟩
  rw [replaceRecord, StoreM.bind_ok (StoreM.get_apply db)]
  split
  · exact h db hdb
  · exact hdb

theorem addRecord_maintains {table : Database → Table String} {make : UInt32 → α}
    {put : Database → α → Database} (h : ∀ db a, P db → P (put db a)) :
    Maintains P (fun _ => True) (addRecord table make put) := by
  refine (query_maintains _).bind fun id => ?_
  intro db hdb
  exact ⟨h db (make id) hdb, nofun⟩

end Maintains

variable {db : Database}

/-- An update writes no other environment. -/
theorem applyUpdate_environments (hown : db.shelf.Own) (v : Visiting) (id : EnvironmentId)
    (u : Update)
    {j : EnvironmentId} (hj : j ≠ id) :
    (applyUpdate v id u db).2.environments.get? j = db.environments.get? j := by
  have hread : (RelationStore.environment id : StoreM Database _) db =
      (db.environment id, db) := rfl
  rw [applyUpdate_eq]
  cases he : db.environment id with
  | error err =>
    rw [he] at hread
    rw [StoreM.bind_error hread]
  | ok e =>
    rw [he] at hread
    rw [StoreM.bind_ok hread]
    have hid : e.id = id := by
      rw [environment_eq] at he
      exact hown.environments id e (Rack.look_ok.mp he).2
    -- Neither tags nor edge groups lie among the environments, and what is written lies under `id`.
    have htags := tagPhase_maintains (σ := Database)
      (P := fun db' => db'.environments.get? j = db.environments.get? j)
      (fun t f => (query_maintains _).bind fun _ => replaceRecord_maintains fun _ h => h) v u e
    have hgroups := edgeGroupPhase_maintains (σ := Database)
      (P := fun db' => db'.environments.get? j = db.environments.get? j) (query_maintains _)
      (fun g f => (query_maintains _).bind fun _ => replaceRecord_maintains fun _ h => h) v u e.id
    have hwrite : ∀ o, Maintains
        (fun db' : Database => db'.environments.get? j = db.environments.get? j) (fun _ => True)
        (writePhase u e o) := by
      intro o
      refine .ite (replaceRecord_maintains fun db' h => ?_) (.pure ())
      have hother : j ≠ (u.applyTo e).id := by rwa [Update.applyTo_id, hid]
      exact (Table.get?_insert _ _ _ _).trans ((if_neg hother).trans h)
    exact ((htags.bind fun _ => hgroups.bind fun _ => (hwrite _).bind fun _ => .pure _) db rfl).1

/-- Records lie under their own ids, and the text of an environment is what it was. -/
def TextKept (db : Database) (j : EnvironmentId) (db' : Database) : Prop :=
  db'.shelf.Own ∧ db'.environments.get? j = db.environments.get? j

/-- A request writes no environment but those it is for. -/
theorem assign_environments {ρ : Type} (hown : db.shelf.Own) (v : Nat → Visiting) (r : Refresher ρ)
    (d : ρ) {ids : List EnvironmentId} (request : Request) {j : EnvironmentId} (hj : j ∉ ids) :
    (Relations.assign v r ids request (db, d)).2.1.environments.get? j =
      db.environments.get? j := by
  -- That records lie under their own ids is needed again for every environment of the batch.
  have hupdate : ∀ v, ∀ id ∈ ids, ∀ u,
      Maintains (db.TextKept j) (fun _ => True) (applyUpdate v id u) := by
    rintro v id hid u db' ⟨hown', hsame⟩
    refine ⟨⟨?_, ?_⟩, fun _ _ => trivial⟩
    · have hkept := Shelf.applyUpdate_maintains (List.mem_singleton_self id) v u db'.shelf
      have hshelf := (hkept db'.shelf ⟨hown', rfl⟩).1.1
      rwa [storeMap.applyUpdate v id u db'] at hshelf
    · rw [applyUpdate_environments hown' v id u (by rintro rfl; exact hj hid), hsame]
  have hcreated : Maintains (db.TextKept j) (fun _ => True) (createNamed request) := by
    refine createNamed_maintains (fun name _ => ?_) (fun name _ => ?_)
    · refine addRecord_maintains fun db' t h => ⟨?_, h.2⟩
      rw [shelf_putTag]
      exact h.1.putTag t
    · refine addRecord_maintains fun db' g h => ⟨?_, h.2⟩
      rw [shelf_putEdgeGroup]
      exact h.1.putEdgeGroup g
  have hassign : Maintains (fun t : Database × ρ => db.TextKept j t.1) (fun _ => True)
      (Relations.assign v r ids request) :=
    (onStore_maintains hcreated).bind fun resolved =>
      assignEach_maintains (fun _ => query_maintains _) (query_maintains _) hupdate v r resolved
  exact (hassign (db, d) ⟨hown, rfl⟩).1.2

end Database

/-! ## Section 5: Both stores -/

/-- Whatever it comes to, an update or a request spares all other environments: on every store in
memory, and inside a transaction of every database whose records lie under their own ids.  In a
database the texts of other environments stay as they are. -/
theorem Relations.spares_others :
    (∀ s : MemoryStore, Considerate MemoryStore.shelf s) ∧
    ∀ db : Database, db.Own → Considerate Database.shelf db ∧
      ∀ {ρ : Type} (r : Refresher ρ) (d : ρ),
        (∀ v id u j, j ≠ id →
          (update v r id u (db, d)).2.1.environments.get? j = db.environments.get? j) ∧
        ∀ v ids request j, j ∉ ids →
          (assign v r ids request (db, d)).2.1.environments.get? j = db.environments.get? j := by
  refine ⟨fun s => .of_storeMap MemoryStore.storeMap s.own_shelf, fun db hown => ⟨?_, ?_⟩⟩
  · exact .of_storeMap Database.storeMap hown.shelf
  · intro ρ r d
    refine ⟨fun v id u j hj => ?_, fun v ids request j hj => ?_⟩
    · rw [update_store]
      exact Database.applyUpdate_environments hown.shelf v id u hj
    · exact Database.assign_environments hown.shelf v r d request hj

/-- Exchanging a tag for one that does not decode. -/
theorem Relations.spares_others_damaged : Database.damaged.Own ∧
    Spares [1] Database.damaged.shelf Database.damaged.shelf
      (update .ascending Refresher.silent 1 { tags := some [9] } (Database.damaged, ())).2.1.shelf ∧
    ∀ j, j ≠ 1 → (update .ascending Refresher.silent 1 { tags := some [9] }
      (Database.damaged, ())).2.1.environments.get? j = Database.damaged.environments.get? j := by
  obtain ⟨hconsiderate, htexts⟩ := Relations.spares_others.2 Database.damaged Database.damaged_own
  exact ⟨Database.damaged_own,
    hconsiderate.update .ascending Refresher.silent () 1 { tags := some [9] },
    (htexts Refresher.silent ()).1 .ascending 1 { tags := some [9] }⟩

end EnvRegistry

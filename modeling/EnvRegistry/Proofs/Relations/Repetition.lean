import EnvRegistry.Proofs.Database.Agreement
import EnvRegistry.Proofs.Database.Commit
import EnvRegistry.Proofs.Relations.Frame

/-! # An update that is made again

    An update that was carried out, or of which only the telling of those
    downstream failed, changes nothing when it is made again
    (`update_repeats`): it reports no change, writes nothing, and tells no one.
    So a refresh that was lost is not made up for by repeating the update.

    The invariant is `Fulfilled`: the records are as the update wants them.  They
    are so after an update that changed something, and they were so before an
    update that changed nothing. -/

namespace EnvRegistry.Relations

/-! ## Section 1: Model -/

/-- The records are as the update wants them for the environment `id`. -/
def Fulfilled (R : Records) (u : Update) (id : EnvironmentId) : Prop :=
  ∃ e, R.environments.get? id = some e ∧ ¬ Blocked R u e ∧ u.outcomeOn R.shelf e = {}

/-- The update succeeded, or failed only because those downstream did. -/
def Completed (result : Except RegistryError Outcome) (calls : List Refresher.Call) : Prop :=
  (∃ o, result = .ok o) ∨ ∃ err, result = .error err ∧ ∃ c ∈ calls, c.2 = .error err

/-! ## Section 2: Records that are as an update wants them -/

section Fulfilled

variable {R : Records} {u : Update} {e : Environment}

/-- After an update that changed something, the records are as it wants them. -/
theorem fulfilled_updated (honce : ∀ group ∈ R.edgeGroups.values, group.members.count e.id ≤ 1)
    (hfree : ¬ Blocked R u e) : Fulfilled (R.updated u e) u e.id := by
  have hstored : (R.updated u e).environments.get? e.id = some (u.applyTo e) :=
    (Table.get?_insert _ _ _ _).trans (if_pos rfl)
  have htags : (u.applyTo e).tagIds = u.tags.getD e.tagIds := rfl
  refine ⟨u.applyTo e, hstored, ?_, outcomeOn_eq_default ?_⟩
  · rintro (⟨tags, hu, t, ht, -⟩ | ⟨groups, hu, g, hg, hnew, -⟩)
    · -- The environment wears the tags that are asked for.
      rw [htags, hu, Option.getD_some] at ht
      exact ht.elim (fun h => h.2 h.1) fun h => h.2 h.1
    · rw [Update.applyTo_id, memberships_updated honce hfree hu, mem_ofList_ids] at hnew
      exact hnew hg
  · have hgroups : (u.edgeGroupDelta
        ((R.updated u e).shelf.memberships (u.applyTo e).id)).isEmpty = true := by
      rw [Records.memberships_shelf, Update.applyTo_id]
      unfold Update.edgeGroupDelta
      cases hu : u.edgeGroups with
      | none => rfl
      | some groups =>
        rw [memberships_updated honce hfree hu, Delta.isEmpty_between]
        exact decide_eq_true rfl
    unfold Update.outcomeOn Update.outcome Outcome.of
    simp only [u.applyTo_applyTo, u.tagDelta_applyTo, hgroups, ne_eq, not_true_eq_false,
      decide_false, Bool.not_true, Bool.or_false]

/-- Before an update that changes nothing, the records were as it wants them. -/
theorem fulfilled_unchanged {id : EnvironmentId} (he : R.environments.get? id = some e)
    (hfree : ¬ Blocked R u e) (ho : (u.outcomeOn R.shelf e).changed = false) : Fulfilled R u id :=
  ⟨e, he, hfree, outcomeOn_eq_default ho⟩

end Fulfilled

/-! ## Section 3: Every store -/

section EveryStore

variable {σ ρ : Type} [RelationStore σ] {φ : σ → Shelf} {s s' : σ} {R : Records}
  {id : EnvironmentId} {u : Update}

/-- An update that the store carries out leaves the records as it wants them. -/
theorem applyUpdate_fulfils (hφ : StoreMap φ) (hs : φ s = R.shelf)
    (honce : ∀ group ∈ R.edgeGroups.values, group.members.count id ≤ 1) {v : Visiting}
    {after : Outcome × Environment} (h : applyUpdate v id u s = (.ok after, s')) :
    ∃ R', φ s' = R'.shelf ∧ Fulfilled R' u id := by
  rcases applyUpdate_records hφ hs v id u with
    ⟨-, s₁, -, hrun⟩ | ⟨e, he, ⟨-, err, s₁, -, hrun⟩ | ⟨hfree, s₁, hs₁, hrun⟩⟩
  · rw [hrun] at h
    cases h
  · rw [hrun] at h
    cases h
  · rw [hrun] at h
    cases h
    cases ho : (u.outcomeOn R.shelf e).changed with
    | false =>
      rw [ho] at hs₁
      exact ⟨R, hs₁, fulfilled_unchanged he hfree ho⟩
    | true =>
      rw [ho] at hs₁
      have hid : e.id = id := R.environmentsKeyed id e he
      rw [← hid] at honce ⊢
      exact ⟨R.updated u e, hs₁, fulfilled_updated honce hfree⟩

/-- An update of records that are as it wants them changes nothing and tells no one. -/
theorem update_fulfilled (hφ : StoreMap φ) (hs : φ s = R.shelf) (h : Fulfilled R u id)
    (v : Visiting)
    (r : Refresher ρ) (d : ρ) : ∃ s', update v r id u (s, d) = (.ok {}, (s', d)) := by
  obtain ⟨e, he, hfree, houtcome⟩ := h
  rcases applyUpdate_records hφ hs v id u with
    ⟨hnone, -⟩ | ⟨e', he', ⟨hblocked, -⟩ | ⟨-, s', -, hrun⟩⟩
  · rw [he] at hnone
    cases hnone
  · rw [he] at he'
    cases he'
    exact absurd hblocked hfree
  · rw [he] at he'
    cases he'
    rw [houtcome] at hrun
    exact ⟨s', update_unchanged hrun rfl⟩

/-- An update that failed only because those downstream did was carried out in the store. -/
theorem applyUpdate_of_completed {v : Visiting} {r : Refresher ρ} {d d' : ρ}
    {result : Except RegistryError Outcome} {calls : List Refresher.Call}
    (h : update v r.recorded id u (s, (d, [])) = (result, (s', (d', calls))))
    (hcompleted : Completed result calls) : ∃ after, applyUpdate v id u s = (.ok after, s') := by
  have hstore := update_store v r.recorded id u s (d, [])
  rcases hrun : applyUpdate v id u s with ⟨err | after, s₁⟩
  · -- The store failed, so no one was told anything.
    rw [update_error hrun] at h
    cases h
    rcases hcompleted with ⟨_, h⟩ | ⟨_, -, c, hc, -⟩
    · cases h
    · cases hc
  · rw [h, hrun] at hstore
    exact ⟨after, congrArg (Prod.mk _) hstore.symm⟩

end EveryStore

/-! ## Section 4: Both stores -/

section Stores

variable {ρ : Type} {R : Records} {id : EnvironmentId} {u : Update}

/-- Reading an environment only counts a read. -/
theorem environment_onlyReads (s : MemoryStore) (id : EnvironmentId) :
    Maintains (fun t : MemoryStore => ∃ n, t = { s with reads := n }) (fun _ => True)
      (RelationStore.environment id) := by
  rintro _ ⟨n, rfl⟩
  refine ⟨⟨n + 1, ?_⟩, fun _ _ => trivial⟩
  show (MemoryStore.readRecord _ _ _ _).2 = _
  rw [MemoryStore.readRecord_apply]
  rfl

/-- Listing the edge groups only counts a read. -/
theorem edgeGroups_onlyReads (s : MemoryStore) :
    Maintains (fun t : MemoryStore => ∃ n, t = { s with reads := n }) (fun _ => True)
      RelationStore.edgeGroups := by
  rintro _ ⟨n, rfl⟩
  refine ⟨⟨n + 1, ?_⟩, fun _ _ => trivial⟩
  rw [MemoryStore.edgeGroups_state]
  rfl

/-- On a store in memory, an update of records that are as it wants them only counts reads. -/
theorem update_fulfilled_memory {s : MemoryStore} (hs : s.Holds R) (h : Fulfilled R u id)
    (v : Visiting) (r : Refresher ρ) (d : ρ) :
    ∃ s', update v r id u (s, d) = (.ok {}, (s', d)) ∧ s' = { s with reads := s'.reads } := by
  obtain ⟨s', hrun⟩ := update_fulfilled MemoryStore.storeMap hs h v r d
  obtain ⟨n, rfl⟩ := update_reads (environment_onlyReads s) (edgeGroups_onlyReads s) hrun rfl
    ⟨s.reads, rfl⟩
  exact ⟨_, hrun, rfl⟩

/-- A query neither changes the database nor counts a write. -/
theorem query_onlyReads {α : Type} (db : Database) (writes : Nat)
    (f : Database → Except RegistryError α) :
    Maintains (fun c : Counted Database => c.store = db ∧ c.writes = writes) (fun _ => True)
      (Counted.reading (Database.query f)) :=
  Counted.reading_maintains (P := (· = db)) (Database.query_maintains f) writes

/-- In a database, an update of records that are as it wants them writes nothing. -/
theorem update_fulfilled_database {db : Database} (hdb : db.Holds R) (h : Fulfilled R u id)
    (v : Visiting) (r : Refresher ρ) (d : ρ) :
    update v r id u (db, d) = (.ok {}, (db, d)) ∧ ∀ reads writes,
      (update v r id u (({ store := db, reads, writes } : Counted Database), d)).2.1.writes =
        writes := by
  obtain ⟨db', hrun⟩ := update_fulfilled Database.storeMap hdb h v r d
  obtain rfl : db = db' := update_ok_unchanged hrun rfl
  refine ⟨hrun, fun reads writes => ?_⟩
  have hstart : (Database.shelf ∘ Counted.store) { store := db, reads, writes } = R.shelf := hdb
  obtain ⟨c, hcounted⟩ :=
    update_fulfilled (Counted.storeMap.comp Database.storeMap) hstart h v r d
  obtain ⟨-, hwrites⟩ := update_reads (fun _ => query_onlyReads db writes _)
    (query_onlyReads db writes _) hcounted rfl ⟨rfl, rfl⟩
  rw [hcounted]
  exact hwrites

/-- A call to a database that succeeds, or fails only because those downstream did, keeps what the
update wrote. -/
theorem applyUpdate_of_call {db db₁ : Database} (hdb : db.Holds R) {v : Visiting} {r : Refresher ρ}
    {d d₁ : ρ} {result : Except RegistryError Outcome}
    (h : Database.update v r id u (db, d) = (result, (db₁, d₁)))
    (hresult : (∃ o, result = .ok o) ∨ ∃ text, result = .error (.refresh text)) :
    ∃ after, applyUpdate v id u db = (.ok after, db₁) := by
  unfold Database.update at h
  rcases happlied : applyUpdate v id u db with ⟨err | ⟨o, e⟩, db'⟩
  · -- The transaction failed in the store, which raises no refresh errors.
    have herr : err.OfStore := by
      rcases applyUpdate_records Database.storeMap hdb v id u with
        ⟨-, _, -, hrun⟩ | ⟨_, -, ⟨-, _, _, herr, hrun⟩ | ⟨-, _, -, hrun⟩⟩
      · rw [happlied] at hrun
        cases hrun
        trivial
      · rw [happlied] at hrun
        cases hrun
        exact herr
      · rw [happlied] at hrun
        cases hrun
    rw [Database.committing_error (update_error happlied)] at h
    cases h
    rcases hresult with ⟨_, hok⟩ | ⟨text, hrefresh⟩
    · cases hok
    · cases hrefresh
      exact absurd rfl (herr.ne_refresh text)
  · have hinner : ∃ queue, update v Refresher.enqueue id u (db, []) = (.ok o, (db', queue)) := by
      cases ho : o.changed with
      | false => exact ⟨_, update_unchanged happlied ho⟩
      | true => exact ⟨_, update_changed happlied ho⟩
    obtain ⟨queue, hinner⟩ := hinner
    rcases hflush : Refresher.flush r queue d with ⟨flushed, d'⟩
    rw [Database.committing, hinner] at h
    simp only [hflush] at h
    cases h
    exact ⟨_, rfl⟩

end Stores

/-- An update that was carried out, or of which only the telling of those downstream failed, changes
nothing, writes nothing and tells no one when it is made again, for any records of which no edge
group lists the environment twice: on a store in memory that rejects nothing, inside a transaction
of a database, and as two calls to a database. -/
theorem update_repeats {ρ : Type} (R : Records) (id : EnvironmentId)
    (honce : ∀ group ∈ R.edgeGroups.values, group.members.count id ≤ 1) (v : Visiting)
    (r : Refresher ρ) (d d₁ : ρ) (u : Update) (result : Except RegistryError Outcome) :
    (∀ (s s₁ : MemoryStore) calls, s.Holds R →
      update v r.recorded id u (s, (d, [])) = (result, (s₁, (d₁, calls))) → Completed result calls →
      ∀ {ρ' : Type} (v' : Visiting) (r' : Refresher ρ') (d' : ρ'), ∃ s₂,
        update v' r'.recorded id u (s₁, (d', [])) =
          (.ok ⟨false, false, false, false⟩, (s₂, (d', []))) ∧
        s₂ = { s₁ with reads := s₂.reads }) ∧
    (∀ (db db₁ : Database) calls, db.Holds R →
      update v r.recorded id u (db, (d, [])) = (result, (db₁, (d₁, calls))) →
      Completed result calls →
      ∀ {ρ' : Type} (v' : Visiting) (r' : Refresher ρ') (d' : ρ'),
        update v' r'.recorded id u (db₁, (d', [])) =
          (.ok ⟨false, false, false, false⟩, (db₁, (d', []))) ∧
        ∀ reads writes, (update v' r'.recorded id u
          (({ store := db₁, reads, writes } : Counted Database), (d', []))).2.1.writes = writes) ∧
    ∀ (db db₁ : Database), db.Holds R → Database.update v r id u (db, d) = (result, (db₁, d₁)) →
      ((∃ o, result = .ok o) ∨ ∃ text, result = .error (.refresh text)) →
      ∀ {ρ' : Type} (v' : Visiting) (r' : Refresher ρ') (d' : ρ'),
        Database.update v' r'.recorded id u (db₁, (d', [])) =
          (.ok ⟨false, false, false, false⟩, (db₁, (d', []))) ∧
        ∀ reads writes, (update v' Refresher.enqueue id u
          (({ store := db₁, reads, writes } : Counted Database), [])).2.1.writes = writes := by
  -- On each kind of store the first run leaves the update fulfilled; then nothing is left to do.
  refine ⟨?_, ?_, ?_⟩
  · intro s s₁ calls hs hrun hcompleted ρ' v' r' d'
    obtain ⟨after, happlied⟩ := applyUpdate_of_completed hrun hcompleted
    obtain ⟨R', hs₁, hfulfilled⟩ := applyUpdate_fulfils MemoryStore.storeMap hs honce happlied
    exact update_fulfilled_memory hs₁ hfulfilled v' r'.recorded (d', [])
  · intro db db₁ calls hdb hrun hcompleted ρ' v' r' d'
    obtain ⟨after, happlied⟩ := applyUpdate_of_completed hrun hcompleted
    obtain ⟨R', hdb₁, hfulfilled⟩ := applyUpdate_fulfils Database.storeMap hdb honce happlied
    exact update_fulfilled_database hdb₁ hfulfilled v' r'.recorded (d', [])
  · intro db db₁ hdb hrun hcompleted ρ' v' r' d'
    obtain ⟨after, happlied⟩ := applyUpdate_of_call hdb hrun hcompleted
    obtain ⟨R', hdb₁, hfulfilled⟩ := applyUpdate_fulfils Database.storeMap hdb honce happlied
    obtain ⟨hagain, hwrites⟩ := update_fulfilled_database hdb₁ hfulfilled v' Refresher.enqueue []
    exact ⟨Database.committing_ok hagain r' d', hwrites⟩

/-- Those downstream cannot be reached. -/
def unreachable : Refresher Unit := fun _ d => (.error (.refresh "unreachable"), d)

/-- An update that clears the edge groups in vain for those downstream, and then again. -/
theorem update_repeats_unreachable :
    (∃ s₁ s₂, update .ascending unreachable.recorded 1 { edgeGroups := some [] }
        (sampleStore, ((), [])) = (.error (.refresh "unreachable"), (s₁, ((),
          [({ id := 1, name := "a", tagIds := [1] }, .error (.refresh "unreachable"))]))) ∧
      update .ascending Refresher.silent.recorded 1 { edgeGroups := some [] } (s₁, ((), [])) =
        (.ok ⟨false, false, false, false⟩, (s₂, ((), []))) ∧ s₂ = { s₁ with reads := s₂.reads }) ∧
    (∃ db₁ calls, update .ascending unreachable.recorded 1 { edgeGroups := some [] }
        (sampleDatabase, ((), [])) = (.error (.refresh "unreachable"), (db₁, ((), calls))) ∧
      update .ascending Refresher.silent.recorded 1 { edgeGroups := some [] } (db₁, ((), [])) =
        (.ok ⟨false, false, false, false⟩, (db₁, ((), [])))) ∧
    ∃ db₁, Database.update .ascending unreachable 1 { edgeGroups := some [] } (sampleDatabase, ()) =
        (.error (.refresh "unreachable"), (db₁, ())) ∧
      Database.update .ascending Refresher.silent.recorded 1 { edgeGroups := some [] }
        (db₁, ((), [])) = (.ok ⟨false, false, false, false⟩, (db₁, ((), []))) := by
  have honce : ∀ group ∈ sample.edgeGroups.values, group.members.count 1 ≤ 1 := by decide
  have hcall : Completed (.error (.refresh "unreachable"))
      [({ id := 1, name := "a", tagIds := [1] }, .error (.refresh "unreachable"))] :=
    .inr ⟨_, rfl, _, List.mem_singleton_self _, rfl⟩
  obtain ⟨hmemory, hinside, hcalls⟩ := update_repeats sample 1 honce .ascending unreachable () ()
    { edgeGroups := some [] } (.error (.refresh "unreachable"))
  refine ⟨?_, ?_, ?_⟩
  · obtain ⟨s₂, hagain, hs₂⟩ := hmemory sampleStore _ _ rfl rfl hcall .ascending .silent ()
    exact ⟨_, s₂, rfl, hagain, hs₂⟩
  · obtain ⟨db₁, hrun⟩ := Database.run_eq_memory (s := sampleStore) sampleDatabase_holds rfl
      (.update .ascending unreachable.recorded 1 { edgeGroups := some [] }) ((), [])
    exact ⟨db₁, _, hrun,
      (hinside sampleDatabase db₁ _ sampleDatabase_holds hrun hcall .ascending .silent ()).1⟩
  · obtain ⟨db₁, hrun⟩ := Database.run_eq_memory (s := sampleStore) sampleDatabase_holds rfl
      (.update .ascending Refresher.enqueue 1 { edgeGroups := some [] }) []
    have hcalled : Database.update .ascending unreachable 1 { edgeGroups := some [] }
        (sampleDatabase, ()) = (.error (.refresh "unreachable"), (db₁, ())) := by
      have hinner : update .ascending Refresher.enqueue 1 { edgeGroups := some [] }
        (sampleDatabase, []) = _ := hrun
      rw [Database.update, Database.committing, hinner]
      rfl
    exact ⟨db₁, hcalled, (hcalls sampleDatabase db₁ sampleDatabase_holds hcalled
      (.inr ⟨_, rfl⟩) .ascending .silent ()).1⟩

end EnvRegistry.Relations

import EnvRegistry.Proofs.Relations.Batch
import EnvRegistry.Proofs.Store.Views

/-! # Inside a transaction

    What the operations on relations do to a database whose records lie under
    their own ids, seen through what the database answers when an environment
    is read.  Inside a transaction those downstream are a queue, so an update
    that changes something puts the environment at the end of the queue
    (`update_enqueue_cases`). -/

namespace EnvRegistry

namespace Database

open Relations

/-! ## Section 1: Updates -/

variable {db : Database} {id : EnvironmentId}

/-- Reading an environment after an update of one of them. -/
theorem look_updated (u : Update) (s : Shelf) (e : Environment) (j : EnvironmentId)
    (hread : (.environment, j) ∉ s.failingReads) :
    Rack.environments.look (s.updated u e) j =
      if j = e.id ∧ (u.outcomeOn s e).changed = true then .ok (u.applyTo e)
      else Rack.environments.look s j := by
  cases ho : (u.outcomeOn s e).changed with
  | false =>
    rw [updated_unchanged ho, if_neg fun h => Bool.false_ne_true h.2]
  | true =>
    simp only [Shelf.updated, ho, if_true, and_true]
    exact Rack.look_put _ hread

/-- An update inside a transaction fails in the store, or it changes what is read under its id and
puts that in the queue. -/
theorem update_enqueue_cases (hown : db.shelf.Own) (v : Visiting) (id : EnvironmentId) (u : Update)
    (queue : List Environment) :
    (∃ err db', RegistryError.OfStore err ∧
        Relations.update v Refresher.enqueue id u (db, queue) = (.error err, (db', queue))) ∨
      ∃ e o db', db.environment id = .ok e ∧ e.id = id ∧ db'.shelf.Own ∧
        (∀ j, db'.environment j =
          if j = id ∧ Outcome.changed o = true then .ok (u.applyTo e) else db.environment j) ∧
        Relations.update v Refresher.enqueue id u (db, queue) =
          (.ok o, (db', if Outcome.changed o = true then queue ++ [u.applyTo e] else queue)) := by
  -- The update is followed on the shelf, where all that it may come to is known.
  have hcommutes := storeMap.applyUpdate v id u db
  rcases hrun : applyUpdate v id u db with ⟨result, db'⟩
  rw [hrun] at hcommutes
  rcases applyUpdate_cases hown v id u with
    ⟨err, hread, hshelf⟩ | ⟨e, hread, ⟨_, hshelf⟩ | ⟨_, _, _, err, _, _, _, herr, hshelf⟩⟩
  · rw [hshelf] at hcommutes
    obtain ⟨hresult, -⟩ : .error err = result ∧ _ = db'.shelf := Prod.mk.inj hcommutes
    rw [← hresult] at hrun
    exact .inl ⟨err, db', Rack.look_error hread, update_error hrun⟩
  · rw [hshelf] at hcommutes
    obtain ⟨hresult, hdb'⟩ : .ok (u.outcomeOn db.shelf e, u.applyTo e) = result ∧
      db.shelf.updated u e = db'.shelf := Prod.mk.inj hcommutes
    have hid : e.id = id := hown.environments id e (Rack.look_ok.mp hread).2
    rw [← hresult] at hrun
    refine .inr ⟨e, u.outcomeOn db.shelf e, db', ?_, hid, ?_, fun j => ?_, ?_⟩
    · rw [environment_eq, hread]
    · rw [← hdb']
      exact hown.updated u e
    · rw [environment_eq, ← hdb', look_updated u db.shelf e j List.not_mem_nil, hid, environment_eq]
    · cases ho : (u.outcomeOn db.shelf e).changed with
      | false => exact update_unchanged hrun ho
      | true => exact update_changed hrun ho
  · rw [hshelf] at hcommutes
    obtain ⟨hresult, -⟩ : .error err = result ∧ _ = db'.shelf := Prod.mk.inj hcommutes
    rw [← hresult] at hrun
    exact .inl ⟨err, db', herr, update_error hrun⟩

/-! ## Section 2: Reading before planning -/

theorem environmentEdgeGroups_apply (db : Database) (id : EnvironmentId) :
    (Relations.environmentEdgeGroups id : StoreM Database (KeySet EdgeGroupId)) db =
      (db.shelf.scan.map fun groups => memberships groups id, db) := by
  have hscan : (RelationStore.edgeGroups : StoreM Database _) db = (db.shelf.scan, db) :=
    congrArg (Prod.mk · db) (scan_shelf db).symm
  cases hresult : db.shelf.scan with
  | error err =>
    rw [hresult] at hscan
    exact StoreM.bind_error hscan
  | ok groups =>
    rw [hresult] at hscan
    exact StoreM.bind_ok hscan

/-! ## Section 3: Creating named records -/

/-- What holds after every new record holds after all that a request names are created. -/
theorem createNamed_cases {P : Shelf → Prop}
    (htag : ∀ s id name, P s → nextId s.tags.lastId? = .ok id → P (Rack.tags.put { id, name } s))
    (hgroup : ∀ s id name, P s → nextId s.edgeGroups.lastId? = .ok id →
      P (Rack.edgeGroups.put { id, name } s)) (request : Request)
    {db : Database} (hdb : P db.shelf) :
    (∃ err db', RegistryError.OfStore err ∧ createNamed request db = (.error err, db')) ∨
      ∃ resolved db', P (shelf db') ∧ createNamed request db = (.ok resolved, db') := by
  have htag' : ∀ name ∈ request.createTags,
      Maintains P RegistryError.OfStore (RelationStore.createTag name) :=
    fun name _ => add_maintains (k := .tags) fun s id => htag s id name
  have hgroup' : ∀ name ∈ request.createEdgeGroups,
      Maintains P RegistryError.OfStore (RelationStore.createEdgeGroup name) :=
    fun name _ => add_maintains (k := .edgeGroups) fun s id => hgroup s id name
  obtain ⟨hP, hfails⟩ := createNamed_maintains htag' hgroup' db.shelf hdb
  rw [storeMap.createNamed request db] at hP hfails
  rcases hrun : createNamed request db with ⟨err | resolved, db'⟩
  · rw [hrun] at hfails
    exact .inl ⟨err, db', hfails err rfl, rfl⟩
  · rw [hrun] at hP
    exact .inr ⟨resolved, db', hP, rfl⟩

end Database

end EnvRegistry

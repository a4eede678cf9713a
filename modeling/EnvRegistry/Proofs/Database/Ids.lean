import EnvRegistry.Proofs.Database.Consistency
import EnvRegistry.Proofs.Relations.Frame
import EnvRegistry.Proofs.Relations.Invariant
import EnvRegistry.Proofs.Table.Dense

/-! # How ids are given out

    In a database that starts out empty, the ids of every table are the numbers
    from one on, and every record lies under its own id.  A record that is
    created gets the number after the last one, and no number that was once kept
    is given out again (`ids_in_sequence`).  This is so after every operation,
    and at every moment inside a transaction, whatever its steps are, whichever
    of them fail and whether it is kept in the end.

    The invariant is `Follows`: the database has its ids in sequence, and they
    continue those of an earlier one.  Reading keeps it, and so do the two ways
    of writing.  A record is written over one that is there, under the id that it
    carries by then, or it is written under the next id; an id that a mutation
    has changed can lead into the place of another record, but not past the last
    one. -/

namespace EnvRegistry.Database

open Relations

variable {ρ β : Type}

/-! ## Section 1: Model -/

/-- What is done inside a transaction, up to its result.  What comes next may depend on all answers,
and a step that fails need not be the last. -/
inductive Script (ρ β : Type) : Type 1 where
  | finish (result : Except RegistryError β)
  | createEnvironment (name : String) (group : Option GroupId) (tags : List TagId)
      (rest : Except RegistryError Environment → Script ρ β)
  | next {α : Type} (a : Relations.Operation ρ α) (rest : Except RegistryError α → Script ρ β)

namespace Script

/-- Carries out the steps one after the other. -/
def run : Script ρ β → RunM Database ρ β
  | .finish result, t => (result, t)
  | .createEnvironment name group tags rest, t =>
    let m : RunM Database ρ Environment := onStore (insertEnvironment name group tags)
    (rest (m t).1).run (m t).2
  | .next a rest, t => (rest (a.run t).1).run (a.run t).2

/-- What there is before the first step and after each one. -/
def states : Script ρ β → Database × ρ → List (Database × ρ)
  | .finish _, t => [t]
  | .createEnvironment name group tags rest, t =>
    let m : RunM Database ρ Environment := onStore (insertEnvironment name group tags)
    t :: (rest (m t).1).states (m t).2
  | .next a rest, t => t :: (rest (a.run t).1).states (a.run t).2

end Script

/-- An operation on a database. -/
inductive Action (ρ : Type) : Type 1 where
  | call (s : Step ρ)
  /-- A transaction, which is kept if its result is no error. -/
  | transaction {β : Type} (c : Script ρ β)
  /-- Closing and opening again, which is a transaction that writes nothing. -/
  | reopen

/-- What an operation leaves, whether it fails or not. -/
def Action.run : Action ρ → Database × ρ → Database × ρ
  | .call s, t => s.call t
  | .transaction c, t => (atomically c.run t).2
  | .reopen, t => (atomically (return () : RunM Database ρ Unit) t).2

/-- What some operations leave, one after the other. -/
def afterActions (history : List (Action ρ)) (t : Database × ρ) : Database × ρ :=
  history.foldl (fun t a => a.run t) t

/-- Every record lies under its own id, and the ids of every table are the numbers from one on. -/
structure Numbered (db : Database) : Prop where
  legible : db.Legible
  environments : db.environments.Dense
  tags : db.tags.Dense
  edgeGroups : db.edgeGroups.Dense

/-- The lists of all records go through the ids in order. -/
structure ListsInOrder (db : Database) : Prop where
  environments : ∃ l, db.allEnvironments = .ok l ∧
    l.map (·.id.toNat) = List.range' 1 db.environments.ids.length
  tags : ∃ l, db.allTags = .ok l ∧ l.map (·.id.toNat) = List.range' 1 db.tags.ids.length
  edgeGroups : ∃ l, db.allEdgeGroups = .ok l ∧
    l.map (·.id.toNat) = List.range' 1 db.edgeGroups.ids.length

/-- Every table of `db` has the ids that it had in `old`, and maybe more after them. -/
structure Continues (old db : Database) : Prop where
  environments : old.environments.ids <+: db.environments.ids
  tags : old.tags.ids <+: db.tags.ids
  edgeGroups : old.edgeGroups.ids <+: db.edgeGroups.ids

/-- The ways in which single records are created. -/
structure Creation where
  environment : String → Option GroupId → List TagId → StoreM Database Environment
  tag : String → StoreM Database Tag
  edgeGroup : String → StoreM Database EdgeGroup

/-- Records are created by a step inside a transaction. -/
def Creation.inside : Creation :=
  ⟨insertEnvironment, RelationStore.createTag, RelationStore.createEdgeGroup⟩

/-- Records are created in a transaction of their own. -/
def Creation.call : Creation :=
  ⟨Database.createEnvironment, Database.createTag, Database.createEdgeGroup⟩

/-- The tables have the same ids. -/
def SameIds (db db' : Database) : Prop :=
  db'.environments.ids = db.environments.ids ∧ db'.tags.ids = db.tags.ids ∧
    db'.edgeGroups.ids = db.edgeGroups.ids

/-- A table `t'` has one more id than the table `t`.  It is the number after the last one, and none
of the ids that the earlier table `old` had. -/
structure Gains (id : UInt32) (old t t' : Table String) : Prop where
  ids : t'.ids = t.ids ++ [id]
  next : id.toNat = t.ids.length + 1
  unused : id ∉ old.ids

/-- What creating a record comes to in a database that comes after `old`. -/
structure Allocates (c : Creation) (old db : Database) : Prop where
  /-- A new environment gets the next id, and no other table gets one. -/
  environment : ∀ name group tags e db', c.environment name group tags db = (.ok e, db') →
    Gains e.id old.environments db.environments db'.environments ∧
      db'.tags.ids = db.tags.ids ∧ db'.edgeGroups.ids = db.edgeGroups.ids
  /-- An environment that cannot be created takes no id. -/
  environment_fails : ∀ name group tags err db',
    c.environment name group tags db = (.error err, db') → SameIds db db'
  /-- A new tag gets the next id, unless there are no more. -/
  tag : ∀ name, (∃ t db', c.tag name db = (.ok t, db') ∧ Gains t.id old.tags db.tags db'.tags ∧
      db'.environments.ids = db.environments.ids ∧ db'.edgeGroups.ids = db.edgeGroups.ids) ∨
    db.tags.ids.length = 4294967295 ∧ c.tag name db = (.error (.persistence .idsExhausted), db)
  /-- A new edge group gets the next id, unless there are no more. -/
  edgeGroup : ∀ name, (∃ g db', c.edgeGroup name db = (.ok g, db') ∧
      Gains g.id old.edgeGroups db.edgeGroups db'.edgeGroups ∧
      db'.environments.ids = db.environments.ids ∧ db'.tags.ids = db.tags.ids) ∨
    db.edgeGroups.ids.length = 4294967295 ∧
      c.edgeGroup name db = (.error (.persistence .idsExhausted), db)

/-- What is true of the ids of a database that comes after `old`. -/
structure InSequence (c : Creation) (old db : Database) : Prop where
  numbered : Numbered db
  lists : ListsInOrder db
  continues : Continues old db
  allocates : Allocates c old db

/-- With the greatest id taken nothing is created. -/
structure Exhausts (c : Creation) (db : Database) : Prop where
  environment : db.environments.lastId? = some 4294967295 → ∀ name group tags,
    c.environment name group tags db = (.error (.persistence .idsExhausted), db)
  tag : db.tags.lastId? = some 4294967295 → ∀ name,
    c.tag name db = (.error (.persistence .idsExhausted), db)
  edgeGroup : db.edgeGroups.lastId? = some 4294967295 → ∀ name,
    c.edgeGroup name db = (.error (.persistence .idsExhausted), db)

/-- The database has its ids in sequence, and they continue those of `old`. -/
structure Follows (old db : Database) : Prop where
  numbered : Numbered db
  continues : Continues old db

/-! ## Section 2: Writing a record -/

section Writing

variable {old db : Database}

theorem numbered_empty : Numbered {} :=
  ⟨legible_iff.mpr ⟨{}, holds_empty⟩, Table.dense_empty, Table.dense_empty, Table.dense_empty⟩

theorem Continues.refl (db : Database) : Continues db db :=
  ⟨List.prefix_rfl, List.prefix_rfl, List.prefix_rfl⟩

theorem Continues.trans {db' : Database} (h : Continues old db) (h' : Continues db db') :
    Continues old db' :=
  ⟨h.environments.trans h'.environments, h.tags.trans h'.tags, h.edgeGroups.trans h'.edgeGroups⟩

namespace Follows

variable (h : Follows old db)

include h

theorem putEnvironment {e : Environment} (he : db.environments.contains e.id = true ∨
    nextId db.environments.lastId? = .ok e.id) : Follows old (db.putEnvironment e) := by
  obtain ⟨R, hR⟩ := legible_iff.mp h.numbered.legible
  refine ⟨⟨legible_iff.mpr ⟨_, hR.putEnvironment e⟩, ?_, h.numbered.tags, h.numbered.edgeGroups⟩,
    h.continues.trans ⟨?_, List.prefix_rfl, List.prefix_rfl⟩⟩
  · exact h.numbered.environments.insert he _
  · exact Table.ids_prefix_insert he _

theorem putTag {t : Tag} (ht : db.tags.contains t.id = true ∨ nextId db.tags.lastId? = .ok t.id) :
    Follows old (db.putTag t) := by
  obtain ⟨R, hR⟩ := legible_iff.mp h.numbered.legible
  refine ⟨⟨legible_iff.mpr ⟨_, hR.putTag t⟩, h.numbered.environments, ?_, h.numbered.edgeGroups⟩,
    h.continues.trans ⟨List.prefix_rfl, ?_, List.prefix_rfl⟩⟩
  · exact h.numbered.tags.insert ht _
  · exact Table.ids_prefix_insert ht _

theorem putEdgeGroup {g : EdgeGroup} (hg : db.edgeGroups.contains g.id = true ∨
    nextId db.edgeGroups.lastId? = .ok g.id) : Follows old (db.putEdgeGroup g) := by
  obtain ⟨R, hR⟩ := legible_iff.mp h.numbered.legible
  refine ⟨⟨legible_iff.mpr ⟨_, hR.putEdgeGroup g⟩, h.numbered.environments, h.numbered.tags, ?_⟩,
    h.continues.trans ⟨List.prefix_rfl, List.prefix_rfl, ?_⟩⟩
  · exact h.numbered.edgeGroups.insert hg _
  · exact Table.ids_prefix_insert hg _

end Follows

end Writing

section Records

variable {α : Type} {P : Database → Prop} {table : Database → Table String}

/-- Writing over a record keeps what holds after every write to an id that is taken. -/
theorem replaceRecord_kept {kind : EntityKind} {id : UInt32} {put : Database → Database}
    (h : ∀ db, P db → (table db).contains id = true → P (put db)) :
    Maintains P (fun _ => True) (replaceRecord kind table id put) := by
  intro db hdb
  refine ⟨?_, fun _ _ => trivial⟩
  rw [replaceRecord, StoreM.bind_ok (StoreM.get_apply db)]
  by_cases hid : (table db).contains id = true
  · rw [if_pos hid]
    exact h db hdb hid
  · rw [if_neg hid]
    exact hdb

theorem addRecord_apply (make : UInt32 → α) (put : Database → α → Database) (db : Database) :
    addRecord table make put db = match nextId (table db).lastId? with
      | .ok id => (.ok (make id), put db (make id))
      | .error e => (.error e, db) := by
  have hquery : (query fun db => nextId (table db).lastId? : StoreM Database UInt32) db =
    (nextId (table db).lastId?, db) := rfl
  cases hid : nextId (table db).lastId? with
  | error e =>
    rw [hid] at hquery
    rw [addRecord, StoreM.bind_error hquery]
  | ok id =>
    rw [hid] at hquery
    rw [addRecord, StoreM.bind_ok hquery]
    rfl

/-- Adding a record keeps what holds after every write to the next id. -/
theorem addRecord_kept {make : UInt32 → α} {put : Database → α → Database}
    (h : ∀ db id, P db → nextId (table db).lastId? = .ok id → P (put db (make id))) :
    Maintains P (fun _ => True) (addRecord table make put) := by
  intro db hdb
  refine ⟨?_, fun _ _ => trivial⟩
  rw [addRecord_apply]
  cases hid : nextId (table db).lastId? with
  | error e => exact hdb
  | ok id => exact h db id hdb hid

end Records

/-! ## Section 3: Every step inside a transaction -/

section Inside

variable {old db : Database}

theorem mutateTag_kept {P : Database → Prop}
    (h : ∀ db t, P db → db.tags.contains t.id = true → P (db.putTag t)) (id : TagId)
    (f : Tag → Tag) : Maintains P (fun _ => True) (RelationStore.mutateTag id f) :=
  (query_maintains _).bind fun t => replaceRecord_kept fun db hdb hid => h db (f t) hdb hid

/-- No operation of the store leaves a gap, or takes an id away. -/
theorem follows_kept (old : Database) : Kept (Follows old) where
  environment _ := query_maintains _
  updateEnvironment _ := replaceRecord_kept fun _ h hid => h.putEnvironment (.inl hid)
  tag _ := query_maintains _
  updateTag _ := replaceRecord_kept fun _ h hid => h.putTag (.inl hid)
  edgeGroup _ := query_maintains _
  edgeGroups := query_maintains _
  updateEdgeGroup _ := replaceRecord_kept fun _ h hid => h.putEdgeGroup (.inl hid)
  createTag _ := addRecord_kept fun _ _ h hid => h.putTag (.inr hid)
  createEdgeGroup _ := addRecord_kept fun _ _ h hid => h.putEdgeGroup (.inr hid)

/-- Listing an environment in tags takes no id and touches nothing but tags. -/
theorem listInTags_follows (h : Follows old db) (id : EnvironmentId) (tags : List TagId) :
    Follows old (listInTags id tags db).2 ∧
      (listInTags id tags db).2.environments = db.environments ∧
      (listInTags id tags db).2.tags.ids = db.tags.ids ∧
      (listInTags id tags db).2.edgeGroups = db.edgeGroups := by
  rw [listInTags_eq]
  refine (visitAll_maintains (P := fun x => Follows old x ∧ x.environments = db.environments ∧
    x.tags.ids = db.tags.ids ∧ x.edgeGroups = db.edgeGroups) (Q := fun _ => True) (fun t => ?_) tags
    db ⟨h, rfl, rfl, rfl⟩).1
  refine mutateTag_kept (fun x t hx hid => ?_) t _
  obtain ⟨hfollows, henv, htags, hgroups⟩ := hx
  refine ⟨hfollows.putTag (.inl hid), henv, ?_, hgroups⟩
  exact (Table.ids_insert_of_contains hid _).trans htags

/-- A new environment is put under the id after the last one, and a failure takes no id. -/
theorem insertEnvironment_cases (h : Follows old db) (name : String) (group : Option GroupId)
    (tags : List TagId) :
    (∃ e db', insertEnvironment name group tags db = (.ok e, db') ∧ Follows old db' ∧
        nextId db.environments.lastId? = .ok e.id ∧
        db'.environments.ids = db.environments.ids ++ [e.id] ∧ db'.tags.ids = db.tags.ids ∧
        db'.edgeGroups.ids = db.edgeGroups.ids) ∨
      ∃ err db', insertEnvironment name group tags db = (.error err, db') ∧ Follows old db' ∧
        SameIds db db' := by
  rw [insertEnvironment_apply]
  cases hid : nextId db.environments.lastId? with
  | error err => exact .inr ⟨err, db, rfl, h, rfl, rfl, rfl⟩
  | ok id =>
    dsimp only
    have hlisted := listInTags_follows h id tags
    rcases hlist : listInTags id tags db with ⟨err | ⟨⟩, db₁⟩
    · rw [hlist] at hlisted
      obtain ⟨hfollows, henv, htags, hgroups⟩ := hlisted
      refine .inr ⟨err, db₁, rfl, hfollows, ?_, htags, ?_⟩
      · rw [henv]
      · rw [hgroups]
    · rw [hlist] at hlisted
      obtain ⟨hfollows, henv, htags, hgroups⟩ := hlisted
      -- The tags have been written meanwhile, but the next id is still the same.
      have hnext : nextId db₁.environments.lastId? = .ok id := by rw [henv, hid]
      refine .inl ⟨_, _, rfl, hfollows.putEnvironment (.inr hnext), rfl, ?_, htags, ?_⟩
      · rw [← henv]
        exact Table.ids_insert_nextId hnext _
      · rw [← hgroups]
        rfl

theorem insertEnvironment_follows (old : Database) (name : String) (group : Option GroupId)
    (tags : List TagId) :
      Maintains (Follows old) (fun _ => True) (insertEnvironment name group tags) := by
  intro db h
  refine ⟨?_, fun _ _ => trivial⟩
  rcases insertEnvironment_cases h name group tags with
    ⟨e, db', hrun, hfollows, -⟩ | ⟨err, db', hrun, hfollows, -⟩
  · rw [hrun]
    exact hfollows
  · rw [hrun]
    exact hfollows

/-- At every moment of a transaction the ids are in sequence and continue the earlier ones. -/
theorem Script.follows (c : Script ρ β) {t : Database × ρ} (h : Follows old t.1) :
    Follows old (c.run t).2.1 ∧ ∀ x ∈ c.states t, Follows old x.1 := by
  induction c generalizing t with
  | finish result =>
    refine ⟨h, fun x hx => ?_⟩
    rw [List.mem_singleton.mp hx]
    exact h
  | createEnvironment name group tags rest ih =>
    have hstep := onStore_maintains (ρ := ρ) (insertEnvironment_follows old name group tags) t h
    obtain ⟨hlast, hall⟩ := ih _ hstep.1
    refine ⟨hlast, fun x hx => ?_⟩
    rcases List.mem_cons.mp hx with rfl | hx
    · exact h
    · exact hall x hx
  | next a rest ih =>
    have hstep := (follows_kept old).operation a t h
    obtain ⟨hlast, hall⟩ := ih _ hstep.1
    refine ⟨hlast, fun x hx => ?_⟩
    rcases List.mem_cons.mp hx with rfl | hx
    · exact h
    · exact hall x hx

end Inside

/-! ## Section 4: Every operation -/

section Operations

variable {old : Database} {t : Database × ρ}

/-- A transaction is kept whole or discarded whole, so what its steps keep it keeps. -/
theorem Follows.atomically {α : Type} {m : RunM Database ρ α} (h : Follows old t.1)
    (hm : Follows old (m t).2.1) : Follows old (atomically m t).2.1 := by
  obtain ⟨db, d⟩ := t
  rcases hrun : m (db, d) with ⟨e | a, s⟩
  · rw [Database.atomically, hrun]
    exact h
  · rw [hrun] at hm
    rw [Database.atomically, hrun]
    exact hm

theorem Step.inside_follows (old : Database) (s : Step ρ) :
    Maintains (fun t : Database × ρ => Follows old t.1) (fun _ => True) s.inside := by
  have hkept := follows_kept old
  cases s with
  | createEnvironment name group tags =>
    exact (onStore_maintains (insertEnvironment_follows old name group tags)).bind fun _ => .pure ()
  | createTag name => exact (onStore_maintains (hkept.createTag name)).bind fun _ => .pure ()
  | createEdgeGroup name =>
    exact (onStore_maintains (hkept.createEdgeGroup name)).bind fun _ => .pure ()
  | update v r id u => exact (hkept.operation (.update v r id u)).bind fun _ => .pure ()
  | assign v r ids request =>
    exact (hkept.operation (.assign v r ids request)).bind fun _ => .pure ()

theorem Follows.run (a : Action ρ) (h : Follows old t.1) : Follows old (a.run t).1 := by
  cases a with
  | call s =>
    obtain ⟨ρ', s', d', hcall⟩ := s.call_database t
    show Follows old (s.call t).1
    rw [hcall]
    exact Follows.atomically (t := (t.1, d')) h (Step.inside_follows old s' (t.1, d') h).1
  | transaction c => exact h.atomically (c.follows h).1
  | reopen => exact h.atomically h

theorem Follows.afterActions (history : List (Action ρ)) (h : Follows old t.1) :
    Follows old (afterActions history t).1 := by
  induction history generalizing t with
  | nil => exact h
  | cons a rest ih => exact ih (h.run a)

end Operations

/-! ## Section 5: Creating records -/

section Creating

variable {old db : Database}

/-- The next id was not taken earlier either. -/
theorem Gains.of_nextId {t₀ t t' : Table String} {id : UInt32} (ht : t.Dense)
    (hold : t₀.ids <+: t.ids)
    (hid : nextId t.lastId? = .ok id) (hids : t'.ids = t.ids ++ [id]) : Gains id t₀ t t' where
  ids := hids
  next := ht.toNat_nextId hid
  unused hmem := absurd (Table.lt_nextId hid (hold.subset hmem)) (UInt32.lt_irrefl _)

/-- A record is added under the next id, unless there is none. -/
theorem addRecord_allocates {α : Type} {table : Database → Table String} {f : UInt32 → α}
    {p : Database → α → Database} {text : α → String} {k : α → UInt32}
    (hput : ∀ db a, table (p db a) = (table db).insert (k a) (text a))
    (hmake : ∀ id, k (f id) = id) (hdense : (table db).Dense)
    (hold : (table old).ids <+: (table db).ids) :
    (∃ a, addRecord table f p db = (.ok a, p db a) ∧
        Gains (k a) (table old) (table db) (table (p db a))) ∨
      (table db).ids.length = 4294967295 ∧
        addRecord table f p db = (.error (.persistence .idsExhausted), db) := by
  rw [addRecord_apply]
  cases hid : nextId (table db).lastId? with
  | error e =>
    obtain ⟨rfl, hfull⟩ := hdense.eq_of_nextId_error hid
    exact .inr ⟨hfull, rfl⟩
  | ok id =>
    refine .inl ⟨f id, rfl, ?_⟩
    rw [hmake]
    refine .of_nextId hdense hold hid ?_
    rw [hput, hmake, Table.ids_insert_nextId hid]

/-- What a step inside a transaction creates. -/
theorem Follows.allocates_inside (h : Follows old db) : Allocates .inside old db where
  environment name group tags e db' hrun := by
    rcases insertEnvironment_cases h name group tags with
      ⟨e', db₁, hrun', -, hid, henv, htags, hgroups⟩ | ⟨err, db₁, hrun', -⟩
    · obtain ⟨hok, rfl⟩ := Prod.mk.inj (hrun.symm.trans hrun')
      cases hok
      exact ⟨.of_nextId h.numbered.environments h.continues.environments hid henv, htags, hgroups⟩
    · cases hrun.symm.trans hrun'
  environment_fails name group tags err db' hrun := by
    rcases insertEnvironment_cases h name group tags with
      ⟨e, db₁, hrun', -⟩ | ⟨err', db₁, hrun', -, hsame⟩
    · cases hrun.symm.trans hrun'
    · cases hrun.symm.trans hrun'
      exact hsame
  tag name := by
    rcases addRecord_allocates (f := fun id => ({ id, name } : Tag)) (p := Database.putTag)
      (k := Tag.id) (fun _ _ => rfl) (fun _ => rfl) h.numbered.tags h.continues.tags with
      ⟨t, hrun, hgains⟩ | hfull
    · exact .inl ⟨t, _, hrun, hgains, rfl, rfl⟩
    · exact .inr hfull
  edgeGroup name := by
    rcases addRecord_allocates (f := fun id => ({ id, name } : EdgeGroup))
      (p := Database.putEdgeGroup) (k := EdgeGroup.id) (fun _ _ => rfl) (fun _ => rfl)
      h.numbered.edgeGroups
      h.continues.edgeGroups with ⟨g, hrun, hgains⟩ | hfull
    · exact .inl ⟨g, _, hrun, hgains, rfl, rfl⟩
    · exact .inr hfull

/-- A transaction of one step creates what the step creates. -/
theorem transaction_eq {α : Type} (m : StoreM Database α) (db : Database) :
    transaction m db = match m db with
      | (.ok a, db') => (.ok a, db')
      | (.error e, _) => (.error e, db) := rfl

theorem transaction_ok {α : Type} {m : StoreM Database α} {a : α} {db' : Database} :
    transaction m db = (.ok a, db') ↔ m db = (.ok a, db') := by
  rw [transaction_eq]
  rcases m db with ⟨e | b, db₁⟩
  · exact iff_of_false nofun nofun
  · exact Iff.rfl

theorem transaction_error {α : Type} {m : StoreM Database α} {e : RegistryError} {db' : Database}
    (h : transaction m db = (.error e, db')) : db' = db := by
  rw [transaction_eq] at h
  rcases hm : m db with ⟨e' | b, db₁⟩
  · rw [hm] at h
    cases h
    rfl
  · rw [hm] at h
    cases h

/-- What a call creates. -/
theorem Allocates.call (h : Allocates .inside old db) : Allocates .call old db where
  environment name group tags e db' hrun :=
    h.environment name group tags e db' (transaction_ok.mp hrun)
  environment_fails name group tags err db' hrun := by
    rw [transaction_error hrun]
    exact ⟨rfl, rfl, rfl⟩
  tag name := by
    rcases h.tag name with ⟨t, db', hrun, hgains⟩ | ⟨hfull, hrun⟩
    · exact .inl ⟨t, db', transaction_ok.mpr hrun, hgains⟩
    · refine .inr ⟨hfull, ?_⟩
      show transaction (RelationStore.createTag name) db = _
      rw [transaction_eq, show RelationStore.createTag name db = _ from hrun]
  edgeGroup name := by
    rcases h.edgeGroup name with ⟨g, db', hrun, hgains⟩ | ⟨hfull, hrun⟩
    · exact .inl ⟨g, db', transaction_ok.mpr hrun, hgains⟩
    · refine .inr ⟨hfull, ?_⟩
      show transaction (RelationStore.createEdgeGroup name) db = _
      rw [transaction_eq, show RelationStore.createEdgeGroup name db = _ from hrun]

end Creating

/-- With the greatest id taken neither a step nor a call creates a record. -/
theorem exhausts_inside (db : Database) : Exhausts .inside db where
  environment hlast name group tags := by
    show insertEnvironment name group tags db = _
    rw [insertEnvironment_apply, Table.nextId_last hlast]
  tag hlast name := by
    show addRecord _ _ _ db = _
    rw [addRecord_apply, Table.nextId_last hlast]
  edgeGroup hlast name := by
    show addRecord _ _ _ db = _
    rw [addRecord_apply, Table.nextId_last hlast]

theorem Exhausts.call {db : Database} (h : Exhausts .inside db) : Exhausts .call db where
  environment hlast name group tags := by
    show transaction (insertEnvironment name group tags) db = _
    rw [transaction_eq,
      show insertEnvironment name group tags db = _ from h.environment hlast _ _ _]
  tag hlast name := by
    show transaction (RelationStore.createTag name) db = _
    rw [transaction_eq, show RelationStore.createTag name db = _ from h.tag hlast name]
  edgeGroup hlast name := by
    show transaction (RelationStore.createEdgeGroup name) db = _
    rw [transaction_eq, show RelationStore.createEdgeGroup name db = _ from h.edgeGroup hlast name]

/-! ## Section 6: Lists, and the whole history -/

/-- The list of the records of a table goes through its ids. -/
theorem listRecords_ids {α : Type} {d : Json.Decoder α} {key : α → UInt32} {t : Table String}
    (h : ∀ id text, t.get? id = some text → ∃ a, decodeRecord d text = .ok a ∧ key a = id) :
    ∃ l, listRecords d t = .ok l ∧ l.map key = t.ids := by
  have hentry : ∀ e ∈ t.entries, ∃ a, decodeRecord d e.2 = .ok a ∧ key a = e.1 := fun e he =>
    h e.1 e.2 (Table.get?_eq_some_iff.mpr he)
  unfold listRecords Table.values Table.ids
  generalize t.entries = entries at hentry ⊢
  induction entries with
  | nil => exact ⟨[], rfl, rfl⟩
  | cons e es ih =>
    obtain ⟨a, ha, hkey⟩ := hentry e List.mem_cons_self
    obtain ⟨l, hl, hids⟩ := ih fun e he => hentry e (List.mem_cons_of_mem _ he)
    refine ⟨a :: l, ?_, ?_⟩
    · rw [List.map_cons, List.mapM_cons, ha, hl]
      rfl
    · rw [List.map_cons, List.map_cons, hkey, hids]

theorem listRecords_inOrder {α : Type} {d : Json.Decoder α} {key : α → UInt32} {t : Table String}
    (h : ∀ id text, t.get? id = some text → ∃ a, decodeRecord d text = .ok a ∧ key a = id)
    (hdense : t.Dense) :
    ∃ l, listRecords d t = .ok l ∧ l.map (fun a => (key a).toNat) = List.range' 1 t.ids.length := by
  obtain ⟨l, hl, hids⟩ := listRecords_ids h
  refine ⟨l, hl, ?_⟩
  calc l.map (fun a => (key a).toNat)
      = (l.map key).map UInt32.toNat := by
        rw [List.map_map]
        rfl
    _ = List.range' 1 t.ids.length := by rw [hids, hdense]

theorem Numbered.listsInOrder {db : Database} (h : Numbered db) : ListsInOrder db where
  environments := listRecords_inOrder h.legible.environments h.environments
  tags := listRecords_inOrder h.legible.tags h.tags
  edgeGroups := listRecords_inOrder h.legible.edgeGroups h.edgeGroups

/-- Whatever has been done to a database that started out empty, and whatever is done next, its ids
are in sequence and continue those it had, and new records are given the ids after them: by calls,
and by steps at every moment of a transaction.  A table in which the greatest id is taken gets no
more records. -/
theorem ids_in_sequence (history later : List (Action ρ)) (d : ρ) :
    (InSequence .call (afterActions history ({}, d)).1
        (afterActions later (afterActions history ({}, d))).1 ∧
      ∀ {β : Type} (c : Script ρ β),
        ∀ x ∈ c.states (afterActions later (afterActions history ({}, d))),
        InSequence .inside (afterActions history ({}, d)).1 x.1) ∧
    ∀ db : Database, Exhausts .call db ∧ Exhausts .inside db := by
  have hempty : Follows {} ({} : Database) := ⟨numbered_empty, .refl _⟩
  have hold := Follows.afterActions (t := ({}, d)) history hempty
  have hnow := Follows.afterActions later ⟨hold.numbered, Continues.refl _⟩
  have hlists : ∀ {c : Creation} {old db : Database}, Follows old db → Allocates c old db →
      InSequence c old db := fun h hc => ⟨h.numbered, h.numbered.listsInOrder, h.continues, hc⟩
  refine ⟨⟨hlists hnow hnow.allocates_inside.call, fun c x hx => ?_⟩, fun db => ?_⟩
  · have hthen := (c.follows hnow).2 x hx
    exact hlists hthen hthen.allocates_inside
  · exact ⟨(exhausts_inside db).call, exhausts_inside db⟩

/-- Adds a tag, writes the first tag over it, is refused an environment, and carries on. -/
def reckless : Script Unit Unit :=
  .next (.createTag "y") fun _ => .next (.mutateTag 1 fun t => { t with id := 2 }) fun _ =>
    .createEnvironment "a" none [9] fun _ => .finish (.ok ())

/-- Only the greatest id is taken. -/
def full : Database := { tags := Table.empty.insert 4294967295 "?" }

/-- The state in the middle of a transaction that does all this for the second time. -/
theorem ids_in_sequence_reckless :
    (∃ x ∈ reckless.states
        (afterActions [.transaction reckless] (afterActions [.call (.createTag "x")] ({}, ()))),
      InSequence .inside (afterActions [.call (.createTag "x")] ({}, ())).1 x.1 ∧
      x.1.tags.ids = [1, 2, 3]) ∧
    full.tags.lastId? = some 4294967295 ∧
      Database.createTag "z" full = (.error (.persistence .idsExhausted), full) := by
  have h := ids_in_sequence [.call (.createTag "x")] [.transaction reckless] ()
  have hids : ((reckless.states (afterActions [.transaction reckless]
      (afterActions [.call (.createTag "x")] ({}, ()))))[2]?).map (·.1.tags.ids) =
      some [1, 2, 3] := by decide +kernel
  -- The state is evaluated above, and no longer needed in full.
  generalize afterActions [.transaction reckless]
    (afterActions [.call (.createTag "x")] ({}, ())) = t
    at h hids ⊢
  obtain ⟨x, hx, htags⟩ := Option.map_eq_some_iff.mp hids
  have hmem := List.mem_of_getElem? hx
  exact ⟨⟨x, hmem, h.1.2 reckless x hmem, htags⟩, rfl, (h.2 full).1.tag rfl "z"⟩

end EnvRegistry.Database

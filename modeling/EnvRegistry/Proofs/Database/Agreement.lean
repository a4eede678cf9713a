import EnvRegistry.Proofs.Relations.Meaning

/-! # A database agrees with a store in memory

    A database keeps texts and a store in memory keeps records, but inside a
    transaction one cannot tell them apart: from the same records every
    operation gives the same answer on both and leaves the same records, also
    where it fails halfway (`agrees_with_memory`).

    Both stores map to shelves, and every operation commutes with both maps
    (`Operation.commutes`).  The invariant is that the two states have the same
    shelf and that those downstream are in the same state (`Level`). -/

namespace EnvRegistry

open Relations

/-! ## Section 1: Model -/

namespace Relations

/-- The operations of a store and on its relations, each by the type of its answer.  Those
downstream have the state `ρ`, and each operation may tell them in its own way. -/
inductive Operation (ρ : Type) : Type → Type where
  | environment (id : EnvironmentId) : Operation ρ Environment
  | updateEnvironment (e : Environment) : Operation ρ Unit
  | tag (id : TagId) : Operation ρ Tag
  | updateTag (t : Tag) : Operation ρ Unit
  | edgeGroup (id : EdgeGroupId) : Operation ρ EdgeGroup
  | edgeGroups : Operation ρ (List EdgeGroup)
  | updateEdgeGroup (g : EdgeGroup) : Operation ρ Unit
  | mutateTag (id : TagId) (f : Tag → Tag) : Operation ρ Unit
  | mutateEdgeGroup (id : EdgeGroupId) (f : EdgeGroup → EdgeGroup) : Operation ρ Unit
  | createTag (name : String) : Operation ρ Tag
  | createEdgeGroup (name : String) : Operation ρ EdgeGroup
  | reconcileTags (v : Visiting) (desired current : List TagId) (id : EnvironmentId) :
      Operation ρ Bool
  | reconcileEdgeGroups (v : Visiting) (desired : List EdgeGroupId) (id : EnvironmentId) :
      Operation ρ Bool
  | update (v : Visiting) (r : Refresher ρ) (id : EnvironmentId) (u : Update) : Operation ρ Outcome
  | createNamed (request : Request) : Operation ρ Request
  | assign (v : Nat → Visiting) (r : Refresher ρ) (ids : List EnvironmentId) (request : Request) :
      Operation ρ (List Assigned)

/-- What is done inside a transaction, up to its result.  What comes next may depend on all answers,
and an operation that fails need not be the last. -/
inductive Closure (ρ β : Type) : Type 1 where
  | finish (result : Except RegistryError β)
  | next {α : Type} (a : Operation ρ α) (rest : Except RegistryError α → Closure ρ β)

/-- What is seen after an operation. -/
structure View (σ ρ : Type) : Type 1 where
  answer : (α : Type) × Except RegistryError α
  store : σ
  downstream : ρ

section Run

variable {σ ρ α β : Type} [RelationStore σ]

/-- Carries out the operation. -/
def Operation.run : Operation ρ α → RunM σ ρ α
  | .environment id => onStore (RelationStore.environment id)
  | .updateEnvironment e => onStore (RelationStore.updateEnvironment e)
  | .tag id => onStore (RelationStore.tag id)
  | .updateTag t => onStore (RelationStore.updateTag t)
  | .edgeGroup id => onStore (RelationStore.edgeGroup id)
  | .edgeGroups => onStore RelationStore.edgeGroups
  | .updateEdgeGroup g => onStore (RelationStore.updateEdgeGroup g)
  | .mutateTag id f => onStore (RelationStore.mutateTag id f)
  | .mutateEdgeGroup id f => onStore (RelationStore.mutateEdgeGroup id f)
  | .createTag name => onStore (RelationStore.createTag name)
  | .createEdgeGroup name => onStore (RelationStore.createEdgeGroup name)
  | .reconcileTags v desired current id => onStore (Relations.reconcileTags v desired current id)
  | .reconcileEdgeGroups v desired id => onStore (Relations.reconcileEdgeGroups v desired id)
  | .update v r id u => Relations.update v r id u
  | .createNamed request => onStore (Relations.createNamed request)
  | .assign v r ids request => Relations.assign v r ids request

namespace Closure

/-- Carries out the operations one after the other. -/
def run : Closure ρ β → RunM σ ρ β
  | .finish result, t => (result, t)
  | .next a rest, t => (rest (a.run t).1).run (a.run t).2

/-- What is seen after each operation. -/
def views : Closure ρ β → σ × ρ → List (View σ ρ)
  | .finish _, _ => []
  | .next a rest, t =>
    ⟨⟨_, (a.run t).1⟩, (a.run t).2.1, (a.run t).2.2⟩ :: (rest (a.run t).1).views (a.run t).2

/-- The closure as an operation on the store alone, begun with those downstream in a state. -/
def within (c : Closure ρ β) (d : ρ) : StoreM σ β := fun s => ((c.run (s, d)).1, (c.run (s, d)).2.1)

end Closure

end Run

end Relations

/-- The store in memory with some records, which rejects nothing. -/
def MemoryStore.seeded (R : Records) : MemoryStore where
  environments := R.environments
  tags := R.tags
  edgeGroups := R.edgeGroups
  environmentsKeyed := R.environmentsKeyed
  tagsKeyed := R.tagsKeyed
  edgeGroupsKeyed := R.edgeGroupsKeyed

namespace Database

/-- Every text decodes to a record of that id. -/
structure Legible (db : Database) : Prop where
  environments : ∀ id text, db.environments.get? id = some text →
    ∃ e, decodeRecord (Environment.decoder .text) text = .ok e ∧ e.id = id
  tags : ∀ id text, db.tags.get? id = some text →
    ∃ t, decodeRecord (Tag.decoder .text) text = .ok t ∧ t.id = id
  edgeGroups : ∀ id text, db.edgeGroups.get? id = some text →
    ∃ g, decodeRecord (EdgeGroup.decoder .text) text = .ok g ∧ g.id = id

/-- The same answer was given, those downstream are in the same state, and the texts stand for the
records in memory. -/
structure Agree {ρ : Type} (x : View Database ρ) (y : View MemoryStore ρ) : Prop where
  answer : x.answer = y.answer
  downstream : x.downstream = y.downstream
  records : x.store.Holds y.store.records

end Database

/-! ## Section 2: Operations commute with maps between stores -/

section Commuting

variable {σ τ ρ α β : Type} [RelationStore σ] [RelationStore τ] {φ : σ → τ}

/-- Every operation commutes with every map between stores. -/
theorem Relations.Operation.commutes (h : StoreMap φ) (a : Operation ρ α) :
    Commutes (alongside ρ φ) a.run a.run := by
  cases a with
  | environment id => exact (h.environment id).onStore
  | updateEnvironment e => exact (h.updateEnvironment e).onStore
  | tag id => exact (h.tag id).onStore
  | updateTag t => exact (h.updateTag t).onStore
  | edgeGroup id => exact (h.edgeGroup id).onStore
  | edgeGroups => exact h.edgeGroups.onStore
  | updateEdgeGroup g => exact (h.updateEdgeGroup g).onStore
  | mutateTag id f => exact (h.mutateTag id f).onStore
  | mutateEdgeGroup id f => exact (h.mutateEdgeGroup id f).onStore
  | createTag name => exact (h.createTag name).onStore
  | createEdgeGroup name => exact (h.createEdgeGroup name).onStore
  | reconcileTags v desired current id => exact (h.reconcileTags v desired current id).onStore
  | reconcileEdgeGroups v desired id => exact (h.reconcileEdgeGroups v desired id).onStore
  | update v r id u => exact h.update v r id u
  | createNamed request => exact (h.createNamed request).onStore
  | assign v r ids request => exact h.assign v r ids request

end Commuting

namespace Database

variable {ρ α β : Type}

/-! ## Section 3: Databases that hold records -/

section Legible

variable {d : Json.Decoder α} {key : α → UInt32} {t : Table String}

/-- The records of a table whose texts decode to records of their ids. -/
theorem exists_records [Inhabited α] (h : ∀ id text, t.get? id = some text →
      ∃ a, decodeRecord d text = .ok a ∧ key a = id) :
    ∃ u : Table α, u.Keyed key ∧ t.map (cell d) = u.map .ok := by
  have hcell : ∀ id text, t.get? id = some text → ∃ a, cell d text = .ok a ∧ key a = id := by
    intro id text htext
    obtain ⟨a, ha, hkey⟩ := h id text htext
    rw [decodeRecord_eq] at ha
    cases hc : cell d text with
    | error fault =>
      rw [hc] at ha
      cases ha
    | ok b =>
      rw [hc] at ha
      cases ha
      exact ⟨_, rfl, hkey⟩
  -- Every text decodes, so the default value is never taken.
  refine ⟨t.map fun text => (cell d text).toOption.getD default, ?_, ?_⟩
  · intro id a ha
    rw [Table.get?_map, Option.map_eq_some_iff] at ha
    obtain ⟨text, htext, rfl⟩ := ha
    obtain ⟨a, ha, hkey⟩ := hcell id text htext
    rw [ha]
    exact hkey
  · refine Table.ext_get? fun id => ?_
    simp only [Table.get?_map]
    cases htext : t.get? id with
    | none => rfl
    | some text =>
      obtain ⟨a, ha, -⟩ := hcell id text htext
      rw [Option.map_some, Option.map_some, Option.map_some, ha]
      rfl

/-- The texts of a table that stand for records. -/
theorem exists_decodeRecord {u : Table α} (hu : u.Keyed key) (h : t.map (cell d) = u.map .ok)
    (id : UInt32) (text : String) (htext : t.get? id = some text) :
    ∃ a, decodeRecord d text = .ok a ∧ key a = id := by
  have hget := congrArg (·.get? id) h
  simp only [Table.get?_map, htext, Option.map_some] at hget
  obtain ⟨a, ha, hcell⟩ := Option.map_eq_some_iff.mp hget.symm
  refine ⟨a, ?_, hu id a ha⟩
  rw [decodeRecord_eq, ← hcell]
  rfl

/-- A database holds records exactly if all of its texts decode to records of their ids. -/
theorem legible_iff {db : Database} : db.Legible ↔ ∃ R, db.Holds R := by
  constructor
  · rintro ⟨henv, htags, hgroups⟩
    obtain ⟨environments, hkeyed, henv⟩ := exists_records henv
    obtain ⟨tags, hkeyed', htags⟩ := exists_records htags
    obtain ⟨edgeGroups, hkeyed'', hgroups⟩ := exists_records hgroups
    refine ⟨⟨environments, tags, edgeGroups, hkeyed, hkeyed', hkeyed''⟩, ?_⟩
    unfold Holds shelf
    rw [henv, htags, hgroups]
    rfl
  · rintro ⟨R, hR⟩
    exact ⟨exists_decodeRecord R.environmentsKeyed (congrArg Shelf.environments hR),
      exists_decodeRecord R.tagsKeyed (congrArg Shelf.tags hR),
      exists_decodeRecord R.edgeGroupsKeyed (congrArg Shelf.edgeGroups hR)⟩

end Legible

/-! ## Section 4: One operation, and all of them -/

/-- The two stores look alike, and those downstream are in the same state. -/
def Level (t : Database × ρ) (t' : MemoryStore × ρ) : Prop :=
  alongside ρ shelf t = alongside ρ MemoryStore.shelf t'

section Level

variable {t : Database × ρ} {t' : MemoryStore × ρ}

theorem Level.of_holds {db : Database} {R : Records} (h : db.Holds R) (d : ρ) :
    Level (db, d) (MemoryStore.seeded R, d) := Prod.ext h rfl

/-- A database rejects nothing, so a store in memory that looks like it rejects nothing. -/
theorem Level.holds (h : Level t t') : t.1.Holds t'.1.records := by
  have hshelf : t.1.shelf = t'.1.shelf := (Prod.mk.inj h).1
  have hreads : [] = t'.1.failingReads := congrArg Shelf.failingReads hshelf
  have hwrites : [] = t'.1.failingWrites := congrArg Shelf.failingWrites hshelf
  have hscan : false = t'.1.failingScan := congrArg Shelf.failingScan hshelf
  unfold Holds
  rw [hshelf, MemoryStore.shelf, ← hreads, ← hwrites, ← hscan]
  rfl

/-- An operation gives the same answer on both stores, and leaves them level. -/
theorem Level.step (h : Level t t') (a : Operation ρ α) :
    (a.run t).1 = (a.run t').1 ∧ Level (a.run t).2 (a.run t').2 := by
  -- Both runs are seen as runs on the shelf that the two stores look like.
  have hdb := a.commutes storeMap t
  have hmemory := a.commutes MemoryStore.storeMap t'
  rw [← h, hdb] at hmemory
  exact Prod.mk.inj hmemory

/-- In a database, an operation comes to what it comes to on a store in memory with the same
records. -/
theorem run_eq_memory {db : Database} {s : MemoryStore} {R : Records} (hdb : db.Holds R)
    (hs : s.Holds R) (a : Operation ρ α) (d : ρ) :
    ∃ db', a.run (db, d) = ((a.run (s, d)).1, (db', (a.run (s, d)).2.2)) := by
  have hlevel : Level (db, d) (s, d) := Prod.ext (hdb.trans hs.symm) rfl
  obtain ⟨hanswer, hafter⟩ := hlevel.step a
  exact ⟨_, Prod.ext hanswer (Prod.ext rfl (Prod.mk.inj hafter).2)⟩

theorem Level.run (h : Level t t') (c : Closure ρ β) :
    (c.run t).1 = (c.run t').1 ∧ Level (c.run t).2 (c.run t').2 := by
  induction c generalizing t t' with
  | finish result => exact ⟨rfl, h⟩
  | next a rest ih =>
    -- The answers are the same, so the closure goes on in the same way.
    obtain ⟨hanswer, hlevel⟩ := h.step a
    simp only [Closure.run]
    rw [hanswer]
    exact ih _ hlevel

theorem Level.views (h : Level t t') (c : Closure ρ β) :
    List.Forall₂ Agree (c.views t) (c.views t') := by
  induction c generalizing t t' with
  | finish result => exact .nil
  | next a rest ih =>
    obtain ⟨hanswer, hlevel⟩ := h.step a
    simp only [Closure.views]
    rw [hanswer]
    exact .cons ⟨rfl, (Prod.mk.inj hlevel).2, hlevel.holds⟩ (ih _ hlevel)

end Level

/-! ## Section 5: Transactions -/

theorem transaction_cases (m : StoreM Database α) (db : Database) :
    (transaction m db).1 = (m db).1 ∧ (∀ a, (m db).1 = .ok a → (transaction m db).2 = (m db).2) ∧
      ∀ e, (m db).1 = .error e → (transaction m db).2 = db := by
  unfold transaction
  rcases m db with ⟨_ | a, db'⟩
  · refine ⟨rfl, ?_, fun _ _ => rfl⟩
    intro a h
    cases h
  · refine ⟨rfl, fun _ _ => rfl, ?_⟩
    intro e h
    cases h

/-- A database whose texts decode to records of their ids holds records, and a store in memory with
these records agrees with it after every operation.  A transaction keeps the records of the store in
memory if its result is no error, and else leaves the database as it was. -/
theorem agrees_with_memory {db : Database} (h : db.Legible) :
    (∃ R, db.Holds R) ∧ ∀ R, db.Holds R → ∀ (c : Closure ρ β) (d : ρ),
      List.Forall₂ Agree (c.views (db, d)) (c.views (MemoryStore.seeded R, d)) ∧
      (transaction (c.within d) db).1 = (c.within d (MemoryStore.seeded R)).1 ∧
      (∀ b, (transaction (c.within d) db).1 = .ok b →
        (transaction (c.within d) db).2.Holds (c.within d (MemoryStore.seeded R)).2.records) ∧
      ∀ e, (transaction (c.within d) db).1 = .error e → (transaction (c.within d) db).2 = db := by
  refine ⟨legible_iff.mp h, fun R hR c d => ?_⟩
  have hlevel := Level.of_holds hR d
  obtain ⟨hresult, hlast⟩ := hlevel.run c
  obtain ⟨hsame, hkept, hdiscarded⟩ := transaction_cases (c.within d) db
  refine ⟨hlevel.views c, hsame.trans hresult, fun b hb => ?_, fun e he => ?_⟩
  · rw [hkept b (hsame ▸ hb)]
    exact hlast.holds
  · exact hdiscarded e (hsame ▸ he)

/-- Changes the tag, fails to assign a tag that is not there, and carries on. -/
def undeterred : Closure Unit Unit :=
  .next (.update .ascending .silent 1 { tags := some [9] }) fun _ => .finish (.ok ())

/-- The tag that was left before the update failed is left in both stores, and the transaction keeps
this. -/
theorem agrees_with_memory_undeterred :
    List.Forall₂ Agree (undeterred.views (sampleDatabase, ()))
        (undeterred.views (MemoryStore.seeded sample, ())) ∧
      (undeterred.within () (MemoryStore.seeded sample)).1 = .ok () ∧
      (undeterred.within () (MemoryStore.seeded sample)).2.tags.get? 1 =
        some { id := 1, name := "x" } ∧
      (transaction (undeterred.within ()) sampleDatabase).2.Holds
        (undeterred.within () (MemoryStore.seeded sample)).2.records := by
  have hagree := (agrees_with_memory (legible_iff.mpr ⟨_, sampleDatabase_holds⟩)).2 sample
    sampleDatabase_holds undeterred ()
  exact ⟨hagree.1, rfl, rfl, hagree.2.2.1 () hagree.2.1⟩

end Database

end EnvRegistry

import EnvRegistry.Proofs.Database.Order
import EnvRegistry.Proofs.Relations.Assignment
import EnvRegistry.Proofs.Relations.Deferral

/-! # A batch and its singles

    `Database.assign` is one transaction: later environments of the batch see
    what earlier ones wrote, and those downstream are told at the end.  The same
    can be done in many calls, each a transaction of its own that tells those
    downstream at once (`Database.assignSingly`).  With those downstream who never
    fail, the calls succeed if the batch does and come to the same, down to the
    texts of the database (`Database.batch_eq_singles`).

    The batch is related to the calls through a run that tells those downstream
    directly and has no transaction.  The batch comes to the same as that run
    (`Relations.Mirrors`), and whatever a part of that run succeeds in doing the
    call in its place does as well (`Emulated`). -/

namespace EnvRegistry

open Relations

variable {ρ α : Type}

namespace Database

/-! ## Section 1: Model -/

/-- Creates a record for every name, in one call after the other, and gives back their ids. -/
def createSingly (create : String → StoreM Database α) (key : α → UInt32) :
    List String → StoreM Database (List UInt32)
  | [] => return []
  | name :: rest => do
    let a ← create name
    return key a :: (← createSingly create key rest)

/-- Creates the records that a request names in a transaction each, and gives back the request with
their ids in place of the names. -/
def createNamedSingly (r : Request) : StoreM Database Request := do
  let tags ← createSingly Database.createTag Tag.id r.createTags
  let groups ← createSingly Database.createEdgeGroup EdgeGroup.id r.createEdgeGroups
  return { r with
    tags := r.tags ++ tags
    edgeGroups := r.edgeGroups ++ groups
    createTags := []
    createEdgeGroups := [] }

/-- Asks the database for an environment and its edge groups, plans a request without names for it,
and updates it. -/
def assignOneSingly (w : Visiting) (r : Refresher ρ) (request : Request) (id : EnvironmentId) :
    RunM Database ρ Assigned := do
  let e ← onStore (query (·.environment id))
  let groups ← onStore (query (·.environmentEdgeGroups id))
  return ⟨id, ← Database.update w r id (request.plan e groups)⟩

/-- Applies a request without names to one environment after the other. -/
def assignEachSingly (w : Nat → Visiting) (r : Refresher ρ) (request : Request) :
    List EnvironmentId → RunM Database ρ (List Assigned)
  | [] => return []
  | id :: rest => do
    let first ← assignOneSingly (w 0) r request id
    return first :: (← assignEachSingly (fun n => w (n + 1)) r request rest)

/-- Does in many calls what `Database.assign` does in one. -/
def assignSingly (w : Nat → Visiting) (r : Refresher ρ) (ids : List EnvironmentId)
    (request : Request) : RunM Database ρ (List Assigned) := do
  let resolved ← onStore (createNamedSingly request)
  assignEachSingly w r resolved ids

/-! ## Section 2: A transaction in place of an operation -/

/-- Every record of the database of a run lies under its own id. -/
abbrev OwnRun (t : Database × ρ) : Prop := t.1.shelf.Own

theorem emulated_onStore {m m' : StoreM Database α}
    (h : Emulated (fun db => db.shelf.Own) m m') :
    Emulated (OwnRun (ρ := ρ)) (onStore m) (onStore m') := by
  rintro ⟨db, d⟩ a ⟨db', d'⟩ hown hrun
  obtain ⟨hm, rfl⟩ := onStore_ok hrun
  obtain ⟨hm', hown'⟩ := h db a db' hown hm
  exact ⟨onStore_apply hm' d, hown'⟩

/-- A transaction does what its operation succeeds in doing. -/
theorem transaction_emulates {m : StoreM Database α}
    (hm : Maintains (fun db => db.shelf.Own) (fun _ => True) m) :
    Emulated (fun db => db.shelf.Own) m (transaction m) := by
  intro db a db' hown hrun
  have hown' := (hm db hown).1
  rw [hrun] at hown'
  refine ⟨?_, hown'⟩
  rw [transaction, hrun]

/-- Creating records one after the other does what each single creation does. -/
theorem createSingly_emulated {create create' : String → StoreM Database α} (key : α → UInt32)
    (h : ∀ name, Emulated (fun db => db.shelf.Own) (create name) (create' name))
    (names : List String) : Emulated (fun db => db.shelf.Own) (createSingly create key names)
      (createSingly create' key names) := by
  induction names with
  | nil => exact .pure []
  | cons name rest ih => exact (h name).bind fun _ => ih.bind fun _ => .pure _

theorem createTags_eq (names : List String) : (createTags names : StoreM Database _) =
    createSingly RelationStore.createTag Tag.id names := by
  induction names with
  | nil => rfl
  | cons name rest ih => rw [createTags, createSingly, ih]

theorem createEdgeGroups_eq (names : List String) : (createEdgeGroups names : StoreM Database _) =
    createSingly RelationStore.createEdgeGroup EdgeGroup.id names := by
  induction names with
  | nil => rfl
  | cons name rest ih => rw [createEdgeGroups, createSingly, ih]

/-- Creating the records of a request in a transaction each does what creating them in one does. -/
theorem createNamed_emulated (request : Request) : Emulated (fun db : Database => db.shelf.Own)
    (createNamed request) (createNamedSingly request) := by
  have htag : ∀ name, Emulated (fun db => db.shelf.Own) (RelationStore.createTag name)
      (Database.createTag name) := by
    intro name
    refine transaction_emulates (addRecord_maintains fun db t hown => ?_)
    rw [shelf_putTag]
    exact hown.putTag t
  have hgroup : ∀ name, Emulated (fun db => db.shelf.Own) (RelationStore.createEdgeGroup name)
      (Database.createEdgeGroup name) := by
    intro name
    refine transaction_emulates (addRecord_maintains fun db g hown => ?_)
    rw [shelf_putEdgeGroup]
    exact hown.putEdgeGroup g
  unfold createNamed
  rw [createTags_eq, createEdgeGroups_eq]
  exact (createSingly_emulated Tag.id htag _).bind fun _ =>
    (createSingly_emulated EdgeGroup.id hgroup _).bind fun _ => .pure _

/-- In a transaction an environment's edge groups are those that the database gives outside. -/
theorem environmentEdgeGroups_eq (id : EnvironmentId) :
    (Relations.environmentEdgeGroups id : StoreM Database _) =
      query (·.environmentEdgeGroups id) := by
  funext db
  rw [environmentEdgeGroups_apply, scan_shelf, query, environmentEdgeGroups]
  cases db.allEdgeGroups with
  | error err => rfl
  | ok groups => rfl

/-! ## Section 3: Telling those downstream -/

/-- What an update succeeds in doing it does in any other order of visits, whatever those downstream
answer. -/
theorem update_order (r : Refresher ρ) (v w : Visiting) (id : EnvironmentId) (u : Update) :
    Emulated OwnRun (Relations.update v r id u) (Relations.update w r id u) := by
  have htold : ∀ e, Emulated (OwnRun (ρ := ρ)) (onDownstream (r e)) (onDownstream (r e)) := fun e =>
    .of_maintains (Q := fun _ => True) fun t hown => ⟨hown, fun _ _ => trivial⟩
  refine (emulated_onStore (applyUpdate_order v w id u)).bind fun after => ?_
  obtain ⟨o, e⟩ := after
  exact .ite ((htold e).bind fun _ => .pure o) (.pure o)

variable {r : Refresher ρ} (hr : ∀ e d, (r e d).1 = .ok ())

include hr

/-- With those downstream who never fail, telling them when the writes are kept comes to what
telling them at once comes to. -/
theorem committing_eq_ok {direct : RunM Database (ρ × List Refresher.Call) α}
    {noted : RunM Database (List Environment) α} (h : Mirrors r direct noted)
    {t t' : Database × ρ × List Refresher.Call} {a : α} :
    committing r.recorded noted t = (.ok a, t') ↔ direct t = (.ok a, t') := by
  obtain ⟨db, d, calls⟩ := t
  obtain ⟨told, hqueue, hall, -⟩ := h db d calls []
  have hnone : Refresher.failure? (r.callsOf d told) = none :=
    Refresher.failure?_eq_none.mpr (Refresher.callsOf_ok hr d told)
  rw [hall hnone]
  rcases hnoted : noted (db, []) with ⟨err | b, db₁, queue⟩
  · rw [committing_error hnoted]
    exact iff_of_false nofun nofun
  · rw [hnoted, List.nil_append] at hqueue
    have hsame : queue = told := hqueue
    have hflush : r.recorded.flush told (d, calls) =
        (.ok (), (r.after d told, calls ++ r.callsOf d told)) := by
      rw [Refresher.flush_apply, Refresher.callsOf_recorded, Refresher.after_recorded,
        Refresher.firstFailure_eq_map, hnone]
      rfl
    have hcommit : committing r.recorded noted (db, (d, calls)) =
        ((r.recorded.flush told (d, calls)).1.map fun _ => b,
          (db₁, (r.recorded.flush told (d, calls)).2)) := by
      rw [committing, hnoted, hsame]
      rfl
    rw [hcommit, hflush]
    rfl

/-- An update in a transaction does what the update succeeds in doing without one. -/
theorem update_emulated (v w : Visiting) (id : EnvironmentId) (u : Update) :
    Emulated OwnRun (Relations.update v r.recorded id u) (Database.update w r.recorded id u) := by
  intro t o t' hown hrun
  obtain ⟨hrun', hown'⟩ := update_order r.recorded v w id u t o t' hown hrun
  exact ⟨(committing_eq_ok hr (Mirrors.update w id u)).mpr hrun', hown'⟩

/-! ## Section 4: Whole batches -/

theorem assignOne_emulated (v w : Visiting) (request : Request) (id : EnvironmentId) :
    Emulated OwnRun (assignOne v r.recorded request id)
      (assignOneSingly w r.recorded request id) := by
  have hread : Emulated (OwnRun (ρ := ρ × List Refresher.Call))
      (onStore (RelationStore.environment id)) (onStore (query (·.environment id))) :=
    emulated_onStore (.of_maintains (query_maintains _))
  have hgroups : Emulated (OwnRun (ρ := ρ × List Refresher.Call))
      (onStore (Relations.environmentEdgeGroups id))
      (onStore (query (·.environmentEdgeGroups id))) := by
    rw [environmentEdgeGroups_eq]
    exact emulated_onStore (.of_maintains (query_maintains _))
  exact hread.bind fun e => hgroups.bind fun groups =>
    (update_emulated hr v w id (request.plan e groups)).bind fun _ => .pure _

theorem assignEach_emulated (v w : Nat → Visiting) (request : Request) (ids : List EnvironmentId) :
    Emulated OwnRun (assignEach v r.recorded request ids)
      (assignEachSingly w r.recorded request ids) := by
  induction ids generalizing v w with
  | nil => exact .pure []
  | cons id rest ih =>
    exact (assignOne_emulated hr (v 0) (w 0) request id).bind fun _ =>
      (ih _ _).bind fun _ => .pure _

theorem assign_emulated (v w : Nat → Visiting) (ids : List EnvironmentId) (request : Request) :
    Emulated OwnRun (Relations.assign v r.recorded ids request)
      (assignSingly w r.recorded ids request) :=
  (emulated_onStore (createNamed_emulated request)).bind fun resolved =>
    assignEach_emulated hr v w resolved ids

/-- If a batch succeeds, then so do the single calls in its place, in whatever order the two visit
what they change: with the same outcomes, the same texts in the database and the same calls of those
downstream.  If one of the single calls fails, then the batch fails and changes nothing. -/
theorem batch_eq_singles {db : Database} (hown : db.Own) (v w : Nat → Visiting)
    (ids : List EnvironmentId) (request : Request) (d : ρ) :
    (∀ results db' d' calls,
      Database.assign v r.recorded ids request (db, (d, [])) = (.ok results, (db', (d', calls))) →
      assignSingly w r.recorded ids request (db, (d, [])) = (.ok results, (db', (d', calls)))) ∧
    ∀ err t, assignSingly w r.recorded ids request (db, (d, [])) = (.error err, t) →
      ∃ err', Database.assign v r.recorded ids request (db, (d, [])) =
        (.error err', (db, (d, []))) := by
  have hsingles : ∀ results t,
      Database.assign v r.recorded ids request (db, (d, [])) = (.ok results, t) →
      assignSingly w r.recorded ids request (db, (d, [])) = (.ok results, t) := by
    intro results t hbatch
    have hdirect := (committing_eq_ok hr (Mirrors.assign v ids request)).mp hbatch
    exact (assign_emulated hr v w ids request _ _ _ hown.shelf hdirect).1
  refine ⟨fun results db' d' calls hbatch => hsingles results _ hbatch, ?_⟩
  intro err t hfailed
  rcases hinner : Relations.assign v Refresher.enqueue ids request (db, []) with
    ⟨err' | results, db₁, queue⟩
  · exact ⟨err', committing_error hinner r.recorded (d, [])⟩
  · -- The transaction succeeds and no one fails, so the single calls would have succeeded.
    have hnone := Refresher.failure?_eq_none.mpr (Refresher.callsOf_ok hr d queue)
    have hbatch := committing_ok hinner r d
    rw [Refresher.firstFailure_eq_map, hnone] at hbatch
    have hok := hsingles results _ hbatch
    rw [hfailed] at hok
    cases hok

omit hr in
/-- The environment of the sample comes up twice.  An environment that is not there fails. -/
theorem batch_eq_singles_twice :
    (∃ db', Database.assign (fun _ => .ascending) Refresher.silent.recorded [1, 1] retag
        (sampleDatabase, ((), [])) = (.ok retagged,
          (db', ((), [({ id := 1, name := "a", groupId := 5, tagIds := [2, 3] }, .ok ())]))) ∧
      assignSingly (fun _ => .ascending) Refresher.silent.recorded [1, 1] retag
        (sampleDatabase, ((), [])) = (.ok retagged,
          (db', ((), [({ id := 1, name := "a", groupId := 5, tagIds := [2, 3] }, .ok ())])))) ∧
    ∃ err, Database.assign (fun _ => .ascending) Refresher.silent.recorded [9] {}
      (sampleDatabase, ((), [])) = (.error err, (sampleDatabase, ((), []))) := by
  have hr : ∀ (e : Environment) (d : Unit), (Refresher.silent e d).1 = .ok () := fun _ _ => rfl
  constructor
  · obtain ⟨db', hrun⟩ := Database.run_eq_memory (s := sampleStore) sampleDatabase_holds rfl
      (.assign (fun _ => .ascending) Refresher.enqueue [1, 1] retag) []
    have hbatch := committing_ok hrun Refresher.silent ()
    exact ⟨db', hbatch, (batch_eq_singles hr sampleDatabase_holds.own (fun _ => .ascending)
      (fun _ => .ascending) [1, 1] retag ()).1 _ _ _ _ hbatch⟩
  · exact (batch_eq_singles hr sampleDatabase_holds.own (fun _ => .ascending)
      (fun _ => .ascending) [9] {} ()).2 (.notFound .environment 9) _ rfl

end Database

end EnvRegistry

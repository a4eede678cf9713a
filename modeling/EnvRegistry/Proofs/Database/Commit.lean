import EnvRegistry.Proofs.Database.Inside
import EnvRegistry.Proofs.Relations.Meaning

/-! # What a call to the database commits

    A call either fails and leaves everything as it was, or it commits and then
    tells those downstream of every environment that it changed.  `Commits` says
    this of a call; updates and assignments of any database whose records lie
    under their own ids are such calls (`update_assign_commit`).

    Those downstream are told of environments that were put in the queue while
    the batch went on.  An environment may come up again later in the batch, but
    by then the request is settled for it (`plan_settled`), so the value in the
    queue is still the one that is stored when the queue is passed on. -/

namespace EnvRegistry

open Relations

/-! ## Section 1: A request that was applied -/

/-- Applying the request again does not change the environment, whatever edge groups it is in. -/
def Relations.Request.Settled (request : Request) (e : Environment) : Prop :=
  ∀ groups, (request.plan e groups).applyTo e = e

/-- The tags of an environment that a request was applied to. -/
theorem Relations.Request.plan_tagIds (request : Request) (e : Environment)
    (groups : KeySet EdgeGroupId) : ((request.plan e groups).applyTo e).tagIds =
      if e.tagIds.isEmpty || request.overrideTags then request.tags else e.tagIds := by
  unfold Request.plan Update.applyTo
  simp only
  split
  · rfl
  · rfl

/-- The group of an environment that a request was applied to. -/
theorem Relations.Request.plan_groupId (request : Request) (e : Environment)
    (groups : KeySet EdgeGroupId) : ((request.plan e groups).applyTo e).groupId =
      if e.groupId = GroupId.unassigned ∨ request.overrideGroup = true then
        (GroupId.requested? request.group).getD e.groupId
      else e.groupId := by
  unfold Request.plan Update.applyTo GroupId.requested?
  cases request.group with
  | none => simp
  | some g =>
    by_cases hset : g = GroupId.unset
    · simp [Option.filter, hset]
    · by_cases hplace : e.groupId = GroupId.unassigned ∨ request.overrideGroup = true
      · simp [Option.filter, hset, hplace]
      · simp [Option.filter, hset, hplace]

/-- A request is settled for the environment it was applied to. -/
theorem Relations.Request.plan_settled (request : Request) (e : Environment)
    (groups : KeySet EdgeGroupId) : request.Settled ((request.plan e groups).applyTo e) := by
  intro groups'
  have htags : ((request.plan ((request.plan e groups).applyTo e) groups').applyTo
      ((request.plan e groups).applyTo e)).tagIds = ((request.plan e groups).applyTo e).tagIds := by
    rw [Request.plan_tagIds, Request.plan_tagIds]
    by_cases h : (e.tagIds.isEmpty || request.overrideTags) = true
    · simp [h]
    · simp [h]
  have hgroup : ((request.plan ((request.plan e groups).applyTo e) groups').applyTo
      ((request.plan e groups).applyTo e)).groupId =
      ((request.plan e groups).applyTo e).groupId := by
    rw [Request.plan_groupId, Request.plan_groupId]
    by_cases h : e.groupId = GroupId.unassigned ∨ request.overrideGroup = true
    · cases GroupId.requested? request.group <;> simp [h]
    · simp [h]
  exact Update.applyTo_eq_self hgroup htags

namespace Database

/-! ## Section 2: The queue inside a transaction -/

/-- The environments that were changed, in the order of the batch. -/
def changedIds (l : List Assigned) : List EnvironmentId :=
  (l.filter (·.outcome.changed)).map (·.environmentId)

/-- What is in the queue is what is stored, and the request is settled for it. -/
def Queued (request : Request) (db : Database) (queue : List Environment) : Prop :=
  ∀ e ∈ queue, request.Settled e ∧ db.environment e.id = .ok e

variable {db : Database}

/-- Applying the request to one more environment keeps the queue true to the database. -/
theorem Queued.update {request : Request} {db' : Database} {id : EnvironmentId} {e : Environment}
    {groups : KeySet EdgeGroupId} {queue : List Environment} (hqueue : Queued request db queue)
    (he : db.environment id = .ok e) (hid : e.id = id) {changed : Bool}
    (hdb' : ∀ j, db'.environment j = if j = id ∧ changed = true then
      .ok ((request.plan e groups).applyTo e) else db.environment j) :
    Queued request db'
      (if changed = true then queue ++ [(request.plan e groups).applyTo e] else queue) := by
  have hold : ∀ q ∈ queue, request.Settled q ∧ db'.environment q.id = .ok q := by
    intro q hq
    obtain ⟨hsettled, hstored⟩ := hqueue q hq
    refine ⟨hsettled, ?_⟩
    rw [hdb']
    split
    · -- The environment came up before, and the request is settled for it.
      next h =>
      rw [h.1, he] at hstored
      cases hstored
      rw [hsettled]
    · exact hstored
  cases changed with
  | false => exact hold
  | true =>
    intro q hq
    rcases List.mem_append.mp hq with hq | hq
    · exact hold q hq
    · rw [List.mem_singleton.mp hq]
      refine ⟨request.plan_settled e _, ?_⟩
      rw [hdb', if_pos ⟨hid, rfl⟩]

/-- One step of a batch keeps the queue true to the database. -/
theorem assignOne_cases (hown : db.shelf.Own) (v : Visiting) (request : Request)
    (id : EnvironmentId)
    {queue : List Environment} (hqueue : Queued request db queue) :
    (∃ err s, RegistryError.OfStore err ∧
        assignOne v Refresher.enqueue request id (db, queue) = (.error err, s)) ∨
      ∃ o db' queue', assignOne v Refresher.enqueue request id (db, queue) =
          (.ok ⟨id, o⟩, (db', queue')) ∧ db'.shelf.Own ∧ Queued request db' queue' ∧
        queue'.map (·.id) = queue.map (·.id) ++ changedIds [⟨id, o⟩] := by
  have hread : (RelationStore.environment id : StoreM Database _) db =
      (db.environment id, db) := rfl
  have hgroups := environmentEdgeGroups_apply db id
  unfold assignOne
  -- A step reads the environment, then the edge groups, and then updates: each may fail.
  cases he : db.environment id with
  | error err =>
    rw [he] at hread
    rw [environment_eq] at he
    exact .inl ⟨err, _, Rack.look_error he, StoreM.bind_error (onStore_apply hread queue)⟩
  | ok e =>
    rw [he] at hread
    rw [StoreM.bind_ok (onStore_apply hread queue)]
    cases hscan : db.shelf.scan with
    | error err =>
      rw [hscan] at hgroups
      exact .inl ⟨err, _, Shelf.scan_error hscan, StoreM.bind_error (onStore_apply hgroups queue)⟩
    | ok groups =>
      rw [hscan] at hgroups
      rw [StoreM.bind_ok (onStore_apply hgroups queue)]
      rcases update_enqueue_cases hown v id (request.plan e (memberships groups id)) queue with
        ⟨err, db', herr, hrun⟩ | ⟨e', o, db', he', hid, hown', hdb', hrun⟩
      · exact .inl ⟨err, _, herr, StoreM.bind_error hrun⟩
      · rw [he] at he'
        cases he'
        refine .inr ⟨o, db', _, StoreM.bind_ok hrun, hown', hqueue.update he hid hdb', ?_⟩
        cases ho : o.changed with
        | false => simp [changedIds, ho]
        | true => simp [changedIds, ho, hid]

/-- A batch keeps the queue true to the database, and puts in the queue what it changed. -/
theorem assignEach_cases (request : Request) (ids : List EnvironmentId) (v : Nat → Visiting)
    (hown : db.shelf.Own) {queue : List Environment} (hqueue : Queued request db queue) :
    (∃ err s, RegistryError.OfStore err ∧
        assignEach v Refresher.enqueue request ids (db, queue) = (.error err, s)) ∨
      ∃ l db' queue', assignEach v Refresher.enqueue request ids (db, queue) =
          (.ok l, (db', queue')) ∧ Queued request db' queue' ∧
        l.map (·.environmentId) = ids ∧
        queue'.map (·.id) = queue.map (·.id) ++ changedIds l := by
  induction ids generalizing v db queue with
  | nil => exact .inr ⟨[], db, queue, rfl, hqueue, rfl, (List.append_nil _).symm⟩
  | cons id rest ih =>
    unfold assignEach
    rcases assignOne_cases hown (v 0) request id hqueue with
      ⟨err, s, herr, hrun⟩ | ⟨o, db', queue', hrun, hown', hqueue', hids⟩
    · exact .inl ⟨err, s, herr, StoreM.bind_error hrun⟩
    · rw [StoreM.bind_ok hrun]
      rcases ih (fun n => v (n + 1)) hown' hqueue' with
        ⟨err, s, herr, hrun⟩ | ⟨l, db'', queue'', hrun, hqueue'', hall, hids'⟩
      · exact .inl ⟨err, s, herr, StoreM.bind_error hrun⟩
      · refine .inr ⟨⟨id, o⟩ :: l, db'', queue'', StoreM.bind_ok hrun, hqueue'', ?_, ?_⟩
        · rw [List.map_cons, hall]
        · rw [hids', hids, List.append_assoc]
          refine congrArg _ ?_
          unfold changedIds
          rw [← List.map_append, ← List.filter_append]
          rfl

/-! ## Section 3: Committing -/

/-- Inside its transaction a call raises errors of the store only, and its queue holds what it
changed, as it is stored. -/
structure Queues {α : Type} (inner : RunM Database (List Environment) α) (ids : List EnvironmentId)
    (processed : α → List Assigned) (db : Database) : Prop where
  fails : ∀ e s, inner (db, []) = (.error e, s) → e.OfStore
  succeeds : ∀ a db' queue, inner (db, []) = (.ok a, (db', queue)) →
    (processed a).map (·.environmentId) = ids ∧
      queue.map (·.id) = changedIds (processed a) ∧
      ∀ e ∈ queue, db'.environment e.id = .ok e

/-- What a call to a database comes to, given what it does inside its transaction: `ids` are the
environments it goes through, and `processed` what it reports of them. -/
structure Commits {α : Type} (inner : RunM Database (List Environment) α)
    (call : ∀ {ρ : Type}, Refresher ρ → RunM Database ρ α) (ids : List EnvironmentId)
    (processed : α → List Assigned) (db : Database) : Prop where
  /-- An error that does not come from those downstream leaves everything as it was, and no one was
  told anything. -/
  aborts : ∀ {ρ : Type} (r : Refresher ρ) (d d' : ρ) (e : RegistryError) (db' : Database)
    (calls : List Refresher.Call), call r.recorded (db, (d, [])) = (.error e, (db', (d', calls))) →
    (∀ text, e ≠ .refresh text) → db' = db ∧ d' = d ∧ calls = []
  /-- A refresh error means that all writes were kept and that telling someone failed. -/
  refresh_iff : ∀ {ρ : Type} (r : Refresher ρ) (d d' : ρ) (result : Except RegistryError α)
    (db' : Database) (calls : List Refresher.Call),
    call r.recorded (db, (d, [])) = (result, (db', (d', calls))) →
    ((∃ text, result = .error (.refresh text)) ↔
      (∃ a queue, inner (db, []) = (.ok a, (db', queue))) ∧ ∃ c ∈ calls, c.2 ≠ .ok ())
  /-- Otherwise the writes of the transaction are kept, whoever is downstream.  Those downstream
  were told once of every environment that was changed, in the order of the batch and whatever they
  answered, and what they were told is what is stored. -/
  commits : ∀ {ρ : Type} (r : Refresher ρ) (d d' : ρ) (result : Except RegistryError α)
    (db' : Database) (calls : List Refresher.Call),
    call r.recorded (db, (d, [])) = (result, (db', (d', calls))) →
    (∀ e, result = .error e → ∃ text, e = .refresh text) →
    ∃ a queue, inner (db, []) = (.ok a, (db', queue)) ∧ (∀ b, result = .ok b → b = a) ∧
      (processed a).map (·.environmentId) = ids ∧
      calls.map (·.1.id) = changedIds (processed a) ∧
      ∀ c ∈ calls, db'.environment c.1.id = .ok c.1

section Committing

variable {α ρ : Type} {inner : RunM Database (List Environment) α}

theorem committing_error {e : RegistryError} {t : Database × List Environment}
    (h : inner (db, []) = (.error e, t)) (r : Refresher ρ) (d : ρ) :
    committing r inner (db, d) = (.error e, (db, d)) := by
  rw [committing, h]

theorem committing_ok {a : α} {db' : Database} {queue : List Environment}
    (h : inner (db, []) = (.ok a, (db', queue))) (r : Refresher ρ) (d : ρ) :
    committing r.recorded inner (db, (d, [])) =
      (match Refresher.firstFailure (r.callsOf d queue) with
        | some e => .error e
        | none => .ok a, (db', (r.after d queue, r.callsOf d queue))) := by
  have hcommit : committing r.recorded inner (db, (d, [])) =
      ((r.recorded.flush queue (d, [])).1.map fun _ => a,
        (db', (r.recorded.flush queue (d, [])).2)) := by
    rw [committing, h]
    rfl
  rw [hcommit, Refresher.flush_apply, Refresher.callsOf_recorded, Refresher.after_recorded,
    List.nil_append]
  cases Refresher.firstFailure (r.callsOf d queue) with
  | none => rfl
  | some e => rfl

/-- A call that succeeds keeps what its transaction came to. -/
theorem inner_of_committing {a : α} {db' : Database} {r : Refresher ρ} {d d' : ρ}
    (h : committing r inner (db, d) = (.ok a, (db', d'))) :
    ∃ queue, inner (db, []) = (.ok a, (db', queue)) := by
  rcases hinner : inner (db, []) with ⟨err | b, db₁, queue⟩
  · rw [committing_error hinner] at h
    cases h
  · rcases hflush : r.flush queue d with ⟨flushed, d₁⟩
    rw [committing, hinner] at h
    simp only [hflush] at h
    cases flushed with
    | error err => cases h
    | ok _ =>
      cases h
      exact ⟨queue, rfl⟩

/-- A call whose transaction fails is rolled back, and no one is told. -/
theorem Commits.of_error {ids : List EnvironmentId} {processed : α → List Assigned}
    {err : RegistryError} {t : Database × List Environment}
    (hinner : inner (db, []) = (.error err, t))
    (herr : err.OfStore) : Commits inner (fun r => committing r inner) ids processed db where
  aborts r d d' e db' calls hrun _ := by
    rw [committing_error hinner] at hrun
    cases hrun
    exact ⟨rfl, rfl, rfl⟩
  refresh_iff r d d' result db' calls hrun := by
    rw [committing_error hinner] at hrun
    cases hrun
    constructor
    · rintro ⟨text, htext⟩
      cases htext
      exact absurd rfl (herr.ne_refresh text)
    · rintro ⟨-, c, hc, -⟩
      cases hc
  commits r d d' result db' calls hrun honly := by
    rw [committing_error hinner] at hrun
    cases hrun
    obtain ⟨text, htext⟩ := honly err rfl
    exact absurd htext (herr.ne_refresh text)

/-- A call whose transaction succeeds tells those downstream of everything in the queue. -/
theorem Commits.of_ok {ids : List EnvironmentId} {processed : α → List Assigned} {a : α}
    {db₁ : Database} {queue : List Environment} (hinner : inner (db, []) = (.ok a, (db₁, queue)))
    (hall : (processed a).map (·.environmentId) = ids)
    (hqueue : queue.map (·.id) = changedIds (processed a))
    (hstored : ∀ e ∈ queue, db₁.environment e.id = .ok e) :
    Commits inner (fun r => committing r inner) ids processed db where
  aborts r d d' e db' calls hrun hother := by
    rw [committing_ok hinner] at hrun
    cases hfailure : Refresher.firstFailure (r.callsOf d queue) with
    | none =>
      rw [hfailure] at hrun
      cases hrun
    | some err =>
      rw [hfailure] at hrun
      cases hrun
      obtain ⟨text, rfl⟩ := Refresher.firstFailure_isRefresh hfailure
      exact absurd rfl (hother text)
  refresh_iff r d d' result db' calls hrun := by
    rw [committing_ok hinner] at hrun
    cases hfailure : Refresher.firstFailure (r.callsOf d queue) with
    | none =>
      rw [hfailure] at hrun
      cases hrun
      refine iff_of_false (fun ⟨_, h⟩ => by cases h) ?_
      rintro ⟨-, c, hc, hfailed⟩
      exact hfailed (Refresher.firstFailure_eq_none.mp hfailure c hc)
    | some err =>
      rw [hfailure] at hrun
      cases hrun
      obtain ⟨text, rfl⟩ := Refresher.firstFailure_isRefresh hfailure
      exact iff_of_true ⟨text, rfl⟩ ⟨⟨a, queue, hinner⟩, Refresher.firstFailure_eq_some hfailure⟩
  commits r d d' result db' calls hrun _ := by
    -- Whatever is told was in the queue, and what was in the queue is stored.
    have hfst := r.callsOf_map_fst d queue
    have hids : (r.callsOf d queue).map (·.1.id) = changedIds (processed a) := by
      calc (r.callsOf d queue).map (·.1.id)
          = ((r.callsOf d queue).map Prod.fst).map (·.id) := List.map_map.symm
        _ = queue.map (·.id) := by rw [hfst]
        _ = changedIds (processed a) := hqueue
    have htold : ∀ c ∈ r.callsOf d queue, db₁.environment c.1.id = .ok c.1 := by
      intro c hc
      refine hstored c.1 ?_
      rw [← hfst]
      exact List.mem_map_of_mem hc
    rw [committing_ok hinner] at hrun
    cases hfailure : Refresher.firstFailure (r.callsOf d queue) with
    | none =>
      rw [hfailure] at hrun
      cases hrun
      exact ⟨a, queue, hinner, fun b hb => (Except.ok.inj hb).symm, hall, hids, htold⟩
    | some err =>
      rw [hfailure] at hrun
      cases hrun
      exact ⟨a, queue, hinner, nofun, hall, hids, htold⟩

/-- Passing the queue on only after the writes are kept makes the call one that commits. -/
theorem Queues.commits {ids : List EnvironmentId} {processed : α → List Assigned}
    (h : Queues inner ids processed db) :
    Commits inner (fun r => committing r inner) ids processed db := by
  -- What those downstream answer has no part in which of the two it is.
  rcases hinner : inner (db, []) with ⟨err | a, db₁, queue⟩
  · exact .of_error hinner (h.fails err _ hinner)
  · obtain ⟨hall, hqueue, hstored⟩ := h.succeeds a db₁ queue hinner
    exact .of_ok hinner hall hqueue hstored

end Committing

/-! ## Section 4: Updates and assignments -/

theorem update_queues (hown : db.Own) (v : Visiting) (id : EnvironmentId) (u : Update) :
    Queues (Relations.update v Refresher.enqueue id u) [id] (fun o => [⟨id, o⟩]) db := by
  rcases update_enqueue_cases hown.shelf v id u [] with
    ⟨err, db₁, herr, hrun⟩ | ⟨e, o, db₁, he, hid, _, hdb₁, hrun⟩
  · refine ⟨fun e s h => ?_, fun a db' queue h => ?_⟩
    · rw [hrun] at h
      cases h
      exact herr
    · rw [hrun] at h
      cases h
  · refine ⟨fun e s h => ?_, fun a db' queue h => ?_⟩
    · rw [hrun] at h
      cases h
    · rw [hrun] at h
      cases h
      cases ho : o.changed with
      | false => exact ⟨rfl, by simp [changedIds, ho], by simp⟩
      | true =>
        refine ⟨rfl, by simp [changedIds, ho, hid], ?_⟩
        intro q hq
        rw [if_pos rfl, List.nil_append, List.mem_singleton] at hq
        rw [hq, hdb₁, if_pos ⟨hid, ho⟩]

theorem assign_queues (hown : db.Own) (v : Nat → Visiting) (ids : List EnvironmentId)
    (request : Request) :
    Queues (Relations.assign v Refresher.enqueue ids request) ids (fun l => l) db := by
  have hcreated := createNamed_cases (P := Shelf.Own) (fun _ _ _ h _ => h.putTag _)
    (fun _ _ _ h _ => h.putEdgeGroup _) request hown.shelf
  have hassign : (Relations.assign v Refresher.enqueue ids request :
      RunM Database (List Environment) _) = (onStore (createNamed request) >>= fun resolved =>
        assignEach v Refresher.enqueue resolved ids) := rfl
  rw [hassign]
  -- Creating what has a name asks for no refresh, so the batch starts with an empty queue.
  rcases hcreated with ⟨err, db₁, herr, hrun⟩ | ⟨resolved, db₁, hown₁, hrun⟩
  · refine ⟨fun e s h => ?_, fun a db' queue h => ?_⟩
    · rw [StoreM.bind_error (onStore_apply hrun [])] at h
      cases h
      exact herr
    · rw [StoreM.bind_error (onStore_apply hrun [])] at h
      cases h
  · have hempty : Queued resolved db₁ [] := fun _ h => absurd h List.not_mem_nil
    rcases assignEach_cases resolved ids v hown₁ hempty with
      ⟨err, s, herr, hrun'⟩ | ⟨l, db', queue, hrun', hqueue, hall, hids⟩
    · refine ⟨fun e s h => ?_, fun a db' queue h => ?_⟩
      · rw [StoreM.bind_ok (onStore_apply hrun []), hrun'] at h
        cases h
        exact herr
      · rw [StoreM.bind_ok (onStore_apply hrun []), hrun'] at h
        cases h
    · refine ⟨fun e s h => ?_, fun a db' queue h => ?_⟩
      · rw [StoreM.bind_ok (onStore_apply hrun []), hrun'] at h
        cases h
      · rw [StoreM.bind_ok (onStore_apply hrun []), hrun'] at h
        cases h
        exact ⟨hall, hids, fun e he => (hqueue e he).2⟩

/-- Updates and assignments are atomic, tell those downstream only after their writes are kept, and
tell them what is stored, on every database whose records lie under their own ids. -/
theorem update_assign_commit (hown : db.Own) (v : Visiting) (id : EnvironmentId) (u : Update)
    (w : Nat → Visiting) (ids : List EnvironmentId) (request : Request) :
    Commits (Relations.update v Refresher.enqueue id u) (fun r => Database.update v r id u) [id]
        (fun o => [⟨id, o⟩]) db ∧
      Commits (Relations.assign w Refresher.enqueue ids request)
        (fun r => Database.assign w r ids request) ids (fun l => l) db :=
  ⟨(update_queues hown v id u).commits, (assign_queues hown w ids request).commits⟩

/-- A database with a tag that does not decode. -/
def damaged : Database := { sampleDatabase with tags := sampleDatabase.tags.insert 9 "?" }

theorem damaged_own : damaged.Own where
  environments := sampleDatabase_holds.own.environments
  tags id t ht := by
    by_cases hid : id = 9
    · have hbroken : damaged.tag 9 =
          .error (.persistence (.undecodable (.fault .expectedValue))) := rfl
      rw [hid, hbroken] at ht
      cases ht
    · refine sampleDatabase_holds.own.tags id t ?_
      unfold tag readRecord at ht ⊢
      rw [damaged, Table.get?_insert, if_neg hid] at ht
      exact ht
  edgeGroups := sampleDatabase_holds.own.edgeGroups

/-- An update, and an assignment that goes through its environment twice. -/
theorem update_assign_commit_damaged : damaged.Own ∧
    Commits (Relations.update .ascending Refresher.enqueue 1 { tags := some [2] })
        (fun r => Database.update .ascending r 1 { tags := some [2] }) [1]
        (fun o => [⟨1, o⟩]) damaged ∧
      Commits (Relations.assign (fun _ => .ascending) Refresher.enqueue [1, 1]
          { tags := [2], overrideTags := true })
        (fun r => Database.assign (fun _ => .ascending) r [1, 1]
            { tags := [2], overrideTags := true })
        [1, 1] (fun l => l) damaged :=
  ⟨damaged_own, update_assign_commit damaged_own .ascending 1 { tags := some [2] }
    (fun _ => .ascending) [1, 1] { tags := [2], overrideTags := true }⟩

end Database

end EnvRegistry

import EnvRegistry.Proofs.Relations.Assignment
import EnvRegistry.Proofs.Relations.Repetition

/-! # A request that is made again

    A request that succeeded changes nothing when it is made again for the same
    environments, with the ids of the records that it created in place of their
    names (`assign_repeats`): it reports no change, writes nothing, and tells no
    one.

    The second time, the plans are not those of the first time.  An environment
    that had no tags, no edge groups or no group has them now, so the request may
    leave them to it.  What matters is that whatever it still asks for is there
    (`Satisfied`).  This is so for every environment after the batch, also if it
    came up more than once, and it stays so while the request is made again,
    because nothing is written. -/

namespace EnvRegistry.Relations

/-! ## Section 1: Model -/

/-- The environment is as the plan for it wants it. -/
def Satisfied (R : Records) (request : Request) (id : EnvironmentId) : Prop :=
  ∃ e, R.environments.get? id = some e ∧ Fulfilled R (request.plan e (R.memberships id)) id

/-! ## Section 2: After the batch -/

section Records

variable {R R' : Records} {request : Request} {u : Update} {e : Environment}
  {seen : List EnvironmentId} {id : EnvironmentId}

/-- An update by which nothing changes is not in want of anything. -/
theorem not_blocked_of_unchanged (ho : u.outcomeOn R.shelf e = {}) : ¬ Blocked R u e := by
  have hreports := reports_outcomeOn R u e
  rw [ho] at hreports
  rintro (⟨tags, hu, t, hdiffers, -⟩ | ⟨groups, hu, g, hg, hnew, -⟩)
  · -- The tags that are asked for are those that are worn.
    refine Bool.false_ne_true (hreports.tags.mpr ⟨tags, hu, fun heq => ?_⟩)
    have hsame : t ∈ tags ↔ t ∈ e.tagIds := by rw [← mem_ofList_ids, heq, mem_ofList_ids]
    exact hdiffers.elim (fun h => h.2 (hsame.mp h.1)) fun h => h.2 (hsame.mpr h.1)
  · refine Bool.false_ne_true (hreports.edgeGroups.mpr ⟨groups, hu, fun heq => hnew ?_⟩)
    rw [← heq, mem_ofList_ids]
    exact hg

/-- The environments of a batch are as the request wants them. -/
theorem Progress.satisfied (h : Progress R request seen R') (hid : id ∈ seen) :
    Satisfied R' request id := by
  obtain ⟨_, e, -, he, -⟩ := h.applied id hid
  have ho := h.again he hid
  exact ⟨e, he, e, he, not_blocked_of_unchanged ho, ho⟩

end Records

/-! ## Section 3: The request again -/

/-- A request without names creates nothing. -/
theorem createNamed_noNames {σ : Type} [RelationStore σ] {s : σ} {request : Request}
    (htags : request.createTags = []) (hgroups : request.createEdgeGroups = []) :
    createNamed request s = (.ok request, s) := by
  cases request
  cases htags
  cases hgroups
  show (Except.ok (Request.mk (_ ++ []) (_ ++ []) [] [] _ _ _ _), s) = _
  rw [List.append_nil, List.append_nil]

section Again

variable {σ ρ : Type} [RelationStore σ] {φ : σ → Shelf} {P : σ → Prop} {R : Records} {s : σ}
  {request : Request} (hφ : StoreMap φ) (hP : ∀ t, P t → φ t = R.shelf)
  (henv : ∀ id, Maintains P (fun _ => True) (RelationStore.environment id : StoreM σ _))
  (hscan : Maintains P (fun _ => True) (RelationStore.edgeGroups : StoreM σ _))

include hφ hP henv hscan

/-- A step for an environment that is as the request wants it only reads. -/
theorem assignOne_satisfied (hs : P s) {id : EnvironmentId} (h : Satisfied R request id)
    (v : Visiting) (r : Refresher ρ) (d : ρ) :
    ∃ s', assignOne v r request id (s, d) = (.ok ⟨id, {}⟩, (s', d)) ∧ P s' := by
  obtain ⟨e, he, hfulfilled⟩ := h
  -- What is read is the environment and its edge groups as they are among the records.
  have hlook := hφ.environment id s
  have hs₁ := (henv id s hs).1
  rcases hread : (RelationStore.environment id : StoreM σ _) s with ⟨result, s₁⟩
  rw [hP s hs, hread] at hlook
  rw [hread] at hs₁
  obtain rfl : .ok e = result := ((Records.look_ok rfl).mpr he).symm.trans (Prod.mk.inj hlook).1
  have hgroups := hφ.environmentEdgeGroups id s₁
  have hlist : Maintains P (fun _ => True) (environmentEdgeGroups id : StoreM σ _) :=
    hscan.bind fun _ => .pure _
  have hs₂ := (hlist s₁ hs₁).1
  rcases hscanned : (environmentEdgeGroups id : StoreM σ _) s₁ with ⟨result, s₂⟩
  rw [hP s₁ hs₁, hscanned, environmentEdgeGroups_ok R.scan_shelf, R.memberships_shelf] at hgroups
  rw [hscanned] at hs₂
  obtain rfl : .ok (R.memberships id) = result := (Prod.mk.inj hgroups).1
  obtain ⟨s', hrun⟩ := update_fulfilled hφ (hP s₂ hs₂) hfulfilled v r d
  refine ⟨s', ?_, update_reads henv hscan hrun rfl hs₂⟩
  rw [assignOne, StoreM.bind_ok (onStore_apply hread d), StoreM.bind_ok (onStore_apply hscanned d),
    StoreM.bind_ok hrun]
  rfl

/-- A batch of such environments only reads. -/
theorem assignEach_satisfied (hs : P s) {ids : List EnvironmentId}
    (h : ∀ id ∈ ids, Satisfied R request id) (v : Nat → Visiting) (r : Refresher ρ) (d : ρ) :
    ∃ s', assignEach v r request ids (s, d) = (.ok (ids.map fun id => ⟨id, {}⟩), (s', d)) ∧
      P s' := by
  induction ids generalizing s v with
  | nil => exact ⟨s, rfl, hs⟩
  | cons id rest ih =>
    obtain ⟨s₁, hone, hs₁⟩ :=
      assignOne_satisfied hφ hP henv hscan hs (h id List.mem_cons_self) (v 0) r d
    obtain ⟨s', hrest, hs'⟩ := ih hs₁ (fun j hj => h j (List.mem_cons_of_mem id hj))
      fun n => v (n + 1)
    refine ⟨s', ?_, hs'⟩
    rw [assignEach, StoreM.bind_ok hone, StoreM.bind_ok hrest]
    rfl

/-- So does a request without names. -/
theorem assign_satisfied (hs : P s) (htags : request.createTags = [])
    (hgroups : request.createEdgeGroups = []) {ids : List EnvironmentId}
    (h : ∀ id ∈ ids, Satisfied R request id) (v : Nat → Visiting) (r : Refresher ρ) (d : ρ) :
    ∃ s', assign v r ids request (s, d) = (.ok (ids.map fun id => ⟨id, {}⟩), (s', d)) ∧ P s' := by
  have hnamed := createNamed_noNames (s := s) htags hgroups
  rw [assign, StoreM.bind_ok (onStore_apply hnamed d)]
  exact assignEach_satisfied hφ hP henv hscan hs h v r d

end Again

/-! ## Section 4: Both stores -/

section Stores

variable {ρ : Type} {R : Records} {request : Request} {ids : List EnvironmentId}
  (htags : request.createTags = []) (hgroups : request.createEdgeGroups = [])
  (h : ∀ id ∈ ids, Satisfied R request id) (v : Nat → Visiting) (r : Refresher ρ) (d : ρ)

include htags hgroups h

/-- On a store in memory, such a request only counts reads. -/
theorem assign_satisfied_memory {s : MemoryStore} (hs : s.Holds R) :
    ∃ s', assign v r ids request (s, d) = (.ok (ids.map fun id => ⟨id, {}⟩), (s', d)) ∧
      s' = { s with reads := s'.reads } := by
  have hP : ∀ t, (∃ n, t = { s with reads := n }) → t.shelf = R.shelf := by
    rintro _ ⟨n, rfl⟩
    exact hs
  obtain ⟨_, hrun, n, rfl⟩ := assign_satisfied MemoryStore.storeMap hP (environment_onlyReads s)
    (edgeGroups_onlyReads s) ⟨s.reads, rfl⟩ htags hgroups h v r d
  exact ⟨_, hrun, rfl⟩

/-- In a database, such a request writes nothing. -/
theorem assign_satisfied_database {db : Database} (hdb : db.Holds R) :
    assign v r ids request (db, d) = (.ok (ids.map fun id => ⟨id, {}⟩), (db, d)) ∧
      ∀ reads writes, (assign v r ids request
        (({ store := db, reads, writes } : Counted Database), d)).2.1.writes = writes := by
  constructor
  · have hP : ∀ t, t = db → t.shelf = R.shelf := by
      rintro _ rfl
      exact hdb
    obtain ⟨_, hrun, rfl⟩ := assign_satisfied Database.storeMap hP
      (fun _ => Database.query_maintains _) (Database.query_maintains _) rfl htags hgroups h v r d
    exact hrun
  · intro reads writes
    have hP : ∀ c : Counted Database, c.store = db ∧ c.writes = writes →
        (Database.shelf ∘ Counted.store) c = R.shelf := by
      rintro c ⟨rfl, -⟩
      exact hdb
    obtain ⟨c, hrun, -, hwrites⟩ := assign_satisfied (Counted.storeMap.comp Database.storeMap) hP
      (fun _ => query_onlyReads db writes _) (query_onlyReads db writes _)
      (s := { store := db, reads, writes }) ⟨rfl, rfl⟩ htags hgroups h v r d
    rw [hrun]
    exact hwrites

end Stores

/-- A request that succeeded changes nothing, writes nothing and tells no one when it is made again
for the same environments with the ids of what it created, for any records of which no edge group
lists an environment twice: on a store in memory that rejects nothing, inside a transaction of a
database, and as two calls to a database. -/
theorem assign_repeats {ρ : Type} (R : Records) (hR : R.Unrepeated) (v : Nat → Visiting)
    (r : Refresher ρ) (d d₁ : ρ) (ids : List EnvironmentId) (request : Request)
    (results : List Assigned) :
    (∀ s s₁ : MemoryStore, s.Holds R →
      assign v r ids request (s, d) = (.ok results, (s₁, d₁)) →
      ∃ resolved s₀, createNamed request s = (.ok resolved, s₀) ∧
        resolved = { request with
          tags := resolved.tags, edgeGroups := resolved.edgeGroups, createTags := [],
          createEdgeGroups := [] } ∧
        ∀ {ρ' : Type} (v' : Nat → Visiting) (r' : Refresher ρ') (d' : ρ'), ∃ s₂,
          assign v' r'.recorded ids resolved (s₁, (d', [])) =
            (.ok (ids.map fun id => ⟨id, ⟨false, false, false, false⟩⟩), (s₂, (d', []))) ∧
          s₂ = { s₁ with reads := s₂.reads }) ∧
    (∀ db db₁ : Database, db.Holds R →
      assign v r ids request (db, d) = (.ok results, (db₁, d₁)) →
      ∃ resolved db₀, createNamed request db = (.ok resolved, db₀) ∧
        resolved = { request with
          tags := resolved.tags, edgeGroups := resolved.edgeGroups, createTags := [],
          createEdgeGroups := [] } ∧
        ∀ {ρ' : Type} (v' : Nat → Visiting) (r' : Refresher ρ') (d' : ρ'),
          assign v' r'.recorded ids resolved (db₁, (d', [])) =
            (.ok (ids.map fun id => ⟨id, ⟨false, false, false, false⟩⟩), (db₁, (d', []))) ∧
          ∀ reads writes, (assign v' r'.recorded ids resolved
            (({ store := db₁, reads, writes } : Counted Database), (d', []))).2.1.writes = writes) ∧
    ∀ db db₁ : Database, db.Holds R →
      Database.assign v r ids request (db, d) = (.ok results, (db₁, d₁)) →
      ∃ resolved db₀, createNamed request db = (.ok resolved, db₀) ∧
        ∀ {ρ' : Type} (v' : Nat → Visiting) (r' : Refresher ρ') (d' : ρ'),
          Database.assign v' r'.recorded ids resolved (db₁, (d', [])) =
            (.ok (ids.map fun id => ⟨id, ⟨false, false, false, false⟩⟩), (db₁, (d', []))) := by
  -- What the first run leaves, on any store that holds the records.
  have hfirst : ∀ {σ ρ : Type} [RelationStore σ] {φ : σ → Shelf} {s s₁ : σ} {r : Refresher ρ}
      {d d₁ : ρ}, StoreMap φ → φ s = R.shelf →
      assign v r ids request (s, d) = (.ok results, (s₁, d₁)) →
      ∃ resolved s₀ R', createNamed request s = (.ok resolved, s₀) ∧
        resolved = { request with
          tags := resolved.tags, edgeGroups := resolved.edgeGroups, createTags := [],
          createEdgeGroups := [] } ∧
        φ s₁ = R'.shelf ∧ ∀ id ∈ ids, Satisfied R' resolved id := by
    intro σ ρ _ φ s s₁ r d d₁ hφ hs hrun
    obtain ⟨resolved, s₀, R', hnamed, hresolved, -, -, hs₁, hprogress⟩ :=
      assign_progress hφ hs hR hrun
    exact ⟨resolved, s₀, R', hnamed, hresolved, hs₁, fun id hid => hprogress.satisfied hid⟩
  refine ⟨?_, ?_, ?_⟩
  · intro s s₁ hs hrun
    obtain ⟨resolved, s₀, R', hnamed, hresolved, hs₁, hall⟩ := hfirst MemoryStore.storeMap hs hrun
    refine ⟨resolved, s₀, hnamed, hresolved, fun v' r' d' => ?_⟩
    exact assign_satisfied_memory (by rw [hresolved]) (by rw [hresolved]) hall v' r'.recorded
      (d', []) hs₁
  · intro db db₁ hdb hrun
    obtain ⟨resolved, db₀, R', hnamed, hresolved, hdb₁, hall⟩ := hfirst Database.storeMap hdb hrun
    refine ⟨resolved, db₀, hnamed, hresolved, fun v' r' d' => ?_⟩
    exact assign_satisfied_database (by rw [hresolved]) (by rw [hresolved]) hall v' r'.recorded
      (d', []) hdb₁
  · intro db db₁ hdb hrun
    -- A call that succeeds has succeeded inside its transaction, on an empty queue.
    obtain ⟨queue, hinner⟩ := Database.inner_of_committing hrun
    obtain ⟨resolved, db₀, R', hnamed, hresolved, hdb₁, hall⟩ := hfirst Database.storeMap hdb hinner
    refine ⟨resolved, db₀, hnamed, fun v' r' d' => ?_⟩
    obtain ⟨hagain, -⟩ := assign_satisfied_database (by rw [hresolved]) (by rw [hresolved]) hall v'
      Refresher.enqueue [] hdb₁
    exact Database.committing_ok hagain r' d'

/-- The request for an old tag and a new one, once the new one is there. -/
def retagResolved : Request :=
  { tags := [2, 3], group := some 5, overrideTags := true }

/-- The environment of the sample comes up twice in the batch, and the batch is made twice. -/
theorem assign_repeats_retag :
    (∃ s₁ s₂, assign (fun _ => .ascending) Refresher.silent [1, 1] retag (sampleStore, ()) =
        (.ok retagged, (s₁, ())) ∧
      assign (fun _ => .ascending) Refresher.silent.recorded [1, 1] retagResolved (s₁, ((), [])) =
        (.ok [⟨1, ⟨false, false, false, false⟩⟩, ⟨1, ⟨false, false, false, false⟩⟩],
          (s₂, ((), []))) ∧
      s₂ = { s₁ with reads := s₂.reads }) ∧
    (∃ db₁ resolved, assign (fun _ => .ascending) Refresher.silent [1, 1] retag
        (sampleDatabase, ()) =
        (.ok retagged, (db₁, ())) ∧
      assign (fun _ => .ascending) Refresher.silent.recorded [1, 1] resolved (db₁, ((), [])) =
        (.ok [⟨1, ⟨false, false, false, false⟩⟩, ⟨1, ⟨false, false, false, false⟩⟩],
          (db₁, ((), [])))) ∧
    ∃ db₁ resolved, Database.assign (fun _ => .ascending) Refresher.silent [1, 1] retag
        (sampleDatabase, ()) = (.ok retagged, (db₁, ())) ∧
      Database.assign (fun _ => .ascending) Refresher.silent.recorded [1, 1] resolved
        (db₁, ((), [])) =
          (.ok [⟨1, ⟨false, false, false, false⟩⟩, ⟨1, ⟨false, false, false, false⟩⟩],
          (db₁, ((), []))) := by
  obtain ⟨hmemory, hinside, hcalls⟩ := assign_repeats sample sample_indexed.nodup
    (fun _ => .ascending)
    Refresher.silent () () [1, 1] retag retagged
  refine ⟨?_, ?_, ?_⟩
  · obtain ⟨resolved, s₀, hnamed, -, hagain⟩ := hmemory sampleStore _ rfl rfl
    cases hnamed
    obtain ⟨s₂, hrun, hs₂⟩ := hagain (fun _ => .ascending) Refresher.silent ()
    exact ⟨_, s₂, rfl, hrun, hs₂⟩
  · obtain ⟨db₁, hrun⟩ := Database.run_eq_memory (s := sampleStore) sampleDatabase_holds rfl
      (.assign (fun _ => .ascending) Refresher.silent [1, 1] retag) ()
    obtain ⟨resolved, -, -, -, hagain⟩ := hinside sampleDatabase db₁ sampleDatabase_holds hrun
    exact ⟨db₁, resolved, hrun, (hagain (fun _ => .ascending) Refresher.silent ()).1⟩
  · obtain ⟨db₁, hrun⟩ := Database.run_eq_memory (s := sampleStore) sampleDatabase_holds rfl
      (.assign (fun _ => .ascending) Refresher.enqueue [1, 1] retag) []
    have hcalled : Database.assign (fun _ => .ascending) Refresher.silent [1, 1] retag
        (sampleDatabase, ()) = (.ok retagged, (db₁, ())) := by
      have hinner : assign (fun _ => .ascending) Refresher.enqueue [1, 1] retag
        (sampleDatabase, []) = _ := hrun
      rw [Database.assign, Database.committing, hinner]
      rfl
    obtain ⟨resolved, -, -, hagain⟩ := hcalls sampleDatabase db₁ sampleDatabase_holds hcalled
    exact ⟨db₁, resolved, hcalled, hagain (fun _ => .ascending) Refresher.silent ()⟩

end EnvRegistry.Relations

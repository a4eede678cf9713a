import EnvRegistry.Proofs.Database.Singles

/-! # Calls that do not show the order of visits

    What leaves or joins a relation is a set, and its members are visited in some
    order.  A call of the database that is made twice, with two choices of these
    orders, succeeds both times or fails both times.  What it came to, the texts
    of the database and what those downstream were told are the same, unless the
    call was rolled back; then nothing is left of it but its error, and only the
    error may be another one (`update_assign_orderFree`).

    Inside its transaction a run that succeeds is matched by every other run
    (`Emulated`), so two runs that both fail there are the only ones that can
    differ.  Nothing of them outlives the transaction. -/

namespace EnvRegistry

open Relations

/-- Every set is visited by descending id. -/
def Relations.Visiting.descending : Visiting where
  tagsRemoved := ⟨List.reverse, List.reverse_perm⟩
  tagsAdded := ⟨List.reverse, List.reverse_perm⟩
  edgeGroupsRemoved := ⟨List.reverse, List.reverse_perm⟩
  edgeGroupsAdded := ⟨List.reverse, List.reverse_perm⟩

namespace Database

variable {ρ α ω : Type} {db : Database}

/-! ## Section 1: Batches inside a transaction -/

theorem assignOne_order (r : Refresher ρ) (v w : Visiting) (request : Request)
    (id : EnvironmentId) :
    Emulated OwnRun (assignOne v r request id) (assignOne w r request id) := by
  have hread : Emulated (OwnRun (ρ := ρ))
      (onStore (RelationStore.environment id)) (onStore (RelationStore.environment id)) :=
    emulated_onStore (.of_maintains (query_maintains _))
  have hgroups : Emulated (OwnRun (ρ := ρ))
      (onStore (Relations.environmentEdgeGroups id))
      (onStore (Relations.environmentEdgeGroups id)) := by
    rw [environmentEdgeGroups_eq]
    exact emulated_onStore (.of_maintains (query_maintains _))
  exact hread.bind fun e => hgroups.bind fun groups =>
    (update_order r v w id (request.plan e groups)).bind fun _ => .pure _

/-- A batch visits what it changes in an order of its own at each environment. -/
theorem assignEach_order (r : Refresher ρ) (v w : Nat → Visiting) (request : Request)
    (ids : List EnvironmentId) :
    Emulated OwnRun (assignEach v r request ids) (assignEach w r request ids) := by
  induction ids generalizing v w with
  | nil => exact .pure []
  | cons id rest ih =>
    have hrest := ih (fun n => v (n + 1)) (fun n => w (n + 1))
    exact (assignOne_order r (v 0) (w 0) request id).bind fun _ => hrest.bind fun _ => .pure _

theorem assign_order (r : Refresher ρ) (v w : Nat → Visiting) (ids : List EnvironmentId)
    (request : Request) :
    Emulated OwnRun (Relations.assign v r ids request) (Relations.assign w r ids request) := by
  have hcreated : Emulated (fun db : Database => db.shelf.Own) (createNamed request)
      (createNamed request) := by
    refine .of_maintains (Q := fun _ => True) (createNamed_maintains (fun _ _ => ?_) fun _ _ => ?_)
    · refine addRecord_maintains fun db t hown => ?_
      rw [shelf_putTag]
      exact hown.putTag t
    · refine addRecord_maintains fun db g hown => ?_
      rw [shelf_putEdgeGroup]
      exact hown.putEdgeGroup g
  exact (emulated_onStore hcreated).bind fun resolved => assignEach_order r v w resolved ids

/-! ## Section 2: Calls -/

/-- The orders of visits, of which `ω` are the choices, cannot be told from what a call to the
database comes to. -/
structure OrderFree (call : ω → ∀ {ρ : Type}, Refresher ρ → RunM Database ρ α) (db : Database) :
    Prop where
  /-- The call succeeds with all choices or with none. -/
  succeeds_iff : ∀ {ρ : Type} (r : Refresher ρ) (d : ρ) (v w : ω),
    (∃ a t, call v r.recorded (db, (d, [])) = (.ok a, t)) ↔
      ∃ a t, call w r.recorded (db, (d, [])) = (.ok a, t)
  /-- If its writes are kept, then the result, the texts, and what those downstream were told and
  what they made of it are the same with every other choice. -/
  keeps : ∀ {ρ : Type} (r : Refresher ρ) (d : ρ) (v w : ω) (result : Except RegistryError α)
    (db' : Database) (d' : ρ) (calls : List Refresher.Call),
    call v r.recorded (db, (d, [])) = (result, (db', (d', calls))) →
    (∀ e, result = .error e → ∃ text, e = .refresh text) →
    call w r.recorded (db, (d, [])) = (result, (db', (d', calls)))
  /-- If it fails otherwise, then it does so with every other choice, and all of them leave
  everything as it was and told no one. -/
  aborts : ∀ {ρ : Type} (r : Refresher ρ) (d : ρ) (v w : ω) (e : RegistryError)
    (t : Database × ρ × List Refresher.Call),
    call v r.recorded (db, (d, [])) = (.error e, t) → (∀ text, e ≠ .refresh text) →
    t = (db, (d, [])) ∧ ∃ e', call w r.recorded (db, (d, [])) = (.error e', (db, (d, []))) ∧
      ∀ text, e' ≠ .refresh text

section Committing

variable {inner : ω → RunM Database (List Environment) α}

/-- Two runs of a call are the same if they commit. -/
theorem committing_order (h : ∀ v w, Emulated OwnRun (inner v) (inner w)) (hown : db.shelf.Own)
    (v w : ω) {a : α} {db' : Database} {queue : List Environment}
    (hrun : inner v (db, []) = (.ok a, (db', queue))) (r : Refresher ρ) (d : ρ) :
    committing r (inner w) (db, d) = committing r (inner v) (db, d) := by
  have hsame := (h v w (db, []) a (db', queue) hown hrun).1
  simp only [committing, hrun, hsame]

/-- A call is free of the order if no order changes what its transaction succeeds in doing. -/
theorem OrderFree.of_emulated (h : ∀ v w, Emulated OwnRun (inner v) (inner w))
    (hown : db.shelf.Own) (hfails : ∀ v e s, inner v (db, []) = (.error e, s) → e.OfStore) :
    OrderFree (fun v {_} r => committing r (inner v)) db := by
  have hsucceeds : ∀ {ρ : Type} (r : Refresher ρ) (d : ρ) (v w : ω),
      (∃ a t, committing r.recorded (inner v) (db, (d, [])) = (.ok a, t)) →
        ∃ a t, committing r.recorded (inner w) (db, (d, [])) = (.ok a, t) := by
    rintro ρ r d v w ⟨a, ⟨db', d'⟩, hrun⟩
    obtain ⟨queue, hinner⟩ := inner_of_committing hrun
    exact ⟨a, _, (committing_order h hown v w hinner _ _).trans hrun⟩
  refine ⟨fun r d v w => ⟨hsucceeds r d v w, hsucceeds r d w v⟩, ?_, ?_⟩
  · intro ρ r d v w result db' d' calls hrun honly
    rcases hinner : inner v (db, []) with ⟨err | a, db₁, queue⟩
    · -- A transaction that fails does so with an error of the store.
      rw [committing_error hinner] at hrun
      cases hrun
      obtain ⟨text, htext⟩ := honly err rfl
      exact absurd htext ((hfails v err _ hinner).ne_refresh text)
    · exact (committing_order h hown v w hinner _ _).trans hrun
  · intro ρ r d v w e t hrun hother
    rcases hinner : inner v (db, []) with ⟨err | a, db₁, queue⟩
    · rw [committing_error hinner] at hrun
      cases hrun
      refine ⟨rfl, ?_⟩
      -- The other transaction fails too, for else the first one would have come to the same.
      rcases hother' : inner w (db, []) with ⟨err' | a', db₂, queue'⟩
      · exact ⟨err', committing_error hother' _ _, (hfails w err' _ hother').ne_refresh⟩
      · have hback := (h w v (db, []) a' (db₂, queue') hown hother').1
        rw [hinner] at hback
        cases hback
    · -- The transaction succeeds, so that the error is one of those downstream.
      rw [committing_ok hinner] at hrun
      cases hfailure : Refresher.firstFailure (r.callsOf d queue) with
      | none =>
        rw [hfailure] at hrun
        cases hrun
      | some err =>
        rw [hfailure] at hrun
        cases hrun
        obtain ⟨text, htext⟩ := Refresher.firstFailure_isRefresh hfailure
        exact absurd htext (hother text)

end Committing

/-! ## Section 3: Updates and assignments -/

/-- No order of visits shows in an update or an assignment, on any database whose records lie under
their own ids. -/
theorem update_assign_orderFree (hown : db.Own) (id : EnvironmentId) (u : Update)
    (ids : List EnvironmentId) (request : Request) :
    OrderFree (fun (v : Visiting) {_} r => Database.update v r id u) db ∧
      OrderFree (fun (v : Nat → Visiting) {_} r => Database.assign v r ids request) db := by
  constructor
  · exact .of_emulated (fun v w => update_order _ v w id u) hown.shelf
      fun v => (update_queues hown v id u).fails
  · exact .of_emulated (fun v w => assign_order _ v w ids request) hown.shelf
      fun v => (assign_queues hown v ids request).fails

/-- A missing tag and one that does not decode: either way the update fails, and which of the two it
reports is up to the order. -/
theorem update_assign_orderFree_damaged : damaged.Own ∧
    OrderFree (fun (v : Visiting) {_} r => Database.update v r 1 { tags := some [7, 9] }) damaged ∧
    OrderFree (fun (v : Nat → Visiting) {_} r =>
      Database.assign v r [1, 1] { tags := [2], edgeGroups := [3], overrideTags := true }) damaged ∧
    (Database.update .ascending Refresher.silent 1 { tags := some [7, 9] } (damaged, ())).1 =
      .error (.notFound .tag 7) ∧
    (Database.update .descending Refresher.silent 1 { tags := some [7, 9] } (damaged, ())).1 =
      .error (.persistence (.undecodable (.fault .expectedValue))) :=
  have h := update_assign_orderFree damaged_own 1 { tags := some [7, 9] } [1, 1]
    { tags := [2], edgeGroups := [3], overrideTags := true }
  ⟨damaged_own, h.1, h.2, by decide +kernel, by decide +kernel⟩

end Database

end EnvRegistry

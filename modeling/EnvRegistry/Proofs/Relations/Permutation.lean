import EnvRegistry.Proofs.Refresh
import EnvRegistry.Proofs.Relations.Interchange

/-! # The order of a batch does not matter

    A request is applied to one environment after the other, and each of them is
    planned for on a store that those before it have written to.  They share tags
    and edge groups, and still the batch comes to the same in every order, if no
    environment comes up twice (`assign_reordered`): either order succeeds if the
    other does, every environment gets the same outcome and those downstream are
    told the same of it, and the stores at the end differ only in the order in
    which edge groups list their members.

    Both orders are compared with something that has no order, namely what the
    request comes to for each environment alone on the store as it is before the
    batch.  The invariant is `Along`: with all other environments taken out, the
    store is as if the batch had consisted of one environment.  An environment
    sees nothing of those that are taken out, so each step of the batch comes to
    what it comes to alone. -/

namespace EnvRegistry

open Relations

/-! ## Section 1: Model -/

namespace Relations

variable {σ ρ : Type}

section Requests

variable [RelationStore σ]

/-- What a request without names comes to for an environment as it is in the store. -/
def Request.planIn (request : Request) (id : EnvironmentId) : StoreM σ Update := do
  let e ← RelationStore.environment id
  let groups ← environmentEdgeGroups id
  return request.plan e groups

/-- Plans a request without names for an environment, and writes what it comes to. -/
def applyRequest (v : Visiting) (request : Request) (id : EnvironmentId) :
    StoreM σ (Outcome × Environment) := do
  let u ← request.planIn id
  applyUpdate v id u

/-- Every environment of a batch is planned for as if it came first. -/
def Foreseen (v : Nat → Visiting) (r : Refresher ρ) (ids : List EnvironmentId) (request : Request)
    (s : σ) (d : ρ) : Prop :=
  ∀ seen id rest, ids = seen ++ id :: rest →
    ∀ resolved s₀, createNamed request s = (.ok resolved, s₀) →
      ∀ results s₁ d₁, assignEach v r resolved seen (s₀, d) = (.ok results, (s₁, d₁)) →
        (resolved.planIn id s₁).1 = (resolved.planIn id s₀).1

end Requests

/-- How a request that is applied to the environments `ids` compares with the same request applied
to the environments `ids'`, where the last two arguments are what the two came to. -/
structure Reordered (alike : σ → σ → Prop) (ids ids' : List EnvironmentId)
    (run run' : Except RegistryError (List Assigned) × (σ × (ρ × List Refresher.Call))) : Prop where
  succeeds : (∃ results, run'.1 = .ok results) ↔ ∃ results, run.1 = .ok results
  /-- If they succeed, every environment gets the same outcome in both. -/
  outcomes : ∀ results results', run.1 = .ok results → run'.1 = .ok results' →
    ∃ outcome : EnvironmentId → Outcome, results = ids.map (fun id => ⟨id, outcome id⟩) ∧
      results' = ids'.map fun id => ⟨id, outcome id⟩
  store : ∀ results results', run.1 = .ok results → run'.1 = .ok results' → alike run.2.1 run'.2.1
  /-- Those downstream are told of the same environments, with the same values. -/
  calls : ∀ results results', run.1 = .ok results → run'.1 = .ok results' →
    run'.2.2.2.Perm run.2.2.2

end Relations

/-- What a request without names reports of an environment that it is applied to alone. -/
def Shelf.outcome (s : Shelf) (request : Request) (id : EnvironmentId) : Outcome :=
  match (applyRequest .ascending request id s).1 with
  | .ok (o, _) => o
  | .error _ => {}

/-- What those downstream are told of an environment that the request is applied to alone, if they
are told anything. -/
def Shelf.call? (s : Shelf) (request : Request) (id : EnvironmentId) : Option Refresher.Call :=
  match (applyRequest .ascending request id s).1 with
  | .ok (o, e) => if o.changed then some (e, .ok ()) else none
  | .error _ => none

/-- The request can be applied to the environment alone. -/
def Shelf.Allows (s : Shelf) (request : Request) (id : EnvironmentId) : Prop :=
  ∃ after, (applyRequest .ascending request id s).1 = .ok after

/-- The shelf `s` has come out of `s₀` by a request that was applied to the environments `seen`. -/
structure Along (s₀ : Shelf) (request : Request) (seen : List EnvironmentId)
    (s : Shelf) : Prop where
  own : s.Own
  /-- For an environment `id`, with all others of the batch taken out, the shelf is as if `id` had
  been the only one. -/
  left : ∀ id hidden, id ∉ hidden → (∀ j ∈ seen, j ≠ id → j ∈ hidden) → s.without hidden =
    (if id ∈ seen then (applyRequest .ascending request id s₀).2 else s₀).without hidden

/-! ## Section 2: A request for one environment -/

namespace Relations

variable {σ ρ : Type} [RelationStore σ] {v : Visiting} {request : Request} {id : EnvironmentId}
  {s s' : σ}

/-- A step of a batch that fails before it tells anyone leaves those downstream as they were. -/
theorem assignOne_error {r : Refresher ρ} {d : ρ} {err : RegistryError}
    (h : applyRequest v request id s = (.error err, s')) :
    assignOne v r request id (s, d) = (.error err, (s', d)) := by
  unfold applyRequest Request.planIn at h
  unfold assignOne
  rcases henv : (RelationStore.environment id : StoreM σ _) s with ⟨err₁ | e, s₁⟩
  · rw [StoreM.bind_error (StoreM.bind_error henv)] at h
    cases h
    rw [StoreM.bind_error (onStore_apply henv d)]
  · rw [StoreM.bind_ok (onStore_apply henv d)]
    rcases hgroups : (environmentEdgeGroups id : StoreM σ _) s₁ with ⟨err₂ | groups, s₂⟩
    · rw [StoreM.bind_error ((StoreM.bind_ok henv).trans (StoreM.bind_error hgroups))] at h
      cases h
      rw [StoreM.bind_error (onStore_apply hgroups d)]
    · rw [StoreM.bind_ok ((StoreM.bind_ok henv).trans (StoreM.bind_ok hgroups))] at h
      rw [StoreM.bind_ok (onStore_apply hgroups d), StoreM.bind_error (update_error h)]

/-- A step of a batch tells those downstream if it changed something. -/
theorem assignOne_ok {r : Refresher ρ} (hr : ∀ e d, (r e d).1 = .ok ()) {o : Outcome}
    {e : Environment} (h : applyRequest v request id s = (.ok (o, e), s')) (d : ρ)
    (calls : List Refresher.Call) : ∃ d', assignOne v r.recorded request id (s, (d, calls)) =
      (.ok ⟨id, o⟩, (s', (d', calls ++ if o.changed then [(e, .ok ())] else []))) := by
  obtain ⟨u, s₂, hplan, happlied⟩ := StoreM.bind_eq_ok.mp h
  obtain ⟨before, s₁, henv, hplan⟩ := StoreM.bind_eq_ok.mp hplan
  obtain ⟨groups, s₂', hgroups, hplan⟩ := StoreM.bind_eq_ok.mp hplan
  cases hplan
  have hone : assignOne v r.recorded request id (s, (d, calls)) =
      (update v r.recorded id (request.plan before groups) >>= fun o => pure ⟨id, o⟩)
        (s₂, (d, calls)) := by
    rw [assignOne, StoreM.bind_ok (onStore_apply henv _), StoreM.bind_ok (onStore_apply hgroups _)]
  rw [hone]
  cases ho : o.changed with
  | false =>
    refine ⟨d, ?_⟩
    rw [StoreM.bind_ok (update_unchanged happlied ho), if_neg Bool.false_ne_true, List.append_nil]
    rfl
  | true =>
    refine ⟨(r e d).2, ?_⟩
    have hupdate := update_changed (r := r.recorded) (d := (d, calls)) happlied ho
    have htold : r.recorded e (d, calls) = (.ok (), ((r e d).2, calls ++ [(e, .ok ())])) := by
      unfold Refresher.recorded
      rw [hr]
    rw [htold] at hupdate
    rw [StoreM.bind_ok hupdate, if_pos rfl]
    rfl

end Relations

/-! ## Section 3: What an environment sees of the others -/

namespace Shelf

variable {s s' : Shelf} {ids : List EnvironmentId} {id : EnvironmentId}

/-- Planning reads the environment and lists the edge groups. -/
theorem planIn_apply (request : Request) (id : EnvironmentId) (s : Shelf) :
    request.planIn id s = (match Rack.environments.look s id with
      | .error err => .error err
      | .ok e => s.scan.map fun groups => request.plan e (Relations.memberships groups id), s) := by
  have henv : (RelationStore.environment id : StoreM Shelf _) s =
      (Rack.environments.look s id, s) := rfl
  unfold Request.planIn
  cases hlook : Rack.environments.look s id with
  | error err =>
    rw [hlook] at henv
    exact StoreM.bind_error henv
  | ok e =>
    rw [hlook] at henv
    rw [StoreM.bind_ok henv]
    cases hscan : s.scan with
    | error err => exact StoreM.bind_error (environmentEdgeGroups_error hscan)
    | ok groups =>
      rw [StoreM.bind_ok (environmentEdgeGroups_ok hscan), memberships, groups_of_scan hscan]
      rfl

/-- Planning leaves the shelf as it is. -/
theorem planIn_maintains {P : Shelf → Prop} (request : Request) (id : EnvironmentId) :
    Maintains P (fun _ => True) (request.planIn id) := by
  intro s hs
  rw [planIn_apply]
  exact ⟨hs, fun _ _ => trivial⟩

/-- The plan for an environment does not depend on the others. -/
theorem planIn_without (hown : s.Own) (hid : id ∉ ids) (request : Request) :
    (request.planIn id (s.without ids)).1 = (request.planIn id s).1 := by
  have hlook : Rack.environments.look (s.without ids) id =
      (Rack.environments.look s id).map (Environment.without ids) :=
    (Prod.mk.inj ((environments_without ids).read id s)).1
  rw [planIn_apply, planIn_apply, hlook, scan_without]
  cases henv : Rack.environments.look s id with
  | error err => rfl
  | ok e =>
    have he : e.id = id := hown.environments id e (Rack.look_ok.mp henv).2
    have hshown : e.without ids = e := Environment.without_of_not_mem (by rwa [he])
    cases s.scan with
    | error err => rfl
    | ok groups =>
      show Except.ok (request.plan (e.without ids)
        (Relations.memberships (groups.map (EdgeGroup.without ids)) id)) = _
      rw [hshown, memberships_without hid]
      rfl

/-- An update comes to the same for an environment on what is left of a shelf without others. -/
theorem applyUpdate_left (hown : s.Own) (hid : id ∉ ids) (v : Visiting) (u : Update) :
    applyUpdate v id u (s.without ids) =
      ((applyUpdate v id u s).1, (applyUpdate v id u s).2.without ids) := by
  -- A shelf can be counted, and the counts are then forgotten.
  have hcounted := applyUpdate_without (c := { store := s }) 0 0 hid hown v u
  have hwhole := Counted.storeMap.applyUpdate v id u ({ store := s } : Counted Shelf)
  have hpart := Counted.storeMap.applyUpdate v id u ({ store := s.without ids } : Counted Shelf)
  have hstart : Counted.map (without ids) 0 0 ({ store := s } : Counted Shelf) =
      { store := s.without ids } := rfl
  rw [hstart] at hcounted
  rw [hcounted] at hpart
  rw [hwhole]
  exact hpart

/-- A request comes to the same for an environment on what is left of a shelf without others. -/
theorem applyRequest_without (hown : s.Own) (hid : id ∉ ids) (v : Visiting) (request : Request) :
    applyRequest v request id (s.without ids) =
      ((applyRequest v request id s).1, (applyRequest v request id s).2.without ids) := by
  have hplan := planIn_without hown hid request
  have hstate : ∀ s : Shelf, (request.planIn id s).2 = s := fun s => by rw [planIn_apply]
  have hleft : request.planIn id (s.without ids) = ((request.planIn id s).1, s.without ids) :=
    Prod.ext hplan (hstate _)
  rcases hrun : request.planIn id s with ⟨err | u, s₁⟩
  · have hs₁ := hstate s
    rw [hrun] at hleft hs₁
    obtain rfl : s₁ = s := hs₁
    rw [applyRequest, StoreM.bind_error hleft, StoreM.bind_error hrun]
  · have hs₁ := hstate s
    rw [hrun] at hleft hs₁
    obtain rfl : s₁ = s := hs₁
    rw [applyRequest, StoreM.bind_ok hleft, StoreM.bind_ok hrun]
    exact applyUpdate_left hown hid v u

/-- Two shelves of which the same is left without others. -/
theorem applyRequest_shown (hown : s.Own) (hown' : s'.Own) (hid : id ∉ ids)
    (h : s'.without ids = s.without ids) (v : Visiting) (request : Request) :
    (applyRequest v request id s').1 = (applyRequest v request id s).1 ∧
      (applyRequest v request id s').2.without ids =
        (applyRequest v request id s).2.without ids := by
  have hrun := applyRequest_without hown' hid v request
  rw [h, applyRequest_without hown hid v request] at hrun
  obtain ⟨hresult, hleft⟩ := Prod.mk.inj hrun
  exact ⟨hresult.symm, hleft.symm⟩

/-- Nothing that a request does for an environment shows where that environment is missing. -/
theorem applyRequest_hidden (hown : s.Own) (hid : id ∈ ids) (v : Visiting) (request : Request) :
    (applyRequest v request id s).2.Own ∧
      (applyRequest v request id s).2.without ids = s.without ids := by
  have hkept : Maintains (fun t : Shelf => t.Own ∧ t.without ids = s.without ids) (fun _ => True)
      (applyRequest v request id) :=
    (planIn_maintains request id).bind fun u => applyUpdate_maintains hid v u s
  exact (hkept s ⟨hown, rfl⟩).1

/-- A request that succeeds with one order of visits comes to the same with any other. -/
theorem applyRequest_order (v w : Visiting) (request : Request) (id : EnvironmentId) :
    Emulated Own (applyRequest v request id) (applyRequest w request id) := by
  refine (Emulated.of_maintains (planIn_maintains request id)).bind fun u => ?_
  intro s a s' hown hrun
  rcases applyUpdate_cases hown v id u with
    ⟨err, -, herror⟩ | ⟨e, hlook, ⟨hclear, hok⟩ | ⟨-, _, _, err, -, -, -, -, herror⟩⟩
  · rw [herror] at hrun
    cases hrun
  · rw [hok] at hrun
    cases hrun
    refine ⟨?_, hown.updated u e⟩
    -- Whether everything is there does not depend on the order.
    rcases applyUpdate_cases hown w id u with
      ⟨err, hlook', -⟩ | ⟨e', hlook', ⟨-, hok'⟩ | ⟨hnot, -⟩⟩
    · rw [hlook] at hlook'
      cases hlook'
    · rw [hlook] at hlook'
      cases hlook'
      exact hok'
    · rw [hlook] at hlook'
      cases hlook'
      exact absurd hclear hnot
  · rw [herror] at hrun
    cases hrun

end Shelf

/-! ## Section 4: Along a batch -/

namespace Along

variable {s₀ s : Shelf} {request : Request} {seen : List EnvironmentId} {id : EnvironmentId}

theorem nil (hown : s₀.Own) : Along s₀ request [] s₀ where
  own := hown
  left id hidden _ _ := by rw [if_neg List.not_mem_nil]

/-- Before an environment comes up, the shelf without those before it is what it was. -/
theorem untouched (h : Along s₀ request seen s) (hid : id ∉ seen) :
    s.without seen = s₀.without seen := by
  have hleft := h.left id seen hid fun _ hj _ => hj
  rwa [if_neg hid] at hleft

/-- The next environment of the batch is planned for as if it came first. -/
theorem planIn (hown : s₀.Own) (h : Along s₀ request seen s) (hid : id ∉ seen) :
    (request.planIn id s).1 = (request.planIn id s₀).1 := by
  rw [← Shelf.planIn_without h.own hid, h.untouched hid, Shelf.planIn_without hown hid]

/-- The next step of the batch comes to what it comes to alone. -/
theorem applyRequest (hown : s₀.Own) (h : Along s₀ request seen s) (hid : id ∉ seen)
    (v : Visiting) : (applyRequest v request id s).1 = (applyRequest v request id s₀).1 :=
  (Shelf.applyRequest_shown hown h.own hid (h.untouched hid) v request).1

/-- One more step of the batch. -/
theorem append (hown : s₀.Own) (h : Along s₀ request seen s) (hid : id ∉ seen) (v : Visiting)
    {after : Outcome × Environment} {s' : Shelf}
    (hrun : Relations.applyRequest v request id s = (.ok after, s'))
    (halone : (Relations.applyRequest v request id s₀).2 =
      (Relations.applyRequest .ascending request id s₀).2) :
    Along s₀ request (seen ++ [id]) s' := by
  obtain ⟨hown', -⟩ := Shelf.applyRequest_hidden h.own (List.mem_singleton_self id) v request
  rw [hrun] at hown'
  refine ⟨hown', fun j hidden hj hothers => ?_⟩
  by_cases hji : j = id
  · -- The environment that came up: it comes to the same without the others.
    subst hji
    have hbefore : ∀ k ∈ seen, k ∈ hidden := by
      intro k hk
      refine hothers k (List.mem_append_left _ hk) ?_
      rintro rfl
      exact hid hk
    have hleft := h.left j hidden hj fun k hk _ => hbefore k hk
    rw [if_neg hid] at hleft
    have hsame := (Shelf.applyRequest_shown hown h.own hj hleft v request).2
    rw [hrun, halone] at hsame
    rw [if_pos (List.mem_append_right _ (List.mem_singleton_self j)), hsame]
  · -- Another environment: what was done does not show.
    have hhidden : id ∈ hidden :=
      hothers id (List.mem_append_right _ (List.mem_singleton_self id)) (Ne.symm hji)
    obtain ⟨-, hkept⟩ := Shelf.applyRequest_hidden h.own hhidden v request
    have hmem : j ∈ seen ++ [id] ↔ j ∈ seen := by simp [hji]
    rw [hrun] at hkept
    rw [hkept, h.left j hidden hj fun k hk => hothers k (List.mem_append_left _ hk)]
    simp only [hmem]

/-- The same batch in two orders. -/
theorem shuffled {ids ids' : List EnvironmentId} {s' : Shelf} (h : Along s₀ request ids s)
    (h' : Along s₀ request ids' s') (hperm : ids'.Perm ids) : s.Shuffled s' := by
  have hshown : ∀ j, j ∉ ids.filter (· ≠ j) := fun j => by simp
  refine .of_without hshown fun j => ?_
  have hothers : ∀ k ∈ ids, k ≠ j → k ∈ ids.filter (· ≠ j) := fun k hk hne => by simp [hk, hne]
  rw [h.left j _ (hshown j) hothers,
    h'.left j _ (hshown j) fun k hk => hothers k (hperm.mem_iff.mp hk)]
  simp only [hperm.mem_iff]

end Along

namespace Relations

theorem Reordered.of_errors {σ ρ : Type} {alike : σ → σ → Prop} {ids ids' : List EnvironmentId}
    {run run' : Except RegistryError (List Assigned) × (σ × (ρ × List Refresher.Call))}
    {err err' : RegistryError} (h : run.1 = .error err) (h' : run'.1 = .error err') :
    Reordered alike ids ids' run run' where
  succeeds := by
    rw [h, h']
    exact iff_of_false (fun ⟨_, hok⟩ => nomatch hok) fun ⟨_, hok⟩ => nomatch hok
  outcomes results _ hok _ := by
    rw [h] at hok
    cases hok
  store results _ hok _ := by
    rw [h] at hok
    cases hok
  calls results _ hok _ := by
    rw [h] at hok
    cases hok

variable {ρ : Type} {r : Refresher ρ} {request : Request} {s₀ s : Shelf}
  {seen ids : List EnvironmentId}

/-- One step of the batch, for an environment that did not come up before. -/
theorem assignOne_along (hr : ∀ e d, (r e d).1 = .ok ()) (hown : s₀.Own)
    (h : Along s₀ request seen s) {id : EnvironmentId} (hid : id ∉ seen) (v : Visiting) (d : ρ)
    (calls : List Refresher.Call) :
    (s₀.Allows request id ∧ ∃ s' d', assignOne v r.recorded request id (s, (d, calls)) =
        (.ok ⟨id, s₀.outcome request id⟩, (s', (d', calls ++ (s₀.call? request id).toList))) ∧
        Along s₀ request (seen ++ [id]) s') ∨
      ¬ s₀.Allows request id ∧
        ∃ err t, assignOne v r.recorded request id (s, (d, calls)) = (.error err, t) := by
  have hsame := h.applyRequest hown hid v
  -- What the step comes to is what it would come to on the shelf that the batch began with.
  rcases hrun : applyRequest v request id s with ⟨err | ⟨o, e⟩, s'⟩
  · refine .inr ⟨?_, err, _, assignOne_error hrun⟩
    rintro ⟨after, halone⟩
    have hok : applyRequest .ascending request id s₀ = (.ok after, _) := Prod.ext halone rfl
    rw [hrun, (Shelf.applyRequest_order .ascending v request id s₀ after _ hown hok).1] at hsame
    cases hsame
  · rw [hrun] at hsame
    have hok : applyRequest v request id s₀ = (.ok (o, e), (applyRequest v request id s₀).2) :=
      Prod.ext hsame.symm rfl
    have halone := (Shelf.applyRequest_order v .ascending request id s₀ (o, e) _ hown hok).1
    obtain ⟨d', hone⟩ := assignOne_ok hr hrun d calls
    refine .inl ⟨⟨(o, e), by rw [halone]⟩, s', d', ?_, h.append hown hid v hrun (by rw [halone])⟩
    rw [hone]
    unfold Shelf.outcome Shelf.call?
    rw [halone]
    simp only
    split
    · rfl
    · rfl

/-- The whole batch succeeds if the request can be applied to each environment alone, and comes to
what it comes to for each of them alone. -/
theorem assignEach_along (hr : ∀ e d, (r e d).1 = .ok ()) (hown : s₀.Own)
    (h : Along s₀ request seen s) (hnodup : (seen ++ ids).Nodup) (v : Nat → Visiting) (d : ρ)
    (calls : List Refresher.Call) :
    ((∀ id ∈ ids, s₀.Allows request id) ∧ ∃ s' d',
        assignEach v r.recorded request ids (s, (d, calls)) =
          (.ok (ids.map fun id => ⟨id, s₀.outcome request id⟩),
            (s', (d', calls ++ ids.filterMap (s₀.call? request)))) ∧
        Along s₀ request (seen ++ ids) s') ∨
      (¬ ∀ id ∈ ids, s₀.Allows request id) ∧
        ∃ err t, assignEach v r.recorded request ids (s, (d, calls)) = (.error err, t) := by
  induction ids generalizing seen s v d calls with
  | nil =>
    refine .inl ⟨nofun, s, d, ?_, ?_⟩
    · rw [List.filterMap_nil, List.append_nil]
      rfl
    · rw [List.append_nil]
      exact h
  | cons id rest ih =>
    -- No environment comes up twice, so the next one has not been changed yet.
    have hid : id ∉ seen := fun hseen =>
      (List.nodup_append.mp hnodup).2.2 id hseen id List.mem_cons_self rfl
    rw [List.append_cons] at hnodup
    unfold assignEach
    rcases assignOne_along hr hown h hid (v 0) d calls with
      ⟨hallows, s₁, d₁, hone, hnext⟩ | ⟨hnot, err, t, hone⟩
    · rw [StoreM.bind_ok hone]
      rcases ih hnext hnodup (fun n => v (n + 1)) d₁ (calls ++ (s₀.call? request id).toList) with
        ⟨hrest, s', d', hrun, hlast⟩ | ⟨hnot, err, t, hrun⟩
      · refine .inl ⟨?_, s', d', ?_, ?_⟩
        · intro j hj
          rcases List.mem_cons.mp hj with rfl | hj
          · exact hallows
          · exact hrest j hj
        · rw [StoreM.bind_ok hrun, List.map_cons, List.append_assoc]
          cases hcall : s₀.call? request id with
          | none =>
            rw [List.filterMap_cons_none hcall]
            rfl
          | some c =>
            rw [List.filterMap_cons_some hcall]
            rfl
        · rw [List.append_cons]
          exact hlast
      · refine .inr ⟨fun hall => hnot fun j hj => hall j (List.mem_cons_of_mem id hj), err, t, ?_⟩
        rw [StoreM.bind_error hrun]
    · refine .inr ⟨fun hall => hnot (hall id List.mem_cons_self), err, t, ?_⟩
      rw [StoreM.bind_error hone]

/-! ## Section 5: Two orders -/

section Orders

variable {ids' : List EnvironmentId} (hr : ∀ e d, (r e d).1 = .ok ()) (hnodup : ids.Nodup)
  (hperm : ids'.Perm ids) (v v' : Nat → Visiting) (d : ρ)

include hr hnodup hperm

/-- Two orders of a batch, once the records that the request names are there. -/
theorem assignEach_reordered (hown : s.Own) (request : Request) :
    Reordered Shelf.Shuffled ids ids' (assignEach v r.recorded request ids (s, (d, [])))
      (assignEach v' r.recorded request ids' (s, (d, []))) := by
  have hstart : Along s request [] s := .nil hown
  have hall : (∀ id ∈ ids', s.Allows request id) ↔ ∀ id ∈ ids, s.Allows request id :=
    forall_congr' fun id => by rw [hperm.mem_iff]
  rcases assignEach_along hr hown hstart hnodup v d [] with
      ⟨hallows, s₁, d₁, hrun, halong⟩ | ⟨hnot, err, t, hrun⟩
  · rcases assignEach_along hr hown hstart (hperm.nodup_iff.mpr hnodup) v' d [] with
      ⟨-, s₂, d₂, hrun', halong'⟩ | ⟨hnot, -⟩
    · rw [hrun, hrun']
      refine ⟨iff_of_true ⟨_, rfl⟩ ⟨_, rfl⟩, ?_, ?_, ?_⟩
      · intro results results' h h'
        cases h
        cases h'
        exact ⟨s.outcome request, rfl, rfl⟩
      · intro _ _ _ _
        exact halong.shuffled halong' hperm
      · intro _ _ _ _
        exact hperm.filterMap _
    · exact absurd (hall.mpr hallows) hnot
  · rcases assignEach_along hr hown hstart (hperm.nodup_iff.mpr hnodup) v' d [] with
      ⟨hallows, -⟩ | ⟨-, err', t', hrun'⟩
    · exact absurd (hall.mp hallows) hnot
    · rw [hrun, hrun']
      exact .of_errors rfl rfl

theorem assign_reordered_shelf (hown : s.Own) (request : Request) :
    Reordered Shelf.Shuffled ids ids' (assign v r.recorded ids request (s, (d, [])))
      (assign v' r.recorded ids' request (s, (d, []))) := by
  have hcreated := Shelf.createNamed_own hown request
  rcases hnamed : createNamed request s with ⟨err | resolved, s₀⟩
  · -- Nothing is assigned in either order.
    have hfails : ∀ v ids, assign v r.recorded ids request (s, (d, [])) =
        (.error err, (s₀, (d, []))) := fun _ _ => StoreM.bind_error (onStore_apply hnamed _)
    rw [hfails, hfails]
    exact .of_errors rfl rfl
  · rw [hnamed] at hcreated
    have hassign : ∀ v ids, assign v r.recorded ids request (s, (d, [])) =
        assignEach v r.recorded resolved ids (s₀, (d, [])) :=
      fun _ _ => StoreM.bind_ok (onStore_apply hnamed _)
    rw [hassign, hassign]
    exact assignEach_reordered hr hnodup hperm v v' d hcreated resolved

omit hperm in
theorem foreseen_shelf (hown : s.Own) (request : Request) :
    Foreseen v r.recorded ids request s (d, []) := by
  rintro seen id rest rfl resolved s₀ hnamed results s₁ ⟨d₁, calls₁⟩ hrun
  have hown₀ := Shelf.createNamed_own hown request
  rw [hnamed] at hown₀
  obtain ⟨hseen, -, hfresh⟩ := List.nodup_append.mp hnodup
  have hid : id ∉ seen := fun h => hfresh id h id List.mem_cons_self rfl
  rcases assignEach_along hr hown₀ (.nil hown₀) hseen v d [] with
    ⟨-, s', d', hrun', halong⟩ | ⟨-, err, t, hrun'⟩
  · rw [hrun] at hrun'
    cases hrun'
    exact halong.planIn hown₀ hid
  · rw [hrun] at hrun'
    cases hrun'

/-! ## Section 6: Every store -/

variable {σ : Type} [RelationStore σ] {φ : σ → Shelf} (hφ : StoreMap φ) {t : σ}

include hφ

theorem assign_reordered_store (hown : (φ t).Own) (request : Request) :
    Reordered (fun t t' => (φ t).Shuffled (φ t')) ids ids'
        (assign v r.recorded ids request (t, (d, [])))
        (assign v' r.recorded ids' request (t, (d, []))) ∧
      Foreseen v r.recorded ids request t (d, []) := by
  constructor
  · have hshelf := assign_reordered_shelf hr hnodup hperm v v' d hown request
    have hrun : ∀ v ids, assign v r.recorded ids request (φ t, (d, [])) =
        ((assign v r.recorded ids request (t, (d, []))).1,
          alongside _ φ (assign v r.recorded ids request (t, (d, []))).2) :=
      fun v ids => hφ.assign v r.recorded ids request (t, (d, []))
    rw [hrun, hrun] at hshelf
    exact ⟨hshelf.succeeds, hshelf.outcomes, hshelf.store, hshelf.calls⟩
  · rintro seen id rest hids resolved t₀ hnamed results t₁ d₁ hrun
    have hplan : ∀ t, resolved.planIn id (φ t) = ((resolved.planIn id t).1, _) :=
      (hφ.environment id).bind fun e => (hφ.environmentEdgeGroups id).bind fun _ => .pure _
    have hnamed' := hφ.createNamed request t
    have hrun' : assignEach v r.recorded resolved seen (φ t₀, (d, [])) = _ :=
      hφ.assignEach v r.recorded resolved seen (t₀, (d, []))
    rw [hnamed] at hnamed'
    rw [hrun] at hrun'
    have hforeseen := foreseen_shelf hr hnodup v d hown request seen id rest hids resolved _ hnamed'
      results _ _ hrun'
    rw [hplan, hplan] at hforeseen
    exact hforeseen

omit hφ in
/-- A request comes to the same for a batch of environments in every order, if none of them comes up
twice and those downstream never fail, on every store in memory and inside a transaction of every
database whose records lie under their own ids.  Every environment is planned for as if it came
first. -/
theorem assign_reordered (request : Request) :
    (∀ s : MemoryStore,
      Reordered (fun s s' => s.shelf.Shuffled s'.shelf) ids ids'
          (assign v r.recorded ids request (s, (d, [])))
          (assign v' r.recorded ids' request (s, (d, []))) ∧
        Foreseen v r.recorded ids request s (d, [])) ∧
    ∀ db : Database, db.Own →
      Reordered (fun db db' => db.shelf.Shuffled db'.shelf) ids ids'
          (assign v r.recorded ids request (db, (d, [])))
          (assign v' r.recorded ids' request (db, (d, []))) ∧
        Foreseen v r.recorded ids request db (d, []) :=
  ⟨fun s => assign_reordered_store hr hnodup hperm v v' d MemoryStore.storeMap s.own_shelf request,
    fun db hown =>
      assign_reordered_store hr hnodup hperm v v' d Database.storeMap (t := db) hown.shelf request⟩

end Orders

/-- Two environments join an edge group, and it lists them in the order of the batch; and a request
for a tag in a database. -/
theorem assign_reordered_meeting :
    (∃ s s' calls calls',
      assign (fun _ => .ascending) Refresher.silent.recorded [1, 2] { edgeGroups := [3] }
          (meeting, ((), [])) =
            (.ok [⟨1, ⟨true, false, false, true⟩⟩, ⟨2, ⟨true, false, false, true⟩⟩],
            (s, ((), calls))) ∧
      assign (fun _ => .ascending) Refresher.silent.recorded [2, 1] { edgeGroups := [3] }
          (meeting, ((), [])) =
            (.ok [⟨2, ⟨true, false, false, true⟩⟩, ⟨1, ⟨true, false, false, true⟩⟩],
            (s', ((), calls'))) ∧
      s.shelf.Shuffled s'.shelf ∧ calls'.Perm calls ∧
      s.edgeGroups.get? 3 = some { id := 3, name := "g", members := [1, 2] } ∧
      s'.edgeGroups.get? 3 = some { id := 3, name := "g", members := [2, 1] }) ∧
    (sampleDatabase.putEnvironment { id := 2, name := "b" }).Own ∧
    Reordered (fun db db' => db.shelf.Shuffled db'.shelf) [1, 2] [2, 1]
      (assign (fun _ => .ascending) Refresher.silent.recorded [1, 2] { tags := [2] }
        (sampleDatabase.putEnvironment { id := 2, name := "b" }, ((), [])))
      (assign (fun _ => .ascending) Refresher.silent.recorded [2, 1] { tags := [2] }
        (sampleDatabase.putEnvironment { id := 2, name := "b" }, ((), []))) := by
  have hr : ∀ (e : Environment) (d : Unit), (Refresher.silent e d).1 = .ok () := fun _ _ => rfl
  have hnodup : ([1, 2] : List EnvironmentId).Nodup := by decide
  have hperm : ([2, 1] : List EnvironmentId).Perm [1, 2] := .swap 1 2 []
  have hown : (sampleDatabase.putEnvironment { id := 2, name := "b" }).Own :=
    (sampleDatabase_holds.putEnvironment _).own
  have hmeeting := ((assign_reordered hr hnodup hperm (fun _ => .ascending) (fun _ => .ascending) ()
    { edgeGroups := [3] }).1 meeting).1
  refine ⟨⟨_, _, _, _, rfl, rfl, ?_, ?_, rfl, rfl⟩, hown, ?_⟩
  · exact hmeeting.store _ _ rfl rfl
  · exact hmeeting.calls _ _ rfl rfl
  · exact ((assign_reordered hr hnodup hperm (fun _ => .ascending) (fun _ => .ascending) ()
      { tags := [2] }).2 _ hown).1

end Relations

end EnvRegistry

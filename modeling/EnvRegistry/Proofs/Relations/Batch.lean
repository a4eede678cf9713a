import EnvRegistry.Proofs.Relations.Apply

/-! # Many records and many environments

    A request creates records one after the other, and is then applied to one
    environment after the other.  What every one of these steps maintains, all
    of them maintain, however far they come (`createNamed_maintains`,
    `assignEach_maintains`).

    With it, `createNamed_made` says what there is after the first part: all
    that was there before, and some of the records that the request names, each
    without members and under an id that was free. -/

namespace EnvRegistry.Relations

variable {σ ρ : Type} [RelationStore σ]

/-! ## Section 1: Invariants of a batch -/

section Maintains

variable {P : σ → Prop} {Q : RegistryError → Prop}

theorem createTags_maintains {names : List String}
    (h : ∀ name ∈ names, Maintains P Q (RelationStore.createTag name)) :
    Maintains P Q (createTags names) := by
  induction names with
  | nil => exact .pure []
  | cons name rest ih =>
    have hrest := ih fun name hname => h name (List.mem_cons_of_mem _ hname)
    exact (h name List.mem_cons_self).bind fun _ => hrest.bind fun _ => .pure _

theorem createEdgeGroups_maintains {names : List String}
    (h : ∀ name ∈ names, Maintains P Q (RelationStore.createEdgeGroup name)) :
    Maintains P Q (createEdgeGroups names) := by
  induction names with
  | nil => exact .pure []
  | cons name rest ih =>
    have hrest := ih fun name hname => h name (List.mem_cons_of_mem _ hname)
    exact (h name List.mem_cons_self).bind fun _ => hrest.bind fun _ => .pure _

/-- What every new record maintains, creating the records that a request names maintains. -/
theorem createNamed_maintains {request : Request}
    (htag : ∀ name ∈ request.createTags, Maintains P Q (RelationStore.createTag name))
    (hgroup : ∀ name ∈ request.createEdgeGroups,
      Maintains P Q (RelationStore.createEdgeGroup name)) :
    Maintains P Q (createNamed request) :=
  (createTags_maintains htag).bind fun _ =>
    (createEdgeGroups_maintains hgroup).bind fun _ => .pure _

omit [RelationStore σ] in
/-- What an operation maintains of the store alone. -/
theorem onStore_maintains {α : Type} {m : StoreM σ α} (h : Maintains P Q m) :
    Maintains (fun t : σ × ρ => P t.1) Q (onStore m) := by
  rintro ⟨s, d⟩ hs
  exact h s hs

/-- An update maintains of the store what applying it does; those downstream may fail with any
error. -/
theorem update_maintains {v : Visiting} {r : Refresher ρ} {id : EnvironmentId} {u : Update}
    (h : Maintains P (fun _ => True) (applyUpdate v id u)) :
    Maintains (fun t : σ × ρ => P t.1) (fun _ => True) (update v r id u) := by
  rintro ⟨s, d⟩ hs
  refine ⟨?_, fun _ _ => trivial⟩
  show P (update v r id u (s, d)).2.1
  rw [update_store]
  exact (h s hs).1

variable {ids : List EnvironmentId}
  (henv : ∀ id, Maintains P (fun _ => True) (RelationStore.environment id : StoreM σ _))
  (hscan : Maintains P (fun _ => True) (RelationStore.edgeGroups : StoreM σ _))

include henv hscan

/-- What reading and every update maintain, applying a request to many environments maintains. -/
theorem assignEach_maintains
    (hupdate : ∀ v, ∀ id ∈ ids, ∀ u, Maintains P (fun _ => True) (applyUpdate v id u))
    (v : Nat → Visiting) (r : Refresher ρ) (request : Request) :
    Maintains (fun t : σ × ρ => P t.1) (fun _ => True) (assignEach v r request ids) := by
  induction ids generalizing v with
  | nil => exact .pure []
  | cons id rest ih =>
    have hgroups : Maintains P (fun _ => True) (environmentEdgeGroups id : StoreM σ _) :=
      hscan.bind fun _ => .pure _
    have hone : Maintains (fun t : σ × ρ => P t.1) (fun _ => True) (assignOne (v 0) r request id) :=
      (onStore_maintains (henv id)).bind fun _ => (onStore_maintains hgroups).bind fun _ =>
        (update_maintains (hupdate (v 0) id List.mem_cons_self _)).bind fun _ => .pure _
    exact hone.bind fun _ =>
      (ih (fun v id hid => hupdate v id (List.mem_cons_of_mem _ hid)) _).bind fun _ => .pure _

end Maintains

/-! ## Section 2: What a request creates -/

/-- A table that has kept all of another one; what it holds beyond it are records that satisfy
`new`. -/
structure Grown {α : Type} (new : UInt32 → α → Prop) (t t' : Table (Cell α)) : Prop where
  kept : ∀ id, t.get? id ≠ none → t'.get? id = t.get? id
  made : ∀ id cell, t.get? id = none → t'.get? id = some cell → ∃ a, new id a ∧ cell = .ok a

/-- The shelf `s'` holds what the shelf `s` holds, and some of the records that a request names. -/
structure Made (request : Request) (s s' : Shelf) : Prop where
  environments : s'.environments = s.environments
  tags : Grown (fun id t => ∃ name ∈ request.createTags, t = { id, name }) s.tags s'.tags
  edgeGroups : Grown (fun id g => ∃ name ∈ request.createEdgeGroups, g = { id, name })
    s.edgeGroups s'.edgeGroups

section Grown

variable {α : Type} {new : UInt32 → α → Prop} {t t' : Table (Cell α)}

theorem Grown.refl (t : Table (Cell α)) : Grown new t t where
  kept _ _ := rfl
  made id cell hnone hcell := by
    rw [hnone] at hcell
    cases hcell

/-- One more record, under an id that is free. -/
theorem Grown.insert (h : Grown new t t') {id : UInt32} (hid : t'.get? id = none) {a : α}
    (ha : new id a) : Grown new t (t'.insert id (.ok a)) where
  kept j hj := by
    rw [Table.get?_insert]
    split
    · -- What was there is still there, so its id is not free.
      next hsame =>
      rw [hsame] at hj ⊢
      rw [h.kept id hj] at hid
      exact absurd hid hj
    · exact h.kept j hj
  made j cell hnone hcell := by
    rw [Table.get?_insert] at hcell
    split at hcell
    · next hsame =>
      cases hcell
      rw [hsame]
      exact ⟨a, ha, rfl⟩
    · exact h.made j cell hnone hcell

end Grown

theorem Made.refl (request : Request) (s : Shelf) : Made request s s := ⟨rfl, .refl _, .refl _⟩

/-- What holds after a new record of some kind. -/
theorem add_maintains {α : Type} {k : Rack α} {P : Shelf → Prop} {make : UInt32 → α}
    (h : ∀ s id, P s → nextId (k.get s).lastId? = .ok id → P (k.put (make id) s)) :
    Maintains P RegistryError.OfStore (k.add make) := by
  intro s hs
  rcases k.add_cases make s with ⟨err, herr, hrun⟩ | ⟨id, hid, hrun⟩
  · rw [hrun]
    refine ⟨hs, fun err' h => ?_⟩
    cases h
    exact herr
  · rw [hrun]
    exact ⟨h s id hs hid, nofun⟩

/-- However far the creation of the records comes, nothing that was there is lost or changed. -/
theorem createNamed_made (request : Request) (s : Shelf) :
    Made request s (createNamed request s).2 := by
  refine (createNamed_maintains (Q := RegistryError.OfStore) ?_ ?_ s (.refl request s)).1
  · intro name hname
    refine add_maintains (k := .tags) fun s' id h hid => ⟨h.environments, ?_, h.edgeGroups⟩
    exact h.tags.insert (Table.get?_nextId hid) ⟨name, hname, rfl⟩
  · intro name hname
    refine add_maintains (k := .edgeGroups) fun s' id h hid => ⟨h.environments, h.tags, ?_⟩
    exact h.edgeGroups.insert (Table.get?_nextId hid) ⟨name, hname, rfl⟩

end EnvRegistry.Relations

import EnvRegistry.Proofs.Refresh
import EnvRegistry.Proofs.Relations.Apply
import EnvRegistry.Proofs.Store.Views

/-! # Updates that stop halfway

    An update of a store in memory can fail at any read or write.  Whatever
    fails, and in whatever order the reconcilers go through their records, the
    store is left at a stage of the update (`Halted`): no environment has
    changed, no record has changed but those that were to change hands, and of
    these each is as it was or as it was to be. -/

namespace EnvRegistry.MemoryStore

open Relations

/-! ## Section 1: What the update was to change -/

/-- How an update changes the tags of a stored environment. -/
def tagDelta (s : MemoryStore) (id : EnvironmentId) (u : Update) : Delta TagId :=
  match s.environments.get? id with
  | some e => u.tagDelta e
  | none => .nothing

/-- How an update changes the edge groups of an environment. -/
def edgeGroupDelta (s : MemoryStore) (id : EnvironmentId) (u : Update) : Delta EdgeGroupId :=
  u.edgeGroupDelta (memberships s.edgeGroups.values id)

theorem tagDelta_disjoint (s : MemoryStore) (id : EnvironmentId) (u : Update) (t : TagId)
    (h : t ∈ (s.tagDelta id u).toAdd) : ¬ t ∈ (s.tagDelta id u).toRemove := by
  unfold tagDelta at h ⊢
  split at h
  · exact u.tagDelta_disjoint _ t h
  · exact KeySet.not_mem_empty

theorem edgeGroupDelta_disjoint (s : MemoryStore) (id : EnvironmentId) (u : Update)
    (g : EdgeGroupId) (h : g ∈ (s.edgeGroupDelta id u).toAdd) :
    ¬ g ∈ (s.edgeGroupDelta id u).toRemove := u.edgeGroupDelta_disjoint _ g h

/-- The tags as the completed reconciler leaves them. -/
def reconciledTags (s : MemoryStore) (id : EnvironmentId) (u : Update) : Table Tag :=
  s.tags.map ((s.tagDelta id u).onTag id)

/-- The edge groups as the completed reconciler leaves them. -/
def reconciledEdgeGroups (s : MemoryStore) (id : EnvironmentId) (u : Update) : Table EdgeGroup :=
  s.edgeGroups.map ((s.edgeGroupDelta id u).onEdgeGroup id)

/-! ## Section 2: Tables at a stage -/

section Stage

variable {α : Type} {t : Table α} {done d : Delta UInt32} {key : α → UInt32} {leave join : α → α}
  (hkeyed : t.Keyed key) (hstage : done.Stage d)
  (hdisjoint : ∀ id, id ∈ d.toAdd → ¬ id ∈ d.toRemove)

include hkeyed

include hstage in
/-- A record outside the delta is as it was. -/
theorem get?_outside {id : UInt32} (hid : ¬ d.Touches id) :
    (t.map (done.on key leave join)).get? id = t.get? id :=
  Delta.get?_untouched hkeyed fun h => hid (hstage.touches h)

include hstage hdisjoint

omit hkeyed in
/-- A record is as it was or as it was to be. -/
theorem get?_inside (id : UInt32) :
    (t.map (done.on key leave join)).get? id = t.get? id ∨
      (t.map (done.on key leave join)).get? id = (t.map (d.on key leave join)).get? id := by
  rw [Table.get?_map, Table.get?_map]
  cases t.get? id with
  | none => exact .inl rfl
  | some a => exact (hstage.on_eq hdisjoint key leave join a).imp (congrArg some) (congrArg some)

/-- If a record that was to join has changed, then all that were to leave have left. -/
theorem get?_removalsFirst
    (hadd : ∃ id, id ∈ d.toAdd ∧ (t.map (done.on key leave join)).get? id ≠ t.get? id) (id : UInt32)
    (hid : id ∈ d.toRemove) :
    (t.map (done.on key leave join)).get? id = (t.map (d.on key leave join)).get? id := by
  obtain ⟨j, hj, hchanged⟩ := hadd
  have htouched : done.Touches j := by
    by_contra h
    exact hchanged (Delta.get?_untouched hkeyed h)
  have hjoined : j ∈ done.toAdd :=
    htouched.resolve_left fun h => hdisjoint j hj (hstage.removed j h)
  have hleft : id ∈ done.toRemove := by rwa [hstage.removalsFirst ⟨j, hjoined⟩]
  rw [Delta.get?_left hkeyed hleft, Delta.get?_left hkeyed hid]

end Stage

/-! ## Section 3: Stores at a stage -/

/-- The store `s'` that an update of the store `s` leaves when it stops halfway. -/
structure Halted (id : EnvironmentId) (u : Update) (s s' : MemoryStore) : Prop where
  /-- No environment has changed. -/
  environments : s'.environments = s.environments
  /-- Part of each delta was carried out, and of the second one only if the first is complete. -/
  stage : ∃ (tags : Delta TagId) (edgeGroups : Delta EdgeGroupId),
    tags.Stage (s.tagDelta id u) ∧ edgeGroups.Stage (s.edgeGroupDelta id u) ∧
    ((∃ g, edgeGroups.Touches g) → tags = s.tagDelta id u) ∧
    s'.tags = s.tags.map (tags.onTag id) ∧
    s'.edgeGroups = s.edgeGroups.map (edgeGroups.onEdgeGroup id)
  /-- Tags that the environment keeps, or neither has nor wants, have not changed. -/
  tagsOutside : ∀ t, ¬ (s.tagDelta id u).Touches t → s'.tags.get? t = s.tags.get? t
  /-- Edge groups that the environment keeps, or neither has nor wants, have not changed. -/
  edgeGroupsOutside : ∀ g, ¬ (s.edgeGroupDelta id u).Touches g →
    s'.edgeGroups.get? g = s.edgeGroups.get? g
  /-- Every tag is as it was or as it was to be. -/
  tagsInside : ∀ t, s'.tags.get? t = s.tags.get? t ∨
    s'.tags.get? t = (s.reconciledTags id u).get? t
  /-- Every edge group is as it was or as it was to be. -/
  edgeGroupsInside : ∀ g, s'.edgeGroups.get? g = s.edgeGroups.get? g ∨
    s'.edgeGroups.get? g = (s.reconciledEdgeGroups id u).get? g
  /-- No tag is added before all removals of tags are done. -/
  tagRemovalsFirst : (∃ t, t ∈ (s.tagDelta id u).toAdd ∧ s'.tags.get? t ≠ s.tags.get? t) →
    ∀ t, t ∈ (s.tagDelta id u).toRemove → s'.tags.get? t = (s.reconciledTags id u).get? t
  /-- No edge group is added before all removals of edge groups are done. -/
  edgeGroupRemovalsFirst :
    (∃ g, g ∈ (s.edgeGroupDelta id u).toAdd ∧ s'.edgeGroups.get? g ≠ s.edgeGroups.get? g) →
    ∀ g, g ∈ (s.edgeGroupDelta id u).toRemove →
      s'.edgeGroups.get? g = (s.reconciledEdgeGroups id u).get? g
  /-- No edge group changes before all tags are done. -/
  tagsFirst : (∃ g, s'.edgeGroups.get? g ≠ s.edgeGroups.get? g) →
    s'.tags = s.reconciledTags id u

/-- Everything else follows from the stage. -/
theorem Halted.of_stage {id : EnvironmentId} {u : Update} {s s' : MemoryStore}
    {tags : Delta TagId} {edgeGroups : Delta EdgeGroupId} (henv : s'.environments = s.environments)
    (htags : tags.Stage (s.tagDelta id u)) (hgroups : edgeGroups.Stage (s.edgeGroupDelta id u))
    (hfirst : (∃ g, edgeGroups.Touches g) → tags = s.tagDelta id u)
    (ht : s'.tags = s.tags.map (tags.onTag id))
    (hg : s'.edgeGroups = s.edgeGroups.map (edgeGroups.onEdgeGroup id)) : Halted id u s s' where
  environments := henv
  stage := ⟨tags, edgeGroups, htags, hgroups, hfirst, ht, hg⟩
  tagsOutside _ h := by
    rw [ht]
    exact get?_outside s.tagsKeyed htags h
  edgeGroupsOutside _ h := by
    rw [hg]
    exact get?_outside s.edgeGroupsKeyed hgroups h
  tagsInside t := by
    rw [ht]
    exact get?_inside htags (s.tagDelta_disjoint id u) t
  edgeGroupsInside g := by
    rw [hg]
    exact get?_inside hgroups (s.edgeGroupDelta_disjoint id u) g
  tagRemovalsFirst := by
    rw [ht]
    exact get?_removalsFirst s.tagsKeyed htags (s.tagDelta_disjoint id u)
  edgeGroupRemovalsFirst := by
    rw [hg]
    exact get?_removalsFirst s.edgeGroupsKeyed hgroups (s.edgeGroupDelta_disjoint id u)
  tagsFirst := by
    rintro ⟨g, hchanged⟩
    -- If an edge group has changed, the tags are done, whatever they were to become.
    have htouched : edgeGroups.Touches g := by
      by_contra h
      rw [hg] at hchanged
      exact hchanged (Delta.get?_untouched s.edgeGroupsKeyed h)
    rw [ht, hfirst ⟨g, htouched⟩, reconciledTags]

/-! ## Section 4: Every failure -/

/-- A table of records at a stage, seen on the shelf. -/
theorem eq_map_of_shelf {α : Type} {f : α → α} {t t' : Table α}
    (h : (t'.map .ok : Table (Cell α)) = (t.map .ok).map (Except.map f)) : t' = t.map f := by
  rw [Table.map_map] at h
  have hcomp : (Except.map f ∘ .ok : α → Cell α) = .ok ∘ f := rfl
  rw [hcomp, ← Table.map_map] at h
  exact Table.map_injective (fun _ _ => Except.ok.inj) h

/-- A store whose shelf is at a stage is at that stage. -/
theorem Halted.of_shelf {id : EnvironmentId} {u : Update} {s s' : MemoryStore}
    {tags : Delta TagId} {edgeGroups : Delta EdgeGroupId}
    (hshelf : s'.shelf = s.shelf.related id tags edgeGroups) (htags : tags.Stage (s.tagDelta id u))
    (hgroups : edgeGroups.Stage (s.edgeGroupDelta id u))
    (hfirst : (∃ g, edgeGroups.Touches g) → tags = s.tagDelta id u) : Halted id u s s' := by
  refine .of_stage ?_ htags hgroups hfirst ?_ ?_
  · have h : (s'.environments.map .ok : Table (Cell Environment)) = s.environments.map .ok :=
      congrArg Shelf.environments hshelf
    exact Table.map_injective (fun _ _ => Except.ok.inj) h
  · exact eq_map_of_shelf (congrArg Shelf.tags hshelf)
  · exact eq_map_of_shelf (congrArg Shelf.edgeGroups hshelf)

/-- The deltas of a store are those of the environment that is read from it. -/
theorem deltas_of_look {id : EnvironmentId} {u : Update} {s : MemoryStore} {before : Environment}
    (hread : Rack.environments.look s.shelf id = .ok before) :
    s.environments.get? id = some before ∧ before.id = id ∧ s.tagDelta id u = u.tagDelta before ∧
      s.edgeGroupDelta id u = u.edgeGroupDelta (s.shelf.memberships before.id) := by
  have hstored := (Rack.look_ok.mp hread).2
  have hid : before.id = id := s.own_shelf.environments id before hstored
  have hbefore : s.environments.get? id = some before := by
    obtain ⟨e, he, heq⟩ := Option.map_eq_some_iff.mp ((Table.get?_map _ _ _).symm.trans hstored)
    cases heq
    exact he
  refine ⟨hbefore, hid, ?_, ?_⟩
  · rw [tagDelta, hbefore]
  · rw [edgeGroupDelta, memberships_shelf, hid]

/-- An update that fails in the store leaves it at a stage. -/
theorem applyUpdate_halted {v : Visiting} {id : EnvironmentId} {u : Update} {s s' : MemoryStore}
    {e : RegistryError} (h : applyUpdate v id u s = (.error e, s')) : Halted id u s s' := by
  have hcommutes := storeMap.applyUpdate v id u s
  rw [h] at hcommutes
  rcases applyUpdate_cases s.own_shelf v id u with
    ⟨_, _, hrun⟩ | ⟨before, hread, ⟨_, hrun⟩ | ⟨_, tags, edgeGroups, _, ht, hg, hfirst, _, hrun⟩⟩
  · -- The environment cannot be read, and nothing was written.
    have hshelf : s'.shelf = s.shelf.related id .nothing .nothing := by
      rw [hrun] at hcommutes
      rw [related_nothing, Rack.tags.change_eq_self (onTag_nothing id)]
      exact (Prod.mk.inj hcommutes).2.symm
    exact .of_shelf hshelf (.nothing _) (.nothing _) fun ⟨g, hg⟩ =>
      absurd hg (Delta.not_touches_nothing g)
  · rw [hrun] at hcommutes
    cases (Prod.mk.inj hcommutes).1
  · obtain ⟨-, hid, htags, hgroups⟩ := deltas_of_look (u := u) hread
    rw [hrun, hid] at hcommutes
    rw [← htags] at ht hfirst
    rw [← hgroups] at hg
    exact .of_shelf (Prod.mk.inj hcommutes).2.symm ht hg hfirst

/-- An update that succeeds leaves the tags and the edge groups reconciled, and writes the
environment if anything differed. -/
theorem applyUpdate_reconciled {v : Visiting} {id : EnvironmentId} {u : Update} {s s' : MemoryStore}
    {o : Outcome} {after : Environment} (h : applyUpdate v id u s = (.ok (o, after), s')) :
    s'.tags = s.reconciledTags id u ∧ s'.edgeGroups = s.reconciledEdgeGroups id u ∧
      ∃ before, s.environments.get? id = some before ∧ after = u.applyTo before ∧
        o = u.outcomeOn s.shelf before ∧
        s'.environments =
          if o.changed then s.environments.insert id after else s.environments := by
  have hcommutes := storeMap.applyUpdate v id u s
  rw [h] at hcommutes
  rcases applyUpdate_cases s.own_shelf v id u with
    ⟨_, _, hrun⟩ | ⟨before, hread, ⟨_, hrun⟩ | ⟨_, _, _, _, _, _, _, _, hrun⟩⟩
  · rw [hrun] at hcommutes
    cases (Prod.mk.inj hcommutes).1
  · obtain ⟨hbefore, hid, htags, hgroups⟩ := deltas_of_look (u := u) hread
    rw [hrun] at hcommutes
    obtain ⟨hresult, hshelf⟩ := Prod.mk.inj hcommutes
    cases hresult
    have hupdated : s'.shelf = if (u.outcomeOn s.shelf before).changed then
        Rack.environments.put (u.applyTo before)
          (s.shelf.related id (s.tagDelta id u) (s.edgeGroupDelta id u))
        else s.shelf.related id (s.tagDelta id u) (s.edgeGroupDelta id u) := by
      rw [← hshelf, Shelf.updated, htags, hgroups, hid]
    have hput : Rack.environments.get (Rack.environments.put (u.applyTo before)
        (s.shelf.related id (s.tagDelta id u) (s.edgeGroupDelta id u))) =
        (s.environments.insert id (u.applyTo before)).map .ok := by
      rw [Table.map_insert, ← hid]
      rfl
    -- The environment is put back only if something differed.
    split at hupdated
    · next ho =>
      refine ⟨eq_map_of_shelf (congrArg Shelf.tags hupdated),
        eq_map_of_shelf (congrArg Shelf.edgeGroups hupdated), before, hbefore, rfl, rfl, ?_⟩
      rw [if_pos ho]
      exact Table.map_injective (fun _ _ => Except.ok.inj)
        ((congrArg Shelf.environments hupdated).trans hput)
    · next ho =>
      refine ⟨eq_map_of_shelf (congrArg Shelf.tags hupdated),
        eq_map_of_shelf (congrArg Shelf.edgeGroups hupdated), before, hbefore, rfl, rfl, ?_⟩
      rw [if_neg ho]
      exact Table.map_injective (fun _ _ => Except.ok.inj)
        (congrArg Shelf.environments hupdated)
  · rw [hrun] at hcommutes
    cases (Prod.mk.inj hcommutes).1

/-- If an update fails and the error is not an answer of the refresher, then the refresher was
never called and the store is at a stage of the update, in whatever order the update visits what it
changes. -/
theorem update_halted {ρ : Type} {v : Visiting} {r : Refresher ρ} {id : EnvironmentId} {u : Update}
    {s s' : MemoryStore} {d d' : ρ} {calls : List Refresher.Call} {e : RegistryError}
    (h : Relations.update v r.recorded id u (s, (d, [])) = (.error e, (s', (d', calls))))
    (hfrom : ∀ c ∈ calls, c.2 ≠ .error e) :
    calls = [] ∧ d' = d ∧ Halted id u s s' := by
  rcases hrun : applyUpdate v id u s with ⟨err | ⟨o, after⟩, s₁⟩
  · rw [update_error hrun] at h
    cases h
    exact ⟨rfl, rfl, applyUpdate_halted hrun⟩
  · cases ho : o.changed with
    | false =>
      rw [update_unchanged hrun ho] at h
      cases h
    | true =>
      rw [update_changed hrun ho] at h
      -- The store did its part, so the error is the answer of the refresher.
      obtain ⟨hanswer, hstate⟩ := Prod.mk.inj h
      have hcall : (r after d).1 = .error e := by
        cases hr : (r after d).1 with
        | ok _ =>
          rw [Refresher.recorded, hr] at hanswer
          cases hanswer
        | error err =>
          rw [Refresher.recorded, hr] at hanswer
          cases hanswer
          rfl
      have hcalls : calls = [(after, (r after d).1)] := by
        cases hstate
        rfl
      exact absurd hcall (hfrom _ (by rw [hcalls]; exact List.mem_singleton_self _))

/-- A store with an environment and two tags, of which the second cannot be written. -/
def stuck : MemoryStore :=
  ((({} : MemoryStore).insertEnvironment { id := 1, name := "a", tagIds := [1] }).insertTag
    { id := 1, name := "x", members := .ofList [1] }).insertTag { id := 2, name := "y" }
    |>.rejectWrites .tag 2

/-- Changing the first tag for the second stops between the removal and the addition. -/
theorem update_halted_stuck : ∃ s',
    Relations.update .ascending Refresher.silent.recorded 1 { tags := some [2] } (stuck, ((), [])) =
      (.error (.persistence (.writeRejected .tag 2)), (s', ((), []))) ∧
    s'.tags.get? 1 = some { id := 1, name := "x" } ∧ Halted 1 { tags := some [2] } stuck s' :=
  ⟨_, rfl, rfl, (update_halted (v := .ascending) (r := Refresher.silent) (d := ()) rfl
    fun _ h => absurd h List.not_mem_nil).2.2⟩

end EnvRegistry.MemoryStore

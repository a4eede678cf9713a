import EnvRegistry.Proofs.Relations.Reconcile

/-! # What an update does to a shelf

    `applyUpdate_cases` lists every way in which an update can end on a shelf
    whose records lie under their own ids: the environment cannot be read, or
    everything that the update needs is there (`Update.Clear`) and the shelf
    becomes `Shelf.updated`, or something is missing and the shelf is left at a
    stage of the tag delta and a stage of the edge group delta, the latter
    untouched unless the former is complete.  The environment is written only
    at the very end. -/

namespace EnvRegistry

open Relations

/-! ## Section 1: Model -/

/-- The shelf after an environment changed its tags and its edge groups. -/
def Shelf.related (s : Shelf) (id : EnvironmentId) (tags : Delta TagId)
    (edgeGroups : Delta EdgeGroupId) : Shelf :=
  Rack.edgeGroups.change (edgeGroups.onEdgeGroup id) (Rack.tags.change (tags.onTag id) s)

namespace Relations.Update

/-- What an update reports of an environment on a shelf. -/
def outcomeOn (u : Update) (s : Shelf) (e : Environment) : Outcome :=
  u.outcome e (!(u.tagDelta e).isEmpty) (!(u.edgeGroupDelta (s.memberships e.id)).isEmpty)

/-- Everything that an update needs is there. -/
structure Clear (u : Update) (s : Shelf) (e : Environment) : Prop where
  tags : ∀ id, (u.tagDelta e).Touches id → Rack.tags.Open s id
  scan : u.edgeGroups.isSome → ∃ groups, s.scan = .ok groups
  edgeGroups : ∀ id, (u.edgeGroupDelta (s.memberships e.id)).Touches id → Rack.edgeGroups.Open s id
  environment : (u.outcomeOn s e).changed → (.environment, e.id) ∉ s.failingWrites

end Relations.Update

/-- The shelf after an update of an environment. -/
def Shelf.updated (s : Shelf) (u : Update) (e : Environment) : Shelf :=
  let related := s.related e.id (u.tagDelta e) (u.edgeGroupDelta (s.memberships e.id))
  if (u.outcomeOn s e).changed then Rack.environments.put (u.applyTo e) related else related

theorem Shelf.Own.related {s : Shelf} (h : s.Own) (id : EnvironmentId) (tags : Delta TagId)
    (edgeGroups : Delta EdgeGroupId) : (s.related id tags edgeGroups).Own :=
  ⟨h.environments, h.tags.change (tags.onTag_id id),
    h.edgeGroups.change (edgeGroups.onEdgeGroup_id id)⟩

theorem Shelf.Own.updated {s : Shelf} (h : s.Own) (u : Update) (e : Environment) :
    (s.updated u e).Own := by
  unfold Shelf.updated
  simp only
  split
  · exact (h.related _ _ _).putEnvironment _
  · exact h.related _ _ _

namespace Relations

variable {s : Shelf} {id : EnvironmentId} {e : Environment}

/-! ## Section 2: The tags -/

theorem reconcileTags_eq (v : Visiting) (desired current : List TagId) (id : EnvironmentId) :
    (reconcileTags v desired current id : StoreM Shelf Bool) =
      if KeySet.ofList desired = KeySet.ofList current then return false
      else reconcile .tags v.tagsRemoved v.tagsAdded (.between (.ofList desired) (.ofList current))
        (·.removeMember id) (·.addMember id) := by
  unfold reconcileTags
  rw [delta_eq]
  by_cases heq : KeySet.ofList desired = KeySet.ofList current
  · rw [if_pos heq, if_pos heq]
  · rw [if_neg heq, if_neg heq]
    rfl

theorem onTag_nothing (id : EnvironmentId) (t : Tag) : Delta.nothing.onTag id t = t :=
  Delta.on_of_not_touches (Delta.not_touches_nothing _)

theorem onTag_of_isEmpty {d : Delta TagId} (h : d.isEmpty = true) (id : EnvironmentId) (t : Tag) :
    d.onTag id t = t := Delta.on_of_not_touches (Delta.isEmpty_iff.mp h _)

/-- The tags are brought in line, or are left at a stage. -/
theorem tagPhase_cases (hown : Rack.tags.Own s) (v : Visiting) (u : Update) (e : Environment) :
    (∀ id, (u.tagDelta e).Touches id → Rack.tags.Open s id) ∧
        tagPhase v u e s =
          (.ok (!(u.tagDelta e).isEmpty), Rack.tags.change ((u.tagDelta e).onTag e.id) s) ∨
      (∃ id, (u.tagDelta e).Touches id ∧ ¬ Rack.tags.Open s id) ∧
        ∃ (done : Delta TagId) (err : RegistryError), done.Stage (u.tagDelta e) ∧ err.OfStore ∧
          tagPhase v u e s = (.error err, Rack.tags.change (done.onTag e.id) s) := by
  unfold tagPhase Update.tagDelta
  cases u.tags with
  | none =>
    refine .inl ⟨fun id h => absurd h (Delta.not_touches_nothing id), ?_⟩
    show (Except.ok false, s) = _
    rw [Rack.tags.change_eq_self (onTag_nothing e.id)]
    rfl
  | some tags =>
    simp only [reconcileTags_eq]
    by_cases heq : KeySet.ofList tags = KeySet.ofList e.tagIds
    · have hempty := Delta.isEmpty_between.trans (decide_eq_true heq)
      refine .inl ⟨fun id h => absurd h (Delta.isEmpty_iff.mp hempty id), ?_⟩
      rw [if_pos heq, hempty, Rack.tags.change_eq_self (onTag_of_isEmpty hempty e.id)]
      rfl
    · rw [if_neg heq, Delta.isEmpty_between, decide_eq_false heq]
      exact reconcile_cases (k := .tags) (·.removeMember e.id) (·.addMember e.id)
        (fun _ => rfl) (fun _ => rfl) v.tagsRemoved v.tagsAdded
        (fun _ => Delta.between_disjoint) hown

/-! ## Section 3: The edge groups -/

theorem environmentEdgeGroups_ok {groups : List EdgeGroup} (h : s.scan = .ok groups) :
    environmentEdgeGroups id s = (.ok (s.memberships id), s) := by
  have hscan : (RelationStore.edgeGroups : StoreM Shelf _) s = (.ok groups, s) := by
    rw [← h]
    rfl
  rw [environmentEdgeGroups, StoreM.bind_ok hscan, Shelf.memberships, Shelf.groups_of_scan h]
  rfl

theorem environmentEdgeGroups_error {err : RegistryError} (h : s.scan = .error err) :
    environmentEdgeGroups id s = (.error err, s) := by
  have hscan : (RelationStore.edgeGroups : StoreM Shelf _) s = (.error err, s) := by
    rw [← h]
    rfl
  rw [environmentEdgeGroups, StoreM.bind_error hscan]

theorem reconcileEdgeGroups_ok {groups : List EdgeGroup} (h : s.scan = .ok groups) (v : Visiting)
    (desired : List EdgeGroupId) (id : EnvironmentId) :
    reconcileEdgeGroups v desired id s =
      (if KeySet.ofList desired = s.memberships id then return false
      else reconcile .edgeGroups v.edgeGroupsRemoved v.edgeGroupsAdded
        (.between (.ofList desired) (s.memberships id))
        (·.removeMember id) (·.addMember id) : StoreM Shelf Bool) s := by
  rw [reconcileEdgeGroups, StoreM.bind_ok (environmentEdgeGroups_ok h), delta_eq]
  by_cases heq : KeySet.ofList desired = s.memberships id
  · rw [if_pos heq, if_pos heq]
  · rw [if_neg heq, if_neg heq]
    rfl

theorem onEdgeGroup_nothing (id : EnvironmentId) (g : EdgeGroup) :
    Delta.nothing.onEdgeGroup id g = g :=
  Delta.on_of_not_touches (Delta.not_touches_nothing _)

theorem onEdgeGroup_of_isEmpty {d : Delta EdgeGroupId} (h : d.isEmpty = true) (id : EnvironmentId)
    (g : EdgeGroup) : d.onEdgeGroup id g = g :=
  Delta.on_of_not_touches (Delta.isEmpty_iff.mp h _)

/-- The edge groups are brought in line, or are left at a stage. -/
theorem edgeGroupPhase_cases (hown : Rack.edgeGroups.Own s) (v : Visiting) (u : Update)
    (id : EnvironmentId) :
    ((u.edgeGroups.isSome → ∃ groups, s.scan = .ok groups) ∧
        ∀ g, (u.edgeGroupDelta (s.memberships id)).Touches g → Rack.edgeGroups.Open s g) ∧
        edgeGroupPhase v u id s = (.ok (!(u.edgeGroupDelta (s.memberships id)).isEmpty),
          Rack.edgeGroups.change ((u.edgeGroupDelta (s.memberships id)).onEdgeGroup id) s) ∨
      ¬ ((u.edgeGroups.isSome → ∃ groups, s.scan = .ok groups) ∧
        ∀ g, (u.edgeGroupDelta (s.memberships id)).Touches g → Rack.edgeGroups.Open s g) ∧
        ∃ (done : Delta EdgeGroupId) (err : RegistryError),
          done.Stage (u.edgeGroupDelta (s.memberships id)) ∧ err.OfStore ∧
          edgeGroupPhase v u id s =
            (.error err, Rack.edgeGroups.change (done.onEdgeGroup id) s) := by
  unfold edgeGroupPhase Update.edgeGroupDelta
  cases u.edgeGroups with
  | none =>
    -- Nothing is asked for, so the edge groups are not even listed.
    refine .inl ⟨⟨nofun, fun g h => absurd h (Delta.not_touches_nothing g)⟩, ?_⟩
    show (Except.ok false, s) = _
    rw [Rack.edgeGroups.change_eq_self (onEdgeGroup_nothing id)]
    rfl
  | some desired =>
    cases hscan : s.scan with
    | error err =>
      -- Which edge groups to change is not known, so none has changed.
      refine .inr ⟨?_, .nothing, err, .nothing _, Shelf.scan_error hscan, ?_⟩
      · rintro ⟨hok, -⟩
        obtain ⟨groups, h⟩ := hok rfl
        cases h
      · rw [Rack.edgeGroups.change_eq_self (onEdgeGroup_nothing id)]
        exact StoreM.bind_error (environmentEdgeGroups_error hscan)
    | ok groups =>
      simp only [reconcileEdgeGroups_ok hscan]
      by_cases heq : KeySet.ofList desired = s.memberships id
      · have hempty := Delta.isEmpty_between.trans (decide_eq_true heq)
        refine .inl ⟨⟨fun _ => ⟨groups, rfl⟩, fun g h => ?_⟩, ?_⟩
        · exact absurd h (Delta.isEmpty_iff.mp hempty g)
        · rw [if_pos heq, hempty, Rack.edgeGroups.change_eq_self (onEdgeGroup_of_isEmpty hempty id)]
          rfl
      · rw [if_neg heq, Delta.isEmpty_between, decide_eq_false heq]
        rcases reconcile_cases (k := .edgeGroups) (·.removeMember id)
            (·.addMember id) (fun _ => rfl) (fun _ => rfl) v.edgeGroupsRemoved
            v.edgeGroupsAdded (fun _ => Delta.between_disjoint) hown
          with ⟨hopen, hrun⟩ | ⟨⟨g, hg, hshut⟩, hstop⟩
        · exact .inl ⟨⟨fun _ => ⟨groups, rfl⟩, hopen⟩, hrun⟩
        · exact .inr ⟨fun h => hshut (h.2 g hg), hstop⟩

/-! ## Section 4: The whole update -/

theorem related_nothing (s : Shelf) (id : EnvironmentId) (tags : Delta TagId) :
    s.related id tags .nothing = Rack.tags.change (tags.onTag id) s :=
  Rack.edgeGroups.change_eq_self (onEdgeGroup_nothing id)

theorem outcomeOn_unchanged {u : Update} (h : (u.outcomeOn s e).changed = false) :
    (u.tagDelta e).isEmpty = true ∧
      (u.edgeGroupDelta (s.memberships e.id)).isEmpty = true := by
  simp only [Update.outcomeOn, Update.outcome, Outcome.of, Bool.or_eq_false_iff] at h
  rw [Bool.not_eq_false', Bool.not_eq_false'] at h
  exact ⟨h.1.2, h.2⟩

/-- An update that reports no change reports none of the three. -/
theorem outcomeOn_eq_default {u : Update} (ho : (u.outcomeOn s e).changed = false) :
    u.outcomeOn s e = {} := by
  unfold Update.outcomeOn Update.outcome Outcome.of at ho ⊢
  simp only [Bool.or_eq_false_iff] at ho
  obtain ⟨⟨hgroup, htags⟩, hgroups⟩ := ho
  rw [hgroup, htags, hgroups]
  rfl

/-- An update that changes nothing leaves the shelf as it was. -/
theorem updated_unchanged {u : Update} (h : (u.outcomeOn s e).changed = false) :
    s.updated u e = s := by
  obtain ⟨htags, hgroups⟩ := outcomeOn_unchanged h
  unfold Shelf.updated
  simp only [h, Bool.false_eq_true, if_false]
  rw [Shelf.related, Rack.tags.change_eq_self (onTag_of_isEmpty htags e.id),
    Rack.edgeGroups.change_eq_self (onEdgeGroup_of_isEmpty hgroups e.id)]

/-- The environment is written if something changed, unless that write is rejected. -/
theorem writePhase_cases (hread : Rack.environments.look s id = .ok e) (hid : e.id = id)
    (u : Update) (tags : Delta TagId) (edgeGroups : Delta EdgeGroupId) (o : Outcome) :
    (o.changed = true → (.environment, id) ∉ s.failingWrites) ∧
        writePhase u e o (s.related id tags edgeGroups) =
          (.ok (), if o.changed then Rack.environments.put (u.applyTo e)
            (s.related id tags edgeGroups) else s.related id tags edgeGroups) ∨
      ¬ (o.changed = true → (.environment, id) ∉ s.failingWrites) ∧
        ∃ err, RegistryError.OfStore err ∧
          writePhase u e o (s.related id tags edgeGroups) =
            (.error err, s.related id tags edgeGroups) := by
  unfold writePhase
  cases o.changed with
  | false => exact .inl ⟨nofun, rfl⟩
  | true =>
    have hkey : Rack.environments.key (u.applyTo e) = id := hid
    have hstored : ((Rack.environments.get (s.related id tags edgeGroups)).contains id) = true :=
      Table.contains_iff.mpr ⟨_, (Rack.look_ok.mp hread).2⟩
    have hwrites : (s.related id tags edgeGroups).failingWrites = s.failingWrites := rfl
    have hkind : Rack.environments.kind = .environment := rfl
    simp only [if_true, true_implies]
    by_cases hwrite : (.environment, id) ∈ s.failingWrites
    · refine .inr ⟨fun h => h hwrite, _, ?_, if_pos (by rw [hkey]; exact hwrite)⟩
      trivial
    · refine .inl ⟨hwrite, ?_⟩
      show Rack.environments.replace (u.applyTo e) (s.related id tags edgeGroups) = _
      rw [Rack.replace, hkey, hwrites, hkind, if_neg hwrite, if_pos hstored]

/-- Every way in which an update can end. -/
theorem applyUpdate_cases (hown : s.Own) (v : Visiting) (id : EnvironmentId) (u : Update) :
    (∃ err, Rack.environments.look s id = .error err ∧ applyUpdate v id u s = (.error err, s)) ∨
      ∃ e, Rack.environments.look s id = .ok e ∧
        (u.Clear s e ∧ applyUpdate v id u s = (.ok (u.outcomeOn s e, u.applyTo e), s.updated u e) ∨
          ¬ u.Clear s e ∧ ∃ tags edgeGroups err, Delta.Stage tags (u.tagDelta e) ∧
            Delta.Stage edgeGroups (u.edgeGroupDelta (s.memberships e.id)) ∧
            ((∃ g, edgeGroups.Touches g) → tags = u.tagDelta e) ∧ RegistryError.OfStore err ∧
            applyUpdate v id u s = (.error err, s.related e.id tags edgeGroups)) := by
  rw [applyUpdate_eq]
  cases hread : Rack.environments.look s id with
  | error err =>
    have hrun : (RelationStore.environment id : StoreM Shelf _) s = (.error err, s) :=
      congrArg (·, s) hread
    exact .inl ⟨err, rfl, StoreM.bind_error hrun⟩
  | ok e =>
    have hid : e.id = id := hown.environments id e (Rack.look_ok.mp hread).2
    have hrun : (RelationStore.environment id : StoreM Shelf _) s = (.ok e, s) :=
      congrArg (·, s) hread
    refine .inr ⟨e, rfl, ?_⟩
    rw [StoreM.bind_ok hrun]
    rcases tagPhase_cases hown.tags v u e with
      ⟨htags, hrun⟩ | ⟨⟨t, ht, hshut⟩, done, err, hstage, herr, hrun⟩
    · rw [StoreM.bind_ok hrun]
      -- What the second phase reads is not what the first one wrote.
      have hown' : Rack.edgeGroups.Own (Rack.tags.change ((u.tagDelta e).onTag e.id) s) :=
        hown.edgeGroups
      rcases edgeGroupPhase_cases hown' v u e.id with
        ⟨⟨hscan, hgroups⟩, hrun⟩ | ⟨hnot, done, err, hstage, herr, hrun⟩
      · rw [StoreM.bind_ok hrun]
        rcases writePhase_cases hread hid u (u.tagDelta e) (u.edgeGroupDelta (s.memberships e.id))
          (u.outcomeOn s e) with ⟨hwrite, hrun⟩ | ⟨hnot, err, herr, hrun⟩
        · rw [← hid] at hwrite hrun
          exact .inl ⟨⟨htags, hscan, hgroups, hwrite⟩, StoreM.bind_ok hrun⟩
        · rw [← hid] at hnot hrun
          exact .inr ⟨fun h => hnot h.environment, _, _, err, .refl _, .refl _, fun _ => rfl, herr,
            StoreM.bind_error hrun⟩
      · exact .inr ⟨fun h => hnot ⟨h.scan, h.edgeGroups⟩, _, done, err, .refl _, hstage,
          fun _ => rfl, herr, StoreM.bind_error hrun⟩
    · -- The tags stop halfway, and the edge groups are not touched.
      refine .inr ⟨fun h => hshut (h.tags t ht), done, .nothing, err, hstage, .nothing _, ?_,
        herr, ?_⟩
      · rintro ⟨g, hg⟩
        exact absurd hg (Delta.not_touches_nothing g)
      · rw [related_nothing]
        exact StoreM.bind_error hrun

end Relations

end EnvRegistry

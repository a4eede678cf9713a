import EnvRegistry.Proofs.Relations.Meaning
import EnvRegistry.Proofs.Relations.Progress

/-! # Updates that are tried again

    An update of a store in memory that stopped halfway is completed by making
    the same update again, however often and wherever it stopped before
    (`update_converges`).

    The invariant of all the states on the way is `Underway`.  It does not say
    how far the update has come: it says that completing it from there gives the
    same tags and the same edge groups as completing it from the start.  For a
    tag this holds because joining and leaving a set twice is joining and
    leaving it once.  The edge groups of the environment are found anew at every
    attempt, so an edge group that has changed is no part of the next delta. -/

namespace EnvRegistry.MemoryStore

open Relations

variable {ρ : Type}

/-! ## Section 1: Model -/

/-- What a store rejects. -/
structure Rejections where
  reads : List (EntityKind × UInt32) := []
  writes : List (EntityKind × UInt32) := []
  scan : Bool := false

/-- The store with the same records that rejects this and nothing else. -/
def rejecting (s : MemoryStore) (x : Rejections) : MemoryStore :=
  { s with failingReads := x.reads, failingWrites := x.writes, failingScan := x.scan }

/-- An attempt to apply an update: what the store rejects meanwhile, in which order the update
visits what it changes, and who is told. -/
structure Attempt (ρ : Type) where
  rejections : Rejections
  visiting : Visiting
  refresher : Refresher ρ

/-- What an attempt comes to and what it leaves. -/
def Attempt.run (a : Attempt ρ) (id : EnvironmentId) (u : Update) (t : MemoryStore × ρ) :
    Except RegistryError Outcome × (MemoryStore × ρ) :=
  update a.visiting a.refresher id u (t.1.rejecting a.rejections, t.2)

/-- What some attempts leave, one after the other and wherever each of them stops. -/
def afterAttempts (attempts : List (Attempt ρ)) (id : EnvironmentId) (u : Update)
    (t : MemoryStore × ρ) : MemoryStore × ρ :=
  attempts.foldl (fun t a => (a.run id u t).2) t

/-- The environments are the same but for the order and the repetitions of their tags. -/
structure Alike (e e' : Environment) : Prop where
  id : e.id = e'.id
  name : e.name = e'.name
  groupId : e.groupId = e'.groupId
  tagIds : ∀ t, t ∈ e.tagIds ↔ t ∈ e'.tagIds

/-- The store `s'` is where an update of an environment takes the store `s`, which is `s₁` if
nothing gets in its way. -/
structure Converged (id : EnvironmentId) (s s₁ s' : MemoryStore) : Prop where
  tags : s'.tags = s₁.tags
  edgeGroups : s'.edgeGroups = s₁.edgeGroups
  others : ∀ j, j ≠ id → s'.environments.get? j = s.environments.get? j
  environment : ∃ e₁ e, s₁.environments.get? id = some e₁ ∧ s'.environments.get? id = some e ∧
    Alike e e₁

/-- No edge group lists an environment twice. -/
def Once (s : MemoryStore) (id : EnvironmentId) : Prop :=
  ∀ group ∈ s.edgeGroups.values, group.members.count id ≤ 1

/-- The store `s'` that attempts to update an environment of the store `s` have left. -/
structure Underway (id : EnvironmentId) (u : Update) (s s' : MemoryStore) : Prop where
  others : ∀ j, j ≠ id → s'.environments.get? j = s.environments.get? j
  /-- The environment is as it was or as it was to be. -/
  environment : ∀ e, s.environments.get? id = some e →
    s'.environments.get? id = some e ∨ s'.environments.get? id = some (u.applyTo e)
  /-- Completing the update leads to the same tags. -/
  tags : s'.reconciledTags id u = s.reconciledTags id u
  /-- Completing the update leads to the same edge groups. -/
  edgeGroups : s'.reconciledEdgeGroups id u = s.reconciledEdgeGroups id u
  /-- No edge group lists the environment twice. -/
  once : s'.Once id

/-! ## Section 2: Completing what was begun -/

section Stage

variable {done d : Delta UInt32} {id : EnvironmentId}

/-- Carrying out a delta after a stage of it is carrying out the delta, if nothing matters that is
done twice. -/
theorem on_on_stage {α : Type} (key : α → UInt32) (leave join : α → α) (hstage : done.Stage d)
    (hdisjoint : ∀ id, id ∈ d.toAdd → ¬ id ∈ d.toRemove)
    (hleave : ∀ a, key (leave a) = key a ∧ leave (leave a) = leave a)
    (hjoin : ∀ a, key (join a) = key a ∧ join (join a) = join a) (a : α) :
    d.on key leave join (done.on key leave join a) = d.on key leave join a := by
  -- What the stage has done to the record: it has left, it has joined, or nothing.
  by_cases hgone : key a ∈ done.toRemove
  · have hd : key a ∈ d.toRemove := hstage.removed _ hgone
    have hdone : done.on key leave join a = leave a := if_pos hgone
    have hkey : key (leave a) ∈ d.toRemove := by rwa [(hleave a).1]
    rw [hdone, Delta.on, if_pos hkey, (hleave a).2, Delta.on, if_pos hd]
  · by_cases hcome : key a ∈ done.toAdd
    · have hd : key a ∈ d.toAdd := hstage.added _ hcome
      have hkept : ¬ key a ∈ d.toRemove := hdisjoint _ hd
      have hdone : done.on key leave join a = join a := by
        rw [Delta.on, if_neg hgone, if_pos hcome]
      have hkey : key (join a) ∈ d.toAdd ∧ ¬ key (join a) ∈ d.toRemove := by
        rw [(hjoin a).1]
        exact ⟨hd, hkept⟩
      rw [hdone, Delta.on, if_neg hkey.2, if_pos hkey.1, (hjoin a).2, Delta.on, if_neg hkept,
        if_pos hd]
    · rw [Delta.on_of_not_touches (d := done) (fun h => h.elim hgone hcome)]

theorem onTag_onTag_stage (hstage : done.Stage d)
    (hdisjoint : ∀ id, id ∈ d.toAdd → ¬ id ∈ d.toRemove) (t : Tag) :
    d.onTag id (done.onTag id t) = d.onTag id t :=
  on_on_stage Tag.id (·.removeMember id) (·.addMember id) hstage hdisjoint
    (fun t => ⟨rfl, removeMember_removeMember t id⟩) (fun t => ⟨rfl, addMember_addMember t id⟩) t

/-- An edge group that has changed is in line, so it does not change again. -/
theorem onEdgeGroup_onEdgeGroup_stage {desired current current' : KeySet EdgeGroupId}
    (hstage : done.Stage (.between desired current)) {group : EdgeGroup}
    (honce : group.members.count id ≤ 1) (hcurrent : group.id ∈ current ↔ id ∈ group.members)
    (hcurrent' : group.id ∈ current' ↔ id ∈ (done.onEdgeGroup id group).members) :
    (Delta.between desired current').onEdgeGroup id (done.onEdgeGroup id group) =
      (Delta.between desired current).onEdgeGroup id group := by
  by_cases hgone : group.id ∈ done.toRemove
  · have hd := hstage.removed _ hgone
    have hdone : done.onEdgeGroup id group = group.removeMember id := if_pos hgone
    rw [hdone] at hcurrent' ⊢
    have hleft : ¬ group.id ∈ current' := by
      rw [hcurrent']
      exact not_mem_erase honce
    have hnot : ¬ group.id ∈ desired := (Delta.mem_toRemove_between.mp hd).2
    -- Neither wanted nor there any more, so the next delta leaves the edge group alone.
    have hstill : ¬ (Delta.between desired current').Touches group.id := by
      rw [Delta.touches_between]
      rintro (⟨h, -⟩ | ⟨h, -⟩)
      · exact hleft h
      · exact hnot h
    have hfull : (Delta.between desired current).onEdgeGroup id group = group.removeMember id :=
      if_pos hd
    rw [hfull]
    exact Delta.on_of_not_touches hstill
  · by_cases hcome : group.id ∈ done.toAdd
    · have hd := hstage.added _ hcome
      have hkept := Delta.between_disjoint hd
      have hdone : done.onEdgeGroup id group = group.addMember id := by
        rw [Delta.onEdgeGroup, Delta.on, if_neg hgone, if_pos hcome]
      rw [hdone] at hcurrent' ⊢
      have hjoined : group.id ∈ current' := by
        rw [hcurrent']
        exact List.mem_append_right _ (List.mem_singleton_self id)
      have hwanted : group.id ∈ desired := (Delta.mem_toAdd_between.mp hd).1
      -- Wanted and there already, so the next delta leaves the edge group alone.
      have hstill : ¬ (Delta.between desired current').Touches group.id := by
        rw [Delta.touches_between]
        rintro (⟨-, h⟩ | ⟨-, h⟩)
        · exact h hwanted
        · exact h hjoined
      have hfull : (Delta.between desired current).onEdgeGroup id group = group.addMember id := by
        rw [Delta.onEdgeGroup, Delta.on, if_neg hkept, if_pos hd]
      rw [hfull]
      exact Delta.on_of_not_touches hstill
    · -- The edge group has not changed, and the environment is in it or not as before.
      have hdone : done.onEdgeGroup id group = group :=
        Delta.on_of_not_touches fun h => h.elim hgone hcome
      rw [hdone] at hcurrent' ⊢
      unfold Delta.onEdgeGroup Delta.on
      simp only [Delta.mem_toRemove_between, Delta.mem_toAdd_between, hcurrent, hcurrent']

theorem count_onEdgeGroup {desired current : KeySet EdgeGroupId}
    (hstage : done.Stage (.between desired current)) {group : EdgeGroup}
    (honce : group.members.count id ≤ 1) (hcurrent : group.id ∈ current ↔ id ∈ group.members) :
    (done.onEdgeGroup id group).members.count id ≤ 1 := by
  unfold Delta.onEdgeGroup Delta.on
  split
  · exact Nat.le_trans (List.erase_sublist.count_le id) honce
  · split
    · next hcome =>
      have hnew : id ∉ group.members := by
        rw [← hcurrent]
        exact (Delta.mem_toAdd_between.mp (hstage.added _ hcome)).2
      show (group.members ++ [id]).count id ≤ 1
      rw [List.count_append, List.count_eq_zero.mpr hnew]
      simp
    · exact honce

end Stage

/-! ## Section 3: What one attempt leaves -/

/-- The store `s'` is what an attempt to update an environment of the store `s` leaves: each of the
two deltas is carried out in part, and the environment is as it was, or both deltas are carried out
and it is as it was to be. -/
structure Advanced (id : EnvironmentId) (u : Update) (s s' : MemoryStore) : Prop where
  tags : ∃ done : Delta TagId, done.Stage (s.tagDelta id u) ∧ s'.tags = s.tags.map (done.onTag id)
  edgeGroups : ∃ done : Delta EdgeGroupId, done.Stage (s.edgeGroupDelta id u) ∧
    s'.edgeGroups = s.edgeGroups.map (done.onEdgeGroup id)
  environments : s'.environments = s.environments ∨
    s'.tags = s.reconciledTags id u ∧ ∃ e, s.environments.get? id = some e ∧
      s'.environments = s.environments.insert id (u.applyTo e)

section Attempt

variable {id : EnvironmentId} {u : Update} {s s' : MemoryStore}

theorem Advanced.of_halted (h : Halted id u s s') : Advanced id u s s' := by
  obtain ⟨tags, groups, htags, hgroups, -, ht, hg⟩ := h.stage
  exact ⟨⟨tags, htags, ht⟩, ⟨groups, hgroups, hg⟩, .inl h.environments⟩

/-- What a store rejects is no part of what an attempt is to change. -/
theorem Advanced.of_rejecting {x : Rejections} (h : Advanced id u (s.rejecting x) s') :
    Advanced id u s s' := ⟨h.tags, h.edgeGroups, h.environments⟩

theorem Advanced.of_applyUpdate {v : Visiting}
    {result : Except RegistryError (Outcome × Environment)}
    (h : applyUpdate v id u s = (result, s')) : Advanced id u s s' := by
  rcases result with err | ⟨o, after⟩
  · exact .of_halted (applyUpdate_halted h)
  · obtain ⟨ht, hg, before, hbefore, rfl, -, henv⟩ := applyUpdate_reconciled h
    refine ⟨⟨_, .refl _, ht⟩, ⟨_, .refl _, hg⟩, ?_⟩
    split at henv
    · exact .inr ⟨ht, before, hbefore, henv⟩
    · exact .inl henv

/-- Whatever gets in its way, an attempt advances the update. -/
theorem Attempt.advanced (a : Attempt ρ) (id : EnvironmentId) (u : Update) (t : MemoryStore × ρ) :
    Advanced id u t.1 (a.run id u t).2.1 := by
  rw [Attempt.run, update_store]
  rcases hrun : applyUpdate a.visiting id u (t.1.rejecting a.rejections) with ⟨result, s'⟩
  exact .of_rejecting (.of_applyUpdate hrun)

end Attempt

/-! ## Section 4: What many attempts leave -/

section Attempts

variable {id : EnvironmentId} {u : Update} {s s' s'' : MemoryStore}

/-- Completing the update leads to the same tags after an attempt as before it. -/
theorem Advanced.reconciledTags (h : Advanced id u s s') :
    s'.reconciledTags id u = s.reconciledTags id u := by
  rcases h.environments with henv | ⟨htags, e, he, henv⟩
  · -- The environment still carries its old tags, so the next delta of tags is the same.
    obtain ⟨done, hstage, htags⟩ := h.tags
    have hdelta : s'.tagDelta id u = s.tagDelta id u := by
      rw [tagDelta, henv, tagDelta]
    rw [MemoryStore.reconciledTags, hdelta, htags, Table.map_map]
    exact congrArg s.tags.map
      (funext (onTag_onTag_stage hstage (s.tagDelta_disjoint id u)))
  · -- The environment is written, so the next delta of tags is empty.
    have hdelta : s'.tagDelta id u = u.tagDelta (u.applyTo e) := by
      rw [tagDelta, henv, Table.get?_insert, if_pos rfl]
    have hsame : s'.tags.map ((u.tagDelta (u.applyTo e)).onTag id) = s'.tags :=
      Table.map_eq_self fun _ t _ => onTag_of_isEmpty (u.tagDelta_applyTo e) id t
    rw [MemoryStore.reconciledTags, hdelta, hsame, htags]

theorem mem_memberships_of_get? (id : EnvironmentId) {g : EdgeGroupId} {group : EdgeGroup}
    (h : s.edgeGroups.get? g = some group) :
    group.id ∈ s.records.memberships id ↔ id ∈ group.members := by
  rw [Records.mem_memberships, s.edgeGroupsKeyed g group h]
  constructor
  · rintro ⟨group', hgroup', hmember⟩
    rw [show s.records.edgeGroups.get? g = some group from h] at hgroup'
    cases hgroup'
    exact hmember
  · exact fun hmember => ⟨group, h, hmember⟩

/-- A stage of a delta of edge groups, seen in one of them. -/
theorem Advanced.get?_edgeGroups {g : EdgeGroupId} {done : Delta EdgeGroupId}
    (hg : s'.edgeGroups = s.edgeGroups.map (done.onEdgeGroup id)) {group : EdgeGroup}
    (hgroup : s.edgeGroups.get? g = some group) :
    s'.edgeGroups.get? g = some (done.onEdgeGroup id group) := by
  rw [hg, Table.get?_map, hgroup, Option.map_some]

/-- Completing the update leads to the same edge groups after an attempt as before it. -/
theorem Advanced.reconciledEdgeGroups (h : Advanced id u s s') (honce : s.Once id) :
    s'.reconciledEdgeGroups id u = s.reconciledEdgeGroups id u := by
  obtain ⟨done, hstage, hg⟩ := h.edgeGroups
  -- The next delta is made from what the store holds now, so every edge group is looked at alone.
  refine Table.ext_get? fun g => ?_
  cases hgroup : s.edgeGroups.get? g with
  | none =>
    simp only [MemoryStore.reconciledEdgeGroups, Table.get?_map, hg, hgroup, Option.map_none]
  | some group =>
    have hgroup' := Advanced.get?_edgeGroups hg hgroup
    rw [MemoryStore.reconciledEdgeGroups, Table.get?_map, hgroup', MemoryStore.reconciledEdgeGroups,
      Table.get?_map, hgroup, Option.map_some, Option.map_some]
    refine congrArg some ?_
    unfold edgeGroupDelta Update.edgeGroupDelta at hstage ⊢
    cases hu : u.edgeGroups with
    | none =>
      -- Nothing is asked for, so no attempt changes an edge group.
      rw [hu] at hstage
      have hnone : ¬ done.Touches group.id :=
        fun h => Delta.not_touches_nothing _ (hstage.touches h)
      rw [Delta.onEdgeGroup, Delta.onEdgeGroup, Delta.on_of_not_touches hnone]
    | some groups =>
      rw [hu] at hstage
      have hmember := mem_memberships_of_get? id hgroup'
      rw [Delta.onEdgeGroup_id] at hmember
      exact onEdgeGroup_onEdgeGroup_stage hstage (honce group (Table.mem_values.mpr ⟨g, hgroup⟩))
        (mem_memberships_of_get? id hgroup) hmember

/-- No attempt lists the environment twice. -/
theorem Advanced.once (h : Advanced id u s s') (honce : s.Once id) : s'.Once id := by
  obtain ⟨done, hstage, hg⟩ := h.edgeGroups
  intro group' hvalue
  obtain ⟨g, hgroup'⟩ := Table.mem_values.mp hvalue
  rw [hg, Table.get?_map, Option.map_eq_some_iff] at hgroup'
  obtain ⟨group, hgroup, rfl⟩ := hgroup'
  have hcount := honce group (Table.mem_values.mpr ⟨g, hgroup⟩)
  unfold edgeGroupDelta Update.edgeGroupDelta at hstage
  cases hu : u.edgeGroups with
  | none =>
    rw [hu] at hstage
    have hnone : ¬ done.Touches group.id := fun h => Delta.not_touches_nothing _ (hstage.touches h)
    rw [Delta.onEdgeGroup, Delta.on_of_not_touches hnone]
    exact hcount
  | some groups =>
    rw [hu] at hstage
    exact count_onEdgeGroup hstage hcount (mem_memberships_of_get? id hgroup)

theorem Underway.refl (honce : s.Once id) : Underway id u s s :=
  ⟨fun _ _ => rfl, fun _ h => .inl h, rfl, rfl, honce⟩

/-- The environment is written, in one attempt or another, as the update wants it. -/
theorem Underway.applyTo (h : Underway id u s s') {e e' : Environment}
    (he : s.environments.get? id = some e) (he' : s'.environments.get? id = some e') :
    u.applyTo e' = u.applyTo e := by
  rcases h.environment e he with hsame | hwritten
  · rw [hsame] at he'
    cases he'
    rfl
  · rw [hwritten] at he'
    cases he'
    exact u.applyTo_applyTo e

/-- One more attempt. -/
theorem Underway.step (h : Underway id u s s') (hnext : Advanced id u s' s'') :
    Underway id u s s'' where
  others j hj := by
    rcases hnext.environments with henv | ⟨-, e, -, henv⟩
    · rw [henv, h.others j hj]
    · rw [henv, Table.get?_insert, if_neg hj, h.others j hj]
  environment e he := by
    rcases hnext.environments with henv | ⟨-, e', he', henv⟩
    · rw [henv]
      exact h.environment e he
    · rw [henv, Table.get?_insert, if_pos rfl, h.applyTo he he']
      exact .inr rfl
  tags := hnext.reconciledTags.trans h.tags
  edgeGroups := (hnext.reconciledEdgeGroups h.once).trans h.edgeGroups
  once := hnext.once h.once

/-- Any number of attempts. -/
theorem Underway.run {t : MemoryStore × ρ} (h : Underway id u s t.1) (attempts : List (Attempt ρ)) :
    Underway id u s (afterAttempts attempts id u t).1 := by
  -- Whatever the attempt meets with, it is an advance, and an advance keeps the invariant.
  induction attempts generalizing t with
  | nil => exact h
  | cons a rest ih => exact ih (h.step (a.advanced id u t))

end Attempts

/-! ## Section 5: Convergence -/

section Convergence

variable {id : EnvironmentId} {u : Update} {s s' : MemoryStore} {e e' : Environment}

theorem Alike.trans {e₁ e₂ e₃ : Environment} (h : Alike e₁ e₂) (h' : Alike e₂ e₃) :
    Alike e₁ e₃ where
  id := h.id.trans h'.id
  name := h.name.trans h'.name
  groupId := h.groupId.trans h'.groupId
  tagIds t := (h.tagIds t).trans (h'.tagIds t)

theorem Alike.symm {e₁ e₂ : Environment} (h : Alike e₁ e₂) : Alike e₂ e₁ where
  id := h.id.symm
  name := h.name.symm
  groupId := h.groupId.symm
  tagIds t := (h.tagIds t).symm

/-- An update that changes nothing asks for what is there. -/
theorem alike_applyTo {S : Shelf} (h : (u.outcomeOn S e).changed = false) :
    Alike e (u.applyTo e) := by
  have hgroup : (u.applyTo e).groupId = e.groupId := by
    simp only [Update.outcomeOn, Update.outcome, Outcome.of, Bool.or_eq_false_iff] at h
    have hsame := h.1.1
    rw [decide_eq_false_iff_not, not_not] at hsame
    exact hsame.symm
  refine ⟨rfl, rfl, hgroup.symm, fun t => ?_⟩
  have hempty := (outcomeOn_unchanged h).1
  unfold Update.tagDelta at hempty
  unfold Update.applyTo
  cases hu : u.tags with
  | none => rfl
  | some tags =>
    rw [hu] at hempty
    rw [Delta.isEmpty_between, decide_eq_true_iff] at hempty
    show t ∈ e.tagIds ↔ t ∈ tags
    rw [← mem_ofList_ids, ← hempty, mem_ofList_ids]

/-- An update that succeeds leaves the environment as the update wants it. -/
theorem applyUpdate_alike {v : Visiting} {o : Outcome} {after : Environment}
    (h : applyUpdate v id u s = (.ok (o, after), s')) (he : s.environments.get? id = some e) :
    ∃ e', s'.environments.get? id = some e' ∧ Alike e' (u.applyTo e) := by
  obtain ⟨-, -, before, hbefore, rfl, rfl, henv⟩ := applyUpdate_reconciled h
  rw [he] at hbefore
  cases hbefore
  cases ho : (u.outcomeOn s.shelf e).changed with
  | true =>
    rw [ho, if_pos rfl] at henv
    refine ⟨u.applyTo e, ?_, rfl, rfl, rfl, fun _ => .rfl⟩
    rw [henv, Table.get?_insert, if_pos rfl]
  | false =>
    rw [ho, if_neg Bool.false_ne_true] at henv
    refine ⟨e, ?_, alike_applyTo ho⟩
    rw [henv, he]

/-- What is missing after some attempts was missing before them. -/
theorem Underway.blocked (h : Underway id u s s') (he : s.environments.get? id = some e)
    (he' : s'.environments.get? id = some e') (hblocked : Blocked s'.records u e') :
    Blocked s.records u e := by
  rcases hblocked with ⟨tags, hu, t, ht, hnone⟩ | ⟨groups, hu, g, hg, -, hnone⟩
  · refine .inl ⟨tags, hu, t, ?_, ?_⟩
    · rcases h.environment e he with hsame | hwritten
      · rw [he'] at hsame
        cases hsame
        exact ht
      · -- The environment wears the tags that the update asks for.
        rw [he'] at hwritten
        cases hwritten
        rw [Update.applyTo, hu] at ht
        exact ht.elim (fun h => absurd h.1 h.2) fun h => absurd h.1 h.2
    · have hget := congrArg (·.get? t) h.tags
      simp only [MemoryStore.reconciledTags, Table.get?_map,
        show s'.tags.get? t = none from hnone, Option.map_none] at hget
      exact Option.map_eq_none_iff.mp hget.symm
  · have hget := congrArg (·.get? g) h.edgeGroups
    simp only [MemoryStore.reconciledEdgeGroups, Table.get?_map,
      show s'.edgeGroups.get? g = none from hnone, Option.map_none] at hget
    have hnone' : s.records.edgeGroups.get? g = none := Option.map_eq_none_iff.mp hget.symm
    refine .inr ⟨groups, hu, g, hg, fun hold => ?_, hnone'⟩
    obtain ⟨group, hgroup, -⟩ := Records.mem_memberships.mp hold
    rw [hnone'] at hgroup
    cases hgroup

/-- If nothing is rejected and nothing is missing, the update succeeds. -/
theorem applyUpdate_ok (he : s.environments.get? id = some e) (hfree : ¬ Blocked s.records u e)
    (v : Visiting) :
    ∃ o after s', applyUpdate v id u (s.rejecting {}) = (.ok (o, after), s') := by
  rcases applyUpdate_records (R := s.records) (s := s.rejecting {}) storeMap rfl v id u with
    ⟨hnone, -⟩ | ⟨e', he', ⟨hblocked, -⟩ | ⟨-, s', -, hrun⟩⟩
  · rw [show s.records.environments.get? id = some e from he] at hnone
    cases hnone
  · rw [show s.records.environments.get? id = some e from he] at he'
    cases he'
    exact absurd hblocked hfree
  · exact ⟨_, _, s', hrun⟩

/-- If nothing is rejected and the update succeeds, then nothing is missing. -/
theorem not_blocked_of_ok {v : Visiting} {o : Outcome} {after : Environment}
    (h : applyUpdate v id u (s.rejecting {}) = (.ok (o, after), s')) :
    ∃ e, s.environments.get? id = some e ∧ ¬ Blocked s.records u e := by
  rcases applyUpdate_records (R := s.records) (s := s.rejecting {}) storeMap rfl v id u with
    ⟨-, _, -, hrun⟩ | ⟨e, he, ⟨-, _, _, -, hrun⟩ | ⟨hfree, -⟩⟩
  · rw [h] at hrun
    cases hrun
  · rw [h] at hrun
    cases hrun
  · exact ⟨e, he, hfree⟩

end Convergence

/-- An update that succeeds if nothing gets in its way succeeds after any number of attempts that
stopped anywhere, and takes the store to the same tags and edge groups and to the same environments
but for the order and the repetitions of tags in the one that is updated. -/
theorem update_converges (s s₁ : MemoryStore) (id : EnvironmentId) (u : Update)
    (honce : s.Once id) (v v' : Visiting) (r r' : Refresher ρ)
    (hr : ∀ e d, (r e d).1 = .ok ()) (hr' : ∀ e d, (r' e d).1 = .ok ())
    (d d₁ d₀ : ρ) (o : Outcome) (hok : update v r id u (s.rejecting {}, d) = (.ok o, (s₁, d₁)))
    (attempts : List (Attempt ρ)) :
    ∃ o' s' d', update v' r' id u
        ((afterAttempts attempts id u (s, d₀)).1.rejecting {},
          (afterAttempts attempts id u (s, d₀)).2) = (.ok o', (s', d')) ∧
      Converged id s s₁ s' := by
  obtain ⟨after, hrun⟩ := (update_ok_iff hr).mp ⟨d₁, hok⟩
  obtain ⟨e, he, hfree⟩ := not_blocked_of_ok hrun
  obtain ⟨ht₁, hg₁, -⟩ := applyUpdate_reconciled hrun
  obtain ⟨e₁, he₁, halike₁⟩ := applyUpdate_alike hrun he
  -- Of the attempts no more is used than that the update is under way when they are over.
  generalize hleft : afterAttempts attempts id u (s, d₀) = left
  have hunderway : Underway id u s left.1 := by
    rw [← hleft]
    exact (Underway.refl (u := u) honce).run (t := (s, d₀)) attempts
  obtain ⟨e', he'⟩ : ∃ e', left.1.environments.get? id = some e' :=
    (hunderway.environment e he).elim (fun h => ⟨_, h⟩) fun h => ⟨_, h⟩
  have hfree' : ¬ Blocked left.1.records u e' := fun h => hfree (hunderway.blocked he he' h)
  obtain ⟨o', after', s', hlast⟩ := applyUpdate_ok he' hfree' v'
  obtain ⟨d', hupdate⟩ := (update_ok_iff (d := left.2) hr').mpr ⟨after', hlast⟩
  obtain ⟨ht', hg', -⟩ := applyUpdate_reconciled hlast
  obtain ⟨e₂, he₂, halike₂⟩ := applyUpdate_alike hlast he'
  refine ⟨o', s', d', hupdate, ?_, ?_, ?_, e₁, e₂, he₁, he₂, ?_⟩
  · rw [ht', ht₁]
    exact hunderway.tags
  · rw [hg', hg₁]
    exact hunderway.edgeGroups
  · exact (hunderway.step (.of_rejecting (.of_applyUpdate hlast))).others
  · rw [hunderway.applyTo he he'] at halike₂
    exact halike₂.trans halike₁.symm

/-- An attempt that stops between the two tags, one that stops before the environment is written,
and one whose message does not arrive. -/
def hindered : List (Attempt Unit) :=
  [⟨{ writes := [(.tag, 2)] }, .ascending, .silent⟩,
    ⟨{ writes := [(.environment, 1)] }, .ascending, .silent⟩,
    ⟨{}, .ascending, fun _ => return .error (.refresh "down")⟩]

/-- Changing the tag and leaving the edge group, after three attempts that failed. -/
theorem update_converges_hindered : ∃ s₁, update .ascending Refresher.silent 1
      { tags := some [2], edgeGroups := some [] } (sampleStore.rejecting {}, ()) =
      (.ok ⟨true, false, true, true⟩, (s₁, ())) ∧
    ∃ o' s' d', update .ascending Refresher.silent 1 { tags := some [2], edgeGroups := some [] }
        ((afterAttempts hindered 1 { tags := some [2], edgeGroups := some [] }
          (sampleStore, ())).1.rejecting {}, ()) = (.ok o', (s', d')) ∧
      Converged 1 sampleStore s₁ s' := by
  have honce : sampleStore.Once 1 := by
    unfold Once
    decide
  refine ⟨_, rfl, ?_⟩
  exact update_converges sampleStore _ 1 _ honce .ascending .ascending .silent .silent
    (fun _ _ => rfl) (fun _ _ => rfl) () () () _ rfl hindered

end EnvRegistry.MemoryStore

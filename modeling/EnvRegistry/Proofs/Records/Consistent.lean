import EnvRegistry.Proofs.Relations.Meaning
import Mathlib.Data.List.Nodup

/-! # Records that agree with each other

    The relation between environments and tags is held from both sides, and the
    relation between environments and edge groups from one.  `Consistent` says
    that the two sides agree and that no id leads nowhere.  The latter is what
    makes a new id safe: no list of ids mentions it yet.

    Whatever changes the relations of an environment puts the environment in its
    place at the end, so one lemma (`Indexed.related_put`) covers both a new
    environment and an update.  `Indexed` is the part of the invariant that says
    who is listed where. -/

namespace EnvRegistry.Records

open Relations

/-! ## Section 1: Model -/

/-- Records that agree with each other. -/
structure Consistent (R : Records) : Prop where
  /-- A tag lists exactly the environments that wear it. -/
  listed : ∀ t tag id, R.tags.get? t = some tag →
    (id ∈ tag.members ↔ ∃ e, R.environments.get? id = some e ∧ t ∈ e.tagIds)
  /-- Every tag that is worn is there. -/
  worn : ∀ id e t, R.environments.get? id = some e → t ∈ e.tagIds → R.tags.get? t ≠ none
  /-- Every member of an edge group is there. -/
  members : ∀ g group id, R.edgeGroups.get? g = some group → id ∈ group.members →
    R.environments.get? id ≠ none
  /-- No edge group lists an environment twice. -/
  nodup : ∀ g group, R.edgeGroups.get? g = some group → group.members.Nodup
  /-- Every environment lies in a group. -/
  grouped : ∀ id e, R.environments.get? id = some e → e.groupId ≠ GroupId.unset

/-- A tag lists exactly the environments that wear it, every tag that is worn is there, and no edge
group lists an environment twice. -/
structure Indexed (R : Records) : Prop where
  listed : ∀ t tag id, R.tags.get? t = some tag →
    (id ∈ tag.members ↔ ∃ e, R.environments.get? id = some e ∧ t ∈ e.tagIds)
  worn : ∀ id e t, R.environments.get? id = some e → t ∈ e.tagIds → R.tags.get? t ≠ none
  nodup : ∀ g group, R.edgeGroups.get? g = some group → group.members.Nodup

/-- No edge group lists an environment twice. -/
def Unrepeated (R : Records) : Prop :=
  ∀ g group, R.edgeGroups.get? g = some group → group.members.Nodup

variable {R : Records}

theorem Consistent.indexed (h : R.Consistent) : R.Indexed := ⟨h.listed, h.worn, h.nodup⟩

theorem Unrepeated.once (h : R.Unrepeated) (id : EnvironmentId) :
    ∀ group ∈ R.edgeGroups.values, group.members.count id ≤ 1 := by
  intro group hgroup
  obtain ⟨g, hget⟩ := Table.mem_values.mp hgroup
  exact List.nodup_iff_count_le_one.mp (h g group hget) id

/-! ## Section 2: New tags and edge groups -/

theorem consistent_empty : ({} : Records).Consistent := by
  refine ⟨?_, ?_, ?_, ?_, ?_⟩
  · intro t tag id h
    cases h
  · intro id e t h
    cases h
  · intro g group id h
    cases h
  · intro g group h
    cases h
  · intro id e h
    cases h

theorem get?_putEdgeGroup (R : Records) (id g : EdgeGroupId) (name : String) :
    (R.putEdgeGroup { id, name }).edgeGroups.get? g =
      if g = id then some { id, name } else R.edgeGroups.get? g := Table.get?_insert _ _ _ _

/-- A new edge group has no members. -/
theorem Unrepeated.putEdgeGroup (h : R.Unrepeated) (id : EdgeGroupId) (name : String) :
    (R.putEdgeGroup { id, name }).Unrepeated := by
  intro g group hgroup
  rw [get?_putEdgeGroup] at hgroup
  split at hgroup
  · cases hgroup
    exact List.nodup_nil
  · exact h g group hgroup

namespace Indexed

/-- No environment wears a tag that is not there yet. -/
theorem putTag (h : R.Indexed) {id : TagId} (hnew : R.tags.get? id = none) (name : String) :
    (R.putTag { id, name }).Indexed where
  listed t tag e htag := by
    have hget : (R.putTag { id, name }).tags.get? t =
        if t = id then some { id, name } else R.tags.get? t := Table.get?_insert _ _ _ _
    rw [hget] at htag
    by_cases ht : t = id
    · rw [if_pos ht] at htag
      cases htag
      refine iff_of_false KeySet.not_mem_empty ?_
      rintro ⟨env, henv, hworn⟩
      -- An environment that wears the new tag would lead nowhere.
      rw [ht] at hworn
      exact h.worn e env id henv hworn hnew
    · rw [if_neg ht] at htag
      exact h.listed t tag e htag
  worn e env t henv hworn := by
    have hget : (R.putTag { id, name }).tags.get? t =
        if t = id then some { id, name } else R.tags.get? t := Table.get?_insert _ _ _ _
    rw [hget]
    split
    · nofun
    · exact h.worn e env t henv hworn
  nodup := h.nodup

theorem putEdgeGroup (h : R.Indexed) (id : EdgeGroupId) (name : String) :
    (R.putEdgeGroup { id, name }).Indexed where
  listed := h.listed
  worn := h.worn
  nodup := Unrepeated.putEdgeGroup h.nodup id name

end Indexed

namespace Consistent

theorem putTag (h : R.Consistent) {id : TagId} (hnew : R.tags.get? id = none) (name : String) :
    (R.putTag { id, name }).Consistent := by
  obtain ⟨hlisted, hworn, hnodup⟩ := h.indexed.putTag hnew name
  exact ⟨hlisted, hworn, h.members, hnodup, h.grouped⟩

theorem putEdgeGroup (h : R.Consistent) (id : EdgeGroupId) (name : String) :
    (R.putEdgeGroup { id, name }).Consistent := by
  obtain ⟨hlisted, hworn, hnodup⟩ := h.indexed.putEdgeGroup id name
  refine ⟨hlisted, hworn, fun g group e hgroup hmember => ?_, hnodup, h.grouped⟩
  rw [get?_putEdgeGroup] at hgroup
  split at hgroup
  · cases hgroup
    cases hmember
  · exact h.members g group e hgroup hmember

end Consistent

/-! ## Section 3: Changing the relations of an environment -/

/-- Only the environment itself joins or leaves a tag. -/
theorem mem_onTag_of_ne {d : Delta TagId} {id j : EnvironmentId} (hj : j ≠ id) (tag : Tag) :
    j ∈ (d.onTag id tag).members ↔ j ∈ tag.members := by
  unfold Delta.onTag Delta.on
  split
  · exact KeySet.mem_erase.trans (and_iff_left hj)
  · split
    · exact KeySet.mem_insert.trans (or_iff_right hj)
    · exact Iff.rfl

/-- Only the environment itself joins or leaves an edge group. -/
theorem mem_onEdgeGroup_of_ne {d : Delta EdgeGroupId} {id j : EnvironmentId} (hj : j ≠ id)
    (group : EdgeGroup) : j ∈ (d.onEdgeGroup id group).members ↔ j ∈ group.members := by
  unfold Delta.onEdgeGroup Delta.on
  split
  · exact List.mem_erase_of_ne hj
  · split
    · exact List.mem_append.trans (or_iff_left fun h => hj (List.mem_singleton.mp h))
    · exact Iff.rfl

section Related

variable {e : Environment} {tags : Delta TagId} {edgeGroups : Delta EdgeGroupId}

theorem get?_related_environments (id : EnvironmentId) :
    ((R.related e.id tags edgeGroups).putEnvironment e).environments.get? id =
      if id = e.id then some e else R.environments.get? id := Table.get?_insert _ _ _ _

theorem get?_related_edgeGroups (g : EdgeGroupId) :
    ((R.related e.id tags edgeGroups).putEnvironment e).edgeGroups.get? g =
      (R.edgeGroups.get? g).map (edgeGroups.onEdgeGroup e.id) := Table.get?_map _ _ _

/-- An environment is put in its place, with tags that list it exactly if it wears them. -/
theorem Indexed.related_put (h : R.Indexed)
    (hlisted : ∀ t tag, R.tags.get? t = some tag →
      (e.id ∈ (tags.onTag e.id tag).members ↔ t ∈ e.tagIds))
    (hworn : ∀ t ∈ e.tagIds, R.tags.get? t ≠ none)
    (hnodup : ∀ g group, R.edgeGroups.get? g = some group →
      (edgeGroups.onEdgeGroup e.id group).members.Nodup) :
    ((R.related e.id tags edgeGroups).putEnvironment e).Indexed := by
  -- Putting the environment in its place does not touch the tags.
  have htags : ∀ t, ((R.related e.id tags edgeGroups).putEnvironment e).tags.get? t =
      (R.tags.get? t).map (tags.onTag e.id) := fun t => Table.get?_map _ _ _
  constructor
  case listed =>
    intro t tag' id htag'
    rw [htags, Option.map_eq_some_iff] at htag'
    obtain ⟨tag, htag, rfl⟩ := htag'
    rw [get?_related_environments]
    by_cases hid : id = e.id
    · rw [if_pos hid, hid, hlisted t tag htag]
      simp
    · rw [if_neg hid, mem_onTag_of_ne hid]
      exact h.listed t tag id htag
  case worn =>
    intro id env t hstored ht
    rw [get?_related_environments] at hstored
    rw [htags, Ne, Option.map_eq_none_iff]
    split at hstored
    · cases hstored
      exact hworn t ht
    · exact h.worn id env t hstored ht
  case nodup =>
    intro g group' hgroup'
    rw [get?_related_edgeGroups, Option.map_eq_some_iff] at hgroup'
    obtain ⟨group, hgroup, rfl⟩ := hgroup'
    exact hnodup g group hgroup

/-- Putting an environment in its place adds no member to an edge group that leads nowhere. -/
theorem Consistent.of_related_put (h : R.Consistent)
    (hindexed : ((R.related e.id tags edgeGroups).putEnvironment e).Indexed)
    (hgrouped : e.groupId ≠ GroupId.unset) :
    ((R.related e.id tags edgeGroups).putEnvironment e).Consistent := by
  refine ⟨hindexed.listed, hindexed.worn, ?_, hindexed.nodup, ?_⟩
  · intro g group' id hgroup' hmember
    rw [get?_related_edgeGroups, Option.map_eq_some_iff] at hgroup'
    obtain ⟨group, hgroup, rfl⟩ := hgroup'
    rw [get?_related_environments]
    by_cases hid : id = e.id
    · rw [if_pos hid]
      nofun
    · rw [if_neg hid]
      rw [mem_onEdgeGroup_of_ne hid] at hmember
      exact h.members g group id hgroup hmember
  · intro id env hstored
    rw [get?_related_environments] at hstored
    split at hstored
    · cases hstored
      exact hgrouped
    · exact h.grouped id env hstored

end Related

/-! ## Section 4: Updates and new environments -/

theorem requested?_ne_unset {group : Option GroupId} {g : GroupId}
    (h : GroupId.requested? group = some g) : g ≠ GroupId.unset := (requested?_eq_some.mp h).2

section Updated

variable {u : Update} {e : Environment}

/-- A tag that lists an environment exactly if it wears it does so after an update. -/
theorem mem_onTag_tagDelta {tag : Tag} (hold : e.id ∈ tag.members ↔ tag.id ∈ e.tagIds) :
    e.id ∈ ((u.tagDelta e).onTag e.id tag).members ↔ tag.id ∈ (u.applyTo e).tagIds := by
  show _ ↔ tag.id ∈ u.tags.getD e.tagIds
  unfold Update.tagDelta
  cases u.tags with
  | none =>
    rw [onTag_nothing]
    exact hold
  | some tags =>
    simp only [Delta.onTag, Delta.on, Delta.mem_toRemove_between, Delta.mem_toAdd_between,
      mem_ofList_ids, Option.getD_some]
    by_cases ht : tag.id ∈ tags
    · by_cases hworn : tag.id ∈ e.tagIds
      · simp [ht, hworn, hold.mpr hworn]
      · simp [ht, hworn, Tag.addMember]
    · by_cases hworn : tag.id ∈ e.tagIds
      · simp [ht, hworn, Tag.removeMember]
      · simp [ht, hworn, hold]

/-- An edge group without repetitions has none after an update, for the environment joins only edge
groups that it is not in. -/
theorem nodup_onEdgeGroup {group : EdgeGroup} (hgroup : R.edgeGroups.get? group.id = some group)
    (hold : group.members.Nodup) :
    ((u.edgeGroupDelta (R.memberships e.id)).onEdgeGroup e.id group).members.Nodup := by
  unfold Update.edgeGroupDelta
  cases u.edgeGroups with
  | none =>
    rw [onEdgeGroup_nothing]
    exact hold
  | some groups =>
    simp only [Delta.onEdgeGroup, Delta.on, Delta.mem_toRemove_between, Delta.mem_toAdd_between,
      mem_ofList_ids]
    split
    · exact hold.erase _
    · split
      · next hnew =>
        refine List.nodup_append.mpr ⟨hold, by simp, fun a ha b hb => ?_⟩
        rw [List.mem_singleton.mp hb]
        rintro rfl
        exact hnew.2 (mem_memberships.mpr ⟨group, hgroup, ha⟩)
      · exact hold

theorem Unrepeated.updated (h : R.Unrepeated) (u : Update) (e : Environment) :
    (R.updated u e).Unrepeated := by
  intro g group' hgroup'
  rw [get?_updated_edgeGroups, Option.map_eq_some_iff] at hgroup'
  obtain ⟨group, hgroup, rfl⟩ := hgroup'
  obtain rfl : group.id = g := R.edgeGroupsKeyed g group hgroup
  exact nodup_onEdgeGroup hgroup (h group.id group hgroup)

/-- An update that finds what it needs keeps the tags in agreement with the environments. -/
theorem Indexed.updated (h : R.Indexed) (he : R.environments.get? e.id = some e)
    (hfree : ¬ Blocked R u e) : (R.updated u e).Indexed := by
  refine h.related_put (e := u.applyTo e) ?_ ?_ ?_
  · intro t tag htag
    obtain rfl : tag.id = t := R.tagsKeyed t tag htag
    refine mem_onTag_tagDelta ?_
    rw [h.listed tag.id tag e.id htag, he]
    simp
  · show ∀ t ∈ u.tags.getD e.tagIds, R.tags.get? t ≠ none
    intro t ht hnone
    by_cases hworn : t ∈ e.tagIds
    · exact h.worn e.id e t he hworn hnone
    · cases hu : u.tags with
      | none =>
        rw [hu] at ht
        exact hworn ht
      | some tags =>
        rw [hu] at ht
        exact hfree (.inl ⟨tags, hu, t, .inl ⟨ht, hworn⟩, hnone⟩)
  · intro g group hgroup
    obtain rfl : group.id = g := R.edgeGroupsKeyed g group hgroup
    exact nodup_onEdgeGroup hgroup (h.nodup group.id group hgroup)

/-- An update that finds what it needs leaves consistent records consistent. -/
theorem Consistent.updated (h : R.Consistent) (he : R.environments.get? e.id = some e)
    (hfree : ¬ Blocked R u e) : (R.updated u e).Consistent := by
  refine h.of_related_put (e := u.applyTo e) (h.indexed.updated he hfree) ?_
  show (GroupId.requested? u.group).getD e.groupId ≠ GroupId.unset
  cases hg : GroupId.requested? u.group with
  | none => exact h.grouped e.id e he
  | some g => exact requested?_ne_unset hg

end Updated

/-- A new environment that its tags list leaves consistent records consistent. -/
theorem Consistent.create (h : R.Consistent) {e : Environment} {tags : List TagId}
    (hnew : R.environments.get? e.id = none) (htagIds : e.tagIds = tags.eraseDups)
    (hstored : ∀ t ∈ tags, R.tags.get? t ≠ none) (hgrouped : e.groupId ≠ GroupId.unset) :
    ((R.related e.id ⟨.empty, .ofList tags⟩ .nothing).putEnvironment e).Consistent := by
  have hmem : ∀ t, t ∈ e.tagIds ↔ t ∈ tags := by
    intro t
    rw [htagIds, List.mem_eraseDups]
  refine h.of_related_put (h.indexed.related_put ?_ ?_ ?_) hgrouped
  · intro t tag htag
    have hid : tag.id = t := R.tagsKeyed t tag htag
    -- No tag can list the environment yet, for it would lead nowhere.
    have hunlisted : ¬ e.id ∈ tag.members := by
      rw [h.listed t tag e.id htag, hnew]
      simp
    simp only [Delta.onTag, Delta.on, hid, KeySet.not_mem_empty, if_false, mem_ofList_ids, hmem]
    by_cases ht : t ∈ tags
    · simp [ht, Tag.addMember]
    · simp [ht, hunlisted]
  · intro t ht
    exact hstored t ((hmem t).mp ht)
  · intro g group hgroup
    rw [onEdgeGroup_nothing]
    exact h.nodup g group hgroup

end EnvRegistry.Records

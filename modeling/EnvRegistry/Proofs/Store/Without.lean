import EnvRegistry.Proofs.Relations.Apply
import EnvRegistry.Proofs.Store.Counted

/-! # A store without the relations of some environments

    `Shelf.without ids` leaves of the environments `ids` only their ids and their
    names, and takes them out of every tag and of every edge group.  Two things
    can be said with it, and both of an update of one environment.

    If the environment is among `ids`, the update changes nothing of what is left
    (`without_related`, `without_put`).  If it is not, the update does the same on
    what is left as on the whole (`commutes_mutateTag`, `commutes_mutateEdgeGroup`):
    it sees nothing of the environments that are missing. -/

namespace EnvRegistry

/-! ## Section 1: Model -/

/-- The tag without some environments among its members. -/
def Tag.without (ids : List EnvironmentId) (t : Tag) : Tag :=
  { t with members := t.members.filter (· ∉ ids) }

/-- The edge group without any mention of some environments. -/
def EdgeGroup.without (ids : List EnvironmentId) (g : EdgeGroup) : EdgeGroup :=
  { g with members := g.members.filter (· ∉ ids) }

/-- The environment, or its id and its name if it is one of some environments. -/
def Environment.without (ids : List EnvironmentId) (e : Environment) : Environment :=
  if e.id ∈ ids then { id := e.id, name := e.name } else e

/-- The shelf without the relations of some environments. -/
def Shelf.without (ids : List EnvironmentId) (s : Shelf) : Shelf :=
  { s with
    environments := s.environments.map (Except.map (Environment.without ids))
    tags := s.tags.map (Except.map (Tag.without ids))
    edgeGroups := s.edgeGroups.map (Except.map (EdgeGroup.without ids)) }

/-- A change of shelves applies `g` to every record of a kind. -/
structure Rack.Applies {α : Type} (k : Rack α) (φ : Shelf → Shelf) (g : α → α) : Prop where
  key : ∀ a, k.key (g a) = k.key a
  get : ∀ s, k.get (φ s) = (k.get s).map (Except.map g)
  set : ∀ t s, φ (k.set t s) = k.set (t.map (Except.map g)) (φ s)
  failingReads : ∀ s, (φ s).failingReads = s.failingReads
  failingWrites : ∀ s, (φ s).failingWrites = s.failingWrites

/-! ## Section 2: Records -/

section Records

variable {ids : List EnvironmentId} {id : EnvironmentId}

@[simp] theorem Environment.without_id (ids : List EnvironmentId) (e : Environment) :
    (e.without ids).id = e.id := by
  unfold Environment.without
  split
  · rfl
  · rfl

theorem Environment.without_name (ids : List EnvironmentId) (e : Environment) :
    (e.without ids).name = e.name := by
  unfold Environment.without
  split
  · rfl
  · rfl

theorem Environment.without_of_not_mem {e : Environment} (he : e.id ∉ ids) : e.without ids = e :=
  if_neg he

theorem Tag.mem_without {t : Tag} : id ∈ (t.without ids).members ↔ id ∈ t.members ∧ id ∉ ids := by
  unfold Tag.without
  rw [KeySet.mem_filter, decide_eq_true_iff]

theorem EdgeGroup.mem_without {g : EdgeGroup} :
    id ∈ (g.without ids).members ↔ id ∈ g.members ∧ id ∉ ids := by
  unfold EdgeGroup.without
  rw [List.mem_filter, decide_eq_true_iff]

/-- A tag is its id, its name and its members. -/
theorem Tag.ext_mem {t t' : Tag} (hid : t.id = t'.id) (hname : t.name = t'.name)
    (hmem : ∀ j, j ∈ t.members ↔ j ∈ t'.members) : t = t' := by
  cases t
  cases t'
  simp only [Tag.mk.injEq]
  exact ⟨hid, hname, KeySet.ext_mem hmem⟩

section Hidden

variable (hid : id ∈ ids)

include hid

/-- What is left of a tag does not show who of those that are missing joins or leaves it. -/
theorem Tag.without_addMember (t : Tag) : (t.addMember id).without ids = t.without ids := by
  refine Tag.ext_mem rfl rfl fun j => ?_
  rw [Tag.mem_without, Tag.mem_without, Tag.addMember, KeySet.mem_insert]
  refine and_congr_left fun hj => or_iff_right ?_
  rintro rfl
  exact hj hid

theorem Tag.without_removeMember (t : Tag) : (t.removeMember id).without ids = t.without ids := by
  refine Tag.ext_mem rfl rfl fun j => ?_
  rw [Tag.mem_without, Tag.mem_without, Tag.removeMember, KeySet.mem_erase]
  refine and_congr_left fun hj => and_iff_left ?_
  rintro rfl
  exact hj hid

theorem EdgeGroup.without_addMember (g : EdgeGroup) :
    (g.addMember id).without ids = g.without ids := by
  have hgone : [id].filter (· ∉ ids) = [] := by simp [hid]
  unfold EdgeGroup.without EdgeGroup.addMember
  rw [List.filter_append, hgone, List.append_nil]

theorem EdgeGroup.without_removeMember (g : EdgeGroup) :
    (g.removeMember id).without ids = g.without ids := by
  have hgone : id ∉ g.members.filter (· ∉ ids) := by simp [hid]
  unfold EdgeGroup.without EdgeGroup.removeMember
  rw [← List.erase_filter, List.erase_of_not_mem hgone]

end Hidden

section Shown

variable (hid : id ∉ ids)

include hid in
/-- Someone who is not missing joins and leaves what is left as it would the whole. -/
theorem Tag.addMember_without (t : Tag) :
    (t.without ids).addMember id = (t.addMember id).without ids := by
  refine Tag.ext_mem rfl rfl fun j => ?_
  rw [Tag.mem_without, Tag.addMember, Tag.addMember, KeySet.mem_insert, KeySet.mem_insert,
    Tag.mem_without, or_and_right]
  refine or_congr_left (and_iff_left_of_imp ?_).symm
  rintro rfl
  exact hid

theorem Tag.removeMember_without (id : EnvironmentId) (t : Tag) :
    (t.without ids).removeMember id = (t.removeMember id).without ids := by
  refine Tag.ext_mem rfl rfl fun j => ?_
  rw [Tag.mem_without, Tag.removeMember, Tag.removeMember, KeySet.mem_erase, KeySet.mem_erase,
    Tag.mem_without, and_right_comm]

include hid in
theorem EdgeGroup.addMember_without (g : EdgeGroup) :
    (g.without ids).addMember id = (g.addMember id).without ids := by
  have hkept : [id].filter (· ∉ ids) = [id] := by simp [hid]
  unfold EdgeGroup.without EdgeGroup.addMember
  rw [List.filter_append, hkept]

theorem EdgeGroup.removeMember_without (id : EnvironmentId) (g : EdgeGroup) :
    (g.without ids).removeMember id = (g.removeMember id).without ids := by
  unfold EdgeGroup.without EdgeGroup.removeMember
  rw [List.erase_filter]

include hid

theorem EdgeGroup.hasMember_without (g : EdgeGroup) :
    (g.without ids).hasMember id = g.hasMember id := by
  unfold EdgeGroup.hasMember
  rw [Bool.eq_iff_iff, List.contains_iff_mem, List.contains_iff_mem, EdgeGroup.mem_without]
  exact and_iff_left hid

theorem memberships_without (groups : List EdgeGroup) :
    Relations.memberships (groups.map (EdgeGroup.without ids)) id =
      Relations.memberships groups id := by
  unfold Relations.memberships
  rw [List.filter_map, List.map_map]
  have hmember : (EdgeGroup.hasMember · id) ∘ EdgeGroup.without ids = (EdgeGroup.hasMember · id) :=
    funext fun g => EdgeGroup.hasMember_without hid g
  rw [hmember]
  rfl

end Shown

end Records

/-! ## Section 3: Changes that do not show -/

namespace Shelf

open Relations

variable {ids : List EnvironmentId} {id : EnvironmentId} {s : Shelf}

theorem without_onTag (hid : id ∈ ids) (d : Delta TagId) (t : Tag) :
    (d.onTag id t).without ids = t.without ids := by
  unfold Delta.onTag Delta.on
  split
  · exact Tag.without_removeMember hid t
  · split
    · exact Tag.without_addMember hid t
    · rfl

theorem without_onEdgeGroup (hid : id ∈ ids) (d : Delta EdgeGroupId) (g : EdgeGroup) :
    (d.onEdgeGroup id g).without ids = g.without ids := by
  unfold Delta.onEdgeGroup Delta.on
  split
  · exact EdgeGroup.without_removeMember hid g
  · split
    · exact EdgeGroup.without_addMember hid g
    · rfl

/-- A change of every record that does not show in what is left of a record. -/
theorem map_map_cells {α : Type} {f g : α → α} (h : ∀ a, g (f a) = g a) (t : Table (Cell α)) :
    (t.map (Except.map f)).map (Except.map g) = t.map (Except.map g) := by
  rw [Table.map_map]
  refine congrArg (t.map ·) (funext fun cell => ?_)
  cases cell with
  | error _ => rfl
  | ok a => exact congrArg Except.ok (h a)

/-- Under every id, two tables of which the same is left hold nothing, or the same fault, or
records of which the same is left. -/
theorem cells_of_map {α : Type} {g : α → α} {t t' : Table (Cell α)}
    (h : t'.map (Except.map g) = t.map (Except.map g)) (id : UInt32) :
    (t.get? id = none ∧ t'.get? id = none) ∨
      (∃ fault, t.get? id = some (.error fault) ∧ t'.get? id = some (.error fault)) ∨
      ∃ a a', t.get? id = some (.ok a) ∧ t'.get? id = some (.ok a') ∧ g a' = g a := by
  have hget := congrArg (·.get? id) h
  simp only [Table.get?_map] at hget
  rcases hcell : t.get? id with _ | fault | a
  · rw [hcell] at hget
    exact .inl ⟨rfl, Option.map_eq_none_iff.mp hget⟩
  · rw [hcell] at hget
    obtain ⟨cell', hcell', heq⟩ := Option.map_eq_some_iff.mp hget
    cases cell' with
    | error _ =>
      cases heq
      exact .inr (.inl ⟨_, rfl, hcell'⟩)
    | ok _ => cases heq
  · rw [hcell] at hget
    obtain ⟨cell', hcell', heq⟩ := Option.map_eq_some_iff.mp hget
    cases cell' with
    | error _ => cases heq
    | ok a' => exact .inr (.inr ⟨a, a', rfl, hcell', Except.ok.inj heq⟩)

/-- A missing environment changes its tags and its edge groups. -/
theorem without_related (hid : id ∈ ids) (s : Shelf) (tags : Delta TagId)
    (edgeGroups : Delta EdgeGroupId) :
    (s.related id tags edgeGroups).without ids = s.without ids := by
  have htags := map_map_cells (without_onTag hid tags) s.tags
  have hgroups := map_map_cells (without_onEdgeGroup hid edgeGroups) s.edgeGroups
  show { s with
    environments := s.environments.map (Except.map (Environment.without ids))
    tags := (s.tags.map (Except.map (tags.onTag id))).map (Except.map (Tag.without ids))
    edgeGroups := (s.edgeGroups.map (Except.map (edgeGroups.onEdgeGroup id))).map
      (Except.map (EdgeGroup.without ids)) : Shelf } = _
  rw [htags, hgroups]
  rfl

/-- A missing environment is written over, and keeps its id and its name. -/
theorem without_put (e e' : Environment) (hid : e.id ∈ ids)
    (he : s.environments.get? e.id = some (.ok e)) (hsame : e'.id = e.id)
    (hname : e'.name = e.name) :
    (Rack.environments.put e' s).without ids = s.without ids := by
  have hleft : e'.without ids = e.without ids := by
    unfold Environment.without
    rw [if_pos hid, if_pos (by rwa [hsame]), hsame, hname]
  have htable : (s.environments.insert e'.id (.ok e')).map (Except.map (Environment.without ids)) =
      s.environments.map (Except.map (Environment.without ids)) := by
    refine Table.ext_get? fun j => ?_
    rw [Table.get?_map, Table.get?_insert, hsame, Table.get?_map]
    by_cases hj : j = e.id
    · rw [if_pos hj, hj, he]
      exact congrArg (some ∘ Except.ok) hleft
    · rw [if_neg hj]
  show { s with
    environments := (s.environments.insert e'.id (.ok e')).map
      (Except.map (Environment.without ids))
    tags := s.tags.map (Except.map (Tag.without ids))
    edgeGroups := s.edgeGroups.map (Except.map (EdgeGroup.without ids)) : Shelf } = _
  rw [htable]
  rfl

end Shelf

/-! ## Section 4: Reading and writing what is left -/

namespace Rack.Applies

variable {α : Type} {k : Rack α} {φ : Shelf → Shelf} {g : α → α} (h : k.Applies φ g)

include h

theorem read (id : UInt32) : Carries φ g (k.read id) (k.read id) := by
  intro s
  rw [Rack.read, Rack.look, h.failingReads, h.get, Table.get?_map, Rack.read, Rack.look]
  split
  · rfl
  · cases (k.get s).get? id with
    | none => rfl
    | some cell =>
      cases cell with
      | error _ => rfl
      | ok _ => rfl

theorem put (a : α) (s : Shelf) : φ (k.put a s) = k.put (g a) (φ s) := by
  unfold Rack.put
  rw [h.set, Table.map_insert, h.key, h.get]
  rfl

theorem replace (a : α) : Commutes φ (k.replace a) (k.replace (g a)) := by
  intro s
  rw [Rack.replace, h.failingWrites, h.get, Table.contains_map, h.key, ← h.put, Rack.replace]
  split
  · rfl
  · split
    · rfl
    · rfl

end Rack.Applies

namespace Shelf

variable {ids : List EnvironmentId} {id : EnvironmentId}

theorem environments_without (ids : List EnvironmentId) :
    Rack.environments.Applies (without ids) (Environment.without ids) where
  key := Environment.without_id ids
  get _ := rfl
  set _ _ := rfl
  failingReads _ := rfl
  failingWrites _ := rfl

theorem tags_without (ids : List EnvironmentId) :
    Rack.tags.Applies (without ids) (Tag.without ids) where
  key _ := rfl
  get _ := rfl
  set _ _ := rfl
  failingReads _ := rfl
  failingWrites _ := rfl

theorem edgeGroups_without (ids : List EnvironmentId) :
    Rack.edgeGroups.Applies (without ids) (EdgeGroup.without ids) where
  key _ := rfl
  get _ := rfl
  set _ _ := rfl
  failingReads _ := rfl
  failingWrites _ := rfl

theorem scan_without (ids : List EnvironmentId) (s : Shelf) :
    (s.without ids).scan = s.scan.map (List.map (EdgeGroup.without ids)) := by
  have hvalues : (s.without ids).edgeGroups.values.mapM id =
      (s.edgeGroups.values.mapM id).map (List.map (EdgeGroup.without ids)) := by
    show (s.edgeGroups.map _).values.mapM id = _
    rw [Table.values_map]
    induction s.edgeGroups.values with
    | nil => rfl
    | cons cell rest ih =>
      rw [List.map_cons, List.mapM_cons, List.mapM_cons, ih]
      cases cell with
      | error _ => rfl
      | ok _ =>
        cases rest.mapM id with
        | error _ => rfl
        | ok _ => rfl
  have hscan : (s.without ids).failingScan = s.failingScan := rfl
  rw [scan, scan, hvalues, hscan]
  split
  · rfl
  · cases s.edgeGroups.values.mapM id with
    | error _ => rfl
    | ok _ => rfl

/-! ## Section 5: Updates of an environment that is not missing -/

section Shown

variable (reads writes : Nat)

theorem commutes_mutateTag {f : Tag → Tag} (hf : ∀ t : Tag, f (t.without ids) = (f t).without ids)
    (t : TagId) :
    Commutes (Counted.map (without ids) reads writes) (RelationStore.mutateTag t f)
      (RelationStore.mutateTag t f) := by
  refine (Counted.carries_reading reads writes ((tags_without ids).read t)).bind fun a => ?_
  rw [hf]
  exact Counted.commutes_writing reads writes ((tags_without ids).replace (f a))

theorem commutes_mutateEdgeGroup {f : EdgeGroup → EdgeGroup}
    (hf : ∀ g : EdgeGroup, f (g.without ids) = (f g).without ids) (g : EdgeGroupId) :
    Commutes (Counted.map (without ids) reads writes) (RelationStore.mutateEdgeGroup g f)
      (RelationStore.mutateEdgeGroup g f) := by
  refine (Counted.carries_reading reads writes ((edgeGroups_without ids).read g)).bind fun a => ?_
  rw [hf]
  exact Counted.commutes_writing reads writes ((edgeGroups_without ids).replace (f a))

variable (hid : id ∉ ids)

include hid

/-- The edge groups of an environment do not depend on who else is in them. -/
theorem commutes_environmentEdgeGroups :
    Commutes (Counted.map (without ids) reads writes) (Relations.environmentEdgeGroups id)
      (Relations.environmentEdgeGroups id) := by
  have hscan : Carries (without ids) (List.map (EdgeGroup.without ids))
      RelationStore.edgeGroups RelationStore.edgeGroups :=
    fun s => congrArg (·, s.without ids) (scan_without ids s)
  refine (Counted.carries_reading reads writes hscan).bind fun groups => ?_
  rw [memberships_without hid]
  exact .pure _

theorem commutes_tagPhase (v : Relations.Visiting) (u : Relations.Update) {e : Environment}
    (he : e.id = id) :
    Commutes (Counted.map (without ids) reads writes) (Relations.tagPhase v u e)
      (Relations.tagPhase v u e) :=
  .tagPhase (commutes_mutateTag reads writes (Tag.removeMember_without id))
    (commutes_mutateTag reads writes (Tag.addMember_without hid)) v u he

theorem commutes_edgeGroupPhase (v : Relations.Visiting) (u : Relations.Update) :
    Commutes (Counted.map (without ids) reads writes) (Relations.edgeGroupPhase v u id)
      (Relations.edgeGroupPhase v u id) :=
  .edgeGroupPhase (commutes_environmentEdgeGroups reads writes hid)
    (commutes_mutateEdgeGroup reads writes (EdgeGroup.removeMember_without id))
    (commutes_mutateEdgeGroup reads writes (EdgeGroup.addMember_without hid)) v u

theorem commutes_writePhase (u : Relations.Update) {e : Environment} (he : e.id = id)
    (o : Relations.Outcome) :
    Commutes (Counted.map (without ids) reads writes) (Relations.writePhase u e o)
      (Relations.writePhase u e o) := by
  have hshown : (u.applyTo e).without ids = u.applyTo e :=
    Environment.without_of_not_mem (by rwa [Relations.Update.applyTo_id, he])
  have hreplace := (environments_without ids).replace (u.applyTo e)
  rw [hshown] at hreplace
  exact .ite (Counted.commutes_writing reads writes hreplace) (.pure ())

/-- An update of an environment comes to the same on what is left of a shelf without others. -/
theorem applyUpdate_without {c : Counted Shelf} (hown : c.store.Own) (v : Relations.Visiting)
    (u : Relations.Update) :
    Relations.applyUpdate v id u (c.map (without ids) reads writes) =
      ((Relations.applyUpdate v id u c).1,
        (Relations.applyUpdate v id u c).2.map (without ids) reads writes) := by
  have hcarries : Carries (Counted.map (without ids) reads writes) (Environment.without ids)
      (RelationStore.environment id) (RelationStore.environment id) :=
    Counted.carries_reading reads writes ((environments_without ids).read id)
  have hread := hcarries c
  rw [Relations.applyUpdate_eq]
  rcases hlook : (RelationStore.environment id : StoreM (Counted Shelf) _) c with ⟨err | e, c'⟩
  · rw [hlook] at hread
    rw [StoreM.bind_error hread, StoreM.bind_error hlook]
  · -- The environment that is read is the one that is updated, so nothing of it is missing.
    have hfound : Rack.environments.look c.store id = .ok e := (Prod.mk.inj hlook).1
    have he : e.id = id := hown.environments id e (Rack.look_ok.mp hfound).2
    have hshown : Except.map (Environment.without ids) (.ok e : Except RegistryError _) = .ok e :=
      congrArg Except.ok (Environment.without_of_not_mem (by rwa [he]))
    rw [hlook, hshown] at hread
    rw [StoreM.bind_ok hread, StoreM.bind_ok hlook, he]
    exact ((commutes_tagPhase reads writes hid v u he).bind fun _ =>
      (commutes_edgeGroupPhase reads writes hid v u).bind fun _ =>
        (commutes_writePhase reads writes hid u he _).bind fun _ => .pure _) c'

end Shown

end Shelf

end EnvRegistry

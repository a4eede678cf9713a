import EnvRegistry.Proofs.Relations.Repetition
import EnvRegistry.Proofs.Store.Traced
import Mathlib.Data.Finset.Card
import Mathlib.Data.Finset.SymmDiff

/-! # What an update asks of a store

    An update reads the environment.  It lists the edge groups if it asks for
    edge groups, and each tag and each edge group that changes hands it reads and
    writes once; it writes the environment last, if anything changed.  So the
    number of its calls is known beforehand (`update_traffic`), none of them is
    about tags if the tags are the same, and nothing is written twice or written
    as it was.

    The calls of a loop are a function of the shelf on which it starts, since it
    visits no record twice (`Channel.visitAll_calls`).  The second loop of a
    reconciler visits none of the records of the first, so the same shelf serves
    for both, and for the whole update. -/

namespace EnvRegistry.Relations

/-! ## Section 1: Model -/

/-- The number of tags that the environment is to gain or lose. -/
def Update.tagDistance (u : Update) (e : Environment) : Nat :=
  match u.tags with
  | some tags => (symmDiff tags.toFinset e.tagIds.toFinset).card
  | none => 0

/-- The number of edge groups that an environment in the given ones is to enter or leave. -/
def Update.edgeGroupDistance (u : Update) (current : KeySet EdgeGroupId) : Nat :=
  match u.edgeGroups with
  | some groups => (symmDiff groups.toFinset current.toList.toFinset).card
  | none => 0

/-- What an update of the environment `e` with the outcome `o` asks of a store with the records `R`:
the calls, and the counts before and after. -/
structure Traffic (R : Records) (u : Update) (e : Environment) (o : Outcome) (s s' : MemoryStore)
    (calls : List StoreCall) : Prop where
  reads : s'.reads = s.reads + (1 + u.tagDistance e +
    if u.edgeGroups.isSome then 1 + u.edgeGroupDistance (R.memberships e.id) else 0)
  writes : s'.writes = s.writes + (u.tagDistance e + u.edgeGroupDistance (R.memberships e.id) +
    if o.changed then 1 else 0)
  /-- What is counted is called. -/
  counts : s'.reads = s.reads + StoreCall.reads calls ∧
    s'.writes = s.writes + StoreCall.writes calls
  /-- The same tags, in whatever order and however often, cost nothing. -/
  sameTags : (∀ tags, u.tags = some tags → ∀ t, t ∈ tags ↔ t ∈ e.tagIds) →
    ∀ c ∈ calls, c.onTags = false
  tagsOnce : ((calls.filterMap StoreCall.writtenTag?).map Tag.id).Nodup
  edgeGroupsOnce : ((calls.filterMap StoreCall.writtenEdgeGroup?).map EdgeGroup.id).Nodup
  /-- If the tags agree with the environment, each that is written differs from what it was. -/
  tagsDiffer : (∀ t tag, R.tags.get? t = some tag → (e.id ∈ tag.members ↔ t ∈ e.tagIds)) →
    ∀ t ∈ calls.filterMap StoreCall.writtenTag?, ∃ old, R.tags.get? t.id = some old ∧ t ≠ old
  edgeGroupsDiffer : ∀ g ∈ calls.filterMap StoreCall.writtenEdgeGroup?,
    ∃ old, R.edgeGroups.get? g.id = some old ∧ g ≠ old

/-- The calls about the records of one kind. -/
structure Channel (α : Type) where
  rack : Rack α
  read : UInt32 → StoreCall
  write : α → StoreCall
  written? : StoreCall → Option α
  isRead_read : ∀ id, (read id).isRead = true
  isRead_write : ∀ a, (write a).isRead = false
  written?_read : ∀ id, written? (read id) = none
  written?_write : ∀ a, written? (write a) = some a

namespace Channel

/-- The calls about tags. -/
def tags : Channel Tag where
  rack := .tags
  read := .tag
  write := .updateTag
  written? := StoreCall.writtenTag?
  isRead_read _ := rfl
  isRead_write _ := rfl
  written?_read _ := rfl
  written?_write _ := rfl

/-- The calls about edge groups. -/
def edgeGroups : Channel EdgeGroup where
  rack := .edgeGroups
  read := .edgeGroup
  write := .updateEdgeGroup
  written? := StoreCall.writtenEdgeGroup?
  isRead_read _ := rfl
  isRead_write _ := rfl
  written?_read _ := rfl
  written?_write _ := rfl

variable {α : Type} (c : Channel α)

/-- Reads a record, changes it and writes it back, each with a call. -/
def mutate (id : UInt32) (f : α → α) : StoreM (Traced Shelf) Unit := do
  let a ← Traced.calling (c.read id) (c.rack.read id)
  Traced.calling (c.write (f a)) (c.rack.replace (f a))

variable [Inhabited α]

/-- The record under an id. -/
def found (s : Shelf) (id : UInt32) : α := (c.rack.look s id).toOption.getD default

/-- The calls of a loop over some records. -/
def visits (f : α → α) (s : Shelf) (ids : List UInt32) : List StoreCall :=
  ids.flatMap fun id => [c.read id, c.write (f (c.found s id))]

/-- The calls of a reconciler. -/
def deltaCalls (removed added : Arrangement) (d : Delta UInt32) (leave join : α → α) (s : Shelf) :
    List StoreCall :=
  c.visits leave s (removed.order d.toRemove.toList) ++ c.visits join s (added.order d.toAdd.toList)

end Channel

/-- The calls for the tags of an environment. -/
def Update.tagCalls (v : Visiting) (u : Update) (s : Shelf) (e : Environment) : List StoreCall :=
  Channel.tags.deltaCalls v.tagsRemoved v.tagsAdded (u.tagDelta e) (·.removeMember e.id)
    (·.addMember e.id) s

/-- The calls for the edge groups of an environment, once they are listed. -/
def Update.edgeGroupCalls (v : Visiting) (u : Update) (s : Shelf) (id : EnvironmentId) :
    List StoreCall :=
  Channel.edgeGroups.deltaCalls v.edgeGroupsRemoved v.edgeGroupsAdded
    (u.edgeGroupDelta (s.memberships id)) (·.removeMember id) (·.addMember id) s

/-- The calls of an update. -/
def Update.calls (v : Visiting) (u : Update) (s : Shelf) (e : Environment) : List StoreCall :=
  [.environment e.id] ++ u.tagCalls v s e ++
    (if u.edgeGroups.isSome then [.edgeGroups] else []) ++ u.edgeGroupCalls v s e.id ++
    if (u.outcomeOn s e).changed then [.updateEnvironment (u.applyTo e)] else []

/-! ## Section 2: One loop -/

namespace Channel

variable {α : Type} [Inhabited α] {c : Channel α} {s : Shelf} {f leave join : α → α}

theorem found_eq {id : UInt32} {a : α} (h : c.rack.look s id = .ok a) : c.found s id = a := by
  rw [found, h]
  rfl

/-- A record that is not among those changed is found as it was. -/
theorem found_change (hown : c.rack.Own s) {id : UInt32} {ids : List UInt32} (hid : id ∉ ids)
    (hopen : c.rack.Open s id) : c.found (c.rack.change (c.rack.only ids f) s) id =
      c.found s id := by
  obtain ⟨⟨a, ha⟩, -⟩ := hopen
  have hget := Rack.look_ok.mp ha
  have hkept : c.rack.only ids f a = a := by
    rw [Rack.only, hown id a hget.2, if_neg hid]
  rw [found_eq ha]
  refine found_eq (Rack.look_ok.mpr ⟨?_, ?_⟩)
  · rw [Rack.change, c.rack.failingReads_set]
    exact hget.1
  · rw [Rack.get_change, Table.get?_map, hget.2]
    show some (Except.ok (c.rack.only ids f a)) = _
    rw [hkept]

theorem visits_change (hown : c.rack.Own s) {gone ids : List UInt32} (hids : ∀ id ∈ ids, id ∉ gone)
    (hopen : ∀ id ∈ ids, c.rack.Open s id) :
    c.visits join (c.rack.change (c.rack.only gone leave) s) ids = c.visits join s ids := by
  unfold visits
  refine List.flatMap_congr fun id hid => ?_
  rw [found_change hown (hids id hid) (hopen id hid)]

theorem mutate_calls (hown : c.rack.Own s) (hf : ∀ a, c.rack.key (f a) = c.rack.key a) {id : UInt32}
    (hopen : c.rack.Open s id) (calls : List StoreCall) :
    c.mutate id f ⟨s, calls⟩ =
      (.ok (), ⟨c.rack.change (c.rack.only [id] f) s, calls ++ c.visits f s [id]⟩) := by
  have hrun := c.rack.mutate_open hown hf hopen
  obtain ⟨⟨a, ha⟩, -⟩ := hopen
  have hread : c.rack.read id s = (.ok a, s) := by rw [Rack.read, ha]
  have hcalled : Traced.calling (c.read id) (c.rack.read id) ⟨s, calls⟩ =
      (.ok a, ⟨s, calls ++ [c.read id]⟩) := by
    rw [Traced.calling, hread]
  rw [Rack.mutate, StoreM.bind_ok hread] at hrun
  rw [mutate, StoreM.bind_ok hcalled, Traced.calling, hrun, List.append_assoc, visits,
    List.flatMap_singleton, found_eq ha]
  rfl

/-- The calls of a loop are those for the records as they were when it started. -/
theorem visitAll_calls (hf : ∀ a, c.rack.key (f a) = c.rack.key a) {ids : List UInt32}
    (hnodup : ids.Nodup) (hown : c.rack.Own s) (hopen : ∀ id ∈ ids, c.rack.Open s id)
    (calls : List StoreCall) :
    visitAll (c.mutate · f) ids ⟨s, calls⟩ =
      (.ok (), ⟨c.rack.change (c.rack.only ids f) s, calls ++ c.visits f s ids⟩) := by
  induction ids generalizing s calls with
  | nil =>
    rw [c.rack.change_eq_self (only_nil f), visits, List.flatMap_nil, List.append_nil]
    rfl
  | cons id rest ih =>
    obtain ⟨hid, hrest⟩ := List.nodup_cons.mp hnodup
    obtain ⟨hfirst, hothers⟩ := List.forall_mem_cons.mp hopen
    have hown' : c.rack.Own (c.rack.change (c.rack.only [id] f) s) :=
      hown.change (c.rack.only_key hf _)
    have hopen' : ∀ j ∈ rest, c.rack.Open (c.rack.change (c.rack.only [id] f) s) j := fun j hj =>
      (c.rack.open_change _).mpr (hothers j hj)
    -- The first step changes none of the records that are still to come.
    have hsame : c.visits f (c.rack.change (c.rack.only [id] f) s) rest = c.visits f s rest := by
      refine visits_change hown (fun j hj heq => ?_) hothers
      rw [List.mem_singleton.mp heq] at hj
      exact hid hj
    rw [visitAll, StoreM.bind_ok (mutate_calls hown hf hfirst calls), ih hrest hown' hopen', hsame,
      c.rack.change_change, List.append_assoc]
    refine congrArg (Prod.mk _) (congrArg₂ Traced.mk ?_ ?_)
    · exact c.rack.change_congr (only_cons hf (.inl hid))
    · rfl

/-! ## Section 3: One reconciler -/

variable {d : Delta UInt32}

theorem deltaCalls_of_isEmpty {removed added : Arrangement} (h : d.isEmpty = true) :
    c.deltaCalls removed added d leave join s = [] := by
  obtain ⟨hremove, hadd⟩ := Bool.and_eq_true_iff.mp h
  have hnone : ∀ (o : Arrangement) {k : KeySet UInt32},
      k.isEmpty = true → o.order k.toList = [] := by
    intro o k hk
    have hperm := o.perm k.toList
    rw [List.isEmpty_iff.mp hk] at hperm ⊢
    exact hperm.eq_nil
  rw [deltaCalls, hnone removed hremove, hnone added hadd]
  rfl

theorem reconcile_calls (leave join : α → α) (hleave : ∀ a, c.rack.key (leave a) = c.rack.key a)
    (hjoin : ∀ a, c.rack.key (join a) = c.rack.key a) (removed added : Arrangement)
    (hdisjoint : ∀ id, id ∈ d.toAdd → ¬ id ∈ d.toRemove) (hown : c.rack.Own s)
    (hopen : ∀ id, d.Touches id → c.rack.Open s id) (calls : List StoreCall) :
    (do
      visitAll (c.mutate · leave) (removed.order d.toRemove.toList)
      visitAll (c.mutate · join) (added.order d.toAdd.toList)
      return true : StoreM (Traced Shelf) Bool) ⟨s, calls⟩ =
      (.ok true, ⟨c.rack.change (d.on c.rack.key leave join) s,
        calls ++ c.deltaCalls removed added d leave join s⟩) := by
  have hgone : ∀ id ∈ removed.order d.toRemove.toList, c.rack.Open s id := fun id hid =>
    hopen id (.inl (mem_order.mp hid))
  have hcome : ∀ id ∈ added.order d.toAdd.toList, c.rack.Open s id := fun id hid =>
    hopen id (.inr (mem_order.mp hid))
  have happart : ∀ id ∈ added.order d.toAdd.toList, id ∉ removed.order d.toRemove.toList :=
    fun id hid h => hdisjoint id (mem_order.mp hid) (mem_order.mp h)
  have hfirst := visitAll_calls hleave (nodup_order removed d.toRemove) hown hgone calls
  have hsecond := visitAll_calls
    (s := c.rack.change (c.rack.only (removed.order d.toRemove.toList) leave) s) hjoin
    (nodup_order added d.toAdd) (hown.change (c.rack.only_key hleave _))
    (fun id hid => (c.rack.open_change _).mpr (hcome id hid))
    (calls ++ c.visits leave s (removed.order d.toRemove.toList))
  -- The second loop finds its records as they were before the first one.
  rw [visits_change hown happart hcome, List.append_assoc, c.rack.change_change] at hsecond
  rw [StoreM.bind_ok hfirst, StoreM.bind_ok hsecond]
  refine congrArg (Prod.mk _) (congrArg₂ Traced.mk ?_ rfl)
  exact c.rack.change_congr (only_only join hleave (fun _ => mem_order.symm)
    (fun _ => mem_order.symm) happart)

end Channel

/-! ## Section 4: The whole update -/

section Update

variable {s : Shelf} {u : Update} {e : Environment}

theorem tagPhase_calls (hown : Rack.tags.Own s) (v : Visiting)
    (hopen : ∀ id, (u.tagDelta e).Touches id → Rack.tags.Open s id) (calls : List StoreCall) :
    tagPhase v u e (⟨s, calls⟩ : Traced Shelf) = (.ok (!(u.tagDelta e).isEmpty),
      ⟨Rack.tags.change ((u.tagDelta e).onTag e.id) s, calls ++ u.tagCalls v s e⟩) := by
  unfold tagPhase Update.tagCalls
  unfold Update.tagDelta at hopen ⊢
  cases hu : u.tags with
  | none =>
    rw [Channel.deltaCalls_of_isEmpty rfl, List.append_nil,
      Rack.tags.change_eq_self (onTag_nothing e.id)]
    rfl
  | some tags =>
    rw [hu] at hopen
    simp only [reconcileTags, delta_eq]
    by_cases heq : KeySet.ofList tags = KeySet.ofList e.tagIds
    · have hempty := Delta.isEmpty_between.trans (decide_eq_true heq)
      rw [if_pos heq, Channel.deltaCalls_of_isEmpty hempty, List.append_nil, hempty,
        Rack.tags.change_eq_self (onTag_of_isEmpty hempty e.id)]
      rfl
    · rw [if_neg heq, Delta.isEmpty_between, decide_eq_false heq]
      exact Channel.reconcile_calls (c := .tags) (·.removeMember e.id) (·.addMember e.id)
        (fun _ => rfl) (fun _ => rfl) v.tagsRemoved v.tagsAdded (fun _ => Delta.between_disjoint)
        hown hopen calls

theorem environmentEdgeGroups_calls {groups : List EdgeGroup} (h : s.scan = .ok groups)
    (id : EnvironmentId) (calls : List StoreCall) :
    environmentEdgeGroups id (⟨s, calls⟩ : Traced Shelf) =
      (.ok (s.memberships id), ⟨s, calls ++ [.edgeGroups]⟩) := by
  have hscan : (RelationStore.edgeGroups : StoreM (Traced Shelf) _) ⟨s, calls⟩ =
      (.ok groups, ⟨s, calls ++ [.edgeGroups]⟩) := by
    rw [← h]
    rfl
  rw [environmentEdgeGroups, StoreM.bind_ok hscan, Shelf.memberships, Shelf.groups_of_scan h]
  rfl

theorem edgeGroupPhase_calls (hown : Rack.edgeGroups.Own s) (v : Visiting) {id : EnvironmentId}
    (hscan : u.edgeGroups.isSome → ∃ groups, s.scan = .ok groups)
    (hopen : ∀ g, (u.edgeGroupDelta (s.memberships id)).Touches g → Rack.edgeGroups.Open s g)
    (calls : List StoreCall) :
    edgeGroupPhase v u id (⟨s, calls⟩ : Traced Shelf) =
      (.ok (!(u.edgeGroupDelta (s.memberships id)).isEmpty),
        ⟨Rack.edgeGroups.change ((u.edgeGroupDelta (s.memberships id)).onEdgeGroup id) s,
          calls ++ (if u.edgeGroups.isSome then [.edgeGroups] else []) ++
            u.edgeGroupCalls v s id⟩) := by
  unfold edgeGroupPhase Update.edgeGroupCalls
  unfold Update.edgeGroupDelta at hopen ⊢
  cases hu : u.edgeGroups with
  | none =>
    rw [Channel.deltaCalls_of_isEmpty rfl, List.append_nil, Option.isSome_none,
      if_neg Bool.false_ne_true, List.append_nil,
      Rack.edgeGroups.change_eq_self (onEdgeGroup_nothing id)]
    rfl
  | some desired =>
    rw [hu] at hopen hscan
    obtain ⟨groups, hgroups⟩ := hscan rfl
    have hlisted := environmentEdgeGroups_calls hgroups id calls
    simp only [reconcileEdgeGroups, delta_eq]
    rw [StoreM.bind_ok hlisted, Option.isSome_some, if_pos rfl]
    -- If the edge groups are as wanted, listing them was the only call.
    by_cases heq : KeySet.ofList desired = s.memberships id
    · have hempty := Delta.isEmpty_between.trans (decide_eq_true heq)
      rw [if_pos heq, Channel.deltaCalls_of_isEmpty hempty, List.append_nil, hempty,
        Rack.edgeGroups.change_eq_self (onEdgeGroup_of_isEmpty hempty id)]
      rfl
    · rw [if_neg heq, Delta.isEmpty_between, decide_eq_false heq]
      exact Channel.reconcile_calls (c := .edgeGroups) (·.removeMember id) (·.addMember id)
        (fun _ => rfl) (fun _ => rfl) v.edgeGroupsRemoved v.edgeGroupsAdded
        (fun _ => Delta.between_disjoint) hown hopen _

theorem writePhase_calls {s' : Shelf} {o : Outcome} (h : writePhase u e o s = (.ok (), s'))
    (calls : List StoreCall) :
    writePhase u e o (⟨s, calls⟩ : Traced Shelf) =
      (.ok (), ⟨s', calls ++ if o.changed then [.updateEnvironment (u.applyTo e)] else []⟩) := by
  unfold writePhase at h ⊢
  cases ho : o.changed with
  | false =>
    simp only [ho, Bool.false_eq_true, if_false] at h ⊢
    cases h
    rw [List.append_nil]
    rfl
  | true =>
    simp only [ho, if_true] at h ⊢
    show Traced.calling _ _ _ = _
    rw [Traced.calling, h]

/-- An update that finds what it needs makes the calls that the shelf before it says. -/
theorem applyUpdate_calls (hown : s.Own) {id : EnvironmentId}
    (hread : Rack.environments.look s id = .ok e) (hclear : u.Clear s e) (v : Visiting)
    (calls : List StoreCall) :
    applyUpdate v id u (⟨s, calls⟩ : Traced Shelf) = (.ok (u.outcomeOn s e, u.applyTo e),
      ⟨s.updated u e, calls ++ u.calls v s e⟩) := by
  have hid : e.id = id := hown.environments id e (Rack.look_ok.mp hread).2
  have hfirst : (RelationStore.environment id : StoreM (Traced Shelf) _) ⟨s, calls⟩ =
      (.ok e, ⟨s, calls ++ [.environment e.id]⟩) := by
    show Traced.calling _ (Rack.environments.read id) _ = _
    rw [Traced.calling, Rack.read, hread, hid]
  have htags := tagPhase_calls hown.tags v hclear.tags (calls ++ [.environment e.id])
  -- What the second phase reads is not what the first one wrote.
  have hsame : u.edgeGroupCalls v (Rack.tags.change ((u.tagDelta e).onTag e.id) s) e.id =
    u.edgeGroupCalls v s e.id := rfl
  have hgroups := edgeGroupPhase_calls (s := Rack.tags.change ((u.tagDelta e).onTag e.id) s)
    hown.edgeGroups v hclear.scan hclear.edgeGroups
    (calls ++ [.environment e.id] ++ u.tagCalls v s e)
  rw [hsame] at hgroups
  rcases writePhase_cases hread hid u (u.tagDelta e) (u.edgeGroupDelta (s.memberships e.id))
    (u.outcomeOn s e) with ⟨-, hwrite⟩ | ⟨hnot, -⟩
  · rw [← hid] at hwrite
    have hlast := writePhase_calls hwrite (calls ++ [.environment e.id] ++ u.tagCalls v s e ++
      (if u.edgeGroups.isSome then [.edgeGroups] else []) ++ u.edgeGroupCalls v s e.id)
    rw [applyUpdate_eq, StoreM.bind_ok hfirst, StoreM.bind_ok htags, StoreM.bind_ok hgroups]
    refine (StoreM.bind_ok hlast).trans ?_
    unfold Update.calls
    simp only [List.append_assoc]
    rfl
  · exact absurd (hid ▸ hclear.environment) hnot

end Update

/-! ## Section 5: How many calls, and of what -/

namespace Channel

variable {α : Type} [Inhabited α] (c : Channel α) (f leave join : α → α) (s : Shelf)
  (ids : List UInt32)

theorem countP_visits {p : StoreCall → Bool} (h : ∀ id a, [c.read id, c.write a].countP p = 1) :
    (c.visits f s ids).countP p = ids.length := by
  induction ids with
  | nil => rfl
  | cons id rest ih =>
    rw [visits, List.flatMap_cons, List.countP_append, h, List.length_cons, Nat.add_comm]
    exact congrArg (· + 1) ih

theorem written_visits :
    (c.visits f s ids).filterMap c.written? = ids.map fun id => f (c.found s id) := by
  induction ids with
  | nil => rfl
  | cons id rest ih =>
    have hone : [c.read id, c.write (f (c.found s id))].filterMap c.written? =
        [f (c.found s id)] := by
      simp [c.written?_read, c.written?_write]
    rw [visits, List.flatMap_cons, List.filterMap_append, hone, List.map_cons, ← ih]
    rfl

variable (removed added : Arrangement) (d : Delta UInt32)

/-- Of the two calls for a record, one is a read and one is a write. -/
theorem countP_deltaCalls {p : StoreCall → Bool}
    (h : ∀ id a, [c.read id, c.write a].countP p = 1) :
    (c.deltaCalls removed added d leave join s).countP p = d.toRemove.size + d.toAdd.size := by
  rw [deltaCalls, List.countP_append, countP_visits _ _ _ _ h, countP_visits _ _ _ _ h,
    (removed.perm _).length_eq, (added.perm _).length_eq]
  rfl

theorem reads_deltaCalls : StoreCall.reads (c.deltaCalls removed added d leave join s) =
    d.toRemove.size + d.toAdd.size := by
  refine countP_deltaCalls c leave join s removed added d fun id a => ?_
  simp [c.isRead_read, c.isRead_write]

theorem writes_deltaCalls : StoreCall.writes (c.deltaCalls removed added d leave join s) =
    d.toRemove.size + d.toAdd.size := by
  refine countP_deltaCalls c leave join s removed added d fun id a => ?_
  simp [c.isRead_read, c.isRead_write]

variable {c f leave join s ids removed added d}

/-- Every call of a reconciler is a read or a write of its channel. -/
theorem mem_deltaCalls {call : StoreCall} (h : call ∈ c.deltaCalls removed added d leave join s) :
    (∃ id, call = c.read id) ∨ ∃ a, call = c.write a := by
  have hvisit : ∀ {f : α → α} {ids : List UInt32}, call ∈ c.visits f s ids →
      (∃ id, call = c.read id) ∨ ∃ a, call = c.write a := by
    intro f ids h
    obtain ⟨id, -, hid⟩ := List.mem_flatMap.mp h
    rcases List.mem_pair.mp hid with rfl | rfl
    · exact .inl ⟨id, rfl⟩
    · exact .inr ⟨_, rfl⟩
  rcases List.mem_append.mp h with h | h
  · exact hvisit h
  · exact hvisit h

section Written

variable (hown : c.rack.Own s)

include hown

/-- A loop writes every record once. -/
theorem keys_visits (hf : ∀ a, c.rack.key (f a) = c.rack.key a)
    (hopen : ∀ id ∈ ids, c.rack.Open s id) :
    ((c.visits f s ids).filterMap c.written?).map c.rack.key = ids := by
  rw [written_visits, List.map_map]
  refine (List.map_congr_left fun id hid => ?_).trans (List.map_id ids)
  obtain ⟨⟨a, ha⟩, -⟩ := hopen id hid
  show c.rack.key (f (c.found s id)) = id
  rw [hf, found_eq ha]
  exact hown id a (Rack.look_ok.mp ha).2

/-- What a loop writes is a record of the shelf with its change. -/
theorem mem_written_visits (hf : ∀ a, c.rack.key (f a) = c.rack.key a)
    (hopen : ∀ id ∈ ids, c.rack.Open s id) {a : α}
    (ha : a ∈ (c.visits f s ids).filterMap c.written?) :
    c.rack.key a ∈ ids ∧ ∃ old, c.rack.look s (c.rack.key a) = .ok old ∧ a = f old := by
  rw [written_visits] at ha
  obtain ⟨id, hid, rfl⟩ := List.mem_map.mp ha
  obtain ⟨⟨old, hold⟩, -⟩ := hopen id hid
  have hkey : c.rack.key (f (c.found s id)) = id := by
    rw [hf, found_eq hold]
    exact hown id old (Rack.look_ok.mp hold).2
  rw [hkey]
  exact ⟨hid, old, hold, congrArg f (found_eq hold)⟩

variable (leave join) (hleave : ∀ a, c.rack.key (leave a) = c.rack.key a)
  (hjoin : ∀ a, c.rack.key (join a) = c.rack.key a) (hopen : ∀ id, d.Touches id → c.rack.Open s id)

include hleave hjoin hopen

/-- A reconciler writes every record once. -/
theorem nodup_written (hdisjoint : ∀ id, id ∈ d.toAdd → ¬ id ∈ d.toRemove) :
    (((c.deltaCalls removed added d leave join s).filterMap c.written?).map c.rack.key).Nodup := by
  rw [deltaCalls, List.filterMap_append, List.map_append,
    keys_visits hown hleave fun id hid => hopen id (.inl (mem_order.mp hid)),
    keys_visits hown hjoin fun id hid => hopen id (.inr (mem_order.mp hid))]
  refine (nodup_order removed d.toRemove).append (nodup_order added d.toAdd) ?_
  intro id hgone hcome
  exact hdisjoint id (mem_order.mp hcome) (mem_order.mp hgone)

/-- What a reconciler writes is a record of the shelf, which has been left or joined. -/
theorem mem_written {a : α}
    (ha : a ∈ (c.deltaCalls removed added d leave join s).filterMap c.written?) :
    ∃ old, c.rack.look s (c.rack.key a) = .ok old ∧
      (c.rack.key a ∈ d.toRemove ∧ a = leave old ∨ c.rack.key a ∈ d.toAdd ∧ a = join old) := by
  rw [deltaCalls, List.filterMap_append, List.mem_append] at ha
  rcases ha with ha | ha
  · obtain ⟨hid, old, hold, heq⟩ := mem_written_visits hown hleave
      (fun id hid => hopen id (.inl (mem_order.mp hid))) ha
    exact ⟨old, hold, .inl ⟨mem_order.mp hid, heq⟩⟩
  · obtain ⟨hid, old, hold, heq⟩ := mem_written_visits hown hjoin
      (fun id hid => hopen id (.inr (mem_order.mp hid))) ha
    exact ⟨old, hold, .inr ⟨mem_order.mp hid, heq⟩⟩

end Written

end Channel

section Distance

variable (u : Update) (e : Environment)

theorem toFinset_ofList (l : List UInt32) : (KeySet.ofList l).toList.toFinset = l.toFinset := by
  ext id
  rw [List.mem_toFinset, List.mem_toFinset]
  exact KeySet.mem_ofList

/-- A delta has as many members as the symmetric difference. -/
theorem size_between (desired current : KeySet UInt32) :
    (Delta.between desired current).toRemove.size + (Delta.between desired current).toAdd.size =
      (symmDiff desired.toList.toFinset current.toList.toFinset).card := by
  have hsize : ∀ (k desired current : KeySet UInt32),
      (∀ id, id ∈ k ↔ id ∈ desired ∧ ¬ id ∈ current) →
      k.size = (desired.toList.toFinset \ current.toList.toFinset).card := by
    intro k desired current hk
    rw [KeySet.size, ← List.toFinset_card_of_nodup k.nodup_toList]
    congr 1
    ext id
    rw [Finset.mem_sdiff, List.mem_toFinset, List.mem_toFinset, List.mem_toFinset]
    exact hk id
  rw [hsize _ current desired fun _ => Delta.mem_toRemove_between,
    hsize _ desired current fun _ => Delta.mem_toAdd_between, Finset.symmDiff_def,
    Finset.card_union_of_disjoint disjoint_sdiff_sdiff, Nat.add_comm]

theorem size_tagDelta :
    (u.tagDelta e).toRemove.size + (u.tagDelta e).toAdd.size = u.tagDistance e := by
  unfold Update.tagDelta Update.tagDistance
  cases u.tags with
  | none => rfl
  | some tags => exact (size_between _ _).trans (by rw [toFinset_ofList, toFinset_ofList])

theorem size_edgeGroupDelta (current : KeySet EdgeGroupId) :
    (u.edgeGroupDelta current).toRemove.size + (u.edgeGroupDelta current).toAdd.size =
      u.edgeGroupDistance current := by
  unfold Update.edgeGroupDelta Update.edgeGroupDistance
  cases u.edgeGroups with
  | none => rfl
  | some groups => exact (size_between _ _).trans (by rw [toFinset_ofList])

end Distance

section Calls

variable (v : Visiting) (u : Update) (s : Shelf) (e : Environment)

theorem reads_calls : StoreCall.reads (u.calls v s e) = 1 + u.tagDistance e +
    if u.edgeGroups.isSome then 1 + u.edgeGroupDistance (s.memberships e.id) else 0 := by
  have hlast : StoreCall.reads
      (if (u.outcomeOn s e).changed then [.updateEnvironment (u.applyTo e)] else []) = 0 := by
    split
    · rfl
    · rfl
  have hfirst : StoreCall.reads [.environment e.id] = 1 := rfl
  rw [Update.calls, StoreCall.reads_append, StoreCall.reads_append, StoreCall.reads_append,
    StoreCall.reads_append, hfirst, hlast, Update.tagCalls, Channel.reads_deltaCalls, size_tagDelta,
    Update.edgeGroupCalls, Channel.reads_deltaCalls, size_edgeGroupDelta, Nat.add_zero,
    Nat.add_assoc]
  cases hu : u.edgeGroups with
  | none =>
    -- No edge groups are asked for, so none are listed and none differ.
    rw [Update.edgeGroupDistance, hu]
    rfl
  | some groups => rfl

theorem writes_calls : StoreCall.writes (u.calls v s e) =
    u.tagDistance e + u.edgeGroupDistance (s.memberships e.id) +
      if (u.outcomeOn s e).changed then 1 else 0 := by
  have hlast : StoreCall.writes
      (if (u.outcomeOn s e).changed then [.updateEnvironment (u.applyTo e)] else []) =
      if (u.outcomeOn s e).changed then 1 else 0 := by
    split
    · rfl
    · rfl
  have hlisted : StoreCall.writes (if u.edgeGroups.isSome then [.edgeGroups] else []) = 0 := by
    split
    · rfl
    · rfl
  have hfirst : StoreCall.writes [.environment e.id] = 0 := rfl
  rw [Update.calls, StoreCall.writes_append, StoreCall.writes_append, StoreCall.writes_append,
    StoreCall.writes_append, hfirst, hlast, hlisted, Update.tagCalls, Channel.writes_deltaCalls,
    size_tagDelta, Update.edgeGroupCalls, Channel.writes_deltaCalls, size_edgeGroupDelta,
    Nat.zero_add, Nat.add_zero]

/-- The calls of an update that are neither about tags nor about edge groups. -/
theorem filterMap_calls {α : Type} (w : StoreCall → Option α)
    (henv : ∀ id, w (.environment id) = none) (hlist : w .edgeGroups = none)
    (hwrite : ∀ e, w (.updateEnvironment e) = none) :
    (u.calls v s e).filterMap w =
      (u.tagCalls v s e).filterMap w ++ (u.edgeGroupCalls v s e.id).filterMap w := by
  have hlisted : (if u.edgeGroups.isSome then [.edgeGroups] else []).filterMap w = [] := by
    split
    · rw [List.filterMap_cons, hlist]
      rfl
    · rfl
  have hlast : (if (u.outcomeOn s e).changed then [.updateEnvironment (u.applyTo e)]
      else []).filterMap w = [] := by
    split
    · rw [List.filterMap_cons, hwrite]
      rfl
    · rfl
  rw [Update.calls, List.filterMap_append, List.filterMap_append, List.filterMap_append,
    List.filterMap_append, hlisted, hlast, List.filterMap_cons, henv, List.append_nil,
    List.append_nil]
  rfl

theorem writtenTags_calls : (u.calls v s e).filterMap StoreCall.writtenTag? =
    (u.tagCalls v s e).filterMap StoreCall.writtenTag? := by
  have hnone : (u.edgeGroupCalls v s e.id).filterMap StoreCall.writtenTag? = [] := by
    refine List.filterMap_eq_nil_iff.mpr fun call hcall => ?_
    rcases Channel.mem_deltaCalls hcall with ⟨id, rfl⟩ | ⟨g, rfl⟩
    · rfl
    · rfl
  rw [filterMap_calls v u s e _ (fun _ => rfl) rfl (fun _ => rfl), hnone, List.append_nil]

theorem writtenEdgeGroups_calls : (u.calls v s e).filterMap StoreCall.writtenEdgeGroup? =
    (u.edgeGroupCalls v s e.id).filterMap StoreCall.writtenEdgeGroup? := by
  have hnone : (u.tagCalls v s e).filterMap StoreCall.writtenEdgeGroup? = [] := by
    refine List.filterMap_eq_nil_iff.mpr fun call hcall => ?_
    rcases Channel.mem_deltaCalls hcall with ⟨id, rfl⟩ | ⟨t, rfl⟩
    · rfl
    · rfl
  rw [filterMap_calls v u s e _ (fun _ => rfl) rfl (fun _ => rfl), hnone, List.nil_append]

/-- Without tags to change no call is about tags. -/
theorem onTags_calls {v : Visiting} {u : Update} {s : Shelf} {e : Environment}
    (h : (u.tagDelta e).isEmpty = true) : ∀ call ∈ u.calls v s e, call.onTags = false := by
  intro call hcall
  rw [Update.calls, Update.tagCalls, Channel.deltaCalls_of_isEmpty h, List.append_nil] at hcall
  simp only [List.mem_append, List.mem_singleton] at hcall
  rcases hcall with ((rfl | hlist) | hgroups) | hlast
  · rfl
  · split at hlist
    · rw [List.mem_singleton.mp hlist]
      rfl
    · cases hlist
  · rcases Channel.mem_deltaCalls hgroups with ⟨id, rfl⟩ | ⟨g, rfl⟩
    · rfl
    · rfl
  · split at hlast
    · rw [List.mem_singleton.mp hlast]
      rfl
    · cases hlast

end Calls

/-! ## Section 6: What is written -/

section Differ

variable {R : Records} {u : Update} {e : Environment}

theorem mem_tagIds_of_toRemove {t : TagId} (h : t ∈ (u.tagDelta e).toRemove) : t ∈ e.tagIds := by
  unfold Update.tagDelta at h
  split at h
  · exact mem_ofList_ids.mp (Delta.mem_toRemove_between.mp h).1
  · exact absurd h KeySet.not_mem_empty

theorem not_mem_tagIds_of_toAdd {t : TagId} (h : t ∈ (u.tagDelta e).toAdd) : t ∉ e.tagIds := by
  unfold Update.tagDelta at h
  split at h
  · exact fun ht => (Delta.mem_toAdd_between.mp h).2 (mem_ofList_ids.mpr ht)
  · exact absurd h KeySet.not_mem_empty

theorem mem_of_toRemove {current : KeySet EdgeGroupId} {g : EdgeGroupId}
    (h : g ∈ (u.edgeGroupDelta current).toRemove) : g ∈ current := by
  unfold Update.edgeGroupDelta at h
  split at h
  · exact (Delta.mem_toRemove_between.mp h).1
  · exact absurd h KeySet.not_mem_empty

/-- Tags that agree with the environment are not written as they were. -/
theorem writtenTags_differ (hclear : u.Clear R.shelf e)
    (hagree : ∀ t tag, R.tags.get? t = some tag → (e.id ∈ tag.members ↔ t ∈ e.tagIds))
    {v : Visiting} {t : Tag} (ht : t ∈ (u.tagCalls v R.shelf e).filterMap StoreCall.writtenTag?) :
    ∃ old, R.tags.get? t.id = some old ∧ t ≠ old := by
  obtain ⟨old, hlook, hchanged⟩ := Channel.mem_written (c := .tags) (·.removeMember e.id)
    (·.addMember e.id) R.own_shelf.tags (fun _ => rfl) (fun _ => rfl) hclear.tags ht
  have hold : R.tags.get? t.id = some old := (Records.look_ok rfl).mp hlook
  have hmember := hagree t.id old hold
  refine ⟨old, hold, ?_⟩
  rcases hchanged with ⟨hgone, rfl⟩ | ⟨hcome, rfl⟩
  · intro heq
    have hin := hmember.mpr (mem_tagIds_of_toRemove hgone)
    rw [← heq] at hin
    exact (KeySet.mem_erase.mp hin).2 rfl
  · intro heq
    have hout := mt hmember.mp (not_mem_tagIds_of_toAdd hcome)
    rw [← heq] at hout
    exact hout (KeySet.mem_insert.mpr (.inl rfl))

/-- No edge group is written as it was. -/
theorem writtenEdgeGroups_differ (hclear : u.Clear R.shelf e) {v : Visiting} {g : EdgeGroup}
    (hg : g ∈ (u.edgeGroupCalls v R.shelf e.id).filterMap StoreCall.writtenEdgeGroup?) :
    ∃ old, R.edgeGroups.get? g.id = some old ∧ g ≠ old := by
  obtain ⟨old, hlook, hchanged⟩ := Channel.mem_written (c := .edgeGroups) (·.removeMember e.id)
    (·.addMember e.id) R.own_shelf.edgeGroups (fun _ => rfl) (fun _ => rfl) hclear.edgeGroups hg
  have hold : R.edgeGroups.get? g.id = some old := (Records.look_ok rfl).mp hlook
  refine ⟨old, hold, ?_⟩
  -- It has one member less than before, or one more.
  rcases hchanged with ⟨hgone, rfl⟩ | ⟨-, rfl⟩
  · intro heq
    rw [R.memberships_shelf] at hgone
    obtain ⟨group, hgroup, hmember⟩ := Records.mem_memberships.mp (mem_of_toRemove hgone)
    cases hold.symm.trans hgroup
    have hlength := congrArg (·.members.length) heq
    have hpos := List.length_pos_of_mem hmember
    simp only [EdgeGroup.removeMember, List.length_erase_of_mem hmember] at hlength
    omega
  · intro heq
    have hlength := congrArg (·.members.length) heq
    simp only [EdgeGroup.addMember, List.length_append, List.length_singleton] at hlength
    omega

end Differ

/-! ## Section 7: The store in memory -/

section Memory

variable {ρ : Type} {R : Records} {s s' : MemoryStore} {id : EnvironmentId} {u : Update}

/-- The calls that an update makes of a store in memory, if the store can carry it out. -/
theorem applyUpdate_traced (hs : s.Holds R) {v : Visiting} {after : Outcome × Environment}
    (h : applyUpdate v id u s = (.ok after, s')) :
    ∃ e, R.environments.get? id = some e ∧ u.Clear R.shelf e ∧
      after = (u.outcomeOn R.shelf e, u.applyTo e) ∧
      applyUpdate v id u (⟨s, []⟩ : Traced MemoryStore) =
        (.ok after, ⟨s', u.calls v R.shelf e⟩) := by
  have hshelf := MemoryStore.storeMap.applyUpdate v id u s
  rw [show s.shelf = R.shelf from hs, h] at hshelf
  rcases applyUpdate_cases R.own_shelf v id u with
    ⟨err, -, hrun⟩ | ⟨e, hread, ⟨hclear, hrun⟩ | ⟨-, _, _, err, -, -, -, -, hrun⟩⟩
  · cases hrun.symm.trans hshelf
  · obtain ⟨hafter, -⟩ := Prod.mk.inj (hrun.symm.trans hshelf)
    cases hafter
    refine ⟨e, (Records.look_ok rfl).mp hread, hclear, rfl, ?_⟩
    -- The store is found by leaving out the calls, and the calls by looking at the shelf.
    have hplain := (Traced.storeMap (σ := MemoryStore)).applyUpdate v id u ⟨s, []⟩
    have hcalls := (Traced.map_storeMap MemoryStore.storeMap).applyUpdate v id u ⟨s, []⟩
    have hstart : Traced.map MemoryStore.shelf ⟨s, []⟩ = ⟨R.shelf, []⟩ :=
      congrArg (Traced.mk · []) hs
    rw [hstart, applyUpdate_calls R.own_shelf hread hclear v [], List.nil_append] at hcalls
    rcases htraced : applyUpdate v id u (⟨s, []⟩ : Traced MemoryStore) with ⟨result, store, calls⟩
    rw [htraced] at hplain hcalls
    obtain ⟨hresult, hstore⟩ : .ok _ = result ∧ s' = store := Prod.mk.inj (h.symm.trans hplain)
    have hsame : u.calls v R.shelf e = calls := congrArg (·.2.calls) hcalls
    rw [← hresult, ← hstore, ← hsame]
  · cases hrun.symm.trans hshelf

/-- What those downstream are told does not depend on whether the calls are listed. -/
theorem update_traced {v : Visiting} {r : Refresher ρ} {d d' : ρ}
    {result : Except RegistryError Outcome} {after : Except RegistryError (Outcome × Environment)}
    {calls : List StoreCall} (h : update v r id u (s, d) = (result, (s', d')))
    (htraced : applyUpdate v id u (⟨s, []⟩ : Traced MemoryStore) = (after, ⟨s', calls⟩)) :
    update v r id u ((⟨s, []⟩ : Traced MemoryStore), d) = (result, (⟨s', calls⟩, d')) := by
  have hplain := (Traced.storeMap (σ := MemoryStore)).update v r id u (⟨s, []⟩, d)
  have hstore := update_store v r id u (⟨s, []⟩ : Traced MemoryStore) d
  rw [htraced] at hstore
  rcases hrun : update v r id u ((⟨s, []⟩ : Traced MemoryStore), d) with ⟨result', t, d''⟩
  rw [hrun] at hplain hstore
  obtain ⟨hresult, hafter⟩ : result = result' ∧ (s', d') = (t.store, d'') :=
    Prod.mk.inj (h.symm.trans hplain)
  obtain ⟨-, hd⟩ := Prod.mk.inj hafter
  have ht : t = ⟨s', calls⟩ := hstore
  rw [hresult, hd, ht]

theorem traffic_calls {e : Environment} (hclear : u.Clear R.shelf e) {v : Visiting}
    (hcounts : s'.reads = s.reads + StoreCall.reads (u.calls v R.shelf e) ∧
      s'.writes = s.writes + StoreCall.writes (u.calls v R.shelf e)) :
    Traffic R u e (u.outcomeOn R.shelf e) s s' (u.calls v R.shelf e) where
  reads := by rw [hcounts.1, reads_calls, R.memberships_shelf]
  writes := by rw [hcounts.2, writes_calls, R.memberships_shelf]
  counts := hcounts
  sameTags hsame := by
    refine onTags_calls ?_
    unfold Update.tagDelta
    cases hu : u.tags with
    | none => rfl
    | some tags =>
      rw [Delta.isEmpty_between, decide_eq_true_iff]
      refine KeySet.ext_mem fun t => ?_
      rw [mem_ofList_ids, mem_ofList_ids]
      exact hsame tags hu t
  tagsOnce := by
    rw [writtenTags_calls]
    exact Channel.nodup_written (c := .tags) (·.removeMember e.id) (·.addMember e.id)
      R.own_shelf.tags (fun _ => rfl) (fun _ => rfl) hclear.tags (u.tagDelta_disjoint e)
  edgeGroupsOnce := by
    rw [writtenEdgeGroups_calls]
    exact Channel.nodup_written (c := .edgeGroups) (·.removeMember e.id) (·.addMember e.id)
      R.own_shelf.edgeGroups (fun _ => rfl) (fun _ => rfl) hclear.edgeGroups
      (u.edgeGroupDelta_disjoint _)
  tagsDiffer hagree t ht := by
    rw [writtenTags_calls] at ht
    exact writtenTags_differ hclear hagree ht
  edgeGroupsDiffer g hg := by
    rw [writtenEdgeGroups_calls] at hg
    exact writtenEdgeGroups_differ hclear hg

/-- An update that a store in memory carries out, with the calls that it makes of the store. -/
theorem update_traffic (hs : s.Holds R) {v : Visiting} {r : Refresher ρ} {d d' : ρ}
    {result : Except RegistryError Outcome} {told : List Refresher.Call}
    (hrun : update v r.recorded id u (s, (d, [])) = (result, (s', (d', told))))
    (hcompleted : Completed result told) :
    ∃ e o calls, R.environments.get? id = some e ∧ Reports R u e o ∧
      (∀ o', result = .ok o' → o' = o) ∧
      update v r.recorded id u ((⟨s, []⟩ : Traced MemoryStore), (d, [])) =
        (result, (⟨s', calls⟩, (d', told))) ∧
      Traffic R u e o s s' calls := by
  obtain ⟨after, happly⟩ := applyUpdate_of_completed hrun hcompleted
  obtain ⟨e, he, hclear, rfl, htraced⟩ := applyUpdate_traced hs happly
  have hcounts := MemoryStore.counts_eq (fun hφ => hφ.applyUpdate v id u) htraced
  refine ⟨e, u.outcomeOn R.shelf e, u.calls v R.shelf e, he, reports_outcomeOn R u e, ?_,
    update_traced hrun htraced, traffic_calls hclear hcounts⟩
  -- The outcome of an update that succeeds is the one that was worked out before anyone was told.
  rintro o' rfl
  cases ho : (u.outcomeOn R.shelf e).changed with
  | false =>
    rw [update_unchanged happly ho] at hrun
    cases hrun
    rfl
  | true =>
    rw [update_changed happly ho] at hrun
    obtain ⟨hresult, -⟩ := Prod.mk.inj hrun
    cases htold : (r.recorded (u.applyTo e) (d, [])).1 with
    | error err =>
      rw [htold] at hresult
      cases hresult
    | ok _ =>
      rw [htold] at hresult
      cases hresult
      rfl

end Memory

/-- Two reads and writes for tags and one for an edge group, beside the environment and the list. -/
theorem update_traffic_sample :
    ∃ s', update .ascending Refresher.silent.recorded 1
        { tags := some [2, 2], edgeGroups := some [] } (sampleStore, ((), [])) =
        (.ok ⟨true, false, true, true⟩,
          (s', ((), [({ id := 1, name := "a", tagIds := [2, 2] }, .ok ())]))) ∧
      s'.reads = 5 ∧ s'.writes = 4 ∧
      ∃ e o calls, sample.environments.get? 1 = some e ∧
        Traffic sample { tags := some [2, 2], edgeGroups := some [] } e o sampleStore s' calls := by
  obtain ⟨s', hrun, hreads, hwrites⟩ : ∃ s', update .ascending Refresher.silent.recorded 1
      { tags := some [2, 2], edgeGroups := some [] } (sampleStore, ((), [])) =
      (.ok ⟨true, false, true, true⟩,
        (s', ((), [({ id := 1, name := "a", tagIds := [2, 2] }, .ok ())]))) ∧
    s'.reads = 5 ∧ s'.writes = 4 := ⟨_, rfl, rfl, rfl⟩
  have hholds : sampleStore.Holds sample := rfl
  obtain ⟨e, o, calls, he, -, -, -, htraffic⟩ := update_traffic hholds hrun (.inl ⟨_, rfl⟩)
  exact ⟨s', hrun, hreads, hwrites, e, o, calls, he, htraffic⟩

end EnvRegistry.Relations

import EnvRegistry.Proofs.KeySet
import EnvRegistry.Proofs.Relations.Phases
import EnvRegistry.Proofs.Table

/-! # What has to change

    `delta` counts a union and an intersection; `delta_eq` says that it compares
    the two sets.  A `Delta` that is carried out is a function on records
    (`Delta.on`), so that it takes a table to a table, and a reconciler that
    stops on its way has carried out another `Delta`, a `Stage` of the one it was
    given. -/

namespace EnvRegistry.Relations

/-! ## Section 1: The difference of two sets -/

namespace Delta

variable {κ : Type} [Ord κ]

/-- Nothing goes and nothing comes. -/
def nothing : Delta κ := ⟨.empty, .empty⟩

/-- The record changes hands. -/
def Touches (d : Delta κ) (id : κ) : Prop := id ∈ d.toRemove ∨ id ∈ d.toAdd

/-- Whether no record changes hands. -/
def isEmpty (d : Delta κ) : Bool := d.toRemove.isEmpty && d.toAdd.isEmpty

section

variable [Std.TransOrd κ]

theorem isEmpty_iff {d : Delta κ} : d.isEmpty = true ↔ ∀ id, ¬ d.Touches id := by
  simp only [isEmpty, Bool.and_eq_true, KeySet.isEmpty_iff, Touches, not_or, forall_and]

theorem isEmpty_eq_false_iff {d : Delta κ} : d.isEmpty = false ↔ ∃ id, d.Touches id := by
  rw [← Bool.not_eq_true, isEmpty_iff, Classical.not_forall]
  simp only [Classical.not_not]

end

variable [DecidableEq κ]

/-- What takes the second set to the first. -/
def between (desired current : KeySet κ) : Delta κ :=
  ⟨.difference [current, desired], .difference [desired, current]⟩

variable {desired current : KeySet κ} {id : κ}

@[simp] theorem mem_toRemove_between :
    id ∈ (between desired current).toRemove ↔ id ∈ current ∧ ¬ id ∈ desired := by
  simp [between]

@[simp] theorem mem_toAdd_between :
    id ∈ (between desired current).toAdd ↔ id ∈ desired ∧ ¬ id ∈ current := by
  simp [between]

/-- What changes hands is in one of the sets and not in the other. -/
theorem touches_between :
    (between desired current).Touches id ↔
      (id ∈ current ∧ ¬ id ∈ desired) ∨ (id ∈ desired ∧ ¬ id ∈ current) := by
  rw [Touches, mem_toRemove_between, mem_toAdd_between]

theorem between_disjoint (h : id ∈ (between desired current).toAdd) :
    ¬ id ∈ (between desired current).toRemove := by
  intro hr
  exact (mem_toAdd_between.mp h).2 (mem_toRemove_between.mp hr).1

variable [Std.TransOrd κ]

theorem isEmpty_between : (between desired current).isEmpty = decide (desired = current) := by
  by_cases heq : desired = current
  · rw [decide_eq_true heq, isEmpty_iff]
    intro id h
    rw [touches_between, heq] at h
    rcases h with ⟨h, hn⟩ | ⟨h, hn⟩
    · exact hn h
    · exact hn h
  · rw [decide_eq_false heq, isEmpty_eq_false_iff]
    by_contra hnone
    refine heq (KeySet.ext_mem fun k => ?_)
    have hk : ¬ (between desired current).Touches k := fun h => hnone ⟨k, h⟩
    rw [touches_between, not_or, not_and_not_right, not_and_not_right] at hk
    exact ⟨hk.2, hk.1⟩

end Delta

/-- Counting the union and the intersection of two sets compares the sets. -/
theorem delta_eq {κ : Type} [Ord κ] [Std.TransOrd κ] [Std.LawfulEqOrd κ] [DecidableEq κ]
    (desired current : KeySet κ) :
    delta desired current =
      if desired = current then none else some (Delta.between desired current) := by
  unfold delta
  by_cases heq : desired = current
  · rw [if_pos heq, if_pos (KeySet.size_union_le_iff.mpr heq)]
  · rw [if_neg heq, if_neg fun h => heq (KeySet.size_union_le_iff.mp h)]
    rfl

/-! ## Section 2: Carrying out a delta -/

theorem addMember_addMember (t : Tag) (id : EnvironmentId) :
    (t.addMember id).addMember id = t.addMember id := by
  have hmembers : (t.members.insert id).insert id = t.members.insert id := by
    refine KeySet.ext_mem fun j => ?_
    simp only [KeySet.mem_insert]
    exact or_iff_right_of_imp .inl
  unfold Tag.addMember
  rw [hmembers]

theorem removeMember_removeMember (t : Tag) (id : EnvironmentId) :
    (t.removeMember id).removeMember id = t.removeMember id := by
  have hmembers : (t.members.erase id).erase id = t.members.erase id := by
    refine KeySet.ext_mem fun j => ?_
    simp only [KeySet.mem_erase]
    exact and_iff_left_of_imp And.right
  unfold Tag.removeMember
  rw [hmembers]

namespace Delta

/-- What becomes of a record: it is left, or joined, or neither. -/
def on {α : Type} (d : Delta UInt32) (key : α → UInt32) (leave join : α → α) (a : α) : α :=
  if key a ∈ d.toRemove then leave a else if key a ∈ d.toAdd then join a else a

/-- What becomes of a tag when an environment changes its tags. -/
def onTag (d : Delta TagId) (id : EnvironmentId) : Tag → Tag :=
  d.on Tag.id (·.removeMember id) (·.addMember id)

/-- What becomes of an edge group when an environment changes its edge groups. -/
def onEdgeGroup (d : Delta EdgeGroupId) (id : EnvironmentId) : EdgeGroup → EdgeGroup :=
  d.on EdgeGroup.id (·.removeMember id) (·.addMember id)

section On

variable {α : Type} {d : Delta UInt32} {key : α → UInt32} {leave join : α → α} {a : α}

theorem on_of_not_touches (h : ¬ d.Touches (key a)) : d.on key leave join a = a := by
  rw [Touches, not_or] at h
  rw [on, if_neg h.1, if_neg h.2]

theorem on_key (hleave : ∀ a, key (leave a) = key a) (hjoin : ∀ a, key (join a) = key a) :
    key (d.on key leave join a) = key a := by
  unfold on
  split
  · exact hleave a
  · split
    · exact hjoin a
    · rfl

end On

@[simp] theorem onTag_id (d : Delta TagId) (id : EnvironmentId) (t : Tag) :
    (d.onTag id t).id = t.id := on_key (fun _ => rfl) (fun _ => rfl)

@[simp] theorem onEdgeGroup_id (d : Delta EdgeGroupId) (id : EnvironmentId) (g : EdgeGroup) :
    (d.onEdgeGroup id g).id = g.id := on_key (fun _ => rfl) (fun _ => rfl)

section Tables

variable {α : Type} {t : Table α} {d : Delta UInt32} {key : α → UInt32} {leave join : α → α}
  {id : UInt32} (ht : t.Keyed key)

include ht

theorem get?_left (hid : id ∈ d.toRemove) :
    (t.map (d.on key leave join)).get? id = (t.get? id).map leave := by
  rw [Table.get?_map]
  cases ha : t.get? id with
  | none => rfl
  | some a =>
    have hkey : key a ∈ d.toRemove := by rwa [ht id a ha]
    rw [Option.map_some, Option.map_some, on, if_pos hkey]

theorem get?_joined (hid : id ∈ d.toAdd) (hkept : ¬ id ∈ d.toRemove) :
    (t.map (d.on key leave join)).get? id = (t.get? id).map join := by
  rw [Table.get?_map]
  cases ha : t.get? id with
  | none => rfl
  | some a =>
    have hkey : key a ∈ d.toAdd ∧ ¬ key a ∈ d.toRemove := by
      rw [ht id a ha]
      exact ⟨hid, hkept⟩
    rw [Option.map_some, Option.map_some, on, if_neg hkey.2, if_pos hkey.1]

theorem get?_untouched (hid : ¬ d.Touches id) :
    (t.map (d.on key leave join)).get? id = t.get? id := by
  rw [Table.get?_map]
  cases ha : t.get? id with
  | none => rfl
  | some a =>
    have hkey : ¬ d.Touches (key a) := by rwa [ht id a ha]
    rw [Option.map_some, on_of_not_touches hkey]

end Tables

/-- Part of a delta was carried out: some of what has to go, and some of what has to come only if
everything that has to go is gone. -/
structure Stage {κ : Type} [Ord κ] (done d : Delta κ) : Prop where
  removed : ∀ id, id ∈ done.toRemove → id ∈ d.toRemove
  added : ∀ id, id ∈ done.toAdd → id ∈ d.toAdd
  removalsFirst : (∃ id, id ∈ done.toAdd) → done.toRemove = d.toRemove

section Stage

variable {κ : Type} [Ord κ]

theorem not_touches_nothing (id : κ) : ¬ (nothing : Delta κ).Touches id := by
  rw [Touches, not_or]
  exact ⟨KeySet.not_mem_empty, KeySet.not_mem_empty⟩

theorem Stage.nothing (d : Delta κ) : Stage Delta.nothing d where
  removed _ h := absurd h KeySet.not_mem_empty
  added _ h := absurd h KeySet.not_mem_empty
  removalsFirst := fun ⟨_, h⟩ => absurd h KeySet.not_mem_empty

theorem Stage.refl (d : Delta κ) : Stage d d := ⟨fun _ => id, fun _ => id, fun _ => rfl⟩

theorem Stage.touches {done d : Delta κ} (h : done.Stage d) {id : κ} (hid : done.Touches id) :
    d.Touches id := hid.imp (h.removed id) (h.added id)

end Stage

/-- A record on the way is as it was, or as it will be at the end. -/
theorem Stage.on_eq {α : Type} {done d : Delta UInt32} (h : done.Stage d)
    (hdisjoint : ∀ id, id ∈ d.toAdd → ¬ id ∈ d.toRemove) (key : α → UInt32) (leave join : α → α)
    (a : α) :
    done.on key leave join a = a ∨ done.on key leave join a = d.on key leave join a := by
  unfold on
  by_cases hremove : key a ∈ done.toRemove
  · rw [if_pos hremove, if_pos (h.removed _ hremove)]
    exact .inr rfl
  · rw [if_neg hremove]
    by_cases hadd : key a ∈ done.toAdd
    · have hadd' := h.added _ hadd
      rw [if_pos hadd, if_neg (hdisjoint _ hadd'), if_pos hadd']
      exact .inr rfl
    · rw [if_neg hadd]
      exact .inl rfl

end Delta

/-! ## Section 3: The deltas of an update -/

/-- How the update changes the tags of an environment. -/
def Update.tagDelta (u : Update) (e : Environment) : Delta TagId :=
  match u.tags with
  | some tags => .between (.ofList tags) (.ofList e.tagIds)
  | none => .nothing

/-- How the update changes the edge groups of an environment that is in the given ones. -/
def Update.edgeGroupDelta (u : Update) (current : KeySet EdgeGroupId) : Delta EdgeGroupId :=
  match u.edgeGroups with
  | some groups => .between (.ofList groups) current
  | none => .nothing

theorem Update.tagDelta_disjoint (u : Update) (e : Environment) (id : TagId)
    (h : id ∈ (u.tagDelta e).toAdd) : ¬ id ∈ (u.tagDelta e).toRemove := by
  unfold tagDelta at h ⊢
  split at h
  · exact Delta.between_disjoint h
  · exact KeySet.not_mem_empty

theorem Update.edgeGroupDelta_disjoint (u : Update) (current : KeySet EdgeGroupId)
    (id : EdgeGroupId)
    (h : id ∈ (u.edgeGroupDelta current).toAdd) : ¬ id ∈ (u.edgeGroupDelta current).toRemove := by
  unfold edgeGroupDelta at h ⊢
  split at h
  · exact Delta.between_disjoint h
  · exact KeySet.not_mem_empty

/-- The environment as the update wants it has no tags to change. -/
theorem Update.tagDelta_applyTo (u : Update) (e : Environment) :
    (u.tagDelta (u.applyTo e)).isEmpty = true := by
  unfold tagDelta applyTo
  cases u.tags with
  | none => rfl
  | some tags =>
    rw [Delta.isEmpty_between]
    exact decide_eq_true rfl

end EnvRegistry.Relations

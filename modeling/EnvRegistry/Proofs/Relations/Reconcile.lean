import EnvRegistry.Proofs.Relations.Delta
import EnvRegistry.Proofs.Store.Shelf

/-! # The two loops of a reconciler

    A loop changes all its records, if all of them are open, and otherwise
    those that come before the first that is not (`visitAll_mutate`).  A record
    may come up twice if changing it again does nothing.

    A reconciler runs two such loops, so it carries out its delta, or a stage of
    it (`reconcile_cases`).  In which order the loops go through their records
    decides only which stage it is. -/

namespace EnvRegistry.Relations

variable {α : Type} {k : Rack α}

/-! ## Section 1: One loop -/

theorem only_nil (f : α → α) (a : α) : k.only [] f a = a := if_neg List.not_mem_nil

/-- Changing one record and then others is changing all of them, unless the change is made twice
and that matters. -/
theorem only_cons {f : α → α} (hf : ∀ a, k.key (f a) = k.key a) {id : UInt32} {ids : List UInt32}
    (hrepeat : id ∉ ids ∨ ∀ a, f (f a) = f a) (a : α) :
    k.only ids f (k.only [id] f a) = k.only (id :: ids) f a := by
  unfold Rack.only
  by_cases ha : k.key a = id
  · rw [if_pos (List.mem_singleton.mpr ha), if_pos (List.mem_cons.mpr (.inl ha)), hf a, ha]
    rcases hrepeat with hid | hid
    · rw [if_neg hid]
    · split
      · exact hid a
      · rfl
  · rw [if_neg fun h => ha (List.mem_singleton.mp h)]
    have hmem : k.key a ∈ id :: ids ↔ k.key a ∈ ids := by
      rw [List.mem_cons]
      exact or_iff_right ha
    simp only [hmem]

/-- A loop changes all its records, or those before the first that is not open. -/
theorem visitAll_mutate (f : α → α) (hf : ∀ a, k.key (f a) = k.key a) {ids : List UInt32}
    (hrepeat : ids.Nodup ∨ ∀ a, f (f a) = f a) {s : Shelf} (hown : k.Own s) :
    (∀ id ∈ ids, k.Open s id) ∧
        visitAll (k.mutate · f) ids s = (.ok (), k.change (k.only ids f) s) ∨
      (∃ id ∈ ids, ¬ k.Open s id) ∧ ∃ done e, (∀ id ∈ done, id ∈ ids) ∧ e.OfStore ∧
        visitAll (k.mutate · f) ids s = (.error e, k.change (k.only done f) s) := by
  -- The shelf changes from step to step, but the records that are open stay the same.
  induction ids generalizing s with
  | nil =>
    refine .inl ⟨fun _ h => absurd h List.not_mem_nil, ?_⟩
    rw [k.change_eq_self (only_nil f)]
    rfl
  | cons id rest ih =>
    have hrest : rest.Nodup ∨ ∀ a, f (f a) = f a :=
      hrepeat.imp_left fun h => (List.nodup_cons.mp h).2
    have hid : ∀ done : List UInt32, (∀ j ∈ done, j ∈ rest) → id ∉ done ∨ ∀ a, f (f a) = f a :=
      fun done hdone => hrepeat.imp_left fun h hmem => (List.nodup_cons.mp h).1 (hdone id hmem)
    by_cases hopen : k.Open s id
    · have hstep := k.mutate_open hown hf hopen
      have hown' : k.Own (k.change (k.only [id] f) s) := hown.change (k.only_key hf _)
      rcases ih hrest hown' with ⟨hall, hrun⟩ | ⟨⟨j, hj, hshut⟩, done, e, hdone, he, hrun⟩
      · refine .inl ⟨?_, ?_⟩
        · intro j hj
          rcases List.mem_cons.mp hj with rfl | hj
          · exact hopen
          · exact (k.open_change _).mp (hall j hj)
        · rw [visitAll, StoreM.bind_ok hstep, hrun, k.change_change]
          exact congrArg _ (k.change_congr (only_cons hf (hid rest fun _ h => h)))
      · refine .inr ⟨⟨j, List.mem_cons_of_mem _ hj, ?_⟩, id :: done, e, ?_, he, ?_⟩
        · rwa [k.open_change] at hshut
        · intro i hi
          rcases List.mem_cons.mp hi with rfl | hi
          · exact List.mem_cons_self
          · exact List.mem_cons_of_mem _ (hdone i hi)
        · rw [visitAll, StoreM.bind_ok hstep, hrun, k.change_change]
          exact congrArg _ (k.change_congr (only_cons hf (hid done hdone)))
    · -- The loop stops here, with nothing done.
      obtain ⟨e, he, hstep⟩ := k.mutate_shut hown hf hopen
      refine .inr ⟨⟨id, List.mem_cons_self, hopen⟩, [], e, ?_, he, ?_⟩
      · exact fun _ h => absurd h List.not_mem_nil
      · rw [visitAll, StoreM.bind_error hstep, k.change_eq_self (only_nil f)]

/-! ## Section 2: Removals and additions -/

/-- Carries out a delta: all removals, and then all additions. -/
def reconcile (k : Rack α) (removed added : Arrangement) (d : Delta UInt32) (leave join : α → α) :
    StoreM Shelf Bool := do
  visitAll (k.mutate · leave) (removed.order d.toRemove.toList)
  visitAll (k.mutate · join) (added.order d.toAdd.toList)
  return true

theorem mem_order {o : Arrangement} {s : KeySet UInt32} {id : UInt32} :
    id ∈ o.order s.toList ↔ id ∈ s := (o.perm s.toList).mem_iff

theorem nodup_order (o : Arrangement) (s : KeySet UInt32) : (o.order s.toList).Nodup :=
  (o.perm s.toList).nodup_iff.mpr s.nodup_toList

section Reconcile

variable {d : Delta UInt32} {leave : α → α} (join : α → α)

/-- Removing some records and then adding others is carrying out the delta of both. -/
theorem only_only (hleave : ∀ a, k.key (leave a) = k.key a) {gone come : List UInt32}
    (hdone : ∀ id, id ∈ d.toRemove ↔ id ∈ gone) (hadd : ∀ id, id ∈ d.toAdd ↔ id ∈ come)
    (hdisjoint : ∀ id, id ∈ come → id ∉ gone) (a : α) :
    k.only come join (k.only gone leave a) = d.on k.key leave join a := by
  unfold Rack.only Delta.on
  by_cases hgone : k.key a ∈ gone
  · have hcome : k.key (leave a) ∉ come := by
      rw [hleave a]
      exact fun h => hdisjoint _ h hgone
    rw [if_pos hgone, if_neg hcome, if_pos ((hdone _).mpr hgone)]
  · rw [if_neg hgone, if_neg fun h => hgone ((hdone _).mp h)]
    simp only [hadd]

/-- A reconciler carries out its delta if every record that changes hands is open, and otherwise
stops with an error at a stage of it. -/
theorem reconcile_cases (leave join : α → α) (hleave : ∀ a, k.key (leave a) = k.key a)
    (hjoin : ∀ a, k.key (join a) = k.key a) (removed added : Arrangement)
    (hdisjoint : ∀ id, id ∈ d.toAdd → ¬ id ∈ d.toRemove) {s : Shelf} (hown : k.Own s) :
    (∀ id, d.Touches id → k.Open s id) ∧
        reconcile k removed added d leave join s =
          (.ok true, k.change (d.on k.key leave join) s) ∨
      (∃ id, d.Touches id ∧ ¬ k.Open s id) ∧ ∃ (done : Delta UInt32) (e : RegistryError),
        done.Stage d ∧ e.OfStore ∧ reconcile k removed added d leave join s =
          (.error e, k.change (done.on k.key leave join) s) := by
  have hgone : ∀ id, id ∈ d.toRemove ↔ id ∈ removed.order d.toRemove.toList :=
    fun id => mem_order.symm
  have hown' : k.Own (k.change (k.only (removed.order d.toRemove.toList) leave) s) :=
    hown.change (k.only_key hleave _)
  -- All removals, then all additions: it stops at the first record of either that is shut.
  rcases visitAll_mutate leave hleave (.inl (nodup_order removed d.toRemove)) hown with
    ⟨hopen, hrun⟩ | ⟨⟨id, hid, hshut⟩, done, e, hdone, he, hrun⟩
  · rcases visitAll_mutate join hjoin (.inl (nodup_order added d.toAdd)) hown' with
      ⟨hopen', hrun'⟩ | ⟨⟨id, hid, hshut⟩, done, e, hdone, he, hrun'⟩
    · refine .inl ⟨?_, ?_⟩
      · rintro id (hid | hid)
        · exact hopen id ((hgone id).mp hid)
        · exact (k.open_change _).mp (hopen' id (mem_order.mpr hid))
      · rw [reconcile, StoreM.bind_ok hrun, StoreM.bind_ok hrun', k.change_change]
        refine congrArg (Prod.mk _) (k.change_congr (only_only join hleave hgone ?_ ?_))
        · exact fun id => mem_order.symm
        · exact fun id h hr => hdisjoint id (mem_order.mp h) (mem_order.mp hr)
    · -- Every removal is done, and the additions stop after `done`.
      refine .inr ⟨⟨id, .inr (mem_order.mp hid), ?_⟩, ⟨d.toRemove, .ofList done⟩, e, ?_, he, ?_⟩
      · rwa [k.open_change] at hshut
      · exact ⟨fun _ h => h, fun j hj => mem_order.mp (hdone j (KeySet.mem_ofList.mp hj)),
          fun _ => rfl⟩
      · rw [reconcile, StoreM.bind_ok hrun, StoreM.bind_error hrun', k.change_change]
        refine congrArg (Prod.mk _) (k.change_congr (only_only join hleave hgone ?_ ?_))
        · exact fun id => KeySet.mem_ofList
        · exact fun id h hr => hdisjoint id (mem_order.mp (hdone id h)) (mem_order.mp hr)
  · -- The removals stop after `done`, and nothing is added.
    refine .inr ⟨⟨id, .inl (mem_order.mp hid), hshut⟩, ⟨.ofList done, .empty⟩, e, ?_, he, ?_⟩
    · exact ⟨fun j hj => mem_order.mp (hdone j (KeySet.mem_ofList.mp hj)),
        fun _ h => absurd h KeySet.not_mem_empty, fun ⟨_, h⟩ => absurd h KeySet.not_mem_empty⟩
    · rw [reconcile, StoreM.bind_error hrun]
      refine congrArg (Prod.mk _) (k.change_congr fun a => ?_)
      have hcome : ∀ id, id ∈ (KeySet.empty : KeySet UInt32) ↔ id ∈ ([] : List UInt32) := by
        intro id
        simp
      rw [← only_only (d := ⟨.ofList done, .empty⟩) (k := k) join hleave
        (fun id => KeySet.mem_ofList) hcome (fun _ h => absurd h List.not_mem_nil), only_nil]

end Reconcile

end EnvRegistry.Relations

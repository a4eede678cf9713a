import EnvRegistry.Proofs.Relations.Frame

/-! # The order of visits leaves no trace

    The records that leave or join a relation are visited in some order.  If an
    update of a database succeeds with one order it succeeds with every other,
    and the texts that it leaves are the same (`Database.applyUpdate_order`).

    Changing one record and then another comes to the same as changing them the
    other way round, as long as neither change fails.  Any two orders differ by
    such exchanges, so this is carried from pairs to whole visits by induction on
    the permutation, and from there to the phases of an update. -/

namespace EnvRegistry

open Relations

/-! ## Section 1: Visits -/

namespace Relations

variable {σ : Type} {P : σ → Prop} {change : UInt32 → StoreM σ Unit} {l l' : List UInt32}

/-- Visits whose steps can be exchanged can be made in any order. -/
theorem visitAll_perm (hkeep : ∀ a, Emulated P (change a) (change a))
    (hswap : ∀ a b, Emulated P (change a >>= fun _ => change b) (change b >>= fun _ => change a))
    (h : l.Perm l') : Emulated P (visitAll change l) (visitAll change l') := by
  have hsame : ∀ l, Emulated P (visitAll change l) (visitAll change l) := by
    intro l
    induction l with
    | nil => exact .pure ()
    | cons a l ih => exact (hkeep a).bind fun _ => ih
  induction h with
  | nil => exact .pure ()
  | cons a _ ih => exact (hkeep a).bind fun _ => ih
  | swap a b l =>
    -- The two visits that change places come first, and the same visits follow.
    have hassoc : ∀ a b, visitAll change (a :: b :: l) =
        (change a >>= fun _ => change b) >>= fun _ => visitAll change l := fun a b =>
      (bind_assoc (change a) (fun _ => change b) (fun _ => visitAll change l)).symm
    rw [hassoc, hassoc]
    exact (hswap b a).bind fun _ => hsame l
  | trans _ _ ih ih' => exact ih.trans ih'

/-- Two arrangements of the same records. -/
theorem visitAll_arranged (hkeep : ∀ a, Emulated P (change a) (change a))
    (hswap : ∀ a b, Emulated P (change a >>= fun _ => change b) (change b >>= fun _ => change a))
    (v w : Arrangement) (l : List UInt32) :
    Emulated P (visitAll change (v.order l)) (visitAll change (w.order l)) :=
  visitAll_perm hkeep hswap ((v.perm l).trans (w.perm l).symm)

end Relations

/-! ## Section 2: Changing a text -/

namespace Database

/-- Reads a record, changes it and writes its text back. -/
def mutate {α : Type} (k : Rack α) (d : Json.Decoder α) (table : Database → Table String)
    (put : Database → α → Database) (id : UInt32) (f : α → α) : StoreM Database Unit := do
  let a ← query fun db => readRecord k.kind d (table db) id
  replaceRecord k.kind table (k.key (f a)) (put · (f a))

section Records

variable {α : Type} {k : Rack α} {d : Json.Decoder α} {table : Database → Table String}
  {put : Database → α → Database} {f : α → α} {db db' : Database} {a b : UInt32}
  (htable : ∀ db, k.get (shelf db) = (table db).map (cell d)) (hf : ∀ x, k.key (f x) = k.key x)

include htable hf

/-- Changing a record succeeds if the record can be read. -/
theorem mutate_eq_ok (hown : k.Own db.shelf) : mutate k d table put a f db = (.ok (), db') ↔
    ∃ x, k.look db.shelf a = .ok x ∧ db' = put db (f x) := by
  have hquery : (query fun db => readRecord k.kind d (table db) a : StoreM Database α) db =
      (k.look db.shelf a, db) := by
    rw [look_shelf htable]
    rfl
  -- The record keeps its id, so there is a record to replace if there was one to read.
  cases hlook : k.look db.shelf a with
  | error e =>
    rw [hlook] at hquery
    rw [mutate, StoreM.bind_error hquery]
    refine iff_of_false nofun ?_
    rintro ⟨_, h, -⟩
    cases h
  | ok x =>
    rw [hlook] at hquery
    have hget : (k.get db.shelf).get? a = some (.ok x) := (Rack.look_ok.mp hlook).2
    have hkey : k.key (f x) = a := (hf x).trans (hown a x hget)
    have hcontains : (table db).contains a = true := by
      rw [← Table.contains_map (cell d), ← htable]
      exact Table.contains_iff.mpr ⟨_, hget⟩
    have hrun : mutate k d table put a f db = (.ok (), put db (f x)) := by
      rw [mutate, StoreM.bind_ok hquery, hkey, replaceRecord,
        StoreM.bind_ok (StoreM.get_apply db), if_pos hcontains]
      rfl
    rw [hrun]
    constructor
    · intro h
      cases h
      exact ⟨x, rfl, rfl⟩
    · rintro ⟨y, hy, rfl⟩
      cases hy
      rfl

omit htable hf in
theorem mutate_keeps (hput : ∀ db x, (put db x).shelf = k.put x db.shelf)
    (hkeep : ∀ (s : Shelf) x, s.Own → (k.put x s).Own) (a : UInt32) :
    Emulated (fun db => db.shelf.Own) (mutate k d table put a f) (mutate k d table put a f) := by
  refine .of_maintains ((query_maintains _).bind fun x => replaceRecord_maintains fun db hown => ?_)
  rw [hput]
  exact hkeep _ _ hown

/-- Two records can be changed in any order. -/
theorem mutate_swap (hput : ∀ db x, (put db x).shelf = k.put x db.shelf)
    (hkeep : ∀ (s : Shelf) x, s.Own → (k.put x s).Own) (hk : ∀ s : Shelf, s.Own → k.Own s)
    (hcomm : ∀ db x y, k.key x ≠ k.key y → put (put db x) y = put (put db y) x) (a b : UInt32) :
    Emulated (fun db => db.shelf.Own)
      (mutate k d table put a f >>= fun _ => mutate k d table put b f)
      (mutate k d table put b f >>= fun _ => mutate k d table put a f) := by
  have hkept : ∀ a, Emulated (fun db => db.shelf.Own) (mutate k d table put a f)
      (mutate k d table put a f) := mutate_keeps hput hkeep
  by_cases hab : a = b
  · rw [hab]
    exact (hkept b).bind fun _ => hkept b
  · rintro db ⟨⟩ db₂ hown hrun
    obtain ⟨⟨⟩, db₁, hfirst, hsecond⟩ := StoreM.bind_eq_ok.mp hrun
    have hown₁ := (hkept a db () db₁ hown hfirst).2
    have hown₂ := (hkept b db₁ () db₂ hown₁ hsecond).2
    obtain ⟨x, hx, rfl⟩ := (mutate_eq_ok htable hf (hk _ hown)).mp hfirst
    obtain ⟨y, hy, rfl⟩ := (mutate_eq_ok htable hf (hk _ hown₁)).mp hsecond
    have hkeyx : k.key (f x) = a := (hf x).trans (hk _ hown a x (Rack.look_ok.mp hx).2)
    have hread : ∀ id, (k.kind, id) ∉ db.shelf.failingReads := fun _ => List.not_mem_nil
    -- Each of the two is read as it was, because the other one lies elsewhere.
    have hyold : k.look db.shelf b = .ok y := by
      rwa [hput, Rack.look_put _ (hread b), hkeyx, if_neg (Ne.symm hab)] at hy
    have hkeyy : k.key (f y) = b := (hf y).trans (hk _ hown b y (Rack.look_ok.mp hyold).2)
    have hxlate : k.look (put db (f y)).shelf a = .ok x := by
      rw [hput, Rack.look_put _ (hread a), hkeyy, if_neg hab, hx]
    have hbfirst : mutate k d table put b f db = (.ok (), put db (f y)) :=
      (mutate_eq_ok htable hf (hk _ hown)).mpr ⟨y, hyold, rfl⟩
    have hownb := (hkept b db () _ hown hbfirst).2
    have hasecond : mutate k d table put a f (put db (f y)) = (.ok (), put (put db (f y)) (f x)) :=
      (mutate_eq_ok htable hf (hk _ hownb)).mpr ⟨x, hxlate, rfl⟩
    have hsame : put (put db (f x)) (f y) = put (put db (f y)) (f x) :=
      hcomm db (f x) (f y) (by rwa [hkeyx, hkeyy])
    rw [StoreM.bind_ok hbfirst, hasecond, hsame]
    exact ⟨rfl, hsame ▸ hown₂⟩

end Records

/-! ## Section 3: The phases -/

theorem putTag_comm (db : Database) {t t' : Tag} (h : t.id ≠ t'.id) :
    (db.putTag t).putTag t' = (db.putTag t').putTag t := by
  unfold putTag
  simp only [Table.insert_comm _ h]

theorem putEdgeGroup_comm (db : Database) {g g' : EdgeGroup} (h : g.id ≠ g'.id) :
    (db.putEdgeGroup g).putEdgeGroup g' = (db.putEdgeGroup g').putEdgeGroup g := by
  unfold putEdgeGroup
  simp only [Table.insert_comm _ h]

section Phases

variable {f : Tag → Tag} {g : EdgeGroup → EdgeGroup}

/-- Tags can be visited in any order. -/
theorem visitTags_order (hf : ∀ t, (f t).id = t.id) (v w : Arrangement) (l : List TagId) :
    Emulated (fun db : Database => db.shelf.Own)
      (visitAll (RelationStore.mutateTag · f) (v.order l))
      (visitAll (RelationStore.mutateTag · f) (w.order l)) :=
  visitAll_arranged
    (mutate_keeps (k := .tags) shelf_putTag fun _ t h => h.putTag t)
    (mutate_swap (k := .tags) (fun _ => rfl) hf shelf_putTag (fun _ t h => h.putTag t)
      (fun _ h => h.tags) fun db _ _ h => db.putTag_comm h) v w l

/-- Edge groups can be visited in any order. -/
theorem visitEdgeGroups_order (hg : ∀ group, (g group).id = group.id) (v w : Arrangement)
    (l : List EdgeGroupId) :
    Emulated (fun db : Database => db.shelf.Own)
      (visitAll (RelationStore.mutateEdgeGroup · g) (v.order l))
      (visitAll (RelationStore.mutateEdgeGroup · g) (w.order l)) :=
  visitAll_arranged
    (mutate_keeps (k := .edgeGroups) shelf_putEdgeGroup fun _ group h => h.putEdgeGroup group)
    (mutate_swap (k := .edgeGroups) (fun _ => rfl) hg shelf_putEdgeGroup
      (fun _ group h => h.putEdgeGroup group) (fun _ h => h.edgeGroups)
      fun db _ _ h => db.putEdgeGroup_comm h) v w l

end Phases

theorem tagPhase_order (v w : Visiting) (u : Update) (e : Environment) :
    Emulated (fun db : Database => db.shelf.Own) (tagPhase v u e) (tagPhase w u e) := by
  unfold tagPhase
  cases u.tags with
  | none => exact .pure false
  | some tags =>
    show Emulated _ (reconcileTags v tags e.tagIds e.id) (reconcileTags w tags e.tagIds e.id)
    unfold reconcileTags
    cases delta (KeySet.ofList tags) (KeySet.ofList e.tagIds) with
    | none => exact .pure false
    | some d =>
      have hremoved := visitTags_order (f := (·.removeMember e.id)) (fun _ => rfl) v.tagsRemoved
        w.tagsRemoved d.toRemove.toList
      have hadded := visitTags_order (f := (·.addMember e.id)) (fun _ => rfl) v.tagsAdded
        w.tagsAdded d.toAdd.toList
      exact hremoved.bind fun _ => hadded.bind fun _ => .pure true

theorem edgeGroupPhase_order (v w : Visiting) (u : Update) (id : EnvironmentId) :
    Emulated (fun db : Database => db.shelf.Own) (edgeGroupPhase v u id)
      (edgeGroupPhase w u id) := by
  unfold edgeGroupPhase
  cases u.edgeGroups with
  | none => exact .pure false
  | some groups =>
    have hlist : Emulated (fun db : Database => db.shelf.Own)
      (Relations.environmentEdgeGroups id) (Relations.environmentEdgeGroups id) :=
        .of_maintains ((query_maintains _).bind fun _ => .pure _)
    refine hlist.bind fun current => ?_
    cases delta (KeySet.ofList groups) current with
    | none => exact .pure false
    | some d =>
      have hremoved := visitEdgeGroups_order (g := (·.removeMember id)) (fun _ => rfl)
        v.edgeGroupsRemoved w.edgeGroupsRemoved d.toRemove.toList
      have hadded := visitEdgeGroups_order (g := (·.addMember id)) (fun _ => rfl)
        v.edgeGroupsAdded w.edgeGroupsAdded d.toAdd.toList
      exact hremoved.bind fun _ => hadded.bind fun _ => .pure true

/-! ## Section 4: Updates -/

theorem writePhase_keeps (u : Update) (e : Environment) (o : Outcome) :
    Maintains (fun db : Database => db.shelf.Own) (fun _ => True) (writePhase u e o) := by
  refine .ite (replaceRecord_maintains fun db hown => ?_) (.pure ())
  rw [shelf_putEnvironment]
  exact hown.putEnvironment _

/-- An update that succeeds with one order of visits does the same with any other. -/
theorem applyUpdate_order (v w : Visiting) (id : EnvironmentId) (u : Update) :
    Emulated (fun db : Database => db.shelf.Own) (applyUpdate v id u) (applyUpdate w id u) := by
  rw [applyUpdate_eq, applyUpdate_eq]
  exact (Emulated.of_maintains (query_maintains _)).bind fun e =>
    (tagPhase_order v w u e).bind fun _ => (edgeGroupPhase_order v w u e.id).bind fun _ =>
      (Emulated.of_maintains (writePhase_keeps u e _)).bind fun _ => .pure _

end Database

end EnvRegistry

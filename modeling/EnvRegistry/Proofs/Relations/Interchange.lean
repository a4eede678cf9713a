import EnvRegistry.Proofs.Relations.Frame

/-! # Updates of different environments commute

    Two updates of different environments may read and rewrite the same tags and
    edge groups, and either may stop halfway.  Still neither of them can tell
    whether the other one was there first (`updates_interchange`): both orders
    give each update the same result, and leave the same store but for the order
    in which an edge group lists its members.

    An update does not show in a shelf without its own environment, and comes to
    the same on a shelf without the other one.  So the two orders leave the same
    without the first environment, and the same without the second one, and two
    shelves of which this is true differ only in the order of members
    (`shuffled_of_without`).  Reads and writes are counted on the way. -/

namespace EnvRegistry

open Relations

/-! ## Section 1: Model -/

/-- The shelves are the same but for the order in which edge groups list their members. -/
structure Shelf.Shuffled (s s' : Shelf) : Prop where
  /-- Environments, tags and what is rejected are the same. -/
  rest : s' = { s with edgeGroups := s'.edgeGroups }
  /-- Under every id there is no edge group, or one that cannot be read for the same reason, or one
  with the same name and the same members. -/
  edgeGroups : ∀ id, (s.edgeGroups.get? id = none ∧ s'.edgeGroups.get? id = none) ∨
    (∃ fault, s.edgeGroups.get? id = some (.error fault) ∧
      s'.edgeGroups.get? id = some (.error fault)) ∨
    ∃ g g', s.edgeGroups.get? id = some (.ok g) ∧ s'.edgeGroups.get? id = some (.ok g') ∧
      g'.id = g.id ∧ g'.name = g.name ∧ g'.members.Perm g.members

/-- The same shelves but for the order of members, after as many reads and writes. -/
structure Counted.Shuffled (c c' : Counted Shelf) : Prop where
  store : c.store.Shuffled c'.store
  reads : c'.reads = c.reads
  writes : c'.writes = c.writes

/-- From `t`, two runs can be made in either order, whatever they come to: each gives the same
result in both, and the stores at the end are alike. -/
structure Relations.Interchange {σ ρ α β : Type} (alike : σ → σ → Prop) (m : RunM σ ρ α)
    (n : RunM σ ρ β) (t : σ × ρ) : Prop where
  first : (m (n t).2).1 = (m t).1
  second : (n (m t).2).1 = (n t).1
  store : alike (n (m t).2).2.1 (m (n t).2).2.1

/-! ## Section 2: Shelves of which the same is left -/

/-- What is mentioned is counted where it is not missing. -/
theorem count_of_without {ids : List EnvironmentId} {l l' : List EnvironmentId}
    (h : l'.filter (· ∉ ids) = l.filter (· ∉ ids)) {j : EnvironmentId} (hj : j ∉ ids) :
    l'.count j = l.count j := by
  have hshown : ∀ l : List EnvironmentId, (l.filter (· ∉ ids)).count j = l.count j :=
    fun _ => List.count_filter (decide_eq_true hj)
  rw [← hshown l', h, hshown l]

section Without

variable {hidden : EnvironmentId → List EnvironmentId} (hshown : ∀ j, j ∉ hidden j)

include hshown

theorem Environment.eq_of_without {e e' : Environment}
    (h : ∀ j, e'.without (hidden j) = e.without (hidden j)) : e' = e := by
  have hid : e'.id = e.id := by rw [← e'.without_id (hidden 0), h, e.without_id]
  have hsame := h e.id
  rwa [Environment.without_of_not_mem (e := e) (hshown e.id),
    Environment.without_of_not_mem (by rw [hid]; exact hshown e.id)] at hsame

theorem Tag.eq_of_without {t t' : Tag} (h : ∀ j, t'.without (hidden j) = t.without (hidden j)) :
    t' = t := by
  obtain ⟨hid, hname, -⟩ := Tag.mk.inj (h 0)
  refine Tag.ext_mem hid hname fun j => ?_
  have hleft : j ∈ (t'.without (hidden j)).members ↔ j ∈ (t.without (hidden j)).members := by rw [h]
  rwa [Tag.mem_without, Tag.mem_without, and_iff_left (hshown j), and_iff_left (hshown j)] at hleft

theorem EdgeGroup.perm_of_without {g g' : EdgeGroup}
    (h : ∀ j, g'.without (hidden j) = g.without (hidden j)) :
    g'.id = g.id ∧ g'.name = g.name ∧ g'.members.Perm g.members := by
  obtain ⟨hid, hname, -⟩ := EdgeGroup.mk.inj (h 0)
  refine ⟨hid, hname, List.perm_iff_count.mpr fun j => ?_⟩
  exact count_of_without (congrArg EdgeGroup.members (h j)) (hshown j)

omit hshown in
/-- What holds of records of which the same is left holds of all records in two tables of which the
same is left. -/
theorem cells_of_maps {α : Type} {g : EnvironmentId → α → α} {same : α → α → Prop}
    (hsame : ∀ a a', (∀ j, g j a' = g j a) → same a a') {t t' : Table (Cell α)}
    (h : ∀ j, t'.map (Except.map (g j)) = t.map (Except.map (g j))) (id : UInt32) :
    (t.get? id = none ∧ t'.get? id = none) ∨
      (∃ fault, t.get? id = some (.error fault) ∧ t'.get? id = some (.error fault)) ∨
      ∃ a a', t.get? id = some (.ok a) ∧ t'.get? id = some (.ok a') ∧ same a a' := by
  rcases Shelf.cells_of_map (h 0) id with hnone | hfault | ⟨a, a', ha, ha', -⟩
  · exact .inl hnone
  · exact .inr (.inl hfault)
  · refine .inr (.inr ⟨a, a', ha, ha', hsame a a' fun j => ?_⟩)
    rcases Shelf.cells_of_map (h j) id with ⟨hnone, -⟩ | ⟨_, hfault, -⟩ | ⟨b, b', hb, hb', hg⟩
    · rw [ha] at hnone
      cases hnone
    · rw [ha] at hfault
      cases hfault
    · rw [ha] at hb
      rw [ha'] at hb'
      cases hb
      cases hb'
      exact hg

omit hshown in
theorem table_eq_of_maps {α : Type} {g : EnvironmentId → α → α}
    (hsame : ∀ a a', (∀ j, g j a' = g j a) → a' = a) {t t' : Table (Cell α)}
    (h : ∀ j, t'.map (Except.map (g j)) = t.map (Except.map (g j))) : t' = t := by
  refine Table.ext_get? fun id => ?_
  rcases cells_of_maps hsame h id with ⟨h, h'⟩ | ⟨_, h, h'⟩ | ⟨a, a', h, h', heq⟩
  · rw [h, h']
  · rw [h, h']
  · rw [h, h', heq]

/-- Shelves are the same but for the order of members if, for every environment, the same is left of
them without some others. -/
theorem Shelf.Shuffled.of_without {s s' : Shelf}
    (h : ∀ j, s'.without (hidden j) = s.without (hidden j)) : s.Shuffled s' where
  rest := by
    have henv : s'.environments = s.environments :=
      table_eq_of_maps (fun _ _ => Environment.eq_of_without hshown)
        fun j => congrArg Shelf.environments (h j)
    have htags : s'.tags = s.tags :=
      table_eq_of_maps (fun _ _ => Tag.eq_of_without hshown) fun j => congrArg Shelf.tags (h j)
    obtain ⟨-, -, -, hreads, hwrites, hscan⟩ := Shelf.mk.inj (h 0)
    rw [← henv, ← htags, ← hreads, ← hwrites, ← hscan]
  edgeGroups := cells_of_maps (fun _ _ => EdgeGroup.perm_of_without hshown)
    fun j => congrArg Shelf.edgeGroups (h j)

omit hshown in
/-- Shelves of which the same is left without either of two environments are the same but for the
order of members. -/
theorem shuffled_of_without {id₁ id₂ : EnvironmentId} (hne : id₁ ≠ id₂) {s s' : Shelf}
    (h₁ : s'.without [id₁] = s.without [id₁]) (h₂ : s'.without [id₂] = s.without [id₂]) :
    s.Shuffled s' := by
  -- No environment is missing on both sides.
  have hshown : ∀ j : EnvironmentId, j ∉ if j = id₁ then [id₂] else [id₁] := by
    intro j
    by_cases hj : j = id₁
    · rw [if_pos hj, List.mem_singleton, hj]
      exact hne
    · rwa [if_neg hj, List.mem_singleton]
  refine .of_without hshown fun j => ?_
  split
  · exact h₂
  · exact h₁

end Without

/-! ## Section 3: Counted shelves -/

namespace Counted

section One

variable {ids : List EnvironmentId} {id : EnvironmentId} {c c' : Counted Shelf}

/-- An update keeps records under their own ids, and does not show where its environment is
missing. -/
theorem applyUpdate_hidden (hown : c.store.Own) (hid : id ∈ ids) (v : Visiting) (u : Update) :
    (applyUpdate v id u c).2.store.Own ∧
      (applyUpdate v id u c).2.store.without ids = c.store.without ids := by
  have hkept := (Shelf.applyUpdate_maintains hid v u c.store c.store ⟨hown, rfl⟩).1
  rwa [Counted.storeMap.applyUpdate v id u c] at hkept

/-- An update of an environment comes to the same on two shelves of which the same is left without
others, and reads and writes as often. -/
theorem applyUpdate_shown (hown : c.store.Own) (hown' : c'.store.Own) (hid : id ∉ ids)
    (h : c'.store.without ids = c.store.without ids) (v : Visiting) (u : Update) :
    (applyUpdate v id u c').1 = (applyUpdate v id u c).1 ∧
      (applyUpdate v id u c').2.store.without ids = (applyUpdate v id u c).2.store.without ids ∧
      (applyUpdate v id u c').2.reads + c.reads = (applyUpdate v id u c).2.reads + c'.reads ∧
      (applyUpdate v id u c').2.writes + c.writes =
        (applyUpdate v id u c).2.writes + c'.writes := by
  -- With the counts of the other added, what is left of the two is the same.
  have hsame : c'.map (Shelf.without ids) c.reads c.writes =
      c.map (Shelf.without ids) c'.reads c'.writes := by
    unfold Counted.map
    rw [h, Nat.add_comm c'.reads, Nat.add_comm c'.writes]
  have hrun' := Shelf.applyUpdate_without c.reads c.writes hid hown' v u
  rw [hsame, Shelf.applyUpdate_without c'.reads c'.writes hid hown v u] at hrun'
  obtain ⟨hresult, hleft⟩ := Prod.mk.inj hrun'
  obtain ⟨hstore, hreads, hwrites⟩ := Counted.mk.inj hleft
  exact ⟨hresult.symm, hstore.symm, hreads.symm, hwrites.symm⟩

end One

/-- Two updates of different environments can be made in either order on a counted shelf. -/
theorem applyUpdate_interchange {c : Counted Shelf} (hown : c.store.Own) {id₁ id₂ : EnvironmentId}
    (hne : id₁ ≠ id₂) (v₁ v₂ : Visiting) (u₁ u₂ : Update) :
    (applyUpdate v₁ id₁ u₁ (applyUpdate v₂ id₂ u₂ c).2).1 = (applyUpdate v₁ id₁ u₁ c).1 ∧
      (applyUpdate v₂ id₂ u₂ (applyUpdate v₁ id₁ u₁ c).2).1 = (applyUpdate v₂ id₂ u₂ c).1 ∧
      Shuffled (applyUpdate v₂ id₂ u₂ (applyUpdate v₁ id₁ u₁ c).2).2
        (applyUpdate v₁ id₁ u₁ (applyUpdate v₂ id₂ u₂ c).2).2 := by
  have hself : ∀ id : EnvironmentId, id ∈ [id] := List.mem_singleton_self
  have hshown₁ : id₁ ∉ [id₂] := fun h => hne (List.mem_singleton.mp h)
  have hshown₂ : id₂ ∉ [id₁] := fun h => hne (List.mem_singleton.mp h).symm
  -- Each of them first.
  obtain ⟨hown₁, hhidden₁⟩ := applyUpdate_hidden hown (hself id₁) v₁ u₁
  obtain ⟨hown₂, hhidden₂⟩ := applyUpdate_hidden hown (hself id₂) v₂ u₂
  -- Each of them second, where it comes to what it came to when it was first.
  obtain ⟨hresult₁, hleft₁, hreads₁, hwrites₁⟩ :=
    applyUpdate_shown hown hown₂ hshown₁ hhidden₂ v₁ u₁
  obtain ⟨hresult₂, hleft₂, hreads₂, hwrites₂⟩ :=
    applyUpdate_shown hown hown₁ hshown₂ hhidden₁ v₂ u₂
  obtain ⟨-, hlast₁⟩ := applyUpdate_hidden hown₂ (hself id₁) v₁ u₁
  obtain ⟨-, hlast₂⟩ := applyUpdate_hidden hown₁ (hself id₂) v₂ u₂
  refine ⟨hresult₁, hresult₂, shuffled_of_without hne ?_ ?_, ?_, ?_⟩
  · rw [hlast₁, hleft₂]
  · rw [hleft₁, hlast₂]
  · omega
  · omega

end Counted

/-! ## Section 4: Every store -/

namespace Relations

variable {σ τ ρ : Type} [RelationStore σ] [RelationStore τ]

/-- An update that comes to the same in the store gives the same result, if those downstream answer
by what they are told. -/
theorem update_result {r : Refresher ρ} (hr : ∀ e d d', (r e d).1 = (r e d').1) {v : Visiting}
    {id : EnvironmentId} {u : Update} {s s' : σ}
    (h : (applyUpdate v id u s').1 = (applyUpdate v id u s).1) (d d' : ρ) :
    (update v r id u (s', d')).1 = (update v r id u (s, d)).1 := by
  rcases hrun : applyUpdate v id u s with ⟨result, s₁⟩
  rcases hrun' : applyUpdate v id u s' with ⟨result', s₁'⟩
  rw [hrun, hrun'] at h
  obtain rfl : result' = result := h
  rcases result' with err | ⟨o, e⟩
  · rw [update_error hrun, update_error hrun']
  · cases ho : o.changed with
    | false => rw [update_unchanged hrun ho, update_unchanged hrun' ho]
    | true => rw [update_changed hrun ho, update_changed hrun' ho, hr e d' d]

/-- Whether two updates can be made in either order may be seen on the image of a store. -/
theorem interchange_iff {φ : σ → τ} (hφ : StoreMap φ) {alike : τ → τ → Prop} {r : Refresher ρ}
    {id₁ id₂ : EnvironmentId} {v₁ v₂ : Visiting} {u₁ u₂ : Update} {s : σ} {d : ρ} :
    Interchange alike (update v₁ r id₁ u₁) (update v₂ r id₂ u₂) (φ s, d) ↔
      Interchange (fun s s' => alike (φ s) (φ s')) (update v₁ r id₁ u₁) (update v₂ r id₂ u₂)
        (s, d) := by
  have hrun : ∀ v id u (t : σ × ρ), update v r id u (alongside ρ φ t) =
      ((update v r id u t).1, alongside ρ φ (update v r id u t).2) :=
    fun v id u => hφ.update v r id u
  have hstart : (φ s, d) = alongside ρ φ (s, d) := rfl
  constructor
  · rintro ⟨hfirst, hsecond, hstore⟩
    simp only [hstart, hrun] at hfirst hsecond hstore
    exact ⟨hfirst, hsecond, hstore⟩
  · rintro ⟨hfirst, hsecond, hstore⟩
    refine ⟨?_, ?_, ?_⟩
    · simpa only [hstart, hrun] using hfirst
    · simpa only [hstart, hrun] using hsecond
    · simp only [hstart, hrun]
      exact hstore

section Counted

variable {r : Refresher ρ} (hr : ∀ e d d', (r e d).1 = (r e d').1) {id₁ id₂ : EnvironmentId}
  (hne : id₁ ≠ id₂) (v₁ v₂ : Visiting) (u₁ u₂ : Update)

include hr hne

theorem interchange_counted {c : Counted Shelf} (hown : c.store.Own) (d : ρ) :
    Interchange Counted.Shuffled (update v₁ r id₁ u₁) (update v₂ r id₂ u₂) (c, d) := by
  obtain ⟨hfirst, hsecond, hstore⟩ := Counted.applyUpdate_interchange hown hne v₁ v₂ u₁ u₂
  have hafter : ∀ v id u (t : Counted Shelf × ρ),
      (update v r id u t).2 = ((applyUpdate v id u t.1).2, (update v r id u t).2.2) :=
    fun v id u t => Prod.ext (update_store v r id u t.1 t.2) rfl
  refine ⟨?_, ?_, ?_⟩
  · rw [hafter v₂]
    exact update_result hr hfirst d _
  · rw [hafter v₁]
    exact update_result hr hsecond d _
  · rw [hafter v₁, hafter v₂, update_store, update_store]
    exact hstore

/-- Updates of different environments can be made in either order, on every store in memory and
inside a transaction of every database whose records lie under their own ids, if those downstream
answer by what they are told: each update gives the same result in both orders, and the two stores
at the end are the same but for the order in which edge groups list their members.  A store in
memory has been read and written as often in both orders. -/
theorem updates_interchange (d : ρ) :
    (∀ s : MemoryStore, Interchange (fun s s' => s.counted.Shuffled s'.counted)
      (update v₁ r id₁ u₁) (update v₂ r id₂ u₂) (s, d)) ∧
    ∀ db : Database, db.Own → Interchange (fun db db' => db.shelf.Shuffled db'.shelf)
      (update v₁ r id₁ u₁) (update v₂ r id₂ u₂) (db, d) := by
  constructor
  · intro s
    refine (interchange_iff MemoryStore.counted_storeMap).mp ?_
    exact interchange_counted hr hne v₁ v₂ u₁ u₂ s.own_shelf d
  · intro db hown
    -- A shelf can be counted, although the database is not.
    have hcounted := interchange_counted hr hne v₁ v₂ u₁ u₂
      (c := { store := db.shelf }) hown.shelf d
    have hshelf : Interchange Shelf.Shuffled (update v₁ r id₁ u₁) (update v₂ r id₂ u₂)
        (db.shelf, d) :=
      (interchange_iff (Counted.storeMap (σ := Shelf)) (s := { store := db.shelf })).mpr
        ⟨hcounted.first, hcounted.second, hcounted.store.store⟩
    exact (interchange_iff Database.storeMap).mp hshelf

end Counted

/-- Two environments and an edge group that neither of them is in. -/
def meeting : MemoryStore :=
  ((({} : MemoryStore).insertEdgeGroup { id := 3, name := "g" }).insertEnvironment
    { id := 1, name := "a" }).insertEnvironment { id := 2, name := "b" }

/-- Two environments join an edge group, and it lists them in the order in which they came; and a
database with a tag that does not decode. -/
theorem updates_interchange_meeting :
    Interchange (fun s s' => s.counted.Shuffled s'.counted)
        (update .ascending Refresher.silent 1 { edgeGroups := some [3] })
        (update .ascending Refresher.silent 2 { edgeGroups := some [3] }) (meeting, ()) ∧
      (∃ s s', update .ascending Refresher.silent 1 { edgeGroups := some [3] } (meeting, ()) =
          (.ok ⟨true, false, false, true⟩, (s, ())) ∧
        update .ascending Refresher.silent 2 { edgeGroups := some [3] } (s, ()) =
          (.ok ⟨true, false, false, true⟩, (s', ())) ∧
        s'.edgeGroups.get? 3 = some { id := 3, name := "g", members := [1, 2] }) ∧
      Database.damaged.Own ∧
      Interchange (fun db db' => db.shelf.Shuffled db'.shelf)
        (update .ascending Refresher.silent 1 { tags := some [9] })
        (update .ascending Refresher.silent 2 { edgeGroups := some [3] })
          (Database.damaged, ()) := by
  refine ⟨?_, ⟨_, _, rfl, rfl, rfl⟩, Database.damaged_own, ?_⟩
  · exact (updates_interchange (fun _ _ _ => rfl) (by decide) .ascending .ascending
      { edgeGroups := some [3] } { edgeGroups := some [3] } ()).1 meeting
  · exact (updates_interchange (fun _ _ _ => rfl) (by decide) .ascending .ascending
      { tags := some [9] } { edgeGroups := some [3] } ()).2 Database.damaged Database.damaged_own

end Relations

end EnvRegistry

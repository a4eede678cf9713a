import EnvRegistry.Proofs.Records
import EnvRegistry.Proofs.Refresh

/-! # What an update means

    `Meaning` says what an update of one environment comes to on a store that
    holds records and rejects nothing: when it fails, what it reports, which
    records change and how, and whom it tells.  Both stores give the update this
    meaning (`update_meaning`), whatever tags and environments say of each
    other, and in whatever order the update visits what it changes. -/

namespace EnvRegistry.Relations

variable {ρ : Type}

/-! ## Section 1: Model -/

/-- A tag that has to gain or lose the environment, or an edge group that has to gain it, is not
there. -/
def Blocked (R : Records) (u : Update) (e : Environment) : Prop :=
  (∃ tags, u.tags = some tags ∧
    ∃ t, (t ∈ tags ∧ t ∉ e.tagIds ∨ t ∈ e.tagIds ∧ t ∉ tags) ∧ R.tags.get? t = none) ∨
  ∃ groups, u.edgeGroups = some groups ∧
    ∃ g, g ∈ groups ∧ ¬ g ∈ R.memberships e.id ∧ R.edgeGroups.get? g = none

/-- The outcome says what differs between the update and the records. -/
structure Reports (R : Records) (u : Update) (e : Environment) (o : Outcome) : Prop where
  group : o.groupChanged = true ↔
    ∃ group, u.group = some group ∧ group ≠ GroupId.unset ∧ group ≠ e.groupId
  tags : o.tagsChanged = true ↔
    ∃ tags, u.tags = some tags ∧ KeySet.ofList tags ≠ KeySet.ofList e.tagIds
  edgeGroups : o.edgeGroupsChanged = true ↔
    ∃ groups, u.edgeGroups = some groups ∧ KeySet.ofList groups ≠ R.memberships e.id
  changed : o.changed = (o.groupChanged || o.tagsChanged || o.edgeGroupsChanged)

/-- The records after an update that changed something. -/
structure Updated (R : Records) (u : Update) (e : Environment) (R' : Records) : Prop where
  /-- The environment is as the update wants it, the tags in the order of the update. -/
  environments : ∀ id, R'.environments.get? id =
    if id = e.id then some (u.applyTo e) else R.environments.get? id
  tagsJoined : ∀ tags t tag, u.tags = some tags → t ∈ tags → t ∉ e.tagIds →
    R.tags.get? t = some tag → R'.tags.get? t = some (tag.addMember e.id)
  tagsLeft : ∀ tags t tag, u.tags = some tags → t ∉ tags → t ∈ e.tagIds →
    R.tags.get? t = some tag → R'.tags.get? t = some (tag.removeMember e.id)
  tagsKept : ∀ t, (∀ tags, u.tags = some tags → (t ∈ tags ↔ t ∈ e.tagIds)) →
    R'.tags.get? t = R.tags.get? t
  edgeGroupsJoined : ∀ groups g group, u.edgeGroups = some groups → g ∈ groups →
    ¬ g ∈ R.memberships e.id → R.edgeGroups.get? g = some group →
    R'.edgeGroups.get? g = some (group.addMember e.id)
  edgeGroupsLeft : ∀ groups g group, u.edgeGroups = some groups → g ∉ groups →
    g ∈ R.memberships e.id → R.edgeGroups.get? g = some group →
    R'.edgeGroups.get? g = some (group.removeMember e.id)
  edgeGroupsKept : ∀ g, (∀ groups, u.edgeGroups = some groups →
    (g ∈ groups ↔ g ∈ R.memberships e.id)) → R'.edgeGroups.get? g = R.edgeGroups.get? g
  /-- The environment is in the edge groups that the update asks for, and in no others. -/
  memberships : ∀ groups, u.edgeGroups = some groups → R'.memberships e.id = KeySet.ofList groups

/-- What an update of the environment `id` comes to, on a store with the records `R` and with those
downstream in the state `d`: `result`, `d'` and `calls` are the result, their state afterwards and
what they were told, and `holds` says which records the store holds afterwards. -/
structure Meaning (R : Records) (r : Refresher ρ) (d : ρ) (id : EnvironmentId) (u : Update)
    (result : Except RegistryError Outcome) (holds : Records → Prop) (d' : ρ)
    (calls : List Refresher.Call) : Prop where
  /-- There is no such environment. -/
  notFound : R.environments.get? id = none →
    result = .error (.notFound .environment id) ∧ holds R ∧ d' = d ∧ calls = []
  /-- The update fails before anyone is told exactly if a record is missing. -/
  fails : ∀ e, R.environments.get? id = some e →
    ((∃ err, result = .error err ∧ calls = []) ↔ Blocked R u e)
  /-- Otherwise it reports what differs.  If nothing does, then nothing is written and no one is
  told.  If something does, then it is written, and those downstream are told once, of the
  environment as it is now; the update fails only if they do. -/
  succeeds : ∀ e, R.environments.get? id = some e → ¬ Blocked R u e → ∃ o, Reports R u e o ∧
    (o.changed = false → result = .ok o ∧ holds R ∧ d' = d ∧ calls = []) ∧
    (o.changed = true → result = (r (u.applyTo e) d).1.map (fun _ => o) ∧
      (∃ R', Updated R u e R' ∧ holds R') ∧ d' = (r (u.applyTo e) d).2 ∧
      calls = [(u.applyTo e, (r (u.applyTo e) d).1)])

/-! ## Section 2: Failing and reporting -/

section Clear

variable {R : Records} {u : Update} {e : Environment}

theorem mem_ofList_ids {l : List UInt32} {id : UInt32} : id ∈ KeySet.ofList l ↔ id ∈ l :=
  KeySet.mem_ofList

/-- An update finds what it needs exactly if it is not blocked. -/
theorem clear_iff : u.Clear R.shelf e ↔ ¬ Blocked R u e := by
  -- A delta touches what only one of the two lists has; what both have is not looked for.
  constructor
  · rintro hclear (⟨tags, hu, t, ht, hnone⟩ | ⟨groups, hu, g, hg, hnew, hnone⟩)
    · have htouched : (u.tagDelta e).Touches t := by
        unfold Update.tagDelta
        rw [hu]
        simp only [Delta.touches_between, mem_ofList_ids]
        exact ht.symm
      exact (Records.open_iff rfl).mp (hclear.tags t htouched) hnone
    · have htouched : (u.edgeGroupDelta (R.shelf.memberships e.id)).Touches g := by
        unfold Update.edgeGroupDelta
        rw [hu, R.memberships_shelf]
        simp only [Delta.touches_between, mem_ofList_ids]
        exact .inr ⟨hg, hnew⟩
      exact (Records.open_iff rfl).mp (hclear.edgeGroups g htouched) hnone
  · intro hfree
    refine ⟨?_, fun _ => ⟨_, R.scan_shelf⟩, ?_, fun _ => List.not_mem_nil⟩
    · intro t ht
      refine (Records.open_iff rfl).mpr fun hnone => hfree (.inl ?_)
      unfold Update.tagDelta at ht
      split at ht
      · next tags hu =>
        rw [Delta.touches_between, mem_ofList_ids, mem_ofList_ids] at ht
        exact ⟨tags, hu, t, ht.symm, hnone⟩
      · exact absurd ht (Delta.not_touches_nothing t)
    · intro g hg
      refine (Records.open_iff rfl).mpr fun hnone => hfree (.inr ?_)
      unfold Update.edgeGroupDelta at hg
      split at hg
      · next groups hu =>
        rw [R.memberships_shelf, Delta.touches_between, mem_ofList_ids] at hg
        rcases hg with ⟨hold, -⟩ | ⟨hg, hnew⟩
        · -- An edge group that the environment is in is there.
          obtain ⟨group, hgroup, -⟩ := Records.mem_memberships.mp hold
          rw [hnone] at hgroup
          cases hgroup
        · exact ⟨groups, hu, g, hg, hnew, hnone⟩
      · exact absurd hg (Delta.not_touches_nothing g)

theorem requested?_eq_some {group : Option GroupId} {g : GroupId} :
    GroupId.requested? group = some g ↔ group = some g ∧ g ≠ GroupId.unset := by
  rw [GroupId.requested?, Option.filter_eq_some_iff, decide_eq_true_iff]

theorem reports_outcomeOn (R : Records) (u : Update) (e : Environment) :
    Reports R u e (u.outcomeOn R.shelf e) where
  group := by
    show decide (e.groupId ≠ (u.applyTo e).groupId) = true ↔ _
    rw [decide_eq_true_iff, Update.applyTo]
    cases hg : GroupId.requested? u.group with
    | none =>
      refine iff_of_false (fun h => h rfl) ?_
      rintro ⟨group, hgroup, hset, -⟩
      rw [requested?_eq_some.mpr ⟨hgroup, hset⟩] at hg
      cases hg
    | some g =>
      obtain ⟨hgroup, hset⟩ := requested?_eq_some.mp hg
      constructor
      · intro hne
        exact ⟨g, hgroup, hset, Ne.symm hne⟩
      · rintro ⟨group, hu, -, hne⟩ heq
        rw [hgroup] at hu
        cases hu
        exact hne heq.symm
  tags := by
    show (!(u.tagDelta e).isEmpty) = true ↔ _
    unfold Update.tagDelta
    cases u.tags with
    | none =>
      refine iff_of_false Bool.false_ne_true ?_
      rintro ⟨_, h, _⟩
      cases h
    | some tags => simp [Delta.isEmpty_between]
  edgeGroups := by
    show (!(u.edgeGroupDelta (R.shelf.memberships e.id)).isEmpty) = true ↔ _
    unfold Update.edgeGroupDelta
    cases u.edgeGroups with
    | none =>
      refine iff_of_false Bool.false_ne_true ?_
      rintro ⟨_, h, _⟩
      cases h
    | some groups => simp [Delta.isEmpty_between, R.memberships_shelf]
  changed := rfl

end Clear

/-! ## Section 3: The records afterwards -/

section Afterwards

variable {R : Records} {u : Update} {e : Environment}

theorem not_mem_erase {id : UInt32} {l : List UInt32} (h : l.count id ≤ 1) : id ∉ l.erase id := by
  rw [← List.count_eq_zero, List.count_erase_self]
  omega

theorem get?_updated_edgeGroups (R : Records) (u : Update) (e : Environment) (g : EdgeGroupId) :
    (R.updated u e).edgeGroups.get? g =
      (R.edgeGroups.get? g).map ((u.edgeGroupDelta (R.memberships e.id)).onEdgeGroup e.id) :=
  Table.get?_map _ _ _

/-- An environment that is in no edge group twice is afterwards in those it wants to be in. -/
theorem memberships_updated (honce : ∀ group ∈ R.edgeGroups.values, group.members.count e.id ≤ 1)
    (hfree : ¬ Blocked R u e) {groups : List EdgeGroupId} (hu : u.edgeGroups = some groups) :
    (R.updated u e).memberships e.id = KeySet.ofList groups := by
  refine KeySet.ext_mem fun g => ?_
  rw [Records.mem_memberships, get?_updated_edgeGroups, mem_ofList_ids, Update.edgeGroupDelta, hu]
  cases hgroup : R.edgeGroups.get? g with
  | none =>
    -- An edge group that is asked for and not there would block the update.
    refine iff_of_false (fun ⟨_, h, _⟩ => by cases h) fun hg => hfree (.inr ⟨groups, hu, g, hg, ?_⟩)
    refine ⟨fun hold => ?_, hgroup⟩
    obtain ⟨group, h, -⟩ := Records.mem_memberships.mp hold
    rw [hgroup] at h
    cases h
  | some group =>
    have hid : group.id = g := R.edgeGroupsKeyed g group hgroup
    have hmember : g ∈ R.memberships e.id ↔ e.id ∈ group.members := by
      rw [Records.mem_memberships, hgroup]
      simp
    simp only [Option.map_some, Option.some.injEq, exists_eq_left', Delta.onEdgeGroup,
      Delta.on, hid,
      Delta.mem_toRemove_between, Delta.mem_toAdd_between, mem_ofList_ids, hmember]
    by_cases hold : e.id ∈ group.members
    · by_cases hg : g ∈ groups
      · simp [hold, hg]
      · -- One mention is taken away, and there is no other.
        have hvalue : group ∈ R.edgeGroups.values := Table.mem_values.mpr ⟨g, hgroup⟩
        simp [hold, hg, EdgeGroup.removeMember, not_mem_erase (honce group hvalue)]
    · by_cases hg : g ∈ groups
      · simp [hold, hg, EdgeGroup.addMember]
      · simp [hold, hg]

theorem updated_updated (honce : ∀ group ∈ R.edgeGroups.values, group.members.count e.id ≤ 1)
    (hfree : ¬ Blocked R u e) : Updated R u e (R.updated u e) where
  environments id := Table.get?_insert _ _ _ _
  tagsJoined := by
    intro tags t tag hu ht hnew htag
    have hjoined : t ∈ (u.tagDelta e).toAdd := by
      rw [Update.tagDelta, hu]
      simp [ht, hnew]
    have hkept := u.tagDelta_disjoint e t hjoined
    exact (Delta.get?_joined R.tagsKeyed hjoined hkept).trans (congrArg _ htag)
  tagsLeft := by
    intro tags t tag hu ht hold htag
    have hleft : t ∈ (u.tagDelta e).toRemove := by
      rw [Update.tagDelta, hu]
      simp [ht, hold]
    exact (Delta.get?_left R.tagsKeyed hleft).trans (congrArg _ htag)
  tagsKept := by
    intro t hsame
    refine Delta.get?_untouched R.tagsKeyed ?_
    unfold Update.tagDelta
    cases hu : u.tags with
    | none => exact Delta.not_touches_nothing t
    | some tags => simp [Delta.touches_between, hsame tags hu]
  edgeGroupsJoined := by
    intro groups g group hu hg hnew hgroup
    have hjoined : g ∈ (u.edgeGroupDelta (R.memberships e.id)).toAdd := by
      rw [Update.edgeGroupDelta, hu]
      simp [hg, hnew]
    have hkept := u.edgeGroupDelta_disjoint _ g hjoined
    exact (Delta.get?_joined R.edgeGroupsKeyed hjoined hkept).trans (congrArg _ hgroup)
  edgeGroupsLeft := by
    intro groups g group hu hg hold hgroup
    have hleft : g ∈ (u.edgeGroupDelta (R.memberships e.id)).toRemove := by
      rw [Update.edgeGroupDelta, hu]
      simp [hg, hold]
    exact (Delta.get?_left R.edgeGroupsKeyed hleft).trans (congrArg _ hgroup)
  edgeGroupsKept := by
    intro g hsame
    refine Delta.get?_untouched R.edgeGroupsKeyed ?_
    unfold Update.edgeGroupDelta
    cases hu : u.edgeGroups with
    | none => exact Delta.not_touches_nothing g
    | some groups => simp [Delta.touches_between, hsame groups hu]
  memberships _ hu := memberships_updated honce hfree hu

/-- An update that changes something takes a shelf with records to a shelf with records. -/
theorem shelf_updated (ho : (u.outcomeOn R.shelf e).changed = true) :
    R.shelf.updated u e = (R.updated u e).shelf := by
  unfold Shelf.updated
  simp only [ho, if_true]
  rw [Records.updated, Records.shelf_putEnvironment, Records.shelf_related, R.memberships_shelf]

end Afterwards

/-! ## Section 4: Every store -/

section EveryStore

variable {σ : Type} [RelationStore σ] {φ : σ → Shelf} {s : σ} {R : Records}

/-- What is written on a store that looks like a shelf with records. -/
theorem applyUpdate_records (hφ : StoreMap φ) (hs : φ s = R.shelf) (v : Visiting)
    (id : EnvironmentId) (u : Update) :
    (R.environments.get? id = none ∧ ∃ s', φ s' = R.shelf ∧
        applyUpdate v id u s = (.error (.notFound .environment id), s')) ∨
      ∃ e, R.environments.get? id = some e ∧
        (Blocked R u e ∧ (∃ err s', err.OfStore ∧ applyUpdate v id u s = (.error err, s')) ∨
          ¬ Blocked R u e ∧ ∃ s',
            φ s' = (if (u.outcomeOn R.shelf e).changed then (R.updated u e).shelf else R.shelf) ∧
            applyUpdate v id u s = (.ok (u.outcomeOn R.shelf e, u.applyTo e), s')) := by
  have hcommutes := hφ.applyUpdate v id u s
  rcases hrun : applyUpdate v id u s with ⟨result, s'⟩
  rw [hs, hrun] at hcommutes
  -- The environment cannot be read, or all that is needed is there, or something is missing.
  rcases applyUpdate_cases R.own_shelf v id u with
    ⟨err, hread, hshelf⟩ | ⟨e, hread, ⟨hclear, hshelf⟩ | ⟨hnot, _, _, err, _, _, _, herr, hshelf⟩⟩
  · rw [hshelf] at hcommutes
    obtain ⟨hresult, hs'⟩ : .error err = result ∧ R.shelf = φ s' := Prod.mk.inj hcommutes
    obtain ⟨hnone, rfl⟩ := Records.look_error rfl hread
    rw [← hresult]
    exact .inl ⟨hnone, s', hs'.symm, rfl⟩
  · rw [hshelf] at hcommutes
    obtain ⟨hresult, hs'⟩ : .ok (u.outcomeOn R.shelf e, u.applyTo e) = result ∧
      R.shelf.updated u e = φ s' := Prod.mk.inj hcommutes
    rw [← hresult]
    refine .inr ⟨e, (Records.look_ok rfl).mp hread, .inr ⟨clear_iff.mp hclear, s', ?_, rfl⟩⟩
    rw [← hs']
    cases ho : (u.outcomeOn R.shelf e).changed with
    | true => exact shelf_updated ho
    | false => exact updated_unchanged ho
  · rw [hshelf] at hcommutes
    obtain ⟨hresult, -⟩ : .error err = result ∧ _ = φ s' := Prod.mk.inj hcommutes
    rw [clear_iff, Classical.not_not] at hnot
    rw [← hresult]
    exact .inr ⟨e, (Records.look_ok rfl).mp hread, .inl ⟨hnot, err, s', herr, rfl⟩⟩

/-- What an update that succeeds has found, reports and leaves. -/
theorem update_ok_records (hφ : StoreMap φ) (hs : φ s = R.shelf) {v : Visiting} {r : Refresher ρ}
    {id : EnvironmentId} {u : Update} {d d' : ρ} {o : Outcome} {s' : σ}
    (h : update v r id u (s, d) = (.ok o, (s', d'))) :
    ∃ e, R.environments.get? id = some e ∧ ¬ Blocked R u e ∧ o = u.outcomeOn R.shelf e ∧
      φ s' = if o.changed then (R.updated u e).shelf else R.shelf := by
  rcases applyUpdate_records hφ hs v id u with
    ⟨-, s₁, -, hrun⟩ | ⟨e, he, ⟨-, err, s₁, -, hrun⟩ | ⟨hfree, s₁, hs₁, hrun⟩⟩
  · rw [update_error hrun] at h
    cases h
  · rw [update_error hrun] at h
    cases h
  · refine ⟨e, he, hfree, ?_⟩
    have hstore := update_store v r id u s d
    rw [h, hrun] at hstore
    obtain rfl : s' = s₁ := hstore
    -- If anything was written, success means that those downstream have answered with success, too.
    obtain rfl : o = u.outcomeOn R.shelf e := by
      cases ho : (u.outcomeOn R.shelf e).changed with
      | false =>
        rw [update_unchanged hrun ho] at h
        exact (Except.ok.inj (Prod.mk.inj h).1).symm
      | true =>
        rw [update_changed hrun ho] at h
        have hmap := (Prod.mk.inj h).1
        cases hanswer : (r (u.applyTo e) d).1 with
        | error err =>
          rw [hanswer] at hmap
          cases hmap
        | ok _ =>
          rw [hanswer] at hmap
          exact (Except.ok.inj hmap).symm
    exact ⟨rfl, hs₁⟩

section Ways

variable {id : EnvironmentId} {u : Update} {e : Environment} {r : Refresher ρ} {d : ρ}
  {holds : Records → Prop}

/-- The environment is not there. -/
theorem Meaning.absent (hnone : R.environments.get? id = none) (hholds : holds R) :
    Meaning R r d id u (.error (.notFound .environment id)) holds d [] := by
  refine ⟨fun _ => ⟨rfl, hholds, rfl, rfl⟩, fun e he => ?_, fun e he => ?_⟩
  · rw [hnone] at he
    cases he
  · rw [hnone] at he
    cases he

/-- A record is missing. -/
theorem Meaning.blocked (he : R.environments.get? id = some e) (hblocked : Blocked R u e)
    (err : RegistryError) : Meaning R r d id u (.error err) holds d [] := by
  refine ⟨fun hnone => ?_, fun e' he' => ?_, fun e' he' hfree => ?_⟩
  · rw [hnone] at he
    cases he
  · rw [he] at he'
    cases he'
    exact iff_of_true ⟨err, rfl, rfl⟩ hblocked
  · rw [he] at he'
    cases he'
    exact absurd hblocked hfree

/-- Nothing differs. -/
theorem Meaning.same (he : R.environments.get? id = some e) (hfree : ¬ Blocked R u e)
    (ho : (u.outcomeOn R.shelf e).changed = false) (hholds : holds R) :
    Meaning R r d id u (.ok (u.outcomeOn R.shelf e)) holds d [] := by
  refine ⟨fun hnone => ?_, fun e' he' => ?_, fun e' he' _ => ?_⟩
  · rw [hnone] at he
    cases he
  · rw [he] at he'
    cases he'
    exact iff_of_false nofun hfree
  · rw [he] at he'
    cases he'
    refine ⟨_, reports_outcomeOn R u e, fun _ => ⟨rfl, hholds, rfl, rfl⟩, fun h => ?_⟩
    rw [ho] at h
    cases h

/-- Something differs, and it is written. -/
theorem Meaning.written (he : R.environments.get? id = some e) (hfree : ¬ Blocked R u e)
    (ho : (u.outcomeOn R.shelf e).changed = true)
    (honce : ∀ group ∈ R.edgeGroups.values, group.members.count e.id ≤ 1)
    (hholds : holds (R.updated u e)) :
    Meaning R r d id u ((r (u.applyTo e) d).1.map fun _ => u.outcomeOn R.shelf e) holds
      (r (u.applyTo e) d).2 [(u.applyTo e, (r (u.applyTo e) d).1)] := by
  refine ⟨fun hnone => ?_, fun e' he' => ?_, fun e' he' _ => ?_⟩
  · rw [hnone] at he
    cases he
  · rw [he] at he'
    cases he'
    exact iff_of_false nofun hfree
  · rw [he] at he'
    cases he'
    refine ⟨_, reports_outcomeOn R u e, fun h => ?_, fun _ => ⟨rfl, ?_, rfl, rfl⟩⟩
    · rw [ho] at h
      cases h
    · exact ⟨_, updated_updated honce hfree, hholds⟩

end Ways

/-- An update has its meaning on every store that looks like a shelf with records. -/
theorem meaning_of_storeMap (hφ : StoreMap φ) (hs : φ s = R.shelf) (id : EnvironmentId)
    (honce : ∀ group ∈ R.edgeGroups.values, group.members.count id ≤ 1) (v : Visiting)
    (r : Refresher ρ) (d : ρ) (u : Update) :
    Meaning R r d id u (update v r.recorded id u (s, (d, []))).1
      (fun R' => φ (update v r.recorded id u (s, (d, []))).2.1 = R'.shelf)
      (update v r.recorded id u (s, (d, []))).2.2.1
      (update v r.recorded id u (s, (d, []))).2.2.2 := by
  rcases applyUpdate_records hφ hs v id u with
    ⟨hnone, s', hs', hrun⟩ | ⟨e, he, ⟨hblocked, err, s', _, hrun⟩ | ⟨hfree, s', hs', hrun⟩⟩
  · rw [update_error hrun]
    exact .absent hnone hs'
  · rw [update_error hrun]
    exact .blocked he hblocked err
  · have hid : e.id = id := R.environmentsKeyed id e he
    rw [← hid] at honce
    cases ho : (u.outcomeOn R.shelf e).changed with
    | false =>
      rw [ho] at hs'
      rw [update_unchanged hrun ho]
      exact .same he hfree ho hs'
    | true =>
      rw [ho] at hs'
      rw [update_changed hrun ho]
      exact .written he hfree ho honce hs'

end EveryStore

/-! ## Section 5: Both stores -/

/-- An update that succeeds and changes nothing leaves every text of a database as it was. -/
theorem update_ok_unchanged {db db' : Database} {v : Visiting} {r : Refresher ρ} {d d' : ρ}
    {id : EnvironmentId} {u : Update} {o : Outcome}
    (h : update v r id u (db, d) = (.ok o, (db', d'))) (ho : o.changed = false) : db = db' := by
  have hreads : ∀ {α : Type} (f : Database → Except RegistryError α),
      Maintains (db = ·) (fun _ => True) (Database.query f) := fun _ _ h => ⟨h, fun _ _ => trivial⟩
  exact update_reads (fun _ => hreads _) (hreads _) h ho rfl

/-- The meaning of an update, on a store in memory that rejects nothing and inside a transaction
of a database, for any records of which no edge group lists the environment twice. -/
theorem update_meaning (R : Records) (id : EnvironmentId)
    (honce : ∀ group ∈ R.edgeGroups.values, group.members.count id ≤ 1) (v : Visiting)
    (r : Refresher ρ) (d d' : ρ) (u : Update) (result : Except RegistryError Outcome)
    (calls : List Refresher.Call) :
    (∀ s s' : MemoryStore, s.Holds R →
      update v r.recorded id u (s, (d, [])) = (result, (s', (d', calls))) →
      Meaning R r d id u result s'.Holds d' calls) ∧
    ∀ db db' : Database, db.Holds R →
      update v r.recorded id u (db, (d, [])) = (result, (db', (d', calls))) →
      Meaning R r d id u result db'.Holds d' calls ∧
        ∀ o, result = .ok o → o.changed = false → db' = db := by
  constructor
  · intro s s' hs hrun
    have hmeaning := meaning_of_storeMap MemoryStore.storeMap hs id honce v r d u
    rw [hrun] at hmeaning
    exact hmeaning
  · intro db db' hdb hrun
    have hmeaning := meaning_of_storeMap Database.storeMap hdb id honce v r d u
    rw [hrun] at hmeaning
    refine ⟨hmeaning, fun o hresult ho => ?_⟩
    rw [hresult] at hrun
    exact (update_ok_unchanged hrun ho).symm

/-- An environment that wears one of two tags and is in an edge group. -/
def sample : Records :=
  ((({} : Records).putTag { id := 1, name := "x", members := .ofList [1] }).putTag
    { id := 2, name := "y" }).putEdgeGroup { id := 3, name := "g", members := [1] }
    |>.putEnvironment { id := 1, name := "a", tagIds := [1] }

/-- The sample in memory. -/
def sampleStore : MemoryStore :=
  ((({} : MemoryStore).insertTag { id := 1, name := "x", members := .ofList [1] }).insertTag
    { id := 2, name := "y" }).insertEdgeGroup { id := 3, name := "g", members := [1] }
    |>.insertEnvironment { id := 1, name := "a", tagIds := [1] }

/-- The sample as texts. -/
def sampleDatabase : Database :=
  ((({} : Database).putTag { id := 1, name := "x", members := .ofList [1] }).putTag
    { id := 2, name := "y" }).putEdgeGroup { id := 3, name := "g", members := [1] }
    |>.putEnvironment { id := 1, name := "a", tagIds := [1] }

theorem sampleDatabase_holds : sampleDatabase.Holds sample :=
  (((Database.holds_empty.putTag _).putTag _).putEdgeGroup _).putEnvironment _

/-- Changing the tag and leaving the edge group, in memory and in a database. -/
theorem update_meaning_sample :
    (∃ s', update .ascending Refresher.silent.recorded 1
        { tags := some [2], edgeGroups := some [] } (sampleStore, ((), [])) =
        (.ok ⟨true, false, true, true⟩,
          (s', ((), [({ id := 1, name := "a", tagIds := [2] }, .ok ())]))) ∧
      Meaning sample Refresher.silent () 1 { tags := some [2], edgeGroups := some [] }
        (.ok ⟨true, false, true, true⟩) s'.Holds ()
        [({ id := 1, name := "a", tagIds := [2] }, .ok ())]) ∧
    ∃ result db' calls, update .ascending Refresher.silent.recorded 1
        { tags := some [2], edgeGroups := some [] } (sampleDatabase, ((), [])) =
        (result, (db', ((), calls))) ∧
      Meaning sample Refresher.silent () 1 { tags := some [2], edgeGroups := some [] } result
        db'.Holds () calls := by
  have honce : ∀ group ∈ sample.edgeGroups.values, group.members.count 1 ≤ 1 := by decide
  refine ⟨⟨_, rfl, ?_⟩, ?_⟩
  · exact (update_meaning sample 1 honce .ascending .silent () () _ _ _).1 sampleStore _ rfl rfl
  · rcases hrun : update .ascending Refresher.silent.recorded 1
      { tags := some [2], edgeGroups := some [] } (sampleDatabase, ((), [])) with
      ⟨result, db', ⟨⟩, calls⟩
    exact ⟨result, db', calls, rfl, ((update_meaning sample 1 honce .ascending .silent () () _ _
      _).2 sampleDatabase db' sampleDatabase_holds hrun).1⟩

end EnvRegistry.Relations

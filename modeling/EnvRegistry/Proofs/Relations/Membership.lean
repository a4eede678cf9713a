import EnvRegistry.Proofs.Relations.Retry
import EnvRegistry.Proofs.Store.Counted

/-! # What an edge group lists

    An edge group keeps its members in a list, and the list may hold an
    environment more than once.  Whether the environment is in the edge group
    depends on whether it is listed at all, leaving takes its first entry away,
    and joining adds one at the end.  Reconciling therefore takes one entry from
    every edge group that is not wanted, whatever it has (`listings_reconciled`).

    So the edge groups of the environment are the wanted ones and those that
    listed it more than once (`reconcileEdgeGroups_reconciled`).  Reconciling
    delivers what is wanted, and has nothing to do a second time, exactly if
    there are none of the latter.  There may be some
    (`reconcileEdgeGroups_leaves_repeated`). -/

namespace EnvRegistry

open Relations

/-! ## Section 1: Model -/

/-- How often an edge group, if there is one, lists an environment. -/
def listings (group? : Option EdgeGroup) (id : EnvironmentId) : Nat :=
  match group? with
  | some group => group.members.count id
  | none => 0

/-- What reconciling the edge groups of an environment brings about: `before` and `after` say how
often each edge group lists it, `s` is the store afterwards, and `Quiet` relates the stores between
which nothing is written. -/
structure Reconciled {σ : Type} [RelationStore σ] (desired : List EdgeGroupId) (id : EnvironmentId)
    (before after : EdgeGroupId → Nat) (s : σ) (Quiet : σ → σ → Prop) : Prop where
  /-- A wanted edge group lists the environment, and any other has lost one entry. -/
  listings : ∀ g, after g = if g ∈ desired then max 1 (before g) else before g - 1
  /-- The environment is in the wanted edge groups, and in those that listed it more than once. -/
  memberships : ∃ groups t, environmentEdgeGroups id s = (.ok groups, t) ∧
    ∀ g, g ∈ groups ↔ g ∈ desired ∨ 2 ≤ before g
  /-- These are the wanted ones exactly if no other edge group listed it more than once. -/
  exact_iff : (∃ t, environmentEdgeGroups id s = (.ok (.ofList desired), t)) ↔
    ∀ g, g ∉ desired → before g ≤ 1
  /-- Exactly then there is nothing to do a second time, and nothing is written. -/
  again : ∀ v, ∃ changed t, reconcileEdgeGroups v desired id s = (.ok changed, t) ∧
    (changed = false ↔ ∀ g, g ∉ desired → before g ≤ 1) ∧ (changed = false → Quiet s t)

namespace Shelf

/-- How often each edge group that can be read lists an environment. -/
def listings (s : Shelf) (id : EnvironmentId) (g : EdgeGroupId) : Nat :=
  EnvRegistry.listings ((s.edgeGroups.get? g).bind Except.toOption) id

variable {s s' : Shelf} {id : EnvironmentId} {g : EdgeGroupId}

/-! ## Section 2: Entries -/

/-- An environment is in the edge groups that list it. -/
theorem mem_memberships (hown : Rack.edgeGroups.Own s) :
    g ∈ s.memberships id ↔ 0 < s.listings id g := by
  unfold memberships Relations.memberships groups listings
  rw [KeySet.mem_ofList, List.mem_map]
  -- A cell that cannot be read is no edge group on the left and lists nobody on the right.
  constructor
  · rintro ⟨group, hgroup, rfl⟩
    obtain ⟨hread, hmember⟩ := List.mem_filter.mp hgroup
    obtain ⟨cell, hcell, hsome⟩ := List.mem_filterMap.mp hread
    obtain ⟨j, hj⟩ := Table.mem_values.mp hcell
    cases cell with
    | error fault => cases hsome
    | ok a =>
      cases hsome
      have hkey : group.id = j := hown j group hj
      rw [hkey, hj]
      exact List.count_pos_iff.mpr (List.contains_iff_mem.mp hmember)
  · intro hlisted
    cases hget : s.edgeGroups.get? g with
    | none =>
      rw [hget] at hlisted
      exact absurd hlisted (Nat.lt_irrefl 0)
    | some cell =>
      rw [hget] at hlisted
      cases cell with
      | error fault => exact absurd hlisted (Nat.lt_irrefl 0)
      | ok group =>
        have hmember : id ∈ group.members := List.count_pos_iff.mp hlisted
        refine ⟨group, List.mem_filter.mpr ⟨?_, List.contains_iff_mem.mpr hmember⟩,
          hown g group hget⟩
        exact List.mem_filterMap.mpr ⟨.ok group, Table.mem_values.mpr ⟨g, hget⟩, rfl⟩

/-- What carrying out the delta does to the entries of one edge group. -/
theorem count_onEdgeGroup_between {desired current : KeySet EdgeGroupId} {group : EdgeGroup}
    (hcurrent : group.id ∈ current ↔ id ∈ group.members) :
    ((Delta.between desired current).onEdgeGroup id group).members.count id =
      if group.id ∈ desired then max 1 (group.members.count id)
      else group.members.count id - 1 := by
  -- The edge group lists the environment or not, and is wanted or not.
  by_cases hlisted : id ∈ group.members
  · have hin := hcurrent.mpr hlisted
    have hpos : 0 < group.members.count id := List.count_pos_iff.mpr hlisted
    by_cases hwanted : group.id ∈ desired
    · have hsame : ¬ (Delta.between desired current).Touches group.id := by
        rw [Delta.touches_between]
        rintro (⟨-, h⟩ | ⟨-, h⟩)
        · exact h hwanted
        · exact h hin
      rw [Delta.onEdgeGroup, Delta.on_of_not_touches hsame, if_pos hwanted]
      omega
    · have hgone : (Delta.between desired current).onEdgeGroup id group = group.removeMember id :=
        if_pos (Delta.mem_toRemove_between.mpr ⟨hin, hwanted⟩)
      rw [hgone, if_neg hwanted]
      exact List.count_erase_self
  · have hout : ¬ group.id ∈ current := fun h => hlisted (hcurrent.mp h)
    have hnone : group.members.count id = 0 := List.count_eq_zero.mpr hlisted
    have hkept : ¬ group.id ∈ (Delta.between desired current).toRemove := by
      intro h
      exact hout (Delta.mem_toRemove_between.mp h).1
    by_cases hwanted : group.id ∈ desired
    · have hcome : (Delta.between desired current).onEdgeGroup id group = group.addMember id := by
        rw [Delta.onEdgeGroup, Delta.on, if_neg hkept,
          if_pos (Delta.mem_toAdd_between.mpr ⟨hwanted, hout⟩)]
      rw [hcome, if_pos hwanted, hnone]
      show (group.members ++ [id]).count id = 1
      rw [List.count_append, hnone, List.count_singleton_self]
    · have hsame : ¬ (Delta.between desired current).Touches group.id := by
        rw [Delta.touches_between]
        rintro (⟨h, -⟩ | ⟨h, -⟩)
        · exact hout h
        · exact hwanted h
      rw [Delta.onEdgeGroup, Delta.on_of_not_touches hsame, if_neg hwanted, hnone]

/-! ## Section 3: Reconciling -/

variable {v : Visiting} {desired : List EdgeGroupId} {changed : Bool}

/-- If reconciling succeeds, then every edge group that changes hands is open and the whole delta is
carried out. -/
theorem reconcileEdgeGroups_succeeds (hown : Rack.edgeGroups.Own s)
    (h : reconcileEdgeGroups v desired id s = (.ok changed, s')) :
    (∃ groups, s.scan = .ok groups) ∧
      (∀ g, (Delta.between (.ofList desired) (s.memberships id)).Touches g →
        Rack.edgeGroups.Open s g) ∧
      changed = !(Delta.between (.ofList desired) (s.memberships id)).isEmpty ∧
      s' = Rack.edgeGroups.change
        ((Delta.between (.ofList desired) (s.memberships id)).onEdgeGroup id) s := by
  have hphase : edgeGroupPhase v { edgeGroups := some desired } id s = (.ok changed, s') := h
  rcases edgeGroupPhase_cases hown v { edgeGroups := some desired } id with
    ⟨⟨hscan, hopen⟩, hrun⟩ | ⟨-, done, err, -, -, hrun⟩
  · rw [hphase] at hrun
    cases hrun
    exact ⟨hscan rfl, hopen, rfl, rfl⟩
  · rw [hphase] at hrun
    cases hrun

/-- Reconciling that can go through does. -/
theorem reconcileEdgeGroups_of_open (hown : Rack.edgeGroups.Own s) {groups : List EdgeGroup}
    (hscan : s.scan = .ok groups)
    (hopen : ∀ g, (Delta.between (.ofList desired) (s.memberships id)).Touches g →
      Rack.edgeGroups.Open s g) (v : Visiting) :
    reconcileEdgeGroups v desired id s =
      (.ok (!(Delta.between (.ofList desired) (s.memberships id)).isEmpty),
        Rack.edgeGroups.change
          ((Delta.between (.ofList desired) (s.memberships id)).onEdgeGroup id) s) := by
  rcases edgeGroupPhase_cases hown v { edgeGroups := some desired } id with ⟨-, hrun⟩ | ⟨hnot, -⟩
  · exact hrun
  · exact absurd ⟨fun _ => ⟨groups, hscan⟩, hopen⟩ hnot

/-- Every wanted edge group can be read after all. -/
theorem get?_of_open (hopen : Rack.edgeGroups.Open s g) :
    ∃ group, s.edgeGroups.get? g = some (.ok group) := by
  obtain ⟨⟨group, hlook⟩, -⟩ := hopen
  exact ⟨group, (Rack.look_ok.mp hlook).2⟩

/-- Reconciling that succeeds sees to it that every wanted edge group lists the environment, and
takes one entry from every other. -/
theorem listings_reconciled (hown : Rack.edgeGroups.Own s)
    (h : reconcileEdgeGroups v desired id s = (.ok changed, s')) (g : EdgeGroupId) :
    s'.listings id g = if g ∈ desired then max 1 (s.listings id g) else s.listings id g - 1 := by
  obtain ⟨-, hopen, -, rfl⟩ := reconcileEdgeGroups_succeeds hown h
  have hmember : g ∈ s.memberships id ↔ 0 < s.listings id g := mem_memberships hown
  have hget : (Rack.edgeGroups.change
      ((Delta.between (.ofList desired) (s.memberships id)).onEdgeGroup
      id) s).edgeGroups.get? g = (s.edgeGroups.get? g).map (Except.map _) := Table.get?_map _ _ _
  unfold listings at hmember ⊢
  rw [hget]
  cases hcell : (s.edgeGroups.get? g).bind Except.toOption with
  | none =>
    -- There is nothing to read, so the edge group cannot be wanted.
    have hnone : ((s.edgeGroups.get? g).map (Except.map ((Delta.between (.ofList desired)
        (s.memberships id)).onEdgeGroup id))).bind Except.toOption = none := by
      rcases hlies : s.edgeGroups.get? g with _ | ⟨fault | group⟩
      · rfl
      · rfl
      · rw [hlies] at hcell
        cases hcell
    have hunwanted : g ∉ desired := by
      intro hwanted
      rw [hcell] at hmember
      have htouched : (Delta.between (.ofList desired) (s.memberships id)).Touches g :=
        .inr (Delta.mem_toAdd_between.mpr ⟨mem_ofList_ids.mpr hwanted,
          fun hin => absurd (hmember.mp hin) (Nat.lt_irrefl 0)⟩)
      obtain ⟨group, hgroup⟩ := get?_of_open (hopen g htouched)
      rw [hgroup] at hcell
      cases hcell
    rw [hnone, if_neg hunwanted]
    rfl
  | some group =>
    have hgroup : s.edgeGroups.get? g = some (.ok group) := by
      rcases hlies : s.edgeGroups.get? g with _ | ⟨fault | group'⟩
      · rw [hlies] at hcell
        cases hcell
      · rw [hlies] at hcell
        cases hcell
      · rw [hlies] at hcell
        cases hcell
        rfl
    obtain rfl : group.id = g := hown g group hgroup
    have hcurrent : group.id ∈ s.memberships id ↔ id ∈ group.members := by
      rw [hmember, hcell]
      exact List.count_pos_iff
    have hcount : ((Delta.between (.ofList desired) (s.memberships id)).onEdgeGroup id
        group).members.count id = _ := count_onEdgeGroup_between hcurrent
    simp only [mem_ofList_ids] at hcount
    rw [hgroup]
    exact hcount

/-- Reconciling that succeeds leaves a store that can be listed. -/
theorem scan_reconciled {f : EdgeGroup → EdgeGroup} {groups : List EdgeGroup}
    (h : s.scan = .ok groups) : ∃ groups', (Rack.edgeGroups.change f s).scan = .ok groups' := by
  obtain ⟨hreads, hvalues⟩ := scan_ok.mp h
  refine ⟨groups.map f, scan_ok.mpr ⟨hreads, ?_⟩⟩
  show (s.edgeGroups.map (Except.map f)).values = _
  rw [Table.values_map, hvalues, List.map_map, List.map_map]
  rfl

/-- The edge groups afterwards are the wanted ones exactly if no other listed the environment more
than once. -/
theorem memberships_eq_iff {before : EdgeGroupId → Nat} {groups : KeySet EdgeGroupId}
    (h : ∀ g, g ∈ groups ↔ g ∈ desired ∨ 2 ≤ before g) :
    KeySet.ofList desired = groups ↔ ∀ g, g ∉ desired → before g ≤ 1 := by
  constructor
  · rintro rfl g hunwanted
    by_contra hmore
    exact hunwanted (mem_ofList_ids.mp ((h g).mpr (.inr (by omega))))
  · intro honce
    refine KeySet.ext_mem fun g => ?_
    rw [h g, mem_ofList_ids]
    constructor
    · exact .inl
    · rintro (hwanted | hmore)
      · exact hwanted
      · by_contra hunwanted
        have := honce g hunwanted
        omega

end Shelf

/-! ## Section 4: Every store -/

section Store

variable {σ : Type} [RelationStore σ] {φ : σ → Shelf} {s s' t : σ} {v : Visiting}
  {desired : List EdgeGroupId} {id : EnvironmentId} {changed : Bool}

/-- Reconciling that finds nothing to do has listed the edge groups and no more. -/
theorem reconcileEdgeGroups_idle (h : reconcileEdgeGroups v desired id s = (.ok false, t)) :
    t = ((RelationStore.edgeGroups : StoreM σ _) s).2 := by
  obtain ⟨current, s₁, hcurrent, hrest⟩ := StoreM.bind_eq_ok.mp h
  obtain ⟨groups, s₂, hlist, hpure⟩ := StoreM.bind_eq_ok.mp hcurrent
  cases hpure
  rw [hlist]
  cases hdelta : delta (KeySet.ofList desired) (memberships groups id) with
  | none =>
    rw [hdelta] at hrest
    cases hrest
    rfl
  | some d =>
    -- Whatever is changed, it is reported.
    rw [hdelta] at hrest
    obtain ⟨_, s₃, -, hadd⟩ := StoreM.bind_eq_ok.mp hrest
    obtain ⟨_, s₄, -, hreport⟩ := StoreM.bind_eq_ok.mp hadd
    cases hreport

/-- What reconciling brings about on a store that is seen as a shelf. -/
theorem reconciled_of_storeMap (hφ : StoreMap φ) (hown : Rack.edgeGroups.Own (φ s))
    (h : reconcileEdgeGroups v desired id s = (.ok changed, s')) {Q : σ → σ → Prop}
    (hquiet : ∀ t, Q t ((RelationStore.edgeGroups : StoreM σ _) t).2) :
    Reconciled desired id ((φ s).listings id) ((φ s').listings id) s' Q := by
  -- Everything is worked out on the shelf that the store is seen as.
  have hshelf : reconcileEdgeGroups v desired id (φ s) = (.ok changed, φ s') := by
    rw [hφ.reconcileEdgeGroups v desired id s, h]
  have hlistings := Shelf.listings_reconciled hown hshelf
  obtain ⟨⟨groups, hscan⟩, hopen, -, hs'⟩ := Shelf.reconcileEdgeGroups_succeeds hown hshelf
  have hown' : Rack.edgeGroups.Own (φ s') := by
    rw [hs']
    exact hown.change (k := .edgeGroups) fun _ => Delta.onEdgeGroup_id _ _ _
  obtain ⟨groups', hscan'⟩ : ∃ groups', (φ s').scan = .ok groups' := by
    rw [hs']
    exact Shelf.scan_reconciled hscan
  -- What lists the environment afterwards is wanted, or had listed it at least twice.
  have hmember : ∀ g, g ∈ (φ s').memberships id ↔ g ∈ desired ∨ 2 ≤ (φ s).listings id g := by
    intro g
    rw [Shelf.mem_memberships hown', hlistings g]
    by_cases hwanted : g ∈ desired
    · rw [if_pos hwanted]
      exact iff_of_true (Nat.lt_of_lt_of_le Nat.one_pos (Nat.le_max_left _ _)) (.inl hwanted)
    · rw [if_neg hwanted, or_iff_right hwanted]
      omega
  have hfound : ∀ t, environmentEdgeGroups id s' = t → t.1 = .ok ((φ s').memberships id) := by
    rintro t rfl
    have hmapped := hφ.environmentEdgeGroups id s'
    rw [environmentEdgeGroups_ok hscan'] at hmapped
    exact (congrArg Prod.fst hmapped).symm
  refine ⟨hlistings, ?_, ?_, fun w => ?_⟩
  · exact ⟨_, _, Prod.ext (hfound _ rfl) rfl, hmember⟩
  · rw [← Shelf.memberships_eq_iff hmember]
    constructor
    · rintro ⟨t, ht⟩
      exact Except.ok.inj (hfound _ ht)
    · intro hsame
      exact ⟨_, Prod.ext (by rw [hfound _ rfl, hsame]) rfl⟩
  · -- Whatever changes hands the second time is open, because it changed hands the first time.
    have hopen' : ∀ g, (Delta.between (.ofList desired) ((φ s').memberships id)).Touches g →
        Rack.edgeGroups.Open (φ s') g := by
      intro g hg
      rw [hs', Rack.open_change]
      refine hopen g ?_
      rw [Delta.touches_between, hmember, mem_ofList_ids] at hg
      rcases hg with ⟨hwanted | hmore, hunwanted⟩ | ⟨hwanted, hout⟩
      · exact absurd hwanted hunwanted
      · refine .inl (Delta.mem_toRemove_between.mpr ⟨(Shelf.mem_memberships hown).mpr ?_, ?_⟩)
        · omega
        · rwa [mem_ofList_ids]
      · exact absurd (.inl hwanted) hout
    have hrun := Shelf.reconcileEdgeGroups_of_open hown' hscan' hopen' w
    rw [hφ.reconcileEdgeGroups w desired id s'] at hrun
    rcases hagain : reconcileEdgeGroups w desired id s' with ⟨result, t⟩
    rw [hagain] at hrun
    obtain ⟨rfl, -⟩ := Prod.mk.inj hrun
    refine ⟨_, t, rfl, ?_, fun hidle => ?_⟩
    · rw [← Shelf.memberships_eq_iff hmember, Delta.isEmpty_between, Bool.not_eq_false',
        decide_eq_true_iff]
    · rw [hidle] at hagain
      rw [reconcileEdgeGroups_idle hagain]
      exact hquiet s'

end Store

/-! ## Section 5: Both stores -/

/-- What reconciling brings about in a store in memory, whatever it rejects, and inside a
transaction of a database whose records lie under their own ids. -/
theorem reconcileEdgeGroups_reconciled (v : Visiting) (desired : List EdgeGroupId)
    (id : EnvironmentId) (changed : Bool) :
    (∀ s s' : MemoryStore, reconcileEdgeGroups v desired id s = (.ok changed, s') →
      Reconciled desired id (fun g => listings (s.edgeGroups.get? g) id)
        (fun g => listings (s'.edgeGroups.get? g) id) s'
          fun s t => t = { s with reads := t.reads }) ∧
    ∀ c c' : Counted Database, c.store.Own →
      reconcileEdgeGroups v desired id c = (.ok changed, c') →
      Reconciled desired id (fun g => listings (c.store.edgeGroup g).toOption id)
        (fun g => listings (c'.store.edgeGroup g).toOption id) c'
        fun c t => t.store = c.store ∧ t.writes = c.writes := by
  constructor
  · intro s s' h
    have hlistings : ∀ (s : MemoryStore) g,
        s.shelf.listings id g = listings (s.edgeGroups.get? g) id := by
      intro s g
      have hget : s.shelf.edgeGroups.get? g = (s.edgeGroups.get? g).map .ok := Table.get?_map _ _ _
      rw [Shelf.listings, hget]
      cases s.edgeGroups.get? g with
      | none => rfl
      | some group => rfl
    have hmemory := reconciled_of_storeMap MemoryStore.storeMap s.own_shelf.edgeGroups h
      (Q := fun s t => t = { s with reads := t.reads }) fun t => by
        rw [MemoryStore.edgeGroups_state]
        rfl
    rw [funext (hlistings s), funext (hlistings s')] at hmemory
    exact hmemory
  · intro c c' hown h
    -- A record that does not decode lists nobody, on the shelf as in the database.
    have hlistings : ∀ (db : Database) g,
        db.shelf.listings id g = listings (db.edgeGroup g).toOption id := by
      intro db g
      have hget : db.shelf.edgeGroups.get? g =
        (db.edgeGroups.get? g).map (Database.cell (EdgeGroup.decoder .text)) := Table.get?_map _ _ _
      rw [Shelf.listings, hget, Database.edgeGroup, Database.readRecord]
      cases db.edgeGroups.get? g with
      | none => rfl
      | some text =>
        show _ = listings (Database.decodeRecord _ text).toOption id
        rw [Database.decodeRecord_eq, Option.map_some, Option.bind_some]
        cases Database.cell (EdgeGroup.decoder .text) text with
        | error fault => rfl
        | ok group => rfl
    have hdatabase := reconciled_of_storeMap (Counted.storeMap.comp Database.storeMap)
      hown.shelf.edgeGroups h (Q := fun c t => t.store = c.store ∧ t.writes = c.writes)
      fun t => ⟨rfl, rfl⟩
    have hview : ∀ c : Counted Database, ((Database.shelf ∘ Counted.store) c).listings id =
        fun g => listings (c.store.edgeGroup g).toOption id := fun c => funext (hlistings c.store)
    rw [hview, hview] at hdatabase
    exact hdatabase

/-- One edge group lists the environment twice and another one once. -/
def repeated : MemoryStore :=
  (({} : MemoryStore).insertEdgeGroup { id := 1, name := "g", members := [10, 10] }).insertEdgeGroup
    { id := 2, name := "h", members := [10] }

/-- None of them is wanted, and the environment stays in the first. -/
theorem reconcileEdgeGroups_reconciled_repeated : ∃ s',
    reconcileEdgeGroups .ascending [] 10 repeated = (.ok true, s') ∧
    Reconciled [] 10 (fun g => listings (repeated.edgeGroups.get? g) 10)
      (fun g => listings (s'.edgeGroups.get? g) 10) s' fun s t => t = { s with reads := t.reads } :=
  ⟨_, rfl, (reconcileEdgeGroups_reconciled .ascending [] 10 true).1 repeated _ rfl⟩

/-- Reconciling that succeeds need not deliver the wanted edge groups, and may have something to do
a second time. -/
theorem reconcileEdgeGroups_leaves_repeated : ∃ s' s'',
    reconcileEdgeGroups .ascending [] 10 repeated = (.ok true, s') ∧
    (environmentEdgeGroups 10 s').1 = .ok (.ofList [1]) ∧
    KeySet.ofList [1] ≠ (KeySet.ofList [] : KeySet EdgeGroupId) ∧
    reconcileEdgeGroups .ascending [] 10 s' = (.ok true, s'') ∧ s''.writes = s'.writes + 1 :=
  ⟨_, _, rfl, rfl, by decide, rfl, rfl⟩

end EnvRegistry

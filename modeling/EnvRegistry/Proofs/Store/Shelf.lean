import EnvRegistry.Proofs.Relations.Phases
import EnvRegistry.Proofs.Table

/-! # Shelves

    A `Shelf` is what the stores have in common: under an id it holds a record or
    the reason why the record is not given back, and it rejects some reads and
    writes.  It neither counts nor encodes.  Both stores map to shelves, so
    programs are analysed here once.

    The three kinds of record are treated alike.  A `Rack` says where a shelf
    keeps the records of one kind, and `Rack.mutate` reads a record of that
    kind, changes it and writes it back.  Such a step either does this
    (`Rack.mutate_open`) or fails and leaves the shelf as it was
    (`Rack.mutate_shut`), and which of the two it is does not change while
    records are changed (`Rack.open_change`). -/

namespace EnvRegistry

/-! ## Section 1: Model -/

/-- What lies under an id: a record, or why it cannot be given back. -/
abbrev Cell (α : Type) := Except StorageFault α

/-- The records of a store, and what the store rejects. -/
structure Shelf where
  environments : Table (Cell Environment)
  tags : Table (Cell Tag)
  edgeGroups : Table (Cell EdgeGroup)
  failingReads : List (EntityKind × UInt32) := []
  failingWrites : List (EntityKind × UInt32) := []
  failingScan : Bool := false

/-- Where a shelf keeps the records of one kind. -/
structure Rack (α : Type) where
  kind : EntityKind
  key : α → UInt32
  get : Shelf → Table (Cell α)
  set : Table (Cell α) → Shelf → Shelf
  get_set : ∀ t s, get (set t s) = t
  set_get : ∀ s, set (get s) s = s
  set_set : ∀ t u s, set t (set u s) = set t s
  failingReads_set : ∀ t s, (set t s).failingReads = s.failingReads
  failingWrites_set : ∀ t s, (set t s).failingWrites = s.failingWrites

namespace Rack

/-- Where the environments are. -/
def environments : Rack Environment where
  kind := .environment
  key := Environment.id
  get := Shelf.environments
  set t s := { s with environments := t }
  get_set _ _ := rfl
  set_get _ := rfl
  set_set _ _ _ := rfl
  failingReads_set _ _ := rfl
  failingWrites_set _ _ := rfl

/-- Where the tags are. -/
def tags : Rack Tag where
  kind := .tag
  key := Tag.id
  get := Shelf.tags
  set t s := { s with tags := t }
  get_set _ _ := rfl
  set_get _ := rfl
  set_set _ _ _ := rfl
  failingReads_set _ _ := rfl
  failingWrites_set _ _ := rfl

/-- Where the edge groups are. -/
def edgeGroups : Rack EdgeGroup where
  kind := .edgeGroup
  key := EdgeGroup.id
  get := Shelf.edgeGroups
  set t s := { s with edgeGroups := t }
  get_set _ _ := rfl
  set_get _ := rfl
  set_set _ _ _ := rfl
  failingReads_set _ _ := rfl
  failingWrites_set _ _ := rfl

variable {α : Type} (k : Rack α)

/-- The shelf with a record under its id. -/
def put (a : α) (s : Shelf) : Shelf := k.set ((k.get s).insert (k.key a) (.ok a)) s

/-- Looks at the record under an id. -/
def look (s : Shelf) (id : UInt32) : Except RegistryError α :=
  if (k.kind, id) ∈ s.failingReads then .error (.persistence (.readRejected k.kind id))
  else
    match (k.get s).get? id with
    | some cell => cell.mapError .persistence
    | none => .error (.notFound k.kind id)

/-- Reads the record under an id. -/
def read (id : UInt32) : StoreM Shelf α := fun s => (k.look s id, s)

/-- Writes a record over the one under its id, which has to be there. -/
def replace (a : α) : StoreM Shelf Unit := fun s =>
  if (k.kind, k.key a) ∈ s.failingWrites then
    (.error (.persistence (.writeRejected k.kind (k.key a))), s)
  else if (k.get s).contains (k.key a) then (.ok (), k.put a s)
  else (.error (.notFound k.kind (k.key a)), s)

/-- Adds a record under the next free id. -/
def add (make : UInt32 → α) : StoreM Shelf α := fun s =>
  match nextId (k.get s).lastId? with
  | .ok id => (.ok (make id), k.put (make id) s)
  | .error e => (.error e, s)

/-- Reads a record, changes it and writes it back. -/
def mutate (id : UInt32) (f : α → α) : StoreM Shelf Unit := do
  let a ← k.read id
  k.replace (f a)

end Rack

namespace Shelf

/-- All edge groups, by ascending id. -/
def scan (s : Shelf) : Except RegistryError (List EdgeGroup) :=
  if s.failingScan then .error (.persistence .scanRejected)
  else (s.edgeGroups.values.mapM id).mapError .persistence

instance : RelationStore Shelf where
  environment := Rack.environments.read
  updateEnvironment := Rack.environments.replace
  tag := Rack.tags.read
  updateTag := Rack.tags.replace
  edgeGroup := Rack.edgeGroups.read
  edgeGroups := fun s => (s.scan, s)
  updateEdgeGroup := Rack.edgeGroups.replace
  createTag name := Rack.tags.add fun id => { id, name }
  createEdgeGroup name := Rack.edgeGroups.add fun id => { id, name }

end Shelf

/-! ## Section 2: Errors of a store -/

/-- The error is one that a store raises. -/
def RegistryError.OfStore : RegistryError → Prop
  | .notFound _ _ | .persistence _ => True
  | _ => False

theorem RegistryError.OfStore.ne_refresh {e : RegistryError} (h : e.OfStore) (text : String) :
    e ≠ .refresh text := by
  rintro rfl
  exact h

theorem nextId_error {last : Option UInt32} {e : RegistryError} (h : nextId last = .error e) :
    e.OfStore := by
  obtain ⟨-, rfl⟩ := Table.nextId_eq_error.mp h
  trivial

/-! ## Section 3: Reading and changing records -/

namespace Rack

variable {α : Type} {k : Rack α} {s : Shelf} {id : UInt32} {f : α → α}

theorem look_error {e : RegistryError} (h : k.look s id = .error e) : e.OfStore := by
  unfold look at h
  split at h
  · cases h
    trivial
  · split at h
    · next cell _ =>
      cases cell with
      | error fault =>
        cases h
        trivial
      | ok a => cases h
    · cases h
      trivial

theorem look_ok {a : α} :
    k.look s id = .ok a ↔ (k.kind, id) ∉ s.failingReads ∧ (k.get s).get? id = some (.ok a) := by
  unfold look
  by_cases hread : (k.kind, id) ∈ s.failingReads
  · simp [hread]
  · rw [if_neg hread]
    cases hget : (k.get s).get? id with
    | none => simp
    | some cell =>
      cases cell with
      | error fault =>
        refine iff_of_false (fun h => ?_) (fun h => ?_)
        · cases h
        · cases h.2
      | ok b =>
        show (Except.ok b : Except RegistryError α) = .ok a ↔ _
        simp [hread]

theorem get_put (a : α) : k.get (k.put a s) = (k.get s).insert (k.key a) (.ok a) := k.get_set _ _

/-- Reading after writing, on a shelf that lets the record be read. -/
theorem look_put (a : α) (hread : (k.kind, id) ∉ s.failingReads) :
    k.look (k.put a s) id = if id = k.key a then .ok a else k.look s id := by
  have hread' : (k.kind, id) ∉ (k.put a s).failingReads := by
    rwa [put, k.failingReads_set]
  rw [look, look, if_neg hread, if_neg hread', get_put, Table.get?_insert]
  by_cases hid : id = k.key a
  · rw [if_pos hid, if_pos hid]
    rfl
  · rw [if_neg hid, if_neg hid]

/-- Every record lies under its own id. -/
def Own (k : Rack α) (s : Shelf) : Prop := ∀ id a, (k.get s).get? id = some (.ok a) → k.key a = id

theorem own_of_keyed {t : Table α} (ht : t.Keyed k.key)
    (hs : k.get s = t.map .ok) : k.Own s := by
  intro id a ha
  rw [hs, Table.get?_map, Option.map_eq_some_iff] at ha
  obtain ⟨b, hb, heq⟩ := ha
  cases heq
  exact ht id a hb

/-- The record under an id can be read, and it can be written. -/
def Open (k : Rack α) (s : Shelf) (id : UInt32) : Prop :=
  (∃ a, k.look s id = .ok a) ∧ (k.kind, id) ∉ s.failingWrites

/-- The shelf with `f` applied to every record of a kind. -/
def change (k : Rack α) (f : α → α) (s : Shelf) : Shelf := k.set ((k.get s).map (Except.map f)) s

/-- What `f` does to the records under certain ids. -/
def only (k : Rack α) (ids : List UInt32) (f : α → α) (a : α) : α :=
  if k.key a ∈ ids then f a else a

@[simp] theorem get_change (f : α → α) :
    k.get (k.change f s) = (k.get s).map (Except.map f) := k.get_set _ _

theorem change_change (f g : α → α) : k.change g (k.change f s) = k.change (g ∘ f) s := by
  unfold change
  rw [k.set_set, k.get_set, Table.map_map]
  congr 2
  funext cell
  cases cell <;> rfl

theorem change_congr {f g : α → α} (h : ∀ a, f a = g a) : k.change f s = k.change g s := by
  rw [funext h]

theorem change_eq_self {f : α → α} (h : ∀ a, f a = a) : k.change f s = s := by
  unfold change
  rw [Table.map_eq_self, k.set_get]
  intro _ cell _
  cases cell with
  | error => rfl
  | ok a => exact congrArg Except.ok (h a)

theorem only_key (hf : ∀ a, k.key (f a) = k.key a) (ids : List UInt32) (a : α) :
    k.key (k.only ids f a) = k.key a := by
  unfold only
  split
  · exact hf a
  · rfl

theorem Own.put (h : k.Own s) (a : α) : k.Own (k.put a s) := by
  intro id b hb
  rw [get_put, Table.get?_insert] at hb
  split at hb
  · next hid =>
    cases hb
    exact hid.symm
  · exact h id b hb

theorem Own.change (h : k.Own s) (hf : ∀ a, k.key (f a) = k.key a) : k.Own (k.change f s) := by
  intro id b hb
  rw [get_change, Table.get?_map, Option.map_eq_some_iff] at hb
  obtain ⟨cell, hcell, hmap⟩ := hb
  cases cell with
  | error => cases hmap
  | ok a =>
    cases hmap
    rw [hf a]
    exact h id a hcell

/-- Changing records neither opens nor shuts any. -/
theorem open_change (f : α → α) : k.Open (k.change f s) id ↔ k.Open s id := by
  unfold Open
  simp only [look_ok, get_change, Table.get?_map]
  rw [Rack.change, k.failingReads_set, k.failingWrites_set]
  refine and_congr_left fun _ => ?_
  constructor
  · rintro ⟨b, hread, hb⟩
    obtain ⟨cell, hcell, hmap⟩ := Option.map_eq_some_iff.mp hb
    -- A cell without a record does not get one.
    cases cell with
    | error => cases hmap
    | ok a => exact ⟨a, hread, hcell⟩
  · rintro ⟨a, hread, ha⟩
    exact ⟨f a, hread, by rw [ha]; rfl⟩

/-- A new record is put under an id that was free. -/
theorem add_cases (make : UInt32 → α) (s : Shelf) :
    (∃ e, RegistryError.OfStore e ∧ k.add make s = (.error e, s)) ∨
      ∃ id, nextId (k.get s).lastId? = .ok id ∧
        k.add make s = (.ok (make id), k.put (make id) s) := by
  unfold add
  cases hid : nextId (k.get s).lastId? with
  | error e => exact .inl ⟨e, nextId_error hid, rfl⟩
  | ok id => exact .inr ⟨id, rfl, rfl⟩

/-! ## Section 4: One step of a loop -/

/-- Changing an open record succeeds, and changes that record alone. -/
theorem mutate_open (hown : k.Own s) (hf : ∀ a, k.key (f a) = k.key a) (hopen : k.Open s id) :
    k.mutate id f s = (.ok (), k.change (k.only [id] f) s) := by
  obtain ⟨⟨a, ha⟩, hwrite⟩ := hopen
  have hget := (look_ok.mp ha).2
  have hkey : k.key (f a) = id := by rw [hf a, hown id a hget]
  have hread : k.read id s = (.ok a, s) := by rw [read, ha]
  have hcontains : (k.get s).contains id = true := Table.contains_iff.mpr ⟨_, hget⟩
  rw [mutate, StoreM.bind_ok hread, replace, hkey, if_neg hwrite, if_pos hcontains]
  have hput : k.put (f a) s = k.change (k.only [id] f) s := by
    unfold put Rack.change
    -- The record is written where it was read, and every other record lies under another id.
    have honly : Except.ok (f a) = Except.map (k.only [id] f) (Except.ok a : Cell α) := by
      simp [Except.map, only, hown id a hget]
    rw [hkey, honly, Table.insert_eq_map hget]
    intro j cell hj hcell
    cases cell with
    | error => rfl
    | ok b => simp [Except.map, only, hown j b hcell, hj]
  rw [hput]

/-- Changing a record that is not open fails, and changes nothing. -/
theorem mutate_shut (hown : k.Own s) (hf : ∀ a, k.key (f a) = k.key a) (hshut : ¬ k.Open s id) :
    ∃ e, e.OfStore ∧ k.mutate id f s = (.error e, s) := by
  cases hlook : k.look s id with
  | error e => exact ⟨e, look_error hlook, StoreM.bind_error (by rw [read, hlook])⟩
  | ok a =>
    have hkey : k.key (f a) = id := by rw [hf a, hown id a (look_ok.mp hlook).2]
    -- The record can be read, so it is the write that is rejected.
    have hwrite : (k.kind, id) ∈ s.failingWrites := by
      by_cases hwrite : (k.kind, id) ∈ s.failingWrites
      · exact hwrite
      · exact absurd ⟨⟨a, hlook⟩, hwrite⟩ hshut
    have hread : k.read id s = (.ok a, s) := by rw [read, hlook]
    refine ⟨.persistence (.writeRejected k.kind id), trivial, ?_⟩
    rw [mutate, StoreM.bind_ok hread, replace, hkey, if_pos hwrite]

end Rack

/-! ## Section 5: Listing the edge groups -/

theorem mapM_ok {α : Type} (l : List α) : (l.map .ok : List (Cell α)).mapM id = .ok l := by
  induction l with
  | nil => rfl
  | cons a l ih =>
    rw [List.map_cons, List.mapM_cons, ih]
    rfl

theorem eq_map_of_mapM {α : Type} {cells : List (Cell α)} {l : List α} (h : cells.mapM id = .ok l) :
    cells = l.map .ok := by
  induction cells generalizing l with
  | nil =>
    cases h
    rfl
  | cons cell cells ih =>
    rw [List.mapM_cons] at h
    cases cell with
    | error fault => cases h
    | ok a =>
      cases hrest : cells.mapM id with
      | error fault =>
        rw [hrest] at h
        cases h
      | ok rest =>
        rw [hrest] at h
        cases h
        rw [ih hrest, List.map_cons]

/-- Going through cells succeeds if all of them hold records. -/
theorem mapM_cells {α : Type} {cells : List (Cell α)} {l : List α} :
    cells.mapM id = .ok l ↔ cells = l.map .ok := by
  constructor
  · exact eq_map_of_mapM
  · rintro rfl
    exact mapM_ok l

namespace Shelf

variable {s : Shelf}

/-- The edge groups that can be read. -/
def groups (s : Shelf) : List EdgeGroup := s.edgeGroups.values.filterMap Except.toOption

theorem scan_error {e : RegistryError} (h : s.scan = .error e) : e.OfStore := by
  unfold scan at h
  split at h
  · cases h
    trivial
  · cases hcells : s.edgeGroups.values.mapM id with
    | error fault =>
      rw [hcells] at h
      cases h
      trivial
    | ok l =>
      rw [hcells] at h
      cases h

theorem scan_ok {l : List EdgeGroup} :
    s.scan = .ok l ↔ s.failingScan = false ∧ s.edgeGroups.values = l.map .ok := by
  unfold scan
  cases hscan : s.failingScan with
  | true => simp
  | false =>
    rw [← mapM_cells]
    cases s.edgeGroups.values.mapM id with
    | error fault =>
      refine iff_of_false (fun h => ?_) (fun h => ?_)
      · cases h
      · cases h.2
    | ok groups =>
      show (Except.ok groups : Except RegistryError _) = .ok l ↔ _
      simp

/-- A scan gives the edge groups that can be read, and only if all of them can. -/
theorem groups_of_scan {l : List EdgeGroup} (h : s.scan = .ok l) : s.groups = l := by
  rw [groups, (scan_ok.mp h).2, List.filterMap_map]
  exact List.filterMap_some

/-- Every record lies under its own id. -/
structure Own (s : Shelf) : Prop where
  environments : Rack.environments.Own s
  tags : Rack.tags.Own s
  edgeGroups : Rack.edgeGroups.Own s

namespace Own

variable (h : s.Own)

include h

theorem putEnvironment (e : Environment) : (Rack.environments.put e s).Own :=
  ⟨h.environments.put e, h.tags, h.edgeGroups⟩

theorem putTag (t : Tag) : (Rack.tags.put t s).Own := ⟨h.environments, h.tags.put t, h.edgeGroups⟩

theorem putEdgeGroup (g : EdgeGroup) : (Rack.edgeGroups.put g s).Own :=
  ⟨h.environments, h.tags, h.edgeGroups.put g⟩

end Own

/-- The edge groups, of those that can be read, that an environment is in. -/
def memberships (s : Shelf) (id : EnvironmentId) : KeySet EdgeGroupId :=
  Relations.memberships s.groups id

end Shelf

end EnvRegistry

import EnvRegistry.Proofs.Json.Members
import Mathlib.Logic.Relation

/-! # Records by the layout of their fields

    The decoders of records differ in nothing but the name of the record, its
    fields and the function that puts their values together.  A `Layout` holds
    these, and `Layout.decoder` is what all of them do.

    A layout is proper if its fields have different names and none of them takes
    a value that holds a fault.  What such a record decodes to then depends on
    the declared members of an object alone (`Layout.decoder_record`), and a
    list decodes like the object that names its elements
    (`Layout.decoder_list`).

    `Change` is one harmless change of the members of an object.  One change
    keeps what the object decodes to, and so does any number of them. -/

namespace EnvRegistry.Json

/-! ## Section 1: Layouts -/

/-- A field of some type. -/
structure AnyField where
  {type : Type}
  field : RecordField type

namespace AnyField

/-- The name of the field. -/
def name (f : AnyField) : String := f.field.name

/-- The slot of the field. -/
def slot (f : AnyField) : Slot := f.field.slot

end AnyField

/-- A function of one argument for each field. -/
def Curried (α : Type) : List AnyField → Type
  | [] => α
  | f :: fields => f.type → Curried α fields

/-- Applies a function to the values of the fields, each taken out of a selection. -/
def build {α : Type} : (fields : List AnyField) → Curried α fields → Selection →
    Except DecodeError α
  | [], a, _ => .ok a
  | f :: fields, make, s => do build fields (make (← f.field.from s)) s

/-- The name of a record, its fields and what is made of their values. -/
structure Layout (α : Type) where
  recordName : String
  fields : List AnyField
  make : Curried α fields

namespace Layout

/-- The names of the fields, in the order of their declaration. -/
def names {α : Type} (l : Layout α) : List String := l.fields.map AnyField.name

/-- The slots of the fields. -/
def slots {α : Type} (l : Layout α) : List Slot := l.fields.map AnyField.slot

/-- Reads a record of this layout. -/
def decoder {α : Type} (l : Layout α) (o : Origin) : Decoder α := fun j => do
  build l.fields l.make (← selectFields o l.recordName l.slots j)

/-- The fields have different names, and none of them takes a value with a fault. -/
structure Proper {α : Type} (l : Layout α) : Prop where
  distinct : l.names.Nodup
  strict : ∀ f ∈ l.fields, Strict f.field.decode

end Layout

/-! ## Section 2: Putting the values together -/

section Build

variable {α : Type} {fields : List AnyField} {make : Curried α fields} {s s' : Selection} {v : α}

/-- Nothing but the values of the fields matters. -/
theorem build_congr (h : ∀ f ∈ fields, f.field.from s = f.field.from s') :
    build fields make s = build fields make s' := by
  induction fields with
  | nil => rfl
  | cons f fields ih =>
    rw [build, build, h f List.mem_cons_self]
    cases f.field.from s' with
    | error e => rfl
    | ok a => exact ih fun g hg => h g (List.mem_cons_of_mem _ hg)

theorem build_cons {f : AnyField} {make : Curried α (f :: fields)} {a : f.type}
    (h : f.field.from s = .ok a) : build (f :: fields) make s = build fields (make a) s := by
  rw [build, h]
  rfl

/-- A record of one field is the value of this field. -/
theorem build_single {β : Type} (f : RecordField β) (s : Selection) :
    build (α := β) [⟨f⟩] (fun b => b) s = f.from s := by
  show (do Except.ok (← f.from s)) = f.from s
  cases f.from s <;> rfl

/-- Every field has a value. -/
theorem from_of_build (h : build fields make s = .ok v) :
    ∀ f ∈ fields, ∃ a, f.field.from s = .ok a := by
  induction fields with
  | nil => exact fun f hf => absurd hf List.not_mem_nil
  | cons f fields ih =>
    obtain ⟨a, ha, h⟩ := bind_eq_ok.mp h
    intro g hg
    rcases List.mem_cons.mp hg with rfl | hg
    · exact ⟨a, ha⟩
    · exact ih h g hg

end Build

/-! ## Section 3: Objects and lists -/

namespace Layout

variable {α : Type} {l : Layout α} {o : Origin} {members : List (String × Json)} {v : α}

theorem map_name_slots (l : Layout α) : l.slots.map Slot.name = l.names :=
  List.map_map

theorem Proper.distinct_slots (hl : l.Proper) : (l.slots.map Slot.name).Nodup :=
  l.map_name_slots ▸ hl.distinct

theorem Proper.eq_of_name (hl : l.Proper) {f g : AnyField} (hf : f ∈ l.fields) (hg : g ∈ l.fields)
    (h : f.name = g.name) : f = g :=
  List.inj_on_of_nodup_map hl.distinct hf hg h

theorem mem_slots {f : AnyField} (hf : f ∈ l.fields) : f.slot ∈ l.slots := List.mem_map_of_mem hf

/-- A field that is not declared twice is taken out of what was found, or out of the members. -/
theorem decoder_record (hl : l.Proper) : l.decoder o (record members) = .ok v ↔
    Accepts l.slots members ∧ build l.fields l.make members = .ok v := by
  have hselect : ∀ {s}, selectMembers l.slots [] (members.map fun m => (.ok m.1, m.2)) = .ok s →
      Accepts l.slots members ∧ build l.fields l.make s = build l.fields l.make members := by
    intro s hs
    obtain ⟨haccepts, hlookup⟩ := accepts_of_selectMembers hl.distinct_slots hs
    refine ⟨haccepts, build_congr fun f hf => RecordField.from_lookup_congr ?_⟩
    have hfound := (hlookup f.slot (mem_slots hf)).1
    rwa [List.lookup_nil, Option.none_or] at hfound
  constructor
  · intro h
    obtain ⟨s, hs, hv⟩ := bind_eq_ok.mp h
    obtain ⟨s', hs', hend⟩ := bind_eq_ok.mp hs
    cases hend
    obtain ⟨haccepts, hbuild⟩ := hselect hs'
    exact ⟨haccepts, hbuild ▸ hv⟩
  · rintro ⟨haccepts, hv⟩
    obtain ⟨s, hs⟩ := haccepts.select (s := []) hl.distinct_slots fun _ _ => rfl
    refine bind_eq_ok.mpr ⟨s, selectFields_record hs, ?_⟩
    rw [(hselect hs).2]
    exact hv

/-- An object decodes if it has no members but fields, of different names, that decode. -/
theorem Proper.decoder_fields (hl : l.Proper) (hnames : (members.map Prod.fst).Sublist l.names)
    (hv : build l.fields l.make members = .ok v) : l.decoder o (record members) = .ok v := by
  have honce : ∀ name, (members.map Prod.fst).count name ≤ 1 :=
    List.nodup_iff_count_le_one.mp (hl.distinct.sublist hnames)
  refine (decoder_record hl).mpr ⟨⟨fun slot _ => honce slot.name, ?_, ?_⟩, hv⟩
  · intro slot hslot j hj
    obtain ⟨f, hf, rfl⟩ := List.mem_map.mp hslot
    obtain ⟨a, ha⟩ := from_of_build hv f hf
    have hfound : members.lookup f.field.name = some j := (lookup_eq_some (honce _)).mpr hj
    rw [RecordField.from, hfound] at ha
    exact RecordField.slot_check ha
  · intro m hm hundeclared
    rw [map_name_slots] at hundeclared
    exact absurd (hnames.subset (List.mem_map_of_mem hm)) hundeclared

end Layout

/-! ### Lists of fields -/

section Items

variable {o : Origin} {name : String} {count length n : Nat} {tail : Tail} {slots : List Slot}
  {items : List Json} {s s' : Selection}

theorem selectItems_missing (slot : Slot) :
    selectItems o name count length tail n s (slot :: slots) [] = (do
      endOf tail
      match (slot :: slots).findIdx? (·.required) with
      | some i => throw (.tooShort (n + i) name count)
      | none => return s) :=
  rfl

/-- After the last element the list ends, and the fields that are missing may be left out. -/
theorem selectItems_end : selectItems o name count length tail n s slots [] = .ok s' ↔
    tail = .closed ∧ (∀ slot ∈ slots, slot.required = false) ∧ s' = s := by
  cases slots with
  | nil =>
    cases tail with
    | closed =>
      constructor
      · intro h
        cases h
        exact ⟨rfl, fun _ hslot => absurd hslot List.not_mem_nil, rfl⟩
      · rintro ⟨-, -, rfl⟩
        rfl
    | cut f => simp [selectItems]
    | dangling f => simp [selectItems]
  | cons slot slots =>
    -- The fault names the first slot that is required, so there is one if any slot is required.
    rw [selectItems_missing, bind_eq_ok]
    cases hfind : (slot :: slots).findIdx? (·.required) with
    | some i =>
      constructor
      · rintro ⟨-, -, h⟩
        cases h
      · rintro ⟨-, hmissing, -⟩
        rw [List.findIdx?_eq_none_iff.mpr hmissing] at hfind
        cases hfind
    | none =>
      have hmissing := List.findIdx?_eq_none_iff.mp hfind
      constructor
      · rintro ⟨⟨⟩, hend, h⟩
        cases h
        exact ⟨endOf_eq_ok hend, hmissing, rfl⟩
      · rintro ⟨rfl, -, rfl⟩
        exact ⟨(), rfl, rfl⟩

/-- Going through the elements of a list: each has a field, and those that are missing may be. -/
theorem selectItems_eq_ok : selectItems o name count length tail n s slots items = .ok s' ↔
    tail = .closed ∧ items.length ≤ slots.length ∧
      (∀ p ∈ slots.zip items, p.1.check p.2 = .ok ()) ∧
      (∀ slot ∈ slots.drop items.length, slot.required = false) ∧
      s' = ((slots.zip items).map fun p => (p.1.name, p.2)).reverse ++ s := by
  induction slots generalizing items n s with
  | nil =>
    cases items with
    | nil => simp [selectItems_end]
    | cons j items => cases o <;> simp [selectItems]
  | cons slot slots ih =>
    cases items with
    | nil => simp [selectItems_end]
    | cons j items =>
      rw [selectItems, bind_eq_ok, List.length_cons, List.length_cons, Nat.add_le_add_iff_right]
      constructor
      · rintro ⟨⟨⟩, hcheck, h⟩
        obtain ⟨htail, hlength, hchecks, hmissing, rfl⟩ := ih.mp h
        refine ⟨htail, hlength, ?_, hmissing, by simp⟩
        rw [List.zip_cons_cons, List.forall_mem_cons]
        exact ⟨hcheck, hchecks⟩
      · rintro ⟨htail, hlength, hchecks, hmissing, rfl⟩
        rw [List.zip_cons_cons, List.forall_mem_cons] at hchecks
        exact ⟨(), hchecks.1, ih.mpr ⟨htail, hlength, hchecks.2, hmissing, by simp⟩⟩

end Items

namespace Layout

variable {α : Type} {l : Layout α} {o : Origin} {v : α}

/-- The first fields by their names. -/
theorem map_name_zip (l : Layout α) (items : List Json) :
    l.names.zip items = (l.slots.zip items).map fun p => (p.1.name, p.2) := by
  rw [← l.map_name_slots, List.zip_map_left]
  rfl

theorem map_fst_zip {items : List Json} (hlength : items.length ≤ l.fields.length) :
    (l.names.zip items).map Prod.fst = l.names.take items.length := by
  have hnames : l.names.length = l.fields.length := List.length_map _
  have hmin : min l.names.length items.length = items.length := by omega
  rw [List.zip_eq_zip_take_min, hmin, List.map_fst_zip]
  rw [List.length_take, List.length_take]
  omega

/-- A list decodes like the object that names its elements after the first fields. -/
theorem decoder_list (hl : l.Proper) {items : List Json}
    (hlength : items.length ≤ l.fields.length) :
    l.decoder o (list items) = .ok v ↔ l.decoder o (record (l.names.zip items)) = .ok v := by
  have hslots : items.length ≤ l.slots.length := by rwa [slots, List.length_map]
  have honce : ∀ name, ((l.names.zip items).map Prod.fst).count name ≤ 1 := by
    rw [map_fst_zip hlength]
    exact List.nodup_iff_count_le_one.mp (hl.distinct.sublist (List.take_sublist _ _))
  -- What is found in the list and the members of the object differ in their order only.
  have hbuild : build l.fields l.make ((l.slots.zip items).map fun p => (p.1.name, p.2)).reverse =
      build l.fields l.make (l.names.zip items) := by
    rw [← map_name_zip]
    refine build_congr fun f hf => RecordField.from_lookup_congr ?_
    refine lookup_perm (List.reverse_perm _) ?_
    rw [List.map_reverse, List.count_reverse]
    exact honce f.name
  rw [decoder_record hl]
  constructor
  · intro h
    obtain ⟨s, hs, hv⟩ := bind_eq_ok.mp h
    obtain ⟨-, -, hchecks, -, rfl⟩ := selectItems_eq_ok.mp hs
    rw [List.append_nil, hbuild] at hv
    refine ⟨⟨fun slot _ => honce slot.name, ?_, ?_⟩, hv⟩
    · intro slot hslot j hj
      rw [map_name_zip] at hj
      obtain ⟨⟨slot', j'⟩, hmem, heq⟩ := List.mem_map.mp hj
      obtain ⟨hname, rfl⟩ := Prod.mk.inj heq
      obtain rfl := Json.eq_of_name hl.distinct_slots (List.of_mem_zip hmem).1 hslot hname
      exact hchecks _ hmem
    · intro m hm hundeclared
      rw [map_name_slots] at hundeclared
      exact absurd (List.of_mem_zip hm).1 hundeclared
  · rintro ⟨haccepts, hv⟩
    refine bind_eq_ok.mpr ⟨_, selectItems_eq_ok.mpr ⟨rfl, hslots, ?_, ?_, rfl⟩, ?_⟩
    · rintro ⟨slot, j⟩ hmem
      refine haccepts.checked slot (List.of_mem_zip hmem).1 j ?_
      rw [map_name_zip]
      exact List.mem_map_of_mem (f := fun p : Slot × Json => (p.1.name, p.2)) hmem
    · -- A field without an element has a value all the same, so it may be left out.
      intro slot hslot
      rw [slots, ← List.map_drop] at hslot
      obtain ⟨f, hf, rfl⟩ := List.mem_map.mp hslot
      obtain ⟨a, ha⟩ := from_of_build hv f (List.mem_of_mem_drop hf)
      have hmissing : (l.names.zip items).lookup f.name = none := by
        refine lookup_eq_none ?_
        rw [map_fst_zip hlength]
        have hdrop : f.name ∈ l.names.drop items.length := by
          rw [names, ← List.map_drop]
          exact List.mem_map_of_mem hf
        exact fun htake => List.disjoint_take_drop hl.distinct (Nat.le_refl _) htake hdrop
      rw [RecordField.from, show (l.names.zip items).lookup f.field.name = none from hmissing] at ha
      show f.field.default?.isNone = false
      cases hdefault : f.field.default? with
      | some a => rfl
      | none =>
        rw [hdefault] at ha
        cases ha
    · rw [List.append_nil, hbuild]
      exact hv

/-- A record decodes from an object or a list without a fault, and from nothing else. -/
theorem shape_of_decoder (hl : l.Proper) {j : Json} (h : l.decoder o j = .ok v) :
    skipFault j = none ∧ ((∃ members, j = record members) ∨ ∃ items, j = list items) := by
  -- What passes the check of a slot was decoded, and decoders meet every fault.
  have hstrict : ∀ slot ∈ l.slots, ∀ k, slot.check k = .ok () → skipFault k = none := by
    intro slot hslot k hk
    obtain ⟨f, hf, rfl⟩ := List.mem_map.mp hslot
    obtain ⟨a, ha⟩ := RecordField.decode_of_check hk
    exact hl.strict f hf k a ha
  obtain ⟨s, hs, -⟩ := bind_eq_ok.mp h
  cases j with
  | object members tail =>
    obtain ⟨s', hs', hend⟩ := bind_eq_ok.mp hs
    obtain ⟨⟨⟩, hend, -⟩ := bind_eq_ok.mp hend
    obtain rfl := endOf_eq_ok hend
    obtain ⟨named, rfl⟩ := names_of_selectMembers hs'
    obtain ⟨haccepts, -⟩ := accepts_of_selectMembers hl.distinct_slots hs'
    refine ⟨skipFault_object.mpr ⟨?_, rfl⟩, .inl ⟨named, rfl⟩⟩
    intro m hm
    obtain ⟨⟨name, k⟩, hmem, rfl⟩ := List.mem_map.mp hm
    by_cases hdeclared : name ∈ l.slots.map Slot.name
    · obtain ⟨slot, hslot, rfl⟩ := List.mem_map.mp hdeclared
      exact hstrict slot hslot k (haccepts.checked slot hslot k hmem)
    · exact haccepts.passed _ hmem hdeclared
  | array items tail =>
    obtain ⟨rfl, hlength, hchecks, -, -⟩ := selectItems_eq_ok.mp hs
    refine ⟨skipFault_array.mpr ⟨?_, rfl⟩, .inr ⟨items, rfl⟩⟩
    intro k hk
    rw [← List.map_snd_zip hlength] at hk
    obtain ⟨⟨slot, k⟩, hmem, rfl⟩ := List.mem_map.mp hk
    exact hstrict slot (List.of_mem_zip hmem).1 k (hchecks _ hmem)
  | _ => exact absurd hs (mismatch_ne_ok _ _ _)

/-- A record may be the value of a field of another. -/
theorem Proper.strict_decoder (hl : l.Proper) (o : Origin) : Strict (l.decoder o) :=
  fun _ _ h => (shape_of_decoder hl h).1

end Layout

/-! ## Section 4: Changes of the members -/

/-- One change of the members of an object that has these fields: another order, one more member
with a name that is not declared, a field that was left out with its default value, or another value
that decodes to the same. -/
inductive Change (fields : List AnyField) : List (String × Json) → List (String × Json) → Prop
  | reorder {members members' : List (String × Json)} :
      members.Perm members' → Change fields members members'
  | undeclared {before after : List (String × Json)} {name : String} {j : Json} {w : List Char} :
      name ∉ fields.map AnyField.name → Writes j w →
      Change fields (before ++ after) (before ++ (name, j) :: after)
  | default {before after : List (String × Json)} {f : AnyField} {j : Json} {a : f.type} :
      f ∈ fields → f.name ∉ (before ++ after).map Prod.fst →
      f.field.default? = some a → f.field.decode j = .ok a →
      Change fields (before ++ after) (before ++ (f.name, j) :: after)
  | value {before after : List (String × Json)} {f : AnyField} {j k : Json} {a : f.type} :
      f ∈ fields → f.field.decode j = .ok a → f.field.decode k = .ok a →
      Change fields (before ++ (f.name, j) :: after) (before ++ (f.name, k) :: after)

/-- Any number of changes. -/
abbrev Changes (fields : List AnyField) := Relation.ReflTransGen (Change fields)

namespace Layout

variable {α : Type} {l : Layout α} {o : Origin} {members members' : List (String × Json)} {v : α}

theorem Proper.decoder_perm (hl : l.Proper) (hp : members.Perm members')
    (h : l.decoder o (record members) = .ok v) : l.decoder o (record members') = .ok v := by
  obtain ⟨haccepts, hv⟩ := (decoder_record hl).mp h
  refine (decoder_record hl).mpr ⟨haccepts.perm hp, ?_⟩
  rw [← hv]
  refine build_congr fun f hf => RecordField.from_lookup_congr ?_
  exact (lookup_perm hp (haccepts.once f.slot (mem_slots hf))).symm

theorem Proper.decoder_undeclared (hl : l.Proper) {name : String} {j : Json} {w : List Char}
    (hname : name ∉ l.names) (hw : Writes j w) (h : l.decoder o (record members) = .ok v) :
    l.decoder o (record ((name, j) :: members)) = .ok v := by
  obtain ⟨haccepts, hv⟩ := (decoder_record hl).mp h
  have hundeclared : name ∉ l.slots.map Slot.name := by rwa [map_name_slots]
  refine (decoder_record hl).mpr
    ⟨(accepts_cons_undeclared hundeclared j).mpr ⟨hw.noFault, haccepts⟩, ?_⟩
  rw [← hv]
  refine build_congr fun f hf => RecordField.from_lookup_congr ?_
  have hne : f.name ≠ name := fun heq => hname (heq ▸ List.mem_map_of_mem hf)
  exact lookup_cons_of_ne hne j members

/-- A field has the same value whether a member says so or the members before did. -/
theorem Proper.decoder_cons (hl : l.Proper) {f : AnyField} {j : Json} {a : f.type}
    (hf : f ∈ l.fields) (hj : f.field.decode j = .ok a) (haccepts : Accepts l.slots members)
    (hnew : f.name ∉ members.map Prod.fst) {members' : List (String × Json)}
    (hsame : f.field.from members' = .ok a)
    (hother : ∀ g ∈ l.fields, g.name ≠ f.name → members'.lookup g.name = members.lookup g.name)
    (hv : build l.fields l.make members' = .ok v) :
    l.decoder o (record ((f.name, j) :: members)) = .ok v := by
  have hcheck : f.slot.check j = .ok () := RecordField.slot_check hj
  refine (decoder_record hl).mpr
    ⟨(accepts_cons_declared hl.distinct_slots (mem_slots hf) j).mpr ⟨hcheck, hnew, haccepts⟩, ?_⟩
  rw [← hv]
  refine build_congr fun g hg => ?_
  by_cases hname : g.name = f.name
  · obtain rfl := hl.eq_of_name hg hf hname
    rw [hsame]
    exact RecordField.from_lookup (lookup_cons_self _ _ _) hj
  · refine RecordField.from_lookup_congr ?_
    rw [show g.field.name = g.name from rfl, hother g hg hname]
    exact lookup_cons_of_ne hname j members

/-- One change of the members keeps what the object decodes to. -/
theorem Proper.decoder_change (hl : l.Proper) (hc : Change l.fields members members')
    (h : l.decoder o (record members) = .ok v) : l.decoder o (record members') = .ok v := by
  cases hc with
  | reorder hp => exact hl.decoder_perm hp h
  | undeclared hname hw =>
    exact hl.decoder_perm List.perm_middle.symm (hl.decoder_undeclared hname hw h)
  | default hf hnew hdefault hj =>
    obtain ⟨haccepts, hv⟩ := (decoder_record hl).mp h
    refine hl.decoder_perm List.perm_middle.symm
      (hl.decoder_cons hf hj haccepts hnew ?_ (fun _ _ _ => rfl) hv)
    exact RecordField.from_default (lookup_eq_none hnew) hdefault
  | @value before after f j k a hf hj hk =>
    have hfront := hl.decoder_perm List.perm_middle h
    obtain ⟨haccepts, hv⟩ := (decoder_record hl).mp hfront
    obtain ⟨-, hnew, haccepts⟩ :=
      (accepts_cons_declared hl.distinct_slots (mem_slots hf) j).mp haccepts
    refine hl.decoder_perm List.perm_middle.symm
      (hl.decoder_cons hf hk haccepts hnew ?_ (fun g _ hg => ?_) hv)
    · exact RecordField.from_lookup (lookup_cons_self _ _ _) hj
    · exact lookup_cons_of_ne hg j _

/-- Any number of changes do. -/
theorem Proper.decoder_changes (hl : l.Proper) (hc : Changes l.fields members members')
    (h : l.decoder o (record members) = .ok v) : l.decoder o (record members') = .ok v := by
  induction hc with
  | refl => exact h
  | tail _ hlast ih => exact hl.decoder_change hlast ih

end Layout

/-! ## Section 5: Texts -/

/-- A decoder of texts depends on the named fields of an object alone. -/
structure DependsOnNames {α : Type} (fields : List AnyField) (d : Decoder α) : Prop where
  /-- A text that decodes spells an object or a list. -/
  spelled {text : String} {v : α} : decodeText d text = .ok v →
    (∃ members, Spells text (record members)) ∨ ∃ items, Spells text (list items)
  /-- Another spelling of the object, also after changes of its members, decodes to the same. -/
  object {members members' : List (String × Json)} {text text' : String} {v : α} :
    Spells text (record members) → Changes fields members members' →
    Spells text' (record members') → decodeText d text = .ok v → decodeText d text' = .ok v
  /-- The same changes are harmless inside the value of a member. -/
  value {members members' : List (String × Json)} {v : α} : Changes fields members members' →
    d (record members) = .ok v → d (record members') = .ok v
  /-- The values of the first fields decode like the object with these fields. -/
  array {items : List Json} {text text' : String} {v : α} : items.length ≤ fields.length →
    Spells text (list items) → Spells text' (record ((fields.map AnyField.name).zip items)) →
    (decodeText d text = .ok v ↔ decodeText d text' = .ok v)

theorem Spells.decodeText {α : Type} {d : Decoder α} {text : String} {j : Json}
    (h : Spells text j) : decodeText d text = d j := by
  rw [Json.decodeText, h.read, Document.decode]
  cases d j <;> rfl

theorem Layout.Proper.dependsOnNames {α : Type} {l : Layout α} (hl : l.Proper) (o : Origin) :
    DependsOnNames l.fields (l.decoder o) where
  spelled := by
    intro text v h
    obtain ⟨a, ha, hdone⟩ := bind_eq_ok.mp h
    obtain ⟨hfault, hshape⟩ := shape_of_decoder hl ha
    have htrailing : (read text).trailing = none := by
      cases htrailing : (read text).trailing with
      | none => rfl
      | some f =>
        rw [htrailing] at hdone
        cases hdone
    have hspells : Spells text (read text).value :=
      spells_iff_read.mpr ⟨by rw [← htrailing], hfault⟩
    rcases hshape with ⟨members, hmembers⟩ | ⟨items, hitems⟩
    · exact .inl ⟨members, hmembers ▸ hspells⟩
    · exact .inr ⟨items, hitems ▸ hspells⟩
  object := by
    intro members members' text text' v htext hc htext' h
    rw [htext.decodeText] at h
    rw [htext'.decodeText]
    exact hl.decoder_changes hc h
  value := hl.decoder_changes
  array := by
    intro items text text' v hlength htext htext'
    rw [htext.decodeText, htext'.decodeText]
    exact decoder_list hl hlength

end EnvRegistry.Json

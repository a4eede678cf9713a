import EnvRegistry.Json.Decoder
import EnvRegistry.Proofs.Json.Reading
import EnvRegistry.Proofs.Store.Run
import Mathlib.Data.List.Nodup

/-! # The members of an object

    The decoder of a record goes through the members of an object in reading
    order.  `Accepts` says which members it gets through without an error: every
    declared one at most once and with a value that passes its check, and any
    others as long as they hold no fault.  What it finds are the values of the
    declared members, wherever they stand.

    A value that decodes holds no fault at all (`Strict`), so that a record that
    decodes is one whose text can be read to its end. -/

namespace EnvRegistry.Json

/-! ## Section 1: Results that are no errors -/

theorem bind_eq_ok {ε α β : Type} {x : Except ε α} {f : α → Except ε β} {b : β} :
    x >>= f = .ok b ↔ ∃ a, x = .ok a ∧ f a = .ok b := by
  cases x with
  | error e =>
    constructor
    · intro h
      cases h
    · rintro ⟨a, h, -⟩
      cases h
  | ok a => exact ⟨fun h => ⟨a, rfl, h⟩, fun ⟨_, ha, h⟩ => Except.ok.inj ha ▸ h⟩

theorem mapM_ok_of_mem {α : Type} {d : Decoder α} {items : List Json} {values : List α}
    (h : items.mapM d = .ok values) : ∀ j ∈ items, ∃ a, d j = .ok a := by
  induction items generalizing values with
  | nil => exact fun _ hj => absurd hj List.not_mem_nil
  | cons j items ih =>
    rw [List.mapM_cons] at h
    obtain ⟨a, ha, h⟩ := bind_eq_ok.mp h
    obtain ⟨rest, hrest, -⟩ := bind_eq_ok.mp h
    intro k hk
    rcases List.mem_cons.mp hk with rfl | hk
    · exact ⟨a, ha⟩
    · exact ih hrest k hk

theorem endOf_eq_ok {tail : Tail} (h : endOf tail = .ok ()) : tail = .closed := by
  cases tail <;> first | rfl | cases h

theorem mismatch_ne_ok {α : Type} (expected : Expected) (j : Json) (a : α) :
    mismatch expected j ≠ .ok a := by
  intro h
  obtain ⟨_, -, h⟩ := bind_eq_ok.mp h
  cases h

/-! ## Section 2: Decoders meet every fault

    A value that decodes holds no fault, also where the decoder does not want it. -/

/-- A decoder refuses every value that holds a fault. -/
def Strict {α : Type} (d : Decoder α) : Prop := ∀ j a, d j = .ok a → skipFault j = none

theorem strict_word : Strict word := by
  intro j a h
  cases j with
  | number n => rfl
  | _ => exact absurd h (mismatch_ne_ok _ _ _)

theorem strict_text : Strict text := by
  intro j a h
  cases j with
  | string s => rfl
  | _ => exact absurd h (mismatch_ne_ok _ _ _)

theorem strict_path : Strict path := by
  intro j a h
  cases j with
  | string s => rfl
  | _ => exact absurd h (mismatch_ne_ok _ _ _)

theorem strict_flag : Strict flag := by
  intro j a h
  cases j with
  | bool b => rfl
  | _ => exact absurd h (mismatch_ne_ok _ _ _)

theorem strict_unit : Strict unit := by
  intro j a h
  cases j with
  | null => rfl
  | _ => exact absurd h (mismatch_ne_ok _ _ _)

section Strict

variable {α : Type} {d : Decoder α}

theorem Strict.optional (hd : Strict d) : Strict (optional d) := by
  intro j a h
  by_cases hnull : j = .null
  · rw [hnull]
    rfl
  · have hsome : ∃ b, d j = .ok b := by
      cases hdj : d j with
      | ok b => exact ⟨b, rfl⟩
      | error e =>
        have hopt : Json.optional d j = some <$> d j := by
          unfold Json.optional
          split
          · exact absurd rfl hnull
          · rfl
        rw [hopt, hdj] at h
        cases h
    obtain ⟨b, hb⟩ := hsome
    exact hd j b hb

theorem Strict.listOf (hd : Strict d) : Strict (listOf d) := by
  intro j a h
  cases j with
  | array items tail =>
    obtain ⟨values, hvalues, h⟩ := bind_eq_ok.mp h
    obtain ⟨⟨⟩, hend, -⟩ := bind_eq_ok.mp h
    rw [endOf_eq_ok hend, skipFault_array]
    refine ⟨fun k hk => ?_, rfl⟩
    obtain ⟨b, hb⟩ := mapM_ok_of_mem hvalues k hk
    exact hd k b hb
  | _ => exact absurd h (mismatch_ne_ok _ _ _)

theorem Strict.setOf {κ : Type} [Ord κ] [Std.TransOrd κ] [Std.LawfulEqOrd κ] {d : Decoder κ}
    (hd : Strict d) : Strict (setOf d) := by
  intro j a h
  cases hlist : Json.listOf d j with
  | ok l => exact hd.listOf j l hlist
  | error e =>
    rw [Json.setOf, hlist] at h
    cases h

theorem strict_variant (known : List (String × α)) : Strict (variant known) := by
  intro j a h
  unfold variant at h
  split at h
  · rfl
  · cases h
  · cases h
  · next name value rest tail =>
    obtain ⟨name', -, h⟩ := bind_eq_ok.mp h
    obtain ⟨a', -, h⟩ := bind_eq_ok.mp h
    obtain ⟨⟨⟩, hvalue, h⟩ := bind_eq_ok.mp h
    split at h
    · rw [skipFault_object]
      refine ⟨fun m hm => ?_, rfl⟩
      rw [List.mem_singleton.mp hm]
      exact strict_unit value () hvalue
    · cases h
    · cases h
  · cases h
  · cases h

end Strict

/-! ## Section 3: Fields -/

theorem RecordField.slot_check {α : Type} {f : RecordField α} {j : Json} {a : α}
    (h : f.decode j = .ok a) : f.slot.check j = .ok () := by
  simp only [RecordField.slot, h]
  rfl

/-- A value that passes the check of a field decodes. -/
theorem RecordField.decode_of_check {β : Type} {f : RecordField β} {j : Json}
    (h : f.slot.check j = .ok ()) : ∃ b, f.decode j = .ok b := by
  cases hdecode : f.decode j with
  | ok b => exact ⟨b, rfl⟩
  | error e =>
    simp only [RecordField.slot, hdecode] at h
    cases h

theorem RecordField.from_lookup {α : Type} {f : RecordField α} {s : Selection} {j : Json} {a : α}
    (hs : s.lookup f.name = some j) (h : f.decode j = .ok a) : f.from s = .ok a := by
  rw [RecordField.from, hs]
  exact h

theorem RecordField.from_default {β : Type} {f : RecordField β} {b : β}
    {s : Selection} (hmissing : s.lookup f.name = none)
    (hdefault : f.default? = some b) : f.from s = .ok b := by
  rw [RecordField.from, hmissing, hdefault]

theorem RecordField.from_lookup_congr {β : Type} {f : RecordField β} {s s' : Selection}
    (h : s.lookup f.name = s'.lookup f.name) : f.from s = f.from s' := by
  rw [RecordField.from, h, RecordField.from]

/-- A field that is left out if there is nothing to say. -/
theorem RecordField.from_optional {α : Type} {f : RecordField (Option α)} {s : Selection}
    {a : Option α} (enc : α → Json) (hs : s.lookup f.name = a.map enc)
    (hdefault : f.default? = some none) (hdecode : ∀ a, f.decode (enc a) = .ok (some a)) :
    f.from s = .ok a := by
  rw [RecordField.from, hs]
  cases a with
  | none =>
    rw [hdefault]
    rfl
  | some a => exact hdecode a

/-- A list that is left out if it is empty. -/
theorem RecordField.from_list {α : Type} {f : RecordField (List α)} {s : Selection} {l : List α}
    (enc : List α → Json) (hs : s.lookup f.name = if l.isEmpty then none else some (enc l))
    (hdefault : f.default? = some []) (hdecode : f.decode (enc l) = .ok l) : f.from s = .ok l := by
  rw [RecordField.from, hs]
  cases l with
  | nil =>
    rw [hdefault]
    rfl
  | cons a l => exact hdecode

/-! ## Section 4: The members of an object -/

theorem lookup_cons_self (name : String) (j : Json) (s : Selection) :
    List.lookup name ((name, j) :: s) = some j := by
  simp

theorem lookup_cons_of_ne {name name' : String} (h : name ≠ name') (j : Json) (s : Selection) :
    List.lookup name ((name', j) :: s) = List.lookup name s := by
  rw [List.lookup_cons, beq_eq_false_iff_ne.mpr h]

theorem lookup_eq_none {s : Selection} {name : String} (h : name ∉ s.map Prod.fst) :
    s.lookup name = none := by
  rw [List.lookup_eq_none_iff]
  intro m hm
  rw [bne_iff_ne]
  rintro rfl
  exact h (List.mem_map_of_mem hm)

/-- Which members an object may have for these slots: a declared one at most once and only with a
value that passes its check, and any others as long as they hold no fault. -/
structure Accepts (slots : List Slot) (members : List (String × Json)) : Prop where
  once : ∀ slot ∈ slots, (members.map Prod.fst).count slot.name ≤ 1
  checked : ∀ slot ∈ slots, ∀ j, (slot.name, j) ∈ members → slot.check j = .ok ()
  passed : ∀ m ∈ members, m.1 ∉ slots.map Slot.name → skipFault m.2 = none

/-- The value of a member that occurs only once. -/
theorem lookup_eq_some {members : List (String × Json)} {name : String} {j : Json}
    (honce : (members.map Prod.fst).count name ≤ 1) :
    members.lookup name = some j ↔ (name, j) ∈ members := by
  induction members with
  | nil => simp
  | cons m members ih =>
    rw [List.map_cons, List.count_cons] at honce
    by_cases hname : name = m.1
    · subst hname
      rw [lookup_cons_self m.1 m.2 members]
      simp only [beq_self_eq_true, if_true] at honce
      have hnone : (m.1, j) ∉ members := by
        intro hmem
        have hpos := List.count_pos_iff.mpr (List.mem_map_of_mem (f := Prod.fst) hmem)
        simp only at hpos
        omega
      simp only [List.mem_cons, hnone, or_false, Option.some.injEq, Prod.ext_iff, true_and]
      exact eq_comm
    · rw [lookup_cons_of_ne hname m.2 members, ih (by omega)]
      have hne : (name, j) ≠ m := fun heq => hname (congrArg Prod.fst heq)
      simp [hne]

/-- Members that occur once are found in any order. -/
theorem lookup_perm {members members' : List (String × Json)} (h : members.Perm members')
    {name : String} (honce : (members.map Prod.fst).count name ≤ 1) :
    members.lookup name = members'.lookup name := by
  have honce' : (members'.map Prod.fst).count name ≤ 1 := by
    rwa [← (h.map Prod.fst).count_eq]
  refine Option.ext fun j => ?_
  rw [lookup_eq_some honce, lookup_eq_some honce', h.mem_iff]

section Select

variable {slots : List Slot} {members : List (String × Json)} {s s' : Selection}

theorem find?_declared {slot : Slot} {name : String}
    (h : slots.find? (·.name = name) = some slot) : slot ∈ slots ∧ slot.name = name := by
  have hname := List.find?_some h
  exact ⟨List.mem_of_find?_eq_some h, of_decide_eq_true hname⟩

theorem find?_undeclared {name : String} (h : slots.find? (·.name = name) = none) :
    name ∉ slots.map Slot.name := by
  intro hmem
  obtain ⟨slot, hslot, hname⟩ := List.mem_map.mp hmem
  exact List.find?_eq_none.mp h slot hslot (decide_eq_true hname)

theorem eq_of_name (hslots : (slots.map Slot.name).Nodup) {slot slot' : Slot} (h : slot ∈ slots)
    (h' : slot' ∈ slots) (hname : slot.name = slot'.name) : slot = slot' :=
  List.inj_on_of_nodup_map hslots h h' hname

/-- The order of the members does not matter. -/
theorem Accepts.perm {members' : List (String × Json)} (h : Accepts slots members)
    (hp : members.Perm members') : Accepts slots members' where
  once slot hslot := by
    rw [← (hp.map Prod.fst).count_eq]
    exact h.once slot hslot
  checked slot hslot j hj := h.checked slot hslot j (hp.mem_iff.mpr hj)
  passed m hm := h.passed m (hp.mem_iff.mpr hm)

/-- A declared member is new and passes its check. -/
theorem accepts_cons_declared (hslots : (slots.map Slot.name).Nodup) {slot : Slot}
    (hslot : slot ∈ slots) (j : Json) : Accepts slots ((slot.name, j) :: members) ↔
      slot.check j = .ok () ∧ slot.name ∉ members.map Prod.fst ∧ Accepts slots members := by
  constructor
  · intro h
    have honce := h.once slot hslot
    rw [List.map_cons, List.count_cons_self] at honce
    refine ⟨h.checked slot hslot j List.mem_cons_self, List.count_eq_zero.mp (by omega), ?_, ?_, ?_⟩
    · intro slot' hslot'
      have hcount := h.once slot' hslot'
      rw [List.map_cons, List.count_cons] at hcount
      omega
    · exact fun slot' hslot' k hk => h.checked slot' hslot' k (List.mem_cons_of_mem _ hk)
    · exact fun m hm => h.passed m (List.mem_cons_of_mem _ hm)
  · rintro ⟨hcheck, hnew, h⟩
    -- The new member counts for its own slot, for which there was none, and for no other.
    refine ⟨?_, ?_, ?_⟩
    · intro slot' hslot'
      rw [List.map_cons]
      by_cases hname : slot.name = slot'.name
      · have hzero := List.count_eq_zero.mpr hnew
        rw [← hname, List.count_cons_self]
        omega
      · rw [List.count_cons_of_ne hname]
        exact h.once slot' hslot'
    · intro slot' hslot' k hk
      rcases List.mem_cons.mp hk with heq | hk
      · obtain rfl := eq_of_name hslots hslot' hslot (congrArg Prod.fst heq)
        have hvalue : k = j := congrArg Prod.snd heq
        rw [hvalue]
        exact hcheck
      · exact h.checked slot' hslot' k hk
    · intro m hm hundeclared
      rcases List.mem_cons.mp hm with rfl | hm
      · exact absurd (List.mem_map_of_mem hslot) hundeclared
      · exact h.passed m hm hundeclared

/-- A member that is not declared holds no fault. -/
theorem accepts_cons_undeclared {name : String} (hname : name ∉ slots.map Slot.name) (j : Json) :
    Accepts slots ((name, j) :: members) ↔ skipFault j = none ∧ Accepts slots members := by
  have hne : ∀ slot ∈ slots, name ≠ slot.name := fun slot hslot heq =>
    hname (heq ▸ List.mem_map_of_mem hslot)
  constructor
  · intro h
    refine ⟨h.passed _ List.mem_cons_self hname, ?_, ?_, ?_⟩
    · intro slot hslot
      have hcount := h.once slot hslot
      rwa [List.map_cons, List.count_cons_of_ne (hne slot hslot)] at hcount
    · exact fun slot hslot k hk => h.checked slot hslot k (List.mem_cons_of_mem _ hk)
    · exact fun m hm => h.passed m (List.mem_cons_of_mem _ hm)
  · rintro ⟨hj, h⟩
    refine ⟨?_, ?_, ?_⟩
    · intro slot hslot
      rw [List.map_cons, List.count_cons_of_ne (hne slot hslot)]
      exact h.once slot hslot
    · intro slot hslot k hk
      rcases List.mem_cons.mp hk with heq | hk
      · exact absurd (congrArg Prod.fst heq).symm (hne slot hslot)
      · exact h.checked slot hslot k hk
    · intro m hm hundeclared
      rcases List.mem_cons.mp hm with rfl | hm
      · exact hj
      · exact h.passed m hm hundeclared

/-- A member that is declared, new and well formed is put with the others. -/
theorem selectMembers_member {slots : List Slot} {slot : Slot} {s : Selection} {name : String}
    {value : Json} {rest : List (Except Fault String × Json)}
    (hslot : slots.find? (·.name = name) = some slot) (hnew : s.lookup name = none)
    (hcheck : slot.check value = .ok ()) :
    selectMembers slots s ((.ok name, value) :: rest) =
      selectMembers slots ((name, value) :: s) rest := by
  rw [selectMembers, ok_mapError, ok_bind, hslot]
  simp only [hnew, Option.isSome_none, Bool.false_eq_true, if_false]
  rw [hcheck]
  rfl

/-- Going through the members of an object succeeds on acceptable members only, and finds them. -/
theorem accepts_of_selectMembers (hslots : (slots.map Slot.name).Nodup)
    (h : selectMembers slots s (members.map fun m => (.ok m.1, m.2)) = .ok s') :
    Accepts slots members ∧
      ∀ slot ∈ slots, s'.lookup slot.name = (s.lookup slot.name).or (members.lookup slot.name) ∧
        ((s.lookup slot.name).isSome → slot.name ∉ members.map Prod.fst) := by
  -- The induction is on the members, for any that were found before: `s` grows with each of them.
  induction members generalizing s with
  | nil =>
    cases h
    refine ⟨⟨?_, ?_, ?_⟩, fun slot _ => ⟨(Option.or_none).symm, fun _ => List.not_mem_nil⟩⟩
    · exact fun _ _ => Nat.zero_le _
    · exact fun _ _ _ hmem => absurd hmem List.not_mem_nil
    · exact fun _ hmem => absurd hmem List.not_mem_nil
  | cons m members ih =>
    obtain ⟨name, j⟩ := m
    rw [List.map_cons, selectMembers, ok_mapError, ok_bind] at h
    cases hfind : slots.find? (·.name = name) with
    | some slot =>
      obtain ⟨hslot, rfl⟩ := find?_declared hfind
      rw [hfind] at h
      by_cases hold : (s.lookup slot.name).isSome
      · simp only [hold, if_true] at h
        cases h
      · simp only [hold] at h
        obtain ⟨⟨⟩, hcheck, h⟩ := bind_eq_ok.mp h
        obtain ⟨haccepts, hlookup⟩ := ih h
        -- The member is found from now on, so it cannot come again.
        have hself := hlookup slot hslot
        rw [lookup_cons_self] at hself
        have hnew := hself.2 rfl
        refine ⟨(accepts_cons_declared hslots hslot j).mpr ⟨hcheck, hnew, haccepts⟩, ?_⟩
        intro slot' hslot'
        by_cases hname : slot'.name = slot.name
        · rw [hname, lookup_cons_self]
          rw [Option.not_isSome_iff_eq_none] at hold
          rw [hold]
          exact ⟨hself.1, fun hsome => by cases hsome⟩
        · have hother := hlookup slot' hslot'
          rw [lookup_cons_of_ne hname] at hother
          rw [lookup_cons_of_ne hname, List.map_cons, List.mem_cons, not_or]
          exact ⟨hother.1, fun hsome => ⟨hname, hother.2 hsome⟩⟩
    | none =>
      have hundeclared := find?_undeclared hfind
      rw [hfind] at h
      simp only at h
      cases hfault : skipFault j with
      | some f =>
        rw [hfault] at h
        cases h
      | none =>
        rw [hfault] at h
        obtain ⟨haccepts, hlookup⟩ := ih h
        refine ⟨(accepts_cons_undeclared hundeclared j).mpr ⟨hfault, haccepts⟩, ?_⟩
        intro slot hslot
        have hname : slot.name ≠ name := fun heq =>
          hundeclared (heq ▸ List.mem_map_of_mem hslot)
        rw [lookup_cons_of_ne hname, List.map_cons, List.mem_cons, not_or]
        exact ⟨(hlookup slot hslot).1, fun hsome => ⟨hname, (hlookup slot hslot).2 hsome⟩⟩

/-- Acceptable members are gone through without an error. -/
theorem Accepts.select (hslots : (slots.map Slot.name).Nodup) (h : Accepts slots members)
    (hnew : ∀ name ∈ members.map Prod.fst, s.lookup name = none) :
    ∃ s', selectMembers slots s (members.map fun m => (.ok m.1, m.2)) = .ok s' := by
  induction members generalizing s with
  | nil => exact ⟨s, rfl⟩
  | cons m members ih =>
    obtain ⟨name, j⟩ := m
    have hrest : ∀ name' ∈ members.map Prod.fst, s.lookup name' = none := fun name' hname' =>
      hnew name' (List.mem_cons_of_mem _ hname')
    cases hfind : slots.find? (·.name = name) with
    | some slot =>
      obtain ⟨hslot, rfl⟩ := find?_declared hfind
      obtain ⟨hcheck, hunique, h⟩ := (accepts_cons_declared hslots hslot j).mp h
      rw [List.map_cons, selectMembers_member hfind (hnew _ List.mem_cons_self) hcheck]
      refine ih h fun name' hname' => ?_
      have hne : name' ≠ slot.name := fun heq => hunique (heq ▸ hname')
      rw [lookup_cons_of_ne hne]
      exact hrest name' hname'
    | none =>
      obtain ⟨hfault, h⟩ := (accepts_cons_undeclared (find?_undeclared hfind) j).mp h
      obtain ⟨s', hs'⟩ := ih h hrest
      refine ⟨s', ?_⟩
      rw [List.map_cons, selectMembers, ok_mapError, ok_bind, hfind]
      simp only [hfault]
      exact hs'

/-- A complete object whose members are all found gives what was found. -/
theorem selectFields_record {o : Origin} {name : String} {slots : List Slot} {s : Selection}
    {members : List (String × Json)}
    (h : selectMembers slots [] (members.map fun m => (.ok m.1, m.2)) = .ok s) :
    selectFields o name slots (record members) = .ok s := by
  rw [record, selectFields, h]
  rfl

/-- Only members whose names can be had are gone through. -/
theorem names_of_selectMembers {members : List (Except Fault String × Json)}
    (h : selectMembers slots s members = .ok s') :
    ∃ named : List (String × Json), members = named.map fun m => (.ok m.1, m.2) := by
  induction members generalizing s with
  | nil => exact ⟨[], rfl⟩
  | cons m members ih =>
    obtain ⟨name, j⟩ := m
    rw [selectMembers] at h
    obtain ⟨name', hname, h⟩ := bind_eq_ok.mp h
    have hrest : ∃ s, selectMembers slots s members = .ok s' := by
      split at h
      · split at h
        · cases h
        · obtain ⟨_, -, h⟩ := bind_eq_ok.mp h
          exact ⟨_, h⟩
      · split at h
        · cases h
        · exact ⟨_, h⟩
    obtain ⟨s, h⟩ := hrest
    obtain ⟨named, rfl⟩ := ih h
    cases name with
    | error f => cases hname
    | ok name => exact ⟨(name, j) :: named, rfl⟩

end Select

end EnvRegistry.Json

import EnvRegistry.Proofs.Fields
import EnvRegistry.Proofs.Json.RoundTrip
import EnvRegistry.Proofs.KeySet

/-! # Records come back from their texts

    The text of a record decodes to the record.  A store that keeps texts
    therefore gives back what was put into it.

    A record is written as an object of its fields in the order of their
    declaration, so it is enough that each field has its value
    (`Layout.Proper.decoder_fields`). -/

namespace EnvRegistry

namespace Json

/-! ## Section 1: Plain values decode -/

@[simp] theorem word_nat (id : UInt32) : word (nat id.toNat) = .ok id := by
  have hlt : id.toNat < UInt32.size := id.toNat_lt
  have hint : Number.toInt? { whole := id.toNat } = some (id.toNat : Int) := by
    have : id.toNat < UInt64.size := by simp only [UInt32.size, UInt64.size] at *; omega
    simp [Number.toInt?, this]
  have hrange : (0 : Int) ≤ id.toNat ∧ (id.toNat : Int) < UInt32.size := by omega
  simp only [nat, word, hint, if_pos hrange, Int.toNat_natCast, UInt32.ofNat_toNat]

@[simp] theorem text_string (s : String) : text (.string s) = .ok s := rfl

/-- A list whose elements decode to what they were made of does so itself. -/
theorem listOf_list {α : Type} {d : Decoder α} (enc : α → Json) (l : List α)
    (h : ∀ a ∈ l, d (enc a) = .ok a) : listOf d (list (l.map enc)) = .ok l := by
  have hmap : (l.map enc).mapM d = .ok l := by
    induction l with
    | nil => rfl
    | cons a l ih =>
      rw [List.map_cons, List.mapM_cons, h a List.mem_cons_self,
        ih fun b hb => h b (List.mem_cons_of_mem _ hb)]
      rfl
  simp only [list, listOf, hmap]
  rfl

@[simp] theorem listOf_word_ids (l : List UInt32) : listOf word (ids l) = .ok l :=
  listOf_list (fun id => nat id.toNat) l fun id _ => word_nat id

/-- A set comes back from its keys in any order. -/
theorem setOf_word_ids {s : KeySet UInt32} {l : List UInt32} (h : l.Perm s.toList) :
    setOf word (ids l) = .ok s := by
  unfold setOf
  rw [listOf_word_ids]
  refine congrArg Except.ok (KeySet.ext_mem fun id => ?_)
  rw [KeySet.mem_ofList, h.mem_iff, KeySet.mem_iff]

/-- Decoding the text of a plain value is decoding the value. -/
theorem decodeText_compact {α : Type} {d : Decoder α} {j : Json} {a : α} (hj : j.Plain)
    (h : d j = .ok a) : decodeText d (compact j) = .ok a := by
  simp only [decodeText, read_compact hj, Document.decode, h]
  rfl

end Json

open Json

/-! ## Section 2: The three kinds of record -/

namespace Environment

theorem plain_toJson (e : Environment) : e.toJson.Plain := by
  apply plain_record
  simp only [List.mem_cons, List.not_mem_nil, or_false, forall_eq_or_imp, forall_eq]
  exact ⟨rfl, trivial, rfl, plain_ids _⟩

theorem decoder_toJson (o : Origin) (e : Environment) : decoder o e.toJson = .ok e := by
  have hid : idField.decode (nat e.id.toNat) = .ok e.id := word_nat e.id
  have hname : nameField.decode (.string e.name) = .ok e.name := text_string e.name
  have hgroup : groupField.decode (nat e.groupId.toNat) = .ok e.groupId := word_nat e.groupId
  have htags : tagsField.decode (ids e.tagIds) = .ok e.tagIds := listOf_word_ids e.tagIds
  rw [decoder_eq]
  refine layout_proper.decoder_fields (.refl _) ?_
  rw [layout, build_cons (RecordField.from_lookup rfl hid),
    build_cons (RecordField.from_lookup rfl hname), build_cons (RecordField.from_lookup rfl hgroup),
    build_cons (RecordField.from_lookup rfl htags)]
  rfl

/-- An environment comes back from its text. -/
theorem decodeText_toJson (e : Environment) :
    decodeText (decoder .text) e.toJson.compact = .ok e :=
  decodeText_compact e.plain_toJson (decoder_toJson _ e)

end Environment

namespace Tag

/-- A tag as JSON, with its members listed in some order. -/
def listing (t : Tag) (l : List EnvironmentId) : Json := .record [
  ("id", .nat t.id.toNat),
  ("name", .string t.name),
  ("endpoints", .ids l)]

theorem plain_listing (t : Tag) (l : List EnvironmentId) : (t.listing l).Plain := by
  apply plain_record
  simp only [List.mem_cons, List.not_mem_nil, or_false, forall_eq_or_imp, forall_eq]
  exact ⟨rfl, trivial, plain_ids _⟩

theorem decoder_listing (o : Origin) (t : Tag) {l : List EnvironmentId}
    (h : l.Perm t.members.toList) : decoder o (t.listing l) = .ok t := by
  have hid : idField.decode (nat t.id.toNat) = .ok t.id := word_nat t.id
  have hname : nameField.decode (.string t.name) = .ok t.name := text_string t.name
  have hmembers : membersField.decode (ids l) = .ok t.members := setOf_word_ids h
  rw [decoder_eq]
  refine layout_proper.decoder_fields (.refl _) ?_
  rw [layout, build_cons (RecordField.from_lookup rfl hid),
    build_cons (RecordField.from_lookup rfl hname),
    build_cons (RecordField.from_lookup rfl hmembers)]
  rfl

/-- A tag comes back from its text, in whatever order its members are listed. -/
theorem decodeText_listing (t : Tag) {l : List EnvironmentId} (h : l.Perm t.members.toList) :
    decodeText (decoder .text) (t.listing l).compact = .ok t :=
  decodeText_compact (t.plain_listing l) (decoder_listing _ t h)

/-- A tag comes back from its text. -/
theorem decodeText_toJson (t : Tag) :
    decodeText (decoder .text) t.toJson.compact = .ok t :=
  t.decodeText_listing (.refl _)

end Tag

namespace EdgeGroup

theorem plain_toJson (g : EdgeGroup) : g.toJson.Plain := by
  apply plain_record
  simp only [List.mem_cons, List.not_mem_nil, or_false, forall_eq_or_imp, forall_eq]
  exact ⟨rfl, trivial, plain_ids _⟩

theorem decoder_toJson (o : Origin) (g : EdgeGroup) : decoder o g.toJson = .ok g := by
  have hid : idField.decode (nat g.id.toNat) = .ok g.id := word_nat g.id
  have hname : nameField.decode (.string g.name) = .ok g.name := text_string g.name
  have hmembers : membersField.decode (ids g.members) = .ok g.members := listOf_word_ids g.members
  rw [decoder_eq]
  refine layout_proper.decoder_fields (.refl _) ?_
  rw [layout, build_cons (RecordField.from_lookup rfl hid),
    build_cons (RecordField.from_lookup rfl hname),
    build_cons (RecordField.from_lookup rfl hmembers)]
  rfl

/-- An edge group comes back from its text. -/
theorem decodeText_toJson (g : EdgeGroup) :
    decodeText (decoder .text) g.toJson.compact = .ok g :=
  decodeText_compact g.plain_toJson (decoder_toJson _ g)

end EdgeGroup

end EnvRegistry

import EnvRegistry.Config.Codec
import EnvRegistry.Proofs.Record.RoundTrip
import EnvRegistry.Relations.Codec
import EnvRegistry.Relations.Visiting

/-! # Whatever is sent comes back

    Every kind of value that is read from and written to JSON comes back from
    its text (`wire_roundTrips`).  Records do so by `decodeText_toJson`.  This
    module adds updates, requests, outcomes and configurations, of which some
    fields are left out when there is nothing to say: for each of their fields,
    what is taken out of the members that were written is what was written
    (`RecordField.from_optional`, `RecordField.from_list`), and an object
    decodes if its fields do (`Layout.Proper.decoder_fields`). -/

namespace EnvRegistry

open Json

/-! ## Section 1: Model -/

namespace Json

/-- The text of what a text stands for. -/
def rewrite {α : Type} (d : Decoder α) (enc : α → Json) (s : String) : Except DecodeError String :=
  (decodeText d s).map fun a => (enc a).compact

/-- Every value comes back from its text, and a text that was written anew is not changed by writing
it anew. -/
structure RoundTrips {α : Type} (d : Decoder α) (enc : α → Json) : Prop where
  decode : ∀ a, decodeText d (enc a).compact = .ok a
  again : ∀ s a, decodeText d s = .ok a → decodeText d (enc a).compact = .ok a
  fixed : ∀ s s', rewrite d enc s = .ok s' → rewrite d enc s' = .ok s'

/-- It is enough that values come back from their texts. -/
theorem RoundTrips.of_decode {α : Type} {d : Decoder α} {enc : α → Json}
    (h : ∀ a, decodeText d (enc a).compact = .ok a) : RoundTrips d enc where
  decode := h
  again _ a _ := h a
  fixed := by
    intro s s' hs
    unfold rewrite at hs ⊢
    cases ha : decodeText d s with
    | error e =>
      rw [ha] at hs
      cases hs
    | ok a =>
      rw [ha] at hs
      cases hs
      rw [h a]
      rfl

end Json

/-! ## Section 2: Fields of every kind -/

section Fields

variable {name : String} {members : Selection}

theorem optional_ids (l : List UInt32) : optional Relations.idList (ids l) = .ok (some l) := by
  show some <$> Relations.idList (ids l) = _
  rw [Relations.idList, listOf_word_ids]
  rfl

theorem optional_nat (id : UInt32) : optional word (nat id.toNat) = .ok (some id) := by
  show some <$> word (nat id.toNat) = _
  rw [word_nat]
  rfl

theorem listOf_text (l : List String) : listOf text (list (l.map Json.string)) = .ok l :=
  listOf_list Json.string l fun s _ => text_string s

/-- The name of a member that is there or not. -/
theorem names_optional {α : Type} (a : Option α) (name : String) (enc : α → Json) :
    ((a.map fun a => (name, enc a)).toList.map Prod.fst).Sublist [name] := by
  cases a with
  | none => exact List.nil_sublist _
  | some a => exact .refl _

theorem plain_optional {α : Type} (a : Option α) (name : String) {enc : α → Json}
    (h : ∀ a, (enc a).Plain) : ∀ m ∈ (a.map fun a => (name, enc a)).toList, m.2.Plain := by
  cases a with
  | none => exact fun m hm => absurd hm List.not_mem_nil
  | some a => exact fun m hm => List.mem_singleton.mp hm ▸ h a

end Fields

namespace Relations

/-! ## Section 3: Updates -/

namespace Update

/-- The members of an update as JSON. -/
def members (u : Update) : List (String × Json) :=
  (u.group.map fun g => ("group", nat g.toNat)).toList ++
    (u.tags.map fun l => ("tags", ids l)).toList ++
    (u.edgeGroups.map fun l => ("edgeGroups", ids l)).toList

theorem plain_toJson (u : Update) : u.toJson.Plain := by
  apply plain_record
  simp only [List.forall_mem_append]
  exact ⟨⟨plain_optional _ _ fun _ => rfl, plain_optional _ _ plain_ids⟩,
    plain_optional _ _ plain_ids⟩

theorem decoder_toJson (o : Origin) (u : Update) : decoder o u.toJson = .ok u := by
  have hlookup : u.members.lookup "group" = u.group.map (fun g => nat g.toNat) ∧
      u.members.lookup "tags" = u.tags.map ids ∧
      u.members.lookup "edgeGroups" = u.edgeGroups.map ids := by
    unfold members
    cases u.group <;> cases u.tags <;> cases u.edgeGroups <;> exact ⟨rfl, rfl, rfl⟩
  have hgroup : groupField.from u.members = .ok u.group :=
    RecordField.from_optional _ hlookup.1 rfl optional_nat
  have htags : tagsField.from u.members = .ok u.tags :=
    RecordField.from_optional _ hlookup.2.1 rfl optional_ids
  have hgroups : edgeGroupsField.from u.members = .ok u.edgeGroups :=
    RecordField.from_optional _ hlookup.2.2 rfl optional_ids
  have hnames : (u.members.map Prod.fst).Sublist ["group", "tags", "edgeGroups"] := by
    unfold members
    rw [List.map_append, List.map_append]
    exact ((names_optional u.group _ _).append (names_optional u.tags _ _)).append
      (names_optional u.edgeGroups _ _)
  rw [decoder_eq]
  refine layout_proper.decoder_fields hnames ?_
  rw [layout, build_cons hgroup, build_cons htags, build_cons hgroups]
  rfl

/-- An update comes back from its text. -/
theorem decodeText_toJson (u : Update) : decodeText (decoder .text) u.toJson.compact = .ok u :=
  decodeText_compact u.plain_toJson (decoder_toJson _ u)

end Update

/-! ## Section 4: Outcomes -/

namespace Outcome

theorem plain_members (o : Outcome) : ∀ m ∈ o.members, m.2.Plain := by
  simp only [members, List.forall_mem_cons]
  exact ⟨trivial, trivial, trivial, trivial, List.forall_mem_nil _⟩

theorem decoder_toJson (origin : Origin) (o : Outcome) : decoder origin o.toJson = .ok o := by
  rw [decoder_eq]
  exact layout_proper.decoder_fields (.refl _) rfl

/-- An outcome comes back from its text. -/
theorem decodeText_toJson (o : Outcome) : decodeText (decoder .text) o.toJson.compact = .ok o :=
  decodeText_compact (plain_record o.plain_members) (decoder_toJson _ o)

end Outcome

/-! ## Section 5: What was assigned -/

namespace Assigned

theorem decoder_toJson (a : Assigned) : decoder a.toJson = .ok a := by
  have hselect : selectMembers none []
      (("environment_id", nat a.environmentId.toNat) :: a.outcome.members |>.map
        fun m => (.ok m.1, m.2)) = .ok (some a.environmentId, a.outcome.members) := by
    rw [List.map_cons, selectMembers, ok_mapError, ok_bind, if_pos rfl, word_nat]
    rfl
  -- The outcome is taken out of all members that are not the id.
  have houtcome : outcomeOf [] a.outcome.members = .ok a.outcome := rfl
  rw [toJson, record, decoder, hselect]
  simp only [ok_bind, endOf, houtcome]
  rfl

/-- What was assigned comes back from its text. -/
theorem decodeText_toJson (a : Assigned) : decodeText decoder a.toJson.compact = .ok a := by
  refine decodeText_compact (plain_record ?_) (decoder_toJson a)
  exact List.forall_mem_cons.mpr ⟨rfl, a.outcome.plain_members⟩

end Assigned

/-! ## Section 6: Requests -/

namespace Request

theorem names_namesMember (name : String) (names : List String) :
    ((namesMember name names).map Prod.fst).Sublist [name] := by
  cases names with
  | nil => exact List.nil_sublist _
  | cons n names => exact .refl _

theorem plain_namesMember (name : String) (names : List String) :
    ∀ m ∈ namesMember name names, m.2.Plain := by
  cases names with
  | nil => exact fun m hm => absurd hm List.not_mem_nil
  | cons n names =>
    intro m hm
    rw [List.mem_singleton.mp hm]
    refine plain_list fun j hj => ?_
    obtain ⟨_, -, rfl⟩ := List.mem_map.mp hj
    trivial

/-- A group that may be absent, as JSON. -/
def groupJson (group : Option GroupId) : Json :=
  match group with
  | some g => .nat g.toNat
  | none => .null

/-- The members of a request as JSON. -/
def members (r : Request) : List (String × Json) :=
  [("tags", .ids r.tags), ("edgeGroups", .ids r.edgeGroups)] ++
    namesMember "createTags" r.createTags ++
    namesMember "createEdgeGroups" r.createEdgeGroups ++
    [("group", groupJson r.group), ("overrideTags", .bool r.overrideTags),
      ("overrideEdgeGroups", .bool r.overrideEdgeGroups),
      ("overrideGroup", .bool r.overrideGroup)]

theorem decode_groupJson (group : Option GroupId) :
    optional word (groupJson group) = .ok group := by
  cases group with
  | none => rfl
  | some g => exact optional_nat g

theorem plain_toJson (r : Request) : r.toJson.Plain := by
  show (record r.members).Plain
  apply plain_record
  unfold members
  simp only [List.forall_mem_append, List.forall_mem_cons]
  have hgroup : (groupJson r.group).Plain := by
    cases r.group with
    | none => trivial
    | some g => rfl
  exact ⟨⟨⟨⟨plain_ids _, plain_ids _, List.forall_mem_nil _⟩, plain_namesMember _ _⟩,
    plain_namesMember _ _⟩, hgroup, trivial, trivial, trivial, List.forall_mem_nil _⟩

/-- What the members say of every field. -/
theorem lookup_members (r : Request) : r.members.lookup "tags" = some (ids r.tags) ∧
    r.members.lookup "edgeGroups" = some (ids r.edgeGroups) ∧
    r.members.lookup "createTags" =
      (if r.createTags.isEmpty then none else some (list (r.createTags.map Json.string))) ∧
    r.members.lookup "createEdgeGroups" = (if r.createEdgeGroups.isEmpty then none
      else some (list (r.createEdgeGroups.map Json.string))) ∧
    r.members.lookup "group" = some (groupJson r.group) ∧
    r.members.lookup "overrideTags" = some (.bool r.overrideTags) ∧
    r.members.lookup "overrideEdgeGroups" = some (.bool r.overrideEdgeGroups) ∧
    r.members.lookup "overrideGroup" = some (.bool r.overrideGroup) := by
  unfold members
  cases r.createTags <;> cases r.createEdgeGroups <;>
    exact ⟨rfl, rfl, rfl, rfl, rfl, rfl, rfl, rfl⟩

theorem names_members (r : Request) : (r.members.map Prod.fst).Sublist
    ["tags", "edgeGroups", "createTags", "createEdgeGroups", "group", "overrideTags",
      "overrideEdgeGroups", "overrideGroup"] := by
  unfold members
  simp only [List.map_append]
  exact (((List.Sublist.refl ["tags", "edgeGroups"]).append (names_namesMember _ _)).append
    (names_namesMember _ _)).append (.refl _)

theorem decoder_toJson (o : Origin) (r : Request) : decoder o r.toJson = .ok r := by
  obtain ⟨htags, hgroups, hcreate, hcreate', hgroup, hover, hover', hover''⟩ := r.lookup_members
  have htags : tagsField.from r.members = .ok r.tags :=
    RecordField.from_lookup htags (listOf_word_ids _)
  have hgroups : edgeGroupsField.from r.members = .ok r.edgeGroups :=
    RecordField.from_lookup hgroups (listOf_word_ids _)
  have hcreate : createTagsField.from r.members = .ok r.createTags :=
    RecordField.from_list (fun l => list (l.map Json.string)) hcreate rfl (listOf_text _)
  have hcreate' : createEdgeGroupsField.from r.members = .ok r.createEdgeGroups :=
    RecordField.from_list (fun l => list (l.map Json.string)) hcreate' rfl (listOf_text _)
  have hgroup : groupField.from r.members = .ok r.group :=
    RecordField.from_lookup hgroup (decode_groupJson _)
  have hover : (overrideField "overrideTags").from r.members = .ok r.overrideTags :=
    RecordField.from_lookup hover rfl
  have hover' : (overrideField "overrideEdgeGroups").from r.members = .ok r.overrideEdgeGroups :=
    RecordField.from_lookup hover' rfl
  have hover'' : (overrideField "overrideGroup").from r.members = .ok r.overrideGroup :=
    RecordField.from_lookup hover'' rfl
  rw [decoder_eq]
  refine layout_proper.decoder_fields r.names_members ?_
  rw [layout, build_cons htags, build_cons hgroups, build_cons hcreate, build_cons hcreate',
    build_cons hgroup, build_cons hover, build_cons hover', build_cons hover'']
  rfl

/-- A request comes back from its text. -/
theorem decodeText_toJson (r : Request) : decodeText (decoder .text) r.toJson.compact = .ok r :=
  decodeText_compact r.plain_toJson (decoder_toJson _ r)

end Request

end Relations

/-! ## Section 7: Configurations -/

namespace Config

/-- The members of the refresh section as JSON. -/
def refreshMembers (command : Option String) : List (String × Json) :=
  (command.map fun s => ("command", Json.string s)).toList

theorem plain_toJson (c : Config) : c.toJson.Plain := by
  apply plain_record
  simp only [List.forall_mem_cons]
  refine ⟨rfl, plain_record ?_, plain_record ?_, List.forall_mem_nil _⟩
  · exact List.forall_mem_cons.mpr ⟨trivial, List.forall_mem_nil _⟩
  · exact plain_optional _ _ fun _ => trivial

theorem databaseSection_record (o : Origin) (path : String) :
    databaseSection o (record [("path", .string path)]) = .ok path := rfl

theorem refreshSection_record (o : Origin) (command : Option String) :
    refreshSection o (record (refreshMembers command)) = .ok command := by
  cases command with
  | none => rfl
  | some s => rfl

theorem decoder_toJson (o : Origin) (c : Config) : decoder o c.toJson = .ok c := by
  have hversion : versionField.decode (nat c.version.toNat) = .ok c.version := word_nat _
  have hdatabase : (databaseField o).decode (record [("path", .string c.databasePath)]) =
      .ok c.databasePath := databaseSection_record o _
  have hrefresh : (refreshField o).decode (record (refreshMembers c.refreshCommand)) =
      .ok c.refreshCommand := refreshSection_record o _
  rw [decoder_eq]
  refine (layout_proper o).decoder_fields (.refl _) ?_
  rw [layout, build_cons (RecordField.from_lookup rfl hversion),
    build_cons (RecordField.from_lookup rfl hdatabase),
    build_cons (RecordField.from_lookup rfl hrefresh)]
  rfl

/-- A configuration comes back from its text. -/
theorem decodeText_toJson (c : Config) : decodeText (decoder .text) c.toJson.compact = .ok c :=
  decodeText_compact c.plain_toJson (decoder_toJson _ c)

end Config

namespace ConfigWarning

theorem decode_level (level : WarningLevel) :
    levelField.decode (.string level.name) = .ok level := by
  cases level with
  | warning => rfl
  | error => rfl

theorem decoder_toJson (o : Origin) (w : ConfigWarning) : decoder o w.toJson = .ok w := by
  have hmessage : messageField.decode (.string w.message) = .ok w.message := text_string _
  rw [decoder_eq]
  refine layout_proper.decoder_fields (.refl _) ?_
  rw [layout, build_cons (RecordField.from_lookup rfl (decode_level w.level)),
    build_cons (RecordField.from_lookup rfl hmessage)]
  rfl

/-- A warning comes back from its text. -/
theorem decodeText_toJson (w : ConfigWarning) :
    decodeText (decoder .text) w.toJson.compact = .ok w := by
  refine decodeText_compact (plain_record ?_) (decoder_toJson _ w)
  simp only [List.forall_mem_cons]
  exact ⟨trivial, trivial, List.forall_mem_nil _⟩

end ConfigWarning

/-! ## Section 8: Everything -/

/-- Every kind of value comes back from its text, and a tag does in whatever order its members are
listed. -/
theorem wire_roundTrips :
    RoundTrips (Environment.decoder .text) Environment.toJson ∧
    RoundTrips (EdgeGroup.decoder .text) EdgeGroup.toJson ∧
    RoundTrips (Tag.decoder .text) Tag.toJson ∧
    RoundTrips (Relations.Update.decoder .text) Relations.Update.toJson ∧
    RoundTrips (Relations.Request.decoder .text) Relations.Request.toJson ∧
    RoundTrips (Relations.Outcome.decoder .text) Relations.Outcome.toJson ∧
    RoundTrips Relations.Assigned.decoder Relations.Assigned.toJson ∧
    RoundTrips (Config.decoder .text) Config.toJson ∧
    RoundTrips (ConfigWarning.decoder .text) ConfigWarning.toJson ∧
    ∀ o : Relations.Arrangement,
      RoundTrips (Tag.decoder .text) fun t => t.listing (o.order t.members.toList) :=
  ⟨.of_decode Environment.decodeText_toJson, .of_decode EdgeGroup.decodeText_toJson,
    .of_decode Tag.decodeText_toJson, .of_decode Relations.Update.decodeText_toJson,
    .of_decode Relations.Request.decodeText_toJson, .of_decode Relations.Outcome.decodeText_toJson,
    .of_decode Relations.Assigned.decodeText_toJson, .of_decode Config.decodeText_toJson,
    .of_decode ConfigWarning.decodeText_toJson,
    fun o => .of_decode fun t => t.decodeText_listing (o.perm _)⟩

end EnvRegistry

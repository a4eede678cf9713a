import EnvRegistry.Proofs.Database.Ids
import EnvRegistry.Proofs.Database.Order

/-! # A new environment

    A new environment is first listed in the tags that it is to wear, one after
    the other, and only then put under its id.  A tag may be named twice, and any
    of them may be missing.  `createEnvironment_enrolls` says when this succeeds
    and what it leaves, which is one more environment, known to each of its tags,
    and all else as it was.

    The invariant of the loop is `Listed`: the tags seen so far list the id, and
    nothing else has been touched.  A step either keeps it or finds its tag
    missing.  The tags themselves have not listed the id before, because they
    list only environments that are there, and the next id is not. -/

namespace EnvRegistry.Database

open Relations

/-! ## Section 1: Model -/

/-- The list has the members of `source`, each once, in the order of their first mentions there. -/
structure FirstMentions (l source : List UInt32) : Prop where
  nodup : l.Nodup
  mem_iff : ∀ a, a ∈ l ↔ a ∈ source
  inOrder : l.Pairwise fun a b => source.idxOf a < source.idxOf b

/-- `db'` is `db` with the new environment `e`, asked for with a name, a group and tags. -/
structure Enrolled (name : String) (group : Option GroupId) (tags : List TagId) (e : Environment)
    (db db' : Database) : Prop where
  id : e.id.toNat = (db.environments.lastId?.getD 0).toNat + 1
  name : e.name = name
  placed : ∀ g, group = some g → g ≠ 0 → e.groupId = g
  unplaced : (∀ g, group = some g → g = 0) → e.groupId = 1
  tagIds : FirstMentions e.tagIds tags
  stored : db'.environment e.id = .ok e
  ids : db'.environments.ids = db.environments.ids ++ [e.id]
  others : ∀ id, id ≠ e.id → db'.environments.get? id = db.environments.get? id
  /-- Each tag that is named has one member more. -/
  joined : ∀ t ∈ tags, ∃ tag, db.tag t = .ok tag ∧ ¬ e.id ∈ tag.members ∧
    db'.tag t = .ok { tag with members := tag.members.insert e.id }
  tags : ∀ t, t ∉ tags → db'.tags.get? t = db.tags.get? t
  edgeGroups : db'.edgeGroups = db.edgeGroups

/-- Why there can be no such environment in the database: the ids are used up, or else a tag is not
there, and it is the first such tag that is named. -/
def Refused (tags : List TagId) (db : Database) (err : RegistryError) : Prop :=
  (db.environments.lastId?.getD 0).toNat = 4294967295 ∧ err = .persistence .idsExhausted ∨
    (db.environments.lastId?.getD 0).toNat < 4294967295 ∧
      ∃ t, tags.find? (fun t => !db.tags.contains t) = some t ∧ err = .notFound .tag t

/-- `db'` is `db`, with `id` listed in the tags `seen`. -/
structure Listed (id : EnvironmentId) (seen : List TagId) (db db' : Database) : Prop where
  environments : db'.environments = db.environments
  edgeGroups : db'.edgeGroups = db.edgeGroups
  joined : ∀ t ∈ seen, ∃ tag, db.tag t = .ok tag ∧ db'.tag t = .ok (tag.addMember id)
  others : ∀ t, t ∉ seen → db'.tags.get? t = db.tags.get? t
  own : Rack.tags.Own db'.shelf

/-! ## Section 2: First mentions -/

/-- What comes earlier among some members of a list comes earlier in the list. -/
theorem idxOf_lt_of_filter {p : UInt32 → Bool} {l : List UInt32} {a b : UInt32} (ha : p a = true)
    (hb : p b = true) (h : (l.filter p).idxOf a < (l.filter p).idxOf b) :
    l.idxOf a < l.idxOf b := by
  induction l with
  | nil => exact absurd h (Nat.lt_irrefl _)
  | cons c l ih =>
    by_cases hc : p c = true
    · rw [List.filter_cons_of_pos hc] at h
      by_cases hbc : c = b
      · rw [hbc, List.idxOf_cons_self] at h
        exact absurd h (Nat.not_lt_zero _)
      · rw [List.idxOf_cons_ne _ hbc] at h ⊢
        by_cases hac : c = a
        · rw [hac, List.idxOf_cons_self]
          exact Nat.succ_pos _
        · rw [List.idxOf_cons_ne _ hac] at h ⊢
          exact Nat.succ_lt_succ (ih (Nat.lt_of_succ_lt_succ h))
    · -- Neither of the two is the member that is left out.
      rw [List.filter_cons_of_neg hc] at h
      have hac : c ≠ a := fun heq => hc (heq ▸ ha)
      have hbc : c ≠ b := fun heq => hc (heq ▸ hb)
      rw [List.idxOf_cons_ne _ hac, List.idxOf_cons_ne _ hbc]
      exact Nat.succ_lt_succ (ih h)

theorem pairwise_idxOf_eraseDups (l : List UInt32) :
    l.eraseDups.Pairwise fun a b => l.idxOf a < l.idxOf b := by
  match l with
  | [] => exact .nil
  | c :: l =>
    have hrest := pairwise_idxOf_eraseDups (l.filter fun b => !b == c)
    have hne : ∀ a ∈ (l.filter fun b => !b == c).eraseDups, c ≠ a := by
      intro a ha heq
      rw [List.mem_eraseDups, List.mem_filter, heq] at ha
      simp at ha
    rw [List.eraseDups_cons]
    refine .cons ?_ (hrest.imp_of_mem ?_)
    · -- The first member is mentioned before all others.
      intro b hb
      rw [List.idxOf_cons_self, List.idxOf_cons_ne _ (hne b hb)]
      exact Nat.succ_pos _
    · intro a b ha hb hlt
      rw [List.idxOf_cons_ne _ (hne a ha), List.idxOf_cons_ne _ (hne b hb)]
      rw [List.mem_eraseDups, List.mem_filter] at ha hb
      exact Nat.succ_lt_succ (idxOf_lt_of_filter ha.2 hb.2 hlt)
termination_by l.length
decreasing_by exact Nat.lt_succ_of_le (List.length_filter_le _ _)

theorem firstMentions_eraseDups (l : List UInt32) : FirstMentions l.eraseDups l where
  nodup := by
    refine (pairwise_idxOf_eraseDups l).imp ?_
    rintro a _ hlt rfl
    exact Nat.lt_irrefl _ hlt
  mem_iff _ := List.mem_eraseDups
  inOrder := pairwise_idxOf_eraseDups l

/-! ## Section 3: Listing the environment in its tags -/

section Listing

variable {id : EnvironmentId} {seen : List TagId} {db db₁ : Database}

theorem tag_putTag (db : Database) (a : Tag) (t : TagId) :
    (db.putTag a).tag t = if t = a.id then .ok a else db.tag t := by
  rw [tag_eq, tag_eq, shelf_putTag]
  exact Rack.look_put a List.not_mem_nil

theorem mutateTag_eq (t : TagId) (f : Tag → Tag) :
    (RelationStore.mutateTag t f : StoreM Database Unit) =
      mutate .tags (Tag.decoder .text) Database.tags putTag t f := rfl

/-- A tag of which there is no text cannot be changed. -/
theorem mutateTag_missing {t : TagId} (f : Tag → Tag) (h : db.tags.get? t = none) :
    RelationStore.mutateTag t f db = (.error (.notFound .tag t), db) := by
  have hquery : (query (·.tag t) : StoreM Database Tag) db = (.error (.notFound .tag t), db) := by
    rw [query, Database.tag, readRecord, h]
  exact StoreM.bind_error hquery

theorem Legible.contains_tag (hdb : db.Legible) {t : TagId} :
    db.tags.contains t = true ↔ ∃ tag, db.tag t = .ok tag := by
  rw [Table.contains_iff]
  constructor
  · rintro ⟨text, htext⟩
    obtain ⟨tag, htag, -⟩ := hdb.tags t text htext
    refine ⟨tag, ?_⟩
    rw [Database.tag, readRecord, htext]
    exact htag
  · rintro ⟨tag, htag⟩
    cases htext : db.tags.get? t with
    | some text => exact ⟨text, rfl⟩
    | none =>
      rw [Database.tag, readRecord, htext] at htag
      cases htag

theorem Listed.refl (hdb : db.Legible) (id : EnvironmentId) : Listed id [] db db := by
  obtain ⟨R, hR⟩ := legible_iff.mp hdb
  exact ⟨rfl, rfl, nofun, fun _ _ => rfl, hR.own.shelf.tags⟩

/-- What is read of a tag that is there while its environment is being listed. -/
theorem Listed.read (h : Listed id seen db db₁) {t : TagId} {tag : Tag}
    (htag : db.tag t = .ok tag) :
    ∃ tag₁, db₁.tag t = .ok tag₁ ∧ tag₁.addMember id = tag.addMember id := by
  by_cases ht : t ∈ seen
  · -- The tag is named once more.
    obtain ⟨tag', htag', hread⟩ := h.joined t ht
    cases htag.symm.trans htag'
    exact ⟨_, hread, addMember_addMember tag id⟩
  · refine ⟨tag, ?_, rfl⟩
    rw [← htag, Database.tag, Database.tag, readRecord, readRecord, h.others t ht]

/-- One more tag lists the environment, unless it is not there. -/
theorem Listed.step (hdb : db.Legible) (h : Listed id seen db db₁) (t : TagId) :
    (db.tags.contains t = false ∧
        RelationStore.mutateTag t (·.addMember id) db₁ = (.error (.notFound .tag t), db₁)) ∨
      db.tags.contains t = true ∧ ∃ db₂, Listed id (seen ++ [t]) db db₂ ∧
        RelationStore.mutateTag t (·.addMember id) db₁ = (.ok (), db₂) := by
  cases hcontains : db.tags.contains t with
  | false =>
    -- A tag that lists the environment by now was there to begin with.
    have hunseen : t ∉ seen := by
      intro ht
      obtain ⟨tag, htag, -⟩ := h.joined t ht
      rw [hdb.contains_tag.mpr ⟨tag, htag⟩] at hcontains
      cases hcontains
    refine .inl ⟨rfl, mutateTag_missing _ ?_⟩
    rw [h.others t hunseen]
    exact Option.isNone_iff_eq_none.mp (Option.isSome_eq_false_iff.mp hcontains)
  | true =>
    obtain ⟨tag, htag⟩ := hdb.contains_tag.mp hcontains
    obtain ⟨tag₁, hread, hsame⟩ := h.read htag
    have hkey : (tag₁.addMember id).id = t := by
      rw [tag_eq] at hread
      exact h.own t tag₁ (Rack.look_ok.mp hread).2
    have hrun : RelationStore.mutateTag t (·.addMember id) db₁ =
        (.ok (), db₁.putTag (tag₁.addMember id)) := by
      rw [tag_eq] at hread
      rw [mutateTag_eq]
      exact (mutate_eq_ok (f := (·.addMember id)) (fun _ => rfl) (fun _ => rfl) h.own).mpr
        ⟨tag₁, hread, rfl⟩
    refine .inr ⟨rfl, _, ?_, hrun⟩
    constructor
    case environments => exact h.environments
    case edgeGroups => exact h.edgeGroups
    case joined =>
      intro t' ht'
      rw [tag_putTag, hkey]
      by_cases heq : t' = t
      · rw [if_pos heq, heq, hsame]
        exact ⟨tag, htag, rfl⟩
      · rw [if_neg heq]
        rcases List.mem_append.mp ht' with ht' | ht'
        · exact h.joined t' ht'
        · exact absurd (List.mem_singleton.mp ht') heq
    case others =>
      intro t' ht'
      rw [List.mem_append, List.mem_singleton, not_or] at ht'
      show (db₁.tags.insert _ _).get? t' = _
      rw [Table.get?_insert, hkey, if_neg ht'.2]
      exact h.others t' ht'.1
    case own =>
      rw [shelf_putTag]
      exact h.own.put _

/-- All tags list the environment, unless one of them is not there. -/
theorem Listed.listInTags (hdb : db.Legible) (h : Listed id seen db db₁) (tags : List TagId) :
    (∃ t, tags.find? (fun t => !db.tags.contains t) = some t ∧
        ∃ db₂, listInTags id tags db₁ = (.error (.notFound .tag t), db₂)) ∨
      (∀ t ∈ tags, db.tags.contains t = true) ∧
        ∃ db₂, Listed id (seen ++ tags) db db₂ ∧ listInTags id tags db₁ = (.ok (), db₂) := by
  -- The tags that have been seen grow, and what they are compared with stays the same.
  induction tags generalizing seen db₁ with
  | nil =>
    refine .inr ⟨nofun, db₁, ?_, rfl⟩
    rw [List.append_nil]
    exact h
  | cons t rest ih =>
    unfold Database.listInTags
    rcases h.step hdb t with ⟨hmissing, hrun⟩ | ⟨hthere, db₂, hnext, hrun⟩
    · refine .inl ⟨t, ?_, db₁, StoreM.bind_error hrun⟩
      rw [List.find?_cons_of_pos]
      rw [hmissing]
      rfl
    · rw [StoreM.bind_ok hrun]
      rcases ih hnext with ⟨t', hfind, hfails⟩ | ⟨hall, db₃, hlisted, hrest⟩
      · refine .inl ⟨t', ?_, hfails⟩
        rw [List.find?_cons_of_neg, hfind]
        rw [hthere]
        exact Bool.false_ne_true
      · refine .inr ⟨List.forall_mem_cons.mpr ⟨hthere, hall⟩, db₃, ?_, hrest⟩
        rw [List.append_assoc, List.singleton_append] at hlisted
        exact hlisted

end Listing

/-! ## Section 4: The environment itself -/

section Creating

variable {db : Database} {name : String} {group : Option GroupId} {tags : List TagId}

/-- Once the tags list it, the environment is put under its id. -/
theorem Listed.enrolled {db₁ : Database} {id : EnvironmentId} (h : Listed id tags db db₁)
    (hid : nextId db.environments.lastId? = .ok id)
    (hlisted : ∀ t tag id, db.tag t = .ok tag → id ∈ tag.members → ∃ e, db.environment id = .ok e) :
    Enrolled name group tags ⟨id, name, (GroupId.requested? group).getD GroupId.unassigned,
      tags.eraseDups⟩ db
      (db₁.putEnvironment ⟨id, name, (GroupId.requested? group).getD GroupId.unassigned,
        tags.eraseDups⟩) := by
  constructor
  case id => exact Table.nextId_eq_ok.mp hid
  case name => rfl
  case placed =>
    intro g hgroup hg
    show (GroupId.requested? group).getD _ = g
    rw [requested?_eq_some.mpr ⟨hgroup, hg⟩]
    rfl
  case unplaced =>
    intro hunset
    show (GroupId.requested? group).getD _ = 1
    cases hg : GroupId.requested? group with
    | none => rfl
    | some g =>
      obtain ⟨hgroup, hset⟩ := requested?_eq_some.mp hg
      exact absurd (hunset g hgroup) hset
  case tagIds => exact firstMentions_eraseDups tags
  case stored =>
    rw [environment_eq, shelf_putEnvironment, Rack.look_put _ List.not_mem_nil]
    exact if_pos rfl
  case ids =>
    rw [← h.environments] at hid ⊢
    exact Table.ids_insert_nextId hid _
  case others =>
    intro j hj
    show (db₁.environments.insert id _).get? j = _
    rw [Table.get?_insert, if_neg hj, h.environments]
  case joined =>
    intro t ht
    obtain ⟨tag, htag, hread⟩ := h.joined t ht
    refine ⟨tag, htag, fun hmember => ?_, hread⟩
    -- A member of a tag is there, and what is put under the next id is not.
    obtain ⟨e, he⟩ := hlisted t tag id htag hmember
    rw [Database.environment, readRecord, Table.get?_nextId hid] at he
    cases he
  case tags => exact h.others
  case edgeGroups => exact h.edgeGroups

/-- An environment is added, or there is a reason why it cannot be. -/
theorem insertEnvironment_enrolls (hdb : db.Legible)
    (hlisted : ∀ t tag id, db.tag t = .ok tag → id ∈ tag.members → ∃ e, db.environment id = .ok e)
    (name : String) (group : Option GroupId) (tags : List TagId) :
    (∃ err db', insertEnvironment name group tags db = (.error err, db') ∧ Refused tags db err) ∨
      (∀ t ∈ tags, db.tags.contains t = true) ∧
        (db.environments.lastId?.getD 0).toNat < 4294967295 ∧
        ∃ e db', insertEnvironment name group tags db = (.ok e, db') ∧
          Enrolled name group tags e db db' := by
  rw [insertEnvironment_apply]
  cases hid : nextId db.environments.lastId? with
  | error err => exact .inl ⟨err, db, rfl, .inl (Table.nextId_eq_error.mp hid)⟩
  | ok id =>
    dsimp only
    have hfree : (db.environments.lastId?.getD 0).toNat < 4294967295 := by
      have hnext := Table.nextId_eq_ok.mp hid
      have hlt := id.toNat_lt
      omega
    rcases (Listed.refl hdb id).listInTags hdb tags with
      ⟨t, hfind, db₁, hrun⟩ | ⟨hall, db₁, hjoined, hrun⟩
    · rw [hrun]
      exact .inl ⟨_, db₁, rfl, .inr ⟨hfree, t, hfind, rfl⟩⟩
    · rw [hrun]
      exact .inr ⟨hall, hfree, _, _, rfl, Listed.enrolled hjoined hid hlisted⟩

theorem Refused.not_free {err : RegistryError} (h : Refused tags db err)
    (hall : ∀ t ∈ tags, db.tags.contains t = true) :
    ¬ (db.environments.lastId?.getD 0).toNat < 4294967295 := by
  rcases h with ⟨hfull, -⟩ | ⟨-, t, hfind, -⟩
  · omega
  · have hmissing := List.find?_some hfind
    rw [hall t (List.mem_of_find?_eq_some hfind)] at hmissing
    cases hmissing

/-- In a database whose records can be read, and whose tags list only environments that are there,
an environment is created exactly if its tags are there and an id is left.  Inside a transaction it
is enrolled or refused, and as a transaction of its own it is that too, but a refusal leaves the
database as it was. -/
theorem createEnvironment_enrolls (hdb : db.Legible)
    (hlisted : ∀ t tag id, db.tag t = .ok tag → id ∈ tag.members → ∃ e, db.environment id = .ok e)
    (name : String) (group : Option GroupId) (tags : List TagId) :
    ((∃ e db', insertEnvironment name group tags db = (.ok e, db')) ↔
      (∀ t ∈ tags, db.tags.contains t = true) ∧
        (db.environments.lastId?.getD 0).toNat < 4294967295) ∧
    (∀ e db', insertEnvironment name group tags db = (.ok e, db') →
      Enrolled name group tags e db db' ∧ createEnvironment name group tags db = (.ok e, db')) ∧
    ∀ err db', insertEnvironment name group tags db = (.error err, db') →
      Refused tags db err ∧ createEnvironment name group tags db = (.error err, db) := by
  rcases insertEnvironment_enrolls hdb hlisted name group tags with
    ⟨err, db', hrun, hrefused⟩ | ⟨hall, hfree, e, db', hrun, henrolled⟩
  · rw [hrun]
    refine ⟨iff_of_false nofun fun h => hrefused.not_free h.1 h.2, nofun, ?_⟩
    intro err' db'' heq
    cases heq
    refine ⟨hrefused, ?_⟩
    rw [createEnvironment, transaction_eq, hrun]
  · rw [hrun]
    refine ⟨iff_of_true ⟨e, db', rfl⟩ ⟨hall, hfree⟩, ?_, nofun⟩
    intro e' db'' heq
    cases heq
    exact ⟨henrolled, transaction_ok.mpr hrun⟩

end Creating

theorem legible_sampleDatabase : sampleDatabase.Legible :=
  legible_iff.mpr ⟨sample, sampleDatabase_holds⟩

/-- An environment that names a tag twice, and one that names a tag that is not there. -/
theorem createEnvironment_enrolls_sample :
    (∀ t tag id, sampleDatabase.tag t = .ok tag → id ∈ tag.members →
      ∃ e, sampleDatabase.environment id = .ok e) ∧
    (∃ e db', createEnvironment "b" (some 0) [2, 1, 2] sampleDatabase = (.ok e, db') ∧
      Enrolled "b" (some 0) [2, 1, 2] e sampleDatabase db') ∧
    createEnvironment "b" none [2, 9] sampleDatabase =
      (.error (.notFound .tag 9), sampleDatabase) := by
  have hlisted : ∀ t tag id, sampleDatabase.tag t = .ok tag → id ∈ tag.members →
      ∃ e, sampleDatabase.environment id = .ok e := by
    intro t tag id htag hid
    have hall : (sample.tags.values.all fun tag =>
      tag.members.toList.all (sample.environments.contains ·)) = true := by decide
    have hvalue := Table.mem_values.mpr ⟨t, sampleDatabase_holds.tag.mp htag⟩
    have hmember := List.all_eq_true.mp (List.all_eq_true.mp hall tag hvalue) id hid
    obtain ⟨e, he⟩ := Table.contains_iff.mp hmember
    exact ⟨e, sampleDatabase_holds.environment.mpr he⟩
  refine ⟨hlisted, ?_, ?_⟩
  · obtain ⟨hiff, hok, -⟩ := createEnvironment_enrolls legible_sampleDatabase hlisted "b" (some 0)
      [2, 1, 2]
    have hall : [2, 1, 2].all (sampleDatabase.tags.contains ·) = true := by decide
    obtain ⟨e, db', hrun⟩ := hiff.mpr ⟨List.all_eq_true.mp hall, by decide⟩
    obtain ⟨henrolled, hcreated⟩ := hok e db' hrun
    exact ⟨e, db', hcreated, henrolled⟩
  · obtain ⟨hiff, -, hfails⟩ :=
      createEnvironment_enrolls legible_sampleDatabase hlisted "b" none [2, 9]
    rcases hrun : insertEnvironment "b" none [2, 9] sampleDatabase with ⟨err | e, db'⟩
    · obtain ⟨hrefused, hcreated⟩ := hfails err db' hrun
      rcases hrefused with ⟨hfull, -⟩ | ⟨-, t, hfind, rfl⟩
      · exact absurd hfull (by decide)
      · have hfirst : [2, 9].find? (fun t => !sampleDatabase.tags.contains t) = some 9 := by decide
        rw [hfirst] at hfind
        cases hfind
        exact hcreated
    · have hall := (hiff.mp ⟨e, db', hrun⟩).1 9 (by decide)
      exact absurd hall (by decide)

end EnvRegistry.Database

import EnvRegistry.Proofs.Database.Agreement
import EnvRegistry.Proofs.Database.Commit
import EnvRegistry.Proofs.Records.Consistent

/-! # What a request makes of many environments

    A request is planned for one environment after the other, each time against
    what the store holds by then.  Still every environment is classified as if it
    came first (`assign_classifies`): what it had is kept unless the request
    overrides it, and what it had not, it gets.

    Two things make up for the order.  What the request does to one environment
    leaves the others as they are, and an environment that the request was
    applied to is one that the request changes nothing about
    (`Request.Classifies.settled`), so it does not matter that it may come up
    again.  `Progress` carries both along the batch. -/

namespace EnvRegistry.Relations

/-! ## Section 1: Model -/

/-- What a request without names makes of an environment `e` in the edge groups `groups`: it is `e'`
afterwards, and in the edge groups `groups'`. -/
structure Request.Classifies (request : Request) (e : Environment) (groups : KeySet EdgeGroupId)
    (e' : Environment) (groups' : KeySet EdgeGroupId) : Prop where
  /-- Nothing but the group and the tags may change. -/
  rest : e' = { e with groupId := e'.groupId, tagIds := e'.tagIds }
  tagsKept : e.tagIds ≠ [] → request.overrideTags = false → e'.tagIds = e.tagIds
  tagsAssigned : e.tagIds = [] ∨ request.overrideTags = true →
    ∀ t, t ∈ e'.tagIds ↔ t ∈ request.tags
  edgeGroupsKept : groups ≠ .empty → request.overrideEdgeGroups = false → groups' = groups
  edgeGroupsAssigned : groups = .empty ∨ request.overrideEdgeGroups = true →
    groups' = .ofList request.edgeGroups
  groupKept : (∀ g, request.group = some g → g ≠ GroupId.unset →
    e.groupId ≠ GroupId.unassigned ∧ request.overrideGroup = false) → e'.groupId = e.groupId
  groupAssigned : ∀ g, request.group = some g → g ≠ GroupId.unset →
    e.groupId = GroupId.unassigned ∨ request.overrideGroup = true → e'.groupId = g

/-- The tag is there and lists the environment. -/
def Lists (R : Records) (t : TagId) (id : EnvironmentId) : Prop :=
  ∃ tag, R.tags.get? t = some tag ∧ id ∈ tag.members

/-- A request without names turned the environment `e` of the records `R` into the environment `e'`
of the records `R'`. -/
structure Classified (R : Records) (request : Request) (R' : Records) (e e' : Environment) : Prop
    extends Request.Classifies request e (R.memberships e.id) e' (R'.memberships e.id) where
  before : R.environments.get? e.id = some e
  after : R'.environments.get? e.id = some e'
  /-- The same tags list it. -/
  listedKept : e.tagIds ≠ [] → request.overrideTags = false →
    ∀ t, Lists R' t e.id ↔ Lists R t e.id
  /-- The tags of the request list it, and no others. -/
  listedAssigned : e.tagIds = [] ∨ request.overrideTags = true →
    ∀ t, Lists R' t e.id ↔ t ∈ request.tags

/-- What a request without names comes to that is applied to the environments `ids` of the records
`R`: it reports `results`, and leaves the records `R'`. -/
structure Assignment (R : Records) (request : Request) (ids : List EnvironmentId)
    (results : List Assigned) (R' : Records) : Prop where
  /-- There is one entry for each environment, in order. -/
  entries : results.map (·.environmentId) = ids
  /-- Nothing changed in an environment that came up before. -/
  repeated : ∀ n a, results[n]? = some a → a.environmentId ∈ ids.take n →
    a.outcome = ⟨false, false, false, false⟩
  classified : ∀ id ∈ ids, ∃ e e', e.id = id ∧ Classified R request R' e e'

/-- A request without names was applied to an environment that was as in the records `R`. -/
def Applied (R : Records) (request : Request) (R' : Records) (id : EnvironmentId) : Prop :=
  ∃ e e', R.environments.get? id = some e ∧ R'.environments.get? id = some e' ∧
    request.Classifies e (R.memberships id) e' (R'.memberships id)

/-- An environment and its edge groups are the same in both records. -/
structure Untouched (R R' : Records) (id : EnvironmentId) : Prop where
  environment : R'.environments.get? id = R.environments.get? id
  memberships : R'.memberships id = R.memberships id

/-- A request without names was applied to the environments `seen`, and to no others. -/
structure Progress (R : Records) (request : Request) (seen : List EnvironmentId) (R' : Records) :
    Prop where
  unrepeated : R'.Unrepeated
  indexed : R.Indexed → R'.Indexed
  applied : ∀ id ∈ seen, Applied R request R' id
  untouched : ∀ id ∉ seen, Untouched R R' id

/-! ## Section 2: The plan for one environment -/

section Plan

variable {request : Request} {e e' : Environment} {groups groups' : KeySet EdgeGroupId}

theorem plan_tags (request : Request) (e : Environment) (groups : KeySet EdgeGroupId) :
    (request.plan e groups).tags =
      if e.tagIds = [] ∨ request.overrideTags = true then some request.tags else none := by
  unfold Request.plan
  simp

theorem plan_edgeGroups (request : Request) (e : Environment) (groups : KeySet EdgeGroupId) :
    (request.plan e groups).edgeGroups =
      if groups = .empty ∨ request.overrideEdgeGroups = true then some request.edgeGroups
      else none := by
  unfold Request.plan
  simp [KeySet.isEmpty_iff_eq_empty]

/-- An environment that is as the plan wants it is classified. -/
theorem Request.Classifies.of_plan
    (hrest : e' = { e with groupId := e'.groupId, tagIds := e'.tagIds })
    (hgroup : e'.groupId = ((request.plan e groups).applyTo e).groupId)
    (htags : ∀ tags, (request.plan e groups).tags = some tags → ∀ t, t ∈ e'.tagIds ↔ t ∈ tags)
    (hworn : (request.plan e groups).tags = none → e'.tagIds = e.tagIds)
    (hgroups : ∀ l, (request.plan e groups).edgeGroups = some l → groups' = .ofList l)
    (hin : (request.plan e groups).edgeGroups = none → groups' = groups) :
    request.Classifies e groups e' groups' where
  rest := hrest
  tagsKept hold hoff := by
    refine hworn ?_
    rw [plan_tags, if_neg]
    rw [hoff]
    exact fun h => h.elim hold Bool.false_ne_true
  tagsAssigned h := by
    refine htags request.tags ?_
    rw [plan_tags, if_pos h]
  edgeGroupsKept hold hoff := by
    refine hin ?_
    rw [plan_edgeGroups, if_neg]
    rw [hoff]
    exact fun h => h.elim hold Bool.false_ne_true
  edgeGroupsAssigned h := by
    refine hgroups request.edgeGroups ?_
    rw [plan_edgeGroups, if_pos h]
  groupKept h := by
    rw [hgroup, Request.plan_groupId]
    split
    · next hplace =>
      cases hg : GroupId.requested? request.group with
      | none => rfl
      | some g =>
        -- A group that is asked for is refused, against `hplace`.
        obtain ⟨hrequest, hset⟩ := requested?_eq_some.mp hg
        obtain ⟨hplaced, hoff⟩ := h g hrequest hset
        rw [hoff] at hplace
        exact (hplace.elim hplaced Bool.false_ne_true).elim
    · rfl
  groupAssigned g hrequest hset hplace := by
    rw [hgroup, Request.plan_groupId, if_pos hplace, requested?_eq_some.mpr ⟨hrequest, hset⟩]
    rfl

namespace Request.Classifies

/-- What the request may assign afterwards, it was free to assign. -/
theorem tags_free (h : request.Classifies e groups e' groups')
    (hfree : e'.tagIds = [] ∨ request.overrideTags = true) :
    e.tagIds = [] ∨ request.overrideTags = true := by
  by_contra hheld
  rw [not_or, Bool.not_eq_true] at hheld
  rw [h.tagsKept hheld.1 hheld.2, hheld.2] at hfree
  exact hfree.elim hheld.1 Bool.false_ne_true

theorem edgeGroups_free (h : request.Classifies e groups e' groups')
    (hfree : groups' = .empty ∨ request.overrideEdgeGroups = true) :
    groups = .empty ∨ request.overrideEdgeGroups = true := by
  by_contra hheld
  rw [not_or, Bool.not_eq_true] at hheld
  rw [h.edgeGroupsKept hheld.1 hheld.2, hheld.2] at hfree
  exact hfree.elim hheld.1 Bool.false_ne_true

theorem group_free (h : request.Classifies e groups e' groups')
    (hfree : e'.groupId = GroupId.unassigned ∨ request.overrideGroup = true) :
    e.groupId = GroupId.unassigned ∨ request.overrideGroup = true := by
  by_contra hheld
  rw [not_or, Bool.not_eq_true] at hheld
  rw [h.groupKept fun _ _ _ => hheld, hheld.2] at hfree
  exact hfree.elim hheld.1 Bool.false_ne_true

/-- The request asks for nothing new of an environment that it was applied to. -/
theorem settled (h : request.Classifies e groups e' groups') (R : Records)
    (hgroups : R.memberships e'.id = groups') :
    (request.plan e' groups').outcomeOn R.shelf e' = {} := by
  have hreports := reports_outcomeOn R (request.plan e' groups') e'
  -- Part by part: either the request leaves it alone, or it has been done already.
  have hgroup : ((request.plan e' groups').outcomeOn R.shelf e').groupChanged = false := by
    show decide (e'.groupId ≠ ((request.plan e' groups').applyTo e').groupId) = false
    rw [decide_eq_false_iff_not, not_not, Request.plan_groupId]
    split
    · next hfree =>
      cases hg : GroupId.requested? request.group with
      | none => rfl
      | some g =>
        obtain ⟨hrequest, hset⟩ := requested?_eq_some.mp hg
        exact h.groupAssigned g hrequest hset (h.group_free hfree)
    · rfl
  have htags : ((request.plan e' groups').outcomeOn R.shelf e').tagsChanged = false := by
    rw [Bool.eq_false_iff, Ne, hreports.tags]
    rintro ⟨tags, hplan, hdiffers⟩
    rw [plan_tags] at hplan
    split at hplan
    · next hfree =>
      cases hplan
      refine hdiffers (KeySet.ext_mem fun t => ?_)
      rw [mem_ofList_ids, mem_ofList_ids]
      exact (h.tagsAssigned (h.tags_free hfree) t).symm
    · cases hplan
  have hedgeGroups :
      ((request.plan e' groups').outcomeOn R.shelf e').edgeGroupsChanged = false := by
    rw [Bool.eq_false_iff, Ne, hreports.edgeGroups]
    rintro ⟨l, hplan, hdiffers⟩
    rw [plan_edgeGroups] at hplan
    split at hplan
    · next hfree =>
      cases hplan
      rw [hgroups] at hdiffers
      exact hdiffers (h.edgeGroupsAssigned (h.edgeGroups_free hfree)).symm
    · cases hplan
  refine outcomeOn_eq_default ?_
  rw [hreports.changed, hgroup, htags, hedgeGroups]
  rfl

end Request.Classifies

end Plan

/-! ## Section 3: Applying the plan -/

section Step

variable {R : Records} {request : Request} {e : Environment}

/-- A plan that is carried out classifies the environment. -/
theorem classifies_updated (hR : R.Unrepeated) {groups : KeySet EdgeGroupId}
    (hgroups : R.memberships e.id = groups) (hfree : ¬ Blocked R (request.plan e groups) e) :
    request.Classifies e groups ((request.plan e groups).applyTo e)
      ((R.updated (request.plan e groups) e).memberships e.id) := by
  have hworn : ((request.plan e groups).applyTo e).tagIds =
      (request.plan e groups).tags.getD e.tagIds := rfl
  refine .of_plan rfl rfl ?_ ?_ ?_ ?_
  · intro tags hplan t
    rw [hworn, hplan, Option.getD_some]
  · intro hplan
    rw [hworn, hplan, Option.getD_none]
  · intro l hplan
    exact memberships_updated (hR.once e.id) hfree hplan
  · intro hplan
    rw [← hgroups]
    refine KeySet.ext_mem fun g => ?_
    rw [Records.mem_memberships, Records.mem_memberships, get?_updated_edgeGroups,
      Update.edgeGroupDelta, hgroups, hplan]
    simp [onEdgeGroup_nothing]

/-- A plan by which nothing changes finds the environment classified. -/
theorem classifies_unchanged {groups : KeySet EdgeGroupId} (hgroups : R.memberships e.id = groups)
    (ho : ((request.plan e groups).outcomeOn R.shelf e).changed = false) :
    request.Classifies e groups e groups := by
  have hreports := reports_outcomeOn R (request.plan e groups) e
  rw [outcomeOn_eq_default ho] at hreports
  have hsame : ((request.plan e groups).outcomeOn R.shelf e).groupChanged = false := by
    rw [outcomeOn_eq_default ho]
  refine .of_plan rfl ?_ ?_ (fun _ => rfl) ?_ (fun _ => rfl)
  · exact not_not.mp (decide_eq_false_iff_not.mp hsame)
  · intro tags hplan t
    by_contra hdiffers
    refine Bool.false_ne_true (hreports.tags.mpr ⟨tags, hplan, fun heq => hdiffers ?_⟩)
    rw [← mem_ofList_ids, ← heq, mem_ofList_ids]
  · intro l hplan
    by_contra hdiffers
    refine Bool.false_ne_true (hreports.edgeGroups.mpr ⟨l, hplan, fun heq => hdiffers ?_⟩)
    rw [heq, hgroups]

/-- An update leaves the other environments as they are. -/
theorem untouched_updated (R : Records) (u : Update) {j : EnvironmentId} (hj : j ≠ e.id) :
    Untouched R (R.updated u e) j where
  environment := (Table.get?_insert _ _ _ _).trans (if_neg hj)
  memberships := by
    refine KeySet.ext_mem fun g => ?_
    rw [Records.mem_memberships, Records.mem_memberships, get?_updated_edgeGroups]
    cases R.edgeGroups.get? g with
    | none => simp
    | some group => simp [Records.mem_onEdgeGroup_of_ne hj]

end Step

/-! ## Section 4: The batch -/

section Batch

variable {R R' R'' : Records} {request : Request} {seen : List EnvironmentId} {id : EnvironmentId}
  {e e' : Environment}

theorem Untouched.refl (R : Records) (id : EnvironmentId) : Untouched R R id := ⟨rfl, rfl⟩

theorem Untouched.trans (h : Untouched R R' id) (h' : Untouched R' R'' id) :
    Untouched R R'' id where
  environment := h'.environment.trans h.environment
  memberships := h'.memberships.trans h.memberships

/-- What was done for an environment stays done while it is not touched. -/
theorem Applied.of_untouched (h : Applied R request R' id) (hsame : Untouched R' R'' id) :
    Applied R request R'' id := by
  obtain ⟨e, e', he, he', hclassifies⟩ := h
  refine ⟨e, e', he, ?_, ?_⟩
  · rw [hsame.environment, he']
  · rw [hsame.memberships]
    exact hclassifies

/-- What is done for an environment is done for it as it was, if it was not touched before. -/
theorem Applied.of_first (hsame : Untouched R R' id) (he : R'.environments.get? id = some e)
    (he' : R''.environments.get? id = some e')
    (h : request.Classifies e (R'.memberships id) e' (R''.memberships id)) :
    Applied R request R'' id := by
  refine ⟨e, e', ?_, he', ?_⟩
  · rw [← hsame.environment, he]
  · rw [← hsame.memberships]
    exact h

namespace Progress

/-- The request was applied to one more environment. -/
theorem append (h : Progress R request seen R') (hunrepeated : R''.Unrepeated)
    (hindexed : R.Indexed → R''.Indexed) (hothers : ∀ j, j ≠ id → Untouched R' R'' j)
    (hone : Applied R request R'' id) :
    Progress R request (seen ++ [id]) R'' where
  unrepeated := hunrepeated
  indexed := hindexed
  applied j hj := by
    by_cases hid : j = id
    · rw [hid]
      exact hone
    · have hseen : j ∈ seen := by simpa [hid] using hj
      exact (h.applied j hseen).of_untouched (hothers j hid)
  untouched j hj := by
    rw [List.mem_append, List.mem_singleton, not_or] at hj
    exact (h.untouched j hj.1).trans (hothers j hj.2)

/-- Nothing changes in an environment that comes up again. -/
theorem again (h : Progress R request seen R') (he : R'.environments.get? id = some e)
    (hid : id ∈ seen) : (request.plan e (R'.memberships id)).outcomeOn R'.shelf e = {} := by
  obtain ⟨_, e', -, he', hclassifies⟩ := h.applied id hid
  rw [he] at he'
  cases he'
  refine hclassifies.settled R' ?_
  rw [R'.environmentsKeyed id e he]

/-- The plan for the next environment is carried out. -/
theorem step (h : Progress R request seen R') (he : R'.environments.get? id = some e)
    (hfree : ¬ Blocked R' (request.plan e (R'.memberships id)) e) :
    Progress R request (seen ++ [id])
      (if ((request.plan e (R'.memberships id)).outcomeOn R'.shelf e).changed then
        R'.updated (request.plan e (R'.memberships id)) e else R') := by
  obtain rfl : e.id = id := R'.environmentsKeyed id e he
  cases ho : ((request.plan e (R'.memberships e.id)).outcomeOn R'.shelf e).changed with
  | false =>
    rw [if_neg Bool.false_ne_true]
    refine h.append h.unrepeated h.indexed (fun j _ => .refl R' j) ?_
    by_cases hseen : e.id ∈ seen
    · exact h.applied e.id hseen
    · exact .of_first (h.untouched e.id hseen) he he (classifies_unchanged rfl ho)
  | true =>
    rw [if_pos rfl]
    -- Had it come up before, nothing would change.
    have hfresh : e.id ∉ seen := by
      intro hseen
      rw [h.again he hseen] at ho
      cases ho
    refine h.append (h.unrepeated.updated _ e) (fun hR => (h.indexed hR).updated he hfree)
      (fun j hj => untouched_updated R' _ hj) ?_
    exact .of_first (h.untouched e.id hfresh) he ((Table.get?_insert _ _ _ _).trans (if_pos rfl))
      (classifies_updated h.unrepeated rfl hfree)

end Progress

end Batch

/-! ## Section 5: Every store -/

section EveryStore

variable {σ ρ : Type} [RelationStore σ] {φ : σ → Shelf} {s s' : σ} {d d' : ρ} {R R' : Records}
  {request : Request}

/-- Creating the records that a request names touches no environment. -/
theorem createNamed_records (hφ : StoreMap φ) (hs : φ s = R.shelf) (hR : R.Unrepeated)
    (request : Request) : ∃ R', φ (createNamed request s).2 = R'.shelf ∧ R'.Unrepeated ∧
      (R.Indexed → R'.Indexed) ∧ ∀ id, Untouched R R' id := by
  have hcommutes := hφ.createNamed request s
  rw [hs] at hcommutes
  rw [← (Prod.mk.inj hcommutes).2]
  refine (createNamed_maintains (P := fun s => ∃ R' : Records, s = R'.shelf ∧ R'.Unrepeated ∧
    (R.Indexed → R'.Indexed) ∧ ∀ id, Untouched R R' id) (Q := RegistryError.OfStore) ?_ ?_ R.shelf
    ⟨R, rfl, hR, fun h => h, ?_⟩).1
  · intro name _
    refine add_maintains (k := .tags) ?_
    rintro _ id ⟨R', rfl, hR', hindexed, huntouched⟩ hid
    refine ⟨_, (R'.shelf_putTag _).symm, hR', fun h => ?_, fun j => (huntouched j).trans ⟨rfl, rfl⟩⟩
    exact (hindexed h).putTag (Table.get?_nextId_map hid) name
  · intro name _
    refine add_maintains (k := .edgeGroups) ?_
    rintro _ id ⟨R', rfl, hR', hindexed, huntouched⟩ hid
    refine ⟨_, (R'.shelf_putEdgeGroup _).symm, hR'.putEdgeGroup id name,
      fun h => (hindexed h).putEdgeGroup id name, fun j => (huntouched j).trans ⟨rfl, ?_⟩⟩
    refine KeySet.ext_mem fun g => ?_
    rw [Records.mem_memberships, Records.mem_memberships, Records.get?_putEdgeGroup]
    by_cases hg : g = id
    · -- The id was free, and the new edge group has no members.
      rw [if_pos hg, hg, Table.get?_nextId_map hid]
      simp
    · rw [if_neg hg]
  · exact fun id => .refl R id

/-- Ids come in place of the names, and the rest of the request stays. -/
theorem createNamed_ok {resolved : Request} (h : createNamed request s = (.ok resolved, s')) :
    resolved = { request with
      tags := resolved.tags, edgeGroups := resolved.edgeGroups, createTags := [],
      createEdgeGroups := [] } := by
  obtain ⟨tags, s₁, -, h⟩ := StoreM.bind_eq_ok.mp h
  obtain ⟨groups, s₂, -, h⟩ := StoreM.bind_eq_ok.mp h
  cases h
  rfl

/-- What applying a request to an environment has found, reports and leaves. -/
theorem assignOne_ok_records (hφ : StoreMap φ) (hs : φ s = R.shelf) {v : Visiting} {r : Refresher ρ}
    {id : EnvironmentId} {a : Assigned} (h : assignOne v r request id (s, d) = (.ok a, (s', d'))) :
    ∃ e, R.environments.get? id = some e ∧ ¬ Blocked R (request.plan e (R.memberships id)) e ∧
      a = ⟨id, (request.plan e (R.memberships id)).outcomeOn R.shelf e⟩ ∧
      φ s' = if a.outcome.changed then (R.updated (request.plan e (R.memberships id)) e).shelf
        else R.shelf := by
  obtain ⟨e, ⟨s₁, d₁⟩, hread, h⟩ := StoreM.bind_eq_ok.mp h
  obtain ⟨groups, ⟨s₂, d₂⟩, hscan, h⟩ := StoreM.bind_eq_ok.mp h
  obtain ⟨o, ⟨s₃, d₃⟩, hupdate, h⟩ := StoreM.bind_eq_ok.mp h
  cases h
  -- Reading changes nothing, so the update is planned against the records that it finds.
  have hlook := hφ.environment id s
  rw [hs, (onStore_ok hread).1] at hlook
  obtain ⟨hlook, hs₁⟩ : Rack.environments.look R.shelf id = .ok e ∧ R.shelf = φ s₁ :=
    Prod.mk.inj hlook
  have hgroups := hφ.environmentEdgeGroups id s₁
  rw [← hs₁, (onStore_ok hscan).1, environmentEdgeGroups_ok R.scan_shelf] at hgroups
  obtain ⟨hgroups, hs₂⟩ := Prod.mk.inj hgroups
  cases hgroups
  rw [R.memberships_shelf] at hupdate
  have he : R.environments.get? id = some e := (Records.look_ok rfl).mp hlook
  obtain ⟨e', he', hfree, ho, hs'⟩ := update_ok_records hφ hs₂.symm hupdate
  rw [he] at he'
  cases he'
  exact ⟨e, he, hfree, congrArg _ ho, hs'⟩

/-- One step of the batch. -/
theorem assignOne_progress (hφ : StoreMap φ) (hs : φ s = R'.shelf) {seen : List EnvironmentId}
    (hprogress : Progress R request seen R') {v : Visiting} {r : Refresher ρ} {id : EnvironmentId}
    {a : Assigned} (h : assignOne v r request id (s, d) = (.ok a, (s', d'))) :
    a.environmentId = id ∧ (id ∈ seen → a.outcome = {}) ∧
      ∃ R'', φ s' = R''.shelf ∧ Progress R request (seen ++ [id]) R'' := by
  obtain ⟨e, he, hfree, rfl, hs'⟩ := assignOne_ok_records hφ hs h
  refine ⟨rfl, fun hseen => hprogress.again he hseen, _, ?_, hprogress.step he hfree⟩
  rw [hs']
  split
  · rfl
  · rfl

/-- The whole batch, step by step. -/
theorem assignEach_progress (hφ : StoreMap φ) {ids seen : List EnvironmentId} (hs : φ s = R'.shelf)
    (hprogress : Progress R request seen R') {v : Nat → Visiting} {r : Refresher ρ}
    {l : List Assigned} (h : assignEach v r request ids (s, d) = (.ok l, (s', d'))) :
    l.map (·.environmentId) = ids ∧
      (∀ n a, l[n]? = some a → a.environmentId ∈ seen ++ ids.take n → a.outcome = {}) ∧
      ∃ R'', φ s' = R''.shelf ∧ Progress R request (seen ++ ids) R'' := by
  -- The induction is on what is still to come; `seen` is what came up before.
  induction ids generalizing v s d R' seen l with
  | nil =>
    cases h
    refine ⟨rfl, nofun, R', hs, ?_⟩
    rw [List.append_nil]
    exact hprogress
  | cons id rest ih =>
    obtain ⟨a, ⟨s₁, d₁⟩, hone, h⟩ := StoreM.bind_eq_ok.mp h
    obtain ⟨l', ⟨s₂, d₂⟩, hrest, h⟩ := StoreM.bind_eq_ok.mp h
    cases h
    obtain ⟨hid, hagain, R₁, hs₁, hprogress₁⟩ := assignOne_progress hφ hs hprogress hone
    obtain ⟨hids, hagains, R₂, hs₂, hprogress₂⟩ := ih hs₁ hprogress₁ hrest
    refine ⟨?_, fun n b hb hseen => ?_, R₂, hs₂, ?_⟩
    · rw [List.map_cons, hid, hids]
    · cases n with
      | zero =>
        cases hb
        rw [List.take_zero, List.append_nil, hid] at hseen
        exact hagain hseen
      | succ n =>
        rw [List.getElem?_cons_succ] at hb
        rw [List.take_succ_cons, List.append_cons] at hseen
        exact hagains n b hb hseen
    · rw [List.append_cons]
      exact hprogress₂

theorem lists_iff (hR : R.Indexed) {id : EnvironmentId} {e : Environment}
    (he : R.environments.get? id = some e) (t : TagId) : Lists R t id ↔ t ∈ e.tagIds := by
  constructor
  · rintro ⟨tag, htag, hmember⟩
    obtain ⟨e', he', hworn⟩ := (hR.listed t tag id htag).mp hmember
    rw [he] at he'
    cases he'
    exact hworn
  · intro hworn
    obtain ⟨tag, htag⟩ := Option.ne_none_iff_exists'.mp (hR.worn id e t he hworn)
    exact ⟨tag, htag, (hR.listed t tag id htag).mpr ⟨e, he, hworn⟩⟩

/-- An environment that a request was applied to is classified, by the tags that list it, too. -/
theorem Applied.classified (hR : R.Indexed) (hR' : R'.Indexed) {id : EnvironmentId}
    (h : Applied R request R' id) : ∃ e e', e.id = id ∧ Classified R request R' e e' := by
  obtain ⟨e, e', he, he', hclassifies⟩ := h
  obtain rfl : e.id = id := R.environmentsKeyed id e he
  refine ⟨e, e', rfl, hclassifies, he, he', fun hheld hoff t => ?_, fun hfree t => ?_⟩
  · rw [lists_iff hR' he', lists_iff hR he, hclassifies.tagsKept hheld hoff]
  · rw [lists_iff hR' he', hclassifies.tagsAssigned hfree t]

/-- How far a request that succeeds has got, and what it has created and reports. -/
theorem assign_progress (hφ : StoreMap φ) (hs : φ s = R.shelf) (hR : R.Unrepeated)
    {v : Nat → Visiting} {r : Refresher ρ} {ids : List EnvironmentId} {results : List Assigned}
    (h : assign v r ids request (s, d) = (.ok results, (s', d'))) :
    ∃ resolved s₁ R', createNamed request s = (.ok resolved, s₁) ∧
      resolved = { request with
        tags := resolved.tags, edgeGroups := resolved.edgeGroups, createTags := [],
        createEdgeGroups := [] } ∧
      results.map (·.environmentId) = ids ∧
      (∀ n a, results[n]? = some a → a.environmentId ∈ ids.take n → a.outcome = {}) ∧
      φ s' = R'.shelf ∧ Progress R resolved ids R' := by
  obtain ⟨resolved, ⟨s₁, d₁⟩, hnamed, h⟩ := StoreM.bind_eq_ok.mp h
  obtain ⟨hnamed, -⟩ := onStore_ok hnamed
  obtain ⟨R₁, hs₁, hR₁, hindexed, huntouched⟩ := createNamed_records hφ hs hR request
  rw [hnamed] at hs₁
  have hstart : Progress R resolved [] R₁ := ⟨hR₁, hindexed, nofun, fun id _ => huntouched id⟩
  obtain ⟨hids, hagain, R', hs', hprogress⟩ := assignEach_progress hφ hs₁ hstart h
  exact ⟨resolved, s₁, R', hnamed, createNamed_ok hnamed, hids, hagain, hs', hprogress⟩

/-- What a request that succeeds has created, reports and leaves. -/
theorem assign_ok_records (hφ : StoreMap φ) (hs : φ s = R.shelf) (hR : R.Indexed)
    {v : Nat → Visiting} {r : Refresher ρ} {ids : List EnvironmentId} {results : List Assigned}
    (h : assign v r ids request (s, d) = (.ok results, (s', d'))) :
    ∃ resolved s₁ R', createNamed request s = (.ok resolved, s₁) ∧
      resolved = { request with
        tags := resolved.tags, edgeGroups := resolved.edgeGroups, createTags := [],
        createEdgeGroups := [] } ∧
      φ s' = R'.shelf ∧ Assignment R resolved ids results R' := by
  obtain ⟨resolved, s₁, R', hnamed, hresolved, hids, hagain, hs', hprogress⟩ :=
    assign_progress hφ hs hR.nodup h
  refine ⟨resolved, s₁, R', hnamed, hresolved, hs', hids, hagain, fun id hid => ?_⟩
  exact (hprogress.applied id hid).classified hR (hprogress.indexed hR)

end EveryStore

/-! ## Section 6: Both stores -/

/-- A request that is applied to many environments respects how they are classified and classifies
them otherwise, on a store in memory that rejects nothing and inside a transaction of a database,
for any records of which a tag lists exactly the environments that wear it and no edge group lists
an environment twice. -/
theorem assign_classifies {ρ : Type} (R : Records) (hR : R.Indexed) (v : Nat → Visiting)
    (r : Refresher ρ) (d d' : ρ) (ids : List EnvironmentId) (request : Request)
    (results : List Assigned) :
    (∀ s s' : MemoryStore, s.Holds R →
      assign v r ids request (s, d) = (.ok results, (s', d')) →
      ∃ resolved s₁ R', createNamed request s = (.ok resolved, s₁) ∧
        resolved = { request with
          tags := resolved.tags, edgeGroups := resolved.edgeGroups, createTags := [],
          createEdgeGroups := [] } ∧
        s'.Holds R' ∧ Assignment R resolved ids results R') ∧
    ∀ db db' : Database, db.Holds R →
      assign v r ids request (db, d) = (.ok results, (db', d')) →
      ∃ resolved db₁ R', createNamed request db = (.ok resolved, db₁) ∧
        resolved = { request with
          tags := resolved.tags, edgeGroups := resolved.edgeGroups, createTags := [],
          createEdgeGroups := [] } ∧
        db'.Holds R' ∧ Assignment R resolved ids results R' := by
  refine ⟨fun s s' hs h => ?_, fun db db' hdb h => ?_⟩
  · exact assign_ok_records MemoryStore.storeMap hs hR h
  · exact assign_ok_records Database.storeMap hdb hR h

/-- The tags and the edge group of the sample list whom they should. -/
theorem sample_indexed : sample.Indexed where
  listed t tag id htag := by
    have hstored : ∀ e, sample.environments.get? id = some e ↔
        id = 1 ∧ e = { id := 1, name := "a", tagIds := [1] } := fun _ =>
      Table.get?_eq_some_iff.trans (List.mem_singleton.trans Prod.ext_iff)
    have hentry : (t, tag) ∈ [((1 : UInt32),
        ({ id := 1, name := "x", members := .ofList [1] } : Tag)),
        (2, { id := 2, name := "y" })] := Table.get?_eq_some_iff.mp htag
    simp only [hstored]
    rcases List.mem_cons.mp hentry with hworn | hother
    · cases hworn
      simp
    · cases List.mem_singleton.mp hother
      simp
  worn id e t he hworn := by
    have hentry : (id, e) ∈
        [((1 : UInt32), ({ id := 1, name := "a", tagIds := [1] } : Environment))] :=
      Table.get?_eq_some_iff.mp he
    cases List.mem_singleton.mp hentry
    cases List.mem_singleton.mp hworn
    decide
  nodup g group hgroup := by
    have hentry : (g, group) ∈
        [((3 : UInt32), ({ id := 3, name := "g", members := [1] } : EdgeGroup))] :=
      Table.get?_eq_some_iff.mp hgroup
    cases List.mem_singleton.mp hentry
    decide

/-- A request for an old tag and a new one instead of others. -/
def retag : Request :=
  { tags := [2], createTags := ["z"], group := some 5, overrideTags := true }

/-- What the request reports of the environment of the sample that comes up twice. -/
def retagged : List Assigned :=
  [⟨1, ⟨true, true, true, false⟩⟩, ⟨1, ⟨false, false, false, false⟩⟩]

/-- The environment of the sample comes up twice, in memory and in a database. -/
theorem assign_classifies_twice :
    (∃ s' resolved s₁ R',
      assign (fun _ => .ascending) Refresher.silent [1, 1] retag (sampleStore, ()) =
        (.ok retagged, (s', ())) ∧
      createNamed retag sampleStore = (.ok resolved, s₁) ∧ s'.Holds R' ∧
      Assignment sample resolved [1, 1] retagged R') ∧
    ∃ db' resolved db₁ R',
      assign (fun _ => .ascending) Refresher.silent [1, 1] retag (sampleDatabase, ()) =
        (.ok retagged, (db', ())) ∧
      createNamed retag sampleDatabase = (.ok resolved, db₁) ∧ db'.Holds R' ∧
      Assignment sample resolved [1, 1] retagged R' := by
  obtain ⟨hmemory, hinside⟩ := assign_classifies sample sample_indexed (fun _ => .ascending)
    Refresher.silent () () [1, 1] retag retagged
  refine ⟨?_, ?_⟩
  · obtain ⟨resolved, s₁, R', hnamed, -, hs', hassignment⟩ := hmemory sampleStore _ rfl rfl
    exact ⟨_, resolved, s₁, R', rfl, hnamed, hs', hassignment⟩
  · obtain ⟨db', hrun⟩ := Database.run_eq_memory (s := sampleStore) sampleDatabase_holds rfl
      (.assign (fun _ => .ascending) Refresher.silent [1, 1] retag) ()
    obtain ⟨resolved, db₁, R', hnamed, -, hdb', hassignment⟩ :=
      hinside sampleDatabase db' sampleDatabase_holds hrun
    exact ⟨db', resolved, db₁, R', hrun, hnamed, hdb', hassignment⟩

end EnvRegistry.Relations

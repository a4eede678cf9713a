import EnvRegistry.Proofs.Store.Run
import EnvRegistry.Relations.Apply

/-! # The phases of an update

    `applyUpdate` reads the environment, brings its tags in line, then its edge
    groups, and writes the environment last.  `applyUpdate_eq` states it as these
    four phases: each is a function of its own, and what an update makes of the
    environment (`Update.applyTo`) and what it reports (`Update.outcome`) do not
    depend on how the phases run. -/

namespace EnvRegistry.Relations

open RelationStore

variable {σ ρ : Type} [RelationStore σ]

/-! ## Section 1: What an update says -/

/-- The environment as the update wants it. -/
def Update.applyTo (u : Update) (e : Environment) : Environment :=
  { e with
    groupId := (GroupId.requested? u.group).getD e.groupId
    tagIds := u.tags.getD e.tagIds }

@[simp] theorem Update.applyTo_id (u : Update) (e : Environment) : (u.applyTo e).id = e.id := rfl

theorem Update.applyTo_eq_self {u : Update} {e : Environment}
    (hgroup : (u.applyTo e).groupId = e.groupId) (htags : (u.applyTo e).tagIds = e.tagIds) :
    u.applyTo e = e := by
  have heta : u.applyTo e = ⟨e.id, e.name, (u.applyTo e).groupId, (u.applyTo e).tagIds⟩ := rfl
  rw [heta, hgroup, htags]

/-- An update wants nothing more of an environment that is as it wants it. -/
theorem Update.applyTo_applyTo (u : Update) (e : Environment) :
    u.applyTo (u.applyTo e) = u.applyTo e := by
  unfold applyTo
  cases GroupId.requested? u.group <;> cases u.tags <;> rfl

/-- What is reported for an environment whose tags and edge groups did or did not differ. -/
def Update.outcome (u : Update) (e : Environment) (tags edgeGroups : Bool) : Outcome :=
  .of (decide (e.groupId ≠ (u.applyTo e).groupId)) tags edgeGroups

/-! ## Section 2: The phases -/

/-- Brings the tags in line, if the update asks for tags. -/
def tagPhase (v : Visiting) (u : Update) (e : Environment) : StoreM σ Bool :=
  match u.tags with
  | some tags => reconcileTags v tags e.tagIds e.id
  | none => return false

/-- Brings the edge groups in line, if the update asks for edge groups. -/
def edgeGroupPhase (v : Visiting) (u : Update) (id : EnvironmentId) : StoreM σ Bool :=
  match u.edgeGroups with
  | some groups => reconcileEdgeGroups v groups id
  | none => return false

/-- Writes the environment, if anything changed. -/
def writePhase (u : Update) (e : Environment) (o : Outcome) : StoreM σ Unit :=
  if o.changed then updateEnvironment (u.applyTo e) else return

theorem applyUpdate_eq (v : Visiting) (id : EnvironmentId) (u : Update) :
    (applyUpdate v id u : StoreM σ (Outcome × Environment)) = (do
      let e ← environment id
      let tags ← tagPhase v u e
      let edgeGroups ← edgeGroupPhase v u e.id
      writePhase u e (u.outcome e tags edgeGroups)
      return (u.outcome e tags edgeGroups, u.applyTo e)) := by
  unfold applyUpdate
  refine congrArg (environment id >>= ·) (funext fun e => ?_)
  have hwrite : ∀ (e : Environment) (o : Outcome),
      (if o.changed then updateEnvironment e >>= fun _ => pure (o, e) else pure (o, e) :
        StoreM σ (Outcome × Environment)) =
      (if o.changed then updateEnvironment e else return) >>= fun _ => pure (o, e) := by
    intro e o
    split
    · rfl
    · rfl
  unfold tagPhase edgeGroupPhase writePhase Update.outcome Update.applyTo
  -- Each field is there or not, and the same steps follow in all eight cases.
  cases GroupId.requested? u.group <;> cases u.tags <;> cases u.edgeGroups <;>
    simp only [Option.getD_none, Option.getD_some, hwrite] <;> rfl

/-! ## Section 3: What the phases maintain -/

section Maintains

variable {P : σ → Prop} {Q : RegistryError → Prop}

omit [RelationStore σ] in
theorem visitAll_maintains {change : UInt32 → StoreM σ Unit} (h : ∀ id, Maintains P Q (change id))
    (l : List UInt32) : Maintains P Q (visitAll change l) := by
  induction l with
  | nil => exact .pure ()
  | cons id rest ih => exact (h id).bind fun _ => ih

theorem tagPhase_maintains (h : ∀ t f, Maintains P Q (mutateTag t f)) (v : Visiting) (u : Update)
    (e : Environment) : Maintains P Q (tagPhase v u e) := by
  unfold tagPhase
  cases u.tags with
  | none => exact .pure false
  | some tags =>
    show Maintains P Q (reconcileTags v tags e.tagIds e.id)
    unfold reconcileTags
    cases delta (KeySet.ofList tags) (KeySet.ofList e.tagIds) with
    | none => exact .pure false
    | some d =>
      exact (visitAll_maintains (fun t => h t _) _).bind fun _ =>
        (visitAll_maintains (fun t => h t _) _).bind fun _ => .pure true

theorem edgeGroupPhase_maintains (hscan : Maintains P Q (edgeGroups : StoreM σ _))
    (h : ∀ g f, Maintains P Q (mutateEdgeGroup g f)) (v : Visiting) (u : Update)
    (id : EnvironmentId) : Maintains P Q (edgeGroupPhase v u id) := by
  unfold edgeGroupPhase
  cases u.edgeGroups with
  | none => exact .pure false
  | some groups =>
    have hlist : Maintains P Q (environmentEdgeGroups id : StoreM σ _) :=
      hscan.bind fun _ => .pure _
    refine hlist.bind fun current => ?_
    cases delta (KeySet.ofList groups) current with
    | none => exact .pure false
    | some d =>
      exact (visitAll_maintains (fun g => h g _) _).bind fun _ =>
        (visitAll_maintains (fun g => h g _) _).bind fun _ => .pure true

end Maintains

/-! ## Section 4: Telling those downstream -/

theorem onStore_apply {σ ρ α : Type} {m : StoreM σ α} {s s' : σ} {result : Except RegistryError α}
    (h : m s = (result, s')) (d : ρ) : onStore m (s, d) = (result, (s', d)) := by
  rw [onStore, h]

theorem onStore_ok {σ ρ α : Type} {m : StoreM σ α} {s s' : σ} {d d' : ρ} {a : α}
    (h : onStore m (s, d) = (.ok a, (s', d'))) : m s = (.ok a, s') ∧ d = d' := by
  rcases hm : m s with ⟨result, s₁⟩
  rw [onStore_apply hm] at h
  cases h
  exact ⟨rfl, rfl⟩

/-- An update that fails before it tells anyone leaves those downstream as they were. -/
theorem update_error {v : Visiting} {r : Refresher ρ} {id : EnvironmentId} {u : Update} {s s' : σ}
    {d : ρ} {e : RegistryError} (h : applyUpdate v id u s = (.error e, s')) :
    update v r id u (s, d) = (.error e, (s', d)) := StoreM.bind_error (onStore_apply h d)

/-- An update that changes nothing tells no one. -/
theorem update_unchanged {v : Visiting} {r : Refresher ρ} {id : EnvironmentId} {u : Update}
    {s s' : σ} {d : ρ} {o : Outcome} {e : Environment}
    (h : applyUpdate v id u s = (.ok (o, e), s')) (ho : o.changed = false) :
    update v r id u (s, d) = (.ok o, (s', d)) := by
  unfold update
  rw [StoreM.bind_ok (onStore_apply h d)]
  simp only [ho, Bool.false_eq_true, if_false]
  rfl

/-- An update that changes something tells those downstream once, and fails if they fail. -/
theorem update_changed {v : Visiting} {r : Refresher ρ} {id : EnvironmentId} {u : Update}
    {s s' : σ} {d : ρ} {o : Outcome} {e : Environment}
    (h : applyUpdate v id u s = (.ok (o, e), s')) (ho : o.changed = true) :
    update v r id u (s, d) = ((r e d).1.map fun _ => o, (s', (r e d).2)) := by
  unfold update
  rw [StoreM.bind_ok (onStore_apply h d)]
  simp only [ho, if_true]
  have htold : onDownstream (σ := σ) (r e) (s', d) = ((r e d).1, (s', (r e d).2)) := rfl
  rcases hr : (r e d).1 with err | ⟨⟩
  · rw [hr] at htold
    exact StoreM.bind_error htold
  · rw [hr] at htold
    rw [StoreM.bind_ok htold]
    rfl

/-- Telling those downstream does not change the store. -/
theorem update_store (v : Visiting) (r : Refresher ρ) (id : EnvironmentId) (u : Update) (s : σ)
    (d : ρ) : (update v r id u (s, d)).2.1 = (applyUpdate v id u s).2 := by
  rcases hrun : applyUpdate v id u s with ⟨err | ⟨o, after⟩, s'⟩
  · rw [update_error hrun]
  · cases ho : o.changed with
    | false => rw [update_unchanged hrun ho]
    | true => rw [update_changed hrun ho]

/-- If those downstream never fail, an update succeeds if it succeeds in the store. -/
theorem update_ok_iff {v : Visiting} {r : Refresher ρ} (hr : ∀ e d, (r e d).1 = .ok ())
    {id : EnvironmentId} {u : Update} {s s' : σ} {d : ρ} {o : Outcome} :
    (∃ d', update v r id u (s, d) = (.ok o, (s', d'))) ↔
      ∃ after, applyUpdate v id u s = (.ok (o, after), s') := by
  rcases hrun : applyUpdate v id u s with ⟨err | ⟨o₁, after⟩, s₁⟩
  · rw [update_error hrun]
    refine iff_of_false ?_ ?_
    · rintro ⟨_, h⟩
      cases h
    · rintro ⟨_, h⟩
      cases h
  · have hupdate : ∃ d', update v r id u (s, d) = (.ok o₁, (s₁, d')) := by
      cases ho : o₁.changed with
      | false => exact ⟨d, update_unchanged hrun ho⟩
      | true =>
        refine ⟨(r after d).2, (update_changed hrun ho).trans ?_⟩
        rw [hr]
        rfl
    obtain ⟨d₁, hupdate⟩ := hupdate
    rw [hupdate]
    constructor
    · rintro ⟨d', h⟩
      cases h
      exact ⟨after, rfl⟩
    · rintro ⟨after', h⟩
      cases h
      exact ⟨d₁, rfl⟩

/-! ## Section 5: Updates that only read -/

section Reads

variable {s s' : σ} {v : Visiting}

/-- Tags that do not differ are not touched. -/
theorem reconcileTags_unchanged {desired current : List TagId} {id : EnvironmentId}
    (h : reconcileTags v desired current id s = (.ok false, s')) : s' = s := by
  unfold reconcileTags at h
  cases hd : delta (KeySet.ofList desired) (KeySet.ofList current) with
  | none =>
    rw [hd] at h
    cases h
    rfl
  | some d =>
    rw [hd] at h
    obtain ⟨_, _, -, h⟩ := StoreM.bind_eq_ok.mp h
    obtain ⟨_, _, -, h⟩ := StoreM.bind_eq_ok.mp h
    cases h

theorem tagPhase_unchanged {u : Update} {e : Environment}
    (h : tagPhase v u e s = (.ok false, s')) : s' = s := by
  unfold tagPhase at h
  cases hu : u.tags with
  | none =>
    rw [hu] at h
    cases h
    rfl
  | some tags =>
    rw [hu] at h
    exact reconcileTags_unchanged h

variable {P : σ → Prop}
  (henv : ∀ id, Maintains P (fun _ => True) (environment id : StoreM σ _))
  (hscan : Maintains P (fun _ => True) (edgeGroups : StoreM σ _))

include hscan in
/-- Edge groups that do not differ are listed, and not touched. -/
theorem edgeGroupPhase_reads {u : Update} {id : EnvironmentId}
    (h : edgeGroupPhase v u id s = (.ok false, s')) (hs : P s) : P s' := by
  unfold edgeGroupPhase at h
  cases hu : u.edgeGroups with
  | none =>
    rw [hu] at h
    cases h
    exact hs
  | some desired =>
    rw [hu] at h
    obtain ⟨current, s₁, hread, h⟩ := StoreM.bind_eq_ok.mp h
    have hlist : Maintains P (fun _ => True) (environmentEdgeGroups id : StoreM σ _) :=
      hscan.bind fun _ => .pure _
    have hs₁ := (hlist s hs).1
    rw [hread] at hs₁
    cases hd : delta (KeySet.ofList desired) current with
    | none =>
      rw [hd] at h
      cases h
      exact hs₁
    | some d =>
      rw [hd] at h
      obtain ⟨_, _, -, h⟩ := StoreM.bind_eq_ok.mp h
      obtain ⟨_, _, -, h⟩ := StoreM.bind_eq_ok.mp h
      cases h

include henv hscan

/-- An update that changes nothing has only read. -/
theorem applyUpdate_reads {id : EnvironmentId} {u : Update} {o : Outcome} {e : Environment}
    (h : applyUpdate v id u s = (.ok (o, e), s')) (ho : o.changed = false) (hs : P s) : P s' := by
  rw [applyUpdate_eq] at h
  obtain ⟨before, s₁, hread, h⟩ := StoreM.bind_eq_ok.mp h
  obtain ⟨tags, s₂, htags, h⟩ := StoreM.bind_eq_ok.mp h
  obtain ⟨groups, s₃, hgroups, h⟩ := StoreM.bind_eq_ok.mp h
  obtain ⟨_, s₄, hwrite, h⟩ := StoreM.bind_eq_ok.mp h
  obtain ⟨hresult, hs'⟩ := Prod.mk.inj h
  cases hresult
  simp only [writePhase, ho, Bool.false_eq_true, if_false] at hwrite
  have hs₄ : s₃ = s₄ := (Prod.mk.inj hwrite).2
  -- Neither the tags nor the edge groups have differed.
  simp only [Update.outcome, Outcome.of, Bool.or_eq_false_iff] at ho
  obtain ⟨⟨-, rfl⟩, rfl⟩ := ho
  have hs₁ := (henv id s hs).1
  rw [hread, ← tagPhase_unchanged htags] at hs₁
  rw [← hs', ← hs₄]
  exact edgeGroupPhase_reads hscan hgroups hs₁

theorem update_reads {r : Refresher ρ} {d d' : ρ} {id : EnvironmentId} {u : Update} {o : Outcome}
    (h : update v r id u (s, d) = (.ok o, (s', d'))) (ho : o.changed = false)
    (hs : P s) : P s' := by
  rcases hrun : applyUpdate v id u s with ⟨err | ⟨o', e⟩, s₁⟩
  · rw [update_error hrun] at h
    cases h
  · cases ho' : o'.changed with
    | false =>
      rw [update_unchanged hrun ho'] at h
      cases h
      exact applyUpdate_reads henv hscan hrun ho' hs
    | true =>
      rw [update_changed hrun ho'] at h
      have hmap := (Prod.mk.inj h).1
      cases hanswer : (r e d).1 with
      | error err =>
        rw [hanswer] at hmap
        cases hmap
      | ok _ =>
        rw [hanswer] at hmap
        cases hmap
        rw [ho] at ho'
        cases ho'

end Reads

end EnvRegistry.Relations

import EnvRegistry.Proofs.Relations.Phases

/-! # Stores that simulate each other

    A map `φ` from the states of one store to the states of another commutes
    with an operation if it does not matter whether one runs the operation
    first or maps the state first (`Commutes`).  If it commutes with the
    operations of the stores (`StoreMap`), it commutes with every program
    written with them, and what is proved of the program on one store holds of
    it on the other.

    A map that hides part of a store cannot commute with all operations.  It
    still commutes with the phases of an update if it commutes with the few
    changes that these make. -/

namespace EnvRegistry

variable {σ τ α β γ : Type}

/-! ## Section 1: Maps that commute with operations -/

/-- Running `n` after mapping the state gives what running `m` and mapping the state gives. -/
def Commutes (φ : σ → τ) (m : StoreM σ α) (n : StoreM τ α) : Prop :=
  ∀ s, n (φ s) = ((m s).1, φ (m s).2)

/-- The same with `f` applied to the result, if there is one. -/
def Carries (φ : σ → τ) (f : α → γ) (m : StoreM σ α) (n : StoreM τ γ) : Prop :=
  ∀ s, n (φ s) = ((m s).1.map f, φ (m s).2)

theorem Carries.bind {φ : σ → τ} {f : α → γ} {m : StoreM σ α} {n : StoreM τ γ} {k : α → StoreM σ β}
    {l : γ → StoreM τ β} (h : Carries φ f m n) (hk : ∀ a, Commutes φ (k a) (l (f a))) :
    Commutes φ (m >>= k) (n >>= l) := by
  intro s
  rw [StoreM.bind_apply, StoreM.bind_apply, h s]
  rcases m s with ⟨_ | a, s'⟩
  · rfl
  · exact hk a s'

namespace Commutes

variable {φ : σ → τ}

theorem pure (a : α) : Commutes φ (pure a) (pure a) := fun _ => rfl

theorem carries {m : StoreM σ α} {n : StoreM τ α} (h : Commutes φ m n) : Carries φ id m n := by
  intro s
  rw [h s]
  cases (m s).1 with
  | error _ => rfl
  | ok _ => rfl

theorem bind {m : StoreM σ α} {n : StoreM τ α} {k : α → StoreM σ β} {l : α → StoreM τ β}
    (h : Commutes φ m n) (hk : ∀ a, Commutes φ (k a) (l a)) : Commutes φ (m >>= k) (n >>= l) :=
  h.carries.bind hk

/-- One map after the other. -/
theorem comp {υ : Type} {ψ : τ → υ} {m : StoreM σ α} {n : StoreM τ α} {o : StoreM υ α}
    (h : Commutes φ m n) (h' : Commutes ψ n o) : Commutes (ψ ∘ φ) m o := by
  intro s
  show o (ψ (φ s)) = _
  rw [h' (φ s), h s]
  rfl

theorem ite {c : Prop} [Decidable c] {m m' : StoreM σ α} {n n' : StoreM τ α}
    (h : Commutes φ m n) (h' : Commutes φ m' n') :
    Commutes φ (if c then m else m') (if c then n else n') := by
  split
  · exact h
  · exact h'

theorem visitAll {f : UInt32 → StoreM σ Unit} {g : UInt32 → StoreM τ Unit}
    (h : ∀ id, Commutes φ (f id) (g id)) (l : List UInt32) :
    Commutes φ (Relations.visitAll f l) (Relations.visitAll g l) := by
  induction l with
  | nil => exact .pure ()
  | cons id rest ih => exact (h id).bind fun _ => ih

/-! ## Section 2: The phases of an update -/

section Phases

open Relations

variable [RelationStore σ] [RelationStore τ] {id : EnvironmentId}

section Tags

variable
  (hleave : ∀ t, Commutes φ (RelationStore.mutateTag t (·.removeMember id))
    (RelationStore.mutateTag t (·.removeMember id)))
  (hjoin : ∀ t, Commutes φ (RelationStore.mutateTag t (·.addMember id))
    (RelationStore.mutateTag t (·.addMember id)))

include hleave hjoin

theorem reconcileTags (v : Visiting) (desired current : List TagId) :
    Commutes φ (reconcileTags v desired current id) (reconcileTags v desired current id) := by
  unfold Relations.reconcileTags
  cases delta (KeySet.ofList desired) (KeySet.ofList current) with
  | none => exact .pure false
  | some d =>
    exact (Commutes.visitAll hleave _).bind fun _ =>
      (Commutes.visitAll hjoin _).bind fun _ => .pure true

theorem tagPhase (v : Visiting) (u : Update) {e : Environment} (he : e.id = id) :
    Commutes φ (tagPhase v u e) (tagPhase v u e) := by
  unfold Relations.tagPhase
  rw [he]
  cases u.tags with
  | none => exact .pure false
  | some tags => exact Commutes.reconcileTags hleave hjoin v tags e.tagIds

end Tags

section EdgeGroups

variable
  (hlist : Commutes φ (environmentEdgeGroups id) (environmentEdgeGroups id))
  (hleave : ∀ g, Commutes φ (RelationStore.mutateEdgeGroup g (·.removeMember id))
    (RelationStore.mutateEdgeGroup g (·.removeMember id)))
  (hjoin : ∀ g, Commutes φ (RelationStore.mutateEdgeGroup g (·.addMember id))
    (RelationStore.mutateEdgeGroup g (·.addMember id)))

include hlist hleave hjoin

theorem reconcileEdgeGroups (v : Visiting) (desired : List EdgeGroupId) :
    Commutes φ (reconcileEdgeGroups v desired id) (reconcileEdgeGroups v desired id) := by
  refine hlist.bind fun current => ?_
  cases delta (KeySet.ofList desired) current with
  | none => exact .pure false
  | some d =>
    exact (Commutes.visitAll hleave _).bind fun _ =>
      (Commutes.visitAll hjoin _).bind fun _ => .pure true

theorem edgeGroupPhase (v : Visiting) (u : Update) :
    Commutes φ (edgeGroupPhase v u id) (edgeGroupPhase v u id) := by
  unfold Relations.edgeGroupPhase
  cases u.edgeGroups with
  | none => exact .pure false
  | some groups => exact Commutes.reconcileEdgeGroups hlist hleave hjoin v groups

end EdgeGroups

end Phases

end Commutes

/-! ## Section 3: Maps between stores -/

open RelationStore

/-- A map that commutes with every operation of two stores. -/
structure StoreMap [RelationStore σ] [RelationStore τ] (φ : σ → τ) : Prop where
  environment : ∀ id, Commutes φ (environment id) (environment id)
  updateEnvironment : ∀ e, Commutes φ (updateEnvironment e) (updateEnvironment e)
  tag : ∀ id, Commutes φ (tag id) (tag id)
  updateTag : ∀ t, Commutes φ (updateTag t) (updateTag t)
  edgeGroup : ∀ id, Commutes φ (edgeGroup id) (edgeGroup id)
  edgeGroups : Commutes φ edgeGroups edgeGroups
  updateEdgeGroup : ∀ g, Commutes φ (updateEdgeGroup g) (updateEdgeGroup g)
  createTag : ∀ name, Commutes φ (createTag name) (createTag name)
  createEdgeGroup : ∀ name, Commutes φ (createEdgeGroup name) (createEdgeGroup name)

namespace StoreMap

open Relations

variable [RelationStore σ] [RelationStore τ] {φ : σ → τ}

theorem comp {υ : Type} [RelationStore υ] {ψ : τ → υ} (h : StoreMap φ) (h' : StoreMap ψ) :
    StoreMap (ψ ∘ φ) where
  environment id := (h.environment id).comp (h'.environment id)
  updateEnvironment e := (h.updateEnvironment e).comp (h'.updateEnvironment e)
  tag id := (h.tag id).comp (h'.tag id)
  updateTag t := (h.updateTag t).comp (h'.updateTag t)
  edgeGroup id := (h.edgeGroup id).comp (h'.edgeGroup id)
  edgeGroups := h.edgeGroups.comp h'.edgeGroups
  updateEdgeGroup g := (h.updateEdgeGroup g).comp (h'.updateEdgeGroup g)
  createTag name := (h.createTag name).comp (h'.createTag name)
  createEdgeGroup name := (h.createEdgeGroup name).comp (h'.createEdgeGroup name)

theorem mutateTag (h : StoreMap φ) (id : TagId) (f : Tag → Tag) :
    Commutes φ (mutateTag id f) (mutateTag id f) :=
  (h.tag id).bind fun t => h.updateTag (f t)

theorem mutateEdgeGroup (h : StoreMap φ) (id : EdgeGroupId) (f : EdgeGroup → EdgeGroup) :
    Commutes φ (mutateEdgeGroup id f) (mutateEdgeGroup id f) :=
  (h.edgeGroup id).bind fun g => h.updateEdgeGroup (f g)

theorem reconcileTags (h : StoreMap φ) (v : Visiting) (desired current : List TagId)
    (id : EnvironmentId) :
    Commutes φ (reconcileTags v desired current id) (reconcileTags v desired current id) :=
  .reconcileTags (fun t => h.mutateTag t _) (fun t => h.mutateTag t _) v desired current

theorem environmentEdgeGroups (h : StoreMap φ) (id : EnvironmentId) :
    Commutes φ (environmentEdgeGroups id) (environmentEdgeGroups id) :=
  h.edgeGroups.bind fun _ => .pure _

theorem reconcileEdgeGroups (h : StoreMap φ) (v : Visiting) (desired : List EdgeGroupId)
    (id : EnvironmentId) :
    Commutes φ (reconcileEdgeGroups v desired id) (reconcileEdgeGroups v desired id) :=
  .reconcileEdgeGroups (h.environmentEdgeGroups id) (fun g => h.mutateEdgeGroup g _)
    (fun g => h.mutateEdgeGroup g _) v desired

theorem tagPhase (h : StoreMap φ) (v : Visiting) (u : Update) (e : Environment) :
    Commutes φ (tagPhase v u e) (tagPhase v u e) :=
  .tagPhase (fun t => h.mutateTag t _) (fun t => h.mutateTag t _) v u rfl

theorem edgeGroupPhase (h : StoreMap φ) (v : Visiting) (u : Update) (id : EnvironmentId) :
    Commutes φ (edgeGroupPhase v u id) (edgeGroupPhase v u id) :=
  .edgeGroupPhase (h.environmentEdgeGroups id) (fun g => h.mutateEdgeGroup g _)
    (fun g => h.mutateEdgeGroup g _) v u

/-- Applying an update commutes with every map between stores. -/
theorem applyUpdate (h : StoreMap φ) (v : Visiting) (id : EnvironmentId) (u : Update) :
    Commutes φ (applyUpdate v id u) (applyUpdate v id u) := by
  rw [applyUpdate_eq, applyUpdate_eq]
  exact (h.environment id).bind fun e =>
    (h.tagPhase v u e).bind fun _ =>
      (h.edgeGroupPhase v u e.id).bind fun _ =>
        (Commutes.ite (h.updateEnvironment _) (.pure ())).bind fun _ => .pure _

theorem createTags (h : StoreMap φ) (names : List String) :
    Commutes φ (createTags names) (createTags names) := by
  induction names with
  | nil => exact .pure []
  | cons name rest ih => exact (h.createTag name).bind fun _ => ih.bind fun _ => .pure _

theorem createEdgeGroups (h : StoreMap φ) (names : List String) :
    Commutes φ (createEdgeGroups names) (createEdgeGroups names) := by
  induction names with
  | nil => exact .pure []
  | cons name rest ih => exact (h.createEdgeGroup name).bind fun _ => ih.bind fun _ => .pure _

/-- Creating the records that a request names commutes with every map between stores. -/
theorem createNamed (h : StoreMap φ) (r : Request) : Commutes φ (createNamed r) (createNamed r) :=
  (h.createTags r.createTags).bind fun _ =>
    (h.createEdgeGroups r.createEdgeGroups).bind fun _ => .pure _

end StoreMap

/-! ## Section 4: Those downstream -/

section Downstream

open Relations

variable {ρ : Type} {φ : σ → τ}

/-- A map of stores, on stores and the state of those downstream. -/
def alongside (ρ : Type) (φ : σ → τ) : σ × ρ → τ × ρ := fun t => (φ t.1, t.2)

/-- An operation on the store alone. -/
theorem Commutes.onStore {m : StoreM σ α} {n : StoreM τ α} (h : Commutes φ m n) :
    Commutes (alongside ρ φ) (Relations.onStore m) (Relations.onStore n) := by
  rintro ⟨s, d⟩
  show ((n (φ s)).1, ((n (φ s)).2, d)) = _
  rw [h s]
  rfl

/-- A message to those downstream does not see the store. -/
theorem Commutes.onDownstream (m : StateM ρ (Except RegistryError Unit)) :
    Commutes (alongside ρ φ) (Relations.onDownstream m) (Relations.onDownstream m) := fun _ => rfl

namespace StoreMap

variable [RelationStore σ] [RelationStore τ]

theorem update (h : StoreMap φ) (v : Visiting) (r : Refresher ρ) (id : EnvironmentId) (u : Update) :
    Commutes (alongside ρ φ) (update v r id u) (update v r id u) := by
  refine (h.applyUpdate v id u).onStore.bind fun result => ?_
  obtain ⟨o, e⟩ := result
  exact .ite ((Commutes.onDownstream (r e)).bind fun _ => .pure o) (.pure o)

theorem assignOne (h : StoreMap φ) (v : Visiting) (r : Refresher ρ) (request : Request)
    (id : EnvironmentId) :
    Commutes (alongside ρ φ) (assignOne v r request id) (assignOne v r request id) :=
  (h.environment id).onStore.bind fun _ =>
    (h.environmentEdgeGroups id).onStore.bind fun _ => (h.update v r id _).bind fun _ => .pure _

theorem assignEach (h : StoreMap φ) (v : Nat → Visiting) (r : Refresher ρ) (request : Request)
    (ids : List EnvironmentId) :
    Commutes (alongside ρ φ) (assignEach v r request ids) (assignEach v r request ids) := by
  induction ids generalizing v with
  | nil => exact .pure []
  | cons id rest ih =>
    exact (h.assignOne (v 0) r request id).bind fun _ => (ih _).bind fun _ => .pure _

/-- Applying a request to many environments commutes with every map between stores. -/
theorem assign (h : StoreMap φ) (v : Nat → Visiting) (r : Refresher ρ) (ids : List EnvironmentId)
    (request : Request) :
    Commutes (alongside ρ φ) (assign v r ids request) (assign v r ids request) :=
  (h.createNamed request).onStore.bind fun _ => h.assignEach v r _ ids

end StoreMap

end Downstream

end EnvRegistry

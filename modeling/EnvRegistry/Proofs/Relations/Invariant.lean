import EnvRegistry.Proofs.Database.Agreement
import EnvRegistry.Proofs.Relations.Batch

/-! # Invariants of a store

    A property that reading, replacing and adding a record keep is kept by all
    that is done with them: by a mutation of any kind, by a reconciler, by an
    update and by a batch, wherever they stop (`Kept.operation`). -/

namespace EnvRegistry.Relations

open RelationStore

variable {σ ρ α : Type} [RelationStore σ] {P : σ → Prop}

/-- Every operation of the store keeps `P`, whether it succeeds or not. -/
structure Kept (P : σ → Prop) : Prop where
  environment : ∀ id, Maintains P (fun _ => True) (environment id)
  updateEnvironment : ∀ e, Maintains P (fun _ => True) (updateEnvironment e)
  tag : ∀ id, Maintains P (fun _ => True) (tag id)
  updateTag : ∀ t, Maintains P (fun _ => True) (updateTag t)
  edgeGroup : ∀ id, Maintains P (fun _ => True) (edgeGroup id)
  edgeGroups : Maintains P (fun _ => True) edgeGroups
  updateEdgeGroup : ∀ g, Maintains P (fun _ => True) (updateEdgeGroup g)
  createTag : ∀ name, Maintains P (fun _ => True) (createTag name)
  createEdgeGroup : ∀ name, Maintains P (fun _ => True) (createEdgeGroup name)

namespace Kept

variable (h : Kept P)

include h

theorem mutateTag (id : TagId) (f : Tag → Tag) :
    Maintains P (fun _ => True) (mutateTag id f) :=
  (h.tag id).bind fun t => h.updateTag (f t)

theorem mutateEdgeGroup (id : EdgeGroupId) (f : EdgeGroup → EdgeGroup) :
    Maintains P (fun _ => True) (mutateEdgeGroup id f) :=
  (h.edgeGroup id).bind fun g => h.updateEdgeGroup (f g)

theorem reconcileTags (v : Visiting) (desired current : List TagId) (id : EnvironmentId) :
    Maintains P (fun _ => True) (reconcileTags v desired current id) := by
  -- The phase of an update that asks for these tags only.
  let e : Environment := { id, name := "", tagIds := current }
  exact tagPhase_maintains h.mutateTag v { tags := some desired } e

theorem reconcileEdgeGroups (v : Visiting) (desired : List EdgeGroupId) (id : EnvironmentId) :
    Maintains P (fun _ => True) (reconcileEdgeGroups v desired id) :=
  edgeGroupPhase_maintains h.edgeGroups h.mutateEdgeGroup v { edgeGroups := some desired } id

theorem applyUpdate (v : Visiting) (id : EnvironmentId) (u : Update) :
    Maintains P (fun _ => True) (applyUpdate v id u) := by
  rw [applyUpdate_eq]
  exact (h.environment id).bind fun e => (tagPhase_maintains h.mutateTag v u e).bind fun _ =>
    (edgeGroupPhase_maintains h.edgeGroups h.mutateEdgeGroup v u e.id).bind fun _ =>
      (Maintains.ite (h.updateEnvironment _) (.pure ())).bind fun _ => .pure _

theorem createNamed (request : Request) : Maintains P (fun _ => True) (createNamed request) :=
  createNamed_maintains (fun name _ => h.createTag name) fun name _ => h.createEdgeGroup name

/-- Whatever is done with a store keeps what its operations keep. -/
theorem operation (a : Operation ρ α) :
    Maintains (fun t : σ × ρ => P t.1) (fun _ => True) a.run := by
  cases a with
  | environment id => exact onStore_maintains (h.environment id)
  | updateEnvironment e => exact onStore_maintains (h.updateEnvironment e)
  | tag id => exact onStore_maintains (h.tag id)
  | updateTag t => exact onStore_maintains (h.updateTag t)
  | edgeGroup id => exact onStore_maintains (h.edgeGroup id)
  | edgeGroups => exact onStore_maintains h.edgeGroups
  | updateEdgeGroup g => exact onStore_maintains (h.updateEdgeGroup g)
  | mutateTag id f => exact onStore_maintains (h.mutateTag id f)
  | mutateEdgeGroup id f => exact onStore_maintains (h.mutateEdgeGroup id f)
  | createTag name => exact onStore_maintains (h.createTag name)
  | createEdgeGroup name => exact onStore_maintains (h.createEdgeGroup name)
  | reconcileTags v desired current id =>
    exact onStore_maintains (h.reconcileTags v desired current id)
  | reconcileEdgeGroups v desired id =>
    exact onStore_maintains (h.reconcileEdgeGroups v desired id)
  | update v r id u => exact update_maintains (h.applyUpdate v id u)
  | createNamed request => exact onStore_maintains (h.createNamed request)
  | assign v r ids request =>
    exact (onStore_maintains (h.createNamed request)).bind fun resolved =>
      assignEach_maintains h.environment h.edgeGroups (fun v id _ u => h.applyUpdate v id u) v r
        resolved

end Kept

end EnvRegistry.Relations

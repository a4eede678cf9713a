import EnvRegistry.Relations.Basic
import EnvRegistry.Relations.Visiting
import EnvRegistry.Store.Basic

/-! # Bringing one relation in line

    `delta` compares the relation as it is with the relation as it is to be.  The
    two reconcilers write what differs, first all removals and then all additions,
    and stop at the first write that fails. -/

namespace EnvRegistry.Relations

open RelationStore

/-- What has to go and what has to come. -/
structure Delta (κ : Type) [Ord κ] where
  toRemove : KeySet κ
  toAdd : KeySet κ

/-- The difference between two sets, unless they have the same members. -/
def delta {κ : Type} [Ord κ] [Std.TransOrd κ] [Std.LawfulEqOrd κ] [DecidableEq κ]
    (desired current : KeySet κ) : Option (Delta κ) :=
  if (KeySet.union [desired, current]).size ≤ (KeySet.intersection [desired, current]).size then
    none
  else
    some ⟨KeySet.difference [current, desired], KeySet.difference [desired, current]⟩

/-- Changes one record after the other. -/
def visitAll {σ : Type} (change : UInt32 → StoreM σ Unit) : List UInt32 → StoreM σ Unit
  | [] => return
  | id :: rest => do
    change id
    visitAll change rest

variable {σ : Type} [RelationStore σ]

/-- Makes the tags that list an environment the desired ones, given those it wears now.  Says
whether anything differed. -/
def reconcileTags (v : Visiting) (desired current : List TagId) (id : EnvironmentId) :
    StoreM σ Bool := do
  match delta (KeySet.ofList desired) (KeySet.ofList current) with
  | none => return false
  | some d =>
    visitAll (mutateTag · (·.removeMember id)) (v.tagsRemoved.order d.toRemove.toList)
    visitAll (mutateTag · (·.addMember id)) (v.tagsAdded.order d.toAdd.toList)
    return true

/-- The edge groups that an environment is in. -/
def environmentEdgeGroups (id : EnvironmentId) : StoreM σ (KeySet EdgeGroupId) := do
  return memberships (← edgeGroups) id

/-- Makes the edge groups that an environment is in the desired ones.  Says whether anything
differed. -/
def reconcileEdgeGroups (v : Visiting) (desired : List EdgeGroupId) (id : EnvironmentId) :
    StoreM σ Bool := do
  let current ← environmentEdgeGroups id
  match delta (KeySet.ofList desired) current with
  | none => return false
  | some d =>
    visitAll (mutateEdgeGroup · (·.removeMember id)) (v.edgeGroupsRemoved.order d.toRemove.toList)
    visitAll (mutateEdgeGroup · (·.addMember id)) (v.edgeGroupsAdded.order d.toAdd.toList)
    return true

end EnvRegistry.Relations

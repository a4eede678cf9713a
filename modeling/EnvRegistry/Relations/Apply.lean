import EnvRegistry.Refresh
import EnvRegistry.Relations.Reconcile

/-! # Applying updates and requests

    `applyUpdate` writes what an update changes; `update` also tells those downstream
    if anything changed.  `assign` creates the records that a request names, and then
    plans and applies the request for one environment after the other.

    All of them stop at the first failure. -/

namespace EnvRegistry.Relations

open RelationStore

/-- An operation on a store and on the state of those downstream. -/
abbrev RunM (σ ρ : Type) := ExceptT RegistryError (StateM (σ × ρ))

/-- An operation on the store alone. -/
def onStore {σ ρ α : Type} (m : StoreM σ α) : RunM σ ρ α := fun (s, r) =>
  let (a, s) := m s
  (a, (s, r))

/-- A message to those downstream. -/
def onDownstream {σ ρ : Type} (m : StateM ρ (Except RegistryError Unit)) : RunM σ ρ Unit :=
  fun (s, r) =>
    let (a, r) := m r
    (a, (s, r))

variable {σ ρ : Type} [RelationStore σ]

/-! ## One environment -/

/-- Writes what an update changes in the relations of an environment, the group first and then the
tags and the edge groups.  The environment itself is written last, and only if anything changed. -/
def applyUpdate (v : Visiting) (id : EnvironmentId) (u : Update) :
    StoreM σ (Outcome × Environment) := do
  let before ← environment id
  let grouped := match GroupId.requested? u.group with
    | some group => { before with groupId := group }
    | none => before
  let (tagged, tagsChanged) ← match u.tags with
    | some tags => do
      let changed ← reconcileTags v tags grouped.tagIds grouped.id
      pure ({ grouped with tagIds := tags }, changed)
    | none => pure (grouped, false)
  let edgeGroupsChanged ← match u.edgeGroups with
    | some groups => reconcileEdgeGroups v groups tagged.id
    | none => pure false
  let groupChanged := decide (before.groupId ≠ grouped.groupId)
  let outcome := Outcome.of groupChanged tagsChanged edgeGroupsChanged
  if outcome.changed then updateEnvironment tagged
  return (outcome, tagged)

/-- Applies an update, and tells those downstream if it changed anything. -/
def update (v : Visiting) (r : Refresher ρ) (id : EnvironmentId) (u : Update) :
    RunM σ ρ Outcome := do
  let (outcome, changed) ← onStore (applyUpdate v id u)
  if outcome.changed then onDownstream (r changed)
  return outcome

/-! ## Many environments -/

/-- Creates tags, and gives back their ids. -/
def createTags : List String → StoreM σ (List TagId)
  | [] => return []
  | name :: rest => do
    let tag ← createTag name
    return tag.id :: (← createTags rest)

/-- Creates edge groups, and gives back their ids. -/
def createEdgeGroups : List String → StoreM σ (List EdgeGroupId)
  | [] => return []
  | name :: rest => do
    let group ← createEdgeGroup name
    return group.id :: (← createEdgeGroups rest)

/-- Creates the records that a request names, and gives back the request with their ids in place
of the names. -/
def createNamed (r : Request) : StoreM σ Request := do
  let tags ← createTags r.createTags
  let groups ← createEdgeGroups r.createEdgeGroups
  return { r with
    tags := r.tags ++ tags
    edgeGroups := r.edgeGroups ++ groups
    createTags := []
    createEdgeGroups := [] }

/-- Plans and applies a request without names for one environment. -/
def assignOne (v : Visiting) (r : Refresher ρ) (request : Request) (id : EnvironmentId) :
    RunM σ ρ Assigned := do
  let e ← onStore (environment id)
  let groups ← onStore (environmentEdgeGroups id)
  return ⟨id, ← update v r id (request.plan e groups)⟩

/-- Plans and applies a request without names for one environment after the other; `v n` is the
order in which the `n`th of them visits what it changes. -/
def assignEach (v : Nat → Visiting) (r : Refresher ρ) (request : Request) :
    List EnvironmentId → RunM σ ρ (List Assigned)
  | [] => return []
  | id :: rest => do
    let first ← assignOne (v 0) r request id
    return first :: (← assignEach (fun n => v (n + 1)) r request rest)

/-- Creates the records that a request names, and applies the request to each environment. -/
def assign (v : Nat → Visiting) (r : Refresher ρ) (ids : List EnvironmentId) (request : Request) :
    RunM σ ρ (List Assigned) := do
  let resolved ← onStore (createNamed request)
  assignEach v r resolved ids

end EnvRegistry.Relations

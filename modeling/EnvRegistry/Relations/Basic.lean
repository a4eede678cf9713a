import EnvRegistry.Record.Basic

/-! # Changes of relations

    An `Update` says what one environment's relations are to be, an `Outcome` what
    it changed.  A field of an update that is absent leaves that relation alone, and
    an empty list clears it.  A `Request` asks for relations of many environments at
    once, and `Request.plan` says what update this comes to for one of them. -/

namespace EnvRegistry.Relations

/-- What the relations of one environment are to be. -/
structure Update where
  group : Option GroupId := none
  tags : Option (List TagId) := none
  edgeGroups : Option (List EdgeGroupId) := none
  deriving DecidableEq, Inhabited

/-- Whether the update leaves every relation alone. -/
def Update.isEmpty (u : Update) : Bool :=
  (GroupId.requested? u.group).isNone && u.tags.isNone && u.edgeGroups.isNone

/-- What an update changed. -/
structure Outcome where
  changed : Bool := false
  groupChanged : Bool := false
  tagsChanged : Bool := false
  edgeGroupsChanged : Bool := false
  deriving DecidableEq, Inhabited

/-- The outcome of changes to the three relations. -/
def Outcome.of (group tags edgeGroups : Bool) : Outcome :=
  ⟨group || tags || edgeGroups, group, tags, edgeGroups⟩

/-- What the relations of many environments are to be.  A relation that an environment has already
stays as it is, unless the request overrides it. -/
structure Request where
  tags : List TagId := []
  edgeGroups : List EdgeGroupId := []
  /-- The names of tags to create and assign. -/
  createTags : List String := []
  /-- The names of edge groups to create and assign. -/
  createEdgeGroups : List String := []
  group : Option GroupId := none
  overrideTags : Bool := false
  overrideEdgeGroups : Bool := false
  overrideGroup : Bool := false
  deriving DecidableEq, Inhabited

/-- What a request changed in one environment. -/
structure Assigned where
  environmentId : EnvironmentId
  outcome : Outcome
  deriving DecidableEq, Inhabited

/-! ## Planning -/

/-- The edge groups among `groups` that an environment is in. -/
def memberships (groups : List EdgeGroup) (id : EnvironmentId) : KeySet EdgeGroupId :=
  KeySet.ofList ((groups.filter (·.hasMember id)).map (·.id))

/-- What a request comes to for one environment, which is in the given edge groups. -/
def Request.plan (r : Request) (e : Environment) (edgeGroups : KeySet EdgeGroupId) : Update where
  tags := if e.tagIds.isEmpty || r.overrideTags then some r.tags else none
  edgeGroups := if edgeGroups.isEmpty || r.overrideEdgeGroups then some r.edgeGroups else none
  group := (GroupId.requested? r.group).filter fun _ =>
    e.groupId = GroupId.unassigned || r.overrideGroup

end EnvRegistry.Relations

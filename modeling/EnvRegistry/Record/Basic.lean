import EnvRegistry.KeySet

/-! # Records

    The registry keeps three kinds of record.  An environment lies in one group and
    wears tags.  A tag lists the environments that wear it, so that this relation is
    held from both sides.  An edge group lists the environments in it, and this
    relation is held nowhere else. -/

namespace EnvRegistry

/-- The id of an environment. -/
abbrev EnvironmentId := UInt32

/-- The id of a tag. -/
abbrev TagId := UInt32

/-- The id of an edge group. -/
abbrev EdgeGroupId := UInt32

/-- The number of the group that an environment lies in. -/
abbrev GroupId := UInt32

/-- No group at all: never held by a record, and in a request the wish to leave the group alone. -/
def GroupId.unset : GroupId := 0

/-- The group of every environment that has not been placed yet. -/
def GroupId.unassigned : GroupId := 1

/-- The group that a request asks for, if it asks for one. -/
def GroupId.requested? (group : Option GroupId) : Option GroupId :=
  group.filter (· ≠ GroupId.unset)

/-- An environment. -/
structure Environment where
  id : EnvironmentId
  name : String
  groupId : GroupId := GroupId.unassigned
  /-- The tags it wears; their order carries no meaning. -/
  tagIds : List TagId := []
  deriving DecidableEq, Inhabited

/-- A tag. -/
structure Tag where
  id : TagId
  name : String
  /-- The environments that wear it. -/
  members : KeySet EnvironmentId := .empty
  deriving DecidableEq, Inhabited

/-- An edge group. -/
structure EdgeGroup where
  id : EdgeGroupId
  name : String
  /-- The environments in it, in the order in which they came. -/
  members : List EnvironmentId := []
  deriving DecidableEq, Inhabited

/-! ## Members -/

/-- The tag with an environment among its members. -/
def Tag.addMember (t : Tag) (id : EnvironmentId) : Tag := { t with members := t.members.insert id }

/-- The tag without an environment among its members. -/
def Tag.removeMember (t : Tag) (id : EnvironmentId) : Tag :=
  { t with members := t.members.erase id }

/-- Whether an environment is in the edge group. -/
def EdgeGroup.hasMember (g : EdgeGroup) (id : EnvironmentId) : Bool := g.members.contains id

/-- The edge group with an environment as its newest member. -/
def EdgeGroup.addMember (g : EdgeGroup) (id : EnvironmentId) : EdgeGroup :=
  { g with members := g.members ++ [id] }

/-- The edge group without the first mention of an environment. -/
def EdgeGroup.removeMember (g : EdgeGroup) (id : EnvironmentId) : EdgeGroup :=
  { g with members := g.members.erase id }

end EnvRegistry

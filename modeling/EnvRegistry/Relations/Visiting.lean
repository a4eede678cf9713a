import EnvRegistry.Record.Basic

/-! # The order in which changes are made

    The records that leave or join a relation form a set, and no order among them is
    better than another.  `Visiting` holds a choice for each of the four sets that an
    update goes through, and `Visiting.ascending` the choice that the program makes. -/

namespace EnvRegistry.Relations

/-- A choice of the order in which the members of a set are visited. -/
structure Arrangement where
  order : List UInt32 → List UInt32
  perm : ∀ l, (order l).Perm l

/-- Members are visited in the order in which they come. -/
def Arrangement.asGiven : Arrangement := ⟨id, fun _ => .refl _⟩

instance : Inhabited Arrangement := ⟨.asGiven⟩

/-- The order in which an update visits the records it changes. -/
structure Visiting where
  tagsRemoved : Arrangement := .asGiven
  tagsAdded : Arrangement := .asGiven
  edgeGroupsRemoved : Arrangement := .asGiven
  edgeGroupsAdded : Arrangement := .asGiven
  deriving Inhabited

/-- Every set is visited by ascending id. -/
def Visiting.ascending : Visiting := {}

end EnvRegistry.Relations

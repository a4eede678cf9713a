import EnvRegistry.Record.Codec
import EnvRegistry.Relations.Basic

/-! # Updates and requests as JSON

    An absent field of an update is left out.  A request writes all its fields but
    empty lists of names, and all of them may be left out when it is read. -/

namespace EnvRegistry.Relations

open Json (RecordField Origin selectFields)

/-- A list of ids. -/
def idList : Json.Decoder (List UInt32) := Json.listOf Json.word

namespace Update

/-- The field of the group. -/
def groupField : RecordField (Option UInt32) :=
  { name := "group", decode := Json.optional Json.word, default? := some none }

/-- The field of the tags. -/
def tagsField : RecordField (Option (List UInt32)) :=
  { name := "tags", decode := Json.optional idList, default? := some none }

/-- The field of the edge groups. -/
def edgeGroupsField : RecordField (Option (List UInt32)) :=
  { name := "edgeGroups", decode := Json.optional idList, default? := some none }

/-- Reads an update. -/
def decoder (o : Origin) : Json.Decoder Update := fun j => do
  let found ← selectFields o "RelationsUpdate"
    [groupField.slot, tagsField.slot, edgeGroupsField.slot] j
  return {
    group := ← groupField.from found
    tags := ← tagsField.from found
    edgeGroups := ← edgeGroupsField.from found }

/-- An update as JSON. -/
def toJson (u : Update) : Json := .record (
  (u.group.map fun g => ("group", Json.nat g.toNat)).toList ++
  (u.tags.map fun l => ("tags", Json.ids l)).toList ++
  (u.edgeGroups.map fun l => ("edgeGroups", Json.ids l)).toList)

end Update

namespace Outcome

/-- A field that holds a truth value. -/
def flagField (name : String) : RecordField Bool := { name, decode := Json.flag }

/-- The names of the fields, in the order of their declaration. -/
def fieldNames : List String :=
  ["changed", "group_changed", "tags_changed", "edge_groups_changed"]

/-- Takes an outcome out of the values of its fields. -/
def ofSelection (found : Json.Selection) : Except Json.DecodeError Outcome := do
  return {
    changed := ← (flagField "changed").from found
    groupChanged := ← (flagField "group_changed").from found
    tagsChanged := ← (flagField "tags_changed").from found
    edgeGroupsChanged := ← (flagField "edge_groups_changed").from found }

/-- Reads an outcome. -/
def decoder (o : Origin) : Json.Decoder Outcome := fun j => do
  ofSelection (← selectFields o "UpdateOutcome" (fieldNames.map fun n => (flagField n).slot) j)

/-- The members of an outcome as JSON. -/
def members (o : Outcome) : List (String × Json) := [
  ("changed", .bool o.changed),
  ("group_changed", .bool o.groupChanged),
  ("tags_changed", .bool o.tagsChanged),
  ("edge_groups_changed", .bool o.edgeGroupsChanged)]

/-- An outcome as JSON. -/
def toJson (o : Outcome) : Json := .record o.members

end Outcome

namespace Request

/-- The field of the tags. -/
def tagsField : RecordField (List UInt32) :=
  { name := "tags", decode := idList, default? := some [] }

/-- The field of the edge groups. -/
def edgeGroupsField : RecordField (List UInt32) :=
  { name := "edgeGroups", decode := idList, default? := some [] }

/-- The field of the names of new tags. -/
def createTagsField : RecordField (List String) :=
  { name := "createTags", decode := Json.listOf Json.text, default? := some [] }

/-- The field of the names of new edge groups. -/
def createEdgeGroupsField : RecordField (List String) :=
  { name := "createEdgeGroups", decode := Json.listOf Json.text, default? := some [] }

/-- The field of the group. -/
def groupField : RecordField (Option UInt32) :=
  { name := "group", decode := Json.optional Json.word, default? := some none }

/-- A field that says whether a relation is overridden. -/
def overrideField (name : String) : RecordField Bool :=
  { name, decode := Json.flag, default? := some false }

/-- Reads a request. -/
def decoder (o : Origin) : Json.Decoder Request := fun j => do
  let found ← selectFields o "AssignRequest"
    [tagsField.slot, edgeGroupsField.slot, createTagsField.slot, createEdgeGroupsField.slot,
      groupField.slot, (overrideField "overrideTags").slot,
      (overrideField "overrideEdgeGroups").slot, (overrideField "overrideGroup").slot] j
  return {
    tags := ← tagsField.from found
    edgeGroups := ← edgeGroupsField.from found
    createTags := ← createTagsField.from found
    createEdgeGroups := ← createEdgeGroupsField.from found
    group := ← groupField.from found
    overrideTags := ← (overrideField "overrideTags").from found
    overrideEdgeGroups := ← (overrideField "overrideEdgeGroups").from found
    overrideGroup := ← (overrideField "overrideGroup").from found }

/-- A list of names as a member, which is left out if there are none. -/
def namesMember (name : String) (names : List String) : List (String × Json) :=
  if names.isEmpty then [] else [(name, .list (names.map Json.string))]

/-- A request as JSON. -/
def toJson (r : Request) : Json := .record (
  [("tags", .ids r.tags), ("edgeGroups", .ids r.edgeGroups)] ++
  namesMember "createTags" r.createTags ++
  namesMember "createEdgeGroups" r.createEdgeGroups ++
  [("group", match r.group with | some g => .nat g.toNat | none => .null),
    ("overrideTags", .bool r.overrideTags),
    ("overrideEdgeGroups", .bool r.overrideEdgeGroups),
    ("overrideGroup", .bool r.overrideGroup)])

end Request

namespace Assigned

/-- How deep the values of members that are kept may nest. -/
def deepest : Nat := 126

mutual

/-- The first fault met when a value is read in full, however it is used later. -/
def keptFault : (deepest : Nat) → Json → Option Json.Fault
  | _, .null | _, .bool _ | _, .string _ => none
  | _, .number n => if n.toInt?.isNone && n.toFloat?.isNone then some .numberOutOfRange else none
  | _, .unreadable wanted _ => some wanted
  | 0, .array _ _ | 0, .object _ _ => some .nestingTooDeep
  | d + 1, .array items tail => (keptFaultItems d items).or (Json.tailFault tail)
  | d + 1, .object members tail => (keptFaultMembers d members).or (Json.tailFault tail)
  | _, .broken f => some f

/-- The first fault met in a list of values. -/
def keptFaultItems (d : Nat) : List Json → Option Json.Fault
  | [] => none
  | j :: rest => (keptFault d j).or (keptFaultItems d rest)

/-- The first fault met in a list of members. -/
def keptFaultMembers (d : Nat) : List (Except Json.Fault String × Json) → Option Json.Fault
  | [] => none
  | (.error f, _) :: _ => some f
  | (.ok _, j) :: rest => (keptFault d j).or (keptFaultMembers d rest)

end

/-- Goes through the members in reading order: the id is decoded at once, all others are kept. -/
def selectMembers (id : Option UInt32) (kept : List (String × Json)) :
    List (Except Json.Fault String × Json) →
    Except Json.DecodeError (Option UInt32 × List (String × Json))
  | [] => .ok (id, kept.reverse)
  | (name, value) :: rest => do
    let name ← name.mapError Json.DecodeError.fault
    if name = "environment_id" then
      if id.isSome then throw (.duplicateField name)
      selectMembers (some (← Json.word value)) kept rest
    else
      match keptFault deepest value with
      | some f => throw (.fault f)
      | none => selectMembers id ((name, value) :: kept) rest

/-- The outcome among the members that were kept. -/
def outcomeOf (found : Json.Selection) : List (String × Json) → Except Json.DecodeError Outcome
  | [] => Outcome.ofSelection found
  | (name, value) :: rest => do
    if name ∈ Outcome.fieldNames then
      if (found.lookup name).isSome then throw (.duplicateField name)
      (Outcome.flagField name).slot.check value
      outcomeOf ((name, value) :: found) rest
    else outcomeOf found rest

/-- Reads what was assigned: one object with the id and the outcome at the same level. -/
def decoder : Json.Decoder Assigned
  | .object members tail => do
    let (id, kept) ← selectMembers none [] members
    Json.endOf tail
    match id with
    | none => throw (.missingField "environment_id")
    | some environmentId => return { environmentId, outcome := ← outcomeOf [] kept }
  | j => Json.mismatch (.record "AssignResult") j

/-- What was assigned as JSON. -/
def toJson (a : Assigned) : Json :=
  .record (("environment_id", .nat a.environmentId.toNat) :: a.outcome.members)

end Assigned

end EnvRegistry.Relations

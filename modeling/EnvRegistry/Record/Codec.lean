import EnvRegistry.Json.Decoder
import EnvRegistry.Json.Printer
import EnvRegistry.Record.Basic

/-! # Records as JSON

    A record is written as an object with its fields in the order of their
    declaration.  The relations of a record may be left out when it is read. -/

namespace EnvRegistry

open Json (RecordField Origin selectFields)

namespace Environment

/-- The field of the id. -/
def idField : RecordField UInt32 := { name := "id", decode := Json.word }

/-- The field of the name. -/
def nameField : RecordField String := { name := "name", decode := Json.text }

/-- The field of the group. -/
def groupField : RecordField UInt32 := { name := "group_id", decode := Json.word }

/-- The field of the tags. -/
def tagsField : RecordField (List UInt32) :=
  { name := "tag_ids", decode := Json.listOf Json.word, default? := some [] }

/-- Reads an environment. -/
def decoder (o : Origin) : Json.Decoder Environment := fun j => do
  let found ← selectFields o "Environment"
    [idField.slot, nameField.slot, groupField.slot, tagsField.slot] j
  return {
    id := ← idField.from found
    name := ← nameField.from found
    groupId := ← groupField.from found
    tagIds := ← tagsField.from found }

/-- An environment as JSON. -/
def toJson (e : Environment) : Json := .record [
  ("id", .nat e.id.toNat),
  ("name", .string e.name),
  ("group_id", .nat e.groupId.toNat),
  ("tag_ids", .ids e.tagIds)]

end Environment

namespace Tag

/-- The field of the id. -/
def idField : RecordField UInt32 := { name := "id", decode := Json.word }

/-- The field of the name. -/
def nameField : RecordField String := { name := "name", decode := Json.text }

/-- The field of the members. -/
def membersField : RecordField (KeySet UInt32) :=
  { name := "endpoints", decode := Json.setOf Json.word, default? := some .empty }

/-- Reads a tag. -/
def decoder (o : Origin) : Json.Decoder Tag := fun j => do
  let found ← selectFields o "Tag" [idField.slot, nameField.slot, membersField.slot] j
  return {
    id := ← idField.from found
    name := ← nameField.from found
    members := ← membersField.from found }

/-- A tag as JSON. -/
def toJson (t : Tag) : Json := .record [
  ("id", .nat t.id.toNat),
  ("name", .string t.name),
  ("endpoints", .ids t.members.toList)]

end Tag

namespace EdgeGroup

/-- The field of the id. -/
def idField : RecordField UInt32 := { name := "id", decode := Json.word }

/-- The field of the name. -/
def nameField : RecordField String := { name := "name", decode := Json.text }

/-- The field of the members. -/
def membersField : RecordField (List UInt32) :=
  { name := "endpoints", decode := Json.listOf Json.word, default? := some [] }

/-- Reads an edge group. -/
def decoder (o : Origin) : Json.Decoder EdgeGroup := fun j => do
  let found ← selectFields o "EdgeGroup" [idField.slot, nameField.slot, membersField.slot] j
  return {
    id := ← idField.from found
    name := ← nameField.from found
    members := ← membersField.from found }

/-- An edge group as JSON. -/
def toJson (g : EdgeGroup) : Json := .record [
  ("id", .nat g.id.toNat),
  ("name", .string g.name),
  ("endpoints", .ids g.members)]

end EdgeGroup

end EnvRegistry
